import Mathlib.Data.List.Infix
import VpnUi.Address.Text
import VpnUi.Radius.Service

namespace VpnUi.Radius

open Foundation Panel Address

/-! The teardown of the sessions of a set of e-mails, which looks for their ppp
interfaces in the listing of `ip -o addr show`. -/

/-- The words of a text: `strings.Fields`, with the word read so far. -/
def fieldsFrom (word : List Char) : List Char → List (List Char)
  | [] => if word = [] then [] else [word]
  | letter :: rest =>
      if isSpace letter then
        if word = [] then fieldsFrom [] rest else word :: fieldsFrom [] rest
      else fieldsFrom (word ++ [letter]) rest

def fields (text : List Char) : List (List Char) := fieldsFrom [] text

/-- A word without a slash, such as an address. -/
def AddressWord (word : List Char) : Prop :=
  ∀ letter ∈ word, isSpace letter = false ∧ letter ≠ '/'

instance (word : List Char) : Decidable (AddressWord word) :=
  List.decidableBAll (fun letter => isSpace letter = false ∧ letter ≠ '/') word

/-- The kernel allows neither white space nor a slash or a colon. -/
structure InterfaceName where
  letters : List Char
  nonempty : letters ≠ []
  word : AddressWord letters
  colonless : ':' ∉ letters

inductive AddressFamily
  | inet
  | inet6
  deriving DecidableEq

def AddressFamily.text : AddressFamily → List Char
  | inet => "inet".toList
  | inet6 => "inet6".toList

/-- A line of the listing; the tail has the scope and the lifetimes. -/
structure AddrLine where
  index : Nat
  iface : InterfaceName
  family : AddressFamily
  localAddress : List Char
  peer : Option (List Char)
  prefixLength : Nat
  tail : List Char
  localWord : AddressWord localAddress
  peerWord : ∀ address ∈ peer, AddressWord address
  tailPlain : '/' ∉ tail ∧ '\n' ∉ tail

namespace AddrLine

def peerText : Option (List Char) → List Char
  | none => []
  | some address => " peer ".toList ++ address

def text (line : AddrLine) : List Char :=
  Nat.toDigits 10 line.index ++ ": ".toList ++ line.iface.letters ++
    "    ".toList ++ line.family.text ++ " ".toList ++ line.localAddress ++
    peerText line.peer ++ "/".toList ++ Nat.toDigits 10 line.prefixLength ++
    " ".toList ++ line.tail

end AddrLine

/-- What the teardown finds on the host: the listing, the pid files of pppd,
and the /24s of the SSTP inbounds. -/
structure TeardownHost where
  listing : List AddrLine
  pidFile : List Char → Option (List Char)
  sstpSubnets : List (Int × List Subnet)

/-- The output of `ip -o addr show`. -/
def TeardownHost.addrShow (host : TeardownHost) : List Char :=
  (host.listing.map fun line => line.text ++ ['\n']).flatten

inductive TeardownCommand
  /-- "kill pid" of the pppd of an interface. -/
  | kill (iface pid : List Char)
  /-- "ip link delete". -/
  | linkDelete (iface : List Char)
  /-- `KillClientIP` of SSTP. -/
  | accelTerminate (inboundId : Int) (ip : Ipv4)
  deriving DecidableEq

def pppPrefix : List Char := "ppp".toList

/-- The process id in the pid file of an interface. -/
def readPid (host : TeardownHost) (iface : List Char) : Option (List Char) :=
  ((host.pidFile iface).map trimSpace).filter (· ≠ [])

/-- A turn of the loop of `killPppdByIP`. -/
def pppdKill (host : TeardownHost) (ip line : List Char) :
    Option TeardownCommand :=
  if ip <:+: line then
    match fields line with
    | _ :: iface :: _ =>
        if pppPrefix <+: iface then (readPid host iface).map (.kill iface)
        else none
    | _ => none
  else none

/-- Every ppp interface with the address somewhere in its line. -/
def killPppdByIP (host : TeardownHost) (ip : List Char) :
    List TeardownCommand :=
  (host.addrShow.splitOn '\n').filterMap (pppdKill host ip)

def trimColon (word : List Char) : List Char :=
  if word.getLast? = some ':' then word.dropLast else word

/-- A turn of the loop of `killPPPByIP`. -/
def pppLinkDelete (ip line : List Char) : Option TeardownCommand :=
  if "peer ".toList ++ ip ++ "/".toList <:+: line then
    match fields line with
    | _ :: field :: _ =>
        if pppPrefix <+: trimColon field then
          some (.linkDelete (trimColon field))
        else none
    | _ => none
  else none

/-- The first ppp interface with this peer address. -/
def killPPPByIP (host : TeardownHost) (ip : List Char) :
    List TeardownCommand :=
  ((host.addrShow.splitOn '\n').findSome? (pppLinkDelete ip)).toList

def sstpInboundForIP (host : TeardownHost) (ip : Ipv4) : Option Int :=
  (host.sstpSubnets.find? fun inbound => ip.subnet ∈ inbound.2).map Prod.fst

/-- The commands for one session of the set. -/
def killSession (host : TeardownHost) (session : RadiusSession) :
    List TeardownCommand :=
  match session.protocol with
  | .openconnect => []
  | .sstp =>
      match sstpInboundForIP host session.ip with
      | none => []
      | some inboundId => [.accelTerminate inboundId session.ip]
  | _ =>
      killPppdByIP host session.ip.text.toList ++
        killPPPByIP host session.ip.text.toList

/-- The sessions of the map, in some order. -/
def sessionsOf (sessions : KeyMap String RadiusSession) :
    List RadiusSession :=
  sessions.entries.map Sigma.snd

def killSessionsByEmail (host : TeardownHost)
    (sessions : KeyMap String RadiusSession) (emails : List String) :
    List TeardownCommand :=
  let chosen := (sessionsOf sessions).filter (·.email ∈ emails)
  (chosen.filter (·.protocol ≠ .sstp)).flatMap (killSession host) ++
    (chosen.filter (·.protocol = .sstp)).flatMap (killSession host)

/-- The interface a command acts on. -/
def TeardownCommand.iface? : TeardownCommand → Option (List Char)
  | kill iface _ => some iface
  | linkDelete iface => some iface
  | accelTerminate _ _ => none

/-- The peer address of the interface is that of an L2TP or PPTP session of the
set. -/
def Targeted (host : TeardownHost) (sessions : KeyMap String RadiusSession)
    (emails : List String) (iface : List Char) : Prop :=
  ∃ line ∈ host.listing, line.iface.letters = iface ∧
    ∃ session ∈ sessionsOf sessions, session.email ∈ emails ∧
      session.protocol ∈ [VpnProtocol.l2tp, .pptp] ∧
      line.peer = some session.ip.text.toList

def HitsOnlyTargets (host : TeardownHost)
    (sessions : KeyMap String RadiusSession) (emails : List String) : Prop :=
  ∀ command ∈ killSessionsByEmail host sessions emails,
    ∀ iface ∈ command.iface?, Targeted host sessions emails iface

/-- The first ppp interface with a peer address. -/
def pppPeer (host : TeardownHost) (ip : List Char) : Option AddrLine :=
  host.listing.find? fun line =>
    line.peer = some ip && pppPrefix <+: line.iface.letters

/-- No other ppp interface shows the address of a session that is torn down, and
an OpenVPN session has none. -/
structure Unmistakable (host : TeardownHost)
    (sessions : KeyMap String RadiusSession) (emails : List String) :
    Prop where
  shown : ∀ session ∈ sessionsOf sessions, session.email ∈ emails →
    session.protocol ∈ [VpnProtocol.l2tp, .pptp, .openvpn] →
    ∀ line ∈ host.listing, session.ip.text.toList <:+: line.text →
      pppPrefix <+: line.iface.letters →
      (readPid host line.iface.letters).isSome →
      Targeted host sessions emails line.iface.letters
  tunnels : ∀ session ∈ sessionsOf sessions, session.email ∈ emails →
    session.protocol = .openvpn →
    ∀ line ∈ pppPeer host session.ip.text.toList,
      Targeted host sessions emails line.iface.letters

/-! What the two matchers find. -/

section Lines

variable {line : AddrLine} {host : TeardownHost} {ip word rest : List Char}
  {letter : Char}

theorem fieldsFrom_word (plain : ∀ letter ∈ word, isSpace letter = false)
    (start : List Char) :
    fieldsFrom start (word ++ rest) = fieldsFrom (start ++ word) rest := by
  induction word generalizing start with
  | nil => rw [List.nil_append, List.append_nil]
  | cons head tail induction =>
      rw [List.forall_mem_cons] at plain
      rw [List.cons_append, fieldsFrom, if_neg (by simp [plain.1]),
        induction plain.2, List.append_assoc]
      rfl

/-- A word ends at a space. -/
theorem fields_word (plain : ∀ letter ∈ word, isSpace letter = false)
    (nonempty : word ≠ []) (space : isSpace letter = true) :
    fields (word ++ letter :: rest) = word :: fields rest := by
  rw [fields, fieldsFrom_word plain, List.nil_append, fieldsFrom, if_pos space,
    if_neg nonempty]
  rfl

theorem digit_code {number : Nat} (member : letter ∈ Nat.toDigits 10 number) :
    48 ≤ letter.toNat ∧ letter.toNat ≤ 57 := by
  have digit := Nat.isDigit_of_mem_toDigits (by decide) (by decide) member
  simp only [Char.isDigit, Bool.and_eq_true, decide_eq_true_eq, ge_iff_le,
    UInt32.le_iff_toNat_le] at digit
  exact digit

theorem isSpace_of_code (code : 33 ≤ letter.toNat ∧ letter.toNat ≤ 0x7F) :
    isSpace letter = false := by
  rw [isSpace, Bool.or_eq_false_iff]
  constructor
  · apply decide_eq_false
    simp only [List.mem_cons, List.not_mem_nil, or_false]
    omega
  · rw [Bool.and_eq_false_iff]
    exact .inl (decide_eq_false (by omega))

theorem addressWord_digits (number : Nat) :
    AddressWord (Nat.toDigits 10 number) := by
  intro letter member
  have code := digit_code member
  refine ⟨isSpace_of_code ⟨by omega, by omega⟩, ?_⟩
  rintro rfl
  exact absurd code.1 (by decide)

theorem AddressWord.append {other : List Char} (first : AddressWord word)
    (second : AddressWord other) : AddressWord (word ++ other) :=
  List.forall_mem_append.mpr ⟨first, second⟩

theorem addressWord_text (ip : Ipv4) : AddressWord ip.text.toList := by
  have dot : AddressWord ".".toList := by
    intro letter member
    obtain rfl : letter = '.' := by simpa using member
    decide
  have number : ∀ value : Nat, AddressWord (toString value).toList := by
    intro value
    have written : (toString value).toList = Nat.toDigits 10 value :=
      Nat.toList_repr
    rw [written]
    exact addressWord_digits value
  simp only [Ipv4.text, String.toList_append]
  exact ((((((number _).append dot).append (number _)).append dot).append
    (number _)).append dot).append (number _)

theorem fields_text (line : AddrLine) :
    ∃ others, fields line.text =
      (Nat.toDigits 10 line.index ++ [':']) :: line.iface.letters :: others := by
  have spread : line.text = (Nat.toDigits 10 line.index ++ [':']) ++ ' ' ::
      (line.iface.letters ++ ' ' :: ("   ".toList ++ line.family.text ++
        " ".toList ++ line.localAddress ++ AddrLine.peerText line.peer ++
        "/".toList ++ Nat.toDigits 10 line.prefixLength ++ " ".toList ++
        line.tail)) := by
    simp [AddrLine.text]
  have indexWord : ∀ letter ∈ Nat.toDigits 10 line.index ++ [':'],
      isSpace letter = false := by
    rw [List.forall_mem_append]
    exact ⟨fun letter member => (addressWord_digits _ letter member).1,
      List.forall_mem_singleton.mpr (by decide)⟩
  rw [spread, fields_word indexWord (by simp) (by decide), fields_word
    (fun letter member => (line.iface.word letter member).1)
    line.iface.nonempty (by decide)]
  exact ⟨_, rfl⟩

/-- A text splits in one way at its last separator. -/
theorem separated_last_inj {separator : Char}
    {left right before after : List Char} (beforePlain : separator ∉ before)
    (afterPlain : separator ∉ after)
    (same : left ++ separator :: before = right ++ separator :: after) :
    left = right ∧ before = after := by
  have reversed := congrArg List.reverse same
  simp only [List.reverse_append, List.reverse_cons, List.append_assoc,
    List.singleton_append] at reversed
  obtain ⟨ends, starts⟩ := separated_inj
    (fun member => beforePlain (List.mem_reverse.mp member))
    (fun member => afterPlain (List.mem_reverse.mp member)) reversed
  exact ⟨List.reverse_injective starts, List.reverse_injective ends⟩

/-- The text in front of the only slash. -/
def AddrLine.front (line : AddrLine) : List Char :=
  Nat.toDigits 10 line.index ++ ": ".toList ++ line.iface.letters ++
    "    ".toList ++ line.family.text ++ ' ' :: line.localAddress ++
    AddrLine.peerText line.peer

def AddrLine.back (line : AddrLine) : List Char :=
  Nat.toDigits 10 line.prefixLength ++ " ".toList ++ line.tail

theorem text_eq (line : AddrLine) :
    line.text = line.front ++ '/' :: line.back := by
  simp [AddrLine.text, AddrLine.front, AddrLine.back]

theorem AddressWord.not_mem (plain : AddressWord word) :
    '/' ∉ word ∧ ' ' ∉ word := by
  constructor <;> intro member
  · exact (plain '/' member).2 rfl
  · exact absurd (plain ' ' member).1 (by decide)

theorem peerText_none : AddrLine.peerText none = [] := rfl

theorem peerText_some {address : List Char} :
    AddrLine.peerText (some address) = " peer ".toList ++ address :=
  rfl

theorem slash_not_mem (line : AddrLine) :
    '/' ∉ line.front ∧ '/' ∉ line.back := by
  have peer : '/' ∉ AddrLine.peerText line.peer := by
    cases known : line.peer with
    | none => exact List.not_mem_nil
    | some address =>
        have plain := (line.peerWord address known).not_mem.1
        simp [peerText_some, plain]
  have family : '/' ∉ line.family.text := by cases line.family <;> decide
  constructor
  · simp [AddrLine.front, (addressWord_digits line.index).not_mem.1,
      line.iface.word.not_mem.1, family, line.localWord.not_mem.1, peer]
  · simp [AddrLine.back, (addressWord_digits line.prefixLength).not_mem.1,
      line.tailPlain.1]

/-- What stands in front of a slash in a line stands in front of the only
one. -/
theorem front_eq_of_slash {before after : List Char}
    (same : before ++ '/' :: after = line.text) : before = line.front := by
  obtain ⟨frontPlain, backPlain⟩ := slash_not_mem line
  rw [text_eq] at same
  have counted := congrArg (List.count '/') same
  simp only [List.count_append, List.count_cons_self,
    List.count_eq_zero.mpr frontPlain, List.count_eq_zero.mpr backPlain]
    at counted
  have plain : '/' ∉ before := List.count_eq_zero.mp (by omega)
  exact (separated_inj plain frontPlain same).1

/-- The needle is in a line exactly if it is the peer address. -/
theorem peer_infix_iff (plain : AddressWord ip) :
    "peer ".toList ++ ip ++ "/".toList <:+: line.text ↔
      line.peer = some ip := by
  constructor
  · intro shown
    obtain ⟨before, after, split⟩ := shown
    have front : (before ++ "peer".toList) ++ ' ' :: ip = line.front := by
      refine @front_eq_of_slash line _ after ?_
      rw [← split]
      simp
    cases known : line.peer with
    | none =>
        have bare : line.front = (Nat.toDigits 10 line.index ++ ": ".toList ++
            line.iface.letters ++ "    ".toList ++ line.family.text) ++
              ' ' :: line.localAddress := by
          simp [AddrLine.front, known, peerText_none]
        rw [bare] at front
        obtain ⟨words, -⟩ := separated_last_inj plain.not_mem.2
          line.localWord.not_mem.2 front
        have last := congrArg List.getLast? words
        have ofPeer : "peer".toList.getLast? = some 'r' := by decide
        have ofFamily : line.family.text.getLast? = some 't' ∨
            line.family.text.getLast? = some '6' := by
          cases line.family <;> decide
        rw [List.getLast?_append, List.getLast?_append, ofPeer] at last
        rcases ofFamily with known | known <;> rw [known] at last <;>
          cases Option.some.inj last
    | some address =>
        have named : line.front = (Nat.toDigits 10 line.index ++ ": ".toList ++
            line.iface.letters ++ "    ".toList ++ line.family.text ++
              ' ' :: line.localAddress ++ " peer".toList) ++ ' ' :: address := by
          simp [AddrLine.front, known, peerText_some]
        rw [named] at front
        obtain ⟨-, same⟩ := separated_last_inj plain.not_mem.2
          (line.peerWord address known).not_mem.2 front
        rw [same]
  · intro known
    refine ⟨Nat.toDigits 10 line.index ++ ": ".toList ++ line.iface.letters ++
      "    ".toList ++ line.family.text ++ ' ' :: line.localAddress ++
        " ".toList, line.back, ?_⟩
    rw [text_eq]
    simp [AddrLine.front, known, peerText_some]

theorem newline_not_mem_text (line : AddrLine) : '\n' ∉ line.text := by
  have word : ∀ {word : List Char}, AddressWord word → '\n' ∉ word :=
    fun plain member => absurd (plain '\n' member).1 (by decide)
  have family : '\n' ∉ line.family.text := by cases line.family <;> decide
  have peer : '\n' ∉ AddrLine.peerText line.peer := by
    cases known : line.peer with
    | none => exact List.not_mem_nil
    | some address =>
        simp [peerText_some, word (line.peerWord address known)]
  simp [AddrLine.text, word (addressWord_digits line.index),
    word line.iface.word, family, word line.localWord, peer,
    word (addressWord_digits line.prefixLength), line.tailPlain.2]

theorem lines_addrShow :
    host.addrShow.splitOn '\n' = host.listing.map AddrLine.text ++ [[]] := by
  unfold TeardownHost.addrShow
  induction host.listing with
  | nil => rfl
  | cons line lines induction =>
      rw [List.map_cons, List.flatten_cons, List.append_assoc,
        List.singleton_append, List.splitOn_append_cons_self_of_not_mem
          (newline_not_mem_text line), induction]
      rfl

theorem pppdKill_text {line : AddrLine} :
    pppdKill host ip line.text =
      if ip <:+: line.text ∧ pppPrefix <+: line.iface.letters then
        (readPid host line.iface.letters).map (.kill line.iface.letters)
      else none := by
  obtain ⟨others, words⟩ := fields_text line
  rw [pppdKill, words, ite_and]

theorem mem_killPppdByIP {command : TeardownCommand} :
    command ∈ killPppdByIP host ip ↔
      ∃ line ∈ host.listing, ip <:+: line.text ∧
        pppPrefix <+: line.iface.letters ∧
        ∃ pid, readPid host line.iface.letters = some pid ∧
          command = .kill line.iface.letters pid := by
  have blank : pppdKill host ip [] = none := by
    rw [pppdKill]
    split <;> rfl
  rw [killPppdByIP, lines_addrShow, List.filterMap_append,
    List.filterMap_cons, blank, List.filterMap_nil, List.append_nil,
    List.filterMap_map, List.mem_filterMap]
  simp only [Function.comp_apply, pppdKill_text]
  apply exists_congr
  intro line
  apply and_congr_right
  intro _
  split
  next both =>
    rw [Option.map_eq_some_iff]
    simp only [both, true_and, eq_comm]
  next other =>
    simp only [reduceCtorEq, false_iff]
    intro both
    exact other ⟨both.1, both.2.1⟩

theorem trimColon_iface (iface : InterfaceName) :
    trimColon iface.letters = iface.letters := by
  rw [trimColon, if_neg]
  intro last
  exact iface.colonless (List.mem_of_getLast? last)

theorem pppLinkDelete_of_peer {line : List Char}
    (peer : "peer ".toList ++ ip ++ "/".toList <:+: line) :
    pppLinkDelete ip line =
      match fields line with
      | _ :: field :: _ =>
          if pppPrefix <+: trimColon field then
            some (.linkDelete (trimColon field))
          else none
      | _ => none :=
  if_pos peer

theorem pppLinkDelete_of_no_peer {line : List Char}
    (absent : ¬ "peer ".toList ++ ip ++ "/".toList <:+: line) :
    pppLinkDelete ip line = none :=
  if_neg absent

theorem pppLinkDelete_text {line : AddrLine} (plain : AddressWord ip) :
    pppLinkDelete ip line.text =
      if line.peer = some ip ∧ pppPrefix <+: line.iface.letters then
        some (.linkDelete line.iface.letters)
      else none := by
  obtain ⟨others, words⟩ := fields_text line
  by_cases peer : "peer ".toList ++ ip ++ "/".toList <:+: line.text
  · rw [pppLinkDelete_of_peer peer, words]
    have known := (peer_infix_iff plain).mp peer
    simp only [trimColon_iface, known, true_and]
  · rw [pppLinkDelete_of_no_peer peer]
    have other := mt (peer_infix_iff plain).mpr peer
    rw [if_neg fun both => other both.1]

theorem killPPPByIP_eq (plain : AddressWord ip) :
    killPPPByIP host ip =
      ((pppPeer host ip).map fun line =>
        TeardownCommand.linkDelete line.iface.letters).toList := by
  have blank : pppLinkDelete ip [] = none := by
    by_cases peer : "peer ".toList ++ ip ++ "/".toList <:+: []
    · exact pppLinkDelete_of_peer peer
    · exact pppLinkDelete_of_no_peer peer
  rw [killPPPByIP, lines_addrShow, pppPeer]
  apply congrArg
  induction host.listing with
  | nil => rw [List.map_nil, List.nil_append, List.findSome?_cons, blank]; rfl
  | cons line lines induction =>
      rw [List.map_cons, List.cons_append, List.findSome?_cons,
        List.find?_cons, induction, pppLinkDelete_text plain]
      by_cases both : line.peer = some ip ∧ pppPrefix <+: line.iface.letters
      · simp [both]
      · have missed : (decide (line.peer = some ip) &&
            decide (pppPrefix <+: line.iface.letters)) = false := by
          simpa using both
        rw [if_neg both, missed]

theorem mem_killPPPByIP {command : TeardownCommand} (plain : AddressWord ip) :
    command ∈ killPPPByIP host ip ↔
      ∃ line ∈ pppPeer host ip, command = .linkDelete line.iface.letters := by
  rw [killPPPByIP_eq plain, Option.mem_toList,
    Option.map_eq_some_iff]
  simp only [Option.mem_def, eq_comm]

end Lines

section Sessions

variable {host : TeardownHost} {sessions : KeyMap String RadiusSession}
  {emails : List String} {session : RadiusSession}

/-- The commands that act on an interface. -/
theorem mem_killSessionsByEmail_iface {command : TeardownCommand}
    {iface : List Char} (acts : command.iface? = some iface) :
    command ∈ killSessionsByEmail host sessions emails ↔
      ∃ session ∈ sessionsOf sessions, session.email ∈ emails ∧
        session.protocol ∈ [VpnProtocol.l2tp, .pptp, .openvpn] ∧
        (command ∈ killPppdByIP host session.ip.text.toList ∨
          command ∈ killPPPByIP host session.ip.text.toList) := by
  have one : ∀ session : RadiusSession, command ∈ killSession host session ↔
      session.protocol ∈ [VpnProtocol.l2tp, .pptp, .openvpn] ∧
        (command ∈ killPppdByIP host session.ip.text.toList ∨
          command ∈ killPPPByIP host session.ip.text.toList) := by
    intro session
    unfold killSession
    cases protocol : session.protocol with
    | openconnect => simp
    | sstp =>
        cases sstpInboundForIP host session.ip with
        | none => simp
        | some inboundId =>
            simp only [List.mem_singleton]
            constructor
            · intro same
              rw [same] at acts
              cases acts
            · intro listed
              simp at listed
    | _ => simp
  simp only [killSessionsByEmail, List.mem_append, List.mem_flatMap,
    List.mem_filter, decide_eq_true_eq, one]
  constructor
  · intro listed
    rcases listed with listed | listed <;>
      obtain ⟨session, ⟨⟨member, named⟩, -⟩, kind, commands⟩ := listed <;>
      exact ⟨session, member, named, kind, commands⟩
  · intro listed
    obtain ⟨session, member, named, kind, commands⟩ := listed
    refine .inl ⟨session, ⟨⟨member, named⟩, ?_⟩, kind, commands⟩
    intro sstp
    rw [sstp] at kind
    simp at kind

/-- The deletion of a link goes to the peer address of the session. -/
theorem targeted_of_linkDelete (member : session ∈ sessionsOf sessions)
    (named : session.email ∈ emails)
    (kind : session.protocol ∈ [VpnProtocol.l2tp, .pptp]) {line : AddrLine}
    (found : line ∈ pppPeer host session.ip.text.toList) :
    Targeted host sessions emails line.iface.letters := by
  have matched := List.find?_some found
  simp only [Bool.and_eq_true, decide_eq_true_eq] at matched
  exact ⟨line, List.mem_of_find?_eq_some found, rfl, session, member, named,
    kind, matched.1⟩

/-- The teardown acts on the interfaces of the set exactly if no other one is
taken for theirs. -/
theorem hitsOnlyTargets_iff (host : TeardownHost)
    (sessions : KeyMap String RadiusSession) (emails : List String) :
    HitsOnlyTargets host sessions emails ↔
      Unmistakable host sessions emails := by
  constructor
  · intro hits
    refine ⟨?_, ?_⟩
    · intro session member named kind line listed shown isPpp hasPid
      obtain ⟨pid, read⟩ := Option.isSome_iff_exists.mp hasPid
      have killed := mem_killPppdByIP.mpr
        ⟨line, listed, shown, isPpp, pid, read, rfl⟩
      exact hits _ ((mem_killSessionsByEmail_iface rfl).mpr
        ⟨session, member, named, kind, .inl killed⟩) _ rfl
    · intro session member named kind line found
      have deleted := (mem_killPPPByIP (addressWord_text session.ip)).mpr
        ⟨line, found, rfl⟩
      exact hits _ ((mem_killSessionsByEmail_iface rfl).mpr
        ⟨session, member, named, by simp [kind], .inr deleted⟩) _ rfl
  · intro unmistakable command issued iface acts
    obtain ⟨session, member, named, kind, killed | deleted⟩ :=
      (mem_killSessionsByEmail_iface acts).mp issued
    · obtain ⟨line, listed, shown, isPpp, pid, read, rfl⟩ :=
        mem_killPppdByIP.mp killed
      obtain rfl := Option.some.inj acts
      exact unmistakable.shown session member named kind line listed shown
        isPpp (by rw [read]; rfl)
    · obtain ⟨line, found, rfl⟩ :=
        (mem_killPPPByIP (addressWord_text session.ip)).mp deleted
      obtain rfl := Option.some.inj acts
      by_cases tunnel : session.protocol = .openvpn
      · exact unmistakable.tunnels session member named tunnel line found
      · refine targeted_of_linkDelete member named ?_ found
        simpa [tunnel] using kind

end Sessions

/-! Ann has 10.0.2.2, and bob 10.0.2.20. -/

def pppLine (index : Nat) (name address : List Char)
    (nonempty : name ≠ []) (word : AddressWord name ∧ ':' ∉ name)
    (peerWord : AddressWord address) : AddrLine where
  index := index
  iface := ⟨name, nonempty, word.1, word.2⟩
  family := .inet
  localAddress := "10.0.2.1".toList
  peer := some address
  prefixLength := 32
  tail := "scope global".toList
  localWord := by decide
  peerWord := fun _ same => Option.some.inj same ▸ peerWord
  tailPlain := by decide

def pppHost : TeardownHost where
  listing :=
    [pppLine 7 "ppp0".toList "10.0.2.2".toList (by decide) (by decide)
        (by decide),
      pppLine 8 "ppp1".toList "10.0.2.20".toList (by decide) (by decide)
        (by decide)]
  pidFile iface :=
    if iface = "ppp0".toList then some "200\n".toList
    else if iface = "ppp1".toList then some "201\n".toList
    else none
  sstpSubnets := []

def pppSessions : KeyMap String RadiusSession :=
  ((∅ : KeyMap String RadiusSession).insert "a"
    ⟨"ann", ⟨⟨10, 0, 2⟩, 2⟩, .l2tp, 0⟩).insert "b"
      ⟨"bob", ⟨⟨10, 0, 2⟩, 20⟩, .l2tp, 0⟩

/-- The teardown of ann also signals the pppd of bob. -/
theorem shorter_address_kills_other :
    killSessionsByEmail pppHost pppSessions ["ann"] =
      [.kill "ppp0".toList "200".toList, .kill "ppp1".toList "201".toList,
        .linkDelete "ppp0".toList] ∧
    ¬ HitsOnlyTargets pppHost pppSessions ["ann"] := by
  have commands : killSessionsByEmail pppHost pppSessions ["ann"] =
      [.kill "ppp0".toList "200".toList, .kill "ppp1".toList "201".toList,
        .linkDelete "ppp0".toList] := by decide +kernel
  refine ⟨commands, ?_⟩
  intro hits
  obtain ⟨line, listed, named, session, member, chosen, -, peer⟩ :=
    hits (.kill "ppp1".toList "201".toList) (by simp [commands]) _ rfl
  have bob : ∀ line ∈ pppHost.listing, line.iface.letters = "ppp1".toList →
      ∀ session ∈ sessionsOf pppSessions, session.email ∈ ["ann"] →
        line.peer ≠ some session.ip.text.toList := by decide +kernel
  exact bob line listed named session member chosen peer

end VpnUi.Radius
