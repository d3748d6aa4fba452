import VpnUi.Address.Range
import VpnUi.Foundation.TextSearch
import VpnUi.Nft.AcctTable

namespace VpnUi.Nft

open Foundation Panel Address

/-! The counters and the rules of the accounting chains as nft prints them, and
the code that reads its rules and counters back from that text. -/

def replaceAll (old new : Char) (text : List Char) : List Char :=
  text.map fun letter => if letter = old then new else letter

namespace Direction

def name : Direction → String
  | up => "up"
  | down => "down"

/-- The address of the packet that the rule compares. -/
def field : Direction → String
  | up => "saddr"
  | down => "daddr"

end Direction

/-- `counterIP`. -/
def counterIP (ip : Ipv4) : List Char := replaceAll '.' '_' ip.text.toList

def CounterName.text (name : CounterName) : List Char :=
  name.protocol.name.toList ++
    '_' :: (name.direction.name.toList ++ '_' :: counterIP name.ip)

/-- What `CollectAndResetTraffic` reads from the name of a counter: whose
traffic it is, and the text it looks the session up with. -/
def collectedName? (name : List Char) :
    Option (VpnProtocol × Direction × List Char) := do
  let (protocol, rest) ← cutAt '_' name
  let (direction, address) ← cutAt '_' rest
  let protocol ←
    if protocol = "l2tp".toList then some .l2tp
    else if protocol = "pptp".toList then some .pptp
    else if protocol = "openvpn".toList then some .openvpn
    else if protocol = "openconnect".toList then some .openconnect
    else if protocol = "sstp".toList then some .sstp
    else none
  let direction ←
    if direction = "up".toList then some .up
    else if direction = "down".toList then some .down
    else none
  some (protocol, direction, replaceAll '_' '.' address)

/-- A rule of the chain of a protocol. -/
structure ChainRule where
  direction : Direction
  ip : Ipv4
  handle : Nat
  deriving DecidableEq

/-- The words of the rule in `nft add rule`. -/
def ruleWords (direction : Direction) (ip : Ipv4) (counter : List Char) :
    List (List Char) :=
  ["ip".toList, direction.field.toList, ip.text.toList, "counter".toList,
    "name".toList, counter]

/-- How nft lays a chain out: the lines around the rules, what it puts before a
rule and around the name of a counter.  A rule is printed in the words it was
added with. -/
structure ListingForm where
  opening : List (List Char)
  closing : List (List Char)
  indent : List Char
  quote : List Char
  framed : ∀ line ∈ opening ++ closing,
    '\n' ∉ line ∧ ¬ "addr ".toList <:+: line
  indented : ∀ letter ∈ indent, letter = '\t'
  quoted : ∀ letter ∈ quote, letter = '"'

namespace ListingForm

/-- The words of a line, with those of the handle if nft is asked for it. -/
def lineWords (form : ListingForm) (protocol : VpnProtocol) (rule : ChainRule)
    (handle : List (List Char)) : List (List Char) :=
  (ruleWords rule.direction rule.ip
    (form.quote ++ CounterName.text ⟨protocol, rule.direction, rule.ip⟩ ++
      form.quote)).modifyHead (form.indent ++ ·) ++ handle

def handleWords (rule : ChainRule) : List (List Char) :=
  ["#".toList, "handle".toList, Nat.toDigits 10 rule.handle]

def line (form : ListingForm) (protocol : VpnProtocol)
    (handles : ChainRule → List (List Char)) (rule : ChainRule) : List Char :=
  [' '].intercalate (form.lineWords protocol rule (handles rule))

def lines (form : ListingForm) (protocol : VpnProtocol)
    (handles : ChainRule → List (List Char)) (rules : List ChainRule) :
    List (List Char) :=
  form.opening ++ rules.map (form.line protocol handles) ++ form.closing

/-- `nft list chain ip vpn`. -/
def listChain (form : ListingForm) (protocol : VpnProtocol)
    (rules : List ChainRule) : List Char :=
  ['\n'].intercalate (form.lines protocol (fun _ => []) rules)

/-- `nft -a list chain ip vpn`. -/
def listChainHandles (form : ListingForm) (protocol : VpnProtocol)
    (rules : List ChainRule) : List Char :=
  ['\n'].intercalate (form.lines protocol handleWords rules)

end ListingForm

/-- "addr {ip} ", which both functions look for. -/
def addrPart (ip : Ipv4) : List Char :=
  "addr ".toList ++ ip.text.toList ++ [' ']

/-- The handle that is read from a line, if it has the address. -/
def selected? (ip : Ipv4) (line : List Char) : Option (List Char) :=
  if hasPart (addrPart ip) line then
    (after? "# handle ".toList line).map trimSpace
  else none

/-- The handles that `RemoveClientAccounting` deletes rules by. -/
def selectedHandles (ip : Ipv4) (output : List Char) : List (List Char) :=
  (output.splitOn '\n').filterMap (selected? ip)

/-- The chain of a protocol, and the handle of the next rule. -/
structure Chain where
  rules : List ChainRule
  next : Nat

namespace Chain

def addRule (chain : Chain) (direction : Direction) (ip : Ipv4) : Chain where
  rules := chain.rules ++ [⟨direction, ip, chain.next⟩]
  next := chain.next + 1

/-- `nft delete rule ip vpn {chain} handle {handle}`. -/
def deleteRule (chain : Chain) (handle : List Char) : Chain :=
  { chain with
    rules := chain.rules.filter fun rule =>
      Nat.toDigits 10 rule.handle ≠ handle }

def addClientAccounting (form : ListingForm) (protocol : VpnProtocol)
    (ip : Ipv4) (chain : Chain) : Chain :=
  if hasPart (addrPart ip) (form.listChain protocol chain.rules) then chain
  else (chain.addRule .up ip).addRule .down ip

def removeClientAccounting (form : ListingForm) (protocol : VpnProtocol)
    (ip : Ipv4) (chain : Chain) : Chain :=
  (selectedHandles ip (form.listChainHandles protocol chain.rules)).foldl
    deleteRule chain

end Chain

section Names

variable {ip : Ipv4} {letter : Char}

theorem not_mem_toDigits {value : Nat} (other : letter.isDigit = false) :
    letter ∉ Nat.toDigits 10 value := by
  intro inside
  have digit := Nat.isDigit_of_mem_toDigits (by decide) (by decide) inside
  rw [other] at digit
  exact Bool.false_ne_true digit

theorem not_mem_address (other : letter.isDigit = false) (dot : letter ≠ '.') :
    letter ∉ ip.text.toList := by
  simp [Ipv4.text, String.toList_append, not_mem_toDigits other, dot]

theorem replaceAll_replaceAll {old new : Char} {text : List Char}
    (absent : new ∉ text) :
    replaceAll new old (replaceAll old new text) = text := by
  rw [replaceAll, replaceAll, List.map_map]
  refine (List.map_congr_left ?_).trans (List.map_id text)
  intro letter member
  have other : letter ≠ new := fun same => absent (same ▸ member)
  by_cases same : letter = old
  · simp [same]
  · simp [same, other]

/-- The collection reads from a counter's name what it was named for. -/
theorem collectedName?_text (name : CounterName) :
    collectedName? name.text =
      some (name.protocol, name.direction, name.ip.text.toList) := by
  obtain ⟨protocol, direction, ip⟩ := name
  have address : replaceAll '_' '.' (counterIP ip) = ip.text.toList :=
    replaceAll_replaceAll (not_mem_address (by decide) (by decide))
  have protocolPlain : '_' ∉ protocol.name.toList := by
    cases protocol <;> decide
  have directionPlain : '_' ∉ direction.name.toList := by
    cases direction <;> decide
  rw [collectedName?, CounterName.text]
  simp only [cutAt_append protocolPlain, cutAt_append directionPlain,
    Option.bind_eq_bind, Option.bind_some, address]
  cases protocol <;> cases direction <;> rfl

theorem counterText_injective : Function.Injective CounterName.text := by
  intro name other same
  have read := congrArg collectedName? same
  rw [collectedName?_text, collectedName?_text] at read
  obtain ⟨protocol, direction, ip⟩ := name
  obtain ⟨protocol', direction', ip'⟩ := other
  simp only [Option.some.injEq, Prod.mk.injEq, String.toList_inj] at read
  obtain ⟨rfl, rfl, address⟩ := read
  rw [Ipv4.text_injective address]

end Names

section Lines

variable {form : ListingForm} {protocol : VpnProtocol} {ip : Ipv4}
  {rule : ChainRule} {rules : List ChainRule} {handle : List (List Char)}
  {handles : ChainRule → List (List Char)} {letter : Char} {word : List Char}

/-- The letters that tell the parts of a listing apart, and the first letter of
"addr". -/
def landmarks : List Char := [' ', '\n', '#', 'a']

theorem landmark_cases (mark : letter ∈ landmarks) :
    letter = ' ' ∨ letter = '\n' ∨ letter = '#' ∨ letter = 'a' := by
  simpa [landmarks] using mark

theorem not_digit_of_landmark (mark : letter ∈ landmarks) :
    letter.isDigit = false ∧ letter ≠ '.' ∧ letter ≠ '_' := by
  rcases landmark_cases mark with rfl | rfl | rfl | rfl <;> decide

theorem landmark_not_mem_counterText {name : CounterName}
    (mark : letter ∈ landmarks) : letter ∉ name.text := by
  obtain ⟨protocol, direction, ip⟩ := name
  obtain ⟨digit, dot, line⟩ := not_digit_of_landmark mark
  have protocolPlain : letter ∉ protocol.name.toList := by
    rcases landmark_cases mark with rfl | rfl | rfl | rfl <;>
      cases protocol <;> decide
  have directionPlain : letter ∉ direction.name.toList := by
    rcases landmark_cases mark with rfl | rfl | rfl | rfl <;>
      cases direction <;> decide
  have address : letter ∉ counterIP ip := by
    intro inside
    obtain ⟨other, member, same⟩ := List.mem_map.mp inside
    by_cases dotted : other = '.'
    · rw [if_pos dotted] at same
      exact line same.symm
    · rw [if_neg dotted] at same
      exact not_mem_address digit dot (same ▸ member)
  simp [CounterName.text, protocolPlain, directionPlain, address, line]

theorem ListingForm.landmark_not_mem_indent (mark : letter ∈ landmarks) :
    letter ∉ form.indent := by
  intro inside
  rw [form.indented letter inside] at mark
  exact absurd mark (by decide)

theorem ListingForm.landmark_not_mem_quote (mark : letter ∈ landmarks) :
    letter ∉ form.quote := by
  intro inside
  rw [form.quoted letter inside] at mark
  exact absurd mark (by decide)

theorem not_ends_addr (absent : 'a' ∉ word) : ¬ "addr".toList <:+ word :=
  fun ends => absent (ends.subset (by decide))

/-- The word before the address is the only one of a rule that ends in "addr". -/
theorem word_after_addr
    (plain : ∀ word ∈ handle, ¬ "addr".toList <:+ word) {marker : List Char}
    (ends : "addr".toList <:+ marker)
    (neighbours : [marker, word] <:+: form.lineWords protocol rule handle) :
    word = rule.ip.text.toList := by
  have mark : 'a' ∈ landmarks := by decide
  obtain ⟨digit, dot, -⟩ := not_digit_of_landmark mark
  have later : ∀ other ∈ rule.ip.text.toList :: "counter".toList ::
      "name".toList :: (form.quote ++
        CounterName.text ⟨protocol, rule.direction, rule.ip⟩ ++ form.quote) ::
        handle, ¬ "addr".toList <:+ other := by
    intro other member
    simp only [List.mem_cons] at member
    rcases member with address | rfl | rfl | rfl | inside
    · rw [address]
      exact not_ends_addr (not_mem_address digit dot)
    · decide
    · decide
    · apply not_ends_addr
      simp [form.landmark_not_mem_quote mark, landmark_not_mem_counterText mark]
    · exact plain other inside
  rcases List.infix_cons_iff.mp neighbours with first | neighbours
  · obtain ⟨rfl, -⟩ := List.cons_prefix_cons.mp first
    refine absurd ends (not_ends_addr ?_)
    simp [form.landmark_not_mem_indent mark]
  · rcases List.infix_cons_iff.mp neighbours with second | neighbours
    · obtain ⟨-, tail⟩ := List.cons_prefix_cons.mp second
      exact (List.cons_prefix_cons.mp tail).1
    · exact absurd ends (later marker (neighbours.subset List.mem_cons_self))

theorem landmark_not_mem_lineWords (mark : letter ∈ [' ', '\n', '#'])
    (plain : ∀ word ∈ handle, letter ∉ word) :
    ∀ word ∈ form.lineWords protocol rule handle, letter ∉ word := by
  have marked : letter ∈ landmarks :=
    (show [' ', '\n', '#'] ⊆ landmarks by decide) mark
  have sign : letter = ' ' ∨ letter = '\n' ∨ letter = '#' := by
    simpa using mark
  have field : letter ∉ rule.direction.field.toList := by
    rcases sign with rfl | rfl | rfl <;> cases rule.direction <;> decide
  have fixed : letter ∉ "ip".toList ∧ letter ∉ "counter".toList ∧
      letter ∉ "name".toList := by
    rcases sign with rfl | rfl | rfl <;> decide
  obtain ⟨ip, counter, name⟩ := fixed
  obtain ⟨digit, dot, -⟩ := not_digit_of_landmark marked
  intro word member
  simp only [ListingForm.lineWords, ruleWords, List.modifyHead_cons,
    List.cons_append, List.nil_append, List.mem_cons] at member
  rcases member with rfl | rfl | rfl | rfl | rfl | rfl | inside
  · simp only [List.mem_append, form.landmark_not_mem_indent marked, ip,
      or_self, not_false_iff]
  · exact field
  · exact not_mem_address digit dot
  · exact counter
  · exact name
  · simp [form.landmark_not_mem_quote marked,
      landmark_not_mem_counterText marked]
  · exact plain word inside

/-- The words nft may print behind a rule. -/
structure PlainHandle (handle : List (List Char)) : Prop where
  landmark : ∀ word ∈ handle, ' ' ∉ word ∧ '\n' ∉ word
  addr : ∀ word ∈ handle, ¬ "addr".toList <:+ word

theorem plainHandle_nil : PlainHandle [] :=
  ⟨by simp, by simp⟩

theorem plainHandle_handleWords :
    PlainHandle (ListingForm.handleWords rule) := by
  have digits : ∀ mark ∈ landmarks, mark ∉ Nat.toDigits 10 rule.handle :=
    fun mark landmark => not_mem_toDigits (not_digit_of_landmark landmark).1
  constructor
  · intro word member
    simp only [ListingForm.handleWords, List.mem_cons, List.not_mem_nil,
      or_false] at member
    rcases member with rfl | rfl | rfl
    · decide
    · decide
    · exact ⟨digits ' ' (by decide), digits '\n' (by decide)⟩
  · intro word member
    simp only [ListingForm.handleWords, List.mem_cons, List.not_mem_nil,
      or_false] at member
    rcases member with rfl | rfl | rfl
    · decide
    · decide
    · exact not_ends_addr (digits 'a' (by decide))

/-- A line has "addr {ip} " in it exactly when its rule is for the address. -/
theorem addrPart_eq : addrPart ip =
    "addr".toList ++ ' ' :: (ip.text.toList ++ [' ']) := by
  have word : "addr ".toList = "addr".toList ++ [' '] := by decide
  change "addr ".toList ++ ip.text.toList ++ [' '] = _
  rw [word, List.append_assoc, List.append_assoc, List.singleton_append]

theorem addrPart_infix_line (plain : PlainHandle (handles rule)) :
    addrPart ip <:+: form.line protocol handles rule ↔ rule.ip = ip := by
  constructor
  · intro within
    rw [addrPart_eq] at within
    obtain ⟨marker, ends, neighbours⟩ :=
      @neighbours_of_part Char _ ' ' "addr".toList ip.text.toList _ (by decide)
        (not_mem_address (by decide) (by decide)) within
    rw [ListingForm.line,
      List.splitOn_intercalate _ (landmark_not_mem_lineWords (by decide)
      fun word member => (plain.landmark word member).1) (by
        simp [ListingForm.lineWords, ruleWords])] at neighbours
    have same := word_after_addr plain.addr ends neighbours
    exact (Ipv4.text_injective (String.toList_inj.mp same)).symm
  · rintro rfl
    let rest := [' '].intercalate ("counter".toList :: "name".toList ::
      (form.quote ++ CounterName.text ⟨protocol, rule.direction, rule.ip⟩ ++
        form.quote) :: handles rule)
    have laidOut : form.line protocol handles rule = form.indent ++
        "ip ".toList ++ rule.direction.field.toList ++ ' ' ::
          (rule.ip.text.toList ++ ' ' :: rest) := by
      simp [rest, ListingForm.line, ListingForm.lineWords, ruleWords,
        List.intercalate_cons_cons]
    rw [laidOut]
    cases rule.direction with
    | up =>
        exact ⟨form.indent ++ "ip s".toList, rest, by
          simp [addrPart_eq, Direction.field]⟩
    | down =>
        exact ⟨form.indent ++ "ip d".toList, rest, by
          simp [addrPart_eq, Direction.field]⟩

theorem ListingForm.addrPart_not_infix {line : List Char}
    (member : line ∈ form.opening ++ form.closing) :
    ¬ addrPart ip <:+: line := by
  intro within
  have begins : "addr ".toList <+: addrPart ip :=
    ⟨ip.text.toList ++ [' '], (List.append_assoc _ _ _).symm⟩
  exact (form.framed line member).2 (begins.isInfix.trans within)

theorem newline_not_mem_line (plain : PlainHandle (handles rule)) :
    '\n' ∉ form.line protocol handles rule := by
  apply not_mem_intercalate (by decide)
  exact landmark_not_mem_lineWords (by decide)
    fun word member => (plain.landmark word member).2

theorem hasPart_line (plain : PlainHandle (handles rule)) :
    hasPart (addrPart ip) (form.line protocol handles rule) =
      decide (rule.ip = ip) := by
  rw [Bool.eq_iff_iff, hasPart_iff, addrPart_infix_line plain,
    decide_eq_true_iff]

/-- The handle is what a line has after its first "# handle ". -/
theorem after?_handle :
    after? "# handle ".toList
        (form.line protocol ListingForm.handleWords rule) =
      some (Nat.toDigits 10 rule.handle) := by
  have laidOut : form.line protocol ListingForm.handleWords rule =
      ([' '].intercalate (form.lineWords protocol rule []) ++ [' ']) ++
        '#' :: (" handle ".toList ++ Nat.toDigits 10 rule.handle) := by
    simp [ListingForm.line, ListingForm.lineWords, ListingForm.handleWords, ruleWords,
      List.intercalate_cons_cons]
  have absent : '#' ∉ [' '].intercalate (form.lineWords protocol rule []) ++
      [' '] := by
    rw [List.mem_append, not_or]
    refine ⟨not_mem_intercalate (by decide) ?_, by decide⟩
    exact landmark_not_mem_lineWords (by decide) (by simp)
  rw [laidOut]
  exact after?_append absent

theorem isSpace_of_isDigit (digit : letter.isDigit = true) :
    isSpace letter = false := by
  have bounds : 48 ≤ letter.toNat ∧ letter.toNat ≤ 57 := by
    simpa [Char.isDigit, UInt32.le_iff_toNat_le] using digit
  simp only [isSpace, List.mem_cons, List.not_mem_nil, or_false,
    Bool.or_eq_false_iff, decide_eq_false_iff_not, Bool.and_eq_false_iff]
  omega

theorem trimSpace_toDigits {value : Nat} :
    trimSpace (Nat.toDigits 10 value) = Nat.toDigits 10 value := by
  apply trimSpace_of_none
  intro letter member
  have digit := Nat.isDigit_of_mem_toDigits (by decide) (by decide) member
  exact isSpace_of_isDigit digit

theorem ListingForm.splitOn_lines (plain : ∀ rule, PlainHandle (handles rule))
    (nonempty : form.lines protocol handles rules ≠ []) :
    (['\n'].intercalate (form.lines protocol handles rules)).splitOn '\n' =
      form.lines protocol handles rules := by
  refine List.splitOn_intercalate _ ?_ nonempty
  intro line member
  simp only [lines, List.mem_append, List.mem_map] at member
  rcases member with (inside | ⟨rule, -, rfl⟩) | inside
  · exact (form.framed line (List.mem_append_left _ inside)).1
  · exact newline_not_mem_line (plain rule)
  · exact (form.framed line (List.mem_append_right _ inside)).1

theorem selected?_line :
    selected? ip (form.line protocol ListingForm.handleWords rule) =
      if rule.ip = ip then some (Nat.toDigits 10 rule.handle) else none := by
  simp only [selected?, hasPart_line plainHandle_handleWords, after?_handle,
    Option.map_some, trimSpace_toDigits, decide_eq_true_iff]

theorem ListingForm.filterMap_frame {lines : List (List Char)}
    (within : ∀ line ∈ lines, line ∈ form.opening ++ form.closing) :
    lines.filterMap (selected? ip) = [] := by
  rw [List.filterMap_eq_nil_iff]
  intro line member
  apply if_neg
  rw [hasPart_iff]
  exact form.addrPart_not_infix (within line member)

theorem filterMap_line :
    (rules.map (form.line protocol ListingForm.handleWords)).filterMap
        (selected? ip) =
      (rules.filter (·.ip = ip)).map fun rule =>
        Nat.toDigits 10 rule.handle := by
  induction rules with
  | nil => rfl
  | cons rule rules induction =>
      rw [List.map_cons, List.filterMap_cons, selected?_line, induction]
      by_cases same : rule.ip = ip
      · simp [same]
      · simp [same]

/-- The handles that `RemoveClientAccounting` picks are those of the rules of the
address, whatever else the chain counts. -/
theorem selectedHandles_listChainHandles :
    selectedHandles ip (form.listChainHandles protocol rules) =
      (rules.filter (·.ip = ip)).map fun rule =>
        Nat.toDigits 10 rule.handle := by
  rw [selectedHandles, ListingForm.listChainHandles]
  by_cases nonempty : form.lines protocol ListingForm.handleWords rules = []
  · have none : rules = [] := by
      rw [ListingForm.lines] at nonempty
      simp_all
    have missed : selected? ip [] = .none := by
      apply if_neg
      rw [hasPart_iff, List.infix_nil]
      simp [addrPart_eq]
    rw [nonempty, none]
    exact List.filterMap_cons_none missed
  · rw [ListingForm.splitOn_lines (fun _ => plainHandle_handleWords) nonempty,
      ListingForm.lines, List.filterMap_append, List.filterMap_append,
      form.filterMap_frame fun _ => List.mem_append_left _,
      form.filterMap_frame fun _ => List.mem_append_right _, filterMap_line,
      List.nil_append, List.append_nil]

/-- `AddClientAccounting` finds an address exactly when the chain has a rule of
it. -/
theorem hasPart_listChain :
    hasPart (addrPart ip) (form.listChain protocol rules) ↔
      ∃ rule ∈ rules, rule.ip = ip := by
  have plain : '\n' ∉ addrPart ip := by
    have address := @not_mem_address ip '\n' (by decide) (by decide)
    simp [addrPart_eq, address]
  rw [hasPart_iff, ListingForm.listChain, infix_intercalate_iff plain (by
    simp [addrPart_eq])]
  constructor
  · rintro ⟨line, member, within⟩
    simp only [ListingForm.lines, List.mem_append, List.mem_map] at member
    rcases member with (inside | ⟨rule, member, rfl⟩) | inside
    · exact absurd within
        (form.addrPart_not_infix (List.mem_append_left _ inside))
    · exact ⟨rule, member, (addrPart_infix_line plainHandle_nil).mp within⟩
    · exact absurd within
        (form.addrPart_not_infix (List.mem_append_right _ inside))
  · rintro ⟨rule, member, same⟩
    refine ⟨form.line protocol (fun _ => []) rule, ?_,
      (addrPart_infix_line plainHandle_nil).mpr same⟩
    exact List.mem_append_left _ (List.mem_append_right _
      (List.mem_map_of_mem member))

end Lines

namespace Chain

/-- The chains that sessions of a protocol leave behind as they start and end. -/
inductive Reached (form : ListingForm) (protocol : VpnProtocol) : Chain → Prop
  | created (next : Nat) : Reached form protocol ⟨[], next⟩
  | started {chain : Chain} (ip : Ipv4) (reached : Reached form protocol chain) :
      Reached form protocol (chain.addClientAccounting form protocol ip)
  | ended {chain : Chain} (ip : Ipv4) (reached : Reached form protocol chain) :
      Reached form protocol (chain.removeClientAccounting form protocol ip)

/-- An address has both its rules or none, and a handle names one rule. -/
structure Paired (chain : Chain) : Prop where
  distinct : (chain.rules.map ChainRule.handle).Nodup
  fresh : ∀ rule ∈ chain.rules, rule.handle < chain.next
  pairs : ∀ ip, chain.rules.filter (·.ip = ip) = [] ∨ ∃ up down,
    chain.rules.filter (·.ip = ip) = [⟨.up, ip, up⟩, ⟨.down, ip, down⟩]

section Run

variable {form : ListingForm} {protocol : VpnProtocol} {ip : Ipv4}
  {chain : Chain}

theorem foldl_deleteRule {handles : List (List Char)} :
    handles.foldl deleteRule chain =
      { chain with
        rules := chain.rules.filter fun rule =>
          Nat.toDigits 10 rule.handle ∉ handles } := by
  induction handles generalizing chain with
  | nil => simp
  | cons handle handles induction =>
      rw [List.foldl_cons, induction]
      simp only [deleteRule, List.filter_filter, mk.injEq, and_true]
      apply List.filter_congr
      intro rule _
      simp [Bool.and_comm]

theorem toDigits_injective {first second : Nat}
    (same : Nat.toDigits 10 first = Nat.toDigits 10 second) :
    first = second := by
  have values := congrArg (fun digits => Nat.ofDigitChars 10 digits 0) same
  simpa only [Nat.ofDigitChars_ten_toDigits] using values

/-- The rules of the address go, and all others stay. -/
theorem removeClientAccounting_eq (paired : chain.Paired) :
    chain.removeClientAccounting form protocol ip =
      { chain with rules := chain.rules.filter (·.ip ≠ ip) } := by
  rw [removeClientAccounting, selectedHandles_listChainHandles,
    foldl_deleteRule]
  simp only [mk.injEq, and_true]
  apply List.filter_congr
  intro rule member
  rw [decide_eq_decide, not_iff_not]
  constructor
  · intro picked
    obtain ⟨other, inside, same⟩ := List.mem_map.mp picked
    obtain ⟨inside, address⟩ := List.mem_filter.mp inside
    have one : other = rule := List.inj_on_of_nodup_map paired.distinct inside
      member (toDigits_injective same)
    rw [← one]
    exact of_decide_eq_true address
  · intro same
    exact List.mem_map_of_mem (f := fun rule : ChainRule =>
      Nat.toDigits 10 rule.handle)
        (List.mem_filter.mpr ⟨member, decide_eq_true same⟩)

theorem Paired.add (paired : chain.Paired) :
    (chain.addClientAccounting form protocol ip).Paired := by
  rw [addClientAccounting]
  by_cases listed : ∃ rule ∈ chain.rules, rule.ip = ip
  · rw [if_pos (hasPart_listChain.mpr listed)]
    exact paired
  · rw [if_neg (mt hasPart_listChain.mp listed)]
    have unlisted : chain.rules.filter (·.ip = ip) = [] := by
      rw [List.filter_eq_nil_iff]
      intro rule member same
      exact listed ⟨rule, member, of_decide_eq_true same⟩
    have below : ∀ rule ∈ chain.rules, ∀ more, rule.handle ≠
        chain.next + more := by
      intro rule member more
      have fresh := paired.fresh rule member
      omega
    constructor
    · simp only [addRule, List.map_append, List.map_cons, List.map_nil,
        List.append_assoc, List.singleton_append]
      refine List.Nodup.append paired.distinct (by simp) ?_
      intro handle inside new
      obtain ⟨rule, member, rfl⟩ := List.mem_map.mp inside
      simp only [List.mem_cons, List.not_mem_nil, or_false] at new
      rcases new with new | new
      · exact below rule member 0 new
      · exact below rule member 1 new
    · intro rule member
      simp only [addRule, List.mem_append, List.mem_singleton] at member ⊢
      rcases member with (inside | rfl) | rfl
      · have fresh := paired.fresh rule inside
        omega
      · exact Nat.lt_add_of_pos_right Nat.two_pos
      · exact Nat.lt_succ_self _
    · intro address
      simp only [addRule, List.filter_append]
      by_cases same : ip = address
      · right
        subst same
        exact ⟨chain.next, chain.next + 1, by simp [unlisted]⟩
      · simpa [same] using paired.pairs address

theorem Paired.remove (paired : chain.Paired) :
    (chain.removeClientAccounting form protocol ip).Paired := by
  rw [removeClientAccounting_eq paired]
  constructor
  · exact paired.distinct.sublist (List.filter_sublist.map _)
  · intro rule member
    exact paired.fresh rule (List.mem_of_mem_filter member)
  · intro address
    rw [List.filter_filter]
    by_cases same : address = ip
    · left
      rw [List.filter_eq_nil_iff]
      intro rule _
      simp [same]
    · have kept : chain.rules.filter
          (fun rule => decide (rule.ip = address) && decide (rule.ip ≠ ip)) =
            chain.rules.filter (·.ip = address) := by
        apply List.filter_congr
        intro rule _
        by_cases here : rule.ip = address
        · simp [here, same]
        · simp [here]
      rw [kept]
      exact paired.pairs address

theorem Reached.paired (reached : Reached form protocol chain) :
    chain.Paired := by
  induction reached with
  | created next => exact ⟨by simp, by simp, by simp⟩
  | started ip _ induction => exact induction.add
  | ended ip _ induction => exact induction.remove

/-- The rules of the chain, as the table keeps them. -/
def names (protocol : VpnProtocol) (chain : Chain) : List CounterName :=
  chain.rules.map fun rule => ⟨protocol, rule.direction, rule.ip⟩

variable {Bytes : Type} [Zero Bytes] {table : AcctTable Bytes}

theorem rules_addClientAccounting :
    (table.addClientAccounting protocol ip).rules =
      if table.lists protocol ip then table.rules
      else table.rules ++ [⟨protocol, .up, ip⟩, ⟨protocol, .down, ip⟩] := by
  have counted : ((table.addCounter ⟨protocol, .up, ip⟩).addCounter
      ⟨protocol, .down, ip⟩).rules = table.rules := by
    simp only [AcctTable.addCounter]
    split <;> split <;> rfl
  have listed : ((table.addCounter ⟨protocol, .up, ip⟩).addCounter
      ⟨protocol, .down, ip⟩).lists protocol ip = table.lists protocol ip := by
    rw [AcctTable.lists, AcctTable.lists, counted]
  simp only [AcctTable.addClientAccounting, listed]
  by_cases known : table.lists protocol ip = true
  · rw [if_pos known, if_pos known, counted]
  · rw [if_neg known, if_neg known, counted]

/-- The table finds the rules of an address where their text is found. -/
theorem names_addClientAccounting
    (same : chain.names protocol =
      table.rules.filter (·.protocol = protocol)) :
    (chain.addClientAccounting form protocol ip).names protocol =
      (table.addClientAccounting protocol ip).rules.filter
        (·.protocol = protocol) := by
  have found : hasPart (addrPart ip) (form.listChain protocol chain.rules) =
      table.lists protocol ip := by
    rw [Bool.eq_iff_iff, hasPart_listChain, AcctTable.lists, List.any_eq_true]
    constructor
    · rintro ⟨rule, member, rfl⟩
      have named : ⟨protocol, rule.direction, rule.ip⟩ ∈
          chain.names protocol :=
        List.mem_map_of_mem (f := fun rule : ChainRule =>
          (⟨protocol, rule.direction, rule.ip⟩ : CounterName)) member
      rw [same] at named
      exact ⟨_, List.mem_of_mem_filter named, by simp⟩
    · rintro ⟨name, member, matched⟩
      simp only [Bool.and_eq_true, beq_iff_eq] at matched
      have named : name ∈ chain.names protocol := by
        rw [same]
        exact List.mem_filter.mpr ⟨member, decide_eq_true matched.1⟩
      obtain ⟨rule, inside, rfl⟩ := List.mem_map.mp named
      exact ⟨rule, inside, matched.2⟩
  rw [addClientAccounting, found, rules_addClientAccounting]
  by_cases known : table.lists protocol ip = true
  · rw [if_pos known, if_pos known, same]
  · rw [if_neg known, if_neg known, List.filter_append, ← same]
    simp [names, addRule]

omit [Zero Bytes] in
theorem names_removeClientAccounting (paired : chain.Paired)
    (same : chain.names protocol =
      table.rules.filter (·.protocol = protocol)) :
    (chain.removeClientAccounting form protocol ip).names protocol =
      (table.removeClientAccounting protocol ip).rules.filter
        (·.protocol = protocol) := by
  have kept : (table.removeClientAccounting protocol ip).rules.filter
      (·.protocol = protocol) =
        (table.rules.filter (·.protocol = protocol)).filter (·.ip ≠ ip) := by
    rw [AcctTable.removeClientAccounting, List.filter_filter,
      List.filter_filter]
    apply List.filter_congr
    intro name _
    by_cases own : name.protocol = protocol
    · simp [own, beq_eq_decide]
    · simp [own]
  rw [removeClientAccounting_eq paired, kept, ← same, names, names,
    List.filter_map]
  rfl

end Run

end Chain

/-- The names are decoded as they were encoded, no two of them are the same, and
a session's end picks the rules of its own address from any listing: both of
them, if sessions made the chain. -/
theorem counterNames_faithful (form : ListingForm) (protocol : VpnProtocol) :
    (∀ name : CounterName, collectedName? name.text =
      some (name.protocol, name.direction, name.ip.text.toList)) ∧
      Function.Injective CounterName.text ∧
      (∀ rules ip,
        selectedHandles ip (form.listChainHandles protocol rules) =
          (rules.filter (·.ip = ip)).map fun rule =>
            Nat.toDigits 10 rule.handle) ∧
      ∀ chain, Chain.Reached form protocol chain → ∀ ip,
        (∀ rule ∈ chain.rules, rule.ip ≠ ip) ∧
            selectedHandles ip (form.listChainHandles protocol chain.rules) =
              [] ∨
          ∃ up down,
            chain.rules.filter (·.ip = ip) =
                [⟨.up, ip, up⟩, ⟨.down, ip, down⟩] ∧
              selectedHandles ip (form.listChainHandles protocol chain.rules) =
                [Nat.toDigits 10 up, Nat.toDigits 10 down] ∧
              (chain.removeClientAccounting form protocol ip).rules =
                chain.rules.filter (·.ip ≠ ip) := by
  refine ⟨collectedName?_text, counterText_injective,
    fun rules ip => selectedHandles_listChainHandles, ?_⟩
  intro chain reached ip
  rw [selectedHandles_listChainHandles]
  rcases reached.paired.pairs ip with none | ⟨up, down, both⟩
  · left
    refine ⟨?_, by rw [none]; rfl⟩
    intro rule member same
    exact List.filter_eq_nil_iff.mp none rule member (decide_eq_true same)
  · right
    refine ⟨up, down, both, by rw [both]; rfl, ?_⟩
    rw [Chain.removeClientAccounting_eq reached.paired]

end VpnUi.Nft
