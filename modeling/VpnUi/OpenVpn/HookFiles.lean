import VpnUi.Address.Text
import VpnUi.OpenVpn.LeaseChoice

namespace VpnUi.OpenVpn

open Address

/-! The connect hook on the files of an inbound, whatever they contain. -/

/-- `strings.Fields`. -/
def textFields (text : String) : List String :=
  ((text.toList.splitOnP isSpace).filter (· ≠ [])).map String.ofList

/-- `strconv.ParseInt` in base 10 and 64 bits. -/
def parseInt64? (text : List Char) : Option Int :=
  (atoi? text).filter fun value => -2 ^ 63 ≤ value ∧ value < 2 ^ 63

/-- The tab-separated fields of the CLIENT_LIST lines of a status file. -/
def clientList (status : Option String) : List (List (List Char)) :=
  match status with
  | none => []
  | some text =>
      ((text.toList.splitOn '\n').filter fun line =>
        "CLIENT_LIST\t".toList.isPrefixOf line).map fun line =>
          line.splitOn '\t'

/-- The row of a line that tells when its device connected. -/
def timedRow? (fields : List (List Char)) : Option StatusRow :=
  if fields.length ≤ 8 then none
  else
    (parseInt64? (trimSpace (fields.getD 8 []))).map fun since =>
      { realAddress := String.ofList (trimSpace (fields.getD 2 []))
        virtualAddress := String.ofList (fields.getD 3 [])
        since }

/-- What the hooks of an inbound read.  The leases come in the order in which
the hook ranges over the map of their ages; nothing else depends on it. -/
structure HookFiles where
  block : Transport → String → Option String
  status : Transport → Option String
  leases : Transport → List LeaseFile
  strategy : Transport → Option String
  now : Nat

/-- What `ovpnLeaseBlockIP` returns, and the device it has evicted: its address
in the block, and its real address if the status file tells. -/
structure HookOutcome where
  address : Option String
  mask : String
  reject : Bool
  evicted : Option (String × String)
  deriving DecidableEq

def HookOutcome.keepPool : HookOutcome := ⟨none, "", false, none⟩

def HookOutcome.refuse : HookOutcome := ⟨none, "", true, none⟩

namespace HookFiles

/-- The netmask and the addresses of a block file. -/
def publishedBlock (files : HookFiles) (transport : Transport)
    (username : String) : Option (String × List String) :=
  match files.block transport username with
  | none => none
  | some data =>
      match textFields data with
      | mask :: first :: rest => some (mask, first :: rest)
      | _ => none

def ovpnStatusIPs (files : HookFiles) (transport : Transport) : List String :=
  (clientList (files.status transport)).filterMap fun fields =>
    match fields[3]? with
    | some address => if address = [] then none else some (String.ofList address)
    | none => none

def timedRows (files : HookFiles) (transport : Transport) : List StatusRow :=
  (clientList (files.status transport)).filterMap timedRow?

/-- The leases that are not stale, with their ages. -/
def leaseAges (files : HookFiles) (transport : Transport) :
    List (String × Int) :=
  (files.leases transport).filterMap fun lease =>
    let age := (files.now : Int) - lease.modTime
    if leaseTtl < age then none else some (lease.name, age)

def inUse (files : HookFiles) (transport : Transport) : List String :=
  files.ovpnStatusIPs transport ++ (files.leaseAges transport).map Prod.fst

def ovpnReadStrategy (files : HookFiles) (transport : Transport) : Strategy :=
  match files.strategy transport with
  | none => .reject
  | some data =>
      if trimSpace data.toList = "accept".toList then .accept else .reject

/-- The slots in use on a transport: none without a block file. -/
def occupiedSlots (files : HookFiles) (transport : Transport)
    (username : String) : Nat :=
  match files.publishedBlock transport username with
  | none => 0
  | some (_, candidates) => occupied candidates (files.inUse transport)

/-- `ghostIP`. -/
def ghostLease (files : HookFiles) (transport : Transport)
    (candidates : List String) : Option String :=
  ((candidates.filterMap fun ip =>
    if ip ∈ files.ovpnStatusIPs transport then none
    else (files.leaseAges transport).find? (·.1 = ip)).foldl
      (keepBest (fun entry : String × Int => leaseReclaimGrace < entry.2)
        fun entry old => old.2 < entry.2) none).map Prod.fst

def oldestLeasedIP (files : HookFiles) (transport : Transport) :
    Option String :=
  ((files.leaseAges transport).foldl
    (keepBest (fun entry : String × Int => -1 < entry.2)
      fun entry old => old.2 < entry.2) none).map Prod.fst

/-- The branches of the hook after it has read its block file. -/
def leaseFrom (files : HookFiles) (transport : Transport) (mask : String)
    (candidates : List String) (used : Nat) : HookOutcome :=
  let free :=
    if used < candidates.length then
      candidates.find? (· ∉ files.inUse transport)
    else none
  match free with
  | some ip => ⟨some ip, mask, false, none⟩
  | none =>
      if files.ovpnReadStrategy transport = .accept then
        match files.ghostLease transport candidates with
        | some ip => ⟨some ip, mask, false, none⟩
        | none =>
            match ovpnOldestFromStatus (files.timedRows transport)
                candidates with
            | some row =>
                ⟨some row.virtualAddress, mask, false,
                  some (row.virtualAddress, row.realAddress)⟩
            | none =>
                match files.oldestLeasedIP transport with
                | some ip => ⟨some ip, mask, false, some (ip, "")⟩
                | none => .refuse
      else .refuse

def ovpnLeaseBlockIP (files : HookFiles) (username poolIp : String) :
    HookOutcome :=
  let transport := protoOf poolIp
  match files.publishedBlock transport username with
  | none => .keepPool
  | some (mask, candidates) =>
      files.leaseFrom transport mask candidates
        (files.occupiedSlots transport username +
          files.occupiedSlots (otherProto transport) username)

/-- The addresses in the block file of an account. -/
def blockIPs (files : HookFiles) (transport : Transport) (username : String) :
    List String :=
  ((files.publishedBlock transport username).map Prod.snd).getD []

/-- The accounts have blocks of their own. -/
def BlocksApart (files : HookFiles) : Prop :=
  ∀ transport username other, username ≠ other →
    (files.blockIPs transport username).Disjoint
      (files.blockIPs transport other)

/-- An address of the account and of no other one. -/
def Owns (files : HookFiles) (transport : Transport) (username ip : String) :
    Prop :=
  ip ∈ files.blockIPs transport username ∧
    ∀ other, other ≠ username → ip ∉ files.blockIPs transport other

/-- The account has a connected device in the status file of a transport. -/
def Connected (files : HookFiles) (transport : Transport) (username : String) :
    Prop :=
  ∃ ip ∈ files.blockIPs transport username, ip ∈ files.ovpnStatusIPs transport

/-- An outcome serves and evicts within the account, and refuses no device of
an accepting account that has one connected. -/
structure ServesOwn (files : HookFiles) (transport : Transport)
    (username : String) (outcome : HookOutcome) : Prop where
  address : ∀ ip, outcome.address = some ip →
    files.Owns transport username ip
  victim : ∀ ip realAddress, outcome.evicted = some (ip, realAddress) →
    files.Owns transport username ip ∧
      (realAddress = "" ∨ ∃ row ∈ files.timedRows transport,
        row.realAddress = realAddress ∧
          files.Owns transport username row.virtualAddress)
  refusal : files.ovpnReadStrategy transport = .accept →
    outcome.reject = true → ∀ either, ¬ files.Connected either username

/-- A full account that accepts has no lease to reclaim and no device that the
status file of the transport can name; the hook turns to the leases of the
whole directory. -/
structure TakesOldestLease (files : HookFiles) (transport : Transport)
    (username : String) : Prop where
  published : files.blockIPs transport username ≠ []
  accepts : files.ovpnReadStrategy transport = .accept
  full : (files.blockIPs transport username).length ≤
      files.occupiedSlots transport username +
        files.occupiedSlots (otherProto transport) username ∨
    ∀ ip ∈ files.blockIPs transport username, ip ∈ files.inUse transport
  recent : ∀ ip ∈ files.blockIPs transport username,
    ip ∉ files.ovpnStatusIPs transport →
      ∀ entry, (files.leaseAges transport).find? (·.1 = ip) = some entry →
        entry.2 ≤ leaseReclaimGrace
  unlisted : ∀ row ∈ files.timedRows transport,
    row.virtualAddress ∈ files.blockIPs transport username →
      2 ^ 62 ≤ row.since

/-- The directory of the leases misleads the hook: the oldest one is another
account's, or there is none although the account has a device connected. -/
def Misled (files : HookFiles) (transport : Transport) (username : String) :
    Prop :=
  (∃ ip, files.oldestLeasedIP transport = some ip ∧
      ip ∉ files.blockIPs transport username) ∨
    (files.oldestLeasedIP transport = none ∧
      ∃ either, files.Connected either username)

section Decision

variable {files : HookFiles} {transport : Transport} {username : String}
  {mask : String} {candidates : List String} {used : Nat} {outcome : HookOutcome}

theorem ghostLease_mem {ip : String}
    (found : files.ghostLease transport candidates = some ip) :
    ip ∈ candidates := by
  obtain ⟨entry, oldest, rfl⟩ := Option.map_eq_some_iff.mp found
  rcases mem_of_foldl_keepBest oldest with member | initial
  · obtain ⟨candidate, listed, abandoned⟩ := List.mem_filterMap.mp member
    rw [Option.ite_none_left_eq_some] at abandoned
    have named : entry.1 = candidate := by
      simpa using List.find?_some abandoned.2
    rwa [named]
  · cases initial

theorem ghostLease_eq_none :
    files.ghostLease transport candidates = none ↔
      ∀ ip ∈ candidates, ip ∉ files.ovpnStatusIPs transport →
        ∀ entry, (files.leaseAges transport).find? (·.1 = ip) = some entry →
          entry.2 ≤ leaseReclaimGrace := by
  rw [ghostLease, Option.map_eq_none_iff, foldl_keepBest_eq_none]
  simp only [List.mem_filterMap, Option.ite_none_left_eq_some, not_lt,
    forall_exists_index, and_imp]
  constructor
  · intro recent ip member unlisted entry leased
    exact recent entry ip member unlisted leased
  · intro recent entry ip member unlisted leased
    exact recent ip member unlisted entry leased

theorem mem_of_oldestFromStatus {rows : List StatusRow} {row : StatusRow}
    (found : OpenVpn.ovpnOldestFromStatus rows candidates = some row) :
    row ∈ rows ∧ row.virtualAddress ∈ candidates := by
  refine ⟨?_, ovpnOldestFromStatus_mem found⟩
  rw [ovpnOldestFromStatus_eq_foldl] at found
  rcases mem_of_foldl_keepBest found with member | initial
  · exact List.mem_of_mem_filter member
  · cases initial

/-- What the hook can do with a block: serve one of its addresses, evict a
device of the block, take the oldest lease, or refuse. -/
inductive Decides (files : HookFiles) (transport : Transport) (mask : String)
    (candidates : List String) (used : Nat) : HookOutcome → Prop
  | serve {ip : String} (member : ip ∈ candidates) :
      Decides files transport mask candidates used ⟨some ip, mask, false, none⟩
  | evict {row : StatusRow} (listed : row ∈ files.timedRows transport)
      (member : row.virtualAddress ∈ candidates) :
      Decides files transport mask candidates used
        ⟨some row.virtualAddress, mask, false,
          some (row.virtualAddress, row.realAddress)⟩
  | reject (rejects : files.ovpnReadStrategy transport ≠ .accept) :
      Decides files transport mask candidates used .refuse
  | oldest (accepts : files.ovpnReadStrategy transport = .accept)
      (full : candidates.length ≤ used ∨
        ∀ ip ∈ candidates, ip ∈ files.inUse transport)
      (recent : files.ghostLease transport candidates = none)
      (unlisted : ∀ row ∈ files.timedRows transport,
        row.virtualAddress ∈ candidates → 2 ^ 62 ≤ row.since) :
      Decides files transport mask candidates used
        (match files.oldestLeasedIP transport with
        | some ip => ⟨some ip, mask, false, some (ip, "")⟩
        | none => .refuse)

theorem find?_free_eq_none :
    (if used < candidates.length then
      candidates.find? (· ∉ files.inUse transport) else none) = none ↔
      candidates.length ≤ used ∨
        ∀ ip ∈ candidates, ip ∈ files.inUse transport := by
  split
  next room =>
    rw [List.find?_eq_none]
    simp only [decide_not, Bool.not_eq_true', decide_eq_false_iff_not, not_not]
    exact (or_iff_right (not_le.mpr room)).symm
  next full => exact iff_of_true rfl (.inl (not_lt.mp full))

theorem leaseFrom_decides :
    files.Decides transport mask candidates used
      (files.leaseFrom transport mask candidates used) := by
  simp only [leaseFrom]
  split
  next ip free =>
    apply Decides.serve
    rw [Option.ite_none_right_eq_some] at free
    exact List.mem_of_find?_eq_some free.2
  next full =>
    have full := find?_free_eq_none.mp full
    split
    next accepts =>
      split
      next ip ghost => exact .serve (ghostLease_mem ghost)
      next recent =>
        split
        next row found =>
          obtain ⟨listed, member⟩ := mem_of_oldestFromStatus found
          exact .evict listed member
        next unlisted =>
          exact .oldest accepts full recent
            (ovpnOldestFromStatus_eq_none.mp unlisted)
    next rejects => exact .reject rejects

/-- With a full block and nothing of its own to reuse, the hook takes the
oldest lease. -/
theorem leaseFrom_of_full (accepts : files.ovpnReadStrategy transport = .accept)
    (full : candidates.length ≤ used ∨
      ∀ ip ∈ candidates, ip ∈ files.inUse transport)
    (recent : files.ghostLease transport candidates = none)
    (unlisted : ∀ row ∈ files.timedRows transport,
      row.virtualAddress ∈ candidates → 2 ^ 62 ≤ row.since) :
    files.leaseFrom transport mask candidates used =
      match files.oldestLeasedIP transport with
      | some ip => ⟨some ip, mask, false, some (ip, "")⟩
      | none => .refuse := by
  simp only [leaseFrom, find?_free_eq_none.mpr full, if_pos accepts, recent,
    ovpnOldestFromStatus_eq_none.mpr unlisted]

theorem publishedBlock_ne_nil
    (published : files.publishedBlock transport username =
      some (mask, candidates)) : candidates ≠ [] := by
  unfold publishedBlock at published
  split at published
  next => cases published
  next =>
    split at published
    next =>
      obtain ⟨-, rfl⟩ := Prod.mk.inj (Option.some.inj published)
      exact List.cons_ne_nil _ _
    next => cases published

theorem Owns.of_mem {ip : String} (apart : files.BlocksApart)
    (member : ip ∈ files.blockIPs transport username) :
    files.Owns transport username ip :=
  ⟨member, fun other differs listed =>
    apart transport username other (Ne.symm differs) member listed⟩

end Decision

/-! Where every line of the status file is complete and no lease is from the
future, this is the decision on rows and ages. -/

section Rows

variable {files : HookFiles} {transport : Transport} {rows : List StatusRow}

def castAge (entry : String × Nat) : String × Int := (entry.1, entry.2)

theorem leaseAges_eq_map
    (past : ∀ lease ∈ files.leases transport, lease.modTime ≤ files.now) :
    files.leaseAges transport =
      (OpenVpn.leaseAges files.now (files.leases transport)).map castAge := by
  unfold leaseAges OpenVpn.leaseAges
  generalize files.leases transport = leases at past
  induction leases with
  | nil => rfl
  | cons head tail induction =>
      rw [List.forall_mem_cons] at past
      have age : (files.now : Int) - head.modTime =
          (files.now - head.modTime : Nat) := by omega
      rw [List.filterMap_cons, List.filter_cons, induction past.2]
      simp only [age]
      by_cases fresh : files.now - head.modTime ≤ leaseTtl
      · rw [if_neg (by omega), if_pos (decide_eq_true fresh)]
        rfl
      · rw [if_pos (by omega), if_neg (by simpa using fresh)]

theorem ghostLease_eq_rows {candidates : List String}
    (past : ∀ lease ∈ files.leases transport, lease.modTime ≤ files.now)
    (listed : files.ovpnStatusIPs transport = OpenVpn.ovpnStatusIPs rows) :
    files.ghostLease transport candidates =
      OpenVpn.ghostLease candidates rows
        (OpenVpn.leaseAges files.now (files.leases transport)) := by
  have ages : (candidates.filterMap fun ip =>
      if ip ∈ files.ovpnStatusIPs transport then none
      else (files.leaseAges transport).find? (·.1 = ip)) =
      (candidates.filterMap fun ip =>
        if ip ∈ OpenVpn.ovpnStatusIPs rows then none
        else (OpenVpn.leaseAges files.now (files.leases transport)).find?
          (·.1 = ip)).map castAge := by
    rw [listed, leaseAges_eq_map past, List.map_filterMap]
    congr 1
    funext ip
    rw [apply_ite (Option.map castAge), List.find?_map]
    rfl
  have best := @foldl_keepBest_map _
    (fun entry : String × Nat => leaseReclaimGrace < entry.2) _
    (fun entry old => old.2 < entry.2) _ _
    (fun entry : String × Int => (leaseReclaimGrace : Int) < entry.2) _
    (fun entry old => old.2 < entry.2) _ castAge
    (candidates.filterMap fun ip =>
      if ip ∈ OpenVpn.ovpnStatusIPs rows then none
      else (OpenVpn.leaseAges files.now (files.leases transport)).find?
        (·.1 = ip)) none
    (fun _ _ => Int.ofNat_lt) (fun _ _ => Int.ofNat_lt)
  rw [ghostLease, ages, OpenVpn.ghostLease, oldestAbove_eq_foldl]
  refine (congrArg (Option.map Prod.fst) best).trans ?_
  rw [Option.map_map]
  rfl

theorem oldestLeasedIP_eq_rows
    (past : ∀ lease ∈ files.leases transport, lease.modTime ≤ files.now) :
    files.oldestLeasedIP transport =
      OpenVpn.oldestLeasedIP
        (OpenVpn.leaseAges files.now (files.leases transport)) := by
  rw [oldestLeasedIP, leaseAges_eq_map past]
  generalize OpenVpn.leaseAges files.now (files.leases transport) = ages
  have best := @foldl_keepBest_map _
    (fun _ : String × Nat => True) _ (fun entry old => old.2 < entry.2) _ _
    (fun entry : String × Int => -1 < entry.2) _
    (fun entry old => old.2 < entry.2) _ castAge ages none
    (fun entry _ => iff_of_true (by unfold castAge; omega) trivial)
    (fun _ _ => Int.ofNat_lt)
  refine (congrArg (Option.map Prod.fst) best).trans ?_
  cases ages with
  | nil => rfl
  | cons first rest =>
      rw [List.foldl_cons, keepBest, if_pos trivial, foldl_keepBest_started]
      rfl

/-- What the hook returns on a verdict. -/
def ofVerdict (mask : String) : Verdict → HookOutcome
  | .lease ip => ⟨some ip, mask, false, none⟩
  | .evict ip realAddress =>
      ⟨some ip, mask, false, some (ip, realAddress.getD "")⟩
  | .reject => .refuse

theorem leaseFrom_eq_ovpnDecide {mask : String} {candidates : List String}
    {used : Nat}
    (past : ∀ lease ∈ files.leases transport, lease.modTime ≤ files.now)
    (listed : files.ovpnStatusIPs transport = OpenVpn.ovpnStatusIPs rows)
    (timed : files.timedRows transport = rows) :
    files.leaseFrom transport mask candidates used =
      ofVerdict mask (ovpnDecide candidates (files.ovpnReadStrategy transport)
        rows (OpenVpn.leaseAges files.now (files.leases transport)) used) := by
  have inUse : files.inUse transport = OpenVpn.ovpnStatusIPs rows ++
      (OpenVpn.leaseAges files.now (files.leases transport)).map Prod.fst := by
    rw [HookFiles.inUse, listed, leaseAges_eq_map past, List.map_map]
    rfl
  simp only [leaseFrom, inUse, ghostLease_eq_rows past listed, timed,
    oldestLeasedIP_eq_rows past, ovpnDecide, freeCandidate]
  generalize (if used < candidates.length then List.find? _ candidates
    else none) = free
  cases free with
  | some ip => rfl
  | none =>
      by_cases accepts : files.ovpnReadStrategy transport = .accept
      · simp only [if_pos accepts]
        generalize OpenVpn.ghostLease candidates rows _ = ghost
        cases ghost with
        | some ip => rfl
        | none =>
            generalize ovpnOldestFromStatus rows candidates = listedRow
            cases listedRow with
            | some row => rfl
            | none =>
                generalize OpenVpn.oldestLeasedIP _ = oldest
                cases oldest with
                | some ip => rfl
                | none => rfl
      · simp only [if_neg accepts]
        rfl

end Rows

namespace ServesOwn

variable {files : HookFiles} {transport : Transport} {username mask ip : String}

theorem keepPool : files.ServesOwn transport username .keepPool where
  address := nofun
  victim := nofun
  refusal := nofun

theorem serve (own : files.Owns transport username ip) :
    files.ServesOwn transport username ⟨some ip, mask, false, none⟩ where
  address _ served := Option.some.inj served ▸ own
  victim := nofun
  refusal := nofun

theorem evict {realAddress : String} (own : files.Owns transport username ip)
    (named : realAddress = "" ∨ ∃ row ∈ files.timedRows transport,
      row.realAddress = realAddress ∧
        files.Owns transport username row.virtualAddress) :
    files.ServesOwn transport username
      ⟨some ip, mask, false, some (ip, realAddress)⟩ where
  address _ served := Option.some.inj served ▸ own
  victim other real evicted := by
    obtain ⟨rfl, rfl⟩ := Prod.mk.inj (Option.some.inj evicted)
    exact ⟨own, named⟩
  refusal := nofun

theorem refuse (alone : files.ovpnReadStrategy transport = .accept →
      ∀ either, ¬ files.Connected either username) :
    files.ServesOwn transport username .refuse where
  address := nofun
  victim := nofun
  refusal accepts _ := alone accepts

end ServesOwn

/-- The oldest lease serves the account exactly when the directory does not
mislead the hook. -/
theorem servesOwn_oldest_iff {files : HookFiles} {transport : Transport}
    {username mask : String} (apart : files.BlocksApart)
    (accepts : files.ovpnReadStrategy transport = .accept) :
    files.ServesOwn transport username
        (match files.oldestLeasedIP transport with
        | some ip => ⟨some ip, mask, false, some (ip, "")⟩
        | none => .refuse) ↔
      ¬ files.Misled transport username := by
  cases oldest : files.oldestLeasedIP transport with
  | some ip =>
      have misled : files.Misled transport username ↔
          ip ∉ files.blockIPs transport username := by
        simp [Misled, oldest]
      rw [misled, not_not]
      constructor
      · intro serves
        exact (serves.address ip rfl).1
      · intro member
        exact .evict (.of_mem apart member) (.inl rfl)
  | none =>
      have misled : files.Misled transport username ↔
          ∃ either, files.Connected either username := by
        simp [Misled, oldest]
      rw [misled, not_exists]
      constructor
      · intro serves
        exact serves.refusal accepts rfl
      · intro alone
        exact .refuse fun _ => alone

/-- The hook serves and evicts within its account unless it takes the oldest
lease of a directory that misleads it. -/
theorem servesOwn_iff (files : HookFiles) (apart : files.BlocksApart)
    (username poolIp : String) :
    files.ServesOwn (protoOf poolIp) username
        (files.ovpnLeaseBlockIP username poolIp) ↔
      ¬ (files.TakesOldestLease (protoOf poolIp) username ∧
        files.Misled (protoOf poolIp) username) := by
  cases published : files.publishedBlock (protoOf poolIp) username with
  | none =>
      have none : files.blockIPs (protoOf poolIp) username = [] := by
        rw [blockIPs, published]
        rfl
      simp only [ovpnLeaseBlockIP, published]
      exact iff_of_true .keepPool fun both => both.1.published none
  | some block =>
      obtain ⟨mask, candidates⟩ := block
      have listed : files.blockIPs (protoOf poolIp) username = candidates := by
        rw [blockIPs, published]
        rfl
      simp only [ovpnLeaseBlockIP, published]
      constructor
      · rintro serves ⟨⟨-, accepts, full, recent, unlisted⟩, misled⟩
        rw [listed] at full recent unlisted
        rw [leaseFrom_of_full accepts full (ghostLease_eq_none.mpr recent)
          unlisted, servesOwn_oldest_iff apart accepts] at serves
        exact serves misled
      · intro sound
        have owned : ∀ {ip}, ip ∈ candidates →
            files.Owns (protoOf poolIp) username ip := fun member =>
          .of_mem apart (listed ▸ member)
        have decides := @leaseFrom_decides files (protoOf poolIp) mask
          candidates (files.occupiedSlots (protoOf poolIp) username +
            files.occupiedSlots (otherProto (protoOf poolIp)) username)
        revert decides
        generalize files.leaseFrom _ _ _ _ = outcome
        intro decides
        cases decides with
        | serve member => exact .serve (owned member)
        | @evict row inStatus member =>
            exact .evict (owned member) (.inr ⟨row, inStatus, rfl, owned member⟩)
        | reject rejects => exact .refuse fun accepts => absurd accepts rejects
        | oldest accepts full recent unlisted =>
            have takes : files.TakesOldestLease (protoOf poolIp) username := {
              published := listed ▸ publishedBlock_ne_nil published
              accepts
              full := by rwa [listed]
              recent := by
                rw [listed]
                exact ghostLease_eq_none.mp recent
              unlisted := by rwa [listed] }
            exact (servesOwn_oldest_iff apart accepts).mpr
              (not_and.mp sound takes)

/-- Both accounts have two addresses on each transport.  Both devices of alice
are on TCP, and bob's first one is connecting on UDP. -/
def twoAccounts : HookFiles where
  block transport username :=
    if username = "alice" then
      match transport with
      | .udp => some "255.255.255.0 10.2.0.2 10.2.0.3\n"
      | .tcp => some "255.255.255.0 10.3.0.2 10.3.0.3\n"
    else if username = "bob" then
      match transport with
      | .udp => some "255.255.255.0 10.2.0.4 10.2.0.5\n"
      | .tcp => some "255.255.255.0 10.3.0.4 10.3.0.5\n"
    else none
  status
    | .udp => some "END\n"
    | .tcp => some ("CLIENT_LIST\talice\t198.51.100.7:4000\t10.3.0.2\t\t0\t0" ++
        "\tMon\t1700000000\n" ++
        "CLIENT_LIST\talice\t198.51.100.8:4001\t10.3.0.3\t\t0\t0" ++
        "\tMon\t1700000060\nEND\n")
  leases
    | .udp => [⟨"10.2.0.4", "10.2.0.200", 1700000100000⟩]
    | .tcp => []
  strategy _ := some "accept\n"
  now := 1700000101000

theorem twoAccounts_apart : twoAccounts.BlocksApart := by
  have alice : ∀ transport, twoAccounts.blockIPs transport "alice" =
      match transport with
      | .udp => ["10.2.0.2", "10.2.0.3"]
      | .tcp => ["10.3.0.2", "10.3.0.3"] := by decide +kernel
  have bob : ∀ transport, twoAccounts.blockIPs transport "bob" =
      match transport with
      | .udp => ["10.2.0.4", "10.2.0.5"]
      | .tcp => ["10.3.0.4", "10.3.0.5"] := by decide +kernel
  have others : ∀ transport username, username ≠ "alice" → username ≠ "bob" →
      twoAccounts.blockIPs transport username = [] := by
    intro transport username notAlice notBob
    simp [blockIPs, publishedBlock, twoAccounts, notAlice, notBob]
  intro transport username other differs ip left right
  by_cases first : username = "alice"
  · subst first
    by_cases second : other = "bob"
    · subst second
      rw [alice] at left
      rw [bob] at right
      revert ip
      cases transport <;> decide
    · rw [others transport other (Ne.symm differs) second] at right
      cases right
  · by_cases second : username = "bob"
    · subst second
      by_cases third : other = "alice"
      · subst third
        rw [bob] at left
        rw [alice] at right
        revert ip
        cases transport <;> decide
      · rw [others transport other third (Ne.symm differs)] at right
        cases right
    · rw [others transport username first second] at left
      cases left

theorem servesOwn_bob :
    twoAccounts.ServesOwn .udp "bob"
      (twoAccounts.ovpnLeaseBlockIP "bob" "10.2.0.9") :=
  (servesOwn_iff twoAccounts twoAccounts_apart "bob" "10.2.0.9").mpr
    fun both => absurd both.1.full (by decide +kernel)

/-- alice's account is full on TCP; her next device on UDP is given the address
that bob's device has just leased. -/
theorem leases_address_of_another_account :
    ¬ ∀ files : HookFiles, files.BlocksApart → ∀ username poolIp,
      files.ServesOwn (protoOf poolIp) username
        (files.ovpnLeaseBlockIP username poolIp) := by
  intro always
  have serves := always twoAccounts twoAccounts_apart "alice" "10.2.0.9"
  have pushed : (twoAccounts.ovpnLeaseBlockIP "alice" "10.2.0.9").address =
      some "10.2.0.4" := by decide +kernel
  exact absurd (serves.address _ pushed).1 (by decide +kernel)

end HookFiles

end VpnUi.OpenVpn
