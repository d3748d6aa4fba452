import VpnUi.Foundation.Transition
import VpnUi.Job.ClientIps

namespace VpnUi.Job

open Foundation

/-! Scans of one client with an IP limit, one after the other: who keeps a
place. -/

/-- What a scan of the log finds of a client: the last time of each address. -/
structure Scan where
  observed : List IPWithTimestamp
  now : Int
  order : TimeSort
  distinct : (observed.map IPWithTimestamp.ip).Nodup

/-- The addresses of a scan and of the scans before it. -/
structure ScanOutcome where
  observed : List String
  kept : List String
  banned : List String
  keptBefore : List String
  seenBefore : List String
  deriving DecidableEq

structure Tracking where
  /-- The entries of the tracking row, once there is one. -/
  row : Option (List IPWithTimestamp)
  kept : List String
  seen : List String
  last : Option ScanOutcome

def ips (entries : List IPWithTimestamp) : List String :=
  entries.map IPWithTimestamp.ip

/-- A client that was never scanned, or whose row has some entries. -/
def Tracking.start (row : Option (List IPWithTimestamp)) : Tracking where
  row := row
  kept := []
  seen := (row.map ips).getD []
  last := none

/-- The entries a scan keeps, bans and stores; `addInboundClientIps` stores all
of them. -/
def Tracking.enforced (limitIp : Nat) (tracking : Tracking) (scan : Scan) :
    Enforcement :=
  match tracking.row with
  | none => ⟨scan.observed, [], []⟩
  | some old => enforce scan.order limitIp scan.now old scan.observed

def Tracking.next (limitIp : Nat) (tracking : Tracking) (scan : Scan) :
    Tracking :=
  let enforced := tracking.enforced limitIp scan
  { row := some enforced.dbIps
    kept := ips enforced.keptLive
    seen := tracking.seen ++ ips scan.observed
    last := some {
      observed := ips scan.observed
      kept := ips enforced.keptLive
      banned := ips enforced.bannedLive
      keptBefore := tracking.kept
      seenBefore := tracking.seen } }

def scans (limitIp : Nat) : Machine Tracking Scan where
  step tracking scan := some (tracking.next limitIp scan)

/-- The limit is shared out fairly: originals go before newcomers. -/
structure ScanOutcome.Fair (limitIp : Nat) (outcome : ScanOutcome) : Prop where
  partition : (outcome.kept ++ outcome.banned).Perm outcome.observed
  bounded : outcome.kept.length ≤ limitIp
  unbanned : ∀ ip ∈ outcome.banned, ip ∈ outcome.observed
  uncounted : outcome.observed.length ≤ limitIp → outcome.banned = []
  protects : ∀ ip ∈ outcome.keptBefore, ip ∈ outcome.banned →
    ∀ newcomer ∈ outcome.kept, newcomer ∈ outcome.seenBefore

def Fair (limitIp : Nat) (tracking : Tracking) : Prop :=
  ∀ outcome ∈ tracking.last, outcome.Fair limitIp

/-- The times do not go back behind the stored ones. -/
def Later (tracking : Tracking) (scan : Scan) : Prop :=
  ∀ old ∈ tracking.row, ∀ stored ∈ old, ∀ seen ∈ scan.observed,
    stored.ip = seen.ip → stored.timestamp ≤ seen.timestamp

/-- In no order of entries of one time does a newcomer keep the place of an
original: the newcomer is older and fits, and the original does not. -/
structure Orderly (limitIp : Nat) (tracking : Tracking) (scan : Scan) :
    Prop where
  first : tracking.row = none → scan.observed.length ≤ limitIp
  fresh : tracking.row ≠ none → ∀ seen ∈ scan.observed,
    scan.now - ipStaleAfterSeconds ≤ seen.timestamp
  originals : ∀ original ∈ scan.observed, original.ip ∈ tracking.kept →
    ∀ newcomer ∈ scan.observed, newcomer.ip ∉ tracking.seen →
    newcomer.timestamp ≤ original.timestamp →
      limitIp ≤ scan.observed.countP (·.timestamp < newcomer.timestamp) ∨
        scan.observed.countP (·.timestamp ≤ original.timestamp) ≤ limitIp

section Ranks

variable {entries : List IPWithTimestamp} {entry : IPWithTimestamp}
  {limit : Nat}

/-- Fewer entries than the limit are older than a kept one. -/
theorem count_older_of_mem_take
    (sorted : entries.Pairwise (·.timestamp ≤ ·.timestamp))
    (member : entry ∈ entries.take limit) :
    entries.countP (·.timestamp < entry.timestamp) < limit := by
  have parts := List.take_append_drop limit entries
  rw [← parts] at sorted
  obtain ⟨-, -, ordered⟩ := List.pairwise_append.mp sorted
  have dropped : (entries.drop limit).countP
      (·.timestamp < entry.timestamp) = 0 := by
    apply List.countP_eq_zero.mpr
    intro other later
    have bound := ordered entry member other later
    simpa using bound
  have taken : (entries.take limit).countP (·.timestamp < entry.timestamp) <
      (entries.take limit).length := by
    apply lt_of_le_of_ne List.countP_le_length
    intro all
    have older := List.countP_eq_length.mp all entry member
    simp at older
  have length := List.length_take_le limit entries
  calc entries.countP (·.timestamp < entry.timestamp)
      = (entries.take limit ++ entries.drop limit).countP
          (·.timestamp < entry.timestamp) := by rw [parts]
    _ < limit := by
        rw [List.countP_append, dropped]
        omega

/-- More entries than the limit are as old as a banned one. -/
theorem count_as_old_of_mem_drop
    (sorted : entries.Pairwise (·.timestamp ≤ ·.timestamp))
    (member : entry ∈ entries.drop limit) :
    limit < entries.countP (·.timestamp ≤ entry.timestamp) := by
  have parts := List.take_append_drop limit entries
  rw [← parts] at sorted
  obtain ⟨-, -, ordered⟩ := List.pairwise_append.mp sorted
  have taken : (entries.take limit).countP
      (·.timestamp ≤ entry.timestamp) = (entries.take limit).length := by
    apply List.countP_eq_length.mpr
    intro other before
    exact decide_eq_true (ordered other before entry member)
  have dropped : 0 < (entries.drop limit).countP
      (·.timestamp ≤ entry.timestamp) :=
    List.countP_pos_iff.mpr ⟨entry, member, by simp⟩
  have long : limit < entries.length := by
    have nonempty := List.length_pos_of_mem member
    rw [List.length_drop] at nonempty
    omega
  calc limit
      = (entries.take limit).length := by rw [List.length_take]; omega
    _ < (entries.take limit ++ entries.drop limit).countP
          (·.timestamp ≤ entry.timestamp) := by
        rw [List.countP_append, taken]
        omega
    _ = entries.countP (·.timestamp ≤ entry.timestamp) := by rw [parts]

end Ranks

section Step

variable {limitIp : Nat} {tracking : Tracking} {scan : Scan}
  {live : List IPWithTimestamp}

/-- Cutting the live entries of an orderly scan at the limit is fair. -/
theorem fair_of_live (perm : live.Perm scan.observed)
    (sorted : live.Pairwise (·.timestamp ≤ ·.timestamp))
    (orderly : Orderly limitIp tracking scan) :
    ScanOutcome.Fair limitIp ⟨ips scan.observed, ips (live.take limitIp),
      ips (live.drop limitIp), tracking.kept, tracking.seen⟩ where
  partition := by
    dsimp only
    rw [ips, ips, ← List.map_append, List.take_append_drop]
    exact perm.map _
  bounded := by
    dsimp only
    rw [ips, List.length_map]
    exact List.length_take_le _ _
  unbanned := by
    intro ip banned
    obtain ⟨entry, member, rfl⟩ := List.mem_map.mp banned
    exact List.mem_map_of_mem (perm.subset (List.mem_of_mem_drop member))
  uncounted := by
    intro few
    rw [ips, List.length_map, ← perm.length_eq] at few
    dsimp only
    rw [List.drop_of_length_le few]
    rfl
  protects := by
    intro original keptBefore banned newcomer kept
    by_contra unseen
    obtain ⟨bannedEntry, bannedMember, rfl⟩ := List.mem_map.mp banned
    obtain ⟨keptEntry, keptMember, rfl⟩ := List.mem_map.mp kept
    have ordered : keptEntry.timestamp ≤ bannedEntry.timestamp := by
      rw [← List.take_append_drop limitIp live] at sorted
      exact (List.pairwise_append.mp sorted).2.2 keptEntry keptMember
        bannedEntry bannedMember
    -- the newcomer fits among the oldest, and the original does not
    have fits := count_older_of_mem_take sorted keptMember
    have exceeds := count_as_old_of_mem_drop sorted bannedMember
    rw [perm.countP_eq] at fits exceeds
    rcases orderly.originals bannedEntry
        (perm.subset (List.mem_of_mem_drop bannedMember)) keptBefore keptEntry
        (perm.subset (List.mem_of_mem_take keptMember)) unseen ordered
      with full | room
    · exact Nat.not_lt.mpr full fits
    · exact Nat.not_lt.mpr room exceeds

/-- The first scan of a client stores everything. -/
theorem fair_of_untracked (orderly : Orderly limitIp tracking scan)
    (untracked : tracking.row = none) :
    ScanOutcome.Fair limitIp ⟨ips scan.observed, ips scan.observed, [],
      tracking.kept, tracking.seen⟩ where
  partition := by simp
  bounded := by simpa [ips] using orderly.first untracked
  unbanned := by simp
  uncounted := by simp
  protects := by simp

theorem fair_next (later : Later tracking scan)
    (orderly : Orderly limitIp tracking scan) :
    Fair limitIp (tracking.next limitIp scan) := by
  intro outcome same
  obtain rfl := Option.some.inj same
  cases tracked : tracking.row with
  | none =>
      have enforced : tracking.enforced limitIp scan =
          ⟨scan.observed, [], []⟩ := by
        rw [Tracking.enforced, tracked]
      rw [enforced]
      exact fair_of_untracked orderly tracked
  | some old =>
      have enforced : tracking.enforced limitIp scan =
          enforce scan.order limitIp scan.now old scan.observed := by
        rw [Tracking.enforced, tracked]
      have fresh : scan.observed.filter
          (scan.now - ipStaleAfterSeconds ≤ ·.timestamp) = scan.observed :=
        List.filter_eq_self.mpr fun seen member => decide_eq_true
          (orderly.fresh (by rw [tracked]; nofun) seen member)
      have perm : (liveIps scan.order scan.now old scan.observed).Perm
          (scan.observed.filter
            (scan.now - ipStaleAfterSeconds ≤ ·.timestamp)) :=
        liveIps_perm scan.distinct (later old tracked)
      rw [fresh] at perm
      rw [enforced, enforce_live.1, enforce_live.2]
      exact fair_of_live perm (scan.order.sorted _) orderly

end Step

/-- Every scan is fair in a run whose times do not go back and in which no
older newcomer takes a place from an original. -/
theorem scans_fair_of_orderly (limitIp : Nat)
    (row : Option (List IPWithTimestamp)) (events : List Scan)
    (orderly : (scans limitIp).Guarded
      (fun tracking scan => Later tracking scan ∧
        Orderly limitIp tracking scan) (Tracking.start row) events) :
    (scans limitIp).Throughout (Fair limitIp) (Tracking.start row) events := by
  apply Machine.throughout_of_guarded _ _ _ orderly
  · intro tracking scan next _ guarded step
    obtain rfl := Option.some.inj step
    exact fair_next guarded.1 guarded.2
  · intro outcome none
    cases none

/-! A client with limit 1. -/

def scanOf (observed : List IPWithTimestamp) (now : Int)
    (distinct : (observed.map IPWithTimestamp.ip).Nodup) : Scan :=
  ⟨observed, now, .insertion, distinct⟩

def homeScan : Scan := scanOf [⟨"1.1.1.1", 1000⟩] 1000 (by decide)

/-- A newcomer connected before the original was seen again. -/
def crowdedScan : Scan :=
  scanOf [⟨"1.1.1.1", 1025⟩, ⟨"2.2.2.2", 1023⟩] 1025 (by decide)

/-- The original connected first. -/
def patientScan : Scan :=
  scanOf [⟨"1.1.1.1", 1021⟩, ⟨"2.2.2.2", 1023⟩] 1025 (by decide)

theorem patient_scans_fair :
    (scans 1).Throughout (Fair 1) (Tracking.start none)
      [homeScan, patientScan] := by
  apply scans_fair_of_orderly
  refine ⟨⟨nofun, ⟨fun _ => by decide, fun tracked => absurd rfl tracked,
    nofun⟩⟩, ?_⟩
  intro next step
  obtain rfl := Option.some.inj step
  refine ⟨⟨?_, ⟨nofun, fun _ => by decide, by decide⟩⟩, fun _ _ => trivial⟩
  intro old tracked
  obtain rfl := Option.some.inj tracked
  decide

/-- The original is banned and the newcomer takes its place. -/
theorem newcomer_takes_place :
    ((scans 1).run (Tracking.start none) [homeScan, crowdedScan]).bind
        (·.last) = some ⟨["1.1.1.1", "2.2.2.2"], ["2.2.2.2"], ["1.1.1.1"],
          ["1.1.1.1"], ["1.1.1.1"]⟩ ∧
      ¬ (scans 1).Throughout (Fair 1) (Tracking.start none)
        [homeScan, crowdedScan] := by
  have reached : ((scans 1).run (Tracking.start none)
      [homeScan, crowdedScan]).bind (·.last) =
        some ⟨["1.1.1.1", "2.2.2.2"], ["2.2.2.2"], ["1.1.1.1"], ["1.1.1.1"],
          ["1.1.1.1"]⟩ := by decide +kernel
  refine ⟨reached, ?_⟩
  intro fair
  obtain ⟨final, run, last⟩ := Option.bind_eq_some_iff.mp reached
  have unseen := (fair.final _ run _ last).protects "1.1.1.1" (by simp)
    (by simp) "2.2.2.2" (by simp)
  simp at unseen

end VpnUi.Job
