import Mathlib.Data.List.Induction
import Mathlib.Data.List.Sort
import VpnUi.Foundation.KeyMap

namespace VpnUi.Job

open Foundation

/-! The tracked addresses of one client: merging those of a scan into the
stored ones, and what the limit keeps and bans. -/

structure IPWithTimestamp where
  ip : String
  timestamp : Int
  deriving DecidableEq

def ipStaleAfterSeconds : Int := 30 * 60

abbrev IpMap := KeyMap String Int

/-- A stored entry: the last one of an address counts. -/
def keepOld (staleCutoff : Int) (ipMap : IpMap) (ipTime : IPWithTimestamp) :
    IpMap :=
  if ipTime.timestamp < staleCutoff then ipMap
  else ipMap.insert ipTime.ip ipTime.timestamp

/-- The latest time of an address counts. -/
def keepLatest (ipMap : IpMap) (ipTime : IPWithTimestamp) : IpMap :=
  match ipMap.lookup ipTime.ip with
  | some existingTime =>
      if existingTime < ipTime.timestamp then
        ipMap.insert ipTime.ip ipTime.timestamp
      else ipMap
  | none => ipMap.insert ipTime.ip ipTime.timestamp

def keepNew (staleCutoff : Int) (ipMap : IpMap) (ipTime : IPWithTimestamp) :
    IpMap :=
  if ipTime.timestamp < staleCutoff then ipMap else keepLatest ipMap ipTime

def mergeClientIps (old new : List IPWithTimestamp) (staleCutoff : Int) :
    IpMap :=
  new.foldl (keepNew staleCutoff) (old.foldl (keepOld staleCutoff) ∅)

/-- The entries of a map, in some order. -/
def entriesOf (ipMap : IpMap) : List IPWithTimestamp :=
  ipMap.entries.map fun entry => ⟨entry.1, entry.2⟩

/-- `sort.Slice` by time: entries of one time end up in any order. -/
structure TimeSort where
  sort : List IPWithTimestamp → List IPWithTimestamp
  perm : ∀ entries, (sort entries).Perm entries
  sorted : ∀ entries, (sort entries).Pairwise (·.timestamp ≤ ·.timestamp)

def earlier (left right : IPWithTimestamp) : Prop :=
  left.timestamp ≤ right.timestamp

instance : DecidableRel earlier := fun left right =>
  inferInstanceAs (Decidable (left.timestamp ≤ right.timestamp))

instance : Std.Total earlier :=
  ⟨fun left right => Int.le_total left.timestamp right.timestamp⟩

instance : IsTrans IPWithTimestamp earlier :=
  ⟨fun _ _ _ => Int.le_trans⟩

/-- A sort that keeps the order of entries of one time. -/
def TimeSort.insertion : TimeSort where
  sort := List.insertionSort earlier
  perm := List.perm_insertionSort earlier
  sorted := List.pairwise_insertionSort earlier

/-- The live entries, seen in this scan, and the others. -/
def partitionLiveIps (order : TimeSort) (ipMap : IpMap)
    (observedThisScan : List String) :
    List IPWithTimestamp × List IPWithTimestamp :=
  (order.sort ((entriesOf ipMap).filter (·.ip ∈ observedThisScan)),
    order.sort ((entriesOf ipMap).filter (·.ip ∉ observedThisScan)))

/-- What the limit makes of a scan. -/
structure Enforcement where
  keptLive : List IPWithTimestamp
  bannedLive : List IPWithTimestamp
  historicalIps : List IPWithTimestamp

/-- The part of `updateInboundClientIps` behind the lookup of the limit. -/
def enforce (order : TimeSort) (limitIp : Nat) (now : Int)
    (old new : List IPWithTimestamp) : Enforcement :=
  let ipMap := mergeClientIps old new (now - ipStaleAfterSeconds)
  let (liveIps, historicalIps) :=
    partitionLiveIps order ipMap (new.map IPWithTimestamp.ip)
  if limitIp < liveIps.length then
    ⟨liveIps.take limitIp, liveIps.drop limitIp, historicalIps⟩
  else ⟨liveIps, [], historicalIps⟩

/-- The entries that are stored. -/
def Enforcement.dbIps (enforcement : Enforcement) : List IPWithTimestamp :=
  enforcement.keptLive ++ enforcement.historicalIps

section Merge

variable {old new : List IPWithTimestamp} {ipMap : IpMap} {ip : String}
  {staleCutoff time : Int} {entry : IPWithTimestamp}

theorem lookup_insert_eq {key : String} :
    (ipMap.insert key time).lookup ip =
      if ip = key then some time else ipMap.lookup ip := by
  by_cases same : ip = key
  · subst same
    rw [if_pos rfl, AList.lookup_insert]
  · rw [if_neg same, AList.lookup_insert_ne same]

/-- A time below the cutoff never enters. -/
theorem isSome_lookup_keepOld :
    ((keepOld staleCutoff ipMap entry).lookup ip).isSome ↔
      (ipMap.lookup ip).isSome ∨
        (entry.ip = ip ∧ staleCutoff ≤ entry.timestamp) := by
  unfold keepOld
  split
  next stale =>
    have fresh : ¬ staleCutoff ≤ entry.timestamp := by omega
    simp [fresh]
  next fresh =>
    have fresh : staleCutoff ≤ entry.timestamp := by omega
    rw [lookup_insert_eq]
    by_cases same : ip = entry.ip
    · simp [same, fresh]
    · simp [same, Ne.symm same]

theorem isSome_lookup_keepNew :
    ((keepNew staleCutoff ipMap entry).lookup ip).isSome ↔
      (ipMap.lookup ip).isSome ∨
        (entry.ip = ip ∧ staleCutoff ≤ entry.timestamp) := by
  unfold keepNew
  split
  next stale =>
    have fresh : ¬ staleCutoff ≤ entry.timestamp := by omega
    simp [fresh]
  next fresh =>
    have fresh : staleCutoff ≤ entry.timestamp := by omega
    unfold keepLatest
    by_cases same : ip = entry.ip
    · subst same
      cases known : ipMap.lookup entry.ip with
      | none => simp [fresh]
      | some existing =>
          simp only [fresh, Option.isSome_some, true_or, iff_true]
          split
          · simp
          · simp [known]
    · cases ipMap.lookup entry.ip with
      | none => simp [same, Ne.symm same]
      | some existing =>
          simp only [Ne.symm same, false_and, or_false]
          split
          · rw [lookup_insert_eq, if_neg same]
          · rfl

/-- An address is in the map exactly with a fresh time. -/
theorem isSome_lookup_merge :
    ((mergeClientIps old new staleCutoff).lookup ip).isSome ↔
      ∃ entry ∈ old ++ new, entry.ip = ip ∧
        staleCutoff ≤ entry.timestamp := by
  have folded : ∀ (keep : IpMap → IPWithTimestamp → IpMap),
      (∀ ipMap entry, ((keep ipMap entry).lookup ip).isSome ↔
        (ipMap.lookup ip).isSome ∨
          (entry.ip = ip ∧ staleCutoff ≤ entry.timestamp)) →
      ∀ (entries : List IPWithTimestamp) (ipMap : IpMap),
        ((entries.foldl keep ipMap).lookup ip).isSome ↔
          (ipMap.lookup ip).isSome ∨ ∃ entry ∈ entries, entry.ip = ip ∧
            staleCutoff ≤ entry.timestamp := by
    intro keep each entries
    induction entries with
    | nil => simp
    | cons head tail induction =>
        intro ipMap
        rw [List.foldl_cons, induction, each]
        simp only [List.mem_cons, exists_eq_or_imp, or_assoc]
  rw [mergeClientIps, folded _ fun _ _ => isSome_lookup_keepNew,
    folded _ fun _ _ => isSome_lookup_keepOld]
  simp [or_and_right, exists_or]

theorem lookup_keepNew_ne (other : entry.ip ≠ ip) :
    (keepNew staleCutoff ipMap entry).lookup ip = ipMap.lookup ip := by
  unfold keepNew keepLatest
  split
  · rfl
  · split
    · split
      · exact AList.lookup_insert_ne other.symm
      · rfl
    · exact AList.lookup_insert_ne other.symm

theorem lookup_foldl_keepNew_ne
    (others : ∀ entry ∈ new, entry.ip ≠ ip) :
    (new.foldl (keepNew staleCutoff) ipMap).lookup ip = ipMap.lookup ip := by
  induction new generalizing ipMap with
  | nil => rfl
  | cons head tail induction =>
      rw [List.forall_mem_cons] at others
      rw [List.foldl_cons, induction others.2, lookup_keepNew_ne others.1]

theorem mem_old_of_lookup
    (known : (old.foldl (keepOld staleCutoff) ∅).lookup ip = some time) :
    ∃ entry ∈ old, entry.ip = ip ∧ entry.timestamp = time := by
  induction old using List.reverseRecOn with
  | nil => cases known
  | append_singleton init last induction =>
      rw [List.foldl_append] at known
      change (keepOld staleCutoff _ last).lookup ip = some time at known
      unfold keepOld at known
      split at known
      · obtain ⟨entry, member, named⟩ := induction known
        exact ⟨entry, List.mem_append_left _ member, named⟩
      · rw [lookup_insert_eq] at known
        split at known
        next same =>
          exact ⟨last, by simp, same.symm, Option.some.inj known⟩
        next =>
          obtain ⟨entry, member, named⟩ := induction known
          exact ⟨entry, List.mem_append_left _ member, named⟩

/-- An entry of the scan has its own time, unless a later one is stored. -/
theorem lookup_merge_new (distinct : (new.map IPWithTimestamp.ip).Nodup)
    (member : entry ∈ new) (fresh : staleCutoff ≤ entry.timestamp)
    (later : ∀ stored ∈ old, stored.ip = entry.ip →
      stored.timestamp ≤ entry.timestamp) :
    (mergeClientIps old new staleCutoff).lookup entry.ip =
      some entry.timestamp := by
  obtain ⟨before, after, rfl⟩ := List.append_of_mem member
  have apart : (∀ other ∈ before, other.ip ≠ entry.ip) ∧
      ∀ other ∈ after, other.ip ≠ entry.ip := by
    rw [List.map_append, List.map_cons, List.nodup_middle, List.nodup_cons,
      List.mem_append, not_or] at distinct
    obtain ⟨⟨absentBefore, absentAfter⟩, -⟩ := distinct
    exact ⟨fun other listed same =>
        absentBefore (List.mem_map.mpr ⟨other, listed, same⟩),
      fun other listed same =>
        absentAfter (List.mem_map.mpr ⟨other, listed, same⟩)⟩
  rw [mergeClientIps, List.foldl_append, List.foldl_cons,
    lookup_foldl_keepNew_ne apart.2, keepNew, if_neg (by omega), keepLatest,
    lookup_foldl_keepNew_ne apart.1]
  cases known : (old.foldl (keepOld staleCutoff) ∅).lookup entry.ip with
  | none => exact AList.lookup_insert _
  | some existing =>
      obtain ⟨stored, listed, named, rfl⟩ := mem_old_of_lookup known
      have bound := later stored listed named
      dsimp only
      split
      · exact AList.lookup_insert _
      · rw [lookup_foldl_keepNew_ne apart.1, known]
        exact congrArg some (by omega)

theorem mem_entriesOf :
    entry ∈ entriesOf ipMap ↔ ipMap.lookup entry.ip = some entry.timestamp := by
  rw [← KeyMap.mem_entries_iff, entriesOf, List.mem_map]
  constructor
  · intro listed
    obtain ⟨pair, member, rfl⟩ := listed
    exact member
  · intro member
    exact ⟨_, member, rfl⟩

theorem nodup_entriesOf (ipMap : IpMap) :
    ((entriesOf ipMap).map IPWithTimestamp.ip).Nodup := by
  rw [entriesOf, List.map_map]
  exact ipMap.nodupKeys

/-- The live entries are the fresh ones of the scan. -/
theorem live_perm (distinct : (new.map IPWithTimestamp.ip).Nodup)
    (later : ∀ stored ∈ old, ∀ seen ∈ new, stored.ip = seen.ip →
      stored.timestamp ≤ seen.timestamp) :
    ((entriesOf (mergeClientIps old new staleCutoff)).filter
        (·.ip ∈ new.map IPWithTimestamp.ip)).Perm
      (new.filter (staleCutoff ≤ ·.timestamp)) := by
  have distinctEntries : ∀ entries : List IPWithTimestamp,
      (entries.map IPWithTimestamp.ip).Nodup → entries.Nodup :=
    fun _ => List.Nodup.of_map _
  rw [List.perm_ext_iff_of_nodup
    ((distinctEntries _ (nodup_entriesOf _)).filter _)
    ((distinctEntries _ distinct).filter _)]
  intro entry
  simp only [List.mem_filter, mem_entriesOf, decide_eq_true_eq]
  constructor
  · intro live
    obtain ⟨known, observed⟩ := live
    obtain ⟨seen, member, named⟩ := List.mem_map.mp observed
    have sameIp : ∀ stored ∈ old ++ new, stored.ip = entry.ip →
        stored.timestamp ≤ seen.timestamp := by
      intro stored listed same
      rcases List.mem_append.mp listed with stale | fresh
      · exact later stored stale seen member (same.trans named.symm)
      · have equal := List.inj_on_of_nodup_map distinct fresh member
          (same.trans named.symm)
        rw [equal]
    have someKnown : ((mergeClientIps old new staleCutoff).lookup
        entry.ip).isSome := by
      rw [known]
      rfl
    obtain ⟨stored, listed, same, fresh⟩ := isSome_lookup_merge.mp someKnown
    have freshSeen := fresh.trans (sameIp stored listed same)
    have found := lookup_merge_new distinct member freshSeen
      fun stored listed => later stored listed seen member
    rw [named, known] at found
    obtain rfl : entry = seen := by
      obtain ⟨ip, timestamp⟩ := entry
      obtain ⟨seenIp, seenTime⟩ := seen
      simp only [Option.some.injEq] at found named
      rw [found, named]
    exact ⟨member, freshSeen⟩
  · intro fresh
    exact ⟨lookup_merge_new distinct fresh.1 fresh.2
        fun stored listed => later stored listed entry fresh.1,
      List.mem_map_of_mem fresh.1⟩

end Merge

section Enforce

variable {order : TimeSort} {limitIp : Nat} {now : Int}
  {old new : List IPWithTimestamp} {entry : IPWithTimestamp}

/-- The live entries, oldest first. -/
def liveIps (order : TimeSort) (now : Int) (old new : List IPWithTimestamp) :
    List IPWithTimestamp :=
  order.sort ((entriesOf (mergeClientIps old new
    (now - ipStaleAfterSeconds))).filter (·.ip ∈ new.map IPWithTimestamp.ip))

/-- The limit keeps the oldest live entries and bans the others. -/
theorem enforce_live :
    (enforce order limitIp now old new).keptLive =
        (liveIps order now old new).take limitIp ∧
      (enforce order limitIp now old new).bannedLive =
        (liveIps order now old new).drop limitIp := by
  by_cases exceeded : limitIp < (liveIps order now old new).length
  · have cut : enforce order limitIp now old new =
        ⟨(liveIps order now old new).take limitIp,
          (liveIps order now old new).drop limitIp, _⟩ := if_pos exceeded
    rw [cut]
    exact ⟨rfl, rfl⟩
  · have whole : enforce order limitIp now old new =
        ⟨liveIps order now old new, [], _⟩ := if_neg exceeded
    have short := Nat.le_of_not_lt exceeded
    rw [whole, List.take_of_length_le short, List.drop_of_length_le short]
    exact ⟨rfl, rfl⟩

theorem kept_append_banned :
    (enforce order limitIp now old new).keptLive ++
      (enforce order limitIp now old new).bannedLive =
        liveIps order now old new := by
  rw [enforce_live.1, enforce_live.2, List.take_append_drop]

theorem length_kept_le :
    (enforce order limitIp now old new).keptLive.length ≤ limitIp := by
  rw [enforce_live.1]
  exact List.length_take_le _ _

theorem liveIps_perm (distinct : (new.map IPWithTimestamp.ip).Nodup)
    (later : ∀ stored ∈ old, ∀ seen ∈ new, stored.ip = seen.ip →
      stored.timestamp ≤ seen.timestamp) :
    (liveIps order now old new).Perm
      (new.filter (now - ipStaleAfterSeconds ≤ ·.timestamp)) :=
  (order.perm _).trans (live_perm distinct later)

end Enforce

end VpnUi.Job
