import Mathlib.Algebra.BigOperators.Group.List.Basic
import VpnUi.Nft.AcctTable

namespace VpnUi.Nft

open Foundation Panel Address Radius

/-! Counter contents that remember whose traffic they are, and the periodic
collection that empties all counters at once. -/

/-- The session a byte is counted for. -/
structure Owner where
  sessionID : String
  email : String
  named : email ≠ ""
  deriving DecidableEq

/-- The bytes of a counter, by the session that had its address when they were
counted.  The code keeps their sum only. -/
structure Tally where
  owned : List (Owner × Nat)
  unowned : Nat
  deriving DecidableEq

namespace Tally

instance : Zero Tally := ⟨⟨[], 0⟩⟩

instance : Add Tally where
  add first second :=
    ⟨first.owned ++ second.owned, first.unowned + second.unowned⟩

def bytes (tally : Tally) : Nat :=
  (tally.owned.map Prod.snd).sum + tally.unowned

def of (owner : Owner) (tally : Tally) : Nat :=
  ((tally.owned.filter fun part => part.1 == owner).map Prod.snd).sum

/-- `count` bytes of a session, or of no account if its e-mail is empty. -/
def single (sessionID email : String) (count : Nat) : Tally :=
  if named : email = "" then ⟨[], count⟩
  else ⟨[(⟨sessionID, email, named⟩, count)], 0⟩

@[simp] theorem of_zero (owner : Owner) : (0 : Tally).of owner = 0 := rfl

@[simp] theorem of_add (owner : Owner) (first second : Tally) :
    (first + second).of owner = first.of owner + second.of owner := by
  change ((((first.owned ++ second.owned).filter _).map _).sum : Nat) = _
  rw [List.filter_append, List.map_append, List.sum_append]
  rfl

theorem of_le_bytes (owner : Owner) (tally : Tally) :
    tally.of owner ≤ tally.bytes := by
  have kept : tally.of owner ≤ (tally.owned.map Prod.snd).sum := by
    unfold of
    generalize tally.owned = parts
    induction parts with
    | nil => exact le_rfl
    | cons head tail induction =>
        rw [List.filter_cons]
        split <;> simp only [List.map_cons, List.sum_cons] <;> omega
  unfold bytes
  omega

end Tally

namespace AcctTable

/-- The bytes of a session in one counter. -/
def bytesOf (table : AcctTable Tally) (owner : Owner) (name : CounterName) :
    Nat :=
  table.counters.measureAt (Tally.of owner) name

/-- The bytes of a session in all counters. -/
def held (table : AcctTable Tally) (owner : Owner) : Nat :=
  table.counters.sumOver (Tally.of owner)

end AcctTable

/-- The answers of `GetSessions` for all protocols: who has which address. -/
abbrev Snapshot := KeyMap (VpnProtocol × Ipv4) String

/-- Sessions are visited in `order`; a later one overwrites an earlier one of
its address. -/
def getSessions (order : List (String × RadiusSession)) : Snapshot :=
  order.foldl (fun result entry =>
    result.insert (entry.2.protocol, entry.2.ip) entry.2.email) ∅

/-- One counter of the reset output, added to the e-mail its address is mapped
to. -/
def accumulate (snapshot : Snapshot) (protocol : VpnProtocol)
    (trafficMap : KeyMap String Tally) (counter : CounterName × Tally) :
    KeyMap String Tally :=
  if counter.1.protocol = protocol ∧ counter.2.bytes ≠ 0 then
    match snapshot.lookup (protocol, counter.1.ip) with
    | some email =>
        trafficMap.insert email
          ((trafficMap.lookup email).getD 0 + counter.2)
    | none => trafficMap
  else trafficMap

def trafficMap (snapshot : Snapshot) (counters : List (CounterName × Tally))
    (protocol : VpnProtocol) : KeyMap String Tally :=
  counters.foldl (accumulate snapshot protocol) ∅

def backends : List VpnProtocol :=
  [.l2tp, .pptp, .openvpn, .openconnect, .sstp]

/-- The five traffic slices, one after the other. -/
def collected (snapshot : Snapshot)
    (counters : List (CounterName × Tally)) : List (String × Tally) :=
  backends.flatMap fun protocol =>
    (trafficMap snapshot counters protocol).entries.map fun entry =>
      (entry.1, entry.2)

/-- What the collection zeroes without an e-mail to charge it to. -/
def discarded (snapshot : Snapshot) :
    List (CounterName × Tally) → Tally
  | [] => 0
  | counter :: rest =>
      match snapshot.lookup (counter.1.protocol, counter.1.ip) with
      | some _ => discarded snapshot rest
      | none => counter.2 + discarded snapshot rest

/-- `addClientTraffic`: every row takes the first entry of its e-mail, so a
later one of the same e-mail goes nowhere. -/
def addClientTraffic (seen : List String) :
    List (String × Tally) → List (String × Tally) × Tally
  | [] => ([], 0)
  | (email, tally) :: rest =>
      let later := addClientTraffic (email :: seen) rest
      if email ∈ seen then (later.1, tally + later.2)
      else ((email, tally) :: later.1, later.2)

section Sums

/-- The bytes of a session in a list of credits. -/
def total (owner : Owner) (entries : List (String × Tally)) : Nat :=
  (entries.map fun entry => entry.2.of owner).sum

theorem total_append (owner : Owner) (first second : List (String × Tally)) :
    total owner (first ++ second) =
      total owner first + total owner second := by
  simp [total]

variable {snapshot : Snapshot} {owner : Owner} {protocol : VpnProtocol}

/-- The part of a counter that one protocol's slice takes over. -/
def share (snapshot : Snapshot) (owner : Owner) (protocol : VpnProtocol)
    (counter : CounterName × Tally) : Nat :=
  if counter.1.protocol = protocol ∧
      snapshot.lookup (protocol, counter.1.ip) ≠ none
  then counter.2.of owner else 0

theorem sumOver_accumulate (entries : KeyMap String Tally)
    (counter : CounterName × Tally) :
    (accumulate snapshot protocol entries counter).sumOver
        (Tally.of owner) =
      entries.sumOver (Tally.of owner) +
        share snapshot owner protocol counter := by
  have small := Tally.of_le_bytes owner counter.2
  unfold accumulate share
  by_cases here : counter.1.protocol = protocol
  · cases mapped : snapshot.lookup (protocol, counter.1.ip) with
    | none => simp
    | some email =>
        by_cases empty : counter.2.bytes = 0
        · have zero : counter.2.of owner = 0 := by omega
          simp [empty, zero]
        · have inserted := KeyMap.sumOver_insert entries (Tally.of owner)
            email ((entries.lookup email).getD 0 + counter.2)
          have before : ((entries.lookup email).getD 0).of owner =
              entries.measureAt (Tally.of owner) email := by
            unfold KeyMap.measureAt
            cases entries.lookup email <;> rfl
          rw [Tally.of_add, before] at inserted
          simp only [here, empty, ne_eq, not_false_eq_true, and_self,
            if_true, reduceCtorEq]
          omega
  · simp [here]

theorem sumOver_trafficMap (counters : List (CounterName × Tally)) :
    (trafficMap snapshot counters protocol).sumOver (Tally.of owner) =
      (counters.map (share snapshot owner protocol)).sum := by
  have folded : ∀ start : KeyMap String Tally,
      (counters.foldl (accumulate snapshot protocol) start).sumOver
          (Tally.of owner) =
        start.sumOver (Tally.of owner) +
          (counters.map (share snapshot owner protocol)).sum := by
    induction counters with
    | nil => intro start; rfl
    | cons head tail induction =>
        intro start
        rw [List.foldl_cons, induction, sumOver_accumulate, List.map_cons,
          List.sum_cons, Nat.add_assoc]
  rw [trafficMap, folded]
  simp

theorem total_collected_eq (counters : List (CounterName × Tally)) :
    total owner (collected snapshot counters) =
      (backends.map fun protocol =>
        (trafficMap snapshot counters protocol).sumOver
          (Tally.of owner)).sum := by
  unfold collected
  induction backends with
  | nil => rfl
  | cons head tail induction =>
      rw [List.flatMap_cons, total_append, induction]
      simp [total, KeyMap.sumOver, Function.comp_def]

theorem sum_share (counter : CounterName × Tally) :
    (backends.map fun protocol =>
        share snapshot owner protocol counter).sum =
      if snapshot.lookup (counter.1.protocol, counter.1.ip) = none then 0
      else counter.2.of owner := by
  obtain ⟨⟨protocol, direction, ip⟩, tally⟩ := counter
  cases protocol <;> simp [backends, share]

theorem of_discarded_cons (counter : CounterName × Tally)
    (rest : List (CounterName × Tally)) :
    (discarded snapshot (counter :: rest)).of owner =
      (if snapshot.lookup (counter.1.protocol, counter.1.ip) = none then
        counter.2.of owner else 0) + (discarded snapshot rest).of owner := by
  rw [discarded]
  cases snapshot.lookup (counter.1.protocol, counter.1.ip) <;> simp

/-- A collection takes over, or discards, exactly what the counters held. -/
theorem total_collected (snapshot : Snapshot) (owner : Owner)
    (counters : List (CounterName × Tally)) :
    total owner (collected snapshot counters) +
        (discarded snapshot counters).of owner =
      (counters.map fun counter => counter.2.of owner).sum := by
  rw [total_collected_eq]
  simp only [sumOver_trafficMap]
  induction counters with
  | nil => rfl
  | cons counter rest induction =>
      have split : (backends.map fun protocol =>
          ((counter :: rest).map (share snapshot owner protocol)).sum).sum =
          (backends.map fun protocol =>
            share snapshot owner protocol counter).sum +
          (backends.map fun protocol =>
            (rest.map (share snapshot owner protocol)).sum).sum := by
        simp only [List.map_cons, List.sum_cons]
        exact List.sum_map_add
      rw [split, sum_share, of_discarded_cons, List.map_cons, List.sum_cons]
      split_ifs <;> omega

/-- What the slice of a protocol charges to an e-mail is what the counters of
its addresses held. -/
theorem of_trafficMap (counters : List (CounterName × Tally))
    (email : String) :
    (((trafficMap snapshot counters protocol).lookup email).getD 0).of
        owner =
      (counters.map fun counter =>
        if counter.1.protocol = protocol ∧
          snapshot.lookup (protocol, counter.1.ip) = some email
        then counter.2.of owner else 0).sum := by
  have folded : ∀ start : KeyMap String Tally,
      (((counters.foldl (accumulate snapshot protocol) start).lookup
          email).getD 0).of owner =
        ((start.lookup email).getD 0).of owner +
        (counters.map fun counter =>
          if counter.1.protocol = protocol ∧
            snapshot.lookup (protocol, counter.1.ip) = some email
          then counter.2.of owner else 0).sum := by
    induction counters with
    | nil => intro start; rfl
    | cons head tail induction =>
        intro start
        have small := Tally.of_le_bytes owner head.2
        rw [List.foldl_cons, induction, List.map_cons, List.sum_cons,
          ← Nat.add_assoc]
        congr 1
        unfold accumulate
        by_cases here : head.1.protocol = protocol
        · by_cases empty : head.2.bytes = 0
          · have zero : head.2.of owner = 0 := by omega
            simp [empty, zero]
          · cases mapped : snapshot.lookup (protocol, head.1.ip) with
            | none => simp
            | some found =>
                by_cases same : found = email
                · subst same
                  simp [here, empty]
                · have other : email ≠ found := fun equal => same equal.symm
                  simp [here, empty, same, AList.lookup_insert_ne other]
        · simp [here]
  rw [trafficMap, folded]
  simp

/-- A batch whose later entries of an e-mail are empty is credited in full. -/
def RepeatsEmpty (seen : List String) : List (String × Tally) → Prop
  | [] => True
  | (email, tally) :: rest =>
      (email ∈ seen → ∀ owner, tally.of owner = 0) ∧
        RepeatsEmpty (email :: seen) rest

theorem total_addClientTraffic (owner : Owner) (seen : List String)
    (batch : List (String × Tally)) :
    total owner (addClientTraffic seen batch).1 +
        (addClientTraffic seen batch).2.of owner =
      total owner batch := by
  induction batch generalizing seen with
  | nil => rfl
  | cons entry rest induction =>
      obtain ⟨email, tally⟩ := entry
      have later := induction (email :: seen)
      have head : total owner ((email, tally) :: rest) =
          tally.of owner + total owner rest := rfl
      rw [head, addClientTraffic]
      split_ifs
      · simp only [Tally.of_add]
        omega
      · simp only
        have taken : total owner ((email, tally) ::
            (addClientTraffic (email :: seen) rest).1) =
            tally.of owner +
              total owner (addClientTraffic (email :: seen) rest).1 := rfl
        omega

theorem addClientTraffic_subset (seen : List String)
    (batch : List (String × Tally)) :
    (addClientTraffic seen batch).1 ⊆ batch := by
  induction batch generalizing seen with
  | nil => exact fun _ => id
  | cons entry rest induction =>
      obtain ⟨email, tally⟩ := entry
      have later := induction (email :: seen)
      unfold addClientTraffic
      simp only
      split_ifs
      · exact fun found member => List.mem_cons_of_mem _ (later member)
      · exact List.cons_subset_cons _ later

theorem addClientTraffic_lossless_iff (seen : List String)
    (batch : List (String × Tally)) :
    (∀ owner, (addClientTraffic seen batch).2.of owner = 0) ↔
      RepeatsEmpty seen batch := by
  induction batch generalizing seen with
  | nil => exact ⟨fun _ => trivial, fun _ _ => rfl⟩
  | cons entry rest induction =>
      obtain ⟨email, tally⟩ := entry
      have later := induction (email :: seen)
      unfold addClientTraffic RepeatsEmpty
      simp only
      split_ifs with repeated
      · rw [← later]
        simp only [Tally.of_add, Nat.add_eq_zero_iff, repeated,
          forall_const, forall_and]
      · simp [repeated, later]

end Sums

namespace AcctTable

section Held

variable (table : AcctTable Tally) (owner : Owner) (name : CounterName)
  (protocol : VpnProtocol) (ip : Ipv4)

theorem of_getD_lookup :
    ((table.counters.lookup name).getD 0).of owner =
      table.bytesOf owner name := by
  unfold bytesOf KeyMap.measureAt
  cases table.counters.lookup name <;> rfl

theorem held_resetCounter :
    (table.resetCounter name).1.held owner + table.bytesOf owner name =
      table.held owner := by
  unfold resetCounter held bytesOf
  cases found : table.counters.lookup name with
  | none => simp [KeyMap.measureAt, found]
  | some tally =>
      have inserted := KeyMap.sumOver_insert table.counters
        (Tally.of owner) name 0
      rw [Tally.of_zero, Nat.zero_add] at inserted
      exact inserted

theorem of_resetCounter :
    (table.resetCounter name).2.of owner = table.bytesOf owner name := by
  unfold resetCounter bytesOf KeyMap.measureAt
  cases table.counters.lookup name <;> rfl

theorem bytesOf_resetCounter {other : CounterName} (differs : other ≠ name) :
    (table.resetCounter name).1.bytesOf owner other =
      table.bytesOf owner other := by
  unfold resetCounter bytesOf KeyMap.measureAt
  cases table.counters.lookup name with
  | none => rfl
  | some tally => simp only [AList.lookup_insert_ne differs]

/-- The bytes of a session on both counters of a client. -/
def bytesOn : Nat :=
  table.bytesOf owner ⟨protocol, .up, ip⟩ +
    table.bytesOf owner ⟨protocol, .down, ip⟩

theorem bytesOn_eq_zero : table.bytesOn owner protocol ip = 0 ↔
    ∀ direction, table.bytesOf owner ⟨protocol, direction, ip⟩ = 0 := by
  unfold bytesOn
  rw [Nat.add_eq_zero_iff]
  constructor
  · intro both direction
    cases direction with
    | up => exact both.1
    | down => exact both.2
  · exact fun every => ⟨every .up, every .down⟩

theorem held_readAndReset :
    (table.readAndResetClientCounters protocol ip).1.held owner +
        table.bytesOn owner protocol ip = table.held owner := by
  have up := table.held_resetCounter owner ⟨protocol, .up, ip⟩
  have down := (table.resetCounter ⟨protocol, .up, ip⟩).1.held_resetCounter
    owner ⟨protocol, .down, ip⟩
  rw [bytesOf_resetCounter _ _ _ (by simp)] at down
  unfold readAndResetClientCounters bytesOn
  simp only
  omega

theorem of_readAndReset :
    ((table.readAndResetClientCounters protocol ip).2.1 +
      (table.readAndResetClientCounters protocol ip).2.2).of owner =
        table.bytesOn owner protocol ip := by
  unfold readAndResetClientCounters bytesOn
  rw [Tally.of_add, of_resetCounter, of_resetCounter,
    bytesOf_resetCounter _ _ _ (by simp)]

theorem held_removeClientAccounting :
    (table.removeClientAccounting protocol ip).held owner +
        table.bytesOn owner protocol ip = table.held owner := by
  have up := KeyMap.sumOver_erase table.counters (Tally.of owner)
    ⟨protocol, .up, ip⟩
  have down := KeyMap.sumOver_erase
    (table.counters.erase ⟨protocol, .up, ip⟩) (Tally.of owner)
    ⟨protocol, .down, ip⟩
  have kept : KeyMap.measureAt (table.counters.erase ⟨protocol, .up, ip⟩)
      (Tally.of owner) ⟨protocol, .down, ip⟩ =
        table.bytesOf owner ⟨protocol, .down, ip⟩ := by
    unfold KeyMap.measureAt bytesOf KeyMap.measureAt
    rw [AList.lookup_erase_ne (by simp)]
  unfold held removeClientAccounting bytesOn
  unfold bytesOf at kept ⊢
  simp only at kept ⊢
  omega

theorem held_addCounter :
    (table.addCounter name).held owner = table.held owner := by
  unfold addCounter
  split
  · rfl
  next absent =>
    have inserted := KeyMap.sumOver_insert table.counters
      (Tally.of owner) name 0
    have nothing : table.counters.measureAt (Tally.of owner) name = 0 := by
      unfold KeyMap.measureAt
      rw [AList.lookup_eq_none.mpr absent]
      rfl
    rw [Tally.of_zero, nothing] at inserted
    unfold held
    simp only
    omega

theorem held_addClientAccounting :
    (table.addClientAccounting protocol ip).held owner =
      table.held owner := by
  have counters : (table.addClientAccounting protocol ip).counters =
      ((table.addCounter ⟨protocol, .up, ip⟩).addCounter
        ⟨protocol, .down, ip⟩).counters := by
    unfold addClientAccounting
    simp only
    split <;> rfl
  have twice : ((table.addCounter ⟨protocol, .up, ip⟩).addCounter
      ⟨protocol, .down, ip⟩).held owner = table.held owner :=
    (held_addCounter _ _ _).trans (held_addCounter _ _ _)
  unfold held at twice ⊢
  rw [counters]
  exact twice

/-- The counters as the collection lists them. -/
def listing : List (CounterName × Tally) :=
  table.counters.entries.map fun entry => (entry.1, entry.2)

theorem held_eq_listing : table.held owner =
    (table.listing.map fun counter => counter.2.of owner).sum := by
  simp [held, listing, KeyMap.sumOver, Function.comp_def]

theorem bytesOf_of_mem {counter : CounterName × Tally}
    (member : counter ∈ table.listing) :
    table.bytesOf owner counter.1 = counter.2.of owner := by
  obtain ⟨entry, present, same⟩ := List.mem_map.mp member
  rw [← same]
  unfold bytesOf KeyMap.measureAt
  rw [KeyMap.mem_entries_iff.mp present]
  rfl

theorem mem_listing_of_bytesOf (some : table.bytesOf owner name ≠ 0) :
    ∃ tally, (name, tally) ∈ table.listing ∧ tally.of owner ≠ 0 := by
  unfold bytesOf KeyMap.measureAt at some
  cases found : table.counters.lookup name with
  | none =>
      rw [found] at some
      exact absurd rfl some
  | some tally =>
      rw [found] at some
      exact ⟨tally, List.mem_map.mpr
        ⟨⟨name, tally⟩, KeyMap.mem_entries_iff.mpr found, rfl⟩, some⟩

end Held

end AcctTable

theorem of_discarded_eq_zero_iff {snapshot : Snapshot} {owner : Owner}
    {counters : List (CounterName × Tally)} :
    (discarded snapshot counters).of owner = 0 ↔
      ∀ counter ∈ counters, counter.2.of owner ≠ 0 →
        snapshot.lookup (counter.1.protocol, counter.1.ip) ≠ none := by
  induction counters with
  | nil => simp [discarded]
  | cons head tail induction =>
      rw [of_discarded_cons, Nat.add_eq_zero_iff, induction,
        List.forall_mem_cons]
      refine and_congr_left' ?_
      split_ifs with unmapped
      · simp [unmapped]
      · simp [unmapped]

/-- A slice entry charges foreign bytes exactly when one of the counters mapped
to its e-mail holds some. -/
theorem of_trafficMap_eq_zero_iff {snapshot : Snapshot} {owner : Owner}
    {counters : List (CounterName × Tally)} {protocol : VpnProtocol}
    {email : String} :
    (((trafficMap snapshot counters protocol).lookup email).getD 0).of
        owner = 0 ↔
      ∀ counter ∈ counters, counter.1.protocol = protocol →
        snapshot.lookup (protocol, counter.1.ip) = some email →
          counter.2.of owner = 0 := by
  rw [of_trafficMap, List.sum_eq_zero_iff_forall_eq_nat,
    List.forall_mem_map]
  refine forall₂_congr fun counter member => ?_
  rw [ite_eq_right_iff, and_imp]

theorem mem_collected {snapshot : Snapshot}
    {counters : List (CounterName × Tally)} {entry : String × Tally} :
    entry ∈ collected snapshot counters ↔ ∃ protocol,
      (trafficMap snapshot counters protocol).lookup entry.1 =
        some entry.2 := by
  have every : ∀ protocol, protocol ∈ backends := by
    intro protocol
    cases protocol <;> simp [backends]
  unfold collected
  rw [List.mem_flatMap]
  constructor
  · intro listed
    obtain ⟨protocol, -, member⟩ := listed
    obtain ⟨pair, present, same⟩ := List.mem_map.mp member
    refine ⟨protocol, ?_⟩
    rw [← same]
    exact KeyMap.mem_entries_iff.mp present
  · intro charged
    obtain ⟨protocol, found⟩ := charged
    exact ⟨protocol, every protocol, List.mem_map.mpr
      ⟨⟨entry.1, entry.2⟩, KeyMap.mem_entries_iff.mpr found, rfl⟩⟩

/-- A collection charges and discards as it should exactly when its snapshot
maps every counter to the e-mail of the session it counted for. -/
theorem collected_honest_iff (snapshot : Snapshot) (table : AcctTable Tally) :
    ((∀ owner, (discarded snapshot table.listing).of owner = 0) ∧
      ∀ entry ∈ collected snapshot table.listing, ∀ owner,
        owner.email ≠ entry.1 → entry.2.of owner = 0) ↔
    ∀ name owner, table.bytesOf owner name ≠ 0 →
      snapshot.lookup (name.protocol, name.ip) = some owner.email := by
  constructor
  · intro faithful name owner some
    obtain ⟨tally, member, counts⟩ := table.mem_listing_of_bytesOf owner name
      some
    have mapped := of_discarded_eq_zero_iff.mp (faithful.1 owner)
      (name, tally) member counts
    obtain ⟨email, found⟩ := Option.ne_none_iff_exists'.mp mapped
    have charged : (((trafficMap snapshot table.listing
        name.protocol).lookup email).getD 0).of owner ≠ 0 := by
      rw [ne_eq, of_trafficMap_eq_zero_iff]
      intro nothing
      exact counts (nothing (name, tally) member rfl found)
    cases entry : (trafficMap snapshot table.listing name.protocol).lookup
        email with
    | none =>
        rw [entry] at charged
        exact absurd rfl charged
    | some slice =>
        rw [entry] at charged
        have same : owner.email = email := by
          by_contra differs
          exact charged (faithful.2 (email, slice)
            (mem_collected.mpr ⟨name.protocol, entry⟩) owner differs)
        rw [found, same]
  · intro mapped
    have every : ∀ counter ∈ table.listing, ∀ owner,
        counter.2.of owner ≠ 0 →
        snapshot.lookup (counter.1.protocol, counter.1.ip) =
          some owner.email := by
      intro counter member owner counts
      apply mapped
      rw [table.bytesOf_of_mem owner member]
      exact counts
    constructor
    · intro owner
      apply of_discarded_eq_zero_iff.mpr
      intro counter member counts
      rw [every counter member owner counts]
      simp
    · intro entry listed owner differs
      obtain ⟨protocol, found⟩ := mem_collected.mp listed
      have charged : (((trafficMap snapshot table.listing
          protocol).lookup entry.1).getD 0).of owner = 0 := by
        apply of_trafficMap_eq_zero_iff.mpr
        intro counter member here address
        by_contra counts
        have own := every counter member owner counts
        rw [here, address] at own
        exact differs (Option.some.inj own).symm
      rw [found] at charged
      exact charged

end VpnUi.Nft
