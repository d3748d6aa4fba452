import VpnUi.Radius.Ledger

namespace VpnUi.Radius

open Foundation Panel Address Nft

/-! Conservation of counted bytes over whole interleaved runs. -/

namespace SubStep

/-- The bytes of a session a pending sub-step is about to charge. -/
def carries (owner : Owner) : SubStep → Nat
  | .credit _ tally => tally.of owner
  | .creditAll batch => total owner batch
  | _ => 0

/-- A pending charge reaches the sessions of its e-mail only. -/
def Honest : SubStep → Prop
  | .credit email tally =>
      ∀ owner, owner.email ≠ email → tally.of owner = 0
  | .creditAll batch =>
      ∀ entry ∈ batch, ∀ owner, owner.email ≠ entry.1 →
        entry.2.of owner = 0
  | _ => True

end SubStep

namespace Ledger

variable {net next : Ledger} {owner : Owner}

def carried (owner : Owner) (thread : List SubStep) : Nat :=
  (thread.map (SubStep.carries owner)).sum

/-- The bytes of a session that some handler is about to charge. -/
def inFlight (net : Ledger) (owner : Owner) : Nat :=
  (net.threads.map (carried owner)).sum

/-- The bytes of a session charged to its own e-mail. -/
def creditedTo (net : Ledger) (owner : Owner) : Nat :=
  total owner (net.credited.filter fun entry => entry.1 == owner.email)

/-- No counted byte of a session is lost, none is charged to another e-mail or
on its way there, each is in one place, and what was counted by the last
collection has been charged unless a handler is still about to charge it. -/
structure Faithful (net : Ledger) : Prop where
  lossless : ∀ owner, net.dropped.of owner = 0
  honest : ∀ entry ∈ net.credited, ∀ owner, owner.email ≠ entry.1 →
    entry.2.of owner = 0
  pending : ∀ thread ∈ net.threads, ∀ sub ∈ thread, sub.Honest
  once : ∀ owner, net.counted.of owner =
    net.table.held owner + net.inFlight owner + net.creditedTo owner
  timely : ∀ owner, net.inFlight owner = 0 →
    net.collectedUpTo.of owner ≤ net.creditedTo owner

/-- Every counted byte is somewhere, and the counters hold what was counted
since the last collection at most. -/
structure Balanced (net : Ledger) : Prop where
  sum : ∀ owner, net.counted.of owner =
    net.table.held owner + net.inFlight owner + total owner net.credited +
      net.dropped.of owner
  recent : ∀ owner, net.table.held owner + net.collectedUpTo.of owner ≤
    net.counted.of owner

/-- The counters a sub-step empties or deletes hold what it expects: a read
finds bytes of its e-mail only, a deletion none of any session, a collection
only such as its snapshot maps to the e-mail they were counted for; and a batch
charges no e-mail twice. -/
def SoundStep (net : Ledger) : SubStep → Prop
  | .readCounters email protocol ip =>
      ∀ owner, owner.email ≠ email → ∀ direction,
        net.table.bytesOf owner ⟨protocol, direction, ip⟩ = 0
  | .removeCounters protocol ip =>
      ∀ owner direction,
        net.table.bytesOf owner ⟨protocol, direction, ip⟩ = 0
  | .collect _ snapshot =>
      ∀ name owner, net.table.bytesOf owner name ≠ 0 →
        snapshot.lookup (name.protocol, name.ip) = some owner.email
  | .creditAll batch => RepeatsEmpty [] batch
  | _ => True

def Sound (net : Ledger) : LedgerEvent → Prop
  | .advance thread =>
      match net.threads[thread]? with
      | some (sub :: _) => net.SoundStep sub
      | _ => True
  | _ => True

theorem total_filter_of_honest {entries : List (String × Tally)}
    (honest : ∀ entry ∈ entries, ∀ owner : Owner, owner.email ≠ entry.1 →
      entry.2.of owner = 0) :
    total owner (entries.filter fun entry => entry.1 == owner.email) =
      total owner entries := by
  induction entries with
  | nil => rfl
  | cons head tail induction =>
      have rest := induction fun entry member =>
        honest entry (List.mem_cons_of_mem head member)
      rw [List.filter_cons]
      split
      · unfold total at rest ⊢
        simp only [List.map_cons, List.sum_cons, rest]
      next other =>
        have zero : head.2.of owner = 0 := by
          apply honest head List.mem_cons_self owner
          intro same
          exact other (by simp [same])
        unfold total at rest ⊢
        simp only [List.map_cons, List.sum_cons, rest, zero, Nat.zero_add]

/-- In a balanced state the accounting half of faithfulness follows from the
other half. -/
theorem Faithful.of_balanced (balanced : net.Balanced)
    (lossless : ∀ owner, net.dropped.of owner = 0)
    (honest : ∀ entry ∈ net.credited, ∀ owner, owner.email ≠ entry.1 →
      entry.2.of owner = 0)
    (pending : ∀ thread ∈ net.threads, ∀ sub ∈ thread, sub.Honest) :
    net.Faithful where
  lossless := lossless
  honest := honest
  pending := pending
  once owner := by
    have sum := balanced.sum owner
    have none := lossless owner
    have whole : net.creditedTo owner = total owner net.credited :=
      total_filter_of_honest honest
    omega
  timely owner idle := by
    have sum := balanced.sum owner
    have none := lossless owner
    have recent := balanced.recent owner
    have whole : net.creditedTo owner = total owner net.credited :=
      total_filter_of_honest honest
    omega

theorem total_zeros (report : List String) :
    total owner (report.map fun email => (email, (0 : Tally))) = 0 := by
  induction report with
  | nil => rfl
  | cons email rest induction => simpa [total] using induction

/-- A sub-step moves bytes between the counters, the charges its handler is
about to make, the rows and the dropped ones; it makes and loses none. -/
theorem perform_balanced {sub : SubStep} {rest : List SubStep}
    (done : net.perform sub = some (next, rest)) :
    next.threads = net.threads ∧ next.counted = net.counted ∧
    (∀ owner, next.table.held owner + carried owner rest +
        total owner next.credited + next.dropped.of owner =
      net.table.held owner + sub.carries owner +
        total owner net.credited + net.dropped.of owner) ∧
    ((∀ owner, net.table.held owner + net.collectedUpTo.of owner ≤
        net.counted.of owner) →
      ∀ owner, next.table.held owner + next.collectedUpTo.of owner ≤
        net.counted.of owner) := by
  cases sub with
  | forget sid =>
      simp only [perform, Option.some.injEq, Prod.mk.injEq] at done
      obtain ⟨rfl, rfl⟩ := done
      exact ⟨rfl, rfl, fun _ => rfl, id⟩
  | forgetStale sid =>
      simp only [perform] at done
      split at done
      · cases done
      · obtain ⟨session, -, same⟩ := Option.map_eq_some_iff.mp done
        obtain ⟨rfl, rfl⟩ := Prod.mk.inj same
        exact ⟨rfl, rfl, fun _ => rfl, id⟩
  | readCounters email protocol ip =>
      simp only [perform, Option.some.injEq, Prod.mk.injEq] at done
      obtain ⟨rfl, rfl⟩ := done
      refine ⟨rfl, rfl, fun owner => ?_, fun recent owner => ?_⟩
      · have taken := net.table.of_readAndReset owner protocol ip
        have held := net.table.held_readAndReset owner protocol ip
        simp only [carried, List.map_cons, List.map_nil, List.sum_cons,
          List.sum_nil, SubStep.carries, taken]
        omega
      · have held := net.table.held_readAndReset owner protocol ip
        have before := recent owner
        simp only
        omega
  | credit email tally =>
      simp only [perform] at done
      split at done
      · simp only [Option.some.injEq, Prod.mk.injEq] at done
        obtain ⟨rfl, rfl⟩ := done
        refine ⟨rfl, rfl, fun owner => ?_, id⟩
        simp only [carried, List.map_nil, List.sum_nil, SubStep.carries,
          Tally.of_add]
        omega
      · simp only [Option.some.injEq, Prod.mk.injEq] at done
        obtain ⟨rfl, rfl⟩ := done
        refine ⟨rfl, rfl, fun owner => ?_, id⟩
        simp only [carried, List.map_nil, List.sum_nil, SubStep.carries,
          total, List.map_cons, List.sum_cons]
        omega
  | removeCounters protocol ip =>
      simp only [perform, Option.some.injEq, Prod.mk.injEq] at done
      obtain ⟨rfl, rfl⟩ := done
      refine ⟨rfl, rfl, fun owner => ?_, fun recent owner => ?_⟩
      · have held := net.table.held_removeClientAccounting owner protocol ip
        simp only [carried, List.map_nil, List.sum_nil, SubStep.carries,
          Tally.of_add, AcctTable.of_getD_lookup]
        unfold AcctTable.bytesOn at held
        omega
      · have held := net.table.held_removeClientAccounting owner protocol ip
        have before := recent owner
        simp only
        omega
  | addCounters protocol ip =>
      simp only [perform, Option.some.injEq, Prod.mk.injEq] at done
      obtain ⟨rfl, rfl⟩ := done
      refine ⟨rfl, rfl, fun owner => ?_, fun recent owner => ?_⟩
      · simp only [AcctTable.held_addClientAccounting, carried,
          List.map_nil, List.sum_nil, SubStep.carries]
      · simpa only [AcctTable.held_addClientAccounting] using recent owner
  | settle service =>
      simp only [perform, Option.some.injEq, Prod.mk.injEq] at done
      obtain ⟨rfl, rfl⟩ := done
      exact ⟨rfl, rfl, fun _ => rfl, id⟩
  | collect report snapshot =>
      simp only [perform, Option.some.injEq, Prod.mk.injEq] at done
      obtain ⟨rfl, rfl⟩ := done
      have emptied : ∀ owner, AcctTable.held { net.table with
          counters := net.table.counters.fill 0 } owner = 0 :=
        fun owner => KeyMap.sumOver_fill _ rfl
      refine ⟨rfl, rfl, fun owner => ?_, fun recent owner => ?_⟩
      · have moved := total_collected snapshot owner net.table.listing
        have held := net.table.held_eq_listing owner
        simp only [emptied, carried, List.map_cons, List.map_nil,
          List.sum_cons, List.sum_nil, SubStep.carries, total_append,
          total_zeros, Tally.of_add]
        omega
      · simp only [emptied]
        omega
  | creditAll batch =>
      simp only [perform, Option.some.injEq, Prod.mk.injEq] at done
      obtain ⟨rfl, rfl⟩ := done
      refine ⟨rfl, rfl, fun owner => ?_, id⟩
      have charged := total_addClientTraffic owner [] batch
      simp only [carried, List.map_nil, List.sum_nil, SubStep.carries,
        total_append, Tally.of_add]
      omega

/-- A sub-step charges and drops as it should exactly when it is sound. -/
theorem perform_faithful_iff {sub : SubStep} {rest : List SubStep}
    (done : net.perform sub = some (next, rest))
    (lossless : ∀ owner, net.dropped.of owner = 0)
    (honest : ∀ entry ∈ net.credited, ∀ owner, owner.email ≠ entry.1 →
      entry.2.of owner = 0)
    (pending : sub.Honest) :
    ((∀ owner, next.dropped.of owner = 0) ∧
      (∀ entry ∈ next.credited, ∀ owner, owner.email ≠ entry.1 →
        entry.2.of owner = 0) ∧
      ∀ later ∈ rest, later.Honest) ↔ net.SoundStep sub := by
  cases sub with
  | forget sid =>
      simp only [perform, Option.some.injEq, Prod.mk.injEq] at done
      obtain ⟨rfl, rfl⟩ := done
      exact ⟨fun _ => trivial, fun _ => ⟨lossless, honest, by simp⟩⟩
  | forgetStale sid =>
      simp only [perform] at done
      split at done
      · cases done
      · obtain ⟨session, -, same⟩ := Option.map_eq_some_iff.mp done
        obtain ⟨rfl, rfl⟩ := Prod.mk.inj same
        exact ⟨fun _ => trivial,
          fun _ => ⟨lossless, honest, by simp [SubStep.Honest]⟩⟩
  | readCounters email protocol ip =>
      simp only [perform, Option.some.injEq, Prod.mk.injEq] at done
      obtain ⟨rfl, rfl⟩ := done
      simp only [List.mem_singleton, forall_eq, SubStep.Honest, SoundStep,
        AcctTable.of_readAndReset, AcctTable.bytesOn_eq_zero]
      exact ⟨fun charged => charged.2.2,
        fun sound => ⟨lossless, honest, sound⟩⟩
  | credit email tally =>
      simp only [perform] at done
      split at done
      next nameless =>
        simp only [Option.some.injEq, Prod.mk.injEq] at done
        obtain ⟨rfl, rfl⟩ := done
        refine ⟨fun _ => trivial, fun _ => ⟨fun owner => ?_, honest,
          by simp⟩⟩
        have none := pending owner (fun same =>
          owner.named (same.trans nameless))
        rw [Tally.of_add, none, lossless owner]
      next =>
        simp only [Option.some.injEq, Prod.mk.injEq] at done
        obtain ⟨rfl, rfl⟩ := done
        refine ⟨fun _ => trivial, fun _ => ⟨lossless, ?_, by simp⟩⟩
        rw [List.forall_mem_cons]
        exact ⟨pending, honest⟩
  | removeCounters protocol ip =>
      simp only [perform, Option.some.injEq, Prod.mk.injEq] at done
      obtain ⟨rfl, rfl⟩ := done
      have deleted : (∀ owner, ((net.table.counters.lookup
            ⟨protocol, .up, ip⟩).getD 0 +
          (net.table.counters.lookup ⟨protocol, .down, ip⟩).getD 0 +
          net.dropped).of owner = 0) ↔
          net.SoundStep (.removeCounters protocol ip) := by
        refine forall_congr' fun owner => ?_
        rw [← AcctTable.bytesOn_eq_zero]
        simp only [Tally.of_add, AcctTable.of_getD_lookup, lossless owner,
          Nat.add_zero, AcctTable.bytesOn]
      rw [← deleted]
      exact ⟨And.left, fun none => ⟨none, honest, by simp⟩⟩
  | addCounters protocol ip =>
      simp only [perform, Option.some.injEq, Prod.mk.injEq] at done
      obtain ⟨rfl, rfl⟩ := done
      exact ⟨fun _ => trivial, fun _ => ⟨lossless, honest, by simp⟩⟩
  | settle service =>
      simp only [perform, Option.some.injEq, Prod.mk.injEq] at done
      obtain ⟨rfl, rfl⟩ := done
      exact ⟨fun _ => trivial, fun _ => ⟨lossless, honest, by simp⟩⟩
  | collect report snapshot =>
      simp only [perform, Option.some.injEq, Prod.mk.injEq] at done
      obtain ⟨rfl, rfl⟩ := done
      have reported : ∀ entry ∈ report.map fun email =>
          (email, (0 : Tally)), ∀ owner, owner.email ≠ entry.1 →
            entry.2.of owner = 0 := by
        intro entry member owner _
        obtain ⟨email, -, rfl⟩ := List.mem_map.mp member
        rfl
      rw [SoundStep, ← collected_honest_iff]
      simp only [Tally.of_add, lossless, Nat.add_zero, List.mem_singleton,
        forall_eq, SubStep.Honest, List.forall_mem_append]
      constructor
      · intro charged
        exact ⟨charged.1, charged.2.2.2⟩
      · intro sound
        exact ⟨sound.1, honest, reported, sound.2⟩
  | creditAll batch =>
      simp only [perform, Option.some.injEq, Prod.mk.injEq] at done
      obtain ⟨rfl, rfl⟩ := done
      rw [SoundStep, ← addClientTraffic_lossless_iff]
      simp only [Tally.of_add, lossless, Nat.add_zero,
        List.forall_mem_append]
      constructor
      · exact And.left
      · intro none
        refine ⟨none, ⟨?_, honest⟩, by simp⟩
        intro entry member
        exact pending entry (addClientTraffic_subset [] batch member)

/-- What a handler starts with charges nothing. -/
def Quiet : SubStep → Prop
  | .credit _ _ => False
  | .creditAll _ => False
  | _ => True

theorem Quiet.carries {sub : SubStep} (quiet : Quiet sub) :
    sub.carries owner = 0 := by
  cases sub with
  | credit email tally => exact absurd quiet id
  | creditAll batch => exact absurd quiet id
  | _ => rfl

theorem Quiet.honest {sub : SubStep} (quiet : Quiet sub) : sub.Honest := by
  cases sub with
  | credit email tally => exact absurd quiet id
  | creditAll batch => exact absurd quiet id
  | _ => trivial

theorem quiet_subSteps (effect : Effect) :
    ∀ sub ∈ effect.subSteps, Quiet sub := by
  intro sub member
  cases effect with
  | disconnect protocol inboundId ip => cases member
  | _ =>
      rw [List.mem_singleton.mp member]
      trivial

theorem quiet_reclaimSteps (effect : Effect) :
    ∀ sub ∈ RadiusService.reclaimSteps effect, Quiet sub := by
  intro sub member
  cases effect with
  | removeAccounting protocol ip =>
      simp only [RadiusService.reclaimSteps, List.mem_cons,
        List.not_mem_nil, or_false] at member
      cases member with
      | inl same =>
          rw [same]
          trivial
      | inr same =>
          rw [same]
          trivial
  | fold email protocol ip => exact quiet_subSteps (.fold ..) sub member
  | addAccounting protocol ip =>
      exact quiet_subSteps (.addAccounting ..) sub member
  | disconnect protocol inboundId ip => cases member

theorem quiet_evictSteps (service : RadiusService) (dial : Dial)
    (host : DialHost) : ∀ sub ∈ service.evictSteps dial host, Quiet sub := by
  intro sub member
  unfold RadiusService.evictSteps at member
  split at member
  · rcases List.mem_cons.mp member with same | later
    · rw [same]
      trivial
    · obtain ⟨effect, -, listed⟩ := List.mem_flatMap.mp later
      exact quiet_subSteps effect sub listed
  · cases member

theorem quiet_authSteps (service : RadiusService) (dial : Dial)
    (host : DialHost) : ∀ sub ∈ service.authSteps dial host, Quiet sub := by
  intro sub member
  unfold RadiusService.authSteps at member
  rcases List.mem_append.mp member with begun | ended
  · split at begun
    · cases begun
    · rcases List.mem_append.mp begun with reclaimed | evicted
      · obtain ⟨effect, -, listed⟩ := List.mem_flatMap.mp reclaimed
        exact quiet_reclaimSteps effect sub listed
      · exact quiet_evictSteps _ dial host sub evicted
  · rcases List.mem_cons.mp ended with same | later
    · rw [same]
      trivial
    · split at later
      · rw [List.mem_singleton.mp later]
        trivial
      · cases later

theorem carried_of_quiet {thread : List SubStep}
    (quiet : ∀ sub ∈ thread, Quiet sub) : carried owner thread = 0 := by
  apply List.sum_eq_zero_iff_forall_eq_nat.mpr
  rw [List.forall_mem_map]
  exact fun sub member => (quiet sub member).carries

theorem carried_append (first second : List SubStep) :
    carried owner (first ++ second) =
      carried owner first + carried owner second := by
  simp [carried]

/-- A handler that starts moves no byte. -/
theorem Balanced.spawn {thread : List SubStep} {radius : RadiusService}
    {locked : Bool} (balanced : net.Balanced)
    (quiet : ∀ sub ∈ thread, Quiet sub) :
    Balanced ({ net with radius := radius, locked := locked }.spawn
      thread) where
  sum owner := by
    have sum := balanced.sum owner
    have none : carried owner thread = 0 := carried_of_quiet quiet
    have begun : inFlight ({ net with
        radius := radius, locked := locked }.spawn thread) owner =
        carried owner thread + net.inFlight owner := rfl
    rw [begun, none, Nat.zero_add]
    exact sum
  recent := balanced.recent

theorem spawn_faithful_iff {thread : List SubStep} {radius : RadiusService}
    {locked : Bool} (balanced : net.Balanced) (faithful : net.Faithful)
    (quiet : ∀ sub ∈ thread, Quiet sub) :
    Faithful ({ net with radius := radius, locked := locked }.spawn
      thread) := by
  refine .of_balanced (balanced.spawn quiet) faithful.lossless
    faithful.honest ?_
  intro kept listed
  rcases List.mem_cons.mp listed with same | before
  · rw [same]
    exact fun sub member => (quiet sub member).honest
  · exact faithful.pending kept before

theorem Balanced.countOn {name : CounterName} {tally : Tally}
    (balanced : net.Balanced) (counted : net.countOn name tally = some next) :
    next.Balanced ∧ next.threads = net.threads ∧
      next.credited = net.credited ∧ next.dropped = net.dropped := by
  unfold Ledger.countOn at counted
  split at counted
  · obtain ⟨before, found, rfl⟩ := Option.map_eq_some_iff.mp counted
    have added : ∀ owner, AcctTable.held { net.table with
        counters := net.table.counters.insert name (tally + before) } owner =
        tally.of owner + net.table.held owner := by
      intro owner
      have inserted := KeyMap.sumOver_insert net.table.counters
        (Tally.of owner) name (tally + before)
      rw [KeyMap.measureAt, found, Tally.of_add] at inserted
      simp only [Option.elim_some] at inserted
      unfold AcctTable.held
      simp only
      omega
    refine ⟨⟨fun owner => ?_, fun owner => ?_⟩, rfl, rfl, rfl⟩
    · have sum := balanced.sum owner
      simp only [added, Tally.of_add, inFlight] at sum ⊢
      omega
    · have recent := balanced.recent owner
      simp only [added, Tally.of_add]
      omega
  · cases counted

theorem Balanced.count_faithful {name : CounterName} {tally : Tally}
    (balanced : net.Balanced) (faithful : net.Faithful)
    (counted : net.countOn name tally = some next) : next.Faithful := by
  obtain ⟨after, threads, credited, dropped⟩ := balanced.countOn counted
  refine .of_balanced after ?_ ?_ ?_
  · rw [dropped]
    exact faithful.lossless
  · rw [credited]
    exact faithful.honest
  · rw [threads]
    exact faithful.pending

/-- What `advance` does, with the handler it serves taken out of the list. -/
theorem advance_eq_some {thread : Nat} (done : net.advance thread = some next) :
    ∃ sub rest later middle,
      net.threads[thread]? = some (sub :: rest) ∧
      net.threads.Perm ((sub :: rest) :: net.threads.eraseIdx thread) ∧
      net.perform sub = some (middle, later) ∧
      next = { middle with
        threads := (later ++ rest) :: net.threads.eraseIdx thread } := by
  unfold advance at done
  split at done
  next sub rest found =>
    obtain ⟨⟨middle, later⟩, performed, rfl⟩ := Option.map_eq_some_iff.mp done
    obtain ⟨inside, same⟩ := List.getElem?_eq_some_iff.mp found
    have moved := List.getElem_cons_eraseIdx_perm inside
    rw [same] at moved
    exact ⟨sub, rest, later, middle, found, moved.symm, performed, rfl⟩
  next => cases done

theorem Balanced.advance {thread : Nat} (balanced : net.Balanced)
    (done : net.advance thread = some next) : next.Balanced := by
  obtain ⟨sub, rest, later, middle, -, moved, performed, rfl⟩ :=
    advance_eq_some done
  obtain ⟨-, counted, sums, recent⟩ := perform_balanced performed
  refine ⟨fun owner => ?_, fun owner => ?_⟩
  · have sum := balanced.sum owner
    have shifted := sums owner
    have before : net.inFlight owner =
        sub.carries owner + carried owner rest +
          ((net.threads.eraseIdx thread).map (carried owner)).sum := by
      unfold inFlight
      rw [(moved.map (carried owner)).sum_eq]
      rfl
    simp only [inFlight, List.map_cons, List.sum_cons, carried_append,
      counted] at *
    omega
  · simp only [counted]
    exact recent balanced.recent owner

theorem advance_faithful_iff {thread : Nat} (balanced : net.Balanced)
    (faithful : net.Faithful) (done : net.advance thread = some next) :
    next.Faithful ↔ net.Sound (.advance thread) := by
  have after := balanced.advance done
  obtain ⟨sub, rest, later, middle, found, moved, performed, rfl⟩ :=
    advance_eq_some done
  have chosen : ∀ kept ∈ sub :: rest, kept.Honest :=
    faithful.pending (sub :: rest) (moved.mem_iff.mpr List.mem_cons_self)
  have sound : net.Sound (.advance thread) ↔ net.SoundStep sub := by
    simp only [Sound, found]
  rw [sound, ← perform_faithful_iff performed faithful.lossless
    faithful.honest (chosen sub List.mem_cons_self)]
  constructor
  · intro good
    refine ⟨good.lossless, good.honest, fun kept member => ?_⟩
    exact good.pending (later ++ rest) List.mem_cons_self kept
      (List.mem_append_left rest member)
  · intro good
    refine .of_balanced after good.1 good.2.1 ?_
    simp only
    rw [List.forall_mem_cons, List.forall_mem_append]
    refine ⟨⟨good.2.2, fun kept member =>
      chosen kept (List.mem_cons_of_mem sub member)⟩, ?_⟩
    intro other member
    exact faithful.pending other (List.mem_of_mem_eraseIdx member)

/-- A handler's first step leaves a quiet thread, or none. -/
theorem step_quiet {event : LedgerEvent} (stepped : net.step event = some next)
    (starts : ∀ thread, event ≠ .advance thread) :
    (∃ name tally, net.countOn name tally = some next) ∨ next = net ∨
    ∃ radius locked thread, (∀ sub ∈ thread, Quiet sub) ∧
      next = { net with radius := radius, locked := locked }.spawn
        thread := by
  cases event with
  | advance thread => exact absurd rfl (starts thread)
  | count sid direction bytes =>
      obtain ⟨session, -, counted⟩ := Option.bind_eq_some_iff.mp stepped
      exact .inl ⟨_, _, counted⟩
  | stray name bytes =>
      simp only [step] at stepped
      split at stepped
      · cases stepped
      · exact .inl ⟨_, _, stepped⟩
  | acct packet email now =>
      simp only [step] at stepped
      split at stepped
      · cases stepped
      · refine .inr (.inr ⟨_, net.locked, _, ?_,
          (Option.some.inj stepped).symm⟩)
        intro sub member
        obtain ⟨effect, -, listed⟩ := List.mem_flatMap.mp member
        exact quiet_subSteps effect sub listed
  | auth dial host =>
      simp only [step] at stepped
      split at stepped
      · cases stepped
      · exact .inr (.inr ⟨net.radius, true, _, quiet_authSteps _ dial host,
          (Option.some.inj stepped).symm⟩)
  | sweep active =>
      simp only [step] at stepped
      split at stepped
      · cases stepped
      · have same := (Option.some.inj stepped).symm
        unfold startSweep at same
        split at same
        · exact .inr (.inl same)
        · refine .inr (.inr ⟨_, net.locked, _, ?_, same⟩)
          rw [List.forall_mem_cons, List.forall_mem_map]
          exact ⟨trivial, fun _ _ => trivial⟩
  | collection report order =>
      simp only [step] at stepped
      split at stepped
      · cases stepped
      · refine .inr (.inr ⟨net.radius, net.locked, _, ?_,
          (Option.some.inj stepped).symm⟩)
        intro sub member
        rw [List.mem_singleton.mp member]
        trivial

theorem Balanced.step {event : LedgerEvent} (balanced : net.Balanced)
    (stepped : net.step event = some next) : next.Balanced := by
  by_cases advancing : ∃ thread, event = .advance thread
  · obtain ⟨thread, rfl⟩ := advancing
    exact balanced.advance stepped
  · rcases step_quiet stepped (fun thread same => advancing ⟨thread, same⟩)
      with ⟨name, tally, counted⟩ | rfl | ⟨radius, locked, thread, quiet, rfl⟩
    · exact (balanced.countOn counted).1
    · exact balanced
    · exact balanced.spawn quiet

theorem step_faithful_iff {event : LedgerEvent} (balanced : net.Balanced)
    (faithful : net.Faithful) (stepped : net.step event = some next) :
    next.Faithful ↔ net.Sound event := by
  by_cases advancing : ∃ thread, event = .advance thread
  · obtain ⟨thread, rfl⟩ := advancing
    exact advance_faithful_iff balanced faithful stepped
  · have unconditional : net.Sound event := by
      cases event with
      | advance thread => exact absurd ⟨thread, rfl⟩ advancing
      | _ => trivial
    refine ⟨fun _ => unconditional, fun _ => ?_⟩
    rcases step_quiet stepped (fun thread same => advancing ⟨thread, same⟩)
      with ⟨name, tally, counted⟩ | rfl | ⟨radius, locked, thread, quiet, rfl⟩
    · exact balanced.count_faithful faithful counted
    · exact faithful
    · exact spawn_faithful_iff balanced faithful quiet

theorem sound_of_refused {event : LedgerEvent} (refused : net.step event = none) :
    net.Sound event := by
  cases event with
  | advance thread =>
      simp only [Sound]
      split
      next sub rest found =>
        simp only [step, advance, found, Option.map_eq_none_iff] at refused
        cases sub with
        | readCounters email protocol ip => cases refused
        | removeCounters protocol ip => cases refused
        | collect report snapshot => cases refused
        | creditAll batch => cases refused
        | _ => trivial
      next => trivial
  | _ => trivial

theorem Balanced.initial : Ledger.initial.Balanced :=
  ⟨fun _ => rfl, fun _ => le_rfl⟩

/-- Every interleaving from a fresh start charges each session's bytes to its
own e-mail once, and in time, exactly when all its sub-steps are sound. -/
theorem faithful_throughout_iff (events : List LedgerEvent) :
    machine.Throughout Faithful initial events ↔
      machine.Guarded Sound initial events := by
  refine machine.throughout_iff_guarded
    (fun net event next balanced stepped => Balanced.step balanced stepped)
    (fun net event next balanced faithful stepped =>
      step_faithful_iff balanced faithful stepped)
    (fun net event refused => sound_of_refused refused)
    Balanced.initial ?_
  refine .of_balanced Balanced.initial (fun _ => rfl) ?_ ?_
  · intro entry member
    cases member
  · intro thread member
    cases member

/-- The stale sweep deletes the counters of a session it ends without reading
them. -/
theorem unfaithful_after_sweep :
    ¬ ∀ events, machine.Throughout Faithful initial events := by
  intro always
  have faithful := (always [
    .acct ⟨.start, "s1", .l2tp, some ⟨⟨10, 0, 0⟩, 2⟩⟩ "alice" 0,
    .advance 0, .count "s1" .up 100, .sweep fun _ _ => false,
    .advance 0]).final _ rfl
  have none := faithful.lossless ⟨"s1", "alice", by decide⟩
  exact absurd none (by decide)

end Ledger

end VpnUi.Radius
