import Mathlib.Data.List.Basic

namespace VpnUi.Foundation

/-! Deterministic labelled machines, their runs, and the two rules by which a
property is carried along a run. -/

/-- A machine answers an event at a state with the next state, or refuses. -/
structure Machine (State Event : Type*) where
  step : State → Event → Option State

namespace Machine

variable {State Event : Type*} (machine : Machine State Event)

/-- Perform a list of events, stopping at the first refusal. -/
def run : State → List Event → Option State
  | state, [] => some state
  | state, event :: events =>
      (machine.step state event).bind fun next => run next events

/-- Every step of the run meets `guard` at the state it starts from. -/
def Guarded (guard : State → Event → Prop) : State → List Event → Prop
  | _, [] => True
  | state, event :: events =>
      guard state event ∧
        ∀ next, machine.step state event = some next →
          Guarded guard next events

/-- Every state the run visits, its first one included, satisfies `property`. -/
def Throughout (property : State → Prop) : State → List Event → Prop
  | state, [] => property state
  | state, event :: events =>
      property state ∧
        ∀ next, machine.step state event = some next →
          Throughout property next events

instance decidableGuarded (guard : State → Event → Prop)
    [∀ state event, Decidable (guard state event)] :
    ∀ state events, Decidable (machine.Guarded guard state events)
  | _, [] => isTrue trivial
  | state, event :: events =>
      have : Decidable (∀ next, machine.step state event = some next →
          machine.Guarded guard next events) :=
        match stepped : machine.step state event with
        | none => isTrue fun _ other => by cases other
        | some next =>
            have := decidableGuarded guard next events
            decidable_of_iff (machine.Guarded guard next events)
              ⟨fun guarded _ same => Option.some.inj same ▸ guarded,
                fun later => later next rfl⟩
      inferInstanceAs (Decidable (_ ∧ _))

@[simp] theorem run_nil (state : State) :
    machine.run state [] = some state := rfl

theorem run_cons_eq_some {state final : State} {event : Event}
    {events : List Event} :
    machine.run state (event :: events) = some final ↔
      ∃ next, machine.step state event = some next ∧
        machine.run next events = some final := by
  simp [run, Option.bind_eq_some_iff]

theorem run_append (state : State) (first second : List Event) :
    machine.run state (first ++ second) =
      (machine.run state first).bind fun middle =>
        machine.run middle second := by
  induction first generalizing state with
  | nil => rfl
  | cons event rest induction =>
      simp only [List.cons_append, run]
      cases stepped : machine.step state event with
      | none => rfl
      | some next => simpa using induction next

/-- Rounds that each lead from one scene to the next. -/
theorem run_rounds {scene : Nat → State} {round : Nat → List Event}
    {bound : Nat}
    (each : ∀ count < bound,
      machine.run (scene count) (round count) = some (scene (count + 1)))
    (count : Nat) (within : count ≤ bound) :
    machine.run (scene 0) ((List.range count).flatMap round) =
      some (scene count) := by
  induction count with
  | zero => rfl
  | succ count induction =>
      rw [List.range_succ, List.flatMap_append, List.flatMap_singleton,
        run_append, induction (Nat.le_of_succ_le within), Option.bind_some]
      exact each count within

/-- A property that every guarded step keeps holds throughout a guarded run. -/
theorem throughout_of_guarded {guard : State → Event → Prop}
    {invariant : State → Prop}
    (preserved : ∀ state event next, invariant state → guard state event →
      machine.step state event = some next → invariant next)
    {state : State} {events : List Event}
    (initial : invariant state)
    (guarded : machine.Guarded guard state events) :
    machine.Throughout invariant state events := by
  induction events generalizing state with
  | nil => exact initial
  | cons event rest induction =>
      refine ⟨initial, fun next stepped => ?_⟩
      exact induction
        (preserved state event next initial guarded.1 stepped)
        (guarded.2 next stepped)

/-- A property that every step keeps holds throughout every run. -/
theorem throughout_of_preserved {invariant : State → Prop}
    (preserved : ∀ state event next, invariant state →
      machine.step state event = some next → invariant next)
    {state : State} (initial : invariant state) (events : List Event) :
    machine.Throughout invariant state events := by
  induction events generalizing state with
  | nil => exact initial
  | cons event rest induction =>
      refine ⟨initial, fun next stepped => ?_⟩
      exact induction (preserved state event next initial stepped)

/-- What is known of every event can join the guard. -/
theorem Guarded.and {guard : State → Event → Prop} {known : Event → Prop}
    {state : State} {events : List Event}
    (guarded : machine.Guarded guard state events)
    (all : ∀ event ∈ events, known event) :
    machine.Guarded (fun state event => guard state event ∧ known event)
      state events := by
  induction events generalizing state with
  | nil => trivial
  | cons event rest induction =>
      refine ⟨⟨guarded.1, all event List.mem_cons_self⟩, fun next stepped => ?_⟩
      exact induction (guarded.2 next stepped) fun later member =>
        all later (List.mem_cons_of_mem _ member)

/-- Where the run ends, what holds throughout it holds. -/
theorem Throughout.final {property : State → Prop} {state final : State}
    {events : List Event}
    (throughout : machine.Throughout property state events)
    (reached : machine.run state events = some final) : property final := by
  induction events generalizing state with
  | nil =>
      cases reached
      exact throughout
  | cons event rest induction =>
      obtain ⟨next, stepped, finished⟩ :=
        (run_cons_eq_some machine).mp reached
      exact induction (throughout.2 next stepped) finished

theorem Throughout.imp {property weaker : State → Prop} {state : State}
    {events : List Event}
    (weaken : ∀ state, property state → weaker state)
    (throughout : machine.Throughout property state events) :
    machine.Throughout weaker state events := by
  induction events generalizing state with
  | nil => exact weaken state throughout
  | cons event rest induction =>
      exact ⟨weaken state throughout.1, fun next stepped =>
        induction (throughout.2 next stepped)⟩

/-- A property that every step keeps holds at the end of every run. -/
theorem run_invariant {invariant : State → Prop}
    (preserved : ∀ state event next, invariant state →
      machine.step state event = some next → invariant next)
    {state final : State} {events : List Event}
    (initial : invariant state)
    (reached : machine.run state events = some final) : invariant final := by
  induction events generalizing state with
  | nil =>
      cases reached
      exact initial
  | cons event rest induction =>
      obtain ⟨next, stepped, finished⟩ :=
        (run_cons_eq_some machine).mp reached
      exact induction (preserved state event next initial stepped) finished

/-- What no step can bring back holds throughout a run that ends with it. -/
theorem throughout_of_final {property : State → Prop}
    (lost : ∀ state event next, ¬ property state →
      machine.step state event = some next → ¬ property next)
    {state final : State} {events : List Event}
    (reached : machine.run state events = some final)
    (holds : property final) :
    machine.Throughout property state events := by
  induction events generalizing state with
  | nil =>
      cases reached
      exact holds
  | cons event rest induction =>
      obtain ⟨next, stepped, finished⟩ :=
        (run_cons_eq_some machine).mp reached
      refine ⟨?_, fun other same => ?_⟩
      · by_contra bad
        exact machine.run_invariant lost bad reached holds
      · obtain rfl := Option.some.inj (stepped.symm.trans same)
        exact induction finished

/-- Guards that agree wherever an invariant holds have the same guarded runs. -/
theorem guarded_congr {guard other : State → Event → Prop}
    {invariant : State → Prop}
    (preserved : ∀ state event next, invariant state →
      machine.step state event = some next → invariant next)
    (agree : ∀ state event, invariant state →
      (guard state event ↔ other state event))
    {state : State} {events : List Event} (initial : invariant state) :
    machine.Guarded guard state events ↔
      machine.Guarded other state events := by
  induction events generalizing state with
  | nil => exact Iff.rfl
  | cons event rest induction =>
      refine and_congr (agree state event initial) (forall_congr' fun next => ?_)
      exact forall_congr' fun stepped =>
        induction (preserved state event next initial stepped)

/-- A guard is exact when, from a good state, the next state is good precisely
if the guard held.  Then the runs that stay good are the guarded ones. -/
theorem throughout_iff_guarded {guard : State → Event → Prop}
    {invariant property : State → Prop}
    (preserved : ∀ state event next, invariant state →
      machine.step state event = some next → invariant next)
    (exact_ : ∀ state event next, invariant state → property state →
      machine.step state event = some next →
        (property next ↔ guard state event))
    (refused : ∀ state event, machine.step state event = none →
      guard state event)
    {state : State} {events : List Event}
    (initial : invariant state) (good : property state) :
    machine.Throughout property state events ↔
      machine.Guarded guard state events := by
  induction events generalizing state with
  | nil => exact ⟨fun _ => trivial, fun _ => good⟩
  | cons event rest induction =>
      constructor
      · intro throughout
        refine ⟨?_, fun next stepped => ?_⟩
        · cases stepped : machine.step state event with
          | none => exact refused state event stepped
          | some next =>
              have nextGood : property next := by
                have later := throughout.2 next stepped
                cases rest with
                | nil => exact later
                | cons _ _ => exact later.1
              exact (exact_ state event next initial good stepped).mp nextGood
        · have nextGood : property next := by
            have later := throughout.2 next stepped
            cases rest with
            | nil => exact later
            | cons _ _ => exact later.1
          exact (induction (preserved state event next initial stepped)
            nextGood).mp (throughout.2 next stepped)
      · intro guarded
        refine ⟨good, fun next stepped => ?_⟩
        exact (induction (preserved state event next initial stepped)
          ((exact_ state event next initial good stepped).mpr guarded.1)).mpr
          (guarded.2 next stepped)

end Machine

end VpnUi.Foundation
