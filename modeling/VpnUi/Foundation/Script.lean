import Mathlib.Data.List.Basic

namespace VpnUi.Foundation

/-! Sequences of calls on a state, any of which may fail without an effect of
its own, and what the sequence does about a failure. -/

/-- What becomes of the earlier calls when one fails: it is ignored and the
sequence goes on; the sequence ends and everything is rolled back; or it ends
and the earlier calls stay. -/
inductive OnError
  | ignored
  | rolledBack
  | kept
  deriving DecidableEq

/-- A call that is not `fallible` fails only where its effect is undefined. -/
structure Call (State Error : Type*) where
  effect : State → Option State
  onError : OnError
  error : Error
  fallible : Bool

namespace Call

variable {State Error : Type*}

def attempt (call : Call State Error) (fault : Bool) (state : State) :
    Option State :=
  if fault && call.fallible then none else call.effect state

/-- Run the calls from a state, the first of them having this number. -/
def run (initial : State) (faults : Nat → Bool) :
    Nat → List (Call State Error) → State → Option Error × State
  | _, [], state => (none, state)
  | number, call :: rest, state =>
      match call.attempt (faults number) state with
      | some next => run initial faults (number + 1) rest next
      | none =>
          match call.onError with
          | .ignored => run initial faults (number + 1) rest state
          | .rolledBack => (some call.error, initial)
          | .kept => (some call.error, state)

variable {initial : State} {faults : Nat → Bool} {counts : Error → Prop}

theorem run_nil {number : Nat} {state : State} :
    run initial faults number ([] : List (Call State Error)) state =
      (none, state) := rfl

theorem run_cons {number : Nat} {call : Call State Error}
    {rest : List (Call State Error)} {state : State} :
    run initial faults number (call :: rest) state =
      match call.attempt (faults number) state with
      | some next => run initial faults (number + 1) rest next
      | none =>
          match call.onError with
          | .ignored => run initial faults (number + 1) rest state
          | .rolledBack => (some call.error, initial)
          | .kept => (some call.error, state) := rfl

/-- A second sequence runs where the first has ended without an error. -/
theorem run_append {number : Nat} {first second : List (Call State Error)}
    {state : State} :
    run initial faults number (first ++ second) state =
      match run initial faults number first state with
      | (none, reached) =>
          run initial faults (number + first.length) second reached
      | (some error, after) => (some error, after) := by
  induction first generalizing number state with
  | nil => rfl
  | cons call rest induction =>
      simp only [List.cons_append, run_cons, List.length_cons]
      rw [show number + (rest.length + 1) = number + 1 + rest.length by omega]
      cases call.attempt (faults number) state with
      | some next => exact induction
      | none =>
          cases call.onError with
          | ignored => exact induction
          | rolledBack => rfl
          | kept => rfl

theorem run_append_eq_none {number : Nat}
    {first second : List (Call State Error)} {state after : State} :
    run initial faults number (first ++ second) state = (none, after) ↔
      ∃ middle, run initial faults number first state = (none, middle) ∧
        run initial faults (number + first.length) second middle =
          (none, after) := by
  rw [run_append]
  cases ran : run initial faults number first state with
  | mk error middle =>
      cases error with
      | none => simp
      | some error => simp

/-- The error of a sequence is the error of one of its calls. -/
theorem run_error_mem {number : Nat} {calls : List (Call State Error)}
    {state after : State} {error : Error}
    (ran : run initial faults number calls state = (some error, after)) :
    ∃ call ∈ calls, call.error = error := by
  induction calls generalizing number state with
  | nil => cases ran
  | cons call rest induction =>
      have later : ∀ {reached}, run initial faults (number + 1) rest reached =
          (some error, after) → ∃ other ∈ call :: rest, other.error = error := by
        intro reached ended
        obtain ⟨other, member, same⟩ := induction ended
        exact ⟨other, List.mem_cons_of_mem call member, same⟩
      simp only [run_cons] at ran
      split at ran
      · exact later ran
      · split at ran
        · exact later ran
        · exact ⟨call, List.mem_cons_self, Option.some.inj (Prod.mk.inj ran).1⟩
        · exact ⟨call, List.mem_cons_self, Option.some.inj (Prod.mk.inj ran).1⟩

def noFaults (_ : Nat) : Bool := false

@[simp] theorem attempt_noFaults {call : Call State Error} {number : Nat}
    {state : State} : call.attempt (noFaults number) state = call.effect state :=
  rfl

/-- Without faults a call that is not ignored has had its effect. -/
theorem run_singleton_eq_none {number : Nat} {call : Call State Error}
    {state after : State} (heeded : call.onError ≠ .ignored) :
    run initial noFaults number [call] state = (none, after) ↔
      call.effect state = some after := by
  simp only [run_cons, run_nil, attempt_noFaults]
  cases call.effect state with
  | some next => simp
  | none =>
      cases policy : call.onError with
      | ignored => exact absurd policy heeded
      | rolledBack => simp
      | kept => simp

theorem run_cons_eq_none {number : Nat} {call : Call State Error}
    {rest : List (Call State Error)} {state after : State}
    (heeded : call.onError ≠ .ignored) :
    run initial noFaults number (call :: rest) state = (none, after) ↔
      ∃ middle, call.effect state = some middle ∧
        run initial noFaults (number + 1) rest middle = (none, after) := by
  rw [← List.singleton_append, run_append_eq_none]
  simp only [run_singleton_eq_none heeded]
  rfl

/-- What no call of a sequence changes is unchanged when it has succeeded. -/
theorem run_frame {Part : Type*} (part : State → Part) {number : Nat}
    {calls : List (Call State Error)} {state after : State}
    (frame : ∀ call ∈ calls, ∀ before next, call.effect before = some next →
      part next = part before)
    (ran : run initial faults number calls state = (none, after)) :
    part after = part state := by
  induction calls generalizing number state with
  | nil => rw [(Prod.mk.inj ran).2]
  | cons call rest induction =>
      have later := fun other member =>
        frame other (List.mem_cons_of_mem call member)
      simp only [run_cons] at ran
      cases attempted : call.attempt (faults number) state with
      | some next =>
          rw [attempted] at ran
          unfold attempt at attempted
          split at attempted
          · cases attempted
          · exact (induction later ran).trans
              (frame call List.mem_cons_self state next attempted)
      | none =>
          rw [attempted] at ran
          cases policy : call.onError with
          | ignored =>
              rw [policy] at ran
              exact induction later ran
          | rolledBack =>
              rw [policy] at ran
              cases ran
          | kept =>
              rw [policy] at ran
              cases ran

/-- Wherever a sequence ends, an invariant of its calls holds. -/
theorem run_invariant {invariant : State → Prop} {number : Nat}
    {calls : List (Call State Error)} {state : State}
    (start : invariant initial) (here : invariant state)
    (keeps : ∀ call ∈ calls, ∀ before next, call.effect before = some next →
      invariant before → invariant next) :
    invariant (run initial faults number calls state).2 := by
  induction calls generalizing number state with
  | nil => exact here
  | cons call rest induction =>
      rw [List.forall_mem_cons] at keeps
      simp only [run_cons]
      cases attempted : call.attempt (faults number) state with
      | some next =>
          refine induction ?_ keeps.2
          unfold attempt at attempted
          split at attempted
          · cases attempted
          · exact keeps.1 state next attempted here
      | none =>
          cases call.onError with
          | ignored => exact induction here keeps.2
          | rolledBack => exact start
          | kept => exact here

/-- Nor has a failed sequence changed it, where only the last call could. -/
theorem run_frame_error {Part : Type*} (part : State → Part) {number : Nat}
    {calls : List (Call State Error)} {last : Call State Error}
    {state after : State} {error : Error}
    (frame : ∀ call ∈ calls, ∀ before next, call.effect before = some next →
      part next = part before)
    (start : part initial = part state)
    (ran : run initial faults number (calls ++ [last]) state =
      (some error, after)) : part after = part state := by
  induction calls generalizing number state with
  | nil =>
      simp only [List.nil_append, run_cons] at ran
      cases attempted : last.attempt (faults number) state with
      | some next =>
          rw [attempted] at ran
          cases ran
      | none =>
          rw [attempted] at ran
          cases policy : last.onError with
          | ignored =>
              rw [policy] at ran
              cases ran
          | rolledBack =>
              rw [policy] at ran
              exact (congrArg part (Prod.mk.inj ran).2).symm.trans start
          | kept =>
              rw [policy] at ran
              exact congrArg part (Prod.mk.inj ran).2.symm
  | cons call rest induction =>
      have later := fun other member =>
        frame other (List.mem_cons_of_mem call member)
      simp only [List.cons_append, run_cons] at ran
      cases attempted : call.attempt (faults number) state with
      | some next =>
          rw [attempted] at ran
          unfold attempt at attempted
          split at attempted
          · cases attempted
          · have kept := frame call List.mem_cons_self state next attempted
            exact (induction later (start.trans kept.symm) ran).trans kept
      | none =>
          rw [attempted] at ran
          cases policy : call.onError with
          | ignored =>
              rw [policy] at ran
              exact induction later start ran
          | rolledBack =>
              rw [policy] at ran
              exact (congrArg part (Prod.mk.inj ran).2).symm.trans start
          | kept =>
              rw [policy] at ran
              exact congrArg part (Prod.mk.inj ran).2.symm

/-- A sequence whose failures are all ignored ends without an error. -/
theorem run_of_ignored {number : Nat} {calls : List (Call State Error)}
    {state : State} (ignores : ∀ call ∈ calls, call.onError = .ignored) :
    (run initial faults number calls state).1 = none := by
  induction calls generalizing number state with
  | nil => rfl
  | cons call rest induction =>
      rw [List.forall_mem_cons] at ignores
      simp only [run_cons]
      cases call.attempt (faults number) state with
      | some next => exact induction ignores.2
      | none =>
          rw [ignores.1]
          exact induction ignores.2

/-- A failure that is not rolled back happens only to a state like the initial
one. -/
def HarmlessFailures (initial : State) (faults : Nat → Bool)
    (counts : Error → Prop) (number : Nat) (calls : List (Call State Error))
    (state : State) : Prop :=
  ∀ before call after, calls = before ++ call :: after →
    call.onError = .kept → counts call.error →
      ∀ reached, run initial faults number before state = (none, reached) →
        call.attempt (faults (number + before.length)) reached = none →
          reached = initial

theorem harmlessFailures_nil {number : Nat} {state : State} :
    HarmlessFailures initial faults counts number
      ([] : List (Call State Error)) state := by
  intro before call after split
  exact absurd split (by simp)

/-- The first call is kept only in the initial state, and the rest are harmless
from where it leads. -/
theorem harmlessFailures_cons {number : Nat} {state : State}
    {call : Call State Error} {rest : List (Call State Error)} :
    HarmlessFailures initial faults counts number (call :: rest) state ↔
      match call.attempt (faults number) state with
      | some next =>
          HarmlessFailures initial faults counts (number + 1) rest next
      | none =>
          match call.onError with
          | .ignored =>
              HarmlessFailures initial faults counts (number + 1) rest state
          | .rolledBack => True
          | .kept => counts call.error → state = initial := by
  have later : ∀ next,
      (∀ before, run initial faults number (call :: before) state =
        run initial faults (number + 1) before next) →
      (HarmlessFailures initial faults counts (number + 1) rest next ↔
        ∀ before other after, rest = before ++ other :: after →
          other.onError = .kept → counts other.error →
            ∀ reached, run initial faults number (call :: before) state =
                (none, reached) →
              other.attempt (faults (number + (call :: before).length))
                reached = none → reached = initial) := by
    intro next same
    simp only [HarmlessFailures, same, List.length_cons, Nat.add_assoc,
      Nat.add_comm 1]
  have splits : HarmlessFailures initial faults counts number (call :: rest)
      state ↔
      (call.onError = .kept → counts call.error →
        call.attempt (faults number) state = none → state = initial) ∧
      ∀ before other after, rest = before ++ other :: after →
        other.onError = .kept → counts other.error →
          ∀ reached, run initial faults number (call :: before) state =
              (none, reached) →
            other.attempt (faults (number + (call :: before).length))
              reached = none → reached = initial := by
    constructor
    · intro harmless
      constructor
      · intro kept counted failed
        exact harmless [] call rest rfl kept counted state rfl failed
      · intro before other after split
        exact harmless (call :: before) other after (by rw [split]; rfl)
    · rintro ⟨first, others⟩ before other after split kept counted reached ran
        failed
      cases before with
      | nil =>
          obtain ⟨rfl, -⟩ := List.cons.inj split
          obtain rfl := (Prod.mk.inj ran).2
          exact first kept counted failed
      | cons head before =>
          obtain ⟨rfl, remaining⟩ := List.cons.inj split
          exact others before other after remaining kept counted reached ran
            failed
  rw [splits]
  cases attempted : call.attempt (faults number) state with
  | some next =>
      refine Iff.trans ?_
        (later next fun before => by rw [run_cons, attempted]).symm
      simp
  | none =>
      cases policy : call.onError with
      | ignored =>
          refine Iff.trans ?_
            (later state fun before => by rw [run_cons, attempted, policy]).symm
          simp
      | rolledBack =>
          have stopped : ∀ before, run initial faults number (call :: before)
              state = (some call.error, initial) := by
            intro before
            rw [run_cons, attempted, policy]
          simp [stopped]
      | kept =>
          have stopped : ∀ before, run initial faults number (call :: before)
              state = (some call.error, state) := by
            intro before
            rw [run_cons, attempted, policy]
          simp [stopped]

theorem harmlessFailures_of_forall {calls : List (Call State Error)}
    {number : Nat} {state : State}
    (never : ∀ call ∈ calls, call.onError ≠ .kept) :
    HarmlessFailures initial faults counts number calls state := by
  intro before call after split kept
  exact absurd kept (never call (by simp [split]))

/-- A failed run leaves the initial state exactly when the failures that are
not rolled back are harmless. -/
theorem unchanged_iff {number : Nat} {calls : List (Call State Error)}
    {state : State} :
    (∀ error after, run initial faults number calls state =
      (some error, after) → counts error → after = initial) ↔
    HarmlessFailures initial faults counts number calls state := by
  induction calls generalizing number state with
  | nil =>
      refine iff_of_true ?_ harmlessFailures_nil
      intro error after ran
      cases ran
  | cons call rest induction =>
      rw [harmlessFailures_cons]
      simp only [run_cons]
      cases call.attempt (faults number) state with
      | some next => exact induction
      | none =>
          cases call.onError with
          | ignored => exact induction
          | rolledBack =>
              refine iff_of_true ?_ trivial
              intro error after ran _
              exact (Prod.mk.inj ran).2.symm
          | kept =>
              constructor
              · intro unchanged counted
                exact unchanged call.error state rfl counted
              · intro unchanged error after ran counted
                obtain ⟨same, rfl⟩ := Prod.mk.inj ran
                obtain rfl := Option.some.inj same
                exact unchanged counted

/-- The call fails here or has nothing to change. -/
def Idle (call : Call State Error) (fault : Bool) (state : State) : Prop :=
  ∀ next, call.attempt fault state = some next → next = state

theorem idle_of_effect {call : Call State Error} {fault : Bool} {state : State}
    (idle : call.Idle false state) : call.Idle fault state := by
  intro next attempted
  apply idle next
  cases fault with
  | false => exact attempted
  | true =>
      cases fallible : call.fallible with
      | false => simpa [attempt, fallible] using attempted
      | true => simp [attempt, fallible] at attempted

/-- Once it has run, the call has nothing left to change. -/
def Done (call : Call State Error) : Prop :=
  ∀ before after, call.effect before = some after → call.Idle false after

/-- A later call gives the first one nothing to change. -/
def Lasts (first later : Call State Error) : Prop :=
  ∀ before after, first.Idle false before → later.effect before = some after →
    first.Idle false after

structure Settled (calls : List (Call State Error)) : Prop where
  done : ∀ call ∈ calls, call.Done
  lasts : calls.Pairwise Lasts

theorem settled_nil : Settled ([] : List (Call State Error)) :=
  ⟨fun call member => absurd member (by simp), .nil⟩

theorem settled_cons {call : Call State Error}
    {rest : List (Call State Error)} :
    Settled (call :: rest) ↔
      call.Done ∧ (∀ later ∈ rest, call.Lasts later) ∧ Settled rest := by
  constructor
  · intro settled
    obtain ⟨first, others⟩ := List.pairwise_cons.mp settled.lasts
    exact ⟨settled.done call List.mem_cons_self, first,
      fun other member => settled.done other (List.mem_cons_of_mem call member),
      others⟩
  · rintro ⟨done, first, others⟩
    exact ⟨List.forall_mem_cons.mpr ⟨done, others.done⟩,
      List.pairwise_cons.mpr ⟨first, others.lasts⟩⟩

theorem settled_append {first second : List (Call State Error)} :
    Settled (first ++ second) ↔ Settled first ∧ Settled second ∧
      ∀ call ∈ first, ∀ later ∈ second, call.Lasts later := by
  constructor
  · intro settled
    obtain ⟨left, right, across⟩ := List.pairwise_append.mp settled.lasts
    obtain ⟨before, after⟩ := List.forall_mem_append.mp settled.done
    exact ⟨⟨before, left⟩, ⟨after, right⟩, across⟩
  · rintro ⟨left, right, across⟩
    exact ⟨List.forall_mem_append.mpr ⟨left.done, right.done⟩,
      List.pairwise_append.mpr ⟨left.lasts, right.lasts, across⟩⟩

theorem settled_of_forall {calls : List (Call State Error)}
    (done : ∀ call ∈ calls, call.Done)
    (lasts : ∀ first ∈ calls, ∀ later ∈ calls, first.Lasts later) :
    Settled calls := by
  induction calls with
  | nil => exact settled_nil
  | cons call rest induction =>
      refine settled_cons.mpr ⟨done call List.mem_cons_self, ?_, ?_⟩
      · intro later member
        exact lasts call List.mem_cons_self later
          (List.mem_cons_of_mem call member)
      · apply induction
        · exact fun other member => done other (List.mem_cons_of_mem call member)
        · intro first member later laterMember
          exact lasts first (List.mem_cons_of_mem call member) later
            (List.mem_cons_of_mem call laterMember)

/-- Calls that have nothing to change in a state do not change it. -/
theorem run_of_idle {number : Nat} {calls : List (Call State Error)}
    {state reached : State}
    (idle : ∀ (index : Nat) (call : Call State Error),
      calls[index]? = some call → call.Idle (faults (number + index)) state)
    (ran : run initial faults number calls state = (none, reached)) :
    reached = state := by
  induction calls generalizing number with
  | nil => exact (Prod.mk.inj ran).2.symm
  | cons call rest induction =>
      have later : ∀ (index : Nat) (other : Call State Error),
          rest[index]? = some other →
            other.Idle (faults (number + 1 + index)) state := by
        intro index other found
        have idle := idle (index + 1) other found
        rwa [show number + (index + 1) = number + 1 + index by omega] at idle
      rw [run_cons] at ran
      cases attempted : call.attempt (faults number) state with
      | some next =>
          rw [attempted] at ran
          obtain rfl := idle 0 call rfl next attempted
          exact induction later ran
      | none =>
          rw [attempted] at ran
          cases policy : call.onError with
          | ignored =>
              rw [policy] at ran
              exact induction later ran
          | rolledBack =>
              rw [policy] at ran
              cases ran
          | kept =>
              rw [policy] at ran
              cases ran

theorem idle_through_run {number : Nat} {first : Call State Error}
    {calls : List (Call State Error)} {state reached : State}
    (lasts : ∀ later ∈ calls, first.Lasts later)
    (idle : first.Idle false state)
    (ran : run initial faults number calls state = (none, reached)) :
    first.Idle false reached := by
  induction calls generalizing number state with
  | nil =>
      obtain rfl := (Prod.mk.inj ran).2
      exact idle
  | cons call rest induction =>
      have remaining := fun later member =>
        lasts later (List.mem_cons_of_mem call member)
      rw [run_cons] at ran
      cases attempted : call.attempt (faults number) state with
      | some next =>
          rw [attempted] at ran
          unfold attempt at attempted
          split at attempted
          · cases attempted
          · exact induction remaining
              (lasts call List.mem_cons_self state next idle attempted) ran
      | none =>
          rw [attempted] at ran
          cases policy : call.onError with
          | ignored =>
              rw [policy] at ran
              exact induction remaining idle ran
          | rolledBack =>
              rw [policy] at ran
              cases ran
          | kept =>
              rw [policy] at ran
              cases ran

/-- Where a run of settled calls ends, none of them has anything to change. -/
theorem idle_of_run {number : Nat} {calls : List (Call State Error)}
    {state reached : State} (settled : Settled calls)
    (ran : run initial faults number calls state = (none, reached))
    (index : Nat) (call : Call State Error)
    (found : calls[index]? = some call) :
    call.Idle (faults (number + index)) reached := by
  induction calls generalizing number state index with
  | nil => cases found
  | cons head rest induction =>
      obtain ⟨done, lasts, others⟩ := settled_cons.mp settled
      rw [run_cons] at ran
      cases attempted : head.attempt (faults number) state with
      | some next =>
          rw [attempted] at ran
          cases index with
          | zero =>
              obtain rfl := Option.some.inj found
              have effect : head.effect state = some next := by
                unfold attempt at attempted
                split at attempted
                · cases attempted
                · exact attempted
              exact idle_of_effect (idle_through_run lasts
                (done state next effect) ran)
          | succ index =>
              have idle := induction others ran index found
              rwa [show number + 1 + index = number + (index + 1) by omega]
                at idle
      | none =>
          rw [attempted] at ran
          cases policy : head.onError with
          | ignored =>
              rw [policy] at ran
              cases index with
              | zero =>
                  obtain rfl := Option.some.inj found
                  by_cases faulty : (faults number && head.fallible) = true
                  · intro next later
                    simp [attempt, faulty] at later
                  · have idle : head.Idle false state := by
                      intro next later
                      simp only [attempt, faulty] at attempted
                      simp only [attempt, Bool.false_and] at later
                      rw [show head.effect state = none by simpa using attempted]
                        at later
                      cases later
                    exact idle_of_effect (idle_through_run lasts idle ran)
              | succ index =>
                  have idle := induction others ran index found
                  rwa [show number + 1 + index = number + (index + 1) by omega]
                    at idle
          | rolledBack =>
              rw [policy] at ran
              cases ran
          | kept =>
              rw [policy] at ran
              cases ran

/-- Where a call fails and what came before it is not rolled back, the calls
before it fail as well or have nothing to change in the initial state. -/
def QuietFailures (initial : State) (faults : Nat → Bool)
    (counts : Error → Prop) (calls : List (Call State Error)) : Prop :=
  ∀ before call after, calls = before ++ call :: after →
    call.onError = .kept → counts call.error →
      ∀ reached, run initial faults 0 before initial = (none, reached) →
        call.attempt (faults before.length) reached = none →
          ∀ (index : Nat) (earlier : Call State Error),
            before[index]? = some earlier →
              earlier.Idle (faults index) initial

theorem quietFailures_of_forall {calls : List (Call State Error)}
    (never : ∀ call ∈ calls, call.onError ≠ .kept) :
    QuietFailures initial faults counts calls := by
  intro before call after split kept
  exact absurd kept (never call (by simp [split]))

theorem harmlessFailures_iff_of_forall {calls : List (Call State Error)}
    (never : ∀ call ∈ calls, call.onError ≠ .kept) :
    HarmlessFailures initial faults counts 0 calls initial ↔
      QuietFailures initial faults counts calls :=
  iff_of_true (harmlessFailures_of_forall never) (quietFailures_of_forall never)

theorem harmlessFailures_iff {calls : List (Call State Error)}
    (settled : Settled calls) :
    HarmlessFailures initial faults counts 0 calls initial ↔
      QuietFailures initial faults counts calls := by
  constructor
  · intro harmless before call after split kept counted reached ran failed
      index earlier found
    have same := harmless before call after split kept counted reached ran
      (by rwa [Nat.zero_add])
    have idle := idle_of_run (settled_append.mp (split ▸ settled)).1 ran index
      earlier found
    rwa [same, Nat.zero_add] at idle
  · intro quiet before call after split kept counted reached ran failed
    refine run_of_idle ?_ ran
    intro index earlier found
    rw [Nat.zero_add] at failed ⊢
    exact quiet before call after split kept counted reached ran failed index
      earlier found

end Call

end VpnUi.Foundation
