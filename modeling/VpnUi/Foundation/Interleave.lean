import Mathlib.Data.Prod.Basic

namespace VpnUi.Foundation

/-! Two operations whose atomic steps on a shared state are interleaved. -/

/-- The steps of an operation, each of them going on with the state it has
found. -/
inductive Operation (State Outcome : Type*)
  | done (outcome : Outcome)
  | read (next : State → Operation State Outcome)
  | write (act : State → State) (next : State → Operation State Outcome)

namespace Operation

variable {State Outcome View : Type*}

/-- The operation without any other. -/
def run : Operation State Outcome → State → Outcome × State
  | done outcome, state => (outcome, state)
  | read next, state => (next state).run state
  | write act next, state => (next state).run (act state)

/-- Up to its first write the operation goes by this part of the state. -/
def Observes (view : State → View) : Operation State Outcome → Prop
  | done _ => True
  | read next =>
      (∀ state other, view state = view other → next state = next other) ∧
        ∀ state, (next state).Observes view
  | write _ _ => True

end Operation

inductive Phase
  | waiting
  | reading
  | writing
  deriving DecidableEq

/-- An operation on its way. -/
structure Party (State Outcome : Type*) where
  operation : Operation State Outcome
  phase : Phase

namespace Party

variable {State Outcome View : Type*}

def Ended (party : Party State Outcome) : Prop :=
  ∃ outcome, party.operation = .done outcome

/-- The next step, unless the operation has ended. -/
def advance (party : Party State Outcome) (state : State) :
    Option (Party State Outcome × State) :=
  match party.operation with
  | .done _ => none
  | .read next =>
      some (⟨next state,
        if party.phase = .writing then .writing else .reading⟩, state)
  | .write act next => some (⟨next state, .writing⟩, act state)

/-- A step of the other operation comes neither between a write of this one and
its end nor, if it changes what this one reads, after its first step. -/
def Tolerates (view : State → View) (party : Party State Outcome)
    (before after : State) : Prop :=
  party.Ended ∨ party.phase = .waiting ∨
    party.phase = .reading ∧ view after = view before

/-- So far the operation has only read what still holds. -/
inductive Open (view : State → View) (start : Operation State Outcome)
    (party : Party State Outcome) (state : State) : Prop
  | waiting (untouched : party = ⟨start, .waiting⟩)
  | reading (phase : party.phase = .reading) (running : ¬ party.Ended)
      (observes : party.operation.Observes view)
      (same : ∀ other, view other = view state →
        party.operation.run other = start.run other)

/-- The operation has written or ended, and will lead to this result. -/
structure Bound (party : Party State Outcome) (state : State)
    (result : Outcome × State) : Prop where
  past : party.phase = .writing ∨ party.Ended
  leads : party.operation.run state = result

variable {view : State → View} {start : Operation State Outcome}
  {party next : Party State Outcome} {state after : State}
  {result : Outcome × State}

theorem Open.run (isOpen : Open view start party state) :
    party.operation.run state = start.run state := by
  cases isOpen with
  | waiting untouched => rw [untouched]
  | reading _ _ _ same => exact same state rfl

theorem Open.frame (isOpen : Open view start party state)
    (tolerates : party.Tolerates view state after) :
    Open view start party after := by
  cases isOpen with
  | waiting untouched => exact .waiting untouched
  | reading phase running observes same =>
      rcases tolerates with ended | waiting | ⟨-, kept⟩
      · exact absurd ended running
      · exact absurd (phase.symm.trans waiting) (by decide)
      · refine .reading phase running observes ?_
        intro other sees
        exact same other (sees.trans kept)

/-- A step of an operation that has only read: another read, or the whole
operation at this moment. -/
theorem Open.advance (observes : start.Observes view)
    (isOpen : Open view start party state)
    (advanced : party.advance state = some (next, after)) :
    after = state ∧ Open view start next after ∨
      Bound next after (start.run state) := by
  have sees : party.operation.Observes view := by
    cases isOpen with
    | waiting untouched => rwa [untouched]
    | reading _ _ observes _ => exact observes
  have leads := isOpen.run
  have still : ∀ other, view other = view state →
      party.operation.run other = start.run other := by
    intro other same
    cases isOpen with
    | waiting untouched => rw [untouched]
    | reading _ _ _ tracked => exact tracked other same
  have unwritten : party.phase ≠ .writing := by
    cases isOpen with
    | waiting untouched => simp [untouched]
    | reading phase _ _ _ => simp [phase]
  unfold Party.advance at advanced
  cases held : party.operation with
  | done outcome =>
      rw [held] at advanced
      cases advanced
  | read continue_ =>
      rw [held] at advanced sees leads
      simp only [if_neg unwritten] at advanced
      obtain ⟨rfl, rfl⟩ := Prod.mk.inj (Option.some.inj advanced)
      by_cases ended : ∃ outcome, continue_ state = .done outcome
      · exact .inr ⟨.inr ended, leads⟩
      · refine .inl ⟨rfl, .reading rfl ended (sees.2 state) ?_⟩
        intro other same
        have whole := still other same
        rw [held, Operation.run, sees.1 other state same] at whole
        exact whole
  | write act continue_ =>
      rw [held] at advanced leads
      obtain ⟨rfl, rfl⟩ := Prod.mk.inj (Option.some.inj advanced)
      exact .inr ⟨.inl rfl, leads⟩

theorem Bound.advance (bound : Bound party state result)
    (advanced : party.advance state = some (next, after)) :
    Bound next after result := by
  have leads := bound.leads
  have past := bound.past
  unfold Party.advance at advanced
  cases held : party.operation with
  | done outcome =>
      rw [held] at advanced
      cases advanced
  | read continue_ =>
      rw [held] at advanced leads
      have writing : party.phase = .writing :=
        past.resolve_right fun ⟨outcome, ended⟩ => by
          rw [held] at ended
          cases ended
      simp only [if_pos writing] at advanced
      obtain ⟨rfl, rfl⟩ := Prod.mk.inj (Option.some.inj advanced)
      exact ⟨.inl rfl, leads⟩
  | write act continue_ =>
      rw [held] at advanced leads
      obtain ⟨rfl, rfl⟩ := Prod.mk.inj (Option.some.inj advanced)
      exact ⟨.inl rfl, leads⟩

/-- The other operation steps only once a bound one has ended. -/
theorem Bound.ended (bound : Bound party state result)
    (tolerates : party.Tolerates view state after) :
    ∃ outcome, party.operation = .done outcome ∧ result = (outcome, state) := by
  have ended : party.Ended := by
    rcases bound.past with writing | ended
    · rcases tolerates with ended | waiting | ⟨reading, -⟩
      · exact ended
      · exact absurd (writing.symm.trans waiting) (by decide)
      · exact absurd (writing.symm.trans reading) (by decide)
    · exact ended
  obtain ⟨outcome, held⟩ := ended
  have leads := bound.leads
  rw [held] at leads
  exact ⟨outcome, held, leads.symm⟩

theorem advance_eq_none {outcome : Outcome}
    (ended : party.operation = .done outcome) : party.advance state = none := by
  rw [advance, ended]

end Party

inductive Side
  | left
  | right
  deriving DecidableEq

/-- Two operations on one state. -/
structure Pair (State Outcome : Type*) where
  left : Party State Outcome
  right : Party State Outcome
  state : State

namespace Pair

variable {State Outcome LeftView RightView : Type*}

def start (left right : Operation State Outcome) (state : State) :
    Pair State Outcome :=
  ⟨⟨left, .waiting⟩, ⟨right, .waiting⟩, state⟩

def advance (pair : Pair State Outcome) : Side → Option (Pair State Outcome)
  | .left =>
      (pair.left.advance pair.state).map fun (party, state) =>
        ⟨party, pair.right, state⟩
  | .right =>
      (pair.right.advance pair.state).map fun (party, state) =>
        ⟨pair.left, party, state⟩

/-- Take the steps of the two operations in this order. -/
def interleave : List Side → Pair State Outcome → Option (Pair State Outcome)
  | [], pair => some pair
  | side :: schedule, pair => (pair.advance side).bind (interleave schedule)

/-- Each step is one that the other operation tolerates. -/
def Isolated (leftView : State → LeftView) (rightView : State → RightView) :
    List Side → Pair State Outcome → Prop
  | [], _ => True
  | side :: schedule, pair =>
      ∀ next, pair.advance side = some next →
        (match side with
          | .left => pair.right.Tolerates rightView pair.state next.state
          | .right => pair.left.Tolerates leftView pair.state next.state) ∧
        Isolated leftView rightView schedule next

/-- The results of the first operation run before the second one. -/
def Serial (first second : Operation State Outcome) (state : State)
    (firstOutcome secondOutcome : Outcome) (after : State) : Prop :=
  ∃ between, first.run state = (firstOutcome, between) ∧
    second.run between = (secondOutcome, after)

/-- One of the operations has written or ended, and the other comes after it. -/
inductive Ahead {View : Type*} (view : State → View)
    (firstStart secondStart : Operation State Outcome) (initial : State)
    (first second : Party State Outcome) (state : State) : Prop
  | leading (bound : first.Bound state (firstStart.run initial))
      (isOpen : second.Open view secondStart state)
  | following (outcome : Outcome) (between : State)
      (ended : first.operation = .done outcome)
      (result : firstStart.run initial = (outcome, between))
      (bound : second.Bound state (secondStart.run between))

section Ahead

variable {View : Type*} {view : State → View}
  {firstStart secondStart : Operation State Outcome} {initial : State}
  {first second next : Party State Outcome} {state after : State}

theorem Ahead.advance_first
    (ahead : Ahead view firstStart secondStart initial first second state)
    (advanced : first.advance state = some (next, after))
    (tolerates : second.Tolerates view state after) :
    Ahead view firstStart secondStart initial next second after := by
  cases ahead with
  | leading bound isOpen =>
      exact .leading (bound.advance advanced) (isOpen.frame tolerates)
  | following outcome between ended result bound =>
      rw [Party.advance_eq_none ended] at advanced
      cases advanced

theorem Ahead.advance_second {FirstView : Type*} {firstView : State → FirstView}
    (observes : secondStart.Observes view)
    (ahead : Ahead view firstStart secondStart initial first second state)
    (advanced : second.advance state = some (next, after))
    (tolerates : first.Tolerates firstView state after) :
    Ahead view firstStart secondStart initial first next after := by
  cases ahead with
  | leading bound isOpen =>
      obtain ⟨outcome, ended, result⟩ := bound.ended tolerates
      rcases isOpen.advance observes advanced with ⟨rfl, stillOpen⟩ | follows
      · exact .leading bound stillOpen
      · exact .following outcome state ended result follows
  | following outcome between ended result bound =>
      exact .following outcome between ended result (bound.advance advanced)

theorem Ahead.serial {firstOutcome secondOutcome : Outcome}
    (ahead : Ahead view firstStart secondStart initial first second state)
    (firstDone : first.operation = .done firstOutcome)
    (secondDone : second.operation = .done secondOutcome) :
    Serial firstStart secondStart initial firstOutcome secondOutcome state := by
  cases ahead with
  | leading bound isOpen =>
      have leads := bound.leads
      have follows := isOpen.run
      rw [firstDone] at leads
      rw [secondDone] at follows
      exact ⟨state, leads.symm, follows.symm⟩
  | following outcome between ended result bound =>
      obtain rfl := Operation.done.inj (ended.symm.trans firstDone)
      have leads := bound.leads
      rw [secondDone] at leads
      exact ⟨between, result, leads.symm⟩

end Ahead

/-- What holds between the steps of an isolated interleaving: neither operation
has written, or one of them is ahead of the other. -/
inductive Ordered (leftView : State → LeftView) (rightView : State → RightView)
    (left right : Operation State Outcome) (initial : State)
    (pair : Pair State Outcome) : Prop
  | reading (unchanged : pair.state = initial)
      (leftOpen : pair.left.Open leftView left pair.state)
      (rightOpen : pair.right.Open rightView right pair.state)
  | leftAhead
      (ahead : Ahead rightView left right initial pair.left pair.right pair.state)
  | rightAhead
      (ahead : Ahead leftView right left initial pair.right pair.left pair.state)

section Ordered

variable {leftView : State → LeftView} {rightView : State → RightView}
  {left right : Operation State Outcome} {initial : State}
  {pair next : Pair State Outcome}

theorem Ordered.advance_left (observes : left.Observes leftView)
    (ordered : Ordered leftView rightView left right initial pair)
    (advanced : pair.advance .left = some next)
    (tolerates : pair.right.Tolerates rightView pair.state next.state) :
    Ordered leftView rightView left right initial next := by
  obtain ⟨⟨party, state⟩, moved, rfl⟩ := Option.map_eq_some_iff.mp advanced
  cases ordered with
  | reading unchanged leftOpen rightOpen =>
      rcases leftOpen.advance observes moved with ⟨same, stillOpen⟩ | bound
      · exact .reading (same.trans unchanged) stillOpen
          (rightOpen.frame tolerates)
      · rw [unchanged] at bound
        exact .leftAhead (.leading bound (rightOpen.frame tolerates))
  | leftAhead ahead => exact .leftAhead (ahead.advance_first moved tolerates)
  | rightAhead ahead =>
      exact .rightAhead (ahead.advance_second observes moved tolerates)

/-- The pair seen from the other side. -/
def swap (pair : Pair State Outcome) : Pair State Outcome :=
  ⟨pair.right, pair.left, pair.state⟩

theorem Ordered.swap
    (ordered : Ordered leftView rightView left right initial pair) :
    Ordered rightView leftView right left initial pair.swap := by
  cases ordered with
  | reading unchanged leftOpen rightOpen =>
      exact .reading unchanged rightOpen leftOpen
  | leftAhead ahead => exact .rightAhead ahead
  | rightAhead ahead => exact .leftAhead ahead

theorem Ordered.advance_right (observes : right.Observes rightView)
    (ordered : Ordered leftView rightView left right initial pair)
    (advanced : pair.advance .right = some next)
    (tolerates : pair.left.Tolerates leftView pair.state next.state) :
    Ordered leftView rightView left right initial next := by
  have mirrored : pair.swap.advance .left = some next.swap := by
    obtain ⟨moved, found, rfl⟩ := Option.map_eq_some_iff.mp advanced
    exact Option.map_eq_some_iff.mpr ⟨moved, found, rfl⟩
  exact (ordered.swap.advance_left observes mirrored tolerates).swap

theorem Ordered.interleave (observesLeft : left.Observes leftView)
    (observesRight : right.Observes rightView) {schedule : List Side}
    {final : Pair State Outcome}
    (ordered : Ordered leftView rightView left right initial pair)
    (isolated : Isolated leftView rightView schedule pair)
    (ran : pair.interleave schedule = some final) :
    Ordered leftView rightView left right initial final := by
  induction schedule generalizing pair with
  | nil =>
      obtain rfl := Option.some.inj ran
      exact ordered
  | cons side schedule induction =>
      obtain ⟨next, advanced, rest⟩ := Option.bind_eq_some_iff.mp ran
      obtain ⟨tolerates, later⟩ := isolated next advanced
      cases side with
      | left =>
          exact induction (ordered.advance_left observesLeft advanced tolerates)
            later rest
      | right =>
          exact induction
            (ordered.advance_right observesRight advanced tolerates) later rest

end Ordered

/-- An isolated interleaving in which both operations end has the results of
one of the two serial orders. -/
theorem serial_of_isolated {leftView : State → LeftView}
    {rightView : State → RightView} {left right : Operation State Outcome}
    {initial : State} {schedule : List Side} {final : Pair State Outcome}
    {leftOutcome rightOutcome : Outcome}
    (observesLeft : left.Observes leftView)
    (observesRight : right.Observes rightView)
    (isolated : Isolated leftView rightView schedule (start left right initial))
    (ran : (start left right initial).interleave schedule = some final)
    (leftDone : final.left.operation = .done leftOutcome)
    (rightDone : final.right.operation = .done rightOutcome) :
    Serial left right initial leftOutcome rightOutcome final.state ∨
      Serial right left initial rightOutcome leftOutcome final.state := by
  have begins : Ordered leftView rightView left right initial
      (start left right initial) :=
    .reading rfl (.waiting rfl) (.waiting rfl)
  cases begins.interleave observesLeft observesRight isolated ran with
  | reading unchanged leftOpen rightOpen =>
      have leads := leftOpen.run
      have follows := rightOpen.run
      rw [leftDone] at leads
      rw [rightDone] at follows
      rw [unchanged] at leads follows ⊢
      exact .inl ⟨initial, leads.symm, follows.symm⟩
  | leftAhead ahead => exact .inl (ahead.serial leftDone rightDone)
  | rightAhead ahead => exact .inr (ahead.serial rightDone leftDone)

end Pair

end VpnUi.Foundation
