import Mathlib.Logic.Function.Basic

namespace VpnUi.Foundation

/-! A flag that at most one call can raise at a time, which lowers it when it is
through. -/

/-- The flag, and where the calls stand that have raised it. -/
structure Flight (Call Stage : Type*) where
  taken : Bool
  inside : Call → Option Stage

namespace Flight

variable {Call Stage : Type*}

def idle : Flight Call Stage := ⟨false, fun _ => none⟩

variable [DecidableEq Call]

/-- Raise the flag, unless it is up. -/
def enter (flight : Flight Call Stage) (call : Call) (stage : Stage) :
    Option (Flight Call Stage) :=
  if flight.taken then none
  else some ⟨true, Function.update flight.inside call (some stage)⟩

def move (flight : Flight Call Stage) (call : Call) (stage : Stage) :
    Flight Call Stage :=
  { flight with inside := Function.update flight.inside call (some stage) }

def leave (flight : Flight Call Stage) (call : Call) : Flight Call Stage :=
  ⟨false, Function.update flight.inside call none⟩

omit [DecidableEq Call] in
/-- The flag is up exactly while a call is inside, and there is one at most. -/
structure Single (flight : Flight Call Stage) : Prop where
  taken_iff : flight.taken = true ↔ ∃ call stage, flight.inside call = some stage
  unique : ∀ call other stage otherStage, flight.inside call = some stage →
    flight.inside other = some otherStage → call = other

variable {flight next : Flight Call Stage} {call other : Call}
  {stage later : Stage}

omit [DecidableEq Call] in
theorem single_idle : (idle : Flight Call Stage).Single := by
  constructor
  · constructor
    · intro taken
      cases taken
    · intro held
      obtain ⟨_, _, inside⟩ := held
      cases inside
  · intro _ _ _ _ inside
    cases inside

omit [DecidableEq Call] in
theorem Single.taken (single : flight.Single)
    (inside : flight.inside call = some stage) : flight.taken = true :=
  single.taken_iff.mpr ⟨call, stage, inside⟩

theorem inside_move :
    (flight.move call later).inside other = some stage ↔
      other = call ∧ stage = later ∨
        other ≠ call ∧ flight.inside other = some stage := by
  unfold move
  by_cases same : other = call
  · subst same
    simp [eq_comm]
  · simp [same]

theorem inside_leave :
    (flight.leave call).inside other = some stage ↔
      other ≠ call ∧ flight.inside other = some stage := by
  unfold leave
  by_cases same : other = call
  · subst same
    simp
  · simp [same]

theorem enter_eq_some :
    flight.enter call stage = some next ↔
      flight.taken = false ∧
        next = ⟨true, Function.update flight.inside call (some stage)⟩ := by
  unfold enter
  cases flight.taken with
  | true => simp
  | false => simp [eq_comm]

theorem inside_of_enter (entered : flight.enter call stage = some next) :
    next.inside other = some later ↔
      other = call ∧ later = stage ∨
        other ≠ call ∧ flight.inside other = some later := by
  obtain ⟨-, rfl⟩ := enter_eq_some.mp entered
  exact inside_move

theorem Single.enter (single : flight.Single)
    (entered : flight.enter call stage = some next) : next.Single := by
  have inside := fun other later => @inside_of_enter _ _ _ _ _ _ other _ later
    entered
  obtain ⟨free, rfl⟩ := enter_eq_some.mp entered
  have nobody : ∀ other later, flight.inside other ≠ some later := by
    intro other later found
    exact absurd (single.taken found) (by simp [free])
  constructor
  · exact ⟨fun _ => ⟨call, stage, (inside _ _).mpr (.inl ⟨rfl, rfl⟩)⟩,
      fun _ => rfl⟩
  · intro first second _ _ firstIn secondIn
    rcases (inside _ _).mp firstIn with ⟨rfl, -⟩ | ⟨-, found⟩
    · rcases (inside _ _).mp secondIn with ⟨rfl, -⟩ | ⟨-, found⟩
      · rfl
      · exact absurd found (nobody _ _)
    · exact absurd found (nobody _ _)

theorem Single.move (single : flight.Single)
    (inside : flight.inside call = some stage) :
    (flight.move call later).Single := by
  have only : ∀ other found, (flight.move call later).inside other =
      some found → other = call := by
    intro other found within
    rcases inside_move.mp within with ⟨same, -⟩ | ⟨-, old⟩
    · exact same
    · exact single.unique other call _ _ old inside
  constructor
  · exact ⟨fun _ => ⟨call, later, inside_move.mpr (.inl ⟨rfl, rfl⟩)⟩,
      fun _ => single.taken inside⟩
  · intro first second _ _ firstIn secondIn
    rw [only first _ firstIn, only second _ secondIn]

theorem Single.leave (single : flight.Single)
    (inside : flight.inside call = some stage) :
    (flight.leave call).Single := by
  have nobody : ∀ other found,
      (flight.leave call).inside other ≠ some found := by
    intro other found within
    obtain ⟨differs, old⟩ := inside_leave.mp within
    exact differs (single.unique other call _ _ old inside)
  constructor
  · constructor
    · intro taken
      cases taken
    · intro held
      obtain ⟨other, found, within⟩ := held
      exact absurd within (nobody other found)
  · intro first _ _ _ firstIn
    exact absurd firstIn (nobody first _)

end Flight

end VpnUi.Foundation
