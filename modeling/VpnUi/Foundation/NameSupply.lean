import Mathlib.Data.List.Nodup
import Mathlib.Data.List.Perm.Subperm
import Mathlib.Data.List.Range
import Mathlib.Data.Nat.Find

namespace VpnUi.Foundation

/-! Names with numbers, tried one after another until one is free. -/

section Supply

variable {Name : Type*} [DecidableEq Name] {name : Nat → Name}
  {taken : List Name}

/-- The first number from this one on whose name is free, if it comes within
these rounds. -/
def firstFree (name : Nat → Name) (taken : List Name) : Nat → Nat → Option Nat
  | 0, _ => none
  | rounds + 1, number =>
      if name number ∈ taken then firstFree name taken rounds (number + 1)
      else some number

theorem firstFree_eq_some {rounds start number : Nat} :
    firstFree name taken rounds start = some number ↔
      start ≤ number ∧ number < start + rounds ∧ name number ∉ taken ∧
        ∀ earlier, start ≤ earlier → earlier < number →
          name earlier ∈ taken := by
  induction rounds generalizing start with
  | zero =>
      simp only [firstFree, reduceCtorEq, false_iff]
      omega
  | succ rounds induction =>
      rw [firstFree]
      split
      next busy =>
        rw [induction]
        constructor
        · rintro ⟨later, bounded, free, before⟩
          refine ⟨by omega, by omega, free, fun earlier from_ below => ?_⟩
          by_cases first : earlier = start
          · rwa [first]
          · exact before earlier (by omega) below
        · rintro ⟨later, bounded, free, before⟩
          have differs : number ≠ start := fun same => free (same ▸ busy)
          exact ⟨by omega, by omega, free,
            fun earlier from_ below => before earlier (by omega) below⟩
      next free =>
        rw [Option.some.injEq]
        constructor
        · rintro rfl
          exact ⟨le_refl _, by omega, free, fun _ from_ below => by omega⟩
        · rintro ⟨later, -, -, before⟩
          by_contra differs
          exact free (before start (le_refl _) (by omega))

/-- Of distinct names one more than are taken, one is free. -/
theorem exists_free (distinct : Function.Injective name) :
    ∃ number ≤ taken.length, name number ∉ taken := by
  by_contra none
  have inside : (List.range (taken.length + 1)).map name ⊆ taken := by
    intro other member
    obtain ⟨number, bounded, rfl⟩ := List.mem_map.mp member
    by_contra free
    exact none ⟨number, Nat.lt_succ_iff.mp (List.mem_range.mp bounded), free⟩
  have nodup : ((List.range (taken.length + 1)).map name).Nodup :=
    List.nodup_range.map distinct
  have count := (nodup.subperm inside).length_le
  rw [List.length_map, List.length_range] at count
  omega

/-- The search ends. -/
theorem exists_firstFree (distinct : Function.Injective name) :
    ∃ number, firstFree name taken (taken.length + 1) 0 = some number := by
  have free := @exists_free Name _ name taken distinct
  have found := Nat.find_spec free
  refine ⟨Nat.find free, firstFree_eq_some.mpr
    ⟨Nat.zero_le _, by omega, found.2, fun earlier _ below => ?_⟩⟩
  by_contra unoccupied
  exact Nat.find_min free below ⟨by omega, unoccupied⟩

end Supply

end VpnUi.Foundation
