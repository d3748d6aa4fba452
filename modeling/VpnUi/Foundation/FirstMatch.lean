import Mathlib.Data.List.Nodup

namespace VpnUi.Foundation

/-! Rules that are tried in order, the first that applies deciding. -/

variable {Rule Group Fate : Type*}

def firstMatch (apply : Rule → Option Fate) (rules : List Rule) : Option Fate :=
  rules.findSome? apply

section FirstMatch

variable {apply : Rule → Option Fate} {rules more : List Rule} {fate : Fate}

theorem firstMatch_append :
    firstMatch apply (rules ++ more) =
      (firstMatch apply rules).or (firstMatch apply more) :=
  List.findSome?_append

theorem firstMatch_eq_none :
    firstMatch apply rules = none ↔ ∀ rule ∈ rules, apply rule = none :=
  List.findSome?_eq_none_iff

/-- Where all that apply agree, their order is of no account. -/
theorem firstMatch_eq_some {rule : Rule} (listed : rule ∈ rules)
    (applies : apply rule = some fate)
    (agree : ∀ other ∈ rules, ∀ result, apply other = some result →
      result = fate) :
    firstMatch apply rules = some fate := by
  cases found : firstMatch apply rules with
  | none =>
      rw [firstMatch_eq_none.mp found rule listed] at applies
      cases applies
  | some result =>
      obtain ⟨other, member, same⟩ := List.exists_of_findSome?_eq_some found
      rw [agree other member result same]

/-- Groups of rules one after another. -/
theorem firstMatch_flatMap {groups : List Group} {rulesOf : Group → List Rule} :
    firstMatch apply (groups.flatMap rulesOf) =
      firstMatch (fun group => firstMatch apply (rulesOf group)) groups := by
  induction groups with
  | nil => rfl
  | cons group rest induction =>
      rw [List.flatMap_cons, firstMatch_append, induction]
      change _ = List.findSome? _ (group :: rest)
      rw [List.findSome?_cons]
      cases firstMatch apply (rulesOf group) <;> rfl

/-- Rules that are refined group by group, each group deciding as its rule. -/
theorem firstMatch_refine {groups : List Group} {rulesOf : Group → List Rule}
    {decide : Group → Option Fate}
    (refined : ∀ group ∈ groups,
      firstMatch apply (rulesOf group) = decide group) :
    firstMatch apply (groups.flatMap rulesOf) = firstMatch decide groups := by
  rw [firstMatch_flatMap]
  induction groups with
  | nil => rfl
  | cons group rest induction =>
      rw [List.forall_mem_cons] at refined
      change List.findSome? _ (group :: rest) =
        List.findSome? _ (group :: rest)
      rw [List.findSome?_cons, List.findSome?_cons, refined.1]
      cases decide group with
      | some fate => rfl
      | none => exact induction refined.2

end FirstMatch

end VpnUi.Foundation
