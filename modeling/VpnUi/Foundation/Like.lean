import Mathlib.Data.List.Infix

namespace VpnUi.Foundation

/-! The pattern matching of SQL. -/

/-- `LIKE`: % stands for any text, _ for any letter, and the case of the other
letters does not count. -/
def like : List Char → List Char → Bool
  | [], text => text.isEmpty
  | '%' :: pattern, text => text.tails.any (like pattern)
  | '_' :: pattern, text =>
      match text with
      | [] => false
      | _ :: rest => like pattern rest
  | letter :: pattern, text =>
      match text with
      | [] => false
      | other :: rest => letter.toLower = other.toLower && like pattern rest

section Like

variable {pattern other text rest part : List Char} {letter : Char}

theorem like_any :
    like ('%' :: pattern) text ↔ ∃ rest, rest <:+ text ∧ like pattern rest := by
  simp [like, List.any_eq_true]

/-- A letter of a pattern matches itself. -/
theorem like_cons_self (matched : like pattern rest) :
    like (letter :: pattern) (letter :: rest) := by
  by_cases percent : letter = '%'
  · subst percent
    exact like_any.mpr ⟨rest, List.suffix_cons _ _, matched⟩
  · by_cases any : letter = '_'
    · subst any
      rw [like]
      exact matched
    · rw [like, matched]
      · simp
      · exact percent
      · exact any

/-- A pattern is found in front of what the rest of it matches. -/
theorem like_append_self (matched : like pattern rest) :
    like (part ++ pattern) (part ++ rest) := by
  induction part with
  | nil => exact matched
  | cons letter part induction => exact like_cons_self induction

/-- `LIKE '%part%'` finds the part itself. -/
theorem like_of_infix (within : part <:+: text) :
    like ('%' :: (part ++ ['%'])) text := by
  obtain ⟨before, after, rfl⟩ := within
  have last : like ['%'] after :=
    like_any.mpr ⟨[], List.nil_suffix, rfl⟩
  refine like_any.mpr ⟨part ++ after, ?_, like_append_self last⟩
  rw [List.append_assoc]
  exact List.suffix_append _ _

end Like

end VpnUi.Foundation
