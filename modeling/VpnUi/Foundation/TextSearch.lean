import Mathlib.Data.List.Infix

namespace VpnUi.Foundation

/-! Searching a text for a part of it, and where a part lies among the words that
a separator makes of the text. -/

variable {Letter : Type} [DecidableEq Letter]

/-- What follows the first `part` in a text. -/
def after? (part : List Letter) : List Letter → Option (List Letter)
  | [] => if part = [] then some [] else none
  | letter :: rest =>
      if part <+: letter :: rest then
        some ((letter :: rest).drop part.length)
      else after? part rest

def hasPart (part text : List Letter) : Bool := (after? part text).isSome

section Search

variable {part text before after : List Letter} {letter : Letter}

theorem hasPart_iff : hasPart part text ↔ part <:+: text := by
  unfold hasPart
  induction text with
  | nil =>
      rw [after?, List.infix_nil]
      split <;> simp_all
  | cons letter rest induction =>
      rw [after?, List.infix_cons_iff]
      split
      next starts => simp [starts]
      next starts => simp [starts, induction]

/-- A part is found where its first letter comes first. -/
theorem after?_append (absent : letter ∉ before) :
    after? (letter :: part) (before ++ letter :: (part ++ after)) =
      some after := by
  induction before with
  | nil =>
      have starts : letter :: part <+: letter :: (part ++ after) :=
        ⟨after, rfl⟩
      rw [List.nil_append, after?, if_pos starts]
      simp
  | cons head rest induction =>
      rw [List.mem_cons, not_or] at absent
      have other : ¬ letter :: part <+:
          head :: (rest ++ letter :: (part ++ after)) := by
        intro starts
        exact absent.1 (List.cons_prefix_cons.mp starts).1
      rw [List.cons_append, after?, if_neg other]
      exact induction absent.2

end Search

section Words

variable {separator : Letter} {part word text left right : List Letter}
  {words : List (List Letter)}

omit [DecidableEq Letter] in
/-- A part without the separator lies on one side of it. -/
theorem infix_append_cons_iff (plain : separator ∉ part) :
    part <:+: left ++ separator :: right ↔
      part <:+: left ∨ part <:+: right := by
  constructor
  · intro within
    induction left with
    | nil =>
        rcases List.infix_cons_iff.mp within with starts | later
        · cases part with
          | nil => exact .inl List.nil_infix
          | cons letter rest =>
              obtain ⟨rfl, -⟩ := List.cons_prefix_cons.mp starts
              exact absurd List.mem_cons_self plain
        · exact .inr later
    | cons head left induction =>
        rcases List.infix_cons_iff.mp within with starts | later
        · left
          obtain ⟨after, same⟩ :
              part <+: (head :: left) ++ separator :: right := starts
          rcases List.append_eq_append_iff.mp same with
            ⟨kept, whole, -⟩ | ⟨kept, whole, rest⟩
          · rw [whole]
            exact (List.prefix_append part kept).isInfix
          · cases kept with
            | nil =>
                rw [whole, List.append_nil]
            | cons letter kept =>
                obtain ⟨rfl, -⟩ := List.cons.inj rest
                rw [whole] at plain
                exact absurd (by simp) plain
        · exact (induction later).imp_left List.infix_cons
  · rintro (within | within)
    · exact within.trans (List.prefix_append _ _).isInfix
    · exact within.trans
        ((List.suffix_cons separator right).trans
          (List.suffix_append left _)).isInfix

omit [DecidableEq Letter] in
/-- A part without the separator lies in one of the words around it. -/
theorem infix_intercalate_iff (plain : separator ∉ part)
    (nonempty : part ≠ []) :
    part <:+: [separator].intercalate words ↔
      ∃ word ∈ words, part <:+: word := by
  induction words with
  | nil => simp [nonempty]
  | cons word words induction =>
      cases words with
      | nil => simp
      | cons next words =>
          rw [List.intercalate_cons_cons, List.append_assoc,
            List.singleton_append, infix_append_cons_iff plain, induction,
            List.exists_mem_cons_iff (l := next :: words)]

omit [DecidableEq Letter] in
theorem not_mem_intercalate {letter : Letter} (other : separator ≠ letter)
    (plain : ∀ word ∈ words, letter ∉ word) :
    letter ∉ [separator].intercalate words := by
  intro inside
  have within := (List.singleton_infix_iff letter _).mpr inside
  rw [infix_intercalate_iff (by simpa using other) (by simp)] at within
  obtain ⟨word, member, within⟩ := within
  exact plain word member ((List.singleton_infix_iff letter _).mp within)

theorem splitOn_append_plain (plain : separator ∉ part) :
    ∃ before marker, (text ++ part).splitOn separator =
      before ++ [marker] ∧ part <:+ marker := by
  induction text with
  | nil =>
      exact ⟨[], part, List.splitOn_eq_singleton plain, List.suffix_refl _⟩
  | cons head text induction =>
      obtain ⟨before, marker, split, ending⟩ := induction
      rw [List.cons_append, List.splitOn_cons_eq_if_modifyHead, split]
      by_cases divides : (head == separator) = true
      · rw [if_pos divides]
        exact ⟨[] :: before, marker, rfl, ending⟩
      · rw [if_neg divides]
        cases before with
        | nil =>
            exact ⟨[], head :: marker, rfl,
              ending.trans (List.suffix_cons _ _)⟩
        | cons first before =>
            exact ⟨(head :: first) :: before, marker, rfl, ending⟩

/-- A part and a whole word found one after the other are neighbours among the
words of the text. -/
theorem neighbours_of_part (partPlain : separator ∉ part)
    (wordPlain : separator ∉ word)
    (within : part ++ separator :: (word ++ [separator]) <:+: text) :
    ∃ marker, part <:+ marker ∧ [marker, word] <:+: text.splitOn separator := by
  obtain ⟨front, back, rfl⟩ := within
  obtain ⟨before, marker, split, ending⟩ :=
    @splitOn_append_plain _ _ separator part front partPlain
  have words : (front ++ (part ++ separator :: (word ++ [separator])) ++
      back).splitOn separator =
        before ++ [marker, word] ++ back.splitOn separator := by
    calc
      _ = ((front ++ part) ++ separator :: (word ++ separator :: back)).splitOn
            separator := by simp
      _ = _ := by
        rw [List.splitOn_append_cons_self, split,
          List.splitOn_append_cons_self_of_not_mem wordPlain]
        simp
  exact ⟨marker, ending, before, back.splitOn separator, words.symm⟩

end Words

end VpnUi.Foundation
