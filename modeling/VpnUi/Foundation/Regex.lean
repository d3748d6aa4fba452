import Mathlib.Data.List.Basic
import Mathlib.Data.List.TakeDrop
import Mathlib.Data.List.TakeWhile
import Mathlib.Data.List.Infix

namespace VpnUi.Foundation

/-! Patterns with submatches in a text, the leftmost match and of those the
preferred one. -/

inductive Regex
  | text (letters : List Char)
  | one (letterClass : Char → Bool)
  /-- As many letters as possible, at least one. -/
  | many (letterClass : Char → Bool)
  | optional (body : Regex)
  | either (first second : Regex)
  | followed (first second : Regex)
  | group (body : Regex)
  /-- The end of the text. -/
  | final

namespace Regex

/-- A way to match a prefix of a text. -/
structure Way where
  groups : List (List Char)
  rest : List Char
  deriving DecidableEq

/-- Every way to match a prefix of the text, the preferred one first. -/
def ways (input : List Char) : Regex → List Way
  | text letters =>
      if letters <+: input then [⟨[], input.drop letters.length⟩] else []
  | one letterClass =>
      match input with
      | [] => []
      | letter :: rest => if letterClass letter then [⟨[], rest⟩] else []
  | many letterClass =>
      (List.range (input.takeWhile letterClass).length).reverse.map fun length =>
        ⟨[], input.drop (length + 1)⟩
  | optional body => body.ways input ++ [⟨[], input⟩]
  | either first second => first.ways input ++ second.ways input
  | followed first second =>
      (first.ways input).flatMap fun way =>
        (second.ways way.rest).map fun next =>
          ⟨way.groups ++ next.groups, next.rest⟩
  | group body =>
      (body.ways input).map fun way =>
        ⟨input.take (input.length - way.rest.length) :: way.groups, way.rest⟩
  | final => if input = [] then [⟨[], []⟩] else []

/-- The submatches of the pattern at the start of the text. -/
def startSubmatch (regex : Regex) (input : List Char) :
    Option (List (List Char)) :=
  (regex.ways input).head?.map Way.groups

/-- The submatches of the leftmost match. -/
def findStringSubmatch (regex : Regex) (input : List Char) :
    Option (List (List Char)) :=
  input.tails.findSome? regex.startSubmatch

section Ways

variable {regex first second body : Regex} {input rest letters : List Char}
  {letterClass : Char → Bool} {groups : List (List Char)} {way : Way}

theorem ways_text :
    (text letters).ways input =
      if letters <+: input then [⟨[], input.drop letters.length⟩] else [] := rfl

theorem ways_one :
    (one letterClass).ways input =
      match input with
      | [] => []
      | letter :: rest => if letterClass letter then [⟨[], rest⟩] else [] := rfl

theorem ways_many :
    (many letterClass).ways input =
      (List.range (input.takeWhile letterClass).length).reverse.map fun length =>
        ⟨[], input.drop (length + 1)⟩ := rfl

theorem ways_optional :
    (optional body).ways input = body.ways input ++ [⟨[], input⟩] := rfl

theorem ways_either :
    (either first second).ways input =
      first.ways input ++ second.ways input := rfl

theorem ways_followed :
    (followed first second).ways input =
      (first.ways input).flatMap fun way =>
        (second.ways way.rest).map fun next =>
          ⟨way.groups ++ next.groups, next.rest⟩ := rfl

theorem ways_group :
    (group body).ways input =
      (body.ways input).map fun way =>
        ⟨input.take (input.length - way.rest.length) :: way.groups,
          way.rest⟩ := rfl

theorem ways_final :
    final.ways input = if input = [] then [⟨[], []⟩] else [] := rfl

theorem mem_ways_text :
    way ∈ (text letters).ways input ↔
      way.groups = [] ∧ input = letters ++ way.rest := by
  obtain ⟨groups, rest⟩ := way
  rw [ways_text]
  split
  next starts =>
    obtain ⟨after, rfl⟩ := starts
    simp [eq_comm]
  next other =>
    simp only [List.not_mem_nil, false_iff]
    intro both
    exact other ⟨rest, both.2.symm⟩

theorem mem_ways_one :
    way ∈ (one letterClass).ways input ↔
      way.groups = [] ∧ ∃ letter, letterClass letter = true ∧
        input = letter :: way.rest := by
  obtain ⟨groups, rest⟩ := way
  cases input with
  | nil => simp [ways_one]
  | cons letter tail =>
      rw [ways_one]
      by_cases fits : letterClass letter = true
      · simp only [if_pos fits, List.mem_singleton, Way.mk.injEq,
          List.cons.injEq]
        constructor
        · intro same
          exact ⟨same.1, letter, fits, rfl, same.2.symm⟩
        · intro same
          obtain ⟨empty, other, -, -, rfl⟩ := same
          exact ⟨empty, rfl⟩
      · simp only [if_neg fits, List.not_mem_nil, List.cons.injEq, false_iff]
        intro same
        obtain ⟨-, other, fitsOther, rfl, -⟩ := same
        exact fits fitsOther

theorem mem_ways_many :
    way ∈ (many letterClass).ways input ↔
      way.groups = [] ∧ ∃ run, run ≠ [] ∧
        (∀ letter ∈ run, letterClass letter = true) ∧
          input = run ++ way.rest := by
  obtain ⟨groups, rest⟩ := way
  simp only [ways_many, List.mem_map, List.mem_reverse, List.mem_range, Way.mk.injEq]
  constructor
  · intro taken
    obtain ⟨length, below, empty, remaining⟩ := taken
    refine ⟨empty.symm, input.take (length + 1), ?_, ?_, ?_⟩
    · intro nothing
      have : (input.takeWhile letterClass).length = 0 := by
        rcases List.take_eq_nil_iff.mp nothing with zero | none
        · cases zero
        · rw [none]
          rfl
      omega
    · intro letter member
      have within : input.take (length + 1) <+: input.takeWhile letterClass := by
        have prefixes := List.prefix_of_prefix_length_le
          (List.take_prefix (length + 1) input)
          (List.takeWhile_prefix letterClass)
          ((List.length_take_le _ _).trans below)
        exact prefixes
      exact List.mem_takeWhile_imp (within.subset member)
    · rw [← remaining, List.take_append_drop]
  · intro split
    obtain ⟨empty, run, nonempty, fits, rfl⟩ := split
    have positive := List.length_pos_of_ne_nil nonempty
    refine ⟨run.length - 1, ?_, empty.symm, ?_⟩
    · rw [List.takeWhile_append_of_pos fits, List.length_append]
      omega
    · rw [Nat.sub_add_cancel positive, List.drop_left]

theorem mem_ways_optional :
    way ∈ (optional body).ways input ↔
      way ∈ body.ways input ∨ way = ⟨[], input⟩ := by
  rw [ways_optional, List.mem_append, List.mem_singleton]

theorem mem_ways_either :
    way ∈ (either first second).ways input ↔
      way ∈ first.ways input ∨ way ∈ second.ways input := by
  rw [ways_either, List.mem_append]

theorem mem_ways_followed :
    way ∈ (followed first second).ways input ↔
      ∃ groups others middle, way.groups = groups ++ others ∧
        ⟨groups, middle⟩ ∈ first.ways input ∧
          ⟨others, way.rest⟩ ∈ second.ways middle := by
  obtain ⟨groups, rest⟩ := way
  simp only [ways_followed, List.mem_flatMap, List.mem_map, Way.mk.injEq]
  constructor
  · intro split
    obtain ⟨before, earlier, after, later, rfl, rfl⟩ := split
    exact ⟨before.groups, after.groups, before.rest, rfl, earlier, later⟩
  · intro split
    obtain ⟨left, right, middle, rfl, earlier, later⟩ := split
    exact ⟨⟨left, middle⟩, earlier, ⟨right, rest⟩, later, rfl, rfl⟩

theorem mem_ways_final :
    way ∈ final.ways input ↔ way = ⟨[], []⟩ ∧ input = [] := by
  rw [ways_final]
  split <;> simp_all

/-- A way leaves a suffix of the text. -/
theorem exists_eq_append_of_mem_ways (member : way ∈ regex.ways input) :
    ∃ matched, input = matched ++ way.rest := by
  induction regex generalizing input way with
  | text letters => exact ⟨letters, (mem_ways_text.mp member).2⟩
  | one letterClass =>
      obtain ⟨-, letter, -, split⟩ := mem_ways_one.mp member
      exact ⟨[letter], split⟩
  | many letterClass =>
      obtain ⟨-, run, -, -, split⟩ := mem_ways_many.mp member
      exact ⟨run, split⟩
  | optional body induction =>
      rcases mem_ways_optional.mp member with inner | rfl
      · exact induction inner
      · exact ⟨[], rfl⟩
  | either first second firstInduction secondInduction =>
      rcases mem_ways_either.mp member with inner | inner
      · exact firstInduction inner
      · exact secondInduction inner
  | followed first second firstInduction secondInduction =>
      obtain ⟨_, _, middle, -, earlier, later⟩ := mem_ways_followed.mp member
      have left : ∃ matched, input = matched ++ middle := firstInduction earlier
      obtain ⟨left, split⟩ := left
      obtain ⟨right, resplit⟩ := secondInduction later
      refine ⟨left ++ right, ?_⟩
      rw [split, resplit, List.append_assoc]
  | group body induction =>
      simp only [ways_group, List.mem_map] at member
      obtain ⟨inner, innerMember, rfl⟩ := member
      have split : ∃ matched, input = matched ++ inner.rest :=
        induction innerMember
      exact split
  | final =>
      obtain ⟨rfl, rfl⟩ := mem_ways_final.mp member
      exact ⟨[], rfl⟩

theorem mem_ways_group :
    way ∈ (group body).ways input ↔
      ∃ captured groups, way.groups = captured :: groups ∧
        input = captured ++ way.rest ∧ ⟨groups, way.rest⟩ ∈ body.ways input := by
  obtain ⟨groups, rest⟩ := way
  simp only [ways_group, List.mem_map, Way.mk.injEq]
  constructor
  · intro taken
    obtain ⟨inner, member, captured, rfl⟩ := taken
    obtain ⟨matched, split⟩ := exists_eq_append_of_mem_ways member
    have length : input.length - inner.rest.length = matched.length := by
      rw [split, List.length_append, Nat.add_sub_cancel]
    refine ⟨matched, inner.groups, ?_, split, member⟩
    rw [← captured, length, split, List.take_left]
  · intro taken
    obtain ⟨captured, inner, rfl, split, member⟩ := taken
    refine ⟨⟨inner, rest⟩, member, ?_, rfl⟩
    have length : input.length - rest.length = captured.length := by
      rw [split, List.length_append, Nat.add_sub_cancel]
    rw [length, split, List.take_left]

end Ways

section Find

variable {regex : Regex} {input before after : List Char}
  {groups : List (List Char)}

theorem startSubmatch_eq_some
    (found : regex.startSubmatch input = some groups) :
    ∃ way ∈ regex.ways input, way.groups = groups := by
  obtain ⟨way, head, captured⟩ := Option.map_eq_some_iff.mp found
  exact ⟨way, List.mem_of_head? head, captured⟩

theorem startSubmatch_eq_none :
    regex.startSubmatch input = none ↔ regex.ways input = [] := by
  rw [startSubmatch, Option.map_eq_none_iff, List.head?_eq_none_iff]

/-- Where every way has the same submatches, these are found. -/
theorem startSubmatch_of_unique (some' : ∃ way, way ∈ regex.ways input)
    (unique : ∀ way ∈ regex.ways input, way.groups = groups) :
    regex.startSubmatch input = some groups := by
  cases found : regex.startSubmatch input with
  | none =>
      obtain ⟨way, member⟩ := some'
      rw [startSubmatch_eq_none.mp found] at member
      cases member
  | some captured =>
      obtain ⟨way, member, rfl⟩ := startSubmatch_eq_some found
      rw [unique way member]

/-- What is found is matched after some prefix. -/
theorem findStringSubmatch_eq_some
    (found : regex.findStringSubmatch input = some groups) :
    ∃ before after, input = before ++ after ∧
      ∃ way ∈ regex.ways after, way.groups = groups := by
  obtain ⟨after, tail, matched⟩ := List.exists_of_findSome?_eq_some found
  obtain ⟨before, split⟩ := (List.mem_tails _ _).mp tail
  exact ⟨before, after, split.symm, startSubmatch_eq_some matched⟩

theorem findStringSubmatch_eq_none :
    regex.findStringSubmatch input = none ↔
      ∀ before after, input = before ++ after → regex.ways after = [] := by
  rw [findStringSubmatch, List.findSome?_eq_none_iff]
  simp only [startSubmatch_eq_none, List.mem_tails]
  constructor
  · intro none before after split
    exact none after ⟨before, split.symm⟩
  · intro none after tail
    obtain ⟨before, split⟩ := tail
    exact none before after split.symm

/-- A match at the start comes first. -/
theorem findStringSubmatch_of_start
    (found : regex.startSubmatch input = some groups) :
    regex.findStringSubmatch input = some groups := by
  cases input with
  | nil => simp [findStringSubmatch, List.tails, found]
  | cons letter rest => simp [findStringSubmatch, List.tails, found]

end Find

end Regex

end VpnUi.Foundation
