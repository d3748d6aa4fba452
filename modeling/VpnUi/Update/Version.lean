import Mathlib.Order.PiLex
import VpnUi.Address.Text
import VpnUi.Foundation.Traverse

namespace VpnUi.Update

open Address Foundation

/-! The comparison of release tags, which decides whether the panel offers an
update. -/

/-- `strconv.Atoi` with its error ignored: a malformed number is 0, and one out of
range is the nearest int. -/
def atoi (text : List Char) : Int :=
  match atoi? text with
  | none => 0
  | some value => max (-2 ^ 63) (min value (2 ^ 63 - 1))

/-- The tag without the spaces around it and one leading v. -/
def stripped (tag : String) : List Char :=
  match trimSpace tag.toList with
  | 'v' :: rest => rest
  | text => text

def parts (tag : String) : List (List Char) := (stripped tag).splitOn '.'

/-- The number at a place of the tag, a missing one being 0. -/
def component (tag : String) (place : Nat) : Int :=
  match (parts tag)[place]? with
  | some part => atoi part
  | none => 0

def versionNewer (a b : String) : Bool :=
  if stripped a = [] then false
  else
    let places := max (parts a).length (parts b).length
    match (List.range places).find? fun place =>
        component a place ≠ component b place with
    | some place => component b place < component a place
    | none => false

/-! What the comparison is for. -/

/-- A component in decimal digits. -/
def decimal? (part : List Char) : Option Nat :=
  if part ≠ [] ∧ part.all Char.isDigit then
    some (Nat.ofDigitChars 10 part 0)
  else none

/-- The components of a tag that are all decimal numbers and fit an int. -/
def Numbers (tag : String) (numbers : List Nat) : Prop :=
  (parts tag).mapM decimal? = some numbers ∧
    ∀ number ∈ numbers, number < 2 ^ 63

/-- Some component of the tag is no number. -/
def Malformed (tag : String) : Prop := ∃ part ∈ parts tag, atoi? part = none

/-- The first list is greater, place by place, a missing number being 0. -/
def Greater (first second : List Nat) : Prop :=
  toLex (fun place => second.getD place 0) <
    toLex (fun place => first.getD place 0)

structure IsVersionOrder (newer : String → String → Bool) (a b c : String) :
    Prop where
  irreflexive : newer a a = false
  asymmetric : newer a b = true → newer b a = false
  transitive : newer a b = true → newer b c = true → newer a c = true
  numeric : ∀ first second, Numbers a first → Numbers b second →
    (newer a b = true ↔ Greater first second)
  rejects : Malformed a → newer a b = false

/-- A tag that is empty, or that is less where its numbers first differ from those
of the other one; what is no number counts as 0. -/
def NotAhead (a b : String) : Prop :=
  stripped a = [] ∨ ∀ place, (∀ earlier < place,
    component a earlier = component b earlier) →
      component a place ≤ component b place

section Order

variable {a b c tag : String} {place : Nat}

theorem component_of_length_le (past : (parts tag).length ≤ place) :
    component tag place = 0 := by
  rw [component, List.getElem?_eq_none past]

/-- Beyond the longer tag both numbers are 0. -/
theorem lt_of_component_ne (differs : component a place ≠ component b place) :
    place < max (parts a).length (parts b).length := by
  by_contra past
  obtain ⟨left, right⟩ := Nat.max_le.mp (not_lt.mp past)
  exact differs ((component_of_length_le left).trans
    (component_of_length_le right).symm)

theorem lex_lt_iff {first second : Nat → Int} :
    toLex first < toLex second ↔ ∃ place,
      (∀ earlier < place, first earlier = second earlier) ∧
        first place < second place :=
  Iff.rfl

/-- The loop compares the tags lexicographically. -/
theorem versionNewer_iff :
    versionNewer a b = true ↔
      stripped a ≠ [] ∧ toLex (component b) < toLex (component a) := by
  unfold versionNewer
  split
  next empty => simp [empty]
  next given =>
    rw [and_iff_right given, lex_lt_iff]
    dsimp only
    cases found : List.find? _ (List.range _) with
    | none =>
        refine iff_of_false Bool.false_ne_true ?_
        rintro ⟨place, -, less⟩
        have inside := List.mem_range.mpr
          (@lt_of_component_ne a b place (ne_of_gt less))
        have same := List.find?_eq_none.mp found place inside
        simp only [decide_not, Bool.not_eq_true', decide_eq_false_iff_not,
          not_not] at same
        exact absurd same (ne_of_gt less)
    | some place =>
        obtain ⟨differs, first⟩ := (List.find?_range_eq_some).mp found
        have same : ∀ earlier < place,
            component b earlier = component a earlier := by
          intro earlier below
          have equal := first.2 earlier below
          simpa [eq_comm] using equal
        simp only [decide_eq_true_eq] at differs ⊢
        constructor
        · intro less
          exact ⟨place, same, less⟩
        · rintro ⟨other, before, less⟩
          rcases lt_trichotomy other place with below | rfl | above
          · exact absurd (same other below) (ne_of_lt less)
          · exact less
          · exact absurd (before place above).symm differs

theorem not_newer_iff_notAhead (given : stripped a ≠ []) :
    ¬ toLex (component b) < toLex (component a) ↔ NotAhead a b := by
  unfold NotAhead
  rw [or_iff_right given, lex_lt_iff]
  constructor
  · intro none place same
    by_contra ahead
    exact none ⟨place, fun earlier below => (same earlier below).symm,
      not_le.mp ahead⟩
  · rintro all ⟨place, same, less⟩
    exact absurd (all place fun earlier below => (same earlier below).symm)
      (not_le.mpr less)

end Order

section Numbers

variable {a b tag : String} {part : List Char} {number : Nat}

theorem digits?_of_digits {value : Nat}
    (digits : ∀ letter ∈ part, letter.isDigit = true) :
    digits? value part = some (Nat.ofDigitChars 10 part value) := by
  induction part generalizing value with
  | nil => rw [digits?, Nat.ofDigitChars_nil]
  | cons letter rest induction =>
      rw [List.forall_mem_cons] at digits
      have inside : 48 ≤ letter.toNat ∧ letter.toNat ≤ 57 := by
        have digit := digits.1
        simp only [Char.isDigit, Bool.and_eq_true, decide_eq_true_eq] at digit
        exact digit
      rw [digits?, digit?, if_pos inside, Option.bind_eq_bind, Option.bind_some,
        induction digits.2, Nat.ofDigitChars_cons]
      rfl

theorem atoi?_of_decimal (read : decimal? part = some number) :
    atoi? part = some (number : Int) := by
  unfold decimal? at read
  split at read
  next digits =>
    obtain ⟨given, digits⟩ := digits
    obtain rfl := Option.some.inj read
    rw [List.all_eq_true] at digits
    have value := @digits?_of_digits part 0 digits
    cases part with
    | nil => exact absurd rfl given
    | cons letter rest =>
        have digit := digits letter List.mem_cons_self
        have minus : letter ≠ '-' := fun same => by
          rw [same] at digit
          exact absurd digit (by decide)
        have plus : letter ≠ '+' := fun same => by
          rw [same] at digit
          exact absurd digit (by decide)
        unfold atoi?
        split
        next empty => cases empty
        next sign => exact absurd (List.cons.inj sign).1 minus
        next sign => exact absurd (List.cons.inj sign).1 plus
        next tail sign => exact absurd (List.cons.inj sign).1 minus
        next tail sign => exact absurd (List.cons.inj sign).1 plus
        next => rw [value, Option.map_some]
                rfl
  next => cases read

theorem atoi_of_decimal (read : decimal? part = some number)
    (fits : number < 2 ^ 63) : atoi part = number := by
  rw [atoi, atoi?_of_decimal read]
  dsimp only
  omega

/-- Where the numbers of a tag fit, its components are these numbers. -/
theorem component_of_numbers {numbers : List Nat} (read : Numbers tag numbers) :
    component tag = fun place => ((numbers.getD place 0 : Nat) : Int) := by
  obtain ⟨mapped, fits⟩ := read
  have lined := forall₂_of_mapM mapped
  funext place
  rw [component]
  cases found : (parts tag)[place]? with
  | none =>
      have past : numbers.length ≤ place := by
        rw [← lined.length_eq]
        exact List.getElem?_eq_none_iff.mp found
      rw [List.getD_eq_getElem?_getD, List.getElem?_eq_none past]
      rfl
  | some part =>
      obtain ⟨number, listed, value⟩ := getElem?_of_forall₂ lined found
      dsimp only
      rw [atoi_of_decimal value (fits number (List.mem_of_getElem? listed)),
        List.getD_eq_getElem?_getD, listed, Option.getD_some]

theorem not_malformed_of_numbers {numbers : List Nat}
    (read : Numbers tag numbers) : ¬ Malformed tag := by
  rintro ⟨part, member, unread⟩
  obtain ⟨number, -, value⟩ :=
    mem_left_of_forall₂ (forall₂_of_mapM read.1) member
  rw [atoi?_of_decimal value] at unread
  cases unread

theorem malformed_of_empty (empty : stripped tag = []) : Malformed tag :=
  ⟨[], by rw [parts, empty]; exact List.mem_singleton_self _, rfl⟩

theorem greater_iff {first second : List Nat} (read : Numbers a first)
    (other : Numbers b second) :
    toLex (component b) < toLex (component a) ↔ Greater first second := by
  rw [component_of_numbers read, component_of_numbers other, lex_lt_iff]
  constructor
  · rintro ⟨place, same, less⟩
    exact ⟨place, fun earlier below => Int.ofNat.inj (same earlier below),
      Int.ofNat_lt.mp less⟩
  · rintro ⟨place, same, less⟩
    exact ⟨place, fun earlier below => congrArg Int.ofNat (same earlier below),
      Int.ofNat_lt.mpr less⟩

end Numbers

theorem versionNewer_self (a : String) : versionNewer a a = false := by
  rw [← Bool.not_eq_true, versionNewer_iff]
  exact fun newer => lt_irrefl _ newer.2

theorem versionNewer_asymm {a b : String} (newer : versionNewer a b = true) :
    versionNewer b a = false := by
  rw [versionNewer_iff] at newer
  rw [← Bool.not_eq_true, versionNewer_iff]
  exact fun other => lt_asymm newer.2 other.2

theorem versionNewer_trans {a b c : String} (first : versionNewer a b = true)
    (second : versionNewer b c = true) : versionNewer a c = true := by
  rw [versionNewer_iff] at first second ⊢
  exact ⟨first.1, second.2.trans first.2⟩

theorem versionNewer_numeric {a b : String} {first second : List Nat}
    (read : Numbers a first) (other : Numbers b second) :
    versionNewer a b = true ↔ Greater first second := by
  rw [versionNewer_iff, greater_iff read other]
  exact and_iff_right fun empty =>
    not_malformed_of_numbers read (malformed_of_empty empty)

/-- The comparison is a strict order throughout.  A malformed tag is rejected
exactly where it would not be ahead with its bad components read as 0. -/
theorem versionNewer_iff_order (a b c : String) :
    IsVersionOrder versionNewer a b c ↔ (Malformed a → NotAhead a b) := by
  have rejected : versionNewer a b = false ↔ NotAhead a b := by
    rw [← Bool.not_eq_true, versionNewer_iff]
    by_cases empty : stripped a = []
    · exact iff_of_true (fun newer => newer.1 empty) (.inl empty)
    · rw [and_iff_right empty, not_newer_iff_notAhead empty]
  constructor
  · intro order malformed
    exact rejected.mp (order.rejects malformed)
  · intro behind
    exact
      { irreflexive := versionNewer_self a
        asymmetric := versionNewer_asymm
        transitive := versionNewer_trans
        numeric := fun _ _ read other => versionNewer_numeric read other
        rejects := fun malformed => rejected.mpr (behind malformed) }

/-- A tag with a malformed component is announced as an update. -/
theorem malformed_tag_newer :
    ¬ ∀ a b c : String, IsVersionOrder versionNewer a b c := by
  intro order
  have malformed : Malformed "2.x" := ⟨['x'], by decide +kernel, rfl⟩
  have rejected := (order "2.x" "1.0" "").rejects malformed
  exact absurd rejected (by decide +kernel)

end VpnUi.Update
