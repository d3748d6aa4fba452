import VpnUi.Foundation.NameSupply
import VpnUi.Panel.CopyClients

namespace VpnUi.Panel

open Foundation

/-! The e-mails that copied clients are given: the first numbered name of the
original that is not occupied. -/

section Lower

theorem toLower_append (first second : String) :
    toLower (first ++ second) = toLower first ++ toLower second := by
  simp [toLower, String.toList_append]

theorem toLower_toList (text : String) :
    (toLower text).toList = text.toList.map Char.toLower := by
  simp [toLower]

theorem toLower_eq_empty {text : String} : toLower text = "" ↔ text = "" := by
  rw [← String.toList_inj, toLower_toList, ← @String.toList_inj text]
  simp

theorem char_toLower_cases (letter : Char) :
    letter.toLower = letter ∨ 97 ≤ letter.toLower.toNat := by
  unfold Char.toLower
  split
  next upper =>
    right
    have low := UInt32.le_iff_toNat_le.mp upper.1
    have high := UInt32.le_iff_toNat_le.mp upper.2
    change 97 ≤ (letter.val + ('a'.val - 'A'.val)).toNat
    rw [UInt32.toNat_add]
    change 65 ≤ letter.val.toNat at low
    change letter.val.toNat ≤ 90 at high
    change 97 ≤ (letter.val.toNat + 32) % 2 ^ 32
    omega
  next => exact .inl rfl

theorem char_toLower_below {letter : Char} (below : letter.toNat < 65) :
    letter.toLower = letter := by
  unfold Char.toLower
  apply dif_neg
  intro upper
  have low := UInt32.le_iff_toNat_le.mp upper.1
  change 65 ≤ letter.toNat at low
  omega

theorem char_toLower_eq_quote {letter : Char} (quote : letter.toLower = '"') :
    letter = '"' := by
  rcases char_toLower_cases letter with same | above
  · rwa [same] at quote
  · rw [quote] at above
    exact absurd above (by decide)

theorem toLower_digits (number : Nat) :
    toLower (toString number) = toString number := by
  rw [← String.toList_inj, toLower_toList, Nat.toString_eq_repr,
    Nat.toList_repr]
  conv_rhs => rw [← List.map_id (Nat.toDigits 10 number)]
  apply List.map_congr_left
  intro letter member
  have digit := Nat.isDigit_of_mem_toDigits (by decide) (by decide) member
  apply char_toLower_below
  simp only [Char.isDigit, Bool.and_eq_true, decide_eq_true_eq] at digit
  have high := UInt32.le_iff_toNat_le.mp digit.2
  change letter.toNat ≤ 57 at high
  omega

theorem toString_nat_injective : Function.Injective (toString : Nat → String) := by
  intro number other same
  have digits : Nat.toDigits 10 number = Nat.toDigits 10 other := by
    rw [← Nat.toList_repr, ← Nat.toList_repr, ← Nat.toString_eq_repr,
      ← Nat.toString_eq_repr, same]
  have values := congrArg (Nat.ofDigitChars 10 · 0) digits
  simpa only [Nat.ofDigitChars_ten_toDigits] using values

end Lower

/-- The candidates for the e-mail of a copy. -/
def copiedName (base : String) (suffix : Nat) : String :=
  if suffix = 0 then base else base ++ "_" ++ toString suffix

/-- The loop of `nextAvailableCopiedEmail`, if it ends within these rounds. -/
def copiedEmailLoop (base : String) (occupied : List String) :
    Nat → Nat → String → Option String
  | 0, _, _ => none
  | rounds + 1, suffix, candidate =>
      if toLower candidate ∈ occupied then
        copiedEmailLoop base occupied rounds (suffix + 1)
          (base ++ "_" ++ toString (suffix + 1))
      else some candidate

section Names

variable {base original : String} {occupied : List String} {targetId : Int}

theorem toLower_copiedName_injective :
    Function.Injective fun suffix => toLower (copiedName base suffix) := by
  have length : ∀ suffix, 0 < suffix →
      (toLower (copiedName base suffix)).toList =
        (toLower base).toList ++ '_' :: (toString suffix).toList := by
    intro suffix positive
    rw [copiedName, if_neg positive.ne', toLower_append, toLower_append,
      toLower_digits, String.toList_append, String.toList_append,
      List.append_assoc]
    rfl
  have first : ∀ suffix, 0 < suffix →
      toLower (copiedName base 0) ≠ toLower (copiedName base suffix) := by
    intro suffix positive same
    have letters := congrArg (fun name => name.toList.length) same
    simp only [length suffix positive] at letters
    rw [copiedName, if_pos rfl] at letters
    simp at letters
  intro suffix other same
  rcases Nat.eq_zero_or_pos suffix with rfl | positive
  · rcases Nat.eq_zero_or_pos other with rfl | otherPositive
    · rfl
    · exact absurd same (first other otherPositive)
  · rcases Nat.eq_zero_or_pos other with rfl | otherPositive
    · exact absurd same.symm (first suffix positive)
    · have letters := congrArg String.toList same
      simp only [length suffix positive, length other otherPositive,
        List.append_cancel_left_eq, List.cons.injEq, true_and] at letters
      exact toString_nat_injective (String.toList_inj.mp letters)

theorem copiedEmailLoop_eq (rounds suffix : Nat) :
    copiedEmailLoop base occupied rounds suffix (copiedName base suffix) =
      (firstFree (fun suffix => toLower (copiedName base suffix)) occupied
        rounds suffix).map (copiedName base) := by
  induction rounds generalizing suffix with
  | zero => rfl
  | succ rounds induction =>
      rw [copiedEmailLoop, firstFree]
      split
      · exact induction (suffix + 1)
      · rfl

/-- The first candidate that is not occupied. -/
theorem nextAvailable_spec (original : String) (targetId : Int)
    (occupied : List String) :
    ∃ suffix, nextAvailableCopiedEmail original targetId occupied =
        copiedName (original ++ "_" ++ toString targetId) suffix ∧
      firstFree (fun suffix => toLower
          (copiedName (original ++ "_" ++ toString targetId) suffix)) occupied
        (occupied.length + 1) 0 = some suffix := by
  obtain ⟨suffix, found⟩ := @exists_firstFree String _
    (fun suffix => toLower
      (copiedName (original ++ "_" ++ toString targetId) suffix)) occupied
    toLower_copiedName_injective
  refine ⟨suffix, ?_, found⟩
  obtain ⟨-, bounded, free, before⟩ := firstFree_eq_some.mp found
  have first : (List.range (occupied.length + 1)).find? (fun suffix =>
      toLower (copiedName (original ++ "_" ++ toString targetId) suffix) ∉
        occupied) = some suffix := by
    rw [List.find?_range_eq_some]
    refine ⟨by simpa using free, by simpa using bounded, ?_⟩
    intro earlier below
    simpa using before earlier (Nat.zero_le _) below
  rw [nextAvailableCopiedEmail]
  change ((((List.range (occupied.length + 1)).map
    (copiedName (original ++ "_" ++ toString targetId))).find?
      fun candidate => toLower candidate ∉ occupied).getD _) = _
  rw [List.find?_map]
  change ((((List.range (occupied.length + 1)).find? fun suffix =>
    toLower (copiedName (original ++ "_" ++ toString targetId) suffix) ∉
      occupied).map _).getD _) = _
  rw [first]
  rfl

/-- The loop of the source ends with this e-mail. -/
theorem copiedEmailLoop_ends (original : String) (targetId : Int)
    (occupied : List String) :
    copiedEmailLoop (original ++ "_" ++ toString targetId) occupied
        (occupied.length + 1) 0 (original ++ "_" ++ toString targetId) =
      some (nextAvailableCopiedEmail original targetId occupied) := by
  obtain ⟨suffix, name, found⟩ := nextAvailable_spec original targetId occupied
  have loop := @copiedEmailLoop_eq (original ++ "_" ++ toString targetId)
    occupied (occupied.length + 1) 0
  rw [found, Option.map_some, ← name] at loop
  exact loop

theorem nextAvailable_free (original : String) (targetId : Int)
    (occupied : List String) :
    toLower (nextAvailableCopiedEmail original targetId occupied) ∉
      occupied := by
  obtain ⟨suffix, name, found⟩ := nextAvailable_spec original targetId occupied
  rw [name]
  exact (firstFree_eq_some.mp found).2.2.1

end Names

/-! The occupied e-mails are compared without their outer quotes, the stored
ones with them. -/

/-- The text begins with a double quote. -/
def Quoted (text : String) : Prop := text.toList.head? = some '"'

instance (text : String) : Decidable (Quoted text) :=
  inferInstanceAs (Decidable (_ = _))

section Quotes

variable {text name : String} {emails : List String}

theorem trimQuotes_eq_self (head : ¬ Quoted text)
    (last : text.toList.getLast? ≠ some '"') : trimQuotes text = text := by
  have keeps : ∀ letters : List Char, letters.head? ≠ some '"' →
      letters.dropWhile (· = '"') = letters := by
    intro letters first
    cases letters with
    | nil => rfl
    | cons letter rest =>
        apply List.dropWhile_cons_of_neg
        simpa using first
  rw [trimQuotes]
  rw [keeps _ head, keeps _ (by rwa [List.head?_reverse]), List.reverse_reverse,
    String.ofList_toList]

/-- In lower case a quote stays a quote, and nothing else becomes one. -/
theorem quote_of_lower {letter : Option Char} {other : Option Char}
    (same : letter.map Char.toLower = other.map Char.toLower)
    (quote : letter = some '"') : other = some '"' := by
  rw [quote] at same
  obtain ⟨found, here, lower⟩ := Option.map_eq_some_iff.mp same.symm
  rw [here, char_toLower_eq_quote lower]

/-- A free name without outer quotes is not stored. -/
theorem not_stored_of_free (nonempty : name ≠ "") (head : ¬ Quoted name)
    (last : name.toList.getLast? ≠ some '"')
    (free : toLower name ∉ occupiedEmails emails) :
    toLower name ∉ emails.map toLower := by
  intro stored
  obtain ⟨email, member, same⟩ := List.mem_map.mp stored
  have letters : email.toList.map Char.toLower =
      name.toList.map Char.toLower := by
    rw [← toLower_toList, ← toLower_toList, same]
  have trimmed : trimQuotes email = email := by
    apply trimQuotes_eq_self
    · intro quoted
      apply head
      apply quote_of_lower _ quoted
      rw [← List.head?_map, ← List.head?_map, letters]
    · intro quoted
      apply last
      apply quote_of_lower _ quoted
      rw [← List.getLast?_map, ← List.getLast?_map, letters]
  apply free
  rw [occupiedEmails, List.mem_map]
  refine ⟨email, List.mem_filter.mpr ⟨List.mem_map.mpr ⟨email, member,
    trimmed⟩, ?_⟩, same⟩
  rw [decide_eq_true_eq]
  rintro rfl
  exact nonempty (toLower_eq_empty.mp same.symm)

theorem quote_not_mem_digits (number : Nat) :
    '"' ∉ (toString number).toList := by
  intro member
  rw [Nat.toString_eq_repr, Nat.toList_repr] at member
  have digit := Nat.isDigit_of_mem_toDigits (by decide) (by decide) member
  exact absurd digit (by decide)

theorem toString_nat_ne_nil (number : Nat) :
    (toString number).toList ≠ [] := by
  rw [Nat.toString_eq_repr, Nat.toList_repr]
  exact Nat.toDigits_ne_nil

theorem getLast?_number (number : Nat) (front : List Char) :
    (front ++ (toString number).toList).getLast? ≠ some '"' := by
  rw [List.getLast?_append_of_ne_nil _ (toString_nat_ne_nil number)]
  intro last
  exact quote_not_mem_digits number (List.mem_of_getLast? last)

theorem getLast?_base (original : String) (targetId : Int) :
    (original ++ "_" ++ toString targetId).toList.getLast? ≠ some '"' := by
  cases targetId with
  | ofNat number =>
      rw [String.toList_append]
      exact getLast?_number number _
  | negSucc number =>
      have text : toString (Int.negSucc number) =
          "-" ++ toString (number + 1) := rfl
      rw [text, String.toList_append, @String.toList_append "-",
        ← List.append_assoc]
      exact getLast?_number (number + 1) _

theorem getLast?_copiedName (original : String) (targetId : Int)
    (suffix : Nat) :
    (copiedName (original ++ "_" ++ toString targetId)
      suffix).toList.getLast? ≠ some '"' := by
  unfold copiedName
  split
  · exact getLast?_base original targetId
  · rw [String.toList_append]
    exact getLast?_number suffix _

theorem head?_copiedName {original : String} (nonempty : original ≠ "")
    (targetId : Int) (suffix : Nat) :
    (copiedName (original ++ "_" ++ toString targetId) suffix).toList.head? =
      original.toList.head? := by
  have letters : original.toList ≠ [] := by
    intro none
    exact nonempty (String.toList_inj.mp none)
  obtain ⟨letter, rest, first⟩ := List.exists_cons_of_ne_nil letters
  unfold copiedName
  split <;> simp [String.toList_append, first]

/-- The e-mail of a copy is not stored, unless both begin with a quote. -/
theorem nextAvailable_not_stored {original : String}
    (nonempty : original ≠ "") (unquoted : ¬ Quoted original) (targetId : Int)
    {occupied : List String} (covers : ∀ email ∈ occupiedEmails emails,
      email ∈ occupied) :
    toLower (nextAvailableCopiedEmail original targetId occupied) ∉
      emails.map toLower := by
  have free := nextAvailable_free original targetId occupied
  obtain ⟨suffix, name, -⟩ := nextAvailable_spec original targetId occupied
  rw [name] at free ⊢
  have head := head?_copiedName nonempty targetId suffix
  apply not_stored_of_free
  · rintro empty
    rw [empty] at head
    exact nonempty (String.toList_inj.mp (List.head?_eq_none_iff.mp head.symm))
  · rwa [Quoted, head]
  · exact getLast?_copiedName original targetId suffix
  · exact fun occupies => free (covers _ occupies)

end Quotes

end VpnUi.Panel
