import Mathlib.Data.List.Infix
import Mathlib.Tactic.IntervalCases
import VpnUi.Foundation.Json

namespace VpnUi.Foundation

/-! The texts of the JSON encoder, compact and indented, and a scan of the
compact ones that tells which patterns cannot occur in them. -/

section Scan

variable {State Letter : Type*} {read : State → Letter → Option State}

/-- A pattern that no state gets through is in no text that is read to its
end. -/
theorem not_infix_of_stuck {start after : State} {pattern text : List Letter}
    (stuck : ∀ state, pattern.foldlM read state = none)
    (finished : text.foldlM read start = some after) :
    ¬ pattern <:+: text := by
  intro found
  obtain ⟨before, behind, rfl⟩ := found
  rw [List.foldlM_append, List.foldlM_append] at finished
  cases reached : before.foldlM read start with
  | none =>
      rw [reached] at finished
      cases finished
  | some state =>
      rw [reached, Option.bind_eq_bind, Option.bind_some, stuck] at finished
      cases finished

end Scan

theorem JsonObject.mem_of_get {object : JsonObject} {key : String}
    {value : Json} (found : object.get key = value) (given : value ≠ .null) :
    (key, value) ∈ object := by
  unfold JsonObject.get JsonObject.get? at found
  cases read : object.reverse.lookup key with
  | none =>
      rw [read] at found
      exact absurd found.symm given
  | some stored =>
      obtain ⟨before, behind, split, -⟩ := List.lookup_eq_some_iff.mp read
      rw [read, Option.getD_some] at found
      rw [← List.mem_reverse, split, found]
      exact List.mem_append_right _ List.mem_cons_self

namespace Json

def hexDigit (number : Nat) : Char := Nat.digitChar (number % 16)

/-- A character inside an encoded string. -/
def escapeLetter : Char → List Char
  | '"' => ['\\', '"']
  | '\\' => ['\\', '\\']
  | '\n' => ['\\', 'n']
  | '\r' => ['\\', 'r']
  | '\t' => ['\\', 't']
  | '\x08' => ['\\', 'b']
  | '\x0c' => ['\\', 'f']
  | letter =>
      let number := letter.toNat
      if number < 32 ∨ letter ∈ ['<', '>', '&'] ∨ number = 0x2028 ∨
          number = 0x2029 then
        ['\\', 'u', hexDigit (number / 4096), hexDigit (number / 256),
          hexDigit (number / 16), hexDigit number]
      else [letter]

def quoted (text : String) : List Char :=
  '"' :: (text.toList.flatMap escapeLetter ++ ['"'])

/-- `Marshal`, and `MarshalIndent` with two spaces. -/
inductive Layout
  | compact
  | indented
  deriving DecidableEq

namespace Layout

def colon : Layout → List Char
  | compact => [':']
  | indented => [':', ' ']

def newline (depth : Nat) : Layout → List Char
  | compact => []
  | indented => '\n' :: List.replicate (2 * depth) ' '

end Layout

mutual

/-- The text of a value that stands `depth` levels deep. -/
def print (layout : Layout) (depth : Nat) : Json → List Char
  | .null => ['n', 'u', 'l', 'l']
  | .bool true => ['t', 'r', 'u', 'e']
  | .bool false => ['f', 'a', 'l', 's', 'e']
  | .int value => (toString value).toList
  | .real literal => literal.toList
  | .str text => quoted text
  | .arr [] => ['[', ']']
  | .arr (item :: items) =>
      '[' :: (layout.newline (depth + 1) ++ print layout (depth + 1) item ++
        printItems layout (depth + 1) items ++ layout.newline depth ++ [']'])
  | .obj [] => ['\x7b', '\x7d']
  | .obj ((key, value) :: fields) =>
      '\x7b' :: (layout.newline (depth + 1) ++ quoted key ++ layout.colon ++
        print layout (depth + 1) value ++
        printFields layout (depth + 1) fields ++ layout.newline depth ++
        ['\x7d'])

/-- The items after the first. -/
def printItems (layout : Layout) (depth : Nat) : List Json → List Char
  | [] => []
  | item :: items =>
      ',' :: (layout.newline depth ++ print layout depth item ++
        printItems layout depth items)

/-- The fields after the first. -/
def printFields (layout : Layout) (depth : Nat) :
    List (String × Json) → List Char
  | [] => []
  | (key, value) :: fields =>
      ',' :: (layout.newline depth ++ quoted key ++ layout.colon ++
        print layout depth value ++ printFields layout depth fields)

end

section Occurrences

variable {layout : Layout} {depth : Nat}

theorem infix_printItems {items : List Json} {item : Json}
    (member : item ∈ items) :
    print layout depth item <:+: printItems layout depth items := by
  induction items with
  | nil => cases member
  | cons head tail induction =>
      rcases List.mem_cons.mp member with rfl | later
      · exact ⟨',' :: layout.newline depth, printItems layout depth tail,
          by simp [printItems]⟩
      · obtain ⟨before, behind, split⟩ := induction later
        refine ⟨',' :: (layout.newline depth ++ print layout depth head ++
          before), behind, ?_⟩
        simp [printItems, ← split]

theorem infix_print_arr {items : List Json} {item : Json}
    (member : item ∈ items) :
    print layout (depth + 1) item <:+: print layout depth (.arr items) := by
  cases items with
  | nil => cases member
  | cons head tail =>
      rcases List.mem_cons.mp member with rfl | later
      · refine ⟨'[' :: layout.newline (depth + 1),
          printItems layout (depth + 1) tail ++ layout.newline depth ++ [']'],
          ?_⟩
        simp [print]
      · obtain ⟨before, behind, split⟩ :=
          @infix_printItems layout (depth + 1) tail item later
        refine ⟨'[' :: (layout.newline (depth + 1) ++
          print layout (depth + 1) head ++ before),
          behind ++ layout.newline depth ++ [']'], ?_⟩
        simp [print, ← split]

theorem infix_printFields {fields : JsonObject} {key : String} {value : Json}
    (member : (key, value) ∈ fields) :
    quoted key ++ layout.colon ++ print layout depth value <:+:
      printFields layout depth fields := by
  induction fields with
  | nil => cases member
  | cons head tail induction =>
      rcases List.mem_cons.mp member with rfl | later
      · exact ⟨',' :: layout.newline depth, printFields layout depth tail,
          by simp [printFields]⟩
      · obtain ⟨before, behind, split⟩ := induction later
        refine ⟨',' :: (layout.newline depth ++ quoted head.1 ++ layout.colon ++
          print layout depth head.2 ++ before), behind, ?_⟩
        simp [printFields, ← split]

/-- The text of an object has each of its fields in it. -/
theorem infix_print_obj {fields : JsonObject} {key : String} {value : Json}
    (member : (key, value) ∈ fields) :
    quoted key ++ layout.colon ++ print layout (depth + 1) value <:+:
      print layout depth (.obj fields) := by
  cases fields with
  | nil => cases member
  | cons head tail =>
      rcases List.mem_cons.mp member with rfl | later
      · refine ⟨'\x7b' :: layout.newline (depth + 1),
          printFields layout (depth + 1) tail ++ layout.newline depth ++
            ['\x7d'], ?_⟩
        simp [print]
      · obtain ⟨before, behind, split⟩ :=
          @infix_printFields layout (depth + 1) tail key value later
        refine ⟨'\x7b' :: (layout.newline (depth + 1) ++ quoted head.1 ++
          layout.colon ++ print layout (depth + 1) head.2 ++ before),
          behind ++ layout.newline depth ++ ['\x7d'], ?_⟩
        simp [print, ← split]

end Occurrences

/-- The letters of a number. -/
def numeral (letter : Char) : Bool :=
  letter.isDigit || letter ∈ ['-', '+', '.', 'e', 'E']

/-- The values of JSON texts. -/
inductive WellFormed : Json → Prop
  | null : WellFormed .null
  | bool (value : Bool) : WellFormed (.bool value)
  | int (value : Int) : WellFormed (.int value)
  | real {literal : String} (nonempty : literal ≠ "")
      (letters : ∀ letter ∈ literal.toList, numeral letter) :
      WellFormed (.real literal)
  | str (text : String) : WellFormed (.str text)
  | arr {items : List Json} (each : ∀ item ∈ items, WellFormed item) :
      WellFormed (.arr items)
  | obj {fields : JsonObject} (each : ∀ field ∈ fields, WellFormed field.2) :
      WellFormed (.obj fields)

/-- Where a scan of a text stands: `closed` is behind a string, `key` behind
the colon after one. -/
inductive Place
  | outside
  | inside
  | escaped
  | closed
  | key
  deriving DecidableEq

namespace Place

/-- A string is followed by a mark, a colon by a value without a space. -/
def read : Place → Char → Option Place
  | outside, letter => some (if letter = '"' then inside else outside)
  | inside, letter =>
      some (if letter = '"' then closed
        else if letter = '\\' then escaped
        else inside)
  | escaped, _ => some inside
  | closed, letter =>
      if letter = ':' then some key
      else if letter ∈ [',', ']', '\x7d'] then some outside
      else none
  | key, letter =>
      if letter = ' ' then none
      else some (if letter = '"' then inside else outside)

/-- A value may begin here. -/
def Begins (place : Place) : Prop := place = outside ∨ place = key

end Place

def scan (place : Place) (text : List Char) : Option Place :=
  text.foldlM Place.read place

/-- The text is a value read to its end. -/
def Finishes (place : Place) (text : List Char) : Prop :=
  scan place text = some .outside ∨ scan place text = some .closed

section Compact

variable {place : Place} {text rest : List Char}

theorem scan_cons {letter : Char} :
    scan place (letter :: text) =
      (place.read letter).bind (scan · text) := List.foldlM_cons

theorem scan_append :
    scan place (text ++ rest) = (scan place text).bind (scan · rest) :=
  List.foldlM_append

theorem Finishes.scan_mark (finishes : Finishes place text) {mark : Char}
    (isMark : mark ∈ [',', ']', '\x7d']) :
    scan place (text ++ mark :: rest) = scan .outside rest := by
  have notQuote : mark ≠ '"' := by
    rintro rfl
    exact absurd isMark (by decide)
  have notColon : mark ≠ ':' := by
    rintro rfl
    exact absurd isMark (by decide)
  rw [scan_append]
  rcases finishes with ended | ended
  · rw [ended, Option.bind_some, scan_cons, Place.read, if_neg notQuote,
      Option.bind_some]
  · rw [ended, Option.bind_some, scan_cons, Place.read, if_neg notColon,
      if_pos isMark, Option.bind_some]

theorem scan_hexDigit {number : Nat} :
    scan .inside (hexDigit number :: rest) = scan .inside rest := by
  have below : number % 16 < 16 := Nat.mod_lt _ (by decide)
  have plain : hexDigit number ≠ '"' ∧ hexDigit number ≠ '\\' := by
    unfold hexDigit
    generalize number % 16 = digit at below ⊢
    interval_cases digit <;> decide
  rw [scan_cons, Place.read, if_neg plain.1, if_neg plain.2, Option.bind_some]

theorem scan_escapeLetter {letter : Char} :
    scan .inside (escapeLetter letter ++ rest) = scan .inside rest := by
  unfold escapeLetter
  split
  · rfl
  · rfl
  · rfl
  · rfl
  · rfl
  · rfl
  · rfl
  · next notQuote notEscape _ _ _ _ _ =>
      simp only
      split
      · simp only [List.cons_append, List.nil_append]
        rw [scan_cons, Place.read, if_neg (by decide), if_pos rfl,
          Option.bind_some, scan_cons, Place.read, Option.bind_some,
          scan_hexDigit, scan_hexDigit, scan_hexDigit, scan_hexDigit]
      · rw [List.singleton_append, scan_cons, Place.read,
          if_neg notQuote, if_neg notEscape, Option.bind_some]

theorem scan_quoted (begins : place.Begins) {name : String} :
    scan place (quoted name ++ rest) = scan .closed rest := by
  have opened : scan place (quoted name ++ rest) =
      scan .inside (name.toList.flatMap escapeLetter ++ '"' :: rest) := by
    rw [quoted, List.cons_append, scan_cons]
    rcases begins with rfl | rfl <;> simp [Place.read]
  rw [opened]
  induction name.toList with
  | nil => rfl
  | cons letter letters induction =>
      rw [List.flatMap_cons, List.append_assoc, scan_escapeLetter, induction]

theorem scan_numerals (letters : ∀ letter ∈ text, numeral letter) :
    scan .outside text = some .outside := by
  induction text with
  | nil => rfl
  | cons letter tail induction =>
      have notQuote : letter ≠ '"' := by
        rintro rfl
        exact absurd (letters _ List.mem_cons_self) (by decide)
      rw [scan_cons, Place.read, if_neg notQuote, Option.bind_some]
      exact induction fun other member =>
        letters other (List.mem_cons_of_mem _ member)

theorem finishes_numerals (begins : place.Begins) (nonempty : text ≠ [])
    (letters : ∀ letter ∈ text, numeral letter) : Finishes place text := by
  apply Or.inl
  rcases begins with rfl | rfl
  · exact scan_numerals letters
  · cases text with
    | nil => exact absurd rfl nonempty
    | cons letter tail =>
        have notQuote : letter ≠ '"' := by
          rintro rfl
          exact absurd (letters _ List.mem_cons_self) (by decide)
        have notSpace : letter ≠ ' ' := by
          rintro rfl
          exact absurd (letters _ List.mem_cons_self) (by decide)
        rw [scan_cons, Place.read, if_neg notSpace, if_neg notQuote,
          Option.bind_some]
        exact scan_numerals fun other member =>
          letters other (List.mem_cons_of_mem _ member)

theorem numeral_of_mem_digits {number : Nat} {letter : Char}
    (member : letter ∈ Nat.toDigits 10 number) : numeral letter := by
  have digit := Nat.isDigit_of_mem_toDigits (by decide) (by decide) member
  rw [numeral, digit, Bool.true_or]

theorem finishes_int (begins : place.Begins) (value : Int) :
    Finishes place (toString value).toList := by
  cases value with
  | ofNat number =>
      have written : (toString (Int.ofNat number)).toList =
          Nat.toDigits 10 number := Nat.toList_repr
      rw [written]
      exact finishes_numerals begins Nat.toDigits_ne_nil
        fun _ => numeral_of_mem_digits
  | negSucc number =>
      have written : (toString (Int.negSucc number)).toList =
          '-' :: Nat.toDigits 10 (number + 1) := by
        rw [← Nat.toList_repr]
        exact String.toList_append
      rw [written]
      apply finishes_numerals begins (List.cons_ne_nil _ _)
      intro letter member
      rcases List.mem_cons.mp member with rfl | digit
      · decide
      · exact numeral_of_mem_digits digit

/-- What every text of a value satisfies wherever a value may begin. -/
def Readable (text : List Char) : Prop :=
  ∀ place : Place, place.Begins → Finishes place text

theorem finishes_printItems {items : List Json} {depth : Nat}
    (each : ∀ item ∈ items, Readable (print .compact depth item))
    (finishes : Finishes place text) :
    Finishes place (text ++ printItems .compact depth items) := by
  induction items generalizing text with
  | nil => rwa [printItems, List.append_nil]
  | cons item items induction =>
      have regrouped : text ++ printItems .compact depth (item :: items) =
          (text ++ ',' :: print .compact depth item) ++
            printItems .compact depth items := by
        simp [printItems, Layout.newline]
      rw [regrouped]
      apply induction fun other member =>
        each other (List.mem_cons_of_mem _ member)
      unfold Finishes
      rw [finishes.scan_mark (by decide)]
      exact each item List.mem_cons_self .outside (.inl rfl)

/-- A field from its key on. -/
theorem scan_field {name : String} :
    scan .outside (quoted name ++ ':' :: rest) = scan .key rest := by
  rw [scan_quoted (.inl rfl), scan_cons]
  rfl

theorem finishes_printFields {fields : JsonObject} {depth : Nat}
    (each : ∀ field ∈ fields, Readable (print .compact depth field.2))
    (finishes : Finishes place text) :
    Finishes place (text ++ printFields .compact depth fields) := by
  induction fields generalizing text with
  | nil => rwa [printFields, List.append_nil]
  | cons field fields induction =>
      have regrouped : text ++ printFields .compact depth (field :: fields) =
          (text ++ ',' :: (quoted field.1 ++
            ':' :: print .compact depth field.2)) ++
            printFields .compact depth fields := by
        simp [printFields, Layout.newline, Layout.colon]
      rw [regrouped]
      apply induction fun other member =>
        each other (List.mem_cons_of_mem _ member)
      unfold Finishes
      rw [finishes.scan_mark (by decide), scan_field]
      exact each field List.mem_cons_self .key (.inr rfl)

/-- An opening bracket, the contents and the closing one. -/
theorem readable_enclosed {opening closing : Char}
    (opens : opening ∈ ['[', '\x7b']) (closes : closing ∈ [']', '\x7d'])
    (finishes : Finishes .outside text) :
    Readable (opening :: (text ++ [closing])) := by
  intro place begins
  have opened : place.read opening = some .outside := by
    have plain : opening ≠ '"' ∧ opening ≠ ' ' := by
      constructor <;> rintro rfl <;> exact absurd opens (by decide)
    rcases begins with rfl | rfl
    · rw [Place.read, if_neg plain.1]
    · rw [Place.read, if_neg plain.2, if_neg plain.1]
  have isMark : closing ∈ [',', ']', '\x7d'] := List.mem_cons_of_mem _ closes
  apply Or.inl
  rw [scan_cons, opened, Option.bind_some, finishes.scan_mark isMark]
  rfl

/-- The compact text of a value is read to its end. -/
theorem readable_print {json : Json} (wellFormed : json.WellFormed)
    (depth : Nat) : Readable (print .compact depth json) := by
  induction wellFormed generalizing depth with
  | null =>
      intro place begins
      rcases begins with rfl | rfl <;> exact .inl rfl
  | bool value =>
      intro place begins
      cases value <;> rcases begins with rfl | rfl <;> exact .inl rfl
  | int value =>
      intro place begins
      exact finishes_int begins value
  | real nonempty letters =>
      intro place begins
      exact finishes_numerals begins (by simpa [print] using nonempty) letters
  | str text =>
      intro place begins
      apply Or.inr
      rw [print, ← List.append_nil (quoted text), scan_quoted begins]
      rfl
  | @arr items _ induction =>
      cases items with
      | nil =>
          intro place begins
          rcases begins with rfl | rfl <;> exact .inl rfl
      | cons item items =>
          have shown : print .compact depth (.arr (item :: items)) =
              '[' :: ((print .compact (depth + 1) item ++
                printItems .compact (depth + 1) items) ++ [']']) := by
            simp [print, Layout.newline]
          rw [shown]
          apply readable_enclosed (by decide) (by decide)
          apply finishes_printItems
          · intro other member
            exact induction other (List.mem_cons_of_mem _ member) _
          · exact induction item List.mem_cons_self _ _ (.inl rfl)
  | @obj fields _ induction =>
      cases fields with
      | nil =>
          intro place begins
          rcases begins with rfl | rfl <;> exact .inl rfl
      | cons field fields =>
          have shown : print .compact depth (.obj (field :: fields)) =
              '\x7b' :: (((quoted field.1 ++
                ':' :: print .compact (depth + 1) field.2) ++
                printFields .compact (depth + 1) fields) ++ ['\x7d']) := by
            simp [print, Layout.newline, Layout.colon]
          rw [shown]
          apply readable_enclosed (by decide) (by decide)
          apply finishes_printFields
          · intro other member
            exact induction other (List.mem_cons_of_mem _ member) _
          · unfold Finishes
            rw [scan_field]
            exact induction field List.mem_cons_self _ _ (.inr rfl)

/-- A pattern that no place gets through is in no compact text. -/
theorem not_infix_compact {json : Json} (wellFormed : json.WellFormed)
    {depth : Nat} {pattern : List Char}
    (stuck : ∀ place, scan place pattern = none) :
    ¬ pattern <:+: print .compact depth json := by
  rcases readable_print wellFormed depth .outside (.inl rfl) with ended | ended
  · exact not_infix_of_stuck stuck ended
  · exact not_infix_of_stuck stuck ended

end Compact

end Json

end VpnUi.Foundation
