import Mathlib.Logic.Function.Basic
import VpnUi.Foundation.Json

namespace VpnUi.Foundation

/-! A JSON object by what a lookup finds, which is all that an encoder with
sorted keys writes, and the assertions of the type of a value. -/

abbrev Fields := String → Option Json

namespace Fields

def empty : Fields := fun _ => none

def ofObject (object : JsonObject) : Fields := object.get?

def set (fields : Fields) (key : String) (value : Json) : Fields :=
  Function.update fields key (some value)

def erase (fields : Fields) (key : String) : Fields :=
  Function.update fields key none

def setText (fields : Fields) (key text : String) : Fields :=
  fields.set key (.str text)

/-- An empty text is not set. -/
def setNonempty (fields : Fields) (key text : String) : Fields :=
  if text = "" then fields else fields.setText key text

/-- An empty object is not set. -/
def setObject (fields : Fields) (key : String) (object : JsonObject) : Fields :=
  if object = [] then fields else fields.set key (.obj object)

variable {fields : Fields} {key other : String} {value : Json}

@[simp] theorem set_self : fields.set key value key = some value :=
  Function.update_self ..

theorem set_of_ne (differs : other ≠ key) :
    fields.set key value other = fields other :=
  Function.update_of_ne differs ..

@[simp] theorem erase_self : fields.erase key key = none :=
  Function.update_self ..

theorem erase_of_ne (differs : other ≠ key) :
    fields.erase key other = fields other :=
  Function.update_of_ne differs ..

end Fields

namespace Json

def text? : Json → Option String
  | str text => some text
  | _ => none

def object? : Json → Option JsonObject
  | obj fields => some fields
  | _ => none

def list? : Json → Option (List Json)
  | arr items => some items
  | _ => none

def flag? : Json → Option Bool
  | bool value => some value
  | _ => none

def digitsValue (digits : List Char) : Nat :=
  digits.foldl (fun value digit => 10 * value + (digit.toNat - 48)) 0

def signedValue : List Char → Int
  | [] => 0
  | sign :: digits =>
      if sign = '-' then -(digitsValue digits : Int)
      else if sign = '+' then digitsValue digits
      else digitsValue (sign :: digits)

def isExponent (letter : Char) : Bool := letter = 'e' || letter = 'E'

/-- The whole part of the size of a number. -/
def wholeSize (literal : List Char) : Nat :=
  let mantissa := literal.takeWhile (!isExponent ·)
  let exponent := signedValue ((literal.dropWhile (!isExponent ·)).drop 1)
  let whole := mantissa.takeWhile (· ≠ '.')
  let fraction := (mantissa.dropWhile (· ≠ '.')).drop 1
  let shift := exponent - fraction.length
  if 0 ≤ shift then digitsValue (whole ++ fraction) * 10 ^ shift.toNat
  else digitsValue (whole ++ fraction) / 10 ^ (-shift).toNat

def truncated (literal : String) : Int :=
  if literal.toList.head? = some '-' then -(wholeSize (literal.toList.drop 1) : Int)
  else wholeSize literal.toList

/-- A number as a whole number. -/
def whole? : Json → Option Int
  | int value => some value
  | real literal => some (truncated literal)
  | _ => none

example : (real "-2.5e1").whole? = some (-25) := by decide +kernel

/-- The value is this text. -/
def isText (value : Option Json) (text : String) : Bool :=
  value.bind text? = some text

@[simp] theorem isText_iff {value : Option Json} {text : String} :
    isText value text = true ↔ value = some (.str text) := by
  unfold isText
  rw [decide_eq_true_eq]
  constructor
  · intro same
    obtain ⟨json, rfl, asserted⟩ := Option.bind_eq_some_iff.mp same
    cases json <;> cases asserted
    rfl
  · rintro rfl
    rfl

end Json

end VpnUi.Foundation
