import Mathlib.Algebra.Ring.Int.Defs
import Mathlib.Algebra.Ring.Nat
import Mathlib.Data.List.Basic

namespace VpnUi.Foundation

/-! JSON values and the decoding of a value into typed fields.  A decoder
stores what fits and goes on; an ill-typed part leaves a zero value behind and
makes the whole decoding report an error. -/

inductive Json
  | null
  | bool (value : Bool)
  | int (value : Int)
  /-- A number with a fraction or an exponent. -/
  | real (literal : String)
  | str (text : String)
  | arr (items : List Json)
  | obj (fields : List (String × Json))
  deriving Inhabited

abbrev JsonObject := List (String × Json)

namespace JsonObject

/-- The last field of a repeated key counts. -/
def get? (object : JsonObject) (key : String) : Option Json :=
  object.reverse.lookup key

/-- A typed decoding treats an absent field as null. -/
def get (object : JsonObject) (key : String) : Json :=
  (object.get? key).getD .null

def remove (object : JsonObject) (key : String) : JsonObject :=
  object.filter (·.1 ≠ key)

def set (object : JsonObject) (key : String) (value : Json) : JsonObject :=
  object.remove key ++ [(key, value)]

theorem get?_remove_ne {object : JsonObject} {key other : String}
    (differs : other ≠ key) :
    (object.remove key).get? other = object.get? other := by
  unfold get? remove
  rw [← List.filter_reverse]
  induction object.reverse with
  | nil => rfl
  | cons head tail induction =>
      obtain ⟨name, value⟩ := head
      by_cases same : name = key
      · subst same
        have skipped : (other == name) = false := by simpa using differs
        rw [List.filter_cons_of_neg (by simp), List.lookup_cons, skipped,
          induction]
      · rw [List.filter_cons_of_pos (by simpa using same), List.lookup_cons,
          List.lookup_cons, induction]

theorem get?_mapValues {object : JsonObject} {key : String}
    {apply : Json → Json} :
    get? (object.map fun field => (field.1, apply field.2)) key =
      (object.get? key).map apply := by
  unfold get?
  rw [← List.map_reverse]
  induction object.reverse with
  | nil => rfl
  | cons field fields induction =>
      rw [List.map_cons, List.lookup_cons, List.lookup_cons]
      cases key == field.1 with
      | true => rfl
      | false => exact induction

theorem get?_remove_self {object : JsonObject} {key : String} :
    (object.remove key).get? key = none := by
  unfold get? remove
  rw [← List.filter_reverse]
  induction object.reverse with
  | nil => rfl
  | cons head tail induction =>
      obtain ⟨name, value⟩ := head
      by_cases same : name = key
      · rw [List.filter_cons_of_neg (by simp [same]), induction]
      · have skipped : (key == name) = false := by simpa using Ne.symm same
        rw [List.filter_cons_of_pos (by simpa using same), List.lookup_cons,
          skipped, induction]

@[simp] theorem get?_set_self {object : JsonObject} {key : String}
    {value : Json} : (object.set key value).get? key = some value := by
  simp [set, get?]

theorem get?_set_ne {object : JsonObject} {key other : String} {value : Json}
    (differs : other ≠ key) :
    (object.set key value).get? other = object.get? other := by
  have skipped : (other == key) = false := by simpa using differs
  have appended : (object.set key value).get? other =
      (object.remove key).get? other := by
    simp [set, get?, List.lookup_cons, skipped]
  rw [appended, get?_remove_ne differs]

theorem set_set {object : JsonObject} {key : String} {value other : Json} :
    (object.set key value).set key other = object.set key other := by
  unfold set remove
  rw [List.filter_append, List.filter_filter]
  simp

theorem get_set_self {object : JsonObject} {key : String} {value : Json} :
    (object.set key value).get key = value := by
  rw [get, get?_set_self]
  rfl

theorem get_set_ne {object : JsonObject} {key other : String} {value : Json}
    (differs : other ≠ key) :
    (object.set key value).get other = object.get other := by
  rw [get, get, get?_set_ne differs]

end JsonObject

/-- The outcome of decoding: the value that was stored, and whether every part
had the type asked for. -/
structure Decoded (Value : Type*) where
  value : Value
  fits : Bool

namespace Decoded

variable {Value Result : Type*}

def strict (decoded : Decoded Value) : Option Value :=
  if decoded.fits then some decoded.value else none

def map (decoded : Decoded Value) (apply : Value → Result) : Decoded Result :=
  ⟨apply decoded.value, decoded.fits⟩

/-- One more field of a record. -/
def field (decoded : Decoded (Value → Result)) (next : Decoded Value) :
    Decoded Result :=
  ⟨decoded.value next.value, decoded.fits && next.fits⟩

def record (build : Result) : Decoded Result := ⟨build, true⟩

/-- A field that is typed and not kept. -/
def checked (decoded : Decoded Result) (other : Decoded Value) :
    Decoded Result :=
  ⟨decoded.value, decoded.fits && other.fits⟩

@[simp] theorem value_map {decoded : Decoded Value} {apply : Value → Result} :
    (decoded.map apply).value = apply decoded.value := rfl

@[simp] theorem fits_map {decoded : Decoded Value} {apply : Value → Result} :
    (decoded.map apply).fits = decoded.fits := rfl

@[simp] theorem value_field {decoded : Decoded (Value → Result)}
    {next : Decoded Value} :
    (decoded.field next).value = decoded.value next.value := rfl

@[simp] theorem fits_field {decoded : Decoded (Value → Result)}
    {next : Decoded Value} :
    (decoded.field next).fits = (decoded.fits && next.fits) := rfl

@[simp] theorem value_record {build : Result} :
    (record build).value = build := rfl

@[simp] theorem fits_record {build : Result} :
    (record build).fits = true := rfl

@[simp] theorem value_checked {decoded : Decoded Result}
    {other : Decoded Value} : (decoded.checked other).value = decoded.value :=
  rfl

@[simp] theorem fits_checked {decoded : Decoded Result}
    {other : Decoded Value} :
    (decoded.checked other).fits = (decoded.fits && other.fits) := rfl

theorem strict_eq_some {decoded : Decoded Value} {value : Value} :
    decoded.strict = some value ↔
      decoded.fits = true ∧ decoded.value = value := by
  unfold strict
  split <;> simp_all

theorem strict_map {decoded : Decoded Value} {apply : Value → Result} :
    (decoded.map apply).strict = decoded.strict.map apply := by
  unfold strict
  rw [fits_map, value_map]
  split <;> rfl

end Decoded

namespace Json

variable {Value : Type*}

def text : Json → Decoded String
  | null => ⟨"", true⟩
  | str text => ⟨text, true⟩
  | _ => ⟨"", false⟩

def flag : Json → Decoded Bool
  | null => ⟨false, true⟩
  | bool value => ⟨value, true⟩
  | _ => ⟨false, false⟩

def Int64 (value : Int) : Prop := -2 ^ 63 ≤ value ∧ value < 2 ^ 63

instance (value : Int) : Decidable (Int64 value) :=
  inferInstanceAs (Decidable (_ ∧ _))

def number : Json → Decoded Int
  | null => ⟨0, true⟩
  | int value => if Int64 value then ⟨value, true⟩ else ⟨0, false⟩
  | _ => ⟨0, false⟩

/-- A pointer to a number: null and absent are nil. -/
def optionalNumber : Json → Decoded (Option Int)
  | null => ⟨none, true⟩
  | int value =>
      if Int64 value then ⟨some value, true⟩ else ⟨some 0, false⟩
  | _ => ⟨none, false⟩

/-- A pointer to a flag: null and absent are nil. -/
def optionalFlag : Json → Decoded (Option Bool)
  | null => ⟨none, true⟩
  | bool value => ⟨some value, true⟩
  | _ => ⟨none, false⟩

def list (decode : Json → Decoded Value) : Json → Decoded (List Value)
  | null => ⟨[], true⟩
  | arr items =>
      ⟨items.map fun item => (decode item).value,
        items.all fun item => (decode item).fits⟩
  | _ => ⟨[], false⟩

/-- A record of typed fields; null leaves it zero. -/
def record (decode : JsonObject → Decoded Value) : Json → Decoded Value
  | null => decode []
  | obj fields => decode fields
  | _ => ⟨(decode []).value, false⟩

theorem value_list_arr {decode : Json → Decoded Value} {items : List Json} :
    (list decode (arr items)).value =
      items.map fun item => (decode item).value := rfl

end Json

/-- A stored JSON text: the empty text and a malformed one are not values. -/
inductive JsonText
  | empty
  | malformed
  | parsed (json : Json)
  deriving Inhabited

namespace JsonText

variable {Value : Type*}

/-- Decode into a record, an error if anything is ill-typed. -/
def decode (text : JsonText) (fields : JsonObject → Decoded Value) :
    Option Value :=
  match text with
  | parsed json => (json.record fields).strict
  | _ => none

/-- Decode into a map, whose values stay JSON: null is the nil map. -/
def object? : JsonText → Option (Option JsonObject)
  | parsed (.obj fields) => some (some fields)
  | parsed .null => some none
  | _ => none

/-- The map that is left when a failure to decode is ignored. -/
def fields (text : JsonText) : JsonObject := (text.object?.getD none).getD []

end JsonText

end VpnUi.Foundation
