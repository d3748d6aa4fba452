import Mathlib.Data.List.Basic
import VpnUi.Foundation.Encoder

namespace VpnUi.Foundation.JsonSyntax

/-! JSON as it is written: a value together with the spacing inside it and the
spelling of its strings and numbers. -/

abbrev Text := List Char

def isBlank (letter : Char) : Bool :=
  letter = ' ' || letter = '\t' || letter = '\n' || letter = '\r'

@[ext]
structure Blank where
  letters : Text
  blank : ∀ letter ∈ letters, isBlank letter = true

def Blank.empty : Blank := ⟨[], List.forall_mem_nil _⟩

/-! Strings. -/

def hexValue? (letter : Char) : Option Nat :=
  if letter.isDigit then some (letter.toNat - 48)
  else if 'a' ≤ letter ∧ letter ≤ 'f' then some (letter.toNat - 87)
  else if 'A' ≤ letter ∧ letter ≤ 'F' then some (letter.toNat - 55)
  else none

def codeUnit? (letters : Text) : Option Nat :=
  letters.foldlM (fun unit letter => do
    let digit ← hexValue? letter
    some (16 * unit + digit)) 0

def simpleEscape? : Char → Option Char
  | '"' => some '"'
  | '\\' => some '\\'
  | '/' => some '/'
  | 'b' => some '\x08'
  | 'f' => some '\x0c'
  | 'n' => some '\n'
  | 'r' => some '\r'
  | 't' => some '\t'
  | _ => none

/-- A letter that stands for itself in a string. -/
def isPlain (letter : Char) : Bool :=
  letter ≠ '"' && letter ≠ '\\' && 32 ≤ letter.toNat

inductive Letter
  | plain (letter : Char) (bare : isPlain letter = true)
  | escaped (letter : Char) (known : (simpleEscape? letter).isSome = true)
  | unit (a b c d : Char) (hex : (codeUnit? [a, b, c, d]).isSome = true)

namespace Letter

def text : Letter → Text
  | plain letter _ => [letter]
  | escaped letter _ => ['\\', letter]
  | unit a b c d _ => ['\\', 'u', a, b, c, d]

def code : Letter → Nat
  | plain letter _ => letter.toNat
  | escaped _ known => (Option.get _ known).toNat
  | unit _ _ _ _ hex => Option.get _ hex

end Letter

def isHighSurrogate (unit : Nat) : Bool := 0xD800 ≤ unit ∧ unit < 0xDC00

def isLowSurrogate (unit : Nat) : Bool := 0xDC00 ≤ unit ∧ unit < 0xE000

/-- A surrogate of its own is replaced. -/
def unitLetter (unit : Nat) : Char :=
  if isHighSurrogate unit || isLowSurrogate unit then '\ufffd'
  else Char.ofNat unit

def fromUnits : List Nat → Text
  | [] => []
  | [unit] => [unitLetter unit]
  | unit :: next :: units =>
      if isHighSurrogate unit && isLowSurrogate next then
        Char.ofNat (0x10000 + (unit - 0xD800) * 0x400 + (next - 0xDC00)) ::
          fromUnits units
      else unitLetter unit :: fromUnits (next :: units)

structure Quoted where
  letters : List Letter

namespace Quoted

def text (string : Quoted) : Text :=
  '"' :: (string.letters.flatMap Letter.text ++ ['"'])

def value (string : Quoted) : Text :=
  fromUnits (string.letters.map Letter.code)

end Quoted

/-! Numbers and the other values of one word. -/

inductive NumberState
  | neg
  | zero
  | digits
  | dot
  | fraction
  | exp
  | sign
  | exponent
  deriving DecidableEq

namespace NumberState

def begin? (letter : Char) : Option NumberState :=
  if letter = '-' then some neg
  else if letter = '0' then some zero
  else if letter.isDigit then some digits
  else none

/-- Behind the whole part. -/
def whole? (letter : Char) : Option NumberState :=
  if letter = '.' then some dot
  else if letter = 'e' ∨ letter = 'E' then some exp
  else none

def power? (letter : Char) : Option NumberState :=
  if letter.isDigit then some exponent else none

def step? : NumberState → Char → Option NumberState
  | neg, letter =>
      if letter = '0' then some zero
      else if letter.isDigit then some digits
      else none
  | zero, letter => whole? letter
  | digits, letter =>
      if letter.isDigit then some digits else whole? letter
  | dot, letter => if letter.isDigit then some fraction else none
  | fraction, letter =>
      if letter.isDigit then some fraction
      else if letter = 'e' ∨ letter = 'E' then some exp
      else none
  | exp, letter =>
      if letter = '+' ∨ letter = '-' then some sign else power? letter
  | sign, letter => power? letter
  | exponent, letter => power? letter

def accepts : NumberState → Bool
  | zero | digits | fraction | exponent => true
  | neg | dot | exp | sign => false

end NumberState

def isNumber : Text → Bool
  | [] => false
  | letter :: letters =>
      ((NumberState.begin? letter).bind (letters.foldlM NumberState.step?)).any
        NumberState.accepts

def words : List Text := ["null".toList, "true".toList, "false".toList]

structure Scalar where
  text : Text
  scalar : (words.contains text || isNumber text) = true

namespace Scalar

def json (scalar : Scalar) : Json :=
  if scalar.text = "null".toList then .null
  else if scalar.text = "true".toList then .bool true
  else if scalar.text = "false".toList then .bool false
  else
    match (String.ofList scalar.text).toInt? with
    | some value => .int value
    | none => .real (String.ofList scalar.text)

end Scalar

/-! Values that hold others. -/

inductive Shape
  | array
  | object
  deriving DecidableEq

namespace Shape

def opening : Shape → Char
  | array => '['
  | object => '\x7b'

def closing : Shape → Char
  | array => ']'
  | object => '\x7d'

end Shape

/-- A key with the spacing before it and up to its colon. -/
structure Key where
  before : Blank
  string : Quoted
  after : Blank

/-- What stands before an entry. -/
def Shape.Label : Shape → Type
  | array => Unit
  | object => Key

def labelText : (shape : Shape) → shape.Label → Text
  | .array, _ => []
  | .object, key =>
      key.before.letters ++ key.string.text ++ key.after.letters ++ [':']

mutual

inductive Node
  | scalar (scalar : Scalar)
  | string (string : Quoted)
  | hollow (shape : Shape) (inside : Blank)
  | filled (shape : Shape) (entries : Entries shape)

inductive Entries : Shape → Type
  | one {shape : Shape} (label : shape.Label) (before : Blank) (value : Node)
      (after : Blank) : Entries shape
  | more {shape : Shape} (label : shape.Label) (before : Blank) (value : Node)
      (after : Blank) (entries : Entries shape) : Entries shape

end

mutual

def Node.text : Node → Text
  | .scalar scalar => scalar.text
  | .string string => string.text
  | .hollow shape inside => shape.opening :: (inside.letters ++ [shape.closing])
  | .filled shape entries => shape.opening :: (entries.text ++ [shape.closing])

def Entries.text {shape : Shape} : Entries shape → Text
  | .one label before value after =>
      labelText shape label ++ before.letters ++ value.text ++ after.letters
  | .more label before value after entries =>
      labelText shape label ++ before.letters ++ value.text ++ after.letters ++
        ',' :: entries.text

end

mutual

/-- How deep arrays and objects nest. -/
def Node.depth : Node → Nat
  | .scalar _ => 0
  | .string _ => 0
  | .hollow _ _ => 1
  | .filled _ entries => entries.depth + 1

def Entries.depth {shape : Shape} : Entries shape → Nat
  | .one _ _ value _ => value.depth
  | .more _ _ value _ entries => max value.depth entries.depth

end

namespace Entries

def list {shape : Shape} : Entries shape → List (shape.Label × Node)
  | .one label _ value _ => [(label, value)]
  | .more label _ value _ entries => (label, value) :: entries.list

end Entries

def collect : (shape : Shape) → List (shape.Label × Json) → Json
  | .array, entries => .arr (entries.map Prod.snd)
  | .object, entries => .obj (entries.map fun (key, value) =>
      (String.ofList key.string.value, value))

mutual

/-- The value that is written. -/
def Node.json : Node → Json
  | .scalar scalar => scalar.json
  | .string string => .str (String.ofList string.value)
  | .hollow shape _ => collect shape []
  | .filled shape entries => collect shape entries.json

def Entries.json {shape : Shape} : Entries shape → List (shape.Label × Json)
  | .one label _ value _ => [(label, value.json)]
  | .more label _ value _ entries => (label, value.json) :: entries.json

end

/-- A text is a value with blanks around it. -/
def Spells (text : Text) (node : Node) : Prop :=
  ∃ before after : Blank, text = before.letters ++ node.text ++ after.letters

/-- Two texts of one value.  Of the fields of an object with one key the last
counts, and their order does not. -/
def JsonEqual (text other : Text) : Prop :=
  ∃ first second, Spells text first ∧ Spells other second ∧
    first.json.normal = second.json.normal

end VpnUi.Foundation.JsonSyntax
