import VpnUi.Address.Ipv4

namespace VpnUi.Address

/-! The text functions of the Go library that range texts go through, on the
characters of a string. -/

/-- `unicode.IsSpace`. -/
def isSpace (letter : Char) : Bool :=
  letter.toNat ∈ [9, 10, 11, 12, 13, 32, 0x85, 0xA0, 0x1680, 0x2028, 0x2029,
    0x202F, 0x205F, 0x3000] ||
  (0x2000 ≤ letter.toNat && letter.toNat ≤ 0x200A)

def trimSpace (text : List Char) : List Char :=
  ((text.dropWhile isSpace).reverse.dropWhile isSpace).reverse

/-- The two slices around the first `separator`. -/
def cutAt (separator : Char) : List Char → Option (List Char × List Char)
  | [] => none
  | head :: tail =>
      if head = separator then some ([], tail)
      else (cutAt separator tail).map fun (before, after) =>
        (head :: before, after)

def digit? (letter : Char) : Option Nat :=
  if 48 ≤ letter.toNat ∧ letter.toNat ≤ 57 then some (letter.toNat - 48)
  else none

def digits? (value : Nat) : List Char → Option Nat
  | [] => some value
  | head :: tail => do
      let digit ← digit? head
      digits? (10 * value + digit) tail

/-- `strconv.Atoi`, without its 64-bit bound. -/
def atoi? : List Char → Option Int
  | [] => none
  | ['-'] => none
  | ['+'] => none
  | '-' :: tail => (digits? 0 tail).map fun value => -(value : Int)
  | '+' :: tail => (digits? 0 tail).map Int.ofNat
  | text => (digits? 0 text).map Int.ofNat

/-- One field of a dotted quad: no sign, no leading zero, at most 255. -/
def octet? : List Char → Option Nat
  | [] => none
  | ['0'] => some 0
  | '0' :: _ => none
  | field => (digits? 0 field).filter (· < 256)

def parseIPv4? (text : List Char) : Option Ipv4 :=
  match text.splitOn '.' with
  | [first, second, third, host] => do
      let first ← octet? first
      let second ← octet? second
      let third ← octet? third
      let host ← octet? host
      some ⟨⟨first, second, third⟩, host⟩
  | _ => none

def hexDigit? (letter : Char) : Option Nat :=
  if 48 ≤ letter.toNat ∧ letter.toNat ≤ 57 then some (letter.toNat - 48)
  else if 97 ≤ letter.toNat ∧ letter.toNat ≤ 102 then
    some (letter.toNat - 87)
  else if 65 ≤ letter.toNat ∧ letter.toNat ≤ 70 then
    some (letter.toNat - 55)
  else none

def hexValue (group : List Char) : Nat :=
  group.foldl (fun value letter => 16 * value + (hexDigit? letter).getD 0) 0

/-- The loop of `netip.parseIPv6`: `room` groups may follow, `bytes` are done,
`ellipsis` is the place of a "::" among them. -/
def parseIPv6Groups : Nat → List Nat → Option Nat → List Char →
    Option (List Nat × Option Nat)
  | 0, bytes, ellipsis, text =>
      if text = [] then some (bytes, ellipsis) else none
  | room + 1, bytes, ellipsis, text =>
      let group := text.takeWhile fun letter => (hexDigit? letter).isSome
      let value := hexValue group
      let bytes' := bytes ++ [value / 256, value % 256]
      if group = [] ∨ 4 < group.length then none
      else
        match text.drop group.length with
        | '.' :: _ =>
            if ellipsis = none ∧ bytes.length ≠ 12 then none
            else if room = 0 then none
            else (parseIPv4? text).map fun ip =>
              (bytes ++ [ip.subnet.first, ip.subnet.second, ip.subnet.third,
                ip.host], ellipsis)
        | [] => some (bytes', ellipsis)
        | [':'] => none
        | ':' :: ':' :: tail =>
            if ellipsis.isSome then none
            else if tail = [] then some (bytes', some bytes'.length)
            else parseIPv6Groups room bytes' (some bytes'.length) tail
        | ':' :: tail => parseIPv6Groups room bytes' ellipsis tail
        | _ => none

def parseIPv6? (text : List Char) : Option (List Nat) := do
  let (bytes, ellipsis) ←
    match text with
    | [':', ':'] => some ([], some 0)
    | ':' :: ':' :: tail => parseIPv6Groups 8 [] (some 0) tail
    | text => parseIPv6Groups 8 [] none text
  match ellipsis with
  | none => if bytes.length < 16 then none else some bytes
  | some place =>
      if bytes.length < 16 then
        some (bytes.take place ++ List.replicate (16 - bytes.length) 0 ++
          bytes.drop place)
      else none

/-- `net.IP.To4` of a 16-byte address: the IPv4 address it maps, if any. -/
def to4? : List Nat → Option Ipv4
  | [0, 0, 0, 0, 0, 0, 0, 0, 0, 0, 255, 255, first, second, third, host] =>
      some ⟨⟨first, second, third⟩, host⟩
  | _ => none

/-- `net.ParseIP(text).To4()`: the first '.', ':' or '%' decides the syntax,
and an address with a zone is refused. -/
def parseIP4? (text : List Char) : Option Ipv4 :=
  match text.find? fun letter => letter ∈ ['.', ':', '%'] with
  | some '.' => parseIPv4? text
  | some ':' => if '%' ∈ text then none else parseIPv6? text >>= to4?
  | _ => none

theorem cutAt_eq_none {separator : Char} {text : List Char}
    (absent : separator ∉ text) : cutAt separator text = none := by
  induction text with
  | nil => rfl
  | cons letter text induction =>
      rw [List.mem_cons, not_or] at absent
      rw [cutAt, if_neg (Ne.symm absent.1), induction absent.2]
      rfl

theorem cutAt_append {separator : Char} {before after : List Char}
    (absent : separator ∉ before) :
    cutAt separator (before ++ separator :: after) = some (before, after) := by
  induction before with
  | nil => simp [cutAt]
  | cons head tail induction =>
      rw [List.mem_cons, not_or] at absent
      simp [cutAt, Ne.symm absent.1, induction absent.2]

/-- A text splits in one way at its first separator. -/
theorem separated_inj {separator : Char} {left right before after : List Char}
    (leftPlain : separator ∉ left) (rightPlain : separator ∉ right)
    (same : left ++ separator :: before = right ++ separator :: after) :
    left = right ∧ before = after := by
  have cut := congrArg (cutAt separator) same
  rw [cutAt_append leftPlain, cutAt_append rightPlain] at cut
  exact Prod.mk.inj (Option.some.inj cut)

theorem trimSpace_of_none {text : List Char}
    (plain : ∀ letter ∈ text, isSpace letter = false) :
    trimSpace text = text := by
  have dropped : ∀ {letters : List Char},
      (∀ letter ∈ letters, isSpace letter = false) →
        letters.dropWhile isSpace = letters := by
    intro letters none
    cases letters with
    | nil => rfl
    | cons head tail =>
        rw [List.dropWhile_cons, none head List.mem_cons_self]
        rfl
  rw [trimSpace, dropped plain, dropped, List.reverse_reverse]
  intro letter member
  exact plain letter (List.mem_reverse.mp member)

/-- A byte from its two hexadecimal digits, to check a table of 256 rows. -/
theorem byte_cases {holds : Nat → Prop}
    (all : ∀ high < 16, ∀ low < 16, holds (16 * high + low)) {value : Nat}
    (bounded : value < 256) : holds value := by
  have parts := all (value / 16) (by omega) (value % 16) (by omega)
  rwa [Nat.div_add_mod] at parts

/-- The decimal characters of a byte, as the parsers read them back. -/
theorem octet?_text {value : Nat} (bounded : value < 256) :
    octet? (Nat.toDigits 10 value) = some value := by
  apply byte_cases _ bounded
  decide +kernel

/-- The letters of a dotted quad. -/
def quadLetters : List Char :=
  ['0', '1', '2', '3', '4', '5', '6', '7', '8', '9', '.']

theorem octetText_letters {value : Nat} (bounded : value < 256) {letter : Char}
    (member : letter ∈ Nat.toDigits 10 value) :
    letter ∈ quadLetters ∧ letter ≠ '.' := by
  have all : (Nat.toDigits 10 value).all (fun letter =>
      decide (letter ∈ quadLetters ∧ letter ≠ '.')) = true := by
    apply byte_cases _ bounded
    decide +kernel
  exact of_decide_eq_true (List.all_eq_true.mp all letter member)

theorem isSpace_of_quadLetters {letter : Char}
    (member : letter ∈ quadLetters) : isSpace letter = false := by
  have all : quadLetters.all (fun letter => !isSpace letter) = true := by
    decide +kernel
  exact (Bool.not_eq_true' _).mp (List.all_eq_true.mp all letter member)

end VpnUi.Address
