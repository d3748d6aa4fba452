import Mathlib.Algebra.Ring.Nat
import Mathlib.Data.List.DropRight

namespace VpnUi.Foundation

/-! The path of a URL: how a browser reads it and how a server takes it
apart. -/

def utf8 (text : List Char) : List UInt8 := text.flatMap String.utf8EncodeChar

/-- The segments behind one another, a separator in front of each. -/
def address {Letter : Type*} (separator : Letter)
    (segments : List (List Letter)) : List Letter :=
  segments.flatMap (separator :: ·)

/-- What is stripped from the ends of a URL. -/
def isControlOrSpace (letter : Char) : Bool := letter ≤ ' '

def isTabOrNewline (letter : Char) : Bool := letter ∈ ['\t', '\n', '\x0d']

def stripUrl (url : List Char) : List Char :=
  ((url.dropWhile isControlOrSpace).rdropWhile isControlOrSpace).filter
    (!isTabOrNewline ·)

/-- A query or a fragment begins. -/
def endsPath (letter : Char) : Bool := letter ∈ ['?', '#']

def isSlash (letter : Char) : Bool := letter ∈ ['/', '\\']

def foldCase (text : List Char) : List Char := text.map Char.toLower

def isSingleDot (segment : List Char) : Bool :=
  foldCase segment ∈ [".".toList, "%2e".toList]

def isDoubleDot (segment : List Char) : Bool :=
  foldCase segment ∈
    ["..".toList, ".%2e".toList, "%2e.".toList, "%2e%2e".toList]

/-- The path that the segments lead to.  A last segment of dots leaves an empty
one. -/
def resolve (stack : List (List Char)) : List (List Char) → List (List Char)
  | [] => stack
  | [last] =>
      if isDoubleDot last then stack.dropLast ++ [[]]
      else if isSingleDot last then stack ++ [[]]
      else stack ++ [last]
  | segment :: next :: rest =>
      if isDoubleDot segment then resolve stack.dropLast (next :: rest)
      else if isSingleDot segment then resolve stack (next :: rest)
      else resolve (stack ++ [segment]) (next :: rest)

/-- The path of an address on the same host. -/
def browserPath (url : List Char) : Option (List (List Char)) :=
  match ((stripUrl url).takeWhile (!endsPath ·)).splitOnP isSlash with
  | [] :: first :: more =>
      if first = [] ∧ more ≠ [] then none
      else some (resolve [] (first :: more))
  | _ => none

/-- The letters that a browser encodes in a path. -/
def inPathSet (letter : Char) : Bool :=
  letter ≤ ' ' || '\x7f' ≤ letter ||
    letter ∈ ['"', '#', '<', '>', '?', '^', '\x60', '\x7b', '\x7d']

def upperHexDigit (digit : Nat) : Char := (Nat.digitChar digit).toUpper

def percentByte (byte : UInt8) : List Char :=
  ['%', upperHexDigit (byte.toNat / 16), upperHexDigit (byte.toNat % 16)]

def percentEncode (letter : Char) : List Char :=
  if inPathSet letter then (String.utf8EncodeChar letter).flatMap percentByte
  else [letter]

def requestTarget (segments : List (List Char)) : List Char :=
  (address '/' segments).flatMap percentEncode

def hexValue (letter : Char) : Option Nat :=
  if '0' ≤ letter ∧ letter ≤ '9' then some (letter.toNat - 48)
  else if 'a' ≤ letter ∧ letter ≤ 'f' then some (letter.toNat - 87)
  else if 'A' ≤ letter ∧ letter ≤ 'F' then some (letter.toNat - 55)
  else none

/-- The bytes of a request target.  A percent sign that no two digits follow is
an error. -/
def unescape : List Char → Option (List UInt8)
  | [] => some []
  | letter :: rest =>
      if letter = '%' then
        match rest with
        | high :: low :: more => do
            let highDigit ← hexValue high
            let lowDigit ← hexValue low
            let bytes ← unescape more
            some (UInt8.ofNat (16 * highDigit + lowDigit) :: bytes)
        | _ => none
      else do
        let bytes ← unescape rest
        some (String.utf8EncodeChar letter ++ bytes)

def slashByte : UInt8 := 47

/-- The segments that a server sees when a browser sends a request. -/
def serverPath (url : List Char) : Option (List (List UInt8)) := do
  let segments ← browserPath url
  let bytes ← unescape (requestTarget segments)
  some ((bytes.splitOnP (· = slashByte)).tail)

example : serverPath "/a/b%2fc/../d e?f".toList =
    some [utf8 "a".toList, utf8 "d e".toList] := by decide +kernel

/-- A segment that neither side changes. -/
structure PlainSegment (segment : List Char) : Prop where
  letters : ∀ letter ∈ segment,
    letter ∉ ['/', '\\', '?', '#', '%', '\t', '\n', '\x0d']
  single : segment ≠ ['.']
  double : segment ≠ ['.', '.']

def EndsPlain (text : List Char) : Prop :=
  ∀ letter ∈ text.getLast?, isControlOrSpace letter = false

section Split

variable {Letter : Type*} {separator : Letter} {segments : List (List Letter)}
  {isSeparator : Letter → Bool} {text rest : List Letter}

@[simp] theorem address_nil :
    address separator ([] : List (List Letter)) = [] := rfl

@[simp] theorem address_cons {segment : List Letter} :
    address separator (segment :: segments) =
      separator :: (segment ++ address separator segments) := rfl

@[simp] theorem address_append {more : List (List Letter)} :
    address separator (segments ++ more) =
      address separator segments ++ address separator more :=
  List.flatMap_append

theorem splitOnP_append_plain
    (plain : ∀ letter ∈ text, isSeparator letter = false) :
    (text ++ rest).splitOnP isSeparator =
      (rest.splitOnP isSeparator).modifyHead (text ++ ·) := by
  induction text with
  | nil =>
      rw [List.nil_append]
      cases rest.splitOnP isSeparator <;> rfl
  | cons letter text induction =>
      rw [List.cons_append, List.splitOnP_cons_eq_if_modifyHead,
        if_neg (by simp [plain letter (List.mem_cons_self)]),
        induction fun other member => plain other (List.mem_cons_of_mem _ member)]
      cases rest.splitOnP isSeparator <;> rfl

/-- What was put together is taken apart again. -/
theorem splitOnP_address (separates : isSeparator separator = true)
    (plain : ∀ segment ∈ segments, ∀ letter ∈ segment,
      isSeparator letter = false) :
    (address separator segments).splitOnP isSeparator = [] :: segments := by
  induction segments with
  | nil => rfl
  | cons segment segments induction =>
      rw [address_cons, List.splitOnP_cons_eq_if_modifyHead,
        if_pos separates, splitOnP_append_plain (plain segment
          List.mem_cons_self),
        induction fun other member => plain other (List.mem_cons_of_mem _ member)]
      simp

/-- What was taken apart is put together with one separator. -/
theorem address_splitOnP :
    address separator (text.splitOnP isSeparator) =
      separator :: text.map fun letter =>
        if isSeparator letter then separator else letter := by
  induction text with
  | nil => rfl
  | cons letter text induction =>
      rw [List.splitOnP_cons_eq_if_modifyHead, List.map_cons]
      by_cases separates : isSeparator letter = true
      · rw [if_pos separates, if_pos separates, address_cons, induction]
        rfl
      · rw [if_neg separates, if_neg separates]
        cases split : text.splitOnP isSeparator with
        | nil => exact absurd split (List.splitOnP_ne_nil _ _)
        | cons first more =>
            rw [split, address_cons, List.cons_eq_cons] at induction
            rw [List.modifyHead_cons, address_cons, List.cons_append,
              induction.2]

theorem not_separator_of_mem_splitOnP
    (member : rest ∈ text.splitOnP isSeparator) :
    ∀ letter ∈ rest, isSeparator letter = false := by
  induction text generalizing rest with
  | nil =>
      obtain rfl := List.mem_singleton.mp member
      exact nofun
  | cons letter text induction =>
      rw [List.splitOnP_cons_eq_if_modifyHead] at member
      by_cases separates : isSeparator letter = true
      · rw [if_pos separates] at member
        rcases List.mem_cons.mp member with rfl | member
        · exact nofun
        · exact induction member
      · rw [if_neg separates] at member
        cases split : text.splitOnP isSeparator with
        | nil => exact absurd split (List.splitOnP_ne_nil _ _)
        | cons first more =>
            rw [split] at member induction
            rcases List.mem_cons.mp member with rfl | member
            · intro other within
              rcases List.mem_cons.mp within with rfl | within
              · exact Bool.eq_false_iff.mpr separates
              · exact induction List.mem_cons_self other within
            · exact induction (List.mem_cons_of_mem _ member)

end Split

/-! Every stage keeps a text or makes it shorter. -/

/-- The bytes of a text. -/
def size (text : List Char) : Nat := (utf8 text).length

section Size

variable {letter : Char} {text other : List Char} {bytes : List UInt8}

@[simp] theorem utf8_nil : utf8 [] = [] := rfl

@[simp] theorem utf8_cons :
    utf8 (letter :: text) = String.utf8EncodeChar letter ++ utf8 text := rfl

@[simp] theorem utf8_append : utf8 (text ++ other) = utf8 text ++ utf8 other :=
  List.flatMap_append

theorem utf8_injective : Function.Injective utf8 := by
  intro text other same
  have strings : String.ofList text = String.ofList other :=
    String.toByteArray_inj.mp (congrArg List.toByteArray same)
  simpa using congrArg String.toList strings

@[simp] theorem size_nil : size [] = 0 := rfl

@[simp] theorem size_cons :
    size (letter :: text) = letter.utf8Size + size text := by
  rw [size, utf8_cons, List.length_append, String.length_utf8EncodeChar, size]

@[simp] theorem size_append : size (text ++ other) = size text + size other := by
  rw [size, utf8_append, List.length_append, size, size]

theorem size_eq_zero : size text = 0 ↔ text = [] := by
  cases text with
  | nil => simp
  | cons letter text =>
      have positive := letter.utf8Size_pos
      rw [size_cons]
      constructor
      · omega
      · exact nofun

/-- A part is the whole or shorter. -/
theorem eq_or_size_lt (part : text.Sublist other) :
    text = other ∨ size text < size other := by
  induction part with
  | slnil => exact .inl rfl
  | cons letter part induction =>
      have positive := letter.utf8Size_pos
      rw [size_cons]
      rcases induction with rfl | shorter <;> right <;> omega
  | cons_cons letter part induction =>
      rw [size_cons, size_cons]
      rcases induction with rfl | shorter
      · exact .inl rfl
      · right
        omega

theorem stripUrl_sublist : (stripUrl text).Sublist text :=
  List.filter_sublist.trans ((List.rdropWhile_prefix _ _).sublist.trans
    (List.dropWhile_suffix _).sublist)

theorem utf8Size_ascii (ascii : letter ≤ '\x7f') : letter.utf8Size = 1 :=
  if_pos ascii

theorem hexValue_ascii {digit : Nat} (read : hexValue letter = some digit) :
    letter ≠ '%' ∧ letter.utf8Size = 1 := by
  constructor
  · rintro rfl
    cases read
  · apply utf8Size_ascii
    unfold hexValue at read
    split at read
    next digits => exact Char.le_trans digits.2 (by decide)
    next =>
      split at read
      next lower => exact Char.le_trans lower.2 (by decide)
      next =>
        split at read
        next upper => exact Char.le_trans upper.2 (by decide)
        next => cases read

theorem hexValue_upperHexDigit : ∀ digit < 16,
    hexValue (upperHexDigit digit) = some digit := by decide

theorem digits_lt (byte : UInt8) :
    byte.toNat / 16 < 16 ∧ byte.toNat % 16 < 16 := by
  have bounded := byte.toNat_lt
  omega

theorem unescape_percent {high low : Char} :
    unescape ('%' :: high :: low :: text) = (do
      let highDigit ← hexValue high
      let lowDigit ← hexValue low
      let bytes ← unescape text
      some (UInt8.ofNat (16 * highDigit + lowDigit) :: bytes)) := by
  rw [unescape, if_pos rfl]

theorem unescape_cons (plain : letter ≠ '%') :
    unescape (letter :: text) =
      (unescape text).map (String.utf8EncodeChar letter ++ ·) := by
  rw [unescape.eq_def]
  dsimp only
  rw [if_neg plain]
  cases unescape text <;> rfl

/-- A percent sign and its two digits are one byte. -/
theorem length_unescape (read : unescape text = some bytes) :
    bytes.length + 2 * text.count '%' = size text := by
  induction text using unescape.induct generalizing bytes with
  | case1 =>
      cases read
      rfl
  | case2 high low more induction =>
      rw [unescape_percent] at read
      cases highRead : hexValue high with
      | none => rw [highRead] at read; cases read
      | some highDigit =>
          cases lowRead : hexValue low with
          | none => rw [highRead, lowRead] at read; cases read
          | some lowDigit =>
              cases moreRead : unescape more with
              | none => rw [highRead, lowRead, moreRead] at read; cases read
              | some others =>
                  rw [highRead, lowRead, moreRead] at read
                  cases read
                  have counted := induction moreRead
                  have high := hexValue_ascii highRead
                  have low := hexValue_ascii lowRead
                  have sign : '%'.utf8Size = 1 := rfl
                  simp [high.2, low.2, sign, high.1, low.1]
                  omega
  | case3 rest short =>
      match rest with
      | [] => cases read
      | [_] => cases read
      | high :: low :: more => exact (short high low more rfl).elim
  | case4 letter rest plain induction =>
      rw [unescape_cons plain] at read
      obtain ⟨others, restRead, same⟩ := Option.map_eq_some_iff.mp read
      subst same
      have counted := induction restRead
      simp [plain]
      omega

/-- An encoded byte is a percent sign and two digits. -/
theorem size_percentEncode :
    size (percentEncode letter) + 2 * [letter].count '%' =
      letter.utf8Size + 2 * (percentEncode letter).count '%' := by
  unfold percentEncode
  split
  next encoded =>
      have plain : letter ≠ '%' := by
        rintro rfl
        cases encoded
      have bytes : ∀ bytes : List UInt8,
          size (bytes.flatMap percentByte) =
            bytes.length + 2 * (bytes.flatMap percentByte).count '%' := by
        intro bytes
        induction bytes with
        | nil => rfl
        | cons byte bytes induction =>
            have sign : '%'.utf8Size = 1 := rfl
            have high := hexValue_ascii (hexValue_upperHexDigit _
              (digits_lt byte).1)
            have low := hexValue_ascii (hexValue_upperHexDigit _
              (digits_lt byte).2)
            rw [List.flatMap_cons, size_append, List.count_append, induction]
            simp [percentByte, high.2, low.2, sign, high.1, low.1]
            omega
      rw [bytes, String.length_utf8EncodeChar]
      simp [plain]
  next plain => simp

theorem size_flatMap_percentEncode :
    size (text.flatMap percentEncode) + 2 * text.count '%' =
      size text + 2 * (text.flatMap percentEncode).count '%' := by
  induction text with
  | nil => rfl
  | cons letter text induction =>
      have head := @size_percentEncode letter
      rw [List.flatMap_cons, size_append, size_cons, List.count_append,
        List.count_cons]
      rw [List.count_singleton] at head
      omega

theorem unescape_percentByte {byte : UInt8} :
    unescape (percentByte byte ++ text) = (unescape text).map (byte :: ·) := by
  have high := hexValue_upperHexDigit _ (digits_lt byte).1
  have low := hexValue_upperHexDigit _ (digits_lt byte).2
  rw [percentByte, List.cons_append, List.cons_append, List.cons_append,
    List.nil_append, unescape_percent, high, low]
  cases unescape text with
  | none => rfl
  | some bytes =>
      change some (UInt8.ofNat _ :: bytes) = some (byte :: bytes)
      rw [Nat.div_add_mod, UInt8.ofNat_toNat]

theorem unescape_percentEncode (plain : letter ≠ '%') :
    unescape (percentEncode letter ++ text) =
      (unescape text).map (String.utf8EncodeChar letter ++ ·) := by
  unfold percentEncode
  split
  next encoded =>
    induction String.utf8EncodeChar letter with
    | nil =>
        rw [List.flatMap_nil, List.nil_append]
        cases unescape text <;> rfl
    | cons byte bytes induction =>
        rw [List.flatMap_cons, List.append_assoc, unescape_percentByte,
          induction, Option.map_map]
        rfl
  next =>
    rw [List.singleton_append, unescape_cons plain]

/-- A target without escapes of its own is read as it was. -/
theorem unescape_flatMap (plain : '%' ∉ text) :
    unescape (text.flatMap percentEncode) = some (utf8 text) := by
  induction text with
  | nil => rfl
  | cons letter text induction =>
      have differs := List.ne_of_not_mem_cons plain
      rw [List.flatMap_cons, unescape_percentEncode (Ne.symm differs),
        induction (List.not_mem_of_not_mem_cons plain)]
      rfl

end Size

section Resolve

variable {stack segments : List (List Char)} {segment : List Char}

theorem resolve_eq_append
    (plain : ∀ segment ∈ segments,
      isDoubleDot segment = false ∧ isSingleDot segment = false) :
    resolve stack segments = stack ++ segments := by
  induction segments generalizing stack with
  | nil => rw [resolve, List.append_nil]
  | cons segment rest induction =>
      obtain ⟨double, single⟩ := plain segment List.mem_cons_self
      cases rest with
      | nil => simp [resolve, double, single]
      | cons next rest =>
          simp only [resolve, double, single, Bool.false_eq_true, if_false]
          rw [induction fun other member =>
            plain other (List.mem_cons_of_mem _ member), List.append_assoc]
          rfl

theorem size_address_dropLast :
    size (address '/' stack.dropLast) ≤ size (address '/' stack) := by
  rcases List.eq_nil_or_concat stack with rfl | ⟨front, last, rfl⟩
  · exact le_rfl
  · rw [List.concat_eq_append, List.dropLast_concat, address_append, size_append]
    exact Nat.le_add_right _ _

theorem size_of_isDoubleDot (double : isDoubleDot segment = true) :
    0 < size segment := by
  rw [Nat.pos_iff_ne_zero, Ne, size_eq_zero]
  rintro rfl
  cases double

theorem size_of_isSingleDot (single : isSingleDot segment = true) :
    0 < size segment := by
  rw [Nat.pos_iff_ne_zero, Ne, size_eq_zero]
  rintro rfl
  cases single

/-- Dots make the path shorter. -/
theorem plain_or_size_resolve_lt :
    (∀ segment ∈ segments,
        isDoubleDot segment = false ∧ isSingleDot segment = false) ∨
      size (address '/' (resolve stack segments)) <
        size (address '/' (stack ++ segments)) := by
  have slash : '/'.utf8Size = 1 := rfl
  induction segments generalizing stack with
  | nil => exact .inl nofun
  | cons segment rest induction =>
      have kept : ∀ stack, size (address '/' (resolve stack rest)) ≤
          size (address '/' (stack ++ rest)) := by
        intro stack
        rcases @induction stack with plain | shorter
        · rw [resolve_eq_append plain]
        · exact shorter.le
      have dropped := @size_address_dropLast stack
      cases double : isDoubleDot segment with
      | true =>
          right
          have positive := size_of_isDoubleDot double
          cases rest with
          | nil =>
              simp only [resolve, double, if_true, address_append, address_cons,
                address_nil, size_append, size_cons, slash, size_nil]
              omega
          | cons next rest =>
              have shorter := kept stack.dropLast
              simp only [resolve, double, if_true]
              simp only [address_append, address_cons, size_append, size_cons,
                slash] at shorter ⊢
              omega
      | false =>
          cases single : isSingleDot segment with
          | true =>
              right
              have positive := size_of_isSingleDot single
              cases rest with
              | nil =>
                  simp only [resolve, double, single, Bool.false_eq_true,
                    if_false, if_true, address_append, address_cons,
                    address_nil, size_append, size_cons, slash, size_nil]
                  omega
              | cons next rest =>
                  have shorter := kept stack
                  simp only [resolve, double, single, Bool.false_eq_true,
                    if_false, if_true]
                  simp only [address_append, address_cons, size_append,
                    size_cons, slash] at shorter ⊢
                  omega
          | false =>
              cases rest with
              | nil =>
                  left
                  exact List.forall_mem_singleton.mpr ⟨double, single⟩
              | cons next rest =>
                  rcases @induction (stack ++ [segment]) with plain | shorter
                  · exact .inl (List.forall_mem_cons.mpr
                      ⟨⟨double, single⟩, plain⟩)
                  · right
                    simpa only [resolve, double, single, Bool.false_eq_true,
                      if_false, List.append_assoc, List.singleton_append]
                      using shorter

end Resolve

section Server

variable {letter : Char} {text segment first : List Char}
  {segments more : List (List Char)}

theorem stripUrl_eq_self (begins : text.dropWhile isControlOrSpace = text)
    (ends : EndsPlain text)
    (plain : ∀ letter ∈ text, isTabOrNewline letter = false) :
    stripUrl text = text := by
  have kept : text.rdropWhile isControlOrSpace = text := by
    apply List.rdropWhile_eq_self_iff.mpr
    intro nonempty
    rw [ends _ (List.getLast?_eq_some_getLast nonempty)]
    exact Bool.false_ne_true
  rw [stripUrl, begins, kept]
  apply List.filter_eq_self.mpr
  intro letter member
  rw [plain letter member]
  rfl

theorem plain_of_stripUrl (kept : stripUrl text = text) :
    EndsPlain text ∧ ∀ letter ∈ text, isTabOrNewline letter = false := by
  have inner : (text.dropWhile isControlOrSpace).rdropWhile isControlOrSpace =
      text := by
    apply ((List.rdropWhile_prefix _ _).sublist.trans
      (List.dropWhile_suffix _).sublist).antisymm
    conv_lhs => rw [← kept]
    exact List.filter_sublist
  have begins : text.dropWhile isControlOrSpace = text := by
    apply (List.dropWhile_suffix _).sublist.antisymm
    conv_lhs => rw [← inner]
    exact (List.rdropWhile_prefix _ _).sublist
  rw [begins] at inner
  rw [stripUrl, begins, inner] at kept
  constructor
  · intro letter last
    obtain ⟨nonempty, rfl⟩ := List.mem_getLast?_eq_getLast last
    exact Bool.eq_false_iff.mpr
      (List.rdropWhile_eq_self_iff.mp inner nonempty)
  · intro letter member
    simpa using List.filter_eq_self.mp kept letter member

theorem slashByte_mem_utf8EncodeChar :
    slashByte ∈ String.utf8EncodeChar letter ↔ letter = '/' := by
  constructor
  · intro member
    have value : letter.val.toNat = 47 := by
      -- The bytes of a letter that takes several are 128 or more.
      have slash : slashByte.toNat = 47 := rfl
      unfold String.utf8EncodeChar at member
      dsimp only at member
      split at member
      next =>
        simp only [List.mem_singleton, ← UInt8.toNat_inj,
          UInt8.toNat_ofNat'] at member
        omega
      next =>
        split at member
        next =>
          simp only [List.mem_cons, List.not_mem_nil, or_false,
            ← UInt8.toNat_inj, UInt8.toNat_ofNat'] at member
          omega
        next =>
          split at member <;>
            simp only [List.mem_cons, List.not_mem_nil, or_false,
              ← UInt8.toNat_inj, UInt8.toNat_ofNat'] at member <;> omega
    exact Char.ext (UInt32.toNat_inj.mp value)
  · rintro rfl
    decide

theorem slashByte_mem_utf8 : slashByte ∈ utf8 text ↔ '/' ∈ text := by
  rw [utf8, List.mem_flatMap]
  constructor
  · rintro ⟨letter, member, slash⟩
    exact slashByte_mem_utf8EncodeChar.mp slash ▸ member
  · exact fun member =>
      ⟨'/', member, slashByte_mem_utf8EncodeChar.mpr rfl⟩

theorem address_utf8 :
    address slashByte (segments.map utf8) = utf8 (address '/' segments) := by
  induction segments with
  | nil => rfl
  | cons segment segments induction =>
      rw [List.map_cons, address_cons, address_cons, induction, utf8_cons,
        utf8_append]
      rfl

/-- Only an upper case letter is changed, and becomes a lower case one. -/
theorem eq_of_toLower (low : letter.toLower < 'a') : letter.toLower = letter := by
  unfold Char.toLower at low ⊢
  split
  next upper =>
    rw [dif_pos upper] at low
    have least : 65 ≤ letter.val.toNat := upper.1
    have most : letter.val.toNat ≤ 90 := upper.2
    have sum : (letter.val + ('a'.val - 'A'.val)).toNat < 97 := low
    have shift : ('a'.val - 'A'.val).toNat = 32 := rfl
    rw [UInt32.toNat_add, shift] at sum
    omega
  next => rfl

theorem foldCase_eq (folded : foldCase segment = text)
    (low : text.all (· < 'a') = true) : segment = text := by
  subst folded
  symm
  conv_rhs => rw [← List.map_id segment]
  apply List.map_congr_left
  intro letter member
  exact eq_of_toLower
    (of_decide_eq_true (List.all_eq_true.mp low _ (List.mem_map_of_mem member)))

theorem percent_mem_of_foldCase (folded : foldCase segment = text)
    (percent : '%' ∈ text) : '%' ∈ segment := by
  subst folded
  obtain ⟨letter, member, same⟩ := List.mem_map.mp percent
  rw [eq_of_toLower (by rw [same]; decide)] at same
  exact same ▸ member

theorem plainSegment_of_alphanum (named : segment.all Char.isAlphanum = true) :
    PlainSegment segment where
  letters := by
    intro letter member special
    have alphanum := List.all_eq_true.mp named letter member
    simp only [List.mem_cons, List.not_mem_nil, or_false] at special
    rcases special with rfl | rfl | rfl | rfl | rfl | rfl | rfl | rfl <;>
      cases alphanum
  single := by
    intro same
    rw [same] at named
    cases named
  double := by
    intro same
    rw [same] at named
    cases named

theorem PlainSegment.percent (plain : PlainSegment segment) :
    '%' ∉ segment := by
  intro member
  exact plain.letters _ member (by decide)

theorem PlainSegment.not_dots (plain : PlainSegment segment) :
    isDoubleDot segment = false ∧ isSingleDot segment = false := by
  have escaped : ∀ text : List Char, '%' ∈ text → foldCase segment ≠ text :=
    fun _ percent folded =>
      plain.percent (percent_mem_of_foldCase folded percent)
  constructor
  · apply decide_eq_false
    rw [List.mem_cons, List.mem_cons, List.mem_cons, List.mem_singleton]
    rintro (dots | folded | folded | folded)
    · exact plain.double (foldCase_eq dots (by decide))
    all_goals exact escaped _ (by decide) folded
  · apply decide_eq_false
    rw [List.mem_cons, List.mem_singleton]
    rintro (dot | folded)
    · exact plain.single (foldCase_eq dot (by decide))
    · exact escaped _ (by decide) folded

theorem mem_address {Letter : Type*} {separator letter : Letter}
    {segments : List (List Letter)} : letter ∈ address separator segments ↔
      ∃ segment ∈ segments, letter = separator ∨ letter ∈ segment := by
  rw [address, List.mem_flatMap]
  simp only [List.mem_cons]

/-- Plain segments arrive as they are. -/
theorem serverPath_address (nonempty : first ≠ [])
    (plain : ∀ segment ∈ first :: more, PlainSegment segment)
    (ends : EndsPlain (address '/' (first :: more))) :
    serverPath (address '/' (first :: more)) =
      some ((first :: more).map utf8) := by
  have letters : ∀ letter ∈ address '/' (first :: more),
      letter ∉ ['\\', '?', '#', '%', '\t', '\n', '\x0d'] := by
    intro letter member
    obtain ⟨segment, listed, rfl | within⟩ := mem_address.mp member
    · decide
    · exact fun bad =>
        (plain segment listed).letters letter within (List.mem_cons_of_mem _ bad)
  have stripped : stripUrl (address '/' (first :: more)) =
      address '/' (first :: more) := by
    apply stripUrl_eq_self _ ends
    · intro letter member
      have kept := letters letter member
      simp only [List.mem_cons, List.not_mem_nil, or_false, not_or] at kept
      simp [isTabOrNewline, kept]
    · rfl
  have cut : (address '/' (first :: more)).takeWhile (!endsPath ·) =
      address '/' (first :: more) := by
    apply List.takeWhile_eq_self_iff.mpr
    intro letter member
    have kept := letters letter member
    simp only [List.mem_cons, List.not_mem_nil, or_false, not_or] at kept
    simp [endsPath, kept]
  have split : (address '/' (first :: more)).splitOnP isSlash =
      [] :: first :: more := by
    apply splitOnP_address rfl
    intro segment listed letter member
    have kept := (plain segment listed).letters letter member
    simp only [List.mem_cons, List.not_mem_nil, or_false, not_or] at kept
    simp [isSlash, kept]
  have path : browserPath (address '/' (first :: more)) =
      some (first :: more) := by
    rw [browserPath, stripped, cut, split]
    dsimp only
    rw [if_neg (fun empty => nonempty empty.1),
      resolve_eq_append fun segment listed => (plain segment listed).not_dots]
    rfl
  have bytes : unescape (requestTarget (first :: more)) =
      some (utf8 (address '/' (first :: more))) := by
    apply unescape_flatMap
    intro member
    exact letters _ member (by decide)
  have parts : (utf8 (address '/' (first :: more))).splitOnP (· = slashByte) =
      [] :: (first :: more).map utf8 := by
    rw [← address_utf8]
    refine splitOnP_address (by simp) ?_
    intro segment listed byte member
    obtain ⟨source, stored, rfl⟩ := List.mem_map.mp listed
    apply decide_eq_false
    rintro rfl
    exact (plain source stored).letters _ (slashByte_mem_utf8.mp member)
      (by decide)
  rw [serverPath, path]
  change (unescape (requestTarget (first :: more))).bind _ = _
  rw [bytes]
  change some (List.tail _) = _
  rw [parts]
  rfl

/-- The backslashes of a path become slashes. -/
def unslash (letter : Char) : Char := if isSlash letter then '/' else letter

theorem utf8Size_unslash : (unslash letter).utf8Size = letter.utf8Size := by
  unfold unslash isSlash
  split
  next slash =>
    have either := of_decide_eq_true slash
    rw [List.mem_cons, List.mem_singleton] at either
    rcases either with rfl | rfl <;> rfl
  next => rfl

theorem size_map_unslash : size (text.map unslash) = size text := by
  induction text with
  | nil => rfl
  | cons letter text induction =>
      rw [List.map_cons, size_cons, size_cons, utf8Size_unslash, induction]

theorem backslash_of_utf8 (same : utf8 (text.map unslash) = utf8 text) :
    '\\' ∉ text := by
  induction text with
  | nil => exact nofun
  | cons letter text induction =>
      rw [List.map_cons, utf8_cons, utf8_cons] at same
      obtain ⟨head, tail⟩ := List.append_inj same (by
        rw [String.length_utf8EncodeChar, String.length_utf8EncodeChar,
          utf8Size_unslash])
      rw [List.mem_cons, not_or]
      refine ⟨?_, induction tail⟩
      rintro rfl
      revert head
      decide

theorem browserPath_eq_some {url : List Char} {path : List (List Char)}
    (read : browserPath url = some path) :
    ∃ parts, ((stripUrl url).takeWhile (!endsPath ·)).splitOnP isSlash =
        [] :: parts ∧ path = resolve [] parts := by
  unfold browserPath at read
  split at read
  next first more split =>
    split at read
    next => cases read
    next =>
      cases read
      exact ⟨_, split, rfl⟩
  next => cases read

/-- The bytes that a server takes apart into the segments of an address. -/
theorem bytes_of_serverPath {bytes : List UInt8}
    (arrived : (bytes.splitOnP (· = slashByte)).tail = segments.map utf8) :
    ∃ head, bytes = head ++ utf8 (address '/' segments) := by
  have joined := @address_splitOnP _ slashByte
    (fun byte => decide (byte = slashByte)) bytes
  have kept : (bytes.map fun byte =>
      if decide (byte = slashByte) = true then slashByte else byte) = bytes := by
    conv_rhs => rw [← List.map_id bytes]
    apply List.map_congr_left
    intro byte member
    split
    next slash => exact (of_decide_eq_true slash).symm
    next => rfl
  rw [kept] at joined
  cases split : bytes.splitOnP (· = slashByte) with
  | nil => exact absurd split (List.splitOnP_ne_nil _ _)
  | cons head rest =>
      rw [split] at joined arrived
      rw [List.tail_cons] at arrived
      rw [address_cons, arrived, address_utf8, List.cons_eq_cons] at joined
      exact ⟨head, joined.2.symm⟩

theorem slash_of_serverPath {url : List Char} {parts : List (List UInt8)}
    {part : List UInt8} (arrived : serverPath url = some parts)
    (member : part ∈ parts) : slashByte ∉ part := by
  obtain ⟨path, -, sent⟩ := Option.bind_eq_some_iff.mp arrived
  obtain ⟨bytes, -, taken⟩ := Option.bind_eq_some_iff.mp sent
  cases taken
  intro slash
  have plain := not_separator_of_mem_splitOnP (List.mem_of_mem_tail member) _
    slash
  exact of_decide_eq_false plain rfl

theorem address_of_split {path : List (List Char)}
    (split : text.splitOnP isSlash = [] :: path) :
    address '/' path = text.map unslash := by
  have together := @address_splitOnP _ '/' isSlash text
  rw [split, address_cons, List.nil_append, List.cons_eq_cons] at together
  exact together.2

/-- A path that arrives was cut, resolved and decoded nowhere. -/
theorem kept_of_serverPath
    (arrived : serverPath (address '/' segments) =
      some (segments.map utf8)) :
    stripUrl (address '/' segments) = address '/' segments ∧
      (address '/' segments).takeWhile (!endsPath ·) = address '/' segments ∧
      ∃ path : List (List Char),
        (address '/' segments).splitOnP isSlash = [] :: path ∧
        (∀ segment ∈ path,
          isDoubleDot segment = false ∧ isSingleDot segment = false) ∧
        '%' ∉ address '/' path ∧
        utf8 (address '/' path) = utf8 (address '/' segments) := by
  obtain ⟨path, read, sent⟩ := Option.bind_eq_some_iff.mp arrived
  obtain ⟨bytes, decoded, taken⟩ := Option.bind_eq_some_iff.mp sent
  obtain ⟨head, joined⟩ := bytes_of_serverPath (Option.some.inj taken)
  obtain ⟨parts, split, rfl⟩ := browserPath_eq_some read
  have counted : bytes.length + 2 * (address '/' (resolve [] parts)).count '%' =
      size (address '/' (resolve [] parts)) := by
    have triples := length_unescape decoded
    have encoded :=
      @size_flatMap_percentEncode (address '/' (resolve [] parts))
    unfold requestTarget at triples
    omega
  have total : bytes.length = head.length + size (address '/' segments) := by
    rw [joined, List.length_append, size]
  have sized := congrArg size (address_of_split split)
  rw [size_map_unslash] at sized
  have resolved := @plain_or_size_resolve_lt [] parts
  have stripped := eq_or_size_lt (@stripUrl_sublist (address '/' segments))
  have cut := eq_or_size_lt (@List.takeWhile_prefix _
    (stripUrl (address '/' segments)) (!endsPath ·)).sublist
  have resolvedLe : size (address '/' (resolve [] parts)) ≤
      size (address '/' parts) := by
    rcases resolved with plain | shorter
    · rw [resolve_eq_append plain, List.nil_append]
    · exact shorter.le
  have strippedLe := stripped.elim (fun same => (congrArg size same).le)
    fun shorter => shorter.le
  have cutLe := cut.elim (fun same => (congrArg size same).le)
    fun shorter => shorter.le
  -- Every stage kept all of the text, or some text would be missing.
  have plain := resolved.resolve_right (by rw [List.nil_append]; omega)
  replace stripped := stripped.resolve_right (by omega)
  replace cut := cut.resolve_right (by omega)
  rw [stripped] at cut split
  rw [cut] at split
  have percent : '%' ∉ address '/' parts := by
    rw [resolve_eq_append plain, List.nil_append] at counted
    exact List.count_eq_zero.mp (by omega)
  refine ⟨stripped, cut, parts, split, plain, percent, ?_⟩
  have empty : head = [] := List.length_eq_zero_iff.mp (by omega)
  rw [requestTarget, resolve_eq_append plain, List.nil_append,
    unescape_flatMap percent] at decoded
  rw [empty, List.nil_append] at joined
  exact (Option.some.inj decoded).trans joined

/-- Only plain segments arrive as they are. -/
theorem plain_of_serverPath
    (arrived : serverPath (address '/' segments) =
      some (segments.map utf8)) :
    (∀ segment ∈ segments, PlainSegment segment) ∧
      EndsPlain (address '/' segments) := by
  obtain ⟨stripped, cut, path, split, plain, percent, same⟩ :=
    kept_of_serverPath arrived
  obtain ⟨ends, letters⟩ := plain_of_stripUrl stripped
  rw [address_of_split split] at same
  have backslash := backslash_of_utf8 same
  have within : ∀ segment ∈ segments, ∀ letter ∈ segment,
      letter ∈ address '/' segments := fun segment listed letter member =>
    mem_address.mpr ⟨segment, listed, .inr member⟩
  have slash : ∀ segment ∈ segments, '/' ∉ segment :=
    fun segment listed member => slash_of_serverPath arrived
      (List.mem_map_of_mem listed) (slashByte_mem_utf8.mpr member)
  have parted : (address '/' segments).splitOnP isSlash = [] :: segments := by
    apply splitOnP_address rfl
    intro segment listed letter member
    apply decide_eq_false
    rw [List.mem_cons, List.mem_singleton]
    rintro (rfl | rfl)
    · exact slash segment listed member
    · exact backslash (within segment listed _ member)
  rw [parted, List.cons_eq_cons] at split
  obtain ⟨-, rfl⟩ := split
  refine ⟨fun segment listed => ⟨?_, ?_, ?_⟩, ends⟩
  · intro letter member bad
    have kept := List.takeWhile_eq_self_iff.mp cut letter
      (within segment listed letter member)
    have inner := letters letter (within segment listed letter member)
    simp only [List.mem_cons, List.not_mem_nil, or_false] at bad
    rcases bad with rfl | rfl | rfl | rfl | rfl | rfl | rfl | rfl
    · exact slash segment listed member
    · exact backslash (within segment listed _ member)
    · cases kept
    · cases kept
    · exact percent (within segment listed _ member)
    all_goals cases inner
  · rintro rfl
    cases (plain _ listed).2
  · rintro rfl
    cases (plain _ listed).1

end Server

end VpnUi.Foundation
