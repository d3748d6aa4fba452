import VpnUi.Address.Text

namespace VpnUi.Address

/-! The ranges of client addresses an inbound stores, as texts and as parsed
windows of one /24. -/

/-- What `parseRange` accepts: a window of host octets inside one /24. -/
structure IpRange where
  subnet : Subnet
  first : Nat
  last : Nat
  valid : subnet.Valid
  ordered : first ≤ last
  bounded : last < 256
  deriving DecidableEq

namespace IpRange

def build? (subnet : Subnet) (first last : Nat) : Option IpRange :=
  if proper : subnet.Valid ∧ first ≤ last ∧ last < 256 then
    some ⟨subnet, first, last, proper.1, proper.2.1, proper.2.2⟩
  else none

def start (range : IpRange) : Ipv4 := range.subnet.withHost range.first

def stop (range : IpRange) : Ipv4 := range.subnet.withHost range.last

def capacity (range : IpRange) : Nat := range.last - range.first + 1

def text (range : IpRange) : String :=
  range.start.text ++ "-" ++ range.stop.text

/-- The addresses of the range, in order. -/
def addresses (range : IpRange) : List Ipv4 :=
  (List.range range.capacity).map fun index =>
    range.subnet.withHost (range.first + index)

theorem build?_self (range : IpRange) :
    build? range.subnet range.first range.last = some range := by
  rw [build?, dif_pos ⟨range.valid, range.ordered, range.bounded⟩]

end IpRange

/-- One "A.B.C.s-A.B.C.e" range, or its "A.B.C.s-e" shorthand. -/
def parseRange (text : String) : Option IpRange := do
  let (before, after) ← cutAt '-' (trimSpace text.toList)
  let start ← parseIP4? (trimSpace before)
  let endText := trimSpace after
  let stop ←
    if '.' ∈ endText then parseIP4? endText
    else
      match atoi? endText with
      | none => none
      | some last =>
          if last < 0 ∨ 255 < last then none
          else some (start.subnet.withHost last.toNat)
  if start.subnet = stop.subnet then
    IpRange.build? start.subnet start.host stop.host
  else none

def canonRange (text : String) : Option String :=
  (parseRange text).map IpRange.text

def rangeSubnet (text : String) : Option Subnet :=
  (parseRange text).map IpRange.subnet

def rangeCapacity (ranges : List String) : Nat :=
  ((ranges.filterMap parseRange).map IpRange.capacity).sum

/-- The distinct /24s of the ranges, in order of first appearance. -/
def subnetsOf (ranges : List String) : List Subnet :=
  (ranges.filterMap rangeSubnet).eraseDups

def defaultRange (subnet : Subnet) : String :=
  (subnet.withHost 2).text ++ "-" ++ (subnet.withHost 254).text

/-- The full range of "10.base.id", whatever the id is. -/
def idRange (base : Nat) (id : Int) : String :=
  let subnet := "10." ++ toString base ++ "." ++ toString id
  subnet ++ ".2-" ++ subnet ++ ".254"

def ovpnRangeForSubnet (subnet : Subnet) : String :=
  (subnet.withHost 2).text ++ "-" ++ (subnet.withHost 254).text

theorem ovpnRangeForSubnet_eq_defaultRange :
    ovpnRangeForSubnet = defaultRange := rfl

/-! The text of an address or a range parses back to it. -/

theorem Ipv4.text_toList (ip : Ipv4) :
    ip.text.toList = ['.'].intercalate
      [Nat.toDigits 10 ip.subnet.first, Nat.toDigits 10 ip.subnet.second,
        Nat.toDigits 10 ip.subnet.third, Nat.toDigits 10 ip.host] := by
  simp [Ipv4.text, List.intercalate, String.toList_append]

theorem Ipv4.text_injective {ip other : Ipv4} (same : ip.text = other.text) :
    ip = other := by
  have noDot : ∀ value, '.' ∉ Nat.toDigits 10 value := by
    intro value inside
    have digit := Nat.isDigit_of_mem_toDigits (by decide) (by decide) inside
    exact absurd digit (by decide)
  have parts := congrArg (fun text => text.toList.splitOn '.') same
  simp only [Ipv4.text_toList] at parts
  rw [List.splitOn_intercalate, List.splitOn_intercalate] at parts
  · have values := congrArg
      (List.map fun digits => Nat.ofDigitChars 10 digits 0) parts
    simp only [List.map_cons, List.map_nil, Nat.ofDigitChars_ten_toDigits,
      List.cons.injEq, and_true] at values
    obtain ⟨⟨_, _, _⟩, _⟩ := ip
    obtain ⟨⟨_, _, _⟩, _⟩ := other
    obtain ⟨rfl, rfl, rfl, rfl⟩ := values
    rfl
  all_goals simp [noDot]
theorem Ipv4.text_letters {ip : Ipv4} (valid : ip.Valid) {letter : Char}
    (member : letter ∈ ip.text.toList) : letter ∈ quadLetters := by
  obtain ⟨⟨first, second, third⟩, host⟩ := valid
  simp only [Ipv4.text, String.toList_append, List.mem_append,
    Nat.toString_eq_repr, Nat.toList_repr] at member
  rcases member with
    (((((inside | dot) | inside) | dot) | inside) | dot) | inside
  · exact (octetText_letters first inside).1
  · simp_all [quadLetters]
  · exact (octetText_letters second inside).1
  · simp_all [quadLetters]
  · exact (octetText_letters third inside).1
  · simp_all [quadLetters]
  · exact (octetText_letters host inside).1

theorem Ipv4.not_mem_text {ip : Ipv4} (valid : ip.Valid) {letter : Char}
    (other : letter ∉ quadLetters) : letter ∉ ip.text.toList :=
  fun inside => other (Ipv4.text_letters valid inside)

theorem parseIPv4?_text {ip : Ipv4} (valid : ip.Valid) :
    parseIPv4? ip.text.toList = some ip := by
  have noDot : ∀ {value : Nat}, value < 256 →
      '.' ∉ Nat.toDigits 10 value := by
    intro value bounded inside
    exact (octetText_letters bounded inside).2 rfl
  obtain ⟨⟨first, second, third⟩, host⟩ := valid
  rw [parseIPv4?, Ipv4.text_toList, List.splitOn_intercalate]
  · simp [octet?_text first, octet?_text second, octet?_text third,
      octet?_text host]
  · simp [noDot first, noDot second, noDot third, noDot host]
  · simp

theorem parseIP4?_text {ip : Ipv4} (valid : ip.Valid) :
    parseIP4? ip.text.toList = some ip := by
  have dotted : ip.text.toList.find?
      (fun letter => letter ∈ ['.', ':', '%']) = some '.' := by
    cases found : ip.text.toList.find?
        (fun letter => letter ∈ ['.', ':', '%']) with
    | none =>
        have dot : '.' ∈ ip.text.toList := by
          simp [Ipv4.text, String.toList_append]
        have missed := List.find?_eq_none.mp found '.' dot
        exact absurd (by decide) missed
    | some letter =>
        have inside := Ipv4.text_letters valid
          (List.mem_of_find?_eq_some found)
        have marked := List.find?_some found
        simp only [decide_eq_true_eq, List.mem_cons, List.not_mem_nil,
          or_false] at marked
        rcases marked with rfl | rfl | rfl
        · rfl
        · exact absurd inside (by decide)
        · exact absurd inside (by decide)
  rw [parseIP4?, dotted]
  exact parseIPv4?_text valid

theorem trimSpace_text {ip : Ipv4} (valid : ip.Valid) :
    trimSpace ip.text.toList = ip.text.toList := by
  apply trimSpace_of_none
  intro letter member
  exact isSpace_of_quadLetters (Ipv4.text_letters valid member)

namespace IpRange

theorem start_valid (range : IpRange) : range.start.Valid :=
  ⟨range.valid, Nat.lt_of_le_of_lt range.ordered range.bounded⟩

theorem stop_valid (range : IpRange) : range.stop.Valid :=
  ⟨range.valid, range.bounded⟩

theorem text_toList (range : IpRange) : range.text.toList =
    range.start.text.toList ++ '-' :: range.stop.text.toList := by
  simp [IpRange.text, String.toList_append]

theorem trimSpace_text (range : IpRange) :
    trimSpace range.text.toList = range.text.toList := by
  apply trimSpace_of_none
  intro letter member
  rw [range.text_toList, List.mem_append, List.mem_cons] at member
  rcases member with inside | rfl | inside
  · exact isSpace_of_quadLetters (Ipv4.text_letters range.start_valid inside)
  · decide +kernel
  · exact isSpace_of_quadLetters (Ipv4.text_letters range.stop_valid inside)

end IpRange

theorem parseRange_text (range : IpRange) :
    parseRange range.text = some range := by
  have noDash : '-' ∉ range.start.text.toList :=
    Ipv4.not_mem_text range.start_valid (by decide)
  have dot : '.' ∈ range.stop.text.toList := by
    simp [Ipv4.text, String.toList_append]
  rw [parseRange, range.trimSpace_text, range.text_toList, cutAt_append noDash]
  simp only [Option.bind_eq_bind, Option.bind_some,
    trimSpace_text range.start_valid, trimSpace_text range.stop_valid,
    parseIP4?_text range.start_valid, parseIP4?_text range.stop_valid, dot,
    if_true]
  rw [if_pos (show range.start.subnet = range.stop.subnet from rfl)]
  exact range.build?_self

theorem canonRange_eq_some {text canon : String} :
    canonRange text = some canon ↔
      ∃ range, parseRange text = some range ∧ range.text = canon := by
  simp [canonRange]

theorem parseRange_canonRange {text canon : String}
    (found : canonRange text = some canon) :
    parseRange canon = parseRange text := by
  obtain ⟨range, parsed, rfl⟩ := canonRange_eq_some.mp found
  rw [parseRange_text, parsed]

/-- The window .2-.254 of a /24. -/
def fullRange (subnet : Subnet) (valid : subnet.Valid) : IpRange :=
  ⟨subnet, 2, 254, valid, by omega, by omega⟩

theorem parseRange_defaultRange {subnet : Subnet} (valid : subnet.Valid) :
    parseRange (defaultRange subnet) = some (fullRange subnet valid) :=
  parseRange_text (fullRange subnet valid)

theorem rangeSubnet_defaultRange {subnet : Subnet} (valid : subnet.Valid) :
    rangeSubnet (defaultRange subnet) = some subnet := by
  rw [rangeSubnet, parseRange_defaultRange valid]
  rfl

end VpnUi.Address
