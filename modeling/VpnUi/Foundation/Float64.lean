import Mathlib.Tactic.Linarith
import VpnUi.Foundation.Json

namespace VpnUi.Foundation

/-! Whole numbers as 64-bit floating point numbers, and what JSON makes of them
on the way through a decoding that types nothing. -/

def roundHalfEven (number divisor : Nat) : Nat :=
  let quotient := number / divisor
  let rest := number % divisor
  if 2 * rest < divisor then quotient
  else if divisor < 2 * rest then quotient + 1
  else quotient + quotient % 2

/-- The nearest number with 53 binary digits. -/
def toFloat64 (number : Nat) : Nat :=
  let unit := 2 ^ (number.log2 - 52)
  roundHalfEven number unit * unit

section Rounding

variable {number divisor multiple : Nat}

theorem roundHalfEven_mul (positive : 0 < divisor) :
    roundHalfEven (multiple * divisor) divisor = multiple := by
  unfold roundHalfEven
  rw [Nat.mul_div_cancel _ positive, Nat.mul_mod_left]
  simp [positive]

theorem roundHalfEven_bounds :
    number / divisor ≤ roundHalfEven number divisor ∧
      roundHalfEven number divisor ≤ number / divisor + 1 := by
  unfold roundHalfEven
  dsimp only
  split_ifs <;> omega

theorem toFloat64_of_dvd (divides : 2 ^ (number.log2 - 52) ∣ number) :
    toFloat64 number = number := by
  obtain ⟨multiple, whole⟩ := divides
  unfold toFloat64
  dsimp only
  have rounded : roundHalfEven number (2 ^ (number.log2 - 52)) = multiple := by
    have scaled := @roundHalfEven_mul (2 ^ (number.log2 - 52)) multiple
      (by positivity)
    rwa [mul_comm multiple, ← whole] at scaled
  rw [rounded, mul_comm, ← whole]

/-- A number of at most 53 digits is there already. -/
theorem toFloat64_of_lt (small : number < 2 ^ 53) : toFloat64 number = number := by
  apply toFloat64_of_dvd
  have digits : number.log2 - 52 = 0 := by
    by_cases zero : number = 0
    · subst zero
      rfl
    · have below := (Nat.log2_lt zero).mpr small
      omega
  rw [digits]
  exact one_dvd number

theorem toFloat64_idem : toFloat64 (toFloat64 number) = toFloat64 number := by
  by_cases small : number < 2 ^ 53
  · rw [toFloat64_of_lt small, toFloat64_of_lt small]
  · apply toFloat64_of_dvd
    generalize extra : number.log2 - 52 = shift
    have whole : toFloat64 number =
        roundHalfEven number (2 ^ shift) * 2 ^ shift := by
      unfold toFloat64
      rw [extra]
    have high : number / 2 ^ shift < 2 ^ 53 := by
      rw [Nat.div_lt_iff_lt_mul (by positivity), ← pow_add]
      have bound : 2 ^ (number.log2 + 1) ≤ 2 ^ (53 + shift) :=
        Nat.pow_le_pow_right (by decide) (by omega)
      exact lt_of_lt_of_le Nat.lt_log2_self bound
    have rounded : roundHalfEven number (2 ^ shift) ≤ 2 ^ 53 :=
      roundHalfEven_bounds.2.trans high
    rw [whole]
    -- Rounding up may give one digit more, then all the others are zero.
    rcases rounded.lt_or_eq with less | power
    · by_cases zero : roundHalfEven number (2 ^ shift) * 2 ^ shift = 0
      · rw [zero]
        exact dvd_zero _
      · have below : roundHalfEven number (2 ^ shift) * 2 ^ shift <
            2 ^ (53 + shift) := by
          rw [pow_add]
          exact Nat.mul_lt_mul_of_pos_right less (by positivity)
        have digits := (Nat.log2_lt zero).mpr below
        exact (pow_dvd_pow 2 (by omega)).trans (dvd_mul_left _ _)
    · rw [power, ← pow_add, Nat.log2_two_pow]
      exact pow_dvd_pow 2 (by omega)

theorem lt_of_toFloat64_lt (small : toFloat64 number < 2 ^ 53) :
    number < 2 ^ 53 := by
  by_contra large
  have positive : number ≠ 0 := by omega
  have digits : 53 ≤ number.log2 := (Nat.le_log2 positive).mpr (by omega)
  generalize extra : number.log2 - 52 = shift
  have low : 2 ^ 52 ≤ number / 2 ^ shift := by
    rw [Nat.le_div_iff_mul_le (by positivity), ← pow_add,
      ← Nat.le_log2 positive]
    omega
  have rounded := low.trans (@roundHalfEven_bounds number (2 ^ shift)).1
  have scaled : 2 ^ 52 * 2 ≤ roundHalfEven number (2 ^ shift) * 2 ^ shift :=
    Nat.mul_le_mul rounded (Nat.le_self_pow (by omega) 2)
  unfold toFloat64 at small
  rw [extra] at small
  dsimp only at small
  exact absurd small (by omega)

end Rounding

/-- The number with the fewest digits that is read as this one. -/
def shortest (number : Nat) : Nat :=
  let length := (toString number).length
  let candidates := (List.range length).map fun digits =>
    let unit := 10 ^ (length - 1 - digits)
    roundHalfEven number unit * unit
  (candidates.find? fun candidate => toFloat64 candidate = number).getD number

/-- From 10²¹ on numbers are written with an exponent. -/
def exponentForm (negative : Bool) (number : Nat) : String :=
  let digits := (toString number).toList
  let fraction := (digits.tail.reverse.dropWhile (· = '0')).reverse
  (if negative then "-" else "") ++ String.ofList (digits.take 1) ++
    (if fraction = [] then "" else "." ++ String.ofList fraction) ++ "e+" ++
      toString (digits.length - 1)

def printFloat (value : Int) : Json :=
  let number := shortest (toFloat64 value.natAbs)
  if number < 10 ^ 21 then .int (if value < 0 then -number else number)
  else .real (exponentForm (value < 0) number)

mutual

/-- A value that was decoded into `any` and encoded again; numbers with a
fraction or an exponent are kept as they are written. -/
def Json.viaFloat : Json → Json
  | .int value => printFloat value
  | .arr items => .arr (viaFloatItems items)
  | .obj fields => .obj (viaFloatFields fields)
  | json => json

def viaFloatItems : List Json → List Json
  | [] => []
  | item :: items => item.viaFloat :: viaFloatItems items

def viaFloatFields : List (String × Json) → List (String × Json)
  | [] => []
  | (key, value) :: fields => (key, value.viaFloat) :: viaFloatFields fields

end

example : shortest (toFloat64 9007199254740993) = 9007199254740992 := by
  decide +kernel

theorem viaFloatItems_eq_map (items : List Json) :
    viaFloatItems items = items.map Json.viaFloat := by
  induction items with
  | nil => rfl
  | cons item items induction => rw [viaFloatItems, induction, List.map_cons]

theorem viaFloatFields_eq_map (fields : JsonObject) :
    viaFloatFields fields =
      fields.map fun field => (field.1, field.2.viaFloat) := by
  induction fields with
  | nil => rfl
  | cons field fields induction =>
      rw [viaFloatFields, induction, List.map_cons]

theorem JsonObject.get?_viaFloatFields {fields : JsonObject} {key : String} :
    JsonObject.get? (viaFloatFields fields) key =
      (JsonObject.get? fields key).map Json.viaFloat := by
  rw [viaFloatFields_eq_map]
  exact JsonObject.get?_mapValues

section Printing

variable {number : Nat} {value : Int}

theorem toFloat64_shortest (settled : toFloat64 number = number) :
    toFloat64 (shortest number) = number := by
  unfold shortest
  dsimp only
  cases found : List.find? _ _ with
  | none => exact settled
  | some candidate => simpa using List.find?_some found

theorem shortest_of_lt (small : number < 2 ^ 53) : shortest number = number := by
  have read := toFloat64_shortest (toFloat64_of_lt small)
  exact (toFloat64_of_lt (lt_of_toFloat64_lt (read.trans_lt small))).symm.trans
    read

theorem printFloat_of_lt (small : value.natAbs < 2 ^ 53) :
    printFloat value = .int value := by
  unfold printFloat
  rw [toFloat64_of_lt small, shortest_of_lt small]
  dsimp only
  rw [if_pos (by omega)]
  congr 1
  split_ifs <;> omega

/-- What has been printed once is printed the same again. -/
theorem viaFloat_printFloat : (printFloat value).viaFloat = printFloat value := by
  generalize read : toFloat64 value.natAbs = number
  have settled : toFloat64 (shortest number) = number :=
    toFloat64_shortest (read ▸ toFloat64_idem)
  have printed : printFloat value =
      if shortest number < 10 ^ 21 then
        .int (if value < 0 then -shortest number else shortest number)
      else .real (exponentForm (value < 0) (shortest number)) := by
    unfold printFloat
    rw [read]
  rw [printed]
  split_ifs with short negative
  · rw [Json.viaFloat, printFloat, Int.natAbs_neg, Int.natAbs_natCast, settled,
      if_pos short]
    refine congrArg Json.int ?_
    split_ifs <;> omega
  · rw [Json.viaFloat, printFloat, Int.natAbs_natCast, settled, if_pos short,
      if_neg (by omega)]
  · rfl

end Printing

mutual

theorem Json.viaFloat_idem (json : Json) :
    json.viaFloat.viaFloat = json.viaFloat := by
  cases json with
  | int value =>
      rw [Json.viaFloat]
      exact viaFloat_printFloat
  | arr items => rw [Json.viaFloat, Json.viaFloat, viaFloatItems_idem]
  | obj fields => rw [Json.viaFloat, Json.viaFloat, viaFloatFields_idem]
  | _ => rfl

theorem viaFloatItems_idem (items : List Json) :
    viaFloatItems (viaFloatItems items) = viaFloatItems items := by
  cases items with
  | nil => rfl
  | cons item items =>
      rw [viaFloatItems, viaFloatItems, Json.viaFloat_idem, viaFloatItems_idem]

theorem viaFloatFields_idem (fields : List (String × Json)) :
    viaFloatFields (viaFloatFields fields) = viaFloatFields fields := by
  cases fields with
  | nil => rfl
  | cons field fields =>
      obtain ⟨key, value⟩ := field
      rw [viaFloatFields, viaFloatFields, Json.viaFloat_idem,
        viaFloatFields_idem]

end

end VpnUi.Foundation
