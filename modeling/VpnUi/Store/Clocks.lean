import Mathlib.Data.Int.ConditionallyCompleteOrder
import Mathlib.Order.ConditionallyCompleteLattice.Basic
import Mathlib.Order.WithBot
import VpnUi.Store.Frozen

namespace VpnUi.Store

open Foundation Panel

/-! The time and the volume of an account, and what the bulk operations that
lock, resume and shorten them make of both. -/

/-- What the sign of an expiry stands for. -/
inductive Clock
  | unlimited
  | deadline (time : Int)
  | delayed (span : Int)
  deriving DecidableEq

def Clock.decode (expiry : Int) : Clock :=
  if expiry = 0 then unlimited
  else if 0 < expiry then deadline expiry
  else delayed (-expiry)

/-- For how long the account can be used from now on. -/
def Clock.usable (now : Int) : Clock → WithTop Int
  | unlimited => ⊤
  | deadline time => ((max (time - now) 0 : Int) : WithTop Int)
  | delayed span => (span : WithTop Int)

def clockOf (client : JsonObject) : Clock := .decode (expiryOf client)

/-- The client after an operation, which may leave it alone. -/
def afterOp (request : BulkClientUpdateRequest) (now : Int)
    (client : JsonObject) : JsonObject :=
  (applyBulkClientOp client request now).getD client

theorem Clock.decode_of_pos {expiry : Int} (positive : 0 < expiry) :
    decode expiry = deadline expiry := by
  rw [decode, if_neg (by omega), if_pos positive]

theorem Clock.decode_of_neg {expiry : Int} (negative : expiry < 0) :
    decode expiry = delayed (-expiry) := by
  rw [decode, if_neg (by omega), if_neg (by omega)]

section Freeze

/-- How a frozen account is recognised. -/
def IsFrozen (client : JsonObject) : Prop :=
  enableOf client = false ∧ expiryOf client < 0

instance (client : JsonObject) : Decidable (IsFrozen client) :=
  inferInstanceAs (Decidable (_ ∧ _))

def freezing (request : BulkClientUpdateRequest) : BulkClientUpdateRequest :=
  { request with op := .freeze }

def unfreezing (request : BulkClientUpdateRequest) : BulkClientUpdateRequest :=
  { request with op := .unfreeze }

variable (request : BulkClientUpdateRequest) (client : JsonObject)
  (now start finish : Int)

/-- The expiry that a freeze leaves. -/
def lockedExpiry : Int :=
  if 0 < expiryOf client then now - expiryOf client
  else if expiryOf client = 0 then frozenNoExpiry
  else expiryOf client

theorem afterOp_freezing :
    enableOf (afterOp (freezing request) now client) = false ∧
      expiryOf (afterOp (freezing request) now client) =
        lockedExpiry client now := by
  simp only [afterOp, applyBulkClientOp, freezing, lockedExpiry]
  by_cases frozen : (!enableOf client && decide (expiryOf client < 0)) = true
  · rw [if_pos frozen, Option.getD_none]
    simp only [Bool.and_eq_true, Bool.not_eq_true', decide_eq_true_eq]
      at frozen
    rw [if_neg (by omega), if_neg (by omega)]
    exact ⟨frozen.1, rfl⟩
  · rw [if_neg frozen, Option.getD_some, enableOf_setEnable,
      expiryOf_setEnable]
    refine ⟨rfl, ?_⟩
    split
    · exact expiryOf_setExpiry _ _
    · split
      · exact expiryOf_setExpiry _ _
      · rfl

/-- The expiry that an unfreeze gives a disabled account. -/
def resumedExpiry : Int :=
  if expiryOf client = frozenNoExpiry then 0
  else if expiryOf client < 0 then now - expiryOf client
  else expiryOf client

theorem afterOp_unfreezing (off : enableOf client = false) :
    enableOf (afterOp (unfreezing request) now client) = true ∧
      expiryOf (afterOp (unfreezing request) now client) =
        resumedExpiry client now := by
  simp only [afterOp, applyBulkClientOp, unfreezing, resumedExpiry, off,
    Bool.false_eq_true, if_false, Option.getD_some, enableOf_setEnable,
    expiryOf_setEnable, true_and]
  split
  · exact expiryOf_setExpiry _ _
  · split
    · exact expiryOf_setExpiry _ _
    · rfl

theorem applyBulkClientOp_of_frozen (frozen : IsFrozen client) :
    applyBulkClientOp client (freezing request) now = none := by
  simp [applyBulkClientOp, freezing, frozen.1, frozen.2]

/-- A freeze and the unfreeze after it, of an account that may be enabled. -/
structure FreezeLaws : Prop where
  recognised : IsFrozen (afterOp (freezing request) start client)
  settled : ∀ later, applyBulkClientOp
    (afterOp (freezing request) start client) (freezing request) later = none
  active : enableOf client = true →
    enableOf (afterOp (unfreezing request) finish
      (afterOp (freezing request) start client)) = true
  unlimited : enableOf client = true → expiryOf client = 0 →
    expiryOf (afterOp (unfreezing request) finish
      (afterOp (freezing request) start client)) = 0
  resumed : enableOf client = true → 0 < expiryOf client →
    start ≤ expiryOf client →
    expiryOf (afterOp (unfreezing request) finish
      (afterOp (freezing request) start client)) =
        expiryOf client + (finish - start)
  expired : enableOf client = true → 0 < expiryOf client →
    expiryOf client < start →
    (clockOf (afterOp (unfreezing request) finish
      (afterOp (freezing request) start client))).usable finish ≤
        (clockOf client).usable start
  limited : enableOf client = true → 0 < expiryOf client →
    clockOf (afterOp (unfreezing request) finish
      (afterOp (freezing request) start client)) ≠ .unlimited

/-- A deadline is still to come, and that of an enabled account is more than
the mark away. -/
def LocksCleanly : Prop :=
  0 < expiryOf client → start < expiryOf client ∧
    (enableOf client = true → start + 1 < expiryOf client)

instance : Decidable (LocksCleanly client start) :=
  inferInstanceAs (Decidable (_ → _ ∧ (_ → _)))

variable {request : BulkClientUpdateRequest} {client : JsonObject}
  {start finish : Int}

/-- A cleanly locked account gets back what it had. -/
theorem resumed_of_clean (clean : LocksCleanly client start)
    (on : enableOf client = true) (positive : 0 < expiryOf client) :
    expiryOf (afterOp (unfreezing request) finish
      (afterOp (freezing request) start client)) =
        expiryOf client + (finish - start) := by
  obtain ⟨off, locked⟩ := afterOp_freezing request client start
  obtain ⟨-, thawed⟩ := afterOp_unfreezing request _ finish off
  obtain ⟨ahead, further⟩ := clean positive
  have apart := further on
  rw [lockedExpiry, if_pos positive] at locked
  rw [thawed, resumedExpiry, locked, frozenNoExpiry, if_neg (by omega),
    if_pos (by omega)]
  omega

end Freeze

section Subtract

def subDays (request : BulkClientUpdateRequest) (days : Int) :
    BulkClientUpdateRequest :=
  { request with op := .subDays, days := days }

def subTraffic (request : BulkClientUpdateRequest) (bytes : Int) :
    BulkClientUpdateRequest :=
  { request with op := .subTraffic, amountBytes := bytes }

variable (request : BulkClientUpdateRequest) (client : JsonObject)
  (now days more bytes extra : Int)

/-- Subtracting volume from an account. -/
structure LowersVolume : Prop where
  limited : 0 < totalOf client →
    0 < totalOf (afterOp (subTraffic request bytes) now client)
  lowers : totalOf (afterOp (subTraffic request bytes) now client) ≤
    totalOf client
  together : 0 < totalOf client →
    afterOp (subTraffic request extra) now
        (afterOp (subTraffic request bytes) now client) =
      afterOp (subTraffic request (bytes + extra)) now client

/-- Subtracting days and volume never gives more. -/
structure SubtractLaws : Prop where
  limited : clockOf client ≠ .unlimited →
    clockOf (afterOp (subDays request days) now client) ≠ .unlimited
  deadline : ∀ time, clockOf client = .deadline time → ∀ span,
    clockOf (afterOp (subDays request days) now client) ≠ .delayed span
  delayed : ∀ span, clockOf client = .delayed span → ∀ time,
    clockOf (afterOp (subDays request days) now client) ≠ .deadline time
  shortens : (clockOf (afterOp (subDays request days) now client)).usable now ≤
    (clockOf client).usable now
  together : clockOf client ≠ .unlimited →
    afterOp (subDays request more) now
        (afterOp (subDays request days) now client) =
      afterOp (subDays request (days + more)) now client
  volume : LowersVolume request client now bytes extra

/-- Subtracting days: the delay of a start is clamped at none, and a deadline
that is not reached stays one. -/
structure SubtractsByDesign : Prop where
  unlimited : clockOf client = .unlimited →
    applyBulkClientOp client (subDays request days) now = none
  deadline : ∀ time, clockOf client = .deadline time →
    days * bulkMsPerDay < time →
      clockOf (afterOp (subDays request days) now client) =
        .deadline (time - days * bulkMsPerDay)
  delayed : ∀ span, clockOf client = .delayed span →
    clockOf (afterOp (subDays request days) now client) =
      if days * bulkMsPerDay < span
      then .delayed (span - days * bulkMsPerDay) else .unlimited
  shortens : ∀ time, clockOf client = .deadline time ∨
      clockOf client = .delayed time → days * bulkMsPerDay < time →
    (clockOf (afterOp (subDays request days) now client)).usable now ≤
      (clockOf client).usable now
  together : (∀ time, clockOf client = .deadline time →
      days * bulkMsPerDay < time) →
    afterOp (subDays request more) now
        (afterOp (subDays request days) now client) =
      afterOp (subDays request (days + more)) now client
  volume : LowersVolume request client now bytes extra

variable {request : BulkClientUpdateRequest} {client : JsonObject}
  {now days more bytes extra : Int}

/-- What is left of an expiry. -/
def shortened (expiry span : Int) : Int :=
  if 0 < expiry then expiry - span else min (expiry + span) 0

theorem afterOp_subDays :
    afterOp (subDays request days) now client =
      if expiryOf client = 0 then client
      else setExpiry client
        (shortened (expiryOf client) (days * bulkMsPerDay)) := by
  simp only [afterOp, applyBulkClientOp, subDays, shortened]
  split <;> rfl

theorem clockOf_subDays (limited : expiryOf client ≠ 0) :
    clockOf (afterOp (subDays request days) now client) =
      .decode (shortened (expiryOf client) (days * bulkMsPerDay)) := by
  rw [afterOp_subDays, if_neg limited, clockOf, expiryOf_setExpiry]

theorem afterOp_subDays_add
    (ahead : 0 < expiryOf client → days * bulkMsPerDay < expiryOf client)
    (later : 0 ≤ more) :
    afterOp (subDays request more) now
        (afterOp (subDays request days) now client) =
      afterOp (subDays request (days + more)) now client := by
  have positive : 0 ≤ more * bulkMsPerDay :=
    Int.mul_nonneg later (by decide)
  rw [@afterOp_subDays _ client now days,
    @afterOp_subDays _ client now (days + more), Int.add_mul]
  by_cases none : expiryOf client = 0
  · rw [if_pos none, if_pos none, afterOp_subDays, if_pos none]
  · rw [if_neg none, if_neg none, afterOp_subDays, expiryOf_setExpiry]
    unfold setExpiry
    rw [JsonObject.set_set]
    by_cases running : 0 < expiryOf client
    · have left := ahead running
      simp only [shortened, if_pos running]
      rw [if_neg (by omega), if_pos (by omega), Int.sub_sub]
    · simp only [shortened, if_neg running]
      split
      next clamped =>
        rw [clamped]
        congr 2
        omega
      next =>
        rw [if_neg (by omega)]
        congr 2
        omega

theorem afterOp_subTraffic :
    afterOp (subTraffic request bytes) now client =
      if totalOf client ≤ 0 then client
      else setTotal client (max (totalOf client - bytes) 1) := by
  simp only [afterOp, applyBulkClientOp, subTraffic]
  split <;> rfl

theorem lowersVolume (fewer : 0 ≤ bytes) (further : 0 ≤ extra) :
    LowersVolume request client now bytes extra := by
  constructor
  case limited =>
    intro limited
    rw [afterOp_subTraffic, if_neg (by omega), totalOf_setTotal]
    omega
  case lowers =>
    rw [afterOp_subTraffic]
    split
    · exact le_rfl
    · rw [totalOf_setTotal]
      omega
  case together =>
    intro limited
    rw [@afterOp_subTraffic _ client now bytes,
      @afterOp_subTraffic _ client now (bytes + extra),
      if_neg (by omega), if_neg (by omega), afterOp_subTraffic,
      totalOf_setTotal, if_neg (by omega)]
    unfold setTotal
    rw [JsonObject.set_set]
    congr 2
    omega

theorem Clock.decode_eq_unlimited {expiry : Int} :
    decode expiry = unlimited ↔ expiry = 0 := by
  unfold decode
  split
  next zero => simp [zero]
  next some =>
    refine iff_of_false ?_ some
    split <;> exact Clock.noConfusion

theorem Clock.decode_eq_deadline {expiry time : Int} :
    decode expiry = deadline time ↔ 0 < expiry ∧ expiry = time := by
  unfold decode
  split
  next zero =>
    exact iff_of_false Clock.noConfusion (by omega)
  next =>
    split
    next positive => simp [positive]
    next negative =>
      exact iff_of_false Clock.noConfusion (by omega)

theorem Clock.decode_eq_delayed {expiry span : Int} :
    decode expiry = delayed span ↔ expiry < 0 ∧ -expiry = span := by
  unfold decode
  split
  next zero =>
    exact iff_of_false Clock.noConfusion (by omega)
  next some =>
    split
    next positive =>
      exact iff_of_false Clock.noConfusion (by omega)
    next negative =>
      have below : expiry < 0 := by omega
      simp [below]

/-- A deadline that comes sooner leaves less time. -/
theorem Clock.usable_deadline_le {sooner time : Int} (earlier : sooner ≤ time) :
    (deadline sooner).usable now ≤ (deadline time).usable now :=
  WithTop.coe_le_coe.mpr (by omega)

end Subtract

end VpnUi.Store
