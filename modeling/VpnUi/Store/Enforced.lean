import VpnUi.Store.Concurrent
import VpnUi.Store.Correspondence

namespace VpnUi.Store

open Foundation Panel

/-! The limits of the settings and the limits that are enforced. -/

/-- What a limit may be: the settings are also read into floating point numbers,
which hold these integers exactly. -/
def Exact (number : Int) : Prop := -2 ^ 53 ≤ number ∧ number ≤ 2 ^ 53

instance : DecidablePred Exact := fun number =>
  inferInstanceAs (Decidable (-2 ^ 53 ≤ number ∧ number ≤ 2 ^ 53))

def FormExact (settings : JsonText) : Prop :=
  ∀ client ∈ limits settings,
    Exact client.totalGB ∧ Exact client.expiryTime ∧ Exact client.reset

/-- The dates and volumes of the targets have room for the operation. -/
def BulkExact (request : BulkClientUpdateRequest) (now : Int)
    (database : Database) : Prop :=
  ∀ row ∈ database.inbounds, ∀ client, .obj client ∈ clientItems row →
    (row.id, emailOf client) ∈ request.targets →
      (expiryOf client).natAbs + (request.days * bulkMsPerDay).natAbs +
          now.natAbs ≤ 2 ^ 53 ∧
        (totalOf client).natAbs + request.amountBytes.natAbs ≤ 2 ^ 53

/-- The waiting and the renewable rows have room for a new expiry. -/
def PassExact (now : Int) (database : Database) : Prop :=
  0 ≤ now ∧ ∀ stat ∈ database.traffics,
    (stat.expiryTime < 0 → now - stat.expiryTime ≤ 2 ^ 53) ∧
      (isRenewable now stat = true →
        now + stat.reset * bulkMsPerDay ≤ 2 ^ 53)

instance (now : Int) (database : Database) :
    Decidable (PassExact now database) :=
  inferInstanceAs (Decidable (0 ≤ now ∧ ∀ stat ∈ database.traffics.rows, _))

/-- A client that stays with its inbound keeps its limits, for its row does. -/
def KeptLimits (old settings : JsonText) : Prop :=
  ∀ client ∈ limits settings, ∀ previous ∈ limits old,
    previous.email = client.email → client = previous

/-- When a call keeps the rows and the limits together. -/
def KeepsLimits (database : Database) (call : AccountCall × PanelHost) : Prop :=
  KeepsRows database call ∧
    match call.1 with
    | .request (.addInbound form _) => FormExact form.settings
    | .request (.updateInbound form) =>
        FormExact form.settings ∧
          ∀ old, database.inbounds.find? form.id = some old →
            KeptLimits old.settings form.settings
    | .request (.addInboundClient data) => FormExact data.settings
    | .request (.updateInboundClient data _) => FormExact data.settings
    | .request (.bulkUpdateClients request) =>
        BulkExact request call.2.now database
    | .request (.addTraffic _) => PassExact call.2.now database
    | .setByEmail _ (.expiryTime expiry) => Exact expiry
    | .setByEmail _ (.trafficLimit totalGB) =>
        Exact (totalGB * 1024 * 1024 * 1024)
    | _ => True

theorem renewExpiry_le {now period : Int} :
    ∀ (fuel : Nat) (expiry : Int), expiry ≤ now + period →
      renewExpiry now period fuel expiry ≤ now + period := by
  intro fuel
  induction fuel with
  | zero => exact fun expiry bounded => bounded
  | succ fuel induction =>
      intro expiry bounded
      rw [renewExpiry]
      split
      next early => exact induction _ (by omega)
      next => exact bounded

theorem le_renewExpiry {now period : Int} (positive : 0 < period) :
    ∀ (fuel : Nat) (expiry : Int),
      expiry ≤ renewExpiry now period fuel expiry := by
  intro fuel
  induction fuel with
  | zero => exact fun expiry => le_refl expiry
  | succ fuel induction =>
      intro expiry
      rw [renewExpiry]
      split
      next early =>
        exact (Int.le_add_of_nonneg_right positive.le).trans (induction _)
      next => exact le_refl expiry

theorem PassExact.fits {now : Int} {database : Database}
    (room : PassExact now database) :
    PassFits True now database.traffics.rows := by
  obtain ⟨clock, rows⟩ := room
  refine fun _ => ⟨clock, fun stat member => ?_⟩
  obtain ⟨starts, renews⟩ := rows stat member
  constructor
  · intro waiting
    have bound := starts waiting
    constructor <;> omega
  · intro renewable
    have bound := renews renewable
    simp only [isRenewable, Bool.and_eq_true, decide_eq_true_eq] at renewable
    have positive : 0 < stat.reset * bulkMsPerDay :=
      Int.mul_pos renewable.1.1 (by decide)
    have low := @le_renewExpiry now _ positive
      (now - stat.expiryTime).toNat stat.expiryTime
    have high := @renewExpiry_le now (stat.reset * bulkMsPerDay)
      (now - stat.expiryTime).toNat stat.expiryTime (by omega)
    unfold renewedExpiry
    constructor <;> omega

section Bulk

variable {request : BulkClientUpdateRequest} {client changed : JsonObject}
  {now : Int}

/-- The results of an operation with room fit. -/
theorem int64_applyBulkClientOp
    (applied : applyBulkClientOp client request now = some changed)
    (dates : (expiryOf client).natAbs + (request.days * bulkMsPerDay).natAbs +
      now.natAbs ≤ 2 ^ 53)
    (volumes : (totalOf client).natAbs + request.amountBytes.natAbs ≤ 2 ^ 53) :
    Json.Int64 (expiryOf changed) ∧ Json.Int64 (totalOf changed) := by
  unfold applyBulkClientOp at applied
  dsimp only at applied
  unfold Json.Int64
  repeat' split at applied
  all_goals
    first
    | cases applied
      done
    | obtain rfl := Option.some.inj applied
      simp only [expiryOf_setExpiry, expiryOf_setEnable, expiryOf_setTotal,
        totalOf_setTotal, totalOf_setExpiry, totalOf_setEnable, frozenNoExpiry]
      omega
    | obtain rfl := Option.some.inj applied
      omega

theorem number_eq_bulkNumToInt64 {json : Json}
    (fits : Json.Int64 (bulkNumToInt64 json)) :
    json.number.value = bulkNumToInt64 json := by
  cases json with
  | int number => exact number_int fits
  | _ => rfl

theorem matches_bulkResult {stat : ClientTraffic}
    (dates : (expiryOf client).natAbs + (request.days * bulkMsPerDay).natAbs +
      now.natAbs ≤ 2 ^ 53)
    (volumes : (totalOf client).natAbs + request.amountBytes.natAbs ≤ 2 ^ 53)
    (agreed : Matches True (limitsOf (.obj client)) stat) :
    Matches True (limitsOf (.obj (bulkResult request now client)))
      (bulkRow request now client stat) := by
  unfold bulkRow bulkResult
  by_cases skipped : bulkClientSkipped client request = true
  · rw [if_pos skipped, if_pos (.inl skipped)]
    exact agreed
  · cases applied : applyBulkClientOp client request now with
    | none =>
        rw [if_neg skipped, if_pos (.inr rfl)]
        exact agreed
    | some changed =>
        obtain ⟨expiryFits, totalFits⟩ :=
          int64_applyBulkClientOp applied dates volumes
        rw [if_neg skipped, if_neg (by simp [skipped])]
        intro _
        obtain ⟨-, -, reset⟩ := agreed trivial
        dsimp only
        rw [timeless_limitsOf _ _ _ (by decide), limitsOf_obj, bulkStat]
        simp (disch := decide) only [totalOf, expiryOf, JsonObject.get_set_ne]
        refine ⟨(number_eq_bulkNumToInt64 totalFits).symm,
          (number_eq_bulkNumToInt64 expiryFits).symm, ?_⟩
        rw [get_applyBulkClientOp (by decide) applied]
        exact reset

theorem BulkExact.fits {database : Database}
    (room : BulkExact request now database) :
    BulkFits (Matches True) request now database := by
  intro _ row stored client member targeted stat agreed
  obtain ⟨dates, volumes⟩ := room row stored client member targeted
  exact matches_bulkResult dates volumes agreed

end Bulk

/-- Each client with a row has its own limits in the row. -/
def LimitsEnforced (database : Database) : Prop :=
  ∀ inbound ∈ database.inbounds, ∀ client ∈ limits inbound.settings,
    ∀ stat ∈ database.traffics, stat.email = client.email →
      stat.total = client.totalGB ∧ stat.expiryTime = client.expiryTime ∧
        stat.reset = client.reset

instance (database : Database) : Decidable (LimitsEnforced database) :=
  inferInstanceAs (Decidable (∀ inbound ∈ database.inbounds.rows,
    ∀ client ∈ limits inbound.settings, ∀ stat ∈ database.traffics.rows, _))

theorem Mirrored.enforced {database : Database}
    (mirrored : Mirrored (Matches True) database) :
    LimitsEnforced database := by
  intro inbound stored client listed stat inTable named
  obtain ⟨other, otherIn, otherNamed, -, agreed⟩ :=
    (mirrored.covered inbound stored).row client listed
      (named ▸ mirrored.named stat inTable)
  obtain rfl := Table.eq_of_key_eq inTable otherIn
    (named.trans otherNamed.symm)
  exact agreed trivial

theorem KeepsLimits.keepsMatches {database : Database}
    {call : AccountCall × PanelHost} (keeps : KeepsLimits database call) :
    KeepsMatches True database call := by
  obtain ⟨call, host⟩ := call
  obtain ⟨-, fits⟩ := keeps
  cases call with
  | request request =>
      cases request with
      | updateInbound form =>
          intro old found client member previous previousMember same stat agreed
          rw [fits.2 old found client member previous previousMember same]
          exact agreed
      | bulkUpdateClients request => exact fits.fits
      | addTraffic batch => exact fits.fits
      | _ => trivial
  | _ => trivial

/-- An inbound whose only client may use so many bytes. -/
def limitedForm (id totalGB : Int) : StoredInbound :=
  { inboundForm [] with
    id := id
    settings := .parsed (.obj [("clients", .arr [.obj [("id", .str "ann"),
      ("email", .str "ann"), ("enable", .bool true),
      ("totalGB", .int totalGB)]])]) }

/-- The limit of an added client is raised, and some of it is used. -/
def limitRaised : List (AccountCall × PanelHost) :=
  [(.request (.addInbound (limitedForm 0 100) []), ⟨1000, 1, true, true⟩),
    (.setByEmail "ann" (.trafficLimit 1), noonHost),
    (.request (.addTraffic annBytes), noonHost)]

end VpnUi.Store
