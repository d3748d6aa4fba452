import VpnUi.Store.AddTraffic

namespace VpnUi.Store

open Foundation Panel

/-! The clients inside the stored settings, by their position, and the changes
that leave an account's limits alone. -/

/-- The items of the clients array; none where there is no array. -/
def clientItems (row : StoredInbound) : List Json :=
  match JsonObject.get row.settings.fields "clients" with
  | .arr items => items
  | _ => []

def clientOf (row : StoredInbound) (index : Nat) : Option JsonObject :=
  match (clientItems row)[index]? with
  | some (.obj client) => some client
  | _ => none

def clientAt (database : Database) (inboundId : Int) (index : Nat) :
    Option JsonObject :=
  (database.inbounds.find? inboundId).bind (clientOf · index)

/-- Two versions of a client with the same e-mail, limits and flag. -/
structure SameLimits (client other : JsonObject) : Prop where
  email : emailOf other = emailOf client
  expiry : expiryOf other = expiryOf client
  total : totalOf other = totalOf client
  enable : enableOf other = enableOf client

namespace SameLimits

variable {client other third : JsonObject}

theorem refl (client : JsonObject) : SameLimits client client :=
  ⟨rfl, rfl, rfl, rfl⟩

theorem trans (first : SameLimits client other)
    (second : SameLimits other third) : SameLimits client third where
  email := second.email.trans first.email
  expiry := second.expiry.trans first.expiry
  total := second.total.trans first.total
  enable := second.enable.trans first.enable

/-- Any field but the four may be set. -/
theorem set {key : String} (value : Json)
    (free : key ∉ ["email", "expiryTime", "totalGB", "enable"]) :
    SameLimits client (JsonObject.set client key value) := by
  simp only [List.mem_cons, List.not_mem_nil, or_false, not_or] at free
  obtain ⟨email, expiry, total, enable⟩ := free
  constructor
  · simp only [emailOf, JsonObject.get_set_ne (Ne.symm email)]
  · simp only [expiryOf, JsonObject.get_set_ne (Ne.symm expiry)]
  · simp only [totalOf, JsonObject.get_set_ne (Ne.symm total)]
  · simp only [enableOf, JsonObject.get_set_ne (Ne.symm enable)]

theorem setStamp (now : Int) : SameLimits client (setStamp now client) := by
  unfold Store.setStamp
  have created : SameLimits client
      (if (JsonObject.get? client "created_at").isSome then client
        else JsonObject.set client "created_at" (.int now)) := by
    split
    · exact refl client
    · exact set _ (by decide)
  exact created.trans (set _ (by decide))

theorem skipped (same : SameLimits client other)
    (request : BulkClientUpdateRequest) :
    bulkClientSkipped other request = bulkClientSkipped client request := by
  simp only [bulkClientSkipped, same.expiry, same.total, same.enable]

end SameLimits

section Fields

variable (client : JsonObject) (expiry : Int) (enable : Bool)

@[simp] theorem expiryOf_setExpiry : expiryOf (setExpiry client expiry) =
    expiry := by
  simp [expiryOf, setExpiry, JsonObject.get_set_self, bulkNumToInt64]

@[simp] theorem enableOf_setExpiry : enableOf (setExpiry client expiry) =
    enableOf client := by
  simp (disch := decide) only [enableOf, setExpiry, JsonObject.get_set_ne]

@[simp] theorem emailOf_setExpiry : emailOf (setExpiry client expiry) =
    emailOf client := by
  simp (disch := decide) only [emailOf, setExpiry, JsonObject.get_set_ne]

@[simp] theorem enableOf_setEnable : enableOf (setEnable client enable) =
    enable := by
  simp [enableOf, setEnable, JsonObject.get_set_self, flagOf]

@[simp] theorem expiryOf_setEnable : expiryOf (setEnable client enable) =
    expiryOf client := by
  simp (disch := decide) only [expiryOf, setEnable, JsonObject.get_set_ne]

@[simp] theorem emailOf_setEnable : emailOf (setEnable client enable) =
    emailOf client := by
  simp (disch := decide) only [emailOf, setEnable, JsonObject.get_set_ne]

theorem expiryOf_setTotal (total : Int) :
    expiryOf (setTotal client total) = expiryOf client := by
  simp (disch := decide) only [expiryOf, setTotal, JsonObject.get_set_ne]

theorem totalOf_setTotal (total : Int) :
    totalOf (setTotal client total) = total := by
  simp only [totalOf, setTotal, JsonObject.get_set_self, bulkNumToInt64]

theorem totalOf_setExpiry (expiry : Int) :
    totalOf (setExpiry client expiry) = totalOf client := by
  simp (disch := decide) only [totalOf, setExpiry, JsonObject.get_set_ne]

theorem totalOf_setEnable (enable : Bool) :
    totalOf (setEnable client enable) = totalOf client := by
  simp (disch := decide) only [totalOf, setEnable, JsonObject.get_set_ne]

end Fields

theorem clientItems_withItems (row : StoredInbound) (items : List Json) :
    clientItems (withItems row (.arr items)) = items := by
  simp [clientItems, withItems, JsonText.fields, JsonText.object?,
    JsonObject.get_set_self]

theorem clientItems_withItems_slice (row : StoredInbound)
    (items : List Json) :
    clientItems (withItems row (sliceJson items)) = items := by
  cases items with
  | nil =>
      simp [clientItems, withItems, JsonText.fields, JsonText.object?,
        JsonObject.get_set_self, sliceJson]
  | cons item items => exact clientItems_withItems row (item :: items)

theorem clientOf_eq_some {row : StoredInbound} {index : Nat}
    {client : JsonObject} :
    clientOf row index = some client ↔
      (clientItems row)[index]? = some (.obj client) := by
  unfold clientOf
  split
  next other found => simp [found]
  next absent =>
    constructor
    · intro impossible
      cases impossible
    · intro found
      exact absurd found (absent client)

theorem clientAt_eq_some {database : Database} {inboundId : Int}
    {index : Nat} {client : JsonObject} :
    clientAt database inboundId index = some client ↔
      ∃ row, database.inbounds.find? inboundId = some row ∧
        (clientItems row)[index]? = some (.obj client) := by
  simp only [clientAt, Option.bind_eq_some_iff, clientOf_eq_some]

theorem clientAt_save {database : Database} {row : StoredInbound}
    {index : Nat} :
    clientAt { database with inbounds := database.inbounds.save row } row.id
      index = clientOf row index := by
  rw [clientAt, Table.find?_save_self, Option.bind_some]

def annClient (expiry : Int) : JsonObject :=
  [("id", .str "ann"), ("email", .str "ann"), ("expiryTime", .int expiry),
    ("totalGB", .int 0), ("enable", .bool true)]

/-- One inbound with one client, enabled and with this expiry. -/
def annDatabase (expiry : Int) : Database where
  inbounds := Table.empty.save {
    id := 1
    listen := ""
    port := 443
    protocol := .vless
    settings := .parsed (.obj [("clients", .arr [.obj (annClient expiry)])])
    enable := true
    tag := "inbound-443"
    up := 0
    down := 0
    allTime := 0
    total := 0
    expiryTime := 0 }
  traffics := Table.empty.save ⟨1, "ann", true, 0, 0, 0, expiry, 0, 0, 0⟩
  ips := Table.empty

/-- A form that adds this client to the first inbound. -/
def formFor (name : String) : Inbound where
  id := 1
  listen := ""
  port := 443
  protocol := .vless
  settings := .parsed (.obj [("clients", .arr [.obj [("id", .str name),
    ("email", .str name), ("enable", .bool true)]])])
  enable := true
  tag := "inbound-443"

def noonHost : PanelHost := ⟨1000, 2, true, true⟩

end VpnUi.Store
