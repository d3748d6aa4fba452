import VpnUi.Panel.Checked
import VpnUi.Store.Database

namespace VpnUi.Store

open Foundation Panel

/-! The bulk operations on many clients of many inbounds. -/

inductive RequestError
  | panel (error : PanelError)
  | unknownOperation (name : String)
  | emailNotFound (email : String)
  | invalidClients
  | noInboundForEmail (email : String)
  | noClientForEmail (email : String)

def RequestError.text : RequestError → String
  | panel error => error.text
  | unknownOperation name => "unknown bulk operation: " ++ name ++ "\n"
  | emailNotFound email => "client with email " ++ email ++ " not found\n"
  | invalidClients => "invalid clients format in inbound settings\n"
  | noInboundForEmail email => "Inbound Not Found For Email: " ++ email ++ "\n"
  | noClientForEmail email =>
      "Client Not Found In Inbound For Email: " ++ email ++ "\n"

abbrev Statement := Call Database RequestError

def write (onError : OnError) (effect : Database → Option Database) :
    Statement :=
  ⟨effect, onError, .panel .database, true⟩

/-- A statement on rows that may be absent. -/
def writeRows (onError : OnError) (effect : Database → Database) : Statement :=
  write onError fun database => some (effect database)

/-- The request ends here. -/
def fail (onError : OnError) (error : RequestError) : Statement :=
  ⟨fun _ => none, onError, error, false⟩

inductive BulkOp
  | addDays
  | subDays
  | addTraffic
  | subTraffic
  | enable
  | disable
  | delete
  | freeze
  | unfreeze
  | unknown (name : String)
  deriving DecidableEq

structure BulkClientUpdateRequest where
  op : BulkOp
  days : Int
  amountBytes : Int
  skipFirstUse : Bool
  skipUnlimited : Bool
  skipDisabled : Bool
  targets : List (Int × String)

def bulkMsPerDay : Int := 86400000

/-- Marks a frozen account that had no expiry. -/
def frozenNoExpiry : Int := -1

def bulkNumToInt64 : Json → Int
  | .int number => number
  | _ => 0

/-- The two-value type assertion to a flag. -/
def flagOf : Json → Bool
  | .bool value => value
  | _ => false

def textOf : Json → String
  | .str text => text
  | _ => ""

section Client

variable (client : JsonObject)

def expiryOf : Int := bulkNumToInt64 (JsonObject.get client "expiryTime")

def totalOf : Int := bulkNumToInt64 (JsonObject.get client "totalGB")

def enableOf : Bool := flagOf (JsonObject.get client "enable")

def emailOf : String := textOf (JsonObject.get client "email")

def setExpiry (expiry : Int) : JsonObject :=
  JsonObject.set client "expiryTime" (.int expiry)

def setTotal (total : Int) : JsonObject :=
  JsonObject.set client "totalGB" (.int total)

def setEnable (enable : Bool) : JsonObject :=
  JsonObject.set client "enable" (.bool enable)

def bulkClientSkipped (request : BulkClientUpdateRequest) : Bool :=
  (request.skipFirstUse && expiryOf client < 0) ||
    (request.skipDisabled && !enableOf client) ||
    (request.skipUnlimited &&
      match request.op with
      | .addDays | .subDays => expiryOf client = 0
      | _ => totalOf client = 0)

/-- The changed client, or nothing for a no-op. -/
def applyBulkClientOp (request : BulkClientUpdateRequest) (now : Int) :
    Option JsonObject :=
  let expiry := expiryOf client
  let total := totalOf client
  match request.op with
  | .freeze =>
      if !enableOf client && expiry < 0 then none
      else
        let locked :=
          if 0 < expiry then setExpiry client (now - expiry)
          else if expiry = 0 then setExpiry client frozenNoExpiry
          else client
        some (setEnable locked false)
  | .unfreeze =>
      if enableOf client then none
      else
        let resumed :=
          if expiry = frozenNoExpiry then setExpiry client 0
          else if expiry < 0 then setExpiry client (now - expiry)
          else client
        some (setEnable resumed true)
  | .addDays =>
      let span := request.days * bulkMsPerDay
      some (setExpiry client (
        if 0 < expiry then expiry + span
        else if expiry < 0 then expiry - span
        else now + span))
  | .subDays =>
      let span := request.days * bulkMsPerDay
      if expiry = 0 then none
      else
        some (setExpiry client (
          if 0 < expiry then expiry - span else min (expiry + span) 0))
  | .addTraffic => some (setTotal client (total + request.amountBytes))
  | .subTraffic =>
      if total ≤ 0 then none
      else some (setTotal client (max (total - request.amountBytes) 1))
  | .enable => if enableOf client then none else some (setEnable client true)
  | .disable => if enableOf client then some (setEnable client false) else none
  | .delete | .unknown _ => some client

/-- The columns of client_traffics a bulk operation keeps in step. -/
def bulkStat (row : ClientTraffic) : ClientTraffic :=
  { row with
    enable := enableOf client
    total := totalOf client
    expiryTime := expiryOf client }

end Client

/-- One client of the loop: what it becomes, and the statement on its row. -/
def bulkItem (request : BulkClientUpdateRequest) (emails : List String)
    (now : Int) : Json → Json × List Statement
  | .obj client =>
      let email := emailOf client
      if email = "" ∨ email ∉ emails ∨ bulkClientSkipped client request then
        (.obj client, [])
      else
        match applyBulkClientOp client request now with
        | none => (.obj client, [])
        | some changed =>
            let updated := JsonObject.set changed "updated_at" (.int now)
            (.obj updated, [write .rolledBack
              (Database.updateStat · email (bulkStat updated))])
  | item => (item, [])

/-- The e-mails of the clients to delete. -/
def bulkDeleted (request : BulkClientUpdateRequest) (emails : List String)
    (items : List Json) : List String :=
  (items.filterMap fun item =>
    match item with
    | .obj client =>
        let email := emailOf client
        if email = "" ∨ email ∉ emails ∨ bulkClientSkipped client request then
          none
        else some email
    | _ => none).eraseDups

def isObject : Json → Bool
  | .obj _ => true
  | _ => false

/-- An inbound is not emptied: one of the e-mails is spared, in the source the
one a Go map yields first. -/
def bulkSpared (items : List Json) (deleted : List String) : List String :=
  let total := items.countP isObject
  if 0 < total ∧ total ≤ deleted.length then deleted.tail else deleted

def itemEmail : Json → String
  | .obj client => emailOf client
  | _ => ""

def bulkDelete (request : BulkClientUpdateRequest) (emails : List String)
    (items : List Json) : List Json × List Statement :=
  let deleted := bulkSpared items (bulkDeleted request emails items)
  let drops := fun item => itemEmail item ≠ "" && itemEmail item ∈ deleted
  (items.filter fun item => !drops item,
    (items.filter drops).flatMap fun item =>
      [writeRows .rolledBack (Database.delClientStat · (itemEmail item)),
        writeRows .rolledBack (Database.delClientIPs · (itemEmail item))])

/-- A nil slice is stored as null. -/
def sliceJson : List Json → Json
  | [] => .null
  | items => .arr items

/-- The clients of one inbound and the statements on their rows. -/
def bulkClients (request : BulkClientUpdateRequest) (emails : List String)
    (now : Int) (items : List Json) : List Json × List Statement :=
  if request.op = .delete then bulkDelete request emails items
  else
    ((items.map fun item => (bulkItem request emails now item).1),
      items.flatMap fun item => (bulkItem request emails now item).2)

/-- The statements for one inbound. -/
def bulkInbound (request : BulkClientUpdateRequest) (now : Int)
    (database : Database) (inboundId : Int) (emails : List String) :
    List Statement :=
  match database.inbounds.find? inboundId with
  | none => [fail .rolledBack (.panel .notFound)]
  | some row =>
      match row.settings.object? with
      | none => [fail .rolledBack (.panel .malformedSettings)]
      | some object =>
          let fields := object.getD []
          match JsonObject.get fields "clients" with
          | .arr items =>
              let (changed, statements) :=
                bulkClients request emails now items
              if statements = [] then []
              else
                statements ++ [write .rolledBack (Database.saveInbound · {
                  row with
                  settings := .parsed (.obj (JsonObject.set fields "clients"
                    (if request.op = .delete then sliceJson changed
                    else .arr changed))) })]
          | _ => []

/-- The targets by inbound, in the order of a Go map. -/
def byInbound (targets : List (Int × String)) : List (Int × List String) :=
  let given := targets.filter (·.2 ≠ "")
  (given.map Prod.fst).eraseDups.map fun inboundId =>
    (inboundId, (given.filter (·.1 = inboundId)).map Prod.snd)

def bulkUpdateClients (request : BulkClientUpdateRequest) (now : Int)
    (database : Database) : List Statement :=
  match request.op with
  | .unknown name => [fail .rolledBack (.unknownOperation name)]
  | _ =>
      (byInbound request.targets).flatMap fun (inboundId, emails) =>
        bulkInbound request now database inboundId emails

end VpnUi.Store
