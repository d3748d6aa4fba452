import VpnUi.Foundation.Fields
import VpnUi.Foundation.Float64
import VpnUi.Store.Database

namespace VpnUi.Store

open Foundation Panel

/-! The migration of the inbounds and of the traffic rows at an upgrade. -/

/-- A row of the inbounds with its stream settings. -/
structure UpgradeRow extends StoredInbound where
  streamSettings : JsonText

abbrev UpgradeRows := Table fun row : UpgradeRow => row.id

/-- The keys of the inbounds count up from 1. -/
structure UpgradeDb where
  inbounds : UpgradeRows
  keyed : ∀ row ∈ inbounds, row.id ≠ 0
  traffics : Table ClientTraffic.email

namespace UpgradeDb

/-- Change the inbounds except in their ids. -/
def mapInbounds (db : UpgradeDb) (apply : UpgradeRow → UpgradeRow)
    (keeps : ∀ row, (apply row).id = row.id) : UpgradeDb where
  inbounds := db.inbounds.mapRows apply keeps
  keyed := by
    intro row member
    obtain ⟨old, stored, rfl⟩ := Table.mem_mapRows.mp member
    rw [keeps]
    exact db.keyed old stored
  traffics := db.traffics

def withTraffics (db : UpgradeDb) (traffics : Table ClientTraffic.email) :
    UpgradeDb :=
  { db with traffics := traffics }

end UpgradeDb

/-- The three protocols that the migration is about. -/
def UpgradeRow.migrates (row : UpgradeRow) : Bool :=
  row.protocol = .vmess || row.protocol = .vless || row.protocol = .trojan

/-! The totals of all time. -/

def backfilled (allTime up down : Int) : Int :=
  if allTime = 0 ∧ 0 < up + down then up + down else allTime

def backfillStat (stat : ClientTraffic) : ClientTraffic :=
  { stat with allTime := backfilled stat.allTime stat.up stat.down }

def backfillRow (row : UpgradeRow) : UpgradeRow :=
  { row with allTime := backfilled row.allTime row.up row.down }

def backfillAllTime (db : UpgradeDb) : UpgradeDb :=
  (db.mapInbounds backfillRow fun _ => rfl).withTraffics
    (db.traffics.mapRows backfillStat fun _ => rfl)

/-! The repair of the clients. -/

section Client

variable (now : Int) (client : JsonObject)

def addEmail : JsonObject :=
  if (client.get? "email").isSome then client
  else client.set "email" (.str "")

def parseTgId (text : String) : Option Int :=
  (Address.atoi? (text.toList.filter (· ≠ ' '))).filter (Json.Int64 ·)

def convertTgId : JsonObject :=
  match client.get? "tgId" with
  | some (.str text) =>
      match parseTgId text with
      | some tgId => client.set "tgId" (.int tgId)
      | none => client
  | _ => client

def dropDirectFlow : JsonObject :=
  if Json.isText (client.get? "flow") "xtls-rprx-direct" then
    client.set "flow" (.str "")
  else client

def stampRepaired : JsonObject :=
  let client :=
    if (client.get? "created_at").isSome then client
    else client.set "created_at" (.int now)
  client.set "updated_at" (.int now)

def repairClient : JsonObject :=
  stampRepaired now (dropDirectFlow (convertTgId (addEmail client)))

end Client

section Keys

variable {now : Int} {client : JsonObject} {key : String}

theorem get?_addEmail_self :
    (addEmail client).get? "email" =
      some ((client.get? "email").getD (.str "")) := by
  unfold addEmail
  cases found : client.get? "email" with
  | some email => simpa using found
  | none => simp

theorem get?_addEmail_ne (other : key ≠ "email") :
    (addEmail client).get? key = client.get? key := by
  unfold addEmail
  split
  · rfl
  · exact JsonObject.get?_set_ne other

theorem get?_convertTgId_ne (other : key ≠ "tgId") :
    (convertTgId client).get? key = client.get? key := by
  unfold convertTgId
  split
  · split
    · exact JsonObject.get?_set_ne other
    · rfl
  · rfl

theorem get?_dropDirectFlow_ne (other : key ≠ "flow") :
    (dropDirectFlow client).get? key = client.get? key := by
  unfold dropDirectFlow
  split
  · exact JsonObject.get?_set_ne other
  · rfl

theorem get?_stampRepaired_ne (created : key ≠ "created_at")
    (updated : key ≠ "updated_at") :
    (stampRepaired now client).get? key = client.get? key := by
  unfold stampRepaired
  dsimp only
  rw [JsonObject.get?_set_ne updated]
  split
  · rfl
  · exact JsonObject.get?_set_ne created

theorem get?_repairClient_email :
    (repairClient now client).get? "email" =
      some ((client.get? "email").getD (.str "")) := by
  unfold repairClient
  rw [get?_stampRepaired_ne (by decide) (by decide),
    get?_dropDirectFlow_ne (by decide), get?_convertTgId_ne (by decide),
    get?_addEmail_self]

end Keys

/-- The loop over the clients; one that is no object is a panic.  No clients are
encoded as null. -/
def repairClients (now : Int) (items : List Json) : Option Json :=
  (items.mapM Json.object?).map fun clients =>
    if clients = [] then .null
    else .arr (clients.map fun client => .obj (repairClient now client))

/-- The settings pass through a decoding into `any`. -/
def repairSettings (now : Int) (settings : JsonText) : Option JsonText :=
  match settings.fields.get "clients" with
  | .arr items =>
      (repairClients now (viaFloatItems items)).map fun clients =>
        .parsed (.obj (JsonObject.set (viaFloatFields settings.fields) "clients"
          clients))
  | _ => some settings

/-- What `tx.Save` stores of a row that was repaired. -/
def UpgradeRow.repaired (now : Int) (row : UpgradeRow) : UpgradeRow :=
  if row.migrates then
    { row with settings := (repairSettings now row.settings).getD row.settings }
  else row

theorem UpgradeRow.repaired_id (now : Int) (row : UpgradeRow) :
    (row.repaired now).id = row.id := by
  unfold UpgradeRow.repaired
  split <;> rfl

/-! The rows of the clients. -/

abbrev Traffics := Table ClientTraffic.email

def addMissingStat (inboundId : Int) (traffics : Traffics) (client : Client) :
    Traffics :=
  if client.email = "" ∨ (traffics.find? client.email).isSome then traffics
  else traffics.save (clientStat inboundId client)

def addMissingStats (inboundId : Int) (clients : List Client)
    (traffics : Traffics) : Traffics :=
  clients.foldl (addMissingStat inboundId) traffics

/-- How the loop over the inbounds ends: settings that are null leave the
function, with its work so far committed. -/
inductive LoopEnd
  | finished
  | stopped
  | panicked
  deriving DecidableEq

def fixInbounds (now : Int) : List UpgradeRow → Traffics → LoopEnd × Traffics
  | [], traffics => (.finished, traffics)
  | row :: rows, traffics =>
      match repairSettings now row.settings with
      | none => (.panicked, traffics)
      | some settings =>
          match getClients settings with
          | none => (.stopped, traffics)
          | some clients =>
              fixInbounds now rows (addMissingStats row.id clients traffics)

/-! The domains of the TLS settings. -/

/-- The object under a key. -/
def child (object : JsonObject) (key : String) : Option JsonObject :=
  (object.get? key).bind Json.object?

def notNull : Json → Option Json
  | .null => none
  | json => some json

/-- `$.tlsSettings.settings.domains`. -/
def domainsOf (stream : JsonObject) : Option Json := do
  let tlsSettings ← child stream "tlsSettings"
  let settings ← child tlsSettings "settings"
  let domains ← settings.get? "domains"
  notNull domains

def UpgradeRow.multiDomain (row : UpgradeRow) : Bool :=
  row.migrates &&
    Json.isText (row.streamSettings.fields.get? "security") "tls" &&
      (domainsOf row.streamSettings.fields).isSome

/-- A domain that is no text is a panic; what is no object stays. -/
def convertDomain (port : Int) : Json → Option Json
  | .obj fields =>
      match JsonObject.get? fields "domain" with
      | some (.str domain) =>
          some (.obj (JsonObject.remove (JsonObject.set (JsonObject.set
            (JsonObject.set fields "forceTls" (.str "same")) "port" (.int port))
              "dest" (.str domain)) "domain"))
      | _ => none
  | item => some item

def convertDomains (port : Int) : Json → Option Json
  | .arr items => (items.mapM (convertDomain port)).map .arr
  | domains => some domains

/-- Without TLS settings the external proxies are nil. -/
def convertStream (port : Int) (stream : JsonObject) : Option JsonObject :=
  match child stream "tlsSettings" with
  | none => some (stream.set "externalProxy" .null)
  | some tlsSettings =>
      match child tlsSettings "settings" with
      | none => some (stream.set "externalProxy" .null)
      | some settings =>
          (convertDomains port (settings.get "domains")).map fun reverses =>
            (stream.set "tlsSettings" (.obj (tlsSettings.set "settings"
              (.obj (settings.remove "domains"))))).set "externalProxy" reverses

def UpgradeRow.convert (row : UpgradeRow) : Option UpgradeRow :=
  (convertStream row.port (viaFloatFields row.streamSettings.fields)).map
    fun stream => { row with streamSettings := .parsed (.obj stream) }

def UpgradeRow.converted (row : UpgradeRow) : UpgradeRow :=
  { row with
    streamSettings :=
      (row.convert.map UpgradeRow.streamSettings).getD row.streamSettings }

/-- The rows that are updated before the first panic. -/
def convertible (rows : List UpgradeRow) : List UpgradeRow :=
  rows.takeWhile fun row => row.convert.isSome

/-! The migration. -/

inductive Exit
  | returned
  | panicked
  deriving DecidableEq

/-- The statement on the tags is built and never run. -/
def convertMultiDomain (db : UpgradeDb) : UpgradeDb × Exit :=
  let rows := db.inbounds.rows.filter UpgradeRow.multiDomain
  let done := convertible rows
  let db := db.mapInbounds (fun row =>
    if done.any (·.id = row.id) then row.converted else row)
      fun row => by split <;> rfl
  (db, if done.length = rows.length then .returned else .panicked)

/-- The transaction, all of whose statements succeed. -/
def migrationRequirements (now : Int) (db : UpgradeDb) : UpgradeDb × Exit :=
  let db := backfillAllTime db
  let (ending, traffics) := fixInbounds now
    (db.inbounds.rows.filter UpgradeRow.migrates) db.traffics
  match ending with
  | .panicked => (db.withTraffics traffics, .panicked)
  | .stopped => (db.withTraffics traffics, .returned)
  | .finished =>
      convertMultiDomain
        ((db.mapInbounds (UpgradeRow.repaired now)
            (UpgradeRow.repaired_id now)).withTraffics
          (traffics.filter (·.inboundId ≠ 0)))

/-! Orphaned rows. -/

/-- The e-mails of the clients as SQL extracts them, some of which are NULL. -/
def emailCells (row : UpgradeRow) : List (Option String) :=
  ((jsonEach (row.settings.fields.get "clients")).getD []).map
    (jsonColumn "email")

/-- `NOT IN` is only true where no cell is NULL. -/
def notIn (email : String) (cells : List (Option String)) : Bool :=
  cells.all fun cell => cell.isSome && cell ≠ some email

def migrationRemoveOrphanedTraffics (db : UpgradeDb) : UpgradeDb :=
  db.withTraffics (db.traffics.filter fun stat =>
    !notIn stat.email (db.inbounds.rows.flatMap emailCells))

/-- After a panic nothing follows. -/
def migrateDB (now : Int) (db : UpgradeDb) : UpgradeDb × Exit :=
  match migrationRequirements now db with
  | (db, .returned) => (migrationRemoveOrphanedTraffics db, .returned)
  | (db, .panicked) => (db, .panicked)

end VpnUi.Store
