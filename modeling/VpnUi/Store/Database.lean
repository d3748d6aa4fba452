import Mathlib.Data.String.Basic
import VpnUi.Foundation.Script
import VpnUi.Panel.Operations

namespace VpnUi.Store

open Foundation Panel

/-! The three tables that hold the accounts, and the statements of the inbound
service on them. -/

/-- A sum or a product of 64-bit numbers. -/
def wrap64 (number : Int) : Int := number.bmod (2 ^ 64)

theorem int64_wrap64 (number : Int) : Json.Int64 (wrap64 number) := by
  have low := @Int.le_bmod number (2 ^ 64) (by decide)
  have high := @Int.bmod_lt number (2 ^ 64) (by decide)
  unfold wrap64
  constructor <;> omega

theorem wrap64_eq_self {number : Int} (fits : Json.Int64 number) :
    wrap64 number = number := by
  obtain ⟨low, high⟩ := fits
  apply Int.bmod_eq_of_le <;> omega

/-- A row of the inbounds table with its counters and limits. -/
structure StoredInbound extends Inbound where
  up : Int
  down : Int
  allTime : Int
  total : Int
  expiryTime : Int

/-- A row of client_traffics. -/
structure ClientTraffic where
  inboundId : Int
  email : String
  enable : Bool
  up : Int
  down : Int
  allTime : Int
  expiryTime : Int
  total : Int
  reset : Int
  lastOnline : Int
  deriving DecidableEq

/-- A row of inbound_client_ips. -/
structure ClientIps where
  clientEmail : String
  ips : String
  deriving DecidableEq

abbrev StoredInbounds := Table fun row : StoredInbound => row.id

/-- The e-mails are unique in both of the other tables. -/
structure Database where
  inbounds : StoredInbounds
  traffics : Table ClientTraffic.email
  ips : Table ClientIps.clientEmail

/-- The rows as the checks of the service see them. -/
def StoredInbounds.view (inbounds : StoredInbounds) : Inbounds where
  rows := inbounds.rows.map StoredInbound.toInbound
  sorted := List.pairwise_map.mpr inbounds.sorted

theorem find?_view {inbounds : StoredInbounds} {id : Int} :
    inbounds.view.find? id =
      (inbounds.find? id).map StoredInbound.toInbound :=
  List.find?_map

namespace Database

/-- Save a row under the unique index of the tags. -/
def saveInbound (database : Database) (row : StoredInbound) :
    Option Database :=
  if database.inbounds.rows.any fun other =>
      other.id ≠ row.id && other.tag = row.tag then none
  else some { database with inbounds := database.inbounds.save row }

theorem saveInbound_eq_some {before next : Database} {row : StoredInbound}
    (saved : Database.saveInbound before row = some next) :
    next = { before with inbounds := before.inbounds.save row } := by
  unfold Database.saveInbound at saved
  split at saved
  · cases saved
  · exact (Option.some.inj saved).symm

def deleteInbound (database : Database) (id : Int) : Database :=
  { database with inbounds := database.inbounds.delete id }

/-- `tx.Create` of a row. -/
def createStat (database : Database) (row : ClientTraffic) :
    Option Database :=
  if (database.traffics.find? row.email).isSome then none
  else some { database with traffics := database.traffics.save row }

theorem createStat_eq_some {database after : Database} {row : ClientTraffic} :
    database.createStat row = some after ↔
      database.traffics.find? row.email = none ∧
        after = { database with traffics := database.traffics.save row } := by
  unfold createStat
  cases database.traffics.find? row.email <;> simp [eq_comm]

/-- `DelClientStat`. -/
def delClientStat (database : Database) (email : String) : Database :=
  { database with traffics := database.traffics.delete email }

def deleteStatsOf (database : Database) (inboundId : Int) : Database :=
  { database with
    traffics := database.traffics.filter (·.inboundId ≠ inboundId) }

/-- An update of the row with an e-mail, which may rename it. -/
def updateStat (database : Database) (email : String)
    (update : ClientTraffic → ClientTraffic) : Option Database :=
  match database.traffics.find? email with
  | none => some database
  | some row =>
      let updated := update row
      if updated.email ≠ email ∧
          (database.traffics.find? updated.email).isSome then none
      else some { database with
        traffics := (database.traffics.delete email).save updated }

/-- `DelClientIPs`. -/
def delClientIPs (database : Database) (email : String) : Database :=
  { database with ips := database.ips.delete email }

/-- `UpdateClientIPs`. -/
def updateClientIPs (database : Database) (oldEmail newEmail : String) :
    Option Database :=
  match database.ips.find? oldEmail with
  | none => some database
  | some row =>
      if newEmail ≠ oldEmail ∧ (database.ips.find? newEmail).isSome then none
      else some { database with
        ips := (database.ips.delete oldEmail).save
          { row with clientEmail := newEmail } }

end Database

/-- The row `AddClientStat` creates. -/
def clientStat (inboundId : Int) (client : Client) : ClientTraffic where
  inboundId := inboundId
  email := client.email
  enable := client.enable
  up := 0
  down := 0
  allTime := 0
  expiryTime := client.expiryTime
  total := client.totalGB
  reset := client.reset
  lastOnline := 0

/-- The columns `UpdateClientStat` sets. -/
def updateClientStat (client : Client) (row : ClientTraffic) : ClientTraffic :=
  { row with
    enable := client.enable
    email := client.email
    total := client.totalGB
    expiryTime := client.expiryTime
    reset := client.reset }

end VpnUi.Store
