import VpnUi.Store.Bulk

namespace VpnUi.Store

open Foundation Panel

/-! The periodic traffic pass: counters, delayed starts, renewals, and the
disabling of depleted clients and inbounds. -/

structure InboundTraffic where
  isInbound : Bool
  tag : String
  up : Int
  down : Int

structure ClientBytes where
  email : String
  up : Int
  down : Int

/-- The counters of the row with this tag. -/
def countInbound (traffic : InboundTraffic) (row : StoredInbound) :
    StoredInbound :=
  if row.tag = traffic.tag then
    { row with
      up := row.up + traffic.up
      down := row.down + traffic.down
      allTime := row.allTime + (traffic.up + traffic.down) }
  else row

theorem countInbound_toInbound (traffic : InboundTraffic)
    (row : StoredInbound) :
    (countInbound traffic row).toInbound = row.toInbound := by
  unfold countInbound
  split <;> rfl

def Database.countInbound (database : Database) (traffic : InboundTraffic) :
    Database :=
  { database with
    inbounds := database.inbounds.mapRows (Store.countInbound traffic)
      fun row => by rw [countInbound_toInbound] }

def addInboundTraffic (traffics : List InboundTraffic) : List Statement :=
  (traffics.filter InboundTraffic.isInbound).map fun traffic =>
    writeRows .rolledBack (Database.countInbound · traffic)

def setStamp (now : Int) (client : JsonObject) : JsonObject :=
  let created :=
    if (JsonObject.get? client "created_at").isSome then client
    else JsonObject.set client "created_at" (.int now)
  JsonObject.set created "updated_at" (.int now)

/-- The asserted number of a field, if it is one. -/
def number? : Json → Option Int
  | .int number => some number
  | .real _ => some 0
  | _ => none

/-- A row whose clock starts with the first use of its account. -/
def startsFor (client : JsonObject) (row : ClientTraffic) : Bool :=
  row.expiryTime < 0 && JsonObject.get client "email" matches .str _ &&
    emailOf client = row.email

/-- One client of `adjustTraffics`: the clock of the first waiting row with its
e-mail is started.  A failed assertion is a panic. -/
def adjustClient (now : Int) (rows : List ClientTraffic)
    (client : JsonObject) : Option (JsonObject × List ClientTraffic) :=
  match rows.find? (startsFor client) with
  | none => some (setStamp now client, rows)
  | some row =>
      (number? (JsonObject.get client "expiryTime")).map fun old =>
        (setStamp now (setExpiry client (now - old)),
          rows.map fun other =>
            if other.email = row.email then
              { other with expiryTime := now - old }
            else other)

def adjustItems (now : Int) :
    List Json → List ClientTraffic → Option (List Json × List ClientTraffic)
  | [], rows => some ([], rows)
  | .obj client :: items, rows => do
      let (adjusted, rows) ← adjustClient now rows client
      let (items, rows) ← adjustItems now items rows
      some (.obj adjusted :: items, rows)
  | _ :: _, _ => none

def withItems (row : StoredInbound) (clients : Json) : StoredInbound :=
  { row with
    settings := .parsed (.obj
      (JsonObject.set row.settings.fields "clients" clients)) }

def adjustInbound (now : Int) (row : StoredInbound)
    (rows : List ClientTraffic) :
    Option (StoredInbound × List ClientTraffic) :=
  match JsonObject.get row.settings.fields "clients" with
  | .arr items =>
      (adjustItems now items rows).map fun (items, rows) =>
        (withItems row (sliceJson items), rows)
  | _ => some (row, rows)

def adjustInbounds (now : Int) :
    List StoredInbound → List ClientTraffic →
      Option (List StoredInbound × List ClientTraffic)
  | [], rows => some ([], rows)
  | row :: inbounds, rows => do
      let (adjusted, rows) ← adjustInbound now row rows
      let (inbounds, rows) ← adjustInbounds now inbounds rows
      some (adjusted :: inbounds, rows)

/-- The inbounds of the waiting rows and the rows themselves, started. -/
def adjustTraffics (now : Int) (database : Database)
    (rows : List ClientTraffic) :
    Option (List StoredInbound × List ClientTraffic) :=
  let inboundIds := (rows.filter (·.expiryTime < 0)).map ClientTraffic.inboundId
  adjustInbounds now
    (database.inbounds.rows.filter (·.id ∈ inboundIds)) rows

def addBytes (now : Int) (traffics : List ClientBytes) (row : ClientTraffic) :
    ClientTraffic :=
  match traffics.find? (·.email = row.email) with
  | none => row
  | some traffic =>
      { row with
        up := row.up + traffic.up
        down := row.down + traffic.down
        allTime := row.allTime + (traffic.up + traffic.down)
        lastOnline :=
          if 0 < traffic.up + traffic.down then now else row.lastOnline }

namespace Database

def saveInbounds (database : Database) (rows : List StoredInbound) :
    Database :=
  { database with inbounds := rows.foldl Table.save database.inbounds }

def saveStats (database : Database) (rows : List ClientTraffic) : Database :=
  { database with traffics := rows.foldl Table.save database.traffics }

end Database

def addClientTraffic (now : Int) (traffics : List ClientBytes)
    (database : Database) : Option (List Statement) :=
  let rows := database.traffics.rows.filter fun row =>
    row.email ∈ traffics.map ClientBytes.email
  (adjustTraffics now database rows).map fun (inbounds, rows) =>
    [writeRows .ignored (Database.saveInbounds · inbounds),
      writeRows .ignored
        (Database.saveStats · (rows.map (addBytes now traffics)))]

/-- The loop that adds renewal periods up to the present. -/
def renewExpiry (now period : Int) : Nat → Int → Int
  | 0, expiry => expiry
  | fuel + 1, expiry =>
      if expiry < now then renewExpiry now period fuel (expiry + period)
      else expiry

def renewedExpiry (now : Int) (row : ClientTraffic) : Int :=
  renewExpiry now (row.reset * bulkMsPerDay) (now - row.expiryTime).toNat
    row.expiryTime

def renewRow (now : Int) (row : ClientTraffic) : ClientTraffic :=
  { row with
    expiryTime := renewedExpiry now row
    up := 0
    down := 0
    enable := true }

def isRenewable (now : Int) (row : ClientTraffic) : Bool :=
  0 < row.reset && 0 < row.expiryTime && row.expiryTime ≤ now

/-- One client of `autoRenewClients`: its settings get the new expiry of the
row with its e-mail. -/
def renewItem (now : Int) (rows : List ClientTraffic) : Json → Option Json
  | .obj client =>
      match JsonObject.get client "email" with
      | .str email =>
          match rows.find? (·.email = email) with
          | none => some (.obj client)
          | some row =>
              some (.obj (setExpiry client (renewedExpiry now row)))
      | _ => none
  | _ => none

def renewInbound (now : Int) (rows : List ClientTraffic)
    (row : StoredInbound) : Option StoredInbound :=
  match JsonObject.get row.settings.fields "clients" with
  | .arr items =>
      (items.mapM (renewItem now rows)).map fun items =>
        withItems row (.arr items)
  | _ => none

/-- The e-mails of the clients of an inbound. -/
def inboundEmails (row : StoredInbound) : List String :=
  match JsonObject.get row.settings.fields "clients" with
  | .arr items => items.map itemEmail
  | _ => []

/-- A row is renewed where a client of the loaded inbounds has its e-mail. -/
def autoRenewClients (now : Int) (database : Database) :
    Option (List Statement) :=
  let rows := database.traffics.rows.filter (isRenewable now)
  let inbounds := database.inbounds.rows.filter fun row =>
    row.id ∈ rows.map ClientTraffic.inboundId
  (inbounds.mapM (renewInbound now rows)).map fun renewed =>
    if renewed = [] then [fail .kept (.panel .database)]
    else
      [writeRows .kept (Database.saveInbounds · renewed),
        writeRows .kept (Database.saveStats · (rows.map fun row =>
          if row.email ∈ inbounds.flatMap inboundEmails then renewRow now row
          else row))]

def depleted (now total used expiry : Int) : Bool :=
  (0 < total && total ≤ used) || (0 < expiry && expiry ≤ now)

def disableDepleted (now : Int) (row : ClientTraffic) : ClientTraffic :=
  if depleted now row.total (row.up + row.down) row.expiryTime && row.enable
  then { row with enable := false }
  else row

theorem disableDepleted_email (now : Int) (row : ClientTraffic) :
    (disableDepleted now row).email = row.email := by
  unfold disableDepleted
  split <;> rfl

def Database.disableInvalidClients (database : Database) (now : Int) :
    Database :=
  { database with
    traffics := database.traffics.mapRows (disableDepleted now)
      (disableDepleted_email now) }

def disableInbound (now : Int) (row : StoredInbound) : StoredInbound :=
  if depleted now row.total (row.up + row.down) row.expiryTime && row.enable
  then { row with enable := false }
  else row

theorem disableInbound_id (now : Int) (row : StoredInbound) :
    (disableInbound now row).id = row.id := by
  unfold disableInbound
  split <;> rfl

def Database.disableInvalidInbounds (database : Database) (now : Int) :
    Database :=
  { database with
    inbounds := database.inbounds.mapRows (disableInbound now)
      (disableInbound_id now) }

structure TrafficBatch where
  inbounds : List InboundTraffic
  clients : List ClientBytes

/-- The passes after the counters.  An error of the renewals is only logged; an
error of the last update rolls everything back and is not returned; a panic
leaves what was done before it to be committed. -/
def trafficPasses (now : Int) (batch : TrafficBatch) (faults : Nat → Bool)
    (number : Nat) (initial counted : Database) :
    Option RequestError × Database :=
  match addClientTraffic now batch.clients counted with
  | none => (some (.panel .panicked), counted)
  | some statements =>
      let charged := (Call.run initial faults number statements counted).2
      match autoRenewClients now charged with
      | none => (some (.panel .panicked), charged)
      | some statements =>
          let renewed :=
            (Call.run initial faults (number + 2) statements charged).2
          let disabled :=
            if faults (number + 4) then renewed
            else renewed.disableInvalidClients now
          if faults (number + 5) then (none, initial)
          else (none, disabled.disableInvalidInbounds now)

/-- `AddTraffic`. -/
def addTraffic (now : Int) (batch : TrafficBatch) (faults : Nat → Bool)
    (database : Database) : Option RequestError × Database :=
  match Call.run database faults 0 (addInboundTraffic batch.inbounds)
      database with
  | (some error, after) => (some error, after)
  | (none, counted) =>
      trafficPasses now batch faults (addInboundTraffic batch.inbounds).length
        database counted

end VpnUi.Store
