import VpnUi.Store.AddTraffic

namespace VpnUi.Store

open Foundation Panel

/-! The requests of the inbound service as sequences of database calls, with
what each call's failure leaves behind. -/

/-- The checks come before the first write. -/
def checked {Result : Type} (result : Except PanelError Result)
    (script : Result → List Statement) : List Statement :=
  match result with
  | .error error => [fail .kept (.panel error)]
  | .ok found => script found

def withInbound (row : StoredInbound) (inbound : Inbound) : StoredInbound :=
  { row with toInbound := inbound }

/-- The row that was read, with its counters, changed to this inbound. -/
def changedRow (database : Database) (inbound : Inbound) : StoredInbound :=
  match database.inbounds.find? inbound.id with
  | some row => withInbound row inbound
  | none => ⟨inbound, 0, 0, 0, 0, 0⟩

/-- A read that ends the request if it fails. -/
def require (error : RequestError) (holds : Database → Bool) : Statement :=
  ⟨fun database => if holds database then some database else none, .kept, error,
    false⟩

/-- The statistics of a form are saved with its inbound. -/
def saveWithStats (row : StoredInbound) (clientStats : List ClientTraffic)
    (database : Database) : Option Database := do
  let saved ← database.saveInbound row
  clientStats.foldlM
    (fun state stat => state.createStat { stat with inboundId := row.id }) saved

def addInbound (form : StoredInbound) (clientStats : List ClientTraffic)
    (host : PanelHost) (database : Database) : List Statement :=
  checked (addedInbound database.inbounds.view form.toInbound host)
    fun added =>
      let row := withInbound form added.row
      write .rolledBack (saveWithStats row clientStats) ::
        if clientStats = [] then
          added.clients.map fun client =>
            write .ignored (Database.createStat · (clientStat row.id client))
        else []

/-- `updateClientTraffics`. -/
def updateClientTraffics (inboundId : Int) (oldClients newClients : List Client) :
    List Statement :=
  let without (clients others : List Client) : List Client :=
    clients.filter fun client => client.email ∉ others.map Client.email
  ((without oldClients newClients).map fun client =>
    writeRows .rolledBack (Database.delClientStat · client.email)) ++
  (without newClients oldClients).map fun client =>
    write .rolledBack (Database.createStat · (clientStat inboundId client))

/-- The error of the last call is returned without being noted for the
rollback. -/
def updateInbound (form : StoredInbound) (host : PanelHost)
    (database : Database) : List Statement :=
  checked (updatedInbound database.inbounds.view form.toInbound host)
    fun updated =>
      let row := {
        changedRow database updated.row with
        up := form.up
        down := form.down
        total := form.total
        expiryTime := form.expiryTime }
      updateClientTraffics updated.row.id updated.oldClients
          updated.newClients ++
        [write .kept (Database.saveInbound · row)]

/-- There is no transaction. -/
def delInbound (id : Int) (database : Database) : List Statement :=
  let stats := writeRows .kept (Database.deleteStatsOf · id)
  match database.inbounds.find? id with
  | none => [stats, fail .kept (.panel .notFound)]
  | some row =>
      match getClients row.settings with
      | none => [stats, fail .kept (.panel .nullSettings)]
      | some clients =>
          stats :: (clients.map fun client =>
            writeRows .kept (Database.delClientIPs · client.email)) ++
          [writeRows .kept (Database.deleteInbound · id)]

/-- The statistics of one added client; the cipher of an enabled one is asserted
after that. -/
def addedClientStat (inboundId : Int) (lacksCipher : Bool) (client : Client) :
    List Statement :=
  if client.email = "" then []
  else
    write .ignored (Database.createStat · (clientStat inboundId client)) ::
      if lacksCipher && client.enable then [fail .kept (.panel .panicked)]
      else []

def addInboundClient (data : Inbound) (host : PanelHost)
    (database : Database) : List Statement :=
  checked (addedClients database.inbounds.view data host) fun (old, added) =>
    added.clients.flatMap (addedClientStat data.id
      (lacksCipher old old.settings.fields)) ++
    [write .kept (Database.saveInbound · (changedRow database added.row))]

/-- The statements on the rows of a replaced client. -/
def replacedStats (inboundId : Int) (replacement : Replacement) :
    List Statement :=
  let oldEmail := replacement.oldEmail
  let client := replacement.client
  if client.email ≠ "" then
    if oldEmail ≠ "" then
      [write .rolledBack
          (Database.updateStat · oldEmail (updateClientStat client)),
        write .rolledBack
          (Database.updateClientIPs · oldEmail client.email)]
    else [write .ignored (Database.createStat · (clientStat inboundId client))]
  else
    [writeRows .rolledBack (Database.delClientStat · oldEmail),
      writeRows .rolledBack (Database.delClientIPs · oldEmail)]

def updateInboundClient (data : Inbound) (clientId : String)
    (host : PanelHost) (database : Database) : List Statement :=
  checked (updatedClient database.inbounds.view data clientId host)
    fun replacement =>
      let old := replacement.old
      replacedStats data.id replacement ++
        (if lacksCipher old old.settings.fields && replacement.oldEmail ≠ "" &&
            replacement.client.enable then [fail .kept (.panel .panicked)]
        else []) ++
        [write .kept (Database.saveInbound ·
          (changedRow database replacement.row))]

/-- There is no transaction. -/
def delInboundClient (id : Int) (clientId : String) (database : Database) :
    List Statement :=
  checked (removedClient database.inbounds.view id clientId) fun removal =>
    writeRows .kept (Database.delClientIPs · removal.email) ::
      (if removal.email = "" then []
      else
        [require (.panel .notFound) fun state =>
            (state.traffics.find? removal.email).isSome,
          writeRows .kept (Database.delClientStat · removal.email)]) ++
      [write .kept (Database.saveInbound · (changedRow database removal.row))]

/-- `GetClientTrafficByEmail`: the row, if its inbound has the client. -/
def clientTrafficByEmail (database : Database) (email : String) :
    Except RequestError ClientTraffic :=
  match database.traffics.find? email with
  | none => .error (.noInboundForEmail email)
  | some traffic =>
      match database.inbounds.find? traffic.inboundId with
      | none => .error (.panel .notFound)
      | some row =>
          match getClients row.settings with
          | none => .error (.panel .nullSettings)
          | some clients =>
              if clients.any (·.email = email) then .ok traffic
              else .error (.noClientForEmail email)

/-- `DelInboundClientByEmail` up to its first write: an item that is no object
is dropped from the settings. -/
def removedByEmail (inbounds : Inbounds) (id : Int) (email : String) :
    Except RequestError Removal :=
  match inbounds.find? id with
  | none => .error (.panel .notFound)
  | some old =>
      match old.settings.object? with
      | none => .error (.panel .malformedSettings)
      | some object =>
          let fields := object.getD []
          match JsonObject.get fields "clients" with
          | .arr items =>
              let clients := items.filter isObject
              let matching := clients.filter fun client =>
                keyText "email" client = some email
              let kept := clients.filter fun client =>
                keyText "email" client ≠ some email
              if matching = [] then .error (.emailNotFound email)
              else if kept = [] then .error (.panel .noClientRemained)
              else
                .ok {
                  row := { old with
                    settings := .parsed (.obj (JsonObject.set fields "clients"
                      (.arr kept))) }
                  email := email
                  enable := (matching.getLast?.map clientEnable).getD false }
          | _ => .error .invalidClients

/-- There is no transaction. -/
def delInboundClientByEmail (id : Int) (email : String)
    (database : Database) : List Statement :=
  match removedByEmail database.inbounds.view id email with
  | .error error => [fail .kept error]
  | .ok removal =>
      writeRows .kept (Database.delClientIPs · email) ::
        (if email = "" then []
        else
          match clientTrafficByEmail database email with
          | .error error => [fail .kept error]
          | .ok _ => [writeRows .kept (Database.delClientStat · email)]) ++
        [write .kept (Database.saveInbound · (changedRow database removal.row))]

inductive Request
  | addInbound (form : StoredInbound) (clientStats : List ClientTraffic)
  | updateInbound (form : StoredInbound)
  | delInbound (id : Int)
  | addInboundClient (data : Inbound)
  | updateInboundClient (data : Inbound) (clientId : String)
  | delInboundClient (id : Int) (clientId : String)
  | delInboundClientByEmail (id : Int) (email : String)
  | bulkUpdateClients (request : BulkClientUpdateRequest)
  | addTraffic (batch : TrafficBatch)

/-- The calls of a request, from what it reads; the traffic pass reads again
between its calls and has none here. -/
def Request.script (host : PanelHost) (database : Database) :
    Request → List Statement
  | addInbound form clientStats =>
      Store.addInbound form clientStats host database
  | updateInbound form => Store.updateInbound form host database
  | delInbound id => Store.delInbound id database
  | addInboundClient data => Store.addInboundClient data host database
  | updateInboundClient data clientId =>
      Store.updateInboundClient data clientId host database
  | delInboundClient id clientId => Store.delInboundClient id clientId database
  | delInboundClientByEmail id email =>
      Store.delInboundClientByEmail id email database
  | bulkUpdateClients request =>
      Store.bulkUpdateClients request host.now database
  | addTraffic _ => []

/-- The error and the database that a request leaves when these of its writes
fail. -/
def perform (request : Request) (host : PanelHost) (faults : Nat → Bool)
    (database : Database) : Option RequestError × Database :=
  match request with
  | .addTraffic batch => addTraffic host.now batch faults database
  | request =>
      Call.run database faults 0 (request.script host database) database

end VpnUi.Store
