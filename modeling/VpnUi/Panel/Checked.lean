import VpnUi.Panel.Operations

namespace VpnUi.Panel

open Foundation

/-! What each operation of the inbound service does before its first write: the
checks, and the row it is going to save. -/

structure Checked where
  row : Inbound
  clients : List Client

def addedInbound (inbounds : Inbounds) (inbound : Inbound)
    (host : PanelHost) : Except PanelError Checked := do
  validateInboundConfig inbound
  if checkPortExist inbounds inbound.listen inbound.port 0 then
    .error (.portExists inbound.port)
  match getClients inbound.settings with
  | none => .error .nullSettings
  | some clients =>
      checkEmails inbounds clients
      if clients.any fun client => addedClientKey inbound.protocol client = ""
      then .error .emptyClientId
      checkUsernames inbounds inbound.protocol clients
      .ok {
        row := { inbound with
          id := if inbound.id = 0 then host.freshId else inbound.id
          settings := stampAdded inbound.settings clients host.now }
        clients := clients }

theorem addInbound_eq (inbounds : Inbounds) (inbound : Inbound)
    (host : PanelHost) :
    addInbound inbounds inbound host =
      (addedInbound inbounds inbound host).bind fun checked =>
        saveInbound inbounds checked.row := by
  simp only [addInbound, addedInbound]
  cases validateInboundConfig inbound with
  | error error => rfl
  | ok _ =>
      simp only [bind, Except.bind]
      split
      · rfl
      · cases getClients inbound.settings with
        | none => rfl
        | some clients =>
            simp only
            cases checkEmails inbounds clients with
            | error error => rfl
            | ok _ =>
                simp only
                split
                · rfl
                · cases checkUsernames inbounds inbound.protocol clients <;>
                    rfl

/-- What `UpdateInbound` reads of the old row before it writes. -/
structure Updated where
  row : Inbound
  oldClients : List Client
  newClients : List Client

def updatedInbound (inbounds : Inbounds) (inbound : Inbound)
    (host : PanelHost) : Except PanelError Updated := do
  validateInboundConfig inbound
  if checkPortExist inbounds inbound.listen inbound.port inbound.id then
    .error (.portExists inbound.port)
  match inbounds.find? inbound.id with
  | none => .error .notFound
  | some old =>
      match getClients old.settings, getClients inbound.settings with
      | some oldClients, some newClients =>
          .ok {
            row := { old with
              enable := inbound.enable
              listen := inbound.listen
              port := inbound.port
              protocol := inbound.protocol
              settings := stampUpdated old.settings inbound.settings host.now
              tag := inboundTag inbound.listen inbound.port }
            oldClients := oldClients
            newClients := newClients }
      | _, _ => .error .nullSettings

theorem updateInbound_eq (inbounds : Inbounds) (inbound : Inbound)
    (host : PanelHost) (statsOk : host.statsOk = true) :
    updateInbound inbounds inbound host =
      (updatedInbound inbounds inbound host).bind fun updated =>
        saveInbound inbounds updated.row := by
  simp only [updateInbound, updatedInbound]
  cases validateInboundConfig inbound with
  | error error => rfl
  | ok _ =>
      simp only [bind, Except.bind]
      split
      · rfl
      · cases inbounds.find? inbound.id with
        | none => rfl
        | some old =>
            simp only
            cases oldFound : getClients old.settings <;>
              cases newFound : getClients inbound.settings <;>
              simp [statsOk]

/-- The checks of `AddInboundClient`; a missing cipher is found only later, in
the loop over the clients. -/
def addedClients (inbounds : Inbounds) (data : Inbound) (host : PanelHost) :
    Except PanelError (Inbound × Checked) := do
  match getClients data.settings with
  | none => .error .nullSettings
  | some clients =>
      let added ← clientArray (← settingsMap data.settings)
      checkEmails inbounds clients
      match inbounds.find? data.id with
      | none => .error .notFound
      | some old =>
          if clients.any fun client => clientKey old.protocol client = ""
          then .error .emptyClientId
          checkUsernames inbounds old.protocol clients
          let fields ← settingsMap old.settings
          let stored ← clientArray fields
          .ok (old, {
            row := { old with
              settings := .parsed (.obj (JsonObject.set fields "clients"
                (.arr (stored ++ added.map (stampNewClient host.now))))) }
            clients := clients })

/-- What `DelInboundClient` finds: the row it saves and the last client it
drops, by its e-mail and its flag. -/
structure Removal where
  row : Inbound
  email : String
  enable : Bool

def clientEmail (client : Json) : String :=
  match client with
  | .obj fields =>
      match JsonObject.get fields "email" with
      | .str email => email
      | _ => ""
  | _ => ""

def clientEnable (client : Json) : Bool :=
  match client with
  | .obj fields =>
      match JsonObject.get fields "enable" with
      | .bool enable => enable
      | _ => false
  | _ => false

def removedClient (inbounds : Inbounds) (id : Int) (clientId : String) :
    Except PanelError Removal := do
  match inbounds.find? id with
  | none => .error .notFound
  | some old =>
      let fields ← settingsMap old.settings
      let stored ← clientArray fields
      let key := clientKeyName old.protocol
      if stored.any fun client => keyText key client = none then
        .error .panicked
      let kept := stored.filter fun client => keyText key client ≠ some clientId
      if kept = [] then .error .noClientRemained
      let dropped := (stored.filter fun client =>
        keyText key client = some clientId).getLast?
      .ok {
        row := { old with
          settings := .parsed (.obj (JsonObject.set fields "clients"
            (.arr kept))) }
        email := (dropped.map clientEmail).getD ""
        enable := (dropped.map clientEnable).getD false }

/-- What `UpdateInboundClient` finds: the row it saves, the old client and the
new one. -/
structure Replacement where
  old : Inbound
  row : Inbound
  oldClient : Option Client
  client : Client

def Replacement.oldEmail (replacement : Replacement) : String :=
  replacement.oldClient.elim "" Client.email

def replacedClient (inbounds : Inbounds) (old : Inbound)
    (oldClients clients : List Client) (clientId : String) (client : Client)
    (replacement : Json) (host : PanelHost) :
    Except PanelError Replacement := do
  if clientKey old.protocol client = "" then .error .emptyClientId
  match oldClients.findIdx? fun other =>
      clientId = clientKey old.protocol other with
  | none => .error .emptyClientId
  | some index =>
      let oldClient := oldClients[index]?
      let oldEmail := oldClient.elim "" Client.email
      if client.email ≠ "" ∧ client.email ≠ oldEmail then
        checkEmails inbounds clients
      if oldClient.map Client.id ≠ some client.id then
        checkUsernames inbounds old.protocol clients
      let fields ← settingsMap old.settings
      let stored ← clientArray fields
      .ok {
        old := old
        row := { old with
          settings := .parsed (.obj (JsonObject.set fields "clients"
            (.arr (stored.set index
              (stampReplacing stored[index]? host.now replacement))))) }
        oldClient := oldClient
        client := client }

def updatedClient (inbounds : Inbounds) (data : Inbound) (clientId : String)
    (host : PanelHost) : Except PanelError Replacement := do
  match getClients data.settings with
  | none => .error .nullSettings
  | some clients =>
      let given ← clientArray (← settingsMap data.settings)
      match inbounds.find? data.id with
      | none => .error .notFound
      | some old =>
          match getClients old.settings with
          | none => .error .nullSettings
          | some oldClients =>
              if oldClients = [] then .error .emptyClientId
              match clients, given with
              | client :: _, replacement :: _ =>
                  replacedClient inbounds old oldClients clients clientId
                    client replacement host
              | _, _ => .error .panicked

end VpnUi.Panel
