import VpnUi.BackEnd.Refresh
import VpnUi.Foundation.Transition
import VpnUi.Store.Accounts
import VpnUi.Store.Depleted

namespace VpnUi.BackEnd

open Foundation Panel Store

/-! The handlers of the inbound controller, and the periodic traffic pass, over
the database and the back end. -/

/-- The operations on whole inbounds. -/
inductive Operation
  | addInbound (form : StoredInbound) (clientStats : List ClientTraffic)
  | updateInbound (pathId : Int) (form : StoredInbound)
  | delInbound (id : Int)
  | importInbound (data : StoredInbound) (clientStats : List ClientTraffic)
  | delDepletedClients (id : Int)
  | addTraffic (batch : TrafficBatch)

/-- The form with its ranges assigned. -/
def normalizeVpnRanges (database : Database) (form : StoredInbound)
    (excludeId : Int) : Except PanelError StoredInbound :=
  match normalizeRanges database.inbounds.view form.toInbound excludeId with
  | .error error => .error (.normalize error)
  | .ok normal => .ok (withInbound form normal)

/-- The controller sets the tag of a new inbound. -/
def tagged (form : StoredInbound) : StoredInbound :=
  withInbound form
    { form.toInbound with tag := inboundTag form.listen form.port }

/-- An import is a new row whose statistics are enabled. -/
def imported (data : StoredInbound) : StoredInbound :=
  withInbound data { data.toInbound with
    id := 0
    tag := inboundTag data.listen data.port }

def enabledStats (clientStats : List ClientTraffic) : List ClientTraffic :=
  clientStats.map fun stat => { stat with enable := true }

/-- The request as the service answers it, with the normalisation before it. -/
def callService (panelHost : PanelHost) (database : Database) :
    Operation → Option RequestError × Database
  | .addInbound form clientStats =>
      if form.protocol.isVpnProtocol && !panelHost.provisioned then
        (some (.panel .notProvisioned), database)
      else
        match normalizeVpnRanges database (tagged form) 0 with
        | .error error => (some (.panel error), database)
        | .ok normal => Store.perform (.addInbound normal clientStats) panelHost
            Call.noFaults database
  | .updateInbound pathId form =>
      match normalizeVpnRanges database form pathId with
      | .error error => (some (.panel error), database)
      | .ok normal => Store.perform (.updateInbound normal) panelHost
          Call.noFaults database
  | .delInbound id =>
      Store.perform (.delInbound id) panelHost Call.noFaults database
  | .importInbound data clientStats =>
      Store.perform (.addInbound (imported data) (enabledStats clientStats))
        panelHost Call.noFaults database
  | .delDepletedClients id =>
      Store.delDepletedClients id panelHost.now database
  | .addTraffic batch =>
      Store.addTraffic panelHost.now batch Call.noFaults database

def vpnBackend : Protocol → Option VpnProtocol
  | .vpn backend => some backend
  | _ => none

theorem vpnBackend_eq_some {protocol : Protocol} {backend : VpnProtocol} :
    vpnBackend protocol = some backend ↔ protocol = .vpn backend := by
  cases protocol <;> simp [vpnBackend]

/-- The protocol whose services the handler refreshes: that of the form, or of
the row before it is deleted.  The other handlers refresh none. -/
def refreshedBackend (database : Database) : Operation → Option VpnProtocol
  | .addInbound form _ | .updateInbound _ form => vpnBackend form.protocol
  | .delInbound id =>
      (database.inbounds.find? id).bind (vpnBackend ·.protocol)
  | .importInbound _ _ | .delDepletedClients _ | .addTraffic _ => none

/-- A refused request refreshes nothing. -/
def handle (host : Host) (panelHost : PanelHost) (operation : Operation)
    (state : State) : State :=
  let (error, database) := callService panelHost state.database operation
  let called := { state with database := database }
  match error, refreshedBackend state.database operation with
  | none, some backend => refresh host backend called
  | _, _ => called

/-- SQLite gives a new row a positive key that no row has. -/
def HostFits (database : Database) (panelHost : PanelHost) : Prop :=
  0 < panelHost.freshId ∧ ∀ row ∈ database.inbounds.rows,
    row.id ≠ panelHost.freshId

instance (database : Database) (panelHost : PanelHost) :
    Decidable (HostFits database panelHost) :=
  inferInstanceAs (Decidable (_ ∧ _))

def step (host : Host) (state : State) (call : Operation × PanelHost) :
    Option State :=
  if HostFits state.database call.2 then
    some (handle host call.2 call.1 state)
  else none

def machine (host : Host) : Machine State (Operation × PanelHost) :=
  ⟨step host⟩

/-! The operations that do not miss a refresh. -/

def rowsOf (database : Database) (backend : VpnProtocol) :
    List StoredInbound :=
  database.inbounds.rows.filter (·.protocol = .vpn backend)

def othersOf (database : Database) (backend : VpnProtocol) (id : Int) :
    List StoredInbound :=
  (rowsOf database backend).filter (·.id ≠ id)

def wantsIpsec (settings : JsonText) : Bool :=
  (settings.fields.get "ipsecEnable").flag.value

/-- With these inbounds of a protocol its shared daemons are wanted by an
enabled one, or by none. -/
def Plans (host : Host) (daemons : Daemons) (rows : List StoredInbound) :
    VpnProtocol → Prop
  | .l2tp =>
      (rows = [] ∨ ∃ row ∈ rows, row.enable = true) ∧
      (host.bundledIpsec = true →
        (∃ row ∈ rows, row.enable = true ∧
          usesIpsec (serve host .l2tp row.toInbound) = true) ∨
        daemons .pluto = none ∧ ∀ row ∈ rows, wantsIpsec row.settings = false)
  | .pptp => rows = [] ∨ ∃ row ∈ rows, row.enable = true
  | _ => True

/-- The key that an added form is saved under. -/
def addedId (form : StoredInbound) (panelHost : PanelHost) : Int :=
  if form.id = 0 then panelHost.freshId else form.id

/-- No inbound of another VPN protocol is overwritten. -/
def Overwrites (database : Database) (id : Int) (protocol : Protocol) : Prop :=
  ∃ row ∈ database.inbounds.rows, row.id = id ∧
    row.protocol.isVpnProtocol = true ∧ row.protocol ≠ protocol

/-- The inbounds of the form's protocol, with the form in its place. -/
def PlansForm (host : Host) (state : State) (form : StoredInbound) (id : Int) :
    Prop :=
  ∀ backend ∈ vpnBackend form.protocol, Plans host state.daemons
    (form :: othersOf state.database backend id) backend

/-- The service of the row can parse its settings. -/
def Parses (host : Host) (row : StoredInbound) : Prop :=
  ∀ backend ∈ vpnBackend row.protocol,
    (serve host backend row.toInbound).reading.isSome = true

/-- A VPN inbound with a depleted client keeps another client. -/
def KeepsClients (host : Host) (database : Database) (id now : Int) : Prop :=
  ∀ group ∈ depletedGroups id now database.traffics,
    ∀ row ∈ database.inbounds.rows, row.id = group.1 →
      row.protocol.isVpnProtocol = true → Parses host row ∧
        ∃ item ∈ clientItems row, itemEmail item ∉ splitCommas group.2

def countedInbounds (database : Database) (batch : TrafficBatch) : Database :=
  (batch.inbounds.filter InboundTraffic.isInbound).foldl Database.countInbound
    database

/-- No enabled VPN inbound is depleted or expired once the batch is counted. -/
def KeepsInbounds (database : Database) (batch : TrafficBatch) (now : Int) :
    Prop :=
  ∀ row ∈ (countedInbounds database batch).inbounds.rows,
    row.protocol.isVpnProtocol = true → row.enable = true →
      depleted now row.total (row.up + row.down) row.expiryTime = false

/-- The inbounds that are left when one is deleted. -/
def PlansDeletion (host : Host) (state : State) (id : Int) : Prop :=
  ∀ row ∈ state.database.inbounds.find? id,
    ∀ backend ∈ vpnBackend row.protocol, Plans host state.daemons
      (othersOf state.database backend id) backend

/-- What the handler has to refresh is what it refreshes. -/
def Refreshes (host : Host) (state : State) (call : Operation × PanelHost) :
    Prop :=
  match call.1 with
  | .addInbound form _ =>
      ¬ Overwrites state.database (addedId form call.2) form.protocol ∧
        PlansForm host state form (addedId form call.2)
  | .updateInbound _ form =>
      ¬ Overwrites state.database form.id form.protocol ∧
        PlansForm host state form form.id
  | .delInbound id => PlansDeletion host state id
  | .importInbound data _ => data.protocol.isVpnProtocol = false
  | .delDepletedClients id => KeepsClients host state.database id call.2.now
  | .addTraffic batch => KeepsInbounds state.database batch call.2.now

section Decidable

variable (host : Host) (daemons : Daemons) (rows : List StoredInbound)
  (database : Database) (state : State) (form row : StoredInbound)
  (batch : TrafficBatch) (protocol : Protocol) (id now : Int)

instance : ∀ backend, Decidable (Plans host daemons rows backend)
  | .l2tp => inferInstanceAs (Decidable (_ ∧ _))
  | .pptp => inferInstanceAs (Decidable (_ ∨ _))
  | .openvpn | .openconnect | .sstp => inferInstanceAs (Decidable True)

instance : Decidable (Overwrites database id protocol) :=
  inferInstanceAs (Decidable (∃ row ∈ database.inbounds.rows, _))

instance : Decidable (PlansForm host state form id) :=
  inferInstanceAs (Decidable (∀ backend ∈ vpnBackend form.protocol, _))

instance : Decidable (Parses host row) :=
  inferInstanceAs (Decidable (∀ backend ∈ vpnBackend row.protocol, _))

instance : Decidable (KeepsClients host database id now) :=
  inferInstanceAs (Decidable (∀ group ∈ depletedGroups id now _,
    ∀ row ∈ database.inbounds.rows, _))

instance : Decidable (KeepsInbounds database batch now) :=
  inferInstanceAs (Decidable
    (∀ row ∈ (countedInbounds database batch).inbounds.rows, _))

instance : Decidable (PlansDeletion host state id) :=
  inferInstanceAs (Decidable (∀ row ∈ state.database.inbounds.find? id,
    ∀ backend ∈ vpnBackend row.protocol, _))

instance decidableRefreshes :
    ∀ call, Decidable (Refreshes host state call)
  | (.addInbound _ _, _) | (.updateInbound _ _, _) =>
      inferInstanceAs (Decidable (¬ _ ∧ _))
  | (.delInbound id, _) =>
      inferInstanceAs (Decidable (PlansDeletion host state id))
  | (.importInbound data _, _) =>
      inferInstanceAs (Decidable (data.protocol.isVpnProtocol = false))
  | (.delDepletedClients id, panelHost) => inferInstanceAs
      (Decidable (KeepsClients host state.database id panelHost.now))
  | (.addTraffic batch, panelHost) => inferInstanceAs
      (Decidable (KeepsInbounds state.database batch panelHost.now))

end Decidable

end VpnUi.BackEnd
