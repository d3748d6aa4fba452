import VpnUi.Foundation.Transition
import VpnUi.Panel.Operations

namespace VpnUi.Panel

open Foundation

/-! The inbounds table under the panel's requests. -/

/-- A request of the panel.  What a controller does after a change, and what
other requests are made of, are events of their own: `autoExpand` is the part
of the on..Changed hooks that writes the table, copying clients is a row of
`updateInboundClient` and an `addInboundClient`, and `maintain` stands for any
request or job that rewrites a row without a new login and without touching
its ranges (bulk changes, deletion of depleted clients, traffic jobs). -/
inductive PanelEvent
  | addInbound (form : Inbound)
  | updateInbound (pathId : Int) (form : Inbound)
  | importInbound (data : Inbound)
  | delInbound (id : Int)
  | addInboundClient (data : Inbound)
  | delInboundClient (id : Int) (clientId : String)
  | updateInboundClient (data : Inbound) (clientId : String)
  | autoExpand (backend : VpnProtocol)
  | maintain (row : Inbound)

/-- The controller normalises against every inbound before it adds one. -/
def addInboundRequest (inbounds : Inbounds) (form : Inbound)
    (host : PanelHost) : Except PanelError Inbounds :=
  if form.protocol.isVpnProtocol && !host.provisioned then
    .error .notProvisioned
  else
    let tagged := { form with tag := inboundTag form.listen form.port }
    match normalizeRanges inbounds tagged 0 with
    | .error error => .error (.normalize error)
    | .ok normal => addInbound inbounds normal host

/-- The id of the path is excluded; the id of the form is updated. -/
def updateInboundRequest (inbounds : Inbounds) (pathId : Int)
    (form : Inbound) (host : PanelHost) : Except PanelError Inbounds :=
  match normalizeRanges inbounds form pathId with
  | .error error => .error (.normalize error)
  | .ok normal => updateInbound inbounds normal host

/-- The row an import adds: nothing normalises its ranges. -/
def importedRow (data : Inbound) : Inbound :=
  { data with id := 0, tag := inboundTag data.listen data.port }

/-- A maintained row keeps its protocol and ranges and has no new login. -/
def maintainRow (inbounds : Inbounds) (row : Inbound) :
    Except PanelError Inbounds :=
  match inbounds.find? row.id with
  | none => .error .notFound
  | some old =>
      if row.protocol = old.protocol ∧
          decodeRanges row.settings.fields =
            decodeRanges old.settings.fields ∧
          (logins row.settings).Sublist (logins old.settings) then
        .ok (inbounds.save row)
      else .error .database

def perform (inbounds : Inbounds) (event : PanelEvent) (host : PanelHost) :
    Except PanelError Inbounds :=
  match event with
  | .addInbound form => addInboundRequest inbounds form host
  | .updateInbound pathId form => updateInboundRequest inbounds pathId form host
  | .importInbound data => addInbound inbounds (importedRow data) host
  | .delInbound id => delInbound inbounds id host
  | .addInboundClient data => addInboundClient inbounds data host
  | .delInboundClient id clientId => delInboundClient inbounds id clientId host
  | .updateInboundClient data clientId =>
      updateInboundClient inbounds data clientId host
  | .autoExpand backend => .ok (autoExpandVpnRanges inbounds backend)
  | .maintain row => maintainRow inbounds row

/-- SQLite gives a new row a positive key that no row has. -/
def HostFits (inbounds : Inbounds) (host : PanelHost) : Prop :=
  0 < host.freshId ∧ inbounds.find? host.freshId = none

instance (inbounds : Inbounds) (host : PanelHost) :
    Decidable (HostFits inbounds host) :=
  inferInstanceAs (Decidable (_ ∧ (_ : Option Inbound) = none))

/-- A provisioned host whose database gives the next row this key. -/
def hostWithId (freshId : Int) : PanelHost :=
  ⟨1700000000000, freshId, true, true⟩

def step (inbounds : Inbounds) (call : PanelEvent × PanelHost) :
    Option Inbounds :=
  if HostFits inbounds call.2 then
    (perform inbounds call.1 call.2).toOption
  else none

def machine : Machine Inbounds (PanelEvent × PanelHost) := ⟨step⟩

def noInbounds : Inbounds := Table.empty

theorem step_eq_some {inbounds next : Inbounds} {event : PanelEvent}
    {host : PanelHost} :
    step inbounds (event, host) = some next ↔
      HostFits inbounds host ∧ perform inbounds event host = .ok next := by
  unfold step
  split
  next fits =>
    cases perform inbounds event host <;> simp [Except.toOption, fits]
  next unfit => simp [unfit]

end VpnUi.Panel
