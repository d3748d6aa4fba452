import VpnUi.Panel.Machine
import VpnUi.Panel.OperationsSpec
import VpnUi.Panel.Teardown
import VpnUi.Xray.Config

namespace VpnUi.Panel

open Foundation

/-! The TCP endpoints that the panel configures for its inbounds, against the
listen addresses and ports that it compares. -/

structure Endpoint where
  listen : String
  port : Int
  deriving DecidableEq

/-- The two cannot both be bound. -/
def Endpoint.Conflicts (left right : Endpoint) : Prop :=
  left.port = right.port ∧
    (left.listen = right.listen ∨ anyListen left.listen = true ∨
      anyListen right.listen = true)

instance (left right : Endpoint) : Decidable (left.Conflicts right) :=
  inferInstanceAs (Decidable (_ ∧ _))

theorem Endpoint.Conflicts.symm {left right : Endpoint}
    (conflict : left.Conflicts right) : right.Conflicts left :=
  ⟨conflict.1.symm, conflict.2.elim (fun same => .inl same.symm)
    fun anywhere => .inr anywhere.symm⟩

/-- The fields of the OpenVPN settings that decide on its TCP server. -/
structure OpenVpnPorts where
  tcpEnable : Option Bool
  tcpPort : Int
  separatePorts : Option Bool

namespace OpenVpnPorts

def decode (fields : JsonObject) : Decoded OpenVpnPorts :=
  (Decoded.record OpenVpnPorts.mk).field (fields.get "tcpEnable").optionalFlag
    |>.field (fields.get "tcpPort").number
    |>.field (fields.get "separatePorts").optionalFlag

def tcpEnabled (ports : OpenVpnPorts) : Bool := ports.tcpEnable.getD true

def tcpPortOrDefault (ports : OpenVpnPorts) : Int :=
  if ports.tcpPort = 0 then 443 else ports.tcpPort

def tcpListenPort (ports : OpenVpnPorts) (inboundPort : Int) : Int :=
  if ports.separatePorts.getD true then ports.tcpPortOrDefault else inboundPort

end OpenVpnPorts

namespace Inbound

/-- The address of `GenXrayInboundConfig`. -/
def xrayListen (inbound : Inbound) : String :=
  if inbound.listen = "" then "0.0.0.0" else inbound.listen

/-- What the server of a VPN inbound listens on: no service passes on the
listen address of the inbound. -/
def serverEndpoints (inbound : Inbound) : VpnProtocol → List Endpoint
  | .openvpn =>
      let ports := (OpenVpnPorts.decode inbound.settings.fields).value
      if ports.tcpEnabled then [⟨"0.0.0.0", ports.tcpListenPort inbound.port⟩]
      else []
  | .openconnect => [⟨"0.0.0.0", inbound.port⟩]
  | .sstp =>
      [⟨"0.0.0.0", if inbound.port = 0 then 443 else inbound.port⟩,
        ⟨"127.0.0.1", sstpCliPort inbound.id⟩]
  | .l2tp | .pptp => []

/-- The endpoints of an enabled inbound, given whether its service can read the
settings. -/
def endpointsIf (inbound : Inbound) (readable : Bool) : List Endpoint :=
  if inbound.enable then
    match inbound.protocol with
    | .vpn backend =>
        ⟨"0.0.0.0", Xray.getTproxyPort inbound.id⟩ ::
          if readable then inbound.serverEndpoints backend else []
    | _ => [⟨inbound.xrayListen, inbound.port⟩]
  else []

/-- Xray binds the door of an inbound whatever its settings are; its server is
only configured for settings that the service can read. -/
def endpoints (inbound : Inbound) : List Endpoint :=
  inbound.endpointsIf <|
    match inbound.protocol with
    | .vpn backend => (VpnSettings.parse backend inbound.settings).isSome
    | _ => true

/-- All that an inbound may come to listen on. -/
def requested (inbound : Inbound) : List Endpoint :=
  inbound.endpointsIf true

/-- The endpoint is the one that `checkPortExist` compares with the others. -/
def Compared (inbound : Inbound) (endpoint : Endpoint) : Prop :=
  endpoint.port = inbound.port ∧
    (endpoint.listen = inbound.listen ∨ anyListen inbound.listen = true)

instance (inbound : Inbound) (endpoint : Endpoint) :
    Decidable (inbound.Compared endpoint) :=
  inferInstanceAs (Decidable (_ ∧ _))

end Inbound

def Inbounds.endpoints (inbounds : Inbounds) : List Endpoint :=
  inbounds.rows.flatMap Inbound.endpoints

/-- No two listeners collide, and every port is a port. -/
def ListenersApart (inbounds : Inbounds) : Prop :=
  (inbounds.endpoints.Pairwise fun left right => ¬ left.Conflicts right) ∧
    ∀ endpoint ∈ inbounds.endpoints, 1 ≤ endpoint.port ∧ endpoint.port ≤ 65535

/-- The row of an inbound that the core is configured from. -/
structure Describes (row : Xray.Row) (inbound : Inbound) : Prop where
  id : row.id = inbound.id
  enable : row.enable = inbound.enable
  listen : row.listen = inbound.listen
  port : row.port = inbound.port
  protocol : row.protocol = inbound.protocol

/-- Beside those of the template the core listens on nothing else. -/
theorem getXrayConfig_listed {translate : Xray.RawMessage → Xray.RawMessage}
    {template : Xray.Config} {rows : List Xray.Row} {inbounds : Inbounds}
    (described : ∀ row ∈ rows, ∃ inbound ∈ inbounds, Describes row inbound)
    {config : Xray.InboundConfig}
    (generated :
      config ∈ (Xray.getXrayConfig translate template rows).inbounds) :
    config ∈ template.inbounds ∨
      ∃ endpoint ∈ inbounds.endpoints,
        config.listen = Xray.quoted endpoint.listen ∧
          config.port = endpoint.port := by
  simp only [Xray.getXrayConfig, List.mem_append, List.mem_map,
    List.mem_flatMap] at generated
  rcases generated with
    (old | ⟨row, member, rfl⟩) | ⟨row, ⟨backend, -, member⟩, rfl⟩
  · exact .inl old
  · simp only [Xray.nativeRows, List.mem_filter, Bool.and_eq_true,
      Bool.not_eq_true'] at member
    obtain ⟨stored, enabled, native⟩ := member
    obtain ⟨inbound, inTable, same⟩ := described row stored
    refine .inr ⟨⟨inbound.xrayListen, inbound.port⟩, ?_, ?_, same.port⟩
    · refine List.mem_flatMap.mpr ⟨inbound, inTable, ?_⟩
      rw [same.protocol] at native
      rw [Inbound.endpoints, Inbound.endpointsIf, ← same.enable, if_pos enabled]
      cases protocol : inbound.protocol with
      | vpn backend =>
          rw [protocol] at native
          cases native
      | _ => exact List.mem_cons_self
    · rw [Inbound.xrayListen, ← same.listen]
      rfl
  · simp only [Xray.dokodemoRows, List.mem_filter, Bool.and_eq_true,
      decide_eq_true_eq] at member
    obtain ⟨stored, vpn, enabled⟩ := member
    obtain ⟨inbound, inTable, same⟩ := described row stored
    refine .inr ⟨⟨"0.0.0.0", Xray.getTproxyPort inbound.id⟩, ?_, rfl, ?_⟩
    · refine List.mem_flatMap.mpr ⟨inbound, inTable, ?_⟩
      rw [same.protocol] at vpn
      rw [Inbound.endpoints, Inbound.endpointsIf, ← same.enable, if_pos enabled,
        vpn]
      exact List.mem_cons_self
    · rw [← same.id]
      rfl

/-- The three calls that decide on the listeners. -/
inductive InboundCall
  | addInbound (form : Inbound)
  | updateInbound (form : Inbound)
  | delInbound (id : Int)

namespace InboundCall

def perform (inbounds : Inbounds) (host : PanelHost) :
    InboundCall → Except PanelError Inbounds
  | .addInbound form => Panel.addInbound inbounds form host
  | .updateInbound form => Panel.updateInbound inbounds form host
  | .delInbound id => Panel.delInbound inbounds id host

/-- The form of an added or updated inbound, under the id of its row. -/
def row? (host : PanelHost) : InboundCall → Option Inbound
  | .addInbound form =>
      some { form with id := if form.id = 0 then host.freshId else form.id }
  | .updateInbound form => some form
  | .delInbound _ => none

end InboundCall

def stepCall (inbounds : Inbounds) (call : InboundCall × PanelHost) :
    Option Inbounds :=
  if HostFits inbounds call.2 then
    (call.1.perform inbounds call.2).toOption
  else none

def callMachine : Machine Inbounds (InboundCall × PanelHost) := ⟨stepCall⟩

/-- What no check of the panel looks at: the endpoints of a row beside its own
listen address and port collide with none, and their ports are ports. -/
structure PortsFit (inbounds : Inbounds) (row : Inbound) : Prop where
  within : row.requested.Pairwise fun left right => ¬ left.Conflicts right
  between : ∀ other ∈ inbounds, other.id ≠ row.id →
    ∀ endpoint ∈ row.requested, ∀ taken ∈ other.endpoints,
      ¬ (row.Compared endpoint ∧ other.Compared taken) →
        ¬ endpoint.Conflicts taken
  inRange : ∀ endpoint ∈ row.requested,
    endpoint.port ≠ row.port ∨ row.protocol = .vpn .openvpn →
      1 ≤ endpoint.port ∧ endpoint.port ≤ 65535

instance (inbounds : Inbounds) (row : Inbound) :
    Decidable (PortsFit inbounds row) :=
  decidable_of_iff
    ((row.requested.Pairwise fun left right => ¬ left.Conflicts right) ∧
      (∀ other ∈ inbounds.rows, other.id ≠ row.id →
        ∀ endpoint ∈ row.requested, ∀ taken ∈ other.endpoints,
          ¬ (row.Compared endpoint ∧ other.Compared taken) →
            ¬ endpoint.Conflicts taken) ∧
      ∀ endpoint ∈ row.requested,
        endpoint.port ≠ row.port ∨ row.protocol = .vpn .openvpn →
          1 ≤ endpoint.port ∧ endpoint.port ≤ 65535)
    ⟨fun parts => ⟨parts.1, parts.2.1, parts.2.2⟩,
      fun fits => ⟨fits.within, fits.between, fits.inRange⟩⟩

def portGuard (inbounds : Inbounds) (call : InboundCall × PanelHost) : Prop :=
  ∀ row ∈ call.1.row? call.2, PortsFit inbounds row

instance (inbounds : Inbounds) (call : InboundCall × PanelHost) :
    Decidable (portGuard inbounds call) :=
  inferInstanceAs (Decidable (∀ row ∈ call.1.row? call.2, _))

theorem stepCall_eq_some {inbounds next : Inbounds} {call : InboundCall}
    {host : PanelHost} :
    stepCall inbounds (call, host) = some next ↔
      HostFits inbounds host ∧ call.perform inbounds host = .ok next := by
  unfold stepCall
  split
  next fits =>
    cases call.perform inbounds host <;> simp [Except.toOption, fits]
  next unfit => simp [unfit]

section Rows

variable {inbound row other : Inbound} {endpoint taken : Endpoint}

theorem Inbound.endpointsIf_sublist (inbound : Inbound) (readable : Bool) :
    List.Sublist (inbound.endpointsIf readable) inbound.requested := by
  unfold requested endpointsIf
  split
  · split
    · refine List.Sublist.cons_cons _ ?_
      cases readable with
      | false => exact List.nil_sublist _
      | true => exact List.Sublist.refl _
    · exact List.Sublist.refl _
  · exact List.Sublist.refl _

/-- What an inbound may listen on depends on these parts of it only. -/
theorem Inbound.requested_congr (id : row.id = inbound.id)
    (listen : row.listen = inbound.listen) (port : row.port = inbound.port)
    (protocol : row.protocol = inbound.protocol)
    (enable : row.enable = inbound.enable)
    (ports : OpenVpnPorts.decode row.settings.fields =
      OpenVpnPorts.decode inbound.settings.fields) :
    row.requested = inbound.requested := by
  have server : ∀ backend,
      row.serverEndpoints backend = inbound.serverEndpoints backend := by
    intro backend
    cases backend <;>
      simp only [serverEndpoints, id, port, ports]
  simp only [requested, endpointsIf, xrayListen, id, listen, port, protocol,
    enable, server]

theorem OpenVpnPorts.decode_set_clients (fields : JsonObject)
    (clients : Json) :
    decode (JsonObject.set fields "clients" clients) = decode fields := by
  simp (disch := decide) only [decode, JsonObject.get_set_ne]

theorem OpenVpnPorts.decode_stampAdded (settings : JsonText)
    (clients : List Client) (now : Int) :
    decode (stampAdded settings clients now).fields =
      decode settings.fields := by
  unfold stampAdded
  split
  · exact decode_set_clients _ _
  · rfl

theorem OpenVpnPorts.decode_stampUpdated (old settings : JsonText)
    (now : Int) :
    decode (stampUpdated old settings now).fields =
      decode settings.fields := by
  unfold stampUpdated
  split
  · split
    · exact decode_set_clients _ _
    · rfl
  · rfl

/-- Two compared endpoints only conflict if the listen addresses and ports of
their inbounds do. -/
theorem Inbound.Compared.conflicts (compared : row.Compared endpoint)
    (otherCompared : other.Compared taken)
    (conflict : endpoint.Conflicts taken) :
    other.port = row.port ∧ (anyListen row.listen = true ∨
      other.listen = row.listen ∨ anyListen other.listen = true) := by
  obtain ⟨port, listen⟩ := compared
  obtain ⟨otherPort, otherListen⟩ := otherCompared
  refine ⟨by rw [← port, ← otherPort, conflict.1], ?_⟩
  rcases listen with listen | anywhere
  · rcases otherListen with otherListen | anywhere
    · rw [← listen, ← otherListen]
      rcases conflict.2 with same | anywhere | anywhere
      · exact .inr (.inl same.symm)
      · exact .inl anywhere
      · exact .inr (.inr anywhere)
    · exact .inr (.inr anywhere)
  · exact .inl anywhere

/-- A row that passed the checks of the panel, and fits beside them. -/
structure Admitted (inbounds : Inbounds) (row : Inbound) : Prop where
  fits : PortsFit inbounds row
  free : ∀ other ∈ inbounds, other.id ≠ row.id →
    ¬ (other.port = row.port ∧ (anyListen row.listen = true ∨
      other.listen = row.listen ∨ anyListen other.listen = true))
  valid : row.protocol ≠ .vpn .openvpn → 1 ≤ row.port ∧ row.port ≤ 65535

namespace Admitted

variable {inbounds : Inbounds}

theorem between (admitted : Admitted inbounds row) (member : other ∈ inbounds)
    (differs : other.id ≠ row.id) (requested : endpoint ∈ row.requested)
    (stored : taken ∈ other.endpoints) : ¬ endpoint.Conflicts taken := by
  intro conflict
  refine admitted.fits.between other member differs endpoint requested taken
    stored ?_ conflict
  rintro ⟨compared, otherCompared⟩
  exact admitted.free other member differs
    (compared.conflicts otherCompared conflict)

theorem inRange (admitted : Admitted inbounds row)
    (requested : endpoint ∈ row.requested) :
    1 ≤ endpoint.port ∧ endpoint.port ≤ 65535 := by
  by_cases checked : endpoint.port ≠ row.port ∨ row.protocol = .vpn .openvpn
  · exact admitted.fits.inRange endpoint requested checked
  · rw [not_or, not_not] at checked
    rw [checked.1]
    exact admitted.valid checked.2

end Admitted

end Rows

theorem not_conflicts_symm (left right : Endpoint)
    (apart : ¬ left.Conflicts right) : ¬ right.Conflicts left :=
  fun conflict => apart conflict.symm

theorem listenersApart_iff {inbounds : Inbounds} :
    ListenersApart inbounds ↔
      ((∀ row ∈ inbounds, row.endpoints.Pairwise fun left right =>
          ¬ left.Conflicts right) ∧
        inbounds.Across fun row other => ∀ endpoint ∈ row.endpoints,
          ∀ taken ∈ other.endpoints, ¬ endpoint.Conflicts taken) ∧
      ∀ row ∈ inbounds, ∀ endpoint ∈ row.endpoints,
        1 ≤ endpoint.port ∧ endpoint.port ≤ 65535 := by
  unfold ListenersApart Inbounds.endpoints
  rw [Table.pairwise_flatMap_iff not_conflicts_symm]
  refine and_congr_right fun _ => ?_
  simp only [List.mem_flatMap, forall_exists_index, and_imp]
  constructor
  · intro each row member endpoint listed
    exact each endpoint row member listed
  · intro each endpoint row member listed
    exact each row member endpoint listed

namespace ListenersApart

variable {inbounds next : Inbounds} {row saved : Inbound} {host : PanelHost}

/-- Saving an admitted row, with other timestamps in its settings. -/
theorem save (apart : ListenersApart inbounds)
    (admitted : Admitted inbounds row) (id : saved.id = row.id)
    (same : saved.requested = row.requested) :
    ListenersApart (inbounds.save saved) := by
  obtain ⟨⟨within, across⟩, inRange⟩ := listenersApart_iff.mp apart
  have requested : List.Sublist saved.endpoints row.requested :=
    same ▸ saved.endpointsIf_sublist _
  refine listenersApart_iff.mpr ⟨⟨?_, across.save ?_ ?_⟩, ?_⟩
  · intro other member
    rcases Table.mem_save.mp member with rfl | ⟨old, -⟩
    · exact admitted.fits.within.sublist requested
    · exact within other old
  · intro left right unrelated taken listed endpoint otherListed
    exact not_conflicts_symm _ _ (unrelated endpoint otherListed taken listed)
  · intro other member differs endpoint listed taken stored
    exact admitted.between member (id ▸ differs) (requested.subset listed)
      stored
  · intro other member endpoint listed
    rcases Table.mem_save.mp member with rfl | ⟨old, -⟩
    · exact admitted.inRange (requested.subset listed)
    · exact inRange other old endpoint listed

theorem delete (apart : ListenersApart inbounds) {id : Int} :
    ListenersApart (inbounds.delete id) := by
  obtain ⟨⟨within, across⟩, inRange⟩ := listenersApart_iff.mp apart
  refine listenersApart_iff.mpr ⟨⟨?_, across.delete⟩, ?_⟩
  · exact fun row member => within row (Table.mem_delete.mp member).1
  · exact fun row member => inRange row (Table.mem_delete.mp member).1

theorem addInbound {form : Inbound} (apart : ListenersApart inbounds)
    (fits : PortsFit inbounds { form with
      id := if form.id = 0 then host.freshId else form.id })
    (accepted : Panel.addInbound inbounds form host = .ok next) :
    ListenersApart next := by
  obtain ⟨valid, free⟩ := addInbound_checked accepted
  obtain ⟨clients, -, rfl⟩ := addInbound_eq_ok accepted
  have admitted : Admitted inbounds { form with
      id := if form.id = 0 then host.freshId else form.id } := {
    fits
    free := fun other member _ =>
      checkPortExist_eq_false free member (.inl le_rfl)
    valid := fun differs => by
      simpa [validPort] using validPort_of_validate differs valid }
  refine apart.save admitted ?_ ?_
  · rfl
  · exact Inbound.requested_congr rfl rfl rfl rfl rfl
      (OpenVpnPorts.decode_stampAdded _ _ _)

theorem updateInbound {form : Inbound} (apart : ListenersApart inbounds)
    (fits : PortsFit inbounds form)
    (accepted : Panel.updateInbound inbounds form host = .ok next) :
    ListenersApart next := by
  obtain ⟨valid, free⟩ := updateInbound_checked accepted
  obtain ⟨old, -, id, rfl⟩ := updateInbound_eq_ok accepted
  have admitted : Admitted inbounds form := {
    fits
    free := fun other member differs =>
      checkPortExist_eq_false free member (.inr differs)
    valid := fun differs => by
      simpa [validPort] using validPort_of_validate differs valid }
  refine apart.save admitted ?_ ?_
  · exact id
  · exact Inbound.requested_congr id rfl rfl rfl rfl
      (OpenVpnPorts.decode_stampUpdated _ _ _)

/-- What one accepted call preserves. -/
theorem step (apart : ListenersApart inbounds)
    {call : InboundCall × PanelHost} (fits : portGuard inbounds call)
    (stepped : callMachine.step inbounds call = some next) :
    ListenersApart next := by
  obtain ⟨call, host⟩ := call
  obtain ⟨-, accepted⟩ := stepCall_eq_some.mp stepped
  cases call with
  | addInbound form => exact apart.addInbound (fits _ rfl) accepted
  | updateInbound form => exact apart.updateInbound (fits _ rfl) accepted
  | delInbound id =>
      rw [delInbound_eq_ok accepted]
      exact apart.delete

/-- Where the service can read the settings that are saved, the listeners stay
apart for no other row. -/
theorem portsFit (later : ListenersApart (inbounds.save saved))
    (id : saved.id = row.id) (same : saved.endpoints = row.requested) :
    PortsFit inbounds row := by
  obtain ⟨⟨within, across⟩, inRange⟩ := listenersApart_iff.mp later
  have member : saved ∈ inbounds.save saved := Table.mem_save.mpr (.inl rfl)
  refine ⟨?_, ?_, ?_⟩
  · rw [← same]
    exact within saved member
  · intro other otherMember differs endpoint listed taken stored _
    rw [← same] at listed
    rw [← id] at differs
    exact across saved member other
      (Table.mem_save.mpr (.inr ⟨otherMember, differs⟩)) differs.symm endpoint
      listed taken stored
  · intro endpoint listed _
    rw [← same] at listed
    exact inRange saved member endpoint listed

end ListenersApart

/-- In a run of accepted calls whose derived endpoints fit, the listeners never
collide. -/
theorem listeners_apart (calls : List (InboundCall × PanelHost))
    (guarded : callMachine.Guarded portGuard noInbounds calls) :
    callMachine.Throughout ListenersApart noInbounds calls :=
  callMachine.throughout_of_guarded
    (fun _ _ _ apart fits stepped => ListenersApart.step apart fits stepped)
    ⟨.nil, fun _ member => nomatch member⟩ guarded

/-- An SSTP inbound on the HTTPS port. -/
def sstpForm : Inbound where
  id := 0
  listen := ""
  port := 443
  protocol := .vpn .sstp
  settings := .parsed (.obj [("certificate", .str "pem"), ("key", .str "pem"),
    ("clients", .arr [])])
  enable := true
  tag := "inbound-443"

/-- An OpenVPN inbound with a TCP port of its own. -/
def openvpnForm (id tcpPort : Int) : Inbound where
  id := id
  listen := ""
  port := 1194
  protocol := .vpn .openvpn
  settings := .parsed (.obj [("udpEnable", .bool true),
    ("tcpEnable", .bool true), ("tcpPort", .int tcpPort),
    ("separatePorts", .bool true), ("caCert", .str "pem"),
    ("serverCert", .str "pem"), ("clients", .arr [])])
  enable := true
  tag := "inbound-1194"

def twoServers (id tcpPort : Int) : List (InboundCall × PanelHost) :=
  [(.addInbound sstpForm, hostWithId 1),
    (.addInbound (openvpnForm id tcpPort), hostWithId 2)]

theorem listeners_apart_twoServers :
    (callMachine.run noInbounds (twoServers 0 8443)).map Inbounds.endpoints =
      some [⟨"0.0.0.0", 12301⟩, ⟨"0.0.0.0", 443⟩, ⟨"127.0.0.1", 13301⟩,
        ⟨"0.0.0.0", 12302⟩, ⟨"0.0.0.0", 8443⟩] ∧
    callMachine.Throughout ListenersApart noInbounds (twoServers 0 8443) :=
  ⟨by decide +kernel,
    listeners_apart (twoServers 0 8443) (by decide +kernel)⟩

/-- The TCP port of OpenVPN is the port of SSTP, and the door of the inbound a
thousand ids later is the control port of SSTP. -/
theorem twoServers_collide :
    (callMachine.run noInbounds (twoServers 1001 443)).map Inbounds.endpoints =
      some [⟨"0.0.0.0", 12301⟩, ⟨"0.0.0.0", 443⟩, ⟨"127.0.0.1", 13301⟩,
        ⟨"0.0.0.0", 13301⟩, ⟨"0.0.0.0", 443⟩] ∧
    ¬ callMachine.Throughout ListenersApart noInbounds
      (twoServers 1001 443) := by
  have listed : (callMachine.run noInbounds (twoServers 1001 443)).map
      Inbounds.endpoints =
      some [⟨"0.0.0.0", 12301⟩, ⟨"0.0.0.0", 443⟩, ⟨"127.0.0.1", 13301⟩,
        ⟨"0.0.0.0", 13301⟩, ⟨"0.0.0.0", 443⟩] := by decide +kernel
  refine ⟨listed, ?_⟩
  intro throughout
  obtain ⟨inbounds, reached, same⟩ := Option.map_eq_some_iff.mp listed
  have apart := (throughout.final _ reached).1
  rw [same] at apart
  exact absurd apart (by decide)

end VpnUi.Panel
