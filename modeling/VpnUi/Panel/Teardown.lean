import VpnUi.Panel.Inbound
import VpnUi.Panel.VpnSettings

namespace VpnUi.Panel

open Foundation Address

/-! The commands that end the sessions of disabled clients, and what disabling
a client does to the stored settings. -/

/-- The protocols whose daemon ends a session by the name it logged in with. -/
inductive NamedSessions
  | openvpn
  | openconnect
  | sstp
  deriving DecidableEq

def NamedSessions.backend : NamedSessions → VpnProtocol
  | openvpn => .openvpn
  | openconnect => .openconnect
  | sstp => .sstp

inductive SessionCommand
  /-- "kill" on the management socket of a transport. -/
  | management (inboundId : Int) (transport : Transport) (commonName : String)
  /-- "disconnect user" through occtl. -/
  | occtl (inboundId : Int) (username : String)
  /-- "terminate username" on the port of accel-cmd. -/
  | accelCmd (port : Int) (username : String)
  deriving DecidableEq

def sstpCliPort (inboundId : Int) : Int := 13300 + inboundId

/-- `KillClient` of OpenVPN and OpenConnect, `killClientUser` of SSTP. -/
def killClient (kind : NamedSessions) (inboundId : Int) (username : String) :
    List SessionCommand :=
  match kind with
  | .openvpn =>
      [.management inboundId .udp username, .management inboundId .tcp username]
  | .openconnect => if username = "" then [] else [.occtl inboundId username]
  | .sstp =>
      if trimSpace username.toList = [] then []
      else [.accelCmd (sstpCliPort inboundId) username]

/-- The commands for one inbound; settings that do not parse are skipped. -/
def killDisabledOf (kind : NamedSessions) (disabledEmails : List String)
    (inbound : Inbound) : List SessionCommand :=
  match VpnSettings.parse kind.backend inbound.settings with
  | none => []
  | some settings =>
      settings.clients.flatMap fun client =>
        if ¬ client.enable ∨ client.email ∈ disabledEmails then
          killClient kind inbound.id client.id
        else []

/-- `KillDisabledSessions`; `disabledEmails` are those of client_traffics. -/
def killDisabledSessions (kind : NamedSessions) (inbounds : Inbounds)
    (disabledEmails : List String) : List SessionCommand :=
  (inbounds.ofProtocol (.vpn kind.backend)).flatMap
    (killDisabledOf kind disabledEmails)

/-- The settings with the client at an index switched off. -/
def disableClient (settings : JsonText) (index : Nat) : JsonText :=
  match settings with
  | .parsed (.obj fields) =>
      match JsonObject.get fields "clients" with
      | .arr clients =>
          .parsed (.obj (JsonObject.set fields "clients"
            (.arr (clients.modify index disableItem))))
      | _ => settings
  | _ => settings
where
  disableItem : Json → Json
    | .obj client => .obj (JsonObject.set client "enable" (.bool false))
    | item => item

def VpnClient.disable (client : VpnClient) : VpnClient :=
  { client with enable := false }

theorem decode_disableItem {item : Json}
    (fits : (Json.record VpnClient.decode item).fits = true) :
    (Json.record VpnClient.decode (disableClient.disableItem item)).fits =
        true ∧
      (Json.record VpnClient.decode (disableClient.disableItem item)).value =
        (Json.record VpnClient.decode item).value.disable := by
  cases item with
  | obj fields =>
      simp only [Json.record, VpnClient.decode, Decoded.fits_field,
        Decoded.fits_record, Bool.true_and, Bool.and_eq_true] at fits
      obtain ⟨⟨⟨id, password⟩, email⟩, -⟩ := fits
      simp (disch := decide) [Json.record, disableClient.disableItem,
        VpnClient.decode, JsonObject.get_set_ne, JsonObject.get_set_self, id,
        password, email, Json.flag, VpnClient.disable]
  | null => exact ⟨rfl, rfl⟩
  | _ => cases fits

theorem decode_modify_disableItem {items : List Json} (index : Nat)
    (fits : (Json.list (Json.record VpnClient.decode) (.arr items)).fits =
      true) :
    (Json.list (Json.record VpnClient.decode)
        (.arr (items.modify index disableClient.disableItem))).fits = true ∧
      (Json.list (Json.record VpnClient.decode)
        (.arr (items.modify index disableClient.disableItem))).value =
        (Json.list (Json.record VpnClient.decode) (.arr items)).value.modify
          index VpnClient.disable := by
  simp only [Json.list] at fits ⊢
  induction items generalizing index with
  | nil => simp
  | cons head tail induction =>
      rw [List.all_cons, Bool.and_eq_true] at fits
      cases index with
      | zero =>
          obtain ⟨headFits, headValue⟩ := decode_disableItem fits.1
          simp [headFits, headValue, fits.2]
      | succ index =>
          obtain ⟨tailFits, tailValue⟩ := induction index fits.2
          simp [tailFits, tailValue, fits.1]

/-- Disabling a client changes nothing else of what a service reads. -/
theorem parse_disableClient (backend : VpnProtocol) {settings : JsonText}
    (index : Nat)
    (fits : (VpnSettings.typedClients settings.fields).fits = true) :
    VpnSettings.parse backend (disableClient settings index) =
      (VpnSettings.parse backend settings).map fun parsed =>
        { parsed with
          clients := parsed.clients.modify index VpnClient.disable } := by
  have replaced : ∀ fields clients,
      clients =
        (VpnSettings.typedClients fields).value.modify index VpnClient.disable →
      ((VpnSettings.decoder backend fields).strict.map fun parsed =>
          { parsed with clients := clients }) =
        (VpnSettings.decoder backend fields).strict.map fun parsed =>
          { parsed with
            clients := parsed.clients.modify index VpnClient.disable } := by
    rintro fields clients rfl
    apply Option.map_congr
    intro parsed found
    rw [← (Decoded.strict_eq_some.mp found).2, VpnSettings.clients_decoder]
  have unchanged : ∀ fields, (VpnSettings.typedClients fields).value = [] →
      (VpnSettings.decoder backend fields).strict =
        (VpnSettings.decoder backend fields).strict.map fun parsed =>
          { parsed with
            clients := parsed.clients.modify index VpnClient.disable } := by
    intro fields absent
    rw [← replaced fields [] (by rw [absent, List.modify_nil])]
    refine Option.map_id'.symm.trans (Option.map_congr ?_)
    intro parsed found
    rw [← absent, ← VpnSettings.clients_decoder backend,
      (Decoded.strict_eq_some.mp found).2]
  simp only [VpnSettings.parse_eq_decode]
  cases settings with
  | parsed json =>
      cases json with
      | obj fields =>
          change (VpnSettings.typedClients fields).fits = true at fits
          simp only [disableClient]
          cases stored : JsonObject.get fields "clients" with
          | arr clients =>
              have typed : VpnSettings.typedClients fields =
                  Json.list (Json.record VpnClient.decode) (.arr clients) := by
                rw [VpnSettings.typedClients, stored]
              have both := decode_modify_disableItem index
                (typed ▸ fits)
              have modified : VpnSettings.typedClients
                  (JsonObject.set fields "clients"
                    (.arr (clients.modify index disableClient.disableItem))) =
                  Json.list (Json.record VpnClient.decode)
                    (.arr (clients.modify index disableClient.disableItem)) := by
                rw [VpnSettings.typedClients, JsonObject.get_set_self]
              simp only [JsonText.decode, Json.record]
              rw [VpnSettings.decoder_set_clients backend fits
                (by rw [modified]; exact both.1), Decoded.strict_map]
              apply replaced
              rw [modified, typed, both.2]
          | _ =>
              exact unchanged fields (by
                simp [VpnSettings.typedClients, stored, Json.list])
      | null => exact unchanged [] rfl
      | _ => rfl
  | _ => rfl

/-- The command that ends the sessions of a name; OpenVPN has one for each
transport. -/
def sessionCommand (kind : NamedSessions) (inboundId : Int)
    (transport : Transport) (username : String) : SessionCommand :=
  match kind with
  | .openvpn => .management inboundId transport username
  | .openconnect => .occtl inboundId username
  | .sstp => .accelCmd (sstpCliPort inboundId) username

/-- The names `killClient` does nothing for. -/
def Blank (kind : NamedSessions) (username : String) : Prop :=
  match kind with
  | .openvpn => False
  | .openconnect => username = ""
  | .sstp => trimSpace username.toList = []

theorem sessionCommand_mem_killClient {kind : NamedSessions}
    {inboundId otherId : Int} {transport : Transport}
    {username other : String} :
    sessionCommand kind inboundId transport username ∈
        killClient kind otherId other ↔
      otherId = inboundId ∧ other = username ∧ ¬ Blank kind username := by
  cases kind with
  | openvpn =>
      cases transport <;>
        simp [sessionCommand, killClient, Blank, eq_comm]
  | openconnect =>
      simp only [sessionCommand, killClient, Blank]
      split
      next blank =>
        simp only [List.not_mem_nil, false_iff]
        rintro ⟨-, rfl, nonblank⟩
        exact nonblank blank
      next nonblank =>
        simp only [List.mem_singleton, SessionCommand.occtl.injEq]
        constructor
        · rintro ⟨rfl, rfl⟩
          exact ⟨rfl, rfl, nonblank⟩
        · rintro ⟨rfl, rfl, -⟩
          exact ⟨rfl, rfl⟩
  | sstp =>
      simp only [sessionCommand, killClient, Blank]
      split
      next blank =>
        simp only [List.not_mem_nil, false_iff]
        rintro ⟨-, rfl, nonblank⟩
        exact nonblank blank
      next nonblank =>
        simp only [List.mem_singleton, SessionCommand.accelCmd.injEq,
          sstpCliPort]
        constructor
        · rintro ⟨port, rfl⟩
          exact ⟨by omega, rfl, nonblank⟩
        · rintro ⟨rfl, rfl, -⟩
          exact ⟨rfl, rfl⟩

theorem mem_killDisabledSessions {kind : NamedSessions} {inbounds : Inbounds}
    {disabledEmails : List String} {command : SessionCommand} :
    command ∈ killDisabledSessions kind inbounds disabledEmails ↔
      ∃ inbound ∈ inbounds, inbound.protocol = .vpn kind.backend ∧
        ∃ settings,
          VpnSettings.parse kind.backend inbound.settings = some settings ∧
          ∃ client ∈ settings.clients,
            (client.enable = false ∨ client.email ∈ disabledEmails) ∧
              command ∈ killClient kind inbound.id client.id := by
  simp only [killDisabledSessions, List.mem_flatMap, Inbounds.mem_ofProtocol]
  apply exists_congr
  intro inbound
  rw [and_assoc]
  apply and_congr_right
  intro _
  apply and_congr_right
  intro _
  unfold killDisabledOf
  cases VpnSettings.parse kind.backend inbound.settings with
  | none => simp
  | some settings => simp [List.mem_flatMap]

end VpnUi.Panel
