import VpnUi.Panel.Client

namespace VpnUi.Radius

open Foundation Panel

/-! How the RADIUS server finds an account in the inbounds table: for the
password of a login, and for the e-mail its traffic is charged to. -/

structure AuthEntry where
  id : String
  password : String
  email : String
  enable : Bool
  deriving DecidableEq

def AuthEntry.decode (fields : JsonObject) : Decoded AuthEntry :=
  (Decoded.record AuthEntry.mk).field (fields.get "id").text
    |>.field (fields.get "password").text
    |>.field (fields.get "email").text
    |>.field (fields.get "enable").flag

def AuthEntry.login (entry : AuthEntry) : Login := ⟨entry.id, entry.email⟩

/-- The settings with nothing but typed clients. -/
def clientsOf {Entry : Type} (entry : JsonObject → Decoded Entry)
    (fields : JsonObject) : Decoded (List Entry) :=
  Json.list (Json.record entry) (fields.get "clients")

def names (username : String) (login : Login) : Bool :=
  login.id = username || login.email = username

inductive LookupError
  | inboundNotFound (inboundId : Int)
  | noSuchClient (username : String) (backend : VpnProtocol)
  | inboundDisabled (inboundId : Int)
  | protocolMismatch (inboundId : Int) (expected : VpnProtocol)
      (got : Protocol)
  | settings (inboundId : Int)
  | clientDisabled (username : String)
  | trafficLimit (username email : String)
  | clientNotFound (username : String) (inboundId : Int)

def LookupError.text : LookupError → String
  | inboundNotFound id => "inbound " ++ toString id ++ " not found"
  | noSuchClient username backend =>
      "client " ++ username ++ " not found in any " ++ backend.name ++ " inbound"
  | inboundDisabled id => "inbound " ++ toString id ++ " disabled"
  | protocolMismatch id expected got =>
      "inbound " ++ toString id ++ " protocol mismatch: expected " ++
        expected.name ++ " got " ++ got.name
  | settings id => "failed to parse settings for inbound " ++ toString id
  | clientDisabled username =>
      "client " ++ username ++ " disabled in settings"
  | trafficLimit username email =>
      "client " ++ username ++ " traffic limit reached (email=" ++ email ++ ")"
  | clientNotFound username id =>
      "client " ++ username ++ " not found in inbound " ++ toString id

/-- The login of the first client of this name, if the settings parse. -/
def findLogin (username : String) (inbound : Inbound) : Option Login :=
  (inbound.settings.decode (clientsOf Login.decode)).bind
    (List.find? (names username))

def findClientInbound (inbounds : Inbounds) (backend : VpnProtocol)
    (username : String) : Option Inbound :=
  (inbounds.ofProtocol (.vpn backend)).find? fun inbound =>
    inbound.enable && (findLogin username inbound).isSome

/-- The inbound of a NAS-Identifier: its id, or the account's if it has
none. -/
def requestedInbound (inbounds : Inbounds) (backend : VpnProtocol)
    (inboundId : Int) (username : String) : Except LookupError Inbound :=
  if 0 < inboundId then
    match inbounds.find? inboundId with
    | none => .error (.inboundNotFound inboundId)
    | some inbound => .ok inbound
  else
    match findClientInbound inbounds backend username with
    | none => .error (.noSuchClient username backend)
    | some inbound => .ok inbound

/-- `lookupClient` up to the entry it matches; `trafficEnable` is the column of
client_traffics. -/
def lookupEntry (inbounds : Inbounds) (trafficEnable : String → Option Bool)
    (backend : VpnProtocol) (inboundId : Int) (username : String) :
    Except LookupError AuthEntry :=
  match requestedInbound inbounds backend inboundId username with
  | .error error => .error error
  | .ok inbound =>
      if inbound.enable = false then .error (.inboundDisabled inboundId)
      else if inbound.protocol ≠ .vpn backend then
        .error (.protocolMismatch inboundId backend inbound.protocol)
      else
        match inbound.settings.decode (clientsOf AuthEntry.decode) with
        | none => .error (.settings inboundId)
        | some clients =>
            match clients.find? fun client => names username client.login with
            | none => .error (.clientNotFound username inboundId)
            | some client =>
                if client.enable = false then .error (.clientDisabled username)
                else if client.email ≠ "" ∧
                    trafficEnable client.email = some false then
                  .error (.trafficLimit username client.email)
                else .ok client

def lookupClient (inbounds : Inbounds) (trafficEnable : String → Option Bool)
    (backend : VpnProtocol) (inboundId : Int) (username : String) :
    Except LookupError String :=
  (lookupEntry inbounds trafficEnable backend inboundId username).map
    AuthEntry.password

/-- The first match over all inbounds of the protocol, enabled or not. -/
def lookupEmail (inbounds : Inbounds) (backend : VpnProtocol)
    (username : String) : String :=
  (((inbounds.ofProtocol (.vpn backend)).findSome? (findLogin username)).map
    Login.email).getD ""

theorem requestedInbound_mem {inbounds : Inbounds} {backend : VpnProtocol}
    {inboundId : Int} {username : String} {inbound : Inbound}
    (found : requestedInbound inbounds backend inboundId username =
      .ok inbound) : inbound ∈ inbounds := by
  unfold requestedInbound at found
  split at found
  · split at found
    · cases found
    next byId =>
      obtain rfl := Except.ok.inj found
      exact (Table.find?_eq_some.mp byId).1
  · split at found
    · cases found
    next byName =>
      obtain rfl := Except.ok.inj found
      exact (Inbounds.mem_ofProtocol.mp (List.mem_of_find?_eq_some byName)).1

/-- What a successful lookup has found in its inbound. -/
theorem lookupEntry_of_requested {inbounds : Inbounds}
    {trafficEnable : String → Option Bool} {backend : VpnProtocol}
    {inboundId : Int} {username : String} {inbound : Inbound}
    {entry : AuthEntry}
    (requested : requestedInbound inbounds backend inboundId username =
      .ok inbound)
    (found : lookupEntry inbounds trafficEnable backend inboundId username =
      .ok entry) :
    inbound.protocol = .vpn backend ∧ inbound.enable = true ∧ ∃ clients,
      inbound.settings.decode (clientsOf AuthEntry.decode) = some clients ∧
      (clients.find? fun client => names username client.login) =
        some entry := by
  simp only [lookupEntry, requested] at found
  split at found
  · cases found
  next enabled =>
    split at found
    · cases found
    next matching =>
      split at found
      · cases found
      next clients decoded =>
        split at found
        · cases found
        next client first =>
          split at found
          · cases found
          split at found
          · cases found
          obtain rfl := Except.ok.inj found
          exact ⟨not_not.mp matching, by simpa using enabled, clients, decoded,
            first⟩

/-- What a successful lookup has found. -/
theorem lookupEntry_eq_ok {inbounds : Inbounds}
    {trafficEnable : String → Option Bool} {backend : VpnProtocol}
    {inboundId : Int} {username : String} {entry : AuthEntry}
    (found : lookupEntry inbounds trafficEnable backend inboundId username =
      .ok entry) :
    ∃ inbound ∈ inbounds, inbound.protocol = .vpn backend ∧
      inbound.enable = true ∧ ∃ clients,
        inbound.settings.decode (clientsOf AuthEntry.decode) = some clients ∧
        (clients.find? fun client => names username client.login) =
          some entry := by
  cases requested : requestedInbound inbounds backend inboundId username with
  | error error =>
      rw [lookupEntry, requested] at found
      cases found
  | ok inbound =>
      exact ⟨inbound, requestedInbound_mem requested,
        lookupEntry_of_requested requested found⟩

end VpnUi.Radius
