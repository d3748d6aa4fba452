import VpnUi.Radius.Auth
import VpnUi.Radius.Identity
import VpnUi.Radius.Isolation
import VpnUi.Radius.RoutingMap

namespace VpnUi.Radius

open Foundation Panel Address

/-! The address that an accepted login gets, and whose address the routing
rules take it for. -/

/-- The settings that `getClientIP` reads. -/
structure DialSettings where
  addresses : AddressSettings
  strategy : String

def DialSettings.decode (fields : JsonObject) : Decoded DialSettings :=
  ((AddressSettings.decode fields).map DialSettings.mk).checked
      (fields.get "localIp").text
    |>.field (fields.get "userLimitStrategy").text

/-- Calling-Station-Id and NAS-Port. -/
structure Station where
  callingStation : String
  nasPort : Nat

namespace RadiusService

/-- No address, and no denial. -/
def unanswered (service : RadiusService) : Allocation :=
  ⟨service, none, false, []⟩

def getClientIP (service : RadiusService) (inbounds : Inbounds)
    (backend : VpnProtocol) (inboundId : Int) (username : String)
    (station : Station) (host : DialHost) : Allocation :=
  match requestedInbound inbounds backend inboundId username with
  | .error _ => service.unanswered
  | .ok inbound =>
      match inbound.settings.decode DialSettings.decode with
      | none => service.unanswered
      | some settings =>
          match settings.addresses.clients.findIdx? (names username) with
          | none => service.unanswered
          | some clientIndex =>
              let email :=
                (settings.addresses.clients[clientIndex]?.map Login.email).getD
                  ""
              let blockIPs :=
                settings.addresses.deviceIPs backend inbound.id clientIndex
              if backend = .openvpn then
                ⟨service, computeVpnClientIP settings.addresses.ranges
                  inbound.id clientIndex backend, false, []⟩
              else if blockIPs = [] then service.unanswered
              else
                service.allocateBlockIP
                  { inboundId := inbound.id.toNat
                    clientIndex := clientIndex
                    blockIPs := blockIPs
                    protocol := backend
                    strategy := normUserLimitStrategy settings.strategy
                    station := station.callingStation
                    nasPort := station.nasPort
                    email := email } host

end RadiusService

/-- The answer with the Framed-IP-Address that goes with it. -/
inductive FramedReply
  | accept (framedIP : Option Ipv4)
  | reject
  deriving DecidableEq

structure Answer where
  reply : FramedReply
  service : RadiusService
  effects : List Effect

/-- The answer after the address has been asked for; `counters` are those of
the address. -/
def framed (allocation : Allocation) (counters : Ipv4 → List Effect) : Answer :=
  if allocation.deny then ⟨.reject, allocation.service, allocation.effects⟩
  else
    ⟨.accept allocation.ip, allocation.service,
      allocation.effects ++ allocation.ip.toList.flatMap counters⟩

/-- The whole of `handleAuth`. -/
def answer (ntResponse : NtResponse) (service : RadiusService)
    (inbounds : Inbounds) (trafficEnable : String → Option Bool)
    (station : Station) (host : DialHost) (request : AccessRequest) : Answer :=
  let rejected : Answer := ⟨.reject, service, []⟩
  match request.nas with
  | none => rejected
  | some (backend, inboundId) =>
      if request.username = "" then rejected
      else
        match lookupClient inbounds trafficEnable backend inboundId
            request.username with
        | .error _ => rejected
        | .ok password =>
            let allocation := service.getClientIP inbounds backend inboundId
              request.username station host
            if request.userPassword ≠ "" then
              if request.userPassword ≠ password then rejected
              -- ocserv's accounting names no device, so its counters start here
              else if backend = .openconnect then
                framed allocation fun ip => [.addAccounting backend ip]
              else ⟨.accept none, service, []⟩
            else if request.challenge.length ≠ 16 ∨
                request.response.length ≠ 50 then rejected
            else
              match ntResponse request.challenge
                  ((request.response.drop 2).take 16) request.username
                  password with
              | none => rejected
              | some expected =>
                  if expected ≠ (request.response.drop 26).take 24 then
                    rejected
                  else framed allocation fun _ => []

section Decoding

variable {settings : JsonText}

/-- A record whose parts are parts of another decodes with it. -/
theorem decode_of_parts {Whole Part : Type}
    {whole : JsonObject → Decoded Whole} {part : JsonObject → Decoded Part}
    {view : Whole → Part}
    (parts : ∀ fields, ((whole fields).fits = true →
      (part fields).fits = true) ∧
        (part fields).value = view (whole fields).value)
    {value : Whole} (decoded : settings.decode whole = some value) :
    settings.decode part = some (view value) := by
  cases settings with
  | parsed json =>
      simp only [JsonText.decode, Decoded.strict_eq_some] at decoded ⊢
      cases json with
      | obj fields =>
          obtain ⟨fits, rfl⟩ := decoded
          exact ⟨(parts fields).1 fits, (parts fields).2⟩
      | null =>
          obtain ⟨fits, rfl⟩ := decoded
          exact ⟨(parts []).1 fits, (parts []).2⟩
      | _ => exact absurd decoded.1 (by simp [Json.record])
  | _ => cases decoded

variable {dial : DialSettings}

theorem decode_addresses
    (decoded : settings.decode DialSettings.decode = some dial) :
    settings.decode AddressSettings.decode = some dial.addresses := by
  refine @decode_of_parts settings _ _ _ _ DialSettings.addresses
    (fun fields => ⟨?_, rfl⟩) _ decoded
  intro fits
  simp only [DialSettings.decode, Decoded.fits_field, Decoded.fits_checked,
    Decoded.fits_map, Bool.and_eq_true] at fits
  exact fits.1.1

theorem decode_clients
    (decoded : settings.decode DialSettings.decode = some dial) :
    settings.decode (clientsOf Login.decode) = some dial.addresses.clients := by
  refine @decode_of_parts settings _ _ _ _ AddressSettings.clients
    (fun fields => ⟨?_, rfl⟩) _ (decode_addresses decoded)
  intro fits
  simp only [AddressSettings.decode, Decoded.fits_field, Bool.and_eq_true]
    at fits
  exact fits.2

end Decoding

section Map

variable {inbounds : Inbounds} {inbound : Inbound} {backend : VpnProtocol}
  {settings : AddressSettings} {index : Nat} {client : Login}
  {email : String} {ip : Ipv4} {vpnMap : Xray.VpnMap} {updates : List Update}

theorem lookup_addUpdate_iff {update : Update} :
    (∃ addresses, (addUpdate vpnMap update).lookup email = some addresses ∧
        ip ∈ addresses) ↔
      (∃ addresses, vpnMap.lookup email = some addresses ∧ ip ∈ addresses) ∨
        (update.1 = email ∧ ip ∈ update.2) := by
  unfold addUpdate
  by_cases same : email = update.1
  · subst same
    rw [AList.lookup_insert]
    cases vpnMap.lookup update.1 with
    | none => simp
    | some addresses => simp
  · rw [AList.lookup_insert_ne same]
    simp [Ne.symm same]

/-- The map has for an e-mail what the updates for it add. -/
theorem lookup_foldl_addUpdate_iff :
    (∃ addresses, (updates.foldl addUpdate vpnMap).lookup email =
        some addresses ∧ ip ∈ addresses) ↔
      (∃ addresses, vpnMap.lookup email = some addresses ∧ ip ∈ addresses) ∨
        ∃ update ∈ updates, update.1 = email ∧ ip ∈ update.2 := by
  induction updates generalizing vpnMap with
  | nil => simp
  | cons update updates induction =>
      rw [List.foldl_cons, induction, lookup_addUpdate_iff, or_assoc,
        List.exists_mem_cons_iff]

theorem mem_pppUpdates
    (decoded : inbound.settings.decode AddressSettings.decode = some settings)
    (found : settings.clients[index]? = some client) (named : client.email ≠ "")
    (device : ip ∈ settings.deviceIPs backend inbound.id index) :
    (client.email, settings.deviceIPs backend inbound.id index) ∈
      pppUpdates backend inbound := by
  have present : settings.deviceIPs backend inbound.id index ≠ [] := by
    intro none
    rw [none] at device
    cases device
  rw [pppUpdates, decoded]
  refine List.mem_filterMap.mpr ⟨(client, index),
    List.mk_mem_zipIdx_iff_getElem?.mpr found, ?_⟩
  dsimp only
  rw [accountUpdate, if_neg]
  intro skipped
  rcases skipped with blank | ⟨-, none⟩
  · exact named blank
  · exact present none

theorem mem_mapUpdates_of_row {update : Update} (stored : inbound ∈ inbounds)
    (isVpn : inbound.protocol = .vpn backend) (enabled : inbound.enable = true)
    (other : backend ≠ .openvpn) (member : update ∈ pppUpdates backend inbound) :
    update ∈ mapUpdates inbounds := by
  have row : rowUpdates inbound = pppUpdates backend inbound := by
    rw [rowUpdates, isVpn]
    cases backend <;> first | rfl | exact absurd rfl other
  have apart : inbound.protocol ≠ .vpn .openvpn := by
    rw [isVpn]
    intro same
    exact other (Protocol.vpn.inj same)
  refine List.mem_append_left _ (List.mem_flatMap.mpr ⟨inbound,
    List.mem_filter.mpr ⟨List.mem_filter.mpr ⟨stored, enabled⟩,
      decide_eq_true apart⟩, ?_⟩)
  rw [row]
  exact member

/-- The map has the device addresses of a client under its e-mail. -/
theorem mem_map_of_device (stored : inbound ∈ inbounds)
    (isVpn : inbound.protocol = .vpn backend) (enabled : inbound.enable = true)
    (other : backend ≠ .openvpn)
    (decoded : inbound.settings.decode AddressSettings.decode = some settings)
    (found : settings.clients[index]? = some client) (named : client.email ≠ "")
    (device : ip ∈ settings.deviceIPs backend inbound.id index) :
    ∃ addresses, (buildVpnEmailToIPMap inbounds).lookup client.email =
      some addresses ∧ ip ∈ addresses := by
  rw [buildVpnEmailToIPMap, lookup_foldl_addUpdate_iff]
  exact .inr ⟨_, mem_mapUpdates_of_row stored isVpn enabled other
    (mem_pppUpdates decoded found named device), rfl, device⟩

end Map

section Answers

variable {ntResponse : NtResponse} {service : RadiusService}
  {inbounds : Inbounds} {trafficEnable : String → Option Bool}
  {station : Station} {host : DialHost} {request : AccessRequest}
  {backend : VpnProtocol} {inboundId : Int} {username : String} {ip : Ipv4}

/-- The address is a device address of the first client of the name. -/
theorem getClientIP_eq_some (other : backend ≠ .openvpn)
    (given : (service.getClientIP inbounds backend inboundId username station
      host).ip = some ip) :
    ∃ inbound settings index,
      requestedInbound inbounds backend inboundId username = .ok inbound ∧
      inbound.settings.decode DialSettings.decode = some settings ∧
      settings.addresses.clients.findIdx? (names username) = some index ∧
      ip ∈ settings.addresses.deviceIPs backend inbound.id index := by
  unfold RadiusService.getClientIP at given
  cases requested : requestedInbound inbounds backend inboundId username with
  | error err =>
      rw [requested] at given
      cases given
  | ok inbound =>
      rw [requested] at given
      dsimp only at given
      cases decoded : inbound.settings.decode DialSettings.decode with
      | none =>
          rw [decoded] at given
          cases given
      | some settings =>
          rw [decoded] at given
          dsimp only at given
          cases found : settings.addresses.clients.findIdx? (names username) with
          | none =>
              rw [found] at given
              cases given
          | some index =>
              rw [found] at given
              dsimp only at given
              rw [if_neg other] at given
              split at given
              next => cases given
              next =>
                exact ⟨inbound, settings, index, rfl, decoded, found,
                  RadiusService.allocateBlockIP_address given⟩

theorem framed_eq_accept {allocation : Allocation}
    {counters : Ipv4 → List Effect}
    (accepted : (framed allocation counters).reply = .accept (some ip)) :
    allocation.ip = some ip := by
  unfold framed at accepted
  split at accepted
  next => cases accepted
  next => exact FramedReply.accept.inj accepted

/-- An address is only given with the right password, and by `getClientIP`. -/
theorem answer_eq_accept
    (accepted : (answer ntResponse service inbounds trafficEnable station host
      request).reply = .accept (some ip)) :
    ∃ backend inboundId password, request.nas = some (backend, inboundId) ∧
      lookupClient inbounds trafficEnable backend inboundId request.username =
        .ok password ∧
      ComputedFrom ntResponse request password ∧
      (service.getClientIP inbounds backend inboundId request.username station
        host).ip = some ip := by
  unfold answer at accepted
  extract_lets rejected at accepted
  cases parsed : request.nas with
  | none =>
      rw [parsed] at accepted
      cases accepted
  | some nas =>
  obtain ⟨backend, inboundId⟩ := nas
  rw [parsed] at accepted
  dsimp only at accepted
  split at accepted
  next => cases accepted
  next =>
    cases found : lookupClient inbounds trafficEnable backend inboundId
        request.username with
    | error err =>
        rw [found] at accepted
        cases accepted
    | ok password =>
    rw [found] at accepted
    dsimp only at accepted
    refine ⟨backend, inboundId, password, rfl, found, ?_⟩
    split at accepted
    next plain =>
      split at accepted
      next => cases accepted
      next same =>
        split at accepted
        next => exact ⟨.inl ⟨plain, not_not.mp same⟩, framed_eq_accept accepted⟩
        next => cases accepted
    next challenged =>
      split at accepted
      next => cases accepted
      next =>
        cases computed : ntResponse request.challenge
            ((request.response.drop 2).take 16) request.username password with
        | none =>
            rw [computed] at accepted
            cases accepted
        | some expected =>
            rw [computed] at accepted
            dsimp only at accepted
            split at accepted
            next => cases accepted
            next same =>
              refine ⟨.inr ⟨not_not.mp challenged, ?_⟩,
                framed_eq_accept accepted⟩
              rw [computed, not_not.mp same]

theorem framed_reply_reject_iff {allocation : Allocation}
    {counters : Ipv4 → List Effect} :
    (framed allocation counters).reply = .reject ↔ allocation.deny = true := by
  unfold framed
  split
  next denied => exact iff_of_true rfl denied
  next admitted => exact iff_of_false (by intro same; cases same) admitted

/-- The address does not change whether a login is accepted. -/
theorem answer_reject_iff (nas : request.nas = some (backend, inboundId)) :
    (answer ntResponse service inbounds trafficEnable station host
        request).reply = .reject ↔
      handleAuth ntResponse inbounds trafficEnable
        (service.getClientIP inbounds backend inboundId request.username
          station host).deny request = .reject := by
  unfold answer handleAuth
  extract_lets rejected
  rw [nas]
  dsimp only
  by_cases unnamed : request.username = ""
  · rw [if_pos unnamed, if_pos unnamed]
    exact iff_of_true rfl rfl
  rw [if_neg unnamed, if_neg unnamed]
  cases lookupClient inbounds trafficEnable backend inboundId
      request.username with
  | error err => exact iff_of_true rfl rfl
  | ok password =>
      dsimp only
      by_cases blank : request.userPassword = ""
      · have computed_iff : ComputedFrom ntResponse request password ↔
            ntResponse request.challenge ((request.response.drop 2).take 16)
              request.username password =
                some ((request.response.drop 26).take 24) := by
          simp [ComputedFrom, blank]
        have asked : gated request backend = true := by simp [gated, blank]
        rw [if_neg (not_not.mpr blank)]
        by_cases lengths : request.challenge.length ≠ 16 ∨
            request.response.length ≠ 50
        · rw [if_pos lengths, if_pos ⟨blank, lengths⟩]
          exact iff_of_true rfl rfl
        · rw [if_neg lengths, if_neg fun both => lengths both.2]
          cases computed : ntResponse request.challenge
              ((request.response.drop 2).take 16) request.username password with
          | none =>
              rw [if_pos]
              · exact iff_of_true rfl rfl
              · rw [computed_iff, computed]
                exact fun same => by cases same
          | some expected =>
              dsimp only
              by_cases same : expected = (request.response.drop 26).take 24
              · have right : ComputedFrom ntResponse request password := by
                  rw [computed_iff, computed, same]
                rw [if_neg (not_not.mpr same), if_neg (not_not.mpr right),
                  framed_reply_reject_iff]
                simp [asked]
              · have wrong : ¬ ComputedFrom ntResponse request password := by
                  rw [computed_iff, computed]
                  exact fun held => same (Option.some.inj held)
                rw [if_pos same, if_pos wrong]
                exact iff_of_true rfl rfl
      · have computed_iff : ComputedFrom ntResponse request password ↔
            request.userPassword = password := by
          simp [ComputedFrom, blank]
        have given : ¬ (request.userPassword = "" ∧
            (request.challenge.length ≠ 16 ∨ request.response.length ≠ 50)) :=
          fun both => blank both.1
        rw [if_pos blank, if_neg given]
        by_cases same : request.userPassword = password
        · rw [if_neg (not_not.mpr same),
            if_neg (not_not.mpr (computed_iff.mpr same))]
          by_cases ocserv : backend = .openconnect
          · rw [if_pos ocserv, framed_reply_reject_iff]
            simp [gated, ocserv]
          · rw [if_neg ocserv, if_neg]
            · exact iff_of_false (by intro same; cases same)
                (by intro same; cases same)
            · simp [gated, blank, ocserv]
        · rw [if_pos same, if_pos fun held => same (computed_iff.mp held)]
          exact iff_of_true rfl rfl

/-- An address is a device address of the account that the password is of. -/
theorem device_of_accepted (nas : request.nas = some (backend, inboundId))
    (other : backend ≠ .openvpn)
    (accepted : (answer ntResponse service inbounds trafficEnable station host
      request).reply = .accept (some ip)) :
    ∃ inbound ∈ inbounds, inbound.protocol = .vpn backend ∧
      inbound.enable = true ∧ ∃ entry settings index,
        lookupEntry inbounds trafficEnable backend inboundId
          request.username = .ok entry ∧
        ComputedFrom ntResponse request entry.password ∧
        inbound.settings.decode DialSettings.decode = some settings ∧
        settings.addresses.clients[index]? = some entry.login ∧
        ip ∈ settings.addresses.deviceIPs backend inbound.id index := by
  obtain ⟨backend', inboundId', password, nas', found, computed, given⟩ :=
    answer_eq_accept accepted
  obtain ⟨rfl, rfl⟩ := Prod.mk.inj (Option.some.inj (nas.symm.trans nas'))
  obtain ⟨inbound, settings, index, requested, decoded, first, device⟩ :=
    getClientIP_eq_some other given
  obtain ⟨entry, looked, rfl⟩ : ∃ entry, lookupEntry inbounds trafficEnable
      backend inboundId request.username = .ok entry ∧
        entry.password = password := by
    unfold lookupClient at found
    cases looked : lookupEntry inbounds trafficEnable backend inboundId
        request.username with
    | error err =>
        rw [looked] at found
        cases found
    | ok entry =>
        rw [looked] at found
        exact ⟨entry, rfl, Except.ok.inj found⟩
  obtain ⟨isVpn, enabled, entries, entriesDecoded, matched⟩ :=
    lookupEntry_of_requested requested looked
  have same : settings.addresses.clients = entries.map AuthEntry.login :=
    Option.some.inj ((decode_clients decoded).symm.trans
      (decode_logins entriesDecoded))
  have client : settings.addresses.clients[index]? = some entry.login := by
    have login : settings.addresses.clients.find? (names request.username) =
        some entry.login := by
      rw [same, List.find?_map]
      exact congrArg (Option.map AuthEntry.login) matched
    rw [List.find?_eq_bind_findIdx?_getElem?, first] at login
    exact login
  exact ⟨inbound, requestedInbound_mem requested, isVpn, enabled, entry,
    settings, index, looked, computed, decoded, client, device⟩

theorem owner_of_lookup (disjoint : (buildVpnEmailToIPMap inbounds).Disjoint)
    {email : String} {addresses : List Ipv4}
    (held : (buildVpnEmailToIPMap inbounds).lookup email = some addresses)
    (inside : ip ∈ addresses) :
    (buildVpnEmailToIPMap inbounds).owner ip = some email := by
  cases owned : (buildVpnEmailToIPMap inbounds).owner ip with
  | none => exact absurd inside (Xray.VpnMap.not_mem_of_unowned owned held)
  | some other =>
      obtain ⟨others, heldOther, insideOther⟩ :=
        Xray.VpnMap.addresses_of_owner owned
      rw [disjoint other others email addresses heldOther held ip insideOther
        inside]

/-- A login with the right password gets, if anything, a device address of the
account of this password, and the routing rules are translated with this
address under the account's e-mail. -/
theorem accepted_address_routed (ntResponse : NtResponse)
    (service : RadiusService) (inbounds : Inbounds)
    (trafficEnable : String → Option Bool) (station : Station)
    (host : DialHost) (request : AccessRequest) (backend : VpnProtocol)
    (inboundId : Int) (ip : Ipv4) (nas : request.nas = some (backend, inboundId))
    (other : backend ≠ .openvpn)
    (accepted : (answer ntResponse service inbounds trafficEnable station host
      request).reply = .accept (some ip)) :
    ∃ inbound ∈ inbounds, inbound.protocol = .vpn backend ∧
      inbound.enable = true ∧ ∃ entry settings index,
        lookupEntry inbounds trafficEnable backend inboundId
          request.username = .ok entry ∧
        ComputedFrom ntResponse request entry.password ∧
        inbound.settings.decode DialSettings.decode = some settings ∧
        settings.addresses.clients[index]? = some entry.login ∧
        ip ∈ settings.addresses.deviceIPs backend inbound.id index ∧
        (entry.email ≠ "" →
          (∃ addresses, (buildVpnEmailToIPMap inbounds).lookup entry.email =
            some addresses ∧ ip ∈ addresses) ∧
          ((buildVpnEmailToIPMap inbounds).Disjoint →
            (buildVpnEmailToIPMap inbounds).owner ip = some entry.email)) := by
  obtain ⟨inbound, stored, isVpn, enabled, entry, settings, index, looked,
    computed, decoded, client, device⟩ := device_of_accepted nas other accepted
  refine ⟨inbound, stored, isVpn, enabled, entry, settings, index, looked,
    computed, decoded, client, device, ?_⟩
  intro named
  obtain ⟨addresses, held, inside⟩ := mem_map_of_device stored isVpn enabled
    other (decode_addresses decoded) client named device
  exact ⟨⟨addresses, held, inside⟩, fun disjoint =>
    owner_of_lookup disjoint held inside⟩

end Answers

/-- An OpenConnect inbound with one client. -/
def ocservInbound : Inbound where
  id := 5
  listen := ""
  port := 4443
  protocol := .vpn .openconnect
  settings := .parsed (.obj [
    ("clients", .arr [.obj [("id", .str "ann"), ("password", .str "p"),
      ("email", .str "ann@home"), ("enable", .bool true)]]),
    ("ipRanges", .arr [.str "10.4.5.2-10.4.5.254"]), ("userLimit", .int 2)])
  enable := true
  tag := "inbound-4443"

def ocservInbounds : Inbounds := Table.empty.save ocservInbound

def annRequest : AccessRequest where
  username := "ann"
  nas := some (.openconnect, 0)
  userPassword := "p"
  challenge := []
  response := []

theorem accepted_address_routed_ann :
    ∃ ip, (answer (fun _ _ _ _ => none) .empty ocservInbounds (fun _ => none)
        ⟨"192.0.2.1", 0⟩ (.inOrder 0 fun _ => true) annRequest).reply =
          .accept (some ip) ∧
      ∃ addresses, (buildVpnEmailToIPMap ocservInbounds).lookup "ann@home" =
        some addresses ∧ ip ∈ addresses := by
  have accepted : (answer (fun _ _ _ _ => none) .empty ocservInbounds
      (fun _ => none) ⟨"192.0.2.1", 0⟩ (.inOrder 0 fun _ => true)
        annRequest).reply = .accept (some ⟨⟨10, 4, 5⟩, 2⟩) := by
    decide +kernel
  obtain ⟨inbound, -, -, -, entry, -, -, looked, -, -, -, -, routed⟩ :=
    accepted_address_routed _ _ ocservInbounds _ _ _ annRequest .openconnect 0 _
      rfl (by decide) accepted
  have found : lookupEntry ocservInbounds (fun _ => none) .openconnect 0
      "ann" = .ok ⟨"ann", "p", "ann@home", true⟩ := rfl
  obtain rfl := Except.ok.inj (found.symm.trans looked)
  exact ⟨_, accepted, (routed (by decide)).1⟩

end VpnUi.Radius
