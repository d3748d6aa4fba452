import VpnUi.Panel.Client
import VpnUi.Panel.Inbound
import VpnUi.Panel.VpnSettings
import VpnUi.Xray.Routing

namespace VpnUi.Radius

open Foundation Panel Address

/-! The addresses of the accounts by e-mail, as the routing rules are translated
with them, and the addresses that the services give to the accounts. -/

/-- What the addresses of the accounts of a PPP or OpenConnect inbound depend
on. -/
structure AddressSettings where
  ipRanges : List String
  ipRange : String
  userLimit : Option Int
  clients : List Login

namespace AddressSettings

def decode (fields : JsonObject) : Decoded AddressSettings :=
  (Decoded.record AddressSettings.mk).field
      (Json.list Json.text (fields.get "ipRanges"))
    |>.field (fields.get "ipRange").text
    |>.field (fields.get "userLimit").optionalNumber
    |>.field (Json.list (Json.record Login.decode) (fields.get "clients"))

/-- `getClientIP` reads two fields more. -/
def decodeDial (fields : JsonObject) : Decoded AddressSettings :=
  (decode fields).checked (fields.get "localIp").text
    |>.checked (fields.get "userLimitStrategy").text

def ranges (settings : AddressSettings) : List String :=
  if settings.ipRanges = [] ∧ settings.ipRange ≠ "" then [settings.ipRange]
  else settings.ipRanges

def limit (settings : AddressSettings) : Nat :=
  effectiveUserLimit settings.userLimit

/-- The device addresses of the account at an index. -/
def deviceIPs (settings : AddressSettings) (backend : VpnProtocol) (id : Int)
    (index : Nat) : List Ipv4 :=
  if settings.limit ≤ 1 then
    (computeVpnClientIP settings.ranges id index backend).toList
  else
    vpnAccountDeviceIPs (pppSubnetsOrDefault settings.ranges backend id) index
      settings.limit

end AddressSettings

/-! The map. -/

/-- Addresses that are added to those of an e-mail. -/
abbrev Update := String × List Ipv4

/-- A single address that does not exist is not added. -/
def accountUpdate (limit : Nat) (email : String) (ips : List Ipv4) :
    Option Update :=
  if email = "" ∨ (limit ≤ 1 ∧ ips = []) then none else some (email, ips)

def pppUpdates (backend : VpnProtocol) (row : Inbound) : List Update :=
  match row.settings.decode AddressSettings.decode with
  | none => []
  | some settings =>
      settings.clients.zipIdx.filterMap fun (client, index) =>
        accountUpdate settings.limit client.email
          (settings.deviceIPs backend row.id index)

def ovpnUpdates (row : Inbound) : List Update :=
  match VpnSettings.parse .openvpn row.settings with
  | none => []
  | some settings =>
      settings.clients.zipIdx.flatMap fun (client, index) =>
        ([.udp, .tcp].filter settings.enabled).filterMap fun transport =>
          accountUpdate (effectiveUserLimit settings.userLimit) client.email
            (settings.ovpnDeviceIPs row.id transport index)

def rowUpdates (row : Inbound) : List Update :=
  match row.protocol with
  | .vpn .openvpn => ovpnUpdates row
  | .vpn backend => pppUpdates backend row
  | _ => []

def mapUpdates (inbounds : Inbounds) : List Update :=
  let enabled := inbounds.rows.filter (·.enable)
  (enabled.filter (·.protocol ≠ .vpn .openvpn)).flatMap rowUpdates ++
    (enabled.filter (·.protocol = .vpn .openvpn)).flatMap rowUpdates

def addUpdate (vpnMap : Xray.VpnMap) (update : Update) : Xray.VpnMap :=
  vpnMap.insert update.1 ((vpnMap.lookup update.1).getD [] ++ update.2)

/-- `BuildVpnEmailToIPMap`. -/
def buildVpnEmailToIPMap (inbounds : Inbounds) : Xray.VpnMap :=
  (mapUpdates inbounds).foldl addUpdate ∅

/-! The assignment. -/

/-- The addresses that RADIUS, or for OpenVPN the hook, has for the client at an
index. -/
def clientAddresses (backend : VpnProtocol) (row : Inbound) (index : Nat) :
    List Ipv4 :=
  match backend with
  | .openvpn =>
      match VpnSettings.parse .openvpn row.settings with
      | none => []
      | some settings =>
          match settings.clients[index]? with
          | none => []
          | some client =>
              if client.id = "" then []
              else ([.udp, .tcp].filter settings.enabled).flatMap fun transport =>
                settings.ovpnDeviceIPs row.id transport index
  | backend =>
      match row.settings.decode AddressSettings.decodeDial with
      | none => []
      | some settings =>
          if index < settings.clients.length then
            settings.deviceIPs backend row.id index
          else []

/-- The address belongs to a client of an enabled VPN inbound. -/
def Assigned (inbounds : Inbounds) (ip : Ipv4) : Prop :=
  ∃ row ∈ inbounds, row.enable = true ∧ ∃ backend,
    row.protocol = .vpn backend ∧ ∃ index,
      ip ∈ clientAddresses backend row index

/-! What the map holds. -/

/-- The addresses in the map for the client at an index, if it has an e-mail. -/
def listedAddresses (backend : VpnProtocol) (row : Inbound) (index : Nat) :
    List Ipv4 :=
  match backend with
  | .openvpn =>
      match VpnSettings.parse .openvpn row.settings with
      | none => []
      | some settings =>
          match settings.clients[index]? with
          | none => []
          | some client =>
              if client.email = "" then []
              else ([.udp, .tcp].filter settings.enabled).flatMap fun transport =>
                settings.ovpnDeviceIPs row.id transport index
  | backend =>
      match row.settings.decode AddressSettings.decode with
      | none => []
      | some settings =>
          match settings.clients[index]? with
          | none => []
          | some client =>
              if client.email = "" then []
              else settings.deviceIPs backend row.id index

/-- The address is one of a client with an e-mail of an enabled VPN inbound. -/
def Listed (inbounds : Inbounds) (ip : Ipv4) : Prop :=
  ∃ row ∈ inbounds, row.enable = true ∧ ∃ backend,
    row.protocol = .vpn backend ∧ ∃ index,
      ip ∈ listedAddresses backend row index

section Listed

variable {inbounds : Inbounds} {row : Inbound} {ip : Ipv4} {ips : List Ipv4}
  {limit : Nat} {email : String} {vpnMap : Xray.VpnMap} {updates : List Update}

theorem mem_accountUpdate_iff :
    (∃ update, accountUpdate limit email ips = some update ∧ ip ∈ update.2) ↔
      email ≠ "" ∧ ip ∈ ips := by
  unfold accountUpdate
  split
  next skipped =>
    constructor
    · intro held
      obtain ⟨_, none, _⟩ := held
      cases none
    · intro held
      obtain ⟨named, member⟩ := held
      rcases skipped with blank | ⟨-, rfl⟩
      · exact absurd blank named
      · cases member
  next kept =>
    constructor
    · intro held
      obtain ⟨_, made, member⟩ := held
      obtain rfl := Option.some.inj made
      exact ⟨fun blank => kept (.inl blank), member⟩
    · intro held
      obtain ⟨-, member⟩ := held
      exact ⟨_, rfl, member⟩

theorem mem_pppUpdates_iff {backend : VpnProtocol}
    (other : backend ≠ .openvpn) :
    (∃ update ∈ pppUpdates backend row, ip ∈ update.2) ↔
      ∃ index, ip ∈ listedAddresses backend row index := by
  have listed : ∀ index, listedAddresses backend row index =
      match row.settings.decode AddressSettings.decode with
      | none => []
      | some settings =>
          match settings.clients[index]? with
          | none => []
          | some client =>
              if client.email = "" then []
              else settings.deviceIPs backend row.id index := by
    intro index
    cases backend <;> first | rfl | exact absurd rfl other
  simp only [listed, pppUpdates]
  cases row.settings.decode AddressSettings.decode with
  | none => simp
  | some settings =>
      dsimp only
      constructor
      · intro held
        obtain ⟨update, member, inside⟩ := held
        obtain ⟨⟨client, index⟩, found, made⟩ := List.mem_filterMap.mp member
        rw [List.mk_mem_zipIdx_iff_getElem?] at found
        obtain ⟨named, inside⟩ := mem_accountUpdate_iff.mp ⟨update, made, inside⟩
        refine ⟨index, ?_⟩
        rw [found]
        dsimp only
        rwa [if_neg named]
      · intro held
        obtain ⟨index, inside⟩ := held
        cases found : settings.clients[index]? with
        | none =>
            rw [found] at inside
            cases inside
        | some client =>
            rw [found] at inside
            dsimp only at inside
            split at inside
            · cases inside
            next named =>
              obtain ⟨update, made, inside⟩ :=
                (@mem_accountUpdate_iff _ _ settings.limit client.email).mpr
                  ⟨named, inside⟩
              exact ⟨update, List.mem_filterMap.mpr ⟨(client, index),
                List.mk_mem_zipIdx_iff_getElem?.mpr found, made⟩, inside⟩

theorem mem_ovpnUpdates_iff :
    (∃ update ∈ ovpnUpdates row, ip ∈ update.2) ↔
      ∃ index, ip ∈ listedAddresses .openvpn row index := by
  simp only [listedAddresses, ovpnUpdates]
  cases VpnSettings.parse .openvpn row.settings with
  | none => simp
  | some settings =>
      dsimp only
      constructor
      · intro held
        obtain ⟨update, member, inside⟩ := held
        obtain ⟨⟨client, index⟩, found, member⟩ := List.mem_flatMap.mp member
        obtain ⟨transport, enabled, made⟩ := List.mem_filterMap.mp member
        rw [List.mk_mem_zipIdx_iff_getElem?] at found
        obtain ⟨named, inside⟩ := mem_accountUpdate_iff.mp ⟨update, made, inside⟩
        refine ⟨index, ?_⟩
        rw [found]
        dsimp only
        rw [if_neg named]
        exact List.mem_flatMap.mpr ⟨transport, enabled, inside⟩
      · intro held
        obtain ⟨index, inside⟩ := held
        cases found : settings.clients[index]? with
        | none =>
            rw [found] at inside
            cases inside
        | some client =>
            rw [found] at inside
            dsimp only at inside
            split at inside
            · cases inside
            next named =>
              obtain ⟨transport, enabled, inside⟩ := List.mem_flatMap.mp inside
              obtain ⟨update, made, inside⟩ := (@mem_accountUpdate_iff _ _
                (effectiveUserLimit settings.userLimit) client.email).mpr
                  ⟨named, inside⟩
              exact ⟨update, List.mem_flatMap.mpr ⟨(client, index),
                List.mk_mem_zipIdx_iff_getElem?.mpr found,
                List.mem_filterMap.mpr ⟨transport, enabled, made⟩⟩, inside⟩

theorem mem_rowUpdates_iff :
    (∃ update ∈ rowUpdates row, ip ∈ update.2) ↔
      ∃ backend, row.protocol = .vpn backend ∧
        ∃ index, ip ∈ listedAddresses backend row index := by
  unfold rowUpdates
  cases row.protocol with
  | vpn backend =>
      simp only [Protocol.vpn.injEq, exists_eq_left']
      by_cases openvpn : backend = .openvpn
      · subst openvpn
        exact mem_ovpnUpdates_iff
      · rw [← mem_pppUpdates_iff openvpn]
        cases backend <;> first | rfl | exact absurd rfl openvpn
  | _ => simp

theorem mem_mapUpdates_iff :
    (∃ update ∈ mapUpdates inbounds, ip ∈ update.2) ↔ Listed inbounds ip := by
  have gathered : ∀ update, update ∈ mapUpdates inbounds ↔
      ∃ row ∈ inbounds, row.enable = true ∧ update ∈ rowUpdates row := by
    intro update
    simp only [mapUpdates, List.mem_append, List.mem_flatMap, List.mem_filter,
      decide_eq_true_iff]
    constructor
    · intro held
      rcases held with ⟨row, ⟨⟨member, enabled⟩, -⟩, listed⟩ |
        ⟨row, ⟨⟨member, enabled⟩, -⟩, listed⟩
      · exact ⟨row, member, enabled, listed⟩
      · exact ⟨row, member, enabled, listed⟩
    · intro held
      obtain ⟨row, member, enabled, listed⟩ := held
      by_cases openvpn : row.protocol = .vpn .openvpn
      · exact .inr ⟨row, ⟨⟨member, enabled⟩, openvpn⟩, listed⟩
      · exact .inl ⟨row, ⟨⟨member, enabled⟩, openvpn⟩, listed⟩
  constructor
  · intro held
    obtain ⟨update, member, inside⟩ := held
    obtain ⟨row, stored, enabled, listed⟩ := (gathered update).mp member
    exact ⟨row, stored, enabled, mem_rowUpdates_iff.mp ⟨update, listed, inside⟩⟩
  · intro held
    obtain ⟨row, stored, enabled, listed⟩ := held
    obtain ⟨update, member, inside⟩ := mem_rowUpdates_iff.mpr listed
    exact ⟨update, (gathered update).mpr ⟨row, stored, enabled, member⟩, inside⟩

theorem mem_addUpdate_iff {update : Update} :
    (∃ entry ∈ (addUpdate vpnMap update).entries, ip ∈ entry.2) ↔
      (∃ entry ∈ vpnMap.entries, ip ∈ entry.2) ∨ ip ∈ update.2 := by
  simp only [Sigma.exists, KeyMap.mem_entries_iff, addUpdate,
    KeyMap.lookup_insert_eq_some]
  constructor
  · intro held
    obtain ⟨email, addresses, ⟨rfl, rfl⟩ | ⟨-, found⟩, inside⟩ := held
    · rcases List.mem_append.mp inside with old | new
      · cases found : vpnMap.lookup update.1 with
        | none =>
            rw [found] at old
            cases old
        | some addresses =>
            rw [found] at old
            exact .inl ⟨_, _, found, old⟩
      · exact .inr new
    · exact .inl ⟨email, addresses, found, inside⟩
  · intro held
    rcases held with ⟨email, addresses, found, inside⟩ | inside
    · by_cases same : email = update.1
      · subst same
        refine ⟨_, _, .inl ⟨rfl, rfl⟩, List.mem_append_left _ ?_⟩
        rw [found]
        exact inside
      · exact ⟨email, addresses, .inr ⟨same, found⟩, inside⟩
    · exact ⟨_, _, .inl ⟨rfl, rfl⟩, List.mem_append_right _ inside⟩

theorem mem_foldl_addUpdate_iff :
    (∃ entry ∈ (updates.foldl addUpdate vpnMap).entries, ip ∈ entry.2) ↔
      (∃ entry ∈ vpnMap.entries, ip ∈ entry.2) ∨
        ∃ update ∈ updates, ip ∈ update.2 := by
  induction updates generalizing vpnMap with
  | nil => simp
  | cons update updates induction =>
      rw [List.foldl_cons, induction, mem_addUpdate_iff, or_assoc,
        List.exists_mem_cons_iff]

/-- The map holds the addresses of the clients with an e-mail. -/
theorem mem_buildVpnEmailToIPMap_iff :
    (∃ entry ∈ (buildVpnEmailToIPMap inbounds).entries, ip ∈ entry.2) ↔
      Listed inbounds ip := by
  rw [buildVpnEmailToIPMap, mem_foldl_addUpdate_iff, mem_mapUpdates_iff]
  apply or_iff_right
  intro held
  obtain ⟨entry, member, -⟩ := held
  cases member

end Listed

end VpnUi.Radius
