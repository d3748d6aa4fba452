import VpnUi.Address.BlockAllocation
import VpnUi.Panel.VpnRangeSpec

namespace VpnUi.Panel

open Foundation Address

/-! Whether the tunnel addresses of a normalised inbound are distinct and fit
for clients. -/

/-- The /24s the account blocks of a transport are carved from. -/
def accountSubnets (backend : VpnProtocol) (ranges : List String)
    (transport : Transport) (id : Int) : List Subnet :=
  if backend = .openvpn then ovpnSubnetsOrDefault ranges transport id
  else pppSubnetsOrDefault ranges backend id

/-- The address of a device of a client under user limit `limit`. -/
def tunnelIP (backend : VpnProtocol) (ranges : List String) (id : Int)
    (limit : Nat) (transport : Transport) (client device : Nat) :
    Option Ipv4 :=
  if limit ≤ 1 then
    if device ≠ 0 then none
    else if backend = .openvpn then
      ovpnBlockClientIP (ovpnBlock ranges transport id) client
    else computeVpnClientIP ranges id client backend
  else
    (vpnAccountDeviceIPs (accountSubnets backend ranges transport id) client
      limit)[device]?

/-- The server's network, of the protocols that have one block. -/
def serverBlock (backend : VpnProtocol) (ranges : List String)
    (transport : Transport) (id : Int) : Option Block :=
  match backend with
  | .openvpn => some (ovpnBlock ranges transport id)
  | .openconnect =>
      some (vpnBlock ranges VpnProtocol.openconnect.protocolBase id)
  | _ => none

/-- The gateway a PPP inbound stores. -/
def localIp (settings : JsonText) : Option Ipv4 :=
  match settings.fields.get "localIp" with
  | .str text => parseIP4? text.toList
  | _ => none

/-- Not for a client: the gateway, the network and the broadcast address of the
server's block, or of the client's /24 when there is no block. -/
def Reserved (inbound : Inbound) (backend : VpnProtocol)
    (transport : Transport) (ip : Ipv4) : Prop :=
  match serverBlock backend (decodeRanges inbound.settings.fields) transport
      inbound.id with
  | some block => ip ∈ [block.network, block.gateway, block.broadcast]
  | none =>
      ip.host = 0 ∨ ip.host = 255 ∨ localIp inbound.settings = some ip

/-- The tunnel addresses of the first `count` clients are distinct, owned and
not reserved. -/
structure Usable (inbound : Inbound) (backend : VpnProtocol) (limit : Nat)
    (transport : Transport) (count : Nat) : Prop where
  injective : ∀ client < count, ∀ other < count, ∀ device otherDevice ip,
    tunnelIP backend (decodeRanges inbound.settings.fields) inbound.id limit
      transport client device = some ip →
    tunnelIP backend (decodeRanges inbound.settings.fields) inbound.id limit
      transport other otherDevice = some ip →
    client = other ∧ device = otherDevice
  owned : ∀ client < count, ∀ device ip,
    tunnelIP backend (decodeRanges inbound.settings.fields) inbound.id limit
      transport client device = some ip → ip.subnet ∈ ownedSubnets inbound
  unreserved : ∀ client < count, ∀ device ip,
    tunnelIP backend (decodeRanges inbound.settings.fields) inbound.id limit
      transport client device = some ip → ¬ Reserved inbound backend transport ip

/-- For one address per account: the stored ranges of a PPP inbound, cut to
their first `count` addresses, do not overlap, stay clear of .0 and .255, and
of the .1 of the first range; the host numbers of OpenVPN clients are below
2^32. -/
def AddressesFit (raw : JsonObject) (backend : VpnProtocol) (limit count : Nat) :
    Prop :=
  limit ≤ 1 →
    match backend with
    | .openvpn => count ≤ 2 ^ 32 - 2
    | .openconnect => True
    | _ =>
        let stored := (decodeRanges raw).filterMap parseRange
        HostWindows (stored.head?.map IpRange.subnet)
          (IpRange.cutAll count stored)

section Accounts

variable {subnets : List Subnet} {limit : Nat}

/-- Device addresses of two accounts, or of two devices, are distinct. -/
theorem accountDevice_injective (nodup : subnets.Nodup)
    (size : BlockSize limit) (several : 2 ≤ limit)
    {client other device otherDevice : Nat} {ip : Ipv4}
    (first : (vpnAccountDeviceIPs subnets client limit)[device]? = some ip)
    (second : (vpnAccountDeviceIPs subnets other limit)[otherDevice]? =
      some ip) : client = other ∧ device = otherDevice := by
  obtain ⟨bound, subnet, host⟩ := (getElem?_vpnAccountDeviceIPs size).mp first
  obtain ⟨otherBound, otherSubnet, otherHost⟩ :=
    (getElem?_vpnAccountDeviceIPs size).mp second
  have place : client / accountsPerSubnet limit =
      other / accountsPerSubnet limit := by
    obtain ⟨inside, -⟩ := List.getElem?_eq_some_iff.mp subnet
    exact (List.getElem?_inj inside nodup).mp
      (subnet.trans otherSubnet.symm)
  have lane : client % accountsPerSubnet limit + 1 =
      other % accountsPerSubnet limit + 1 := by
    have left : ip.host / limit = client % accountsPerSubnet limit + 1 := by
      rw [host, Nat.mul_comm, Nat.mul_add_div (by omega),
        Nat.div_eq_of_lt bound, Nat.add_zero]
    have right : ip.host / limit = other % accountsPerSubnet limit + 1 := by
      rw [otherHost, Nat.mul_comm, Nat.mul_add_div (by omega),
        Nat.div_eq_of_lt otherBound, Nat.add_zero]
    exact left.symm.trans right
  refine ⟨?_, ?_⟩
  · rw [← Nat.div_add_mod client (accountsPerSubnet limit), place,
      Nat.succ.inj lane, Nat.div_add_mod]
  · rw [lane] at host
    omega

theorem accountDevice_host (size : BlockSize limit) (several : 2 ≤ limit)
    {client device : Nat} {ip : Ipv4}
    (found : (vpnAccountDeviceIPs subnets client limit)[device]? = some ip) :
    ip.subnet ∈ subnets ∧ 2 ≤ ip.host ∧ ip.host ≤ 254 := by
  obtain ⟨bound, subnet, host⟩ := (getElem?_vpnAccountDeviceIPs size).mp found
  have fits : (client % accountsPerSubnet limit + 1) * limit + limit ≤ 255 :=
    block_fits size several (Nat.mod_lt _ (accountsPerSubnet_pos size))
  have above : limit ≤ (client % accountsPerSubnet limit + 1) * limit :=
    Nat.le_mul_of_pos_left limit (Nat.succ_pos _)
  exact ⟨List.mem_of_getElem? subnet, by omega, by omega⟩

end Accounts

/-! The block of an OpenVPN or OpenConnect inbound. -/

/-- The second octet of the addresses of a transport. -/
def wireBase : VpnProtocol → Transport → Nat
  | .openvpn, transport => transport.base
  | backend, _ => backend.protocolBase

theorem wireBase_lt (backend : VpnProtocol) (transport : Transport) :
    wireBase backend transport < 256 := by
  cases backend <;> cases transport <;> decide

section Blocks

variable {inbound : Inbound} {backend : VpnProtocol} {block : AlignedBlock}
  {transport : Transport} {limit : Nat}

theorem map_mirror_subnets :
    (block.subnets 2).map mirrorOvpnSubnet = block.subnets 3 := by
  rw [AlignedBlock.subnets, AlignedBlock.subnets, List.map_map]
  apply List.map_congr_left
  intro third _
  rfl

theorem accountSubnets_block (isBlock : backend ∈ [.openvpn, .openconnect])
    (id : Int) :
    accountSubnets backend (block.ranges backend.protocolBase) transport id =
      block.subnets (wireBase backend transport) := by
  have base := protocolBase_lt backend
  have listed := block.subnetsOf_ranges (Nat.lt_of_lt_of_le base (by decide))
  obtain ⟨first, rest, split⟩ := List.exists_cons_of_ne_nil
    (block.subnets_ne_nil backend.protocolBase)
  unfold accountSubnets
  simp only [List.mem_cons, List.not_mem_nil, or_false] at isBlock
  rcases isBlock with rfl | rfl
  · rw [if_pos rfl]
    unfold ovpnSubnetsOrDefault
    rw [listed, split]
    cases transport with
    | udp => exact split.symm
    | tcp =>
        change (first :: rest).map mirrorOvpnSubnet = _
        rw [← split]
        exact map_mirror_subnets
  · rw [if_neg (by decide), pppSubnetsOrDefault, listed, split]
    exact split.symm

theorem serverBlock_block (isBlock : backend ∈ [.openvpn, .openconnect])
    (id : Int) :
    serverBlock backend (block.ranges backend.protocolBase) transport id =
      some (block.networkIn (wireBase backend transport)) := by
  simp only [List.mem_cons, List.not_mem_nil, or_false] at isBlock
  rcases isBlock with rfl | rfl
  · exact congrArg some (block.vpnBlock_ranges (by decide) id)
  · exact congrArg some (block.vpnBlock_ranges (by decide) id)

variable (isBlock : backend ∈ [.openvpn, .openconnect])
  (stored : decodeRanges inbound.settings.fields =
    block.ranges backend.protocolBase)

include stored isBlock

theorem not_reserved_of_servable {ip : Ipv4}
    (servable : Servable (block.networkIn (wireBase backend transport)) ip) :
    ¬ Reserved inbound backend transport ip := by
  unfold Reserved
  rw [stored, serverBlock_block isBlock]
  simp only [List.mem_cons, List.not_mem_nil, or_false, not_or]
  exact ⟨servable.network, servable.gateway, servable.broadcast⟩

variable (isVpn : inbound.protocol = .vpn backend)

include isVpn

theorem owned_of_block {subnet : Subnet}
    (member : subnet ∈ block.subnets (wireBase backend transport)) :
    subnet ∈ ownedSubnets inbound := by
  have base := protocolBase_lt backend
  have listed := block.subnetsOf_ranges (Nat.lt_of_lt_of_le base (by decide))
  have ranges : inboundRanges inbound backend =
      block.ranges backend.protocolBase := by
    unfold inboundRanges
    rw [stored]
    split
    next none =>
      rw [AlignedBlock.ranges, List.map_eq_nil_iff] at none
      exact absurd none (block.subnets_ne_nil _)
    next => rfl
  rw [mem_ownedSubnets inbound isVpn, ranges, listed]
  simp only [List.mem_cons, List.not_mem_nil, or_false] at isBlock
  rcases isBlock with rfl | rfl
  · cases transport with
    | udp => exact ⟨subnet, member, .inl rfl⟩
    | tcp =>
        change subnet ∈ block.subnets 3 at member
        rw [← map_mirror_subnets] at member
        obtain ⟨own, inside, rfl⟩ := List.mem_map.mp member
        exact ⟨own, inside, .inr ⟨rfl, rfl⟩⟩
  · exact ⟨subnet, member, .inl rfl⟩

end Blocks

section Usable

variable {inbound : Inbound} {backend : VpnProtocol} {transport : Transport}
  {limit count : Nat}

/-- A device block per account keeps clear of .0, .1 and .255. -/
theorem usable_of_accounts {subnets : List Subnet} (size : BlockSize limit)
    (several : 2 ≤ limit)
    (carved : accountSubnets backend (decodeRanges inbound.settings.fields)
      transport inbound.id = subnets)
    (nodup : subnets.Nodup)
    (owned : ∀ subnet ∈ subnets, subnet ∈ ownedSubnets inbound)
    (free : ∀ ip : Ipv4, ip.subnet ∈ subnets → 2 ≤ ip.host → ip.host ≤ 254 →
      ¬ Reserved inbound backend transport ip) :
    Usable inbound backend limit transport count := by
  have devices : ∀ client device : Nat,
      tunnelIP backend (decodeRanges inbound.settings.fields) inbound.id limit
        transport client device =
        (vpnAccountDeviceIPs subnets client limit)[device]? := by
    intro client device
    rw [tunnelIP, if_neg (by omega), carved]
  constructor
  · intro client _ other _ device otherDevice ip first second
    rw [devices] at first second
    exact accountDevice_injective nodup size several first second
  · intro client _ device ip found
    rw [devices] at found
    exact owned _ (accountDevice_host size several found).1
  · intro client _ device ip found
    rw [devices] at found
    obtain ⟨inside, above, below⟩ := accountDevice_host size several found
    exact free ip inside above below

/-- With one address per account only the first device has one. -/
theorem usable_single_iff {address : Nat → Option Ipv4}
    (single : ∀ client device : Nat,
      tunnelIP backend (decodeRanges inbound.settings.fields) inbound.id limit
        transport client device =
        if device ≠ 0 then none else address client)
    (owned : ∀ client < count, ∀ ip, address client = some ip →
      ip.subnet ∈ ownedSubnets inbound) :
    Usable inbound backend limit transport count ↔
      (∀ left < count, ∀ right < count, ∀ ip, address left = some ip →
        address right = some ip → left = right) ∧
      ∀ client < count, ∀ ip, address client = some ip →
        ¬ Reserved inbound backend transport ip := by
  have first : ∀ client : Nat, tunnelIP backend
      (decodeRanges inbound.settings.fields) inbound.id limit transport client
        0 = address client := by
    intro client
    rw [single, if_neg (by simp)]
  have given : ∀ {client device : Nat} {ip : Ipv4}, tunnelIP backend
      (decodeRanges inbound.settings.fields) inbound.id limit transport client
        device = some ip → device = 0 ∧ address client = some ip := by
    intro client device ip found
    rw [single] at found
    split at found
    · cases found
    next zero => exact ⟨not_not.mp zero, found⟩
  constructor
  · intro usable
    refine ⟨?_, ?_⟩
    · intro left leftBelow right rightBelow ip leftFound rightFound
      exact (usable.injective left leftBelow right rightBelow 0 0 ip
        ((first left).trans leftFound) ((first right).trans rightFound)).1
    · intro client below ip found
      exact usable.unreserved client below 0 ip ((first client).trans found)
  · rintro ⟨distinct, unreserved⟩
    constructor
    · intro client below other otherBelow device otherDevice ip found otherFound
      obtain ⟨rfl, here⟩ := given found
      obtain ⟨rfl, there⟩ := given otherFound
      exact ⟨distinct client below other otherBelow ip here there, rfl⟩
    · intro client below device ip found
      exact owned client below ip (given found).2
    · intro client below device ip found
      exact unreserved client below ip (given found).2

end Usable

section BlockBackends

variable {inbound : Inbound} {block : AlignedBlock} {transport : Transport}
  {limit count : Nat}

theorem usable_openvpn_iff (single : limit ≤ 1)
    (isVpn : inbound.protocol = .vpn .openvpn)
    (stored : decodeRanges inbound.settings.fields = block.ranges 2) :
    Usable inbound .openvpn limit transport count ↔ count ≤ 2 ^ 32 - 2 := by
  have isBlock : VpnProtocol.openvpn ∈
      [VpnProtocol.openvpn, .openconnect] := by decide
  have bounded := wireBase_lt .openvpn transport
  have network : ovpnBlock (block.ranges 2) transport inbound.id =
      block.networkIn (wireBase .openvpn transport) :=
    block.vpnBlock_ranges (by decide) inbound.id
  have clients : ∀ client device : Nat,
      tunnelIP .openvpn (decodeRanges inbound.settings.fields) inbound.id limit
        transport client device =
        if device ≠ 0 then none
        else ovpnBlockClientIP
          (block.networkIn (wireBase .openvpn transport)) client := by
    intro client device
    rw [tunnelIP, if_pos single, stored, if_pos rfl, network]
  have fits := block.fits
  have positive : 0 < 2 ^ block.exponent := Nat.two_pow_pos _
  have inside : ∀ {client : Nat} {ip : Ipv4}, ovpnBlockClientIP
      (block.networkIn (wireBase .openvpn transport)) client = some ip →
      ∃ host < 2 ^ block.exponent * 256 - 1,
        (block.networkIn (wireBase .openvpn transport)).address host = ip ∧
          host = (2 + client) % 2 ^ 32 := by
    intro client ip found
    unfold ovpnBlockClientIP at found
    dsimp only at found
    split at found
    · cases found
    next small =>
      exact ⟨_, Nat.not_le.mp small, Option.some.inj found, rfl⟩
  rw [usable_single_iff clients]
  · constructor
    · rintro ⟨-, unreserved⟩
      by_contra many
      have last : ovpnBlockClientIP
          (block.networkIn (wireBase .openvpn transport)) (2 ^ 32 - 2) =
          some ((block.networkIn (wireBase .openvpn transport)).address 0) := by
        unfold ovpnBlockClientIP
        rw [AlignedBlock.size_networkIn]
        exact if_neg (by omega)
      apply unreserved (2 ^ 32 - 2) (by omega) _ last
      have served : serverBlock .openvpn (block.ranges 2) transport
          inbound.id = some (block.networkIn (wireBase .openvpn transport)) :=
        serverBlock_block isBlock inbound.id
      unfold Reserved
      rw [stored, served]
      rw [← AlignedBlock.network_networkIn bounded]
      exact List.mem_cons_self
    · intro few
      refine ⟨?_, ?_⟩
      · intro left leftBelow right rightBelow ip leftFound rightFound
        obtain ⟨host, below, here, same⟩ := inside leftFound
        obtain ⟨other, otherBelow, there, otherSame⟩ := inside rightFound
        have equal := AlignedBlock.address_inj bounded (by omega) (by omega)
          (here.trans there.symm)
        rw [Nat.mod_eq_of_lt (by omega)] at same otherSame
        omega
      · intro client below ip found
        obtain ⟨host, small, rfl, same⟩ := inside found
        rw [Nat.mod_eq_of_lt (by omega)] at same
        exact not_reserved_of_servable isBlock stored
          (block.servable_address bounded (by omega) small)
  · intro client _ ip found
    obtain ⟨host, small, address, -⟩ := inside found
    apply owned_of_block isBlock stored isVpn
    exact ((AlignedBlock.mem_networkIn bounded).mp
      ⟨host, by rw [AlignedBlock.size_networkIn]; omega, address⟩).1

theorem usable_openconnect (single : limit ≤ 1)
    (isVpn : inbound.protocol = .vpn .openconnect)
    (stored : decodeRanges inbound.settings.fields = block.ranges 4) :
    Usable inbound .openconnect limit transport count := by
  have isBlock : VpnProtocol.openconnect ∈
      [VpnProtocol.openvpn, .openconnect] := by decide
  have other : VpnProtocol.openconnect ≠ .openvpn := by decide
  have nonempty : block.ranges 4 ≠ [] := by
    rw [AlignedBlock.ranges, ne_eq, List.map_eq_nil_iff]
    exact block.subnets_ne_nil 4
  have clients : ∀ client device : Nat,
      tunnelIP .openconnect (decodeRanges inbound.settings.fields) inbound.id
        limit transport client device =
        if device ≠ 0 then none
        else (rangeAddresses (block.ranges 4))[client]? := by
    intro client device
    rw [tunnelIP, if_pos single, stored, if_neg other,
      computeVpnClientIP_of_ne_nil nonempty]
  have valid : ∀ subnet ∈ block.subnets 4, subnet.Valid :=
    fun _ => AlignedBlock.valid_of_mem (by decide)
  obtain ⟨⟨distinct, -⟩, carved⟩ :=
    @assignable_defaults none _ (block.nodup_subnets 4) valid
  have member : ∀ {client : Nat} {ip : Ipv4},
      (rangeAddresses (block.ranges 4))[client]? = some ip →
      ip.subnet ∈ block.subnets 4 :=
    fun found => carved _ (List.mem_of_getElem? found)
  rw [usable_single_iff clients]
  · refine ⟨?_, ?_⟩
    · intro left _ right _ ip leftFound rightFound
      obtain ⟨inside, -⟩ := List.getElem?_eq_some_iff.mp leftFound
      exact (List.getElem?_inj inside distinct).mp
        (leftFound.trans rightFound.symm)
    · intro client _ ip found
      apply not_reserved_of_servable isBlock stored
      have listed := List.mem_of_getElem? found
      rw [block.rangeAddresses_ranges (by decide)] at listed
      obtain ⟨subnet, inside, hosts⟩ := List.mem_flatMap.mp listed
      obtain ⟨device, small, rfl⟩ := List.mem_map.mp hosts
      have below := List.mem_range.mp small
      exact block.servable_of_subnet (wireBase_lt .openconnect transport) inside
        (Nat.le_add_right 2 device) (by simp only [Subnet.withHost_host]; omega)
  · intro client _ ip found
    exact @owned_of_block inbound .openconnect block transport isBlock stored
      isVpn _ (member found)

end BlockBackends

section Ppp

variable {inbound : Inbound} {backend : VpnProtocol} {transport : Transport}
  {limit count : Nat} {raw : JsonObject} {used : List Subnet}
  {ranges given : List String} {fresh : List Subnet}

theorem localIp_written {normalized : List String} {range : IpRange}
    (isPpp : blockBackend backend = none)
    (first : normalized.head?.bind parseRange = some range) :
    localIp (.parsed (.obj (writeRanges backend raw normalized))) =
      some (range.subnet.withHost 1) := by
  have noBlock : ¬ (backend = .openvpn ∨ backend = .openconnect) := by
    rintro (rfl | rfl) <;> cases isPpp
  have valid : (range.subnet.withHost 1).Valid := ⟨range.valid, by simp⟩
  have written : writeRanges backend raw normalized =
      ((raw.set "ipRanges" (.arr (normalized.map .str))).remove "ipRange").set
        "localIp" (.str (range.subnet.withHost 1).text) := by
    unfold writeRanges
    rw [first]
    exact if_neg noBlock
  rw [written]
  change (match JsonObject.get (JsonObject.set _ "localIp" _) "localIp" with
    | .str text => parseIP4? text.toList
    | _ => none) = _
  rw [JsonObject.get_set_self]
  exact parseIP4?_text valid

theorem serverBlock_ppp (isPpp : blockBackend backend = none)
    (texts : List String) (id : Int) :
    serverBlock backend texts transport id = none := by
  cases backend with
  | openvpn => cases isPpp
  | openconnect => cases isPpp
  | _ => rfl

theorem not_reserved_ppp_iff {gateway : Subnet} {ip : Ipv4}
    (isPpp : blockBackend backend = none)
    (stored : localIp inbound.settings = some (gateway.withHost 1)) :
    ¬ Reserved inbound backend transport ip ↔
      ClientAddress (some gateway) ip := by
  obtain ⟨subnet, host⟩ := ip
  unfold Reserved ClientAddress
  rw [serverBlock_ppp isPpp, stored]
  simp only [not_or, Option.some.injEq, Subnet.withHost, Ipv4.mk.injEq,
    not_and, eq_comm]

theorem subnet_mem_of_rangeAddresses {texts : List String} {ip : Ipv4}
    (member : ip ∈ rangeAddresses texts) : ip.subnet ∈ subnetsOf texts := by
  obtain ⟨range, listed, inside⟩ := List.mem_flatMap.mp member
  obtain ⟨text, stored, parsed⟩ := List.mem_filterMap.mp listed
  rw [(IpRange.mem_addresses.mp inside).1]
  exact mem_subnetsOf.mpr ⟨text, stored, congrArg (Option.map _) parsed⟩

/-- The appended /24s never stand in the way. -/
theorem assignable_grown_iff {gateway : Option Subnet}
    (outcome : PppOutcome backend used ranges given fresh) :
    Assignable gateway
        ((rangeAddresses (given ++ fresh.map defaultRange)).take count) ↔
      HostWindows gateway
        (IpRange.cutAll count (ranges.filterMap parseRange)) := by
  have old : rangeAddresses given =
      (ranges.filterMap parseRange).flatMap IpRange.addresses := by
    rw [rangeAddresses, outcome.same]
  have split : rangeAddresses (given ++ fresh.map defaultRange) =
      rangeAddresses given ++ rangeAddresses (fresh.map defaultRange) := by
    rw [rangeAddresses, List.filterMap_append, List.flatMap_append]
    rfl
  obtain ⟨good, carved⟩ := @assignable_defaults gateway fresh
    outcome.new.nodup fun _ => outcome.new.valid
  rw [split, List.take_append, (good.take _).append_iff]
  · rw [old, ← IpRange.addresses_cutAll, assignable_flatMap_iff]
  · intro ip new other listed same
    have fromFresh := carved ip (List.mem_of_mem_take new)
    have fromGiven := subnet_mem_of_rangeAddresses (List.mem_of_mem_take listed)
    rw [same] at fromGiven
    exact outcome.new.free _ fromFresh (List.mem_append_right used fromGiven)

/-- The gateway is that of the first range given. -/
theorem head?_parsed (outcome : PppOutcome backend used ranges given fresh) :
    ∃ range, (given ++ fresh.map defaultRange).head?.bind parseRange =
        some range ∧
      (ranges.filterMap parseRange = [] ∨
        (ranges.filterMap parseRange).head? = some range) := by
  cases given with
  | nil =>
      obtain ⟨subnet, rest, rfl⟩ := List.exists_cons_of_ne_nil
        (outcome.nonempty rfl)
      have valid := outcome.new.valid List.mem_cons_self
      have parsed := parseRange_defaultRange valid
      refine ⟨fullRange subnet valid, ?_, .inl ?_⟩
      · rw [List.nil_append, List.map_cons, List.head?_cons, Option.bind_some,
          parsed]
      · rw [← outcome.same, List.filterMap_nil]
  | cons text rest =>
      obtain ⟨range, parsed, -⟩ := outcome.free text List.mem_cons_self
      refine ⟨range, ?_, .inr ?_⟩
      · rw [List.cons_append, List.head?_cons, Option.bind_some, parsed]
      · rw [← outcome.same, List.filterMap_cons_some parsed, List.head?_cons]

end Ppp

section PppBackends

variable {inbound : Inbound} {backend : VpnProtocol} {transport : Transport}
  {limit count : Nat} {raw : JsonObject} {used : List Subnet}
  {ranges given : List String} {fresh : List Subnet}
  (isVpn : inbound.protocol = .vpn backend)
  (outcome : PppOutcome backend used ranges given fresh)
  (stored : decodeRanges inbound.settings.fields =
    given ++ fresh.map defaultRange)

include isVpn outcome stored

theorem owned_of_ppp {subnet : Subnet}
    (member : subnet ∈ subnetsOf (given ++ fresh.map defaultRange)) :
    subnet ∈ ownedSubnets inbound := by
  have ranges : inboundRanges inbound backend =
      given ++ fresh.map defaultRange := by
    unfold inboundRanges
    rw [stored]
    split
    next none => exact absurd none outcome.ne_nil
    next => rfl
  rw [mem_ownedSubnets inbound isVpn, ranges]
  exact ⟨subnet, member, .inl rfl⟩

variable (isPpp : blockBackend backend = none)

include isPpp

theorem usable_ppp_accounts {gateway : Subnet} (size : BlockSize limit)
    (several : 2 ≤ limit)
    (served : localIp inbound.settings = some (gateway.withHost 1)) :
    Usable inbound backend limit transport count := by
  have notOpenvpn : backend ≠ .openvpn := by
    rintro rfl
    cases isPpp
  obtain ⟨range, head, -⟩ := head?_parsed outcome
  have nonempty : subnetsOf (given ++ fresh.map defaultRange) ≠ [] := by
    obtain ⟨text, listed, parsed⟩ := Option.bind_eq_some_iff.mp head
    exact List.ne_nil_of_mem (mem_subnetsOf.mpr
      ⟨text, List.mem_of_head? listed, congrArg (Option.map _) parsed⟩)
  have carved : accountSubnets backend (decodeRanges inbound.settings.fields)
      transport inbound.id = subnetsOf (given ++ fresh.map defaultRange) := by
    rw [stored, accountSubnets, if_neg notOpenvpn]
    unfold pppSubnetsOrDefault
    split
    next none => exact absurd none nonempty
    next => rfl
  apply usable_of_accounts size several carved (nodup_subnetsOf _)
  · intro subnet member
    exact owned_of_ppp isVpn outcome stored member
  · intro ip _ above below
    rw [not_reserved_ppp_iff isPpp served]
    exact ⟨by omega, by omega, fun _ => by omega⟩

theorem usable_ppp_iff (single : limit ≤ 1) {gateway : Subnet}
    (served : localIp inbound.settings = some (gateway.withHost 1)) :
    Usable inbound backend limit transport count ↔
      HostWindows (some gateway)
        (IpRange.cutAll count (ranges.filterMap parseRange)) := by
  have notOpenvpn : backend ≠ .openvpn := by
    rintro rfl
    cases isPpp
  have clients : ∀ client device : Nat,
      tunnelIP backend (decodeRanges inbound.settings.fields) inbound.id limit
        transport client device =
        if device ≠ 0 then none
        else (rangeAddresses (given ++ fresh.map defaultRange))[client]? := by
    intro client device
    rw [tunnelIP, if_pos single, stored, if_neg notOpenvpn,
      computeVpnClientIP_of_ne_nil outcome.ne_nil]
  rw [usable_single_iff clients, ← assignable_grown_iff outcome,
    assignable_take_iff]
  · simp only [not_reserved_ppp_iff isPpp served]
  · intro client _ ip found
    exact owned_of_ppp isVpn outcome stored
      (subnet_mem_of_rangeAddresses (List.mem_of_getElem? found))

end PppBackends

theorem rawSettings?_eq_fields {settings : JsonText} {raw : JsonObject}
    (read : rawSettings? settings = some raw) : raw = settings.fields := by
  unfold rawSettings? at read
  split at read
  · exact (Option.some.inj read).symm
  · obtain ⟨object, parsed, rfl⟩ := Option.map_eq_some_iff.mp read
    rw [JsonText.fields, parsed]
    rfl

theorem blockSize_decodeUserLimit (raw : JsonObject) :
    BlockSize (decodeUserLimit raw) := by
  unfold decodeUserLimit
  split
  · exact ⟨Nat.le_refl 1, by decide⟩
  · split
    · exact ⟨Nat.le_refl 1, by decide⟩
    · exact blockSize_normUserLimit _

/-- The addresses of a normalised inbound's first `count` clients are usable
exactly if the ranges it was given fit for them. -/
theorem tunnel_addresses_usable_iff {inbounds : Inbounds}
    {inbound normal : Inbound} {excludeId : Int} {backend : VpnProtocol}
    (isVpn : inbound.protocol = .vpn backend)
    (accepted : normalizeRanges inbounds inbound excludeId = .ok normal)
    (count : Nat) :
    (∀ transport, Usable normal backend
        (decodeUserLimit inbound.settings.fields) transport count) ↔
      AddressesFit inbound.settings.fields backend
        (decodeUserLimit inbound.settings.fields) count := by
  obtain ⟨raw, normalized, read, out, written⟩ :=
    (normalizeRanges_of_vpn isVpn).mp accepted
  rw [← rawSettings?_eq_fields read]
  have size := blockSize_decodeUserLimit raw
  generalize decodeUserLimit raw = limit at size ⊢
  obtain ⟨canonical, nonempty⟩ := normalizedRanges_canonical out
  have stored : decodeRanges normal.settings.fields = normalized := by
    rw [written]
    exact decodeRanges_writeRanges canonical nonempty
  have stillVpn : normal.protocol = .vpn backend := by
    rw [written]
    exact isVpn
  rcases normalizedRanges_eq_ok out with
    ⟨mirror, family, block, ranges, -⟩ | ⟨isPpp, given, fresh, ranges, outcome⟩
  · rw [ranges] at stored
    have isBlock : backend ∈ [VpnProtocol.openvpn, .openconnect] := by
      cases backend <;> first | decide | cases family
    by_cases single : limit ≤ 1
    · cases backend with
      | openvpn =>
          constructor
          · intro usable _
            exact (usable_openvpn_iff single stillVpn stored).mp (usable .udp)
          · intro fits transport
            exact (usable_openvpn_iff single stillVpn stored).mpr (fits single)
      | openconnect =>
          simp only [usable_openconnect single stillVpn stored, AddressesFit,
            implies_true]
      | _ => cases family
    · have fits : AddressesFit raw backend limit count :=
        fun below => absurd below single
      simp only [fits, iff_true]
      intro transport
      have carved : accountSubnets backend
          (decodeRanges normal.settings.fields) transport normal.id =
            block.subnets (wireBase backend transport) := by
        rw [stored]
        exact accountSubnets_block isBlock normal.id
      apply usable_of_accounts size (by omega) carved (block.nodup_subnets _)
      · intro subnet member
        exact owned_of_block isBlock stored stillVpn member
      · intro ip member above below
        exact not_reserved_of_servable isBlock stored
          (block.servable_of_subnet (wireBase_lt backend transport) member
            above below)
  · obtain ⟨range, head, first⟩ := head?_parsed outcome
    have served : localIp normal.settings =
        some (range.subnet.withHost 1) := by
      rw [written]
      exact localIp_written isPpp (ranges ▸ head)
    rw [ranges] at stored
    by_cases single : limit ≤ 1
    · have fits : AddressesFit raw backend limit count ↔
          HostWindows (((decodeRanges raw).filterMap parseRange).head?.map
              IpRange.subnet)
            (IpRange.cutAll count ((decodeRanges raw).filterMap parseRange)) := by
        unfold AddressesFit
        cases backend with
        | openvpn => cases isPpp
        | openconnect => cases isPpp
        | _ => simp only [single, forall_const]
      have windows : HostWindows (some range.subnet)
            (IpRange.cutAll count ((decodeRanges raw).filterMap parseRange)) ↔
          HostWindows (((decodeRanges raw).filterMap parseRange).head?.map
              IpRange.subnet)
            (IpRange.cutAll count ((decodeRanges raw).filterMap parseRange)) := by
        rcases first with empty | first
        · rw [empty]
          cases count <;> simp [IpRange.cutAll, HostWindows]
        · rw [first, Option.map_some]
      have usable := fun transport => @usable_ppp_iff normal backend transport
        limit count _ _ _ _ stillVpn outcome stored isPpp single _ served
      rw [fits, ← windows]
      constructor
      · intro all
        exact (usable .udp).mp (all .udp)
      · intro good transport
        exact (usable transport).mpr good
    · have fits : AddressesFit raw backend limit count :=
        fun below => absurd below single
      simp only [fits, iff_true]
      intro transport
      exact usable_ppp_accounts stillVpn outcome stored isPpp size (by omega)
        served

/-- An L2TP inbound with one client and one range. -/
def rangedInbound (range : String) : Inbound where
  id := 5
  listen := ""
  port := 1701
  protocol := .vpn .l2tp
  settings := .parsed (.obj [
    ("clients", .arr [.obj [("id", .str "ann"), ("email", .str "ann")]]),
    ("ipRanges", .arr [.str range])])
  enable := true
  tag := "inbound-1701"

/-- The inbound as it is stored. -/
def rangedNormal (range : String) : Inbound :=
  { rangedInbound range with
    settings := .parsed (.obj [
      ("clients", .arr [.obj [("id", .str "ann"), ("email", .str "ann")]]),
      ("ipRanges", .arr [.str range]), ("localIp", .str "10.0.5.1")]) }

theorem tunnel_addresses_usable_ann :
    Usable (rangedNormal "10.0.5.2-10.0.5.254") .l2tp 1 .udp 1 := by
  have fits : HostWindows (some ⟨10, 0, 5⟩) (IpRange.cutAll 1
      ((decodeRanges (rangedInbound
        "10.0.5.2-10.0.5.254").settings.fields).filterMap parseRange)) := by
    decide +kernel
  exact (@tunnel_addresses_usable_iff Table.empty
    (rangedInbound "10.0.5.2-10.0.5.254") (rangedNormal "10.0.5.2-10.0.5.254")
    0 .l2tp rfl rfl 1).mpr (fun _ => fits) .udp

/-- A range that starts at .1 is accepted, and gives the gateway to ann. -/
theorem first_address_is_gateway :
    normalizeRanges Table.empty (rangedInbound "10.0.5.1-10.0.5.254") 0 =
        .ok (rangedNormal "10.0.5.1-10.0.5.254") ∧
      ¬ Usable (rangedNormal "10.0.5.1-10.0.5.254") .l2tp 1 .udp 1 := by
  have given : tunnelIP .l2tp
        (decodeRanges (rangedNormal "10.0.5.1-10.0.5.254").settings.fields) 5 1
        .udp 0 0 = some ⟨⟨10, 0, 5⟩, 1⟩ ∧
      localIp (rangedNormal "10.0.5.1-10.0.5.254").settings =
        some ⟨⟨10, 0, 5⟩, 1⟩ := by decide +kernel
  refine ⟨rfl, fun usable => ?_⟩
  exact usable.unreserved 0 (by decide) 0 _ given.1 (.inr (.inr given.2))

end VpnUi.Panel
