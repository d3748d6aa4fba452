import VpnUi.Address.BlockSpec
import VpnUi.Radius.ClientAddress
import VpnUi.Xray.Backstop

namespace VpnUi.Xray

open Foundation VpnUi.Panel Address

/-! The way of the packets of an accepted login: the redirection of its address
to the core, the inbound of the core that takes them, and the rules of the
operator that route them. -/

/-! Networks in the notation of nft. -/

section Networks

variable {ip network : Ipv4} {length : Nat}

theorem toU32_lt (valid : ip.Valid) : ip.toU32 < 2 ^ 32 := by
  obtain ⟨⟨first, second, third⟩, host⟩ := valid
  unfold Ipv4.toU32
  omega

theorem cidr?_network (valid : network.Valid) (short : length ≤ 32) :
    BackEnd.cidr? (network.text ++ "/" ++ toString length) =
      some (bitsOf network, length) := by
  have plain : '/' ∉ network.text.toList :=
    Ipv4.not_mem_text valid (by decide)
  have cut : cutAt '/' (network.text ++ "/" ++ toString length).toList =
      some (network.text.toList, Nat.toDigits 10 length) := by
    rw [String.toList_append, String.toList_append, Nat.toString_eq_repr,
      Nat.toList_repr, List.append_assoc]
    exact cutAt_append plain
  have read : ∀ length < 33, Nat.toDigits 10 length ≠ [] ∧
      digits? 0 (Nat.toDigits 10 length) = some length := by
    decide
  obtain ⟨given, number⟩ := read length (Nat.lt_succ_of_le short)
  rw [BackEnd.cidr?, cut]
  simp only [Option.bind_eq_bind, Option.bind_some, parseIPv4?_text valid,
    number]
  exact if_pos ⟨given, short⟩

/-- An address whose leading bits are those of the network is in it. -/
theorem inCidr_network (valid : network.Valid) (inside : ip.Valid)
    (short : length ≤ 32)
    (same : ip.toU32 / 2 ^ (32 - length) = network.toU32 / 2 ^ (32 - length)) :
    BackEnd.inCidr (bitsOf ip)
      (network.text ++ "/" ++ toString length) = true := by
  rw [BackEnd.inCidr, cidr?_network valid short]
  apply decide_eq_true
  apply BitVec.eq_of_toNat_eq
  rw [BitVec.toNat_ushiftRight, BitVec.toNat_ushiftRight, bitsOf, bitsOf,
    BitVec.toNat_ofNat, BitVec.toNat_ofNat, Nat.mod_eq_of_lt (toU32_lt inside),
    Nat.mod_eq_of_lt (toU32_lt valid), Nat.shiftRight_eq_div_pow,
    Nat.shiftRight_eq_div_pow, same]

theorem inCidr_subnet (valid : ip.Valid) :
    BackEnd.inCidr (bitsOf ip) (BackEnd.subnetCIDR ip.subnet) = true := by
  have network : (ip.subnet.withHost 0).Valid := ⟨valid.1, Nat.zero_lt_succ _⟩
  have bounded := valid.2
  have text : BackEnd.subnetCIDR ip.subnet =
      (ip.subnet.withHost 0).text ++ "/" ++ toString 24 := by
    have ending : ".0/24" = "." ++ toString 0 ++ "/" ++ toString 24 := rfl
    unfold BackEnd.subnetCIDR Ipv4.text
    rw [ending]
    simp only [String.append_assoc, Subnet.withHost_subnet,
      Subnet.withHost_host]
  rw [text]
  apply inCidr_network network valid (by decide)
  unfold Ipv4.toU32 Subnet.withHost
  dsimp only
  omega

theorem blockCIDR_single {subnet : Subnet} :
    BackEnd.blockCIDR ⟨subnet.withHost 0, 1⟩ = BackEnd.subnetCIDR subnet := by
  have ending : "." ++ toString 0 ++ "/" ++ toString (24 - BackEnd.log2i 1) =
      ".0/24" := rfl
  unfold BackEnd.blockCIDR BackEnd.subnetCIDR Ipv4.text
  rw [← ending]
  simp only [String.append_assoc, Subnet.withHost_subnet, Subnet.withHost_host]

theorem inCidr_block {block : AlignedBlock} {base : Nat} (bounded : base < 256)
    (valid : ip.Valid) (inside : ip.subnet ∈ block.subnets base) :
    BackEnd.inCidr (bitsOf ip)
      (BackEnd.blockCIDR (block.networkIn base)) = true := by
  obtain ⟨start, exponent, aligned, fits⟩ := block
  obtain ⟨first, second, lower, upper⟩ := AlignedBlock.mem_subnets.mp inside
  dsimp only at lower upper
  have host := valid.2
  have positive := Nat.two_pow_pos exponent
  have small : exponent < 8 := by
    have below : 2 ^ exponent < 2 ^ 8 := by omega
    exact (Nat.pow_lt_pow_iff_right (Nat.lt_succ_self 1)).mp below
  have third : start < 256 := by omega
  have network : (⟨⟨10, base, start⟩, 0⟩ : Ipv4).Valid :=
    ⟨⟨(by decide : 10 < 256), bounded, third⟩, Nat.zero_lt_succ _⟩
  have span : BackEnd.log2i (2 ^ exponent) = exponent := Nat.log2_two_pow
  rw [BackEnd.blockCIDR, AlignedBlock.networkIn]
  dsimp only
  rw [span]
  apply inCidr_network network valid (by omega)
  unfold Ipv4.toU32
  rw [first, second]
  dsimp only
  have cases : exponent = 0 ∨ exponent = 1 ∨ exponent = 2 ∨ exponent = 3 ∨
      exponent = 4 ∨ exponent = 5 ∨ exponent = 6 ∨ exponent = 7 := by
    omega
  rcases cases with rfl | rfl | rfl | rfl | rfl | rfl | rfl | rfl <;> omega

end Networks

/-! The networks of an inbound and the device addresses in it. -/

section Devices

variable {host : BackEnd.Host} {backend : VpnProtocol} {row : Inbound}
  {reading : BackEnd.Reading} {settings : Radius.AddressSettings}
  {ip : Ipv4} {index : Nat}

/-- A row as the service of its protocol and RADIUS read it alike: its settings
parse, an id that its addresses are derived from is an octet, and an OpenConnect
row has the ranges of a block, as they are normalised to. -/
structure Placed (host : BackEnd.Host) (backend : VpnProtocol)
    (row : Inbound) : Prop where
  parses : (BackEnd.serve host backend row).reading ≠ none
  octet : ∀ settings,
    row.settings.decode Radius.AddressSettings.decode = some settings →
    subnetsOf settings.ranges = [] → 0 ≤ row.id ∧ row.id < 256
  block : backend = .openconnect → ∀ settings,
    row.settings.decode Radius.AddressSettings.decode = some settings →
    settings.ipRange = "" ∧ (settings.ipRanges = [] ∨ ∃ block : AlignedBlock,
      settings.ipRanges = block.ranges backend.protocolBase)

theorem ranges_of_reading (other : backend ≠ .openvpn)
    (read : (BackEnd.serve host backend row).reading = some reading)
    (decoded : row.settings.decode Radius.AddressSettings.decode =
      some settings)
    (plain : backend = .openconnect → settings.ipRange = "") :
    reading.view.ranges = settings.ranges := by
  have same : ∀ fields : JsonObject,
      ((VpnSettings.decoder backend fields).map fun _ =>
        BackEnd.readSettings host backend row.port fields).strict =
          some reading →
      (Radius.AddressSettings.decode fields).strict = some settings →
      reading.view.ranges = settings.ranges := by
    intro fields strict others
    rw [Decoded.strict_eq_some] at strict others
    obtain ⟨-, rfl⟩ := strict
    obtain ⟨-, rfl⟩ := others
    cases backend with
    | openvpn => exact absurd rfl other
    | openconnect =>
        have none := plain rfl
        unfold Radius.AddressSettings.ranges
        rw [none]
        rfl
    | _ => rfl
  change row.settings.decode _ = some reading at read
  cases stored : row.settings with
  | empty => rw [stored] at read; cases read
  | malformed => rw [stored] at read; cases read
  | parsed json =>
      rw [stored] at read decoded
      cases json with
      | obj fields => exact same fields read decoded
      | null => exact same [] read decoded
      | _ => cases read

/-- The range of an id that is an octet is in the /24 of the id. -/
theorem idRange_eq {base : Nat} {id : Int} (known : 0 ≤ id) :
    idRange base id = defaultRange (idSubnet base id) := by
  obtain ⟨number, rfl⟩ := Int.eq_ofNat_of_zero_le known
  unfold idRange defaultRange idSubnet Ipv4.text Subnet.withHost
  have ten : toString 10 = "10" := rfl
  have two : toString 2 = "2" := rfl
  have last : toString 254 = "254" := rfl
  have same : toString (number : Int) = toString number := rfl
  dsimp only
  rw [ten, two, last, Int.toNat_natCast, same]
  simp only [String.append_assoc]
  rfl

theorem subnet_of_walk {ranges : List String}
    (found : walkRanges ranges index = some ip) :
    ip.subnet ∈ subnetsOf ranges ∧ ip.host < 256 := by
  rw [walkRanges_eq_getElem?] at found
  obtain ⟨range, member, inside⟩ :=
    List.mem_flatMap.mp (List.mem_of_getElem? found)
  obtain ⟨text, listed, parsed⟩ := List.mem_filterMap.mp member
  obtain ⟨subnet, -, upper⟩ := IpRange.mem_addresses.mp inside
  refine ⟨mem_subnetsOf.mpr ⟨text, listed, ?_⟩,
    Nat.lt_of_le_of_lt upper range.bounded⟩
  rw [rangeSubnet, parsed, subnet]
  rfl

theorem valid_idSubnet {id : Int} (known : 0 ≤ id ∧ id < 256) :
    (idSubnet backend.protocolBase id).Valid := by
  have base : backend.protocolBase < 256 := by cases backend <;> decide
  have bounded : id.toNat < 256 := by omega
  exact ⟨(by decide : 10 < 256), base, bounded⟩

/-- The single addresses are in the /24s of the ranges, or in the one of the
id. -/
theorem subnet_of_computed {ranges : List String}
    (octet : subnetsOf ranges = [] → 0 ≤ row.id ∧ row.id < 256)
    (found : computeVpnClientIP ranges row.id index backend = some ip) :
    ip.subnet ∈ pppSubnetsOrDefault ranges backend row.id ∧
      ip.host < 256 := by
  rw [computeVpnClientIP] at found
  split at found
  next absent =>
    subst absent
    have bounds := octet rfl
    obtain ⟨subnets, host⟩ := subnet_of_walk found
    rw [idRange_eq bounds.1, mem_subnetsOf] at subnets
    obtain ⟨text, listed, same⟩ := subnets
    obtain rfl := List.mem_singleton.mp listed
    rw [rangeSubnet_defaultRange (valid_idSubnet bounds)] at same
    rw [← Option.some.inj same]
    exact ⟨List.mem_singleton_self _, host⟩
  next =>
    obtain ⟨subnets, host⟩ := subnet_of_walk found
    refine ⟨?_, host⟩
    unfold pppSubnetsOrDefault
    split
    next empty =>
      rw [empty] at subnets
      cases subnets
    next => exact subnets

/-- A block of devices ends before the broadcast address. -/
theorem host_of_device {subnets : List Subnet} {limit : Nat}
    (size : BlockSize limit) (several : 2 ≤ limit)
    (device : ip ∈ vpnAccountDeviceIPs subnets index limit) :
    ip.host < 256 := by
  obtain ⟨place, below, -, host⟩ := (mem_vpnAccountDeviceIPs size).mp device
  have fits := block_fits size several (Nat.mod_lt index
    (accountsPerSubnet_pos size))
  omega

theorem subnet_of_device
    (octet : subnetsOf settings.ranges = [] → 0 ≤ row.id ∧ row.id < 256)
    (device : ip ∈ settings.deviceIPs backend row.id index) :
    ip.subnet ∈ pppSubnetsOrDefault settings.ranges backend row.id ∧
      ip.host < 256 := by
  unfold Radius.AddressSettings.deviceIPs at device
  split at device
  next => exact subnet_of_computed octet (Option.mem_toList.mp device)
  next several =>
    have size := blockSize_effectiveUserLimit settings.userLimit
    obtain ⟨place, -, found, -⟩ := (mem_vpnAccountDeviceIPs size).mp device
    exact ⟨List.mem_of_getElem? found,
      host_of_device size (Nat.lt_of_not_le several) device⟩

theorem valid_of_device
    (octet : subnetsOf settings.ranges = [] → 0 ≤ row.id ∧ row.id < 256)
    (device : ip ∈ settings.deviceIPs backend row.id index) : ip.Valid := by
  obtain ⟨subnets, host⟩ := subnet_of_device octet device
  refine ⟨?_, host⟩
  unfold pppSubnetsOrDefault at subnets
  split at subnets
  next empty =>
    rw [List.mem_singleton.mp subnets]
    exact valid_idSubnet (octet empty)
  next => exact valid_of_mem_subnetsOf subnets

theorem pppCIDRs_eq
    (ranges : (BackEnd.serve host backend row).reading.elim [] (·.view.ranges) =
      settings.ranges)
    (octet : subnetsOf settings.ranges = [] → 0 ≤ row.id ∧ row.id < 256) :
    BackEnd.pppCIDRs backend (BackEnd.serve host backend row) =
      (pppSubnetsOrDefault settings.ranges backend row.id).map
        BackEnd.subnetCIDR := by
  unfold BackEnd.pppCIDRs pppSubnetsOrDefault
  rw [ranges]
  cases found : subnetsOf settings.ranges with
  | nil =>
      obtain ⟨number, same⟩ := Int.eq_ofNat_of_zero_le (octet found).1
      have ten : "10." = toString 10 ++ "." := rfl
      change ["10." ++ toString backend.protocolBase ++ "." ++
          toString row.id ++ ".0/24"] =
        [BackEnd.subnetCIDR (idSubnet backend.protocolBase row.id)]
      rw [same, ten]
      rfl
  | cons subnet rest => rfl

theorem clientCIDRs_ppp {served : BackEnd.Served} (other : backend ≠ .openvpn)
    (apart : backend ≠ .openconnect) :
    BackEnd.clientCIDRs served backend = BackEnd.pppCIDRs backend served := by
  cases backend <;> first | rfl | exact absurd rfl other | exact absurd rfl apart

/-- The devices of an OpenConnect row are in its one network. -/
theorem device_covered_ocserv (placed : Placed host .openconnect row)
    (decoded : row.settings.decode Radius.AddressSettings.decode =
      some settings)
    (device : ip ∈ settings.deviceIPs .openconnect row.id index) :
    BackEnd.covers (BackEnd.clientCIDRs (BackEnd.serve host .openconnect row)
      .openconnect) (bitsOf ip) = true := by
  obtain ⟨reading, read⟩ := Option.ne_none_iff_exists'.mp placed.parses
  obtain ⟨plain, given⟩ := placed.block rfl settings decoded
  have ranges := ranges_of_reading (by decide) read decoded fun _ => plain
  have whole : settings.ranges = settings.ipRanges :=
    if_neg fun legacy => legacy.2 plain
  have octet := placed.octet settings decoded
  have valid := valid_of_device octet device
  have inside := (subnet_of_device octet device).1
  have networks : BackEnd.clientCIDRs (BackEnd.serve host .openconnect row)
      .openconnect = [BackEnd.blockCIDR (vpnBlock settings.ranges
        VpnProtocol.openconnect.protocolBase row.id)] := by
    unfold BackEnd.clientCIDRs
    rw [read, ← ranges]
    rfl
  rw [networks, BackEnd.covers_singleton]
  rcases given with empty | aligned
  · have absent : settings.ranges = [] := whole.trans empty
    have bounds := octet (by rw [absent]; rfl)
    rw [absent] at inside ⊢
    obtain same : ip.subnet = idSubnet VpnProtocol.openconnect.protocolBase
      row.id := List.mem_singleton.mp inside
    have network : vpnBlock [] VpnProtocol.openconnect.protocolBase row.id =
        ⟨ip.subnet.withHost 0, 1⟩ := by
      change Block.mk ⟨⟨10, VpnProtocol.openconnect.protocolBase,
        (row.id % 256).toNat⟩, 0⟩ 1 = _
      rw [same, Int.emod_eq_of_lt bounds.1 bounds.2]
      rfl
    rw [network, blockCIDR_single]
    exact inCidr_subnet valid
  · obtain ⟨block, aligned⟩ := aligned
    have base : VpnProtocol.openconnect.protocolBase < 256 := by decide
    rw [whole, aligned] at inside ⊢
    rw [block.vpnBlock_ranges base]
    apply inCidr_block base valid
    unfold pppSubnetsOrDefault at inside
    rw [block.subnetsOf_ranges base] at inside
    split at inside
    next empty => exact absurd empty (block.subnets_ne_nil _)
    next => exact inside

/-- The packets of a device are among those that are redirected. -/
theorem device_covered (other : backend ≠ .openvpn)
    (placed : Placed host backend row)
    (decoded : row.settings.decode Radius.AddressSettings.decode =
      some settings)
    (device : ip ∈ settings.deviceIPs backend row.id index) :
    BackEnd.covers (BackEnd.clientCIDRs (BackEnd.serve host backend row)
      backend) (bitsOf ip) = true := by
  by_cases ocserv : backend = .openconnect
  · subst ocserv
    exact device_covered_ocserv placed decoded device
  · obtain ⟨reading, read⟩ := Option.ne_none_iff_exists'.mp placed.parses
    have octet := placed.octet settings decoded
    have ranges : (BackEnd.serve host backend row).reading.elim []
        (·.view.ranges) = settings.ranges := by
      rw [read]
      exact ranges_of_reading other read decoded fun same =>
        absurd same ocserv
    rw [clientCIDRs_ppp other ocserv, pppCIDRs_eq ranges octet,
      BackEnd.covers_eq_true]
    exact ⟨_, List.mem_map_of_mem (subnet_of_device octet device).1,
      inCidr_subnet (valid_of_device octet device)⟩

end Devices

/-! The rules of the operator. -/

/-- The rules of the template, as they are stored. -/
def templateRules (unmarshal : RawMessage → JsonText) (template : Config) :
    List Json :=
  match (unmarshal template.routing).fields.get "rules" with
  | .arr rules => rules
  | _ => []

section Rewritten

variable {Attributes : Type*} {router : Router Attributes} {orders : Orders}
  {vpnMap : VpnMap} {packet : Packet Attributes} {rule other : JsonObject}
  {rules : List Json} {raw : Json} {index : Nat} {addresses : List Ipv4}

/-- A rule is known by its fields. -/
theorem applyRule_congr
    (same : ∀ key, JsonObject.get? rule key = JsonObject.get? other key) :
    applyRule router packet (.obj rule) =
      applyRule router packet (.obj other) := by
  have outbound : outboundOf rule = outboundOf other := by
    rw [outboundOf, outboundOf, same, same]
  have matched : matchesRule router rule packet =
      matchesRule router other packet := by
    rw [Bool.eq_iff_iff, matchesRule_iff, matchesRule_iff]
    simp only [same]
  rw [applyRule, applyRule, matched, outbound]

/-- The copy has the fields of the rule but its users. -/
theorem get?_vpnRule (key : String) :
    JsonObject.get? (orders.vpnRule index rule addresses) key =
      JsonObject.get? (sourceRule rule addresses) key := by
  unfold Orders.vpnRule sourceRule
  by_cases source : key = "source"
  · subst source
    rw [JsonObject.get?_set_self, JsonObject.get?_set_self]
  · have listed : key ∈ orders.rule index rule ↔
        (JsonObject.get? rule key).isSome = true :=
      (orders.rule_perm index rule).mem_iff.trans JsonObject.mem_keys_iff
    rw [JsonObject.get?_set_ne source, JsonObject.get?_set_ne source,
      get?_foldl_copyField]
    by_cases user : key = "user"
    · subst user
      rw [if_neg fun both => both.2 rfl, JsonObject.get?_remove_self]
      rfl
    · rw [JsonObject.get?_remove_ne user, JsonObject.get]
      cases found : JsonObject.get? rule key with
      | none =>
          rw [found] at listed
          exact if_neg fun both => absurd (listed.mp both.1) (by decide)
      | some value =>
          rw [found] at listed
          exact if_pos ⟨listed.mpr rfl, user⟩

/-- What replaces a rule decides as the rule does for the sender. -/
theorem firstMatch_splitRule? :
    firstMatch (applyRule router packet)
        ((orders.splitRule? vpnMap index raw).getD [raw]) =
      firstMatch (applyRule router packet) (translateRule vpnMap raw) := by
  cases raw with
  | obj rule =>
      unfold Orders.splitRule? translateRule
      dsimp only
      generalize JsonObject.get rule "user" = value
      cases value with
      | arr users =>
          dsimp only
          by_cases without : users.flatMap vpnMap.addressesOf = []
          · rw [if_pos without, if_pos without]
            rfl
          · rw [if_neg without, if_neg without, Option.getD_some]
            unfold firstMatch
            rw [List.findSome?_cons, List.findSome?_cons,
              applyRule_congr get?_vpnRule]
      | _ => rfl
  | _ => rfl

theorem route_newRules (documented : Documented router)
    (disjoint : vpnMap.Disjoint)
    (carried : ∀ rule, .obj rule ∈ rules → Carried router vpnMap packet rule) :
    route router (vpnMap.arriving packet) (orders.newRules vpnMap rules) =
      route router (vpnMap.attributed packet) rules := by
  have refined : ∀ item ∈ rules.zipIdx,
      firstMatch (applyRule router (vpnMap.arriving packet))
        ((orders.splitRule? vpnMap item.2 item.1).getD [item.1]) =
      applyRule router (vpnMap.attributed packet) item.1 := by
    intro item member
    rw [firstMatch_splitRule?]
    have listed : item.1 ∈ rules := List.fst_mem_of_mem_zipIdx member
    cases shape : item.1 with
    | obj rule =>
        rw [shape] at listed
        exact firstMatch_translateRule documented disjoint
          (carried rule listed)
    | _ => exact firstMatch_singleton
  unfold Orders.newRules route
  rw [firstMatch_refine refined]
  have whole := @List.zipIdx_map_fst _ 0 rules
  conv_rhs => rw [← whole]
  unfold firstMatch
  rw [List.findSome?_map]
  rfl

theorem newRules_of_not_modified
    (kept : orders.modified vpnMap rules = false) :
    orders.newRules vpnMap rules = rules := by
  have unsplit : ∀ item ∈ rules.zipIdx,
      (orders.splitRule? vpnMap item.2 item.1).getD [item.1] = [item.1] := by
    intro item member
    have none := List.any_eq_false.mp kept item member
    rw [Bool.not_eq_true, Option.isSome_eq_false_iff,
      Option.isNone_iff_eq_none] at none
    rw [none]
    rfl
  unfold Orders.newRules
  rw [List.flatMap_congr unsplit, ← List.map_eq_flatMap]
  exact List.zipIdx_map_fst 0 rules

end Rewritten

section Generated

variable {Attributes : Type*} {router : Router Attributes} {orders : Orders}
  {unmarshal : RawMessage → JsonText} {vpnMap : VpnMap} {config : Config}
  {packet : Packet Attributes}

/-- The panel rewrites rules in which a float64 changes no number; an empty text
has no fields. -/
structure PlainRouting (unmarshal : RawMessage → JsonText) (template : Config) :
    Prop where
  blank : (unmarshal "").fields = []
  numbers : viaFloatFields (unmarshal template.routing).fields =
    (unmarshal template.routing).fields

theorem operatorRules_eq (plain : PlainRouting unmarshal config)
    (mapped : vpnMap.entries ≠ []) :
    orders.operatorRules unmarshal vpnMap config =
      orders.newRules vpnMap (templateRules unmarshal config) := by
  unfold Orders.operatorRules Orders.rewriting? templateRules
  by_cases routed : config.routing = ""
  · rw [if_pos (.inl routed), routed, plain.blank]
    rfl
  · have present : ¬ (config.routing = "" ∨ vpnMap.entries = []) := by
      intro either
      rcases either with blank | none
      · exact routed blank
      · exact mapped none
    rw [if_neg present, plain.numbers]
    dsimp only
    generalize JsonObject.get (unmarshal config.routing).fields "rules" = value
    cases value with
    | arr rules =>
        cases rules with
        | nil => rfl
        | cons first rest =>
            dsimp only
            by_cases changed : (orders.modified vpnMap (first :: rest) ||
                !(orders.backstop vpnMap ((outboundMaps
                  (unmarshal config.outbounds)).getD [])).isEmpty) = true
            · rw [if_pos changed]
            · rw [if_neg changed]
              rw [Bool.not_eq_true, Bool.or_eq_false_iff] at changed
              exact (newRules_of_not_modified changed.1).symm
    | _ => rfl

/-- The rewritten routing is the text of the generated rules. -/
theorem written_rules
    (rewritten : (orders.rewriting? unmarshal vpnMap config).isSome = true) :
    (orders.translateVpnRoutingRules unmarshal vpnMap config).routing =
      Json.marshal .compact (.obj (JsonObject.set
        (viaFloatFields (unmarshal config.routing).fields) "rules"
        (.arr (orders.generatedRules unmarshal vpnMap config)))) := by
  obtain ⟨rewriting, found⟩ := Option.isSome_iff_exists.mp rewritten
  have routing : rewriting.routing =
      viaFloatFields (unmarshal config.routing).fields := by
    unfold Orders.rewriting? at found
    split at found
    · cases found
    · dsimp only at found
      split at found
      · split at found
        · exact (congrArg Rewriting.routing (Option.some.inj found)).symm
        · cases found
      · cases found
  rw [routing_translate, Orders.generatedRules, Orders.operatorRules,
    Orders.backstopRules, found, ← routing]
  rfl

/-- A packet of an account that no rule takes leaves through the default
outbound, if the backstop is there. -/
theorem route_backstopRules (documented : DocumentedFields router)
    (listed : packet.source ∈ orders.validIPs vpnMap)
    (has : HasBackstop unmarshal vpnMap config) :
    route router packet (orders.backstopRules unmarshal vpnMap config) =
      some ⟨some (.str (defaultTag
        ((outboundMaps (unmarshal config.outbounds)).getD []))), none⟩ := by
  rw [backstopRules_of has]
  change firstMatch _ ([_] ++ [_]) = _
  rw [firstMatch_append, firstMatch_singleton,
    apply_acceptRule documented (List.ne_nil_of_mem listed), if_pos listed]
  rfl

end Generated

/-! The path. -/

section Path

variable {Attributes : Type*} (router : Router Attributes) (orders : Orders)
  (unmarshal : RawMessage → JsonText) (template : Config) (rows : InboundRows)
  (host : BackEnd.Host) (database : Store.Database)

/-- The rules of the operator as they are for what the e-mail sends, the rest
leaving through the default outbound where there is a backstop. -/
structure Routed (email : String) (packet : Packet Attributes) : Prop where
  backed : HasBackstop unmarshal (vpnMapOf unmarshal rows) template →
    route router { packet with user := "" }
        (orders.generatedRules unmarshal (vpnMapOf unmarshal rows) template) =
      (route router { packet with user := email }
        (templateRules unmarshal template)).or
          (some ⟨some (.str (defaultTag
            ((outboundMaps (unmarshal template.outbounds)).getD []))), none⟩)
  bare : ¬ HasBackstop unmarshal (vpnMapOf unmarshal rows) template →
    route router { packet with user := "" }
        (orders.generatedRules unmarshal (vpnMapOf unmarshal rows) template) =
      route router { packet with user := email }
        (templateRules unmarshal template)

/-- How the packets of an address are carried.  The firewall redirects those that
leave the VPN to a port; the core listens there, for this inbound alone; its
routing is the text of the generated rules; and these route the packets as the
rules of the operator route what the e-mail sends. -/
structure Pathway (row : InboundRow) (email : String) (ip : Ipv4) : Prop where
  redirected : ∀ packet : BackEnd.Packet, packet.source = bitsOf ip →
    (∀ other : BackEnd.VpnInbound database,
      BackEnd.covers (other.subnets host) packet.destination = false) →
    BackEnd.fate host database packet = some (.tproxy row.dokodemo.port)
  listening : row.dokodemo ∈
    (orders.getXrayConfig unmarshal template rows).inbounds
  alone : ∀ backend, ∀ other ∈ dokodemoInbounds rows backend,
    other.dokodemo.port = row.dokodemo.port → other = row
  written : (orders.getXrayConfig unmarshal template rows).routing =
        template.routing ∧
      orders.generatedRules unmarshal (vpnMapOf unmarshal rows) template =
        templateRules unmarshal template ∨
    (orders.getXrayConfig unmarshal template rows).routing =
      Json.marshal .compact (.obj (JsonObject.set
        (viaFloatFields (unmarshal template.routing).fields) "rules"
        (.arr (orders.generatedRules unmarshal (vpnMapOf unmarshal rows)
          template))))
  routed : email ≠ "" → (vpnMapOf unmarshal rows).Disjoint →
    ∀ packet : Packet Attributes, packet.source = ip →
      (∀ rule, .obj rule ∈ templateRules unmarshal template →
        Carried router (vpnMapOf unmarshal rows) packet rule) →
      Routed router orders unmarshal template rows email packet

variable {router orders unmarshal template rows host database}
  {backend : VpnProtocol} {row : InboundRow} {email : String} {ip : Ipv4}
  {settings : Radius.AddressSettings} {index : Nat}

theorem redirected_of_covered
    (shared : database.inbounds.view = toInbounds unmarshal rows)
    (apart : BackEnd.Apart host database) (stored : row ∈ rows)
    (isVpn : row.protocol = .vpn backend) (enabled : row.enable = true)
    (covered : BackEnd.covers (BackEnd.clientCIDRs
      (BackEnd.serve host backend (row.toInbound unmarshal)) backend)
        (bitsOf ip) = true)
    (packet : BackEnd.Packet) (source : packet.source = bitsOf ip)
    (outside : ∀ other : BackEnd.VpnInbound database,
      BackEnd.covers (other.subnets host) packet.destination = false) :
    BackEnd.fate host database packet = some (.tproxy row.dokodemo.port) := by
  have listed : row.toInbound unmarshal ∈ database.inbounds.view := by
    rw [shared]
    exact List.mem_map_of_mem stored
  let inbound : BackEnd.VpnInbound database :=
    ⟨row.toInbound unmarshal, backend, listed, isVpn, enabled⟩
  have ours : BackEnd.covers (inbound.subnets host) packet.source = true := by
    rw [source]
    exact covered
  rw [BackEnd.fate_eq_ownFate apart ours, BackEnd.ownFate, outside inbound]
  · rfl
  · intro target _ _ reached
    rw [outside target] at reached
    cases reached

theorem mem_dokodemoInbounds {other : InboundRow} :
    other ∈ dokodemoInbounds rows backend ↔
      other ∈ rows ∧ other.protocol = .vpn backend ∧ other.enable = true := by
  rw [dokodemoInbounds, List.mem_filter, Bool.and_eq_true, decide_eq_true_iff]
  rfl

theorem dokodemo_mem (stored : row ∈ rows)
    (isVpn : row.protocol = .vpn backend) (enabled : row.enable = true) :
    row.dokodemo ∈ (orders.getXrayConfig unmarshal template rows).inbounds := by
  rw [getXrayConfig_shape]
  refine List.mem_append_right _ (List.mem_map_of_mem (List.mem_flatMap.mpr
    ⟨backend, ?_, mem_dokodemoInbounds.mpr ⟨stored, isVpn, enabled⟩⟩))
  cases backend <;> decide

theorem written_generatedRules :
    (orders.getXrayConfig unmarshal template rows).routing =
          template.routing ∧
        orders.generatedRules unmarshal (vpnMapOf unmarshal rows) template =
          templateRules unmarshal template ∨
      (orders.getXrayConfig unmarshal template rows).routing =
        Json.marshal .compact (.obj (JsonObject.set
          (viaFloatFields (unmarshal template.routing).fields) "rules"
          (.arr (orders.generatedRules unmarshal (vpnMapOf unmarshal rows)
            template)))) := by
  cases found : orders.rewriting? unmarshal (vpnMapOf unmarshal rows)
      template with
  | none =>
      left
      rw [routing_getXrayConfig, Orders.generatedRules, Orders.operatorRules,
        Orders.backstopRules, found]
      exact ⟨rfl, List.append_nil _⟩
  | some rewriting =>
      right
      rw [getXrayConfig_shape]
      exact written_rules (Option.isSome_iff_exists.mpr ⟨rewriting, found⟩)

/-- The rules that are generated for the packets of an account. -/
theorem routed_of_owner (documented : DocumentedFields router)
    (plain : PlainRouting unmarshal template)
    (disjoint : (vpnMapOf unmarshal rows).Disjoint)
    {packet : Packet Attributes}
    (owned : (vpnMapOf unmarshal rows).owner packet.source = some email)
    (carried : ∀ rule, .obj rule ∈ templateRules unmarshal template →
      Carried router (vpnMapOf unmarshal rows) packet rule) :
    Routed router orders unmarshal template rows email packet := by
  obtain ⟨addresses, held, inside⟩ := VpnMap.addresses_of_owner owned
  have entry := KeyMap.mem_entries_iff.mpr held
  have arriving : (vpnMapOf unmarshal rows).arriving packet =
      { packet with user := "" } := by
    rw [VpnMap.arriving, owned]
  have attributed : (vpnMapOf unmarshal rows).attributed packet =
      { packet with user := email } := by
    rw [VpnMap.attributed, owned]
  have operator := @route_newRules _ router orders _ packet _
    documented.toDocumented disjoint carried
  rw [arriving, attributed, ← operatorRules_eq plain (List.ne_nil_of_mem entry)]
    at operator
  have whole : route router { packet with user := "" }
        (orders.generatedRules unmarshal (vpnMapOf unmarshal rows) template) =
      (route router { packet with user := email }
        (templateRules unmarshal template)).or
          (route router { packet with user := "" } (orders.backstopRules
            unmarshal (vpnMapOf unmarshal rows) template)) := by
    rw [← operator, route, Orders.generatedRules, firstMatch_append]
    rfl
  constructor
  · intro has
    have listed : packet.source ∈ orders.validIPs (vpnMapOf unmarshal rows) :=
      mem_validIPs_iff.mpr (Radius.mem_buildVpnEmailToIPMap_iff.mp
        ⟨_, entry, inside⟩)
    rw [whole, @route_backstopRules _ router orders unmarshal _ template
      { packet with user := "" } documented listed has]
  · intro without
    rw [whole, backstopRules_of_not without]
    exact Option.or_none

end Path

/-! The path of ann, who dials in over L2TP. -/

section Example

def annSettings : RawMessage :=
  "\x7b\"clients\":[\x7b\"id\":\"ann\",\"password\":\"p\"," ++
    "\"email\":\"ann\",\"enable\":true\x7d]\x7d"

def readPathTexts (text : RawMessage) : JsonText :=
  if text = annSettings then
    .parsed (.obj [("clients", .arr [.obj [("id", .str "ann"),
      ("password", .str "p"), ("email", .str "ann"),
      ("enable", .bool true)]])])
  else readTunnelTexts text

def annRow : InboundRow where
  id := 1
  enable := true
  listen := ""
  port := 1701
  protocol := .vpn .l2tp
  settings := annSettings
  streamSettings := ""
  tag := "inbound-1701"
  sniffing := ""
  clientStats := []

def annRows : InboundRows := Table.empty.save annRow

def annStored : Store.StoredInbound where
  toInbound := annRow.toInbound readPathTexts
  up := 0
  down := 0
  allTime := 0
  total := 0
  expiryTime := 0

def annDatabase : Store.Database where
  inbounds := Table.empty.save annStored
  traffics := Table.empty
  ips := Table.empty

/-- Her answer to a challenge. -/
def annDials : Radius.AccessRequest where
  username := "ann"
  nas := some (.l2tp, 0)
  userPassword := ""
  challenge := List.replicate 16 0
  response := List.replicate 50 0

theorem ann_inbound (inbound : BackEnd.VpnInbound annDatabase) :
    inbound.row = annStored.toInbound ∧ inbound.backend = .l2tp := by
  obtain ⟨row, backend, listed, isVpn, -⟩ := inbound
  obtain ⟨stored, member, rfl⟩ := List.mem_map.mp listed
  obtain rfl := List.mem_singleton.mp member
  exact ⟨rfl, (Protocol.vpn.inj isVpn).symm⟩

theorem ann_apart : BackEnd.Apart BackEnd.bareHost annDatabase := by
  intro left right differ
  rw [(ann_inbound left).1, (ann_inbound right).1] at differ
  exact absurd rfl differ

theorem ann_placed :
    ∀ row ∈ toInbounds readPathTexts annRows,
      row.protocol = .vpn .l2tp → row.enable = true →
      Placed BackEnd.bareHost .l2tp row := by
  intro row member _ _
  obtain rfl := List.mem_singleton.mp member
  constructor
  · intro unread
    exact absurd unread (by decide)
  · intro _ _ _
    exact ⟨by decide, by decide⟩
  · intro same
    cases same

end Example

end VpnUi.Xray
