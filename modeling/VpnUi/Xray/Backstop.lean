import VpnUi.BackEnd.Prerouting
import VpnUi.Xray.MapOrder

namespace VpnUi.Xray

open Foundation VpnUi.Panel Address

/-! Where the packets of VPN clients go that no rule of the operator takes. -/

/-- The routing as it is marshalled: the rules in place of the template's, and
the ones that are appended to them. -/
structure Rewriting where
  routing : JsonObject
  rules : List Json
  backstop : List Json

section Generated

variable (orders : Orders) (unmarshal : RawMessage → JsonText)
  (vpnMap : VpnMap) (config : Config)

namespace Orders

def rewriting? : Option Rewriting :=
  if config.routing = "" ∨ vpnMap.entries = [] then none
  else
    let routing : JsonObject := viaFloatFields (unmarshal config.routing).fields
    match routing.get "rules" with
    | .arr (first :: others) =>
        let outbounds := (outboundMaps (unmarshal config.outbounds)).getD []
        let backstop := orders.backstop vpnMap outbounds
        if orders.modified vpnMap (first :: others) || !backstop.isEmpty then
          some ⟨routing, orders.newRules vpnMap (first :: others), backstop⟩
        else none
    | _ => none

/-- The rules of the operator in the generated routing. -/
def operatorRules : List Json :=
  match orders.rewriting? unmarshal vpnMap config with
  | some rewriting => rewriting.rules
  | none =>
      match (unmarshal config.routing).fields.get "rules" with
      | .arr rules => rules
      | _ => []

def backstopRules : List Json :=
  (orders.rewriting? unmarshal vpnMap config).elim [] Rewriting.backstop

def generatedRules : List Json :=
  orders.operatorRules unmarshal vpnMap config ++
    orders.backstopRules unmarshal vpnMap config

end Orders

/-- The text is that of the rewritten routing, or stays the template's. -/
theorem routing_translate :
    (orders.translateVpnRoutingRules unmarshal vpnMap config).routing =
      (orders.rewriting? unmarshal vpnMap config).elim config.routing
        fun rewriting => Json.marshal .compact (.obj (rewriting.routing.set
          "rules" (.arr (rewriting.rules ++ rewriting.backstop)))) := by
  unfold Orders.translateVpnRoutingRules Orders.rewriting?
  split
  · rfl
  · dsimp only
    generalize JsonObject.get (viaFloatFields (unmarshal config.routing).fields)
      "rules" = value
    cases value with
    | arr rules =>
        cases rules with
        | nil => rfl
        | cons first others =>
            dsimp only
            split <;> rfl
    | _ => rfl

end Generated

def vpnMapOf (unmarshal : RawMessage → JsonText) (rows : InboundRows) : VpnMap :=
  Radius.buildVpnEmailToIPMap (toInbounds unmarshal rows)

theorem routing_getXrayConfig {orders : Orders}
    {unmarshal : RawMessage → JsonText} {template : Config}
    {rows : InboundRows} :
    (orders.getXrayConfig unmarshal template rows).routing =
      (orders.rewriting? unmarshal (vpnMapOf unmarshal rows) template).elim
        template.routing fun rewriting =>
          Json.marshal .compact (.obj (rewriting.routing.set "rules"
            (.arr (rewriting.rules ++ rewriting.backstop)))) := by
  rw [getXrayConfig_shape]
  exact routing_translate orders unmarshal _ template

/-! The outbounds. -/

abbrev IsBlackhole (outbound : JsonObject) : Prop :=
  outboundText outbound "protocol" = "blackhole"

/-- What the core documents of its outbounds: the first is for the packets that no
rule takes, and the others are found by their tags, which differ. -/
structure Delivers (outbounds : List JsonObject)
    (deliver : Option Outbound → Option Nat) : Prop where
  unrouted : outbounds ≠ [] → deliver none = some 0
  tagged : ∀ index outbound, outbounds[index]? = some outbound →
    outboundText outbound "tag" ≠ "" →
    deliver (some ⟨some (.str (outboundText outbound "tag")), none⟩) = some index
  unknown : ∀ tag, (∀ outbound ∈ outbounds, outboundText outbound "tag" ≠ tag) →
    deliver (some ⟨some (.str tag), none⟩) = none

/-- The packet is dropped by the outbound that it is given to. -/
def Dropped (outbounds : List JsonObject) (place : Option Nat) : Prop :=
  ∃ index ∈ place, ∃ outbound, outbounds[index]? = some outbound ∧
    IsBlackhole outbound

section Outbounds

variable {outbounds : List JsonObject} {deliver : Option Outbound → Option Nat}
  {tag : String}

theorem foldl_blockTag {given : String} :
    outbounds.foldl (fun tag outbound =>
        if outboundText outbound "protocol" = "blackhole" ∧
            outboundText outbound "tag" ≠ "" then outboundText outbound "tag"
        else tag) given = given ∨
      ∃ outbound ∈ outbounds, IsBlackhole outbound ∧
        outboundText outbound "tag" ≠ "" ∧
        outboundText outbound "tag" = outbounds.foldl (fun tag outbound =>
          if outboundText outbound "protocol" = "blackhole" ∧
              outboundText outbound "tag" ≠ "" then outboundText outbound "tag"
          else tag) given := by
  induction outbounds generalizing given with
  | nil => exact .inl rfl
  | cons outbound outbounds induction =>
      rw [List.foldl_cons]
      rcases @induction (if outboundText outbound "protocol" = "blackhole" ∧
          outboundText outbound "tag" ≠ "" then outboundText outbound "tag"
        else given) with same | later
      · rw [same]
        split
        next drops => exact .inr ⟨outbound, List.mem_cons_self, drops.1, drops.2, rfl⟩
        next => exact .inl rfl
      · obtain ⟨other, member, drops⟩ := later
        exact .inr ⟨other, List.mem_cons_of_mem _ member, drops⟩

/-- The tag is that of an outbound that drops. -/
theorem exists_blockTag (blocks : blockTag outbounds ≠ "") :
    ∃ outbound ∈ outbounds, IsBlackhole outbound ∧
      outboundText outbound "tag" = blockTag outbounds := by
  rcases @foldl_blockTag outbounds "" with none | found
  · exact absurd none blocks
  · obtain ⟨outbound, member, drops, -, same⟩ := found
    exact ⟨outbound, member, drops, same⟩

theorem deliver_of_mem (delivers : Delivers outbounds deliver)
    {outbound : JsonObject} (member : outbound ∈ outbounds)
    (tagged : outboundText outbound "tag" = tag) (given : tag ≠ "") :
    ∃ index, deliver (some ⟨some (.str tag), none⟩) = some index ∧
      outbounds[index]? = some outbound := by
  subst tagged
  obtain ⟨index, found⟩ := List.getElem?_of_mem member
  exact ⟨index, delivers.tagged index outbound found given, found⟩

/-- A tag leads to the first outbound only if it is the tag of the first. -/
theorem deliver_eq_zero_iff (delivers : Delivers outbounds deliver)
    (given : tag ≠ "") :
    deliver (some ⟨some (.str tag), none⟩) = some 0 ↔
      ∃ first ∈ outbounds.head?, outboundText first "tag" = tag := by
  constructor
  · intro led
    by_cases known : ∃ outbound ∈ outbounds, outboundText outbound "tag" = tag
    · obtain ⟨outbound, member, tagged⟩ := known
      obtain ⟨index, delivered, found⟩ :=
        deliver_of_mem delivers member tagged given
      obtain rfl : index = 0 := Option.some.inj (delivered.symm.trans led)
      exact ⟨outbound, by rwa [List.head?_eq_getElem?], tagged⟩
    · push Not at known
      rw [delivers.unknown tag known] at led
      cases led
  · intro named
    obtain ⟨first, head, rfl⟩ := named
    exact delivers.tagged 0 first (by rwa [← List.head?_eq_getElem?]) given

theorem dropped_deliver_iff (delivers : Delivers outbounds deliver)
    (given : tag ≠ "") :
    Dropped outbounds (deliver (some ⟨some (.str tag), none⟩)) ↔
      ∃ outbound ∈ outbounds, outboundText outbound "tag" = tag ∧
        IsBlackhole outbound := by
  constructor
  · intro dropped
    obtain ⟨index, led, outbound, found, drops⟩ := dropped
    by_cases known : ∃ outbound ∈ outbounds, outboundText outbound "tag" = tag
    · obtain ⟨other, member, tagged⟩ := known
      obtain ⟨place, delivered, there⟩ :=
        deliver_of_mem delivers member tagged given
      obtain rfl : place = index := Option.some.inj (delivered.symm.trans led)
      obtain rfl : other = outbound := Option.some.inj (there.symm.trans found)
      exact ⟨other, member, tagged, drops⟩
    · push Not at known
      rw [delivers.unknown tag known] at led
      cases led
  · intro known
    obtain ⟨outbound, member, tagged, drops⟩ := known
    obtain ⟨index, delivered, found⟩ :=
      deliver_of_mem delivers member tagged given
    exact ⟨index, delivered, outbound, found, drops⟩

theorem dropped_zero_iff :
    Dropped outbounds (some 0) ↔
      ∃ first ∈ outbounds.head?, IsBlackhole first := by
  constructor
  · intro dropped
    obtain ⟨index, zero, outbound, found, drops⟩ := dropped
    obtain rfl := Option.some.inj zero
    exact ⟨outbound, by rwa [List.head?_eq_getElem?], drops⟩
  · intro named
    obtain ⟨first, head, drops⟩ := named
    exact ⟨0, rfl, first, by rwa [← List.head?_eq_getElem?], drops⟩

theorem defaultTag_ne_empty : defaultTag outbounds ≠ "" := by
  unfold defaultTag
  split
  · split
    next given => exact given
    next => decide
  · decide

/-- The default tag is that of the first outbound if it has one. -/
theorem first_defaultTag_iff :
    (∃ first ∈ outbounds.head?,
        outboundText first "tag" = defaultTag outbounds) ↔
      ∃ first ∈ outbounds.head?, outboundText first "tag" ≠ "" := by
  cases outbounds with
  | nil => simp
  | cons first outbounds =>
      simp only [List.head?_cons, Option.mem_some_iff, exists_eq_left', defaultTag]
      split
      next given => exact iff_of_true rfl given
      next blank =>
        rw [not_not] at blank
        rw [blank]
        exact iff_of_false (by decide) (by simp)

end Outbounds

/-! The addresses. -/

/-- The address as the firewall sees it. -/
def bitsOf (ip : Ipv4) : BitVec 32 := .ofNat 32 ip.toU32

/-- The packets from the address are redirected for the inbound. -/
def Redirected (host : BackEnd.Host) (row : Inbound) (source : Ipv4) : Prop :=
  ∃ backend, row.protocol = .vpn backend ∧ ∃ network transport port,
    .tproxy network transport port ∈
      BackEnd.tproxyRules backend (BackEnd.serve host backend row) ∧
    BackEnd.inCidr (bitsOf source) network = true

/-- What the core documents of the fields of the appended rules. -/
structure DocumentedFields {Attributes : Type*} (router : Router Attributes) :
    Prop extends Documented router where
  fieldType : ∀ packet, router.condition "type" (.str "field") packet = true
  outboundTag : ∀ tag packet,
    router.condition "outboundTag" (.str tag) packet = true
  network : ∀ network, (BackEnd.cidr? network).isSome = true → ∀ packet,
    packet.source.Valid →
    router.condition "source" (.arr [.str network]) packet =
      BackEnd.inCidr (bitsOf packet.source) network

section Rules

variable {Attributes : Type*} {router : Router Attributes}
  {packet : Packet Attributes} {addresses : List Ipv4} {tag : String}

theorem matches_appended {source : Json}
    (documented : DocumentedFields router) :
    matchesRule router [("type", .str "field"), ("source", source),
        ("outboundTag", .str tag)] packet =
      router.condition "source" source packet := by
  change (router.condition "type" (.str "field") packet &&
    (router.condition "source" source packet &&
      (router.condition "outboundTag" (.str tag) packet && true))) = _
  rw [documented.fieldType, documented.outboundTag, Bool.true_and,
    Bool.and_true, Bool.and_true]

theorem apply_acceptRule (documented : DocumentedFields router)
    (present : addresses ≠ []) :
    applyRule router packet (acceptRule addresses tag) =
      if packet.source ∈ addresses then some ⟨some (.str tag), none⟩
      else none := by
  rw [acceptRule, applyRule, matches_appended documented,
    documented.addresses addresses present]
  simp only [decide_eq_true_eq]
  rfl

theorem apply_blockRule (documented : DocumentedFields router)
    (valid : packet.source.Valid) :
    applyRule router packet (blockRule tag) =
      if BackEnd.inCidr (bitsOf packet.source) vpnAddrSpace = true then
        some ⟨some (.str tag), none⟩
      else none := by
  rw [blockRule, applyRule, matches_appended documented,
    documented.network vpnAddrSpace (by decide) packet valid]
  rfl

end Rules

/-! The backstop. -/

section Backstop

variable {Attributes : Type*} (router : Router Attributes)
  (deliver : Option Outbound → Option Nat) (orders : Orders)
  (unmarshal : RawMessage → JsonText) (template : Config) (rows : InboundRows)
  (outbounds : List JsonObject)

/-- The outbound that a packet is given to. -/
def destination (packet : Packet Attributes) : Option Nat :=
  deliver (route router packet
    (orders.generatedRules unmarshal (vpnMapOf unmarshal rows) template))

/-- The packets of the assigned addresses leave through the default outbound, and
the others are dropped. -/
structure Backstopped (packet : Packet Attributes) : Prop where
  assigned : Radius.Assigned (toInbounds unmarshal rows) packet.source →
    destination router deliver orders unmarshal template rows packet = some 0
  unassigned : ¬ Radius.Assigned (toInbounds unmarshal rows) packet.source →
    Dropped outbounds
      (destination router deliver orders unmarshal template rows packet)

/-- A redirected packet that no rule of the operator takes. -/
structure Unrouted (host : BackEnd.Host) (packet : Packet Attributes) :
    Prop where
  valid : packet.source.Valid
  redirected : ∃ row ∈ toInbounds unmarshal rows,
    Redirected host row packet.source
  unmatched : route router packet (orders.operatorRules unmarshal
    (vpnMapOf unmarshal rows) template) = none

/-- The template has rules and a blackhole with a tag, and some client with an
e-mail has an address. -/
structure Guarded : Prop where
  routed : template.routing ≠ ""
  rules : ∃ first others, JsonObject.get
    (viaFloatFields (unmarshal template.routing).fields) "rules" =
      .arr (first :: others)
  blocks : blockTag outbounds ≠ ""
  listed : ∃ ip, Radius.Listed (toInbounds unmarshal rows) ip

/-- An address of the space that is blocked. -/
abbrev InVpnSpace (source : Ipv4) : Prop :=
  BackEnd.inCidr (bitsOf source) vpnAddrSpace = true

/-- Where the rules are appended, an address of a client with an e-mail is
assigned and the first outbound has a tag, and of the other addresses those in
the space are not assigned and those out of it are.  Elsewhere every address is
assigned.  It may also be that the default outbound is itself a blackhole. -/
structure Settled (source : Ipv4) : Prop where
  listed : Guarded unmarshal template rows outbounds →
    Radius.Listed (toInbounds unmarshal rows) source →
    (Radius.Assigned (toInbounds unmarshal rows) source →
      ∃ first ∈ outbounds.head?, outboundText first "tag" ≠ "") ∧
    (¬ Radius.Assigned (toInbounds unmarshal rows) source →
      ∃ outbound ∈ outbounds,
        outboundText outbound "tag" = defaultTag outbounds ∧
          IsBlackhole outbound)
  inside : Guarded unmarshal template rows outbounds →
    ¬ Radius.Listed (toInbounds unmarshal rows) source → InVpnSpace source →
    Radius.Assigned (toInbounds unmarshal rows) source →
      ∃ first ∈ outbounds.head?,
        outboundText first "tag" = blockTag outbounds
  free : ¬ (Guarded unmarshal template rows outbounds ∧
      (Radius.Listed (toInbounds unmarshal rows) source ∨
        InVpnSpace source)) →
    ¬ Radius.Assigned (toInbounds unmarshal rows) source →
      ∃ first ∈ outbounds.head?, IsBlackhole first

variable {router deliver orders unmarshal template rows outbounds}
  {packet : Packet Attributes} {vpnMap : VpnMap} {config : Config}

theorem backstopRules_of (has : HasBackstop unmarshal vpnMap config) :
    orders.backstopRules unmarshal vpnMap config =
      [acceptRule (orders.validIPs vpnMap) (defaultTag
          ((outboundMaps (unmarshal config.outbounds)).getD [])),
        blockRule (blockTag
          ((outboundMaps (unmarshal config.outbounds)).getD []))] := by
  obtain ⟨routed, ⟨first, others, rules⟩, blocks, assigned⟩ := has
  have present : ¬ (config.routing = "" ∨ vpnMap.entries = []) := by
    intro missing
    rcases missing with empty | none
    · exact routed empty
    · obtain ⟨entry, member, -⟩ := assigned
      rw [none] at member
      cases member
  unfold Orders.backstopRules Orders.rewriting?
  rw [if_neg present]
  dsimp only
  rw [rules]
  dsimp only
  rw [backstop_of orders blocks assigned, List.isEmpty_cons, Bool.not_false,
    Bool.or_true, if_pos rfl]
  rfl

theorem backstopRules_of_not (without : ¬ HasBackstop unmarshal vpnMap config) :
    orders.backstopRules unmarshal vpnMap config = [] := by
  unfold Orders.backstopRules Orders.rewriting?
  split
  · rfl
  next present =>
    rw [not_or] at present
    dsimp only
    split
    next first others rules =>
      have none := @backstop_of_not orders vpnMap
        ((outboundMaps (unmarshal config.outbounds)).getD [])
        fun both => without
          ⟨present.1, ⟨first, others, rules⟩, both.1, both.2⟩
      split
      next => exact none
      next => rfl
    next => rfl

theorem hasBackstop_iff
    (known : outboundMaps (unmarshal template.outbounds) = some outbounds) :
    HasBackstop unmarshal (vpnMapOf unmarshal rows) template ↔
      Guarded unmarshal template rows outbounds := by
  have read : (outboundMaps (unmarshal template.outbounds)).getD [] =
      outbounds := by
    rw [known]
    rfl
  have assigned : (∃ entry ∈ (vpnMapOf unmarshal rows).entries,
        entry.2 ≠ []) ↔
      ∃ ip, Radius.Listed (toInbounds unmarshal rows) ip := by
    constructor
    · intro held
      obtain ⟨entry, member, given⟩ := held
      obtain ⟨ip, inside⟩ := List.exists_mem_of_ne_nil _ given
      exact ⟨ip, Radius.mem_buildVpnEmailToIPMap_iff.mp ⟨entry, member, inside⟩⟩
    · intro held
      obtain ⟨ip, listed⟩ := held
      obtain ⟨entry, member, inside⟩ :=
        Radius.mem_buildVpnEmailToIPMap_iff.mpr listed
      exact ⟨entry, member, List.ne_nil_of_mem inside⟩
  constructor
  · intro has
    exact ⟨has.routed, has.rules, read ▸ has.blocks, assigned.mp has.assigned⟩
  · intro guarded
    refine ⟨guarded.routed, guarded.rules, ?_, assigned.mpr guarded.listed⟩
    rw [read]
    exact guarded.blocks

theorem mem_validIPs_iff {ip : Ipv4} :
    ip ∈ orders.validIPs (vpnMapOf unmarshal rows) ↔
      Radius.Listed (toInbounds unmarshal rows) ip := by
  rw [← Radius.mem_buildVpnEmailToIPMap_iff, Orders.validIPs,
    List.mem_eraseDups, List.mem_flatMap]
  constructor
  · intro held
    obtain ⟨entry, member, inside⟩ := held
    exact ⟨entry, (orders.accounts_perm _).mem_iff.mp member, inside⟩
  · intro held
    obtain ⟨entry, member, inside⟩ := held
    exact ⟨entry, (orders.accounts_perm _).mem_iff.mpr member, inside⟩

section Destination

variable (documented : DocumentedFields router)
  (delivers : Delivers outbounds deliver)
  (known : outboundMaps (unmarshal template.outbounds) = some outbounds)
  (valid : packet.source.Valid)
  (unmatched : route router packet (orders.operatorRules unmarshal
    (vpnMapOf unmarshal rows) template) = none)

include unmatched in
theorem destination_eq :
    destination router deliver orders unmarshal template rows packet =
      deliver (route router packet (orders.backstopRules unmarshal
        (vpnMapOf unmarshal rows) template)) := by
  have unmatched : firstMatch (applyRule router packet)
      (orders.operatorRules unmarshal (vpnMapOf unmarshal rows) template) =
        none := unmatched
  rw [destination, route, Orders.generatedRules, firstMatch_append, unmatched,
    Option.none_or]
  rfl

include documented known valid unmatched

theorem destination_of_guarded
    (guarded : Guarded unmarshal template rows outbounds) :
    destination router deliver orders unmarshal template rows packet =
      deliver ((if packet.source ∈
          orders.validIPs (vpnMapOf unmarshal rows) then
        some ⟨some (.str (defaultTag outbounds)), none⟩ else none).or
        (if BackEnd.inCidr (bitsOf packet.source) vpnAddrSpace = true then
          some ⟨some (.str (blockTag outbounds)), none⟩ else none)) := by
  have has := (hasBackstop_iff known).mpr guarded
  have given := validIPs_ne_nil orders has.assigned
  rw [destination_eq unmatched, backstopRules_of has, known]
  change deliver (firstMatch _ ([_] ++ [_])) = _
  rw [firstMatch_append, firstMatch_singleton, firstMatch_singleton,
    apply_acceptRule documented given, apply_blockRule documented valid]
  rfl

theorem destination_of_listed
    (guarded : Guarded unmarshal template rows outbounds)
    (listed : Radius.Listed (toInbounds unmarshal rows) packet.source) :
    destination router deliver orders unmarshal template rows packet =
      deliver (some ⟨some (.str (defaultTag outbounds)), none⟩) := by
  rw [destination_of_guarded documented known valid unmatched guarded,
    if_pos (mem_validIPs_iff.mpr listed), Option.some_or]

theorem destination_of_inside
    (guarded : Guarded unmarshal template rows outbounds)
    (unlisted : ¬ Radius.Listed (toInbounds unmarshal rows) packet.source)
    (inside : InVpnSpace packet.source) :
    destination router deliver orders unmarshal template rows packet =
      deliver (some ⟨some (.str (blockTag outbounds)), none⟩) := by
  rw [destination_of_guarded documented known valid unmatched guarded,
    if_neg (mem_validIPs_iff.not.mpr unlisted), if_pos inside, Option.none_or]

include delivers

theorem destination_of_free (present : outbounds ≠ [])
    (free : ¬ (Guarded unmarshal template rows outbounds ∧
      (Radius.Listed (toInbounds unmarshal rows) packet.source ∨
        InVpnSpace packet.source))) :
    destination router deliver orders unmarshal template rows packet =
      some 0 := by
  by_cases guarded : Guarded unmarshal template rows outbounds
  · have neither := not_or.mp fun either => free ⟨guarded, either⟩
    rw [destination_of_guarded documented known valid unmatched guarded,
      if_neg (mem_validIPs_iff.not.mpr neither.1), if_neg neither.2]
    exact delivers.unrouted present
  · rw [destination_eq unmatched,
      backstopRules_of_not fun has => guarded ((hasBackstop_iff known).mp has)]
    exact delivers.unrouted present

end Destination

/-- The addresses that no rule of the operator takes go where they should exactly
if the rules that are appended are about them. -/
theorem backstopped_iff (documented : DocumentedFields router)
    (delivers : Delivers outbounds deliver)
    (known : outboundMaps (unmarshal template.outbounds) = some outbounds)
    (blackhole : ∃ outbound ∈ outbounds, IsBlackhole outbound)
    {host : BackEnd.Host}
    (unrouted : Unrouted router orders unmarshal template rows host packet) :
    Backstopped router deliver orders unmarshal template rows outbounds packet ↔
      Settled unmarshal template rows outbounds packet.source := by
  have present : outbounds ≠ [] := by
    obtain ⟨outbound, member, -⟩ := blackhole
    exact List.ne_nil_of_mem member
  have valid := unrouted.valid
  have unmatched := unrouted.unmatched
  have ofListed := fun guarded => @destination_of_listed _ router deliver orders
    _ _ _ _ _ documented known valid unmatched guarded
  have ofInside := fun guarded => @destination_of_inside _ router deliver orders
    _ _ _ _ _ documented known valid unmatched guarded
  have ofFree := @destination_of_free _ router deliver orders _ _ _ _ _ documented
    delivers known valid unmatched present
  constructor
  · intro stopped
    constructor
    · intro guarded listed
      have place := ofListed guarded listed
      constructor
      · intro assigned
        rw [← first_defaultTag_iff,
          ← deliver_eq_zero_iff delivers defaultTag_ne_empty, ← place]
        exact stopped.assigned assigned
      · intro unassigned
        rw [← dropped_deliver_iff delivers defaultTag_ne_empty, ← place]
        exact stopped.unassigned unassigned
    · intro guarded unlisted inside assigned
      rw [← deliver_eq_zero_iff delivers guarded.blocks,
        ← ofInside guarded unlisted inside]
      exact stopped.assigned assigned
    · intro free unassigned
      rw [← dropped_zero_iff, ← ofFree free]
      exact stopped.unassigned unassigned
  · intro settled
    have stopped_of_free : ¬ (Guarded unmarshal template rows outbounds ∧
        (Radius.Listed (toInbounds unmarshal rows) packet.source ∨
          InVpnSpace packet.source)) →
        Backstopped router deliver orders unmarshal template rows outbounds
          packet := by
      intro free
      constructor
      · intro _
        exact ofFree free
      · intro unassigned
        rw [ofFree free, dropped_zero_iff]
        exact settled.free free unassigned
    by_cases guarded : Guarded unmarshal template rows outbounds
    · by_cases listed : Radius.Listed (toInbounds unmarshal rows) packet.source
      · have tags := settled.listed guarded listed
        constructor
        · intro assigned
          rw [ofListed guarded listed,
            deliver_eq_zero_iff delivers defaultTag_ne_empty,
            first_defaultTag_iff]
          exact tags.1 assigned
        · intro unassigned
          rw [ofListed guarded listed,
            dropped_deliver_iff delivers defaultTag_ne_empty]
          exact tags.2 unassigned
      · by_cases inside : InVpnSpace packet.source
        · constructor
          · intro assigned
            rw [ofInside guarded listed inside,
              deliver_eq_zero_iff delivers guarded.blocks]
            exact settled.inside guarded listed inside assigned
          · intro _
            obtain ⟨outbound, member, drops, tagged⟩ :=
              exists_blockTag guarded.blocks
            rw [ofInside guarded listed inside,
              dropped_deliver_iff delivers guarded.blocks]
            exact ⟨outbound, member, tagged, drops⟩
        · exact stopped_of_free fun both => both.2.elim listed inside
    · exact stopped_of_free fun both => guarded both.1

end Backstop

/-! A stranger among two accounts. -/

section Example

/-- Reads networks too. -/
def tunnelRouter : Router String where
  condition key value packet :=
    if key = "source" then
      match value with
      | .arr sources => sources.any fun
          | .str text => text = packet.source.text ||
              BackEnd.inCidr (bitsOf packet.source) text
          | _ => false
      | _ => false
    else plainRouter.condition key value packet
  names := plainRouter.names

theorem cidr?_text {ip : Ipv4} : BackEnd.cidr? ip.text = none := by
  have plain : '/' ∉ ip.text.toList := by
    intro inside
    rcases isDigit_or_dot_of_mem_text inside with digit | dot
    · exact absurd digit (by decide)
    · exact absurd dot (by decide)
  rw [BackEnd.cidr?, cutAt_eq_none plain]
  rfl

theorem inCidr_text {ip : Ipv4} {address : BitVec 32} :
    BackEnd.inCidr address ip.text = false := by
  rw [BackEnd.inCidr, cidr?_text]

theorem tunnelRouter_documented : DocumentedFields tunnelRouter where
  userBlind key other value packet user := by
    unfold tunnelRouter
    dsimp only
    split
    · rfl
    · exact plainRouter_documented.userBlind key other value packet user
  noUsers := plainRouter_documented.noUsers
  users := plainRouter_documented.users
  nobody := plainRouter_documented.nobody
  addresses addresses _ packet := by
    change (addresses.map _).any _ = _
    rw [Bool.eq_iff_iff, List.any_map, List.any_eq_true, decide_eq_true_iff]
    simp only [Function.comp_apply, inCidr_text, Bool.or_false,
      decide_eq_true_iff]
    constructor
    · intro found
      obtain ⟨address, member, same⟩ := found
      rwa [← Ipv4.text_injective same]
    · intro member
      exact ⟨packet.source, member, rfl⟩
  fieldType _ := rfl
  outboundTag _ _ := rfl
  network network read packet _ := by
    have other : network ≠ packet.source.text := by
      intro same
      rw [same, cidr?_text] at read
      cases read
    change (decide (network = packet.source.text) || _ || false) = _
    rw [decide_eq_false other, Bool.false_or, Bool.or_false]

def carlRouting : RawMessage :=
  "\x7b\"rules\":[\x7b\"user\":[\"carl\"],\"outboundTag\":\"direct\"\x7d]\x7d"

def emptyRouting : RawMessage := "\x7b\"rules\":[]\x7d"

def twoOutbounds : RawMessage :=
  "[\x7b\"tag\":\"direct\",\"protocol\":\"freedom\"\x7d," ++
    "\x7b\"tag\":\"blocked\",\"protocol\":\"blackhole\"\x7d]"

def freedomAndBlackhole : List JsonObject :=
  [[("tag", .str "direct"), ("protocol", .str "freedom")],
    [("tag", .str "blocked"), ("protocol", .str "blackhole")]]

/-- The values of the texts. -/
def readTunnelTexts (text : RawMessage) : JsonText :=
  if text = carlRouting then
    .parsed (.obj [("rules", .arr [.obj [("user", .arr [.str "carl"]),
      ("outboundTag", .str "direct")]])])
  else if text = emptyRouting then .parsed (.obj [("rules", .arr [])])
  else if text = twoOutbounds then
    .parsed (.arr (freedomAndBlackhole.map .obj))
  else readTexts text

def tunnelTemplate (routing : RawMessage) : Config :=
  { Config.blank with
    routing := routing
    outbounds := twoOutbounds }

def deliverByTag : Option Outbound → Option Nat
  | none => some 0
  | some ⟨some (.str tag), none⟩ =>
      freedomAndBlackhole.findIdx? fun outbound =>
        outboundText outbound "tag" = tag
  | _ => none

theorem deliverByTag_delivers : Delivers freedomAndBlackhole deliverByTag where
  unrouted _ := rfl
  tagged index outbound found _ := by
    match index with
    | 0 =>
        obtain rfl := Option.some.inj found
        rfl
    | 1 =>
        obtain rfl := Option.some.inj found
        decide
    | place + 2 => cases found
  unknown tag other := by
    refine List.findIdx?_eq_none_iff.mpr fun outbound member => ?_
    exact decide_eq_false (other outbound member)

/-- The accounts in the order of the map. -/
def storedOrders : Orders :=
  { Orders.arranged ∅ [] (List.Perm.refl _) with
    accounts := fun vpnMap => vpnMap.entries
    accounts_perm := fun _ => .refl _ }

/-- A device that is not one of the two accounts'. -/
def stranger : Packet String where
  source := ⟨⟨10, 0, 1⟩, 77⟩
  user := ""
  attributes := "inbound-1701"

theorem stranger_unassigned {addresses : VpnProtocol → Inbound → Nat → List Ipv4}
    (held : ∃ row ∈ toInbounds readTunnelTexts twoClientRows,
      row.enable = true ∧ ∃ backend, row.protocol = .vpn backend ∧
        ∃ index, stranger.source ∈ addresses backend row index) :
    ∃ row ∈ toInbounds readTunnelTexts twoClientRows,
      ∃ index, stranger.source ∈ addresses .l2tp row index := by
  obtain ⟨row, member, -, backend, protocol, index, inside⟩ := held
  obtain rfl := List.mem_singleton.mp member
  obtain rfl := Protocol.vpn.inj protocol
  exact ⟨_, member, index, inside⟩

theorem stranger_not_listed :
    ¬ Radius.Listed (toInbounds readTunnelTexts twoClientRows)
      stranger.source := by
  intro listed
  obtain ⟨row, member, index, inside⟩ := stranger_unassigned listed
  obtain rfl := List.mem_singleton.mp member
  match index with
  | 0 => exact absurd inside (by decide)
  | 1 => exact absurd inside (by decide)
  | place + 2 => exact absurd inside List.not_mem_nil

theorem stranger_not_assigned :
    ¬ Radius.Assigned (toInbounds readTunnelTexts twoClientRows)
      stranger.source := by
  intro assigned
  obtain ⟨row, member, index, inside⟩ := stranger_unassigned assigned
  obtain rfl := List.mem_singleton.mp member
  match index with
  | 0 => exact absurd inside (by decide)
  | 1 => exact absurd inside (by decide)
  | place + 2 => exact absurd inside List.not_mem_nil

theorem stranger_unrouted {routing : RawMessage}
    (known : routing = carlRouting ∨ routing = emptyRouting) :
    Unrouted tunnelRouter storedOrders readTunnelTexts (tunnelTemplate routing)
      twoClientRows BackEnd.bareHost stranger where
  valid := by decide
  redirected := ⟨_, List.mem_singleton_self _, .l2tp, rfl, "10.0.1.0/24", .tcp,
    12301, by decide +kernel, by decide +kernel⟩
  unmatched := by
    rcases known with rfl | rfl
    · exact Option.isNone_iff_eq_none.mp (by decide +kernel)
    · exact Option.isNone_iff_eq_none.mp (by decide +kernel)

theorem stranger_dropped :
    Backstopped tunnelRouter deliverByTag storedOrders readTunnelTexts
      (tunnelTemplate carlRouting) twoClientRows freedomAndBlackhole
      stranger := by
  refine (backstopped_iff tunnelRouter_documented deliverByTag_delivers rfl
    ⟨_, List.mem_cons_of_mem _ List.mem_cons_self, rfl⟩
    (stranger_unrouted (.inl rfl))).mpr ⟨?_, ?_, ?_⟩
  · intro _ listed
    exact absurd listed stranger_not_listed
  · intro _ _ _ assigned
    exact absurd assigned stranger_not_assigned
  · intro free
    refine absurd ⟨⟨by decide, ⟨_, _, rfl⟩, by decide +kernel, ?_⟩, .inr ?_⟩ free
    · exact ⟨⟨⟨10, 0, 1⟩, 2⟩, _, List.mem_singleton_self _, rfl, .l2tp, rfl, 0,
        by decide +kernel⟩
    · decide +kernel

/-- Without rules in the template the stranger leaves through the default
outbound. -/
theorem stranger_let_out :
    DocumentedFields tunnelRouter ∧
      Delivers freedomAndBlackhole deliverByTag ∧
      Unrouted tunnelRouter storedOrders readTunnelTexts
        (tunnelTemplate emptyRouting) twoClientRows BackEnd.bareHost
        stranger ∧
      destination tunnelRouter deliverByTag storedOrders readTunnelTexts
        (tunnelTemplate emptyRouting) twoClientRows stranger = some 0 ∧
      ¬ Backstopped tunnelRouter deliverByTag storedOrders readTunnelTexts
        (tunnelTemplate emptyRouting) twoClientRows freedomAndBlackhole
        stranger := by
  have place : destination tunnelRouter deliverByTag storedOrders readTunnelTexts
      (tunnelTemplate emptyRouting) twoClientRows stranger = some 0 := by
    decide +kernel
  refine ⟨tunnelRouter_documented, deliverByTag_delivers,
    stranger_unrouted (.inr rfl), place, ?_⟩
  intro stopped
  obtain ⟨index, led, outbound, found, drops⟩ :=
    stopped.unassigned stranger_not_assigned
  obtain rfl := Option.some.inj (place.symm.trans led)
  obtain rfl := Option.some.inj found
  exact absurd drops (by decide +kernel)

end Example

end VpnUi.Xray
