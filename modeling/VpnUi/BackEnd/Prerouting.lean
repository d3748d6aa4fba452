import VpnUi.BackEnd.Generators
import VpnUi.Foundation.FirstMatch

namespace VpnUi.BackEnd

open Foundation Panel Address

/-! What becomes of the packets of the clients in the prerouting chain. -/

/-- A network in the notation of nft, and the length of its prefix. -/
def cidr? (text : String) : Option (BitVec 32 × Nat) := do
  let (before, after) ← cutAt '/' text.toList
  let network ← parseIPv4? before
  let length ← digits? 0 after
  if after ≠ [] ∧ length ≤ 32 then
    some (BitVec.ofNat 32 network.toU32, length)
  else none

def inCidr (address : BitVec 32) (text : String) : Bool :=
  match cidr? text with
  | none => false
  | some (network, length) =>
      address >>> (32 - length) = network >>> (32 - length)

/-- One of the networks has the address. -/
def covers (cidrs : List String) (address : BitVec 32) : Bool :=
  cidrs.any (inCidr address)

/-- An unmarked packet. -/
structure Packet where
  source : BitVec 32
  destination : BitVec 32
  transport : Transport

inductive Fate
  | verdict (verdict : Verdict)
  | tproxy (port : Int)
  deriving DecidableEq

/-- The accounting chains only count. -/
def NftRule.apply (packet : Packet) : NftRule → Option Fate
  | .jump _ => none
  | .between source target verdict =>
      if inCidr packet.source source ∧ inCidr packet.destination target then
        some (.verdict verdict)
      else none
  | .tproxy source transport port =>
      if inCidr packet.source source ∧ packet.transport = transport then
        some (.tproxy port)
      else none

def fate (host : Host) (database : Store.Database) (packet : Packet) :
    Option Fate :=
  (applyNftRules (servedRows host database)).bind
    (firstMatch (NftRule.apply packet))

/-- An enabled VPN inbound of the database. -/
structure VpnInbound (database : Store.Database) where
  row : Inbound
  backend : VpnProtocol
  listed : row ∈ database.inbounds.view
  vpn : row.protocol = .vpn backend
  enabled : row.enable = true

namespace VpnInbound

variable {database : Store.Database}

def served (host : Host) (inbound : VpnInbound database) : Served :=
  serve host inbound.backend inbound.row

/-- The networks of its clients, whose packets are redirected. -/
def subnets (host : Host) (inbound : VpnInbound database) : List String :=
  clientCIDRs (inbound.served host) inbound.backend

/-- A toggle as it is stored. -/
def toggle (key : String) (inbound : VpnInbound database) : Bool :=
  (inbound.row.settings.fields.get key).flag.value

def clientToClient : VpnInbound database → Bool := toggle "clientToClient"

def crossInbound : VpnInbound database → Bool := toggle "crossInbound"

end VpnInbound

/-- No address is a client address of two inbounds. -/
def Apart (host : Host) (database : Store.Database) : Prop :=
  ∀ left right : VpnInbound database, left.row.id ≠ right.row.id →
    ∀ address, covers (left.subnets host) address = true →
      covers (right.subnets host) address = false

/-- The clients reach one another as the toggles of their inbounds say, and all
else through the core. -/
structure Isolated (host : Host) (database : Store.Database)
    (packet : Packet) : Prop where
  crossing : ∀ source target : VpnInbound database,
    source.row.id ≠ target.row.id →
    covers (source.subnets host) packet.source = true →
    covers (target.subnets host) packet.destination = true →
    fate host database packet = some (.verdict (verdictOf
      (source.crossInbound && source.clientToClient &&
        target.crossInbound && target.clientToClient)))
  own : ∀ inbound : VpnInbound database,
    covers (inbound.subnets host) packet.source = true →
    covers (inbound.subnets host) packet.destination = true →
    fate host database packet =
      some (.verdict (verdictOf inbound.clientToClient))
  outward : ∀ inbound : VpnInbound database,
    covers (inbound.subnets host) packet.source = true →
    (∀ other : VpnInbound database,
      covers (other.subnets host) packet.destination = false) →
    fate host database packet = some (.tproxy (getTproxyPort inbound.row.id))

/-- An inbound whose settings do not parse has no client addresses, or is the
only one that has some, its clients being kept apart. -/
def UnparsedAlone (host : Host) (database : Store.Database) : Prop :=
  ∀ inbound : VpnInbound database, (inbound.served host).reading = none →
    ∀ address, covers (inbound.subnets host) address = true →
      inbound.clientToClient = false ∧
        ∀ other : VpnInbound database, other.row.id ≠ inbound.row.id →
          ∀ address, covers (other.subnets host) address = false

section Toggles

variable {host : Host} {backend : VpnProtocol} {row : Inbound}
  {reading : Reading}

theorem settings_toggles {fields : JsonObject} :
    (VpnSettings.decoder backend fields).value.clientToClient =
        (fields.get "clientToClient").flag.value ∧
      (VpnSettings.decoder backend fields).value.crossInbound =
        (fields.get "crossInbound").flag.value := by
  cases backend <;> exact ⟨rfl, rfl⟩

/-- Settings that parse are read with their toggles. -/
theorem toggles_of_reading
    (read : (serve host backend row).reading = some reading) :
    reading.view.clientToClient =
        (row.settings.fields.get "clientToClient").flag.value ∧
      reading.view.crossInbound =
        (row.settings.fields.get "crossInbound").flag.value := by
  have decoded : ∀ fields : JsonObject,
      ((VpnSettings.decoder backend fields).map fun _ =>
        readSettings host backend row.port fields).strict = some reading →
      reading.view.clientToClient = (fields.get "clientToClient").flag.value ∧
        reading.view.crossInbound =
          (fields.get "crossInbound").flag.value := by
    intro fields strict
    unfold Decoded.strict at strict
    split at strict
    · cases strict
      exact settings_toggles
    · cases strict
  change row.settings.decode _ = some reading at read
  cases stored : row.settings with
  | empty => rw [stored] at read; cases read
  | malformed => rw [stored] at read; cases read
  | parsed json =>
      rw [stored] at read
      cases json with
      | obj fields => exact decoded fields read
      | null => exact decoded [] read
      | _ => cases read

end Toggles

section Rules

variable {packet : Packet} {sources targets : List String} {verdict : Verdict}
  {rule : NftRule} {nets : List VpnNet} {backend : VpnProtocol} {row : Served}
  {port : Int}

theorem covers_eq_true {cidrs : List String} {address : BitVec 32} :
    covers cidrs address = true ↔ ∃ cidr ∈ cidrs, inCidr address cidr = true :=
  List.any_eq_true

theorem mem_pairRules :
    rule ∈ pairRules sources targets verdict ↔
      ∃ source ∈ sources, ∃ target ∈ targets,
        .between source target verdict = rule := by
  simp only [pairRules, List.mem_flatMap, List.mem_map]

theorem apply_between {source target : String} {result : Fate}
    (applies : (NftRule.between source target verdict).apply packet =
      some result) :
    inCidr packet.source source = true ∧
      inCidr packet.destination target = true ∧ result = .verdict verdict := by
  rw [NftRule.apply] at applies
  split at applies
  next both =>
    cases applies
    exact ⟨both.1, both.2, rfl⟩
  next => cases applies

theorem apply_pairRules {result : Fate}
    (listed : rule ∈ pairRules sources targets verdict)
    (applies : rule.apply packet = some result) :
    covers sources packet.source = true ∧
      covers targets packet.destination = true ∧
      result = .verdict verdict := by
  obtain ⟨source, sourceMember, target, targetMember, rfl⟩ :=
    mem_pairRules.mp listed
  obtain ⟨fromSource, toTarget, same⟩ := apply_between applies
  exact ⟨covers_eq_true.mpr ⟨source, sourceMember, fromSource⟩,
    covers_eq_true.mpr ⟨target, targetMember, toTarget⟩, same⟩

/-- Between networks that have both addresses there is a rule. -/
theorem exists_pairRule (fromSources : covers sources packet.source = true)
    (toTargets : covers targets packet.destination = true) :
    ∃ rule ∈ pairRules sources targets verdict,
      rule.apply packet = some (.verdict verdict) := by
  obtain ⟨source, sourceMember, fromSource⟩ := covers_eq_true.mp fromSources
  obtain ⟨target, targetMember, toTarget⟩ := covers_eq_true.mp toTargets
  refine ⟨.between source target verdict,
    mem_pairRules.mpr ⟨source, sourceMember, target, targetMember, rfl⟩, ?_⟩
  rw [NftRule.apply, if_pos ⟨fromSource, toTarget⟩]

theorem firstMatch_pairRules :
    firstMatch (NftRule.apply packet) (pairRules sources targets verdict) =
      if covers sources packet.source ∧ covers targets packet.destination then
        some (.verdict verdict)
      else none := by
  split
  next both =>
    obtain ⟨rule, listed, applies⟩ := exists_pairRule both.1 both.2
    exact firstMatch_eq_some listed applies fun _ member _ result =>
      (apply_pairRules member result).2.2
  next neither =>
    apply firstMatch_eq_none.mpr
    intro rule listed
    cases applies : rule.apply packet with
    | none => rfl
    | some result =>
        have both := apply_pairRules listed applies
        exact absurd ⟨both.1, both.2.1⟩ neither

/-- The verdict between two inbounds. -/
def crossVerdict (net other : VpnNet) : Verdict :=
  verdictOf (net.cross && net.c2c && other.cross && other.c2c)

theorem mem_crossRules :
    rule ∈ writeCrossInboundRules nets ↔
      ∃ (index otherIndex : Nat) (net other : VpnNet), index ≠ otherIndex ∧
        nets[index]? = some net ∧ nets[otherIndex]? = some other ∧
        rule ∈ pairRules net.subnets other.subnets
          (crossVerdict net other) := by
  simp only [writeCrossInboundRules, List.mem_flatMap, Prod.exists,
    List.mk_mem_zipIdx_iff_getElem?]
  constructor
  · intro listed
    obtain ⟨net, index, first, other, otherIndex, second, member⟩ := listed
    split at member
    · cases member
    next differ =>
      exact ⟨index, otherIndex, net, other, differ, first, second, member⟩
  · intro listed
    obtain ⟨index, otherIndex, net, other, differ, first, second, member⟩ :=
      listed
    refine ⟨net, index, first, other, otherIndex, second, ?_⟩
    rw [if_neg differ]
    exact member

/-- Some rule redirects the packets of these sources, whatever the transport. -/
theorem firstMatch_redirect :
    firstMatch (NftRule.apply packet) (sources.flatMap fun source =>
        [.tproxy source .tcp port, .tproxy source .udp port]) =
      if covers sources packet.source then some (.tproxy port) else none := by
  have single : ∀ source, firstMatch (NftRule.apply packet)
      [.tproxy source .tcp port, .tproxy source .udp port] =
        if inCidr packet.source source then some (.tproxy port) else none := by
    intro source
    cases inside : inCidr packet.source source <;>
      cases carried : packet.transport <;>
      simp [firstMatch, NftRule.apply, inside, carried]
  rw [firstMatch_flatMap]
  simp only [single]
  split
  next covered =>
    obtain ⟨source, listed, inside⟩ := covers_eq_true.mp covered
    refine firstMatch_eq_some listed (if_pos inside) ?_
    intro other _ result applies
    split at applies
    · exact (Option.some.inj applies).symm
    · cases applies
  next uncovered =>
    apply firstMatch_eq_none.mpr
    intro source listed
    apply if_neg
    intro inside
    exact uncovered (covers_eq_true.mpr ⟨source, listed, inside⟩)

/-- What the rules of one inbound do with a packet. -/
theorem firstMatch_tproxyRules :
    firstMatch (NftRule.apply packet) (tproxyRules backend row) =
      if row.enable = true ∧
          covers (clientCIDRs row backend) packet.source = true then
        some (if covers (clientCIDRs row backend) packet.destination then
            .verdict (verdictOf (row.reading.elim false (·.view.clientToClient)))
          else .tproxy (getTproxyPort row.id))
      else none := by
  unfold tproxyRules
  cases enabled : row.enable with
  | false => simp [firstMatch]
  | true =>
      simp only [if_true, true_and]
      rw [firstMatch_append, writeClientToClientRules, firstMatch_pairRules,
        firstMatch_redirect]
      cases covers (clientCIDRs row backend) packet.source <;>
        cases covers (clientCIDRs row backend) packet.destination <;> rfl

end Rules

/-! The rules of the inbounds of a database. -/

/-- What an enabled row that parses adds to the networks, with its id. -/
def netEntry (backend : VpnProtocol) (row : Served) : Option (Int × VpnNet) :=
  match row.enable, row.reading with
  | true, some reading => some (row.id, {
      subnets := clientCIDRs row backend
      c2c := reading.view.clientToClient
      cross := reading.view.crossInbound })
  | _, _ => none

def crossOrder : List VpnProtocol :=
  [.l2tp, .pptp, .openvpn, .openconnect, .sstp]

def netEntries (served : ServedRows) : List (Int × VpnNet) :=
  crossOrder.flatMap fun backend => (served backend).filterMap (netEntry backend)

def redirectRules (served : ServedRows) : List NftRule :=
  [.l2tp, .pptp, .sstp, .openvpn, .openconnect].flatMap fun backend =>
    (served backend).flatMap (tproxyRules backend)

section Inbounds

variable {host : Host} {database : Store.Database} {packet : Packet}
  {backend : VpnProtocol} {row : Inbound}

theorem vpnNets_eq {rows : List Served} :
    vpnNets backend rows = (rows.filterMap (netEntry backend)).map Prod.snd := by
  rw [vpnNets, List.map_filterMap]
  congr 1
  funext row
  unfold netEntry
  cases row.enable <;> cases row.reading <;> rfl

theorem applyNftRules_eq {served : ServedRows}
    (present : ∃ backend, served backend ≠ []) :
    applyNftRules served = some (crossOrder.map .jump ++
      writeCrossInboundRules ((netEntries served).map Prod.snd) ++
      redirectRules served) := by
  obtain ⟨backend, rows⟩ := present
  have nets : (netEntries served).map Prod.snd =
      crossOrder.flatMap fun backend => vpnNets backend (served backend) := by
    rw [netEntries, List.map_flatMap]
    simp only [vpnNets_eq]
  rw [nets]
  apply if_neg
  intro absent
  have empty := List.all_eq_true.mp absent backend (by cases backend <;> decide)
  exact rows (of_decide_eq_true empty)

theorem mem_servedRows {served : Served} :
    served ∈ servedRows host database backend ↔
      ∃ row ∈ database.inbounds.view, row.protocol = .vpn backend ∧
        serve host backend row = served := by
  simp only [servedRows, List.mem_map, Inbounds.mem_ofProtocol, and_assoc]

theorem VpnInbound.served_mem (inbound : VpnInbound database) :
    inbound.served host ∈ servedRows host database inbound.backend :=
  mem_servedRows.mpr ⟨inbound.row, inbound.listed, inbound.vpn, rfl⟩

theorem netEntry_isSome {served : Served} {entry : Int × VpnNet}
    (made : netEntry backend served = some entry) :
    served.enable = true ∧ served.reading ≠ none := by
  unfold netEntry at made
  split at made
  next reading enabled read =>
    exact ⟨enabled, by rw [read]; exact Option.some_ne_none _⟩
  next => cases made

/-- What an inbound that parses adds. -/
def VpnInbound.net (host : Host) (inbound : VpnInbound database) : VpnNet where
  subnets := inbound.subnets host
  c2c := inbound.clientToClient
  cross := inbound.crossInbound

theorem VpnInbound.netEntry_eq {inbound : VpnInbound database}
    (parses : (inbound.served host).reading ≠ none) :
    netEntry inbound.backend (inbound.served host) =
      some (inbound.row.id, inbound.net host) := by
  obtain ⟨reading, read⟩ := Option.ne_none_iff_exists'.mp parses
  have toggles := toggles_of_reading read
  have enabled : (inbound.served host).enable = true := inbound.enabled
  unfold netEntry
  rw [enabled, read]
  simp only [toggles.1, toggles.2]
  rfl

theorem mem_netEntries {entry : Int × VpnNet} :
    entry ∈ netEntries (servedRows host database) ↔
      ∃ inbound : VpnInbound database,
        (inbound.served host).reading ≠ none ∧
          entry = (inbound.row.id, inbound.net host) := by
  simp only [netEntries, List.mem_flatMap, List.mem_filterMap]
  constructor
  · intro listed
    obtain ⟨backend, -, served, member, made⟩ := listed
    obtain ⟨row, listed, vpn, rfl⟩ := mem_servedRows.mp member
    obtain ⟨enabled, parses⟩ := netEntry_isSome made
    have same := @VpnInbound.netEntry_eq host database
      ⟨row, backend, listed, vpn, enabled⟩ parses
    exact ⟨⟨row, backend, listed, vpn, enabled⟩, parses,
      Option.some.inj (made.symm.trans same)⟩
  · intro listed
    obtain ⟨inbound, parses, rfl⟩ := listed
    refine ⟨inbound.backend, ?_, inbound.served host, inbound.served_mem,
      VpnInbound.netEntry_eq parses⟩
    cases inbound.backend <;> decide

theorem VpnInbound.eq_of_id {left right : VpnInbound database}
    (same : left.row.id = right.row.id) : left = right := by
  obtain ⟨row, backend, listed, vpn, enabled⟩ := left
  obtain ⟨other, otherBackend, otherListed, otherVpn, otherEnabled⟩ := right
  obtain rfl : row = other := Table.eq_of_key_eq listed otherListed same
  obtain rfl : backend = otherBackend :=
    Protocol.vpn.inj (vpn.symm.trans otherVpn)
  rfl

theorem id_of_netEntry {served : Served} {entry : Int × VpnNet}
    (made : netEntry backend served = some entry) : entry.1 = served.id := by
  unfold netEntry at made
  split at made
  · cases made
    rfl
  · cases made

theorem sublist_netEntry {rows : List Served} :
    ((rows.filterMap (netEntry backend)).map Prod.fst).Sublist
      (rows.map Served.id) := by
  induction rows with
  | nil => exact List.Sublist.refl _
  | cons row rest induction =>
      rw [List.filterMap_cons]
      cases made : netEntry backend row with
      | none => exact induction.cons _
      | some entry =>
          rw [List.map_cons, List.map_cons, id_of_netEntry made]
          exact induction.cons_cons _

theorem nodup_servedIds :
    ((servedRows host database backend).map Served.id).Nodup := by
  rw [servedRows, List.map_map]
  exact Table.nodup_keys

/-- Every inbound is among the networks once. -/
theorem nodup_netEntries :
    ((netEntries (servedRows host database)).map Prod.fst).Nodup := by
  rw [netEntries, List.map_flatMap, List.nodup_flatMap]
  constructor
  · intro backend _
    exact nodup_servedIds.sublist sublist_netEntry
  · have differ : crossOrder.Pairwise (· ≠ ·) := by decide
    apply differ.imp
    intro left right differ id leftMember rightMember
    obtain ⟨entry, leftListed, rfl⟩ := List.mem_map.mp leftMember
    obtain ⟨other, rightListed, same⟩ := List.mem_map.mp rightMember
    obtain ⟨leftServed, leftRows, leftMade⟩ := List.mem_filterMap.mp leftListed
    obtain ⟨rightServed, rightRows, rightMade⟩ :=
      List.mem_filterMap.mp rightListed
    rw [id_of_netEntry leftMade, id_of_netEntry rightMade] at same
    obtain ⟨row, listed, vpn, rfl⟩ := mem_servedRows.mp leftRows
    obtain ⟨otherRow, otherListed, otherVpn, rfl⟩ := mem_servedRows.mp rightRows
    obtain rfl : otherRow = row := Table.eq_of_key_eq otherListed listed same
    exact differ (Protocol.vpn.inj (vpn.symm.trans otherVpn))

theorem Apart.eq_of_covers (apart : Apart host database)
    {left right : VpnInbound database} {address : BitVec 32}
    (leftCovers : covers (left.subnets host) address = true)
    (rightCovers : covers (right.subnets host) address = true) :
    left = right := by
  by_contra differ
  have uncovered := apart left right (fun same =>
    differ (VpnInbound.eq_of_id same)) address leftCovers
  rw [rightCovers] at uncovered
  cases uncovered

/-- What the rules of the inbound itself do with a packet of its clients. -/
def ownFate (host : Host) (inbound : VpnInbound database) (packet : Packet) :
    Fate :=
  if covers (inbound.subnets host) packet.destination then
    .verdict (verdictOf
      ((inbound.served host).reading.elim false (·.view.clientToClient)))
  else .tproxy (getTproxyPort inbound.row.id)

theorem firstMatch_redirectRules (apart : Apart host database)
    {inbound : VpnInbound database}
    (covered : covers (inbound.subnets host) packet.source = true) :
    firstMatch (NftRule.apply packet)
        (redirectRules (servedRows host database)) =
      some (ownFate host inbound packet) := by
  have own : ∀ backend, ∀ served ∈ servedRows host database backend,
      ∀ result, firstMatch (NftRule.apply packet)
        (tproxyRules backend served) = some result →
      result = ownFate host inbound packet := by
    intro backend served listed result applies
    rw [firstMatch_tproxyRules] at applies
    split at applies
    next enabled =>
      obtain ⟨row, member, vpn, rfl⟩ := mem_servedRows.mp listed
      have same : (⟨row, backend, member, vpn, enabled.1⟩ :
          VpnInbound database) = inbound :=
        apart.eq_of_covers enabled.2 covered
      subst same
      exact (Option.some.inj applies).symm
    next => cases applies
  rw [redirectRules, firstMatch_flatMap]
  have found : firstMatch (fun served => firstMatch (NftRule.apply packet)
      (tproxyRules inbound.backend served))
      (servedRows host database inbound.backend) =
        some (ownFate host inbound packet) := by
    refine firstMatch_eq_some inbound.served_mem ?_
      (own inbound.backend)
    rw [firstMatch_tproxyRules]
    exact if_pos ⟨inbound.enabled, covered⟩
  have ordered : inbound.backend ∈
      [VpnProtocol.l2tp, .pptp, .sstp, .openvpn, .openconnect] := by
    cases inbound.backend <;> decide
  refine firstMatch_eq_some ordered ?_ ?_
  · rw [firstMatch_flatMap]
    exact found
  · intro backend _ result applies
    rw [firstMatch_flatMap] at applies
    obtain ⟨served, listed, same⟩ :=
      List.exists_of_findSome?_eq_some applies
    exact own backend served listed result same

theorem net_at {index : Nat} {net : VpnNet}
    (found : ((netEntries (servedRows host database)).map
      Prod.snd)[index]? = some net) :
    ∃ inbound : VpnInbound database,
      (inbound.served host).reading ≠ none ∧ net = inbound.net host ∧
        ((netEntries (servedRows host database)).map Prod.fst)[index]? =
          some inbound.row.id := by
  rw [List.getElem?_map] at found ⊢
  obtain ⟨entry, listed, rfl⟩ := Option.map_eq_some_iff.mp found
  obtain ⟨inbound, parses, rfl⟩ :=
    mem_netEntries.mp (List.mem_of_getElem? listed)
  exact ⟨inbound, parses, rfl, by rw [listed]; rfl⟩

theorem exists_net_at {inbound : VpnInbound database}
    (parses : (inbound.served host).reading ≠ none) :
    ∃ index : Nat, ((netEntries (servedRows host database)).map
        Prod.snd)[index]? = some (inbound.net host) ∧
      ((netEntries (servedRows host database)).map Prod.fst)[index]? =
        some inbound.row.id := by
  obtain ⟨index, found⟩ := List.getElem?_of_mem
    (mem_netEntries.mpr ⟨inbound, parses, rfl⟩)
  refine ⟨index, ?_, ?_⟩ <;> rw [List.getElem?_map, found] <;> rfl

/-- A rule between two inbounds that applies is one between different ones that
parse. -/
theorem inbounds_of_crossRule {rule : NftRule} {result : Fate}
    (listed : rule ∈ writeCrossInboundRules
      ((netEntries (servedRows host database)).map Prod.snd))
    (applies : rule.apply packet = some result) :
    ∃ source target : VpnInbound database, source.row.id ≠ target.row.id ∧
      (source.served host).reading ≠ none ∧
      (target.served host).reading ≠ none ∧
      covers (source.subnets host) packet.source = true ∧
      covers (target.subnets host) packet.destination = true ∧
      result = .verdict (crossVerdict (source.net host) (target.net host)) := by
  obtain ⟨index, otherIndex, net, other, differ, first, second, member⟩ :=
    mem_crossRules.mp listed
  obtain ⟨source, sourceParses, rfl, sourceId⟩ := net_at first
  obtain ⟨target, targetParses, rfl, targetId⟩ := net_at second
  obtain ⟨fromSource, toTarget, same⟩ := apply_pairRules member applies
  refine ⟨source, target, ?_, sourceParses, targetParses, fromSource, toTarget,
    same⟩
  intro sameId
  rw [← sameId, ← sourceId] at targetId
  obtain ⟨bounded, -⟩ := List.getElem?_eq_some_iff.mp sourceId
  exact differ ((List.getElem?_inj bounded nodup_netEntries).mp targetId.symm)

theorem firstMatch_crossRules (apart : Apart host database)
    {source target : VpnInbound database}
    (differ : source.row.id ≠ target.row.id)
    (sourceParses : (source.served host).reading ≠ none)
    (targetParses : (target.served host).reading ≠ none)
    (fromSource : covers (source.subnets host) packet.source = true)
    (toTarget : covers (target.subnets host) packet.destination = true) :
    firstMatch (NftRule.apply packet) (writeCrossInboundRules
        ((netEntries (servedRows host database)).map Prod.snd)) =
      some (.verdict (crossVerdict (source.net host) (target.net host))) := by
  obtain ⟨index, first, sourceId⟩ := exists_net_at sourceParses
  obtain ⟨otherIndex, second, targetId⟩ := exists_net_at targetParses
  have other : index ≠ otherIndex := by
    rintro rfl
    exact differ (Option.some.inj (sourceId.symm.trans targetId))
  obtain ⟨rule, listed, applies⟩ := @exists_pairRule packet _ _
    (crossVerdict (source.net host) (target.net host)) fromSource toTarget
  refine firstMatch_eq_some (mem_crossRules.mpr
    ⟨index, otherIndex, _, _, other, first, second, listed⟩) applies ?_
  intro rule listed result applies
  obtain ⟨from', to', -, -, -, fromCovers, toCovers, same⟩ :=
    inbounds_of_crossRule listed applies
  rw [same, apart.eq_of_covers fromCovers fromSource,
    apart.eq_of_covers toCovers toTarget]

theorem fate_eq (inbound : VpnInbound database) :
    fate host database packet =
      (firstMatch (NftRule.apply packet) (writeCrossInboundRules
        ((netEntries (servedRows host database)).map Prod.snd))).or
      (firstMatch (NftRule.apply packet)
        (redirectRules (servedRows host database))) := by
  rw [fate, applyNftRules_eq ⟨inbound.backend,
    List.ne_nil_of_mem inbound.served_mem⟩]
  change firstMatch _ (_ ++ _ ++ _) = _
  rw [firstMatch_append, firstMatch_append]
  rfl

/-- No rule between two inbounds applies: the inbound alone decides. -/
theorem fate_eq_ownFate (apart : Apart host database)
    {inbound : VpnInbound database}
    (covered : covers (inbound.subnets host) packet.source = true)
    (uncrossed : ∀ target : VpnInbound database,
      (inbound.served host).reading ≠ none →
      (target.served host).reading ≠ none →
      covers (target.subnets host) packet.destination = true →
      target.row.id = inbound.row.id) :
    fate host database packet = some (ownFate host inbound packet) := by
  have none : firstMatch (NftRule.apply packet) (writeCrossInboundRules
      ((netEntries (servedRows host database)).map Prod.snd)) = none := by
    apply firstMatch_eq_none.mpr
    intro rule listed
    cases applies : rule.apply packet with
    | none => rfl
    | some result =>
        obtain ⟨source, target, differ, sourceParses, targetParses, fromCovers,
          toCovers, -⟩ := inbounds_of_crossRule listed applies
        obtain rfl := apart.eq_of_covers fromCovers covered
        exact absurd (uncrossed target sourceParses targetParses toCovers)
          (Ne.symm differ)
  rw [fate_eq inbound, none, firstMatch_redirectRules apart covered]
  rfl

end Inbounds

section Isolation

variable {host : Host} {database : Store.Database}

/-- The toggle counts where the settings parse, or is off. -/
theorem VpnInbound.clientToClient_eq {inbound : VpnInbound database}
    (known : (inbound.served host).reading = none →
      inbound.clientToClient = false) :
    (inbound.served host).reading.elim false (·.view.clientToClient) =
      inbound.clientToClient := by
  cases read : (inbound.served host).reading with
  | none => exact (known read).symm
  | some reading => exact (toggles_of_reading read).1

/-- A packet from a client of an inbound that does not parse to one of another
goes through the core. -/
theorem unparsedAlone_of_isolated (apart : Apart host database)
    (isolated : ∀ packet, Isolated host database packet) :
    UnparsedAlone host database := by
  intro inbound unread address covered
  have decided : ∀ packet : Packet, packet.source = address →
      fate host database packet = some (ownFate host inbound packet) := by
    intro packet same
    subst same
    exact fate_eq_ownFate apart covered fun _ parses => absurd unread parses
  constructor
  · have own := (isolated ⟨address, address, .tcp⟩).own inbound covered covered
    rw [decided _ rfl, ownFate, if_pos covered, unread] at own
    cases toggled : inbound.clientToClient with
    | false => rfl
    | true => rw [toggled] at own; cases own
  · intro other differ otherAddress
    by_contra reached
    have reached : covers (other.subnets host) otherAddress = true :=
      Bool.eq_true_of_not_eq_false reached
    have crossed := (isolated ⟨address, otherAddress, .tcp⟩).crossing inbound
      other (Ne.symm differ) covered reached
    have outside := apart other inbound differ otherAddress reached
    rw [decided _ rfl, ownFate] at crossed
    dsimp only at crossed
    rw [outside] at crossed
    cases crossed

theorem isolated_of_unparsedAlone (apart : Apart host database)
    (alone : UnparsedAlone host database) (packet : Packet) :
    Isolated host database packet where
  crossing := by
    intro source target differ fromSource toTarget
    have sourceParses : (source.served host).reading ≠ none := by
      intro unread
      have missed := (alone source unread _ fromSource).2 target
        (Ne.symm differ) packet.destination
      rw [toTarget] at missed
      cases missed
    have targetParses : (target.served host).reading ≠ none := by
      intro unread
      have missed := (alone target unread _ toTarget).2 source differ
        packet.source
      rw [fromSource] at missed
      cases missed
    rw [fate_eq source, firstMatch_crossRules apart differ sourceParses
      targetParses fromSource toTarget]
    rfl
  own := by
    intro inbound covered within
    have uncrossed : ∀ target : VpnInbound database,
        (inbound.served host).reading ≠ none →
        (target.served host).reading ≠ none →
        covers (target.subnets host) packet.destination = true →
        target.row.id = inbound.row.id := by
      intro target _ _ toTarget
      rw [apart.eq_of_covers toTarget within]
    rw [fate_eq_ownFate apart covered uncrossed, ownFate, if_pos within,
      VpnInbound.clientToClient_eq fun unread =>
        (alone inbound unread _ covered).1]
  outward := by
    intro inbound covered outside
    have uncrossed : ∀ target : VpnInbound database,
        (inbound.served host).reading ≠ none →
        (target.served host).reading ≠ none →
        covers (target.subnets host) packet.destination = true →
        target.row.id = inbound.row.id := by
      intro target _ _ toTarget
      rw [outside target] at toTarget
      cases toTarget
    rw [fate_eq_ownFate apart covered uncrossed, ownFate, outside inbound]
    rfl

end Isolation

section Tenants

def bareHost : Host where
  ciphers := []
  bundledIpsec := false
  fileExists _ := false

def tenantRow (id port : Int) (backend : VpnProtocol)
    (fields : JsonObject) : Store.StoredInbound where
  id := id
  listen := ""
  port := port
  protocol := .vpn backend
  settings := .parsed (.obj fields)
  enable := true
  tag := ""
  up := 0
  down := 0
  allTime := 0
  total := 0
  expiryTime := 0

def l2tpTenant (mtu : Json) : Store.StoredInbound :=
  tenantRow 1 1701 .l2tp [("mtu", mtu), ("clientToClient", .bool true)]

def pptpTenant : Store.StoredInbound :=
  tenantRow 2 1723 .pptp [("mtu", .int 1400)]

/-- An L2TP inbound with the networks of its id and a PPTP one. -/
def tenantsDatabase (mtu : Json) : Store.Database where
  inbounds := (Table.empty.save (l2tpTenant mtu)).save pptpTenant
  traffics := Table.empty
  ips := Table.empty

variable {mtu : Json} {host : Host}

theorem tenant_cases (inbound : VpnInbound (tenantsDatabase mtu)) :
    (inbound.row = (l2tpTenant mtu).toInbound ∧ inbound.backend = .l2tp) ∨
      inbound.row = pptpTenant.toInbound ∧ inbound.backend = .pptp := by
  obtain ⟨row, backend, listed, vpn, enabled⟩ := inbound
  obtain ⟨stored, member, rfl⟩ := List.mem_map.mp listed
  rcases Table.mem_save.mp member with rfl | ⟨older, -⟩
  · exact .inr ⟨rfl, (Protocol.vpn.inj vpn).symm⟩
  · rcases Table.mem_save.mp older with rfl | ⟨none, -⟩
    · exact .inl ⟨rfl, (Protocol.vpn.inj vpn).symm⟩
    · exact absurd none Table.not_mem_empty

theorem tenant_subnets (known : mtu = .int 1400 ∨ mtu = .str "1400")
    (inbound : VpnInbound (tenantsDatabase mtu)) :
    (inbound.row.id = 1 ∧ inbound.subnets bareHost = ["10.0.1.0/24"]) ∨
      inbound.row.id = 2 ∧ inbound.subnets bareHost = ["10.1.2.0/24"] := by
  rcases tenant_cases inbound with ⟨row, backend⟩ | ⟨row, backend⟩ <;>
    rw [VpnInbound.subnets, VpnInbound.served, row, backend]
  · refine .inl ⟨rfl, ?_⟩
    rcases known with rfl | rfl <;> decide +kernel
  · exact .inr ⟨rfl, by decide +kernel⟩

theorem covers_singleton {cidr : String} {address : BitVec 32} :
    covers [cidr] address = inCidr address cidr := by
  simp [covers]

theorem not_inCidr {left right : String} {network other : BitVec 32}
    {length : Nat} {address : BitVec 32} (read : cidr? left = some (network, length))
    (otherRead : cidr? right = some (other, length))
    (differ : network >>> (32 - length) ≠ other >>> (32 - length))
    (within : inCidr address left = true) : inCidr address right = false := by
  rw [inCidr, read] at within
  rw [inCidr, otherRead]
  apply decide_eq_false
  intro same
  exact differ ((of_decide_eq_true within).symm.trans same)

theorem tenants_apart (known : mtu = .int 1400 ∨ mtu = .str "1400") :
    Apart bareHost (tenantsDatabase mtu) := by
  have l2tp : cidr? "10.0.1.0/24" = some (BitVec.ofNat 32 0x0A000100, 24) := by
    decide +kernel
  have pptp : cidr? "10.1.2.0/24" = some (BitVec.ofNat 32 0x0A010200, 24) := by
    decide +kernel
  intro left right differ address within
  rcases tenant_subnets known left with ⟨leftId, leftNets⟩ | ⟨leftId, leftNets⟩ <;>
    rcases tenant_subnets known right with
      ⟨rightId, rightNets⟩ | ⟨rightId, rightNets⟩ <;>
    rw [leftNets, covers_singleton] at within <;>
    rw [rightNets, covers_singleton]
  · exact absurd (leftId.trans rightId.symm) differ
  · exact not_inCidr l2tp pptp (by decide) within
  · exact not_inCidr pptp l2tp (by decide) within
  · exact absurd (leftId.trans rightId.symm) differ

/-- From 10.0.1.2 to 10.1.2.2. -/
def crossingPacket : Packet where
  source := 0x0A000102
  destination := 0x0A010202
  transport := .tcp

end Tenants

end VpnUi.BackEnd
