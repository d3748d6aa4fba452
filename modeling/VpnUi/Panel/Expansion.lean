import VpnUi.Address.BlockAllocation
import VpnUi.Panel.Separation

namespace VpnUi.Panel

open Foundation Address

/-! Whether the automatic expansion leaves the block of an OpenVPN or
OpenConnect inbound where it is. -/

/-- The table when the expansion comes to the inbound of an id: those before it
have been normalised. -/
def turnOf (inbounds : Inbounds) (backend : VpnProtocol) (id : Int) :
    Inbounds :=
  ((inbounds.ofProtocol (.vpn backend)).filter (·.id < id)).foldl
    autoExpandInbound inbounds

/-- The block is the one the allocator comes to: it has the size in need, and
it is the block of the inbound's own id, or that one is taken and so is every
block before it. -/
structure Stays (id : Int) (clientCount userLimit base : Nat)
    (mirrorBase : Option Nat) (used : List Subnet) (block : AlignedBlock) :
    Prop where
  size : 2 ^ block.exponent = blockCount clientCount userLimit
  place :
    let own := id.tdiv (2 ^ block.exponent : Nat) * (2 ^ block.exponent : Nat)
    own = block.start ∨
      ¬ (0 ≤ own ∧ blockFree (2 ^ block.exponent) base mirrorBase used
        own.toNat = true) ∧
      ∀ earlier < block.start, 2 ^ block.exponent ∣ earlier →
        blockFree (2 ^ block.exponent) base mirrorBase used earlier = false

section Allocate

variable {id : Int} {clientCount userLimit base num24 start : Nat}
  {mirrorBase : Option Nat} {used : List Subnet}

/-- The search finds a free block that no free one comes before. -/
theorem find?_blockFree_eq_some (positive : 0 < num24)
    (aligned : num24 ∣ start)
    (free : blockFree num24 base mirrorBase used start = true) :
    ((List.range (255 / num24)).map (· * num24)).find?
        (blockFree num24 base mirrorBase used) = some start ↔
      ∀ earlier < start, num24 ∣ earlier →
        blockFree num24 base mirrorBase used earlier = false := by
  obtain ⟨index, rfl⟩ := aligned
  have within : index < 255 / num24 := by
    have bound := (blockFree_eq_true.mp free).1
    rw [Nat.lt_iff_add_one_le, Nat.le_div_iff_mul_le positive, Nat.succ_mul,
      Nat.mul_comm]
    omega
  rw [List.find?_eq_some_iff_getElem]
  simp only [List.length_map, List.length_range, List.getElem_map,
    List.getElem_range, Bool.not_eq_true']
  constructor
  · rintro ⟨-, position, -, same, before⟩ earlier below ⟨other, rfl⟩
    rw [Nat.mul_comm num24 other]
    apply before
    have swapped : num24 * other < position * num24 := same ▸ below
    rw [Nat.mul_comm position] at swapped
    exact Nat.lt_of_mul_lt_mul_left swapped
  · intro busy
    refine ⟨free, index, within, Nat.mul_comm _ _, ?_⟩
    intro other below
    apply busy
    · rw [Nat.mul_comm]
      exact Nat.mul_lt_mul_of_pos_left below positive
    · exact Nat.dvd_mul_left _ _

theorem allocateAlignedBlock_eq_some_iff (positive : 0 < num24)
    (aligned : num24 ∣ start)
    (free : blockFree num24 base mirrorBase used start = true) :
    allocateAlignedBlock id num24 base mirrorBase used = some start ↔
      id.tdiv num24 * num24 = start ∨
        ¬ (0 ≤ id.tdiv num24 * num24 ∧
          blockFree num24 base mirrorBase used
            (id.tdiv num24 * num24).toNat = true) ∧
        ∀ earlier < start, num24 ∣ earlier →
          blockFree num24 base mirrorBase used earlier = false := by
  unfold allocateAlignedBlock
  simp only
  split
  next own =>
    rw [Option.some.injEq]
    constructor
    · rintro rfl
      exact .inl (Int.toNat_of_nonneg own.1).symm
    · rintro (same | ⟨taken, -⟩)
      · rw [same, Int.toNat_natCast]
      · exact absurd own taken
  next taken =>
    rw [find?_blockFree_eq_some positive aligned free]
    constructor
    · exact fun busy => .inr ⟨taken, busy⟩
    · rintro (same | ⟨-, busy⟩)
      · refine absurd ⟨?_, ?_⟩ taken
        · rw [same]
          exact Int.natCast_nonneg start
        · rw [same, Int.toNat_natCast]
          exact free
      · exact busy

/-- The ranges of two runs of third octets are the same only if the runs
are. -/
theorem ranges_inj {block : AlignedBlock} (bounded : base < 256)
    (fits : start + num24 ≤ 256)
    (same : ((List.range' start num24).map fun third =>
      ovpnRangeForSubnet ⟨10, base, third⟩) = block.ranges base) :
    num24 = 2 ^ block.exponent ∧ start = block.start := by
  have valid : ∀ subnet ∈ (List.range' start num24).map fun third =>
      (⟨10, base, third⟩ : Subnet), subnet.Valid := by
    intro subnet member
    obtain ⟨third, inside, rfl⟩ := List.mem_map.mp member
    rw [List.mem_range'_1] at inside
    exact ⟨show 10 < 256 by decide, bounded, show third < 256 by omega⟩
  have subnets : ((List.range' start num24).map fun third =>
      (⟨10, base, third⟩ : Subnet)) = block.subnets base := by
    rw [← rangeSubnets_defaults valid,
      ← rangeSubnets_defaults fun _ => block.valid_of_mem bounded, List.map_map]
    exact congrArg (List.filterMap rangeSubnet) same
  have thirds := congrArg (List.map Subnet.third) subnets
  rw [AlignedBlock.subnets, List.map_map, List.map_map, AlignedBlock.thirds]
    at thirds
  have runs : List.range' start num24 =
      List.range' block.start (2 ^ block.exponent) := by
    have plain : (Subnet.third ∘ fun third => (⟨10, base, third⟩ : Subnet)) =
        id := rfl
    rwa [plain, List.map_id, List.map_id] at thirds
  have length := congrArg List.length runs
  rw [List.length_range', List.length_range'] at length
  refine ⟨length, ?_⟩
  have positive : 0 < 2 ^ block.exponent := Nat.two_pow_pos _
  rw [length] at runs
  have heads := congrArg List.head? runs
  rwa [List.head?_range', List.head?_range', if_neg positive.ne',
    if_neg positive.ne', Option.some.injEq] at heads

/-- When the normaliser comes to the ranges of a free block. -/
theorem normalizeBlockRanges_eq_ranges_iff {block : AlignedBlock}
    (bounded : base < 256)
    (free : blockFree (2 ^ block.exponent) base mirrorBase used block.start =
      true) :
    normalizeBlockRanges id clientCount userLimit base mirrorBase used =
        .ok (block.ranges base) ↔
      Stays id clientCount userLimit base mirrorBase used block := by
  have positive : 0 < 2 ^ block.exponent := Nat.two_pow_pos _
  have found := @allocateAlignedBlock_eq_some_iff id base
    (2 ^ block.exponent) block.start mirrorBase used positive block.aligned free
  constructor
  · intro accepted
    have size : blockCount clientCount userLimit = 2 ^ block.exponent := by
      rw [← length_normalizeBlockRanges accepted, AlignedBlock.ranges,
        List.length_map, AlignedBlock.length_subnets]
    unfold normalizeBlockRanges at accepted
    simp only at accepted
    split at accepted
    · cases accepted
    next start allocated =>
      have fits := (blockFree_eq_true.mp
        (allocateAlignedBlock_eq_some allocated).2).1
      obtain ⟨sameSize, rfl⟩ := ranges_inj bounded (by omega)
        (Except.ok.inj accepted)
      rw [sameSize] at allocated
      exact ⟨size.symm, found.mp allocated⟩
  · rintro ⟨size, place⟩
    have allocated := found.mpr place
    rw [size] at allocated
    unfold normalizeBlockRanges
    simp only
    rw [blockCount] at allocated size
    rw [allocated]
    simp only [Except.ok.injEq, AlignedBlock.ranges, AlignedBlock.subnets,
      AlignedBlock.thirds, List.map_map, size]
    rfl

end Allocate

section Turns

variable {inbounds : Inbounds} {backend : VpnProtocol} {row : Inbound}

theorem find?_autoExpandInbound_ne {inbound : Inbound} {id : Int}
    (differs : inbound.id ≠ id) :
    (autoExpandInbound inbounds inbound).find? id = inbounds.find? id := by
  unfold autoExpandInbound
  split
  · rfl
  next expanded accepted =>
    obtain ⟨settings, rfl⟩ := normalizeRanges_frame accepted
    exact Table.find?_save_ne (Ne.symm differs)

theorem find?_foldl_autoExpandInbound {rows : List Inbound} {id : Int}
    (others : ∀ other ∈ rows, other.id ≠ id) :
    (rows.foldl autoExpandInbound inbounds).find? id = inbounds.find? id := by
  induction rows generalizing inbounds with
  | nil => rfl
  | cons head tail induction =>
      rw [List.forall_mem_cons] at others
      rw [List.foldl_cons, induction others.2,
        find?_autoExpandInbound_ne others.1]

theorem Separate.foldl_autoExpandInbound (separate : Separate inbounds)
    (rows : List Inbound) :
    Separate (rows.foldl Panel.autoExpandInbound inbounds) := by
  induction rows generalizing inbounds with
  | nil => exact separate
  | cons head tail induction => exact induction (separate.autoExpandInbound head)

/-- In the order of a key the rows of a smaller key come first. -/
theorem filter_lt_append {rows : List Inbound}
    (sorted : rows.Pairwise fun left right => left.id < right.id)
    (member : row ∈ rows) :
    ∃ later, rows = rows.filter (·.id < row.id) ++ row :: later ∧
      ∀ other ∈ later, other.id ≠ row.id := by
  induction rows with
  | nil => cases member
  | cons head tail induction =>
      obtain ⟨first, rest⟩ := List.pairwise_cons.mp sorted
      rcases List.mem_cons.mp member with rfl | inTail
      · refine ⟨tail, ?_, fun other listed => (first other listed).ne'⟩
        have none : (row :: tail).filter (·.id < row.id) = [] := by
          apply List.filter_eq_nil_iff.mpr
          intro other listed
          rw [decide_eq_true_eq]
          rcases List.mem_cons.mp listed with rfl | inTail
          · exact lt_irrefl _
          · exact (first other inTail).not_gt
        rw [none, List.nil_append]
      · obtain ⟨later, split, others⟩ := induction rest inTail
        refine ⟨later, ?_, others⟩
        rw [List.filter_cons_of_pos (by simpa using first row inTail),
          List.cons_append, ← split]

/-- The inbound is last changed in its own turn. -/
theorem find?_autoExpandVpnRanges (member : row ∈ inbounds)
    (isVpn : row.protocol = .vpn backend) :
    (autoExpandVpnRanges inbounds backend).find? row.id =
      (autoExpandInbound (turnOf inbounds backend row.id) row).find? row.id := by
  have sorted : (inbounds.ofProtocol (.vpn backend)).Pairwise
      fun left right => left.id < right.id := inbounds.sorted.filter _
  obtain ⟨later, split, others⟩ := filter_lt_append sorted
    (Inbounds.mem_ofProtocol.mpr ⟨member, isVpn⟩)
  rw [autoExpandVpnRanges, split, List.foldl_append, List.foldl_cons,
    find?_foldl_autoExpandInbound others]
  rfl

theorem mem_turnOf (member : row ∈ inbounds) :
    row ∈ turnOf inbounds backend row.id := by
  have found : (turnOf inbounds backend row.id).find? row.id = some row := by
    rw [turnOf, find?_foldl_autoExpandInbound]
    · exact Table.find?_eq_some.mpr ⟨member, rfl⟩
    · intro other listed
      exact (by simpa using (List.mem_filter.mp listed).2 :
        other.id < row.id).ne
  exact (Table.find?_eq_some.mp found).1

end Turns

section Blocks

variable {inbounds : Inbounds} {backend : VpnProtocol} {row : Inbound}
  {mirror : Option Nat} {block : AlignedBlock}

theorem ownedSubnets_of_block (family : blockBackend backend = some mirror)
    (isVpn : row.protocol = .vpn backend)
    (stored : decodeRanges row.settings.fields =
      block.ranges backend.protocolBase) :
    (∀ subnet ∈ block.subnets backend.protocolBase,
      subnet ∈ ownedSubnets row) ∧
    ∀ base ∈ mirror, ∀ subnet ∈ block.subnets base,
      subnet ∈ ownedSubnets row := by
  have bounded := protocolBase_lt backend
  have ranges : inboundRanges row backend =
      block.ranges backend.protocolBase := by
    unfold inboundRanges
    rw [stored]
    cases listed : block.ranges backend.protocolBase with
    | nil =>
        rw [AlignedBlock.ranges, List.map_eq_nil_iff] at listed
        exact absurd listed (block.subnets_ne_nil _)
    | cons head tail => rfl
  have owned : ∀ subnet, subnet ∈ ownedSubnets row ↔
      ∃ own ∈ block.subnets backend.protocolBase, subnet = own ∨
        (backend = .openvpn ∧ subnet = mirrorOvpnSubnet own) := by
    intro subnet
    rw [mem_ownedSubnets row isVpn, ranges,
      block.subnetsOf_ranges (by omega)]
  refine ⟨fun subnet member => (owned subnet).mpr ⟨subnet, member, .inl rfl⟩,
    ?_⟩
  intro base paired subnet member
  cases backend with
  | openvpn =>
      obtain rfl := Option.some.inj family
      obtain rfl := Option.some.inj paired
      obtain ⟨first, second, lower, upper⟩ := AlignedBlock.mem_subnets.mp member
      refine (owned subnet).mpr ⟨⟨10, 2, subnet.third⟩,
        AlignedBlock.mem_subnets.mpr ⟨rfl, rfl, lower, upper⟩,
        .inr ⟨rfl, ?_⟩⟩
      obtain ⟨_, _, third⟩ := subnet
      obtain rfl := first
      obtain rfl := second
      rfl
  | openconnect =>
      obtain rfl := Option.some.inj family
      cases paired
  | _ => cases family

/-- Among separate inbounds a stored block is free for its own inbound. -/
theorem blockFree_of_separate (separate : Separate inbounds)
    (family : blockBackend backend = some mirror) (member : row ∈ inbounds)
    (isVpn : row.protocol = .vpn backend)
    (stored : decodeRanges row.settings.fields =
      block.ranges backend.protocolBase) :
    blockFree (2 ^ block.exponent) backend.protocolBase mirror
      (usedVpnSubnets inbounds row.id) block.start = true := by
  obtain ⟨own, mirrored⟩ := ownedSubnets_of_block family isVpn stored
  have unused : ∀ subnet ∈ ownedSubnets row,
      subnet ∉ usedVpnSubnets inbounds row.id := by
    intro subnet owned used
    obtain ⟨other, otherMember, differs, taken⟩ := mem_usedVpnSubnets.mp used
    exact separate other otherMember row member differs subnet taken owned
  refine blockFree_eq_true.mpr ⟨?_, ?_⟩
  · have fits := block.fits
    omega
  · intro third inside
    refine ⟨unused _ (own _ (List.mem_map.mpr ⟨third, inside, rfl⟩)), ?_⟩
    intro base paired
    exact unused _ (mirrored base paired _
      (List.mem_map.mpr ⟨third, inside, rfl⟩))

theorem normalizedRanges_of_block
    (family : blockBackend backend = some mirror) (id : Int)
    (raw : JsonObject) (excludeId : Int) :
    normalizedRanges inbounds backend id raw excludeId =
      normalizeBlockRanges id (decodeClientCount raw) (decodeUserLimit raw)
        backend.protocolBase mirror (usedVpnSubnets inbounds excludeId) := by
  cases backend with
  | openvpn =>
      obtain rfl := Option.some.inj family
      rfl
  | openconnect =>
      obtain rfl := Option.some.inj family
      rfl
  | _ => cases family

theorem rawSettings?_of_fields {settings : JsonText}
    (stored : settings.fields ≠ []) :
    rawSettings? settings = some settings.fields := by
  cases settings with
  | parsed json =>
      cases json with
      | obj fields => rfl
      | _ => exact absurd rfl stored
  | _ => exact absurd rfl stored

/-- In its turn an inbound keeps its ranges if the normaliser comes to them
again, or fails. -/
theorem decodeRanges_autoExpandInbound (member : row ∈ inbounds)
    (isVpn : row.protocol = .vpn backend)
    (stored : row.settings.fields ≠ []) {ranges : List String}
    (decoded : decodeRanges row.settings.fields = ranges) :
    (∃ later, (autoExpandInbound inbounds row).find? row.id = some later ∧
      decodeRanges later.settings.fields = ranges) ↔
    ∀ normalized, normalizedRanges inbounds backend row.id
      row.settings.fields row.id = .ok normalized → normalized = ranges := by
  have normal : ∀ expanded, normalizeRanges inbounds row row.id =
      .ok expanded ↔ ∃ normalized,
        normalizedRanges inbounds backend row.id row.settings.fields row.id =
          .ok normalized ∧
        expanded = { row with settings := .parsed (.obj
          (writeRanges backend row.settings.fields normalized)) } := by
    intro expanded
    rw [normalizeRanges_of_vpn isVpn, rawSettings?_of_fields stored]
    simp
  unfold autoExpandInbound
  split
  next error failed =>
    constructor
    · intro _ normalized accepted
      have other := (normal _).mpr ⟨normalized, accepted, rfl⟩
      rw [failed] at other
      cases other
    · intro _
      exact ⟨row, Table.find?_eq_some.mpr ⟨member, rfl⟩, decoded⟩
  next expanded accepted =>
    obtain ⟨normalized, out, rfl⟩ := (normal expanded).mp accepted
    obtain ⟨canonical, nonempty⟩ := normalizedRanges_canonical out
    have read : decodeRanges (writeRanges backend row.settings.fields
        normalized) = normalized := decodeRanges_writeRanges canonical nonempty
    rw [out, Table.find?_save_self]
    simp only [Option.some.injEq, exists_eq_left', Except.ok.injEq,
      forall_eq']
    exact Eq.congr_left read

end Blocks

section Enough

variable {id : Int} {clientCount userLimit base : Nat}
  {mirrorBase : Option Nat} {used : List Subnet}

/-- The normaliser does not fail while a block that is large enough is free. -/
theorem normalizeBlockRanges_ne_error {block : AlignedBlock}
    (enough : clientCount ≤ 2 ^ block.exponent * accountsPerSubnet userLimit)
    (free : blockFree (2 ^ block.exponent) base mirrorBase used block.start =
      true) (error : RangeError) :
    normalizeBlockRanges id clientCount userLimit base mirrorBase used ≠
      .error error := by
  intro failed
  obtain ⟨exponent, -, size⟩ := exists_blockCount clientCount userLimit
  have smaller : exponent ≤ block.exponent := by
    by_contra larger
    have below : 2 ^ block.exponent < blockCount clientCount userLimit :=
      size ▸ Nat.pow_lt_pow_right (Nat.lt_succ_self 1) (Nat.not_le.mp larger)
    have few := blockCount_least below
    have some : 0 < 2 ^ block.exponent * accountsPerSubnet userLimit :=
      Nat.mul_pos (Nat.two_pow_pos _) (accountsPerSubnet_positive userLimit)
    omega
  have shorter : 2 ^ exponent ≤ 2 ^ block.exponent :=
    Nat.pow_le_pow_right (Nat.succ_pos 1) smaller
  have fits := block.fits
  have unused := (blockFree_eq_true.mp free).2
  have inner : ∀ third ∈ List.range' block.start (2 ^ exponent),
      third ∈ List.range' block.start (2 ^ block.exponent) := by
    intro third inside
    rw [List.mem_range'_1] at inside ⊢
    omega
  -- its first /24s already are a block of the size in need
  rcases taken_of_error failed ⟨block.start, exponent,
    Nat.dvd_trans (Nat.pow_dvd_pow 2 smaller) block.aligned, by omega⟩ size with
    ⟨subnet, member, taken⟩ | ⟨mirror, paired, subnet, member, taken⟩
  · obtain ⟨third, inside, rfl⟩ := List.mem_map.mp member
    exact (unused third (inner third inside)).1 taken
  · obtain ⟨third, inside, rfl⟩ := List.mem_map.mp member
    exact (unused third (inner third inside)).2 mirror paired taken

end Enough

/-- The automatic expansion leaves a large enough block of an inbound where it
is exactly when, in the inbound's turn, the allocator comes to that block
again. -/
theorem autoExpand_keeps_iff (inbounds : Inbounds) (separate : Separate inbounds)
    (backend : VpnProtocol) (mirror : Option Nat)
    (family : blockBackend backend = some mirror) (row : Inbound)
    (member : row ∈ inbounds) (isVpn : row.protocol = .vpn backend)
    (block : AlignedBlock)
    (stored : decodeRanges row.settings.fields =
      block.ranges backend.protocolBase)
    (enough : decodeClientCount row.settings.fields ≤
      2 ^ block.exponent *
        accountsPerSubnet (decodeUserLimit row.settings.fields)) :
    (∃ later,
      (autoExpandVpnRanges inbounds backend).find? row.id = some later ∧
        decodeRanges later.settings.fields =
          decodeRanges row.settings.fields) ↔
    Stays row.id (decodeClientCount row.settings.fields)
      (decodeUserLimit row.settings.fields) backend.protocolBase mirror
      (usedVpnSubnets (turnOf inbounds backend row.id) row.id) block := by
  have bounded := protocolBase_lt backend
  have inTurn : row ∈ turnOf inbounds backend row.id := mem_turnOf member
  have separateTurn : Separate (turnOf inbounds backend row.id) :=
    separate.foldl_autoExpandInbound _
  have free := blockFree_of_separate separateTurn family inTurn isVpn stored
  have parsed : row.settings.fields ≠ [] := by
    intro none
    rw [none] at stored
    have empty : block.ranges backend.protocolBase = [] := stored.symm
    rw [AlignedBlock.ranges, List.map_eq_nil_iff] at empty
    exact block.subnets_ne_nil _ empty
  have reached := @normalizeBlockRanges_eq_ranges_iff row.id
    (decodeClientCount row.settings.fields)
    (decodeUserLimit row.settings.fields) backend.protocolBase mirror
    (usedVpnSubnets (turnOf inbounds backend row.id) row.id) block
    (by omega) free
  rw [find?_autoExpandVpnRanges member isVpn, stored,
    decodeRanges_autoExpandInbound inTurn isVpn parsed stored,
    normalizedRanges_of_block family, ← reached]
  constructor
  · intro same
    cases out : normalizeBlockRanges row.id
        (decodeClientCount row.settings.fields)
        (decodeUserLimit row.settings.fields) backend.protocolBase mirror
        (usedVpnSubnets (turnOf inbounds backend row.id) row.id) with
    | ok normalized => rw [same normalized out]
    | error error =>
        exact absurd out (normalizeBlockRanges_ne_error enough free error)
  · intro accepted normalized other
    rw [accepted] at other
    exact (Except.ok.inj other).symm

/-- An OpenVPN inbound with the second /24, as its id has it. -/
def ownBlockInbound : Inbound :=
  { inboundWithRange .openvpn 1194 "10.2.1.2-10.2.1.254" with id := 1 }

theorem autoExpand_keeps_own :
    (∃ later,
      (autoExpandVpnRanges (noInbounds.save ownBlockInbound) .openvpn).find? 1 =
          some later ∧
        decodeRanges later.settings.fields = ["10.2.1.2-10.2.1.254"]) ↔
    Stays 1 0 1 2 (some 3)
      (usedVpnSubnets
        (turnOf (noInbounds.save ownBlockInbound) .openvpn 1) 1)
      ⟨1, 0, by decide, by decide⟩ :=
  autoExpand_keeps_iff (noInbounds.save ownBlockInbound) (by decide) .openvpn
    (some 3) rfl ownBlockInbound (Table.mem_save.mpr (.inl rfl)) rfl
    ⟨1, 0, by decide, by decide⟩ (by decide +kernel) (by decide +kernel)

/-- What the panel stores for a new OpenVPN inbound: the ranges are derived
while its id is still 0. -/
def newOpenvpnInbound : Inbound :=
  match normalizeRanges noInbounds
      (inboundWithRange .openvpn 1194 "10.2.0.2-10.2.0.254") 0 with
  | .ok normalized => { normalized with id := 1 }
  | .error _ => ownBlockInbound

/-- Its block is large enough, and the first expansion moves it. -/
theorem added_block_moves :
    ¬ ∀ (inbounds : Inbounds), Separate inbounds → ∀ row ∈ inbounds,
      row.protocol = .vpn .openvpn → ∀ block : AlignedBlock,
      decodeRanges row.settings.fields = block.ranges 2 →
      decodeClientCount row.settings.fields ≤ 2 ^ block.exponent *
        accountsPerSubnet (decodeUserLimit row.settings.fields) →
      ∃ later,
        (autoExpandVpnRanges inbounds .openvpn).find? row.id = some later ∧
          decodeRanges later.settings.fields =
            decodeRanges row.settings.fields := by
  intro always
  obtain ⟨later, found, same⟩ := always (noInbounds.save newOpenvpnInbound)
    (by decide +kernel) newOpenvpnInbound (Table.mem_save.mpr (.inl rfl)) rfl
    ⟨0, 0, by decide, by decide⟩ (by decide +kernel) (by decide +kernel)
  have moved : (((autoExpandVpnRanges (noInbounds.save newOpenvpnInbound)
      .openvpn).find? newOpenvpnInbound.id).map fun row =>
        decodeRanges row.settings.fields) =
      some ["10.2.1.2-10.2.1.254"] := by decide +kernel
  rw [found, Option.map_some, same] at moved
  exact absurd moved (by decide +kernel)

end VpnUi.Panel
