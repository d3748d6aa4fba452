import VpnUi.Address.BlockSpec
import VpnUi.Address.Growth

namespace VpnUi.Address

open Panel

/-! The allocation of the block of an OpenVPN or OpenConnect inbound: its
network, the client addresses in it, and when there is none. -/

/-- An address of the network that a client can have. -/
structure Servable (block : Block) (ip : Ipv4) : Prop where
  inside : ∃ host < block.size, block.address host = ip
  network : ip ≠ block.network
  broadcast : ip ≠ block.broadcast
  gateway : ip ≠ block.gateway

namespace AlignedBlock

variable {block : AlignedBlock} {base : Nat}

theorem size_networkIn : (block.networkIn base).size =
    2 ^ block.exponent * 256 := rfl

theorem network_networkIn (bounded : base < 256) :
    (block.networkIn base).network = (block.networkIn base).address 0 := by
  have positive : 0 < 2 ^ block.exponent := Nat.two_pow_pos _
  rw [block.address_networkIn bounded (by omega)]
  rfl

theorem address_inj (bounded : base < 256) {host other : Nat}
    (inside : host < 2 ^ block.exponent * 256)
    (otherInside : other < 2 ^ block.exponent * 256)
    (same : (block.networkIn base).address host =
      (block.networkIn base).address other) : host = other := by
  rw [block.address_networkIn bounded inside,
    block.address_networkIn bounded otherInside] at same
  simp only [Ipv4.mk.injEq, Subnet.mk.injEq, true_and] at same
  omega

theorem servable_address (bounded : base < 256) {host : Nat} (above : 2 ≤ host)
    (below : host < 2 ^ block.exponent * 256 - 1) :
    Servable (block.networkIn base)
      ((block.networkIn base).address host) where
  inside := ⟨host, by rw [size_networkIn]; omega, rfl⟩
  network same := by
    rw [network_networkIn bounded] at same
    have equal := address_inj bounded (by omega) (by omega) same
    omega
  broadcast same := by
    have equal := address_inj bounded (by omega)
      (by rw [size_networkIn]; omega) same
    rw [size_networkIn] at equal
    omega
  gateway same := by
    have equal := address_inj bounded (by omega) (by omega) same
    omega

/-- The network is the union of the /24s. -/
theorem mem_networkIn (bounded : base < 256) {ip : Ipv4} :
    (∃ host < (block.networkIn base).size,
      (block.networkIn base).address host = ip) ↔
      ip.subnet ∈ block.subnets base ∧ ip.host < 256 := by
  obtain ⟨⟨first, second, third⟩, last⟩ := ip
  rw [mem_subnets, size_networkIn]
  constructor
  · rintro ⟨host, inside, address⟩
    rw [block.address_networkIn bounded inside] at address
    simp only [Ipv4.mk.injEq, Subnet.mk.injEq] at address
    obtain ⟨⟨rfl, rfl, rfl⟩, rfl⟩ := address
    refine ⟨⟨rfl, rfl, Nat.le_add_right _ _, ?_⟩, Nat.mod_lt _ (by omega)⟩
    simp only
    omega
  · simp only
    rintro ⟨⟨rfl, rfl, lower, upper⟩, small⟩
    have inside : (third - block.start) * 256 + last <
        2 ^ block.exponent * 256 := by omega
    refine ⟨(third - block.start) * 256 + last, inside, ?_⟩
    rw [block.address_networkIn bounded inside]
    simp only [Ipv4.mk.injEq, Subnet.mk.injEq, true_and]
    omega

/-- The host window of each of its /24s may be served. -/
theorem servable_of_subnet (bounded : base < 256) {ip : Ipv4}
    (member : ip.subnet ∈ block.subnets base) (above : 2 ≤ ip.host)
    (below : ip.host ≤ 254) : Servable (block.networkIn base) ip := by
  obtain ⟨⟨first, second, third⟩, last⟩ := ip
  obtain ⟨rfl, rfl, lower, upper⟩ := mem_subnets.mp member
  simp only at above below lower upper
  have inside : (third - block.start) * 256 + last <
      2 ^ block.exponent * 256 - 1 := by omega
  have above : 2 ≤ (third - block.start) * 256 + last := by omega
  have served := block.servable_address bounded above inside
  rw [block.address_networkIn bounded (by omega)] at served
  have same : (⟨⟨10, second, block.start +
      ((third - block.start) * 256 + last) / 256⟩,
      ((third - block.start) * 256 + last) % 256⟩ : Ipv4) =
        ⟨⟨10, second, third⟩, last⟩ := by
    simp only [Ipv4.mk.injEq, Subnet.mk.injEq, true_and]
    omega
  rw [← same]
  exact served

theorem length_subnets :
    (block.subnets base).length = 2 ^ block.exponent := by
  simp [subnets, thirds]

end AlignedBlock

/-- The number of /24s that `normalizeBlockRanges` looks for. -/
def blockCount (clientCount userLimit : Nat) : Nat :=
  min (blockSpan (accountsPerSubnet userLimit) (max clientCount 1)
    (max clientCount 1) 1) 64

section Count

variable {per needed : Nat}

theorem blockSpan_enough (positive : 0 < per) {fuel num24 : Nat}
    (fuelled : needed ≤ num24 * 2 ^ fuel) :
    needed ≤ blockSpan per needed fuel num24 * per := by
  induction fuel generalizing num24 with
  | zero =>
      rw [Nat.pow_zero, Nat.mul_one] at fuelled
      exact Nat.le_trans fuelled (Nat.le_mul_of_pos_right num24 positive)
  | succ fuel induction =>
      rw [blockSpan]
      split
      · apply induction
        rw [Nat.mul_assoc, ← Nat.pow_succ']
        exact fuelled
      next enough => exact Nat.not_lt.mp enough

/-- No fewer doublings would do. -/
theorem blockSpan_least {fuel reached smaller : Nat} (from_ : reached ≤ smaller)
    (below : 2 ^ smaller < blockSpan per needed fuel (2 ^ reached)) :
    2 ^ smaller * per < needed := by
  induction fuel generalizing reached with
  | zero =>
      have above := Nat.pow_le_pow_right (Nat.succ_pos 1) from_
      exact absurd below (Nat.not_lt.mpr above)
  | succ fuel induction =>
      rw [blockSpan] at below
      split at below
      next short =>
        rcases Nat.eq_or_lt_of_le from_ with rfl | later
        · exact short
        · exact induction later below
      next =>
        have above := Nat.pow_le_pow_right (Nat.succ_pos 1) from_
        exact absurd below (Nat.not_lt.mpr above)

theorem blockCount_enough {clientCount userLimit : Nat}
    (few : clientCount ≤ 64 * accountsPerSubnet userLimit) :
    clientCount ≤ blockCount clientCount userLimit *
      accountsPerSubnet userLimit := by
  have fuelled : max clientCount 1 ≤ 1 * 2 ^ max clientCount 1 := by
    rw [Nat.one_mul]
    exact Nat.le_of_lt Nat.lt_two_pow_self
  have span := blockSpan_enough (accountsPerSubnet_positive userLimit) fuelled
  rw [blockCount]
  rcases Nat.le_total (blockSpan (accountsPerSubnet userLimit)
    (max clientCount 1) (max clientCount 1) 1) 64 with small | large
  · rw [Nat.min_eq_left small]
    exact Nat.le_trans (Nat.le_max_left _ _) span
  · rw [Nat.min_eq_right large]
    exact few

/-- A smaller power of two does not hold the clients. -/
theorem blockCount_least {clientCount userLimit smaller : Nat}
    (below : 2 ^ smaller < blockCount clientCount userLimit) :
    2 ^ smaller * accountsPerSubnet userLimit < max clientCount 1 :=
  blockSpan_least (Nat.zero_le smaller)
    (Nat.lt_of_lt_of_le below (Nat.min_le_left _ _))

end Count

/-- The addresses of the account at an index are served from the block. -/
structure Served (block : Block) (ranges : List String) (inboundId : Int)
    (userLimit index : Nat) : Prop where
  blockIP : userLimit ≤ 1 → ∃ ip,
    ovpnBlockClientIP block index = some ip ∧ Servable block ip
  clientIP : userLimit ≤ 1 → ∀ backend, ∃ ip,
    computeVpnClientIP ranges inboundId index backend = some ip ∧
      Servable block ip
  deviceIPs : 1 < userLimit →
    (vpnAccountDeviceIPs (subnetsOf ranges) index userLimit).length =
      normUserLimit userLimit ∧
    ∀ ip ∈ vpnAccountDeviceIPs (subnetsOf ranges) index userLimit,
      Servable block ip

namespace AlignedBlock

variable {block : AlignedBlock} {base index : Nat}

theorem ovpnBlockClientIP_servable (bounded : base < 256)
    (inside : index < 2 ^ block.exponent * 253) :
    ∃ ip, ovpnBlockClientIP (block.networkIn base) index = some ip ∧
      Servable (block.networkIn base) ip := by
  have fits := block.fits
  have positive : 0 < 2 ^ block.exponent := Nat.two_pow_pos _
  have below : 2 + index < 2 ^ block.exponent * 256 - 1 := by omega
  have served := block.servable_address bounded (Nat.le_add_right 2 index) below
  refine ⟨(block.networkIn base).address (2 + index), ?_, served⟩
  refine (block.ovpnBlockClientIP_networkIn bounded (by omega)).mpr ?_
  exact ⟨by omega, block.address_networkIn bounded (by omega)⟩

theorem rangeAddresses_ranges (bounded : base < 256) :
    rangeAddresses (block.ranges base) =
      (block.subnets base).flatMap fun subnet =>
        (List.range 253).map fun device => subnet.withHost (2 + device) := by
  have each : ∀ subnets : List Subnet, (∀ subnet ∈ subnets, subnet.Valid) →
      rangeAddresses (subnets.map defaultRange) =
        subnets.flatMap fun subnet =>
          (List.range 253).map fun device => subnet.withHost (2 + device) := by
    intro subnets
    induction subnets with
    | nil => exact fun _ => rfl
    | cons head tail induction =>
        intro valid
        rw [List.forall_mem_cons] at valid
        rw [List.map_cons, List.flatMap_cons, ← induction valid.2]
        simp only [rangeAddresses, List.filterMap_cons,
          parseRange_defaultRange valid.1, List.flatMap_cons]
        rfl
  exact each _ fun _ => block.valid_of_mem bounded

theorem computeVpnClientIP_servable (bounded : base < 256) (inboundId : Int)
    (inside : index < 2 ^ block.exponent * 253) (backend : VpnProtocol) :
    ∃ ip, computeVpnClientIP (block.ranges base) inboundId index backend =
        some ip ∧ Servable (block.networkIn base) ip := by
  have stored : block.ranges base ≠ [] := by
    intro none
    have length : (block.ranges base).length = 2 ^ block.exponent := by
      rw [ranges, List.length_map, length_subnets]
    rw [none, List.length_nil] at length
    exact absurd length.symm (Nat.two_pow_pos _).ne'
  have length : index < (rangeAddresses (block.ranges base)).length := by
    rw [block.rangeAddresses_ranges bounded, List.length_flatMap]
    simpa only [List.length_map, List.length_range, List.map_const',
      List.sum_replicate_nat, length_subnets] using inside
  refine ⟨(rangeAddresses (block.ranges base))[index], ?_, ?_⟩
  · rw [computeVpnClientIP_of_ne_nil stored, List.getElem?_eq_getElem length]
  · have member := List.getElem_mem length
    simp only [block.rangeAddresses_ranges bounded, List.mem_flatMap,
      List.mem_map, List.mem_range] at member
    obtain ⟨subnet, listed, device, small, address⟩ := member
    simp only [block.rangeAddresses_ranges bounded]
    rw [← address]
    refine block.servable_of_subnet bounded listed ?_ ?_
    · simp only [Subnet.withHost_host]
      omega
    · simp only [Subnet.withHost_host]
      omega

theorem vpnAccountDeviceIPs_servable (bounded : base < 256) {userLimit : Nat}
    (several : 1 < userLimit) {ip : Ipv4}
    (member : ip ∈ vpnAccountDeviceIPs (block.subnets base) index userLimit) :
    Servable (block.networkIn base) ip := by
  have size := blockSize_normUserLimit userLimit
  have norm : vpnAccountDeviceIPs (block.subnets base) index userLimit =
      vpnAccountDeviceIPs (block.subnets base) index
        (normUserLimit userLimit) := by
    simp only [vpnAccountDeviceIPs, normUserLimit_idem]
  have atLeastTwo : 2 ≤ normUserLimit userLimit := by
    unfold normUserLimit noLimitDevices maxUserLimit
    split
    · omega
    · split
      · omega
      · split <;> omega
  rw [norm] at member
  obtain ⟨device, small, listed, host⟩ :=
    (mem_vpnAccountDeviceIPs size).mp member
  have inside := Nat.mod_lt index (accountsPerSubnet_pos size)
  have fits := block_fits size atLeastTwo inside
  have above : normUserLimit userLimit ≤
      (index % accountsPerSubnet (normUserLimit userLimit) + 1) *
        normUserLimit userLimit :=
    Nat.le_mul_of_pos_left _ (Nat.succ_pos _)
  exact block.servable_of_subnet bounded (List.mem_of_getElem? listed)
    (by omega) (by omega)

end AlignedBlock

/-- The returned ranges are those of a free aligned block of the needed size,
whose network is the union of its /24s, and unless the size was capped every
client is served from it. -/
structure ExactBlock (base : Nat) (mirrorBase : Option Nat)
    (clientCount userLimit : Nat) (used : List Subnet) (valid : List String)
    (block : AlignedBlock) : Prop where
  ranges : valid = block.ranges base
  size : 2 ^ block.exponent = blockCount clientCount userLimit
  least : ∀ smaller < block.exponent,
    2 ^ smaller * accountsPerSubnet userLimit < max clientCount 1
  free : ∀ subnet ∈ block.subnets base, subnet ∉ used
  mirrorFree : ∀ mirror ∈ mirrorBase, ∀ subnet ∈ block.subnets mirror,
    subnet ∉ used
  network : ∀ id ip,
    (∃ host < (vpnBlock valid base id).size,
        (vpnBlock valid base id).address host = ip) ↔
      ip.subnet ∈ subnetsOf valid ∧ ip.host < 256
  served : clientCount ≤ 64 * accountsPerSubnet userLimit →
    ∀ id, ∀ index < clientCount,
      Served (vpnBlock valid base id) valid id userLimit index

section Allocate

variable {id : Int} {clientCount userLimit base num24 : Nat}
  {mirrorBase : Option Nat} {used : List Subnet} {valid : List String}

theorem length_normalizeBlockRanges
    (accepted : normalizeBlockRanges id clientCount userLimit base mirrorBase
      used = .ok valid) :
    valid.length = blockCount clientCount userLimit := by
  unfold normalizeBlockRanges at accepted
  simp only at accepted
  split at accepted
  · cases accepted
  · rw [← Except.ok.inj accepted, List.length_map, List.length_range']
    rfl

theorem allocateAlignedBlock_eq_none
    (none : allocateAlignedBlock id num24 base mirrorBase used = none)
    (positive : 0 < num24) {start : Nat} (aligned : num24 ∣ start) :
    blockFree num24 base mirrorBase used start = false := by
  unfold allocateAlignedBlock at none
  simp only at none
  split at none
  · cases none
  next =>
    obtain ⟨index, rfl⟩ := aligned
    rw [Nat.mul_comm]
    by_cases fits : index < 255 / num24
    · have missed := List.find?_eq_none.mp none (index * num24)
        (List.mem_map.mpr ⟨index, List.mem_range.mpr fits, rfl⟩)
      simpa using missed
    · rw [Bool.eq_false_iff]
      intro free
      have bound := (blockFree_eq_true.mp free).1
      have above : 255 < (index + 1) * num24 := by
        rw [← Nat.div_lt_iff_lt_mul positive]
        omega
      rw [Nat.succ_mul] at above
      omega

/-- The needed size is a power of two. -/
theorem exists_blockCount (clientCount userLimit : Nat) :
    ∃ exponent ≤ 6, 2 ^ exponent = blockCount clientCount userLimit := by
  obtain ⟨exponent, span⟩ := blockSpan_eq_pow (accountsPerSubnet userLimit)
    (max clientCount 1) (max clientCount 1) 0
  rw [Nat.pow_zero] at span
  refine ⟨min exponent 6, Nat.min_le_right _ _, ?_⟩
  rw [blockCount, span]
  rcases Nat.le_total exponent 6 with small | large
  · have below := Nat.pow_le_pow_right (Nat.succ_pos 1) small
    rw [Nat.min_eq_left small]
    exact (Nat.min_eq_left below).symm
  · have above := Nat.pow_le_pow_right (Nat.succ_pos 1) large
    rw [Nat.min_eq_right large]
    exact (Nat.min_eq_right above).symm

/-- A failure leaves no block of the needed size that is free. -/
theorem taken_of_error {error : RangeError}
    (failed : normalizeBlockRanges id clientCount userLimit base mirrorBase
      used = .error error) (block : AlignedBlock)
    (size : 2 ^ block.exponent = blockCount clientCount userLimit) :
    (∃ subnet ∈ block.subnets base, subnet ∈ used) ∨
      ∃ mirror ∈ mirrorBase, ∃ subnet ∈ block.subnets mirror,
        subnet ∈ used := by
  have none : allocateAlignedBlock id (blockCount clientCount userLimit) base
      mirrorBase used = none := by
    unfold normalizeBlockRanges at failed
    simp only at failed
    split at failed
    next none => exact none
    · cases failed
  have positive : 0 < blockCount clientCount userLimit :=
    size ▸ Nat.two_pow_pos _
  have busy := allocateAlignedBlock_eq_none none positive
    (size ▸ block.aligned)
  by_contra free
  simp only [not_or, not_exists, not_and] at free
  rw [Bool.eq_false_iff] at busy
  refine busy (blockFree_eq_true.mpr ⟨?_, ?_⟩)
  · have fits := block.fits
    omega
  · intro third inside
    rw [← size] at inside
    refine ⟨free.1 _ (List.mem_map.mpr ⟨third, inside, rfl⟩), ?_⟩
    intro mirror paired
    exact free.2 mirror paired _ (List.mem_map.mpr ⟨third, inside, rfl⟩)

theorem served_of_size {block : AlignedBlock} (bounded : base < 256)
    (size : 2 ^ block.exponent = blockCount clientCount userLimit)
    (few : clientCount ≤ 64 * accountsPerSubnet userLimit) {index : Nat}
    (inside : index < clientCount) (inboundId : Int) :
    Served (block.networkIn base) (block.ranges base) inboundId userLimit
      index := by
  have enough := blockCount_enough few
  rw [← size] at enough
  have hosts : userLimit ≤ 1 → index < 2 ^ block.exponent * 253 := by
    intro single
    have atMost : accountsPerSubnet userLimit ≤ 253 := by
      have both : ∀ limit ≤ 1, accountsPerSubnet limit ≤ 253 := by decide
      exact both userLimit single
    calc index < clientCount := inside
      _ ≤ 2 ^ block.exponent * accountsPerSubnet userLimit := enough
      _ ≤ 2 ^ block.exponent * 253 := Nat.mul_le_mul_left _ atMost
  refine ⟨?_, ?_, ?_⟩
  · exact fun single => block.ovpnBlockClientIP_servable bounded (hosts single)
  · exact fun single backend => block.computeVpnClientIP_servable bounded
      inboundId (hosts single) backend
  · intro several
    rw [block.subnetsOf_ranges bounded]
    refine ⟨length_vpnAccountDeviceIPs ?_, fun ip member =>
      block.vpnAccountDeviceIPs_servable bounded several member⟩
    rw [vpnAccountsCapacity, block.length_subnets]
    omega

end Allocate

/-- The allocation of a block is exact, and fails only when there is none. -/
theorem normalizeBlockRanges_exact (id : Int)
    (clientCount userLimit base : Nat) (mirrorBase : Option Nat)
    (used : List Subnet) (bounded : base < 256) :
    (∀ valid, normalizeBlockRanges id clientCount userLimit base mirrorBase
        used = .ok valid →
      ∃ block, ExactBlock base mirrorBase clientCount userLimit used valid
        block) ∧
    ∀ error, normalizeBlockRanges id clientCount userLimit base mirrorBase
        used = .error error →
      ∀ block : AlignedBlock,
        2 ^ block.exponent = blockCount clientCount userLimit →
          (∃ subnet ∈ block.subnets base, subnet ∈ used) ∨
            ∃ mirror ∈ mirrorBase, ∃ subnet ∈ block.subnets mirror,
              subnet ∈ used := by
  refine ⟨?_, fun error failed => taken_of_error failed⟩
  intro valid accepted
  have length := length_normalizeBlockRanges accepted
  obtain ⟨block, rfl, free, mirrorFree⟩ := normalizeBlockRanges_eq_ok accepted
  rw [AlignedBlock.ranges, List.length_map, block.length_subnets] at length
  refine ⟨block, rfl, length, ?_, free, mirrorFree, ?_, ?_⟩
  · intro smaller below
    apply blockCount_least
    rw [← length]
    exact Nat.pow_lt_pow_right (Nat.lt_succ_self 1) below
  · intro id ip
    rw [block.vpnBlock_ranges bounded, block.subnetsOf_ranges bounded]
    exact block.mem_networkIn bounded
  · intro few id index inside
    rw [block.vpnBlock_ranges bounded]
    exact served_of_size bounded length few inside id

theorem normalizeBlockRanges_exact_grown :
    ∃ block, ExactBlock 2 (some 3) 300 1 [⟨10, 3, 6⟩]
      ["10.2.0.2-10.2.0.254", "10.2.1.2-10.2.1.254"] block :=
  (normalizeBlockRanges_exact 7 300 1 2 (some 3) [⟨10, 3, 6⟩] (by decide)).1 _
    (by decide +kernel)

end VpnUi.Address
