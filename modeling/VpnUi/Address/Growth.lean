import VpnUi.Address.ClientIp
import VpnUi.Address.NormalizeSpec

namespace VpnUi.Address

open Foundation Panel

/-! Growth of the ranges of a PPP inbound: what was given before it stays, and
there is enough. -/

/-- The account has an address, or all those of its block. -/
def HasAddresses (ranges : List String) (inboundId : Int)
    (backend : VpnProtocol) (userLimit index : Nat) : Prop :=
  if userLimit ≤ 1 then
    (computeVpnClientIP ranges inboundId index backend).isSome = true
  else
    (vpnAccountDeviceIPs (subnetsOf ranges) index userLimit).length =
      normUserLimit userLimit

section Prefix

variable {subnets : List Subnet} {index limit : Nat}

theorem normUserLimit_idem (limit : Int) :
    normUserLimit (normUserLimit limit) = normUserLimit limit :=
  normUserLimit_of_blockSize (blockSize_normUserLimit limit)

theorem accountsPerSubnet_normUserLimit (limit : Nat) :
    accountsPerSubnet (normUserLimit limit) = accountsPerSubnet limit := by
  simp only [accountsPerSubnet, normUserLimit_idem]

theorem accountsPerSubnet_positive (limit : Nat) :
    0 < accountsPerSubnet limit := by
  rw [← accountsPerSubnet_normUserLimit]
  exact accountsPerSubnet_pos (blockSize_normUserLimit limit)

theorem vpnAccountDeviceIPs_of_block {subnet : Subnet} {hostBase : Nat}
    (found : vpnAccountBlock subnets index (normUserLimit limit) =
      some (subnet, hostBase)) :
    vpnAccountDeviceIPs subnets index limit =
      (List.range (normUserLimit limit)).map fun device =>
        subnet.withHost (hostBase + device) := by
  simp only [vpnAccountDeviceIPs, found]

theorem vpnAccountBlock_append {more : List Subnet} {block : Subnet × Nat}
    (found : vpnAccountBlock subnets index limit = some block) :
    vpnAccountBlock (subnets ++ more) index limit = some block := by
  simp only [vpnAccountBlock] at found ⊢
  split at found
  · cases found
  · obtain ⟨subnet, listed, rfl⟩ := Option.map_eq_some_iff.mp found
    rw [if_neg ‹_›, List.getElem?_append_left
      (List.getElem?_eq_some_iff.mp listed).1, listed]
    rfl

/-- /24s that follow move no device. -/
theorem vpnAccountDeviceIPs_append {more : List Subnet} {device : Nat}
    {ip : Ipv4}
    (given : (vpnAccountDeviceIPs subnets index limit)[device]? = some ip) :
    (vpnAccountDeviceIPs (subnets ++ more) index limit)[device]? =
      some ip := by
  cases found : vpnAccountBlock subnets index (normUserLimit limit) with
  | none =>
      simp only [vpnAccountDeviceIPs, found] at given
      cases given
  | some block =>
      rw [vpnAccountDeviceIPs_of_block found] at given
      rw [vpnAccountDeviceIPs_of_block (vpnAccountBlock_append found), given]

theorem length_vpnAccountDeviceIPs
    (inside : index < vpnAccountsCapacity subnets limit) :
    (vpnAccountDeviceIPs subnets index limit).length =
      normUserLimit limit := by
  have norm := accountsPerSubnet_normUserLimit limit
  have per := accountsPerSubnet_positive limit
  have position : index / accountsPerSubnet limit < subnets.length :=
    (Nat.div_lt_iff_lt_mul per).mpr inside
  have found : vpnAccountBlock subnets index (normUserLimit limit) =
      some (subnets[index / accountsPerSubnet limit],
        (index % accountsPerSubnet limit + 1) * normUserLimit limit) := by
    simp only [vpnAccountBlock, normUserLimit_idem, norm,
      if_neg (Nat.ne_of_gt per), List.getElem?_eq_getElem position,
      Option.map_some]
  rw [vpnAccountDeviceIPs_of_block found, List.length_map, List.length_range]

end Prefix

theorem length_rangeAddresses (ranges : List String) :
    (rangeAddresses ranges).length = rangeCapacity ranges := by
  rw [rangeAddresses, rangeCapacity, List.length_flatMap]
  simp only [IpRange.length_addresses]

theorem rangeAddresses_append (ranges more : List String) :
    rangeAddresses (ranges ++ more) =
      rangeAddresses ranges ++ rangeAddresses more := by
  simp [rangeAddresses, List.filterMap_append]

/-- Ranges that parse alike hold the same addresses. -/
theorem rangeAddresses_congr {ranges others : List String}
    (same : ranges.filterMap parseRange = others.filterMap parseRange) :
    rangeAddresses ranges = rangeAddresses others := by
  rw [rangeAddresses, same, rangeAddresses]

theorem subnetsOf_congr {ranges others : List String}
    (same : ranges.filterMap parseRange = others.filterMap parseRange) :
    subnetsOf ranges = subnetsOf others := by
  have mapped : ∀ texts : List String,
      texts.filterMap rangeSubnet =
        (texts.filterMap parseRange).map IpRange.subnet := by
    intro texts
    rw [List.map_filterMap]
    rfl
  rw [subnetsOf, mapped, same, ← mapped, subnetsOf]

section Normal

variable {protocol : VpnProtocol} {clientCount userLimit : Nat}
  {used : List Subnet} {ranges valid given : List String}

theorem map_canonRange_eq {texts : List String}
    (parsed : ∀ text ∈ texts, ∃ range, parseRange text = some range) :
    texts.map canonRange =
      (texts.filterMap parseRange).map fun range => some range.text := by
  induction texts with
  | nil => rfl
  | cons head tail induction =>
      rw [List.forall_mem_cons] at parsed
      obtain ⟨⟨range, first⟩, rest⟩ := parsed
      rw [List.map_cons, List.filterMap_cons_some first, List.map_cons,
        induction rest, canonRange, first, Option.map_some]

theorem parsed_of_mapM
    (accepted : ranges.mapM (validateRange used) = .ok valid) :
    ∀ text ∈ ranges, ∃ range, parseRange text = some range := by
  induction ranges generalizing valid with
  | nil => exact fun _ member => nomatch member
  | cons head tail induction =>
      rw [List.mapM_cons] at accepted
      cases first : validateRange used head with
      | error problem =>
          rw [first] at accepted
          cases accepted
      | ok canon =>
          cases rest : tail.mapM (validateRange used) with
          | error problem =>
              rw [first, rest] at accepted
              cases accepted
          | ok canons =>
              obtain ⟨range, parsed, -, -⟩ := validateRange_eq_ok.mp first
              exact List.forall_mem_cons.mpr ⟨⟨range, parsed⟩, induction rest⟩

theorem parsed_of_normalizePppRanges
    (accepted : normalizePppRanges protocol ranges clientCount userLimit used =
      .ok valid) :
    ∀ text ∈ ranges, ∃ range, parseRange text = some range := by
  unfold normalizePppRanges seedRanges at accepted
  cases validated : ranges.mapM (validateRange used) with
  | error problem =>
      rw [validated] at accepted
      cases accepted
  | ok given => exact parsed_of_mapM validated

/-- Canonical ranges outside `used` pass the validation as they are. -/
theorem mapM_validateRange_self
    (canonical : ∀ text ∈ valid, ∃ range, parseRange text = some range ∧
      range.text = text ∧ range.subnet ∉ used) :
    valid.mapM (validateRange used) = .ok valid := by
  induction valid with
  | nil => rfl
  | cons head tail induction =>
      rw [List.forall_mem_cons] at canonical
      obtain ⟨⟨range, parsed, text, free⟩, rest⟩ := canonical
      have first : validateRange used head = .ok head :=
        validateRange_eq_ok.mpr ⟨range, parsed, free, text.symm⟩
      rw [List.mapM_cons, first, induction rest]
      rfl

theorem expandRanges_eq_self (fuel : Nat)
    (full : haveCapacity valid clientCount userLimit = true ∨
      nextFreeSubnet protocol (used ++ subnetsOf valid) = none) :
    expandRanges protocol clientCount userLimit used fuel valid = valid := by
  cases fuel with
  | zero => rfl
  | succ fuel =>
      rw [expandRanges]
      split
      · rfl
      next lacks =>
        rw [full.resolve_left lacks]

namespace PppOutcome

variable {fresh : List Subnet}
  (outcome : PppOutcome protocol used ranges given fresh)

include outcome

theorem canonical : ∀ text ∈ given ++ fresh.map defaultRange,
    ∃ range, parseRange text = some range ∧ range.text = text ∧
      range.subnet ∉ used := by
  intro text member
  rcases List.mem_append.mp member with old | new
  · exact outcome.free text old
  · obtain ⟨subnet, listed, rfl⟩ := List.mem_map.mp new
    have proper := outcome.new.valid listed
    refine ⟨fullRange subnet proper, parseRange_defaultRange proper, rfl, ?_⟩
    exact fun taken =>
      outcome.new.free subnet listed (List.mem_append_left _ taken)

/-- The given ranges are the canonical forms of the stored ones. -/
theorem map_canonRange
    (parsed : ∀ text ∈ ranges, ∃ range, parseRange text = some range) :
    ranges.map canonRange = given.map some := by
  have givenParsed : ∀ text ∈ given, ∃ range, parseRange text = some range := by
    intro text member
    obtain ⟨range, found, -, -⟩ := outcome.free text member
    exact ⟨range, found⟩
  rw [map_canonRange_eq parsed, ← outcome.same, ← map_canonRange_eq givenParsed]
  apply List.map_congr_left
  intro text member
  obtain ⟨range, found, canonical, -⟩ := outcome.free text member
  rw [canonRange, found, Option.map_some, canonical]

theorem subnetsOf_grown : subnetsOf (given ++ fresh.map defaultRange) =
    subnetsOf ranges ++ fresh := by
  rw [outcome.subnets, subnetsOf_congr outcome.same]

/-- No address that stored ranges gave to a client is given to another. -/
theorem computeVpnClientIP_grown (stored : ranges ≠ []) {inboundId : Int}
    {index : Nat} {backend : VpnProtocol} {ip : Ipv4}
    (address : computeVpnClientIP ranges inboundId index backend = some ip) :
    computeVpnClientIP (given ++ fresh.map defaultRange) inboundId index
      backend = some ip := by
  rw [computeVpnClientIP_of_ne_nil stored] at address
  rw [computeVpnClientIP_of_ne_nil outcome.ne_nil, rangeAddresses_append,
    rangeAddresses_congr outcome.same, List.getElem?_append_left
      (List.getElem?_eq_some_iff.mp address).1, address]

end PppOutcome

/-- Normalised ranges are not changed by a second run. -/
theorem normalizePppRanges_idem
    (accepted : normalizePppRanges protocol ranges clientCount userLimit used =
      .ok valid) :
    normalizePppRanges protocol valid clientCount userLimit used =
      .ok valid := by
  obtain ⟨given, fresh, rfl, outcome⟩ := normalizePppRanges_eq_ok accepted
  have seeded : seedRanges protocol (given ++ fresh.map defaultRange) used =
      .ok (given ++ fresh.map defaultRange) := by
    rw [seedRanges, mapM_validateRange_self outcome.canonical]
    simp only [bind, Except.bind, if_neg outcome.ne_nil]
  rw [normalizePppRanges, seeded]
  simp only [bind, Except.bind]
  rw [expandRanges_eq_self 254 (normalizePppRanges_capacity accepted)]

theorem hasAddresses_of_capacity (stored : valid ≠ [])
    (capacity : haveCapacity valid clientCount userLimit = true)
    (inboundId : Int) (backend : VpnProtocol) {index : Nat}
    (inside : index < clientCount) :
    HasAddresses valid inboundId backend userLimit index := by
  unfold HasAddresses
  rw [haveCapacity] at capacity
  split
  next single =>
    rw [if_pos single, decide_eq_true_eq] at capacity
    have within : index < (rangeAddresses valid).length := by
      rw [length_rangeAddresses]
      omega
    rw [computeVpnClientIP_of_ne_nil stored, List.getElem?_eq_getElem within,
      Option.isSome_some]
  next several =>
    rw [if_neg several, decide_eq_true_eq] at capacity
    exact length_vpnAccountDeviceIPs (Nat.lt_of_lt_of_le inside capacity)

theorem nextFreeSubnet_eq_none {taken : List Subnet} :
    nextFreeSubnet protocol taken = none ↔
      ∀ subnet ∈ candidateSubnets protocol, subnet ∈ taken := by
  simp [nextFreeSubnet]

end Normal

/-- What a normalisation of PPP ranges has done: stored ranges stay in front
and keep their addresses, what is added is free, a second run changes nothing,
and every client has its addresses unless the /16 is used up. -/
structure Grown (protocol : VpnProtocol) (clientCount userLimit : Nat)
    (used : List Subnet) (ranges valid given : List String)
    (added : List Subnet) : Prop where
  appended : valid = given ++ added.map defaultRange
  canonical : ranges.map canonRange = given.map some
  clientIPs : ranges ≠ [] → ∀ inboundId index backend ip,
    computeVpnClientIP ranges inboundId index backend = some ip →
      computeVpnClientIP valid inboundId index backend = some ip
  deviceIPs : ∀ (index limit device : Nat) (ip : Ipv4),
    (vpnAccountDeviceIPs (subnetsOf ranges) index limit)[device]? = some ip →
      (vpnAccountDeviceIPs (subnetsOf valid) index limit)[device]? = some ip
  again : normalizePppRanges protocol valid clientCount userLimit used =
    .ok valid
  distinct : added.Nodup
  free : ∀ subnet ∈ added, subnet ∈ candidateSubnets protocol ∧
    subnet ∉ used ∧ subnet ∉ subnetsOf ranges
  enough : (∀ inboundId, ∀ index < clientCount,
      HasAddresses valid inboundId protocol userLimit index) ∨
    ∀ subnet ∈ candidateSubnets protocol,
      subnet ∈ used ∨ subnet ∈ subnetsOf valid

/-- Every accepted normalisation grows the ranges. -/
theorem normalizePppRanges_grown (protocol : VpnProtocol)
    (ranges valid : List String) (clientCount userLimit : Nat)
    (used : List Subnet)
    (accepted : normalizePppRanges protocol ranges clientCount userLimit used =
      .ok valid) :
    ∃ given added,
      Grown protocol clientCount userLimit used ranges valid given added := by
  obtain ⟨given, added, rfl, outcome⟩ := normalizePppRanges_eq_ok accepted
  have subnets := outcome.subnetsOf_grown
  refine ⟨given, added, ?_⟩
  exact {
    appended := rfl
    canonical := outcome.map_canonRange (parsed_of_normalizePppRanges accepted)
    clientIPs := fun stored _ _ _ _ address =>
      outcome.computeVpnClientIP_grown stored address
    deviceIPs := fun _ _ _ _ address => by
      rw [subnets]
      exact vpnAccountDeviceIPs_append address
    again := normalizePppRanges_idem accepted
    distinct := outcome.new.nodup
    free := by
      intro subnet member
      have free := outcome.new.free subnet member
      rw [List.mem_append, not_or, subnetsOf_congr outcome.same] at free
      exact ⟨outcome.new.candidate subnet member, free⟩
    enough := by
      refine (normalizePppRanges_capacity accepted).imp ?_ ?_
      · intro capacity inboundId index inside
        exact hasAddresses_of_capacity outcome.ne_nil capacity inboundId
          protocol inside
      · intro exhausted subnet candidate
        exact List.mem_append.mp
          (nextFreeSubnet_eq_none.mp exhausted subnet candidate) }

theorem normalizePppRanges_grown_narrow :
    ∃ given added, Grown .l2tp 60 1 [⟨10, 0, 2⟩] ["10.0.5.10-50"]
      ["10.0.5.10-10.0.5.50", "10.0.3.2-10.0.3.254"] given added :=
  normalizePppRanges_grown .l2tp ["10.0.5.10-50"] _ 60 1 [⟨10, 0, 2⟩]
    (by decide +kernel)

/-- A client of an inbound that stores no range has an address of the id, and
loses it to the first free /24. -/
theorem legacy_client_moves :
    normalizePppRanges .l2tp [] 1 1 [] = .ok ["10.0.2.2-10.0.2.254"] ∧
      computeVpnClientIP [] 7 0 .l2tp = some ⟨⟨10, 0, 7⟩, 2⟩ ∧
      computeVpnClientIP ["10.0.2.2-10.0.2.254"] 7 0 .l2tp =
        some ⟨⟨10, 0, 2⟩, 2⟩ := by
  decide +kernel

end VpnUi.Address
