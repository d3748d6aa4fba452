import VpnUi.Foundation.Distinct
import VpnUi.Address.Normalize

namespace VpnUi.Address

open Foundation Panel

/-! What the ranges of a normalised inbound are. -/

theorem mem_subnetsOf {ranges : List String} {subnet : Subnet} :
    subnet ∈ subnetsOf ranges ↔
      ∃ text ∈ ranges, rangeSubnet text = some subnet := by
  simp [subnetsOf, List.mem_eraseDups]

theorem nodup_subnetsOf (ranges : List String) : (subnetsOf ranges).Nodup :=
  nodup_eraseDups _

theorem valid_of_mem_subnetsOf {ranges : List String} {subnet : Subnet}
    (member : subnet ∈ subnetsOf ranges) : subnet.Valid := by
  obtain ⟨text, -, found⟩ := mem_subnetsOf.mp member
  obtain ⟨range, -, rfl⟩ := Option.map_eq_some_iff.mp found
  exact range.valid

section Candidates

variable {protocol : VpnProtocol}

theorem mem_candidateSubnets {subnet : Subnet} :
    subnet ∈ candidateSubnets protocol ↔
      subnet.first = 10 ∧ subnet.second = protocol.protocolBase ∧
        2 ≤ subnet.third ∧ subnet.third ≤ 254 := by
  obtain ⟨first, second, third⟩ := subnet
  simp only [candidateSubnets, List.mem_map, List.mem_range'_1,
    Subnet.mk.injEq]
  constructor
  · rintro ⟨other, ⟨lower, upper⟩, rfl, rfl, rfl⟩
    exact ⟨rfl, rfl, lower, by omega⟩
  · rintro ⟨rfl, rfl, lower, upper⟩
    exact ⟨third, ⟨lower, by omega⟩, rfl, rfl, rfl⟩

theorem protocolBase_lt (protocol : VpnProtocol) :
    protocol.protocolBase < 6 := by
  cases protocol <;> decide

theorem valid_of_mem_candidateSubnets {subnet : Subnet}
    (member : subnet ∈ candidateSubnets protocol) : subnet.Valid := by
  obtain ⟨first, second, lower, upper⟩ := mem_candidateSubnets.mp member
  have base := protocolBase_lt protocol
  exact ⟨by omega, by omega, by omega⟩

theorem nextFreeSubnet_eq_some {used : List Subnet} {subnet : Subnet}
    (found : nextFreeSubnet protocol used = some subnet) :
    subnet ∈ candidateSubnets protocol ∧ subnet ∉ used :=
  ⟨List.mem_of_find?_eq_some found, by simpa using List.find?_some found⟩

/-- /24s the allocator adds one after the other. -/
structure FreshSubnets (protocol : VpnProtocol) (taken fresh : List Subnet) :
    Prop where
  nodup : fresh.Nodup
  candidate : ∀ subnet ∈ fresh, subnet ∈ candidateSubnets protocol
  free : ∀ subnet ∈ fresh, subnet ∉ taken

theorem FreshSubnets.nil {taken : List Subnet} :
    FreshSubnets protocol taken [] :=
  ⟨List.nodup_nil, by simp, by simp⟩

theorem FreshSubnets.valid {taken fresh : List Subnet}
    (new : FreshSubnets protocol taken fresh) {subnet : Subnet}
    (member : subnet ∈ fresh) : subnet.Valid :=
  valid_of_mem_candidateSubnets (new.candidate subnet member)

theorem rangeSubnets_defaults {fresh : List Subnet}
    (valid : ∀ subnet ∈ fresh, subnet.Valid) :
    (fresh.map defaultRange).filterMap rangeSubnet = fresh := by
  induction fresh with
  | nil => rfl
  | cons head tail induction =>
      rw [List.map_cons, List.filterMap_cons_some
        (rangeSubnet_defaultRange (valid head List.mem_cons_self)),
        induction fun subnet member =>
          valid subnet (List.mem_cons_of_mem head member)]

theorem subnetsOf_append_fresh {ranges : List String}
    {taken fresh : List Subnet} (new : FreshSubnets protocol taken fresh)
    (covered : ∀ subnet ∈ subnetsOf ranges, subnet ∈ taken) :
    subnetsOf (ranges ++ fresh.map defaultRange) =
      subnetsOf ranges ++ fresh := by
  rw [subnetsOf, List.filterMap_append,
    rangeSubnets_defaults fun _ => new.valid]
  apply eraseDups_append_fresh new.nodup
  intro subnet member old
  exact new.free subnet member
    (covered subnet (List.mem_eraseDups.mpr old))

theorem FreshSubnets.cons {used : List Subnet} {ranges : List String}
    {subnet : Subnet} {fresh : List Subnet}
    (found : nextFreeSubnet protocol (used ++ subnetsOf ranges) = some subnet)
    (new : FreshSubnets protocol
      (used ++ subnetsOf (ranges ++ [defaultRange subnet])) fresh) :
    FreshSubnets protocol (used ++ subnetsOf ranges) (subnet :: fresh) := by
  obtain ⟨candidate, free⟩ := nextFreeSubnet_eq_some found
  have one : FreshSubnets protocol (used ++ subnetsOf ranges) [subnet] :=
    ⟨List.nodup_singleton subnet, by simpa using candidate, by simpa using free⟩
  have grown : subnetsOf (ranges ++ [defaultRange subnet]) =
      subnetsOf ranges ++ [subnet] :=
    subnetsOf_append_fresh one fun _ => List.mem_append_right used
  rw [grown] at new
  refine ⟨List.nodup_cons.mpr ⟨fun member => ?_, new.nodup⟩, ?_, ?_⟩
  · exact new.free subnet member (by simp)
  · exact List.forall_mem_cons.mpr ⟨candidate, new.candidate⟩
  · refine List.forall_mem_cons.mpr ⟨free, fun other member old => ?_⟩
    exact new.free other member (by
      rw [← List.append_assoc]
      exact List.mem_append_left _ old)

variable {clientCount userLimit : Nat} {used : List Subnet}

theorem expandRanges_eq_append (protocol : VpnProtocol)
    (clientCount userLimit : Nat) (used : List Subnet) (fuel : Nat)
    (ranges : List String) :
    ∃ fresh, FreshSubnets protocol (used ++ subnetsOf ranges) fresh ∧
      expandRanges protocol clientCount userLimit used fuel ranges =
        ranges ++ fresh.map defaultRange := by
  induction fuel generalizing ranges with
  | zero => exact ⟨[], .nil, by simp [expandRanges]⟩
  | succ fuel induction =>
      rw [expandRanges]
      split
      · exact ⟨[], .nil, by simp⟩
      · split
        · exact ⟨[], .nil, by simp⟩
        next subnet found =>
          obtain ⟨fresh, new, out⟩ := induction (ranges ++ [defaultRange subnet])
          refine ⟨subnet :: fresh, new.cons found, ?_⟩
          rw [out, List.map_cons, List.append_assoc]
          rfl

/-- The candidates still free. -/
def freeCandidates (protocol : VpnProtocol) (taken : List Subnet) :
    List Subnet :=
  (candidateSubnets protocol).filter (· ∉ taken)

theorem freeCandidates_lt {taken : List Subnet} {subnet : Subnet}
    (grown : List Subnet) (candidate : subnet ∈ candidateSubnets protocol)
    (free : subnet ∉ taken) (more : ∀ other, other ∈ grown ↔
      other ∈ taken ∨ other = subnet) :
    (freeCandidates protocol grown).length <
      (freeCandidates protocol taken).length := by
  have kept : freeCandidates protocol grown =
      (freeCandidates protocol taken).filter (· ≠ subnet) := by
    rw [freeCandidates, freeCandidates, List.filter_filter]
    apply List.filter_congr
    intro other _
    simp only [more, not_or, Bool.decide_and, ne_eq]
    exact Bool.and_comm _ _
  rw [kept]
  apply List.length_filter_lt_length_iff_exists.mpr
  exact ⟨subnet, List.mem_filter.mpr ⟨candidate, by simpa using free⟩, by simp⟩

/-- The fuel of the loop is never what stops it. -/
theorem expandRanges_stops (fuel : Nat) (ranges : List String)
    (enough : (freeCandidates protocol
      (used ++ subnetsOf ranges)).length < fuel) :
    let grown := expandRanges protocol clientCount userLimit used fuel ranges
    haveCapacity grown clientCount userLimit = true ∨
      nextFreeSubnet protocol (used ++ subnetsOf grown) = none := by
  induction fuel generalizing ranges with
  | zero => omega
  | succ fuel induction =>
      rw [expandRanges]
      split
      next capacity => exact .inl capacity
      next _ =>
        split
        next exhausted => exact .inr exhausted
        next subnet found =>
          apply induction
          obtain ⟨candidate, free⟩ := nextFreeSubnet_eq_some found
          have fewer := freeCandidates_lt
            (used ++ subnetsOf (ranges ++ [defaultRange subnet]))
            candidate free (by
              intro other
              simp only [List.mem_append, mem_subnetsOf, List.mem_singleton,
                or_and_right, exists_or, exists_eq_left,
                rangeSubnet_defaultRange
                  (valid_of_mem_candidateSubnets candidate),
                Option.some.injEq, or_assoc, eq_comm])
          omega

theorem length_candidateSubnets : (candidateSubnets protocol).length = 253 := by
  simp [candidateSubnets]

theorem validateRange_eq_ok {text canon : String} :
    validateRange used text = .ok canon ↔
      ∃ range, parseRange text = some range ∧ range.subnet ∉ used ∧
        canon = range.text := by
  unfold validateRange
  split
  next malformed => simp [malformed]
  next range parsed =>
    rw [parsed]
    split
    next taken => simp [taken]
    next free => simp [free, eq_comm]

/-- Ranges that were accepted: each is well formed and outside `used`. -/
theorem mapM_validateRange_eq_ok {ranges valid : List String}
    (accepted : ranges.mapM (validateRange used) = .ok valid) :
    valid.filterMap parseRange = ranges.filterMap parseRange ∧
      valid.length = ranges.length ∧
      ∀ text ∈ valid, ∃ range, parseRange text = some range ∧
        range.text = text ∧ range.subnet ∉ used := by
  induction ranges generalizing valid with
  | nil =>
      cases accepted
      simp
  | cons head tail induction =>
      rw [List.mapM_cons] at accepted
      cases first : validateRange used head with
      | error problem =>
          rw [first] at accepted
          cases accepted
      | ok canon =>
          cases rest : tail.mapM (validateRange used) with
          | error problem =>
              rw [first, rest] at accepted
              cases accepted
          | ok canons =>
              rw [first, rest] at accepted
              cases accepted
              obtain ⟨range, parsed, free, rfl⟩ := validateRange_eq_ok.mp first
              obtain ⟨same, length, good⟩ := induction rest
              refine ⟨?_, by simp [length], ?_⟩
              · rw [List.filterMap_cons_some (parseRange_text range),
                  List.filterMap_cons_some parsed, same]
              · refine List.forall_mem_cons.mpr ⟨?_, good⟩
                exact ⟨range, parseRange_text range, rfl, free⟩

/-- The ranges of a PPP inbound after normalisation are the canonical forms
`given` of the stored ones, followed by the full ranges of `fresh` /24s. -/
structure PppOutcome (protocol : VpnProtocol) (used : List Subnet)
    (ranges given : List String) (fresh : List Subnet) : Prop where
  same : given.filterMap parseRange = ranges.filterMap parseRange
  free : ∀ text ∈ given, ∃ range, parseRange text = some range ∧
    range.text = text ∧ range.subnet ∉ used
  new : FreshSubnets protocol (used ++ subnetsOf given) fresh
  nonempty : given = [] → fresh ≠ []
  seeded : ranges = [] ↔ given = []

theorem normalizePppRanges_eq_ok {ranges valid : List String}
    (accepted : normalizePppRanges protocol ranges clientCount userLimit used =
      .ok valid) :
    ∃ given fresh, valid = given ++ fresh.map defaultRange ∧
      PppOutcome protocol used ranges given fresh := by
  unfold normalizePppRanges seedRanges at accepted
  cases validated : ranges.mapM (validateRange used) with
  | error problem =>
      rw [validated] at accepted
      cases accepted
  | ok given =>
      rw [validated] at accepted
      obtain ⟨same, length, free⟩ := mapM_validateRange_eq_ok validated
      have seeded : ranges = [] ↔ given = [] := by
        rw [← List.length_eq_zero_iff, ← length, List.length_eq_zero_iff]
      by_cases none : given = []
      · subst none
        cases found : nextFreeSubnet protocol used with
        | none =>
            simp only [bind, Except.bind, if_true, found] at accepted
            cases accepted
        | some subnet =>
            simp only [bind, Except.bind, if_true, found] at accepted
            cases accepted
            obtain ⟨fresh, new, out⟩ := expandRanges_eq_append protocol
              clientCount userLimit used 254 [defaultRange subnet]
            refine ⟨[], subnet :: fresh, out, same, free, ?_, by simp, seeded⟩
            have alone : nextFreeSubnet protocol (used ++ subnetsOf []) =
                some subnet := by
              simpa [subnetsOf] using found
            exact new.cons alone
      · simp only [bind, Except.bind, if_neg none] at accepted
        cases accepted
        obtain ⟨fresh, new, out⟩ := expandRanges_eq_append protocol clientCount
          userLimit used 254 given
        exact ⟨given, fresh, out, same, free, new, fun empty =>
          absurd empty none, seeded⟩

/-- Normalised PPP ranges hold every client, unless the /16 is exhausted. -/
theorem normalizePppRanges_capacity {ranges valid : List String}
    (accepted : normalizePppRanges protocol ranges clientCount userLimit used =
      .ok valid) :
    haveCapacity valid clientCount userLimit = true ∨
      nextFreeSubnet protocol (used ++ subnetsOf valid) = none := by
  unfold normalizePppRanges at accepted
  cases seed : seedRanges protocol ranges used with
  | error problem =>
      rw [seed] at accepted
      cases accepted
  | ok start =>
      rw [seed] at accepted
      cases accepted
      apply expandRanges_stops
      have few : (freeCandidates protocol
          (used ++ subnetsOf start)).length ≤ 253 := by
        rw [← length_candidateSubnets]
        exact List.length_filter_le _ _
      omega

namespace PppOutcome

variable {ranges given : List String} {fresh : List Subnet}
  (outcome : PppOutcome protocol used ranges given fresh)

include outcome

theorem subnets : subnetsOf (given ++ fresh.map defaultRange) =
    subnetsOf given ++ fresh :=
  subnetsOf_append_fresh outcome.new fun _ => List.mem_append_right used

theorem unused {subnet : Subnet}
    (member : subnet ∈ subnetsOf (given ++ fresh.map defaultRange)) :
    subnet ∉ used := by
  rw [outcome.subnets, List.mem_append] at member
  rcases member with old | new
  · obtain ⟨text, listed, found⟩ := mem_subnetsOf.mp old
    obtain ⟨range, parsed, -, free⟩ := outcome.free text listed
    rw [rangeSubnet, parsed] at found
    obtain rfl := Option.some.inj found
    exact free
  · exact fun taken => outcome.new.free subnet new
      (List.mem_append_left _ taken)

theorem ne_nil : given ++ fresh.map defaultRange ≠ [] := by
  intro empty
  obtain ⟨none, noFresh⟩ := List.append_eq_nil_iff.mp empty
  exact outcome.nonempty none (List.map_eq_nil_iff.mp noFresh)

end PppOutcome

end Candidates

/-- A power-of-two run of third octets that starts at a multiple of its
length. -/
structure AlignedBlock where
  start : Nat
  exponent : Nat
  aligned : 2 ^ exponent ∣ start
  fits : start + 2 ^ exponent ≤ 255

namespace AlignedBlock

def thirds (block : AlignedBlock) : List Nat :=
  List.range' block.start (2 ^ block.exponent)

def subnets (block : AlignedBlock) (base : Nat) : List Subnet :=
  block.thirds.map fun third => ⟨10, base, third⟩

def ranges (block : AlignedBlock) (base : Nat) : List String :=
  (block.subnets base).map ovpnRangeForSubnet

theorem mem_subnets {block : AlignedBlock} {base : Nat} {subnet : Subnet} :
    subnet ∈ block.subnets base ↔
      subnet.first = 10 ∧ subnet.second = base ∧
        block.start ≤ subnet.third ∧
        subnet.third < block.start + 2 ^ block.exponent := by
  obtain ⟨first, second, third⟩ := subnet
  simp only [subnets, thirds, List.mem_map, List.mem_range'_1,
    Subnet.mk.injEq]
  constructor
  · rintro ⟨other, ⟨lower, upper⟩, rfl, rfl, rfl⟩
    exact ⟨rfl, rfl, lower, upper⟩
  · rintro ⟨rfl, rfl, lower, upper⟩
    exact ⟨third, ⟨lower, upper⟩, rfl, rfl, rfl⟩

theorem valid_of_mem {block : AlignedBlock} {base : Nat}
    (bounded : base < 256) {subnet : Subnet}
    (member : subnet ∈ block.subnets base) : subnet.Valid := by
  obtain ⟨first, second, -, upper⟩ := mem_subnets.mp member
  have fits := block.fits
  exact ⟨by omega, by omega, by omega⟩

theorem nodup_subnets (block : AlignedBlock) (base : Nat) :
    (block.subnets base).Nodup := by
  apply List.Nodup.map
  · intro left right same
    simpa using same
  · exact List.nodup_range'

theorem subnets_ne_nil (block : AlignedBlock) (base : Nat) :
    block.subnets base ≠ [] := by
  simp [subnets, thirds]

theorem subnetsOf_ranges (block : AlignedBlock) {base : Nat}
    (bounded : base < 256) :
    subnetsOf (block.ranges base) = block.subnets base := by
  rw [subnetsOf, ranges, ovpnRangeForSubnet_eq_defaultRange,
    rangeSubnets_defaults fun _ => valid_of_mem bounded]
  exact eraseDups_of_nodup (block.nodup_subnets base)

end AlignedBlock

theorem blockSpan_eq_pow (per needed fuel exponent : Nat) :
    ∃ larger, blockSpan per needed fuel (2 ^ exponent) = 2 ^ larger := by
  induction fuel generalizing exponent with
  | zero => exact ⟨exponent, rfl⟩
  | succ fuel induction =>
      rw [blockSpan]
      split
      · exact induction (exponent + 1)
      · exact ⟨exponent, rfl⟩

theorem blockFree_eq_true {num24 base : Nat} {mirrorBase : Option Nat}
    {used : List Subnet} {start : Nat} :
    blockFree num24 base mirrorBase used start = true ↔
      start + num24 - 1 ≤ 254 ∧ ∀ third ∈ List.range' start num24,
        (⟨10, base, third⟩ : Subnet) ∉ used ∧
          ∀ mirror ∈ mirrorBase, (⟨10, mirror, third⟩ : Subnet) ∉ used := by
  rw [blockFree, decide_eq_true_iff]

theorem allocateAlignedBlock_eq_some {id : Int} {num24 base : Nat}
    {mirrorBase : Option Nat} {used : List Subnet} {start : Nat}
    (found : allocateAlignedBlock id num24 base mirrorBase used = some start) :
    num24 ∣ start ∧ blockFree num24 base mirrorBase used start = true := by
  unfold allocateAlignedBlock at found
  simp only at found
  split at found
  next own =>
    obtain rfl := Option.some.inj found
    refine ⟨?_, own.2⟩
    have divides : (num24 : Int) ∣ (id.tdiv num24 * num24).toNat := by
      rw [Int.toNat_of_nonneg own.1]
      exact Int.dvd_mul_left _ _
    exact Int.natCast_dvd_natCast.mp divides
  next _ =>
    refine ⟨?_, List.find?_some found⟩
    have listed := List.mem_of_find?_eq_some found
    obtain ⟨index, -, rfl⟩ := List.mem_map.mp listed
    exact Nat.dvd_mul_left num24 index

/-- A normalised OpenVPN or OpenConnect inbound has the ranges of an aligned
block, free in its own /16 and in the mirrored one. -/
theorem normalizeBlockRanges_eq_ok {id : Int}
    {clientCount userLimit base : Nat} {mirrorBase : Option Nat}
    {used : List Subnet} {valid : List String}
    (accepted : normalizeBlockRanges id clientCount userLimit base mirrorBase
      used = .ok valid) :
    ∃ block : AlignedBlock, valid = block.ranges base ∧
      (∀ subnet ∈ block.subnets base, subnet ∉ used) ∧
      ∀ mirror ∈ mirrorBase, ∀ subnet ∈ block.subnets mirror,
        subnet ∉ used := by
  unfold normalizeBlockRanges at accepted
  simp only at accepted
  split at accepted
  next => cases accepted
  next start found =>
    obtain ⟨divides, free⟩ := allocateAlignedBlock_eq_some found
    obtain ⟨exponent, span⟩ := blockSpan_eq_pow (accountsPerSubnet userLimit)
      (max clientCount 1) (max clientCount 1) 0
    have capped : min (2 ^ exponent) 64 = 2 ^ min exponent 6 := by
      have sixth : 64 = 2 ^ 6 := rfl
      rw [sixth]
      rcases Nat.le_total exponent 6 with small | large
      · rw [Nat.min_eq_left small, Nat.min_eq_left]
        exact Nat.pow_le_pow_right (Nat.succ_pos 1) small
      · rw [Nat.min_eq_right large, Nat.min_eq_right]
        exact Nat.pow_le_pow_right (Nat.succ_pos 1) large
    rw [Nat.pow_zero] at span
    rw [span, capped] at accepted divides free
    obtain ⟨fits, unused⟩ := blockFree_eq_true.mp free
    have positive : 0 < 2 ^ min exponent 6 := Nat.two_pow_pos _
    refine ⟨⟨start, min exponent 6, divides, by omega⟩,
      ?_, ?_, ?_⟩
    · rw [← Except.ok.inj accepted, AlignedBlock.ranges, AlignedBlock.subnets,
        List.map_map]
      rfl
    · intro subnet member
      obtain ⟨third, inside, rfl⟩ := List.mem_map.mp member
      exact (unused third inside).1
    · intro mirror paired subnet member
      obtain ⟨third, inside, rfl⟩ := List.mem_map.mp member
      exact (unused third inside).2 mirror paired

end VpnUi.Address
