import VpnUi.Address.ClientIp
import VpnUi.Address.NormalizeSpec

namespace VpnUi.Address

/-! When the first addresses of a list of ranges can be given to clients. -/

namespace IpRange

/-- The first `count` addresses of a range, at least one. -/
def cut (range : IpRange) (count : Nat) : IpRange where
  subnet := range.subnet
  first := range.first
  last := min range.last (range.first + (count - 1))
  valid := range.valid
  ordered := Nat.le_min.mpr ⟨range.ordered, Nat.le_add_right _ _⟩
  bounded := Nat.lt_of_le_of_lt (Nat.min_le_left _ _) range.bounded

/-- The ranges that hold the first `count` addresses, cut to them. -/
def cutAll : Nat → List IpRange → List IpRange
  | 0, _ => []
  | _, [] => []
  | count + 1, range :: rest =>
      range.cut (count + 1) :: cutAll (count + 1 - range.capacity) rest

/-- No common address. -/
def Apart (left right : IpRange) : Prop :=
  left.subnet = right.subnet → left.last < right.first ∨ right.last < left.first

instance (left right : IpRange) : Decidable (left.Apart right) :=
  inferInstanceAs (Decidable (_ → _ ∨ _))

theorem addresses_cut (range : IpRange) {count : Nat}
    (positive : 0 < count) :
    (range.cut count).addresses = range.addresses.take count := by
  have ordered := range.ordered
  have capacity : (range.cut count).capacity = min count range.capacity := by
    simp only [IpRange.capacity, cut]
    omega
  rw [IpRange.addresses, IpRange.addresses, capacity, ← List.map_take,
    List.take_range]
  rfl

/-- Cutting the ranges is taking the first addresses. -/
theorem addresses_cutAll (count : Nat) (ranges : List IpRange) :
    (cutAll count ranges).flatMap addresses =
      (ranges.flatMap addresses).take count := by
  induction ranges generalizing count with
  | nil => cases count <;> rfl
  | cons range rest induction =>
      cases count with
      | zero => simp [cutAll]
      | succ count =>
          rw [cutAll, List.flatMap_cons, List.flatMap_cons, List.take_append,
            range.length_addresses, induction,
            addresses_cut range (Nat.succ_pos count)]

theorem disjoint_addresses {left right : IpRange} :
    List.Disjoint left.addresses right.addresses ↔ left.Apart right := by
  have leftOrdered := left.ordered
  have rightOrdered := right.ordered
  constructor
  · intro disjoint same
    by_contra overlap
    rw [not_or, Nat.not_lt, Nat.not_lt] at overlap
    have inLeft : left.subnet.withHost (max left.first right.first) ∈
        left.addresses :=
      mem_addresses.mpr ⟨rfl, Nat.le_max_left _ _, Nat.max_le.mpr
        ⟨leftOrdered, overlap.1⟩⟩
    have inRight : left.subnet.withHost (max left.first right.first) ∈
        right.addresses :=
      mem_addresses.mpr ⟨same, Nat.le_max_right _ _, Nat.max_le.mpr
        ⟨overlap.2, rightOrdered⟩⟩
    exact disjoint inLeft inRight
  · intro apart ip inLeft inRight
    obtain ⟨leftSubnet, leftLower, leftUpper⟩ := mem_addresses.mp inLeft
    obtain ⟨rightSubnet, rightLower, rightUpper⟩ := mem_addresses.mp inRight
    rcases apart (leftSubnet.symm.trans rightSubnet) with below | above
    · omega
    · omega

theorem nodup_flatMap_addresses {ranges : List IpRange} :
    (ranges.flatMap addresses).Nodup ↔ ranges.Pairwise Apart := by
  rw [List.nodup_flatMap]
  constructor
  · rintro ⟨-, apart⟩
    exact apart.imp fun disjoint => disjoint_addresses.mp disjoint
  · intro apart
    exact ⟨fun range _ => range.nodup_addresses,
      apart.imp fun away => disjoint_addresses.mpr away⟩

/-- A window of addresses that a host of its /24 may have, the .1 of the
gateway's /24 excepted. -/
def HostWindow (gateway : Option Subnet) (range : IpRange) : Prop :=
  0 < range.first ∧ range.last < 255 ∧
    (gateway = some range.subnet → 1 < range.first)

instance (gateway : Option Subnet) (range : IpRange) :
    Decidable (range.HostWindow gateway) :=
  inferInstanceAs (Decidable (_ ∧ _ ∧ (_ → _)))

end IpRange

/-- An address for a client: not the network's, not the broadcast, not the
gateway's. -/
def ClientAddress (gateway : Option Subnet) (ip : Ipv4) : Prop :=
  ip.host ≠ 0 ∧ ip.host ≠ 255 ∧ (gateway = some ip.subnet → ip.host ≠ 1)

theorem IpRange.forall_clientAddress {gateway : Option Subnet}
    {range : IpRange} :
    (∀ ip ∈ range.addresses, ClientAddress gateway ip) ↔
      range.HostWindow gateway := by
  have ordered := range.ordered
  have bounded := range.bounded
  constructor
  · intro usable
    have opens := usable (range.subnet.withHost range.first)
      (mem_addresses.mpr ⟨rfl, Nat.le_refl _, ordered⟩)
    have closes := usable (range.subnet.withHost range.last)
      (mem_addresses.mpr ⟨rfl, ordered, Nat.le_refl _⟩)
    have above := opens.1
    have below := closes.2.1
    simp only [Subnet.withHost_host] at above below
    refine ⟨by omega, by omega, fun same => ?_⟩
    have notGateway := opens.2.2 same
    simp only [Subnet.withHost_host] at notGateway
    omega
  · rintro ⟨above, below, notGateway⟩ ip member
    obtain ⟨same, lower, upper⟩ := mem_addresses.mp member
    refine ⟨by omega, by omega, fun isGateway => ?_⟩
    have later := notGateway (same ▸ isGateway)
    omega

/-- Distinct client addresses. -/
def Assignable (gateway : Option Subnet) (addresses : List Ipv4) : Prop :=
  addresses.Nodup ∧ ∀ ip ∈ addresses, ClientAddress gateway ip

/-- Windows that do not overlap and hold client addresses only. -/
def HostWindows (gateway : Option Subnet) (ranges : List IpRange) : Prop :=
  ranges.Pairwise IpRange.Apart ∧ ∀ range ∈ ranges, range.HostWindow gateway

instance (gateway : Option Subnet) (ranges : List IpRange) :
    Decidable (HostWindows gateway ranges) :=
  inferInstanceAs (Decidable (_ ∧ _))

theorem assignable_flatMap_iff {gateway : Option Subnet}
    {ranges : List IpRange} :
    Assignable gateway (ranges.flatMap IpRange.addresses) ↔
      HostWindows gateway ranges := by
  refine and_congr IpRange.nodup_flatMap_addresses ?_
  simp only [List.mem_flatMap]
  constructor
  · intro usable range member
    exact IpRange.forall_clientAddress.mp fun ip inside =>
      usable ip ⟨range, member, inside⟩
  · rintro usable ip ⟨range, member, inside⟩
    exact IpRange.forall_clientAddress.mpr (usable range member) ip inside

/-- Assignable addresses stay so when addresses of other /24s follow. -/
theorem Assignable.append_iff {gateway : Option Subnet}
    {first second : List Ipv4} (good : Assignable gateway second)
    (apart : ∀ ip ∈ second, ∀ other ∈ first, other.subnet ≠ ip.subnet) :
    Assignable gateway (first ++ second) ↔ Assignable gateway first := by
  constructor
  · rintro ⟨nodup, usable⟩
    exact ⟨nodup.of_append_left, fun ip member =>
      usable ip (List.mem_append_left second member)⟩
  · rintro ⟨nodup, usable⟩
    refine ⟨nodup.append good.1 fun ip inFirst inSecond =>
      apart ip inSecond ip inFirst rfl, fun ip member => ?_⟩
    rcases List.mem_append.mp member with old | new
    · exact usable ip old
    · exact good.2 ip new

theorem Assignable.take {gateway : Option Subnet} {addresses : List Ipv4}
    (good : Assignable gateway addresses) (count : Nat) :
    Assignable gateway (addresses.take count) :=
  ⟨good.1.sublist (List.take_sublist count addresses), fun ip member =>
    good.2 ip (List.mem_of_mem_take member)⟩

/-- The first `count` addresses are assignable when the positions below
`count` hold distinct client addresses. -/
theorem assignable_take_iff {gateway : Option Subnet} {addresses : List Ipv4}
    {count : Nat} :
    Assignable gateway (addresses.take count) ↔
      (∀ left < count, ∀ right < count, ∀ ip, addresses[left]? = some ip →
        addresses[right]? = some ip → left = right) ∧
      ∀ index < count, ∀ ip, addresses[index]? = some ip →
        ClientAddress gateway ip := by
  have taken : ∀ {index : Nat} {ip : Ipv4},
      (addresses.take count)[index]? = some ip ↔
        index < count ∧ addresses[index]? = some ip := by
    intro index ip
    rw [List.getElem?_take]
    split <;> simp_all
  have members : (∀ ip ∈ addresses.take count, ClientAddress gateway ip) ↔
      ∀ index < count, ∀ ip, addresses[index]? = some ip →
        ClientAddress gateway ip := by
    simp only [List.mem_iff_getElem?, taken]
    exact ⟨fun usable index below ip at_ => usable ip ⟨index, below, at_⟩,
      fun usable ip ⟨index, below, at_⟩ => usable index below ip at_⟩
  refine and_congr ?_ members
  rw [List.nodup_iff_getElem?_ne_getElem?]
  constructor
  · intro distinct left leftBelow right rightBelow ip leftAt rightAt
    have leftTaken := taken.mpr ⟨leftBelow, leftAt⟩
    have rightTaken := taken.mpr ⟨rightBelow, rightAt⟩
    rcases Nat.lt_trichotomy left right with below | same | above
    · exact absurd (leftTaken.trans rightTaken.symm) (distinct left right below
        (List.getElem?_eq_some_iff.mp rightTaken).1)
    · exact same
    · exact absurd (rightTaken.trans leftTaken.symm) (distinct right left above
        (List.getElem?_eq_some_iff.mp leftTaken).1)
  · intro injective left right below inside same
    have rightTaken := List.getElem?_eq_getElem inside
    have leftTaken := same.trans rightTaken
    obtain ⟨leftBelow, leftAt⟩ := taken.mp leftTaken
    obtain ⟨rightBelow, rightAt⟩ := taken.mp rightTaken
    have equal := injective left leftBelow right rightBelow _ leftAt rightAt
    omega

/-- The full windows of distinct /24s are assignable. -/
theorem assignable_defaults {gateway : Option Subnet} {fresh : List Subnet}
    (nodup : fresh.Nodup) (valid : ∀ subnet ∈ fresh, subnet.Valid) :
    Assignable gateway (rangeAddresses (fresh.map defaultRange)) ∧
      ∀ ip ∈ rangeAddresses (fresh.map defaultRange), ip.subnet ∈ fresh := by
  have parsed : ∀ text ∈ fresh.map defaultRange, ∀ range,
      parseRange text = some range →
        range.subnet ∈ fresh ∧ range.first = 2 ∧ range.last = 254 := by
    intro text member range found
    obtain ⟨subnet, listed, rfl⟩ := List.mem_map.mp member
    rw [parseRange_defaultRange (valid subnet listed)] at found
    obtain rfl := Option.some.inj found
    exact ⟨listed, rfl, rfl⟩
  have listed : ∀ range ∈ (fresh.map defaultRange).filterMap parseRange,
      range.subnet ∈ fresh ∧ range.first = 2 ∧ range.last = 254 := by
    intro range member
    obtain ⟨text, inside, found⟩ := List.mem_filterMap.mp member
    exact parsed text inside range found
  refine ⟨assignable_flatMap_iff.mpr ⟨?_, ?_⟩, ?_⟩
  · have subnets : ((fresh.map defaultRange).filterMap parseRange).map
        IpRange.subnet = (fresh.map defaultRange).filterMap rangeSubnet := by
      rw [List.map_filterMap]
      rfl
    have distinct : (((fresh.map defaultRange).filterMap parseRange).map
        IpRange.subnet).Nodup := by
      rw [subnets, rangeSubnets_defaults valid]
      exact nodup
    exact (List.pairwise_map.mp distinct).imp fun differ same =>
      absurd same differ
  · intro range member
    obtain ⟨-, first, last⟩ := listed range member
    exact ⟨by omega, by omega, fun _ => by omega⟩
  · intro ip member
    obtain ⟨range, inside, address⟩ := List.mem_flatMap.mp member
    rw [(IpRange.mem_addresses.mp address).1]
    exact (listed range inside).1

end VpnUi.Address
