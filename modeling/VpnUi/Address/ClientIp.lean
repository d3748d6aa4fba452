import Mathlib.Data.List.Sort
import VpnUi.Address.UserLimit
import VpnUi.Address.Normalize

namespace VpnUi.Address

open Panel

/-! The tunnel addresses of the clients: the walk over PPP ranges, and the
aligned block of an OpenVPN or OpenConnect server. -/

namespace Ipv4

def toU32 (ip : Ipv4) : Nat :=
  ip.subnet.first * 2 ^ 24 + ip.subnet.second * 2 ^ 16 +
    ip.subnet.third * 2 ^ 8 + ip.host

def ofU32 (number : Nat) : Ipv4 :=
  ⟨⟨number / 2 ^ 24 % 256, number / 2 ^ 16 % 256, number / 2 ^ 8 % 256⟩,
    number % 256⟩

end Ipv4

/-- The first range whose cumulative capacity exceeds the index. -/
def walkRanges : List String → Nat → Option Ipv4
  | [], _ => none
  | text :: rest, remaining =>
      match parseRange text with
      | none => walkRanges rest remaining
      | some range =>
          if remaining < range.capacity then
            some (range.subnet.withHost (range.first + remaining))
          else walkRanges rest (remaining - range.capacity)

def computeVpnClientIP (ranges : List String) (inboundId : Int)
    (clientIndex : Nat) (backend : VpnProtocol) : Option Ipv4 :=
  if ranges = [] then
    walkRanges [idRange backend.protocolBase inboundId] clientIndex
  else walkRanges ranges clientIndex

/-- The /24 "10.base.id"; a negative id has none of its own. -/
def idSubnet (base : Nat) (id : Int) : Subnet := ⟨10, base, id.toNat⟩

def pppSubnetsOrDefault (ranges : List String) (backend : VpnProtocol)
    (id : Int) : List Subnet :=
  match subnetsOf ranges with
  | [] => [idSubnet backend.protocolBase id]
  | subnets => subnets

inductive Transport
  | udp
  | tcp
  deriving DecidableEq

def Transport.base : Transport → Nat
  | udp => 2
  | tcp => 3

def ovpnSubnetsOrDefault (ranges : List String) (transport : Transport)
    (id : Int) : List Subnet :=
  match subnetsOf ranges, transport with
  | [], transport => [idSubnet transport.base id]
  | subnets, .udp => subnets
  | subnets, .tcp => subnets.map mirrorOvpnSubnet

/-- The sorted third octets of the ranges. -/
def ovpnThirds (ranges : List String) : List Nat :=
  ((subnetsOf ranges).map Subnet.third).eraseDups.insertionSort (· ≤ ·)

/-- The doubling of `size` up to the number of /24s. -/
def roundUp (count : Nat) : Nat → Nat → Nat
  | 0, size => size
  | fuel + 1, size =>
      if size < count then roundUp count fuel (2 * size) else size

/-- A network address and the number of its /24s, a power of two. -/
structure Block where
  network : Ipv4
  span : Nat
  deriving DecidableEq

def vpnBlock (ranges : List String) (base : Nat) (fallbackId : Int) : Block :=
  match ovpnThirds ranges with
  | [] => ⟨⟨⟨10, base, (fallbackId % 256).toNat⟩, 0⟩, 1⟩
  | third :: thirds =>
      let span := roundUp (thirds.length + 1) (thirds.length + 1) 1
      ⟨⟨⟨10, base, third / span * span⟩, 0⟩, span⟩

def ovpnBlock (ranges : List String) (transport : Transport)
    (fallbackId : Int) : Block :=
  vpnBlock ranges transport.base fallbackId

namespace Block

/-- The number of addresses, 1 << (32 - prefix). -/
def size (block : Block) : Nat := block.span * 256

def address (block : Block) (host : Nat) : Ipv4 :=
  Ipv4.ofU32 (block.network.toU32 + host)

/-- The address the server of the block takes. -/
def gateway (block : Block) : Ipv4 := block.address 1

def broadcast (block : Block) : Ipv4 := block.address (block.size - 1)

end Block

/-- Host numbers are 32-bit. -/
def ovpnBlockClientIP (block : Block) (index : Nat) : Option Ipv4 :=
  let host := (2 + index) % 2 ^ 32
  if block.size - 1 ≤ host then none else some (block.address host)

/-- The addresses of the ranges, range by range. -/
def rangeAddresses (ranges : List String) : List Ipv4 :=
  (ranges.filterMap parseRange).flatMap IpRange.addresses

theorem IpRange.length_addresses (range : IpRange) :
    range.addresses.length = range.capacity := by
  simp [IpRange.addresses]

theorem IpRange.getElem?_addresses (range : IpRange) {index : Nat}
    (inside : index < range.capacity) :
    range.addresses[index]? =
      some (range.subnet.withHost (range.first + index)) := by
  simp [IpRange.addresses, inside]

theorem IpRange.mem_addresses {range : IpRange} {ip : Ipv4} :
    ip ∈ range.addresses ↔ ip.subnet = range.subnet ∧
      range.first ≤ ip.host ∧ ip.host ≤ range.last := by
  have ordered := range.ordered
  simp only [IpRange.addresses, IpRange.capacity, List.mem_map,
    List.mem_range]
  constructor
  · rintro ⟨index, inside, rfl⟩
    simp only [Subnet.withHost_subnet, Subnet.withHost_host, true_and]
    omega
  · rintro ⟨same, lower, upper⟩
    refine ⟨ip.host - range.first, by omega, ?_⟩
    rw [← same, Nat.add_sub_cancel' lower]
    rfl

theorem IpRange.nodup_addresses (range : IpRange) :
    range.addresses.Nodup := by
  apply List.Nodup.map
  · intro left right same
    simpa using same
  · exact List.nodup_range

/-- The walk indexes the addresses of all the ranges. -/
theorem walkRanges_eq_getElem? (ranges : List String) (index : Nat) :
    walkRanges ranges index = (rangeAddresses ranges)[index]? := by
  induction ranges generalizing index with
  | nil => rfl
  | cons text rest induction =>
      cases parsed : parseRange text with
      | none =>
          simp only [walkRanges, rangeAddresses, List.filterMap_cons, parsed]
          exact induction index
      | some range =>
          simp only [walkRanges, rangeAddresses, List.filterMap_cons, parsed,
            List.flatMap_cons, List.getElem?_append, range.length_addresses]
          split
          next inside => exact (range.getElem?_addresses inside).symm
          next beyond => exact induction (index - range.capacity)

theorem computeVpnClientIP_of_ne_nil {ranges : List String}
    (stored : ranges ≠ []) (inboundId : Int) (index : Nat)
    (backend : VpnProtocol) :
    computeVpnClientIP ranges inboundId index backend =
      (rangeAddresses ranges)[index]? := by
  rw [computeVpnClientIP, if_neg stored, walkRanges_eq_getElem?]

end VpnUi.Address
