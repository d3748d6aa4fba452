import VpnUi.Address.Windows

namespace VpnUi.Address

open Foundation

/-! The network of an aligned block, and the client addresses in it. -/

theorem roundUp_pow {exponent reached fuel : Nat} (small : reached ≤ exponent)
    (enough : exponent ≤ fuel + reached) :
    roundUp (2 ^ exponent) fuel (2 ^ reached) = 2 ^ exponent := by
  induction fuel generalizing reached with
  | zero =>
      have same : reached = exponent := by omega
      rw [roundUp, same]
  | succ fuel induction =>
      rw [roundUp]
      split
      next below =>
        have strict : reached < exponent :=
          (Nat.pow_lt_pow_iff_right (Nat.lt_succ_self 1)).mp below
        rw [Nat.mul_comm, ← Nat.pow_succ]
        exact induction strict (by omega)
      next reachedAll =>
        have same : reached = exponent := by
          by_contra differs
          exact reachedAll (Nat.pow_lt_pow_right (Nat.lt_succ_self 1)
            (by omega))
        rw [same]

namespace AlignedBlock

variable (block : AlignedBlock)

/-- The network the code computes from the ranges of the block. -/
def networkIn (base : Nat) : Block :=
  ⟨⟨⟨10, base, block.start⟩, 0⟩, 2 ^ block.exponent⟩

theorem ovpnThirds_ranges {base : Nat} (bounded : base < 256) :
    ovpnThirds (block.ranges base) = block.thirds := by
  have thirds : (block.subnets base).map Subnet.third = block.thirds := by
    rw [subnets, List.map_map]
    exact List.map_id _
  have distinct : block.thirds.Nodup := List.nodup_range'
  rw [ovpnThirds, block.subnetsOf_ranges bounded, thirds,
    eraseDups_of_nodup distinct]
  apply List.Pairwise.insertionSort_eq
  exact List.pairwise_le_range' _

theorem vpnBlock_ranges {base other : Nat} (bounded : base < 256) (id : Int) :
    vpnBlock (block.ranges base) other id = block.networkIn other := by
  have positive : 0 < 2 ^ block.exponent := Nat.two_pow_pos _
  have length : 2 ^ block.exponent - 1 + 1 = 2 ^ block.exponent := by omega
  have rounded : roundUp (2 ^ block.exponent) (2 ^ block.exponent) (2 ^ 0) =
      2 ^ block.exponent :=
    roundUp_pow (Nat.zero_le _)
      (Nat.le_of_lt (Nat.lt_of_lt_of_le Nat.lt_two_pow_self
        (Nat.le_add_right _ _)))
  have thirds : ovpnThirds (block.ranges base) =
      block.start :: List.range' (block.start + 1) (2 ^ block.exponent - 1) := by
    rw [block.ovpnThirds_ranges bounded, AlignedBlock.thirds, ← length,
      List.range'_succ]
    rfl
  rw [vpnBlock, thirds]
  simp only [List.length_range', length]
  rw [Nat.pow_zero] at rounded
  rw [rounded, Nat.div_mul_cancel block.aligned]
  rfl

/-- A host number of the block is an address of one of its /24s. -/
theorem address_networkIn {base host : Nat} (bounded : base < 256)
    (inside : host < 2 ^ block.exponent * 256) :
    (block.networkIn base).address host =
      ⟨⟨10, base, block.start + host / 256⟩, host % 256⟩ := by
  have fits := block.fits
  have below : block.start * 256 + host < 65536 := by omega
  simp only [networkIn, Block.address, Ipv4.toU32, Ipv4.ofU32, Ipv4.mk.injEq,
    Subnet.mk.injEq]
  refine ⟨⟨?_, ?_, ?_⟩, ?_⟩ <;> omega

theorem ovpnBlockClientIP_networkIn {base index : Nat} {ip : Ipv4}
    (bounded : base < 256) (small : 2 + index < 2 ^ 32) :
    ovpnBlockClientIP (block.networkIn base) index = some ip ↔
      2 + index < 2 ^ block.exponent * 256 - 1 ∧
        ip = ⟨⟨10, base, block.start + (2 + index) / 256⟩,
          (2 + index) % 256⟩ := by
  have size : (block.networkIn base).size = 2 ^ block.exponent * 256 := rfl
  simp only [ovpnBlockClientIP, Nat.mod_eq_of_lt small, size]
  split
  next beyond =>
    simp only [reduceCtorEq, false_iff, not_and]
    intro inside
    omega
  next inside =>
    rw [block.address_networkIn bounded (by omega)]
    simp only [Option.some.injEq]
    constructor
    · rintro rfl
      exact ⟨by omega, rfl⟩
    · rintro ⟨-, rfl⟩
      rfl

end AlignedBlock

end VpnUi.Address
