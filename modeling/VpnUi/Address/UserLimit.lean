import VpnUi.Address.Range

namespace VpnUi.Address

/-! The User Limit of an inbound and the blocks of device addresses it carves
out of the inbound's /24s. -/

def maxUserLimit : Nat := 64

def noLimitDevices : Nat := 16

/-- Only for a value that is present: an absent User Limit is 1. -/
def normUserLimit (limit : Int) : Nat :=
  if limit = 0 then noLimitDevices
  else if limit < 1 then 1
  else if maxUserLimit < limit then maxUserLimit
  else limit.toNat

def effectiveUserLimit : Option Int → Nat
  | none => 1
  | some limit => normUserLimit limit

def accountsPerSubnet (limit : Nat) : Nat :=
  let limit := normUserLimit limit
  if limit = 1 then 253 else 255 / limit - 1

def vpnAccountsCapacity (subnets : List Subnet) (limit : Nat) : Nat :=
  subnets.length * accountsPerSubnet limit

/-- The /24 and the first host octet of the block of an account. -/
def vpnAccountBlock (subnets : List Subnet) (index limit : Nat) :
    Option (Subnet × Nat) :=
  let limit := normUserLimit limit
  let per := accountsPerSubnet limit
  if per = 0 then none
  else
    (subnets[index / per]?).map fun subnet =>
      (subnet, (index % per + 1) * limit)

def vpnAccountDeviceIPs (subnets : List Subnet) (index limit : Nat) :
    List Ipv4 :=
  let limit := normUserLimit limit
  match vpnAccountBlock subnets index limit with
  | none => []
  | some (subnet, hostBase) =>
      (List.range limit).map fun device => subnet.withHost (hostBase + device)

/-- A device-block size, as the panel computes them. -/
def BlockSize (limit : Nat) : Prop := 1 ≤ limit ∧ limit ≤ maxUserLimit

theorem blockSize_normUserLimit (limit : Int) :
    BlockSize (normUserLimit limit) := by
  unfold BlockSize normUserLimit noLimitDevices maxUserLimit
  split
  · omega
  · split
    · omega
    · split <;> omega

theorem blockSize_effectiveUserLimit (limit : Option Int) :
    BlockSize (effectiveUserLimit limit) := by
  cases limit with
  | none => exact ⟨Nat.le_refl 1, by decide⟩
  | some limit => exact blockSize_normUserLimit limit

theorem normUserLimit_of_blockSize {limit : Nat} (size : BlockSize limit) :
    normUserLimit limit = limit := by
  obtain ⟨lower, upper⟩ := size
  unfold maxUserLimit at upper
  unfold normUserLimit maxUserLimit
  rw [if_neg (by omega), if_neg (by omega), if_neg (by omega)]
  exact Int.toNat_natCast limit

theorem accountsPerSubnet_one : accountsPerSubnet 1 = 253 := rfl

theorem accountsPerSubnet_of_blockSize {limit : Nat} (size : BlockSize limit)
    (several : 2 ≤ limit) : accountsPerSubnet limit = 255 / limit - 1 := by
  unfold accountsPerSubnet
  simp only [normUserLimit_of_blockSize size]
  rw [if_neg (by omega)]

theorem accountsPerSubnet_pos {limit : Nat} (size : BlockSize limit) :
    0 < accountsPerSubnet limit := by
  have all : ∀ limit < 65, 1 ≤ limit → 0 < accountsPerSubnet limit := by
    decide +kernel
  exact all limit (Nat.lt_succ_of_le size.2) size.1

/-- Every block lies between the gateway and the broadcast address. -/
theorem block_fits {limit position : Nat} (size : BlockSize limit)
    (several : 2 ≤ limit) (inside : position < accountsPerSubnet limit) :
    (position + 1) * limit + limit ≤ 255 := by
  rw [accountsPerSubnet_of_blockSize size several] at inside
  have filled : (position + 2) * limit ≤ 255 := by
    rw [← Nat.le_div_iff_mul_le (by omega)]
    omega
  calc (position + 1) * limit + limit = (position + 2) * limit :=
        (Nat.succ_mul (position + 1) limit).symm
    _ ≤ 255 := filled

/-- What the device addresses of an account are. -/
theorem getElem?_vpnAccountDeviceIPs {subnets : List Subnet}
    {index limit device : Nat} (size : BlockSize limit) {ip : Ipv4} :
    (vpnAccountDeviceIPs subnets index limit)[device]? = some ip ↔
      device < limit ∧ subnets[index / accountsPerSubnet limit]? =
          some ip.subnet ∧
        ip.host = (index % accountsPerSubnet limit + 1) * limit + device := by
  have per := accountsPerSubnet_pos size
  simp only [vpnAccountDeviceIPs, vpnAccountBlock,
    normUserLimit_of_blockSize size, if_neg (Nat.ne_of_gt per)]
  cases found : subnets[index / accountsPerSubnet limit]? with
  | none => simp
  | some subnet =>
      simp only [Option.map_some, List.getElem?_map, Option.map_eq_some_iff,
        Option.some.injEq]
      constructor
      · rintro ⟨position, within, rfl⟩
        by_cases bound : device < limit
        · rw [List.getElem?_range bound] at within
          obtain rfl := Option.some.inj within
          exact ⟨bound, rfl, rfl⟩
        · rw [List.getElem?_eq_none (by simpa using bound)] at within
          cases within
      · rintro ⟨bound, rfl, host⟩
        refine ⟨device, List.getElem?_range bound, ?_⟩
        rw [← host]
        rfl

theorem mem_vpnAccountDeviceIPs {subnets : List Subnet} {index limit : Nat}
    (size : BlockSize limit) {ip : Ipv4} :
    ip ∈ vpnAccountDeviceIPs subnets index limit ↔
      ∃ device < limit, subnets[index / accountsPerSubnet limit]? =
          some ip.subnet ∧
        ip.host = (index % accountsPerSubnet limit + 1) * limit + device := by
  simp only [List.mem_iff_getElem?, getElem?_vpnAccountDeviceIPs size]

end VpnUi.Address
