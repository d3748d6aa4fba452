import VpnUi.Address.NormalizeSpec
import VpnUi.Panel.VpnRange

namespace VpnUi.Panel

open Foundation Address

/-! What the normaliser stores: canonical ranges that read back as written, on
/24s no other inbound occupies. -/

def Canonical (ranges : List String) : Prop :=
  ∀ text ∈ ranges, ∃ range : IpRange, range.text = text

theorem trimText_range (range : IpRange) : trimText range.text = range.text := by
  rw [trimText, range.trimSpace_text, String.ofList_toList]

theorem range_text_ne_empty (range : IpRange) : range.text ≠ "" := by
  intro empty
  have letters := range.text_toList
  rw [empty] at letters
  simp at letters

theorem Canonical.trimmed {ranges : List String} (canonical : Canonical ranges) :
    (ranges.map trimText).filter (· ≠ "") = ranges := by
  have same : ranges.map trimText = ranges := by
    refine (List.map_congr_left fun text member => ?_).trans (List.map_id _)
    obtain ⟨range, rfl⟩ := canonical text member
    exact trimText_range range
  rw [same]
  apply List.filter_eq_self.mpr
  intro text member
  obtain ⟨range, rfl⟩ := canonical text member
  simpa using range_text_ne_empty range

section Written

variable {backend : VpnProtocol} {raw : JsonObject} {normalized : List String}

theorem writeRanges_get?_ne {key : String} (ranges : key ≠ "ipRanges")
    (legacy : key ≠ "ipRange") (gateway : key ≠ "localIp") :
    (writeRanges backend raw normalized).get? key = raw.get? key := by
  have stored : ((raw.set "ipRanges" (.arr (normalized.map .str))).remove
      "ipRange").get? key = raw.get? key := by
    rw [JsonObject.get?_remove_ne legacy, JsonObject.get?_set_ne ranges]
  unfold writeRanges
  simp only
  split
  · exact stored
  · split
    · exact stored
    · rw [JsonObject.get?_set_ne gateway, stored]

theorem writeRanges_ipRanges :
    (writeRanges backend raw normalized).get? "ipRanges" =
      some (.arr (normalized.map .str)) := by
  have stored : ((raw.set "ipRanges" (.arr (normalized.map .str))).remove
      "ipRange").get? "ipRanges" = some (.arr (normalized.map .str)) := by
    rw [JsonObject.get?_remove_ne (by decide), JsonObject.get?_set_self]
  unfold writeRanges
  simp only
  split
  · exact stored
  · split
    · exact stored
    · rw [JsonObject.get?_set_ne (by decide), stored]

theorem writeRanges_ipRange :
    (writeRanges backend raw normalized).get? "ipRange" = none := by
  unfold writeRanges
  simp only
  split
  · exact JsonObject.get?_remove_self
  · split
    · exact JsonObject.get?_remove_self
    · rw [JsonObject.get?_set_ne (by decide), JsonObject.get?_remove_self]

theorem texts_map_str (texts : List String) :
    (Json.list Json.text (.arr (texts.map .str))).value = texts := by
  rw [Json.value_list_arr, List.map_map]
  exact List.map_id texts

theorem decodeRanges_writeRanges (canonical : Canonical normalized)
    (nonempty : normalized ≠ []) :
    decodeRanges (writeRanges backend raw normalized) = normalized := by
  unfold decodeRanges JsonObject.get
  simp only [writeRanges_ipRanges, Option.getD_some, texts_map_str,
    canonical.trimmed]
  rw [if_pos nonempty]

end Written

/-- Reading ranges depends on two keys only. -/
theorem decodeRanges_congr {raw other : JsonObject}
    (ranges : raw.get? "ipRanges" = other.get? "ipRanges")
    (legacy : raw.get? "ipRange" = other.get? "ipRange") :
    decodeRanges raw = decodeRanges other := by
  unfold decodeRanges JsonObject.get
  rw [ranges, legacy]

section Outcome

variable {inbounds : Inbounds} {backend : VpnProtocol} {id excludeId : Int}
  {raw : JsonObject} {normalized : List String}

theorem canonical_defaults {fresh : List Subnet}
    (valid : ∀ subnet ∈ fresh, subnet.Valid) :
    Canonical (fresh.map defaultRange) := by
  intro text member
  obtain ⟨subnet, listed, rfl⟩ := List.mem_map.mp member
  exact ⟨fullRange subnet (valid subnet listed), rfl⟩

theorem Canonical.append {ranges more : List String}
    (first : Canonical ranges) (second : Canonical more) :
    Canonical (ranges ++ more) := by
  intro text member
  rcases List.mem_append.mp member with inside | inside
  · exact first text inside
  · exact second text inside

/-- A backend with one aligned block, and the base of its mirror. -/
def blockBackend : VpnProtocol → Option (Option Nat)
  | .openvpn => some (some 3)
  | .openconnect => some none
  | _ => none

/-- What the normaliser computes, by family of protocols. -/
theorem normalizedRanges_eq_ok
    (accepted : normalizedRanges inbounds backend id raw excludeId =
      .ok normalized) :
    (∃ mirror, blockBackend backend = some mirror ∧
      ∃ block : AlignedBlock,
        normalized = block.ranges backend.protocolBase ∧
        (∀ subnet ∈ block.subnets backend.protocolBase,
          subnet ∉ usedVpnSubnets inbounds excludeId) ∧
        ∀ base ∈ mirror, ∀ subnet ∈ block.subnets base,
          subnet ∉ usedVpnSubnets inbounds excludeId) ∨
    (blockBackend backend = none ∧ ∃ given fresh,
      normalized = given ++ fresh.map defaultRange ∧
      PppOutcome backend (usedVpnSubnets inbounds excludeId)
        (decodeRanges raw) given fresh) := by
  unfold normalizedRanges at accepted
  cases backend with
  | openvpn =>
      exact .inl ⟨some 3, rfl, normalizeBlockRanges_eq_ok accepted⟩
  | openconnect =>
      exact .inl ⟨none, rfl, normalizeBlockRanges_eq_ok accepted⟩
  | l2tp => exact .inr ⟨rfl, normalizePppRanges_eq_ok accepted⟩
  | pptp => exact .inr ⟨rfl, normalizePppRanges_eq_ok accepted⟩
  | sstp => exact .inr ⟨rfl, normalizePppRanges_eq_ok accepted⟩

theorem canonical_pppOutcome {used : List Subnet} {ranges given : List String}
    {fresh : List Subnet}
    (outcome : PppOutcome backend used ranges given fresh) :
    Canonical (given ++ fresh.map defaultRange) := by
  apply Canonical.append
  · intro text member
    obtain ⟨range, -, same, -⟩ := outcome.free text member
    exact ⟨range, same⟩
  · exact canonical_defaults fun _ => outcome.new.valid

theorem normalizedRanges_canonical
    (accepted : normalizedRanges inbounds backend id raw excludeId =
      .ok normalized) : Canonical normalized ∧ normalized ≠ [] := by
  rcases normalizedRanges_eq_ok accepted with
    ⟨-, -, block, rfl, -⟩ | ⟨-, given, fresh, rfl, outcome⟩
  · have base := protocolBase_lt backend
    refine ⟨?_, ?_⟩
    · exact canonical_defaults fun _ =>
        AlignedBlock.valid_of_mem (by omega)
    · rw [AlignedBlock.ranges, ne_eq, List.map_eq_nil_iff]
      exact block.subnets_ne_nil _
  · exact ⟨canonical_pppOutcome outcome, outcome.ne_nil⟩

theorem mirrorOvpnSubnet_of_block {block : AlignedBlock} {subnet : Subnet}
    (member : subnet ∈ block.subnets 2) :
    mirrorOvpnSubnet subnet ∈ block.subnets 3 := by
  obtain ⟨first, second, lower, upper⟩ := AlignedBlock.mem_subnets.mp member
  rw [mirrorOvpnSubnet, if_pos ⟨first, second⟩]
  exact AlignedBlock.mem_subnets.mpr ⟨rfl, rfl, lower, upper⟩

/-- No /24 of the new ranges, and none of their mirrors, is in use. -/
theorem normalizedRanges_unused
    (accepted : normalizedRanges inbounds backend id raw excludeId =
      .ok normalized) {subnet : Subnet}
    (member : subnet ∈ subnetsOf normalized) :
    subnet ∉ usedVpnSubnets inbounds excludeId ∧
      (backend = .openvpn →
        mirrorOvpnSubnet subnet ∉ usedVpnSubnets inbounds excludeId) := by
  have base := protocolBase_lt backend
  rcases normalizedRanges_eq_ok accepted with
    ⟨mirror, family, block, rfl, free, mirrored⟩ |
    ⟨family, given, fresh, rfl, outcome⟩
  · rw [block.subnetsOf_ranges (by omega)] at member
    refine ⟨free subnet member, ?_⟩
    rintro rfl
    obtain rfl := Option.some.inj family
    exact mirrored 3 rfl _ (mirrorOvpnSubnet_of_block member)
  · refine ⟨outcome.unused member, ?_⟩
    rintro rfl
    cases family

end Outcome

section Normalizer

variable {inbounds : Inbounds} {inbound normal : Inbound} {excludeId : Int}

theorem normalizeRanges_of_vpn {backend : VpnProtocol}
    (isVpn : inbound.protocol = .vpn backend) :
    normalizeRanges inbounds inbound excludeId = .ok normal ↔
      ∃ raw normalized, rawSettings? inbound.settings = some raw ∧
        normalizedRanges inbounds backend inbound.id raw excludeId =
          .ok normalized ∧
        normal = { inbound with
          settings := .parsed (.obj (writeRanges backend raw normalized)) } := by
  unfold normalizeRanges
  rw [isVpn]
  cases read : rawSettings? inbound.settings with
  | none => simp
  | some raw =>
      cases out : normalizedRanges inbounds backend inbound.id raw
          excludeId with
      | error problem => simp [out]
      | ok normalized => simp [out, eq_comm]

theorem normalizeRanges_of_not_vpn
    (notVpn : inbound.protocol.isVpnProtocol = false) :
    normalizeRanges inbounds inbound excludeId = .ok inbound := by
  unfold normalizeRanges
  cases protocol : inbound.protocol with
  | vpn backend =>
      rw [protocol] at notVpn
      cases notVpn
  | _ => rfl

/-- The normaliser touches the settings only. -/
theorem normalizeRanges_frame
    (accepted : normalizeRanges inbounds inbound excludeId = .ok normal) :
    ∃ settings, normal = { inbound with settings := settings } := by
  rcases inbound.protocol.vpn_or_not with ⟨backend, isVpn⟩ | notVpn
  · obtain ⟨raw, normalized, -, -, out⟩ :=
      (normalizeRanges_of_vpn isVpn).mp accepted
    exact ⟨_, out⟩
  · rw [normalizeRanges_of_not_vpn notVpn] at accepted
    exact ⟨inbound.settings, (Except.ok.inj accepted).symm⟩

theorem normalizeRanges_stored {backend : VpnProtocol}
    (isVpn : inbound.protocol = .vpn backend)
    (accepted : normalizeRanges inbounds inbound excludeId = .ok normal) :
    decodeRanges normal.settings.fields ≠ [] := by
  obtain ⟨raw, normalized, -, out, rfl⟩ :=
    (normalizeRanges_of_vpn isVpn).mp accepted
  obtain ⟨canonical, nonempty⟩ := normalizedRanges_canonical out
  have read : decodeRanges (writeRanges backend raw normalized) = normalized :=
    decodeRanges_writeRanges canonical nonempty
  intro empty
  exact nonempty (read.symm.trans empty)

theorem ownedSubnets_of_not_vpn
    (notVpn : inbound.protocol.isVpnProtocol = false) :
    ownedSubnets inbound = [] := by
  unfold ownedSubnets
  cases protocol : inbound.protocol with
  | vpn backend =>
      rw [protocol] at notVpn
      cases notVpn
  | _ => rfl

theorem mem_ownedSubnets (inbound : Inbound) {backend : VpnProtocol}
    {subnet : Subnet} (isVpn : inbound.protocol = .vpn backend) :
    subnet ∈ ownedSubnets inbound ↔
      ∃ own ∈ subnetsOf (inboundRanges inbound backend),
        subnet = own ∨ (backend = .openvpn ∧ subnet = mirrorOvpnSubnet own) := by
  unfold ownedSubnets
  rw [isVpn]
  simp only [List.mem_flatMap]
  apply exists_congr
  intro own
  apply and_congr_right'
  split <;> simp_all

theorem mem_usedVpnSubnets {subnet : Subnet} :
    subnet ∈ usedVpnSubnets inbounds excludeId ↔
      ∃ other ∈ inbounds, other.id ≠ excludeId ∧
        subnet ∈ ownedSubnets other := by
  simp [usedVpnSubnets, Table.mem_def, and_assoc]

theorem inboundRanges_of_normalized {backend : VpnProtocol}
    {raw : JsonObject} {normalized : List String}
    (out : normalizedRanges inbounds backend inbound.id raw excludeId =
      .ok normalized) :
    inboundRanges { inbound with
      settings := .parsed (.obj (writeRanges backend raw normalized)) }
        backend = normalized := by
  obtain ⟨canonical, nonempty⟩ := normalizedRanges_canonical out
  unfold inboundRanges
  have read : decodeRanges (JsonText.parsed
      (.obj (writeRanges backend raw normalized))).fields = normalized :=
    decodeRanges_writeRanges canonical nonempty
  simp only [read]

/-- A normalised inbound occupies no /24 that another one occupies. -/
theorem normalizeRanges_separate
    (accepted : normalizeRanges inbounds inbound excludeId = .ok normal)
    {other : Inbound} (member : other ∈ inbounds)
    (counted : other.id ≠ excludeId) {subnet : Subnet}
    (owned : subnet ∈ ownedSubnets normal) : subnet ∉ ownedSubnets other := by
  intro taken
  have used : subnet ∈ usedVpnSubnets inbounds excludeId :=
    mem_usedVpnSubnets.mpr ⟨other, member, counted, taken⟩
  rcases inbound.protocol.vpn_or_not with ⟨backend, isVpn⟩ | notVpn
  · obtain ⟨raw, normalized, -, out, written⟩ :=
      (normalizeRanges_of_vpn isVpn).mp accepted
    have stillVpn : normal.protocol = .vpn backend := by
      rw [written]
      exact isVpn
    obtain ⟨own, inside, same⟩ := (mem_ownedSubnets normal stillVpn).mp owned
    rw [written, inboundRanges_of_normalized out] at inside
    obtain ⟨free, mirrorFree⟩ := normalizedRanges_unused out inside
    rcases same with rfl | ⟨openvpn, rfl⟩
    · exact free used
    · exact mirrorFree openvpn used
  · rw [normalizeRanges_of_not_vpn notVpn] at accepted
    obtain rfl := Except.ok.inj accepted
    simp [ownedSubnets_of_not_vpn notVpn] at owned

end Normalizer

end VpnUi.Panel
