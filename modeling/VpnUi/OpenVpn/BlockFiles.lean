import VpnUi.OpenVpn.LeaseChoice
import VpnUi.Foundation.Table
import VpnUi.Panel.Inbound
import VpnUi.Panel.VpnSettings

namespace VpnUi.OpenVpn

open Address Foundation Panel

/-! The block files the panel publishes for the accounts of an OpenVPN
inbound, one transport at a time. -/

/-- A file of a blocks directory.  `account` is the index of the client it was
written for, which the file itself does not tell. -/
structure BlockFile where
  name : String
  account : Nat
  mask : String
  ips : List String
  deriving DecidableEq

/-- The netmask of a block. -/
def prefixToMask (block : Block) : String :=
  (Ipv4.ofU32 (2 ^ 32 - block.size)).text

/-- The file of one client: none without an id, and none without addresses. -/
def clientBlock (settings : VpnSettings) (inboundId : Int)
    (transport : Transport) (index : Nat) (client : VpnClient) :
    Option BlockFile :=
  let ips := settings.ovpnDeviceIPs inboundId transport index
  if client.id = "" ∨ ips = [] then none
  else
    some {
      name := client.id
      account := index
      mask := prefixToMask (ovpnBlock settings.ipRanges transport inboundId)
      ips := ips.map Ipv4.text }

theorem clientBlock_eq_some {settings : VpnSettings} {inboundId : Int}
    {transport : Transport} {index : Nat} {client : VpnClient}
    {file : BlockFile} :
    clientBlock settings inboundId transport index client = some file ↔
      client.id ≠ "" ∧
        settings.ovpnDeviceIPs inboundId transport index ≠ [] ∧
        file.account = index ∧ file.name = client.id ∧
        file.mask = prefixToMask
          (ovpnBlock settings.ipRanges transport inboundId) ∧
        file.ips =
          (settings.ovpnDeviceIPs inboundId transport index).map Ipv4.text := by
  simp only [clientBlock]
  split
  next absent =>
    constructor
    · intro impossible
      cases impossible
    · rintro ⟨named, addressed, -⟩
      exact absurd absent (not_or.mpr ⟨named, addressed⟩)
  next present =>
    obtain ⟨named, addressed⟩ := not_or.mp present
    constructor
    · intro made
      obtain rfl := Option.some.inj made
      exact ⟨named, addressed, rfl, rfl, rfl, rfl⟩
    · obtain ⟨name, account, mask, ips⟩ := file
      rintro ⟨-, -, sameAccount, sameName, sameMask, sameIps⟩
      rw [Option.some.injEq, BlockFile.mk.injEq]
      exact ⟨sameName.symm, sameAccount.symm, sameMask.symm, sameIps.symm⟩

theorem exists_clientBlock {settings : VpnSettings} {inboundId : Int}
    {transport : Transport} {index : Nat} {client : VpnClient}
    (nonempty : client.id ≠ "")
    (devices : settings.ovpnDeviceIPs inboundId transport index ≠ []) :
    ∃ file, clientBlock settings inboundId transport index client = some file ∧
      file.account = index ∧ file.name = client.id := by
  simp only [clientBlock]
  rw [if_neg (not_or.mpr ⟨nonempty, devices⟩)]
  exact ⟨_, rfl, rfl, rfl⟩

/-- The files `writeClientConfigDir` writes, in order. -/
def writeClientConfigDir (settings : VpnSettings) (inboundId : Int)
    (transport : Transport) : List BlockFile :=
  settings.clients.zipIdx.filterMap fun (client, index) =>
    clientBlock settings inboundId transport index client

/-- The file of a common name: a later one replaces an earlier one. -/
def blockFile (settings : VpnSettings) (inboundId : Int)
    (transport : Transport) (commonName : String) : Option BlockFile :=
  (writeClientConfigDir settings inboundId transport).reverse.find?
    (·.name = commonName)

def normUserLimitStrategy (text : String) : Strategy :=
  if text = "reject" then .reject else .accept

/-- The file that stands for a common name in the blocks directory of a
transport. -/
def publishedFile (inbound : Inbound) (transport : Transport)
    (commonName : String) : Option BlockFile :=
  (VpnSettings.parse .openvpn inbound.settings).bind fun settings =>
    if settings.enabled transport then
      blockFile settings inbound.id transport commonName
    else none

/-- Without a strategy file the hook rejects. -/
def publishedStrategy (inbound : Inbound) : Strategy :=
  match VpnSettings.parse .openvpn inbound.settings with
  | some settings => normUserLimitStrategy settings.userLimitStrategy
  | none => .reject

/-- What a hook reads of the running servers: the status and the leases of its
own transport and of the other one. -/
structure HookReads where
  rows : List StatusRow
  ages : List (String × Nat)
  otherRows : List StatusRow
  otherLeases : List String

/-- The account's devices on both transports: a missing file of the other one
counts none. -/
def usedCount (inbound : Inbound) (username : String) (transport : Transport)
    (candidates : List String) (reads : HookReads) : Nat :=
  let shared :=
    match publishedFile inbound (otherProto transport) username with
    | none => 0
    | some other =>
        occupied other.ips (ovpnStatusIPs reads.otherRows ++ reads.otherLeases)
  occupied candidates (ovpnStatusIPs reads.rows ++ reads.ages.map Prod.fst) +
    shared

/-- `ovpnLeaseBlockIP`: the verdict and the netmask.  Without a file the device
keeps its pool address. -/
def ovpnLeaseBlockIP (inbound : Inbound) (username poolIp : String)
    (reads : HookReads) : Option (Verdict × String) :=
  let transport := protoOf poolIp
  (publishedFile inbound transport username).map fun file =>
    (ovpnDecide file.ips (publishedStrategy inbound) reads.rows reads.ages
      (usedCount inbound username transport file.ips reads), file.mask)

/-- The accounts of the files come in the order of the clients. -/
theorem pairwise_account_writeClientConfigDir (settings : VpnSettings)
    (inboundId : Int) (transport : Transport) :
    (writeClientConfigDir settings inboundId transport).Pairwise
      fun left right => left.account < right.account := by
  apply List.pairwise_filterMap.mpr
  refine (pairwise_snd_zipIdx settings.clients).imp ?_
  rintro ⟨client, index⟩ ⟨other, otherIndex⟩ before file written otherFile
    otherWritten
  rw [(clientBlock_eq_some.mp written).2.2.1,
    (clientBlock_eq_some.mp otherWritten).2.2.1]
  exact before

theorem mem_writeClientConfigDir {settings : VpnSettings} {inboundId : Int}
    {transport : Transport} {file : BlockFile} :
    file ∈ writeClientConfigDir settings inboundId transport ↔
      ∃ client, settings.clients[file.account]? = some client ∧
        clientBlock settings inboundId transport file.account client =
          some file := by
  simp only [writeClientConfigDir, List.mem_filterMap, Prod.exists,
    List.mem_zipIdx_iff_getElem?]
  constructor
  · rintro ⟨client, index, stored, written⟩
    obtain rfl := (clientBlock_eq_some.mp written).2.2.1
    exact ⟨client, stored, written⟩
  · rintro ⟨client, stored, written⟩
    exact ⟨client, file.account, stored, written⟩

/-- The account at an index has the last file of this common name. -/
structure OwnsFile (settings : VpnSettings) (inboundId : Int)
    (transport : Transport) (commonName : String) (index : Nat) : Prop where
  named : (settings.clients[index]?).map VpnClient.id = some commonName
  nonempty : commonName ≠ ""
  devices : settings.ovpnDeviceIPs inboundId transport index ≠ []
  last : ∀ other client, index < other →
    settings.clients[other]? = some client → client.id = commonName →
      settings.ovpnDeviceIPs inboundId transport other = []

/-- Whose file a common name has. -/
theorem blockFile_account_iff {settings : VpnSettings} {inboundId : Int}
    {transport : Transport} {commonName : String} {index : Nat} :
    (∃ file, blockFile settings inboundId transport commonName = some file ∧
      file.account = index) ↔
      OwnsFile settings inboundId transport commonName index := by
  simp only [blockFile, find?_reverse_eq_some
    (pairwise_account_writeClientConfigDir settings inboundId transport),
    mem_writeClientConfigDir, decide_eq_true_eq]
  constructor
  · rintro ⟨file, ⟨⟨client, stored, written⟩, rfl, greatest⟩, rfl⟩
    obtain ⟨nonempty, devices, -, name, -⟩ := clientBlock_eq_some.mp written
    refine ⟨by rw [stored, Option.map_some, name], name ▸ nonempty, devices, ?_⟩
    intro other later above otherStored same
    by_contra otherDevices
    obtain ⟨written, otherWritten, rfl, otherName⟩ :=
      exists_clientBlock (show later.id ≠ "" by rwa [same, name]) otherDevices
    exact absurd
      (greatest written ⟨later, otherStored, otherWritten⟩
        (otherName.trans same))
      (not_le.mpr above)
  · rintro ⟨named, nonempty, devices, last⟩
    obtain ⟨client, stored, rfl⟩ := Option.map_eq_some_iff.mp named
    obtain ⟨file, written, rfl, name⟩ := exists_clientBlock nonempty devices
    refine ⟨file, ⟨⟨client, stored, written⟩, name, ?_⟩, rfl⟩
    rintro later ⟨other, otherStored, otherWritten⟩ same
    obtain ⟨-, otherDevices, -, otherName, -⟩ :=
      clientBlock_eq_some.mp otherWritten
    by_contra above
    exact otherDevices (last later.account other (not_le.mp above) otherStored
      (otherName.symm.trans same))

/-- A file lists the device addresses of its account. -/
theorem ips_blockFile {settings : VpnSettings} {inboundId : Int}
    {transport : Transport} {commonName : String} {file : BlockFile}
    (found : blockFile settings inboundId transport commonName = some file) :
    file.ips = (settings.ovpnDeviceIPs inboundId transport file.account).map
      Ipv4.text := by
  have member := List.mem_reverse.mp (List.mem_of_find?_eq_some found)
  obtain ⟨client, -, written⟩ := mem_writeClientConfigDir.mp member
  exact (clientBlock_eq_some.mp written).2.2.2.2.2

end VpnUi.OpenVpn
