import VpnUi.OpenVpn.BlockFiles
import VpnUi.Panel.Teardown
import VpnUi.Radius.Lookup

namespace VpnUi.Radius

open Foundation Address Panel OpenVpn

/-! The names an account logs in with, against the names its block file and
the commands that end its sessions go by. -/

/-- The position of the client that a username names. -/
def accountIndex (username : String) (inbound : Inbound) : Nat :=
  ((inbound.settings.decode (clientsOf AuthEntry.decode)).getD []).findIdx
    fun client => names username client.login

def withDisabled (inbound : Inbound) (index : Nat) : Inbound :=
  { inbound with settings := disableClient inbound.settings index }

/-- The databases in which the account has been disabled, with the e-mails
that client_traffics disables. -/
inductive LaterDisabled (inbound : Inbound) (index : Nat) (email : String) :
    Inbounds → List String → Prop
  | settings {later : Inbounds} {disabledEmails : List String}
      (stored : withDisabled inbound index ∈ later) :
      LaterDisabled inbound index email later disabledEmails
  | traffic {later : Inbounds} {disabledEmails : List String}
      (stored : inbound ∈ later) (disabled : email ∈ disabledEmails) :
      LaterDisabled inbound index email later disabledEmails

/-- The device has the file of the account, and gets an address of it or is
refused. -/
structure LeasesOwn (inbound : Inbound) (settings : VpnSettings) (index : Nat)
    (username poolIp : String) (reads : HookReads) : Prop where
  file : ∃ file, publishedFile inbound (protoOf poolIp) username = some file ∧
    file.account = index
  address : ∀ verdict mask, ovpnLeaseBlockIP inbound username poolIp reads =
      some (verdict, mask) →
    ∀ ip, verdict.address = some ip →
      ip ∈ (settings.ovpnDeviceIPs inbound.id (protoOf poolIp) index).map
        Ipv4.text

/-- A login of the account under this name is kept to the account's addresses
and ended with the account. -/
structure AliasEnforced (kind : NamedSessions) (inbound : Inbound)
    (entry : AuthEntry) (username poolIp : String) (reads : HookReads) :
    Prop where
  leases : kind = .openvpn → ∀ settings,
    VpnSettings.parse .openvpn inbound.settings = some settings →
      settings.enabled (protoOf poolIp) = true →
        LeasesOwn inbound settings (accountIndex username inbound) username
          poolIp reads
  ends : ∀ later disabledEmails,
    LaterDisabled inbound (accountIndex username inbound) entry.email later
      disabledEmails →
    ∀ transport, sessionCommand kind inbound.id transport username ∈
      killDisabledSessions kind later disabledEmails

/-- When a name is covered: some client has it for an id and is the account or
disabled already; under OpenVPN the account has the last file of the name, and
its hook is not driven to a lease of another account. -/
structure AliasCovered (kind : NamedSessions) (inbound : Inbound)
    (username poolIp : String) (reads : HookReads) : Prop where
  nonblank : ¬ Blank kind username
  commanded : ∃ settings,
    VpnSettings.parse kind.backend inbound.settings = some settings ∧
      ∃ index client, settings.clients[index]? = some client ∧
        client.id = username ∧
          (index = accountIndex username inbound ∨ client.enable = false)
  published : kind = .openvpn → ∀ settings,
    VpnSettings.parse .openvpn inbound.settings = some settings →
      settings.enabled (protoOf poolIp) = true →
        OwnsFile settings inbound.id (protoOf poolIp) username
          (accountIndex username inbound) ∧
        let candidates := (settings.ovpnDeviceIPs inbound.id (protoOf poolIp)
          (accountIndex username inbound)).map Ipv4.text
        ¬ StealsLease candidates (publishedStrategy inbound) reads.rows
          reads.ages
          (usedCount inbound username (protoOf poolIp) candidates reads)

def AuthEntry.client (entry : AuthEntry) : VpnClient :=
  ⟨entry.id, entry.password, entry.email, entry.enable⟩

/-- The services read the clients that the RADIUS server reads. -/
theorem typedClients_of_decode {settings : JsonText}
    {entries : List AuthEntry}
    (decoded : settings.decode (clientsOf AuthEntry.decode) = some entries) :
    (VpnSettings.typedClients settings.fields).fits = true ∧
      (VpnSettings.typedClients settings.fields).value =
        entries.map AuthEntry.client := by
  have same : ∀ fields, (clientsOf AuthEntry.decode fields).strict =
      some entries → (VpnSettings.typedClients fields).fits = true ∧
        (VpnSettings.typedClients fields).value =
          entries.map AuthEntry.client := by
    intro fields found
    obtain ⟨fits, rfl⟩ := Decoded.strict_eq_some.mp found
    revert fits
    unfold VpnSettings.typedClients clientsOf
    cases JsonObject.get fields "clients" with
    | arr items =>
        intro fits
        refine ⟨(List.all_eq_true.mpr fun item member => ?_), ?_⟩
        · have itemFits := List.all_eq_true.mp fits item member
          cases item <;> exact itemFits
        · simp only [Json.value_list_arr, List.map_map]
          apply List.map_congr_left
          intro item _
          cases item <;> rfl
    | null => exact fun _ => ⟨rfl, rfl⟩
    | _ =>
        intro fits
        cases fits
  cases settings with
  | parsed json =>
      cases json with
      | obj fields => exact same fields decoded
      | null => exact same [] decoded
      | _ => cases decoded
  | _ => cases decoded

theorem clients_of_parse {backend : VpnProtocol} {text : JsonText}
    {settings : VpnSettings}
    (parsed : VpnSettings.parse backend text = some settings) :
    settings.clients = (VpnSettings.typedClients text.fields).value := by
  rw [VpnSettings.parse_eq_decode] at parsed
  have same : ∀ fields, (VpnSettings.decoder backend fields).strict =
      some settings →
      settings.clients = (VpnSettings.typedClients fields).value := by
    intro fields found
    rw [← (Decoded.strict_eq_some.mp found).2, VpnSettings.clients_decoder]
  cases text with
  | parsed json =>
      cases json with
      | obj fields => exact same fields parsed
      | null => exact same [] parsed
      | _ => cases parsed
  | _ => cases parsed

/-- The typed client at the position of the account. -/
theorem getElem?_accountIndex {backend : VpnProtocol} {inbound : Inbound}
    {username : String} {entries : List AuthEntry} {entry : AuthEntry}
    {settings : VpnSettings}
    (decoded : inbound.settings.decode (clientsOf AuthEntry.decode) =
      some entries)
    (first : (entries.find? fun client => names username client.login) =
      some entry)
    (parsed : VpnSettings.parse backend inbound.settings = some settings) :
    settings.clients[accountIndex username inbound]? = some entry.client := by
  rw [List.find?_eq_getElem?_findIdx] at first
  rw [accountIndex, decoded, Option.getD_some, clients_of_parse parsed,
    (typedClients_of_decode decoded).2, List.getElem?_map, first]
  rfl

/-- The sessions of a name are ended with the account exactly when some client
of this id is the account or was disabled before. -/
theorem ends_iff {kind : NamedSessions} {inbound : Inbound} {username : String}
    {entries : List AuthEntry} {entry : AuthEntry}
    (matching : inbound.protocol = .vpn kind.backend)
    (decoded : inbound.settings.decode (clientsOf AuthEntry.decode) =
      some entries)
    (first : (entries.find? fun client => names username client.login) =
      some entry) :
    (∀ later disabledEmails,
      LaterDisabled inbound (accountIndex username inbound) entry.email later
        disabledEmails →
      ∀ transport, sessionCommand kind inbound.id transport username ∈
        killDisabledSessions kind later disabledEmails) ↔
    ¬ Blank kind username ∧ ∃ settings,
      VpnSettings.parse kind.backend inbound.settings = some settings ∧
        ∃ index client, settings.clients[index]? = some client ∧
          client.id = username ∧
            (index = accountIndex username inbound ∨
              client.enable = false) := by
  have fits := (typedClients_of_decode decoded).1
  have disabledParse :=
    parse_disableClient kind.backend (accountIndex username inbound) fits
  simp only [mem_killDisabledSessions, sessionCommand_mem_killClient]
  constructor
  · intro ends
    obtain ⟨stored, member, -, settings, parsed, client, listed, disabled,
      -, named, nonblank⟩ := ends
        (Table.empty.save
          (withDisabled inbound (accountIndex username inbound))) []
        (.settings (Table.mem_save.mpr (.inl rfl))) .udp
    obtain rfl : stored = _ := (Table.mem_save.mp member).resolve_right
      fun old => Table.not_mem_empty old.1
    rw [withDisabled, disabledParse, Option.map_eq_some_iff] at parsed
    obtain ⟨original, parsed, rfl⟩ := parsed
    refine ⟨nonblank, original, parsed, ?_⟩
    obtain ⟨index, stored⟩ := List.mem_iff_getElem?.mp listed
    rw [List.getElem?_modify] at stored
    obtain ⟨before, beforeStored, rfl⟩ := Option.map_eq_some_iff.mp stored
    by_cases same : accountIndex username inbound = index
    · rw [if_pos same] at named
      exact ⟨index, before, beforeStored, named, .inl same.symm⟩
    · rw [if_neg same] at named disabled
      exact ⟨index, before, beforeStored, named,
        .inr (disabled.resolve_right List.not_mem_nil)⟩
  · rintro ⟨nonblank, settings, parsed, index, client, stored, named, covered⟩
      later disabledEmails disabled transport
    cases disabled with
    | settings member =>
        refine ⟨_, member, matching, _, disabledParse.trans (by rw [parsed]; rfl),
          _, List.mem_iff_getElem?.mpr ⟨index, by
            rw [List.getElem?_modify, stored]; rfl⟩, ?_⟩
        dsimp only
        by_cases same : accountIndex username inbound = index
        · rw [if_pos same]
          exact ⟨.inl rfl, rfl, named, nonblank⟩
        · rw [if_neg same]
          exact ⟨.inl (covered.resolve_left (Ne.symm same)), rfl, named,
            nonblank⟩
    | traffic member disabled =>
        refine ⟨inbound, member, matching, settings, parsed, client,
          List.mem_of_getElem? stored, ?_, rfl, named, nonblank⟩
        rcases covered with rfl | inactive
        · rw [getElem?_accountIndex decoded first parsed] at stored
          rw [← Option.some.inj stored]
          exact .inr disabled
        · exact .inl inactive

theorem publishedFile_of_parse {inbound : Inbound} {settings : VpnSettings}
    {transport : Transport} {username : String}
    (parsed : VpnSettings.parse .openvpn inbound.settings = some settings)
    (enabled : settings.enabled transport = true) :
    publishedFile inbound transport username =
      blockFile settings inbound.id transport username := by
  rw [publishedFile, parsed, Option.bind_some, if_pos enabled]

theorem leasesOwn_iff {inbound : Inbound} {settings : VpnSettings}
    {index : Nat} {username poolIp : String} {reads : HookReads}
    (parsed : VpnSettings.parse .openvpn inbound.settings = some settings)
    (enabled : settings.enabled (protoOf poolIp) = true) :
    LeasesOwn inbound settings index username poolIp reads ↔
      OwnsFile settings inbound.id (protoOf poolIp) username index ∧
        let candidates := (settings.ovpnDeviceIPs inbound.id (protoOf poolIp)
          index).map Ipv4.text
        ¬ StealsLease candidates (publishedStrategy inbound) reads.rows
          reads.ages
          (usedCount inbound username (protoOf poolIp) candidates reads) := by
  have published := @publishedFile_of_parse inbound settings (protoOf poolIp)
    username parsed enabled
  have leased : ∀ file,
      blockFile settings inbound.id (protoOf poolIp) username = some file →
      ovpnLeaseBlockIP inbound username poolIp reads =
        some (ovpnDecide file.ips (publishedStrategy inbound) reads.rows
          reads.ages
          (usedCount inbound username (protoOf poolIp) file.ips reads),
          file.mask) := by
    intro file found
    rw [ovpnLeaseBlockIP, published, found]
    rfl
  constructor
  · rintro ⟨⟨file, found, rfl⟩, address⟩
    rw [published] at found
    refine ⟨blockFile_account_iff.mp ⟨file, found, rfl⟩, ?_⟩
    intro candidates steals
    obtain ⟨ip, pushed, foreign⟩ := address_foreign_iff.mpr steals
    have own := leased file found
    rw [ips_blockFile found] at own
    exact foreign (address _ _ own ip pushed)
  · rintro ⟨owns, honest⟩
    obtain ⟨file, found, rfl⟩ := blockFile_account_iff.mpr owns
    refine ⟨⟨file, published.trans found, rfl⟩, ?_⟩
    intro verdict mask lease ip pushed
    rw [leased file found, ips_blockFile found] at lease
    obtain ⟨rfl, -⟩ := Prod.mk.inj (Option.some.inj lease)
    by_contra foreign
    exact honest (address_foreign_iff.mp ⟨ip, pushed, foreign⟩)

/-- One account of each protocol with the device cap of two. -/
def soleAccount (kind : NamedSessions) : Inbound where
  id := 7
  listen := ""
  port := 1194
  protocol := .vpn kind.backend
  settings := .parsed (.obj [
    ("userLimit", .int 2),
    ("clients", .arr [.obj [
      ("id", .str "ann"),
      ("password", .str "pw"),
      ("email", .str "ann@example.org"),
      ("enable", .bool true)]])])
  enable := true
  tag := "inbound-1194"

end VpnUi.Radius
