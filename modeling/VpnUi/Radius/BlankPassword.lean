import VpnUi.Foundation.Transition
import VpnUi.Panel.Passwords
import VpnUi.Radius.Auth
import VpnUi.Radius.Identity

namespace VpnUi.Radius

open Foundation Panel

/-! Whether the clients of VPN inbounds have passwords, under the requests that
write credentials. -/

inductive CredentialEvent
  | addInbound (form : Inbound)
  | updateInbound (form : Inbound)
  | addInboundClient (data : Inbound)
  | updateInboundClient (data : Inbound) (clientId : String)
  | copyInboundClients (targetId sourceId : Int) (clientEmails : List String)
      (flow : String) (uuid : Nat → String)

/-- The table after a request that succeeded. -/
def writeCredentials (inbounds : Inbounds) :
    CredentialEvent × PanelHost → Option Inbounds
  | (.addInbound form, host) => (addInbound inbounds form host).toOption
  | (.updateInbound form, host) => (updateInbound inbounds form host).toOption
  | (.addInboundClient data, host) =>
      (addInboundClient inbounds data host).toOption
  | (.updateInboundClient data clientId, host) =>
      (updateInboundClient inbounds data clientId host).toOption
  | (.copyInboundClients targetId sourceId clientEmails flow uuid, host) =>
      let outcome := copyInboundClients inboundWriter inbounds targetId sourceId
        clientEmails flow uuid host
      match outcome.error with
      | none => some outcome.store
      | some _ => none

def credentialMachine : Machine Inbounds (CredentialEvent × PanelHost) :=
  ⟨writeCredentials⟩

/-- Every client of a VPN inbound has a password. -/
def HasPasswords (inbounds : Inbounds) : Prop :=
  ∀ inbound ∈ inbounds, inbound.protocol.isVpnProtocol = true →
    "" ∉ passwords inbound.settings

/-- The response to a challenge with a password is not the one with none. -/
def Separates (ntResponse : NtResponse) : Prop :=
  ∀ challenge peerChallenge username password response, password ≠ "" →
    ntResponse challenge peerChallenge username password = some response →
    ntResponse challenge peerChallenge username "" ≠ some response

/-- Every VPN client has a password, and no request computed from the empty
password is accepted. -/
structure NoBlankLogin (ntResponse : NtResponse) (inbounds : Inbounds) : Prop where
  passwords : HasPasswords inbounds
  refused : ∀ trafficEnable deny request,
    ComputedFrom ntResponse request "" →
    handleAuth ntResponse inbounds trafficEnable deny request = .reject

/-- The protocols whose clients are asked for an id, not for a password, when
they are added to a stored inbound. -/
def asksNoPassword (protocol : Protocol) : Prop :=
  protocol = .vpn .sstp ∨ protocol = .vpn .openconnect

/-- Where the request does not ask for a password, the clients it writes have
one. -/
def WritesPasswords (inbounds : Inbounds) : CredentialEvent × PanelHost → Prop
  | (.addInbound form, _) =>
      form.protocol = .vpn .openvpn ∨ form.protocol = .vpn .openconnect →
        "" ∉ passwords form.settings
  | (.updateInbound form, _) =>
      form.protocol.isVpnProtocol = true → "" ∉ passwords form.settings
  | (.addInboundClient data, _) =>
      ∀ old, inbounds.find? data.id = some old → asksNoPassword old.protocol →
        "" ∉ passwords data.settings
  | (.updateInboundClient data _, _) =>
      ∀ old, inbounds.find? data.id = some old → asksNoPassword old.protocol →
        "" ∉ (passwords data.settings).take 1
  | (.copyInboundClients targetId sourceId clientEmails _ _, _) =>
      ∀ target source clients, inbounds.find? targetId = some target →
        inbounds.find? sourceId = some source → asksNoPassword target.protocol →
        getClients source.settings = some clients →
        clients.filter (copies clientEmails) = []

section Lookups

variable {inbounds : Inbounds}

/-- The settings that parse are read in full. -/
theorem map_password_authEntries {settings : JsonText} {clients : List AuthEntry}
    (decoded : settings.decode (clientsOf AuthEntry.decode) = some clients) :
    clients.map AuthEntry.password = passwords settings := by
  have listed : ∀ fields : JsonObject,
      (clientsOf AuthEntry.decode fields).value.map AuthEntry.password =
        passwords (.parsed (.obj fields)) := by
    intro fields
    have read : (JsonText.parsed (.obj fields)).fields.get "clients" =
        JsonObject.get fields "clients" := rfl
    rw [passwords, read, clientsOf]
    cases JsonObject.get fields "clients" with
    | arr items =>
        simp only [Json.value_list_arr, List.map_map]
        apply List.map_congr_left
        intro item _
        cases item <;> rfl
    | _ => rfl
  cases settings with
  | parsed json =>
      simp only [JsonText.decode, Decoded.strict_eq_some] at decoded
      obtain ⟨fits, rfl⟩ := decoded
      cases json with
      | obj fields => exact listed fields
      | null => exact listed []
      | _ => simp [Json.record] at fits
  | _ => cases decoded

theorem HasPasswords.lookupClient (kept : HasPasswords inbounds)
    {trafficEnable : String → Option Bool} {backend : VpnProtocol}
    {inboundId : Int} {username password : String}
    (found : lookupClient inbounds trafficEnable backend inboundId username =
      .ok password) : password ≠ "" := by
  unfold Radius.lookupClient at found
  cases entry : lookupEntry inbounds trafficEnable backend inboundId username with
  | error problem =>
      rw [entry] at found
      cases found
  | ok client =>
      rw [entry] at found
      obtain rfl := Except.ok.inj found
      obtain ⟨inbound, member, isVpn, -, clients, decoded, first⟩ :=
        lookupEntry_eq_ok entry
      intro blank
      apply kept inbound member (by rw [isVpn]; rfl)
      rw [← map_password_authEntries decoded, ← blank]
      exact List.mem_map_of_mem (List.mem_of_find?_eq_some first)

theorem HasPasswords.noBlankLogin (kept : HasPasswords inbounds)
    {ntResponse : NtResponse} (separates : Separates ntResponse) :
    NoBlankLogin ntResponse inbounds where
  passwords := kept
  refused := by
    intro trafficEnable deny request blank
    cases reply : handleAuth ntResponse inbounds trafficEnable deny request with
    | reject => rfl
    | accept =>
        obtain ⟨backend, inboundId, password, found, computed⟩ :=
          handleAuth_eq_accept reply
        have nonempty := kept.lookupClient found
        rcases computed with ⟨plain, same⟩ | ⟨noPlain, responded⟩
        · rcases blank with ⟨-, empty⟩ | ⟨empty, -⟩
          · exact absurd empty plain
          · exact absurd empty plain
        · rcases blank with ⟨plain, -⟩ | ⟨-, blankResponse⟩
          · exact absurd noPlain plain
          · exact absurd blankResponse
              (separates _ _ _ _ _ nonempty responded)

end Lookups

section Steps

variable {inbounds next : Inbounds} {host : PanelHost}

theorem HasPasswords.save (kept : HasPasswords inbounds) {row : Inbound}
    (given : row.protocol.isVpnProtocol = true → "" ∉ passwords row.settings) :
    HasPasswords (inbounds.save row) := by
  intro inbound member isVpn
  rcases Table.mem_save.mp member with rfl | ⟨old, -⟩
  · exact given isVpn
  · exact kept inbound old isVpn

/-- Writing clients that are old or have a password. -/
theorem HasPasswords.saveClients (kept : HasPasswords inbounds) {old : Inbound}
    (member : old ∈ inbounds) {clients : List Json}
    (origin : old.protocol.isVpnProtocol = true → ∀ client ∈ clients,
      passwordOf client ∈ passwords old.settings ∨ passwordOf client ≠ "") :
    HasPasswords (inbounds.save (withClients old clients)) := by
  apply kept.save
  intro isVpn blank
  rw [passwords_withClients] at blank
  obtain ⟨client, listed, empty⟩ := List.mem_map.mp blank
  rcases origin isVpn client listed with stored | nonempty
  · rw [empty] at stored
    exact kept old member isVpn stored
  · exact nonempty empty

/-- The key of a VPN client on a stored inbound is its password, unless the
protocol does not ask for one. -/
theorem clientKey_of_vpn {protocol : Protocol}
    (isVpn : protocol.isVpnProtocol = true) (client : Client) :
    asksNoPassword protocol ∨ clientKey protocol client = client.password := by
  cases protocol with
  | vpn backend =>
      cases backend with
      | sstp => exact .inl (.inl rfl)
      | openconnect => exact .inl (.inr rfl)
      | _ => exact .inr rfl
  | _ => cases isVpn

theorem HasPasswords.addInbound (kept : HasPasswords inbounds) {form : Inbound}
    (guard : WritesPasswords inbounds (.addInbound form, host))
    (accepted : addInbound inbounds form host = .ok next) :
    HasPasswords next := by
  obtain ⟨clients, found, rfl⟩ := addInbound_eq_ok accepted
  apply kept.save
  intro isVpn
  rw [passwords_stampAdded found]
  have keyed : (∀ client, addedClientKey form.protocol client =
      client.password) → "" ∉ passwords form.settings := by
    intro asked blank
    rw [← map_password_getClients found] at blank
    obtain ⟨client, member, empty⟩ := List.mem_map.mp blank
    exact addInbound_keys accepted found member ((asked client).trans empty)
  change form.protocol.isVpnProtocol = true at isVpn
  cases protocol : form.protocol with
  | vpn backend =>
      rw [protocol] at keyed
      cases backend with
      | openvpn => exact guard (.inl protocol)
      | openconnect => exact guard (.inr protocol)
      | _ => exact keyed fun _ => rfl
  | _ =>
      rw [protocol] at isVpn
      cases isVpn

theorem HasPasswords.updateInbound (kept : HasPasswords inbounds)
    {form : Inbound} (guard : WritesPasswords inbounds (.updateInbound form, host))
    (accepted : updateInbound inbounds form host = .ok next) :
    HasPasswords next := by
  obtain ⟨old, -, -, rfl⟩ := updateInbound_eq_ok accepted
  apply kept.save
  rw [passwords_stampUpdated]
  exact guard

theorem HasPasswords.addInboundClient (kept : HasPasswords inbounds)
    {data : Inbound}
    (guard : WritesPasswords inbounds (.addInboundClient data, host))
    (accepted : addInboundClient inbounds data host = .ok next) :
    HasPasswords next := by
  obtain ⟨clients, found, givenClients, stored, keys⟩ :=
    addInboundClient_keys accepted
  obtain ⟨old, member, sameId, before, added, oldClients, given, rfl⟩ :=
    addInboundClient_eq_ok accepted
  have same : inbounds.find? data.id = some old :=
    Table.find?_eq_some.mpr ⟨member, sameId⟩
  obtain rfl := Option.some.inj (stored.symm.trans same)
  apply kept.saveClients member
  intro isVpn client listed
  rcases List.mem_append.mp listed with stays | new
  · rw [passwords_of_array oldClients]
    exact .inl (List.mem_map_of_mem stays)
  · obtain ⟨client, inForm, rfl⟩ := List.mem_map.mp new
    rw [passwordOf_stampNewClient]
    have inPasswords : passwordOf client ∈ passwords data.settings := by
      rw [passwords_of_array given]
      exact List.mem_map_of_mem inForm
    refine .inr fun empty => ?_
    rw [empty] at inPasswords
    by_cases unasked : asksNoPassword found.protocol
    · exact guard found same unasked inPasswords
    · rw [← map_password_getClients givenClients] at inPasswords
      obtain ⟨typed, inClients, blank⟩ := List.mem_map.mp inPasswords
      rcases clientKey_of_vpn isVpn typed with unasks | key
      · exact unasked unasks
      · exact keys typed inClients (key.trans blank)

theorem HasPasswords.updateInboundClient (kept : HasPasswords inbounds)
    {data : Inbound} {clientId : String}
    (guard : WritesPasswords inbounds (.updateInboundClient data clientId, host))
    (accepted : updateInboundClient inbounds data clientId host = .ok next) :
    HasPasswords next := by
  obtain ⟨first, rest, found, givenClients, stored, key⟩ :=
    updateInboundClient_key accepted
  obtain ⟨old, member, sameId, before, replacement, others, index, oldClients,
    given, rfl⟩ := updateInboundClient_eq_ok accepted
  have same : inbounds.find? data.id = some old :=
    Table.find?_eq_some.mpr ⟨member, sameId⟩
  obtain rfl := Option.some.inj (stored.symm.trans same)
  have typed : first.password = passwordOf replacement := by
    have both := map_password_getClients givenClients
    rw [passwords_of_array given] at both
    exact (List.cons.inj both).1
  apply kept.saveClients member
  intro isVpn client listed
  rcases List.mem_or_eq_of_mem_set listed with stays | rfl
  · rw [passwords_of_array oldClients]
    exact .inl (List.mem_map_of_mem stays)
  · rw [passwordOf_stampReplacing]
    refine .inr fun empty => ?_
    rcases clientKey_of_vpn isVpn first with unasks | keyed
    · refine guard found same unasks ?_
      rw [passwords_of_array given, List.map_cons, List.take_succ_cons, empty]
      exact List.mem_cons_self
    · exact key (keyed.trans (typed.trans empty))

/-- Copying so far: the store has its passwords and protocols, and a copy for
a VPN inbound has none. -/
structure CopyKeeps (inbounds : Inbounds) (target : Inbound)
    (progress : CopyProgress Inbounds) : Prop where
  kept : HasPasswords progress.store
  protocols : ∀ row ∈ progress.store, ∃ old ∈ inbounds, old.id = row.id ∧
    old.protocol = row.protocol
  blank : target.protocol.isVpnProtocol = true →
    ∀ client ∈ progress.newClients, client.password = ""

theorem buildTarget_password {target : Protocol}
    (isVpn : target.isVpnProtocol = true) (source : Client)
    (email flow uuid : String) (now : Int) :
    (buildTargetClientFromSource source target email flow uuid now).password =
      "" := by
  cases target with
  | vpn backend => rfl
  | _ => cases isVpn

theorem CopyKeeps.buildCopy {context : CopyContext}
    {progress : CopyProgress Inbounds}
    (keeps : CopyKeeps inbounds context.target progress) (client : Client) :
    CopyKeeps inbounds context.target (buildCopy context progress client) where
  kept := keeps.kept
  protocols := keeps.protocols
  blank := by
    intro isVpn copy member
    rcases List.mem_append.mp member with old | new
    · exact keeps.blank isVpn copy old
    · rw [List.mem_singleton.mp new]
      exact buildTarget_password isVpn ..

theorem CopyKeeps.copyClient (context : CopyContext)
    (source : context.source ∈ inbounds)
    {progress : CopyProgress Inbounds}
    (keeps : CopyKeeps inbounds context.target progress) {client : Client}
    (given : context.source.protocol.isVpnProtocol = true →
      client.password ≠ "") :
    CopyKeeps inbounds context.target
      (copyClient inboundWriter context progress client) := by
  unfold Panel.copyClient
  simp only
  split
  · split
    · exact ⟨keeps.kept, keeps.protocols, keeps.blank⟩
    next store written =>
      apply CopyKeeps.buildCopy
      unfold writeBackClientSubID at written
      simp only at written
      split at written
      · cases written
      rw [inboundWriter_updateInboundClient] at written
      have sameId : ∀ old ∈ progress.store, old.id = context.source.id →
          old.protocol = context.source.protocol := by
        intro old member same
        obtain ⟨before, inTable, id, protocol⟩ := keeps.protocols old member
        rw [← protocol, Table.eq_of_key_eq inTable source (id.trans same)]
      refine ⟨keeps.kept.updateInboundClient ?_ written, ?_, keeps.blank⟩
      · intro old found unasked
        obtain ⟨member, same⟩ := Table.find?_eq_some.mp found
        rw [passwords_clientsForm]
        have isVpn : context.source.protocol.isVpnProtocol = true := by
          rw [← sameId old member same]
          rcases unasked with isSstp | isOpenconnect
          · rw [isSstp]; rfl
          · rw [isOpenconnect]; rfl
        exact fun blank => given isVpn (List.mem_singleton.mp blank).symm
      · obtain ⟨old, member, -, stored, replacement, others, index, -, -, rfl⟩ :=
          updateInboundClient_eq_ok written
        intro row saved
        rcases Table.mem_save.mp saved with rfl | ⟨stays, -⟩
        · exact keeps.protocols old member
        · exact keeps.protocols row stays
  · exact keeps.buildCopy client

theorem HasPasswords.copyInboundClients (kept : HasPasswords inbounds)
    {targetId sourceId : Int} {clientEmails : List String} {flow : String}
    {uuid : Nat → String}
    (guard : WritesPasswords inbounds
      (.copyInboundClients targetId sourceId clientEmails flow uuid, host))
    {outcome : CopyOutcome Inbounds}
    (called : copyInboundClients inboundWriter inbounds targetId sourceId
      clientEmails flow uuid host = outcome)
    (succeeded : outcome.error = none) : HasPasswords outcome.store := by
  rcases copyInboundClients_cases called succeeded with
    same | ⟨target, source, clients, emails, -, foundTarget, foundSource, found,
      -, copied⟩
  · rw [same]
    exact kept
  obtain ⟨targetMember, targetKey⟩ := Table.find?_eq_some.mp foundTarget
  obtain ⟨sourceMember, -⟩ := Table.find?_eq_some.mp foundSource
  have keeps : CopyKeeps inbounds target (copyAll inboundWriter
      ⟨source, target, flow, uuid, host⟩ inbounds emails
      (clients.filter (copies clientEmails))) := by
    apply List.foldlRecOn
    · exact ⟨kept, fun row member => ⟨row, member, rfl, rfl⟩,
        fun _ _ member => by cases member⟩
    · intro progress keeps client selected
      apply CopyKeeps.copyClient ⟨source, target, flow, uuid, host⟩
        sourceMember keeps
      intro isVpn blank
      apply kept source sourceMember isVpn
      rw [← map_password_getClients found, ← blank]
      exact List.mem_map_of_mem (List.mem_of_mem_filter selected)
  simp only at copied
  rcases copied with ⟨-, same⟩ | ⟨some, added⟩
  · rw [same]
    exact keeps.kept
  · rw [inboundWriter_addInboundClient] at added
    refine keeps.kept.addInboundClient ?_ added
    intro old stored unasked
    obtain ⟨member, sameId⟩ := Table.find?_eq_some.mp stored
    obtain ⟨before, inTable, id, protocol⟩ := keeps.protocols old member
    obtain rfl := Table.eq_of_key_eq inTable targetMember
      ((id.trans sameId).trans targetKey.symm)
    rw [← protocol] at unasked
    have none := guard before source clients foundTarget foundSource unasked
      found
    rw [none] at some
    exact absurd rfl some

/-- One guarded request keeps the passwords. -/
theorem HasPasswords.step (kept : HasPasswords inbounds)
    {call : CredentialEvent × PanelHost} (guard : WritesPasswords inbounds call)
    (stepped : writeCredentials inbounds call = some next) :
    HasPasswords next := by
  obtain ⟨event, host⟩ := call
  have succeeded : ∀ {result : Except PanelError Inbounds},
      result.toOption = some next → result = .ok next := by
    intro result written
    cases result with
    | error => cases written
    | ok table => rw [← Option.some.inj written]
  cases event with
  | addInbound form => exact kept.addInbound guard (succeeded stepped)
  | updateInbound form => exact kept.updateInbound guard (succeeded stepped)
  | addInboundClient data =>
      exact kept.addInboundClient guard (succeeded stepped)
  | updateInboundClient data clientId =>
      exact kept.updateInboundClient guard (succeeded stepped)
  | copyInboundClients targetId sourceId clientEmails flow uuid =>
      simp only [writeCredentials] at stepped
      split at stepped
      next none =>
        rw [← Option.some.inj stepped]
        exact kept.copyInboundClients guard rfl none
      next => cases stepped

end Steps

/-- A response that is the one of the user User and the password clientPass to
one pair of challenges, and none anywhere else. -/
def sampleNtResponse : NtResponse := fun challenge peerChallenge username
    password =>
  if challenge = [0x5B, 0x5D, 0x7C, 0x7D, 0x7B, 0x3F, 0x2F, 0x3E, 0x3C, 0x2C,
        0x60, 0x21, 0x32, 0x26, 0x26, 0x28] ∧
      peerChallenge = [0x21, 0x40, 0x23, 0x24, 0x25, 0x5E, 0x26, 0x2A, 0x28,
        0x29, 0x5F, 0x2B, 0x3A, 0x33, 0x7C, 0x7E] ∧
      username = "User" ∧ password = "clientPass" then
    some [0x82, 0x30, 0x9E, 0xCD, 0x8D, 0x70, 0x8B, 0x5E, 0xA0, 0x8F, 0xAA,
      0x39, 0x81, 0xCD, 0x83, 0x54, 0x42, 0x33, 0x11, 0x4A, 0x3D, 0x85, 0xD6,
      0xDF]
  else none

theorem separates_sampleNtResponse : Separates sampleNtResponse := by
  intro challenge peerChallenge username password response nonempty responded
  unfold sampleNtResponse
  split
  next blank => exact absurd blank.2.2.2 (by decide)
  next => simp

/-- An OpenConnect inbound whose one client has the given password. -/
def openconnectForm (password : String) : Inbound :=
  ⟨0, "", 443, .vpn .openconnect, .parsed (.obj [("clients", .arr [.obj [
    ("id", .str "User"), ("password", .str password), ("email", .str "e1"),
    ("enable", .bool true)]])]), true, ""⟩

end VpnUi.Radius
