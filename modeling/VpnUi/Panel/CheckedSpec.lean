import VpnUi.Panel.Checked
import VpnUi.Panel.OperationsSpec

namespace VpnUi.Panel

open Foundation

/-! What the checks of an operation have found where they are passed. -/

variable {inbounds : Inbounds} {inbound : Inbound} {host : PanelHost}

theorem bind_eq_ok {Error Value Result : Type} {first : Except Error Value}
    {next : Value → Except Error Result} {result : Result}
    (bound : first.bind next = .ok result) :
    ∃ value, first = .ok value ∧ next value = .ok result := by
  cases first with
  | error error => cases bound
  | ok value => exact ⟨value, rfl, bound⟩

structure AddedInbound (inbounds : Inbounds) (inbound : Inbound)
    (host : PanelHost) (added : Checked) : Prop where
  clients : getClients inbound.settings = some added.clients
  emails : checkEmails inbounds added.clients = .ok ()
  row : added.row = { inbound with
    id := if inbound.id = 0 then host.freshId else inbound.id
    settings := stampAdded inbound.settings added.clients host.now }

theorem addedInbound_eq_ok {added : Checked}
    (accepted : addedInbound inbounds inbound host = .ok added) :
    AddedInbound inbounds inbound host added := by
  unfold addedInbound at accepted
  simp only [bind, Except.bind] at accepted
  split at accepted
  · cases accepted
  split at accepted
  · cases accepted
  split at accepted
  · cases accepted
  next clients found =>
    split at accepted
    · cases accepted
    next emails =>
      split at accepted
      · cases accepted
      split at accepted
      · cases accepted
      rw [← Except.ok.inj accepted]
      exact ⟨found, emails, rfl⟩

structure UpdatedInbound (inbounds : Inbounds) (inbound : Inbound)
    (host : PanelHost) (updated : Updated) (old : Inbound) : Prop where
  found : inbounds.find? inbound.id = some old
  oldClients : getClients old.settings = some updated.oldClients
  newClients : getClients inbound.settings = some updated.newClients
  row : updated.row = { old with
    enable := inbound.enable
    listen := inbound.listen
    port := inbound.port
    protocol := inbound.protocol
    settings := stampUpdated old.settings inbound.settings host.now
    tag := inboundTag inbound.listen inbound.port }

theorem updatedInbound_eq_ok {updated : Updated}
    (accepted : updatedInbound inbounds inbound host = .ok updated) :
    ∃ old, UpdatedInbound inbounds inbound host updated old := by
  unfold updatedInbound at accepted
  simp only [bind, Except.bind] at accepted
  split at accepted
  · cases accepted
  split at accepted
  · cases accepted
  split at accepted
  · cases accepted
  next old found =>
    split at accepted
    next oldClients newClients oldRead newRead =>
      rw [← Except.ok.inj accepted]
      exact ⟨old, found, oldRead, newRead, rfl⟩
    · cases accepted

structure AddedClients (inbounds : Inbounds) (data old : Inbound)
    (host : PanelHost) (checked : Checked) (stored added : List Json) :
    Prop where
  found : inbounds.find? data.id = some old
  clients : getClients data.settings = some checked.clients
  emails : checkEmails inbounds checked.clients = .ok ()
  read : old.settings.fields.get "clients" = .arr stored
  given : data.settings.fields.get "clients" = .arr added
  row : checked.row =
    withClients old (stored ++ added.map (stampNewClient host.now))

theorem addedClients_eq_ok {data : Inbound} {found : Inbound × Checked}
    (accepted : addedClients inbounds data host = .ok found) :
    ∃ stored added,
      AddedClients inbounds data found.1 host found.2 stored added := by
  unfold addedClients at accepted
  simp only [bind, Except.bind] at accepted
  split at accepted
  · cases accepted
  next clients found =>
    split at accepted
    · cases accepted
    next given readGiven =>
      rw [settingsMap_eq_ok readGiven] at accepted
      split at accepted
      · cases accepted
      next added givenClients =>
        split at accepted
        · cases accepted
        next emails =>
          split at accepted
          · cases accepted
          next row stored =>
            split at accepted
            · cases accepted
            split at accepted
            · cases accepted
            split at accepted
            · cases accepted
            next fields readFields =>
              rw [settingsMap_eq_ok readFields] at accepted
              split at accepted
              · cases accepted
              next items storedClients =>
                rw [← Except.ok.inj accepted]
                exact ⟨items, added, stored, found, emails,
                  clientArray_eq_ok storedClients,
                  clientArray_eq_ok givenClients, rfl⟩

structure RemovedClient (inbounds : Inbounds) (id : Int) (clientId : String)
    (removal : Removal) (old : Inbound) (stored : List Json) : Prop where
  found : inbounds.find? id = some old
  read : old.settings.fields.get "clients" = .arr stored
  row : removal.row = withClients old (stored.filter fun client =>
    keyText (clientKeyName old.protocol) client ≠ some clientId)
  email : removal.email = ((stored.filter fun client =>
    keyText (clientKeyName old.protocol) client =
      some clientId).getLast?.map clientEmail).getD ""
  enable : removal.enable = ((stored.filter fun client =>
    keyText (clientKeyName old.protocol) client =
      some clientId).getLast?.map clientEnable).getD false

theorem removedClient_eq_ok {id : Int} {clientId : String} {removal : Removal}
    (accepted : removedClient inbounds id clientId = .ok removal) :
    ∃ old stored, RemovedClient inbounds id clientId removal old stored := by
  unfold removedClient at accepted
  simp only [bind, Except.bind] at accepted
  split at accepted
  · cases accepted
  next old found =>
    split at accepted
    · cases accepted
    next fields readFields =>
      rw [settingsMap_eq_ok readFields] at accepted
      split at accepted
      · cases accepted
      next stored storedClients =>
        split at accepted
        · cases accepted
        split at accepted
        · cases accepted
        rw [← Except.ok.inj accepted]
        exact ⟨old, stored, found, clientArray_eq_ok storedClients, rfl, rfl,
          rfl⟩

structure UpdatedClient (inbounds : Inbounds) (data : Inbound)
    (clientId : String) (host : PanelHost) (replacement : Replacement)
    (oldClients rest : List Client) (stored others : List Json) (item : Json)
    (index : Nat) : Prop where
  found : inbounds.find? data.id = some replacement.old
  oldRead : getClients replacement.old.settings = some oldClients
  clients : getClients data.settings = some (replacement.client :: rest)
  given : data.settings.fields.get "clients" = .arr (item :: others)
  placed : (oldClients.findIdx? fun other =>
    clientId = clientKey replacement.old.protocol other) = some index
  oldClient : replacement.oldClient = oldClients[index]?
  emails : replacement.client.email ≠ "" →
    replacement.client.email ≠ replacement.oldEmail →
      checkEmails inbounds (replacement.client :: rest) = .ok ()
  read : replacement.old.settings.fields.get "clients" = .arr stored
  row : replacement.row = withClients replacement.old
    (stored.set index (stampReplacing stored[index]? host.now item))

theorem replacedClient_eq_ok {old : Inbound}
    {oldClients clients : List Client} {clientId : String} {client : Client}
    {item : Json} {replacement : Replacement}
    (accepted : replacedClient inbounds old oldClients clients clientId client
      item host = .ok replacement) :
    ∃ index stored,
      (oldClients.findIdx? fun other =>
        clientId = clientKey old.protocol other) = some index ∧
      (client.email ≠ "" →
        client.email ≠ oldClients[index]?.elim "" Client.email →
          checkEmails inbounds clients = .ok ()) ∧
      old.settings.fields.get "clients" = .arr stored ∧
      replacement = ⟨old, withClients old (stored.set index
        (stampReplacing stored[index]? host.now item)), oldClients[index]?,
        client⟩ := by
  unfold replacedClient at accepted
  simp only [bind] at accepted
  split at accepted
  · cases accepted
  split at accepted
  · cases accepted
  next index placed =>
    have stores : ((settingsMap old.settings).bind fun fields =>
        (clientArray fields).bind fun stored => .ok ⟨old, { old with
          settings := .parsed (.obj (JsonObject.set fields "clients"
            (.arr (stored.set index
              (stampReplacing stored[index]? host.now item))))) },
          oldClients[index]?, client⟩) = .ok replacement →
        ∃ stored, old.settings.fields.get "clients" = .arr stored ∧
          replacement = ⟨old, withClients old (stored.set index
            (stampReplacing stored[index]? host.now item)),
            oldClients[index]?, client⟩ := by
      intro made
      obtain ⟨fields, readFields, made⟩ := bind_eq_ok made
      rw [settingsMap_eq_ok readFields] at made
      obtain ⟨stored, storedClients, made⟩ := bind_eq_ok made
      exact ⟨stored, clientArray_eq_ok storedClients,
        (Except.ok.inj made).symm⟩
    split at accepted
    next needed =>
      obtain ⟨_, checked, made⟩ := bind_eq_ok accepted
      split at made
      · obtain ⟨_, -, made⟩ := bind_eq_ok made
        obtain ⟨stored, read, made⟩ := stores made
        exact ⟨index, stored, placed, fun _ _ => checked, read, made⟩
      · obtain ⟨stored, read, made⟩ := stores made
        exact ⟨index, stored, placed, fun _ _ => checked, read, made⟩
    next unneeded =>
      have unchecked : client.email ≠ "" →
          client.email ≠ oldClients[index]?.elim "" Client.email →
            checkEmails inbounds clients = .ok () :=
        fun named differs => absurd ⟨named, differs⟩ unneeded
      split at accepted
      · obtain ⟨_, -, made⟩ := bind_eq_ok accepted
        obtain ⟨stored, read, made⟩ := stores made
        exact ⟨index, stored, placed, unchecked, read, made⟩
      · obtain ⟨stored, read, made⟩ := stores accepted
        exact ⟨index, stored, placed, unchecked, read, made⟩

theorem updatedClient_eq_ok {data : Inbound} {clientId : String}
    {replacement : Replacement}
    (accepted : updatedClient inbounds data clientId host = .ok replacement) :
    ∃ oldClients rest stored others item index,
      UpdatedClient inbounds data clientId host replacement oldClients rest
        stored others item index := by
  unfold updatedClient at accepted
  simp only [bind, Except.bind] at accepted
  split at accepted
  · cases accepted
  next clients clientsRead =>
    split at accepted
    · cases accepted
    next fields readFields =>
      rw [settingsMap_eq_ok readFields] at accepted
      split at accepted
      · cases accepted
      next given givenClients =>
        split at accepted
        · cases accepted
        next old found =>
          split at accepted
          · cases accepted
          next oldClients oldRead =>
            split at accepted
            · cases accepted
            split at accepted
            next client rest item others =>
              obtain ⟨index, stored, placed, emails, read, rfl⟩ :=
                replacedClient_eq_ok accepted
              exact ⟨oldClients, rest, stored, others, item, index, found,
                oldRead, clientsRead, clientArray_eq_ok givenClients, placed,
                rfl, emails, read, rfl⟩
            · cases accepted

end VpnUi.Panel
