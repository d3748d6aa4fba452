import VpnUi.Panel.Operations

namespace VpnUi.Panel

open Foundation

/-! What an accepted operation has done to the table: one row was saved or one
was deleted. -/

variable {inbounds next : Inbounds} {inbound row : Inbound} {host : PanelHost}

theorem saveInbound_eq_ok (saved : saveInbound inbounds row = .ok next) :
    next = inbounds.save row := by
  unfold saveInbound at saved
  split at saved
  · cases saved
  · exact (Except.ok.inj saved).symm

theorem addInbound_eq_ok
    (accepted : addInbound inbounds inbound host = .ok next) :
    ∃ clients, getClients inbound.settings = some clients ∧
      next = inbounds.save { inbound with
        id := if inbound.id = 0 then host.freshId else inbound.id
        settings := stampAdded inbound.settings clients host.now } := by
  unfold addInbound at accepted
  simp only [bind, Except.bind] at accepted
  split at accepted
  · cases accepted
  split at accepted
  · cases accepted
  split at accepted
  · cases accepted
  next clients found =>
    refine ⟨clients, found, ?_⟩
    split at accepted
    · cases accepted
    split at accepted
    · cases accepted
    split at accepted
    · cases accepted
    exact saveInbound_eq_ok accepted

/-- Both checks have passed. -/
theorem addInbound_checked
    (accepted : addInbound inbounds inbound host = .ok next) :
    validateInboundConfig inbound = .ok () ∧
      checkPortExist inbounds inbound.listen inbound.port 0 = false := by
  unfold addInbound at accepted
  simp only [bind, Except.bind] at accepted
  split at accepted
  · cases accepted
  next valid =>
    split at accepted
    · cases accepted
    next free =>
      refine ⟨valid, ?_⟩
      by_contra taken
      simp [taken] at free

theorem updateInbound_checked
    (accepted : updateInbound inbounds inbound host = .ok next) :
    validateInboundConfig inbound = .ok () ∧
      checkPortExist inbounds inbound.listen inbound.port inbound.id =
        false := by
  unfold updateInbound at accepted
  simp only [bind, Except.bind] at accepted
  split at accepted
  · cases accepted
  next valid =>
    split at accepted
    · cases accepted
    next free =>
      refine ⟨valid, ?_⟩
      by_contra taken
      simp [taken] at free

/-- The port of an OpenVPN inbound may be its UDP port alone. -/
theorem validPort_of_validate (other : inbound.protocol ≠ .vpn .openvpn)
    (valid : validateInboundConfig inbound = .ok ()) :
    validPort inbound.port = true := by
  unfold validateInboundConfig at valid
  split at valid
  next openvpn => exact absurd openvpn other
  next =>
    split at valid
    · cases valid
    · split at valid
      · cases valid
      next inside => simpa using inside
  next =>
    split at valid
    next inside => exact inside
    · cases valid

/-- A free port is taken by no other row whose listen address is the same, or
one of the two listens everywhere. -/
theorem checkPortExist_eq_false {listen : String} {port ignoreId : Int}
    (free : checkPortExist inbounds listen port ignoreId = false)
    (member : row ∈ inbounds) (other : ignoreId ≤ 0 ∨ row.id ≠ ignoreId) :
    ¬ (row.port = port ∧ (anyListen listen = true ∨ row.listen = listen ∨
      anyListen row.listen = true)) := by
  have missed := List.any_eq_false.mp free row member
  simpa [other, or_assoc] using missed

/-- Every client of an added inbound gives the field its protocol asks for. -/
theorem addInbound_keys
    (accepted : addInbound inbounds inbound host = .ok next)
    {clients : List Client} (found : getClients inbound.settings = some clients)
    {client : Client} (member : client ∈ clients) :
    addedClientKey inbound.protocol client ≠ "" := by
  unfold addInbound at accepted
  simp only [bind, Except.bind, found] at accepted
  split at accepted
  · cases accepted
  split at accepted
  · cases accepted
  split at accepted
  · cases accepted
  split at accepted
  · cases accepted
  next keyed =>
    intro blank
    have any : clients.any (fun client =>
        addedClientKey inbound.protocol client = "") = true :=
      List.any_eq_true.mpr ⟨client, member, by simpa using blank⟩
    simp [any] at keyed

theorem updateInbound_eq_ok
    (accepted : updateInbound inbounds inbound host = .ok next) :
    ∃ old ∈ inbounds, old.id = inbound.id ∧
      next = inbounds.save { old with
        enable := inbound.enable
        listen := inbound.listen
        port := inbound.port
        protocol := inbound.protocol
        settings := stampUpdated old.settings inbound.settings host.now
        tag := inboundTag inbound.listen inbound.port } := by
  unfold updateInbound at accepted
  simp only [bind, Except.bind] at accepted
  split at accepted
  · cases accepted
  split at accepted
  · cases accepted
  split at accepted
  · cases accepted
  next old found =>
    obtain ⟨member, same⟩ := Table.find?_eq_some.mp found
    refine ⟨old, member, same, ?_⟩
    split at accepted
    · cases accepted
    split at accepted
    · cases accepted
    exact saveInbound_eq_ok accepted

theorem delInbound_eq_ok {id : Int}
    (accepted : delInbound inbounds id host = .ok next) :
    next = inbounds.delete id := by
  unfold delInbound at accepted
  split at accepted
  · cases accepted
  split at accepted
  · cases accepted
  split at accepted
  · exact (Except.ok.inj accepted).symm
  · cases accepted

theorem settingsMap_eq_ok {settings : JsonText} {fields : JsonObject}
    (read : settingsMap settings = .ok fields) : fields = settings.fields := by
  unfold settingsMap at read
  unfold JsonText.fields
  split at read
  · cases read
  next raw found =>
    rw [found, ← Except.ok.inj read]
    rfl

theorem clientArray_eq_ok {fields : JsonObject} {clients : List Json}
    (read : clientArray fields = .ok clients) :
    fields.get "clients" = .arr clients := by
  unfold clientArray at read
  split at read
  next found => rw [found, Except.ok.inj read]
  · cases read

/-- The clients of a stored inbound are replaced by `clients`. -/
def withClients (old : Inbound) (clients : List Json) : Inbound :=
  { old with
    settings := .parsed (.obj (JsonObject.set old.settings.fields "clients"
      (.arr clients))) }

theorem addInboundClient_eq_ok
    (accepted : addInboundClient inbounds inbound host = .ok next) :
    ∃ old ∈ inbounds, old.id = inbound.id ∧ ∃ stored added,
      old.settings.fields.get "clients" = .arr stored ∧
      inbound.settings.fields.get "clients" = .arr added ∧
      next = inbounds.save (withClients old
        (stored ++ added.map (stampNewClient host.now))) := by
  unfold addInboundClient at accepted
  simp only [bind, Except.bind] at accepted
  split at accepted
  · cases accepted
  split at accepted
  · cases accepted
  next given readGiven =>
    rw [settingsMap_eq_ok readGiven] at accepted
    split at accepted
    · cases accepted
    next added givenClients =>
      split at accepted
      · cases accepted
      split at accepted
      · cases accepted
      next old found =>
        obtain ⟨member, same⟩ := Table.find?_eq_some.mp found
        refine ⟨old, member, same, ?_⟩
        split at accepted
        · cases accepted
        split at accepted
        · cases accepted
        split at accepted
        · cases accepted
        next fields readFields =>
          rw [settingsMap_eq_ok readFields] at accepted
          split at accepted
          · cases accepted
          next stored storedClients =>
            split at accepted
            · cases accepted
            exact ⟨stored, added, clientArray_eq_ok storedClients,
              clientArray_eq_ok givenClients, saveInbound_eq_ok accepted⟩

theorem addInboundClient_keys
    (accepted : addInboundClient inbounds inbound host = .ok next) :
    ∃ clients old, getClients inbound.settings = some clients ∧
      inbounds.find? inbound.id = some old ∧
      ∀ client ∈ clients, clientKey old.protocol client ≠ "" := by
  unfold addInboundClient at accepted
  simp only [bind, Except.bind] at accepted
  split at accepted
  · cases accepted
  next clients found =>
    split at accepted
    · cases accepted
    split at accepted
    · cases accepted
    split at accepted
    · cases accepted
    split at accepted
    · cases accepted
    next old stored =>
      refine ⟨clients, old, found, stored, fun client member blank => ?_⟩
      have any : clients.any (fun client =>
          clientKey old.protocol client = "") = true :=
        List.any_eq_true.mpr ⟨client, member, by simpa using blank⟩
      simp [any] at accepted

theorem delInboundClient_eq_ok {id : Int} {clientId : String}
    (accepted : delInboundClient inbounds id clientId host = .ok next) :
    ∃ old ∈ inbounds, old.id = id ∧ ∃ stored,
      old.settings.fields.get "clients" = .arr stored ∧
      next = inbounds.save (withClients old (stored.filter fun client =>
        keyText (clientKeyName old.protocol) client ≠ some clientId)) := by
  unfold delInboundClient at accepted
  simp only [bind, Except.bind] at accepted
  split at accepted
  · cases accepted
  next old found =>
    obtain ⟨member, same⟩ := Table.find?_eq_some.mp found
    refine ⟨old, member, same, ?_⟩
    split at accepted
    · cases accepted
    next fields readFields =>
      rw [settingsMap_eq_ok readFields] at accepted
      split at accepted
      · cases accepted
      next stored storedClients =>
        split at accepted
        · cases accepted
        split at accepted
        · cases accepted
        split at accepted
        · cases accepted
        exact ⟨stored, clientArray_eq_ok storedClients,
          saveInbound_eq_ok accepted⟩

theorem replaceClient_eq_ok {old : Inbound} {oldClients clients : List Client}
    {clientId : String} {client : Client} {replacement : Json}
    (accepted : replaceClient inbounds old oldClients clients clientId client
      replacement host = .ok next) :
    ∃ stored index, old.settings.fields.get "clients" = .arr stored ∧
      next = inbounds.save (withClients old (stored.set index
        (stampReplacing stored[index]? host.now replacement))) := by
  unfold replaceClient at accepted
  simp only [bind, Except.bind] at accepted
  split at accepted
  · cases accepted
  split at accepted
  · cases accepted
  next index _ =>
    have stores : ∀ fields stored, settingsMap old.settings = .ok fields →
        clientArray fields = .ok stored →
        saveInbound inbounds { old with
          settings := .parsed (.obj (JsonObject.set fields "clients"
            (.arr (stored.set index
              (stampReplacing stored[index]? host.now replacement))))) } =
          .ok next →
        ∃ stored index, old.settings.fields.get "clients" = .arr stored ∧
          next = inbounds.save (withClients old (stored.set index
            (stampReplacing stored[index]? host.now replacement))) := by
      intro fields stored readFields storedClients saved
      rw [settingsMap_eq_ok readFields] at saved storedClients
      exact ⟨stored, index, clientArray_eq_ok storedClients,
        saveInbound_eq_ok saved⟩
    repeat' split at accepted
    all_goals first
      | cases accepted
      | exact stores _ _ ‹_› ‹_› accepted

theorem updateInboundClient_eq_ok {clientId : String}
    (accepted : updateInboundClient inbounds inbound clientId host =
      .ok next) :
    ∃ old ∈ inbounds, old.id = inbound.id ∧
      ∃ stored replacement given index,
        old.settings.fields.get "clients" = .arr stored ∧
        inbound.settings.fields.get "clients" = .arr (replacement :: given) ∧
        next = inbounds.save (withClients old (stored.set index
          (stampReplacing stored[index]? host.now replacement))) := by
  unfold updateInboundClient at accepted
  simp only [bind, Except.bind] at accepted
  split at accepted
  · cases accepted
  split at accepted
  · cases accepted
  next fields readFields =>
    rw [settingsMap_eq_ok readFields] at accepted
    split at accepted
    · cases accepted
    next given givenClients =>
      split at accepted
      · cases accepted
      next old found =>
        obtain ⟨member, same⟩ := Table.find?_eq_some.mp found
        refine ⟨old, member, same, ?_⟩
        split at accepted
        · cases accepted
        split at accepted
        · cases accepted
        split at accepted
        next _ _ replacement rest _ =>
          obtain ⟨stored, index, storedClients, saved⟩ :=
            replaceClient_eq_ok accepted
          exact ⟨stored, replacement, rest, index, storedClients,
            clientArray_eq_ok givenClients, saved⟩
        · cases accepted

theorem updateInboundClient_key {clientId : String}
    (accepted : updateInboundClient inbounds inbound clientId host =
      .ok next) :
    ∃ client rest old, getClients inbound.settings = some (client :: rest) ∧
      inbounds.find? inbound.id = some old ∧
      clientKey old.protocol client ≠ "" := by
  unfold updateInboundClient at accepted
  simp only [bind, Except.bind] at accepted
  split at accepted
  · cases accepted
  next clients found =>
    split at accepted
    · cases accepted
    split at accepted
    · cases accepted
    split at accepted
    · cases accepted
    next old stored =>
      split at accepted
      · cases accepted
      split at accepted
      · cases accepted
      split at accepted
      next client rest replacement others read =>
        refine ⟨client, rest, old, found, stored, fun blank => ?_⟩
        simp [replaceClient, blank, bind, Except.bind] at accepted
      · cases accepted

end VpnUi.Panel
