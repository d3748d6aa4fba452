import VpnUi.Form.VpnForm
import VpnUi.Store.Background

namespace VpnUi.Store

open Foundation Panel

/-! The form of an inbound: it is opened on the row of one moment, and saved over
the row of a later one. -/

/-- What an operator changes in the form: none of it is in the clients.  A reset
of the inbound's traffic sends the form with zero counters. -/
structure InboundEdit where
  resetsTraffic : Bool
  total : Option Int
  enable : Option Bool
  expiryTime : Option Int
  listen : Option String
  port : Option Int
  settings : List (String × Json)
  spares : ∀ entry ∈ settings, entry.1 ≠ "clients"

namespace InboundEdit

variable (edit : InboundEdit)

def editSettings (settings : JsonText) : JsonText :=
  if edit.settings = [] then settings
  else
    .parsed (.obj (edit.settings.foldl
      (fun fields entry => JsonObject.set fields entry.1 entry.2)
      settings.fields))

/-- A row with these fields replaced; its tag follows a new address. -/
def apply (row : StoredInbound) : StoredInbound :=
  let listen := edit.listen.getD row.listen
  let port := edit.port.getD row.port
  { row with
    up := if edit.resetsTraffic then 0 else row.up
    down := if edit.resetsTraffic then 0 else row.down
    total := edit.total.getD row.total
    enable := edit.enable.getD row.enable
    expiryTime := edit.expiryTime.getD row.expiryTime
    listen := listen
    port := port
    tag := if edit.listen.isSome || edit.port.isSome then inboundTag listen port
      else row.tag
    settings := edit.editSettings row.settings }

/-- The form that is sent: all columns come from the row it was opened on, and
`print` is what the browser prints of the settings it has read. -/
def payload (print : JsonText → JsonText) (loaded : StoredInbound) :
    StoredInbound :=
  edit.apply { loaded with settings := print loaded.settings }

end InboundEdit

/-! Settings up to the order of the fields. -/

def ClientsAlike (like : Json → Json → Prop) (clients wanted : Json) : Prop :=
  match clients, wanted with
  | .arr items, .arr others => List.Forall₂ like items others
  | _, _ => clients = wanted

/-- The same fields, apart from the clients, and clients that are alike. -/
def SettingsAlike (like : Json → Json → Prop) (settings wanted : JsonText) :
    Prop :=
  match settings, wanted with
  | .parsed (.obj fields), .parsed (.obj others) =>
      (∀ key, key ≠ "clients" →
        JsonObject.get? fields key = JsonObject.get? others key) ∧
      ClientsAlike like (JsonObject.get fields "clients")
        (JsonObject.get others "clients")
  | _, _ => settings = wanted

def SameItem (item wanted : Json) : Prop :=
  match item, wanted with
  | .obj client, .obj other =>
      ∀ key, JsonObject.get? client key = JsonObject.get? other key
  | _, _ => item = wanted

/-- After the save there is the wanted row, and nothing else has changed. -/
def SavesOnly (database : Database) (wanted : StoredInbound)
    (after : Database) : Prop :=
  ∃ settings, SettingsAlike SameItem settings wanted.settings ∧
    after = { database with inbounds :=
      database.inbounds.save { wanted with settings := settings } }

/-! What the form has to find unchanged. -/

/-- A field of a client that the form sends; the times it lacks are filled in
from the stored client of the e-mail, or from the clock. -/
def filled (old : JsonText) (now : Int) (sent : JsonObject) (key : String) :
    Option Json :=
  let email := (sent.get "email").text.value
  match sent.get? key with
  | some value => some value
  | none =>
      if key = "created_at" then
        some (.int ((oldStamp old "created_at" email).getD now))
      else if key = "updated_at" then
        (oldStamp old "updated_at" email).map Json.int
      else none

def SentAlike (old : JsonText) (now : Int) (item wanted : Json) : Prop :=
  match item, wanted with
  | .obj sent, .obj client =>
      ∀ key, filled old now sent key = JsonObject.get? client key
  | _, _ => item = wanted

/-- Nothing that the form carries, and the operator left alone, has changed
since the form was opened. -/
structure UpToDate (edit : InboundEdit) (print : JsonText → JsonText)
    (loaded row : StoredInbound) (now : Int) : Prop where
  counters : edit.resetsTraffic = true ∨
    row.up = loaded.up ∧ row.down = loaded.down
  enable : edit.enable.isSome = true ∨ row.enable = loaded.enable
  tag : edit.listen.isSome = true ∨ edit.port.isSome = true ∨
    row.tag = inboundTag row.listen row.port
  settings : SettingsAlike (SentAlike row.settings now)
    (edit.editSettings (print loaded.settings)) (edit.editSettings row.settings)

section Settings

variable {like : Json → Json → Prop} {old sent wanted : JsonText} {now : Int}

theorem get?_stampUpdatedClient {fields stamped : JsonObject}
    (done : stampUpdatedClient old now (.obj fields) = .obj stamped)
    (key : String) :
    JsonObject.get? stamped key = filled old now fields key := by
  obtain rfl := Json.obj.inj done
  generalize start : (if (JsonObject.get? fields "created_at").isSome then
    fields else JsonObject.set fields "created_at" (.int ((oldStamp old
      "created_at" (JsonObject.get fields "email").text.value).getD now))) =
        created
  have others : ∀ other, other ≠ "created_at" →
      JsonObject.get? created other = JsonObject.get? fields other := by
    intro other differs
    rw [← start]
    split
    · rfl
    · exact JsonObject.get?_set_ne differs
  by_cases updated : key = "updated_at"
  · subst updated
    have kept := others "updated_at" (by decide)
    unfold filled
    cases given : JsonObject.get? fields "updated_at" with
    | some value =>
        rw [given] at kept
        simpa using kept
    | none =>
        rw [given] at kept
        cases stamp : oldStamp old "updated_at"
            (JsonObject.get fields "email").text.value with
        | none => simpa [stamp] using kept
        | some time => simp [JsonObject.get?_set_self, stamp]
  · have kept : ∀ stamped, (stamped = created ∨ ∃ stamp, stamped =
        JsonObject.set created "updated_at" (.int stamp)) →
          JsonObject.get? stamped key = JsonObject.get? created key := by
      rintro stamped (rfl | ⟨stamp, rfl⟩)
      · rfl
      · exact JsonObject.get?_set_ne updated
    rw [kept _ ?_]
    · unfold filled
      by_cases made : key = "created_at"
      · subst made
        rw [← start]
        cases given : JsonObject.get? fields "created_at" with
        | some value => simpa using given
        | none => simp [JsonObject.get?_set_self]
      · rw [others key made]
        simp only [if_neg made, if_neg updated]
        cases JsonObject.get? fields key <;> rfl
    · split
      · exact .inl rfl
      · split
        · exact .inl rfl
        · exact .inr ⟨_, rfl⟩

theorem sameItem_stampUpdatedClient {item client : Json} :
    SameItem (stampUpdatedClient old now item) client ↔
      SentAlike old now item client := by
  cases item with
  | obj fields =>
      cases client with
      | obj wanted =>
          have stamped := @get?_stampUpdatedClient old now fields _ rfl
          constructor
          · intro same key
            rw [← stamped key]
            exact same key
          · intro alike key
            rw [stamped key]
            exact alike key
      | _ => exact iff_of_false (by rintro ⟨⟩) (by rintro ⟨⟩)
  | _ => rfl

theorem clientsAlike_stamped {clients client : Json} :
    ClientsAlike SameItem
        (match clients with
        | .arr items => .arr (items.map (stampUpdatedClient old now))
        | other => other) client ↔
      ClientsAlike (SentAlike old now) clients client := by
  cases clients with
  | arr items =>
      cases client with
      | arr others =>
          change List.Forall₂ SameItem (items.map _) others ↔
            List.Forall₂ _ items others
          simp only [List.forall₂_map_left_iff, sameItem_stampUpdatedClient]
      | _ => exact iff_of_false Json.noConfusion Json.noConfusion
  | _ => rfl

/-- Only the clients are stamped. -/
theorem stampUpdated_object {fields : JsonObject} :
    ∃ stamped, stampUpdated old (.parsed (.obj fields)) now =
        .parsed (.obj stamped) ∧
      (∀ key, key ≠ "clients" →
        JsonObject.get? stamped key = JsonObject.get? fields key) ∧
      JsonObject.get stamped "clients" =
        match JsonObject.get fields "clients" with
        | .arr items => .arr (items.map (stampUpdatedClient old now))
        | other => other := by
  unfold stampUpdated
  cases clients : JsonObject.get fields "clients" with
  | arr items =>
      exact ⟨_, by simp [clients], fun key other => JsonObject.get?_set_ne other,
        JsonObject.get_set_self⟩
  | _ => exact ⟨fields, by simp [clients], fun _ _ => rfl, clients⟩

/-- What is saved for a form is as wanted when the form sends what is wanted. -/
theorem settingsAlike_stampUpdated :
    SettingsAlike SameItem (stampUpdated old sent now) wanted ↔
      SettingsAlike (SentAlike old now) sent wanted := by
  have objects : ∀ fields, SettingsAlike SameItem
      (stampUpdated old (.parsed (.obj fields)) now) wanted ↔
        SettingsAlike (SentAlike old now) (.parsed (.obj fields)) wanted := by
    intro fields
    obtain ⟨stamped, done, others, clients⟩ := @stampUpdated_object old now fields
    rw [done]
    cases wanted with
    | parsed json =>
        cases json with
        | obj wanted =>
            change (∀ key, _) ∧ ClientsAlike _ _ _ ↔ (∀ key, _) ∧ _
            rw [clients, clientsAlike_stamped]
            apply and_congr_left'
            exact forall₂_congr fun key other => by rw [others key other]
        | _ =>
            change _ = _ ↔ _ = _
            simp
    | _ =>
        change _ = _ ↔ _ = _
        simp
  cases sent with
  | parsed json =>
      cases json with
      | obj fields => exact objects fields
      | _ => rfl
  | _ => rfl

theorem emails_eq_readAll {settings : JsonText} :
    emails settings = readAll (fun item => (limitsOf item).email) settings := by
  unfold emails limits readAll
  cases JsonObject.get settings.fields "clients" with
  | arr items => exact List.map_map
  | _ => rfl

theorem email_of_sentAlike {item client : Json}
    (alike : SentAlike old now item client) :
    (limitsOf item).email = (limitsOf client).email := by
  cases item with
  | obj sent =>
      cases client with
      | obj wanted =>
          have same : filled old now sent "email" =
              JsonObject.get? wanted "email" := alike "email"
          have given : filled old now sent "email" =
              JsonObject.get? sent "email" := by
            unfold filled
            cases JsonObject.get? sent "email" <;> rfl
          change (JsonObject.get sent "email").text.value =
            (JsonObject.get wanted "email").text.value
          rw [JsonObject.get, JsonObject.get, ← same, given]
      | _ => cases alike
  | _ =>
      cases client with
      | obj wanted => cases alike
      | _ => rw [show _ = _ from alike]

theorem emails_of_settingsAlike
    (alike : SettingsAlike (SentAlike old now) sent wanted) :
    emails sent = emails wanted := by
  unfold SettingsAlike at alike
  split at alike
  next fields others =>
    have clients := alike.2
    simp only [emails_eq_readAll]
    change (match JsonObject.get fields "clients" with
      | .arr items => items.map _
      | _ => []) = match JsonObject.get others "clients" with
        | .arr items => items.map _
        | _ => []
    generalize JsonObject.get fields "clients" = first at clients
    generalize JsonObject.get others "clients" = second at clients
    unfold ClientsAlike at clients
    split at clients
    next items wanted =>
      induction clients with
      | nil => rfl
      | cons head _ induction =>
          simp only [List.map_cons, email_of_sentAlike head]
          exact congrArg _ induction
    · rw [clients]
  · rw [alike]

/-- The operator changes no client. -/
theorem InboundEdit.emails_editSettings (edit : InboundEdit) :
    emails (edit.editSettings sent) = emails sent := by
  have clients : ∀ entries : List (String × Json),
      (∀ entry ∈ entries, entry.1 ≠ "clients") → ∀ fields : JsonObject,
        JsonObject.get (entries.foldl
          (fun fields entry => JsonObject.set fields entry.1 entry.2) fields)
            "clients" = JsonObject.get fields "clients" := by
    intro entries spares
    induction entries with
    | nil => exact fun _ => rfl
    | cons entry rest induction =>
        rw [List.forall_mem_cons] at spares
        intro fields
        rw [List.foldl_cons, induction spares.2,
          JsonObject.get_set_ne (Ne.symm spares.1)]
  unfold InboundEdit.editSettings
  split
  · rfl
  · simp only [emails_eq_readAll, readAll]
    rw [show JsonText.fields (.parsed (.obj (edit.settings.foldl _
      sent.fields))) = edit.settings.foldl _ sent.fields from rfl,
      clients edit.settings edit.spares]

end Settings

section Save

variable {database current after : Database} {row form loaded : StoredInbound}
  {host : PanelHost} {edit : InboundEdit} {print : JsonText → JsonText}

/-- The row that is saved for a form. -/
def savedForm (row form : StoredInbound) (now : Int) : StoredInbound :=
  { row with
    up := form.up
    down := form.down
    total := form.total
    enable := form.enable
    expiryTime := form.expiryTime
    listen := form.listen
    port := form.port
    protocol := form.protocol
    settings := stampUpdated row.settings form.settings now
    tag := inboundTag form.listen form.port }

theorem run_updateInbound
    (stored : current.inbounds.find? form.id = some row)
    (succeeded : perform (.updateInbound form) host Call.noFaults current =
      (none, after)) :
    ∃ oldClients newClients, getClients row.settings = some oldClients ∧
      getClients form.settings = some newClients ∧
      after = ⟨current.inbounds.save (savedForm row form host.now),
        updatedStats form.id oldClients newClients current.traffics,
        current.ips⟩ := by
  obtain ⟨updated, accepted, ran⟩ := checked_succeeds succeeded
  obtain ⟨old, spec⟩ := updatedInbound_eq_ok accepted
  obtain ⟨found, inTable, rfl⟩ := find?_view_eq_some spec.found
  obtain rfl := Option.some.inj (stored.symm.trans inTable)
  have sameId := (Table.find?_eq_some.mp stored).2
  have rowId : updated.row.id = form.id := by
    rw [spec.row]
    exact sameId
  obtain ⟨reached, stats, saved⟩ := Call.run_append_eq_none.mp ran
  rw [rowId] at stats
  obtain ⟨rfl, -⟩ := run_updateClientTraffics stats
  refine ⟨_, _, spec.oldClients, spec.newClients, ?_⟩
  rw [run_saveInbound (by simp) saved, changedRow, rowId, stored, spec.row]
  rfl

/-- The clients are the same before and after, and so are their rows. -/
theorem updatedStats_of_emails {inboundId : Int}
    {oldClients newClients : List Client} {traffics : Table ClientTraffic.email}
    (same : newClients.map Client.email = oldClients.map Client.email) :
    updatedStats inboundId oldClients newClients traffics = traffics := by
  have none : ∀ first second : List Client,
      first.map Client.email = second.map Client.email →
        without first second = [] := by
    intro first second emails
    apply List.filter_eq_nil_iff.mpr
    intro client member
    simpa [← emails] using ⟨client, member, rfl⟩
  rw [updatedStats, none _ _ same, none _ _ same.symm]
  rfl

/-- The columns that no call from the background changes come out right. -/
theorem savedForm_eq (columns : SameColumns loaded row) :
    savedForm row (edit.payload print loaded) host.now =
      { edit.apply row with
        up := if edit.resetsTraffic then 0 else loaded.up
        down := if edit.resetsTraffic then 0 else loaded.down
        enable := edit.enable.getD loaded.enable
        tag := inboundTag (edit.listen.getD row.listen)
          (edit.port.getD row.port)
        settings := stampUpdated row.settings
          (edit.editSettings (print loaded.settings)) host.now } := by
  obtain ⟨-, listen, port, protocol, -, total, expiryTime⟩ := columns
  simp only [savedForm, InboundEdit.payload, InboundEdit.apply, listen, port,
    protocol, total, expiryTime]

end Save

/-- Both times of every client are in the settings. -/
def Stamped (settings : JsonText) : Prop :=
  match JsonObject.get settings.fields "clients" with
  | .arr items => ∀ item ∈ items, ∃ client, item = .obj client ∧
      (JsonObject.get? client "created_at").isSome = true ∧
      (JsonObject.get? client "updated_at").isSome = true
  | _ => True

/-- Settings whose clients are stamped come out as they are sent. -/
theorem Stamped.settingsAlike {old settings : JsonText} {now : Int}
    (stamped : Stamped settings) :
    SettingsAlike (SentAlike old now) settings settings := by
  have client : ∀ sent : JsonObject,
      (JsonObject.get? sent "created_at").isSome = true →
      (JsonObject.get? sent "updated_at").isSome = true →
        ∀ key, filled old now sent key = JsonObject.get? sent key := by
    intro sent created updated key
    unfold filled
    cases given : JsonObject.get? sent key with
    | some value => rfl
    | none =>
        dsimp only
        rw [if_neg, if_neg]
        · rintro rfl
          rw [given] at updated
          cases updated
        · rintro rfl
          rw [given] at created
          cases created
  cases settings with
  | parsed json =>
      cases json with
      | obj fields =>
          refine ⟨fun _ _ => rfl, ?_⟩
          change match JsonObject.get fields "clients" with
            | .arr items => _
            | _ => True at stamped
          unfold ClientsAlike
          split
          next items others same wanted =>
            rw [same] at stamped wanted
            obtain rfl := Json.arr.inj wanted
            apply List.forall₂_same.mpr
            intro item member
            obtain ⟨sent, rfl, created, updated⟩ := stamped item member
            exact client sent created updated
          · rfl
      | _ => rfl
  | _ => rfl

def undrawn : Form.Draws := ⟨fun _ => 0, fun _ => ⟨fun _ => 0, fun _ => 0,
  fun _ => 0⟩⟩

/-- What the browser prints of the settings of a PPTP inbound. -/
def printPptp : JsonText → JsonText
  | .parsed json =>
      ((Form.reopen .pptp undrawn json).map fun fields =>
        .parsed (.obj fields)).getD (.parsed json)
  | settings => settings

def pptpInbound : StoredInbound :=
  { inboundForm [] with
    id := 1
    protocol := .vpn .pptp
    settings := printPptp (.parsed (.obj [("clients", .arr [.obj
      [("id", .str "ann"), ("password", .str "x"), ("email", .str "ann"),
        ("created_at", .int 5), ("updated_at", .int 5)]])])) }

def pptpDatabase : Database where
  inbounds := Table.empty.save pptpInbound
  traffics := Table.empty.save ⟨1, "ann", true, 0, 0, 0, 0, 0, 0, 0⟩
  ips := Table.empty

def limitEdit (total : Option Int) : InboundEdit where
  resetsTraffic := false
  total := total
  enable := none
  expiryTime := none
  listen := none
  port := none
  settings := []
  spares := fun _ member => absurd member List.not_mem_nil

def bytesCounted : List (BackgroundCall × PanelHost) :=
  [(.request (.addTraffic ⟨[⟨true, "inbound-443", 10, 20⟩],
    [⟨"ann", 10, 20⟩]⟩) Call.noFaults, noonHost)]

def clientBytesCounted : List (BackgroundCall × PanelHost) :=
  [(.request (.addTraffic ⟨[], [⟨"ann", 10, 20⟩]⟩) Call.noFaults, noonHost)]

def bobAdded : List (BackgroundCall × PanelHost) :=
  [(.request (.addInboundClient { formFor "bob" with
    settings := .parsed (.obj [("clients", .arr [.obj [("id", .str "bob"),
      ("password", .str "y"), ("email", .str "bob")]])]) }) Call.noFaults,
    noonHost)]

/-- A save without an edit takes back what these calls did since the load. -/
def TakesBack (calls : List (BackgroundCall × PanelHost)) : Prop :=
  ∃ current row after,
    backgroundMachine.run pptpDatabase calls = some current ∧
      current.inbounds.find? 1 = some row ∧
      perform (.updateInbound ((limitEdit none).payload printPptp
        pptpInbound)) noonHost Call.noFaults current = (none, after) ∧
      ¬ SavesOnly current ((limitEdit none).apply row) after

end VpnUi.Store
