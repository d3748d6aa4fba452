import VpnUi.Store.KeyedClient
import VpnUi.Store.Setters

namespace VpnUi.Store

open Foundation Panel

/-! The setters and the write-back of a subscription id: each looks a key up
for the client it has found and hands a changed copy of it to the update by key,
which reads the key in its own way. -/

/-- The clients of an inbound have distinct e-mails and distinct keys, none of
them empty. -/
structure DistinctClients (row : StoredInbound) : Prop where
  emails : ((clientItems row).map itemEmail).Nodup
  named : ∀ item ∈ clientItems row, itemEmail item ≠ ""
  keys : ((clientItems row).map
    (itemText (clientKeyName row.protocol))).Nodup
  keyed : ∀ item ∈ clientItems row,
    itemText (clientKeyName row.protocol) item ≠ ""

/-- The client can be handed to the core: a Shadowsocks inbound has to have a
method for an enabled one. -/
def CipherKnown (row : StoredInbound) (enable : Bool) : Prop :=
  ¬ (lacksCipher row.toInbound row.settings.fields = true ∧ enable = true)

/-- The same client with other data, alone in a form for its inbound. -/
structure ChangesClient (row : StoredInbound) (item new : Json)
    (data : Inbound) : Prop where
  id : data.id = row.id
  clients : data.settings.fields.get "clients" = .arr [new]
  email : itemEmail new = itemEmail item
  username : (itemClient new).id = (itemClient item).id
  key : clientKey row.protocol (itemClient new) =
    clientKey row.protocol (itemClient item)

section Update

variable {database after : Database} {row : StoredInbound} {index : Nat}
  {item new : Json} {key : String} {host : PanelHost} {data : Inbound}

theorem settingsMap_of_array {settings : JsonText} {items : List Json}
    (clients : settings.fields.get "clients" = .arr items) :
    settingsMap settings = .ok settings.fields := by
  cases settings with
  | parsed json =>
      cases json with
      | obj fields => rfl
      | _ => cases clients
  | _ => cases clients

theorem getClients_eq_items {settings : JsonText} {items : List Json}
    (clients : settings.fields.get "clients" = .arr items) :
    getClients settings = some (items.map itemClient) := by
  obtain ⟨found, read⟩ := getClients_of_array clients
  rw [read, getClients_items read clients]

theorem eq_of_nodup_map {Value : Type} {read : Json → Value}
    {items : List Json} (distinct : (items.map read).Nodup) {place : Nat}
    {other : Json} (found : items[index]? = some item)
    (otherFound : items[place]? = some other) (same : read other = read item) :
    place = index := by
  have inside : place < (items.map read).length := by
    rw [List.length_map]
    exact (List.getElem?_eq_some_iff.mp otherFound).1
  apply (List.getElem?_inj inside distinct).mp
  rw [List.getElem?_map, List.getElem?_map, found, otherFound,
    Option.map_some, Option.map_some, same]

theorem itemEmail_mem_lowerNames (member : item ∈ clientItems row)
    (named : itemEmail item ≠ "") :
    toLower (itemEmail item) ∈ lowerNames (emails row.settings) := by
  refine mem_lowerNames.mpr ⟨itemEmail item, ?_, named, rfl⟩
  rw [emails, limits_clientItems, List.map_map, itemEmail_eq]
  exact List.mem_map_of_mem member

/-- The first client with the key is the one that is changed: the e-mail of any
other one would be refused. -/
theorem placed_of_accepted {replacement : Replacement}
    (stored : database.inbounds.find? row.id = some row)
    (found : (clientItems row)[index]? = some item)
    (distinct : DistinctClients row) (changes : ChangesClient row item new data)
    (accepted : updatedClient database.inbounds.view data key host =
      .ok replacement) :
    key = clientKey row.protocol (itemClient item) ∧
      replacement = ⟨row.toInbound, withClients row.toInbound
        ((clientItems row).set index
          (stampReplacing (some item) host.now new)),
        some (itemClient item), itemClient new⟩ := by
  obtain ⟨oldClients, rest, items, others, given, place, spec⟩ :=
    updatedClient_eq_ok accepted
  have viewed : database.inbounds.view.find? data.id = some row.toInbound := by
    rw [changes.id, find?_view, stored]
    rfl
  have old : replacement.old = row.toInbound :=
    Option.some.inj (spec.found.symm.trans viewed)
  have clients := (settings_of_item found).2
  have read := spec.read
  have oldRead := spec.oldRead
  have placed := spec.placed
  have saving := spec.row
  rw [old] at read oldRead placed saving
  obtain rfl : items = clientItems row :=
    Json.arr.inj (read.symm.trans clients)
  obtain rfl := getClients_items oldRead clients
  have form : [new] = given :: others :=
    Json.arr.inj (changes.clients.symm.trans spec.given)
  obtain ⟨rfl, rfl⟩ := List.cons.inj form
  have typed : replacement.client = itemClient new :=
    (List.cons.inj (getClients_items spec.clients spec.given)).1
  obtain ⟨inside, first, -⟩ := List.findIdx?_eq_some_iff_getElem.mp placed
  rw [List.getElem_map, decide_eq_true_eq] at first
  rw [List.length_map] at inside
  have oldClient : replacement.oldClient =
      some (itemClient (clientItems row)[place]) := by
    rw [spec.oldClient, List.getElem?_map, List.getElem?_eq_getElem inside]
    rfl
  have here : place = index := by
    by_contra elsewhere
    have member : item ∈ clientItems row := List.mem_of_getElem? found
    have newEmail : replacement.client.email = itemEmail item := by
      rw [typed, ← itemEmail_eq_client, changes.email]
    have differs : replacement.client.email ≠ replacement.oldEmail := by
      intro same
      rw [newEmail, Replacement.oldEmail, oldClient, Option.elim_some,
        ← itemEmail_eq_client] at same
      exact elsewhere (eq_of_nodup_map distinct.emails found
        (List.getElem?_eq_getElem inside) same.symm)
    have checked := spec.emails (newEmail ▸ distinct.named item member) differs
    refine (checkEmails_eq_ok checked).2 row.toInbound
      (mem_view (Table.find?_eq_some.mp stored).1) _ ?_
      (itemEmail_mem_lowerNames member (distinct.named item member))
    rw [List.map_cons, newEmail]
    exact mem_lowerNames.mpr ⟨_, List.mem_cons_self,
      distinct.named item member, rfl⟩
  subst here
  obtain ⟨_, rfl⟩ := List.getElem?_eq_some_iff.mp found
  refine ⟨first, ?_⟩
  cases replacement
  simp only at old saving oldClient typed
  rw [old, saving, oldClient, typed, found]

/-- With the key of its own switch the update finds the client. -/
theorem updatedClient_of_key
    (stored : database.inbounds.find? row.id = some row)
    (found : (clientItems row)[index]? = some item)
    (distinct : DistinctClients row) (changes : ChangesClient row item new data)
    (same : key = clientKey row.protocol (itemClient item)) :
    updatedClient database.inbounds.view data key host =
      .ok ⟨row.toInbound, withClients row.toInbound
        ((clientItems row).set index
          (stampReplacing (some item) host.now new)),
        some (itemClient item), itemClient new⟩ := by
  obtain ⟨map, clients⟩ := settings_of_item found
  obtain ⟨inside, here⟩ := List.getElem?_eq_some_iff.mp found
  have member : item ∈ clientItems row := List.mem_of_getElem? found
  have viewed : database.inbounds.view.find? data.id = some row.toInbound := by
    rw [changes.id, find?_view, stored]
    rfl
  have placed : ((clientItems row).map itemClient).findIdx? (fun other =>
      key = clientKey row.protocol other) = some index := by
    rw [List.findIdx?_eq_some_iff_getElem]
    refine ⟨by simpa using inside, ?_, ?_⟩
    · simp [here, same]
    · intro place earlier
      have placeInside := earlier.trans inside
      simp only [List.getElem_map, clientKey_itemClient, same,
        decide_eq_true_eq]
      intro equal
      have again := eq_of_nodup_map distinct.keys found
        (List.getElem?_eq_getElem placeInside) equal.symm
      omega
  have some : (clientItems row).map itemClient ≠ [] := by
    intro none
    rw [List.map_eq_nil_iff] at none
    rw [none] at member
    cases member
  have keyed : clientKey row.protocol (itemClient new) ≠ "" := by
    rw [changes.key, clientKey_itemClient]
    exact distinct.keyed item member
  have oldClient : ((clientItems row).map itemClient)[index]? =
      Option.some (itemClient item) := by
    rw [List.getElem?_map, found]
    rfl
  have sameEmail : (itemClient new).email = (itemClient item).email := by
    rw [← itemEmail_eq_client, ← itemEmail_eq_client, changes.email]
  simp only [updatedClient, getClients_eq_items changes.clients,
    settingsMap_of_array changes.clients, clientArray, changes.clients,
    viewed, getClients_eq_items clients, if_neg some, List.map_cons,
    List.map_nil, bind, Except.bind, replacedClient, placed, keyed, oldClient,
    sameEmail, map, changes.username, clients, found]
  simp [withClients]

/-- A row that keeps its e-mail can be changed. -/
theorem updateStat_of_same {email : String}
    {update : ClientTraffic → ClientTraffic}
    (renamed : ∀ stat, (update stat).email = email) :
    ∃ next, database.updateStat email update = some next ∧
      next.inbounds = database.inbounds := by
  unfold Database.updateStat
  split
  · exact ⟨database, rfl, rfl⟩
  next stat _ => exact ⟨_, if_neg fun taken => taken.1 (renamed stat), rfl⟩

theorem updateClientIPs_of_same (email : String) :
    ∃ next, database.updateClientIPs email email = some next ∧
      next.inbounds = database.inbounds := by
  unfold Database.updateClientIPs
  split
  · exact ⟨database, rfl, rfl⟩
  · exact ⟨_, if_neg fun taken => taken.1 rfl, rfl⟩

theorem run_replacedStats_of_same {initial : Database} {number : Nat}
    {inboundId : Int} {replacement : Replacement}
    (same : replacement.client.email = replacement.oldEmail)
    (named : replacement.oldEmail ≠ "") :
    ∃ next, Call.run initial Call.noFaults number
        (replacedStats inboundId replacement) database = (none, next) ∧
      next.inbounds = database.inbounds := by
  unfold replacedStats
  rw [if_pos (by rwa [same]), if_pos named, same]
  have renamed : ∀ stat, (updateClientStat replacement.client stat).email =
      replacement.oldEmail := fun _ => same
  obtain ⟨counted, updated, countedInbounds⟩ :=
    @updateStat_of_same database _ _ renamed
  obtain ⟨next, moved, nextInbounds⟩ :=
    @updateClientIPs_of_same counted replacement.oldEmail
  refine ⟨next, ?_, nextInbounds.trans countedInbounds⟩
  rw [Call.run_cons_eq_none (by simp [write])]
  exact ⟨counted, updated, (Call.run_singleton_eq_none (by simp [write])).mpr
    moved⟩

/-- An accepted update has put the changed client in the place of the old
one. -/
theorem updateInboundClient_eq_none
    (stored : database.inbounds.find? row.id = some row)
    (found : (clientItems row)[index]? = some item)
    (distinct : DistinctClients row)
    (changes : ChangesClient row item new data)
    (succeeded : perform (.updateInboundClient data key) host Call.noFaults
      database = (none, after)) :
    key = clientKey row.protocol (itemClient item) ∧
      CipherKnown row (itemClient new).enable ∧ TagFree database row ∧
      after.inbounds = database.inbounds.save (withItems row (.arr
        ((clientItems row).set index
          (stampReplacing (some item) host.now new)))) := by
  have named := distinct.named item (List.mem_of_getElem? found)
  rw [itemEmail_eq_client] at named
  obtain ⟨replacement, accepted, ran⟩ := checked_succeeds succeeded
  obtain ⟨same, rfl⟩ :=
    placed_of_accepted stored found distinct changes accepted
  obtain ⟨safe, reached, stats, saved⟩ := run_guarded_save ran
  obtain ⟨inbounds, -, -⟩ := run_replacedStats_moves stats
  have cipher : CipherKnown row (itemClient new).enable := by
    rintro ⟨lacks, enabled⟩
    apply safe
    simp [lacks, enabled, Replacement.oldEmail, named]
  rw [changedRow_withClients stored] at saved
  obtain ⟨free, rfl⟩ := saveInbound_eq_some_iff.mp saved
  refine ⟨same, cipher, ?_, by rw [inbounds]⟩
  intro other inTable
  exact free other (by rwa [inbounds])

theorem exists_updateInboundClient
    (stored : database.inbounds.find? row.id = some row)
    (found : (clientItems row)[index]? = some item)
    (distinct : DistinctClients row)
    (changes : ChangesClient row item new data)
    (same : key = clientKey row.protocol (itemClient item))
    (cipher : CipherKnown row (itemClient new).enable)
    (free : TagFree database row) :
    ∃ after, perform (.updateInboundClient data key) host Call.noFaults
      database = (none, after) := by
  have named := distinct.named item (List.mem_of_getElem? found)
  rw [itemEmail_eq_client] at named
  have sameEmail : (itemClient new).email = (itemClient item).email := by
    rw [← itemEmail_eq_client, ← itemEmail_eq_client, changes.email]
  have accepted := @updatedClient_of_key database row index item new key host
    data stored found distinct changes same
  obtain ⟨next, stats, inbounds⟩ := @run_replacedStats_of_same database
    database 0 data.id ⟨row.toInbound, withClients row.toInbound
      ((clientItems row).set index
        (stampReplacing (some item) host.now new)),
      some (itemClient item), itemClient new⟩ sameEmail named
  refine ⟨{ next with inbounds := next.inbounds.save (withItems row (.arr
    ((clientItems row).set index
      (stampReplacing (some item) host.now new)))) }, ?_⟩
  change Call.run database Call.noFaults 0
    (updateInboundClient data key host database) database = _
  rw [updateInboundClient, accepted, checked, Call.run_append_eq_none]
  refine ⟨next, ?_, ?_⟩
  · rw [Call.run_append_eq_none]
    refine ⟨next, stats, ?_⟩
    rw [if_neg]
    · rfl
    · intro lacks
      simp only [Bool.and_eq_true] at lacks
      exact cipher ⟨lacks.1.1, lacks.2⟩
  · rw [Call.run_singleton_eq_none (by simp [write]),
      changedRow_withClients stored]
    refine saveInbound_eq_some_iff.mpr ⟨?_, rfl⟩
    intro other inTable
    exact free other (by rwa [← inbounds])

/-- An accepted update saves the inbound of its form. -/
theorem updateInboundClient_elsewhere
    (succeeded : perform (.updateInboundClient data key) host Call.noFaults
      database = (none, after)) {id : Int} (elsewhere : id ≠ data.id) :
    after.inbounds.find? id = database.inbounds.find? id := by
  obtain ⟨replacement, accepted, ran⟩ := checked_succeeds succeeded
  obtain ⟨oldClients, rest, items, others, given, place, spec⟩ :=
    updatedClient_eq_ok accepted
  obtain ⟨other, stored, same⟩ := find?_view_eq_some spec.found
  obtain ⟨-, reached, stats, saved⟩ := run_guarded_save ran
  obtain ⟨inbounds, -, -⟩ := run_replacedStats_moves stats
  obtain rfl := Database.saveInbound_eq_some saved
  rw [spec.row, ← same, changedRow_withClients
    (by rwa [(Table.find?_eq_some.mp stored).2]), inbounds]
  refine Table.find?_save_ne ?_
  change id ≠ other.id
  rwa [(Table.find?_eq_some.mp stored).2]

end Update

/-- What a map to other items makes of a list with one item that has one. -/
theorem filterMap_eq_singleton {Value Result : Type}
    {pick : Value → Option Result} {items : List Value} {index : Nat}
    {item : Value} {picked : Result} (found : items[index]? = some item)
    (here : pick item = some picked)
    (elsewhere : ∀ (place : Nat) (other : Value), items[place]? = some other →
      place ≠ index → pick other = none) :
    items.filterMap pick = [picked] := by
  induction items generalizing index with
  | nil => cases found
  | cons head tail induction =>
      cases index with
      | zero =>
          obtain rfl := Option.some.inj found
          rw [List.filterMap_cons_some here, List.filterMap_eq_nil_iff.mpr]
          intro other member
          obtain ⟨place, stored⟩ := List.mem_iff_getElem?.mp member
          exact elsewhere (place + 1) other stored (Nat.succ_ne_zero place)
      | succ index =>
          rw [List.filterMap_cons_none
            (elsewhere 0 head rfl (Nat.succ_ne_zero index).symm)]
          apply induction found
          intro place other stored differs
          exact elsewhere (place + 1) other stored
            fun same => differs (Nat.succ.inj same)

/-- A field of a client; null where there is none. -/
def itemField (key : String) : Json → Json
  | .obj fields => JsonObject.get fields key
  | _ => .null

/-- The field a setter is asked to write. -/
def EmailSetting.asked (old : Client) : EmailSetting → String × Json
  | telegramUserID tgId => ("tgId", .int tgId)
  | toggleEnable | enable _ => ("enable", .bool !old.enable)
  | ipLimit count => ("limitIp", .int count)
  | expiryTime expiry => ("expiryTime", .int expiry)
  | trafficLimit totalGB => ("totalGB", .int (totalGB * 1024 * 1024 * 1024))

/-- A limit has a number of bytes, and a 64-bit one. -/
def EmailSetting.Fits : EmailSetting → Prop
  | trafficLimit totalGB =>
      0 ≤ totalGB ∧ Json.Int64 (totalGB * 1024 * 1024 * 1024)
  | _ => True

/-- Whether the client is enabled afterwards. -/
def EmailSetting.enables (old : Client) : EmailSetting → Bool
  | toggleEnable | enable _ => !old.enable
  | _ => old.enable

/-- The field has the value and the client the time of its change; the other
fields are as they were. -/
structure SetsOnly (item new : Json) (field : String × Json) (now : Int) :
    Prop where
  value : itemField field.1 new = field.2
  stamped : itemField "updated_at" new = .int now
  others : ∀ key, key ≠ field.1 → key ≠ "updated_at" →
    itemField key new = itemField key item

/-- A setter succeeds at any time and changes its field of this client, and
nothing else in the inbounds. -/
def SetsField (database : Database) (row : StoredInbound) (index : Nat)
    (item : Json) (setting : EmailSetting) : Prop :=
  ∀ host, ∃ after new,
    setByEmail (itemEmail item) setting host database = (none, after) ∧
      after.inbounds = database.inbounds.save
        (withItems row (.arr ((clientItems row).set index new))) ∧
      SetsOnly item new (setting.asked (itemClient item)) host.now

/-- The traffic row of the client belongs to its inbound, the setters and the
update read the same key, and nothing else is refused or filled in. -/
structure SetterReaches (database : Database) (row : StoredInbound)
    (item : Json) (setting : EmailSetting) : Prop where
  registered : ∃ stat, database.traffics.find? (itemEmail item) = some stat ∧
    stat.inboundId = row.id
  key : setterKey row.protocol (itemClient item) =
    clientKey row.protocol (itemClient item)
  cipher : CipherKnown row (setting.enables (itemClient item))
  free : TagFree database row
  created : itemField "created_at" item ≠ .null
  fits : setting.Fits

section Setter

variable {database after : Database} {row : StoredInbound} {index : Nat}
  {item : Json} {host : PanelHost} {setting : EmailSetting}

/-- The changed copy that a setter makes. -/
def settedItem (setting : EmailSetting) (now : Int) (item : Json) : Json :=
  match item with
  | .obj fields =>
      .obj (JsonObject.set (JsonObject.set fields
        (setting.field (itemClient item)).1
        (setting.field (itemClient item)).2) "updated_at" (.int now))
  | _ => item

theorem keyText_email_iff {email : String} (nonempty : email ≠ "") :
    keyText "email" item = some email ↔ itemEmail item = email := by
  rw [keyText_eq_some_iff nonempty, itemEmail_eq_client]
  cases item <;> rfl

theorem setterItem_self {email : String} (nonempty : email ≠ "")
    (named : itemEmail item = email) (now : Int) :
    setterItem email (setting.field (itemClient item)) now item =
      some (settedItem setting now item) := by
  have text := (keyText_email_iff nonempty).mpr named
  cases item with
  | obj fields =>
      simp only [keyText] at text
      cases found : JsonObject.get fields "email" with
      | str name =>
          rw [found] at text
          simp only [setterItem, settedItem, found]
          exact if_pos (Option.some.inj text)
      | _ =>
          rw [found] at text
          cases text
  | _ => cases text

theorem setterItem_other {email : String} (nonempty : email ≠ "")
    (differs : itemEmail item ≠ email) (field : String × Json) (now : Int) :
    setterItem email field now item = none := by
  rw [ne_eq, ← keyText_email_iff nonempty] at differs
  cases item with
  | obj fields =>
      simp only [keyText] at differs
      simp only [setterItem]
      split
      next name found =>
        rw [found] at differs
        exact if_neg fun same => differs (congrArg some same)
      next => rfl
  | _ => rfl

theorem find?_of_nodup_map {items : List Json}
    (distinct : (items.map itemEmail).Nodup) (member : item ∈ items) :
    items.find? (fun other => itemEmail other = itemEmail item) =
      some item := by
  cases first : items.find? (fun other => itemEmail other = itemEmail item) with
  | none =>
      have missed := List.find?_eq_none.mp first item member
      exact absurd (decide_eq_true rfl) missed
  | some other =>
      have same : itemEmail other = itemEmail item := by
        simpa using List.find?_some first
      rw [List.inj_on_of_nodup_map distinct (List.mem_of_find?_eq_some first)
        member same]

/-- The setters find the client by its e-mail, in the inbound of its row. -/
theorem setterForm_of_registered {stat : ClientTraffic}
    (stored : database.inbounds.find? row.id = some row)
    (found : (clientItems row)[index]? = some item)
    (distinct : DistinctClients row)
    (registered : database.traffics.find? (itemEmail item) = some stat)
    (owner : stat.inboundId = row.id) (now : Int) :
    setterForm (itemEmail item) setting now database =
      if setterKey row.protocol (itemClient item) = "" then
        .error (.noClient (itemEmail item))
      else .ok ({ row.toInbound with
        settings := .parsed (.obj (JsonObject.set row.settings.fields "clients"
          (.arr [settedItem setting now item]))) },
        setterKey row.protocol (itemClient item)) := by
  have clients := (settings_of_item found).2
  have member : item ∈ clientItems row := List.mem_of_getElem? found
  have named := distinct.named item member
  have finds : ((clientItems row).map itemClient).find? (fun client =>
      client.email = itemEmail item) = some (itemClient item) := by
    simp only [List.find?_map, Function.comp_def, ← itemEmail_eq_client]
    rw [find?_of_nodup_map distinct.emails member]
    rfl
  have objects : (clientItems row).all isObject = true := by
    rw [List.all_eq_true]
    intro other inItems
    have nonempty := distinct.named other inItems
    cases other with
    | obj fields => rfl
    | _ => exact absurd rfl nonempty
  have picked : (clientItems row).filterMap (setterItem (itemEmail item)
      (setting.field (itemClient item)) now) =
        [settedItem setting now item] := by
    apply filterMap_eq_singleton found (setterItem_self named rfl now)
    intro place other here differs
    apply setterItem_other named
    intro same
    exact differs (eq_of_nodup_map distinct.emails found here same)
  obtain ⟨object, decoded, -⟩ := clientItems_of_getElem? found
  have fields : row.settings.fields = object.getD [] := by
    rw [JsonText.fields, decoded, Option.getD_some]
  rw [fields] at clients ⊢
  simp only [setterForm, registered, owner, stored,
    getClients_eq_items (fields ▸ clients), finds, decoded, clients, objects,
    picked, if_true, sliceJson]

theorem field_key (old : Client) :
    (setting.field old).1 ∈
      ["tgId", "enable", "limitIp", "expiryTime", "totalGB"] := by
  cases setting <;> simp [EmailSetting.field]

theorem clientKeyName_mem (protocol : Protocol) :
    clientKeyName protocol ∈ ["password", "email", "auth", "id"] := by
  cases protocol with
  | vpn backend => cases backend <;> simp [clientKeyName]
  | _ => simp [clientKeyName]

theorem itemField_settedItem_ne {fields : JsonObject} {key : String}
    (differs : key ≠ (setting.field (itemClient (.obj fields))).1)
    (timeless : key ≠ "updated_at") (now : Int) :
    itemField key (settedItem setting now (.obj fields)) =
      itemField key (.obj fields) := by
  simp only [settedItem, itemField]
  rw [JsonObject.get_set_ne timeless, JsonObject.get_set_ne differs]

/-- A changed copy has the names and the key of the client. -/
theorem changesClient_settedItem {fields : JsonObject} (now : Int) :
    ChangesClient row (.obj fields) (settedItem setting now (.obj fields))
      { row.toInbound with
        settings := .parsed (.obj (JsonObject.set row.settings.fields "clients"
          (.arr [settedItem setting now (.obj fields)]))) } := by
  have keyed := @field_key setting (itemClient (.obj fields))
  have keeps : ∀ name, name ∉
      ["tgId", "enable", "limitIp", "expiryTime", "totalGB"] →
        name ≠ "updated_at" →
          itemField name (settedItem setting now (.obj fields)) =
            itemField name (.obj fields) := by
    intro name free timeless
    refine itemField_settedItem_ne (fun same => free ?_) timeless now
    rw [same]
    exact keyed
  have texts : ∀ name, name ∉
      ["tgId", "enable", "limitIp", "expiryTime", "totalGB"] →
        name ≠ "updated_at" →
          itemText name (settedItem setting now (.obj fields)) =
            itemText name (.obj fields) := by
    intro name free timeless
    exact congrArg (·.text.value) (keeps name free timeless)
  refine ⟨rfl, JsonObject.get_set_self, ?_, ?_, ?_⟩
  · rw [itemEmail_eq_client, itemEmail_eq_client]
    exact texts "email" (by decide) (by decide)
  · exact texts "id" (by decide) (by decide)
  · rw [clientKey_itemClient, clientKey_itemClient]
    have name := clientKeyName_mem row.protocol
    generalize clientKeyName row.protocol = key at name ⊢
    simp only [List.mem_cons, List.not_mem_nil, or_false] at name
    rcases name with rfl | rfl | rfl | rfl <;>
      exact texts _ (by decide) (by decide)

theorem enable_settedItem {fields : JsonObject} (now : Int) :
    (itemClient (settedItem setting now (.obj fields))).enable =
      setting.enables (itemClient (.obj fields)) := by
  change (itemField "enable" (settedItem setting now (.obj fields))).flag.value =
    _
  have untouched : (setting.field (itemClient (.obj fields))).1 ≠ "enable" →
      (itemField "enable" (settedItem setting now (.obj fields))).flag.value =
        (itemClient (.obj fields)).enable := by
    intro other
    rw [itemField_settedItem_ne (Ne.symm other) (by decide)]
    rfl
  have toggled : setting.field (itemClient (.obj fields)) =
        ("enable", .bool !(itemClient (.obj fields)).enable) →
      (itemField "enable" (settedItem setting now (.obj fields))).flag.value =
        !(itemClient (.obj fields)).enable := by
    intro field
    simp only [settedItem, itemField, field]
    rw [JsonObject.get_set_ne (by decide), JsonObject.get_set_self]
    rfl
  cases setting with
  | toggleEnable => exact toggled rfl
  | enable flag => exact toggled rfl
  | _ => exact untouched (by simp [EmailSetting.field])

/-- The update fills in the time of creation where there is none. -/
theorem itemField_stampReplacing {fields newFields : JsonObject} (now : Int)
    (key : String) :
    itemField key (stampReplacing (some (.obj fields)) now (.obj newFields)) =
      if key = "updated_at" then .int now
      else if key = "created_at" then
        match JsonObject.get fields "created_at" with
        | .null => .int now
        | stamp => stamp
      else itemField key (.obj newFields) := by
  simp only [stampReplacing, itemField]
  by_cases updated : key = "updated_at"
  · rw [updated, JsonObject.get_set_self, if_pos rfl]
  · rw [JsonObject.get_set_ne updated, if_neg updated]
    by_cases created : key = "created_at"
    · rw [created, JsonObject.get_set_self]
      cases JsonObject.get fields "created_at" <;> exact (if_pos rfl).symm
    · rw [JsonObject.get_set_ne created, if_neg created]

theorem setsOnly_stamped_iff {fields : JsonObject} {value : Json} (now : Int) :
    SetsOnly (.obj fields) (stampReplacing (some (.obj fields)) now
        (settedItem setting now (.obj fields)))
        ((setting.field (itemClient (.obj fields))).1, value) now ↔
      (setting.field (itemClient (.obj fields))).2 = value ∧
        itemField "created_at" (.obj fields) ≠ .null := by
  have keyed := @field_key setting (itemClient (.obj fields))
  obtain ⟨newFields, object⟩ : ∃ newFields,
      settedItem setting now (.obj fields) = .obj newFields := ⟨_, rfl⟩
  have stamped := @itemField_stampReplacing fields newFields now
  rw [← object] at stamped
  have written : itemField (setting.field (itemClient (.obj fields))).1
      (stampReplacing (some (.obj fields)) now
        (settedItem setting now (.obj fields))) =
      (setting.field (itemClient (.obj fields))).2 := by
    rw [stamped, if_neg, if_neg]
    · simp only [settedItem, itemField]
      rw [JsonObject.get_set_ne, JsonObject.get_set_self]
      intro same
      rw [same] at keyed
      simp at keyed
    · intro same
      rw [same] at keyed
      simp at keyed
    · intro same
      rw [same] at keyed
      simp at keyed
  constructor
  · intro only
    refine ⟨written.symm.trans only.value, fun absent => ?_⟩
    have created := only.others "created_at" ?_ (by decide)
    · rw [stamped, if_neg (by decide), if_pos rfl, absent] at created
      simp only [itemField] at absent
      rw [absent] at created
      cases created
    · intro same
      simp only at same
      rw [← same] at keyed
      simp at keyed
  · rintro ⟨same, created⟩
    refine ⟨written.trans same, ?_, ?_⟩
    · rw [stamped, if_pos rfl]
    · intro key differs timeless
      rw [stamped, if_neg timeless]
      split
      next creation =>
        rw [creation]
        simp only [itemField] at created ⊢
      next => exact itemField_settedItem_ne differs timeless now

theorem setByEmail_of_fits {email : String}
    (direct : ∀ flag, setting ≠ .enable flag) (fits : setting.Fits) :
    setByEmail email setting host database =
      replaceByEmail email setting host database := by
  cases setting with
  | enable flag => exact absurd rfl (direct flag)
  | trafficLimit totalGB => exact if_neg fits.1.not_gt
  | _ => rfl

theorem replaceByEmail_of_succeeds {email : String}
    (direct : ∀ flag, setting ≠ .enable flag)
    (succeeded : setByEmail email setting host database = (none, after)) :
    replaceByEmail email setting host database = (none, after) := by
  cases setting with
  | enable flag => exact absurd rfl (direct flag)
  | trafficLimit totalGB =>
      simp only [setByEmail] at succeeded
      split at succeeded
      · cases succeeded
      · exact succeeded
  | _ => exact succeeded

/-- The written field is the one asked for. -/
theorem field_eq_asked_iff (old : Client) :
    (setting.asked old).1 = (setting.field old).1 ∧
      ((setting.field old).2 = (setting.asked old).2 ∧
        (∀ totalGB, setting = .trafficLimit totalGB → 0 ≤ totalGB) ↔
          setting.Fits) := by
  refine ⟨by cases setting <;> rfl, ?_⟩
  cases setting with
  | trafficLimit totalGB =>
      simp only [EmailSetting.field, EmailSetting.asked, EmailSetting.Fits]
      constructor
      · rintro ⟨same, positive⟩
        refine ⟨positive totalGB rfl, ?_⟩
        rw [← Json.int.inj same]
        exact int64_wrap64 _
      · rintro ⟨positive, fits⟩
        rw [wrap64_eq_self fits]
        refine ⟨rfl, ?_⟩
        intro other same
        rwa [← EmailSetting.trafficLimit.inj same]
  | _ => simp [EmailSetting.field, EmailSetting.asked, EmailSetting.Fits]

theorem nonneg_of_succeeds {email : String} {totalGB : Int}
    (succeeded : setByEmail email (.trafficLimit totalGB) host database =
      (none, after)) : 0 ≤ totalGB := by
  by_contra negative
  rw [setByEmail, if_pos (not_le.mp negative)] at succeeded
  cases succeeded

/-- What a setter does to the inbound that the row of its client belongs to. -/
theorem replaceByEmail_of_registered {stat : ClientTraffic}
    {fields : JsonObject}
    (stored : database.inbounds.find? row.id = some row)
    (found : (clientItems row)[index]? = some (.obj fields))
    (distinct : DistinctClients row)
    (registered : database.traffics.find? (itemEmail (.obj fields)) = some stat)
    (owner : stat.inboundId = row.id) :
    replaceByEmail (itemEmail (.obj fields)) setting host database =
        (none, after) ↔
      setterKey row.protocol (itemClient (.obj fields)) ≠ "" ∧
        perform (.updateInboundClient { row.toInbound with
          settings := .parsed (.obj (JsonObject.set row.settings.fields
            "clients" (.arr [settedItem setting host.now (.obj fields)]))) }
          (setterKey row.protocol (itemClient (.obj fields)))) host
          Call.noFaults database = (none, after) := by
  rw [replaceByEmail, setterForm_of_registered stored found distinct registered
    owner]
  by_cases blank : setterKey row.protocol (itemClient (.obj fields)) = ""
  · simp [blank]
  · rw [if_neg blank]
    simp only [ne_eq, blank, not_false_eq_true, true_and, Prod.ext_iff,
      Option.map_eq_none_iff]

theorem object_of_named (named : itemEmail item ≠ "") :
    ∃ fields, item = .obj fields := by
  cases item with
  | obj fields => exact ⟨fields, rfl⟩
  | _ => exact absurd rfl named

theorem owner_of_setterForm {email clientId : String} {form : Inbound}
    {now : Int}
    (formed : setterForm email setting now database = .ok (form, clientId)) :
    ∃ stat, database.traffics.find? email = some stat ∧
      stat.inboundId = form.id := by
  unfold setterForm at formed
  split at formed
  · cases formed
  next stat registered =>
    refine ⟨stat, registered, ?_⟩
    split at formed
    · cases formed
    next other stored =>
      split at formed
      · cases formed
      split at formed
      · cases formed
      dsimp only at formed
      split at formed
      · cases formed
      split at formed
      · cases formed
      split at formed
      · split at formed
        · obtain ⟨rfl, -⟩ := Prod.mk.inj (Except.ok.inj formed)
          exact (Table.find?_eq_some.mp stored).2.symm
        · cases formed
      · cases formed

/-- A setter whose row belongs to another inbound leaves this one alone. -/
theorem registered_of_setsField
    (stored : database.inbounds.find? row.id = some row)
    (found : (clientItems row)[index]? = some item)
    (direct : ∀ flag, setting ≠ .enable flag)
    (sets : SetsField database row index item setting) :
    ∃ stat, database.traffics.find? (itemEmail item) = some stat ∧
      stat.inboundId = row.id := by
  have stampedWith : ∀ host : PanelHost,
      (¬ ∃ stat, database.traffics.find? (itemEmail item) = some stat ∧
        stat.inboundId = row.id) →
          itemField "updated_at" item = .int host.now := by
    intro host unregistered
    obtain ⟨after, new, succeeded, inbounds, only⟩ := sets host
    have replaced := replaceByEmail_of_succeeds direct succeeded
    have untouched : after.inbounds.find? row.id = some row := by
      unfold replaceByEmail at replaced
      split at replaced
      · cases replaced
      next form clientId formed =>
        have updated : perform (.updateInboundClient form clientId) host
            Call.noFaults database = (none, after) := by
          obtain ⟨error, same⟩ := Prod.mk.inj replaced
          exact Prod.ext (Option.map_eq_none_iff.mp error) same
        rw [updateInboundClient_elsewhere updated ?_, stored]
        intro here
        obtain ⟨stat, registered, owner⟩ := owner_of_setterForm formed
        exact unregistered ⟨stat, registered, owner.trans here.symm⟩
    rw [inbounds] at untouched
    have saved : withItems row (.arr ((clientItems row).set index new)) =
        row := by
      have self : (database.inbounds.save (withItems row
          (.arr ((clientItems row).set index new)))).find? row.id =
            some (withItems row (.arr ((clientItems row).set index new))) :=
        Table.find?_save_self
      exact Option.some.inj (self.symm.trans untouched)
    have items := clientItems_withItems row ((clientItems row).set index new)
    rw [saved] at items
    have inside := (List.getElem?_eq_some_iff.mp found).1
    have here : (clientItems row)[index]? = some new := by
      rw [items, List.getElem?_set_self inside]
    rw [Option.some.inj (found.symm.trans here)]
    exact only.stamped
  by_contra unregistered
  have early := stampedWith ⟨0, 0, true, true⟩ unregistered
  have late := stampedWith ⟨1, 0, true, true⟩ unregistered
  rw [early] at late
  cases late

theorem setsField_iff (stored : database.inbounds.find? row.id = some row)
    (found : (clientItems row)[index]? = some item)
    (distinct : DistinctClients row)
    (direct : ∀ flag, setting ≠ .enable flag) :
    SetsField database row index item setting ↔
      SetterReaches database row item setting := by
  have member : item ∈ clientItems row := List.mem_of_getElem? found
  have named := distinct.named item member
  obtain ⟨fields, rfl⟩ := object_of_named named
  have inside := (List.getElem?_eq_some_iff.mp found).1
  obtain ⟨sameKey, asked⟩ :=
    @field_eq_asked_iff setting (itemClient (.obj fields))
  constructor
  · intro sets
    obtain ⟨stat, registered, owner⟩ :=
      registered_of_setsField stored found direct sets
    obtain ⟨after, new, succeeded, inbounds, only⟩ := sets ⟨0, 0, true, true⟩
    obtain ⟨-, updated⟩ := (replaceByEmail_of_registered stored found distinct
      registered owner).mp (replaceByEmail_of_succeeds direct succeeded)
    obtain ⟨key, cipher, free, saved⟩ := updateInboundClient_eq_none stored
      found distinct (changesClient_settedItem _) updated
    have lists := clientItems_of_saved (inbounds.symm.trans saved)
    have new_eq := congrArg (·[index]?) lists
    simp only [List.getElem?_set_self inside, Option.some.injEq] at new_eq
    rw [new_eq, show setting.asked (itemClient (.obj fields)) =
      ((setting.field (itemClient (.obj fields))).1,
        (setting.asked (itemClient (.obj fields))).2) from
          Prod.ext sameKey rfl] at only
    obtain ⟨value, created⟩ := (setsOnly_stamped_iff _).mp only
    refine ⟨⟨stat, registered, owner⟩, key, ?_, free, created, asked.mp
      ⟨value, ?_⟩⟩
    · rwa [enable_settedItem] at cipher
    · rintro totalGB rfl
      exact nonneg_of_succeeds succeeded
  · rintro reaches host
    obtain ⟨stat, registered, owner⟩ := reaches.registered
    have keyed : setterKey row.protocol (itemClient (.obj fields)) ≠ "" := by
      rw [reaches.key, clientKey_itemClient]
      exact distinct.keyed _ member
    obtain ⟨after, updated⟩ := @exists_updateInboundClient database row index
      (.obj fields) _ _ host _ stored found distinct
      (@changesClient_settedItem row setting fields host.now) reaches.key
      (by rw [enable_settedItem]; exact reaches.cipher) reaches.free
    refine ⟨after, _, ?_, (updateInboundClient_eq_none stored found distinct
      (changesClient_settedItem _) updated).2.2.2, ?_⟩
    · rw [setByEmail_of_fits direct reaches.fits]
      exact (replaceByEmail_of_registered stored found distinct registered
        owner).mpr ⟨keyed, updated⟩
    · rw [show setting.asked (itemClient (.obj fields)) =
        ((setting.field (itemClient (.obj fields))).1,
          (setting.asked (itemClient (.obj fields))).2) from
            Prod.ext sameKey rfl]
      exact (setsOnly_stamped_iff _).mpr
        ⟨(asked.mpr reaches.fits).1, reaches.created⟩

end Setter

/-- A client without its timestamps. -/
def timelessClient (client : Client) : Client :=
  { client with createdAt := 0, updatedAt := 0 }

section Encoded

variable {client : Client} {fields : JsonObject}

theorem text_encode (encoded : client.encode = .obj fields) :
    (JsonObject.get fields "id").text.value = client.id ∧
      (JsonObject.get fields "password").text.value = client.password ∧
      (JsonObject.get fields "flow").text.value = client.flow ∧
      (JsonObject.get fields "auth").text.value = client.auth := by
  obtain rfl := Json.obj.inj encoded
  simp only [JsonObject.get, get?_append, get?_textField]
  refine ⟨?_, ?_, ?_, ?_⟩
  · simp (disch := decide) only [get?_numberField]
    by_cases empty : client.id = "" <;>
      simp [empty, JsonObject.get?, List.lookup_cons, Json.text]
  · simp (disch := decide) only [get?_numberField]
    by_cases empty : client.password = "" <;>
      simp [empty, JsonObject.get?, List.lookup_cons, Json.text]
  · simp (disch := decide) only [get?_numberField]
    by_cases empty : client.flow = "" <;>
      simp [empty, JsonObject.get?, List.lookup_cons, Json.text]
  · simp (disch := decide) only [get?_numberField]
    by_cases empty : client.auth = "" <;>
      simp [empty, JsonObject.get?, List.lookup_cons, Json.text]

/-- The numbers of a typed client are of their type. -/
def NumbersFit (client : Client) : Prop :=
  Json.Int64 client.limitIp ∧ Json.Int64 client.totalGB ∧
    Json.Int64 client.expiryTime ∧ Json.Int64 client.tgId ∧
    Json.Int64 client.reset

theorem numbersFit_itemClient (item : Json) : NumbersFit (itemClient item) := by
  have zero : NumbersFit (Client.decode []).value :=
    ⟨by decide, by decide, by decide, by decide, by decide⟩
  cases item with
  | obj fields =>
      exact ⟨int64_number _, int64_number _, int64_number _, int64_number _,
        int64_number _⟩
  | _ => exact zero

theorem timelessClient_encode (fits : NumbersFit client) :
    timelessClient (itemClient client.encode) = timelessClient client := by
  obtain ⟨limitIp, totalGB, expiryTime, tgId, reset⟩ := fits
  obtain ⟨fields, encoded⟩ : ∃ fields, client.encode = .obj fields := ⟨_, rfl⟩
  obtain ⟨id, password, flow, auth⟩ := text_encode encoded
  have plain : ∀ key value, JsonObject.get client.plainFields key = value →
      key ∉ ["id", "password", "flow", "auth", "created_at", "updated_at"] →
        JsonObject.get fields key = value :=
    fun key value read free => (get_encode encoded free).trans read
  rw [encoded]
  simp only [timelessClient, itemClient, Json.record, Client.decode,
    Decoded.value_field, Decoded.value_record, id, password, flow, auth,
    plain "security" (.str client.security) rfl (by decide),
    plain "email" (.str client.email) rfl (by decide),
    plain "limitIp" (.int client.limitIp) rfl (by decide),
    plain "totalGB" (.int client.totalGB) rfl (by decide),
    plain "expiryTime" (.int client.expiryTime) rfl (by decide),
    plain "enable" (.bool client.enable) rfl (by decide),
    plain "tgId" (.int client.tgId) rfl (by decide),
    plain "subId" (.str client.subId) rfl (by decide),
    plain "comment" (.str client.comment) rfl (by decide),
    plain "reset" (.int client.reset) rfl (by decide),
    number_int limitIp, number_int totalGB, number_int expiryTime,
    number_int tgId, number_int reset]
  rfl

end Encoded

/-- The client has the new subscription id, and nothing else of it is new but
the time of its change. -/
structure SubIdWritten (item new : Json) (subId : String) : Prop where
  client : timelessClient (itemClient new) =
    { timelessClient (itemClient item) with subId := subId }
  created : itemField "created_at" new = itemField "created_at" item

/-- The write-back of any subscription id at any time succeeds and changes
nothing else in the inbounds. -/
def WritesSubId (database : Database) (row : StoredInbound) (index : Nat)
    (item : Json) : Prop :=
  ∀ subId host, ∃ after new,
    writeBackClientSubID accountWriter (some database) row.toInbound
        (itemClient item) subId host = .ok (some after) ∧
      after.inbounds = database.inbounds.save
        (withItems row (.arr ((clientItems row).set index new))) ∧
      SubIdWritten item new subId

structure WriteBackReaches (database : Database) (row : StoredInbound)
    (item : Json) : Prop where
  key : getClientPrimaryKey row.protocol (itemClient item) =
    clientKey row.protocol (itemClient item)
  cipher : CipherKnown row (itemClient item).enable
  free : TagFree database row
  created : itemField "created_at" item ≠ .null

section WriteBack

variable {database after : Database} {row : StoredInbound} {index : Nat}
  {item : Json} {host : PanelHost} {subId : String}

/-- The client that is written back. -/
def withSubId (item : Json) (subId : String) (now : Int) : Client :=
  { itemClient item with subId := subId, updatedAt := now }

theorem numbersFit_withSubId (now : Int) :
    NumbersFit (withSubId item subId now) := numbersFit_itemClient item

theorem timelessClient_withSubId (now : Int) :
    timelessClient (itemClient (withSubId item subId now).encode) =
      { timelessClient (itemClient item) with subId := subId } := by
  rw [timelessClient_encode (numbersFit_withSubId now)]
  rfl

/-- What the subscription id and the timestamps leave alone. -/
structure SameNames (client other : Client) : Prop where
  email : client.email = other.email
  id : client.id = other.id
  enable : client.enable = other.enable
  key : ∀ protocol, clientKey protocol client = clientKey protocol other

theorem sameNames_of_timeless {client other : Client}
    (same : timelessClient client =
      { timelessClient other with subId := subId }) :
    SameNames client other := by
  simp only [timelessClient, Client.mk.injEq] at same
  obtain ⟨id, -, password, -, auth, email, -, -, -, enable, -⟩ := same
  refine ⟨email, id, enable, fun protocol => ?_⟩
  simp only [clientKey, id, password, auth, email]

theorem sameNames_withSubId (now : Int) :
    SameNames (itemClient (withSubId item subId now).encode)
      (itemClient item) :=
  sameNames_of_timeless (timelessClient_withSubId now)

theorem changesClient_withSubId (now : Int) :
    ChangesClient row item (withSubId item subId now).encode
      (clientsForm row.id [withSubId item subId now]) := by
  have same := @sameNames_withSubId item subId now
  refine ⟨rfl, rfl, ?_, same.id, same.key row.protocol⟩
  rw [itemEmail_eq_client, itemEmail_eq_client, same.email]

theorem writeBackClientSubID_eq_ok :
    writeBackClientSubID accountWriter (some database) row.toInbound
        (itemClient item) subId host = .ok (some after) ↔
      getClientPrimaryKey row.protocol (itemClient item) ≠ "" ∧
        perform (.updateInboundClient
          (clientsForm row.id [withSubId item subId host.now])
          (getClientPrimaryKey row.protocol (itemClient item))) host
          Call.noFaults database = (none, after) := by
  have called : writeBackClientSubID accountWriter (some database)
      row.toInbound (itemClient item) subId host =
        if getClientPrimaryKey row.protocol (itemClient item) = "" then
          .error .emptyClientId
        else copyRequest (.updateInboundClient
          (clientsForm row.id [withSubId item subId host.now])
          (getClientPrimaryKey row.protocol (itemClient item))) host
          (some database) := rfl
  rw [called]
  split
  next blank => simp [blank]
  next keyed =>
    rw [and_iff_right keyed]
    constructor
    · intro written
      rcases copyRequest_eq_ok written with none | ⟨_, _, here, there, done⟩
      · cases none
      · rw [Option.some.inj here, Option.some.inj there]
        exact done
    · intro done
      rw [copyRequest, done]

theorem timeless_timelessClient :
    Timeless fun item => timelessClient (itemClient item) := by
  intro fields key value stamp
  have free : ∀ other, other ∉ ["created_at", "updated_at"] →
      JsonObject.get (JsonObject.set fields key value) other =
        JsonObject.get fields other := by
    intro other plain
    exact JsonObject.get_set_ne fun same => plain (same ▸ stamp)
  simp (disch := decide) only [timelessClient, itemClient, Json.record,
    Client.decode, Decoded.value_field, Decoded.value_record, free]

theorem subIdWritten_iff {fields : JsonObject} (now : Int) :
    SubIdWritten (.obj fields) (stampReplacing (some (.obj fields)) now
        (withSubId (.obj fields) subId now).encode) subId ↔
      itemField "created_at" (.obj fields) ≠ .null := by
  obtain ⟨newFields, object⟩ : ∃ newFields,
      (withSubId (.obj fields) subId now).encode = .obj newFields := ⟨_, rfl⟩
  have created := @itemField_stampReplacing fields newFields now "created_at"
  rw [← object, if_neg (by decide), if_pos rfl] at created
  constructor
  · intro written absent
    have same := created.symm.trans written.created
    simp only [itemField] at absent same
    rw [absent] at same
    cases same
  · intro dated
    constructor
    · rw [timeless_timelessClient.stampReplacing, timelessClient_withSubId]
    · rw [created]
      simp only [itemField] at dated ⊢

theorem writesSubId_iff (stored : database.inbounds.find? row.id = some row)
    (found : (clientItems row)[index]? = some item)
    (distinct : DistinctClients row) :
    WritesSubId database row index item ↔
      WriteBackReaches database row item := by
  have inside := (List.getElem?_eq_some_iff.mp found).1
  obtain ⟨fields, rfl⟩ := object_of_named
    (distinct.named item (List.mem_of_getElem? found))
  constructor
  · intro writes
    obtain ⟨after, new, written, inbounds, only⟩ := writes "" ⟨0, 0, true, true⟩
    obtain ⟨-, updated⟩ := writeBackClientSubID_eq_ok.mp written
    obtain ⟨key, cipher, free, saved⟩ := updateInboundClient_eq_none stored
      found distinct (changesClient_withSubId _) updated
    have new_eq := congrArg (·[index]?)
      (clientItems_of_saved (inbounds.symm.trans saved))
    simp only [List.getElem?_set_self inside, Option.some.injEq] at new_eq
    rw [new_eq] at only
    rw [(sameNames_withSubId _).enable] at cipher
    exact ⟨key, cipher, free, (subIdWritten_iff _).mp only⟩
  · intro reaches subId host
    have keyed : getClientPrimaryKey row.protocol
        (itemClient (.obj fields)) ≠ "" := by
      rw [reaches.key, clientKey_itemClient]
      exact distinct.keyed _ (List.mem_of_getElem? found)
    have changes := @changesClient_withSubId row (.obj fields) subId host.now
    have cipher := reaches.cipher
    rw [← (@sameNames_withSubId (.obj fields) subId host.now).enable] at cipher
    obtain ⟨after, updated⟩ := @exists_updateInboundClient database row index
      (.obj fields) _ _ host _ stored found distinct changes reaches.key cipher
      reaches.free
    exact ⟨after, _, writeBackClientSubID_eq_ok.mpr ⟨keyed, updated⟩,
      (updateInboundClient_eq_none stored found distinct changes updated).2.2.2,
      (subIdWritten_iff _).mpr reaches.created⟩

end WriteBack

theorem distinct_trojanClients :
    DistinctClients (trojanRow (trojanClients "lily")) :=
  ⟨by decide +kernel, by decide +kernel, by decide +kernel, by decide +kernel⟩

def openVpnItem : Json :=
  .obj [("id", .str "user"), ("security", .str ""), ("password", .str "rose"),
    ("email", .str "ann"), ("limitIp", .int 0), ("totalGB", .int 0),
    ("expiryTime", .int 0), ("enable", .bool true), ("tgId", .int 0),
    ("subId", .str ""), ("comment", .str ""), ("reset", .int 0),
    ("created_at", .int 1000), ("updated_at", .int 1000)]

/-- An OpenVPN inbound whose client has a username and a password. -/
def openVpnRow : StoredInbound where
  id := 2
  listen := ""
  port := 1194
  protocol := .vpn .openvpn
  settings := .parsed (.obj [("udpEnable", .bool true), ("caCert", .str "ca"),
    ("serverCert", .str "server"), ("clients", .arr [openVpnItem])])
  enable := true
  tag := "inbound-1194"
  up := 0
  down := 0
  allTime := 0
  total := 0
  expiryTime := 0

def openVpnCalls : List (AccountCall × PanelHost) :=
  [(.request (.addInbound { openVpnRow with id := 0 } []), noonHost)]

def openVpnDatabase : Database :=
  (accountMachine.run emptyDatabase openVpnCalls).getD emptyDatabase

end VpnUi.Store
