import VpnUi.Panel.Limits
import VpnUi.Store.MigrationDomains

namespace VpnUi.Store

open Foundation Panel

/-! What the migration leaves of the traffic rows. -/

variable {now : Int}

/-! The e-mails, which the repair keeps. -/

theorem text_viaFloat (json : Json) : json.viaFloat.text.value = json.text.value := by
  cases json with
  | int value =>
      rw [Json.viaFloat, printFloat]
      split <;> rfl
  | _ => rfl

theorem text_get {fields : JsonObject} {key : String} :
    (JsonObject.get fields key).text.value =
      ((JsonObject.get? fields key).map fun value => value.text.value).getD "" := by
  unfold JsonObject.get
  cases JsonObject.get? fields key <;> rfl

theorem email_limitsOf_obj {fields : JsonObject} :
    (limitsOf (.obj fields)).email = (JsonObject.get fields "email").text.value :=
  rfl

theorem email_repairClient {client : JsonObject} :
    (limitsOf (.obj (repairClient now (viaFloatFields client)))).email =
      (limitsOf (.obj client)).email := by
  rw [email_limitsOf_obj, email_limitsOf_obj, text_get, text_get,
    get?_repairClient_email, JsonObject.get?_viaFloatFields]
  cases JsonObject.get? client "email" with
  | none => rfl
  | some email => exact text_viaFloat email

theorem object_viaFloat {item : Json} :
    item.viaFloat.object? = item.object?.map viaFloatFields := by
  cases item with
  | int value =>
      rw [Json.viaFloat, printFloat]
      split <;> rfl
  | _ => rfl

theorem mapM_object_viaFloat {items : List Json} {clients : List JsonObject} :
    (viaFloatItems items).mapM Json.object? = some clients ↔
      ∃ objects : List JsonObject, items = objects.map Json.obj ∧
        clients = objects.map viaFloatFields := by
  induction items generalizing clients with
  | nil =>
      rw [viaFloatItems, List.mapM_nil]
      constructor
      · intro none
        exact ⟨[], rfl, (Option.some.inj none).symm⟩
      · rintro ⟨objects, empty, rfl⟩
        rw [List.map_eq_nil_iff.mp empty.symm]
        rfl
  | cons item items induction =>
      rw [viaFloatItems, List.mapM_cons, object_viaFloat]
      constructor
      · intro read
        cases item with
        | obj object =>
            obtain ⟨first, here, read⟩ := Option.bind_eq_some_iff.mp read
            obtain rfl := Option.some.inj here
            obtain ⟨rest, others, made⟩ := Option.bind_eq_some_iff.mp read
            obtain ⟨objects, rfl, rfl⟩ := induction.mp others
            exact ⟨object :: objects, rfl, (Option.some.inj made).symm⟩
        | _ => cases read
      · rintro ⟨objects, listed, rfl⟩
        obtain ⟨object, rest, rfl, rfl, others⟩ :=
          List.map_eq_cons_iff.mp listed.symm
        rw [induction.mpr ⟨rest, others.symm, rfl⟩]
        rfl

/-- A client of the settings after the repair. -/
def repairedItem (now : Int) (object : JsonObject) : Json :=
  .obj (repairClient now (viaFloatFields object))

/-- The objects among the clients come back repaired, no clients as null. -/
theorem repairClients_eq_some {items : List Json} {clients : Json} :
    repairClients now (viaFloatItems items) = some clients ↔
      ∃ objects : List JsonObject, items = objects.map .obj ∧
        clients = if objects = [] then .null
          else .arr (objects.map (repairedItem now)) := by
  unfold repairClients
  rw [Option.map_eq_some_iff]
  have encoded : ∀ objects : List JsonObject,
      (if objects.map viaFloatFields = [] then Json.null
        else .arr ((objects.map viaFloatFields).map fun client =>
          .obj (repairClient now client))) =
        if objects = [] then .null else .arr (objects.map (repairedItem now)) := by
    intro objects
    cases objects with
    | nil => rw [List.map_nil, if_pos rfl, if_pos rfl]
    | cons object objects => simp [repairedItem]
  constructor
  · rintro ⟨clients, read, rfl⟩
    obtain ⟨objects, rfl, rfl⟩ := mapM_object_viaFloat.mp read
    exact ⟨objects, rfl, encoded objects⟩
  · rintro ⟨objects, rfl, rfl⟩
    exact ⟨_, mapM_object_viaFloat.mpr ⟨objects, rfl, rfl⟩, encoded objects⟩

theorem emails_of_repairSettings {settings after : JsonText}
    (repaired : repairSettings now settings = some after) :
    emails after = emails settings := by
  unfold repairSettings at repaired
  split at repaired
  next items stored =>
    obtain ⟨clients, made, rfl⟩ := Option.map_eq_some_iff.mp repaired
    obtain ⟨objects, rfl, rfl⟩ := repairClients_eq_some.mp made
    have before : emails settings =
        objects.map fun object => (limitsOf (.obj object)).email := by
      rw [emails, limits, readAll_of_array stored, List.map_map, List.map_map]
      rfl
    rw [before]
    split
    next none =>
      subst none
      unfold emails limits readAll
      rw [show JsonText.fields (.parsed (.obj (JsonObject.set
        (viaFloatFields settings.fields) "clients" Json.null))) = JsonObject.set
          (viaFloatFields settings.fields) "clients" Json.null from rfl,
        JsonObject.get_set_self]
      rfl
    · rw [emails, limits, readAll_set_clients, List.map_map, List.map_map]
      exact List.map_congr_left fun object _ => email_repairClient
  · rw [Option.some.inj repaired]

theorem getClients_isSome_of_repairSettings {settings after : JsonText}
    (repaired : repairSettings now settings = some after) :
    (getClients after).isSome = (getClients settings).isSome := by
  unfold repairSettings at repaired
  split at repaired
  next items stored =>
    obtain ⟨clients, made, rfl⟩ := Option.map_eq_some_iff.mp repaired
    cases settings with
    | parsed json =>
        cases json with
        | null => cases stored
        | _ => rfl
    | _ => rfl
  · rw [Option.some.inj repaired]

/-- A panic is over a list of clients, so the settings are not null. -/
theorem getClients_isSome_of_panic {settings : JsonText}
    (panics : repairSettings now settings = none) :
    (getClients settings).isSome := by
  cases settings with
  | parsed json =>
      cases json with
      | null => cases panics
      | _ => rfl
  | _ => rfl

/-- The clients of the settings are objects. -/
def ObjectClients (settings : JsonText) : Prop :=
  ∀ items, settings.fields.get "clients" = .arr items →
    ∃ objects : List JsonObject, items = objects.map .obj

theorem repairSettings_ne_none_iff {settings : JsonText} :
    repairSettings now settings ≠ none ↔ ObjectClients settings := by
  unfold repairSettings ObjectClients
  split
  next items stored =>
    rw [ne_eq, Option.map_eq_none_iff]
    constructor
    · intro repaired others same
      obtain rfl := Json.arr.inj (stored.symm.trans same)
      obtain ⟨clients, made⟩ := Option.ne_none_iff_exists'.mp repaired
      obtain ⟨objects, rfl, -⟩ := repairClients_eq_some.mp made
      exact ⟨objects, rfl⟩
    · intro objects
      obtain ⟨objects, rfl⟩ := objects items stored
      rw [repairClients_eq_some.mpr ⟨objects, rfl, rfl⟩]
      nofun
  next others =>
    exact iff_of_true nofun fun items same => absurd same (others items)

/-! The rows that the loop creates. -/

/-- The rows that are looked at before settings that are null. -/
def reached (rows : List UpgradeRow) : List UpgradeRow :=
  rows.takeWhile fun row => (getClients row.settings).isSome

/-- Rows are only added, one for each e-mail. -/
structure StatsAdded (rows : List UpgradeRow) (before after : Traffics) : Prop where
  kept : ∀ stat ∈ before, stat ∈ after
  origin : ∀ stat ∈ after, stat ∈ before ∨
    ∃ row ∈ rows, ∃ client : Client, stat = clientStat row.id client ∧
      client.email ∈ emails row.settings ∧ client.email ≠ ""
  named : ∀ row ∈ rows, ∀ email ∈ emails row.settings, email ≠ "" →
    ∃ stat ∈ after, stat.email = email

section Added

variable {inboundId : Int} {before after : Traffics} {client : Client}
  {clients : List Client} {row : UpgradeRow} {rows : List UpgradeRow}

theorem mem_addMissingStat {stat : ClientTraffic} :
    stat ∈ addMissingStat inboundId before client ↔
      stat ∈ before ∨ stat = clientStat inboundId client ∧ client.email ≠ "" ∧
        before.find? client.email = none := by
  unfold addMissingStat
  split
  next present =>
    rw [← Option.not_isSome_iff_eq_none]
    tauto
  next absent =>
    rw [not_or, Option.not_isSome_iff_eq_none] at absent
    have free := Table.find?_eq_none.mp absent.2
    rw [Table.mem_save]
    constructor
    · rintro (rfl | ⟨old, -⟩)
      · exact .inr ⟨rfl, absent⟩
      · exact .inl old
    · rintro (old | ⟨rfl, -⟩)
      · exact .inr ⟨old, free stat old⟩
      · exact .inl rfl

theorem exists_addMissingStat (named : client.email ≠ "") :
    ∃ stat ∈ addMissingStat inboundId before client,
      stat.email = client.email := by
  cases found : before.find? client.email with
  | some stat =>
      obtain ⟨stored, same⟩ := Table.find?_eq_some.mp found
      exact ⟨stat, mem_addMissingStat.mpr (.inl stored), same⟩
  | none =>
      exact ⟨_, mem_addMissingStat.mpr (.inr ⟨rfl, named, found⟩), rfl⟩

theorem addMissingStats_spec :
    (∀ stat ∈ before, stat ∈ addMissingStats inboundId clients before) ∧
      (∀ stat ∈ addMissingStats inboundId clients before, stat ∈ before ∨
        ∃ client ∈ clients, stat = clientStat inboundId client ∧
          client.email ≠ "") ∧
      ∀ client ∈ clients, client.email ≠ "" →
        ∃ stat ∈ addMissingStats inboundId clients before,
          stat.email = client.email := by
  unfold addMissingStats
  induction clients generalizing before with
  | nil => simp
  | cons client clients induction =>
      rw [List.foldl_cons]
      obtain ⟨kept, origin, named⟩ :=
        @induction (addMissingStat inboundId before client)
      refine ⟨fun stat old => kept stat (mem_addMissingStat.mpr (.inl old)),
        ?_, ?_⟩
      · intro stat member
        rcases origin stat member with here | ⟨other, later, created⟩
        · rcases mem_addMissingStat.mp here with old | ⟨rfl, nonempty, -⟩
          · exact .inl old
          · exact .inr ⟨client, List.mem_cons_self, rfl, nonempty⟩
        · exact .inr ⟨other, List.mem_cons_of_mem _ later, created⟩
      · intro other member nonempty
        rcases List.mem_cons.mp member with rfl | later
        · obtain ⟨stat, stored, same⟩ := exists_addMissingStat nonempty
          exact ⟨stat, kept stat stored, same⟩
        · exact named other later nonempty

theorem statsAdded_nil : StatsAdded [] before before :=
  ⟨fun _ old => old, fun _ old => .inl old, fun _ none => by cases none⟩

theorem StatsAdded.cons {settings : JsonText}
    (repaired : repairSettings now row.settings = some settings)
    (read : getClients settings = some clients)
    (rest : StatsAdded rows (addMissingStats row.id clients before) after) :
    StatsAdded (row :: rows) before after := by
  have listed : clients.map Client.email = emails row.settings := by
    rw [← emails_of_repairSettings repaired, emails, ← map_limits read,
      List.map_map]
    rfl
  obtain ⟨kept, origin, named⟩ := @addMissingStats_spec row.id before clients
  refine ⟨fun stat old => rest.kept stat (kept stat old), ?_, ?_⟩
  · intro stat member
    rcases rest.origin stat member with here | ⟨other, later, created⟩
    · rcases origin stat here with old | ⟨client, inClients, made, nonempty⟩
      · exact .inl old
      · exact .inr ⟨row, List.mem_cons_self, client, made,
          listed ▸ List.mem_map_of_mem inClients, nonempty⟩
    · exact .inr ⟨other, List.mem_cons_of_mem _ later, created⟩
  · intro other member email inOther nonempty
    rcases List.mem_cons.mp member with rfl | later
    · rw [← listed] at inOther
      obtain ⟨client, inClients, rfl⟩ := List.mem_map.mp inOther
      obtain ⟨stat, stored, same⟩ := named client inClients nonempty
      exact ⟨stat, rest.kept stat stored, same⟩
    · exact rest.named other later email inOther nonempty

def allRead (rows : List UpgradeRow) : Bool :=
  rows.all fun row => (getClients row.settings).isSome

/-- Without a panic the loop goes over the rows before settings that are null. -/
theorem fixInbounds_of_objects
    (objects : ∀ row ∈ reached rows, repairSettings now row.settings ≠ none) :
    ∃ after, StatsAdded (reached rows) before after ∧
      fixInbounds now rows before =
        (if allRead rows then .finished else .stopped, after) := by
  induction rows generalizing before with
  | nil => exact ⟨before, statsAdded_nil, rfl⟩
  | cons row rows induction =>
      unfold reached at objects ⊢
      rw [List.takeWhile_cons] at objects ⊢
      unfold fixInbounds
      rw [allRead, List.all_cons]
      cases repaired : repairSettings now row.settings with
      | none =>
          rw [if_pos (getClients_isSome_of_panic repaired)] at objects
          exact absurd repaired (objects row List.mem_cons_self)
      | some settings =>
          have same := getClients_isSome_of_repairSettings repaired
          cases read : getClients settings with
          | none =>
              rw [read] at same
              rw [← same]
              exact ⟨before, statsAdded_nil, by simp [read]⟩
          | some clients =>
              rw [read] at same
              rw [← same] at objects ⊢
              obtain ⟨after, added, ran⟩ := @induction
                (addMissingStats row.id clients before) fun other member =>
                  objects other (List.mem_cons_of_mem _ member)
              refine ⟨after, added.cons repaired read, ?_⟩
              simp only [read]
              exact ran

theorem fixInbounds_panics {row : UpgradeRow} (member : row ∈ reached rows)
    (panics : repairSettings now row.settings = none) :
    (fixInbounds now rows before).1 = .panicked := by
  induction rows generalizing before with
  | nil => cases member
  | cons head rows induction =>
      unfold reached at member
      rw [List.takeWhile_cons] at member
      unfold fixInbounds
      cases repaired : repairSettings now head.settings with
      | none => rfl
      | some settings =>
          have same := getClients_isSome_of_repairSettings repaired
          cases read : getClients settings with
          | none =>
              rw [read] at same
              rw [← same] at member
              cases member
          | some clients =>
              rw [read] at same
              rw [← same] at member
              rcases List.mem_cons.mp member with rfl | later
              · rw [panics] at repaired
                cases repaired
              · simp only [read]
                exact induction later

end Added

/-! The tables of the accounts. -/

namespace UpgradeDb

def migrating (db : UpgradeDb) : List UpgradeRow :=
  db.inbounds.rows.filter UpgradeRow.migrates

def clientEmails (db : UpgradeDb) : List String :=
  db.inbounds.rows.flatMap fun row => emails row.settings

def migratingEmails (db : UpgradeDb) : List String :=
  db.migrating.flatMap fun row => emails row.settings

/-- The loop comes to its end, and the repaired settings are saved. -/
def saves (db : UpgradeDb) : Bool := allRead db.migrating

end UpgradeDb

/-- The accounts of a row, which the migration leaves alone. -/
structure SameAccounts (before after : UpgradeRow) : Prop where
  migrates : after.migrates = before.migrates
  emails : emails after.settings = emails before.settings

section Tables

variable {db : UpgradeDb} {apply : UpgradeRow → UpgradeRow}
  {keeps : ∀ row, (apply row).id = row.id}

theorem mem_mapInbounds {row : UpgradeRow} :
    row ∈ (db.mapInbounds apply keeps).inbounds ↔
      ∃ old ∈ db.inbounds, apply old = row :=
  @Table.mem_mapRows _ _ _ _ db.inbounds apply keeps row

theorem migrating_mapInbounds
    (same : ∀ row, (apply row).migrates = row.migrates) :
    (db.mapInbounds apply keeps).migrating = db.migrating.map apply := by
  unfold UpgradeDb.migrating
  change (db.inbounds.rows.map apply).filter UpgradeRow.migrates = _
  rw [List.filter_map]
  congr 2
  funext row
  exact same row

theorem clientEmails_mapInbounds (same : ∀ row, SameAccounts row (apply row)) :
    (db.mapInbounds apply keeps).clientEmails = db.clientEmails := by
  unfold UpgradeDb.clientEmails
  change (db.inbounds.rows.map apply).flatMap _ = _
  rw [List.flatMap_map]
  congr 1
  funext row
  exact (same row).emails

theorem migratingEmails_mapInbounds (same : ∀ row, SameAccounts row (apply row)) :
    (db.mapInbounds apply keeps).migratingEmails = db.migratingEmails := by
  unfold UpgradeDb.migratingEmails
  rw [migrating_mapInbounds fun row => (same row).migrates, List.flatMap_map]
  congr 1
  funext row
  exact (same row).emails

end Tables

theorem sameAccounts_backfillRow {row : UpgradeRow} :
    SameAccounts row (backfillRow row) := ⟨rfl, rfl⟩

theorem id_repaired {row : UpgradeRow} : (row.repaired now).id = row.id := by
  unfold UpgradeRow.repaired
  split <;> rfl

theorem sameAccounts_repaired {row : UpgradeRow} :
    SameAccounts row (row.repaired now) := by
  unfold UpgradeRow.repaired
  split
  · refine ⟨rfl, ?_⟩
    change emails ((repairSettings now row.settings).getD row.settings) = _
    cases repaired : repairSettings now row.settings with
    | none => rfl
    | some settings => exact emails_of_repairSettings repaired
  · exact ⟨rfl, rfl⟩

theorem sameAccounts_converted {row : UpgradeRow} :
    SameAccounts row (if row.multiDomain then row.converted else row) := by
  split <;> exact ⟨rfl, rfl⟩

/-! The cells that the orphans are compared with. -/

def mendEmail : Json → Json
  | .obj fields => .obj (addEmail (viaFloatFields fields))
  | item => item

/-- The cells of a row, after a repair that is saved. -/
def cellsAfter (saves : Bool) (row : UpgradeRow) : List (Option String) :=
  match row.settings.fields.get "clients" with
  | .arr items =>
      items.map fun item => jsonColumn "email"
        (if saves && row.migrates then mendEmail item else item)
  | _ => emailCells row

def UpgradeDb.cells (db : UpgradeDb) : List (Option String) :=
  db.inbounds.rows.flatMap (cellsAfter db.saves)

theorem email_mendEmail {item : Json} :
    (limitsOf (mendEmail item)).email = (limitsOf item).email := by
  cases item with
  | obj fields =>
      rw [mendEmail, email_limitsOf_obj, email_limitsOf_obj, text_get, text_get,
        get?_addEmail_self, JsonObject.get?_viaFloatFields]
      cases JsonObject.get? fields "email" with
      | none => rfl
      | some email => exact text_viaFloat email
  | _ => rfl

theorem jsonColumn_repairedItem {object : JsonObject} :
    jsonColumn "email" (repairedItem now object) =
      jsonColumn "email" (mendEmail (.obj object)) := by
  have same : JsonObject.get (repairClient now (viaFloatFields object)) "email" =
      JsonObject.get (addEmail (viaFloatFields object)) "email" := by
    rw [JsonObject.get, JsonObject.get, get?_repairClient_email,
      get?_addEmail_self]
  rw [repairedItem, mendEmail, jsonColumn, jsonColumn, same]

theorem emailCells_of_array {row : UpgradeRow} {items : List Json}
    (stored : row.settings.fields.get "clients" = .arr items) :
    emailCells row = items.map (jsonColumn "email") := by
  rw [emailCells, stored]
  rfl

theorem cellsAfter_of_array {saves : Bool} {row : UpgradeRow} {items : List Json}
    (stored : row.settings.fields.get "clients" = .arr items) :
    cellsAfter saves row = items.map fun item => jsonColumn "email"
      (if saves && row.migrates then mendEmail item else item) := by
  rw [cellsAfter, stored]

theorem cellsAfter_of_other {saves : Bool} {row : UpgradeRow}
    (others : ∀ items, row.settings.fields.get "clients" ≠ .arr items) :
    cellsAfter saves row = emailCells row := by
  unfold cellsAfter
  split
  next items stored => exact absurd stored (others items)
  · rfl

/-- A row that is not repaired keeps its cells. -/
theorem cellsAfter_of_kept {saves : Bool} {row : UpgradeRow}
    (kept : (saves && row.migrates) = false) :
    emailCells row = cellsAfter saves row := by
  cases stored : row.settings.fields.get "clients" with
  | arr items =>
      rw [emailCells_of_array stored, cellsAfter_of_array stored, kept]
      rfl
  | _ =>
      refine (cellsAfter_of_other fun items same => ?_).symm
      rw [stored] at same
      cases same

theorem cellsAfter_unsaved {row : UpgradeRow} :
    emailCells row = cellsAfter false row :=
  cellsAfter_of_kept (Bool.false_and _)

theorem cellsAfter_saved {row : UpgradeRow}
    (objects : row.migrates → repairSettings now row.settings ≠ none) :
    emailCells (row.repaired now) = cellsAfter true row := by
  unfold UpgradeRow.repaired
  split
  next migrates =>
    cases repaired : repairSettings now row.settings with
    | none => exact absurd repaired (objects migrates)
    | some settings =>
        unfold repairSettings at repaired
        split at repaired
        next items stored =>
          obtain ⟨clients, made, rfl⟩ := Option.map_eq_some_iff.mp repaired
          obtain ⟨objects, rfl, rfl⟩ := repairClients_eq_some.mp made
          have read : JsonObject.get (JsonText.fields (.parsed (.obj
              (JsonObject.set (viaFloatFields row.settings.fields) "clients"
                (if objects = [] then .null
                  else .arr (objects.map (repairedItem now))))))) "clients" =
              if objects = [] then .null
                else .arr (objects.map (repairedItem now)) :=
            JsonObject.get_set_self
          rw [cellsAfter_of_array stored, migrates]
          unfold emailCells
          rw [Option.getD_some, read]
          cases objects with
          | nil => rfl
          | cons object objects =>
              rw [if_neg (List.cons_ne_nil _ _)]
              simp only [jsonEach, Option.getD_some, List.map_map, Bool.and_self,
                if_true]
              apply List.map_congr_left
              intro object _
              rw [Function.comp_apply, Function.comp_apply,
                jsonColumn_repairedItem]
        next others =>
          obtain rfl := Option.some.inj repaired
          exact (cellsAfter_of_other others).symm
  next stays =>
    exact cellsAfter_of_kept (by simpa using stays)

theorem notIn_iff {email : String} {cells : List (Option String)} :
    notIn email cells ↔ none ∉ cells ∧ some email ∉ cells := by
  unfold notIn
  rw [List.all_eq_true]
  constructor
  · intro apart
    exact ⟨fun null => absurd (apart none null) (by simp),
      fun listed => absurd (apart _ listed) (by simp)⟩
  · rintro ⟨null, listed⟩ cell member
    cases cell with
    | none => exact absurd member null
    | some other =>
        have differs : some other ≠ some email := fun same =>
          listed (same ▸ member)
        simpa using differs

/-- An e-mail that is read of a client is one of the cells. -/
theorem mem_cells {db : UpgradeDb} {email : String}
    (listed : email ∈ db.clientEmails) (nonempty : email ≠ "") :
    some email ∈ db.cells := by
  obtain ⟨row, member, named⟩ := List.mem_flatMap.mp listed
  refine List.mem_flatMap.mpr ⟨row, member, ?_⟩
  unfold cellsAfter
  cases stored : row.settings.fields.get "clients" with
  | arr items =>
      rw [emails, limits, readAll_of_array stored, List.map_map] at named
      obtain ⟨item, inItems, same⟩ := List.mem_map.mp named
      refine List.mem_map.mpr ⟨item, inItems, jsonColumn_email ?_ nonempty⟩
      split
      · rw [← same]
        exact email_mendEmail
      · exact same
  | _ =>
      unfold emails limits readAll at named
      rw [stored] at named
      cases named

/-! The migration and the rows. -/

/-- Every row left is that of a client, every row of a client is left but for its
total of all time, and every client of the three protocols has one. -/
structure RowsRepaired (before after : UpgradeDb) : Prop where
  owned : ∀ stat ∈ after.traffics, stat.email ∈ after.clientEmails
  kept : ∀ stat ∈ before.traffics, stat.email ∈ before.clientEmails →
    backfillStat stat ∈ after.traffics
  named : ∀ email ∈ after.migratingEmails, email ≠ "" →
    ∃ stat ∈ after.traffics, stat.email = email

/-- What the rows have to be like: those of clients belong to an inbound, if rows
without one are deleted; clients that the loop does not come to have one; and
the cells tell the orphans. -/
structure RowsFit (db : UpgradeDb) : Prop where
  placed : ∀ stat ∈ db.traffics, stat.email ∈ db.clientEmails →
    (db.saves → stat.inboundId ≠ 0) ∧ (stat.email = "" → ¬ notIn "" db.cells)
  covered : ∀ email ∈ db.migratingEmails, email ≠ "" →
    (∃ row ∈ reached db.migrating, email ∈ emails row.settings) ∨
      ∃ stat ∈ db.traffics, stat.email = email
  owned : ∀ stat ∈ db.traffics, (db.saves → stat.inboundId ≠ 0) →
    stat.email ∈ db.clientEmails ∨ notIn stat.email db.cells

section Rows

variable {before after : UpgradeDb} {traffics : Traffics}

/-- The rows that are left of those of the loop. -/
def Leaves (before : UpgradeDb) (traffics : Traffics) (after : Traffics) : Prop :=
  ∀ stat, stat ∈ after ↔ stat ∈ traffics ∧
    (before.saves → stat.inboundId ≠ 0) ∧ ¬ notIn stat.email before.cells

theorem mem_clientEmails_of_reached {row : UpgradeRow} {email : String}
    (member : row ∈ reached before.migrating)
    (named : email ∈ emails row.settings) :
    row ∈ before.inbounds ∧ email ∈ before.clientEmails := by
  have listed := List.mem_of_mem_filter ((List.takeWhile_sublist _).subset member)
  exact ⟨listed, List.mem_flatMap.mpr ⟨row, listed, named⟩⟩

theorem clientEmails_of_migratingEmails {email : String}
    (named : email ∈ before.migratingEmails) : email ∈ before.clientEmails := by
  obtain ⟨row, member, listed⟩ := List.mem_flatMap.mp named
  exact List.mem_flatMap.mpr ⟨row, List.mem_of_mem_filter member, listed⟩

theorem mem_backfilled {stat : ClientTraffic} :
    stat ∈ (backfillAllTime before).traffics ↔
      ∃ old ∈ before.traffics, backfillStat old = stat :=
  @Table.mem_mapRows _ _ _ _ before.traffics backfillStat (fun _ => rfl) stat

theorem RowsFit.not_notIn (fit : RowsFit before) {stat : ClientTraffic}
    (stored : stat ∈ before.traffics) (listed : stat.email ∈ before.clientEmails) :
    ¬ notIn stat.email before.cells := by
  by_cases empty : stat.email = ""
  · rw [empty]
    exact (fit.placed stat stored listed).2 empty
  · exact fun orphan => (notIn_iff.mp orphan).2 (mem_cells listed empty)

theorem rowsRepaired_iff
    (added : StatsAdded (reached before.migrating)
      (backfillAllTime before).traffics traffics)
    (leaves : Leaves before traffics after.traffics)
    (clients : after.clientEmails = before.clientEmails)
    (migrating : after.migratingEmails = before.migratingEmails) :
    RowsRepaired before after ↔ RowsFit before := by
  have old {stat : ClientTraffic} (stored : stat ∈ before.traffics) :
      backfillStat stat ∈ traffics :=
    added.kept _ (mem_backfilled.mpr ⟨stat, stored, rfl⟩)
  have origin {stat : ClientTraffic} (member : stat ∈ traffics) :
      (∃ first ∈ before.traffics, backfillStat first = stat) ∨
        ∃ row ∈ reached before.migrating,
          stat.inboundId = row.id ∧ stat.email ∈ emails row.settings := by
    refine (added.origin stat member).imp mem_backfilled.mp ?_
    rintro ⟨row, here, client, rfl, listed, -⟩
    exact ⟨row, here, rfl, listed⟩
  constructor
  · intro repaired
    refine ⟨?_, ?_, ?_⟩
    · intro stat stored listed
      obtain ⟨-, placed, left⟩ :=
        (leaves _).mp (repaired.kept stat stored listed)
      exact ⟨placed, fun empty => empty ▸ left⟩
    · intro email named nonempty
      obtain ⟨stat, left, rfl⟩ :=
        repaired.named email (migrating ▸ named) nonempty
      rcases origin ((leaves stat).mp left).1 with ⟨first, stored, rfl⟩ | created
      · exact .inr ⟨first, stored, rfl⟩
      · obtain ⟨row, member, -, listed⟩ := created
        exact .inl ⟨row, member, listed⟩
    · intro stat stored placed
      by_cases orphan : notIn stat.email before.cells
      · exact .inr orphan
      · have left := (leaves (backfillStat stat)).mpr ⟨old stored, placed, orphan⟩
        have owned := repaired.owned (backfillStat stat) left
        rw [clients] at owned
        exact .inl owned
  · intro fit
    refine ⟨?_, ?_, ?_⟩
    · intro stat left
      obtain ⟨member, placed, inCells⟩ := (leaves stat).mp left
      rw [clients]
      rcases origin member with ⟨first, stored, rfl⟩ | ⟨row, here, -, listed⟩
      · exact (fit.owned first stored placed).resolve_right inCells
      · exact (mem_clientEmails_of_reached here listed).2
    · intro stat stored listed
      have left : ¬ notIn stat.email before.cells := fit.not_notIn stored listed
      exact (leaves _).mpr ⟨old stored, (fit.placed stat stored listed).1, left⟩
    · intro email named nonempty
      rw [migrating] at named
      have listed := clientEmails_of_migratingEmails named
      have present : ∃ stat ∈ traffics, stat.email = email := by
        rcases fit.covered email named nonempty with
          ⟨row, member, inRow⟩ | ⟨stat, stored, same⟩
        · exact added.named row member email inRow nonempty
        · exact ⟨backfillStat stat, old stored, same⟩
      obtain ⟨stat, member, rfl⟩ := present
      refine ⟨stat, (leaves stat).mpr ⟨member, fun saves => ?_, fun orphan =>
        (notIn_iff.mp orphan).2 (mem_cells listed nonempty)⟩, rfl⟩
      rcases origin member with ⟨first, stored, rfl⟩ | ⟨row, here, same, inRow⟩
      · exact (fit.placed first stored listed).1 saves
      · rw [same]
        exact before.keyed row (mem_clientEmails_of_reached here inRow).1

end Rows

/-! The run of the migration. -/

section Run

variable {db : UpgradeDb} {rows : List UpgradeRow}

theorem fixInbounds_backfilled {traffics : Traffics} :
    fixInbounds now (rows.map backfillRow) traffics =
      fixInbounds now rows traffics := by
  induction rows generalizing traffics with
  | nil => rfl
  | cons row rows induction =>
      have settings : (backfillRow row).settings = row.settings := rfl
      rw [List.map_cons, fixInbounds, fixInbounds, settings]
      cases repairSettings now row.settings with
      | none => rfl
      | some settings =>
          dsimp only
          cases getClients settings with
          | none => rfl
          | some clients => exact induction

theorem migrating_backfillAllTime :
    (backfillAllTime db).migrating = db.migrating.map backfillRow :=
  @migrating_mapInbounds db backfillRow (fun _ => rfl) fun _ => rfl

/-- The loop of the migration, on the rows as they were. -/
def migrationLoop (now : Int) (db : UpgradeDb) : LoopEnd × Traffics :=
  fixInbounds now db.migrating (backfillAllTime db).traffics

/-- The database when the loop has come to its end. -/
def repairedDb (now : Int) (db : UpgradeDb) (traffics : Traffics) : UpgradeDb :=
  ((backfillAllTime db).mapInbounds (UpgradeRow.repaired now)
      (UpgradeRow.repaired_id now)).withTraffics
    (traffics.filter (·.inboundId ≠ 0))

theorem migrationRequirements_eq :
    migrationRequirements now db =
      match migrationLoop now db with
      | (.panicked, traffics) =>
          ((backfillAllTime db).withTraffics traffics, .panicked)
      | (.stopped, traffics) =>
          ((backfillAllTime db).withTraffics traffics, .returned)
      | (.finished, traffics) =>
          convertMultiDomain (repairedDb now db traffics) := by
  have loop : fixInbounds now ((backfillAllTime db).inbounds.rows.filter
      UpgradeRow.migrates) (backfillAllTime db).traffics =
        migrationLoop now db := by
    have rows := @migrating_backfillAllTime db
    unfold UpgradeDb.migrating at rows
    rw [rows]
    exact fixInbounds_backfilled
  unfold migrationRequirements
  dsimp only
  rw [loop]
  rcases migrationLoop now db with ⟨ending, traffics⟩
  cases ending <;> rfl

/-- The clients that the loop comes to are objects. -/
def ClientsAreObjects (db : UpgradeDb) : Prop :=
  ∀ row ∈ reached db.migrating, ObjectClients row.settings

theorem loop_panics (mixed : ¬ ClientsAreObjects db) :
    (migrationRequirements now db).2 = .panicked := by
  unfold ClientsAreObjects at mixed
  push Not at mixed
  obtain ⟨row, member, panics⟩ := mixed
  rw [← @repairSettings_ne_none_iff now, not_not] at panics
  have ended := @fixInbounds_panics now (backfillAllTime db).traffics
    db.migrating row member panics
  rw [migrationRequirements_eq]
  change (migrationLoop now db).1 = .panicked at ended
  rcases loop : migrationLoop now db with ⟨ending, traffics⟩
  rw [loop] at ended
  obtain rfl : ending = .panicked := ended
  rfl

theorem multiDomain_repaired {row : UpgradeRow} :
    ((backfillRow row).repaired now).multiDomain = row.multiDomain ∧
      (((backfillRow row).repaired now).DomainsNamed ↔ row.DomainsNamed) := by
  unfold UpgradeRow.repaired
  split <;> exact ⟨rfl, Iff.rfl⟩

theorem mem_backfillAllTime {row : UpgradeRow} :
    row ∈ (backfillAllTime db).inbounds ↔
      ∃ old ∈ db.inbounds, backfillRow old = row :=
  @mem_mapInbounds db backfillRow (fun _ => rfl) row

theorem mem_repairedDb {traffics : Traffics} {row : UpgradeRow} :
    row ∈ (repairedDb now db traffics).inbounds ↔
      ∃ old ∈ db.inbounds, (backfillRow old).repaired now = row := by
  unfold repairedDb UpgradeDb.withTraffics
  rw [mem_mapInbounds]
  constructor
  · rintro ⟨middle, member, rfl⟩
    obtain ⟨old, stored, rfl⟩ := mem_backfillAllTime.mp member
    exact ⟨old, stored, rfl⟩
  · rintro ⟨old, stored, rfl⟩
    exact ⟨backfillRow old, mem_backfillAllTime.mpr ⟨old, stored, rfl⟩, rfl⟩

/-- Of the inbounds with domains every one can be converted. -/
def UpgradeDb.DomainsNamed (db : UpgradeDb) : Prop :=
  ∀ row ∈ db.inbounds, row.multiDomain → row.DomainsNamed

theorem domainsNamed_repairedDb {traffics : Traffics} :
    (repairedDb now db traffics).DomainsNamed ↔ db.DomainsNamed := by
  constructor
  · intro named row member multi
    have here : (backfillRow row).repaired now ∈
        (repairedDb now db traffics).inbounds :=
      mem_repairedDb.mpr ⟨row, member, rfl⟩
    exact multiDomain_repaired.2.mp
      (named _ here (multiDomain_repaired.1.trans multi))
  · intro named row here multi
    obtain ⟨old, member, rfl⟩ := mem_repairedDb.mp here
    exact multiDomain_repaired.2.mpr
      (named old member (multiDomain_repaired.1.symm.trans multi))

/-- The final database, after a loop that ends so. -/
def upgradedDb (now : Int) (db : UpgradeDb) (traffics : Traffics) : UpgradeDb :=
  if db.saves then
    (repairedDb now db traffics).mapInbounds
      (fun row => if row.multiDomain then row.converted else row)
      fun row => by split <;> rfl
  else (backfillAllTime db).withTraffics traffics

theorem migrationRequirements_of_sound (objects : ClientsAreObjects db)
    (domains : db.saves → db.DomainsNamed) :
    ∃ traffics, StatsAdded (reached db.migrating) (backfillAllTime db).traffics
        traffics ∧
      migrationRequirements now db = (upgradedDb now db traffics, .returned) := by
  obtain ⟨traffics, added, ran⟩ := @fixInbounds_of_objects now
    (backfillAllTime db).traffics db.migrating fun row member =>
      repairSettings_ne_none_iff.mpr (objects row member)
  refine ⟨traffics, added, ?_⟩
  change migrationLoop now db =
    (if db.saves then .finished else .stopped, traffics) at ran
  rw [migrationRequirements_eq, ran, upgradedDb]
  cases saves : db.saves with
  | false => rfl
  | true =>
      exact convertMultiDomain_of_named
        (domainsNamed_repairedDb.mpr (domains saves))

theorem migrationRequirements_returned_iff :
    (migrationRequirements now db).2 = .returned ↔
      ClientsAreObjects db ∧ (db.saves → db.DomainsNamed) := by
  constructor
  · intro returned
    have objects : ClientsAreObjects db := by
      by_contra mixed
      rw [loop_panics mixed] at returned
      cases returned
    refine ⟨objects, fun saves => ?_⟩
    obtain ⟨traffics, -, ran⟩ := @fixInbounds_of_objects now
      (backfillAllTime db).traffics db.migrating fun row member =>
        repairSettings_ne_none_iff.mpr (objects row member)
    change migrationLoop now db =
      (if db.saves then .finished else .stopped, traffics) at ran
    rw [migrationRequirements_eq, ran, saves] at returned
    refine (@domainsNamed_repairedDb now db traffics).mp
      fun row member multi => ?_
    by_contra unnamed
    have panicked := convertMultiDomain_panics member multi unnamed
    exact absurd (returned.symm.trans panicked) (by decide)
  · rintro ⟨objects, domains⟩
    obtain ⟨traffics, -, ran⟩ := migrationRequirements_of_sound objects domains
    rw [ran]

theorem upgradedDb_accounts {traffics : Traffics} :
    (upgradedDb now db traffics).clientEmails = db.clientEmails ∧
      (upgradedDb now db traffics).migratingEmails = db.migratingEmails := by
  have backfill : (backfillAllTime db).clientEmails = db.clientEmails ∧
      (backfillAllTime db).migratingEmails = db.migratingEmails :=
    ⟨@clientEmails_mapInbounds db backfillRow (fun _ => rfl)
        fun _ => sameAccounts_backfillRow,
      @migratingEmails_mapInbounds db backfillRow (fun _ => rfl)
        fun _ => sameAccounts_backfillRow⟩
  unfold upgradedDb
  split
  · rw [clientEmails_mapInbounds fun _ => sameAccounts_converted,
      migratingEmails_mapInbounds fun _ => sameAccounts_converted]
    constructor
    · exact (@clientEmails_mapInbounds _ (UpgradeRow.repaired now)
        (fun _ => id_repaired) fun _ => sameAccounts_repaired).trans backfill.1
    · exact (@migratingEmails_mapInbounds _ (UpgradeRow.repaired now)
        (fun _ => id_repaired) fun _ => sameAccounts_repaired).trans backfill.2
  · exact backfill

theorem upgradedDb_cells {traffics : Traffics}
    (objects : ClientsAreObjects db) :
    (upgradedDb now db traffics).inbounds.rows.flatMap emailCells = db.cells := by
  unfold upgradedDb UpgradeDb.cells
  split
  next saves =>
    change (((db.inbounds.rows.map backfillRow).map (UpgradeRow.repaired now)).map
      fun row => if row.multiDomain then row.converted else row).flatMap
        emailCells = _
    rw [saves, List.map_map, List.map_map, List.flatMap_map]
    apply List.flatMap_congr
    intro row member
    have whole : reached db.migrating = db.migrating :=
      List.takeWhile_eq_self_iff.mpr (List.all_eq_true.mp saves)
    have repaired : emailCells ((backfillRow row).repaired now) =
        cellsAfter true row := by
      refine (@cellsAfter_saved now (backfillRow row) fun migrates =>
        repairSettings_ne_none_iff.mpr (objects row ?_)).trans rfl
      rw [whole]
      exact List.mem_filter.mpr ⟨member, migrates⟩
    rw [← repaired]
    dsimp only [Function.comp_apply]
    split <;> rfl
  next unsaved =>
    rw [Bool.not_eq_true] at unsaved
    change (db.inbounds.rows.map backfillRow).flatMap emailCells = _
    rw [unsaved, List.flatMap_map]
    congr 1
    funext row
    exact cellsAfter_unsaved

theorem upgradedDb_traffics {traffics : Traffics} {stat : ClientTraffic} :
    stat ∈ (upgradedDb now db traffics).traffics ↔
      stat ∈ traffics ∧ (db.saves → stat.inboundId ≠ 0) := by
  unfold upgradedDb
  split
  next saves =>
    change stat ∈ Table.filter traffics _ ↔ _
    rw [Table.mem_filter]
    simp [saves]
  next unsaved =>
    change stat ∈ traffics ↔ _
    simp [unsaved]

end Run

/-- What the migration needs to repair the rows. -/
structure Repairable (db : UpgradeDb) : Prop where
  objects : ClientsAreObjects db
  domains : db.saves → db.DomainsNamed
  rows : RowsFit db

theorem migrateDB_of_returned {db upgraded : UpgradeDb}
    (ran : migrationRequirements now db = (upgraded, .returned)) :
    migrateDB now db = (migrationRemoveOrphanedTraffics upgraded, .returned) := by
  unfold migrateDB
  rw [ran]

/-- The upgrade leaves exactly the rows of the clients where these are the rows
to begin with, and nothing is in the way of the loop and of the deletion. -/
theorem migrateDB_repairs_iff (now : Int) (db : UpgradeDb) :
    (migrateDB now db).2 = .returned ∧ RowsRepaired db (migrateDB now db).1 ↔
      Repairable db := by
  have returned : (migrateDB now db).2 = .returned ↔
      ClientsAreObjects db ∧ (db.saves → db.DomainsNamed) := by
    rw [← migrationRequirements_returned_iff]
    unfold migrateDB
    rcases migrationRequirements now db with ⟨after, exit⟩
    cases exit <;> rfl
  rw [returned]
  have rows (objects : ClientsAreObjects db)
      (domains : db.saves → db.DomainsNamed) :
      RowsRepaired db (migrateDB now db).1 ↔ RowsFit db := by
    obtain ⟨traffics, added, ran⟩ :=
      migrationRequirements_of_sound objects domains
    rw [migrateDB_of_returned ran]
    refine rowsRepaired_iff added ?_ upgradedDb_accounts.1 upgradedDb_accounts.2
    intro stat
    change stat ∈ Table.filter _ _ ↔ _
    rw [Table.mem_filter, upgradedDb_traffics, upgradedDb_cells objects,
      and_assoc]
    simp
  constructor
  · rintro ⟨⟨objects, domains⟩, repaired⟩
    exact ⟨objects, domains, (rows objects domains).mp repaired⟩
  · rintro ⟨objects, domains, fit⟩
    exact ⟨⟨objects, domains⟩, (rows objects domains).mpr fit⟩

/-! A shadowsocks inbound with a client that has no e-mail, and a row of a client
that is gone. -/

def namelessRow : UpgradeRow where
  id := 1
  listen := ""
  port := 8388
  protocol := .shadowsocks
  settings := .parsed (.obj [("clients", .arr [.obj [("password", .str "tulip")]])])
  enable := true
  tag := "inbound-8388"
  up := 0
  down := 0
  allTime := 0
  total := 0
  expiryTime := 0
  streamSettings := .parsed (.obj [("network", .str "tcp")])

def goneStat : ClientTraffic where
  inboundId := 1
  email := "gone"
  enable := true
  up := 0
  down := 0
  allTime := 0
  expiryTime := 0
  total := 0
  reset := 0
  lastOnline := 0

def namelessDb : UpgradeDb where
  inbounds := Table.empty.save namelessRow
  keyed := by
    intro row member
    rcases Table.mem_save.mp member with rfl | ⟨old, -⟩
    · decide
    · exact absurd old Table.not_mem_empty
  traffics := Table.empty.save goneStat

/-- The e-mail that is missing is NULL, and nothing is an orphan. -/
theorem null_keeps_orphan :
    goneStat ∈ (migrateDB 0 namelessDb).1.traffics.rows ∧
      goneStat.email ∉ (migrateDB 0 namelessDb).1.clientEmails ∧
      ¬ ((migrateDB 0 namelessDb).2 = .returned ∧
        RowsRepaired namelessDb (migrateDB 0 namelessDb).1) := by
  have left : goneStat ∈ (migrateDB 0 namelessDb).1.traffics.rows := by
    decide +kernel
  have unknown : goneStat.email ∉ (migrateDB 0 namelessDb).1.clientEmails := by
    decide +kernel
  exact ⟨left, unknown, fun repaired => unknown (repaired.2.owned _ left)⟩

end VpnUi.Store
