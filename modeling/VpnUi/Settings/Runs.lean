import VpnUi.Panel.CheckedSpec
import VpnUi.Settings.Refinement

namespace VpnUi.Settings

open Foundation
open Panel (bind_eq_ok)

/-! The requests that write settings, save by save and in any order, and the
record that they leave. -/

section Check

variable {host : Host} {s checked : AllSetting} {path : String}
  {place other : PathField} {field : Field}

@[simp] theorem path_setPath_self :
    (s.setPath place path).path place = path := by
  cases place <;> rfl

theorem path_setPath_of_ne (apart : other ≠ place) :
    (s.setPath place path).path other = s.path other := by
  cases place <;> cases other <;> first | exact absurd rfl apart | rfl

theorem setPath_of_ne (apart : field ≠ place.field) :
    s.setPath place path field = s field := by
  cases place <;> exact Function.update_of_ne apart _ s

theorem path_completePath :
    (s.completePath place).path other =
      if other = place then withSlashes (s.path other) else s.path other := by
  unfold AllSetting.completePath
  split
  next same => rw [same, path_setPath_self]
  next apart => exact path_setPath_of_ne apart

/-- Each path is completed, and once. -/
theorem path_completed :
    (PathField.all.foldl AllSetting.completePath s).path place =
      withSlashes (s.path place) := by
  cases place <;> simp [PathField.all, path_completePath]

theorem completed_of_ne (apart : ∀ place : PathField, field ≠ place.field) :
    PathField.all.foldl AllSetting.completePath s field = s field := by
  simp [PathField.all, AllSetting.completePath, setPath_of_ne (apart _)]

theorem PathField.mem_all (place : PathField) : place ∈ PathField.all := by
  cases place <;> decide

theorem AllSetting.ext_of_paths {other : AllSetting}
    (paths : ∀ place, s.path place = other.path place)
    (rest : ∀ field, (∀ place : PathField, field ≠ place.field) →
      s field = other field) : s = other := by
  funext field
  by_cases isPath : ∃ place : PathField, field = place.field
  · obtain ⟨place, rfl⟩ := isPath
    have same := paths place
    cases place <;> exact same
  · exact rest field (not_exists.mp isPath)

/-- What a record that passes has passed, and what becomes of it. -/
structure Passed (host : Host) (s checked : AllSetting) : Prop where
  webListen : checkListen "web listen is not valid ip:" s.webListen = .ok ()
  subListen : checkListen "Sub listen is not valid ip:" s.subListen = .ok ()
  webPort : checkPort "web port is not a valid port:" s.webPort = .ok ()
  subPort : checkPort "Sub port is not a valid port:" s.subPort = .ok ()
  apart : s.checkApart = .ok ()
  webKeyPair : checkKeyPair host s.webCertFile s.webKeyFile = .ok ()
  subKeyPair : checkKeyPair host s.subCertFile s.subKeyFile = .ok ()
  location : checkLocation host checked.timeLocation = .ok ()
  completed : PathField.all.foldl AllSetting.completePath s = checked

theorem checkValid_eq_ok :
    s.checkValid host = .ok checked ↔ Passed host s checked := by
  constructor
  · intro valid
    obtain ⟨_, webListen, valid⟩ := bind_eq_ok valid
    obtain ⟨_, subListen, valid⟩ := bind_eq_ok valid
    obtain ⟨_, webPort, valid⟩ := bind_eq_ok valid
    obtain ⟨_, subPort, valid⟩ := bind_eq_ok valid
    obtain ⟨_, apart, valid⟩ := bind_eq_ok valid
    obtain ⟨_, webKeyPair, valid⟩ := bind_eq_ok valid
    obtain ⟨_, subKeyPair, valid⟩ := bind_eq_ok valid
    obtain ⟨_, location, valid⟩ := bind_eq_ok valid
    have completed := Except.ok.inj valid
    rw [completed] at location
    exact ⟨webListen, subListen, webPort, subPort, apart, webKeyPair,
      subKeyPair, location, completed⟩
  · intro passed
    unfold AllSetting.checkValid
    rw [passed.webListen, passed.subListen, passed.webPort, passed.subPort,
      passed.apart, passed.webKeyPair, passed.subKeyPair, passed.completed]
    change (checkLocation host checked.timeLocation).bind _ = _
    rw [passed.location]
    rfl

theorem slashed_of_checkValid (valid : s.checkValid host = .ok checked)
    (place : PathField) : Slashed (checked.path place) := by
  rw [← (checkValid_eq_ok.mp valid).completed, path_completed]
  exact slashed_withSlashes _

/-- What has passed is accepted again, as it is. -/
theorem checkValid_checked (valid : s.checkValid host = .ok checked) :
    checked.checkValid host = .ok checked := by
  have slashed := slashed_of_checkValid valid
  have passed := checkValid_eq_ok.mp valid
  have same : ∀ field, (∀ place : PathField, field ≠ place.field) →
      checked field = s field := by
    intro field apart
    rw [← passed.completed]
    exact completed_of_ne apart
  have webListen : checked.webListen = s.webListen :=
    same .webListen fun place => by cases place <;> decide
  have subListen : checked.subListen = s.subListen :=
    same .subListen fun place => by cases place <;> decide
  have webPort : checked.webPort = s.webPort :=
    same .webPort fun place => by cases place <;> decide
  have subPort : checked.subPort = s.subPort :=
    same .subPort fun place => by cases place <;> decide
  have webCertFile : checked.webCertFile = s.webCertFile :=
    same .webCertFile fun place => by cases place <;> decide
  have webKeyFile : checked.webKeyFile = s.webKeyFile :=
    same .webKeyFile fun place => by cases place <;> decide
  have subCertFile : checked.subCertFile = s.subCertFile :=
    same .subCertFile fun place => by cases place <;> decide
  have subKeyFile : checked.subKeyFile = s.subKeyFile :=
    same .subKeyFile fun place => by cases place <;> decide
  have again : PathField.all.foldl AllSetting.completePath checked =
      checked := by
    apply AllSetting.ext_of_paths
    · intro place
      rw [path_completed, withSlashes_of_slashed (slashed place)]
    · intro field apart
      exact completed_of_ne apart
  apply checkValid_eq_ok.mpr
  refine ⟨webListen ▸ passed.webListen, subListen ▸ passed.subListen,
    webPort ▸ passed.webPort, subPort ▸ passed.subPort, ?_, ?_, ?_,
    passed.location, again⟩
  · rw [AllSetting.checkApart, webPort, subPort, webListen, subListen]
    exact passed.apart
  · rw [webCertFile, webKeyFile]
    exact passed.webKeyPair
  · rw [subCertFile, subKeyFile]
    exact passed.subKeyPair

end Check

section Machine

/-- The rows, the secret that the running process drew, and the forms that it
is saving: each with the fields still to come. -/
structure Install where
  rows : Rows
  secret : String
  forms : List (AllSetting × List Field)

/-- The keys that are saved and are no fields of the form. -/
def otherKeys : List String :=
  ["xrayTemplateConfig", "xrayOutboundTestUrl", "systemdServiceName", "warp",
    "nord", "vpnProvisioned", "provisionedProtocols", "radiusSecret"]

inductive Event
  | updateAllSetting (host : Host) (sent : AllSetting)
  | saveNext (form : Nat) (err : Option String)
  | setField (field : Field) (value : field.kind.Value)
  | setBasePath (basePath : String)
  | setOther (key value : String)
  | getSecret (saveFails : Bool)
  | resetSettings
  | restart (secret : String)

/-- The next save of a form. -/
def Install.nextSave (install : Install) (form : Nat) :
    Option (AllSetting × Field × List Field) :=
  match install.forms[form]? with
  | some (checked, field :: later) => some (checked, field, later)
  | _ => none

variable (template : String)

def step (install : Install) : Event → Option Install
  | .updateAllSetting host sent =>
      match sent.checkValid host with
      | .error _ => some install
      | .ok checked =>
          some { install with
            forms := install.forms ++ [(checked, Field.all)] }
  | .saveNext form err =>
      (install.nextSave form).map fun (checked, field, later) =>
        { install with
          rows := install.rows.saveFieldOf checked field err
          forms := install.forms.set form (checked, later) }
  | .setField field value =>
      -- the paths have no other setter than that of the base path
      if (PathField.all.map PathField.field).contains field then none
      else some { install with rows := install.rows.setField field value }
  | .setBasePath basePath =>
      some { install with rows := install.rows.setBasePath basePath }
  | .setOther key value =>
      if otherKeys.contains key then
        some { install with rows := install.rows.saveSetting key value }
      else none
  | .getSecret saveFails =>
      some { install with
        rows := (install.rows.getSecret
          (defaultValueMap install.secret template) saveFails).2 }
  | .resetSettings => some { install with rows := Rows.resetSettings }
  | .restart secret => some { install with secret := secret, forms := [] }

/-- What every field is when nothing is saved. -/
def AllSetting.initial : AllSetting := fun field =>
  match Rows.getField ∅ fixedDefaults field with
  | .ok value => value
  | .error _ => AllSetting.zero field

/-- The same requests on typed values. -/
def AllSetting.apply (install : Install) (record : AllSetting) :
    Event → AllSetting
  | .saveNext form none =>
      match install.nextSave form with
      | some (checked, field, _) =>
          Function.update record field (checked field)
      | none => record
  | .setField field value => Function.update record field value
  | .setBasePath basePath => record.setPath .webBasePath (withSlashes basePath)
  | .resetSettings => AllSetting.initial
  | _ => record

/-- The installation, and the record beside it. -/
def machine : Machine (Install × AllSetting) Event where
  step state event :=
    (step template state.1 event).map fun next =>
      (next, state.2.apply state.1 event)

def fresh (secret : String) : Install × AllSetting :=
  (⟨∅, secret, []⟩, AllSetting.initial)

end Machine

section Runs

variable {template secret : String} {install next : Install}
  {record : AllSetting} {rows : Rows} {field : Field} {event : Event}

theorem getString_field :
    rows.getString (defaultValueMap secret template) field.key =
      rows.getString fixedDefaults field.key := by
  obtain ⟨notSecret, notTemplate⟩ := field.key_ne_secret
  unfold Rows.getString defaultValueMap
  rw [List.find?_cons_of_neg, List.find?_cons_of_neg]
  · exact fun same => notTemplate (of_decide_eq_true same).symm
  · exact fun same => notSecret (of_decide_eq_true same).symm

theorem Holds.withDefaults (holds : Holds rows fixedDefaults record) :
    Holds rows (defaultValueMap secret template) record := by
  intro field
  rw [getString_field]
  exact holds field

theorem holds_initial : Holds ∅ fixedDefaults AllSetting.initial := by
  intro field
  obtain ⟨value, found⟩ := exists_default field
  have read : Rows.getString ∅ fixedDefaults field.key =
      .ok (field.kind.print value) := by
    rw [Rows.getString, AList.lookup_empty, found]
  have initial : AllSetting.initial field = value := by
    rw [AllSetting.initial, Rows.getField, read]
    change (match field.kind.convert (field.kind.print value) with
      | .ok value => value
      | .error _ => AllSetting.zero field) = value
    rw [Kind.convert_print]
  rw [read, initial]

theorem foreign_of_otherKeys {key : String}
    (other : otherKeys.contains key = true) (field : Field) :
    field.key ≠ key := by
  have all : ∀ field ∈ Field.all, ∀ key ∈ otherKeys, field.key ≠ key := by
    decide +kernel
  exact all field field.mem_all key (List.contains_iff_mem.mp other)

structure Coherent (state : Install × AllSetting) : Prop where
  holds : Holds state.1.rows fixedDefaults state.2
  slashed : ∀ place, Slashed (state.2.path place)
  forms : ∀ form ∈ state.1.forms, ∀ place, Slashed (form.1.path place)

theorem slashed_initial (place : PathField) :
    Slashed (AllSetting.initial.path place) := by
  constructor <;> cases place <;> decide +kernel

theorem coherent_fresh : Coherent (fresh secret) where
  holds := holds_initial
  slashed := slashed_initial
  forms := fun _ member => by cases member

theorem rows_getSecret {defaults : List (String × String)} {saveFails : Bool} :
    (rows.getSecret defaults saveFails).2 = rows ∨
      ∃ secret, (rows.getSecret defaults saveFails).2 =
        rows.saveSetting "secret" secret := by
  unfold Rows.getSecret
  cases rows.getString defaults "secret" with
  | error err => exact Or.inl rfl
  | ok secret =>
      dsimp only
      split
      next => exact Or.inr ⟨secret, rfl⟩
      next => exact Or.inl rfl

theorem path_update_of_ne {value : field.kind.Value} {place : PathField}
    (apart : field ≠ place.field) :
    AllSetting.path (Function.update record field value) place =
      record.path place := by
  cases place <;> exact Function.update_of_ne (Ne.symm apart) value record

theorem path_update_self {checked : AllSetting} {place : PathField} :
    AllSetting.path
        (Function.update record place.field (checked place.field)) place =
      checked.path place := by
  cases place <;> exact Function.update_self _ _ record

theorem Coherent.step {state after : Install × AllSetting}
    (coherent : Coherent state)
    (stepped : (machine template).step state event = some after) :
    Coherent after := by
  obtain ⟨install, record⟩ := state
  obtain ⟨next, taken, rfl⟩ := Option.map_eq_some_iff.mp stepped
  obtain ⟨holds, slashed, forms⟩ := coherent
  cases event with
  | updateAllSetting host sent =>
      rw [Settings.step] at taken
      cases valid : sent.checkValid host with
      | error err =>
          rw [valid] at taken
          obtain rfl := Option.some.inj taken
          exact ⟨holds, slashed, forms⟩
      | ok checked =>
          rw [valid] at taken
          obtain rfl := Option.some.inj taken
          refine ⟨holds, slashed, ?_⟩
          intro form member
          rcases List.mem_append.mp member with old | new
          · exact forms form old
          · obtain rfl := List.mem_singleton.mp new
            exact slashed_of_checkValid valid
  | saveNext form err =>
      obtain ⟨⟨checked, field, later⟩, found, rfl⟩ :=
        Option.map_eq_some_iff.mp taken
      have listed : (checked, field :: later) ∈ install.forms := by
        unfold Install.nextSave at found
        split at found
        next at_ =>
          obtain ⟨rfl, rfl, rfl⟩ := by simpa using found
          exact List.mem_of_getElem? at_
        next => cases found
      have kept : ∀ entry ∈ install.forms.set form (checked, later),
          ∀ place, Slashed (entry.1.path place) := by
        intro entry member
        rcases List.mem_or_eq_of_mem_set member with old | rfl
        · exact forms entry old
        · exact forms (checked, field :: later) listed
      cases err with
      | some err => exact ⟨holds, slashed, kept⟩
      | none =>
          have after : AllSetting.apply install record
              (.saveNext form none) =
                Function.update record field (checked field) := by
            rw [AllSetting.apply, found]
          refine ⟨?_, ?_, kept⟩
          · dsimp only
            rw [after]
            exact holds.setField field (checked field)
          · intro place
            dsimp only
            rw [after]
            by_cases same : field = place.field
            · subst same
              rw [path_update_self]
              exact forms _ listed place
            · rw [path_update_of_ne same]
              exact slashed place
  | setField field value =>
      rw [Settings.step] at taken
      split at taken
      next => cases taken
      next noPath =>
        obtain rfl := Option.some.inj taken
        refine ⟨holds.setField field value, ?_, forms⟩
        intro place
        have apart : field ≠ place.field := by
          intro same
          apply noPath
          rw [List.contains_iff_mem, same]
          exact List.mem_map_of_mem place.mem_all
        have kept := @path_update_of_ne record field value place apart
        exact kept ▸ slashed place
  | setBasePath basePath =>
      obtain rfl := Option.some.inj taken
      refine ⟨holds.setField .webBasePath (withSlashes basePath), ?_, forms⟩
      intro place
      change Slashed ((record.setPath .webBasePath
        (withSlashes basePath)).path place)
      by_cases same : place = .webBasePath
      · rw [same, path_setPath_self]
        exact slashed_withSlashes basePath
      · rw [path_setPath_of_ne same]
        exact slashed place
  | setOther key value =>
      rw [Settings.step] at taken
      split at taken
      next other =>
        obtain rfl := Option.some.inj taken
        exact ⟨holds.saveSetting (foreign_of_otherKeys other), slashed, forms⟩
      next => cases taken
  | getSecret saveFails =>
      obtain rfl := Option.some.inj taken
      refine ⟨?_, slashed, forms⟩
      dsimp only
      rcases @rows_getSecret install.rows
        (defaultValueMap install.secret template) saveFails
        with kept | ⟨secret, saved⟩
      · rw [kept]
        exact holds
      · rw [saved]
        exact holds.saveSetting fun field => field.key_ne_secret.1
  | resetSettings =>
      obtain rfl := Option.some.inj taken
      exact ⟨holds_initial, slashed_initial, forms⟩
  | restart secret =>
      obtain rfl := Option.some.inj taken
      exact ⟨holds, slashed, fun _ member => by cases member⟩

theorem coherent_of_run {state : Install × AllSetting} {events : List Event}
    (reached : (machine template).run (fresh secret) events = some state) :
    Coherent state :=
  (machine template).run_invariant
    (fun _ _ _ coherent stepped => Coherent.step coherent stepped)
    coherent_fresh reached

theorem Holds.foldl_setField {checked : AllSetting} (fields : List Field) :
    ∀ {rows : Rows} {record : AllSetting}, Holds rows fixedDefaults record →
      ∃ after, Holds (fields.foldl (fun rows field =>
          rows.saveFieldOf checked field none) rows) fixedDefaults after ∧
        Filled (· ∈ fields) checked record after := by
  induction fields with
  | nil =>
      intro rows record holds
      refine ⟨record, holds, ?_, fun _ _ => rfl⟩
      intro field member
      cases member
  | cons field fields induction =>
      intro rows record holds
      obtain ⟨after, saved, filled⟩ :=
        induction (holds.setField field (checked field))
      refine ⟨after, saved, ?_, ?_⟩
      · intro other member
        by_cases later : other ∈ fields
        · exact filled.named other later
        · obtain rfl := (List.mem_cons.mp member).resolve_right later
          rw [filled.kept other later, Function.update_self]
      · intro other absent
        rw [List.mem_cons, not_or] at absent
        rw [filled.kept other absent.2, Function.update_of_ne absent.1]

/-- A form whose saves all succeed leaves what it held, whatever was there. -/
theorem Holds.updateAllSetting {host : Host} {sent checked : AllSetting}
    (holds : Holds rows fixedDefaults record)
    (valid : sent.checkValid host = .ok checked) :
    Holds (rows.updateAllSetting host sent fun _ => none).1 fixedDefaults
      checked := by
  obtain ⟨after, saved, filled⟩ :=
    @Holds.foldl_setField checked Field.all rows record holds
  have whole : after = checked :=
    funext fun field => filled.named field field.mem_all
  rw [whole] at saved
  rw [Rows.updateAllSetting, valid]
  exact saved

/-- What the panel reads from the rows, in any order of rows and defaults. -/
structure ReadsAs (template secret : String) (rows : Rows)
    (record : AllSetting) : Prop where
  getAllSetting : ∀ settings walk, settings.Perm rows.entryList →
    walk.Perm (defaultValueMap secret template) →
      Rows.getAllSetting settings walk = .ok record
  getField : ∀ field,
    rows.getField (defaultValueMap secret template) field = .ok (record field)
  getBasePath : rows.getBasePath (defaultValueMap secret template) =
    .ok (record.path .webBasePath)
  slashed : ∀ place, Slashed (record.path place)

theorem Holds.readsAs (holds : Holds rows fixedDefaults record)
    (slashed : ∀ place, Slashed (record.path place)) :
    ReadsAs template secret rows record := by
  have whole := @Holds.withDefaults template secret record rows holds
  refine ⟨?_, whole.getField, ?_, slashed⟩
  · intro settings walk listed walked
    exact whole.getAllSetting (nodup_defaults secret template) listed walked
  · have text := whole .webBasePath
    refine (congrArg (Except.map withSlashes) text).trans ?_
    exact congrArg Except.ok (withSlashes_of_slashed (slashed .webBasePath))

/-- Whatever requests, failures, resets and restarts there were, the rows read
as the record of typed values that the requests made, and a form that passes
reads afterwards as it was checked, and is accepted again. -/
theorem settings_read_back (template secret : String) (events : List Event)
    (install : Install) (record : AllSetting)
    (reached : (machine template).run (fresh secret) events =
      some (install, record)) :
    ReadsAs template install.secret install.rows record ∧
      ∀ host sent checked, AllSetting.checkValid host sent = .ok checked →
        ReadsAs template install.secret
            (install.rows.updateAllSetting host sent fun _ => none).1 checked ∧
          checked.checkValid host = .ok checked := by
  have coherent := coherent_of_run reached
  refine ⟨coherent.holds.readsAs coherent.slashed, ?_⟩
  intro host sent checked valid
  refine ⟨?_, checkValid_checked valid⟩
  exact (coherent.holds.updateAllSetting valid).readsAs
    (slashed_of_checkValid valid)

theorem checkKeyPair_empty {host : Host} :
    checkKeyPair host "" "" = .ok () := by
  simp [checkKeyPair]

/-- The defaults pass their own check. -/
theorem checkValid_initial {host : Host}
    (located : host.loadLocation "Local" = true) :
    AllSetting.initial.checkValid host = .ok AllSetting.initial := by
  have webCertFile : AllSetting.initial.webCertFile = "" := by decide +kernel
  have webKeyFile : AllSetting.initial.webKeyFile = "" := by decide +kernel
  have subCertFile : AllSetting.initial.subCertFile = "" := by decide +kernel
  have subKeyFile : AllSetting.initial.subKeyFile = "" := by decide +kernel
  have timeLocation : AllSetting.initial.timeLocation = "Local" := by
    decide +kernel
  apply checkValid_eq_ok.mpr
  refine ⟨by decide +kernel, by decide +kernel, by decide +kernel,
    by decide +kernel, by decide +kernel, ?_, ?_, ?_, ?_⟩
  · rw [webCertFile, webKeyFile]
    exact checkKeyPair_empty
  · rw [subCertFile, subKeyFile]
    exact checkKeyPair_empty
  · rw [checkLocation, timeLocation, located]
    rfl
  · apply AllSetting.ext_of_paths
    · intro place
      rw [path_completed, withSlashes_of_slashed (slashed_initial place)]
    · intro field apart
      exact completed_of_ne apart

/-- A run with two setters, a secret and a restart, then a form. -/
theorem settings_read_back_after_restart :
    ∃ install record host,
      (machine "{}").run (fresh "first")
          [.setBasePath "panel", .setOther "warp" "data", .getSecret false,
            .restart "second"] = some (install, record) ∧
        record.path .webBasePath = "/panel/" ∧
        ReadsAs "{}" install.secret install.rows record ∧
        ReadsAs "{}" install.secret
          (install.rows.updateAllSetting host AllSetting.initial
            fun _ => none).1 AllSetting.initial := by
  refine ⟨_, _, ⟨fun _ _ => none, fun _ => true⟩, rfl, by decide +kernel, ?_⟩
  obtain ⟨reads, forms⟩ := settings_read_back "{}" "first"
    [.setBasePath "panel", .setOther "warp" "data", .getSecret false,
      .restart "second"] _ _ rfl
  exact ⟨reads, (forms _ _ _ (checkValid_initial rfl)).1⟩

theorem lookup_secret_setField {value : field.kind.Value} :
    (rows.setField field value).lookup "secret" = rows.lookup "secret" :=
  AList.lookup_insert_ne (Ne.symm field.key_ne_secret.1)

/-- Only a reset takes the secret away, or replaces it. -/
theorem secret_step {state after : Install × AllSetting} {handed : String}
    (kept : event ≠ .resetSettings)
    (saved : state.1.rows.lookup "secret" = some handed)
    (stepped : (machine template).step state event = some after) :
    after.1.rows.lookup "secret" = some handed := by
  obtain ⟨install, record⟩ := state
  obtain ⟨next, taken, rfl⟩ := Option.map_eq_some_iff.mp stepped
  cases event with
  | updateAllSetting host sent =>
      rw [Settings.step] at taken
      cases valid : sent.checkValid host with
      | error err =>
          rw [valid] at taken
          obtain rfl := Option.some.inj taken
          exact saved
      | ok checked =>
          rw [valid] at taken
          obtain rfl := Option.some.inj taken
          exact saved
  | saveNext form err =>
      obtain ⟨⟨checked, field, later⟩, -, rfl⟩ :=
        Option.map_eq_some_iff.mp taken
      cases err with
      | some err => exact saved
      | none => exact lookup_secret_setField.trans saved
  | setField field value =>
      rw [Settings.step] at taken
      split at taken
      next => cases taken
      next =>
        obtain rfl := Option.some.inj taken
        exact lookup_secret_setField.trans saved
  | setBasePath basePath =>
      obtain rfl := Option.some.inj taken
      have apart : "secret" ≠ "webBasePath" := by decide
      exact (AList.lookup_insert_ne apart).trans saved
  | setOther key value =>
      rw [Settings.step] at taken
      split at taken
      next other =>
        obtain rfl := Option.some.inj taken
        have apart : "secret" ≠ key := by
          intro same
          rw [← same] at other
          exact absurd other (by decide)
        exact (AList.lookup_insert_ne apart).trans saved
      next => cases taken
  | getSecret saveFails =>
      obtain rfl := Option.some.inj taken
      change ((install.rows.getSecret
        (defaultValueMap install.secret template) saveFails).2).lookup
          "secret" = some handed
      unfold Rows.getSecret
      rw [getString_of_row saved]
      dsimp only
      split
      next => exact AList.lookup_insert _
      next => exact saved
  | resetSettings => exact absurd rfl kept
  | restart secret =>
      obtain rfl := Option.some.inj taken
      exact saved

theorem getSecret_of_row {defaults : List (String × String)} {handed : String}
    {saveFails : Bool} (saved : rows.lookup "secret" = some handed) :
    (rows.getSecret defaults saveFails).1 = .ok handed := by
  unfold Rows.getSecret
  rw [getString_of_row saved]
  dsimp only
  split <;> rfl

theorem lookup_getSecret {defaults : List (String × String)} {handed : String}
    (given : (rows.getSecret defaults false).1 = .ok handed) :
    (rows.getSecret defaults false).2.lookup "secret" = some handed := by
  cases found : rows.lookup "secret" with
  | some secret =>
      rw [getSecret_of_row found] at given
      obtain rfl := Except.ok.inj given
      unfold Rows.getSecret
      rw [getString_of_row found]
      dsimp only
      split
      next => exact AList.lookup_insert _
      next => exact found
  | none =>
      unfold Rows.getSecret at given ⊢
      unfold Rows.getString at given ⊢
      rw [found] at given ⊢
      cases fallback : defaults.find? fun entry => entry.1 = "secret" with
      | none =>
          rw [fallback] at given
          cases given
      | some entry =>
          rw [fallback] at given
          dsimp only [Option.map_some] at given ⊢
          rw [if_pos ⟨rfl, rfl⟩] at given ⊢
          obtain rfl := Except.ok.inj given
          exact AList.lookup_insert _

theorem secret_run {state later : Install × AllSetting} {handed : String}
    {events : List Event} (unreset : Event.resetSettings ∉ events)
    (saved : state.1.rows.lookup "secret" = some handed)
    (reached : (machine template).run state events = some later) :
    later.1.rows.lookup "secret" = some handed := by
  induction events generalizing state with
  | nil =>
      obtain rfl := Option.some.inj reached
      exact saved
  | cons event events induction =>
      rw [List.mem_cons, not_or] at unreset
      obtain ⟨next, stepped, rest⟩ := (Machine.run_cons_eq_some _).mp reached
      exact induction unreset.2
        (secret_step (Ne.symm unreset.1) saved stepped) rest

/-- The secret that was handed out and saved is handed out by every later
process, until the settings are reset. -/
theorem secret_survives (template : String) (state later : Install × AllSetting)
    (handed : String) (events : List Event)
    (given : (state.1.rows.getSecret
      (defaultValueMap state.1.secret template) false).1 = .ok handed)
    (unreset : Event.resetSettings ∉ events)
    (reached : (machine template).run state (.getSecret false :: events) =
      some later) (saveFails : Bool) :
    (later.1.rows.getSecret
      (defaultValueMap later.1.secret template) saveFails).1 = .ok handed := by
  obtain ⟨next, stepped, rest⟩ := (Machine.run_cons_eq_some _).mp reached
  obtain rfl := Option.some.inj stepped
  exact getSecret_of_row (secret_run unreset (lookup_getSecret given) rest)

theorem secret_survives_restart :
    ∃ later, (machine "{}").run (fresh "first")
        (.getSecret false :: [.restart "second", .setBasePath "panel"]) =
          some later ∧
      (later.1.rows.getSecret
        (defaultValueMap later.1.secret "{}") false).1 = .ok "first" := by
  refine ⟨_, rfl, ?_⟩
  exact secret_survives "{}" (fresh "first") _ "first"
    [.restart "second", .setBasePath "panel"] rfl (by simp) rfl false

end Runs

end VpnUi.Settings
