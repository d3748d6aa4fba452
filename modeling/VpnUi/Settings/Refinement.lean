import VpnUi.Foundation.Transition
import VpnUi.Settings.Service
import VpnUi.Update.Version

namespace VpnUi.Settings

open Address
open Foundation
open Update (atoi?_of_decimal decimal? digits?_of_digits)

/-! The rows of text against a record of typed values. -/

section Fields

theorem Field.mem_all (field : Field) : field ∈ Field.all := by
  cases field <;> decide

theorem nodup_allKeys :
    ("secret" :: "xrayTemplateConfig" :: Field.all.map Field.key).Nodup := by
  decide +kernel

theorem Field.nodup_keys : (Field.all.map Field.key).Nodup :=
  nodup_allKeys.of_cons.of_cons

theorem Field.key_injective : Function.Injective Field.key := by
  intro field other same
  exact List.inj_on_of_nodup_map Field.nodup_keys field.mem_all other.mem_all
    same

end Fields

section Texts

theorem decimal?_toDigits (number : Nat) :
    decimal? (Nat.toDigits 10 number) = some number := by
  have digits : (Nat.toDigits 10 number).all Char.isDigit = true := by
    rw [List.all_eq_true]
    intro letter member
    exact Nat.isDigit_of_mem_toDigits (by decide) (by decide) member
  rw [decimal?, if_pos ⟨Nat.toDigits_ne_nil, digits⟩,
    Nat.ofDigitChars_ten_toDigits]

theorem atoi?_minus {letter : Char} {rest : List Char} {number : Nat}
    (value : digits? 0 (letter :: rest) = some number) :
    atoi? ('-' :: letter :: rest) = some (-(number : Int)) := by
  simp [atoi?, value]

/-- What is written with `strconv.Itoa` is read as it was. -/
theorem atoi?_toString (number : Int) :
    atoi? (toString number).toList = some number := by
  cases number with
  | ofNat number =>
      have written : (toString (Int.ofNat number)).toList =
          Nat.toDigits 10 number := Nat.toList_repr
      rw [written, atoi?_of_decimal (decimal?_toDigits number)]
      rfl
  | negSucc number =>
      have written : (toString (Int.negSucc number)).toList =
          '-' :: Nat.toDigits 10 (number + 1) := by
        rw [← Nat.toList_repr]
        exact String.toList_append
      have value : digits? 0 (Nat.toDigits 10 (number + 1)) =
          some (number + 1) := by
        rw [digits?_of_digits fun letter member =>
          Nat.isDigit_of_mem_toDigits (by decide) (by decide) member,
          Nat.ofDigitChars_ten_toDigits]
      rw [written]
      cases digits : Nat.toDigits 10 (number + 1) with
      | nil => exact absurd digits Nat.toDigits_ne_nil
      | cons letter rest =>
          rw [digits] at value
          rw [atoi?_minus value, Int.negSucc_eq]
          rfl

theorem parseInt_print (number : GoInt) :
    parseInt (toString number.val) = .ok number := by
  rw [parseInt, atoi?_toString]
  dsimp only
  rw [dif_pos number.property]

theorem Kind.parse_print : (kind : Kind) → (value : kind.Value) →
    kind.parse (kind.print value) = .ok value
  | .text, _ => rfl
  | .number, value => parseInt_print value
  | .flag, false => rfl
  | .flag, true => rfl

theorem Kind.convert_print : (kind : Kind) → (value : kind.Value) →
    kind.convert (kind.print value) = .ok value
  | .text, _ => rfl
  | .number, value => parseInt_print value
  | .flag, false => rfl
  | .flag, true => rfl

/-- Every default is the text of a value of its field. -/
theorem defaults_fit :
    Field.all.all (fun field =>
      match fixedDefaults.find? fun entry => entry.1 = field.key with
      | none => false
      | some entry =>
          match field.kind.convert entry.2 with
          | .error _ => false
          | .ok value => field.kind.print value == entry.2) = true := by
  decide +kernel

/-- Each field has one default, the text of a value of the field. -/
theorem exists_default (field : Field) :
    ∃ value : field.kind.Value,
      (fixedDefaults.find? fun entry => entry.1 = field.key) =
        some (field.key, field.kind.print value) := by
  have fit := List.all_eq_true.mp defaults_fit field field.mem_all
  cases found : fixedDefaults.find? fun entry => entry.1 = field.key with
  | none =>
      rw [found] at fit
      cases fit
  | some entry =>
      rw [found] at fit
      dsimp only at fit
      have named : entry.1 = field.key := by
        simpa using List.find?_some found
      cases read : field.kind.convert entry.2 with
      | error err =>
          rw [read] at fit
          cases fit
      | ok value =>
          rw [read] at fit
          have text : field.kind.print value = entry.2 := eq_of_beq fit
          refine ⟨value, congrArg some ?_⟩
          rw [text, ← named]

theorem nodup_defaults (secret template : String) :
    ((defaultValueMap secret template).map Prod.fst).Nodup := by
  have fixed : ("secret" :: "xrayTemplateConfig" ::
      fixedDefaults.map Prod.fst).Nodup := by
    decide +kernel
  exact fixed

theorem Field.key_ne_secret (field : Field) :
    field.key ≠ "secret" ∧ field.key ≠ "xrayTemplateConfig" := by
  have listed := List.mem_map_of_mem (f := Field.key) field.mem_all
  obtain ⟨secret, keys⟩ := List.nodup_cons.mp nodup_allKeys
  obtain ⟨template, -⟩ := List.nodup_cons.mp keys
  constructor
  · intro same
    exact secret (same ▸ List.mem_cons_of_mem _ listed)
  · intro same
    exact template (same ▸ listed)

end Texts

section Slashes

/-- The path begins and ends with a "/". -/
def Slashed (path : String) : Prop :=
  path.toList.head? = some '/' ∧ path.toList.getLast? = some '/'

theorem slashed_withSlashes (path : String) : Slashed (withSlashes path) := by
  unfold withSlashes
  extract_lets begun
  have begins : begun.toList.head? = some '/' := by
    change (if _ then _ else _ : String).toList.head? = _
    split
    next begins => exact begins
    next => rw [String.toList_append]; rfl
  split
  next ends => exact ⟨begins, ends⟩
  next =>
    constructor
    · rw [String.toList_append, List.head?_append, begins]
      rfl
    · rw [String.toList_append]
      exact List.getLast?_concat

theorem withSlashes_of_slashed {path : String} (slashed : Slashed path) :
    withSlashes path = path := by
  unfold withSlashes
  rw [if_pos slashed.1]
  exact if_pos slashed.2

end Slashes

section Reading

variable {rows : Rows} {defaults settings walk : List (String × String)}
  {record : AllSetting} {field : Field} {key text : String}

/-- The rows, with the defaults, hold the texts of a record. -/
def Holds (rows : Rows) (defaults : List (String × String))
    (record : AllSetting) : Prop :=
  ∀ field : Field, rows.getString defaults field.key =
    .ok (field.kind.print (record field))

theorem Holds.getField (holds : Holds rows defaults record) (field : Field) :
    rows.getField defaults field = .ok (record field) := by
  rw [Rows.getField, holds field]
  exact field.kind.convert_print (record field)

theorem Holds.setField (holds : Holds rows defaults record) (field : Field)
    (value : field.kind.Value) :
    Holds (rows.setField field value) defaults
      (Function.update record field value) := by
  intro other
  by_cases same : other = field
  · subst same
    rw [Function.update_self, Rows.getString, Rows.setField,
      Rows.saveSetting, AList.lookup_insert]
  · have apart : other.key ≠ field.key := fun keys =>
      same (Field.key_injective keys)
    have held := holds other
    rw [Function.update_of_ne same]
    rwa [Rows.getString, Rows.setField, Rows.saveSetting,
      AList.lookup_insert_ne apart]

theorem Holds.saveSetting (holds : Holds rows defaults record)
    (foreign : ∀ field : Field, field.key ≠ key) :
    Holds (rows.saveSetting key text) defaults record := by
  intro field
  have held := holds field
  rwa [Rows.getString, Rows.saveSetting,
    AList.lookup_insert_ne (foreign field)]

/-- Every field is either as the record has it or as it was. -/
structure Filled (Named : Field → Prop) (record before after : AllSetting) :
    Prop where
  named : ∀ field, Named field → after field = record field
  kept : ∀ field, ¬ Named field → after field = before field

/-- One entry, whether or not it is a field's. -/
theorem exists_setSetting {before : AllSetting} {setting : String × String}
    (printed : ∀ field : Field, field.key = setting.1 →
      setting.2 = field.kind.print (record field)) :
    ∃ after, before.setSetting setting = .ok after ∧
      Filled (fun field => field.key = setting.1) record before after := by
  unfold AllSetting.setSetting
  cases found : Field.all.find? fun field => field.key = setting.1 with
  | none =>
      have absent := List.find?_eq_none.mp found
      refine ⟨before, rfl, ?_, fun _ _ => rfl⟩
      intro field same
      exact absurd (decide_eq_true same) (absent field field.mem_all)
  | some place =>
      have same : place.key = setting.1 := by
        simpa using List.find?_some found
      refine ⟨Function.update before place (record place), ?_, ?_, ?_⟩
      · dsimp only
        rw [printed place same, Kind.parse_print]
        rfl
      · intro field keys
        obtain rfl := Field.key_injective (keys.trans same.symm)
        exact Function.update_self ..
      · intro field apart
        refine Function.update_of_ne ?_ ..
        intro here
        exact apart (here ▸ same)

theorem exists_foldlM {entries : List (String × String)}
    (printed : ∀ entry ∈ entries, ∀ field : Field, field.key = entry.1 →
      entry.2 = field.kind.print (record field)) (before : AllSetting) :
    ∃ after, entries.foldlM AllSetting.setSetting before = .ok after ∧
      Filled (fun field => field.key ∈ entries.map Prod.fst) record before
        after := by
  induction entries generalizing before with
  | nil =>
      refine ⟨before, rfl, ?_, fun _ _ => rfl⟩
      intro field named
      exact absurd named List.not_mem_nil
  | cons entry entries induction =>
      rw [List.forall_mem_cons] at printed
      obtain ⟨middle, first, set⟩ := exists_setSetting printed.1
      obtain ⟨after, rest, filled⟩ := induction printed.2 middle
      refine ⟨after, ?_, ?_, ?_⟩
      · rw [List.foldlM_cons, first]
        exact rest
      · intro field member
        by_cases later : field.key ∈ entries.map Prod.fst
        · exact filled.named field later
        · rw [filled.kept field later]
          rcases List.mem_cons.mp member with here | there
          · exact set.named field here
          · exact absurd there later
      · intro field absent
        rw [List.map_cons, List.mem_cons, not_or] at absent
        rw [filled.kept field absent.2, set.kept field absent.1]

theorem lookup_of_mem_entryList (member : (key, text) ∈ rows.entryList) :
    rows.lookup key = some text := by
  obtain ⟨entry, stored, same⟩ := List.mem_map.mp member
  obtain ⟨rfl, rfl⟩ := Prod.mk.inj same
  exact KeyMap.mem_entries_iff.mp stored

theorem mem_keys_entryList (found : rows.lookup key = some text) :
    key ∈ rows.entryList.map Prod.fst := by
  rw [Rows.entryList, List.map_map]
  exact List.mem_map.mpr ⟨⟨key, text⟩, KeyMap.mem_entries_iff.mpr found, rfl⟩

theorem getString_of_row (found : rows.lookup key = some text) :
    rows.getString defaults key = .ok text := by
  rw [Rows.getString, found]

theorem getString_of_default (absent : rows.lookup key = none)
    (nodup : (defaults.map Prod.fst).Nodup) (member : (key, text) ∈ defaults) :
    rows.getString defaults key = .ok text := by
  rw [Rows.getString, absent]
  cases found : defaults.find? fun entry => entry.1 = key with
  | none =>
      have none := List.find?_eq_none.mp found _ member
      exact absurd (decide_eq_true rfl) none
  | some entry =>
      have named : entry.1 = key := by simpa using List.find?_some found
      have same : entry = (key, text) :=
        List.inj_on_of_nodup_map nodup (List.mem_of_find?_eq_some found) member
          named
      rw [same]

theorem mem_defaults_of_getString (absent : rows.lookup key = none)
    (read : rows.getString defaults key = .ok text) :
    (key, text) ∈ defaults := by
  rw [Rows.getString, absent] at read
  cases found : defaults.find? fun entry => entry.1 = key with
  | none =>
      rw [found] at read
      cases read
  | some entry =>
      rw [found] at read
      have named : entry.1 = key := by simpa using List.find?_some found
      obtain rfl := Except.ok.inj read
      rw [← named]
      exact List.mem_of_find?_eq_some found

/-- The whole record is read, whatever the order of the rows and of the map. -/
theorem Holds.getAllSetting (holds : Holds rows defaults record)
    (nodup : (defaults.map Prod.fst).Nodup)
    (listed : settings.Perm rows.entryList) (walked : walk.Perm defaults) :
    Rows.getAllSetting settings walk = .ok record := by
  unfold Rows.getAllSetting
  extract_lets shown keyMap
  have stored : ∀ setting ∈ shown, rows.lookup setting.1 = some setting.2 := by
    intro setting member
    exact lookup_of_mem_entryList
      (listed.mem_iff.mp (List.mem_of_mem_filter member))
  have rowsPrinted : ∀ setting ∈ shown, ∀ field : Field,
      field.key = setting.1 →
        setting.2 = field.kind.print (record field) := by
    intro setting member field same
    have read := @getString_of_row rows defaults _ _ (stored setting member)
    rw [← same, holds field] at read
    exact (Except.ok.inj read).symm
  have missing : ∀ field : Field, field.key ∉ keyMap →
      rows.lookup field.key = none := by
    intro field unlisted
    cases found : rows.lookup field.key with
    | none => rfl
    | some text =>
        refine absurd ?_ unlisted
        obtain ⟨entry, member, same⟩ :=
          List.mem_map.mp (mem_keys_entryList found)
        refine List.mem_map.mpr ⟨entry, List.mem_filter.mpr
          ⟨listed.mem_iff.mpr member, decide_eq_true ?_⟩, same⟩
        rw [same]
        exact field.key_ne_secret.2
  have walkPrinted : ∀ entry ∈ walk.filter fun entry =>
      !keyMap.contains entry.1, ∀ field : Field, field.key = entry.1 →
        entry.2 = field.kind.print (record field) := by
    intro entry member field same
    obtain ⟨member, unlisted⟩ := List.mem_filter.mp member
    have absent : field.key ∉ keyMap := by
      simpa [same] using unlisted
    have read := getString_of_default (missing field absent) nodup
      (same ▸ walked.mem_iff.mp member : (field.key, entry.2) ∈ defaults)
    rw [holds field] at read
    exact (Except.ok.inj read).symm
  obtain ⟨middle, first, filled⟩ :=
    exists_foldlM rowsPrinted AllSetting.zero
  obtain ⟨after, second, refilled⟩ := exists_foldlM walkPrinted middle
  rw [first]
  refine second.trans (congrArg Except.ok (funext fun field => ?_))
  by_cases named : field.key ∈ keyMap
  · rw [← filled.named field named]
    apply refilled.kept
    intro walked
    obtain ⟨entry, member, same⟩ := List.mem_map.mp walked
    have unlisted := (List.mem_filter.mp member).2
    rw [same] at unlisted
    simp [named] at unlisted
  · apply refilled.named
    have member := mem_defaults_of_getString (missing field named)
      (holds field)
    refine List.mem_map.mpr ⟨_, List.mem_filter.mpr
      ⟨walked.mem_iff.mpr member, ?_⟩, rfl⟩
    simpa using named

end Reading

end VpnUi.Settings
