import VpnUi.Form.VpnForm

namespace VpnUi.Form

open Foundation Panel Address

/-! The users and the ranges of a VPN inbound as its service reads them, before
and after they went through the form. -/

/-- A fallback that is read as null is makes no difference. -/
theorem read_coalesce {Value : Type*} {read : Json → Value} {fallback : Json}
    (neutral : read fallback = read .null) (value : Json) :
    read (coalesce fallback value) = read value := by
  cases value <;> first | exact neutral | rfl

/-- A fallback that is read otherwise shows where there is no value. -/
theorem read_coalesce_iff {Value : Type*} {read : Json → Value}
    {fallback : Json} (differs : read fallback ≠ read .null) {value : Json} :
    read (coalesce fallback value) = read value ↔ value ≠ .null := by
  cases value with
  | null => exact iff_of_false differs fun given => given rfl
  | _ => exact iff_of_true rfl Json.noConfusion

theorem fits_coalesce {Value : Type*} {decode : Json → Decoded Value}
    {fallback value : Json} (fallbackFits : (decode fallback).fits = true)
    (fits : (decode value).fits = true) :
    (decode (coalesce fallback value)).fits = true := by
  cases value <;> first | exact fallbackFits | exact fits

section Users

theorem randomSeq_ne_empty {count : Nat} (positive : 0 < count)
    (hasUppercase : Bool) (drawn : Nat → Nat) :
    randomSeq count hasUppercase drawn ≠ "" := by
  intro empty
  have letters := congrArg String.toList empty
  rw [randomSeq, String.toList_ofList] at letters
  have none := congrArg List.length letters
  rw [List.length_map, List.length_range] at none
  exact absurd none (Nat.ne_of_gt positive)

/-- A random default is taken for the absent property, and only then. -/
theorem property_kept {fields : JsonObject} {key : String} {count : Nat}
    (positive : 0 < count) {hasUppercase : Bool} {drawn : Nat → Nat} :
    (property fields key (.str (randomSeq count hasUppercase drawn))).text.value
        = (fields.get key).text.value ↔
      (fields.get? key).isSome = true := by
  unfold property JsonObject.get
  cases fields.get? key with
  | none =>
      exact iff_of_false (randomSeq_ne_empty positive hasUppercase drawn)
        Bool.noConfusion
  | some value => exact iff_of_true rfl rfl

/-- A user with an identity of its own, and a word on whether it may log in. -/
structure UserStated (fields : JsonObject) : Prop where
  id : (fields.get? "id").isSome = true
  password : (fields.get? "password").isSome = true
  email : (fields.get? "email").isSome = true
  enable : fields.get "enable" ≠ .null

theorem get?_append_of_absent {object more : JsonObject} {key : String}
    (absent : ∀ pair ∈ more, pair.1 ≠ key) :
    JsonObject.get? (object ++ more) key = object.get? key := by
  unfold JsonObject.get?
  rw [List.reverse_append, List.lookup_append,
    List.lookup_eq_none_iff.mpr fun pair member => ?_, Option.none_or]
  have differs := absent pair (List.mem_reverse.mp member)
  simpa using Ne.symm differs

theorem key_optionalProperty {fields : JsonObject} {key : String} :
    ∀ pair ∈ optionalProperty fields key, pair.1 = key := by
  intro pair member
  unfold optionalProperty at member
  obtain ⟨value, -, rfl⟩ :=
    Option.map_eq_some_iff.mp (Option.mem_toList.mp member)
  rfl

variable {draws : UserDraws} {fields : JsonObject}

/-- The dates of a user hide no other property. -/
theorem get_userJson {key : String} (notCreated : key ≠ "created_at")
    (notUpdated : key ≠ "updated_at") :
    (userJson draws fields).get key =
      JsonObject.get ((userJson draws fields).take 11) key := by
  unfold userJson JsonObject.get
  rw [get?_append_of_absent fun pair member =>
      key_optionalProperty pair member ▸ notUpdated.symm,
    get?_append_of_absent fun pair member =>
      key_optionalProperty pair member ▸ notCreated.symm]
  rfl

theorem decode_userJson :
    VpnClient.decode (userJson draws fields) =
      ((Decoded.record VpnClient.mk).field
          (property fields "id" (.str (randomSeq 8 false draws.id))).text
        |>.field (property fields "password"
          (.str (randomSeq 10 true draws.password))).text
        |>.field (property fields "email"
          (.str (randomSeq 9 false draws.email))).text
        |>.field (coalesce (.bool true) (fields.get "enable")).flag) := by
  unfold VpnClient.decode
  rw [get_userJson (by decide) (by decide), get_userJson (by decide) (by decide),
    get_userJson (by decide) (by decide), get_userJson (by decide) (by decide)]
  rfl

theorem value_userJson :
    (VpnClient.decode (userJson draws fields)).value =
        (VpnClient.decode fields).value ↔ UserStated fields := by
  have enabled : (coalesce (.bool true) (fields.get "enable")).flag.value =
      (fields.get "enable").flag.value ↔ fields.get "enable" ≠ .null :=
    @read_coalesce_iff _ (·.flag.value) _ (by decide) _
  rw [decode_userJson]
  simp only [VpnClient.decode, Decoded.value_field, Decoded.value_record,
    VpnClient.mk.injEq, enabled, property_kept (Nat.zero_lt_succ _)]
  exact ⟨fun ⟨id, password, email, enable⟩ => ⟨id, password, email, enable⟩,
    fun stated => ⟨stated.id, stated.password, stated.email, stated.enable⟩⟩

theorem fits_property {key default : String}
    (fits : (fields.get key).text.fits = true) :
    (property fields key (.str default)).text.fits = true := by
  revert fits
  unfold property JsonObject.get
  cases fields.get? key with
  | none => exact fun _ => rfl
  | some value => exact id

theorem fits_userJson (fits : (VpnClient.decode fields).fits = true) :
    (VpnClient.decode (userJson draws fields)).fits = true := by
  simp only [VpnClient.decode, Decoded.fits_field, Decoded.fits_record,
    Bool.true_and, Bool.and_eq_true] at fits
  obtain ⟨⟨⟨id, password⟩, email⟩, enable⟩ := fits
  have enabled := @fits_coalesce _ Json.flag (.bool true) _ rfl enable
  rw [decode_userJson]
  simp only [Decoded.fits_field, Decoded.fits_record, fits_property id,
    fits_property password, fits_property email, enabled, Bool.and_self]

/-- The item is a user with all that the form would make up. -/
def ItemStated (item : Json) : Prop :=
  ∃ fields, item = .obj fields ∧ UserStated fields

/-- The users as the services read them. -/
def readUsers (items : List Json) : List VpnClient :=
  items.map fun item => (Json.record VpnClient.decode item).value

def UsersFit (items : List Json) : Prop :=
  ∀ item ∈ items, (Json.record VpnClient.decode item).fits = true

/-- The users come through the form as they are read exactly when each of them
is stated in full. -/
theorem userJsons_kept {draws : Nat → UserDraws} {index : Nat}
    {items : List Json} (fit : UsersFit items) :
    (∃ saved, userJsons draws index items = some saved ∧
        readUsers saved = readUsers items) ↔
      ∀ item ∈ items, ItemStated item := by
  induction items generalizing index with
  | nil => exact iff_of_true ⟨[], rfl, rfl⟩ fun _ member => nomatch member
  | cons item rest induction =>
      have restFit : UsersFit rest := fun other member =>
        fit other (List.mem_cons_of_mem _ member)
      have headFits := fit item List.mem_cons_self
      rw [List.forall_mem_cons, ← @induction (index + 1) restFit]
      cases item with
      | obj fields =>
          have stated : ItemStated (.obj fields) ↔ UserStated fields :=
            ⟨fun ⟨_, same, stated⟩ => Json.obj.inj same ▸ stated,
              fun stated => ⟨fields, rfl, stated⟩⟩
          rw [stated, ← @value_userJson (draws index) fields]
          simp only [userJsons, properties, Option.bind_eq_bind,
            Option.bind_some, Option.bind_eq_some_iff, Option.some.injEq]
          constructor
          · rintro ⟨_, ⟨others, ran, rfl⟩, same⟩
            obtain ⟨head, tail⟩ := List.cons.inj same
            exact ⟨head, others, ran, tail⟩
          · rintro ⟨head, others, ran, tail⟩
            refine ⟨_, ⟨others, ran, rfl⟩, ?_⟩
            exact congrArg₂ List.cons head tail
      | null =>
          refine iff_of_false ?_ ?_
          · rintro ⟨_, ran, -⟩
            cases ran
          · rintro ⟨⟨_, same, -⟩, -⟩
            cases same
      | _ => cases headFits

theorem fit_userJsons {draws : Nat → UserDraws} {index : Nat}
    {items saved : List Json} (fit : UsersFit items)
    (ran : userJsons draws index items = some saved) : UsersFit saved := by
  induction items generalizing index saved with
  | nil =>
      obtain rfl := Option.some.inj ran
      exact fun _ member => nomatch member
  | cons item rest induction =>
      obtain ⟨headFits, restFit⟩ := List.forall_mem_cons.mp fit
      obtain ⟨fields, read, ran⟩ := Option.bind_eq_some_iff.mp ran
      obtain ⟨others, tail, ran⟩ := Option.bind_eq_some_iff.mp ran
      obtain rfl := Option.some.inj ran
      refine List.forall_mem_cons.mpr ⟨?_, induction restFit tail⟩
      cases item with
      | obj given =>
          obtain rfl := Option.some.inj read
          exact fits_userJson headFits
      | null => cases read
      | _ => cases headFits

/-- The clients entry comes through the form. -/
def ClientsStated (fields : JsonObject) : Prop :=
  fields.get? "clients" ≠ some .null ∧
    ∀ item ∈ arrayOrEmpty (fields.get "clients"), ItemStated item

theorem usersJson_kept {draws : Nat → UserDraws} {fields : JsonObject}
    (fits : (VpnSettings.typedClients fields).fits = true) :
    (∃ saved, usersJson draws (fields.get? "clients") = some saved ∧
        readUsers saved = (VpnSettings.typedClients fields).value) ↔
      ClientsStated fields := by
  unfold ClientsStated VpnSettings.typedClients JsonObject.get at *
  cases entry : fields.get? "clients" with
  | none =>
      refine iff_of_true ⟨[], rfl, rfl⟩ ⟨nofun, fun _ member => nomatch member⟩
  | some value =>
      rw [entry] at fits
      cases value with
      | arr items =>
          have fit : UsersFit items := List.all_eq_true.mp fits
          rw [and_iff_right (by exact nofun)]
          exact userJsons_kept fit
      | null =>
          refine iff_of_false ?_ fun stated => stated.1 rfl
          rintro ⟨saved, ran, same⟩
          obtain rfl := Option.some.inj ran
          cases same
      | _ => cases fits

theorem fit_usersJson {draws : Nat → UserDraws} {fields : JsonObject}
    {saved : List Json}
    (fits : (VpnSettings.typedClients fields).fits = true)
    (ran : usersJson draws (fields.get? "clients") = some saved) :
    UsersFit saved := by
  unfold VpnSettings.typedClients JsonObject.get at fits
  cases entry : fields.get? "clients" with
  | none =>
      rw [entry] at ran
      obtain rfl := Option.some.inj ran
      exact fun _ member => nomatch member
  | some value =>
      rw [entry] at fits ran
      cases value with
      | arr items => exact fit_userJsons (List.all_eq_true.mp fits) ran
      | null =>
          obtain rfl := Option.some.inj ran
          refine List.forall_mem_singleton.mpr (fits_userJson ?_)
          decide
      | _ => cases fits

end Users

section Ranges

/-- The ranges as the services read them. -/
def readTexts (items : List Json) : List String :=
  items.map fun item => item.text.value

def TextsFit (items : List Json) : Prop :=
  ∀ item ∈ items, item.text.fits = true

variable {fields : JsonObject}

theorem readTexts_arrayOrEmpty {value : Json} :
    readTexts (arrayOrEmpty value) = (Json.list Json.text value).value := by
  cases value <;> rfl

theorem fit_arrayOrEmpty {value : Json}
    (fits : (Json.list Json.text value).fits = true) :
    TextsFit (arrayOrEmpty value) := by
  cases value with
  | arr items => exact List.all_eq_true.mp fits
  | _ => exact fun _ member => nomatch member

/-- The legacy range is seeded where the service falls back on it. -/
theorem readTexts_seededRanges
    (fits : (fields.get "ipRange").text.fits = true) :
    readTexts (seededRanges fields) =
      if (Json.list Json.text (fields.get "ipRanges")).value = [] ∧
          (fields.get "ipRange").text.value ≠ "" then
        [(fields.get "ipRange").text.value]
      else (Json.list Json.text (fields.get "ipRanges")).value := by
  rw [← readTexts_arrayOrEmpty]
  unfold seededRanges
  have seeded : truthy (fields.get "ipRange") = true ↔
      (fields.get "ipRange").text.value ≠ "" := by
    generalize fields.get "ipRange" = range at fits
    cases range with
    | str text => exact decide_eq_true_iff
    | null => exact iff_of_false Bool.noConfusion fun given => given rfl
    | _ => cases fits
  have none : (arrayOrEmpty (fields.get "ipRanges")).isEmpty = true ↔
      readTexts (arrayOrEmpty (fields.get "ipRanges")) = [] := by
    rw [List.isEmpty_iff, readTexts, List.map_eq_nil_iff]
  dsimp only
  by_cases falls : readTexts (arrayOrEmpty (fields.get "ipRanges")) = [] ∧
      (fields.get "ipRange").text.value ≠ ""
  · rw [if_pos falls, if_pos]
    · rfl
    · rw [Bool.and_eq_true, none, seeded]
      exact falls
  · rw [if_neg falls, if_neg]
    rw [Bool.and_eq_true, none, seeded]
    exact falls

theorem fit_seededRanges
    (ranges : (Json.list Json.text (fields.get "ipRanges")).fits = true)
    (range : (fields.get "ipRange").text.fits = true) :
    TextsFit (seededRanges fields) := by
  unfold seededRanges
  dsimp only
  split
  · exact List.forall_mem_singleton.mpr range
  · exact fit_arrayOrEmpty ranges

/-- The form drops the blank rows. -/
theorem keptRanges_eq_some {items : List Json} (fit : TextsFit items) :
    ∃ saved, keptRanges items = some saved ∧ TextsFit saved ∧
      readTexts saved = (readTexts items).filter fun text => !isBlank text := by
  induction items with
  | nil => exact ⟨[], rfl, fit, rfl⟩
  | cons item rest induction =>
      obtain ⟨headFits, restFit⟩ := List.forall_mem_cons.mp fit
      obtain ⟨saved, ran, savedFit, same⟩ := induction restFit
      have kept : rangeKept item = some (!isBlank item.text.value) := by
        cases item with
        | str text => rfl
        | null => decide
        | _ => cases headFits
      refine ⟨if !isBlank item.text.value then item :: saved else saved, ?_,
        ?_, ?_⟩
      · simp only [keptRanges, kept, ran, Option.bind_eq_bind,
          Option.bind_some]
      · split
        · exact List.forall_mem_cons.mpr ⟨headFits, savedFit⟩
        · exact savedFit
      · have split : readTexts (item :: rest) =
            item.text.value :: readTexts rest := rfl
        rw [split, List.filter_cons, ← same]
        cases isBlank item.text.value <;> rfl

end Ranges

end VpnUi.Form
