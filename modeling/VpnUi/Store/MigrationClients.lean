import VpnUi.Store.MigrationRows

namespace VpnUi.Store

open Foundation Panel

/-! What the repair keeps of the clients, and what a second repair changes. -/

/-! Clients. -/

/-- The repairs of a field that are documented. -/
inductive Mended (now : Int) : String → Option Json → Option Json → Prop
  | email : Mended now "email" none (some (.str ""))
  | tgId {text : String} {tgId : Int} (parsed : parseTgId text = some tgId) :
      Mended now "tgId" (some (.str text)) (some (.int tgId))
  | flow : Mended now "flow" (some (.str "xtls-rprx-direct")) (some (.str ""))
  | createdAt : Mended now "created_at" none (some (.int now))
  | updatedAt {old : Option Json} :
      Mended now "updated_at" old (some (.int now))

/-- Every field is as it was, or repaired. -/
def KeptClient (now : Int) (before after : JsonObject) : Prop :=
  ∀ key, after.get? key = before.get? key ∨
    Mended now key (before.get? key) (after.get? key)

inductive KeptItem (now : Int) : Json → Json → Prop
  | same {item : Json} : KeptItem now item item
  | client {before after : JsonObject} (kept : KeptClient now before after) :
      KeptItem now (.obj before) (.obj after)

/-- A value that JSON gives back as it is written, the numbers above all. -/
def Settled (value : Json) : Prop := value.viaFloat = value

def SettledClient (client : JsonObject) : Prop :=
  ∀ key, key ≠ "updated_at" → ∀ value ∈ client.get? key, Settled value

def mendedTgId : Option Json → Option Json
  | some (.str text) =>
      match parseTgId text with
      | some tgId => some (.int tgId)
      | none => some (.str text)
  | old => old

def mendedFlow (old : Option Json) : Option Json :=
  if Json.isText old "xtls-rprx-direct" then some (.str "") else old

/-- What the repair makes of a field. -/
def mendedField (now : Int) (key : String) (old : Option Json) : Option Json :=
  if key = "email" then some (old.getD (.str ""))
  else if key = "tgId" then mendedTgId old
  else if key = "flow" then mendedFlow old
  else if key = "created_at" then some (old.getD (.int now))
  else if key = "updated_at" then some (.int now)
  else old

section Client

variable {now later : Int} {client : JsonObject} {key : String}

theorem get?_convertTgId_self :
    (convertTgId client).get? "tgId" = mendedTgId (client.get? "tgId") := by
  cases found : client.get? "tgId" with
  | none =>
      unfold convertTgId
      rw [found]
      exact found
  | some value =>
      cases value with
      | str text =>
          unfold convertTgId mendedTgId
          rw [found]
          dsimp only
          cases parseTgId text with
          | some tgId => exact JsonObject.get?_set_self
          | none => exact found
      | _ =>
          unfold convertTgId
          rw [found]
          exact found

theorem get?_dropDirectFlow_self :
    (dropDirectFlow client).get? "flow" = mendedFlow (client.get? "flow") := by
  unfold dropDirectFlow mendedFlow
  split
  · exact JsonObject.get?_set_self
  · rfl

theorem get?_stampRepaired_created :
    (stampRepaired now client).get? "created_at" =
      some ((client.get? "created_at").getD (.int now)) := by
  unfold stampRepaired
  dsimp only
  rw [JsonObject.get?_set_ne (by decide)]
  cases found : client.get? "created_at" with
  | some created => simpa using found
  | none => simp

theorem get?_stampRepaired_updated :
    (stampRepaired now client).get? "updated_at" = some (.int now) := by
  unfold stampRepaired
  exact JsonObject.get?_set_self

theorem get?_repairClient :
    (repairClient now client).get? key =
      mendedField now key (client.get? key) := by
  unfold repairClient mendedField
  by_cases updated : key = "updated_at"
  · subst updated
    exact get?_stampRepaired_updated
  by_cases created : key = "created_at"
  · subst created
    rw [get?_stampRepaired_created, get?_dropDirectFlow_ne (by decide),
      get?_convertTgId_ne (by decide), get?_addEmail_ne (by decide)]
    rfl
  rw [get?_stampRepaired_ne created updated]
  by_cases flow : key = "flow"
  · subst flow
    rw [get?_dropDirectFlow_self, get?_convertTgId_ne (by decide),
      get?_addEmail_ne (by decide)]
    rfl
  rw [get?_dropDirectFlow_ne flow]
  by_cases tgId : key = "tgId"
  · subst tgId
    rw [get?_convertTgId_self, get?_addEmail_ne (by decide)]
    rfl
  rw [get?_convertTgId_ne tgId]
  by_cases email : key = "email"
  · subst email
    exact get?_addEmail_self
  rw [get?_addEmail_ne email, if_neg email, if_neg tgId, if_neg flow,
    if_neg created, if_neg updated]

/-- Texts are settled, and what is no text does not become one. -/
theorem viaFloat_eq_str_iff {value : Json} {text : String} :
    value.viaFloat = .str text ↔ value = .str text := by
  cases value with
  | int number =>
      rw [Json.viaFloat, printFloat]
      split <;> simp
  | _ => simp [Json.viaFloat]

/-- A field that is there is repaired only if it is a text, or the stamp. -/
theorem Mended.of_some {value : Json} {after : Option Json}
    (mended : Mended now key (some value) after) :
    key = "updated_at" ∨
      (key = "tgId" ∨ key = "flow") ∧ ∃ text, value = .str text := by
  generalize given : some value = old at mended
  cases mended with
  | email => cases given
  | tgId parsed => exact .inr ⟨.inl rfl, _, Option.some.inj given⟩
  | flow => exact .inr ⟨.inr rfl, _, Option.some.inj given⟩
  | createdAt => cases given
  | updatedAt => exact .inl rfl

theorem kept_getD_iff {old : Option Json} {given : Json}
    (untouched : key ∉ ["updated_at", "tgId", "flow"])
    (absent : Mended now key none (some given)) :
    (some ((old.map Json.viaFloat).getD given) = old ∨
        Mended now key old (some ((old.map Json.viaFloat).getD given))) ↔
      ∀ value ∈ old, Settled value := by
  cases old with
  | none => exact iff_of_true (.inr absent) nofun
  | some value =>
      have mended : ∀ after, ¬ Mended now key (some value) after := by
        intro after here
        have touched := here.of_some
        simp_all
      simp only [Option.map_some, Option.getD_some, Option.some.injEq,
        Option.mem_def, forall_eq', mended, or_false]
      rfl

/-- Only a text is repaired. -/
theorem kept_iff_of_texts {mend : Option Json → Option Json}
    (absent : mend none = none)
    (texts : ∀ text, mend (some (.str text)) = some (.str text) ∨
      Mended now key (some (.str text)) (mend (some (.str text))))
    (others : ∀ value, (∀ text, value ≠ .str text) → mend (some value) = some value)
    (stays : key ≠ "updated_at") {old : Option Json} :
    (mend (old.map Json.viaFloat) = old ∨
        Mended now key old (mend (old.map Json.viaFloat))) ↔
      ∀ value ∈ old, Settled value := by
  cases old with
  | none => exact iff_of_true (.inl absent) nofun
  | some value =>
      rw [Option.map_some]
      by_cases text : ∃ text, value = .str text
      · obtain ⟨text, rfl⟩ := text
        refine iff_of_true (texts text) ?_
        intro value same
        rw [← Option.some.inj same]
        rfl
      · have unmended : ∀ after, ¬ Mended now key (some value) after :=
          fun after here => text (here.of_some.resolve_left stays).2
        push Not at text
        rw [others value.viaFloat fun other same =>
          text other (viaFloat_eq_str_iff.mp same), or_iff_left (unmended _)]
        simp [Settled]

theorem mendedTgId_of_not_text {value : Json} (other : ∀ text, value ≠ .str text) :
    mendedTgId (some value) = some value := by
  unfold mendedTgId
  split
  next text same => exact absurd (Option.some.inj same) (other text)
  · rfl

theorem kept_mendedTgId_iff {old : Option Json} :
    (mendedTgId (old.map Json.viaFloat) = old ∨
        Mended now "tgId" old (mendedTgId (old.map Json.viaFloat))) ↔
      ∀ value ∈ old, Settled value := by
  refine kept_iff_of_texts rfl ?_ (fun value other =>
    mendedTgId_of_not_text other) (by decide)
  intro text
  cases parsed : parseTgId text with
  | some tgId =>
      have made : mendedTgId (some (.str text)) = some (.int tgId) := by
        simp only [mendedTgId, parsed]
      rw [made]
      exact .inr (.tgId parsed)
  | none => exact .inl (by simp only [mendedTgId, parsed])

theorem mendedFlow_of_not_text {value : Json} (other : ∀ text, value ≠ .str text) :
    mendedFlow (some value) = some value :=
  if_neg fun text => other _ (Option.some.inj (Json.isText_iff.mp text))

theorem kept_mendedFlow_iff {old : Option Json} :
    (mendedFlow (old.map Json.viaFloat) = old ∨
        Mended now "flow" old (mendedFlow (old.map Json.viaFloat))) ↔
      ∀ value ∈ old, Settled value := by
  refine kept_iff_of_texts rfl ?_ (fun value other =>
    mendedFlow_of_not_text other) (by decide)
  intro text
  by_cases direct : text = "xtls-rprx-direct"
  · subst direct
    exact .inr .flow
  · exact .inl (if_neg fun same => direct
      (Json.str.inj (Option.some.inj (Json.isText_iff.mp same))))

/-- A field is kept if its value is settled. -/
theorem kept_mendedField_iff {old : Option Json} :
    (mendedField now key (old.map Json.viaFloat) = old ∨
        Mended now key old (mendedField now key (old.map Json.viaFloat))) ↔
      (key ≠ "updated_at" → ∀ value ∈ old, Settled value) := by
  unfold mendedField
  by_cases email : key = "email"
  · subst email
    rw [if_pos rfl, kept_getD_iff (by decide) .email]
    exact ⟨fun settled _ => settled, fun settled => settled (by decide)⟩
  rw [if_neg email]
  by_cases tgId : key = "tgId"
  · subst tgId
    rw [if_pos rfl, kept_mendedTgId_iff]
    exact ⟨fun settled _ => settled, fun settled => settled (by decide)⟩
  rw [if_neg tgId]
  by_cases flow : key = "flow"
  · subst flow
    rw [if_pos rfl, kept_mendedFlow_iff]
    exact ⟨fun settled _ => settled, fun settled => settled (by decide)⟩
  rw [if_neg flow]
  by_cases created : key = "created_at"
  · subst created
    rw [if_pos rfl, kept_getD_iff (by decide) .createdAt]
    exact ⟨fun settled _ => settled, fun settled => settled (by decide)⟩
  rw [if_neg created]
  by_cases updated : key = "updated_at"
  · subst updated
    rw [if_pos rfl]
    exact iff_of_true (.inr .updatedAt) fun differs => absurd rfl differs
  rw [if_neg updated]
  have unmended : ¬ Mended now key old (old.map Json.viaFloat) := by
    intro mended
    generalize old.map Json.viaFloat = after at mended
    cases mended <;> simp_all
  rw [or_iff_left unmended]
  cases old with
  | none => simp
  | some value => simp [Settled, updated]

theorem keptClient_iff :
    KeptClient now client (repairClient now (viaFloatFields client)) ↔
      SettledClient client := by
  unfold KeptClient SettledClient
  refine forall_congr' fun key => ?_
  rw [get?_repairClient, JsonObject.get?_viaFloatFields]
  exact kept_mendedField_iff

/-- The Telegram ids that are made of texts are settled. -/
def SettledTgId (old : Option Json) : Prop :=
  ∀ text tgId, old = some (.str text) → parseTgId text = some tgId →
    Settled (.int tgId)

theorem settled_getD {old : Option Json} {given : Json} (settled : Settled given) :
    Settled ((old.map Json.viaFloat).getD given) := by
  cases old with
  | none => exact settled
  | some value => exact Json.viaFloat_idem value

theorem mendedTgId_again_iff {old : Option Json} :
    mendedTgId ((mendedTgId (old.map Json.viaFloat)).map Json.viaFloat) =
        mendedTgId (old.map Json.viaFloat) ↔ SettledTgId old := by
  cases old with
  | none => exact iff_of_true rfl nofun
  | some value =>
      by_cases isText : ∃ text, value = .str text
      · obtain ⟨text, rfl⟩ := isText
        have read : Option.map Json.viaFloat (some (.str text)) =
            some (.str text) := rfl
        rw [read]
        cases parsed : parseTgId text with
        | none =>
            have made : mendedTgId (some (.str text)) = some (.str text) := by
              simp only [mendedTgId, parsed]
            rw [made, read, made]
            refine iff_of_true rfl ?_
            intro other tgId same found
            obtain rfl := Json.str.inj (Option.some.inj same)
            rw [parsed] at found
            cases found
        | some tgId =>
            have made : mendedTgId (some (.str text)) = some (.int tgId) := by
              simp only [mendedTgId, parsed]
            have number : mendedTgId (some (Json.int tgId).viaFloat) =
                some (Json.int tgId).viaFloat :=
              mendedTgId_of_not_text fun other same =>
                nomatch viaFloat_eq_str_iff.mp same
            rw [made, Option.map_some, number, Option.some.injEq]
            constructor
            · intro settled other number same found
              obtain rfl := Json.str.inj (Option.some.inj same)
              rw [parsed] at found
              obtain rfl := Option.some.inj found
              exact settled
            · intro settled
              exact settled text tgId rfl parsed
      · push Not at isText
        have first : mendedTgId (some value.viaFloat) = some value.viaFloat :=
          mendedTgId_of_not_text fun text same =>
            isText text (viaFloat_eq_str_iff.mp same)
        rw [Option.map_some, first, Option.map_some, Json.viaFloat_idem, first]
        exact iff_of_true rfl fun text tgId same =>
          absurd (Option.some.inj same) (isText text)

theorem mendedFlow_again {old : Option Json} :
    mendedFlow ((mendedFlow (old.map Json.viaFloat)).map Json.viaFloat) =
      mendedFlow (old.map Json.viaFloat) := by
  unfold mendedFlow
  split
  · rfl
  next other =>
    have same : (old.map Json.viaFloat).map Json.viaFloat =
        old.map Json.viaFloat := by
      cases old with
      | none => rfl
      | some value => rw [Option.map_some, Option.map_some, Json.viaFloat_idem]
    rw [same, if_neg other]

/-- A second repair leaves a field that is not the stamp as the first one did. -/
theorem mendedField_again_iff {old : Option Json} (clock : Settled (.int now))
    (stays : key ≠ "updated_at") :
    mendedField later key
        ((mendedField now key (old.map Json.viaFloat)).map Json.viaFloat) =
      mendedField now key (old.map Json.viaFloat) ↔
        (key = "tgId" → SettledTgId old) := by
  unfold mendedField
  by_cases email : key = "email"
  · subst email
    refine iff_of_true ?_ fun same => absurd same (by decide)
    simp only [if_true, Option.map_some, Option.getD_some]
    rw [@settled_getD old (.str "") rfl]
  rw [if_neg email, if_neg email]
  by_cases tgId : key = "tgId"
  · subst tgId
    rw [if_pos rfl, if_pos rfl, mendedTgId_again_iff]
    exact ⟨fun settled _ => settled, fun settled => settled rfl⟩
  rw [if_neg tgId, if_neg tgId]
  refine iff_of_true ?_ fun same => absurd same tgId
  by_cases flow : key = "flow"
  · rw [if_pos flow, if_pos flow, mendedFlow_again]
  rw [if_neg flow, if_neg flow]
  by_cases created : key = "created_at"
  · rw [if_pos created, if_pos created, Option.map_some, Option.getD_some,
      settled_getD clock]
  rw [if_neg created, if_neg created, if_neg stays, if_neg stays]
  cases old with
  | none => rfl
  | some value => rw [Option.map_some, Option.map_some, Json.viaFloat_idem]

end Client

/-! Settings. -/

def listedClients (settings : JsonText) : List Json :=
  match settings.fields.get "clients" with
  | .arr items => items
  | _ => []

/-- Two clients differ in the stamp of their last update only. -/
inductive Restamped : Json → Json → Prop
  | same {item : Json} : Restamped item item
  | client {first second : JsonObject}
      (fields : ∀ key, key ≠ "updated_at" → second.get? key = first.get? key) :
      Restamped (.obj first) (.obj second)

/-- Two settings differ in these stamps only. -/
structure RestampedSettings (first second : JsonText) : Prop where
  fields : ∀ key, key ≠ "clients" →
    second.fields.get? key = first.fields.get? key
  clients : List.Forall₂ Restamped (listedClients first) (listedClients second)

section Settings

variable {now later : Int} {settings : JsonText}

/-- The settings after the repair. -/
def mendedSettings (now : Int) (settings : JsonText) : JsonText :=
  (repairSettings now settings).getD settings

theorem mendedSettings_of_objects {objects : List JsonObject}
    (stored : settings.fields.get "clients" = .arr (objects.map .obj)) :
    mendedSettings now settings =
      .parsed (.obj (JsonObject.set (viaFloatFields settings.fields) "clients"
        (if objects = [] then .null
          else .arr (objects.map (repairedItem now))))) := by
  unfold mendedSettings repairSettings
  rw [stored]
  dsimp only
  rw [repairClients_eq_some.mpr ⟨objects, rfl, rfl⟩]
  rfl

theorem mendedSettings_of_no_array
    (others : ∀ items, settings.fields.get "clients" ≠ .arr items) :
    mendedSettings now settings = settings := by
  unfold mendedSettings repairSettings
  split
  next items stored => exact absurd stored (others items)
  · rfl

theorem listedClients_of_objects {objects : List JsonObject}
    (stored : settings.fields.get "clients" = .arr (objects.map .obj)) :
    listedClients (mendedSettings now settings) =
      objects.map (repairedItem now) := by
  rw [mendedSettings_of_objects stored]
  unfold listedClients
  rw [show JsonText.fields (.parsed (.obj (JsonObject.set
    (viaFloatFields settings.fields) "clients" _))) = JsonObject.set
      (viaFloatFields settings.fields) "clients" _ from rfl,
    JsonObject.get_set_self]
  cases objects with
  | nil => rfl
  | cons object objects => rfl

theorem listedClients_of_array {items : List Json}
    (stored : settings.fields.get "clients" = .arr items) :
    listedClients settings = items := by
  rw [listedClients, stored]

theorem listedClients_of_no_array
    (others : ∀ items, settings.fields.get "clients" ≠ .arr items) :
    listedClients settings = [] := by
  unfold listedClients
  split
  next items stored => exact absurd stored (others items)
  · rfl

theorem keptItem_obj_iff {before after : JsonObject} :
    KeptItem now (.obj before) (.obj after) ↔ KeptClient now before after := by
  constructor
  · intro kept
    cases kept with
    | same => exact fun _ => .inl rfl
    | client kept => exact kept
  · exact .client

theorem restamped_obj_iff {first second : JsonObject} :
    Restamped (.obj first) (.obj second) ↔
      ∀ key, key ≠ "updated_at" → second.get? key = first.get? key := by
  constructor
  · intro restamped
    cases restamped with
    | same => exact fun _ _ => rfl
    | client fields => exact fields
  · exact .client

/-- The clients of the settings are kept if they are settled. -/
theorem kept_mendedSettings_iff (objects : ObjectClients settings) :
    List.Forall₂ (KeptItem now) (listedClients settings)
        (listedClients (mendedSettings now settings)) ↔
      ∀ object, .obj object ∈ listedClients settings → SettledClient object := by
  by_cases array : ∃ items, settings.fields.get "clients" = .arr items
  · obtain ⟨items, stored⟩ := array
    obtain ⟨objects, rfl⟩ := objects items stored
    rw [listedClients_of_objects stored, listedClients_of_array stored,
      List.forall₂_map_left_iff, List.forall₂_map_right_iff, List.forall₂_same]
    simp only [repairedItem, keptItem_obj_iff, keptClient_iff, List.mem_map,
      Json.obj.injEq, exists_eq_right]
  · push Not at array
    rw [mendedSettings_of_no_array array, listedClients_of_no_array array]
    exact iff_of_true .nil fun _ member => absurd member List.not_mem_nil

theorem restamped_repairedItem_iff {client : JsonObject}
    (clock : Settled (.int now)) :
    Restamped (repairedItem now client)
        (repairedItem later (repairClient now (viaFloatFields client))) ↔
      SettledTgId (client.get? "tgId") := by
  rw [repairedItem, repairedItem, restamped_obj_iff]
  constructor
  · intro same
    have tgId := same "tgId" (by decide)
    rw [get?_repairClient, JsonObject.get?_viaFloatFields, get?_repairClient,
      JsonObject.get?_viaFloatFields] at tgId
    exact (mendedField_again_iff clock (by decide)).mp tgId rfl
  · intro settled key stays
    rw [get?_repairClient, JsonObject.get?_viaFloatFields, get?_repairClient,
      JsonObject.get?_viaFloatFields]
    exact (mendedField_again_iff clock stays).mpr fun tgId => tgId ▸ settled

theorem restampedSettings_refl : RestampedSettings settings settings :=
  ⟨fun _ _ => rfl, List.forall₂_same.mpr fun _ _ => .same⟩

/-- A second repair is seen in the stamps only if the Telegram ids are
settled. -/
theorem restamped_mendedSettings_iff (objects : ObjectClients settings)
    (clock : Settled (.int now)) :
    RestampedSettings (mendedSettings now settings)
        (mendedSettings later (mendedSettings now settings)) ↔
      ∀ object, .obj object ∈ listedClients settings →
        SettledTgId (JsonObject.get? object "tgId") := by
  by_cases array : ∃ items, settings.fields.get "clients" = .arr items
  · obtain ⟨items, stored⟩ := array
    obtain ⟨objects, rfl⟩ := objects items stored
    have first := @mendedSettings_of_objects now settings objects stored
    rw [listedClients_of_array stored]
    cases objects with
    | nil =>
        rw [if_pos rfl] at first
        have none : ∀ items, (mendedSettings now settings).fields.get
            "clients" ≠ .arr items := by
          intro items
          rw [first]
          change JsonObject.get (JsonObject.set _ "clients" .null) "clients" ≠ _
          rw [JsonObject.get_set_self]
          nofun
        rw [mendedSettings_of_no_array none]
        exact iff_of_true restampedSettings_refl nofun
    | cons object objects =>
        rw [if_neg (List.cons_ne_nil _ _)] at first
        have listed : (mendedSettings now settings).fields.get "clients" =
            .arr (((object :: objects).map fun client =>
              repairClient now (viaFloatFields client)).map .obj) := by
          rw [first, List.map_map]
          exact JsonObject.get_set_self
        have clients : List.Forall₂ Restamped
            (listedClients (mendedSettings now settings))
            (listedClients (mendedSettings later (mendedSettings now settings))) ↔
              ∀ client ∈ object :: objects,
                SettledTgId (JsonObject.get? client "tgId") := by
          rw [listedClients_of_objects stored, listedClients_of_objects listed,
            List.map_map, List.forall₂_map_left_iff, List.forall₂_map_right_iff,
            List.forall₂_same]
          simp only [Function.comp_apply, restamped_repairedItem_iff clock]
        have fields : ∀ key, key ≠ "clients" →
            (mendedSettings later (mendedSettings now settings)).fields.get? key =
              (mendedSettings now settings).fields.get? key := by
          intro key other
          rw [mendedSettings_of_objects listed, first]
          change (JsonObject.set (viaFloatFields (JsonObject.set _ _ _)) _
            _).get? key = (JsonObject.set _ _ _).get? key
          rw [JsonObject.get?_set_ne other, JsonObject.get?_viaFloatFields,
            JsonObject.get?_set_ne other, JsonObject.get?_viaFloatFields]
          cases settings.fields.get? key with
          | none => rfl
          | some value =>
              rw [Option.map_some, Option.map_some, Json.viaFloat_idem]
        simp only [List.mem_map, Json.obj.injEq, exists_eq_right]
        rw [← clients]
        exact ⟨RestampedSettings.clients, fun stamps => ⟨fields, stamps⟩⟩
  · push Not at array
    rw [mendedSettings_of_no_array array, mendedSettings_of_no_array array,
      listedClients_of_no_array array]
    exact iff_of_true restampedSettings_refl nofun

end Settings

end VpnUi.Store
