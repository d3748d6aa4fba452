import Mathlib.Data.List.TakeWhile
import VpnUi.Foundation.Traverse
import VpnUi.Store.Migration

namespace VpnUi.Store

open Foundation Panel

/-! Domains that become external proxies. -/

theorem child_viaFloatFields {object : JsonObject} {key : String} :
    child (viaFloatFields object) key =
      (child object key).map viaFloatFields := by
  unfold child
  rw [JsonObject.get?_viaFloatFields]
  cases JsonObject.get? object key with
  | none => rfl
  | some value =>
      cases value with
      | int number =>
          rw [Option.map_some, Json.viaFloat, printFloat]
          split <;> rfl
      | _ => rfl

/-- The objects on the way to the domains. -/
structure DomainPath (stream tlsSettings settings : JsonObject)
    (domains : Json) : Prop where
  tls : child stream "tlsSettings" = some tlsSettings
  inner : child tlsSettings "settings" = some settings
  listed : settings.get? "domains" = some domains
  present : domains ≠ .null

theorem notNull_eq_some {json other : Json} :
    notNull json = some other ↔ json = other ∧ other ≠ .null := by
  cases json with
  | null =>
      constructor
      · intro none
        cases none
      · rintro ⟨rfl, absent⟩
        exact absurd rfl absent
  | _ =>
      constructor
      · intro same
        obtain rfl := Option.some.inj same
        exact ⟨rfl, nofun⟩
      · rintro ⟨rfl, -⟩
        rfl

theorem domainsOf_eq_some {stream : JsonObject} {domains : Json} :
    domainsOf stream = some domains ↔
      ∃ tlsSettings settings, DomainPath stream tlsSettings settings domains := by
  unfold domainsOf
  constructor
  · intro found
    obtain ⟨tlsSettings, tls, found⟩ := Option.bind_eq_some_iff.mp found
    obtain ⟨settings, inner, found⟩ := Option.bind_eq_some_iff.mp found
    obtain ⟨given, listed, found⟩ := Option.bind_eq_some_iff.mp found
    obtain ⟨rfl, absent⟩ := notNull_eq_some.mp found
    exact ⟨tlsSettings, settings, tls, inner, listed, absent⟩
  · rintro ⟨tlsSettings, settings, tls, inner, listed, absent⟩
    simp [tls, inner, listed, notNull_eq_some.mpr ⟨rfl, absent⟩]

/-- The stream settings with the domains moved. -/
def movedStream (stream tlsSettings settings : JsonObject) (reverses : Json) :
    JsonObject :=
  (stream.set "tlsSettings" (.obj (tlsSettings.set "settings"
    (.obj (settings.remove "domains"))))).set "externalProxy" reverses

theorem convertStream_of_path {stream tlsSettings settings : JsonObject}
    {domains : Json} {port : Int}
    (path : DomainPath stream tlsSettings settings domains) :
    convertStream port (viaFloatFields stream) =
      (convertDomains port domains.viaFloat).map
        (movedStream (viaFloatFields stream) (viaFloatFields tlsSettings)
          (viaFloatFields settings)) := by
  unfold convertStream
  rw [child_viaFloatFields, path.tls]
  simp only [Option.map_some]
  rw [child_viaFloatFields, path.inner]
  simp only [Option.map_some]
  rw [JsonObject.get, JsonObject.get?_viaFloatFields, path.listed]
  rfl

/-- An object of a domain has it as a text. -/
def HasDomain : Json → Prop
  | .obj fields => ∃ domain, JsonObject.get? fields "domain" = some (.str domain)
  | _ => False

/-- The objects of a list of domains have one. -/
def DomainsNamed (domains : Json) : Prop :=
  ∀ items, domains = .arr items → ∀ fields, .obj fields ∈ items →
    HasDomain (.obj fields)

theorem mapM_ne_none_iff {Item Image : Type*} {convert : Item → Option Image}
    {items : List Item} :
    items.mapM convert ≠ none ↔ ∀ item ∈ items, convert item ≠ none := by
  induction items with
  | nil => simp
  | cons item items induction =>
      rw [List.mapM_cons, List.forall_mem_cons, ← induction]
      cases convert item with
      | none => simp
      | some image => cases items.mapM convert <;> simp

theorem get?_viaFloatFields_str {fields : JsonObject} {key text : String} :
    JsonObject.get? (viaFloatFields fields) key = some (.str text) ↔
      JsonObject.get? fields key = some (.str text) := by
  rw [JsonObject.get?_viaFloatFields]
  cases JsonObject.get? fields key with
  | none => simp
  | some value =>
      cases value with
      | int number =>
          rw [Option.map_some, Json.viaFloat, printFloat]
          split <;> simp
      | _ => simp [Json.viaFloat]

theorem convertDomain_ne_none_iff {port : Int} {item : Json} :
    convertDomain port item.viaFloat ≠ none ↔
      ∀ fields, item = .obj fields → HasDomain item := by
  cases item with
  | obj fields =>
      rw [Json.viaFloat, convertDomain]
      constructor
      · intro converts _ _
        split at converts
        next domain found => exact ⟨domain, get?_viaFloatFields_str.mp found⟩
        · exact absurd rfl converts
      · intro has
        obtain ⟨domain, found⟩ := has fields rfl
        rw [get?_viaFloatFields_str.mpr found]
        exact Option.some_ne_none _
  | int number =>
      rw [Json.viaFloat, printFloat]
      split <;> exact iff_of_true (Option.some_ne_none _)
        fun _ same => Json.noConfusion same
  | _ =>
      exact iff_of_true (Option.some_ne_none _)
        fun _ same => Json.noConfusion same

theorem convertDomains_ne_none_iff {port : Int} {domains : Json} :
    convertDomains port domains.viaFloat ≠ none ↔ DomainsNamed domains := by
  cases domains with
  | arr items =>
      rw [Json.viaFloat, convertDomains, ne_eq, Option.map_eq_none_iff, ← ne_eq,
        mapM_ne_none_iff, viaFloatItems_eq_map, List.forall_mem_map]
      constructor
      · intro converts given same fields member
        obtain rfl := Json.arr.inj same
        exact convertDomain_ne_none_iff.mp (converts _ member) fields rfl
      · intro named item member
        refine convertDomain_ne_none_iff.mpr fun fields same => ?_
        subst same
        exact named items rfl fields member
  | int number =>
      rw [Json.viaFloat, printFloat]
      split <;> exact iff_of_true (Option.some_ne_none _)
        fun _ same => Json.noConfusion same
  | _ =>
      exact iff_of_true (Option.some_ne_none _)
        fun _ same => Json.noConfusion same

section Rows

variable {row : UpgradeRow} {rows : List UpgradeRow}

theorem path_of_multiDomain (multi : row.multiDomain) :
    ∃ tlsSettings settings domains, DomainPath row.streamSettings.fields
      tlsSettings settings domains := by
  unfold UpgradeRow.multiDomain at multi
  obtain ⟨domains, found⟩ := Option.isSome_iff_exists.mp
    (Bool.and_eq_true_iff.mp multi).2
  obtain ⟨tlsSettings, settings, path⟩ := domainsOf_eq_some.mp found
  exact ⟨tlsSettings, settings, domains, path⟩

/-- The domains of a row can be converted. -/
def UpgradeRow.DomainsNamed (row : UpgradeRow) : Prop :=
  ∀ domains ∈ domainsOf row.streamSettings.fields, Store.DomainsNamed domains

theorem convert_isSome_iff (multi : row.multiDomain) :
    row.convert.isSome ↔ row.DomainsNamed := by
  obtain ⟨tlsSettings, settings, domains, path⟩ := path_of_multiDomain multi
  have found := domainsOf_eq_some.mpr ⟨_, _, path⟩
  unfold UpgradeRow.convert UpgradeRow.DomainsNamed
  rw [convertStream_of_path path, Option.map_map, Option.isSome_map,
    Option.isSome_iff_ne_none, convertDomains_ne_none_iff, found]
  simp

theorem length_convertible_iff :
    (convertible rows).length = rows.length ↔
      ∀ row ∈ rows, row.convert.isSome := by
  unfold convertible
  rw [← List.takeWhile_eq_self_iff]
  constructor
  · intro whole
    exact (List.takeWhile_prefix _).eq_of_length whole
  · intro same
    rw [same]

theorem mapInbounds_congr {db : UpgradeDb} {apply other : UpgradeRow → UpgradeRow}
    {keeps : ∀ row, (apply row).id = row.id}
    {keepsOther : ∀ row, (other row).id = row.id}
    (same : ∀ row ∈ db.inbounds, apply row = other row) :
    db.mapInbounds apply keeps = db.mapInbounds other keepsOther := by
  have rows : db.inbounds.mapRows apply keeps =
      db.inbounds.mapRows other keepsOther := by
    unfold Table.mapRows
    congr 1
    exact List.map_congr_left same
  unfold UpgradeDb.mapInbounds
  congr 1

/-- Without a panic every row with domains is converted. -/
theorem convertMultiDomain_of_named {db : UpgradeDb}
    (named : ∀ row ∈ db.inbounds, row.multiDomain → row.DomainsNamed) :
    convertMultiDomain db =
      (db.mapInbounds (fun row => if row.multiDomain then row.converted else row)
        fun row => by split <;> rfl, .returned) := by
  have whole : convertible (db.inbounds.rows.filter UpgradeRow.multiDomain) =
      db.inbounds.rows.filter UpgradeRow.multiDomain := by
    refine (List.takeWhile_prefix _).eq_of_length (length_convertible_iff.mpr ?_)
    intro row listed
    obtain ⟨member, multi⟩ := List.mem_filter.mp listed
    exact (convert_isSome_iff multi).mpr (named row member multi)
  refine Prod.ext ?_ (if_pos (congrArg List.length whole))
  apply mapInbounds_congr
  intro row member
  have selected : (db.inbounds.rows.filter UpgradeRow.multiDomain).any
      (·.id = row.id) = row.multiDomain := by
    rw [Bool.eq_iff_iff, List.any_eq_true]
    constructor
    · rintro ⟨other, listed, same⟩
      obtain ⟨stored, multi⟩ := List.mem_filter.mp listed
      rw [← Table.eq_of_key_eq stored member (of_decide_eq_true same)]
      exact multi
    · intro multi
      exact ⟨row, List.mem_filter.mpr ⟨member, multi⟩, by simp⟩
  rw [whole, selected]

theorem convertMultiDomain_panics {db : UpgradeDb} (member : row ∈ db.inbounds)
    (multi : row.multiDomain) (unnamed : ¬ row.DomainsNamed) :
    (convertMultiDomain db).2 = .panicked := by
  unfold convertMultiDomain
  dsimp only
  rw [if_neg]
  intro whole
  have listed : row ∈ db.inbounds.rows.filter UpgradeRow.multiDomain :=
    List.mem_filter.mpr ⟨member, multi⟩
  exact unnamed ((convert_isSome_iff multi).mp
    (length_convertible_iff.mp whole row listed))

end Rows

end VpnUi.Store
