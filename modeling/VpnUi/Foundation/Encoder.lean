import Mathlib.Data.List.Sort
import Mathlib.Data.String.Basic
import VpnUi.Foundation.Distinct
import VpnUi.Foundation.Marshal

namespace VpnUi.Foundation

/-! The encoder of decoded values: the fields of a map are written in the order
of their keys, so that only what a lookup finds counts. -/

namespace JsonObject

def keys (object : JsonObject) : List String := (object.map Prod.fst).eraseDups

/-- The entries of the map that the object is decoded to, by key. -/
def sorted (object : JsonObject) : JsonObject :=
  (object.keys.insertionSort (· ≤ ·)).map fun key => (key, object.get key)

variable {object other : JsonObject} {key : String}

theorem nodup_keys : object.keys.Nodup := nodup_eraseDups _

theorem mem_keys_iff : key ∈ object.keys ↔ (object.get? key).isSome = true := by
  rw [keys, List.mem_eraseDups, get?, List.lookup_isSome_iff, List.mem_map]
  constructor
  · rintro ⟨field, member, rfl⟩
    exact ⟨field, List.mem_reverse.mpr member, beq_self_eq_true _⟩
  · rintro ⟨field, member, same⟩
    exact ⟨field, List.mem_reverse.mp member, (eq_of_beq same).symm⟩

theorem sorted_congr (same : ∀ key, object.get? key = other.get? key) :
    object.sorted = other.sorted := by
  have permuted : object.keys.Perm other.keys := by
    refine (List.perm_ext_iff_of_nodup nodup_keys nodup_keys).mpr fun key => ?_
    rw [mem_keys_iff, mem_keys_iff, same]
  have ordered : object.keys.insertionSort (· ≤ ·) =
      other.keys.insertionSort (· ≤ ·) := by
    refine List.Perm.eq_of_sortedLE List.sortedLE_insertionSort
      List.sortedLE_insertionSort ?_
    exact (List.perm_insertionSort _ _).trans
      (permuted.trans (List.perm_insertionSort _ _).symm)
  unfold sorted
  rw [ordered]
  refine List.map_congr_left fun key _ => ?_
  rw [get, get, same]

/-- The other entries are the same whatever a key is set to. -/
theorem exists_sorted_set (object : JsonObject) (key : String) :
    ∃ before after : JsonObject, ∀ value,
      (object.set key value).sorted = before ++ (key, value) :: after := by
  have sameKeys : ∀ value,
      (object.set key value).keys = (object.set key .null).keys := by
    intro value
    simp only [keys, set, List.map_append, List.map_cons, List.map_nil]
  have nodup : ((object.set key .null).keys.insertionSort (· ≤ ·)).Nodup :=
    (List.perm_insertionSort _ _).nodup_iff.mpr nodup_keys
  have member : key ∈ (object.set key .null).keys.insertionSort (· ≤ ·) := by
    rw [List.mem_insertionSort, mem_keys_iff, get?_set_self]
    rfl
  obtain ⟨before, after, split⟩ := List.append_of_mem member
  rw [split, List.nodup_middle, List.nodup_cons, List.mem_append, not_or]
    at nodup
  obtain ⟨⟨notBefore, notAfter⟩, -⟩ := nodup
  have elsewhere : ∀ value (names : List String), key ∉ names →
      (names.map fun name => (name, (object.set key value).get name)) =
        names.map fun name => (name, object.get name) := by
    intro value names absent
    refine List.map_congr_left fun name listed => ?_
    have differs : name ≠ key := ne_of_mem_of_not_mem listed absent
    rw [get_set_ne differs]
  refine ⟨before.map fun name => (name, object.get name),
    after.map fun name => (name, object.get name), fun value => ?_⟩
  rw [sorted, sameKeys, split, List.map_append, List.map_cons, get_set_self,
    elsewhere value before notBefore, elsewhere value after notAfter]

end JsonObject

mutual

/-- Every map as its entries by key. -/
def Json.normal : Json → Json
  | .arr items => .arr (normalItems items)
  | .obj fields => .obj (JsonObject.sorted (normalFields fields))
  | json => json

def normalItems : List Json → List Json
  | [] => []
  | item :: items => item.normal :: normalItems items

def normalFields : List (String × Json) → List (String × Json)
  | [] => []
  | (key, value) :: fields => (key, value.normal) :: normalFields fields

end

theorem normalItems_eq_map (items : List Json) :
    normalItems items = items.map Json.normal := by
  induction items with
  | nil => rfl
  | cons item items induction => rw [normalItems, induction, List.map_cons]

theorem normalFields_eq_map (fields : JsonObject) :
    normalFields fields = fields.map fun field => (field.1, field.2.normal) := by
  induction fields with
  | nil => rfl
  | cons field fields induction => rw [normalFields, induction, List.map_cons]

theorem get?_normalFields {fields : JsonObject} {key : String} :
    JsonObject.get? (normalFields fields) key =
      (fields.get? key).map Json.normal := by
  rw [normalFields_eq_map]
  exact JsonObject.get?_mapValues

theorem normalFields_set {object : JsonObject} {key : String} {value : Json} :
    normalFields (object.set key value) =
      JsonObject.set (normalFields object) key value.normal := by
  simp only [normalFields_eq_map, JsonObject.set, JsonObject.remove,
    List.map_append, List.filter_map, List.map_cons, List.map_nil]
  rfl

namespace Json

theorem normal_arr (items : List Json) :
    (arr items).normal = .arr (items.map normal) := by
  rw [normal, normalItems_eq_map]

theorem normal_obj_congr {object other : JsonObject}
    (same : ∀ key, (object.get? key).map normal = (other.get? key).map normal) :
    (obj object).normal = (obj other).normal := by
  rw [normal, normal]
  refine congrArg obj (JsonObject.sorted_congr fun key => ?_)
  rw [get?_normalFields, get?_normalFields, same]

section Context

variable {layout : Layout} {depth : Nat}

theorem printFields_context (before after : JsonObject) (key : String) :
    ∃ start rest, ∀ value,
      printFields layout depth (before ++ (key, value) :: after) =
        start ++ print layout depth value ++ rest := by
  induction before with
  | nil =>
      refine ⟨',' :: (layout.newline depth ++ quoted key ++ layout.colon),
        printFields layout depth after, fun value => ?_⟩
      simp [printFields]
  | cons field before induction =>
      obtain ⟨start, rest, printed⟩ := induction
      refine ⟨',' :: (layout.newline depth ++ quoted field.1 ++ layout.colon ++
        print layout depth field.2 ++ start), rest, fun value => ?_⟩
      rw [List.cons_append, printFields, printed]
      simp

/-- The text around the value of a field. -/
theorem print_obj_context (before after : JsonObject) (key : String) :
    ∃ start rest, ∀ value,
      print layout depth (.obj (before ++ (key, value) :: after)) =
        start ++ print layout (depth + 1) value ++ rest := by
  cases before with
  | nil =>
      refine ⟨'\x7b' :: (layout.newline (depth + 1) ++ quoted key ++
        layout.colon), printFields layout (depth + 1) after ++
          layout.newline depth ++ ['\x7d'], fun value => ?_⟩
      simp [print]
  | cons field before =>
      obtain ⟨start, rest, printed⟩ :=
        @printFields_context layout (depth + 1) before after key
      refine ⟨'\x7b' :: (layout.newline (depth + 1) ++ quoted field.1 ++
        layout.colon ++ print layout (depth + 1) field.2 ++ start),
        rest ++ layout.newline depth ++ ['\x7d'], fun value => ?_⟩
      rw [List.cons_append, print, printed]
      simp

theorem printItems_context (before after : List Json) :
    ∃ start rest, ∀ item,
      printItems layout depth (before ++ item :: after) =
        start ++ print layout depth item ++ rest := by
  induction before with
  | nil =>
      refine ⟨',' :: layout.newline depth, printItems layout depth after,
        fun item => ?_⟩
      simp [printItems]
  | cons other before induction =>
      obtain ⟨start, rest, printed⟩ := induction
      refine ⟨',' :: (layout.newline depth ++ print layout depth other ++
        start), rest, fun item => ?_⟩
      rw [List.cons_append, printItems, printed]
      simp

/-- The text around an item. -/
theorem print_arr_context (before after : List Json) :
    ∃ start rest, ∀ item,
      print layout depth (.arr (before ++ item :: after)) =
        start ++ print layout (depth + 1) item ++ rest := by
  cases before with
  | nil =>
      refine ⟨'[' :: layout.newline (depth + 1),
        printItems layout (depth + 1) after ++ layout.newline depth ++ [']'],
        fun item => ?_⟩
      simp [print]
  | cons other before =>
      obtain ⟨start, rest, printed⟩ :=
        @printItems_context layout (depth + 1) before after
      refine ⟨'[' :: (layout.newline (depth + 1) ++
        print layout (depth + 1) other ++ start),
        rest ++ layout.newline depth ++ [']'], fun item => ?_⟩
      rw [List.cons_append, print, printed]
      simp

theorem print_arr_eq_iff {before after : List Json} {item other : Json} :
    print layout depth (.arr (before ++ item :: after)) =
        print layout depth (.arr (before ++ other :: after)) ↔
      print layout (depth + 1) item = print layout (depth + 1) other := by
  obtain ⟨start, rest, printed⟩ := @print_arr_context layout depth before after
  rw [printed, printed, List.append_left_inj, List.append_right_inj]

/-- Two values of one field. -/
theorem print_set_eq_iff {object : JsonObject} {key : String}
    {value other : Json} :
    (obj (object.set key value)).normal.print layout depth =
        (obj (object.set key other)).normal.print layout depth ↔
      value.normal.print layout (depth + 1) =
        other.normal.print layout (depth + 1) := by
  obtain ⟨before, after, sorted⟩ :=
    JsonObject.exists_sorted_set (normalFields object) key
  obtain ⟨start, rest, printed⟩ :=
    @print_obj_context layout depth before after key
  rw [normal, normal, normalFields_set, normalFields_set, sorted, sorted,
    printed, printed, List.append_left_inj, List.append_right_inj]

end Context

section Texts

/-- No letter of the text is escaped. -/
def Plain (text : String) : Prop :=
  ∀ letter ∈ text.toList, escapeLetter letter = [letter]

variable {text other : String} {layout : Layout} {depth : Nat}

theorem quoted_of_plain (plain : Plain text) :
    quoted text = '"' :: (text.toList ++ ['"']) := by
  have letters : text.toList.flatMap escapeLetter = text.toList := by
    unfold Plain at plain
    generalize text.toList = letters at plain
    induction letters with
    | nil => rfl
    | cons letter letters induction =>
        rw [List.forall_mem_cons] at plain
        rw [List.flatMap_cons, plain.1, induction plain.2]
        rfl
  rw [quoted, letters]

theorem quote_not_mem (plain : Plain text) : '"' ∉ text.toList :=
  fun inside => absurd (plain '"' inside) (by decide)

/-- Before the first mark. -/
theorem append_cons_inj {Letter : Type*} {mark : Letter}
    {before others rest last : List Letter} (absent : mark ∉ before)
    (otherAbsent : mark ∉ others)
    (same : before ++ mark :: rest = others ++ mark :: last) :
    before = others ∧ rest = last := by
  induction before generalizing others with
  | nil =>
      cases others with
      | nil => exact ⟨rfl, (List.cons.inj same).2⟩
      | cons other others =>
          rw [(List.cons.inj same).1] at otherAbsent
          exact absurd List.mem_cons_self otherAbsent
  | cons letter before induction =>
      rw [List.mem_cons, not_or] at absent
      cases others with
      | nil => exact absurd (List.cons.inj same).1.symm absent.1
      | cons other others =>
          rw [List.mem_cons, not_or] at otherAbsent
          obtain ⟨rfl, tails⟩ := List.cons.inj same
          obtain ⟨rfl, ends⟩ := induction absent.2 otherAbsent.2 tails
          exact ⟨rfl, ends⟩

theorem quoted_append_inj (plain : Plain text) (otherPlain : Plain other)
    {rest last : List Char}
    (same : quoted text ++ rest = quoted other ++ last) :
    text = other ∧ rest = last := by
  rw [quoted_of_plain plain, quoted_of_plain otherPlain, List.cons_append,
    List.cons_append, List.append_assoc, List.append_assoc,
    List.singleton_append, List.singleton_append] at same
  obtain ⟨letters, same⟩ := append_cons_inj (quote_not_mem plain)
    (quote_not_mem otherPlain) (List.cons.inj same).2
  exact ⟨String.toList_inj.mp letters, same⟩

theorem printItems_texts_inj {texts others : List String}
    (plain : ∀ text ∈ texts, Plain text)
    (otherPlain : ∀ text ∈ others, Plain text)
    (same : printItems .compact depth (texts.map str) ++ [']'] =
      printItems .compact depth (others.map str) ++ [']']) : texts = others := by
  induction texts generalizing others with
  | nil =>
      cases others with
      | nil => rfl
      | cons other others => cases same
  | cons text texts induction =>
      cases others with
      | nil => cases same
      | cons other others =>
          rw [List.forall_mem_cons] at plain otherPlain
          simp only [List.map_cons, printItems, Layout.newline, print,
            List.nil_append, List.cons_append, List.append_assoc] at same
          obtain ⟨rfl, rest⟩ := quoted_append_inj plain.1 otherPlain.1
            (List.cons.inj same).2
          rw [induction plain.2 otherPlain.2 rest]

/-- Lists of plain texts are written differently. -/
theorem print_texts_inj {texts others : List String}
    (plain : ∀ text ∈ texts, Plain text)
    (otherPlain : ∀ text ∈ others, Plain text)
    (same : print .compact depth (.arr (texts.map str)) =
      print .compact depth (.arr (others.map str))) : texts = others := by
  cases texts with
  | nil =>
      cases others with
      | nil => rfl
      | cons other others => cases (List.cons.inj same).2
  | cons text texts =>
      cases others with
      | nil => cases (List.cons.inj same).2
      | cons other others =>
          rw [List.forall_mem_cons] at plain otherPlain
          simp only [List.map_cons, print, Layout.newline, List.nil_append,
            List.append_assoc] at same
          obtain ⟨rfl, rest⟩ := quoted_append_inj plain.1 otherPlain.1
            (List.cons.inj same).2
          rw [printItems_texts_inj plain.2 otherPlain.2 rest]

end Texts

/-- The text of a value. -/
def marshal (layout : Layout) (json : Json) : String :=
  String.ofList (json.normal.print layout 0)

theorem marshal_congr {layout : Layout} {json other : Json}
    (same : json.normal = other.normal) :
    json.marshal layout = other.marshal layout := by
  rw [marshal, marshal, same]

theorem marshal_inj {layout : Layout} {json other : Json} :
    json.marshal layout = other.marshal layout ↔
      json.normal.print layout 0 = other.normal.print layout 0 :=
  String.ofList_inj

end Json

end VpnUi.Foundation
