import Mathlib.Data.List.Sort
import Mathlib.Order.Defs.LinearOrder
import VpnUi.Foundation.Traverse

namespace VpnUi.Foundation

/-! Tables of rows in the order of a primary key. -/

structure Table {Row Key : Type*} [LinearOrder Key] (key : Row → Key) where
  rows : List Row
  sorted : rows.Pairwise fun left right => key left < key right

namespace Table

variable {Row Key : Type*} [LinearOrder Key] {key : Row → Key}

def empty : Table key := ⟨[], List.Pairwise.nil⟩

instance : Membership Row (Table key) := ⟨fun table row => row ∈ table.rows⟩

theorem mem_def {table : Table key} {row : Row} :
    row ∈ table ↔ row ∈ table.rows := Iff.rfl

@[simp] theorem not_mem_empty {row : Row} : row ∉ (empty : Table key) :=
  List.not_mem_nil

/-- Insert the row, or replace the one with its key. -/
def save (table : Table key) (row : Row) : Table key where
  rows := table.rows.filter (key · < key row) ++
    row :: table.rows.filter (key row < key ·)
  sorted := by
    simp only [List.pairwise_append, List.pairwise_cons, List.mem_filter,
      List.mem_cons, decide_eq_true_eq]
    refine ⟨table.sorted.filter _, ⟨fun _ above => above.2,
      table.sorted.filter _⟩, ?_⟩
    rintro low ⟨-, below⟩ high (rfl | ⟨-, above⟩)
    · exact below
    · exact below.trans above

def delete (table : Table key) (removed : Key) : Table key where
  rows := table.rows.filter (key · ≠ removed)
  sorted := table.sorted.filter _

def filter (table : Table key) (keep : Row → Bool) : Table key where
  rows := table.rows.filter keep
  sorted := table.sorted.filter _

/-- Change every row except in its key. -/
def mapRows (table : Table key) (apply : Row → Row)
    (keeps : ∀ row, key (apply row) = key row) : Table key where
  rows := table.rows.map apply
  sorted := List.pairwise_map.mpr (table.sorted.imp fun below => by
    rwa [keeps, keeps])

def find? (table : Table key) (wanted : Key) : Option Row :=
  table.rows.find? (key · = wanted)

theorem mem_save {table : Table key} {row other : Row} :
    other ∈ table.save row ↔
      other = row ∨ (other ∈ table ∧ key other ≠ key row) := by
  simp only [mem_def, save, List.mem_append, List.mem_cons, List.mem_filter,
    decide_eq_true_eq, ne_eq, ← lt_or_lt_iff_ne]
  tauto

theorem mem_delete {table : Table key} {removed : Key} {row : Row} :
    row ∈ table.delete removed ↔ row ∈ table ∧ key row ≠ removed := by
  simp [mem_def, delete]

theorem mem_filter {table : Table key} {keep : Row → Bool} {row : Row} :
    row ∈ table.filter keep ↔ row ∈ table ∧ keep row = true := by
  simp [mem_def, filter]

theorem mem_mapRows {table : Table key} {apply : Row → Row}
    {keeps : ∀ row, key (apply row) = key row} {row : Row} :
    row ∈ table.mapRows apply keeps ↔ ∃ old ∈ table, apply old = row := by
  simp [mem_def, mapRows]

theorem eq_of_key_eq {table : Table key} {row other : Row}
    (member : row ∈ table) (otherMember : other ∈ table)
    (same : key row = key other) : row = other := by
  have distinct : (table.rows.map key).Nodup :=
    List.pairwise_map.mpr (table.sorted.imp ne_of_lt)
  exact List.inj_on_of_nodup_map distinct member otherMember same

theorem find?_eq_some {table : Table key} {wanted : Key} {row : Row} :
    table.find? wanted = some row ↔ row ∈ table ∧ key row = wanted := by
  constructor
  · intro found
    exact ⟨List.mem_of_find?_eq_some found, by simpa using List.find?_some found⟩
  · rintro ⟨member, rfl⟩
    cases found : table.find? (key row) with
    | none =>
        have missed := List.find?_eq_none.mp found row member
        exact absurd (decide_eq_true rfl) missed
    | some other =>
        have otherMember : other ∈ table := List.mem_of_find?_eq_some found
        have same : key other = key row := by
          simpa using List.find?_some found
        rw [eq_of_key_eq otherMember member same]

/-- The first row with a property is the one with the least key. -/
theorem find?_rows_eq_some {table : Table key} {keep : Row → Bool} {row : Row} :
    table.rows.find? keep = some row ↔
      row ∈ table ∧ keep row = true ∧
        ∀ other ∈ table, key other < key row → keep other = false := by
  rw [List.find?_eq_some_iff_append]
  constructor
  · rintro ⟨kept, before, behind, split, none⟩
    refine ⟨?_, kept, ?_⟩
    · rw [mem_def, split]
      exact List.mem_append_right _ List.mem_cons_self
    · intro other member below
      have sorted := table.sorted
      rw [mem_def, split] at member
      rw [split, List.pairwise_append, List.pairwise_cons] at sorted
      rcases List.mem_append.mp member with early | late
      · simpa using none other early
      · rcases List.mem_cons.mp late with rfl | later
        · exact absurd below (lt_irrefl _)
        · exact absurd below (sorted.2.1.1 other later).asymm
  · rintro ⟨member, kept, none⟩
    obtain ⟨before, behind, split⟩ := List.append_of_mem member
    refine ⟨kept, before, behind, split, ?_⟩
    intro other early
    have sorted := table.sorted
    rw [split, List.pairwise_append] at sorted
    have below := sorted.2.2 other early row List.mem_cons_self
    have listed : other ∈ table := by
      rw [mem_def, split]
      exact List.mem_append_left _ early
    rw [none other listed below]
    rfl

theorem find?_congr {table other : Table key} {wanted : Key}
    (same : ∀ row, key row = wanted → (row ∈ table ↔ row ∈ other)) :
    table.find? wanted = other.find? wanted := by
  apply Option.ext
  intro row
  rw [find?_eq_some, find?_eq_some]
  constructor
  · rintro ⟨member, named⟩
    exact ⟨(same row named).mp member, named⟩
  · rintro ⟨member, named⟩
    exact ⟨(same row named).mpr member, named⟩

theorem find?_save_self {table : Table key} {row : Row} :
    (table.save row).find? (key row) = some row :=
  find?_eq_some.mpr ⟨mem_save.mpr (.inl rfl), rfl⟩

theorem find?_save_ne {table : Table key} {row : Row} {wanted : Key}
    (differs : wanted ≠ key row) :
    (table.save row).find? wanted = table.find? wanted := by
  apply find?_congr
  rintro other rfl
  rw [mem_save]
  constructor
  · rintro (rfl | ⟨member, -⟩)
    · exact absurd rfl differs
    · exact member
  · exact fun member => .inr ⟨member, differs⟩

theorem find?_delete_self {table : Table key} {removed : Key} :
    (table.delete removed).find? removed = none := by
  rw [find?, List.find?_eq_none]
  intro row member
  simpa using (mem_delete.mp member).2

theorem find?_delete_ne {table : Table key} {removed wanted : Key}
    (differs : wanted ≠ removed) :
    (table.delete removed).find? wanted = table.find? wanted := by
  apply find?_congr
  rintro other rfl
  rw [mem_delete]
  exact and_iff_left differs

theorem find?_delete_eq_none {table : Table key} {removed wanted : Key}
    (absent : table.find? wanted = none) :
    (table.delete removed).find? wanted = none := by
  by_cases same : wanted = removed
  · rw [same, find?_delete_self]
  · rw [find?_delete_ne same, absent]

theorem find?_save_isSome {table : Table key} {row : Row} {wanted : Key}
    (present : (table.find? wanted).isSome = true) :
    ((table.save row).find? wanted).isSome = true := by
  by_cases same : wanted = key row
  · rw [same, find?_save_self, Option.isSome_some]
  · rw [find?_save_ne same, present]

theorem find?_eq_none {table : Table key} {wanted : Key} :
    table.find? wanted = none ↔ ∀ row ∈ table, key row ≠ wanted := by
  simp [find?, mem_def]

theorem ext_mem {table other : Table key}
    (same : ∀ row, row ∈ table ↔ row ∈ other) : table = other := by
  let ordered : Row → Row → Prop := fun left right => key left < key right
  have : Std.Asymm ordered := ⟨fun _ _ below above => lt_asymm below above⟩
  have sorted : table.rows.Pairwise ordered := table.sorted
  have rows : table.rows = other.rows :=
    sorted.eq_of_mem_iff other.sorted same
  cases table
  cases other
  congr

/-- Of two saves under one key the second one counts. -/
theorem save_save {table : Table key} {row other : Row}
    (same : key row = key other) :
    (table.save row).save other = table.save other := by
  apply ext_mem
  intro third
  rw [mem_save, mem_save, mem_save, same]
  constructor
  · rintro (rfl | ⟨rfl | old, differs⟩)
    · exact .inl rfl
    · exact absurd same differs
    · exact .inr old
  · rintro (rfl | old)
    · exact .inl rfl
    · exact .inr ⟨.inr old, old.2⟩

theorem filter_eq_self {table : Table key} {keep : Row → Bool} :
    table.filter keep = table ↔ ∀ row ∈ table, keep row = true := by
  constructor
  · intro same row member
    rw [← same] at member
    exact (mem_filter.mp member).2
  · intro kept
    apply ext_mem
    intro row
    rw [mem_filter]
    exact and_iff_left_of_imp (kept row)

theorem delete_eq_self {table : Table key} {removed : Key} :
    table.delete removed = table ↔ table.find? removed = none := by
  rw [find?_eq_none]
  refine filter_eq_self.trans ?_
  simp

theorem save_eq_self {table : Table key} {row : Row} (member : row ∈ table) :
    table.save row = table := by
  apply ext_mem
  intro other
  rw [mem_save]
  constructor
  · rintro (rfl | ⟨found, -⟩)
    · exact member
    · exact found
  · intro found
    by_cases same : key other = key row
    · exact .inl (eq_of_key_eq found member same)
    · exact .inr ⟨found, same⟩

theorem foldl_save_eq_self {table : Table key} {rows : List Row}
    (stored : ∀ row ∈ rows, row ∈ table) : rows.foldl save table = table := by
  induction rows with
  | nil => rfl
  | cons row rest induction =>
      rw [List.forall_mem_cons] at stored
      rw [List.foldl_cons, save_eq_self stored.1]
      exact induction stored.2

theorem nodup_keys {table : Table key} {keep : Row → Bool} :
    ((table.rows.filter keep).map key).Nodup :=
  List.pairwise_map.mpr ((table.sorted.filter keep).imp fun below => below.ne)

/-- A relation between any two rows of different keys. -/
def Across (table : Table key) (relation : Row → Row → Prop) : Prop :=
  ∀ left ∈ table, ∀ right ∈ table, key left ≠ key right → relation left right

section Across

variable {table : Table key} {relation : Row → Row → Prop}

theorem Across.save (across : table.Across relation)
    (symmetric : ∀ left right, relation left right → relation right left)
    {row : Row}
    (related : ∀ other ∈ table, key other ≠ key row → relation row other) :
    (table.save row).Across relation := by
  intro left leftMember right rightMember differ
  rcases mem_save.mp leftMember with rfl | ⟨leftOld, leftOther⟩
  · rcases mem_save.mp rightMember with rfl | ⟨rightOld, rightOther⟩
    · exact absurd rfl differ
    · exact related right rightOld rightOther
  · rcases mem_save.mp rightMember with rfl | ⟨rightOld, -⟩
    · exact symmetric right left (related left leftOld leftOther)
    · exact across left leftOld right rightOld differ

theorem Across.delete (across : table.Across relation) {removed : Key} :
    (table.delete removed).Across relation := by
  intro left leftMember right rightMember
  exact across left (mem_delete.mp leftMember).1 right
    (mem_delete.mp rightMember).1

/-- What the rows give in turn is pairwise related when this holds of each row
and of any two of them. -/
theorem pairwise_flatMap_iff {Item : Type*} {items : Row → List Item}
    {related : Item → Item → Prop}
    (symmetric : ∀ left right, related left right → related right left) :
    (table.rows.flatMap items).Pairwise related ↔
      (∀ row ∈ table, (items row).Pairwise related) ∧
        table.Across fun left right =>
          ∀ item ∈ items left, ∀ other ∈ items right, related item other := by
  rw [List.pairwise_flatMap]
  refine and_congr_right fun _ => ⟨?_, ?_⟩
  · intro ordered left leftMember right rightMember differ
    have either := List.pairwise_iff_getElem.mp ordered
    obtain ⟨first, firstInside, rfl⟩ := List.getElem_of_mem leftMember
    obtain ⟨second, secondInside, rfl⟩ := List.getElem_of_mem rightMember
    rcases Nat.lt_trichotomy first second with before | rfl | after
    · exact either first second firstInside secondInside before
    · exact absurd rfl differ
    · intro item member other otherMember
      exact symmetric other item
        (either second first secondInside firstInside after other otherMember
          item member)
  · intro across
    exact table.sorted.imp_of_mem fun leftMember rightMember below =>
      across _ leftMember _ rightMember below.ne

end Across

/-- A row that is saved in its own place. -/
theorem save_delete_eq_self {table : Table key} {row : Row}
    (member : row ∈ table) : (table.delete (key row)).save row = table := by
  rw [← save_eq_self member]
  apply ext_mem
  intro other
  simp only [mem_save, mem_delete]
  tauto

end Table

namespace Table

variable {Row Key : Type*} [LinearOrder Key] {key : Row → Key}

theorem mem_foldl_save {table : Table key} {rows : List Row} {row : Row}
    (distinct : (rows.map key).Nodup) :
    row ∈ rows.foldl save table ↔
      row ∈ rows ∨ row ∈ table ∧ key row ∉ rows.map key := by
  induction rows generalizing table with
  | nil => simp
  | cons head rest induction =>
      rw [List.map_cons, List.nodup_cons] at distinct
      rw [List.foldl_cons, induction distinct.2, mem_save]
      simp only [List.mem_cons, List.map_cons, not_or]
      constructor
      · rintro (member | ⟨rfl | ⟨member, differs⟩, later⟩)
        · exact .inl (.inr member)
        · exact .inl (.inl rfl)
        · exact .inr ⟨member, differs, later⟩
      · rintro ((rfl | member) | ⟨member, differs, later⟩)
        · exact .inr ⟨.inl rfl, distinct.1⟩
        · exact .inl member
        · exact .inr ⟨.inr ⟨member, differs⟩, later⟩

theorem mem_foldl_delete {table : Table key} {removed : List Key} {row : Row} :
    row ∈ removed.foldl delete table ↔ row ∈ table ∧ key row ∉ removed := by
  induction removed generalizing table with
  | nil => simp
  | cons head rest induction =>
      rw [List.foldl_cons, induction, mem_delete, List.mem_cons, not_or,
        and_assoc]

/-- Among the rows saved one after another the last one of a key is found. -/
theorem find?_foldl_save {table : Table key} {rows : List Row} {wanted : Key} :
    (rows.foldl save table).find? wanted =
      (rows.reverse.find? (key · = wanted)).or (table.find? wanted) := by
  induction rows generalizing table with
  | nil => rfl
  | cons row rest induction =>
      rw [List.foldl_cons, induction, List.reverse_cons, List.find?_append,
        Option.or_assoc]
      congr 1
      by_cases same : wanted = key row
      · subst same
        simp [find?_save_self]
      · rw [find?_save_ne same]
        simp [Ne.symm same]

theorem find?_foldl_save_of_forall {table : Table key} {rows : List Row}
    {wanted : Key} (others : ∀ row ∈ rows, key row ≠ wanted) :
    (rows.foldl save table).find? wanted = table.find? wanted := by
  rw [find?_foldl_save, List.find?_eq_none.mpr, Option.none_or]
  intro row member
  simpa using others row (List.mem_reverse.mp member)

theorem find?_mapRows {table : Table key} {apply : Row → Row}
    {keeps : ∀ row, key (apply row) = key row} {wanted : Key} :
    (table.mapRows apply keeps).find? wanted =
      (table.find? wanted).map apply := by
  simp only [find?, mapRows, List.find?_map]
  congr 2
  funext row
  simp [keeps]

/-- A saved row takes the place of the one it replaces. -/
theorem mapM_save {table : Table key} {row old : Row}
    (found : table.find? (key row) = some old) {convert : Row → Option Image}
    (same : convert row = convert old) :
    (table.save row).rows.mapM convert = table.rows.mapM convert := by
  let apply : Row → Row := fun other => if key other = key row then row else other
  have keeps : ∀ other, key (apply other) = key other := by
    intro other
    by_cases here : key other = key row
    · simp [apply, here]
    · simp [apply, here]
  obtain ⟨member, sameKey⟩ := find?_eq_some.mp found
  have saved : table.save row = table.mapRows apply keeps := by
    apply ext_mem
    intro other
    rw [mem_save, mem_mapRows]
    constructor
    · rintro (rfl | ⟨inTable, differs⟩)
      · exact ⟨old, member, if_pos sameKey⟩
      · exact ⟨other, inTable, if_neg differs⟩
    · rintro ⟨source, inTable, rfl⟩
      by_cases here : key source = key row
      · exact .inl (if_pos here)
      · rw [show apply source = source from if_neg here]
        exact .inr ⟨inTable, here⟩
  rw [saved, mapRows, List.mapM_map]
  apply mapM_congr_option
  intro other inTable
  rw [Function.comp_apply]
  by_cases here : key other = key row
  · rw [show apply other = row from if_pos here, same,
      eq_of_key_eq inTable member (here.trans sameKey.symm)]
  · rw [show apply other = other from if_neg here]

end Table

/-- The last match among rows in the order of a key has the greatest key. -/
theorem find?_reverse_eq_some {Row Key : Type*} [LinearOrder Key]
    {key : Row → Key} {wanted : Row → Bool} {row : Row} {rows : List Row}
    (sorted : rows.Pairwise fun left right => key left < key right) :
    rows.reverse.find? wanted = some row ↔
      row ∈ rows ∧ wanted row = true ∧
        ∀ other ∈ rows, wanted other = true → key other ≤ key row := by
  induction rows with
  | nil => simp
  | cons head tail induction =>
      obtain ⟨first, rest⟩ := List.pairwise_cons.mp sorted
      rw [List.reverse_cons, List.find?_append, Option.or_eq_some_iff,
        induction rest]
      constructor
      · rintro (⟨member, matched, greatest⟩ | ⟨missed, found⟩)
        · refine ⟨List.mem_cons_of_mem head member, matched, ?_⟩
          intro other otherMember otherMatched
          rcases List.mem_cons.mp otherMember with rfl | later
          · exact (first row member).le
          · exact greatest other later otherMatched
        · have isHead : row = head :=
            (List.mem_singleton.mp (List.mem_of_find?_eq_some found))
          subst isHead
          refine ⟨List.mem_cons_self, List.find?_some found, ?_⟩
          intro other otherMember otherMatched
          rcases List.mem_cons.mp otherMember with rfl | later
          · exact le_rfl
          · exact absurd otherMatched
              (List.find?_eq_none.mp missed other (List.mem_reverse.mpr later))
      · rintro ⟨member, matched, greatest⟩
        rcases List.mem_cons.mp member with rfl | later
        · refine .inr ⟨List.find?_eq_none.mpr ?_, by simp [matched]⟩
          intro other otherMember otherMatched
          have inTail := List.mem_reverse.mp otherMember
          exact absurd (first other inTail) (not_lt.mpr
            (greatest other (List.mem_cons_of_mem row inTail) otherMatched))
        · exact .inl ⟨later, matched, fun other inTail otherMatched =>
            greatest other (List.mem_cons_of_mem head inTail) otherMatched⟩

theorem pairwise_snd_zipIdx {Item : Type*} (items : List Item) :
    items.zipIdx.Pairwise fun left right => left.2 < right.2 := by
  apply List.pairwise_map.mp
  rw [List.zipIdx_map_snd]
  exact List.pairwise_lt_range' 

end VpnUi.Foundation
