import Mathlib.Algebra.Ring.Nat
import Mathlib.Data.List.AList

namespace VpnUi.Foundation

/-! Finite maps with non-dependent values, and the bulk deletion a loop over a
map performs. -/

abbrev KeyMap (Key Value : Type*) := AList fun _ : Key => Value

namespace KeyMap

variable {Key Value : Type*} [DecidableEq Key]

/-- Drop every entry whose key or value fails `keep`. -/
def retain (entries : KeyMap Key Value) (keep : Key → Value → Bool) :
    KeyMap Key Value where
  entries := entries.entries.filter fun entry => keep entry.1 entry.2
  nodupKeys := entries.nodupKeys.sublist List.filter_sublist

theorem lookup_retain_eq_some {entries : KeyMap Key Value}
    {keep : Key → Value → Bool} {key : Key} {value : Value} :
    (entries.retain keep).lookup key = some value ↔
      entries.lookup key = some value ∧ keep key value = true := by
  rw [← Option.mem_def, ← Option.mem_def, AList.mem_lookup_iff,
    AList.mem_lookup_iff]
  simp [retain]

theorem lookup_insert_eq_some {entries : KeyMap Key Value} {key other : Key}
    {value found : Value} :
    (entries.insert key value).lookup other = some found ↔
      (other = key ∧ found = value) ∨
        (other ≠ key ∧ entries.lookup other = some found) := by
  by_cases same : other = key
  · subst same
    simp [AList.lookup_insert, eq_comm]
  · simp [AList.lookup_insert_ne same, same]

theorem lookup_erase_eq_some {entries : KeyMap Key Value} {key other : Key}
    {found : Value} :
    (entries.erase key).lookup other = some found ↔
      other ≠ key ∧ entries.lookup other = some found := by
  by_cases same : other = key
  · subst same
    simp [AList.lookup_erase]
  · simp [AList.lookup_erase_ne same, same]

theorem mem_entries_iff {entries : KeyMap Key Value} {key : Key}
    {value : Value} :
    (⟨key, value⟩ : Sigma fun _ => Value) ∈ entries.entries ↔
      entries.lookup key = some value := by
  rw [← AList.mem_lookup_iff, Option.mem_def]

/-- Add a measure of the values up. -/
def sumOver (entries : KeyMap Key Value) (measure : Value → Nat) : Nat :=
  (entries.entries.map fun entry => measure entry.2).sum

/-- What a lookup finds, measured. -/
def measureAt (entries : KeyMap Key Value) (measure : Value → Nat)
    (key : Key) : Nat :=
  (entries.lookup key).elim 0 measure

omit [DecidableEq Key] in
@[simp] theorem sumOver_empty {measure : Value → Nat} :
    (∅ : KeyMap Key Value).sumOver measure = 0 := rfl

theorem sumOver_erase (entries : KeyMap Key Value) (measure : Value → Nat)
    (key : Key) :
    sumOver (entries.erase key) measure + entries.measureAt measure key =
      entries.sumOver measure := by
  obtain ⟨list, nodup⟩ := entries
  change ((list.kerase key).map fun entry => measure entry.2).sum +
      (list.dlookup key).elim 0 measure =
    (list.map fun entry => measure entry.2).sum
  clear nodup
  induction list with
  | nil => rfl
  | cons head tail induction =>
      obtain ⟨found, value⟩ := head
      by_cases same : key = found
      · subst same
        have erased : List.kerase key
            ((⟨key, value⟩ : Sigma fun _ : Key => Value) :: tail) = tail :=
          List.kerase_cons_eq rfl
        have read : List.dlookup key
            ((⟨key, value⟩ : Sigma fun _ : Key => Value) :: tail) =
              some value := List.dlookup_cons_eq ..
        rw [erased, read, List.map_cons, List.sum_cons, Option.elim_some,
          Nat.add_comm]
      · have skipped : List.kerase key
            ((⟨found, value⟩ : Sigma fun _ : Key => Value) :: tail) =
              ⟨found, value⟩ :: List.kerase key tail :=
          List.kerase_cons_ne same
        have passed : List.dlookup key
            ((⟨found, value⟩ : Sigma fun _ : Key => Value) :: tail) =
              List.dlookup key tail :=
          List.dlookup_cons_ne tail
            (⟨found, value⟩ : Sigma fun _ : Key => Value) same
        rw [skipped, passed]
        simp only [List.map_cons, List.sum_cons]
        omega

theorem sumOver_insert (entries : KeyMap Key Value) (measure : Value → Nat)
    (key : Key) (value : Value) :
    sumOver (entries.insert key value) measure +
        entries.measureAt measure key =
      measure value + entries.sumOver measure := by
  have erased := sumOver_erase entries measure key
  have inserted : sumOver (entries.insert key value) measure =
      measure value + sumOver (entries.erase key) measure := rfl
  omega

/-- Give every key the same value. -/
def fill (entries : KeyMap Key Value) (value : Value) : KeyMap Key Value where
  entries := entries.entries.map fun entry => ⟨entry.1, value⟩
  nodupKeys := by
    have keys : (entries.entries.map fun entry =>
        (⟨entry.1, value⟩ : Sigma fun _ : Key => Value)).keys =
          entries.entries.keys := by
      simp [List.keys, Function.comp_def]
    rw [List.NodupKeys, keys]
    exact entries.nodupKeys

omit [DecidableEq Key] in
theorem sumOver_fill (entries : KeyMap Key Value) {measure : Value → Nat}
    {value : Value} (zero : measure value = 0) :
    (entries.fill value).sumOver measure = 0 := by
  simp [sumOver, fill, zero, Function.comp_def]

end KeyMap

end VpnUi.Foundation
