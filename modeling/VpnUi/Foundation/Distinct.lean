import Mathlib.Data.List.Nodup

namespace VpnUi.Foundation

/-! What the list of first occurrences contains. -/

variable {Item : Type*} [DecidableEq Item]

theorem nodup_eraseDups (items : List Item) : items.eraseDups.Nodup := by
  cases items with
  | nil => simp
  | cons head tail =>
      rw [List.eraseDups_cons, List.nodup_cons, List.mem_eraseDups]
      exact ⟨by simp, nodup_eraseDups (tail.filter fun other => !other == head)⟩
termination_by items.length
decreasing_by
  exact Nat.lt_succ_of_le (List.length_filter_le _ _)

theorem eraseDups_of_nodup {items : List Item} (nodup : items.Nodup) :
    items.eraseDups = items := by
  induction items with
  | nil => rfl
  | cons head tail induction =>
      obtain ⟨absent, rest⟩ := List.nodup_cons.mp nodup
      have kept : (tail.filter fun other => !other == head) = tail := by
        apply List.filter_eq_self.mpr
        intro other member
        simpa using fun same : other = head => absent (same ▸ member)
      rw [List.eraseDups_cons, kept, induction rest]

/-- Fresh items are appended as they come. -/
theorem eraseDups_append_fresh {items fresh : List Item}
    (nodup : fresh.Nodup) (apart : ∀ item ∈ fresh, item ∉ items) :
    (items ++ fresh).eraseDups = items.eraseDups ++ fresh := by
  have kept : fresh.removeAll items = fresh := by
    apply List.filter_eq_self.mpr
    intro item member
    simpa using apart item member
  rw [List.eraseDups_append, kept, eraseDups_of_nodup nodup]

theorem eraseDups_filter (keep : Item → Bool) (items : List Item) :
    (items.filter keep).eraseDups = items.eraseDups.filter keep := by
  cases items with
  | nil => rfl
  | cons head tail =>
      have induction := eraseDups_filter keep
        (tail.filter fun other => !other == head)
      rw [List.eraseDups_cons, List.filter_cons, List.filter_cons]
      split
      · rw [List.eraseDups_cons, ← induction, List.filter_filter,
          List.filter_filter]
        simp only [Bool.and_comm]
      · next dropped =>
          rw [← induction, List.filter_filter]
          congr 1
          refine List.filter_congr fun other _ => ?_
          by_cases same : other = head
          · simp [same, dropped]
          · simp [same]
termination_by items.length
decreasing_by
  exact Nat.lt_succ_of_le (List.length_filter_le _ _)

section Order

variable {items others : List Item} {lists : List (List Item)}

theorem eraseDups_append_of_prefix (first : items.eraseDups <+: others.eraseDups) :
    (items ++ others).eraseDups = others.eraseDups := by
  obtain ⟨fresh, split⟩ := first
  have nodup : (items.eraseDups ++ fresh).Nodup := split ▸ nodup_eraseDups others
  have apart := (List.nodup_append.mp nodup).2.2
  rw [List.eraseDups_append, List.removeAll, eraseDups_filter, ← split,
    List.filter_append, List.filter_eq_nil_iff.mpr, List.filter_eq_self.mpr,
    List.nil_append]
  · intro item member
    rw [Bool.not_eq_true', List.elem_eq_mem, decide_eq_false_iff_not]
    intro inItems
    exact apart item (List.mem_eraseDups.mpr inItems) item member rfl
  · intro item member
    simpa using List.mem_eraseDups.mp member

theorem eraseDups_append_of_suffix (second : others.eraseDups <+: items.eraseDups) :
    (items ++ others).eraseDups = items.eraseDups := by
  have inside : others.removeAll items = [] := by
    refine List.filter_eq_nil_iff.mpr fun item member => ?_
    have kept := second.subset (List.mem_eraseDups.mpr member)
    simpa using List.mem_eraseDups.mp kept
  rw [List.eraseDups_append, inside, List.eraseDups_nil, List.append_nil]

theorem prefix_eraseDups_append :
    items.eraseDups <+: (items ++ others).eraseDups :=
  ⟨_, List.eraseDups_append.symm⟩

/-- The first occurrences of one list go on with those of the other. -/
def Nested (items others : List Item) : Prop :=
  items.eraseDups <+: others.eraseDups ∨ others.eraseDups <+: items.eraseDups

/-- Of nested lists the longest one counts. -/
theorem exists_eraseDups_flatten (given : lists ≠ [])
    (nested : ∀ items ∈ lists, ∀ others ∈ lists, Nested items others) :
    ∃ longest ∈ lists, lists.flatten.eraseDups = longest.eraseDups ∧
      ∀ items ∈ lists, items.eraseDups <+: longest.eraseDups := by
  induction lists with
  | nil => exact absurd rfl given
  | cons items lists induction =>
      by_cases last : lists = []
      · subst last
        refine ⟨items, List.mem_singleton_self items, by simp, ?_⟩
        intro others member
        obtain rfl := List.mem_singleton.mp member
        exact List.prefix_rfl
      · obtain ⟨longest, member, flat, bound⟩ := induction last
          fun others inside more moreInside =>
            nested others (List.mem_cons_of_mem _ inside) more
              (List.mem_cons_of_mem _ moreInside)
        rw [List.flatten_cons]
        rcases nested items List.mem_cons_self longest
          (List.mem_cons_of_mem _ member) with before | behind
        · refine ⟨longest, List.mem_cons_of_mem _ member, ?_, ?_⟩
          · rw [← flat]
            exact eraseDups_append_of_prefix (flat ▸ before)
          · exact List.forall_mem_cons.mpr ⟨before, bound⟩
        · refine ⟨items, List.mem_cons_self, ?_, ?_⟩
          · exact eraseDups_append_of_suffix (flat ▸ behind)
          · refine List.forall_mem_cons.mpr ⟨List.prefix_rfl, ?_⟩
            exact fun others inside => (bound others inside).trans behind

/-- Lists are gathered alike in any order precisely if they are nested. -/
theorem eraseDups_flatten_perm_iff :
    (∀ arranged : List (List Item), arranged.Perm lists →
        arranged.flatten.eraseDups = lists.flatten.eraseDups) ↔
      ∀ items ∈ lists, ∀ others ∈ lists, Nested items others := by
  constructor
  · intro alike items member others otherMember
    by_cases same : items = others
    · exact .inl (same ▸ List.prefix_rfl)
    · have split := List.perm_cons_erase member
      have later : others ∈ lists.erase items :=
        (List.mem_erase_of_ne (Ne.symm same)).mpr otherMember
      have arranged : lists.Perm
          (items :: others :: (lists.erase items).erase others) :=
        split.trans ((List.perm_cons_erase later).cons items)
      have first := alike _ arranged.symm
      have second := alike _ ((List.Perm.swap items others _).trans
        arranged.symm)
      rw [List.flatten_cons, List.flatten_cons] at first second
      have before : items.eraseDups <+: lists.flatten.eraseDups := by
        rw [← first]
        exact prefix_eraseDups_append
      have behind : others.eraseDups <+: lists.flatten.eraseDups := by
        rw [← second]
        exact prefix_eraseDups_append
      exact List.prefix_or_prefix_of_prefix before behind
  · intro nested arranged permuted
    by_cases empty : lists = []
    · rw [empty] at permuted ⊢
      rw [permuted.eq_nil]
    · have given : arranged ≠ [] := fun none =>
        empty (none ▸ permuted).symm.eq_nil
      obtain ⟨longest, member, flat, bound⟩ :=
        exists_eraseDups_flatten empty nested
      obtain ⟨other, otherMember, otherFlat, otherBound⟩ :=
        exists_eraseDups_flatten given fun items inside others othersInside =>
          nested items (permuted.mem_iff.mp inside) others
            (permuted.mem_iff.mp othersInside)
      rw [flat, otherFlat]
      have shorter := bound other (permuted.mem_iff.mp otherMember)
      have longer := otherBound longest (permuted.mem_iff.mpr member)
      exact shorter.eq_of_length_le longer.length_le

end Order

omit [DecidableEq Item] in
theorem mem_eraseIdx_of_nodup {items : List Item} (nodup : items.Nodup)
    {index : Nat} {item : Item} :
    item ∈ items.eraseIdx index ↔
      item ∈ items ∧ items[index]? ≠ some item := by
  rw [List.mem_eraseIdx_iff_getElem?]
  constructor
  · rintro ⟨other, differs, found⟩
    refine ⟨List.mem_of_getElem? found, fun here => differs ?_⟩
    obtain ⟨otherIn, same⟩ := List.getElem?_eq_some_iff.mp found
    obtain ⟨indexIn, sameIndex⟩ := List.getElem?_eq_some_iff.mp here
    exact (nodup.getElem_inj_iff).mp (same.trans sameIndex.symm)
  · rintro ⟨member, elsewhere⟩
    obtain ⟨other, found⟩ := List.mem_iff_getElem?.mp member
    exact ⟨other, fun same => elsewhere (same ▸ found), found⟩

section Dropped

variable {Value : Type*} {items : List Value} {keep : Value → Bool}
  {index : Nat} {item : Value}

/-- An item that is not kept may as well be erased before. -/
theorem filter_eraseIdx (found : items[index]? = some item)
    (dropped : keep item = false) :
    (items.eraseIdx index).filter keep = items.filter keep := by
  induction items generalizing index with
  | nil => cases found
  | cons head tail induction =>
      cases index with
      | zero =>
          obtain rfl := Option.some.inj found
          rw [List.eraseIdx_cons_zero, List.filter_cons, dropped]
          rfl
      | succ index =>
          rw [List.eraseIdx_cons_succ, List.filter_cons, List.filter_cons,
            induction found]

/-- A filter drops one item and no other. -/
theorem filter_eq_eraseIdx_iff (found : items[index]? = some item)
    (dropped : keep item = false) :
    items.filter keep = items.eraseIdx index ↔
      ∀ (other : Nat) (value : Value), items[other]? = some value →
        keep value = false → other = index := by
  rw [← filter_eraseIdx found dropped, List.filter_eq_self]
  constructor
  · intro kept other value stored gone
    by_contra differs
    have member : value ∈ items.eraseIdx index :=
      List.mem_eraseIdx_iff_getElem?.mpr ⟨other, differs, stored⟩
    rw [kept value member] at gone
    cases gone
  · intro only value member
    obtain ⟨other, differs, stored⟩ :=
      List.mem_eraseIdx_iff_getElem?.mp member
    by_contra gone
    exact differs (only other value stored (Bool.eq_false_iff.mpr gone))

/-- The one item that a filter drops. -/
theorem filter_not_eq_singleton (found : items[index]? = some item)
    (dropped : keep item = false)
    (only : ∀ (other : Nat) (value : Value), items[other]? = some value →
      keep value = false → other = index) :
    items.filter (fun value => !keep value) = [item] := by
  induction items generalizing index with
  | nil => cases found
  | cons head tail induction =>
      cases index with
      | zero =>
          obtain rfl := Option.some.inj found
          rw [List.filter_cons_of_pos (by simp [dropped]),
            List.filter_eq_nil_iff.mpr]
          intro value member
          obtain ⟨other, stored⟩ := List.mem_iff_getElem?.mp member
          intro gone
          cases only (other + 1) value stored (by simpa using gone)
      | succ index =>
          have kept : keep head = true := by
            by_contra gone
            cases only 0 head rfl (Bool.eq_false_iff.mpr gone)
          rw [List.filter_cons_of_neg (by simp [kept])]
          refine induction found fun other value stored gone => ?_
          exact Nat.succ.inj (only (other + 1) value stored gone)

end Dropped

end VpnUi.Foundation
