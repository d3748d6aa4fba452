import VpnUi.Geo.Downloads

namespace VpnUi.Geo

open Foundation

/-! Rows name different files, and every call keeps it so. -/

def CustomGeoResource.fileName (row : CustomGeoResource) : String :=
  fileNameFor row.type row.aliasName

namespace GeoState

/-- What every call keeps. -/
structure WellFormed (state : GeoState) : Prop where
  typed : ∀ row ∈ state.rows, ValidType row.type
  placed : ∀ row ∈ state.rows, row.localPath = row.fileName
  below : ∀ row ∈ state.rows, row.id < state.nextId
  distinct : state.rows.Across fun left right =>
    ¬ (left.type = right.type ∧ left.aliasName = right.aliasName)

variable {state : GeoState}

theorem taken_eq_false {id : Nat} {type aliasName : String} :
    state.taken id type aliasName = false ↔
      ∀ row ∈ state.rows, row.id ≠ id →
        ¬ (type = row.type ∧ aliasName = row.aliasName) := by
  simp only [taken, List.any_eq_false, Bool.and_eq_true, decide_eq_true_eq,
    Table.mem_def]
  refine forall₂_congr fun row _ => ?_
  tauto

namespace WellFormed

variable (wellFormed : state.WellFormed)

include wellFormed

theorem withBin (bin : BinFolder) : (state.withBin bin).WellFormed :=
  ⟨wellFormed.typed, wellFormed.placed, wellFormed.below, wellFormed.distinct⟩

theorem resolveDestPath_eq {row : CustomGeoResource} (member : row ∈ state.rows) :
    resolveDestPath row = row.fileName := by
  unfold resolveDestPath
  rw [wellFormed.placed row member, ite_eq_left_iff]
  intro empty
  rfl

theorem fileName_ne {row other : CustomGeoResource} (member : row ∈ state.rows)
    (otherMember : other ∈ state.rows) (differ : row.id ≠ other.id) :
    row.fileName ≠ other.fileName := by
  intro same
  exact wellFormed.distinct row member other otherMember differ
    (fileNameFor_inj (wellFormed.typed row member)
      (wellFormed.typed other otherMember) same)

theorem fileName_ne_of_not_taken {row : CustomGeoResource} {id : Nat}
    {type aliasName : String} (valid : ValidType type)
    (free : state.taken id type aliasName = false) (member : row ∈ state.rows)
    (differ : row.id ≠ id) : row.fileName ≠ fileNameFor type aliasName := by
  intro same
  obtain ⟨sameType, sameAlias⟩ :=
    fileNameFor_inj (wellFormed.typed row member) valid same
  exact taken_eq_false.mp free row member differ
    ⟨sameType.symm, sameAlias.symm⟩

theorem save {row : CustomGeoResource} {nextId : Nat} (bin : BinFolder)
    (valid : ValidType row.type) (placed : row.localPath = row.fileName)
    (below : row.id < nextId) (later : state.nextId ≤ nextId)
    (free : ∀ other ∈ state.rows, other.id ≠ row.id →
      ¬ (row.type = other.type ∧ row.aliasName = other.aliasName)) :
    (GeoState.mk (state.rows.save row) nextId bin).WellFormed where
  typed := by
    intro other member
    rcases Table.mem_save.mp member with rfl | ⟨old, -⟩
    · exact valid
    · exact wellFormed.typed other old
  placed := by
    intro other member
    rcases Table.mem_save.mp member with rfl | ⟨old, -⟩
    · exact placed
    · exact wellFormed.placed other old
  below := by
    intro other member
    rcases Table.mem_save.mp member with rfl | ⟨old, -⟩
    · exact below
    · exact (wellFormed.below other old).trans_le later
  distinct := by
    refine wellFormed.distinct.save (fun left right differ same => ?_) free
    exact differ ⟨same.1.symm, same.2.symm⟩

theorem delete (id : Nat) (bin : BinFolder) :
    (GeoState.mk (state.rows.delete id) state.nextId bin).WellFormed where
  typed row member := wellFormed.typed row (Table.mem_delete.mp member).1
  placed row member := wellFormed.placed row (Table.mem_delete.mp member).1
  below row member := wellFormed.below row (Table.mem_delete.mp member).1
  distinct := wellFormed.distinct.delete

end WellFormed

/-- No resources yet, in any folder. -/
def start (bin : BinFolder) : GeoState := ⟨Table.empty, 1, bin⟩

theorem start_wellFormed (bin : BinFolder) : (start bin).WellFormed where
  typed _ member := absurd member Table.not_mem_empty
  placed _ member := absurd member Table.not_mem_empty
  below _ member := absurd member Table.not_mem_empty
  distinct _ member := absurd member Table.not_mem_empty

end GeoState

/-! The calls keep it. -/

section Calls

variable {around : Surroundings} {state : GeoState} {form : GeoForm}
variable {url : String} {id : Nat} {row : CustomGeoResource}

theorem checkForm_eq_ok (checked : checkForm around form = .ok url) :
    ValidType form.type ∧ around.sanitizeURL form.url = .ok url := by
  unfold checkForm at checked
  cases typed : validateType form.type with
  | error error => rw [typed] at checked; cases checked
  | ok =>
      rw [typed] at checked
      cases named : validateAlias form.aliasName with
      | error error => rw [named] at checked; cases checked
      | ok =>
          rw [named] at checked
          cases cleaned : around.sanitizeURL form.url with
          | error error => rw [cleaned] at checked; cases checked
          | ok same =>
              rw [cleaned] at checked
              cases checked
              exact ⟨validateType_eq_ok.mp typed, rfl⟩

theorem firstRow_eq_ok (first : firstRow around state id = .ok row) :
    row ∈ state.rows ∧ row.id = id := by
  unfold firstRow at first
  split at first
  · cases first
  · cases found : state.rows.find? id with
    | none => rw [found] at first; cases first
    | some other =>
        rw [found] at first
        cases first
        exact Table.find?_eq_some.mp found

theorem create_wellFormed (wellFormed : state.WellFormed) :
    (create around state form).2.WellFormed := by
  unfold create
  cases checked : checkForm around form with
  | error error => exact wellFormed
  | ok url =>
      dsimp only
      split
      · exact wellFormed
      · split
        · exact wellFormed.withBin _
        · split
          · exact wellFormed.withBin _
          · rename_i saved
            rw [not_or] at saved
            refine wellFormed.save _ (checkForm_eq_ok checked).1 rfl
              (Nat.lt_succ_self _) (Nat.le_succ _) ?_
            exact GeoState.taken_eq_false.mp (Bool.eq_false_of_not_eq_true saved.2)

theorem update_wellFormed (wellFormed : state.WellFormed) :
    (update around state id form).2.WellFormed := by
  unfold update
  cases first : firstRow around state id with
  | error error => exact wellFormed
  | ok cur =>
      obtain ⟨member, rfl⟩ := firstRow_eq_ok first
      dsimp only
      cases checked : checkForm around form with
      | error error => exact wellFormed
      | ok url =>
          dsimp only
          split
          · exact wellFormed
          · split
            · exact wellFormed.withBin _
            · split
              · exact wellFormed.withBin _
              · rename_i saved
                rw [not_or] at saved
                refine wellFormed.save _ (checkForm_eq_ok checked).1 rfl
                  (wellFormed.below cur member) (Nat.le_refl _) ?_
                exact GeoState.taken_eq_false.mp (Bool.eq_false_of_not_eq_true saved.2)

theorem delete_wellFormed (wellFormed : state.WellFormed) :
    (delete around state id).2.WellFormed := by
  unfold delete
  split
  · exact wellFormed
  · split
    · exact wellFormed
    · exact wellFormed.delete id _

theorem applyDownloadAndPersist_wellFormed (wellFormed : state.WellFormed) :
    (applyDownloadAndPersist around state id).2.WellFormed := by
  unfold applyDownloadAndPersist
  cases first : firstRow around state id with
  | error error => exact wellFormed
  | ok row =>
      obtain ⟨member, rfl⟩ := firstRow_eq_ok first
      dsimp only
      split
      · exact wellFormed
      · split
        · exact wellFormed.withBin _
        · split
          · exact wellFormed.withBin _
          · refine wellFormed.save _ (wellFormed.typed row member) rfl
              (wellFormed.below row member) (Nat.le_refl _) ?_
            intro other otherMember differ
            exact wellFormed.distinct row member other otherMember differ.symm

end Calls

theorem geoMachine_wellFormed (state : GeoState)
    (event : GeoCall × Surroundings) (next : GeoState)
    (wellFormed : state.WellFormed)
    (stepped : geoMachine.step state event = some next) : next.WellFormed := by
  cases stepped
  obtain ⟨call, around⟩ := event
  cases call with
  | create form => exact create_wellFormed wellFormed
  | update id form => exact update_wellFormed wellFormed
  | delete id => exact delete_wellFormed wellFormed
  | triggerUpdate id => exact applyDownloadAndPersist_wellFormed wellFormed

end VpnUi.Geo
