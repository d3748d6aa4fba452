import VpnUi.Geo.Resources

namespace VpnUi.Geo

open Foundation

/-! Rows and files stay consistent, and exactly when. -/

def GeoCall.form? : GeoCall → Option GeoForm
  | .create form | .update _ form => some form
  | .delete _ | .triggerUpdate _ => none

/-- The resource a call names. -/
def GeoCall.id? : GeoCall → Option Nat
  | .create _ => none
  | .update id _ | .delete id | .triggerUpdate id => some id

/-- The file of a row is large enough and is what the URL of the row serves. -/
def Delivered (around : Surroundings) (row : CustomGeoResource)
    (bin : BinFolder) : Prop :=
  ∃ content, bin.content row.fileName = some content ∧
    minDatBytes ≤ content.length ∧ content = around.served row.url

/-- What a call may do. -/
structure Consistent (state : GeoState) (call : GeoCall)
    (around : Surroundings) (result : Except CustomGeoError Unit × GeoState) :
    Prop where
  delivered : ∀ form, call.form? = some form → result.1 = .ok () →
    ∃ row ∈ result.2.rows, row.type = form.type ∧
      row.aliasName = form.aliasName ∧ Delivered around row result.2.bin
  unchanged : ∀ error, result.1 = .error error →
    result.2.rows = state.rows ∧ result.2.bin.content = state.bin.content
  others : ∀ row ∈ state.rows, call.id? ≠ some row.id →
    result.2.bin.content row.fileName = state.bin.content row.fileName

/-! The exact condition. -/

/-- The file is what the URL serves before the call. -/
def Current (around : Surroundings) (url name : String) (bin : BinFolder) : Prop :=
  bin.content name = some (around.served url)

/-- A file is removed before the download to another name. -/
def Lost (around : Surroundings) (oldName name : String) (bin : BinFolder) : Prop :=
  oldName ≠ name ∧ around.removes = true ∧ bin.content oldName ≠ none

section Safe

variable (around : Surroundings) (state : GeoState)

def SafeCreate (form : GeoForm) (url : String) : Prop :=
  let name := fileNameFor form.type form.aliasName
  let saved := around.writes = true ∧
    state.taken state.nextId form.type form.aliasName = false
  match fetched around url name "" state.bin with
  | .failed => True
  | .kept =>
      (saved → Current around url name state.bin) ∧
        (¬ saved → around.removes = false)
  | .stored =>
      ¬ saved →
        if around.removes then state.bin.content name = none
        else Current around url name state.bin

def SafeUpdate (cur : CustomGeoResource) (form : GeoForm) (url : String) : Prop :=
  let name := fileNameFor form.type form.aliasName
  let saved := around.writes = true ∧
    state.taken cur.id form.type form.aliasName = false
  let lost := Lost around cur.fileName name state.bin
  match fetched around url name cur.lastModified state.bin with
  | .failed => ¬ lost
  | .kept =>
      (saved → Current around url name state.bin) ∧ (¬ saved → ¬ lost)
  | .stored => ¬ saved → ¬ lost ∧ Current around url name state.bin

def SafeTriggerUpdate (row : CustomGeoResource) (url : String) : Prop :=
  fetched around url row.fileName row.lastModified state.bin = .stored →
    around.writes = true ∨ Current around url row.fileName state.bin

/-- The answers and the failures do no harm: a file that is kept as not modified
is that of the URL, nothing fails after a file was replaced or removed, and
cleaning up removes no file that was there. -/
def Safe : GeoCall → Prop
  | .create form =>
      match checkForm around form with
      | .error _ => True
      | .ok url =>
          (around.counts = true ∧
            state.taken state.nextId form.type form.aliasName = true) ∨
          SafeCreate around state form url
  | .update id form =>
      match firstRow around state id with
      | .error _ => True
      | .ok cur =>
          match checkForm around form with
          | .error _ => True
          | .ok url =>
              ((cur.type ≠ form.type ∨ cur.aliasName ≠ form.aliasName) ∧
                around.counts = true ∧
                state.taken id form.type form.aliasName = true) ∨
              SafeUpdate around state cur form url
  | .delete _ => True
  | .triggerUpdate id =>
      match firstRow around state id with
      | .error _ => True
      | .ok row =>
          match around.sanitizeURL row.url with
          | .error _ => True
          | .ok url => SafeTriggerUpdate around state row url

end Safe

/-! Consistency of a result. -/

section Result

variable {state next : GeoState} {call : GeoCall} {around : Surroundings}

theorem consistent_error {error : CustomGeoError} :
    Consistent state call around (.error error, next) ↔
      next.rows = state.rows ∧ next.bin.content = state.bin.content := by
  constructor
  · intro consistent
    exact consistent.unchanged error rfl
  · intro unchanged
    refine ⟨nofun, fun _ _ => unchanged, ?_⟩
    intro row _ _
    exact congrFun unchanged.2 row.fileName

theorem consistent_unchanged {error : CustomGeoError} :
    Consistent state call around (.error error, state) :=
  consistent_error.mpr ⟨rfl, rfl⟩

theorem consistent_withBin {error : CustomGeoError} {bin : BinFolder} :
    Consistent state call around (.error error, state.withBin bin) ↔
      bin.content = state.bin.content :=
  consistent_error.trans (and_iff_right rfl)

/-- The row that was saved is the only one with its type and alias. -/
theorem eq_of_saved {row other : CustomGeoResource}
    (free : state.taken row.id row.type row.aliasName = false)
    (member : other ∈ state.rows.save row) (sameType : other.type = row.type)
    (sameAlias : other.aliasName = row.aliasName) : other = row := by
  rcases Table.mem_save.mp member with same | ⟨old, differ⟩
  · exact same
  · exact absurd ⟨sameType.symm, sameAlias.symm⟩
      (GeoState.taken_eq_false.mp free other old differ)

theorem consistent_saved {row : CustomGeoResource} {nextId : Nat}
    {bin : BinFolder} {form : GeoForm} (asked : call.form? = some form)
    (ofType : row.type = form.type) (named : row.aliasName = form.aliasName)
    (free : state.taken row.id row.type row.aliasName = false)
    (others : ∀ row ∈ state.rows, call.id? ≠ some row.id →
      bin.content row.fileName = state.bin.content row.fileName) :
    Consistent state call around (.ok (), ⟨state.rows.save row, nextId, bin⟩) ↔
      Delivered around row bin := by
  constructor
  · intro consistent
    obtain ⟨other, member, sameType, sameAlias, delivered⟩ :=
      consistent.delivered form asked rfl
    have same := eq_of_saved free member (sameType.trans ofType.symm)
      (sameAlias.trans named.symm)
    rwa [same] at delivered
  · intro delivered
    refine ⟨?_, nofun, others⟩
    intro again same _
    rw [asked, Option.some.injEq] at same
    exact same ▸ ⟨row, Table.mem_save.mpr (.inl rfl), ofType, named, delivered⟩

theorem delivered_iff_of_usable {row : CustomGeoResource} {bin : BinFolder}
    (usable : localDatFileNeedsRepair bin row.fileName = false) :
    Delivered around row bin ↔ Current around row.url row.fileName bin := by
  obtain ⟨content, present, large⟩ :=
    localDatFileNeedsRepair_eq_false.mp usable
  unfold Delivered Current
  rw [present]
  constructor
  · rintro ⟨same, equal, -, served⟩
    exact equal.trans (congrArg some served)
  · intro served
    exact ⟨content, rfl, large, Option.some.inj served⟩

end Result

/-! Each call. -/

section Calls

variable {around : Surroundings} {state : GeoState} {form : GeoForm}
variable {url name : String} {id : Nat} {row : CustomGeoResource}

theorem put_eq_iff_current {bin : BinFolder} :
    Function.update bin.content name (some (around.served url)) = bin.content ↔
      Current around url name bin := by
  rw [Function.update_eq_self_iff]
  exact eq_comm

theorem ne_none_of_usable {bin : BinFolder}
    (usable : localDatFileNeedsRepair bin name = false) :
    bin.content name ≠ none := by
  obtain ⟨content, present, -⟩ := localDatFileNeedsRepair_eq_false.mp usable
  rw [present]
  exact Option.some_ne_none content

theorem fails_iff_not_saved {writes taken : Bool} :
    (¬ writes = true ∨ taken = true) ↔ ¬ (writes = true ∧ taken = false) := by
  rw [not_and_or, Bool.not_eq_false]

/-- Cleaning up undoes a download to a name without a file. -/
theorem cleanup_eq_iff {bin after : BinFolder}
    (same : ∀ other ≠ name, after.content other = bin.content other) :
    (removeSafePathIfExists around name after).content = bin.content ↔
      if around.removes then bin.content name = none
      else after.content name = bin.content name := by
  rw [content_removeSafePathIfExists]
  have elsewhere : ∀ file, Function.update after.content name file =
      Function.update bin.content name file := by
    intro file
    funext other
    by_cases here : other = name
    · simp [here]
    · simp [here, same other here]
  cases around.removes with
  | true =>
      rw [if_pos rfl, if_pos rfl, elsewhere, Function.update_eq_self_iff]
      exact eq_comm
  | false =>
      rw [if_neg Bool.false_ne_true, if_neg Bool.false_ne_true]
      constructor
      · exact fun equal => congrFun equal name
      · intro here
        rw [← Function.update_eq_self name after.content, elsewhere, here]
        exact Function.update_eq_self name bin.content

theorem create_consistent_iff (wellFormed : state.WellFormed) :
    Consistent state (.create form) around (create around state form) ↔
      Safe around state (.create form) := by
  unfold create Safe
  dsimp only
  cases checked : checkForm around form with
  | error error => exact iff_of_true consistent_unchanged trivial
  | ok url =>
      obtain ⟨valid, clean⟩ := checkForm_eq_ok checked
      dsimp only
      by_cases refused : around.counts = true ∧
          state.taken state.nextId form.type form.aliasName = true
      · rw [if_pos refused]
        exact iff_of_true consistent_unchanged (.inl refused)
      · rw [if_neg refused, or_iff_right refused]
        have downloaded := downloadToPath_downloaded around
          (fileNameFor form.type form.aliasName) "" clean state.bin
        unfold SafeCreate
        dsimp only
        generalize downloadToPath around url
          (fileNameFor form.type form.aliasName) "" state.bin = result
          at downloaded ⊢
        generalize fetched around url
          (fileNameFor form.type form.aliasName) "" state.bin = what
          at downloaded ⊢
        cases downloaded with
        | failed error bin unchanged =>
            exact iff_of_true (consistent_withBin.mpr unchanged) trivial
        | kept lastModified bin unchanged usable =>
            dsimp only
            by_cases saved : around.writes = true ∧
                state.taken state.nextId form.type form.aliasName = false
            · rw [if_neg fun fails => fails_iff_not_saved.mp fails saved]
              rw [and_iff_left fun unsaved => absurd saved unsaved,
                forall_prop_of_true saved]
              refine Iff.trans (consistent_saved rfl rfl rfl saved.2 ?_) ?_
              · exact fun other _ _ => congrFun unchanged other.fileName
              · refine (delivered_iff_of_usable usable).trans ?_
                unfold Current
                rw [unchanged]
                rfl
            · rw [if_pos (fails_iff_not_saved.mpr saved), consistent_withBin, cleanup_eq_iff
                fun other _ => congrFun unchanged other]
              rw [and_iff_right fun done => absurd done saved,
                forall_prop_of_true saved]
              have present := ne_none_of_usable usable
              rw [unchanged] at present ⊢
              cases around.removes with
              | false => simp
              | true => simp [present]
        | stored lastModified bin large replaced =>
            dsimp only
            by_cases saved : around.writes = true ∧
                state.taken state.nextId form.type form.aliasName = false
            · rw [if_neg fun fails => fails_iff_not_saved.mp fails saved]
              refine iff_of_true ?_ (absurd saved)
              refine Iff.mpr (consistent_saved rfl rfl rfl saved.2 ?_) ?_
              · intro other member _
                have differs := wellFormed.fileName_ne_of_not_taken valid
                  saved.2 member (wellFormed.below other member).ne
                exact replaced ▸ Function.update_of_ne differs _ _
              · refine ⟨around.served url, ?_, large, rfl⟩
                exact replaced ▸ Function.update_self _ _ _
            · have elsewhere : ∀ other ≠ fileNameFor form.type form.aliasName,
                  bin.content other = state.bin.content other := by
                intro other differs
                rw [replaced, Function.update_of_ne differs]
              rw [if_pos (fails_iff_not_saved.mpr saved), consistent_withBin, cleanup_eq_iff elsewhere,
                forall_prop_of_true saved, replaced, Function.update_self]
              unfold Current
              rw [@eq_comm _ (some (around.served url))]

theorem delete_consistent (wellFormed : state.WellFormed) :
    Consistent state (.delete id) around (delete around state id) := by
  unfold delete
  cases first : firstRow around state id with
  | error error => exact consistent_unchanged
  | ok row =>
      obtain ⟨member, rfl⟩ := firstRow_eq_ok first
      dsimp only
      by_cases writes : around.writes = true
      · rw [if_neg (not_not.mpr writes), wellFormed.resolveDestPath_eq member]
        refine ⟨nofun, nofun, fun other otherMember differ => ?_⟩
        have differs := wellFormed.fileName_ne otherMember member
          fun same => differ (congrArg some same.symm)
        dsimp only
        rw [content_removeSafePathIfExists]
        split
        · exact Function.update_of_ne differs _ _
        · rfl
      · rw [if_pos writes]
        exact consistent_unchanged

theorem triggerUpdate_consistent_iff (wellFormed : state.WellFormed) :
    Consistent state (.triggerUpdate id) around
        (applyDownloadAndPersist around state id) ↔
      Safe around state (.triggerUpdate id) := by
  unfold applyDownloadAndPersist Safe
  dsimp only
  cases first : firstRow around state id with
  | error error => exact iff_of_true consistent_unchanged trivial
  | ok row =>
      obtain ⟨member, rfl⟩ := firstRow_eq_ok first
      dsimp only
      cases clean : around.sanitizeURL row.url with
      | error error => exact iff_of_true consistent_unchanged trivial
      | ok url =>
          have downloaded := downloadToPath_downloaded around row.fileName
            row.lastModified clean state.bin
          have others : ∀ file, ∀ other ∈ state.rows, some row.id ≠ some other.id →
              Function.update state.bin.content row.fileName file
                other.fileName = state.bin.content other.fileName := by
            intro file other otherMember differ
            refine Function.update_of_ne ?_ _ _
            exact wellFormed.fileName_ne otherMember member
              fun same => differ (congrArg some same.symm)
          dsimp only
          unfold SafeTriggerUpdate
          rw [← CustomGeoResource.fileName]
          generalize downloadToPath around url row.fileName row.lastModified
            state.bin = result at downloaded ⊢
          generalize fetched around url row.fileName row.lastModified
            state.bin = what at downloaded ⊢
          cases downloaded with
          | failed error bin unchanged =>
              exact iff_of_true (consistent_withBin.mpr unchanged) nofun
          | kept lastModified bin unchanged usable =>
              refine iff_of_true ?_ nofun
              dsimp only
              split
              · exact consistent_withBin.mpr unchanged
              · refine ⟨nofun, nofun, fun other _ _ => ?_⟩
                exact congrFun unchanged other.fileName
          | stored lastModified bin large replaced =>
              dsimp only
              rw [forall_prop_of_true rfl]
              by_cases writes : around.writes = true
              · rw [if_neg (not_not.mpr writes)]
                refine iff_of_true ⟨nofun, nofun, fun other member differ => ?_⟩
                  (.inl writes)
                exact replaced ▸ others _ other member differ
              · rw [if_pos writes, consistent_withBin, replaced,
                  or_iff_right writes]
                exact put_eq_iff_current

/-- The folder in which `Update` downloads. -/
def withoutOld (around : Surroundings) (oldName name : String)
    (bin : BinFolder) : BinFolder :=
  if oldName ≠ name then removeSafePathIfExists around oldName bin else bin

section WithoutOld

variable {oldName : String} {bin : BinFolder}

theorem withoutOld_of_ne {other : String} (differs : other ≠ oldName) :
    withoutOld around oldName name bin other = bin other := by
  unfold withoutOld removeSafePathIfExists BinFolder.put
  split
  · split
    · exact if_neg differs
    · rfl
  · rfl

theorem withoutOld_self : withoutOld around oldName name bin name = bin name := by
  by_cases same : oldName = name
  · rw [withoutOld, if_neg (not_not.mpr same)]
  · exact withoutOld_of_ne (Ne.symm same)

theorem content_congr {other : BinFolder} (same : bin name = other name) :
    bin.content name = other.content name :=
  congrArg (Option.map GeoFile.content) same

theorem content_withoutOld_eq_iff :
    (withoutOld around oldName name bin).content = bin.content ↔
      ¬ Lost around oldName name bin := by
  unfold withoutOld Lost
  by_cases same : oldName = name
  · simp [same]
  · rw [if_pos same, content_removeSafePathIfExists]
    cases around.removes with
    | false => simp
    | true =>
        rw [if_pos rfl, Function.update_eq_self_iff]
        simp only [ne_eq, same, not_false_eq_true, true_and, not_not]
        exact eq_comm

/-- A download leaves the other files as they are without the old one. -/
theorem put_withoutOld_eq_iff :
    Function.update (withoutOld around oldName name bin).content name
          (some (around.served url)) = bin.content ↔
      ¬ Lost around oldName name bin ∧ Current around url name bin := by
  rw [← content_withoutOld_eq_iff]
  have here := content_congr (@withoutOld_self around name oldName bin)
  constructor
  · intro equal
    have current : Current around url name bin := by
      have atName := congrFun equal name
      rw [Function.update_self] at atName
      exact atName.symm
    refine ⟨?_, current⟩
    rw [← equal, ← current, ← here, Function.update_eq_self]
  · rintro ⟨equal, current⟩
    rw [equal]
    exact put_eq_iff_current.mpr current

theorem fetched_congr {other : BinFolder} {header : String}
    (same : bin name = other name) :
    fetched around url name header bin =
      fetched around url name header other := by
  have repair : localDatFileNeedsRepair bin name =
      localDatFileNeedsRepair other name := by
    unfold localDatFileNeedsRepair
    rw [same]
  have since : ifModifiedSince around name header bin =
      ifModifiedSince around name header other := by
    unfold ifModifiedSince
    rw [same, repair]
  unfold fetched
  rw [since, repair]

end WithoutOld

theorem update_consistent_iff (wellFormed : state.WellFormed) :
    Consistent state (.update id form) around (update around state id form) ↔
      Safe around state (.update id form) := by
  unfold update Safe
  dsimp only
  cases first : firstRow around state id with
  | error error => exact iff_of_true consistent_unchanged trivial
  | ok cur =>
      obtain ⟨member, rfl⟩ := firstRow_eq_ok first
      dsimp only
      cases checked : checkForm around form with
      | error error => exact iff_of_true consistent_unchanged trivial
      | ok url =>
          obtain ⟨valid, clean⟩ := checkForm_eq_ok checked
          dsimp only
          by_cases refused :
              (cur.type ≠ form.type ∨ cur.aliasName ≠ form.aliasName) ∧
                around.counts = true ∧
                state.taken cur.id form.type form.aliasName = true
          · rw [if_pos refused]
            exact iff_of_true consistent_unchanged (.inl refused)
          · rw [if_neg refused, or_iff_right refused,
              wellFormed.resolveDestPath_eq member, ← withoutOld]
            have downloaded := downloadToPath_downloaded around
              (fileNameFor form.type form.aliasName) cur.lastModified clean
              (withoutOld around cur.fileName
                (fileNameFor form.type form.aliasName) state.bin)
            rw [fetched_congr withoutOld_self] at downloaded
            have others : ∀ other ∈ state.rows, some cur.id ≠ some other.id →
                (withoutOld around cur.fileName
                  (fileNameFor form.type form.aliasName) state.bin).content
                    other.fileName = state.bin.content other.fileName := by
              intro other otherMember differ
              refine content_congr (withoutOld_of_ne ?_)
              exact wellFormed.fileName_ne otherMember member
                fun same => differ (congrArg some same.symm)
            unfold SafeUpdate
            dsimp only
            generalize downloadToPath around url
              (fileNameFor form.type form.aliasName) cur.lastModified
              (withoutOld around cur.fileName
                (fileNameFor form.type form.aliasName) state.bin) = result
              at downloaded ⊢
            generalize fetched around url
              (fileNameFor form.type form.aliasName) cur.lastModified state.bin
                = what at downloaded ⊢
            cases downloaded with
            | failed error bin unchanged =>
                refine consistent_withBin.trans ?_
                rw [unchanged]
                exact content_withoutOld_eq_iff
            | kept lastModified bin unchanged usable =>
                dsimp only
                by_cases saved : around.writes = true ∧
                    state.taken cur.id form.type form.aliasName = false
                · rw [if_neg fun fails => fails_iff_not_saved.mp fails saved]
                  rw [and_iff_left fun unsaved => absurd saved unsaved,
                    forall_prop_of_true saved]
                  refine Iff.trans (consistent_saved rfl rfl rfl saved.2 ?_) ?_
                  · exact unchanged ▸ others
                  · refine (delivered_iff_of_usable usable).trans ?_
                    unfold Current
                    rw [unchanged]
                    exact Eq.congr_left (content_congr withoutOld_self)
                · rw [if_pos (fails_iff_not_saved.mpr saved),
                    consistent_withBin, unchanged, content_withoutOld_eq_iff,
                    and_iff_right fun done => absurd done saved,
                    forall_prop_of_true saved]
            | stored lastModified bin large replaced =>
                dsimp only
                by_cases saved : around.writes = true ∧
                    state.taken cur.id form.type form.aliasName = false
                · rw [if_neg fun fails => fails_iff_not_saved.mp fails saved]
                  refine iff_of_true ?_ (absurd saved)
                  refine Iff.mpr (consistent_saved rfl rfl rfl saved.2 ?_) ?_
                  · intro other otherMember differ
                    have differs := wellFormed.fileName_ne_of_not_taken valid
                      saved.2 otherMember
                      fun same => differ (congrArg some same.symm)
                    rw [replaced, Function.update_of_ne differs]
                    exact others other otherMember differ
                  · refine ⟨around.served url, ?_, large, rfl⟩
                    exact replaced ▸ Function.update_self _ _ _
                · rw [if_pos (fails_iff_not_saved.mpr saved),
                    consistent_withBin, replaced, put_withoutOld_eq_iff,
                    forall_prop_of_true saved]

end Calls

/-- Rows and files stay consistent in the runs whose calls are safe. -/
theorem geo_consistent_iff (bin : BinFolder)
    (events : List (GeoCall × Surroundings)) :
    geoMachine.Guarded
        (fun state event => Consistent state event.1 event.2
          (event.1.perform event.2 state))
        (GeoState.start bin) events ↔
      geoMachine.Guarded (fun state event => Safe event.2 state event.1)
        (GeoState.start bin) events := by
  refine geoMachine.guarded_congr geoMachine_wellFormed ?_
    (GeoState.start_wellFormed bin)
  rintro state ⟨call, around⟩ wellFormed
  cases call with
  | create form => exact create_consistent_iff wellFormed
  | update id form => exact update_consistent_iff wellFormed
  | delete id => exact iff_of_true (delete_consistent wellFormed) trivial
  | triggerUpdate id => exact triggerUpdate_consistent_iff wellFormed

/-- Everything succeeds; two URLs serve different files. -/
def calm (reply : Reply) : Surroundings where
  now := 1700000000
  sanitizeURL url := .ok url
  cleaned _ _ _ _ again := Except.ok.inj again.symm
  served url := List.replicate minDatBytes (if url = "http://new/" then 2 else 1)
  firstReply _ := reply
  secondReply := .ok ""
  parseTime _ := none
  stores _ := true
  removes := true
  reads := true
  counts := true
  writes := true

/-- The new URL answers that it has not changed since the file was written, and
the file of the old URL is kept. -/
theorem old_file_under_new_url :
    ¬ geoMachine.Guarded
        (fun state event => Consistent state event.1 event.2
          (event.1.perform event.2 state))
        (GeoState.start fun _ => none)
        [(.create ⟨"geosite", "ads", "http://old/"⟩, calm (.ok "")),
          (.update 1 ⟨"geosite", "ads", "http://new/"⟩,
            calm (.notModified ""))] := by
  intro guarded
  have consistent := (guarded.2 _ rfl).1
  have wellFormed := @create_wellFormed (calm (.ok ""))
    (GeoState.start fun _ => none) ⟨"geosite", "ads", "http://old/"⟩
    (GeoState.start_wellFormed _)
  have safe := (update_consistent_iff wellFormed).mp consistent
  have kept := Or.resolve_left safe (by decide +kernel)
  have current := kept.1 (by decide +kernel)
  unfold Current at current
  exact absurd current (by decide +kernel)

end VpnUi.Geo
