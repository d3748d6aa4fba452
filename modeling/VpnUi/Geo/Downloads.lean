import Mathlib.Logic.Function.Basic
import VpnUi.Geo.Files

namespace VpnUi.Geo

open Foundation

/-! What a download does to the contents of the files. -/

/-! Names. -/

def ValidType (type : String) : Prop := type = "geosite" ∨ type = "geoip"

theorem validateType_eq_ok {type : String} :
    validateType type = .ok () ↔ ValidType type := by
  unfold validateType ValidType
  split
  · simp_all
  · simp_all
    tauto

/-- Two resources have different files. -/
theorem fileNameFor_inj {type other first second : String}
    (valid : ValidType type) (otherValid : ValidType other)
    (same : fileNameFor type first = fileNameFor other second) :
    type = other ∧ first = second := by
  have letters := congrArg String.toList same
  rcases valid with rfl | rfl <;> rcases otherValid with rfl | rfl
  all_goals simp [fileNameFor, String.toList_inj] at letters
  · exact ⟨rfl, letters⟩
  · exact ⟨rfl, letters⟩

/-! Contents. -/

namespace BinFolder

variable (bin : BinFolder)

theorem content_put (name : String) (file : Option GeoFile) :
    (bin.put name file).content =
      Function.update bin.content name (file.map GeoFile.content) := by
  funext other
  by_cases same : other = name
  · simp [content, put, same]
  · simp [content, put, same]

@[simp] theorem content_touch (name : String) (time : Int) :
    (bin.touch name time).content = bin.content := by
  unfold touch
  split
  · rfl
  · rw [content_put, Option.map_map]
    exact Function.update_eq_self name bin.content

end BinFolder

theorem localDatFileNeedsRepair_eq_false {bin : BinFolder} {name : String} :
    localDatFileNeedsRepair bin name = false ↔
      ∃ content, bin.content name = some content ∧
        minDatBytes ≤ content.length := by
  unfold localDatFileNeedsRepair BinFolder.content
  cases bin name with
  | none => simp
  | some file => simp

theorem localDatFileNeedsRepair_congr {bin other : BinFolder}
    (same : bin.content = other.content) (name : String) :
    localDatFileNeedsRepair bin name = localDatFileNeedsRepair other name := by
  rw [Bool.eq_iff_iff, ← not_iff_not, Bool.not_eq_true, Bool.not_eq_true,
    localDatFileNeedsRepair_eq_false, localDatFileNeedsRepair_eq_false, same]

@[simp] theorem content_updateModTime (around : Surroundings)
    (name lastModified : String) (bin : BinFolder) :
    (updateModTime around name lastModified bin).content = bin.content :=
  bin.content_touch name _

theorem content_removeSafePathIfExists (around : Surroundings) (name : String)
    (bin : BinFolder) :
    (removeSafePathIfExists around name bin).content =
      if around.removes then Function.update bin.content name none
      else bin.content := by
  unfold removeSafePathIfExists
  split
  · rw [BinFolder.content_put]
    rfl
  · rfl

/-! Downloads. -/

/-- A file stays after a failure, is kept as not modified, or is replaced. -/
inductive Fetched
  | failed
  | kept
  | stored
  deriving DecidableEq

section Download

variable (around : Surroundings) (url name lastModifiedHeader : String)

/-- The answer `200`. -/
def delivered (forceFull : Bool) : Fetched :=
  if around.stores forceFull ∧ minDatBytes ≤ (around.served url).length then
    .stored
  else .failed

/-- The second request is only made for a file that can not be kept. -/
def fetched (bin : BinFolder) : Fetched :=
  match around.sanitizeURL url with
  | .error _ => .failed
  | .ok _ =>
      match around.firstReply
          (ifModifiedSince around name lastModifiedHeader bin) with
      | .failure | .status _ => .failed
      | .ok _ => delivered around url false
      | .notModified _ =>
          if localDatFileNeedsRepair bin name then
            match around.secondReply with
            | .ok _ => delivered around url true
            | _ => .failed
          else .kept

/-- What a download returns and what it does to the contents. -/
inductive Downloaded (contents : String → Option (List UInt8)) :
    Fetched → Except CustomGeoError (Bool × String) × BinFolder → Prop
  | failed (error : CustomGeoError) (bin : BinFolder) :
      bin.content = contents → Downloaded contents .failed (.error error, bin)
  | kept (lastModified : String) (bin : BinFolder) :
      bin.content = contents → localDatFileNeedsRepair bin name = false →
      Downloaded contents .kept (.ok (true, lastModified), bin)
  | stored (lastModified : String) (bin : BinFolder) :
      minDatBytes ≤ (around.served url).length →
      bin.content =
        Function.update contents name (some (around.served url)) →
      Downloaded contents .stored (.ok (false, lastModified), bin)

variable {url} {raw : String} (clean : around.sanitizeURL raw = .ok url)

theorem storeBody_downloaded (forceFull : Bool) (lastModified : String)
    (bin : BinFolder) :
    Downloaded around url name bin.content (delivered around url forceFull)
      (storeBody around url name forceFull lastModified bin) := by
  unfold storeBody delivered
  by_cases stores : around.stores forceFull = true
  · by_cases large : minDatBytes ≤ (around.served url).length
    · rw [if_pos ⟨stores, large⟩, if_neg (by simp [stores, large])]
      refine .stored _ _ large ?_
      rw [content_updateModTime, BinFolder.content_put]
      rfl
    · rw [if_neg (by simp [large]), if_pos (.inr (by omega))]
      exact .failed _ _ rfl
  · rw [if_neg (by simp [stores]), if_pos (.inl stores)]
    exact .failed _ _ rfl

include clean

theorem downloadToPath_downloaded (bin : BinFolder) :
    Downloaded around url name bin.content
      (fetched around url name lastModifiedHeader bin)
      (downloadToPath around url name lastModifiedHeader bin) := by
  unfold downloadToPath downloadToPathOnce fetched
  cases again : around.sanitizeURL url with
  | error error => exact .failed _ _ rfl
  | ok same =>
      obtain rfl := around.cleaned raw url same clean again
      dsimp only
      cases around.firstReply
          (ifModifiedSince around name lastModifiedHeader bin) with
      | failure => exact .failed _ _ rfl
      | status code => exact .failed _ _ rfl
      | ok lastModified =>
          have stored := @storeBody_downloaded around same name false lastModified
            bin
          dsimp only
          rw [if_neg Bool.false_ne_true]
          dsimp only
          generalize storeBody around same name false lastModified bin = result
            at stored ⊢
          generalize delivered around same false = what at stored ⊢
          cases stored with
          | failed error after unchanged => exact .failed _ _ unchanged
          | stored header after large replaced =>
              exact .stored _ _ large replaced
          | kept header after unchanged usable =>
              dsimp only
              rw [usable]
              exact .kept _ _ unchanged usable
      | notModified lastModified =>
          have unchanged := content_updateModTime around name lastModified bin
          dsimp only
          rw [if_neg Bool.false_ne_true]
          dsimp only
          rw [if_neg Bool.false_ne_true]
          dsimp only
          have alike := localDatFileNeedsRepair_congr unchanged name
          rw [alike]
          cases usable : localDatFileNeedsRepair bin name with
          | false => exact .kept _ _ unchanged (alike.trans usable)
          | true =>
              rw [if_pos rfl, if_pos rfl, if_pos rfl]
              cases around.secondReply with
              | failure => exact .failed _ _ unchanged
              | status code => exact .failed _ _ unchanged
              | notModified other => exact .failed _ _ unchanged
              | ok other =>
                  rw [← unchanged]
                  exact storeBody_downloaded around name true other _

end Download

end VpnUi.Geo
