import Mathlib.Logic.Basic
import VpnUi.Server.ImportDb

namespace VpnUi.Server

/-! When an import keeps the old database until the new one is in place, and
puts it back, with the handle on it, if it fails. -/

/-- The panel runs on the old database; other files may lie around. -/
def running (temp backup : Option Content) : World :=
  ⟨some .old, temp, backup, .on (some .old)⟩

/-- Some file still holds the old database, or the new one is in place. -/
def World.Kept (world : World) : Prop :=
  world.db = some .old ∨ world.temp = some .old ∨ world.backup = some .old ∨
    world.db = some .imported

instance : DecidablePred World.Kept := fun _ =>
  inferInstanceAs (Decidable (_ ∨ _ ∨ _ ∨ _))

structure Outcome.Safe (outcome : Outcome) : Prop where
  whole : outcome.1.world.db = some .old ∨
    outcome.1.world.db = some .imported
  kept : ∀ world ∈ outcome.1.visited, world.Kept
  restored : outcome.2 ≠ none → outcome.2 ≠ some .startXray →
    outcome.1.world.db = some .old ∧
      outcome.1.world.handle = .on (some .old)

section Condition

variable (fails : Step → Bool) (upload : Upload) (temp backup : Option Content)

/-- The import ends before it touches the running database. -/
def RefusedEarly : Prop :=
  fails .readSignature ∨ ¬ upload.isSQLite ∨ fails .seek ∨
    (temp.isSome ∧ fails .removeTemp) ∨ fails .createTemp ∨
    fails .copyUpload ∨ fails .closeTemp ∨ fails .validate ∨ ¬ upload.sound

/-- The stale backup can not be removed. -/
def StaleBackup : Prop := backup.isSome ∧ fails .removeBackup

/-- Everything between the closing of the handle and the start of Xray works. -/
def Replaced : Prop :=
  ¬ StaleBackup fails backup ∧ ¬ fails .moveToBackup ∧ ¬ fails .moveToDb ∧
    ¬ fails .makeDir ∧ ¬ fails .openDb ∧ ¬ fails .migrate

/-- The handle was never closed, and what fails before it is assigned again is
undone. -/
def Undone : Prop :=
  fails .closeDb ∧ (StaleBackup fails backup ∨ fails .moveToBackup ∨
    ¬ fails .restore ∧ (fails .moveToDb ∨ fails .makeDir))

def Spared : Prop :=
  RefusedEarly fails upload temp ∨ Replaced fails backup ∨
    Undone fails backup

end Condition

section Early

variable {fails : Step → Bool} {upload : Upload} {world : World}

/-- All worlds so far agree with `world` but for the temporary file. -/
structure Run.Apart (run : Run) (world : World) : Prop where
  visited : ∀ earlier ∈ run.visited, ∃ temp, earlier = world.setTemp temp
  now : ∃ temp, run.world = world.setTemp temp

theorem Run.Apart.next {run : Run} (apart : run.Apart world)
    {change : World → World}
    (harmless : ∀ temp, ∃ other,
      change (world.setTemp temp) = world.setTemp other) :
    (run.next change).Apart world := by
  obtain ⟨temp, same⟩ := apart.now
  have now : ∃ other, change run.world = world.setTemp other :=
    same ▸ harmless temp
  refine ⟨fun earlier member => ?_, now⟩
  obtain rfl | older := List.mem_cons.mp member
  · exact now
  · exact apart.visited earlier older

/-- An outcome that has only prepared the temporary file, and has been refused
exactly under `refused`. -/
structure Outcome.Prepares (outcome : Outcome) (world : World)
    (temp : Option Content) (refused : Prop) : Prop where
  apart : outcome.1.Apart world
  refuses : outcome.2 ≠ none ↔ refused
  early : outcome.2 ≠ some .startXray
  now : outcome.2 = none → outcome.1.world = world.setTemp temp

theorem Outcome.Prepares.andThen {outcome : Outcome} {next : Run → Outcome}
    {temp later : Option Content} {refused refuses : Prop}
    (first : outcome.Prepares world temp refused)
    (second : ∀ run, run.Apart world → run.world = world.setTemp temp →
      (next run).Prepares world later refuses) :
    (outcome.andThen next).Prepares world later (refused ∨ refuses) := by
  unfold Outcome.andThen
  cases ended : outcome.2 with
  | some error =>
      have stopped : refused := first.refuses.mp (by simp [ended])
      exact ⟨first.apart, by simp [ended, stopped], first.early,
        fun none => by simp [none] at ended⟩
  | none =>
      have going : ¬ refused := fun stopped =>
        first.refuses.mpr stopped ended
      have result := second outcome.1 first.apart (first.now ended)
      exact ⟨result.apart, by simp [result.refuses, going], result.early,
        result.now⟩

theorem prepares_must {run : Run} (apart : run.Apart world)
    {temp later : Option Content} (now : run.world = world.setTemp temp)
    {change : World → World}
    (sets : ∀ temp, ∃ other,
      change (world.setTemp temp) = world.setTemp other)
    (set_ : change (world.setTemp temp) = world.setTemp later)
    (step : Step) {error : ImportError} (early : error ≠ .startXray) :
    (must fails step change error run).Prepares world later
      (fails step = true) := by
  unfold must
  split
  next failed =>
    exact ⟨apart, by simp [failed], fun same => early (Option.some.inj same),
      fun none => by cases none⟩
  next worked =>
    refine ⟨apart.next sets, by simp [worked], fun same => (by cases same), ?_⟩
    intro _
    show change run.world = _
    rw [now, set_]

theorem prepares_require {run : Run} (apart : run.Apart world)
    {temp : Option Content} (now : run.world = world.setTemp temp)
    (holds : Bool) {error : ImportError} (early : error ≠ .startXray) :
    (require holds error run).Prepares world temp (¬ holds = true) := by
  unfold require
  cases holds with
  | false =>
      exact ⟨apart, by simp, fun same => early (Option.some.inj same),
        fun none => by cases none⟩
  | true => exact ⟨apart, by simp, fun same => (by cases same), fun _ => now⟩

/-- Afterwards no file is in the way. -/
theorem prepares_mustRemove {run : Run} (apart : run.Apart world)
    (now : run.world = world.setTemp world.temp)
    (step : Step) {error : ImportError} (early : error ≠ .startXray) :
    (mustRemove fails step World.temp (World.setTemp none) error run).Prepares
      world none (world.temp.isSome = true ∧ fails step = true) := by
  have found : run.world.temp = world.temp := by
    rw [now]
    rfl
  unfold mustRemove
  rw [found]
  split
  next present =>
    have removed : (must fails step (World.setTemp none) error run).Prepares
        world none (fails step = true) :=
      prepares_must apart now (fun _ => ⟨none, rfl⟩) rfl step early
    exact ⟨removed.apart, by simp [removed.refuses, present], removed.early,
      removed.now⟩
  next absent =>
    have none : world.temp = none := by simpa using absent
    exact ⟨apart, by simp [none], fun same => (by cases same),
      fun _ => by rw [now, none]⟩

theorem prepares_openTemp (fails : Step → Bool) (upload : Upload)
    (world : World) :
    (openTemp fails upload ⟨world, [world]⟩).Prepares world (some .blank)
      (((((fails .readSignature = true) ∨ ¬ upload.isSQLite = true) ∨
        fails .seek = true) ∨
        (world.temp.isSome = true ∧ fails .removeTemp = true)) ∨
        fails .createTemp = true) := by
  have start : (⟨world, [world]⟩ : Run).Apart world :=
    ⟨fun earlier member => ⟨world.temp, List.mem_singleton.mp member⟩,
      world.temp, rfl⟩
  have same : (⟨world, [world]⟩ : Run).world = world.setTemp world.temp := rfl
  have keep : ∀ temp, ∃ other, id (world.setTemp temp) = world.setTemp other :=
    fun temp => ⟨temp, rfl⟩
  have cleared (run : Run) (apart : run.Apart world)
      (now : run.world = world.setTemp world.temp) :=
    @prepares_mustRemove fails world run apart now .removeTemp .removeTemp
      (by decide)
  unfold openTemp
  refine Outcome.Prepares.andThen (Outcome.Prepares.andThen
    (Outcome.Prepares.andThen (Outcome.Prepares.andThen
      (prepares_must start same keep rfl _ (by decide))
      fun run apart now => prepares_require apart now _ (by decide))
      fun run apart now => prepares_must apart now keep rfl _ (by decide))
      cleared)
    fun run apart now => prepares_must apart now
      (fun _ => ⟨some .blank, rfl⟩) rfl _ (by decide)

theorem prepares_saveUpload {run : Run} (apart : run.Apart world)
    {temp : Option Content} (now : run.world = world.setTemp temp)
    (fails : Step → Bool) (upload : Upload) :
    (saveUpload fails upload run).Prepares world (some .imported)
      (((fails .copyUpload = true ∨ fails .closeTemp = true) ∨
        fails .validate = true) ∨ ¬ upload.sound = true) := by
  have keep : ∀ temp, ∃ other, id (world.setTemp temp) = world.setTemp other :=
    fun temp => ⟨temp, rfl⟩
  unfold saveUpload
  refine Outcome.Prepares.andThen (Outcome.Prepares.andThen
    (Outcome.Prepares.andThen
      (prepares_must apart now (fun _ => ⟨some .imported, rfl⟩) rfl _
        (by decide))
      fun run apart now => prepares_must apart now keep rfl _ (by decide))
      fun run apart now => prepares_must apart now keep rfl _ (by decide))
    fun run apart now => prepares_require apart now _ (by decide)

end Early

/-- Cleaning up afterwards touches neither the database nor the handle. -/
theorem safe_defer_cleanUp {outcome : Outcome} (fails : Step → Bool)
    (step : Step) (present : World → Option Content) {change : World → World}
    (db : ∀ world, (change world).db = world.db)
    (handle : ∀ world, (change world).handle = world.handle) :
    (outcome.defer (cleanUp fails step present change)).Safe ↔
      outcome.Safe := by
  have cleaned : cleanUp fails step present change outcome.1 = outcome.1 ∨
      cleanUp fails step present change outcome.1 = outcome.1.next change := by
    unfold cleanUp attempt
    split
    · split
      · exact .inl rfl
      · exact .inr rfl
    · exact .inl rfl
  obtain same | more := cleaned
  · have unchanged :
        outcome.defer (cleanUp fails step present change) = outcome := by
      unfold Outcome.defer
      rw [same]
    rw [unchanged]
  · unfold Outcome.defer
    rw [more]
    constructor
    · intro safe
      refine ⟨db outcome.1.world ▸ safe.whole, fun world member =>
        safe.kept world (List.mem_cons_of_mem _ member),
        fun failed early => ?_⟩
      have restored := safe.restored failed early
      exact ⟨(db _).symm.trans restored.1, (handle _).symm.trans restored.2⟩
    · intro safe
      have whole : (change outcome.1.world).db = some .old ∨
          (change outcome.1.world).db = some .imported :=
        (db outcome.1.world).symm ▸ safe.whole
      refine ⟨whole, fun world member => ?_, fun failed early => ?_⟩
      · obtain rfl | older := List.mem_cons.mp member
        · obtain old | imported := whole
          · exact .inl old
          · exact .inr (.inr (.inr imported))
        · exact safe.kept world older
      · have restored := safe.restored failed early
        exact ⟨(db _).trans restored.1, (handle _).trans restored.2⟩

theorem safe_fallBack_iff {fails : Step → Bool} {error lost : ImportError}
    {run : Run} (early : error ≠ .startXray) (last : lost ≠ .startXray)
    (backup : run.world.backup = some .old)
    (db : run.world.db ≠ some .old)
    (kept : ∀ world ∈ run.visited, world.Kept) :
    (fallBack fails error lost run).Safe ↔
      ¬ fails .restore = true ∧ run.world.handle = .on (some .old) := by
  unfold fallBack
  split
  next failed =>
    refine ⟨fun safe => ?_, fun both => absurd failed both.1⟩
    exact absurd (safe.restored (by simp) (by simpa using last)).1 db
  next worked =>
    constructor
    · intro safe
      exact ⟨worked, (safe.restored (by simp) (by simpa using early)).2⟩
    · rintro ⟨_, handle⟩
      refine ⟨.inl backup, fun world member => ?_, fun _ _ => ⟨backup, handle⟩⟩
      obtain rfl | older := List.mem_cons.mp member
      · exact .inl backup
      · exact kept world older

/-- With the old database at the fallback and the upload still to be moved. -/
theorem safe_replaceDb_iff {fails : Step → Bool} {run : Run} {handle : Handle}
    (now : run.world = ⟨none, some .imported, some .old, handle⟩)
    (kept : ∀ world ∈ run.visited, world.Kept) :
    (replaceDb fails run).Safe ↔
      (¬ fails .moveToDb = true ∧ ¬ fails .makeDir = true ∧
        ¬ fails .openDb = true ∧ ¬ fails .migrate = true) ∨
      (handle = .on (some .old) ∧ ¬ fails .restore = true ∧
        (fails .moveToDb = true ∨ fails .makeDir = true)) := by
  obtain ⟨world, visited⟩ := run
  obtain rfl : world = ⟨none, some .imported, some .old, handle⟩ := now
  have moved : ∀ world ∈ (Run.next World.moveToDb
      ⟨⟨none, some .imported, some .old, handle⟩, visited⟩).visited,
      world.Kept := fun world member => by
    obtain rfl | older := List.mem_cons.mp member
    · exact .inr (.inr (.inr rfl))
    · exact kept world older
  -- whatever the open leaves, the upload is in place
  have opened : ∀ left : Handle, ∀ world ∈ (Run.mk
      ⟨some .imported, none, some .old, left⟩
      (⟨some .imported, none, some .old, left⟩ ::
        ⟨some .imported, none, some .old, handle⟩ :: visited)).visited,
      world.Kept := fun left world member => by
    obtain rfl | older := List.mem_cons.mp member
    · exact .inr (.inr (.inr rfl))
    · exact moved world older
  unfold replaceDb initDB
  by_cases move : fails .moveToDb = true
  · simp only [move, reduceIte]
    refine (safe_fallBack_iff (by decide) (by decide) rfl (by simp) kept).trans ?_
    simp [and_comm]
  simp only [Bool.not_eq_true] at move
  by_cases makeDir : fails .makeDir = true
  · simp only [move, makeDir, Bool.false_eq_true, reduceIte]
    refine (safe_fallBack_iff (by decide) (by decide) rfl
      (by simp [Run.next, World.moveToDb]) moved).trans ?_
    simp [Run.next, World.moveToDb, and_comm]
  simp only [Bool.not_eq_true] at makeDir
  by_cases opens : fails .openDb = true
  · simp only [move, makeDir, opens, Bool.false_eq_true, reduceIte]
    refine (safe_fallBack_iff (by decide) (by decide) rfl
      (by simp)
      (opened .unusable)).trans ?_
    simp
  simp only [Bool.not_eq_true] at opens
  by_cases migrates : fails .migrate = true
  · simp only [move, makeDir, opens, migrates, Bool.false_eq_true,
      Bool.not_true, reduceIte]
    refine (safe_fallBack_iff (by decide) (by decide) rfl
      (by simp)
      (opened (.on (some .imported)))).trans ?_
    simp
  simp only [Bool.not_eq_true] at migrates
  simp only [move, makeDir, opens, migrates, Bool.false_eq_true, Bool.not_false,
    reduceIte]
  refine iff_of_true ⟨?_, ?_, ?_⟩ (by simp)
  · unfold must
    split <;> exact .inr rfl
  · unfold must
    split
    · exact opened (.on (some .imported))
    · intro world member
      obtain rfl | older := List.mem_cons.mp member
      · exact .inr (.inr (.inr rfl))
      · exact opened (.on (some .imported)) world older
  · intro failed early
    unfold must at failed early
    split at failed
    next broken => simp [broken] at early
    next => exact absurd rfl failed

/-- A failure before the old database is moved leaves it where it is. -/
theorem safe_iff_handle {run : Run} {error : ImportError}
    (early : error ≠ .startXray) (db : run.world.db = some .old)
    (kept : ∀ world ∈ run.visited, world.Kept) :
    Outcome.Safe (run, some error) ↔ run.world.handle = .on (some .old) := by
  constructor
  · intro safe
    exact (safe.restored (by simp) (by simpa using early)).2
  · intro handle
    exact ⟨.inl db, kept, fun _ _ => ⟨db, handle⟩⟩

/-- From the removal of a stale backup on. -/
theorem safe_moved_iff {fails : Step → Bool} {run : Run}
    {backup : Option Content} {handle : Handle}
    (now : run.world = ⟨some .old, some .imported, backup, handle⟩)
    (kept : ∀ world ∈ run.visited, world.Kept) :
    Outcome.Safe (((mustRemove fails .removeBackup World.backup
        World.dropBackup .removeFallback run).andThen
      (must fails .moveToBackup World.moveToBackup .backingUp)).andThen
      fun moved => (replaceDb fails moved).defer
        (cleanUp fails .cleanBackup World.backup World.dropBackup)) ↔
      Replaced fails backup ∨ (handle = .on (some .old) ∧
        (StaleBackup fails backup ∨ fails .moveToBackup = true ∨
          ¬ fails .restore = true ∧
            (fails .moveToDb = true ∨ fails .makeDir = true))) := by
  by_cases stale : StaleBackup fails backup
  · have refused : mustRemove fails .removeBackup World.backup
        World.dropBackup .removeFallback run = (run, some .removeFallback) := by
      simp [mustRemove, must, now, stale.1, stale.2]
    rw [refused]
    refine (safe_iff_handle (by decide) (by rw [now]) kept).trans ?_
    simp [Replaced, stale, now]
  -- no file is left where the old database goes
  obtain ⟨cleared, removed, now, kept⟩ : ∃ cleared : Run,
      mustRemove fails .removeBackup World.backup World.dropBackup
        .removeFallback run = (cleared, none) ∧
      cleared.world = ⟨some .old, some .imported, none, handle⟩ ∧
      ∀ world ∈ cleared.visited, world.Kept := by
    unfold mustRemove must
    cases backup with
    | none => exact ⟨run, by simp [now], now, kept⟩
    | some content =>
        have works : ¬ fails .removeBackup = true := fun failed =>
          stale ⟨rfl, failed⟩
        refine ⟨run.next World.dropBackup, by simp [now, works],
          by simp [Run.next, World.dropBackup, now], fun world member => ?_⟩
        obtain rfl | older := List.mem_cons.mp member
        · exact .inl (by rw [World.dropBackup, now])
        · exact kept world older
  rw [removed]
  by_cases move : fails .moveToBackup = true
  · have refused : must fails .moveToBackup World.moveToBackup .backingUp
        cleared = (cleared, some .backingUp) := by
      simp [must, move]
    show Outcome.Safe ((must fails .moveToBackup World.moveToBackup .backingUp
      cleared).andThen _) ↔ _
    rw [refused]
    refine (safe_iff_handle (by decide) (by rw [now]) kept).trans ?_
    simp [Replaced, move, now]
  · have moved : must fails .moveToBackup World.moveToBackup .backingUp
        cleared = (cleared.next World.moveToBackup, none) := by
      simp [must, move]
    show Outcome.Safe ((must fails .moveToBackup World.moveToBackup .backingUp
      cleared).andThen _) ↔ _
    rw [moved]
    refine (@safe_defer_cleanUp (replaceDb fails (cleared.next
      World.moveToBackup)) fails _ _ World.dropBackup (fun _ => rfl)
      fun _ => rfl).trans ?_
    refine (@safe_replaceDb_iff fails _ handle ?_ ?_).trans ?_
    · simp [Run.next, World.moveToBackup, now]
    · intro world member
      obtain rfl | older := List.mem_cons.mp member
      · exact .inr (.inr (.inl (by rw [World.moveToBackup, now])))
      · exact kept world older
    · simp [Replaced, stale, move]

/-- Once the upload is saved and checked. -/
theorem safe_swapDb_iff {fails : Step → Bool} {run : Run}
    {backup : Option Content}
    (now : run.world = ⟨some .old, some .imported, backup, .on (some .old)⟩)
    (kept : ∀ world ∈ run.visited, world.Kept) :
    (swapDb fails run).Safe ↔
      Replaced fails backup ∨ Undone fails backup := by
  unfold swapDb attempt Undone
  by_cases closing : fails .closeDb = true
  · rw [if_pos closing]
    refine (safe_moved_iff now kept).trans ?_
    simp [closing]
  · rw [if_neg closing]
    have kept : ∀ world ∈ (run.next World.closeDB).visited, world.Kept :=
        fun world member => by
      obtain rfl | older := List.mem_cons.mp member
      · exact .inl (by rw [World.closeDB, now])
      · exact kept world older
    refine (@safe_moved_iff fails _ backup .closed ?_ kept).trans ?_
    · simp [Run.next, World.closeDB, now]
    · simp [closing]

section Prepared

variable {temp backup : Option Content}

theorem Run.Apart.kept {run : Run} (apart : run.Apart (running temp backup)) :
    ∀ world ∈ run.visited, world.Kept := by
  intro world member
  obtain ⟨other, rfl⟩ := apart.visited world member
  exact .inl rfl

/-- Refused before the running database is touched. -/
theorem Outcome.Prepares.safe {outcome : Outcome} {later : Option Content}
    {refused : Prop}
    (prepares : outcome.Prepares (running temp backup) later refused) :
    outcome.2 ≠ none → outcome.Safe := by
  obtain ⟨other, now⟩ := prepares.apart.now
  intro _
  have untouched : outcome.1.world.db = some .old ∧
      outcome.1.world.handle = .on (some .old) := by
    rw [now]
    exact ⟨rfl, rfl⟩
  exact ⟨.inl untouched.1, prepares.apart.kept, fun _ _ => untouched⟩

end Prepared

/-- The import is safe exactly when it is refused early, carried through, or
fails and is undone with the handle still on the old file. -/
theorem import_safe_iff (fails : Step → Bool) (upload : Upload)
    (temp backup : Option Content) :
    (importDB fails upload (running temp backup)).Safe ↔
      Spared fails upload temp backup := by
  have opened := prepares_openTemp fails upload (running temp backup)
  unfold importDB Spared RefusedEarly
  by_cases ended : (openTemp fails upload
      ⟨running temp backup, [running temp backup]⟩).2 = none
  · have created := opened.now ended
    have going := mt opened.refuses.mpr (not_not_intro ended)
    have saved := prepares_saveUpload opened.apart created fails upload
    have tail : Outcome.andThen (openTemp fails upload
          ⟨running temp backup, [running temp backup]⟩) (fun created =>
        ((saveUpload fails upload created).andThen (swapDb fails)).defer
          (cleanUp fails .cleanTemp World.temp (World.setTemp none))) =
        ((saveUpload fails upload (openTemp fails upload
          ⟨running temp backup, [running temp backup]⟩).1).andThen
            (swapDb fails)).defer
          (cleanUp fails .cleanTemp World.temp (World.setTemp none)) := by
      simp only [Outcome.andThen, ended]
    rw [tail]
    refine (@safe_defer_cleanUp _ fails _ _ (World.setTemp none)
      (fun _ => rfl) fun _ => rfl).trans ?_
    unfold Outcome.andThen
    cases stopped : (saveUpload fails upload (openTemp fails upload
        ⟨running temp backup, [running temp backup]⟩).1).2 with
    | some error =>
        have failed := saved.refuses.mp (by simp [stopped])
        refine iff_of_true (saved.safe (by simp [stopped])) (.inl ?_)
        tauto
    | none =>
        have passed := mt saved.refuses.mpr (not_not_intro stopped)
        refine (@safe_swapDb_iff fails _ backup (saved.now stopped)
          saved.apart.kept).trans ?_
        simp only [running] at going
        tauto
  · have refused := opened.refuses.mp ended
    have same : Outcome.andThen (openTemp fails upload
          ⟨running temp backup, [running temp backup]⟩) (fun created =>
        ((saveUpload fails upload created).andThen (swapDb fails)).defer
          (cleanUp fails .cleanTemp World.temp (World.setTemp none))) =
        openTemp fails upload
          ⟨running temp backup, [running temp backup]⟩ := by
      obtain ⟨error, failed⟩ := Option.ne_none_iff_exists'.mp ended
      simp only [Outcome.andThen, failed]
    rw [same]
    refine iff_of_true (opened.safe ended) (.inl ?_)
    simp only [running] at refused
    tauto

/-- Neither the upload nor the old database can be moved back: the deferred
removal then deletes the only copy. -/
theorem database_lost_after_failed_restore :
    ¬ (importDB (fun step => step = .moveToDb ∨ step = .restore) ⟨true, true⟩
      (running none none)).Safe := by
  intro safe
  have whole := safe.whole
  revert whole
  decide

end VpnUi.Server
