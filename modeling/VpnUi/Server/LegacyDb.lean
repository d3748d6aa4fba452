import Mathlib.Algebra.Ring.Nat
import Mathlib.Data.List.TakeDrop
import VpnUi.Foundation.Files
import VpnUi.Foundation.Transition

namespace VpnUi.Server.LegacyDb

open Foundation

/-! The move of a database from its former path to the present one, file by
file, over starts any of which may fail or crash on the way. -/

/-- The main file and the files that SQLite keeps beside it. -/
inductive Suffix
  | main
  | wal
  | shm
  | journal
  deriving DecidableEq

def Suffix.text : Suffix → String
  | .main => ""
  | .wal => "-wal"
  | .shm => "-shm"
  | .journal => "-journal"

/-- In the order of the loop. -/
def suffixes : List Suffix := [.main, .wal, .shm, .journal]

abbrev Bytes := List UInt8

abbrev DbFiles := Files Suffix Bytes

/-- The bytes of a file; an absent one holds as little as an empty one. -/
def bytesAt (files : DbFiles) (suffix : Suffix) : Bytes :=
  (files suffix).getD []

/-- What happens to one file: it is renamed; or renaming fails, and the copy is
not begun, or ends with an error or the process after so many bytes, or is
whole, and the source is removed or not. -/
inductive Move
  | renamed
  | refused
  | torn (written : Nat)
  | copied (removed : Bool)
  deriving DecidableEq

/-- A call of `InitDB`: what happens to each file, and after how many of them
the call ends without opening the database. -/
structure Start where
  moves : Suffix → Move
  ends : Option Nat

def Start.reached (start : Start) : List Suffix :=
  suffixes.take (start.ends.getD suffixes.length)

/-- The files at the two paths.  Once `InitDB` has opened the database those at
the present path are kept as they were found. -/
structure Disk where
  legacy : DbFiles
  current : DbFiles
  opened : Bool

def Disk.initial (legacy : DbFiles) : Disk := ⟨legacy, fun _ => none, false⟩

def Move.removes : Move → Bool
  | .renamed => true
  | .copied removed => removed
  | _ => false

/-- The copy that stands at the present path afterwards. -/
def Move.result (move : Move) (bytes : Bytes) (present : Option Bytes) :
    Option Bytes :=
  match move with
  | .renamed | .copied _ => some bytes
  | .refused => present
  | .torn written => some (bytes.take written)

def Move.source (move : Move) (bytes : Bytes) : Option Bytes :=
  if move.removes then none else some bytes

/-- The body of the loop. -/
def moveFile (moves : Suffix → Move) (disk : Disk) (suffix : Suffix) : Disk :=
  match disk.legacy suffix with
  | none => disk
  | some bytes =>
      { disk with
        legacy := Function.update disk.legacy suffix
          ((moves suffix).source bytes)
        current := Function.update disk.current suffix
          ((moves suffix).result bytes (disk.current suffix)) }

/-- Up to where the call ends.  There is one former path at most. -/
def migrateLegacyDB (start : Start) (disk : Disk) : Disk :=
  if (disk.current .main).isSome then disk
  else if (disk.legacy .main).isNone then disk
  else start.reached.foldl (moveFile start.moves) disk

/-- A database that has been opened has its main file in place. -/
def initDB (disk : Disk) (start : Start) : Disk :=
  if disk.opened then disk
  else { migrateLegacyDB start disk with opened := start.ends.isNone }

def legacyMachine : Machine Disk Start :=
  ⟨fun disk start => some (initDB disk start)⟩

/-! What a database has to hold. -/

section Requirements

variable (original : DbFiles) (disk : Disk)

/-- SQLite makes the index of the log again. -/
def Whole : Prop :=
  ∀ suffix ≠ .shm, bytesAt disk.current suffix = bytesAt original suffix

def Kept : Prop :=
  ∀ suffix ≠ .shm, bytesAt disk.legacy suffix = bytesAt original suffix

/-- An absent main file is made, and an empty one is a new database. -/
def Fresh : Prop := bytesAt disk.current .main = []

def Right : Prop := Whole original disk ∨ Fresh disk ∧ Kept original disk

/-- What has been opened is right, and so is what the next call opens because it
finds the main file in place. -/
def Sound : Prop :=
  disk.opened = true ∨ (disk.current .main).isSome → Right original disk

end Requirements

/-! When a call leaves it so. -/

section Condition

variable (disk : Disk) (start : Start)

/-- A file that is not reached is left alone. -/
def Start.move (suffix : Suffix) : Move :=
  if suffix ∈ start.reached then start.moves suffix else .refused

/-- The file is at the present path as a whole, if there is one. -/
def Arrives (suffix : Suffix) : Prop :=
  ∀ bytes ∈ disk.legacy suffix,
    match start.move suffix with
    | .renamed | .copied _ => True
    | .torn written => bytes.length ≤ written
    | .refused => bytesAt disk.current suffix = bytes

/-- What the file holds is still at the former path. -/
def Stays (suffix : Suffix) : Prop :=
  match disk.legacy suffix with
  | none => bytesAt disk.current suffix = []
  | some bytes => bytes = [] ∨ (start.move suffix).removes = false

/-- The main file is not made, or nothing is written to it. -/
def LeftEmpty : Prop :=
  disk.legacy .main = some [] ∨ start.move .main = .refused ∨
    start.move .main = .torn 0

/-- A call that finds files to move moves the main file and what SQLite keeps
beside it as a whole, or none of it, or ends before the main file is made. -/
def Spared : Prop :=
  disk.opened = true ∨ (disk.current .main).isSome ∨
    disk.legacy .main = none ∨
      (Arrives disk start .main ∧ Arrives disk start .wal ∧
          Arrives disk start .journal) ∨
        (LeftEmpty disk start ∧ Stays disk start .wal ∧
            Stays disk start .journal) ∨
          (start.move .main = .refused ∧ start.ends.isSome)

end Condition

/-! The loop. -/

section Loop

variable {moves : Suffix → Move} {disk : Disk} {suffix other : Suffix}

theorem moveFile_other (differs : other ≠ suffix) :
    (moveFile moves disk suffix).legacy other = disk.legacy other ∧
      (moveFile moves disk suffix).current other = disk.current other := by
  unfold moveFile
  split
  · exact ⟨rfl, rfl⟩
  · exact ⟨Function.update_of_ne differs _ _, Function.update_of_ne differs _ _⟩

theorem moveFile_self :
    (moveFile moves disk suffix).legacy suffix =
        (disk.legacy suffix).bind (moves suffix).source ∧
      (moveFile moves disk suffix).current suffix =
        (disk.legacy suffix).elim (disk.current suffix)
          fun bytes => (moves suffix).result bytes (disk.current suffix) := by
  unfold moveFile
  cases found : disk.legacy suffix with
  | none => simp [found]
  | some bytes => simp

/-- Each file is moved on its own. -/
theorem foldl_moveFile {list : List Suffix} (distinct : list.Nodup) :
    (list.foldl (moveFile moves) disk).legacy suffix =
        (if suffix ∈ list then moveFile moves disk suffix
          else disk).legacy suffix ∧
      (list.foldl (moveFile moves) disk).current suffix =
        (if suffix ∈ list then moveFile moves disk suffix
          else disk).current suffix := by
  induction list generalizing disk with
  | nil => exact ⟨rfl, rfl⟩
  | cons head tail induction =>
      obtain ⟨fresh, apart⟩ := List.nodup_cons.mp distinct
      rw [List.foldl_cons]
      by_cases same : suffix = head
      · subst same
        simpa [fresh] using @induction (moveFile moves disk suffix) apart
      · obtain ⟨legacy, current⟩ := @induction (moveFile moves disk head) apart
        obtain ⟨old, new⟩ := @moveFile_other moves disk head suffix same
        rw [legacy, current]
        by_cases later : suffix ∈ tail
        · simp only [later, List.mem_cons, or_true, if_true]
          rw [moveFile_self.1, moveFile_self.1, moveFile_self.2,
            moveFile_self.2, old, new]
          exact ⟨rfl, rfl⟩
        · simpa [later, same] using And.intro old new

variable {start : Start}

theorem reached_nodup : start.reached.Nodup :=
  (show suffixes.Nodup by decide).sublist (List.take_sublist _ _)

/-- What a call does to a file, if it gets to move any. -/
theorem reached_foldl :
    (start.reached.foldl (moveFile start.moves) disk).legacy suffix =
        (disk.legacy suffix).bind (start.move suffix).source ∧
      (start.reached.foldl (moveFile start.moves) disk).current suffix =
        (disk.legacy suffix).elim (disk.current suffix)
          fun bytes => (start.move suffix).result bytes
            (disk.current suffix) := by
  obtain ⟨legacy, current⟩ :=
    @foldl_moveFile start.moves disk suffix _ (@reached_nodup start)
  rw [legacy, current]
  by_cases reached : suffix ∈ start.reached
  · simpa [Start.move, reached] using moveFile_self
  · cases found : disk.legacy suffix <;>
      simp [Start.move, reached, found, Move.source, Move.removes, Move.result]

end Loop

/-! Runs. -/

section Runs

variable {original : DbFiles} {disk : Disk} {start : Start} {suffix : Suffix}

/-- A file is where it was, or it has been moved as a whole. -/
def Accounted (original : DbFiles) (disk : Disk) (suffix : Suffix) : Prop :=
  (∃ bytes, original suffix = some bytes ∧ disk.legacy suffix = some bytes) ∨
    disk.legacy suffix = none ∧
      bytesAt disk.current suffix = bytesAt original suffix

/-- As long as no main file stands at the present path. -/
structure Pending (original : DbFiles) (disk : Disk) : Prop where
  main : disk.legacy .main = original .main
  none : original .main = none → disk.legacy = original
  accounted : ∀ suffix, Accounted original disk suffix

def Tracked (original : DbFiles) (disk : Disk) : Prop :=
  disk.opened = false → disk.current .main = none → Pending original disk

/-- The files behind the loop. -/
abbrev moved (disk : Disk) (start : Start) : Disk :=
  start.reached.foldl (moveFile start.moves) disk

theorem Accounted.arrives_iff (accounted : Accounted original disk suffix) :
    bytesAt (moved disk start).current suffix = bytesAt original suffix ↔
      Arrives disk start suffix := by
  unfold bytesAt Arrives
  rw [reached_foldl.2]
  rcases accounted with ⟨bytes, first, found⟩ | ⟨found, same⟩
  · cases move : start.move suffix <;>
      simp [found, first, Move.result, bytesAt]
  · unfold bytesAt at same
    simp [found, same]

theorem Accounted.stays_iff (accounted : Accounted original disk suffix) :
    bytesAt (moved disk start).legacy suffix = bytesAt original suffix ↔
      Stays disk start suffix := by
  unfold bytesAt Stays
  rw [reached_foldl.1]
  rcases accounted with ⟨bytes, first, found⟩ | ⟨found, same⟩
  · cases removed : (start.move suffix).removes with
    | false => simp [found, first, Move.source, removed]
    | true => simp [found, first, Move.source, removed, @eq_comm _ []]
  · unfold bytesAt at same
    simp [found, ← same, bytesAt, @eq_comm _ []]

theorem Accounted.moved (accounted : Accounted original disk suffix) :
    Accounted original (moved disk start) suffix := by
  unfold Accounted bytesAt
  rw [reached_foldl.1, reached_foldl.2]
  rcases accounted with ⟨bytes, first, found⟩ | ⟨found, same⟩
  · cases move : start.move suffix with
    | renamed => simp [found, first, Move.source, Move.result, Move.removes]
    | refused => simp [found, first, Move.source, Move.removes]
    | torn written => simp [found, first, Move.source, Move.removes]
    | copied removed =>
        cases removed <;>
          simp [found, first, Move.source, Move.result, Move.removes]
  · unfold bytesAt at same
    exact .inr ⟨by simp [found], by simp [found, same]⟩

/-- The main file of a call that leaves none at the present path. -/
theorem moved_main_eq_none {bytes : Bytes}
    (absent : disk.current .main = none)
    (found : disk.legacy .main = some bytes) :
    (moved disk start).current .main = none ↔
      start.move .main = .refused := by
  rw [reached_foldl.2, found, absent]
  cases start.move .main <;> simp [Move.result]

theorem leftEmpty_iff {bytes : Bytes} (absent : disk.current .main = none)
    (found : disk.legacy .main = some bytes) :
    Fresh (moved disk start) ↔ LeftEmpty disk start := by
  unfold Fresh LeftEmpty bytesAt
  rw [reached_foldl.2, found, absent]
  cases start.move .main with
  | renamed | refused | copied removed => simp [Move.result]
  | torn written => simp [Move.result, or_comm]

/-- An empty main file is never missed. -/
theorem LeftEmpty.stays (empty : LeftEmpty disk start) :
    disk.legacy .main = none ∨ Stays disk start .main := by
  unfold Stays
  cases found : disk.legacy .main with
  | none => exact .inl rfl
  | some bytes =>
      right
      rcases empty with none | refused | torn
      · exact .inl (Option.some.inj (found.symm.trans none))
      · exact .inr (by rw [refused]; rfl)
      · exact .inr (by rw [torn]; rfl)

theorem forall_ne_shm {holds : Suffix → Prop} :
    (∀ suffix ≠ .shm, holds suffix) ↔
      holds .main ∧ holds .wal ∧ holds .journal := by
  constructor
  · intro all
    exact ⟨all .main nofun, all .wal nofun, all .journal nofun⟩
  · rintro ⟨main, wal, journal⟩ suffix kept
    cases suffix with
    | main => exact main
    | wal => exact wal
    | shm => exact absurd rfl kept
    | journal => exact journal

theorem right_moved_iff (pending : Pending original disk) {bytes : Bytes}
    (absent : disk.current .main = none)
    (found : disk.legacy .main = some bytes) :
    Right original (moved disk start) ↔
      (Arrives disk start .main ∧ Arrives disk start .wal ∧
          Arrives disk start .journal) ∨
        (LeftEmpty disk start ∧ Stays disk start .wal ∧
          Stays disk start .journal) := by
  unfold Right Whole Kept
  rw [forall_ne_shm, forall_ne_shm, leftEmpty_iff absent found,
    (pending.accounted _).arrives_iff, (pending.accounted _).arrives_iff,
    (pending.accounted _).arrives_iff, (pending.accounted _).stays_iff,
    (pending.accounted _).stays_iff, (pending.accounted _).stays_iff]
  refine or_congr Iff.rfl (and_congr_right fun empty => ?_)
  have stays : Stays disk start .main :=
    empty.stays.resolve_left (by simp [found])
  simp [stays]

theorem migrateLegacyDB_of_found {bytes : Bytes}
    (absent : disk.current .main = none)
    (found : disk.legacy .main = some bytes) :
    migrateLegacyDB start disk = moved disk start := by
  unfold migrateLegacyDB
  rw [absent, found]
  rfl

theorem migrateLegacyDB_of_none (absent : disk.current .main = none)
    (none : disk.legacy .main = none) : migrateLegacyDB start disk = disk := by
  unfold migrateLegacyDB
  rw [absent, none]
  rfl

theorem tracked_initDB (tracked : Tracked original disk) :
    Tracked original (initDB disk start) := by
  unfold initDB
  split
  · exact tracked
  next closed =>
    intro _ absent
    cases present : disk.current .main with
    | some bytes =>
        simp [migrateLegacyDB, present] at absent
    | none =>
        have pending := tracked (by simpa using closed) present
        cases found : disk.legacy .main with
        | none =>
            rw [migrateLegacyDB_of_none present found]
            exact ⟨pending.main, pending.none, pending.accounted⟩
        | some bytes =>
            rw [migrateLegacyDB_of_found present found] at absent ⊢
            have refused := (moved_main_eq_none present found).mp absent
            refine ⟨?_, fun none => ?_, fun suffix =>
              (pending.accounted suffix).moved⟩
            · change (moved disk start).legacy .main = _
              rw [reached_foldl.1, refused, ← pending.main, found]
              rfl
            · rw [pending.main, none] at found
              cases found

/-- A call is spared exactly if it leaves the disk sound. -/
theorem sound_initDB_iff (tracked : Tracked original disk)
    (sound : Sound original disk) :
    Sound original (initDB disk start) ↔ Spared disk start := by
  unfold initDB
  split
  next opened => exact ⟨fun _ => .inl opened, fun _ => sound⟩
  next closed =>
    cases present : disk.current .main with
    | some bytes =>
        have kept : migrateLegacyDB start disk = disk := by
          simp [migrateLegacyDB, present]
        have right : Right original disk := sound (.inr (by simp [present]))
        rw [kept]
        exact ⟨fun _ => .inr (.inl (by simp [present])), fun _ _ => right⟩
    | none =>
        have pending := tracked (by simpa using closed) present
        cases found : disk.legacy .main with
        | none =>
            have kept : disk.legacy = original :=
              pending.none (pending.main ▸ found)
            rw [migrateLegacyDB_of_none present found]
            refine ⟨fun _ => .inr (.inr (.inl found)), fun _ _ => .inr ⟨?_, ?_⟩⟩
            · simp [Fresh, bytesAt, present]
            · intro suffix _
              rw [← kept]
        | some bytes =>
            rw [migrateLegacyDB_of_found present found]
            have exact_ := @right_moved_iff original disk start pending bytes
              present found
            have made := @moved_main_eq_none disk start bytes present found
            have opens : Sound original
                { moved disk start with opened := start.ends.isNone } ↔
                  (start.ends.isNone ∨
                    ((moved disk start).current .main).isSome →
                      Right original (moved disk start)) := Iff.rfl
            rw [opens, exact_]
            have pauses : ¬ (start.ends.isNone ∨
                ((moved disk start).current .main).isSome) ↔
                  start.move .main = .refused ∧ start.ends.isSome := by
              rw [← made]
              cases start.ends <;>
                cases (moved disk start).current .main <;> simp
            rw [imp_iff_or_not, pauses]
            simp only [Spared, closed, present, found, Option.isSome_none,
              Bool.false_eq_true, reduceCtorEq, false_or, or_assoc]

theorem tracked_initial : Tracked original (.initial original) := by
  intro _ _
  refine ⟨rfl, fun _ => rfl, fun suffix => ?_⟩
  cases found : original suffix with
  | none => exact .inr ⟨found, by simp [Disk.initial, bytesAt, found]⟩
  | some bytes => exact .inl ⟨bytes, found, found⟩

theorem sound_initial : Sound original (.initial original) := by
  rintro (opened | present)
  · cases opened
  · cases present

end Runs

/-- Over any calls of `InitDB`, what is opened is the whole legacy database, or a
fresh one beside the whole legacy database, exactly as long as every call is
spared. -/
theorem throughout_sound_iff (original : DbFiles) (starts : List Start) :
    legacyMachine.Throughout (Sound original) (.initial original) starts ↔
      legacyMachine.Guarded Spared (.initial original) starts := by
  refine @Machine.throughout_iff_guarded _ _ legacyMachine Spared
    (Tracked original) (Sound original) ?_ ?_ ?_ _ _ ?_ ?_
  · intro disk start next tracked stepped
    exact Option.some.inj stepped ▸ tracked_initDB tracked
  · intro disk start next tracked sound stepped
    exact Option.some.inj stepped ▸ sound_initDB_iff tracked sound
  · intro disk start refused
    cases refused
  · exact tracked_initial
  · exact sound_initial

/-- A call that ends after so many files, all renamed. -/
def allRenamed (ends : Option Nat) : Start := ⟨fun _ => .renamed, ends⟩

def loggedFiles : DbFiles
  | .main => some [1]
  | .wal => some [2]
  | _ => none

/-- The process ends between the main file and the log; the next call finds the
main file in place and opens it without the log, which stays behind. -/
theorem log_left_behind :
    ¬ ∀ (original : DbFiles) (starts : List Start) (disk : Disk),
      legacyMachine.run (.initial original) starts = some disk →
        disk.opened = true → Right original disk := by
  intro all
  have right := all loggedFiles [allRenamed (some 1), allRenamed none] _ rfl rfl
  rcases right with whole | ⟨fresh, -⟩
  · exact absurd (whole .wal nofun) (by decide)
  · exact absurd (show bytesAt _ _ = _ from fresh) (by decide)

end VpnUi.Server.LegacyDb
