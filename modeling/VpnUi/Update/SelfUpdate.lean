import Mathlib.Data.List.TakeDrop
import VpnUi.Foundation.SingleFlight
import VpnUi.Foundation.Transition

namespace VpnUi.Update

open Foundation

/-! The update of the panel's own binary: requests that may come at any time,
each going on in steps any of which may fail, and starts of the process in
between. -/

abbrev Binary := List UInt8

/-- The architecture of the panel and the machine that ELF names for it. -/
def elfMachineFor (goarch : String) : Option UInt16 :=
  if goarch = "amd64" then some 0x3E
  else if goarch = "arm64" then some 0xB7
  else if goarch = "386" then some 0x03
  else if goarch = "arm" then some 0x28
  else none

def isCompatibleBinary (goarch : String) (file : Binary) : Bool :=
  match file with
  | m0 :: m1 :: m2 :: m3 :: _ :: data :: _ :: _ :: _ :: _ :: _ :: _ :: _ :: _ ::
      _ :: _ :: _ :: _ :: low :: high :: _ =>
      if m0 ≠ 0x7f ∨ m1 ≠ 0x45 ∨ m2 ≠ 0x4c ∨ m3 ≠ 0x46 then false
      else if data ≠ 1 then false
      else
        match elfMachineFor goarch with
        | some want => low.toUInt16 ||| high.toUInt16 <<< 8 = want
        | none => true
  | _ => false

/-- Where a call of `UpdatePanel`, or the restart it has started, stands. -/
inductive Stage
  | started
  | downloading (total : Option Nat) (read : Nat)
  | downloaded
  | checked
  | executable
  | copying (copied : Nat)
  | backedUp (saved : Bool)
  | restarting
  deriving DecidableEq

inductive UpdatePhase
  | none
  | downloading
  | installing
  | restarting
  | error
  deriving DecidableEq

/-- The installed binary, the download beside it and the copy for a rollback,
the image that the process runs, and its memory. -/
structure Panel where
  exe : Binary
  new : Option Binary
  bak : Option Binary
  running : Binary
  flight : Flight Nat Stage
  phase : UpdatePhase
  percent : Nat

inductive UpdateEvent
  | updatePanel (call : Nat)
  | pathFails (call : Nat)
  | requestFails (call : Nat)
  | opened (call : Nat) (contentLength : Option Nat)
  | received (call : Nat) (bytes : Binary)
  | downloadFails (call : Nat)
  | downloaded (call : Nat)
  | checks (call : Nat)
  | chmods (call : Nat) (succeeds : Bool)
  | backupOpens (call : Nat) (succeeds : Bool)
  | backupCopies (call count : Nat)
  | backupEnds (call : Nat) (succeeds : Bool)
  | renames (call : Nat) (succeeds : Bool)
  | restarterFails (call : Nat)
  | starts

namespace Panel

variable (panel : Panel)

def setUpdateProgress (phase : UpdatePhase) (percent : Nat) : Panel :=
  { panel with phase := phase, percent := percent }

def go (call : Nat) (stage : Stage) : Panel :=
  { panel with flight := panel.flight.move call stage }

/-- The deferred reset of an update that ends with an error. -/
def giveUp (call : Nat) : Panel :=
  { panel with flight := panel.flight.leave call }.setUpdateProgress .error 0

def removeNew : Panel := { panel with new := none }

/-- `progressReader.Read`. -/
def progress (total : Option Nat) (read : Nat) : Panel :=
  match total with
  | some (total + 1) =>
      let percent := read * 99 / (total + 1)
      if percent ≤ 99 then { panel with percent := percent } else panel
  | _ => panel

end Panel

def stepUpdate (goarch : String) (panel : Panel) :
    UpdateEvent → Option Panel
  | .updatePanel call =>
      if panel.flight.inside call ≠ none then none
      else
        match panel.flight.enter call .started with
        | none => some panel
        | some flight =>
            some ({ panel with flight := flight }.setUpdateProgress
              .downloading 0)
  | .pathFails call =>
      if panel.flight.inside call = some .started then some (panel.giveUp call)
      else none
  | .requestFails call =>
      if panel.flight.inside call = some .started then
        some (panel.removeNew.giveUp call)
      else none
  | .opened call contentLength =>
      if panel.flight.inside call = some .started then
        some ({ panel with new := some [] }.go call
          (.downloading contentLength 0))
      else none
  | .received call bytes =>
      match panel.flight.inside call with
      | some (.downloading total read) =>
          some ((({ panel with new := panel.new.map (· ++ bytes) }.progress total
            (read + bytes.length)).go call
              (.downloading total (read + bytes.length))))
      | _ => none
  | .downloadFails call =>
      match panel.flight.inside call with
      | some (.downloading _ _) => some (panel.removeNew.giveUp call)
      | _ => none
  | .downloaded call =>
      match panel.flight.inside call with
      | some (.downloading _ _) => some (panel.go call .downloaded)
      | _ => none
  | .checks call =>
      if panel.flight.inside call = some .downloaded then
        if (panel.new.map (isCompatibleBinary goarch)).getD false then
          some (panel.go call .checked)
        else some (panel.removeNew.giveUp call)
      else none
  | .chmods call succeeds =>
      if panel.flight.inside call = some .checked then
        if succeeds then
          some ((panel.setUpdateProgress .installing 99).go call .executable)
        else some (panel.removeNew.giveUp call)
      else none
  | .backupOpens call succeeds =>
      if panel.flight.inside call = some .executable then
        if succeeds then
          some ({ panel with bak := some [] }.go call (.copying 0))
        else some (panel.go call (.backedUp false))
      else none
  | .backupCopies call count =>
      match panel.flight.inside call with
      | some (.copying copied) =>
          some ({ panel with
            bak := panel.bak.map (· ++ (panel.exe.drop copied).take count) }.go
              call (.copying (copied + count)))
      | _ => none
  | .backupEnds call succeeds =>
      match panel.flight.inside call with
      | some (.copying copied) =>
          if succeeds then
            if panel.exe.length ≤ copied then
              some (panel.go call (.backedUp true))
            else none
          else some (panel.go call (.backedUp false))
      | _ => none
  | .renames call succeeds =>
      match panel.flight.inside call with
      | some (.backedUp _) =>
          if succeeds then
            panel.new.map fun new =>
              ({ panel with exe := new, new := none }.setUpdateProgress
                .restarting 100).go call .restarting
          else some (panel.removeNew.giveUp call)
      | _ => none
  | .restarterFails call =>
      if panel.flight.inside call = some .restarting then
        some { panel with flight := panel.flight.leave call }
      else none
  | .starts =>
      some { panel with
        running := panel.exe, flight := .idle, phase := .none, percent := 0 }

def updateMachine (goarch : String) : Machine Panel UpdateEvent :=
  ⟨stepUpdate goarch⟩

/-! What holds at every moment. -/

section Safety

variable {goarch : String} {panel next : Panel} {call : Nat}
  {stage later : Stage} {event : UpdateEvent}

/-- The new file is there and has passed the check as it is. -/
def Panel.Validated (goarch : String) (panel : Panel) : Prop :=
  ∃ file, panel.new = some file ∧ isCompatibleBinary goarch file = true

/-- What is known while the one call that is inside stands at a stage: what the
overview shows, and what has become of the files. -/
def Panel.Stands (goarch : String) (panel : Panel) : Stage → Prop
  | .started | .downloading _ _ | .downloaded =>
      panel.phase = .downloading ∧ panel.percent ≤ 99
  | .checked =>
      panel.phase = .downloading ∧ panel.percent ≤ 99 ∧ panel.Validated goarch
  | .executable =>
      panel.phase = .installing ∧ panel.percent = 99 ∧ panel.Validated goarch
  | .copying copied =>
      panel.phase = .installing ∧ panel.percent = 99 ∧
        panel.Validated goarch ∧ panel.bak = some (panel.exe.take copied)
  | .backedUp saved =>
      panel.phase = .installing ∧ panel.percent = 99 ∧
        panel.Validated goarch ∧ (saved = true → panel.bak = some panel.exe)
  | .restarting => panel.phase = .restarting ∧ panel.percent = 100

/-- The installed binary and the running one are fit for the machine, and one
update at most is under way. -/
structure Panel.Safe (goarch : String) (panel : Panel) : Prop where
  installed : isCompatibleBinary goarch panel.exe = true
  running : isCompatibleBinary goarch panel.running = true
  single : panel.flight.Single
  stands : ∀ call stage, panel.flight.inside call = some stage →
    panel.Stands goarch stage

/-- The call that is inside goes on to another stage. -/
theorem Panel.Safe.go (safe : panel.Safe goarch)
    (inside : panel.flight.inside call = some stage)
    (exe : isCompatibleBinary goarch next.exe = true)
    (running : next.running = panel.running)
    (flight : next.flight = panel.flight)
    (stands : next.Stands goarch later) :
    (next.go call later).Safe goarch := by
  refine ⟨exe, ?_, ?_, ?_⟩
  · show isCompatibleBinary goarch next.running = true
    rw [running]
    exact safe.running
  · show (next.flight.move call later).Single
    rw [flight]
    exact safe.single.move inside
  · intro other found within
    rw [Panel.go, flight] at within
    rcases Flight.inside_move.mp within with ⟨-, rfl⟩ | ⟨differs, old⟩
    · cases found <;> exact stands
    · exact absurd (safe.single.unique other call _ _ old inside) differs

/-- The call that is inside ends. -/
theorem Panel.Safe.leave (safe : panel.Safe goarch)
    (inside : panel.flight.inside call = some stage)
    (exe : next.exe = panel.exe) (running : next.running = panel.running)
    (flight : next.flight = panel.flight.leave call) : next.Safe goarch := by
  refine ⟨exe ▸ safe.installed, running ▸ safe.running, ?_, ?_⟩
  · rw [flight]
    exact safe.single.leave inside
  · intro other found within
    rw [flight] at within
    obtain ⟨differs, old⟩ := Flight.inside_leave.mp within
    exact absurd (safe.single.unique other call _ _ old inside) differs

theorem progress_eq (panel : Panel) (total : Option Nat) (read : Nat) :
    ∃ percent, panel.progress total read = { panel with percent := percent } ∧
      (panel.percent ≤ 99 → percent ≤ 99) := by
  unfold Panel.progress
  split
  · dsimp only
    split
    next small => exact ⟨_, rfl, fun _ => small⟩
    next => exact ⟨_, rfl, id⟩
  · exact ⟨_, rfl, id⟩

theorem Panel.Safe.step (safe : panel.Safe goarch)
    (stepped : stepUpdate goarch panel event = some next) :
    next.Safe goarch := by
  cases event with
  | updatePanel call =>
      simp only [stepUpdate] at stepped
      split at stepped
      · cases stepped
      next outside =>
        cases entered : panel.flight.enter call .started with
        | none =>
            rw [entered] at stepped
            obtain rfl := Option.some.inj stepped
            exact safe
        | some flight =>
            rw [entered] at stepped
            obtain rfl := Option.some.inj stepped
            refine ⟨safe.installed, safe.running, safe.single.enter entered, ?_⟩
            intro other found within
            rcases (Flight.inside_of_enter entered).mp within with
              ⟨-, rfl⟩ | ⟨-, old⟩
            · exact ⟨rfl, Nat.zero_le _⟩
            · have free := (Flight.enter_eq_some.mp entered).1
              exact absurd (safe.single.taken old) (by simp [free])
  | pathFails call =>
      simp only [stepUpdate, Option.ite_none_right_eq_some,
        Option.some.injEq] at stepped
      obtain ⟨inside, rfl⟩ := stepped
      exact safe.leave inside rfl rfl rfl
  | requestFails call =>
      simp only [stepUpdate, Option.ite_none_right_eq_some,
        Option.some.injEq] at stepped
      obtain ⟨inside, rfl⟩ := stepped
      exact safe.leave inside rfl rfl rfl
  | opened call contentLength =>
      simp only [stepUpdate, Option.ite_none_right_eq_some,
        Option.some.injEq] at stepped
      obtain ⟨inside, rfl⟩ := stepped
      refine safe.go inside safe.installed rfl rfl ?_
      exact safe.stands call _ inside
  | received call bytes =>
      simp only [stepUpdate] at stepped
      split at stepped
      next total read inside =>
        obtain rfl := Option.some.inj stepped
        obtain ⟨phase, percent⟩ := safe.stands call _ inside
        obtain ⟨shown, same, small⟩ := progress_eq
          { panel with new := panel.new.map (· ++ bytes) } total
          (read + bytes.length)
        rw [same]
        refine safe.go inside safe.installed rfl rfl ?_
        exact ⟨phase, small percent⟩
      next => cases stepped
  | downloadFails call =>
      simp only [stepUpdate] at stepped
      split at stepped
      next inside =>
        obtain rfl := Option.some.inj stepped
        exact safe.leave inside rfl rfl rfl
      next => cases stepped
  | downloaded call =>
      simp only [stepUpdate] at stepped
      split at stepped
      next inside =>
        obtain rfl := Option.some.inj stepped
        have downloading := safe.stands call _ inside
        exact safe.go inside safe.installed rfl rfl downloading
      next => cases stepped
  | checks call =>
      simp only [stepUpdate, Option.ite_none_right_eq_some] at stepped
      obtain ⟨inside, stepped⟩ := stepped
      split at stepped
      next passed =>
        obtain rfl := Option.some.inj stepped
        obtain ⟨phase, percent⟩ := safe.stands call _ inside
        refine safe.go inside safe.installed rfl rfl ?_
        refine ⟨phase, percent, ?_⟩
        cases found : panel.new with
        | none =>
            rw [found] at passed
            cases passed
        | some file =>
            rw [found] at passed
            exact ⟨file, found, passed⟩
      next =>
        obtain rfl := Option.some.inj stepped
        exact safe.leave inside rfl rfl rfl
  | chmods call succeeds =>
      simp only [stepUpdate, Option.ite_none_right_eq_some] at stepped
      obtain ⟨inside, stepped⟩ := stepped
      split at stepped
      · obtain rfl := Option.some.inj stepped
        obtain ⟨-, -, validated⟩ := safe.stands call _ inside
        refine safe.go inside safe.installed rfl rfl ?_
        exact ⟨rfl, rfl, validated⟩
      · obtain rfl := Option.some.inj stepped
        exact safe.leave inside rfl rfl rfl
  | backupOpens call succeeds =>
      simp only [stepUpdate, Option.ite_none_right_eq_some] at stepped
      obtain ⟨inside, stepped⟩ := stepped
      obtain ⟨phase, percent, validated⟩ := safe.stands call _ inside
      split at stepped
      · obtain rfl := Option.some.inj stepped
        refine safe.go inside safe.installed rfl rfl ?_
        exact ⟨phase, percent, validated, rfl⟩
      · obtain rfl := Option.some.inj stepped
        refine safe.go inside safe.installed rfl rfl ?_
        refine ⟨phase, percent, validated, ?_⟩
        intro saved
        cases saved
  | backupCopies call count =>
      simp only [stepUpdate] at stepped
      split at stepped
      next copied inside =>
        obtain rfl := Option.some.inj stepped
        obtain ⟨phase, percent, validated, bak⟩ := safe.stands call _ inside
        refine safe.go inside safe.installed rfl rfl ?_
        refine ⟨phase, percent, validated, ?_⟩
        rw [bak, List.take_add]
        rfl
      next => cases stepped
  | backupEnds call succeeds =>
      simp only [stepUpdate] at stepped
      split at stepped
      next copied inside =>
        obtain ⟨phase, percent, validated, bak⟩ := safe.stands call _ inside
        split at stepped
        · simp only [Option.ite_none_right_eq_some,
            Option.some.injEq] at stepped
          obtain ⟨whole, rfl⟩ := stepped
          refine safe.go inside safe.installed rfl rfl ?_
          refine ⟨phase, percent, validated, fun _ => ?_⟩
          rw [bak, List.take_of_length_le whole]
        · obtain rfl := Option.some.inj stepped
          refine safe.go inside safe.installed rfl rfl ?_
          refine ⟨phase, percent, validated, ?_⟩
          intro saved
          cases saved
      next => cases stepped
  | renames call succeeds =>
      simp only [stepUpdate] at stepped
      split at stepped
      next saved inside =>
        obtain ⟨-, -, ⟨file, found, passed⟩, -⟩ := safe.stands call _ inside
        split at stepped
        · rw [found] at stepped
          obtain rfl := Option.some.inj stepped
          refine safe.go inside passed rfl rfl ?_
          exact ⟨rfl, rfl⟩
        · obtain rfl := Option.some.inj stepped
          exact safe.leave inside rfl rfl rfl
      next => cases stepped
  | restarterFails call =>
      simp only [stepUpdate, Option.ite_none_right_eq_some,
        Option.some.injEq] at stepped
      obtain ⟨inside, rfl⟩ := stepped
      exact safe.leave inside rfl rfl rfl
  | starts =>
      obtain rfl := Option.some.inj stepped
      refine ⟨safe.installed, safe.installed, Flight.single_idle, ?_⟩
      intro other found within
      cases within

end Safety

/-- An ELF header for x86-64 with one byte more. -/
def smallBinary (last : UInt8) : Binary :=
  [0x7f, 0x45, 0x4c, 0x46, 2, 1, 1, 0, 0, 0, 0, 0, 0, 0, 0, 0, 2, 0, 0x3e, 0,
    last]

def oneUpdate : List UpdateEvent :=
  [.updatePanel 0, .opened 0 (some 21), .updatePanel 1,
    .received 0 (smallBinary 2), .downloaded 0, .checks 0, .chmods 0 true,
    .backupOpens 0 true, .backupCopies 0 21, .backupEnds 0 true,
    .renames 0 true, .starts]

end VpnUi.Update
