import VpnUi.Foundation.Transition
import VpnUi.Xray.Config

namespace VpnUi.Xray

open Foundation

/-! The processes of the core, the service that starts and stops them, and the
background tasks of the panel that ask it to. -/

/-- `Start` leaves the spawning to a goroutine; `Stop` only signals; the
goroutine learns of the exit later than it happens. -/
inductive Life
  | unstarted
  | pending
  | failed
  | running
  | signalled
  | exited
  | reaped
  deriving DecidableEq

structure Process where
  config : Config
  life : Life
  deriving DecidableEq

namespace Process

def isRunning (process : Process) : Bool :=
  process.life = .running || process.life = .signalled ||
    process.life = .exited

/-- The operating system has the process. -/
def alive (process : Process) : Bool :=
  process.life = .running || process.life = .signalled

/-- The operating system has had the process. -/
def spawned (process : Process) : Bool :=
  process.isRunning || process.life = .reaped

/-- The process is gone, or will never be. -/
def ended (process : Process) : Bool :=
  process.life = .unstarted || process.life = .failed ||
    process.life = .exited || process.life = .reaped

def signal (process : Process) : Process :=
  if process.life = .running then { process with life := .signalled }
  else process

end Process

/-- The processes of all `NewProcess` calls, the latest first, which is the one
the service knows. -/
structure XrayService where
  processes : List Process
  isNeedXrayRestart : Bool
  isManuallyStopped : Bool
  deriving DecidableEq

namespace XrayService

def isXrayRunning (service : XrayService) : Bool :=
  match service.processes with
  | process :: _ => process.isRunning
  | [] => false

def didXrayCrash (service : XrayService) : Bool :=
  !service.isXrayRunning && !service.isManuallyStopped

def stopCurrent (service : XrayService) : XrayService :=
  match service.processes with
  | process :: older => { service with processes := process.signal :: older }
  | [] => service

theorem stopCurrent_eq (service : XrayService) :
    service.stopCurrent = { service with
      processes := service.processes.modify 0 Process.signal } := by
  obtain ⟨processes, _, _⟩ := service
  cases processes <;> rfl

/-- `NewProcess` and `Start`, which may fail before it hands the spawning to
its goroutine. -/
def launch (config : Config) (started : Bool) (service : XrayService) :
    XrayService :=
  { service with
    processes := ⟨config, if started then .pending else .unstarted⟩ ::
      service.processes }

/-- The running core is left alone. -/
def skips (service : XrayService) (isForce : Bool) (config : Config) : Bool :=
  match service.processes with
  | process :: _ =>
      process.isRunning && !isForce && process.config.equals config &&
        !service.isNeedXrayRestart
  | [] => false

/-- The new state, and whether the call returns nil. -/
def restartXray (isForce : Bool) (generated : Option Config) (started : Bool)
    (service : XrayService) : XrayService × Bool :=
  let cleared : XrayService := { service with isManuallyStopped := false }
  match generated with
  | none => (cleared, false)
  | some config =>
      if cleared.skips isForce config then (cleared, true)
      else if cleared.isXrayRunning then
        (cleared.stopCurrent.launch config started, started)
      else (cleared.launch config started, started)

def stopXray (service : XrayService) : XrayService × Bool :=
  let marked : XrayService := { service with isManuallyStopped := true }
  if marked.isXrayRunning then (marked.stopCurrent, true) else (marked, false)

def alter (service : XrayService) (index : Nat) (life : Life) : XrayService :=
  { service with
    processes := service.processes.modify index fun process =>
      { process with life := life } }

end XrayService

/-- A task that has decided to restart and waits for the lock. -/
inductive Call
  | health
  | needRestart
  | dokodemo
  deriving DecidableEq

def Call.isForce : Call → Bool
  | .dokodemo => true
  | _ => false

/-- The service, the counters of the two health jobs, and the calls of
`RestartXray` their runs and the half-minute check are about to make. -/
structure Panel where
  service : XrayService
  checkTime : Nat
  missStreak : Nat
  healAttempts : Nat
  calls : List Call
  deriving DecidableEq

def initial : Panel where
  service := ⟨[], false, false⟩
  checkTime := 0
  missStreak := 0
  healAttempts := 0
  calls := []

/-- `CheckXrayRunningJob` up to its call. -/
def checkXrayRunning (panel : Panel) : Panel :=
  if panel.service.didXrayCrash then
    let counted : Panel := { panel with checkTime := panel.checkTime + 1 }
    if counted.checkTime > 1 then
      { counted with calls := .health :: counted.calls }
    else counted
  else { panel with checkTime := 0 }

/-- `IsNeedRestartAndSetFalse`, as the half-minute task runs it. -/
def checkNeedRestart (panel : Panel) : Panel :=
  if panel.service.isNeedXrayRestart then
    { panel with
      service := { panel.service with isNeedXrayRestart := false }
      calls := .needRestart :: panel.calls }
  else panel

/-- `CheckVpnDokodemoJob` up to its call. -/
def checkVpnDokodemo (missing : Bool) (panel : Panel) : Panel :=
  if !panel.service.isXrayRunning then { panel with missStreak := 0 }
  else if !missing then { panel with missStreak := 0, healAttempts := 0 }
  else if panel.missStreak + 1 < 2 then
    { panel with missStreak := panel.missStreak + 1 }
  else if panel.healAttempts ≥ 3 then { panel with missStreak := 0 }
  else
    { panel with
      missStreak := 0
      healAttempts := panel.healAttempts + 1
      calls := .dokodemo :: panel.calls }

/-- A waiting call gets the lock. -/
def perform (call : Call) (generated : Option Config) (started : Bool)
    (panel : Panel) : Panel :=
  { panel with
    service := (panel.service.restartXray call.isForce generated started).1
    checkTime := if call = .health then 0 else panel.checkTime
    calls := panel.calls.erase call }

/-- What the processes do, what the tasks do, an edit that flags a restart, and
the two requests of the operator. -/
inductive Event
  | spawn (index : Nat) (spawned : Bool)
  | exit (index : Nat)
  | reap (index : Nat)
  | collect (index : Nat)
  | checkXrayRunning
  | checkNeedRestart
  | checkVpnDokodemo (missing : Bool)
  | perform (call : Call) (generated : Option Config) (started : Bool)
  | setToNeedRestart
  | restartXray (isForce : Bool) (generated : Option Config) (started : Bool)
  | stopXray

def stepPanel (panel : Panel) : Event → Option Panel
  | .spawn index spawned =>
      match panel.service.processes[index]? with
      | some process =>
          if process.life = .pending then
            some { panel with
              service := panel.service.alter index
                (if spawned then .running else .failed) }
          else none
      | none => none
  | .exit index =>
      match panel.service.processes[index]? with
      | some process =>
          if process.alive then
            some { panel with service := panel.service.alter index .exited }
          else none
      | none => none
  | .reap index =>
      match panel.service.processes[index]? with
      | some process =>
          if process.life = .exited then
            some { panel with service := panel.service.alter index .reaped }
          else none
      | none => none
  -- the finalizer of a replaced process stops it
  | .collect index =>
      if 0 < index then
        some { panel with
          service := { panel.service with
            processes := panel.service.processes.modify index
              Process.signal } }
      else none
  | .checkXrayRunning => some (checkXrayRunning panel)
  | .checkNeedRestart => some (checkNeedRestart panel)
  | .checkVpnDokodemo missing => some (checkVpnDokodemo missing panel)
  | .perform call generated started =>
      if call ∈ panel.calls then some (perform call generated started panel)
      else none
  | .setToNeedRestart =>
      some { panel with
        service := { panel.service with isNeedXrayRestart := true } }
  | .restartXray isForce generated started =>
      some { panel with
        service := (panel.service.restartXray isForce generated started).1 }
  | .stopXray => some { panel with service := panel.service.stopXray.1 }

def panelMachine : Machine Panel Event := ⟨stepPanel⟩

end VpnUi.Xray
