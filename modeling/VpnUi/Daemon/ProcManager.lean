import VpnUi.Foundation.Transition

namespace VpnUi.Daemon

open Foundation

/-! The supervisor of one daemon name.  Every critical section under the
process lock is one step, and so are the exits of the daemons. -/

/-- What a daemon is launched with. -/
structure Command where
  bin : String
  args : List String
  env : List String
  dir : String
  deriving DecidableEq

inductive Life
  | running
  | signalled
  | exited
  deriving DecidableEq

/-- A launched process.  Its supervisor holds the generation it was launched
in until it has reported the exit. -/
structure Launched where
  command : Command
  gen : Nat
  life : Life
  supervised : Bool
  deriving DecidableEq

/-- The record behind a name.  `cmd` is the place of the current process in
the order of the launches. -/
structure ManagedProc where
  command : Command
  cmd : Option Nat
  stopped : Bool
  gen : Nat
  deriving DecidableEq

/-- The record, whether the name is in the table yet, every process launched
so far, and the generations the sleeping restarts were scheduled in. -/
structure System where
  proc : ManagedProc
  known : Bool
  launched : List Launched
  restarts : List Nat
  deriving DecidableEq

def initial : System where
  proc := ⟨⟨"", [], [], ""⟩, none, false, 0⟩
  known := false
  launched := []
  restarts := []

def Launched.signal (process : Launched) : Launched :=
  if process.life = .running then { process with life := .signalled }
  else process

def Launched.exit (process : Launched) : Launched :=
  { process with life := .exited }

def Launched.report (process : Launched) : Launched :=
  { process with supervised := false }

namespace System

/-- Apply a change to the current process. -/
def onCurrent (change : Launched → Launched) (system : System) : System :=
  match system.proc.cmd with
  | none => system
  | some index =>
      { system with launched := system.launched.modify index change }

def terminateLocked (system : System) : System :=
  system.onCurrent Launched.signal

/-- A process that ignores SIGTERM is killed while the caller waits. -/
def waitProcessExit (system : System) : System :=
  system.onCurrent Launched.exit

/-- A failed launch leaves the record as it was. -/
def launchLocked (started : Bool) (system : System) : System :=
  if started then
    { system with
      launched := system.launched ++
        [⟨system.proc.command, system.proc.gen, .running, true⟩]
      proc := { system.proc with cmd := some system.launched.length } }
  else system

def nextGen (system : System) : System :=
  { system with proc := { system.proc with gen := system.proc.gen + 1 } }

def setCommand (command : Command) (system : System) : System :=
  { system with
    proc := { system.proc with command := command, stopped := false } }

def start (command : Command) (started : Bool) (system : System) : System :=
  { system.nextGen.terminateLocked.waitProcessExit.setCommand command with
    known := true }.launchLocked started

def stop (system : System) : System :=
  if system.known then
    { system with
      proc := { system.proc with
        stopped := true, gen := system.proc.gen + 1 } }.terminateLocked
  else system

/-- The supervisor of a process that has exited. -/
def supervise (index gen : Nat) (system : System) : System :=
  let reported : System :=
    { system with launched := system.launched.modify index Launched.report }
  if gen ≠ system.proc.gen ∨ system.proc.stopped then reported
  else { reported with restarts := system.proc.gen :: system.restarts }

/-- A restart that has slept its five seconds. -/
def wake (index restartGen : Nat) (started : Bool) (system : System) : System :=
  let woken : System :=
    { system with restarts := system.restarts.eraseIdx index }
  if system.proc.stopped ∨ system.proc.gen ≠ restartGen then woken
  else (woken.nextGen.terminateLocked).launchLocked started

end System

inductive Event
  | start (command : Command) (started : Bool)
  | stop
  | kill
  | exit (index : Nat)
  | supervise (index : Nat)
  | wake (index : Nat) (started : Bool)
  deriving DecidableEq

def step (system : System) : Event → Option System
  | .start command started => some (system.start command started)
  | .stop => some system.stop
  | .kill => some system.terminateLocked
  | .exit index =>
      if index < system.launched.length then
        some { system with
          launched := system.launched.modify index Launched.exit }
      else none
  | .supervise index =>
      match system.launched[index]? with
      | some process =>
          if process.life = .exited ∧ process.supervised then
            some (system.supervise index process.gen)
          else none
      | none => none
  | .wake index started =>
      (system.restarts[index]?).map fun restartGen =>
        system.wake index restartGen started

def procManager : Machine System Event := ⟨step⟩

def Event.isStart : Event → Bool
  | .start _ _ => true
  | _ => false

/-- The processes that have not ended yet. -/
def System.alive (system : System) : List Launched :=
  system.launched.filter (·.life ≠ .exited)

end VpnUi.Daemon
