import Mathlib.Data.List.Count
import Mathlib.Order.Nat
import VpnUi.Xray.Service

namespace VpnUi.Xray

open Foundation

/-! What the background tasks leave of a manual stop. -/

theorem countP_modify_eq {Element : Type*} (counts : Element → Bool)
    (change : Element → Element) (elements : List Element) (index : Nat)
    (kept : ∀ element, elements[index]? = some element →
      counts (change element) = counts element) :
    (elements.modify index change).countP counts =
      elements.countP counts := by
  induction elements generalizing index with
  | nil => simp
  | cons first rest induction =>
      cases index with
      | zero =>
          rw [List.modify_zero_cons, List.countP_cons, List.countP_cons,
            kept first rfl]
      | succ index =>
          rw [List.modify_succ_cons, List.countP_cons, List.countP_cons,
            induction index kept]

/-- The cores that the operating system has been given so far. -/
def XrayService.spawned (service : XrayService) : Nat :=
  service.processes.countP Process.spawned

/-- No task waits for the lock, and no spawning is still to come. -/
def Panel.Settled (panel : Panel) : Prop :=
  panel.calls = [] ∧
    ∀ process ∈ panel.service.processes, process.life ≠ .pending

instance (panel : Panel) : Decidable panel.Settled :=
  inferInstanceAs (Decidable (_ ∧ ∀ _ ∈ _, _))

def Event.isRestart : Event → Bool
  | .restartXray _ _ _ => true
  | _ => false

/-- The half-minute task finds no restart flagged, and the dokodemo job does not
miss a port of the dying core for the second time. -/
def Respects (panel : Panel) : Event → Prop
  | .checkNeedRestart => panel.service.isNeedXrayRestart = false
  | .checkVpnDokodemo missing =>
      panel.service.isXrayRunning = true → missing = true →
        1 ≤ panel.missStreak → 3 ≤ panel.healAttempts
  | _ => True

instance (panel : Panel) (event : Event) : Decidable (Respects panel event) := by
  cases event <;> unfold Respects <;> infer_instance

/-- The core was stopped by hand when `count` had been spawned. -/
structure Stopped (count : Nat) (panel : Panel) : Prop where
  calls : panel.calls = []
  manual : panel.service.isManuallyStopped = true
  settled : ∀ process ∈ panel.service.processes, process.life ≠ .pending
  spawned : panel.service.spawned = count

namespace Stopped

variable {count : Nat} {panel : Panel}

/-- A change of one process that neither spawns it nor makes it wait. -/
theorem modify (stopped : Stopped count panel) (index : Nat)
    {change : Process → Process}
    (same : ∀ process, panel.service.processes[index]? = some process →
      (change process).spawned = process.spawned ∧
        ((change process).life = .pending → process.life = .pending)) :
    Stopped count { panel with
      service := { panel.service with
        processes := panel.service.processes.modify index change } } where
  calls := stopped.calls
  manual := stopped.manual
  settled process member := by
    obtain ⟨place, found⟩ := List.getElem?_of_mem member
    rw [List.getElem?_modify] at found
    obtain ⟨old, stored, image⟩ := Option.map_eq_some_iff.mp found
    have before := stopped.settled old (List.mem_of_getElem? stored)
    split at image
    next here =>
      subst here
      exact image ▸ fun pending => before ((same old stored).2 pending)
    next => exact image ▸ before
  spawned := (countP_modify_eq _ _ _ _ fun process found =>
    (same process found).1).trans stopped.spawned

theorem stopCurrent (stopped : Stopped count panel) :
    Stopped count { panel with service := panel.service.stopCurrent } := by
  rw [XrayService.stopCurrent_eq]
  refine stopped.modify 0 fun process _ => ?_
  cases life : process.life <;>
    simp [Process.signal, Process.spawned, Process.isRunning, life]

/-- A further stop changes nothing. -/
theorem stopXray (stopped : Stopped count panel) :
    Stopped count { panel with service := panel.service.stopXray.1 } := by
  have marked : Stopped count { panel with
      service := { panel.service with isManuallyStopped := true } } :=
    ⟨stopped.calls, rfl, stopped.settled, stopped.spawned⟩
  unfold XrayService.stopXray
  dsimp only
  split
  · exact marked.stopCurrent
  · exact marked

theorem step {next : Panel} {event : Event} (stopped : Stopped count panel)
    (respects : Respects panel event) (task : event.isRestart = false)
    (stepped : panelMachine.step panel event = some next) :
    Stopped count next := by
  cases event with
  | spawn index spawned =>
      simp only [panelMachine, stepPanel] at stepped
      split at stepped
      next process found =>
        simp only [Option.ite_none_right_eq_some] at stepped
        exact absurd stepped.1
          (stopped.settled process (List.mem_of_getElem? found))
      next => cases stepped
  | exit index =>
      simp only [panelMachine, stepPanel] at stepped
      split at stepped
      next process found =>
        simp only [Option.ite_none_right_eq_some, Option.some.injEq] at stepped
        obtain ⟨alive, rfl⟩ := stepped
        refine stopped.modify index fun other stored => ?_
        obtain rfl := Option.some.inj (found.symm.trans stored)
        cases life : process.life <;>
          simp [Process.alive, Process.spawned, Process.isRunning, life]
            at alive ⊢
      next => cases stepped
  | reap index =>
      simp only [panelMachine, stepPanel] at stepped
      split at stepped
      next process found =>
        simp only [Option.ite_none_right_eq_some, Option.some.injEq] at stepped
        obtain ⟨exited, rfl⟩ := stepped
        refine stopped.modify index fun other stored => ?_
        obtain rfl := Option.some.inj (found.symm.trans stored)
        simp [Process.spawned, Process.isRunning, exited]
      next => cases stepped
  | collect index =>
      simp only [panelMachine, stepPanel, Option.ite_none_right_eq_some,
        Option.some.injEq] at stepped
      obtain ⟨_, rfl⟩ := stepped
      refine stopped.modify index fun process _ => ?_
      cases life : process.life <;>
        simp [Process.signal, Process.spawned, Process.isRunning, life]
  | checkXrayRunning =>
      obtain rfl := Option.some.inj stepped
      have calm : panel.service.didXrayCrash = false := by
        simp [XrayService.didXrayCrash, stopped.manual]
      unfold checkXrayRunning
      rw [calm]
      exact ⟨stopped.calls, stopped.manual, stopped.settled, stopped.spawned⟩
  | checkNeedRestart =>
      obtain rfl := Option.some.inj stepped
      have unflagged : panel.service.isNeedXrayRestart = false := respects
      unfold checkNeedRestart
      rw [unflagged]
      exact stopped
  | checkVpnDokodemo missing =>
      obtain rfl := Option.some.inj stepped
      unfold checkVpnDokodemo
      split
      · exact ⟨stopped.calls, stopped.manual, stopped.settled, stopped.spawned⟩
      next running =>
        split
        · exact ⟨stopped.calls, stopped.manual, stopped.settled,
            stopped.spawned⟩
        next misses =>
          split
          · exact ⟨stopped.calls, stopped.manual, stopped.settled,
              stopped.spawned⟩
          next again =>
            have given := respects (by simpa using running)
              (by simpa using misses) (by omega)
            rw [if_pos given]
            exact ⟨stopped.calls, stopped.manual, stopped.settled,
              stopped.spawned⟩
  | perform call generated started =>
      simp only [panelMachine, stepPanel, stopped.calls] at stepped
      simp at stepped
  | setToNeedRestart =>
      obtain rfl := Option.some.inj stepped
      exact ⟨stopped.calls, stopped.manual, stopped.settled, stopped.spawned⟩
  | restartXray isForce generated started => cases task
  | stopXray =>
      obtain rfl := Option.some.inj stepped
      exact stopped.stopXray

end Stopped

/-- The panel right after the operator has stopped the core. -/
def halted (panel : Panel) : Panel :=
  { panel with service := panel.service.stopXray.1 }

theorem stopped_halted {panel : Panel} (settled : panel.Settled) :
    Stopped panel.service.spawned (halted panel) := by
  have marked : Stopped panel.service.spawned { panel with
      service := { panel.service with isManuallyStopped := true } } :=
    ⟨settled.1, rfl, settled.2, rfl⟩
  unfold halted XrayService.stopXray
  dsimp only
  split
  · exact marked.stopCurrent
  · exact marked

/-- After a manual stop, successful or not, the background tasks start no
core. -/
theorem stays_stopped_throughout (panel : Panel) (events : List Event)
    (tasks : ∀ event ∈ events, event.isRestart = false)
    (settled : panel.Settled)
    (respects : panelMachine.Guarded Respects (halted panel) events) :
    panelMachine.Throughout
      (fun later => later.service.spawned = panel.service.spawned)
      (halted panel) events :=
  (panelMachine.throughout_of_guarded
    (fun _ _ _ stopped both stepped => stopped.step both.1 both.2 stepped)
    (stopped_halted settled) (respects.and panelMachine tasks)).imp _
      fun _ stopped => stopped.spawned

/-- A panel whose core runs. -/
def runningPanel (flagged : Bool) : Panel where
  service := ⟨[⟨.blank, .running⟩], flagged, false⟩
  checkTime := 0
  missStreak := 0
  healAttempts := 0
  calls := []

theorem stays_stopped_unflagged :
    panelMachine.Throughout
      (fun later => later.service.spawned =
        (runningPanel false).service.spawned) (halted (runningPanel false))
      [.checkXrayRunning, .exit 0, .reap 0, .checkXrayRunning,
        .checkXrayRunning, .checkNeedRestart, .checkVpnDokodemo true] :=
  stays_stopped_throughout (runningPanel false) _ (by decide) (by decide)
    (by decide)

/-- A restart was flagged before the stop, and the half-minute task carries it
out once the core is gone. -/
theorem started_after_flag :
    (runningPanel true).service.stopXray.2 = true ∧
      panelMachine.run initial
        [.restartXray true (some .blank) true, .spawn 0 true,
          .setToNeedRestart] = some (runningPanel true) ∧
      ∃ panel, panelMachine.run (halted (runningPanel true))
          [.exit 0, .reap 0, .checkNeedRestart,
            .perform .needRestart (some .blank) true, .spawn 0 true] =
              some panel ∧
        panel.service.spawned ≠ (runningPanel true).service.spawned :=
  ⟨rfl, rfl, _, rfl, by decide⟩

end VpnUi.Xray
