import Mathlib.Data.List.Count
import Mathlib.Order.Nat
import VpnUi.Xray.Service

namespace VpnUi.Xray

open Foundation

/-! How many cores the operating system has at a time. -/

/-- A changed element counts no more than it did. -/
theorem countP_modify_le {Element : Type*} (counts : Element → Bool)
    (change : Element → Element) (elements : List Element) (index : Nat)
    (kept : ∀ element, elements[index]? = some element →
      counts (change element) = true → counts element = true) :
    (elements.modify index change).countP counts ≤
      elements.countP counts := by
  induction elements generalizing index with
  | nil => simp
  | cons first rest induction =>
      cases index with
      | zero =>
          simp only [List.modify_zero_cons, List.countP_cons]
          have := kept first rfl
          split <;> split <;> simp_all
      | succ index =>
          simp only [List.modify_succ_cons, List.countP_cons]
          have := induction index kept
          omega

/-- Processes that run, or whose spawning is still to come. -/
def XrayService.live (service : XrayService) : Nat :=
  service.processes.countP (!·.ended)

def XrayService.alive (service : XrayService) : Nat :=
  service.processes.countP Process.alive

theorem XrayService.alive_le_live (service : XrayService) :
    service.alive ≤ service.live :=
  List.countP_mono_left fun process _ alive => by
    cases life : process.life <;>
      simp [Process.alive, Process.ended, life] at alive ⊢

/-- A restart that launches a core finds every earlier one gone. -/
def FindsNone (service : XrayService) (isForce : Bool)
    (generated : Option Config) (started : Bool) : Prop :=
  started = true → ∀ config ∈ generated,
    service.skips isForce config = false →
      ∀ process ∈ service.processes, process.ended = true

instance (service : XrayService) (isForce : Bool) (generated : Option Config)
    (started : Bool) :
    Decidable (FindsNone service isForce generated started) :=
  inferInstanceAs (Decidable (_ → ∀ _ ∈ _, _ → ∀ _ ∈ _, _))

def ReplacesEnded (panel : Panel) : Event → Prop
  | .perform call generated started =>
      FindsNone panel.service call.isForce generated started
  | .restartXray isForce generated started =>
      FindsNone panel.service isForce generated started
  | _ => True

instance (panel : Panel) : (event : Event) →
    Decidable (ReplacesEnded panel event)
  | .perform call generated started =>
      inferInstanceAs (Decidable
        (FindsNone panel.service call.isForce generated started))
  | .restartXray isForce generated started =>
      inferInstanceAs (Decidable
        (FindsNone panel.service isForce generated started))
  | .spawn .. | .exit .. | .reap .. | .collect .. | .checkXrayRunning
  | .checkNeedRestart | .checkVpnDokodemo .. | .setToNeedRestart
  | .stopXray => isTrue trivial

namespace XrayService

variable {service : XrayService}

theorem live_stopCurrent : service.stopCurrent.live ≤ service.live := by
  rw [stopCurrent_eq]
  refine countP_modify_le _ _ _ _ fun process _ => ?_
  cases life : process.life <;> simp [Process.ended, Process.signal, life]

theorem live_alter {index : Nat} {life : Life}
    (kept : ∀ process, service.processes[index]? = some process →
      (Process.mk process.config life).ended = false →
        process.ended = false) :
    (service.alter index life).live ≤ service.live := by
  refine countP_modify_le _ _ _ _ fun process found counts => ?_
  simpa using kept process found (by simpa [Process.ended] using counts)

theorem live_restartXray {isForce started : Bool} {generated : Option Config}
    (single : service.live ≤ 1)
    (finds : FindsNone service isForce generated started) :
    (service.restartXray isForce generated started).1.live ≤ 1 := by
  unfold restartXray
  cases generated with
  | none => exact single
  | some config =>
      dsimp only
      split
      next => exact single
      next goes =>
        have idle : service.skips isForce config = false :=
          Bool.eq_false_iff.mpr goes
        have replaced : ∀ old : XrayService, old.live ≤ service.live →
            (old.launch config started).live ≤ 1 := by
          intro old fewer
          cases started with
          | false =>
              show (Process.mk config .unstarted :: old.processes).countP
                (!·.ended) ≤ 1
              rw [List.countP_cons_of_neg (by simp [Process.ended])]
              exact fewer.trans single
          | true =>
              have none : service.live = 0 := by
                refine List.countP_eq_zero.mpr fun process member => ?_
                simp [finds rfl config rfl idle process member]
              show (Process.mk config .pending :: old.processes).countP
                (!·.ended) ≤ 1
              have zero : old.processes.countP (!·.ended) = 0 :=
                Nat.le_zero.mp (none ▸ fewer)
              rw [List.countP_cons_of_pos (by rfl), zero]
        split
        · exact replaced _ (@live_stopCurrent
            { service with isManuallyStopped := false })
        · exact replaced _ le_rfl

theorem live_stopXray : service.stopXray.1.live ≤ service.live := by
  unfold stopXray
  dsimp only
  split
  · exact @live_stopCurrent { service with isManuallyStopped := true }
  · exact le_rfl

end XrayService

/-- No event but a restart that replaces a live core makes a second one. -/
theorem live_le_step {panel next : Panel} {event : Event}
    (single : panel.service.live ≤ 1) (replaces : ReplacesEnded panel event)
    (stepped : panelMachine.step panel event = some next) :
    next.service.live ≤ 1 := by
  cases event with
  | spawn index spawned =>
      simp only [panelMachine, stepPanel] at stepped
      split at stepped
      next process found =>
        simp only [Option.ite_none_right_eq_some, Option.some.injEq] at stepped
        obtain ⟨pending, rfl⟩ := stepped
        refine (XrayService.live_alter fun other stored _ => ?_).trans single
        obtain rfl := Option.some.inj (found.symm.trans stored)
        simp [Process.ended, pending]
      next => cases stepped
  | exit index =>
      simp only [panelMachine, stepPanel] at stepped
      split at stepped
      next process found =>
        simp only [Option.ite_none_right_eq_some, Option.some.injEq] at stepped
        obtain ⟨_, rfl⟩ := stepped
        refine (XrayService.live_alter fun other stored live => ?_).trans single
        simp [Process.ended] at live
      next => cases stepped
  | reap index =>
      simp only [panelMachine, stepPanel] at stepped
      split at stepped
      next process found =>
        simp only [Option.ite_none_right_eq_some, Option.some.injEq] at stepped
        obtain ⟨_, rfl⟩ := stepped
        refine (XrayService.live_alter fun other stored live => ?_).trans single
        simp [Process.ended] at live
      next => cases stepped
  | collect index =>
      simp only [panelMachine, stepPanel, Option.ite_none_right_eq_some,
        Option.some.injEq] at stepped
      obtain ⟨_, rfl⟩ := stepped
      refine (countP_modify_le _ _ _ _ fun process _ => ?_).trans single
      cases life : process.life <;> simp [Process.ended, Process.signal, life]
  | checkXrayRunning =>
      obtain rfl := Option.some.inj stepped
      unfold checkXrayRunning
      dsimp only
      split
      · split <;> exact single
      · exact single
  | checkNeedRestart =>
      obtain rfl := Option.some.inj stepped
      unfold checkNeedRestart
      split <;> exact single
  | checkVpnDokodemo missing =>
      obtain rfl := Option.some.inj stepped
      unfold checkVpnDokodemo
      split
      · exact single
      · split
        · exact single
        · split
          · exact single
          · split <;> exact single
  | perform call generated started =>
      simp only [panelMachine, stepPanel, Option.ite_none_right_eq_some,
        Option.some.injEq] at stepped
      obtain ⟨_, rfl⟩ := stepped
      exact XrayService.live_restartXray single replaces
  | setToNeedRestart =>
      obtain rfl := Option.some.inj stepped
      exact single
  | restartXray isForce generated started =>
      obtain rfl := Option.some.inj stepped
      exact XrayService.live_restartXray single replaces
  | stopXray =>
      obtain rfl := Option.some.inj stepped
      exact XrayService.live_stopXray.trans single

/-- As long as every restart finds the earlier cores gone, there is never more
than one. -/
theorem one_core_throughout (events : List Event)
    (replaces : panelMachine.Guarded ReplacesEnded initial events) :
    panelMachine.Throughout (fun panel => panel.service.alive ≤ 1)
      initial events :=
  (panelMachine.throughout_of_guarded
    (fun _ _ _ single replaces stepped => live_le_step single replaces stepped)
    (Nat.zero_le _) replaces).imp _ fun panel single =>
      panel.service.alive_le_live.trans single

theorem one_core_after_stop_and_exit :
    panelMachine.Throughout (fun panel => panel.service.alive ≤ 1) initial
      [.restartXray true (some .blank) true, .spawn 0 true, .stopXray, .exit 0,
        .restartXray false (some .blank) true, .spawn 0 true] :=
  one_core_throughout _ (by decide)

/-- The signalled core still runs when its successor is spawned. -/
theorem two_cores_after_restart :
    ∃ panel, panelMachine.run initial
        [.restartXray true (some .blank) true, .spawn 0 true,
          .restartXray true (some .blank) true, .spawn 0 true] = some panel ∧
      panel.service.processes.map Process.life = [.running, .signalled] ∧
      ¬ panel.service.alive ≤ 1 :=
  ⟨_, rfl, rfl, by decide⟩

end VpnUi.Xray
