import VpnUi.Daemon.Supervision

namespace VpnUi.Daemon

open Foundation

/-! What the delayed restarts of a daemon can still launch: nothing after a
stop, and only the command of the latest start. -/

namespace System

variable {system next : System}

@[simp] theorem gen_launchLocked (started : Bool) :
    (system.launchLocked started).proc.gen = system.proc.gen := by
  unfold launchLocked
  split <;> rfl

@[simp] theorem command_launchLocked (started : Bool) :
    (system.launchLocked started).proc.command = system.proc.command := by
  unfold launchLocked
  split <;> rfl

theorem gen_start (command : Command) (started : Bool) :
    (system.start command started).proc.gen = system.proc.gen + 1 := by
  simp [start, setCommand, waitProcessExit, terminateLocked, nextGen]

theorem command_start (command : Command) (started : Bool) :
    (system.start command started).proc.command = command := by
  simp [start, setCommand]

theorem commands_start (command : Command) (started : Bool) :
    (system.start command started).launched.map Launched.command =
      system.launched.map Launched.command ++
        if started then [command] else [] := by
  have kept : (system.nextGen.terminateLocked.waitProcessExit.setCommand
      command).launched.map Launched.command =
        system.launched.map Launched.command :=
    settles_exit.map_command_onCurrent.trans
      settles_signal.map_command_onCurrent
  unfold start launchLocked
  cases started with
  | false => simpa using kept
  | true =>
      rw [if_pos rfl, if_pos rfl, List.map_append]
      exact congrArg₂ _ kept rfl

theorem gen_le_step {event : Event}
    (stepped : procManager.step system event = some next) :
    system.proc.gen ≤ next.proc.gen := by
  cases event with
  | start command started =>
      obtain rfl := Option.some.inj stepped
      exact (gen_start command started).symm ▸ Nat.le_succ _
  | stop =>
      obtain rfl := Option.some.inj stepped
      show _ ≤ system.stop.proc.gen
      unfold stop
      split
      · simp [terminateLocked]
      · exact le_rfl
  | kill =>
      obtain rfl := Option.some.inj stepped
      simp [terminateLocked]
  | exit index =>
      simp only [procManager, Daemon.step] at stepped
      split at stepped
      · obtain rfl := Option.some.inj stepped
        exact le_rfl
      · cases stepped
  | supervise index =>
      simp only [procManager, Daemon.step] at stepped
      split at stepped
      · split at stepped
        · obtain rfl := Option.some.inj stepped
          unfold supervise
          dsimp only
          split <;> exact le_rfl
        · cases stepped
      · cases stepped
  | wake index started =>
      obtain ⟨gen, found, rfl⟩ := Option.map_eq_some_iff.mp stepped
      unfold wake
      dsimp only
      split
      · exact le_rfl
      · simp [terminateLocked, nextGen]

theorem gen_le_run {events : List Event}
    (reached : procManager.run system events = some next) :
    system.proc.gen ≤ next.proc.gen :=
  @Machine.run_invariant _ _ procManager
    (fun state => system.proc.gen ≤ state.proc.gen)
    (fun _ _ _ le stepped => le.trans (gen_le_step stepped)) _ _ _ le_rfl
    reached

/-- A name that is not in the table has launched and scheduled nothing. -/
def Untouched (system : System) : Prop :=
  system.launched = [] ∧ system.restarts = []

theorem Untouched.onCurrent (untouched : system.Untouched)
    (change : Launched → Launched) : (system.onCurrent change).Untouched := by
  refine ⟨List.eq_nil_of_length_eq_zero ?_, ?_⟩
  · rw [length_onCurrent, untouched.1, List.length_nil]
  · rw [onCurrent_restarts, untouched.2]

theorem Untouched.step {event : Event} (untouched : system.Untouched)
    (other : event.isStart = false)
    (stepped : procManager.step system event = some next) :
    next.Untouched := by
  cases event with
  | start command started => cases other
  | stop =>
      obtain rfl := Option.some.inj stepped
      show system.stop.Untouched
      unfold stop
      split
      · have bumped : Untouched { system with
            proc := { system.proc with
              stopped := true, gen := system.proc.gen + 1 } } := untouched
        exact bumped.onCurrent _
      · exact untouched
  | kill =>
      obtain rfl := Option.some.inj stepped
      exact untouched.onCurrent _
  | exit index =>
      simp [procManager, Daemon.step, untouched.1] at stepped
  | supervise index =>
      simp [procManager, Daemon.step, untouched.1] at stepped
  | wake index started =>
      simp [procManager, Daemon.step, untouched.2] at stepped

theorem known_of_step {event : Event} (known : system.known = true)
    (stepped : procManager.step system event = some next) :
    next.known = true := by
  have launching : ∀ (started : Bool) (ready : System),
      (ready.launchLocked started).known = ready.known := fun started ready => by
    unfold launchLocked
    split <;> rfl
  cases event with
  | start command started =>
      obtain rfl := Option.some.inj stepped
      exact launching _ _
  | stop =>
      obtain rfl := Option.some.inj stepped
      show system.stop.known = true
      simp [stop, known, terminateLocked]
  | kill =>
      obtain rfl := Option.some.inj stepped
      simpa [terminateLocked] using known
  | exit index =>
      simp only [procManager, Daemon.step] at stepped
      split at stepped
      · obtain rfl := Option.some.inj stepped
        exact known
      · cases stepped
  | supervise index =>
      simp only [procManager, Daemon.step] at stepped
      split at stepped
      · split at stepped
        · obtain rfl := Option.some.inj stepped
          unfold supervise
          dsimp only
          split <;> exact known
        · cases stepped
      · cases stepped
  | wake index started =>
      obtain ⟨gen, found, rfl⟩ := Option.map_eq_some_iff.mp stepped
      unfold wake
      dsimp only
      split
      · exact known
      · rw [launching, terminateLocked, onCurrent_known]
        exact known

theorem untouched_of_unknown {events : List Event}
    (reached : procManager.run initial events = some system) :
    system.known = true ∨ system.Untouched := by
  refine @Machine.run_invariant _ _ procManager
    (fun state => state.known = true ∨ state.Untouched)
    ?_ _ _ _ (.inr ⟨rfl, rfl⟩) reached
  rintro state event next (known | untouched) stepped
  · exact .inl (known_of_step known stepped)
  · match started : event.isStart with
    | false => exact .inr (untouched.step started stepped)
    | true =>
        cases event with
        | start command ok =>
            obtain rfl := Option.some.inj stepped
            refine .inl ?_
            show (System.start command ok state).known = true
            unfold start launchLocked
            split <;> rfl
        | _ => cases started

/-- No process is launched again until the next start. -/
def Halted (system : System) : Prop :=
  system.proc.stopped = true ∨ system.Untouched

theorem Halted.step {event : Event} (halted : system.Halted)
    (other : event.isStart = false)
    (stepped : procManager.step system event = some next) :
    next.Halted ∧ next.launched.length = system.launched.length := by
  obtain ⟨_, launches, stays⟩ := step_of_not_start other stepped
  have unchanged : next.launched.map Launched.command =
      system.launched.map Launched.command := by
    obtain same | ⟨index, rfl, sleeping, going, _⟩ := launches
    · exact same
    · obtain stopped | untouched := halted
      · rw [stopped] at going
        cases going
      · rw [untouched.2] at sleeping
        cases sleeping
  constructor
  · obtain stopped | untouched := halted
    · exact .inl (stays stopped)
    · exact .inr (untouched.step other stepped)
  · simpa using congrArg List.length unchanged

theorem Halted.run {events : List Event} {final : System}
    (halted : system.Halted) (others : ∀ event ∈ events, event.isStart = false)
    (reached : procManager.run system events = some final) :
    final.launched.length = system.launched.length := by
  induction events generalizing system with
  | nil =>
      obtain rfl := Option.some.inj reached
      rfl
  | cons event rest induction =>
      obtain ⟨middle, stepped, finished⟩ :=
        (Machine.run_cons_eq_some procManager).mp reached
      obtain ⟨still, same⟩ :=
        halted.step (others event List.mem_cons_self) stepped
      exact (induction still (fun later member =>
        others later (List.mem_cons_of_mem _ member)) finished).trans same

theorem halted_stop {events : List Event}
    (reached : procManager.run initial events = some system) :
    system.stop.Halted := by
  obtain known | untouched := untouched_of_unknown reached
  · left
    simp [stop, known, terminateLocked]
  · exact .inr (@Untouched.step _ _ .stop untouched rfl rfl)

/-- Until the next start everything launched runs the command at hand. -/
theorem commands_run {events : List Event} {final : System}
    (others : ∀ event ∈ events, event.isStart = false)
    (reached : procManager.run system events = some final) :
    ∃ count, final.launched.map Launched.command =
      system.launched.map Launched.command ++
        List.replicate count system.proc.command := by
  induction events generalizing system with
  | nil =>
      obtain rfl := Option.some.inj reached
      exact ⟨0, by simp⟩
  | cons event rest induction =>
      obtain ⟨middle, stepped, finished⟩ :=
        (Machine.run_cons_eq_some procManager).mp reached
      obtain ⟨kept, launches, _⟩ :=
        step_of_not_start (others event List.mem_cons_self) stepped
      obtain ⟨count, commands⟩ := induction (fun later member =>
        others later (List.mem_cons_of_mem _ member)) finished
      rw [kept] at commands
      obtain same | ⟨_, _, _, _, more⟩ := launches
      · exact ⟨count, by rw [commands, same]⟩
      · refine ⟨count + 1, ?_⟩
        rw [commands, more, List.append_assoc, List.replicate_succ]
        rfl

end System

/-- One instance at a time; a stop is final until the next start; and a restart
scheduled before a start neither launches anything nor decides a command. -/
theorem daemon_kept_single_and_stopped :
    (∀ events system, procManager.run initial events = some system →
      system.alive.length ≤ 1) ∧
    (∀ before after system halted final,
      procManager.run initial before = some system →
      procManager.step system .stop = some halted →
      (∀ event ∈ after, event.isStart = false) →
      procManager.run halted after = some final →
        final.launched.length = halted.launched.length) ∧
    (∀ before after command started system begun final,
      procManager.run initial before = some system →
      procManager.step system (.start command started) = some begun →
      procManager.run begun after = some final →
        (∀ index gen woken next, gen ≤ system.proc.gen →
          final.restarts[index]? = some gen →
          procManager.step final (.wake index woken) = some next →
            next.launched = final.launched) ∧
        ((∀ event ∈ after, event.isStart = false) →
          ∀ process ∈ final.launched.drop system.launched.length,
            process.command = command)) := by
  refine ⟨fun events system reached => ?_, ?_, ?_⟩
  · exact (supervised_of_run reached).length_alive
  · intro before after system halted final reached stopped others finished
    obtain rfl := Option.some.inj stopped
    exact (System.halted_stop reached).run others finished
  · intro before after command started system begun final reached launched
      finished
    obtain rfl := Option.some.inj launched
    constructor
    · intro index gen woken next older sleeping stepped
      have newer : gen < final.proc.gen :=
        lt_of_lt_of_le
          (lt_of_lt_of_eq (Nat.lt_succ_of_le older)
            (System.gen_start command started).symm)
          (System.gen_le_run finished)
      simp only [procManager, step, sleeping, Option.map_some,
        Option.some.injEq] at stepped
      subst stepped
      unfold System.wake
      dsimp only
      rw [if_pos (.inr newer.ne')]
    · intro others process member
      obtain ⟨count, commands⟩ := System.commands_run others finished
      rw [System.command_start, System.commands_start] at commands
      have drawn : process.command ∈
          (final.launched.map Launched.command).drop
            system.launched.length := by
        rw [← List.map_drop]
        exact List.mem_map_of_mem member
      rw [commands, List.append_assoc, List.drop_left' (by simp)] at drawn
      obtain first | later := List.mem_append.mp drawn
      · split at first
        · exact List.mem_singleton.mp first
        · cases first
      · exact (List.mem_replicate.mp later).2

end VpnUi.Daemon
