import Mathlib.Order.Nat
import VpnUi.Daemon.ProcManager

namespace VpnUi.Daemon

open Foundation

/-! The generations of a supervised daemon: what they say about the processes
launched so far and about the restarts that sleep. -/

namespace System

/-- Only the current process can be of the current generation or still run, and
a restart of the current generation sleeps only after that process ended. -/
structure Supervised (system : System) : Prop where
  gen_le : ∀ (index : Nat) (process : Launched),
    system.launched[index]? = some process →
      process.gen ≤ system.proc.gen
  current : ∀ (index : Nat) (process : Launched),
    system.launched[index]? = some process →
      process.gen = system.proc.gen → system.proc.cmd = some index
  alone : ∀ (index : Nat) (process : Launched),
    system.launched[index]? = some process → process.life ≠ .exited → system.proc.cmd = some index
  restart_le : ∀ gen ∈ system.restarts, gen ≤ system.proc.gen
  ended : system.proc.gen ∈ system.restarts →
    ∀ process ∈ system.launched, process.life = .exited

/-- Everything launched or scheduled is of an older generation and has ended. -/
structure Superseded (system : System) : Prop where
  gen_lt : ∀ process ∈ system.launched, process.gen < system.proc.gen
  exited : ∀ process ∈ system.launched, process.life = .exited
  restart_lt : ∀ gen ∈ system.restarts, gen < system.proc.gen

variable {system : System}

@[simp] theorem onCurrent_proc (change : Launched → Launched) :
    (system.onCurrent change).proc = system.proc := by
  unfold onCurrent
  split <;> rfl

@[simp] theorem onCurrent_restarts (change : Launched → Launched) :
    (system.onCurrent change).restarts = system.restarts := by
  unfold onCurrent
  split <;> rfl

@[simp] theorem onCurrent_known (change : Launched → Launched) :
    (system.onCurrent change).known = system.known := by
  unfold onCurrent
  split <;> rfl

@[simp] theorem length_onCurrent (change : Launched → Launched) :
    (system.onCurrent change).launched.length = system.launched.length := by
  unfold onCurrent
  split <;> simp

theorem getElem?_onCurrent (change : Launched → Launched) (index : Nat) :
    (system.onCurrent change).launched[index]? =
      (system.launched[index]?).map fun process =>
        if system.proc.cmd = some index then change process else process := by
  unfold onCurrent
  split
  next none => simp [none]
  next place found =>
    rw [List.getElem?_modify]
    cases system.launched[index]? <;> simp [found]

theorem mem_onCurrent {change : Launched → Launched} {process : Launched}
    (member : process ∈ (system.onCurrent change).launched) :
    ∃ index old, system.launched[index]? = some old ∧
      process = if system.proc.cmd = some index then change old else old := by
  obtain ⟨index, found⟩ := List.getElem?_of_mem member
  rw [getElem?_onCurrent] at found
  obtain ⟨old, stored, rfl⟩ := Option.map_eq_some_iff.mp found
  exact ⟨index, old, stored, rfl⟩

/-- A change of a process that revives nothing. -/
structure Settles (change : Launched → Launched) : Prop where
  command : ∀ process, (change process).command = process.command
  gen : ∀ process, (change process).gen = process.gen
  exited : ∀ process : Launched, process.life = .exited →
    (change process).life = .exited

theorem settles_signal : Settles Launched.signal where
  command process := by
    unfold Launched.signal
    split <;> rfl
  gen process := by
    unfold Launched.signal
    split <;> rfl
  exited process ended := by
    simp [Launched.signal, ended]

theorem settles_exit : Settles Launched.exit :=
  ⟨fun _ => rfl, fun _ => rfl, fun _ _ => rfl⟩

theorem settles_report : Settles Launched.report :=
  ⟨fun _ => rfl, fun _ => rfl, fun _ ended => ended⟩

theorem Settles.map_command {change : Launched → Launched}
    (settles : Settles change) (launched : List Launched) (index : Nat) :
    (launched.modify index change).map Launched.command =
      launched.map Launched.command := by
  apply List.ext_getElem?
  intro place
  rw [List.getElem?_map, List.getElem?_map, List.getElem?_modify]
  cases launched[place]? with
  | none => rfl
  | some process =>
      by_cases here : index = place
      · simp [here, settles.command]
      · simp [here]

theorem Settles.map_command_onCurrent {change : Launched → Launched}
    (settles : Settles change) :
    (system.onCurrent change).launched.map Launched.command =
      system.launched.map Launched.command := by
  unfold onCurrent
  split
  · rfl
  · exact settles.map_command _ _

theorem Supervised.modify (supervised : system.Supervised) (index : Nat)
    {change : Launched → Launched} (settles : Settles change) :
    Supervised { system with
      launched := system.launched.modify index change } := by
  have image : ∀ (place : Nat) (process : Launched),
      (system.launched.modify index change)[place]? = some process →
        ∃ old, system.launched[place]? = some old ∧
          (process = old ∨ process = change old) := by
    intro place process found
    rw [List.getElem?_modify] at found
    obtain ⟨old, stored, image⟩ := Option.map_eq_some_iff.mp found
    refine ⟨old, stored, ?_⟩
    split at image
    · exact .inr image.symm
    · exact .inl image.symm
  constructor
  · intro place process found
    obtain ⟨old, stored, rfl | rfl⟩ := image place process found
    · exact supervised.gen_le place _ stored
    · exact settles.gen old ▸ supervised.gen_le place old stored
  · intro place process found same
    obtain ⟨old, stored, rfl | rfl⟩ := image place process found
    · exact supervised.current place _ stored same
    · exact supervised.current place old stored (settles.gen old ▸ same)
  · intro place process found alive
    obtain ⟨old, stored, rfl | rfl⟩ := image place process found
    · exact supervised.alone place _ stored alive
    · exact supervised.alone place old stored fun ended =>
        alive (settles.exited old ended)
  · exact supervised.restart_le
  · intro sleeping process member
    obtain ⟨place, found⟩ := List.getElem?_of_mem member
    obtain ⟨old, stored, same⟩ := image place process found
    have ended := supervised.ended sleeping old (List.mem_of_getElem? stored)
    obtain rfl | rfl := same
    · exact ended
    · exact settles.exited old ended

theorem Supervised.onCurrent (supervised : system.Supervised)
    {change : Launched → Launched} (settles : Settles change) :
    (system.onCurrent change).Supervised := by
  unfold System.onCurrent
  split
  · exact supervised
  · exact supervised.modify _ settles

theorem Supervised.exited_of_ne (supervised : system.Supervised)
    {index : Nat} {process : Launched}
    (found : system.launched[index]? = some process)
    (other : system.proc.cmd ≠ some index) : process.life = .exited := by
  by_contra alive
  exact other (supervised.alone index process found alive)

theorem Superseded.launchLocked (superseded : system.Superseded)
    (started : Bool) : (system.launchLocked started).Supervised := by
  have older : ∀ (index : Nat) (process : Launched),
      system.launched[index]? = some process →
        process.gen < system.proc.gen := fun index process found =>
    superseded.gen_lt process (List.mem_of_getElem? found)
  cases started with
  | false =>
      refine ⟨fun index process found => (older index process found).le,
        fun index process found same => ?_,
        fun index process found alive => ?_,
        fun gen member => (superseded.restart_lt gen member).le,
        fun _ => superseded.exited⟩
      · exact absurd same (older index process found).ne
      · exact absurd
          (superseded.exited process (List.mem_of_getElem? found)) alive
  | true =>
      have place : ∀ (index : Nat) (process : Launched),
          (system.launched ++
            [⟨system.proc.command, system.proc.gen, .running, true⟩])[index]? =
              some process →
            system.launched[index]? = some process ∨
              index = system.launched.length ∧
                process = ⟨system.proc.command, system.proc.gen, .running,
                  true⟩ := by
        intro index process found
        rw [List.getElem?_append] at found
        split at found
        · exact .inl found
        next beyond =>
          obtain ⟨first, rfl⟩ : index - system.launched.length = 0 ∧
              (⟨_, _, _, _⟩ : Launched) = process := by
            simpa [List.getElem?_singleton] using found
          exact .inr ⟨by omega, rfl⟩
      constructor
      · intro index process found
        obtain stored | ⟨_, rfl⟩ := place index process found
        · exact (older index process stored).le
        · exact le_rfl
      · intro index process found same
        obtain stored | ⟨rfl, rfl⟩ := place index process found
        · exact absurd same (older index process stored).ne
        · rfl
      · intro index process found alive
        obtain stored | ⟨rfl, rfl⟩ := place index process found
        · exact absurd
            (superseded.exited process (List.mem_of_getElem? stored)) alive
        · rfl
      · exact fun gen member => (superseded.restart_lt gen member).le
      · intro sleeping
        exact absurd (superseded.restart_lt _ sleeping) (lt_irrefl _)

theorem Supervised.start (supervised : system.Supervised) (command : Command)
    (started : Bool) : (system.start command started).Supervised := by
  have newer :
      (system.nextGen.terminateLocked.waitProcessExit.setCommand
        command).proc.gen = system.proc.gen + 1 := by
    simp [setCommand, waitProcessExit, terminateLocked, nextGen]
  apply Superseded.launchLocked
  constructor
  · intro process member
    obtain ⟨index, signalled, found, rfl⟩ := mem_onCurrent member
    have older : signalled.gen ≤ system.proc.gen := by
      obtain ⟨place, old, stored, rfl⟩ :=
        mem_onCurrent (List.mem_of_getElem? found)
      have le := supervised.gen_le place old stored
      split
      · exact settles_signal.gen old ▸ le
      · exact le
    refine lt_of_lt_of_eq ?_ newer.symm
    split
    · exact Nat.lt_succ_of_le (settles_exit.gen signalled ▸ older)
    · exact Nat.lt_succ_of_le older
  · intro process member
    obtain ⟨index, signalled, found, rfl⟩ := mem_onCurrent member
    split
    next => rfl
    next other =>
      rw [System.terminateLocked, getElem?_onCurrent] at found
      obtain ⟨old, stored, rfl⟩ := Option.map_eq_some_iff.mp found
      have elsewhere : system.proc.cmd ≠ some index := by
        simpa [System.terminateLocked, System.nextGen] using other
      rw [if_neg (by simpa [System.nextGen] using elsewhere)]
      exact supervised.exited_of_ne stored elsewhere
  · intro gen member
    have kept : gen ∈ system.restarts := by
      simpa [System.setCommand, System.waitProcessExit,
        System.terminateLocked, System.nextGen] using member
    exact lt_of_lt_of_eq
      (Nat.lt_succ_of_le (supervised.restart_le gen kept)) newer.symm

theorem Supervised.nextGen (supervised : system.Supervised) (stopped : Bool) :
    Supervised { system with
      proc := { system.proc with
        stopped := stopped, gen := system.proc.gen + 1 } } where
  gen_le index process found :=
    (supervised.gen_le index process found).trans (Nat.le_succ _)
  current index process found same :=
    absurd (supervised.gen_le index process found)
      (by rw [same]; exact Nat.not_succ_le_self _)
  alone := supervised.alone
  restart_le gen member :=
    (supervised.restart_le gen member).trans (Nat.le_succ _)
  ended sleeping :=
    absurd (supervised.restart_le _ sleeping) (Nat.not_succ_le_self _)

theorem Supervised.stop (supervised : system.Supervised) :
    system.stop.Supervised := by
  unfold System.stop
  split
  · exact (supervised.nextGen true).onCurrent settles_signal
  · exact supervised

theorem Supervised.supervise (supervised : system.Supervised)
    {index : Nat} {process : Launched}
    (found : system.launched[index]? = some process)
    (ended : process.life = .exited) :
    (system.supervise index process.gen).Supervised := by
  have reported := supervised.modify index settles_report
  unfold System.supervise
  split
  next => exact reported
  next scheduled =>
    obtain ⟨same, _⟩ := not_or.mp scheduled
    have atCurrent := supervised.current index process found
      (not_not.mp same)
    refine ⟨reported.gen_le, reported.current, reported.alone, ?_, ?_⟩
    · intro gen member
      obtain rfl | older := List.mem_cons.mp member
      · exact le_rfl
      · exact supervised.restart_le gen older
    · intro _ other member
      obtain ⟨place, stored⟩ := List.getElem?_of_mem member
      by_cases here : place = index
      · subst here
        rw [List.getElem?_modify_eq, found] at stored
        obtain rfl := Option.some.inj stored
        exact settles_report.exited process ended
      · exact reported.exited_of_ne stored fun same =>
          here (Option.some.inj (same.symm.trans atCurrent))

theorem Supervised.wake (supervised : system.Supervised) {index gen : Nat}
    (found : system.restarts[index]? = some gen) (started : Bool) :
    (system.wake index gen started).Supervised := by
  have fewer : ∀ other ∈ system.restarts.eraseIdx index,
      other ∈ system.restarts := fun other => List.mem_of_mem_eraseIdx
  unfold System.wake
  split
  next =>
    exact ⟨supervised.gen_le, supervised.current, supervised.alone,
      fun other member => supervised.restart_le other (fewer other member),
      fun sleeping => supervised.ended (fewer _ sleeping)⟩
  next due =>
    obtain ⟨_, same⟩ := not_or.mp due
    obtain rfl := not_not.mp same
    have ended := supervised.ended (List.mem_of_getElem? found)
    have newer : (System.terminateLocked (System.nextGen
        { system with
          restarts := system.restarts.eraseIdx index })).proc.gen =
        system.proc.gen + 1 := by
      rw [terminateLocked, onCurrent_proc]
      rfl
    apply Superseded.launchLocked
    constructor
    · intro process member
      obtain ⟨place, old, stored, rfl⟩ := mem_onCurrent member
      have le := supervised.gen_le place old stored
      refine lt_of_lt_of_eq ?_ newer.symm
      split
      · exact Nat.lt_succ_of_le (settles_signal.gen old ▸ le)
      · exact Nat.lt_succ_of_le le
    · intro process member
      obtain ⟨place, old, stored, rfl⟩ := mem_onCurrent member
      have gone := ended old (List.mem_of_getElem? stored)
      split
      · exact settles_signal.exited old gone
      · exact gone
    · intro other member
      have kept : other ∈ system.restarts.eraseIdx index := by
        simpa [System.terminateLocked, System.nextGen] using member
      exact lt_of_lt_of_eq (Nat.lt_succ_of_le
        (supervised.restart_le other (fewer other kept))) newer.symm

end System

theorem System.Supervised.step {system next : System} (event : Event)
    (supervised : system.Supervised)
    (stepped : procManager.step system event = some next) :
    next.Supervised := by
  cases event with
  | start command started =>
      obtain rfl := Option.some.inj stepped
      exact supervised.start command started
  | stop =>
      obtain rfl := Option.some.inj stepped
      exact supervised.stop
  | kill =>
      obtain rfl := Option.some.inj stepped
      exact supervised.onCurrent System.settles_signal
  | exit index =>
      simp only [procManager, Daemon.step] at stepped
      split at stepped
      · obtain rfl := Option.some.inj stepped
        exact supervised.modify index System.settles_exit
      · cases stepped
  | supervise index =>
      simp only [procManager, Daemon.step] at stepped
      split at stepped
      next process found =>
        split at stepped
        next due =>
          obtain rfl := Option.some.inj stepped
          exact supervised.supervise found due.1
        next => cases stepped
      next => cases stepped
  | wake index started =>
      obtain ⟨gen, found, rfl⟩ := Option.map_eq_some_iff.mp stepped
      exact supervised.wake found started

theorem supervised_initial : initial.Supervised :=
  ⟨by simp [initial], by simp [initial], by simp [initial],
    by simp [initial], by simp [initial]⟩

theorem supervised_of_run {events : List Event} {system : System}
    (reached : procManager.run initial events = some system) :
    system.Supervised :=
  procManager.run_invariant
    (fun _ event _ supervised stepped => supervised.step event stepped)
    supervised_initial reached

namespace System

variable {system next : System}

/-- Two processes that have not ended would both be the current one. -/
theorem Supervised.length_alive (supervised : system.Supervised) :
    system.alive.length ≤ 1 := by
  have apart : system.launched.Pairwise fun first second =>
      ¬ (first.life ≠ .exited ∧ second.life ≠ .exited) := by
    rw [List.pairwise_iff_getElem]
    rintro place later here there before ⟨first, second⟩
    have same := (supervised.alone place _
      (List.getElem?_eq_getElem here) first).symm.trans
        (supervised.alone later _ (List.getElem?_eq_getElem there) second)
    exact before.ne (Option.some.inj same)
  unfold alive
  have both := apart.filter (·.life ≠ .exited)
  have alive : ∀ process ∈ system.launched.filter (·.life ≠ .exited),
      process.life ≠ .exited := fun process member => by
    simpa using (List.mem_filter.mp member).2
  generalize system.launched.filter (·.life ≠ .exited) = remaining
    at both alive ⊢
  match remaining with
  | [] => exact Nat.zero_le 1
  | [_] => exact le_rfl
  | first :: second :: rest =>
      exact absurd ⟨alive first (by simp), alive second (by simp)⟩
        (List.rel_of_pairwise_cons both (by simp))

/-- Apart from a start, a step keeps the command, and launches nothing but a
daemon of that command, from a restart of the current generation. -/
theorem step_of_not_start {event : Event} (other : event.isStart = false)
    (stepped : procManager.step system event = some next) :
    next.proc.command = system.proc.command ∧
      (next.launched.map Launched.command =
          system.launched.map Launched.command ∨
        ∃ index, event = .wake index true ∧
          system.restarts[index]? = some system.proc.gen ∧
          system.proc.stopped = false ∧
          next.launched.map Launched.command =
            system.launched.map Launched.command ++ [system.proc.command]) ∧
      (system.proc.stopped = true → next.proc.stopped = true) := by
  cases event with
  | start command started => cases other
  | stop =>
      obtain rfl := Option.some.inj stepped
      show system.stop.proc.command = _ ∧ (_ ∨ _) ∧ _
      unfold stop
      split
      · refine ⟨?_, .inl ?_, fun _ => ?_⟩
        · simp [terminateLocked]
        · exact settles_signal.map_command_onCurrent
        · simp [terminateLocked]
      · exact ⟨rfl, .inl rfl, id⟩
  | kill =>
      obtain rfl := Option.some.inj stepped
      refine ⟨?_, .inl settles_signal.map_command_onCurrent, fun halted => ?_⟩
      · simp [terminateLocked]
      · simpa [terminateLocked] using halted
  | exit index =>
      simp only [procManager, Daemon.step] at stepped
      split at stepped
      · obtain rfl := Option.some.inj stepped
        exact ⟨rfl, .inl (settles_exit.map_command _ _), id⟩
      · cases stepped
  | supervise index =>
      simp only [procManager, Daemon.step] at stepped
      split at stepped
      · split at stepped
        · obtain rfl := Option.some.inj stepped
          unfold supervise
          dsimp only
          split
          · exact ⟨rfl, .inl (settles_report.map_command _ _), id⟩
          · exact ⟨rfl, .inl (settles_report.map_command _ _), id⟩
        · cases stepped
      · cases stepped
  | wake index started =>
      obtain ⟨gen, found, rfl⟩ := Option.map_eq_some_iff.mp stepped
      unfold wake
      dsimp only
      split
      next => exact ⟨rfl, .inl rfl, id⟩
      next due =>
        obtain ⟨going, same⟩ := not_or.mp due
        obtain rfl := not_not.mp same
        cases started with
        | false =>
            refine ⟨?_, .inl settles_signal.map_command_onCurrent,
              fun halted => absurd halted going⟩
            rw [launchLocked, if_neg Bool.false_ne_true, terminateLocked,
              onCurrent_proc]
            rfl
        | true =>
            refine ⟨?_, .inr ⟨index, rfl, found, by simpa using going, ?_⟩,
              fun halted => absurd halted going⟩
            · rw [launchLocked, if_pos rfl, terminateLocked, onCurrent_proc]
              rfl
            · rw [launchLocked, if_pos rfl, List.map_append, terminateLocked,
                settles_signal.map_command_onCurrent, onCurrent_proc]
              rfl

end System

end VpnUi.Daemon
