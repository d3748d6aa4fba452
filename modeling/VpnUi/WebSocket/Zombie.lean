import Mathlib.Data.List.Nodup
import Mathlib.Order.Nat
import VpnUi.WebSocket.Hub

namespace VpnUi.WebSocket

open Foundation

/-! What becomes of a connection in the hub: it leaves the clients, and its
Send channel is closed, as long as the loop hears of its registration before its
removal. -/

variable {Client Message : Type}

namespace Hub

/-- The connection has registered and not unregistered, and its Send channel
has not been closed under it. -/
def Live (hub : Hub Client Message) (client : Client) : Prop :=
  ((hub.connection client).phase = .opened ∨
    (hub.connection client).phase = .unregistering) ∧
      (hub.connection client).closes = 0

/-- Both channels are drained, and a shutdown that has begun has reached the
loop. -/
def Drained (hub : Hub Client Message) : Prop :=
  hub.register = [] ∧ hub.unregister = [] ∧
    (hub.cancelled = true → hub.loop = .stopped)

/-- No connection that has unregistered is left behind, and the clients are as
many as the live connections. -/
structure NoZombie (hub : Hub Client Message) : Prop where
  gone : ∀ client, (hub.connection client).phase = .ended →
    client ∉ hub.clients ∧ (hub.connection client).closes = 1
  count : ∀ connections : List Client, connections.Nodup →
    (∀ client, client ∈ connections ↔ hub.Live client) →
      hub.clients.length = connections.length

/-- What is known of one client at any time. -/
structure Tracks (hub : Hub Client Message) (client : Client) : Prop where
  early : (hub.connection client).phase = .fresh ∨
      (hub.connection client).phase = .registering →
    client ∉ hub.clients ∧ client ∉ hub.register ∧
      (hub.connection client).closeOnce = false ∧
        (hub.connection client).closes = 0
  queued : client ∈ hub.register →
    client ∉ hub.clients ∧ (hub.connection client).closeOnce = false ∧
      (hub.connection client).closes = 0
  settled : (hub.connection client).phase = .fresh ∨
    (hub.connection client).phase = .registering ∨ client ∈ hub.register ∨
      (client ∈ hub.clients ∧ (hub.connection client).closeOnce = false ∧
        (hub.connection client).closes = 0) ∨
      (client ∉ hub.clients ∧ (hub.connection client).closeOnce = true ∧
        (hub.connection client).closes = 1)
  removed : (hub.connection client).phase = .ended →
    client ∈ hub.unregister ∨
      (client ∉ hub.clients ∧ client ∉ hub.register) ∨ hub.cancelled = true

structure Tracked (hub : Hub Client Message) : Prop where
  clients_nodup : hub.clients.Nodup
  register_nodup : hub.register.Nodup
  stopped : hub.loop = .stopped → hub.clients = []
  tracks : ∀ client, hub.Tracks client

variable {hub next : Hub Client Message}

theorem Tracked.noZombie (tracked : hub.Tracked) (drained : hub.Drained) :
    hub.NoZombie := by
  obtain ⟨register, unregister, shut⟩ := drained
  have gone : ∀ client, (hub.connection client).phase = .ended →
      client ∉ hub.clients := fun client ended => by
    obtain queued | ⟨absent, _⟩ | cancelled :=
      (tracked.tracks client).removed ended
    · rw [unregister] at queued
      cases queued
    · exact absent
    · rw [tracked.stopped (shut cancelled)]
      exact List.not_mem_nil
  have members : ∀ client, client ∈ hub.clients ↔ hub.Live client := by
    intro client
    obtain ⟨early, _, settled, _⟩ := tracked.tracks client
    rw [register] at settled
    constructor
    · intro member
      unfold Live
      cases phase : (hub.connection client).phase with
      | fresh => exact absurd member (early (.inl phase)).1
      | registering => exact absurd member (early (.inr phase)).1
      | ended => exact absurd member (gone client phase)
      | opened =>
          simp [phase, member] at settled
          exact ⟨.inl rfl, settled.2⟩
      | unregistering =>
          simp [phase, member] at settled
          exact ⟨.inr rfl, settled.2⟩
    · rintro ⟨opened | leaving, unclosed⟩
      · simp [opened, unclosed] at settled
        exact settled.1
      · simp [leaving, unclosed] at settled
        exact settled.1
  refine ⟨fun client ended => ⟨gone client ended, ?_⟩,
    fun connections nodup live => ?_⟩
  · have settled := (tracked.tracks client).settled
    simp [ended, register, gone client ended] at settled
    exact settled.2
  · exact ((List.perm_ext_iff_of_nodup tracked.clients_nodup nodup).mpr
      fun client => (members client).trans (live client).symm).length_eq

/-- A step that leaves the members, the registrations and the fate of every
connection as they are. -/
theorem Tracked.of_same (tracked : hub.Tracked)
    (clients : next.clients = hub.clients)
    (register : next.register = hub.register)
    (unregister : hub.unregister ⊆ next.unregister)
    (phase : ∀ client, (next.connection client).phase =
      (hub.connection client).phase)
    (closeOnce : ∀ client, (next.connection client).closeOnce =
      (hub.connection client).closeOnce)
    (closes : ∀ client, (next.connection client).closes =
      (hub.connection client).closes)
    (cancelled : hub.cancelled = true → next.cancelled = true)
    (stopped : next.loop = .stopped → hub.loop = .stopped) : next.Tracked := by
  refine ⟨clients ▸ tracked.clients_nodup, register ▸ tracked.register_nodup,
    fun halted => clients ▸ tracked.stopped (stopped halted), fun client => ?_⟩
  obtain ⟨early, queued, settled, removed⟩ := tracked.tracks client
  constructor
  · rw [phase, closeOnce, closes, clients, register]
    exact early
  · rw [closeOnce, closes, clients, register]
    exact queued
  · rw [phase, closeOnce, closes, clients, register]
    exact settled
  · rw [phase, clients, register]
    intro ended
    obtain waits | gone | shut := removed ended
    · exact .inl (unregister waits)
    · exact .inr (.inl gone)
    · exact .inr (.inr (cancelled shut))

/-- A step that concerns one client only. -/
theorem Tracked.of_one (tracked : hub.Tracked) (client : Client)
    (clients_nodup : next.clients.Nodup) (register_nodup : next.register.Nodup)
    (stopped : next.loop = .stopped → next.clients = [])
    (cancelled : next.cancelled = hub.cancelled)
    (others : ∀ other, other ≠ client →
      next.connection other = hub.connection other ∧
      (other ∈ next.clients ↔ other ∈ hub.clients) ∧
      (other ∈ next.register ↔ other ∈ hub.register) ∧
      (other ∈ hub.unregister → other ∈ next.unregister))
    (one : next.Tracks client) : next.Tracked := by
  refine ⟨clients_nodup, register_nodup, stopped, fun other => ?_⟩
  by_cases same : other = client
  · exact same ▸ one
  obtain ⟨connection, clients, register, unregister⟩ := others other same
  obtain ⟨early, queued, settled, removed⟩ := tracked.tracks other
  constructor
  · rw [connection, clients, register]
    exact early
  · rw [connection, clients, register]
    exact queued
  · rw [connection, clients, register]
    exact settled
  · rw [connection, clients, register, cancelled]
    intro ended
    exact (removed ended).imp_left unregister

end Hub

variable [DecidableEq Client]

/-- The loop hears of a registration before it hears of the removal, and no
registration is given up. -/
def InOrder (hub : Hub Client Message) : Event Client Message → Prop
  | .takeUnregister => ∀ client ∈ hub.unregister.head?, client ∉ hub.register
  | .registerGivenUp _ => False
  | _ => True

instance (hub : Hub Client Message) : (event : Event Client Message) →
    Decidable (InOrder hub event)
  | .takeUnregister =>
      inferInstanceAs (Decidable
        (∀ client ∈ hub.unregister.head?, client ∉ hub.register))
  | .registerGivenUp _ => isFalse id
  | .connect .. | .registered .. | .disconnect .. | .unregistered ..
  | .unregisterGivenUp .. | .read .. | .publish .. | .topic ..
  | .takeRegister | .takeBroadcast .. | .takeDone | .work ..
  | .workGivenUp .. | .workersDone | .topicWork .. | .topicWorkGivenUp ..
  | .topicDone .. | .stop => isTrue trivial

namespace Hub

variable {hub next : Hub Client Message}

/-- A change of phase, for a client whose other fields stay. -/
theorem Tracked.setPhase (tracked : hub.Tracked) {client : Client}
    {phase : Phase} (known : (hub.connection client).phase ≠ .fresh)
    (registered : (hub.connection client).phase ≠ .registering)
    (later : phase ≠ .fresh ∧ phase ≠ .registering)
    {unregister : List Client} (grown : hub.unregister ⊆ unregister)
    (ends : phase = .ended →
      client ∈ unregister ∨ hub.cancelled = true) :
    Tracked { hub.setPhase client phase with unregister := unregister } := by
  refine tracked.of_one client tracked.clients_nodup tracked.register_nodup
    tracked.stopped rfl (fun other differs => ⟨?_, Iff.rfl, Iff.rfl, ?_⟩) ?_
  · exact Function.update_of_ne differs _ _
  · exact fun member => grown member
  obtain ⟨_, queued, settled, _⟩ := tracked.tracks client
  simp only [known, registered, false_or] at settled
  constructor
  · intro early
    simp [Hub.setPhase, Hub.setConnection, later] at early
  · simpa [Hub.setPhase, Hub.setConnection] using queued
  · simpa [Hub.setPhase, Hub.setConnection, later] using settled
  · intro ended
    have ended : phase = .ended := by
      simpa [Hub.setPhase, Hub.setConnection] using ended
    obtain waits | shut := ends ended
    · exact .inl waits
    · exact .inr (.inr shut)

theorem Tracked.connect (tracked : hub.Tracked) {client : Client}
    (fresh : (hub.connection client).phase = .fresh) :
    (hub.setPhase client .registering).Tracked := by
  refine tracked.of_one client tracked.clients_nodup tracked.register_nodup
    tracked.stopped rfl (fun other differs =>
      ⟨Function.update_of_ne differs _ _, Iff.rfl, Iff.rfl, id⟩) ?_
  obtain ⟨early, queued, _, _⟩ := tracked.tracks client
  constructor
  · intro _
    simpa [Hub.setPhase, Hub.setConnection] using early (.inl fresh)
  · simpa [Hub.setPhase, Hub.setConnection] using queued
  · exact .inr (.inl (by simp [Hub.setPhase, Hub.setConnection]))
  · intro ended
    simp [Hub.setPhase, Hub.setConnection] at ended

theorem Tracked.registered (tracked : hub.Tracked) {client : Client}
    (registering : (hub.connection client).phase = .registering) :
    Tracked { hub.setPhase client .opened with
      register := hub.register ++ [client] } := by
  obtain ⟨absent, unqueued, unclosed, none⟩ :=
    (tracked.tracks client).early (.inr registering)
  refine tracked.of_one client tracked.clients_nodup ?_ tracked.stopped rfl
    (fun other differs =>
      ⟨Function.update_of_ne differs _ _, Iff.rfl, ?_, id⟩) ?_
  · exact List.nodup_append.mpr ⟨tracked.register_nodup,
      List.nodup_singleton _, fun left here right there => by
        rw [List.mem_singleton.mp there]
        exact fun same => unqueued (same ▸ here)⟩
  · simp [differs]
  · constructor
    · intro early
      simp [Hub.setPhase, Hub.setConnection] at early
    · intro _
      simpa [Hub.setPhase, Hub.setConnection] using ⟨absent, unclosed, none⟩
    · exact .inr (.inr (.inl (by simp)))
    · intro ended
      simp [Hub.setPhase, Hub.setConnection] at ended

theorem Tracked.takeRegister (tracked : hub.Tracked) {client : Client}
    {rest : List Client} (queued : hub.register = client :: rest)
    (selecting : hub.loop = .selecting) :
    (hub.takeRegister client rest).Tracked := by
  have member : client ∈ hub.register := queued ▸ List.mem_cons_self
  have nodup : (client :: rest).Nodup := queued ▸ tracked.register_nodup
  obtain ⟨absent, unclosed, none⟩ := (tracked.tracks client).queued member
  refine tracked.of_one client ?_ nodup.of_cons ?_ rfl
    (fun other differs => ⟨rfl, ?_, ?_, id⟩) ?_
  · exact List.Nodup.insert tracked.clients_nodup
  · intro stopped
    rw [Hub.takeRegister, selecting] at stopped
    cases stopped
  · simp [Hub.takeRegister, differs]
  · simp [Hub.takeRegister, queued, differs]
  · obtain ⟨early, _, _, removed⟩ := tracked.tracks client
    constructor
    · intro fresh
      exact absurd member (early fresh).2.1
    · intro again
      exact absurd again (List.nodup_cons.mp nodup).1
    · exact .inr (.inr (.inr (.inl
        ⟨List.mem_insert_self, unclosed, none⟩)))
    · intro ended
      obtain waits | ⟨_, gone⟩ | shut := removed ended
      · exact .inl waits
      · exact absurd member gone
      · exact .inr (.inr shut)

theorem Tracked.takeUnregister (tracked : hub.Tracked) {client : Client}
    {rest : List Client} (queued : hub.unregister = client :: rest)
    (selecting : hub.loop = .selecting)
    (inOrder : client ∉ hub.register) :
    (hub.takeUnregister client rest).Tracked := by
  have kept : ∀ other, other ≠ client → other ∈ hub.unregister →
      other ∈ rest := fun other differs member => by
    rw [queued] at member
    exact (List.mem_cons.mp member).resolve_left differs
  unfold Hub.takeUnregister
  split
  next member =>
    obtain ⟨early, _, settled, _⟩ := tracked.tracks client
    have known : ¬ ((hub.connection client).phase = .fresh ∨
        (hub.connection client).phase = .registering) :=
      fun fresh => (early fresh).1 member
    obtain ⟨unclosed, none⟩ : (hub.connection client).closeOnce = false ∧
        (hub.connection client).closes = 0 := by
      simpa [not_or.mp known, inOrder, member] using settled
    have gone : client ∉ hub.clients.erase client :=
      tracked.clients_nodup.not_mem_erase
    have closes : closeSend { hub with
          unregister := rest, clients := hub.clients.erase client } client =
        ({ hub with
          unregister := rest
          clients := hub.clients.erase client }.setConnection client
            { hub.connection client with closeOnce := true, closes := 1 } :
              Hub Client Message) := by
      simp [closeSend, unclosed, none]
    rw [closes]
    refine tracked.of_one client (tracked.clients_nodup.erase _)
      tracked.register_nodup ?_ rfl (fun other differs =>
        ⟨Function.update_of_ne differs _ _, ?_, Iff.rfl, kept other differs⟩) ?_
    · intro stopped
      exact absurd (selecting.symm.trans stopped) (by simp)
    · exact List.mem_erase_of_ne differs
    · constructor
      · intro fresh
        refine absurd ?_ known
        simpa [Hub.setConnection] using fresh
      · exact fun again => absurd again inOrder
      · exact .inr (.inr (.inr (.inr ⟨gone, by simp [Hub.setConnection]⟩)))
      · exact fun _ => .inr (.inl ⟨gone, inOrder⟩)
  next absent =>
    refine tracked.of_one client tracked.clients_nodup tracked.register_nodup
      tracked.stopped rfl (fun other differs =>
        ⟨rfl, Iff.rfl, Iff.rfl, kept other differs⟩) ?_
    obtain ⟨early, queued, settled, _⟩ := tracked.tracks client
    exact ⟨early, queued, settled, fun _ => .inr (.inl ⟨absent, inOrder⟩)⟩

/-- The fate of a connection: all of it but its buffer. -/
def fate (hub : Hub Client Message) (client : Client) : Phase × Bool × Nat :=
  ((hub.connection client).phase, (hub.connection client).closeOnce,
    (hub.connection client).closes)

omit [DecidableEq Client] in
theorem Tracked.of_fate (tracked : hub.Tracked)
    (clients : next.clients = hub.clients)
    (register : next.register = hub.register)
    (unregister : hub.unregister ⊆ next.unregister)
    (fate : ∀ client, next.fate client = hub.fate client)
    (cancelled : hub.cancelled = true → next.cancelled = true)
    (stopped : next.loop = .stopped → hub.loop = .stopped) : next.Tracked :=
  tracked.of_same clients register unregister
    (fun client => congrArg Prod.fst (fate client))
    (fun client => congrArg (·.2.1) (fate client))
    (fun client => congrArg (·.2.2) (fate client)) cancelled stopped

theorem fate_setSend (client : Client) (send : List Message) (other : Client) :
    (hub.setConnection client
      { hub.connection client with send := send }).fate other =
        hub.fate other := by
  unfold fate Hub.setConnection
  by_cases same : other = client
  · simp [same]
  · simp [Function.update_of_ne same]

/-- A worker only fills buffers and queues removals. -/
theorem work_same {call after : Broadcast Client Message} {index : Nat}
    (worked : hub.work call index = some (after, next)) :
    next.clients = hub.clients ∧ next.register = hub.register ∧
      hub.unregister ⊆ next.unregister ∧
      (∀ client, next.fate client = hub.fate client) ∧
      next.cancelled = hub.cancelled ∧ next.loop = hub.loop := by
  have unchanged : hub.clients = hub.clients ∧ hub.register = hub.register ∧
      hub.unregister ⊆ hub.unregister ∧
      (∀ client, hub.fate client = hub.fate client) ∧
      hub.cancelled = hub.cancelled ∧ hub.loop = hub.loop :=
    ⟨rfl, rfl, List.Subset.refl _, fun _ => rfl, rfl, rfl⟩
  unfold work at worked
  split at worked
  · split at worked
    · obtain ⟨_, rfl⟩ := Prod.mk.inj (Option.some.inj worked)
      exact unchanged
    · obtain ⟨_, rfl⟩ := Prod.mk.inj (Option.some.inj worked)
      exact unchanged
  · dsimp only at worked
    split at worked
    · obtain ⟨_, rfl⟩ := Prod.mk.inj (Option.some.inj worked)
      exact unchanged
    · split at worked
      · obtain ⟨_, rfl⟩ := Prod.mk.inj (Option.some.inj worked)
        exact ⟨rfl, rfl, List.Subset.refl _, fate_setSend _ _, rfl, rfl⟩
      · obtain ⟨_, rfl⟩ := Prod.mk.inj (Option.some.inj worked)
        exact unchanged
  · simp only [Option.ite_none_right_eq_some, Option.some.injEq,
      Prod.mk.injEq] at worked
    obtain ⟨_, _, rfl⟩ := worked
    exact ⟨rfl, rfl, List.subset_append_left _ _, fun _ => rfl, rfl, rfl⟩
  · cases worked
  · cases worked

/-- The shutdown closes the Send channel of every client once. -/
theorem fate_foldl_closeSend (clients : List Client) (nodup : clients.Nodup)
    (client : Client) :
    (clients.foldl closeSend hub).fate client =
      if client ∈ clients ∧ (hub.connection client).closeOnce = false then
        ((hub.connection client).phase, true,
          (hub.connection client).closes + 1)
      else hub.fate client := by
  induction clients generalizing hub with
  | nil => simp
  | cons first rest induction =>
      obtain ⟨absent, others⟩ := List.nodup_cons.mp nodup
      rw [List.foldl_cons, induction others]
      have other : client ≠ first →
          (hub.closeSend first).connection client = hub.connection client := by
        intro differs
        unfold closeSend
        dsimp only
        split
        · rfl
        · exact Function.update_of_ne differs _ _
      by_cases same : client = first
      · subst same
        rw [if_neg (fun both => absent both.1)]
        unfold fate closeSend
        cases closed : (hub.connection client).closeOnce <;>
          simp [closed, Hub.setConnection]
      · rw [other same]
        simp [same, fate, other same]

theorem foldl_closeSend_same (clients : List Client) :
    (clients.foldl closeSend hub).register = hub.register ∧
      (clients.foldl closeSend hub).unregister = hub.unregister ∧
      (clients.foldl closeSend hub).cancelled = hub.cancelled := by
  induction clients generalizing hub with
  | nil => exact ⟨rfl, rfl, rfl⟩
  | cons first rest induction =>
      have once : (hub.closeSend first).register = hub.register ∧
          (hub.closeSend first).unregister = hub.unregister ∧
          (hub.closeSend first).cancelled = hub.cancelled := by
        unfold closeSend
        dsimp only
        split <;> exact ⟨rfl, rfl, rfl⟩
      rw [List.foldl_cons]
      exact ⟨induction.1.trans once.1, induction.2.1.trans once.2.1,
        induction.2.2.trans once.2.2⟩

theorem Tracked.finish (tracked : hub.Tracked) : hub.finish.Tracked := by
  obtain ⟨register, unregister, cancelled⟩ :=
    @foldl_closeSend_same _ _ _ hub hub.clients
  have fates := @fate_foldl_closeSend _ _ _ hub hub.clients
    tracked.clients_nodup
  refine ⟨List.nodup_nil, ?_, fun _ => rfl, fun client => ?_⟩
  · show (hub.clients.foldl closeSend hub).register.Nodup
    rw [register]
    exact tracked.register_nodup
  obtain ⟨early, queued, settled, removed⟩ := tracked.tracks client
  have fate : hub.finish.fate client = _ := fates client
  have sameRegister : hub.finish.register = hub.register := register
  have sameUnregister : hub.finish.unregister = hub.unregister := unregister
  have sameCancelled : hub.finish.cancelled = hub.cancelled := cancelled
  have gone : client ∉ hub.finish.clients := List.not_mem_nil
  by_cases member : client ∈ hub.clients
  · have known : ¬ ((hub.connection client).phase = .fresh ∨
        (hub.connection client).phase = .registering) :=
      fun fresh => (early fresh).1 member
    have unqueued : client ∉ hub.register := fun waits =>
      (queued waits).1 member
    obtain ⟨unclosed, none⟩ : (hub.connection client).closeOnce = false ∧
        (hub.connection client).closes = 0 := by
      simpa [not_or.mp known, unqueued, member] using settled
    rw [if_pos ⟨member, unclosed⟩, none] at fate
    obtain ⟨phase, rest⟩ := Prod.mk.inj fate
    obtain ⟨closeOnce, closes⟩ := Prod.mk.inj rest
    constructor
    · rw [phase]
      exact fun fresh => absurd fresh known
    · rw [sameRegister]
      exact fun waits => absurd waits unqueued
    · exact .inr (.inr (.inr (.inr ⟨gone, closeOnce, closes⟩)))
    · rw [sameRegister]
      exact fun _ => .inr (.inl ⟨gone, unqueued⟩)
  · rw [if_neg fun both => member both.1] at fate
    obtain ⟨phase, rest⟩ := Prod.mk.inj fate
    obtain ⟨closeOnce, closes⟩ := Prod.mk.inj rest
    constructor
    · rw [phase, closeOnce, closes, sameRegister]
      exact fun fresh => ⟨gone, (early fresh).2⟩
    · rw [closeOnce, closes, sameRegister]
      exact fun waits => ⟨gone, (queued waits).2⟩
    · rw [phase, closeOnce, closes, sameRegister]
      simpa [member, gone] using settled
    · rw [phase, sameRegister, sameUnregister, sameCancelled]
      simpa [member, gone] using removed

theorem Tracked.step {workerPoolSize : Nat} {event : Event Client Message}
    (tracked : hub.Tracked) (inOrder : InOrder hub event)
    (stepped : (hubMachine workerPoolSize).step hub event = some next) :
    next.Tracked := by
  cases event with
  | connect client =>
      simp only [hubMachine, stepHub, Option.ite_none_right_eq_some,
        Option.some.injEq] at stepped
      obtain ⟨fresh, rfl⟩ := stepped
      exact tracked.connect fresh
  | registered client =>
      simp only [hubMachine, stepHub, Option.ite_none_right_eq_some,
        Option.some.injEq] at stepped
      obtain ⟨⟨registering, _⟩, rfl⟩ := stepped
      exact tracked.registered registering
  | registerGivenUp client => exact absurd inOrder id
  | disconnect client =>
      simp only [hubMachine, stepHub, Option.ite_none_right_eq_some,
        Option.some.injEq] at stepped
      obtain ⟨opened, rfl⟩ := stepped
      exact tracked.setPhase (by simp [opened]) (by simp [opened]) (by simp)
        (List.Subset.refl _) (by simp)
  | unregistered client =>
      simp only [hubMachine, stepHub, Option.ite_none_right_eq_some,
        Option.some.injEq] at stepped
      obtain ⟨⟨leaving, _⟩, rfl⟩ := stepped
      exact tracked.setPhase (by simp [leaving]) (by simp [leaving]) (by simp)
        (List.subset_append_left _ _) (by simp)
  | unregisterGivenUp client =>
      simp only [hubMachine, stepHub, Option.ite_none_right_eq_some,
        Option.some.injEq] at stepped
      obtain ⟨⟨leaving, shut⟩, rfl⟩ := stepped
      exact tracked.setPhase (by simp [leaving]) (by simp [leaving]) (by simp)
        (List.Subset.refl _) fun _ => .inr shut
  | read client =>
      simp only [hubMachine, stepHub] at stepped
      split at stepped
      · cases stepped
      · obtain rfl := Option.some.inj stepped
        exact tracked.of_fate rfl rfl (List.Subset.refl _) (fate_setSend _ _)
          id id
  | publish | topic =>
      simp only [hubMachine, stepHub, Option.ite_none_right_eq_some,
        Option.some.injEq] at stepped
      obtain ⟨_, rfl⟩ := stepped
      exact tracked.of_fate rfl rfl (List.Subset.refl _) (fun _ => rfl) id id
  | takeRegister =>
      simp only [hubMachine, stepHub] at stepped
      split at stepped
      next client rest selecting queued =>
        obtain rfl := Option.some.inj stepped
        exact tracked.takeRegister queued selecting
      next => cases stepped
  | takeUnregister =>
      simp only [hubMachine, stepHub] at stepped
      split at stepped
      next client rest selecting queued =>
        obtain rfl := Option.some.inj stepped
        exact tracked.takeUnregister queued selecting
          (inOrder client (by simp [queued]))
      next => cases stepped
  | takeBroadcast order =>
      simp only [hubMachine, stepHub] at stepped
      split at stepped
      next message rest selecting queued =>
        simp only [Option.ite_none_right_eq_some] at stepped
        obtain ⟨_, stepped⟩ := stepped
        split at stepped
        · obtain rfl := Option.some.inj stepped
          exact tracked.of_fate rfl rfl (List.Subset.refl _) (fun _ => rfl)
            id id
        · obtain rfl := Option.some.inj stepped
          exact tracked.of_fate rfl rfl (List.Subset.refl _) (fun _ => rfl)
            id nofun
      next => cases stepped
  | takeDone =>
      simp only [hubMachine, stepHub] at stepped
      split at stepped
      · simp only [Option.ite_none_right_eq_some, Option.some.injEq] at stepped
        obtain ⟨_, rfl⟩ := stepped
        exact tracked.finish
      · cases stepped
  | work index =>
      simp only [hubMachine, stepHub] at stepped
      split at stepped
      · obtain ⟨⟨after, done⟩, worked, rfl⟩ := Option.map_eq_some_iff.mp stepped
        obtain ⟨clients, register, unregister, fate, cancelled, _⟩ :=
          work_same worked
        exact tracked.of_fate clients register unregister fate
          (fun shut => cancelled.trans shut) nofun
      · cases stepped
  | workGivenUp index =>
      simp only [hubMachine, stepHub] at stepped
      split at stepped
      · obtain ⟨after, _, rfl⟩ := Option.map_eq_some_iff.mp stepped
        exact tracked.of_fate rfl rfl (List.Subset.refl _) (fun _ => rfl)
          id nofun
      · cases stepped
  | workersDone =>
      simp only [hubMachine, stepHub] at stepped
      split at stepped
      · simp only [Option.ite_none_right_eq_some, Option.some.injEq] at stepped
        obtain ⟨_, rfl⟩ := stepped
        exact tracked.of_fate rfl rfl (List.Subset.refl _) (fun _ => rfl)
          id nofun
      · cases stepped
  | topicWork place index =>
      simp only [hubMachine, stepHub, Option.bind_eq_some_iff,
        Option.map_eq_some_iff] at stepped
      obtain ⟨call, _, ⟨after, done⟩, worked, rfl⟩ := stepped
      obtain ⟨clients, register, unregister, fate, cancelled, loop⟩ :=
        work_same worked
      exact tracked.of_fate clients register unregister fate
        (fun shut => cancelled.trans shut) fun stopped =>
          loop.symm.trans stopped
  | topicWorkGivenUp place index =>
      simp only [hubMachine, stepHub, Option.bind_eq_some_iff,
        Option.map_eq_some_iff] at stepped
      obtain ⟨call, _, after, _, rfl⟩ := stepped
      exact tracked.of_fate rfl rfl (List.Subset.refl _) (fun _ => rfl) id id
  | topicDone place =>
      simp only [hubMachine, stepHub, Option.bind_eq_some_iff,
        Option.ite_none_right_eq_some, Option.some.injEq] at stepped
      obtain ⟨call, _, _, rfl⟩ := stepped
      exact tracked.of_fate rfl rfl (List.Subset.refl _) (fun _ => rfl) id id
  | stop =>
      obtain rfl := Option.some.inj stepped
      exact tracked.of_fate rfl rfl (List.Subset.refl _) (fun _ => rfl)
        (fun _ => rfl) id

omit [DecidableEq Client] in
theorem tracked_newHub : (newHub : Hub Client Message).Tracked :=
  ⟨List.nodup_nil, List.nodup_nil, fun _ => rfl, fun _ =>
    ⟨fun _ => ⟨List.not_mem_nil, List.not_mem_nil, rfl, rfl⟩,
      fun member => absurd member List.not_mem_nil, .inl rfl,
      fun ended => by cases ended⟩⟩

end Hub

/-- Whenever both channels have been drained no connection is left behind. -/
theorem no_zombie_throughout (workerPoolSize : Nat)
    (events : List (Event Client Message))
    (inOrder : (hubMachine workerPoolSize).Guarded InOrder newHub events) :
    (hubMachine workerPoolSize).Throughout
      (fun hub => hub.Drained → hub.NoZombie) newHub events :=
  ((hubMachine workerPoolSize).throughout_of_guarded
    (fun _ _ _ tracked inOrder stepped => tracked.step inOrder stepped)
    Hub.tracked_newHub inOrder).imp _ fun _ tracked drained =>
      tracked.noZombie drained

theorem no_zombie_in_order :
    (hubMachine 10).Throughout
      (fun hub : Hub Nat Unit => hub.Drained → hub.NoZombie) newHub
      [.connect 0, .registered 0, .takeRegister, .disconnect 0,
        .unregistered 0, .takeUnregister] :=
  no_zombie_throughout 10 _ (by decide)

/-- The loop picks the removal first, finds nothing to remove, and registers
the connection afterwards. -/
theorem zombie_after_swapped_channels :
    ∃ hub : Hub Nat Unit,
      (hubMachine 10).run newHub
        [.connect 0, .registered 0, .disconnect 0, .unregistered 0,
          .takeUnregister, .takeRegister] = some hub ∧
      hub.Drained ∧ ¬ hub.NoZombie := by
  refine ⟨_, rfl, ⟨rfl, rfl, fun shut => by cases shut⟩, fun noZombie => ?_⟩
  have gone := (noZombie.gone 0 rfl).1
  revert gone
  decide

end VpnUi.WebSocket
