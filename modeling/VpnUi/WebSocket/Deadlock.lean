import Mathlib.Data.List.Count
import Mathlib.Order.Nat
import VpnUi.WebSocket.Hub

namespace VpnUi.WebSocket

open Foundation

/-! The loop of the hub waits for its workers, and its workers wait for room in
a channel that only the loop drains. -/

variable {Client Message : Type}

/-- The workers of a call that wait to queue a removal. -/
def Broadcast.waiting (call : Broadcast Client Message) : Nat :=
  call.workers.countP Worker.isRemoving

namespace Hub

def waiting (hub : Hub Client Message) : Nat :=
  match hub.loop with
  | .broadcasting call => call.waiting
  | _ => 0

/-- The removals that are queued or that the workers of the loop wait to
queue. -/
def removals (hub : Hub Client Message) : Nat :=
  hub.unregister.length + hub.waiting

/-- The loop waits for a worker, and the worker for the loop. -/
def Deadlocked (hub : Hub Client Message) : Prop :=
  hub.cancelled = false ∧
    unregisterCapacity ≤ hub.unregister.length ∧
    ∃ call, hub.loop = .broadcasting call ∧
      ∃ worker ∈ call.workers, worker.isRemoving = true

/-- The loop waits for its workers. -/
def Busy (hub : Hub Client Message) : Prop :=
  ∃ call, hub.loop = .broadcasting call

instance (hub : Hub Client Message) : Decidable hub.Busy :=
  match busy : hub.loop with
  | .selecting => isFalse fun ⟨_, other⟩ => by simp [busy] at other
  | .broadcasting call => isTrue ⟨call, busy⟩
  | .stopped => isFalse fun ⟨_, other⟩ => by simp [busy] at other

/-- A worker of the loop is about to find the buffer of its client full. -/
def findsFull (hub : Hub Client Message) (index : Nat) : Bool :=
  match hub.loop with
  | .broadcasting call =>
      match call.workers[index]? with
      | some (.sending client) =>
          !(hub.connection client).closeOnce &&
            decide (sendCapacity ≤ (hub.connection client).send.length)
      | _ => false
  | _ => false

end Hub

/-- While the loop waits for its workers, a removal that is queued, or that a
worker turns to because a buffer is full, is at most the hundredth. -/
def HasRoom (hub : Hub Client Message) : Event Client Message → Prop
  | .unregistered _ | .topicWork _ _ =>
      hub.Busy → hub.removals < unregisterCapacity
  | .work index =>
      hub.findsFull index = true → hub.removals < unregisterCapacity
  | _ => True

instance (hub : Hub Client Message) (event : Event Client Message) :
    Decidable (HasRoom hub event) := by
  cases event <;> unfold HasRoom <;> infer_instance

theorem waiting_setWorker (call : Broadcast Client Message) {index : Nat}
    {old : Worker Client} (found : call.workers[index]? = some old)
    (worker : Worker Client) :
    (call.setWorker index worker).waiting +
        (if old.isRemoving then 1 else 0) =
      call.waiting + if worker.isRemoving then 1 else 0 := by
  obtain ⟨bound, rfl⟩ := List.getElem?_eq_some_iff.mp found
  unfold Broadcast.waiting Broadcast.setWorker
  have positive : call.workers[index].isRemoving = true →
      0 < call.workers.countP Worker.isRemoving := fun removing =>
    List.countP_pos_iff.mpr ⟨_, List.getElem_mem bound, removing⟩
  rw [List.countP_set bound]
  split
  next removing =>
    have := positive removing
    omega
  next => omega

theorem waiting_broadcastParallel (workerPoolSize : Nat)
    (clients : List Client) (message : Message) :
    (broadcastParallel workerPoolSize clients message).waiting = 0 := by
  unfold broadcastParallel Broadcast.waiting
  split
  · simp [List.countP_map, Worker.isRemoving, Function.comp_def]
  · simp [List.countP_replicate, Worker.isRemoving]

variable [DecidableEq Client]

namespace Hub

variable {hub next : Hub Client Message}

/-- What one step of a worker does to the channel of the removals. -/
theorem work_cases {call after : Broadcast Client Message} {index : Nat}
    (worked : hub.work call index = some (after, next)) :
    (next.loop = hub.loop ∧ next.topics = hub.topics ∧
      next.cancelled = hub.cancelled) ∧
    ((after.waiting = call.waiting ∧ next.unregister = hub.unregister) ∨
      (∃ client, call.workers[index]? = some (.sending client) ∧
        (hub.connection client).closeOnce = false ∧
        sendCapacity ≤ (hub.connection client).send.length ∧
        after.waiting = call.waiting + 1 ∧
          next.unregister = hub.unregister) ∨
      (∃ client, call.workers[index]? = some (.removing client) ∧
        hub.unregister.length < unregisterCapacity ∧
        after.waiting + 1 = call.waiting ∧
          next.unregister = hub.unregister ++ [client])) := by
  unfold work at worked
  split at worked
  next found =>
    split at worked
    next =>
      obtain ⟨rfl, rfl⟩ := Prod.mk.inj (Option.some.inj worked)
      refine ⟨⟨rfl, rfl, rfl⟩, .inl ⟨?_, rfl⟩⟩
      simpa [Worker.isRemoving] using waiting_setWorker call found .finished
    next client rest pending =>
      obtain ⟨rfl, rfl⟩ := Prod.mk.inj (Option.some.inj worked)
      refine ⟨⟨rfl, rfl, rfl⟩, .inl ⟨?_, rfl⟩⟩
      have taken := waiting_setWorker { call with pending := rest } found
        (.sending client)
      simp only [Worker.isRemoving, Bool.false_eq_true, reduceIte] at taken
      exact taken
  next client found =>
    dsimp only at worked
    have quiet := waiting_setWorker call found .ready
    have turned := waiting_setWorker call found (.removing client)
    simp only [Worker.isRemoving, Bool.false_eq_true, reduceIte] at quiet turned
    split at worked
    next =>
      obtain ⟨rfl, rfl⟩ := Prod.mk.inj (Option.some.inj worked)
      exact ⟨⟨rfl, rfl, rfl⟩, .inl ⟨quiet, rfl⟩⟩
    next still =>
      split at worked
      next =>
        obtain ⟨rfl, rfl⟩ := Prod.mk.inj (Option.some.inj worked)
        exact ⟨⟨rfl, rfl, rfl⟩, .inl ⟨quiet, rfl⟩⟩
      next full =>
        obtain ⟨rfl, rfl⟩ := Prod.mk.inj (Option.some.inj worked)
        exact ⟨⟨rfl, rfl, rfl⟩,
          .inr (.inl ⟨client, found, by simpa using still, not_lt.mp full,
            turned, rfl⟩)⟩
  next client found =>
    split at worked
    next room =>
      obtain ⟨rfl, rfl⟩ := Prod.mk.inj (Option.some.inj worked)
      have queued := waiting_setWorker call found .ready
      simp only [Worker.isRemoving, Bool.false_eq_true, reduceIte] at queued
      exact ⟨⟨rfl, rfl, rfl⟩, .inr (.inr ⟨client, found, room, queued, rfl⟩)⟩
    next => cases worked
  next => cases worked
  next => cases worked

omit [DecidableEq Client] in
theorem giveUpWork_waiting {call after : Broadcast Client Message} {index : Nat}
    (left : hub.giveUpWork call index = some after) :
    hub.cancelled = true ∧ after.waiting ≤ call.waiting := by
  unfold giveUpWork at left
  split at left
  next client found =>
    split at left
    next cancelled =>
      obtain rfl := Option.some.inj left
      have fewer := waiting_setWorker call found .ready
      simp only [Worker.isRemoving, Bool.false_eq_true, reduceIte] at fewer
      exact ⟨cancelled, by omega⟩
    next => cases left
  next => cases left

/-- Closing a Send channel changes nothing but the connection. -/
theorem closeSend_eq (client : Client) :
    ∃ connection, hub.closeSend client = { hub with connection := connection } := by
  unfold closeSend
  dsimp only
  split
  · exact ⟨hub.connection, rfl⟩
  · exact ⟨_, rfl⟩

theorem foldl_closeSend_eq (clients : List Client) :
    ∃ connection, clients.foldl closeSend hub =
      { hub with connection := connection } := by
  induction clients generalizing hub with
  | nil => exact ⟨hub.connection, rfl⟩
  | cons client rest induction =>
      obtain ⟨first, closed⟩ := @closeSend_eq _ _ _ hub client
      obtain ⟨later, closedRest⟩ :=
        @induction { hub with connection := first }
      exact ⟨later, by rw [List.foldl_cons, closed, closedRest]⟩

/-- The steps that touch neither the loop nor the channel of the removals. -/
def Event.quiet : Event Client Message → Bool
  | .unregistered _ | .takeUnregister | .takeBroadcast _ | .takeDone
  | .work _ | .workGivenUp _ | .workersDone | .topicWork _ _ => false
  | _ => true

theorem quiet_step {workerPoolSize : Nat} {event : Event Client Message}
    (quiet : Event.quiet event = true)
    (stepped : (hubMachine workerPoolSize).step hub event = some next) :
    next.loop = hub.loop ∧ next.unregister = hub.unregister := by
  cases event with
  | connect | registered | registerGivenUp | disconnect | unregisterGivenUp
  | publish | topic =>
      simp only [hubMachine, stepHub, Option.ite_none_right_eq_some,
        Option.some.injEq] at stepped
      obtain ⟨_, rfl⟩ := stepped
      exact ⟨rfl, rfl⟩
  | stop =>
      obtain rfl := Option.some.inj stepped
      exact ⟨rfl, rfl⟩
  | read client =>
      simp only [hubMachine, stepHub] at stepped
      split at stepped
      · cases stepped
      · obtain rfl := Option.some.inj stepped
        exact ⟨rfl, rfl⟩
  | takeRegister =>
      simp only [hubMachine, stepHub] at stepped
      split at stepped
      · obtain rfl := Option.some.inj stepped
        exact ⟨rfl, rfl⟩
      · cases stepped
  | topicWorkGivenUp place index =>
      simp only [hubMachine, stepHub, Option.bind_eq_some_iff,
        Option.map_eq_some_iff] at stepped
      obtain ⟨call, _, after, _, rfl⟩ := stepped
      exact ⟨rfl, rfl⟩
  | topicDone place =>
      simp only [hubMachine, stepHub, Option.bind_eq_some_iff,
        Option.ite_none_right_eq_some, Option.some.injEq] at stepped
      obtain ⟨call, _, _, rfl⟩ := stepped
      exact ⟨rfl, rfl⟩
  | unregistered | takeUnregister | takeBroadcast | takeDone | work
  | workGivenUp | workersDone | topicWork => cases quiet

omit [DecidableEq Client] in
theorem waiting_of_loop {other : Hub Client Message}
    (same : other.loop = hub.loop) : other.waiting = hub.waiting := by
  unfold waiting
  rw [same]

omit [DecidableEq Client] in
theorem waiting_of_idle (idle : ¬ hub.Busy) : hub.waiting = 0 := by
  unfold waiting
  split
  next call busy => exact absurd ⟨call, busy⟩ idle
  next => rfl

omit [DecidableEq Client] in
/-- A goroutine other than those of the loop queues a removal. -/
theorem removals_queued {client : Client}
    (room : hub.Busy → hub.removals < unregisterCapacity)
    (free : hub.unregister.length < unregisterCapacity)
    (loop : next.loop = hub.loop)
    (queued : next.unregister = hub.unregister ++ [client]) :
    next.removals ≤ unregisterCapacity := by
  unfold removals at room ⊢
  rw [waiting_of_loop loop, queued, List.length_append, List.length_singleton]
  by_cases busy : hub.Busy
  · have := room busy
    omega
  · rw [waiting_of_idle busy]
    omega

/-- The removals never exceed the channel, so none has to wait for ever. -/
theorem removals_le_step {workerPoolSize : Nat} {event : Event Client Message}
    (within : hub.removals ≤ unregisterCapacity) (room : HasRoom hub event)
    (stepped : (hubMachine workerPoolSize).step hub event = some next) :
    next.removals ≤ unregisterCapacity := by
  have queue : hub.unregister.length ≤ unregisterCapacity :=
    (Nat.le_add_right _ _).trans within
  cases event with
  | unregistered client =>
      simp only [hubMachine, stepHub, Option.ite_none_right_eq_some,
        Option.some.injEq] at stepped
      obtain ⟨⟨_, free⟩, rfl⟩ := stepped
      exact removals_queued room free rfl rfl
  | takeUnregister =>
      simp only [hubMachine, stepHub] at stepped
      split at stepped
      next client rest selecting queued =>
        obtain rfl := Option.some.inj stepped
        have taken : (hub.takeUnregister client rest).unregister = rest ∧
            (hub.takeUnregister client rest).loop = hub.loop := by
          unfold takeUnregister
          split
          · obtain ⟨connection, closed⟩ := @closeSend_eq _ _ _ { hub with
              unregister := rest, clients := hub.clients.erase client } client
            rw [closed]
            exact ⟨rfl, rfl⟩
          · exact ⟨rfl, rfl⟩
        have idle : (hub.takeUnregister client rest).waiting = 0 := by
          unfold waiting
          rw [taken.2, selecting]
        rw [queued, List.length_cons] at queue
        unfold removals
        rw [taken.1, idle]
        omega
      next => cases stepped
  | takeBroadcast order =>
      simp only [hubMachine, stepHub] at stepped
      split at stepped
      next message rest selecting queued =>
        simp only [Option.ite_none_right_eq_some] at stepped
        obtain ⟨_, stepped⟩ := stepped
        split at stepped
        · obtain rfl := Option.some.inj stepped
          exact within
        · obtain rfl := Option.some.inj stepped
          show hub.unregister.length +
            (broadcastParallel workerPoolSize order message).waiting ≤ _
          rw [waiting_broadcastParallel]
          exact queue
      next => cases stepped
  | takeDone =>
      simp only [hubMachine, stepHub] at stepped
      split at stepped
      · simp only [Option.ite_none_right_eq_some, Option.some.injEq] at stepped
        obtain ⟨_, rfl⟩ := stepped
        obtain ⟨connection, closed⟩ :=
          @foldl_closeSend_eq _ _ _ hub hub.clients
        show (hub.clients.foldl closeSend hub).unregister.length + 0 ≤ _
        rw [closed]
        exact queue
      · cases stepped
  | work index =>
      simp only [hubMachine, stepHub] at stepped
      split at stepped
      next call busy =>
        obtain ⟨⟨after, done⟩, worked, rfl⟩ := Option.map_eq_some_iff.mp stepped
        have counted : hub.removals =
            hub.unregister.length + call.waiting := by
          unfold removals waiting
          rw [busy]
        show done.unregister.length + after.waiting ≤ _
        obtain ⟨_, ⟨same, kept⟩ | ⟨client, sending, still, full, more, kept⟩ |
          ⟨client, _, _, fewer, queued⟩⟩ := work_cases worked
        · rw [same, kept, ← counted]
          exact within
        · have := room (by simp [findsFull, busy, sending, still, full])
          rw [more, kept]
          omega
        · rw [queued, List.length_append, List.length_singleton]
          omega
      next => cases stepped
  | workGivenUp index =>
      simp only [hubMachine, stepHub] at stepped
      split at stepped
      next call busy =>
        obtain ⟨after, left, rfl⟩ := Option.map_eq_some_iff.mp stepped
        have counted : hub.removals =
            hub.unregister.length + call.waiting := by
          unfold removals waiting
          rw [busy]
        have fewer := (giveUpWork_waiting left).2
        show hub.unregister.length + after.waiting ≤ _
        omega
      next => cases stepped
  | workersDone =>
      simp only [hubMachine, stepHub] at stepped
      split at stepped
      · simp only [Option.ite_none_right_eq_some, Option.some.injEq] at stepped
        obtain ⟨_, rfl⟩ := stepped
        exact queue
      · cases stepped
  | topicWork place index =>
      simp only [hubMachine, stepHub, Option.bind_eq_some_iff,
        Option.map_eq_some_iff] at stepped
      obtain ⟨call, _, ⟨after, done⟩, worked, rfl⟩ := stepped
      obtain ⟨⟨loop, _, _⟩, ⟨_, kept⟩ | ⟨_, _, _, _, _, kept⟩ |
        ⟨client, _, free, _, queued⟩⟩ := work_cases worked
      · show done.unregister.length + done.waiting ≤ _
        rw [kept, waiting_of_loop loop]
        exact within
      · show done.unregister.length + done.waiting ≤ _
        rw [kept, waiting_of_loop loop]
        exact within
      · exact @removals_queued _ _ hub _ client room free loop queued
  | _ =>
      obtain ⟨loop, unregister⟩ := quiet_step rfl stepped
      unfold removals at within ⊢
      rw [unregister, waiting_of_loop loop]
      exact within

omit [DecidableEq Client] in
/-- A worker that waits while the channel is full is a removal too many. -/
theorem Deadlocked.lt_removals (deadlocked : hub.Deadlocked) :
    unregisterCapacity < hub.removals := by
  obtain ⟨_, full, call, busy, worker, member, removing⟩ := deadlocked
  have waits : 0 < call.waiting :=
    List.countP_pos_iff.mpr ⟨worker, member, removing⟩
  unfold removals waiting
  rw [busy]
  dsimp only
  omega

/-- There is no way out but the shutdown. -/
theorem Deadlocked.step {workerPoolSize : Nat} {event : Event Client Message}
    (deadlocked : hub.Deadlocked)
    (stepped : (hubMachine workerPoolSize).step hub event = some next)
    (running : next.cancelled = false) : next.Deadlocked := by
  obtain ⟨still, full, call, busy, worker, member, removing⟩ := deadlocked
  have same (loop : next.loop = hub.loop)
      (unregister : next.unregister = hub.unregister) : next.Deadlocked :=
    ⟨running, unregister ▸ full, call, loop.trans busy, worker, member,
      removing⟩
  cases event with
  | unregistered client =>
      simp only [hubMachine, stepHub, Option.ite_none_right_eq_some] at stepped
      exact absurd stepped.1.2 (not_lt.mpr full)
  | takeUnregister | takeBroadcast | takeDone =>
      simp [hubMachine, stepHub, busy] at stepped
  | work index =>
      simp only [hubMachine, stepHub, busy] at stepped
      obtain ⟨⟨after, done⟩, worked, rfl⟩ := Option.map_eq_some_iff.mp stepped
      have waits : 0 < call.waiting :=
        List.countP_pos_iff.mpr ⟨worker, member, removing⟩
      obtain ⟨_, ⟨more, kept⟩ | ⟨_, _, _, _, more, kept⟩ | ⟨_, _, free, _⟩⟩ :=
        work_cases worked
      · obtain ⟨other, stays, waiting⟩ :=
          List.countP_pos_iff.mp (more ▸ waits)
        exact ⟨running, kept ▸ full, after, rfl, other, stays, waiting⟩
      · have waits : 0 < after.waiting := more ▸ Nat.succ_pos _
        obtain ⟨other, stays, waiting⟩ := List.countP_pos_iff.mp waits
        exact ⟨running, kept ▸ full, after, rfl, other, stays, waiting⟩
      · exact absurd free (not_lt.mpr full)
  | workGivenUp index =>
      simp only [hubMachine, stepHub, busy] at stepped
      obtain ⟨after, left, rfl⟩ := Option.map_eq_some_iff.mp stepped
      rw [(giveUpWork_waiting left).1] at still
      cases still
  | workersDone =>
      simp only [hubMachine, stepHub, busy, Option.ite_none_right_eq_some,
        Option.some.injEq] at stepped
      have finished := List.all_eq_true.mp stepped.1 worker member
      cases worker <;> simp [Worker.isRemoving] at removing finished
  | topicWork place index =>
      simp only [hubMachine, stepHub, Option.bind_eq_some_iff,
        Option.map_eq_some_iff] at stepped
      obtain ⟨other, _, ⟨after, done⟩, worked, rfl⟩ := stepped
      obtain ⟨⟨loop, _, _⟩, ⟨_, kept⟩ | ⟨_, _, _, _, _, kept⟩ |
        ⟨_, _, free, _⟩⟩ := work_cases worked
      · exact same loop kept
      · exact same loop kept
      · exact absurd free (not_lt.mpr full)
  | _ =>
      obtain ⟨loop, unregister⟩ := quiet_step rfl stepped
      exact same loop unregister

end Hub

section Stalled

/-! One client that has stopped reading, and a hundred others that leave at
once while the loop turns to the next broadcast. -/

/-- Client 0 has `buffered` messages to read; the clients up to `joined` are
connected, and those up to `left` have left again. -/
def scene (buffered joined left : Nat) : Hub Nat Unit where
  clients := (List.range (joined + 1)).reverse
  register := []
  unregister := List.range' 1 left
  broadcast := []
  loop := .selecting
  topics := []
  connection client :=
    if client = 0 then ⟨.opened, List.replicate buffered (), false, 0⟩
    else if client ≤ left then ⟨.ended, [], false, 0⟩
    else if client ≤ joined then ⟨.opened, [], false, 0⟩
    else ⟨.fresh, [], false, 0⟩
  cancelled := false

def unreadRound : List (Event Nat Unit) :=
  [.publish (), .takeBroadcast [0], .work 0, .work 0, .workersDone]

theorem run_unreadRound (buffered : Nat) (room : buffered < sendCapacity) :
    (hubMachine 10).run (scene buffered 0 0) unreadRound =
      some (scene (buffered + 1) 0 0) := by
  simp [unreadRound, Machine.run, hubMachine, stepHub, scene,
    broadcastCapacity, broadcastParallel, Hub.work, room,
    Broadcast.setWorker, Broadcast.done, Hub.setConnection]
  funext client
  by_cases first : client = 0
  · simp [first, List.replicate_succ']
  · simp [first]

def joinRound (joined : Nat) : List (Event Nat Unit) :=
  [.connect (joined + 1), .registered (joined + 1), .takeRegister]

theorem run_joinRound (joined : Nat) :
    (hubMachine 10).run (scene sendCapacity joined 0) (joinRound joined) =
      some (scene sendCapacity (joined + 1) 0) := by
  have later : ¬ joined + 1 ≤ joined := Nat.not_succ_le_self _
  simp [joinRound, Machine.run, hubMachine, stepHub, scene, later,
    registerCapacity, Hub.setPhase, Hub.setConnection, Hub.takeRegister]
  constructor
  · conv_rhs => rw [List.range_succ, List.reverse_append]
    rfl
  · funext client
    by_cases last : client = joined + 1
    · simp [last]
    · have below : client ≤ joined + 1 ↔ client ≤ joined := by omega
      simp [last, below]

def leaveRound (left : Nat) : List (Event Nat Unit) :=
  [.disconnect (left + 1), .unregistered (left + 1)]

theorem run_leaveRound (left : Nat) (within : left < unregisterCapacity) :
    (hubMachine 10).run (scene sendCapacity 100 left) (leaveRound left) =
      some (scene sendCapacity 100 (left + 1)) := by
  have later : ¬ left + 1 ≤ left := Nat.not_succ_le_self _
  have room : left < 100 := within
  have opened : left ≤ 99 := Nat.le_of_lt_succ within
  simp [leaveRound, Machine.run, hubMachine, stepHub, scene, later, room,
    opened, within, Hub.setPhase, Hub.setConnection]
  constructor
  · rw [List.range'_concat]
    simp [Nat.add_comm]
  · funext client
    by_cases last : client = left + 1
    · simp [last]
    · have below : client ≤ left + 1 ↔ client ≤ left := by omega
      simp [last, below]

/-- The loop prefers the next broadcast to the queued removals. -/
def stalledEvents : List (Event Nat Unit) :=
  [.connect 0, .registered 0, .takeRegister] ++
    ((List.range sendCapacity).flatMap fun _ => unreadRound) ++
    (List.range 100).flatMap joinRound ++
    (List.range unregisterCapacity).flatMap leaveRound ++
    [.publish (), .takeBroadcast (List.range 101), .work 0, .work 0]

theorem run_start :
    (hubMachine 10).run newHub
      ([.connect 0, .registered 0, .takeRegister] : List (Event Nat Unit)) =
        some (scene 0 0 0) := by
  simp [Machine.run, hubMachine, stepHub, newHub, scene, registerCapacity,
    Hub.setPhase, Hub.setConnection, Hub.takeRegister]
  funext client
  by_cases first : client = 0 <;> simp [first]

end Stalled

end VpnUi.WebSocket
