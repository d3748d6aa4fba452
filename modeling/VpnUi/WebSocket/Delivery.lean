import VpnUi.WebSocket.Zombie

namespace VpnUi.WebSocket

open Foundation

/-! What the connections receive of the published messages. -/

/-- A record of the hub's doings: the messages that entered the broadcast
channel and those the loop took from it, and for each client the messages taken
while it was one, those its connection has read, and whether the loop has found
its Send channel full. -/
structure Journal (Client Message : Type) where
  published : List Message
  taken : List Message
  due : Client → List Message
  got : Client → List Message
  refused : Client → Bool

variable {Client Message : Type}

def Journal.blank : Journal Client Message :=
  ⟨[], [], fun _ => [], fun _ => [], fun _ => false⟩

def Worker.sendingTo? : Worker Client → Option Client
  | .sending client => some client
  | _ => none

/-- The clients that the call still has to serve. -/
def Broadcast.owed (call : Broadcast Client Message) : List Client :=
  call.pending ++ call.workers.filterMap Worker.sendingTo?

variable [DecidableEq Client]

/-- The worker has the message for a client whose channel is full. -/
def Hub.refusing (hub : Hub Client Message) (call : Broadcast Client Message)
    (index : Nat) (client : Client) : Bool :=
  call.workers[index]? = some (.sending client) ∧
    (hub.connection client).closeOnce = false ∧
      sendCapacity ≤ (hub.connection client).send.length

def Journal.after (journal : Journal Client Message)
    (hub : Hub Client Message) :
    Event Client Message → Journal Client Message
  | .publish message =>
      { journal with published := journal.published ++ [message] }
  | .read client =>
      { journal with
        got := Function.update journal.got client
          (journal.got client ++ (hub.connection client).send.take 1) }
  | .takeBroadcast _ =>
      { journal with
        taken := journal.taken ++ hub.broadcast.take 1
        due := fun client =>
          if client ∈ hub.clients then
            journal.due client ++ hub.broadcast.take 1
          else journal.due client }
  | .work index =>
      match hub.loop with
      | .broadcasting call =>
          { journal with
            refused := fun client =>
              journal.refused client || hub.refusing call index client }
      | _ => journal
  | _ => journal

def journalMachine (workerPoolSize : Nat) :
    Machine (Hub Client Message × Journal Client Message)
      (Event Client Message) where
  step := fun (hub, journal) event =>
    (stepHub workerPoolSize hub event).map fun next =>
      (next, journal.after hub event)

namespace Hub

/-- What the loop is about to put into the channel of a client. -/
def underway (hub : Hub Client Message) (client : Client) : List Message :=
  match hub.loop with
  | .broadcasting call =>
      List.replicate (call.owed.count client) call.message
  | _ => []

/-- What has been put into the channel of a client, read or not, and belongs to
the broadcasts of the loop. -/
def sent (general : Message → Bool) (hub : Hub Client Message)
    (journal : Journal Client Message) (client : Client) : List Message :=
  (journal.got client ++ (hub.connection client).send).filter general

end Hub

/-- The messages for a topic are told apart from those for everybody. -/
def Labelled (general : Message → Bool) : Event Client Message → Prop
  | .publish message => general message = true
  | .topic _ message => general message = false
  | _ => True

/-! The clients a call still has to serve. -/

namespace Broadcast

omit [DecidableEq Client] in
theorem owed_broadcastParallel (workerPoolSize : Nat) (clients : List Client)
    (message : Message) :
    (broadcastParallel workerPoolSize clients message).owed = clients := by
  unfold broadcastParallel
  split
  · show [] ++ (clients.map Worker.sending).filterMap Worker.sendingTo? = clients
    rw [List.nil_append, List.filterMap_map]
    exact List.filterMap_some
  · show clients ++
      (List.replicate workerPoolSize Worker.ready).filterMap
        Worker.sendingTo? = clients
    rw [List.filterMap_replicate_of_none rfl, List.append_nil]

omit [DecidableEq Client] in
theorem message_broadcastParallel (workerPoolSize : Nat)
    (clients : List Client) (message : Message) :
    (broadcastParallel workerPoolSize clients message).message = message := by
  unfold broadcastParallel
  split
  · rfl
  · rfl

variable {call : Broadcast Client Message} {index : Nat}
  {worker : Worker Client}

theorem count_sendingTo_cons (first : Worker Client)
    (rest : List (Worker Client)) (client : Client) :
    ((first :: rest).filterMap Worker.sendingTo?).count client =
      first.sendingTo?.toList.count client +
        (rest.filterMap Worker.sendingTo?).count client := by
  rw [List.filterMap_cons]
  cases first.sendingTo? with
  | none => simp
  | some served => simp [List.count_cons, Nat.add_comm]

/-- The other workers go on with what they have. -/
theorem count_owed_setWorker (found : call.workers[index]? = some worker)
    (other : Worker Client) (client : Client) :
    (call.setWorker index other).owed.count client +
        worker.sendingTo?.toList.count client =
      call.owed.count client + other.sendingTo?.toList.count client := by
  obtain ⟨within, rfl⟩ := List.getElem?_eq_some_iff.mp found
  have before := ((List.getElem_cons_eraseIdx_perm within).filterMap
    Worker.sendingTo?).count_eq client
  have after := ((List.set_perm_cons_eraseIdx within other).filterMap
    Worker.sendingTo?).count_eq client
  rw [count_sendingTo_cons] at before after
  simp only [owed, setWorker, List.count_append]
  omega

/-- A worker that takes a client from the channel owes it instead. -/
theorem count_owed_take (found : call.workers[index]? = some .ready)
    {first : Client} {rest : List Client}
    (pending : call.pending = first :: rest) (client : Client) :
    ({ call with pending := rest }.setWorker index
        (.sending first)).owed.count client = call.owed.count client := by
  have count := @count_owed_setWorker _ _ _ { call with pending := rest } _ _
    found (.sending first) client
  simp only [Worker.sendingTo?, Option.toList, List.count_nil,
    Nat.add_zero] at count
  rw [count]
  simp only [owed, pending, List.count_append, List.count_cons, List.count_nil]
  omega

/-- A worker that has come to an end has found nobody left to serve. -/
def Sound (call : Broadcast Client Message) : Prop :=
  call.workers ≠ [] ∧ (Worker.finished ∈ call.workers → call.pending = [])

omit [DecidableEq Client] in
theorem sound_broadcastParallel {workerPoolSize : Nat}
    (positive : 0 < workerPoolSize) {clients : List Client}
    (some : clients ≠ []) (message : Message) :
    (broadcastParallel workerPoolSize clients message).Sound := by
  unfold broadcastParallel
  split
  · refine ⟨?_, fun _ => rfl⟩
    show clients.map Worker.sending ≠ []
    rwa [Ne, List.map_eq_nil_iff]
  · constructor
    · show List.replicate workerPoolSize Worker.ready ≠ []
      rw [Ne, List.replicate_eq_nil_iff]
      exact Nat.ne_of_gt positive
    · intro finished
      cases List.eq_of_mem_replicate finished

omit [DecidableEq Client] in
theorem Sound.setWorker (sound : call.Sound)
    (ends : worker = .finished → call.pending = []) :
    (call.setWorker index worker).Sound := by
  constructor
  · show call.workers.set index worker ≠ []
    rw [Ne, List.set_eq_nil_iff]
    exact sound.1
  · intro finished
    rcases List.mem_or_eq_of_mem_set finished with old | same
    · exact sound.2 old
    · exact ends same.symm

omit [DecidableEq Client] in
theorem Sound.take {client : Client} {rest : List Client}
    (sound : call.Sound) (pending : call.pending = client :: rest) :
    { call with pending := rest }.Sound := by
  refine ⟨sound.1, fun finished => ?_⟩
  have none := sound.2 finished
  rw [pending] at none
  cases none

omit [DecidableEq Client] in
/-- A call that is done owes nothing. -/
theorem Sound.owed_eq_nil (sound : call.Sound) (done : call.done = true) :
    call.owed = [] := by
  have ended : ∀ worker ∈ call.workers, worker = .finished := by
    intro worker member
    have finished := List.all_eq_true.mp done worker member
    cases worker with
    | finished => rfl
    | _ => cases finished
  obtain ⟨first, rest, workers⟩ := List.exists_cons_of_ne_nil sound.1
  have first_mem : first ∈ call.workers := workers ▸ List.mem_cons_self
  have pending := sound.2 (ended first first_mem ▸ first_mem)
  rw [owed, pending, List.nil_append, List.filterMap_eq_nil_iff]
  intro worker member
  rw [ended worker member]
  rfl

end Broadcast

/-! One client and one step. -/

namespace Hub

/-- What is known of one client at any time. -/
structure Served (general : Message → Bool) (hub : Hub Client Message)
    (journal : Journal Client Message) (client : Client) : Prop where
  early : (hub.connection client).phase = .fresh ∨
      (hub.connection client).phase = .registering →
    client ∉ hub.clients ∧ client ∉ hub.register ∧
      (hub.connection client).closeOnce = false ∧ journal.due client = []
  waiting : client ∈ hub.register →
    client ∉ hub.clients ∧ (hub.connection client).closeOnce = false ∧
      journal.due client = []
  closed : (hub.connection client).closeOnce = true → client ∉ hub.clients
  member : client ∈ hub.clients → journal.due client <:+ journal.taken
  stretch : journal.due client <:+: journal.taken
  order : (hub.sent general journal client ++ hub.underway client).Sublist
    (journal.due client)
  whole : journal.refused client = false →
    hub.sent general journal client ++ hub.underway client = journal.due client

structure Delivers (general : Message → Bool) (hub : Hub Client Message)
    (journal : Journal Client Message) : Prop where
  clients_nodup : hub.clients.Nodup
  register_nodup : hub.register.Nodup
  published : journal.published = journal.taken ++ hub.broadcast
  everybody : ∀ message ∈ journal.published, general message = true
  topics : ∀ call ∈ hub.topics, general call.message = false
  call : ∀ call, hub.loop = .broadcasting call →
    general call.message = true ∧ call.Sound ∧ call.owed ⊆ hub.clients
  served : ∀ client, hub.Served general journal client

variable {general : Message → Bool} {hub next : Hub Client Message}
  {journal after : Journal Client Message} {client : Client}

/-- A step after which a client is owed no more than before, and unless it was
refused a message no less. -/
theorem Served.of_fewer (served : hub.Served general journal client)
    (phase : (next.connection client).phase = .fresh ∨
        (next.connection client).phase = .registering →
      (hub.connection client).phase = .fresh ∨
        (hub.connection client).phase = .registering)
    (closeOnce : (next.connection client).closeOnce =
      (hub.connection client).closeOnce)
    (clients : client ∈ next.clients ↔ client ∈ hub.clients)
    (register : client ∈ next.register → client ∈ hub.register)
    (due : after.due client = journal.due client)
    (taken : after.taken = journal.taken)
    (fewer : (next.sent general after client ++ next.underway client).Sublist
      (hub.sent general journal client ++ hub.underway client))
    (same : after.refused client = false → journal.refused client = false ∧
      next.sent general after client ++ next.underway client =
        hub.sent general journal client ++ hub.underway client) :
    next.Served general after client := by
  constructor
  · intro early
    obtain ⟨absent, unqueued, unclosed, none⟩ := served.early (phase early)
    exact ⟨fun inside => absent (clients.mp inside),
      fun queued => unqueued (register queued), closeOnce.trans unclosed,
      due.trans none⟩
  · intro queued
    obtain ⟨absent, unclosed, none⟩ := served.waiting (register queued)
    exact ⟨fun inside => absent (clients.mp inside), closeOnce.trans unclosed,
      due.trans none⟩
  · intro closed inside
    exact served.closed (closeOnce.symm.trans closed) (clients.mp inside)
  · rw [clients, due, taken]
    exact served.member
  · rw [due, taken]
    exact served.stretch
  · rw [due]
    exact fewer.trans served.order
  · intro unrefused
    obtain ⟨before, sent⟩ := same unrefused
    rw [sent, due]
    exact served.whole before

/-- A step that changes nothing for a client but its phase, its reading and
what waits for it. -/
theorem Served.of_same (served : hub.Served general journal client)
    (phase : (next.connection client).phase = .fresh ∨
        (next.connection client).phase = .registering →
      (hub.connection client).phase = .fresh ∨
        (hub.connection client).phase = .registering)
    (closeOnce : (next.connection client).closeOnce =
      (hub.connection client).closeOnce)
    (clients : client ∈ next.clients ↔ client ∈ hub.clients)
    (register : client ∈ next.register → client ∈ hub.register)
    (due : after.due client = journal.due client)
    (taken : after.taken = journal.taken)
    (refused : after.refused client = journal.refused client)
    (sent : next.sent general after client ++ next.underway client =
      hub.sent general journal client ++ hub.underway client) :
    next.Served general after client :=
  served.of_fewer phase closeOnce clients register due taken
    (sent ▸ List.Sublist.refl _) fun unrefused =>
      ⟨refused.symm.trans unrefused, sent⟩

/-- What the step of a worker is for one client. -/
inductive Turn (hub : Hub Client Message) (call : Broadcast Client Message)
    (index : Nat) (later : Broadcast Client Message) (next : Hub Client Message)
    (client : Client) : Prop
  | idle (refusing : hub.refusing call index client = false)
      (send : (next.connection client).send = (hub.connection client).send)
      (owed : later.owed.count client = call.owed.count client)
  | handed (refusing : hub.refusing call index client = false)
      (send : (next.connection client).send =
        (hub.connection client).send ++ [call.message])
      (owed : call.owed.count client = later.owed.count client + 1)
  | refused (refusing : hub.refusing call index client = true)
      (send : (next.connection client).send = (hub.connection client).send)
      (owed : call.owed.count client = later.owed.count client + 1)
  | closed (closed : (hub.connection client).closeOnce = true)
      (send : (next.connection client).send = (hub.connection client).send)
      (owed : call.owed.count client = later.owed.count client + 1)

variable {call later : Broadcast Client Message} {index : Nat}

theorem refusing_eq_false {served : Option (Worker Client)}
    (found : call.workers[index]? = served)
    (other : served ≠ some (.sending client)) :
    hub.refusing call index client = false := by
  unfold refusing
  rw [found]
  exact decide_eq_false fun refusing => other refusing.1

theorem turn_of_work (worked : hub.work call index = some (later, next))
    (client : Client) : Turn hub call index later next client := by
  unfold work at worked
  cases found : call.workers[index]? with
  | none =>
      rw [found] at worked
      cases worked
  | some worker =>
      rw [found] at worked
      have count := fun other : Worker Client =>
        Broadcast.count_owed_setWorker found other client
      cases worker with
      | ready =>
          have unasked : hub.refusing call index client = false :=
            refusing_eq_false found (by simp)
          dsimp only at worked
          cases pending : call.pending with
          | nil =>
              rw [pending] at worked
              obtain ⟨rfl, rfl⟩ := Prod.mk.inj (Option.some.inj worked)
              exact .idle unasked rfl (count .finished)
          | cons first rest =>
              rw [pending] at worked
              obtain ⟨rfl, rfl⟩ := Prod.mk.inj (Option.some.inj worked)
              exact .idle unasked rfl
                (Broadcast.count_owed_take found pending client)
      | sending served =>
          by_cases same : client = served
          · subst same
            have served : ∀ other : Worker Client, other.sendingTo? = none →
                call.owed.count client =
                  (call.setWorker index other).owed.count client + 1 := by
              intro other free
              have counted := count other
              rw [free] at counted
              simp only [Worker.sendingTo?, Option.toList_some,
                Option.toList_none, List.count_singleton_self, List.count_nil,
                Nat.add_zero] at counted
              exact counted.symm
            dsimp only at worked
            split at worked
            next closed =>
              obtain ⟨rfl, rfl⟩ := Prod.mk.inj (Option.some.inj worked)
              exact .closed closed rfl (served .ready rfl)
            next opened =>
              split at worked
              next room =>
                obtain ⟨rfl, rfl⟩ := Prod.mk.inj (Option.some.inj worked)
                refine .handed ?_ ?_ (served .ready rfl)
                · exact decide_eq_false fun refusing =>
                    absurd room (Nat.not_lt.mpr refusing.2.2)
                · simp [setConnection]
              next full =>
                obtain ⟨rfl, rfl⟩ := Prod.mk.inj (Option.some.inj worked)
                refine .refused ?_ rfl (served (.removing client) rfl)
                exact decide_eq_true
                  ⟨found, by simpa using opened, Nat.not_lt.mp full⟩
          · have unasked : hub.refusing call index client = false :=
              refusing_eq_false found (by simpa using Ne.symm same)
            have kept : ∀ other : Worker Client, other.sendingTo? = none →
                (call.setWorker index other).owed.count client =
                  call.owed.count client := by
              intro other free
              have counted := count other
              rw [free] at counted
              simp only [Worker.sendingTo?, Option.toList_some,
                Option.toList_none, List.count_singleton, List.count_nil,
                beq_iff_eq, if_neg (Ne.symm same), Nat.add_zero] at counted
              exact counted
            dsimp only at worked
            split at worked
            · obtain ⟨rfl, rfl⟩ := Prod.mk.inj (Option.some.inj worked)
              exact .idle unasked rfl (kept .ready rfl)
            · split at worked
              · obtain ⟨rfl, rfl⟩ := Prod.mk.inj (Option.some.inj worked)
                refine .idle unasked ?_ (kept .ready rfl)
                simp [setConnection, Function.update_of_ne same]
              · obtain ⟨rfl, rfl⟩ := Prod.mk.inj (Option.some.inj worked)
                exact .idle unasked rfl (kept (.removing served) rfl)
      | removing served =>
          have unasked : hub.refusing call index client = false :=
            refusing_eq_false found (by simp)
          dsimp only at worked
          split at worked
          · obtain ⟨rfl, rfl⟩ := Prod.mk.inj (Option.some.inj worked)
            exact .idle unasked rfl (count .ready)
          · cases worked
      | finished => cases worked

theorem message_of_work (worked : hub.work call index = some (later, next)) :
    later.message = call.message := by
  unfold work at worked
  split at worked
  · split at worked
    · obtain ⟨rfl, -⟩ := Prod.mk.inj (Option.some.inj worked)
      rfl
    · obtain ⟨rfl, -⟩ := Prod.mk.inj (Option.some.inj worked)
      rfl
  · dsimp only at worked
    split at worked
    · obtain ⟨rfl, -⟩ := Prod.mk.inj (Option.some.inj worked)
      rfl
    · split at worked
      · obtain ⟨rfl, -⟩ := Prod.mk.inj (Option.some.inj worked)
        rfl
      · obtain ⟨rfl, -⟩ := Prod.mk.inj (Option.some.inj worked)
        rfl
  · simp only [Option.ite_none_right_eq_some, Option.some.injEq,
      Prod.mk.injEq] at worked
    obtain ⟨-, rfl, -⟩ := worked
    rfl
  · cases worked
  · cases worked

theorem sound_of_work (worked : hub.work call index = some (later, next))
    (sound : call.Sound) : later.Sound := by
  unfold work at worked
  split at worked
  · split at worked
    next pending =>
      obtain ⟨rfl, -⟩ := Prod.mk.inj (Option.some.inj worked)
      exact sound.setWorker fun _ => pending
    next pending =>
      obtain ⟨rfl, -⟩ := Prod.mk.inj (Option.some.inj worked)
      exact (sound.take pending).setWorker (by simp)
  · dsimp only at worked
    split at worked
    · obtain ⟨rfl, -⟩ := Prod.mk.inj (Option.some.inj worked)
      exact sound.setWorker (by simp)
    · split at worked
      · obtain ⟨rfl, -⟩ := Prod.mk.inj (Option.some.inj worked)
        exact sound.setWorker (by simp)
      · obtain ⟨rfl, -⟩ := Prod.mk.inj (Option.some.inj worked)
        exact sound.setWorker (by simp)
  · simp only [Option.ite_none_right_eq_some, Option.some.injEq,
      Prod.mk.injEq] at worked
    obtain ⟨-, rfl, -⟩ := worked
    exact sound.setWorker (by simp)
  · cases worked
  · cases worked

theorem owed_subset_of_work (worked : hub.work call index = some (later, next)) :
    later.owed ⊆ call.owed := by
  intro client member
  have positive := List.count_pos_iff.mpr member
  apply List.count_pos_iff.mp
  cases turn_of_work worked client with
  | idle _ _ owed => omega
  | handed _ _ owed => omega
  | refused _ _ owed => omega
  | closed _ _ owed => omega

/-- What a worker of the loop does for one client. -/
theorem Served.work (served : hub.Served general journal client)
    (loop : hub.loop = .broadcasting call)
    (worked : hub.work call index = some (later, next))
    (everybody : general call.message = true)
    (message : later.message = call.message)
    (inside : call.owed ⊆ hub.clients) :
    Served general { next with loop := .broadcasting later }
      (journal.after hub (.work index)) client := by
  obtain ⟨clients, register, -, fate, -, -⟩ := work_same worked
  obtain ⟨phase, closed⟩ := Prod.mk.inj (fate client)
  have closeOnce := congrArg Prod.fst closed
  have journalled : journal.after hub (.work index) =
      { journal with
        refused := fun client =>
          journal.refused client || hub.refusing call index client } := by
    simp only [Journal.after, loop]
  have frame := fun fewer same =>
    @Served.of_fewer _ _ _ general hub
      { next with loop := .broadcasting later } journal
      (journal.after hub (.work index)) client served
      (fun early => by rwa [phase] at early) closeOnce
      (by rw [clients]) (by rw [register]; exact id) (by rw [journalled])
      (by rw [journalled]) fewer same
  cases turn_of_work worked client with
  | idle refusing send owed =>
      have sent : Hub.sent general { next with loop := .broadcasting later }
            (journal.after hub (.work index)) client ++
          Hub.underway { next with loop := .broadcasting later } client =
          hub.sent general journal client ++ hub.underway client := by
        simp only [Hub.sent, journalled, send, Hub.underway, loop, owed,
          message]
      refine frame (sent ▸ List.Sublist.refl _) fun unrefused => ⟨?_, sent⟩
      rw [journalled] at unrefused
      exact (Bool.or_eq_false_iff.mp unrefused).1
  | handed refusing send owed =>
      have sent : Hub.sent general { next with loop := .broadcasting later }
            (journal.after hub (.work index)) client ++
          Hub.underway { next with loop := .broadcasting later } client =
          hub.sent general journal client ++ hub.underway client := by
        simp only [Hub.sent, journalled, send, Hub.underway, loop, owed,
          message, List.filter_append, List.filter_singleton, everybody,
          List.replicate_succ, List.append_assoc, cond_true,
          List.singleton_append]
      refine frame (sent ▸ List.Sublist.refl _) fun unrefused => ⟨?_, sent⟩
      rw [journalled] at unrefused
      exact (Bool.or_eq_false_iff.mp unrefused).1
  | refused refusing send owed =>
      apply frame
      · simp only [Hub.sent, journalled, send, Hub.underway, loop, owed,
          message, List.replicate_succ]
        exact (List.sublist_cons_self _ _).append_left _
      · intro unrefused
        rw [journalled] at unrefused
        exact absurd (Bool.or_eq_false_iff.mp unrefused).2 (by simp [refusing])
  | closed closed send owed =>
      refine absurd ?_ (served.closed closed)
      apply inside
      apply List.count_pos_iff.mp
      omega

/-! The other steps. -/

theorem closeOnce_setPhase (other : Client) (phase : Phase) :
    ((hub.setPhase other phase).connection client).closeOnce =
      (hub.connection client).closeOnce := by
  unfold setPhase setConnection
  by_cases same : client = other
  · subst same
    simp
  · simp [Function.update_of_ne same]

theorem send_setPhase (other : Client) (phase : Phase) :
    ((hub.setPhase other phase).connection client).send =
      (hub.connection client).send := by
  unfold setPhase setConnection
  by_cases same : client = other
  · subst same
    simp
  · simp [Function.update_of_ne same]

theorem sent_setPhase (other : Client) (phase : Phase) :
    (hub.setPhase other phase).sent general journal client =
      hub.sent general journal client := by
  unfold sent
  rw [send_setPhase]

/-- A change of phase that does not lead back before the registration. -/
theorem Served.setPhase (served : hub.Served general journal client)
    {other : Client} {phase : Phase}
    (later : phase = .fresh ∨ phase = .registering →
      (hub.connection other).phase = .fresh ∨
        (hub.connection other).phase = .registering) :
    (hub.setPhase other phase).Served general journal client := by
  refine served.of_same ?_ (closeOnce_setPhase other phase) Iff.rfl id rfl rfl
    rfl ?_
  · intro early
    by_cases same : client = other
    · subst same
      apply later
      simpa [Hub.setPhase, setConnection] using early
    · simpa [Hub.setPhase, setConnection, Function.update_of_ne same]
        using early
  · rw [sent_setPhase]
    rfl

theorem Served.registered (served : hub.Served general journal client)
    {other : Client} (registering : (hub.connection other).phase = .registering) :
    Served general
      { hub.setPhase other .opened with register := hub.register ++ [other] }
      journal client := by
  have kept := @Served.setPhase _ _ _ _ _ _ _ served other .opened (by simp)
  by_cases same : client = other
  · subst same
    obtain ⟨absent, -, unclosed, none⟩ := served.early (.inr registering)
    have opened : ((hub.setPhase client .opened).connection client).phase =
        .opened := by
      simp [Hub.setPhase, setConnection]
    refine ⟨fun early => ?_, fun _ => ?_, kept.closed, kept.member,
      kept.stretch, kept.order, kept.whole⟩
    · rcases early with fresh | again
      · cases opened.symm.trans fresh
      · cases opened.symm.trans again
    · exact ⟨absent, (closeOnce_setPhase _ _).trans unclosed, none⟩
  · refine kept.of_same id rfl Iff.rfl ?_ rfl rfl rfl rfl
    intro queued
    rcases List.mem_append.mp queued with old | new
    · exact old
    · exact absurd (List.mem_singleton.mp new) same

theorem Served.takeRegister (served : hub.Served general journal client)
    {other : Client} {rest : List Client}
    (queued : hub.register = other :: rest) (nodup : hub.register.Nodup) :
    (hub.takeRegister other rest).Served general journal client := by
  by_cases same : client = other
  · subst same
    have waits : client ∈ hub.register := queued ▸ List.mem_cons_self
    obtain ⟨-, unclosed, none⟩ := served.waiting waits
    rw [queued] at nodup
    refine ⟨fun early => ?_, fun again => ?_, fun closed => ?_, fun _ => ?_,
      served.stretch, served.order, served.whole⟩
    · exact absurd waits (served.early early).2.1
    · exact absurd again (List.nodup_cons.mp nodup).1
    · exact absurd (closed.symm.trans unclosed) (by simp)
    · rw [none]
      exact List.nil_suffix
  · refine served.of_same id rfl ?_ ?_ rfl rfl rfl rfl
    · simp [Hub.takeRegister, same]
    · intro later
      rw [queued]
      exact List.mem_cons_of_mem _ later

/-- A client whose channel is closed is none any more. -/
theorem Served.leave (served : hub.Served general journal client)
    (gone : client ∉ next.clients) (register : next.register = hub.register)
    (inside : client ∈ hub.clients)
    (phase : (next.connection client).phase = (hub.connection client).phase)
    (send : (next.connection client).send = (hub.connection client).send)
    (underway : next.underway client = hub.underway client) :
    next.Served general journal client := by
  have sent : next.sent general journal client =
      hub.sent general journal client := by
    unfold Hub.sent
    rw [send]
  refine ⟨fun early => ?_, fun queued => ?_, fun _ => gone,
    fun member => absurd member gone, served.stretch, ?_, ?_⟩
  · rw [phase] at early
    exact absurd inside (served.early early).1
  · rw [register] at queued
    exact absurd inside (served.waiting queued).1
  · rw [sent, underway]
    exact served.order
  · rw [sent, underway]
    exact served.whole

theorem Served.takeUnregister (served : hub.Served general journal client)
    {other : Client} {rest : List Client} (nodup : hub.clients.Nodup) :
    (hub.takeUnregister other rest).Served general journal client := by
  have others : ∀ hub : Hub Client Message, client ≠ other →
      (hub.closeSend other).connection client = hub.connection client := by
    intro hub differs
    unfold closeSend
    dsimp only
    split
    · rfl
    · exact Function.update_of_ne differs _ _
  unfold Hub.takeUnregister
  split
  next inside =>
    have same_loop : ∀ hub : Hub Client Message,
        (hub.closeSend other).clients = hub.clients ∧
          (hub.closeSend other).register = hub.register ∧
          (hub.closeSend other).loop = hub.loop := by
      intro hub
      unfold closeSend
      dsimp only
      split
      · exact ⟨rfl, rfl, rfl⟩
      · exact ⟨rfl, rfl, rfl⟩
    obtain ⟨clients, register, loop⟩ := same_loop
      { hub with unregister := rest, clients := hub.clients.erase other }
    have underway : Hub.underway (closeSend { hub with
        unregister := rest, clients := hub.clients.erase other } other) client =
        hub.underway client := by
      simp only [Hub.underway, loop]
    by_cases same : client = other
    · subst same
      have gone := nodup.not_mem_erase (a := client)
      apply served.leave (by rwa [clients]) register inside
      · unfold closeSend
        dsimp only
        split
        · rfl
        · simp [setConnection]
      · unfold closeSend
        dsimp only
        split
        · rfl
        · simp [setConnection]
      · exact underway
    · have connection := others { hub with
        unregister := rest, clients := hub.clients.erase other } same
      refine served.of_same ?_ ?_ ?_ ?_ rfl rfl rfl ?_
      · rw [connection]
        exact id
      · rw [connection]
      · rw [clients]
        exact List.mem_erase_of_ne same
      · rw [register]
        exact id
      · rw [underway]
        unfold Hub.sent
        rw [connection]
  next => exact served.of_same id rfl Iff.rfl id rfl rfl rfl rfl

theorem send_foldl_closeSend (clients : List Client) :
    ((clients.foldl closeSend hub).connection client).send =
      (hub.connection client).send := by
  induction clients generalizing hub with
  | nil => rfl
  | cons first rest induction =>
      rw [List.foldl_cons, induction]
      unfold closeSend
      dsimp only
      split
      · rfl
      · by_cases same : client = first
        · subst same
          simp [setConnection]
        · simp [setConnection, Function.update_of_ne same]

theorem Served.finish (served : hub.Served general journal client)
    (nodup : hub.clients.Nodup) (selecting : hub.loop = .selecting) :
    hub.finish.Served general journal client := by
  obtain ⟨register, -, -⟩ := @foldl_closeSend_same _ _ _ hub hub.clients
  have fate := @fate_foldl_closeSend _ _ _ hub hub.clients nodup client
  have send : (hub.finish.connection client).send =
      (hub.connection client).send := send_foldl_closeSend hub.clients
  have gone : client ∉ hub.finish.clients := List.not_mem_nil
  have underway : hub.finish.underway client = hub.underway client := by
    simp only [Hub.underway, selecting, Hub.finish]
  by_cases inside : client ∈ hub.clients
  · apply served.leave gone register inside _ send underway
    split at fate
    · exact congrArg Prod.fst fate
    · exact congrArg Prod.fst fate
  · rw [if_neg fun both => inside both.1] at fate
    obtain ⟨phase, closed⟩ := Prod.mk.inj fate
    refine served.of_same ?_ (congrArg Prod.fst closed) ?_ ?_ rfl rfl rfl ?_
    · intro early
      rwa [← phase]
    · exact ⟨fun member => absurd member gone, fun member =>
        absurd member inside⟩
    · intro queued
      rwa [← register]
    · rw [underway]
      unfold Hub.sent
      rw [send]

/-- The loop takes a message and owes it to those that are clients now. -/
theorem Served.takeBroadcast (served : hub.Served general journal client)
    {order : List Client} {message : Message} {rest : List Message}
    (queued : hub.broadcast = message :: rest)
    (unoccupied : hub.underway client = [])
    (clients : next.clients = hub.clients)
    (register : next.register = hub.register)
    (connection : next.connection = hub.connection)
    (underway : next.underway client =
      if client ∈ hub.clients then [message] else []) :
    next.Served general (journal.after hub (.takeBroadcast order)) client := by
  have taken : (journal.after hub (.takeBroadcast order)).taken =
      journal.taken ++ [message] := by
    simp [Journal.after, queued]
  have due : (journal.after hub (.takeBroadcast order)).due client =
      journal.due client ++ if client ∈ hub.clients then [message] else [] := by
    simp only [Journal.after, queued, List.take_succ_cons, List.take_zero]
    split
    · rfl
    · exact (List.append_nil _).symm
  have sent : next.sent general (journal.after hub (.takeBroadcast order))
      client = hub.sent general journal client := by
    unfold Hub.sent
    rw [connection]
    rfl
  have order_ := served.order
  have whole := served.whole
  rw [unoccupied, List.append_nil] at order_ whole
  constructor
  · rw [connection, clients, register, due]
    intro early
    obtain ⟨absent, unqueued, unclosed, none⟩ := served.early early
    rw [none, if_neg absent]
    exact ⟨absent, unqueued, unclosed, rfl⟩
  · rw [connection, clients, register, due]
    intro waits
    obtain ⟨absent, unclosed, none⟩ := served.waiting waits
    rw [none, if_neg absent]
    exact ⟨absent, unclosed, rfl⟩
  · rw [connection, clients]
    exact served.closed
  · rw [clients, due, taken]
    intro inside
    rw [if_pos inside]
    exact (List.suffix_append_self_iff).mpr (served.member inside)
  · rw [due, taken]
    split
    next inside =>
      exact ((List.suffix_append_self_iff).mpr (served.member inside)).isInfix
    next => 
      rw [List.append_nil]
      exact served.stretch.trans (List.prefix_append _ _).isInfix
  · rw [sent, underway, due]
    exact order_.append_right _
  · intro unrefused
    rw [sent, underway, due, whole unrefused]

theorem Served.read (served : hub.Served general journal client)
    {other : Client} {message : Message} {rest : List Message}
    (send : (hub.connection other).send = message :: rest) :
    Served general
      (hub.setConnection other { hub.connection other with send := rest })
      (journal.after hub (.read other)) client := by
  have fate := @fate_setSend _ _ _ hub other rest client
  obtain ⟨phase, closed⟩ := Prod.mk.inj fate
  refine served.of_same (fun early => ?_) (congrArg Prod.fst closed) Iff.rfl id
    rfl rfl rfl ?_
  · rwa [phase] at early
  · have sent : (hub.setConnection other { hub.connection other with
        send := rest }).sent general (journal.after hub (.read other)) client =
        hub.sent general journal client := by
      unfold Hub.sent
      by_cases same : client = other
      · subst same
        simp [Journal.after, setConnection, send]
      · simp [Journal.after, setConnection, Function.update_of_ne same]
    rw [sent]
    rfl

/-- A worker of a topic's broadcast puts no message for everybody anywhere. -/
theorem Served.topicWork (served : hub.Served general journal client)
    (worked : hub.work call index = some (later, next))
    (topic : general call.message = false)
    (topics : List (Broadcast Client Message)) :
    Served general { next with topics := topics } journal client := by
  obtain ⟨clients, register, -, fate, -, loop⟩ := work_same worked
  obtain ⟨phase, closed⟩ := Prod.mk.inj (fate client)
  have sent : Hub.sent general { next with topics := topics } journal client =
      hub.sent general journal client := by
    unfold Hub.sent
    cases turn_of_work worked client with
    | handed _ send _ => simp [send, topic, List.filter_append]
    | idle _ send _ | refused _ send _ | closed _ send _ => simp [send]
  refine served.of_same (fun early => ?_) (congrArg Prod.fst closed)
    (by rw [clients]) (by rw [register]; exact id) rfl rfl rfl ?_
  · rwa [phase] at early
  · rw [sent]
    simp only [Hub.underway, loop]

theorem takeUnregister_same (other : Client) (rest : List Client) :
    (hub.takeUnregister other rest).clients.Sublist hub.clients ∧
      (hub.takeUnregister other rest).register = hub.register ∧
      (hub.takeUnregister other rest).broadcast = hub.broadcast ∧
      (hub.takeUnregister other rest).loop = hub.loop ∧
      (hub.takeUnregister other rest).topics = hub.topics := by
  unfold Hub.takeUnregister
  split
  · unfold closeSend
    dsimp only
    split
    · exact ⟨List.erase_sublist, rfl, rfl, rfl, rfl⟩
    · exact ⟨List.erase_sublist, rfl, rfl, rfl, rfl⟩
  · exact ⟨List.Sublist.refl _, rfl, rfl, rfl, rfl⟩

theorem foldl_closeSend_rest (clients : List Client) :
    (clients.foldl closeSend hub).broadcast = hub.broadcast ∧
      (clients.foldl closeSend hub).topics = hub.topics := by
  induction clients generalizing hub with
  | nil => exact ⟨rfl, rfl⟩
  | cons first rest induction =>
      rw [List.foldl_cons]
      obtain ⟨broadcast, topics⟩ := @induction (hub.closeSend first)
      rw [broadcast, topics]
      unfold closeSend
      dsimp only
      split
      · exact ⟨rfl, rfl⟩
      · exact ⟨rfl, rfl⟩

theorem work_rest (worked : hub.work call index = some (later, next)) :
    next.broadcast = hub.broadcast ∧ next.topics = hub.topics := by
  unfold work at worked
  split at worked
  · split at worked
    · obtain ⟨-, rfl⟩ := Prod.mk.inj (Option.some.inj worked)
      exact ⟨rfl, rfl⟩
    · obtain ⟨-, rfl⟩ := Prod.mk.inj (Option.some.inj worked)
      exact ⟨rfl, rfl⟩
  · dsimp only at worked
    split at worked
    · obtain ⟨-, rfl⟩ := Prod.mk.inj (Option.some.inj worked)
      exact ⟨rfl, rfl⟩
    · split at worked
      · obtain ⟨-, rfl⟩ := Prod.mk.inj (Option.some.inj worked)
        exact ⟨rfl, rfl⟩
      · obtain ⟨-, rfl⟩ := Prod.mk.inj (Option.some.inj worked)
        exact ⟨rfl, rfl⟩
  · simp only [Option.ite_none_right_eq_some, Option.some.injEq,
      Prod.mk.injEq] at worked
    obtain ⟨-, -, rfl⟩ := worked
    exact ⟨rfl, rfl⟩
  · cases worked
  · cases worked

omit [DecidableEq Client] in
theorem message_of_giveUpWork
    (given : hub.giveUpWork call index = some later) :
    later.message = call.message := by
  unfold giveUpWork at given
  split at given
  · simp only [Option.ite_none_right_eq_some, Option.some.injEq] at given
    obtain ⟨-, rfl⟩ := given
    rfl
  · cases given

theorem giveUpWork_same (given : hub.giveUpWork call index = some later)
    (sound : call.Sound) :
    later.message = call.message ∧ later.Sound ∧
      ∀ client, later.owed.count client = call.owed.count client := by
  refine ⟨message_of_giveUpWork given, ?_⟩
  unfold giveUpWork at given
  split at given
  next served found =>
    simp only [Option.ite_none_right_eq_some, Option.some.injEq] at given
    obtain ⟨-, rfl⟩ := given
    exact ⟨sound.setWorker (by simp), fun client =>
      Broadcast.count_owed_setWorker found .ready client⟩
  next => cases given

theorem Delivers.step {workerPoolSize : Nat} (positive : 0 < workerPoolSize)
    {event : Event Client Message} (delivers : hub.Delivers general journal)
    (labelled : Labelled general event)
    (stepped : stepHub workerPoolSize hub event = some next) :
    next.Delivers general (journal.after hub event) := by
  obtain ⟨clients_nodup, register_nodup, published, everybody, topics, callOf,
    served⟩ := delivers
  cases event with
  | connect other =>
      simp only [stepHub, Option.ite_none_right_eq_some,
        Option.some.injEq] at stepped
      obtain ⟨fresh, rfl⟩ := stepped
      exact ⟨clients_nodup, register_nodup, published, everybody, topics,
        callOf, fun client => (served client).setPhase fun _ => .inl fresh⟩
  | registered other =>
      simp only [stepHub, Option.ite_none_right_eq_some,
        Option.some.injEq] at stepped
      obtain ⟨⟨registering, _⟩, rfl⟩ := stepped
      refine ⟨clients_nodup, ?_, published, everybody, topics, callOf,
        fun client => (served client).registered registering⟩
      have absent := ((served other).early (.inr registering)).2.1
      refine List.nodup_append.mpr ⟨register_nodup, List.nodup_singleton _, ?_⟩
      intro left here right there same
      rw [List.mem_singleton.mp there] at same
      exact absent (same ▸ here)
  | registerGivenUp other | disconnect other | unregisterGivenUp other =>
      simp only [stepHub, Option.ite_none_right_eq_some,
        Option.some.injEq] at stepped
      obtain ⟨-, rfl⟩ := stepped
      exact ⟨clients_nodup, register_nodup, published, everybody, topics,
        callOf, fun client => (served client).setPhase (by simp)⟩
  | unregistered other =>
      simp only [stepHub, Option.ite_none_right_eq_some,
        Option.some.injEq] at stepped
      obtain ⟨-, rfl⟩ := stepped
      refine ⟨clients_nodup, register_nodup, published, everybody, topics,
        callOf, fun client => ?_⟩
      have ended : (hub.setPhase other .ended).Served general journal client :=
        (served client).setPhase (by simp)
      exact ended.of_same id rfl Iff.rfl id rfl rfl rfl rfl
  | read other =>
      simp only [stepHub] at stepped
      split at stepped
      · cases stepped
      next send =>
        obtain rfl := Option.some.inj stepped
        exact ⟨clients_nodup, register_nodup, published, everybody, topics,
          callOf, fun client => (served client).read send⟩
  | publish message =>
      simp only [stepHub, Option.ite_none_right_eq_some,
        Option.some.injEq] at stepped
      obtain ⟨-, rfl⟩ := stepped
      refine ⟨clients_nodup, register_nodup, ?_, ?_, topics, callOf,
        fun client => ?_⟩
      · show journal.published ++ [message] =
          journal.taken ++ (hub.broadcast ++ [message])
        rw [published, List.append_assoc]
      · intro other member
        rcases List.mem_append.mp member with old | new
        · exact everybody other old
        · rw [List.mem_singleton.mp new]
          exact labelled
      · exact (served client).of_same id rfl Iff.rfl id rfl rfl rfl rfl
  | topic subscribed message =>
      simp only [stepHub, Option.ite_none_right_eq_some,
        Option.some.injEq] at stepped
      obtain ⟨-, rfl⟩ := stepped
      refine ⟨clients_nodup, register_nodup, published, everybody, ?_, callOf,
        fun client => ?_⟩
      · intro call member
        rcases List.mem_append.mp member with old | new
        · exact topics call old
        · rw [List.mem_singleton.mp new, broadcastParallel]
          split
          · exact labelled
          · exact labelled
      · exact (served client).of_same id rfl Iff.rfl id rfl rfl rfl rfl
  | takeRegister =>
      simp only [stepHub] at stepped
      split at stepped
      next other rest selecting queued =>
        obtain rfl := Option.some.inj stepped
        refine ⟨clients_nodup.insert, ?_, published, everybody, topics, ?_,
          fun client => (served client).takeRegister queued register_nodup⟩
        · rw [queued] at register_nodup
          exact register_nodup.of_cons
        · intro call loop
          exact absurd (selecting.symm.trans loop) (by simp)
      next => cases stepped
  | takeUnregister =>
      simp only [stepHub] at stepped
      split at stepped
      next other rest selecting queued =>
        obtain rfl := Option.some.inj stepped
        have same := @takeUnregister_same _ _ _ hub other rest
        obtain ⟨clients, register, broadcast, loop, topicsSame⟩ := same
        refine ⟨clients_nodup.sublist clients, register ▸ register_nodup, ?_,
          everybody, ?_, ?_, fun client =>
            (served client).takeUnregister clients_nodup⟩
        · rw [broadcast]
          exact published
        · rw [topicsSame]
          exact topics
        · intro call running
          rw [loop] at running
          exact absurd (selecting.symm.trans running) (by simp)
      next => cases stepped
  | takeBroadcast order =>
      simp only [stepHub] at stepped
      split at stepped
      next message rest selecting queued =>
        simp only [Option.ite_none_right_eq_some] at stepped
        obtain ⟨perm, stepped⟩ := stepped
        have first : general message = true := by
          apply everybody
          rw [published, queued]
          simp
        have moved : (journal.after hub (.takeBroadcast order)).published =
            (journal.after hub (.takeBroadcast order)).taken ++ rest := by
          simp [Journal.after, published, queued]
        have unoccupied : ∀ client, hub.underway client = [] := by
          intro client
          simp only [Hub.underway, selecting]
        split at stepped
        next none =>
          obtain rfl := Option.some.inj stepped
          subst none
          have empty := List.nil_perm.mp perm
          refine ⟨clients_nodup, register_nodup, moved, everybody, topics,
            callOf, fun client => (served client).takeBroadcast queued
              (unoccupied client) rfl rfl rfl ?_⟩
          rw [if_neg (by simp [empty])]
          exact unoccupied client
        next some =>
          obtain rfl := Option.some.inj stepped
          refine ⟨clients_nodup, register_nodup, moved, everybody, topics, ?_,
            fun client => (served client).takeBroadcast queued
              (unoccupied client) rfl rfl rfl ?_⟩
          · intro call running
            obtain rfl := Loop.broadcasting.inj running
            refine ⟨?_, Broadcast.sound_broadcastParallel positive some message,
              ?_⟩
            · rw [Broadcast.message_broadcastParallel]
              exact first
            · rw [Broadcast.owed_broadcastParallel]
              exact perm.subset
          · show List.replicate ((broadcastParallel workerPoolSize order
              message).owed.count client) _ = _
            rw [Broadcast.owed_broadcastParallel, perm.count_eq,
              Broadcast.message_broadcastParallel,
              clients_nodup.count]
            split
            · rfl
            · rfl
      next => cases stepped
  | takeDone =>
      simp only [stepHub] at stepped
      split at stepped
      next selecting =>
        simp only [Option.ite_none_right_eq_some, Option.some.injEq] at stepped
        obtain ⟨-, rfl⟩ := stepped
        have same := @foldl_closeSend_rest _ _ _ hub hub.clients
        refine ⟨List.nodup_nil, ?_, ?_, everybody, ?_, ?_, fun client =>
          (served client).finish clients_nodup selecting⟩
        · exact (@foldl_closeSend_same _ _ _ hub hub.clients).1 ▸
            register_nodup
        · exact same.1 ▸ published
        · exact same.2 ▸ topics
        · intro call running
          cases running
      next => cases stepped
  | work index =>
      simp only [stepHub] at stepped
      split at stepped
      next call running =>
        obtain ⟨⟨later, done⟩, worked, rfl⟩ := Option.map_eq_some_iff.mp stepped
        obtain ⟨general_, sound, inside⟩ := callOf call running
        have message := message_of_work worked
        have sound := sound_of_work worked sound
        obtain ⟨clients, register, -, -, -, -⟩ := work_same worked
        obtain ⟨broadcast, topicsSame⟩ := work_rest worked
        have journalled : (journal.after hub (.work index)).published =
            journal.published ∧
              (journal.after hub (.work index)).taken = journal.taken := by
          simp only [Journal.after, running, and_self]
        refine ⟨clients ▸ clients_nodup, register ▸ register_nodup, ?_, ?_, ?_,
          ?_, fun client =>
            (served client).work running worked general_ message inside⟩
        · rw [journalled.1, journalled.2]
          exact broadcast ▸ published
        · rw [journalled.1]
          exact everybody
        · exact topicsSame ▸ topics
        · intro call running
          obtain rfl := Loop.broadcasting.inj running
          refine ⟨message ▸ general_, sound, ?_⟩
          exact clients ▸ List.Subset.trans (owed_subset_of_work worked) inside
      next => cases stepped
  | workGivenUp index =>
      simp only [stepHub] at stepped
      split at stepped
      next call running =>
        obtain ⟨later, given, rfl⟩ := Option.map_eq_some_iff.mp stepped
        obtain ⟨general_, sound, inside⟩ := callOf call running
        obtain ⟨message, sound, count⟩ := giveUpWork_same given sound
        refine ⟨clients_nodup, register_nodup, published, everybody, topics, ?_,
          fun client => ?_⟩
        · intro call running
          obtain rfl := Loop.broadcasting.inj running
          refine ⟨message ▸ general_, sound, fun client member => ?_⟩
          apply inside
          rw [← List.count_pos_iff, ← count client, List.count_pos_iff]
          exact member
        · refine (served client).of_same id rfl Iff.rfl id rfl rfl rfl ?_
          simp only [Hub.sent, Hub.underway, running, message, count client]
          rfl
      next => cases stepped
  | workersDone =>
      simp only [stepHub] at stepped
      split at stepped
      next call running =>
        simp only [Option.ite_none_right_eq_some, Option.some.injEq] at stepped
        obtain ⟨done, rfl⟩ := stepped
        have none := (callOf call running).2.1.owed_eq_nil done
        refine ⟨clients_nodup, register_nodup, published, everybody, topics, ?_,
          fun client => ?_⟩
        · intro call running
          cases running
        · refine (served client).of_same id rfl Iff.rfl id rfl rfl rfl ?_
          simp only [Hub.sent, Hub.underway, running, none, List.count_nil,
            List.replicate_zero]
          rfl
      next => cases stepped
  | topicWork place index =>
      simp only [stepHub, Option.bind_eq_some_iff,
        Option.map_eq_some_iff] at stepped
      obtain ⟨call, found, ⟨later, done⟩, worked, rfl⟩ := stepped
      have topic := topics call (List.mem_of_getElem? found)
      obtain ⟨clients, register, -, -, -, loop⟩ := work_same worked
      obtain ⟨broadcast, topicsSame⟩ := work_rest worked
      refine ⟨clients ▸ clients_nodup, register ▸ register_nodup,
        broadcast ▸ published, everybody, ?_, ?_, fun client =>
          (served client).topicWork worked topic _⟩
      · intro other member
        rcases List.mem_or_eq_of_mem_set member with old | rfl
        · exact topics other (topicsSame ▸ old)
        · rw [message_of_work worked]
          exact topic
      · intro other running
        have kept := callOf other (loop.symm.trans running)
        exact ⟨kept.1, kept.2.1, clients ▸ kept.2.2⟩
  | topicWorkGivenUp place index =>
      simp only [stepHub, Option.bind_eq_some_iff,
        Option.map_eq_some_iff] at stepped
      obtain ⟨call, found, later, given, rfl⟩ := stepped
      refine ⟨clients_nodup, register_nodup, published, everybody, ?_, callOf,
        fun client => (served client).of_same id rfl Iff.rfl id rfl rfl rfl
          rfl⟩
      intro other member
      rcases List.mem_or_eq_of_mem_set member with old | rfl
      · exact topics other old
      · rw [message_of_giveUpWork given]
        exact topics call (List.mem_of_getElem? found)
  | topicDone place =>
      simp only [stepHub, Option.bind_eq_some_iff,
        Option.ite_none_right_eq_some, Option.some.injEq] at stepped
      obtain ⟨call, -, -, rfl⟩ := stepped
      exact ⟨clients_nodup, register_nodup, published, everybody,
        fun other member => topics other (List.mem_of_mem_eraseIdx member),
        callOf, fun client => (served client).of_same id rfl Iff.rfl id rfl rfl
          rfl rfl⟩
  | stop =>
      obtain rfl := Option.some.inj stepped
      exact ⟨clients_nodup, register_nodup, published, everybody, topics,
        callOf, fun client => (served client).of_same id rfl Iff.rfl id rfl rfl
          rfl rfl⟩

theorem delivers_newHub :
    (newHub : Hub Client Message).Delivers general .blank := by
  refine ⟨List.nodup_nil, List.nodup_nil, rfl, ?_, ?_, ?_, fun client => ?_⟩
  · exact List.forall_mem_nil _
  · exact List.forall_mem_nil _
  · intro call running
    cases running
  · refine ⟨fun _ => ⟨List.not_mem_nil, List.not_mem_nil, rfl, rfl⟩, ?_, ?_, ?_,
      List.infix_refl _, List.Sublist.refl _, fun _ => rfl⟩
    · intro waits
      cases waits
    · intro closed
      cases closed
    · intro member
      cases member

theorem delivers_of_run {workerPoolSize : Nat} (positive : 0 < workerPoolSize)
    {events : List (Event Client Message)}
    (labelled : ∀ event ∈ events, Labelled general event)
    {start : Hub Client Message × Journal Client Message}
    (delivers : start.1.Delivers general start.2)
    (reached : (journalMachine workerPoolSize).run start events =
      some (hub, journal)) : hub.Delivers general journal := by
  induction events generalizing start with
  | nil =>
      cases reached
      exact delivers
  | cons event rest induction =>
      obtain ⟨_, stepped, reached⟩ :=
        (Machine.run_cons_eq_some _).mp reached
      obtain ⟨next, moved, rfl⟩ := Option.map_eq_some_iff.mp stepped
      refine induction (fun later member => labelled later
        (List.mem_cons_of_mem _ member)) ?_ reached
      exact delivers.step positive (labelled event List.mem_cons_self) moved

end Hub

/-- What a connection has received of the messages for everybody are messages
in the order they were published, none twice.  As long as the loop never found
its channel full they are a stretch without gaps, and between two broadcasts
all that the loop took while it was a client. -/
theorem delivered_in_order (general : Message → Bool) {workerPoolSize : Nat}
    (positive : 0 < workerPoolSize) {events : List (Event Client Message)}
    (labelled : ∀ event ∈ events, Labelled general event)
    {hub : Hub Client Message} {journal : Journal Client Message}
    (reached : (journalMachine workerPoolSize).run (newHub, .blank) events =
      some (hub, journal)) (client : Client) :
    (hub.sent general journal client).Sublist journal.published ∧
      (journal.refused client = false →
        hub.sent general journal client <:+: journal.published ∧
          (hub.loop = .selecting →
            hub.sent general journal client = journal.due client)) := by
  have delivers := Hub.delivers_of_run positive labelled Hub.delivers_newHub
    reached
  have served := delivers.served client
  have taken : journal.due client <:+: journal.published := by
    rw [delivers.published]
    exact served.stretch.trans (List.prefix_append _ _).isInfix
  refine ⟨?_, fun unrefused => ⟨?_, fun selecting => ?_⟩⟩
  · exact ((List.sublist_append_left _ _).trans served.order).trans
      taken.sublist
  · have whole := served.whole unrefused
    exact (whole ▸ List.prefix_append _ _ :
      hub.sent general journal client <+: journal.due client).isInfix.trans
      taken
  · have whole := served.whole unrefused
    simpa [Hub.underway, selecting] using whole

def twoMessages : List (Event Nat Nat) :=
  [.connect 0, .registered 0, .takeRegister, .publish 7, .publish 8,
    .takeBroadcast [0], .work 0, .work 0, .workersDone, .takeBroadcast [0],
    .work 0, .read 0, .work 0, .workersDone]

theorem delivered_in_order_to_one :
    ∃ hub : Hub Nat Nat, ∃ journal,
      (journalMachine 10).run (newHub, .blank) twoMessages =
        some (hub, journal) ∧
      hub.sent (fun _ => true) journal 0 = [7, 8] ∧
      hub.sent (fun _ => true) journal 0 = journal.due 0 := by
  have labelled : ∀ event ∈ twoMessages, Labelled (fun _ => true) event := by
    simp [twoMessages, Labelled]
  refine ⟨_, _, rfl, rfl, ?_⟩
  exact ((delivered_in_order (fun _ => true) (by decide : 0 < 10) labelled rfl
    0).2 rfl).2 rfl

end VpnUi.WebSocket
