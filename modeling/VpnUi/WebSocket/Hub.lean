import Mathlib.Data.List.Perm.Basic
import Mathlib.Logic.Function.Basic
import VpnUi.Foundation.Transition

namespace VpnUi.WebSocket

open Foundation

/-! The hub of the live connections: its loop, the workers of a broadcast, the
connections that register and unregister, and the bounded channels between
them. -/

def registerCapacity : Nat := 100

def unregisterCapacity : Nat := 100

def broadcastCapacity : Nat := 2048

def sendCapacity : Nat := 512

/-- Where the goroutines of a connection stand. -/
inductive Phase
  | fresh
  | registering
  | opened
  | unregistering
  | ended
  deriving DecidableEq

/-- A client: its connection, its Send channel, whether `closeOnce` has run,
and how often the channel was closed. -/
structure Connection (Message : Type) where
  phase : Phase
  send : List Message
  closeOnce : Bool
  closes : Nat
  deriving DecidableEq

/-- A goroutine of a broadcast.  A small one has one for each client, a large
one a pool that takes clients from a channel. -/
inductive Worker (Client : Type)
  | ready
  | sending (client : Client)
  | removing (client : Client)
  | finished
  deriving DecidableEq

def Worker.isRemoving {Client : Type} : Worker Client → Bool
  | .removing _ => true
  | _ => false

/-- A call of `broadcastParallel` that waits for its workers. -/
structure Broadcast (Client Message : Type) where
  message : Message
  pending : List Client
  workers : List (Worker Client)
  deriving DecidableEq

inductive Loop (Client Message : Type)
  | selecting
  | broadcasting (call : Broadcast Client Message)
  | stopped
  deriving DecidableEq

@[ext] structure Hub (Client Message : Type) where
  clients : List Client
  register : List Client
  unregister : List Client
  broadcast : List Message
  loop : Loop Client Message
  topics : List (Broadcast Client Message)
  connection : Client → Connection Message
  cancelled : Bool

variable {Client Message : Type}

def newHub : Hub Client Message where
  clients := []
  register := []
  unregister := []
  broadcast := []
  loop := .selecting
  topics := []
  connection := fun _ => ⟨.fresh, [], false, 0⟩
  cancelled := false

def broadcastParallel (workerPoolSize : Nat) (clients : List Client)
    (message : Message) : Broadcast Client Message :=
  if clients.length < workerPoolSize then
    ⟨message, [], clients.map .sending⟩
  else ⟨message, clients, List.replicate workerPoolSize .ready⟩

def Broadcast.done (call : Broadcast Client Message) : Bool :=
  call.workers.all fun worker =>
    match worker with
    | .finished => true
    | _ => false

def Broadcast.setWorker (call : Broadcast Client Message) (index : Nat)
    (worker : Worker Client) : Broadcast Client Message :=
  { call with workers := call.workers.set index worker }

variable [DecidableEq Client]

namespace Hub

def setConnection (hub : Hub Client Message) (client : Client)
    (connection : Connection Message) : Hub Client Message :=
  { hub with connection := Function.update hub.connection client connection }

def setPhase (hub : Hub Client Message) (client : Client) (phase : Phase) :
    Hub Client Message :=
  hub.setConnection client { hub.connection client with phase := phase }

/-- `closeOnce.Do(close(Send))`. -/
def closeSend (hub : Hub Client Message) (client : Client) :
    Hub Client Message :=
  let connection := hub.connection client
  if connection.closeOnce then hub
  else
    hub.setConnection client
      { connection with closeOnce := true, closes := connection.closes + 1 }

/-- One step of a worker: the call and the hub after it, or nothing while the
worker waits. -/
def work (hub : Hub Client Message) (call : Broadcast Client Message)
    (index : Nat) : Option (Broadcast Client Message × Hub Client Message) :=
  match call.workers[index]? with
  | some .ready =>
      match call.pending with
      | [] => some (call.setWorker index .finished, hub)
      | client :: rest =>
          some ({ call with pending := rest }.setWorker index (.sending client),
            hub)
  | some (.sending client) =>
      let connection := hub.connection client
      -- a send on the closed channel panics, and the panic is recovered
      if connection.closeOnce then some (call.setWorker index .ready, hub)
      else if connection.send.length < sendCapacity then
        some (call.setWorker index .ready, hub.setConnection client
          { connection with send := connection.send ++ [call.message] })
      else some (call.setWorker index (.removing client), hub)
  | some (.removing client) =>
      if hub.unregister.length < unregisterCapacity then
        some (call.setWorker index .ready,
          { hub with unregister := hub.unregister ++ [client] })
      else none
  | some .finished => none
  | none => none

/-- A waiting worker leaves `Unregister` because the hub shuts down. -/
def giveUpWork (hub : Hub Client Message) (call : Broadcast Client Message)
    (index : Nat) : Option (Broadcast Client Message) :=
  match call.workers[index]? with
  | some (.removing _) =>
      if hub.cancelled then some (call.setWorker index .ready) else none
  | _ => none

def takeRegister (hub : Hub Client Message) (client : Client)
    (rest : List Client) : Hub Client Message :=
  { hub with register := rest, clients := hub.clients.insert client }

def takeUnregister (hub : Hub Client Message) (client : Client)
    (rest : List Client) : Hub Client Message :=
  if client ∈ hub.clients then
    { hub with
      unregister := rest
      clients := hub.clients.erase client }.closeSend client
  else { hub with unregister := rest }

/-- The shutdown branch of the loop. -/
def finish (hub : Hub Client Message) : Hub Client Message :=
  { hub.clients.foldl closeSend hub with clients := [], loop := .stopped }

end Hub

/-- `connect` to `read` are steps of connections, `publish` and `topic` calls
of the broadcasting functions, the others steps of the loop, of the workers and
of the shutdown. -/
inductive Event (Client Message : Type)
  | connect (client : Client)
  | registered (client : Client)
  | registerGivenUp (client : Client)
  | disconnect (client : Client)
  | unregistered (client : Client)
  | unregisterGivenUp (client : Client)
  | read (client : Client)
  | publish (message : Message)
  | topic (subscribed : List Client) (message : Message)
  | takeRegister
  | takeUnregister
  | takeBroadcast (order : List Client)
  | takeDone
  | work (index : Nat)
  | workGivenUp (index : Nat)
  | workersDone
  | topicWork (call index : Nat)
  | topicWorkGivenUp (call index : Nat)
  | topicDone (call : Nat)
  | stop

/-- A map is copied in no particular order, so the order of the copy is part of
the event. -/
def stepHub (workerPoolSize : Nat) (hub : Hub Client Message) :
    Event Client Message → Option (Hub Client Message)
  | .connect client =>
      if (hub.connection client).phase = .fresh then
        some (hub.setPhase client .registering)
      else none
  | .registered client =>
      if (hub.connection client).phase = .registering ∧
          hub.register.length < registerCapacity then
        some { hub.setPhase client .opened with
          register := hub.register ++ [client] }
      else none
  | .registerGivenUp client =>
      if (hub.connection client).phase = .registering ∧ hub.cancelled then
        some (hub.setPhase client .opened)
      else none
  | .disconnect client =>
      if (hub.connection client).phase = .opened then
        some (hub.setPhase client .unregistering)
      else none
  | .unregistered client =>
      if (hub.connection client).phase = .unregistering ∧
          hub.unregister.length < unregisterCapacity then
        some { hub.setPhase client .ended with
          unregister := hub.unregister ++ [client] }
      else none
  | .unregisterGivenUp client =>
      if (hub.connection client).phase = .unregistering ∧ hub.cancelled then
        some (hub.setPhase client .ended)
      else none
  | .read client =>
      match (hub.connection client).send with
      | [] => none
      | _ :: rest =>
          some (hub.setConnection client
            { hub.connection client with send := rest })
  | .publish message =>
      if hub.clients ≠ [] ∧ hub.broadcast.length < broadcastCapacity then
        some { hub with broadcast := hub.broadcast ++ [message] }
      else none
  | .topic subscribed message =>
      if subscribed ≠ [] ∧ subscribed.Nodup ∧ subscribed ⊆ hub.clients then
        some { hub with
          topics := hub.topics ++
            [broadcastParallel workerPoolSize subscribed message] }
      else none
  | .takeRegister =>
      match hub.loop, hub.register with
      | .selecting, client :: rest => some (hub.takeRegister client rest)
      | _, _ => none
  | .takeUnregister =>
      match hub.loop, hub.unregister with
      | .selecting, client :: rest => some (hub.takeUnregister client rest)
      | _, _ => none
  | .takeBroadcast order =>
      match hub.loop, hub.broadcast with
      | .selecting, message :: rest =>
          if order.Perm hub.clients then
            if order = [] then some { hub with broadcast := rest }
            else
              some { hub with
                broadcast := rest
                loop := .broadcasting
                  (broadcastParallel workerPoolSize order message) }
          else none
      | _, _ => none
  | .takeDone =>
      match hub.loop with
      | .selecting => if hub.cancelled then some hub.finish else none
      | _ => none
  | .work index =>
      match hub.loop with
      | .broadcasting call =>
          (hub.work call index).map fun (call, hub) =>
            { hub with loop := .broadcasting call }
      | _ => none
  | .workGivenUp index =>
      match hub.loop with
      | .broadcasting call =>
          (hub.giveUpWork call index).map fun call =>
            { hub with loop := .broadcasting call }
      | _ => none
  | .workersDone =>
      match hub.loop with
      | .broadcasting call =>
          if call.done then some { hub with loop := .selecting } else none
      | _ => none
  | .topicWork place index =>
      (hub.topics[place]?).bind fun call =>
        (hub.work call index).map fun (call, hub) =>
          { hub with topics := hub.topics.set place call }
  | .topicWorkGivenUp place index =>
      (hub.topics[place]?).bind fun call =>
        (hub.giveUpWork call index).map fun call =>
          { hub with topics := hub.topics.set place call }
  | .topicDone place =>
      (hub.topics[place]?).bind fun call =>
        if call.done then
          some { hub with topics := hub.topics.eraseIdx place }
        else none
  | .stop => some { hub with cancelled := true }

def hubMachine (workerPoolSize : Nat) :
    Machine (Hub Client Message) (Event Client Message) :=
  ⟨stepHub workerPoolSize⟩

end VpnUi.WebSocket
