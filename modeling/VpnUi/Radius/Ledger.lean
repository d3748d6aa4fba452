import VpnUi.Foundation.Transition
import VpnUi.Nft.Collection
import VpnUi.Radius.Accounting

namespace VpnUi.Radius

open Foundation Panel Address Nft

/-! Who pays for the bytes the nft counters count.  Every handler is a list of
atomic sub-steps, and the sub-steps of different handlers interleave. -/

inductive SubStep
  /-- `delete(s.sessions, sid)` by a handler that has the mutex. -/
  | forget (sid : String)
  /-- The next round of the stale sweep, which takes the mutex again. -/
  | forgetStale (sid : String)
  | readCounters (email : String) (protocol : VpnProtocol) (ip : Ipv4)
  /-- `UPDATE client_traffics SET up = up + ?, down = down + ?`. -/
  | credit (email : String) (tally : Tally)
  | removeCounters (protocol : VpnProtocol) (ip : Ipv4)
  | addCounters (protocol : VpnProtocol) (ip : Ipv4)
  /-- The rest of `allocateBlockIP`, which gives the mutex back. -/
  | settle (service : RadiusService)
  | collect (report : List String) (snapshot : Snapshot)
  | creditAll (batch : List (String × Tally))

/-- The sub-steps of an effect; the read of a fold leaves a credit behind. -/
def Effect.subSteps : Effect → List SubStep
  | .fold email protocol ip => [.readCounters email protocol ip]
  | .addAccounting protocol ip => [.addCounters protocol ip]
  | .removeAccounting protocol ip => [.removeCounters protocol ip]
  | .disconnect _ _ _ => []

namespace RadiusService

def reclaimSteps : Effect → List SubStep
  | .removeAccounting protocol ip =>
      [.forget (ocSessionKey ip), .removeCounters protocol ip]
  | effect => effect.subSteps

def evictSteps (service : RadiusService) (dial : Dial) (host : DialHost) :
    List SubStep :=
  match service.freeSlot? dial.blockIPs,
      service.ghostLease? host.now dial.blockIPs, dial.strategy,
      oldestBlockSession (host.iterate service.sessions) dial.blockIPs with
  | none, none, .accept, (victimSID, some victimIP) =>
      .forget victimSID ::
        (service.evictEffects dial victimSID victimIP).flatMap
          Effect.subSteps
  | _, _, _, _ => []

/-- `allocateBlockIP`, which has the mutex from its first to its last
sub-step, and the counters `handleAuth` adds after it. -/
def authSteps (service : RadiusService) (dial : Dial) (host : DialHost) :
    List SubStep :=
  let out := service.allocateBlockIP dial host
  let begun := match service.redialIP? dial with
    | some _ => []
    | none =>
        let ready := service.prepared dial host
        ready.2.flatMap reclaimSteps ++ ready.1.evictSteps dial host
  begun ++ .settle out.service ::
    match dial.protocol, out.ip with
    | .openconnect, some ip => [.addCounters .openconnect ip]
    | _, _ => []

end RadiusService

/-- The server, the counters and the client rows.  `credited` lists what the
rows were charged, `dropped` what was zeroed or deleted uncharged, `counted`
everything ever counted and `collectedUpTo` what had been counted when the last
collection emptied the counters. -/
structure Ledger where
  radius : RadiusService
  table : AcctTable Tally
  locked : Bool
  threads : List (List SubStep)
  credited : List (String × Tally)
  dropped : Tally
  counted : Tally
  collectedUpTo : Tally

inductive LedgerEvent
  /-- Traffic of a session whose address the table counts. -/
  | count (sid : String) (direction : Direction) (bytes : Nat)
  /-- Traffic of an address that no session has. -/
  | stray (name : CounterName) (bytes : Nat)
  | acct (packet : AcctPacket) (email : String) (now : Nat)
  | auth (dial : Dial) (host : DialHost)
  | sweep (active : String → RadiusSession → Bool)
  /-- A collection starts; `report` has the e-mails Xray itself reported. -/
  | collection (report : List String) (order : List (String × RadiusSession))
  /-- A handler that has begun makes its next sub-step. -/
  | advance (thread : Nat)

namespace Ledger

def initial : Ledger :=
  ⟨RadiusService.empty, AcctTable.empty, false, [], [], 0, 0, 0⟩

def countOn (net : Ledger) (name : CounterName) (tally : Tally) :
    Option Ledger :=
  if name ∈ net.table.rules then
    (net.table.counters.lookup name).map fun before => { net with
      table := { net.table with
        counters := net.table.counters.insert name (tally + before) }
      counted := tally + net.counted }
  else none

def spawn (net : Ledger) (thread : List SubStep) : Ledger :=
  { net with threads := thread :: net.threads }

/-- The sweep picks its sessions in one go and ends the first of them before
it gives the mutex back. -/
def startSweep (net : Ledger) (stale : List (String × RadiusSession)) :
    Ledger :=
  match stale with
  | [] => net
  | (sid, session) :: rest =>
      { net with radius := { net.radius with
          sessions := net.radius.sessions.erase sid } }.spawn
        (.removeCounters session.protocol session.ip ::
          (rest.map Prod.fst).map .forgetStale)

/-- One sub-step, and what it makes its handler do next.  The sweep
dereferences a nil session if another handler has ended it meanwhile. -/
def perform (net : Ledger) : SubStep → Option (Ledger × List SubStep)
  | .forget sid => some ({ net with radius := { net.radius with
      sessions := net.radius.sessions.erase sid } }, [])
  | .forgetStale sid =>
      if net.locked then none
      else (net.radius.sessions.lookup sid).map fun session =>
        ({ net with radius := { net.radius with
            sessions := net.radius.sessions.erase sid } },
          [.removeCounters session.protocol session.ip])
  | .readCounters email protocol ip =>
      let out := net.table.readAndResetClientCounters protocol ip
      some ({ net with table := out.1 }, [.credit email (out.2.1 + out.2.2)])
  | .credit email tally =>
      if email = "" then
        some ({ net with dropped := tally + net.dropped }, [])
      else some ({ net with credited := (email, tally) :: net.credited }, [])
  | .removeCounters protocol ip =>
      some ({ net with
        table := net.table.removeClientAccounting protocol ip
        dropped := ((net.table.counters.lookup
            ⟨protocol, .up, ip⟩).getD 0 +
          (net.table.counters.lookup ⟨protocol, .down, ip⟩).getD 0) +
          net.dropped }, [])
  | .addCounters protocol ip =>
      some ({ net with
        table := net.table.addClientAccounting protocol ip }, [])
  | .settle service => some ({ net with radius := service, locked := false }, [])
  | .collect report snapshot =>
      some ({ net with
          table := { net.table with counters := net.table.counters.fill 0 }
          dropped := discarded snapshot net.table.listing + net.dropped
          collectedUpTo := net.counted },
        [.creditAll (report.map (fun email => (email, 0)) ++
          collected snapshot net.table.listing)])
  | .creditAll batch =>
      let out := addClientTraffic [] batch
      some ({ net with
        credited := out.1 ++ net.credited
        dropped := out.2 + net.dropped }, [])

def advance (net : Ledger) (thread : Nat) : Option Ledger :=
  match net.threads[thread]? with
  | some (sub :: rest) =>
      (net.perform sub).map fun done => { done.1 with
        threads := (done.2 ++ rest) :: net.threads.eraseIdx thread }
  | _ => none

def step (net : Ledger) : LedgerEvent → Option Ledger
  | .count sid direction bytes =>
      (net.radius.sessions.lookup sid).bind fun session =>
        net.countOn ⟨session.protocol, direction, session.ip⟩
          (.single sid session.email bytes)
  | .stray name bytes =>
      if net.radius.sessions.entries.any fun entry =>
          entry.2.protocol == name.protocol && entry.2.ip == name.ip
      then none
      else net.countOn name ⟨[], bytes⟩
  | .acct packet email now =>
      if net.locked then none
      else
        let out := net.radius.handleAcct packet email now
        some ({ net with radius := out.1 }.spawn
          (out.2.flatMap Effect.subSteps))
  | .auth dial host =>
      if net.locked then none
      else some ({ net with locked := true }.spawn
        (net.radius.authSteps dial host))
  | .sweep active =>
      if net.locked then none
      else some (net.startSweep ((sessionList net.radius.sessions).filter
        fun entry => !active entry.1 entry.2))
  | .collection report order =>
      if net.locked ∨ ¬ order.Perm (sessionList net.radius.sessions) then none
      else some (net.spawn [.collect report (getSessions order)])
  | .advance thread => net.advance thread

def machine : Machine Ledger LedgerEvent where
  step := step

end Ledger

end VpnUi.Radius
