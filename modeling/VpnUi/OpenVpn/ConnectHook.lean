import VpnUi.Address.ClientIp
import VpnUi.Foundation.Transition

namespace VpnUi.OpenVpn

open Address Foundation

/-! The client-connect hooks of one account: short-lived processes that lease
an address of the account's block under a file lock of their transport. -/

/-- A CLIENT_LIST line of a status file. -/
structure StatusRow where
  realAddress : String
  virtualAddress : String
  since : Int
  deriving DecidableEq

/-- A file of a lease directory, named by the leased address. -/
structure LeaseFile where
  name : String
  poolIp : String
  modTime : Nat
  deriving DecidableEq

inductive Strategy
  | accept
  | reject
  deriving DecidableEq

/-- What the panel publishes for an account with both transports enabled. -/
structure Account where
  limit : Nat
  mask : String
  candidates : Transport → List String
  strategy : Transport → Strategy
  positive : 0 < limit
  length_candidates : ∀ transport, (candidates transport).length = limit
  nodup_candidates : ∀ transport, (candidates transport).Nodup

def otherProto : Transport → Transport
  | .udp => .tcp
  | .tcp => .udp

/-- The transport a pool address belongs to. -/
def protoOf (poolIp : String) : Transport :=
  if "10.3.".toList.isPrefixOf poolIp.toList then .tcp else .udp

/-- Milliseconds. -/
def leaseTtl : Nat := 30000

def leaseReclaimGrace : Nat := 10000

def ovpnStatusIPs (rows : List StatusRow) : List String :=
  (rows.map StatusRow.virtualAddress).filter (· ≠ "")

/-- The leases within their TTL, with their ages. -/
def leaseAges (now : Nat) (leases : List LeaseFile) : List (String × Nat) :=
  (leases.filter fun lease => now - lease.modTime ≤ leaseTtl).map fun lease =>
    (lease.name, now - lease.modTime)

def ovpnLeasedIPs (now : Nat) (leases : List LeaseFile) : List String :=
  (leaseAges now leases).map Prod.fst

/-- Writing a file replaces the one of the same name. -/
def ovpnWriteLease (leases : List LeaseFile) (name poolIp : String)
    (now : Nat) : List LeaseFile :=
  ⟨name, poolIp, now⟩ :: leases.filter (·.name ≠ name)

/-- The row with the earliest connection among the wanted addresses. -/
def ovpnOldestFromStatus (rows : List StatusRow) (wanted : List String) :
    Option StatusRow :=
  (rows.filter (·.virtualAddress ∈ wanted)).foldl
    (fun best row =>
      match best with
      | none => if row.since < 2 ^ 62 then some row else none
      | some old => if row.since < old.since then some row else some old) none

/-- The first entry with the greatest age above `floor`. -/
def oldestAbove (floor : Nat) (ages : List (String × Nat)) :
    Option (String × Nat) :=
  ages.foldl
    (fun best entry =>
      match best with
      | none => if floor < entry.2 then some entry else none
      | some old => if old.2 < entry.2 then some entry else some old) none

/-- The abandoned lease that an accepting account reclaims. -/
def ghostLease (candidates : List String) (rows : List StatusRow)
    (ages : List (String × Nat)) : Option String :=
  (oldestAbove leaseReclaimGrace <| candidates.filterMap fun ip =>
    if ip ∈ ovpnStatusIPs rows then none
    else ages.find? (·.1 = ip)).map Prod.fst

/-- The lease of greatest age; among equals the order of a Go map decides,
here that of the directory. -/
def oldestLeasedIP : List (String × Nat) → Option String
  | [] => none
  | first :: rest =>
      some (rest.foldl
        (fun old entry => if old.2 < entry.2 then entry else old) first).1

inductive Verdict
  | lease (ip : String)
  | evict (ip : String) (realAddress : Option String)
  | reject
  deriving DecidableEq

/-- The first candidate that is free, while the account is under its cap. -/
def freeCandidate (candidates : List String) (rows : List StatusRow)
    (ages : List (String × Nat)) (used : Nat) : Option String :=
  if used < candidates.length then
    candidates.find? (· ∉ ovpnStatusIPs rows ++ ages.map Prod.fst)
  else none

/-- The decision at the end of `ovpnLeaseBlockIP`, from what the hook has
read. -/
def ovpnDecide (candidates : List String) (strategy : Strategy)
    (rows : List StatusRow) (ages : List (String × Nat)) (used : Nat) :
    Verdict :=
  match freeCandidate candidates rows ages used with
  | some ip => .lease ip
  | none =>
      if strategy = .accept then
        match ghostLease candidates rows ages with
        | some ip => .lease ip
        | none =>
            match ovpnOldestFromStatus rows candidates with
            | some row => .evict row.virtualAddress (some row.realAddress)
            | none =>
                match oldestLeasedIP ages with
                | some ip => .evict ip none
                | none => .reject
      else .reject

/-- How far the hook that holds the lock has come, and what it has read. -/
inductive Stage
  | locked
  | statusRead (rows : List StatusRow)
  | leasesListed (rows : List StatusRow) (ages : List (String × Nat))
  | otherStatusRead (rows : List StatusRow) (ages : List (String × Nat))
      (others : List StatusRow)
  | counted (rows : List StatusRow) (ages : List (String × Nat)) (used : Nat)

structure Hook where
  poolIp : String
  stage : Stage

/-- One server's files, the hook that holds each lock, and the addresses of
the account's connected devices. -/
structure Server where
  now : Nat
  status : Transport → List StatusRow
  leases : Transport → List LeaseFile
  holder : Transport → Option Hook
  connected : Transport → List String

def emptyServer : Server where
  now := 0
  status := fun _ => []
  leases := fun _ => []
  holder := fun _ => none
  connected := fun _ => []

def occupied (candidates inUse : List String) : Nat :=
  (candidates.filter (· ∈ inUse)).length

/-- The next file-system step of a hook; after the last one it releases the
lock, and the device is admitted if it has an address. -/
def advanceHook (account : Account) (server : Server) (transport : Transport)
    (hook : Hook) : Server :=
  let other := otherProto transport
  let setHolder (next : Option Stage) : Server :=
    { server with
      holder := Function.update server.holder transport
        (next.map fun stage => { hook with stage := stage }) }
  match hook.stage with
  | .locked => setHolder (some (.statusRead (server.status transport)))
  | .statusRead rows =>
      let fresh := (server.leases transport).filter fun lease =>
        server.now - lease.modTime ≤ leaseTtl
      { setHolder (some (.leasesListed rows
          (leaseAges server.now (server.leases transport)))) with
        leases := Function.update server.leases transport fresh }
  | .leasesListed rows ages =>
      setHolder (some (.otherStatusRead rows ages (server.status other)))
  | .otherStatusRead rows ages others =>
      let own := occupied (account.candidates transport)
        (ovpnStatusIPs rows ++ ages.map Prod.fst)
      let shared := occupied (account.candidates other)
        (ovpnStatusIPs others ++ ovpnLeasedIPs server.now (server.leases other))
      setHolder (some (.counted rows ages (own + shared)))
  | .counted rows ages used =>
      let grant (ip : String) : Server :=
        { setHolder none with
          leases := Function.update server.leases transport
            (ovpnWriteLease (server.leases transport) ip hook.poolIp server.now)
          connected := Function.update server.connected transport
            (ip :: server.connected transport) }
      match ovpnDecide (account.candidates transport)
          (account.strategy transport) rows ages used with
      | .lease ip => grant ip
      | .evict ip _ => grant ip
      | .reject => setHolder none

/-- The device holding an address is in the status file of its transport. -/
def Server.Listed (server : Server) (transport : Transport) (ip : String) :
    Prop := ip ∈ ovpnStatusIPs (server.status transport)

instance (server : Server) (transport : Transport) (ip : String) :
    Decidable (server.Listed transport ip) :=
  inferInstanceAs (Decidable (ip ∈ _))

/-- Besides the hooks' own steps: time passes, but a device is listed before
its lease expires; OpenVPN rewrites a status file, and keeps the connected
devices it lists; a device leaves; a disconnect hook removes a lease. -/
inductive HookEvent
  | connect (poolIp : String)
  | advance (transport : Transport)
  | tick (elapsed : Nat)
  | rewriteStatus (transport : Transport) (rows : List StatusRow)
  | disconnect (transport : Transport) (ip : String)
  | removeLease (transport : Transport) (name : String)

instance decidableForallTransport (property : Transport → Prop)
    [DecidablePred property] : Decidable (∀ transport, property transport) :=
  decidable_of_iff (property .udp ∧ property .tcp)
    ⟨fun both transport => by
      cases transport with
      | udp => exact both.1
      | tcp => exact both.2,
      fun every => ⟨every .udp, every .tcp⟩⟩

def stepHook (account : Account) (server : Server) :
    HookEvent → Option Server
  | .connect poolIp =>
      let transport := protoOf poolIp
      match server.holder transport with
      | some _ => none
      | none =>
          some { server with
            holder := Function.update server.holder transport
              (some ⟨poolIp, .locked⟩) }
  | .advance transport =>
      (server.holder transport).map fun hook =>
        advanceHook account server transport hook
  | .tick elapsed =>
      if ∀ transport, ∀ ip ∈ server.connected transport,
          server.Listed transport ip ∨
            ip ∈ ovpnLeasedIPs (server.now + elapsed) (server.leases transport)
      then some { server with now := server.now + elapsed }
      else none
  | .rewriteStatus transport rows =>
      if ∀ ip ∈ server.connected transport, server.Listed transport ip →
          ip ∈ ovpnStatusIPs rows
      then some { server with
        status := Function.update server.status transport rows }
      else none
  | .disconnect transport ip =>
      some { server with
        connected := Function.update server.connected transport
          ((server.connected transport).erase ip) }
  | .removeLease transport name =>
      if name ∈ server.connected transport ∧ ¬ server.Listed transport name
      then none
      else some { server with
        leases := Function.update server.leases transport
          ((server.leases transport).filter (·.name ≠ name)) }

def hookMachine (account : Account) : Machine Server HookEvent :=
  ⟨stepHook account⟩

end VpnUi.OpenVpn
