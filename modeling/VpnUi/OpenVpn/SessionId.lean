import Mathlib.Data.List.Sort
import VpnUi.OpenVpn.BlockFiles
import VpnUi.Radius.Accounting

namespace VpnUi.OpenVpn

open Address Foundation Panel Radius

/-! The session ids of the connect and disconnect hooks of one inbound: the
first is made of the leased address, the second of what the lease directory
still tells of it. -/

/-- An address as OpenVPN passes it to the hooks. -/
structure PoolIp where
  text : String
  nonempty : text ≠ ""
  trimmed : trimSpace text.toList = text.toList

theorem PoolIp.ext_text {poolIp other : PoolIp}
    (same : poolIp.text = other.text) : poolIp = other := by
  cases poolIp
  cases other
  cases same
  rfl

instance : DecidableEq PoolIp := fun _ _ =>
  decidable_of_iff _ ⟨PoolIp.ext_text, congrArg PoolIp.text⟩

def PoolIp.transport (poolIp : PoolIp) : Transport := protoOf poolIp.text

/-- A connected device.  `ip` is the address of its Acct-Start, which has been
leased from a block or is the pool address. -/
structure Session where
  username : String
  poolIp : PoolIp
  ip : String
  leased : Bool
  deriving DecidableEq

def Session.transport (session : Session) : Transport :=
  session.poolIp.transport

/-- `ended` holds the sessions whose disconnect hook has run, with the address
of the Acct-Stop. -/
structure Hooks where
  now : Nat
  leases : Transport → List LeaseFile
  sessions : List Session
  ended : List (Session × String)

def noHooks : Hooks := ⟨0, fun _ => [], [], []⟩

/-- The files that the hook leaves when it lists the leases. -/
def freshLeases (now : Nat) (leases : List LeaseFile) : List LeaseFile :=
  leases.filter fun lease => now - lease.modTime ≤ leaseTtl

/-- The first file in the order of the directory. -/
def leaseByPool (leases : List LeaseFile) (poolIp : PoolIp) :
    Option LeaseFile :=
  (leases.insertionSort (fun left right => left.name ≤ right.name)).find?
    fun lease => trimSpace lease.poolIp.toList = poolIp.text.toList

/-- The address it returns, if any, and what is left of the directory. -/
def ovpnRemoveLeaseByPool (leases : List LeaseFile) (poolIp : PoolIp) :
    Option String × List LeaseFile :=
  match leaseByPool leases poolIp with
  | some found =>
      (some found.name, leases.filter (·.name ≠ found.name))
  | none => (none, leases)

namespace Hooks

def setLeases (hooks : Hooks) (transport : Transport)
    (leases : List LeaseFile) : Hooks :=
  { hooks with leases := Function.update hooks.leases transport leases }

/-- What the connect hook reads beside the status files. -/
def reads (hooks : Hooks) (transport : Transport)
    (rows otherRows : List StatusRow) : HookReads where
  rows := rows
  ages := leaseAges hooks.now (hooks.leases transport)
  otherRows := otherRows
  otherLeases := ovpnLeasedIPs hooks.now (hooks.leases (otherProto transport))

/-- `openvpnConnect` up to the Acct-Start, with what the panel has published
for the inbound. -/
def openvpnConnect (hooks : Hooks) (published : Inbound) (username : String)
    (poolIp : PoolIp) (rows otherRows : List StatusRow) : Hooks :=
  let transport := poolIp.transport
  match ovpnLeaseBlockIP published username poolIp.text
      (hooks.reads transport rows otherRows) with
  | none =>
      { hooks with
        sessions := ⟨username, poolIp, poolIp.text, false⟩ :: hooks.sessions }
  | some (verdict, _) =>
      let fresh := freshLeases hooks.now (hooks.leases transport)
      match verdict.address with
      | none => hooks.setLeases transport fresh
      | some ip =>
          { hooks.setLeases transport
              (ovpnWriteLease fresh ip poolIp.text hooks.now) with
            sessions := ⟨username, poolIp, ip, true⟩ :: hooks.sessions }

/-- `openvpnDisconnect` up to the Acct-Stop. -/
def openvpnDisconnect (hooks : Hooks) (index : Nat) (session : Session) :
    Hooks :=
  let (leased, leases) := ovpnRemoveLeaseByPool
    (hooks.leases session.transport) session.poolIp
  { hooks.setLeases session.transport leases with
    sessions := hooks.sessions.eraseIdx index
    ended := (session, leased.getD session.poolIp.text) :: hooks.ended }

end Hooks

/-- Besides the hooks: time passes; a session ends without a hook; the panel
writes the files of a transport anew, and removes its leases. -/
inductive SessionEvent
  | openvpnConnect (published : Inbound) (username : String) (poolIp : PoolIp)
      (rows otherRows : List StatusRow)
  | openvpnDisconnect (index : Nat)
  | tick (elapsed : Nat)
  | vanish (index : Nat)
  | writeClientConfigDir (transport : Transport)

def stepSession (hooks : Hooks) : SessionEvent → Option Hooks
  | .openvpnConnect published username poolIp rows otherRows =>
      -- without a name a hook has nothing to do
      if username = "" then none
      else some
        (hooks.openvpnConnect published username poolIp rows otherRows)
  | .openvpnDisconnect index =>
      hooks.sessions[index]?.map (hooks.openvpnDisconnect index)
  | .tick elapsed => some { hooks with now := hooks.now + elapsed }
  | .vanish index =>
      some { hooks with sessions := hooks.sessions.eraseIdx index }
  | .writeClientConfigDir transport => some (hooks.setLeases transport [])

def sessionMachine : Machine Hooks SessionEvent := ⟨stepSession⟩

def sessionID (inboundId : Int) (username ip : String) : String :=
  "openvpn-" ++ toString inboundId ++ "-" ++ username ++ "-" ++ ip

/-- The Acct-Stop of a disconnect hook. -/
def stopPacket (inboundId : Int) (username ip : String) : AcctPacket where
  status := .stop
  sessionID := sessionID inboundId username ip
  protocol := .openvpn
  framedIP := parseIP4? ip.toList

/-- The Acct-Stop names the session of the Acct-Start, and ends it alone. -/
def EndsOwn (inboundId : Int) (session : Session) (ip : String) : Prop :=
  sessionID inboundId session.username ip =
      sessionID inboundId session.username session.ip ∧
    ∀ (service : RadiusService) (email : String) (now : Nat)
      (entry : RadiusSession),
      service.sessions.lookup
          (sessionID inboundId session.username session.ip) = some entry →
        service.handleAcct (stopPacket inboundId session.username ip) email
            now =
          ({ service with
              sessions := service.sessions.erase
                (sessionID inboundId session.username session.ip) },
            [.fold entry.email entry.protocol entry.ip,
              .removeAccounting entry.protocol entry.ip])

def AllEndOwn (inboundId : Int) (hooks : Hooks) : Prop :=
  ∀ closed ∈ hooks.ended, EndsOwn inboundId closed.1 closed.2

@[simp] theorem Hooks.setLeases_leases (hooks : Hooks)
    (transport other : Transport) (leases : List LeaseFile) :
    (hooks.setLeases transport leases).leases other =
      if other = transport then leases else hooks.leases other := by
  by_cases same : other = transport
  · subst same
    simp [setLeases]
  · simp [setLeases, same]

section Leases

variable {leases : List LeaseFile} {poolIp : PoolIp} {lease found : LeaseFile}
  {now : Nat}

theorem mem_freshLeases :
    lease ∈ freshLeases now leases ↔
      lease ∈ leases ∧ now - lease.modTime ≤ leaseTtl := by
  simp [freshLeases]

theorem name_mem_leaseAges (member : lease ∈ freshLeases now leases) :
    lease.name ∈ (leaseAges now leases).map Prod.fst := by
  rw [leaseAges, List.map_map]
  exact List.mem_map.mpr ⟨lease, member, rfl⟩

theorem mem_ovpnWriteLease {name poolText : String} :
    lease ∈ ovpnWriteLease leases name poolText now ↔
      lease = ⟨name, poolText, now⟩ ∨ lease ∈ leases ∧ lease.name ≠ name := by
  simp [ovpnWriteLease]

/-- What is found is a lease of the pool address. -/
theorem leaseByPool_eq_some
    (trimmed : ∀ lease ∈ leases,
      trimSpace lease.poolIp.toList = lease.poolIp.toList)
    (seen : leaseByPool leases poolIp = some found) :
    found ∈ leases ∧ found.poolIp = poolIp.text := by
  have member : found ∈ leases :=
    (List.mem_insertionSort _).mp (List.mem_of_find?_eq_some seen)
  refine ⟨member, String.toList_injective ?_⟩
  rw [← trimmed found member]
  simpa using List.find?_some seen

theorem leaseByPool_eq_none
    (trimmed : ∀ lease ∈ leases,
      trimSpace lease.poolIp.toList = lease.poolIp.toList)
    (unseen : leaseByPool leases poolIp = none) (member : lease ∈ leases) :
    lease.poolIp ≠ poolIp.text := by
  intro same
  have other := List.find?_eq_none.mp unseen lease
    ((List.mem_insertionSort _).mpr member)
  rw [trimmed lease member, same] at other
  exact other (decide_eq_true rfl)

theorem mem_of_mem_ovpnRemoveLeaseByPool
    (member : lease ∈ (ovpnRemoveLeaseByPool leases poolIp).2) :
    lease ∈ leases := by
  unfold ovpnRemoveLeaseByPool at member
  split at member
  · exact List.mem_of_mem_filter member
  · exact member

/-- The leases of other pool addresses stay. -/
theorem mem_ovpnRemoveLeaseByPool
    (keyed : ∀ lease ∈ leases, ∀ other ∈ leases,
      lease.name = other.name → lease = other)
    (trimmed : ∀ lease ∈ leases,
      trimSpace lease.poolIp.toList = lease.poolIp.toList)
    (member : lease ∈ leases) (other : lease.poolIp ≠ poolIp.text) :
    lease ∈ (ovpnRemoveLeaseByPool leases poolIp).2 := by
  unfold ovpnRemoveLeaseByPool
  split
  next found seen =>
    obtain ⟨foundMember, same⟩ := leaseByPool_eq_some trimmed seen
    refine List.mem_filter.mpr ⟨member, decide_eq_true ?_⟩
    intro sameName
    obtain rfl := keyed lease member found foundMember sameName
    exact other same
  next => exact member

end Leases

end VpnUi.OpenVpn
