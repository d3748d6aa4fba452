import VpnUi.Foundation.Transition
import VpnUi.Radius.AllocateSpec
import VpnUi.Radius.Accounting

namespace VpnUi.Radius

open Foundation Panel Address

/-! The device cap of L2TP and PPTP accounts over whole runs: dials with
strategy "reject", accounting packets, wipes of the allocator caches and
time. -/

structure Account where
  protocol : VpnProtocol
  inboundId : Nat
  clientIndex : Nat
  deriving DecidableEq

def StationKey.account (key : StationKey) : Account :=
  ⟨key.protocol, key.inboundId, key.clientIndex⟩

/-- The accounts of the panel: each has an e-mail and its own block. -/
structure Accounts where
  blockIPs : Account → List Ipv4
  email : Account → String
  email_ne : ∀ account, email account ≠ ""
  blocks_disjoint : ∀ first second ip,
    ip ∈ blockIPs first → ip ∈ blockIPs second → first = second

def Accounts.dial (accounts : Accounts) (device : StationKey) : Dial where
  inboundId := device.inboundId
  clientIndex := device.clientIndex
  blockIPs := accounts.blockIPs device.account
  protocol := device.protocol
  strategy := .reject
  station := device.station
  nasPort := device.nasPort
  email := accounts.email device.account

/-- An accepted dial whose Acct-Start has not arrived. -/
structure Waiting where
  device : StationKey
  ip : Ipv4
  since : Nat
  deriving DecidableEq

/-- A device between its Acct-Start and its Acct-Stop. -/
structure LiveSession where
  sessionID : String
  device : StationKey
  ip : Ipv4
  deriving DecidableEq

structure Concentrator where
  radius : RadiusService
  now : Nat
  waiting : List Waiting
  live : List LiveSession

namespace Concentrator

def initial : Concentrator := ⟨RadiusService.empty, 0, [], []⟩

end Concentrator

inductive DialEvent
  | dial (device : StationKey)
  /-- The Acct-Start of an accepted dial, or one sent again. -/
  | acctStart (session : LiveSession)
  | acctStop (packet : AcctPacket)
  | interim (packet : AcctPacket) (email : String)
  | resetAllocations (protocol : VpnProtocol)
  | pass (duration : Nat)

namespace Concentrator

def host (net : Concentrator) : DialHost := .inOrder net.now fun _ => true

def startPacket (session : LiveSession) : AcctPacket :=
  ⟨.start, session.sessionID, session.device.protocol, some session.ip⟩

/-- A dial gets its Acct-Start within the grace or never gets one. -/
def confirms (net : Concentrator) (session : LiveSession)
    (waiting : Waiting) : Bool :=
  waiting.device == session.device && waiting.ip == session.ip &&
    (net.now - waiting.since ≤ pendingReclaimGrace : Bool)

/-- The Access-Accept, or the reject, of a dial. -/
def answer (net : Concentrator) (device : StationKey)
    (radius : RadiusService) : Option Ipv4 → Concentrator
  | some ip => { net with
      radius := radius
      waiting := ⟨device, ip, net.now⟩ :: net.waiting }
  | none => { net with radius := radius }

def dialStep (accounts : Accounts) (net : Concentrator)
    (device : StationKey) : Option Concentrator :=
  if (device.protocol = .l2tp ∨ device.protocol = .pptp) ∧
      device.station ≠ "" then
    let out := net.radius.allocateBlockIP (accounts.dial device) net.host
    some (net.answer device out.service out.ip)
  else none

def startStep (accounts : Accounts) (net : Concentrator)
    (session : LiveSession) : Option Concentrator :=
  let radius := (net.radius.handleAcct (startPacket session)
    (accounts.email session.device.account) net.now).1
  if session ∈ net.live then some { net with radius := radius }
  else
    match net.waiting.find? (net.confirms session) with
    | some waiting =>
        if net.live.any fun other =>
            other.sessionID == session.sessionID then none
        else some { net with
          radius := radius
          waiting := net.waiting.erase waiting
          live := session :: net.live }
    | none => none

def stopStep (net : Concentrator) (packet : AcctPacket) :
    Option Concentrator :=
  if packet.status = .stop ∧ packet.protocol ≠ .openconnect then
    some { net with
      radius := (net.radius.handleAcct packet "" net.now).1
      live := net.live.filter fun session =>
        session.sessionID != packet.sessionID }
  else none

def interimStep (net : Concentrator) (packet : AcctPacket)
    (email : String) : Option Concentrator :=
  if packet.status = .interimUpdate then
    some { net with radius := (net.radius.handleAcct packet email net.now).1 }
  else none

def step (accounts : Accounts) (net : Concentrator) :
    DialEvent → Option Concentrator
  | .dial device => net.dialStep accounts device
  | .acctStart session => net.startStep accounts session
  | .acctStop packet => net.stopStep packet
  | .interim packet email => net.interimStep packet email
  | .resetAllocations protocol =>
      some { net with radius := net.radius.resetAllocations protocol }
  | .pass duration => some { net with now := net.now + duration }

def machine (accounts : Accounts) : Machine Concentrator DialEvent where
  step := step accounts

def liveDevices (net : Concentrator) (account : Account) : List StationKey :=
  ((net.live.map LiveSession.device).filter fun device =>
    device.account == account).dedup

/-- No two distinct devices with live sessions hold one tunnel IP, and no
account has more live devices than block IPs. -/
structure Capped (accounts : Accounts) (net : Concentrator) : Prop where
  exclusive : ∀ first ∈ net.live, ∀ second ∈ net.live,
    first.ip = second.ip → first.device = second.device
  cap : ∀ account,
    (net.liveDevices account).length ≤ (accounts.blockIPs account).length

/-- A device holds an address from its accepted dial on, while it may still be
confirmed, and from its Acct-Start to its Acct-Stop. -/
inductive Holds (net : Concentrator) : StationKey → Ipv4 → Prop
  | live (session : LiveSession) (member : session ∈ net.live) :
      Holds net session.device session.ip
  | waiting (waiting : Waiting) (member : waiting ∈ net.waiting)
      (young : net.now - waiting.since ≤ pendingReclaimGrace) :
      Holds net waiting.device waiting.ip

/-- What the slot search of a dial counts as taken: a recorded session, or a
lease that has not expired. -/
def Occupied (net : Concentrator) (ip : Ipv4) : Prop :=
  (∃ sid record, net.radius.sessions.lookup sid = some record ∧
    record.ip = ip) ∨
  ∃ leasedAt, net.radius.pending.lookup ip = some leasedAt ∧
    net.now - leasedAt ≤ pendingLeaseTTL

/-- No slot another device holds passes for a free one. -/
def HeldOccupied (accounts : Accounts) (net : Concentrator)
    (device : StationKey) : Prop :=
  ∀ waiting ∈ net.waiting, waiting.device ≠ device →
    net.now - waiting.since ≤ pendingReclaimGrace →
    waiting.ip ∈ accounts.blockIPs device.account →
    net.Occupied waiting.ip ∨
      ∃ free ∈ (accounts.blockIPs device.account).takeWhile
        (· != waiting.ip), ¬ net.Occupied free

/-- No slot another device is live on passes for an abandoned one. -/
def LiveUnleased (accounts : Accounts) (net : Concentrator)
    (device : StationKey) : Prop :=
  (∀ ip ∈ accounts.blockIPs device.account, net.Occupied ip) →
  ∀ session ∈ net.live, session.device ≠ device →
    session.ip ∈ accounts.blockIPs device.account →
    ∀ leasedAt, net.radius.pending.lookup session.ip = some leasedAt →
      net.now - leasedAt ≤ pendingLeaseTTL →
      pendingReclaimGrace < net.now - leasedAt →
      ∃ other ∈ accounts.blockIPs device.account, ∃ earlier < leasedAt,
        net.radius.pending.lookup other = some earlier ∧
          net.now - earlier ≤ pendingLeaseTTL

/-- A dial without a claim to reuse meets the two conditions above. -/
def SlotsSound (accounts : Accounts) (net : Concentrator) :
    DialEvent → Prop
  | .dial device =>
      (∀ ip ∈ accounts.blockIPs device.account,
        net.radius.stationIP.lookup device ≠ some ip) →
      net.HeldOccupied accounts device ∧ net.LiveUnleased accounts device
  | _ => True

/-- Holders and claims: an address has one of each at most, and they agree. -/
structure Exclusive (accounts : Accounts) (net : Concentrator) : Prop where
  claims : ∀ first second ip,
    net.radius.stationIP.lookup first = some ip →
    net.radius.stationIP.lookup second = some ip → first = second
  claimed : ∀ key device ip, net.radius.stationIP.lookup key = some ip →
    net.Holds device ip → key = device
  holders : ∀ first second ip,
    net.Holds first ip → net.Holds second ip → first = second
  owned : ∀ device ip, net.Holds device ip →
    device.protocol ≠ .openconnect ∧ ip ∈ accounts.blockIPs device.account

/-- The service has a session for every live device, and its leases are as
young as the dials they stand for. -/
structure Tracked (net : Concentrator) : Prop where
  recorded : ∀ session ∈ net.live, ∃ record,
    net.radius.sessions.lookup session.sessionID = some record ∧
      record.ip = session.ip
  ids : ∀ first ∈ net.live, ∀ second ∈ net.live,
    first.sessionID = second.sessionID → first = second
  leased : ∀ waiting ∈ net.waiting, ∀ leasedAt,
    net.radius.pending.lookup waiting.ip = some leasedAt →
      waiting.since ≤ leasedAt
  begun : ∀ waiting ∈ net.waiting, waiting.since ≤ net.now

structure Consistent (accounts : Accounts) (net : Concentrator) :
    Prop where
  exclusive : net.Exclusive accounts
  tracked : net.Tracked

end Concentrator

end VpnUi.Radius
