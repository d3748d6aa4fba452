import VpnUi.Radius.Service

namespace VpnUi.Radius

open Foundation Panel Address

/-! `allocateBlockIP`: one dial of an account against its block of device
addresses. -/

structure Dial where
  inboundId : Nat
  clientIndex : Nat
  blockIPs : List Ipv4
  protocol : VpnProtocol
  strategy : UserLimitStrategy
  station : String
  nasPort : Nat
  email : String

def sessionList (sessions : KeyMap String RadiusSession) :
    List (String × RadiusSession) :=
  sessions.entries.map fun entry => (entry.1, entry.2)

/-- What a dial reads from outside the service: the clock, the OpenConnect
liveness probe and the order in which a session map is iterated. -/
structure DialHost where
  now : Nat
  ocIsActive : Ipv4 → Bool
  iterate : KeyMap String RadiusSession → List (String × RadiusSession)
  iterate_perm : ∀ sessions, (iterate sessions).Perm (sessionList sessions)

/-- A host that iterates a map in the order of its entries. -/
def DialHost.inOrder (now : Nat) (ocIsActive : Ipv4 → Bool) : DialHost where
  now := now
  ocIsActive := ocIsActive
  iterate := sessionList
  iterate_perm _ := .refl _

structure Allocation where
  service : RadiusService
  ip : Option Ipv4
  deny : Bool
  effects : List Effect

namespace Dial

def skey? (dial : Dial) : Option StationKey :=
  if dial.station = "" then none
  else some ⟨dial.protocol, dial.inboundId, dial.clientIndex,
    dial.station, dial.nasPort⟩

end Dial

namespace RadiusService

/-- An OpenConnect device enters the session map here, at auth, and never from
an accounting packet. -/
def recordOC (service : RadiusService) (dial : Dial) (now : Nat) (ip : Ipv4) :
    RadiusService :=
  if dial.protocol = .openconnect then
    let service := { service with pending := service.pending.erase ip }
    match service.sessions.lookup (ocSessionKey ip) with
    | some existing =>
        if dial.email = "" then service
        else { service with
          sessions := service.sessions.insert (ocSessionKey ip)
            { existing with email := dial.email } }
    | none => { service with
        sessions := service.sessions.insert (ocSessionKey ip)
          ⟨dial.email, ip, dial.protocol, now⟩ }
  else service

/-- The station wins the slot: any other station's claim on it goes. -/
def claimStation (service : RadiusService) (skey : StationKey) (ip : Ipv4)
    (now : Nat) : RadiusService :=
  { service with
    stationIP := (service.stationIP.retain fun key claimed =>
      !(claimed == ip && key != skey)).insert skey ip
    stationSeen := (service.stationSeen.retain fun key _ =>
      !(service.stationIP.lookup key == some ip && key != skey)).insert
        skey now }

def assign (service : RadiusService) (dial : Dial) (now : Nat) (ip : Ipv4) :
    RadiusService :=
  let claimed := match dial.skey? with
    | some skey => service.claimStation skey ip now
    | none => service
  RadiusService.recordOC
    { claimed with pending := claimed.pending.insert ip now } dial now ip

/-- OpenConnect and SSTP send no NAS-Port, so two of their devices behind one
address would share a key: they never redial onto a cached claim. -/
def redialIP? (service : RadiusService) (dial : Dial) : Option Ipv4 :=
  if dial.protocol = .openconnect ∨ dial.protocol = .sstp then none
  else dial.skey?.bind fun skey =>
    (service.stationIP.lookup skey).filter fun ip => dial.blockIPs.contains ip

def redial (service : RadiusService) (dial : Dial) (now : Nat) (ip : Ipv4) :
    RadiusService :=
  let seen := match dial.skey? with
    | some skey => service.stationSeen.insert skey now
    | none => service.stationSeen
  RadiusService.recordOC
    { service with
      stationSeen := seen
      pending := service.pending.insert ip now } dial now ip

def abandoned (service : RadiusService) (now : Nat) (key : StationKey) : Bool :=
  match service.stationSeen.lookup key with
  | some seen => pendingLeaseTTL < now - seen
  | none => false

/-- The pruning loop sits in the branch of the idempotent redial, so a dial
without a station key skips it. -/
def pruneStations (service : RadiusService) (dial : Dial) (now : Nat) :
    RadiusService :=
  if dial.protocol = .openconnect ∨ dial.protocol = .sstp ∨
      dial.skey? = none then service
  else { service with
    stationSeen := service.stationSeen.retain fun _ seen =>
      !(pendingLeaseTTL < now - seen : Bool)
    stationIP := service.stationIP.retain fun key _ =>
      !service.abandoned now key }

def reclaimStale (host : DialHost) (state : RadiusService × List Effect)
    (ip : Ipv4) : RadiusService × List Effect :=
  match state.1.sessions.lookup (ocSessionKey ip) with
  | none => state
  | some session =>
      if host.now - session.started < ocStaleReclaimGrace then state
      else if host.ocIsActive ip then state
      else ({ state.1 with
          sessions := state.1.sessions.erase (ocSessionKey ip) },
        state.2 ++ [.removeAccounting .openconnect ip])

def reconcileOC (service : RadiusService) (dial : Dial) (host : DialHost) :
    RadiusService × List Effect :=
  if dial.protocol = .openconnect then
    dial.blockIPs.foldl (reclaimStale host) (service, [])
  else (service, [])

def expirePending (service : RadiusService) (now : Nat) : RadiusService :=
  { service with
    pending := service.pending.retain fun _ leased =>
      !(pendingLeaseTTL < now - leased : Bool) }

def isUsed (service : RadiusService) (ip : Ipv4) : Bool :=
  (service.sessions.entries.any fun entry => entry.2.ip == ip) ||
    (service.pending.lookup ip).isSome

def freeSlot? (service : RadiusService) (blockIPs : List Ipv4) : Option Ipv4 :=
  blockIPs.find? fun ip => !service.isUsed ip

def olderGhost (service : RadiusService) (now : Nat)
    (ghost : Option (Ipv4 × Nat)) (ip : Ipv4) : Option (Ipv4 × Nat) :=
  match service.pending.lookup ip with
  | none => ghost
  | some leased =>
      if pendingReclaimGrace < now - leased then
        match ghost with
        | none => some (ip, leased)
        | some (_, oldest) =>
            if leased < oldest then some (ip, leased) else ghost
      else ghost

def ghostLease? (service : RadiusService) (now : Nat)
    (blockIPs : List Ipv4) : Option Ipv4 :=
  (blockIPs.foldl (service.olderGhost now) none).map Prod.fst

end RadiusService

/-- The source marks "none yet" by an empty session id, so a session whose id is
empty does not stay selected. -/
def olderSession (blockIPs : List Ipv4)
    (oldest : String × Option Ipv4 × Nat) (entry : String × RadiusSession) :
    String × Option Ipv4 × Nat :=
  if blockIPs.contains entry.2.ip then
    if oldest.1 = "" ∨ entry.2.started < oldest.2.2 then
      (entry.1, some entry.2.ip, entry.2.started)
    else oldest
  else oldest

def oldestBlockSession (order : List (String × RadiusSession))
    (blockIPs : List Ipv4) : String × Option Ipv4 :=
  let oldest := order.foldl (olderSession blockIPs) ("", none, 0)
  (oldest.1, oldest.2.1)

namespace RadiusService

/-- The victim's counters are folded into its row before they are deleted, and
its link is taken down. -/
def evictEffects (service : RadiusService) (dial : Dial) (victimSID : String)
    (victimIP : Ipv4) : List Effect :=
  let folded := match service.sessions.lookup victimSID with
    | some victim =>
        if victim.email = "" then []
        else [.fold victim.email dial.protocol victimIP]
    | none => []
  folded ++ [.removeAccounting dial.protocol victimIP,
    .disconnect dial.protocol dial.inboundId victimIP]

def evict (service : RadiusService) (dial : Dial) (now : Nat)
    (victimSID : String) (victimIP : Ipv4) : RadiusService :=
  RadiusService.assign
    { service with sessions := service.sessions.erase victimSID }
    dial now victimIP

/-- Steps (1) to (3) of the source: a free slot, else the oldest lease past the
reclaim grace, else the strategy. -/
def chooseSlot (service : RadiusService) (dial : Dial) (host : DialHost)
    (effects : List Effect) : Allocation :=
  match service.freeSlot? dial.blockIPs with
  | some ip =>
      ⟨service.assign dial host.now ip, ip.parsed?, false, effects⟩
  | none =>
      match service.ghostLease? host.now dial.blockIPs with
      | some ip =>
          ⟨service.assign dial host.now ip, ip.parsed?, false, effects⟩
      | none =>
          match dial.strategy with
          | .reject => ⟨service, none, true, effects⟩
          | .accept =>
              match oldestBlockSession (host.iterate service.sessions)
                  dial.blockIPs with
              | (victimSID, some victimIP) =>
                  ⟨service.evict dial host.now victimSID victimIP,
                    victimIP.parsed?, false,
                    effects ++ service.evictEffects dial victimSID victimIP⟩
              | (_, none) => ⟨service, none, true, effects⟩

def allocateBlockIP (service : RadiusService) (dial : Dial)
    (host : DialHost) : Allocation :=
  match service.redialIP? dial with
  | some ip => ⟨service.redial dial host.now ip, ip.parsed?, false, []⟩
  | none =>
      let reconciled := (service.pruneStations dial host.now).reconcileOC
        dial host
      (reconciled.1.expirePending host.now).chooseSlot dial host reconciled.2

end RadiusService

end VpnUi.Radius
