import VpnUi.Radius.AllocateSpec

namespace VpnUi.Radius

open Foundation Panel Address

/-! The handlers of the RADIUS server: authentication, accounting packets, the
stale sweep and the wipe of the allocator caches. -/

inductive AcctStatus
  | start
  | stop
  | interimUpdate
  deriving DecidableEq

/-- An Accounting-Request whose NAS-Identifier parsed.  A missing
Framed-IP-Address is `none`. -/
structure AcctPacket where
  status : AcctStatus
  sessionID : String
  protocol : VpnProtocol
  framedIP : Option Ipv4
  deriving DecidableEq

namespace RadiusService

def acctStart (service : RadiusService) (packet : AcctPacket)
    (email : String) (now : Nat) : RadiusService × List Effect :=
  match packet.framedIP with
  | none => (service, [])
  | some ip =>
      if email = "" then (service, [])
      else
        ({ service with
            sessions := service.sessions.insert packet.sessionID
              ⟨email, ip, packet.protocol, now⟩
            pending := service.pending.erase ip },
          [.addAccounting packet.protocol ip])

def acctStop (service : RadiusService) (packet : AcctPacket) :
    RadiusService × List Effect :=
  match service.sessions.lookup packet.sessionID with
  | some session =>
      ({ service with sessions := service.sessions.erase packet.sessionID },
        [.fold session.email session.protocol session.ip,
          .removeAccounting session.protocol session.ip])
  | none =>
      -- an unknown session, e.g. after a panel restart, is cleaned up by IP
      match packet.framedIP with
      | some ip => (service, [.removeAccounting packet.protocol ip])
      | none => (service, [])

def acctInterim (service : RadiusService) (packet : AcctPacket)
    (email : String) (now : Nat) : RadiusService × List Effect :=
  match service.sessions.lookup packet.sessionID with
  | some _ => (service, [])
  | none =>
      match packet.framedIP with
      | none => (service, [])
      | some ip =>
          if email = "" then (service, [])
          else
            ({ service with
                sessions := service.sessions.insert packet.sessionID
                  ⟨email, ip, packet.protocol, now⟩ },
              [.addAccounting packet.protocol ip])

/-- `email` is what `lookupEmail` finds for the packet's user name.  OpenConnect
sessions are owned by the auth path, so their packets are only acknowledged. -/
def handleAcct (service : RadiusService) (packet : AcctPacket)
    (email : String) (now : Nat) : RadiusService × List Effect :=
  if packet.protocol = .openconnect then (service, [])
  else
    match packet.status with
    | .start => service.acctStart packet email now
    | .stop => service.acctStop packet
    | .interimUpdate => service.acctInterim packet email now

/-- `handleAuth` once the credentials are checked.  OpenConnect answers a PAP
request and starts counting at once; the PPP protocols leave that to the
Acct-Start. -/
def handleAuth (service : RadiusService) (dial : Dial) (host : DialHost) :
    RadiusService × List Effect :=
  let out := service.allocateBlockIP dial host
  match dial.protocol, out.ip with
  | .openconnect, some ip =>
      (out.service, out.effects ++ [.addAccounting .openconnect ip])
  | _, _ => (out.service, out.effects)

/-- `active` is the answer of `isIPActive` for each session in turn. -/
def cleanStaleSessions (service : RadiusService)
    (active : String → RadiusSession → Bool) : RadiusService × List Effect :=
  ({ service with sessions := service.sessions.retain active },
    (service.sessions.entries.filter fun entry =>
      !active entry.1 entry.2).map fun entry =>
        .removeAccounting entry.2.protocol entry.2.ip)

def resetAllocations (service : RadiusService) (protocol : VpnProtocol) :
    RadiusService :=
  { service with
    stationIP := service.stationIP.retain fun key _ =>
      !(key.protocol == protocol)
    stationSeen := service.stationSeen.retain fun key _ =>
      !(key.protocol == protocol)
    pending := ∅ }

section Spec

variable (service : RadiusService) (packet : AcctPacket) (email : String)
  (now : Nat)

/-- All an accounting packet can do: nothing, record a session, end the
session it names, or clean up after an unknown one. -/
theorem handleAcct_cases :
    ((packet.protocol = .openconnect ∨ packet.status ≠ .stop ∨
        service.sessions.lookup packet.sessionID = none ∧
          packet.framedIP = none) ∧
      service.handleAcct packet email now = (service, [])) ∨
    (∃ ip pending, packet.status ≠ .stop ∧ packet.protocol ≠ .openconnect ∧
      service.handleAcct packet email now =
        ({ service with
            sessions := service.sessions.insert packet.sessionID
              ⟨email, ip, packet.protocol, now⟩
            pending := pending }, [.addAccounting packet.protocol ip])) ∨
    (∃ session, (packet.status = .stop ∧ packet.protocol ≠ .openconnect) ∧
      service.sessions.lookup packet.sessionID = some session ∧
      service.handleAcct packet email now =
        ({ service with
            sessions := service.sessions.erase packet.sessionID },
          [.fold session.email session.protocol session.ip,
            .removeAccounting session.protocol session.ip])) ∨
    (∃ ip, (packet.status = .stop ∧ packet.protocol ≠ .openconnect) ∧
      (service.sessions.lookup packet.sessionID = none ∧
        packet.framedIP = some ip) ∧
      service.handleAcct packet email now =
        (service, [.removeAccounting packet.protocol ip])) := by
  unfold handleAcct
  by_cases auth : packet.protocol = .openconnect
  · rw [if_pos auth]
    exact .inl ⟨.inl auth, rfl⟩
  · rw [if_neg auth]
    cases kind : packet.status with
    | start =>
        unfold acctStart
        cases framed : packet.framedIP with
        | none => exact .inl ⟨.inr (.inl (by simp)), rfl⟩
        | some ip =>
            by_cases nameless : email = ""
            · simp only [if_pos nameless]
              exact .inl ⟨.inr (.inl (by simp)), trivial⟩
            · simp only [if_neg nameless]
              exact .inr (.inl ⟨ip, _, by simp, auth, rfl⟩)
    | stop =>
        unfold acctStop
        cases known : service.sessions.lookup packet.sessionID with
        | some session =>
            exact .inr (.inr (.inl ⟨session, ⟨rfl, auth⟩, rfl, rfl⟩))
        | none =>
            cases framed : packet.framedIP with
            | none => exact .inl ⟨.inr (.inr ⟨rfl, rfl⟩), rfl⟩
            | some ip =>
                exact .inr (.inr (.inr
                  ⟨ip, ⟨rfl, auth⟩, ⟨rfl, rfl⟩, rfl⟩))
    | interimUpdate =>
        unfold acctInterim
        cases known : service.sessions.lookup packet.sessionID with
        | some session => exact .inl ⟨.inr (.inl (by simp)), rfl⟩
        | none =>
            cases framed : packet.framedIP with
            | none => exact .inl ⟨.inr (.inl (by simp)), rfl⟩
            | some ip =>
                by_cases nameless : email = ""
                · simp only [if_pos nameless]
                  exact .inl ⟨.inr (.inl (by simp)), trivial⟩
                · simp only [if_neg nameless]
                  exact .inr (.inl ⟨ip, _, by simp, auth, rfl⟩)

/-- A Stop touches no session but the one it names. -/
theorem handleAcct_stop (status : packet.status = .stop)
    (other : packet.protocol ≠ .openconnect) :
    (∀ sid, sid ≠ packet.sessionID →
      (service.handleAcct packet email now).1.sessions.lookup sid =
        service.sessions.lookup sid) ∧
    (service.handleAcct packet email now).1.pending = service.pending ∧
    (service.handleAcct packet email now).1.stationIP =
      service.stationIP := by
  unfold handleAcct acctStop
  rw [if_neg other, status]
  simp only
  split
  · exact ⟨fun sid differs => AList.lookup_erase_ne differs, rfl, rfl⟩
  · split <;> exact ⟨fun _ _ => rfl, rfl, rfl⟩

/-- An Interim keeps every session it finds. -/
theorem handleAcct_interim (status : packet.status = .interimUpdate) :
    (∀ sid session, service.sessions.lookup sid = some session →
      (service.handleAcct packet email now).1.sessions.lookup sid =
        some session) ∧
    (service.handleAcct packet email now).1.pending = service.pending ∧
    (service.handleAcct packet email now).1.stationIP =
      service.stationIP := by
  unfold handleAcct acctInterim
  rw [status]
  split
  · exact ⟨fun _ _ found => found, rfl, rfl⟩
  · cases known : service.sessions.lookup packet.sessionID with
    | some session => exact ⟨fun _ _ found => found, rfl, rfl⟩
    | none =>
        cases packet.framedIP with
        | none => exact ⟨fun _ _ found => found, rfl, rfl⟩
        | some ip =>
            simp only
            split
            · exact ⟨fun _ _ found => found, rfl, rfl⟩
            · refine ⟨?_, rfl, rfl⟩
              intro sid session found
              have differs : sid ≠ packet.sessionID := by
                intro same
                rw [same, known] at found
                cases found
              rw [AList.lookup_insert_ne differs]
              exact found

theorem Keyed.handleAcct {service : RadiusService} {packet : AcctPacket}
    {email : String} {now : Nat} (keyed : service.Keyed) :
    (service.handleAcct packet email now).1.Keyed := by
  rcases service.handleAcct_cases packet email now with
    ⟨-, out⟩ | ⟨ip, pending, -, other, out⟩ | ⟨session, -, -, out⟩ |
      ⟨ip, -, -, out⟩
  · rw [out]
    exact keyed
  · rw [out]
    intro sid session found same
    rcases KeyMap.lookup_insert_eq_some.mp found with ⟨-, rfl⟩ | ⟨-, old⟩
    · exact absurd same other
    · exact keyed sid session old same
  · rw [out]
    exact keyed.erase
  · rw [out]
    exact keyed

theorem Keyed.handleAuth {service : RadiusService} {dial : Dial}
    {host : DialHost} (keyed : service.Keyed) :
    (service.handleAuth dial host).1.Keyed := by
  have out : (service.handleAuth dial host).1 =
      (service.allocateBlockIP dial host).service := by
    unfold RadiusService.handleAuth
    simp only
    split <;> rfl
  rw [out]
  exact keyed.allocateBlockIP

end Spec

end RadiusService

end VpnUi.Radius
