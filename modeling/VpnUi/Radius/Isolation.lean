import VpnUi.Foundation.Transition
import VpnUi.Address.Range
import VpnUi.Radius.Accounting

namespace VpnUi.Radius

open Foundation Panel Address

/-! What a dial leaves alone: the sessions outside the account's block, and
those inside it while there is a slot to give. -/

theorem ocSessionKey_injective {ip other : Ipv4}
    (same : ocSessionKey ip = ocSessionKey other) : ip = other := by
  apply Ipv4.text_injective
  have letters := congrArg String.toList same
  simp only [ocSessionKey, String.toList_append, List.append_cancel_left_eq]
    at letters
  exact String.toList_inj.mp letters

/-- An Acct-Session-Id of a daemon, which no OpenConnect key is. -/
def AcctPacket.Plain (packet : AcctPacket) : Prop :=
  ∀ ip, packet.sessionID ≠ ocSessionKey ip

namespace RadiusService

/-- The key of an OpenConnect session tells its address. -/
def OwnKeys (service : RadiusService) : Prop :=
  ∀ ip session, service.sessions.lookup (ocSessionKey ip) = some session →
    session.ip = ip

/-- No session is on the address, and no lease that a dial may not reclaim. -/
structure Vacant (service : RadiusService) (now : Nat) (ip : Ipv4) :
    Prop where
  free : ∀ sid session, service.sessions.lookup sid = some session →
    session.ip ≠ ip
  abandoned : ∀ leased, service.pending.lookup ip = some leased →
    pendingReclaimGrace < now - leased

/-- An OpenConnect session of the block whose tunnel is gone. -/
structure Stale (dial : Dial) (host : DialHost) (sid : String)
    (session : RadiusSession) : Prop where
  protocol : dial.protocol = .openconnect
  key : sid = ocSessionKey session.ip
  inBlock : session.ip ∈ dial.blockIPs
  old : ocStaleReclaimGrace ≤ host.now - session.started
  gone : host.ocIsActive session.ip = false

/-- A session that a dial keeps, up to a refreshed e-mail. -/
def Keeps (service : RadiusService) (sid : String) (session : RadiusSession) :
    Prop :=
  ∃ later, service.sessions.lookup sid = some later ∧ later.ip = session.ip ∧
    later.protocol = session.protocol ∧ later.started = session.started

/-- The dial is admitted, disconnects nobody and ends no session but those of
the account whose tunnel is gone. -/
structure Admits (service : RadiusService) (dial : Dial) (host : DialHost) :
    Prop where
  accepted : (service.allocateBlockIP dial host).deny = false
  spares : ∀ protocol inboundId ip,
    Effect.disconnect protocol inboundId ip ∉
      (service.allocateBlockIP dial host).effects
  keeps : ∀ sid session, service.sessions.lookup sid = some session →
    (service.allocateBlockIP dial host).service.Keeps sid session ∨
      Stale dial host sid session

/-- A dial stays within the block of its account. -/
structure Isolates (service : RadiusService) (dial : Dial) (host : DialHost) :
    Prop where
  address : ∀ ip, (service.allocateBlockIP dial host).ip = some ip →
    ip ∈ dial.blockIPs
  others : ∀ sid session, session.ip ∉ dial.blockIPs →
    ((service.allocateBlockIP dial host).service.sessions.lookup sid =
        some session ↔
      service.sessions.lookup sid = some session)
  admits : (∃ ip ∈ dial.blockIPs, service.Vacant host.now ip) →
    service.Admits dial host

section Grants

variable {service : RadiusService} {dial : Dial} {host : DialHost}
  {now : Nat} {ip : Ipv4} {sid : String}

theorem recordOC_lookup_ne (differs : sid ≠ ocSessionKey ip) :
    (service.recordOC dial now ip).sessions.lookup sid =
      service.sessions.lookup sid := by
  unfold recordOC
  split
  · simp only
    split
    · split
      · rfl
      · exact AList.lookup_insert_ne differs
    · exact AList.lookup_insert_ne differs
  · rfl

/-- A grant keeps every session, and refreshes an e-mail at most. -/
theorem keeps_recordOC {session : RadiusSession}
    (found : service.sessions.lookup sid = some session) :
    (service.recordOC dial now ip).Keeps sid session := by
  by_cases same : sid = ocSessionKey ip
  · subst same
    unfold recordOC Keeps
    split
    · simp only [found]
      split
      · exact ⟨session, found, rfl, rfl, rfl⟩
      · exact ⟨_, AList.lookup_insert _, rfl, rfl, rfl⟩
    · exact ⟨session, found, rfl, rfl, rfl⟩
  · exact ⟨session, (recordOC_lookup_ne same).trans found, rfl, rfl, rfl⟩

theorem assign_eq_recordOC : ∃ claimed : RadiusService,
    claimed.sessions = service.sessions ∧
      service.assign dial now ip = claimed.recordOC dial now ip := by
  unfold assign
  cases dial.skey? with
  | none =>
      exact ⟨{ service with pending := service.pending.insert ip now },
        rfl, rfl⟩
  | some skey =>
      exact ⟨{ service.claimStation skey ip now with
        pending := service.pending.insert ip now }, rfl, rfl⟩

theorem assign_lookup_ne (differs : sid ≠ ocSessionKey ip) :
    (service.assign dial now ip).sessions.lookup sid =
      service.sessions.lookup sid := by
  obtain ⟨claimed, sessions, out⟩ := @assign_eq_recordOC service dial now ip
  rw [out, recordOC_lookup_ne differs, sessions]

theorem keeps_assign {session : RadiusSession}
    (found : service.sessions.lookup sid = some session) :
    (service.assign dial now ip).Keeps sid session := by
  obtain ⟨claimed, sessions, out⟩ := @assign_eq_recordOC service dial now ip
  rw [out]
  exact keeps_recordOC (sessions ▸ found)

end Grants

section Reconcile

variable {service : RadiusService} {dial : Dial} {host : DialHost}

/-- What the reconcile step carries from one block address to the next. -/
theorem reconcileOC_induction {property : RadiusService × List Effect → Prop}
    (start : property (service, []))
    (step : dial.protocol = .openconnect → ∀ ip ∈ dial.blockIPs, ∀ state,
      property state → property (reclaimStale host state ip)) :
    property (service.reconcileOC dial host) := by
  unfold reconcileOC
  split
  next same =>
    have folded : ∀ (ips : List Ipv4) (state : RadiusService × List Effect),
        (∀ ip ∈ ips, ip ∈ dial.blockIPs) → property state →
          property (ips.foldl (reclaimStale host) state) := by
      intro ips
      induction ips with
      | nil => exact fun _ _ => id
      | cons head tail induction =>
          intro state inBlock before
          rw [List.forall_mem_cons] at inBlock
          exact induction _ inBlock.2 (step same head inBlock.1 state before)
    exact folded dial.blockIPs _ (fun _ => id) start
  next => exact start

/-- A service between the start of a dial and its choice of a slot. -/
structure Reclaimed (service : RadiusService) (dial : Dial) (host : DialHost)
    (state : RadiusService × List Effect) : Prop where
  known : ∀ sid session, state.1.sessions.lookup sid = some session →
    service.sessions.lookup sid = some session
  kept : ∀ sid session, service.sessions.lookup sid = some session →
    state.1.sessions.lookup sid = some session ∨ Stale dial host sid session
  pending : state.1.pending = service.pending
  spares : ∀ protocol inboundId ip,
    Effect.disconnect protocol inboundId ip ∉ state.2

theorem Reclaimed.reclaimStale {state : RadiusService × List Effect} {ip : Ipv4}
    (keys : service.OwnKeys) (same : dial.protocol = .openconnect)
    (inBlock : ip ∈ dial.blockIPs)
    (reclaimed : service.Reclaimed dial host state) :
    service.Reclaimed dial host (RadiusService.reclaimStale host state ip) := by
  unfold RadiusService.reclaimStale
  split
  next => exact reclaimed
  next session found =>
    split
    next => exact reclaimed
    next old =>
      split
      next => exact reclaimed
      next gone =>
        have onIP : session.ip = ip := keys ip session (reclaimed.known _ _ found)
        refine ⟨?_, ?_, reclaimed.pending, ?_⟩
        · intro sid other kept
          exact reclaimed.known sid other (KeyMap.lookup_erase_eq_some.mp kept).2
        · intro sid other known
          rcases reclaimed.kept sid other known with kept | stale
          · by_cases erased : sid = ocSessionKey ip
            · subst erased
              obtain rfl := Option.some.inj (found.symm.trans kept)
              exact .inr {
                protocol := same
                key := by rw [onIP]
                inBlock := onIP ▸ inBlock
                old := not_lt.mp old
                gone := by simpa [onIP] using gone }
            · exact .inl (KeyMap.lookup_erase_eq_some.mpr ⟨erased, kept⟩)
          · exact .inr stale
        · intro protocol inboundId other listed
          rcases List.mem_append.mp listed with before | added
          · exact reclaimed.spares _ _ _ before
          · cases List.mem_singleton.mp added

theorem reclaimed_reconcileOC (keys : service.OwnKeys) :
    service.Reclaimed dial host
      ((service.pruneStations dial host.now).reconcileOC dial host) := by
  apply reconcileOC_induction
  · exact {
      known := fun _ _ found => by rwa [pruneStations_sessions] at found
      kept := fun _ _ found => .inl (by rwa [pruneStations_sessions])
      pending := pruneStations_pending
      spares := fun _ _ _ => List.not_mem_nil }
  · intro same ip inBlock state before
    exact before.reclaimStale keys same inBlock

end Reconcile

section Dials

variable {service : RadiusService} {dial : Dial} {host : DialHost}

theorem Vacant.prepared {ip : Ipv4} (keys : service.OwnKeys)
    (vacant : service.Vacant host.now ip) :
    (service.prepared dial host).1.Vacant host.now ip := by
  have reclaimed := @reclaimed_reconcileOC service dial host keys
  refine ⟨?_, ?_⟩
  · intro sid session found
    exact vacant.free sid session (reclaimed.known sid session found)
  · intro leased found
    have lease := (expirePending_pending.mp found).1
    rw [reclaimed.pending] at lease
    exact vacant.abandoned leased lease

/-- A vacant address makes the choice a free slot or an abandoned lease. -/
theorem chooseSlot_of_vacant {ip : Ipv4} {effects : List Effect}
    (inBlock : ip ∈ dial.blockIPs) (vacant : service.Vacant host.now ip) :
    ∃ chosen ∈ dial.blockIPs, service.chooseSlot dial host effects =
      ⟨service.assign dial host.now chosen, chosen.parsed?, false, effects⟩ := by
  unfold chooseSlot
  cases free : service.freeSlot? dial.blockIPs with
  | some chosen => exact ⟨chosen, List.mem_of_find?_eq_some free, rfl⟩
  | none =>
      cases ghost : service.ghostLease? host.now dial.blockIPs with
      | some chosen => exact ⟨chosen, (ghostLease?_eq_some ghost).1, rfl⟩
      | none =>
          rcases isUsed_iff.mp (freeSlot?_eq_none.mp free ip inBlock) with
            ⟨sid, session, found, onIP⟩ | ⟨leased, lease⟩
          · exact absurd onIP (vacant.free sid session found)
          · have recent := ghostLease?_eq_none ghost inBlock lease
            exact absurd (vacant.abandoned leased lease) (not_lt.mpr recent)

theorem protocol_ne_of_claim {ip : Ipv4} (redialed : service.redialIP? dial = some ip) :
    dial.protocol ≠ .openconnect := by
  intro same
  rw [redialIP?_openconnect same] at redialed
  cases redialed

theorem admits_of_vacant {ip : Ipv4} (keys : service.OwnKeys)
    (inBlock : ip ∈ dial.blockIPs) (vacant : service.Vacant host.now ip) :
    service.Admits dial host := by
  cases redialed : service.redialIP? dial with
  | some claimed =>
      have out := @allocateBlockIP_of_claim service dial host claimed redialed
      refine ⟨?_, ?_, ?_⟩
      · rw [out]
      · rw [out]
        exact fun _ _ _ => List.not_mem_nil
      · intro sid session found
        rw [out]
        refine .inl ⟨session, ?_, rfl, rfl, rfl⟩
        rwa [redial_sessions (protocol_ne_of_claim redialed)]
  | none =>
      have out := @allocateBlockIP_of_no_claim service dial host redialed
      have reclaimed := @reclaimed_reconcileOC service dial host keys
      obtain ⟨chosen, -, granted⟩ := @chooseSlot_of_vacant
        (service.prepared dial host).1 dial host ip
        (service.prepared dial host).2 inBlock (vacant.prepared keys)
      rw [granted] at out
      refine ⟨?_, ?_, ?_⟩
      · rw [out]
      · rw [out]
        exact reclaimed.spares
      · intro sid session found
        rw [out]
        rcases reclaimed.kept sid session found with kept | stale
        · exact .inl (keeps_assign kept)
        · exact .inr stale

/-- All a dial can do: take its claim again, take a slot of the block, evict
a session of the block, or be denied. -/
inductive Outcome (service : RadiusService) (dial : Dial) (host : DialHost) :
    Allocation → Prop
  | claim {ip : Ipv4} (inBlock : ip ∈ dial.blockIPs)
      (other : dial.protocol ≠ .openconnect) :
      Outcome service dial host
        ⟨service.redial dial host.now ip, ip.parsed?, false, []⟩
  | slot {ip : Ipv4} {effects : List Effect} (inBlock : ip ∈ dial.blockIPs) :
      Outcome service dial host
        ⟨(service.prepared dial host).1.assign dial host.now ip, ip.parsed?,
          false, effects⟩
  | evict {ip : Ipv4} {effects : List Effect} {victimSID : String}
      (evicts : (service.prepared dial host).1.Evicts dial host victimSID ip) :
      Outcome service dial host
        ⟨(service.prepared dial host).1.evict dial host.now victimSID ip,
          ip.parsed?, false, effects⟩
  | deny {effects : List Effect} :
      Outcome service dial host
        ⟨(service.prepared dial host).1, none, true, effects⟩

theorem allocateBlockIP_outcome :
    Outcome service dial host (service.allocateBlockIP dial host) := by
  cases redialed : service.redialIP? dial with
  | some ip =>
      obtain ⟨-, -, -, inBlock⟩ := redialIP?_eq_some redialed
      rw [allocateBlockIP_of_claim redialed]
      exact .claim inBlock (protocol_ne_of_claim redialed)
  | none =>
      rw [allocateBlockIP_of_no_claim redialed]
      by_cases evicting : ∃ victimSID ip,
          (service.prepared dial host).1.Evicts dial host victimSID ip
      · obtain ⟨victimSID, ip, evicts⟩ := evicting
        rw [chooseSlot_of_evicts evicts]
        exact .evict evicts
      · rcases chooseSlot_of_not_evicts (service.prepared dial host).2
            (fun victimSID ip evicts => evicting ⟨victimSID, ip, evicts⟩) with
          ⟨ip, inBlock, out⟩ | out
        · rw [out]
          exact .slot inBlock
        · rw [out]
          exact .deny

theorem allocateBlockIP_address {ip : Ipv4}
    (given : (service.allocateBlockIP dial host).ip = some ip) :
    ip ∈ dial.blockIPs := by
  have outcome := @allocateBlockIP_outcome service dial host
  generalize service.allocateBlockIP dial host = out at outcome given
  cases outcome with
  | claim inBlock _ =>
      obtain ⟨-, rfl⟩ := Ipv4.parsed?_eq_some.mp given
      exact inBlock
  | slot inBlock =>
      obtain ⟨-, rfl⟩ := Ipv4.parsed?_eq_some.mp given
      exact inBlock
  | evict evicts =>
      obtain ⟨-, rfl⟩ := Ipv4.parsed?_eq_some.mp given
      exact evicts.victim.1
  | deny => cases given

/-- A session after a dial was there before, or is the one recorded for an
address of the block. -/
theorem allocateBlockIP_lookup {sid : String} {session : RadiusSession}
    (keys : service.OwnKeys)
    (found : (service.allocateBlockIP dial host).service.sessions.lookup sid =
      some session) :
    (∃ old, service.sessions.lookup sid = some old ∧ session.ip = old.ip) ∨
      (session.ip ∈ dial.blockIPs ∧ sid = ocSessionKey session.ip) := by
  have reclaimed := @reclaimed_reconcileOC service dial host keys
  have outcome := @allocateBlockIP_outcome service dial host
  generalize service.allocateBlockIP dial host = out at outcome found
  cases outcome with
  | claim _ other =>
      rw [redial_sessions other] at found
      exact .inl ⟨session, found, rfl⟩
  | slot inBlock =>
      rcases assign_lookup found with ⟨old, before, -, onIP⟩ | ⟨key, -, onIP⟩
      · exact .inl ⟨old, reclaimed.known sid old before, onIP⟩
      · rw [onIP]
        exact .inr ⟨inBlock, key⟩
  | evict evicts =>
      rcases assign_lookup found with ⟨old, before, -, onIP⟩ | ⟨key, -, onIP⟩
      · have kept := (KeyMap.lookup_erase_eq_some.mp before).2
        exact .inl ⟨old, reclaimed.known sid old kept, onIP⟩
      · rw [onIP]
        exact .inr ⟨evicts.victim.1, key⟩
  | deny => exact .inl ⟨session, reclaimed.known sid session found, rfl⟩

theorem OwnKeys.allocateBlockIP (keys : service.OwnKeys) :
    (service.allocateBlockIP dial host).service.OwnKeys := by
  intro ip session found
  rcases allocateBlockIP_lookup keys found with ⟨old, before, onIP⟩ | ⟨-, key⟩
  · rw [onIP]
    exact keys ip old before
  · exact (ocSessionKey_injective key).symm

/-- A session outside the block stays as it is. -/
theorem allocateBlockIP_kept {sid : String} {session : RadiusSession}
    (keys : service.OwnKeys) (outside : session.ip ∉ dial.blockIPs)
    (found : service.sessions.lookup sid = some session) :
    (service.allocateBlockIP dial host).service.sessions.lookup sid =
      some session := by
  have reclaimed := @reclaimed_reconcileOC service dial host keys
  have kept : (service.prepared dial host).1.sessions.lookup sid =
      some session :=
    (reclaimed.kept sid session found).resolve_right fun stale =>
      outside stale.inBlock
  have apart : ∀ ip ∈ dial.blockIPs, sid ≠ ocSessionKey ip := by
    rintro ip inBlock rfl
    exact outside (keys ip session found ▸ inBlock)
  have outcome := @allocateBlockIP_outcome service dial host
  generalize service.allocateBlockIP dial host = out at outcome
  cases outcome with
  | claim _ other => rwa [redial_sessions other]
  | slot inBlock => rwa [assign_lookup_ne (apart _ inBlock)]
  | evict evicts =>
      obtain ⟨inBlock, victim, recorded, onIP⟩ := evicts.victim
      unfold RadiusService.evict
      rw [assign_lookup_ne (apart _ inBlock)]
      refine KeyMap.lookup_erase_eq_some.mpr ⟨?_, kept⟩
      rintro rfl
      obtain rfl := Option.some.inj (kept.symm.trans recorded)
      exact outside (onIP ▸ inBlock)
  | deny => exact kept

theorem OwnKeys.isolates (keys : service.OwnKeys) :
    service.Isolates dial host where
  address _ := allocateBlockIP_address
  others sid session outside := by
    constructor
    · intro found
      rcases allocateBlockIP_lookup keys found with
        ⟨old, before, onIP⟩ | ⟨inBlock, -⟩
      · have kept := @allocateBlockIP_kept service dial host sid old keys
          (onIP ▸ outside) before
        rw [found] at kept
        exact kept ▸ before
      · exact absurd inBlock outside
    · exact allocateBlockIP_kept keys outside
  admits := fun ⟨_, inBlock, vacant⟩ => admits_of_vacant keys inBlock vacant

theorem OwnKeys.handleAcct {packet : AcctPacket} {email : String} {now : Nat}
    (keys : service.OwnKeys) (plain : packet.Plain) :
    (service.handleAcct packet email now).1.OwnKeys := by
  intro ip session found
  rcases service.handleAcct_cases packet email now with
    ⟨-, out⟩ | ⟨framed, pending, -, -, out⟩ | ⟨ended, -, -, out⟩ |
      ⟨framed, -, -, out⟩
  · rw [out] at found
    exact keys ip session found
  · rw [out] at found
    rcases KeyMap.lookup_insert_eq_some.mp found with ⟨named, -⟩ | ⟨-, old⟩
    · exact absurd named.symm (plain ip)
    · exact keys ip session old
  · rw [out] at found
    exact keys ip session (KeyMap.lookup_erase_eq_some.mp found).2
  · rw [out] at found
    exact keys ip session found

end Dials

end RadiusService

/-- The allocator and the clock. -/
structure Allocator where
  radius : RadiusService
  now : Nat

inductive AllocatorEvent
  | dial (dial : Dial) (host : DialHost)
  | acct (packet : AcctPacket) (email : String)
  | resetAllocations (protocol : VpnProtocol)
  | cleanStaleSessions (active : String → RadiusSession → Bool)
  | pass (duration : Nat)

namespace Allocator

def initial : Allocator := ⟨RadiusService.empty, 0⟩

/-- A dial reads the clock of the allocator. -/
def clocked (net : Allocator) (host : DialHost) : DialHost :=
  { host with now := net.now }

def step (net : Allocator) : AllocatorEvent → Allocator
  | .dial dial host =>
      { net with radius := (net.radius.handleAuth dial (net.clocked host)).1 }
  | .acct packet email =>
      { net with radius := (net.radius.handleAcct packet email net.now).1 }
  | .resetAllocations protocol =>
      { net with radius := net.radius.resetAllocations protocol }
  | .cleanStaleSessions active =>
      { net with radius := (net.radius.cleanStaleSessions active).1 }
  | .pass duration => { net with now := net.now + duration }

def machine : Machine Allocator AllocatorEvent where
  step net event := some (net.step event)

/-- The packets carry session ids of the daemons. -/
def PlainPackets : AllocatorEvent → Prop
  | .acct packet _ => packet.Plain
  | _ => True

theorem OwnKeys.step {net : Allocator} {event : AllocatorEvent}
    (keys : net.radius.OwnKeys) (plain : PlainPackets event) :
    (net.step event).radius.OwnKeys := by
  cases event with
  | dial dial host =>
      have out : (net.radius.handleAuth dial (net.clocked host)).1 =
          (net.radius.allocateBlockIP dial (net.clocked host)).service := by
        unfold RadiusService.handleAuth
        simp only
        split <;> rfl
      unfold Allocator.step
      simp only [out]
      exact keys.allocateBlockIP
  | acct packet email => exact keys.handleAcct plain
  | resetAllocations protocol => exact keys
  | cleanStaleSessions active =>
      intro ip session found
      exact keys ip session (KeyMap.lookup_retain_eq_some.mp found).1
  | pass duration => exact keys

/-- At every state of a run, every dial stays within its account's block, and
is admitted without an eviction while the block has a vacant address. -/
theorem isolates_throughout (events : List AllocatorEvent)
    (plain : ∀ event ∈ events, PlainPackets event) :
    machine.Throughout
      (fun net => ∀ dial host, net.radius.Isolates dial (net.clocked host))
      initial events := by
  have guarded : ∀ net, machine.Guarded (fun _ => PlainPackets) net events := by
    induction events with
    | nil => exact fun _ => trivial
    | cons head tail induction =>
        rw [List.forall_mem_cons] at plain
        exact fun net => ⟨plain.1, fun next _ => induction plain.2 next⟩
  have keys : machine.Throughout (fun net => net.radius.OwnKeys)
      initial events := by
    apply machine.throughout_of_guarded _ _ (guarded initial)
    · intro net event next keys plain stepped
      obtain rfl := Option.some.inj stepped
      exact OwnKeys.step keys plain
    · intro ip session found
      cases found
  exact keys.imp machine fun _ keys _ _ => keys.isolates

/-- A device of an account with one address. -/
def soleDial (protocol : VpnProtocol) (ip : Ipv4) (nasPort : Nat) : Dial :=
  ⟨1, 0, [ip], protocol, .reject, "198.51.100.7", nasPort, "alice"⟩

def idleHost : DialHost := .inOrder 0 fun _ => false

def pppIP : Ipv4 := ⟨⟨10, 0, 0⟩, 2⟩

def ocservIP : Ipv4 := ⟨⟨10, 4, 0⟩, 2⟩

theorem isolates_throughout_two_devices :
    machine.Throughout
      (fun net => ∀ dial host, net.radius.Isolates dial (net.clocked host))
      initial
      [.dial (soleDial .l2tp pppIP 1) idleHost,
        .acct ⟨.start, "5F3A", .l2tp, some pppIP⟩ "alice",
        .pass (20 * second), .dial (soleDial .sstp ocservIP 0) idleHost] := by
  apply isolates_throughout
  have plain : AcctPacket.Plain ⟨.start, "5F3A", .l2tp, some pppIP⟩ := by
    intro ip same
    have letters := congrArg (fun text => text.toList.head?) same
    simp [ocSessionKey] at letters
  simpa [PlainPackets] using plain

/-- A lease of exactly the grace is not reclaimed; and a session filed under
an OpenConnect key is ended by the dial that owns the key. -/
theorem denied_at_grace_and_foreign_key_ended :
    (¬ ∀ events net, machine.run initial events = some net →
      ∀ dial host, (∃ ip ∈ dial.blockIPs,
        (∀ sid session, net.radius.sessions.lookup sid = some session →
          session.ip ≠ ip) ∧
        ∀ leased, net.radius.pending.lookup ip = some leased →
          ¬ net.now - leased < pendingReclaimGrace) →
      (net.radius.allocateBlockIP dial (net.clocked host)).deny = false) ∧
    ¬ ∀ events net, machine.run initial events = some net →
      ∀ dial host sid session, session.ip ∉ dial.blockIPs →
        net.radius.sessions.lookup sid = some session →
          (net.radius.allocateBlockIP dial
            (net.clocked host)).service.sessions.lookup sid = some session := by
  constructor
  · intro always
    have admitted := always
      [.dial (soleDial .l2tp pppIP 1) idleHost, .pass pendingReclaimGrace] _ rfl
      (soleDial .l2tp pppIP 2) idleHost ⟨pppIP, List.mem_cons_self, ?_, ?_⟩
    · exact absurd admitted (by decide +kernel)
    · intro sid session found
      cases found
    · intro leased found
      have since : leased = 0 := by
        apply Option.some.inj
        rw [← found]
        decide +kernel
      subst since
      decide +kernel
  · intro always
    have kept := always
      [.acct ⟨.start, "oc:10.4.0.2", .l2tp, some pppIP⟩ "bob",
        .pass ocStaleReclaimGrace] _ rfl (soleDial .openconnect ocservIP 0)
      idleHost "oc:10.4.0.2" ⟨"bob", pppIP, .l2tp, 0⟩ (by decide) (by decide +kernel)
    exact absurd kept (by decide +kernel)

end Allocator

end VpnUi.Radius
