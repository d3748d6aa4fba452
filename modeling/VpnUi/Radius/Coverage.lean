import VpnUi.Foundation.Transition
import VpnUi.Nft.AcctTable
import VpnUi.Radius.AllocateSpec
import VpnUi.Radius.Accounting

namespace VpnUi.Radius

open Foundation Panel Address Nft

/-! Whether the nft table counts every session the RADIUS server has, over
whole runs of its handlers. -/

/-- No session but `sid` has the counters of `(protocol, ip)`. -/
def RadiusService.SoleOn (service : RadiusService) (sid : String)
    (protocol : VpnProtocol) (ip : Ipv4) : Prop :=
  ∀ other session, service.sessions.lookup other = some session →
    session.protocol = protocol → session.ip = ip → other = sid

structure Metered (Bytes : Type) where
  radius : RadiusService
  table : AcctTable Bytes

inductive MeterEvent
  | acct (packet : AcctPacket) (email : String) (now : Nat)
  | auth (dial : Dial) (host : DialHost)
  | sweep (active : String → RadiusSession → Bool)

namespace Metered

variable {Bytes : Type} [Zero Bytes]

def initial : Metered Bytes := ⟨RadiusService.empty, AcctTable.empty⟩

def apply (net : Metered Bytes) (out : RadiusService × List Effect) :
    Metered Bytes :=
  ⟨out.1, net.table.performAll out.2⟩

/-- The block of an OpenConnect account consists of IPv4 addresses. -/
def step (net : Metered Bytes) : MeterEvent → Option (Metered Bytes)
  | .acct packet email now =>
      some (net.apply (net.radius.handleAcct packet email now))
  | .auth dial host =>
      if dial.protocol = .openconnect → ∀ ip ∈ dial.blockIPs, ip.Valid then
        some (net.apply (net.radius.handleAuth dial host))
      else none
  | .sweep active =>
      some (net.apply (net.radius.cleanStaleSessions active))

def machine (Bytes : Type) [Zero Bytes] :
    Machine (Metered Bytes) MeterEvent where
  step := step

def Covered (net : Metered Bytes) : Prop :=
  ∀ sid session, net.radius.sessions.lookup sid = some session →
    net.table.Counted session.protocol session.ip

/-- The counters an event deletes belong to no session that outlives it. -/
def FreesOwn (net : Metered Bytes) : MeterEvent → Prop
  | .acct packet _ _ =>
      packet.status = .stop → packet.protocol ≠ .openconnect →
        match net.radius.sessions.lookup packet.sessionID with
        | some session =>
            net.radius.SoleOn packet.sessionID session.protocol session.ip
        | none => ∀ ip, packet.framedIP = some ip →
            net.radius.SoleOn packet.sessionID packet.protocol ip
  | .auth dial host =>
      dial.protocol ≠ .openconnect → net.radius.redialIP? dial = none →
        ∀ victimSID ip,
          (net.radius.settled dial host.now).Evicts dial host victimSID ip →
            net.radius.SoleOn victimSID dial.protocol ip
  | .sweep active =>
      ∀ sid session, net.radius.sessions.lookup sid = some session →
        active sid session = false →
        ∀ other survivor, net.radius.sessions.lookup other = some survivor →
          active other survivor = true →
            ¬ (survivor.protocol = session.protocol ∧
              survivor.ip = session.ip)

/-- Counting rules come in pairs, and OpenConnect sessions are filed under
their addresses. -/
structure Filed (net : Metered Bytes) : Prop where
  paired : net.table.Paired
  keyed : net.radius.Keyed

section Steps

variable {net next : Metered Bytes}

omit [Zero Bytes] in
/-- Counters taken from `(protocol, ip)` are missed exactly when a session is
left on them. -/
theorem covered_remove_iff (covered : net.Covered)
    {sessions : KeyMap String RadiusSession} {sid : String}
    {protocol : VpnProtocol} {ip : Ipv4} {table : AcctTable Bytes}
    (erased : ∀ other session, sessions.lookup other = some session ↔
      other ≠ sid ∧ net.radius.sessions.lookup other = some session)
    (counted : ∀ backend address, table.Counted backend address ↔
      ¬ (backend = protocol ∧ address = ip) ∧
        net.table.Counted backend address) :
    (∀ other session, sessions.lookup other = some session →
      table.Counted session.protocol session.ip) ↔
      net.radius.SoleOn sid protocol ip := by
  constructor
  · intro still other session found backend address
    by_contra differs
    have kept := still other session ((erased other session).mpr
      ⟨differs, found⟩)
    exact ((counted _ _).mp kept).1 ⟨backend, address⟩
  · intro sole other session found
    obtain ⟨differs, old⟩ := (erased other session).mp found
    apply (counted _ _).mpr
    refine ⟨fun same => differs ?_, covered other session old⟩
    exact sole other session old same.1 same.2

theorem covered_stop_iff (covered : net.Covered) {packet : AcctPacket}
    {email : String} {now : Nat} (status : packet.status = .stop) :
    (net.apply (net.radius.handleAcct packet email now)).Covered ↔
      net.FreesOwn (.acct packet email now) := by
  rcases net.radius.handleAcct_cases packet email now with
    ⟨quiet, out⟩ | ⟨ip, pending, counting, -⟩ |
      ⟨session, ⟨-, other⟩, known, out⟩ |
      ⟨ip, ⟨-, other⟩, ⟨unknown, framed⟩, out⟩
  · rw [out]
    refine ⟨fun _ _ other => ?_, fun _ => covered⟩
    rcases quiet with auth | counting | ⟨unknown, frameless⟩
    · exact absurd auth other
    · exact absurd status counting
    · rw [unknown]
      intro ip framed
      rw [frameless] at framed
      cases framed
  · exact absurd status counting
  · rw [out]
    simp only [FreesOwn, status, known, ne_eq, other, not_false_eq_true,
      forall_const]
    apply covered_remove_iff covered
    · intro sid found
      exact KeyMap.lookup_erase_eq_some
    · intro backend address
      exact AcctTable.counted_removeClientAccounting.trans
        (and_congr_right' AcctTable.counted_perform_fold)
  · rw [out]
    simp only [FreesOwn, status, unknown, framed, ne_eq, other,
      not_false_eq_true, forall_const, Option.some.injEq, forall_eq']
    apply covered_remove_iff covered
    · intro sid found
      constructor
      · intro present
        refine ⟨fun same => ?_, present⟩
        have absent := present.symm.trans (same ▸ unknown)
        cases absent
      · exact And.right
    · intro backend address
      exact AcctTable.counted_removeClientAccounting

theorem covered_sweep_iff (covered : net.Covered)
    {active : String → RadiusSession → Bool} :
    (net.apply (net.radius.cleanStaleSessions active)).Covered ↔
      net.FreesOwn (.sweep active) := by
  have swept : (net.apply (net.radius.cleanStaleSessions active)).Covered ↔
      ∀ other survivor, net.radius.sessions.lookup other = some survivor →
        active other survivor = true →
        ∀ sid session, net.radius.sessions.lookup sid = some session →
          active sid session = false →
            ¬ (survivor.protocol = session.protocol ∧
              survivor.ip = session.ip) := by
    unfold Covered apply RadiusService.cleanStaleSessions
    simp only [KeyMap.lookup_retain_eq_some, AcctTable.counted_removeAll,
      List.mem_filter, Bool.not_eq_true']
    constructor
    · intro still other survivor found alive sid session known stale
      exact (still other survivor ⟨found, alive⟩).1 ⟨sid, session⟩
        ⟨KeyMap.mem_entries_iff.mpr known, stale⟩
    · intro apart other survivor found
      refine ⟨fun entry listed => ?_, covered other survivor found.1⟩
      exact apart other survivor found.1 found.2 entry.1 entry.2
        (KeyMap.mem_entries_iff.mp listed.1) listed.2
  rw [swept]
  constructor
  · intro apart sid session known stale other survivor found alive
    exact apart other survivor found alive sid session known stale
  · intro apart other survivor found alive sid session known stale
    exact apart sid session known stale other survivor found alive

theorem handleAuth_of_ne {service : RadiusService} {dial : Dial}
    {host : DialHost} (other : dial.protocol ≠ .openconnect) :
    service.handleAuth dial host =
      ((service.allocateBlockIP dial host).service,
        (service.allocateBlockIP dial host).effects) := by
  unfold RadiusService.handleAuth
  cases backend : dial.protocol with
  | openconnect => exact absurd backend other
  | _ => rfl

theorem counted_evictEffects {service : RadiusService} {dial : Dial}
    {table : AcctTable Bytes} {victimSID : String} {ip : Ipv4}
    {backend : VpnProtocol} {address : Ipv4} :
    (table.performAll (service.evictEffects dial victimSID ip)).Counted
        backend address ↔
      ¬ (backend = dial.protocol ∧ address = ip) ∧
        table.Counted backend address := by
  unfold RadiusService.evictEffects
  simp only
  split
  · split
    · exact AcctTable.counted_removeClientAccounting
    · exact AcctTable.counted_removeClientAccounting.trans
        (and_congr_right' AcctTable.counted_perform_fold)
  · exact AcctTable.counted_removeClientAccounting

theorem covered_auth_ppp_iff (covered : net.Covered) {dial : Dial}
    {host : DialHost} (other : dial.protocol ≠ .openconnect) :
    (net.apply (net.radius.handleAuth dial host)).Covered ↔
      net.FreesOwn (.auth dial host) := by
  rw [handleAuth_of_ne other]
  cases redialed : net.radius.redialIP? dial with
  | some ip =>
      rw [RadiusService.allocateBlockIP_of_claim redialed]
      constructor
      · intro _ _ fresh
        rw [redialed] at fresh
        cases fresh
      · intro _ sid session found
        simp only [apply, RadiusService.redial_sessions other] at found
        exact covered sid session found
  | none =>
      rw [RadiusService.allocateBlockIP_of_no_claim redialed,
        RadiusService.prepared_of_ne other]
      by_cases evicting : ∃ victimSID ip,
          (net.radius.settled dial host.now).Evicts dial host victimSID ip
      · obtain ⟨victimSID, ip, evicts⟩ := evicting
        have guard : net.FreesOwn (.auth dial host) ↔
            net.radius.SoleOn victimSID dial.protocol ip := by
          constructor
          · intro frees
            exact frees other redialed victimSID ip evicts
          · intro sole _ _ sid address evictsToo
            have same := evicts.2.2.2.symm.trans evictsToo.2.2.2
            obtain ⟨rfl, sameIP⟩ := Prod.mk.inj same
            obtain rfl := Option.some.inj sameIP
            exact sole
        rw [guard, RadiusService.chooseSlot_of_evicts evicts]
        apply covered_remove_iff covered
        · intro sid session
          simp only [apply, RadiusService.evict,
            RadiusService.assign_sessions other,
            RadiusService.settled_sessions]
          exact KeyMap.lookup_erase_eq_some
        · intro backend address
          exact counted_evictEffects
      · have spares : ∀ victimSID ip,
            ¬ (net.radius.settled dial host.now).Evicts dial host
              victimSID ip :=
          fun victimSID ip evicts => evicting ⟨victimSID, ip, evicts⟩
        constructor
        · intro _ _ _ victimSID ip evicts
          exact absurd evicts (spares victimSID ip)
        · intro _ sid session found
          rcases RadiusService.chooseSlot_of_not_evicts []
              spares with ⟨ip, -, out⟩ | out
          · rw [out] at found ⊢
            simp only [apply, RadiusService.assign_sessions other,
              RadiusService.settled_sessions] at found
            exact covered sid session found
          · rw [out] at found ⊢
            simp only [apply, RadiusService.settled_sessions] at found
            exact covered sid session found

theorem covered_reclaimStale {host : DialHost}
    {state : RadiusService × List Effect} {ip : Ipv4}
    (keyed : state.1.Keyed) (covered : (net.apply state).Covered) :
    (net.apply (RadiusService.reclaimStale host state ip)).Covered := by
  unfold RadiusService.reclaimStale
  split
  · exact covered
  · split
    · exact covered
    · split
      · exact covered
      · intro sid session found
        obtain ⟨differs, known⟩ := KeyMap.lookup_erase_eq_some.mp found
        simp only [apply, AcctTable.performAll_append]
        apply AcctTable.counted_removeClientAccounting.mpr
        refine ⟨fun same => differs ?_, covered sid session known⟩
        rw [← same.2]
        exact keyed sid session known same.1

theorem covered_prepared {dial : Dial} {host : DialHost}
    (keyed : net.radius.Keyed) (covered : net.Covered) :
    (net.apply (net.radius.prepared dial host)).Covered := by
  have folded : ∀ (ips : List Ipv4) (state : RadiusService × List Effect),
      state.1.Keyed → (net.apply state).Covered →
        (net.apply
          (ips.foldl (RadiusService.reclaimStale host) state)).Covered := by
    intro ips
    induction ips with
    | nil => exact fun _ _ => id
    | cons head tail induction =>
        intro state before still
        exact induction _ before.reclaimStale
          (covered_reclaimStale before still)
  have pruned : (net.radius.pruneStations dial host.now).Keyed := by
    intro sid session found
    rw [RadiusService.pruneStations_sessions] at found
    exact keyed sid session found
  have start : (net.apply (net.radius.pruneStations dial host.now,
      [])).Covered := by
    intro sid session found
    simp only [apply, RadiusService.pruneStations_sessions] at found
    exact covered sid session found
  unfold RadiusService.prepared RadiusService.reconcileOC
  split
  · exact folded dial.blockIPs _ pruned start
  · exact start

/-- A grant followed by the counters of its address covers what was covered,
that address apart. -/
theorem covered_assign {service : RadiusService} {dial : Dial} {now : Nat}
    {ip : Ipv4} {table : AcctTable Bytes} (paired : table.Paired)
    (same : dial.protocol = .openconnect)
    (covered : ∀ sid session, service.sessions.lookup sid = some session →
      ¬ (session.protocol = .openconnect ∧ session.ip = ip) →
        table.Counted session.protocol session.ip) :
    Covered ⟨service.assign dial now ip,
      table.addClientAccounting .openconnect ip⟩ := by
  intro sid session found
  by_cases here : session.protocol = .openconnect ∧ session.ip = ip
  · simp only [here]
    exact AcctTable.Counted.add paired
  · rcases RadiusService.assign_lookup found with
      ⟨old, known, backend, onIP⟩ | ⟨-, backend, onIP⟩
    · rw [backend, onIP] at here ⊢
      exact (covered sid old known here).mono_add paired
    · exact absurd ⟨backend.trans same, onIP⟩ here

theorem covered_auth_openconnect (covered : net.Covered) (filed : net.Filed)
    {dial : Dial} {host : DialHost} (same : dial.protocol = .openconnect)
    (valid : ∀ ip ∈ dial.blockIPs, ip.Valid) :
    (net.apply (net.radius.handleAuth dial host)).Covered := by
  have ready : (net.apply (net.radius.prepared dial host)).Covered :=
    covered_prepared filed.keyed covered
  have paired : (net.apply (net.radius.prepared dial host)).table.Paired :=
    filed.paired.performAll
  have counts : ∀ {service : RadiusService} {effects : List Effect}
      {ip : Ipv4}, ip ∈ dial.blockIPs →
      net.radius.allocateBlockIP dial host =
        ⟨service, ip.parsed?, false, effects⟩ →
      net.radius.handleAuth dial host =
        (service, effects ++ [.addAccounting .openconnect ip]) := by
    intro service effects ip inBlock out
    unfold RadiusService.handleAuth
    rw [out, same, Ipv4.parsed?, if_pos (valid ip inBlock)]
  have chosen : net.radius.allocateBlockIP dial host =
      (net.radius.prepared dial host).1.chooseSlot dial host
        (net.radius.prepared dial host).2 :=
    RadiusService.allocateBlockIP_of_no_claim
      (RadiusService.redialIP?_openconnect same)
  by_cases evicting : ∃ victimSID ip,
      (net.radius.prepared dial host).1.Evicts dial host victimSID ip
  · obtain ⟨victimSID, ip, evicts⟩ := evicting
    rw [RadiusService.chooseSlot_of_evicts evicts] at chosen
    rw [counts evicts.victim.1 chosen]
    simp only [apply, AcctTable.performAll_append]
    apply covered_assign (AcctTable.Paired.performAll paired) same
    intro sid session found elsewhere
    rw [counted_evictEffects, same]
    exact ⟨elsewhere,
      ready sid session (KeyMap.lookup_erase_eq_some.mp found).2⟩
  · rcases RadiusService.chooseSlot_of_not_evicts
        (net.radius.prepared dial host).2
        (fun victimSID ip evicts => evicting ⟨victimSID, ip, evicts⟩) with
      ⟨ip, inBlock, out⟩ | out
    · rw [out] at chosen
      rw [counts inBlock chosen]
      simp only [apply, AcctTable.performAll_append]
      apply covered_assign paired same
      intro sid session found _
      exact ready sid session found
    · rw [out] at chosen
      unfold RadiusService.handleAuth
      rw [chosen, same]
      exact ready

theorem covered_acct_counting (covered : net.Covered)
    (paired : net.table.Paired) {packet : AcctPacket} {email : String}
    {now : Nat} (status : packet.status ≠ .stop) :
    (net.apply (net.radius.handleAcct packet email now)).Covered := by
  rcases net.radius.handleAcct_cases packet email now with
    ⟨-, out⟩ | ⟨ip, pending, -, -, out⟩ | ⟨session, stop, -⟩ | ⟨ip, stop, -⟩
  · rw [out]
    exact covered
  · rw [out]
    intro sid session found
    rcases KeyMap.lookup_insert_eq_some.mp found with ⟨-, rfl⟩ | ⟨-, old⟩
    · exact AcctTable.Counted.add paired
    · exact (covered sid session old).mono_add paired
  · exact absurd stop.1 status
  · exact absurd stop.1 status

/-- One event keeps every session counted exactly when the counters it deletes
are its own. -/
theorem covered_step_iff {event : MeterEvent} (filed : net.Filed)
    (covered : net.Covered) (stepped : net.step event = some next) :
    next.Covered ↔ net.FreesOwn event := by
  cases event with
  | acct packet email now =>
      rw [← Option.some.inj stepped]
      by_cases status : packet.status = .stop
      · exact covered_stop_iff covered status
      · exact ⟨fun _ stop => absurd stop status,
          fun _ => covered_acct_counting covered filed.paired status⟩
  | auth dial host =>
      simp only [step] at stepped
      split at stepped
      next valid =>
        rw [← Option.some.inj stepped]
        by_cases same : dial.protocol = .openconnect
        · exact ⟨fun _ other => absurd same other,
            fun _ => covered_auth_openconnect covered filed same
              (valid same)⟩
        · exact covered_auth_ppp_iff covered same
      next => cases stepped
  | sweep active =>
      rw [← Option.some.inj stepped]
      exact covered_sweep_iff covered

theorem Filed.step {event : MeterEvent} (filed : net.Filed)
    (stepped : net.step event = some next) : next.Filed := by
  cases event with
  | acct packet email now =>
      rw [← Option.some.inj stepped]
      exact ⟨filed.paired.performAll, filed.keyed.handleAcct⟩
  | auth dial host =>
      simp only [Metered.step] at stepped
      split at stepped
      · rw [← Option.some.inj stepped]
        exact ⟨filed.paired.performAll, filed.keyed.handleAuth⟩
      · cases stepped
  | sweep active =>
      rw [← Option.some.inj stepped]
      refine ⟨filed.paired.performAll, fun sid session found => ?_⟩
      exact filed.keyed sid session (KeyMap.lookup_retain_eq_some.mp found).1

/-- From empty sessions and an empty table, the runs that count every session
throughout are those whose events delete only their own counters. -/
theorem covered_throughout_iff (events : List MeterEvent) :
    (machine Bytes).Throughout Covered initial events ↔
      (machine Bytes).Guarded FreesOwn initial events := by
  refine (machine Bytes).throughout_iff_guarded
    (fun net event next filed stepped => Filed.step filed stepped)
    (fun net event next filed covered stepped =>
      covered_step_iff filed covered stepped) ?_ ?_ ?_
  · intro net event refused
    cases event with
    | auth dial host =>
        intro other
        simp only [machine, Metered.step] at refused
        split at refused
        · cases refused
        next invalid => exact absurd (fun same => absurd same other) invalid
    | _ => cases refused
  · refine ⟨fun _ _ _ _ member => ?_, fun sid session found => ?_⟩
    · cases member
    · cases found
  · intro sid session found
    cases found

end Steps

/-- The Stop of a session whose address a newer session has taken over deletes
the counters of the newer one. -/
theorem uncovered_after_late_stop :
    ¬ ∀ events, (machine Nat).Throughout Covered initial events := by
  intro always
  have covered := (always [
    .acct ⟨.start, "s1", .l2tp, some ⟨⟨10, 0, 0⟩, 2⟩⟩ "alice" 0,
    .acct ⟨.start, "s2", .l2tp, some ⟨⟨10, 0, 0⟩, 2⟩⟩ "alice" 1,
    .acct ⟨.stop, "s1", .l2tp, some ⟨⟨10, 0, 0⟩, 2⟩⟩ "" 2]).final _ rfl
  have counted := covered "s2" ⟨"alice", ⟨⟨10, 0, 0⟩, 2⟩, .l2tp, 1⟩ rfl .up
  exact absurd counted.2 (by decide)

end Metered

end VpnUi.Radius
