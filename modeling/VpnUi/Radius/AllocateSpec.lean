import VpnUi.Radius.Allocate

namespace VpnUi.Radius

open Foundation Panel Address

namespace RadiusService

variable {service : RadiusService} {dial : Dial} {host : DialHost}
  {now : Nat} {ip : Ipv4}

theorem isUsed_iff : service.isUsed ip = true ↔
    (∃ sid session, service.sessions.lookup sid = some session ∧
      session.ip = ip) ∨
    ∃ leased, service.pending.lookup ip = some leased := by
  unfold isUsed
  rw [Bool.or_eq_true, List.any_eq_true, Option.isSome_iff_exists]
  refine or_congr_left ⟨?_, ?_⟩
  · rintro ⟨⟨sid, session⟩, member, same⟩
    exact ⟨sid, session, KeyMap.mem_entries_iff.mp member,
      eq_of_beq same⟩
  · rintro ⟨sid, session, found, same⟩
    exact ⟨⟨sid, session⟩, KeyMap.mem_entries_iff.mpr found, by simp [same]⟩

theorem freeSlot?_eq_some {blockIPs : List Ipv4}
    (free : service.freeSlot? blockIPs = some ip) :
    service.isUsed ip = false ∧ ∃ before after,
      blockIPs = before ++ ip :: after ∧
        ∀ earlier ∈ before, service.isUsed earlier = true := by
  obtain ⟨unused, before, after, split, used⟩ :=
    List.find?_eq_some_iff_append.mp free
  refine ⟨by simpa using unused, before, after, split, ?_⟩
  intro earlier member
  simpa using used earlier member

theorem freeSlot?_eq_none {blockIPs : List Ipv4} :
    service.freeSlot? blockIPs = none ↔
      ∀ ip ∈ blockIPs, service.isUsed ip = true := by
  simp [freeSlot?]

/-- The ghost a prefix of the block has left behind: the oldest of its leases
past the grace. -/
def OldestGhost (service : RadiusService) (now : Nat) (blockIPs : List Ipv4) :
    Option (Ipv4 × Nat) → Prop
  | none => ∀ ip ∈ blockIPs, ∀ leased,
      service.pending.lookup ip = some leased →
      now - leased ≤ pendingReclaimGrace
  | some (ghost, oldest) =>
      ghost ∈ blockIPs ∧ service.pending.lookup ghost = some oldest ∧
      pendingReclaimGrace < now - oldest ∧
      ∀ ip ∈ blockIPs, ∀ leased, service.pending.lookup ip = some leased →
        oldest ≤ leased ∨ now - leased ≤ pendingReclaimGrace

private theorem olderGhost_oldest (ip : Ipv4) {blockIPs : List Ipv4}
    {ghost : Option (Ipv4 × Nat)}
    (oldest : service.OldestGhost now blockIPs ghost) :
    service.OldestGhost now (blockIPs ++ [ip])
      (service.olderGhost now ghost ip) := by
  unfold olderGhost
  cases lease : service.pending.lookup ip with
  | none =>
      cases ghost <;> grind [OldestGhost]
  | some leased =>
      cases ghost with
      | none => grind [OldestGhost]
      | some chosen => grind [OldestGhost]

private theorem foldl_olderGhost_oldest (rest : List Ipv4)
    {prior : List Ipv4} {ghost : Option (Ipv4 × Nat)}
    (oldest : service.OldestGhost now prior ghost) :
    service.OldestGhost now (prior ++ rest)
      (rest.foldl (service.olderGhost now) ghost) := by
  induction rest generalizing prior ghost with
  | nil => simpa using oldest
  | cons head tail induction =>
      have next := induction (olderGhost_oldest head oldest)
      simpa using next

theorem ghostLease?_eq_some {blockIPs : List Ipv4}
    (ghost : service.ghostLease? now blockIPs = some ip) :
    ip ∈ blockIPs ∧ ∃ oldest, service.pending.lookup ip = some oldest ∧
      pendingReclaimGrace < now - oldest ∧
      ∀ other ∈ blockIPs, ∀ leased,
        service.pending.lookup other = some leased →
          oldest ≤ leased ∨ now - leased ≤ pendingReclaimGrace := by
  obtain ⟨⟨found, leased⟩, folded, rfl⟩ := Option.map_eq_some_iff.mp ghost
  have start : service.OldestGhost now [] none := by
    simp [OldestGhost]
  have chosen := foldl_olderGhost_oldest blockIPs start
  rw [folded] at chosen
  exact ⟨chosen.1, leased, chosen.2⟩

theorem ghostLease?_eq_none {blockIPs : List Ipv4}
    (none : service.ghostLease? now blockIPs = none) {leased : Nat}
    (member : ip ∈ blockIPs) (lease : service.pending.lookup ip = some leased) :
    now - leased ≤ pendingReclaimGrace := by
  have start : service.OldestGhost now [] .none := by
    simp [OldestGhost]
  have chosen := foldl_olderGhost_oldest blockIPs start
  rw [Option.map_eq_none_iff.mp none] at chosen
  exact chosen ip member leased lease

theorem redialIP?_eq_some (redialed : service.redialIP? dial = some ip) :
    ∃ skey, dial.skey? = some skey ∧
      service.stationIP.lookup skey = some ip ∧ ip ∈ dial.blockIPs := by
  unfold redialIP? at redialed
  split at redialed
  · cases redialed
  · obtain ⟨skey, keyed, claimed⟩ := Option.bind_eq_some_iff.mp redialed
    obtain ⟨found, inBlock⟩ := Option.filter_eq_some_iff.mp claimed
    exact ⟨skey, keyed, found, by simpa using inBlock⟩

@[simp] theorem recordOC_of_ne (other : dial.protocol ≠ .openconnect) :
    service.recordOC dial now ip = service := by
  simp [recordOC, other]

@[simp] theorem pruneStations_sessions :
    (service.pruneStations dial now).sessions = service.sessions := by
  unfold pruneStations
  split <;> rfl

@[simp] theorem pruneStations_pending :
    (service.pruneStations dial now).pending = service.pending := by
  unfold pruneStations
  split <;> rfl

theorem pruneStations_stationIP {key : StationKey}
    (claimed : (service.pruneStations dial now).stationIP.lookup key =
      some ip) :
    service.stationIP.lookup key = some ip := by
  unfold pruneStations at claimed
  split at claimed
  · exact claimed
  · exact (KeyMap.lookup_retain_eq_some.mp claimed).1

@[simp] theorem expirePending_sessions :
    (service.expirePending now).sessions = service.sessions := rfl

@[simp] theorem expirePending_stationIP :
    (service.expirePending now).stationIP = service.stationIP := rfl

theorem expirePending_pending {leased : Nat} :
    (service.expirePending now).pending.lookup ip = some leased ↔
      service.pending.lookup ip = some leased ∧
        now - leased ≤ pendingLeaseTTL := by
  simp [expirePending, KeyMap.lookup_retain_eq_some]

/-- The service as the slot search of a PPP dial finds it. -/
def settled (service : RadiusService) (dial : Dial) (now : Nat) :
    RadiusService :=
  (service.pruneStations dial now).expirePending now

@[simp] theorem settled_sessions :
    (service.settled dial now).sessions = service.sessions := by
  simp [settled]

theorem settled_pending {leased : Nat} :
    (service.settled dial now).pending.lookup ip = some leased ↔
      service.pending.lookup ip = some leased ∧
        now - leased ≤ pendingLeaseTTL := by
  simp [settled, expirePending_pending]

theorem settled_stationIP {key : StationKey}
    (claimed : (service.settled dial now).stationIP.lookup key = some ip) :
    service.stationIP.lookup key = some ip :=
  pruneStations_stationIP claimed

/-- The dial finds its block full and evicts the session `victimSID`. -/
def Evicts (service : RadiusService) (dial : Dial) (host : DialHost)
    (victimSID : String) (victimIP : Ipv4) : Prop :=
  service.freeSlot? dial.blockIPs = none ∧
  service.ghostLease? host.now dial.blockIPs = none ∧
  dial.strategy = .accept ∧
  oldestBlockSession (host.iterate service.sessions) dial.blockIPs =
    (victimSID, some victimIP)

theorem chooseSlot_of_evicts {effects : List Effect} {victimSID : String}
    (evicts : service.Evicts dial host victimSID ip) :
    service.chooseSlot dial host effects =
      ⟨service.evict dial host.now victimSID ip, ip.parsed?, false,
        effects ++ service.evictEffects dial victimSID ip⟩ := by
  obtain ⟨full, noGhost, accept, oldest⟩ := evicts
  simp only [chooseSlot, full, noGhost, accept, oldest]

theorem chooseSlot_of_not_evicts (effects : List Effect)
    (spares : ∀ victimSID ip, ¬ service.Evicts dial host victimSID ip) :
    (∃ ip ∈ dial.blockIPs, service.chooseSlot dial host effects =
      ⟨service.assign dial host.now ip, ip.parsed?, false, effects⟩) ∨
    service.chooseSlot dial host effects =
      ⟨service, none, true, effects⟩ := by
  unfold chooseSlot
  cases free : service.freeSlot? dial.blockIPs with
  | some ip => exact .inl ⟨ip, List.mem_of_find?_eq_some free, rfl⟩
  | none =>
      cases ghost : service.ghostLease? host.now dial.blockIPs with
      | some ip => exact .inl ⟨ip, (ghostLease?_eq_some ghost).1, rfl⟩
      | none =>
          cases strategy : dial.strategy with
          | reject => exact .inr rfl
          | accept =>
              obtain ⟨victimSID, victim, same⟩ : ∃ victimSID victim,
                  oldestBlockSession (host.iterate service.sessions)
                    dial.blockIPs = (victimSID, victim) :=
                ⟨_, _, rfl⟩
              cases victim with
              | none =>
                  refine .inr ?_
                  simp only [same]
              | some victimIP =>
                  exact absurd ⟨free, ghost, strategy, same⟩
                    (spares victimSID victimIP)

theorem olderSession_mem {blockIPs : List Ipv4}
    {order : List (String × RadiusSession)}
    {oldest : String × Option Ipv4 × Nat} {victimSID : String}
    {victimIP : Ipv4} {started : Nat}
    (folded : order.foldl (olderSession blockIPs) oldest =
      (victimSID, some victimIP, started)) :
    oldest = (victimSID, some victimIP, started) ∨
      ∃ session, (victimSID, session) ∈ order ∧ session.ip = victimIP ∧
        victimIP ∈ blockIPs := by
  induction order generalizing oldest with
  | nil => exact .inl folded
  | cons entry rest induction =>
      rcases induction folded with chosen | ⟨session, member, same⟩
      · unfold olderSession at chosen
        split at chosen
        next inBlock =>
          split at chosen
          · obtain ⟨sid, onIP⟩ := Prod.mk.inj chosen
            obtain ⟨sameIP, -⟩ := Prod.mk.inj onIP
            have onVictim := Option.some.inj sameIP
            refine .inr ⟨entry.2, ?_, onVictim, ?_⟩
            · rw [← sid]
              exact List.mem_cons_self
            · rw [← onVictim]
              simpa using inBlock
          · exact .inl chosen
        next => exact .inl chosen
      · exact .inr ⟨session, List.mem_cons_of_mem _ member, same⟩

/-- The victim is a recorded session on its block address. -/
theorem Evicts.victim {victimSID : String}
    (evicts : service.Evicts dial host victimSID ip) :
    ip ∈ dial.blockIPs ∧ ∃ session,
      service.sessions.lookup victimSID = some session ∧ session.ip = ip := by
  have chosen := evicts.2.2.2
  unfold oldestBlockSession at chosen
  simp only [Prod.mk.injEq] at chosen
  have folded : (host.iterate service.sessions).foldl
      (olderSession dial.blockIPs) ("", none, 0) =
      (victimSID, some ip, ((host.iterate service.sessions).foldl
        (olderSession dial.blockIPs) ("", none, 0)).2.2) := by
    rw [← chosen.1, ← chosen.2]
  rcases olderSession_mem folded with impossible | ⟨session, member, onIP,
      inBlock⟩
  · have sameIP := congrArg (fun oldest => oldest.2.1) impossible
    cases sameIP
  · refine ⟨inBlock, session, ?_, onIP⟩
    have listed := (host.iterate_perm service.sessions).mem_iff.mp member
    obtain ⟨entry, present, same⟩ := List.mem_map.mp listed
    cases same
    exact KeyMap.mem_entries_iff.mp present

/-- The service a dial without a claim to reuse searches, with the effects of
the OpenConnect reclaim. -/
def prepared (service : RadiusService) (dial : Dial) (host : DialHost) :
    RadiusService × List Effect :=
  (((service.pruneStations dial host.now).reconcileOC dial
      host).1.expirePending host.now,
    ((service.pruneStations dial host.now).reconcileOC dial host).2)

theorem allocateBlockIP_of_claim (redialed : service.redialIP? dial = some ip) :
    service.allocateBlockIP dial host =
      ⟨service.redial dial host.now ip, ip.parsed?, false, []⟩ := by
  simp only [allocateBlockIP, redialed]

theorem allocateBlockIP_of_no_claim (fresh : service.redialIP? dial = none) :
    service.allocateBlockIP dial host =
      (service.prepared dial host).1.chooseSlot dial host
        (service.prepared dial host).2 := by
  simp only [allocateBlockIP, fresh, prepared]

theorem prepared_of_ne (other : dial.protocol ≠ .openconnect) :
    service.prepared dial host = (service.settled dial host.now, []) := by
  simp [prepared, reconcileOC, other, settled]

/-- Everything a dial with strategy "reject" can do, OpenConnect apart: reuse
the claim of its key, take a free or an abandoned slot, or be denied. -/
theorem allocateBlockIP_reject (service : RadiusService) (dial : Dial)
    (host : DialHost)
    (other : dial.protocol ≠ .openconnect)
    (reject : dial.strategy = .reject) :
    (∃ ip, service.redialIP? dial = some ip ∧
      service.allocateBlockIP dial host =
        ⟨service.redial dial host.now ip, ip.parsed?, false, []⟩) ∨
    (service.redialIP? dial = none ∧ ∃ ip,
      ((service.settled dial host.now).freeSlot? dial.blockIPs = some ip ∨
        (service.settled dial host.now).freeSlot? dial.blockIPs = none ∧
        (service.settled dial host.now).ghostLease? host.now dial.blockIPs =
          some ip) ∧
      service.allocateBlockIP dial host =
        ⟨(service.settled dial host.now).assign dial host.now ip,
          ip.parsed?, false, []⟩) ∨
    (service.redialIP? dial = none ∧
      service.allocateBlockIP dial host =
        ⟨service.settled dial host.now, none, true, []⟩) := by
  cases redialed : service.redialIP? dial with
  | some ip => exact .inl ⟨ip, rfl, allocateBlockIP_of_claim redialed⟩
  | none =>
      refine .inr ?_
      rw [allocateBlockIP_of_no_claim redialed, prepared_of_ne other]
      unfold chooseSlot
      cases free : (service.settled dial host.now).freeSlot?
          dial.blockIPs with
      | some ip => exact .inl ⟨rfl, ip, .inl rfl, rfl⟩
      | none =>
          cases ghost : (service.settled dial host.now).ghostLease? host.now
              dial.blockIPs with
          | some ip => exact .inl ⟨rfl, ip, .inr ⟨rfl, rfl⟩, rfl⟩
          | none => exact .inr ⟨rfl, by simp only [reject]⟩

section Assign

variable {skey : StationKey}

/-- A grant records a session of its own at most, and renames the others. -/
theorem recordOC_lookup {sid : String} {session : RadiusSession}
    (found : (service.recordOC dial now ip).sessions.lookup sid =
      some session) :
    (∃ old, service.sessions.lookup sid = some old ∧
      session.protocol = old.protocol ∧ session.ip = old.ip) ∨
    (sid = ocSessionKey ip ∧ session.protocol = dial.protocol ∧
      session.ip = ip) := by
  unfold recordOC at found
  split at found
  next =>
    simp only at found
    split at found
    next existing known =>
      split at found
      · exact .inl ⟨session, found, rfl, rfl⟩
      · rcases KeyMap.lookup_insert_eq_some.mp found with ⟨rfl, rfl⟩ |
          ⟨-, old⟩
        · exact .inl ⟨existing, known, rfl, rfl⟩
        · exact .inl ⟨session, old, rfl, rfl⟩
    next =>
      rcases KeyMap.lookup_insert_eq_some.mp found with ⟨rfl, rfl⟩ |
        ⟨-, old⟩
      · exact .inr ⟨rfl, rfl, rfl⟩
      · exact .inl ⟨session, old, rfl, rfl⟩
  next => exact .inl ⟨session, found, rfl, rfl⟩

theorem assign_lookup {sid : String} {session : RadiusSession}
    (found : (service.assign dial now ip).sessions.lookup sid =
      some session) :
    (∃ old, service.sessions.lookup sid = some old ∧
      session.protocol = old.protocol ∧ session.ip = old.ip) ∨
    (sid = ocSessionKey ip ∧ session.protocol = dial.protocol ∧
      session.ip = ip) := by
  unfold assign at found
  have either := recordOC_lookup found
  cases keyed : dial.skey? with
  | none => simpa only [keyed] using either
  | some skey => simpa only [keyed, claimStation] using either

variable (keyed : dial.skey? = some skey)
  (other : dial.protocol ≠ .openconnect)

include keyed other

omit keyed in
theorem assign_sessions :
    (service.assign dial now ip).sessions = service.sessions := by
  unfold assign
  cases dial.skey? <;> simp [other, claimStation]

theorem assign_pending :
    (service.assign dial now ip).pending = service.pending.insert ip now := by
  simp [assign, keyed, other, claimStation]

theorem assign_stationIP {key : StationKey} {claimed : Ipv4} :
    (service.assign dial now ip).stationIP.lookup key = some claimed ↔
      (key = skey ∧ claimed = ip) ∨
        (key ≠ skey ∧ claimed ≠ ip ∧
          service.stationIP.lookup key = some claimed) := by
  simp only [assign, keyed, recordOC_of_ne other, claimStation,
    KeyMap.lookup_insert_eq_some, KeyMap.lookup_retain_eq_some]
  refine or_congr_right ?_
  constructor
  · rintro ⟨differs, found, kept⟩
    exact ⟨differs, by simpa [differs] using kept, found⟩
  · rintro ⟨differs, apart, found⟩
    exact ⟨differs, found, by simp [apart]⟩

omit keyed in
theorem redial_sessions :
    (service.redial dial now ip).sessions = service.sessions := by
  simp [redial, other]

omit keyed in
theorem redial_pending :
    (service.redial dial now ip).pending = service.pending.insert ip now := by
  simp [redial, other]

omit keyed in
theorem redial_stationIP :
    (service.redial dial now ip).stationIP = service.stationIP := by
  simp [redial, other]

end Assign

section Keyed

/-- An OpenConnect session is filed under its own address. -/
def Keyed (service : RadiusService) : Prop :=
  ∀ sid session, service.sessions.lookup sid = some session →
    session.protocol = .openconnect → sid = ocSessionKey session.ip

theorem Keyed.of_lookup {other : RadiusService} (keyed : service.Keyed)
    (kept : ∀ sid session, other.sessions.lookup sid = some session →
      (∃ old, service.sessions.lookup sid = some old ∧
        session.protocol = old.protocol ∧ session.ip = old.ip) ∨
      (sid = ocSessionKey ip ∧ session.protocol = dial.protocol ∧
        session.ip = ip)) :
    other.Keyed := by
  intro sid session found same
  rcases kept sid session found with ⟨old, known, backend, onIP⟩ |
    ⟨named, -, onIP⟩
  · rw [onIP]
    exact keyed sid old known (backend ▸ same)
  · rw [named, onIP]

theorem Keyed.assign (keyed : service.Keyed) :
    (service.assign dial now ip).Keyed :=
  keyed.of_lookup fun _ _ => assign_lookup

theorem Keyed.erase {sid : String} (keyed : service.Keyed) :
    Keyed { service with sessions := service.sessions.erase sid } :=
  fun other session found =>
    keyed other session (KeyMap.lookup_erase_eq_some.mp found).2

theorem Keyed.reclaimStale {state : RadiusService × List Effect}
    (keyed : state.1.Keyed) : (reclaimStale host state ip).1.Keyed := by
  unfold RadiusService.reclaimStale
  split
  · exact keyed
  · split
    · exact keyed
    · split
      · exact keyed
      · exact keyed.erase

theorem Keyed.prepared (keyed : service.Keyed) :
    (service.prepared dial host).1.Keyed := by
  have pruned : (service.pruneStations dial host.now).Keyed := by
    intro sid session found
    rw [pruneStations_sessions] at found
    exact keyed sid session found
  have folded : ∀ (ips : List Ipv4) (state : RadiusService × List Effect),
      state.1.Keyed →
        (ips.foldl (RadiusService.reclaimStale host) state).1.Keyed := by
    intro ips
    induction ips with
    | nil => exact fun _ => id
    | cons head tail induction =>
        exact fun state before => induction _ before.reclaimStale
  unfold RadiusService.prepared reconcileOC
  split
  · exact folded dial.blockIPs _ pruned
  · exact pruned

theorem Keyed.chooseSlot {effects : List Effect} (keyed : service.Keyed) :
    (service.chooseSlot dial host effects).service.Keyed := by
  by_cases evicting : ∃ victimSID ip,
      service.Evicts dial host victimSID ip
  · obtain ⟨victimSID, ip, evicts⟩ := evicting
    rw [chooseSlot_of_evicts evicts]
    exact keyed.erase.assign
  · rcases chooseSlot_of_not_evicts effects
        (fun victimSID ip evicts => evicting ⟨victimSID, ip, evicts⟩) with
      ⟨ip, -, out⟩ | out
    · rw [out]
      exact keyed.assign
    · rw [out]
      exact keyed

theorem redialIP?_openconnect (same : dial.protocol = .openconnect) :
    service.redialIP? dial = none := by
  rw [redialIP?, if_pos (.inl same)]

theorem Keyed.allocateBlockIP (keyed : service.Keyed) :
    (service.allocateBlockIP dial host).service.Keyed := by
  cases redialed : service.redialIP? dial with
  | none =>
      rw [allocateBlockIP_of_no_claim redialed]
      exact keyed.prepared.chooseSlot
  | some ip =>
      have other : dial.protocol ≠ .openconnect := by
        intro same
        rw [redialIP?_openconnect same] at redialed
        cases redialed
      rw [allocateBlockIP_of_claim redialed]
      intro sid session found
      rw [redial_sessions other] at found
      exact keyed sid session found

end Keyed

end RadiusService

end VpnUi.Radius
