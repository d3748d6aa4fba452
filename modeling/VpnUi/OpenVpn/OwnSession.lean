import VpnUi.OpenVpn.SessionId

namespace VpnUi.OpenVpn

open Address Foundation Panel Radius

/-! Which runs of the hooks end every session under the address it was started
with. -/

/-- A connect hook that does no harm: no connected device has its pool address,
and no other lease is left with it; the leases of the connected devices are
within their TTL, and a full block is not opened at the cost of one of them. -/
structure Harmless (hooks : Hooks) (published : Inbound) (username : String)
    (poolIp : PoolIp) (rows otherRows : List StatusRow) : Prop where
  unused : ∀ session ∈ hooks.sessions, session.poolIp ≠ poolIp
  unleased : publishedFile published poolIp.transport username = none →
    ∀ lease ∈ hooks.leases poolIp.transport, lease.poolIp ≠ poolIp.text
  fresh : publishedFile published poolIp.transport username ≠ none →
    ∀ session ∈ hooks.sessions, session.leased = true →
      session.transport = poolIp.transport →
        ∀ lease ∈ hooks.leases poolIp.transport, lease.name = session.ip →
          hooks.now - lease.modTime ≤ leaseTtl
  spared : ∀ file,
    publishedFile published poolIp.transport username = some file →
    let reads := hooks.reads poolIp.transport rows otherRows
    let used := usedCount published username poolIp.transport file.ips reads
    freeCandidate file.ips rows reads.ages used = none →
    ∀ ip, (ovpnDecide file.ips (publishedStrategy published) rows reads.ages
        used).address = some ip →
      ∀ session ∈ hooks.sessions, session.leased = true →
        session.transport = poolIp.transport → session.ip ≠ ip
  alone : ∀ verdict mask,
    ovpnLeaseBlockIP published username poolIp.text
        (hooks.reads poolIp.transport rows otherRows) = some (verdict, mask) →
    ∀ ip, verdict.address = some ip →
      ∀ lease ∈ freshLeases hooks.now (hooks.leases poolIp.transport),
        lease.poolIp = poolIp.text → lease.name = ip

/-- A connect hook does no harm, and the panel writes the files of a transport
anew while no leased device is connected to it. -/
def sessionGuard (hooks : Hooks) : SessionEvent → Prop
  | .openvpnConnect published username poolIp rows otherRows =>
      Harmless hooks published username poolIp rows otherRows
  | .writeClientConfigDir transport =>
      ∀ session ∈ hooks.sessions, session.transport = transport →
        session.leased = false
  | _ => True

/-- A leased session has its lease, no other lease has its pool address, and
every session has ended under its own address. -/
structure Held (hooks : Hooks) : Prop where
  keyed : ∀ transport, ∀ lease ∈ hooks.leases transport,
    ∀ other ∈ hooks.leases transport, lease.name = other.name → lease = other
  trimmed : ∀ transport, ∀ lease ∈ hooks.leases transport,
    trimSpace lease.poolIp.toList = lease.poolIp.toList
  distinct : hooks.sessions.Pairwise fun session other =>
    session.poolIp ≠ other.poolIp
  lease : ∀ session ∈ hooks.sessions, session.leased = true →
    ∃ lease ∈ hooks.leases session.transport,
      lease.name = session.ip ∧ lease.poolIp = session.poolIp.text
  own : ∀ session ∈ hooks.sessions,
    ∀ lease ∈ hooks.leases session.transport,
      lease.poolIp = session.poolIp.text →
        session.leased = true ∧ lease.name = session.ip
  pushed : ∀ session ∈ hooks.sessions, session.leased = false →
    session.ip = session.poolIp.text
  ended : ∀ closed ∈ hooks.ended, closed.2 = closed.1.ip

theorem held_noHooks : Held noHooks where
  keyed := fun _ _ member => nomatch member
  trimmed := fun _ _ member => nomatch member
  distinct := .nil
  lease := fun _ member => nomatch member
  own := fun _ member => nomatch member
  pushed := fun _ member => nomatch member
  ended := fun _ member => nomatch member

theorem freeCandidate_not_mem {candidates : List String}
    {rows : List StatusRow} {ages : List (String × Nat)} {used : Nat}
    {ip : String} (found : freeCandidate candidates rows ages used = some ip) :
    ip ∉ ovpnStatusIPs rows ++ ages.map Prod.fst := by
  rw [freeCandidate, Option.ite_none_right_eq_some] at found
  have free := List.find?_some found.2
  exact of_decide_eq_true free

theorem poolIp_ne_of_mem_eraseIdx {sessions : List Session} {index : Nat}
    {session other : Session}
    (distinct : sessions.Pairwise fun session other =>
      session.poolIp ≠ other.poolIp)
    (found : sessions[index]? = some session)
    (member : other ∈ sessions.eraseIdx index) :
    other.poolIp ≠ session.poolIp := by
  obtain ⟨position, inside, apart, rfl⟩ :=
    List.mem_eraseIdx_iff_getElem.mp member
  obtain ⟨indexInside, rfl⟩ := List.getElem?_eq_some_iff.mp found
  rcases Nat.lt_or_gt_of_ne apart with before | after
  · exact List.pairwise_iff_getElem.mp distinct _ _ _ _ before
  · exact (List.pairwise_iff_getElem.mp distinct _ _ _ _ after).symm

namespace Held

variable {hooks : Hooks} {published : Inbound} {username : String}
  {poolIp : PoolIp} {rows otherRows : List StatusRow} {session : Session}

/-- The disconnect hook recovers the address of the connect hook. -/
theorem recovered (held : Held hooks) (member : session ∈ hooks.sessions) :
    (ovpnRemoveLeaseByPool (hooks.leases session.transport)
      session.poolIp).1.getD session.poolIp.text = session.ip := by
  have trimmed := held.trimmed session.transport
  unfold ovpnRemoveLeaseByPool
  split
  next found seen =>
    obtain ⟨foundMember, same⟩ := leaseByPool_eq_some trimmed seen
    exact (held.own session member found foundMember same).2
  next unseen =>
    refine (held.pushed session member ?_).symm
    by_contra leased
    obtain ⟨lease, leaseMember, -, same⟩ :=
      held.lease session member (Bool.not_eq_false _ ▸ leased)
    exact leaseByPool_eq_none trimmed unseen leaseMember same

/-- The directory may lose the leases of no open session, and a session may
leave. -/
theorem weaken (held : Held hooks) {later : Hooks}
    (leases : ∀ transport, ∀ lease ∈ later.leases transport,
      lease ∈ hooks.leases transport)
    (sessions : List.Sublist later.sessions hooks.sessions)
    (kept : ∀ session ∈ later.sessions, session.leased = true →
      ∀ lease ∈ hooks.leases session.transport,
        lease.name = session.ip → lease.poolIp = session.poolIp.text →
          lease ∈ later.leases session.transport)
    (ended : ∀ closed ∈ later.ended, closed.2 = closed.1.ip) :
    Held later where
  keyed transport lease member other otherMember :=
    held.keyed transport lease (leases transport lease member) other
      (leases transport other otherMember)
  trimmed transport lease member :=
    held.trimmed transport lease (leases transport lease member)
  distinct := held.distinct.sublist sessions
  lease session member leased := by
    obtain ⟨lease, leaseMember, name, pool⟩ :=
      held.lease session (sessions.subset member) leased
    exact ⟨lease, kept session member leased lease leaseMember name pool, name,
      pool⟩
  own session member lease leaseMember :=
    held.own session (sessions.subset member) lease
      (leases session.transport lease leaseMember)
  pushed session member := held.pushed session (sessions.subset member)
  ended := ended

theorem openvpnDisconnect (held : Held hooks) {index : Nat}
    (found : hooks.sessions[index]? = some session) :
    Held (hooks.openvpnDisconnect index session) := by
  have member : session ∈ hooks.sessions := List.mem_of_getElem? found
  refine held.weaken ?_ (List.eraseIdx_sublist _ _) ?_ ?_
  · intro transport lease leaseMember
    rw [Hooks.openvpnDisconnect] at leaseMember
    simp only [Hooks.setLeases_leases] at leaseMember
    split at leaseMember
    next same =>
      rw [same]
      exact mem_of_mem_ovpnRemoveLeaseByPool leaseMember
    next => exact leaseMember
  · intro other otherMember _ lease leaseMember _ pool
    rw [Hooks.openvpnDisconnect]
    simp only [Hooks.setLeases_leases]
    split
    next same =>
      rw [same] at leaseMember
      refine mem_ovpnRemoveLeaseByPool (held.keyed _) (held.trimmed _)
        leaseMember ?_
      rw [pool]
      intro sameText
      exact poolIp_ne_of_mem_eraseIdx held.distinct found otherMember
        (PoolIp.ext_text sameText)
    next => exact leaseMember
  · intro closed closedMember
    rcases List.mem_cons.mp closedMember with rfl | old
    · exact held.recovered member
    · exact held.ended closed old

/-- The hook keeps the leases of the connected devices, and takes none of their
addresses. -/
theorem kept (held : Held hooks)
    (harmless : Harmless hooks published username poolIp rows otherRows)
    {file : BlockFile}
    (given : publishedFile published poolIp.transport username = some file)
    (member : session ∈ hooks.sessions) (leased : session.leased = true)
    (same : session.transport = poolIp.transport) :
    (∀ lease ∈ hooks.leases poolIp.transport, lease.name = session.ip →
      lease ∈ freshLeases hooks.now (hooks.leases poolIp.transport)) ∧
    ∀ verdict mask,
      ovpnLeaseBlockIP published username poolIp.text
          (hooks.reads poolIp.transport rows otherRows) =
        some (verdict, mask) →
      ∀ ip, verdict.address = some ip → session.ip ≠ ip := by
  have fresh : ∀ lease ∈ hooks.leases poolIp.transport,
      lease.name = session.ip →
        lease ∈ freshLeases hooks.now (hooks.leases poolIp.transport) := by
    intro lease leaseMember name
    exact mem_freshLeases.mpr ⟨leaseMember,
      harmless.fresh (by rw [given]; nofun) session member leased same lease
        leaseMember name⟩
  refine ⟨fresh, ?_⟩
  intro verdict mask decided ip address taken
  rw [ovpnLeaseBlockIP, show protoOf poolIp.text = poolIp.transport from rfl,
    given] at decided
  obtain ⟨rfl, -⟩ := Prod.mk.inj (Option.some.inj decided)
  cases free : freeCandidate file.ips rows
      (hooks.reads poolIp.transport rows otherRows).ages
      (usedCount published username poolIp.transport file.ips
        (hooks.reads poolIp.transport rows otherRows)) with
  | none =>
      exact harmless.spared file given free ip address session member leased
        same taken
  | some candidate =>
      obtain ⟨lease, leaseMember, name, -⟩ :=
        held.lease session member leased
      rw [same] at leaseMember
      have listed := name_mem_leaseAges (fresh lease leaseMember name)
      have decided : candidate = ip := by
        rw [ovpnDecide] at address
        simp only [Hooks.reads] at address free
        rw [free] at address
        exact Option.some.inj address
      refine freeCandidate_not_mem free ?_
      rw [decided, ← taken, ← name]
      exact List.mem_append_right _ listed

/-- A device that keeps its pool address. -/
theorem admitted (held : Held hooks)
    (unused : ∀ session ∈ hooks.sessions, session.poolIp ≠ poolIp)
    (unleased : ∀ lease ∈ hooks.leases poolIp.transport,
      lease.poolIp ≠ poolIp.text) :
    Held { hooks with
      sessions := ⟨username, poolIp, poolIp.text, false⟩ :: hooks.sessions } where
  keyed := held.keyed
  trimmed := held.trimmed
  distinct := .cons (fun session member => (unused session member).symm)
    held.distinct
  lease := List.forall_mem_cons.mpr ⟨nofun, held.lease⟩
  own := List.forall_mem_cons.mpr
    ⟨fun lease member pool => absurd pool (unleased lease member), held.own⟩
  pushed := List.forall_mem_cons.mpr ⟨fun _ => rfl, held.pushed⟩
  ended := held.ended

/-- A device that is granted an address, the lease of which is written. -/
theorem grant (held : Held hooks) {ip : String}
    (unused : ∀ session ∈ hooks.sessions, session.poolIp ≠ poolIp)
    (spared : ∀ session ∈ hooks.sessions, session.leased = true →
      session.transport = poolIp.transport → session.ip ≠ ip)
    (alone : ∀ lease ∈ hooks.leases poolIp.transport,
      lease.poolIp = poolIp.text → lease.name = ip) :
    Held { hooks.setLeases poolIp.transport
        (ovpnWriteLease (hooks.leases poolIp.transport) ip poolIp.text
          hooks.now) with
      sessions := ⟨username, poolIp, ip, true⟩ :: hooks.sessions } where
  keyed transport lease member other otherMember name := by
    simp only [Hooks.setLeases_leases] at member otherMember
    split at member
    next same =>
      rw [if_pos same] at otherMember
      rcases mem_ovpnWriteLease.mp member with rfl | ⟨old, differs⟩ <;>
        rcases mem_ovpnWriteLease.mp otherMember with
          rfl | ⟨otherOld, otherDiffers⟩
      · rfl
      · exact absurd name.symm otherDiffers
      · exact absurd name differs
      · exact held.keyed _ lease old other otherOld name
    next apart =>
      rw [if_neg apart] at otherMember
      exact held.keyed transport lease member other otherMember name
  trimmed transport lease member := by
    simp only [Hooks.setLeases_leases] at member
    split at member
    next =>
      rcases mem_ovpnWriteLease.mp member with rfl | ⟨old, -⟩
      · exact poolIp.trimmed
      · exact held.trimmed _ lease old
    next => exact held.trimmed transport lease member
  distinct := .cons (fun session member => (unused session member).symm)
    held.distinct
  lease := by
    refine List.forall_mem_cons.mpr ⟨fun _ => ?_, ?_⟩
    · refine ⟨⟨ip, poolIp.text, hooks.now⟩, ?_, rfl, rfl⟩
      simp only [Hooks.setLeases_leases]
      rw [if_pos (show Session.transport ⟨username, poolIp, ip, true⟩ =
        poolIp.transport from rfl)]
      exact mem_ovpnWriteLease.mpr (.inl rfl)
    · intro session member leased
      obtain ⟨lease, leaseMember, name, pool⟩ :=
        held.lease session member leased
      refine ⟨lease, ?_, name, pool⟩
      simp only [Hooks.setLeases_leases]
      split
      next same =>
        rw [same] at leaseMember
        refine mem_ovpnWriteLease.mpr (.inr ⟨leaseMember, ?_⟩)
        rw [name]
        exact spared session member leased same
      next => exact leaseMember
  own := by
    refine List.forall_mem_cons.mpr ⟨?_, ?_⟩
    · intro lease member pool
      simp only [Hooks.setLeases_leases] at member
      rw [if_pos (show Session.transport ⟨username, poolIp, ip, true⟩ =
        poolIp.transport from rfl)] at member
      rcases mem_ovpnWriteLease.mp member with rfl | ⟨old, differs⟩
      · exact ⟨rfl, rfl⟩
      · exact absurd (alone lease old pool) differs
    · intro session member lease leaseMember pool
      simp only [Hooks.setLeases_leases] at leaseMember
      split at leaseMember
      next same =>
        rcases mem_ovpnWriteLease.mp leaseMember with rfl | ⟨old, -⟩
        · exact absurd (PoolIp.ext_text pool.symm) (unused session member)
        · exact held.own session member lease (by rwa [same]) pool
      next => exact held.own session member lease leaseMember pool
  pushed := List.forall_mem_cons.mpr ⟨nofun, held.pushed⟩
  ended := held.ended

/-- A hook that lists the leases removes the stale ones. -/
theorem sweep (held : Held hooks) {transport : Transport}
    (fresh : ∀ session ∈ hooks.sessions, session.leased = true →
      session.transport = transport →
        ∀ lease ∈ hooks.leases transport, lease.name = session.ip →
          lease ∈ freshLeases hooks.now (hooks.leases transport)) :
    Held (hooks.setLeases transport
      (freshLeases hooks.now (hooks.leases transport))) := by
  refine held.weaken ?_ (List.Sublist.refl _) ?_ held.ended
  · intro other lease member
    rw [Hooks.setLeases_leases] at member
    split at member
    next same =>
      rw [same]
      exact (mem_freshLeases.mp member).1
    next => exact member
  · intro session member leased lease leaseMember name _
    rw [Hooks.setLeases_leases]
    split
    next same =>
      rw [same] at leaseMember
      exact fresh session member leased same lease leaseMember name
    next => exact leaseMember

theorem openvpnConnect (held : Held hooks)
    (harmless : Harmless hooks published username poolIp rows otherRows) :
    Held (hooks.openvpnConnect published username poolIp rows otherRows) := by
  cases decided : ovpnLeaseBlockIP published username poolIp.text
      (hooks.reads poolIp.transport rows otherRows) with
  | none =>
      simp only [Hooks.openvpnConnect, decided]
      exact held.admitted harmless.unused
        (harmless.unleased (Option.map_eq_none_iff.mp decided))
  | some pushed =>
      obtain ⟨verdict, mask⟩ := pushed
      obtain ⟨file, given, -⟩ := Option.map_eq_some_iff.mp decided
      have kept := fun session (member : session ∈ hooks.sessions) =>
        held.kept harmless given member
      have swept := held.sweep fun session member leased same =>
        (kept session member leased same).1
      cases address : verdict.address with
      | none =>
          simp only [Hooks.openvpnConnect, decided, address]
          exact swept
      | some ip =>
          have granted := @swept.grant _ username poolIp ip harmless.unused
            (fun session member leased same =>
              (kept session member leased same).2 verdict mask decided ip
                address)
            (by
              intro lease member pool
              rw [Hooks.setLeases_leases, if_pos rfl] at member
              exact harmless.alone verdict mask decided ip address lease member
                pool)
          simp only [Hooks.openvpnConnect, decided, address]
          simpa only [Hooks.setLeases, Function.update_idem,
            Function.update_self] using granted

/-- What one guarded step preserves. -/
theorem step (held : Held hooks) {event : SessionEvent} {later : Hooks}
    (guarded : sessionGuard hooks event)
    (stepped : sessionMachine.step hooks event = some later) : Held later := by
  simp only [sessionMachine] at stepped
  cases event with
  | openvpnConnect published username poolIp rows otherRows =>
      simp only [stepSession, Option.ite_none_left_eq_some,
        Option.some.injEq] at stepped
      obtain ⟨-, rfl⟩ := stepped
      exact held.openvpnConnect guarded
  | openvpnDisconnect index =>
      obtain ⟨session, found, rfl⟩ := Option.map_eq_some_iff.mp stepped
      exact held.openvpnDisconnect found
  | tick elapsed =>
      obtain rfl := Option.some.inj stepped
      exact { held with }
  | vanish index =>
      obtain rfl := Option.some.inj stepped
      exact held.weaken (fun _ _ member => member) (List.eraseIdx_sublist _ _)
        (fun _ _ _ _ member _ _ => member) held.ended
  | writeClientConfigDir transport =>
      obtain rfl := Option.some.inj stepped
      refine held.weaken ?_ (List.Sublist.refl _) ?_ held.ended
      · intro other lease member
        rw [Hooks.setLeases_leases] at member
        split at member
        · cases member
        · exact member
      · intro session member leased lease leaseMember _ _
        rw [Hooks.setLeases_leases]
        split
        next same => exact absurd leased (by rw [guarded session member same]; nofun)
        next => exact leaseMember

end Held

theorem endsOwn_of_eq (inboundId : Int) {session : Session} {ip : String}
    (same : ip = session.ip) : EndsOwn inboundId session ip := by
  subst same
  refine ⟨rfl, ?_⟩
  intro service email now entry known
  rw [RadiusService.handleAcct, if_neg (fun other => nomatch other)]
  simp only [stopPacket, RadiusService.acctStop, known]

/-- In a run whose connect hooks do no harm, every Acct-Stop ends the session
of its Acct-Start. -/
theorem acctStops_endOwn (inboundId : Int) (events : List SessionEvent)
    (guarded : sessionMachine.Guarded sessionGuard noHooks events) :
    sessionMachine.Throughout (AllEndOwn inboundId) noHooks events := by
  have held := sessionMachine.throughout_of_guarded
    (fun _ _ _ held guarded stepped => Held.step held guarded stepped)
    held_noHooks guarded
  refine held.imp _ ?_
  intro hooks held closed member
  exact endsOwn_of_eq inboundId (held.ended closed member)

/-- The first device does no harm. -/
theorem harmless_noHooks (published : Inbound) (username : String)
    (poolIp : PoolIp) (rows otherRows : List StatusRow) :
    Harmless noHooks published username poolIp rows otherRows where
  unused := fun _ member => nomatch member
  unleased := fun _ _ member => nomatch member
  fresh := fun _ _ member => nomatch member
  spared := fun _ _ _ _ _ _ member => nomatch member
  alone := fun _ _ _ _ _ _ member => nomatch member

/-- Two accounts with a device cap of two. -/
def twoAccounts : Inbound where
  id := 7
  listen := ""
  port := 1194
  protocol := .vpn .openvpn
  settings := .parsed (.obj [
    ("userLimit", .int 2),
    ("clients", .arr [
      .obj [("id", .str "ann"), ("enable", .bool true)],
      .obj [("id", .str "bob"), ("enable", .bool true)]])])
  enable := true
  tag := "inbound-1194"

def firstPool : PoolIp := ⟨"10.2.7.2", by decide, by decide⟩

def secondPool : PoolIp := ⟨"10.2.7.3", by decide, by decide⟩

def bobSession : Session := ⟨"bob", firstPool, "10.2.7.4", true⟩

/-- A device connects and leaves. -/
def shortSession : List SessionEvent :=
  [.openvpnConnect twoAccounts "bob" firstPool [] [], .openvpnDisconnect 0]

/-- A device of another account connects half a minute after the first one. -/
def longSession : List SessionEvent :=
  [.openvpnConnect twoAccounts "bob" firstPool [] [],
    .tick 31000,
    .openvpnConnect twoAccounts "ann" secondPool
      [⟨"198.51.100.9:4000", "10.2.7.4", 1700000000⟩] [],
    .openvpnDisconnect 1]

theorem shortSession_endsOwn :
    (sessionMachine.run noHooks shortSession).map Hooks.ended =
      some [(bobSession, "10.2.7.4")] ∧
    sessionMachine.Throughout (AllEndOwn 7) noHooks shortSession :=
  ⟨rfl, acctStops_endOwn 7 shortSession
    ⟨harmless_noHooks twoAccounts "bob" firstPool [] [], fun _ _ =>
      ⟨trivial, fun _ _ => trivial⟩⟩⟩

/-- The lease of the first device is gone when it leaves, and its Acct-Stop
names its pool address. -/
theorem longSession_lost :
    (sessionMachine.run noHooks longSession).map Hooks.ended =
      some [(bobSession, "10.2.7.2")] ∧
    ¬ sessionMachine.Throughout (AllEndOwn 7) noHooks longSession := by
  have ended : (sessionMachine.run noHooks longSession).map Hooks.ended =
      some [(bobSession, "10.2.7.2")] := by decide +kernel
  refine ⟨ended, ?_⟩
  intro throughout
  obtain ⟨hooks, reached, same⟩ := Option.map_eq_some_iff.mp ended
  have own := throughout.final _ reached (bobSession, "10.2.7.2")
    (by rw [same]; exact List.mem_cons_self)
  exact absurd own.1 (by decide)

end VpnUi.OpenVpn
