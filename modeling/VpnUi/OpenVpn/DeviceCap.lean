import Mathlib.Data.List.Perm.Subperm
import VpnUi.OpenVpn.ConnectHook

namespace VpnUi.OpenVpn

open Address Foundation

/-! The device cap of an account over both transports: it holds as long as the
hooks of the two transports take turns. -/

/-- At most `limit` devices, no two of one transport on one address. -/
structure Capped (account : Account) (server : Server) : Prop where
  total : (server.connected .udp).length + (server.connected .tcp).length ≤
    account.limit
  nodup : ∀ transport, (server.connected transport).Nodup

/-- The rows of a transport's status file read by a hook that has not listed
the leases of that transport yet. -/
def readRows (server : Server) (transport : Transport) :
    List (List StatusRow) :=
  (match server.holder transport with
    | some ⟨_, .statusRead rows⟩ => [rows]
    | _ => []) ++
  match server.holder (otherProto transport) with
    | some ⟨_, .otherStatusRead _ _ others⟩ => [others]
    | _ => []

/-- A hook takes its lock while no hook of the other transport runs, and no
lease of a device goes between a hook's reading of a status file without the
device and its listing of the leases. -/
def TakesTurns (server : Server) : HookEvent → Prop
  | .connect poolIp => server.holder (otherProto (protoOf poolIp)) = none
  | .tick elapsed =>
      ∀ transport, ∀ rows ∈ readRows server transport,
        ∀ ip ∈ server.connected transport, ip ∈ ovpnStatusIPs rows ∨
          ip ∈ ovpnLeasedIPs (server.now + elapsed) (server.leases transport)
  | .removeLease transport name =>
      ∀ rows ∈ readRows server transport, name ∈ server.connected transport →
        name ∈ ovpnStatusIPs rows
  | _ => True

instance (server : Server) (event : HookEvent) :
    Decidable (TakesTurns server event) :=
  match event with
  | .connect poolIp =>
      decidable_of_iff
        ((server.holder (otherProto (protoOf poolIp))).isNone = true)
        Option.isNone_iff_eq_none
  | .advance _ => isTrue trivial
  | .tick _ => inferInstanceAs (Decidable (∀ _ : Transport, ∀ _ ∈ _, _))
  | .rewriteStatus _ _ => isTrue trivial
  | .disconnect _ _ => isTrue trivial
  | .removeLease _ _ => inferInstanceAs (Decidable (∀ _ ∈ _, _ → _))

theorem otherProto_ne (transport : Transport) :
    otherProto transport ≠ transport := by
  cases transport <;> decide

@[simp] theorem otherProto_otherProto (transport : Transport) :
    otherProto (otherProto transport) = transport := by
  cases transport <;> rfl

theorem eq_or_eq_otherProto (transport reference : Transport) :
    transport = reference ∨ transport = otherProto reference := by
  cases transport <;> cases reference <;> simp [otherProto]

/-- Every connected device of the transport is in the status rows or has a
fresh lease. -/
def Server.Shows (server : Server) (transport : Transport)
    (rows : List StatusRow) : Prop :=
  ∀ ip ∈ server.connected transport, ip ∈ ovpnStatusIPs rows ∨
    ip ∈ ovpnLeasedIPs server.now (server.leases transport)

def Server.Within (server : Server) (transport : Transport)
    (inUse : List String) : Prop :=
  ∀ ip ∈ server.connected transport, ip ∈ inUse

/-- What a hook has read accounts for every connected device. -/
def Server.Accounts (server : Server) (transport : Transport) : Stage → Prop
  | .locked => True
  | .statusRead rows => server.Shows transport rows
  | .leasesListed rows ages =>
      server.Within transport (ovpnStatusIPs rows ++ ages.map Prod.fst)
  | .otherStatusRead rows ages others =>
      server.Within transport (ovpnStatusIPs rows ++ ages.map Prod.fst) ∧
        server.Shows (otherProto transport) others
  | .counted rows ages used =>
      server.Within transport (ovpnStatusIPs rows ++ ages.map Prod.fst) ∧
        (server.connected transport).length +
          (server.connected (otherProto transport)).length ≤ used

structure HookInvariant (account : Account) (server : Server) : Prop where
  total : ∀ transport, (server.connected transport).length +
    (server.connected (otherProto transport)).length ≤ account.limit
  nodup : ∀ transport, (server.connected transport).Nodup
  inBlock : ∀ transport,
    server.Within transport (account.candidates transport)
  shown : ∀ transport, server.Shows transport (server.status transport)
  alone : ∀ transport hook, server.holder transport = some hook →
    server.holder (otherProto transport) = none
  sound : ∀ transport hook, server.holder transport = some hook →
    server.Accounts transport hook.stage

namespace HookInvariant

variable {account : Account} {server : Server}

theorem capped (invariant : HookInvariant account server) :
    Capped account server :=
  ⟨invariant.total .udp, invariant.nodup⟩

theorem initial (account : Account) : HookInvariant account emptyServer where
  total := fun _ => Nat.zero_le _
  nodup := fun _ => List.nodup_nil
  inBlock := fun _ _ member => by cases member
  shown := fun _ _ member => by cases member
  alone := fun _ _ held => by cases held
  sound := fun _ _ held => by cases held

/-- The hook that holds a lock goes on, or releases it. -/
theorem setHolder (invariant : HookInvariant account server)
    {transport : Transport} {hook : Hook} {next : Option Hook}
    (held : server.holder transport = some hook)
    (sound : ∀ later, next = some later →
      server.Accounts transport later.stage) :
    HookInvariant account { server with
      holder := Function.update server.holder transport next } where
  total := invariant.total
  nodup := invariant.nodup
  inBlock := invariant.inBlock
  shown := invariant.shown
  alone := by
    intro other later otherHeld
    dsimp only at otherHeld ⊢
    have free := invariant.alone transport hook held
    rcases eq_or_eq_otherProto other transport with rfl | rfl
    · rw [Function.update_of_ne (otherProto_ne other)]
      exact free
    · rw [Function.update_of_ne (otherProto_ne transport), free] at otherHeld
      cases otherHeld
  sound := by
    intro other later otherHeld
    dsimp only at otherHeld
    rcases eq_or_eq_otherProto other transport with rfl | rfl
    · rw [Function.update_self] at otherHeld
      exact sound later otherHeld
    · rw [Function.update_of_ne (otherProto_ne transport)] at otherHeld
      exact invariant.sound _ later otherHeld

theorem ovpnLeasedIPs_fresh (now : Nat) (leases : List LeaseFile) :
    ovpnLeasedIPs now (leases.filter fun lease =>
      now - lease.modTime ≤ leaseTtl) = ovpnLeasedIPs now leases := by
  simp [ovpnLeasedIPs, leaseAges, List.filter_filter]

/-- A hook takes the free lock while the other transport has no hook. -/
theorem enter (invariant : HookInvariant account server)
    {transport : Transport} {poolIp : String}
    (free : server.holder transport = none)
    (otherFree : server.holder (otherProto transport) = none) :
    HookInvariant account { server with
      holder := Function.update server.holder transport
        (some ⟨poolIp, .locked⟩) } where
  total := invariant.total
  nodup := invariant.nodup
  inBlock := invariant.inBlock
  shown := invariant.shown
  alone := by
    intro other later otherHeld
    dsimp only at otherHeld ⊢
    rcases eq_or_eq_otherProto other transport with rfl | rfl
    · rw [Function.update_of_ne (otherProto_ne other)]
      exact otherFree
    · rw [Function.update_of_ne (otherProto_ne transport), otherFree]
        at otherHeld
      cases otherHeld
  sound := by
    intro other later otherHeld
    dsimp only at otherHeld
    rcases eq_or_eq_otherProto other transport with rfl | rfl
    · rw [Function.update_self] at otherHeld
      obtain rfl := Option.some.inj otherHeld
      trivial
    · rw [Function.update_of_ne (otherProto_ne transport), otherFree]
        at otherHeld
      cases otherHeld

/-- Stale leases may go. -/
theorem dropStale (invariant : HookInvariant account server)
    (transport : Transport) :
    HookInvariant account { server with
      leases := Function.update server.leases transport
        ((server.leases transport).filter fun lease =>
          server.now - lease.modTime ≤ leaseTtl) } := by
  have same : ∀ other, ovpnLeasedIPs server.now
      (Function.update server.leases transport
        ((server.leases transport).filter fun lease =>
          server.now - lease.modTime ≤ leaseTtl) other) =
        ovpnLeasedIPs server.now (server.leases other) := by
    intro other
    rcases eq_or_eq_otherProto other transport with rfl | rfl
    · rw [Function.update_self, ovpnLeasedIPs_fresh]
    · rw [Function.update_of_ne (otherProto_ne transport)]
  refine ⟨invariant.total, invariant.nodup, invariant.inBlock, ?_,
    invariant.alone, ?_⟩
  · intro other ip member
    rw [same other]
    exact invariant.shown other ip member
  · intro other hook held
    have sound := invariant.sound other hook held
    cases stage : hook.stage with
    | locked => trivial
    | statusRead rows =>
        rw [stage] at sound
        intro ip member
        rw [same other]
        exact sound ip member
    | leasesListed rows ages =>
        rw [stage] at sound
        exact sound
    | otherStatusRead rows ages others =>
        rw [stage] at sound
        refine ⟨sound.1, fun ip member => ?_⟩
        rw [same (otherProto other)]
        exact sound.2 ip member
    | counted rows ages used =>
        rw [stage] at sound
        exact sound

theorem length_le_occupied {candidates inUse devices : List String}
    (nodup : devices.Nodup) (inBlock : ∀ ip ∈ devices, ip ∈ candidates)
    (within : ∀ ip ∈ devices, ip ∈ inUse) :
    devices.length ≤ occupied candidates inUse := by
  apply List.Subperm.length_le
  apply List.subperm_of_subset nodup
  intro ip member
  exact List.mem_filter.mpr ⟨inBlock ip member, by simpa using within ip member⟩

theorem mem_ovpnLeasedIPs {now : Nat} {leases : List LeaseFile} {ip : String} :
    ip ∈ ovpnLeasedIPs now leases ↔
      ∃ lease ∈ leases, now - lease.modTime ≤ leaseTtl ∧ lease.name = ip := by
  simp [ovpnLeasedIPs, leaseAges, and_assoc]

theorem leased_ovpnWriteLease {now : Nat} {leases : List LeaseFile}
    {ip written poolIp : String} :
    ip ∈ ovpnLeasedIPs now (ovpnWriteLease leases written poolIp now) ↔
      ip = written ∨ ip ∈ ovpnLeasedIPs now leases := by
  simp only [mem_ovpnLeasedIPs, ovpnWriteLease, List.mem_cons,
    List.mem_filter, decide_eq_true_eq]
  constructor
  · rintro ⟨lease, rfl | ⟨listed, -⟩, fresh, rfl⟩
    · exact .inl rfl
    · exact .inr ⟨lease, listed, fresh, rfl⟩
  · rintro (rfl | ⟨lease, listed, fresh, rfl⟩)
    · exact ⟨_, .inl rfl, by simp, rfl⟩
    · by_cases same : lease.name = written
      · exact ⟨_, .inl rfl, by simp, same.symm⟩
      · exact ⟨lease, .inr ⟨listed, same⟩, fresh, rfl⟩

/-- A device is admitted on an address of the block that no device has. -/
theorem grant (invariant : HookInvariant account server)
    {transport : Transport} {hook : Hook}
    (held : server.holder transport = some hook) {ip : String}
    (candidate : ip ∈ account.candidates transport)
    (unused : ip ∉ server.connected transport)
    (room : (server.connected transport).length +
      (server.connected (otherProto transport)).length < account.limit)
    (poolIp : String) :
    HookInvariant account { server with
      holder := Function.update server.holder transport none
      leases := Function.update server.leases transport
        (ovpnWriteLease (server.leases transport) ip poolIp server.now)
      connected := Function.update server.connected transport
        (ip :: server.connected transport) } := by
  have away := otherProto_ne transport
  have free := invariant.alone transport hook held
  refine ⟨?_, ?_, ?_, ?_, ?_, ?_⟩
  · intro other
    dsimp only
    rcases eq_or_eq_otherProto other transport with rfl | rfl
    · rw [Function.update_self, Function.update_of_ne away, List.length_cons]
      omega
    · rw [otherProto_otherProto, Function.update_self,
        Function.update_of_ne away, List.length_cons]
      omega
  · intro other
    dsimp only
    rcases eq_or_eq_otherProto other transport with rfl | rfl
    · rw [Function.update_self]
      exact List.nodup_cons.mpr ⟨unused, invariant.nodup other⟩
    · rw [Function.update_of_ne away]
      exact invariant.nodup _
  · intro other
    rw [Server.Within]
    dsimp only
    rcases eq_or_eq_otherProto other transport with rfl | rfl
    · rw [Function.update_self]
      exact List.forall_mem_cons.mpr ⟨candidate, invariant.inBlock other⟩
    · rw [Function.update_of_ne away]
      exact invariant.inBlock _
  · intro other
    rw [Server.Shows]
    dsimp only
    rcases eq_or_eq_otherProto other transport with rfl | rfl
    · rw [Function.update_self, Function.update_self]
      refine List.forall_mem_cons.mpr ⟨.inr ?_, fun device member => ?_⟩
      · exact leased_ovpnWriteLease.mpr (.inl rfl)
      · exact (invariant.shown other device member).imp_right fun leased =>
          leased_ovpnWriteLease.mpr (.inr leased)
    · rw [Function.update_of_ne away, Function.update_of_ne away]
      exact invariant.shown _
  · intro other later otherHeld
    dsimp only at otherHeld
    rcases eq_or_eq_otherProto other transport with rfl | rfl
    · rw [Function.update_self] at otherHeld
      cases otherHeld
    · rw [Function.update_of_ne away, free] at otherHeld
      cases otherHeld
  · intro other later otherHeld
    dsimp only at otherHeld
    rcases eq_or_eq_otherProto other transport with rfl | rfl
    · rw [Function.update_self] at otherHeld
      cases otherHeld
    · rw [Function.update_of_ne away, free] at otherHeld
      cases otherHeld

/-- A rejecting account either leases an unused address or refuses. -/
theorem ovpnDecide_of_reject {candidates : List String} {rows : List StatusRow}
    {ages : List (String × Nat)} {used : Nat} :
    ovpnDecide candidates .reject rows ages used = .reject ∨
      ∃ ip ∈ candidates, ip ∉ ovpnStatusIPs rows ++ ages.map Prod.fst ∧
        used < candidates.length ∧
          ovpnDecide candidates .reject rows ages used = .lease ip := by
  unfold ovpnDecide freeCandidate
  split
  next ip found =>
    split at found
    next room =>
      exact .inr ⟨ip, List.mem_of_find?_eq_some found,
        by simpa using List.find?_some found, room, rfl⟩
    next => cases found
  next => exact .inl rfl

/-- One step of the hook that holds a lock. -/
theorem advance (invariant : HookInvariant account server)
    (rejects : ∀ transport, account.strategy transport = .reject)
    {transport : Transport} {hook : Hook}
    (held : server.holder transport = some hook) :
    HookInvariant account (advanceHook account server transport hook) := by
  have sound := invariant.sound transport hook held
  obtain ⟨poolIp, stage⟩ := hook
  cases stage with
  | locked =>
      apply invariant.setHolder held
      rintro later ⟨⟩
      exact invariant.shown transport
  | statusRead rows =>
      have listed : HookInvariant account { server with
          holder := Function.update server.holder transport
            (some ⟨poolIp, .leasesListed rows
              (leaseAges server.now (server.leases transport))⟩) } := by
        apply invariant.setHolder held
        rintro later ⟨⟩ ip member
        exact List.mem_append.mpr (sound ip member)
      exact listed.dropStale transport
  | leasesListed rows ages =>
      apply invariant.setHolder held
      rintro later ⟨⟩
      exact ⟨sound, invariant.shown (otherProto transport)⟩
  | otherStatusRead rows ages others =>
      apply invariant.setHolder held
      rintro later ⟨⟩
      refine ⟨sound.1, Nat.add_le_add ?_ ?_⟩
      · exact length_le_occupied (invariant.nodup transport)
          (invariant.inBlock transport) sound.1
      · exact length_le_occupied (invariant.nodup _) (invariant.inBlock _)
          fun ip member => List.mem_append.mpr (sound.2 ip member)
  | counted rows ages used =>
      simp only [advanceHook, rejects transport]
      rcases ovpnDecide_of_reject with
        refused | ⟨ip, candidate, unused, room, leased⟩
      · rw [refused]
        apply invariant.setHolder held
        rintro later ⟨⟩
      · rw [leased]
        apply invariant.grant held candidate
        · exact fun connected => unused (sound.1 ip connected)
        · rw [account.length_candidates] at room
          exact Nat.lt_of_le_of_lt sound.2 room

/-- What changes when time passes, a status file is rewritten, a device leaves
or a lease is removed: no hook moves and no device comes. -/
theorem of_frame (invariant : HookInvariant account server) {next : Server}
    (holder : next.holder = server.holder)
    (fewer : ∀ transport, (next.connected transport).Sublist
      (server.connected transport))
    (shown : ∀ transport, next.Shows transport (next.status transport))
    (read : ∀ transport, ∀ rows ∈ readRows server transport,
      next.Shows transport rows) :
    HookInvariant account next where
  total := fun transport => Nat.le_trans
    (Nat.add_le_add (fewer transport).length_le (fewer _).length_le)
    (invariant.total transport)
  nodup := fun transport => (invariant.nodup transport).sublist (fewer transport)
  inBlock := fun transport ip member =>
    invariant.inBlock transport ip ((fewer transport).subset member)
  shown := shown
  alone := by
    rw [holder]
    exact invariant.alone
  sound := by
    rw [holder]
    intro transport hook held
    have sound := invariant.sound transport hook held
    have own := read transport
    have others := read (otherProto transport)
    obtain ⟨poolIp, stage⟩ := hook
    cases stage with
    | locked => trivial
    | statusRead rows =>
        exact own rows (by simp [readRows, held])
    | leasesListed rows ages =>
        exact fun ip member => sound ip ((fewer transport).subset member)
    | otherStatusRead rows ages otherRows =>
        refine ⟨fun ip member => sound.1 ip ((fewer transport).subset member), ?_⟩
        exact others otherRows (by simp [readRows, held])
    | counted rows ages used =>
        refine ⟨fun ip member => sound.1 ip ((fewer transport).subset member), ?_⟩
        exact Nat.le_trans
          (Nat.add_le_add (fewer transport).length_le (fewer _).length_le)
          sound.2

/-- The rows a hook has read show every device. -/
theorem shows_readRows (invariant : HookInvariant account server)
    {transport : Transport} {rows : List StatusRow}
    (read : rows ∈ readRows server transport) :
    server.Shows transport rows := by
  rcases List.mem_append.mp read with own | other
  · split at own
    next poolIp found held =>
      obtain rfl := List.mem_singleton.mp own
      exact invariant.sound transport _ held
    next => cases own
  · split at other
    next poolIp held rows ages found =>
      obtain rfl := List.mem_singleton.mp other
      have sound := invariant.sound _ _ found
      rw [Server.Accounts, otherProto_otherProto] at sound
      exact sound.2
    next => cases other

/-- Every step that takes its turn keeps the invariant. -/
theorem step (invariant : HookInvariant account server)
    (rejects : ∀ transport, account.strategy transport = .reject)
    {event : HookEvent} {next : Server} (turn : TakesTurns server event)
    (stepped : stepHook account server event = some next) :
    HookInvariant account next := by
  cases event with
  | connect poolIp =>
      simp only [stepHook] at stepped
      split at stepped
      next => cases stepped
      next free =>
        obtain rfl := Option.some.inj stepped
        exact invariant.enter free turn
  | advance transport =>
      obtain ⟨hook, held, rfl⟩ := Option.map_eq_some_iff.mp stepped
      exact invariant.advance rejects held
  | tick elapsed =>
      simp only [stepHook, Option.ite_none_right_eq_some] at stepped
      obtain ⟨listed, same⟩ := stepped
      obtain rfl := Option.some.inj same
      refine invariant.of_frame rfl (fun _ => List.Sublist.refl _) ?_ ?_
      · exact listed
      · exact turn
  | rewriteStatus transport rows =>
      simp only [stepHook, Option.ite_none_right_eq_some] at stepped
      obtain ⟨kept, same⟩ := stepped
      obtain rfl := Option.some.inj same
      refine invariant.of_frame rfl (fun _ => List.Sublist.refl _) ?_ ?_
      · intro other ip member
        dsimp only
        rcases eq_or_eq_otherProto other transport with rfl | rfl
        · rw [Function.update_self]
          exact (invariant.shown other ip member).imp_left (kept ip member)
        · rw [Function.update_of_ne (otherProto_ne transport)]
          exact invariant.shown _ ip member
      · exact fun other rows read => invariant.shows_readRows read
  | disconnect transport ip =>
      obtain rfl := Option.some.inj stepped
      have fewer : ∀ other, List.Sublist
          (Function.update server.connected transport
            ((server.connected transport).erase ip) other)
          (server.connected other) := by
        intro other
        rcases eq_or_eq_otherProto other transport with rfl | rfl
        · rw [Function.update_self]
          exact List.erase_sublist
        · rw [Function.update_of_ne (otherProto_ne transport)]
      refine invariant.of_frame rfl fewer ?_ ?_
      · exact fun other device member =>
          invariant.shown other device ((fewer other).subset member)
      · exact fun other rows read device member =>
          invariant.shows_readRows read device ((fewer other).subset member)
  | removeLease transport name =>
      simp only [stepHook, Option.ite_none_left_eq_some] at stepped
      obtain ⟨listed, same⟩ := stepped
      obtain rfl := Option.some.inj same
      have other_leases : ∀ other ip,
          ip ∈ ovpnLeasedIPs server.now (server.leases other) →
          ¬ (other = transport ∧ ip = name) →
          ip ∈ ovpnLeasedIPs server.now (Function.update server.leases
            transport ((server.leases transport).filter (·.name ≠ name))
              other) := by
        intro other ip leased differs
        rcases eq_or_eq_otherProto other transport with rfl | rfl
        · rw [Function.update_self, mem_ovpnLeasedIPs]
          obtain ⟨lease, member, fresh, rfl⟩ := mem_ovpnLeasedIPs.mp leased
          refine ⟨lease, List.mem_filter.mpr ⟨member, ?_⟩, fresh, rfl⟩
          simpa using differs
        · rw [Function.update_of_ne (otherProto_ne transport)]
          exact leased
      have shows : ∀ other rows, server.Shows other rows →
          (other = transport → name ∈ server.connected transport →
            name ∈ ovpnStatusIPs rows) →
          Server.Shows { server with
            leases := Function.update server.leases transport
              ((server.leases transport).filter (·.name ≠ name)) }
              other rows := by
        intro other rows shown present ip member
        by_cases removed : other = transport ∧ ip = name
        · obtain ⟨rfl, rfl⟩ := removed
          exact .inl (present rfl member)
        · exact (shown ip member).imp_right fun leased =>
            other_leases other ip leased removed
      refine invariant.of_frame rfl (fun _ => List.Sublist.refl _) ?_ ?_
      · intro other
        refine shows other _ (invariant.shown other) ?_
        rintro rfl member
        by_contra unlisted
        exact listed ⟨member, unlisted⟩
      · intro other rows read
        refine shows other rows (invariant.shows_readRows read) ?_
        rintro rfl
        exact turn rows read

end HookInvariant

/-- While the hooks take turns, an account that rejects extra devices stays
within its cap. -/
theorem capped_of_turns (account : Account)
    (rejects : ∀ transport, account.strategy transport = .reject)
    (events : List HookEvent)
    (turns : (hookMachine account).Guarded TakesTurns emptyServer events) :
    (hookMachine account).Throughout (Capped account) emptyServer events := by
  have kept := (hookMachine account).throughout_of_guarded
    (fun _ _ _ invariant turn stepped =>
      HookInvariant.step invariant rejects turn stepped)
    (HookInvariant.initial account) turns
  exact kept.imp _ fun _ => HookInvariant.capped

/-- An account with two addresses on each transport. -/
def twoDevices : Account where
  limit := 2
  mask := "255.255.255.0"
  candidates := fun transport =>
    match transport with
    | .udp => ["10.2.7.2", "10.2.7.3"]
    | .tcp => ["10.3.7.2", "10.3.7.3"]
  strategy := fun _ => .reject
  positive := by decide
  length_candidates := fun transport => by cases transport <;> rfl
  nodup_candidates := fun transport => by cases transport <;> decide

/-- A hook from its lock to its verdict. -/
def wholeHook (poolIp : String) : List HookEvent :=
  .connect poolIp :: List.replicate 5 (.advance (protoOf poolIp))

theorem capped_of_turns_two_devices :
    (hookMachine twoDevices).Throughout (Capped twoDevices) emptyServer
      (wholeHook "10.2.7.100" ++ wholeHook "10.3.7.100" ++
        wholeHook "10.2.7.101") := by
  apply capped_of_turns twoDevices fun _ => rfl
  decide +kernel

/-- Two hooks of different transports read before either has written. -/
def crossedHooks : List HookEvent :=
  wholeHook "10.2.7.100" ++
    [.connect "10.2.7.101", .connect "10.3.7.100"] ++
    List.replicate 4 (.advance .udp) ++ List.replicate 4 (.advance .tcp) ++
    [.advance .udp, .advance .tcp]

theorem crossed_hooks_exceed_cap :
    ∃ account : Account, (∀ transport, account.strategy transport = .reject) ∧
      ∃ events, ¬ (hookMachine account).Throughout (Capped account)
        emptyServer events := by
  refine ⟨twoDevices, fun _ => rfl, crossedHooks, fun throughout => ?_⟩
  have reached : ((hookMachine twoDevices).run emptyServer crossedHooks).map
      (fun server => (server.connected .udp, server.connected .tcp)) =
        some (["10.2.7.3", "10.2.7.2"], ["10.3.7.2"]) := by
    decide +kernel
  obtain ⟨final, finished, devices⟩ := Option.map_eq_some_iff.mp reached
  have total := (throughout.final _ finished).total
  obtain ⟨udp, tcp⟩ := Prod.mk.inj devices
  rw [udp, tcp] at total
  exact absurd total (by decide)

end VpnUi.OpenVpn
