import Mathlib.Combinatorics.Enumerative.DoubleCounting
import VpnUi.Radius.UserLimit

namespace VpnUi.Radius

open Foundation Panel Address

/-! Every run whose dials find their slots sound keeps the cap. -/

namespace Concentrator

variable {accounts : Accounts} {net next : Concentrator}
  {device : StationKey} {ip : Ipv4}

theorem settled_isUsed_iff (accounts : Accounts) (device : StationKey) :
    (net.radius.settled (accounts.dial device) net.now).isUsed ip = true ↔
      net.Occupied ip := by
  rw [RadiusService.isUsed_iff, RadiusService.settled_sessions]
  refine or_congr_right ?_
  simp only [RadiusService.settled_pending]

theorem handleAcct_start (accounts : Accounts) {service : RadiusService}
    {session : LiveSession} {now : Nat}
    (ppp : session.device.protocol ≠ .openconnect) :
    (service.handleAcct (startPacket session)
      (accounts.email session.device.account) now).1 =
      { service with
        sessions := service.sessions.insert session.sessionID
          ⟨accounts.email session.device.account, session.ip,
            session.device.protocol, now⟩
        pending := service.pending.erase session.ip } := by
  simp [RadiusService.handleAcct, RadiusService.acctStart, startPacket, ppp,
    accounts.email_ne]

theorem Holds.later {duration : Nat}
    (held : Holds { net with now := net.now + duration } device ip) :
    net.Holds device ip := by
  cases held with
  | live session member => exact .live session member
  | waiting waiting member young =>
      have earlier : net.now - waiting.since ≤ pendingReclaimGrace := by
        simp only at young
        omega
      exact .waiting waiting member earlier

/-- Fewer holders and fewer claims keep every address exclusive. -/
theorem Exclusive.mono (exclusive : net.Exclusive accounts)
    (held : ∀ device ip, next.Holds device ip → net.Holds device ip)
    (claimed : ∀ key ip, next.radius.stationIP.lookup key = some ip →
      net.radius.stationIP.lookup key = some ip) :
    next.Exclusive accounts where
  claims first second ip former latter :=
    exclusive.claims first second ip (claimed first ip former)
      (claimed second ip latter)
  claimed key device ip claim holder :=
    exclusive.claimed key device ip (claimed key ip claim)
      (held device ip holder)
  holders first second ip former latter :=
    exclusive.holders first second ip (held first ip former)
      (held second ip latter)
  owned device ip holder := exclusive.owned device ip (held device ip holder)

/-- A slot no other device holds may be granted, if the grant takes every
other claim on it away. -/
theorem Exclusive.grant (exclusive : net.Exclusive accounts)
    (ppp : device.protocol ≠ .openconnect)
    (inBlock : ip ∈ accounts.blockIPs device.account)
    (unheld : ∀ other, net.Holds other ip → other = device)
    (held : ∀ other held, next.Holds other held →
      (other = device ∧ held = ip) ∨ net.Holds other held)
    (claimed : ∀ key claim, next.radius.stationIP.lookup key = some claim →
      (key = device ∧ claim = ip) ∨
        (claim ≠ ip ∧ net.radius.stationIP.lookup key = some claim)) :
    next.Exclusive accounts where
  claims first second claim former latter := by
    rcases claimed first claim former with ⟨rfl, rfl⟩ | ⟨apart, old⟩
    · rcases claimed second claim latter with ⟨rfl, -⟩ | ⟨apart, -⟩
      · rfl
      · exact absurd rfl apart
    · rcases claimed second claim latter with ⟨-, same⟩ | ⟨-, older⟩
      · exact absurd same apart
      · exact exclusive.claims first second claim old older
  claimed key holder claim keyed holds := by
    rcases claimed key claim keyed with ⟨rfl, rfl⟩ | ⟨apart, old⟩
    · rcases held holder claim holds with ⟨rfl, -⟩ | before
      · rfl
      · exact (unheld holder before).symm
    · rcases held holder claim holds with ⟨-, same⟩ | before
      · exact absurd same apart
      · exact exclusive.claimed key holder claim old before
  holders first second slot former latter := by
    rcases held first slot former with ⟨rfl, rfl⟩ | before
    · rcases held second slot latter with ⟨rfl, -⟩ | after
      · rfl
      · exact (unheld second after).symm
    · rcases held second slot latter with ⟨rfl, rfl⟩ | after
      · exact unheld first before
      · exact exclusive.holders first second slot before after
  owned holder slot holds := by
    rcases held holder slot holds with ⟨rfl, rfl⟩ | before
    · exact ⟨ppp, inBlock⟩
    · exact exclusive.owned holder slot before

section Dial

variable (consistent : net.Consistent accounts)

include consistent

/-- Forgetting leases and claims is harmless. -/
theorem Consistent.relaxed
    (live : next.live = net.live) (waiting : next.waiting = net.waiting)
    (now : next.now = net.now)
    (sessions : next.radius.sessions = net.radius.sessions)
    (pending : ∀ slot leasedAt,
      next.radius.pending.lookup slot = some leasedAt →
        net.radius.pending.lookup slot = some leasedAt)
    (claimed : ∀ key claim,
      next.radius.stationIP.lookup key = some claim →
        net.radius.stationIP.lookup key = some claim) :
    next.Consistent accounts where
  exclusive := by
    refine consistent.exclusive.mono (fun device ip holds => ?_) claimed
    cases holds with
    | live session member => exact .live session (live ▸ member)
    | waiting kept member young =>
        exact .waiting kept (waiting ▸ member) (now ▸ young)
  tracked :=
    { recorded := by
        rw [live, sessions]
        exact consistent.tracked.recorded
      ids := by
        rw [live]
        exact consistent.tracked.ids
      leased := by
        rw [waiting]
        intro kept member leasedAt lease
        exact consistent.tracked.leased kept member leasedAt
          (pending kept.ip leasedAt lease)
      begun := by
        rw [waiting, now]
        exact consistent.tracked.begun }

/-- The slot search never picks an address another device holds. -/
theorem Consistent.unheld_of_chosen
    (occupied : net.HeldOccupied accounts device)
    (unleased : net.LiveUnleased accounts device)
    (chosen : (net.radius.settled (accounts.dial device) net.now).freeSlot?
        (accounts.blockIPs device.account) = some ip ∨
      (net.radius.settled (accounts.dial device) net.now).freeSlot?
        (accounts.blockIPs device.account) = none ∧
      (net.radius.settled (accounts.dial device) net.now).ghostLease?
        net.now (accounts.blockIPs device.account) = some ip) :
    ip ∈ accounts.blockIPs device.account ∧
      ∀ other, net.Holds other ip → other = device := by
  rcases chosen with free | ⟨full, ghost⟩
  · obtain ⟨unused, before, after, split, used⟩ :=
      RadiusService.freeSlot?_eq_some free
    have inBlock : ip ∈ accounts.blockIPs device.account := by
      rw [split]
      simp
    have unoccupied : ¬ net.Occupied ip := by
      rw [← settled_isUsed_iff accounts device]
      simp [unused]
    refine ⟨inBlock, fun other held => ?_⟩
    cases held with
    | live session member =>
        obtain ⟨record, found, same⟩ :=
          consistent.tracked.recorded session member
        exact absurd (.inl ⟨session.sessionID, record, found, same⟩)
          unoccupied
    | waiting waiting member young =>
        by_contra other
        rcases occupied waiting member other young inBlock with taken |
            ⟨free, earlier, unoccupied⟩
        · exact unoccupied taken
        · rw [split] at earlier
          have inFront : free ∈ before := by
            rw [List.takeWhile_append] at earlier
            split at earlier
            · simpa using earlier
            · exact List.takeWhile_subset _ earlier
          exact unoccupied
            ((settled_isUsed_iff accounts device).mp (used free inFront))
  · obtain ⟨inBlock, oldest, lease, aged, eldest⟩ :=
      RadiusService.ghostLease?_eq_some ghost
    obtain ⟨leased, current⟩ := RadiusService.settled_pending.mp lease
    refine ⟨inBlock, fun other held => ?_⟩
    cases held with
    | live session member =>
        by_contra other
        have everyUsed : ∀ slot ∈ accounts.blockIPs device.account,
            net.Occupied slot := fun slot member =>
          (settled_isUsed_iff accounts device).mp
            (RadiusService.freeSlot?_eq_none.mp full slot member)
        obtain ⟨elder, elderInBlock, earlier, older, elderLease,
            elderCurrent⟩ :=
          unleased everyUsed session member other inBlock oldest leased
            current aged
        have notOlder := eldest elder elderInBlock earlier
          (RadiusService.settled_pending.mpr ⟨elderLease, elderCurrent⟩)
        omega
    | waiting waiting member young =>
        have since := consistent.tracked.leased waiting member oldest leased
        omega

/-- A dial that ends with `device` on `ip`: the two grants of the allocator
have the same effect on the maps. -/
theorem Consistent.granted {radius : RadiusService} {parsed : Option Ipv4}
    (ppp : device.protocol ≠ .openconnect)
    (inBlock : ip ∈ accounts.blockIPs device.account)
    (unheld : ∀ other, net.Holds other ip → other = device)
    (sessions : radius.sessions = net.radius.sessions)
    (pending : ∀ slot leasedAt, radius.pending.lookup slot = some leasedAt →
      (slot = ip ∧ leasedAt = net.now) ∨
        (slot ≠ ip ∧ net.radius.pending.lookup slot = some leasedAt))
    (claimed : ∀ key claim, radius.stationIP.lookup key = some claim →
      (key = device ∧ claim = ip) ∨
        (claim ≠ ip ∧ net.radius.stationIP.lookup key = some claim))
    (same : ∀ slot, parsed = some slot → slot = ip) :
    (net.answer device radius parsed).Consistent accounts := by
  have recorded : ∀ session ∈ net.live, ∃ record,
      radius.sessions.lookup session.sessionID = some record ∧
        record.ip = session.ip := by
    rw [sessions]
    exact consistent.tracked.recorded
  have leased : ∀ waiting ∈ net.waiting, ∀ leasedAt,
      radius.pending.lookup waiting.ip = some leasedAt →
        waiting.since ≤ leasedAt := by
    intro waiting member leasedAt lease
    rcases pending waiting.ip leasedAt lease with ⟨-, rfl⟩ | ⟨-, old⟩
    · exact consistent.tracked.begun waiting member
    · exact consistent.tracked.leased waiting member leasedAt old
  cases parsed with
  | none =>
      refine ⟨consistent.exclusive.grant ppp inBlock unheld ?_ claimed, ?_⟩
      · intro other slot holds
        cases holds with
        | live session member => exact .inr (.live session member)
        | waiting waiting member young =>
            exact .inr (.waiting waiting member young)
      · exact ⟨recorded, consistent.tracked.ids, leased,
          consistent.tracked.begun⟩
  | some slot =>
      obtain rfl := same slot rfl
      refine ⟨consistent.exclusive.grant ppp inBlock unheld ?_ claimed, ?_⟩
      · intro other held holds
        cases holds with
        | live session member => exact .inr (.live session member)
        | waiting waiting member young =>
            rcases List.mem_cons.mp member with rfl | old
            · exact .inl ⟨rfl, rfl⟩
            · exact .inr (.waiting waiting old young)
      · refine ⟨recorded, consistent.tracked.ids, ?_, ?_⟩
        · intro waiting member leasedAt lease
          rcases List.mem_cons.mp member with rfl | old
          · rcases pending slot leasedAt lease with ⟨-, rfl⟩ | ⟨apart, -⟩
            · exact le_rfl
            · exact absurd rfl apart
          · exact leased waiting old leasedAt lease
        · intro waiting member
          rcases List.mem_cons.mp member with rfl | old
          · exact le_rfl
          · exact consistent.tracked.begun waiting old

theorem Consistent.dial (stepped : net.dialStep accounts device = some next)
    (sound : net.SlotsSound accounts (.dial device)) :
    next.Consistent accounts := by
  unfold dialStep at stepped
  split at stepped
  next serves =>
    obtain ⟨backend, station⟩ := serves
    have ppp : device.protocol ≠ .openconnect := by
      rcases backend with same | same <;> simp [same]
    have keyed : (accounts.dial device).skey? = some device := by
      simp [Dial.skey?, Accounts.dial, station]
    have other : (accounts.dial device).protocol ≠ .openconnect := ppp
    have parsed : ∀ {ip slot : Ipv4}, ip.parsed? = some slot → slot = ip :=
      fun found => (Ipv4.parsed?_eq_some.mp found).2
    rw [← Option.some.inj stepped]
    rcases RadiusService.allocateBlockIP_reject net.radius
        (accounts.dial device) net.host other rfl with
      ⟨ip, redialed, out⟩ | ⟨fresh, ip, chosen, out⟩ | ⟨-, out⟩
    · obtain ⟨skey, keyed', claim, inBlock⟩ :=
        RadiusService.redialIP?_eq_some redialed
      obtain rfl := Option.some.inj (keyed.symm.trans keyed')
      rw [out]
      refine consistent.granted ppp inBlock ?_
        (RadiusService.redial_sessions other) ?_ ?_ fun _ => parsed
      · intro other held
        exact (consistent.exclusive.claimed device other ip claim held).symm
      · intro slot leasedAt lease
        rw [RadiusService.redial_pending other] at lease
        exact KeyMap.lookup_insert_eq_some.mp lease
      · intro key held found
        rw [RadiusService.redial_stationIP other] at found
        by_cases same : held = ip
        · subst same
          exact .inl ⟨consistent.exclusive.claims key device held found
            claim, rfl⟩
        · exact .inr ⟨same, found⟩
    · have unclaimed : ∀ ip ∈ accounts.blockIPs device.account,
          net.radius.stationIP.lookup device ≠ some ip := by
        intro ip inBlock claim
        have redials : (accounts.dial device).protocol ≠ .sstp := by
          rcases backend with same | same <;> simp [Accounts.dial, same]
        have redialed : net.radius.redialIP? (accounts.dial device) =
            some ip := by
          unfold RadiusService.redialIP?
          rw [if_neg (not_or.mpr ⟨other, redials⟩), keyed]
          simp [claim, Accounts.dial, inBlock]
        rw [fresh] at redialed
        cases redialed
      obtain ⟨occupied, unleased⟩ := sound unclaimed
      obtain ⟨inBlock, unheld⟩ :=
        consistent.unheld_of_chosen occupied unleased chosen
      rw [out]
      refine consistent.granted ppp inBlock unheld ?_ ?_ ?_ fun _ => parsed
      · rw [RadiusService.assign_sessions other,
          RadiusService.settled_sessions]
      · intro slot leasedAt lease
        rw [RadiusService.assign_pending keyed other] at lease
        rcases KeyMap.lookup_insert_eq_some.mp lease with granted |
            ⟨apart, old⟩
        · exact .inl granted
        · exact .inr ⟨apart, (RadiusService.settled_pending.mp old).1⟩
      · intro key claim found
        rcases (RadiusService.assign_stationIP keyed other).mp found with
          granted | ⟨-, apart, old⟩
        · exact .inl granted
        · exact .inr ⟨apart, RadiusService.settled_stationIP old⟩
    · rw [out]
      exact consistent.relaxed rfl rfl rfl RadiusService.settled_sessions
        (fun slot leasedAt lease =>
          (RadiusService.settled_pending.mp lease).1)
        fun key ip => RadiusService.settled_stationIP
  next => cases stepped

/-- An Acct-Start of a device that holds its address. -/
theorem Consistent.started {session : LiveSession} {kept : List Waiting}
    {live : List LiveSession}
    (ppp : session.device.protocol ≠ .openconnect)
    (waits : ∀ waiting ∈ kept, waiting ∈ net.waiting)
    (joins : ∀ other ∈ live, other = session ∨ other ∈ net.live)
    (holds : net.Holds session.device session.ip)
    (unique : ∀ other ∈ net.live, other.sessionID = session.sessionID →
      other = session) :
    Consistent accounts { net with
      radius := (net.radius.handleAcct (startPacket session)
        (accounts.email session.device.account) net.now).1
      waiting := kept
      live := live } where
  exclusive := by
    refine consistent.exclusive.mono ?_ ?_
    · intro device ip held
      cases held with
      | live other member =>
          rcases joins other member with rfl | before
          · exact holds
          · exact .live other before
      | waiting waiting member young =>
          exact .waiting waiting (waits waiting member) young
    · intro key claim found
      rw [handleAcct_start accounts ppp] at found
      exact found
  tracked := by
    rw [handleAcct_start accounts ppp]
    refine ⟨?_, ?_, ?_, ?_⟩
    · intro other member
      by_cases same : other.sessionID = session.sessionID
      · refine ⟨⟨accounts.email session.device.account, session.ip,
          session.device.protocol, net.now⟩, ?_, ?_⟩
        · exact KeyMap.lookup_insert_eq_some.mpr (.inl ⟨same, rfl⟩)
        · rcases joins other member with rfl | before
          · rfl
          · rw [unique other before same]
      · rcases joins other member with rfl | before
        · exact absurd rfl same
        · obtain ⟨record, found, onIP⟩ :=
            consistent.tracked.recorded other before
          exact ⟨record, KeyMap.lookup_insert_eq_some.mpr
            (.inr ⟨same, found⟩), onIP⟩
    · intro first former second latter sameID
      rcases joins first former with rfl | before
      · rcases joins second latter with rfl | after
        · rfl
        · exact (unique second after sameID.symm).symm
      · rcases joins second latter with rfl | after
        · exact unique first before sameID
        · exact consistent.tracked.ids first before second after sameID
    · intro waiting member leasedAt lease
      exact consistent.tracked.leased waiting (waits waiting member) leasedAt
        (KeyMap.lookup_erase_eq_some.mp lease).2
    · intro waiting member
      exact consistent.tracked.begun waiting (waits waiting member)

theorem Consistent.acctStart {session : LiveSession}
    (stepped : net.startStep accounts session = some next) :
    next.Consistent accounts := by
  unfold startStep at stepped
  simp only at stepped
  split at stepped
  next member =>
    have holds : net.Holds session.device session.ip := .live session member
    rw [← Option.some.inj stepped]
    exact consistent.started
      (consistent.exclusive.owned _ _ holds).1 (fun _ => id)
      (fun _ => .inr) holds
      fun other before same =>
        consistent.tracked.ids other before session member same
  next =>
    split at stepped
    next waiting found =>
      split at stepped
      · cases stepped
      next fresh =>
        have member := List.mem_of_find?_eq_some found
        have confirmed := List.find?_some found
        simp only [confirms, Bool.and_eq_true, beq_iff_eq,
          decide_eq_true_eq] at confirmed
        obtain ⟨⟨device, ip⟩, young⟩ := confirmed
        have holds : net.Holds session.device session.ip := by
          rw [← device, ← ip]
          exact .waiting waiting member young
        rw [← Option.some.inj stepped]
        refine consistent.started
          (consistent.exclusive.owned _ _ holds).1
          (fun _ => List.mem_of_mem_erase)
          (fun _ => List.mem_cons.mp) holds ?_
        intro other before same
        simp only [List.any_eq_true, beq_iff_eq, not_exists,
          not_and] at fresh
        exact absurd same (fresh other before)
    next => cases stepped

theorem Consistent.acctStop {packet : AcctPacket}
    (stepped : net.stopStep packet = some next) :
    next.Consistent accounts := by
  unfold stopStep at stepped
  split at stepped
  next stops =>
    obtain ⟨status, ppp⟩ := stops
    have radius := RadiusService.handleAcct_stop net.radius packet "" net.now
      status ppp
    rw [← Option.some.inj stepped]
    refine ⟨consistent.exclusive.mono ?_ ?_, ?_, ?_, ?_, ?_⟩
    · intro device ip holds
      cases holds with
      | live session member =>
          exact .live session (List.mem_of_mem_filter member)
      | waiting waiting member young => exact .waiting waiting member young
    · intro key claim found
      rw [← radius.2.2]
      exact found
    · intro session member
      obtain ⟨before, stays⟩ := List.mem_filter.mp member
      obtain ⟨record, found, onIP⟩ :=
        consistent.tracked.recorded session before
      have other : session.sessionID ≠ packet.sessionID := by
        simpa using stays
      exact ⟨record, radius.1 session.sessionID other ▸ found, onIP⟩
    · intro first former second latter
      exact consistent.tracked.ids first (List.mem_of_mem_filter former)
        second (List.mem_of_mem_filter latter)
    · intro waiting member leasedAt lease
      have leased : net.radius.pending.lookup waiting.ip = some leasedAt := by
        rw [← radius.2.1]
        exact lease
      exact consistent.tracked.leased waiting member leasedAt leased
    · exact consistent.tracked.begun
  next => cases stepped

theorem Consistent.interim {packet : AcctPacket} {email : String}
    (stepped : net.interimStep packet email = some next) :
    next.Consistent accounts := by
  unfold interimStep at stepped
  split at stepped
  next status =>
    have radius := RadiusService.handleAcct_interim net.radius packet email
      net.now status
    rw [← Option.some.inj stepped]
    refine ⟨consistent.exclusive.mono ?_ ?_, ?_, consistent.tracked.ids, ?_,
      consistent.tracked.begun⟩
    · intro device ip holds
      cases holds with
      | live session member => exact .live session member
      | waiting waiting member young => exact .waiting waiting member young
    · intro key claim found
      rw [← radius.2.2]
      exact found
    · intro session member
      obtain ⟨record, found, onIP⟩ :=
        consistent.tracked.recorded session member
      exact ⟨record, radius.1 session.sessionID record found, onIP⟩
    · intro waiting member leasedAt lease
      have leased : net.radius.pending.lookup waiting.ip = some leasedAt := by
        rw [← radius.2.1]
        exact lease
      exact consistent.tracked.leased waiting member leasedAt leased
  next => cases stepped

theorem Consistent.reset {protocol : VpnProtocol} :
    Consistent accounts
      { net with radius := net.radius.resetAllocations protocol } := by
  refine consistent.relaxed rfl rfl rfl rfl ?_ ?_
  · intro slot leasedAt lease
    simp [RadiusService.resetAllocations] at lease
  · intro key claim found
    exact (KeyMap.lookup_retain_eq_some.mp found).1

theorem Consistent.pass {duration : Nat} :
    Consistent accounts { net with now := net.now + duration } where
  exclusive := consistent.exclusive.mono (fun _ _ => Holds.later)
    fun _ _ => id
  tracked :=
    { recorded := consistent.tracked.recorded
      ids := consistent.tracked.ids
      leased := consistent.tracked.leased
      begun := fun waiting member => by
        have before := consistent.tracked.begun waiting member
        simp only
        omega }

end Dial

theorem Consistent.step {event : DialEvent}
    (consistent : net.Consistent accounts)
    (sound : net.SlotsSound accounts event)
    (stepped : net.step accounts event = some next) :
    next.Consistent accounts := by
  cases event with
  | dial device => exact consistent.dial stepped sound
  | acctStart session => exact consistent.acctStart stepped
  | acctStop packet => exact consistent.acctStop stepped
  | interim packet email => exact consistent.interim stepped
  | resetAllocations protocol =>
      rw [← Option.some.inj stepped]
      exact consistent.reset
  | pass duration =>
      rw [← Option.some.inj stepped]
      exact consistent.pass

theorem Consistent.initial : Concentrator.initial.Consistent accounts where
  exclusive :=
    { claims := by simp [Concentrator.initial, RadiusService.empty]
      claimed := by simp [Concentrator.initial, RadiusService.empty]
      holders := by
        intro first second ip held
        cases held with
        | live session member => cases member
        | waiting waiting member => cases member
      owned := by
        intro device ip held
        cases held with
        | live session member => cases member
        | waiting waiting member => cases member }
  tracked := by
    refine ⟨?_, ?_, ?_, ?_⟩ <;> simp [Concentrator.initial]

/-- Exclusive addresses bound the live devices by the block they live on. -/
theorem Consistent.capped (consistent : net.Consistent accounts) :
    net.Capped accounts where
  exclusive first former second latter same :=
    consistent.exclusive.holders _ _ first.ip (.live first former)
      (same ▸ .live second latter)
  cap account := by
    have devices : (net.liveDevices account).toFinset.card ≤
        (accounts.blockIPs account).toFinset.card := by
      apply Finset.card_le_card_of_forall_subsingleton net.Holds
      · intro device member
        simp only [liveDevices, List.mem_toFinset, List.mem_dedup,
          List.mem_filter, List.mem_map, beq_iff_eq] at member
        obtain ⟨⟨session, live, rfl⟩, rfl⟩ := member
        have holds : net.Holds session.device session.ip :=
          .live session live
        exact ⟨session.ip,
          List.mem_toFinset.mpr (consistent.exclusive.owned _ _ holds).2,
          holds⟩
      · intro ip _ first former second latter
        exact consistent.exclusive.holders first second ip former.2 latter.2
    calc (net.liveDevices account).length
        = (net.liveDevices account).toFinset.card :=
          (List.toFinset_card_of_nodup (List.nodup_dedup _)).symm
      _ ≤ (accounts.blockIPs account).toFinset.card := devices
      _ ≤ (accounts.blockIPs account).length := List.toFinset_card_le _

/-- Along a run whose dials find their slots sound no account exceeds its
block and no address has two live devices. -/
theorem capped_throughout (accounts : Accounts) (events : List DialEvent)
    (guarded : (machine accounts).Guarded
      (fun net event => net.SlotsSound accounts event) initial events) :
    (machine accounts).Throughout (Capped accounts) initial events := by
  have kept := (machine accounts).throughout_of_guarded
    (fun net event next consistent sound stepped =>
      Consistent.step consistent sound stepped)
    Consistent.initial guarded
  exact kept.imp _ fun net => Consistent.capped

section Runs

def lanSubnet : Subnet := ⟨10, 0, 0⟩

/-- One account, on a block of `size` addresses. -/
def soleAccount (size : Nat) : Accounts where
  blockIPs account :=
    if account = ⟨.l2tp, 1, 0⟩ then
      (List.range size).map fun index => lanSubnet.withHost (2 + index)
    else []
  email _ := "alice"
  email_ne _ := by decide
  blocks_disjoint first second ip former latter := by
    split at former
    next one =>
      split at latter
      next two => rw [one, two]
      next => cases latter
    next => cases former

def phone : StationKey := ⟨.l2tp, 1, 0, "198.51.100.7", 1⟩

def laptop : StationKey := ⟨.l2tp, 1, 0, "203.0.113.9", 2⟩

theorem capped_throughout_two_devices :
    (machine (soleAccount 2)).Throughout (Capped (soleAccount 2)) initial
      [.dial phone, .acctStart ⟨"s1", phone, lanSubnet.withHost 2⟩,
        .dial laptop] := by
  apply capped_throughout
  refine ⟨fun _ => ⟨by simp [HeldOccupied, initial],
    by simp [LiveUnleased, initial]⟩, fun connected dialed => ?_⟩
  refine ⟨trivial, fun running started => ?_⟩
  refine ⟨fun _ => ?_, fun _ _ => trivial⟩
  cases dialed
  obtain rfl := Option.some.inj started
  refine ⟨fun waiting member => ?_, fun _ session member _ _ leasedAt => ?_⟩
  · cases member
  · have sole := List.mem_singleton.mp member
    rw [sole]
    intro lease
    cases lease

/-- A second dial of a live device leases its address again; once that lease
looks abandoned, another device is put on the address. -/
theorem uncapped_after_redial :
    ¬ ∀ accounts events,
      (machine accounts).Throughout (Capped accounts) initial events := by
  intro always
  have capped := always (soleAccount 1)
    [.dial phone, .acctStart ⟨"s1", phone, lanSubnet.withHost 2⟩,
      .pass (20 * second), .dial phone, .pass (20 * second),
      .dial laptop, .acctStart ⟨"s2", laptop, lanSubnet.withHost 2⟩]
  have reached : ((machine (soleAccount 1)).run initial
      [.dial phone, .acctStart ⟨"s1", phone, lanSubnet.withHost 2⟩,
        .pass (20 * second), .dial phone, .pass (20 * second),
        .dial laptop, .acctStart ⟨"s2", laptop, lanSubnet.withHost 2⟩]).map
      live = some [⟨"s2", laptop, lanSubnet.withHost 2⟩,
        ⟨"s1", phone, lanSubnet.withHost 2⟩] := by
    decide
  obtain ⟨final, finished, live⟩ := Option.map_eq_some_iff.mp reached
  have exclusive := (capped.final _ finished).exclusive
  rw [live] at exclusive
  have same := exclusive _ (List.mem_cons_self) _
    (List.mem_cons_of_mem _ List.mem_cons_self) rfl
  exact absurd same (by decide)

end Runs

end Concentrator

end VpnUi.Radius
