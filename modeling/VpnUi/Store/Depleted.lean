import VpnUi.Store.MirrorRemoval

namespace VpnUi.Store

open Foundation Panel

/-! The deletion of depleted clients: one transaction for the settings and the
rows, with the deletion of emptied inbounds on another connection. -/

/-- The rows that are deleted; a negative id stands for all inbounds. -/
def isDepletedOf (id now : Int) (row : ClientTraffic) : Bool :=
  row.reset = 0 && (if id < 0 then id < row.inboundId else row.inboundId = id) &&
    depleted now row.total (row.up + row.down) row.expiryTime

/-- `GROUP_CONCAT`. -/
def groupConcat (emails : List String) : String :=
  String.ofList ([','].intercalate (emails.map String.toList))

/-- `strings.Split` at the commas. -/
def splitCommas (text : String) : List String :=
  (text.toList.splitOn ',').map String.ofList

def depletedRows (id now inboundId : Int)
    (traffics : Table ClientTraffic.email) : List ClientTraffic :=
  traffics.rows.filter fun row =>
    isDepletedOf id now row && row.inboundId = inboundId

/-- `GROUP BY` the inbound, whose order is that of the ids. -/
def depletedGroups (id now : Int) (traffics : Table ClientTraffic.email) :
    List (Int × String) :=
  let ids := (traffics.rows.filter (isDepletedOf id now)).map
    ClientTraffic.inboundId
  (ids.eraseDups.mergeSort (· ≤ ·)).map fun inboundId =>
    (inboundId, groupConcat
      ((depletedRows id now inboundId traffics).map ClientTraffic.email))

/-- One inbound of the loop.  The transaction saves it without the depleted
clients.  Where none is left it is deleted on another connection, which fails
once the transaction has written, and the failure is ignored. -/
def depleteInbound (group : Int × String) (committed : Database)
    (saved : List StoredInbound) :
    Except RequestError (Database × List StoredInbound) :=
  match committed.inbounds.find? group.1 with
  | none => .error (.panel .notFound)
  | some row =>
      match row.settings.object? with
      | none => .error (.panel .malformedSettings)
      | some object =>
          let fields := object.getD []
          match JsonObject.get fields "clients" with
          | .arr items =>
              let emails := splitCommas group.2
              let kept := items.filter (itemEmail · ∉ emails)
              if items.any (keyText "email" · = none) then
                .error (.panel .panicked)
              else if kept ≠ [] then
                .ok (committed, saved ++ [{ row with
                  settings := .parsed (.obj (JsonObject.set fields "clients"
                    (.arr kept))) }])
              else if saved ≠ [] then .ok (committed, saved)
              else
                .ok ((Call.run committed Call.noFaults 0
                  (delInbound group.1 committed) committed).2, saved)
          | _ => .error (.panel .panicked)

def depleteGroups : List (Int × String) → Database → List StoredInbound →
    Option RequestError × Database × List StoredInbound
  | [], committed, saved => (none, committed, saved)
  | group :: groups, committed, saved =>
      match depleteInbound group committed saved with
      | .error error => (some error, committed, saved)
      | .ok (committed, saved) => depleteGroups groups committed saved

/-- `DelDepletedClients`.  A panic leaves what the transaction has saved to be
committed. -/
def delDepletedClients (id now : Int) (database : Database) :
    Option RequestError × Database :=
  match depleteGroups (depletedGroups id now database.traffics) database []
  with
  | (some (.panel .panicked), committed, saved) =>
      (some (.panel .panicked), committed.saveInbounds saved)
  | (some error, committed, _) => (some error, committed)
  | (none, committed, saved) =>
      (none, { committed.saveInbounds saved with
        traffics := committed.traffics.filter (!isDepletedOf id now ·) })

theorem splitCommas_groupConcat {emails : List String} (some : emails ≠ [])
    (plain : ∀ email ∈ emails, ',' ∉ email.toList) :
    splitCommas (groupConcat emails) = emails := by
  rw [splitCommas, groupConcat, String.toList_ofList,
    List.splitOn_intercalate]
  · rw [List.map_map]
    exact List.map_id'' (fun _ => String.ofList_toList) emails
  · simpa using plain
  · simpa using some

theorem mem_depletedRows {id now inboundId : Int}
    {traffics : Table ClientTraffic.email} {stat : ClientTraffic} :
    stat ∈ depletedRows id now inboundId traffics ↔
      stat ∈ traffics ∧ isDepletedOf id now stat = true ∧
        stat.inboundId = inboundId := by
  simp [depletedRows, Table.mem_def]

theorem nodup_depletedGroups {id now : Int}
    {traffics : Table ClientTraffic.email} :
    ((depletedGroups id now traffics).map Prod.fst).Nodup := by
  rw [depletedGroups, List.map_map]
  have same : (Prod.fst ∘ fun inboundId => (inboundId, groupConcat
      ((depletedRows id now inboundId traffics).map ClientTraffic.email))) =
        (fun inboundId : Int => inboundId) := rfl
  rw [same, List.map_id', (List.mergeSort_perm _ _).nodup_iff]
  exact nodup_eraseDups _

theorem mem_depletedGroups {id now : Int}
    {traffics : Table ClientTraffic.email} {stat : ClientTraffic}
    (member : stat ∈ traffics) (gone : isDepletedOf id now stat = true) :
    stat.inboundId ∈ (depletedGroups id now traffics).map Prod.fst := by
  simp only [depletedGroups, List.map_map, List.mem_map, List.mem_mergeSort,
    List.mem_eraseDups, Function.comp_apply, exists_eq_right]
  exact ⟨stat, List.mem_filter.mpr ⟨member, gone⟩, rfl⟩

/-- The e-mails of a group are read back as they are. -/
theorem splitCommas_of_group {id now : Int}
    {traffics : Table ClientTraffic.email} {group : Int × String}
    (plain : ∀ stat ∈ traffics, isDepletedOf id now stat = true →
      ',' ∉ stat.email.toList)
    (member : group ∈ depletedGroups id now traffics) :
    splitCommas group.2 =
      (depletedRows id now group.1 traffics).map ClientTraffic.email := by
  obtain ⟨inboundId, inIds, rfl⟩ := List.mem_map.mp member
  simp only [List.mem_mergeSort, List.mem_eraseDups, List.mem_map] at inIds
  obtain ⟨stat, inRows, rfl⟩ := inIds
  obtain ⟨inTable, gone⟩ := List.mem_filter.mp inRows
  apply splitCommas_groupConcat
  · intro empty
    have inGroup := mem_depletedRows.mpr ⟨inTable, gone, rfl⟩
    rw [List.map_eq_nil_iff.mp empty] at inGroup
    cases inGroup
  · intro email listed
    obtain ⟨other, inGroup, rfl⟩ := List.mem_map.mp listed
    obtain ⟨otherIn, otherGone, -⟩ := mem_depletedRows.mp inGroup
    exact plain other otherIn otherGone

/-- All clients of the inbound are among those of the group. -/
def Empties (inbounds : StoredInbounds) (group : Int × String) : Prop :=
  ∀ row, inbounds.find? group.1 = some row →
    ∀ item ∈ clientItems row, itemEmail item ∈ splitCommas group.2

/-- No e-mail of a depleted row holds a comma, and no inbound is emptied after
another one was saved. -/
structure DepletesCleanly (database : Database) (id now : Int) : Prop where
  plain : ∀ stat ∈ database.traffics, isDepletedOf id now stat = true →
    ',' ∉ stat.email.toList
  ordered : (depletedGroups id now database.traffics).Pairwise
    fun first later => Empties database.inbounds later →
      Empties database.inbounds first

section Mirrored

variable {agrees : Limits → ClientTraffic → Prop} {database : Database}

/-- Loop state: the rows that go with the inbounds gone through are gone. -/
def remaining (id now : Int) (groups : List (Int × String))
    (committed : Database) (saved : List StoredInbound) : Database where
  inbounds := (committed.saveInbounds saved).inbounds
  traffics := committed.traffics.filter fun row =>
    !(isDepletedOf id now row && row.inboundId ∉ groups.map Prod.fst)
  ips := committed.ips

structure Depleting (agrees : Limits → ClientTraffic → Prop) (id now : Int)
    (groups : List (Int × String)) (committed : Database)
    (saved : List StoredInbound) : Prop where
  mirrored : Mirrored agrees (remaining id now groups committed saved)
  distinct : (groups.map Prod.fst).Nodup
  untouched : ∀ row ∈ saved, row.id ∉ groups.map Prod.fst
  emails : ∀ group ∈ groups, splitCommas group.2 =
    (depletedRows id now group.1 committed.traffics).map ClientTraffic.email
  ordered : groups.Pairwise fun first later =>
    Empties committed.inbounds later → Empties committed.inbounds first
  lasting : saved ≠ [] → ∀ group ∈ groups, ¬ Empties committed.inbounds group

variable {id now : Int} {group : Int × String} {groups : List (Int × String)}
  {committed : Database} {saved : List StoredInbound}

theorem find?_saveInbounds {wanted : Int}
    (untouched : ∀ row ∈ saved, row.id ≠ wanted) :
    (committed.saveInbounds saved).inbounds.find? wanted =
      committed.inbounds.find? wanted :=
  Table.find?_foldl_save_of_forall fun row member =>
    untouched row member

theorem mem_remaining {stat : ClientTraffic} :
    stat ∈ (remaining id now groups committed saved).traffics ↔
      stat ∈ committed.traffics ∧ (isDepletedOf id now stat = true →
        stat.inboundId ∈ groups.map Prod.fst) := by
  refine Table.mem_filter.trans (and_congr_right fun _ => ?_)
  cases isDepletedOf id now stat <;> simp

/-- The clients that stay with an inbound of the loop. -/
def keptItems (group : Int × String) (row : StoredInbound) : List Json :=
  (clientItems row).filter (itemEmail · ∉ splitCommas group.2)

theorem keptItems_eq_nil {row : StoredInbound}
    (stored : committed.inbounds.find? group.1 = some row) :
    keptItems group row = [] ↔ Empties committed.inbounds group := by
  rw [keptItems, List.filter_eq_nil_iff, Empties]
  constructor
  · intro none other found item member
    obtain rfl := Option.some.inj (stored.symm.trans found)
    simpa using none item member
  · intro empties item member
    simpa using empties row stored item member

theorem depleteInbound_eq_ok {next : Database × List StoredInbound}
    (done : depleteInbound group committed saved = .ok next) :
    ∃ row items, committed.inbounds.find? group.1 = some row ∧
      row.settings.fields.get "clients" = .arr items ∧
      if keptItems group row ≠ [] then
        next = (committed, saved ++ [withItems row (.arr (keptItems group row))])
      else if saved ≠ [] then next = (committed, saved)
      else next = ((Call.run committed Call.noFaults 0
        (delInbound group.1 committed) committed).2, saved) := by
  unfold depleteInbound at done
  split at done
  · cases done
  next row stored =>
    split at done
    · cases done
    next object decoded =>
      have fields : object.getD [] = row.settings.fields := by
        rw [JsonText.fields, decoded, Option.getD_some]
      dsimp only at done
      rw [fields] at done
      split at done
      next items read =>
        have kept : keptItems group row =
            items.filter (itemEmail · ∉ splitCommas group.2) := by
          rw [keptItems, clientItems_of_array read]
        refine ⟨row, items, stored, read, ?_⟩
        rw [← kept] at done
        split at done
        · cases done
        split at done
        next some =>
          rw [if_pos some]
          exact (Except.ok.inj done).symm
        next none =>
          rw [if_neg none]
          split at done
          next written =>
            rw [if_pos written]
            exact (Except.ok.inj done).symm
          next unwritten =>
            rw [if_neg unwritten]
            exact (Except.ok.inj done).symm
      · cases done

theorem getClients_of_array {settings : JsonText} {items : List Json}
    (read : settings.fields.get "clients" = .arr items) :
    ∃ clients, getClients settings = some clients := by
  unfold getClients
  split
  · cases read
  · exact ⟨_, rfl⟩

theorem Depleting.mem_emails (depleting :
      Depleting agrees id now (group :: groups) committed saved)
    {email : String} :
    email ∈ splitCommas group.2 ↔ ∃ stat ∈ committed.traffics,
      isDepletedOf id now stat = true ∧ stat.inboundId = group.1 ∧
        stat.email = email := by
  rw [depleting.emails group List.mem_cons_self]
  simp only [List.mem_map, mem_depletedRows, and_assoc]

/-- The transaction saves an inbound without its depleted clients. -/
theorem Depleting.save {row : StoredInbound}
    (depleting : Depleting agrees id now (group :: groups) committed saved)
    (stored : committed.inbounds.find? group.1 = some row)
    (some : keptItems group row ≠ []) :
    Depleting agrees id now groups committed
      (saved ++ [withItems row (.arr (keptItems group row))]) := by
  obtain ⟨fresh, distinct⟩ := List.nodup_cons.mp depleting.distinct
  obtain ⟨earlier, ordered⟩ := List.pairwise_cons.mp depleting.ordered
  have named : row.id = group.1 := (Table.find?_eq_some.mp stored).2
  have virtual : row ∈
      (remaining id now (group :: groups) committed saved).inbounds := by
    have found := (find?_saveInbounds fun other member same =>
      depleting.untouched other member (by simp [same])).trans stored
    exact (Table.find?_eq_some.mp found).1
  refine ⟨?_, distinct, ?_, ?_, ordered, ?_⟩
  · have appended : remaining id now groups committed
        (saved ++ [withItems row (.arr (keptItems group row))]) =
        ⟨(remaining id now (group :: groups) committed saved).inbounds.save
          (withItems row (.arr (keptItems group row))),
          (remaining id now groups committed saved).traffics,
          committed.ips⟩ := by
      simp [remaining, Database.saveInbounds, List.foldl_append]
    rw [appended]
    refine depleting.mirrored.drop virtual rfl (?_ : Drops row _ _ _
      (fun item => decide (itemEmail item ∉ splitCommas group.2))
      (splitCommas group.2))
    refine ⟨?_, ?_, ?_, ?_⟩
    · exact limits_clientItems.trans
        (by rw [clientItems_withItems, keptItems])
    · intro other
      rw [mem_remaining, mem_remaining, and_assoc, and_congr_right_iff]
      intro inTable
      rw [depleting.mem_emails]
      constructor
      · intro later
        refine ⟨fun gone => List.mem_cons_of_mem _ (later gone), ?_⟩
        rintro ⟨stat, inStats, gone, owner, same⟩
        obtain rfl := Table.eq_of_key_eq inTable inStats same.symm
        exact fresh (owner ▸ later gone)
      · rintro ⟨either, spared⟩ gone
        rcases List.mem_cons.mp (either gone) with owner | later
        · exact absurd ⟨other, inTable, gone, owner, rfl⟩ spared
        · exact later
    · intro item member dropped nonempty
      rw [← itemEmail_eq]
      simpa using dropped
    · intro email listed nonempty
      obtain ⟨stat, inStats, gone, owner, rfl⟩ :=
        depleting.mem_emails.mp listed
      have inRemaining : stat ∈
          (remaining id now (group :: groups) committed saved).traffics :=
        mem_remaining.mpr ⟨inStats, fun _ => by simp [owner]⟩
      obtain ⟨item, member, same⟩ := mem_emails_clientItems.mp
        ((depleting.mirrored.covered row virtual).client stat inRemaining
          (owner.trans named.symm))
      refine ⟨item, member, ?_, same⟩
      rw [itemEmail_eq, same]
      simpa using listed
  · intro other member
    rcases List.mem_append.mp member with old | new
    · exact fun listed =>
        depleting.untouched other old (List.mem_cons_of_mem _ listed)
    · obtain rfl := List.mem_singleton.mp new
      rwa [show (withItems row _).id = group.1 from named]
  · exact fun other member =>
      depleting.emails other (List.mem_cons_of_mem _ member)
  · intro _ other member empties
    exact some ((keptItems_eq_nil stored).mpr (earlier other member empties))

/-- An inbound without clients is deleted while nothing is saved yet. -/
theorem Depleting.delete {row : StoredInbound} {items : List Json}
    (depleting : Depleting agrees id now (group :: groups) committed [])
    (stored : committed.inbounds.find? group.1 = some row)
    (read : row.settings.fields.get "clients" = .arr items) :
    Depleting agrees id now groups (Call.run committed Call.noFaults 0
      (delInbound group.1 committed) committed).2 [] := by
  obtain ⟨fresh, distinct⟩ := List.nodup_cons.mp depleting.distinct
  obtain ⟨clients, given⟩ := getClients_of_array read
  obtain ⟨ips, ran⟩ := run_delInbound stored given
  rw [ran]
  have others : ∀ other ∈ groups, other.1 ≠ group.1 := fun other member same =>
    fresh (same ▸ List.mem_map_of_mem member)
  have empties : ∀ other ∈ groups,
      Empties (committed.inbounds.delete group.1) other ↔
        Empties committed.inbounds other := by
    intro other member
    rw [Empties, Table.find?_delete_ne (others other member), Empties]
  refine ⟨?_, distinct, fun _ member => absurd member List.not_mem_nil, ?_, ?_,
    fun written => absurd rfl written⟩
  · have same : (remaining id now groups ⟨committed.inbounds.delete group.1,
        committed.traffics.filter (·.inboundId ≠ group.1), ips⟩ []).traffics =
        (remaining id now (group :: groups) committed []).traffics.filter
          (·.inboundId ≠ group.1) := by
      apply Table.ext_mem
      intro stat
      rw [mem_remaining, Table.mem_filter, Table.mem_filter, mem_remaining]
      simp only [List.map_cons, List.mem_cons, decide_eq_true_eq]
      tauto
    have deleted := @Mirrored.delete agrees _ depleting.mirrored group.1 ips
    rw [← same] at deleted
    exact deleted
  · intro other member
    rw [depleting.emails other (List.mem_cons_of_mem _ member)]
    congr 1
    simp only [depletedRows, Table.filter, List.filter_filter]
    apply List.filter_congr
    intro stat _
    by_cases own : stat.inboundId = other.1
    · simp [own, others other member]
    · simp [own]
  · refine (List.pairwise_cons.mp depleting.ordered).2.imp_of_mem ?_
    intro first later firstIn laterIn ordered
    rw [empties first firstIn, empties later laterIn]
    exact ordered

theorem Depleting.step {next : Database × List StoredInbound}
    (depleting : Depleting agrees id now (group :: groups) committed saved)
    (done : depleteInbound group committed saved = .ok next) :
    Depleting agrees id now groups next.1 next.2 := by
  obtain ⟨row, items, stored, read, result⟩ := depleteInbound_eq_ok done
  split at result
  next some =>
    rw [result]
    exact depleting.save stored some
  next none =>
    have empties := (keptItems_eq_nil stored).mp (not_not.mp none)
    split at result
    next written =>
      exact absurd empties
        (depleting.lasting written group List.mem_cons_self)
    next unwritten =>
      obtain rfl := not_not.mp unwritten
      rw [result]
      exact depleting.delete stored read

theorem Depleting.run {after : Database} {written : List StoredInbound}
    (depleting : Depleting agrees id now groups committed saved)
    (done : depleteGroups groups committed saved = (none, after, written)) :
    Depleting agrees id now [] after written := by
  induction groups generalizing committed saved with
  | nil =>
      obtain ⟨-, same⟩ := Prod.mk.inj done
      obtain ⟨rfl, rfl⟩ := Prod.mk.inj same
      exact depleting
  | cons group rest induction =>
      rw [depleteGroups] at done
      split at done
      · cases done
      next next stepped => exact induction (depleting.step stepped) done

theorem Mirrored.delDepletedClients (mirrored : Mirrored agrees database)
    (cleanly : DepletesCleanly database id now) {after : Database}
    (succeeded : delDepletedClients id now database = (none, after)) :
    Mirrored agrees after := by
  have whole : (remaining id now (depletedGroups id now database.traffics)
      database []).traffics = database.traffics := by
    apply Table.ext_mem
    intro stat
    rw [mem_remaining]
    exact and_iff_left_of_imp fun member gone => mem_depletedGroups member gone
  have first : Depleting agrees id now
      (depletedGroups id now database.traffics) database [] := by
    refine ⟨?_, nodup_depletedGroups, fun _ member =>
      absurd member List.not_mem_nil, ?_, cleanly.ordered,
      fun written => absurd rfl written⟩
    · have same : remaining id now (depletedGroups id now database.traffics)
          database [] = database :=
        congrArg (Database.mk database.inbounds · database.ips) whole
      rw [same]
      exact mirrored
    · exact fun group member => splitCommas_of_group cleanly.plain member
  unfold Store.delDepletedClients at succeeded
  split at succeeded
  · cases succeeded
  · cases succeeded
  next committed saved ran =>
    rw [← (Prod.mk.inj succeeded).2]
    have same : (remaining id now [] committed saved).traffics =
        committed.traffics.filter (!isDepletedOf id now ·) := by
      apply Table.ext_mem
      intro stat
      rw [mem_remaining, Table.mem_filter]
      simp
    have last : remaining id now [] committed saved =
        { committed.saveInbounds saved with
          traffics := committed.traffics.filter (!isDepletedOf id now ·) } :=
      congrArg (Database.mk (committed.saveInbounds saved).inbounds ·
        committed.ips) same
    rw [← last]
    exact (first.run ran).mirrored

end Mirrored

end VpnUi.Store
