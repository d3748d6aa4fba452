import VpnUi.Store.Correspondence

namespace VpnUi.Store

open Foundation Panel

/-! What is left of the clients, the rows and the inbounds when the depleted
ones are deleted. -/

theorem not_mem_of_mem_splitOn {separator : Char} {letters part : List Char}
    (member : part ∈ letters.splitOn separator) : separator ∉ part := by
  rw [List.splitOn_eq_splitOnP] at member
  induction letters generalizing part with
  | nil => simp_all
  | cons letter rest induction =>
      rw [List.splitOnP_cons_eq_if_modifyHead] at member
      split at member
      · rcases List.mem_cons.mp member with rfl | later
        · exact List.not_mem_nil
        · exact induction later
      next other =>
        obtain ⟨first, parts, split⟩ := List.exists_cons_of_ne_nil
          (List.splitOnP_ne_nil (· == separator) rest)
        rw [split] at member induction
        rcases List.mem_cons.mp member with rfl | later
        · rw [List.mem_cons, not_or]
          refine ⟨?_, induction List.mem_cons_self⟩
          rintro rfl
          exact other (beq_self_eq_true _)
        · exact induction (List.mem_cons_of_mem first later)

theorem not_mem_of_mem_splitCommas {text email : String}
    (member : email ∈ splitCommas text) : ',' ∉ email.toList := by
  obtain ⟨part, inParts, rfl⟩ := List.mem_map.mp member
  rw [String.toList_ofList]
  exact not_mem_of_mem_splitOn inParts

/-- The e-mails of the depleted rows of an inbound. -/
def depletedEmails (id now inboundId : Int) (database : Database) :
    List String :=
  (depletedRows id now inboundId database.traffics).map ClientTraffic.email

/-- The depleted clients are removed, with their rows and with the inbounds
that have no others. -/
structure RemovesDepleted (id now : Int) (database after : Database) :
    Prop where
  emptied : ∀ row ∈ database.inbounds, after.inbounds.find? row.id = none ↔
    clientItems row ≠ [] ∧ ∀ item ∈ clientItems row,
      itemEmail item ∈ depletedEmails id now row.id database
  settings : ∀ row ∈ database.inbounds, ∀ later,
    after.inbounds.find? row.id = some later →
      clientItems later = (clientItems row).filter
        (itemEmail · ∉ depletedEmails id now row.id database) ∧
      { later with settings := row.settings } = row ∧
      ∀ field, field ≠ "clients" →
        later.settings.fields.get field = row.settings.fields.get field
  rows : ∀ stat, stat ∈ after.traffics ↔
    stat ∈ database.traffics ∧ isDepletedOf id now stat = false
  others : ∀ later ∈ after.inbounds, ∃ row ∈ database.inbounds,
    row.id = later.id

section Loop

variable {id now : Int} {group : Int × String} {groups : List (Int × String)}
  {committed after : Database} {saved written : List StoredInbound}

/-- The database that others will see once the transaction is committed. -/
def pending (committed : Database) (saved : List StoredInbound) : Database :=
  committed.saveInbounds saved

/-- What the loop makes of an inbound: it is saved if clients remain, else it
is deleted as long as nothing was saved, else it stays as it was. -/
inductive Outcome (committed : Database) (saved : List StoredInbound)
    (before : List (Int × String)) (group : Int × String)
    (row : StoredInbound) : Option StoredInbound → Prop
  | saved (kept : keptItems group row ≠ []) :
      Outcome committed saved before group row
        (some (withItems row (.arr (keptItems group row))))
  | deleted (emptied : keptItems group row = []) (unwritten : saved = [])
      (earlier : ∀ other ∈ before, Empties committed.inbounds other) :
      Outcome committed saved before group row none
  | ignored (emptied : keptItems group row = [])
      (written : saved ≠ [] ∨
        ∃ other ∈ before, ¬ Empties committed.inbounds other) :
      Outcome committed saved before group row (some row)

structure LoopResult (groups : List (Int × String)) (committed : Database)
    (saved : List StoredInbound) (after : Database)
    (written : List StoredInbound) : Prop where
  elsewhere : ∀ wanted, wanted ∉ groups.map Prod.fst →
    (pending after written).inbounds.find? wanted =
      (pending committed saved).inbounds.find? wanted
  each : ∀ before group behind, groups = before ++ group :: behind →
    ∃ row, committed.inbounds.find? group.1 = some row ∧
      Outcome committed saved before group row
        ((pending after written).inbounds.find? group.1)
  rows : (∀ stat ∈ committed.traffics,
      ((pending committed saved).inbounds.find? stat.inboundId).isSome = true) →
    ∀ stat, stat ∈ after.traffics ↔ stat ∈ committed.traffics ∧
      ((pending after written).inbounds.find? stat.inboundId).isSome = true

/-- The loop from a round in which an inbound is saved. -/
theorem LoopResult.save {row : StoredInbound}
    (rest : LoopResult groups committed
      (saved ++ [withItems row (.arr (keptItems group row))]) after written)
    (fresh : group.1 ∉ groups.map Prod.fst)
    (stored : committed.inbounds.find? group.1 = some row)
    (some : keptItems group row ≠ []) :
    LoopResult (group :: groups) committed saved after written := by
  have named : row.id = group.1 := (Table.find?_eq_some.mp stored).2
  have appended : (pending committed
      (saved ++ [withItems row (.arr (keptItems group row))])).inbounds =
        (pending committed saved).inbounds.save
          (withItems row (.arr (keptItems group row))) := by
    simp [pending, Database.saveInbounds, List.foldl_append]
  have here : (pending after written).inbounds.find? group.1 =
      .some (withItems row (.arr (keptItems group row))) := by
    rw [rest.elsewhere _ fresh, appended, ← named]
    exact Table.find?_save_self
  constructor
  case elsewhere =>
    intro wanted outside
    rw [List.map_cons, List.mem_cons, not_or] at outside
    rw [rest.elsewhere wanted outside.2, appended]
    refine Table.find?_save_ne ?_
    change wanted ≠ row.id
    rw [named]
    exact outside.1
  case each =>
    intro before later behind split
    cases before with
    | nil =>
        obtain ⟨rfl, -⟩ := List.cons.inj split
        exact ⟨row, stored, here ▸ .saved some⟩
    | cons first before =>
        obtain ⟨rfl, others⟩ := List.cons.inj split
        obtain ⟨laterRow, found, outcome⟩ := rest.each before later behind others
        refine ⟨laterRow, found, ?_⟩
        have notEmpty : ¬ Empties committed.inbounds group :=
          fun empties => some ((keptItems_eq_nil stored).mpr empties)
        generalize (pending after written).inbounds.find? later.1 = left
          at outcome ⊢
        cases outcome with
        | saved kept => exact .saved kept
        | deleted _ unwritten => simp at unwritten
        | ignored emptied =>
            exact .ignored emptied (.inr ⟨group, List.mem_cons_self, notEmpty⟩)
  case rows =>
    intro owned
    apply rest.rows
    intro stat member
    rw [appended]
    exact Table.find?_save_isSome (owned stat member)

/-- The loop from a round in which an inbound is deleted. -/
theorem LoopResult.delete {row : StoredInbound} {ips : Table ClientIps.clientEmail}
    (rest : LoopResult groups ⟨committed.inbounds.delete group.1,
      committed.traffics.filter (·.inboundId ≠ group.1), ips⟩ [] after written)
    (fresh : group.1 ∉ groups.map Prod.fst)
    (stored : committed.inbounds.find? group.1 = some row)
    (emptied : keptItems group row = []) :
    LoopResult (group :: groups) committed [] after written := by
  have here : (pending after written).inbounds.find? group.1 = none :=
    (rest.elsewhere _ fresh).trans Table.find?_delete_self
  have empties := (keptItems_eq_nil stored).mp emptied
  constructor
  case elsewhere =>
    intro wanted outside
    rw [List.map_cons, List.mem_cons, not_or] at outside
    rw [rest.elsewhere wanted outside.2]
    exact Table.find?_delete_ne outside.1
  case each =>
    intro before later behind split
    cases before with
    | nil =>
        obtain ⟨rfl, -⟩ := List.cons.inj split
        exact ⟨row, stored, here ▸
          .deleted emptied rfl fun _ member => nomatch member⟩
    | cons first before =>
        obtain ⟨rfl, others⟩ := List.cons.inj split
        have apart : ∀ other ∈ groups, other.1 ≠ group.1 :=
          fun other member same =>
            fresh (same ▸ List.mem_map_of_mem member)
        have same : ∀ other ∈ before,
            Empties (committed.inbounds.delete group.1) other ↔
              Empties committed.inbounds other := by
          intro other member
          rw [Empties, Table.find?_delete_ne (apart other ?_), Empties]
          rw [others]
          exact List.mem_append_left _ member
        obtain ⟨laterRow, found, outcome⟩ := rest.each before later behind others
        refine ⟨laterRow, ?_, ?_⟩
        · rwa [Table.find?_delete_ne (apart later (by simp [others]))] at found
        · generalize (pending after written).inbounds.find? later.1 = left
            at outcome ⊢
          cases outcome with
          | saved kept => exact .saved kept
          | deleted gone _ earlier =>
              refine .deleted gone rfl (List.forall_mem_cons.mpr ⟨empties, ?_⟩)
              exact fun other member =>
                (same other member).mp (earlier other member)
          | ignored gone written =>
              refine .ignored gone (.inr ?_)
              obtain ⟨other, member, lasting⟩ :=
                written.resolve_left (not_not_intro rfl)
              exact ⟨other, List.mem_cons_of_mem group member,
                fun empty => lasting ((same other member).mpr empty)⟩
  case rows =>
    intro owned stat
    have left := rest.rows (fun other member => ?_) stat
    · rw [left, Table.mem_filter, and_assoc]
      refine and_congr_right fun _ => and_iff_right_of_imp fun some => ?_
      refine decide_eq_true fun same => ?_
      rw [same, here] at some
      cases some
    · obtain ⟨inTable, differs⟩ := Table.mem_filter.mp member
      have still := owned other inTable
      refine Eq.trans (congrArg Option.isSome ?_) still
      exact Table.find?_delete_ne (of_decide_eq_true differs)

/-- The loop from a round whose deletion fails. -/
theorem LoopResult.ignore {row : StoredInbound}
    (rest : LoopResult groups committed saved after written)
    (fresh : group.1 ∉ groups.map Prod.fst)
    (stored : committed.inbounds.find? group.1 = some row)
    (emptied : keptItems group row = []) (some : saved ≠ [])
    (untouched : ∀ other ∈ saved, other.id ≠ group.1) :
    LoopResult (group :: groups) committed saved after written := by
  constructor
  case elsewhere =>
    intro wanted outside
    rw [List.map_cons, List.mem_cons, not_or] at outside
    exact rest.elsewhere wanted outside.2
  case each =>
    intro before later behind split
    cases before with
    | nil =>
        obtain ⟨rfl, -⟩ := List.cons.inj split
        refine ⟨row, stored, ?_⟩
        rw [rest.elsewhere _ fresh, pending, find?_saveInbounds untouched,
          stored]
        exact .ignored emptied (.inl some)
    | cons first before =>
        obtain ⟨rfl, others⟩ := List.cons.inj split
        obtain ⟨laterRow, found, outcome⟩ := rest.each before later behind others
        refine ⟨laterRow, found, ?_⟩
        generalize (pending after written).inbounds.find? later.1 = left
          at outcome ⊢
        cases outcome with
        | saved kept => exact .saved kept
        | deleted _ unwritten => exact absurd unwritten some
        | ignored gone => exact .ignored gone (.inl some)
  case rows => exact rest.rows

theorem loopResult (distinct : (groups.map Prod.fst).Nodup)
    (untouched : ∀ row ∈ saved, row.id ∉ groups.map Prod.fst)
    (done : depleteGroups groups committed saved = (none, after, written)) :
    LoopResult groups committed saved after written := by
  induction groups generalizing committed saved with
  | nil =>
      obtain ⟨-, same⟩ := Prod.mk.inj done
      obtain ⟨rfl, rfl⟩ := Prod.mk.inj same
      refine ⟨fun _ _ => rfl, fun before group behind split => ?_, ?_⟩
      · simp at split
      · exact fun owned stat => (and_iff_left_of_imp (owned stat)).symm
  | cons group rest induction =>
      obtain ⟨fresh, others⟩ := List.nodup_cons.mp distinct
      simp only [List.map_cons, List.mem_cons, not_or] at untouched
      rw [depleteGroups] at done
      split at done
      · cases done
      next next stepped =>
        obtain ⟨row, items, stored, read, result⟩ := depleteInbound_eq_ok stepped
        split at result
        next kept =>
          obtain ⟨rfl, rfl⟩ := Prod.mk.inj result
          refine (induction others ?_ done).save fresh stored kept
          intro other member
          rcases List.mem_append.mp member with old | new
          · exact (untouched other old).2
          · obtain rfl := List.mem_singleton.mp new
            have named : row.id = group.1 := (Table.find?_eq_some.mp stored).2
            change row.id ∉ _
            rwa [named]
        next none =>
          have emptied := not_not.mp none
          split at result
          next some =>
            obtain ⟨rfl, rfl⟩ := Prod.mk.inj result
            refine (induction others (fun other member =>
              (untouched other member).2) done).ignore fresh stored emptied some
                fun other member => (untouched other member).1
          next unwritten =>
            obtain rfl := not_not.mp unwritten
            obtain ⟨clients, given⟩ := getClients_of_array read
            obtain ⟨ips, ran⟩ := run_delInbound stored given
            rw [ran] at result
            obtain ⟨rfl, rfl⟩ := Prod.mk.inj result
            exact (induction others (fun _ member => absurd member List.not_mem_nil)
              done).delete fresh stored emptied

end Loop

section Spec

variable {id now : Int} {database after : Database} {group : Int × String}
  {row : StoredInbound} {stat : ClientTraffic}

theorem exists_depleted_of_group
    (member : group ∈ depletedGroups id now database.traffics) :
    ∃ stat ∈ database.traffics, isDepletedOf id now stat = true ∧
      stat.inboundId = group.1 := by
  obtain ⟨inboundId, inIds, rfl⟩ := List.mem_map.mp member
  simp only [List.mem_mergeSort, List.mem_eraseDups, List.mem_map] at inIds
  obtain ⟨stat, inRows, rfl⟩ := inIds
  obtain ⟨inTable, gone⟩ := List.mem_filter.mp inRows
  exact ⟨stat, inTable, gone, rfl⟩

theorem mem_depletedEmails {inboundId : Int} {email : String} :
    email ∈ depletedEmails id now inboundId database ↔
      ∃ stat ∈ database.traffics, isDepletedOf id now stat = true ∧
        stat.inboundId = inboundId ∧ stat.email = email := by
  simp only [depletedEmails, List.mem_map, mem_depletedRows, and_assoc]

/-- The client of a row. -/
theorem exists_item_of_stat
    (mirrored : Mirrored (fun _ _ => True) database)
    (inTable : stat ∈ database.traffics)
    (stored : database.inbounds.find? stat.inboundId = some row) :
    ∃ item ∈ clientItems row, itemEmail item = stat.email := by
  obtain ⟨member, named⟩ := Table.find?_eq_some.mp stored
  obtain ⟨item, inItems, same⟩ := mem_emails_clientItems.mp
    ((mirrored.covered row member).client stat inTable named.symm)
  exact ⟨item, inItems, (itemEmail_eq item).trans same⟩

/-- The loop of a successful deletion. -/
theorem exists_loop
    (succeeded : delDepletedClients id now database = (none, after)) :
    ∃ committed written,
      LoopResult (depletedGroups id now database.traffics) database []
        committed written ∧
      after.inbounds = (pending committed written).inbounds ∧
      after.traffics = committed.traffics.filter (!isDepletedOf id now ·) := by
  unfold delDepletedClients at succeeded
  split at succeeded
  · cases succeeded
  · cases succeeded
  next committed written ran =>
    obtain rfl := (Prod.mk.inj succeeded).2
    exact ⟨committed, written, loopResult nodup_depletedGroups
      (fun _ member => absurd member List.not_mem_nil) ran, rfl, rfl⟩

/-- A depleted e-mail with a comma stays in the settings. -/
theorem plain_of_removes (mirrored : Mirrored (fun _ _ => True) database)
    (succeeded : delDepletedClients id now database = (none, after))
    (removes : RemovesDepleted id now database after)
    (inTable : stat ∈ database.traffics)
    (gone : isDepletedOf id now stat = true) : ',' ∉ stat.email.toList := by
  intro comma
  obtain ⟨committed, written, loop, inbounds, -⟩ := exists_loop succeeded
  obtain ⟨group, inGroups, owner⟩ :=
    List.mem_map.mp (mem_depletedGroups inTable gone)
  obtain ⟨before, behind, split⟩ := List.append_of_mem inGroups
  obtain ⟨row, stored, outcome⟩ := loop.each before group behind split
  obtain ⟨item, inItems, named⟩ :=
    exists_item_of_stat mirrored inTable (owner ▸ stored)
  have kept : item ∈ keptItems group row := by
    refine List.mem_filter.mpr ⟨inItems, decide_eq_true fun listed => ?_⟩
    exact not_mem_of_mem_splitCommas listed (named ▸ comma)
  have sameId : row.id = group.1 := (Table.find?_eq_some.mp stored).2
  rw [← inbounds, ← sameId] at outcome
  generalize found : after.inbounds.find? row.id = result at outcome
  cases outcome with
  | saved =>
      obtain ⟨items, -, -⟩ := removes.settings row
        (Table.find?_eq_some.mp stored).1 _ found
      rw [clientItems_withItems] at items
      rw [items] at kept
      have unlisted := of_decide_eq_true (List.mem_filter.mp kept).2
      apply unlisted
      exact mem_depletedEmails.mpr
        ⟨stat, inTable, gone, owner.symm.trans sameId.symm, named.symm⟩
  | deleted emptied =>
      rw [emptied] at kept
      cases kept
  | ignored emptied =>
      rw [emptied] at kept
      cases kept

/-- An inbound that is emptied after another one was saved is not deleted. -/
theorem ordered_of_removes (mirrored : Mirrored (fun _ _ => True) database)
    (succeeded : delDepletedClients id now database = (none, after))
    (removes : RemovesDepleted id now database after)
    (plain : ∀ stat ∈ database.traffics, isDepletedOf id now stat = true →
      ',' ∉ stat.email.toList) :
    (depletedGroups id now database.traffics).Pairwise fun first later =>
      Empties database.inbounds later → Empties database.inbounds first := by
  obtain ⟨committed, written, loop, inbounds, -⟩ := exists_loop succeeded
  rw [List.pairwise_iff_getElem]
  intro early late earlyIn lateIn less empties
  by_contra lasting
  generalize groupsAre : depletedGroups id now database.traffics = groups
    at loop earlyIn lateIn empties lasting
  have split : groups = groups.take late ++ groups[late] ::
      groups.drop (late + 1) := by simp
  have earlier : groups[early] ∈ groups.take late :=
    List.mem_take_iff_getElem.mpr ⟨early, by omega, rfl⟩
  have inGroups : groups[late] ∈ depletedGroups id now database.traffics :=
    groupsAre ▸ List.getElem_mem lateIn
  obtain ⟨row, stored, outcome⟩ := loop.each _ _ _ split
  obtain ⟨member, sameId⟩ := Table.find?_eq_some.mp stored
  have emptied := (keptItems_eq_nil stored).mpr empties
  obtain ⟨stat, inTable, -, owner⟩ := exists_depleted_of_group inGroups
  obtain ⟨item, inItems, -⟩ :=
    exists_item_of_stat mirrored inTable (owner ▸ stored)
  have all : ∀ item ∈ clientItems row,
      itemEmail item ∈ depletedEmails id now row.id database := by
    intro item inItems
    have listed := empties row stored item inItems
    rw [splitCommas_of_group plain inGroups] at listed
    rwa [depletedEmails, sameId]
  have removed := (removes.emptied row member).mpr
    ⟨List.ne_nil_of_mem inItems, all⟩
  rw [inbounds, sameId] at removed
  rw [removed] at outcome
  cases outcome with
  | deleted _ _ empty => exact lasting (empty _ earlier)

/-- The clients of an inbound whose rows are not depleted. -/
def lastingItems (id now : Int) (database : Database) (row : StoredInbound) :
    List Json :=
  (clientItems row).filter
    (itemEmail · ∉ depletedEmails id now row.id database)

/-- What becomes of an inbound when the e-mails are read back as they are and
the emptied inbounds come first. -/
theorem cases_of_cleanly (mirrored : Mirrored (fun _ _ => True) database)
    (succeeded : delDepletedClients id now database = (none, after))
    (cleanly : DepletesCleanly database id now)
    (member : row ∈ database.inbounds) :
    (depletedEmails id now row.id database = [] ∧
      after.inbounds.find? row.id = some row) ∨
    (lastingItems id now database row ≠ [] ∧ after.inbounds.find? row.id =
      some (withItems row (.arr (lastingItems id now database row)))) ∨
    (lastingItems id now database row = [] ∧ clientItems row ≠ [] ∧
      after.inbounds.find? row.id = none) := by
  obtain ⟨committed, written, loop, inbounds, -⟩ := exists_loop succeeded
  rw [inbounds]
  have stored := Table.find?_eq_some.mpr ⟨member, @rfl _ row.id⟩
  by_cases listed :
      row.id ∈ (depletedGroups id now database.traffics).map Prod.fst
  · right
    obtain ⟨group, inGroups, owner⟩ := List.mem_map.mp listed
    obtain ⟨before, behind, split⟩ := List.append_of_mem inGroups
    obtain ⟨other, found, outcome⟩ := loop.each before group behind split
    rw [owner] at found outcome
    obtain rfl := Option.some.inj (found.symm.trans stored)
    have same : keptItems group other = lastingItems id now database other := by
      rw [keptItems, splitCommas_of_group cleanly.plain inGroups, owner]
      rfl
    have first : keptItems group other = [] → ∀ earlier ∈ before,
        Empties database.inbounds earlier := by
      intro emptied earlier inBefore
      have ordered := cleanly.ordered
      rw [split, List.pairwise_append] at ordered
      refine ordered.2.2 earlier inBefore group List.mem_cons_self ?_
      exact (keptItems_eq_nil (owner ▸ stored)).mp emptied
    generalize (pending committed written).inbounds.find? other.id = result
      at outcome ⊢
    cases outcome with
    | saved kept =>
        rw [same] at kept ⊢
        exact .inl ⟨kept, rfl⟩
    | deleted emptied =>
        obtain ⟨stat, inTable, -, statOwner⟩ := exists_depleted_of_group inGroups
        obtain ⟨item, inItems, -⟩ := exists_item_of_stat mirrored inTable
          ((statOwner.trans owner) ▸ stored)
        exact .inr ⟨same ▸ emptied, List.ne_nil_of_mem inItems, rfl⟩
    | ignored emptied written =>
        rcases written with some | ⟨earlier, inBefore, lasting⟩
        · exact absurd rfl some
        · exact absurd (first emptied earlier inBefore) lasting
  · left
    constructor
    · apply List.eq_nil_iff_forall_not_mem.mpr
      intro email inEmails
      obtain ⟨stat, inTable, gone, owner, -⟩ := mem_depletedEmails.mp inEmails
      exact listed (owner ▸ mem_depletedGroups inTable gone)
    · rw [loop.elsewhere _ listed]
      exact stored

theorem removes_of_cleanly (mirrored : Mirrored (fun _ _ => True) database)
    (succeeded : delDepletedClients id now database = (none, after))
    (cleanly : DepletesCleanly database id now) :
    RemovesDepleted id now database after := by
  have cases_ := fun row member =>
    @cases_of_cleanly id now database after row mirrored succeeded cleanly member
  obtain ⟨committed, written, loop, inbounds, traffics⟩ := exists_loop succeeded
  constructor
  case emptied =>
    intro row member
    rcases cases_ row member with ⟨none, found⟩ | ⟨some, found⟩ |
      ⟨emptied, items, found⟩
    · refine iff_of_false (by simp [found]) ?_
      rintro ⟨items, every⟩
      obtain ⟨item, inItems⟩ := List.exists_mem_of_ne_nil _ items
      exact absurd (every item inItems) (by simp [none])
    · refine iff_of_false (by simp [found]) ?_
      rintro ⟨-, every⟩
      apply some
      rw [lastingItems, List.filter_eq_nil_iff]
      intro item inItems
      simpa using every item inItems
    · refine iff_of_true found ⟨items, fun item inItems => ?_⟩
      simpa using List.filter_eq_nil_iff.mp emptied item inItems
  case settings =>
    intro row member later found
    rcases cases_ row member with ⟨none, same⟩ | ⟨-, same⟩ | ⟨-, -, same⟩
    · obtain rfl := Option.some.inj (same.symm.trans found)
      exact ⟨by simp [none], rfl, fun _ _ => rfl⟩
    · obtain rfl := Option.some.inj (same.symm.trans found)
      refine ⟨clientItems_withItems row _, rfl, fun field other => ?_⟩
      exact JsonObject.get_set_ne other
    · rw [same] at found
      cases found
  case rows =>
    intro stat
    have owned : ∀ stat ∈ database.traffics,
        ((pending database []).inbounds.find? stat.inboundId).isSome = true := by
      intro other inTable
      obtain ⟨row, member, owner⟩ := mirrored.owned other inTable
      exact Option.isSome_iff_exists.mpr
        ⟨row, Table.find?_eq_some.mpr ⟨member, owner⟩⟩
    rw [traffics, Table.mem_filter, loop.rows owned, ← inbounds,
      Bool.not_eq_true', and_assoc]
    refine and_congr_right fun inTable => and_iff_right_of_imp fun lasting => ?_
    obtain ⟨row, member, owner⟩ := mirrored.owned stat inTable
    rw [← owner]
    rcases cases_ row member with ⟨-, found⟩ | ⟨-, found⟩ | ⟨emptied, -, -⟩
    · rw [found, Option.isSome_some]
    · rw [found, Option.isSome_some]
    · obtain ⟨item, inItems, named⟩ := exists_item_of_stat mirrored inTable
        (Table.find?_eq_some.mpr ⟨member, owner⟩)
      have listed := List.filter_eq_nil_iff.mp emptied item inItems
      rw [decide_eq_true_eq, not_not, named] at listed
      obtain ⟨other, otherIn, gone, -, same⟩ := mem_depletedEmails.mp listed
      obtain rfl := Table.eq_of_key_eq otherIn inTable same
      rw [gone] at lasting
      cases lasting
  case others =>
    intro later member
    have found : after.inbounds.find? later.id = some later :=
      Table.find?_eq_some.mpr ⟨member, rfl⟩
    rw [inbounds] at found
    by_cases listed :
        later.id ∈ (depletedGroups id now database.traffics).map Prod.fst
    · obtain ⟨group, inGroups, owner⟩ := List.mem_map.mp listed
      obtain ⟨before, behind, split⟩ := List.append_of_mem inGroups
      obtain ⟨row, stored, -⟩ := loop.each before group behind split
      obtain ⟨rowMember, named⟩ := Table.find?_eq_some.mp stored
      exact ⟨row, rowMember, named.trans owner⟩
    · rw [loop.elsewhere _ listed] at found
      exact ⟨later, Table.find?_eq_some.mp found⟩

end Spec

/-- A form on a port of its own, each client with an expiry. -/
def expiringForm (port : Int) (clients : List (String × Int)) :
    StoredInbound :=
  { inboundForm [] with
    port := port
    tag := toString port
    settings := .parsed (.obj [("clients", .arr (clients.map fun client =>
      .obj [("id", .str client.1), ("email", .str client.1),
        ("enable", .bool true), ("expiryTime", .int client.2)]))]) }

/-- The client of this name expires, and bob does not. -/
def expires (name : String) : Database :=
  (perform (.addInbound (expiringForm 443 [(name, 500), ("bob", 0)]) [])
    ⟨100, 1, true, true⟩ Call.noFaults emptyDatabase).2

theorem mirrored_expires {name : String} (named : name ≠ "")
    (succeeded : (perform (.addInbound
      (expiringForm 443 [(name, 500), ("bob", 0)]) []) ⟨100, 1, true, true⟩
      Call.noFaults emptyDatabase).1 = none) :
    Mirrored (fun _ _ => True) (expires name) := by
  refine mirrored_empty.addInbound ⟨fun _ _ => trivial, fun _ _ => trivial⟩
    ?_ ?_ (Prod.ext succeeded rfl)
  · change ∀ email ∈ [name, "bob"], email ≠ ""
    simp [named]
  · exact fun _ member => absurd member Table.not_mem_empty

end VpnUi.Store
