import Mathlib.Algebra.BigOperators.Group.Finset.Basic
import VpnUi.Store.Correspondence

namespace VpnUi.Store

open Foundation Panel

/-! Bulk deletion with its counts, in any order in which the maps of the source
are gone through. -/

structure BulkCounts where
  applied : Nat
  skipped : Nat

/-- An inbound is not emptied: the e-mail at this place of the map is spared. -/
def bulkSparedAt (place : Nat) (items : List Json) (deleted : List String) :
    List String :=
  let total := items.countP isObject
  if 0 < total ∧ total ≤ deleted.length then
    deleted.eraseIdx (place % deleted.length)
  else deleted

def bulkDrops (deleted : List String) (item : Json) : Bool :=
  itemEmail item ≠ "" && itemEmail item ∈ deleted

/-- The clients are gone through again: those to delete are counted as applied
and lose their rows, the other targets are counted as skipped. -/
def bulkDeleteItems (place : Nat) (request : BulkClientUpdateRequest)
    (emails : List String) (items : List Json) :
    BulkCounts × List Json × List Statement :=
  let deleted := bulkSparedAt place items (bulkDeleted request emails items)
  let kept := items.filter fun item => !bulkDrops deleted item
  let dropped := items.filter (bulkDrops deleted)
  (⟨dropped.length, kept.countP fun item =>
      itemEmail item ≠ "" && itemEmail item ∈ emails⟩,
    kept,
    dropped.flatMap fun item =>
      [writeRows .rolledBack (Database.delClientStat · (itemEmail item)),
        writeRows .rolledBack (Database.delClientIPs · (itemEmail item))])

def bulkDeleteInbound (place : Nat) (request : BulkClientUpdateRequest)
    (database : Database) (inboundId : Int) (emails : List String) :
    BulkCounts × List Statement :=
  match database.inbounds.find? inboundId with
  | none => (⟨0, 0⟩, [fail .rolledBack (.panel .notFound)])
  | some row =>
      match row.settings.object? with
      | none => (⟨0, 0⟩, [fail .rolledBack (.panel .malformedSettings)])
      | some object =>
          let fields := object.getD []
          match JsonObject.get fields "clients" with
          | .arr items =>
              let (counts, kept, statements) :=
                bulkDeleteItems place request emails items
              (counts,
                if statements = [] then []
                else
                  statements ++ [write .rolledBack (Database.saveInbound · {
                    row with
                    settings := .parsed (.obj (JsonObject.set fields "clients"
                      (sliceJson kept))) })])
          | _ => (⟨0, 0⟩, [])

/-- `BulkUpdateClients` for a deletion, the inbounds in this order. -/
def bulkDeleteClients (places : Int → Nat)
    (order : List (Int × List String)) (request : BulkClientUpdateRequest)
    (database : Database) : BulkCounts × List Statement :=
  let each := order.map fun (inboundId, emails) =>
    bulkDeleteInbound (places inboundId) request database inboundId emails
  (⟨(each.map (·.1.applied)).sum, (each.map (·.1.skipped)).sum⟩,
    each.flatMap Prod.snd)

/-- A sum over distinct items is one over those that count. -/
theorem sum_map_of_subset {Part : Type*} {part whole : List Part}
    {count : Part → Nat} (nodup : part.Nodup) (nodupWhole : whole.Nodup)
    (within : ∀ item ∈ part, item ∈ whole)
    (none : ∀ item ∈ whole, item ∉ part → count item = 0) :
    (part.map count).sum = (whole.map count).sum := by
  classical
  rw [← List.sum_toFinset count nodup, ← List.sum_toFinset count nodupWhole]
  apply Finset.sum_subset
  · intro item member
    exact List.mem_toFinset.mpr (within item (List.mem_toFinset.mp member))
  · intro item member absent
    exact none item (List.mem_toFinset.mp member)
      fun inPart => absent (List.mem_toFinset.mpr inPart)

section Items

variable {place : Nat} {request : BulkClientUpdateRequest}
  {emails : List String} {items : List Json}

theorem bulkSparedAt_zero {deleted : List String} :
    bulkSparedAt 0 items deleted = bulkSpared items deleted := by
  simp [bulkSparedAt, bulkSpared]

/-- With the first place the statements are those of `bulkInbound`. -/
theorem bulkDeleteInbound_zero {database : Database} {inboundId now : Int}
    (delete : request.op = .delete) :
    (bulkDeleteInbound 0 request database inboundId emails).2 =
      bulkInbound request now database inboundId emails := by
  unfold bulkDeleteInbound bulkInbound
  cases database.inbounds.find? inboundId with
  | none => rfl
  | some row =>
      cases decoded : row.settings.object? with
      | none => simp only [decoded]
      | some object =>
          simp only [decoded]
          cases JsonObject.get (object.getD []) "clients" with
          | arr items =>
              simp only [bulkClients, if_pos delete, bulkDelete,
                bulkDeleteItems, bulkSparedAt_zero]
              rfl
          | _ => rfl

theorem bulkUpdateClients_of_delete {database : Database} {now : Int}
    (delete : request.op = .delete) :
    bulkUpdateClients request now database =
      (bulkDeleteClients (fun _ => 0) (byInbound request.targets) request
        database).2 := by
  unfold bulkUpdateClients bulkDeleteClients
  rw [delete]
  dsimp only
  rw [List.flatMap_map]
  apply List.flatMap_congr
  intro group _
  exact (bulkDeleteInbound_zero delete).symm

/-- A client that a deletion of these e-mails is for. -/
def isWanted (request : BulkClientUpdateRequest) (emails : List String) :
    Json → Bool
  | .obj client => emailOf client ≠ "" && emailOf client ∈ emails &&
      !bulkClientSkipped client request
  | _ => false

/-- The e-mails are distinct; clients may lack one. -/
def DistinctEmails (items : List Json) : Prop :=
  ((items.map itemEmail).filter (· ≠ "")).Nodup

theorem isWanted_eq_true {item : Json} :
    isWanted request emails item = true → isObject item = true ∧
      itemEmail item ≠ "" ∧ itemEmail item ∈ emails := by
  cases item with
  | obj client =>
      simp only [isWanted, Bool.and_eq_true, decide_eq_true_eq]
      exact fun wanted => ⟨rfl, wanted.1⟩
  | _ => exact fun wanted => nomatch wanted

theorem bulkDeleted_eq : bulkDeleted request emails items =
    ((items.filter (isWanted request emails)).map itemEmail).eraseDups := by
  unfold bulkDeleted
  congr 1
  induction items with
  | nil => rfl
  | cons item rest induction =>
      rw [List.filterMap_cons, List.filter_cons, induction]
      cases item with
      | obj client =>
          simp only [isWanted]
          by_cases blank : emailOf client = ""
          · simp [blank]
          · by_cases listed : emailOf client ∈ emails
            · rcases Bool.eq_false_or_eq_true (bulkClientSkipped client request)
                with skipped | skipped
              · simp [blank, listed, skipped]
              · simp [blank, listed, skipped, itemEmail]
            · simp [blank, listed]
      | _ => rfl

theorem mem_bulkDeleted {email : String} :
    email ∈ bulkDeleted request emails items ↔
      ∃ item ∈ items, isWanted request emails item = true ∧
        itemEmail item = email := by
  rw [bulkDeleted_eq, List.mem_eraseDups]
  simp only [List.mem_map, List.mem_filter, and_assoc]

/-- Two clients with e-mails are one if their e-mails are equal. -/
theorem DistinctEmails.sublist {others : List Json}
    (distinct : DistinctEmails items) (part : others.Sublist items) :
    DistinctEmails others :=
  List.Nodup.sublist ((part.map itemEmail).filter _) distinct

theorem DistinctEmails.nodup_wanted (distinct : DistinctEmails items) :
    ((items.filter (isWanted request emails)).map itemEmail).Nodup := by
  have part := distinct.sublist
    (@List.filter_sublist _ (isWanted request emails) items)
  unfold DistinctEmails at part
  rwa [List.filter_eq_self.mpr] at part
  intro email listed
  obtain ⟨item, member, rfl⟩ := List.mem_map.mp listed
  exact decide_eq_true
    (isWanted_eq_true (List.mem_filter.mp member).2).2.1

theorem length_bulkDeleted (distinct : DistinctEmails items) :
    (bulkDeleted request emails items).length =
      items.countP (isWanted request emails) := by
  rw [bulkDeleted_eq, eraseDups_of_nodup distinct.nodup_wanted,
    List.length_map, List.countP_eq_length_filter]

theorem DistinctEmails.eq_of_email_eq (distinct : DistinctEmails items)
    {item other : Json} (member : item ∈ items) (otherMember : other ∈ items)
    (named : itemEmail item ≠ "") (same : itemEmail item = itemEmail other) :
    item = other := by
  unfold DistinctEmails at distinct
  rw [List.filter_map] at distinct
  apply List.inj_on_of_nodup_map distinct
  · exact List.mem_filter.mpr ⟨member, by simpa using named⟩
  · exact List.mem_filter.mpr ⟨otherMember, by simpa [← same] using named⟩
  · exact same

/-- Every client is wanted, and there is one. -/
def WantsAll (request : BulkClientUpdateRequest) (emails : List String)
    (items : List Json) : Prop :=
  (∃ item ∈ items, isObject item = true) ∧
    ∀ item ∈ items, isObject item = true → isWanted request emails item = true

/-- The e-mail that is spared, if any is. -/
def sparedEmail (place : Nat) (request : BulkClientUpdateRequest)
    (emails : List String) (items : List Json) : Option String :=
  let deleted := bulkDeleted request emails items
  let total := items.countP isObject
  if 0 < total ∧ total ≤ deleted.length then
    deleted[place % deleted.length]?
  else none

theorem bulkSparedAt_test_iff (distinct : DistinctEmails items) :
    (0 < items.countP isObject ∧
        items.countP isObject ≤ (bulkDeleted request emails items).length) ↔
      WantsAll request emails items := by
  rw [List.countP_pos_iff, length_bulkDeleted distinct]
  apply and_congr_right
  intro _
  have objects : items.filter (isWanted request emails) =
      (items.filter isObject).filter (isWanted request emails) := by
    rw [List.filter_filter]
    apply List.filter_congr
    intro item _
    cases wanted : isWanted request emails item with
    | false => rfl
    | true => rw [(isWanted_eq_true wanted).1]; rfl
  rw [List.countP_eq_length_filter, List.countP_eq_length_filter, objects]
  constructor
  · intro many item member object
    have whole := le_antisymm (List.length_filter_le _ _) many
    exact List.length_filter_eq_length_iff.mp whole item
      (List.mem_filter.mpr ⟨member, object⟩)
  · intro every
    have same : (items.filter isObject).filter (isWanted request emails) =
        items.filter isObject := by
      apply List.filter_eq_self.mpr
      intro item member
      obtain ⟨inItems, object⟩ := List.mem_filter.mp member
      exact every item inItems object
    rw [same]

theorem sparedEmail_isSome (distinct : DistinctEmails items) :
    (sparedEmail place request emails items).isSome = true ↔
      WantsAll request emails items := by
  rw [← bulkSparedAt_test_iff distinct]
  unfold sparedEmail
  dsimp only
  split
  next all =>
    refine iff_of_true ?_ all
    have positive := all.1.trans_le all.2
    rw [List.getElem?_eq_getElem (Nat.mod_lt _ positive), Option.isSome_some]
  next some => exact iff_of_false (by simp) some

theorem exists_of_sparedEmail {email : String}
    (spared : sparedEmail place request emails items = some email) :
    ∃ item ∈ items, isWanted request emails item = true ∧
      itemEmail item = email := by
  unfold sparedEmail at spared
  dsimp only at spared
  split at spared
  · exact mem_bulkDeleted.mp (List.mem_of_getElem? spared)
  · cases spared

/-- A client is removed if it is wanted and not the one that is spared. -/
def isRemoved (request : BulkClientUpdateRequest) (emails : List String)
    (spared : Option String) (item : Json) : Bool :=
  isWanted request emails item && spared ≠ some (itemEmail item)

theorem bulkDrops_eq (distinct : DistinctEmails items) {item : Json}
    (member : item ∈ items) :
    bulkDrops (bulkSparedAt place items (bulkDeleted request emails items))
        item =
      isRemoved request emails (sparedEmail place request emails items)
        item := by
  have listed : itemEmail item ≠ "" →
      (itemEmail item ∈ bulkDeleted request emails items ↔
        isWanted request emails item = true) := by
    intro named
    rw [mem_bulkDeleted]
    constructor
    · rintro ⟨other, otherIn, wanted, same⟩
      rwa [distinct.eq_of_email_eq member otherIn named same.symm]
    · exact fun wanted => ⟨item, member, wanted, rfl⟩
  have nodup : (bulkDeleted request emails items).Nodup := by
    rw [bulkDeleted_eq]
    exact nodup_eraseDups _
  apply Bool.eq_iff_iff.mpr
  simp only [bulkDrops, isRemoved, Bool.and_eq_true, decide_eq_true_eq]
  unfold bulkSparedAt sparedEmail
  dsimp only
  split
  · rw [mem_eraseIdx_of_nodup nodup]
    constructor
    · rintro ⟨named, inDeleted, differs⟩
      exact ⟨(listed named).mp inDeleted, differs⟩
    · rintro ⟨wanted, differs⟩
      have named := (isWanted_eq_true wanted).2.1
      exact ⟨named, (listed named).mpr wanted, differs⟩
  · constructor
    · rintro ⟨named, inDeleted⟩
      exact ⟨(listed named).mp inDeleted, by simp⟩
    · rintro ⟨wanted, -⟩
      have named := (isWanted_eq_true wanted).2.1
      exact ⟨named, (listed named).mpr wanted⟩

end Items

def targetsOf (request : BulkClientUpdateRequest) (inboundId : Int) :
    List String :=
  ((request.targets.filter (·.2 ≠ "")).filter (·.1 = inboundId)).map Prod.snd

/-- A client is among the targets, whether it is skipped or not. -/
def isTargeted (request : BulkClientUpdateRequest) (inboundId : Int)
    (item : Json) : Bool :=
  itemEmail item ≠ "" && itemEmail item ∈ targetsOf request inboundId

section Inbound

variable {place number : Nat} {request : BulkClientUpdateRequest}
  {initial database state after : Database} {inboundId : Int}
  {row : StoredInbound}

/-- The clients that a deletion removes from an inbound. -/
def removedItems (place : Nat) (request : BulkClientUpdateRequest)
    (row : StoredInbound) : List Json :=
  let emails := targetsOf request row.id
  (clientItems row).filter (isRemoved request emails
    (sparedEmail place request emails (clientItems row)))

def remainingItems (place : Nat) (request : BulkClientUpdateRequest)
    (row : StoredInbound) : List Json :=
  let emails := targetsOf request row.id
  (clientItems row).filter fun item => !isRemoved request emails
    (sparedEmail place request emails (clientItems row)) item

def shortenedRow (place : Nat) (request : BulkClientUpdateRequest)
    (row : StoredInbound) : StoredInbound :=
  if removedItems place request row = [] then row
  else withItems row (sliceJson (remainingItems place request row))

theorem shortenedRow_id :
    (shortenedRow place request row).id = row.id := by
  unfold shortenedRow
  split <;> rfl

theorem bulkDeleteItems_eq (distinct : DistinctEmails (clientItems row)) :
    bulkDeleteItems place request (targetsOf request row.id)
        (clientItems row) =
      (⟨(removedItems place request row).length,
        (remainingItems place request row).countP
          (isTargeted request row.id)⟩,
        remainingItems place request row,
        (removedItems place request row).flatMap fun item =>
          [writeRows .rolledBack (Database.delClientStat · (itemEmail item)),
            writeRows .rolledBack
              (Database.delClientIPs · (itemEmail item))]) := by
  have dropped : (clientItems row).filter (bulkDrops (bulkSparedAt place
      (clientItems row) (bulkDeleted request (targetsOf request row.id)
        (clientItems row)))) = removedItems place request row :=
    List.filter_congr fun item member => bulkDrops_eq distinct member
  have kept : (clientItems row).filter (fun item => !bulkDrops (bulkSparedAt
      place (clientItems row) (bulkDeleted request (targetsOf request row.id)
        (clientItems row))) item) = remainingItems place request row :=
    List.filter_congr fun item member => by rw [bulkDrops_eq distinct member]
  unfold bulkDeleteItems
  dsimp only
  rw [dropped, kept]
  rfl

/-- One inbound of a deletion: its counts, and what a successful run of its
statements does. -/
theorem run_bulkDeleteInbound (stored : database.inbounds.find? inboundId =
      some row)
    (distinct : DistinctEmails (clientItems row))
    (same : state.inbounds.find? inboundId = database.inbounds.find? inboundId)
    (ran : Call.run initial Call.noFaults number (bulkDeleteInbound place
      request database inboundId (targetsOf request inboundId)).2 state =
        (none, after)) :
    (bulkDeleteInbound place request database inboundId
        (targetsOf request inboundId)).1 =
      ⟨(removedItems place request row).length,
        (remainingItems place request row).countP
          (isTargeted request row.id)⟩ ∧
    after = ⟨state.inbounds.save (shortenedRow place request row),
      ((removedItems place request row).map itemEmail).foldl Table.delete
        state.traffics,
      ((removedItems place request row).map itemEmail).foldl Table.delete
        state.ips⟩ := by
  obtain ⟨member, rfl⟩ := Table.find?_eq_some.mp (same.trans stored)
  unfold bulkDeleteInbound at ran ⊢
  rw [stored] at ran ⊢
  dsimp only at ran ⊢
  cases decoded : row.settings.object? with
  | none =>
      rw [decoded] at ran
      cases ran
  | some object =>
      have fields : object.getD [] = row.settings.fields := by
        rw [JsonText.fields, decoded, Option.getD_some]
      rw [decoded] at ran
      dsimp only at ran ⊢
      rw [fields] at ran ⊢
      cases read : JsonObject.get row.settings.fields "clients" with
      | arr items =>
          rw [read] at ran
          dsimp only at ran ⊢
          rw [← clientItems_of_array read, bulkDeleteItems_eq distinct] at ran ⊢
          refine ⟨rfl, ?_⟩
          dsimp only at ran
          unfold shortenedRow
          split at ran
          next silent =>
            have none : removedItems place request row = [] := by
              cases gone : removedItems place request row with
              | nil => rfl
              | cons item rest =>
                  rw [gone] at silent
                  cases silent
            rw [if_pos none, none, Table.save_eq_self member]
            exact (Prod.mk.inj ran).2.symm
          next loud =>
            have some : removedItems place request row ≠ [] := by
              intro none
              exact loud (by rw [none]; rfl)
            rw [if_neg some]
            rw [Call.run_append_eq_none] at ran
            obtain ⟨reached, items, saved⟩ := ran
            obtain rfl := run_saveInbound (by simp) saved
            obtain rfl := (Prod.mk.inj (run_bulkDeleted.symm.trans items)).2
            rfl
      | _ =>
          rw [read] at ran
          have none : clientItems row = [] := by rw [clientItems, read]
          have removed : removedItems place request row = [] := by
            rw [removedItems, none]
            rfl
          have remaining : remainingItems place request row = [] := by
            rw [remainingItems, none]
            rfl
          rw [shortenedRow, if_pos removed, removed, remaining,
            Table.save_eq_self member]
          exact ⟨rfl, (Prod.mk.inj ran).2.symm⟩

/-- The deletion as a whole: one shortened row for each inbound of the order. -/
theorem run_bulkDeleteClients {places : Int → Nat}
    {groups : List (Int × List String)}
    (nodup : (groups.map Prod.fst).Nodup)
    (targets : ∀ group ∈ groups, group.2 = targetsOf request group.1)
    (distinct : ∀ row ∈ database.inbounds, DistinctEmails (clientItems row))
    (same : ∀ group ∈ groups, state.inbounds.find? group.1 =
      database.inbounds.find? group.1)
    (ran : Call.run initial Call.noFaults number
      (bulkDeleteClients places groups request database).2 state =
        (none, after)) :
    ∃ rows : List StoredInbound, rows.map (·.id) = groups.map Prod.fst ∧
      (∀ row ∈ rows, row ∈ database.inbounds) ∧
      (bulkDeleteClients places groups request database).1 =
        ⟨(rows.map fun row =>
            (removedItems (places row.id) request row).length).sum,
          (rows.map fun row => (remainingItems (places row.id) request
            row).countP (isTargeted request row.id)).sum⟩ ∧
      after = ⟨(rows.map fun row =>
          shortenedRow (places row.id) request row).foldl Table.save
            state.inbounds,
        ((rows.flatMap fun row => removedItems (places row.id) request row).map
          itemEmail).foldl Table.delete state.traffics,
        ((rows.flatMap fun row => removedItems (places row.id) request row).map
          itemEmail).foldl Table.delete state.ips⟩ := by
  induction groups generalizing state number with
  | nil => exact ⟨[], rfl, by simp, rfl, (Prod.mk.inj ran).2.symm⟩
  | cons group rest induction =>
      obtain ⟨fresh, others⟩ := List.nodup_cons.mp nodup
      rw [List.forall_mem_cons] at targets same
      have script : (bulkDeleteClients places (group :: rest) request
          database).2 =
          (bulkDeleteInbound (places group.1) request database group.1
            (targetsOf request group.1)).2 ++
            (bulkDeleteClients places rest request database).2 := by
        rw [← targets.1]
        rfl
      rw [script, Call.run_append_eq_none] at ran
      obtain ⟨middle, first, later⟩ := ran
      cases stored : database.inbounds.find? group.1 with
      | none =>
          unfold bulkDeleteInbound at first
          rw [stored] at first
          cases first
      | some row =>
          obtain ⟨member, named⟩ := Table.find?_eq_some.mp stored
          obtain ⟨counts, rfl⟩ := run_bulkDeleteInbound stored
            (distinct row member) same.1 first
          have apart : ∀ other ∈ rest,
              (state.inbounds.save (shortenedRow (places group.1) request
                row)).find? other.1 = database.inbounds.find? other.1 := by
            intro other inRest
            rw [Table.find?_save_ne, same.2 other inRest]
            rw [shortenedRow_id, named]
            exact fun again => fresh (again ▸ List.mem_map_of_mem inRest)
          obtain ⟨rows, ids, inTable, restCounts, rfl⟩ :=
            induction others targets.2 apart later
          refine ⟨row :: rows, ?_, ?_, ?_, ?_⟩
          · rw [List.map_cons, List.map_cons, ids, named]
          · exact List.forall_mem_cons.mpr ⟨member, inTable⟩
          · have applied := congrArg BulkCounts.applied restCounts
            have skipped := congrArg BulkCounts.skipped restCounts
            have split : (bulkDeleteClients places (group :: rest) request
                database).1 =
                ⟨(bulkDeleteInbound (places group.1) request database group.1
                    group.2).1.applied +
                  (bulkDeleteClients places rest request database).1.applied,
                (bulkDeleteInbound (places group.1) request database group.1
                    group.2).1.skipped +
                  (bulkDeleteClients places rest request
                    database).1.skipped⟩ := rfl
            rw [split, targets.1, counts, applied, skipped, List.map_cons,
              List.map_cons, List.sum_cons, List.sum_cons, named]
          · simp only [List.map_cons, List.foldl_cons, List.flatMap_cons,
              List.map_append, List.foldl_append, named]

end Inbound

/-- The clients that are removed from the panel, where these are spared. -/
def removedEmails (request : BulkClientUpdateRequest)
    (spared : Int → Option String) (database : Database) : List String :=
  (database.inbounds.rows.flatMap fun row => (clientItems row).filter
    (isRemoved request (targetsOf request row.id) (spared row.id))).map
      itemEmail

/-- The targets that a client of the panel is for. -/
def presentTargets (request : BulkClientUpdateRequest) (database : Database) :
    List (Int × String) :=
  request.targets.dedup.filter fun target =>
    target.2 ≠ "" && database.inbounds.rows.any fun row =>
      row.id = target.1 && (clientItems row).any (itemEmail · = target.2)

/-- Exactly the targets are deleted, as far as they are not skipped and an
inbound keeps a client. -/
structure DeletesTargets (request : BulkClientUpdateRequest)
    (spared : Int → Option String) (database after : Database)
    (counts : BulkCounts) : Prop where
  settings : ∀ row ∈ database.inbounds, ∃ later,
    after.inbounds.find? row.id = some later ∧
      clientItems later = (clientItems row).filter (fun item =>
        !isRemoved request (targetsOf request row.id) (spared row.id) item) ∧
      { later with settings := row.settings } = row ∧
      ∀ field, field ≠ "clients" →
        later.settings.fields.get field = row.settings.fields.get field
  sparing : ∀ row ∈ database.inbounds,
    ((spared row.id).isSome = true ↔
      WantsAll request (targetsOf request row.id) (clientItems row)) ∧
    ∀ email ∈ spared row.id, ∃ item ∈ clientItems row,
      isWanted request (targetsOf request row.id) item = true ∧
        itemEmail item = email
  keepsOne : ∀ row ∈ database.inbounds, ∀ later,
    after.inbounds.find? row.id = some later →
      (∃ item ∈ clientItems row, isObject item = true) →
        ∃ item ∈ clientItems later, isObject item = true
  untargeted : ∀ row ∈ database.inbounds, ∀ later,
    after.inbounds.find? row.id = some later →
      (clientItems later).filter (fun item =>
          !isTargeted request row.id item) =
        (clientItems row).filter fun item => !isTargeted request row.id item
  stats : ∀ stat, stat ∈ after.traffics ↔ stat ∈ database.traffics ∧
    stat.email ∉ removedEmails request spared database
  ips : ∀ stored, stored ∈ after.ips ↔ stored ∈ database.ips ∧
    stored.clientEmail ∉ removedEmails request spared database
  applied : counts.applied = (removedEmails request spared database).length
  handled : counts.applied + counts.skipped =
    (presentTargets request database).length

section Spec

variable {request : BulkClientUpdateRequest} {database : Database}
  {inboundId : Int} {row : StoredInbound}

theorem isTargeted_of_wanted {item : Json}
    (wanted : isWanted request (targetsOf request inboundId) item = true) :
    isTargeted request inboundId item = true := by
  obtain ⟨-, named, listed⟩ := isWanted_eq_true wanted
  rw [isTargeted, decide_eq_true named, decide_eq_true listed]
  rfl

theorem mem_targetsOf {email : String} :
    email ∈ targetsOf request inboundId ↔
      email ≠ "" ∧ (inboundId, email) ∈ request.targets := by
  simp only [targetsOf, List.mem_map, List.mem_filter, decide_eq_true_eq]
  constructor
  · rintro ⟨⟨id, name⟩, ⟨⟨listed, named⟩, rfl⟩, rfl⟩
    exact ⟨named, listed⟩
  · rintro ⟨named, listed⟩
    exact ⟨(inboundId, email), ⟨⟨listed, named⟩, rfl⟩, rfl⟩

/-- The clients that are for a target are as many as the targets that are
present. -/
theorem sum_targeted
    (distinct : ∀ row ∈ database.inbounds, DistinctEmails (clientItems row)) :
    (database.inbounds.rows.map fun row =>
        (clientItems row).countP (isTargeted request row.id)).sum =
      (presentTargets request database).length := by
  let named : StoredInbound → List (Int × String) := fun row =>
    ((clientItems row).filter (isTargeted request row.id)).map fun item =>
      (row.id, itemEmail item)
  have nodup : (database.inbounds.rows.flatMap named).Nodup := by
    rw [List.nodup_flatMap]
    constructor
    · intro row member
      have part := (distinct row member).sublist
        (@List.filter_sublist _ (isTargeted request row.id) (clientItems row))
      apply List.Nodup.of_map Prod.snd
      rw [List.map_map]
      unfold DistinctEmails at part
      rwa [List.filter_eq_self.mpr] at part
      intro email listed
      obtain ⟨item, inItems, rfl⟩ := List.mem_map.mp listed
      have targeted := (List.mem_filter.mp inItems).2
      rw [isTargeted, Bool.and_eq_true] at targeted
      exact targeted.1
    · refine database.inbounds.sorted.imp ?_
      intro first second below target inFirst inSecond
      obtain ⟨item, -, rfl⟩ := List.mem_map.mp inFirst
      obtain ⟨other, -, same⟩ := List.mem_map.mp inSecond
      exact below.ne' (congrArg Prod.fst same)
  have present : (presentTargets request database).Nodup :=
    (List.nodup_dedup _).filter _
  have same : (database.inbounds.rows.flatMap named).Perm
      (presentTargets request database) := by
    refine (List.perm_ext_iff_of_nodup nodup present).mpr ?_
    rintro ⟨id, email⟩
    simp only [named, presentTargets, List.mem_flatMap, List.mem_map,
      List.mem_filter, List.mem_dedup, isTargeted, mem_targetsOf,
      Bool.and_eq_true, decide_eq_true_eq, List.any_eq_true, Prod.mk.injEq]
    constructor
    · rintro ⟨row, stored, item, ⟨inItems, blank, -, listed⟩, rfl, rfl⟩
      exact ⟨listed, blank, row, stored, rfl, item, inItems, rfl⟩
    · rintro ⟨listed, blank, row, stored, rfl, item, inItems, rfl⟩
      exact ⟨row, stored, item, ⟨inItems, blank, blank, listed⟩, rfl, rfl⟩
  rw [← same.length_eq, List.length_flatMap]
  congr 1
  apply List.map_congr_left
  intro row _
  rw [List.length_map, List.countP_eq_length_filter]

theorem mem_byInbound_iff {group : Int × List String} :
    group ∈ byInbound request.targets ↔
      group.2 = targetsOf request group.1 ∧ group.2 ≠ [] := by
  obtain ⟨id, emails⟩ := group
  simp only [byInbound, List.mem_map, List.mem_eraseDups, Prod.mk.injEq]
  constructor
  · rintro ⟨other, ⟨target, given, named⟩, rfl, rfl⟩
    refine ⟨rfl, fun none => ?_⟩
    have gone := List.filter_eq_nil_iff.mp (List.map_eq_nil_iff.mp none)
    exact gone target given (decide_eq_true named)
  · rintro ⟨same, some⟩
    obtain ⟨email, listed⟩ := List.exists_mem_of_ne_nil _ some
    rw [same] at listed
    obtain ⟨target, given, -⟩ := List.mem_map.mp listed
    obtain ⟨inTargets, named⟩ := List.mem_filter.mp given
    exact ⟨id, ⟨target, inTargets, of_decide_eq_true named⟩, rfl, same.symm⟩

theorem isTargeted_of_removed {spared : Option String} {item : Json}
    (removed : isRemoved request (targetsOf request inboundId) spared item =
      true) : isTargeted request inboundId item = true :=
  isTargeted_of_wanted (Bool.and_eq_true_iff.mp removed).1

theorem removedItems_of_untargeted {place : Nat}
    (none : targetsOf request row.id = []) :
    removedItems place request row = [] := by
  refine List.filter_eq_nil_iff.mpr fun item _ removed => ?_
  have targeted := isTargeted_of_removed removed
  rw [isTargeted, none] at targeted
  simp at targeted

theorem remainingItems_of_none {place : Nat}
    (none : removedItems place request row = []) :
    remainingItems place request row = clientItems row := by
  refine List.filter_eq_self.mpr fun item member => ?_
  simpa using List.filter_eq_nil_iff.mp none item member

theorem clientItems_shortenedRow {place : Nat} :
    clientItems (shortenedRow place request row) =
      remainingItems place request row := by
  unfold shortenedRow
  split
  next none => rw [remainingItems_of_none none]
  next => exact clientItems_withItems_slice row _

/-- A row without its removed clients is otherwise as it was. -/
theorem shortenedRow_others {place : Nat} :
    { shortenedRow place request row with settings := row.settings } = row ∧
      ∀ field, field ≠ "clients" →
        (shortenedRow place request row).settings.fields.get field =
          row.settings.fields.get field := by
  unfold shortenedRow
  split
  next => exact ⟨rfl, fun _ _ => rfl⟩
  next => exact ⟨rfl, fun field other => JsonObject.get_set_ne other⟩

theorem remaining_keeps_one {place : Nat}
    (distinct : DistinctEmails (clientItems row))
    (some : ∃ item ∈ clientItems row, isObject item = true) :
    ∃ item ∈ remainingItems place request row, isObject item = true := by
  by_cases all : WantsAll request (targetsOf request row.id) (clientItems row)
  · obtain ⟨email, spared⟩ := Option.isSome_iff_exists.mp
      ((@sparedEmail_isSome place _ _ _ distinct).mpr all)
    obtain ⟨item, member, wanted, rfl⟩ := exists_of_sparedEmail spared
    refine ⟨item, List.mem_filter.mpr ⟨member, ?_⟩,
      (isWanted_eq_true wanted).1⟩
    simp [isRemoved, spared]
  · have left : ∃ item ∈ clientItems row, isObject item = true ∧
        isWanted request (targetsOf request row.id) item = false := by
      by_contra every
      refine all ⟨some, fun item member object => ?_⟩
      by_contra unwanted
      exact every ⟨item, member, object, Bool.eq_false_iff.mpr unwanted⟩
    obtain ⟨item, member, object, unwanted⟩ := left
    refine ⟨item, List.mem_filter.mpr ⟨member, ?_⟩, object⟩
    rw [isRemoved, unwanted]
    rfl

theorem untargeted_remaining {place : Nat} :
    (remainingItems place request row).filter
        (fun item => !isTargeted request row.id item) =
      (clientItems row).filter fun item => !isTargeted request row.id item := by
  rw [remainingItems, List.filter_filter]
  apply List.filter_congr
  intro item _
  cases removed : isRemoved request (targetsOf request row.id)
      (sparedEmail place request (targetsOf request row.id) (clientItems row))
      item with
  | false => simp
  | true => simp [isTargeted_of_removed removed]

theorem handled_of_inbound {place : Nat} :
    (removedItems place request row).length +
        (remainingItems place request row).countP (isTargeted request row.id) =
      (clientItems row).countP (isTargeted request row.id) := by
  have every : (removedItems place request row).countP
      (isTargeted request row.id) =
        (removedItems place request row).length := by
    refine List.countP_eq_length.mpr fun item member => ?_
    exact isTargeted_of_removed (List.mem_filter.mp member).2
  rw [List.countP_eq_countP_filter_add (clientItems row) _
    (isRemoved request (targetsOf request row.id) (sparedEmail place request
      (targetsOf request row.id) (clientItems row))), ← every]
  rfl

end Spec

def annAndBobTargeted : BulkClientUpdateRequest where
  op := .delete
  days := 0
  amountBytes := 0
  skipFirstUse := false
  skipUnlimited := false
  skipDisabled := false
  targets := [(1, "ann"), (1, "bob"), (1, "eve")]

def annAndBobStored : Database where
  inbounds := Table.empty.save { inboundForm ["ann", "bob"] with id := 1 }
  traffics := Table.empty
  ips := Table.empty

end VpnUi.Store
