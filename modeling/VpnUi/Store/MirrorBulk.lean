import VpnUi.Store.MirrorRemoval

namespace VpnUi.Store

open Foundation Panel

/-! A bulk update goes through the targets of each inbound, and saves the inbound
after their rows. -/

variable {agrees : Limits → ClientTraffic → Prop}
  {request : BulkClientUpdateRequest} {now : Int}
  {initial database state after : Database} {number : Nat}
  {inboundId : Int} {emails : List String}

/-- The row of a target goes with what becomes of the client. -/
def BulkAgrees (agrees : Limits → ClientTraffic → Prop)
    (request : BulkClientUpdateRequest) (now : Int) (inboundId : Int)
    (items : List Json) : Prop :=
  ∀ client, .obj client ∈ items →
    (inboundId, emailOf client) ∈ request.targets →
      ∀ stat, agrees (limitsOf (.obj client)) stat →
        agrees (limitsOf (.obj (bulkResult request now client)))
          (bulkRow request now client stat)

theorem emailOf_eq (client : JsonObject) :
    emailOf client = (limitsOf (.obj client)).email := itemEmail_eq (.obj client)

/-- A client is changed by a statement on its row, or stays. -/
theorem bulkItem_cases (item : Json) :
    bulkItem request emails now item = (item, []) ∨
      ∃ client, item = .obj client ∧ emailOf client ≠ "" ∧
        emailOf client ∈ emails ∧
        (limitsOf (.obj (bulkResult request now client))).email =
          emailOf client ∧
        bulkRow request now client =
          bulkStat (bulkResult request now client) ∧
        bulkItem request emails now item =
          (.obj (bulkResult request now client), [write .rolledBack
            (Database.updateStat · (emailOf client)
              (bulkStat (bulkResult request now client)))]) := by
  cases item with
  | obj client =>
      by_cases considered : emailOf client ≠ "" ∧ emailOf client ∈ emails
      · obtain ⟨nonempty, targeted⟩ := considered
        rw [bulkItem_of_target nonempty targeted]
        by_cases silent : bulkClientSkipped client request = true ∨
            applyBulkClientOp client request now = none
        · left
          rw [if_pos silent]
          congr 2
          unfold bulkResult
          rcases silent with skipped | none
          · rw [if_pos skipped]
          · rw [none]
            exact ite_self client
        · right
          refine ⟨client, rfl, nonempty, targeted, ?_, ?_, by rw [if_neg silent]⟩
          · obtain ⟨kept, changes⟩ := not_or.mp silent
            obtain ⟨changed, applied⟩ := Option.ne_none_iff_exists'.mp changes
            rw [← emailOf_eq, bulkResult, if_neg kept, applied, emailOf,
              JsonObject.get_set_ne (by decide),
              get_applyBulkClientOp (by decide) applied, emailOf]
          · funext row
            rw [bulkRow, if_neg silent]
      · left
        simp only [bulkItem]
        rw [if_pos]
        tauto
  | _ => exact .inl rfl

theorem limits_withItems {row : StoredInbound} {items : List Json} :
    limits (withItems row (.arr items)).settings = items.map limitsOf := by
  rw [limits_clientItems, clientItems_withItems]

/-- An inbound is saved again with the same clients. -/
theorem Mirrored.resave (mirrored : Mirrored agrees database)
    {row saved : StoredInbound} (stored : row ∈ database.inbounds)
    (sameId : saved.id = row.id)
    (sameLimits : limits saved.settings = limits row.settings)
    {ips : Table ClientIps.clientEmail} :
    Mirrored agrees ⟨database.inbounds.save saved, database.traffics, ips⟩ := by
  apply mirrored.remove stored sameId
  · rw [sameLimits]
  · intro other
    refine (and_iff_left_of_imp fun inTable owner => ?_).symm
    rw [emails, sameLimits]
    exact (mirrored.covered row stored).client other inTable owner

theorem updateStat_of_found {email : String} {stat : ClientTraffic}
    {update : ClientTraffic → ClientTraffic}
    (found : database.traffics.find? email = some stat)
    (keeps : (update stat).email = email) :
    database.updateStat email update = some { database with
      traffics := (database.traffics.delete email).save (update stat) } := by
  rw [Database.updateStat, found]
  exact if_neg fun clash => clash.1 keeps

section Items

variable {inbounds : StoredInbounds} {row : StoredInbound}
  {ips : Table ClientIps.clientEmail}

/-- One client, as if its inbound were saved at once. -/
theorem Mirrored.changeItem {done todo : List Json} {item : Json}
    {next : Database}
    (mirrored : Mirrored agrees
      ⟨inbounds.save (withItems row (.arr (done ++ item :: todo))),
        state.traffics, ips⟩)
    (fits : BulkAgrees agrees request now row.id (item :: todo))
    (targets : ∀ email ∈ emails, (row.id, email) ∈ request.targets)
    (ran : Call.run initial Call.noFaults number
      (bulkItem request emails now item).2 state = (none, next)) :
    next.inbounds = state.inbounds ∧ Mirrored agrees
      ⟨inbounds.save (withItems row
        (.arr (done ++ (bulkItem request emails now item).1 :: todo))),
        next.traffics, ips⟩ := by
  rcases @bulkItem_cases request now emails item with
    silent | ⟨client, rfl, nonempty, targeted, sameEmail, sameRow, loud⟩
  · rw [silent] at ran ⊢
    obtain rfl := (Prod.mk.inj ran).2
    exact ⟨rfl, mirrored⟩
  · rw [loud] at ran ⊢
    have stored := Table.mem_save.mpr (.inl rfl : withItems row
      (.arr (done ++ .obj client :: todo)) = withItems row
        (.arr (done ++ .obj client :: todo)) ∨ _ ∈ inbounds ∧ _)
    have listed : limitsOf (.obj client) ∈ limits (withItems row
        (.arr (done ++ .obj client :: todo))).settings := by
      rw [limits_withItems]
      exact List.mem_map_of_mem (by simp)
    obtain ⟨stat, found, owner, agreed⟩ :=
      mirrored.find? stored listed (emailOf_eq client ▸ nonempty)
    rw [← emailOf_eq] at found
    have named := (Table.find?_eq_some.mp found).2
    have updated := (Call.run_singleton_eq_none (by simp [write])).mp ran
    have made := @updateStat_of_found state (emailOf client) stat
      (bulkStat (bulkResult request now client)) found named
    obtain rfl := Option.some.inj (made.symm.trans updated)
    refine ⟨rfl, ?_⟩
    have replaced := @Mirrored.replace agrees _ mirrored _
      (withItems row
        (.arr (done ++ .obj (bulkResult request now client) :: todo)))
      (done.map limitsOf) (todo.map limitsOf) (limitsOf (.obj client))
      (limitsOf (.obj (bulkResult request now client)))
      (bulkStat (bulkResult request now client) stat)
      ((state.traffics.delete (emailOf client)).save
        (bulkStat (bulkResult request now client) stat)) ips stored rfl
      ⟨by simp [limits_withItems], by simp [limits_withItems],
        .inr (.inl (sameEmail.trans (emailOf_eq client)))⟩ ?_
      (named.trans sameEmail.symm) owner ?_
    · have twice : ∀ first second,
          (inbounds.save (withItems row first)).save (withItems row second) =
            inbounds.save (withItems row second) :=
        fun _ _ => Table.save_save rfl
      dsimp only at replaced
      rw [twice] at replaced
      exact replaced
    · intro other
      rw [Table.mem_save, Table.mem_delete, sameEmail, ← emailOf_eq,
        bulkStat_email]
      have differs : other.email ≠ emailOf client →
          other.email ≠ stat.email := named ▸ id
      tauto
    · rw [← sameRow]
      exact fits client List.mem_cons_self (targets _ targeted) stat agreed

theorem Mirrored.changeItems {done todo : List Json}
    (mirrored : Mirrored agrees
      ⟨inbounds.save (withItems row (.arr (done ++ todo))), state.traffics,
        ips⟩)
    (fits : BulkAgrees agrees request now row.id todo)
    (targets : ∀ email ∈ emails, (row.id, email) ∈ request.targets)
    (ran : Call.run initial Call.noFaults number
      (todo.flatMap fun item => (bulkItem request emails now item).2) state =
        (none, after)) :
    after.inbounds = state.inbounds ∧ Mirrored agrees
      ⟨inbounds.save (withItems row (.arr (done ++ todo.map fun item =>
        (bulkItem request emails now item).1))), after.traffics, ips⟩ := by
  induction todo generalizing done state number with
  | nil =>
      obtain rfl := (Prod.mk.inj ran).2
      exact ⟨rfl, mirrored⟩
  | cons item rest induction =>
      rw [List.flatMap_cons, Call.run_append_eq_none] at ran
      obtain ⟨middle, first, later⟩ := ran
      obtain ⟨sameInbounds, changed⟩ := mirrored.changeItem fits targets first
      rw [List.append_cons] at changed
      obtain ⟨sameLater, whole⟩ := induction changed
        (fun client member => fits client (List.mem_cons_of_mem _ member)) later
      refine ⟨sameLater.trans sameInbounds, ?_⟩
      simpa using whole

end Items

theorem run_bulkDeleted {items : List Json} :
    Call.run initial Call.noFaults number (items.flatMap fun item =>
        [writeRows .rolledBack (Database.delClientStat · (itemEmail item)),
          writeRows .rolledBack (Database.delClientIPs · (itemEmail item))])
        state =
      (none, ⟨state.inbounds,
        (items.map itemEmail).foldl Table.delete state.traffics,
        (items.map itemEmail).foldl Table.delete state.ips⟩) := by
  induction items generalizing number state with
  | nil => rfl
  | cons item rest induction => exact induction

theorem bulkInbound_cases {row : StoredInbound}
    (stored : database.inbounds.find? inboundId = some row) :
    (∃ error,
      bulkInbound request now database inboundId emails =
        [fail .rolledBack error]) ∨
      bulkInbound request now database inboundId emails = [] ∨
      bulkInbound request now database inboundId emails =
        (bulkClients request emails now (clientItems row)).2 ++
          [write .rolledBack (Database.saveInbound · (withItems row
            (if request.op = .delete then
              sliceJson (bulkClients request emails now (clientItems row)).1
            else .arr (bulkClients request emails now (clientItems row)).1)))] := by
  unfold bulkInbound
  rw [stored]
  dsimp only
  split
  next => exact .inl ⟨_, rfl⟩
  next object decoded =>
    have fields : object.getD [] = row.settings.fields := by
      rw [JsonText.fields, decoded, Option.getD_some]
    rw [fields]
    split
    next items read =>
      rw [clientItems_of_array read]
      split
      · exact .inr (.inl rfl)
      · exact .inr (.inr rfl)
    next => exact .inr (.inl rfl)

theorem drops_bulkDelete {row : StoredInbound} {deleted : List String}
    {traffics : Table ClientTraffic.email} :
    let drops := fun item => itemEmail item ≠ "" && itemEmail item ∈ deleted
    Drops row (withItems row
        (sliceJson ((clientItems row).filter fun item => !drops item))).settings
      traffics
      ((((clientItems row).filter drops).map itemEmail).foldl Table.delete
        traffics) (fun item => !drops item)
      (((clientItems row).filter drops).map itemEmail) := by
  intro drops
  refine ⟨?_, fun other => Table.mem_foldl_delete, ?_, ?_⟩
  · rw [limits_clientItems, clientItems_withItems_slice]
  · intro item member dropped nonempty
    rw [← itemEmail_eq]
    exact List.mem_map_of_mem (List.mem_filter.mpr
      ⟨member, by simpa using dropped⟩)
  · intro email gone nonempty
    obtain ⟨item, member, rfl⟩ := List.mem_map.mp gone
    obtain ⟨inItems, dropped⟩ := List.mem_filter.mp member
    exact ⟨item, inItems, by simp [dropped], (itemEmail_eq item).symm⟩

theorem Mirrored.changeInbound (mirrored : Mirrored agrees state)
    (same : state.inbounds.find? inboundId = database.inbounds.find? inboundId)
    (fits : request.op ≠ .delete → ∀ row,
      database.inbounds.find? inboundId = some row →
        BulkAgrees agrees request now inboundId (clientItems row))
    (targets : ∀ email ∈ emails, (inboundId, email) ∈ request.targets)
    (ran : Call.run initial Call.noFaults number
      (bulkInbound request now database inboundId emails) state =
        (none, after)) : Mirrored agrees after := by
  cases stored : database.inbounds.find? inboundId with
  | none =>
      unfold Store.bulkInbound at ran
      rw [stored] at ran
      cases ran
  | some row =>
      obtain ⟨member, rfl⟩ := Table.find?_eq_some.mp (same.trans stored)
      rcases @bulkInbound_cases request now database _ emails row stored with
        ⟨error, script⟩ | script | script
      · rw [script] at ran
        cases ran
      · rw [script] at ran
        obtain rfl := (Prod.mk.inj ran).2
        exact mirrored
      · rw [script, Call.run_append_eq_none] at ran
        obtain ⟨reached, items, saved⟩ := ran
        obtain rfl := run_saveInbound (by simp) saved
        by_cases delete : request.op = .delete
        · rw [bulkClients, if_pos delete] at items
          obtain rfl := (Prod.mk.inj (run_bulkDeleted.symm.trans items)).2
          rw [if_pos delete, bulkClients, if_pos delete]
          exact mirrored.drop member rfl drops_bulkDelete
        · rw [bulkClients, if_neg delete] at items
          rw [if_neg delete, bulkClients, if_neg delete]
          have start : Mirrored agrees ⟨state.inbounds.save
              (withItems row (.arr ([] ++ clientItems row))), state.traffics,
              reached.ips⟩ := by
            refine mirrored.resave member ?_ ?_
            · rfl
            · exact limits_withItems.trans limits_clientItems.symm
          obtain ⟨sameInbounds, changed⟩ :=
            start.changeItems (fits delete row stored) targets items
          rw [sameInbounds]
          exact changed

theorem mem_byInbound {targets : List (Int × String)}
    {group : Int × List String} (member : group ∈ byInbound targets) :
    ∀ email ∈ group.2, (group.1, email) ∈ targets := by
  obtain ⟨inboundId, -, rfl⟩ := List.mem_map.mp member
  intro email listed
  obtain ⟨⟨other, name⟩, given, rfl⟩ := List.mem_map.mp listed
  obtain ⟨inTargets, same⟩ := List.mem_filter.mp given
  obtain rfl : other = inboundId := by simpa using same
  exact (List.mem_filter.mp inTargets).1

theorem Mirrored.changeInbounds {groups : List (Int × List String)}
    (mirrored : Mirrored agrees state)
    (distinct : (groups.map Prod.fst).Nodup)
    (same : ∀ group ∈ groups, state.inbounds.find? group.1 =
      database.inbounds.find? group.1)
    (fits : request.op ≠ .delete → ∀ group ∈ groups, ∀ row,
      database.inbounds.find? group.1 = some row →
        BulkAgrees agrees request now group.1 (clientItems row))
    (targets : ∀ group ∈ groups, ∀ email ∈ group.2,
      (group.1, email) ∈ request.targets)
    (ran : Call.run initial Call.noFaults number
      (groups.flatMap fun group =>
        bulkInbound request now database group.1 group.2) state =
          (none, after)) : Mirrored agrees after := by
  induction groups generalizing state number with
  | nil =>
      obtain rfl := (Prod.mk.inj ran).2
      exact mirrored
  | cons group rest induction =>
      rw [List.flatMap_cons, Call.run_append_eq_none] at ran
      obtain ⟨middle, first, later⟩ := ran
      obtain ⟨fresh, others⟩ := List.nodup_cons.mp distinct
      rw [List.forall_mem_cons] at same targets
      have changed := mirrored.changeInbound same.1
        (fun update => fits update group List.mem_cons_self) targets.1 first
      refine induction changed others ?_
        (fun update other member =>
          fits update other (List.mem_cons_of_mem _ member)) targets.2 later
      intro other member
      have differs : other.1 ≠ group.1 := fun again =>
        fresh (again ▸ List.mem_map_of_mem member)
      exact (Call.run_frame (·.inbounds.find? other.1)
        (bulkInbound_other differs) first).trans (same.2 other member)

/-- The targets of a bulk update, as far as it changes limits. -/
def BulkFits (agrees : Limits → ClientTraffic → Prop)
    (request : BulkClientUpdateRequest) (now : Int) (database : Database) :
    Prop :=
  request.op ≠ .delete → ∀ row ∈ database.inbounds,
    BulkAgrees agrees request now row.id (clientItems row)

theorem Mirrored.bulkUpdateClients (mirrored : Mirrored agrees database)
    {host : PanelHost} (fits : BulkFits agrees request host.now database)
    (succeeded : perform (.bulkUpdateClients request) host Call.noFaults
      database = (none, after)) : Mirrored agrees after := by
  have ran : Call.run database Call.noFaults 0
    (Store.bulkUpdateClients request host.now database) database =
      (none, after) := succeeded
  unfold Store.bulkUpdateClients at ran
  split at ran
  · cases ran
  · refine mirrored.changeInbounds (nodup_byInbound request.targets)
      (fun _ _ => rfl) ?_ (fun group member => mem_byInbound member) ran
    intro update group member row stored
    obtain ⟨inTable, same⟩ := Table.find?_eq_some.mp stored
    rw [← same]
    exact fits update row inTable

end VpnUi.Store
