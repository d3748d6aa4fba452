import VpnUi.Foundation.Distinct
import VpnUi.Store.Accounts

namespace VpnUi.Store

open Foundation Panel

/-! What a successful bulk update makes of one client and of its row. -/

variable {request : BulkClientUpdateRequest} {now : Int}
  {initial database state after : Database} {number : Nat} {inboundId : Int}
  {index : Nat} {emails : List String} {client : JsonObject}

/-- The client after the request, if it is among the targets. -/
def bulkResult (request : BulkClientUpdateRequest) (now : Int)
    (client : JsonObject) : JsonObject :=
  if bulkClientSkipped client request then client
  else
    match applyBulkClientOp client request now with
    | none => client
    | some changed => JsonObject.set changed "updated_at" (.int now)

/-- What happens to the row of the client. -/
def bulkRow (request : BulkClientUpdateRequest) (now : Int)
    (client : JsonObject) (row : ClientTraffic) : ClientTraffic :=
  if bulkClientSkipped client request ∨
      applyBulkClientOp client request now = none then row
  else bulkStat (bulkResult request now client) row

/-- An operation sets no other field than these three. -/
theorem get_applyBulkClientOp {changed : JsonObject} {key : String}
    (free : key ∉ ["expiryTime", "totalGB", "enable"])
    (applied : applyBulkClientOp client request now = some changed) :
    JsonObject.get changed key = JsonObject.get client key := by
  simp only [List.mem_cons, List.not_mem_nil, or_false, not_or] at free
  obtain ⟨notExpiry, notTotal, notEnable⟩ := free
  have expiry : ∀ object value,
      JsonObject.get (setExpiry object value) key = JsonObject.get object key :=
    fun _ _ => JsonObject.get_set_ne notExpiry
  have total : ∀ object value,
      JsonObject.get (setTotal object value) key = JsonObject.get object key :=
    fun _ _ => JsonObject.get_set_ne notTotal
  have enable : ∀ object value,
      JsonObject.get (setEnable object value) key = JsonObject.get object key :=
    fun _ _ => JsonObject.get_set_ne notEnable
  unfold applyBulkClientOp at applied
  dsimp only at applied
  repeat' split at applied
  all_goals
    first
    | cases applied
      done
    | obtain rfl := Option.some.inj applied
      simp only [expiry, total, enable]

theorem bulkItem_of_target (named : emailOf client ≠ "")
    (targeted : emailOf client ∈ emails) :
    bulkItem request emails now (.obj client) =
      (.obj (bulkResult request now client),
        if bulkClientSkipped client request ∨
            applyBulkClientOp client request now = none then []
        else [write .rolledBack (Database.updateStat · (emailOf client)
          (bulkStat (bulkResult request now client)))]) := by
  unfold bulkItem bulkResult
  simp only [named, targeted, not_true, false_or]
  split
  next skipped => simp [skipped]
  next kept =>
    simp only [kept, Bool.false_eq_true, false_or]
    cases applyBulkClientOp client request now <;> simp

/-- A client without a statement stays as it is. -/
theorem bulkItem_fst_of_nil {item : Json}
    (silent : (bulkItem request emails now item).2 = []) :
    (bulkItem request emails now item).1 = item := by
  unfold bulkItem at silent ⊢
  cases item with
  | obj client =>
      simp only at silent ⊢
      split
      · rfl
      next considered =>
        rw [if_neg considered] at silent
        cases applied : applyBulkClientOp client request now with
        | none => rfl
        | some changed =>
            rw [applied] at silent
            cases silent
  | _ => rfl

/-- A statement that leaves the row of an e-mail alone. -/
def Spares (email : String) (statement : Statement) : Prop :=
  ∀ before next, statement.effect before = some next →
    next.traffics.find? email = before.traffics.find? email

/-- A statement that leaves the inbounds alone. -/
def KeepsInbounds (statement : Statement) : Prop :=
  ∀ before next, statement.effect before = some next →
    next.inbounds = before.inbounds

theorem spares_saveInbound {email : String} {onError : OnError}
    {row : StoredInbound} :
    Spares email (write onError (Database.saveInbound · row)) := by
  intro before next saved
  rw [Database.saveInbound_eq_some saved]

theorem spares_fail {email : String} {onError : OnError}
    {error : RequestError} : Spares email (fail onError error) := by
  intro before next impossible
  cases impossible

theorem updateStat_inbounds {before next : Database} {email : String}
    {update : ClientTraffic → ClientTraffic}
    (updated : before.updateStat email update = some next) :
    next.inbounds = before.inbounds := by
  unfold Database.updateStat at updated
  split at updated
  · rw [← Option.some.inj updated]
  · dsimp only at updated
    split at updated
    · cases updated
    · rw [← Option.some.inj updated]

/-- The addresses are in a table of their own. -/
theorem updateClientIPs_others {before after : Database}
    {oldEmail newEmail : String}
    (ran : before.updateClientIPs oldEmail newEmail = some after) :
    after.inbounds = before.inbounds ∧ after.traffics = before.traffics := by
  unfold Database.updateClientIPs at ran
  cases stored : before.ips.find? oldEmail with
  | none =>
      rw [stored] at ran
      rw [← Option.some.inj ran]
      exact ⟨rfl, rfl⟩
  | some row =>
      rw [stored] at ran
      simp only [Option.ite_none_left_eq_some] at ran
      rw [← Option.some.inj ran.2]
      exact ⟨rfl, rfl⟩

/-- An update that keeps the e-mail changes one row. -/
theorem updateStat_find? {before next : Database} {email : String}
    {update : ClientTraffic → ClientTraffic}
    (keeps : ∀ row, (update row).email = row.email)
    (updated : before.updateStat email update = some next) (wanted : String) :
    next.traffics.find? wanted =
      if wanted = email then (before.traffics.find? email).map update
      else before.traffics.find? wanted := by
  unfold Database.updateStat at updated
  split at updated
  next absent =>
    rw [← Option.some.inj updated, absent]
    split
    next same => rw [same, absent]; rfl
    next => rfl
  next row found =>
    have named : row.email = email := (Table.find?_eq_some.mp found).2
    have kept : (update row).email = email := (keeps row).trans named
    rw [if_neg (fun clash => clash.1 kept)] at updated
    rw [← Option.some.inj updated, found]
    split
    next same =>
      subst same
      rw [← kept]
      exact Table.find?_save_self
    next differs =>
      rw [Table.find?_save_ne (by rw [kept]; exact differs),
        Table.find?_delete_ne differs]

theorem bulkStat_email (client : JsonObject) (row : ClientTraffic) :
    (bulkStat client row).email = row.email := rfl

theorem spares_bulkItem {email : String} {item : Json}
    (differs : itemEmail item ≠ email) :
    ∀ statement ∈ (bulkItem request emails now item).2,
      Spares email statement := by
  intro statement member
  cases item with
  | obj client =>
      simp only [bulkItem] at member
      split at member
      · cases member
      · split at member
        · cases member
        next changed applied =>
          obtain rfl := List.mem_singleton.mp member
          intro before next updated
          exact (updateStat_find? (bulkStat_email _) updated email).trans
            (if_neg (Ne.symm differs))
  | _ => cases member

theorem keepsInbounds_bulkItem {item : Json} :
    ∀ statement ∈ (bulkItem request emails now item).2,
      KeepsInbounds statement := by
  intro statement member
  cases item with
  | obj client =>
      simp only [bulkItem] at member
      split at member
      · cases member
      · split at member
        · cases member
        · obtain rfl := List.mem_singleton.mp member
          intro before next updated
          exact updateStat_inbounds updated
  | _ => cases member

theorem clientItems_of_getElem? {row : StoredInbound} {item : Json}
    (found : (clientItems row)[index]? = some item) :
    ∃ object, row.settings.object? = some object ∧
      JsonObject.get (object.getD []) "clients" = .arr (clientItems row) := by
  have fields : row.settings.fields = (row.settings.object?.getD none).getD [] :=
    rfl
  unfold clientItems at found ⊢
  cases decoded : row.settings.object? with
  | none =>
      rw [fields, decoded] at found
      cases found
  | some object =>
      refine ⟨object, rfl, ?_⟩
      rw [fields, decoded] at found ⊢
      simp only [Option.getD_some] at found ⊢
      split at found
      next items stored => rw [stored]
      next => cases found

/-- The save at the end of the script of an inbound. -/
def bulkSave (request : BulkClientUpdateRequest) (now : Int)
    (emails : List String) (row : StoredInbound) : Statement :=
  write .rolledBack (Database.saveInbound ·
    (withItems row (.arr ((clientItems row).map fun item =>
      (bulkItem request emails now item).1))))

/-- The script of an inbound with clients. -/
theorem bulkInbound_of_items {row : StoredInbound} {item : Json}
    (update : request.op ≠ .delete)
    (stored : database.inbounds.find? inboundId = some row)
    (found : (clientItems row)[index]? = some item) :
    bulkInbound request now database inboundId emails =
      let statements := (clientItems row).flatMap fun item =>
        (bulkItem request emails now item).2
      if statements = [] then []
      else statements ++ [bulkSave request now emails row] := by
  obtain ⟨object, decoded, clients⟩ := clientItems_of_getElem? found
  have fields : row.settings.fields = object.getD [] := by
    rw [JsonText.fields, decoded, Option.getD_some]
  simp only [bulkInbound, stored, decoded, clients, bulkClients, if_neg update,
    bulkSave, withItems, fields]

/-- The script of an inbound changes no other one. -/
theorem bulkInbound_other {other : Int} (differs : other ≠ inboundId) :
    ∀ statement ∈ bulkInbound request now database inboundId emails,
      ∀ before next, statement.effect before = some next →
        next.inbounds.find? other = before.inbounds.find? other := by
  have single : ∀ error, ∀ statement ∈ [fail .rolledBack error],
      ∀ before next, statement.effect before = some next →
        next.inbounds.find? other = before.inbounds.find? other := by
    intro error statement member before next done
    obtain rfl := List.mem_singleton.mp member
    cases done
  intro statement member
  unfold bulkInbound at member
  cases stored : database.inbounds.find? inboundId with
  | none =>
      rw [stored] at member
      exact single _ statement member
  | some row =>
      rw [stored] at member
      dsimp only at member
      split at member
      · exact single _ statement member
      · split at member
        next items _ =>
          split at member
          · cases member
          · rcases List.mem_append.mp member with early | last
            · intro before next done
              have same : next.inbounds = before.inbounds := by
                unfold bulkClients at early
                split at early
                · obtain ⟨item, -, pair⟩ := List.mem_flatMap.mp early
                  simp only [List.mem_cons, List.not_mem_nil, or_false] at pair
                  rcases pair with rfl | rfl <;>
                    rw [← Option.some.inj done] <;> rfl
                · obtain ⟨item, -, fromItem⟩ := List.mem_flatMap.mp early
                  exact keepsInbounds_bulkItem statement fromItem before next
                    done
              rw [same]
            · intro before next done
              obtain rfl := List.mem_singleton.mp last
              rw [Database.saveInbound_eq_some done]
              apply Table.find?_save_ne
              rw [← (Table.find?_eq_some.mp stored).2] at differs
              exact differs
        · cases member

/-- What the script of its inbound makes of a client. -/
theorem bulkInbound_client (update : request.op ≠ .delete)
    (stored : clientAt database inboundId index = some client)
    (same : state.inbounds.find? inboundId = database.inbounds.find? inboundId)
    (ran : Call.run initial Call.noFaults number
      (bulkInbound request now database inboundId emails) state =
        (none, after)) :
    ∃ other, clientAt after inboundId index = some other ∧
      (bulkItem request emails now (.obj client)).1 = .obj other := by
  obtain ⟨row, rowStored, found⟩ := clientAt_eq_some.mp stored
  rw [bulkInbound_of_items update rowStored found] at ran
  dsimp only at ran
  split at ran
  next silent =>
    obtain rfl := (Prod.mk.inj ran).2
    refine ⟨client, ?_, bulkItem_fst_of_nil ?_⟩
    · rw [clientAt, same, ← clientAt]
      exact stored
    · exact List.flatMap_eq_nil_iff.mp silent _ (List.mem_of_getElem? found)
  next =>
    rw [Call.run_append] at ran
    split at ran
    next reached _ =>
      have named : row.id = inboundId := (Table.find?_eq_some.mp rowStored).2
      simp only [Call.run, Call.attempt, Call.noFaults, Bool.false_and,
        Bool.false_eq_true, if_false, bulkSave, write] at ran
      split at ran
      next saved done =>
        obtain rfl := (Prod.mk.inj ran).2
        rw [Database.saveInbound_eq_some done]
        have changed : ∃ other,
            (bulkItem request emails now (.obj client)).1 = .obj other := by
          unfold bulkItem
          split
          next given same =>
            obtain rfl := Json.obj.inj same
            dsimp only
            split
            · exact ⟨client, rfl⟩
            · split
              · exact ⟨client, rfl⟩
              · exact ⟨_, rfl⟩
          next absent => exact absurd rfl (absent client)
        obtain ⟨other, becomes⟩ := changed
        refine ⟨other, ?_, becomes⟩
        subst named
        refine clientAt_save.trans (clientOf_eq_some.mpr ?_)
        rw [clientItems_withItems, List.getElem?_map, found, ← becomes]
        rfl
      next => cases ran
    next => cases ran

theorem nodup_byInbound (targets : List (Int × String)) :
    ((byInbound targets).map Prod.fst).Nodup := by
  have ids : (byInbound targets).map Prod.fst =
      ((targets.filter (·.2 ≠ "")).map Prod.fst).eraseDups := by
    simp [byInbound, Function.comp_def]
  rw [ids]
  exact nodup_eraseDups _

/-- The group of a target, between the groups of other inbounds. -/
theorem byInbound_split {targets : List (Int × String)} {email : String}
    (nonempty : email ≠ "") (targeted : (inboundId, email) ∈ targets) :
    ∃ before emails rest,
      byInbound targets = before ++ (inboundId, emails) :: rest ∧
        email ∈ emails ∧ ∀ group ∈ before ++ rest, group.1 ≠ inboundId := by
  have given : (inboundId, email) ∈ targets.filter (·.2 ≠ "") :=
    List.mem_filter.mpr ⟨targeted, by simpa using nonempty⟩
  obtain ⟨emails, member, listed⟩ : ∃ emails,
      (inboundId, emails) ∈ byInbound targets ∧ email ∈ emails := by
    refine ⟨_, List.mem_map.mpr ⟨inboundId, List.mem_eraseDups.mpr
      (List.mem_map.mpr ⟨_, given, rfl⟩), rfl⟩, ?_⟩
    exact List.mem_map.mpr ⟨_, List.mem_filter.mpr ⟨given, by simp⟩, rfl⟩
  obtain ⟨before, rest, split⟩ := List.append_of_mem member
  refine ⟨before, emails, rest, split, listed, ?_⟩
  have distinct := nodup_byInbound targets
  rw [split, List.map_append, List.map_cons, List.nodup_middle,
    ← List.map_append, List.nodup_cons] at distinct
  intro group inOthers same
  exact distinct.1 (List.mem_map.mpr ⟨group, inOthers, same⟩)

/-- The operations that change clients in place. -/
def BulkOp.Updates : BulkOp → Prop
  | .delete => False
  | .unknown _ => False
  | _ => True

theorem BulkOp.Updates.ne_delete {op : BulkOp} (updates : op.Updates) :
    op ≠ .delete := by
  rintro rfl
  exact updates

theorem bulkUpdateClients_of_updates (updates : request.op.Updates) :
    bulkUpdateClients request now database =
      (byInbound request.targets).flatMap fun group =>
        bulkInbound request now database group.1 group.2 := by
  unfold bulkUpdateClients
  split
  next name unknown =>
    rw [unknown] at updates
    exact updates.elim
  next => rfl

/-- A successful request has done its operation on every target. -/
theorem clientAt_bulkUpdateClients (updates : request.op.Updates)
    (nonempty : emailOf client ≠ "")
    (targeted : (inboundId, emailOf client) ∈ request.targets)
    (stored : clientAt database inboundId index = some client)
    (ran : Call.run initial Call.noFaults number
      (bulkUpdateClients request now database) database = (none, after)) :
    clientAt after inboundId index = some (bulkResult request now client) := by
  obtain ⟨before, emails, rest, split, listed, others⟩ :=
    byInbound_split nonempty targeted
  have frame : ∀ groups : List (Int × List String),
      (∀ group ∈ groups, group.1 ≠ inboundId) →
      ∀ statement ∈ groups.flatMap fun group =>
        bulkInbound request now database group.1 group.2,
      ∀ old next, statement.effect old = some next →
        next.inbounds.find? inboundId = old.inbounds.find? inboundId := by
    intro groups distinct statement member
    obtain ⟨group, inGroups, fromGroup⟩ := List.mem_flatMap.mp member
    exact bulkInbound_other (Ne.symm (distinct group inGroups)) statement
      fromGroup
  rw [bulkUpdateClients_of_updates updates, split, List.flatMap_append,
    List.flatMap_cons, Call.run_append] at ran
  split at ran
  next first ranFirst =>
    rw [Call.run_append] at ran
    split at ran
    next second ranSecond =>
      have same := Call.run_frame _ (frame before fun group member =>
        others group (List.mem_append_left rest member)) ranFirst
      obtain ⟨other, found, becomes⟩ := bulkInbound_client updates.ne_delete
        stored same ranSecond
      have unchanged := Call.run_frame _ (frame rest fun group member =>
        others group (List.mem_append_right before member)) ran
      rw [bulkItem_of_target nonempty listed] at becomes
      rw [clientAt, unchanged, ← clientAt, found, ← Json.obj.inj becomes]
    next => cases ran
  next => cases ran

/-- The e-mail belongs to one client of the panel only. -/
def Sole (database : Database) (email : String) (inboundId : Int)
    (index : Nat) : Prop :=
  ∀ otherId otherIndex other,
    clientAt database otherId otherIndex = some other →
      emailOf other = email → otherId = inboundId ∧ otherIndex = index

theorem spares_bulkInbound {email : String} {otherId : Int}
    (update : request.op ≠ .delete) (nonempty : email ≠ "")
    (sole : Sole database email inboundId index)
    (differs : otherId ≠ inboundId) :
    ∀ statement ∈ bulkInbound request now database otherId emails,
      Spares email statement := by
  intro statement member
  unfold bulkInbound at member
  cases stored : database.inbounds.find? otherId with
  | none =>
      rw [stored] at member
      obtain rfl := List.mem_singleton.mp member
      exact spares_fail
  | some row =>
      rw [stored] at member
      dsimp only at member
      split at member
      · obtain rfl := List.mem_singleton.mp member
        exact spares_fail
      next object decoded =>
        split at member
        next items clients =>
          split at member
          · cases member
          · rcases List.mem_append.mp member with early | last
            · rw [bulkClients, if_neg update] at early
              obtain ⟨item, inItems, fromItem⟩ := List.mem_flatMap.mp early
              refine spares_bulkItem ?_ statement fromItem
              intro named
              cases item with
              | obj other =>
                  obtain ⟨place, found⟩ := List.mem_iff_getElem?.mp inItems
                  have fields : row.settings.fields = object.getD [] := by
                    rw [JsonText.fields, decoded, Option.getD_some]
                  exact differs (sole otherId place other
                    (clientAt_eq_some.mpr ⟨row, stored, by
                      rw [clientItems, fields, clients]
                      exact found⟩) named).1
              | _ => exact nonempty named.symm
            · obtain rfl := List.mem_singleton.mp last
              exact spares_saveInbound
        next => cases member

/-- The statements around those of the only client with an e-mail leave its row
alone. -/
theorem bulkInbound_split (update : request.op ≠ .delete)
    (nonempty : emailOf client ≠ "")
    (stored : clientAt database inboundId index = some client)
    (sole : Sole database (emailOf client) inboundId index) :
    ∃ before rest, bulkInbound request now database inboundId emails =
        before ++ (bulkItem request emails now (.obj client)).2 ++ rest ∧
      ∀ statement ∈ before ++ rest, Spares (emailOf client) statement := by
  obtain ⟨row, rowStored, found⟩ := clientAt_eq_some.mp stored
  obtain ⟨inside, place⟩ := List.getElem?_eq_some_iff.mp found
  have parts : clientItems row = (clientItems row).take index ++
      .obj client :: (clientItems row).drop (index + 1) := by
    rw [← place, List.getElem_cons_drop, List.take_append_drop]
  have elsewhere : ∀ item ∈ (clientItems row).take index ++
      (clientItems row).drop (index + 1),
      itemEmail item ≠ emailOf client := by
    intro item member named
    cases item with
    | obj other =>
        have position : ∃ otherIndex, otherIndex ≠ index ∧
            (clientItems row)[otherIndex]? = some (.obj other) := by
          rcases List.mem_append.mp member with early | late
          · obtain ⟨otherIndex, at_⟩ := List.mem_iff_getElem?.mp early
            rw [List.getElem?_take] at at_
            split at at_
            · exact ⟨otherIndex, by omega, at_⟩
            · cases at_
          · obtain ⟨otherIndex, at_⟩ := List.mem_iff_getElem?.mp late
            rw [List.getElem?_drop] at at_
            exact ⟨index + 1 + otherIndex, by omega, at_⟩
        obtain ⟨otherIndex, differs, otherFound⟩ := position
        exact differs (sole inboundId otherIndex other
          (clientAt_eq_some.mpr ⟨row, rowStored, otherFound⟩) named).2
    | _ => exact nonempty named.symm
  have spared : ∀ items : List Json,
      (∀ item ∈ items, itemEmail item ≠ emailOf client) →
      ∀ statement ∈ items.flatMap fun item =>
        (bulkItem request emails now item).2,
      Spares (emailOf client) statement := by
    intro items others statement member
    obtain ⟨item, inItems, fromItem⟩ := List.mem_flatMap.mp member
    exact spares_bulkItem (others item inItems) statement fromItem
  rw [bulkInbound_of_items update rowStored found]
  dsimp only
  split
  next silent =>
    refine ⟨[], [], ?_, fun statement member => by cases member⟩
    rw [List.flatMap_eq_nil_iff.mp silent _ (List.mem_of_getElem? found)]
    rfl
  next =>
    refine ⟨((clientItems row).take index).flatMap fun item =>
        (bulkItem request emails now item).2,
      (((clientItems row).drop (index + 1)).flatMap fun item =>
        (bulkItem request emails now item).2) ++
          [bulkSave request now emails row], ?_, ?_⟩
    · conv_lhs =>
        rw [parts, List.flatMap_append, List.flatMap_cons]
      simp only [List.append_assoc]
    · intro statement member
      rcases List.mem_append.mp member with early | late
      · exact spared _ (fun item inItems =>
          elsewhere item (List.mem_append_left _ inItems)) statement early
      · rcases List.mem_append.mp late with late | last
        · exact spared _ (fun item inItems =>
            elsewhere item (List.mem_append_right _ inItems)) statement late
        · obtain rfl := List.mem_singleton.mp last
          exact spares_saveInbound

/-- The row of the only client with its e-mail follows the client. -/
theorem find?_bulkUpdateClients (updates : request.op.Updates)
    (nonempty : emailOf client ≠ "")
    (targeted : (inboundId, emailOf client) ∈ request.targets)
    (stored : clientAt database inboundId index = some client)
    (sole : Sole database (emailOf client) inboundId index)
    (ran : Call.run initial Call.noFaults number
      (bulkUpdateClients request now database) database = (none, after)) :
    after.traffics.find? (emailOf client) =
      (database.traffics.find? (emailOf client)).map
        (bulkRow request now client) := by
  obtain ⟨before, emails, rest, split, listed, others⟩ :=
    byInbound_split nonempty targeted
  obtain ⟨early, late, parts, around⟩ :=
    @bulkInbound_split request now database inboundId index emails client
      updates.ne_delete nonempty stored sole
  have spared : ∀ groups : List (Int × List String),
      (∀ group ∈ groups, group.1 ≠ inboundId) →
      ∀ statement ∈ groups.flatMap fun group =>
        bulkInbound request now database group.1 group.2,
      Spares (emailOf client) statement := by
    intro groups distinct statement member
    obtain ⟨group, inGroups, fromGroup⟩ := List.mem_flatMap.mp member
    exact spares_bulkInbound updates.ne_delete nonempty sole
      (distinct group inGroups) statement fromGroup
  have script : bulkUpdateClients request now database =
      ((before.flatMap fun group =>
        bulkInbound request now database group.1 group.2) ++ early) ++
      ((bulkItem request emails now (.obj client)).2 ++
        (late ++ rest.flatMap fun group =>
          bulkInbound request now database group.1 group.2)) := by
    rw [bulkUpdateClients_of_updates updates, split, List.flatMap_append,
      List.flatMap_cons, parts]
    simp only [List.append_assoc]
  rw [script, Call.run_append] at ran
  split at ran
  next first ranFirst =>
    rw [Call.run_append] at ran
    split at ran
    next second ranSecond =>
      have opening : first.traffics.find? (emailOf client) =
          database.traffics.find? (emailOf client) := by
        refine Call.run_frame (·.traffics.find? (emailOf client))
          (fun statement member => ?_) ranFirst
        rcases List.mem_append.mp member with outside | inside
        · exact spared before (fun group inGroups =>
            others group (List.mem_append_left rest inGroups)) statement outside
        · exact around statement (List.mem_append_left late inside)
      have closing : after.traffics.find? (emailOf client) =
          second.traffics.find? (emailOf client) := by
        refine Call.run_frame (·.traffics.find? (emailOf client))
          (fun statement member => ?_) ran
        rcases List.mem_append.mp member with inside | outside
        · exact around statement (List.mem_append_right early inside)
        · exact spared rest (fun group inGroups =>
            others group (List.mem_append_right before inGroups)) statement
            outside
      rw [closing, ← opening]
      rw [bulkItem_of_target nonempty listed] at ranSecond
      dsimp only at ranSecond
      split at ranSecond
      next silent =>
        obtain rfl := (Prod.mk.inj ranSecond).2
        have same : bulkRow request now client = id := by
          funext row
          rw [bulkRow, if_pos silent, id]
        rw [same, Option.map_id, id]
      next loud =>
        simp only [Call.run, Call.attempt, Call.noFaults, Bool.false_and,
          Bool.false_eq_true, if_false, write] at ranSecond
        split at ranSecond
        next next done =>
          obtain rfl := (Prod.mk.inj ranSecond).2
          have updated := updateStat_find? (bulkStat_email _) done
            (emailOf client)
          rw [if_pos rfl] at updated
          have same : bulkRow request now client =
              bulkStat (bulkResult request now client) := by
            funext row
            rw [bulkRow, if_neg loud]
          rw [updated, same]
        next => cases ranSecond
    next => cases ran
  next => cases ran

end VpnUi.Store
