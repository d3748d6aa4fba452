import VpnUi.Foundation.Traverse
import VpnUi.Store.BulkSpec

namespace VpnUi.Store

open Foundation Panel

/-! Frozen accounts: what a traffic pass leaves of them, and what a bulk
unfreeze makes of them. -/

/-- No row has this e-mail. -/
def Absent (email : String) (rows : List ClientTraffic) : Prop :=
  ∀ row ∈ rows, row.email ≠ email

section Adjust

variable {email : String} {now : Int} {rows started : List ClientTraffic}

/-- Starting the clocks of other rows leaves a client its limits. -/
theorem adjustClient_absent {client adjusted : JsonObject}
    (absent : Absent email rows)
    (done : adjustClient now rows client = some (adjusted, started)) :
    Absent email started ∧
      (emailOf client = email → SameLimits client adjusted) := by
  unfold adjustClient at done
  split at done
  next none =>
    obtain ⟨rfl, rfl⟩ := Prod.mk.inj (Option.some.inj done)
    exact ⟨absent, fun _ => SameLimits.setStamp now⟩
  next row found =>
    obtain ⟨old, -, done⟩ := Option.map_eq_some_iff.mp done
    obtain ⟨rfl, rfl⟩ := Prod.mk.inj done
    constructor
    · intro other member
      obtain ⟨before, beforeMember, rfl⟩ := List.mem_map.mp member
      have differs := absent before beforeMember
      split
      · exact differs
      · exact differs
    · intro same
      have starts : startsFor client row = true := List.find?_some found
      simp only [startsFor, Bool.and_eq_true, decide_eq_true_eq] at starts
      exact absurd (starts.2.symm.trans same)
        (absent row (List.mem_of_find?_eq_some found))

theorem adjustItems_absent {items adjusted : List Json}
    (absent : Absent email rows)
    (done : adjustItems now items rows = some (adjusted, started)) :
    Absent email started ∧ ∀ (index : Nat) (client : JsonObject),
      items[index]? = some (.obj client) → emailOf client = email →
        ∃ other, adjusted[index]? = some (.obj other) ∧
          SameLimits client other := by
  induction items generalizing rows adjusted with
  | nil =>
      obtain ⟨rfl, rfl⟩ := Prod.mk.inj (Option.some.inj done)
      refine ⟨absent, ?_⟩
      intro index client stored
      cases stored
  | cons item items induction =>
      cases item with
      | obj first =>
          simp only [adjustItems, bind, Option.bind_eq_some_iff] at done
          obtain ⟨⟨head, between⟩, headDone, ⟨tail, after⟩, tailDone, same⟩ :=
            done
          obtain ⟨rfl, rfl⟩ := Prod.mk.inj (Option.some.inj same)
          obtain ⟨betweenAbsent, kept⟩ := adjustClient_absent absent headDone
          obtain ⟨afterAbsent, later⟩ := induction betweenAbsent tailDone
          refine ⟨afterAbsent, ?_⟩
          intro index client stored named
          cases index with
          | zero =>
              obtain rfl : first = client := by simpa using stored
              exact ⟨head, rfl, kept named⟩
          | succ index => exact later index client (by simpa using stored) named
      | _ => cases done

/-- The limits of a client of an inbound survive in the adjusted row. -/
def KeepsClient (email : String) (row adjusted : StoredInbound) : Prop :=
  ∀ (index : Nat) (client : JsonObject), (clientItems row)[index]? = some (.obj client) →
    emailOf client = email → ∃ other,
      (clientItems adjusted)[index]? = some (.obj other) ∧
        SameLimits client other

theorem adjustInbound_absent {row adjusted : StoredInbound}
    (absent : Absent email rows)
    (done : adjustInbound now row rows = some (adjusted, started)) :
    Absent email started ∧ adjusted.id = row.id ∧
      KeepsClient email row adjusted := by
  unfold adjustInbound at done
  split at done
  next items stored =>
    obtain ⟨⟨changed, after⟩, itemsDone, same⟩ := Option.map_eq_some_iff.mp done
    obtain ⟨rfl, rfl⟩ := Prod.mk.inj same
    obtain ⟨afterAbsent, kept⟩ := adjustItems_absent absent itemsDone
    refine ⟨afterAbsent, rfl, ?_⟩
    intro index client
    rw [clientItems_withItems_slice, clientItems, stored]
    exact kept index client
  next =>
    obtain ⟨rfl, rfl⟩ := Prod.mk.inj (Option.some.inj done)
    refine ⟨absent, rfl, ?_⟩
    intro index client found _
    exact ⟨client, found, SameLimits.refl client⟩

theorem adjustInbounds_absent {inbounds adjusted : List StoredInbound}
    (absent : Absent email rows)
    (done : adjustInbounds now inbounds rows = some (adjusted, started)) :
    Absent email started ∧ ∀ other ∈ adjusted, ∃ row ∈ inbounds,
      other.id = row.id ∧ KeepsClient email row other := by
  induction inbounds generalizing rows adjusted with
  | nil =>
      obtain ⟨rfl, rfl⟩ := Prod.mk.inj (Option.some.inj done)
      refine ⟨absent, ?_⟩
      intro other member
      cases member
  | cons first inbounds induction =>
      simp only [adjustInbounds, bind, Option.bind_eq_some_iff] at done
      obtain ⟨⟨head, between⟩, headDone, ⟨tail, after⟩, tailDone, same⟩ := done
      obtain ⟨rfl, rfl⟩ := Prod.mk.inj (Option.some.inj same)
      obtain ⟨betweenAbsent, sameId, kept⟩ :=
        adjustInbound_absent absent headDone
      obtain ⟨afterAbsent, later⟩ := induction betweenAbsent tailDone
      refine ⟨afterAbsent, ?_⟩
      intro other member
      rcases List.mem_cons.mp member with rfl | inTail
      · exact ⟨first, List.mem_cons_self, sameId, kept⟩
      · obtain ⟨row, rowMember, rest⟩ := later other inTail
        exact ⟨row, List.mem_cons_of_mem first rowMember, rest⟩

end Adjust

/-- An account as it was left by a freeze: its client, and the expiry of its
row. -/
structure AccountIn (database : Database) (inboundId : Int) (index : Nat)
    (client : JsonObject) (rowExpiry : Option Int) : Prop where
  stored : ∃ other, clientAt database inboundId index = some other ∧
    SameLimits client other
  row : (database.traffics.find? (emailOf client)).map
    ClientTraffic.expiryTime = rowExpiry

section Pass

variable {database : Database} {inboundId : Int} {index : Nat}
  {client : JsonObject} {rowExpiry : Option Int}

/-- Rows saved over the stored ones keep the account when each keeps the
clients of the row it replaces. -/
theorem clientAt_saveInbounds {rows : List StoredInbound}
    {other : JsonObject}
    (found : clientAt database inboundId index = some other)
    (kept : ∀ saved ∈ rows, ∃ row ∈ database.inbounds, saved.id = row.id ∧
      KeepsClient (emailOf other) row saved) :
    ∃ later, clientAt (database.saveInbounds rows) inboundId index =
      some later ∧ SameLimits other later := by
  obtain ⟨row, stored, inRow⟩ := clientAt_eq_some.mp found
  simp only [clientAt_eq_some, Database.saveInbounds, Table.find?_foldl_save]
  cases last : rows.reverse.find? (·.id = inboundId) with
  | none => exact ⟨other, ⟨row, stored, inRow⟩, SameLimits.refl other⟩
  | some saved =>
      have named : saved.id = inboundId := by simpa using List.find?_some last
      obtain ⟨before, member, sameId, keeps⟩ :=
        kept saved (List.mem_reverse.mp (List.mem_of_find?_eq_some last))
      obtain ⟨rowMember, rowId⟩ := Table.find?_eq_some.mp stored
      obtain rfl : before = row := Table.eq_of_key_eq member rowMember
        (sameId.symm.trans (named.trans rowId.symm))
      obtain ⟨later, laterStored, same⟩ := keeps index other inRow rfl
      exact ⟨later, ⟨saved, rfl, laterStored⟩, same⟩

/-- The rows change in everything but their settings. -/
theorem clientAt_mapRows {apply : StoredInbound → StoredInbound}
    {keeps : ∀ row, (apply row).id = row.id}
    (settings : ∀ row, (apply row).settings = row.settings) :
    clientAt { database with inbounds := database.inbounds.mapRows apply keeps }
      inboundId index = clientAt database inboundId index := by
  simp only [clientAt, Table.find?_mapRows]
  cases database.inbounds.find? inboundId with
  | none => rfl
  | some row =>
      simp only [Option.map_some, Option.bind_some, clientOf, clientItems,
        settings]

/-- The stages of a pass without a database failure. -/
theorem addTraffic_noFaults {now : Int} {batch : TrafficBatch}
    (Holds : Database → Prop) (start : Holds database)
    (counted : ∀ before traffic, Holds before →
      Holds (before.countInbound traffic))
    (charged : ∀ before inbounds rows, Holds before →
      adjustTraffics now before (before.traffics.rows.filter fun row =>
        row.email ∈ batch.clients.map ClientBytes.email) =
          some (inbounds, rows) →
      Holds ((before.saveInbounds inbounds).saveStats
        (rows.map (addBytes now batch.clients))))
    (renewed : ∀ before rows inbounds, Holds before →
      rows = before.traffics.rows.filter (isRenewable now) →
      List.Forall₂ (fun row saved => renewInbound now rows row = some saved)
        (before.inbounds.rows.filter fun row =>
          row.id ∈ rows.map ClientTraffic.inboundId) inbounds →
      ∀ emails : List String,
        Holds ((before.saveInbounds inbounds).saveStats (rows.map fun row =>
          if row.email ∈ emails then renewRow now row else row)))
    (disabled : ∀ before, Holds before →
      Holds ((before.disableInvalidClients now).disableInvalidInbounds now)) :
    Holds (addTraffic now batch Call.noFaults database).2 := by
  have counting : ∀ traffics number before, Holds before → ∃ after,
      Call.run database Call.noFaults number (addInboundTraffic traffics)
        before = (none, after) ∧ Holds after := by
    intro traffics
    unfold addInboundTraffic
    induction traffics.filter InboundTraffic.isInbound with
    | nil => exact fun _ before holds => ⟨before, rfl, holds⟩
    | cons traffic rest induction =>
        intro number before holds
        exact induction (number + 1) (before.countInbound traffic)
          (counted before traffic holds)
  obtain ⟨afterCount, ran, countHolds⟩ := counting batch.inbounds 0 database
    start
  simp only [addTraffic, ran, trafficPasses]
  split
  · exact countHolds
  next statements found =>
    obtain ⟨⟨inbounds, rows⟩, adjusted, rfl⟩ := Option.map_eq_some_iff.mp found
    have chargeHolds := charged afterCount inbounds rows countHolds adjusted
    split
    · exact chargeHolds
    next renewals found =>
      obtain ⟨saved, collected, rfl⟩ := Option.map_eq_some_iff.mp found
      simp only [Call.noFaults, Bool.false_eq_true, if_false]
      apply disabled
      split
      · exact chargeHolds
      · exact renewed _ _ saved chargeHolds rfl (forall₂_of_mapM collected) _

theorem AccountIn.saveInbounds
    (account : AccountIn database inboundId index client rowExpiry)
    {rows : List StoredInbound}
    (kept : ∀ saved ∈ rows, ∃ row ∈ database.inbounds, saved.id = row.id ∧
      KeepsClient (emailOf client) row saved) :
    AccountIn (database.saveInbounds rows) inboundId index client
      rowExpiry where
  stored := by
    obtain ⟨other, found, same⟩ := account.stored
    rw [← same.email] at kept
    obtain ⟨later, laterFound, sameLater⟩ := clientAt_saveInbounds found kept
    exact ⟨later, laterFound, same.trans sameLater⟩
  row := account.row

theorem AccountIn.saveStats
    (account : AccountIn database inboundId index client rowExpiry)
    {rows : List ClientTraffic} (absent : Absent (emailOf client) rows) :
    AccountIn (database.saveStats rows) inboundId index client rowExpiry where
  stored := account.stored
  row := by
    rw [Database.saveStats, Table.find?_foldl_save_of_forall absent]
    exact account.row

/-- A row that no pass starts or renews: there is none, or it is frozen and no
batch counts its e-mail. -/
def Undisturbed (email : String) (rowExpiry : Option Int)
    (batch : TrafficBatch) : Prop :=
  (∀ expiry ∈ rowExpiry, expiry < 0) ∧
    (rowExpiry = none ∨ email ∉ batch.clients.map ClientBytes.email)

theorem AccountIn.absent_counted
    (account : AccountIn database inboundId index client rowExpiry)
    {batch : TrafficBatch}
    (undisturbed : Undisturbed (emailOf client) rowExpiry batch) :
    Absent (emailOf client) (database.traffics.rows.filter fun row =>
      row.email ∈ batch.clients.map ClientBytes.email) := by
  intro row member named
  obtain ⟨stored, counted⟩ := List.mem_filter.mp member
  rcases undisturbed.2 with none | unnamed
  · have found : database.traffics.find? (emailOf client) = some row :=
      Table.find?_eq_some.mpr ⟨stored, named⟩
    have expiry := account.row
    rw [found, none] at expiry
    cases expiry
  · rw [named] at counted
    exact unnamed (of_decide_eq_true counted)

theorem AccountIn.absent_renewable
    (account : AccountIn database inboundId index client rowExpiry)
    {now : Int} {batch : TrafficBatch}
    (undisturbed : Undisturbed (emailOf client) rowExpiry batch) :
    Absent (emailOf client)
      (database.traffics.rows.filter (isRenewable now)) := by
  intro row member named
  obtain ⟨stored, renewable⟩ := List.mem_filter.mp member
  have found : database.traffics.find? (emailOf client) = some row :=
    Table.find?_eq_some.mpr ⟨stored, named⟩
  have expiry := account.row
  rw [found] at expiry
  have frozen := undisturbed.1 row.expiryTime (by rw [← expiry]; rfl)
  simp only [isRenewable, Bool.and_eq_true, decide_eq_true_eq] at renewable
  omega

theorem renewInbound_keepsClient {now : Int} {email : String}
    {rows : List ClientTraffic} {row saved : StoredInbound}
    (absent : Absent email rows)
    (renewed : renewInbound now rows row = some saved) :
    saved.id = row.id ∧ KeepsClient email row saved := by
  unfold renewInbound at renewed
  split at renewed
  next items stored =>
    obtain ⟨after, converted, rfl⟩ := Option.map_eq_some_iff.mp renewed
    refine ⟨rfl, ?_⟩
    intro index client found named
    rw [clientItems, stored] at found
    obtain ⟨item, itemFound, itemRenewed⟩ :=
      getElem?_of_forall₂ (forall₂_of_mapM converted) found
    rw [clientItems_withItems]
    refine ⟨client, itemFound.trans ?_, SameLimits.refl client⟩
    simp only [renewItem] at itemRenewed
    split at itemRenewed
    next given text =>
      have given_eq : given = email := by
        rw [← named, emailOf, text]
        rfl
      have none : rows.find? (·.email = given) = none := by
        rw [List.find?_eq_none, given_eq]
        intro row member
        simpa using absent row member
      rw [none] at itemRenewed
      exact itemRenewed.symm
    next => cases itemRenewed
  next => cases renewed

/-- A pass that does not count the account leaves it as it was. -/
theorem AccountIn.addTraffic {now : Int} {batch : TrafficBatch}
    (account : AccountIn database inboundId index client rowExpiry)
    (undisturbed : Undisturbed (emailOf client) rowExpiry batch) :
    AccountIn (addTraffic now batch Call.noFaults database).2 inboundId index
      client rowExpiry := by
  apply addTraffic_noFaults
    (fun state => AccountIn state inboundId index client rowExpiry) account
  · intro before traffic holds
    refine ⟨?_, holds.row⟩
    rw [Database.countInbound, clientAt_mapRows fun row => by
      rw [countInbound_toInbound]]
    exact holds.stored
  · intro before inbounds rows holds adjusted
    obtain ⟨absent, kept⟩ :=
      adjustInbounds_absent (holds.absent_counted undisturbed) adjusted
    refine (holds.saveInbounds ?_).saveStats ?_
    · intro saved member
      obtain ⟨row, loaded, same, keeps⟩ := kept saved member
      exact ⟨row, (List.mem_filter.mp loaded).1, same, keeps⟩
    · intro row member
      obtain ⟨started, startedMember, rfl⟩ := List.mem_map.mp member
      have differs := absent started startedMember
      unfold addBytes
      split
      · exact differs
      · exact differs
  · intro before rows inbounds holds selected related emails
    subst selected
    have absent : Absent (emailOf client)
        (before.traffics.rows.filter (isRenewable now)) :=
      holds.absent_renewable undisturbed
    refine (holds.saveInbounds ?_).saveStats ?_
    · intro saved member
      obtain ⟨row, loaded, renewed⟩ := mem_right_of_forall₂ related member
      exact ⟨row, (List.mem_filter.mp loaded).1,
        renewInbound_keepsClient absent renewed⟩
    · intro row member
      obtain ⟨old, oldMember, rfl⟩ := List.mem_map.mp member
      have differs := absent old oldMember
      split
      · exact differs
      · exact differs
  · intro before holds
    constructor
    · rw [Database.disableInvalidInbounds, clientAt_mapRows fun row => by
        unfold disableInbound
        split <;> rfl]
      exact holds.stored
    · have expiry := holds.row
      simp only [Database.disableInvalidInbounds,
        Database.disableInvalidClients, Table.find?_mapRows, Option.map_map]
      rw [← expiry]
      congr 1
      funext row
      simp only [Function.comp_apply, disableDepleted]
      split <;> rfl

end Pass

inductive TimeLeft
  | unlimited
  | milliseconds (left : Int)
  deriving DecidableEq

/-- What an account has left, by an expiry and a flag: a negative expiry is a
time that does not run, and that of a disabled account may mark an unlimited
one. -/
def timeLeft (now expiry : Int) (enable : Bool) : TimeLeft :=
  if expiry = 0 then .unlimited
  else if 0 < expiry then .milliseconds (expiry - now)
  else if !enable && expiry = frozenNoExpiry then .unlimited
  else .milliseconds (-expiry)

/-- The database after some traffic passes without a database failure. -/
def passes (database : Database) (batches : List (Int × TrafficBatch)) :
    Database :=
  batches.foldl
    (fun state batch => (addTraffic batch.1 batch.2 Call.noFaults state).2)
    database

def runBulk (request : BulkClientUpdateRequest) (now : Int)
    (database : Database) : Option RequestError × Database :=
  Call.run database Call.noFaults 0 (bulkUpdateClients request now database)
    database

theorem AccountIn.passes {database : Database} {inboundId : Int} {index : Nat}
    {client : JsonObject} {rowExpiry : Option Int}
    {batches : List (Int × TrafficBatch)}
    (account : AccountIn database inboundId index client rowExpiry)
    (undisturbed : ∀ batch ∈ batches,
      Undisturbed (emailOf client) rowExpiry batch.2) :
    AccountIn (passes database batches) inboundId index client rowExpiry := by
  induction batches generalizing database with
  | nil => exact account
  | cons batch rest induction =>
      apply induction
        (account.addTraffic (undisturbed batch List.mem_cons_self))
      intro later member
      exact undisturbed later (List.mem_cons_of_mem batch member)

section Freeze

variable {request : BulkClientUpdateRequest} {client : JsonObject}
  {now later : Int}

/-- What a freeze may lose: an expiry one millisecond away, or a start that was
delayed by one, looks like the mark of an unlimited account. -/
def MarkFree (now : Int) (client : JsonObject) : Prop :=
  expiryOf client ≠ now + 1 ∧
    ¬ (enableOf client = true ∧ expiryOf client = frozenNoExpiry)

theorem bulkResult_fields (changed : JsonObject)
    (applied : applyBulkClientOp client request now = some changed)
    (kept : bulkClientSkipped client request = false) :
    SameLimits changed (bulkResult request now client) := by
  rw [bulkResult, kept, applied]
  exact SameLimits.set _ (by decide)

theorem emailOf_bulkResult :
    emailOf (bulkResult request now client) = emailOf client := by
  unfold bulkResult
  split
  · rfl
  split
  · rfl
  next changed applied =>
    refine (SameLimits.set _ (by decide)).email.trans ?_
    rw [emailOf, get_applyBulkClientOp (by decide) applied, emailOf]

/-- The time that a frozen account has locked is what it had left. -/
theorem timeLeft_of_freeze (freeze : request.op = .freeze)
    (markFree : MarkFree now client)
    (negative : expiryOf (bulkResult request now client) < 0)
    (off : enableOf (bulkResult request now client) = false) :
    timeLeft now (expiryOf client) (enableOf client) =
      if expiryOf (bulkResult request now client) = frozenNoExpiry
      then .unlimited
      else .milliseconds (-expiryOf (bulkResult request now client)) := by
  have unchanged : bulkResult request now client = client →
      timeLeft now (expiryOf client) (enableOf client) =
        if expiryOf (bulkResult request now client) = frozenNoExpiry
        then .unlimited
        else .milliseconds (-expiryOf (bulkResult request now client)) := by
    intro same
    rw [same] at negative off ⊢
    rw [timeLeft, if_neg (by omega), if_neg (by omega), off]
    simp
  cases skipped : bulkClientSkipped client request with
  | true => exact unchanged (by rw [bulkResult, if_pos skipped])
  | false =>
      cases applied : applyBulkClientOp client request now with
      | none => exact unchanged (by rw [bulkResult, skipped, applied]; rfl)
      | some changed =>
          have same := bulkResult_fields changed applied skipped
          rw [same.expiry] at negative ⊢
          obtain ⟨apart, undelayed⟩ := markFree
          simp only [applyBulkClientOp, freeze] at applied
          split at applied
          · cases applied
          next running =>
            rw [← Option.some.inj applied] at negative ⊢
            rw [expiryOf_setEnable] at negative ⊢
            unfold frozenNoExpiry at undelayed ⊢
            by_cases positive : 0 < expiryOf client
            · rw [if_pos positive, expiryOf_setExpiry] at negative ⊢
              rw [timeLeft, if_neg (by omega), if_pos positive,
                if_neg (by omega), Int.neg_sub]
            · by_cases none : expiryOf client = 0
              · rw [if_neg positive, if_pos none, expiryOf_setExpiry, timeLeft,
                  if_pos none]
                rfl
              · have delayed : expiryOf client < 0 := by omega
                have on : enableOf client = true := by
                  simpa [delayed] using running
                rw [if_neg positive, if_neg none, timeLeft, if_neg none,
                  if_neg positive, on,
                  if_neg fun mark => undelayed ⟨on, mark⟩]
                simp

/-- An unfreeze gives back what is locked. -/
theorem timeLeft_of_unfreeze (unfreeze : request.op = .unfreeze)
    (kept : bulkClientSkipped client request = false)
    (negative : expiryOf client < 0) (off : enableOf client = false)
    (clock : 0 ≤ now) :
    applyBulkClientOp client request now ≠ none ∧
      enableOf (bulkResult request now client) = true ∧
      timeLeft now (expiryOf (bulkResult request now client)) true =
        if expiryOf client = frozenNoExpiry then .unlimited
        else .milliseconds (-expiryOf client) := by
  have applied : applyBulkClientOp client request now =
      some (setEnable (if expiryOf client = frozenNoExpiry
        then setExpiry client 0
        else setExpiry client (now - expiryOf client)) true) := by
    simp only [applyBulkClientOp, unfreeze, off, Bool.false_eq_true, if_false,
      if_pos negative]
  have same := bulkResult_fields _ applied kept
  refine ⟨by rw [applied]; exact Option.some_ne_none _, ?_, ?_⟩
  · rw [same.enable, enableOf_setEnable]
  · rw [same.expiry, expiryOf_setEnable]
    split
    · rw [expiryOf_setExpiry]
      rfl
    · rw [expiryOf_setExpiry, timeLeft, if_neg (by omega), if_pos (by omega)]
      congr 1
      omega

end Freeze

/-- When a frozen account stays frozen: the freeze did not meet a time that
looks like its mark, no pass counts bytes of the account, and its e-mail is no
other client's when it is unfrozen. -/
structure SafelyFrozen (start : Int) (client : JsonObject)
    (frozen : Database) (batches : List (Int × TrafficBatch))
    (inboundId : Int) (index : Nat) : Prop where
  markFree : MarkFree start client
  undisturbed : ∀ batch ∈ batches, Undisturbed (emailOf client)
    ((frozen.traffics.find? (emailOf client)).map ClientTraffic.expiryTime)
    batch.2
  sole : Sole (passes frozen batches) (emailOf client) inboundId index

/-- The locked time is kept through the passes, and given back after them. -/
structure FrozenThroughout (start finish : Int) (client locked : JsonObject)
    (frozen resumed : Database) (batches : List (Int × TrafficBatch))
    (inboundId : Int) (index : Nat) : Prop where
  settings : ∀ earlier rest, batches = earlier ++ rest →
    (clientAt (passes frozen earlier) inboundId index).map expiryOf =
      some (expiryOf locked)
  row : ∀ earlier rest, batches = earlier ++ rest →
    ((passes frozen earlier).traffics.find? (emailOf client)).map
        ClientTraffic.expiryTime =
      (frozen.traffics.find? (emailOf client)).map ClientTraffic.expiryTime
  resumes : ∃ thawed, clientAt resumed inboundId index = some thawed ∧
    enableOf thawed = true ∧
    timeLeft finish (expiryOf thawed) true =
      timeLeft start (expiryOf client) (enableOf client)
  resumesRow : ∀ stat, resumed.traffics.find? (emailOf client) = some stat →
    stat.enable = true ∧
      timeLeft finish stat.expiryTime true =
        timeLeft start (expiryOf client) (enableOf client)

/-- The only client of the only inbound has its e-mail alone. -/
theorem sole_of_single {database : Database} {row : StoredInbound}
    {inboundId : Int} {client : JsonObject}
    (rows : database.inbounds.rows = [row])
    (items : clientItems row = [.obj client]) (single : row.id = inboundId)
    (email : String) : Sole database email inboundId 0 := by
  intro otherId otherIndex other found _
  obtain ⟨saved, stored, inRow⟩ := clientAt_eq_some.mp found
  obtain ⟨member, named⟩ := Table.find?_eq_some.mp stored
  rw [Table.mem_def, rows] at member
  obtain rfl := List.mem_singleton.mp member
  rw [items] at inRow
  refine ⟨named.symm.trans single, ?_⟩
  cases otherIndex with
  | zero => rfl
  | succ place => cases inRow

def onAnn (op : BulkOp) : BulkClientUpdateRequest :=
  ⟨op, 0, 0, false, false, false, [(1, "ann")]⟩

def frozenAnn : Database :=
  (runBulk (onAnn .freeze) 1000 (annDatabase 91000)).2

def lockedAnn : JsonObject :=
  bulkResult (onAnn .freeze) 1000 (annClient 91000)

def countedFor (email : String) : List (Int × TrafficBatch) :=
  [(2000, ⟨[], [⟨email, 10, 20⟩]⟩)]

end VpnUi.Store
