import VpnUi.Store.Frozen
import VpnUi.Store.MirrorBulk

namespace VpnUi.Store

open Foundation Panel

/-! A traffic pass changes limits in both places: it starts clocks and renews
periods. -/

/-- The row enforces the limits of the client, where that is asked for. -/
def Matches (enforced : Prop) (limits : Limits) (stat : ClientTraffic) : Prop :=
  enforced → stat.total = limits.totalGB ∧
    stat.expiryTime = limits.expiryTime ∧ stat.reset = limits.reset

theorem follows_matches (enforced : Prop) : Follows (Matches enforced) :=
  ⟨fun _ _ _ => ⟨rfl, rfl, rfl⟩, fun _ _ _ => ⟨rfl, rfl, rfl⟩⟩

section Transform

variable {agrees : Limits → ClientTraffic → Prop} {database after : Database}

/-- The clients of an inbound keep their e-mails, and their rows still go with
them. -/
def Reworked (agrees : Limits → ClientTraffic → Prop) (database : Database)
    (change : ClientTraffic → ClientTraffic) (row later : StoredInbound) :
    Prop :=
  List.Forall₂ (fun old new : Limits => new.email = old.email ∧
      ∀ stat ∈ database.traffics, stat.email = old.email →
        stat.inboundId = row.id → agrees old stat → agrees new (change stat))
    (limits row.settings) (limits later.settings)

theorem Reworked.emails {change : ClientTraffic → ClientTraffic}
    {row later : StoredInbound}
    (reworked : Reworked agrees database change row later) :
    emails later.settings = emails row.settings := by
  unfold Reworked at reworked
  unfold Panel.emails
  generalize limits row.settings = before at reworked ⊢
  generalize limits later.settings = after at reworked ⊢
  induction reworked with
  | nil => rfl
  | cons head _ induction =>
      rw [List.map_cons, List.map_cons, induction, head.1]

theorem Reworked.of_settings {change : ClientTraffic → ClientTraffic}
    {row later : StoredInbound} (same : later.settings = row.settings)
    (keeps : ∀ client stat, agrees client stat → agrees client (change stat)) :
    Reworked agrees database change row later := by
  unfold Reworked
  rw [same]
  exact List.forall₂_same.mpr fun client _ =>
    ⟨rfl, fun stat _ _ _ => keeps client stat⟩

/-- Each row of both tables becomes another one under its key. -/
theorem Mirrored.transform (mirrored : Mirrored agrees database)
    (change : ClientTraffic → ClientTraffic)
    (sameEmail : ∀ stat, (change stat).email = stat.email)
    (sameOwner : ∀ stat, (change stat).inboundId = stat.inboundId)
    (stats : ∀ stat, stat ∈ after.traffics ↔
      ∃ old ∈ database.traffics, change old = stat)
    (origin : ∀ later ∈ after.inbounds, ∃ row ∈ database.inbounds,
      later.id = row.id ∧ Reworked agrees database change row later)
    (image : ∀ row ∈ database.inbounds, ∃ later ∈ after.inbounds,
      later.id = row.id) : Mirrored agrees after where
  covered := by
    intro later member
    obtain ⟨row, stored, sameId, reworked⟩ := origin later member
    have covered := mirrored.covered row stored
    refine ⟨?_, ?_, ?_⟩
    · intro client listed nonempty
      obtain ⟨old, oldListed, same, keeps⟩ :=
        mem_right_of_forall₂ reworked listed
      obtain ⟨stat, inTable, named, owner, agreed⟩ :=
        covered.row old oldListed (same ▸ nonempty)
      exact ⟨change stat, (stats _).mpr ⟨stat, inTable, rfl⟩,
        (sameEmail stat).trans (named.trans same.symm),
        (sameOwner stat).trans (owner.trans sameId.symm),
        keeps stat inTable named owner agreed⟩
    · intro stat inTable owner
      obtain ⟨old, inOld, rfl⟩ := (stats stat).mp inTable
      rw [sameEmail, reworked.emails]
      exact covered.client old inOld
        ((sameOwner old).symm.trans (owner.trans sameId))
    · rw [reworked.emails]
      exact covered.distinct
  apart := by
    intro later member other otherMember differs
    obtain ⟨row, stored, sameId, reworked⟩ := origin later member
    obtain ⟨otherRow, otherStored, otherId, otherReworked⟩ :=
      origin other otherMember
    rw [reworked.emails, otherReworked.emails]
    exact mirrored.apart row stored otherRow otherStored
      (fun same => differs (otherId.trans (same.trans sameId.symm)))
  owned := by
    intro stat inTable
    obtain ⟨old, inOld, rfl⟩ := (stats stat).mp inTable
    obtain ⟨row, stored, owner⟩ := mirrored.owned old inOld
    obtain ⟨later, member, sameId⟩ := image row stored
    exact ⟨later, member, sameId.trans (owner.trans (sameOwner old).symm)⟩
  named := by
    intro stat inTable
    obtain ⟨old, inOld, rfl⟩ := (stats stat).mp inTable
    rw [sameEmail]
    exact mirrored.named old inOld

/-- The inbounds change in everything but their settings. -/
theorem Mirrored.mapInbounds (mirrored : Mirrored agrees database)
    {apply : StoredInbound → StoredInbound}
    {keeps : ∀ row, (apply row).id = row.id}
    (settings : ∀ row, (apply row).settings = row.settings) :
    Mirrored agrees
      { database with inbounds := database.inbounds.mapRows apply keeps } := by
  apply mirrored.transform id (fun _ => rfl) (fun _ => rfl)
  · exact fun stat => ⟨fun member => ⟨stat, member, rfl⟩,
      fun ⟨_, member, same⟩ => same ▸ member⟩
  · intro later member
    obtain ⟨row, stored, rfl⟩ :=
      (@Table.mem_mapRows _ _ _ _ _ _ keeps _).mp member
    exact ⟨row, stored, keeps row,
      .of_settings (settings row) fun _ _ agreed => agreed⟩
  · intro row stored
    refine ⟨apply row, ?_, keeps row⟩
    rw [Table.mem_mapRows]
    exact ⟨row, stored, rfl⟩

/-- The rows change in what no limit depends on. -/
theorem Mirrored.mapStats (mirrored : Mirrored agrees database)
    {after : Table ClientTraffic.email}
    (change : ClientTraffic → ClientTraffic)
    (sameEmail : ∀ stat, (change stat).email = stat.email)
    (sameOwner : ∀ stat, (change stat).inboundId = stat.inboundId)
    (keeps : ∀ client stat, agrees client stat → agrees client (change stat))
    (stats : ∀ stat, stat ∈ after ↔
      ∃ old ∈ database.traffics, change old = stat) :
    Mirrored agrees { database with traffics := after } :=
  mirrored.transform change sameEmail sameOwner stats
    (fun row stored => ⟨row, stored, rfl, .of_settings rfl keeps⟩)
    (fun row stored => ⟨row, stored, rfl⟩)

end Transform

theorem limitsOf_obj (client : JsonObject) :
    limitsOf (.obj client) = ⟨(JsonObject.get client "email").text.value,
      (JsonObject.get client "totalGB").number.value,
      (JsonObject.get client "expiryTime").number.value,
      (JsonObject.get client "reset").number.value⟩ := rfl

theorem limitsOf_setStamp (now : Int) (client : JsonObject) :
    limitsOf (.obj (setStamp now client)) = limitsOf (.obj client) := by
  unfold setStamp
  rw [timeless_limitsOf _ _ _ (by decide)]
  split
  · rfl
  · exact timeless_limitsOf _ _ _ (by decide)

theorem limitsOf_setExpiry (client : JsonObject) (expiry : Int) :
    limitsOf (.obj (setExpiry client expiry)) =
      { limitsOf (.obj client) with
        expiryTime := (Json.int expiry).number.value } := by
  rw [limitsOf_obj, limitsOf_obj, setExpiry,
    JsonObject.get_set_ne (by decide), JsonObject.get_set_ne (by decide),
    JsonObject.get_set_self, JsonObject.get_set_ne (by decide)]

section Adjust

variable {enforced : Prop} {now : Int} {inbounds : StoredInbounds}
  {traffics : Table ClientTraffic.email} {ips : Table ClientIps.clientEmail}
  {row : StoredInbound} {rows started : List ClientTraffic}

/-- The expiries of the clocks that a pass starts or renews fit. -/
def PassFits (enforced : Prop) (now : Int) (rows : List ClientTraffic) :
    Prop :=
  enforced → 0 ≤ now ∧ ∀ stat ∈ rows,
    (stat.expiryTime < 0 → Json.Int64 (now - stat.expiryTime)) ∧
      (isRenewable now stat = true → Json.Int64 (renewedExpiry now stat))

/-- A started clock is the same in both places. -/
theorem matches_started {client : JsonObject} {stat : ClientTraffic} {old : Int}
    (agreed : Matches enforced (limitsOf (.obj client)) stat)
    (waiting : stat.expiryTime < 0)
    (fits : enforced → Json.Int64 (now - stat.expiryTime))
    (read : number? (JsonObject.get client "expiryTime") = some old) :
    (enforced → old = stat.expiryTime) ∧
      Matches enforced (limitsOf (.obj (setStamp now
        (setExpiry client (now - old)))))
        { stat with expiryTime := now - old } := by
  have same : enforced → old = stat.expiryTime := by
    intro needed
    obtain ⟨-, expiry, -⟩ := agreed needed
    rw [limitsOf_obj] at expiry
    dsimp only at expiry
    generalize JsonObject.get client "expiryTime" = value at read expiry
    cases value with
    | int number =>
        obtain rfl := Option.some.inj read
        simp only [Json.number] at expiry
        split at expiry
        · exact expiry.symm
        · rw [expiry] at waiting
          exact absurd waiting (by decide)
    | real literal =>
        rw [show stat.expiryTime = 0 from expiry] at waiting
        exact absurd waiting (by decide)
    | _ => cases read
  refine ⟨same, fun needed => ?_⟩
  obtain ⟨total, -, reset⟩ := agreed needed
  rw [limitsOf_setStamp, limitsOf_setExpiry]
  refine ⟨total, ?_, reset⟩
  exact (number_int (by rw [same needed]; exact fits needed)).symm

theorem Mirrored.adjustClient {done todo : List Json}
    {client adjusted : JsonObject}
    (mirrored : Mirrored (Matches enforced)
      ⟨inbounds.save (withItems row (.arr (done ++ .obj client :: todo))),
        rows.foldl Table.save traffics, ips⟩)
    (distinct : (rows.map ClientTraffic.email).Nodup)
    (fits : PassFits enforced now rows)
    (ran : Store.adjustClient now rows client = some (adjusted, started)) :
    started.map ClientTraffic.email = rows.map ClientTraffic.email ∧
      PassFits enforced now started ∧
      Mirrored (Matches enforced)
        ⟨inbounds.save (withItems row
          (.arr (done ++ .obj adjusted :: todo))),
          started.foldl Table.save traffics, ips⟩ := by
  have stored : withItems row (.arr (done ++ .obj client :: todo)) ∈
      inbounds.save (withItems row (.arr (done ++ .obj client :: todo))) :=
    Table.mem_save.mpr (.inl rfl)
  have twice : ∀ first second,
      (inbounds.save (withItems row first)).save (withItems row second) =
        inbounds.save (withItems row second) := fun _ _ => Table.save_save rfl
  unfold Store.adjustClient at ran
  split at ran
  next none =>
    obtain ⟨rfl, rfl⟩ := Prod.mk.inj (Option.some.inj ran)
    refine ⟨rfl, fits, ?_⟩
    have resaved := @Mirrored.resave _ _ mirrored _ (withItems row
      (.arr (done ++ .obj (setStamp now client) :: todo))) stored rfl
      (by simp [limits_withItems, limitsOf_setStamp]) ips
    dsimp only at resaved
    rw [twice] at resaved
    exact resaved
  next stat found =>
    obtain ⟨old, read, same⟩ := Option.map_eq_some_iff.mp ran
    obtain ⟨rfl, rfl⟩ := Prod.mk.inj same
    have member := List.mem_of_find?_eq_some found
    have starts : startsFor client stat = true := List.find?_some found
    simp only [startsFor, Bool.and_eq_true, decide_eq_true_eq] at starts
    obtain ⟨⟨waiting, -⟩, named⟩ := starts
    have sameEmails : (rows.map fun other =>
        if other.email = stat.email then { other with expiryTime := now - old }
        else other).map ClientTraffic.email =
          rows.map ClientTraffic.email := by
      rw [List.map_map]
      apply List.map_congr_left
      intro other _
      simp only [Function.comp_apply]
      split <;> rfl
    -- the row of this client is the one that starts
    have inTable : stat ∈ rows.foldl Table.save traffics :=
      (Table.mem_foldl_save distinct).mpr (.inl member)
    have listed : limitsOf (.obj client) ∈ limits (withItems row
        (.arr (done ++ .obj client :: todo))).settings := by
      rw [limits_withItems]
      exact List.mem_map_of_mem (by simp)
    have nonempty : (limitsOf (.obj client)).email ≠ "" := by
      rw [← emailOf_eq, named]
      exact mirrored.named stat inTable
    obtain ⟨own, foundOwn, owner, agreed⟩ :=
      mirrored.find? stored listed nonempty
    obtain ⟨ownIn, ownNamed⟩ := Table.find?_eq_some.mp foundOwn
    obtain rfl : own = stat := Table.eq_of_key_eq ownIn inTable
      (ownNamed.trans ((emailOf_eq client).symm.trans named))
    obtain ⟨sameOld, startedAgrees⟩ := matches_started agreed waiting
      (fun needed => ((fits needed).2 own member).1 waiting) read
    have sameLimits : (limitsOf (.obj (setStamp now
        (setExpiry client (now - old))))).email =
          (limitsOf (.obj client)).email := by
      rw [limitsOf_setStamp, limitsOf_setExpiry]
    refine ⟨sameEmails, ?_, ?_⟩
    · intro needed
      obtain ⟨clock, later⟩ := fits needed
      refine ⟨clock, ?_⟩
      intro other otherIn
      obtain ⟨before, beforeIn, rfl⟩ := List.mem_map.mp otherIn
      rw [sameOld needed]
      split
      next same =>
        refine ⟨fun still => ?_, fun renewable => ?_⟩
        · dsimp only at still
          omega
        · simp only [isRenewable, Bool.and_eq_true, decide_eq_true_eq]
            at renewable
          omega
      next differs => exact later before beforeIn
    · have replaced := @Mirrored.replace _ _ mirrored _ (withItems row
          (.arr (done ++ .obj (setStamp now
            (setExpiry client (now - old))) :: todo)))
        (done.map limitsOf) (todo.map limitsOf) (limitsOf (.obj client))
        (limitsOf (.obj (setStamp now (setExpiry client (now - old)))))
        { own with expiryTime := now - old }
        ((rows.map fun other => if other.email = own.email then
          { other with expiryTime := now - old } else other).foldl
            Table.save traffics) ips stored rfl
        ⟨by simp [limits_withItems], by simp [limits_withItems],
          .inr (.inl sameLimits)⟩ ?_ (ownNamed.trans sameLimits.symm) owner
        startedAgrees
      · dsimp only at replaced
        rw [twice] at replaced
        exact replaced
      · intro other
        rw [Table.mem_foldl_save (sameEmails ▸ distinct), sameEmails,
          Table.mem_foldl_save distinct, sameLimits, ← ownNamed]
        constructor
        · rintro (changed | ⟨old, absent⟩)
          · obtain ⟨before, beforeIn, rfl⟩ := List.mem_map.mp changed
            split
            next same =>
              left
              refine ⟨ownNamed ▸ nonempty, ?_⟩
              rw [List.inj_on_of_nodup_map distinct beforeIn member same]
            next differs => exact .inr ⟨.inl beforeIn, differs⟩
          · refine .inr ⟨.inr ⟨old, absent⟩, fun same => absent ?_⟩
            rw [same]
            exact List.mem_map_of_mem member
        · rintro (⟨-, rfl⟩ | ⟨old | old, differs⟩)
          · exact .inl (List.mem_map.mpr ⟨own, member, if_pos rfl⟩)
          · exact .inl (List.mem_map.mpr ⟨other, old, if_neg differs⟩)
          · exact .inr old

theorem Mirrored.adjustItems {done todo adjusted : List Json}
    (mirrored : Mirrored (Matches enforced)
      ⟨inbounds.save (withItems row (.arr (done ++ todo))),
        rows.foldl Table.save traffics, ips⟩)
    (distinct : (rows.map ClientTraffic.email).Nodup)
    (fits : PassFits enforced now rows)
    (ran : Store.adjustItems now todo rows = some (adjusted, started)) :
    started.map ClientTraffic.email = rows.map ClientTraffic.email ∧
      PassFits enforced now started ∧
      Mirrored (Matches enforced)
        ⟨inbounds.save (withItems row (.arr (done ++ adjusted))),
          started.foldl Table.save traffics, ips⟩ := by
  induction todo generalizing done rows adjusted with
  | nil =>
      obtain ⟨rfl, rfl⟩ := Prod.mk.inj (Option.some.inj ran)
      exact ⟨rfl, fits, mirrored⟩
  | cons item rest induction =>
      cases item with
      | obj client =>
          simp only [Store.adjustItems, bind, Option.bind_eq_some_iff] at ran
          obtain ⟨⟨head, between⟩, headRan, ⟨tail, after⟩, tailRan, same⟩ := ran
          obtain ⟨rfl, rfl⟩ := Prod.mk.inj (Option.some.inj same)
          obtain ⟨sameHead, headFits, changed⟩ :=
            mirrored.adjustClient distinct fits headRan
          rw [List.append_cons] at changed
          obtain ⟨sameTail, tailFits, whole⟩ := induction changed
            (sameHead ▸ distinct) headFits tailRan
          refine ⟨sameTail.trans sameHead, tailFits, ?_⟩
          rw [List.append_cons]
          exact whole
      | _ => cases ran

theorem Mirrored.adjustInbound {adjusted : StoredInbound}
    (mirrored : Mirrored (Matches enforced)
      ⟨inbounds, rows.foldl Table.save traffics, ips⟩)
    (distinct : (rows.map ClientTraffic.email).Nodup)
    (fits : PassFits enforced now rows) (stored : row ∈ inbounds)
    (ran : Store.adjustInbound now row rows = some (adjusted, started)) :
    started.map ClientTraffic.email = rows.map ClientTraffic.email ∧
      PassFits enforced now started ∧ adjusted.id = row.id ∧
      Mirrored (Matches enforced) ⟨inbounds.save adjusted,
        started.foldl Table.save traffics, ips⟩ := by
  unfold Store.adjustInbound at ran
  split at ran
  next items read =>
    obtain ⟨⟨changed, after⟩, itemsRan, same⟩ := Option.map_eq_some_iff.mp ran
    obtain ⟨rfl, rfl⟩ := Prod.mk.inj same
    have start : Mirrored (Matches enforced)
        ⟨inbounds.save (withItems row (.arr ([] ++ items))),
          rows.foldl Table.save traffics, ips⟩ := by
      refine mirrored.resave stored ?_ ?_
      · rfl
      · rw [List.nil_append, limits_withItems, limits_clientItems,
          clientItems_of_array read]
    obtain ⟨sameEmails, later, whole⟩ :=
      start.adjustItems distinct fits itemsRan
    refine ⟨sameEmails, later, rfl, ?_⟩
    have saved : withItems row (.arr ([] ++ changed)) ∈
        inbounds.save (withItems row (.arr ([] ++ changed))) :=
      Table.mem_save.mpr (.inl rfl)
    have resaved := @Mirrored.resave _ _ whole _
      (withItems row (sliceJson changed)) saved rfl
      (by simp [limits_clientItems, clientItems_withItems,
        clientItems_withItems_slice]) ips
    have twice : (inbounds.save (withItems row (.arr ([] ++ changed)))).save
        (withItems row (sliceJson changed)) =
          inbounds.save (withItems row (sliceJson changed)) :=
      Table.save_save rfl
    dsimp only at resaved
    rw [twice] at resaved
    exact resaved
  next =>
    obtain ⟨rfl, rfl⟩ := Prod.mk.inj (Option.some.inj ran)
    rw [Table.save_eq_self stored]
    exact ⟨rfl, fits, rfl, mirrored⟩

theorem Mirrored.adjustInbounds {loaded adjusted : List StoredInbound}
    (mirrored : Mirrored (Matches enforced)
      ⟨inbounds, rows.foldl Table.save traffics, ips⟩)
    (distinct : (rows.map ClientTraffic.email).Nodup)
    (fits : PassFits enforced now rows)
    (stored : ∀ row ∈ loaded, row ∈ inbounds)
    (ids : (loaded.map (·.id)).Nodup)
    (ran : Store.adjustInbounds now loaded rows = some (adjusted, started)) :
    started.map ClientTraffic.email = rows.map ClientTraffic.email ∧
      PassFits enforced now started ∧
      Mirrored (Matches enforced) ⟨adjusted.foldl Table.save inbounds,
        started.foldl Table.save traffics, ips⟩ := by
  induction loaded generalizing inbounds rows adjusted with
  | nil =>
      obtain ⟨rfl, rfl⟩ := Prod.mk.inj (Option.some.inj ran)
      exact ⟨rfl, fits, mirrored⟩
  | cons first rest induction =>
      simp only [Store.adjustInbounds, bind, Option.bind_eq_some_iff] at ran
      obtain ⟨⟨head, between⟩, headRan, ⟨tail, after⟩, tailRan, same⟩ := ran
      obtain ⟨rfl, rfl⟩ := Prod.mk.inj (Option.some.inj same)
      rw [List.forall_mem_cons] at stored
      obtain ⟨fresh, others⟩ := List.nodup_cons.mp ids
      obtain ⟨sameHead, headFits, headId, changed⟩ :=
        mirrored.adjustInbound distinct fits stored.1 headRan
      have later : ∀ row ∈ rest, row ∈ inbounds.save head := by
        intro row member
        refine Table.mem_save.mpr (.inr ⟨stored.2 row member, ?_⟩)
        rw [headId]
        exact fun again =>
          fresh (List.mem_map.mpr ⟨row, member, again⟩)
      obtain ⟨sameTail, tailFits, whole⟩ := induction changed
        (sameHead ▸ distinct) headFits later others tailRan
      exact ⟨sameTail.trans sameHead, tailFits, whole⟩

end Adjust

/-- The inbounds that the renewals of these rows load. -/
def renewalInbounds (rows : List ClientTraffic) (database : Database) :
    List StoredInbound :=
  database.inbounds.rows.filter (·.id ∈ rows.map ClientTraffic.inboundId)

/-- The databases that a successful pass goes through. -/
structure TrafficPass (now : Int) (batch : TrafficBatch)
    (before counted charged renewed after : Database) : Prop where
  counts : counted = (batch.inbounds.filter InboundTraffic.isInbound).foldl
    Database.countInbound before
  charges : ∃ inbounds rows,
    adjustTraffics now counted (counted.traffics.rows.filter fun row =>
      row.email ∈ batch.clients.map ClientBytes.email) = some (inbounds, rows) ∧
    charged = (counted.saveInbounds inbounds).saveStats
      (rows.map (addBytes now batch.clients))
  renews : ∃ rows saved,
    rows = charged.traffics.rows.filter (isRenewable now) ∧
    List.Forall₂ (fun row later => renewInbound now rows row = some later)
      (renewalInbounds rows charged) saved ∧
    renewed = if saved = [] then charged
      else (charged.saveInbounds saved).saveStats (rows.map fun row =>
        if row.email ∈ (renewalInbounds rows charged).flatMap inboundEmails
        then renewRow now row else row)
  disables : after =
    (renewed.disableInvalidClients now).disableInvalidInbounds now

theorem run_addInboundTraffic {initial : Database} {number : Nat}
    {traffics : List InboundTraffic} {database : Database} :
    Call.run initial Call.noFaults number (addInboundTraffic traffics)
        database =
      (none, (traffics.filter InboundTraffic.isInbound).foldl
        Database.countInbound database) := by
  unfold addInboundTraffic
  induction traffics.filter InboundTraffic.isInbound generalizing number
      database with
  | nil => rfl
  | cons traffic rest induction => exact induction

theorem trafficPass_of_addTraffic {now : Int} {batch : TrafficBatch}
    {database after : Database}
    (succeeded : addTraffic now batch Call.noFaults database =
      (none, after)) : ∃ counted charged renewed,
    TrafficPass now batch database counted charged renewed after := by
  unfold addTraffic at succeeded
  rw [run_addInboundTraffic] at succeeded
  dsimp only at succeeded
  unfold trafficPasses at succeeded
  split at succeeded
  · cases succeeded
  next statements found =>
    obtain ⟨⟨inbounds, rows⟩, adjusted, rfl⟩ := Option.map_eq_some_iff.mp found
    dsimp only at succeeded
    split at succeeded
    · cases succeeded
    next renewals collected =>
      obtain ⟨saved, related, rfl⟩ := Option.map_eq_some_iff.mp collected
      simp only [Call.noFaults, Bool.false_eq_true, if_false] at succeeded
      rw [← (Prod.mk.inj succeeded).2]
      refine ⟨_, _, _, rfl, ⟨inbounds, rows, adjusted, rfl⟩,
        ⟨_, saved, rfl, forall₂_of_mapM related, ?_⟩, rfl⟩
      split <;> rfl

section Stages

variable {agrees : Limits → ClientTraffic → Prop} {enforced : Prop}
  {now : Int} {batch : TrafficBatch}
  {database counted charged renewed after : Database}

theorem Mirrored.countInbounds (mirrored : Mirrored agrees database)
    {traffics : List InboundTraffic} :
    Mirrored agrees (traffics.foldl Database.countInbound database) := by
  induction traffics generalizing database with
  | nil => exact mirrored
  | cons traffic rest induction =>
      exact induction (mirrored.mapInbounds fun row => by
        rw [countInbound_toInbound])

theorem traffics_countInbounds {traffics : List InboundTraffic} :
    (traffics.foldl Database.countInbound database).traffics =
      database.traffics := by
  induction traffics generalizing database with
  | nil => rfl
  | cons traffic rest induction => exact induction

theorem addBytes_fields (now : Int) (traffics : List ClientBytes)
    (row : ClientTraffic) :
    (addBytes now traffics row).email = row.email ∧
      (addBytes now traffics row).inboundId = row.inboundId ∧
      (addBytes now traffics row).total = row.total ∧
      (addBytes now traffics row).expiryTime = row.expiryTime ∧
      (addBytes now traffics row).reset = row.reset := by
  unfold addBytes
  split <;> exact ⟨rfl, rfl, rfl, rfl, rfl⟩

/-- Rows that keep their e-mails are saved over the stored ones. -/
theorem mem_foldl_save_map {traffics : Table ClientTraffic.email}
    {rows : List ClientTraffic} {change : ClientTraffic → ClientTraffic}
    (distinct : (rows.map ClientTraffic.email).Nodup)
    (keeps : ∀ row, (change row).email = row.email) {stat : ClientTraffic} :
    stat ∈ (rows.map change).foldl Table.save traffics ↔
      ∃ old ∈ rows.foldl Table.save traffics,
        (if old.email ∈ rows.map ClientTraffic.email then change old else old) =
          stat := by
  have same : (rows.map change).map ClientTraffic.email =
      rows.map ClientTraffic.email := by
    rw [List.map_map]
    exact List.map_congr_left fun row _ => keeps row
  rw [Table.mem_foldl_save (same ▸ distinct), same]
  simp only [Table.mem_foldl_save distinct]
  constructor
  · rintro (changed | ⟨old, absent⟩)
    · obtain ⟨row, member, rfl⟩ := List.mem_map.mp changed
      exact ⟨row, .inl member, if_pos (List.mem_map_of_mem member)⟩
    · exact ⟨stat, .inr ⟨old, absent⟩, if_neg absent⟩
  · rintro ⟨old, member | ⟨inTable, absent⟩, rfl⟩
    · rw [if_pos (List.mem_map_of_mem member)]
      exact .inl (List.mem_map_of_mem member)
    · rw [if_neg absent]
      exact .inr ⟨inTable, absent⟩

theorem Mirrored.charge (mirrored : Mirrored (Matches enforced) counted)
    {inbounds : List StoredInbound} {rows : List ClientTraffic}
    (fits : PassFits enforced now counted.traffics.rows)
    (ran : adjustTraffics now counted (counted.traffics.rows.filter fun row =>
      row.email ∈ batch.clients.map ClientBytes.email) =
        some (inbounds, rows)) :
    let charged := (counted.saveInbounds inbounds).saveStats
      (rows.map (addBytes now batch.clients))
    PassFits enforced now charged.traffics.rows ∧
      Mirrored (Matches enforced) charged := by
  intro charged
  have start : Mirrored (Matches enforced) ⟨counted.inbounds,
      (counted.traffics.rows.filter fun row =>
        row.email ∈ batch.clients.map ClientBytes.email).foldl Table.save
          counted.traffics, counted.ips⟩ := by
    rw [Table.foldl_save_eq_self fun row member => (List.mem_filter.mp member).1]
    exact mirrored
  obtain ⟨sameEmails, startedFits, adjusted⟩ := start.adjustInbounds Table.nodup_keys
    (fun needed => ⟨(fits needed).1, fun stat member =>
      (fits needed).2 stat (List.mem_filter.mp member).1⟩)
    (fun row member => (List.mem_filter.mp member).1) Table.nodup_keys ran
  have distinct : (rows.map ClientTraffic.email).Nodup :=
    sameEmails ▸ Table.nodup_keys
  have emails := fun row => (addBytes_fields now batch.clients row).1
  constructor
  · intro needed
    refine ⟨(fits needed).1, ?_⟩
    intro stat member
    obtain ⟨old, inOld, rfl⟩ := (mem_foldl_save_map distinct emails).mp member
    have oldFits : (old.expiryTime < 0 → Json.Int64 (now - old.expiryTime)) ∧
        (isRenewable now old = true → Json.Int64 (renewedExpiry now old)) := by
      rcases (Table.mem_foldl_save distinct).mp inOld with
        started | ⟨stored, -⟩
      · exact (startedFits needed).2 old started
      · exact (fits needed).2 old stored
    split
    · obtain ⟨-, -, -, expiry, reset⟩ := addBytes_fields now batch.clients old
      rw [isRenewable, renewedExpiry, expiry, reset]
      exact oldFits
    · exact oldFits
  · refine adjusted.mapStats (fun old =>
      if old.email ∈ rows.map ClientTraffic.email then
        addBytes now batch.clients old else old) ?_ ?_ ?_
        (fun stat => mem_foldl_save_map distinct emails)
    · intro stat
      split
      · exact emails stat
      · rfl
    · intro stat
      split
      · exact (addBytes_fields now batch.clients stat).2.1
      · rfl
    · intro client stat agreed needed
      split
      · obtain ⟨-, -, total, expiry, reset⟩ :=
          addBytes_fields now batch.clients stat
        rw [total, expiry, reset]
        exact agreed needed
      · exact agreed needed

/-- The renewed rows are among the loaded inbounds' own. -/
def renewStat (now : Int) (emails : List String) (stat : ClientTraffic) :
    ClientTraffic :=
  if isRenewable now stat = true ∧ stat.email ∈ emails then renewRow now stat
  else stat

theorem renewItem_limits {rows : List ClientTraffic} {item later : Json}
    {stat : ClientTraffic} {emails : List String}
    (renewed : renewItem now rows item = some later)
    (listed : itemEmail item ∈ emails)
    (known : ∀ other ∈ rows, other.email = stat.email → other = stat)
    (all : isRenewable now stat = true ↔ stat ∈ rows)
    (fits : enforced → isRenewable now stat = true →
      Json.Int64 (renewedExpiry now stat))
    (named : stat.email = (limitsOf item).email)
    (agreed : Matches enforced (limitsOf item) stat) :
    Matches enforced (limitsOf later) (renewStat now emails stat) := by
  cases item with
  | obj client =>
      simp only [renewItem] at renewed
      split at renewed
      next email text =>
        have clientNamed : stat.email = email := by
          rw [named, limitsOf_obj, text]
          rfl
        cases found : rows.find? (·.email = email) with
        | none =>
            rw [found] at renewed
            obtain rfl := Option.some.inj renewed
            have idle : ¬ isRenewable now stat = true := by
              intro renewable
              have missing := List.find?_eq_none.mp found stat
                (all.mp renewable)
              exact missing (by simpa using clientNamed)
            rw [renewStat, if_neg fun both => idle both.1]
            exact agreed
        | some row =>
            rw [found] at renewed
            obtain rfl := Option.some.inj renewed
            have rowNamed : row.email = email := by
              simpa using List.find?_some found
            obtain rfl := known row (List.mem_of_find?_eq_some found)
              (rowNamed.trans clientNamed.symm)
            have renewable := all.mpr (List.mem_of_find?_eq_some found)
            rw [renewStat, if_pos ⟨renewable, named ▸ itemEmail_eq _ ▸ listed⟩]
            intro needed
            obtain ⟨total, -, reset⟩ := agreed needed
            rw [limitsOf_setExpiry]
            exact ⟨total, (number_int (fits needed renewable)).symm, reset⟩
      next => cases renewed
  | _ => cases renewed

theorem renewItem_email {rows : List ClientTraffic} {item later : Json}
    (renewed : renewItem now rows item = some later) :
    (limitsOf later).email = (limitsOf item).email := by
  cases item with
  | obj client =>
      simp only [renewItem] at renewed
      split at renewed
      · split at renewed
        · rw [← Option.some.inj renewed]
        · rw [← Option.some.inj renewed, limitsOf_setExpiry]
      · cases renewed
  | _ => cases renewed

theorem renewInbound_eq_some {rows : List ClientTraffic}
    {row later : StoredInbound}
    (renewed : renewInbound now rows row = some later) :
    ∃ items, List.Forall₂ (fun item other => renewItem now rows item =
        some other) (clientItems row) items ∧
      later = withItems row (.arr items) := by
  unfold renewInbound at renewed
  split at renewed
  next items read =>
    obtain ⟨others, related, rfl⟩ := Option.map_eq_some_iff.mp renewed
    exact ⟨others, clientItems_of_array read ▸ forall₂_of_mapM related, rfl⟩
  next => cases renewed

theorem renewInbound_ids {rows : List ClientTraffic}
    {loaded saved : List StoredInbound}
    (related : List.Forall₂ (fun row later =>
      renewInbound now rows row = some later) loaded saved) :
    saved.map (·.id) = loaded.map (·.id) := by
  induction related with
  | nil => rfl
  | cons renewed _ induction =>
      obtain ⟨items, -, rfl⟩ := renewInbound_eq_some renewed
      rw [List.map_cons, List.map_cons, induction]
      rfl

theorem renewStat_email {emails : List String} {stat : ClientTraffic} :
    (renewStat now emails stat).email = stat.email := by
  unfold renewStat
  split <;> rfl

theorem renewStat_owner {emails : List String} {stat : ClientTraffic} :
    (renewStat now emails stat).inboundId = stat.inboundId := by
  unfold renewStat
  split <;> rfl

/-- The rows of the other inbounds are not renewed. -/
theorem Reworked.unloaded {row : StoredInbound} {emails : List String}
    (idle : ∀ stat ∈ charged.traffics, stat.inboundId = row.id →
      ¬ isRenewable now stat = true) :
    Reworked agrees charged (renewStat now emails) row row := by
  apply List.forall₂_same.mpr
  intro client _
  refine ⟨rfl, fun stat inTable _ owner agreed => ?_⟩
  rwa [renewStat, if_neg fun both => idle stat inTable owner both.1]

theorem inboundEmails_eq {row : StoredInbound} :
    inboundEmails row = (clientItems row).map itemEmail := by
  unfold inboundEmails clientItems
  cases JsonObject.get row.settings.fields "clients" <;> rfl

theorem mem_renewable {stat : ClientTraffic} :
    stat ∈ charged.traffics.rows.filter (isRenewable now) ↔
      stat ∈ charged.traffics ∧ isRenewable now stat = true :=
  List.mem_filter

theorem Reworked.loaded {row later : StoredInbound} {emails : List String}
    (ran : renewInbound now
      (charged.traffics.rows.filter (isRenewable now)) row = some later)
    (listed : ∀ item ∈ clientItems row, itemEmail item ∈ emails)
    (fits : PassFits enforced now charged.traffics.rows) :
    Reworked (Matches enforced) charged (renewStat now emails) row later := by
  obtain ⟨items, related, rfl⟩ := renewInbound_eq_some ran
  unfold Reworked
  rw [limits_clientItems, limits_withItems, List.forall₂_map_left_iff,
    List.forall₂_map_right_iff]
  refine ((List.forall₂_and_left _ _).mpr ⟨listed, related⟩).imp ?_
  rintro item other ⟨inEmails, renewedItem⟩
  refine ⟨renewItem_email renewedItem, ?_⟩
  intro stat inTable named _ agreed
  apply renewItem_limits renewedItem inEmails ?_ ?_ ?_ named agreed
  · intro twin member same
    exact Table.eq_of_key_eq (mem_renewable.mp member).1 inTable same
  · rw [mem_renewable]
    exact (and_iff_right inTable).symm
  · intro needed
    exact ((fits needed).2 stat inTable).2

theorem Mirrored.renew (mirrored : Mirrored (Matches enforced) charged)
    (fits : PassFits enforced now charged.traffics.rows)
    {rows : List ClientTraffic} {saved : List StoredInbound}
    (selected : rows = charged.traffics.rows.filter (isRenewable now))
    (related : List.Forall₂ (fun row later =>
      renewInbound now rows row = some later)
        (renewalInbounds rows charged) saved) :
    Mirrored (Matches enforced) ((charged.saveInbounds saved).saveStats
      (rows.map fun row =>
        if row.email ∈ (renewalInbounds rows charged).flatMap inboundEmails
        then renewRow now row else row)) := by
  have sameIds := renewInbound_ids related
  have ids : (saved.map (·.id)).Nodup := sameIds ▸ Table.nodup_keys
  have distinct : (rows.map ClientTraffic.email).Nodup :=
    selected ▸ Table.nodup_keys
  have inbound : ∀ later, later ∈ saved.foldl Table.save charged.inbounds ↔
      later ∈ saved ∨ later ∈ charged.inbounds ∧
        later.id ∉ saved.map (·.id) := fun later =>
    Table.mem_foldl_save ids
  apply mirrored.transform (renewStat now
    ((renewalInbounds rows charged).flatMap inboundEmails))
    (fun stat => renewStat_email) (fun stat => renewStat_owner)
  · intro stat
    refine (mem_foldl_save_map distinct fun row => ?_).trans ?_
    · split <;> rfl
    · rw [Table.foldl_save_eq_self fun row member =>
        (mem_renewable.mp (selected ▸ member)).1]
      refine exists_congr fun old => and_congr_right fun inTable => ?_
      have renewable : old.email ∈ rows.map ClientTraffic.email ↔
          isRenewable now old = true := by
        constructor
        · intro member
          obtain ⟨row, inRows, same⟩ := List.mem_map.mp member
          obtain ⟨rowIn, renews⟩ := mem_renewable.mp (selected ▸ inRows)
          rwa [← Table.eq_of_key_eq rowIn inTable same]
        · intro renews
          exact List.mem_map_of_mem
            (selected ▸ mem_renewable.mpr ⟨inTable, renews⟩)
      rw [renewStat, ite_and]
      simp only [renewable]
  · intro later member
    rcases (inbound later).mp member with new | ⟨old, absent⟩
    · obtain ⟨row, loaded, ran⟩ := mem_right_of_forall₂ related new
      obtain ⟨items, -, made⟩ := renewInbound_eq_some ran
      refine ⟨row, (List.mem_filter.mp loaded).1, by rw [made]; rfl, ?_⟩
      apply Reworked.loaded (selected ▸ ran) _ fits
      intro item inItems
      refine List.mem_flatMap.mpr ⟨row, loaded, ?_⟩
      rw [inboundEmails_eq]
      exact List.mem_map_of_mem inItems
    · refine ⟨later, old, rfl, Reworked.unloaded ?_⟩
      intro stat inTable owner renewable
      apply absent
      rw [sameIds]
      refine List.mem_map_of_mem (List.mem_filter.mpr ⟨old, ?_⟩)
      rw [decide_eq_true_eq, ← owner, selected]
      exact List.mem_map_of_mem (mem_renewable.mpr ⟨inTable, renewable⟩)
  · intro row stored
    by_cases replaced : row.id ∈ saved.map (·.id)
    · obtain ⟨later, new, same⟩ := List.mem_map.mp replaced
      exact ⟨later, (inbound later).mpr (.inl new), same⟩
    · exact ⟨row, (inbound row).mpr (.inr ⟨stored, replaced⟩), rfl⟩

theorem Mirrored.disable (mirrored : Mirrored (Matches enforced) renewed) :
    Mirrored (Matches enforced)
      ((renewed.disableInvalidClients now).disableInvalidInbounds now) := by
  have clients : Mirrored (Matches enforced)
      (renewed.disableInvalidClients now) := by
    refine mirrored.mapStats (disableDepleted now) (disableDepleted_email now)
      ?_ ?_ fun stat => Table.mem_mapRows
    · intro stat
      unfold disableDepleted
      split <;> rfl
    · intro client stat agreed needed
      unfold disableDepleted
      split <;> exact agreed needed
  refine clients.mapInbounds fun row => ?_
  unfold disableInbound
  split <;> rfl

theorem Mirrored.addTraffic {host : PanelHost}
    (mirrored : Mirrored (Matches enforced) database)
    (fits : PassFits enforced host.now database.traffics.rows)
    (succeeded : perform (.addTraffic batch) host Call.noFaults database =
      (none, after)) : Mirrored (Matches enforced) after := by
  obtain ⟨counted, charged, renewed, pass⟩ :=
    trafficPass_of_addTraffic succeeded
  have first := @Mirrored.countInbounds _ _ mirrored
    (batch.inbounds.filter InboundTraffic.isInbound)
  obtain ⟨inbounds, rows, adjusted, rfl⟩ := pass.charges
  rw [← pass.counts] at first
  have countedFits : PassFits enforced host.now counted.traffics.rows := by
    rw [pass.counts, traffics_countInbounds]
    exact fits
  obtain ⟨chargedFits, second⟩ := first.charge countedFits adjusted
  rw [pass.disables]
  apply Mirrored.disable
  obtain ⟨renewable, saved, selected, related, rfl⟩ := pass.renews
  split
  · exact second
  · exact second.renew chargedFits selected related

end Stages

end VpnUi.Store
