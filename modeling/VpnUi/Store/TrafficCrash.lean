import VpnUi.Store.Correspondence

namespace VpnUi.Store

open Foundation Panel

/-! Where the traffic pass panics: its assertions on the clients of the
settings, the process pointer, and the client of the core's API. -/

/-- The items of a clients entry that is an array. -/
def arrayItems (row : StoredInbound) : List Json :=
  match JsonObject.get row.settings.fields "clients" with
  | .arr items => items
  | _ => []

/-- An item has this e-mail. -/
def HasEmail (item : Json) (email : String) : Prop :=
  ∃ client, item = .obj client ∧ JsonObject.get client "email" = .str email

/-- A client with this e-mail does not end the wait of its row: its expiry is
still to come. -/
def LeavesWaiting (now : Int) (email : String) (item : Json) : Prop :=
  ∀ client, item = .obj client → JsonObject.get client "email" = .str email →
    ∀ old, number? (JsonObject.get client "expiryTime") = some old → now < old

/-- Each item is an object, and has a number for an expiry if the row of its
e-mail is still waiting when its turn comes. -/
def Adjustable (now : Int) (items : List Json) (waits : String → Prop) : Prop :=
  ∀ before item after, items = before ++ item :: after →
    ∃ client, item = .obj client ∧ ∀ email, waits email →
      JsonObject.get client "email" = .str email →
      (∀ earlier ∈ before, LeavesWaiting now email earlier) →
        (number? (JsonObject.get client "expiryTime")).isSome = true

/-- A row with this e-mail waits for its first use. -/
def Waits (rows : List ClientTraffic) (email : String) : Prop :=
  ∃ row ∈ rows, row.expiryTime < 0 ∧ row.email = email

section Adjust

variable {now : Int} {items rest : List Json} {rows : List ClientTraffic}
  {client : JsonObject}

theorem adjustable_cons {item : Json} {waits : String → Prop} :
    Adjustable now (item :: rest) waits ↔
      (∃ client, item = .obj client ∧ ∀ email, waits email →
        JsonObject.get client "email" = .str email →
          (number? (JsonObject.get client "expiryTime")).isSome = true) ∧
      Adjustable now rest fun email =>
        waits email ∧ LeavesWaiting now email item := by
  constructor
  · intro ready
    constructor
    · obtain ⟨client, same, numbered⟩ := ready [] item rest rfl
      refine ⟨client, same, fun email waiting named => ?_⟩
      exact numbered email waiting named fun _ member => nomatch member
    · intro before later after split
      obtain ⟨client, same, numbered⟩ :=
        ready (item :: before) later after (by rw [split, List.cons_append])
      refine ⟨client, same, fun email waiting named still => ?_⟩
      exact numbered email waiting.1 named
        (List.forall_mem_cons.mpr ⟨waiting.2, still⟩)
  · rintro ⟨head, tail⟩ before later after split
    cases before with
    | nil =>
        obtain ⟨rfl, -⟩ := List.cons.inj split
        obtain ⟨client, same, numbered⟩ := head
        exact ⟨client, same, fun email waiting named _ =>
          numbered email waiting named⟩
    | cons first others =>
        obtain ⟨rfl, others'⟩ := List.cons.inj split
        obtain ⟨client, same, numbered⟩ := tail others later after others'
        refine ⟨client, same, fun email waiting named still => ?_⟩
        obtain ⟨here, there⟩ := List.forall_mem_cons.mp still
        exact numbered email ⟨waiting, here⟩ named there

theorem startsFor_iff {row : ClientTraffic} :
    startsFor client row = true ↔
      row.expiryTime < 0 ∧
        JsonObject.get client "email" = .str row.email := by
  unfold startsFor emailOf
  cases JsonObject.get client "email" with
  | str text =>
      rw [Bool.and_eq_true, Bool.and_eq_true, Json.str.injEq]
      constructor
      · rintro ⟨⟨waiting, -⟩, named⟩
        exact ⟨of_decide_eq_true waiting, of_decide_eq_true named⟩
      · rintro ⟨waiting, named⟩
        exact ⟨⟨decide_eq_true waiting, rfl⟩, decide_eq_true named⟩
  | _ => simp

/-- A client whose row does not wait changes no row. -/
theorem adjustClient_of_none
    (none : ∀ email, Waits rows email →
      JsonObject.get client "email" ≠ .str email) :
    adjustClient now rows client = some (setStamp now client, rows) := by
  have missing : rows.find? (startsFor client) = .none := by
    rw [List.find?_eq_none]
    intro row member starts
    obtain ⟨waiting, named⟩ := startsFor_iff.mp starts
    exact none row.email ⟨row, member, waiting, rfl⟩ named
  rw [adjustClient, missing]

theorem adjustClient_of_waits {email : String} (waits : Waits rows email)
    (named : JsonObject.get client "email" = .str email) :
    adjustClient now rows client =
      (number? (JsonObject.get client "expiryTime")).map fun old =>
        (setStamp now (setExpiry client (now - old)),
          rows.map fun other =>
            if other.email = email then { other with expiryTime := now - old }
            else other) := by
  obtain ⟨row, member, waiting, sameEmail⟩ := waits
  cases found : rows.find? (startsFor client) with
  | none =>
      have missing := List.find?_eq_none.mp found row member
      exact absurd (startsFor_iff.mpr ⟨waiting, sameEmail ▸ named⟩) missing
  | some first =>
      obtain ⟨-, firstNamed⟩ := startsFor_iff.mp (List.find?_some found)
      obtain rfl : first.email = email :=
        Json.str.inj (firstNamed.symm.trans named)
      rw [adjustClient, found]

/-- The rows that wait after a clock was started. -/
theorem waits_started {email other : String} {old : Int}
    (waits : Waits rows email) :
    Waits (rows.map fun row =>
      if row.email = email then { row with expiryTime := now - old }
      else row) other ↔
      Waits rows other ∧ (other = email → now < old) := by
  constructor
  · rintro ⟨row, member, waiting, rfl⟩
    obtain ⟨before, stored, rfl⟩ := List.mem_map.mp member
    by_cases same : before.email = email
    · simp only [if_pos same] at waiting ⊢
      subst same
      exact ⟨waits, fun _ => by omega⟩
    · simp only [if_neg same] at waiting ⊢
      exact ⟨⟨before, stored, waiting, rfl⟩, fun is => absurd is same⟩
  · rintro ⟨⟨row, member, waiting, rfl⟩, later⟩
    refine ⟨_, List.mem_map_of_mem member, ?_, ?_⟩
    · split
      next same =>
        have bound := later same
        dsimp only
        omega
      next => exact waiting
    · split <;> rfl

/-- The loop over the clients panics exactly when one is not as it is
asserted. -/
theorem adjustItems_isSome :
    (adjustItems now items rows).isSome = true ↔
      Adjustable now items (Waits rows) := by
  induction items generalizing rows with
  | nil =>
      refine iff_of_true rfl fun before item after split => ?_
      exact absurd split.symm (by simp)
  | cons item rest induction =>
      rw [adjustable_cons]
      cases item with
      | obj client =>
          have wraps : ∀ (adjusted : JsonObject) later,
              adjustClient now rows client = some (adjusted, later) →
              ((adjustItems now (.obj client :: rest) rows).isSome = true ↔
                (adjustItems now rest later).isSome = true) := by
            intro adjusted later ran
            simp only [adjustItems, ran, bind, Option.bind_some]
            cases adjustItems now rest later <;> simp
          by_cases waiting : ∃ email, Waits rows email ∧
              JsonObject.get client "email" = .str email
          · obtain ⟨email, waits, named⟩ := waiting
            have ran := @adjustClient_of_waits now rows client email waits named
            cases read : number? (JsonObject.get client "expiryTime") with
            | none =>
                rw [read, Option.map_none] at ran
                refine iff_of_false ?_ ?_
                · simp [adjustItems, ran]
                · rintro ⟨⟨other, same, numbered⟩, -⟩
                  obtain rfl := Json.obj.inj same
                  have absent := numbered email waits named
                  rw [read] at absent
                  cases absent
            | some old =>
                rw [read, Option.map_some] at ran
                rw [wraps _ _ ran, induction]
                have same : Waits (rows.map fun row =>
                    if row.email = email then
                      { row with expiryTime := now - old } else row) =
                    fun other => Waits rows other ∧
                      LeavesWaiting now other (.obj client) := by
                  funext other
                  rw [waits_started waits]
                  apply propext
                  refine and_congr_right fun _ => ?_
                  constructor
                  · intro later _ is otherNamed number numbered
                    obtain rfl := Json.obj.inj is
                    obtain rfl := Option.some.inj (read.symm.trans numbered)
                    exact later (Json.str.inj (otherNamed.symm.trans named))
                  · rintro leaves rfl
                    exact leaves client rfl named old read
                rw [same]
                refine (and_iff_right ?_).symm
                exact ⟨client, rfl, fun _ _ _ => by rw [read]; rfl⟩
          · have none : ∀ email, Waits rows email →
                JsonObject.get client "email" ≠ .str email :=
              fun email waits named => waiting ⟨email, waits, named⟩
            rw [wraps _ _ (adjustClient_of_none none), induction]
            have same : Waits rows = fun other => Waits rows other ∧
                LeavesWaiting now other (.obj client) := by
              funext other
              apply propext
              refine (and_iff_left_of_imp fun waits => ?_).symm
              intro _ is named
              obtain rfl := Json.obj.inj is
              exact absurd named (none other waits)
            rw [← same]
            refine (and_iff_right ?_).symm
            exact ⟨client, rfl, fun email waits named =>
              absurd named (none email waits)⟩
      | _ =>
          refine iff_of_false (by simp [adjustItems]) ?_
          rintro ⟨⟨client, same, -⟩, -⟩
          cases same

theorem adjustItems_append {more : List Json} :
    adjustItems now (items ++ more) rows = (do
      let (first, between) ← adjustItems now items rows
      let (second, after) ← adjustItems now more between
      some (first ++ second, after)) := by
  induction items generalizing rows with
  | nil =>
      simp only [List.nil_append, adjustItems, bind, Option.bind_some]
      cases adjustItems now more rows <;> rfl
  | cons item rest induction =>
      cases item with
      | obj client =>
          simp only [List.cons_append, adjustItems, induction, bind,
            Option.bind_assoc, Option.bind_some]
      | _ => rfl

/-- The loop over the inbounds changes the rows as one loop over all their
clients does. -/
theorem adjustInbounds_rows {loaded : List StoredInbound} :
    (adjustInbounds now loaded rows).map Prod.snd =
      (adjustItems now (loaded.flatMap arrayItems) rows).map Prod.snd := by
  induction loaded generalizing rows with
  | nil => rfl
  | cons row loaded induction =>
      have head : (adjustInbound now row rows).map Prod.snd =
          (adjustItems now (arrayItems row) rows).map Prod.snd := by
        cases read : JsonObject.get row.settings.fields "clients" with
        | arr items =>
            simp only [adjustInbound, arrayItems, read, Option.map_map]
            rfl
        | _ =>
            simp only [adjustInbound, arrayItems, read]
            rfl
      simp only [adjustInbounds, List.flatMap_cons, adjustItems_append, bind]
      cases first : adjustInbound now row rows with
      | none =>
          rw [first, Option.map_none, eq_comm, Option.map_eq_none_iff] at head
          rw [head]
          rfl
      | some adjusted =>
          rw [first, Option.map_some, eq_comm, Option.map_eq_some_iff] at head
          obtain ⟨outcome, ran, same⟩ := head
          have tail := @induction adjusted.2
          rw [ran]
          simp only [Option.bind_some, same]
          cases later : adjustInbounds now loaded adjusted.2 with
          | none =>
              rw [later, Option.map_none, eq_comm, Option.map_eq_none_iff]
                at tail
              rw [tail]
              rfl
          | some others =>
              rw [later, Option.map_some, eq_comm, Option.map_eq_some_iff]
                at tail
              obtain ⟨whole, ran, same⟩ := tail
              rw [ran]
              simp only [Option.bind_some, Option.map_some, same]

end Adjust

/-- The rows of the batch. -/
def batchRows (batch : TrafficBatch) (database : Database) :
    List ClientTraffic :=
  database.traffics.rows.filter fun row =>
    row.email ∈ batch.clients.map ClientBytes.email

/-- The inbounds whose clients `adjustTraffics` goes through. -/
def waitingInbounds (rows : List ClientTraffic) (database : Database) :
    List StoredInbound :=
  database.inbounds.rows.filter fun row =>
    row.id ∈ (rows.filter (·.expiryTime < 0)).map ClientTraffic.inboundId

theorem addClientTraffic_isSome {now : Int} {batch : TrafficBatch}
    {database : Database} :
    (addClientTraffic now batch.clients database).isSome = true ↔
      Adjustable now
        ((waitingInbounds (batchRows batch database) database).flatMap
          arrayItems) (Waits (batchRows batch database)) := by
  have rows := @adjustInbounds_rows now (batchRows batch database)
    (waitingInbounds (batchRows batch database) database)
  have both := congrArg Option.isSome rows
  rw [Option.isSome_map, Option.isSome_map] at both
  rw [← adjustItems_isSome, ← both]
  unfold addClientTraffic
  rw [Option.isSome_map]
  rfl

/-- The inbound has an array of clients, each with an e-mail. -/
def Renewable (row : StoredInbound) : Prop :=
  ∃ items, JsonObject.get row.settings.fields "clients" = .arr items ∧
    ∀ item ∈ items, ∃ email, HasEmail item email

theorem mapM_isSome {Item Image : Type*} {convert : Item → Option Image}
    {items : List Item} :
    (items.mapM convert).isSome = true ↔
      ∀ item ∈ items, (convert item).isSome = true := by
  induction items with
  | nil => simp
  | cons head tail induction =>
      rw [List.forall_mem_cons, ← induction, List.mapM_cons]
      cases convert head <;> cases tail.mapM convert <;> simp [bind, pure]

theorem renewItem_isSome {now : Int} {rows : List ClientTraffic} {item : Json} :
    (renewItem now rows item).isSome = true ↔ ∃ email, HasEmail item email := by
  cases item with
  | obj client =>
      simp only [renewItem, HasEmail, Json.obj.injEq, exists_eq_left']
      cases JsonObject.get client "email" with
      | str email =>
          refine iff_of_true ?_ ⟨email, rfl⟩
          dsimp only
          split <;> rfl
      | _ => simp
  | _ => simp [renewItem, HasEmail]

theorem renewInbound_isSome {now : Int} {rows : List ClientTraffic}
    {row : StoredInbound} :
    (renewInbound now rows row).isSome = true ↔ Renewable row := by
  unfold Renewable
  cases read : JsonObject.get row.settings.fields "clients" with
  | arr items =>
      simp only [renewInbound, read, Option.isSome_map, mapM_isSome,
        renewItem_isSome, Json.arr.injEq, exists_eq_left']
  | _ => simp [renewInbound, read]

theorem autoRenewClients_isSome {now : Int} {database : Database} :
    (autoRenewClients now database).isSome = true ↔
      ∀ row ∈ database.inbounds, ∀ stat ∈ database.traffics,
        isRenewable now stat = true → stat.inboundId = row.id →
          Renewable row := by
  unfold autoRenewClients
  rw [Option.isSome_map, mapM_isSome]
  simp only [renewInbound_isSome, List.mem_filter, decide_eq_true_eq,
    List.mem_map, and_imp, forall_exists_index]
  constructor
  · intro ready row stored stat member renewable owner
    exact ready row stored stat member renewable owner
  · intro ready row stored stat member renewable owner
    exact ready row stored stat member renewable owner

end VpnUi.Store
