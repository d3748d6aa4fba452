import VpnUi.Store.BulkSpec
import VpnUi.Store.Requests

namespace VpnUi.Store

open Foundation Panel

/-! What a request that returns an error has done to the tables. -/

/-- A panic is no returned error. -/
def RequestError.Returned : RequestError → Prop
  | panel .panicked => False
  | _ => True

section Idle

variable {database : Database} {onError : OnError}

theorem writeRows_idle {effect : Database → Database} :
    (writeRows onError effect).Idle false database ↔
      effect database = database := by
  constructor
  · exact fun idle => idle (effect database) rfl
  · intro same next attempted
    exact (Option.some.inj attempted).symm.trans same

theorem traffics_eq_self {traffics : Table ClientTraffic.email} :
    { database with traffics := traffics } = database ↔
      traffics = database.traffics :=
  ⟨congrArg Database.traffics, fun same => by rw [same]⟩

theorem ips_eq_self {ips : Table ClientIps.clientEmail} :
    { database with ips := ips } = database ↔ ips = database.ips :=
  ⟨congrArg Database.ips, fun same => by rw [same]⟩

theorem delClientStat_idle {email : String} :
    (writeRows onError (Database.delClientStat · email)).Idle false database ↔
      database.traffics.find? email = none :=
  writeRows_idle.trans (traffics_eq_self.trans Table.delete_eq_self)

theorem delClientIPs_idle {email : String} :
    (writeRows onError (Database.delClientIPs · email)).Idle false database ↔
      database.ips.find? email = none :=
  writeRows_idle.trans (ips_eq_self.trans Table.delete_eq_self)

theorem deleteStatsOf_idle {inboundId : Int} :
    (writeRows onError (Database.deleteStatsOf · inboundId)).Idle false
      database ↔ ∀ row ∈ database.traffics, row.inboundId ≠ inboundId := by
  rw [writeRows_idle, Database.deleteStatsOf, traffics_eq_self,
    Table.filter_eq_self]
  simp

theorem createStat_idle {row : ClientTraffic} :
    (write onError (Database.createStat · row)).Idle false database ↔
      (database.traffics.find? row.email).isSome = true := by
  constructor
  · intro idle
    by_contra missing
    have saved := idle { database with
      traffics := database.traffics.save row } (by
        simp [Call.attempt, write, Database.createStat, missing])
    rw [← saved] at missing
    simp [Table.find?_save_self] at missing
  · intro present next attempted
    simp [Call.attempt, write, Database.createStat, present] at attempted

theorem forall_unless {fails : Prop} [Decidable fails] {found : Database} :
    (∀ next, (if fails then none else some found) = some next →
      next = database) ↔ fails ∨ found = database := by
  by_cases failing : fails <;> simp [failing]

/-- Where the row moves to a taken e-mail the update fails. -/
theorem updateStat_idle {email : String}
    {update : ClientTraffic → ClientTraffic} :
    (write onError (Database.updateStat · email update)).Idle false database ↔
      ∀ row, database.traffics.find? email = some row →
        ((update row).email ≠ email ∧
          (database.traffics.find? (update row).email).isSome = true) ∨
        (database.traffics.delete email).save (update row) =
          database.traffics := by
  simp only [Call.Idle, Call.attempt, write, Bool.false_and,
    Bool.false_eq_true, if_false, Database.updateStat]
  cases found : database.traffics.find? email with
  | none => simp
  | some row =>
      simp only [forall_unless, traffics_eq_self, Option.some.injEq, forall_eq']

theorem updateClientIPs_idle {oldEmail newEmail : String} :
    (write onError (Database.updateClientIPs · oldEmail newEmail)).Idle false
      database ↔
      ∀ row, database.ips.find? oldEmail = some row →
        (newEmail ≠ oldEmail ∧
          (database.ips.find? newEmail).isSome = true) ∨
        (database.ips.delete oldEmail).save
          { row with clientEmail := newEmail } = database.ips := by
  simp only [Call.Idle, Call.attempt, write, Bool.false_and,
    Bool.false_eq_true, if_false, Database.updateClientIPs]
  cases found : database.ips.find? oldEmail with
  | none => simp
  | some row =>
      simp only [forall_unless, ips_eq_self, Option.some.injEq, forall_eq']

end Idle

section Done

variable {onError : OnError}

theorem delClientStat_done {email : String} :
    (writeRows onError (Database.delClientStat · email)).Done := by
  intro before after ran
  obtain rfl := Option.some.inj ran
  exact delClientStat_idle.mpr Table.find?_delete_self

theorem delClientIPs_done {email : String} :
    (writeRows onError (Database.delClientIPs · email)).Done := by
  intro before after ran
  obtain rfl := Option.some.inj ran
  exact delClientIPs_idle.mpr Table.find?_delete_self

theorem deleteStatsOf_done {inboundId : Int} :
    (writeRows onError (Database.deleteStatsOf · inboundId)).Done := by
  intro before after ran
  obtain rfl := Option.some.inj ran
  exact deleteStatsOf_idle.mpr fun row member => by
    simpa using (Table.mem_filter.mp member).2

theorem createStat_done {row : ClientTraffic} :
    (write onError (Database.createStat · row)).Done := by
  intro before after ran
  obtain ⟨-, rfl⟩ := Database.createStat_eq_some.mp ran
  exact createStat_idle.mpr (by simp [Table.find?_save_self])

theorem updateStat_done {email : String}
    {update : ClientTraffic → ClientTraffic}
    (idempotent : ∀ row, update (update row) = update row) :
    (write onError (Database.updateStat · email update)).Done := by
  intro before after ran
  rw [updateStat_idle]
  intro row found
  simp only [write, Database.updateStat] at ran
  cases stored : before.traffics.find? email with
  | none =>
      rw [stored] at ran
      obtain rfl := Option.some.inj ran
      rw [stored] at found
      cases found
  | some old =>
      rw [stored] at ran
      simp only [Option.ite_none_left_eq_some] at ran
      obtain rfl := Option.some.inj ran.2
      right
      obtain ⟨member, named⟩ := Table.find?_eq_some.mp found
      rcases Table.mem_save.mp member with rfl | ⟨kept, -⟩
      · rw [idempotent]
        have same := Table.save_delete_eq_self member
        rwa [named] at same
      · exact absurd named (Table.mem_delete.mp kept).2

theorem updateClientIPs_done {oldEmail newEmail : String} :
    (write onError (Database.updateClientIPs · oldEmail newEmail)).Done := by
  intro before after ran
  rw [updateClientIPs_idle]
  intro row found
  simp only [write, Database.updateClientIPs] at ran
  cases stored : before.ips.find? oldEmail with
  | none =>
      rw [stored] at ran
      obtain rfl := Option.some.inj ran
      rw [stored] at found
      cases found
  | some old =>
      rw [stored] at ran
      simp only [Option.ite_none_left_eq_some] at ran
      obtain rfl := Option.some.inj ran.2
      right
      obtain ⟨member, named⟩ := Table.find?_eq_some.mp found
      rcases Table.mem_save.mp member with rfl | ⟨kept, -⟩
      · have same := Table.save_delete_eq_self member
        simp only at named same
        rwa [named] at same ⊢
      · exact absurd named (Table.mem_delete.mp kept).2

theorem fail_done {error : RequestError} : (fail onError error).Done :=
  fun _ _ ran => by cases ran

theorem require_eq_some {error : RequestError} {holds : Database → Bool}
    {before after : Database}
    (ran : (require error holds).effect before = some after) :
    after = before := by
  simp only [require, Option.ite_none_right_eq_some] at ran
  exact (Option.some.inj ran.2).symm

theorem require_done {error : RequestError} {holds : Database → Bool} :
    (require error holds).Done := by
  intro before after _ next attempted
  exact require_eq_some attempted

theorem saveInbound_done {row : StoredInbound} :
    (write onError (Database.saveInbound · row)).Done := by
  intro before after ran next again
  obtain rfl := Database.saveInbound_eq_some ran
  obtain rfl := Database.saveInbound_eq_some again
  rw [Table.save_eq_self (Table.mem_save.mpr (.inl rfl))]

theorem deleteInbound_done {id : Int} :
    (writeRows onError (Database.deleteInbound · id)).Done := by
  intro before after ran
  obtain rfl := Option.some.inj ran
  refine writeRows_idle.mpr (congrArg (Database.mk · _ _) ?_)
  exact Table.delete_eq_self.mpr Table.find?_delete_self

end Done

/-! A statement on the statistics or on the addresses of an account has nothing
to change again as long as the later ones keep out of its rows. -/

section Lasts

variable {onError : OnError} {later : Statement}

theorem delClientStat_lasts {email : String}
    (keeps : ∀ before after, later.effect before = some after →
      before.traffics.find? email = none →
        after.traffics.find? email = none) :
    (writeRows onError (Database.delClientStat · email)).Lasts later := by
  intro before after idle ran
  rw [delClientStat_idle] at idle ⊢
  exact keeps before after ran idle

theorem delClientIPs_lasts {email : String}
    (keeps : ∀ before after, later.effect before = some after →
      before.ips.find? email = none → after.ips.find? email = none) :
    (writeRows onError (Database.delClientIPs · email)).Lasts later := by
  intro before after idle ran
  rw [delClientIPs_idle] at idle ⊢
  exact keeps before after ran idle

theorem createStat_lasts {row : ClientTraffic}
    (keeps : ∀ before after, later.effect before = some after →
      (before.traffics.find? row.email).isSome = true →
        (after.traffics.find? row.email).isSome = true) :
    (write onError (Database.createStat · row)).Lasts later := by
  intro before after idle ran
  rw [createStat_idle] at idle ⊢
  exact keeps before after ran idle

theorem updateStat_lasts {email : String}
    {update : ClientTraffic → ClientTraffic}
    (keeps : ∀ before after, later.effect before = some after →
      after.traffics = before.traffics) :
    (write onError (Database.updateStat · email update)).Lasts later := by
  intro before after idle ran
  rw [updateStat_idle] at idle ⊢
  rwa [keeps before after ran]

theorem updateClientIPs_lasts {oldEmail newEmail : String}
    (keeps : ∀ before after, later.effect before = some after →
      after.ips = before.ips) :
    (write onError (Database.updateClientIPs · oldEmail newEmail)).Lasts
      later := by
  intro before after idle ran
  rw [updateClientIPs_idle] at idle ⊢
  rwa [keeps before after ran]

theorem fail_lasts {error : RequestError} : (fail onError error).Lasts later :=
  fun _ _ _ _ _ attempted => by cases attempted

theorem lasts_fail {first : Statement} {error : RequestError} :
    first.Lasts (fail onError error) :=
  fun _ _ _ ran => by cases ran

theorem require_lasts {error : RequestError} {holds : Database → Bool} :
    (require error holds).Lasts later :=
  fun _ _ _ _ _ attempted => require_eq_some attempted

/-- The last save of a request leaves the other tables alone. -/
theorem delClientStat_lasts_save {email : String} {policy : OnError}
    {row : StoredInbound} :
    (writeRows onError (Database.delClientStat · email)).Lasts
      (write policy (Database.saveInbound · row)) := by
  apply delClientStat_lasts
  intro before after ran absent
  rw [Database.saveInbound_eq_some ran, absent]

theorem delClientIPs_lasts_save {email : String} {policy : OnError}
    {row : StoredInbound} :
    (writeRows onError (Database.delClientIPs · email)).Lasts
      (write policy (Database.saveInbound · row)) := by
  apply delClientIPs_lasts
  intro before after ran absent
  rw [Database.saveInbound_eq_some ran, absent]

theorem delClientIPs_lasts_delClientIPs {email other : String}
    {policy : OnError} :
    (writeRows onError (Database.delClientIPs · email)).Lasts
      (writeRows policy (Database.delClientIPs · other)) := by
  apply delClientIPs_lasts
  intro before after ran absent
  rw [← Option.some.inj ran]
  exact Table.find?_delete_eq_none absent

theorem createStat_lasts_save {created : ClientTraffic} {policy : OnError}
    {row : StoredInbound} :
    (write onError (Database.createStat · created)).Lasts
      (write policy (Database.saveInbound · row)) := by
  apply createStat_lasts
  intro before after ran present
  rw [Database.saveInbound_eq_some ran, present]

theorem createStat_lasts_create {first second : ClientTraffic}
    {policy : OnError} :
    (write onError (Database.createStat · first)).Lasts
      (write policy (Database.createStat · second)) := by
  apply createStat_lasts
  intro before after ran present
  rw [(Database.createStat_eq_some.mp ran).2]
  exact Table.find?_save_isSome present

end Lasts

/-! The calls of each request are settled. -/

section Settled

theorem updateClientTraffics_settled (inboundId : Int)
    (oldClients newClients : List Client) :
    Call.Settled (updateClientTraffics inboundId oldClients newClients) := by
  unfold updateClientTraffics
  refine Call.settled_append.mpr ⟨?_, ?_, ?_⟩
  · apply Call.settled_of_forall
    · simp only [List.forall_mem_map]
      exact fun client _ => delClientStat_done
    · simp only [List.forall_mem_map]
      intro client _ other _
      apply delClientStat_lasts
      intro before after ran absent
      obtain rfl := Option.some.inj ran
      exact Table.find?_delete_eq_none absent
  · apply Call.settled_of_forall
    · simp only [List.forall_mem_map]
      exact fun client _ => createStat_done
    · simp only [List.forall_mem_map]
      exact fun client _ other _ => createStat_lasts_create
  · simp only [List.forall_mem_map, List.mem_filter, decide_eq_true_eq]
    rintro gone ⟨-, dropped⟩ added ⟨member, -⟩
    apply delClientStat_lasts
    intro before after ran absent
    rw [(Database.createStat_eq_some.mp ran).2]
    refine (Table.find?_save_ne ?_).trans absent
    rintro same
    exact dropped (List.mem_map.mpr ⟨added, member, same.symm⟩)

theorem updateInbound_settled (form : StoredInbound) (host : PanelHost)
    (database : Database) :
    Call.Settled (updateInbound form host database) := by
  unfold updateInbound checked
  split
  · exact Call.settled_cons.mpr ⟨fail_done, by simp, Call.settled_nil⟩
  · refine Call.settled_append.mpr
      ⟨updateClientTraffics_settled _ _ _, ?_, ?_⟩
    · exact Call.settled_cons.mpr ⟨saveInbound_done, by simp, Call.settled_nil⟩
    · simp only [updateClientTraffics, List.mem_singleton, forall_eq,
        List.forall_mem_append, List.forall_mem_map]
      exact ⟨fun _ _ => delClientStat_lasts_save,
        fun _ _ => createStat_lasts_save⟩

theorem delInbound_settled (id : Int) (database : Database) :
    Call.Settled (delInbound id database) := by
  have first : ∀ later : Statement, (∀ before after,
      later.effect before = some after → after.traffics = before.traffics) →
      (writeRows .kept (Database.deleteStatsOf · id)).Lasts later := by
    intro later keeps before after idle ran
    rw [deleteStatsOf_idle] at idle ⊢
    rwa [keeps before after ran]
  have failing : ∀ error : RequestError, Call.Settled
      [writeRows .kept (Database.deleteStatsOf · id), fail .kept error] := by
    intro error
    simp [Call.settled_cons, Call.settled_nil, deleteStatsOf_done, fail_done,
      lasts_fail]
  unfold delInbound
  split
  · exact failing _
  · split
    · exact failing _
    next clients _ =>
      rw [List.cons_append]
      refine Call.settled_cons.mpr ⟨deleteStatsOf_done, ?_, ?_⟩
      · simp only [List.forall_mem_append, List.forall_mem_map,
          List.mem_singleton, forall_eq]
        constructor
        · intro client _
          apply first
          exact fun before after ran => Option.some.inj ran ▸ rfl
        · apply first
          exact fun before after ran => Option.some.inj ran ▸ rfl
      · refine Call.settled_append.mpr ⟨?_, ?_, ?_⟩
        · apply Call.settled_of_forall
          · simp only [List.forall_mem_map]
            exact fun _ _ => delClientIPs_done
          · simp only [List.forall_mem_map]
            exact fun _ _ _ _ => delClientIPs_lasts_delClientIPs
        · exact Call.settled_cons.mpr
            ⟨deleteInbound_done, by simp, Call.settled_nil⟩
        · simp only [List.forall_mem_map, List.mem_singleton, forall_eq]
          intro client _
          apply delClientIPs_lasts
          intro before after ran absent
          rw [← Option.some.inj ran]
          exact absent

theorem settled_fail {policy : OnError} {error : RequestError} :
    Call.Settled [fail policy error] :=
  Call.settled_cons.mpr ⟨fail_done, by simp, Call.settled_nil⟩

theorem settled_save {row : StoredInbound} :
    Call.Settled [write .kept (Database.saveInbound · row)] :=
  Call.settled_cons.mpr ⟨saveInbound_done, by simp, Call.settled_nil⟩

theorem addInboundClient_settled (data : Inbound) (host : PanelHost)
    (database : Database) :
    Call.Settled (addInboundClient data host database) := by
  unfold addInboundClient checked
  split
  · exact settled_fail
  next pair _ =>
    obtain ⟨old, added⟩ := pair
    dsimp only
    generalize lacksCipher old old.settings.fields = lacks
    have cases : ∀ call ∈ added.clients.flatMap (addedClientStat data.id lacks),
        (∃ row, call = write .ignored (Database.createStat · row)) ∨
          call = fail .kept (.panel .panicked) := by
      intro call member
      obtain ⟨client, -, member⟩ := List.mem_flatMap.mp member
      unfold addedClientStat at member
      split at member
      · simp at member
      · rcases List.mem_cons.mp member with rfl | member
        · exact .inl ⟨_, rfl⟩
        · split at member
          · exact .inr (List.mem_singleton.mp member)
          · simp at member
    refine Call.settled_append.mpr ⟨Call.settled_of_forall ?_ ?_,
      settled_save, ?_⟩
    · intro call member
      rcases cases call member with ⟨row, rfl⟩ | rfl
      · exact createStat_done
      · exact fail_done
    · intro first member later laterMember
      rcases cases first member with ⟨row, rfl⟩ | rfl
      · rcases cases later laterMember with ⟨other, rfl⟩ | rfl
        · exact createStat_lasts_create
        · exact lasts_fail
      · exact fail_lasts
    · simp only [List.mem_singleton, forall_eq]
      intro call member
      rcases cases call member with ⟨row, rfl⟩ | rfl
      · exact createStat_lasts_save
      · exact fail_lasts

theorem replacedStats_settled (inboundId : Int) (replacement : Replacement) :
    Call.Settled (replacedStats inboundId replacement) := by
  simp only [replacedStats]
  split
  · split
    · refine Call.settled_cons.mpr ⟨updateStat_done fun row => rfl, ?_, ?_⟩
      · simp only [List.mem_singleton, forall_eq]
        exact updateStat_lasts fun _ _ ran => (updateClientIPs_others ran).2
      · exact Call.settled_cons.mpr
          ⟨updateClientIPs_done, by simp, Call.settled_nil⟩
    · exact Call.settled_cons.mpr ⟨createStat_done, by simp, Call.settled_nil⟩
  · refine Call.settled_cons.mpr ⟨delClientStat_done, ?_, ?_⟩
    · simp only [List.mem_singleton, forall_eq]
      apply delClientStat_lasts
      intro before after ran absent
      rw [← Option.some.inj ran]
      exact absent
    · exact Call.settled_cons.mpr
        ⟨delClientIPs_done, by simp, Call.settled_nil⟩

theorem replacedStats_lasts_save {inboundId : Int} {replacement : Replacement}
    {policy : OnError} {row : StoredInbound} (call : Statement)
    (member : call ∈ replacedStats inboundId replacement) :
    call.Lasts (write policy (Database.saveInbound · row)) := by
  simp only [replacedStats] at member
  split at member
  · split at member
    · simp only [List.mem_cons, List.not_mem_nil, or_false] at member
      rcases member with rfl | rfl
      · exact updateStat_lasts fun _ _ ran => by
          rw [Database.saveInbound_eq_some ran]
      · exact updateClientIPs_lasts fun _ _ ran => by
          rw [Database.saveInbound_eq_some ran]
    · obtain rfl := List.mem_singleton.mp member
      exact createStat_lasts_save
  · simp only [List.mem_cons, List.not_mem_nil, or_false] at member
    rcases member with rfl | rfl
    · exact delClientStat_lasts_save
    · exact delClientIPs_lasts_save

theorem updateInboundClient_settled (data : Inbound) (clientId : String)
    (host : PanelHost) (database : Database) :
    Call.Settled (updateInboundClient data clientId host database) := by
  unfold updateInboundClient checked
  split
  · exact settled_fail
  next replacement _ =>
    dsimp only
    rw [List.append_assoc]
    refine Call.settled_append.mpr ⟨replacedStats_settled _ _, ?_, ?_⟩
    · refine Call.settled_append.mpr ⟨?_, settled_save, ?_⟩
      · split
        · exact settled_fail
        · exact Call.settled_nil
      · intro call member
        split at member
        · obtain rfl := List.mem_singleton.mp member
          exact fun later _ => fail_lasts
        · cases member
    · intro call member later laterMember
      rcases List.mem_append.mp laterMember with laterMember | laterMember
      · split at laterMember
        · obtain rfl := List.mem_singleton.mp laterMember
          exact lasts_fail
        · cases laterMember
      · obtain rfl := List.mem_singleton.mp laterMember
        exact replacedStats_lasts_save call member

/-- The addresses of a client are deleted before its statistics. -/
theorem removal_settled {email : String} {stats : List Statement}
    {row : StoredInbound}
    (settled : Call.Settled stats)
    (keeps : ∀ call ∈ stats, (∀ before after,
        call.effect before = some after → after.ips = before.ips) ∧
      call.Lasts (write .kept (Database.saveInbound · row))) :
    Call.Settled (writeRows .kept (Database.delClientIPs · email) ::
      stats ++ [write .kept (Database.saveInbound · row)]) := by
  rw [List.cons_append]
  refine Call.settled_cons.mpr ⟨delClientIPs_done, ?_, ?_⟩
  · simp only [List.forall_mem_append, List.mem_singleton, forall_eq]
    refine ⟨?_, delClientIPs_lasts_save⟩
    intro call member
    apply delClientIPs_lasts
    intro before after ran absent
    rwa [(keeps call member).1 before after ran]
  · refine Call.settled_append.mpr ⟨settled, settled_save, ?_⟩
    simp only [List.mem_singleton, forall_eq]
    exact fun call member => (keeps call member).2

theorem delClientStat_ips {onError : OnError} {email : String}
    {before after : Database}
    (ran : (writeRows onError (Database.delClientStat · email)).effect before =
      some after) : after.ips = before.ips := by
  rw [← Option.some.inj ran]
  rfl

theorem delInboundClient_settled (id : Int) (clientId : String)
    (database : Database) :
    Call.Settled (delInboundClient id clientId database) := by
  unfold delInboundClient checked
  split
  · exact settled_fail
  next removal _ =>
    apply removal_settled
    · split
      · exact Call.settled_nil
      · exact Call.settled_cons.mpr ⟨require_done,
          by simp only [List.mem_singleton, forall_eq]; exact require_lasts,
          Call.settled_cons.mpr
            ⟨delClientStat_done, by simp, Call.settled_nil⟩⟩
    · split
      · simp
      · simp only [List.forall_mem_cons]
        exact ⟨⟨fun before after ran => by rw [require_eq_some ran],
            require_lasts⟩,
          ⟨fun before after ran => delClientStat_ips ran,
            delClientStat_lasts_save⟩, by simp⟩

theorem delInboundClientByEmail_settled (id : Int) (email : String)
    (database : Database) :
    Call.Settled (delInboundClientByEmail id email database) := by
  unfold delInboundClientByEmail
  split
  · exact settled_fail
  next removal _ =>
    apply removal_settled
    · split
      · exact Call.settled_nil
      · split
        · exact settled_fail
        · exact Call.settled_cons.mpr
            ⟨delClientStat_done, by simp, Call.settled_nil⟩
    · split
      · simp
      · split
        · simp only [List.mem_singleton, forall_eq]
          exact ⟨fun _ _ ran => by (cases ran), fail_lasts⟩
        · simp only [List.mem_singleton, forall_eq]
          exact ⟨fun before after ran => delClientStat_ips ran,
            delClientStat_lasts_save⟩

end Settled

/-- A request whose error leaves the tables as they were. -/
def Unchanged (request : Request) (host : PanelHost) (faults : Nat → Bool)
    (database : Database) : Prop :=
  ∀ error after, perform request host faults database = (some error, after) →
    error.Returned → after = database

/-- No call fails, without a rollback, after one with something to change. -/
def FailsQuietly (request : Request) (host : PanelHost) (faults : Nat → Bool)
    (database : Database) : Prop :=
  Call.QuietFailures database faults RequestError.Returned
    (request.script host database)

/-- Once the checks are passed every failure of these calls is ignored or rolled
back. -/
theorem addInbound_rollsBack {form : StoredInbound}
    {clientStats : List ClientTraffic} {host : PanelHost} {database : Database} :
    (∃ error, addInbound form clientStats host database =
      [fail .kept (.panel error)]) ∨
    ∀ call ∈ addInbound form clientStats host database,
      call.onError ≠ .kept := by
  unfold addInbound checked
  split
  next error _ => exact .inl ⟨error, rfl⟩
  · right
    simp only [List.forall_mem_cons]
    refine ⟨by simp [write], ?_⟩
    split
    · simp [write]
    · simp

theorem bulkInbound_rollsBack {request : BulkClientUpdateRequest} {now : Int}
    {database : Database} {inboundId : Int} {emails : List String} :
    ∀ call ∈ bulkInbound request now database inboundId emails,
      call.onError ≠ .kept := by
  have items : ∀ rows, ∀ call ∈ (bulkClients request emails now rows).2,
      call.onError ≠ .kept := by
    intro rows call member
    unfold bulkClients at member
    split at member
    · obtain ⟨item, -, member⟩ := List.mem_flatMap.mp member
      simp only [List.mem_cons, List.not_mem_nil, or_false] at member
      rcases member with rfl | rfl <;> simp [writeRows, write]
    · obtain ⟨item, -, member⟩ := List.mem_flatMap.mp member
      unfold bulkItem at member
      cases item with
      | obj client =>
          simp only at member
          split at member
          · cases member
          · split at member
            · cases member
            · obtain rfl := List.mem_singleton.mp member
              simp [write]
      | _ => cases member
  unfold bulkInbound
  split
  · simp [fail]
  · split
    · simp [fail]
    · dsimp only
      split
      next rows _ =>
        split
        · simp
        · simp only [List.forall_mem_append, List.mem_singleton, forall_eq]
          exact ⟨items rows, by simp [write]⟩
      · simp

theorem bulkUpdateClients_rollsBack {request : BulkClientUpdateRequest}
    {now : Int} {database : Database} :
    ∀ call ∈ bulkUpdateClients request now database, call.onError ≠ .kept := by
  unfold bulkUpdateClients
  split
  · simp [fail]
  · intro call member
    obtain ⟨target, -, member⟩ := List.mem_flatMap.mp member
    exact bulkInbound_rollsBack call member

theorem failsQuietly_iff {request : Request} {host : PanelHost}
    {faults : Nat → Bool} {database : Database} :
    FailsQuietly request host faults database ↔
      Call.HarmlessFailures database faults RequestError.Returned 0
        (request.script host database) database := by
  have never := @Call.harmlessFailures_iff_of_forall Database RequestError
    database faults RequestError.Returned (request.script host database)
  have settled := @Call.harmlessFailures_iff Database RequestError database
    faults RequestError.Returned (request.script host database)
  refine Iff.symm ?_
  cases request with
  | addInbound form clientStats =>
      rcases @addInbound_rollsBack form clientStats host database with
        ⟨error, checks⟩ | rollsBack
      · apply settled
        rw [Request.script, checks]
        exact settled_fail
      · exact never rollsBack
  | updateInbound form => exact settled (updateInbound_settled _ _ _)
  | delInbound id => exact settled (delInbound_settled _ _)
  | addInboundClient data => exact settled (addInboundClient_settled _ _ _)
  | updateInboundClient data clientId =>
      exact settled (updateInboundClient_settled _ _ _ _)
  | delInboundClient id clientId =>
      exact settled (delInboundClient_settled _ _ _)
  | delInboundClientByEmail id email =>
      exact settled (delInboundClientByEmail_settled _ _ _)
  | bulkUpdateClients request => exact never bulkUpdateClients_rollsBack
  | addTraffic batch => exact never (by simp [Request.script])

/-- Only the counters of the inbounds make the traffic pass return an error, and
they are rolled back. -/
theorem addTraffic_unchanged {batch : TrafficBatch} {host : PanelHost}
    {faults : Nat → Bool} {database : Database} :
    Unchanged (.addTraffic batch) host faults database := by
  intro error after ran returned
  unfold perform addTraffic at ran
  dsimp only at ran
  split at ran
  next failed stopped counted =>
    obtain ⟨same, rfl⟩ := Prod.mk.inj ran
    have never : ∀ call ∈ addInboundTraffic batch.inbounds,
        call.onError ≠ .kept := by
      simp only [addInboundTraffic, List.forall_mem_map]
      exact fun traffic _ kept => nomatch kept
    have unchanged := Call.unchanged_iff.mpr
      (@Call.harmlessFailures_of_forall _ _ database faults (fun _ => True) _
        0 database never)
    exact unchanged failed stopped counted trivial
  · unfold trafficPasses at ran
    split at ran
    · obtain ⟨same, -⟩ := Prod.mk.inj ran
      obtain rfl := Option.some.inj same
      exact returned.elim
    · dsimp only at ran
      split at ran
      · obtain ⟨same, -⟩ := Prod.mk.inj ran
        obtain rfl := Option.some.inj same
        exact returned.elim
      · split at ran <;> cases ran

theorem failed_request_unchanged_iff (request : Request) (host : PanelHost)
    (faults : Nat → Bool) (database : Database) :
    Unchanged request host faults database ↔
      FailsQuietly request host faults database := by
  rw [failsQuietly_iff, ← Call.unchanged_iff]
  cases request with
  | addTraffic batch =>
      refine iff_of_true addTraffic_unchanged ?_
      intro error after ran
      cases ran
  | _ => exact Iff.rfl

/-- The last save of an added client fails and its statistics stay. -/
theorem added_stat_outlives_failed_save :
    (annDatabase 0).traffics.find? "bob" = none ∧
      ¬ Unchanged (.addInboundClient (formFor "bob")) noonHost (· = 1)
        (annDatabase 0) := by
  refine ⟨by decide +kernel, ?_⟩
  intro unchanged
  have same := unchanged (.panel .database) _ (Prod.ext rfl rfl) trivial
  have present := congrArg (fun database : Database =>
    (database.traffics.find? "bob").isSome) same
  revert present
  decide +kernel

end VpnUi.Store
