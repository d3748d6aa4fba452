import VpnUi.Store.BulkSpec
import VpnUi.Store.Requests

namespace VpnUi.Store

open Foundation Panel

/-! What the statements of a successful request have made of the tables. -/

variable {initial database after : Database} {number : Nat}

theorem run_saveInbound {policy : OnError} {row : StoredInbound}
    (heeded : policy ≠ .ignored)
    (ran : Call.run initial Call.noFaults number
      [write policy (Database.saveInbound · row)] database = (none, after)) :
    after = { database with inbounds := database.inbounds.save row } :=
  Database.saveInbound_eq_some ((Call.run_singleton_eq_none heeded).mp ran)

/-- A transaction that ends in a save: the panic before it did not happen. -/
theorem run_guarded_save {stats : List Statement} {panics : Prop}
    [Decidable panics] {error : RequestError} {row : StoredInbound}
    (ran : Call.run initial Call.noFaults number
      (stats ++ (if panics then [fail .kept error] else []) ++
        [write .kept (Database.saveInbound · row)]) database = (none, after)) :
    ¬ panics ∧ ∃ reached,
      Call.run initial Call.noFaults number stats database = (none, reached) ∧
        reached.saveInbound row = some after := by
  obtain ⟨middle, before, saved⟩ := Call.run_append_eq_none.mp ran
  obtain ⟨reached, counted, calm⟩ := Call.run_append_eq_none.mp before
  split at calm
  · cases calm
  next safe =>
    obtain rfl := (Prod.mk.inj calm).2
    exact ⟨safe, reached, counted,
      (Call.run_singleton_eq_none (by simp [write])).mp saved⟩

theorem run_delClientStats {policy : OnError} {emails : List String} :
    Call.run initial Call.noFaults number (emails.map fun email =>
        writeRows policy (Database.delClientStat · email)) database =
      (none, { database with
        traffics := emails.foldl Table.delete database.traffics }) := by
  induction emails generalizing number database with
  | nil => rfl
  | cons email rest induction => exact induction

theorem run_delClientIPs {policy : OnError} {emails : List String} :
    Call.run initial Call.noFaults number (emails.map fun email =>
        writeRows policy (Database.delClientIPs · email)) database =
      (none, { database with
        ips := emails.foldl Table.delete database.ips }) := by
  induction emails generalizing number database with
  | nil => rfl
  | cons email rest induction => exact induction

/-- Rows with new e-mails are all created. -/
theorem run_createStats {policy : OnError} {rows : List ClientTraffic}
    (distinct : (rows.map ClientTraffic.email).Nodup)
    (fresh : ∀ row ∈ rows, database.traffics.find? row.email = none) :
    Call.run initial Call.noFaults number (rows.map fun row =>
        write policy (Database.createStat · row)) database =
      (none, { database with
        traffics := rows.foldl Table.save database.traffics }) := by
  induction rows generalizing number database with
  | nil => rfl
  | cons row rest induction =>
      rw [List.map_cons, List.nodup_cons] at distinct
      have created : database.createStat row =
          some { database with traffics := database.traffics.save row } :=
        Database.createStat_eq_some.mpr ⟨fresh row List.mem_cons_self, rfl⟩
      simp only [List.map_cons, Call.run, Call.attempt_noFaults, write, created]
      apply induction distinct.2
      intro other member
      refine (Table.find?_save_ne ?_).trans
        (fresh other (List.mem_cons_of_mem row member))
      intro same
      exact distinct.1 (same ▸ List.mem_map_of_mem member)

/-- Where a failure is heeded, success shows that the e-mails were new. -/
theorem fresh_of_run_createStats {policy : OnError}
    {rows : List ClientTraffic} (heeded : policy ≠ .ignored)
    (ran : Call.run initial Call.noFaults number (rows.map fun row =>
      write policy (Database.createStat · row)) database = (none, after)) :
    (rows.map ClientTraffic.email).Nodup ∧
      ∀ row ∈ rows, database.traffics.find? row.email = none := by
  induction rows generalizing number database with
  | nil => simp
  | cons row rest induction =>
      rw [List.map_cons, ← List.singleton_append,
        Call.run_append_eq_none] at ran
      obtain ⟨middle, first, later⟩ := ran
      obtain ⟨new, rfl⟩ := Database.createStat_eq_some.mp
        ((Call.run_singleton_eq_none heeded).mp first)
      obtain ⟨distinct, fresh⟩ := induction later
      have others : ∀ other ∈ rest, other.email ≠ row.email := by
        intro other member same
        have missing := fresh other member
        rw [same, Table.find?_save_self] at missing
        cases missing
      constructor
      · rw [List.map_cons, List.nodup_cons]
        refine ⟨?_, distinct⟩
        intro again
        obtain ⟨other, member, same⟩ := List.mem_map.mp again
        exact others other member same
      · intro other member
        rcases List.mem_cons.mp member with rfl | member
        · exact new
        · have missing := fresh other member
          rwa [Table.find?_save_ne (others other member)] at missing

end VpnUi.Store
