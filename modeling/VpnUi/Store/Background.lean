import VpnUi.Foundation.Transition
import VpnUi.Store.Correspondence

namespace VpnUi.Store

open Foundation Panel

/-! What goes on while a form is open in a browser: the traffic passes, the
resets and the operations on clients, each with the outcome it has. -/

/-- The resets of counters; id -1 stands for all inbounds. -/
inductive TrafficReset
  | allTraffics
  | inboundTraffic (id : Int)
  | allClientTraffics (id : Int)
  | clientTraffic (id : Int) (email : String)
  | clientTrafficByEmail (email : String)

def resetInbound (applies : StoredInbound → Bool) (row : StoredInbound) :
    StoredInbound :=
  if applies row then { row with up := 0, down := 0 } else row

theorem resetInbound_id (applies : StoredInbound → Bool) (row : StoredInbound) :
    (resetInbound applies row).id = row.id := by
  unfold resetInbound
  split <;> rfl

def resetStat (applies : ClientTraffic → Bool) (row : ClientTraffic) :
    ClientTraffic :=
  if applies row then { row with enable := true, up := 0, down := 0 } else row

theorem resetStat_email (applies : ClientTraffic → Bool) (row : ClientTraffic) :
    (resetStat applies row).email = row.email := by
  unfold resetStat
  split <;> rfl

namespace Database

def resetInbounds (database : Database) (applies : StoredInbound → Bool) :
    Database :=
  { database with
    inbounds := database.inbounds.mapRows (resetInbound applies)
      (resetInbound_id applies) }

def resetStats (database : Database) (applies : ClientTraffic → Bool) :
    Database :=
  { database with
    traffics := database.traffics.mapRows (resetStat applies)
      (resetStat_email applies) }

end Database

/-- A disabled client is put back into the core before its row is saved. -/
def restoresClient (database : Database) (id : Int) (email : String) : Bool :=
  match database.inbounds.find? id with
  | none => false
  | some row =>
      match getClients row.settings with
      | none => false
      | some clients =>
          !(lacksCipher row.toInbound row.settings.fields &&
            clients.any fun client => client.email = email && client.enable)

def resetClientTraffic (id : Int) (email : String) (database : Database) :
    Database :=
  match clientTrafficByEmail database email with
  | .error _ => database
  | .ok traffic =>
      if traffic.enable || restoresClient database id email then
        database.resetStats (·.email = email)
      else database

def TrafficReset.perform (database : Database) : TrafficReset → Database
  | allTraffics => database.resetInbounds fun _ => true
  | inboundTraffic id => database.resetInbounds (·.id = id)
  | allClientTraffics id => database.resetStats fun row =>
      if id = -1 then id < row.inboundId else row.inboundId = id
  | clientTraffic id email => resetClientTraffic id email database
  | clientTrafficByEmail email => database.resetStats (·.email = email)

inductive BackgroundCall
  | request (request : Request) (faults : Nat → Bool)
  | setByEmail (email : String) (setting : EmailSetting)
  | copyInboundClients (targetId sourceId : Int) (clientEmails : List String)
      (flow : String) (uuid : Nat → String)
  | delDepletedClients (id : Int)
  | resetTraffic (reset : TrafficReset)

/-- Requests that are on no whole inbound. -/
def Request.ofClients : Request → Bool
  | addInbound _ _ | updateInbound _ | delInbound _ => false
  | _ => true

/-- What a call leaves, whether it succeeds or not. -/
def BackgroundCall.leave (host : PanelHost) (database : Database) :
    BackgroundCall → Option Database
  | request given faults =>
      if given.ofClients then some (perform given host faults database).2
      else none
  | setByEmail email setting =>
      some (Store.setByEmail email setting host database).2
  | copyInboundClients targetId sourceId clientEmails flow uuid =>
      (Panel.copyInboundClients accountWriter (some database) targetId sourceId
        clientEmails flow uuid host).store
  | delDepletedClients id =>
      some (Store.delDepletedClients id host.now database).2
  | resetTraffic reset => some (reset.perform database)

def backgroundMachine : Machine Database (BackgroundCall × PanelHost) where
  step database call := call.1.leave call.2 database

/-! The columns of an inbound that only a form of the inbound changes. -/

structure SameColumns (row later : StoredInbound) : Prop where
  id : later.id = row.id
  listen : later.listen = row.listen
  port : later.port = row.port
  protocol : later.protocol = row.protocol
  tag : later.tag = row.tag
  total : later.total = row.total
  expiryTime : later.expiryTime = row.expiryTime

/-- Every row of the later table was there with the same columns. -/
def Keeps (database later : Database) : Prop :=
  ∀ row ∈ later.inbounds, ∃ old ∈ database.inbounds, SameColumns old row

variable {initial database after later : Database} {row old : StoredInbound}
  {host : PanelHost} {faults : Nat → Bool} {number : Nat}

theorem SameColumns.refl : SameColumns row row :=
  ⟨rfl, rfl, rfl, rfl, rfl, rfl, rfl⟩

theorem SameColumns.trans {third : StoredInbound}
    (first : SameColumns row old) (second : SameColumns old third) :
    SameColumns row third where
  id := second.id.trans first.id
  listen := second.listen.trans first.listen
  port := second.port.trans first.port
  protocol := second.protocol.trans first.protocol
  tag := second.tag.trans first.tag
  total := second.total.trans first.total
  expiryTime := second.expiryTime.trans first.expiryTime

theorem sameColumns_withItems {clients : Json} :
    SameColumns row (withItems row clients) :=
  ⟨rfl, rfl, rfl, rfl, rfl, rfl, rfl⟩

namespace Keeps

theorem refl : Keeps database database :=
  fun row member => ⟨row, member, .refl⟩

theorem trans (first : Keeps initial database) (second : Keeps database later) :
    Keeps initial later := by
  intro row member
  obtain ⟨middle, inTable, same⟩ := second row member
  obtain ⟨old, stored, before⟩ := first middle inTable
  exact ⟨old, stored, before.trans same⟩

theorem of_inbounds (same : after.inbounds = database.inbounds) :
    Keeps database after := by
  intro row member
  rw [same] at member
  exact ⟨row, member, .refl⟩

theorem save (keeps : Keeps initial database)
    (stored : old ∈ initial.inbounds) (same : SameColumns old row) :
    Keeps initial { database with inbounds := database.inbounds.save row } := by
  intro other member
  rcases Table.mem_save.mp member with rfl | ⟨inTable, -⟩
  · exact ⟨old, stored, same⟩
  · exact keeps other inTable

theorem saveInbounds {rows : List StoredInbound}
    (keeps : Keeps initial database)
    (same : ∀ row ∈ rows, ∃ old ∈ initial.inbounds, SameColumns old row) :
    Keeps initial (database.saveInbounds rows) := by
  induction rows generalizing database with
  | nil => exact keeps
  | cons row rest induction =>
      rw [List.forall_mem_cons] at same
      obtain ⟨⟨old, stored, first⟩, others⟩ := same
      exact induction (keeps.save stored first) others

theorem mapRows {change : StoredInbound → StoredInbound}
    {keepsId : ∀ row, (change row).id = row.id}
    (same : ∀ row, SameColumns row (change row)) :
    Keeps database { database with
      inbounds := database.inbounds.mapRows change keepsId } := by
  intro row member
  have mapped : row ∈ database.inbounds.mapRows change keepsId := member
  obtain ⟨old, stored, rfl⟩ := Table.mem_mapRows.mp mapped
  exact ⟨old, stored, same old⟩

theorem delete {id : Int} : Keeps database { database with
    inbounds := database.inbounds.delete id } :=
  fun row member => ⟨row, (Table.mem_delete.mp member).1, .refl⟩

end Keeps

section Statements

variable {policy : OnError} {statements : List Statement}

/-- A statement made from what was read keeps what was there before that. -/
def KeepsCall (read : Database) (call : Statement) : Prop :=
  ∀ initial, Keeps initial read → ∀ before next,
    call.effect before = some next → Keeps initial before → Keeps initial next

theorem keepsCall_write {effect : Database → Option Database}
    (same : ∀ before next, effect before = some next →
      next.inbounds = before.inbounds) :
    KeepsCall initial (write policy effect) :=
  fun _ _ before next done keeps =>
    keeps.trans (.of_inbounds (same before next done))

theorem keepsCall_writeRows {effect : Database → Database}
    (same : ∀ before, (effect before).inbounds = before.inbounds) :
    KeepsCall initial (writeRows policy effect) := by
  apply keepsCall_write
  intro before next done
  rw [← Option.some.inj done, same]

theorem keepsCall_fail {error : RequestError} :
    KeepsCall initial (fail policy error) := by
  intro _ _ before next done
  cases done

theorem keepsCall_require {error : RequestError} {holds : Database → Bool} :
    KeepsCall initial (require error holds) := by
  intro _ _ before next done keeps
  change (if holds before then some before else none) = some next at done
  split at done
  · exact Option.some.inj done ▸ keeps
  · cases done

theorem keepsCall_save (stored : old ∈ initial.inbounds)
    (same : SameColumns old row) :
    KeepsCall initial (write policy (Database.saveInbound · row)) := by
  intro earlier read before next done keeps
  obtain ⟨first, inTable, columns⟩ := read old stored
  rw [Database.saveInbound_eq_some done]
  exact keeps.save inTable (columns.trans same)

theorem keepsCall_createStat {stat : ClientTraffic} :
    KeepsCall initial (write policy (Database.createStat · stat)) := by
  apply keepsCall_write
  intro before next done
  rw [(Database.createStat_eq_some.mp done).2]

theorem keepsCall_updateStat {email : String}
    {update : ClientTraffic → ClientTraffic} :
    KeepsCall initial (write policy (Database.updateStat · email update)) := by
  apply keepsCall_write
  intro before next done
  unfold Database.updateStat at done
  split at done
  · rw [← Option.some.inj done]
  · dsimp only at done
    split at done
    · cases done
    · rw [← Option.some.inj done]

theorem keepsCall_updateClientIPs {email other : String} :
    KeepsCall initial
      (write policy (Database.updateClientIPs · email other)) := by
  apply keepsCall_write
  intro before next done
  unfold Database.updateClientIPs at done
  split at done
  · rw [← Option.some.inj done]
  · split at done
    · cases done
    · rw [← Option.some.inj done]

theorem keeps_run {read : Database} (reading : Keeps initial read)
    (keeps : Keeps initial database)
    (each : ∀ call ∈ statements, KeepsCall read call) :
    Keeps initial (Call.run initial faults number statements database).2 :=
  Call.run_invariant .refl keeps fun call member =>
    each call member initial reading

/-- The row that a request reads and saves with other clients. -/
theorem sameColumns_changedRow {id : Int} {inbound : Inbound}
    {items : List Json}
    (found : database.inbounds.view.find? id = some inbound) :
    ∃ old ∈ database.inbounds, SameColumns old
      (changedRow database (withClients inbound items)) := by
  obtain ⟨row, inTable, rfl⟩ := find?_view_eq_some found
  obtain ⟨stored, sameId⟩ := Table.find?_eq_some.mp inTable
  have changed : changedRow database (withClients row.toInbound items) =
      withInbound row (withClients row.toInbound items) := by
    rw [changedRow, show (withClients row.toInbound items).id = id from sameId,
      inTable]
  rw [changed]
  exact ⟨row, stored, rfl, rfl, rfl, rfl, rfl, rfl, rfl⟩

end Statements

section Requests

variable {data : Inbound} {id : Int} {clientId email : String}

theorem keepsCall_addedClientStat {lacks : Bool} {client : Client}
    {call : Statement} (member : call ∈ addedClientStat id lacks client) :
    KeepsCall initial call := by
  unfold addedClientStat at member
  split at member
  · cases member
  · rcases List.mem_cons.mp member with rfl | member
    · exact keepsCall_createStat
    · split at member
      · rw [List.mem_singleton.mp member]
        exact keepsCall_fail
      · cases member

theorem keepsCall_addInboundClient {call : Statement}
    (member : call ∈ addInboundClient data host database) :
    KeepsCall database call := by
  unfold addInboundClient checked at member
  split at member
  · rw [List.mem_singleton.mp member]
    exact keepsCall_fail
  next found accepted =>
    obtain ⟨stored, added, spec⟩ := addedClients_eq_ok accepted
    rcases List.mem_append.mp member with member | member
    · obtain ⟨client, -, member⟩ := List.mem_flatMap.mp member
      exact keepsCall_addedClientStat member
    · rw [List.mem_singleton.mp member, spec.row]
      obtain ⟨old, inTable, same⟩ := sameColumns_changedRow spec.found
      exact keepsCall_save inTable same

theorem keepsCall_replacedStats {replacement : Replacement} {call : Statement}
    (member : call ∈ replacedStats id replacement) :
    KeepsCall initial call := by
  unfold replacedStats at member
  dsimp only at member
  split at member
  · split at member
    · rcases List.mem_cons.mp member with rfl | member
      · exact keepsCall_updateStat
      · rw [List.mem_singleton.mp member]
        exact keepsCall_updateClientIPs
    · rw [List.mem_singleton.mp member]
      exact keepsCall_createStat
  · rcases List.mem_cons.mp member with rfl | member
    · exact keepsCall_writeRows fun _ => rfl
    · rw [List.mem_singleton.mp member]
      exact keepsCall_writeRows fun _ => rfl

theorem keepsCall_updateInboundClient {call : Statement}
    (member : call ∈ updateInboundClient data clientId host database) :
    KeepsCall database call := by
  unfold updateInboundClient checked at member
  split at member
  · rw [List.mem_singleton.mp member]
    exact keepsCall_fail
  next replacement accepted =>
    obtain ⟨_, _, _, _, _, _, spec⟩ := updatedClient_eq_ok accepted
    dsimp only at member
    rcases List.mem_append.mp member with member | member
    · rcases List.mem_append.mp member with member | member
      · exact keepsCall_replacedStats member
      · split at member
        · rw [List.mem_singleton.mp member]
          exact keepsCall_fail
        · cases member
    · rw [List.mem_singleton.mp member, spec.row]
      obtain ⟨old, inTable, same⟩ := sameColumns_changedRow spec.found
      exact keepsCall_save inTable same

theorem keepsCall_delInboundClient {call : Statement}
    (member : call ∈ delInboundClient id clientId database) :
    KeepsCall database call := by
  unfold delInboundClient checked at member
  split at member
  · rw [List.mem_singleton.mp member]
    exact keepsCall_fail
  next removal accepted =>
    obtain ⟨_, _, spec⟩ := removedClient_eq_ok accepted
    rcases List.mem_append.mp member with member | member
    · rcases List.mem_cons.mp member with rfl | member
      · exact keepsCall_writeRows fun _ => rfl
      · split at member
        · cases member
        · rcases List.mem_cons.mp member with rfl | member
          · exact keepsCall_require
          · rw [List.mem_singleton.mp member]
            exact keepsCall_writeRows fun _ => rfl
    · rw [List.mem_singleton.mp member, spec.row]
      obtain ⟨old, inTable, same⟩ := sameColumns_changedRow spec.found
      exact keepsCall_save inTable same

theorem keepsCall_delInboundClientByEmail {call : Statement}
    (member : call ∈ delInboundClientByEmail id email database) :
    KeepsCall database call := by
  unfold delInboundClientByEmail at member
  split at member
  · rw [List.mem_singleton.mp member]
    exact keepsCall_fail
  next removal accepted =>
    obtain ⟨_, _, spec⟩ := removedByEmail_eq_ok accepted
    rcases List.mem_append.mp member with member | member
    · rcases List.mem_cons.mp member with rfl | member
      · exact keepsCall_writeRows fun _ => rfl
      · split at member
        · cases member
        · split at member
          · rw [List.mem_singleton.mp member]
            exact keepsCall_fail
          · rw [List.mem_singleton.mp member]
            exact keepsCall_writeRows fun _ => rfl
    · rw [List.mem_singleton.mp member, spec.row]
      obtain ⟨old, inTable, same⟩ := sameColumns_changedRow spec.found
      exact keepsCall_save inTable same

variable {bulk : BulkClientUpdateRequest} {now : Int} {emails : List String}

theorem keepsCall_bulkClients {items : List Json} {call : Statement}
    (member : call ∈ (bulkClients bulk emails now items).2) :
    KeepsCall initial call := by
  unfold bulkClients at member
  split at member
  · obtain ⟨item, -, member⟩ := List.mem_flatMap.mp member
    rcases List.mem_cons.mp member with rfl | member
    · exact keepsCall_writeRows fun _ => rfl
    · rw [List.mem_singleton.mp member]
      exact keepsCall_writeRows fun _ => rfl
  · obtain ⟨item, -, member⟩ := List.mem_flatMap.mp member
    unfold bulkItem at member
    cases item with
    | obj client =>
        dsimp only at member
        split at member
        · cases member
        · split at member
          · cases member
          · rw [List.mem_singleton.mp member]
            exact keepsCall_updateStat
    | _ => cases member

theorem keepsCall_bulkInbound {call : Statement}
    (member : call ∈ bulkInbound bulk now database id emails) :
    KeepsCall database call := by
  unfold bulkInbound at member
  split at member
  · rw [List.mem_singleton.mp member]
    exact keepsCall_fail
  next row inTable =>
    split at member
    · rw [List.mem_singleton.mp member]
      exact keepsCall_fail
    · dsimp only at member
      split at member
      · split at member
        · cases member
        · rcases List.mem_append.mp member with member | member
          · exact keepsCall_bulkClients member
          · rw [List.mem_singleton.mp member]
            exact keepsCall_save (Table.find?_eq_some.mp inTable).1
              ⟨rfl, rfl, rfl, rfl, rfl, rfl, rfl⟩
      · cases member

theorem keepsCall_bulkUpdateClients {call : Statement}
    (member : call ∈ bulkUpdateClients bulk now database) :
    KeepsCall database call := by
  unfold bulkUpdateClients at member
  split at member
  · rw [List.mem_singleton.mp member]
    exact keepsCall_fail
  · obtain ⟨⟨inboundId, emails⟩, -, member⟩ := List.mem_flatMap.mp member
    exact keepsCall_bulkInbound member

end Requests

section Traffic

variable {now : Int} {batch : TrafficBatch} {rows : List ClientTraffic}
  {statements : List Statement}

theorem keeps_addInboundTraffic {traffics : List InboundTraffic} :
    Keeps database (Call.run database faults number
      (addInboundTraffic traffics) database).2 := by
  apply keeps_run .refl .refl
  intro call member earlier _ before next done keeps
  obtain ⟨traffic, -, rfl⟩ := List.mem_map.mp member
  obtain rfl := Option.some.inj done
  refine keeps.trans (Keeps.mapRows fun row => ?_)
  unfold countInbound
  split
  · exact ⟨rfl, rfl, rfl, rfl, rfl, rfl, rfl⟩
  · exact .refl

theorem sameColumns_adjustInbounds {loaded adjusted : List StoredInbound}
    {started : List ClientTraffic}
    (ran : adjustInbounds now loaded rows = some (adjusted, started)) :
    List.Forall₂ SameColumns loaded adjusted := by
  induction loaded generalizing rows adjusted started with
  | nil =>
      obtain ⟨rfl, -⟩ := Prod.mk.inj (Option.some.inj ran)
      exact .nil
  | cons row rest induction =>
      simp only [adjustInbounds, bind, Option.bind_eq_some_iff] at ran
      obtain ⟨⟨first, middle⟩, head, ⟨others, last⟩, tail, same⟩ := ran
      obtain ⟨rfl, -⟩ := Prod.mk.inj (Option.some.inj same)
      refine .cons ?_ (induction tail)
      unfold adjustInbound at head
      split at head
      · obtain ⟨_, -, same⟩ := Option.map_eq_some_iff.mp head
        obtain ⟨rfl, -⟩ := Prod.mk.inj same
        exact sameColumns_withItems
      · obtain ⟨rfl, -⟩ := Prod.mk.inj (Option.some.inj head)
        exact .refl

theorem sameColumns_renewInbound {later : StoredInbound}
    (ran : renewInbound now rows row = some later) :
    SameColumns row later := by
  unfold renewInbound at ran
  split at ran
  · obtain ⟨_, -, rfl⟩ := Option.map_eq_some_iff.mp ran
    exact sameColumns_withItems
  · cases ran

/-- Saving what was made of loaded rows. -/
theorem keepsCall_saveLoaded {keep : StoredInbound → Bool}
    {saved : List StoredInbound} {policy : OnError}
    (same : List.Forall₂ SameColumns (database.inbounds.rows.filter keep)
      saved) :
    KeepsCall database (writeRows policy (Database.saveInbounds · saved)) := by
  intro earlier read before next done keeps
  obtain rfl := Option.some.inj done
  apply keeps.saveInbounds
  intro row member
  obtain ⟨old, loaded, columns⟩ := mem_right_of_forall₂ same member
  obtain ⟨first, stored, before⟩ := read old (List.mem_of_mem_filter loaded)
  exact ⟨first, stored, before.trans columns⟩

theorem keeps_addClientTraffic
    (found : addClientTraffic now batch.clients database = some statements) :
    ∀ call ∈ statements, KeepsCall database call := by
  obtain ⟨⟨inbounds, started⟩, adjusted, rfl⟩ := Option.map_eq_some_iff.mp found
  intro call member
  rcases List.mem_cons.mp member with rfl | member
  · exact keepsCall_saveLoaded (sameColumns_adjustInbounds adjusted)
  · rw [List.mem_singleton.mp member]
    exact keepsCall_writeRows fun _ => rfl

theorem keeps_autoRenewClients
    (found : autoRenewClients now database = some statements) :
    ∀ call ∈ statements, KeepsCall database call := by
  obtain ⟨renewed, renews, rfl⟩ := Option.map_eq_some_iff.mp found
  intro call member
  split at member
  · rw [List.mem_singleton.mp member]
    exact keepsCall_fail
  · rcases List.mem_cons.mp member with rfl | member
    · exact keepsCall_saveLoaded ((forall₂_of_mapM renews).imp
        fun _ _ ran => sameColumns_renewInbound ran)
    · rw [List.mem_singleton.mp member]
      exact keepsCall_writeRows fun _ => rfl

/-- The last two updates, of which the first may fail. -/
theorem keeps_disabled {failed : Bool} :
    Keeps database ((if failed then database
      else database.disableInvalidClients now).disableInvalidInbounds now) := by
  have disabled : ∀ row, SameColumns row (disableInbound now row) := by
    intro row
    unfold disableInbound
    split
    · exact ⟨rfl, rfl, rfl, rfl, rfl, rfl, rfl⟩
    · exact .refl
  cases failed with
  | true => exact .mapRows disabled
  | false => exact .trans (.of_inbounds rfl) (.mapRows disabled)

theorem keeps_addTraffic :
    Keeps database (addTraffic now batch faults database).2 := by
  have counted := @keeps_addInboundTraffic database faults 0 batch.inbounds
  unfold addTraffic
  generalize Call.run database faults 0 (addInboundTraffic batch.inbounds)
    database = result at counted ⊢
  obtain ⟨error, reached⟩ := result
  cases error with
  | some error => exact counted
  | none =>
      dsimp only at counted ⊢
      unfold trafficPasses
      split
      · exact counted
      next statements found =>
        have charged := @keeps_run database reached faults
          (addInboundTraffic batch.inbounds).length statements reached counted
          counted (keeps_addClientTraffic found)
        dsimp only
        generalize (Call.run database faults _ statements reached).2 =
          paid at charged ⊢
        split
        · exact charged
        next renewals collected =>
          have renewed := @keeps_run database paid faults
            ((addInboundTraffic batch.inbounds).length + 2) renewals paid
            charged charged (keeps_autoRenewClients collected)
          split
          · exact .refl
          · refine renewed.trans ?_
            exact keeps_disabled

end Traffic

section Steps

theorem keeps_perform {request : Request} (clients : request.ofClients = true) :
    Keeps database (perform request host faults database).2 := by
  cases request with
  | addInbound _ _ | updateInbound _ | delInbound _ => cases clients
  | addInboundClient data =>
      exact keeps_run .refl .refl fun _ => keepsCall_addInboundClient
  | updateInboundClient data clientId =>
      exact keeps_run .refl .refl fun _ => keepsCall_updateInboundClient
  | delInboundClient id clientId =>
      exact keeps_run .refl .refl fun _ => keepsCall_delInboundClient
  | delInboundClientByEmail id email =>
      exact keeps_run .refl .refl fun _ => keepsCall_delInboundClientByEmail
  | bulkUpdateClients bulk =>
      exact keeps_run .refl .refl fun _ => keepsCall_bulkUpdateClients
  | addTraffic batch => exact keeps_addTraffic

theorem keeps_setByEmail {email : String} {setting : EmailSetting} :
    Keeps database (setByEmail email setting host database).2 := by
  have replaced : ∀ setting, Keeps database
      (replaceByEmail email setting host database).2 := by
    intro setting
    unfold replaceByEmail
    split
    · exact .refl
    · exact keeps_perform rfl
  unfold setByEmail
  split
  · split
    · exact .refl
    · split
      · exact .refl
      · exact replaced _
  · split
    · exact .refl
    · exact replaced _
  · exact replaced _

theorem keepsCall_delInbound {id : Int} {call : Statement}
    (member : call ∈ delInbound id database) : KeepsCall database call := by
  have deletes : KeepsCall database
      (writeRows .kept (Database.deleteInbound · id)) := by
    intro _ _ before next done keeps
    obtain rfl := Option.some.inj done
    exact keeps.trans .delete
  unfold delInbound at member
  dsimp only at member
  split at member
  · rcases List.mem_cons.mp member with rfl | member
    · exact keepsCall_writeRows fun _ => rfl
    · rw [List.mem_singleton.mp member]
      exact keepsCall_fail
  · split at member
    · rcases List.mem_cons.mp member with rfl | member
      · exact keepsCall_writeRows fun _ => rfl
      · rw [List.mem_singleton.mp member]
        exact keepsCall_fail
    · rcases List.mem_append.mp member with member | member
      · rcases List.mem_cons.mp member with rfl | member
        · exact keepsCall_writeRows fun _ => rfl
        · obtain ⟨client, -, rfl⟩ := List.mem_map.mp member
          exact keepsCall_writeRows fun _ => rfl
      · rw [List.mem_singleton.mp member]
        exact deletes

/-- What was loaded to be saved later has kept its columns too. -/
def KeepsSaved (initial : Database) (saved : List StoredInbound) : Prop :=
  ∀ row ∈ saved, ∃ old ∈ initial.inbounds, SameColumns old row

theorem keeps_depleteInbound {group : Int × String} {committed : Database}
    {saved : List StoredInbound} {next : Database × List StoredInbound}
    (keeps : Keeps initial committed) (kept : KeepsSaved initial saved)
    (done : depleteInbound group committed saved = .ok next) :
    Keeps initial next.1 ∧ KeepsSaved initial next.2 := by
  obtain ⟨row, items, stored, -, result⟩ := depleteInbound_eq_ok done
  split at result
  · rw [result]
    refine ⟨keeps, fun later member => ?_⟩
    rcases List.mem_append.mp member with member | member
    · exact kept later member
    · rw [List.mem_singleton.mp member]
      obtain ⟨old, inTable, same⟩ :=
        keeps row (Table.find?_eq_some.mp stored).1
      exact ⟨old, inTable, same.trans sameColumns_withItems⟩
  · split at result
    · rw [result]
      exact ⟨keeps, kept⟩
    · rw [result]
      exact ⟨keeps.trans
        (keeps_run .refl .refl fun _ => keepsCall_delInbound), kept⟩

theorem keeps_depleteGroups {groups : List (Int × String)}
    {committed : Database} {saved : List StoredInbound}
    (keeps : Keeps initial committed) (kept : KeepsSaved initial saved) :
    Keeps initial (depleteGroups groups committed saved).2.1 ∧
      KeepsSaved initial (depleteGroups groups committed saved).2.2 := by
  induction groups generalizing committed saved with
  | nil => exact ⟨keeps, kept⟩
  | cons group rest induction =>
      rw [depleteGroups]
      split
      · exact ⟨keeps, kept⟩
      next committed saved done =>
        obtain ⟨first, second⟩ := keeps_depleteInbound keeps kept done
        exact induction first second

theorem keeps_delDepletedClients {id now : Int} :
    Keeps database (delDepletedClients id now database).2 := by
  have last := @keeps_depleteGroups database
    (depletedGroups id now database.traffics) database [] .refl
    fun _ member => absurd member List.not_mem_nil
  unfold delDepletedClients
  generalize depleteGroups _ _ _ = result at last ⊢
  obtain ⟨error, committed, saved⟩ := result
  obtain ⟨keeps, kept⟩ := last
  split
  next panicked =>
    cases panicked
    exact keeps.saveInbounds kept
  next failed =>
    cases failed
    exact keeps
  next succeeded =>
    cases succeeded
    exact (keeps.saveInbounds kept).trans (.of_inbounds rfl)

theorem keeps_resetInbounds {applies : StoredInbound → Bool} :
    Keeps database (database.resetInbounds applies) := by
  apply Keeps.mapRows
  intro row
  unfold resetInbound
  split
  · exact ⟨rfl, rfl, rfl, rfl, rfl, rfl, rfl⟩
  · exact .refl

theorem keeps_reset {reset : TrafficReset} :
    Keeps database (reset.perform database) := by
  cases reset with
  | allTraffics | inboundTraffic _ => exact keeps_resetInbounds
  | allClientTraffics _ | clientTrafficByEmail _ => exact .of_inbounds rfl
  | clientTraffic id email =>
      change Keeps database (resetClientTraffic id email database)
      unfold resetClientTraffic
      split
      · exact .refl
      · split
        · exact .of_inbounds rfl
        · exact .refl

theorem keeps_copyRequest {request : Request}
    (clients : request.ofClients = true) {before next : Option Database}
    (start : ∀ reached, before = some reached → Keeps database reached)
    (ran : copyRequest request host before = .ok next) :
    ∀ reached, next = some reached → Keeps database reached := by
  rcases copyRequest_eq_ok ran with rfl | ⟨first, last, rfl, rfl, done⟩
  · exact fun _ none => absurd none (by simp)
  · intro reached same
    obtain rfl := Option.some.inj same
    have kept := @keeps_perform first host Call.noFaults request clients
    rw [done] at kept
    exact (start first rfl).trans kept

theorem keeps_copyInboundClients {targetId sourceId : Int}
    {clientEmails : List String} {flow : String} {uuid : Nat → String}
    (left : (Panel.copyInboundClients accountWriter (some database) targetId
      sourceId clientEmails flow uuid host).store = some after) :
    Keeps database after := by
  refine @copyInboundClients_invariant _ accountWriter
    (fun store => ∀ reached, store = some reached → Keeps database reached)
    ?_ ?_ _ _ _ _ _ _ _ ?_ after left
  · exact fun _ _ _ _ start ran => keeps_copyRequest rfl start ran
  · exact fun _ _ _ _ _ start ran => keeps_copyRequest rfl start ran
  · intro reached same
    rw [← Option.some.inj same]
    exact .refl

/-- No call from the background changes these columns. -/
theorem keeps_step {call : BackgroundCall × PanelHost}
    (stepped : backgroundMachine.step database call = some after) :
    Keeps database after := by
  obtain ⟨call, host⟩ := call
  change call.leave host database = some after at stepped
  cases call with
  | request request faults =>
      simp only [BackgroundCall.leave] at stepped
      split at stepped
      next clients =>
        rw [← Option.some.inj stepped]
        exact keeps_perform clients
      · cases stepped
  | setByEmail email setting =>
      rw [← Option.some.inj stepped]
      exact keeps_setByEmail
  | copyInboundClients targetId sourceId clientEmails flow uuid =>
      exact keeps_copyInboundClients stepped
  | delDepletedClients id =>
      rw [← Option.some.inj stepped]
      exact keeps_delDepletedClients
  | resetTraffic reset =>
      rw [← Option.some.inj stepped]
      exact keeps_reset

theorem keeps_background {calls : List (BackgroundCall × PanelHost)}
    (ran : backgroundMachine.run database calls = some after) :
    Keeps database after :=
  backgroundMachine.run_invariant
    (fun _ _ _ keeps stepped => keeps.trans (keeps_step stepped)) .refl ran

end Steps

end VpnUi.Store
