import VpnUi.Foundation.Interleave
import VpnUi.Store.Accounts
import VpnUi.Store.Requests

namespace VpnUi.Store

open Foundation Panel

/-! Two client operations at the same time: each one reads the inbound, edits
what it has read, and saves the whole row. -/

/-- An operation of the service by its reads and its writes; it returns an error
or nothing. -/
abbrev Steps := Operation Database (Option RequestError)

def orFail {Result : Type} (result : Except PanelError Result)
    (next : Result → Steps) : Steps :=
  match result with
  | .error error => .done (some (.panel error))
  | .ok found => next found

/-- A transaction is seen by the other operation as a whole. -/
def transaction (script : List Statement) : Steps :=
  .write (fun database => (Call.run database Call.noFaults 0 script database).2)
    fun database =>
      .done (Call.run database Call.noFaults 0 script database).1

/-- Statements without a transaction. -/
def separately : List Statement → Steps
  | [] => .done none
  | call :: rest =>
      .write (fun database => (call.effect database).getD database)
        fun database =>
          match call.effect database with
          | some _ => separately rest
          | none => .done (some call.error)

def clientsOf (settings : JsonText) : Except PanelError (List Client) :=
  match getClients settings with
  | none => .error .nullSettings
  | some clients => .ok clients

def givenClients (settings : JsonText) : Except PanelError (List Json) := do
  clientArray (← settingsMap settings)

/-- Only some protocols have their usernames read. -/
def readUsernames (protocol : Protocol) (clients : List Client)
    (next : Steps) : Steps :=
  if checksUsernames protocol then
    .read fun database =>
      orFail (checkUsernames database.inbounds.view protocol clients)
        fun _ => next
  else next

/-- The row `AddInboundClient` saves. -/
def appendClients (row : StoredInbound) (added : List Json) (now : Int) :
    Except PanelError StoredInbound := do
  let fields ← settingsMap row.settings
  let stored ← clientArray fields
  .ok (withInbound row { row.toInbound with
    settings := .parsed (.obj (JsonObject.set fields "clients"
      (.arr (stored ++ added.map (stampNewClient now))))) })

def addInboundClientSteps (data : Inbound) (host : PanelHost) : Steps :=
  orFail (clientsOf data.settings) fun clients =>
  orFail (givenClients data.settings) fun added =>
  .read fun database =>
  orFail (checkEmails database.inbounds.view clients) fun _ =>
  .read fun database =>
  match database.inbounds.find? data.id with
  | none => .done (some (.panel .notFound))
  | some row =>
      if clients.any fun client => clientKey row.protocol client = "" then
        .done (some (.panel .emptyClientId))
      else
        readUsernames row.protocol clients <|
        orFail (appendClients row added host.now) fun saved =>
        transaction (clients.flatMap (addedClientStat data.id
          (lacksCipher row.toInbound row.settings.fields)) ++
          [write .kept (Database.saveInbound · saved)])

/-- The row `UpdateInboundClient` saves. -/
def replaceItem (row : StoredInbound) (index : Nat) (replacement : Json)
    (now : Int) : Except PanelError StoredInbound := do
  let fields ← settingsMap row.settings
  let stored ← clientArray fields
  .ok (withInbound row { row.toInbound with
    settings := .parsed (.obj (JsonObject.set fields "clients"
      (.arr (stored.set index
        (stampReplacing stored[index]? now replacement))))) })

/-- The writes of `UpdateInboundClient`. -/
def replacementScript (inboundId : Int) (saved : StoredInbound)
    (replacement : Replacement) : List Statement :=
  let old := replacement.old
  replacedStats inboundId replacement ++
    (if lacksCipher old old.settings.fields && replacement.oldEmail ≠ "" &&
        replacement.client.enable then [fail .kept (.panel .panicked)]
    else []) ++
    [write .kept (Database.saveInbound · saved)]

/-- The e-mails are read if they are to be checked. -/
def readEmails (needed : Bool) (clients : List Client) (next : Steps) : Steps :=
  if needed then
    .read fun database =>
      orFail (checkEmails database.inbounds.view clients) fun _ => next
  else next

/-- `UpdateInboundClient` once its row is read. -/
def replaceClientSteps (data : Inbound) (row : StoredInbound)
    (oldClients clients : List Client) (clientId : String) (client : Client)
    (replacement : Json) (host : PanelHost) : Steps :=
  if clientKey row.protocol client = "" then
    .done (some (.panel .emptyClientId))
  else
    match oldClients.findIdx? fun other =>
        clientId = clientKey row.protocol other with
    | none => .done (some (.panel .emptyClientId))
    | some index =>
        let oldClient := oldClients[index]?
        let oldEmail := oldClient.elim "" Client.email
        let checks : Steps → Steps :=
          if oldClient.map Client.id ≠ some client.id then
            readUsernames row.protocol clients
          else id
        readEmails (client.email ≠ "" ∧ client.email ≠ oldEmail) clients <|
        checks <|
        orFail (replaceItem row index replacement host.now) fun saved =>
        transaction (replacementScript data.id saved
          ⟨row.toInbound, saved.toInbound, oldClient, client⟩)

def updateInboundClientSteps (data : Inbound) (clientId : String)
    (host : PanelHost) : Steps :=
  orFail (clientsOf data.settings) fun clients =>
  orFail (givenClients data.settings) fun given =>
  .read fun database =>
  match database.inbounds.find? data.id with
  | none => .done (some (.panel .notFound))
  | some row =>
      orFail (clientsOf row.settings) fun oldClients =>
      if oldClients = [] then .done (some (.panel .emptyClientId))
      else
        match clients, given with
        | client :: _, replacement :: _ =>
            replaceClientSteps data row oldClients clients clientId client
              replacement host
        | _, _ => .done (some (.panel .panicked))

/-- There is no transaction. -/
def delInboundClientSteps (id : Int) (clientId : String) : Steps :=
  .read fun database => separately (delInboundClient id clientId database)

/-- The rows are read outside of the transaction, one after another. -/
def bulkSteps (request : BulkClientUpdateRequest) (now : Int) :
    List (Int × List String) → List Statement → Steps
  | [], statements => transaction statements
  | (inboundId, emails) :: targets, statements =>
      .read fun database => bulkSteps request now targets
        (statements ++ bulkInbound request now database inboundId emails)

def bulkUpdateClientsSteps (request : BulkClientUpdateRequest) (now : Int) :
    Steps :=
  match request.op with
  | .unknown name => .done (some (.unknownOperation name))
  | _ => bulkSteps request now (byInbound request.targets) []

/-- All reads and writes of the pass are in one transaction. -/
def addTrafficSteps (batch : TrafficBatch) (now : Int) : Steps :=
  .write (fun database => (addTraffic now batch Call.noFaults database).2)
    fun database => .done (addTraffic now batch Call.noFaults database).1

inductive ClientOperation
  | addInboundClient (data : Inbound)
  | updateInboundClient (data : Inbound) (clientId : String)
  | delInboundClient (id : Int) (clientId : String)
  | bulkUpdateClients (request : BulkClientUpdateRequest)
  | addTraffic (batch : TrafficBatch)

namespace ClientOperation

def request : ClientOperation → Request
  | addInboundClient data => .addInboundClient data
  | updateInboundClient data clientId => .updateInboundClient data clientId
  | delInboundClient id clientId => .delInboundClient id clientId
  | bulkUpdateClients request => .bulkUpdateClients request
  | addTraffic batch => .addTraffic batch

def steps (host : PanelHost) : ClientOperation → Steps
  | addInboundClient data => addInboundClientSteps data host
  | updateInboundClient data clientId =>
      updateInboundClientSteps data clientId host
  | delInboundClient id clientId => delInboundClientSteps id clientId
  | bulkUpdateClients request => bulkUpdateClientsSteps request host.now
  | addTraffic batch => addTrafficSteps batch host.now

end ClientOperation

/-! Alone, the steps are the request. -/

section Alone

variable {database : Database} {host : PanelHost}

theorem orFail_ok {Result : Type} {found : Result} {next : Result → Steps} :
    orFail (.ok found) next = next found := rfl

/-- A check of the steps is one of the checks of the request. -/
theorem orFail_run {Found Result : Type} {result : Except PanelError Found}
    {next : Found → Steps} {rest : Found → Except PanelError Result}
    {script : Result → List Statement}
    (follows : ∀ found, (next found).run database =
      Call.run database Call.noFaults 0 (checked (rest found) script)
        database) :
    (orFail result next).run database =
      Call.run database Call.noFaults 0 (checked (result.bind rest) script)
        database := by
  cases result with
  | error error => rfl
  | ok found => exact follows found

theorem transaction_run {script : List Statement} :
    (transaction script).run database =
      Call.run database Call.noFaults 0 script database := rfl

theorem separately_run {script : List Statement} {initial state : Database}
    {number : Nat} (kept : ∀ call ∈ script, call.onError = .kept) :
    (separately script).run state =
      Call.run initial Call.noFaults number script state := by
  induction script generalizing number state with
  | nil => rfl
  | cons call rest induction =>
      have policy := kept call List.mem_cons_self
      have later := fun other member =>
        kept other (List.mem_cons_of_mem call member)
      simp only [separately, Operation.run, Call.run, Call.attempt,
        Call.noFaults, Bool.false_and, Bool.false_eq_true, if_false]
      cases call.effect state with
      | some next => exact induction later
      | none =>
          rw [policy]
          rfl

theorem readUsernames_run {Result : Type} {protocol : Protocol}
    {clients : List Client} {next : Steps} {rest : Except PanelError Result}
    {script : Result → List Statement}
    (follows : next.run database =
      Call.run database Call.noFaults 0 (checked rest script) database) :
    (readUsernames protocol clients next).run database =
      Call.run database Call.noFaults 0
        (checked ((checkUsernames database.inbounds.view protocol clients).bind
          fun _ => rest) script) database := by
  unfold readUsernames
  split
  · exact orFail_run fun _ => follows
  next unchecked => simpa [checkUsernames, unchecked, Except.bind] using follows

theorem givenClients_bind {Result : Type} {settings : JsonText}
    {rest : List Json → Except PanelError Result} :
    ((settingsMap settings).bind fun fields => (clientArray fields).bind rest) =
      (givenClients settings).bind rest := by
  unfold givenClients
  cases settingsMap settings <;> rfl

theorem changedRow_settings {row : StoredInbound} {settings : JsonText}
    (found : database.inbounds.find? row.id = some row) :
    changedRow database { row.toInbound with settings := settings } =
      withInbound row { row.toInbound with settings := settings } := by
  have stored : database.inbounds.find?
      ({ row.toInbound with settings := settings } : Inbound).id =
        some row := found
  rw [changedRow, stored]

theorem id_of_find? {row : StoredInbound} {id : Int}
    (found : database.inbounds.find? id = some row) : row.id = id :=
  (Table.find?_eq_some.mp found).2

theorem addInboundClientSteps_run {data : Inbound} :
    (addInboundClientSteps data host).run database =
      perform (.addInboundClient data) host Call.noFaults database := by
  unfold addInboundClientSteps perform Request.script addInboundClient
    addedClients
  simp only [bind, givenClients_bind]
  cases given : getClients data.settings with
  | none =>
      rw [clientsOf, given]
      rfl
  | some clients =>
      rw [clientsOf, given, orFail_ok]
      apply orFail_run
      intro added
      apply orFail_run
      intro _
      simp only [Operation.run, find?_view]
      cases found : database.inbounds.find? data.id with
      | none => rfl
      | some row =>
          simp only [Option.map_some]
          split
          · rfl
          · apply readUsernames_run
            unfold appendClients
            simp only [bind]
            cases settingsMap row.settings with
            | error error => rfl
            | ok fields =>
                simp only [Except.bind]
                cases clientArray fields with
                | error error => rfl
                | ok stored =>
                    simp only [orFail_ok, transaction_run, checked]
                    rw [changedRow_settings (id_of_find? found ▸ found)]

theorem readEmails_run {Result : Type} {needed : Bool} {clients : List Client}
    {next : Steps} {rest : Except PanelError Result}
    {script : Result → List Statement}
    (follows : next.run database =
      Call.run database Call.noFaults 0 (checked rest script) database) :
    (readEmails needed clients next).run database =
      Call.run database Call.noFaults 0
        (checked (if needed = true then
          (checkEmails database.inbounds.view clients).bind fun _ => rest
        else rest) script) database := by
  unfold readEmails
  cases needed with
  | true => exact orFail_run fun _ => follows
  | false => exact follows

theorem replaceItem_run {inboundId : Int} {row : StoredInbound} {index : Nat}
    {replacement : Json} {oldClient : Option Client} {client : Client}
    (found : database.inbounds.find? row.id = some row) :
    (orFail (replaceItem row index replacement host.now) fun saved =>
      transaction (replacementScript inboundId saved
        ⟨row.toInbound, saved.toInbound, oldClient, client⟩)).run database =
    Call.run database Call.noFaults 0 (checked
      ((settingsMap row.settings).bind fun fields =>
        (clientArray fields).bind fun stored =>
          .ok {
            old := row.toInbound
            row := { row.toInbound with
              settings := .parsed (.obj (JsonObject.set fields "clients"
                (.arr (stored.set index
                  (stampReplacing stored[index]? host.now replacement))))) }
            oldClient := oldClient
            client := client }) fun replacement : Replacement =>
      replacementScript inboundId (changedRow database replacement.row)
        replacement) database := by
  unfold replaceItem
  simp only [bind]
  cases settingsMap row.settings with
  | error error => rfl
  | ok fields =>
      simp only [Except.bind]
      cases clientArray fields with
      | error error => rfl
      | ok stored =>
          simp only [orFail_ok, transaction_run, checked]
          rw [changedRow_settings found]
          rfl

theorem someUsernames_run {Result : Type} {needed : Prop} [Decidable needed]
    {protocol : Protocol} {clients : List Client} {next : Steps}
    {rest : Except PanelError Result} {script : Result → List Statement}
    (follows : next.run database =
      Call.run database Call.noFaults 0 (checked rest script) database) :
    ((if needed then readUsernames protocol clients else id) next).run
        database =
      Call.run database Call.noFaults 0
        (checked (if needed then
          (checkUsernames database.inbounds.view protocol clients).bind
            fun _ => rest
        else rest) script) database := by
  split
  · exact readUsernames_run follows
  · exact follows

theorem replaceClientSteps_run {data : Inbound} {row : StoredInbound}
    {oldClients clients : List Client} {clientId : String} {client : Client}
    {replacement : Json}
    (found : database.inbounds.find? row.id = some row) :
    (replaceClientSteps data row oldClients clients clientId client replacement
        host).run database =
      Call.run database Call.noFaults 0
        (checked (replacedClient database.inbounds.view row.toInbound oldClients
            clients clientId client replacement host) fun replacement =>
          replacementScript data.id (changedRow database replacement.row)
            replacement) database := by
  unfold replaceClientSteps replacedClient
  simp only [bind]
  split
  · rfl
  · cases oldClients.findIdx? fun other =>
        clientId = clientKey row.protocol other with
    | none => rfl
    | some index =>
        have saves := @replaceItem_run database host data.id row index
          replacement oldClients[index]? client found
        let oldClient := oldClients[index]?
        have checks := @readEmails_run database _
          (client.email ≠ "" ∧ client.email ≠ oldClient.elim "" Client.email)
          clients _ _ _ (@someUsernames_run database _
            (oldClient.map Client.id ≠ some client.id) _ row.protocol clients _
            _ _ saves)
        simp only [decide_eq_true_eq] at checks
        exact checks

theorem updateInboundClientSteps_run {data : Inbound} {clientId : String} :
    (updateInboundClientSteps data clientId host).run database =
      perform (.updateInboundClient data clientId) host Call.noFaults
        database := by
  unfold updateInboundClientSteps perform Request.script updateInboundClient
    updatedClient
  simp only [bind, givenClients_bind]
  cases given : getClients data.settings with
  | none =>
      rw [clientsOf, given]
      rfl
  | some clients =>
      rw [clientsOf, given, orFail_ok]
      apply orFail_run
      intro items
      simp only [Operation.run, find?_view]
      cases found : database.inbounds.find? data.id with
      | none => rfl
      | some row =>
          simp only [Option.map_some]
          cases stored : getClients row.settings with
          | none =>
              rw [clientsOf, stored]
              rfl
          | some oldClients =>
              rw [clientsOf, stored, orFail_ok]
              simp only
              split
              · rfl
              · cases clients with
                | nil => rfl
                | cons client rest =>
                    cases items with
                    | nil => rfl
                    | cons replacement others =>
                        exact replaceClientSteps_run (id_of_find? found ▸ found)

theorem delInboundClientSteps_run {id : Int} {clientId : String} :
    (delInboundClientSteps id clientId).run database =
      perform (.delInboundClient id clientId) host Call.noFaults database := by
  apply separately_run
  unfold delInboundClient checked
  split
  · simp [fail]
  next removal _ =>
    simp only [List.forall_mem_append, List.forall_mem_cons]
    split <;> simp [writeRows, write, require]

theorem bulkSteps_run {request : BulkClientUpdateRequest} {now : Int}
    {targets : List (Int × List String)} {statements : List Statement} :
    (bulkSteps request now targets statements).run database =
      Call.run database Call.noFaults 0 (statements ++
        targets.flatMap fun (inboundId, emails) =>
          bulkInbound request now database inboundId emails) database := by
  induction targets generalizing statements with
  | nil => rw [List.flatMap_nil, List.append_nil]; rfl
  | cons target targets induction =>
      rw [List.flatMap_cons, ← List.append_assoc]
      exact induction

theorem bulkUpdateClientsSteps_run {request : BulkClientUpdateRequest} :
    (bulkUpdateClientsSteps request host.now).run database =
      perform (.bulkUpdateClients request) host Call.noFaults database := by
  unfold bulkUpdateClientsSteps perform Request.script bulkUpdateClients
  simp only
  cases request.op with
  | unknown name => rfl
  | _ => exact bulkSteps_run

theorem ClientOperation.steps_run (operation : ClientOperation) :
    (operation.steps host).run database =
      perform operation.request host Call.noFaults database := by
  cases operation with
  | addInboundClient data => exact addInboundClientSteps_run
  | updateInboundClient data clientId => exact updateInboundClientSteps_run
  | delInboundClient id clientId => exact delInboundClientSteps_run
  | bulkUpdateClients request => exact bulkUpdateClientsSteps_run
  | addTraffic batch => rfl

end Alone

/-! What an operation reads before its first write. -/

structure Seen where
  rows : List (Option StoredInbound)
  emails : Option (List String)
  usernames : Protocol → Option (List String)

def rowsSeen (ids : List Int) (database : Database) : Seen :=
  ⟨ids.map database.inbounds.find?, none, fun _ => none⟩

/-- The row of an inbound, and the names a new client must not have. -/
def rowAndNames (id : Int) (database : Database) : Seen :=
  ⟨[database.inbounds.find? id], getAllEmails database.inbounds.view,
    getAllPPPUsernames database.inbounds.view⟩

def ClientOperation.sees : ClientOperation → Database → Seen
  | addInboundClient data => rowAndNames data.id
  | updateInboundClient data _ => rowAndNames data.id
  | delInboundClient id _ => rowsSeen [id]
  | bulkUpdateClients request =>
      rowsSeen ((byInbound request.targets).map Prod.fst)
  | addTraffic _ => rowsSeen []

section Observes

variable {View : Type} {view : Database → View} {database other : Database}

theorem orFail_observes {Result : Type} {result : Except PanelError Result}
    {next : Result → Steps} (follows : ∀ found, (next found).Observes view) :
    (orFail result next).Observes view := by
  cases result with
  | error error => trivial
  | ok found => exact follows found

theorem transaction_observes {script : List Statement} :
    (transaction script).Observes view := trivial

theorem separately_observes {script : List Statement} :
    (separately script).Observes view := by
  cases script <;> trivial

variable {id : Int}

theorem find?_of_rowAndNames
    (same : rowAndNames id database = rowAndNames id other) :
    database.inbounds.find? id = other.inbounds.find? id :=
  (List.cons.inj (congrArg Seen.rows same)).1

theorem checkEmails_of_rowAndNames {clients : List Client}
    (same : rowAndNames id database = rowAndNames id other) :
    checkEmails database.inbounds.view clients =
      checkEmails other.inbounds.view clients := by
  have emails : getAllEmails database.inbounds.view =
      getAllEmails other.inbounds.view := congrArg Seen.emails same
  rw [checkEmails, checkEmails, emails]

theorem checkUsernames_of_rowAndNames {protocol : Protocol}
    {clients : List Client}
    (same : rowAndNames id database = rowAndNames id other) :
    checkUsernames database.inbounds.view protocol clients =
      checkUsernames other.inbounds.view protocol clients := by
  have usernames : getAllPPPUsernames database.inbounds.view protocol =
      getAllPPPUsernames other.inbounds.view protocol :=
    congrFun (congrArg Seen.usernames same) protocol
  rw [checkUsernames, checkUsernames, usernames]

theorem readUsernames_observes {protocol : Protocol} {clients : List Client}
    {next : Steps} (follows : next.Observes (rowAndNames id)) :
    (readUsernames protocol clients next).Observes (rowAndNames id) := by
  unfold readUsernames
  split
  · refine ⟨?_, fun _ => orFail_observes fun _ => follows⟩
    intro state other same
    simp only
    rw [checkUsernames_of_rowAndNames same]
  · exact follows

theorem readEmails_observes {needed : Bool} {clients : List Client}
    {next : Steps} (follows : next.Observes (rowAndNames id)) :
    (readEmails needed clients next).Observes (rowAndNames id) := by
  unfold readEmails
  split
  · refine ⟨?_, fun _ => orFail_observes fun _ => follows⟩
    intro state other same
    simp only
    rw [checkEmails_of_rowAndNames same]
  · exact follows

theorem addInboundClientSteps_observes {data : Inbound} {host : PanelHost} :
    (addInboundClientSteps data host).Observes (rowAndNames data.id) := by
  refine orFail_observes fun clients => orFail_observes fun added => ⟨?_, ?_⟩
  · intro state other same
    simp only
    rw [checkEmails_of_rowAndNames same]
  · refine fun _ => orFail_observes fun _ => ⟨?_, ?_⟩
    · intro state other same
      simp only
      rw [find?_of_rowAndNames same]
    · intro state
      dsimp only
      split
      · trivial
      · split
        · trivial
        · exact readUsernames_observes (orFail_observes fun _ =>
            transaction_observes)

theorem updateInboundClientSteps_observes {data : Inbound} {clientId : String}
    {host : PanelHost} :
    (updateInboundClientSteps data clientId host).Observes
      (rowAndNames data.id) := by
  refine orFail_observes fun clients => orFail_observes fun given => ⟨?_, ?_⟩
  · intro state other same
    simp only
    rw [find?_of_rowAndNames same]
  · intro state
    dsimp only
    split
    · trivial
    · refine orFail_observes fun oldClients => ?_
      split
      · trivial
      · split
        · unfold replaceClientSteps
          split
          · trivial
          · split
            · trivial
            · apply readEmails_observes
              split
              · exact readUsernames_observes (orFail_observes fun _ =>
                  transaction_observes)
              · exact orFail_observes fun _ => transaction_observes
        · trivial

theorem find?_of_rowsSeen {ids : List Int}
    (same : rowsSeen ids database = rowsSeen ids other) (member : id ∈ ids) :
    database.inbounds.find? id = other.inbounds.find? id :=
  List.map_inj_left.mp (congrArg Seen.rows same) id member

/-- The row to save is the row that was found. -/
theorem removedClient_id {inbounds : Inbounds} {clientId : String}
    {removal : Removal}
    (removed : removedClient inbounds id clientId = .ok removal) :
    removal.row.id = id := by
  unfold removedClient at removed
  cases found : inbounds.find? id with
  | none =>
      rw [found] at removed
      cases removed
  | some old =>
      rw [found] at removed
      have named : old.id = id := (Table.find?_eq_some.mp found).2
      revert removed
      simp only [bind]
      cases settingsMap old.settings with
      | error error => intro removed; cases removed
      | ok fields =>
          simp only [Except.bind]
          cases clientArray fields with
          | error error => intro removed; cases removed
          | ok stored =>
              simp only
              split
              · intro removed; cases removed
              · split
                · intro removed; cases removed
                · intro removed
                  obtain rfl := Except.ok.inj removed
                  exact named

theorem delInboundClient_congr {clientId : String}
    (same : database.inbounds.find? id = other.inbounds.find? id) :
    delInboundClient id clientId database =
      delInboundClient id clientId other := by
  have removed : removedClient database.inbounds.view id clientId =
      removedClient other.inbounds.view id clientId := by
    unfold removedClient
    rw [find?_view, find?_view, same]
  unfold delInboundClient
  rw [removed]
  cases found : removedClient other.inbounds.view id clientId with
  | error error => rfl
  | ok removal =>
      have row : changedRow database removal.row =
          changedRow other removal.row := by
        rw [changedRow, changedRow, removedClient_id found, same]
      simp only [checked, row]

theorem bulkInbound_congr {request : BulkClientUpdateRequest} {now : Int}
    {emails : List String}
    (same : database.inbounds.find? id = other.inbounds.find? id) :
    bulkInbound request now database id emails =
      bulkInbound request now other id emails := by
  rw [bulkInbound, bulkInbound, same]

theorem bulkSteps_observes {request : BulkClientUpdateRequest} {now : Int}
    {ids : List Int} {targets : List (Int × List String)}
    {statements : List Statement} (read : ∀ target ∈ targets, target.1 ∈ ids) :
    (bulkSteps request now targets statements).Observes (rowsSeen ids) := by
  induction targets generalizing statements with
  | nil => exact transaction_observes
  | cons target targets induction =>
      refine ⟨?_, ?_⟩
      · intro state other same
        dsimp only
        rw [bulkInbound_congr (find?_of_rowsSeen same
          (read target List.mem_cons_self))]
      · intro state
        apply induction
        exact fun later member => read later (List.mem_cons_of_mem target member)

theorem ClientOperation.steps_observes (operation : ClientOperation)
    {host : PanelHost} :
    (operation.steps host).Observes operation.sees := by
  cases operation with
  | addInboundClient data => exact addInboundClientSteps_observes
  | updateInboundClient data clientId =>
      exact updateInboundClientSteps_observes
  | delInboundClient id clientId =>
      refine ⟨?_, fun _ => separately_observes⟩
      intro state other same
      simp only
      rw [delInboundClient_congr (find?_of_rowsSeen same
        (List.mem_singleton.mpr rfl))]
  | bulkUpdateClients request =>
      simp only [steps, bulkUpdateClientsSteps]
      split
      · trivial
      · apply bulkSteps_observes
        exact fun target member => List.mem_map_of_mem member
  | addTraffic batch => trivial

end Observes

/-- The results of the first operation and then the second one. -/
def InOrder (first second : ClientOperation) (firstHost secondHost : PanelHost)
    (database : Database) (firstResult secondResult : Option RequestError)
    (after : Database) : Prop :=
  ∃ between,
    perform first.request firstHost Call.noFaults database =
      (firstResult, between) ∧
    perform second.request secondHost Call.noFaults between =
      (secondResult, after)

theorem inOrder_of_serial {first second : ClientOperation}
    {firstHost secondHost : PanelHost} {database after : Database}
    {firstResult secondResult : Option RequestError}
    (serial : Pair.Serial (first.steps firstHost) (second.steps secondHost)
      database firstResult secondResult after) :
    InOrder first second firstHost secondHost database firstResult secondResult
      after := by
  obtain ⟨between, started, finished⟩ := serial
  rw [ClientOperation.steps_run] at started finished
  exact ⟨between, started, finished⟩

/-- The two operations before their first steps. -/
def together (left right : ClientOperation) (leftHost rightHost : PanelHost)
    (database : Database) : Pair Database (Option RequestError) :=
  Pair.start (left.steps leftHost) (right.steps rightHost) database

theorem no_update_lost_when_isolated {left right : ClientOperation}
    {leftHost rightHost : PanelHost} {database : Database}
    {schedule : List Side} {final : Pair Database (Option RequestError)}
    {leftResult rightResult : Option RequestError}
    (isolated : Pair.Isolated left.sees right.sees schedule
      (together left right leftHost rightHost database))
    (ran : (together left right leftHost rightHost database).interleave
      schedule = some final)
    (leftDone : final.left.operation = .done leftResult)
    (rightDone : final.right.operation = .done rightResult) :
    InOrder left right leftHost rightHost database leftResult rightResult
        final.state ∨
      InOrder right left rightHost leftHost database rightResult leftResult
        final.state := by
  rcases Pair.serial_of_isolated left.steps_observes right.steps_observes
    isolated ran leftDone rightDone with serial | serial
  · exact .inl (inOrder_of_serial serial)
  · exact .inr (inOrder_of_serial serial)

def annBytes : TrafficBatch := ⟨[], [⟨"ann", 10, 20⟩]⟩

/-- The bytes of a client are counted between the reads of the other
operation. -/
theorem no_update_lost_ann :
    ∃ final : Pair Database (Option RequestError),
      InOrder (.addInboundClient (formFor "bob")) (.addTraffic annBytes)
          noonHost noonHost (annDatabase 0) none none final.state ∨
        InOrder (.addTraffic annBytes) (.addInboundClient (formFor "bob"))
          noonHost noonHost (annDatabase 0) none none final.state := by
  refine ⟨_, @no_update_lost_when_isolated _ _ _ _ _
    [.left, .right, .left, .left] _ _ _ ?_ rfl rfl rfl⟩
  intro next advanced
  obtain rfl := Option.some.inj advanced
  refine ⟨.inr (.inl rfl), ?_⟩
  intro next advanced
  obtain rfl := Option.some.inj advanced
  refine ⟨.inr (.inr ⟨rfl, rfl⟩), ?_⟩
  intro next advanced
  obtain rfl := Option.some.inj advanced
  refine ⟨.inl ⟨none, rfl⟩, ?_⟩
  intro next advanced
  obtain rfl := Option.some.inj advanced
  exact ⟨.inl ⟨none, rfl⟩, trivial⟩

/-- Two clients are added at once, and only the second save counts. -/
theorem added_client_lost :
    ∃ final : Pair Database (Option RequestError),
      (together (.addInboundClient (formFor "bob"))
        (.addInboundClient (formFor "cat")) noonHost noonHost
        (annDatabase 0)).interleave
          [.left, .left, .right, .right, .left, .right] = some final ∧
      final.left.operation = .done none ∧
      final.right.operation = .done none ∧
      ¬ InOrder (.addInboundClient (formFor "bob"))
        (.addInboundClient (formFor "cat")) noonHost noonHost (annDatabase 0)
        none none final.state ∧
      ¬ InOrder (.addInboundClient (formFor "cat"))
        (.addInboundClient (formFor "bob")) noonHost noonHost (annDatabase 0)
        none none final.state := by
  refine ⟨_, rfl, rfl, rfl, ?_, ?_⟩
  · rintro ⟨between, first, second⟩
    obtain rfl := (Prod.mk.inj first).2
    have third := congrArg (fun result : Option RequestError × Database =>
      (clientAt result.2 1 2).isSome) second
    revert third
    decide +kernel
  · rintro ⟨between, first, second⟩
    obtain rfl := (Prod.mk.inj first).2
    have third := congrArg (fun result : Option RequestError × Database =>
      (clientAt result.2 1 2).isSome) second
    revert third
    decide +kernel

end VpnUi.Store
