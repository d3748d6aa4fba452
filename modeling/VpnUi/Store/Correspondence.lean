import VpnUi.Panel.CopyClients
import VpnUi.Store.Depleted
import VpnUi.Store.MirrorTraffic
import VpnUi.Store.Setters

namespace VpnUi.Store

open Foundation Panel

/-! Runs of the calls that change accounts. -/

/-- A request of a call that copies clients; after a panic there is no call to go
on with. -/
def copyRequest (request : Request) (host : PanelHost) :
    Option Database → Except PanelError (Option Database)
  | none => .ok none
  | some database =>
      match perform request host Call.noFaults database with
      | (none, after) => .ok (some after)
      | (some (.panel .panicked), _) => .ok none
      | (some (.panel error), _) => .error error
      | (some _, _) => .error .database

def accountWriter : ClientWriter (Option Database) where
  inbounds store := store.elim .empty fun database => database.inbounds.view
  addInboundClient store data host :=
    copyRequest (.addInboundClient data) host store
  updateInboundClient store data clientId host :=
    copyRequest (.updateInboundClient data clientId) host store

inductive AccountCall
  | request (request : Request)
  | setByEmail (email : String) (setting : EmailSetting)
  | copyInboundClients (targetId sourceId : Int) (clientEmails : List String)
      (flow : String) (uuid : Nat → String)
  | delDepletedClients (id : Int)

/-- Where a call succeeds, the database it leaves. -/
def AccountCall.succeed (host : PanelHost) (database : Database) :
    AccountCall → Option Database
  | request given =>
      match perform given host Call.noFaults database with
      | (none, after) => some after
      | (some _, _) => none
  | setByEmail email setting =>
      match Store.setByEmail email setting host database with
      | (none, after) => some after
      | (some _, _) => none
  | copyInboundClients targetId sourceId clientEmails flow uuid =>
      let outcome := Panel.copyInboundClients accountWriter (some database)
        targetId sourceId clientEmails flow uuid host
      match outcome.error with
      | none => outcome.store
      | some _ => none
  | delDepletedClients id =>
      match Store.delDepletedClients id host.now database with
      | (none, after) => some after
      | (some _, _) => none

/-- The successful calls, each at its time. -/
def accountMachine : Machine Database (AccountCall × PanelHost) where
  step database call := call.1.succeed call.2 database

def emptyDatabase : Database := ⟨.empty, .empty, .empty⟩

/-- When a call keeps the clients and their rows together. -/
def KeepsRows (database : Database) (call : AccountCall × PanelHost) : Prop :=
  match call.1 with
  | .request (.addInbound form clientStats) =>
      clientStats = [] ∧ (∀ email ∈ emails form.settings, email ≠ "") ∧
        ∀ inbound ∈ database.inbounds, inbound.id ≠
          if form.id = 0 then call.2.freshId else form.id
  | .request (.updateInbound form) =>
      ∀ old, database.inbounds.find? form.id = some old →
        UpdateFits database form.id old.settings form.settings
  | .request (.delInboundClient id clientId) => DropsOne database id clientId
  | .delDepletedClients id => DepletesCleanly database id call.2.now
  | _ => True

/-- When a call keeps the rows in step with the limits, where that is asked
for. -/
def KeepsMatches (enforced : Prop) (database : Database)
    (call : AccountCall × PanelHost) : Prop :=
  match call.1 with
  | .request (.updateInbound form) =>
      ∀ old, database.inbounds.find? form.id = some old →
        KeptFits (Matches enforced) old.settings form.settings
  | .request (.bulkUpdateClients request) =>
      BulkFits (Matches enforced) request call.2.now database
  | .request (.addTraffic _) =>
      PassFits enforced call.2.now database.traffics.rows
  | _ => True

theorem keepsMatches_of_unenforced {database : Database}
    {call : AccountCall × PanelHost} : KeepsMatches False database call := by
  have trivially : ∀ client stat, Matches False client stat :=
    fun _ _ => False.elim
  unfold KeepsMatches
  split
  · exact fun _ _ client _ _ _ _ stat _ => trivially client stat
  · exact fun _ _ _ client _ _ _ _ => trivially _ _
  · exact False.elim
  · trivial

section Step

variable {agrees : Limits → ClientTraffic → Prop} {enforced : Prop}
  {database after : Database} {host : PanelHost}

theorem copyRequest_eq_ok {request : Request} {before : Option Database}
    {next : Option Database}
    (ran : copyRequest request host before = .ok next) :
    next = none ∨ ∃ database reached, before = some database ∧
      next = some reached ∧
        perform request host Call.noFaults database = (none, reached) := by
  cases before with
  | none => exact .inl (Except.ok.inj ran).symm
  | some database =>
      simp only [copyRequest] at ran
      split at ran
      next reached done =>
        exact .inr ⟨database, reached, rfl, (Except.ok.inj ran).symm, done⟩
      · exact .inl (Except.ok.inj ran).symm
      · cases ran
      · cases ran

/-- As long as a copying call goes on, its database keeps the rows. -/
def StillMirrored (agrees : Limits → ClientTraffic → Prop)
    (store : Option Database) : Prop :=
  ∀ database, store = some database → Mirrored agrees database

theorem stillMirrored_request {request : Request}
    {before next : Option Database}
    (kept : ∀ database after, Mirrored agrees database →
      perform request host Call.noFaults database = (none, after) →
        Mirrored agrees after)
    (still : StillMirrored agrees before)
    (ran : copyRequest request host before = .ok next) :
    StillMirrored agrees next := by
  intro reached same
  rcases copyRequest_eq_ok ran with rfl | ⟨database, other, rfl, rfl, done⟩
  · cases same
  · obtain rfl := Option.some.inj same
    exact kept database other (still database rfl) done

theorem Mirrored.copyInboundClients (mirrored : Mirrored agrees database)
    (follows : Follows agrees) {targetId sourceId : Int}
    {clientEmails : List String} {flow : String} {uuid : Nat → String}
    (left : (Panel.copyInboundClients accountWriter (some database) targetId
      sourceId clientEmails flow uuid host).store = some after) :
    Mirrored agrees after := by
  have adds : ∀ store data host next, StillMirrored agrees store →
      accountWriter.addInboundClient store data host = .ok next →
        StillMirrored agrees next :=
    fun _ _ _ _ still added => stillMirrored_request
      (fun _ _ mirrored done => mirrored.addInboundClient follows done) still
      added
  have updates : ∀ store data clientId host next,
      StillMirrored agrees store →
        accountWriter.updateInboundClient store data clientId host = .ok next →
          StillMirrored agrees next :=
    fun _ _ _ _ _ still updated => stillMirrored_request
      (fun _ _ mirrored done => mirrored.updateInboundClient follows done)
      still updated
  have start : StillMirrored agrees (some database) := by
    intro other same
    obtain rfl := Option.some.inj same
    exact mirrored
  exact copyInboundClients_invariant adds updates start after left

theorem Mirrored.succeed (mirrored : Mirrored (Matches enforced) database)
    {call : AccountCall} (keeps : KeepsRows database (call, host))
    (fits : KeepsMatches enforced database (call, host))
    (succeeded : call.succeed host database = some after) :
    Mirrored (Matches enforced) after := by
  have follows := follows_matches enforced
  cases call with
  | request request =>
      have ran : perform request host Call.noFaults database =
          (none, after) := by
        simp only [AccountCall.succeed] at succeeded
        split at succeeded
        next reached done => rw [done, Option.some.inj succeeded]
        · cases succeeded
      cases request with
      | addInbound form clientStats =>
          obtain ⟨rfl, named, newId⟩ := keeps
          exact mirrored.addInbound follows named newId ran
      | updateInbound form =>
          exact mirrored.updateInbound follows
            (fun old found => ⟨keeps old found, fits old found⟩) ran
      | delInbound id => exact mirrored.delInbound ran
      | addInboundClient data => exact mirrored.addInboundClient follows ran
      | updateInboundClient data clientId =>
          exact mirrored.updateInboundClient follows ran
      | delInboundClient id clientId =>
          exact mirrored.delInboundClient keeps ran
      | delInboundClientByEmail id email =>
          exact mirrored.delInboundClientByEmail ran
      | bulkUpdateClients request => exact mirrored.bulkUpdateClients fits ran
      | addTraffic batch => exact mirrored.addTraffic fits ran
  | setByEmail email setting =>
      simp only [AccountCall.succeed] at succeeded
      split at succeeded
      next reached done =>
        obtain rfl := Option.some.inj succeeded
        rcases setByEmail_eq_none done with rfl | ⟨form, clientId, ran⟩
        · exact mirrored
        · exact mirrored.updateInboundClient follows ran
      · cases succeeded
  | copyInboundClients targetId sourceId clientEmails flow uuid =>
      simp only [AccountCall.succeed] at succeeded
      split at succeeded
      · exact mirrored.copyInboundClients follows succeeded
      · cases succeeded
  | delDepletedClients id =>
      simp only [AccountCall.succeed] at succeeded
      split at succeeded
      next reached done =>
        obtain rfl := Option.some.inj succeeded
        exact mirrored.delDepletedClients keeps done
      · cases succeeded

end Step

/-- Each client with an e-mail has one row, each row belongs to a client, and no
two e-mails of the panel differ in case only. -/
structure Corresponds (database : Database) : Prop where
  row : ∀ inbound ∈ database.inbounds, ∀ client ∈ limits inbound.settings,
    client.email ≠ "" → ∃ stat ∈ database.traffics,
      stat.email = client.email ∧ stat.inboundId = inbound.id ∧
        ∀ other ∈ database.traffics, other.email = client.email → other = stat
  client : ∀ stat ∈ database.traffics, ∃ inbound ∈ database.inbounds,
    stat.inboundId = inbound.id ∧ stat.email ∈ emails inbound.settings
  distinct : (database.inbounds.rows.flatMap fun inbound =>
    lowerNames (emails inbound.settings)).Nodup

theorem Mirrored.corresponds {agrees : Limits → ClientTraffic → Prop}
    {database : Database} (mirrored : Mirrored agrees database) :
    Corresponds database where
  row := by
    intro inbound stored client listed nonempty
    obtain ⟨stat, inTable, named, owner, -⟩ :=
      (mirrored.covered inbound stored).row client listed nonempty
    refine ⟨stat, inTable, named, owner, fun other member same => ?_⟩
    exact Table.eq_of_key_eq member inTable (same.trans named.symm)
  client := by
    intro stat inTable
    obtain ⟨inbound, stored, owner⟩ := mirrored.owned stat inTable
    exact ⟨inbound, stored, owner.symm,
      (mirrored.covered inbound stored).client stat inTable owner.symm⟩
  distinct := by
    rw [List.nodup_flatMap]
    constructor
    · exact fun inbound stored => (mirrored.covered inbound stored).distinct
    · refine database.inbounds.sorted.imp_of_mem ?_
      intro first second firstIn secondIn below name inFirst inSecond
      exact mirrored.apart second secondIn first firstIn below.ne name inSecond
        inFirst

def inboundForm (names : List String) : StoredInbound where
  id := 0
  listen := ""
  port := 443
  protocol := .vless
  settings := .parsed (.obj [("clients", .arr (names.map fun name =>
    .obj [("id", .str name), ("email", .str name), ("enable", .bool true)]))])
  enable := true
  tag := "inbound-443"
  up := 0
  down := 0
  allTime := 0
  total := 0
  expiryTime := 0

/-- An inbound is added, then a client; the first one is deleted by its
e-mail. -/
def annAndBob : List (AccountCall × PanelHost) :=
  [(.request (.addInbound (inboundForm ["ann"]) []), ⟨1000, 1, true, true⟩),
    (.request (.addInboundClient (formFor "bob")), noonHost),
    (.request (.delInboundClientByEmail 1 "ann"), noonHost)]

end VpnUi.Store
