import VpnUi.Store.Accounts
import VpnUi.Store.Effects
import VpnUi.Store.Mirror

namespace VpnUi.Store

open Foundation Panel

/-! Which requests keep the accounts and their rows together. -/

/-- A row that is created or updated for a client goes with it. -/
structure Follows (agrees : Limits → ClientTraffic → Prop) : Prop where
  created : ∀ inboundId (client : Client),
    agrees client.limits (clientStat inboundId client)
  updated : ∀ (client : Client) stat,
    agrees client.limits (updateClientStat client stat)

section Requests

variable {agrees : Limits → ClientTraffic → Prop}
  {initial database after : Database} {number : Nat} {host : PanelHost}

theorem mem_view {inbounds : StoredInbounds} {row : StoredInbound}
    (member : row ∈ inbounds) : row.toInbound ∈ inbounds.view :=
  List.mem_map_of_mem member

theorem find?_view_eq_some {inbounds : StoredInbounds} {id : Int}
    {inbound : Inbound} (found : inbounds.view.find? id = some inbound) :
    ∃ row, inbounds.find? id = some row ∧ row.toInbound = inbound := by
  rw [find?_view] at found
  exact Option.map_eq_some_iff.mp found

/-- The first calls of a checked request are not reached where the checks
fail. -/
theorem checked_succeeds {Result : Type} {result : Except PanelError Result}
    {script : Result → List Statement}
    (succeeded : Call.run database Call.noFaults 0 (checked result script)
      database = (none, after)) :
    ∃ found, result = .ok found ∧
      Call.run database Call.noFaults 0 (script found) database =
        (none, after) := by
  cases result with
  | error error => cases succeeded
  | ok found => exact ⟨found, rfl, succeeded⟩

/-- The rows of the clients that have an e-mail. -/
def createdStats (inboundId : Int) (clients : List Client) :
    List ClientTraffic :=
  (clients.filter (·.email ≠ "")).map (clientStat inboundId)

theorem mem_createdStats {inboundId : Int} {clients : List Client}
    {stat : ClientTraffic} :
    stat ∈ createdStats inboundId clients ↔
      ∃ client ∈ clients, client.email ≠ "" ∧
        clientStat inboundId client = stat := by
  simp [createdStats, and_assoc]

theorem createdStats_emails {inboundId : Int} {clients : List Client} :
    (createdStats inboundId clients).map ClientTraffic.email =
      (clients.map Client.email).filter (· ≠ "") := by
  rw [createdStats, List.filter_map, List.map_map]
  rfl

/-- E-mails that differ in lower case differ. -/
theorem nodup_createdStats {inboundId : Int} {clients : List Client}
    (distinct : (lowerNames (clients.map Client.email)).Nodup) :
    ((createdStats inboundId clients).map ClientTraffic.email).Nodup := by
  rw [createdStats_emails]
  exact List.Nodup.of_map toLower distinct

theorem emails_of_getClients {settings : JsonText} {clients : List Client}
    (found : getClients settings = some clients) :
    emails settings = clients.map Client.email := by
  rw [emails, ← map_limits found, List.map_map]
  rfl

/-- New e-mails that passed the check are in no row. -/
theorem Mirrored.fresh (mirrored : Mirrored agrees database)
    {clients : List Client} {inboundId : Int}
    (checked : checkEmails database.inbounds.view clients = .ok ())
    {stat : ClientTraffic} (member : stat ∈ createdStats inboundId clients) :
    database.traffics.find? stat.email = none := by
  obtain ⟨client, inClients, nonempty, rfl⟩ := mem_createdStats.mp member
  apply mirrored.find?_none
  intro inbound stored
  exact (checkEmails_eq_ok checked).2 inbound.toInbound (mem_view stored) _
    (mem_lowerNames.mpr ⟨client.email, List.mem_map_of_mem inClients, nonempty,
      rfl⟩)

/-- New clients behind those of an inbound, and their rows. -/
theorem Covered.append (follows : Follows agrees) {inboundId : Int}
    {old settings : JsonText} {traffics : Table ClientTraffic.email}
    {clients : List Client} (covered : Covered agrees inboundId old traffics)
    (listed : limits settings = limits old ++ clients.map Client.limits)
    (distinct : (lowerNames (emails settings)).Nodup)
    (fresh : ∀ stat ∈ createdStats inboundId clients,
      traffics.find? stat.email = none) :
    Covered agrees inboundId settings
      ((createdStats inboundId clients).foldl Table.save traffics) := by
  have parts : emails settings = emails old ++ clients.map Client.email := by
    rw [emails, listed, List.map_append, List.map_map]
    rfl
  have own : (lowerNames (clients.map Client.email)).Nodup := by
    rw [parts, lowerNames, List.filter_append, List.map_append,
      List.nodup_append] at distinct
    exact distinct.2.1
  have created := @nodup_createdStats inboundId clients own
  refine ⟨?_, ?_, distinct⟩
  · intro client member nonempty
    rw [listed] at member
    rcases List.mem_append.mp member with member | member
    · obtain ⟨stat, inTable, named, owner, agreed⟩ :=
        covered.row client member nonempty
      refine ⟨stat, (Table.mem_foldl_save created).mpr (.inr ⟨inTable, ?_⟩),
        named, owner, agreed⟩
      intro again
      obtain ⟨other, inCreated, same⟩ := List.mem_map.mp again
      exact Table.find?_eq_none.mp (fresh other inCreated) stat inTable
        same.symm
    · obtain ⟨source, inClients, rfl⟩ := List.mem_map.mp member
      exact ⟨clientStat inboundId source, (Table.mem_foldl_save created).mpr
        (.inl (mem_createdStats.mpr ⟨source, inClients, nonempty, rfl⟩)), rfl,
        rfl, follows.created inboundId source⟩
  · intro stat member owner
    rw [parts]
    rcases (Table.mem_foldl_save created).mp member with inCreated | ⟨inOld, -⟩
    · obtain ⟨source, inClients, -, rfl⟩ := mem_createdStats.mp inCreated
      exact List.mem_append_right _ (List.mem_map_of_mem inClients)
    · exact List.mem_append_left _ (covered.client stat inOld owner)

theorem sameElsewhere_created {inboundId : Int} {clients : List Client}
    {traffics : Table ClientTraffic.email}
    (distinct :
      ((createdStats inboundId clients).map ClientTraffic.email).Nodup)
    (fresh : ∀ stat ∈ createdStats inboundId clients,
      traffics.find? stat.email = none) :
    SameElsewhere inboundId traffics
      ((createdStats inboundId clients).foldl Table.save traffics) := by
  intro stat elsewhere
  rw [Table.mem_foldl_save distinct]
  constructor
  · rintro (created | ⟨old, -⟩)
    · obtain ⟨client, -, -, rfl⟩ := mem_createdStats.mp created
      exact absurd rfl elsewhere
    · exact old
  · intro old
    refine .inr ⟨old, ?_⟩
    intro again
    obtain ⟨other, created, same⟩ := List.mem_map.mp again
    exact Table.find?_eq_none.mp (fresh other created) stat old same.symm

theorem named_created {inboundId : Int} {clients : List Client}
    {traffics : Table ClientTraffic.email}
    (distinct :
      ((createdStats inboundId clients).map ClientTraffic.email).Nodup)
    (named : ∀ stat ∈ traffics, stat.email ≠ "") :
    ∀ stat ∈ (createdStats inboundId clients).foldl Table.save traffics,
      stat.email ≠ "" := by
  intro stat member
  rcases (Table.mem_foldl_save distinct).mp member with created | ⟨old, -⟩
  · obtain ⟨client, -, nonempty, rfl⟩ := mem_createdStats.mp created
    exact nonempty
  · exact named stat old

/-- An inbound gets new clients that passed the check. -/
theorem Mirrored.append (mirrored : Mirrored agrees database)
    (follows : Follows agrees) {saved : StoredInbound} {old : JsonText}
    {clients : List Client} {ips : Table ClientIps.clientEmail}
    (covered : Covered agrees saved.id old database.traffics)
    (apart : ApartFrom database.inbounds saved.id old)
    (within : ∀ name ∈ lowerNames (emails old), ∃ inbound ∈ database.inbounds,
      name ∈ lowerNames (emails inbound.settings))
    (checked : checkEmails database.inbounds.view clients = .ok ())
    (listed :
      limits saved.settings = limits old ++ clients.map Client.limits) :
    Mirrored agrees ⟨database.inbounds.save saved,
      (createdStats saved.id clients).foldl Table.save database.traffics,
      ips⟩ := by
  obtain ⟨distinct, fresh⟩ := checkEmails_eq_ok checked
  have parts : emails saved.settings =
      emails old ++ clients.map Client.email := by
    rw [emails, listed, List.map_append, List.map_map]
    rfl
  have names : lowerNames (emails saved.settings) =
      lowerNames (emails old) ++ lowerNames (clients.map Client.email) := by
    rw [parts, lowerNames, List.filter_append, List.map_append]
    rfl
  have created := @nodup_createdStats saved.id clients distinct
  apply mirrored.save
  · apply covered.append follows listed
    · rw [names, List.nodup_append]
      refine ⟨covered.distinct, distinct, ?_⟩
      rintro name inOld other inNew rfl
      obtain ⟨inbound, stored, listed⟩ := within name inOld
      exact fresh inbound.toInbound (mem_view stored) name inNew listed
    · exact fun stat member => mirrored.fresh checked member
  · intro other stored differs name member
    rw [names] at member
    rcases List.mem_append.mp member with inOld | inNew
    · exact apart other stored differs name inOld
    · exact fresh other.toInbound (mem_view stored) name inNew
  · exact sameElsewhere_created created fun stat member =>
      mirrored.fresh checked member
  · exact named_created created mirrored.named

theorem mem_emails {settings : JsonText} {email : String} :
    email ∈ emails settings ↔
      ∃ client ∈ limits settings, client.email = email := by
  simp [emails]

/-- The names of the clients that are already there are in use. -/
theorem within_self {inbound : StoredInbound}
    (member : inbound ∈ database.inbounds) :
    ∀ name ∈ lowerNames (emails inbound.settings),
      ∃ other ∈ database.inbounds, name ∈ lowerNames (emails other.settings) :=
  fun _ inRow => ⟨inbound, member, inRow⟩

theorem run_addInbound {form : StoredInbound} {added : Checked}
    (everyNamed : ∀ client ∈ added.clients, client.email ≠ "")
    (distinct : (lowerNames (added.clients.map Client.email)).Nodup)
    (fresh : ∀ stat ∈ createdStats added.row.id added.clients,
      database.traffics.find? stat.email = none)
    (ran : Call.run database Call.noFaults 0
      (write .rolledBack (saveWithStats (withInbound form added.row) []) ::
        added.clients.map fun client => write .ignored
          (Database.createStat · (clientStat added.row.id client)))
      database = (none, after)) :
    after = ⟨database.inbounds.save (withInbound form added.row),
      (createdStats added.row.id added.clients).foldl Table.save
        database.traffics, database.ips⟩ := by
  have all : added.clients.filter (·.email ≠ "") = added.clients :=
    List.filter_eq_self.mpr fun client member => by
      simpa using everyNamed client member
  rw [← List.singleton_append, Call.run_append_eq_none] at ran
  obtain ⟨saved, first, created⟩ := ran
  obtain rfl : saved = { database with
      inbounds := database.inbounds.save (withInbound form added.row) } := by
    apply Database.saveInbound_eq_some
    have effect := (Call.run_singleton_eq_none (by simp [write])).mp first
    simpa [write, saveWithStats] using effect
  have run := @run_createStats database { database with
      inbounds := database.inbounds.save (withInbound form added.row) } 1
    .ignored (createdStats added.row.id added.clients)
    (nodup_createdStats distinct) fresh
  rw [createdStats, all, List.map_map] at run
  rw [createdStats, all]
  exact ((Prod.mk.inj (created.symm.trans run)).2)

theorem Mirrored.addInbound (mirrored : Mirrored agrees database)
    (follows : Follows agrees) {form : StoredInbound}
    (named : ∀ email ∈ emails form.settings, email ≠ "")
    (newId : ∀ inbound ∈ database.inbounds, inbound.id ≠
      if form.id = 0 then host.freshId else form.id)
    (succeeded : perform (.addInbound form []) host Call.noFaults database =
      (none, after)) : Mirrored agrees after := by
  obtain ⟨added, accepted, ran⟩ := checked_succeeds succeeded
  have spec := addedInbound_eq_ok accepted
  have listed := emails_of_getClients spec.clients
  have rowId : added.row.id =
      if form.id = 0 then host.freshId else form.id := by rw [spec.row]
  have settings : limits added.row.settings =
      limits .empty ++ added.clients.map Client.limits := by
    rw [spec.row, map_limits spec.clients]
    exact limits_stampAdded spec.clients host.now
  dsimp only at ran
  rw [if_pos rfl] at ran
  obtain rfl := run_addInbound
    (fun client member => named _ (listed ▸ List.mem_map_of_mem member))
    (checkEmails_eq_ok spec.emails).1
    (fun stat member => mirrored.fresh spec.emails member) ran
  have none : lowerNames (emails .empty) = [] := rfl
  refine mirrored.append follows ?_ ?_ ?_ spec.emails settings
  · refine ⟨fun client member => (by cases member), ?_, List.nodup_nil⟩
    intro stat member owner
    obtain ⟨inbound, stored, same⟩ := mirrored.owned stat member
    exact absurd (same.trans (owner.trans rowId)) (newId inbound stored)
  · intro other _ _ name member
    cases member
  · intro name member
    cases member

theorem run_addedClientStats {inboundId : Int} {lacks : Bool}
    {clients : List Client}
    (ran : Call.run initial Call.noFaults number
      (clients.flatMap (addedClientStat inboundId lacks)) database =
        (none, after)) :
    Call.run initial Call.noFaults number
      ((createdStats inboundId clients).map fun row =>
        write .ignored (Database.createStat · row)) database =
          (none, after) := by
  induction clients generalizing number database with
  | nil => exact ran
  | cons client rest induction =>
      rw [List.flatMap_cons, Call.run_append_eq_none] at ran
      obtain ⟨middle, first, later⟩ := ran
      by_cases nameless : client.email = ""
      · have skipped : addedClientStat inboundId lacks client = [] :=
          if_pos nameless
        have others : createdStats inboundId (client :: rest) =
            createdStats inboundId rest := by
          simp [createdStats, nameless]
        rw [skipped] at first later
        rw [others, (Prod.mk.inj first).2]
        exact induction later
      · have others : createdStats inboundId (client :: rest) =
            clientStat inboundId client :: createdStats inboundId rest := by
          simp [createdStats, nameless]
        have single : addedClientStat inboundId lacks client =
            [write .ignored
              (Database.createStat · (clientStat inboundId client))] := by
          unfold addedClientStat at first ⊢
          rw [if_neg nameless] at first ⊢
          split at first
          next panics =>
            rw [← List.singleton_append, Call.run_append_eq_none] at first
            obtain ⟨_, -, failed⟩ := first
            cases failed
          next calm => rw [if_neg calm]
        rw [single] at first later
        rw [others, List.map_cons, ← List.singleton_append,
          Call.run_append_eq_none]
        exact ⟨middle, first, induction later⟩

theorem Mirrored.addInboundClient (mirrored : Mirrored agrees database)
    (follows : Follows agrees) {data : Inbound}
    (succeeded : perform (.addInboundClient data) host Call.noFaults database =
      (none, after)) : Mirrored agrees after := by
  obtain ⟨⟨old, added⟩, accepted, ran⟩ := checked_succeeds succeeded
  obtain ⟨stored, given, spec⟩ := addedClients_eq_ok accepted
  obtain ⟨reached, first, saved⟩ := Call.run_append_eq_none.mp ran
  have created := run_addedClientStats first
  rw [run_createStats (nodup_createdStats (checkEmails_eq_ok spec.emails).1)
    fun stat member => mirrored.fresh spec.emails member] at created
  obtain rfl := (Prod.mk.inj created).2
  obtain rfl := run_saveInbound (by simp) saved
  obtain ⟨row, inTable, rfl⟩ := find?_view_eq_some spec.found
  obtain ⟨member, named⟩ := Table.find?_eq_some.mp inTable
  have listed : limits added.row.settings =
      limits row.settings ++ added.clients.map Client.limits := by
    rw [spec.row, limits, readAll_withClients, List.map_append, List.map_map,
      map_limits spec.clients, limits, limits, readAll_of_array spec.read,
      readAll_of_array spec.given]
    congr 1
    exact List.map_congr_left fun client _ =>
      timeless_limitsOf.stampNewClient host.now client
  have rowId : added.row.id = data.id := by
    rw [spec.row]
    exact named
  have savedRow : changedRow database added.row = withInbound row added.row := by
    rw [changedRow, rowId, inTable]
  rw [savedRow, ← rowId]
  have same : row.id = added.row.id := named.trans rowId.symm
  have covered := mirrored.covered row member
  have apart := mirrored.apart row member
  rw [same] at covered apart
  exact mirrored.append follows covered apart (within_self member) spec.emails
    listed

/-- The clients of the first list whose e-mail is not in the second one. -/
def without (clients others : List Client) : List Client :=
  clients.filter fun client => client.email ∉ others.map Client.email

theorem mem_without {clients others : List Client} {client : Client} :
    client ∈ without clients others ↔
      client ∈ clients ∧ client.email ∉ others.map Client.email := by
  simp [without]

theorem updateClientTraffics_eq {inboundId : Int}
    {oldClients newClients : List Client} :
    updateClientTraffics inboundId oldClients newClients =
      (((without oldClients newClients).map Client.email).map fun email =>
        writeRows .rolledBack (Database.delClientStat · email)) ++
      ((without newClients oldClients).map (clientStat inboundId)).map
        fun row => write .rolledBack (Database.createStat · row) := by
  rw [List.map_map, List.map_map]
  rfl

/-- What the statements on the rows of an updated inbound leave. -/
def updatedStats (inboundId : Int) (oldClients newClients : List Client)
    (traffics : Table ClientTraffic.email) : Table ClientTraffic.email :=
  ((without newClients oldClients).map (clientStat inboundId)).foldl Table.save
    (((without oldClients newClients).map Client.email).foldl Table.delete
      traffics)

theorem run_updateClientTraffics {inboundId : Int}
    {oldClients newClients : List Client}
    (ran : Call.run initial Call.noFaults number
      (updateClientTraffics inboundId oldClients newClients) database =
        (none, after)) :
    after = ⟨database.inbounds,
        updatedStats inboundId oldClients newClients database.traffics,
        database.ips⟩ ∧
      (((without newClients oldClients).map (clientStat inboundId)).map
        ClientTraffic.email).Nodup := by
  rw [updateClientTraffics_eq, Call.run_append_eq_none] at ran
  obtain ⟨middle, first, later⟩ := ran
  rw [run_delClientStats] at first
  obtain rfl := (Prod.mk.inj first).2
  obtain ⟨distinct, fresh⟩ := fresh_of_run_createStats (by simp) later
  rw [run_createStats distinct fresh] at later
  exact ⟨(Prod.mk.inj later).2.symm, distinct⟩

/-- A row stays, is dropped or is new. -/
theorem mem_updatedStats {inboundId : Int} {oldClients newClients : List Client}
    {traffics : Table ClientTraffic.email} {stat : ClientTraffic}
    (distinct : (((without newClients oldClients).map
      (clientStat inboundId)).map ClientTraffic.email).Nodup) :
    stat ∈ updatedStats inboundId oldClients newClients traffics ↔
      (∃ client ∈ newClients, client.email ∉ oldClients.map Client.email ∧
        clientStat inboundId client = stat) ∨
      stat ∈ traffics ∧
        (stat.email ∈ oldClients.map Client.email ↔
          stat.email ∈ newClients.map Client.email) := by
  rw [updatedStats, Table.mem_foldl_save distinct, Table.mem_foldl_delete]
  simp only [List.map_map, Function.comp_def, clientStat, List.mem_map,
    mem_without]
  constructor
  · rintro (⟨client, ⟨member, new⟩, rfl⟩ | ⟨⟨inTable, kept⟩, spared⟩)
    · exact .inl ⟨client, member, by simpa using new, rfl⟩
    · refine .inr ⟨inTable, ?_, ?_⟩
      · rintro ⟨client, member, same⟩
        by_contra missing
        exact kept ⟨client, ⟨member, by simpa [same] using missing⟩, same⟩
      · rintro ⟨client, member, same⟩
        by_contra missing
        exact spared ⟨client, ⟨member, by simpa [same] using missing⟩, same⟩
  · rintro (⟨client, member, new, rfl⟩ | ⟨inTable, both⟩)
    · exact .inl ⟨client, ⟨member, by simpa using new⟩, rfl⟩
    · refine .inr ⟨⟨inTable, ?_⟩, ?_⟩
      · rintro ⟨client, ⟨member, missing⟩, same⟩
        rw [same] at missing
        exact missing (both.mp ⟨client, member, same⟩)
      · rintro ⟨client, ⟨member, missing⟩, same⟩
        rw [same] at missing
        exact missing (both.mpr ⟨client, member, same⟩)

/-- The e-mails of a form that replaces an inbound. -/
structure UpdateFits (database : Database) (inboundId : Int)
    (old settings : JsonText) : Prop where
  distinct : (lowerNames (emails settings)).Nodup
  apart : ApartFrom database.inbounds inboundId settings
  named : "" ∈ emails settings → "" ∈ emails old

/-- A client that stays with an inbound still goes with its row. -/
def KeptFits (agrees : Limits → ClientTraffic → Prop)
    (old settings : JsonText) : Prop :=
  ∀ client ∈ limits settings, ∀ previous ∈ limits old,
    previous.email = client.email →
      ∀ stat, agrees previous stat → agrees client stat

theorem Mirrored.updateInbound (mirrored : Mirrored agrees database)
    (follows : Follows agrees) {form : StoredInbound}
    (fits : ∀ old, database.inbounds.find? form.id = some old →
      UpdateFits database form.id old.settings form.settings ∧
        KeptFits agrees old.settings form.settings)
    (succeeded : perform (.updateInbound form) host Call.noFaults database =
      (none, after)) : Mirrored agrees after := by
  obtain ⟨updated, accepted, ran⟩ := checked_succeeds succeeded
  obtain ⟨old, spec⟩ := updatedInbound_eq_ok accepted
  obtain ⟨row, inTable, rfl⟩ := find?_view_eq_some spec.found
  obtain ⟨member, sameId⟩ := Table.find?_eq_some.mp inTable
  obtain ⟨fits, kept⟩ := fits row inTable
  obtain ⟨reached, stats, saved⟩ := Call.run_append_eq_none.mp ran
  have rowId : updated.row.id = form.id := by
    rw [spec.row]
    exact sameId
  rw [rowId] at stats
  obtain ⟨rfl, distinct⟩ := run_updateClientTraffics stats
  obtain rfl := run_saveInbound (by simp) saved
  have listed : limits updated.row.settings = limits form.settings := by
    rw [spec.row]
    exact timeless_limitsOf.stampUpdated _ _ _
  have covered := mirrored.covered row member
  rw [show row.id = form.id from sameId] at covered
  have oldEmails := emails_of_getClients spec.oldClients
  have newEmails := emails_of_getClients spec.newClients
  have changed : (changedRow database updated.row).id = form.id ∧
      (changedRow database updated.row).settings = updated.row.settings := by
    rw [changedRow, rowId, inTable]
    exact ⟨rowId, rfl⟩
  have savedLimits : limits (changedRow database updated.row).settings =
      limits form.settings := by rw [changed.2, listed]
  have savedEmails : emails (changedRow database updated.row).settings =
      emails form.settings := by rw [emails, savedLimits, emails]
  -- the row of a client that is there before and after is the old one
  have ownRow : ∀ stat ∈ database.traffics,
      stat.email ∈ emails row.settings → stat.inboundId = form.id := by
    intro stat inStats listedOld
    obtain ⟨client, inLimits, same⟩ := mem_emails.mp listedOld
    obtain ⟨other, otherIn, otherNamed, owner, -⟩ := covered.row client inLimits
      (same ▸ mirrored.named stat inStats)
    rwa [Table.eq_of_key_eq inStats otherIn (same.symm.trans otherNamed.symm)]
  apply mirrored.save
  · rw [changed.1]
    refine ⟨?_, ?_, ?_⟩
    · rw [savedLimits]
      intro client inNew nonempty
      by_cases inOld : client.email ∈ emails row.settings
      · obtain ⟨previous, inLimits, same⟩ := mem_emails.mp inOld
        obtain ⟨stat, inStats, statNamed, owner, agreed⟩ :=
          covered.row previous inLimits (same ▸ nonempty)
        refine ⟨stat, (mem_updatedStats distinct).mpr (.inr ⟨inStats, ?_⟩),
          statNamed.trans same, owner,
          kept client inNew previous inLimits same stat agreed⟩
        rw [statNamed.trans same, ← oldEmails, ← newEmails]
        exact iff_of_true inOld (List.mem_map_of_mem inNew)
      · rw [← map_limits spec.newClients] at inNew
        obtain ⟨source, inClients, rfl⟩ := List.mem_map.mp inNew
        exact ⟨clientStat form.id source, (mem_updatedStats distinct).mpr
          (.inl ⟨source, inClients, oldEmails ▸ inOld, rfl⟩), rfl, rfl,
          follows.created form.id source⟩
    · rw [savedEmails]
      intro stat inStats owner
      rcases (mem_updatedStats distinct).mp inStats with
        ⟨source, inClients, -, rfl⟩ | ⟨inOld, both⟩
      · rw [newEmails]
        exact List.mem_map_of_mem inClients
      · rw [← oldEmails, ← newEmails] at both
        exact both.mp (covered.client stat inOld owner)
    · rw [savedEmails]
      exact fits.distinct
  · rw [changed.1]
    intro other stored differs name inNames
    rw [savedEmails] at inNames
    exact fits.apart other stored differs name inNames
  · rw [changed.1]
    intro stat elsewhere
    rw [mem_updatedStats distinct]
    constructor
    · rintro (⟨source, -, -, rfl⟩ | ⟨inOld, -⟩)
      · exact absurd rfl elsewhere
      · exact inOld
    · intro inStats
      refine .inr ⟨inStats, ?_⟩
      rw [← oldEmails, ← newEmails]
      refine iff_of_false ?_ ?_
      · exact fun listedOld => elsewhere (ownRow stat inStats listedOld)
      · intro listedNew
        obtain ⟨owner, stored, same⟩ := mirrored.owned stat inStats
        have nonempty := mirrored.named stat inStats
        exact fits.apart owner stored (same ▸ elsewhere) _
          (mem_lowerNames.mpr ⟨stat.email, listedNew, nonempty, rfl⟩)
          (mem_lowerNames.mpr ⟨stat.email, (mirrored.covered owner
            stored).client stat inStats same.symm, nonempty, rfl⟩)
  · intro stat inStats
    rcases (mem_updatedStats distinct).mp inStats with
      ⟨source, inClients, new, rfl⟩ | ⟨inOld, -⟩
    · intro nameless
      apply new
      have old := fits.named (newEmails ▸ List.mem_map.mpr
        ⟨source, inClients, nameless⟩)
      rw [oldEmails] at old
      rwa [show source.email = "" from nameless]
    · exact mirrored.named stat inOld

theorem Mirrored.delete (mirrored : Mirrored agrees database) {id : Int}
    {ips : Table ClientIps.clientEmail} :
    Mirrored agrees ⟨database.inbounds.delete id,
      database.traffics.filter (·.inboundId ≠ id), ips⟩ where
  covered := by
    intro inbound member
    obtain ⟨stored, differs⟩ := Table.mem_delete.mp member
    refine (mirrored.covered inbound stored).elsewhere ?_ differs
    intro stat elsewhere
    rw [Table.mem_filter]
    exact and_iff_left (by simpa using elsewhere)
  apart := by
    intro inbound member other otherMember
    exact mirrored.apart inbound (Table.mem_delete.mp member).1 other
      (Table.mem_delete.mp otherMember).1
  owned := by
    intro stat member
    obtain ⟨inTable, kept⟩ := Table.mem_filter.mp member
    obtain ⟨inbound, stored, owner⟩ := mirrored.owned stat inTable
    exact ⟨inbound, Table.mem_delete.mpr ⟨stored, by
      rw [owner]
      simpa using kept⟩, owner⟩
  named := fun stat member =>
    mirrored.named stat (Table.mem_filter.mp member).1

theorem run_delInbound {id : Int} {row : StoredInbound} {clients : List Client}
    (stored : database.inbounds.find? id = some row)
    (read : getClients row.settings = some clients) :
    ∃ ips, Call.run database Call.noFaults 0 (Store.delInbound id database)
        database =
      (none, ⟨database.inbounds.delete id,
        database.traffics.filter (·.inboundId ≠ id), ips⟩) := by
  have script : Store.delInbound id database =
      writeRows .kept (Database.deleteStatsOf · id) ::
        (((clients.map Client.email).map fun email =>
            writeRows .kept (Database.delClientIPs · email)) ++
          [writeRows .kept (Database.deleteInbound · id)]) := by
    unfold Store.delInbound
    rw [stored]
    dsimp only
    rw [read, List.map_map]
    rfl
  refine ⟨(clients.map Client.email).foldl Table.delete database.ips, ?_⟩
  rw [script, Call.run_cons_eq_none (by simp [writeRows, write])]
  refine ⟨_, rfl, ?_⟩
  rw [Call.run_append_eq_none]
  exact ⟨_, run_delClientIPs, rfl⟩

theorem Mirrored.delInbound (mirrored : Mirrored agrees database) {id : Int}
    (succeeded : perform (.delInbound id) host Call.noFaults database =
      (none, after)) : Mirrored agrees after := by
  have ran : Call.run database Call.noFaults 0 (Store.delInbound id database)
    database = (none, after) := succeeded
  cases stored : database.inbounds.find? id with
  | none =>
      unfold Store.delInbound at ran
      rw [stored] at ran
      cases ran
  | some row =>
      cases read : getClients row.settings with
      | none =>
          unfold Store.delInbound at ran
          rw [stored] at ran
          dsimp only at ran
          rw [read] at ran
          cases ran
      | some clients =>
          obtain ⟨ips, done⟩ := run_delInbound stored read
          obtain rfl := (Prod.mk.inj (done.symm.trans ran)).2
          exact mirrored.delete

theorem lowerNames_append {first second : List String} :
    lowerNames (first ++ second) = lowerNames first ++ lowerNames second := by
  simp [lowerNames]

theorem lowerNames_cons {email : String} {rest : List String} :
    lowerNames (email :: rest) =
      (if email = "" then [] else [toLower email]) ++ lowerNames rest := by
  by_cases empty : email = "" <;> simp [lowerNames, empty]

/-- A client gives way to another one, whose e-mail is its own, none or new. -/
structure Replaces (database : Database) (row : StoredInbound)
    (settings : JsonText) (before after : List Limits)
    (previous next : Limits) : Prop where
  old : limits row.settings = before ++ previous :: after
  new : limits settings = before ++ next :: after
  email : next.email = "" ∨ next.email = previous.email ∨
    ∀ inbound ∈ database.inbounds,
      toLower next.email ∉ lowerNames (emails inbound.settings)

theorem Replaces.subset {row : StoredInbound} {settings : JsonText}
    {before after : List Limits} {previous next : Limits}
    (replaces : Replaces database row settings before after previous next)
    {name : String} (member : name ∈ lowerNames (emails settings)) :
    name ∈ lowerNames (emails row.settings) ∨
      next.email ≠ "" ∧ next.email ≠ previous.email ∧
        name = toLower next.email := by
  obtain ⟨email, listed, nonempty, rfl⟩ := mem_lowerNames.mp member
  obtain ⟨client, inNew, rfl⟩ := mem_emails.mp listed
  rw [replaces.new] at inNew
  have kept : ∀ other ∈ limits row.settings, other.email = client.email →
      toLower client.email ∈ lowerNames (emails row.settings) := by
    intro other inOld same
    exact mem_lowerNames.mpr ⟨client.email,
      mem_emails.mpr ⟨other, inOld, same⟩, nonempty, rfl⟩
  rcases List.mem_append.mp inNew with inBefore | inRest
  · exact .inl (kept client (by simp [replaces.old, inBefore]) rfl)
  · rcases List.mem_cons.mp inRest with rfl | inAfter
    · by_cases same : client.email = previous.email
      · exact .inl (kept previous (by simp [replaces.old]) same.symm)
      · exact .inr ⟨nonempty, same, rfl⟩
    · exact .inl (kept client (by simp [replaces.old, inAfter]) rfl)

theorem Replaces.distinct {row : StoredInbound} {settings : JsonText}
    {before after : List Limits} {previous next : Limits}
    (replaces : Replaces database row settings before after previous next)
    (stored : row ∈ database.inbounds)
    (distinct : (lowerNames (emails row.settings)).Nodup) :
    (lowerNames (emails settings)).Nodup := by
  have free := replaces.email
  have rest : ∀ name ∈ lowerNames (before.map Limits.email) ++
      lowerNames (after.map Limits.email),
        name ∈ lowerNames (emails row.settings) := by
    intro name member
    rw [emails, replaces.old, List.map_append, List.map_cons,
      lowerNames_append, lowerNames_cons]
    simp only [List.mem_append] at member ⊢
    tauto
  have others : (lowerNames (before.map Limits.email) ++
      lowerNames (after.map Limits.email)).Nodup := by
    refine distinct.sublist ?_
    rw [emails, replaces.old, List.map_append, List.map_cons,
      lowerNames_append, lowerNames_cons]
    exact (List.sublist_append_right _ _).append_left _
  rw [emails, replaces.new, List.map_append, List.map_cons, lowerNames_append,
    lowerNames_cons]
  by_cases nameless : next.email = ""
  · rw [if_pos nameless]
    exact others
  · rw [if_neg nameless]
    rcases free with empty | same | fresh
    · exact absurd empty nameless
    · rw [emails, replaces.old, List.map_append, List.map_cons,
        lowerNames_append, lowerNames_cons, ← same, if_neg nameless] at distinct
      exact distinct
    · apply List.nodup_middle.mpr
      exact List.nodup_cons.mpr
        ⟨fun again => fresh row stored (rest _ again), others⟩

/-- The other clients of the inbound have other e-mails. -/
theorem Replaces.others {row : StoredInbound} {settings : JsonText}
    {before after : List Limits} {previous next : Limits}
    (replaces : Replaces database row settings before after previous next)
    (distinct : (lowerNames (emails row.settings)).Nodup) {client : Limits}
    (member : client ∈ before ∨ client ∈ after) (nonempty : client.email ≠ "") :
    client.email ≠ previous.email := by
  intro same
  rw [emails, replaces.old, List.map_append, List.map_cons, lowerNames_append,
    lowerNames_cons, ← same, if_neg nonempty] at distinct
  have parts := List.nodup_cons.mp (List.nodup_middle.mp distinct)
  apply parts.1
  rcases member with inBefore | inAfter
  · exact List.mem_append_left _ (mem_lowerNames.mpr
      ⟨client.email, List.mem_map_of_mem inBefore, nonempty, rfl⟩)
  · exact List.mem_append_right _ (mem_lowerNames.mpr
      ⟨client.email, List.mem_map_of_mem inAfter, nonempty, rfl⟩)

theorem Mirrored.replace (mirrored : Mirrored agrees database)
    {row saved : StoredInbound} {before after : List Limits}
    {previous next : Limits} {stat : ClientTraffic}
    {traffics : Table ClientTraffic.email} {ips : Table ClientIps.clientEmail}
    (stored : row ∈ database.inbounds) (sameId : saved.id = row.id)
    (replaces : Replaces database row saved.settings before after previous next)
    (rows : ∀ other, other ∈ traffics ↔
      next.email ≠ "" ∧ other = stat ∨
        other ∈ database.traffics ∧ other.email ≠ previous.email)
    (statEmail : stat.email = next.email) (statOwner : stat.inboundId = row.id)
    (agreed : agrees next stat) :
    Mirrored agrees ⟨database.inbounds.save saved, traffics, ips⟩ := by
  have covered := mirrored.covered row stored
  -- the row of the replaced client is a row of this inbound
  have ownRow : ∀ other ∈ database.traffics, other.email = previous.email →
      other.inboundId = row.id := by
    intro other inTable same
    obtain ⟨found, inStats, named, owner, -⟩ := covered.row previous
      (by simp [replaces.old]) (same ▸ mirrored.named other inTable)
    rwa [Table.eq_of_key_eq inTable inStats (same.trans named.symm)]
  apply mirrored.save
  · rw [sameId]
    refine ⟨?_, ?_, replaces.distinct stored covered.distinct⟩
    · intro client member nonempty
      rw [replaces.new] at member
      have keeps : client ∈ before ∨ client ∈ after →
          ∃ other ∈ traffics, other.email = client.email ∧
            other.inboundId = row.id ∧ agrees client other := by
        intro apart
        obtain ⟨other, inStats, named, owner, good⟩ := covered.row client
          (by rw [replaces.old]; simp only [List.mem_append, List.mem_cons]
              tauto) nonempty
        refine ⟨other, (rows other).mpr (.inr ⟨inStats, ?_⟩), named, owner,
          good⟩
        rw [named]
        exact replaces.others covered.distinct apart nonempty
      rcases List.mem_append.mp member with inBefore | inRest
      · exact keeps (.inl inBefore)
      · rcases List.mem_cons.mp inRest with rfl | inAfter
        · exact ⟨stat, (rows stat).mpr (.inl ⟨nonempty, rfl⟩), statEmail,
            statOwner, agreed⟩
        · exact keeps (.inr inAfter)
    · intro other inTraffics owner
      rcases (rows other).mp inTraffics with ⟨-, rfl⟩ | ⟨inStats, differs⟩
      · rw [statEmail]
        exact mem_emails.mpr ⟨next, by simp [replaces.new], rfl⟩
      · obtain ⟨client, inOld, same⟩ :=
          mem_emails.mp (covered.client other inStats owner)
        rw [replaces.old] at inOld
        refine mem_emails.mpr ⟨client, ?_, same⟩
        rw [replaces.new]
        simp only [List.mem_append, List.mem_cons] at inOld ⊢
        rcases inOld with inBefore | rfl | inAfter
        · exact .inl inBefore
        · exact absurd same.symm differs
        · exact .inr (.inr inAfter)
  · intro other inTable differs name member
    rw [sameId] at differs
    rcases replaces.subset member with old | ⟨nonempty, new, rfl⟩
    · exact mirrored.apart row stored other inTable differs name old
    · rcases replaces.email with empty | same | fresh
      · exact absurd empty nonempty
      · exact absurd same new
      · exact fresh other inTable
  · rw [sameId]
    intro other elsewhere
    rw [rows]
    constructor
    · rintro (⟨-, rfl⟩ | ⟨inStats, -⟩)
      · exact absurd statOwner elsewhere
      · exact inStats
    · intro inStats
      exact .inr ⟨inStats, fun same => elsewhere (ownRow other inStats same)⟩
  · intro other inTraffics
    rcases (rows other).mp inTraffics with ⟨nonempty, rfl⟩ | ⟨inStats, -⟩
    · rwa [statEmail]
    · exact mirrored.named other inStats

/-- What the statements of a replaced client have left, where they
succeeded. -/
theorem run_replacedStats (mirrored : Mirrored agrees database)
    {inboundId : Int} {replacement : Replacement}
    (fresh : replacement.client.email ≠ "" →
      replacement.client.email ≠ replacement.oldEmail →
        database.traffics.find? replacement.client.email = none)
    (owned : replacement.oldEmail ≠ "" →
      ∃ old, database.traffics.find? replacement.oldEmail = some old ∧
        old.inboundId = inboundId)
    (ran : Call.run initial Call.noFaults number
      (replacedStats inboundId replacement) database = (none, after)) :
    ∃ stat, stat.email = replacement.client.email ∧
      stat.inboundId = inboundId ∧
      (stat = clientStat inboundId replacement.client ∨
        ∃ old, stat = updateClientStat replacement.client old) ∧
      after.inbounds = database.inbounds ∧
      ∀ other, other ∈ after.traffics ↔
        replacement.client.email ≠ "" ∧ other = stat ∨
          other ∈ database.traffics ∧
            other.email ≠ replacement.oldEmail := by
  have unnamed : ∀ other ∈ database.traffics, other.email ≠ "" :=
    mirrored.named
  unfold replacedStats at ran
  dsimp only at ran
  split at ran
  next nonempty =>
    split at ran
    next oldNamed =>
      obtain ⟨old, found, owner⟩ := owned oldNamed
      rw [← List.singleton_append, Call.run_append_eq_none] at ran
      obtain ⟨middle, first, second⟩ := ran
      have updated :=
        (Call.run_singleton_eq_none (by simp [write])).mp first
      have moved := (Call.run_singleton_eq_none (by simp [write])).mp second
      refine ⟨updateClientStat replacement.client old, rfl, owner,
        .inr ⟨old, rfl⟩, ?_, ?_⟩
      · rw [(updateClientIPs_others moved).1, updateStat_inbounds updated]
      · intro other
        rw [(updateClientIPs_others moved).2]
        simp only [write, Database.updateStat, found] at updated
        rw [Option.ite_none_left_eq_some] at updated
        rw [← Option.some.inj updated.2, Table.mem_save, Table.mem_delete]
        constructor
        · rintro (rfl | ⟨⟨inTable, differs⟩, -⟩)
          · exact .inl ⟨nonempty, rfl⟩
          · exact .inr ⟨inTable, differs⟩
        · rintro (⟨-, rfl⟩ | ⟨inTable, differs⟩)
          · exact .inl rfl
          · refine .inr ⟨⟨inTable, differs⟩, ?_⟩
            intro same
            have new := fresh nonempty
              (fun old => differs (same.trans old))
            exact Table.find?_eq_none.mp new other inTable same
    next oldNamed =>
      have oldEmpty : replacement.oldEmail = "" := not_not.mp oldNamed
      have new := fresh nonempty (by rwa [oldEmpty])
      have created : database.createStat
          (clientStat inboundId replacement.client) = some _ :=
        Database.createStat_eq_some.mpr ⟨new, rfl⟩
      simp only [Call.run, Call.attempt_noFaults, write, created,
        Prod.mk.injEq, true_and] at ran
      subst ran
      refine ⟨clientStat inboundId replacement.client, rfl, rfl, .inl rfl, rfl,
        ?_⟩
      intro other
      simp only [Table.mem_save]
      constructor
      · rintro (rfl | ⟨inTable, -⟩)
        · exact .inl ⟨nonempty, rfl⟩
        · exact .inr ⟨inTable, by rw [oldEmpty]; exact unnamed other inTable⟩
      · rintro (⟨-, rfl⟩ | ⟨inTable, -⟩)
        · exact .inl rfl
        · exact .inr ⟨inTable, Table.find?_eq_none.mp new other inTable⟩
  next empty =>
    rw [← List.singleton_append, Call.run_append_eq_none] at ran
    obtain ⟨middle, first, second⟩ := ran
    obtain rfl := Option.some.inj
      ((Call.run_singleton_eq_none (by simp [writeRows, write])).mp first)
    obtain rfl := Option.some.inj
      ((Call.run_singleton_eq_none (by simp [writeRows, write])).mp second)
    refine ⟨clientStat inboundId replacement.client, rfl, rfl, .inl rfl, rfl,
      ?_⟩
    intro other
    refine Table.mem_delete.trans ?_
    simp [empty]

theorem set_eq_around {Item : Type} {items : List Item} {index : Nat}
    {item : Item} (found : items[index]? = some item) (value : Item) :
    items = items.take index ++ item :: items.drop (index + 1) ∧
      items.set index value =
        items.take index ++ value :: items.drop (index + 1) := by
  obtain ⟨inside, rfl⟩ := List.getElem?_eq_some_iff.mp found
  constructor
  · rw [← List.drop_eq_getElem_cons inside, List.take_append_drop]
  · rw [List.set_eq_take_append_cons_drop, if_pos inside]

theorem Mirrored.updateInboundClient (mirrored : Mirrored agrees database)
    (follows : Follows agrees) {data : Inbound} {clientId : String}
    (succeeded : perform (.updateInboundClient data clientId) host
      Call.noFaults database = (none, after)) : Mirrored agrees after := by
  obtain ⟨replacement, accepted, ran⟩ := checked_succeeds succeeded
  obtain ⟨oldClients, rest, stored, others, item, index, spec⟩ :=
    updatedClient_eq_ok accepted
  obtain ⟨row, inTable, sameRow⟩ := find?_view_eq_some spec.found
  obtain ⟨member, sameId⟩ := Table.find?_eq_some.mp inTable
  obtain ⟨-, reached, stats, saved⟩ := run_guarded_save ran
  obtain rfl := Database.saveInbound_eq_some saved
  -- the old client at the index
  obtain ⟨inside, -, -⟩ := List.findIdx?_eq_some_iff_getElem.mp spec.placed
  have oldClient : replacement.oldClient = some oldClients[index] := by
    rw [spec.oldClient, List.getElem?_eq_getElem inside]
  have oldLimits : limits row.settings = oldClients.map Client.limits := by
    rw [map_limits spec.oldRead, ← sameRow]
  have previous : (limits row.settings)[index]? =
      some oldClients[index].limits := by
    rw [oldLimits, List.getElem?_map, List.getElem?_eq_getElem inside]
    rfl
  have oldEmail : replacement.oldEmail = oldClients[index].limits.email := by
    rw [Replacement.oldEmail, oldClient]
    rfl
  -- the new client is the first one of the form
  have newLimits : limitsOf item = replacement.client.limits := by
    have given := map_limits spec.clients
    rw [limits, readAll_of_array spec.given] at given
    exact (List.cons.inj given).1.symm
  have savedLimits : limits replacement.row.settings =
      (limits row.settings).set index replacement.client.limits := by
    have read : row.settings.fields.get "clients" = .arr stored := by
      rw [show row.settings = replacement.old.settings by rw [← sameRow]]
      exact spec.read
    rw [spec.row, limits, readAll_withClients, List.map_set,
      timeless_limitsOf.stampReplacing, newLimits, limits,
      readAll_of_array read]
  obtain ⟨split, replaced⟩ :=
    set_eq_around previous replacement.client.limits
  have fresh : replacement.client.email ≠ "" →
      replacement.client.email ≠ replacement.oldEmail →
        ∀ inbound ∈ database.inbounds, toLower replacement.client.email ∉
          lowerNames (emails inbound.settings) := by
    intro nonempty differs inbound inInbounds
    exact (checkEmails_eq_ok (spec.emails nonempty differs)).2
      inbound.toInbound (mem_view inInbounds) _
      (mem_lowerNames.mpr ⟨_, List.mem_cons_self, nonempty, rfl⟩)
  obtain ⟨stat, statEmail, statOwner, made, sameInbounds, rows⟩ :=
    run_replacedStats mirrored
      (fun nonempty differs => mirrored.find?_none (fresh nonempty differs))
      (fun oldNamed => by
        obtain ⟨old, found, owner, -⟩ := mirrored.find? member
          (List.mem_of_getElem? previous) (oldEmail ▸ oldNamed)
        exact ⟨old, oldEmail ▸ found, owner.trans sameId⟩) stats
  have savedRow : changedRow database replacement.row =
      withInbound row replacement.row := by
    have rowId : replacement.row.id = data.id := by
      rw [spec.row]
      exact (congrArg Inbound.id sameRow).symm.trans sameId
    rw [changedRow, rowId, inTable]
  have savedId : (withInbound row replacement.row).id = row.id := by
    change replacement.row.id = row.id
    rw [spec.row, ← sameRow]
    rfl
  rw [savedRow, sameInbounds]
  refine mirrored.replace member savedId
    ⟨split, savedLimits.trans replaced, ?_⟩ ?_ statEmail
    (statOwner.trans sameId.symm) ?_
  · by_cases empty : replacement.client.email = ""
    · exact .inl empty
    · by_cases same : replacement.client.email = replacement.oldEmail
      · exact .inr (.inl (same.trans oldEmail))
      · exact .inr (.inr (fresh empty same))
  · rw [← oldEmail]
    exact rows
  · rcases made with rfl | ⟨old, rfl⟩
    · exact follows.created _ _
    · exact follows.updated _ _

end Requests

end VpnUi.Store
