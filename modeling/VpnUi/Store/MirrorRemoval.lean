import VpnUi.Store.MirrorSteps

namespace VpnUi.Store

open Foundation Panel

/-! The requests that drop clients from an inbound. -/

variable {agrees : Limits → ClientTraffic → Prop}
  {initial database after : Database} {number : Nat} {host : PanelHost}

theorem lowerNames_sublist {first second : List String}
    (sublist : first.Sublist second) :
    (lowerNames first).Sublist (lowerNames second) :=
  (sublist.filter _).map _

/-- Some clients of an inbound are dropped, and exactly their rows. -/
theorem Mirrored.remove (mirrored : Mirrored agrees database)
    {row saved : StoredInbound} {traffics : Table ClientTraffic.email}
    {ips : Table ClientIps.clientEmail} (stored : row ∈ database.inbounds)
    (sameId : saved.id = row.id)
    (fewer : (limits saved.settings).Sublist (limits row.settings))
    (rows : ∀ other, other ∈ traffics ↔ other ∈ database.traffics ∧
      (other.inboundId = row.id → other.email ∈ emails saved.settings)) :
    Mirrored agrees ⟨database.inbounds.save saved, traffics, ips⟩ := by
  have covered := mirrored.covered row stored
  have names : (lowerNames (emails saved.settings)).Sublist
      (lowerNames (emails row.settings)) :=
    lowerNames_sublist (fewer.map Limits.email)
  apply mirrored.save
  · rw [sameId]
    refine ⟨?_, ?_, covered.distinct.sublist names⟩
    · intro client member nonempty
      obtain ⟨stat, inTable, named, owner, agreed⟩ :=
        covered.row client (fewer.subset member) nonempty
      refine ⟨stat, (rows stat).mpr ⟨inTable, fun _ => ?_⟩, named, owner,
        agreed⟩
      exact mem_emails.mpr ⟨client, member, named.symm⟩
    · intro stat member owner
      exact ((rows stat).mp member).2 owner
  · rw [sameId]
    intro other inTable differs name member
    exact mirrored.apart row stored other inTable differs name
      (names.subset member)
  · rw [sameId]
    intro stat elsewhere
    rw [rows]
    exact and_iff_left fun owner => absurd owner elsewhere
  · exact fun stat member => mirrored.named stat ((rows stat).mp member).1

theorem limits_clientItems {row : StoredInbound} :
    limits row.settings = (clientItems row).map limitsOf := by
  unfold limits readAll clientItems
  cases JsonObject.get row.settings.fields "clients" <;> rfl

/-- Among the clients of an inbound an e-mail belongs to one. -/
theorem unique_item {row : StoredInbound}
    (distinct : (lowerNames (emails row.settings)).Nodup) {item other : Json}
    (member : item ∈ clientItems row) (otherMember : other ∈ clientItems row)
    (same : (limitsOf item).email = (limitsOf other).email)
    (nonempty : (limitsOf item).email ≠ "") : item = other := by
  rw [emails, limits_clientItems, List.map_map, lowerNames,
    List.filter_map, List.map_map] at distinct
  refine List.inj_on_of_nodup_map distinct ?_ ?_ ?_
  · exact List.mem_filter.mpr ⟨member, by simpa using nonempty⟩
  · exact List.mem_filter.mpr ⟨otherMember, by simpa [← same] using nonempty⟩
  · simp [same]

theorem clientEmail_eq (item : Json) :
    clientEmail item = (limitsOf item).email := by
  cases item with
  | obj fields =>
      have text : (limitsOf (.obj fields)).email =
          (JsonObject.get fields "email").text.value := rfl
      rw [text, clientEmail]
      cases JsonObject.get fields "email" <;> rfl
  | _ => rfl

theorem itemEmail_eq (item : Json) : itemEmail item = (limitsOf item).email := by
  cases item with
  | obj fields =>
      have text : (limitsOf (.obj fields)).email =
          (JsonObject.get fields "email").text.value := rfl
      rw [text, itemEmail, emailOf]
      cases JsonObject.get fields "email" <;> rfl
  | _ => rfl

/-- The row of an e-mail that a client of this inbound has. -/
theorem Mirrored.owner (mirrored : Mirrored agrees database)
    {row : StoredInbound} (stored : row ∈ database.inbounds)
    {stat : ClientTraffic} (member : stat ∈ database.traffics)
    (listed : stat.email ∈ emails row.settings) : stat.inboundId = row.id := by
  obtain ⟨client, inLimits, same⟩ := mem_emails.mp listed
  obtain ⟨other, otherIn, named, owner, -⟩ :=
    (mirrored.covered row stored).row client inLimits
      (same ▸ mirrored.named stat member)
  rwa [Table.eq_of_key_eq member otherIn (same.symm.trans named.symm)]

/-- The client that is dropped last is the only dropped one with an e-mail. -/
def DropsOne (database : Database) (id : Int) (clientId : String) : Prop :=
  ∀ row, database.inbounds.find? id = some row →
    ∀ item ∈ (clientItems row).filter fun item =>
        keyText (clientKeyName row.protocol) item = some clientId,
      clientEmail item = "" ∨
        (((clientItems row).filter fun item =>
          keyText (clientKeyName row.protocol) item =
            some clientId).getLast?.map clientEmail) = some (clientEmail item)

/-- Some items of an inbound are not kept, and the rows with their e-mails
go. -/
structure Drops (row : StoredInbound) (settings : JsonText)
    (before after : Table ClientTraffic.email) (keeps : Json → Bool)
    (deleted : List String) : Prop where
  kept : limits settings = ((clientItems row).filter keeps).map limitsOf
  rows : ∀ other, other ∈ after ↔ other ∈ before ∧ other.email ∉ deleted
  dropped : ∀ item ∈ clientItems row, keeps item = false →
    (limitsOf item).email ≠ "" → (limitsOf item).email ∈ deleted
  only : ∀ email ∈ deleted, email ≠ "" →
    ∃ item ∈ clientItems row, keeps item = false ∧ (limitsOf item).email = email

theorem mem_emails_clientItems {row : StoredInbound} {email : String} :
    email ∈ emails row.settings ↔
      ∃ item ∈ clientItems row, (limitsOf item).email = email := by
  simp [mem_emails, limits_clientItems]

theorem Mirrored.drop (mirrored : Mirrored agrees database)
    {row saved : StoredInbound} {traffics : Table ClientTraffic.email}
    {ips : Table ClientIps.clientEmail} {keeps : Json → Bool}
    {deleted : List String} (stored : row ∈ database.inbounds)
    (sameId : saved.id = row.id)
    (drops : Drops row saved.settings database.traffics traffics keeps
      deleted) :
    Mirrored agrees ⟨database.inbounds.save saved, traffics, ips⟩ := by
  have covered := mirrored.covered row stored
  have kept : ∀ email, email ∈ emails saved.settings ↔
      ∃ item ∈ clientItems row, keeps item = true ∧
        (limitsOf item).email = email := by
    intro email
    simp [mem_emails, drops.kept, and_assoc]
  apply mirrored.remove stored sameId
  · rw [drops.kept, limits_clientItems]
    exact List.filter_sublist.map limitsOf
  · intro other
    rw [drops.rows, and_congr_right_iff]
    intro inTable
    have nonempty := mirrored.named other inTable
    constructor
    · intro spared owner
      obtain ⟨item, member, named⟩ := mem_emails_clientItems.mp
        (covered.client other inTable owner)
      cases keptItem : keeps item with
      | true => exact (kept other.email).mpr ⟨item, member, keptItem, named⟩
      | false =>
          have gone := drops.dropped item member keptItem (named ▸ nonempty)
          exact absurd (named ▸ gone) spared
    · intro listed gone
      obtain ⟨item, member, droppedItem, named⟩ :=
        drops.only other.email gone nonempty
      have owner := mirrored.owner stored inTable
        (mem_emails_clientItems.mpr ⟨item, member, named⟩)
      obtain ⟨twin, twinMember, keptTwin, twinNamed⟩ :=
        (kept other.email).mp (listed owner)
      have same := unique_item covered.distinct member twinMember
        (named.trans twinNamed.symm) (named ▸ nonempty)
      rw [same, keptTwin] at droppedItem
      cases droppedItem

theorem clientItems_of_array {row : StoredInbound} {items : List Json}
    (read : row.settings.fields.get "clients" = .arr items) :
    clientItems row = items := by
  rw [clientItems, read]

theorem keyText_email {item : Json} {email : String}
    (found : keyText "email" item = some email) :
    (limitsOf item).email = email := by
  cases item with
  | obj fields =>
      have text : (limitsOf (.obj fields)).email =
          (JsonObject.get fields "email").text.value := rfl
      rw [text]
      simp only [keyText] at found
      generalize JsonObject.get fields "email" = value at found ⊢
      cases value with
      | str name => exact Option.some.inj found
      | _ => cases found
  | _ => cases found

/-- The statement that deletes the row of a dropped client. -/
theorem mem_deletedUnless {traffics : Table ClientTraffic.email}
    (named : ∀ stat ∈ traffics, stat.email ≠ "") {email : String}
    {other : ClientTraffic} :
    other ∈ (if email = "" then traffics else traffics.delete email) ↔
      other ∈ traffics ∧ other.email ∉ [email] := by
  rw [List.mem_singleton]
  split
  next empty =>
    rw [empty]
    exact ⟨fun member => ⟨member, named other member⟩, And.left⟩
  next => exact Table.mem_delete

theorem changedRow_of_found {row : StoredInbound} {id : Int} {inbound : Inbound}
    (stored : database.inbounds.find? id = some row) (same : inbound.id = id) :
    changedRow database inbound = withInbound row inbound := by
  rw [changedRow, same, stored]

/-- The requests that drop a client save its inbound and delete its row. -/
def removedFrom (database : Database) (removal : Removal) (email : String) :
    Database :=
  ⟨database.inbounds.save (changedRow database removal.row),
    if email = "" then database.traffics else database.traffics.delete email,
    database.ips.delete email⟩

theorem run_delInboundClient {id : Int} {clientId : String}
    {removal : Removal}
    (accepted : removedClient database.inbounds.view id clientId = .ok removal)
    (succeeded : perform (.delInboundClient id clientId) host Call.noFaults
      database = (none, after)) :
    after = removedFrom database removal removal.email := by
  obtain ⟨_, same, ran⟩ := checked_succeeds succeeded
  obtain rfl := Except.ok.inj (accepted.symm.trans same)
  obtain ⟨middle, first, saved⟩ := Call.run_append_eq_none.mp ran
  obtain rfl := run_saveInbound (by simp) saved
  rw [Call.run_cons_eq_none (by simp [writeRows, write])] at first
  obtain ⟨freed, freeing, rest⟩ := first
  obtain rfl := Option.some.inj freeing
  unfold removedFrom
  split at rest
  next empty =>
    obtain rfl := (Prod.mk.inj rest).2
    rw [if_pos empty]
    rfl
  next named =>
    rw [Call.run_cons_eq_none (by simp [require])] at rest
    obtain ⟨found, checking, deleting⟩ := rest
    obtain rfl := Option.some.inj
      ((Call.run_singleton_eq_none (by simp [writeRows, write])).mp deleting)
    simp only [require, Option.ite_none_right_eq_some] at checking
    rw [if_neg named, ← Option.some.inj checking.2]
    rfl

theorem Mirrored.delInboundClient (mirrored : Mirrored agrees database)
    {id : Int} {clientId : String} (one : DropsOne database id clientId)
    (succeeded : perform (.delInboundClient id clientId) host Call.noFaults
      database = (none, after)) : Mirrored agrees after := by
  obtain ⟨removal, accepted, -⟩ := checked_succeeds succeeded
  obtain rfl := run_delInboundClient accepted succeeded
  obtain ⟨old, stored, spec⟩ := removedClient_eq_ok accepted
  obtain ⟨row, inTable, rfl⟩ := find?_view_eq_some spec.found
  obtain ⟨member, sameId⟩ := Table.find?_eq_some.mp inTable
  have items := clientItems_of_array spec.read
  have changed := changedRow_of_found inTable
    (show removal.row.id = id by rw [spec.row]; exact sameId)
  rw [removedFrom, changed]
  have keepsId : (withInbound row removal.row).id = row.id := by
    change removal.row.id = row.id
    rw [spec.row]
    rfl
  apply mirrored.drop member keepsId
  show Drops row removal.row.settings database.traffics _ (fun item =>
    keyText (clientKeyName row.protocol) item ≠ some clientId) [removal.email]
  refine ⟨?_, fun other => mem_deletedUnless mirrored.named, ?_, ?_⟩
  · rw [items, spec.row]
    exact readAll_withClients row.toInbound _
  · intro item inItems dropped nonempty
    have matching : item ∈ (clientItems row).filter fun item =>
        keyText (clientKeyName row.protocol) item = some clientId :=
      List.mem_filter.mpr ⟨inItems, by simpa using dropped⟩
    rw [List.mem_singleton, spec.email, ← items]
    rcases one row inTable item matching with empty | last
    · rw [clientEmail_eq] at empty
      exact absurd empty nonempty
    · rw [last, Option.getD_some, clientEmail_eq]
  · intro email gone nonempty
    obtain rfl := List.mem_singleton.mp gone
    rw [spec.email, ← items] at nonempty ⊢
    generalize listed : ((clientItems row).filter fun item =>
      keyText (clientKeyName row.protocol) item =
        some clientId).getLast? = last at nonempty ⊢
    cases last with
    | none => exact absurd rfl nonempty
    | some item =>
        have dropped := List.mem_filter.mp (List.mem_of_getLast? listed)
        refine ⟨item, dropped.1, by simpa using dropped.2, ?_⟩
        exact (clientEmail_eq item).symm

structure RemovedByEmail (inbounds : Inbounds) (id : Int) (email : String)
    (removal : Removal) (old : Inbound) (stored : List Json) : Prop where
  found : inbounds.find? id = some old
  read : old.settings.fields.get "clients" = .arr stored
  row : removal.row = withClients old ((stored.filter isObject).filter
    fun client => keyText "email" client ≠ some email)
  some : ∃ client ∈ stored, keyText "email" client = some email

theorem removedByEmail_eq_ok {inbounds : Inbounds} {id : Int} {email : String}
    {removal : Removal}
    (accepted : removedByEmail inbounds id email = .ok removal) :
    ∃ old stored, RemovedByEmail inbounds id email removal old stored := by
  unfold removedByEmail at accepted
  split at accepted
  · cases accepted
  next old found =>
    split at accepted
    · cases accepted
    next object decoded =>
      have fields : object.getD [] = old.settings.fields := by
        rw [JsonText.fields, decoded, Option.getD_some]
      dsimp only at accepted
      rw [fields] at accepted
      split at accepted
      next stored read =>
        split at accepted
        · cases accepted
        next matching =>
          split at accepted
          · cases accepted
          rw [← Except.ok.inj accepted]
          refine ⟨old, stored, found, read, rfl, ?_⟩
          obtain ⟨client, member⟩ := List.exists_mem_of_ne_nil _ matching
          obtain ⟨inObjects, named⟩ := List.mem_filter.mp member
          exact ⟨client, (List.mem_filter.mp inObjects).1, by simpa using named⟩
      · cases accepted

theorem run_delInboundClientByEmail {id : Int} {email : String}
    {removal : Removal}
    (accepted : removedByEmail database.inbounds.view id email = .ok removal)
    (succeeded : perform (.delInboundClientByEmail id email) host Call.noFaults
      database = (none, after)) :
    after = removedFrom database removal email := by
  have ran : Call.run database Call.noFaults 0
    (Store.delInboundClientByEmail id email database) database =
      (none, after) := succeeded
  unfold Store.delInboundClientByEmail at ran
  rw [accepted] at ran
  obtain ⟨middle, first, saved⟩ := Call.run_append_eq_none.mp ran
  obtain rfl := run_saveInbound (by simp) saved
  rw [Call.run_cons_eq_none (by simp [writeRows, write])] at first
  obtain ⟨freed, freeing, rest⟩ := first
  obtain rfl := Option.some.inj freeing
  unfold removedFrom
  split at rest
  next empty =>
    obtain rfl := (Prod.mk.inj rest).2
    rw [if_pos empty]
    rfl
  next named =>
    rw [if_neg named]
    split at rest
    · cases rest
    next =>
      obtain rfl := Option.some.inj
        ((Call.run_singleton_eq_none (by simp [writeRows, write])).mp rest)
      rfl

theorem email_of_not_object {item : Json} (other : isObject item = false) :
    (limitsOf item).email = "" := by
  cases item with
  | obj fields => cases other
  | _ => rfl

theorem Mirrored.delInboundClientByEmail (mirrored : Mirrored agrees database)
    {id : Int} {email : String}
    (succeeded : perform (.delInboundClientByEmail id email) host Call.noFaults
      database = (none, after)) : Mirrored agrees after := by
  cases accepted : removedByEmail database.inbounds.view id email with
  | error error =>
      have ran : Call.run database Call.noFaults 0
        (Store.delInboundClientByEmail id email database) database =
          (none, after) := succeeded
      unfold Store.delInboundClientByEmail at ran
      rw [accepted] at ran
      cases ran
  | ok removal =>
      obtain rfl := run_delInboundClientByEmail accepted succeeded
      obtain ⟨old, stored, spec⟩ := removedByEmail_eq_ok accepted
      obtain ⟨row, inTable, rfl⟩ := find?_view_eq_some spec.found
      obtain ⟨member, sameId⟩ := Table.find?_eq_some.mp inTable
      have items := clientItems_of_array spec.read
      have changed := changedRow_of_found inTable
        (show removal.row.id = id by rw [spec.row]; exact sameId)
      rw [removedFrom, changed]
      have keepsId : (withInbound row removal.row).id = row.id := by
        change removal.row.id = row.id
        rw [spec.row]
        rfl
      apply mirrored.drop member keepsId
      show Drops row removal.row.settings database.traffics _ (fun item =>
        isObject item && keyText "email" item ≠ some email) [email]
      refine ⟨?_, fun other => mem_deletedUnless mirrored.named, ?_, ?_⟩
      · rw [items, spec.row, List.filter_filter]
        refine (readAll_withClients row.toInbound _).trans ?_
        simp only [Bool.and_comm]
      · intro item inItems dropped nonempty
        rw [Bool.and_eq_false_iff] at dropped
        rcases dropped with other | matching
        · exact absurd (email_of_not_object other) nonempty
        · rw [List.mem_singleton]
          exact keyText_email (by simpa using matching)
      · intro name gone nonempty
        obtain rfl := List.mem_singleton.mp gone
        obtain ⟨item, inStored, named⟩ := spec.some
        refine ⟨item, items ▸ inStored, ?_, keyText_email named⟩
        rw [Bool.and_eq_false_iff]
        exact .inr (by simpa using named)

end VpnUi.Store
