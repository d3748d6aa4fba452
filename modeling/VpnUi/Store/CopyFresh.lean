import VpnUi.Panel.CopyNames
import VpnUi.Store.SetterSpec

namespace VpnUi.Store

open Foundation Panel

/-! Copied clients and the checks they meet when they are added. -/

/-- The protocols whose key a copied client is given. -/
def CarriesKey (protocol : Protocol) : Prop :=
  protocol ∉ [.vpn .l2tp, .vpn .pptp, .vpn .openvpn, .hysteria2]

instance (protocol : Protocol) : Decidable (CarriesKey protocol) :=
  inferInstanceAs (Decidable (_ ∉ _))

/-- A UUID does not consist of dashes. -/
def Uuids (uuid : Nat → String) : Prop :=
  ∀ drawn, ∃ letter ∈ (uuid drawn).toList, letter ≠ '-'

theorem generateRandomCredential_ne {target : Protocol} {uuid : String}
    (random : ∃ letter ∈ uuid.toList, letter ≠ '-') :
    generateRandomCredential target uuid ≠ "" := by
  obtain ⟨letter, member, differs⟩ := random
  have stripped : String.ofList (uuid.toList.filter (· ≠ '-')) ≠ "" := by
    intro empty
    have none : uuid.toList.filter (· ≠ '-') = [] := by
      simpa using congrArg String.toList empty
    have kept := List.filter_eq_nil_iff.mp none letter member
    exact kept (by simpa using differs)
  have whole : uuid ≠ "" := by
    rintro rfl
    cases member
  unfold generateRandomCredential
  split
  · exact whole
  · exact whole
  · exact stripped

/-- When a copy has the key that its inbound asks for. -/
theorem clientKey_copy_iff {source : Client} {target : Protocol}
    {email flow uuid : String} {now : Int} (named : email ≠ "")
    (random : ∃ letter ∈ uuid.toList, letter ≠ '-') :
    clientKey target
        (buildTargetClientFromSource source target email flow uuid now) ≠ "" ↔
      CarriesKey target := by
  have credential := @generateRandomCredential_ne target uuid random
  cases target with
  | vpn backend =>
      cases backend <;>
        simp_all [clientKey, buildTargetClientFromSource, CarriesKey]
  | _ => simp_all [clientKey, buildTargetClientFromSource, CarriesKey]

theorem email_copy (source : Client) (target : Protocol)
    (email flow uuid : String) (now : Int) :
    (buildTargetClientFromSource source target email flow uuid now).email =
      email := by
  cases target with
  | vpn backend => cases backend <;> rfl
  | _ => rfl

/-- The client is copied at this point of the loop: it has a subscription id, or
one can be written back. -/
def Copied (context : CopyContext) (progress : CopyProgress (Option Database))
    (client : Client) : Prop :=
  client.subId ≠ "" ∨ ∃ store, writeBackClientSubID accountWriter
    progress.store context.source client (context.uuid progress.drawn)
      context.host = .ok store

/-- The names of the copies of a client, in lower case. -/
def lowerNameOf (context : CopyContext) (client : Client) (suffix : Nat) :
    String :=
  toLower (copiedName
    (trimText client.email ++ "_" ++ toString context.target.id) suffix)

/-- Where a client is copied, the target gives copies their key, and the name
of a client that begins with a quote, the first that is free, is not stored. -/
def StepClean (context : CopyContext) (stored : List String)
    (progress : CopyProgress (Option Database)) (client : Client) : Prop :=
  Copied context progress client →
    CarriesKey context.target.protocol ∧
      (Quoted (trimText client.email) → ∀ suffix,
        firstFree (lowerNameOf context client) progress.occupied
          (progress.occupied.length + 1) 0 = some suffix →
            lowerNameOf context client suffix ∉ stored.map toLower)

section Loop

variable {context : CopyContext} {stored : List String}
  {progress : CopyProgress (Option Database)} {client : Client}

/-- What a round of the loop does for a client that is not copied, and for one
that is. -/
theorem copyClient_cases (context : CopyContext)
    (progress : CopyProgress (Option Database)) (client : Client) :
    (¬ Copied context progress client ∧
      (copyClient accountWriter context progress client).store =
        progress.store ∧
      (copyClient accountWriter context progress client).occupied =
        progress.occupied ∧
      (copyClient accountWriter context progress client).newClients =
        progress.newClients ∧
      (copyClient accountWriter context progress client).added =
        progress.added) ∨
    Copied context progress client ∧ ∃ store drawn subId,
      copyClient accountWriter context progress client =
        buildCopy context { progress with store := store, drawn := drawn }
          { client with subId := subId } ∧
      (store = progress.store ∨ writeBackClientSubID accountWriter
        progress.store context.source client (context.uuid progress.drawn)
          context.host = .ok store) := by
  unfold copyClient
  split
  next absent =>
    dsimp only
    cases written : writeBackClientSubID accountWriter progress.store
        context.source client (context.uuid progress.drawn) context.host with
    | error error =>
        left
        refine ⟨?_, rfl, rfl, rfl, rfl⟩
        rintro (present | ⟨store, done⟩)
        · exact present absent
        · rw [written] at done
          cases done
    | ok store =>
        right
        exact ⟨.inr ⟨store, written⟩, store, _, _, rfl, .inr rfl⟩
  next present =>
    right
    exact ⟨.inl present, progress.store, progress.drawn, client.subId, rfl,
      .inl rfl⟩

/-- The names given so far. -/
structure Naming (stored : List String)
    (progress : CopyProgress (Option Database)) : Prop where
  occupied : progress.occupied =
    occupiedEmails stored ++ progress.added.map toLower
  distinct : (progress.added.map toLower).Nodup
  emails : progress.newClients.map Client.email = progress.added

theorem Naming.added_occupied (naming : Naming stored progress) :
    ∀ name ∈ progress.added.map toLower, name ∈ progress.occupied := by
  intro name member
  rw [naming.occupied]
  exact List.mem_append_right _ member

theorem Naming.stored_occupied (naming : Naming stored progress) :
    ∀ name ∈ occupiedEmails stored, name ∈ progress.occupied := by
  intro name member
  rw [naming.occupied]
  exact List.mem_append_left _ member

theorem Naming.step (naming : Naming stored progress) (client : Client) :
    Naming stored (copyClient accountWriter context progress client) := by
  rcases copyClient_cases context progress client with
    ⟨-, -, occupied, clients, added⟩ | ⟨-, store, drawn, subId, copied, -⟩
  · constructor
    · rw [occupied, added]
      exact naming.occupied
    · rw [added]
      exact naming.distinct
    · rw [clients, added]
      exact naming.emails
  · have free := nextAvailable_free (trimText client.email) context.target.id
      progress.occupied
    rw [copied]
    constructor
    · change progress.occupied ++ [_] = _ ++ (progress.added ++ [_]).map toLower
      rw [List.map_append, ← List.append_assoc, ← naming.occupied]
      rfl
    · change ((progress.added ++ [_]).map toLower).Nodup
      rw [List.map_append, List.map_singleton]
      apply List.Nodup.append naming.distinct (List.nodup_singleton _)
      intro name inAdded again
      rw [List.mem_singleton.mp again] at inAdded
      exact free (naming.added_occupied _ inAdded)
    · change (progress.newClients ++ [_]).map Client.email = progress.added ++ [_]
      rw [List.map_append, naming.emails, List.map_singleton, email_copy]

theorem naming_start (store : Option Database) :
    Naming stored ⟨store, occupiedEmails stored, [], [], [], 0⟩ :=
  ⟨(List.append_nil _).symm, List.nodup_nil, rfl⟩

/-- The copies made so far: their names are not stored and they have the key
of the target. -/
def CleanSoFar (context : CopyContext) (stored : List String)
    (progress : CopyProgress (Option Database)) : Prop :=
  (∀ email ∈ progress.added, toLower email ∉ stored.map toLower) ∧
    ∀ client ∈ progress.newClients,
      clientKey context.target.protocol client ≠ ""

theorem cleanSoFar_step_iff (uuids : Uuids context.uuid)
    (naming : Naming stored progress) (named : trimText client.email ≠ "") :
    CleanSoFar context stored
        (copyClient accountWriter context progress client) ↔
      CleanSoFar context stored progress ∧
        StepClean context stored progress client := by
  rcases copyClient_cases context progress client with
    ⟨skipped, -, -, clients, added⟩ | ⟨copied, store, drawn, subId, made, -⟩
  · rw [CleanSoFar, clients, added]
    exact (and_iff_left fun copied => absurd copied skipped).symm
  · obtain ⟨suffix, name, first⟩ := nextAvailable_spec (trimText client.email)
      context.target.id progress.occupied
    -- the name of this copy
    have fresh : toLower (nextAvailableCopiedEmail (trimText client.email)
        context.target.id progress.occupied) ∉ stored.map toLower ↔
          (Quoted (trimText client.email) → ∀ suffix,
            firstFree (lowerNameOf context client) progress.occupied
              (progress.occupied.length + 1) 0 = some suffix →
                lowerNameOf context client suffix ∉ stored.map toLower) := by
      constructor
      · intro free _ other found
        obtain rfl := Option.some.inj (first.symm.trans found)
        rw [name] at free
        exact free
      · intro quotedFree
        by_cases quoted : Quoted (trimText client.email)
        · rw [name]
          exact quotedFree quoted suffix first
        · exact nextAvailable_not_stored named quoted context.target.id
            naming.stored_occupied
    have email : nextAvailableCopiedEmail (trimText client.email)
        context.target.id progress.occupied ≠ "" := by
      rw [name]
      intro empty
      have head := head?_copiedName named context.target.id suffix
      rw [empty] at head
      exact named
        (String.toList_inj.mp (List.head?_eq_none_iff.mp head.symm))
    have key := @clientKey_copy_iff { client with subId := subId }
      context.target.protocol (nextAvailableCopiedEmail (trimText client.email)
        context.target.id progress.occupied) context.flow (context.uuid drawn)
      context.host.now email (uuids drawn)
    have addedOne : (copyClient accountWriter context progress client).added =
        progress.added ++ [nextAvailableCopiedEmail (trimText client.email)
          context.target.id progress.occupied] := by rw [made]; rfl
    have clientsOne :
        (copyClient accountWriter context progress client).newClients =
          progress.newClients ++ [buildTargetClientFromSource
            { client with subId := subId } context.target.protocol
            (nextAvailableCopiedEmail (trimText client.email)
              context.target.id progress.occupied) context.flow
            (context.uuid drawn) context.host.now] := by rw [made]; rfl
    rw [CleanSoFar, addedOne, clientsOne]
    simp only [List.forall_mem_append, List.forall_mem_singleton]
    rw [fresh, key, CleanSoFar, StepClean]
    constructor
    · rintro ⟨⟨names, free⟩, keys, carries⟩
      exact ⟨⟨names, keys⟩, fun _ => ⟨carries, free⟩⟩
    · rintro ⟨⟨names, keys⟩, clean⟩
      exact ⟨⟨names, (clean copied).2⟩, keys, (clean copied).1⟩

/-- The loop is clean to its end if and only if each of its rounds is. -/
theorem cleanSoFar_run_iff (uuids : Uuids context.uuid)
    {selected : List Client} (named : ∀ client ∈ selected,
      trimText client.email ≠ "") (naming : Naming stored progress) :
    CleanSoFar context stored
        (selected.foldl (copyClient accountWriter context) progress) ↔
      CleanSoFar context stored progress ∧
        ∀ before client after, selected = before ++ client :: after →
          StepClean context stored
            (before.foldl (copyClient accountWriter context) progress)
            client := by
  induction selected generalizing progress with
  | nil => simp
  | cons client rest induction =>
      rw [List.forall_mem_cons] at named
      rw [List.foldl_cons, induction named.2 (naming.step client),
        cleanSoFar_step_iff uuids naming named.1, @forall_split_cons Client
          (fun before client => StepClean context stored
            (before.foldl (copyClient accountWriter context) progress) client),
        and_assoc]
      rfl

theorem naming_run {selected : List Client} (naming : Naming stored progress) :
    Naming stored
      (selected.foldl (copyClient accountWriter context) progress) := by
  induction selected generalizing progress with
  | nil => exact naming
  | cons client rest induction => exact induction (naming.step client)

end Loop

section WriteBack

variable {database after : Database} {stored : List String}
  {host : PanelHost} {key : String}

theorem checkEmails_of_listed {inbounds : Inbounds} {clients : List Client}
    (listed : getAllEmails inbounds = some stored) :
    checkEmails inbounds clients = .ok () ↔
      firstDuplicate stored [] (clients.map Client.email) = none := by
  simp only [checkEmails, listed]
  cases firstDuplicate stored [] (clients.map Client.email) <;> simp

/-- A client whose replacement has its e-mail leaves the column of e-mails as it
is. -/
theorem clientColumn_set {row : Inbound} {items : List Json} {index : Nat}
    {old new : Json} (clients : row.settings.fields.get "clients" = .arr items)
    (found : items[index]? = some old)
    (same : jsonColumn "email" new = jsonColumn "email" old) :
    clientColumn "email" (withClients row (items.set index new)) =
      clientColumn "email" row := by
  have read : ∀ (settings : JsonText) (others : List Json),
      settings.fields.get "clients" = .arr others →
        clientColumn "email" { row with settings := settings } =
          others.mapM (jsonColumn "email") := by
    intro settings others here
    cases settings with
    | parsed json =>
        cases json with
        | obj fields =>
            change JsonObject.get fields "clients" = _ at here
            simp only [clientColumn, here, jsonEach, bind, Option.bind_some]
        | _ => cases here
    | _ => cases here
  have before := read row.settings items clients
  have saved := read (withClients row (items.set index new)).settings _
    JsonObject.get_set_self
  exact (saved.trans (mapM_set found same)).trans before.symm

theorem email_encode (client : Client) :
    (itemClient client.encode).email = client.email :=
  congrArg Login.email (loginOf_encode client)

theorem jsonColumn_encode {client : Client} (named : client.email ≠ "")
    (old : Option Json) (now : Int) :
    jsonColumn "email" (stampReplacing old now client.encode) =
      some client.email := by
  apply jsonColumn_email _ named
  rw [timeless_limitsOf.stampReplacing, email_limitsOf]
  exact congrArg Login.email (loginOf_encode client)

theorem getAllEmails_save {row saved : StoredInbound}
    {inbounds : StoredInbounds} (found : inbounds.find? saved.id = some row)
    (same : clientColumn "email" saved.toInbound =
      clientColumn "email" row.toInbound) :
    getAllEmails (StoredInbounds.view (inbounds.save saved)) =
      getAllEmails inbounds.view := by
  have columns : ∀ table : StoredInbounds, getAllEmails table.view =
      (table.rows.mapM fun row => clientColumn "email" row.toInbound).map
        List.flatten := by
    intro table
    rw [getAllEmails, StoredInbounds.view, List.mapM_map]
    rfl
  rw [columns, columns]
  exact congrArg (Option.map List.flatten) (Table.mapM_save found same)

/-- An update with the known e-mail of a client replaces one that has it. -/
theorem getAllEmails_of_update {data : Inbound} {client : Client}
    (listed : getAllEmails database.inbounds.view = some stored)
    (known : client.email ∈ stored) (nonempty : client.email ≠ "")
    (form : data.settings.fields.get "clients" = .arr [client.encode])
    (succeeded : perform (.updateInboundClient data key) host Call.noFaults
      database = (none, after)) :
    getAllEmails after.inbounds.view = some stored := by
  obtain ⟨replacement, accepted, ran⟩ := checked_succeeds succeeded
  obtain ⟨oldClients, rest, items, others, given, place, spec⟩ :=
    updatedClient_eq_ok accepted
  obtain ⟨row, inTable, same⟩ := find?_view_eq_some spec.found
  obtain ⟨-, reached, stats, saved⟩ := run_guarded_save ran
  obtain ⟨inbounds, -, -⟩ := run_replacedStats_moves stats
  obtain rfl := Database.saveInbound_eq_some saved
  obtain ⟨rfl, rfl⟩ : client.encode = given ∧ [] = others :=
    List.cons.inj (Json.arr.inj (form.symm.trans spec.given))
  obtain ⟨typed, rfl⟩ :=
    List.cons.inj (getClients_items spec.clients spec.given)
  have newEmail : replacement.client.email = client.email := by
    rw [typed, email_encode]
  -- an e-mail of another client would be refused
  have oldEmail : replacement.oldEmail = client.email := by
    by_contra differs
    rw [← newEmail] at differs
    have checked := spec.emails (newEmail ▸ nonempty) (Ne.symm differs)
    rw [checkEmails_of_listed listed, firstDuplicate_eq_none] at checked
    refine (checked.2 (toLower client.email) ?_).2
      (List.mem_map_of_mem known)
    rw [List.map_cons, newEmail]
    exact mem_lowerNames.mpr ⟨_, List.mem_cons_self, nonempty, rfl⟩
  have oldClients_eq := getClients_items spec.oldRead spec.read
  obtain ⟨old, found, oldNamed⟩ : ∃ old, items[place]? = some old ∧
      (itemClient old).email = client.email := by
    rw [Replacement.oldEmail, spec.oldClient, oldClients_eq,
      List.getElem?_map] at oldEmail
    cases here : items[place]? with
    | none =>
        rw [here] at oldEmail
        exact absurd oldEmail.symm nonempty
    | some old =>
        rw [here] at oldEmail
        exact ⟨old, rfl, oldEmail⟩
  have column : jsonColumn "email" old = some client.email := by
    apply jsonColumn_email _ nonempty
    rw [← itemEmail_eq, itemEmail_eq_client]
    exact oldNamed
  have changed : changedRow database replacement.row =
      withInbound row replacement.row := by
    have id : replacement.row.id = data.id := by
      rw [spec.row, ← same]
      exact (Table.find?_eq_some.mp inTable).2
    exact changedRow_of_found inTable id
  have sameId : (withInbound row replacement.row).id = data.id := by
    change replacement.row.id = data.id
    rw [spec.row, ← same]
    exact (Table.find?_eq_some.mp inTable).2
  rw [changed, inbounds, getAllEmails_save (sameId ▸ inTable), listed]
  change clientColumn "email" replacement.row = _
  rw [spec.row, ← same]
  have readClients := spec.read
  rw [← same] at readClients
  refine clientColumn_set readClients found ?_
  rw [jsonColumn_encode nonempty, column]

/-- An accepted write-back of a client whose e-mail is known leaves the e-mails
of the panel and the other inbounds as they are. -/
theorem writeBack_keeps {source : Inbound} {client : Client} {subId : String}
    (listed : getAllEmails database.inbounds.view = some stored)
    (known : client.email ∈ stored) (nonempty : client.email ≠ "")
    (written : writeBackClientSubID accountWriter (some database) source client
      subId host = .ok (some after)) :
    getAllEmails after.inbounds.view = some stored ∧
      ∀ id, id ≠ source.id →
        after.inbounds.find? id = database.inbounds.find? id := by
  unfold writeBackClientSubID at written
  dsimp only at written
  split at written
  · cases written
  rcases copyRequest_eq_ok (show copyRequest _ host (some database) =
    .ok (some after) from written) with none | ⟨_, _, here, there, done⟩
  · cases none
  obtain rfl := Option.some.inj here
  obtain rfl := Option.some.inj there
  constructor
  · exact @getAllEmails_of_update database _ stored host _ _
      { client with subId := subId, updatedAt := host.now } listed known
      nonempty rfl done
  · intro id elsewhere
    exact updateInboundClient_elsewhere done elsewhere

end WriteBack

/-- A call that has not panicked still finds the e-mails it has read, and the
inbounds other than the source. -/
def Alive (database : Database) (sourceId : Int) (stored : List String)
    (store : Option Database) : Prop :=
  ∀ reached, store = some reached →
    getAllEmails reached.inbounds.view = some stored ∧
      ∀ id, id ≠ sourceId →
        reached.inbounds.find? id = database.inbounds.find? id

theorem writeBack_none {context : CopyContext} {client : Client}
    {subId : String} {store : Option Database}
    (written : writeBackClientSubID accountWriter none context.source client
      subId context.host = .ok store) : store = none := by
  unfold writeBackClientSubID at written
  dsimp only at written
  split at written
  · cases written
  · exact (Except.ok.inj written).symm

theorem alive_step {database : Database} {context : CopyContext}
    {stored : List String} {progress : CopyProgress (Option Database)}
    {client : Client}
    (alive : Alive database context.source.id stored progress.store)
    (known : client.email ∈ stored) (nonempty : client.email ≠ "") :
    Alive database context.source.id stored
      (copyClient accountWriter context progress client).store := by
  rcases copyClient_cases context progress client with
    ⟨-, same, -⟩ | ⟨-, store, drawn, subId, made, same | written⟩
  · rw [same]
    exact alive
  · rw [made, same]
    exact alive
  · rw [made]
    intro reached here
    obtain rfl : store = some reached := here
    cases before : progress.store with
    | none =>
        rw [before] at written
        cases writeBack_none written
    | some current =>
        obtain ⟨listed, others⟩ := alive current before
        rw [before] at written
        obtain ⟨still, elsewhere⟩ :=
          writeBack_keeps listed known nonempty written
        exact ⟨still, fun id differs =>
          (elsewhere id differs).trans (others id differs)⟩

theorem alive_run {database : Database} {context : CopyContext}
    {stored : List String} {selected : List Client}
    {progress : CopyProgress (Option Database)}
    (alive : Alive database context.source.id stored progress.store)
    (known : ∀ client ∈ selected, client.email ∈ stored ∧ client.email ≠ "") :
    Alive database context.source.id stored
      (selected.foldl (copyClient accountWriter context) progress).store := by
  induction selected generalizing progress with
  | nil => exact alive
  | cons client rest induction =>
      rw [List.forall_mem_cons] at known
      exact induction (alive_step alive known.1.1 known.1.2) known.2

section Add

variable {database : Database} {stored : List String} {host : PanelHost}
  {target : Inbound} {targetId : Int} {newClients : List Client}

theorem clientKey_encode (protocol : Protocol) (client : Client) :
    clientKey protocol (itemClient client.encode) =
      clientKey protocol client := by
  obtain ⟨fields, encoded⟩ : ∃ fields, client.encode = .obj fields := ⟨_, rfl⟩
  obtain ⟨id, password, -, auth⟩ := text_encode encoded
  have email := email_encode client
  rw [encoded] at email ⊢
  cases protocol with
  | vpn backend => cases backend <;> assumption
  | _ => assumption

theorem getClients_clientsForm (id : Int) (clients : List Client) :
    getClients (clientsForm id clients).settings =
      some (clients.map fun client => itemClient client.encode) := by
  have form : (clientsForm id clients).settings.fields.get "clients" =
    .arr (clients.map Client.encode) := rfl
  rw [getClients_eq_items form, List.map_map]
  rfl

/-- Neither of the two checks refuses clients with new e-mails and keys. -/
theorem addedClients_error {error : PanelError}
    (found : database.inbounds.view.find? targetId = some target)
    (listed : getAllEmails database.inbounds.view = some stored)
    (distinct : ((newClients.map Client.email).map toLower).Nodup)
    (fresh : ∀ email ∈ newClients.map Client.email,
      toLower email ∉ stored.map toLower)
    (keyed : ∀ client ∈ newClients, clientKey target.protocol client ≠ "")
    (refused : addedClients database.inbounds.view
      (clientsForm targetId newClients) host = .error error) :
    (∀ email, error ≠ .duplicateEmail email) ∧ error ≠ .emptyClientId := by
  have emails : (newClients.map fun client =>
      itemClient client.encode).map Client.email =
        newClients.map Client.email := by
    rw [List.map_map]
    exact List.map_congr_left fun client _ => email_encode client
  have checked : checkEmails database.inbounds.view (newClients.map fun client =>
      itemClient client.encode) = .ok () := by
    rw [checkEmails_of_listed listed, firstDuplicate_eq_none, emails]
    constructor
    · exact distinct.sublist (List.filter_sublist.map toLower)
    · intro name member
      obtain ⟨email, given, -, rfl⟩ := mem_lowerNames.mp member
      exact ⟨List.not_mem_nil, fresh email given⟩
  have keys : ((newClients.map fun client =>
      itemClient client.encode).any fun client =>
        clientKey target.protocol client = "") = false := by
    simpa [clientKey_encode] using keyed
  have given : clientArray (clientsForm targetId newClients).settings.fields =
    .ok (newClients.map Client.encode) := rfl
  have map : settingsMap (clientsForm targetId newClients).settings =
    .ok (clientsForm targetId newClients).settings.fields := rfl
  rw [addedClients, getClients_clientsForm] at refused
  simp only [map, given, checked, bind, Except.bind, found,
    show (clientsForm targetId newClients).id = targetId from rfl, keys,
    Bool.false_eq_true, if_false] at refused
  split at refused
  next usernames =>
    obtain rfl := Except.error.inj refused
    unfold checkUsernames at usernames
    split at usernames
    · split at usernames
      · obtain rfl := Except.error.inj usernames
        simp
      · split at usernames
        · obtain rfl := Except.error.inj usernames
          simp
        · cases usernames
    · cases usernames
  · split at refused
    next unread =>
      obtain rfl := Except.error.inj refused
      unfold settingsMap at unread
      split at unread
      · obtain rfl := Except.error.inj unread
        simp
      · cases unread
    · split at refused
      next unread =>
        obtain rfl := Except.error.inj refused
        unfold clientArray at unread
        split at unread
        · cases unread
        · obtain rfl := Except.error.inj unread
          simp
      · cases refused

theorem addInboundClient_error {error : PanelError} {after : Database}
    (found : database.inbounds.view.find? targetId = some target)
    (listed : getAllEmails database.inbounds.view = some stored)
    (distinct : ((newClients.map Client.email).map toLower).Nodup)
    (fresh : ∀ email ∈ newClients.map Client.email,
      toLower email ∉ stored.map toLower)
    (keyed : ∀ client ∈ newClients, clientKey target.protocol client ≠ "")
    (ran : perform (.addInboundClient (clientsForm targetId newClients)) host
      Call.noFaults database = (some (.panel error), after)) :
    (∀ email, error ≠ .duplicateEmail email) ∧ error ≠ .emptyClientId := by
  change Call.run database Call.noFaults 0 (Store.addInboundClient
    (clientsForm targetId newClients) host database) database = _ at ran
  rw [Store.addInboundClient] at ran
  cases checks : addedClients database.inbounds.view
      (clientsForm targetId newClients) host with
  | error refusal =>
      rw [checks] at ran
      obtain rfl : refusal = error :=
        RequestError.panel.inj (Option.some.inj (Prod.mk.inj ran).1)
      exact addedClients_error found listed distinct fresh keyed checks
  | ok added =>
      rw [checks] at ran
      obtain ⟨call, member, same⟩ := Call.run_error_mem ran
      have source : call.error = .panel .database ∨
          call.error = .panel .panicked := by
        rcases List.mem_append.mp member with stats | saving
        · obtain ⟨client, -, statement⟩ := List.mem_flatMap.mp stats
          unfold addedClientStat at statement
          split at statement
          · cases statement
          · rcases List.mem_cons.mp statement with rfl | asserted
            · exact .inl rfl
            · split at asserted
              · rw [List.mem_singleton.mp asserted]
                exact .inr rfl
              · cases asserted
        · rw [List.mem_singleton.mp saving]
          exact .inl rfl
      rw [same] at source
      rcases source with here | here
      · rw [RequestError.panel.inj here]
        simp
      · rw [RequestError.panel.inj here]
        simp

theorem copyRequest_error {request : Request} {error : PanelError}
    (ran : copyRequest request host (some database) = .error error) :
    error = .database ∨ ∃ after, perform request host Call.noFaults database =
      (some (.panel error), after) := by
  rw [copyRequest] at ran
  split at ran
  · cases ran
  · cases ran
  next given after _ done =>
    obtain rfl := Except.error.inj ran
    exact .inr ⟨after, done⟩
  · exact .inl (Except.error.inj ran).symm

/-- The last request of a call that copies clients. -/
theorem addCopies_error {error : PanelError}
    (found : database.inbounds.view.find? targetId = some target)
    (listed : getAllEmails database.inbounds.view = some stored)
    (distinct : ((newClients.map Client.email).map toLower).Nodup)
    (fresh : ∀ email ∈ newClients.map Client.email,
      toLower email ∉ stored.map toLower)
    (keyed : ∀ client ∈ newClients, clientKey target.protocol client ≠ "")
    (refused : accountWriter.addInboundClient (some database)
      (clientsForm targetId newClients) host = .error error) :
    (∀ email, error ≠ .duplicateEmail email) ∧ error ≠ .emptyClientId := by
  rcases copyRequest_error refused with rfl | ⟨after, ran⟩
  · simp
  · exact addInboundClient_error found listed distinct fresh keyed ran

end Add

/-- The generated e-mails differ from each other and from the stored ones, the
copies have the key of the target, and neither check refuses them. -/
structure CopiesCleanly (target : Inbound) (stored : List String)
    (copied : CopyProgress (Option Database)) (error : Option CopyError) :
    Prop where
  distinct : (copied.added.map toLower).Nodup
  fresh : ∀ email ∈ copied.added, toLower email ∉ stored.map toLower
  keyed : ∀ client ∈ copied.newClients, clientKey target.protocol client ≠ ""
  emailsAccepted : ∀ email, error ≠ some (.panel (.duplicateEmail email))
  keysAccepted : error ≠ some (.panel .emptyClientId)

section Copies

variable {database : Database} {targetId sourceId : Int}
  {clientEmails : List String} {flow : String} {uuid : Nat → String}
  {host : PanelHost} {target source : Inbound} {clients : List Client}
  {stored : List String}

theorem email_mem_stored (found : database.inbounds.view.find? sourceId =
      some source) (read : getClients source.settings = some clients)
    (listed : getAllEmails database.inbounds.view = some stored)
    {client : Client} (member : client ∈ clients) (named : client.email ≠ "") :
    client.email ∈ stored := by
  obtain ⟨columns, mapped, rfl⟩ := Option.map_eq_some_iff.mp listed
  have inTable := (Table.find?_eq_some.mp found).1
  obtain ⟨column, inColumns, columnRead⟩ :=
    mem_left_of_forall₂ (forall₂_of_mapM mapped) inTable
  refine List.mem_flatten.mpr ⟨column, inColumns, ?_⟩
  refine mem_clientColumn columnRead ?_ named
  rw [emails, ← map_limits read, List.map_map]
  exact List.mem_map_of_mem member

theorem named_of_copies {client : Client}
    (selected : copies clientEmails client = true) :
    trimText client.email ≠ "" ∧ client.email ≠ "" := by
  have trimmed : trimText client.email ≠ "" := by
    rw [copies, Bool.and_eq_true] at selected
    simpa using selected.1
  refine ⟨trimmed, ?_⟩
  intro empty
  rw [empty] at trimmed
  exact trimmed (by decide)

/-- A call that has named its copies cleanly is not refused for an e-mail or a
key. -/
theorem copyInboundClients_error (differ : targetId ≠ sourceId)
    (foundTarget : database.inbounds.view.find? targetId = some target)
    (foundSource : database.inbounds.view.find? sourceId = some source)
    (read : getClients source.settings = some clients)
    (listed : getAllEmails database.inbounds.view = some stored)
    (calm : (copyAll accountWriter ⟨source, target, flow, uuid, host⟩
      (some database) stored
        (clients.filter (copies clientEmails))).store ≠ none)
    (naming : Naming stored (copyAll accountWriter
      ⟨source, target, flow, uuid, host⟩ (some database) stored
        (clients.filter (copies clientEmails))))
    (clean : CleanSoFar ⟨source, target, flow, uuid, host⟩ stored
      (copyAll accountWriter ⟨source, target, flow, uuid, host⟩
        (some database) stored (clients.filter (copies clientEmails)))) :
    (∀ email, (copyInboundClients accountWriter (some database) targetId
        sourceId clientEmails flow uuid host).error ≠
          some (.panel (.duplicateEmail email))) ∧
      (copyInboundClients accountWriter (some database) targetId sourceId
        clientEmails flow uuid host).error ≠ some (.panel .emptyClientId) := by
  have known : ∀ client ∈ clients.filter (copies clientEmails),
      client.email ∈ stored ∧ client.email ≠ "" := by
    intro client member
    obtain ⟨inClients, selected⟩ := List.mem_filter.mp member
    have named := (named_of_copies selected).2
    exact ⟨email_mem_stored foundSource read listed inClients named, named⟩
  have alive := @alive_run database ⟨source, target, flow, uuid, host⟩ stored
    (clients.filter (copies clientEmails))
    ⟨some database, occupiedEmails stored, [], [], [], 0⟩
    (fun reached here => by
      obtain rfl := Option.some.inj here
      exact ⟨listed, fun _ _ => rfl⟩) known
  obtain ⟨reached, here⟩ := Option.ne_none_iff_exists'.mp calm
  obtain ⟨still, others⟩ := alive reached here
  have sourceId_eq : source.id = sourceId :=
    (Table.find?_eq_some.mp foundSource).2
  have stillTarget : reached.inbounds.view.find? targetId = some target := by
    rw [find?_view, others targetId (by rwa [sourceId_eq]), ← find?_view,
      foundTarget]
  unfold copyInboundClients
  simp only [if_neg differ,
    show accountWriter.inbounds (some database) = database.inbounds.view from
      rfl, foundTarget, foundSource, read]
  split
  next unread => cases unread
  · simp
  next same =>
    obtain rfl := Option.some.inj same
    rw [listed]
    simp only
    split
    · simp
    · rw [here]
      split
      next refusal refused =>
        have neither := addCopies_error stillTarget still
          (by rw [naming.emails]; exact naming.distinct)
          (by rw [naming.emails]; exact clean.1) clean.2 refused
        simp only [ne_eq, Option.some.injEq, CopyError.panel.injEq]
        exact neither
      next => simp

end Copies

/-- A client as it is stored, with the fields of its key. -/
def keyedItem (keys : JsonObject) (email : String) : Json :=
  .obj (keys ++ [("email", .str email), ("limitIp", .int 0),
    ("totalGB", .int 0), ("expiryTime", .int 0), ("enable", .bool true),
    ("tgId", .int 0), ("subId", .str ""), ("comment", .str ""),
    ("reset", .int 0), ("created_at", .int 1000), ("updated_at", .int 1000)])

def keyedRow (id port : Int) (protocol : Protocol) (item : Json) :
    StoredInbound where
  id := id
  listen := ""
  port := port
  protocol := protocol
  settings := .parsed (.obj [("clients", .arr [item])])
  enable := true
  tag := inboundTag "" port
  up := 0
  down := 0
  allTime := 0
  total := 0
  expiryTime := 0

/-- Ann, to be copied. -/
def copySource : StoredInbound :=
  keyedRow 1 443 .vless (keyedItem [("id", .str "ann"), ("security", .str "")]
    "ann")

/-- Another inbound with one client. -/
def copyTarget (protocol : Protocol) : StoredInbound :=
  keyedRow 2 444 protocol (keyedItem [("id", .str "cid"), ("security", .str ""),
    ("password", .str "tulip")] "cid")

def copyCalls (protocol : Protocol) : List (AccountCall × PanelHost) :=
  [(.request (.addInbound { copySource with id := 0 } []),
      ⟨1000, 1, true, true⟩),
    (.request (.addInbound { copyTarget protocol with id := 0 } []), noonHost)]

def copyDatabase (protocol : Protocol) : Database :=
  (accountMachine.run emptyDatabase (copyCalls protocol)).getD emptyDatabase

def copyUuid (drawn : Nat) : String := "ab-" ++ toString drawn

def copyContext (protocol : Protocol) : CopyContext :=
  ⟨copySource.toInbound, (copyTarget protocol).toInbound, "", copyUuid,
    noonHost⟩

/-- The loop of a call that copies ann. -/
def copiedAnn (protocol : Protocol) : CopyProgress (Option Database) :=
  copyAll accountWriter (copyContext protocol) (some (copyDatabase protocol))
    ["ann", "cid"] [itemClient (keyedItem [("id", .str "ann"),
      ("security", .str "")] "ann")]

def copyOfAnn (protocol : Protocol) : CopyOutcome (Option Database) :=
  copyInboundClients accountWriter (some (copyDatabase protocol)) 2 1 [] ""
    copyUuid noonHost

theorem copyUuids : Uuids copyUuid := by
  intro drawn
  refine ⟨'a', ?_, by decide⟩
  rw [copyUuid, String.toList_append]
  exact List.mem_append_left _ (by decide)

end VpnUi.Store
