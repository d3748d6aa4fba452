import VpnUi.Foundation.Distinct
import VpnUi.Store.Correspondence

namespace VpnUi.Store

open Foundation Panel

/-! The two requests that name a client by its key.  A deletion drops every
client with the key and cleans up after the last of them; an update replaces the
first one. -/

section Key

variable {item : Json} {key : String}

def itemClient (item : Json) : Client := (Json.record Client.decode item).value

theorem getClients_items {settings : JsonText} {clients : List Client}
    {items : List Json} (found : getClients settings = some clients)
    (stored : settings.fields.get "clients" = .arr items) :
    clients = items.map itemClient := by
  have parsed : getClients settings = some
      (Json.list (Json.record Client.decode)
        (settings.fields.get "clients")).value := by
    unfold getClients at found ⊢
    split at found
    · cases found
    · rfl
  rw [parsed, stored, Json.value_list_arr] at found
  exact (Option.some.inj found).symm

/-- The text of a field, empty where it is none. -/
def itemText (name : String) : Json → String
  | .obj fields => (JsonObject.get fields name).text.value
  | _ => ""

theorem keyText_eq_some_iff {name : String} (nonempty : key ≠ "") :
    keyText name item = some key ↔ itemText name item = key := by
  cases item with
  | obj fields =>
      simp only [keyText, itemText]
      cases JsonObject.get fields name with
      | str text => simp [Json.text]
      | _ => simp [Json.text, nonempty.symm]
  | _ => simp [keyText, itemText, nonempty.symm]

theorem clientKey_itemClient (protocol : Protocol) (item : Json) :
    clientKey protocol (itemClient item) =
      itemText (clientKeyName protocol) item := by
  cases protocol with
  | vpn backend => cases backend <;> cases item <;> rfl
  | _ => cases item <;> rfl

theorem itemEmail_eq_client (item : Json) :
    itemEmail item = (itemClient item).email := by
  cases item with
  | obj fields =>
      change itemEmail (.obj fields) =
        (JsonObject.get fields "email").text.value
      rw [itemEmail, emailOf]
      cases JsonObject.get fields "email" <;> rfl
  | _ => rfl

end Key

/-- The rows of one e-mail may have gone, or come back under a new one; the
others are there as before. -/
structure MovesRows {Row : Type} {email : Row → String}
    (before after : Table email) (old : String) (new : Option String) :
    Prop where
  others : ∀ row ∈ before, email row ≠ old → row ∈ after
  moved : ∀ row ∈ after, row ∈ before ∨ new = some (email row)
  gone : old ≠ "" → new ≠ some old → after.find? old = none

namespace MovesRows

variable {Row : Type} {email : Row → String} {before after : Table email}
  {old : String} {new : Option String}

theorem delete (new : Option String) :
    MovesRows before (before.delete old) old new where
  others _ member differs := Table.mem_delete.mpr ⟨member, differs⟩
  moved _ member := .inl (Table.mem_delete.mp member).1
  gone _ _ := Table.find?_delete_self

/-- Nothing happens to the rows where there is none of the e-mail. -/
theorem refl (absent : old ≠ "" → before.find? old = none) :
    MovesRows before before old new where
  others _ member _ := member
  moved _ member := .inl member
  gone nonempty _ := absent nonempty

theorem rename {row : Row}
    (free : email row ≠ old → before.find? (email row) = none) :
    MovesRows before ((before.delete old).save row) old (some (email row)) where
  others other member differs := by
    rw [Table.mem_save, Table.mem_delete]
    refine .inr ⟨⟨member, differs⟩, fun same => ?_⟩
    have missing := free (same ▸ differs)
    exact Table.find?_eq_none.mp missing other member same
  moved other member := by
    rcases Table.mem_save.mp member with rfl | ⟨kept, -⟩
    · exact .inr rfl
    · exact .inl (Table.mem_delete.mp kept).1
  gone _ differs := by
    rw [Table.find?_save_ne fun same => differs (congrArg some same.symm),
      Table.find?_delete_self]

theorem create {row : Row} (absent : before.find? (email row) = none) :
    MovesRows before (before.save row) "" (some (email row)) where
  others other member _ :=
    Table.mem_save.mpr (.inr ⟨member, Table.find?_eq_none.mp absent other member⟩)
  moved other member := by
    rcases Table.mem_save.mp member with rfl | ⟨kept, -⟩
    · exact .inr rfl
    · exact .inl kept
  gone nonempty _ := absurd rfl nonempty

end MovesRows

/-- The client at this place is dropped, with its rows. -/
structure RemovedAt (before after : Database) (row : StoredInbound)
    (index : Nat) (email : String) : Prop where
  inbounds : after.inbounds = before.inbounds.save
    (withItems row (.arr ((clientItems row).eraseIdx index)))
  traffics : MovesRows before.traffics after.traffics email none
  ips : MovesRows before.ips after.ips email none

/-- The client at this place is replaced by this one, and its rows follow. -/
structure ReplacedAt (before after : Database) (row : StoredInbound)
    (index : Nat) (old new : Json) (now : Int) : Prop where
  inbounds : after.inbounds = before.inbounds.save
    (withItems row (.arr ((clientItems row).set index
      (stampReplacing (some old) now new))))
  traffics : MovesRows before.traffics after.traffics (itemEmail old)
    (some (itemEmail new))
  ips : MovesRows before.ips after.ips (itemEmail old) (some (itemEmail new))

/-- A deletion by key drops the client at this place; the last client of an
inbound is refused. -/
def RemovesOne (database : Database) (row : StoredInbound) (index : Nat)
    (item : Json) (key : String) (host : PanelHost) : Prop :=
  (clientItems row = [item] ∧
    perform (.delInboundClient row.id key) host Call.noFaults database =
      (some (.panel .noClientRemained), database)) ∨
  ∃ after, perform (.delInboundClient row.id key) host Call.noFaults database =
      (none, after) ∧
    RemovedAt database after row index (itemEmail item)

/-- An update by key that is accepted replaces the client at this place by the
first one of its form. -/
def ReplacesOne (database : Database) (row : StoredInbound) (index : Nat)
    (item : Json) (key : String) (host : PanelHost) : Prop :=
  ∀ data after, data.id = row.id →
    perform (.updateInboundClient data key) host Call.noFaults database =
      (none, after) →
      ∃ new others, data.settings.fields.get "clients" = .arr (new :: others) ∧
        ReplacedAt database after row index item new host.now

/-- No other inbound has the tag of this one. -/
def TagFree (database : Database) (row : StoredInbound) : Prop :=
  ∀ other ∈ database.inbounds, other.tag = row.tag → other.id = row.id

/-- Every client has a key in text, and this one alone has this key; where it
can go, its e-mail has a row and its inbound can be saved. -/
structure KeyedCleanly (database : Database) (row : StoredInbound)
    (index : Nat) (item : Json) (key : String) : Prop where
  texts : ∀ other ∈ clientItems row,
    keyText (clientKeyName row.protocol) other ≠ none
  alone : ∀ (place : Nat) (other : Json),
    (clientItems row)[place]? = some other →
      keyText (clientKeyName row.protocol) other = some key → place = index
  counted : clientItems row = [item] ∨
    (itemEmail item = "" ∨
      (database.traffics.find? (itemEmail item)).isSome = true) ∧
    TagFree database row

section Removal

variable {database after : Database} {row : StoredInbound} {index : Nat}
  {item : Json} {key : String} {host : PanelHost}

theorem settings_of_item (found : (clientItems row)[index]? = some item) :
    settingsMap row.settings = .ok row.settings.fields ∧
      row.settings.fields.get "clients" = .arr (clientItems row) := by
  obtain ⟨object, decoded, clients⟩ := clientItems_of_getElem? found
  have fields : row.settings.fields = object.getD [] := by
    rw [JsonText.fields, decoded, Option.getD_some]
  rw [fields]
  refine ⟨?_, clients⟩
  rw [settingsMap, decoded]

theorem removedClient_of_item
    (stored : database.inbounds.find? row.id = some row)
    (found : (clientItems row)[index]? = some item) :
    removedClient database.inbounds.view row.id key =
      if (clientItems row).any fun other =>
          keyText (clientKeyName row.protocol) other = none then
        .error .panicked
      else if ((clientItems row).filter fun other =>
          keyText (clientKeyName row.protocol) other ≠ some key) = [] then
        .error .noClientRemained
      else .ok {
        row := withClients row.toInbound ((clientItems row).filter fun other =>
          keyText (clientKeyName row.protocol) other ≠ some key)
        email := (((clientItems row).filter fun other =>
          keyText (clientKeyName row.protocol) other =
            some key).getLast?.map clientEmail).getD ""
        enable := (((clientItems row).filter fun other =>
          keyText (clientKeyName row.protocol) other =
            some key).getLast?.map clientEnable).getD false } := by
  obtain ⟨map, clients⟩ := settings_of_item found
  have viewed : database.inbounds.view.find? row.id = some row.toInbound := by
    rw [find?_view, stored]
    rfl
  simp only [removedClient, viewed, map, bind, Except.bind, clientArray, clients]
  split
  · rfl
  · split <;> rfl

theorem saveInbound_eq_some_iff :
    database.saveInbound row = some after ↔
      TagFree database row ∧
        after = { database with inbounds := database.inbounds.save row } := by
  unfold Database.saveInbound TagFree
  split
  next busy =>
    simp only [List.any_eq_true, Bool.and_eq_true, decide_eq_true_eq] at busy
    obtain ⟨other, member, differs, same⟩ := busy
    simp only [reduceCtorEq, false_iff, not_and]
    intro free
    exact absurd (free other member same) differs
  next free =>
    simp only [Bool.not_eq_true, List.any_eq_false, Bool.and_eq_true,
      decide_eq_true_eq, not_and'] at free
    rw [Option.some.injEq]
    constructor
    · intro same
      refine ⟨fun other member tag => ?_, same.symm⟩
      by_contra differs
      exact free other member tag differs
    · exact fun saved => saved.2.symm

/-- When the statements of a deletion all succeed, and what they leave. -/
theorem delInboundClient_eq_none {id : Int} {removal : Removal}
    (accepted : removedClient database.inbounds.view id key = .ok removal) :
    perform (.delInboundClient id key) host Call.noFaults database =
        (none, after) ↔
      (removal.email = "" ∨
        (database.traffics.find? removal.email).isSome = true) ∧
      TagFree database (changedRow database removal.row) ∧
      after = removedFrom database removal removal.email := by
  change Call.run database Call.noFaults 0 (delInboundClient id key database)
    database = (none, after) ↔ _
  rw [delInboundClient, accepted, checked, List.cons_append,
    Call.run_cons_eq_none (by simp [writeRows, write])]
  simp only [writeRows, write, Option.some.injEq, exists_eq_left']
  unfold removedFrom
  split
  next empty =>
    rw [List.nil_append, Call.run_singleton_eq_none (by simp),
      saveInbound_eq_some_iff]
    simp [empty, TagFree, Database.delClientIPs]
  next named =>
    rw [List.cons_append, Call.run_cons_eq_none (by simp [require])]
    simp only [require, Option.ite_none_right_eq_some, named, false_or]
    constructor
    · rintro ⟨middle, ⟨present, same⟩, later⟩
      obtain rfl := Option.some.inj same
      rw [List.cons_append, Call.run_cons_eq_none (by simp)] at later
      obtain ⟨next, deleted, saved⟩ := later
      obtain rfl := Option.some.inj deleted
      rw [List.nil_append, Call.run_singleton_eq_none (by simp),
        saveInbound_eq_some_iff] at saved
      exact ⟨present, saved⟩
    · rintro ⟨present, saved⟩
      refine ⟨_, ⟨present, rfl⟩, ?_⟩
      rw [List.cons_append, Call.run_cons_eq_none (by simp)]
      refine ⟨_, rfl, ?_⟩
      rw [List.nil_append, Call.run_singleton_eq_none (by simp),
        saveInbound_eq_some_iff]
      exact saved

theorem changedRow_withClients
    (stored : database.inbounds.find? row.id = some row) (items : List Json) :
    changedRow database (withClients row.toInbound items) =
      withItems row (.arr items) :=
  changedRow_of_found stored rfl

theorem clientItems_of_saved {inbounds : StoredInbounds} {items others : List Json}
    (same : inbounds.save (withItems row (.arr items)) =
      inbounds.save (withItems row (.arr others))) : items = others := by
  have found : ∀ items : List Json, (inbounds.save
      (withItems row (.arr items))).find? row.id =
        some (withItems row (.arr items)) :=
    fun items => Table.find?_save_self
  have rows := found items
  rw [same, found others, Option.some.injEq] at rows
  rw [← clientItems_withItems row items, ← rows, clientItems_withItems]

/-- Where a client alone has its key, the deletion by key drops it alone. -/
theorem filter_key_of_alone (found : (clientItems row)[index]? = some item)
    (keyed : keyText (clientKeyName row.protocol) item = some key)
    (alone : ∀ (place : Nat) (other : Json),
      (clientItems row)[place]? = some other →
        keyText (clientKeyName row.protocol) other = some key →
          place = index) :
    (clientItems row).filter (fun other =>
        keyText (clientKeyName row.protocol) other ≠ some key) =
      (clientItems row).eraseIdx index ∧
    (clientItems row).filter (fun other =>
        keyText (clientKeyName row.protocol) other = some key) = [item] := by
  have only : ∀ (place : Nat) (other : Json),
      (clientItems row)[place]? = some other →
        decide (keyText (clientKeyName row.protocol) other ≠ some key) =
          false → place = index := by
    intro place other here gone
    exact alone place other here (by simpa using gone)
  constructor
  · exact (filter_eq_eraseIdx_iff found (by simpa using keyed)).mpr only
  · rw [← filter_not_eq_singleton found (by simpa using keyed) only]
    congr 1
    funext other
    simp

theorem clean_of_single (single : clientItems row = [item])
    (found : (clientItems row)[index]? = some item)
    (keyed : keyText (clientKeyName row.protocol) item = some key) :
    KeyedCleanly database row index item key where
  texts other member := by
    rw [single, List.mem_singleton] at member
    rw [member, keyed]
    exact Option.some_ne_none key
  alone place other here _ := by
    rw [single, List.getElem?_singleton] at here found
    split at here
    next first =>
      split at found
      next second => exact first.trans second.symm
      next => cases found
    next => cases here
  counted := .inl single

theorem clientEmail_eq_itemEmail (item : Json) :
    clientEmail item = itemEmail item :=
  (clientEmail_eq item).trans (itemEmail_eq item).symm

/-- What is removed with a client that alone has its key. -/
theorem removedClient_of_alone
    (stored : database.inbounds.find? row.id = some row)
    (found : (clientItems row)[index]? = some item)
    (keyed : keyText (clientKeyName row.protocol) item = some key)
    (texts : ∀ other ∈ clientItems row,
      keyText (clientKeyName row.protocol) other ≠ none)
    (alone : ∀ (place : Nat) (other : Json),
      (clientItems row)[place]? = some other →
        keyText (clientKeyName row.protocol) other = some key →
          place = index) :
    removedClient database.inbounds.view row.id key =
      if (clientItems row).eraseIdx index = [] then .error .noClientRemained
      else .ok {
        row := withClients row.toInbound ((clientItems row).eraseIdx index)
        email := itemEmail item
        enable := clientEnable item } := by
  obtain ⟨kept, dropped⟩ := filter_key_of_alone found keyed alone
  have typed : ((clientItems row).any fun other =>
      keyText (clientKeyName row.protocol) other = none) = false := by
    simpa using texts
  rw [removedClient_of_item stored found, typed, kept, dropped,
    ← clientEmail_eq_itemEmail]
  rfl

theorem removedFrom_at (stored : database.inbounds.find? row.id = some row)
    (email : String) (enable : Bool) :
    RemovedAt database (removedFrom database
      ⟨withClients row.toInbound ((clientItems row).eraseIdx index), email,
        enable⟩ email) row index email := by
  constructor
  · rw [← changedRow_withClients stored]
    rfl
  · unfold removedFrom
    split
    next empty => exact MovesRows.refl fun named => absurd empty named
    next => exact MovesRows.delete none
  · exact MovesRows.delete none

theorem removesOne_iff (stored : database.inbounds.find? row.id = some row)
    (found : (clientItems row)[index]? = some item)
    (keyed : keyText (clientKeyName row.protocol) item = some key) :
    RemovesOne database row index item key host ↔
      KeyedCleanly database row index item key := by
  constructor
  · rintro (⟨single, -⟩ | ⟨after, ran, removed⟩)
    · exact clean_of_single single found keyed
    obtain ⟨removal, accepted, -⟩ := checked_succeeds ran
    have outcome := @removedClient_of_item database row index item key stored found
    rw [accepted] at outcome
    split at outcome
    · cases outcome
    next typed =>
      split at outcome
      · cases outcome
      obtain rfl := Except.ok.inj outcome
      obtain ⟨present, free, rfl⟩ := (delInboundClient_eq_none accepted).mp ran
      have saved := removed.inbounds
      simp only [removedFrom, changedRow_withClients stored] at saved free
      have texts : ∀ other ∈ clientItems row,
          keyText (clientKeyName row.protocol) other ≠ none := by
        intro other member untyped
        exact typed (List.any_eq_true.mpr ⟨other, member, by simp [untyped]⟩)
      have alone : ∀ (place : Nat) (other : Json),
          (clientItems row)[place]? = some other →
            keyText (clientKeyName row.protocol) other = some key →
              place = index := by
        intro place other here same
        exact (filter_eq_eraseIdx_iff found (by simpa using keyed)).mp
          (clientItems_of_saved saved) place other here (by simp [same])
      refine ⟨texts, alone, .inr ⟨?_, free⟩⟩
      rw [(filter_key_of_alone found keyed alone).2] at present
      simpa [clientEmail_eq_itemEmail] using present
  · intro clean
    have outcome := removedClient_of_alone stored found keyed clean.texts
      clean.alone
    have inside := (List.getElem?_eq_some_iff.mp found).1
    split at outcome
    next emptied =>
      left
      have single : (clientItems row).length = 1 := by
        have length := List.length_eraseIdx_of_lt inside
        rw [emptied, List.length_nil] at length
        omega
      obtain ⟨only, items⟩ := List.length_eq_one_iff.mp single
      rw [items, List.getElem?_singleton] at found
      split at found
      · obtain rfl := Option.some.inj found
        refine ⟨items, ?_⟩
        change Call.run database Call.noFaults 0
          (delInboundClient row.id key database) database = _
        rw [delInboundClient, outcome]
        rfl
      · cases found
    next left =>
      right
      have several : clientItems row ≠ [item] := by
        intro single
        rw [single, List.length_singleton] at inside
        obtain rfl := Nat.lt_one_iff.mp inside
        rw [single] at left
        exact left rfl
      obtain ⟨counted, free⟩ := clean.counted.resolve_left several
      refine ⟨_, (delInboundClient_eq_none outcome).mpr ⟨counted, ?_, rfl⟩,
        removedFrom_at stored _ _⟩
      rw [changedRow_withClients stored]
      exact free

end Removal

section Replacement

variable {initial database after : Database} {row : StoredInbound}
  {index number : Nat} {item : Json} {key : String} {host : PanelHost}

theorem updateStat_moves {old new : String}
    {update : ClientTraffic → ClientTraffic}
    (renamed : ∀ stat, (update stat).email = new)
    (updated : database.updateStat old update = some after) :
    MovesRows database.traffics after.traffics old (some new) ∧
      after.ips = database.ips := by
  unfold Database.updateStat at updated
  split at updated
  next absent =>
    obtain rfl := Option.some.inj updated
    exact ⟨MovesRows.refl fun _ => absent, rfl⟩
  next stat _ =>
    dsimp only at updated
    rw [Option.ite_none_left_eq_some] at updated
    obtain ⟨free, made⟩ := updated
    obtain rfl := Option.some.inj made
    refine ⟨?_, rfl⟩
    rw [← renamed stat]
    apply MovesRows.rename
    intro differs
    exact Option.not_isSome_iff_eq_none.mp fun taken => free ⟨differs, taken⟩

theorem updateClientIPs_moves {old new : String}
    (updated : database.updateClientIPs old new = some after) :
    MovesRows database.ips after.ips old (some new) := by
  unfold Database.updateClientIPs at updated
  split at updated
  next absent =>
    obtain rfl := Option.some.inj updated
    exact MovesRows.refl fun _ => absent
  next stored _ =>
    rw [Option.ite_none_left_eq_some] at updated
    obtain ⟨free, made⟩ := updated
    obtain rfl := Option.some.inj made
    have vacant : new ≠ old → database.ips.find? new = none := fun differs =>
      Option.not_isSome_iff_eq_none.mp fun taken => free ⟨differs, taken⟩
    exact @MovesRows.rename ClientIps ClientIps.clientEmail database.ips old
      { stored with clientEmail := new } vacant

theorem run_replacedStats_moves {inboundId : Int} {replacement : Replacement}
    (ran : Call.run initial Call.noFaults number
      (replacedStats inboundId replacement) database = (none, after)) :
    after.inbounds = database.inbounds ∧
      MovesRows database.traffics after.traffics replacement.oldEmail
        (some replacement.client.email) ∧
      MovesRows database.ips after.ips replacement.oldEmail
        (some replacement.client.email) := by
  unfold replacedStats at ran
  dsimp only at ran
  split at ran
  next nonempty =>
    split at ran
    next oldNamed =>
      rw [Call.run_cons_eq_none (by simp [write])] at ran
      obtain ⟨middle, updated, later⟩ := ran
      have moved := (Call.run_singleton_eq_none (by simp [write])).mp later
      have renamed : ∀ stat, (updateClientStat replacement.client stat).email =
          replacement.client.email := fun _ => rfl
      obtain ⟨traffics, ips⟩ := updateStat_moves renamed updated
      obtain ⟨sameInbounds, sameTraffics⟩ := updateClientIPs_others moved
      rw [sameInbounds, sameTraffics, ← ips]
      exact ⟨updateStat_inbounds updated, traffics, updateClientIPs_moves moved⟩
    next oldUnnamed =>
      rw [not_not.mp oldUnnamed]
      simp only [Call.run, Call.attempt_noFaults, write] at ran
      split at ran
      next next created =>
        obtain ⟨absent, rfl⟩ := Database.createStat_eq_some.mp created
        obtain rfl := (Prod.mk.inj ran).2
        exact ⟨rfl, MovesRows.create absent,
          MovesRows.refl fun named => absurd rfl named⟩
      next =>
        obtain rfl := (Prod.mk.inj ran).2
        exact ⟨rfl, MovesRows.refl fun named => absurd rfl named,
          MovesRows.refl fun named => absurd rfl named⟩
  next =>
    rw [Call.run_cons_eq_none (by simp [writeRows, write])] at ran
    obtain ⟨middle, deleted, later⟩ := ran
    obtain rfl := Option.some.inj deleted
    obtain rfl := Option.some.inj
      ((Call.run_singleton_eq_none (by simp [writeRows, write])).mp later)
    exact ⟨rfl, MovesRows.delete _, MovesRows.delete _⟩

theorem replacesOne_of_alone (stored : database.inbounds.find? row.id = some row)
    (found : (clientItems row)[index]? = some item) (nonempty : key ≠ "")
    (alone : ∀ (place : Nat) (other : Json),
      (clientItems row)[place]? = some other →
        keyText (clientKeyName row.protocol) other = some key →
          place = index) :
    ReplacesOne database row index item key host := by
  intro data after same succeeded
  obtain ⟨replacement, accepted, ran⟩ := checked_succeeds succeeded
  obtain ⟨oldClients, rest, items, others, new, place, spec⟩ :=
    updatedClient_eq_ok accepted
  have viewed : database.inbounds.view.find? data.id = some row.toInbound := by
    rw [same, find?_view, stored]
    rfl
  have old : replacement.old = row.toInbound :=
    Option.some.inj (spec.found.symm.trans viewed)
  have clients := (settings_of_item found).2
  have read := spec.read
  have oldRead := spec.oldRead
  have placed := spec.placed
  have saving := spec.row
  rw [old] at read oldRead placed saving
  obtain rfl : items = clientItems row :=
    Json.arr.inj (read.symm.trans clients)
  obtain rfl := getClients_items oldRead clients
  -- the first client with the key is the only one
  obtain ⟨inside, first, -⟩ := List.findIdx?_eq_some_iff_getElem.mp placed
  rw [List.getElem_map, decide_eq_true_eq, clientKey_itemClient] at first
  rw [List.length_map] at inside
  obtain rfl := alone place (clientItems row)[place]
    (List.getElem?_eq_getElem inside)
    ((keyText_eq_some_iff nonempty).mpr first.symm)
  have given := getClients_items spec.clients spec.given
  have newEmail : replacement.client.email = itemEmail new := by
    rw [(List.cons.inj given).1, itemEmail_eq_client]
  have oldEmail : replacement.oldEmail = itemEmail item := by
    rw [Replacement.oldEmail, spec.oldClient, List.getElem?_map, found,
      itemEmail_eq_client]
    rfl
  -- the statements of the transaction
  obtain ⟨-, reached, stats, saved⟩ := run_guarded_save ran
  obtain rfl := Database.saveInbound_eq_some saved
  obtain ⟨inbounds, traffics, ips⟩ := run_replacedStats_moves stats
  rw [newEmail, oldEmail] at traffics ips
  refine ⟨new, others, spec.given, ?_, traffics, ips⟩
  rw [inbounds, saving, found, changedRow_withClients stored]

end Replacement

/-- A Trojan client as it is stored. -/
def trojanItem (client : String × String) : Json :=
  .obj [("security", .str ""), ("password", .str client.2),
    ("email", .str client.1), ("limitIp", .int 0), ("totalGB", .int 0),
    ("expiryTime", .int 0), ("enable", .bool true), ("tgId", .int 0),
    ("subId", .str ""), ("comment", .str ""), ("reset", .int 0),
    ("created_at", .int 1000), ("updated_at", .int 1000)]

def trojanRow (clients : List (String × String)) : StoredInbound where
  id := 2
  listen := ""
  port := 443
  protocol := .trojan
  settings := .parsed (.obj [("clients", .arr (clients.map trojanItem))])
  enable := true
  tag := "inbound-443"
  up := 0
  down := 0
  allTime := 0
  total := 0
  expiryTime := 0

/-- Ann with this password, bob and cid. -/
def trojanClients (password : String) : List (String × String) :=
  [("ann", password), ("bob", "rose"), ("cid", "tulip")]

def trojanCalls (password : String) : List (AccountCall × PanelHost) :=
  [(.request (.addInbound { trojanRow (trojanClients password) with id := 0 }
    []), noonHost)]

def trojanDatabase (password : String) : Database :=
  (accountMachine.run emptyDatabase (trojanCalls password)).getD emptyDatabase

end VpnUi.Store
