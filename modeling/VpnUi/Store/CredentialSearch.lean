import VpnUi.Foundation.Like
import VpnUi.Store.Mirror
import VpnUi.Store.Telegram

namespace VpnUi.Store

open Foundation Panel

/-! The search of an account by its credential: a pattern chooses an inbound by
the text of its settings, and they are decoded strictly. -/

inductive SearchError
  | recordNotFound
  | settings
  deriving DecidableEq

/-- Decoding into lists of clients, where every field has to be one. -/
def decodeClients : JsonText → Option (List Client)
  | .parsed .null => some []
  | .parsed (.obj fields) =>
      if fields.all fun field =>
          (Json.list (Json.record Client.decode) field.2).fits then
        some (Json.list (Json.record Client.decode)
          (JsonObject.get fields "clients")).value
      else none
  | _ => none

def credentialPattern (query : String) : List Char :=
  '%' :: ('"' :: (query.toList ++ ['"']) ++ ['%'])

/-- The first row, in the order of the ids. -/
def mentioning (inbounds : StoredInbounds) (texts : Int → List Char)
    (query : String) : Option StoredInbound :=
  inbounds.rows.find? fun row => like (credentialPattern query) (texts row.id)

def answers (query : String) (client : Client) : Bool :=
  (client.id = query || client.password = query) && client.email ≠ ""

def searchClientTraffic (database : Database) (texts : Int → List Char)
    (query : String) : Except SearchError ClientTraffic :=
  match mentioning database.inbounds texts query with
  | none => .error .recordNotFound
  | some inbound =>
      match decodeClients inbound.settings with
      | none => .error .settings
      | some clients =>
          match clients.find? (answers query) with
          | none => .error .recordNotFound
          | some client =>
              match database.traffics.find? client.email with
              | none => .error .recordNotFound
              | some traffic => .ok traffic

/-- An inbound whose clients are read lists one with this credential. -/
def Holds (query : String) (row : StoredInbound) : Prop :=
  ∃ client ∈ rowClients row, answers query client

/-- The answer is the row of such a client, or that there is none. -/
structure Answered (database : Database) (query : String)
    (result : Except SearchError ClientTraffic) : Prop where
  found : (∃ row ∈ database.inbounds, Holds query row) →
    ∃ row ∈ database.inbounds, ∃ client ∈ rowClients row,
      answers query client ∧ ∃ traffic ∈ database.traffics,
        traffic.email = client.email ∧ result = .ok traffic
  missing : (¬ ∃ row ∈ database.inbounds, Holds query row) →
    result = .error .recordNotFound

def HasStats (database : Database) : Prop :=
  ∀ row ∈ database.inbounds, ∀ client ∈ rowClients row, client.email ≠ "" →
    ∃ traffic ∈ database.traffics, traffic.email = client.email

structure FirstMention (inbounds : StoredInbounds) (texts : Int → List Char)
    (query : String) (row : StoredInbound) : Prop where
  member : row ∈ inbounds
  mentions : like (credentialPattern query) (texts row.id)
  first : ∀ other ∈ inbounds, other.id < row.id →
    ¬ like (credentialPattern query) (texts other.id)

/-- The first inbound whose text has the quoted query is readable as clients
only, and lists an account with the credential if any inbound does. -/
structure Searchable (inbounds : StoredInbounds) (texts : Int → List Char)
    (query : String) : Prop where
  shown : (∃ row ∈ inbounds, Holds query row) →
    ∃ row ∈ inbounds, like (credentialPattern query) (texts row.id)
  decodes : ∀ row, FirstMention inbounds texts query row →
    decodeClients row.settings ≠ none
  own : ∀ row, FirstMention inbounds texts query row →
    (∃ other ∈ inbounds, Holds query other) → Holds query row

section Search

variable {inbounds : StoredInbounds} {database : Database}
  {texts : Int → List Char} {query : String} {row : StoredInbound}

theorem mentioning_eq_some :
    mentioning inbounds texts query = some row ↔
      FirstMention inbounds texts query row := by
  rw [mentioning, Table.find?_rows_eq_some]
  constructor
  · rintro ⟨member, mentions, first⟩
    exact ⟨member, mentions, fun other listed before =>
      Bool.not_eq_true _ ▸ first other listed before⟩
  · rintro ⟨member, mentions, first⟩
    exact ⟨member, mentions, fun other listed before =>
      Bool.eq_false_iff.mpr (first other listed before)⟩

theorem mentioning_eq_none :
    mentioning inbounds texts query = none ↔
      ¬ ∃ row ∈ inbounds, like (credentialPattern query) (texts row.id) := by
  rw [mentioning, List.find?_eq_none]
  simp [Table.mem_def]

/-- What is decoded strictly is what `GetClients` reads. -/
theorem rowClients_of_decodeClients {clients : List Client}
    (decoded : decodeClients row.settings = some clients) :
    rowClients row = clients := by
  unfold rowClients
  cases stored : row.settings with
  | parsed json =>
      rw [stored] at decoded
      cases json with
      | null => exact Option.some.inj decoded
      | obj fields =>
          unfold decodeClients at decoded
          dsimp only at decoded
          split at decoded
          · exact Option.some.inj decoded
          · cases decoded
      | _ => cases decoded
  | _ =>
      rw [stored] at decoded
      cases decoded

/-- A text other than the empty one is read from its own field. -/
theorem get_of_itemText {key : String} {item : Json}
    (read : itemText key item = query) (nonempty : query ≠ "") :
    ∃ fields, item = .obj fields ∧ JsonObject.get fields key = .str query := by
  cases item with
  | obj fields =>
      refine ⟨fields, rfl, ?_⟩
      change (JsonObject.get fields key).text.value = query at read
      cases stored : JsonObject.get fields key with
      | str text =>
          rw [stored] at read
          exact congrArg Json.str read
      | _ =>
          rw [stored] at read
          exact absurd read.symm nonempty
  | _ => exact absurd read.symm nonempty

theorem itemText_id (item : Json) :
    itemText "id" item = (itemClient item).id := by
  cases item <;> rfl

theorem itemText_password (item : Json) :
    itemText "password" item = (itemClient item).password := by
  cases item <;> rfl

/-- The text of settings shows a credential that needs no escapes. -/
theorem mentions_of_laidOut {layout : Json.Layout} {text : List Char}
    (laidOut : LaidOut layout row text) (holds : Holds query row)
    (nonempty : query ≠ "")
    (plain : Json.quoted query = '"' :: (query.toList ++ ['"'])) :
    like (credentialPattern query) text := by
  obtain ⟨client, listed, given⟩ := holds
  obtain ⟨items, stored, item, member, rfl⟩ := itemClient_of_mem listed
  have credential : ∃ key, itemText key item = query := by
    unfold answers at given
    simp only [Bool.and_eq_true, Bool.or_eq_true, decide_eq_true_eq] at given
    rcases given.1 with id | password
    · exact ⟨"id", (itemText_id item).trans id⟩
    · exact ⟨"password", (itemText_password item).trans password⟩
  obtain ⟨key, read⟩ := credential
  obtain ⟨fields, rfl, kept⟩ := get_of_itemText read nonempty
  have shown := laidOut.infix_field stored member
    (JsonObject.mem_of_get kept Json.noConfusion)
  rw [Json.print, plain] at shown
  exact like_of_infix ((List.suffix_append _ _).isInfix.trans shown)

theorem holds_iff_of_decodeClients {clients : List Client}
    (decoded : decodeClients row.settings = some clients) :
    Holds query row ↔ (clients.find? (answers query)).isSome := by
  rw [Holds, rowClients_of_decodeClients decoded, List.find?_isSome]

theorem searchable_of_unmentioned
    (unmentioned : mentioning inbounds texts query = none) :
    Searchable inbounds texts query ↔ ¬ ∃ row ∈ inbounds, Holds query row := by
  have noFirst : ∀ row, ¬ FirstMention inbounds texts query row := by
    intro row first
    rw [mentioning_eq_some.mpr first] at unmentioned
    cases unmentioned
  constructor
  · intro searchable wanted
    exact mentioning_eq_none.mp unmentioned (searchable.shown wanted)
  · intro unwanted
    exact ⟨fun wanted => absurd wanted unwanted,
      fun row first => absurd first (noFirst row),
      fun row first => absurd first (noFirst row)⟩

theorem searchable_of_mentioning
    (chosen : mentioning inbounds texts query = some row) :
    Searchable inbounds texts query ↔
      decodeClients row.settings ≠ none ∧
        ((∃ other ∈ inbounds, Holds query other) → Holds query row) := by
  have first := mentioning_eq_some.mp chosen
  have only : ∀ other, FirstMention inbounds texts query other → other = row := by
    intro other here
    exact Option.some.inj ((mentioning_eq_some.mpr here).symm.trans chosen)
  constructor
  · intro searchable
    exact ⟨searchable.decodes row first, searchable.own row first⟩
  · rintro ⟨decodes, own⟩
    refine ⟨fun _ => ⟨row, first.member, first.mentions⟩, ?_, ?_⟩
    · intro other here
      rw [only other here]
      exact decodes
    · intro other here
      rw [only other here]
      exact own

theorem answered_recordNotFound :
    Answered database query (.error .recordNotFound) ↔
      ¬ ∃ row ∈ database.inbounds, Holds query row := by
  constructor
  · intro answered wanted
    obtain ⟨_, _, _, _, _, _, _, _, result⟩ := answered.found wanted
    cases result
  · intro unwanted
    exact ⟨fun wanted => absurd wanted unwanted, fun _ => rfl⟩

theorem not_answered_settings :
    ¬ Answered database query (.error .settings) := by
  intro answered
  by_cases wanted : ∃ row ∈ database.inbounds, Holds query row
  · obtain ⟨_, _, _, _, _, _, _, _, result⟩ := answered.found wanted
    cases result
  · cases answered.missing wanted

theorem answered_ok {client : Client} {traffic : ClientTraffic}
    (member : row ∈ database.inbounds) (listed : client ∈ rowClients row)
    (matched : answers query client) (stored : traffic ∈ database.traffics)
    (same : traffic.email = client.email) :
    Answered database query (.ok traffic) where
  found _ :=
    ⟨row, member, client, listed, matched, traffic, stored, same, rfl⟩
  missing unwanted := absurd ⟨row, member, client, listed, matched⟩ unwanted

/-- The search agrees with the clients exactly where the inbound it chooses can
answer. -/
theorem search_answered_iff (database : Database) (texts : Int → List Char)
    (query : String) (stats : HasStats database) :
    Answered database query (searchClientTraffic database texts query) ↔
      Searchable database.inbounds texts query := by
  unfold searchClientTraffic
  cases chosen : mentioning database.inbounds texts query with
  | none =>
      dsimp only
      rw [answered_recordNotFound, searchable_of_unmentioned chosen]
  | some first =>
      have member := (mentioning_eq_some.mp chosen).member
      rw [searchable_of_mentioning chosen]
      cases decoded : decodeClients first.settings with
      | none => simp [decoded, not_answered_settings]
      | some clients =>
          have holds := @holds_iff_of_decodeClients query _ _ decoded
          cases found : clients.find? (answers query) with
          | none =>
              have unheld : ¬ Holds query first := by simp [holds, found]
              simp [decoded, found, answered_recordNotFound, unheld]
          | some client =>
              have held : Holds query first := by simp [holds, found]
              have listed : client ∈ rowClients first := by
                rw [rowClients_of_decodeClients decoded]
                exact List.mem_of_find?_eq_some found
              have matched := List.find?_some found
              have named : client.email ≠ "" := by
                unfold answers at matched
                simpa using (Bool.and_eq_true_iff.mp matched).2
              obtain ⟨stat, there, same⟩ := stats first member client listed named
              have fetched : database.traffics.find? client.email = some stat :=
                Table.find?_eq_some.mpr ⟨there, same⟩
              simp only [decoded, found, fetched]
              refine iff_of_true (answered_ok member listed matched there same) ?_
              exact ⟨nofun, fun _ => held⟩

end Search

/-! Ann alone in the panel, behind trojan and behind vless. -/

def trojanSettings : JsonObject :=
  [("clients", .arr [telegramClient.encode]), ("fallbacks", .arr [])]

def vlessSettings : JsonObject :=
  [("clients", .arr [telegramClient.encode]), ("decryption", .str "none"),
    ("fallbacks", .arr [])]

def searchedDatabase (protocol : Protocol) (settings : JsonObject) : Database where
  inbounds := Table.empty.save
    { expandedRow with
      protocol := protocol
      settings := .parsed (.obj settings) }
  traffics := Table.empty.save (clientStat 1 telegramClient)
  ips := Table.empty

def searchedTexts (settings : JsonObject) (_ : Int) : List Char :=
  (Json.obj settings).print .indented 0

theorem hasStats_searchedDatabase {protocol : Protocol} {settings : JsonObject}
    (only : JsonObject.get settings "clients" = .arr [telegramClient.encode]) :
    HasStats (searchedDatabase protocol settings) := by
  intro row member client listed named
  rcases Table.mem_save.mp member with rfl | ⟨old, -⟩
  · obtain ⟨items, stored, item, within, rfl⟩ := itemClient_of_mem listed
    have items_eq : items = [telegramClient.encode] :=
      Json.arr.inj (stored.symm.trans only)
    subst items_eq
    obtain rfl := List.mem_singleton.mp within
    exact ⟨_, Table.mem_save.mpr (.inl rfl), rfl⟩
  · exact absurd old Table.not_mem_empty

theorem trojan_search_answered :
    Answered (searchedDatabase .trojan trojanSettings) "tulip"
      (searchClientTraffic (searchedDatabase .trojan trojanSettings)
        (searchedTexts trojanSettings) "tulip") := by
  refine (search_answered_iff _ _ "tulip"
    (hasStats_searchedDatabase rfl)).mpr ?_
  have only : ∀ row ∈ (searchedDatabase .trojan trojanSettings).inbounds,
      decodeClients row.settings ≠ none ∧ Holds "tulip" row := by
    intro row member
    rcases Table.mem_save.mp member with rfl | ⟨old, -⟩
    · exact ⟨by decide +kernel, telegramClient, by decide +kernel, rfl⟩
    · exact absurd old Table.not_mem_empty
  refine ⟨fun _ => ?_, fun row first => (only row first.member).1,
    fun row first _ => (only row first.member).2⟩
  refine ⟨_, Table.mem_save.mpr (.inl rfl), mentions_of_laidOut
    ⟨.obj trojanSettings, .obj ?_, rfl, rfl⟩
    (only _ (Table.mem_save.mpr (.inl rfl))).2 (by decide) (by decide +kernel)⟩
  simp only [trojanSettings, List.forall_mem_cons, List.not_mem_nil,
    false_implies, implies_true, and_true]
  exact ⟨.arr (List.forall_mem_singleton.mpr (wellFormed_encode telegramClient)),
    .arr (fun _ member => by cases member)⟩

/-- The search fails on the `decryption` of the settings. -/
theorem decryption_hides_client :
    HasStats (searchedDatabase .vless vlessSettings) ∧
      (∃ row ∈ (searchedDatabase .vless vlessSettings).inbounds,
        Holds "ann" row) ∧
      searchClientTraffic (searchedDatabase .vless vlessSettings)
          (searchedTexts vlessSettings) "ann" = .error .settings ∧
      ¬ Answered (searchedDatabase .vless vlessSettings) "ann"
        (searchClientTraffic (searchedDatabase .vless vlessSettings)
          (searchedTexts vlessSettings) "ann") := by
  have failed : searchClientTraffic (searchedDatabase .vless vlessSettings)
      (searchedTexts vlessSettings) "ann" = .error .settings := by
    decide +kernel
  refine ⟨hasStats_searchedDatabase rfl, ?_, failed, ?_⟩
  · refine ⟨_, Table.mem_save.mpr (.inl rfl), telegramClient, ?_, rfl⟩
    decide +kernel
  · rw [failed]
    exact not_answered_settings

end VpnUi.Store
