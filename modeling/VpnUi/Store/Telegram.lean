import VpnUi.Foundation.Marshal
import VpnUi.Store.KeyedClient

namespace VpnUi.Store

open Foundation Panel

/-! The lookup of a user of the Telegram bot: the inbounds are found by a
pattern in the texts of their settings, which the writers lay out
differently. -/

/-- The writers of the settings of an inbound. -/
inductive SettingsWriter
  | addInbound
  | addInboundClient
  | updateInboundClient
  | updateInbound
  | autoExpandVpnRanges
  deriving DecidableEq

/-- What `GetClients` leaves of a row, an error being skipped. -/
def rowClients (row : StoredInbound) : List Client :=
  (getClients row.settings).getD []

/-- The text is that of the settings in this layout. -/
def LaidOut (layout : Json.Layout) (row : StoredInbound) (text : List Char) :
    Prop :=
  ∃ json : Json, json.WellFormed ∧ row.settings = .parsed json ∧
    text = json.print layout 0

/-- The text a writer stores for a row.  A form without clients is stored as it
came. -/
def SettingsWriter.Stores (row : StoredInbound) (text : List Char) :
    SettingsWriter → Prop
  | addInbound | updateInbound =>
      rowClients row = [] ∨ LaidOut .indented row text
  | addInboundClient | updateInboundClient => LaidOut .indented row text
  | autoExpandVpnRanges =>
      row.protocol.isVpnProtocol ∧ LaidOut .compact row text

/-- The column `settings` of the inbounds, with the last writer of each. -/
structure SettingsTexts (database : Database) where
  writer : Int → SettingsWriter
  text : Int → List Char
  stored : ∀ row ∈ database.inbounds, (writer row.id).Stores row (text row.id)

/-- The pattern between the two signs `%`. -/
def telegramPattern (tgId : Int) : List Char :=
  "\"tgId\": ".toList ++ (toString tgId).toList

/-- The e-mails of the clients of a row with this Telegram id. -/
def telegramEmails (tgId : Int) (row : StoredInbound) : List String :=
  ((rowClients row).filter (·.tgId = tgId)).map Client.email

/-- A row of client_traffics with its two fields that are not columns. -/
structure ShownTraffic extends ClientTraffic where
  uuid : String
  subId : String

def getClientByEmail (database : Database) (clientEmail : String) :
    Option (ClientTraffic × Client) := do
  let traffic ← database.traffics.find? clientEmail
  let inbound ← database.inbounds.find? traffic.inboundId
  let clients ← getClients inbound.settings
  let client ← clients.find? (·.email = clientEmail)
  some (traffic, client)

/-- A found row, filled in from its client if there is one. -/
def shownTraffic (database : Database) (traffic : ClientTraffic) :
    ShownTraffic :=
  match getClientByEmail database traffic.email with
  | some (_, client) =>
      ⟨{ traffic with enable := client.enable }, client.id, client.subId⟩
  | none => ⟨traffic, "", ""⟩

/-- The rows with one of the e-mails. -/
def trafficsOf (database : Database) (emails : List String) :
    List ShownTraffic :=
  (database.traffics.rows.filter (·.email ∈ emails)).map
    (shownTraffic database)

def getClientTrafficTgBot (database : Database)
    (texts : SettingsTexts database) (tgId : Int) : List ShownTraffic :=
  let inbounds := database.inbounds.rows.filter fun row =>
    telegramPattern tgId <:+: texts.text row.id
  trafficsOf database (inbounds.flatMap (telegramEmails tgId))

/-- The rows of the clients of all inbounds. -/
def telegramTraffics (database : Database) (tgId : Int) : List ShownTraffic :=
  trafficsOf database (database.inbounds.rows.flatMap (telegramEmails tgId))

section Texts

variable {tgId : Int} {row : StoredInbound} {text : List Char}

theorem itemClient_of_mem {client : Client} (member : client ∈ rowClients row) :
    ∃ items, row.settings.fields.get "clients" = .arr items ∧
      ∃ item ∈ items, itemClient item = client := by
  unfold rowClients at member
  cases read : getClients row.settings with
  | none =>
      rw [read] at member
      cases member
  | some clients =>
      rw [read, Option.getD_some] at member
      cases stored : row.settings.fields.get "clients" with
      | arr items =>
          rw [getClients_items read stored] at member
          exact ⟨items, rfl, List.mem_map.mp member⟩
      | _ =>
          have empty : clients = [] := by
            unfold getClients at read
            split at read
            · cases read
            · rw [stored] at read
              exact (Option.some.inj read).symm
          rw [empty] at member
          cases member

/-- A number other than zero is read from its own field. -/
theorem get_of_itemClient_tgId {item : Json}
    (named : (itemClient item).tgId = tgId) (nonzero : tgId ≠ 0) :
    ∃ fields, item = .obj fields ∧
      JsonObject.get fields "tgId" = .int tgId := by
  cases item with
  | obj fields =>
      refine ⟨fields, rfl, ?_⟩
      change (JsonObject.get fields "tgId").number.value = tgId at named
      cases stored : JsonObject.get fields "tgId" with
      | int value =>
          rw [stored, Json.number] at named
          split at named
          · exact congrArg Json.int named
          · exact absurd named.symm nonzero
      | _ =>
          rw [stored] at named
          exact absurd named.symm nonzero
  | _ => exact absurd named.symm nonzero

theorem telegramKey :
    "\"tgId\": ".toList = Json.quoted "tgId" ++ Json.Layout.colon .indented := by
  decide +kernel

/-- The text of settings has each field of a client in it. -/
theorem LaidOut.infix_field {layout : Json.Layout}
    (laidOut : LaidOut layout row text) {items : List Json}
    (stored : row.settings.fields.get "clients" = .arr items)
    {fields : JsonObject} (listed : Json.obj fields ∈ items) {key : String}
    {value : Json} (given : (key, value) ∈ fields) :
    Json.quoted key ++ layout.colon ++ value.print layout 3 <:+: text := by
  obtain ⟨json, -, parsed, rfl⟩ := laidOut
  have inItem := @Json.infix_print_obj layout 2 _ _ _ given
  have inItems := @Json.infix_print_arr layout 1 _ _ listed
  rw [parsed] at stored
  cases json with
  | obj settings =>
      have inFields : ("clients", Json.arr items) ∈ settings :=
        JsonObject.mem_of_get stored Json.noConfusion
      have inSettings := @Json.infix_print_obj layout 0 _ _ _ inFields
      exact ((inItem.trans inItems).trans
        (List.suffix_append _ _).isInfix).trans inSettings
  | _ => cases stored

/-- Indented settings show every Telegram id but zero, which an absent field
has too. -/
theorem LaidOut.shows (laidOut : LaidOut .indented row text)
    {client : Client} (member : client ∈ rowClients row)
    (named : client.tgId = tgId) (nonzero : tgId ≠ 0) :
    telegramPattern tgId <:+: text := by
  obtain ⟨items, stored, item, listed, rfl⟩ := itemClient_of_mem member
  obtain ⟨fields, rfl, given⟩ := get_of_itemClient_tgId named nonzero
  have shown : telegramPattern tgId =
      Json.quoted "tgId" ++ Json.Layout.colon .indented ++
        Json.print .indented 3 (.int tgId) := by
    unfold telegramPattern
    rw [telegramKey, Json.print]
  rw [shown]
  exact laidOut.infix_field stored listed
    (JsonObject.mem_of_get given Json.noConfusion)

theorem scan_telegramPattern (place : Json.Place) :
    Json.scan place (telegramPattern tgId) = none := by
  have stuck : Json.scan place "\"tgId\": ".toList = none := by
    cases place <;> decide +kernel
  unfold telegramPattern
  rw [Json.scan_append, stuck, Option.bind_none]

theorem LaidOut.hides (laidOut : LaidOut .compact row text) :
    ¬ telegramPattern tgId <:+: text := by
  obtain ⟨json, wellFormed, -, rfl⟩ := laidOut
  exact Json.not_infix_compact wellFormed scan_telegramPattern

end Texts

section Lookup

variable {database : Database} {texts : SettingsTexts database} {tgId : Int}
  {email : String} {emails others : List String}

theorem email_shownTraffic (traffic : ClientTraffic) :
    (shownTraffic database traffic).email = traffic.email := by
  unfold shownTraffic
  split <;> rfl

/-- Two lookups agree where they ask for the same rows. -/
theorem trafficsOf_eq_iff :
    trafficsOf database emails = trafficsOf database others ↔
      ∀ traffic ∈ database.traffics,
        traffic.email ∈ emails ↔ traffic.email ∈ others := by
  have shownEmails : ∀ listed : List String,
      (trafficsOf database listed).map (·.email) =
        (database.traffics.rows.map ClientTraffic.email).filter
          (· ∈ listed) := by
    intro listed
    rw [trafficsOf, List.map_map, List.filter_map]
    apply List.map_congr_left
    intro traffic _
    exact email_shownTraffic traffic
  constructor
  · intro same traffic member
    have named : traffic.email ∈
        database.traffics.rows.map ClientTraffic.email :=
      List.mem_map_of_mem member
    have kept := congrArg (List.map fun shown : ShownTraffic => shown.email) same
    rw [shownEmails, shownEmails] at kept
    simpa [List.mem_filter, named] using
      congrArg (fun listed => traffic.email ∈ listed) kept
  · intro alike
    unfold trafficsOf
    apply congrArg
    apply List.filter_congr
    intro traffic member
    exact decide_eq_decide.mpr (alike traffic member)

theorem client_of_telegramEmails {row : StoredInbound}
    (named : email ∈ telegramEmails tgId row) :
    ∃ client ∈ rowClients row, client.tgId = tgId := by
  obtain ⟨client, filtered, -⟩ := List.mem_map.mp named
  obtain ⟨member, same⟩ := List.mem_filter.mp filtered
  exact ⟨client, member, of_decide_eq_true same⟩

/-- When the text of an inbound with such a client shows the pattern. -/
theorem shows_iff {row : StoredInbound} (member : row ∈ database.inbounds)
    (named : email ∈ telegramEmails tgId row) :
    telegramPattern tgId <:+: texts.text row.id ↔
      texts.writer row.id ≠ .autoExpandVpnRanges ∧
        (tgId = 0 → telegramPattern tgId <:+: texts.text row.id) := by
  obtain ⟨client, listed, same⟩ := client_of_telegramEmails named
  have clients : rowClients row ≠ [] := List.ne_nil_of_mem listed
  have stored := texts.stored row member
  have indented : texts.writer row.id ≠ .autoExpandVpnRanges →
      LaidOut .indented row (texts.text row.id) := by
    intro other
    cases writer : texts.writer row.id with
    | autoExpandVpnRanges => exact absurd writer other
    | addInbound =>
        rw [writer] at stored
        exact stored.resolve_left clients
    | updateInbound =>
        rw [writer] at stored
        exact stored.resolve_left clients
    | addInboundClient =>
        rw [writer] at stored
        exact stored
    | updateInboundClient =>
        rw [writer] at stored
        exact stored
  constructor
  · intro shown
    refine ⟨?_, fun _ => shown⟩
    intro expanded
    rw [expanded] at stored
    exact stored.2.hides shown
  · rintro ⟨other, zero⟩
    by_cases isZero : tgId = 0
    · exact zero isZero
    · exact (indented other).shows listed same isZero

theorem mem_foundEmails :
    email ∈ (database.inbounds.rows.filter fun row =>
        telegramPattern tgId <:+: texts.text row.id).flatMap
          (telegramEmails tgId) ↔
      ∃ row ∈ database.inbounds, email ∈ telegramEmails tgId row ∧
        texts.writer row.id ≠ .autoExpandVpnRanges ∧
          (tgId = 0 → telegramPattern tgId <:+: texts.text row.id) := by
  simp only [List.mem_flatMap, List.mem_filter, decide_eq_true_eq]
  constructor
  · rintro ⟨row, ⟨member, shown⟩, named⟩
    exact ⟨row, member, named, (shows_iff member named).mp shown⟩
  · rintro ⟨row, member, named, condition⟩
    exact ⟨row, ⟨member, (shows_iff member named).mpr condition⟩, named⟩

/-- The lookup finds every client exactly if each e-mail with a row belongs to
one in settings that were not last written compactly. -/
theorem telegram_lookup_complete_iff (database : Database)
    (texts : SettingsTexts database) (tgId : Int) :
    getClientTrafficTgBot database texts tgId =
        telegramTraffics database tgId ↔
      ∀ traffic ∈ database.traffics,
        (∃ row ∈ database.inbounds,
          traffic.email ∈ telegramEmails tgId row) →
        ∃ row ∈ database.inbounds, traffic.email ∈ telegramEmails tgId row ∧
          texts.writer row.id ≠ .autoExpandVpnRanges ∧
            (tgId = 0 → telegramPattern tgId <:+: texts.text row.id) := by
  unfold getClientTrafficTgBot telegramTraffics
  rw [trafficsOf_eq_iff]
  constructor
  · intro alike traffic member sought
    exact mem_foundEmails.mp
      ((alike traffic member).mpr (List.mem_flatMap.mpr sought))
  · intro complete traffic member
    constructor
    · intro found
      obtain ⟨row, listed, named, -⟩ := mem_foundEmails.mp found
      exact List.mem_flatMap.mpr ⟨row, listed, named⟩
    · intro sought
      exact mem_foundEmails.mpr
        (complete traffic member (List.mem_flatMap.mp sought))

end Lookup

/-! An L2TP inbound after its ranges were expanded. -/

/-- Ann, known to the bot as 42. -/
def telegramClient : Client where
  id := "ann"
  security := ""
  password := "tulip"
  flow := ""
  auth := ""
  email := "ann"
  limitIp := 0
  totalGB := 0
  expiryTime := 0
  enable := true
  tgId := 42
  subId := ""
  comment := ""
  reset := 0
  createdAt := 1000
  updatedAt := 1000

def expandedSettings : JsonObject :=
  [("clients", .arr [telegramClient.encode]),
    ("ipRanges", .arr [.str "10.0.2.2-10.0.2.254"]),
    ("localIp", .str "10.0.2.1")]

def expandedRow : StoredInbound where
  id := 1
  listen := ""
  port := 1701
  protocol := .vpn .l2tp
  settings := .parsed (.obj expandedSettings)
  enable := true
  tag := "inbound-1701"
  up := 0
  down := 0
  allTime := 0
  total := 0
  expiryTime := 0

def expandedDatabase : Database where
  inbounds := Table.empty.save expandedRow
  traffics := Table.empty.save (clientStat 1 telegramClient)
  ips := Table.empty

theorem wellFormed_encode (client : Client) : client.encode.WellFormed := by
  have textField : ∀ (key text : String) (field : String × Json),
      field ∈ Client.textField key text → field.2.WellFormed := by
    intro key text field member
    unfold Client.textField at member
    split at member
    · cases member
    · obtain rfl := List.mem_singleton.mp member
      exact .str text
  have numberField : ∀ (key : String) (number : Int) (field : String × Json),
      field ∈ Client.numberField key number → field.2.WellFormed := by
    intro key number field member
    unfold Client.numberField at member
    split at member
    · cases member
    · obtain rfl := List.mem_singleton.mp member
      exact .int number
  apply Json.WellFormed.obj
  simp only [List.forall_mem_append, List.forall_mem_cons, List.not_mem_nil,
    false_implies, implies_true, and_true]
  exact ⟨⟨⟨⟨⟨⟨⟨textField _ _, .str _⟩, textField _ _⟩, textField _ _⟩,
    textField _ _⟩, .str _, .int _, .int _, .int _, .bool _, .int _, .str _,
    .str _, .int _⟩, numberField _ _⟩, numberField _ _⟩

/-- The texts after `AutoExpandVpnRanges`. -/
def expandedTexts : SettingsTexts expandedDatabase where
  writer _ := .autoExpandVpnRanges
  text _ := (Json.obj expandedSettings).print .compact 0
  stored := by
    intro row member
    rcases Table.mem_save.mp member with rfl | ⟨old, -⟩
    · refine ⟨rfl, .obj expandedSettings, ?_, rfl, rfl⟩
      apply Json.WellFormed.obj
      simp only [expandedSettings, List.forall_mem_cons, List.not_mem_nil,
        false_implies, implies_true, and_true]
      refine ⟨.arr ?_, .arr ?_, .str _⟩
      · exact List.forall_mem_singleton.mpr (wellFormed_encode telegramClient)
      · exact List.forall_mem_singleton.mpr (.str _)
    · exact absurd old Table.not_mem_empty

/-- The settings are what the expansion stores, and the lookup of 42 misses
ann. -/
theorem expanded_ranges_hide_client :
    autoExpandVpnRanges expandedDatabase.inbounds.view .l2tp =
        expandedDatabase.inbounds.view ∧
      (getClientTrafficTgBot expandedDatabase expandedTexts 42).length = 0 ∧
      (telegramTraffics expandedDatabase 42).length = 1 ∧
      ¬ getClientTrafficTgBot expandedDatabase expandedTexts 42 =
        telegramTraffics expandedDatabase 42 := by
  have missed : (getClientTrafficTgBot expandedDatabase expandedTexts
      42).length = 0 := by decide +kernel
  have sought : (telegramTraffics expandedDatabase 42).length = 1 := by
    decide +kernel
  refine ⟨rfl, missed, sought, ?_⟩
  intro complete
  rw [complete, sought] at missed
  cases missed

end VpnUi.Store
