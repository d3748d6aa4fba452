import VpnUi.Foundation.Traverse
import VpnUi.Panel.CheckedSpec
import VpnUi.Panel.Logins

namespace VpnUi.Panel

open Foundation

/-! What is read of the clients in the settings without their time stamps, and
above all their e-mails and limits. -/

/-- A reading of a client that does not see its time stamps. -/
def Timeless {Value : Type*} (read : Json → Value) : Prop :=
  ∀ fields key value, key ∈ ["created_at", "updated_at"] →
    read (.obj (JsonObject.set fields key value)) = read (.obj fields)

/-- A reading of every client. -/
def readAll {Value : Type*} (read : Json → Value) (settings : JsonText) :
    List Value :=
  match settings.fields.get "clients" with
  | .arr items => items.map read
  | _ => []

section Timeless

variable {Value : Type*} {read : Json → Value} (timeless : Timeless read)
include timeless

theorem Timeless.stampNewClient (now : Int) (client : Json) :
    read (stampNewClient now client) = read client := by
  cases client with
  | obj fields =>
      simp only [Panel.stampNewClient]
      rw [timeless _ _ _ (by decide)]
      split
      · rfl
      · exact timeless _ _ _ (by decide)
  | _ => rfl

theorem Timeless.stampUpdatedClient (old : JsonText) (now : Int)
    (client : Json) :
    read (stampUpdatedClient old now client) = read client := by
  cases client with
  | obj fields =>
      have created : read (.obj (
          if (JsonObject.get? fields "created_at").isSome then fields
          else JsonObject.set fields "created_at"
            (.int ((oldStamp old "created_at"
              (JsonObject.get fields "email").text.value).getD now)))) =
            read (.obj fields) := by
        split
        · rfl
        · exact timeless _ _ _ (by decide)
      simp only [Panel.stampUpdatedClient]
      split
      · exact created
      · split
        · exact created
        · exact (timeless _ _ _ (by decide)).trans created
  | _ => rfl

theorem Timeless.stampReplacing (old : Option Json) (now : Int)
    (client : Json) :
    read (stampReplacing old now client) = read client := by
  cases client with
  | obj fields =>
      simp only [Panel.stampReplacing]
      rw [timeless _ _ _ (by decide), timeless _ _ _ (by decide)]
  | _ => rfl

theorem Timeless.stampUpdated (old settings : JsonText) (now : Int) :
    readAll read (stampUpdated old settings now) = readAll read settings := by
  unfold Panel.stampUpdated
  split
  next fields =>
    split
    next items stored =>
      have before : readAll read (.parsed (.obj fields)) = items.map read := by
        rw [readAll, show JsonText.fields (.parsed (.obj fields)) = fields
          from rfl, stored]
      rw [before, readAll, show JsonText.fields (.parsed (.obj
        (JsonObject.set fields "clients" _))) = JsonObject.set fields "clients" _
        from rfl, JsonObject.get_set_self]
      simp only [List.map_map]
      exact List.map_congr_left fun client _ =>
        timeless.stampUpdatedClient old now client
    · rfl
  · rfl

end Timeless

section ReadAll

variable {Value : Type*} {read : Json → Value}

theorem readAll_of_array {settings : JsonText} {items : List Json}
    (stored : settings.fields.get "clients" = .arr items) :
    readAll read settings = items.map read := by
  rw [readAll, stored]

theorem readAll_set_clients (fields : JsonObject) (items : List Json) :
    readAll read (.parsed (.obj (JsonObject.set fields "clients"
      (.arr items)))) = items.map read :=
  readAll_of_array JsonObject.get_set_self

theorem readAll_withClients (old : Inbound) (items : List Json) :
    readAll read (withClients old items).settings = items.map read :=
  readAll_set_clients _ items

end ReadAll

/-- The e-mail of a client and the limits it is sold with. -/
structure Limits where
  email : String
  totalGB : Int
  expiryTime : Int
  reset : Int
  deriving DecidableEq

def Limits.decode (fields : JsonObject) : Decoded Limits :=
  (Decoded.record Limits.mk).field (fields.get "email").text
    |>.field (fields.get "totalGB").number
    |>.field (fields.get "expiryTime").number
    |>.field (fields.get "reset").number

def limitsOf (client : Json) : Limits :=
  (Json.record Limits.decode client).value

def Client.limits (client : Client) : Limits :=
  ⟨client.email, client.totalGB, client.expiryTime, client.reset⟩

def limits (settings : JsonText) : List Limits := readAll limitsOf settings

theorem limitsOf_set {fields : JsonObject} {key : String} {value : Json}
    (free : key ∉ ["email", "totalGB", "expiryTime", "reset"]) :
    limitsOf (.obj (JsonObject.set fields key value)) =
      limitsOf (.obj fields) := by
  simp only [List.mem_cons, List.not_mem_nil, or_false, not_or] at free
  obtain ⟨email, total, expiry, reset⟩ := free
  simp only [limitsOf, Json.record, Limits.decode,
    JsonObject.get_set_ne (Ne.symm email), JsonObject.get_set_ne (Ne.symm total),
    JsonObject.get_set_ne (Ne.symm expiry), JsonObject.get_set_ne (Ne.symm reset)]

theorem timeless_limitsOf : Timeless limitsOf := by
  intro fields key value stamp
  apply limitsOf_set
  rcases List.mem_cons.mp stamp with rfl | stamp
  · decide
  · rw [List.mem_singleton.mp stamp]
    decide

theorem map_limits {settings : JsonText} {clients : List Client}
    (found : getClients settings = some clients) :
    clients.map Client.limits = limits settings := by
  have listed : ∀ value : Json,
      (Json.list (Json.record Client.decode) value).value.map Client.limits =
        match value with
        | .arr items => items.map limitsOf
        | _ => [] := by
    intro value
    cases value with
    | arr items =>
        simp only [Json.value_list_arr, List.map_map]
        apply List.map_congr_left
        intro item _
        cases item <;> rfl
    | _ => rfl
  unfold getClients at found
  split at found
  · cases found
  · rw [← Option.some.inj found]
    exact listed _

theorem int64_number (json : Json) : Json.Int64 json.number.value := by
  cases json with
  | int value =>
      simp only [Json.number]
      split
      · assumption
      · decide
  | _ => exact (by decide : Json.Int64 0)

theorem number_int {value : Int} (fits : Json.Int64 value) :
    (Json.int value).number.value = value := by
  simp [Json.number, fits]

/-- The numbers of a typed client fit their type. -/
structure Client.Fits (client : Client) : Prop where
  totalGB : Json.Int64 client.totalGB
  expiryTime : Json.Int64 client.expiryTime
  reset : Json.Int64 client.reset

theorem fits_of_getClients {settings : JsonText} {clients : List Client}
    (found : getClients settings = some clients) :
    ∀ client ∈ clients, client.Fits := by
  have zero : (Client.decode []).value.Fits := ⟨by decide, by decide, by decide⟩
  have listed : ∀ value : Json, ∀ client ∈
      (Json.list (Json.record Client.decode) value).value, client.Fits := by
    intro value client member
    cases value with
    | arr items =>
        rw [Json.value_list_arr] at member
        obtain ⟨item, -, rfl⟩ := List.mem_map.mp member
        cases item with
        | obj fields =>
            exact ⟨int64_number _, int64_number _, int64_number _⟩
        | _ => exact zero
    | _ => cases member
  unfold getClients at found
  split at found
  · cases found
  · rw [← Option.some.inj found]
    exact listed _

/-- The fields of an encoded client that are always written. -/
def Client.plainFields (client : Client) : JsonObject :=
  [("security", .str client.security)] ++
    [("email", .str client.email),
      ("limitIp", .int client.limitIp),
      ("totalGB", .int client.totalGB),
      ("expiryTime", .int client.expiryTime),
      ("enable", .bool client.enable),
      ("tgId", .int client.tgId),
      ("subId", .str client.subId),
      ("comment", .str client.comment),
      ("reset", .int client.reset)]

theorem get_encode {client : Client} {key : String} {fields : JsonObject}
    (encoded : client.encode = .obj fields)
    (plain : key ∉ ["id", "password", "flow", "auth", "created_at",
      "updated_at"]) :
    JsonObject.get fields key = JsonObject.get client.plainFields key := by
  simp only [List.mem_cons, List.not_mem_nil, or_false, not_or] at plain
  obtain ⟨id, password, flow, auth, created, updated⟩ := plain
  obtain rfl := Json.obj.inj encoded
  simp only [JsonObject.get, Client.plainFields, get?_append, get?_textField,
    get?_numberField _ created, get?_numberField _ updated, id, password, flow,
    auth, false_and, if_false, Option.none_or, Option.or_none]

theorem limitsOf_encode {client : Client} (fits : client.Fits) :
    limitsOf client.encode = client.limits := by
  obtain ⟨fields, encoded⟩ : ∃ fields, client.encode = .obj fields := ⟨_, rfl⟩
  have email : client.plainFields.get "email" = .str client.email := rfl
  have total : client.plainFields.get "totalGB" = .int client.totalGB := rfl
  have expiry : client.plainFields.get "expiryTime" = .int client.expiryTime :=
    rfl
  have reset : client.plainFields.get "reset" = .int client.reset := rfl
  rw [encoded]
  simp only [limitsOf, Json.record, Limits.decode, Decoded.value_field,
    Decoded.value_record,
    get_encode encoded (show "email" ∉ _ by decide), email,
    get_encode encoded (show "totalGB" ∉ _ by decide), total,
    get_encode encoded (show "expiryTime" ∉ _ by decide), expiry,
    get_encode encoded (show "reset" ∉ _ by decide), reset,
    number_int fits.totalGB, number_int fits.expiryTime, number_int fits.reset]
  rfl

theorem limits_stampAdded {settings : JsonText} {clients : List Client}
    (found : getClients settings = some clients) (now : Int) :
    limits (stampAdded settings clients now) = limits settings := by
  unfold stampAdded
  split
  next client rest fields =>
    rw [← map_limits found, limits, readAll_set_clients, List.map_map]
    apply List.map_congr_left
    intro other member
    have fits := fits_of_getClients found other member
    have stamped : (stampClient now other).Fits :=
      ⟨fits.totalGB, fits.expiryTime, fits.reset⟩
    exact limitsOf_encode stamped
  · rfl

/-! The e-mails, and the check that new ones are not in use. -/

def emails (settings : JsonText) : List String :=
  (limits settings).map Limits.email

/-- The e-mails as the check compares them. -/
def lowerNames (emails : List String) : List String :=
  (emails.filter (· ≠ "")).map toLower

theorem mem_lowerNames {emails : List String} {name : String} :
    name ∈ lowerNames emails ↔
      ∃ email ∈ emails, email ≠ "" ∧ toLower email = name := by
  simp [lowerNames, and_assoc]

theorem contains_eq_true {names : List String} {name : String} :
    contains names name = true ↔ toLower name ∈ names.map toLower := by
  simp [contains]

theorem firstDuplicate_eq_none {stored seen names : List String} :
    firstDuplicate stored seen names = none ↔
      (lowerNames names).Nodup ∧ ∀ name ∈ lowerNames names,
        name ∉ seen.map toLower ∧ name ∉ stored.map toLower := by
  induction names generalizing seen with
  | nil => simp [firstDuplicate, lowerNames]
  | cons name rest induction =>
      unfold firstDuplicate
      by_cases empty : name = ""
      · rw [if_pos empty, induction]
        simp [lowerNames, empty]
      · have head : lowerNames (name :: rest) =
            toLower name :: lowerNames rest := by
          simp [lowerNames, empty]
        rw [if_neg empty, head, List.nodup_cons]
        split
        next taken =>
          simp only [Bool.or_eq_true, contains_eq_true] at taken
          simp only [List.mem_cons, forall_eq_or_imp]
          tauto
        next free =>
          simp only [Bool.or_eq_true, contains_eq_true, not_or] at free
          rw [induction]
          simp only [List.map_append, List.map_cons, List.map_nil,
            List.mem_append, List.mem_cons, List.not_mem_nil, or_false,
            forall_eq_or_imp, not_or]
          constructor
          · rintro ⟨distinct, fresh⟩
            refine ⟨⟨?_, distinct⟩, free, ?_⟩
            · intro again
              exact (fresh _ again).1.2 rfl
            · exact fun other member =>
                ⟨(fresh other member).1.1, (fresh other member).2⟩
          · rintro ⟨⟨new, distinct⟩, -, fresh⟩
            refine ⟨distinct, fun other member => ⟨⟨(fresh other member).1, ?_⟩,
              (fresh other member).2⟩⟩
            rintro rfl
            exact new member

theorem email_limitsOf {item : Json} :
    (limitsOf item).email = ((Json.record Login.decode item).value).email := by
  cases item <;> rfl

/-- A client with an e-mail is an object that has it as a text. -/
theorem jsonColumn_email {item : Json} {email : String}
    (named : (limitsOf item).email = email) (nonempty : email ≠ "") :
    jsonColumn "email" item = some email := by
  subst named
  cases item with
  | obj fields =>
      have text : (limitsOf (.obj fields)).email =
          (JsonObject.get fields "email").text.value := rfl
      rw [text] at nonempty ⊢
      simp only [jsonColumn]
      generalize JsonObject.get fields "email" = value at nonempty ⊢
      cases value with
      | str text => rfl
      | _ => exact absurd rfl nonempty
  | _ => exact absurd rfl nonempty

/-- The column of an inbound holds the e-mails its clients have. -/
theorem mem_clientColumn {inbound : Inbound} {column : List String}
    {email : String} (read : clientColumn "email" inbound = some column)
    (member : email ∈ emails inbound.settings) (nonempty : email ≠ "") :
    email ∈ column := by
  unfold emails limits readAll at member
  unfold clientColumn at read
  cases given : inbound.settings with
  | empty => rw [given] at read; cases read
  | malformed => rw [given] at read; cases read
  | parsed json =>
      rw [given] at read member
      cases json with
      | obj fields =>
          rw [show JsonText.fields (.parsed (.obj fields)) = fields from rfl]
            at member
          simp only [bind, Option.bind_eq_some_iff] at read
          obtain ⟨items, each, mapped⟩ := read
          cases clients : JsonObject.get fields "clients" with
          | arr stored =>
              rw [clients] at member each
              obtain rfl := Option.some.inj each
              simp only [List.map_map, List.mem_map] at member
              obtain ⟨item, inItems, named⟩ := member
              obtain ⟨image, inColumn, extracted⟩ :=
                mem_left_of_forall₂ (forall₂_of_mapM mapped) inItems
              rw [jsonColumn_email named nonempty] at extracted
              rwa [Option.some.inj extracted]
          | _ => rw [clients] at member; cases member
      | _ => cases member

theorem checkEmails_eq_ok {inbounds : Inbounds} {clients : List Client}
    (checked : checkEmails inbounds clients = .ok ()) :
    (lowerNames (clients.map Client.email)).Nodup ∧
      ∀ row ∈ inbounds, ∀ name ∈ lowerNames (clients.map Client.email),
        name ∉ lowerNames (emails row.settings) := by
  unfold checkEmails at checked
  split at checked
  · cases checked
  next stored read =>
    split at checked
    · cases checked
    next unique =>
      obtain ⟨distinct, fresh⟩ := firstDuplicate_eq_none.mp unique
      refine ⟨distinct, ?_⟩
      intro row member name new old
      obtain ⟨email, inRow, nonempty, rfl⟩ := mem_lowerNames.mp old
      apply (fresh _ new).2
      apply List.mem_map_of_mem
      obtain ⟨columns, mapped, rfl⟩ := Option.map_eq_some_iff.mp read
      obtain ⟨column, inColumns, columnRead⟩ :=
        mem_left_of_forall₂ (forall₂_of_mapM mapped) member
      exact List.mem_flatten.mpr ⟨column, inColumns,
        mem_clientColumn columnRead inRow nonempty⟩

end VpnUi.Panel
