import VpnUi.Panel.Machine
import VpnUi.Panel.OperationsSpec
import VpnUi.Panel.VpnRangeSpec

namespace VpnUi.Panel

open Foundation

/-! The logins of the stored inbounds, and what each request makes of them. -/

/-- The login a stored client gives, whatever its other fields are. -/
def loginOf (client : Json) : Login :=
  (Json.record Login.decode client).value

theorem logins_of_array {settings : JsonText} {clients : List Json}
    (stored : settings.fields.get "clients" = .arr clients) :
    logins settings = clients.map loginOf := by
  rw [logins, stored]
  rfl

theorem logins_congr {left right : JsonText}
    (same : left.fields.get? "clients" = right.fields.get? "clients") :
    logins left = logins right := by
  rw [logins, logins, JsonObject.get, JsonObject.get, same]

theorem logins_set_clients (fields : JsonObject) (clients : List Json) :
    logins (.parsed (.obj (JsonObject.set fields "clients" (.arr clients)))) =
      clients.map loginOf := by
  apply logins_of_array
  simp [JsonText.fields, JsonText.object?, JsonObject.get]

theorem logins_withClients (old : Inbound) (clients : List Json) :
    logins (withClients old clients).settings = clients.map loginOf :=
  logins_set_clients _ clients

theorem get?_append (first second : JsonObject) (key : String) :
    JsonObject.get? (first ++ second) key =
      (JsonObject.get? second key).or (JsonObject.get? first key) := by
  simp [JsonObject.get?, List.lookup_append]

/-- A stamp leaves the login alone. -/
theorem loginOf_set {fields : JsonObject} {key : String} {value : Json}
    (notId : key ≠ "id") (notEmail : key ≠ "email") :
    loginOf (.obj (JsonObject.set fields key value)) = loginOf (.obj fields) := by
  simp only [loginOf, Json.record, Login.decode, Decoded.value_field,
    Decoded.value_record, JsonObject.get,
    JsonObject.get?_set_ne (Ne.symm notId),
    JsonObject.get?_set_ne (Ne.symm notEmail)]

theorem loginOf_stampUpdatedClient (old : JsonText) (now : Int)
    (client : Json) :
    loginOf (stampUpdatedClient old now client) = loginOf client := by
  cases client with
  | obj fields =>
      have created : loginOf (.obj (
          if (JsonObject.get? fields "created_at").isSome then fields
          else JsonObject.set fields "created_at"
            (.int ((oldStamp old "created_at"
              (JsonObject.get fields "email").text.value).getD now)))) =
            loginOf (.obj fields) := by
        split
        · rfl
        · exact loginOf_set (by decide) (by decide)
      simp only [stampUpdatedClient]
      split
      · exact created
      · split
        · exact created
        · rw [loginOf_set (by decide) (by decide)]
          exact created
  | _ => rfl

theorem loginOf_stampNewClient (now : Int) (client : Json) :
    loginOf (stampNewClient now client) = loginOf client := by
  cases client with
  | obj fields =>
      simp only [stampNewClient]
      rw [loginOf_set (by decide) (by decide)]
      split
      · rfl
      · exact loginOf_set (by decide) (by decide)
  | _ => rfl

theorem loginOf_stampReplacing (old : Option Json) (now : Int)
    (client : Json) :
    loginOf (stampReplacing old now client) = loginOf client := by
  cases client with
  | obj fields =>
      simp only [stampReplacing]
      rw [loginOf_set (by decide) (by decide),
        loginOf_set (by decide) (by decide)]
  | _ => rfl

/-- The value of an omitted or written text field. -/
theorem get?_textField (key other text : String) :
    JsonObject.get? (Client.textField key text) other =
      if other = key ∧ text ≠ "" then some (.str text) else none := by
  unfold Client.textField
  by_cases same : other = key
  · split <;> simp_all [JsonObject.get?]
  · have skipped : (other == key) = false := by simpa using same
    split <;> simp [same, JsonObject.get?, List.lookup_cons, skipped]

theorem get?_numberField {key other : String} (number : Int)
    (differs : other ≠ key) :
    JsonObject.get? (Client.numberField key number) other = none := by
  have skipped : (other == key) = false := by simpa using differs
  unfold Client.numberField
  split <;> simp [JsonObject.get?, List.lookup_cons, skipped]

theorem loginOf_encode (client : Client) :
    loginOf client.encode = ⟨client.id, client.email⟩ := by
  simp only [loginOf, Client.encode, Json.record, Login.decode,
    Decoded.value_field, Decoded.value_record, JsonObject.get, get?_append,
    get?_textField, get?_numberField _ (show "id" ≠ "updated_at" by decide),
    get?_numberField _ (show "id" ≠ "created_at" by decide),
    get?_numberField _ (show "email" ≠ "updated_at" by decide),
    get?_numberField _ (show "email" ≠ "created_at" by decide)]
  by_cases empty : client.id = ""
  · simp [empty, JsonObject.get?, List.lookup_cons, Json.text]
  · simp [empty, JsonObject.get?, List.lookup_cons, Json.text]

/-- The clients of settings carry the logins. -/
theorem map_getClients {settings : JsonText} {clients : List Client}
    (found : getClients settings = some clients) :
    (clients.map fun client => (⟨client.id, client.email⟩ : Login)) =
      logins settings := by
  have listed : ∀ value : Json,
      ((Json.list (Json.record Client.decode) value).value.map fun client =>
        (⟨client.id, client.email⟩ : Login)) =
          (Json.list (Json.record Login.decode) value).value := by
    intro value
    cases value with
    | arr items =>
        simp only [Json.value_list_arr, List.map_map]
        apply List.map_congr_left
        intro item _
        cases item <;> rfl
    | _ => rfl
  unfold getClients at found
  split at found
  · cases found
  · rw [← Option.some.inj found]
    exact listed _

theorem logins_stampAdded {settings : JsonText} {clients : List Client}
    (found : getClients settings = some clients) (now : Int) :
    logins (stampAdded settings clients now) = logins settings := by
  unfold stampAdded
  split
  next client rest fields =>
    rw [← map_getClients found, logins_set_clients, List.map_map]
    apply List.map_congr_left
    intro other _
    exact loginOf_encode (stampClient now other)
  · rfl

theorem logins_stampUpdated (old settings : JsonText) (now : Int) :
    logins (stampUpdated old settings now) = logins settings := by
  unfold stampUpdated
  split
  next fields =>
    split
    next clients stored =>
      have before : logins (.parsed (.obj fields)) = clients.map loginOf :=
        logins_of_array stored
      rw [before, logins_set_clients, List.map_map]
      exact List.map_congr_left fun client _ =>
        loginOf_stampUpdatedClient old now client
    · rfl
  · rfl

theorem logins_normalizeRanges {inbounds : Inbounds} {inbound normal : Inbound}
    {excludeId : Int}
    (accepted : normalizeRanges inbounds inbound excludeId = .ok normal) :
    logins normal.settings = logins inbound.settings := by
  rcases inbound.protocol.vpn_or_not with ⟨backend, isVpn⟩ | notVpn
  · obtain ⟨raw, normalized, read, -, rfl⟩ :=
      (normalizeRanges_of_vpn isVpn).mp accepted
    apply logins_congr
    have same : raw = inbound.settings.fields := by
      unfold rawSettings? at read
      split at read
      next empty => rw [empty, ← Option.some.inj read]; rfl
      next settings _ =>
        obtain ⟨fields, object, rfl⟩ := Option.map_eq_some_iff.mp read
        rw [JsonText.fields, object]
        rfl
    rw [← same]
    exact writeRanges_get?_ne (by decide) (by decide) (by decide)
  · rw [normalizeRanges_of_not_vpn notVpn] at accepted
    rw [Except.ok.inj accepted]

end VpnUi.Panel
