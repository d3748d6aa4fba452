import VpnUi.Panel.CopyClients
import VpnUi.Panel.Logins

namespace VpnUi.Panel

open Foundation

/-! The passwords of the stored clients, and what each request makes of them. -/

/-- The password a stored client gives, whatever its other fields are. -/
def passwordOf : Json → String
  | .obj fields => (JsonObject.get fields "password").text.value
  | _ => ""

def passwords (settings : JsonText) : List String :=
  match settings.fields.get "clients" with
  | .arr clients => clients.map passwordOf
  | _ => []

theorem passwords_of_array {settings : JsonText} {clients : List Json}
    (stored : settings.fields.get "clients" = .arr clients) :
    passwords settings = clients.map passwordOf := by
  rw [passwords, stored]

theorem passwords_set_clients (fields : JsonObject) (clients : List Json) :
    passwords (.parsed (.obj (JsonObject.set fields "clients"
      (.arr clients)))) = clients.map passwordOf := by
  apply passwords_of_array
  simp [JsonText.fields, JsonText.object?, JsonObject.get]

theorem passwords_withClients (old : Inbound) (clients : List Json) :
    passwords (withClients old clients).settings = clients.map passwordOf :=
  passwords_set_clients _ clients

/-- A stamp leaves the password alone. -/
theorem passwordOf_set {fields : JsonObject} {key : String} {value : Json}
    (notPassword : key ≠ "password") :
    passwordOf (.obj (JsonObject.set fields key value)) =
      passwordOf (.obj fields) := by
  rw [passwordOf, passwordOf, JsonObject.get, JsonObject.get,
    JsonObject.get?_set_ne (Ne.symm notPassword)]

theorem passwordOf_stampUpdatedClient (old : JsonText) (now : Int)
    (client : Json) :
    passwordOf (stampUpdatedClient old now client) = passwordOf client := by
  cases client with
  | obj fields =>
      have created : passwordOf (.obj (
          if (JsonObject.get? fields "created_at").isSome then fields
          else JsonObject.set fields "created_at"
            (.int ((oldStamp old "created_at"
              (JsonObject.get fields "email").text.value).getD now)))) =
            passwordOf (.obj fields) := by
        split
        · rfl
        · exact passwordOf_set (by decide)
      simp only [stampUpdatedClient]
      split
      · exact created
      · split
        · exact created
        · rw [passwordOf_set (by decide)]
          exact created
  | _ => rfl

theorem passwordOf_stampNewClient (now : Int) (client : Json) :
    passwordOf (stampNewClient now client) = passwordOf client := by
  cases client with
  | obj fields =>
      simp only [stampNewClient]
      rw [passwordOf_set (by decide)]
      split
      · rfl
      · exact passwordOf_set (by decide)
  | _ => rfl

theorem passwordOf_stampReplacing (old : Option Json) (now : Int)
    (client : Json) :
    passwordOf (stampReplacing old now client) = passwordOf client := by
  cases client with
  | obj fields =>
      simp only [stampReplacing]
      rw [passwordOf_set (by decide), passwordOf_set (by decide)]
  | _ => rfl

theorem passwordOf_encode (client : Client) :
    passwordOf client.encode = client.password := by
  simp only [passwordOf, Client.encode, JsonObject.get, get?_append,
    get?_textField,
    get?_numberField _ (show "password" ≠ "updated_at" by decide),
    get?_numberField _ (show "password" ≠ "created_at" by decide)]
  by_cases empty : client.password = ""
  · simp [empty, JsonObject.get?, List.lookup_cons, Json.text]
  · simp [empty, JsonObject.get?, List.lookup_cons, Json.text]

/-- The typed clients carry the passwords. -/
theorem map_password_getClients {settings : JsonText} {clients : List Client}
    (found : getClients settings = some clients) :
    clients.map Client.password = passwords settings := by
  unfold getClients at found
  split at found
  · cases found
  · rw [← Option.some.inj found, passwords]
    cases JsonObject.get (JsonText.fields _) "clients" with
    | arr items =>
        simp only [Json.value_list_arr, List.map_map]
        apply List.map_congr_left
        intro item _
        cases item <;> rfl
    | _ => rfl

theorem passwords_stampAdded {settings : JsonText} {clients : List Client}
    (found : getClients settings = some clients) (now : Int) :
    passwords (stampAdded settings clients now) = passwords settings := by
  unfold stampAdded
  split
  next client rest fields =>
    rw [← map_password_getClients found, passwords_set_clients, List.map_map]
    apply List.map_congr_left
    intro other _
    exact passwordOf_encode (stampClient now other)
  · rfl

theorem passwords_stampUpdated (old settings : JsonText) (now : Int) :
    passwords (stampUpdated old settings now) = passwords settings := by
  unfold stampUpdated
  split
  next fields =>
    split
    next clients stored =>
      have before : passwords (.parsed (.obj fields)) =
          clients.map passwordOf := passwords_of_array stored
      rw [before, passwords_set_clients, List.map_map]
      exact List.map_congr_left fun client _ =>
        passwordOf_stampUpdatedClient old now client
    · rfl
  · rfl

theorem passwords_clientsForm (id : Int) (clients : List Client) :
    passwords (clientsForm id clients).settings =
      clients.map Client.password := by
  have stored : (clientsForm id clients).settings.fields.get "clients" =
      .arr (clients.map Client.encode) := rfl
  rw [passwords_of_array stored, List.map_map]
  exact List.map_congr_left fun client _ => passwordOf_encode client

end VpnUi.Panel
