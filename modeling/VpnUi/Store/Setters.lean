import VpnUi.Store.Requests

namespace VpnUi.Store

open Foundation Panel

/-! The setters that find a client by its e-mail and replace it by a changed
copy. -/

inductive EmailSetting
  | telegramUserID (tgId : Int)
  | toggleEnable
  | enable (enable : Bool)
  | ipLimit (count : Int)
  | expiryTime (expiry : Int)
  | trafficLimit (totalGB : Int)

inductive SetterError
  | negativeTotal
  | noInbound (email : String)
  | noClient (email : String)
  | request (error : RequestError)

def SetterError.text : SetterError → String
  | negativeTotal => "totalGB must be >= 0\n"
  | noInbound email => "Inbound Not Found For Email: " ++ email ++ "\n"
  | noClient email => "Client Not Found For Email: " ++ email ++ "\n"
  | request error => error.text

/-- The field a setter writes, given the client as it was read. -/
def EmailSetting.field (old : Client) : EmailSetting → String × Json
  | telegramUserID tgId => ("tgId", .int tgId)
  | toggleEnable | enable _ => ("enable", .bool !old.enable)
  | ipLimit count => ("limitIp", .int count)
  | expiryTime expiry => ("expiryTime", .int expiry)
  | trafficLimit totalGB =>
      ("totalGB", .int (wrap64 (totalGB * 1024 * 1024 * 1024)))

/-- The key the setters look for; the switch of the source leaves out OpenVPN
and Hysteria. -/
def setterKey (protocol : Protocol) (client : Client) : String :=
  match protocol with
  | .trojan | .vpn .l2tp | .vpn .pptp => client.password
  | .shadowsocks => client.email
  | _ => client.id

/-- The client with the e-mail, changed. -/
def setterItem (email : String) (field : String × Json) (now : Int) :
    Json → Option Json
  | .obj fields =>
      match JsonObject.get fields "email" with
      | .str name =>
          if name = email then
            some (.obj (JsonObject.set (JsonObject.set fields field.1 field.2)
              "updated_at" (.int now)))
          else none
      | _ => none
  | _ => none

/-- The form that a setter gives to the update of a client, and the key. -/
def setterForm (email : String) (setting : EmailSetting) (now : Int)
    (database : Database) : Except SetterError (Inbound × String) :=
  match database.traffics.find? email with
  | none => .error (.noInbound email)
  | some traffic =>
      match database.inbounds.find? traffic.inboundId with
      | none => .error (.request (.panel .notFound))
      | some row =>
          match getClients row.settings with
          | none => .error (.request (.panel .nullSettings))
          | some clients =>
              match clients.find? (·.email = email) with
              | none => .error (.noClient email)
              | some old =>
                  let clientId := setterKey row.protocol old
                  if clientId = "" then .error (.noClient email)
                  else
                    match row.settings.object? with
                    | none => .error (.request (.panel .malformedSettings))
                    | some object =>
                        let fields := object.getD []
                        match JsonObject.get fields "clients" with
                        | .arr items =>
                            if items.all isObject then
                              .ok ({ row.toInbound with
                                settings := .parsed (.obj
                                  (JsonObject.set fields "clients"
                                    (sliceJson (items.filterMap (setterItem
                                      email (setting.field old) now))))) },
                                clientId)
                            else .error (.request (.panel .panicked))
                        | _ => .error (.request (.panel .panicked))

/-- `checkIsEnabledByEmail`. -/
def checkIsEnabledByEmail (email : String) (database : Database) :
    Except SetterError Bool :=
  match database.traffics.find? email with
  | none => .error (.noInbound email)
  | some traffic =>
      match database.inbounds.find? traffic.inboundId with
      | none => .error (.request (.panel .notFound))
      | some row =>
          match getClients row.settings with
          | none => .error (.request (.panel .nullSettings))
          | some clients =>
              .ok ((clients.find? (·.email = email)).elim false Client.enable)

def replaceByEmail (email : String) (setting : EmailSetting)
    (host : PanelHost) (database : Database) : Option SetterError × Database :=
  match setterForm email setting host.now database with
  | .error error => (some error, database)
  | .ok (form, clientId) =>
      let (error, after) := perform (.updateInboundClient form clientId) host
        Call.noFaults database
      (error.map .request, after)

def setByEmail (email : String) (setting : EmailSetting) (host : PanelHost)
    (database : Database) : Option SetterError × Database :=
  match setting with
  | .enable enable =>
      match checkIsEnabledByEmail email database with
      | .error error => (some error, database)
      | .ok current =>
          if current = enable then (none, database)
          else replaceByEmail email .toggleEnable host database
  | .trafficLimit totalGB =>
      if totalGB < 0 then (some .negativeTotal, database)
      else replaceByEmail email (.trafficLimit totalGB) host database
  | setting => replaceByEmail email setting host database

theorem replaceByEmail_eq_none {email : String} {setting : EmailSetting}
    {host : PanelHost} {database after : Database}
    (succeeded : replaceByEmail email setting host database = (none, after)) :
    ∃ form clientId, perform (.updateInboundClient form clientId) host
      Call.noFaults database = (none, after) := by
  unfold replaceByEmail at succeeded
  split at succeeded
  · cases succeeded
  next form clientId _ =>
    refine ⟨form, clientId, ?_⟩
    obtain ⟨error, same⟩ := Prod.mk.inj succeeded
    exact Prod.ext (Option.map_eq_none_iff.mp error) same

/-- A setter has left everything as it was, or has updated a client. -/
theorem setByEmail_eq_none {email : String} {setting : EmailSetting}
    {host : PanelHost} {database after : Database}
    (succeeded : setByEmail email setting host database = (none, after)) :
    after = database ∨ ∃ form clientId,
      perform (.updateInboundClient form clientId) host Call.noFaults
        database = (none, after) := by
  unfold setByEmail at succeeded
  split at succeeded
  next enable =>
    split at succeeded
    · cases succeeded
    · split at succeeded
      · exact .inl (Prod.mk.inj succeeded).2.symm
      · exact .inr (replaceByEmail_eq_none succeeded)
  next totalGB =>
    split at succeeded
    · cases succeeded
    · exact .inr (replaceByEmail_eq_none succeeded)
  next => exact .inr (replaceByEmail_eq_none succeeded)

end VpnUi.Store
