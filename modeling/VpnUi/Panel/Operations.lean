import VpnUi.Panel.Client

namespace VpnUi.Panel

open Foundation Address

/-! The operations of the inbound service on the inbounds table.  A panic of
the source is an error here: the request fails and nothing is saved. -/

inductive PanelError
  | notProvisioned
  | normalize (error : NormalizeError)
  | openVpnSettings
  | openVpnTransport
  | openVpnUdpPort (port : Int)
  | openVpnTcpPort (port : Int)
  | openVpnCertificate
  | sstpSettings
  | sstpPort (port : Int)
  | sstpCertificate
  | invalidPort (port : Int)
  | portExists (port : Int)
  | duplicateEmail (email : String)
  | duplicateUsername (username : String)
  | emptyClientId
  | noClientRemained
  | nullSettings
  | notFound
  | malformedSettings
  /-- A statement of the database failed. -/
  | database
  | panicked

/-- The messages of the panel's own errors. -/
def PanelError.text : PanelError → String
  | normalize error => error.text
  | openVpnSettings => "Invalid OpenVPN settings: "
  | openVpnTransport =>
      "OpenVPN requires at least one of TCP/UDP enabled\n"
  | openVpnUdpPort port =>
      "Invalid OpenVPN UDP port (must be 1-65535): " ++ toString port ++ "\n"
  | openVpnTcpPort port =>
      "Invalid OpenVPN TCP port (must be 1-65535): " ++ toString port ++ "\n"
  | openVpnCertificate =>
      "OpenVPN certificate is required: generate or provide a certificate " ++
        "before saving\n"
  | sstpSettings => "Invalid SSTP settings: "
  | sstpPort port =>
      "Invalid SSTP port (must be 1-65535): " ++ toString port ++ "\n"
  | sstpCertificate =>
      "SSTP certificate is required: generate or provide a certificate " ++
        "before saving\n"
  | invalidPort port =>
      "Invalid port (must be 1-65535): " ++ toString port ++ "\n"
  | portExists port => "Port already exists: " ++ toString port ++ "\n"
  | duplicateEmail email => "Duplicate email: " ++ email ++ "\n"
  | duplicateUsername username =>
      "Duplicate username: " ++ username ++ "\n"
  | emptyClientId => "empty client ID\n"
  | noClientRemained => "no client remained in Inbound\n"
  | nullSettings => "setting is null"
  | notFound => "record not found"
  | notProvisioned | malformedSettings | database | panicked => ""

/-- What an operation takes from its surroundings: the clock in milliseconds,
the key SQLite gives to a new row, whether the statements on the tables left
out here succeed, and whether the host is provisioned. -/
structure PanelHost where
  now : Int
  freshId : Int
  statsOk : Bool
  provisioned : Bool

def validPort (port : Int) : Bool := 1 ≤ port ∧ port ≤ 65535

structure OpenVpnConfig where
  tcpEnable : Bool
  tcpPort : Int
  udpEnable : Bool
  caCert : String
  serverCert : String

def OpenVpnConfig.decode (fields : JsonObject) : Decoded OpenVpnConfig :=
  (Decoded.record OpenVpnConfig.mk).field (fields.get "tcpEnable").flag
    |>.field (fields.get "tcpPort").number
    |>.field (fields.get "udpEnable").flag
    |>.field (fields.get "caCert").text
    |>.field (fields.get "serverCert").text

structure SstpConfig where
  tlsUseFile : Bool
  certificateFile : String
  keyFile : String
  certificate : String
  key : String

def SstpConfig.decode (fields : JsonObject) : Decoded SstpConfig :=
  (Decoded.record SstpConfig.mk).field (fields.get "tlsUseFile").flag
    |>.field (fields.get "certificateFile").text
    |>.field (fields.get "keyFile").text
    |>.field (fields.get "certificate").text
    |>.field (fields.get "key").text

def validateInboundConfig (inbound : Inbound) : Except PanelError Unit :=
  match inbound.protocol with
  | .vpn .openvpn =>
      match inbound.settings.decode OpenVpnConfig.decode with
      | none => .error .openVpnSettings
      | some config =>
          if !config.tcpEnable && !config.udpEnable then
            .error .openVpnTransport
          else if config.udpEnable && !validPort inbound.port then
            .error (.openVpnUdpPort inbound.port)
          else if config.tcpEnable && !validPort config.tcpPort then
            .error (.openVpnTcpPort config.tcpPort)
          else if trimText config.caCert = "" ∨
              trimText config.serverCert = "" then
            .error .openVpnCertificate
          else .ok ()
  | .vpn .sstp =>
      match inbound.settings.decode SstpConfig.decode with
      | none => .error .sstpSettings
      | some config =>
          let hasFile := config.tlsUseFile &&
            trimText config.certificateFile ≠ "" && trimText config.keyFile ≠ ""
          let hasInline := trimText config.certificate ≠ "" &&
            trimText config.key ≠ ""
          if !validPort inbound.port then .error (.sstpPort inbound.port)
          else if !hasFile && !hasInline then .error .sstpCertificate
          else .ok ()
  | _ =>
      if validPort inbound.port then .ok ()
      else .error (.invalidPort inbound.port)

def anyListen (listen : String) : Bool :=
  listen ∈ ["", "0.0.0.0", "::", "::0"]

def checkPortExist (inbounds : Inbounds) (listen : String) (port : Int)
    (ignoreId : Int) : Bool :=
  inbounds.rows.any fun row =>
    row.port = port && (ignoreId ≤ 0 || row.id ≠ ignoreId) &&
      (anyListen listen || row.listen = listen || anyListen row.listen)

def inboundTag (listen : String) (port : Int) : String :=
  if anyListen listen then "inbound-" ++ toString port
  else "inbound-" ++ listen ++ ":" ++ toString port

/-- Save a row under the unique index of the tags. -/
def saveInbound (inbounds : Inbounds) (row : Inbound) :
    Except PanelError Inbounds :=
  if inbounds.rows.any fun other => other.id ≠ row.id && other.tag = row.tag
  then .error .database
  else .ok (inbounds.save row)

def checkEmails (inbounds : Inbounds) (clients : List Client) :
    Except PanelError Unit :=
  match getAllEmails inbounds with
  | none => .error .database
  | some stored =>
      match firstDuplicate stored [] (clients.map Client.email) with
      | some email => .error (.duplicateEmail email)
      | none => .ok ()

/-- Only these four protocols have their usernames checked. -/
def checksUsernames (protocol : Protocol) : Bool :=
  protocol ∈ [.vpn .l2tp, .vpn .pptp, .vpn .openvpn, .vpn .sstp]

def checkUsernames (inbounds : Inbounds) (protocol : Protocol)
    (clients : List Client) : Except PanelError Unit :=
  if checksUsernames protocol then
    match getAllPPPUsernames inbounds protocol with
    | none => .error .database
    | some stored =>
        match firstDuplicate stored [] (clients.map Client.id) with
        | some username => .error (.duplicateUsername username)
        | none => .ok ()
  else .ok ()

/-- The field an added inbound must give for each client. -/
def addedClientKey (protocol : Protocol) (client : Client) : String :=
  match protocol with
  | .trojan | .vpn .l2tp | .vpn .pptp | .vpn .sstp => client.password
  | .shadowsocks => client.email
  | .hysteria | .hysteria2 => client.auth
  | _ => client.id

/-- The name of the field that identifies a client of a stored inbound. -/
def clientKeyName : Protocol → String
  | .trojan | .vpn .l2tp | .vpn .pptp | .vpn .openvpn => "password"
  | .shadowsocks => "email"
  | .hysteria | .hysteria2 => "auth"
  | _ => "id"

def clientKey (protocol : Protocol) (client : Client) : String :=
  match protocol with
  | .trojan | .vpn .l2tp | .vpn .pptp | .vpn .openvpn => client.password
  | .shadowsocks => client.email
  | .hysteria | .hysteria2 => client.auth
  | _ => client.id

def stampClient (now : Int) (client : Client) : Client :=
  { client with
    createdAt := if client.createdAt = 0 then now else client.createdAt
    updatedAt := now }

/-- The settings of an added inbound, its clients written back with their
timestamps. -/
def stampAdded (settings : JsonText) (clients : List Client) (now : Int) :
    JsonText :=
  match clients, settings with
  | _ :: _, .parsed (.obj fields) =>
      .parsed (.obj (JsonObject.set fields "clients"
        (.arr (clients.map fun client => (stampClient now client).encode))))
  | _, settings => settings

/-- `AddInbound`, which saves under the id of the form unless it is 0. -/
def addInbound (inbounds : Inbounds) (inbound : Inbound) (host : PanelHost) :
    Except PanelError Inbounds := do
  validateInboundConfig inbound
  if checkPortExist inbounds inbound.listen inbound.port 0 then
    .error (.portExists inbound.port)
  match getClients inbound.settings with
  | none => .error .nullSettings
  | some clients =>
      checkEmails inbounds clients
      if clients.any fun client => addedClientKey inbound.protocol client = ""
      then .error .emptyClientId
      checkUsernames inbounds inbound.protocol clients
      saveInbound inbounds { inbound with
        id := if inbound.id = 0 then host.freshId else inbound.id
        settings := stampAdded inbound.settings clients host.now }

def delInbound (inbounds : Inbounds) (id : Int) (host : PanelHost) :
    Except PanelError Inbounds :=
  match inbounds.find? id with
  | none => .error .notFound
  | some inbound =>
      if getClients inbound.settings = none then .error .nullSettings
      else if host.statsOk then .ok (inbounds.delete id)
      else .error .database

/-- The positive timestamp an old client with this e-mail has under `key`. -/
def oldStamp (old : JsonText) (key email : String) : Option Int :=
  match JsonObject.get old.fields "clients" with
  | .arr clients =>
      (clients.reverse.findSome? fun client =>
        match client with
        | .obj fields =>
            match JsonObject.get fields "email", JsonObject.get fields key with
            | .str found, .int stamp => if found = email then some stamp else none
            | _, _ => none
        | _ => none).filter (0 < ·)
  | _ => none

def stampUpdatedClient (old : JsonText) (now : Int) : Json → Json
  | .obj fields =>
      let email := (JsonObject.get fields "email").text.value
      let created :=
        if (JsonObject.get? fields "created_at").isSome then fields
        else JsonObject.set fields "created_at"
          (.int ((oldStamp old "created_at" email).getD now))
      .obj <|
        if (JsonObject.get? fields "updated_at").isSome then created
        else
          match oldStamp old "updated_at" email with
          | none => created
          | some stamp => JsonObject.set created "updated_at" (.int stamp)
  | client => client

def stampUpdated (old settings : JsonText) (now : Int) : JsonText :=
  match settings with
  | .parsed (.obj fields) =>
      match JsonObject.get fields "clients" with
      | .arr clients =>
          .parsed (.obj (JsonObject.set fields "clients"
            (.arr (clients.map (stampUpdatedClient old now)))))
      | _ => settings
  | settings => settings

/-- `UpdateInbound`: no e-mail and no username is checked. -/
def updateInbound (inbounds : Inbounds) (inbound : Inbound)
    (host : PanelHost) : Except PanelError Inbounds := do
  validateInboundConfig inbound
  if checkPortExist inbounds inbound.listen inbound.port inbound.id then
    .error (.portExists inbound.port)
  match inbounds.find? inbound.id with
  | none => .error .notFound
  | some old =>
      if getClients old.settings = none ∨ getClients inbound.settings = none
      then .error .nullSettings
      if !host.statsOk then .error .database
      saveInbound inbounds { old with
        enable := inbound.enable
        listen := inbound.listen
        port := inbound.port
        protocol := inbound.protocol
        settings := stampUpdated old.settings inbound.settings host.now
        tag := inboundTag inbound.listen inbound.port }

/-- The items of an array, `settings["clients"].([]any)`. -/
def clientArray (fields : JsonObject) : Except PanelError (List Json) :=
  match fields.get "clients" with
  | .arr clients => .ok clients
  | _ => .error .panicked

def settingsMap (settings : JsonText) : Except PanelError JsonObject :=
  match settings.object? with
  | none => .error .malformedSettings
  | some fields => .ok (fields.getD [])

def stampNewClient (now : Int) : Json → Json
  | .obj fields =>
      let created :=
        if (JsonObject.get? fields "created_at").isSome then fields
        else JsonObject.set fields "created_at" (.int now)
      .obj (JsonObject.set created "updated_at" (.int now))
  | client => client

/-- The cipher of a Shadowsocks inbound is asserted to be a text. -/
def lacksCipher (old : Inbound) (fields : JsonObject) : Bool :=
  old.protocol = .shadowsocks &&
    match fields.get "method" with
    | .str _ => false
    | _ => true

def addInboundClient (inbounds : Inbounds) (data : Inbound)
    (host : PanelHost) : Except PanelError Inbounds := do
  match getClients data.settings with
  | none => .error .nullSettings
  | some clients =>
      let added ← clientArray (← settingsMap data.settings)
      checkEmails inbounds clients
      match inbounds.find? data.id with
      | none => .error .notFound
      | some old =>
          if clients.any fun client => clientKey old.protocol client = ""
          then .error .emptyClientId
          checkUsernames inbounds old.protocol clients
          let fields ← settingsMap old.settings
          let stored ← clientArray fields
          if lacksCipher old fields && clients.any fun client =>
              client.email ≠ "" && client.enable then
            .error .panicked
          saveInbound inbounds { old with
            settings := .parsed (.obj (JsonObject.set fields "clients"
              (.arr (stored ++ added.map (stampNewClient host.now))))) }

/-- The client's own key, asserted to be a text. -/
def keyText (key : String) : Json → Option String
  | .obj fields =>
      match JsonObject.get fields key with
      | .str text => some text
      | _ => none
  | _ => none

def delInboundClient (inbounds : Inbounds) (id : Int) (clientId : String)
    (host : PanelHost) : Except PanelError Inbounds := do
  match inbounds.find? id with
  | none => .error .notFound
  | some old =>
      let fields ← settingsMap old.settings
      let stored ← clientArray fields
      let key := clientKeyName old.protocol
      if stored.any fun client => keyText key client = none then
        .error .panicked
      let kept := stored.filter fun client => keyText key client ≠ some clientId
      if kept = [] then .error .noClientRemained
      if !host.statsOk then .error .database
      saveInbound inbounds { old with
        settings := .parsed (.obj (JsonObject.set fields "clients"
          (.arr kept))) }

/-- The client that replaces an old one keeps its time of creation. -/
def stampReplacing (old : Option Json) (now : Int) : Json → Json
  | .obj fields =>
      let preserved :=
        match old with
        | some (.obj oldFields) => JsonObject.get oldFields "created_at"
        | _ => .null
      let created :=
        match preserved with
        | .null => .int now
        | stamp => stamp
      .obj (JsonObject.set (JsonObject.set fields "created_at" created)
        "updated_at" (.int now))
  | client => client

/-- The rest of `UpdateInboundClient`, once the rows and the forms are read:
the old client with key `clientId` is replaced by the first given one. -/
def replaceClient (inbounds : Inbounds) (old : Inbound)
    (oldClients clients : List Client) (clientId : String) (client : Client)
    (replacement : Json) (host : PanelHost) : Except PanelError Inbounds := do
  if clientKey old.protocol client = "" then .error .emptyClientId
  match oldClients.findIdx? fun other =>
      clientId = clientKey old.protocol other with
  | none => .error .emptyClientId
  | some index =>
      let oldClient := oldClients[index]?
      let oldEmail := oldClient.elim "" Client.email
      if client.email ≠ "" ∧ client.email ≠ oldEmail then
        checkEmails inbounds clients
      if oldClient.map Client.id ≠ some client.id then
        checkUsernames inbounds old.protocol clients
      let fields ← settingsMap old.settings
      let stored ← clientArray fields
      if !host.statsOk then .error .database
      if lacksCipher old fields && oldEmail ≠ "" && client.enable then
        .error .panicked
      saveInbound inbounds { old with
        settings := .parsed (.obj (JsonObject.set fields "clients"
          (.arr (stored.set index
            (stampReplacing stored[index]? host.now replacement))))) }

def updateInboundClient (inbounds : Inbounds) (data : Inbound)
    (clientId : String) (host : PanelHost) : Except PanelError Inbounds := do
  match getClients data.settings with
  | none => .error .nullSettings
  | some clients =>
      let given ← clientArray (← settingsMap data.settings)
      match inbounds.find? data.id with
      | none => .error .notFound
      | some old =>
          match getClients old.settings with
          | none => .error .nullSettings
          | some oldClients =>
              if oldClients = [] then .error .emptyClientId
              match clients, given with
              | client :: _, replacement :: _ =>
                  replaceClient inbounds old oldClients clients clientId client
                    replacement host
              | _, _ => .error .panicked

end VpnUi.Panel
