import VpnUi.Sub.ExternalEntries

namespace VpnUi.Sub

open Foundation

/-! The Clash profile: the entries of one client, and the profile of all. -/

/-! Streams. -/

/-- `fmt.Sprint` of what JSON can hold in a list of names. -/
def sprintName : Json → String
  | .str text => text
  | .bool value => if value then "true" else "false"
  | .int value => toString value
  | .real literal => literal
  | .null => "<nil>"
  | _ => ""

def clashRealityFields (rData : JsonObject) : JsonObject :=
  let settings := ((rData.get? "settings").bind Json.object?).getD []
  let textOf (key : String) : JsonObject :=
    ((settings.get? key).bind Json.text?).toList.map fun text =>
      (key, .str text)
  let firstOf (key name : String) : JsonObject :=
    (((rData.get? key).bind Json.list?).bind List.head?).toList.map
      fun first => (name, .str (sprintName first))
  textOf "publicKey" ++ textOf "fingerprint" ++
    firstOf "serverNames" "serverName" ++ firstOf "shortIds" "shortId"

/-- A security without an object of settings is left as it is. -/
def clashStream (stream : Fields) : Fields :=
  let stream :=
    if Json.isText (stream "security") "tls" then
      match (stream "tlsSettings").bind Json.object? with
      | some tData => stream.set "tlsSettings" (.obj (tlsFields tData))
      | none => stream
    else if Json.isText (stream "security") "reality" then
      match (stream "realitySettings").bind Json.object? with
      | some rData =>
          stream.set "realitySettings" (.obj (clashRealityFields rData))
      | none => stream
    else stream
  (stream.erase "sockopt").erase "externalProxy"

/-- What the switch on `forceTls` does to the copy of the stream. -/
def clashForceStream (stream : Fields) : ForceTls → Fields
  | .same => stream
  | .tls =>
      if Json.isText (stream "security") "tls" then stream
      else (stream.setText "security" "tls").set "tlsSettings" (.obj [])
  | .none =>
      if Json.isText (stream "security") "none" then stream
      else
        ((stream.setText "security" "none").erase "tlsSettings").erase
          "realitySettings"

/-! Proxies. -/

/-- The text of a field of the settings that a stream has under a key. -/
def settingText (settings : JsonObject) (key : String) : String :=
  ((settings.get? key).bind Json.text?).getD ""

def settingsOf (stream : Fields) (key : String) : JsonObject :=
  ((stream key).bind Json.object?).getD []

/-- One of the fields named `Host`, in any case, of a headers object; the keys
are taken in their order. -/
def headerHost (headers : JsonObject) : String :=
  match headers.find? (·.1.toLower = "host") with
  | some (_, .str host) => host
  | some (_, .arr hosts) => (hosts.head?.bind Json.text?).getD ""
  | _ => ""

def wsOpts (ws : JsonObject) : JsonObject :=
  let host :=
    if settingText ws "host" ≠ "" then settingText ws "host"
    else headerHost (((ws.get? "headers").bind Json.object?).getD [])
  omitEmpty "path" (settingText ws "path") ++
    if host = "" then [] else [("headers", .obj [("Host", .str host)])]

/-- A TCP header other than none is not supported. -/
def plainHeader (tcp : JsonObject) : Bool :=
  let header := ((tcp.get? "header").bind Json.object?).getD []
  settingText header "type" ∈ ["", "none"]

def applyClashTransport (stream proxy : Fields) : Option Fields :=
  let network := ((stream "network").bind Json.text?).getD ""
  if network ∈ ["", "tcp"] then
    if plainHeader (settingsOf stream "tcpSettings") then
      some (proxy.setText "network" "tcp")
    else none
  else if network = "ws" then
    some ((proxy.setText "network" "ws").setObject "ws-opts"
      (wsOpts (settingsOf stream "wsSettings")))
  else if network = "grpc" then
    some ((proxy.setText "network" "grpc").setObject "grpc-opts"
      (omitEmpty "grpc-service-name"
        (settingText (settingsOf stream "grpcSettings") "serviceName")))
  else none

def applyClashSecurity (stream proxy : Fields) : Option Fields :=
  let security := ((stream "security").bind Json.text?).getD ""
  if security ∈ ["", "none"] then some (proxy.set "tls" (.bool false))
  else if security = "tls" then
    let tls := settingsOf stream "tlsSettings"
    let serverName := settingText tls "serverName"
    let proxy := (proxy.set "tls" (.bool true)).setNonempty "servername"
      serverName
    let proxy :=
      if Json.isText (proxy "type") "trojan" then
        proxy.setNonempty "sni" serverName
      else proxy
    some (proxy.setNonempty "client-fingerprint"
      (settingText tls "fingerprint"))
  else if security = "reality" then
    ((stream "realitySettings").bind Json.object?).map fun reality =>
      (((proxy.set "tls" (.bool true)).setNonempty "servername"
        (settingText reality "serverName")).setObject "reality-opts"
          (omitEmpty "public-key" (settingText reality "publicKey") ++
            omitEmpty "short-id" (settingText reality "shortId"))).setNonempty
              "client-fingerprint" (settingText reality "fingerprint")
  else none

section Proxies

variable (style : RemarkStyle) (inbound : EntryInbound) (client : EntryClient)
  (entry : ExternalEntry)

def proxyName : String :=
  inbound.remarkOf style client.email entry.remark

def proxyStart : Fields :=
  (((Fields.empty.setText "name" (proxyName style inbound client entry)).setText
    "server" entry.dest).set "port" (.int entry.port)).set "udp" (.bool true)

/-- The network is that of the stream; a proxy of shadowsocks needs a method. -/
def applyClashCredential (stream proxy : Fields) : Option Fields :=
  match inbound.protocol with
  | .vmess =>
      some ((((proxy.setText "type" "vmess").setText "uuid" client.id).set
        "alterId" (.int 0)).setText "cipher"
          (if client.security = "" then "auto" else client.security))
  | .vless =>
      let proxy := (proxy.setText "type" "vless").setText "uuid" client.id
      let proxy :=
        if Json.isText (stream "network") "tcp" then
          proxy.setNonempty "flow" client.flow
        else proxy
      some (proxy.setNonempty "packet-encoding" (inbound.encryption.getD ""))
  | .trojan =>
      some ((proxy.setText "type" "trojan").setText "password" client.password)
  | .shadowsocks =>
      let method := inbound.method.getD ""
      if method = "" then none
      else
        let server := inbound.password.getD ""
        let password :=
          if inbound.is2022 ∧ server ≠ "" then server ++ ":" ++ client.password
          else client.password
        some (((proxy.setText "type" "ss").setText "password" password).setText
          "cipher" method)
  | .hysteria | .hysteria2 => none

/-- The password of the first mask that is a salamander with one. -/
def salamanderPassword (raw : Fields) : String :=
  let masks := (((settingsOf raw "finalmask").get? "udp").bind
    Json.list?).getD []
  let salamanders := (masks.filterMap Json.object?).filter fun mask =>
    Json.isText (mask.get? "type") "salamander"
  let passwords := salamanders.map fun mask =>
    settingText (((mask.get? "settings").bind Json.object?).getD []) "password"
  (passwords.find? (· ≠ "")).getD ""

def alpnTexts (tls : JsonObject) : List Json :=
  ((((tls.get? "alpn").bind Json.list?).getD []).filterMap Json.text?).filter
    (· ≠ "") |>.map .str

/-- The TLS details of the stream settings of the row. -/
def applyHysteriaTls (raw proxy : Fields) : Fields :=
  let tls := settingsOf raw "tlsSettings"
  let inner := ((tls.get? "settings").bind Json.object?).getD []
  let proxy := proxy.setNonempty "sni" (settingText tls "serverName")
  let proxy :=
    if alpnTexts tls = [] then proxy else proxy.set "alpn" (.arr (alpnTexts tls))
  let proxy :=
    if (inner.get? "allowInsecure").bind Json.flag? = some true then
      proxy.set "skip-cert-verify" (.bool true)
    else proxy
  proxy.setNonempty "client-fingerprint" (settingText inner "fingerprint")

def applySalamander (raw proxy : Fields) : Fields :=
  let password := salamanderPassword raw
  if password = "" then proxy
  else (proxy.setText "obfs" "salamander").setText "obfs-password" password

/-- Version 1 has a type and a key of its own. -/
def buildHysteriaProxy : Fields :=
  let raw := inbound.streamSettings
  let proxy := (proxyStart style inbound client entry).setText "type"
    (if inbound.version = 1 then "hysteria" else "hysteria2")
  applySalamander raw (applyHysteriaTls raw
    (proxy.setText (if inbound.version = 1 then "auth-str" else "password")
      client.auth))

def buildClashProxy (stream : Fields) : Option Fields :=
  if inbound.protocol.isHysteria then
    some (buildHysteriaProxy style inbound client entry)
  else do
    let proxy ← applyClashTransport stream
      (proxyStart style inbound client entry)
    let proxy ← applyClashCredential inbound client stream proxy
    applyClashSecurity stream proxy

/-- The entries before those that are not supported are dropped. -/
def clashEntries (host : String) : List (Option Fields) :=
  (inbound.entries host).map fun entry =>
    buildClashProxy style inbound client entry
      (clashForceStream (clashStream inbound.streamSettings) entry.forceTls)

end Proxies

/-! The profile. -/

structure SubClient where
  account : EntryClient
  subId : String
  enable : Bool

/-- An inbound of the subscription with its clients; none if they can not be
read. -/
structure SubInbound where
  entry : EntryInbound
  listen : String
  clients : List SubClient

/-- What an inbound behind a fallback takes over. -/
structure MasterInbound where
  port : Int
  security : Option Json
  tlsSettings : Option Json
  externalProxy : List ExternalEntry

def SubInbound.resolve (getFallbackMaster : String → Option MasterInbound)
    (inbound : SubInbound) : EntryInbound :=
  if inbound.listen.toList.head? = some '@' then
    match getFallbackMaster inbound.listen with
    | some master =>
        { inbound.entry with
          port := master.port
          streamSettings :=
            (inbound.entry.streamSettings.set "security"
              (present master.security)).set "tlsSettings"
                (present master.tlsSettings)
          externalProxy := master.externalProxy }
    | none => inbound.entry
  else inbound.entry

/-- An entry that the loops come to. -/
structure Offer where
  inbound : EntryInbound
  client : EntryClient
  entry : ExternalEntry

/-- The loops of `GetClash` and `getProxies`. -/
def offers (getFallbackMaster : String → Option MasterInbound)
    (subId host : String) (inbounds : List SubInbound) : List Offer :=
  inbounds.flatMap fun inbound =>
    let resolved := inbound.resolve getFallbackMaster
    (inbound.clients.filter fun client =>
      client.enable && client.subId = subId).flatMap fun client =>
        (resolved.entries host).map fun entry =>
          ⟨resolved, client.account, entry⟩

def Offer.proxy (style : RemarkStyle) (offer : Offer) : Option Fields :=
  buildClashProxy style offer.inbound offer.client offer.entry
    (clashForceStream (clashStream offer.inbound.streamSettings)
      offer.entry.forceTls)

structure ClashConfig where
  proxies : List Fields
  group : List String

def nameOf (proxy : Fields) : String :=
  ((proxy "name").bind Json.text?).getD ""

/-- The only group, whose name is `PROXY`. -/
def clashConfig (proxies : List Fields) : ClashConfig where
  proxies := proxies
  group := (proxies.map nameOf).filter (· ≠ "") ++ ["DIRECT"]

/-- Without a proxy there is no profile. -/
def getClashProfile (style : RemarkStyle)
    (getFallbackMaster : String → Option MasterInbound) (subId host : String)
    (inbounds : List SubInbound) : Option ClashConfig :=
  let proxies := (offers getFallbackMaster subId host inbounds).filterMap
    (Offer.proxy style)
  if proxies = [] then none else some (clashConfig proxies)

end VpnUi.Sub
