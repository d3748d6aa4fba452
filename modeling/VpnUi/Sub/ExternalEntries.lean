import VpnUi.Foundation.Fields
import VpnUi.Sub.Links
import VpnUi.Sub.Remark

namespace VpnUi.Sub

open Foundation

/-! The configurations of the JSON subscription, one for each external proxy, on
the fields of the stream settings. -/

inductive EntryProtocol
  | vmess
  | vless
  | trojan
  | shadowsocks
  | hysteria
  | hysteria2
  deriving DecidableEq

namespace EntryProtocol

def name : EntryProtocol → String
  | vmess => "vmess"
  | vless => "vless"
  | trojan => "trojan"
  | shadowsocks => "shadowsocks"
  | hysteria => "hysteria"
  | hysteria2 => "hysteria2"

def isHysteria : EntryProtocol → Bool
  | hysteria | hysteria2 => true
  | _ => false

end EntryProtocol

/-- An external proxy with its remark. -/
structure ExternalEntry where
  forceTls : ForceTls
  dest : String
  port : Int
  remark : String
  deriving DecidableEq

structure EntryClient where
  email : String
  id : String
  password : String
  flow : String
  security : String
  auth : String
  deriving DecidableEq

/-- The fields of the settings are those that a generator reads; a version that
is no number is 0. -/
structure EntryInbound where
  protocol : EntryProtocol
  port : Int
  remark : String
  clientStats : List ClientStat
  encryption : Option String
  method : Option String
  password : Option String
  version : Int
  streamSettings : Fields
  externalProxy : List ExternalEntry

def EntryInbound.only (inbound : EntryInbound) (entry : ExternalEntry) :
    EntryInbound :=
  { inbound with externalProxy := [entry] }

def EntryInbound.remarkOf (inbound : EntryInbound) (style : RemarkStyle)
    (email extra : String) : String :=
  genRemark style ⟨inbound.remark, email, extra, inbound.clientStats⟩

def EntryInbound.is2022 (inbound : EntryInbound) : Bool :=
  "2022".toList.isPrefixOf (inbound.method.getD "").toList

/-- The external proxies, or the one that stands for the request host. -/
def EntryInbound.entries (inbound : EntryInbound) (host : String) :
    List ExternalEntry :=
  if inbound.externalProxy = [] then [⟨.same, host, inbound.port, ""⟩]
  else inbound.externalProxy

/-! The stream settings. -/

/-- A nil value is written as null. -/
def present (value : Option Json) : Json := value.getD .null

def tlsFields (tData : JsonObject) : JsonObject :=
  let settings := ((tData.get? "settings").bind Json.object?).getD []
  [("serverName", tData.get "serverName"), ("alpn", tData.get "alpn")] ++
    ((settings.get? "fingerprint").bind Json.text?).toList.map
      fun fingerprint => ("fingerprint", .str fingerprint)

/-- One of the texts of a list, the empty text if there is none; an element that
is no text is a panic. -/
def drawText (number : Nat) (value : Option Json) : Option String :=
  match value.bind Json.list? with
  | some (item :: items) =>
      (item :: items)[number % (item :: items).length]?.bind Json.text?
  | _ => some ""

def realityFields (draw : Draw) (rData : JsonObject) : Option JsonObject := do
  let settings := ((rData.get? "settings").bind Json.object?).getD []
  let shortId ← drawText draw.shortId (rData.get? "shortIds")
  let serverName ← drawText draw.serverName (rData.get? "serverNames")
  some
    [("show", .bool false), ("publicKey", settings.get "publicKey"),
      ("fingerprint", settings.get "fingerprint"),
      ("mldsa65Verify", settings.get "mldsa65Verify"),
      ("spiderX", .str ("/" ++ draw.spiderX)), ("shortId", .str shortId),
      ("serverName", .str serverName)]

/-- A value that is no object leaves a nil map, which is written as null. -/
def removeAcceptProxy (setting : Option Json) : Json :=
  match setting.bind Json.object? with
  | some netSettings => .obj (netSettings.remove "acceptProxyProtocol")
  | none => .null

def withoutAcceptProxy (stream : Fields) : Fields :=
  match (stream "network").bind Json.text? with
  | some network =>
      if network = "tcp" then
        stream.set "tcpSettings" (removeAcceptProxy (stream "tcpSettings"))
      else if network = "ws" then
        stream.set "wsSettings" (removeAcceptProxy (stream "wsSettings"))
      else if network = "httpupgrade" then
        stream.set "httpupgradeSettings"
          (removeAcceptProxy (stream "httpupgradeSettings"))
      else stream
  | none => stream

def dialerSockopt : Json :=
  .obj [("dialerProxy", .str "direct_out"), ("tcpKeepAliveIdle", .int 100)]

/-- The settings of the security that is named are asserted to be an object. -/
def securedStream (draw : Draw) (stream : Fields) : Option Fields :=
  if Json.isText (stream "security") "tls" then
    ((stream "tlsSettings").bind Json.object?).map fun tData =>
      stream.set "tlsSettings" (.obj (tlsFields tData))
  else if Json.isText (stream "security") "reality" then do
    let rData ← (stream "realitySettings").bind Json.object?
    let rltyData ← realityFields draw rData
    some (stream.set "realitySettings" (.obj rltyData))
  else some stream

def entryStream (draw : Draw) (fragmentOrNoises : Bool) (stream : Fields) :
    Option Fields :=
  (securedStream draw stream).map fun stream =>
    let stream := stream.erase "sockopt"
    let stream :=
      if fragmentOrNoises then stream.set "sockopt" dialerSockopt else stream
    (withoutAcceptProxy stream).erase "externalProxy"

/-- What the switch on `forceTls` does to the stream, which is not copied. -/
def forceStream (stream : Fields) : ForceTls → Fields
  | .same => stream
  | .tls =>
      if Json.isText (stream "security") "tls" then stream
      else (stream.setText "security" "tls").set "tlsSettings" (.obj [])
  | .none =>
      if Json.isText (stream "security") "none" then stream
      else (stream.setText "security" "none").erase "tlsSettings"

/-! The outbounds. -/

structure EntryOutbound where
  protocol : String
  mux : String
  settings : Json
  streamSettings : Fields

/-- What the service was made with. -/
structure JsonService where
  configJson : Fields
  defaultOutbounds : List Json
  fragmentOrNoises : Bool
  mux : String
  style : RemarkStyle

/-- A configuration: the outbound of the entry before the default ones, over the
fields that all configurations share. -/
structure EntryConfig where
  base : Fields
  outbound : EntryOutbound
  defaultOutbounds : List Json
  remarks : String

section Outbounds

variable (inbound : EntryInbound) (client : EntryClient) (entry : ExternalEntry)

/-- A field that is left out when it is empty. -/
def omitEmpty (key text : String) : JsonObject :=
  if text = "" then [] else [(key, .str text)]

def vnextSettings (user : JsonObject) : Json :=
  .obj [("vnext", .arr [.obj
    [("address", .str entry.dest), ("port", .int entry.port),
      ("users", .arr [.obj user])]])]

def vmessUser : JsonObject :=
  [("id", .str client.id)] ++ omitEmpty "email" client.email ++
    omitEmpty "security" client.security

def vlessUser : JsonObject :=
  [("id", .str client.id), ("level", .int 8),
    ("encryption", .str (inbound.encryption.getD ""))] ++
      omitEmpty "flow" client.flow

/-- With the server password in multi-user 2022 protocols. -/
def entryPassword : String :=
  match inbound.protocol, inbound.is2022, inbound.password with
  | .shadowsocks, true, some password => password ++ ":" ++ client.password
  | _, _, _ => client.password

def serverSettings : Json :=
  .obj [("servers", .arr [.obj
    ([("password", .str (entryPassword inbound client)), ("level", .int 8),
      ("address", .str entry.dest), ("port", .int entry.port)] ++
        omitEmpty "method"
          (if inbound.protocol = .shadowsocks then inbound.method.getD ""
            else ""))])]

def hysteriaSettings : Json :=
  .obj [("version", .int inbound.version), ("address", .str entry.dest),
    ("port", .int entry.port)]

/-- The settings of the stream are read from the row and asserted to be an
object. -/
def hyStream : Option JsonObject :=
  (inbound.streamSettings "hysteriaSettings").bind Json.object?

def outHyStream (hyStream : JsonObject) : JsonObject :=
  [("version", .int inbound.version), ("auth", .str client.auth)] ++
    ((hyStream.get? "udpIdleTimeout").bind Json.whole?).toList.map
      fun udpIdleTimeout => ("udpIdleTimeout", .int udpIdleTimeout)

/-- What `genHy` does to the stream. -/
def hysteriaStream (hyStream : JsonObject) (stream : Fields) : Fields :=
  let stream := stream.set "hysteriaSettings"
    (.obj (outHyStream inbound client hyStream))
  let stream :=
    match (hyStream.get? "finalmask").bind Json.object? with
    | some finalmask => stream.set "finalmask" (.obj finalmask)
    | none => stream
  (stream.setText "network" "hysteria").setText "security" "tls"

def genSettings : Json :=
  match inbound.protocol with
  | .vmess => vnextSettings entry (vmessUser client)
  | .vless => vnextSettings entry (vlessUser inbound client)
  | .trojan | .shadowsocks => serverSettings inbound client entry
  | .hysteria | .hysteria2 => hysteriaSettings inbound entry

/-- The stream as the generator of the protocol leaves it. -/
def genStream (stream : Fields) : Option Fields :=
  if inbound.protocol.isHysteria then
    (hyStream inbound).map fun settings =>
      hysteriaStream inbound client settings stream
  else some stream

variable (service : JsonService)

def entryConfig (stream : Fields) : EntryConfig where
  base := service.configJson
  outbound :=
    { protocol := inbound.protocol.name
      mux := service.mux
      settings := genSettings inbound client entry
      streamSettings := stream }
  defaultOutbounds := service.defaultOutbounds
  remarks := inbound.remarkOf service.style client.email entry.remark

/-- The loop of `getConfig`, which hands its stream on. -/
def entryConfigs : Fields → List ExternalEntry → Option (List EntryConfig)
  | _, [] => some []
  | stream, entry :: entries => do
      let stream ← genStream inbound client (forceStream stream entry.forceTls)
      let configs ← entryConfigs stream entries
      some (entryConfig inbound client entry service stream :: configs)

def getEntryConfigs (draw : Draw) (host : String) : Option (List EntryConfig) :=
  (entryStream draw service.fragmentOrNoises inbound.streamSettings).bind
    fun stream => entryConfigs inbound client service stream
      (inbound.entries host)

end Outbounds

end VpnUi.Sub
