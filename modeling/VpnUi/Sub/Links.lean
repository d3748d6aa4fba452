import Mathlib.Data.List.Basic

namespace VpnUi.Sub

/-! The inbounds that a subscription is made of, and the share links. -/

inductive Protocol
  | vmess
  | vless
  | trojan
  | shadowsocks
  deriving DecidableEq

inductive HeaderValue
  | one (value : String)
  | many (values : List String)
  deriving DecidableEq

abbrev Headers := List (String × HeaderValue)

def searchHost : Headers → String
  | [] => ""
  | (name, value) :: headers =>
      if name.toLower = "host" then
        match value with
        | .one host => host
        | .many hosts => hosts.headD ""
      else searchHost headers

/-- The settings of WebSocket and of HTTPUpgrade. -/
structure PathSettings where
  path : String
  host : String
  headers : Headers
  deriving DecidableEq

def PathSettings.effectiveHost (settings : PathSettings) : String :=
  if settings.host ≠ "" then settings.host else searchHost settings.headers

structure GrpcSettings where
  serviceName : String
  authority : String
  multiMode : Bool
  deriving DecidableEq

/-- The request of an HTTP header; of its paths only the first is read. -/
structure HttpHeader where
  path : String
  headers : Headers
  deriving DecidableEq

/-- A header that is not of HTTP is none. -/
inductive Transport
  | tcp (header : Option HttpHeader)
  | ws (settings : PathSettings)
  | grpc (settings : GrpcSettings)
  | httpupgrade (settings : PathSettings)
  deriving DecidableEq

def Transport.network : Transport → String
  | .tcp _ => "tcp"
  | .ws _ => "ws"
  | .grpc _ => "grpc"
  | .httpupgrade _ => "httpupgrade"

/-- No security at all and `"none"` are the same. -/
inductive Security
  | none
  | tls
  | reality
  deriving DecidableEq

def Security.name : Security → String
  | .none => "none"
  | .tls => "tls"
  | .reality => "reality"

structure TlsSettings where
  serverName : String
  alpn : List String
  fingerprint : Option String
  deriving DecidableEq

structure RealitySettings where
  serverNames : List String
  shortIds : List String
  publicKey : String
  fingerprint : String
  mldsa65Verify : String
  deriving DecidableEq

inductive ForceTls
  | same
  | tls
  | none
  deriving DecidableEq

def ForceTls.name : ForceTls → String
  | .same => "same"
  | .tls => "tls"
  | .none => "none"

structure ExternalProxy where
  forceTls : ForceTls
  dest : String
  port : Int
  deriving DecidableEq

structure StreamSettings where
  transport : Transport
  security : Security
  tlsSettings : Option TlsSettings
  realitySettings : Option RealitySettings
  externalProxy : List ExternalProxy
  deriving DecidableEq

structure Client where
  email : String
  id : String
  password : String
  flow : String
  security : String
  subId : String
  enable : Bool
  deriving DecidableEq

/-- `encryption`, `method` and `password` are those of the settings; without a
method it is the empty one. -/
structure Inbound where
  protocol : Protocol
  listen : String
  port : Int
  clients : List Client
  encryption : Option String
  method : String
  password : Option String
  stream : StreamSettings
  deriving DecidableEq

/-- The client at `findClientIndex`. -/
def findClient (clients : List Client) (email : String) : Option Client :=
  clients.find? (·.email = email)

/-- What `random` yields in one call of a generator. -/
structure Draw where
  serverName : Nat
  shortId : Nat
  spiderX : String

/-- There is no number below zero to draw. -/
def choose (number : Nat) (values : List String) : Option String :=
  values[number % values.length]?

/-- The parameters of a link, or the texts of a vmess object. -/
abbrev Params := String → Option String

def Params.empty : Params := fun _ => none

@[simp] theorem Params.empty_apply (key : String) : empty key = none := rfl

def Params.set (params : Params) (key value : String) : Params :=
  fun other => if other = key then some value else params other

@[simp] theorem Params.set_apply (params : Params) (key value other : String) :
    params.set key value other =
      if other = key then some value else params other := rfl

def Params.setIf (params : Params) (condition : Prop) [Decidable condition]
    (key value : String) : Params :=
  if condition then params.set key value else params

/-- A link by the parts it is formatted from. -/
structure ShareLink where
  scheme : String
  userInfo : String
  host : String
  port : Int
  params : Params

structure VmessObj where
  port : Int
  fields : Params

inductive Link
  | vmess (obj : VmessObj)
  | share (link : ShareLink)

def Inbound.listensEverywhere (inbound : Inbound) : Prop :=
  inbound.listen = "" ∨ inbound.listen = "0.0.0.0" ∨ inbound.listen = "::" ∨
    inbound.listen = "::0"

instance (inbound : Inbound) : Decidable inbound.listensEverywhere :=
  inferInstanceAs (Decidable (_ ∨ _))

def resolveInboundAddress (address : String) (inbound : Inbound) : String :=
  if inbound.listensEverywhere then address else inbound.listen

def applyPathAndHostParams (settings : PathSettings) (params : Params) :
    Params :=
  (params.set "path" settings.path).set "host" settings.effectiveHost

def applyShareNetworkParams (transport : Transport) (params : Params) :
    Params :=
  match transport with
  | .tcp none => params
  | .tcp (some header) =>
      ((params.set "path" header.path).set "host"
        (searchHost header.headers)).set "headerType" "http"
  | .ws settings | .httpupgrade settings =>
      applyPathAndHostParams settings params
  | .grpc settings =>
      ((params.set "serviceName" settings.serviceName).set "authority"
        settings.authority).setIf settings.multiMode "mode" "multi"

def applyVmessNetworkParams (transport : Transport) (obj : Params) : Params :=
  let obj := obj.set "net" transport.network
  match transport with
  | .tcp none => obj.set "type" "none"
  | .tcp (some header) =>
      ((obj.set "type" "http").set "path" header.path).set "host"
        (searchHost header.headers)
  | .ws settings | .httpupgrade settings => applyPathAndHostParams settings obj
  | .grpc settings =>
      ((obj.set "path" settings.serviceName).set "authority"
        settings.authority).setIf settings.multiMode "type" "multi"

/-- `applyVmessTLSParams`, and all but the first line of
`applyShareTLSParams`. -/
def applyVmessTLSParams (tlsSettings : Option TlsSettings) (params : Params) :
    Params :=
  match tlsSettings with
  | none => params
  | some tls =>
      let params := params.setIf (tls.alpn ≠ []) "alpn" (",".intercalate tls.alpn)
      let params := params.set "sni" tls.serverName
      match tls.fingerprint with
      | some fingerprint => params.set "fp" fingerprint
      | none => params

def applyShareTLSParams (tlsSettings : Option TlsSettings) (params : Params) :
    Params :=
  applyVmessTLSParams tlsSettings (params.set "security" "tls")

def applyShareRealityParams (draw : Draw)
    (realitySettings : Option RealitySettings) (params : Params) :
    Option Params :=
  let params := params.set "security" "reality"
  match realitySettings with
  | none => some params
  | some reality => do
      let serverName ← choose draw.serverName reality.serverNames
      let shortId ← choose draw.shortId reality.shortIds
      let params := params.set "sni" serverName
      let params := params.set "pbk" reality.publicKey
      let params := params.set "sid" shortId
      let params :=
        params.setIf (reality.fingerprint ≠ "") "fp" reality.fingerprint
      let params :=
        params.setIf (reality.mldsa65Verify ≠ "") "pqv" reality.mldsa65Verify
      some (params.set "spx" ("/" ++ draw.spiderX))

def isTLSField (key : String) : Prop := key = "alpn" ∨ key = "sni" ∨ key = "fp"

instance (key : String) : Decidable (isTLSField key) :=
  inferInstanceAs (Decidable (_ ∨ _))

def cloneVmessShareObj (obj : Params) (force : ForceTls) : Params := fun key =>
  if force = .none ∧ isTLSField key then none else obj key

def buildVmessExternalProxyLinks (proxies : List ExternalProxy) (obj : Params) :
    List Link :=
  proxies.map fun proxy =>
    let clone := (cloneVmessShareObj obj proxy.forceTls).set "add" proxy.dest
    .vmess
      { port := proxy.port
        fields := clone.setIf (proxy.forceTls ≠ .same) "tls"
          proxy.forceTls.name }

def buildLinkWithParamsAndSecurity (params : Params) (security : String)
    (omitTLSFields : Bool) : Params := fun key =>
  if omitTLSFields ∧ isTLSField key then none
  else if key = "security" then (params key).map fun _ => security
  else params key

def buildExternalProxyURLLinks (proxies : List ExternalProxy) (params : Params)
    (baseSecurity : Security) (scheme userInfo : String) : List Link :=
  proxies.map fun proxy =>
    let securityToApply :=
      if proxy.forceTls ≠ .same then proxy.forceTls.name else baseSecurity.name
    .share
      { scheme := scheme
        userInfo := userInfo
        host := proxy.dest
        port := proxy.port
        params := buildLinkWithParamsAndSecurity params securityToApply
          (proxy.forceTls = .none) }

def vmessStart (address : String) (inbound : Inbound) : Params :=
  ((Params.empty.set "v" "2").set "add"
    (resolveInboundAddress address inbound)).set "type" "none"

/-- The object of `genVmessLink` before the external proxies. -/
def vmessObj (address : String) (inbound : Inbound) (client : Client) :
    Params :=
  let obj := vmessStart address inbound
  let obj := applyVmessNetworkParams inbound.stream.transport obj
  let obj := obj.set "tls" inbound.stream.security.name
  let obj :=
    if inbound.stream.security = .tls then
      applyVmessTLSParams inbound.stream.tlsSettings obj
    else obj
  (obj.set "id" client.id).set "scy" client.security

def genVmessLink (address : String) (inbound : Inbound) (email : String) :
    Option (List Link) := do
  let client ← findClient inbound.clients email
  let obj := vmessObj address inbound client
  if inbound.stream.externalProxy ≠ [] then
    some (buildVmessExternalProxyLinks inbound.stream.externalProxy obj)
  else some [.vmess { port := inbound.port, fields := obj }]

/-- The end of the generators of URLs. -/
def buildLinks (address : String) (inbound : Inbound)
    (scheme userInfo : String) (params proxyParams : Params) : List Link :=
  if inbound.stream.externalProxy ≠ [] then
    buildExternalProxyURLLinks inbound.stream.externalProxy proxyParams
      inbound.stream.security scheme userInfo
  else
    [.share
      { scheme := scheme
        userInfo := userInfo
        host := resolveInboundAddress address inbound
        port := inbound.port
        params := params }]

def networkParams (inbound : Inbound) : Params :=
  Params.empty.set "type" inbound.stream.transport.network

def encryptionParams (inbound : Inbound) (params : Params) : Params :=
  match inbound.encryption with
  | some encryption => params.set "encryption" encryption
  | none => params

/-- The switch on the security in `genVlessLink` and `genTrojanLink`; only the
first adds the flow under tls. -/
def applyShareSecurityParams (draw : Draw) (stream : StreamSettings)
    (tlsFlow : Bool) (client : Client) (params : Params) : Option Params :=
  let flows := stream.transport.network = "tcp" ∧ client.flow ≠ ""
  match stream.security with
  | .tls =>
      some ((applyShareTLSParams stream.tlsSettings params).setIf
        (tlsFlow ∧ flows) "flow" client.flow)
  | .reality =>
      (applyShareRealityParams draw stream.realitySettings params).map
        (Params.setIf · flows "flow" client.flow)
  | .none => some (params.set "security" "none")

def genVlessLink (draw : Draw) (address : String) (inbound : Inbound)
    (email : String) : Option (List Link) := do
  let client ← findClient inbound.clients email
  let params := encryptionParams inbound (networkParams inbound)
  let params := applyShareNetworkParams inbound.stream.transport params
  let params ← applyShareSecurityParams draw inbound.stream true client params
  some (buildLinks address inbound "vless" client.id params params)

def genTrojanLink (draw : Draw) (address : String) (inbound : Inbound)
    (email : String) : Option (List Link) := do
  let client ← findClient inbound.clients email
  let params := networkParams inbound
  let params := applyShareNetworkParams inbound.stream.transport params
  let params ← applyShareSecurityParams draw inbound.stream false client params
  some (buildLinks address inbound "trojan" client.password params params)

/-- The method tells by its first character whether the password of the inbound
is put before that of the client. -/
def encPart (inbound : Inbound) (inboundPassword : String) (client : Client) :
    Option String := do
  let first ← inbound.method.toList.head?
  if first = '2' then
    some (inbound.method ++ ":" ++
      (inboundPassword ++ ":" ++ client.password))
  else some (inbound.method ++ ":" ++ client.password)

def shadowsocksParams (inbound : Inbound) : Params :=
  let params := networkParams inbound
  let params := applyShareNetworkParams inbound.stream.transport params
  if inbound.stream.security = .tls then
    applyShareTLSParams inbound.stream.tlsSettings params
  else params

def genShadowsocksLink (address : String) (inbound : Inbound) (email : String) :
    Option (List Link) := do
  let inboundPassword ← inbound.password
  let client ← findClient inbound.clients email
  let userInfo ← encPart inbound inboundPassword client
  let params := shadowsocksParams inbound
  some (buildLinks address inbound "ss" userInfo params
    (params.set "security" inbound.stream.security.name))

def getLink (draw : Draw) (address : String) (inbound : Inbound)
    (email : String) : Option (List Link) :=
  match inbound.protocol with
  | .vmess => genVmessLink address inbound email
  | .vless => genVlessLink draw address inbound email
  | .trojan => genTrojanLink draw address inbound email
  | .shadowsocks => genShadowsocksLink address inbound email

end VpnUi.Sub
