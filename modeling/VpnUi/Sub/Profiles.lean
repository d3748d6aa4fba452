import VpnUi.Sub.Links

namespace VpnUi.Sub

/-! The outbounds of the JSON subscription, the proxies of the Clash profile,
and the three subscriptions. -/

structure TlsData where
  serverName : String
  alpn : List String
  fingerprint : Option String
  deriving DecidableEq

/-- The settings that an external proxy forces. -/
def TlsData.blank : TlsData := ⟨"", [], none⟩

structure RealityData where
  publicKey : String
  fingerprint : String
  mldsa65Verify : String
  spiderX : String
  shortId : String
  serverName : String
  deriving DecidableEq

/-- The stream settings of a client's configuration. -/
structure ClientStream where
  transport : Transport
  security : Security
  tlsSettings : Option TlsData
  realitySettings : Option RealityData
  deriving DecidableEq

def tlsData (tls : TlsSettings) : TlsData :=
  ⟨tls.serverName, tls.alpn, tls.fingerprint⟩

/-! The JSON subscription. -/

def realityData (draw : Draw) (reality : RealitySettings) : RealityData where
  publicKey := reality.publicKey
  fingerprint := reality.fingerprint
  mldsa65Verify := reality.mldsa65Verify
  spiderX := "/" ++ draw.spiderX
  shortId := (choose draw.shortId reality.shortIds).getD ""
  serverName := (choose draw.serverName reality.serverNames).getD ""

/-- The settings of the security that is named have to be there. -/
def streamData (draw : Draw) (stream : StreamSettings) : Option ClientStream :=
  match stream.security with
  | .none => some ⟨stream.transport, .none, none, none⟩
  | .tls =>
      stream.tlsSettings.map fun tls =>
        ⟨stream.transport, .tls, some (tlsData tls), none⟩
  | .reality =>
      stream.realitySettings.map fun reality =>
        ⟨stream.transport, .reality, none, some (realityData draw reality)⟩

/-- Whom an outbound connects as; a vless user has the encryption and the
flow, a vmess user the rest. -/
structure VnextUser where
  id : String
  email : String
  security : String
  encryption : String
  flow : String
  deriving DecidableEq

structure ServerSetting where
  password : String
  level : Nat
  address : String
  port : Int
  method : String
  deriving DecidableEq

inductive OutboundSettings
  | vnext (address : String) (port : Int) (user : VnextUser)
  | servers (server : ServerSetting)
  deriving DecidableEq

structure Outbound where
  protocol : Protocol
  settings : OutboundSettings
  streamSettings : ClientStream
  deriving DecidableEq

def genVnext (inbound : Inbound) (stream : ClientStream) (client : Client) :
    Outbound where
  protocol := inbound.protocol
  settings := .vnext inbound.listen inbound.port
    ⟨client.id, client.email, client.security, "", ""⟩
  streamSettings := stream

def genVless (inbound : Inbound) (stream : ClientStream) (client : Client) :
    Outbound where
  protocol := inbound.protocol
  settings := .vnext inbound.listen inbound.port
    ⟨client.id, "", "", inbound.encryption.getD "", client.flow⟩
  streamSettings := stream

def Inbound.is2022 (inbound : Inbound) : Bool :=
  "2022".toList.isPrefixOf inbound.method.toList

/-- The password of a user of a protocol of 2022 follows that of the server. -/
def serverPassword (inbound : Inbound) (client : Client) : String :=
  if inbound.is2022 then
    match inbound.password with
    | some password => password ++ ":" ++ client.password
    | none => client.password
  else client.password

def genServer (inbound : Inbound) (stream : ClientStream) (client : Client) :
    Outbound where
  protocol := inbound.protocol
  settings := .servers
    { password :=
        if inbound.protocol = .shadowsocks then serverPassword inbound client
        else client.password
      level := 8
      address := inbound.listen
      port := inbound.port
      method := if inbound.protocol = .shadowsocks then inbound.method else "" }
  streamSettings := stream

def genOutbound (inbound : Inbound) (stream : ClientStream) (client : Client) :
    Outbound :=
  match inbound.protocol with
  | .vmess => genVnext inbound stream client
  | .vless => genVless inbound stream client
  | .trojan | .shadowsocks => genServer inbound stream client

/-- The external proxies, or the one that stands for the request host. -/
def externalProxies (host : String) (inbound : Inbound) : List ExternalProxy :=
  if inbound.stream.externalProxy = [] then [⟨.same, host, inbound.port⟩]
  else inbound.stream.externalProxy

/-- What the switch on `forceTls` does to the stream of an outbound. -/
def ClientStream.force (stream : ClientStream) : ForceTls → ClientStream
  | .same => stream
  | .tls =>
      if stream.security ≠ .tls then
        { stream with security := .tls, tlsSettings := some .blank }
      else stream
  | .none =>
      if stream.security ≠ .none then
        { stream with security := .none, tlsSettings := none }
      else stream

/-- The loop of `getConfig`: its stream is not copied, and its inbound is the
caller's. -/
def getConfigs (client : Client) :
    Inbound → ClientStream → List ExternalProxy → List Outbound × Inbound
  | inbound, _, [] => ([], inbound)
  | inbound, stream, proxy :: proxies =>
      let inbound := { inbound with listen := proxy.dest, port := proxy.port }
      let stream := stream.force proxy.forceTls
      let (outbounds, last) := getConfigs client inbound stream proxies
      (genOutbound inbound stream client :: outbounds, last)

/-- The first outbound of each configuration, and what is left of the
inbound. -/
def getConfig (draw : Draw) (inbound : Inbound) (client : Client)
    (host : String) : Option (List Outbound × Inbound) :=
  (streamData draw inbound.stream).map fun stream =>
    getConfigs client inbound stream (externalProxies host inbound)

/-! The Clash profile. -/

structure WsOpts where
  path : Option String
  host : Option String
  deriving DecidableEq

structure RealityOpts where
  publicKey : Option String
  shortId : Option String
  deriving DecidableEq

/-- An entry of the profile; a field that is not set is `none`. -/
structure Proxy where
  type : Protocol
  server : String
  port : Int
  uuid : Option String
  password : Option String
  cipher : Option String
  flow : Option String
  packetEncoding : Option String
  network : String
  wsOpts : Option WsOpts
  grpcServiceName : Option String
  tls : Bool
  servername : Option String
  sni : Option String
  realityOpts : Option RealityOpts
  clientFingerprint : Option String
  deriving DecidableEq

/-- The value of a field that is set unless it is empty. -/
def nonempty (value : String) : Option String :=
  if value ≠ "" then some value else none

/-- The first names are taken. -/
def clashRealityData (reality : RealitySettings) : RealityData where
  publicKey := reality.publicKey
  fingerprint := reality.fingerprint
  mldsa65Verify := ""
  spiderX := ""
  shortId := reality.shortIds.headD ""
  serverName := reality.serverNames.headD ""

def clashStreamData (stream : StreamSettings) : ClientStream where
  transport := stream.transport
  security := stream.security
  tlsSettings :=
    if stream.security = .tls then stream.tlsSettings.map tlsData else none
  realitySettings :=
    if stream.security = .reality then
      stream.realitySettings.map clashRealityData
    else none

/-- What the switch on `forceTls` does to the copy of the stream of a proxy. -/
def ClientStream.clashForce (stream : ClientStream) : ForceTls → ClientStream
  | .same => stream
  | .tls =>
      if stream.security ≠ .tls then
        { stream with security := .tls, tlsSettings := some .blank }
      else stream
  | .none =>
      if stream.security ≠ .none then
        { stream with
          security := .none
          tlsSettings := none
          realitySettings := none }
      else stream

/-- No transport, credential or security yet. -/
def Proxy.blank (inbound : Inbound) : Proxy where
  type := inbound.protocol
  server := inbound.listen
  port := inbound.port
  uuid := none
  password := none
  cipher := none
  flow := none
  packetEncoding := none
  network := ""
  wsOpts := none
  grpcServiceName := none
  tls := false
  servername := none
  sni := none
  realityOpts := none
  clientFingerprint := none

def applyTransport (transport : Transport) (proxy : Proxy) : Option Proxy :=
  match transport with
  | .tcp none => some { proxy with network := "tcp" }
  | .tcp (some _) => none
  | .ws settings =>
      let opts : WsOpts :=
        ⟨nonempty settings.path, nonempty settings.effectiveHost⟩
      some
        { proxy with
          network := "ws"
          wsOpts := if opts = ⟨none, none⟩ then none else some opts }
  | .grpc settings =>
      some
        { proxy with
          network := "grpc"
          grpcServiceName := nonempty settings.serviceName }
  | .httpupgrade _ => none

/-- The middle of `buildProxy`. -/
def applyCredential (inbound : Inbound) (client : Client) (proxy : Proxy) :
    Option Proxy :=
  match inbound.protocol with
  | .vmess =>
      some
        { proxy with
          uuid := some client.id
          cipher := some (if client.security = "" then "auto"
            else client.security) }
  | .vless =>
      some
        { proxy with
          uuid := some client.id
          flow := if proxy.network = "tcp" then nonempty client.flow else none
          packetEncoding := nonempty (inbound.encryption.getD "") }
  | .trojan => some { proxy with password := some client.password }
  | .shadowsocks =>
      if inbound.method = "" then none
      else
        let password :=
          if inbound.is2022 ∧ inbound.password.getD "" ≠ "" then
            inbound.password.getD "" ++ ":" ++ client.password
          else client.password
        some
          { proxy with
            password := some password
            cipher := some inbound.method }

def applySecurity (stream : ClientStream) (proxy : Proxy) : Option Proxy :=
  match stream.security with
  | .none => some { proxy with tls := false }
  | .tls =>
      match stream.tlsSettings with
      | none => some { proxy with tls := true }
      | some tls =>
          some
            { proxy with
              tls := true
              servername := nonempty tls.serverName
              sni := if proxy.type = .trojan then nonempty tls.serverName
                else none
              clientFingerprint := nonempty (tls.fingerprint.getD "") }
  | .reality =>
      stream.realitySettings.map fun reality =>
        let opts : RealityOpts :=
          ⟨nonempty reality.publicKey, nonempty reality.shortId⟩
        { proxy with
          tls := true
          servername := nonempty reality.serverName
          realityOpts := if opts = ⟨none, none⟩ then none else some opts
          clientFingerprint := nonempty reality.fingerprint }

def buildProxy (inbound : Inbound) (client : Client) (stream : ClientStream) :
    Option Proxy := do
  let proxy ← applyTransport stream.transport (.blank inbound)
  let proxy ← applyCredential inbound client proxy
  applySecurity stream proxy

def getProxies (inbound : Inbound) (client : Client) (host : String) :
    List Proxy :=
  (externalProxies host inbound).filterMap fun proxy =>
    buildProxy { inbound with listen := proxy.dest, port := proxy.port } client
      ((clashStreamData inbound.stream).clashForce proxy.forceTls)

/-! The subscriptions. -/

def served (subId : String) (inbound : Inbound) : List Client :=
  inbound.clients.filter fun client => client.enable && client.subId = subId

structure FallbackMaster where
  listen : String
  port : Int
  security : Security
  tlsSettings : Option TlsSettings
  externalProxy : List ExternalProxy

/-- The inbound as all three see it: one that listens on an abstract socket is
reached through the inbound that falls back to it, if the query succeeds. -/
def resolveFallback (getFallbackMaster : String → Option FallbackMaster)
    (inbound : Inbound) : Inbound :=
  if inbound.listen.toList.head? = some '@' then
    match getFallbackMaster inbound.listen with
    | some master =>
        { inbound with
          listen := master.listen
          port := master.port
          stream := { inbound.stream with
            security := master.security
            tlsSettings := master.tlsSettings
            externalProxy := master.externalProxy } }
    | none => inbound
  else inbound

section Subscriptions

variable (getFallbackMaster : String → Option FallbackMaster)
variable (draw : Inbound → Client → Draw)
variable (subId host : String)

def getSubs (inbounds : List Inbound) : Option (List Link) := do
  let links ← inbounds.mapM fun inbound =>
    let inbound := resolveFallback getFallbackMaster inbound
    ((served subId inbound).mapM fun client =>
      getLink (draw inbound client) host inbound client.email).map List.flatten
  some links.flatten

/-- The loop over the clients of one inbound, which `getConfig` rewrites. -/
def getClientConfigs (draw : Client → Draw) :
    Inbound → List Client → Option (List Outbound)
  | _, [] => some []
  | inbound, client :: clients => do
      let (outbounds, inbound) ← getConfig (draw client) inbound client host
      let later ← getClientConfigs draw inbound clients
      some (outbounds ++ later)

def getJson (inbounds : List Inbound) : Option (List Outbound) := do
  let outbounds ← inbounds.mapM fun inbound =>
    let inbound := resolveFallback getFallbackMaster inbound
    getClientConfigs host (draw inbound) inbound (served subId inbound)
  some outbounds.flatten

def getClash (inbounds : List Inbound) : List Proxy :=
  inbounds.flatMap fun inbound =>
    let inbound := resolveFallback getFallbackMaster inbound
    (served subId inbound).flatMap fun client => getProxies inbound client host

end Subscriptions

end VpnUi.Sub
