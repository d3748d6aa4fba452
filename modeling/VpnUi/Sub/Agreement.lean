import VpnUi.Foundation.Traverse
import VpnUi.Sub.Profiles

namespace VpnUi.Sub

open Foundation

/-! What the entries of the three formats denote, and when they denote the
same. -/

inductive Secured
  | none
  | tls (serverName : String)
  | reality (serverName publicKey shortId : String)
  deriving DecidableEq

/-- For shadowsocks the credential is the method and the password. -/
structure Endpoint where
  address : String
  port : Int
  credential : String
  network : String
  path : String
  host : String
  secured : Secured
  deriving DecidableEq

/-- The same, or two draws from the same names. -/
def SameDraw (names : List String) (name other : String) : Prop :=
  name = other ∨ name ∈ names ∧ other ∈ names

instance (names : List String) (name other : String) :
    Decidable (SameDraw names name other) := inferInstanceAs (Decidable (_ ∨ _))

def StreamSettings.names (stream : StreamSettings) : List String :=
  if stream.security = .reality then
    stream.realitySettings.elim [] (·.serverNames)
  else []

def StreamSettings.ids (stream : StreamSettings) : List String :=
  if stream.security = .reality then
    stream.realitySettings.elim [] (·.shortIds)
  else []

def Secured.Alike (stream : StreamSettings) : Secured → Secured → Prop
  | .none, .none => True
  | .tls name, .tls other => SameDraw stream.names name other
  | .reality name key id, .reality other otherKey otherId =>
      SameDraw stream.names name other ∧ key = otherKey ∧
        SameDraw stream.ids id otherId
  | _, _ => False

/-- Up to the random choices. -/
def Endpoint.Alike (stream : StreamSettings) (endpoint other : Endpoint) :
    Prop :=
  endpoint = { other with secured := endpoint.secured } ∧
    endpoint.secured.Alike stream other.secured

/-! Links. -/

def Params.text (params : Params) (key : String) : String :=
  (params key).getD ""

def Params.secured (params : Params) (securityKey : String) : Secured :=
  if params securityKey = some "tls" then .tls (params.text "sni")
  else if params securityKey = some "reality" then
    .reality (params.text "sni") (params.text "pbk") (params.text "sid")
  else .none

def VmessObj.endpoint (obj : VmessObj) : Endpoint where
  address := obj.fields.text "add"
  port := obj.port
  credential := obj.fields.text "id"
  network := obj.fields.text "net"
  path := obj.fields.text "path"
  host :=
    if obj.fields.text "net" = "grpc" then obj.fields.text "authority"
    else obj.fields.text "host"
  secured := obj.fields.secured "tls"

def ShareLink.endpoint (link : ShareLink) : Endpoint where
  address := link.host
  port := link.port
  credential := link.userInfo
  network := link.params.text "type"
  path :=
    if link.params.text "type" = "grpc" then link.params.text "serviceName"
    else link.params.text "path"
  host :=
    if link.params.text "type" = "grpc" then link.params.text "authority"
    else link.params.text "host"
  secured := link.params.secured "security"

def Link.endpoint : Link → Endpoint
  | .vmess obj => obj.endpoint
  | .share link => link.endpoint

/-! Outbounds. -/

def Transport.path : Transport → String
  | .tcp header => header.elim "" (·.path)
  | .ws settings | .httpupgrade settings => settings.path
  | .grpc settings => settings.serviceName

def Transport.host : Transport → String
  | .tcp header => header.elim "" fun header => searchHost header.headers
  | .ws settings | .httpupgrade settings => settings.effectiveHost
  | .grpc settings => settings.authority

def ClientStream.secured (stream : ClientStream) : Secured :=
  match stream.security with
  | .none => .none
  | .tls => .tls (stream.tlsSettings.elim "" (·.serverName))
  | .reality =>
      stream.realitySettings.elim (.reality "" "" "") fun reality =>
        .reality reality.serverName reality.publicKey reality.shortId

def Outbound.endpoint (outbound : Outbound) : Endpoint where
  address :=
    match outbound.settings with
    | .vnext address _ _ => address
    | .servers server => server.address
  port :=
    match outbound.settings with
    | .vnext _ port _ => port
    | .servers server => server.port
  credential :=
    match outbound.settings with
    | .vnext _ _ user => user.id
    | .servers server =>
        if outbound.protocol = .shadowsocks then
          server.method ++ ":" ++ server.password
        else server.password
  network := outbound.streamSettings.transport.network
  path := outbound.streamSettings.transport.path
  host := outbound.streamSettings.transport.host
  secured := outbound.streamSettings.secured

/-! Proxies. -/

/-- Trojan has a field of its own for the server name. -/
def Proxy.serverName (proxy : Proxy) : String :=
  (if proxy.type = .trojan then proxy.sni else proxy.servername).getD ""

def Proxy.secured (proxy : Proxy) : Secured :=
  if proxy.tls then
    match proxy.realityOpts with
    | some opts =>
        .reality proxy.serverName (opts.publicKey.getD "")
          (opts.shortId.getD "")
    | none => .tls proxy.serverName
  else .none

def Proxy.endpoint (proxy : Proxy) : Endpoint where
  address := proxy.server
  port := proxy.port
  credential :=
    match proxy.type with
    | .vmess | .vless => proxy.uuid.getD ""
    | .trojan => proxy.password.getD ""
    | .shadowsocks => proxy.cipher.getD "" ++ ":" ++ proxy.password.getD ""
  network := proxy.network
  path :=
    if proxy.network = "grpc" then proxy.grpcServiceName.getD ""
    else (proxy.wsOpts.bind (·.path)).getD ""
  host := (proxy.wsOpts.bind (·.host)).getD ""
  secured := proxy.secured

/-- The transports that the three formats have in common. -/
def Transport.Supported : Transport → Prop
  | .tcp header => header = none
  | .ws _ | .grpc _ => True
  | .httpupgrade _ => False

/-- The three generators produce entries that denote the same, one by one. -/
def FormatsAgree (linkDraw jsonDraw : Draw) (host : String) (inbound : Inbound)
    (client : Client) : Prop :=
  ∃ links, getLink linkDraw host inbound client.email = some links ∧
    ∃ outbounds, (getConfig jsonDraw inbound client host).map Prod.fst =
        some outbounds ∧
      List.Forall₂ (Endpoint.Alike inbound.stream) (links.map Link.endpoint)
        ((getProxies inbound client host).map Proxy.endpoint) ∧
      List.Forall₂ (Endpoint.Alike inbound.stream)
        (outbounds.map Outbound.endpoint)
        ((getProxies inbound client host).map Proxy.endpoint)

end VpnUi.Sub
