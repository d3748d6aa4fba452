import VpnUi.Sub.Agreement

namespace VpnUi.Sub

open Foundation

/-! What the proxies and the outbounds of an inbound denote. -/

/-! Proxies. -/

def Inbound.clashCredential (inbound : Inbound) (client : Client) : String :=
  match inbound.protocol with
  | .vmess | .vless => client.id
  | .trojan => client.password
  | .shadowsocks =>
      if inbound.is2022 ∧ inbound.password.getD "" ≠ "" then
        inbound.method ++ ":" ++
          (inbound.password.getD "" ++ ":" ++ client.password)
      else inbound.method ++ ":" ++ client.password

/-- The authority of gRPC has no field. -/
def Transport.clashHost : Transport → String
  | .grpc _ => ""
  | transport => transport.host

/-- The name that a proxy of the protocol shows under REALITY. -/
def clashServerName (protocol : Protocol) (reality : RealityData) : String :=
  if protocol = .trojan then "" else reality.serverName

def ClientStream.clashSecured (protocol : Protocol) (stream : ClientStream) :
    Secured :=
  match stream.security with
  | .none => .none
  | .tls => .tls (stream.tlsSettings.elim "" (·.serverName))
  | .reality =>
      stream.realitySettings.elim .none fun reality =>
        if reality.publicKey = "" ∧ reality.shortId = "" then
          .tls (clashServerName protocol reality)
        else
          .reality (clashServerName protocol reality) reality.publicKey
            reality.shortId

@[simp] theorem nonempty_getD (value : String) :
    (nonempty value).getD "" = value := by
  unfold nonempty
  split
  · rfl
  next empty => simpa using (Decidable.not_not.mp empty).symm

@[simp] theorem nonempty_eq_none {value : String} :
    nonempty value = none ↔ value = "" := by
  simp [nonempty]

/-- A proxy of the inbound before its security is applied. -/
structure Proxy.Open (inbound : Inbound) (proxy : Proxy) : Prop where
  type : proxy.type = inbound.protocol
  server : proxy.server = inbound.listen
  port : proxy.port = inbound.port
  servername : proxy.servername = none
  sni : proxy.sni = none
  realityOpts : proxy.realityOpts = none

theorem applyTransport_open {inbound : Inbound} {transport : Transport}
    (supported : transport.Supported) :
    ∃ proxy, applyTransport transport (.blank inbound) = some proxy ∧
      proxy.Open inbound ∧ proxy.network = transport.network ∧
      proxy.endpoint.path = transport.path ∧
      proxy.endpoint.host = transport.clashHost := by
  cases transport with
  | tcp header =>
      obtain rfl : header = none := supported
      exact ⟨_, rfl, ⟨rfl, rfl, rfl, rfl, rfl, rfl⟩, rfl, rfl, rfl⟩
  | ws settings =>
      refine ⟨_, rfl, ⟨rfl, rfl, rfl, rfl, rfl, rfl⟩, rfl, ?_, ?_⟩
      all_goals
        by_cases bare : settings.path = "" ∧ settings.effectiveHost = ""
        · simp [Proxy.endpoint, Transport.path, Transport.clashHost,
            Transport.host, bare]
        · simp [Proxy.endpoint, Transport.path, Transport.clashHost,
            Transport.host, bare]
  | grpc settings =>
      refine ⟨_, rfl, ⟨rfl, rfl, rfl, rfl, rfl, rfl⟩, rfl, ?_, rfl⟩
      simp [Proxy.endpoint, Transport.path]
  | httpupgrade settings => exact supported.elim

theorem applyCredential_open {inbound : Inbound} {client : Client}
    {proxy : Proxy} (isOpen : proxy.Open inbound)
    (method : inbound.protocol = .shadowsocks → inbound.method ≠ "") :
    ∃ next, applyCredential inbound client proxy = some next ∧
      next.Open inbound ∧
      next.endpoint = { proxy.endpoint with
        credential := inbound.clashCredential client
        secured := next.endpoint.secured } := by
  obtain ⟨type, server, port, servername, sni, realityOpts⟩ := isOpen
  unfold applyCredential
  cases protocol : inbound.protocol with
  | vmess | vless | trojan =>
      refine ⟨_, rfl, ⟨type, server, port, servername, sni, realityOpts⟩, ?_⟩
      simp [Proxy.endpoint, Inbound.clashCredential, type, protocol]
  | shadowsocks =>
      simp only [if_neg (method protocol)]
      refine ⟨_, rfl, ⟨type, server, port, servername, sni, realityOpts⟩, ?_⟩
      simp only [Proxy.endpoint, Inbound.clashCredential, type, protocol,
        Option.getD_some]
      split <;> rfl

theorem applySecurity_endpoint {inbound : Inbound} {stream : ClientStream}
    {proxy : Proxy} (isOpen : proxy.Open inbound)
    (settings : stream.security = .reality → stream.realitySettings ≠ none) :
    (applySecurity stream proxy).map Proxy.endpoint =
      some { proxy.endpoint with
        secured := stream.clashSecured inbound.protocol } := by
  obtain ⟨type, server, port, servername, sni, realityOpts⟩ := isOpen
  unfold applySecurity ClientStream.clashSecured
  cases security : stream.security with
  | none => rfl
  | tls =>
      cases tls : stream.tlsSettings with
      | none =>
          simp [Proxy.endpoint, Proxy.secured, Proxy.serverName, servername,
            sni, realityOpts]
      | some tls =>
          simp only [Option.map_some, Proxy.endpoint, Proxy.secured,
            Proxy.serverName, realityOpts, Option.elim_some]
          split <;> simp_all
  | reality =>
      obtain ⟨reality, present⟩ :=
        Option.ne_none_iff_exists'.mp (settings security)
      have name : Proxy.serverName { proxy with
          servername := nonempty reality.serverName } =
            clashServerName inbound.protocol reality := by
        simp only [Proxy.serverName, clashServerName, type, sni]
        split <;> simp
      by_cases bare : reality.publicKey = "" ∧ reality.shortId = ""
      · simp [present, Proxy.endpoint, Proxy.secured, bare, ← name,
          Proxy.serverName]
      · simp [present, Proxy.endpoint, Proxy.secured, bare, ← name,
          Proxy.serverName]

theorem buildProxy_endpoint {inbound : Inbound} {client : Client}
    {stream : ClientStream} (supported : stream.transport.Supported)
    (method : inbound.protocol = .shadowsocks → inbound.method ≠ "")
    (settings : stream.security = .reality → stream.realitySettings ≠ none) :
    (buildProxy inbound client stream).map Proxy.endpoint =
      some
        { address := inbound.listen
          port := inbound.port
          credential := inbound.clashCredential client
          network := stream.transport.network
          path := stream.transport.path
          host := stream.transport.clashHost
          secured := stream.clashSecured inbound.protocol } := by
  obtain ⟨carried, transported, isOpen, network, path, host⟩ :=
    @applyTransport_open inbound _ supported
  obtain ⟨named, credited, stillOpen, same⟩ :=
    @applyCredential_open inbound client _ isOpen method
  unfold buildProxy
  simp only [transported, credited, Option.bind_eq_bind, Option.bind_some]
  rw [applySecurity_endpoint stillOpen settings, same, ← network, ← path,
    ← host, ← isOpen.server, ← isOpen.port]
  rfl

def StreamSettings.serverName (stream : StreamSettings) : String :=
  stream.tlsSettings.elim "" (·.serverName)

/-- What a proxy denotes under `forceTls`. -/
def Inbound.clashSecured (inbound : Inbound) : ForceTls → Secured
  | .same => (clashStreamData inbound.stream).clashSecured inbound.protocol
  | .tls =>
      .tls (if inbound.stream.security = .tls then inbound.stream.serverName
        else "")
  | .none => .none

theorem clashForce_secured (inbound : Inbound) (force : ForceTls) :
    ((clashStreamData inbound.stream).clashForce force).clashSecured
      inbound.protocol = inbound.clashSecured force := by
  cases force <;> cases security : inbound.stream.security <;>
    cases tls : inbound.stream.tlsSettings <;>
    simp [clashStreamData, ClientStream.clashForce, ClientStream.clashSecured,
      Inbound.clashSecured, StreamSettings.serverName, TlsData.blank, tlsData,
      security, tls]

/-- The settings of the security that is named are there. -/
structure StreamSettings.HasSettings (stream : StreamSettings) : Prop where
  tls : stream.security = .tls → stream.tlsSettings ≠ none
  reality : stream.security = .reality → stream.realitySettings ≠ none

/-- An entry of the inbound at an external proxy. -/
def Inbound.entry (inbound : Inbound) (credential host : String)
    (proxy : ExternalProxy) (secured : Secured) : Endpoint where
  address := proxy.dest
  port := proxy.port
  credential := credential
  network := inbound.stream.transport.network
  path := inbound.stream.transport.path
  host := host
  secured := secured

theorem clashForce_settings {stream : StreamSettings}
    (settings : stream.HasSettings) (force : ForceTls) :
    ((clashStreamData stream).clashForce force).security = .reality →
      ((clashStreamData stream).clashForce force).realitySettings ≠ none := by
  have kept := settings.reality
  cases force <;> cases security : stream.security <;>
    simp_all [clashStreamData, ClientStream.clashForce]

theorem clashForce_transport (stream : StreamSettings) (force : ForceTls) :
    ((clashStreamData stream).clashForce force).transport =
      stream.transport := by
  cases force with
  | same => rfl
  | tls | none =>
      unfold ClientStream.clashForce
      dsimp only
      split <;> rfl

theorem getProxies_endpoints {inbound : Inbound} (client : Client)
    (host : String) (supported : inbound.stream.transport.Supported)
    (method : inbound.protocol = .shadowsocks → inbound.method ≠ "")
    (settings : inbound.stream.HasSettings) :
    (getProxies inbound client host).map Proxy.endpoint =
      (externalProxies host inbound).map fun proxy =>
        inbound.entry (inbound.clashCredential client)
          inbound.stream.transport.clashHost proxy
          (inbound.clashSecured proxy.forceTls) := by
  unfold getProxies
  rw [List.map_filterMap, ← List.filterMap_eq_map]
  refine List.filterMap_congr fun proxy _ => ?_
  have built := @buildProxy_endpoint
    { inbound with listen := proxy.dest, port := proxy.port } client
    ((clashStreamData inbound.stream).clashForce proxy.forceTls)
    (by rwa [clashForce_transport]) method
    (clashForce_settings settings proxy.forceTls)
  rw [clashForce_transport, clashForce_secured] at built
  exact built

/-! Outbounds. -/

def Inbound.jsonCredential (inbound : Inbound) (client : Client) : String :=
  match inbound.protocol with
  | .vmess | .vless => client.id
  | .trojan => client.password
  | .shadowsocks => inbound.method ++ ":" ++ serverPassword inbound client

theorem genOutbound_endpoint (inbound : Inbound) (stream : ClientStream)
    (client : Client) :
    (genOutbound inbound stream client).endpoint =
      { address := inbound.listen
        port := inbound.port
        credential := inbound.jsonCredential client
        network := stream.transport.network
        path := stream.transport.path
        host := stream.transport.host
        secured := stream.secured } := by
  unfold genOutbound Inbound.jsonCredential
  cases protocol : inbound.protocol with
  | vmess | vless => rfl
  | trojan | shadowsocks => simp [genServer, Outbound.endpoint, protocol]

/-- The stream once the overrides have been made one after the other. -/
def ClientStream.forceAll (stream : ClientStream) (forces : List ForceTls) :
    ClientStream :=
  forces.foldl ClientStream.force stream

theorem ClientStream.force_transport (stream : ClientStream)
    (force : ForceTls) : (stream.force force).transport = stream.transport := by
  cases force with
  | same => rfl
  | tls | none =>
      unfold ClientStream.force
      dsimp only
      split <;> rfl

theorem getConfigs_endpoints (client : Client) (inbound : Inbound)
    (stream : ClientStream) (earlier proxies : List ExternalProxy)
    (transport : (stream.forceAll (earlier.map (·.forceTls))).transport =
      inbound.stream.transport) :
    (getConfigs client inbound
        (stream.forceAll (earlier.map (·.forceTls))) proxies).1.map
      Outbound.endpoint =
        mapEarlier (fun earlier proxy =>
          inbound.entry (inbound.jsonCredential client)
            inbound.stream.transport.host proxy
            ((stream.forceAll (earlier.map (·.forceTls))).force
              proxy.forceTls).secured) earlier proxies := by
  induction proxies generalizing inbound earlier with
  | nil => rfl
  | cons proxy proxies induction =>
      have later := induction
        { inbound with listen := proxy.dest, port := proxy.port }
        (earlier ++ [proxy])
      simp only [ClientStream.forceAll, List.map_append, List.map_cons,
        List.map_nil, List.foldl_append, List.foldl_cons, List.foldl_nil]
        at later transport ⊢
      simp only [getConfigs, List.map_cons, mapEarlier]
      rw [later (by rw [ClientStream.force_transport, transport]),
        genOutbound_endpoint, ClientStream.force_transport, transport]
      rfl

end VpnUi.Sub
