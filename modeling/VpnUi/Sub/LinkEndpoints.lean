import VpnUi.Sub.ProxyEndpoints

namespace VpnUi.Sub

/-! What the links of an inbound denote. -/

@[simp] theorem Params.setIf_apply (params : Params) (condition : Prop)
    [Decidable condition] (key value other : String) :
    params.setIf condition key value other =
      if condition ∧ other = key then some value else params other := by
  unfold Params.setIf
  split <;> simp_all

theorem Params.text_eq {params other : Params} {key : String}
    (same : params key = other key) : params.text key = other.text key := by
  unfold Params.text
  rw [same]

theorem choose_eq_none {number : Nat} {values : List String} :
    choose number values = none ↔ values = [] := by
  unfold choose
  rw [List.getElem?_eq_none_iff]
  constructor
  · intro short
    by_contra some
    have positive := List.length_pos_iff.mpr some
    exact absurd (Nat.mod_lt number positive) (by omega)
  · rintro rfl
    simp

theorem choose_mem {number : Nat} {values : List String} {value : String}
    (chosen : choose number values = some value) : value ∈ values :=
  List.mem_of_getElem? chosen

/-- The keys that a transport sets. -/
def networkKeys : List String :=
  ["path", "host", "headerType", "serviceName", "authority", "mode"]

theorem applyShareNetworkParams_other {transport : Transport} {params : Params}
    (key : String) (other : key ∉ networkKeys) :
    applyShareNetworkParams transport params key = params key := by
  simp only [networkKeys, List.mem_cons, List.not_mem_nil, or_false,
    not_or] at other
  cases transport with
  | tcp header => cases header <;> simp [applyShareNetworkParams, other]
  | ws | grpc | httpupgrade =>
      simp [applyShareNetworkParams, applyPathAndHostParams, other]

theorem applyVmessTLSParams_other {tlsSettings : Option TlsSettings}
    {params : Params} (key : String) (other : ¬ isTLSField key) :
    applyVmessTLSParams tlsSettings params key = params key := by
  simp only [isTLSField, not_or] at other
  unfold applyVmessTLSParams
  split
  · rfl
  next tls =>
    cases tls.fingerprint <;> simp [other]

theorem applyVmessTLSParams_sni (tlsSettings : Option TlsSettings)
    {params : Params} (fresh : params "sni" = none) :
    (applyVmessTLSParams tlsSettings params).text "sni" =
      tlsSettings.elim "" (·.serverName) := by
  unfold applyVmessTLSParams
  split
  · simp [Params.text, fresh]
  next tls =>
    cases fingerprint : tls.fingerprint <;> simp [Params.text]

/-- The keys that REALITY sets. -/
def realityKeys : List String :=
  ["security", "sni", "pbk", "sid", "fp", "pqv", "spx"]

/-- The server name, public key and short id of a link under REALITY. -/
def realityNames (draw : Draw) (realitySettings : Option RealitySettings) :
    String × String × String :=
  realitySettings.elim ("", "", "") fun reality =>
    ((choose draw.serverName reality.serverNames).getD "", reality.publicKey,
      (choose draw.shortId reality.shortIds).getD "")

/-- There is something to draw from. -/
def CanDraw (realitySettings : Option RealitySettings) : Prop :=
  ∀ reality ∈ realitySettings, reality.serverNames ≠ [] ∧ reality.shortIds ≠ []

theorem applyShareRealityParams_eq_none {draw : Draw}
    {realitySettings : Option RealitySettings} {params : Params}
    (stuck : ¬ CanDraw realitySettings) :
    applyShareRealityParams draw realitySettings params = none := by
  simp only [CanDraw, Option.mem_def, not_forall, not_and_or,
    Decidable.not_not, exists_prop] at stuck
  obtain ⟨reality, rfl, empty | empty⟩ := stuck
  · simp [applyShareRealityParams, choose_eq_none.mpr empty]
  · simp only [applyShareRealityParams, choose_eq_none.mpr empty]
    cases choose draw.serverName reality.serverNames <;> rfl

theorem applyShareRealityParams_some {draw : Draw}
    {realitySettings : Option RealitySettings} {params : Params}
    (canDraw : CanDraw realitySettings) (sni : params "sni" = none)
    (pbk : params "pbk" = none) (sid : params "sid" = none) :
    ∃ result, applyShareRealityParams draw realitySettings params = some result ∧
      result "security" = some "reality" ∧
      result.text "sni" = (realityNames draw realitySettings).1 ∧
      result.text "pbk" = (realityNames draw realitySettings).2.1 ∧
      result.text "sid" = (realityNames draw realitySettings).2.2 ∧
      ∀ key, key ∉ realityKeys → result key = params key := by
  cases realitySettings with
  | none =>
      refine ⟨_, rfl, rfl, ?_, ?_, ?_, fun key other => ?_⟩
      · simp [Params.text, sni, realityNames]
      · simp [Params.text, pbk, realityNames]
      · simp [Params.text, sid, realityNames]
      · simp only [realityKeys, List.mem_cons, not_or] at other
        simp [other]
  | some reality =>
      obtain ⟨names, ids⟩ := canDraw reality rfl
      obtain ⟨name, drawnName⟩ := Option.ne_none_iff_exists'.mp
        (mt (@choose_eq_none draw.serverName _).mp names)
      obtain ⟨id, drawnId⟩ := Option.ne_none_iff_exists'.mp
        (mt (@choose_eq_none draw.shortId _).mp ids)
      simp only [applyShareRealityParams, drawnName, drawnId,
        Option.bind_eq_bind, Option.bind_some]
      refine ⟨_, rfl, ?_, ?_, ?_, ?_, fun key other => ?_⟩
      · simp
      · simp [Params.text, realityNames, drawnName]
      · simp [Params.text, realityNames]
      · simp [Params.text, realityNames, drawnId]
      · simp only [realityKeys, List.mem_cons, List.not_mem_nil, or_false,
          not_or] at other
        simp [other]

/-- What a link denotes under `forceTls` when its parameters are those of the
security of the inbound. -/
def Params.forced (params : Params) (security : Security) :
    ForceTls → Secured
  | .same =>
      match security with
      | .none => .none
      | .tls => .tls (params.text "sni")
      | .reality =>
          .reality (params.text "sni") (params.text "pbk") (params.text "sid")
  | .tls => .tls (params.text "sni")
  | .none => .none

theorem Params.secured_eq_forced {params : Params} {key : String}
    {security : Security} (named : params key = some security.name) :
    params.secured key = params.forced security .same := by
  unfold Params.secured
  rw [named]
  cases security <;> simp [Security.name, Params.forced]

theorem buildLink_secured {params : Params} {security : Security}
    (named : params "security" ≠ none) (force : ForceTls) :
    (buildLinkWithParamsAndSecurity params
        (if force ≠ .same then force.name else security.name)
        (force = .none)).secured "security" = params.forced security force := by
  obtain ⟨value, present⟩ := Option.ne_none_iff_exists'.mp named
  cases force <;> cases security <;>
    simp [buildLinkWithParamsAndSecurity, Params.secured, Params.forced,
      Params.text, isTLSField, present, ForceTls.name, Security.name]

theorem buildLink_other {params : Params} {security key : String} {omits : Bool}
    (plain : ¬ isTLSField key) (other : key ≠ "security") :
    buildLinkWithParamsAndSecurity params security omits key = params key := by
  simp [buildLinkWithParamsAndSecurity, plain, other]

/-- The keys that tell how to connect. -/
def connectKeys : List String :=
  ["type", "path", "serviceName", "authority", "host"]

/-- The parameters tell how to connect over the transport. -/
structure Params.Carries (transport : Transport) (params : Params) : Prop where
  type : params.text "type" = transport.network
  path : (if params.text "type" = "grpc" then params.text "serviceName"
    else params.text "path") = transport.path
  host : (if params.text "type" = "grpc" then params.text "authority"
    else params.text "host") = transport.host

namespace Params.Carries

variable {transport : Transport} {params : Params}

theorem congr (carries : params.Carries transport) {other : Params}
    (same : ∀ key ∈ connectKeys, other key = params key) :
    other.Carries transport := by
  have texts : ∀ key ∈ connectKeys, other.text key = params.text key :=
    fun key member => text_eq (same key member)
  simp only [connectKeys, List.forall_mem_cons] at texts
  obtain ⟨type, path, serviceName, authority, host, -⟩ := texts
  obtain ⟨carriesType, carriesPath, carriesHost⟩ := carries
  rw [← type] at carriesType carriesPath carriesHost
  rw [← path, ← serviceName] at carriesPath
  rw [← host, ← authority] at carriesHost
  exact ⟨carriesType, carriesPath, carriesHost⟩

theorem applyShareNetworkParams (supported : transport.Supported)
    (type : params "type" = some transport.network)
    (fresh : ∀ key ∈ networkKeys, params key = none) :
    (Sub.applyShareNetworkParams transport params).Carries transport := by
  simp only [networkKeys, List.forall_mem_cons] at fresh
  cases transport with
  | tcp header =>
      obtain rfl : header = none := supported
      simp only [Transport.network] at type
      constructor <;>
        simp [Sub.applyShareNetworkParams, text, type, fresh, Transport.network,
          Transport.path, Transport.host]
  | ws settings =>
      simp only [Transport.network] at type
      constructor <;>
        simp [Sub.applyShareNetworkParams, applyPathAndHostParams, text, type,
          Transport.network, Transport.path, Transport.host]
  | grpc settings =>
      simp only [Transport.network] at type
      constructor <;>
        simp [Sub.applyShareNetworkParams, text, type, Transport.network,
          Transport.path, Transport.host]
  | httpupgrade settings => exact supported.elim

end Params.Carries

def linkEntries (address : String) (inbound : Inbound) : List ExternalProxy :=
  if inbound.stream.externalProxy = [] then
    [⟨.same, resolveInboundAddress address inbound, inbound.port⟩]
  else inbound.stream.externalProxy

theorem ShareLink.endpoint_eq {inbound : Inbound} {link : ShareLink}
    (carries : link.params.Carries inbound.stream.transport)
    (proxy : ExternalProxy) (dest : proxy.dest = link.host)
    (port : proxy.port = link.port) :
    link.endpoint = inbound.entry link.userInfo inbound.stream.transport.host
      proxy (link.params.secured "security") := by
  unfold ShareLink.endpoint Inbound.entry
  rw [carries.path, carries.host, carries.type, dest, port]

/-- `secured` is what the entries denote under each override. -/
theorem buildLinks_endpoints {address : String} {inbound : Inbound}
    {scheme userInfo : String} {params proxyParams : Params}
    {secured : ForceTls → Secured}
    (carries : params.Carries inbound.stream.transport)
    (proxyCarries : proxyParams.Carries inbound.stream.transport)
    (plain : inbound.stream.externalProxy = [] →
      params.secured "security" = secured .same)
    (named : proxyParams "security" ≠ none)
    (forced : inbound.stream.externalProxy ≠ [] → ∀ force,
      proxyParams.forced inbound.stream.security force = secured force) :
    (buildLinks address inbound scheme userInfo params proxyParams).map
        Link.endpoint =
      (linkEntries address inbound).map fun proxy =>
        inbound.entry userInfo inbound.stream.transport.host proxy
          (secured proxy.forceTls) := by
  unfold buildLinks linkEntries
  by_cases none : inbound.stream.externalProxy = []
  · rw [if_neg (not_not_intro none), if_pos none, List.map_singleton,
      List.map_singleton, ← plain none]
    exact congrArg (List.cons · []) (ShareLink.endpoint_eq carries _ rfl rfl)
  · rw [if_pos none, if_neg none, buildExternalProxyURLLinks, List.map_map]
    refine List.map_congr_left fun proxy _ => ?_
    have built := @Params.Carries.congr _ _ proxyCarries
      (buildLinkWithParamsAndSecurity proxyParams
        (if proxy.forceTls ≠ .same then proxy.forceTls.name
          else inbound.stream.security.name) (proxy.forceTls = .none)) ?_
    · rw [← forced none, ← buildLink_secured named]
      exact ShareLink.endpoint_eq built proxy rfl rfl
    · intro key member
      refine buildLink_other ?_ ?_
      all_goals
        simp only [connectKeys, List.mem_cons, List.not_mem_nil,
          or_false] at member
        rcases member with rfl | rfl | rfl | rfl | rfl <;> decide

/-- The server name, public key and short id that the links of the inbound
have. -/
def Inbound.linkNames (draw : Draw) (inbound : Inbound) :
    String × String × String :=
  match inbound.stream.security with
  | .none => ("", "", "")
  | .tls => (inbound.stream.serverName, "", "")
  | .reality =>
      if inbound.protocol = .vless ∨ inbound.protocol = .trojan then
        realityNames draw inbound.stream.realitySettings
      else ("", "", "")

/-- The parameters of a transport before the security is applied. -/
structure Params.Plain (transport : Transport) (params : Params) : Prop where
  carries : params.Carries transport
  fresh : ∀ key ∈ ["security", "sni", "pbk", "sid"], params key = none

theorem networkParams_plain {inbound : Inbound} {params : Params}
    (supported : inbound.stream.transport.Supported)
    (same : ∀ key, key ≠ "encryption" → params key = networkParams inbound key) :
    (applyShareNetworkParams inbound.stream.transport params).Plain
      inbound.stream.transport where
  carries := by
    refine Params.Carries.applyShareNetworkParams supported ?_ ?_
    · rw [same "type" (by decide)]
      rfl
    · intro key member
      simp only [networkKeys, List.mem_cons, List.not_mem_nil,
        or_false] at member
      rcases member with rfl | rfl | rfl | rfl | rfl | rfl <;>
        rw [same _ (by decide)] <;> rfl
  fresh key member := by
    simp only [List.mem_cons, List.not_mem_nil, or_false] at member
    rcases member with rfl | rfl | rfl | rfl <;>
      rw [applyShareNetworkParams_other _ (by decide), same _ (by decide)] <;>
      rfl

/-- The parameters tell how to connect and by which security. -/
structure Params.Secures (stream : StreamSettings)
    (names : String × String × String) (params : Params) : Prop where
  carries : params.Carries stream.transport
  security : params "security" = some stream.security.name
  names : (params.text "sni", params.text "pbk", params.text "sid") = names

namespace Params.Plain

variable {stream : StreamSettings} {params : Params}
  (plain : params.Plain stream.transport)

include plain

theorem sets {key value : String} (other : key ∉ connectKeys) :
    (params.set key value).Carries stream.transport :=
  plain.carries.congr fun connect member => by
    rw [set_apply, if_neg]
    rintro rfl
    exact other member

theorem secures_none (security : stream.security = .none) :
    (params.set "security" "none").Secures stream ("", "", "") where
  carries := plain.sets (by decide)
  security := by
    rw [security]
    rfl
  names := by
    simp [text, plain.fresh]

theorem secures_tls (security : stream.security = .tls) :
    (applyShareTLSParams stream.tlsSettings params).Secures stream
      (stream.serverName, "", "") where
  carries := by
    have named : (params.set "security" "tls").Carries stream.transport :=
      plain.sets (by decide)
    refine named.congr fun key member => applyVmessTLSParams_other key ?_
    simp only [connectKeys, List.mem_cons, List.not_mem_nil, or_false] at member
    rcases member with rfl | rfl | rfl | rfl | rfl <;> decide
  security := by
    rw [applyShareTLSParams, applyVmessTLSParams_other _ (by decide), security]
    rfl
  names := by
    have fresh : (params.set "security" "tls") "sni" = none := by
      simp [plain.fresh]
    simp only [applyShareTLSParams, applyVmessTLSParams_sni _ fresh]
    simp only [text, applyVmessTLSParams_other "pbk" (by decide),
      applyVmessTLSParams_other "sid" (by decide)]
    simp [plain.fresh, StreamSettings.serverName]

theorem secures_reality {draw : Draw} (security : stream.security = .reality)
    (canDraw : CanDraw stream.realitySettings) :
    ∃ result,
      applyShareRealityParams draw stream.realitySettings params =
          some result ∧
        result.Secures stream (realityNames draw stream.realitySettings) := by
  obtain ⟨result, applied, named, sni, pbk, sid, others⟩ :=
    @applyShareRealityParams_some draw _ _ canDraw
      (plain.fresh "sni" (by decide)) (plain.fresh "pbk" (by decide))
      (plain.fresh "sid" (by decide))
  refine ⟨result, applied, plain.carries.congr fun key member => ?_, ?_, ?_⟩
  · refine others key ?_
    simp only [connectKeys, List.mem_cons, List.not_mem_nil, or_false] at member
    rcases member with rfl | rfl | rfl | rfl | rfl <;> decide
  · rw [named, security]
    rfl
  · rw [sni, pbk, sid]

end Params.Plain

theorem Params.Secures.setFlow {stream : StreamSettings}
    {names : String × String × String} {params : Params}
    (secures : params.Secures stream names) (flows : Prop) [Decidable flows]
    (flow : String) : (params.setIf flows "flow" flow).Secures stream names where
  carries := secures.carries.congr fun key member => by
    simp only [connectKeys, List.mem_cons, List.not_mem_nil, or_false] at member
    rcases member with rfl | rfl | rfl | rfl | rfl <;> simp
  security := by simpa using secures.security
  names := by simpa [text] using secures.names

/-- What a link with these names denotes under `forceTls`. -/
def overridden (security : Security) (names : String × String × String) :
    ForceTls → Secured
  | .same =>
      match security with
      | .none => .none
      | .tls => .tls names.1
      | .reality => .reality names.1 names.2.1 names.2.2
  | .tls => .tls names.1
  | .none => .none

theorem Params.Secures.forced {stream : StreamSettings}
    {names : String × String × String} {params : Params}
    (secures : params.Secures stream names) (force : ForceTls) :
    params.forced stream.security force =
      overridden stream.security names force := by
  rw [← secures.names]
  cases force <;> cases stream.security <;> rfl

theorem Params.Secures.links {inbound : Inbound}
    {names : String × String × String} {params : Params}
    (secures : params.Secures inbound.stream names)
    (address scheme userInfo : String) :
    (buildLinks address inbound scheme userInfo params params).map
        Link.endpoint =
      (linkEntries address inbound).map fun proxy =>
        inbound.entry userInfo inbound.stream.transport.host proxy
          (overridden inbound.stream.security names proxy.forceTls) := by
  refine buildLinks_endpoints secures.carries secures.carries ?_ ?_ ?_
  · intro _
    rw [secured_eq_forced secures.security, secures.forced]
  · rw [secures.security]
    exact Option.some_ne_none _
  · exact fun _ force => secures.forced force

/-- A reality link draws its names. -/
def StreamSettings.Drawable (stream : StreamSettings) : Prop :=
  stream.security = .reality → CanDraw stream.realitySettings

section Generators

variable {draw : Draw} {address email : String} {inbound : Inbound}
  {client : Client} {params : Params} {tlsFlow : Bool}

theorem applyShareSecurityParams_secures
    (plain : params.Plain inbound.stream.transport)
    (drawable : inbound.stream.Drawable)
    (protocol : inbound.protocol = .vless ∨ inbound.protocol = .trojan) :
    ∃ result,
      applyShareSecurityParams draw inbound.stream tlsFlow client params =
          some result ∧
        result.Secures inbound.stream (inbound.linkNames draw) := by
  unfold applyShareSecurityParams Inbound.linkNames
  cases security : inbound.stream.security with
  | none => exact ⟨_, rfl, plain.secures_none security⟩
  | tls => exact ⟨_, rfl, (plain.secures_tls security).setFlow _ _⟩
  | reality =>
      obtain ⟨result, applied, secures⟩ :=
        @Params.Plain.secures_reality _ _ plain draw security
          (drawable security)
      simp only [applied, Option.map_some, if_pos protocol]
      exact ⟨_, rfl, secures.setFlow _ _⟩

theorem applyShareSecurityParams_eq_none
    (stuck : ¬ inbound.stream.Drawable) :
    applyShareSecurityParams draw inbound.stream tlsFlow client params =
      none := by
  obtain ⟨security, stuck⟩ := Classical.not_imp.mp stuck
  unfold applyShareSecurityParams
  simp only [security, applyShareRealityParams_eq_none stuck, Option.map_none]

/-- Without an external proxy a shadowsocks link does not tell of REALITY. -/
def Inbound.linkSecured (draw : Draw) (inbound : Inbound) (force : ForceTls) :
    Secured :=
  if inbound.protocol = .shadowsocks ∧ inbound.stream.security = .reality ∧
      inbound.stream.externalProxy = [] then .none
  else overridden inbound.stream.security (inbound.linkNames draw) force

/-- The entries of the links, with the credential of the client that they are
made for. -/
def Inbound.linkEndpoints (draw : Draw) (address credential : String)
    (inbound : Inbound) : List Endpoint :=
  (linkEntries address inbound).map fun proxy =>
    inbound.entry credential inbound.stream.transport.host proxy
      (inbound.linkSecured draw proxy.forceTls)

theorem linkEndpoints_eq (credential : String)
    (protocol : inbound.protocol ≠ .shadowsocks) :
    inbound.linkEndpoints draw address credential =
      (linkEntries address inbound).map fun proxy =>
        inbound.entry credential inbound.stream.transport.host proxy
          (overridden inbound.stream.security (inbound.linkNames draw)
            proxy.forceTls) := by
  simp only [Inbound.linkEndpoints, Inbound.linkSecured, protocol, false_and,
    if_false]

theorem genVlessLink_endpoints
    (supported : inbound.stream.transport.Supported)
    (protocol : inbound.protocol = .vless)
    (found : findClient inbound.clients email = some client)
    (drawable : inbound.stream.Drawable) :
    ∃ links, genVlessLink draw address inbound email = some links ∧
      links.map Link.endpoint =
        inbound.linkEndpoints draw address client.id := by
  have plain := @networkParams_plain inbound
    (encryptionParams inbound (networkParams inbound)) supported
    fun key other => by
      unfold encryptionParams
      cases inbound.encryption with
      | none => rfl
      | some encryption => simp [other]
  obtain ⟨result, applied, secures⟩ := @applyShareSecurityParams_secures draw
    inbound client _ true plain drawable (.inl protocol)
  refine ⟨_, ?_, (secures.links address "vless" client.id).trans
    (linkEndpoints_eq _ (by simp [protocol])).symm⟩
  simp only [genVlessLink, found, Option.bind_eq_bind, Option.bind_some,
    applied]

theorem genTrojanLink_endpoints
    (supported : inbound.stream.transport.Supported)
    (protocol : inbound.protocol = .trojan)
    (found : findClient inbound.clients email = some client)
    (drawable : inbound.stream.Drawable) :
    ∃ links, genTrojanLink draw address inbound email = some links ∧
      links.map Link.endpoint =
        inbound.linkEndpoints draw address client.password := by
  have plain := networkParams_plain supported fun key _ => rfl
  obtain ⟨result, applied, secures⟩ := @applyShareSecurityParams_secures draw
    inbound client _ false plain drawable (.inr protocol)
  refine ⟨_, ?_, (secures.links address "trojan" client.password).trans
    (linkEndpoints_eq _ (by simp [protocol])).symm⟩
  simp only [genTrojanLink, found, Option.bind_eq_bind, Option.bind_some,
    applied]

/-! The object of a vmess link. -/

def vmessKeys : List String := ["id", "net", "path", "authority", "host"]

/-- The object tells how to connect and as whom. -/
structure Params.Connects (transport : Transport) (id : String) (obj : Params) :
    Prop where
  id : obj.text "id" = id
  net : obj.text "net" = transport.network
  path : obj.text "path" = transport.path
  host : (if obj.text "net" = "grpc" then obj.text "authority"
    else obj.text "host") = transport.host

theorem Params.Connects.congr {transport : Transport} {id : String}
    {obj other : Params} (connects : obj.Connects transport id)
    (same : ∀ key ∈ vmessKeys, other key = obj key) :
    other.Connects transport id := by
  have texts : ∀ key ∈ vmessKeys, other.text key = obj.text key :=
    fun key member => text_eq (same key member)
  simp only [vmessKeys, List.forall_mem_cons] at texts
  obtain ⟨user, net, path, authority, host, -⟩ := texts
  exact ⟨user.trans connects.id, net.trans connects.net,
    path.trans connects.path, by rw [net, authority, host, connects.host]⟩

theorem VmessObj.endpoint_eq {obj : VmessObj} {id : String}
    (connects : obj.fields.Connects inbound.stream.transport id)
    (proxy : ExternalProxy) (add : obj.fields.text "add" = proxy.dest)
    (port : obj.port = proxy.port) :
    obj.endpoint = inbound.entry id inbound.stream.transport.host proxy
      (obj.fields.secured "tls") := by
  unfold VmessObj.endpoint Inbound.entry
  rw [connects.id, connects.path, connects.host, connects.net, add, port]

theorem cloneVmess_secured {security : Security} {obj : Params}
    (named : obj "tls" = some security.name) (proxy : ExternalProxy) :
    (((cloneVmessShareObj obj proxy.forceTls).set "add" proxy.dest).setIf
        (proxy.forceTls ≠ .same) "tls" proxy.forceTls.name).secured "tls" =
      obj.forced security proxy.forceTls := by
  cases proxy.forceTls <;> cases security <;>
    simp_all [Params.secured, Params.forced, cloneVmessShareObj, isTLSField,
      Params.text, ForceTls.name, Security.name]

theorem buildVmessExternalProxyLinks_endpoints {obj : Params} {id : String}
    (connects : obj.Connects inbound.stream.transport id)
    (named : obj "tls" = some inbound.stream.security.name)
    (proxies : List ExternalProxy) :
    (buildVmessExternalProxyLinks proxies obj).map Link.endpoint =
      proxies.map fun proxy =>
        inbound.entry id inbound.stream.transport.host proxy
          (obj.forced inbound.stream.security proxy.forceTls) := by
  rw [buildVmessExternalProxyLinks, List.map_map]
  refine List.map_congr_left fun proxy _ => ?_
  rw [← cloneVmess_secured named]
  refine VmessObj.endpoint_eq (connects.congr fun key member => ?_) proxy ?_ rfl
  · simp only [vmessKeys, List.mem_cons, List.not_mem_nil, or_false] at member
    rcases member with rfl | rfl | rfl | rfl | rfl <;>
      simp [cloneVmessShareObj, isTLSField]
  · simp [Params.text]

/-- The object before the user is written into it. -/
theorem applyVmessNetworkParams_connects {transport : Transport} {obj : Params}
    (supported : transport.Supported)
    (fresh : ∀ key ∈ ["path", "authority", "host"], obj key = none) :
    ((applyVmessNetworkParams transport obj).text "net" = transport.network ∧
      (applyVmessNetworkParams transport obj).text "path" = transport.path) ∧
      (if (applyVmessNetworkParams transport obj).text "net" = "grpc" then
          (applyVmessNetworkParams transport obj).text "authority"
        else (applyVmessNetworkParams transport obj).text "host") =
          transport.host := by
  simp only [List.forall_mem_cons] at fresh
  cases transport with
  | tcp header =>
      obtain rfl : header = none := supported
      simp [applyVmessNetworkParams, Params.text, fresh, Transport.network,
        Transport.path, Transport.host]
  | ws settings =>
      simp [applyVmessNetworkParams, applyPathAndHostParams, Params.text,
        Transport.network, Transport.path, Transport.host]
  | grpc settings =>
      simp [applyVmessNetworkParams, Params.text, Transport.network,
        Transport.path, Transport.host]
  | httpupgrade settings => exact supported.elim

theorem applyVmessNetworkParams_other {transport : Transport} {obj : Params}
    (key : String)
    (other : key ∉ ["net", "type", "path", "host", "authority"]) :
    applyVmessNetworkParams transport obj key = obj key := by
  simp only [List.mem_cons, List.not_mem_nil, or_false, not_or] at other
  cases transport with
  | tcp header => cases header <;> simp [applyVmessNetworkParams, other]
  | ws | grpc | httpupgrade =>
      simp [applyVmessNetworkParams, applyPathAndHostParams, other]

theorem vmessObj_other (key : String)
    (other : key ∉ ["id", "scy", "tls", "alpn", "sni", "fp"]) :
    vmessObj address inbound client key =
      applyVmessNetworkParams inbound.stream.transport
        (vmessStart address inbound) key := by
  simp only [List.mem_cons, List.not_mem_nil, or_false, not_or] at other
  have plain : ¬ isTLSField key := by simp [isTLSField, other]
  unfold vmessObj
  simp only [Params.set_apply, other, if_false]
  split
  · rw [applyVmessTLSParams_other key plain]
    simp [other]
  · simp [other]

theorem vmessObj_connects (supported : inbound.stream.transport.Supported) :
    (vmessObj address inbound client).Connects inbound.stream.transport
      client.id := by
  have texts : ∀ key, key ∉ ["id", "scy", "tls", "alpn", "sni", "fp"] → _ :=
    fun key other => Params.text_eq
      (@vmessObj_other address inbound client key other)
  obtain ⟨⟨net, path⟩, host⟩ := @applyVmessNetworkParams_connects
    inbound.stream.transport (vmessStart address inbound) supported
    (by simp [vmessStart])
  refine ⟨by simp [Params.text, vmessObj], ?_, ?_, ?_⟩
  · rw [texts "net" (by decide), net]
  · rw [texts "path" (by decide), path]
  · rw [texts "net" (by decide), texts "authority" (by decide),
      texts "host" (by decide), host]

theorem vmessObj_tls :
    vmessObj address inbound client "tls" =
      some inbound.stream.security.name := by
  unfold vmessObj
  simp only [Params.set_apply, String.reduceEq, if_false]
  split
  · simp [applyVmessTLSParams_other "tls" (by decide)]
  · simp

theorem vmessObj_names (protocol : inbound.protocol = .vmess) :
    ((vmessObj address inbound client).text "sni",
        (vmessObj address inbound client).text "pbk",
        (vmessObj address inbound client).text "sid") =
      inbound.linkNames draw := by
  unfold vmessObj Inbound.linkNames
  cases security : inbound.stream.security with
  | none | reality =>
      simp [Params.text, protocol, vmessStart,
        applyVmessNetworkParams_other "sni" (by decide),
        applyVmessNetworkParams_other "pbk" (by decide),
        applyVmessNetworkParams_other "sid" (by decide)]
  | tls =>
      have named := @applyVmessTLSParams_sni inbound.stream.tlsSettings
        ((applyVmessNetworkParams inbound.stream.transport
          (vmessStart address inbound)).set "tls" "tls")
        (by simp [vmessStart,
          applyVmessNetworkParams_other "sni" (by decide)])
      simp only [Params.text] at named
      have pbk : vmessStart address inbound "pbk" = none := by
        simp [vmessStart]
      have sid : vmessStart address inbound "sid" = none := by
        simp [vmessStart]
      simp [Params.text, Security.name, named, StreamSettings.serverName, pbk,
        sid,
        applyVmessTLSParams_other "pbk" (by decide),
        applyVmessTLSParams_other "sid" (by decide),
        applyVmessNetworkParams_other "pbk" (by decide),
        applyVmessNetworkParams_other "sid" (by decide)]

theorem genVmessLink_endpoints
    (supported : inbound.stream.transport.Supported)
    (protocol : inbound.protocol = .vmess)
    (found : findClient inbound.clients email = some client) :
    ∃ links, genVmessLink address inbound email = some links ∧
      links.map Link.endpoint =
        inbound.linkEndpoints draw address client.id := by
  have connects := @vmessObj_connects address inbound client supported
  have named := @vmessObj_tls address inbound client
  have forced : ∀ force,
      (vmessObj address inbound client).forced inbound.stream.security force =
        overridden inbound.stream.security (inbound.linkNames draw) force := by
    intro force
    rw [← vmessObj_names protocol]
    cases force <;> cases inbound.stream.security <;> rfl
  rw [linkEndpoints_eq _ (by simp [protocol])]
  unfold genVmessLink linkEntries
  simp only [found, Option.bind_eq_bind, Option.bind_some]
  by_cases empty : inbound.stream.externalProxy = []
  · rw [if_neg (not_not_intro empty), if_pos empty]
    refine ⟨_, rfl, congrArg (List.cons · []) ?_⟩
    dsimp only
    rw [Link.endpoint, ← forced, ← Params.secured_eq_forced named]
    refine VmessObj.endpoint_eq connects _ ?_ rfl
    rw [Params.text_eq (vmessObj_other "add" (by decide))]
    simp [Params.text, vmessStart,
      applyVmessNetworkParams_other "add" (by decide)]
  · rw [if_pos empty, if_neg empty]
    refine ⟨_, rfl, ?_⟩
    rw [buildVmessExternalProxyLinks_endpoints connects named]
    simp only [forced]

theorem shadowsocksParams_secures
    (supported : inbound.stream.transport.Supported)
    (protocol : inbound.protocol = .shadowsocks) :
    ((shadowsocksParams inbound).set "security"
        inbound.stream.security.name).Secures inbound.stream
      (inbound.linkNames draw) := by
  have plain := networkParams_plain supported fun key _ => rfl
  unfold shadowsocksParams Inbound.linkNames
  cases security : inbound.stream.security with
  | none | reality =>
      refine ⟨plain.sets (by decide), by simp [security], ?_⟩
      simp [Params.text, protocol, plain.fresh]
  | tls =>
      have secures := plain.secures_tls security
      refine ⟨secures.carries.congr fun key member => ?_, by simp [security], ?_⟩
      · simp only [connectKeys, List.mem_cons, List.not_mem_nil,
          or_false] at member
        rcases member with rfl | rfl | rfl | rfl | rfl <;> simp
      · simpa [Params.text] using secures.names

theorem shadowsocksParams_secured
    (supported : inbound.stream.transport.Supported) :
    (shadowsocksParams inbound).secured "security" =
      if inbound.stream.security = .reality then .none
      else ((shadowsocksParams inbound).set "security"
        inbound.stream.security.name).secured "security" := by
  have plain := networkParams_plain supported fun key _ => rfl
  unfold shadowsocksParams
  cases security : inbound.stream.security with
  | none | reality =>
      simp [Params.secured, plain.fresh, Security.name]
  | tls =>
      have secures := plain.secures_tls security
      have named := secures.security
      rw [security] at named
      simp [Params.secured, named, Security.name, Params.text]

theorem genShadowsocksLink_endpoints {inboundPassword userInfo : String}
    (supported : inbound.stream.transport.Supported)
    (protocol : inbound.protocol = .shadowsocks)
    (found : findClient inbound.clients email = some client)
    (password : inbound.password = some inboundPassword)
    (encoded : encPart inbound inboundPassword client = some userInfo) :
    ∃ links, genShadowsocksLink address inbound email = some links ∧
      links.map Link.endpoint = inbound.linkEndpoints draw address userInfo := by
  have secures := @shadowsocksParams_secures draw inbound supported protocol
  refine ⟨buildLinks address inbound "ss" userInfo (shadowsocksParams inbound) _,
    ?_, buildLinks_endpoints ?_ secures.carries ?_ ?_ ?_⟩
  · simp only [genShadowsocksLink, password, found, encoded,
      Option.bind_eq_bind, Option.bind_some]
  · refine secures.carries.congr fun key member => ?_
    simp only [connectKeys, List.mem_cons, List.not_mem_nil, or_false] at member
    rcases member with rfl | rfl | rfl | rfl | rfl <;> simp
  · intro empty
    rw [shadowsocksParams_secured supported, Inbound.linkSecured]
    simp only [protocol, empty, true_and, and_true]
    rw [Params.secured_eq_forced secures.security, secures.forced]
  · simp
  · intro proxied force
    rw [secures.forced, Inbound.linkSecured, if_neg]
    exact fun bare => proxied bare.2.2

end Generators

end VpnUi.Sub
