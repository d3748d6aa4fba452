import Mathlib.Data.List.Induction
import VpnUi.Sub.LinkEndpoints

namespace VpnUi.Sub

open Foundation

/-! When the three formats denote the same endpoints. -/

/-- The override of the entries before that is still in force. -/
def lastOverride (earlier : List ForceTls) : Option ForceTls :=
  (earlier.filter (· ≠ .same)).getLast?

/-- The overrides of the entries before change nothing at an entry of the JSON
subscription. -/
def StreamSettings.Undisturbed (stream : StreamSettings)
    (earlier : List ForceTls) (force : ForceTls) : Prop :=
  match force, stream.security with
  | .none, _ => True
  | .tls, .tls => .none ∉ earlier ∨ stream.serverName = ""
  | .tls, _ => True
  | .same, .none => lastOverride earlier ≠ some .tls
  | .same, .tls =>
      lastOverride earlier ≠ some .none ∧
        (.none ∉ earlier ∨ stream.serverName = "")
  | .same, .reality => lastOverride earlier = none

instance (stream : StreamSettings) (earlier : List ForceTls)
    (force : ForceTls) : Decidable (stream.Undisturbed earlier force) := by
  unfold StreamSettings.Undisturbed
  split <;> infer_instance

/-- The entry of a REALITY inbound is the same in a link as in the Clash
profile.  A vmess or shadowsocks link has neither the names nor the key, a
trojan proxy has no server name, and a proxy without a key and a short id is one
of TLS. -/
def Inbound.RealityShared (inbound : Inbound) (reality : RealitySettings) :
    ForceTls → Prop
  | .none => True
  | .tls =>
      inbound.protocol = .vless ∨ inbound.protocol = .trojan →
        "" ∈ reality.serverNames
  | .same =>
      match inbound.protocol with
      | .vless => reality.publicKey ≠ "" ∨ reality.shortIds.headD "" ≠ ""
      | .trojan =>
          (reality.publicKey ≠ "" ∨ reality.shortIds.headD "" ≠ "") ∧
            "" ∈ reality.serverNames
      | .vmess | .shadowsocks =>
          (reality.serverNames = [] ∨ "" ∈ reality.serverNames) ∧
            reality.publicKey = "" ∧ "" ∈ reality.shortIds ∧
            reality.shortIds.headD "" ≠ "" ∧
            (inbound.protocol = .shadowsocks →
              inbound.stream.externalProxy ≠ [])

/-- The links take the credential of the first client with the e-mail; the three
put it behind the password of a shadowsocks inbound by different rules. -/
def Inbound.SameCredential (inbound : Inbound) (first client : Client) : Prop :=
  match inbound.protocol with
  | .vmess | .vless => first.id = client.id
  | .trojan => first.password = client.password
  | .shadowsocks =>
      if inbound.is2022 then
        inbound.password ≠ some "" ∧ first.password = client.password
      else if inbound.method.toList.head? = some '2' then
        inbound.password.getD "" ++ ":" ++ first.password = client.password
      else first.password = client.password

/-- No generator of links panics. -/
structure Inbound.LinkReady (inbound : Inbound) : Prop where
  drawable : inbound.protocol = .vless ∨ inbound.protocol = .trojan →
    inbound.stream.Drawable
  method : inbound.protocol = .shadowsocks → inbound.method ≠ ""
  password : inbound.protocol = .shadowsocks → inbound.password ≠ none

structure Consistent (host : String) (inbound : Inbound) (client : Client) :
    Prop where
  settings : inbound.stream.HasSettings
  ready : inbound.LinkReady
  credential : ∀ first ∈ findClient inbound.clients client.email,
    inbound.SameCredential first client
  authority : ∀ grpc, inbound.stream.transport = .grpc grpc →
    grpc.authority = ""
  address : inbound.stream.externalProxy = [] →
    inbound.listensEverywhere ∨ inbound.listen = host
  entries : ∀ before proxy after,
    externalProxies host inbound = before ++ proxy :: after →
      inbound.stream.Undisturbed (before.map (·.forceTls)) proxy.forceTls ∧
        (inbound.stream.security = .reality →
          ∀ reality ∈ inbound.stream.realitySettings,
            inbound.RealityShared reality proxy.forceTls)

/-! The stream of the JSON subscription after overrides. -/

theorem lastOverride_append (earlier : List ForceTls) (force : ForceTls) :
    lastOverride (earlier ++ [force]) =
      if force = .same then lastOverride earlier else some force := by
  unfold lastOverride
  rw [List.filter_append]
  split
  next same => simp [same]
  next other => simp [other]

theorem forceAll_append (stream : ClientStream) (earlier : List ForceTls)
    (force : ForceTls) :
    stream.forceAll (earlier ++ [force]) =
      (stream.forceAll earlier).force force := by
  simp [ClientStream.forceAll]

theorem mem_of_lastOverride {earlier : List ForceTls} {force : ForceTls}
    (last : lastOverride earlier = some force) :
    force ∈ earlier ∧ force ≠ .same := by
  simpa using List.mem_filter.mp (List.mem_of_getLast? last)

theorem not_mem_of_lastOverride {earlier : List ForceTls} {force : ForceTls}
    (last : lastOverride earlier = none) (override : force ≠ .same) :
    force ∉ earlier := by
  intro member
  have kept : force ∈ earlier.filter (· ≠ .same) :=
    List.mem_filter.mpr ⟨member, by simpa using override⟩
  rw [List.getLast?_eq_none_iff.mp last] at kept
  cases kept

/-- What the overrides leave of a stream. -/
structure Overridden (stream : ClientStream) (earlier : List ForceTls)
    (after : ClientStream) : Prop where
  untouched : lastOverride earlier = none → after = stream
  none : lastOverride earlier = some .none → after.security = .none
  tls : lastOverride earlier = some .tls →
    after.security = .tls ∧
      after.tlsSettings =
        if stream.security = .tls ∧ .none ∉ earlier then stream.tlsSettings
        else some .blank

/-- An override to tls keeps the settings of a stream that has always been
one of tls. -/
theorem Overridden.force_tls {stream after : ClientStream}
    {earlier : List ForceTls} (overridden : Overridden stream earlier after) :
    (after.force .tls).tlsSettings =
      if stream.security = .tls ∧ .none ∉ earlier then stream.tlsSettings
      else some .blank := by
  unfold ClientStream.force
  dsimp only
  cases last : lastOverride earlier with
  | none =>
      rw [overridden.untouched last]
      simp only [not_mem_of_lastOverride last (by decide : ForceTls.none ≠ .same),
        not_false_eq_true, and_true]
      split <;> simp_all
  | some force =>
      obtain ⟨member, override⟩ := mem_of_lastOverride last
      cases force with
      | same => exact absurd rfl override
      | none => simp [overridden.none last, member]
      | tls =>
          rw [if_neg (not_not_intro (overridden.tls last).1)]
          exact (overridden.tls last).2

theorem forceAll_overridden (stream : ClientStream)
    (earlier : List ForceTls) :
    Overridden stream earlier (stream.forceAll earlier) := by
  induction earlier using List.reverseRecOn with
  | nil =>
      exact ⟨fun _ => rfl, nofun, nofun⟩
  | append_singleton earlier force induction =>
      have last := lastOverride_append earlier force
      rw [forceAll_append]
      cases force with
      | same =>
          rw [if_pos rfl] at last
          refine ⟨?_, ?_, ?_⟩
          · rw [last]
            exact induction.untouched
          · rw [last]
            exact induction.none
          · rw [last]
            simpa [ClientStream.force] using induction.tls
      | tls =>
          rw [if_neg (by decide)] at last
          refine ⟨?_, ?_, fun _ => ⟨?_, ?_⟩⟩
          · rw [last]
            rintro ⟨⟩
          · rw [last]
            rintro ⟨⟩
          · unfold ClientStream.force
            dsimp only
            split
            · rfl
            next same => exact Decidable.not_not.mp same
          · simpa using induction.force_tls
      | none =>
          rw [if_neg (by decide)] at last
          refine ⟨?_, fun _ => ?_, ?_⟩
          · rw [last]
            rintro ⟨⟩
          · unfold ClientStream.force
            dsimp only
            split
            · rfl
            next same => exact Decidable.not_not.mp same
          · rw [last]
            rintro ⟨⟩

/-- What an entry denotes after overrides. -/
theorem forceAll_secured (stream : ClientStream) (earlier : List ForceTls) :
    (stream.forceAll earlier).secured =
      match lastOverride earlier with
      | some .none => .none
      | some .tls =>
          .tls (if stream.security = .tls ∧ .none ∉ earlier then
            stream.tlsSettings.elim "" (·.serverName) else "")
      | _ => stream.secured := by
  have overridden := forceAll_overridden stream earlier
  cases last : lastOverride earlier with
  | none => rw [overridden.untouched last]
  | some force =>
      cases force with
      | same => exact absurd rfl (mem_of_lastOverride last).2
      | none => simp [ClientStream.secured, overridden.none last]
      | tls =>
          obtain ⟨security, settings⟩ := overridden.tls last
          simp only [ClientStream.secured, security, settings]
          split <;> rfl

/-! The entries one by one. -/

theorem resolveInboundAddress_eq_iff {host : String} {inbound : Inbound} :
    resolveInboundAddress host inbound = host ↔
      inbound.listensEverywhere ∨ inbound.listen = host := by
  unfold resolveInboundAddress
  split
  next everywhere => simp [everywhere]
  next somewhere => simp [somewhere]

theorem host_eq_clashHost_iff {transport : Transport} :
    transport.host = transport.clashHost ↔
      ∀ grpc, transport = .grpc grpc → grpc.authority = "" := by
  cases transport <;> simp [Transport.host, Transport.clashHost]

theorem Inbound.entry_alike_iff {inbound : Inbound}
    {credential host otherCredential otherHost : String}
    {proxy other : ExternalProxy} {secured otherSecured : Secured} :
    (inbound.entry credential host proxy secured).Alike inbound.stream
        (inbound.entry otherCredential otherHost other otherSecured) ↔
      (proxy.dest = other.dest ∧ proxy.port = other.port) ∧
        (credential = otherCredential ∧ host = otherHost) ∧
          secured.Alike inbound.stream otherSecured := by
  simp only [Endpoint.Alike, Inbound.entry, Endpoint.mk.injEq, true_and,
    and_true, and_assoc]

theorem externalProxies_ne_nil (host : String) (inbound : Inbound) :
    externalProxies host inbound ≠ [] := by
  unfold externalProxies
  split
  · exact List.cons_ne_nil _ _
  next proxied => exact proxied

/-- The entries of an inbound under other credentials and securities. -/
def Inbound.clashEndpoints (inbound : Inbound) (client : Client)
    (host : String) : List Endpoint :=
  (externalProxies host inbound).map fun proxy =>
    inbound.entry (inbound.clashCredential client)
      inbound.stream.transport.clashHost proxy
      (inbound.clashSecured proxy.forceTls)

theorem links_alike_iff {draw : Draw} {host credential : String}
    {inbound : Inbound} {client : Client} :
    List.Forall₂ (Endpoint.Alike inbound.stream)
        (inbound.linkEndpoints draw host credential)
        (inbound.clashEndpoints client host) ↔
      (inbound.stream.externalProxy = [] →
        inbound.listensEverywhere ∨ inbound.listen = host) ∧
      (credential = inbound.clashCredential client ∧
        inbound.stream.transport.host = inbound.stream.transport.clashHost) ∧
      ∀ proxy ∈ externalProxies host inbound,
        (inbound.linkSecured draw proxy.forceTls).Alike inbound.stream
          (inbound.clashSecured proxy.forceTls) := by
  unfold Inbound.linkEndpoints Inbound.clashEndpoints linkEntries
    externalProxies
  by_cases empty : inbound.stream.externalProxy = []
  · simp only [empty, if_true, List.map_cons, List.map_nil,
      List.forall₂_cons, List.Forall₂.nil, and_true, forall_const,
      List.forall_mem_singleton, Inbound.entry_alike_iff,
      resolveInboundAddress_eq_iff]
  · obtain ⟨first, rest, proxies⟩ := List.exists_cons_of_ne_nil empty
    rw [if_neg empty, if_neg empty, List.forall₂_map_left_iff,
      List.forall₂_map_right_iff, List.forall₂_same]
    simp only [Inbound.entry_alike_iff, true_and, and_self, empty,
      false_implies]
    constructor
    · intro every
      exact ⟨(every first (by simp [proxies])).1,
        fun proxy member => (every proxy member).2⟩
    · exact fun every proxy member => ⟨every.1, every.2 proxy member⟩

/-- The outbounds of an inbound by what each denotes. -/
def Inbound.jsonEndpoints (inbound : Inbound) (client : Client) (host : String)
    (stream : ClientStream) : List Endpoint :=
  mapEarlier (fun earlier proxy =>
    inbound.entry (inbound.jsonCredential client) inbound.stream.transport.host
      proxy ((stream.forceAll (earlier.map (·.forceTls))).force
        proxy.forceTls).secured) [] (externalProxies host inbound)

theorem outbounds_alike_iff {host : String} {inbound : Inbound}
    {client : Client} {stream : ClientStream} :
    List.Forall₂ (Endpoint.Alike inbound.stream)
        (inbound.jsonEndpoints client host stream)
        (inbound.clashEndpoints client host) ↔
      (inbound.jsonCredential client = inbound.clashCredential client ∧
        inbound.stream.transport.host = inbound.stream.transport.clashHost) ∧
      ∀ before proxy after,
        externalProxies host inbound = before ++ proxy :: after →
          ((stream.forceAll (before.map (·.forceTls))).force
              proxy.forceTls).secured.Alike inbound.stream
            (inbound.clashSecured proxy.forceTls) := by
  obtain ⟨first, rest, proxies⟩ :=
    List.exists_cons_of_ne_nil (externalProxies_ne_nil host inbound)
  unfold Inbound.jsonEndpoints Inbound.clashEndpoints
  simp only [forall₂_mapEarlier_iff, List.nil_append, Inbound.entry_alike_iff,
    and_self, true_and]
  constructor
  · intro every
    exact ⟨(every [] first rest proxies).1,
      fun before proxy after split => (every before proxy after split).2⟩
  · exact fun every before proxy after split =>
      ⟨every.1, every.2 before proxy after split⟩

/-! The securities of one entry. -/

theorem choose_getD_mem {number : Nat} {values : List String}
    (some : values ≠ []) : (choose number values).getD "" ∈ values := by
  obtain ⟨value, chosen⟩ := Option.ne_none_iff_exists'.mp
    (mt (@choose_eq_none number values).mp some)
  rw [chosen]
  exact choose_mem chosen

theorem headD_mem {values : List String} (some : values ≠ []) :
    values.headD "" ∈ values := by
  cases values with
  | nil => exact absurd rfl some
  | cons value values => exact List.mem_cons_self

/-- A draw is as good as the first name. -/
theorem sameDraw_head (number : Nat) (values : List String) :
    SameDraw values ((choose number values).getD "") (values.headD "") := by
  by_cases empty : values = []
  · subst empty
    exact .inl rfl
  · exact .inr ⟨choose_getD_mem empty, headD_mem empty⟩

theorem sameDraw_empty_iff {values : List String} {value : String}
    (member : value ∈ values) : SameDraw values value "" ↔ "" ∈ values := by
  constructor
  · rintro (rfl | ⟨_, empty⟩)
    · exact member
    · exact empty
  · exact fun empty => .inr ⟨member, empty⟩

theorem sameDraw_comm {values : List String} {value other : String} :
    SameDraw values value other ↔ SameDraw values other value := by
  simp only [SameDraw, eq_comm, and_comm]

section Securities

variable {inbound : Inbound} {force : ForceTls}

theorem clashSecured_same_of_reality {reality : RealitySettings}
    (security : inbound.stream.security = .reality)
    (settings : inbound.stream.realitySettings = some reality) :
    inbound.clashSecured .same =
      if reality.publicKey = "" ∧ reality.shortIds.headD "" = "" then
        .tls (clashServerName inbound.protocol (clashRealityData reality))
      else
        .reality (clashServerName inbound.protocol (clashRealityData reality))
          reality.publicKey (reality.shortIds.headD "") := by
  simp [Inbound.clashSecured, clashStreamData, ClientStream.clashSecured,
    security, settings, clashRealityData]

/-- Without REALITY a link and a proxy denote the same security. -/
theorem link_secured_alike {draw : Draw}
    (plain : inbound.stream.security ≠ .reality) :
    (inbound.linkSecured draw force).Alike inbound.stream
      (inbound.clashSecured force) := by
  have same : inbound.linkSecured draw force = inbound.clashSecured force := by
    cases force <;> cases security : inbound.stream.security <;>
      simp_all [Inbound.linkSecured, Inbound.linkNames, overridden,
        Inbound.clashSecured, clashStreamData, ClientStream.clashSecured,
        StreamSettings.serverName]
    cases inbound.stream.tlsSettings <;> rfl
  rw [same]
  cases inbound.clashSecured force with
  | none => exact trivial
  | tls name => exact .inl rfl
  | reality name key id => exact ⟨.inl rfl, rfl, .inl rfl⟩

theorem sameDraw_empty_head_iff {values : List String} :
    SameDraw values "" (values.headD "") ↔ values = [] ∨ "" ∈ values := by
  cases values with
  | nil => exact iff_of_true (.inl rfl) (.inl rfl)
  | cons value values =>
      rw [sameDraw_comm, List.headD_cons,
        sameDraw_empty_iff List.mem_cons_self]
      simp

/-- What a link with the names of the inbound denotes. -/
theorem linkSecured_drawn {draw : Draw} {reality : RealitySettings}
    (security : inbound.stream.security = .reality)
    (settings : inbound.stream.realitySettings = some reality)
    (protocol : inbound.protocol = .vless ∨ inbound.protocol = .trojan) :
    inbound.linkSecured draw .same =
      .reality ((choose draw.serverName reality.serverNames).getD "")
        reality.publicKey ((choose draw.shortId reality.shortIds).getD "") := by
  rcases protocol with protocol | protocol <;>
    simp [Inbound.linkSecured, Inbound.linkNames, overridden, security,
      protocol, settings, realityNames]

/-- What a link without the names of the inbound denotes. -/
theorem linkSecured_bare {draw : Draw}
    (security : inbound.stream.security = .reality)
    (protocol : inbound.protocol = .vmess ∨
      inbound.protocol = .shadowsocks ∧ inbound.stream.externalProxy ≠ []) :
    inbound.linkSecured draw .same = .reality "" "" "" := by
  rcases protocol with protocol | ⟨protocol, proxied⟩
  · simp [Inbound.linkSecured, Inbound.linkNames, overridden, security,
      protocol]
  · simp [Inbound.linkSecured, Inbound.linkNames, overridden, security,
      protocol, proxied]

/-- A link without names agrees with a proxy that is not bare. -/
theorem bare_shared_iff {reality : RealitySettings}
    (keyed : reality.publicKey = "" → reality.shortIds.headD "" ≠ "") :
    (reality.serverNames = [] ∨ "" ∈ reality.serverNames) ∧
        "" = reality.publicKey ∧
          (reality.shortIds = [] ∨ "" ∈ reality.shortIds) ↔
      (reality.serverNames = [] ∨ "" ∈ reality.serverNames) ∧
        reality.publicKey = "" ∧ "" ∈ reality.shortIds ∧
          reality.shortIds.headD "" ≠ "" := by
  refine and_congr Iff.rfl ⟨?_, ?_⟩
  · rintro ⟨key, ids⟩
    refine ⟨key.symm, ids.resolve_left fun empty => ?_, keyed key.symm⟩
    exact keyed key.symm (by rw [empty]; rfl)
  · rintro ⟨key, member, -⟩
    exact ⟨key.symm, .inr member⟩

/-- Without an override a REALITY entry is shared or not. -/
theorem link_reality_alike_iff {draw : Draw} {reality : RealitySettings}
    (security : inbound.stream.security = .reality)
    (settings : inbound.stream.realitySettings = some reality)
    (ready : inbound.LinkReady) :
    (inbound.linkSecured draw .same).Alike inbound.stream
        (inbound.clashSecured .same) ↔
      inbound.RealityShared reality .same := by
  have names : inbound.stream.names = reality.serverNames := by
    simp [StreamSettings.names, security, settings]
  have ids : inbound.stream.ids = reality.shortIds := by
    simp [StreamSettings.ids, security, settings]
  rw [clashSecured_same_of_reality security settings]
  by_cases bare : reality.publicKey = "" ∧ reality.shortIds.headD "" = ""
  · rw [if_pos bare]
    refine iff_of_false ?_ ?_
    · simp only [Inbound.linkSecured, overridden, security]
      split <;> exact id
    · cases protocol : inbound.protocol <;>
        simp only [Inbound.RealityShared, protocol] <;> tauto
  rw [if_neg bare]
  have keyed : reality.publicKey = "" → reality.shortIds.headD "" ≠ "" :=
    fun key id => bare ⟨key, id⟩
  cases protocol : inbound.protocol with
  | vless =>
      rw [linkSecured_drawn security settings (.inl protocol)]
      refine iff_of_true ⟨?_, rfl, ?_⟩ ?_
      · rw [names]
        exact sameDraw_head _ _
      · rw [ids]
        exact sameDraw_head _ _
      · simp only [Inbound.RealityShared, protocol]
        tauto
  | trojan =>
      rw [linkSecured_drawn security settings (.inr protocol)]
      obtain ⟨some, _⟩ := ready.drawable (.inr protocol) security reality
        settings
      have drawn := @sameDraw_empty_iff reality.serverNames _
        (@choose_getD_mem draw.serverName _ some)
      have draws := sameDraw_head draw.shortId reality.shortIds
      simp only [Secured.Alike, names, ids, clashServerName, if_true, drawn,
        draws, and_true, Inbound.RealityShared, protocol]
      tauto
  | vmess =>
      rw [linkSecured_bare security (.inl protocol)]
      simp only [Secured.Alike, names, ids, clashServerName, reduceCtorEq,
        if_false, clashRealityData, sameDraw_empty_head_iff,
        Inbound.RealityShared, protocol, false_implies, and_true]
      exact bare_shared_iff keyed
  | shadowsocks =>
      by_cases proxied : inbound.stream.externalProxy = []
      · refine iff_of_false ?_ ?_
        · simp only [Inbound.linkSecured, security, protocol, proxied,
            and_self, if_true]
          exact id
        · simp [Inbound.RealityShared, protocol, proxied]
      · rw [linkSecured_bare security (.inr ⟨protocol, proxied⟩)]
        simp only [Secured.Alike, names, ids, clashServerName, reduceCtorEq,
          if_false, clashRealityData, sameDraw_empty_head_iff,
          Inbound.RealityShared, protocol, forall_const, proxied, ne_eq,
          not_false_eq_true, and_true]
        exact bare_shared_iff keyed

/-- A link and a proxy denote the same security unless REALITY is not
shared. -/
theorem link_secured_alike_iff {draw : Draw} (ready : inbound.LinkReady)
    (settings : inbound.stream.HasSettings)
    (alone : inbound.stream.externalProxy = [] → force = .same) :
    (inbound.linkSecured draw force).Alike inbound.stream
        (inbound.clashSecured force) ↔
      (inbound.stream.security = .reality →
        ∀ reality ∈ inbound.stream.realitySettings,
          inbound.RealityShared reality force) := by
  by_cases plain : inbound.stream.security ≠ .reality
  · exact iff_of_true (link_secured_alike plain) fun security =>
      absurd security plain
  have security := Decidable.not_not.mp plain
  obtain ⟨reality, present⟩ :=
    Option.ne_none_iff_exists'.mp (settings.reality security)
  simp only [security, present, Option.mem_def, Option.some.injEq,
    forall_eq', forall_const]
  cases force with
  | same => exact link_reality_alike_iff security present ready
  | none =>
      refine iff_of_true ?_ trivial
      simp only [Inbound.linkSecured, overridden, Inbound.clashSecured, ite_self]
      exact trivial
  | tls =>
      have proxied : inbound.stream.externalProxy ≠ [] := by
        intro empty
        cases alone empty
      have names : inbound.stream.names = reality.serverNames := by
        simp [StreamSettings.names, security, present]
      simp only [Inbound.linkSecured, proxied, and_false, if_false, overridden,
        Inbound.clashSecured, security, reduceCtorEq, Secured.Alike, names,
        Inbound.RealityShared, Inbound.linkNames]
      split
      next protocol =>
        obtain ⟨some, -⟩ := ready.drawable protocol security reality present
        simp only [present, realityNames, Option.elim_some, protocol,
          forall_const]
        exact sameDraw_empty_iff (choose_getD_mem some)
      next protocol =>
        exact iff_of_true (.inl rfl) fun drawn => absurd drawn protocol

/-- The stream that `getConfig` starts from. -/
theorem streamData_secured {draw : Draw} {stream : StreamSettings}
    {client : ClientStream} (read : streamData draw stream = some client) :
    client.security = stream.security ∧
      (stream.security ≠ .reality →
        client.tlsSettings.elim "" (·.serverName) =
          if stream.security = .tls then stream.serverName else "") ∧
      (stream.security = .reality → ∀ reality ∈ stream.realitySettings,
        client.secured =
          .reality ((choose draw.serverName reality.serverNames).getD "")
            reality.publicKey
            ((choose draw.shortId reality.shortIds).getD "")) := by
  unfold streamData at read
  cases security : stream.security with
  | none =>
      rw [security] at read
      obtain rfl := Option.some.inj read
      simp
  | tls =>
      rw [security] at read
      obtain ⟨tls, present, rfl⟩ := Option.map_eq_some_iff.mp read
      simp [StreamSettings.serverName, present, tlsData]
  | reality =>
      rw [security] at read
      obtain ⟨reality, present, rfl⟩ := Option.map_eq_some_iff.mp read
      simp [present, ClientStream.secured, realityData]

theorem names_eq_nil (plain : inbound.stream.security ≠ .reality) :
    inbound.stream.names = [] := by
  simp [StreamSettings.names, plain]

theorem tls_alike_iff {name other : String}
    (plain : inbound.stream.security ≠ .reality) :
    (Secured.tls name).Alike inbound.stream (.tls other) ↔ name = other := by
  simp [Secured.Alike, SameDraw, names_eq_nil plain]

theorem lastOverride_eq_none {earlier : List ForceTls}
    (notNone : lastOverride earlier ≠ some .none)
    (notTls : lastOverride earlier ≠ some .tls) : lastOverride earlier = none := by
  cases last : lastOverride earlier with
  | none => rfl
  | some force =>
      cases force with
      | same => exact absurd rfl (mem_of_lastOverride last).2
      | none => exact absurd last notNone
      | tls => exact absurd last notTls

/-- A shared REALITY entry is one of REALITY in the Clash profile. -/
theorem clashSecured_of_shared {reality : RealitySettings}
    (security : inbound.stream.security = .reality)
    (settings : inbound.stream.realitySettings = some reality)
    (shared : inbound.RealityShared reality .same) :
    inbound.clashSecured .same =
      .reality (clashServerName inbound.protocol (clashRealityData reality))
        reality.publicKey (reality.shortIds.headD "") := by
  rw [clashSecured_same_of_reality security settings, if_neg]
  rintro ⟨key, id⟩
  cases protocol : inbound.protocol <;>
    simp only [Inbound.RealityShared, protocol] at shared <;> tauto

/-- The drawn name is as good as the one that a shared proxy shows. -/
theorem sameDraw_clashServerName {number : Nat} {reality : RealitySettings}
    (shared : inbound.RealityShared reality .same) :
    SameDraw reality.serverNames
      ((choose number reality.serverNames).getD "")
      (clashServerName inbound.protocol (clashRealityData reality)) := by
  unfold clashServerName
  split
  next protocol =>
    simp only [Inbound.RealityShared, protocol] at shared
    exact .inr ⟨choose_getD_mem (List.ne_nil_of_mem shared.2), shared.2⟩
  next => exact sameDraw_head number reality.serverNames

/-- An outbound and a proxy denote the same security unless an override of an
entry before is still in force. -/
theorem json_secured_alike_iff {draw : Draw} {client : ClientStream}
    {earlier : List ForceTls}
    (read : streamData draw inbound.stream = some client)
    (shared : inbound.stream.security = .reality →
      ∀ reality ∈ inbound.stream.realitySettings,
        inbound.RealityShared reality force) :
    ((client.forceAll earlier).force force).secured.Alike inbound.stream
        (inbound.clashSecured force) ↔
      inbound.stream.Undisturbed earlier force := by
  obtain ⟨security, name, drawn⟩ := streamData_secured read
  rw [← forceAll_append, forceAll_secured, lastOverride_append, security]
  cases force with
  | none =>
      simp only [reduceCtorEq, if_false]
      exact iff_of_true trivial trivial
  | tls =>
      simp only [reduceCtorEq, if_false, Inbound.clashSecured]
      cases base : inbound.stream.security with
      | none | reality =>
          simp only [reduceCtorEq, false_and, if_false,
            StreamSettings.Undisturbed, base]
          exact iff_of_true (.inl rfl) trivial
      | tls =>
          rw [tls_alike_iff (by simp [base]), name (by simp [base])]
          simp only [base, true_and, if_true, List.mem_append,
            List.mem_singleton, reduceCtorEq, or_false,
            StreamSettings.Undisturbed]
          by_cases left : .none ∈ earlier
          · simp [left, @eq_comm _ ""]
          · simp [left]
  | same =>
      simp only [if_true, List.mem_append, List.mem_singleton, reduceCtorEq,
        or_false]
      cases base : inbound.stream.security with
      | none =>
          have clash : inbound.clashSecured .same = .none := by
            simp [Inbound.clashSecured, clashStreamData,
              ClientStream.clashSecured, base]
          have plain : client.secured = .none := by
            simp [ClientStream.secured, security, base]
          simp only [clash, StreamSettings.Undisturbed, base]
          split
          next last => exact iff_of_true trivial (by simp [last])
          next last => exact iff_of_false id (by simp [last])
          next notTls =>
            rw [plain]
            exact iff_of_true trivial notTls
      | tls =>
          have clash : inbound.clashSecured .same =
              .tls inbound.stream.serverName := by
            simp only [Inbound.clashSecured, clashStreamData,
              ClientStream.clashSecured, base, if_true,
              StreamSettings.serverName]
            cases inbound.stream.tlsSettings <;> rfl
          have plain : client.secured = .tls inbound.stream.serverName := by
            simp [ClientStream.secured, security, base, name]
          have named : client.tlsSettings.elim "" (·.serverName) =
              inbound.stream.serverName := by
            simp [name, base]
          simp only [clash, StreamSettings.Undisturbed, base, true_and]
          split
          next last => exact iff_of_false id (by simp [last])
          next last =>
            rw [tls_alike_iff (by simp [base]), last, named]
            by_cases left : .none ∈ earlier
            · simp [left, @eq_comm _ ""]
            · simp [left]
          next notNone notTls =>
            rw [plain, tls_alike_iff (by simp [base])]
            refine iff_of_true rfl ⟨notNone, .inl ?_⟩
            exact not_mem_of_lastOverride (lastOverride_eq_none notNone notTls)
              (by decide)
      | reality =>
          have present : inbound.stream.realitySettings ≠ none := by
            intro missing
            simp [streamData, base, missing] at read
          obtain ⟨reality, present⟩ := Option.ne_none_iff_exists'.mp present
          have shows := shared base reality present
          rw [clashSecured_of_shared base present shows]
          simp only [StreamSettings.Undisturbed, base]
          split
          next last => exact iff_of_false id (by simp [last])
          next last => exact iff_of_false id (by simp [last])
          next notNone notTls =>
            rw [drawn base reality present]
            refine iff_of_true ⟨?_, rfl, ?_⟩
              (lastOverride_eq_none notNone notTls)
            · simpa [StreamSettings.names, base, present] using
                sameDraw_clashServerName shows
            · simpa [StreamSettings.ids, base, present] using
                sameDraw_head draw.shortId reality.shortIds

end Securities

/-! The credentials. -/

/-- The credential in the links that are made for a client. -/
def Inbound.linkCredential (inbound : Inbound) (client : Client) :
    Option String :=
  match inbound.protocol with
  | .vmess | .vless => some client.id
  | .trojan => some client.password
  | .shadowsocks =>
      inbound.password.bind fun password => encPart inbound password client

theorem head_of_is2022 {inbound : Inbound} (is2022 : inbound.is2022 = true) :
    inbound.method.toList.head? = some '2' := by
  have front := List.isPrefixOf_iff_prefix.mp is2022
  obtain ⟨rest, split⟩ := front
  rw [← split]
  rfl

theorem append_ne_self {front text : String} (some : front ≠ "") :
    front ++ text ≠ text := by
  intro same
  have lengths := congrArg String.length same
  rw [String.length_append] at lengths
  exact some (String.length_eq_zero_iff.mp (by omega))

/-- The three formats have the same credential exactly if the clients have. -/
theorem credential_iff {inbound : Inbound} {first client : Client}
    {credential : String}
    (linked : inbound.linkCredential first = some credential) :
    credential = inbound.clashCredential client ∧
        inbound.jsonCredential client = inbound.clashCredential client ↔
      inbound.SameCredential first client := by
  unfold Inbound.linkCredential at linked
  unfold Inbound.clashCredential Inbound.jsonCredential Inbound.SameCredential
  cases protocol : inbound.protocol with
  | vmess | vless | trojan =>
      rw [protocol] at linked
      obtain rfl := Option.some.inj linked
      simp
  | shadowsocks =>
      rw [protocol] at linked
      obtain ⟨password, present, encoded⟩ := Option.bind_eq_some_iff.mp linked
      obtain ⟨letter, head, encoded⟩ := Option.bind_eq_some_iff.mp encoded
      simp only [present, Option.getD_some, serverPassword]
      by_cases is2022 : inbound.is2022 = true
      · obtain rfl : '2' = letter :=
          Option.some.inj ((head_of_is2022 is2022).symm.trans head)
        obtain rfl := Option.some.inj encoded
        simp only [is2022, if_true, true_and]
        by_cases empty : password = ""
        · refine iff_of_false ?_ (fun both => both.1 (congrArg some empty))
          rintro ⟨-, same⟩
          simp only [empty, ne_eq, not_true_eq_false, if_false,
            String.append_right_inj] at same
          exact append_ne_self (by decide) same
        · simp only [ne_eq, empty, not_false_eq_true, if_true, and_true,
            String.append_right_inj, Option.some.injEq, true_and]
      · simp only [Bool.not_eq_true] at is2022
        simp only [is2022, Bool.false_eq_true, false_and, if_false, and_true,
          head, Option.some.injEq]
        by_cases two : letter = '2'
        · rw [if_pos two] at encoded
          obtain rfl := Option.some.inj encoded
          simp only [two, if_true, String.append_right_inj]
        · rw [if_neg two] at encoded
          obtain rfl := Option.some.inj encoded
          simp only [two, if_false, String.append_right_inj]

/-! The formats. -/

theorem getLink_endpoints {draw : Draw} {host email : String}
    {inbound : Inbound} {client : Client} (ready : inbound.LinkReady)
    (supported : inbound.stream.transport.Supported)
    (found : findClient inbound.clients email = some client) :
    ∃ links credential, getLink draw host inbound email = some links ∧
      inbound.linkCredential client = some credential ∧
      links.map Link.endpoint =
        inbound.linkEndpoints draw host credential := by
  unfold getLink Inbound.linkCredential
  cases protocol : inbound.protocol with
  | vmess =>
      obtain ⟨links, made, entries⟩ :=
        @genVmessLink_endpoints draw host email _ _ supported protocol found
      exact ⟨links, _, made, rfl, entries⟩
  | vless =>
      obtain ⟨links, made, entries⟩ := @genVlessLink_endpoints draw host email
        _ _ supported protocol found (ready.drawable (.inl protocol))
      exact ⟨links, _, made, rfl, entries⟩
  | trojan =>
      obtain ⟨links, made, entries⟩ := @genTrojanLink_endpoints draw host email
        _ _ supported protocol found (ready.drawable (.inr protocol))
      exact ⟨links, _, made, rfl, entries⟩
  | shadowsocks =>
      obtain ⟨password, present⟩ :=
        Option.ne_none_iff_exists'.mp (ready.password protocol)
      have letters : inbound.method.toList ≠ [] := fun empty =>
        ready.method protocol (String.toList_eq_nil_iff.mp empty)
      obtain ⟨letter, rest, method⟩ := List.exists_cons_of_ne_nil letters
      obtain ⟨userInfo, encoded⟩ :
          ∃ userInfo, encPart inbound password client = some userInfo := by
        unfold encPart
        rw [method]
        by_cases two : letter = '2'
        · exact ⟨_, if_pos two⟩
        · exact ⟨_, if_neg two⟩
      obtain ⟨links, made, entries⟩ := @genShadowsocksLink_endpoints draw host
        email _ _ _ _ supported protocol found present encoded
      exact ⟨links, userInfo, made, by rw [present]; exact encoded, entries⟩

/-- The generators of links panic otherwise. -/
theorem linkReady_of_getLink {draw : Draw} {host email : String}
    {inbound : Inbound} {links : List Link}
    (made : getLink draw host inbound email = some links) :
    inbound.LinkReady := by
  unfold getLink at made
  cases protocol : inbound.protocol with
  | vmess => constructor <;> simp [protocol]
  | vless | trojan =>
      rw [protocol] at made
      refine ⟨fun _ => ?_, by simp [protocol], by simp [protocol]⟩
      by_contra stuck
      simp only [genVlessLink, genTrojanLink,
        applyShareSecurityParams_eq_none stuck, Option.bind_eq_bind,
        Option.bind_none, Option.bind_fun_none] at made
      cases made
  | shadowsocks =>
      rw [protocol] at made
      obtain ⟨password, present, rest⟩ := Option.bind_eq_some_iff.mp made
      obtain ⟨client, found, rest⟩ := Option.bind_eq_some_iff.mp rest
      obtain ⟨userInfo, encoded, rest⟩ := Option.bind_eq_some_iff.mp rest
      obtain ⟨letter, head, encoded⟩ := Option.bind_eq_some_iff.mp encoded
      refine ⟨by simp [protocol], fun _ empty => ?_, fun _ => by simp [present]⟩
      rw [empty] at head
      cases head

theorem streamData_isSome_iff {draw : Draw} {stream : StreamSettings} :
    (∃ client, streamData draw stream = some client) ↔ stream.HasSettings := by
  unfold streamData
  cases security : stream.security with
  | none => exact iff_of_true ⟨_, rfl⟩ ⟨by simp [security], by simp [security]⟩
  | tls =>
      constructor
      · rintro ⟨client, read⟩
        obtain ⟨tls, present, -⟩ := Option.map_eq_some_iff.mp read
        exact ⟨fun _ => by simp [present], by simp [security]⟩
      · intro settings
        obtain ⟨tls, present⟩ :=
          Option.ne_none_iff_exists'.mp (settings.tls security)
        exact ⟨_, by rw [present]; rfl⟩
  | reality =>
      constructor
      · rintro ⟨client, read⟩
        obtain ⟨reality, present, -⟩ := Option.map_eq_some_iff.mp read
        exact ⟨by simp [security], fun _ => by simp [present]⟩
      · intro settings
        obtain ⟨reality, present⟩ :=
          Option.ne_none_iff_exists'.mp (settings.reality security)
        exact ⟨_, by rw [present]; rfl⟩

theorem streamData_transport {draw : Draw} {stream : StreamSettings}
    {client : ClientStream} (read : streamData draw stream = some client) :
    client.transport = stream.transport := by
  unfold streamData at read
  split at read
  · obtain rfl := Option.some.inj read
    rfl
  · obtain ⟨tls, -, rfl⟩ := Option.map_eq_some_iff.mp read
    rfl
  · obtain ⟨reality, -, rfl⟩ := Option.map_eq_some_iff.mp read
    rfl

section Formats

variable {linkDraw jsonDraw : Draw} {host : String} {inbound : Inbound}
  {client first : Client} {stream : ClientStream}

theorem getConfig_endpoints
    (read : streamData jsonDraw inbound.stream = some stream) :
    ∃ outbounds, (getConfig jsonDraw inbound client host).map Prod.fst =
        some outbounds ∧
      outbounds.map Outbound.endpoint =
        inbound.jsonEndpoints client host stream := by
  refine ⟨_, by rw [getConfig, read]; rfl, ?_⟩
  exact getConfigs_endpoints client inbound stream [] _
    (streamData_transport read)

/-- Once no generator panics the formats agree as their entries do. -/
theorem formatsAgree_iff_entries (ready : inbound.LinkReady)
    (supported : inbound.stream.transport.Supported)
    (settings : inbound.stream.HasSettings)
    (found : findClient inbound.clients client.email = some first)
    (read : streamData jsonDraw inbound.stream = some stream) :
    FormatsAgree linkDraw jsonDraw host inbound client ↔
      (inbound.stream.externalProxy = [] →
        inbound.listensEverywhere ∨ inbound.listen = host) ∧
      inbound.SameCredential first client ∧
      inbound.stream.transport.host = inbound.stream.transport.clashHost ∧
      (∀ proxy ∈ externalProxies host inbound,
        (inbound.linkSecured linkDraw proxy.forceTls).Alike inbound.stream
          (inbound.clashSecured proxy.forceTls)) ∧
      ∀ before proxy after,
        externalProxies host inbound = before ++ proxy :: after →
          ((stream.forceAll (before.map (·.forceTls))).force
              proxy.forceTls).secured.Alike inbound.stream
            (inbound.clashSecured proxy.forceTls) := by
  obtain ⟨links, credential, made, linked, entries⟩ :=
    @getLink_endpoints linkDraw host _ inbound first ready supported found
  obtain ⟨outbounds, configured, outEntries⟩ :=
    @getConfig_endpoints jsonDraw host inbound client stream read
  have proxies : (getProxies inbound client host).map Proxy.endpoint =
      inbound.clashEndpoints client host :=
    getProxies_endpoints client host supported ready.method settings
  have agree : FormatsAgree linkDraw jsonDraw host inbound client ↔
      List.Forall₂ (Endpoint.Alike inbound.stream)
          (inbound.linkEndpoints linkDraw host credential)
          (inbound.clashEndpoints client host) ∧
        List.Forall₂ (Endpoint.Alike inbound.stream)
          (inbound.jsonEndpoints client host stream)
          (inbound.clashEndpoints client host) := by
    simp only [FormatsAgree, made, configured, Option.some.injEq,
      exists_eq_left', entries, outEntries, proxies]
  rw [agree, links_alike_iff, outbounds_alike_iff, ← credential_iff linked]
  tauto

/-- Only an external proxy overrides anything. -/
theorem forceTls_same_of_alone {proxy : ExternalProxy}
    (member : proxy ∈ externalProxies host inbound)
    (alone : inbound.stream.externalProxy = []) : proxy.forceTls = .same := by
  rw [externalProxies, if_pos alone, List.mem_singleton] at member
  rw [member]

theorem exists_findClient (member : client ∈ inbound.clients) :
    ∃ first, findClient inbound.clients client.email = some first :=
  Option.isSome_iff_exists.mp
    (List.find?_isSome.mpr ⟨client, member, by simp⟩)

theorem consistent_of_formatsAgree
    (supported : inbound.stream.transport.Supported)
    (member : client ∈ inbound.clients)
    (agree : FormatsAgree linkDraw jsonDraw host inbound client) :
    Consistent host inbound client := by
  obtain ⟨first, found⟩ := exists_findClient member
  have ⟨links, made, outbounds, configured, _⟩ := agree
  have ready := linkReady_of_getLink made
  obtain ⟨configs, configured, -⟩ := Option.map_eq_some_iff.mp configured
  obtain ⟨stream, read, -⟩ := Option.map_eq_some_iff.mp configured
  have settings := streamData_isSome_iff.mp ⟨stream, read⟩
  obtain ⟨address, credential, authority, shown, outShown⟩ :=
    (formatsAgree_iff_entries ready supported settings found read).mp agree
  refine ⟨settings, ready, fun other same => ?_,
    host_eq_clashHost_iff.mp authority, address,
    fun before proxy after split => ?_⟩
  · obtain rfl := Option.some.inj (found.symm.trans (Option.mem_def.mp same))
    exact credential
  · have listed : proxy ∈ externalProxies host inbound := by simp [split]
    have shared := (link_secured_alike_iff ready settings
      (forceTls_same_of_alone listed)).mp (shown proxy listed)
    exact ⟨(json_secured_alike_iff read shared).mp
      (outShown before proxy after split), shared⟩

theorem formatsAgree_of_consistent
    (supported : inbound.stream.transport.Supported)
    (member : client ∈ inbound.clients)
    (consistent : Consistent host inbound client) :
    FormatsAgree linkDraw jsonDraw host inbound client := by
  obtain ⟨first, found⟩ := exists_findClient member
  obtain ⟨settings, ready, credential, authority, address, entries⟩ :=
    consistent
  obtain ⟨stream, read⟩ :=
    (@streamData_isSome_iff jsonDraw inbound.stream).mpr settings
  refine (formatsAgree_iff_entries ready supported settings found read).mpr
    ⟨address, credential first found, host_eq_clashHost_iff.mpr authority,
      fun proxy listed => ?_, fun before proxy after split => ?_⟩
  · obtain ⟨before, after, split⟩ := List.append_of_mem listed
    exact (link_secured_alike_iff ready settings
      (forceTls_same_of_alone listed)).mpr (entries before proxy after split).2
  · exact (json_secured_alike_iff read (entries before proxy after split).2).mpr
      (entries before proxy after split).1

end Formats

end VpnUi.Sub
