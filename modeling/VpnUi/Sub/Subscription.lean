import VpnUi.Sub.SameEndpoints

namespace VpnUi.Sub

open Foundation

/-! The three subscriptions as a whole. -/

/-- The inbound with the address of the last entry that was made of it. -/
def Inbound.moved (inbound : Inbound) (listen : String) (port : Int) :
    Inbound :=
  { inbound with listen := listen, port := port }

theorem getConfigs_moved (client : Client) (inbound : Inbound)
    (stream : ClientStream) (listen : String) (port : Int)
    (proxies : List ExternalProxy) :
    (getConfigs client (inbound.moved listen port) stream proxies).1 =
      (getConfigs client inbound stream proxies).1 := by
  cases proxies <;> rfl

theorem getConfigs_last (client : Client) (inbound : Inbound)
    (stream : ClientStream) (proxies : List ExternalProxy) :
    ∃ listen port, (getConfigs client inbound stream proxies).2 =
      inbound.moved listen port ∧
        ((∀ proxy ∈ proxies, proxy.port = inbound.port) →
          port = inbound.port) := by
  induction proxies generalizing inbound stream with
  | nil => exact ⟨inbound.listen, inbound.port, rfl, fun _ => rfl⟩
  | cons proxy proxies induction =>
      obtain ⟨listen, port, last, stays⟩ := induction
        (inbound.moved proxy.dest proxy.port) (stream.force proxy.forceTls)
      refine ⟨listen, port, last, fun every => ?_⟩
      have here : proxy.port = inbound.port := every proxy List.mem_cons_self
      rw [← here]
      refine stays fun other member => ?_
      exact (every other (List.mem_cons_of_mem _ member)).trans here.symm

/-- What a client leaves of the inbound gives the next one the same entries. -/
theorem externalProxies_moved {host listen : String} {port : Int}
    {inbound : Inbound}
    (stays : (∀ proxy ∈ externalProxies host inbound,
      proxy.port = inbound.port) → port = inbound.port) :
    externalProxies host (inbound.moved listen port) =
      externalProxies host inbound := by
  by_cases alone : inbound.stream.externalProxy = []
  · obtain rfl : port = inbound.port := stays (by
      simp [externalProxies, alone])
    rfl
  · rw [externalProxies, externalProxies, if_neg alone, if_neg]
    · rfl
    · exact alone

theorem getConfig_moved {draw : Draw} {host listen : String} {port : Int}
    {inbound : Inbound}
    (stays : (∀ proxy ∈ externalProxies host inbound,
      proxy.port = inbound.port) → port = inbound.port) (client : Client) :
    (getConfig draw (inbound.moved listen port) client host).map Prod.fst =
      (getConfig draw inbound client host).map Prod.fst := by
  unfold getConfig
  rw [externalProxies_moved stays, Option.map_map, Option.map_map]
  refine Option.map_congr fun stream _ => ?_
  exact getConfigs_moved client inbound stream listen port _

theorem getClientConfigs_moved (host : String) (draw : Client → Draw)
    (inbound : Inbound) (clients : List Client) {listen : String} {port : Int}
    (stays : (∀ proxy ∈ externalProxies host inbound,
      proxy.port = inbound.port) → port = inbound.port) :
    getClientConfigs host draw (inbound.moved listen port) clients =
      (clients.mapM fun client =>
        (getConfig (draw client) inbound client host).map Prod.fst).map
          List.flatten := by
  induction clients generalizing listen port with
  | nil => rfl
  | cons client clients induction =>
      have first := @getConfig_moved (draw client) _ listen _ _ stays client
      rw [getClientConfigs, List.mapM_cons, ← first]
      cases made : getConfig (draw client) (inbound.moved listen port) client
          host with
      | none => rfl
      | some made' =>
          obtain ⟨outbounds, last⟩ := made'
          obtain ⟨stream, -, configs⟩ := Option.map_eq_some_iff.mp made
          obtain ⟨newListen, newPort, moved, keeps⟩ := getConfigs_last client
            (inbound.moved listen port) stream
            (externalProxies host (inbound.moved listen port))
          obtain rfl : last = inbound.moved newListen newPort := by
            rw [configs] at moved
            exact moved
          have later := @induction newListen newPort fun every => by
            have here := stays every
            rw [externalProxies_moved stays] at keeps
            exact (keeps fun proxy member =>
              (every proxy member).trans here.symm).trans here
          simp only [Option.bind_eq_bind, Option.bind_some, later,
            Option.map_some]
          cases clients.mapM fun client =>
            (getConfig (draw client) inbound client host).map Prod.fst <;> rfl

/-- The rewriting of the inbound does not show in the outbounds. -/
theorem getClientConfigs_eq (host : String) (draw : Client → Draw)
    (inbound : Inbound) (clients : List Client) :
    getClientConfigs host draw inbound clients =
      (clients.mapM fun client =>
        (getConfig (draw client) inbound client host).map Prod.fst).map
          List.flatten :=
  @getClientConfigs_moved host draw inbound clients inbound.listen inbound.port
    fun _ => rfl

section Subscriptions

variable {getFallbackMaster : String → Option FallbackMaster}
  {linkDraw jsonDraw : Inbound → Client → Draw} {subId host : String}

theorem resolveFallback_clients (inbound : Inbound) :
    (resolveFallback getFallbackMaster inbound).clients = inbound.clients := by
  unfold resolveFallback
  split
  · split <;> rfl
  · rfl

theorem resolveFallback_transport (inbound : Inbound) :
    (resolveFallback getFallbackMaster inbound).stream.transport =
      inbound.stream.transport := by
  unfold resolveFallback
  split
  · split <;> rfl
  · rfl

theorem served_resolveFallback (inbound : Inbound) :
    served subId (resolveFallback getFallbackMaster inbound) =
      served subId inbound := by
  unfold served
  rw [resolveFallback_clients]

/-- The served clients of consistent inbounds. -/
theorem served_agree {inbound : Inbound} {client : Client}
    (supported : inbound.stream.transport.Supported)
    (consistent : Consistent host (resolveFallback getFallbackMaster inbound)
      client)
    (member : client ∈ served subId inbound) (link json : Draw) :
    FormatsAgree link json host (resolveFallback getFallbackMaster inbound)
      client := by
  refine formatsAgree_of_consistent ?_ ?_ consistent
  · rwa [resolveFallback_transport]
  · rw [resolveFallback_clients]
    exact (List.mem_filter.mp member).1

/-- The links of one inbound. -/
theorem inbound_links_agree {inbound : Inbound}
    (supported : inbound.stream.transport.Supported)
    (consistent : ∀ client ∈ served subId inbound,
      Consistent host (resolveFallback getFallbackMaster inbound) client)
    (draw : Client → Draw) :
    ∃ links, ((served subId inbound).mapM fun client =>
        getLink (draw client) host (resolveFallback getFallbackMaster inbound)
          client.email).map List.flatten = some links ∧
      List.Forall₂ (fun link proxy => link.endpoint.Alike
          (resolveFallback getFallbackMaster inbound).stream proxy.endpoint)
        links ((served subId inbound).flatMap fun client =>
          getProxies (resolveFallback getFallbackMaster inbound) client
            host) := by
  obtain ⟨links, made, alike⟩ := @forall₂_flatten_of_mapM Client Link Proxy
    (fun link proxy => link.endpoint.Alike
      (resolveFallback getFallbackMaster inbound).stream proxy.endpoint)
    (fun client => getLink (draw client) host
      (resolveFallback getFallbackMaster inbound) client.email)
    (getProxies (resolveFallback getFallbackMaster inbound) · host)
    (served subId inbound) fun client member => by
      obtain ⟨links, made, _, _, alike, _⟩ := served_agree supported
        (consistent client member) member (draw client) ⟨0, 0, ""⟩
      rw [List.forall₂_map_left_iff, List.forall₂_map_right_iff] at alike
      exact ⟨links, made, alike⟩
  exact ⟨links.flatten, by rw [made]; rfl, alike⟩

/-- The outbounds of one inbound. -/
theorem inbound_outbounds_agree {inbound : Inbound}
    (supported : inbound.stream.transport.Supported)
    (consistent : ∀ client ∈ served subId inbound,
      Consistent host (resolveFallback getFallbackMaster inbound) client)
    (draw : Client → Draw) :
    ∃ outbounds, getClientConfigs host draw
        (resolveFallback getFallbackMaster inbound) (served subId inbound) =
          some outbounds ∧
      List.Forall₂ (fun outbound proxy => outbound.endpoint.Alike
          (resolveFallback getFallbackMaster inbound).stream proxy.endpoint)
        outbounds ((served subId inbound).flatMap fun client =>
          getProxies (resolveFallback getFallbackMaster inbound) client
            host) := by
  obtain ⟨outbounds, made, alike⟩ :=
    @forall₂_flatten_of_mapM Client Outbound Proxy
      (fun outbound proxy => outbound.endpoint.Alike
        (resolveFallback getFallbackMaster inbound).stream proxy.endpoint)
      (fun client => (getConfig (draw client)
        (resolveFallback getFallbackMaster inbound) client host).map Prod.fst)
      (getProxies (resolveFallback getFallbackMaster inbound) · host)
      (served subId inbound) fun client member => by
        obtain ⟨_, _, outbounds, made, _, alike⟩ := served_agree supported
          (consistent client member) member ⟨0, 0, ""⟩ (draw client)
        rw [List.forall₂_map_left_iff, List.forall₂_map_right_iff] at alike
        exact ⟨outbounds, made, alike⟩
  exact ⟨outbounds.flatten, by rw [getClientConfigs_eq, made]; rfl, alike⟩

variable (getFallbackMaster) in
/-- The same endpoint of one of the inbounds. -/
def AlikeIn (inbounds : List Inbound) (endpoint other : Endpoint) : Prop :=
  ∃ inbound ∈ inbounds,
    endpoint.Alike (resolveFallback getFallbackMaster inbound).stream other

/-- Subscriptions of consistent inbounds denote the same endpoints, entry by
entry and in the same order. -/
theorem subscriptions_agree {inbounds : List Inbound}
    (supported : ∀ inbound ∈ inbounds, inbound.stream.transport.Supported)
    (consistent : ∀ inbound ∈ inbounds, ∀ client ∈ served subId inbound,
      Consistent host (resolveFallback getFallbackMaster inbound) client) :
    ∃ links outbounds,
      getSubs getFallbackMaster linkDraw subId host inbounds = some links ∧
      getJson getFallbackMaster jsonDraw subId host inbounds = some outbounds ∧
      List.Forall₂ (AlikeIn getFallbackMaster inbounds)
        (links.map Link.endpoint)
        ((getClash getFallbackMaster subId host inbounds).map Proxy.endpoint) ∧
      List.Forall₂ (AlikeIn getFallbackMaster inbounds)
        (outbounds.map Outbound.endpoint)
        ((getClash getFallbackMaster subId host inbounds).map
          Proxy.endpoint) := by
  simp only [getSubs, getJson, getClash, served_resolveFallback,
    List.forall₂_map_left_iff, List.forall₂_map_right_iff]
  obtain ⟨links, made, linksAlike⟩ := @forall₂_flatten_of_mapM Inbound Link
    Proxy (fun link proxy => AlikeIn getFallbackMaster inbounds link.endpoint
      proxy.endpoint) _ _ inbounds fun inbound listed => by
    obtain ⟨links, made, alike⟩ := inbound_links_agree
      (supported inbound listed) (consistent inbound listed)
      (linkDraw (resolveFallback getFallbackMaster inbound))
    exact ⟨links, made, alike.imp fun _ _ same => ⟨inbound, listed, same⟩⟩
  obtain ⟨outbounds, configured, outAlike⟩ := @forall₂_flatten_of_mapM Inbound
    Outbound Proxy (fun outbound proxy => AlikeIn getFallbackMaster inbounds
      outbound.endpoint proxy.endpoint) _ _ inbounds fun inbound listed => by
    obtain ⟨outbounds, made, alike⟩ := inbound_outbounds_agree
      (supported inbound listed) (consistent inbound listed)
      (jsonDraw (resolveFallback getFallbackMaster inbound))
    exact ⟨outbounds, made, alike.imp fun _ _ same => ⟨inbound, listed, same⟩⟩
  exact ⟨links.flatten, outbounds.flatten, by rw [made]; rfl,
    by rw [configured]; rfl, linksAlike, outAlike⟩

end Subscriptions

end VpnUi.Sub
