import VpnUi.Foundation.Url
import VpnUi.Panel.Operations

namespace VpnUi.Panel

open Foundation

/-! The requests that edit a client, delete it or reset its traffic: the browser
writes the key of the client into the URL. -/

inductive Handler
  | addInbound
  | delInbound
  | updateInbound
  | getClientIps
  | clearClientIps
  | addInboundClient
  | copyInboundClients
  | delInboundClient
  | updateInboundClient
  | bulkUpdateClients
  | resetClientTraffic
  | resetAllTraffics
  | resetAllClientTraffics
  | delDepletedClients
  | importInbound
  | onlines
  | lastOnline
  | updateClientTraffic
  | delInboundClientByEmail
  | generateOpenVpnCerts
  | generateOcservCert
  | generateSstpCert
  deriving DecidableEq, Repr

inductive Piece
  | static (name : String)
  | param
  deriving DecidableEq, Repr

abbrev Route := Handler × List Piece

/-- The POST routes of `initRouter`, below the group of the inbounds. -/
def postRoutes : List Route :=
  [(.addInbound, [.static "add"]),
    (.delInbound, [.static "del", .param]),
    (.updateInbound, [.static "update", .param]),
    (.getClientIps, [.static "clientIps", .param]),
    (.clearClientIps, [.static "clearClientIps", .param]),
    (.addInboundClient, [.static "addClient"]),
    (.copyInboundClients, [.param, .static "copyClients"]),
    (.delInboundClient, [.param, .static "delClient", .param]),
    (.updateInboundClient, [.static "updateClient", .param]),
    (.bulkUpdateClients, [.static "bulkUpdateClients"]),
    (.resetClientTraffic, [.param, .static "resetClientTraffic", .param]),
    (.resetAllTraffics, [.static "resetAllTraffics"]),
    (.resetAllClientTraffics, [.static "resetAllClientTraffics", .param]),
    (.delDepletedClients, [.static "delDepletedClients", .param]),
    (.importInbound, [.static "import"]),
    (.onlines, [.static "onlines"]),
    (.lastOnline, [.static "lastOnline"]),
    (.updateClientTraffic, [.static "updateClientTraffic", .param]),
    (.delInboundClientByEmail, [.param, .static "delClientByEmail", .param]),
    (.generateOpenVpnCerts, [.param, .static "generate-openvpn-certs"]),
    (.generateOpenVpnCerts, [.static "generate-openvpn-certs"]),
    (.generateOcservCert, [.param, .static "generate-ocserv-cert"]),
    (.generateOcservCert, [.static "generate-ocserv-cert"]),
    (.generateSstpCert, [.param, .static "generate-sstp-cert"]),
    (.generateSstpCert, [.static "generate-sstp-cert"])]

def afterStatic (segment : List UInt8) : Route → Option Route
  | (handler, .static name :: rest) =>
      if utf8 name.toList = segment then some (handler, rest) else none
  | _ => none

def afterParam : Route → Option Route
  | (handler, .param :: rest) => some (handler, rest)
  | _ => none

/-- The route of a path, with its parameters.  A name is preferred to a
parameter, and no parameter is empty. -/
def findRoute : List Route → List (List UInt8) →
    Option (Handler × List (List UInt8))
  | routes, [] => (routes.find? (·.2 = [])).map (·.1, [])
  | routes, segment :: rest =>
      match findRoute (routes.filterMap (afterStatic segment)) rest with
      | some found => some found
      | none =>
          if segment = [] then none
          else
            (findRoute (routes.filterMap afterParam) rest).map fun found =>
              (found.1, segment :: found.2)

/-- The path under which the page itself was found. -/
structure BasePath where
  segments : List (List Char)
  plain : ∀ segment ∈ segments, PlainSegment segment
  nonempty : ∀ segment ∈ segments, segment ≠ []

/-- The group of the routes. -/
def BasePath.group (base : BasePath) : List (List Char) :=
  base.segments ++ ["panel".toList, "api".toList, "inbounds".toList]

def BasePath.inbounds (base : BasePath) : List Char :=
  address '/' base.segments ++ "/panel/api/inbounds/".toList

/-- What becomes of a request. -/
def post (base : BasePath) (url : List Char) :
    Option (Handler × List (List UInt8)) := do
  let path ← serverPath url
  if base.group.map utf8 <+: path then
    findRoute postRoutes (path.drop base.group.length)
  else none

section Requests

variable (base : BasePath) (inboundId : Nat)

def updateClientUrl (clientId : String) : List Char :=
  base.inbounds ++ "updateClient/".toList ++ clientId.toList

def delClientUrl (clientId : String) : List Char :=
  base.inbounds ++ (toString inboundId).toList ++ "/delClient/".toList ++
    clientId.toList

def resetClientTrafficUrl (email : String) : List Char :=
  base.inbounds ++ (toString inboundId).toList ++
    "/resetClientTraffic/".toList ++ email.toList

end Requests

/-- The key that the browser writes. -/
def getClientId (protocol : Protocol) (client : Client) : String :=
  match protocol with
  | .trojan | .vpn .l2tp | .vpn .pptp | .vpn .openvpn | .vpn .openconnect
  | .vpn .sstp => client.password
  | .shadowsocks => client.email
  | .hysteria => client.auth
  | _ => client.id

/-- The inbounds whose clients are in the table. -/
def showsClients (protocol : Protocol) (method : String) : Bool :=
  match protocol with
  | .vmess | .vless | .trojan | .hysteria | .vpn _ => true
  | .shadowsocks => method ≠ "2022-blake3-chacha20-poly1305"
  | _ => false

/-- Every request that the browser sends for a client is one for the key of the
client. -/
structure Addressed (base : BasePath) (inboundId : Nat) (protocol : Protocol)
    (client : Client) : Prop where
  key : getClientId protocol client = clientKey protocol client
  edited : post base (updateClientUrl base (getClientId protocol client)) =
    some (.updateInboundClient, [utf8 (clientKey protocol client).toList])
  deleted : post base
      (delClientUrl base inboundId (getClientId protocol client)) =
    some (.delInboundClient, [utf8 (toString inboundId).toList,
      utf8 (clientKey protocol client).toList])
  reset : client.email ≠ "" →
    post base (resetClientTrafficUrl base inboundId client.email) =
      some (.resetClientTraffic, [utf8 (toString inboundId).toList,
        utf8 client.email.toList])

/-- A key that a URL can hold. -/
structure PlainKey (key : List Char) : Prop where
  nonempty : key ≠ []
  segment : PlainSegment key
  ends : EndsPlain key

section Routes

variable {routes : List Route} {handler : Handler}
  {path params : List (List UInt8)} {segment : List UInt8}

/-- The path of a pattern and its parameters. -/
def fill : List Piece → List (List UInt8) → List (List UInt8)
  | [], _ => []
  | .static name :: rest, params => utf8 name.toList :: fill rest params
  | .param :: rest, param :: params => param :: fill rest params
  | .param :: _, [] => []

theorem afterStatic_eq_some {route : Route} {pattern : List Piece}
    (after : afterStatic segment route = some (handler, pattern)) :
    ∃ name, route = (handler, .static name :: pattern) ∧
      utf8 name.toList = segment := by
  unfold afterStatic at after
  split at after
  next other name rest =>
    split at after
    next same =>
      cases after
      exact ⟨name, rfl, same⟩
    next => cases after
  next => cases after

theorem afterParam_eq_some {route : Route} {pattern : List Piece}
    (after : afterParam route = some (handler, pattern)) :
    route = (handler, .param :: pattern) := by
  unfold afterParam at after
  split at after
  next => cases after; rfl
  next => cases after

/-- A route that is found has the form of the path. -/
theorem findRoute_sound (found : findRoute routes path = some (handler, params)) :
    ∃ pattern, (handler, pattern) ∈ routes ∧ fill pattern params = path ∧
      [] ∉ params := by
  induction path generalizing routes handler params with
  | nil =>
      obtain ⟨route, first, same⟩ := Option.map_eq_some_iff.mp found
      cases same
      have empty := List.find?_some first
      have member := List.mem_of_find?_eq_some first
      obtain ⟨handler, pattern⟩ := route
      obtain rfl : pattern = [] := of_decide_eq_true empty
      exact ⟨[], member, rfl, List.not_mem_nil⟩
  | cons segment rest induction =>
      rw [findRoute] at found
      split at found
      next named =>
        cases found
        obtain ⟨pattern, member, filled, nonempty⟩ := induction named
        obtain ⟨route, listed, after⟩ := List.mem_filterMap.mp member
        obtain ⟨name, rfl, same⟩ := afterStatic_eq_some after
        exact ⟨_, listed, by rw [fill, filled, same], nonempty⟩
      next =>
        split at found
        · cases found
        next present =>
          obtain ⟨⟨other, others⟩, named, same⟩ :=
            Option.map_eq_some_iff.mp found
          cases same
          obtain ⟨pattern, member, filled, nonempty⟩ := induction named
          obtain ⟨route, listed, after⟩ := List.mem_filterMap.mp member
          obtain rfl := afterParam_eq_some after
          refine ⟨_, listed, by rw [fill, filled], ?_⟩
          exact List.not_mem_cons_of_ne_of_not_mem (Ne.symm present) nonempty

theorem BasePath.length_group (base : BasePath) :
    base.group.length = (base.group.map utf8).length :=
  (List.length_map _).symm

/-- The path of a request that is handled. -/
theorem serverPath_of_post {base : BasePath} {url : List Char}
    (handled : post base url = some (handler, params)) :
    ∃ pattern, (handler, pattern) ∈ postRoutes ∧ [] ∉ params ∧
      serverPath url = some (base.group.map utf8 ++ fill pattern params) := by
  obtain ⟨path, arrived, found⟩ := Option.bind_eq_some_iff.mp handled
  split at found
  next group =>
    obtain ⟨rest, rfl⟩ := group
    rw [base.length_group, List.drop_left] at found
    obtain ⟨pattern, member, filled, nonempty⟩ := findRoute_sound found
    exact ⟨pattern, member, nonempty, by rw [arrived, filled]⟩
  next => cases found

theorem post_of_serverPath {base : BasePath} {url : List Char}
    (arrived : serverPath url = some (base.group.map utf8 ++ path)) :
    post base url = findRoute postRoutes path := by
  change (serverPath url).bind _ = _
  rw [arrived]
  change (if _ then _ else _) = _
  rw [if_pos (List.prefix_append _ _), base.length_group, List.drop_left]

theorem findRoute_nil_routes : findRoute [] path = none := by
  induction path with
  | nil => rfl
  | cons segment rest induction =>
      simp [findRoute, induction]

theorem findRoute_param (nonempty : segment ≠ []) :
    findRoute [(handler, [.param])] [segment] = some (handler, [segment]) := by
  simp [findRoute, afterStatic, afterParam, nonempty]

theorem findRoute_named {name : String} (nonempty : segment ≠ [])
    (named : routes.filterMap (afterStatic (utf8 name.toList)) =
      [(handler, [.param])]) :
    findRoute routes [utf8 name.toList, segment] =
      some (handler, [segment]) := by
  rw [findRoute, named, findRoute_param nonempty]

theorem digit_of_mem {id : Nat} {letter : Char}
    (member : letter ∈ (toString id).toList) : letter.isDigit = true := by
  have written : (toString id).toList = Nat.toDigits 10 id := Nat.toList_repr
  rw [written] at member
  exact Nat.isDigit_of_mem_toDigits (by decide) (by decide) member

theorem idText_ne_nil {id : Nat} : (toString id).toList ≠ [] := by
  have written : (toString id).toList = Nat.toDigits 10 id := Nat.toList_repr
  rw [written]
  exact Nat.toDigits_ne_nil

/-- A first piece that is a name with a letter that is not a digit. -/
def beginsNamed : List Piece → Bool
  | .static name :: _ => name.toList.any (!·.isDigit)
  | _ => true

theorem postRoutes_named :
    postRoutes.all (fun route => beginsNamed route.2) = true := by
  decide

/-- No name of a route is a number. -/
theorem filterMap_afterStatic_id {id : Nat} :
    postRoutes.filterMap (afterStatic (utf8 (toString id).toList)) = [] := by
  apply List.filterMap_eq_nil_iff.mpr
  intro route listed
  cases after : afterStatic (utf8 (toString id).toList) route with
  | none => rfl
  | some rest =>
      obtain ⟨name, rfl, same⟩ := afterStatic_eq_some after
      obtain ⟨letter, member, named⟩ :=
        List.any_eq_true.mp (List.all_eq_true.mp postRoutes_named _ listed)
      rw [utf8_injective same] at member
      rw [digit_of_mem member] at named
      cases named

theorem findRoute_id {id : Nat} {name : String} (nonempty : segment ≠ [])
    (named : (postRoutes.filterMap afterParam).filterMap
      (afterStatic (utf8 name.toList)) = [(handler, [.param])]) :
    findRoute postRoutes [utf8 (toString id).toList, utf8 name.toList, segment] =
      some (handler, [utf8 (toString id).toList, segment]) := by
  have present : utf8 (toString id).toList ≠ [] := fun empty =>
    idText_ne_nil (utf8_injective (empty.trans utf8_nil.symm))
  rw [findRoute, filterMap_afterStatic_id, findRoute_nil_routes]
  dsimp only
  rw [if_neg present, findRoute_named nonempty named]
  rfl

end Routes

section Keys

variable {base : BasePath} {steps : List (List Char)} {key : List Char}
  {handler : Handler} {params : List (List UInt8)} {inboundId : Nat}
  {clientId email : String}

theorem endsPlain_address (steps : List (List Char)) (nonempty : key ≠ []) :
    EndsPlain (address '/' (steps ++ [key])) ↔ EndsPlain key := by
  have last : (address '/' (steps ++ [key])).getLast? = key.getLast? := by
    rw [address_append, address_cons, address_nil, List.append_nil,
      List.getLast?_append, List.getLast?_cons]
    cases read : key.getLast? with
    | none => exact absurd (List.getLast?_eq_none_iff.mp read) nonempty
    | some letter => rfl
  rw [EndsPlain, last, EndsPlain]

theorem BasePath.group_plain (base : BasePath) :
    ∀ segment ∈ base.group, PlainSegment segment ∧ segment ≠ [] := by
  intro segment member
  rcases List.mem_append.mp member with member | member
  · exact ⟨base.plain segment member, base.nonempty segment member⟩
  · simp only [List.mem_cons, List.not_mem_nil, or_false] at member
    rcases member with rfl | rfl | rfl <;>
      exact ⟨plainSegment_of_alphanum (by decide), by decide⟩

theorem BasePath.group_eq_cons (base : BasePath) :
    ∃ first more, base.group = first :: more ∧ first ≠ [] := by
  cases split : base.group with
  | nil => exact absurd split (List.append_ne_nil_of_right_ne_nil _ (by decide))
  | cons first more =>
      refine ⟨first, more, rfl, (base.group_plain first ?_).2⟩
      rw [split]
      exact List.mem_cons_self

/-- A request with a key at its end is handled as it should be exactly if the
key is plain. -/
theorem post_address_iff (params : List (List UInt8))
    (plain : ∀ step ∈ steps, PlainSegment step)
    (found : ∀ segment ≠ [],
      findRoute postRoutes (steps.map utf8 ++ [segment]) =
        some (handler, params ++ [segment]))
    (form : ∀ pattern, (handler, pattern) ∈ postRoutes → ∀ segment,
      fill pattern (params ++ [segment]) = steps.map utf8 ++ [segment]) :
    post base (address '/' (base.group ++ steps ++ [key])) =
        some (handler, params ++ [utf8 key]) ↔ PlainKey key := by
  have whole : (base.group ++ steps ++ [key]).map utf8 =
      base.group.map utf8 ++ (steps.map utf8 ++ [utf8 key]) := by
    rw [List.append_assoc, List.map_append, List.map_append]
    rfl
  constructor
  · intro handled
    obtain ⟨pattern, member, nonempty, arrived⟩ := serverPath_of_post handled
    rw [form pattern member, ← whole] at arrived
    have present : key ≠ [] := by
      rintro rfl
      exact nonempty (List.mem_append_right _ List.mem_cons_self)
    obtain ⟨segments, ends⟩ := plain_of_serverPath arrived
    exact ⟨present, segments key (List.mem_append_right _ List.mem_cons_self),
      (endsPlain_address _ present).mp ends⟩
  · intro plainKey
    obtain ⟨first, more, split, nonempty⟩ := base.group_eq_cons
    have arrived : serverPath (address '/' (base.group ++ steps ++ [key])) =
        some ((base.group ++ steps ++ [key]).map utf8) := by
      have ends := (endsPlain_address (base.group ++ steps)
        plainKey.nonempty).mpr plainKey.ends
      have segments : ∀ segment ∈ base.group ++ steps ++ [key],
          PlainSegment segment := by
        intro segment member
        rcases List.mem_append.mp member with member | member
        · rcases List.mem_append.mp member with member | member
          · exact (base.group_plain segment member).1
          · exact plain segment member
        · obtain rfl := List.mem_singleton.mp member
          exact plainKey.segment
      rw [split] at ends segments ⊢
      exact serverPath_address nonempty segments ends
    rw [whole] at arrived
    rw [post_of_serverPath arrived]
    exact found _ fun empty =>
      plainKey.nonempty (utf8_injective (empty.trans utf8_nil.symm))

theorem BasePath.inbounds_eq (base : BasePath) :
    base.inbounds = address '/' base.group ++ ['/'] := by
  rw [BasePath.inbounds, BasePath.group, address_append, List.append_assoc]
  congr 1

theorem post_updateClient_iff :
    post base (updateClientUrl base clientId) =
        some (.updateInboundClient, [utf8 clientId.toList]) ↔
      PlainKey clientId.toList := by
  have url : updateClientUrl base clientId =
      address '/' (base.group ++ ["updateClient".toList] ++
        [clientId.toList]) := by
    simp [updateClientUrl, base.inbounds_eq]
  rw [url]
  refine post_address_iff [] ?_ ?_ ?_
  · intro step member
    obtain rfl := List.mem_singleton.mp member
    exact plainSegment_of_alphanum (by decide)
  · intro segment nonempty
    exact findRoute_named nonempty (by decide)
  · intro pattern member segment
    have only : ∀ route ∈ postRoutes, route.1 = .updateInboundClient →
        route.2 = [.static "updateClient", .param] := by decide
    rw [show pattern = _ from only _ member rfl]
    rfl

theorem plainSegment_idText {id : Nat} :
    PlainSegment (toString id).toList := by
  refine ⟨?_, ?_, ?_⟩
  · intro letter member bad
    have digit := digit_of_mem member
    simp only [List.mem_cons, List.not_mem_nil, or_false] at bad
    rcases bad with rfl | rfl | rfl | rfl | rfl | rfl | rfl | rfl <;>
      cases digit
  · intro dot
    cases digit_of_mem (dot ▸ List.mem_cons_self)
  · intro dots
    cases digit_of_mem (dots ▸ List.mem_cons_self)

/-- The requests for a client of an inbound. -/
theorem post_id_iff (handler : Handler) {name : String} (plain : PlainSegment name.toList)
    (named : (postRoutes.filterMap afterParam).filterMap
      (afterStatic (utf8 name.toList)) = [(handler, [.param])])
    (only : ∀ route ∈ postRoutes, route.1 = handler →
      route.2 = [.param, .static name, .param]) :
    post base (base.inbounds ++ (toString inboundId).toList ++
        ('/' :: (name.toList ++ ['/'])) ++ clientId.toList) =
        some (handler, [utf8 (toString inboundId).toList,
          utf8 clientId.toList]) ↔
      PlainKey clientId.toList := by
  have url : base.inbounds ++ (toString inboundId).toList ++
        ('/' :: (name.toList ++ ['/'])) ++ clientId.toList =
      address '/' (base.group ++ [(toString inboundId).toList, name.toList] ++
        [clientId.toList]) := by
    simp [base.inbounds_eq]
  rw [url]
  refine post_address_iff [utf8 (toString inboundId).toList] ?_ ?_ ?_
  · intro step member
    rw [List.mem_cons, List.mem_singleton] at member
    rcases member with rfl | rfl
    · exact plainSegment_idText
    · exact plain
  · intro segment nonempty
    exact findRoute_id nonempty named
  · intro pattern member segment
    rw [show pattern = _ from only _ member rfl]
    rfl

theorem post_delClient_iff :
    post base (delClientUrl base inboundId clientId) =
        some (.delInboundClient, [utf8 (toString inboundId).toList,
          utf8 clientId.toList]) ↔
      PlainKey clientId.toList := by
  have plain : PlainSegment "delClient".toList :=
    plainSegment_of_alphanum (by decide)
  rw [← post_id_iff .delInboundClient plain (by decide)
    (by decide)]
  rfl

theorem post_resetClientTraffic_iff :
    post base (resetClientTrafficUrl base inboundId email) =
        some (.resetClientTraffic, [utf8 (toString inboundId).toList,
          utf8 email.toList]) ↔
      PlainKey email.toList := by
  have plain : PlainSegment "resetClientTraffic".toList :=
    plainSegment_of_alphanum (by decide)
  rw [← post_id_iff .resetClientTraffic plain (by decide)
    (by decide)]
  rfl

end Keys

/-- The clients of the table can be addressed exactly if the browser takes the
key that the panel takes, and the key and the e-mail are plain. -/
theorem addressed_iff (base : BasePath) (inboundId : Nat) (protocol : Protocol)
    (method : String) (client : Client) :
    (showsClients protocol method = true →
        Addressed base inboundId protocol client) ↔
      (showsClients protocol method = true →
        getClientId protocol client = clientKey protocol client ∧
          PlainKey (clientKey protocol client).toList ∧
          (client.email ≠ "" → PlainKey client.email.toList)) := by
  apply imp_congr_right
  intro shown
  constructor
  · intro addressed
    refine ⟨addressed.key, ?_, fun present =>
      post_resetClientTraffic_iff.mp (addressed.reset present)⟩
    have edited := addressed.edited
    rw [addressed.key] at edited
    exact post_updateClient_iff.mp edited
  · rintro ⟨key, plain, email⟩
    refine ⟨key, ?_, ?_, fun present =>
      post_resetClientTraffic_iff.mpr (email present)⟩
    · rw [key]
      exact post_updateClient_iff.mpr plain
    · rw [key]
      exact post_delClient_iff.mpr plain

/-! A client whose id has a slash. -/

def slashClient : Client where
  id := "a/b"
  security := ""
  password := ""
  flow := ""
  auth := ""
  email := "ann"
  limitIp := 0
  totalGB := 0
  expiryTime := 0
  enable := true
  tgId := 0
  subId := ""
  comment := ""
  reset := 0
  createdAt := 0
  updatedAt := 0

def slashInbound (clients : List Client) : Inbound where
  id := 1
  listen := ""
  port := 443
  protocol := .vless
  settings := .parsed (.obj [("clients", .arr (clients.map Client.encode))])
  enable := true
  tag := "inbound-443"

def rootPath : BasePath where
  segments := []
  plain := nofun
  nonempty := nofun

theorem slash_id_not_addressed :
    (addInboundClient (Table.empty.save (slashInbound []))
        (slashInbound [slashClient]) ⟨1000, 2, true, true⟩).isOk = true ∧
      ¬ (showsClients .vless "" = true →
        Addressed rootPath 1 .vless slashClient) := by
  refine ⟨by decide +kernel, ?_⟩
  intro addressed
  have edited : post rootPath (updateClientUrl rootPath "a/b") = none := by
    decide +kernel
  have sent := (addressed rfl).edited
  change post rootPath (updateClientUrl rootPath "a/b") = _ at sent
  rw [edited] at sent
  cases sent

end VpnUi.Panel
