import Mathlib.Algebra.Ring.Nat

namespace VpnUi.Access

/-! The routes of the panel and the checks that stand before their handlers.
What answers before every route (the domain check, the redirection of old
paths, compression) runs no handler and is left out. -/

inductive Method
  | get
  | head
  | post
  deriving DecidableEq

/-- A check that ends a request without a login. -/
inductive Guard
  | checkLogin
  | checkAPIAuth
  /-- The first lines of `HandleWebSocket`. -/
  | handleWebSocket
  deriving DecidableEq

inductive Segment
  | text (name : String)
  | param
  | wildcard
  deriving DecidableEq

def splitPath (path : String) : List String :=
  ((path.toList.splitOn '/').drop 1).map String.ofList

def parseSegment (part : String) : Segment :=
  match part.toList with
  | ':' :: _ => .param
  | '*' :: _ => .wildcard
  | _ => .text part

def segments (path : String) : List Segment :=
  (splitPath path).map parseSegment

structure Route where
  method : Method
  pattern : List Segment
  guards : List Guard
  deriving DecidableEq

/-- A group's own path ends in no "/". -/
structure RouterGroup where
  pattern : List Segment
  guards : List Guard

namespace RouterGroup

def group (g : RouterGroup) (relativePath : String) : RouterGroup :=
  { g with pattern := g.pattern ++ segments relativePath }

def use (g : RouterGroup) (guard : Guard) : RouterGroup :=
  { g with guards := g.guards ++ [guard] }

def handle (g : RouterGroup) (method : Method) (relativePath : String) :
    Route :=
  ⟨method, g.pattern ++ segments relativePath, g.guards⟩

/-- The routes that are registered one after the other. -/
def handles (g : RouterGroup) (routes : List (Method × String)) : List Route :=
  routes.map fun route => g.handle route.1 route.2

end RouterGroup

def Segment.matchesPart (segment : Segment) (part : String) : Bool :=
  match segment with
  | .text name => name = part
  | .param => part ≠ ""
  | .wildcard => true

/-- A wildcard takes all that is left. -/
def matchesPath : List Segment → List String → Bool
  | [], [] => true
  | .wildcard :: _, _ :: _ => true
  | segment :: pattern, part :: path =>
      segment.matchesPart part && matchesPath pattern path
  | _, _ => false

namespace IndexController

def initRouter (g : RouterGroup) : List Route :=
  g.handles [(.get, "/"), (.get, "/logout"), (.post, "/login"),
    (.post, "/getTwoFactorEnable")]

end IndexController

namespace SettingController

def initRouter (g : RouterGroup) : List Route :=
  (g.group "/setting").handles [(.post, "/all"), (.post, "/defaultSettings"),
    (.post, "/update"), (.post, "/updateUser"), (.post, "/restartPanel"),
    (.get, "/getDefaultJsonConfig"), (.get, "/service"),
    (.get, "/service/log"), (.post, "/service")]

end SettingController

namespace XraySettingController

def initRouter (g : RouterGroup) : List Route :=
  (g.group "/xray").handles [(.get, "/getDefaultJsonConfig"),
    (.get, "/getOutboundsTraffic"), (.get, "/getXrayResult"), (.post, "/"),
    (.post, "/warp/:action"), (.post, "/warpsocks/:action"),
    (.post, "/nord/:action"), (.post, "/update"),
    (.post, "/resetOutboundsTraffic"), (.post, "/testOutbound")]

end XraySettingController

namespace CoreController

def initRouter (g : RouterGroup) : List Route :=
  (g.group "/core").handles [(.get, "/status"), (.post, "/provision"),
    (.get, "/provision-status"), (.post, "/reboot"),
    (.post, "/restart/:core"), (.post, "/restart-all"), (.post, "/stop/:core"),
    (.get, "/logs/:core")]

end CoreController

namespace XUIController

def initRouter (g : RouterGroup) : List Route :=
  let g := (g.group "/panel").use .checkLogin
  g.handles [(.get, "/"), (.get, "/inbounds"), (.get, "/settings"),
      (.get, "/xray"), (.get, "/core")] ++
    SettingController.initRouter g ++ XraySettingController.initRouter g ++
    CoreController.initRouter g

end XUIController

namespace InboundController

def initRouter (g : RouterGroup) : List Route :=
  g.handles [(.get, "/list"), (.get, "/get/:id"),
    (.get, "/getClientTraffics/:email"), (.get, "/getClientTrafficsById/:id"),
    (.post, "/add"), (.post, "/del/:id"), (.post, "/update/:id"),
    (.post, "/clientIps/:email"), (.post, "/clearClientIps/:email"),
    (.post, "/addClient"), (.post, "/:id/copyClients"),
    (.post, "/:id/delClient/:clientId"), (.post, "/updateClient/:clientId"),
    (.post, "/bulkUpdateClients"), (.post, "/:id/resetClientTraffic/:email"),
    (.post, "/resetAllTraffics"), (.post, "/resetAllClientTraffics/:id"),
    (.post, "/delDepletedClients/:id"), (.post, "/import"),
    (.post, "/onlines"), (.post, "/lastOnline"),
    (.post, "/updateClientTraffic/:email"),
    (.post, "/:id/delClientByEmail/:email"), (.get, "/:id/ovpn/:proto"),
    (.post, "/:id/generate-openvpn-certs"), (.post, "/generate-openvpn-certs"),
    (.post, "/:id/generate-ocserv-cert"), (.post, "/generate-ocserv-cert"),
    (.post, "/:id/generate-sstp-cert"), (.post, "/generate-sstp-cert")]

end InboundController

namespace ServerController

def initRouter (g : RouterGroup) : List Route :=
  g.handles [(.get, "/status"), (.get, "/cpuHistory/:bucket"),
    (.get, "/getXrayVersion"), (.get, "/getConfigJson"), (.get, "/getDb"),
    (.get, "/getNewUUID"), (.get, "/getNewX25519Cert"),
    (.get, "/getNewmldsa65"), (.get, "/getNewmlkem768"),
    (.get, "/getNewVlessEnc"), (.get, "/distroStatus"), (.get, "/checkUpdate"),
    (.get, "/updateProgress"), (.post, "/stopXrayService"),
    (.post, "/updatePanel"), (.post, "/restartXrayService"),
    (.post, "/installXray/:version"), (.post, "/updateGeofile"),
    (.post, "/updateGeofile/:fileName"), (.post, "/logs/:count"),
    (.post, "/xraylogs/:count"), (.post, "/importDB"),
    (.post, "/getNewEchCert")]

end ServerController

namespace CustomGeoController

def initRouter (g : RouterGroup) : List Route :=
  g.handles [(.get, "/list"), (.get, "/aliases"), (.post, "/add"),
    (.post, "/update/:id"), (.post, "/delete/:id"), (.post, "/download/:id"),
    (.post, "/update-all")]

end CustomGeoController

namespace APIController

def initRouter (g : RouterGroup) : List Route :=
  let api := (g.group "/panel/api").use .checkAPIAuth
  InboundController.initRouter (api.group "/inbounds") ++
    ServerController.initRouter (api.group "/server") ++
    CustomGeoController.initRouter (api.group "/custom-geo") ++
    api.handles [(.get, "/backuptotgbot")]

end APIController

/-- The files of the web interface, which are the same for everybody. -/
def assets (engine : RouterGroup) : List Route :=
  engine.handles [(.get, "/assets/*filepath"), (.head, "/assets/*filepath")]

/-- An empty answer for the tools of a browser. -/
def devtools : Route :=
  ⟨.get, segments "/.well-known/appspecific/com.chrome.devtools.json", []⟩

/-- `Server.initRouter` under the base path, given as its parts. -/
def routes (basePath : List String) : List Route :=
  let g : RouterGroup := ⟨basePath.map Segment.text, []⟩
  assets g ++ IndexController.initRouter g ++ XUIController.initRouter g ++
    APIController.initRouter g ++ [(g.use .handleWebSocket).handle .get "/ws"] ++
    [devtools]

/-- The routes that anybody may use. -/
def publicRoutes (basePath : List String) : List Route :=
  let g : RouterGroup := ⟨basePath.map Segment.text, []⟩
  assets g ++ IndexController.initRouter g ++ [devtools]

structure Request where
  method : Method
  path : String
  /-- The request says that a script sent it. -/
  isAjax : Bool

/-- The routes one of which the engine chooses. -/
def matching (basePath : List String) (request : Request) : List Route :=
  (routes basePath).filter fun route =>
    route.method = request.method &&
      matchesPath route.pattern (splitPath request.path)

/-- How a request ends that a check has stopped. -/
inductive Refusal
  /-- 401 with the text that asks for a new login. -/
  | loginAgain
  /-- 307 to the base path. -/
  | redirect
  | notFound
  | unauthorized
  deriving DecidableEq

def Guard.check (isLogin isAjax : Bool) : Guard → Option Refusal
  | .checkLogin =>
      if isLogin then none
      else if isAjax then some .loginAgain else some .redirect
  | .checkAPIAuth => if isLogin then none else some .notFound
  | .handleWebSocket => if isLogin then none else some .unauthorized

/-- The first check that stops a request; without one its handler runs. -/
def Route.refusal (route : Route) (isLogin isAjax : Bool) : Option Refusal :=
  route.guards.findSome? (Guard.check isLogin isAjax)

section Guards

variable {g : RouterGroup} {route : Route} {basePath : List String}

theorem guards_of_mem_handles {entries : List (Method × String)}
    (member : route ∈ g.handles entries) : route.guards = g.guards := by
  obtain ⟨entry, -, rfl⟩ := List.mem_map.mp member
  rfl

theorem guards_of_mem_xui (member : route ∈ XUIController.initRouter g) :
    route.guards = g.guards ++ [.checkLogin] := by
  rcases List.mem_append.mp member with earlier | core
  · rcases List.mem_append.mp earlier with earliest | xraySetting
    · rcases List.mem_append.mp earliest with pages | setting
      · exact guards_of_mem_handles pages
      · exact guards_of_mem_handles setting
    · exact guards_of_mem_handles xraySetting
  · exact guards_of_mem_handles core

theorem guards_of_mem_api (member : route ∈ APIController.initRouter g) :
    route.guards = g.guards ++ [.checkAPIAuth] := by
  rcases List.mem_append.mp member with earlier | backup
  · rcases List.mem_append.mp earlier with earliest | customGeo
    · rcases List.mem_append.mp earliest with inbounds | server
      · exact guards_of_mem_handles inbounds
      · exact guards_of_mem_handles server
    · exact guards_of_mem_handles customGeo
  · exact guards_of_mem_handles backup

/-- Whatever is not public has one check, and that check is for a login. -/
theorem guarded_of_mem_routes (member : route ∈ routes basePath) :
    route ∈ publicRoutes basePath ∨ ∃ guard, route.guards = [guard] := by
  rcases List.mem_append.mp member with earlier | tools
  · rcases List.mem_append.mp earlier with earlier | socket
    · rcases List.mem_append.mp earlier with earlier | api
      · rcases List.mem_append.mp earlier with free | xui
        · exact Or.inl (List.mem_append_left _ free)
        · exact Or.inr ⟨_, guards_of_mem_xui xui⟩
      · exact Or.inr ⟨_, guards_of_mem_api api⟩
    · obtain rfl := List.mem_singleton.mp socket
      exact Or.inr ⟨.handleWebSocket, rfl⟩
  · exact Or.inl (List.mem_append_right _ tools)

theorem check_of_login (guard : Guard) (isAjax : Bool) :
    guard.check true isAjax = none := by
  cases guard <;> rfl

theorem check_of_no_login (guard : Guard) (isAjax : Bool) :
    guard.check false isAjax ≠ none := by
  cases guard <;> cases isAjax <;> exact Option.some_ne_none _

theorem refusal_of_login (isAjax : Bool) : route.refusal true isAjax = none := by
  apply List.findSome?_eq_none_iff.mpr
  intro guard _
  exact check_of_login guard isAjax

theorem public_of_no_refusal {isLogin isAjax : Bool}
    (member : route ∈ routes basePath)
    (handled : route.refusal isLogin isAjax = none) :
    route ∈ publicRoutes basePath ∨ isLogin = true := by
  rcases guarded_of_mem_routes member with free | ⟨guard, only⟩
  · exact Or.inl free
  · right
    cases isLogin with
    | true => rfl
    | false =>
        rw [Route.refusal, only] at handled
        have passed := List.findSome?_eq_none_iff.mp handled guard (by simp)
        exact absurd passed (check_of_no_login guard isAjax)

end Guards

end VpnUi.Access
