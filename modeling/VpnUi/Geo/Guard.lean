import Mathlib.Data.List.Basic
import VpnUi.Address.Text

namespace VpnUi.Geo

open Address

/-! The guard in front of the connections for geo files: which addresses are
blocked, when a host is looked up, and to what the connections go. -/

inductive IP
  | v4 (ip : Ipv4)
  | v6 (bytes : List Nat)
  deriving DecidableEq

namespace IP

def to4 : IP → Option Ipv4
  | v4 ip => some ip
  | v6 bytes => to4? bytes

def bytes : IP → List Nat
  | v4 ip => [ip.subnet.first, ip.subnet.second, ip.subnet.third, ip.host]
  | v6 bytes => bytes

def isLoopback (ip : IP) : Bool :=
  match ip.to4 with
  | some ip => ip.subnet.first = 127
  | none => ip.bytes = List.replicate 15 0 ++ [1]

def isPrivate (ip : IP) : Bool :=
  match ip.to4 with
  | some ⟨⟨first, second, _⟩, _⟩ =>
      first = 10 || (first = 172 && second &&& 0xf0 = 16) ||
        (first = 192 && second = 168)
  | none => ip.bytes.length = 16 && ip.bytes.headD 0 &&& 0xfe = 0xfc

def isLinkLocalUnicast (ip : IP) : Bool :=
  match ip.to4 with
  | some ⟨⟨first, second, _⟩, _⟩ => first = 169 && second = 254
  | none =>
      ip.bytes.length = 16 && ip.bytes.headD 0 = 0xfe &&
        (ip.bytes.tail.headD 0) &&& 0xc0 = 0x80

def isLinkLocalMulticast (ip : IP) : Bool :=
  match ip.to4 with
  | some ⟨⟨first, second, third⟩, _⟩ => first = 224 && second = 0 && third = 0
  | none =>
      ip.bytes.length = 16 && ip.bytes.headD 0 = 0xff &&
        (ip.bytes.tail.headD 0) &&& 0x0f = 0x02

def isUnspecified (ip : IP) : Bool :=
  match ip.to4 with
  | some ip => ip = ⟨⟨0, 0, 0⟩, 0⟩
  | none => ip.bytes = List.replicate 16 0

end IP

def isBlockedIP (ip : IP) : Bool :=
  ip.isLoopback || ip.isPrivate || ip.isLinkLocalUnicast ||
    ip.isLinkLocalMulticast || ip.isUnspecified

/-- `netip.ParseAddr`, without the zone that an IPv6 address may name. -/
def parseAddr (text : List Char) : Option IP :=
  match text.find? fun letter => letter ∈ ['.', ':', '%'] with
  | some '.' => (parseIPv4? text).map .v4
  | some ':' =>
      match cutAt '%' text with
      | none => (parseIPv6? text).map .v6
      | some (_, []) => none
      | some (address, _) => (parseIPv6? address).map .v6
  | _ => none

example : (parseAddr "::ffff:169.254.169.254".toList).map isBlockedIP =
    some true := by decide

example : (parseAddr "fe80::1%eth0".toList).map isBlockedIP = some true := by
  decide

example : (parseAddr "1.1.1.1".toList).map isBlockedIP = some false := by
  decide

/-! Addresses of files. -/

/-- A URL without what no connection depends on. -/
structure Url where
  scheme : String
  hostname : String
  port : Option String
  deriving DecidableEq

def Url.hasHost (url : Url) : Bool := url.hostname ≠ "" || url.port.isSome

def Url.isHttp (url : Url) : Bool := url.scheme = "http" || url.scheme = "https"

/-- The outcome of `url.Parse`. -/
inductive RawUrl
  | empty
  | malformed
  | parsed (url : Url)
  deriving DecidableEq

inductive GeoError
  | urlRequired
  | invalidURL
  | urlScheme
  | urlHost
  | cannotResolve (host : String)
  | resolvesTo (host : String) (ip : IP)
  | dial
  | http
  | status (code : Nat)
  | pathTraversal
  deriving DecidableEq

/-- What a server sends once it is connected to; it may break off. -/
inductive Response
  | failure
  | redirect (location : RawUrl)
  | status (code : Nat)
  deriving DecidableEq

/-- The answer to the lookup of a name, which may be another one each time, the
response to each request, and the ASCII form of a host name. -/
structure Network where
  answers : Nat → String → Option (List IP)
  responses : Nat → Response
  toASCII : String → String

/-- A connection: the addresses that were checked, and those that the dialer
chooses from. -/
structure Hop where
  host : String
  first : List IP
  second : List IP
  deriving DecidableEq

/-- What has happened so far. -/
structure Trace where
  lookups : Nat
  requests : Nat
  hops : List Hop
  deriving DecidableEq

def Trace.start : Trace := ⟨0, 0, []⟩

section Code

variable (network : Network)

/-- An IP address is its own answer. -/
def lookupIPAddr (host : String) (trace : Trace) : Option (List IP) × Trace :=
  if host = "" then (none, trace)
  else
    match parseAddr host.toList with
    | some ip => (some [ip], trace)
    | none =>
        (network.answers trace.lookups host,
          { trace with lookups := trace.lookups + 1 })

/-- The addresses are returned to tell what was checked. -/
def checkSSRF (host : String) (trace : Trace) :
    Except GeoError (List IP) × Trace :=
  match lookupIPAddr network host trace with
  | (none, trace) => (.error (.cannotResolve host), trace)
  | (some ips, trace) =>
      match ips.find? isBlockedIP with
      | some ip => (.error (.resolvesTo host ip), trace)
      | none => (.ok ips, trace)

/-- The dialer connects to one of the addresses of a lookup of its own. -/
def dialContext (host : String) (trace : Trace) : Except GeoError Unit × Trace :=
  match checkSSRF network host trace with
  | (.error error, trace) => (.error error, trace)
  | (.ok first, trace) =>
      match lookupIPAddr network host trace with
      | (none, trace) | (some [], trace) => (.error .dial, trace)
      | (some (ip :: ips), trace) =>
          (.ok (), { trace with
            hops := trace.hops ++ [⟨host, first, ip :: ips⟩] })

/-- `Client.Do` with so many redirects left. -/
def clientDo : Nat → Url → Trace → Except GeoError Nat × Trace
  | redirects, url, trace =>
      if !url.hasHost || !url.isHttp then (.error .http, trace)
      else
        match dialContext network (network.toASCII url.hostname) trace with
        | (.error error, trace) => (.error error, trace)
        | (.ok _, trace) =>
            let next := { trace with requests := trace.requests + 1 }
            match network.responses trace.requests, redirects with
            | .failure, _ => (.error .http, next)
            | .status code, _ => (.ok code, next)
            | .redirect (.parsed url), redirects + 1 =>
                clientDo redirects url next
            | .redirect _, _ => (.error .http, next)

/-- The client gives up after ten requests. -/
def maxRedirects : Nat := 9

/-- The user of the URL is dropped. -/
def sanitizeURL (raw : RawUrl) (trace : Trace) : Except GeoError Url × Trace :=
  match raw with
  | .empty => (.error .urlRequired, trace)
  | .malformed => (.error .invalidURL, trace)
  | .parsed url =>
      if !url.isHttp then (.error .urlScheme, trace)
      else if !url.hasHost then (.error .urlHost, trace)
      else
        match checkSSRF network url.hostname trace with
        | (.error error, trace) => (.error error, trace)
        | (.ok _, trace) => (.ok url, trace)

/-- What the three functions begin with. -/
def sanitizeAndDo (raw : RawUrl) (trace : Trace) : Except GeoError Nat × Trace :=
  match sanitizeURL network raw trace with
  | (.error error, trace) => (.error error, trace)
  | (.ok url, trace) => clientDo network maxRedirects url trace

def probeCustomGeoURLWithGET (raw : RawUrl) (trace : Trace) :
    Except GeoError Unit × Trace :=
  match sanitizeAndDo network raw trace with
  | (.error error, trace) => (.error error, trace)
  | (.ok code, trace) =>
      (if code = 200 ∨ code = 206 then .ok () else .error (.status code), trace)

def probeCustomGeoURL (raw : RawUrl) (trace : Trace) :
    Except GeoError Unit × Trace :=
  match sanitizeAndDo network raw trace with
  | (.error error, trace) => (.error error, trace)
  | (.ok code, trace) =>
      if 200 ≤ code ∧ code < 300 then (.ok (), trace)
      else if code = 405 ∨ code = 501 then
        probeCustomGeoURLWithGET network raw trace
      else (.error (.status code), trace)

/-- The request of `downloadToPathOnce`, which needs a destination in the
folder. -/
def downloadRequest (inFolder : Bool) (raw : RawUrl) (trace : Trace) :
    Except GeoError Nat × Trace :=
  if inFolder then sanitizeAndDo network raw trace
  else (.error .pathTraversal, trace)

/-- The functions that connect. -/
inductive Request
  | probe
  | probeWithGET
  | download (inFolder : Bool)

def Request.trace (request : Request) (raw : RawUrl) : Trace :=
  match request with
  | .probe => (probeCustomGeoURL network raw .start).2
  | .probeWithGET => (probeCustomGeoURLWithGET network raw .start).2
  | .download inFolder => (downloadRequest network inFolder raw .start).2

end Code

/-! What is checked. -/

def Clean (ips : List IP) : Prop := ∀ ip ∈ ips, isBlockedIP ip = false

instance (ips : List IP) : Decidable (Clean ips) :=
  inferInstanceAs (Decidable (∀ ip ∈ ips, _))

section Checked

variable {network : Network} {host : String} {trace next : Trace}

/-- An outcome of a lookup of the host, at some time. -/
def Looked (network : Network) (host : String) (ips : List IP) : Prop :=
  match parseAddr host.toList with
  | some ip => ips = [ip]
  | none => ∃ time, network.answers time host = some ips

structure Hop.Checked (network : Network) (hop : Hop) : Prop where
  first : Looked network hop.host hop.first
  second : Looked network hop.host hop.second
  clean : Clean hop.first
  nonempty : hop.second ≠ []

def Checked (network : Network) (trace : Trace) : Prop :=
  ∀ hop ∈ trace.hops, hop.Checked network

theorem lookupIPAddr_hops :
    (lookupIPAddr network host trace).2.hops = trace.hops := by
  unfold lookupIPAddr
  split
  · rfl
  · split <;> rfl

theorem lookupIPAddr_looked {ips : List IP}
    (found : lookupIPAddr network host trace = (some ips, next)) :
    Looked network host ips := by
  unfold lookupIPAddr at found
  unfold Looked
  by_cases empty : host = ""
  · rw [if_pos empty] at found
    cases found
  · rw [if_neg empty] at found
    cases parsed : parseAddr host.toList with
    | some ip =>
        rw [parsed] at found
        cases found
        rfl
    | none =>
        rw [parsed] at found
        exact ⟨_, (Prod.mk.inj found).1⟩

theorem checkSSRF_hops : (checkSSRF network host trace).2.hops = trace.hops := by
  have kept := @lookupIPAddr_hops network host trace
  unfold checkSSRF
  split
  · next found => rwa [found] at kept
  · next found =>
      rw [found] at kept
      split <;> exact kept

theorem checkSSRF_ok {ips : List IP}
    (passed : checkSSRF network host trace = (.ok ips, next)) :
    Looked network host ips ∧ Clean ips := by
  unfold checkSSRF at passed
  split at passed
  · cases passed
  · next found =>
      split at passed
      · cases passed
      · next none =>
          cases passed
          refine ⟨lookupIPAddr_looked found, fun ip member => ?_⟩
          simpa using List.find?_eq_none.mp none ip member

theorem Checked.of_hops (checked : Checked network trace)
    (same : next.hops = trace.hops) : Checked network next := by
  unfold Checked
  rwa [same]

theorem Checked.dialContext (checked : Checked network trace) :
    Checked network (dialContext network host trace).2 := by
  have kept := @checkSSRF_hops network host trace
  unfold Geo.dialContext
  split
  · next refused =>
      rw [refused] at kept
      exact checked.of_hops kept
  · next first middle passed =>
      rw [passed] at kept
      have again := @lookupIPAddr_hops network host middle
      split
      · next found =>
          rw [found] at again
          exact checked.of_hops (again.trans kept)
      · next found =>
          rw [found] at again
          exact checked.of_hops (again.trans kept)
      · next found =>
          rw [found] at again
          obtain ⟨looked, clean⟩ := checkSSRF_ok passed
          intro hop member
          rcases List.mem_append.mp member with earlier | last
          · exact checked.of_hops (again.trans kept) hop earlier
          · obtain rfl := List.mem_singleton.mp last
            exact ⟨looked, lookupIPAddr_looked found, clean,
              List.cons_ne_nil _ _⟩

theorem Checked.dialed {outcome : Except GeoError Unit}
    (checked : Checked network trace)
    (dialed : Geo.dialContext network host trace = (outcome, next)) :
    Checked network next := by
  have after := @Checked.dialContext network host trace checked
  rwa [dialed] at after

/-- A request is no connection. -/
theorem Checked.clientDo {redirects : Nat} {url : Url}
    (checked : Checked network trace) :
    Checked network (clientDo network redirects url trace).2 := by
  fun_induction Geo.clientDo network redirects url trace with
  | case1 => exact checked
  | case2 _ _ _ _ _ _ refused => exact checked.dialed refused
  | case3 _ _ _ _ _ _ dialed => exact (checked.dialed dialed).of_hops rfl
  | case4 _ _ _ _ _ _ dialed => exact (checked.dialed dialed).of_hops rfl
  | case5 _ _ _ _ _ dialed _ _ _ _ induction =>
      exact induction ((checked.dialed dialed).of_hops rfl)
  | case6 _ _ _ _ _ _ dialed => exact (checked.dialed dialed).of_hops rfl

theorem sanitizeURL_hops {raw : RawUrl} :
    (sanitizeURL network raw trace).2.hops = trace.hops := by
  unfold sanitizeURL
  split
  · rfl
  · rfl
  · next url =>
      have kept := @checkSSRF_hops network url.hostname trace
      split
      · rfl
      · split
        · rfl
        · split
          · next refused => rwa [refused] at kept
          · next passed => rwa [passed] at kept

theorem Checked.sanitizeAndDo {raw : RawUrl} (checked : Checked network trace) :
    Checked network (sanitizeAndDo network raw trace).2 := by
  have kept := @sanitizeURL_hops network trace raw
  unfold Geo.sanitizeAndDo
  split
  · next refused =>
      rw [refused] at kept
      exact checked.of_hops kept
  · next sanitized =>
      rw [sanitized] at kept
      exact (checked.of_hops kept).clientDo

theorem Checked.probeCustomGeoURLWithGET {raw : RawUrl}
    (checked : Checked network trace) :
    Checked network (probeCustomGeoURLWithGET network raw trace).2 := by
  have after := @Checked.sanitizeAndDo network trace raw checked
  unfold Geo.probeCustomGeoURLWithGET
  split
  · next failed => rwa [failed] at after
  · next answered => rwa [answered] at after

theorem Checked.probeCustomGeoURL {raw : RawUrl}
    (checked : Checked network trace) :
    Checked network (probeCustomGeoURL network raw trace).2 := by
  have after := @Checked.sanitizeAndDo network trace raw checked
  unfold Geo.probeCustomGeoURL
  split
  · next failed => rwa [failed] at after
  · next answered =>
      rw [answered] at after
      split
      · exact after
      · split
        · exact after.probeCustomGeoURLWithGET
        · exact after

/-- Every connection is one whose host has been checked right before. -/
theorem checked_trace (request : Request) (raw : RawUrl) :
    Checked network (request.trace network raw) := by
  have start : Checked network .start := by
    intro hop member
    cases member
  cases request with
  | probe => exact start.probeCustomGeoURL
  | probeWithGET => exact start.probeCustomGeoURLWithGET
  | download inFolder =>
      cases inFolder with
      | true => exact start.sanitizeAndDo
      | false => exact start

end Checked

/-! Where the connections go. -/

/-- The addresses connected to, one for each hop; the dialer's choice among
those of its own lookup is free. -/
def connections (choose : Nat → Nat) (hops : List Hop) : List IP :=
  hops.zipIdx.filterMap fun (hop, index) =>
    hop.second[choose index % hop.second.length]?

/-- No connection goes to a blocked address. -/
def Guarded (network : Network) (request : Request) (raw : RawUrl) : Prop :=
  ∀ choose, ∀ ip ∈ connections choose (request.trace network raw).hops,
    isBlockedIP ip = false

/-- The second lookup of a name brings no blocked address that the first did
not show. -/
def Hop.Steady (hop : Hop) : Prop :=
  parseAddr hop.host.toList = none → Clean hop.first → Clean hop.second

/-- Any address of a second lookup can be the one that is connected to. -/
theorem forall_connections {hops : List Hop} {holds : IP → Prop} :
    (∀ choose, ∀ ip ∈ connections choose hops, holds ip) ↔
      ∀ hop ∈ hops, ∀ ip ∈ hop.second, holds ip := by
  constructor
  · intro all hop member ip listed
    obtain ⟨place, found⟩ := List.mem_iff_getElem?.mp listed
    obtain ⟨index, at_⟩ := List.mem_iff_getElem?.mp member
    have bound : place < hop.second.length :=
      (List.getElem?_eq_some_iff.mp found).1
    apply all fun _ => place
    refine List.mem_filterMap.mpr ⟨(hop, index), ?_, ?_⟩
    · exact List.mk_mem_zipIdx_iff_getElem?.mpr at_
    · simpa only [Nat.mod_eq_of_lt bound] using found
  · intro all choose ip connected
    obtain ⟨⟨hop, index⟩, member, chosen⟩ := List.mem_filterMap.mp connected
    exact all hop (List.mem_of_getElem? (List.mk_mem_zipIdx_iff_getElem?.mp member))
      ip (List.mem_of_getElem? chosen)

theorem Hop.Checked.steady_iff {network : Network} {hop : Hop}
    (checked : hop.Checked network) : hop.Steady ↔ Clean hop.second := by
  constructor
  · intro steady
    cases parsed : parseAddr hop.host.toList with
    | none => exact steady parsed checked.clean
    | some ip =>
        have first := checked.first
        have second := checked.second
        simp only [Looked, parsed] at first second
        rw [second, ← first]
        exact checked.clean
  · intro clean _ _
    exact clean

/-- A resolver that gives a name the same answer each time is harmless. -/
theorem steady_of_consistent {network : Network}
    (consistent : ∀ earlier later host,
      network.answers earlier host = network.answers later host)
    (request : Request) (raw : RawUrl) :
    ∀ hop ∈ (request.trace network raw).hops, hop.Steady := by
  intro hop member parsed clean
  have checked := checked_trace request raw hop member
  have first := checked.first
  have second := checked.second
  simp only [Looked, parsed] at first second
  obtain ⟨earlier, first⟩ := first
  obtain ⟨later, second⟩ := second
  rw [consistent earlier later, second] at first
  exact Option.some.inj first ▸ clean

/-- The connections of a request are guarded exactly if no name that is
connected to is given a blocked address after it has been checked. -/
theorem guarded_iff_steady (network : Network) (request : Request)
    (raw : RawUrl) :
    Guarded network request raw ↔
      ∀ hop ∈ (request.trace network raw).hops, hop.Steady := by
  unfold Guarded
  rw [forall_connections]
  exact forall₂_congr fun hop member =>
    (checked_trace request raw hop member).steady_iff.symm

/-- The third lookup of the name, which is the dialer's, gives the panel's own
machine. -/
def rebinding : Network where
  answers time _ :=
    some [.v4 (if time < 2 then ⟨⟨1, 1, 1⟩, 1⟩ else ⟨⟨127, 0, 0⟩, 1⟩)]
  responses _ := .status 200
  toASCII name := name

theorem rebinding_connects_to_loopback :
    ¬ ∀ network request raw, Guarded network request raw := by
  intro all
  have guarded := all rebinding .probe
    (.parsed ⟨"http", "geo.example", none⟩) (fun _ => 0)
    (.v4 ⟨⟨127, 0, 0⟩, 1⟩) (by decide)
  cases guarded

end VpnUi.Geo
