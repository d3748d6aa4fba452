import VpnUi.Address.Normalize
import VpnUi.Panel.Inbound

namespace VpnUi.Panel

open Foundation Address

/-! The ranges of an inbound inside its settings: reading them, the occupancy
of the other inbounds, and the normaliser that writes them back. -/

def trimText (text : String) : String :=
  String.ofList (trimSpace text.toList)

/-- The explicit ranges of a settings map: ipRanges, else the legacy
ipRange. -/
def decodeRanges (raw : JsonObject) : List String :=
  let ranges := (Json.list Json.text (raw.get "ipRanges")).value
  let cleaned := (ranges.map trimText).filter (· ≠ "")
  if cleaned ≠ [] then cleaned
  else
    match (raw.get "ipRange").text.strict with
    | none => []
    | some legacy => if trimText legacy ≠ "" then [trimText legacy] else []

def decodeClientCount (raw : JsonObject) : Nat :=
  match raw.get "clients" with
  | .arr clients => clients.length
  | _ => 0

/-- A null is present here, and counts as 0. -/
def decodeUserLimit (raw : JsonObject) : Nat :=
  match raw.get? "userLimit" with
  | none => 1
  | some value =>
      match value.number.strict with
      | none => 1
      | some limit => normUserLimit limit

def inboundRanges (inbound : Inbound) (backend : VpnProtocol) : List String :=
  match decodeRanges inbound.settings.fields with
  | [] => [idRange backend.protocolBase inbound.id]
  | ranges => ranges

/-- The /24s an inbound occupies; an OpenVPN one also their TCP mirrors. -/
def ownedSubnets (inbound : Inbound) : List Subnet :=
  match inbound.protocol with
  | .vpn backend =>
      (subnetsOf (inboundRanges inbound backend)).flatMap fun subnet =>
        if backend = .openvpn then [subnet, mirrorOvpnSubnet subnet]
        else [subnet]
  | _ => []

def usedVpnSubnets (inbounds : Inbounds) (excludeId : Int) : List Subnet :=
  (inbounds.rows.filter (·.id ≠ excludeId)).flatMap ownedSubnets

inductive NormalizeError
  | parse
  | range (error : RangeError)
  deriving DecidableEq

/-- The detail of the JSON library's message is left out. -/
def NormalizeError.text : NormalizeError → String
  | parse => "failed to parse settings: "
  | range error => error.text

/-- Store the ranges, and the gateway of a PPP inbound. -/
def writeRanges (backend : VpnProtocol) (raw : JsonObject)
    (normalized : List String) : JsonObject :=
  let stored := (raw.set "ipRanges" (.arr (normalized.map .str))).remove
    "ipRange"
  if backend = .openvpn ∨ backend = .openconnect then stored
  else
    match normalized.head?.bind parseRange with
    | none => stored
    | some range =>
        stored.set "localIp" (.str (range.subnet.withHost 1).text)

def normalizedRanges (inbounds : Inbounds) (backend : VpnProtocol) (id : Int)
    (raw : JsonObject) (excludeId : Int) : Except RangeError (List String) :=
  let ranges := decodeRanges raw
  let clientCount := decodeClientCount raw
  let userLimit := decodeUserLimit raw
  let used := usedVpnSubnets inbounds excludeId
  match backend with
  | .openvpn => normalizeOvpnRanges id clientCount userLimit used
  | .openconnect =>
      normalizeBlockRanges id clientCount userLimit
        VpnProtocol.openconnect.protocolBase none used
  | backend => normalizePppRanges backend ranges clientCount userLimit used

/-- The settings as a map; the empty text counts as the empty map. -/
def rawSettings? : JsonText → Option JsonObject
  | .empty => some []
  | settings => settings.object?.map fun raw => raw.getD []

def normalizeRanges (inbounds : Inbounds) (inbound : Inbound)
    (excludeId : Int) : Except NormalizeError Inbound :=
  match inbound.protocol with
  | .vpn backend =>
      match rawSettings? inbound.settings with
      | none => .error .parse
      | some raw =>
          match normalizedRanges inbounds backend inbound.id raw excludeId with
          | .error error => .error (.range error)
          | .ok normalized =>
              .ok { inbound with
                settings := .parsed (.obj (writeRanges backend raw normalized)) }
  | _ => .ok inbound

/-- Normalise one inbound of the table; an error leaves it as it is. -/
def autoExpandInbound (inbounds : Inbounds) (inbound : Inbound) : Inbounds :=
  match normalizeRanges inbounds inbound inbound.id with
  | .error _ => inbounds
  | .ok expanded => inbounds.save expanded

def autoExpandVpnRanges (inbounds : Inbounds) (backend : VpnProtocol) :
    Inbounds :=
  (inbounds.ofProtocol (.vpn backend)).foldl autoExpandInbound inbounds

end VpnUi.Panel
