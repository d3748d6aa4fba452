import VpnUi.OpenVpn.BlockFiles
import VpnUi.Panel.Listeners

namespace VpnUi.Form

open Foundation Panel Address

/-! What the VPN services make of the settings of an inbound. -/

/-- The sockets of a server. -/
inductive Socket
  | udp (port : Int)
  | tcp (port : Int)
  deriving DecidableEq

/-- The configuration that a service derives from the settings. -/
@[ext]
structure ServiceView where
  sockets : List Socket
  ciphers : List String
  tlsUseFile : Bool
  /-- The paths and the PEM texts, in the order of `tlsKeys`. -/
  tlsTexts : List String
  /-- The pre-shared key, if IPsec is on. -/
  ipsec : Option String
  allowRaw : Bool
  clientToClient : Bool
  crossInbound : Bool
  dns1 : String
  dns2 : String
  mtu : Int
  userLimit : Nat
  strategy : OpenVpn.Strategy
  ranges : List String
  clients : List VpnClient
  deriving DecidableEq

def textOr (fallback : String) (value : Json) : String :=
  let text := value.text.value
  if text = "" then fallback else text

def numberOr (fallback : Int) (value : Json) : Int :=
  let number := value.number.value
  if number = 0 then fallback else number

def ovpnDefaultCiphers : List String :=
  ["AES-256-GCM", "AES-128-GCM", "CHACHA20-POLY1305"]

/-- `strings.TrimSpace`. -/
def trimText (text : String) : String := String.ofList (trimSpace text.toList)

def dataCiphers (configured : List String) : List String :=
  let ciphers := (configured.map trimText).filter (· ≠ "")
  if ciphers = [] then ovpnDefaultCiphers else ciphers

/-- `strings.ToUpper`. -/
def upperText (text : String) : String :=
  String.ofList (text.toList.map Char.toUpper)

/-- `supported` is what the probe of the binary has found. -/
def effectiveCiphers (supported configured : List String) : List String :=
  if supported = [] then configured
  else
    let usable := configured.filter fun name => upperText name ∈ supported
    if usable = [] then ovpnDefaultCiphers else usable

def tlsKeys : VpnProtocol → List String
  | .openvpn => ["caCertFile", "serverCertFile", "serverKeyFile",
      "tlsCryptFile", "caCert", "caKey", "serverCert", "serverKey", "tlsCrypt"]
  | .openconnect | .sstp =>
      ["certificateFile", "keyFile", "certificate", "key", "caCert"]
  | .l2tp | .pptp => []

def defaultMtu : VpnProtocol → Int
  | .l2tp | .pptp | .sstp => 1400
  | .openvpn => 1500
  | .openconnect => 1420

/-- The ports of L2TP and PPTP are fixed. -/
def sockets (port : Int) (fields : JsonObject) : VpnProtocol → List Socket
  | .openvpn =>
      let ports := (OpenVpnPorts.decode fields).value
      (if (fields.get "udpEnable").optionalFlag.value.getD true then
        [.udp port] else []) ++
      if ports.tcpEnabled then [.tcp (ports.tcpListenPort port)] else []
  | .openconnect => [.tcp port, .udp port]
  | .sstp => [.tcp (if port = 0 then 443 else port)]
  | .l2tp => [.udp 1701]
  | .pptp => [.tcp 1723]

def ciphers (supported : List String) (fields : JsonObject) :
    VpnProtocol → List String
  | .openvpn => effectiveCiphers supported
      (dataCiphers (Json.list Json.text (fields.get "ciphers")).value)
  | _ => []

def ipsec (fields : JsonObject) : VpnProtocol → Option String
  | .l2tp =>
      if (fields.get "ipsecEnable").flag.value then
        some (fields.get "ipsecPsk").text.value
      else none
  | _ => none

def serviceView (backend : VpnProtocol) (supported : List String) (port : Int)
    (fields : JsonObject) : ServiceView :=
  let settings := (VpnSettings.decoder backend fields).value
  { sockets := sockets port fields backend
    ciphers := ciphers supported fields backend
    tlsUseFile :=
      (tlsKeys backend ≠ []) && (fields.get "tlsUseFile").flag.value
    tlsTexts := (tlsKeys backend).map fun key => (fields.get key).text.value
    ipsec := ipsec fields backend
    allowRaw := (backend = .l2tp) && (fields.get "allowRaw").flag.value
    clientToClient := settings.clientToClient
    crossInbound := settings.crossInbound
    dns1 := textOr "8.8.8.8" (fields.get "dns1")
    dns2 := textOr "8.8.4.4" (fields.get "dns2")
    mtu := numberOr (defaultMtu backend) (fields.get "mtu")
    userLimit := effectiveUserLimit settings.userLimit
    strategy := OpenVpn.normUserLimitStrategy settings.userLimitStrategy
    ranges := settings.effectiveRanges
    clients := settings.clients }

/-- The view of settings that the service can parse. -/
def serviceView? (backend : VpnProtocol) (supported : List String) (port : Int)
    (settings : Json) : Option ServiceView :=
  (Json.record (fun fields => (VpnSettings.decoder backend fields).map
    fun _ => serviceView backend supported port fields) settings).strict

end VpnUi.Form
