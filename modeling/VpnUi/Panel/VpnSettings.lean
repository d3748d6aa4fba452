import VpnUi.Address.ClientIp
import VpnUi.Foundation.Json

namespace VpnUi.Panel

open Foundation Address

/-! The settings of a VPN inbound as each service decodes them, and the device
addresses of an account. -/

structure VpnClient where
  id : String
  password : String
  email : String
  enable : Bool
  deriving DecidableEq

def VpnClient.decode (fields : JsonObject) : Decoded VpnClient :=
  (Decoded.record VpnClient.mk).field (fields.get "id").text
    |>.field (fields.get "password").text
    |>.field (fields.get "email").text
    |>.field (fields.get "enable").flag

/-- The fields the modelled functions read.  A protocol without one of them
has its zero value; every other field is only checked for its type. -/
structure VpnSettings where
  udpEnable : Option Bool
  tcpEnable : Option Bool
  clientToClient : Bool
  crossInbound : Bool
  userLimit : Option Int
  userLimitStrategy : String
  ipRanges : List String
  ipRange : String
  clients : List VpnClient

namespace VpnSettings

def checkedTexts (keys : List String) (fields : JsonObject)
    (settings : Decoded VpnSettings) : Decoded VpnSettings :=
  keys.foldl (fun decoded key => decoded.checked (fields.get key).text) settings

/-- The transports of OpenVPN and the legacy range as given, the rest read. -/
def common (udpEnable tcpEnable : Decoded (Option Bool))
    (ipRange : Decoded String) (fields : JsonObject) : Decoded VpnSettings :=
  (Decoded.record VpnSettings.mk).field udpEnable
    |>.field tcpEnable
    |>.field (fields.get "clientToClient").flag
    |>.field (fields.get "crossInbound").flag
    |>.field (fields.get "userLimit").optionalNumber
    |>.field (fields.get "userLimitStrategy").text
    |>.field (Json.list Json.text (fields.get "ipRanges"))
    |>.field ipRange
    |>.field (Json.list (Json.record VpnClient.decode) (fields.get "clients"))
    |>.checked (fields.get "dns1").text
    |>.checked (fields.get "dns2").text
    |>.checked (fields.get "mtu").number

def externalProxy (fields : JsonObject) : Decoded Unit :=
  (Decoded.record ()).checked (fields.get "dest").text
    |>.checked (fields.get "port").number
    |>.checked (fields.get "remark").text

def openvpnSettings (fields : JsonObject) : Decoded VpnSettings :=
  (common (fields.get "udpEnable").optionalFlag
      (fields.get "tcpEnable").optionalFlag (.record "") fields)
    |>.checked (fields.get "tcpPort").number
    |>.checked (fields.get "separatePorts").optionalFlag
    |>.checked (fields.get "tlsUseFile").optionalFlag
    |>.checked (Json.list Json.text (fields.get "ciphers"))
    |>.checked (Json.list (Json.record externalProxy)
      (fields.get "externalProxy"))
    |> checkedTexts ["caCert", "caKey", "serverCert", "serverKey", "tlsCrypt",
      "caCertFile", "serverCertFile", "serverKeyFile", "tlsCryptFile",
      "cipherMode"] fields

/-- The TLS fields of OpenConnect and SSTP. -/
def checkedTls (fields : JsonObject) (settings : Decoded VpnSettings) :
    Decoded VpnSettings :=
  settings.checked (fields.get "tlsUseFile").flag
    |> checkedTexts ["certificateFile", "keyFile", "certificate", "key",
      "caCert"] fields

def ocservSettings (fields : JsonObject) : Decoded VpnSettings :=
  (common (.record none) (.record none) (.record "") fields)
    |> checkedTls fields

def sstpSettings (fields : JsonObject) : Decoded VpnSettings :=
  (common (.record none) (.record none) (fields.get "ipRange").text fields)
    |>.checked (fields.get "localIp").text
    |> checkedTls fields

def pptpSettings (fields : JsonObject) : Decoded VpnSettings :=
  (common (.record none) (.record none) (fields.get "ipRange").text fields)
    |>.checked (fields.get "localIp").text

def l2tpSettings (fields : JsonObject) : Decoded VpnSettings :=
  (pptpSettings fields).checked (fields.get "ipsecEnable").flag
    |>.checked (fields.get "ipsecPsk").text
    |>.checked (fields.get "allowRaw").flag

/-- `parseSettings` of each service. -/
def parse (backend : VpnProtocol) : JsonText → Option VpnSettings :=
  match backend with
  | .l2tp => (JsonText.decode · l2tpSettings)
  | .pptp => (JsonText.decode · pptpSettings)
  | .openvpn => (JsonText.decode · openvpnSettings)
  | .openconnect => (JsonText.decode · ocservSettings)
  | .sstp => (JsonText.decode · sstpSettings)

def decoder : VpnProtocol → JsonObject → Decoded VpnSettings
  | .l2tp => l2tpSettings
  | .pptp => pptpSettings
  | .openvpn => openvpnSettings
  | .openconnect => ocservSettings
  | .sstp => sstpSettings

theorem parse_eq_decode (backend : VpnProtocol) (settings : JsonText) :
    parse backend settings = settings.decode (decoder backend) := by
  cases backend <;> rfl

/-- The clients of a settings object, as every service types them. -/
def typedClients (fields : JsonObject) : Decoded (List VpnClient) :=
  Json.list (Json.record VpnClient.decode) (fields.get "clients")

theorem clients_decoder (backend : VpnProtocol) (fields : JsonObject) :
    (decoder backend fields).value.clients = (typedClients fields).value := by
  cases backend <;> rfl

/-- Well-typed clients may be exchanged without a change to the rest. -/
theorem decoder_set_clients (backend : VpnProtocol) {fields : JsonObject}
    {clients : Json} (fits : (typedClients fields).fits = true)
    (newFits :
      (typedClients (fields.set "clients" clients)).fits = true) :
    decoder backend (fields.set "clients" clients) =
      (decoder backend fields).map fun settings =>
        { settings with
          clients := (typedClients (fields.set "clients" clients)).value } := by
  simp only [typedClients, JsonObject.get_set_self] at fits newFits
  cases backend <;>
    simp (disch := decide) only [decoder, l2tpSettings, pptpSettings,
      openvpnSettings, ocservSettings, sstpSettings, common, checkedTls,
      checkedTexts, typedClients, JsonObject.get_set_ne,
      JsonObject.get_set_self, Decoded.map, Decoded.field, Decoded.checked,
      Decoded.record, List.foldl, fits, newFits]

def effectiveRanges (settings : VpnSettings) : List String :=
  if settings.ipRanges = [] ∧ settings.ipRange ≠ "" then [settings.ipRange]
  else settings.ipRanges

/-- A transport of OpenVPN that is not switched off. -/
def enabled (settings : VpnSettings) : Transport → Bool
  | .udp => settings.udpEnable.getD true
  | .tcp => settings.tcpEnable.getD true

/-- The addresses published for the account at an index of an OpenVPN
inbound. -/
def ovpnDeviceIPs (settings : VpnSettings) (inboundId : Int)
    (transport : Transport) (index : Nat) : List Ipv4 :=
  let limit := effectiveUserLimit settings.userLimit
  if limit ≤ 1 then
    (ovpnBlockClientIP (ovpnBlock settings.ipRanges transport inboundId)
      index).toList
  else
    vpnAccountDeviceIPs
      (ovpnSubnetsOrDefault settings.ipRanges transport inboundId) index limit

end VpnSettings

end VpnUi.Panel
