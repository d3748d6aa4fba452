import VpnUi.Panel.Protocol

namespace VpnUi.Xray

open Panel

/-! The configuration of the core, the comparison that decides about a restart,
and the generation of a configuration from the database. -/

abbrev RawMessage := String

/-- A client of an inbound as the core is told of it. -/
structure User where
  email : String
  account : String
  deriving DecidableEq

/-- The text of the settings by its clients and the rest, from which the panel
writes it. -/
structure Settings where
  other : RawMessage
  users : List User
  deriving DecidableEq

structure InboundConfig where
  listen : RawMessage
  port : Int
  protocol : String
  settings : Settings
  streamSettings : RawMessage
  tag : String
  sniffing : RawMessage
  deriving DecidableEq

structure Config where
  log : RawMessage
  routing : RawMessage
  dns : RawMessage
  inbounds : List InboundConfig
  outbounds : RawMessage
  transport : RawMessage
  policy : RawMessage
  api : RawMessage
  stats : RawMessage
  reverse : RawMessage
  fakedns : RawMessage
  observatory : RawMessage
  burstObservatory : RawMessage
  metrics : RawMessage
  deriving DecidableEq

def Config.blank : Config :=
  ⟨"", "", "", [], "", "", "", "", "", "", "", "", "", ""⟩

/-- `Equals`, which lists the sections one by one. -/
def Config.equals (config other : Config) : Bool :=
  config.inbounds = other.inbounds &&
    config.log = other.log &&
    config.routing = other.routing &&
    config.dns = other.dns &&
    config.outbounds = other.outbounds &&
    config.transport = other.transport &&
    config.policy = other.policy &&
    config.api = other.api &&
    config.stats = other.stats &&
    config.reverse = other.reverse &&
    config.fakedns = other.fakedns &&
    config.metrics = other.metrics

/-- The two sections that are not compared may differ. -/
theorem Config.equals_iff {config other : Config} :
    config.equals other = true ↔
      other = { config with
        observatory := other.observatory
        burstObservatory := other.burstObservatory } := by
  obtain ⟨_, _, _, _, _, _, _, _, _, _, _, _, _, _⟩ := config
  obtain ⟨_, _, _, _, _, _, _, _, _, _, _, _, _, _⟩ := other
  simp only [Config.equals, Bool.and_eq_true, decide_eq_true_eq,
    Config.mk.injEq]
  grind

/-- A client of the settings of a row. -/
structure StoredUser where
  email : String
  enable : Option Bool
  account : String
  deriving DecidableEq

/-- A row of the inbounds table with what the core is told of it.  The stream
settings are those without the panel's own fields. -/
structure Row where
  id : Int
  enable : Bool
  listen : String
  port : Int
  protocol : Protocol
  otherSettings : RawMessage
  clients : List StoredUser
  streamSettings : RawMessage
  tag : String
  sniffing : RawMessage
  clientStats : List (String × Bool)
  deriving DecidableEq

/-- Neither the statistics nor the client itself says that it is disabled. -/
def Row.serves (row : Row) (client : StoredUser) : Bool :=
  row.clientStats.reverse.lookup client.email ≠ some false &&
    client.enable ≠ some false

def Row.finalClients (row : Row) : List User :=
  (row.clients.filter row.serves).map fun client =>
    ⟨client.email, client.account⟩

def quoted (text : String) : RawMessage := "\"" ++ text ++ "\""

def Row.genXrayInboundConfig (row : Row) : InboundConfig where
  listen := quoted (if row.listen = "" then "0.0.0.0" else row.listen)
  port := row.port
  protocol := row.protocol.name
  settings := ⟨row.otherSettings, row.finalClients⟩
  streamSettings := row.streamSettings
  tag := row.tag
  sniffing := row.sniffing

def getTproxyPort (id : Int) : Int := 12300 + id

/-- The same for the five protocols. -/
def Row.getDokodemoConfig (row : Row) : InboundConfig where
  listen := quoted "0.0.0.0"
  port := getTproxyPort row.id
  protocol := "dokodemo-door"
  settings := ⟨"\x7b\"network\":\"tcp,udp\",\"followRedirect\":true\x7d", []⟩
  streamSettings := "\x7b\"sockopt\":\x7b\"tproxy\":\"tproxy\",\"mark\":255\x7d\x7d"
  tag := row.tag
  sniffing := "\x7b\"enabled\":true,\"destOverride\":[\"http\",\"tls\"]\x7d"

/-- The order in which the services of the protocols are asked. -/
def vpnServices : List VpnProtocol :=
  [.l2tp, .pptp, .openvpn, .openconnect, .sstp]

def dokodemoRows (rows : List Row) (backend : VpnProtocol) : List Row :=
  rows.filter fun row => row.protocol = .vpn backend && row.enable

def nativeRows (rows : List Row) : List Row :=
  rows.filter fun row => row.enable && !row.protocol.isVpnProtocol

/-- What is left of `GetXrayConfig` once the template is parsed and the tables
are read; `translate` rewrites the routing rules. -/
def getXrayConfig (translate : RawMessage → RawMessage) (template : Config)
    (rows : List Row) : Config :=
  { template with
    inbounds := template.inbounds ++
      (nativeRows rows).map Row.genXrayInboundConfig ++
      (vpnServices.flatMap (dokodemoRows rows)).map Row.getDokodemoConfig
    routing := translate template.routing }

end VpnUi.Xray
