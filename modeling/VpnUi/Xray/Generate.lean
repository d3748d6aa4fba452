import VpnUi.Foundation.Encoder
import VpnUi.Foundation.Fields
import VpnUi.Foundation.Float64
import VpnUi.Radius.RoutingMap
import VpnUi.Xray.Config

namespace VpnUi.Xray

open Foundation VpnUi.Panel Address

/-! The generation of the configuration from the texts of the database, with
each of its loops over a map in an order of its own. -/

/-- A row of the inbounds table with the texts of its columns, and the enabled
flags of its client statistics. -/
structure InboundRow where
  id : Int
  enable : Bool
  listen : String
  port : Int
  protocol : Protocol
  settings : RawMessage
  streamSettings : RawMessage
  tag : String
  sniffing : RawMessage
  clientStats : List (String × Bool)

abbrev InboundRows := Table InboundRow.id

/-- The entries of the addresses of the accounts. -/
abbrev Accounts := List (Sigma fun _ : String => List Ipv4)

/-- The orders in which one run goes through its maps: a client of the settings
of a row, a rule, and the addresses of the accounts. -/
structure Orders where
  client : Int → Nat → JsonObject → List String
  rule : Nat → JsonObject → List String
  accounts : VpnMap → Accounts
  client_perm : ∀ id index fields,
    (client id index fields).Perm (JsonObject.keys fields)
  rule_perm : ∀ index fields, (rule index fields).Perm (JsonObject.keys fields)
  accounts_perm : ∀ vpnMap : VpnMap, (accounts vpnMap).Perm vpnMap.entries

/-! Inbounds of the core. -/

/-- The keys of a client that are not cleared. -/
def coreKeys : List String :=
  ["email", "id", "password", "flow", "method", "auth"]

/-- One round of the loop over the keys of a client. -/
def clearKey (client : JsonObject) (key : String) : JsonObject :=
  let cleared := if key ∈ coreKeys then client else JsonObject.remove client key
  if Json.isText (cleared.get? "flow") "xtls-rprx-vision-udp443" then
    cleared.set "flow" (.str "xtls-rprx-vision")
  else cleared

/-- The panel's own fields are cut out of the stream settings. -/
def cleanStream (stream : JsonObject) : JsonObject :=
  let cut := match stream.get? "tlsSettings", stream.get? "realitySettings" with
    | some (.obj tls), _ =>
        stream.set "tlsSettings" (.obj (JsonObject.remove tls "settings"))
    | _, some (.obj reality) =>
        stream.set "realitySettings"
          (.obj (JsonObject.remove reality "settings"))
    | _, _ => stream
  cut.remove "externalProxy"

namespace InboundRow

/-- The statistics or the client itself say that it is disabled. -/
def drops (row : InboundRow) (client : JsonObject) : Bool :=
  let email := (JsonObject.get client "email").text?.getD ""
  row.clientStats.reverse.lookup email = some false ||
    (JsonObject.get client "enable").flag? = some false

section Texts

variable (unmarshal : RawMessage → JsonText) (orders : Orders) (row : InboundRow)

def finalClient (index : Nat) : Json → Option Json
  | .obj client =>
      if row.drops client then none
      else some (.obj ((orders.client row.id index client).foldl clearKey client))
  | _ => none

/-- No client at all is written as null. -/
def finalClients (clients : List Json) : Json :=
  let final := clients.zipIdx.filterMap fun (client, index) =>
    row.finalClient orders index client
  if final.isEmpty then .null else .arr final

def coreSettings : RawMessage :=
  let settings : JsonObject := viaFloatFields (unmarshal row.settings).fields
  match settings.get "clients" with
  | .arr clients =>
      Json.marshal .indented
        (.obj (settings.set "clients" (row.finalClients orders clients)))
  | _ => row.settings

def coreStream : RawMessage :=
  if row.streamSettings = "" then row.streamSettings
  else
    match (unmarshal row.streamSettings).object?.getD none with
    | none => Json.marshal .indented .null
    | some stream =>
        Json.marshal .indented (.obj (cleanStream (viaFloatFields stream)))

def coreInbound : InboundConfig where
  listen := quoted (if row.listen = "" then "0.0.0.0" else row.listen)
  port := row.port
  protocol := row.protocol.name
  settings := ⟨row.coreSettings unmarshal orders, []⟩
  streamSettings := row.coreStream unmarshal
  tag := row.tag
  sniffing := row.sniffing

def toInbound : Inbound where
  id := row.id
  listen := row.listen
  port := row.port
  protocol := row.protocol
  settings := unmarshal row.settings
  enable := row.enable
  tag := row.tag

end Texts

/-- `GetDokodemoConfig`, the same for the five protocols. -/
def dokodemo (row : InboundRow) : InboundConfig where
  listen := quoted "0.0.0.0"
  port := getTproxyPort row.id
  protocol := "dokodemo-door"
  settings := ⟨"\x7b\"network\":\"tcp,udp\",\"followRedirect\":true\x7d", []⟩
  streamSettings := "\x7b\"sockopt\":\x7b\"tproxy\":\"tproxy\",\"mark\":255\x7d\x7d"
  tag := row.tag
  sniffing := "\x7b\"enabled\":true,\"destOverride\":[\"http\",\"tls\"]\x7d"

end InboundRow

/-! Routing. -/

/-- One round of the loop that copies a rule. -/
def copyField (rule copy : JsonObject) (key : String) : JsonObject :=
  if key = "user" then copy else copy.set key (JsonObject.get rule key)

/-- The tag of an outbound, or its protocol. -/
def outboundText (outbound : JsonObject) (key : String) : String :=
  (JsonObject.get outbound key).text?.getD ""

/-- A list of maps; null is the empty list, and a null in it the empty map. -/
def outboundMaps : JsonText → Option (List JsonObject)
  | .parsed .null => some []
  | .parsed (.arr items) => items.mapM fun
      | .obj fields => some fields
      | .null => some []
      | _ => none
  | _ => none

def defaultTag (outbounds : List JsonObject) : String :=
  match outbounds with
  | first :: _ =>
      if outboundText first "tag" ≠ "" then outboundText first "tag"
      else "direct"
  | [] => "direct"

/-- The last outbound that drops counts. -/
def blockTag (outbounds : List JsonObject) : String :=
  outbounds.foldl (fun tag outbound =>
    if outboundText outbound "protocol" = "blackhole" ∧
        outboundText outbound "tag" ≠ "" then outboundText outbound "tag"
    else tag) ""

def vpnAddrSpace : String := "10.0.0.0/13"

def acceptRule (addresses : List Ipv4) (tag : String) : Json :=
  .obj [("type", .str "field"), ("source", addressList addresses),
    ("outboundTag", .str tag)]

def blockRule (tag : String) : Json :=
  .obj [("type", .str "field"), ("source", .arr [.str vpnAddrSpace]),
    ("outboundTag", .str tag)]

namespace Orders

variable (orders : Orders) (unmarshal : RawMessage → JsonText)

def vpnRule (index : Nat) (rule : JsonObject) (addresses : List Ipv4) :
    JsonObject :=
  JsonObject.set ((orders.rule index rule).foldl (copyField rule) []) "source"
    (addressList addresses)

/-- The rules in place of one that names VPN accounts. -/
def splitRule? (vpnMap : VpnMap) (index : Nat) (ruleRaw : Json) :
    Option (List Json) :=
  match ruleRaw with
  | .obj rule =>
      match JsonObject.get rule "user" with
      | .arr users =>
          let vpnIPs := users.flatMap vpnMap.addressesOf
          let regularEmails := users.filter vpnMap.isRegular
          if vpnIPs = [] then none
          else
            some (.obj (orders.vpnRule index rule vpnIPs) ::
              if regularEmails = [] then []
              else [.obj (userRule rule regularEmails)])
      | _ => none
  | _ => none

/-- The first time that an address is met counts. -/
def validIPs (vpnMap : VpnMap) : List Ipv4 :=
  ((orders.accounts vpnMap).flatMap Sigma.snd).eraseDups

def backstop (vpnMap : VpnMap) (outbounds : List JsonObject) : List Json :=
  let addresses := orders.validIPs vpnMap
  if blockTag outbounds ≠ "" ∧ addresses ≠ [] then
    [acceptRule addresses (defaultTag outbounds), blockRule (blockTag outbounds)]
  else []

def newRules (vpnMap : VpnMap) (rules : List Json) : List Json :=
  rules.zipIdx.flatMap fun (ruleRaw, index) =>
    (orders.splitRule? vpnMap index ruleRaw).getD [ruleRaw]

def modified (vpnMap : VpnMap) (rules : List Json) : Bool :=
  rules.zipIdx.any fun (ruleRaw, index) =>
    (orders.splitRule? vpnMap index ruleRaw).isSome

def translateVpnRoutingRules (vpnMap : VpnMap) (config : Config) : Config :=
  if config.routing = "" ∨ vpnMap.entries = [] then config
  else
    let routing : JsonObject := viaFloatFields (unmarshal config.routing).fields
    match routing.get "rules" with
    | .arr (first :: others) =>
        let rules := first :: others
        let outbounds := (outboundMaps (unmarshal config.outbounds)).getD []
        let backstop := orders.backstop vpnMap outbounds
        if orders.modified vpnMap rules || !backstop.isEmpty then
          { config with
            routing := Json.marshal .compact (.obj (routing.set "rules"
              (.arr (orders.newRules vpnMap rules ++ backstop)))) }
        else config
    | _ => config

end Orders

/-! The configuration. -/

def toInbounds (unmarshal : RawMessage → JsonText) (rows : InboundRows) :
    Inbounds where
  rows := rows.rows.map (InboundRow.toInbound unmarshal)
  sorted := List.pairwise_map.mpr rows.sorted

def nativeInbounds (rows : InboundRows) : List InboundRow :=
  rows.rows.filter fun row => row.enable && !row.protocol.isVpnProtocol

def dokodemoInbounds (rows : InboundRows) (backend : VpnProtocol) :
    List InboundRow :=
  rows.rows.filter fun row => row.protocol = .vpn backend && row.enable

/-- `GetXrayConfig`, once the template is parsed. -/
def Orders.getXrayConfig (orders : Orders) (unmarshal : RawMessage → JsonText)
    (template : Config) (rows : InboundRows) : Config :=
  orders.translateVpnRoutingRules unmarshal
    (Radius.buildVpnEmailToIPMap (toInbounds unmarshal rows))
    { template with
      inbounds := template.inbounds ++
        (nativeInbounds rows).map (InboundRow.coreInbound unmarshal orders) ++
        (vpnServices.flatMap (dokodemoInbounds rows)).map
          InboundRow.dokodemo }

end VpnUi.Xray
