import VpnUi.Form.ServiceView
import VpnUi.Foundation.Files
import VpnUi.Store.Database

namespace VpnUi.BackEnd

open Foundation Panel Address

/-! The configuration files and the prerouting rules that the VPN services
generate from the rows of the database. -/

/-- What the services find on the host: the ciphers of the OpenVPN binary,
whether libreswan is the bundled one, and the operator's own files. -/
structure Host where
  ciphers : List String
  bundledIpsec : Bool
  fileExists : String → Bool

/-- What a service reads of the settings besides the clients. -/
structure Reading where
  view : Form.ServiceView
  localIp : String
  deriving DecidableEq

def readSettings (host : Host) (backend : VpnProtocol) (port : Int)
    (fields : JsonObject) : Reading where
  view := { Form.serviceView backend host.ciphers port fields with
    clients := [] }
  localIp := (fields.get "localIp").text.value

/-- A row as its service sees it: without a reading the settings do not
parse. -/
structure Served where
  id : Int
  enable : Bool
  reading : Option Reading
  deriving DecidableEq

def serve (host : Host) (backend : VpnProtocol) (row : Inbound) : Served where
  id := row.id
  enable := row.enable
  reading := row.settings.decode fun fields =>
    (VpnSettings.decoder backend fields).map fun _ =>
      readSettings host backend row.port fields

abbrev ServedRows := VpnProtocol → List Served

def servedRows (host : Host) (database : Store.Database) : ServedRows :=
  fun backend => (database.inbounds.view.ofProtocol (.vpn backend)).map
    (serve host backend)

/-! The files. -/

/-- A generated file, in a directory of the protocol or of one inbound. -/
structure FileName where
  backend : VpnProtocol
  inbound : Option Int
  name : String
  deriving DecidableEq

def etc (backend : VpnProtocol) (name : String) : FileName :=
  ⟨backend, none, name⟩

def configDir (backend : VpnProtocol) (id : Int) (name : String) : FileName :=
  ⟨backend, some id, name⟩

/-- Where a daemon finds its certificate: the operator's paths, or the files of
its own directory. -/
inductive CertPaths
  | operator (paths : List String)
  | configDir
  deriving DecidableEq

structure OpenVpnServer where
  socket : Form.Socket
  network : Block
  duplicateCn : Bool
  clientToClient : Bool
  dns1 : String
  dns2 : String
  mtu : Int
  certPaths : CertPaths
  ciphers : List String
  deriving DecidableEq

structure OcservServer where
  sockets : List Form.Socket
  certPaths : CertPaths
  caCert : Bool
  network : Block
  dns1 : String
  dns2 : String
  mtu : Int
  clientToClient : Bool
  deriving DecidableEq

structure AccelPppServer where
  certPaths : CertPaths
  sockets : List Form.Socket
  mtu : Int
  dns1 : String
  dns2 : String
  gateway : String
  deriving DecidableEq

/-- What the templates are filled in with. -/
inductive FileContent
  | xl2tpd (ranges : List String) (localIp : String)
  | pptpd (localIp : String) (remoteIp : List String)
  | pppOptions (dns1 dns2 : String) (mtu : Int)
  | ipsecConf
  | ipsecSecrets (psk : String)
  | openvpn (server : OpenVpnServer)
  | ocserv (server : OcservServer)
  | accelPpp (server : AccelPppServer)
  | pem (text : String)
  deriving DecidableEq

abbrev Write := FileName × FileContent

abbrev ConfigFiles := Files FileName FileContent

/-- The ranges of a PPP inbound, or the one derived from its id. -/
def pppRanges (backend : VpnProtocol) (id : Int) (reading : Reading) :
    List String :=
  if reading.view.ranges = [] then [idRange backend.protocolBase id]
  else reading.view.ranges

def firstGateway (ranges : List String) : Option String :=
  (ranges.head?.bind parseRange).map fun range =>
    (range.subnet.withHost 1).text

/-- The readable rows with what was read of them. -/
def readable (rows : List Served) : List (Int × Reading) :=
  rows.filterMap fun row => row.reading.map (row.id, ·)

/-- The gateway of the first row that gives one. -/
def localIp (backend : VpnProtocol) (fallback : String) (rows : List Served) :
    String :=
  (((readable rows).map fun (id, reading) =>
    (firstGateway (pppRanges backend id reading)).getD reading.localIp).find?
      (· ≠ "")).getD fallback

def generateXl2tpdConfig (rows : List Served) : Write :=
  (etc .l2tp "xl2tpd.conf", .xl2tpd
    ((readable rows).flatMap fun (id, reading) => pppRanges .l2tp id reading)
    (localIp .l2tp "10.0.2.1" rows))

/-- A range in the shorthand of pptpd. -/
def pptpdRange (range : IpRange) : String :=
  range.start.text ++ "-" ++ toString range.last

def generatePptpdConfig (rows : List Served) : Write :=
  (etc .pptp "pptpd.conf", .pptpd (localIp .pptp "10.1.2.1" rows)
    ((readable rows).flatMap fun (id, reading) =>
      ((pppRanges .pptp id reading).filterMap parseRange).map pptpdRange))

def pppOptions : VpnProtocol → String
  | .l2tp => "options.xl2tpd"
  | _ => "pptpd-options"

/-- The options come from the first row, and stay as they are if it does not
parse. -/
def generatePPPOptions (backend : VpnProtocol) (rows : List Served) :
    List Write :=
  match rows.head?.bind Served.reading with
  | none => []
  | some reading =>
      [(etc backend (pppOptions backend), .pppOptions reading.view.dns1
        reading.view.dns2 reading.view.mtu)]

/-- Only the first key is written, and without one nothing is. -/
def generateIPsecConfig (rows : List Served) : List Write :=
  match (readable rows).filterMap fun (_, reading) =>
      reading.view.ipsec.filter (· ≠ "") with
  | [] => []
  | psk :: _ =>
      [(etc .l2tp "ipsec.conf", .ipsecConf),
        (etc .l2tp "ipsec.secrets", .ipsecSecrets psk)]

def tlsText (reading : Reading) (index : Nat) : String :=
  reading.view.tlsTexts.getD index ""

def pemWrites (backend : VpnProtocol) (id : Int)
    (texts : List (String × String)) : List Write :=
  texts.map fun (name, text) => (configDir backend id name, .pem text)

def transport : Form.Socket → Transport
  | .udp _ => .udp
  | .tcp _ => .tcp

def serverConf : Transport → String
  | .udp => "server-udp.conf"
  | .tcp => "server-tcp.conf"

def ovpnCertPaths (reading : Reading) : CertPaths :=
  if reading.view.tlsUseFile then
    .operator ((reading.view.tlsTexts.take 4).map trimText)
  else .configDir

def openvpnServer (id : Int) (reading : Reading) (socket : Form.Socket) :
    OpenVpnServer where
  socket := socket
  network := ovpnBlock reading.view.ranges (transport socket) id
  duplicateCn := 2 ≤ reading.view.userLimit
  clientToClient := reading.view.clientToClient
  dns1 := reading.view.dns1
  dns2 := reading.view.dns2
  mtu := reading.view.mtu
  certPaths := ovpnCertPaths reading
  ciphers := reading.view.ciphers

def ovpnCertFiles (id : Int) (reading : Reading) : List Write :=
  if reading.view.tlsUseFile then []
  else
    pemWrites .openvpn id ((["ca.crt", "ca.key", "server.crt", "server.key",
      "tc.key"].zip (reading.view.tlsTexts.drop 4)).filter (·.2 ≠ ""))

def openvpnWrites (row : Served) : List Write :=
  match row.reading with
  | none => []
  | some reading =>
      reading.view.sockets.map (fun socket =>
        (configDir .openvpn row.id (serverConf (transport socket)),
          .openvpn (openvpnServer row.id reading socket))) ++
      ovpnCertFiles row.id reading

/-- `certPaths` of OpenConnect and SSTP: blank paths are not used. -/
def certPaths (reading : Reading) : CertPaths :=
  let paths := (reading.view.tlsTexts.take 2).map trimText
  if reading.view.tlsUseFile ∧ "" ∉ paths then .operator paths else .configDir

/-- `writeCertFiles` of OpenConnect and SSTP. -/
def certFiles (backend : VpnProtocol) (id : Int) (reading : Reading) :
    List Write :=
  if reading.view.tlsUseFile then []
  else
    pemWrites backend id ((["server.crt", "server.key", "ca.crt"].zip
      (reading.view.tlsTexts.drop 2)).filter (trimText ·.2 ≠ ""))

def ocservServer (id : Int) (reading : Reading) : OcservServer where
  sockets := reading.view.sockets
  certPaths := certPaths reading
  caCert := trimText (tlsText reading 4) ≠ "" && !reading.view.tlsUseFile
  network := vpnBlock reading.view.ranges VpnProtocol.openconnect.protocolBase id
  dns1 := reading.view.dns1
  dns2 := reading.view.dns2
  mtu := reading.view.mtu
  clientToClient := reading.view.clientToClient

def ocservWrites (row : Served) : List Write :=
  match row.reading with
  | none => []
  | some reading =>
      (configDir .openconnect row.id "ocserv.conf",
        .ocserv (ocservServer row.id reading)) ::
      certFiles .openconnect row.id reading

def gatewayIP (id : Int) (reading : Reading) : String :=
  match firstGateway (pppRanges .sstp id reading) with
  | some gateway => gateway
  | none =>
      if trimText reading.localIp ≠ "" then trimText reading.localIp
      else "10." ++ toString VpnProtocol.sstp.protocolBase ++ "." ++
        toString id ++ ".1"

def accelPppServer (id : Int) (reading : Reading) : AccelPppServer where
  certPaths := certPaths reading
  sockets := reading.view.sockets
  mtu := reading.view.mtu
  dns1 := reading.view.dns1
  dns2 := reading.view.dns2
  gateway := gatewayIP id reading

def sstpWrites (row : Served) : List Write :=
  match row.reading with
  | none => []
  | some reading =>
      (configDir .sstp row.id "accel-ppp.conf",
        .accelPpp (accelPppServer row.id reading)) ::
      certFiles .sstp row.id reading

/-- `GenerateAllConfigs`, with the enabled and the disabled rows. -/
def generateAllConfigs (rows : List Served) : VpnProtocol → List Write
  | .l2tp =>
      if rows = [] then []
      else generateXl2tpdConfig rows :: generateIPsecConfig rows ++
        generatePPPOptions .l2tp rows
  | .pptp =>
      if rows = [] then []
      else generatePptpdConfig rows :: generatePPPOptions .pptp rows
  | .openvpn => rows.flatMap openvpnWrites
  | .openconnect => rows.flatMap ocservWrites
  | .sstp => rows.flatMap sstpWrites

/-! The rules of the prerouting chain. -/

inductive Verdict
  | accept
  | drop
  deriving DecidableEq

inductive NftRule
  | jump (backend : VpnProtocol)
  | between (source target : String) (verdict : Verdict)
  /-- Redirects the packets of one transport to a port of the core. -/
  | tproxy (source : String) (transport : Transport) (port : Int)
  deriving DecidableEq

/-- log2 of a number of /24s. -/
def log2i (span : Nat) : Nat := Nat.log2 span

def blockCIDR (block : Block) : String :=
  block.network.text ++ "/" ++ toString (24 - log2i block.span)

def subnetCIDR (subnet : Subnet) : String :=
  toString subnet.first ++ "." ++ toString subnet.second ++ "." ++
    toString subnet.third ++ ".0/24"

/-- A PPP inbound without readable ranges has the /24 of its id. -/
def pppCIDRs (backend : VpnProtocol) (row : Served) : List String :=
  match subnetsOf (row.reading.elim [] (·.view.ranges)) with
  | [] => ["10." ++ toString backend.protocolBase ++ "." ++ toString row.id ++
      ".0/24"]
  | subnets => subnets.map subnetCIDR

/-- The address space of the clients of a row. -/
def clientCIDRs (row : Served) : VpnProtocol → List String
  | .openvpn =>
      match row.reading with
      | none => []
      | some reading => reading.view.sockets.map fun socket =>
          blockCIDR (ovpnBlock reading.view.ranges (transport socket) row.id)
  | .openconnect =>
      match row.reading with
      | none => []
      | some reading => [blockCIDR (vpnBlock reading.view.ranges
          VpnProtocol.openconnect.protocolBase row.id)]
  | backend => pppCIDRs backend row

structure VpnNet where
  subnets : List String
  c2c : Bool
  cross : Bool

/-- The enabled rows that parse. -/
def vpnNets (backend : VpnProtocol) (rows : List Served) : List VpnNet :=
  rows.filterMap fun row =>
    match row.enable, row.reading with
    | true, some reading => some {
        subnets := clientCIDRs row backend
        c2c := reading.view.clientToClient
        cross := reading.view.crossInbound }
    | _, _ => none

def pairRules (sources targets : List String) (verdict : Verdict) :
    List NftRule :=
  sources.flatMap fun source => targets.map fun target =>
    .between source target verdict

def verdictOf (accepted : Bool) : Verdict :=
  if accepted then .accept else .drop

def writeCrossInboundRules (nets : List VpnNet) : List NftRule :=
  nets.zipIdx.flatMap fun (net, index) =>
    nets.zipIdx.flatMap fun (other, otherIndex) =>
      if index = otherIndex then []
      else pairRules net.subnets other.subnets
        (verdictOf (net.cross && net.c2c && other.cross && other.c2c))

def writeClientToClientRules (subnets : List String) (enabled : Bool) :
    List NftRule :=
  pairRules subnets subnets (verdictOf enabled)

def getTproxyPort (id : Int) : Int := 12300 + id

def tproxyRules (backend : VpnProtocol) (row : Served) : List NftRule :=
  if row.enable then
    let sources := clientCIDRs row backend
    writeClientToClientRules sources
      (row.reading.elim false (·.view.clientToClient)) ++
    sources.flatMap fun source =>
      [.tproxy source .tcp (getTproxyPort row.id),
        .tproxy source .udp (getTproxyPort row.id)]
  else []

/-- `ApplyNftRules`: the prerouting chain, or no table at all where there is no
VPN inbound. -/
def applyNftRules (served : ServedRows) : Option (List NftRule) :=
  let backends := [.l2tp, .pptp, .openvpn, .openconnect, .sstp]
  if backends.all fun backend => served backend = [] then none
  else some (
    backends.map .jump ++
    writeCrossInboundRules
      (backends.flatMap fun backend => vpnNets backend (served backend)) ++
    [.l2tp, .pptp, .sstp, .openvpn, .openconnect].flatMap fun backend =>
      (served backend).flatMap (tproxyRules backend))

end VpnUi.BackEnd
