import VpnUi.Panel.VpnSettings

namespace VpnUi.Form

open Foundation Panel

/-! The settings classes of the browser for the VPN protocols: `fromJson`
followed by `toJson`. -/

/-- `value ?? fallback`. -/
def coalesce (fallback : Json) : Json → Json
  | .null => fallback
  | value => value

/-- A property with a default parameter, which null does not take. -/
def property (fields : JsonObject) (key : String) (default : Json) : Json :=
  (fields.get? key).getD default

/-- `Array.isArray(value) ? value.slice() : []`. -/
def arrayOrEmpty : Json → List Json
  | .arr items => items
  | _ => []

/-- A property that is undefined is left out of the JSON text. -/
def optionalProperty (fields : JsonObject) (key : String) : JsonObject :=
  ((fields.get? key).map (key, ·)).toList

/-- The white space that `trim` removes. -/
def trimmedChars : List Char :=
  ['\t', '\n', '\x0b', '\x0c', '\x0d', ' ', '\u00a0', '\u1680', '\u2000',
    '\u2001', '\u2002', '\u2003', '\u2004', '\u2005', '\u2006', '\u2007',
    '\u2008', '\u2009', '\u200a', '\u2028', '\u2029', '\u202f', '\u205f',
    '\u3000', '\ufeff']

/-- `text.trim() === ""`. -/
def isBlank (text : String) : Bool :=
  text.toList.all (· ∈ trimmedChars)

/-- The characters of `RandomUtil.getSeq`. -/
def getSeq (hasUppercase : Bool) : List Char :=
  "0123456789abcdefghijklmnopqrstuvwxyz".toList ++
    if hasUppercase then "ABCDEFGHIJKLMNOPQRSTUVWXYZ".toList else []

/-- `RandomUtil.randomSeq` of the numbers that are drawn. -/
def randomSeq (count : Nat) (hasUppercase : Bool) (drawn : Nat → Nat) :
    String :=
  let letters := getSeq hasUppercase
  String.ofList ((List.range count).map fun place =>
    letters.getD (drawn place % letters.length) '0')

/-- The numbers drawn for the defaults of a user. -/
structure UserDraws where
  id : Nat → Nat
  password : Nat → Nat
  email : Nat → Nat

/-- The numbers drawn while the settings are read. -/
structure Draws where
  psk : Nat → Nat
  user : Nat → UserDraws

/-- `new L2tpUser(..).toJson()` of the properties of an object; `PptpUser`,
`OpenvpnUser`, `OcservUser` and `SstpUser` are written alike. -/
def userJson (draws : UserDraws) (fields : JsonObject) : JsonObject :=
  [("id", property fields "id" (.str (randomSeq 8 false draws.id))),
    ("password",
      property fields "password" (.str (randomSeq 10 true draws.password))),
    ("email", property fields "email" (.str (randomSeq 9 false draws.email))),
    ("enable", coalesce (.bool true) (fields.get "enable")),
    ("expiryTime", coalesce (.int 0) (fields.get "expiryTime")),
    ("tgId", coalesce (.str "") (fields.get "tgId")),
    ("subId", coalesce (.str "") (fields.get "subId")),
    ("comment", coalesce (.str "") (fields.get "comment")),
    ("totalGB", coalesce (.int 0) (fields.get "totalGB")),
    ("limitIp",
      coalesce (coalesce (.int 0) (fields.get "ipLimit"))
        (fields.get "limitIp")),
    ("reset", coalesce (.int 0) (fields.get "reset"))] ++
  optionalProperty fields "created_at" ++ optionalProperty fields "updated_at"

/-- The properties of a value that is not null. -/
def properties : Json → Option JsonObject
  | .null => none
  | .obj fields => some fields
  | _ => some []

def userJsons (draws : Nat → UserDraws) : Nat → List Json → Option (List Json)
  | _, [] => some []
  | index, item :: rest => do
      let fields ← properties item
      let others ← userJsons draws (index + 1) rest
      some (.obj (userJson (draws index) fields) :: others)

/-- `fromJson` and `toJsonArray` of the users, given the clients entry. -/
def usersJson (draws : Nat → UserDraws) : Option Json → Option (List Json)
  | none => some []
  | some (.arr items) => userJsons draws 0 items
  | some _ => some [.obj (userJson (draws 0) [])]

def truthy : Json → Bool
  | .null => false
  | .bool value => value
  | .int value => value ≠ 0
  | .str text => text ≠ ""
  | _ => true

/-- The ranges, seeded from the legacy single range. -/
def seededRanges (fields : JsonObject) : List Json :=
  let ipRanges := arrayOrEmpty (fields.get "ipRanges")
  if ipRanges.isEmpty && truthy (fields.get "ipRange") then
    [fields.get "ipRange"]
  else ipRanges

/-- `r && r.trim() !== ""`: only a text can be trimmed. -/
def rangeKept (range : Json) : Option Bool :=
  match range with
  | .str text => some (!isBlank text)
  | other => if truthy other then none else some false

def keptRanges : List Json → Option (List Json)
  | [] => some []
  | range :: rest => do
      let kept ← rangeKept range
      let others ← keptRanges rest
      some (if kept then range :: others else others)

/-- The properties that the L2TP and the PPTP form have in common. -/
def pppJson (ipRanges clients : List Json) (fields : JsonObject) : JsonObject :=
  [("clientToClient", coalesce (.bool false) (fields.get "clientToClient")),
    ("crossInbound", coalesce (.bool false) (fields.get "crossInbound")),
    ("ipRanges", .arr ipRanges),
    ("dns1", coalesce (.str "8.8.8.8") (fields.get "dns1")),
    ("dns2", coalesce (.str "8.8.4.4") (fields.get "dns2")),
    ("mtu", coalesce (.int 1400) (fields.get "mtu")),
    ("userLimit", coalesce (.int 1) (fields.get "userLimit")),
    ("userLimitStrategy",
      coalesce (.str "accept") (fields.get "userLimitStrategy")),
    ("clients", .arr clients)]

def l2tpForm (draws : Draws) (fields : JsonObject) : Option JsonObject := do
  let ipRanges ← keptRanges (seededRanges fields)
  let clients ← usersJson draws.user (fields.get? "clients")
  some ([("ipsecEnable", coalesce (.bool true) (fields.get "ipsecEnable")),
    ("ipsecPsk",
      property fields "ipsecPsk" (.str (randomSeq 16 true draws.psk))),
    ("allowRaw", coalesce (.bool false) (fields.get "allowRaw"))] ++
    pppJson ipRanges clients fields)

def pptpForm (draws : Draws) (fields : JsonObject) : Option JsonObject := do
  let ipRanges ← keptRanges (seededRanges fields)
  let clients ← usersJson draws.user (fields.get? "clients")
  some (pppJson ipRanges clients fields)

def ciphersAead : List String :=
  ["AES-256-GCM", "AES-192-GCM", "AES-128-GCM", "CHACHA20-POLY1305"]

def ciphersCbc : List String :=
  ["AES-256-CBC", "AES-192-CBC", "AES-128-CBC", "CAMELLIA-256-CBC",
    "CAMELLIA-192-CBC", "CAMELLIA-128-CBC", "ARIA-256-CBC", "ARIA-192-CBC",
    "ARIA-128-CBC", "SM4-CBC", "SEED-CBC", "BF-CBC", "CAST5-CBC",
    "DES-EDE3-CBC", "DES-EDE-CBC", "DES-CBC", "RC2-CBC", "RC2-64-CBC",
    "RC2-40-CBC"]

def allCiphers : List String := ciphersAead ++ ciphersCbc

/-- `CIPHER_MODES`, in the order in which a mode is looked for. -/
def newDevices : List String :=
  ["AES-256-GCM", "AES-128-GCM", "CHACHA20-POLY1305"]

def oldDevices : List String :=
  ["AES-256-CBC", "AES-192-CBC", "AES-128-CBC", "BF-CBC", "DES-EDE3-CBC"]

def allDevices : List String := newDevices ++ oldDevices

def isText (text : String) : Json → Bool
  | .str other => text = other
  | _ => false

def detectCipherMode (ciphers : List Json) : String :=
  let canonical := allCiphers.filter fun name => ciphers.any (isText name)
  if canonical = newDevices then "new"
  else if canonical = oldDevices then "old"
  else if canonical = allDevices then "all"
  else "custom"

def formCiphers (fields : JsonObject) : List Json :=
  match fields.get "ciphers" with
  | .arr items => items
  | _ => allDevices.map .str

def openvpnJson (clients : List Json) (fields : JsonObject) : JsonObject :=
  [("udpEnable", coalesce (.bool true) (fields.get "udpEnable")),
    ("tcpEnable", coalesce (.bool true) (fields.get "tcpEnable")),
    ("tcpPort", coalesce (.int 1194) (fields.get "tcpPort")),
    ("separatePorts", coalesce (.bool true) (fields.get "separatePorts")),
    ("tlsUseFile", coalesce (.bool false) (fields.get "tlsUseFile")),
    ("caCertFile", coalesce (.str "") (fields.get "caCertFile")),
    ("serverCertFile", coalesce (.str "") (fields.get "serverCertFile")),
    ("serverKeyFile", coalesce (.str "") (fields.get "serverKeyFile")),
    ("tlsCryptFile", coalesce (.str "") (fields.get "tlsCryptFile")),
    ("dns1", coalesce (.str "8.8.8.8") (fields.get "dns1")),
    ("dns2", coalesce (.str "8.8.4.4") (fields.get "dns2")),
    ("mtu", coalesce (.int 1500) (fields.get "mtu")),
    ("caCert", coalesce (.str "") (fields.get "caCert")),
    ("caKey", coalesce (.str "") (fields.get "caKey")),
    ("serverCert", coalesce (.str "") (fields.get "serverCert")),
    ("serverKey", coalesce (.str "") (fields.get "serverKey")),
    ("tlsCrypt", coalesce (.str "") (fields.get "tlsCrypt")),
    ("clients", .arr clients),
    ("externalProxy", .arr (arrayOrEmpty (fields.get "externalProxy"))),
    ("cipherMode", coalesce (.str (detectCipherMode (formCiphers fields)))
      (fields.get "cipherMode")),
    ("ciphers", .arr (formCiphers fields)),
    ("clientToClient", coalesce (.bool false) (fields.get "clientToClient")),
    ("crossInbound", coalesce (.bool false) (fields.get "crossInbound")),
    ("ipRanges", .arr (arrayOrEmpty (fields.get "ipRanges"))),
    ("userLimit", coalesce (.int 1) (fields.get "userLimit")),
    ("userLimitStrategy",
      coalesce (.str "accept") (fields.get "userLimitStrategy"))]

def openvpnForm (draws : Draws) (fields : JsonObject) : Option JsonObject := do
  let clients ← usersJson draws.user (fields.get? "clients")
  some (openvpnJson clients fields)

/-- The text of `OcservSettings` and of `SstpSettings`. -/
def tlsJson (clients : List Json) (fields : JsonObject) : JsonObject :=
  [("dns1", coalesce (.str "8.8.8.8") (fields.get "dns1")),
    ("dns2", coalesce (.str "8.8.4.4") (fields.get "dns2")),
    ("mtu", coalesce (.int 1420) (fields.get "mtu")),
    ("tlsUseFile", coalesce (.bool false) (fields.get "tlsUseFile")),
    ("certificateFile", coalesce (.str "") (fields.get "certificateFile")),
    ("keyFile", coalesce (.str "") (fields.get "keyFile")),
    ("certificate", coalesce (.str "") (fields.get "certificate")),
    ("key", coalesce (.str "") (fields.get "key")),
    ("caCert", coalesce (.str "") (fields.get "caCert")),
    ("clients", .arr clients),
    ("clientToClient", coalesce (.bool false) (fields.get "clientToClient")),
    ("crossInbound", coalesce (.bool false) (fields.get "crossInbound")),
    ("ipRanges", .arr (arrayOrEmpty (fields.get "ipRanges"))),
    ("userLimit", coalesce (.int 1) (fields.get "userLimit")),
    ("userLimitStrategy",
      coalesce (.str "accept") (fields.get "userLimitStrategy"))]

def ocservForm (draws : Draws) (fields : JsonObject) : Option JsonObject := do
  let clients ← usersJson draws.user (fields.get? "clients")
  some (tlsJson clients fields)

def sstpForm (draws : Draws) (fields : JsonObject) : Option JsonObject := do
  let clients ← usersJson draws.user (fields.get? "clients")
  some (tlsJson clients fields)

def form : VpnProtocol → Draws → JsonObject → Option JsonObject
  | .l2tp => l2tpForm
  | .pptp => pptpForm
  | .openvpn => openvpnForm
  | .openconnect => ocservForm
  | .sstp => sstpForm

/-- `Inbound.Settings.fromJson(protocol, settings).toJson()`, with `none` for a
`TypeError`. -/
def reopen (backend : VpnProtocol) (draws : Draws) (settings : Json) :
    Option JsonObject :=
  (properties settings).bind (form backend draws)

end VpnUi.Form
