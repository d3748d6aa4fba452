import VpnUi.Foundation.KeyMap
import VpnUi.Settings.AllSetting

namespace VpnUi.Settings

open Address
open Foundation

/-! The rows that keep the settings as text, one for each key that was saved,
and what the panel reads from them. -/

/-- `model.Setting`: a key has one row, which a later save replaces. -/
abbrev Rows := KeyMap String String

/-- The defaults that are written out. -/
def fixedDefaults : List (String × String) :=
  [("webListen", ""), ("webDomain", ""), ("webPort", "2083"),
    ("webCertFile", ""), ("webKeyFile", ""), ("webBasePath", "/"),
    ("sessionMaxAge", "360"), ("pageSize", "25"), ("expireDiff", "0"),
    ("trafficDiff", "0"), ("remarkModel", "-ieo"), ("timeLocation", "Local"),
    ("tgBotEnable", "false"), ("tgBotToken", ""), ("tgBotProxy", ""),
    ("tgBotAPIServer", ""), ("tgBotChatId", ""), ("tgRunTime", "@daily"),
    ("tgBotBackup", "false"), ("tgBotLoginNotify", "true"), ("tgCpu", "80"),
    ("tgLang", "en-US"), ("twoFactorEnable", "false"), ("twoFactorToken", ""),
    ("systemdServiceName", "vpn-ui"), ("subEnable", "false"),
    ("subJsonEnable", "false"), ("subTitle", ""), ("subSupportUrl", ""),
    ("subProfileUrl", ""), ("subAnnounce", ""), ("subEnableRouting", "true"),
    ("subRoutingRules", ""), ("subListen", ""), ("subPort", "2097"),
    ("subPath", "/sub/"), ("subDomain", ""), ("subCertFile", ""),
    ("subKeyFile", ""), ("subUpdates", "12"), ("subEncrypt", "true"),
    ("subShowInfo", "true"), ("subURI", ""), ("subJsonPath", "/json/"),
    ("subJsonURI", ""), ("subClashEnable", "true"),
    ("subClashPath", "/clash/"), ("subClashURI", ""), ("subJsonFragment", ""),
    ("subJsonNoises", ""), ("subJsonMux", ""), ("subJsonRules", ""),
    ("datepicker", "gregorian"), ("warp", ""), ("nord", ""),
    ("externalTrafficInformEnable", "false"),
    ("externalTrafficInformURI", ""),
    ("xrayOutboundTestUrl", "https://www.google.com/generate_204"),
    ("ldapEnable", "false"), ("ldapHost", ""), ("ldapPort", "389"),
    ("ldapUseTLS", "false"), ("ldapBindDN", ""), ("ldapPassword", ""),
    ("ldapBaseDN", ""), ("ldapUserFilter", "(objectClass=person)"),
    ("ldapUserAttr", "mail"), ("ldapVlessField", "vless_enabled"),
    ("ldapSyncCron", "@every 1m"), ("ldapFlagField", ""),
    ("ldapTruthyValues", "true,1,yes,on"), ("ldapInvertFlag", "false"),
    ("ldapInboundTags", ""), ("ldapAutoCreate", "false"),
    ("ldapAutoDelete", "false"), ("ldapDefaultTotalGB", "0"),
    ("ldapDefaultExpiryDays", "0"), ("ldapDefaultLimitIP", "0"),
    ("vpnProvisioned", "false"), ("provisionedProtocols", "")]

/-- The map of the defaults, in no particular order: the secret is drawn when
the process starts, and the template is a file of its own. -/
def defaultValueMap (secret xrayTemplateConfig : String) :
    List (String × String) :=
  ("secret", secret) :: ("xrayTemplateConfig", xrayTemplateConfig) ::
    fixedDefaults

/-- `strconv.ParseInt(value, 10, 64)` and `strconv.Atoi`. -/
def parseInt (value : String) : Except String GoInt :=
  match atoi? value.toList with
  | none => .error "invalid syntax"
  | some number =>
      if bounds : -9223372036854775808 ≤ number ∧
          number ≤ 9223372036854775807 then
        .ok ⟨number, bounds⟩
      else .error "value out of range"

def parseBool (value : String) : Except String Bool :=
  if ["1", "t", "T", "true", "TRUE", "True"].contains value then .ok true
  else if ["0", "f", "F", "false", "FALSE", "False"].contains value then
    .ok false
  else .error "invalid syntax"

/-- `fmt.Sprint` of a field. -/
def Kind.print : (kind : Kind) → kind.Value → String
  | .text, value => value
  | .number, value => toString (value : GoInt).val
  | .flag, value => toString (value : Bool)

/-- How `GetAllSetting` reads the text of a field. -/
def Kind.parse : (kind : Kind) → String → Except String kind.Value
  | .text, value => .ok value
  | .number, value => parseInt value
  | .flag, value => .ok (value == "true")

/-- `getString`, `getInt` and `getBool` after the row or the default. -/
def Kind.convert : (kind : Kind) → String → Except String kind.Value
  | .text, value => .ok value
  | .number, value => parseInt value
  | .flag, value => parseBool value

/-- `&entity.AllSetting{}`. -/
def AllSetting.zero : AllSetting := fun field =>
  match field.kind with
  | .text => ""
  | .number => ⟨0, by decide⟩
  | .flag => false

def AllSetting.setSetting (s : AllSetting) (setting : String × String) :
    Except String AllSetting :=
  match Field.all.find? fun field => field.key = setting.1 with
  | none => .ok s
  | some field =>
      (field.kind.parse setting.2).map fun value =>
        Function.update s field value

/-- `common.Combine`. -/
def combine (errs : List String) : Option String :=
  if errs = [] then none
  else some ("multierr: " ++ String.join (errs.map (· ++ " | ")))

namespace Rows

variable (rows : Rows) (defaults : List (String × String))

def saveSetting (key value : String) : Rows := rows.insert key value

def getString (key : String) : Except String String :=
  match rows.lookup key with
  | some value => .ok value
  | none =>
      match defaults.find? fun entry => entry.1 = key with
      | some entry => .ok entry.2
      | none => .error ("key <" ++ key ++ "> not in defaultValueMap")

/-- The getter of a field, by its type. -/
def getField (field : Field) : Except String field.kind.Value :=
  rows.getString defaults field.key >>= field.kind.convert

def setField (field : Field) (value : field.kind.Value) : Rows :=
  rows.saveSetting field.key (field.kind.print value)

def setBasePath (basePath : String) : Rows :=
  rows.saveSetting "webBasePath" (withSlashes basePath)

def getBasePath : Except String String :=
  (rows.getString defaults "webBasePath").map withSlashes

/-- The secret, and the rows with it: a default is saved when it is read. -/
def getSecret (saveFails : Bool) : Except String String × Rows :=
  let secret := rows.getString defaults "secret"
  let fallback := (defaults.find? fun entry => entry.1 = "secret").map (·.2)
  match secret with
  | .error err => (.error err, rows)
  | .ok secret =>
      if fallback = some secret ∧ saveFails = false then
        (.ok secret, rows.saveSetting "secret" secret)
      else (.ok secret, rows)

/-- The rows come in the order `settings`, and the defaults in the order in
which the map is walked. -/
def getAllSetting (settings walk : List (String × String)) :
    Except String AllSetting := do
  let settings := settings.filter fun setting =>
    setting.1 ≠ "xrayTemplateConfig"
  let keyMap := settings.map (·.1)
  let allSetting ← settings.foldlM AllSetting.setSetting AllSetting.zero
  (walk.filter fun entry => !keyMap.contains entry.1).foldlM
    AllSetting.setSetting allSetting

def entryList : List (String × String) :=
  rows.entries.map fun entry => (entry.1, entry.2)

def resetSettings : Rows := ∅

/-- A save of `UpdateAllSetting`, and the error it may end in. -/
def saveFieldOf (allSetting : AllSetting) (field : Field)
    (err : Option String) : Rows :=
  match err with
  | none => rows.setField field (allSetting field)
  | some _ => rows

/-- `UpdateAllSetting` with nothing in between: a save that fails leaves its
field, and the loop goes on. -/
def updateAllSetting (host : Host) (allSetting : AllSetting)
    (errs : Field → Option String) : Rows × Option String :=
  match allSetting.checkValid host with
  | .error err => (rows, some err)
  | .ok checked =>
      (Field.all.foldl (fun rows field =>
          rows.saveFieldOf checked field (errs field)) rows,
        combine (Field.all.filterMap errs))

end Rows

end VpnUi.Settings
