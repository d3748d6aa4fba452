import Mathlib.Logic.Function.Basic
import VpnUi.Address.Text

namespace VpnUi.Settings

open Address

/-! The settings that the panel's form edits, as one record, and the check
before they are saved. -/

/-- The Go types of the fields. -/
inductive Kind
  | text
  | number
  | flag
  deriving DecidableEq

/-- An `int` of 64 bits. -/
abbrev GoInt :=
  { value : Int //
    -9223372036854775808 ≤ value ∧ value ≤ 9223372036854775807 }

abbrev Kind.Value : Kind → Type
  | .text => String
  | .number => GoInt
  | .flag => Bool

/-- The fields of `entity.AllSetting`, under their JSON names. -/
inductive Field
  | webListen | webDomain | webPort | webCertFile | webKeyFile | webBasePath
  | sessionMaxAge | pageSize | expireDiff | trafficDiff | remarkModel
  | datepicker | tgBotEnable | tgBotToken | tgBotProxy | tgBotAPIServer
  | tgBotChatId | tgRunTime | tgBotBackup | tgBotLoginNotify | tgCpu | tgLang
  | timeLocation | twoFactorEnable | twoFactorToken | subEnable | subJsonEnable
  | subTitle | subSupportUrl | subProfileUrl | subAnnounce | subEnableRouting
  | subRoutingRules | subListen | subPort | subPath | subDomain | subCertFile
  | subKeyFile | subUpdates | externalTrafficInformEnable
  | externalTrafficInformURI | subEncrypt | subShowInfo | subURI | subJsonPath
  | subJsonURI | subClashEnable | subClashPath | subClashURI | subJsonFragment
  | subJsonNoises | subJsonMux | subJsonRules | ldapEnable | ldapHost
  | ldapPort | ldapUseTLS | ldapBindDN | ldapPassword | ldapBaseDN
  | ldapUserFilter | ldapUserAttr | ldapVlessField | ldapSyncCron
  | ldapFlagField | ldapTruthyValues | ldapInvertFlag | ldapInboundTags
  | ldapAutoCreate | ldapAutoDelete | ldapDefaultTotalGB
  | ldapDefaultExpiryDays | ldapDefaultLimitIP
  deriving DecidableEq

namespace Field

/-- In the order of the struct. -/
def all : List Field :=
  [.webListen, .webDomain, .webPort, .webCertFile, .webKeyFile, .webBasePath,
    .sessionMaxAge, .pageSize, .expireDiff, .trafficDiff, .remarkModel,
    .datepicker, .tgBotEnable, .tgBotToken, .tgBotProxy, .tgBotAPIServer,
    .tgBotChatId, .tgRunTime, .tgBotBackup, .tgBotLoginNotify, .tgCpu, .tgLang,
    .timeLocation, .twoFactorEnable, .twoFactorToken, .subEnable,
    .subJsonEnable, .subTitle, .subSupportUrl, .subProfileUrl, .subAnnounce,
    .subEnableRouting, .subRoutingRules, .subListen, .subPort, .subPath,
    .subDomain, .subCertFile, .subKeyFile, .subUpdates,
    .externalTrafficInformEnable, .externalTrafficInformURI, .subEncrypt,
    .subShowInfo, .subURI, .subJsonPath, .subJsonURI, .subClashEnable,
    .subClashPath, .subClashURI, .subJsonFragment, .subJsonNoises, .subJsonMux,
    .subJsonRules, .ldapEnable, .ldapHost, .ldapPort, .ldapUseTLS, .ldapBindDN,
    .ldapPassword, .ldapBaseDN, .ldapUserFilter, .ldapUserAttr,
    .ldapVlessField, .ldapSyncCron, .ldapFlagField, .ldapTruthyValues,
    .ldapInvertFlag, .ldapInboundTags, .ldapAutoCreate, .ldapAutoDelete,
    .ldapDefaultTotalGB, .ldapDefaultExpiryDays, .ldapDefaultLimitIP]

def key : Field → String
  | .webListen => "webListen"
  | .webDomain => "webDomain"
  | .webPort => "webPort"
  | .webCertFile => "webCertFile"
  | .webKeyFile => "webKeyFile"
  | .webBasePath => "webBasePath"
  | .sessionMaxAge => "sessionMaxAge"
  | .pageSize => "pageSize"
  | .expireDiff => "expireDiff"
  | .trafficDiff => "trafficDiff"
  | .remarkModel => "remarkModel"
  | .datepicker => "datepicker"
  | .tgBotEnable => "tgBotEnable"
  | .tgBotToken => "tgBotToken"
  | .tgBotProxy => "tgBotProxy"
  | .tgBotAPIServer => "tgBotAPIServer"
  | .tgBotChatId => "tgBotChatId"
  | .tgRunTime => "tgRunTime"
  | .tgBotBackup => "tgBotBackup"
  | .tgBotLoginNotify => "tgBotLoginNotify"
  | .tgCpu => "tgCpu"
  | .tgLang => "tgLang"
  | .timeLocation => "timeLocation"
  | .twoFactorEnable => "twoFactorEnable"
  | .twoFactorToken => "twoFactorToken"
  | .subEnable => "subEnable"
  | .subJsonEnable => "subJsonEnable"
  | .subTitle => "subTitle"
  | .subSupportUrl => "subSupportUrl"
  | .subProfileUrl => "subProfileUrl"
  | .subAnnounce => "subAnnounce"
  | .subEnableRouting => "subEnableRouting"
  | .subRoutingRules => "subRoutingRules"
  | .subListen => "subListen"
  | .subPort => "subPort"
  | .subPath => "subPath"
  | .subDomain => "subDomain"
  | .subCertFile => "subCertFile"
  | .subKeyFile => "subKeyFile"
  | .subUpdates => "subUpdates"
  | .externalTrafficInformEnable => "externalTrafficInformEnable"
  | .externalTrafficInformURI => "externalTrafficInformURI"
  | .subEncrypt => "subEncrypt"
  | .subShowInfo => "subShowInfo"
  | .subURI => "subURI"
  | .subJsonPath => "subJsonPath"
  | .subJsonURI => "subJsonURI"
  | .subClashEnable => "subClashEnable"
  | .subClashPath => "subClashPath"
  | .subClashURI => "subClashURI"
  | .subJsonFragment => "subJsonFragment"
  | .subJsonNoises => "subJsonNoises"
  | .subJsonMux => "subJsonMux"
  | .subJsonRules => "subJsonRules"
  | .ldapEnable => "ldapEnable"
  | .ldapHost => "ldapHost"
  | .ldapPort => "ldapPort"
  | .ldapUseTLS => "ldapUseTLS"
  | .ldapBindDN => "ldapBindDN"
  | .ldapPassword => "ldapPassword"
  | .ldapBaseDN => "ldapBaseDN"
  | .ldapUserFilter => "ldapUserFilter"
  | .ldapUserAttr => "ldapUserAttr"
  | .ldapVlessField => "ldapVlessField"
  | .ldapSyncCron => "ldapSyncCron"
  | .ldapFlagField => "ldapFlagField"
  | .ldapTruthyValues => "ldapTruthyValues"
  | .ldapInvertFlag => "ldapInvertFlag"
  | .ldapInboundTags => "ldapInboundTags"
  | .ldapAutoCreate => "ldapAutoCreate"
  | .ldapAutoDelete => "ldapAutoDelete"
  | .ldapDefaultTotalGB => "ldapDefaultTotalGB"
  | .ldapDefaultExpiryDays => "ldapDefaultExpiryDays"
  | .ldapDefaultLimitIP => "ldapDefaultLimitIP"

def kind : Field → Kind
  | .webPort | .sessionMaxAge | .pageSize | .expireDiff | .trafficDiff
  | .tgCpu | .subPort | .subUpdates | .ldapPort | .ldapDefaultTotalGB
  | .ldapDefaultExpiryDays | .ldapDefaultLimitIP => .number
  | .tgBotEnable | .tgBotBackup | .tgBotLoginNotify | .twoFactorEnable
  | .subEnable | .subJsonEnable | .subEnableRouting
  | .externalTrafficInformEnable | .subEncrypt | .subShowInfo
  | .subClashEnable | .ldapEnable | .ldapUseTLS | .ldapInvertFlag
  | .ldapAutoCreate | .ldapAutoDelete => .flag
  | _ => .text

end Field

/-- `entity.AllSetting`. -/
abbrev AllSetting := (field : Field) → field.kind.Value

namespace AllSetting

def webListen (s : AllSetting) : String := s Field.webListen

def subListen (s : AllSetting) : String := s Field.subListen

def webPort (s : AllSetting) : GoInt := s Field.webPort

def subPort (s : AllSetting) : GoInt := s Field.subPort

def webCertFile (s : AllSetting) : String := s Field.webCertFile

def webKeyFile (s : AllSetting) : String := s Field.webKeyFile

def subCertFile (s : AllSetting) : String := s Field.subCertFile

def subKeyFile (s : AllSetting) : String := s Field.subKeyFile

def timeLocation (s : AllSetting) : String := s Field.timeLocation

end AllSetting

/-- `net.ParseIP(text) != nil`: the first '.', ':' or '%' decides the syntax,
and an address with a zone is refused. -/
def validIP (text : String) : Bool :=
  match text.toList.find? fun letter => ['.', ':', '%'].contains letter with
  | some '.' => (parseIPv4? text.toList).isSome
  | some ':' =>
      !text.toList.contains '%' && (parseIPv6? text.toList).isSome
  | _ => false

/-- A "/" before the path and one after it, where they are not there. -/
def withSlashes (path : String) : String :=
  let path := if path.toList.head? = some '/' then path else "/" ++ path
  if path.toList.getLast? = some '/' then path else path ++ "/"

/-- The paths, in the order they are completed. -/
inductive PathField
  | webBasePath
  | subPath
  | subJsonPath
  | subClashPath
  deriving DecidableEq

def PathField.field : PathField → Field
  | .webBasePath => .webBasePath
  | .subPath => .subPath
  | .subJsonPath => .subJsonPath
  | .subClashPath => .subClashPath

def PathField.all : List PathField :=
  [.webBasePath, .subPath, .subJsonPath, .subClashPath]

namespace AllSetting

def path (s : AllSetting) : PathField → String
  | .webBasePath => s Field.webBasePath
  | .subPath => s Field.subPath
  | .subJsonPath => s Field.subJsonPath
  | .subClashPath => s Field.subClashPath

def setPath (s : AllSetting) (place : PathField) (path : String) : AllSetting :=
  match place with
  | .webBasePath => Function.update s Field.webBasePath path
  | .subPath => Function.update s Field.subPath path
  | .subJsonPath => Function.update s Field.subJsonPath path
  | .subClashPath => Function.update s Field.subClashPath path

def completePath (s : AllSetting) (place : PathField) : AllSetting :=
  s.setPath place (withSlashes (s.path place))

end AllSetting

/-- What the check asks of the machine: the error of `tls.LoadX509KeyPair`, if
any, and whether `time.LoadLocation` knows a zone. -/
structure Host where
  loadX509KeyPair : String → String → Option String
  loadLocation : String → Bool

/-- `fmt.Sprintln`. -/
def sprintln (operands : List String) : String :=
  " ".intercalate operands ++ "\n"

def validPort (port : GoInt) : Bool := 0 < port.val && port.val ≤ 65535

def checkListen (message listen : String) : Except String Unit :=
  if listen ≠ "" ∧ validIP listen = false then
    .error (sprintln [message, listen])
  else .ok ()

def checkPort (message : String) (port : GoInt) : Except String Unit :=
  if validPort port = false then
    .error (sprintln [message, toString port.val])
  else .ok ()

def checkKeyPair (host : Host) (certFile keyFile : String) :
    Except String Unit :=
  if certFile ≠ "" ∨ keyFile ≠ "" then
    match host.loadX509KeyPair certFile keyFile with
    | some err =>
        .error ("cert file <" ++ certFile ++ "> or key file <" ++ keyFile ++
          "> invalid: " ++ err)
    | none => .ok ()
  else .ok ()

def AllSetting.checkApart (s : AllSetting) : Except String Unit :=
  if s.subPort = s.webPort ∧ s.webListen = s.subListen then
    .error (sprintln ["Sub and Web could not use same ip:port, ", s.subListen,
      ":", toString s.subPort.val, " & ", s.webListen, ":",
      toString s.webPort.val])
  else .ok ()

def checkLocation (host : Host) (timeLocation : String) : Except String Unit :=
  if host.loadLocation timeLocation = false then
    .error (sprintln ["time location not exist:", timeLocation])
  else .ok ()

/-- The record is changed in place: what a successful check returns is what is
saved. -/
def AllSetting.checkValid (host : Host) (s : AllSetting) :
    Except String AllSetting := do
  checkListen "web listen is not valid ip:" s.webListen
  checkListen "Sub listen is not valid ip:" s.subListen
  checkPort "web port is not a valid port:" s.webPort
  checkPort "Sub port is not a valid port:" s.subPort
  s.checkApart
  checkKeyPair host s.webCertFile s.webKeyFile
  checkKeyPair host s.subCertFile s.subKeyFile
  let s := PathField.all.foldl AllSetting.completePath s
  checkLocation host s.timeLocation
  return s

end VpnUi.Settings
