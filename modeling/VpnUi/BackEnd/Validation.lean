import VpnUi.BackEnd.Generators
import VpnUi.Form.Reopen

namespace VpnUi.BackEnd

open Foundation Panel Address

/-! The checks before an OpenVPN or an SSTP inbound is saved, in the panel and
in the browser, against what the generated configuration needs. -/

def socketPort : Form.Socket → Int
  | .udp port => port
  | .tcp port => port

/-- The files of its own directory that a configuration names. -/
def namedFiles : VpnProtocol → List String
  | .openvpn => ["ca.crt", "server.crt", "server.key", "tc.key"]
  | _ => ["server.crt", "server.key"]

def namedPaths : VpnProtocol → Reading → CertPaths
  | .openvpn => ovpnCertPaths
  | _ => certPaths

/-- Every path is given, or every file is written with some content. -/
def Supplied (backend : VpnProtocol) (id : Int) (writes : List Write) :
    CertPaths → Prop
  | .operator paths => "" ∉ paths
  | .configDir => ∀ name ∈ namedFiles backend, ∃ text,
      (configDir backend id name, .pem text) ∈ writes ∧ trimText text ≠ ""

/-- The generated configuration lets the daemon listen. -/
def Startable (host : Host) (backend : VpnProtocol) (row : Inbound) : Prop :=
  ∃ reading, (serve host backend row).reading = some reading ∧
    reading.view.sockets ≠ [] ∧
    (∀ socket ∈ reading.view.sockets, validPort (socketPort socket) = true) ∧
    Supplied backend row.id
      (generateAllConfigs [serve host backend row] backend)
      (namedPaths backend reading)

/-- An inbound in the form of the browser, with the settings that `toJson`
writes.  An empty port field is no number. -/
structure InboundForm where
  port : Option Int
  settings : JsonObject

/-- `Number.isInteger(v) && v >= 1 && v <= 65535`. -/
def isPort : Json → Bool
  | .int port => 1 ≤ port ∧ port ≤ 65535
  | _ => false

def portField (port : Option Int) : Json := (port.map Json.int).getD .null

def validateInboundForm (backend : VpnProtocol) (form : InboundForm) : Bool :=
  match backend with
  | .openvpn =>
      let udpEnable := Form.truthy (form.settings.get "udpEnable")
      let tcpEnable := Form.truthy (form.settings.get "tcpEnable")
      if !udpEnable && !tcpEnable then false
      else if udpEnable && !isPort (portField form.port) then false
      else if tcpEnable && !isPort (form.settings.get "tcpPort") then false
      else if !Form.truthy (form.settings.get "caCert") ||
          !Form.truthy (form.settings.get "serverCert") then false
      else true
  | _ => isPort (portField form.port)

/-- The inbound that is posted: a port that is left out is 0. -/
def InboundForm.posted (form : InboundForm) (backend : VpnProtocol)
    (row : Inbound) : Inbound :=
  { row with
    port := form.port.getD 0
    protocol := .vpn backend
    settings := .parsed (.obj form.settings) }

section Fields

variable (fields : JsonObject)

def textField (key : String) : String := (fields.get key).text.value

def Blank (key : String) : Prop := trimText (textField fields key) = ""

instance (key : String) : Decidable (Blank fields key) :=
  inferInstanceAs (Decidable (_ = _))

def toggle (key : String) : Option Bool := (fields.get key).optionalFlag.value

def ovpnPorts : OpenVpnPorts := (OpenVpnPorts.decode fields).value

end Fields

/-! What each side asks for, in terms of the settings. -/

/-- The checks of OpenVPN. -/
structure OvpnChecks (port : Int) (settings : JsonText) : Prop where
  parses : (settings.decode OpenVpnConfig.decode).isSome
  enabled : toggle settings.fields "udpEnable" = some true ∨
    toggle settings.fields "tcpEnable" = some true
  udpPort : toggle settings.fields "udpEnable" = some true →
    validPort port = true
  tcpPort : toggle settings.fields "tcpEnable" = some true →
    validPort (ovpnPorts settings.fields).tcpPort = true
  caCert : ¬ Blank settings.fields "caCert"
  serverCert : ¬ Blank settings.fields "serverCert"

/-- What OpenVPN needs. -/
structure OvpnNeeds (port : Int) (settings : JsonText) : Prop where
  parses : (settings.decode (VpnSettings.decoder .openvpn)).isSome
  enabled : toggle settings.fields "udpEnable" ≠ some false ∨
    toggle settings.fields "tcpEnable" ≠ some false
  udpPort : toggle settings.fields "udpEnable" ≠ some false →
    validPort port = true
  tcpPort : toggle settings.fields "tcpEnable" ≠ some false →
    validPort ((ovpnPorts settings.fields).tcpListenPort port) = true
  paths : toggle settings.fields "tlsUseFile" = some true →
    ∀ key ∈ ["caCertFile", "serverCertFile", "serverKeyFile", "tlsCryptFile"],
      ¬ Blank settings.fields key
  texts : toggle settings.fields "tlsUseFile" ≠ some true →
    ∀ key ∈ ["caCert", "serverCert", "serverKey", "tlsCrypt"],
      ¬ Blank settings.fields key

/-- What the checks leave out. -/
structure OvpnLeftOut (port : Int) (settings : JsonText) : Prop where
  parses : (settings.decode (VpnSettings.decoder .openvpn)).isSome
  udpAbsent : toggle settings.fields "udpEnable" = none → validPort port = true
  tcpShared : toggle settings.fields "tcpEnable" ≠ some false →
    (ovpnPorts settings.fields).separatePorts = some false →
      validPort port = true
  tcpAbsent : toggle settings.fields "tcpEnable" = none →
    (ovpnPorts settings.fields).separatePorts ≠ some false →
      validPort (ovpnPorts settings.fields).tcpPortOrDefault = true
  paths : toggle settings.fields "tlsUseFile" = some true →
    ∀ key ∈ ["caCertFile", "serverCertFile", "serverKeyFile", "tlsCryptFile"],
      ¬ Blank settings.fields key
  texts : toggle settings.fields "tlsUseFile" ≠ some true →
    ¬ Blank settings.fields "serverKey" ∧ ¬ Blank settings.fields "tlsCrypt"

/-- What the checks ask for beyond need. -/
structure OvpnBeyond (settings : JsonText) : Prop where
  enabled : toggle settings.fields "udpEnable" = some true ∨
    toggle settings.fields "tcpEnable" = some true
  tcpPort : toggle settings.fields "tcpEnable" = some true →
    validPort (ovpnPorts settings.fields).tcpPort = true
  caCert : ¬ Blank settings.fields "caCert"
  serverCert : ¬ Blank settings.fields "serverCert"

/-- The checks of SSTP. -/
structure SstpChecks (port : Int) (settings : JsonText) : Prop where
  parses : (settings.decode SstpConfig.decode).isSome
  port : validPort port = true
  certificate : (toggle settings.fields "tlsUseFile" = some true ∧
      ¬ Blank settings.fields "certificateFile" ∧
        ¬ Blank settings.fields "keyFile") ∨
    (¬ Blank settings.fields "certificate" ∧ ¬ Blank settings.fields "key")

/-- What SSTP needs. -/
structure SstpNeeds (port : Int) (settings : JsonText) : Prop where
  parses : (settings.decode (VpnSettings.decoder .sstp)).isSome
  port : validPort (if port = 0 then 443 else port) = true
  paths : toggle settings.fields "tlsUseFile" = some true →
    ¬ Blank settings.fields "certificateFile" ∧
      ¬ Blank settings.fields "keyFile"
  texts : toggle settings.fields "tlsUseFile" ≠ some true →
    ¬ Blank settings.fields "certificate" ∧ ¬ Blank settings.fields "key"

structure SstpLeftOut (settings : JsonText) : Prop where
  parses : (settings.decode (VpnSettings.decoder .sstp)).isSome
  paths : toggle settings.fields "tlsUseFile" = some true →
    ¬ Blank settings.fields "certificateFile" ∧
      ¬ Blank settings.fields "keyFile"

/-- The checks of the browser. -/
structure OvpnFormChecks (form : InboundForm) : Prop where
  enabled : Form.truthy (form.settings.get "udpEnable") = true ∨
    Form.truthy (form.settings.get "tcpEnable") = true
  udpPort : Form.truthy (form.settings.get "udpEnable") = true →
    isPort (portField form.port) = true
  tcpPort : Form.truthy (form.settings.get "tcpEnable") = true →
    isPort (form.settings.get "tcpPort") = true
  caCert : Form.truthy (form.settings.get "caCert") = true
  serverCert : Form.truthy (form.settings.get "serverCert") = true

structure OvpnFormLeftOut (form : InboundForm) : Prop where
  parses : (OpenVpnConfig.decode form.settings).fits = true
  caCert : ¬ Blank form.settings "caCert"
  serverCert : ¬ Blank form.settings "serverCert"

structure SstpFormLeftOut (form : InboundForm) : Prop where
  parses : (SstpConfig.decode form.settings).fits = true
  certificate : (toggle form.settings "tlsUseFile" = some true ∧
      ¬ Blank form.settings "certificateFile" ∧
        ¬ Blank form.settings "keyFile") ∨
    (¬ Blank form.settings "certificate" ∧ ¬ Blank form.settings "key")

section Decode

variable {Value : Type*} {decode : JsonObject → Decoded Value}
  {settings : JsonText} {value : Value}

theorem decode_eq_some_iff :
    settings.decode decode = some value ↔
      settings.object?.isSome = true ∧ (decode settings.fields).fits = true ∧
        (decode settings.fields).value = value := by
  cases settings with
  | parsed json =>
      cases json <;>
        simp [JsonText.decode, Json.record, Decoded.strict_eq_some,
          JsonText.object?, JsonText.fields]
  | _ => simp [JsonText.decode, JsonText.object?]

theorem isSome_decode_iff :
    (settings.decode decode).isSome = true ↔
      settings.object?.isSome = true ∧ (decode settings.fields).fits = true := by
  rw [Option.isSome_iff_exists]
  simp only [decode_eq_some_iff, exists_and_left, exists_eq', and_true]

end Decode

section Reading

variable {host : Host} {backend : VpnProtocol} {row : Inbound} {id : Int}
  {name text : String} {texts : List (String × String)}

/-- What the service reads of a row whose settings parse. -/
def readingOf (host : Host) (backend : VpnProtocol) (row : Inbound) : Reading :=
  readSettings host backend row.port row.settings.fields

theorem reading_serve {reading : Reading} :
    (serve host backend row).reading = some reading ↔
      (row.settings.decode (VpnSettings.decoder backend)).isSome = true ∧
        readingOf host backend row = reading := by
  rw [isSome_decode_iff, and_assoc]
  exact decode_eq_some_iff

theorem startable_iff : Startable host backend row ↔
    (row.settings.decode (VpnSettings.decoder backend)).isSome = true ∧
      (readingOf host backend row).view.sockets ≠ [] ∧
      (∀ socket ∈ (readingOf host backend row).view.sockets,
        validPort (socketPort socket) = true) ∧
      Supplied backend row.id
        (generateAllConfigs [serve host backend row] backend)
        (namedPaths backend (readingOf host backend row)) := by
  unfold Startable
  simp only [reading_serve]
  constructor
  · rintro ⟨reading, ⟨parses, rfl⟩, rest⟩
    exact ⟨parses, rest⟩
  · rintro ⟨parses, rest⟩
    exact ⟨_, ⟨parses, rfl⟩, rest⟩

theorem not_blank_iff {fields : JsonObject} {keys : List String} :
    "" ∉ keys.map (fun key => trimText (textField fields key)) ↔
      ∀ key ∈ keys, ¬ Blank fields key := by
  rw [List.mem_map, not_exists]
  exact forall_congr' fun key => not_and

theorem mem_pemWrites :
    (configDir backend id name, FileContent.pem text) ∈
        pemWrites backend id texts ↔ (name, text) ∈ texts := by
  simp [pemWrites, configDir]

end Reading

section OpenVpn

variable {host : Host} {row : Inbound}

theorem flag_eq_true_iff {value : Json} :
    value.flag.value = true ↔ value.optionalFlag.value = some true := by
  cases value <;> simp [Json.flag, Json.optionalFlag]

theorem ite_error_eq_ok {condition : Prop} [Decidable condition]
    {error : PanelError} {rest : Except PanelError Unit} :
    (if condition then .error error else rest) = .ok () ↔
      ¬ condition ∧ rest = .ok () := by
  split
  next holds => exact iff_of_false nofun fun both => both.1 holds
  next fails => exact (and_iff_right fails).symm

theorem ovpn_checks_iff (kind : row.protocol = .vpn .openvpn) :
    validateInboundConfig row = .ok () ↔
      OvpnChecks row.port row.settings := by
  unfold validateInboundConfig
  rw [kind]
  dsimp only
  cases decoded : row.settings.decode OpenVpnConfig.decode with
  | none =>
      refine iff_of_false nofun fun checks => ?_
      have parses := checks.parses
      rw [decoded] at parses
      cases parses
  | some config =>
      obtain ⟨-, -, rfl⟩ := decode_eq_some_iff.mp decoded
      have udp := @flag_eq_true_iff (row.settings.fields.get "udpEnable")
      have tcp := @flag_eq_true_iff (row.settings.fields.get "tcpEnable")
      change (if _ then _ else if _ then _ else if _ then _ else if _ then _
        else _) = _ ↔ _
      simp only [ite_error_eq_ok, and_true]
      change ¬ (!(row.settings.fields.get "tcpEnable").flag.value &&
          !(row.settings.fields.get "udpEnable").flag.value) = true ∧
        ¬ ((row.settings.fields.get "udpEnable").flag.value &&
          !validPort row.port) = true ∧
        ¬ ((row.settings.fields.get "tcpEnable").flag.value &&
          !validPort (ovpnPorts row.settings.fields).tcpPort) = true ∧
        ¬ (Blank row.settings.fields "caCert" ∨
          Blank row.settings.fields "serverCert") ↔ _
      simp only [Bool.and_eq_true, Bool.not_eq_true', ← Bool.not_eq_true, udp,
        tcp, not_and, not_not, not_or]
      constructor
      · rintro ⟨enabled, udpPort, tcpPort, caCert, serverCert⟩
        exact ⟨by rw [decoded]; rfl, or_iff_not_imp_right.mpr enabled, udpPort,
          tcpPort, caCert, serverCert⟩
      · intro checks
        exact ⟨or_iff_not_imp_right.mp checks.enabled, checks.udpPort,
          checks.tcpPort, checks.caCert, checks.serverCert⟩

theorem ovpn_sockets : (readingOf host .openvpn row).view.sockets =
    (if toggle row.settings.fields "udpEnable" ≠ some false then
      [Form.Socket.udp row.port] else []) ++
    if toggle row.settings.fields "tcpEnable" ≠ some false then
      [Form.Socket.tcp
        ((ovpnPorts row.settings.fields).tcpListenPort row.port)]
    else [] := by
  have enabled : ∀ value : Option Bool,
      value.getD true = true ↔ value ≠ some false := by
    intro value
    cases value with
    | none => decide
    | some flag => cases flag <;> decide
  change (if (toggle row.settings.fields "udpEnable").getD true = true then _
      else _) ++
    (if (toggle row.settings.fields "tcpEnable").getD true = true then _
      else _) = _
  simp only [enabled]
  rfl

/-- The files of an inbound whose settings parse. -/
theorem mem_ovpnFiles {name text : String}
    (parses : (row.settings.decode (VpnSettings.decoder .openvpn)).isSome =
      true) :
    (configDir .openvpn row.id name, FileContent.pem text) ∈
        generateAllConfigs [serve host .openvpn row] .openvpn ↔
      toggle row.settings.fields "tlsUseFile" ≠ some true ∧ text ≠ "" ∧
        (name, text) ∈ ["ca.crt", "ca.key", "server.crt", "server.key",
          "tc.key"].zip (["caCert", "caKey", "serverCert", "serverKey",
            "tlsCrypt"].map (textField row.settings.fields)) := by
  have read : (serve host .openvpn row).reading =
      some (readingOf host .openvpn row) := reading_serve.mpr ⟨parses, rfl⟩
  have conf : (configDir .openvpn row.id name, FileContent.pem text) ∉
      (readingOf host .openvpn row).view.sockets.map fun socket =>
        (configDir .openvpn (serve host .openvpn row).id
            (serverConf (transport socket)),
          FileContent.openvpn (openvpnServer (serve host .openvpn row).id
            (readingOf host .openvpn row) socket)) := by
    intro member
    obtain ⟨socket, -, same⟩ := List.mem_map.mp member
    cases same
  change _ ∈ [serve host .openvpn row].flatMap openvpnWrites ↔ _
  rw [List.flatMap_singleton, openvpnWrites, read]
  change _ ∈ _ ++ ovpnCertFiles row.id (readingOf host .openvpn row) ↔ _
  rw [List.mem_append, or_iff_right conf, ovpnCertFiles]
  have mode : (readingOf host .openvpn row).view.tlsUseFile = true ↔
      toggle row.settings.fields "tlsUseFile" = some true := flag_eq_true_iff
  simp only [mode]
  split
  next file => simp [file]
  next inline =>
    rw [mem_pemWrites, List.mem_filter, decide_eq_true_eq, and_comm]
    exact (and_iff_right inline).symm

theorem ovpn_supplied_iff
    (parses : (row.settings.decode (VpnSettings.decoder .openvpn)).isSome =
      true) :
    Supplied .openvpn row.id
        (generateAllConfigs [serve host .openvpn row] .openvpn)
        (ovpnCertPaths (readingOf host .openvpn row)) ↔
      (toggle row.settings.fields "tlsUseFile" = some true →
        ∀ key ∈ ["caCertFile", "serverCertFile", "serverKeyFile",
          "tlsCryptFile"], ¬ Blank row.settings.fields key) ∧
      (toggle row.settings.fields "tlsUseFile" ≠ some true →
        ∀ key ∈ ["caCert", "serverCert", "serverKey", "tlsCrypt"],
          ¬ Blank row.settings.fields key) := by
  have mode : (readingOf host .openvpn row).view.tlsUseFile = true ↔
      toggle row.settings.fields "tlsUseFile" = some true := flag_eq_true_iff
  have written : ∀ text : String,
      (¬ text = "" ∧ ¬ trimText text = "") ↔ ¬ trimText text = "" := by
    intro text
    apply and_iff_right_of_imp
    rintro trimmed rfl
    exact trimmed rfl
  by_cases file : toggle row.settings.fields "tlsUseFile" = some true
  · rw [ovpnCertPaths, if_pos (mode.mpr file)]
    change "" ∉ ["caCertFile", "serverCertFile", "serverKeyFile",
      "tlsCryptFile"].map (fun key => trimText (textField row.settings.fields
        key)) ↔ _
    rw [not_blank_iff]
    exact ⟨fun paths => ⟨fun _ => paths, fun inline => absurd file inline⟩,
      fun both => both.1 file⟩
  · rw [ovpnCertPaths, if_neg (mt mode.mp file)]
    simp only [Supplied, mem_ovpnFiles parses]
    simp [file, namedFiles, Blank]
    rw [written, written, written, written]

theorem ovpn_needs_iff :
    Startable host .openvpn row ↔ OvpnNeeds row.port row.settings := by
  rw [startable_iff]
  constructor
  · rintro ⟨parses, listens, ports, supplied⟩
    obtain ⟨paths, texts⟩ := (ovpn_supplied_iff parses).mp supplied
    rw [ovpn_sockets] at listens ports
    refine ⟨parses, ?_, ?_, ?_, paths, texts⟩
    · by_contra off
      rw [not_or, not_not, not_not] at off
      simp [off] at listens
    · intro on
      exact ports (.udp row.port) (by simp [on])
    · intro on
      refine ports (.tcp ((ovpnPorts row.settings.fields).tcpListenPort
        row.port)) (List.mem_append_right _ ?_)
      rw [if_pos on]
      exact List.mem_cons_self
  · intro needs
    refine ⟨needs.parses, ?_, ?_,
      (ovpn_supplied_iff needs.parses).mpr ⟨needs.paths, needs.texts⟩⟩
    · rw [ovpn_sockets]
      rcases needs.enabled with on | on <;> simp [on]
    · rw [ovpn_sockets]
      intro socket member
      rcases List.mem_append.mp member with member | member
      · split at member
        next on =>
          obtain rfl := List.mem_singleton.mp member
          exact needs.udpPort on
        next => cases member
      · split at member
        next on =>
          obtain rfl := List.mem_singleton.mp member
          exact needs.tcpPort on
        next => cases member

theorem fits_flag {value : Json} :
    value.flag.fits = value.optionalFlag.fits := by
  cases value <;> rfl

/-- The settings that the generator can parse are parsed by the checks. -/
theorem ovpn_parses {settings : JsonText}
    (parses : (settings.decode (VpnSettings.decoder .openvpn)).isSome = true) :
    (settings.decode OpenVpnConfig.decode).isSome = true := by
  obtain ⟨isObject, fits⟩ := isSome_decode_iff.mp parses
  obtain ⟨-, udpEnable, tcpEnable, tcpPort, -, -, -, -, texts, -⟩ :=
    Form.fits_openvpn.mp fits
  refine isSome_decode_iff.mpr ⟨isObject, ?_⟩
  have caCert := texts "caCert" (by decide)
  have serverCert := texts "serverCert" (by decide)
  simp only [OpenVpnConfig.decode, Decoded.fits_field, Decoded.fits_record,
    fits_flag, udpEnable, tcpEnable, tcpPort, caCert, serverCert, Bool.and_self]

theorem tcpListenPort_eq {ports : OpenVpnPorts} {port : Int} :
    ports.tcpListenPort port =
      if ports.separatePorts = some false then port
      else ports.tcpPortOrDefault := by
  unfold OpenVpnPorts.tcpListenPort
  cases ports.separatePorts with
  | none => rfl
  | some separate => cases separate <;> rfl

theorem validPort_orDefault {ports : OpenVpnPorts}
    (valid : validPort ports.tcpPort = true) :
    ports.tcpPortOrDefault = ports.tcpPort := by
  have positive : 1 ≤ ports.tcpPort := (of_decide_eq_true valid).1
  unfold OpenVpnPorts.tcpPortOrDefault
  rw [if_neg (by omega)]

theorem off_or_on (toggle : Option Bool) :
    toggle = some true ∨ toggle = none ∨ toggle = some false := by
  cases toggle with
  | none => exact .inr (.inl rfl)
  | some on => cases on <;> simp

theorem needs_iff_of_checks {port : Int} {settings : JsonText}
    (checks : OvpnChecks port settings) :
    OvpnNeeds port settings ↔ OvpnLeftOut port settings := by
  constructor
  · intro needs
    refine ⟨needs.parses, ?_, ?_, ?_, needs.paths, ?_⟩
    · intro absent
      exact needs.udpPort (by rw [absent]; nofun)
    · intro on shared
      have listens := needs.tcpPort on
      rwa [tcpListenPort_eq, if_pos shared] at listens
    · intro absent separate
      have listens := needs.tcpPort (by rw [absent]; nofun)
      rwa [tcpListenPort_eq, if_neg separate] at listens
    · intro inline
      have texts := needs.texts inline
      exact ⟨texts "serverKey" (by decide), texts "tlsCrypt" (by decide)⟩
  · intro leftOut
    refine ⟨leftOut.parses, ?_, ?_, ?_, leftOut.paths, ?_⟩
    · rcases checks.enabled with on | on
      · exact .inl (by rw [on]; nofun)
      · exact .inr (by rw [on]; nofun)
    · intro on
      rcases off_or_on (toggle settings.fields "udpEnable") with given | rest
      · exact checks.udpPort given
      · exact leftOut.udpAbsent (rest.resolve_right on)
    · intro on
      rw [tcpListenPort_eq]
      split
      next shared => exact leftOut.tcpShared on shared
      next separate =>
        rcases off_or_on (toggle settings.fields "tcpEnable") with given | rest
        · have valid := checks.tcpPort given
          rw [validPort_orDefault valid]
          exact valid
        · exact leftOut.tcpAbsent (rest.resolve_right on) separate
    · intro inline key member
      obtain ⟨serverKey, tlsCrypt⟩ := leftOut.texts inline
      simp only [List.mem_cons, List.not_mem_nil, or_false] at member
      rcases member with rfl | rfl | rfl | rfl
      · exact checks.caCert
      · exact checks.serverCert
      · exact serverKey
      · exact tlsCrypt

theorem checks_iff_of_needs {port : Int} {settings : JsonText}
    (needs : OvpnNeeds port settings) :
    OvpnChecks port settings ↔ OvpnBeyond settings := by
  constructor
  · intro checks
    exact ⟨checks.enabled, checks.tcpPort, checks.caCert, checks.serverCert⟩
  · intro beyond
    refine ⟨ovpn_parses needs.parses, beyond.enabled, ?_, beyond.tcpPort,
      beyond.caCert, beyond.serverCert⟩
    intro on
    exact needs.udpPort (by rw [on]; nofun)

end OpenVpn

section Sstp

variable {host : Host} {row : Inbound}

theorem sstp_checks_iff (kind : row.protocol = .vpn .sstp) :
    validateInboundConfig row = .ok () ↔
      SstpChecks row.port row.settings := by
  unfold validateInboundConfig
  rw [kind]
  dsimp only
  cases decoded : row.settings.decode SstpConfig.decode with
  | none =>
      refine iff_of_false nofun fun checks => ?_
      have parses := checks.parses
      rw [decoded] at parses
      cases parses
  | some config =>
      obtain ⟨-, -, rfl⟩ := decode_eq_some_iff.mp decoded
      have file : (row.settings.fields.get "tlsUseFile").flag.value = true ↔
          toggle row.settings.fields "tlsUseFile" = some true :=
        flag_eq_true_iff
      change (if _ then _ else if _ then _ else _) = _ ↔ _
      simp only [ite_error_eq_ok, and_true]
      change ¬ (!validPort row.port) = true ∧
        ¬ (!((row.settings.fields.get "tlsUseFile").flag.value &&
            decide (¬ Blank row.settings.fields "certificateFile") &&
            decide (¬ Blank row.settings.fields "keyFile")) &&
          !(decide (¬ Blank row.settings.fields "certificate") &&
            decide (¬ Blank row.settings.fields "key"))) = true ↔ _
      simp only [Bool.and_eq_true, Bool.not_eq_true', ← Bool.not_eq_true,
        decide_eq_true_eq, file, not_not, and_assoc]
      constructor
      · rintro ⟨port, certificate⟩
        refine ⟨by rw [decoded]; rfl, port, ?_⟩
        by_contra missing
        exact certificate (not_or.mp missing)
      · intro checks
        exact ⟨checks.port, fun missing => not_or.mpr missing
          checks.certificate⟩

/-- The files of an inbound whose settings parse. -/
theorem mem_sstpFiles {name text : String}
    (parses : (row.settings.decode (VpnSettings.decoder .sstp)).isSome =
      true) :
    (configDir .sstp row.id name, FileContent.pem text) ∈
        generateAllConfigs [serve host .sstp row] .sstp ↔
      toggle row.settings.fields "tlsUseFile" ≠ some true ∧
        trimText text ≠ "" ∧
        (name, text) ∈ ["server.crt", "server.key", "ca.crt"].zip
          (["certificate", "key", "caCert"].map
            (textField row.settings.fields)) := by
  have read : (serve host .sstp row).reading =
      some (readingOf host .sstp row) := reading_serve.mpr ⟨parses, rfl⟩
  change _ ∈ [serve host .sstp row].flatMap sstpWrites ↔ _
  rw [List.flatMap_singleton, sstpWrites, read]
  change _ ∈ _ :: certFiles .sstp row.id (readingOf host .sstp row) ↔ _
  rw [List.mem_cons, or_iff_right (by nofun), certFiles]
  have mode : (readingOf host .sstp row).view.tlsUseFile = true ↔
      toggle row.settings.fields "tlsUseFile" = some true := flag_eq_true_iff
  simp only [mode]
  split
  next file => simp [file]
  next inline =>
    rw [mem_pemWrites, List.mem_filter, decide_eq_true_eq, and_comm]
    exact (and_iff_right inline).symm

theorem sstp_certPaths : certPaths (readingOf host .sstp row) =
    if toggle row.settings.fields "tlsUseFile" = some true ∧
        ∀ key ∈ ["certificateFile", "keyFile"],
          ¬ Blank row.settings.fields key then
      .operator (["certificateFile", "keyFile"].map fun key =>
        trimText (textField row.settings.fields key))
    else .configDir := by
  have mode : (readingOf host .sstp row).view.tlsUseFile = true ↔
      toggle row.settings.fields "tlsUseFile" = some true := flag_eq_true_iff
  simp only [← not_blank_iff, ← mode]
  rfl

theorem sstp_supplied_iff
    (parses : (row.settings.decode (VpnSettings.decoder .sstp)).isSome =
      true) :
    Supplied .sstp row.id
        (generateAllConfigs [serve host .sstp row] .sstp)
        (certPaths (readingOf host .sstp row)) ↔
      (toggle row.settings.fields "tlsUseFile" = some true →
        ¬ Blank row.settings.fields "certificateFile" ∧
          ¬ Blank row.settings.fields "keyFile") ∧
      (toggle row.settings.fields "tlsUseFile" ≠ some true →
        ¬ Blank row.settings.fields "certificate" ∧
          ¬ Blank row.settings.fields "key") := by
  rw [sstp_certPaths]
  split
  next operator =>
    obtain ⟨file, paths⟩ := operator
    refine iff_of_true (not_blank_iff.mpr paths)
      ⟨fun _ => ⟨paths _ (by decide), paths _ (by decide)⟩,
        fun inline => absurd file inline⟩
  next other =>
    simp only [Supplied, mem_sstpFiles parses]
    by_cases file : toggle row.settings.fields "tlsUseFile" = some true
    · refine iff_of_false ?_ ?_
      · intro supplied
        obtain ⟨-, ⟨inline, -⟩, -⟩ :=
          supplied "server.crt" List.mem_cons_self
        exact inline file
      · rintro ⟨paths, -⟩
        refine other ⟨file, ?_⟩
        simpa using paths file
    · simp [file, namedFiles, Blank]

theorem sstp_needs_iff :
    Startable host .sstp row ↔ SstpNeeds row.port row.settings := by
  rw [startable_iff]
  have listens : (readingOf host .sstp row).view.sockets =
      [.tcp (if row.port = 0 then 443 else row.port)] := rfl
  rw [listens]
  constructor
  · rintro ⟨parses, -, ports, supplied⟩
    obtain ⟨paths, texts⟩ := (sstp_supplied_iff parses).mp supplied
    exact ⟨parses, ports _ List.mem_cons_self, paths, texts⟩
  · intro needs
    refine ⟨needs.parses, List.cons_ne_nil _ _, ?_,
      (sstp_supplied_iff needs.parses).mpr ⟨needs.paths, needs.texts⟩⟩
    intro socket member
    obtain rfl := List.mem_singleton.mp member
    exact needs.port

theorem sstp_parses {settings : JsonText}
    (parses : (settings.decode (VpnSettings.decoder .sstp)).isSome = true) :
    (settings.decode SstpConfig.decode).isSome = true := by
  obtain ⟨isObject, fits⟩ := isSome_decode_iff.mp parses
  obtain ⟨-, tlsUseFile, texts⟩ :=
    Form.fits_openconnect.mp (Form.fits_sstp.mp fits).1
  refine isSome_decode_iff.mpr ⟨isObject, ?_⟩
  have certificateFile := texts "certificateFile" (by decide)
  have keyFile := texts "keyFile" (by decide)
  have certificate := texts "certificate" (by decide)
  have key := texts "key" (by decide)
  simp only [SstpConfig.decode, Decoded.fits_field, Decoded.fits_record,
    tlsUseFile, certificateFile, keyFile, certificate, key, Bool.and_self]

theorem sstp_needs_iff_of_checks {port : Int} {settings : JsonText}
    (checks : SstpChecks port settings) :
    SstpNeeds port settings ↔ SstpLeftOut settings := by
  have positive : 1 ≤ port := (of_decide_eq_true checks.port).1
  constructor
  · intro needs
    exact ⟨needs.parses, needs.paths⟩
  · intro leftOut
    refine ⟨leftOut.parses, ?_, leftOut.paths, ?_⟩
    · rw [if_neg (by omega)]
      exact checks.port
    · intro inline
      exact checks.certificate.resolve_left fun file => inline file.1

theorem sstp_checks_iff_of_needs {port : Int} {settings : JsonText}
    (needs : SstpNeeds port settings) :
    SstpChecks port settings ↔ port ≠ 0 := by
  constructor
  · rintro checks rfl
    cases checks.port
  · intro given
    have valid := needs.port
    rw [if_neg given] at valid
    refine ⟨sstp_parses needs.parses, valid, ?_⟩
    by_cases file : toggle settings.fields "tlsUseFile" = some true
    · exact .inl ⟨file, needs.paths file⟩
    · exact .inr (needs.texts file)

end Sstp

section Browser

variable {form : InboundForm} {row : Inbound}

theorem isPort_portField {port : Option Int} :
    isPort (portField port) = validPort (port.getD 0) := by
  cases port <;> rfl

theorem truthy_flag {value : Json} (fits : value.flag.fits = true) :
    Form.truthy value = true ↔ value.optionalFlag.value = some true := by
  cases value with
  | null => exact iff_of_false nofun nofun
  | bool on => exact ⟨congrArg some, Option.some.inj⟩
  | _ => cases fits

theorem isPort_number {value : Json} (fits : value.number.fits = true) :
    isPort value = validPort value.number.value := by
  cases value with
  | null => rfl
  | int port =>
      rw [Json.number] at fits ⊢
      split at fits
      next within => rw [if_pos within]; rfl
      next => cases fits
  | _ => cases fits

theorem truthy_text {value : Json} (fits : value.text.fits = true)
    (given : trimText value.text.value ≠ "") : Form.truthy value = true := by
  cases value with
  | null => exact absurd rfl given
  | str text =>
      apply decide_eq_true
      rintro rfl
      exact given rfl
  | _ => cases fits

theorem ovpn_form_checks_iff :
    validateInboundForm .openvpn form = true ↔ OvpnFormChecks form := by
  change (if _ then false else if _ then false else if _ then false
    else if _ then false else true) = true ↔ _
  simp only [Bool.if_false_left, Bool.and_eq_true, Bool.not_eq_true',
    Bool.or_eq_true, decide_eq_true_eq, ← Bool.not_eq_true, not_and, not_not,
    not_or, and_true]
  constructor
  · rintro ⟨enabled, udpPort, tcpPort, caCert, serverCert⟩
    exact ⟨or_iff_not_imp_left.mpr enabled, udpPort, tcpPort, caCert,
      serverCert⟩
  · intro checks
    exact ⟨or_iff_not_imp_left.mp checks.enabled, checks.udpPort,
      checks.tcpPort, checks.caCert, checks.serverCert⟩

/-- An inbound that the panel accepts passes the browser. -/
theorem form_checks_of_checks
    (checks : OvpnChecks (form.port.getD 0) (.parsed (.obj form.settings))) :
    OvpnFormChecks form ∧ OvpnFormLeftOut form := by
  have fits := (isSome_decode_iff.mp checks.parses).2
  change (OpenVpnConfig.decode form.settings).fits = true at fits
  have all := fits
  simp only [OpenVpnConfig.decode, Decoded.fits_field, Decoded.fits_record,
    Bool.and_eq_true, true_and] at all
  obtain ⟨⟨⟨⟨tcpEnable, tcpPort⟩, udpEnable⟩, caCert⟩, serverCert⟩ := all
  have udp := truthy_flag udpEnable
  have tcp := truthy_flag tcpEnable
  refine ⟨⟨?_, ?_, ?_, ?_, ?_⟩, fits, checks.caCert, checks.serverCert⟩
  · rw [udp, tcp]
    exact checks.enabled
  · rw [udp, isPort_portField]
    exact checks.udpPort
  · rw [tcp, isPort_number tcpPort]
    exact checks.tcpPort
  · exact truthy_text caCert checks.caCert
  · exact truthy_text serverCert checks.serverCert

theorem checks_of_form_checks (checks : OvpnFormChecks form)
    (leftOut : OvpnFormLeftOut form) :
    OvpnChecks (form.port.getD 0) (.parsed (.obj form.settings)) := by
  have fits := leftOut.parses
  simp only [OpenVpnConfig.decode, Decoded.fits_field, Decoded.fits_record,
    Bool.and_eq_true, true_and] at fits
  obtain ⟨⟨⟨⟨tcpEnable, tcpPort⟩, udpEnable⟩, -⟩, -⟩ := fits
  have udp := truthy_flag udpEnable
  have tcp := truthy_flag tcpEnable
  refine ⟨isSome_decode_iff.mpr ⟨rfl, leftOut.parses⟩, ?_, ?_, ?_,
    leftOut.caCert, leftOut.serverCert⟩
  · have enabled := checks.enabled
    rwa [udp, tcp] at enabled
  · have port := checks.udpPort
    rwa [udp, isPort_portField] at port
  · have port := checks.tcpPort
    rwa [tcp, isPort_number tcpPort] at port

theorem ovpn_form_iff :
    (validateInboundForm .openvpn form = true ↔
        validateInboundConfig (form.posted .openvpn row) = .ok ()) ↔
      (OvpnFormChecks form → OvpnFormLeftOut form) := by
  rw [ovpn_form_checks_iff, ovpn_checks_iff rfl]
  constructor
  · intro agrees checks
    exact (form_checks_of_checks (agrees.mp checks)).2
  · intro leftOut
    exact ⟨fun checks => checks_of_form_checks checks (leftOut checks),
      fun checks => (form_checks_of_checks checks).1⟩

theorem sstp_form_iff :
    (validateInboundForm .sstp form = true ↔
        validateInboundConfig (form.posted .sstp row) = .ok ()) ↔
      (isPort (portField form.port) = true → SstpFormLeftOut form) := by
  rw [sstp_checks_iff rfl]
  change (isPort (portField form.port) = true ↔ _) ↔ _
  constructor
  · intro agrees port
    have checks := agrees.mp port
    exact ⟨(isSome_decode_iff.mp checks.parses).2, checks.certificate⟩
  · intro leftOut
    constructor
    · intro port
      obtain ⟨parses, certificate⟩ := leftOut port
      refine ⟨isSome_decode_iff.mpr ⟨rfl, parses⟩, ?_, certificate⟩
      rw [isPort_portField] at port
      exact port
    · intro checks
      rw [isPort_portField]
      exact checks.port

end Browser

/-- The three readings of an inbound agree: the panel accepts it exactly if its
daemon can start, and the browser a form exactly if the panel accepts what it
posts. -/
structure ExactlyValidated (host : Host) (backend : VpnProtocol)
    (row : Inbound) (form : InboundForm) : Prop where
  panel : validateInboundConfig row = .ok () ↔ Startable host backend row
  browser : validateInboundForm backend form = true ↔
    validateInboundConfig (form.posted backend row) = .ok ()

/-- Nothing that matters is left out of the checks, and nothing is checked that
does not matter. -/
def NothingOverlooked (row : Inbound) (form : InboundForm) :
    VpnProtocol → Prop
  | .openvpn =>
      (OvpnChecks row.port row.settings →
        OvpnLeftOut row.port row.settings) ∧
      (OvpnNeeds row.port row.settings → OvpnBeyond row.settings) ∧
      (OvpnFormChecks form → OvpnFormLeftOut form)
  | .sstp =>
      (SstpChecks row.port row.settings → SstpLeftOut row.settings) ∧
      (SstpNeeds row.port row.settings → row.port ≠ 0) ∧
      (isPort (portField form.port) = true → SstpFormLeftOut form)
  | _ => True

theorem exactlyValidated_iff (host : Host) (row : Inbound)
    (form : InboundForm) {backend : VpnProtocol}
    (checked : backend = .openvpn ∨ backend = .sstp)
    (kind : row.protocol = .vpn backend) :
    ExactlyValidated host backend row form ↔
      NothingOverlooked row form backend := by
  have both {first second third fourth : Prop}
      (left : first → (second ↔ third)) (right : second → (first ↔ fourth)) :
      (first ↔ second) ↔ (first → third) ∧ (second → fourth) := by
    constructor
    · intro same
      exact ⟨fun holds => (left holds).mp (same.mp holds),
        fun holds => (right holds).mp (same.mpr holds)⟩
    · rintro ⟨there, back⟩
      exact ⟨fun holds => (left holds).mpr (there holds),
        fun holds => (right holds).mpr (back holds)⟩
  rcases checked with rfl | rfl
  · have panel := (iff_congr (ovpn_checks_iff kind)
      (@ovpn_needs_iff host row)).trans
        (both needs_iff_of_checks checks_iff_of_needs)
    constructor
    · rintro ⟨exactly, browser⟩
      obtain ⟨leftOut, beyond⟩ := panel.mp exactly
      exact ⟨leftOut, beyond, ovpn_form_iff.mp browser⟩
    · rintro ⟨leftOut, beyond, browser⟩
      exact ⟨panel.mpr ⟨leftOut, beyond⟩, ovpn_form_iff.mpr browser⟩
  · have panel := (iff_congr (sstp_checks_iff kind)
      (@sstp_needs_iff host row)).trans
        (both sstp_needs_iff_of_checks sstp_checks_iff_of_needs)
    constructor
    · rintro ⟨exactly, browser⟩
      obtain ⟨leftOut, beyond⟩ := panel.mp exactly
      exact ⟨leftOut, beyond, sstp_form_iff.mp browser⟩
    · rintro ⟨leftOut, beyond, browser⟩
      exact ⟨panel.mpr ⟨leftOut, beyond⟩, sstp_form_iff.mpr browser⟩

/-! A UDP server with its certificates in the settings, and one with the paths
of its certificates. -/

def pastedSettings : JsonObject :=
  [("udpEnable", .bool true), ("tcpEnable", .bool false),
    ("caCert", .str "ca"), ("serverCert", .str "cert"),
    ("serverKey", .str "key"), ("tlsCrypt", .str "tc")]

def pathSettings : JsonObject :=
  [("udpEnable", .bool true), ("tcpEnable", .bool false),
    ("tlsUseFile", .bool true), ("caCertFile", .str "/etc/ca.crt"),
    ("serverCertFile", .str "/etc/server.crt"),
    ("serverKeyFile", .str "/etc/server.key"),
    ("tlsCryptFile", .str "/etc/tc.key")]

def udpServer (settings : JsonObject) : Inbound where
  id := 1
  listen := ""
  port := 1194
  protocol := .vpn .openvpn
  settings := .parsed (.obj settings)
  enable := true
  tag := "inbound-1194"

def udpForm (settings : JsonObject) : InboundForm := ⟨some 1194, settings⟩

def emptyHost : Host := ⟨[], true, fun _ => false⟩

theorem exactlyValidated_pasted :
    ExactlyValidated emptyHost .openvpn (udpServer pastedSettings)
      (udpForm pastedSettings) := by
  refine (exactlyValidated_iff emptyHost (udpServer pastedSettings)
    (udpForm pastedSettings) (.inl rfl) rfl).mpr ⟨?_, ?_, ?_⟩
  · intro _
    exact ⟨by decide, by decide, by decide, by decide, by decide, by decide⟩
  · intro _
    exact ⟨by decide, by decide, by decide, by decide⟩
  · intro _
    exact ⟨by decide, by decide, by decide⟩

/-- A server that could start is refused. -/
theorem paths_refused :
    (udpServer pathSettings).protocol = .vpn .openvpn ∧
      validateInboundConfig (udpServer pathSettings) =
        .error .openVpnCertificate ∧
      Startable emptyHost .openvpn (udpServer pathSettings) ∧
      ¬ ExactlyValidated emptyHost .openvpn (udpServer pathSettings)
        (udpForm pathSettings) := by
  have startable : Startable emptyHost .openvpn (udpServer pathSettings) :=
    ovpn_needs_iff.mpr ⟨by decide, by decide, by decide, by decide, by decide,
      by decide⟩
  refine ⟨rfl, rfl, startable, ?_⟩
  intro exactly
  cases exactly.panel.mpr startable

end VpnUi.BackEnd
