import VpnUi.Form.Lists
import VpnUi.Form.ServiceView

namespace VpnUi.Form

open Foundation Panel Address

/-! What a VPN service makes of the settings after the form was opened and
saved. -/

section Views

variable {backend : VpnProtocol} {supported : List String} {port : Int}
  {fields saved : JsonObject}

/-- The types of the fields that all services read. -/
structure SharedFits (fields : JsonObject) : Prop where
  clientToClient : (fields.get "clientToClient").flag.fits = true
  crossInbound : (fields.get "crossInbound").flag.fits = true
  userLimit : (fields.get "userLimit").optionalNumber.fits = true
  strategy : (fields.get "userLimitStrategy").text.fits = true
  ipRanges : (Json.list Json.text (fields.get "ipRanges")).fits = true
  clients : (VpnSettings.typedClients fields).fits = true
  dns1 : (fields.get "dns1").text.fits = true
  dns2 : (fields.get "dns2").text.fits = true
  mtu : (fields.get "mtu").number.fits = true

theorem fits_common {udpEnable tcpEnable : Decoded (Option Bool)}
    {ipRange : Decoded String} :
    (VpnSettings.common udpEnable tcpEnable ipRange fields).fits = true ↔
      SharedFits fields ∧ udpEnable.fits = true ∧ tcpEnable.fits = true ∧
        ipRange.fits = true := by
  simp only [VpnSettings.common, Decoded.fits_field, Decoded.fits_checked,
    Decoded.fits_record, Bool.true_and, Bool.and_eq_true]
  constructor
  · rintro ⟨⟨⟨⟨⟨⟨⟨⟨⟨⟨⟨udp, tcp⟩, inner⟩, cross⟩, limit⟩, strategy⟩, ranges⟩,
      range⟩, clients⟩, dns1⟩, dns2⟩, mtu⟩
    exact ⟨⟨inner, cross, limit, strategy, ranges, clients, dns1, dns2, mtu⟩,
      udp, tcp, range⟩
  · rintro ⟨shared, udp, tcp, range⟩
    exact ⟨⟨⟨⟨⟨⟨⟨⟨⟨⟨⟨udp, tcp⟩, shared.clientToClient⟩, shared.crossInbound⟩,
      shared.userLimit⟩, shared.strategy⟩, shared.ipRanges⟩, range⟩,
      shared.clients⟩, shared.dns1⟩, shared.dns2⟩, shared.mtu⟩

/-- What every form keeps. -/
structure SharedKept (fields saved : JsonObject) : Prop where
  clientToClient : (saved.get "clientToClient").flag.value =
    (fields.get "clientToClient").flag.value
  crossInbound : (saved.get "crossInbound").flag.value =
    (fields.get "crossInbound").flag.value
  dns1 : textOr "8.8.8.8" (saved.get "dns1") =
    textOr "8.8.8.8" (fields.get "dns1")
  dns2 : textOr "8.8.4.4" (saved.get "dns2") =
    textOr "8.8.4.4" (fields.get "dns2")
  userLimit :
    effectiveUserLimit (saved.get "userLimit").optionalNumber.value =
      effectiveUserLimit (fields.get "userLimit").optionalNumber.value
  strategy :
    OpenVpn.normUserLimitStrategy (saved.get "userLimitStrategy").text.value =
      OpenVpn.normUserLimitStrategy
        (fields.get "userLimitStrategy").text.value

theorem serviceView_shared (kept : SharedKept fields saved) :
    serviceView backend supported port saved =
        serviceView backend supported port fields ↔
      (sockets port saved backend = sockets port fields backend ∧
        ciphers supported saved backend = ciphers supported fields backend ∧
        ((tlsKeys backend ≠ []) && (saved.get "tlsUseFile").flag.value) =
          ((tlsKeys backend ≠ []) && (fields.get "tlsUseFile").flag.value) ∧
        (tlsKeys backend).map (fun key => (saved.get key).text.value) =
          (tlsKeys backend).map (fun key => (fields.get key).text.value) ∧
        ipsec saved backend = ipsec fields backend ∧
        ((backend = .l2tp) && (saved.get "allowRaw").flag.value) =
          ((backend = .l2tp) && (fields.get "allowRaw").flag.value) ∧
        numberOr (defaultMtu backend) (saved.get "mtu") =
          numberOr (defaultMtu backend) (fields.get "mtu") ∧
        (VpnSettings.decoder backend saved).value.effectiveRanges =
          (VpnSettings.decoder backend fields).value.effectiveRanges ∧
        (VpnSettings.typedClients saved).value =
          (VpnSettings.typedClients fields).value) := by
  have read (object : JsonObject) :
      (VpnSettings.decoder backend object).value.clientToClient =
        (object.get "clientToClient").flag.value ∧
      (VpnSettings.decoder backend object).value.crossInbound =
        (object.get "crossInbound").flag.value ∧
      (VpnSettings.decoder backend object).value.userLimit =
        (object.get "userLimit").optionalNumber.value ∧
      (VpnSettings.decoder backend object).value.userLimitStrategy =
        (object.get "userLimitStrategy").text.value := by
    cases backend <;> exact ⟨rfl, rfl, rfl, rfl⟩
  simp only [serviceView, ServiceView.mk.injEq, read, kept.clientToClient,
    kept.crossInbound, kept.dns1, kept.dns2, kept.userLimit, kept.strategy,
    VpnSettings.clients_decoder, true_and]

theorem sharedKept_of_get
    (clientToClient : saved.get "clientToClient" =
      coalesce (.bool false) (fields.get "clientToClient"))
    (crossInbound : saved.get "crossInbound" =
      coalesce (.bool false) (fields.get "crossInbound"))
    (dns1 : saved.get "dns1" = coalesce (.str "8.8.8.8") (fields.get "dns1"))
    (dns2 : saved.get "dns2" = coalesce (.str "8.8.4.4") (fields.get "dns2"))
    (userLimit : saved.get "userLimit" =
      coalesce (.int 1) (fields.get "userLimit"))
    (strategy : saved.get "userLimitStrategy" =
      coalesce (.str "accept") (fields.get "userLimitStrategy")) :
    SharedKept fields saved where
  clientToClient := clientToClient ▸
    @read_coalesce _ (·.flag.value) (.bool false) rfl _
  crossInbound := crossInbound ▸
    @read_coalesce _ (·.flag.value) (.bool false) rfl _
  dns1 := dns1 ▸ @read_coalesce _ (textOr "8.8.8.8") _ (by decide) _
  dns2 := dns2 ▸ @read_coalesce _ (textOr "8.8.4.4") _ (by decide) _
  userLimit := userLimit ▸ @read_coalesce _
    (fun value => effectiveUserLimit value.optionalNumber.value) _
    (by decide) _
  strategy := strategy ▸ @read_coalesce _
    (fun value => OpenVpn.normUserLimitStrategy value.text.value) _
    (by decide) _

theorem sharedFits_of_get {ranges clients : List Json} {mtu : Int}
    (mtuFits : (Json.int mtu).number.fits = true)
    (shared : SharedFits fields) (rangesFit : TextsFit ranges)
    (clientsFit : UsersFit clients)
    (clientToClient : saved.get "clientToClient" =
      coalesce (.bool false) (fields.get "clientToClient"))
    (crossInbound : saved.get "crossInbound" =
      coalesce (.bool false) (fields.get "crossInbound"))
    (dns1 : saved.get "dns1" = coalesce (.str "8.8.8.8") (fields.get "dns1"))
    (dns2 : saved.get "dns2" = coalesce (.str "8.8.4.4") (fields.get "dns2"))
    (mtu_eq : saved.get "mtu" = coalesce (.int mtu) (fields.get "mtu"))
    (userLimit : saved.get "userLimit" =
      coalesce (.int 1) (fields.get "userLimit"))
    (strategy : saved.get "userLimitStrategy" =
      coalesce (.str "accept") (fields.get "userLimitStrategy"))
    (ipRanges : saved.get "ipRanges" = .arr ranges)
    (clients_eq : saved.get "clients" = .arr clients) : SharedFits saved where
  clientToClient := clientToClient ▸ fits_coalesce rfl shared.clientToClient
  crossInbound := crossInbound ▸ fits_coalesce rfl shared.crossInbound
  userLimit := userLimit ▸ fits_coalesce (by decide) shared.userLimit
  strategy := strategy ▸ fits_coalesce rfl shared.strategy
  ipRanges := ipRanges ▸ List.all_eq_true.mpr rangesFit
  clients := by
    rw [VpnSettings.typedClients, clients_eq]
    exact List.all_eq_true.mpr clientsFit
  dns1 := dns1 ▸ fits_coalesce rfl shared.dns1
  dns2 := dns2 ▸ fits_coalesce rfl shared.dns2
  mtu := mtu_eq ▸ fits_coalesce mtuFits shared.mtu

/-- A form keeps the view when it keeps the users and the rest. -/
theorem form_kept {draws : Draws} {made : Option JsonObject}
    {make : List Json → JsonObject} {rest : Prop}
    (fits : (VpnSettings.typedClients fields).fits = true)
    (made_eq : made = (usersJson draws.user (fields.get? "clients")).map make)
    (typed : ∀ clients, UsersFit clients →
      (VpnSettings.decoder backend (make clients)).fits = true)
    (view : ∀ clients, serviceView backend supported port (make clients) =
        serviceView backend supported port fields ↔
      rest ∧ readUsers clients = (VpnSettings.typedClients fields).value) :
    (∃ saved, made = some saved ∧
        (VpnSettings.decoder backend saved).fits = true ∧
        serviceView backend supported port saved =
          serviceView backend supported port fields) ↔
      rest ∧ ClientsStated fields := by
  rw [← usersJson_kept fits, made_eq]
  constructor
  · rintro ⟨_, ran, -, same⟩
    obtain ⟨clients, read, rfl⟩ := Option.map_eq_some_iff.mp ran
    obtain ⟨others, users⟩ := (view clients).mp same
    exact ⟨others, clients, read, users⟩
  · rintro ⟨others, clients, read, users⟩
    exact ⟨make clients, by rw [read]; rfl,
      typed clients (fit_usersJson fits read),
      (view clients).mpr ⟨others, users⟩⟩

end Views

/-- No row of the ranges is blank. -/
def RangesFilled (fields : JsonObject) : Prop :=
  ∀ range ∈ readTexts (seededRanges fields), isBlank range = false

/-- IPsec is switched on or off, and has a key if it is on. -/
def IpsecStated (fields : JsonObject) : Prop :=
  fields.get "ipsecEnable" ≠ .null ∧
    ((fields.get "ipsecEnable").flag.value = true →
      (fields.get? "ipsecPsk").isSome = true)

section Ppp

variable {supported : List String} {port : Int} {draws : Draws}
  {fields : JsonObject}

theorem fits_pptp {object : JsonObject} :
    (VpnSettings.decoder .pptp object).fits = true ↔
      SharedFits object ∧ (object.get "ipRange").text.fits = true ∧
        (object.get "localIp").text.fits = true := by
  simp only [VpnSettings.decoder, VpnSettings.pptpSettings, fits_common,
    Decoded.fits_checked, Decoded.fits_record, Bool.and_eq_true, true_and,
    and_assoc]

theorem fits_l2tp {object : JsonObject} :
    (VpnSettings.decoder .l2tp object).fits = true ↔
      (VpnSettings.decoder .pptp object).fits = true ∧
        (object.get "ipsecEnable").flag.fits = true ∧
        (object.get "ipsecPsk").text.fits = true ∧
        (object.get "allowRaw").flag.fits = true := by
  simp only [VpnSettings.decoder, VpnSettings.l2tpSettings,
    Decoded.fits_checked, Bool.and_eq_true, and_assoc]

theorem effectiveRanges_of_listed {settings : VpnSettings}
    (listed : settings.ipRange = "") :
    settings.effectiveRanges = settings.ipRanges :=
  if_neg fun falls => falls.2 listed

/-- The ranges of a form that drops the blank rows are those the service falls
back on, if none is blank. -/
theorem effectiveRanges_kept {saved : List Json}
    {settings after : VpnSettings}
    (range : (fields.get "ipRange").text.fits = true)
    (same : readTexts saved =
      (readTexts (seededRanges fields)).filter fun text => !isBlank text)
    (ipRanges : settings.ipRanges =
      (Json.list Json.text (fields.get "ipRanges")).value)
    (ipRange : settings.ipRange = (fields.get "ipRange").text.value)
    (savedRanges : after.ipRanges = readTexts saved)
    (savedRange : after.ipRange = "") :
    after.effectiveRanges = settings.effectiveRanges ↔ RangesFilled fields := by
  have seeded : readTexts (seededRanges fields) = settings.effectiveRanges := by
    rw [readTexts_seededRanges range, VpnSettings.effectiveRanges, ipRanges,
      ipRange]
  rw [effectiveRanges_of_listed savedRange, savedRanges, same, ← seeded,
    List.filter_eq_self]
  simp only [RangesFilled, Bool.not_eq_true']

theorem pptpForm_kept
    (fits : (VpnSettings.decoder .pptp fields).fits = true) :
    (∃ saved, pptpForm draws fields = some saved ∧
        (VpnSettings.decoder .pptp saved).fits = true ∧
        serviceView .pptp supported port saved =
          serviceView .pptp supported port fields) ↔
      RangesFilled fields ∧ ClientsStated fields := by
  obtain ⟨shared, range, -⟩ := fits_pptp.mp fits
  obtain ⟨ranges, ran, rangesFit, same⟩ :=
    keptRanges_eq_some (fit_seededRanges shared.ipRanges range)
  refine form_kept shared.clients
    (by rw [pptpForm, ran]; cases usersJson _ _ <;> rfl)
    (fun clients clientsFit => ?_) fun clients => ?_
  · refine fits_pptp.mpr ⟨?_, rfl, rfl⟩
    exact sharedFits_of_get (by decide) shared rangesFit clientsFit
      rfl rfl rfl rfl rfl rfl rfl rfl rfl
  · rw [serviceView_shared (sharedKept_of_get rfl rfl rfl rfl rfl rfl)]
    rw [effectiveRanges_kept range same rfl rfl rfl rfl]
    constructor
    · rintro ⟨-, -, -, -, -, -, -, filled, users⟩
      exact ⟨filled, users⟩
    · rintro ⟨filled, users⟩
      refine ⟨rfl, rfl, rfl, rfl, rfl, rfl, ?_, filled, users⟩
      exact @read_coalesce _ (numberOr 1400) (.int 1400) (by decide) _

theorem ipsec_kept {saved : JsonObject}
    (enable : saved.get "ipsecEnable" =
      coalesce (.bool true) (fields.get "ipsecEnable"))
    (key : saved.get "ipsecPsk" =
      property fields "ipsecPsk" (.str (randomSeq 16 true draws.psk))) :
    ipsec saved .l2tp = ipsec fields .l2tp ↔ IpsecStated fields := by
  have kept := @property_kept fields "ipsecPsk" 16 (Nat.zero_lt_succ _) true
    draws.psk
  simp only [ipsec, enable, key, IpsecStated, ← kept]
  generalize fields.get "ipsecEnable" = switch
  cases switch with
  | null =>
      refine iff_of_false (fun same => ?_) fun stated => stated.1 rfl
      cases same
  | bool on =>
      cases on with
      | false =>
          exact iff_of_true rfl ⟨Json.noConfusion, fun on => Bool.noConfusion on⟩
      | true =>
          simp only [coalesce, Json.flag, if_true, Option.some.injEq]
          exact ⟨fun same => ⟨Json.noConfusion, fun _ => same⟩, fun stated =>
            stated.2 trivial⟩
  | _ => exact iff_of_true rfl ⟨Json.noConfusion, fun on => Bool.noConfusion on⟩

theorem l2tpForm_kept
    (fits : (VpnSettings.decoder .l2tp fields).fits = true) :
    (∃ saved, l2tpForm draws fields = some saved ∧
        (VpnSettings.decoder .l2tp saved).fits = true ∧
        serviceView .l2tp supported port saved =
          serviceView .l2tp supported port fields) ↔
      (RangesFilled fields ∧ IpsecStated fields) ∧ ClientsStated fields := by
  obtain ⟨common, enable, key, raw⟩ := fits_l2tp.mp fits
  obtain ⟨shared, range, -⟩ := fits_pptp.mp common
  obtain ⟨ranges, ran, rangesFit, same⟩ :=
    keptRanges_eq_some (fit_seededRanges shared.ipRanges range)
  refine form_kept shared.clients
    (by rw [l2tpForm, ran]; cases usersJson _ _ <;> rfl)
    (fun clients clientsFit => ?_) fun clients => ?_
  · refine fits_l2tp.mpr ⟨fits_pptp.mpr ⟨?_, rfl, rfl⟩,
      fits_coalesce rfl enable, fits_property key, fits_coalesce rfl raw⟩
    exact sharedFits_of_get (by decide) shared rangesFit clientsFit
      rfl rfl rfl rfl rfl rfl rfl rfl rfl
  · rw [serviceView_shared (sharedKept_of_get rfl rfl rfl rfl rfl rfl)]
    rw [ipsec_kept rfl rfl, effectiveRanges_kept range same rfl rfl rfl rfl]
    constructor
    · rintro ⟨-, -, -, -, secured, -, -, filled, users⟩
      exact ⟨⟨filled, secured⟩, users⟩
    · rintro ⟨⟨filled, secured⟩, users⟩
      refine ⟨rfl, rfl, rfl, rfl, secured, ?_, ?_, filled, users⟩
      · exact @read_coalesce _ (·.flag.value) (.bool false) rfl _
      · exact @read_coalesce _ (numberOr 1400) (.int 1400) (by decide) _

end Ppp

section Tls

variable {supported : List String} {port : Int} {draws : Draws}
  {fields : JsonObject}

theorem fits_checkedTexts {keys : List String}
    {settings : Decoded VpnSettings} :
    (VpnSettings.checkedTexts keys fields settings).fits = true ↔
      settings.fits = true ∧
        ∀ key ∈ keys, (fields.get key).text.fits = true := by
  induction keys generalizing settings with
  | nil => simp [VpnSettings.checkedTexts]
  | cons key keys induction =>
      have step : VpnSettings.checkedTexts (key :: keys) fields settings =
          VpnSettings.checkedTexts keys fields
            (settings.checked (fields.get key).text) := rfl
      rw [step, induction, Decoded.fits_checked, Bool.and_eq_true,
        List.forall_mem_cons, and_assoc]

/-- A text that is kept, or empty where there is none. -/
def TextsCoalesced (keys : List String) (fields saved : JsonObject) : Prop :=
  ∀ key ∈ keys, saved.get key = coalesce (.str "") (fields.get key)

theorem tlsTexts_kept {keys : List String} {saved : JsonObject}
    (coalesced : TextsCoalesced keys fields saved) :
    keys.map (fun key => (saved.get key).text.value) =
      keys.map fun key => (fields.get key).text.value := by
  refine List.map_congr_left fun key member => ?_
  rw [coalesced key member]
  exact @read_coalesce _ (·.text.value) (.str "") rfl _

theorem fits_coalesced {keys : List String} {saved : JsonObject}
    (coalesced : TextsCoalesced keys fields saved)
    (fits : ∀ key ∈ keys, (fields.get key).text.fits = true) :
    ∀ key ∈ keys, (saved.get key).text.fits = true := by
  intro key member
  rw [coalesced key member]
  exact fits_coalesce rfl (fits key member)

theorem fits_openconnect {object : JsonObject} :
    (VpnSettings.decoder .openconnect object).fits = true ↔
      SharedFits object ∧ (object.get "tlsUseFile").flag.fits = true ∧
        ∀ key ∈ tlsKeys .openconnect, (object.get key).text.fits = true := by
  simp only [VpnSettings.decoder, VpnSettings.ocservSettings,
    VpnSettings.checkedTls, fits_checkedTexts, fits_common,
    Decoded.fits_checked, Decoded.fits_record, Bool.and_eq_true, and_true,
    and_assoc, tlsKeys]

theorem fits_sstp {object : JsonObject} :
    (VpnSettings.decoder .sstp object).fits = true ↔
      (VpnSettings.decoder .openconnect object).fits = true ∧
        (object.get "ipRange").text.fits = true ∧
        (object.get "localIp").text.fits = true := by
  rw [fits_openconnect]
  simp only [VpnSettings.decoder, VpnSettings.sstpSettings,
    VpnSettings.checkedTls, fits_checkedTexts, fits_common,
    Decoded.fits_checked, Decoded.fits_record, Bool.and_eq_true, true_and,
    tlsKeys]
  tauto

theorem tlsJson_coalesced {clients : List Json} :
    TextsCoalesced (tlsKeys .openconnect) fields (tlsJson clients fields) := by
  simp only [TextsCoalesced, tlsKeys, List.forall_mem_cons]
  exact ⟨rfl, rfl, rfl, rfl, rfl, List.forall_mem_nil _⟩

theorem fits_tlsJson {clients : List Json}
    (fits : (VpnSettings.decoder .openconnect fields).fits = true)
    (clientsFit : UsersFit clients) :
    (VpnSettings.decoder .openconnect (tlsJson clients fields)).fits =
      true := by
  obtain ⟨shared, useFile, texts⟩ := fits_openconnect.mp fits
  refine fits_openconnect.mpr ⟨?_, fits_coalesce rfl useFile,
    fits_coalesced tlsJson_coalesced texts⟩
  exact sharedFits_of_get (by decide) shared
    (fit_arrayOrEmpty shared.ipRanges) clientsFit
    rfl rfl rfl rfl rfl rfl rfl rfl rfl

theorem ocservForm_kept
    (fits : (VpnSettings.decoder .openconnect fields).fits = true) :
    (∃ saved, ocservForm draws fields = some saved ∧
        (VpnSettings.decoder .openconnect saved).fits = true ∧
        serviceView .openconnect supported port saved =
          serviceView .openconnect supported port fields) ↔
      True ∧ ClientsStated fields := by
  have shared := (fits_openconnect.mp fits).1
  refine form_kept shared.clients
    (by rw [ocservForm]; cases usersJson _ _ <;> rfl)
    (fun clients clientsFit => fits_tlsJson fits clientsFit) fun clients => ?_
  rw [serviceView_shared (sharedKept_of_get rfl rfl rfl rfl rfl rfl),
    effectiveRanges_of_listed rfl, effectiveRanges_of_listed rfl]
  constructor
  · rintro ⟨-, -, -, -, -, -, -, -, users⟩
    exact ⟨trivial, users⟩
  · rintro ⟨-, users⟩
    refine ⟨rfl, rfl, ?_, tlsTexts_kept tlsJson_coalesced, rfl, rfl, ?_, ?_,
      users⟩
    · exact @read_coalesce _ (·.flag.value) (.bool false) rfl _
    · exact @read_coalesce _ (numberOr 1420) (.int 1420) (by decide) _
    · exact readTexts_arrayOrEmpty

/-- The settings have the ranges that the service uses, not the legacy one. -/
def RangesListed (fields : JsonObject) : Prop :=
  (Json.list Json.text (fields.get "ipRanges")).value ≠ [] ∨
    (fields.get "ipRange").text.value = ""

theorem listed_iff :
    (Json.list Json.text (fields.get "ipRanges")).value =
        (VpnSettings.decoder .sstp fields).value.effectiveRanges ↔
      RangesListed fields := by
  have read : (VpnSettings.decoder .sstp fields).value.effectiveRanges =
      if (Json.list Json.text (fields.get "ipRanges")).value = [] ∧
          (fields.get "ipRange").text.value ≠ "" then
        [(fields.get "ipRange").text.value]
      else (Json.list Json.text (fields.get "ipRanges")).value := rfl
  rw [read]
  unfold RangesListed
  split
  next falls =>
    refine iff_of_false (fun same => ?_) fun listed =>
      listed.elim (· falls.1) (falls.2 ·)
    rw [falls.1] at same
    cases same
  next stands =>
    rw [not_and_or, not_not] at stands
    exact iff_of_true rfl stands

theorem sstpForm_kept
    (fits : (VpnSettings.decoder .sstp fields).fits = true) :
    (∃ saved, sstpForm draws fields = some saved ∧
        (VpnSettings.decoder .sstp saved).fits = true ∧
        serviceView .sstp supported port saved =
          serviceView .sstp supported port fields) ↔
      (RangesListed fields ∧ fields.get "mtu" ≠ .null) ∧
        ClientsStated fields := by
  obtain ⟨common, range, -⟩ := fits_sstp.mp fits
  have shared := (fits_openconnect.mp common).1
  refine form_kept shared.clients
    (by rw [sstpForm]; cases usersJson _ _ <;> rfl)
    (fun clients clientsFit =>
      fits_sstp.mpr ⟨fits_tlsJson common clientsFit, rfl, rfl⟩)
    fun clients => ?_
  have mtu : numberOr 1400 (coalesce (.int 1420) (fields.get "mtu")) =
      numberOr 1400 (fields.get "mtu") ↔ fields.get "mtu" ≠ .null :=
    read_coalesce_iff (by decide)
  have ranges : (VpnSettings.decoder .sstp
        (tlsJson clients fields)).value.effectiveRanges =
      (VpnSettings.decoder .sstp fields).value.effectiveRanges ↔
      RangesListed fields := by
    rw [effectiveRanges_of_listed rfl]
    change readTexts (arrayOrEmpty (fields.get "ipRanges")) = _ ↔ _
    rw [readTexts_arrayOrEmpty]
    exact listed_iff
  rw [serviceView_shared (sharedKept_of_get rfl rfl rfl rfl rfl rfl), ranges]
  constructor
  · rintro ⟨-, -, -, -, -, -, sameMtu, listed, users⟩
    exact ⟨⟨listed, mtu.mp sameMtu⟩, users⟩
  · rintro ⟨⟨listed, given⟩, users⟩
    refine ⟨rfl, rfl, ?_, tlsTexts_kept tlsJson_coalesced, rfl, rfl,
      mtu.mpr given, listed, users⟩
    exact @read_coalesce _ (·.flag.value) (.bool false) rfl _

end Tls

section OpenVpn

variable {supported : List String} {port : Int} {draws : Draws}
  {fields saved : JsonObject}

theorem fits_openvpn {object : JsonObject} :
    (VpnSettings.decoder .openvpn object).fits = true ↔
      SharedFits object ∧
        (object.get "udpEnable").optionalFlag.fits = true ∧
        (object.get "tcpEnable").optionalFlag.fits = true ∧
        (object.get "tcpPort").number.fits = true ∧
        (object.get "separatePorts").optionalFlag.fits = true ∧
        (object.get "tlsUseFile").optionalFlag.fits = true ∧
        (Json.list Json.text (object.get "ciphers")).fits = true ∧
        (Json.list (Json.record VpnSettings.externalProxy)
          (object.get "externalProxy")).fits = true ∧
        (∀ key ∈ tlsKeys .openvpn, (object.get key).text.fits = true) ∧
        (object.get "cipherMode").text.fits = true := by
  simp only [VpnSettings.decoder, VpnSettings.openvpnSettings,
    fits_checkedTexts, fits_common, Decoded.fits_checked, Decoded.fits_record,
    Bool.and_eq_true, tlsKeys, List.forall_mem_cons]
  tauto

/-- The TCP server does not fall back on the default port. -/
def PortStated (fields : JsonObject) : Prop :=
  (fields.get "tcpEnable").optionalFlag.value.getD true = true →
    (fields.get "separatePorts").optionalFlag.value.getD true = true →
      fields.get "tcpPort" ≠ .null

theorem sockets_kept
    (udpEnable : saved.get "udpEnable" =
      coalesce (.bool true) (fields.get "udpEnable"))
    (tcpEnable : saved.get "tcpEnable" =
      coalesce (.bool true) (fields.get "tcpEnable"))
    (tcpPort : saved.get "tcpPort" =
      coalesce (.int 1194) (fields.get "tcpPort"))
    (separatePorts : saved.get "separatePorts" =
      coalesce (.bool true) (fields.get "separatePorts")) :
    sockets port saved .openvpn = sockets port fields .openvpn ↔
      PortStated fields := by
  have flag (value : Json) :
      (coalesce (.bool true) value).optionalFlag.value.getD true =
        value.optionalFlag.value.getD true :=
    @read_coalesce _ (·.optionalFlag.value.getD true) (.bool true) rfl value
  have given : (OpenVpnPorts.decode saved).value.tcpPortOrDefault =
      (OpenVpnPorts.decode fields).value.tcpPortOrDefault ↔
      fields.get "tcpPort" ≠ .null := by
    change numberOr 443 (saved.get "tcpPort") = _ ↔ _
    rw [tcpPort]
    exact @read_coalesce_iff _ (numberOr 443) _ (by decide) _
  simp only [sockets, udpEnable, flag, List.append_cancel_left_eq, PortStated,
    ← given, OpenVpnPorts.tcpListenPort, OpenVpnPorts.tcpEnabled]
  change (if (saved.get "tcpEnable").optionalFlag.value.getD true then
      [Socket.tcp (if (saved.get "separatePorts").optionalFlag.value.getD true
        then _ else _)] else []) =
    (if (fields.get "tcpEnable").optionalFlag.value.getD true then
      [Socket.tcp (if (fields.get "separatePorts").optionalFlag.value.getD true
        then _ else _)] else []) ↔ _
  rw [tcpEnable, separatePorts, flag, flag]
  cases (fields.get "tcpEnable").optionalFlag.value.getD true with
  | false => simp
  | true =>
      cases (fields.get "separatePorts").optionalFlag.value.getD true with
      | false => simp
      | true => simp

/-- The ciphers are listed, or none of those that the form adds is supported. -/
def CiphersStated (supported : List String) (fields : JsonObject) : Prop :=
  fields.get "ciphers" ≠ .null ∨
    (supported ≠ [] ∧ ∀ name ∈ oldDevices, name ∉ supported)

theorem effectiveCiphers_allDevices :
    effectiveCiphers supported allDevices =
        effectiveCiphers supported ovpnDefaultCiphers ↔
      supported ≠ [] ∧ ∀ name ∈ oldDevices, name ∉ supported := by
  by_cases probed : supported = []
  · subst probed
    exact iff_of_false (by decide) fun given => given.1 rfl
  rw [and_iff_right probed]
  let usable (names : List String) : List String :=
    names.filter fun name => upperText name ∈ supported
  have effective (names : List String) :
      effectiveCiphers supported names =
        if usable names = [] then ovpnDefaultCiphers else usable names :=
    if_neg probed
  have split : usable allDevices = usable newDevices ++ usable oldDevices :=
    List.filter_append _ _
  have upper : ∀ name ∈ oldDevices, upperText name = name := by decide
  have none : usable oldDevices = [] ↔
      ∀ name ∈ oldDevices, name ∉ supported := by
    rw [List.filter_eq_nil_iff]
    refine forall₂_congr fun name member => ?_
    rw [decide_eq_true_iff, upper name member]
  rw [← none, effective, effective, split]
  change _ = (if usable newDevices = [] then _ else usable newDevices) ↔ _
  constructor
  · intro same
    by_contra some
    rw [if_neg fun empty => some (List.append_eq_nil_iff.mp empty).2] at same
    split at same
    next fresh =>
      -- the default ciphers are none of the added ones
      rw [fresh, List.nil_append] at same
      have first : "AES-256-GCM" ∈ usable oldDevices :=
        same ▸ List.mem_cons_self
      exact absurd (List.mem_of_mem_filter first) (by decide)
    next => exact some (List.append_right_eq_self.mp same)
  · intro empty
    rw [empty, List.append_nil]

theorem ciphers_kept
    (fits : (Json.list Json.text (fields.get "ciphers")).fits = true)
    (listed : saved.get "ciphers" = .arr (formCiphers fields)) :
    ciphers supported saved .openvpn = ciphers supported fields .openvpn ↔
      CiphersStated supported fields := by
  unfold CiphersStated
  simp only [ciphers, listed, formCiphers]
  generalize fields.get "ciphers" = given at fits
  cases given with
  | arr items => exact iff_of_true rfl (.inl nofun)
  | null =>
      rw [or_iff_right (not_not_intro rfl), ← effectiveCiphers_allDevices]
      have all : dataCiphers (Json.list Json.text
          (.arr (allDevices.map Json.str))).value = allDevices := by decide
      have default : dataCiphers (Json.list Json.text .null).value =
          ovpnDefaultCiphers := rfl
      rw [all, default]
  | _ => cases fits

theorem openvpnJson_coalesced {clients : List Json} :
    TextsCoalesced (tlsKeys .openvpn) fields (openvpnJson clients fields) := by
  simp only [TextsCoalesced, tlsKeys, List.forall_mem_cons]
  exact ⟨rfl, rfl, rfl, rfl, rfl, rfl, rfl, rfl, rfl, List.forall_mem_nil _⟩

theorem fits_formCiphers
    (fits : (Json.list Json.text (fields.get "ciphers")).fits = true) :
    (Json.list Json.text (.arr (formCiphers fields))).fits = true := by
  unfold formCiphers
  generalize fields.get "ciphers" = given at fits
  cases given with
  | arr items => exact fits
  | _ => rfl

theorem fits_arrayOrEmpty {decode : Json → Decoded Unit} {value : Json}
    (fits : (Json.list decode value).fits = true) :
    (Json.list decode (.arr (arrayOrEmpty value))).fits = true := by
  cases value with
  | arr items => exact fits
  | _ => rfl

theorem openvpnForm_kept
    (fits : (VpnSettings.decoder .openvpn fields).fits = true) :
    (∃ saved, openvpnForm draws fields = some saved ∧
        (VpnSettings.decoder .openvpn saved).fits = true ∧
        serviceView .openvpn supported port saved =
          serviceView .openvpn supported port fields) ↔
      (PortStated fields ∧ CiphersStated supported fields) ∧
        ClientsStated fields := by
  obtain ⟨shared, udp, tcp, tcpPort, separate, useFile, listed, proxies, texts,
    mode⟩ := fits_openvpn.mp fits
  refine form_kept shared.clients
    (by rw [openvpnForm]; cases usersJson _ _ <;> rfl)
    (fun clients clientsFit => ?_) fun clients => ?_
  · refine fits_openvpn.mpr ⟨?_, fits_coalesce rfl udp, fits_coalesce rfl tcp,
      fits_coalesce (by decide) tcpPort, fits_coalesce rfl separate,
      fits_coalesce rfl useFile, fits_formCiphers listed,
      fits_arrayOrEmpty proxies, fits_coalesced openvpnJson_coalesced texts,
      fits_coalesce rfl mode⟩
    exact sharedFits_of_get (by decide) shared
      (fit_arrayOrEmpty shared.ipRanges) clientsFit
      rfl rfl rfl rfl rfl rfl rfl rfl rfl
  · rw [serviceView_shared (sharedKept_of_get rfl rfl rfl rfl rfl rfl),
      sockets_kept rfl rfl rfl rfl, ciphers_kept listed rfl,
      effectiveRanges_of_listed rfl, effectiveRanges_of_listed rfl]
    constructor
    · rintro ⟨ports, stated, -, -, -, -, -, -, users⟩
      exact ⟨⟨ports, stated⟩, users⟩
    · rintro ⟨⟨ports, stated⟩, users⟩
      refine ⟨ports, stated, ?_, tlsTexts_kept openvpnJson_coalesced, rfl, rfl,
        ?_, readTexts_arrayOrEmpty, users⟩
      · exact @read_coalesce _ (·.flag.value) (.bool false) rfl _
      · exact @read_coalesce _ (numberOr 1500) (.int 1500) (by decide) _

end OpenVpn

/-- The settings state all that a form and the service would fill in
differently. -/
def FormStated (backend : VpnProtocol) (supported : List String)
    (fields : JsonObject) : Prop :=
  ClientsStated fields ∧
    match backend with
    | .l2tp => RangesFilled fields ∧ IpsecStated fields
    | .pptp => RangesFilled fields
    | .openvpn => PortStated fields ∧ CiphersStated supported fields
    | .openconnect => True
    | .sstp => RangesListed fields ∧ fields.get "mtu" ≠ .null

def annUser : Json :=
  .obj [("id", .str "ann"), ("password", .str "secret"),
    ("email", .str "ann@home"), ("enable", .bool true)]

/-- An OpenVPN inbound from before ciphers could be chosen, with a port of its
own for TCP. -/
def oldServer : JsonObject :=
  [("tcpPort", .int 8443), ("dns1", .str "1.1.1.1"), ("mtu", .null),
    ("clients", .arr [annUser])]

/-- The TCP server of settings without a port moves, and takes more ciphers. -/
def portless : JsonObject :=
  [("dns1", .str "1.1.1.1"), ("clients", .arr [annUser])]

end VpnUi.Form
