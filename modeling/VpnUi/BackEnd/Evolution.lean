import VpnUi.BackEnd.Maintenance
import VpnUi.BackEnd.Mirror
import VpnUi.Panel.Passwords
import VpnUi.Panel.VpnRangeSpec

namespace VpnUi.BackEnd

open Foundation Panel Store

/-! What the panel writes into the settings of an inbound on its way to the
services: ranges and the time stamps of clients, and never the use of IPsec. -/

variable {host : Host} {database after : Database} {backend : VpnProtocol}
  {settings later third : JsonText} {fields : JsonObject}

/-- The L2TP service can parse these settings. -/
def ParsesL2tp (settings : JsonText) : Prop :=
  (settings.decode VpnSettings.l2tpSettings).isSome = true

structure EvolvedSettings (settings later : JsonText) : Prop where
  wants : wantsIpsec later = wantsIpsec settings
  parses : ParsesL2tp settings → ParsesL2tp later

namespace EvolvedSettings

theorem refl : EvolvedSettings settings settings := ⟨rfl, id⟩

theorem trans (first : EvolvedSettings settings later)
    (second : EvolvedSettings later third) : EvolvedSettings settings third :=
  ⟨second.wants.trans first.wants, second.parses ∘ first.parses⟩

end EvolvedSettings

theorem isSome_strict {Value : Type*} {decoded : Decoded Value} :
    decoded.strict.isSome = decoded.fits := by
  unfold Decoded.strict
  split <;> simp_all

theorem ParsesL2tp.fits (parses : ParsesL2tp settings) :
    (VpnSettings.l2tpSettings settings.fields).fits = true := by
  unfold ParsesL2tp at parses
  cases settings with
  | parsed json =>
      simp only [JsonText.decode, isSome_strict] at parses
      cases json with
      | obj | null => exact parses
      | _ => cases parses
  | _ => cases parses

/-- The keys that the panel writes, still well-typed; all others are kept. -/
structure WritesRanges (fields written : JsonObject) : Prop where
  others : ∀ key ∉ ["clients", "ipRanges", "ipRange", "localIp"],
    written.get key = fields.get key
  clients : (VpnSettings.typedClients fields).fits = true →
    (VpnSettings.typedClients written).fits = true
  ranges : (Json.list Json.text (fields.get "ipRanges")).fits = true →
    (Json.list Json.text (written.get "ipRanges")).fits = true
  range : (fields.get "ipRange").text.fits = true →
    (written.get "ipRange").text.fits = true
  gateway : (fields.get "localIp").text.fits = true →
    (written.get "localIp").text.fits = true

theorem WritesRanges.evolved {written : JsonObject}
    (writes : WritesRanges settings.fields written) :
    EvolvedSettings settings (.parsed (.obj written)) where
  wants := by
    change (written.get "ipsecEnable").flag.value = _
    rw [writes.others _ (by decide)]
    rfl
  parses parses := by
    have fits := parses.fits
    have clients := writes.clients
    have others := writes.others
    unfold ParsesL2tp
    simp only [JsonText.decode, Json.record, isSome_strict]
    simp only [VpnSettings.typedClients] at clients
    simp only [VpnSettings.l2tpSettings, VpnSettings.pptpSettings,
      VpnSettings.common, Decoded.fits_checked, Decoded.fits_field,
      Decoded.fits_record, Bool.true_and, Bool.and_eq_true,
      others "clientToClient" (by decide), others "crossInbound" (by decide),
      others "userLimit" (by decide), others "userLimitStrategy" (by decide),
      others "dns1" (by decide), others "dns2" (by decide),
      others "mtu" (by decide), others "ipsecEnable" (by decide),
      others "ipsecPsk" (by decide), others "allowRaw" (by decide)] at fits ⊢
    have ranges := writes.ranges
    have range := writes.range
    have gateway := writes.gateway
    tauto

theorem writesRanges_set_clients {clients : Json}
    (fits : (VpnSettings.typedClients fields).fits = true →
      (Json.list (Json.record VpnClient.decode) clients).fits = true) :
    WritesRanges fields (JsonObject.set fields "clients" clients) where
  others key other := by
    simp only [List.mem_cons, List.not_mem_nil, or_false, not_or] at other
    exact JsonObject.get_set_ne other.1
  clients typed := by
    rw [VpnSettings.typedClients, JsonObject.get_set_self]
    exact fits typed
  ranges := by rw [JsonObject.get_set_ne (by decide)]; exact id
  range := by rw [JsonObject.get_set_ne (by decide)]; exact id
  gateway := by rw [JsonObject.get_set_ne (by decide)]; exact id

theorem writesRanges_writeRanges {normalized : List String} :
    WritesRanges fields (writeRanges backend fields normalized) where
  others key other := by
    simp only [List.mem_cons, List.not_mem_nil, or_false, not_or] at other
    obtain ⟨-, ranges, range, gateway⟩ := other
    rw [JsonObject.get, writeRanges_get?_ne ranges range gateway]
    rfl
  clients := by
    have same : (writeRanges backend fields normalized).get "clients" =
        fields.get "clients" := by
      rw [JsonObject.get,
        writeRanges_get?_ne (by decide) (by decide) (by decide)]
      rfl
    rw [VpnSettings.typedClients, VpnSettings.typedClients, same]
    exact id
  ranges _ := by
    rw [JsonObject.get, writeRanges_ipRanges, Option.getD_some]
    simp [Json.list, Json.text]
  range _ := by
    rw [JsonObject.get, writeRanges_ipRange]
    rfl
  gateway := by
    have stored : ((fields.set "ipRanges" (.arr (normalized.map .str))).remove
        "ipRange").get? "localIp" = fields.get? "localIp" := by
      rw [JsonObject.get?_remove_ne (by decide),
        JsonObject.get?_set_ne (by decide)]
    unfold writeRanges JsonObject.get
    simp only
    split
    · rw [stored]
      exact id
    · split
      · rw [stored]
        exact id
      · rw [JsonObject.get?_set_self]
        exact fun _ => rfl

/-- The normaliser writes the ranges into the settings and nothing else. -/
theorem evolved_normalizeRanges {inbounds : Inbounds}
    {inbound normal : Inbound} {excludeId : Int}
    (accepted : normalizeRanges inbounds inbound excludeId = .ok normal) :
    normal = { inbound with settings := normal.settings } ∧
      EvolvedSettings inbound.settings normal.settings := by
  obtain ⟨written, framed⟩ := normalizeRanges_frame accepted
  refine ⟨by rw [framed], ?_⟩
  rcases inbound.protocol.vpn_or_not with ⟨backend, isVpn⟩ | notVpn
  · obtain ⟨raw, normalized, decoded, -, rfl⟩ :=
      (normalizeRanges_of_vpn isVpn).mp accepted
    have raws : raw = inbound.settings.fields := by
      cases settings : inbound.settings with
      | empty =>
          rw [settings] at decoded
          exact (Option.some.inj decoded).symm
      | malformed =>
          rw [settings] at decoded
          cases decoded
      | parsed json =>
          rw [settings] at decoded
          obtain ⟨object, found, rfl⟩ := Option.map_eq_some_iff.mp decoded
          rw [JsonText.fields, found]
          rfl
    rw [raws]
    exact writesRanges_writeRanges.evolved
  · rw [normalizeRanges_of_not_vpn notVpn] at accepted
    rw [← Except.ok.inj accepted]
    exact EvolvedSettings.refl

theorem fits_encode (client : Client) :
    (Json.record VpnClient.decode client.encode).fits = true := by
  simp only [Client.encode, Json.record, VpnClient.decode, Decoded.fits_field,
    Decoded.fits_record, JsonObject.get, get?_append, get?_textField,
    get?_numberField _ (show "id" ≠ "updated_at" by decide),
    get?_numberField _ (show "id" ≠ "created_at" by decide),
    get?_numberField _ (show "password" ≠ "updated_at" by decide),
    get?_numberField _ (show "password" ≠ "created_at" by decide),
    get?_numberField _ (show "email" ≠ "updated_at" by decide),
    get?_numberField _ (show "email" ≠ "created_at" by decide),
    get?_numberField _ (show "enable" ≠ "updated_at" by decide),
    get?_numberField _ (show "enable" ≠ "created_at" by decide)]
  by_cases name : client.id = "" <;> by_cases secret : client.password = "" <;>
    simp [name, secret, JsonObject.get?, List.lookup_cons, Json.text, Json.flag]

theorem evolved_stampAdded {clients : List Client} {now : Int} :
    EvolvedSettings settings (stampAdded settings clients now) := by
  unfold stampAdded
  split
  next client rest fields =>
    apply WritesRanges.evolved
    apply writesRanges_set_clients
    intro _
    simp only [Json.list, List.all_map, List.all_eq_true]
    exact fun other _ => fits_encode (stampClient now other)
  · exact EvolvedSettings.refl

theorem vpnClient_stampUpdatedClient {old : JsonText} {now : Int} {item : Json} :
    Json.record VpnClient.decode (stampUpdatedClient old now item) =
      Json.record VpnClient.decode item := by
  cases item with
  | obj client =>
      have created : ∀ value, VpnClient.decode
          (if (JsonObject.get? client "created_at").isSome then client
          else JsonObject.set client "created_at" value) =
            VpnClient.decode client := by
        intro value
        split
        · rfl
        · exact vpnClient_set (by decide)
      simp only [stampUpdatedClient, Json.record]
      split
      · exact created _
      · split
        · exact created _
        · exact (vpnClient_set (by decide)).trans (created _)
  | _ => rfl

theorem evolved_stampUpdated {old : JsonText} {now : Int} :
    EvolvedSettings settings (stampUpdated old settings now) := by
  unfold stampUpdated
  split
  next fields =>
    split
    next clients stored =>
      apply WritesRanges.evolved
      apply writesRanges_set_clients
      intro fits
      change (Json.list _ (JsonObject.get fields "clients")).fits = true at fits
      rw [stored] at fits
      simp only [Json.list, List.all_map, List.all_eq_true] at fits ⊢
      intro item member
      rw [Function.comp_apply, vpnClient_stampUpdatedClient]
      exact fits item member
    · exact EvolvedSettings.refl
  · exact EvolvedSettings.refl

/-- A row of the table after a change of the panel. -/
structure Evolved (backend : VpnProtocol) (row later : StoredInbound) :
    Prop where
  id : later.id = row.id
  protocol : later.protocol = row.protocol
  enable : later.enable = row.enable
  settings : EvolvedSettings row.settings later.settings
  elsewhere : row.protocol ≠ .vpn backend → later.toInbound = row.toInbound

theorem Evolved.refl {row : StoredInbound} : Evolved backend row row :=
  ⟨rfl, rfl, rfl, .refl, fun _ => rfl⟩

section Expand

/-- One inbound of the protocol is expanded, as the table had it at first. -/
theorem Evolved.expandInbound {row : StoredInbound}
    (stored : row ∈ database.inbounds) (own : row.protocol = .vpn backend)
    (evolved : List.Forall₂ (Evolved backend) database.inbounds.rows
      after.inbounds.rows) :
    List.Forall₂ (Evolved backend) database.inbounds.rows
      (expandInbound after row).inbounds.rows := by
  unfold BackEnd.expandInbound
  split
  · exact evolved
  next expanded accepted =>
    obtain ⟨-, settings⟩ := evolved_normalizeRanges accepted
    change List.Forall₂ _ _ (after.inbounds.rows.map _)
    rw [List.forall₂_map_right_iff]
    refine ((List.forall₂_and_left _ _).mpr
      ⟨fun _ member => member, evolved⟩).imp ?_
    intro old later ⟨member, evolved⟩
    unfold setSettings
    split
    next here =>
      obtain rfl : old = row :=
        Table.eq_of_key_eq member stored (evolved.id.symm.trans here)
      exact ⟨evolved.id, evolved.protocol, evolved.enable, settings,
        fun other => absurd own other⟩
    · exact evolved

theorem evolved_expandVpnRanges :
    List.Forall₂ (Evolved backend) database.inbounds.rows
      (expandVpnRanges database backend).inbounds.rows := by
  have loop : ∀ rows : List StoredInbound, (∀ row ∈ rows,
        row ∈ database.inbounds ∧ row.protocol = .vpn backend) →
      ∀ after : Database, List.Forall₂ (Evolved backend) database.inbounds.rows
        after.inbounds.rows → List.Forall₂ (Evolved backend)
          database.inbounds.rows (rows.foldl expandInbound after).inbounds.rows := by
    intro rows
    induction rows with
    | nil => exact fun _ _ evolved => evolved
    | cons row rest induction =>
        intro stored after evolved
        rw [List.forall_mem_cons] at stored
        exact induction stored.2 _
          (Evolved.expandInbound stored.1.1 stored.1.2 evolved)
  apply loop
  · intro row member
    exact mem_rowsOf.mp member
  · exact List.forall₂_same.mpr fun _ _ => Evolved.refl

/-- The expansion of one protocol does not show in another one. -/
theorem refreshedRows_elsewhere {other : VpnProtocol}
    (differs : other ≠ backend) :
    refreshedRows host backend database other =
      servedRows host database other := by
  rw [refreshedRows, servedRows_eq, servedRows_eq, rowsOf, rowsOf]
  have evolved := @evolved_expandVpnRanges database backend
  generalize database.inbounds.rows = rows at evolved ⊢
  generalize (expandVpnRanges database backend).inbounds.rows = others
    at evolved ⊢
  induction evolved with
  | nil => rfl
  | @cons row later _ _ evolved _ induction =>
      have protocol := evolved.protocol
      by_cases own : row.protocol = .vpn other
      · have same := evolved.elsewhere fun clash => by
          rw [own, Protocol.vpn.injEq] at clash
          exact differs clash
        rw [List.filter_cons_of_pos (by simpa using protocol.trans own),
          List.filter_cons_of_pos (by simpa using own), List.map_cons,
          List.map_cons, induction, same]
      · have later_ : later.protocol ≠ .vpn other := protocol ▸ own
        rw [List.filter_cons_of_neg (by simpa using later_),
          List.filter_cons_of_neg (by simpa using own), induction]

end Expand

end VpnUi.BackEnd
