import VpnUi.BackEnd.Handlers
import VpnUi.Panel.CheckedSpec

namespace VpnUi.BackEnd

open Foundation Panel Store

/-! What a change of the inbounds table leaves of what the services read. -/

variable {host : Host} {database after : Database} {backend : VpnProtocol}
  {row : StoredInbound}

theorem servedRows_eq : servedRows host database backend =
    (rowsOf database backend).map fun row =>
      serve host backend row.toInbound := by
  simp only [servedRows, Inbounds.ofProtocol, StoredInbounds.view, rowsOf,
    List.filter_map, List.map_map]
  rfl

theorem mem_rowsOf : row ∈ rowsOf database backend ↔
    row ∈ database.inbounds ∧ row.protocol = .vpn backend := by
  simp [rowsOf, Table.mem_def]

theorem mem_othersOf {id : Int} : row ∈ othersOf database backend id ↔
    row ∈ rowsOf database backend ∧ row.id ≠ id := by
  simp [othersOf]

/-- Rows are replaced by others that the services read alike. -/
theorem servedRows_mapRows {change : StoredInbound → StoredInbound}
    {keeps : ∀ row, (change row).id = row.id}
    (protocol : ∀ row ∈ database.inbounds,
      (change row).protocol = row.protocol)
    (same : ∀ row ∈ rowsOf database backend,
      serve host backend (change row).toInbound =
        serve host backend row.toInbound) :
    servedRows host
      { database with inbounds := database.inbounds.mapRows change keeps }
      backend = servedRows host database backend := by
  have rows : rowsOf
      { database with inbounds := database.inbounds.mapRows change keeps }
      backend = (rowsOf database backend).map change := by
    simp only [rowsOf, Table.mapRows, List.filter_map]
    congr 1
    apply List.filter_congr
    intro row member
    simp only [Function.comp_apply, protocol row member]
  rw [servedRows_eq, servedRows_eq, rows, List.map_map]
  exact List.map_congr_left same

/-- The rows of other protocols are out of reach of a save. -/
theorem rowsOf_save (protocol : row.protocol ≠ .vpn backend)
    (apart : ∀ old ∈ database.inbounds, old.id = row.id →
      old.protocol ≠ .vpn backend) :
    rowsOf { database with inbounds := database.inbounds.save row } backend =
      rowsOf database backend := by
  have tables : (database.inbounds.save row).filter
        (·.protocol = .vpn backend) =
      database.inbounds.filter (·.protocol = .vpn backend) := by
    apply Table.ext_mem
    intro other
    simp only [Table.mem_filter, Table.mem_save, decide_eq_true_eq]
    constructor
    · rintro ⟨rfl | ⟨member, -⟩, own⟩
      · exact absurd own protocol
      · exact ⟨member, own⟩
    · rintro ⟨member, own⟩
      exact ⟨.inr ⟨member, fun same => apart other member same own⟩, own⟩
  exact congrArg Table.rows tables

theorem servedRows_save (protocol : row.protocol ≠ .vpn backend)
    (apart : ∀ old ∈ database.inbounds, old.id = row.id →
      old.protocol ≠ .vpn backend) :
    servedRows host
      { database with inbounds := database.inbounds.save row } backend =
      servedRows host database backend := by
  rw [servedRows_eq, servedRows_eq, rowsOf_save protocol apart]

theorem rowsOf_delete {id : Int} :
    rowsOf { database with inbounds := database.inbounds.delete id } backend =
      othersOf database backend id := by
  simp only [rowsOf, othersOf, Table.delete, List.filter_filter]
  apply List.filter_congr
  intro row _
  rw [Bool.and_comm]

/-- Nor does a row of another protocol show when it is deleted. -/
theorem servedRows_delete {id : Int}
    (apart : ∀ old ∈ database.inbounds, old.id = id →
      old.protocol ≠ .vpn backend) :
    servedRows host
      { database with inbounds := database.inbounds.delete id } backend =
      servedRows host database backend := by
  rw [servedRows_eq, servedRows_eq, rowsOf_delete, othersOf,
    List.filter_eq_self.mpr]
  intro row member
  obtain ⟨stored, own⟩ := mem_rowsOf.mp member
  simpa using fun same => apart row stored same own

theorem servedRows_congr (same : after.inbounds = database.inbounds) :
    servedRows host after = servedRows host database := by
  unfold servedRows
  rw [same]

section Reading

variable {fields : JsonObject} {clients : Json}

/-- The readings leave the clients out. -/
theorem readSettings_set_clients {port : Int} :
    readSettings host backend port (JsonObject.set fields "clients" clients) =
      readSettings host backend port fields := by
  cases backend <;>
    simp (disch := decide) only [readSettings, Form.serviceView, Form.sockets,
      Form.ciphers, Form.ipsec, Form.tlsKeys, OpenVpnPorts.decode, List.map,
      VpnSettings.decoder, VpnSettings.l2tpSettings, VpnSettings.pptpSettings,
      VpnSettings.openvpnSettings, VpnSettings.ocservSettings,
      VpnSettings.sstpSettings, VpnSettings.common, VpnSettings.checkedTls,
      VpnSettings.checkedTexts, VpnSettings.effectiveRanges,
      JsonObject.get_set_ne, Decoded.field, Decoded.checked, Decoded.record,
      List.foldl] <;>
    rfl

theorem fits_set_clients
    (same : (VpnSettings.typedClients
        (JsonObject.set fields "clients" clients)).fits =
      (VpnSettings.typedClients fields).fits) :
    (VpnSettings.decoder backend
        (JsonObject.set fields "clients" clients)).fits =
      (VpnSettings.decoder backend fields).fits := by
  simp only [VpnSettings.typedClients, JsonObject.get_set_self] at same
  cases backend <;>
    simp (disch := decide) only [VpnSettings.decoder, VpnSettings.l2tpSettings,
      VpnSettings.pptpSettings, VpnSettings.openvpnSettings,
      VpnSettings.ocservSettings, VpnSettings.sstpSettings, VpnSettings.common,
      VpnSettings.checkedTls, VpnSettings.checkedTexts, JsonObject.get_set_ne,
      JsonObject.get_set_self, Decoded.field, Decoded.checked, Decoded.record,
      List.foldl, same]

theorem settings_of_get {key : String} {value : Json}
    {settings : JsonText} (found : settings.fields.get key = value)
    (present : value ≠ .null) :
    settings = .parsed (.obj settings.fields) := by
  unfold JsonText.fields JsonText.object? at found ⊢
  split at found
  · rfl
  all_goals exact absurd found.symm present

/-- A row whose clients are exchanged for ones that are typed as well. -/
theorem serve_withItems {items : List Json}
    (stored : JsonObject.get row.settings.fields "clients" = .arr items)
    (same : (VpnSettings.typedClients
        (JsonObject.set row.settings.fields "clients" clients)).fits =
      (VpnSettings.typedClients row.settings.fields).fits) :
    serve host backend (withItems row clients).toInbound =
      serve host backend row.toInbound := by
  have parsed := settings_of_get stored (by simp)
  simp only [serve, withItems]
  congr 1
  conv_rhs => rw [parsed]
  change Decoded.strict ⟨readSettings host backend _ _, _⟩ =
    Decoded.strict ⟨readSettings host backend _ _, _⟩
  rw [readSettings_set_clients, fits_set_clients same]

end Reading

end VpnUi.BackEnd
