import VpnUi.Panel.Machine
import VpnUi.Panel.OperationsSpec
import VpnUi.Panel.VpnRangeSpec

namespace VpnUi.Panel

open Foundation Address

/-! Whether two inbounds can come to own a common /24. -/

/-- No /24 belongs to two inbounds. -/
def Separate (inbounds : Inbounds) : Prop :=
  ∀ left ∈ inbounds, ∀ right ∈ inbounds, left.id ≠ right.id →
    ∀ subnet ∈ ownedSubnets left, subnet ∉ ownedSubnets right

/-- An event that cannot join two inbounds: an import brings no /24 that is
owned, and an update of another inbound than the one in its path is not a VPN
inbound, or the one in the path owns nothing. -/
def KeepsSeparate (inbounds : Inbounds) : PanelEvent × PanelHost → Prop
  | (.importInbound data, host) =>
      ∀ subnet ∈ ownedSubnets { data with id := host.freshId },
        subnet ∉ usedVpnSubnets inbounds host.freshId
  | (.updateInbound pathId form, _) =>
      form.id = pathId ∨ form.protocol.isVpnProtocol = false ∨
        ∀ path, inbounds.find? pathId = some path → ownedSubnets path = []
  | _ => True

/-- What an inbound owns depends on its protocol, its stored ranges and, only
when it stores none, its id. -/
theorem ownedSubnets_congr {left right : Inbound}
    (protocol : left.protocol = right.protocol)
    (ranges : decodeRanges left.settings.fields =
      decodeRanges right.settings.fields)
    (id : left.id = right.id ∨
      decodeRanges right.settings.fields ≠ []) :
    ownedSubnets left = ownedSubnets right := by
  have same : ∀ backend, inboundRanges left backend =
      inboundRanges right backend := by
    intro backend
    unfold inboundRanges
    rw [ranges]
    rcases id with same | stored
    · rw [same]
    · cases listed : decodeRanges right.settings.fields with
      | nil => exact absurd listed stored
      | cons head tail => rfl
  unfold ownedSubnets
  rw [protocol]
  simp only [same]

theorem decodeRanges_set_clients (fields : JsonObject) (clients : Json) :
    decodeRanges (JsonObject.set fields "clients" clients) =
      decodeRanges fields :=
  decodeRanges_congr (JsonObject.get?_set_ne (by decide))
    (JsonObject.get?_set_ne (by decide))

theorem decodeRanges_stampAdded (settings : JsonText) (clients : List Client)
    (now : Int) :
    decodeRanges (stampAdded settings clients now).fields =
      decodeRanges settings.fields := by
  unfold stampAdded
  split
  · exact decodeRanges_set_clients _ _
  · rfl

theorem decodeRanges_stampUpdated (old settings : JsonText) (now : Int) :
    decodeRanges (stampUpdated old settings now).fields =
      decodeRanges settings.fields := by
  unfold stampUpdated
  split
  · split
    · exact decodeRanges_set_clients _ _
    · rfl
  · rfl

theorem ownedSubnets_withClients (old : Inbound) (clients : List Json) :
    ownedSubnets (withClients old clients) = ownedSubnets old :=
  ownedSubnets_congr rfl (decodeRanges_set_clients _ _) (.inl rfl)

section Tables

variable {inbounds : Inbounds} {row : Inbound}

/-- Saving a row keeps the table separate when the row owns no /24 of another
one. -/
theorem Separate.save (separate : Separate inbounds)
    (apart : ∀ other ∈ inbounds, other.id ≠ row.id →
      ∀ subnet ∈ ownedSubnets row, subnet ∉ ownedSubnets other) :
    Separate (inbounds.save row) := by
  intro left leftMember right rightMember differ subnet owned taken
  rcases Table.mem_save.mp leftMember with rfl | ⟨leftOld, leftOther⟩
  · rcases Table.mem_save.mp rightMember with rfl | ⟨rightOld, rightOther⟩
    · exact differ rfl
    · exact apart right rightOld rightOther subnet owned taken
  · rcases Table.mem_save.mp rightMember with rfl | ⟨rightOld, -⟩
    · exact apart left leftOld leftOther subnet taken owned
    · exact separate left leftOld right rightOld differ subnet owned taken

/-- A row that owns what a stored row with its id owns may replace it. -/
theorem Separate.save_same (separate : Separate inbounds) {old : Inbound}
    (member : old ∈ inbounds) (id : row.id = old.id)
    (same : ownedSubnets row = ownedSubnets old) :
    Separate (inbounds.save row) := by
  apply separate.save
  intro other otherMember differs subnet owned
  rw [same] at owned
  exact separate old member other otherMember
    (fun equal => differs (equal.symm.trans id.symm)) subnet owned

theorem Separate.delete (separate : Separate inbounds) {id : Int} :
    Separate (inbounds.delete id) := by
  intro left leftMember right rightMember
  exact separate left (Table.mem_delete.mp leftMember).1 right
    (Table.mem_delete.mp rightMember).1

theorem Separate.autoExpandInbound (separate : Separate inbounds)
    (inbound : Inbound) :
    Separate (autoExpandInbound inbounds inbound) := by
  unfold Panel.autoExpandInbound
  split
  · exact separate
  next expanded accepted =>
    apply separate.save
    intro other member differs subnet owned
    obtain ⟨settings, frame⟩ := normalizeRanges_frame accepted
    have id : expanded.id = inbound.id := by rw [frame]
    exact normalizeRanges_separate accepted member
      (fun equal => differs (equal.trans id.symm)) owned

theorem Separate.autoExpandVpnRanges (separate : Separate inbounds)
    (backend : VpnProtocol) :
    Separate (autoExpandVpnRanges inbounds backend) := by
  have folded : ∀ (rows : List Inbound) (table : Inbounds), Separate table →
      Separate (rows.foldl Panel.autoExpandInbound table) := by
    intro rows
    induction rows with
    | nil => exact fun _ => id
    | cons head tail induction =>
        intro table before
        exact induction _ (before.autoExpandInbound head)
  exact folded _ _ separate

end Tables

section Steps

variable {inbounds next : Inbounds} {host : PanelHost}

/-- Every row has a key other than 0, so excluding 0 excludes no inbound. -/
def Keyed (inbounds : Inbounds) : Prop := ∀ row ∈ inbounds, row.id ≠ 0

/-- Whatever id a normalised inbound is saved under, it owns the same. -/
theorem ownedSubnets_saved {inbound normal : Inbound} {excludeId : Int}
    (row : Inbound)
    (accepted : normalizeRanges inbounds inbound excludeId = .ok normal)
    (protocol : row.protocol = normal.protocol)
    (ranges : decodeRanges row.settings.fields =
      decodeRanges normal.settings.fields) :
    ownedSubnets row = ownedSubnets normal := by
  rcases inbound.protocol.vpn_or_not with ⟨backend, isVpn⟩ | notVpn
  · exact ownedSubnets_congr protocol ranges
      (.inr (normalizeRanges_stored isVpn accepted))
  · rw [normalizeRanges_of_not_vpn notVpn] at accepted
    obtain rfl := Except.ok.inj accepted
    rw [ownedSubnets_of_not_vpn notVpn,
      ownedSubnets_of_not_vpn (by rw [protocol]; exact notVpn)]

theorem Separate.addInboundRequest (separate : Separate inbounds)
    (keyed : Keyed inbounds) {form : Inbound}
    (accepted : addInboundRequest inbounds form host = .ok next) :
    Separate next := by
  unfold Panel.addInboundRequest at accepted
  simp only at accepted
  split at accepted
  · cases accepted
  split at accepted
  · cases accepted
  next normal normalized =>
    obtain ⟨clients, -, rfl⟩ := addInbound_eq_ok accepted
    apply separate.save
    intro other member _ subnet owned
    apply normalizeRanges_separate normalized member (keyed other member)
    have same := ownedSubnets_saved { normal with
        id := if normal.id = 0 then host.freshId else normal.id
        settings := stampAdded normal.settings clients host.now }
      normalized rfl (decodeRanges_stampAdded normal.settings clients host.now)
    exact same ▸ owned

theorem Separate.updateInboundRequest (separate : Separate inbounds)
    {pathId : Int} {form : Inbound}
    (guard : KeepsSeparate inbounds (.updateInbound pathId form, host))
    (accepted : updateInboundRequest inbounds pathId form host = .ok next) :
    Separate next := by
  unfold Panel.updateInboundRequest at accepted
  split at accepted
  · cases accepted
  next normal normalized =>
    obtain ⟨settings, frame⟩ := normalizeRanges_frame normalized
    obtain ⟨old, oldMember, sameId, rfl⟩ := updateInbound_eq_ok accepted
    apply separate.save
    intro other member differs subnet owned
    have same := ownedSubnets_saved { old with
        enable := normal.enable
        listen := normal.listen
        port := normal.port
        protocol := normal.protocol
        settings := stampUpdated old.settings normal.settings host.now
        tag := inboundTag normal.listen normal.port }
      normalized rfl (decodeRanges_stampUpdated _ normal.settings _)
    rw [same] at owned
    have formId : old.id = form.id := by rw [sameId, frame]
    by_cases counted : other.id = pathId
    · rcases guard with same | notVpn | nothing
      · exact absurd (counted.trans (same.symm.trans formId.symm)) differs
      · rw [normalizeRanges_of_not_vpn notVpn] at normalized
        obtain rfl := Except.ok.inj normalized
        rw [ownedSubnets_of_not_vpn notVpn] at owned
        cases owned
      · rw [nothing other (Table.find?_eq_some.mpr ⟨member, counted⟩)]
        exact List.not_mem_nil
    · exact normalizeRanges_separate normalized member counted owned

theorem Separate.importInbound (separate : Separate inbounds)
    {data : Inbound}
    (guard : KeepsSeparate inbounds (.importInbound data, host))
    (accepted : addInbound inbounds (importedRow data) host = .ok next) :
    Separate next := by
  obtain ⟨clients, -, rfl⟩ := addInbound_eq_ok accepted
  apply separate.save
  intro other member differs subnet owned taken
  have same : ownedSubnets { importedRow data with
      id := if (importedRow data).id = 0 then host.freshId
        else (importedRow data).id
      settings := stampAdded (importedRow data).settings clients host.now } =
        ownedSubnets { data with id := host.freshId } :=
    ownedSubnets_congr rfl (decodeRanges_stampAdded _ _ _) (.inl rfl)
  rw [same] at owned
  exact guard subnet owned
    (mem_usedVpnSubnets.mpr ⟨other, member, differs, taken⟩)

theorem Separate.maintainRow (separate : Separate inbounds) {row : Inbound}
    (accepted : maintainRow inbounds row = .ok next) : Separate next := by
  unfold Panel.maintainRow at accepted
  split at accepted
  · cases accepted
  next old found =>
    obtain ⟨member, id⟩ := Table.find?_eq_some.mp found
    split at accepted
    next kept =>
      obtain rfl := Except.ok.inj accepted
      exact separate.save_same member id.symm
        (ownedSubnets_congr kept.1 kept.2.1 (.inl id.symm))
    · cases accepted

/-- One guarded step keeps the inbounds separate. -/
theorem Separate.perform (separate : Separate inbounds)
    (keyed : Keyed inbounds) {event : PanelEvent}
    (guard : KeepsSeparate inbounds (event, host))
    (accepted : perform inbounds event host = .ok next) :
    Separate next := by
  cases event with
  | addInbound form => exact separate.addInboundRequest keyed accepted
  | updateInbound pathId form =>
      exact separate.updateInboundRequest guard accepted
  | importInbound data => exact separate.importInbound guard accepted
  | delInbound id =>
      rw [delInbound_eq_ok accepted]
      exact separate.delete
  | addInboundClient data =>
      obtain ⟨old, member, -, stored, added, -, -, rfl⟩ :=
        addInboundClient_eq_ok accepted
      exact separate.save_same member rfl (ownedSubnets_withClients old _)
  | delInboundClient id clientId =>
      obtain ⟨old, member, -, stored, -, rfl⟩ := delInboundClient_eq_ok accepted
      exact separate.save_same member rfl (ownedSubnets_withClients old _)
  | updateInboundClient data clientId =>
      obtain ⟨old, member, -, stored, replacement, given, index, -, -, rfl⟩ :=
        updateInboundClient_eq_ok accepted
      exact separate.save_same member rfl (ownedSubnets_withClients old _)
  | autoExpand backend =>
      obtain rfl := Except.ok.inj accepted
      exact separate.autoExpandVpnRanges backend
  | maintain row => exact separate.maintainRow accepted

theorem Keyed.save (keyed : Keyed inbounds) {row : Inbound}
    (positive : row.id ≠ 0) : Keyed (inbounds.save row) := by
  intro other member
  rcases Table.mem_save.mp member with rfl | ⟨old, -⟩
  · exact positive
  · exact keyed other old

theorem Keyed.autoExpandVpnRanges (keyed : Keyed inbounds)
    (backend : VpnProtocol) : Keyed (autoExpandVpnRanges inbounds backend) := by
  have folded : ∀ (rows : List Inbound) (table : Inbounds),
      (∀ row ∈ rows, row.id ≠ 0) → Keyed table →
        Keyed (rows.foldl autoExpandInbound table) := by
    intro rows
    induction rows with
    | nil => exact fun _ _ => id
    | cons head tail induction =>
        intro table positive before
        apply induction _ (fun row member =>
          positive row (List.mem_cons_of_mem head member))
        unfold autoExpandInbound
        split
        · exact before
        next expanded accepted =>
          apply before.save
          obtain ⟨settings, rfl⟩ := normalizeRanges_frame accepted
          exact positive head List.mem_cons_self
  apply folded _ _ _ keyed
  intro row member
  exact keyed row (Inbounds.mem_ofProtocol.mp member).1

theorem Keyed.perform (keyed : Keyed inbounds) {event : PanelEvent}
    (fits : HostFits inbounds host)
    (accepted : perform inbounds event host = .ok next) : Keyed next := by
  have added : ∀ {inbound : Inbound},
      addInbound inbounds inbound host = .ok next → Keyed next := by
    intro inbound accepted
    obtain ⟨clients, -, rfl⟩ := addInbound_eq_ok accepted
    apply keyed.save
    have positive := fits.1
    change (if inbound.id = 0 then host.freshId else inbound.id) ≠ 0
    split
    · omega
    next given => exact given
  cases event with
  | addInbound form =>
      simp only [Panel.perform, Panel.addInboundRequest] at accepted
      split at accepted
      · cases accepted
      split at accepted
      · cases accepted
      exact added accepted
  | updateInbound pathId form =>
      simp only [Panel.perform, Panel.updateInboundRequest] at accepted
      split at accepted
      · cases accepted
      obtain ⟨old, member, -, rfl⟩ := updateInbound_eq_ok accepted
      exact keyed.save (keyed old member)
  | importInbound data => exact added accepted
  | delInbound id =>
      rw [delInbound_eq_ok accepted]
      intro row member
      exact keyed row (Table.mem_delete.mp member).1
  | addInboundClient data =>
      obtain ⟨old, member, -, stored, new, -, -, rfl⟩ :=
        addInboundClient_eq_ok accepted
      exact keyed.save (keyed old member)
  | delInboundClient id clientId =>
      obtain ⟨old, member, -, stored, -, rfl⟩ := delInboundClient_eq_ok accepted
      exact keyed.save (keyed old member)
  | updateInboundClient data clientId =>
      obtain ⟨old, member, -, stored, replacement, given, index, -, -, rfl⟩ :=
        updateInboundClient_eq_ok accepted
      exact keyed.save (keyed old member)
  | autoExpand backend =>
      obtain rfl := Except.ok.inj accepted
      exact keyed.autoExpandVpnRanges backend
  | maintain row =>
      simp only [Panel.perform, Panel.maintainRow] at accepted
      split at accepted
      · cases accepted
      next old found =>
        obtain ⟨member, id⟩ := Table.find?_eq_some.mp found
        split at accepted
        · obtain rfl := Except.ok.inj accepted
          exact keyed.save (id ▸ keyed old member)
        · cases accepted

end Steps

/-- In a run of guarded requests from an empty table, no two inbounds ever own
a common /24. -/
theorem separate_throughout {calls : List (PanelEvent × PanelHost)}
    (guarded : machine.Guarded KeepsSeparate noInbounds calls) :
    machine.Throughout Separate noInbounds calls := by
  have both : machine.Throughout (fun inbounds =>
      Separate inbounds ∧ Keyed inbounds) noInbounds calls := by
    apply machine.throughout_of_guarded _ _ guarded
    · rintro inbounds ⟨event, host⟩ next ⟨separate, keyed⟩ guard stepped
      obtain ⟨fits, accepted⟩ := step_eq_some.mp stepped
      exact ⟨separate.perform keyed guard accepted,
        keyed.perform fits accepted⟩
    · exact ⟨fun left member => absurd member Table.not_mem_empty,
        fun row member => absurd member Table.not_mem_empty⟩
  exact both.imp machine fun _ => And.left

/-- The settings of an inbound without clients, with one stored range. -/
def settingsWithRange (range : String) : JsonText :=
  .parsed (.obj [("clients", .arr []), ("ipRanges", .arr [.str range])])

def inboundWithRange (backend : VpnProtocol) (port : Int) (range : String) :
    Inbound :=
  ⟨0, "", port, .vpn backend, settingsWithRange range, true, ""⟩

theorem separate_throughout_import_then_add :
    let calls := [
      (PanelEvent.importInbound
        (inboundWithRange .l2tp 1701 "10.0.5.2-10.0.5.254"), hostWithId 1),
      (.addInbound
        (inboundWithRange .pptp 1723 "10.1.7.2-10.1.7.254"), hostWithId 2)]
    (machine.run noInbounds calls).map
        (fun inbounds => inbounds.rows.map ownedSubnets) =
      some [[⟨10, 0, 5⟩], [⟨10, 1, 7⟩]] ∧
    machine.Throughout Separate noInbounds calls := by
  refine ⟨by decide +kernel, separate_throughout ⟨?_, fun _ _ => ?_⟩⟩
  · intro subnet _
    exact List.not_mem_nil
  · exact ⟨trivial, fun _ _ => trivial⟩

instance (inbounds : Inbounds) : Decidable (Separate inbounds) :=
  inferInstanceAs (Decidable (∀ left ∈ inbounds.rows,
    ∀ right ∈ inbounds.rows, left.id ≠ right.id →
      ∀ subnet ∈ ownedSubnets left, subnet ∉ ownedSubnets right))

/-- Two imports with the same stored range are both accepted. -/
theorem joined_after_imports :
    ¬ ∀ calls, machine.Throughout Separate noInbounds calls := by
  intro always
  have throughout := always [
    (.importInbound
      (inboundWithRange .l2tp 1701 "10.0.5.2-10.0.5.254"), hostWithId 1),
    (.importInbound
      (inboundWithRange .pptp 1723 "10.0.5.2-10.0.5.254"), hostWithId 2)]
  have separate := throughout.final _ rfl
  exact absurd separate (by decide +kernel)

end VpnUi.Panel
