import VpnUi.BackEnd.Evolution
import VpnUi.Store.MirrorSteps

namespace VpnUi.BackEnd

open Foundation Panel Store

/-! The requests that change one inbound: what they make of the table, and why
the planned inbounds are the ones that the refresh finds. -/

variable {host : Host} {panelHost : PanelHost} {database after : Database}
  {backend : VpnProtocol} {form row : StoredInbound}

/-- The row a request saves for a form. -/
structure SavedAs (form : StoredInbound) (id : Int) (row : StoredInbound) :
    Prop where
  id : row.id = id
  protocol : row.protocol = form.protocol
  enable : row.enable = form.enable
  settings : EvolvedSettings form.settings row.settings

theorem SavedAs.of_normal {normal : StoredInbound} {id excludeId : Int}
    (accepted : normalizeVpnRanges database form excludeId = .ok normal)
    (saved : SavedAs normal id row) : SavedAs form id row ∧
      normal.id = form.id := by
  unfold normalizeVpnRanges at accepted
  split at accepted
  · cases accepted
  next inbound normalized =>
    obtain rfl := Except.ok.inj accepted
    obtain ⟨same, settings⟩ := evolved_normalizeRanges normalized
    have protocol : inbound.protocol = form.protocol := by rw [same]
    have enable : inbound.enable = form.enable := by rw [same]
    have id : inbound.id = form.id := by rw [same]
    exact ⟨⟨saved.id, saved.protocol.trans protocol,
      saved.enable.trans enable, settings.trans saved.settings⟩, id⟩

section Requests

theorem createStats_inbounds {clientStats : List ClientTraffic} {id : Int}
    (created : clientStats.foldlM (fun state stat =>
      Database.createStat state { stat with inboundId := id }) database =
        some after) : after.inbounds = database.inbounds := by
  induction clientStats generalizing database with
  | nil =>
      obtain rfl := Option.some.inj created
      rfl
  | cons stat rest induction =>
      rw [List.foldlM_cons] at created
      obtain ⟨next, first, later⟩ := Option.bind_eq_some_iff.mp created
      rw [induction later, (Database.createStat_eq_some.mp first).2]

/-- A request that is refused leaves the inbounds; an added form is saved under
its id, or under the new key. -/
theorem inbounds_addInbound {clientStats : List ClientTraffic}
    {error : Option RequestError}
    (ran : Store.perform (.addInbound form clientStats) panelHost Call.noFaults
      database = (error, after)) :
    error ≠ none ∧ after.inbounds = database.inbounds ∨
      error = none ∧ ∃ row, SavedAs form (addedId form panelHost) row ∧
        after.inbounds = database.inbounds.save row := by
  change Call.run database Call.noFaults 0
    (Store.addInbound form clientStats panelHost database) database = _ at ran
  unfold Store.addInbound checked at ran
  split at ran
  next refused =>
    obtain ⟨rfl, rfl⟩ := Prod.mk.inj ran
    exact .inl ⟨by simp, rfl⟩
  next added accepted =>
    have spec := addedInbound_eq_ok accepted
    have first : (write .rolledBack (saveWithStats (withInbound form added.row)
        clientStats)).attempt (Call.noFaults 0) database =
          saveWithStats (withInbound form added.row) clientStats database := rfl
    rw [Call.run, first] at ran
    cases saved : saveWithStats (withInbound form added.row) clientStats
        database with
    | some next =>
      rw [saved] at ran
      obtain ⟨first, stored, created⟩ := Option.bind_eq_some_iff.mp saved
      have ignores : ∀ call ∈ (if clientStats = [] then
          added.clients.map fun client => write .ignored (Database.createStat ·
            (clientStat (withInbound form added.row).id client))
        else []), call.onError = .ignored := by
        intro call member
        split at member
        · obtain ⟨client, -, rfl⟩ := List.mem_map.mp member
          rfl
        · cases member
      have succeeded := @Call.run_of_ignored _ _ database Call.noFaults 1 _ next
        ignores
      obtain rfl : none = error :=
        succeeded.symm.trans (congrArg Prod.fst ran)
      refine .inr ⟨rfl, withInbound form added.row, ?_, ?_⟩
      · refine ⟨?_, ?_, ?_, ?_⟩
        · change added.row.id = _
          rw [spec.row]
          rfl
        · change added.row.protocol = _
          rw [spec.row]
        · change added.row.enable = _
          rw [spec.row]
        · change EvolvedSettings _ added.row.settings
          rw [spec.row]
          exact evolved_stampAdded
      · have kept := Call.run_frame Database.inbounds ?_ ran
        · rw [kept, createStats_inbounds created,
            Database.saveInbound_eq_some stored]
        · intro call member before next effect
          split at member
          · obtain ⟨client, -, rfl⟩ := List.mem_map.mp member
            rw [(Database.createStat_eq_some.mp effect).2]
          · cases member
    | none =>
      rw [saved] at ran
      obtain ⟨rfl, rfl⟩ := Prod.mk.inj ran
      exact .inl ⟨by simp, rfl⟩

theorem inbounds_updateClientTraffics {inboundId : Int}
    {oldClients newClients : List Client} {call : Statement}
    (member : call ∈ updateClientTraffics inboundId oldClients newClients)
    {before next : Database} (effect : call.effect before = some next) :
    next.inbounds = before.inbounds := by
  rcases List.mem_append.mp member with member | member
  · obtain ⟨client, -, rfl⟩ := List.mem_map.mp member
    obtain rfl := Option.some.inj effect
    rfl
  · obtain ⟨client, -, rfl⟩ := List.mem_map.mp member
    rw [(Database.createStat_eq_some.mp effect).2]

theorem inbounds_updateInbound {error : Option RequestError}
    (ran : Store.perform (.updateInbound form) panelHost Call.noFaults
      database = (error, after)) :
    error ≠ none ∧ after.inbounds = database.inbounds ∨
      error = none ∧ ∃ row, SavedAs form form.id row ∧
        after.inbounds = database.inbounds.save row := by
  change Call.run database Call.noFaults 0
    (Store.updateInbound form panelHost database) database = _ at ran
  unfold Store.updateInbound checked at ran
  split at ran
  next refused =>
    obtain ⟨rfl, rfl⟩ := Prod.mk.inj ran
    exact .inl ⟨by simp, rfl⟩
  next updated accepted =>
    obtain ⟨old, spec⟩ := updatedInbound_eq_ok accepted
    obtain ⟨stored, inTable, rfl⟩ := find?_view_eq_some spec.found
    have sameId := (Table.find?_eq_some.mp inTable).2
    have rowId : updated.row.id = form.id := by
      rw [spec.row]
      exact sameId
    cases error with
    | some error =>
        refine .inl ⟨by simp, ?_⟩
        exact Call.run_frame_error Database.inbounds
          (fun call member _ _ => inbounds_updateClientTraffics member) rfl ran
    | none =>
        obtain ⟨reached, stats, saved⟩ := Call.run_append_eq_none.mp ran
        have kept := Call.run_frame Database.inbounds
          (fun call member _ _ => inbounds_updateClientTraffics member) stats
        have written := run_saveInbound (by simp) saved
        refine .inr ⟨rfl, _, ?_, by rw [written, kept]⟩
        have changed : changedRow database updated.row =
            withInbound stored updated.row := by
          rw [changedRow, rowId, inTable]
        rw [changed]
        refine ⟨rowId, ?_, ?_, ?_⟩
        · change updated.row.protocol = _
          rw [spec.row]
        · change updated.row.enable = _
          rw [spec.row]
        · change EvolvedSettings _ updated.row.settings
          rw [spec.row]
          exact evolved_stampUpdated

theorem inbounds_delInbound {id : Int} {error : Option RequestError}
    (ran : Store.perform (.delInbound id) panelHost Call.noFaults database =
      (error, after)) :
    error ≠ none ∧ after.inbounds = database.inbounds ∨
      error = none ∧ (∃ row, database.inbounds.find? id = some row) ∧
        after.inbounds = database.inbounds.delete id := by
  change Call.run database Call.noFaults 0 (Store.delInbound id database)
    database = _ at ran
  cases stored : database.inbounds.find? id with
  | none =>
      unfold Store.delInbound at ran
      rw [stored] at ran
      obtain ⟨rfl, rfl⟩ := Prod.mk.inj ran
      exact .inl ⟨by simp, rfl⟩
  | some row =>
      cases read : getClients row.settings with
      | none =>
          unfold Store.delInbound at ran
          rw [stored] at ran
          dsimp only at ran
          rw [read] at ran
          obtain ⟨rfl, rfl⟩ := Prod.mk.inj ran
          exact .inl ⟨by simp, rfl⟩
      | some clients =>
          obtain ⟨ips, done⟩ := run_delInbound stored read
          obtain ⟨rfl, rfl⟩ := Prod.mk.inj (done.symm.trans ran)
          exact .inr ⟨rfl, ⟨row, rfl⟩, rfl⟩

end Requests

section Plans

/-- The rows after a change are the planned ones. -/
structure Carries (planned rows : List StoredInbound) : Prop where
  image : ∀ row ∈ planned, ∃ later ∈ rows, later.enable = row.enable ∧
    EvolvedSettings row.settings later.settings
  origin : ∀ later ∈ rows, ∃ row ∈ planned, later.enable = row.enable ∧
    EvolvedSettings row.settings later.settings

variable {planned rows others : List StoredInbound}

theorem Carries.refl : Carries planned planned :=
  ⟨fun row member => ⟨row, member, rfl, .refl⟩,
    fun row member => ⟨row, member, rfl, .refl⟩⟩

theorem Carries.trans (first : Carries planned rows)
    (second : Carries rows others) : Carries planned others where
  image row member := by
    obtain ⟨middle, inRows, enable, settings⟩ := first.image row member
    obtain ⟨later, inOthers, enabled, evolved⟩ := second.image middle inRows
    exact ⟨later, inOthers, enabled.trans enable, settings.trans evolved⟩
  origin later member := by
    obtain ⟨middle, inRows, enable, settings⟩ := second.origin later member
    obtain ⟨row, inPlanned, enabled, evolved⟩ := first.origin middle inRows
    exact ⟨row, inPlanned, enable.trans enabled, evolved.trans settings⟩

/-- The expansion carries the rows of its protocol on. -/
theorem carries_expandVpnRanges : Carries (rowsOf database backend)
    (rowsOf (expandVpnRanges database backend) backend) where
  image row member := by
    obtain ⟨stored, own⟩ := mem_rowsOf.mp member
    obtain ⟨later, inTable, evolved⟩ :=
      mem_left_of_forall₂ evolved_expandVpnRanges stored
    exact ⟨later, mem_rowsOf.mpr ⟨inTable, evolved.protocol.trans own⟩,
      evolved.enable, evolved.settings⟩
  origin later member := by
    obtain ⟨inTable, own⟩ := mem_rowsOf.mp member
    obtain ⟨row, stored, evolved⟩ :=
      mem_right_of_forall₂ (@evolved_expandVpnRanges database backend) inTable
    exact ⟨row, mem_rowsOf.mpr ⟨stored, evolved.protocol.symm.trans own⟩,
      evolved.enable, evolved.settings⟩

/-- The saved form takes its place among the other inbounds. -/
theorem carries_save {id : Int} (own : form.protocol = .vpn backend)
    (saved : SavedAs form id row) :
    Carries (form :: othersOf database backend id)
      (rowsOf { database with inbounds := database.inbounds.save row }
        backend) where
  image planned member := by
    rcases List.mem_cons.mp member with rfl | member
    · exact ⟨row, mem_rowsOf.mpr ⟨Table.mem_save.mpr (.inl rfl),
        saved.protocol.trans own⟩, saved.enable, saved.settings⟩
    · obtain ⟨listed, differs⟩ := mem_othersOf.mp member
      obtain ⟨stored, named⟩ := mem_rowsOf.mp listed
      exact ⟨planned, mem_rowsOf.mpr ⟨Table.mem_save.mpr
        (.inr ⟨stored, saved.id.symm ▸ differs⟩), named⟩, rfl, .refl⟩
  origin later member := by
    obtain ⟨stored, named⟩ := mem_rowsOf.mp member
    rcases Table.mem_save.mp stored with rfl | ⟨old, differs⟩
    · exact ⟨form, List.mem_cons_self, saved.enable, saved.settings⟩
    · refine ⟨later, List.mem_cons_of_mem _ (mem_othersOf.mpr
        ⟨mem_rowsOf.mpr ⟨old, named⟩, ?_⟩), rfl, .refl⟩
      exact saved.id ▸ differs

theorem usesIpsec_serve {row : StoredInbound} :
    usesIpsec (serve host .l2tp row.toInbound) = true ↔
      ParsesL2tp row.settings ∧ wantsIpsec row.settings = true := by
  have read : ∀ fields, (readSettings host .l2tp row.port fields).view.ipsec =
      if (JsonObject.get fields "ipsecEnable").flag.value then
        some (JsonObject.get fields "ipsecPsk").text.value
      else none := fun _ => rfl
  have decoded : ∀ fields : JsonObject,
      ((((VpnSettings.decoder .l2tp fields).map fun _ =>
        readSettings host .l2tp row.port fields).strict).elim false
          (·.view.ipsec.isSome) = true ↔
        (VpnSettings.l2tpSettings fields).strict.isSome = true ∧
          (JsonObject.get fields "ipsecEnable").flag.value = true) := by
    intro fields
    rw [isSome_strict]
    simp only [Decoded.strict, Decoded.fits_map, Decoded.value_map,
      VpnSettings.decoder]
    by_cases fits : (VpnSettings.l2tpSettings fields).fits = true
    · by_cases wants :
          (JsonObject.get fields "ipsecEnable").flag.value = true
      · simp [fits, wants, read]
      · simp [fits, wants, read]
    · simp [fits]
  unfold usesIpsec ParsesL2tp wantsIpsec serve
  cases row.settings with
  | parsed json =>
      cases json with
      | obj fields => exact decoded fields
      | null => exact decoded []
      | _ => simp [JsonText.decode, Json.record, Decoded.strict]
  | _ => simp [JsonText.decode]

theorem enabled_or_none {planned rows : List StoredInbound}
    (carries : Carries planned rows)
    (plans : planned = [] ∨ ∃ row ∈ planned, row.enable = true) :
    SharedServes (rows.map fun row => serve host backend row.toInbound) := by
  rcases plans with rfl | ⟨row, member, enabled⟩
  · left
    rw [List.map_eq_nil_iff, List.eq_nil_iff_forall_not_mem]
    intro later member
    obtain ⟨row, none, -⟩ := carries.origin later member
    cases none
  · obtain ⟨later, inRows, enable, -⟩ := carries.image row member
    exact .inr ⟨_, List.mem_map_of_mem inRows, enable.trans enabled⟩

/-- What is planned for is what the services start. -/
theorem Plans.serves {daemons : Daemons} {planned : List StoredInbound}
    (plans : Plans host daemons planned backend)
    (carries : Carries planned (rowsOf database backend)) :
    Serves host daemons (refreshedRows host backend database backend)
      backend := by
  have carried := carries.trans carries_expandVpnRanges
  rw [refreshedRows, servedRows_eq]
  cases backend with
  | l2tp =>
      refine ⟨enabled_or_none carried plans.1, ?_⟩
      intro bundled
      rcases plans.2 bundled with ⟨row, member, enabled, uses⟩ |
        ⟨stopped, unused⟩
      · obtain ⟨parses, wants⟩ := usesIpsec_serve.mp uses
        obtain ⟨later, inRows, enable, evolved⟩ := carried.image row member
        exact .inl ⟨_, List.mem_map_of_mem inRows, enable.trans enabled,
          usesIpsec_serve.mpr
            ⟨evolved.parses parses, evolved.wants.trans wants⟩⟩
      · refine .inr ⟨stopped, ?_⟩
        intro served member
        obtain ⟨later, inRows, rfl⟩ := List.mem_map.mp member
        obtain ⟨row, inPlanned, -, evolved⟩ := carried.origin later inRows
        apply Bool.eq_false_iff.mpr
        intro uses
        have wants := (usesIpsec_serve.mp uses).2
        rw [evolved.wants, unused row inPlanned] at wants
        cases wants
  | pptp => exact enabled_or_none carried plans
  | openvpn | openconnect | sstp => trivial

end Plans

end VpnUi.BackEnd
