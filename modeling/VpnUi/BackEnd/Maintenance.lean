import VpnUi.BackEnd.Frames
import VpnUi.Store.MirrorTraffic

namespace VpnUi.BackEnd

open Foundation Panel Store

/-! The operations that refresh no service: the deletion of depleted clients and
the traffic pass. -/

variable {host : Host} {database : Database} {row later third : StoredInbound}

/-- The services read both rows alike, and both are depleted alike. -/
structure Like (host : Host) (row later : StoredInbound) : Prop where
  id : later.id = row.id
  protocol : later.protocol = row.protocol
  enable : later.enable = row.enable
  up : later.up = row.up
  down : later.down = row.down
  total : later.total = row.total
  expiryTime : later.expiryTime = row.expiryTime
  served : ∀ backend, row.protocol = .vpn backend →
    serve host backend later.toInbound = serve host backend row.toInbound

namespace Like

theorem refl : Like host row row :=
  ⟨rfl, rfl, rfl, rfl, rfl, rfl, rfl, fun _ _ => rfl⟩

theorem symm (like : Like host row later) : Like host later row where
  id := like.id.symm
  protocol := like.protocol.symm
  enable := like.enable.symm
  up := like.up.symm
  down := like.down.symm
  total := like.total.symm
  expiryTime := like.expiryTime.symm
  served backend own := (like.served backend (like.protocol.symm.trans own)).symm

theorem trans (first : Like host row later) (second : Like host later third) :
    Like host row third where
  id := second.id.trans first.id
  protocol := second.protocol.trans first.protocol
  enable := second.enable.trans first.enable
  up := second.up.trans first.up
  down := second.down.trans first.down
  total := second.total.trans first.total
  expiryTime := second.expiryTime.trans first.expiryTime
  served backend own := (second.served backend
    (first.protocol.trans own)).trans (first.served backend own)

theorem withItems {clients : Json}
    (served : ∀ backend, row.protocol = .vpn backend →
      serve host backend (Store.withItems row clients).toInbound =
        serve host backend row.toInbound) :
    Like host row (Store.withItems row clients) :=
  ⟨rfl, rfl, rfl, rfl, rfl, rfl, rfl, served⟩

/-- Clients whose names and flags are typed as before. -/
theorem of_items {items : List Json} {clients : Json}
    (stored : JsonObject.get row.settings.fields "clients" = .arr items)
    (same : (Json.list (Json.record VpnClient.decode) clients).fits =
      items.all fun item => (Json.record VpnClient.decode item).fits) :
    Like host row (Store.withItems row clients) := by
  refine withItems fun backend _ => serve_withItems stored ?_
  rw [VpnSettings.typedClients, VpnSettings.typedClients,
    JsonObject.get_set_self, stored, same]
  rfl

end Like

theorem servedRows_of_like {after : Database}
    (likes : List.Forall₂ (Like host) database.inbounds.rows
      after.inbounds.rows) :
    servedRows host after = servedRows host database := by
  funext backend
  rw [servedRows_eq, servedRows_eq, rowsOf, rowsOf]
  generalize database.inbounds.rows = rows at likes ⊢
  generalize after.inbounds.rows = others at likes ⊢
  induction likes with
  | nil => rfl
  | @cons row later _ _ like _ induction =>
      have protocol := like.protocol
      by_cases own : row.protocol = .vpn backend
      · rw [List.filter_cons_of_pos (by simpa using protocol.trans own),
          List.filter_cons_of_pos (by simpa using own),
          List.map_cons, List.map_cons, induction, like.served backend own]
      · have other : later.protocol ≠ .vpn backend := protocol ▸ own
        rw [List.filter_cons_of_neg (by simpa using other),
          List.filter_cons_of_neg (by simpa using own), induction]

/-- Saving over a row of the table. -/
theorem save_eq_map {inbounds : StoredInbounds} (stored : row ∈ inbounds)
    (same : later.id = row.id) :
    (inbounds.save later).rows =
      inbounds.rows.map fun old => if old.id = later.id then later else old := by
  have keeps : ∀ old : StoredInbound,
      (if old.id = later.id then later else old).id = old.id := by
    intro old
    split
    next here => exact here.symm
    · rfl
  have tables : inbounds.save later = inbounds.mapRows
      (fun old => if old.id = later.id then later else old) keeps := by
    apply Table.ext_mem
    intro other
    rw [Table.mem_save, Table.mem_mapRows]
    constructor
    · rintro (rfl | ⟨member, differs⟩)
      · exact ⟨row, stored, if_pos same.symm⟩
      · exact ⟨other, member, if_neg differs⟩
    · rintro ⟨old, member, rfl⟩
      split
      · exact .inl rfl
      next differs => exact .inr ⟨member, differs⟩
  rw [tables]
  rfl

theorem likes_save {inbounds : StoredInbounds} (stored : row ∈ inbounds)
    (like : Like host row later) :
    List.Forall₂ (Like host) inbounds.rows (inbounds.save later).rows := by
  rw [save_eq_map stored like.id, List.forall₂_map_right_iff,
    List.forall₂_same]
  intro old member
  split
  next here =>
    rwa [Table.eq_of_key_eq member stored (here.trans like.id)]
  · exact Like.refl

theorem likes_trans {first second last : List StoredInbound}
    (before : List.Forall₂ (Like host) first second)
    (after : List.Forall₂ (Like host) second last) :
    List.Forall₂ (Like host) first last := by
  induction before generalizing last with
  | nil =>
      cases after
      exact .nil
  | cons like _ induction =>
      cases after with
      | cons other rest => exact .cons (like.trans other) (induction rest)

theorem likes_saveInbounds {saved : List StoredInbound}
    (likes : ∀ later ∈ saved, ∃ row ∈ database.inbounds,
      Like host row later) :
    List.Forall₂ (Like host) database.inbounds.rows
      (database.saveInbounds saved).inbounds.rows := by
  induction saved generalizing database with
  | nil => exact List.forall₂_same.mpr fun _ _ => Like.refl
  | cons later rest induction =>
      rw [List.forall_mem_cons] at likes
      obtain ⟨⟨row, stored, like⟩, others⟩ := likes
      have first := likes_save stored like
      refine likes_trans first (@induction
        { database with inbounds := database.inbounds.save later } ?_)
      intro other member
      obtain ⟨old, inTable, alike⟩ := others other member
      obtain ⟨next, nextIn, nextLike⟩ :=
        mem_left_of_forall₂ first inTable
      exact ⟨next, nextIn, nextLike.symm.trans alike⟩

section Depleted

variable {id now : Int} {group : Int × String} {groups : List (Int × String)}
  {committed : Database} {saved : List StoredInbound}

theorem fits_of_parses {backend : VpnProtocol} (own : row.protocol = .vpn backend)
    (parses : Parses host row) :
    (VpnSettings.typedClients row.settings.fields).fits = true := by
  have decoder : ∀ fields, (VpnSettings.decoder backend fields).fits = true →
      (VpnSettings.typedClients fields).fits = true := by
    intro fields fits
    cases backend <;>
      simp only [VpnSettings.decoder, VpnSettings.l2tpSettings,
        VpnSettings.pptpSettings, VpnSettings.openvpnSettings,
        VpnSettings.ocservSettings, VpnSettings.sstpSettings,
        VpnSettings.common, VpnSettings.checkedTls, VpnSettings.checkedTexts,
        List.foldl, Decoded.fits_checked, Decoded.fits_field,
        Bool.and_eq_true] at fits <;>
      tauto
  obtain ⟨reading, found⟩ := Option.isSome_iff_exists.mp
    (parses backend (vpnBackend_eq_some.mpr own))
  apply decoder
  simp only [serve, JsonText.decode] at found
  split at found
  next json text =>
    rw [text]
    cases json with
    | obj fields => exact (Decoded.strict_eq_some.mp found).1
    | null => exact (Decoded.strict_eq_some.mp found).1
    | _ => cases found
  · cases found

/-- A VPN inbound of the loop is saved with the clients it keeps. -/
theorem like_keptItems {items : List Json}
    (read : row.settings.fields.get "clients" = .arr items)
    (parses : Parses host row) :
    Like host row (withItems row (.arr (keptItems group row))) := by
  apply Like.withItems
  intro backend own
  have fits := fits_of_parses own parses
  apply serve_withItems read
  rw [fits, VpnSettings.typedClients, JsonObject.get_set_self, keptItems,
    clientItems_of_array read]
  rw [VpnSettings.typedClients, read] at fits
  simp only [Json.list, List.all_eq_true] at fits ⊢
  exact fun item member => fits item (List.mem_of_mem_filter member)

/-- What the loop has done so far shows in no service. -/
structure Depleting (host : Host) (database committed : Database)
    (saved : List StoredInbound) : Prop where
  same : servedRows host committed = servedRows host database
  within : ∀ row ∈ committed.inbounds, row ∈ database.inbounds
  likes : ∀ later ∈ saved, ∃ row ∈ committed.inbounds, Like host row later

theorem Depleting.step {next : Database × List StoredInbound}
    (depleting : Depleting host database committed saved)
    (keeps : ∀ row ∈ database.inbounds.rows, row.id = group.1 →
      row.protocol.isVpnProtocol = true → Parses host row ∧
        ∃ item ∈ clientItems row, itemEmail item ∉ splitCommas group.2)
    (done : depleteInbound group committed saved = .ok next) :
    Depleting host database next.1 next.2 := by
  obtain ⟨row, items, stored, read, result⟩ := depleteInbound_eq_ok done
  obtain ⟨member, named⟩ := Table.find?_eq_some.mp stored
  have kept : row.protocol.isVpnProtocol = true →
      Parses host row ∧ keptItems group row ≠ [] := by
    intro vpn
    obtain ⟨parses, item, listed, spared⟩ :=
      keeps row (depleting.within row member) named vpn
    refine ⟨parses, List.ne_nil_of_mem (List.mem_filter.mpr ⟨listed, ?_⟩)⟩
    simpa using spared
  split at result
  next some =>
    rw [result]
    refine ⟨depleting.same, depleting.within, ?_⟩
    intro later listed
    rcases List.mem_append.mp listed with old | new
    · exact depleting.likes later old
    · rw [List.mem_singleton.mp new]
      refine ⟨row, member, ?_⟩
      cases vpn : row.protocol.isVpnProtocol with
      | true => exact like_keptItems read (kept vpn).1
      | false =>
          apply Like.withItems
          intro backend own
          rw [own] at vpn
          cases vpn
  next none =>
    have other : row.protocol.isVpnProtocol = false :=
      Bool.eq_false_iff.mpr fun vpn => none (kept vpn).2
    split at result
    next written =>
      rw [result]
      exact depleting
    next unwritten =>
      obtain rfl := not_not.mp unwritten
      obtain ⟨clients, given⟩ := getClients_of_array read
      obtain ⟨ips, ran⟩ := run_delInbound stored given
      rw [result, ran]
      refine ⟨?_, ?_, fun _ member => absurd member List.not_mem_nil⟩
      · rw [← depleting.same]
        funext backend
        apply @servedRows_delete host committed backend group.1
        intro old inTable same own
        rw [Table.eq_of_key_eq inTable member (same.trans named.symm)] at own
        rw [own] at other
        cases other
      · intro old inTable
        exact depleting.within old (Table.mem_delete.mp inTable).1

theorem Depleting.run {result : Option RequestError × Database ×
      List StoredInbound}
    (depleting : Depleting host database committed saved)
    (keeps : ∀ group ∈ groups, ∀ row ∈ database.inbounds.rows,
      row.id = group.1 → row.protocol.isVpnProtocol = true →
        Parses host row ∧
          ∃ item ∈ clientItems row, itemEmail item ∉ splitCommas group.2)
    (done : depleteGroups groups committed saved = result) :
    Depleting host database result.2.1 result.2.2 := by
  induction groups generalizing committed saved with
  | nil =>
      subst done
      exact depleting
  | cons group rest induction =>
      rw [List.forall_mem_cons] at keeps
      rw [depleteGroups] at done
      split at done
      · subst done
        exact depleting
      next committed saved stepped =>
        exact induction (depleting.step keeps.1 stepped) keeps.2 done

theorem servedRows_delDepletedClients
    (keeps : KeepsClients host database id now) :
    servedRows host (delDepletedClients id now database).2 =
      servedRows host database := by
  have start : Depleting host database database [] :=
    ⟨rfl, fun _ member => member, fun _ member => absurd member
      List.not_mem_nil⟩
  have last := start.run keeps rfl
  have written := (servedRows_of_like (likes_saveInbounds last.likes)).trans
    last.same
  unfold delDepletedClients
  generalize depleteGroups _ _ _ = result at last written ⊢
  obtain ⟨error, committed, saved⟩ := result
  split
  next panicked =>
    cases panicked
    exact written
  next failed =>
    cases failed
    exact last.same
  next succeeded =>
    cases succeeded
    exact (servedRows_congr rfl).trans written

end Depleted

section Traffic

variable {now : Int} {batch : TrafficBatch} {rows : List ClientTraffic}

/-- The fields that a traffic pass writes are typed in no service. -/
theorem vpnClient_set {client : JsonObject} {key : String} {value : Json}
    (untyped : key ∉ ["id", "password", "email", "enable"]) :
    VpnClient.decode (JsonObject.set client key value) =
      VpnClient.decode client := by
  simp only [List.mem_cons, List.not_mem_nil, or_false, not_or] at untyped
  obtain ⟨id, password, email, enable⟩ := untyped
  simp only [VpnClient.decode, JsonObject.get_set_ne (Ne.symm id),
    JsonObject.get_set_ne (Ne.symm password),
    JsonObject.get_set_ne (Ne.symm email), JsonObject.get_set_ne (Ne.symm enable)]

theorem vpnClient_setStamp {client : JsonObject} :
    VpnClient.decode (setStamp now client) = VpnClient.decode client := by
  unfold setStamp
  rw [vpnClient_set (by decide)]
  split
  · rfl
  · exact vpnClient_set (by decide)

theorem vpnClient_adjustClient {client adjusted : JsonObject}
    {started : List ClientTraffic}
    (ran : adjustClient now rows client = some (adjusted, started)) :
    VpnClient.decode adjusted = VpnClient.decode client := by
  unfold adjustClient at ran
  split at ran
  · obtain ⟨rfl, -⟩ := Prod.mk.inj (Option.some.inj ran)
    exact vpnClient_setStamp
  · obtain ⟨old, -, same⟩ := Option.map_eq_some_iff.mp ran
    obtain ⟨rfl, -⟩ := Prod.mk.inj same
    exact vpnClient_setStamp.trans (vpnClient_set (by decide))

/-- The items of a pass are typed as before. -/
def TypedAlike (item later : Json) : Prop :=
  (Json.record VpnClient.decode later).fits =
    (Json.record VpnClient.decode item).fits

theorem typedAlike_adjustItems {items adjusted : List Json}
    {started : List ClientTraffic}
    (ran : adjustItems now items rows = some (adjusted, started)) :
    List.Forall₂ TypedAlike items adjusted := by
  induction items generalizing rows adjusted started with
  | nil =>
      obtain ⟨rfl, -⟩ := Prod.mk.inj (Option.some.inj ran)
      exact .nil
  | cons item rest induction =>
      cases item with
      | obj client =>
          simp only [adjustItems, bind, Option.bind_eq_some_iff] at ran
          obtain ⟨⟨first, middle⟩, head, ⟨others, last⟩, tail, same⟩ := ran
          obtain ⟨rfl, -⟩ := Prod.mk.inj (Option.some.inj same)
          refine .cons ?_ (induction tail)
          exact congrArg Decoded.fits (vpnClient_adjustClient head)
      | _ => cases ran

theorem all_fits_of_typedAlike {items later : List Json}
    (alike : List.Forall₂ TypedAlike items later) :
    (later.all fun item => (Json.record VpnClient.decode item).fits) =
      items.all fun item => (Json.record VpnClient.decode item).fits := by
  induction alike with
  | nil => rfl
  | cons head _ induction =>
      rw [List.all_cons, List.all_cons, induction, show _ = _ from head]

theorem like_adjustInbound {started : List ClientTraffic}
    (ran : adjustInbound now row rows = some (later, started)) :
    Like host row later := by
  unfold adjustInbound at ran
  split at ran
  next items stored =>
    obtain ⟨⟨adjusted, left⟩, adjusts, same⟩ := Option.map_eq_some_iff.mp ran
    obtain ⟨rfl, -⟩ := Prod.mk.inj same
    apply Like.of_items stored
    rw [← all_fits_of_typedAlike (typedAlike_adjustItems adjusts)]
    cases adjusted <;> rfl
  · obtain ⟨rfl, -⟩ := Prod.mk.inj (Option.some.inj ran)
    exact Like.refl

theorem likes_adjustInbounds {loaded adjusted : List StoredInbound}
    {started : List ClientTraffic}
    (ran : adjustInbounds now loaded rows = some (adjusted, started)) :
    List.Forall₂ (Like host) loaded adjusted := by
  induction loaded generalizing rows adjusted started with
  | nil =>
      obtain ⟨rfl, -⟩ := Prod.mk.inj (Option.some.inj ran)
      exact .nil
  | cons row rest induction =>
      simp only [adjustInbounds, bind, Option.bind_eq_some_iff] at ran
      obtain ⟨⟨first, middle⟩, head, ⟨others, last⟩, tail, same⟩ := ran
      obtain ⟨rfl, -⟩ := Prod.mk.inj (Option.some.inj same)
      exact .cons (like_adjustInbound head) (induction tail)

theorem like_renewInbound (ran : renewInbound now rows row = some later) :
    Like host row later := by
  unfold renewInbound at ran
  split at ran
  next items stored =>
    obtain ⟨renewed, renews, rfl⟩ := Option.map_eq_some_iff.mp ran
    apply Like.of_items stored
    refine all_fits_of_typedAlike ((forall₂_of_mapM renews).imp ?_)
    intro item later renewed
    unfold renewItem at renewed
    split at renewed
    next client =>
      split at renewed
      · split at renewed
        · obtain rfl := Option.some.inj renewed
          rfl
        · obtain rfl := Option.some.inj renewed
          exact congrArg Decoded.fits (vpnClient_set (by decide))
      · cases renewed
    · cases renewed
  · cases ran

/-- Saving what was made of loaded rows. -/
theorem likes_of_loaded {keep : StoredInbound → Bool}
    {saved : List StoredInbound}
    (likes : List.Forall₂ (Like host) (database.inbounds.rows.filter keep)
      saved) :
    List.Forall₂ (Like host) database.inbounds.rows
      (database.saveInbounds saved).inbounds.rows := by
  apply likes_saveInbounds
  intro later member
  obtain ⟨row, loaded, like⟩ := mem_right_of_forall₂ likes member
  exact ⟨row, List.mem_of_mem_filter loaded, like⟩

theorem likes_addClientTraffic {initial : Database} {number : Nat}
    {statements : List Statement}
    (found : addClientTraffic now batch.clients database = some statements) :
    List.Forall₂ (Like host) database.inbounds.rows
      (Call.run initial Call.noFaults number statements
        database).2.inbounds.rows := by
  obtain ⟨⟨inbounds, started⟩, adjusted, rfl⟩ := Option.map_eq_some_iff.mp found
  exact likes_of_loaded (likes_adjustInbounds adjusted)

theorem likes_autoRenewClients {initial : Database} {number : Nat}
    {statements : List Statement}
    (found : autoRenewClients now database = some statements) :
    List.Forall₂ (Like host) database.inbounds.rows
      (Call.run initial Call.noFaults number statements
        database).2.inbounds.rows := by
  obtain ⟨renewed, renews, rfl⟩ := Option.map_eq_some_iff.mp found
  split
  · exact List.forall₂_same.mpr fun _ _ => Like.refl
  · exact likes_of_loaded ((forall₂_of_mapM renews).imp fun _ _ renewed =>
      like_renewInbound renewed)

theorem servedRows_countedInbounds :
    servedRows host (countedInbounds database batch) =
      servedRows host database := by
  unfold countedInbounds
  induction batch.inbounds.filter InboundTraffic.isInbound
      generalizing database with
  | nil => rfl
  | cons traffic rest induction =>
      rw [List.foldl_cons, induction]
      funext backend
      apply servedRows_mapRows
      · intro row _
        rw [countInbound_toInbound]
      · intro row _
        rw [countInbound_toInbound]

/-- An inbound of a VPN protocol is not disabled. -/
theorem servedRows_disableInvalidInbounds
    (keeps : ∀ row ∈ database.inbounds, row.protocol.isVpnProtocol = true →
      row.enable = true →
        depleted now row.total (row.up + row.down) row.expiryTime = false) :
    servedRows host (database.disableInvalidInbounds now) =
      servedRows host database := by
  funext backend
  apply servedRows_mapRows
  · intro row _
    unfold disableInbound
    split <;> rfl
  · intro row member
    obtain ⟨stored, own⟩ := mem_rowsOf.mp member
    unfold disableInbound
    split
    next out =>
      obtain ⟨gone, enabled⟩ := Bool.and_eq_true_iff.mp out
      rw [keeps row stored (by rw [own]; rfl) enabled] at gone
      cases gone
    · rfl

theorem servedRows_addTraffic (keeps : KeepsInbounds database batch now) :
    servedRows host (addTraffic now batch Call.noFaults database).2 =
      servedRows host database := by
  rw [addTraffic, run_addInboundTraffic]
  change servedRows host (trafficPasses now batch Call.noFaults _ database
    (countedInbounds database batch)).2 = _
  refine Eq.trans ?_ (@servedRows_countedInbounds host database batch)
  unfold KeepsInbounds at keeps
  generalize countedInbounds database batch = counted at keeps ⊢
  unfold trafficPasses
  split
  · rfl
  next statements found =>
    have charged := @likes_addClientTraffic host counted now batch database
      (addInboundTraffic batch.inbounds).length statements found
    dsimp only
    generalize (Call.run database Call.noFaults _ statements counted).2 =
      paid at charged ⊢
    split
    · exact servedRows_of_like charged
    next renewals collected =>
      have renewed := @likes_autoRenewClients host paid now database
        ((addInboundTraffic batch.inbounds).length + 2) renewals collected
      simp only [Call.noFaults, Bool.false_eq_true, if_false]
      change servedRows host (((Call.run database Call.noFaults _ renewals
        paid).2.disableInvalidClients now).disableInvalidInbounds now) = _
      generalize (Call.run database Call.noFaults _ renewals paid).2 =
        last at renewed ⊢
      have likes := likes_trans charged renewed
      refine (servedRows_disableInvalidInbounds ?_).trans
        ((servedRows_congr rfl).trans (servedRows_of_like likes))
      intro later member vpn enabled
      obtain ⟨row, stored, like⟩ := mem_right_of_forall₂ likes member
      rw [like.total, like.up, like.down, like.expiryTime]
      exact keeps row stored (like.protocol ▸ vpn) (like.enable ▸ enabled)

end Traffic

end VpnUi.BackEnd
