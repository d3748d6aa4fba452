import VpnUi.Panel.Logins
import VpnUi.Radius.Lookup

namespace VpnUi.Radius

open Foundation Panel

/-! Whether the e-mail a session is charged to is the e-mail of the account
that logged in. -/

/-- Every password lookup and the e-mail lookup agree on the account.  An
empty username is rejected before either. -/
def ChargesLogin (inbounds : Inbounds) : Prop :=
  ∀ trafficEnable backend inboundId username entry, username ≠ "" →
    lookupEntry inbounds trafficEnable backend inboundId username =
      .ok entry →
    lookupEmail inbounds backend username = entry.email

/-- Two lists of logins give no name to accounts with different e-mails. -/
def Compatible (left right : List Login) : Prop :=
  ∀ first ∈ left, ∀ second ∈ right, ∀ username, username ≠ "" →
    names username first = true → names username second = true →
      first.email = second.email

theorem Compatible.symm {left right : List Login}
    (compatible : Compatible left right) : Compatible right left :=
  fun first inFirst second inSecond username nonempty named other =>
    (compatible second inSecond first inFirst username nonempty other
      named).symm

/-- The logins of an inbound with this id and protocol go with those of the
other inbounds of the protocol. -/
def FitsOthers (inbounds : Inbounds) (id : Int) (protocol : Protocol)
    (written : List Login) : Prop :=
  protocol.isVpnProtocol = true → ∀ other ∈ inbounds, other.id ≠ id →
    other.protocol = protocol → Compatible written (logins other.settings)

def Consistent (inbounds : Inbounds) : Prop :=
  ∀ inbound ∈ inbounds,
    FitsOthers inbounds inbound.id inbound.protocol (logins inbound.settings)

/-- The logins that a request writes go with those of the other inbounds. -/
def WritesCompatibly (inbounds : Inbounds) : PanelEvent × PanelHost → Prop
  | (.addInbound form, host) =>
      FitsOthers inbounds (if form.id = 0 then host.freshId else form.id)
        form.protocol (logins form.settings)
  | (.importInbound data, host) =>
      FitsOthers inbounds host.freshId data.protocol (logins data.settings)
  | (.updateInbound _ form, _) =>
      FitsOthers inbounds form.id form.protocol (logins form.settings)
  | (.addInboundClient data, _) =>
      ∀ old, inbounds.find? data.id = some old →
        FitsOthers inbounds old.id old.protocol (logins data.settings)
  | (.updateInboundClient data _, _) =>
      ∀ old, inbounds.find? data.id = some old →
        FitsOthers inbounds old.id old.protocol
          ((logins data.settings).take 1)
  | _ => True

section Lookups

variable {inbounds : Inbounds} {backend : VpnProtocol} {username : String}

/-- A record with more fields decodes to the same logins. -/
theorem decode_logins {settings : JsonText} {clients : List AuthEntry}
    (decoded : settings.decode (clientsOf AuthEntry.decode) = some clients) :
    settings.decode (clientsOf Login.decode) =
      some (clients.map AuthEntry.login) := by
  have entry : ∀ item : Json,
      ((Json.record AuthEntry.decode item).fits = true →
        (Json.record Login.decode item).fits = true) ∧
      (Json.record Login.decode item).value =
        (Json.record AuthEntry.decode item).value.login := by
    intro item
    cases item with
    | obj fields =>
        refine ⟨fun fits => ?_, rfl⟩
        simp only [Json.record, AuthEntry.decode, Login.decode,
          Decoded.fits_field, Decoded.fits_record, Bool.true_and,
          Bool.and_eq_true] at fits ⊢
        exact ⟨fits.1.1.1, fits.1.2⟩
    | _ => exact ⟨id, rfl⟩
  have listed : ∀ fields : JsonObject,
      ((clientsOf AuthEntry.decode fields).fits = true →
        (clientsOf Login.decode fields).fits = true) ∧
      (clientsOf Login.decode fields).value =
        (clientsOf AuthEntry.decode fields).value.map AuthEntry.login := by
    intro fields
    unfold clientsOf
    cases fields.get "clients" with
    | arr items =>
        constructor
        · intro fits
          apply List.all_eq_true.mpr
          intro item member
          exact (entry item).1 (List.all_eq_true.mp fits item member)
        · simp only [Json.list, List.map_map]
          exact List.map_congr_left fun item _ => (entry item).2
    | _ => exact ⟨id, rfl⟩
  cases settings with
  | parsed json =>
      simp only [JsonText.decode, Decoded.strict_eq_some] at decoded ⊢
      cases json with
      | obj fields =>
          obtain ⟨fits, rfl⟩ := decoded
          exact ⟨(listed fields).1 fits, (listed fields).2⟩
      | null =>
          obtain ⟨fits, rfl⟩ := decoded
          exact ⟨(listed []).1 fits, (listed []).2⟩
      | _ => exact absurd decoded.1 (by simp [Json.record])
  | _ => cases decoded

/-- The settings that parse are read in full. -/
theorem decode_eq_logins {settings : JsonText} {found : List Login}
    (decoded : settings.decode (clientsOf Login.decode) = some found) :
    found = logins settings := by
  cases settings with
  | parsed json =>
      simp only [JsonText.decode, Decoded.strict_eq_some] at decoded
      obtain ⟨fits, rfl⟩ := decoded
      cases json with
      | obj fields => rfl
      | null => rfl
      | _ => simp [Json.record] at fits
  | _ => cases decoded

theorem findLogin_eq_some {inbound : Inbound} {login : Login}
    (found : findLogin username inbound = some login) :
    login ∈ logins inbound.settings ∧ names username login = true := by
  obtain ⟨clients, decoded, first⟩ := Option.bind_eq_some_iff.mp found
  rw [← decode_eq_logins decoded]
  exact ⟨List.mem_of_find?_eq_some first, List.find?_some first⟩

/-- Consistent inbounds charge the account that logged in. -/
theorem Consistent.chargesLogin (consistent : Consistent inbounds) :
    ChargesLogin inbounds := by
  intro trafficEnable backend inboundId username entry nonempty found
  obtain ⟨inbound, member, isVpn, -, clients, decoded, first⟩ :=
    lookupEntry_eq_ok found
  have own : findLogin username inbound = some entry.login := by
    rw [findLogin, decode_logins decoded, Option.bind_some, List.find?_map]
    exact congrArg (Option.map AuthEntry.login) first
  have listed : inbound ∈ inbounds.ofProtocol (.vpn backend) :=
    Inbounds.mem_ofProtocol.mpr ⟨member, isVpn⟩
  unfold lookupEmail
  cases scanned : (inbounds.ofProtocol (.vpn backend)).findSome?
      (findLogin username) with
  | none =>
      have missed := List.findSome?_eq_none_iff.mp scanned inbound listed
      rw [own] at missed
      cases missed
  | some login =>
      obtain ⟨other, otherListed, otherFound⟩ :=
        List.exists_of_findSome?_eq_some scanned
      obtain ⟨otherMember, otherVpn⟩ := Inbounds.mem_ofProtocol.mp otherListed
      change login.email = entry.email
      by_cases same : other.id = inbound.id
      · obtain rfl := Table.eq_of_key_eq otherMember member same
        rw [own] at otherFound
        rw [← Option.some.inj otherFound]
        rfl
      · obtain ⟨inOther, namedOther⟩ := findLogin_eq_some otherFound
        obtain ⟨inOwn, namedOwn⟩ := findLogin_eq_some own
        exact (consistent inbound member (by rw [isVpn]; rfl) other otherMember
          same (otherVpn.trans isVpn.symm) entry.login inOwn login inOther
          username nonempty namedOwn namedOther).symm

end Lookups

section Steps

variable {inbounds next : Inbounds} {host : PanelHost}

theorem Consistent.save (consistent : Consistent inbounds) {row : Inbound}
    (fits : FitsOthers inbounds row.id row.protocol (logins row.settings)) :
    Consistent (inbounds.save row) := by
  intro inbound member isVpn other otherMember differs same
  rcases Table.mem_save.mp member with rfl | ⟨old, apart⟩
  · rcases Table.mem_save.mp otherMember with rfl | ⟨otherOld, -⟩
    · exact absurd rfl differs
    · exact fits isVpn other otherOld differs same
  · rcases Table.mem_save.mp otherMember with rfl | ⟨otherOld, -⟩
    · exact (fits (same ▸ isVpn) inbound old (Ne.symm differs)
        same.symm).symm
    · exact consistent inbound old isVpn other otherOld differs same

/-- A table whose rows have no login that the rows before did not have. -/
theorem Consistent.shrink (consistent : Consistent inbounds)
    (view : ∀ row ∈ next, ∃ old ∈ inbounds, old.id = row.id ∧
      old.protocol = row.protocol ∧
      ∀ login ∈ logins row.settings, login ∈ logins old.settings) :
    Consistent next := by
  intro inbound member isVpn other otherMember differs same
  obtain ⟨old, oldMember, oldId, oldProtocol, fewer⟩ := view inbound member
  obtain ⟨otherOld, otherOldMember, otherId, otherProtocol, otherFewer⟩ :=
    view other otherMember
  intro first inFirst second inSecond
  refine consistent old oldMember (oldProtocol ▸ isVpn) otherOld
    otherOldMember ?_ ?_ first (fewer first inFirst) second
    (otherFewer second inSecond)
  · rwa [oldId, otherId]
  · rw [oldProtocol, otherProtocol, same]

/-- The table before, row by row, after a row with an old id was saved. -/
theorem view_save {row old : Inbound} (member : old ∈ inbounds)
    (id : old.id = row.id) (protocol : old.protocol = row.protocol)
    (fewer : ∀ login ∈ logins row.settings, login ∈ logins old.settings) :
    ∀ saved ∈ inbounds.save row, ∃ before ∈ inbounds,
      before.id = saved.id ∧ before.protocol = saved.protocol ∧
      ∀ login ∈ logins saved.settings, login ∈ logins before.settings := by
  intro saved savedMember
  rcases Table.mem_save.mp savedMember with rfl | ⟨kept, -⟩
  · exact ⟨old, member, id, protocol, fewer⟩
  · exact ⟨saved, kept, rfl, rfl, fun _ listed => listed⟩

/-- Expansion writes ranges; the logins of every row stay. -/
theorem view_autoExpandVpnRanges (backend : VpnProtocol) :
    ∀ row ∈ autoExpandVpnRanges inbounds backend, ∃ old ∈ inbounds,
      old.id = row.id ∧ old.protocol = row.protocol ∧
      ∀ login ∈ logins row.settings, login ∈ logins old.settings := by
  have folded : ∀ (rows : List Inbound) (table : Inbounds),
      (∀ row ∈ rows, row ∈ inbounds) →
      (∀ row ∈ table, ∃ old ∈ inbounds, old.id = row.id ∧
        old.protocol = row.protocol ∧
        ∀ login ∈ logins row.settings, login ∈ logins old.settings) →
      ∀ row ∈ rows.foldl autoExpandInbound table, ∃ old ∈ inbounds,
        old.id = row.id ∧ old.protocol = row.protocol ∧
        ∀ login ∈ logins row.settings, login ∈ logins old.settings := by
    intro rows
    induction rows with
    | nil => exact fun _ _ view => view
    | cons head tail induction =>
        intro table stored view
        apply induction _ fun row member =>
          stored row (List.mem_cons_of_mem head member)
        unfold autoExpandInbound
        split
        · exact view
        next expanded accepted =>
          intro row member
          rcases Table.mem_save.mp member with rfl | ⟨kept, -⟩
          · have kept := logins_normalizeRanges accepted
            obtain ⟨settings, frame⟩ := normalizeRanges_frame accepted
            refine ⟨head, stored head List.mem_cons_self, ?_, ?_, ?_⟩
            · rw [frame]
            · rw [frame]
            · intro login listed
              rwa [kept] at listed
          · exact view row kept
  apply folded _ _ fun row member => (Inbounds.mem_ofProtocol.mp member).1
  exact fun row member => ⟨row, member, rfl, rfl, fun _ listed => listed⟩

theorem Consistent.addInbound (consistent : Consistent inbounds)
    {inbound : Inbound}
    (fits : FitsOthers inbounds
      (if inbound.id = 0 then host.freshId else inbound.id) inbound.protocol
      (logins inbound.settings))
    (accepted : addInbound inbounds inbound host = .ok next) :
    Consistent next := by
  obtain ⟨clients, found, rfl⟩ := addInbound_eq_ok accepted
  apply consistent.save
  simp only [logins_stampAdded found]
  exact fits

/-- Writing clients whose logins are old or go with the other inbounds. -/
theorem Consistent.saveClients (consistent : Consistent inbounds)
    {old : Inbound} (member : old ∈ inbounds) {clients : List Json}
    {written : List Login}
    (fits : FitsOthers inbounds old.id old.protocol written)
    (origin : ∀ client ∈ clients, loginOf client ∈ logins old.settings ∨
      loginOf client ∈ written) :
    Consistent (inbounds.save (withClients old clients)) := by
  apply consistent.save
  rw [logins_withClients]
  intro isVpn other otherMember differs same first inFirst
  obtain ⟨client, listed, rfl⟩ := List.mem_map.mp inFirst
  rcases origin client listed with kept | new
  · exact consistent old member isVpn other otherMember differs same _ kept
  · exact fits isVpn other otherMember differs same _ new

/-- One guarded step keeps the logins consistent. -/
theorem Consistent.perform (consistent : Consistent inbounds)
    {event : PanelEvent}
    (guard : WritesCompatibly inbounds (event, host))
    (accepted : perform inbounds event host = .ok next) :
    Consistent next := by
  cases event with
  | addInbound form =>
      simp only [Panel.perform, addInboundRequest] at accepted
      split at accepted
      · cases accepted
      split at accepted
      · cases accepted
      next normal normalized =>
        have kept := logins_normalizeRanges normalized
        obtain ⟨settings, rfl⟩ := normalizeRanges_frame normalized
        apply consistent.addInbound _ accepted
        rw [kept]
        exact guard
  | importInbound data =>
      have fits : FitsOthers inbounds (if (importedRow data).id = 0 then
          host.freshId else (importedRow data).id) (importedRow data).protocol
            (logins (importedRow data).settings) := guard
      exact consistent.addInbound fits accepted
  | updateInbound pathId form =>
      simp only [Panel.perform, updateInboundRequest] at accepted
      split at accepted
      · cases accepted
      next normal normalized =>
        have kept := logins_normalizeRanges normalized
        obtain ⟨settings, rfl⟩ := normalizeRanges_frame normalized
        obtain ⟨old, -, sameId, rfl⟩ := updateInbound_eq_ok accepted
        apply consistent.save
        simp only [logins_stampUpdated, kept, sameId]
        exact guard
  | delInbound id =>
      rw [delInbound_eq_ok accepted]
      exact consistent.shrink fun row member =>
        ⟨row, (Table.mem_delete.mp member).1, rfl, rfl, fun _ listed => listed⟩
  | addInboundClient data =>
      obtain ⟨old, member, sameId, stored, added, before, given, rfl⟩ :=
        addInboundClient_eq_ok accepted
      apply consistent.saveClients member
        (guard old (Table.find?_eq_some.mpr ⟨member, sameId⟩))
      intro client listed
      rw [logins_of_array before, logins_of_array given]
      rcases List.mem_append.mp listed with kept | new
      · exact .inl (List.mem_map_of_mem kept)
      · obtain ⟨client, inForm, rfl⟩ := List.mem_map.mp new
        rw [loginOf_stampNewClient]
        exact .inr (List.mem_map_of_mem inForm)
  | delInboundClient id clientId =>
      obtain ⟨old, member, -, stored, before, rfl⟩ :=
        delInboundClient_eq_ok accepted
      have fewer : ∀ login ∈ logins (withClients old (stored.filter
          fun client => keyText (clientKeyName old.protocol) client ≠
            some clientId)).settings, login ∈ logins old.settings := by
        rw [logins_withClients, logins_of_array before]
        exact List.map_subset _ (List.filter_subset_self _)
      exact consistent.shrink (view_save member rfl rfl fewer)
  | updateInboundClient data clientId =>
      obtain ⟨old, member, sameId, stored, replacement, given, index, before,
        form, rfl⟩ := updateInboundClient_eq_ok accepted
      apply consistent.saveClients member
        (guard old (Table.find?_eq_some.mpr ⟨member, sameId⟩))
      intro client listed
      rw [logins_of_array before, logins_of_array form]
      rcases List.mem_or_eq_of_mem_set listed with kept | rfl
      · exact .inl (List.mem_map_of_mem kept)
      · rw [loginOf_stampReplacing]
        exact .inr (by simp)
  | autoExpand backend =>
      obtain rfl := Except.ok.inj accepted
      exact consistent.shrink (view_autoExpandVpnRanges backend)
  | maintain row =>
      simp only [Panel.perform, maintainRow] at accepted
      split at accepted
      · cases accepted
      next old found =>
        obtain ⟨member, id⟩ := Table.find?_eq_some.mp found
        split at accepted
        next kept =>
          obtain rfl := Except.ok.inj accepted
          exact consistent.shrink (view_save member id kept.1.symm
            fun login listed => kept.2.2.subset listed)
        · cases accepted

end Steps

/-- In a run whose requests write compatible logins, every session is charged
to the account that logged in. -/
theorem chargesLogin_throughout {calls : List (PanelEvent × PanelHost)}
    (guarded : machine.Guarded WritesCompatibly noInbounds calls) :
    machine.Throughout ChargesLogin noInbounds calls := by
  have consistent : machine.Throughout Consistent noInbounds calls := by
    apply machine.throughout_of_guarded _ _ guarded
    · rintro inbounds ⟨event, host⟩ next consistent guard stepped
      exact consistent.perform guard (step_eq_some.mp stepped).2
    · exact fun inbound member => absurd member Table.not_mem_empty
  exact consistent.imp machine fun _ => Consistent.chargesLogin

/-- An L2TP inbound with one client. -/
def inboundWithClient (port : Int) (enable : Bool) (id password email : String) :
    Inbound :=
  ⟨0, "", port, .vpn .l2tp, .parsed (.obj [("clients", .arr [.obj [
    ("id", .str id), ("password", .str password), ("email", .str email),
    ("enable", .bool true)]])]), enable, ""⟩

theorem chargesLogin_throughout_add_then_expand :
    let calls := [
      (PanelEvent.addInbound (inboundWithClient 1701 true "bob" "p1" "e1"),
        hostWithId 1),
      (.autoExpand .l2tp, hostWithId 2)]
    (machine.run noInbounds calls).map (lookupEmail · .l2tp "bob") =
      some "e1" ∧
    machine.Throughout ChargesLogin noInbounds calls := by
  refine ⟨by decide +kernel, chargesLogin_throughout
    ⟨?_, fun _ _ => ⟨trivial, fun _ _ => trivial⟩⟩⟩
  exact fun _ other member => absurd member Table.not_mem_empty

/-- A client whose e-mail is the username of a client of a disabled inbound is
charged to that other client. -/
theorem chargesOther_after_adds :
    ¬ ∀ calls, machine.Throughout ChargesLogin noInbounds calls := by
  intro always
  have throughout := always [
    (.addInbound (inboundWithClient 1701 false "bob" "p1" "e1"), hostWithId 1),
    (.addInbound (inboundWithClient 1702 true "al" "p2" "bob"), hostWithId 2)]
  have charges := throughout.final _ rfl (fun _ => none) .l2tp 0 "bob"
    ⟨"al", "p2", "bob", true⟩ (by decide) rfl
  exact absurd charges (by decide +kernel)

end VpnUi.Radius
