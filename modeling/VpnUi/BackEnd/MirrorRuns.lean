import VpnUi.BackEnd.Planned
import VpnUi.Store.Correspondence

namespace VpnUi.BackEnd

open Foundation Panel Store

/-! The back end along a run of operations. -/

variable {host : Host} {panelHost : PanelHost} {state : State}
  {after : Database} {backend : VpnProtocol} {form row : StoredInbound}

/-- The state a handler leaves once the service has answered. -/
def finish (host : Host) (refreshed : Option VpnProtocol) (state : State)
    (after : Database) : State :=
  match refreshed with
  | some backend => refresh host backend { state with database := after }
  | none => { state with database := after }

theorem handle_of_error {operation : Operation} {error : RequestError}
    (refused : callService panelHost state.database operation =
      (some error, after)) :
    handle host panelHost operation state = { state with database := after } := by
  rw [handle, refused]

theorem handle_of_success {operation : Operation}
    (succeeded : callService panelHost state.database operation =
      (none, after)) :
    handle host panelHost operation state =
      finish host (refreshedBackend state.database operation) state after := by
  rw [handle, succeeded]
  cases refreshedBackend state.database operation <;> rfl

/-- Where no VPN protocol reads the inbounds differently. -/
theorem Mirrors.of_unseen (mirrors : Mirrors host state)
    (same : ∀ backend, servedRows host after backend =
      servedRows host state.database backend) :
    Mirrors host { state with database := after } :=
  mirrors.of_servedRows (funext same)

theorem Mirrors.of_inbounds (mirrors : Mirrors host state)
    (same : after.inbounds = state.database.inbounds) :
    Mirrors host { state with database := after } :=
  mirrors.of_servedRows (servedRows_congr same)

section Steps

/-- Other protocols do not see the saved row. -/
theorem servedRows_saved {id : Int} (saved : SavedAs form id row)
    (stored : after.inbounds = state.database.inbounds.save row)
    (spares : ¬ Overwrites state.database id form.protocol)
    (other : form.protocol ≠ .vpn backend) :
    servedRows host after backend =
      servedRows host state.database backend := by
  have same := @servedRows_save host state.database backend row
    (saved.protocol ▸ other) ?_
  · rw [← same]
    exact congrFun (servedRows_congr stored) backend
  · intro old member here own
    apply spares
    refine ⟨old, member, here.trans saved.id, by rw [own]; rfl, ?_⟩
    rw [own]
    exact Ne.symm other

/-- A form is saved and the services of its protocol are refreshed. -/
theorem Mirrors.save (mirrors : Mirrors host state) {id : Int}
    (saved : SavedAs form id row)
    (stored : after.inbounds = state.database.inbounds.save row)
    (spares : ¬ Overwrites state.database id form.protocol)
    (plans : PlansForm host state form id) :
    Mirrors host (finish host (vpnBackend form.protocol) state after) := by
  unfold finish
  split
  next backend isVpn =>
    have own := vpnBackend_eq_some.mp isVpn
    apply mirrors_refresh mirrors
    · apply Plans.serves (plans backend isVpn)
      have carries := @carries_save state.database _ _ _ _ own saved
      rw [rowsOf, stored]
      exact carries
    · intro other differs
      rw [refreshedRows_elsewhere differs]
      apply servedRows_saved saved stored spares
      rw [own]
      intro same
      exact differs (Protocol.vpn.inj same).symm
  next notVpn =>
    apply mirrors.of_unseen
    intro backend
    apply servedRows_saved saved stored spares
    intro own
    rw [vpnBackend_eq_some.mpr own] at notVpn
    cases notVpn

/-- A request that saves a form, or leaves the inbounds. -/
theorem Mirrors.handle_form (mirrors : Mirrors host state)
    {operation : Operation} {error : Option RequestError} {id : Int}
    (called : callService panelHost state.database operation = (error, after))
    (refreshed : refreshedBackend state.database operation =
      vpnBackend form.protocol)
    (outcome : error ≠ none ∧ after.inbounds = state.database.inbounds ∨
      error = none ∧ ∃ row, SavedAs form id row ∧
        after.inbounds = state.database.inbounds.save row)
    (spares : ¬ Overwrites state.database id form.protocol)
    (plans : PlansForm host state form id) :
    Mirrors host (handle host panelHost operation state) := by
  rcases outcome with ⟨failed, same⟩ | ⟨rfl, row, saved, stored⟩
  · obtain ⟨error, rfl⟩ := Option.ne_none_iff_exists'.mp failed
    rw [handle_of_error called]
    exact mirrors.of_inbounds same
  · rw [handle_of_success called, refreshed]
    exact mirrors.save saved stored spares plans

theorem mirrors_addInbound {clientStats : List ClientTraffic}
    (mirrors : Mirrors host state)
    (refreshes : Refreshes host state (.addInbound form clientStats, panelHost)) :
    Mirrors host
      (handle host panelHost (.addInbound form clientStats) state) := by
  obtain ⟨spares, plans⟩ := refreshes
  generalize called : callService panelHost state.database
    (.addInbound form clientStats) = answer
  obtain ⟨error, after⟩ := answer
  refine mirrors.handle_form called rfl ?_ spares plans
  simp only [callService] at called
  split at called
  · obtain ⟨rfl, rfl⟩ := Prod.mk.inj called
    exact .inl ⟨by simp, rfl⟩
  split at called
  · obtain ⟨rfl, rfl⟩ := Prod.mk.inj called
    exact .inl ⟨by simp, rfl⟩
  next normal normalized =>
    refine (inbounds_addInbound called).imp_right ?_
    rintro ⟨succeeded, row, saved, stored⟩
    obtain ⟨asForm, id⟩ := saved.of_normal normalized
    have same : addedId normal panelHost = addedId form panelHost := by
      rw [addedId, id]
      rfl
    rw [same] at asForm
    exact ⟨succeeded, row, ⟨asForm.id, asForm.protocol, asForm.enable,
      asForm.settings⟩, stored⟩

theorem mirrors_updateInbound {pathId : Int} (mirrors : Mirrors host state)
    (refreshes : Refreshes host state (.updateInbound pathId form, panelHost)) :
    Mirrors host
      (handle host panelHost (.updateInbound pathId form) state) := by
  obtain ⟨spares, plans⟩ := refreshes
  generalize called : callService panelHost state.database
    (.updateInbound pathId form) = answer
  obtain ⟨error, after⟩ := answer
  refine mirrors.handle_form called rfl ?_ spares plans
  simp only [callService] at called
  split at called
  · obtain ⟨rfl, rfl⟩ := Prod.mk.inj called
    exact .inl ⟨by simp, rfl⟩
  next normal normalized =>
    refine (inbounds_updateInbound called).imp_right ?_
    rintro ⟨succeeded, row, saved, stored⟩
    obtain ⟨asForm, id⟩ := saved.of_normal normalized
    rw [id] at asForm
    exact ⟨succeeded, row, asForm, stored⟩

theorem mirrors_delInbound {id : Int} (mirrors : Mirrors host state)
    (refreshes : Refreshes host state (.delInbound id, panelHost)) :
    Mirrors host (handle host panelHost (.delInbound id) state) := by
  generalize called : callService panelHost state.database
    (.delInbound id) = answer
  obtain ⟨error, after⟩ := answer
  rcases inbounds_delInbound called with
    ⟨failed, same⟩ | ⟨rfl, ⟨row, found⟩, stored⟩
  · obtain ⟨error, rfl⟩ := Option.ne_none_iff_exists'.mp failed
    rw [handle_of_error called]
    exact mirrors.of_inbounds same
  · rw [handle_of_success called]
    obtain ⟨member, named⟩ := Table.find?_eq_some.mp found
    have unseen : ∀ backend, row.protocol ≠ .vpn backend →
        servedRows host after backend =
          servedRows host state.database backend := by
      intro backend other
      rw [← @servedRows_delete host state.database backend id ?_]
      · exact congrFun (servedRows_congr stored) backend
      · intro old inTable here
        rwa [Table.eq_of_key_eq inTable member (here.trans named.symm)]
    have plans : PlansDeletion host state id := refreshes
    simp only [refreshedBackend, found, Option.bind_some, finish]
    split
    next backend isVpn =>
      have own := vpnBackend_eq_some.mp isVpn
      apply mirrors_refresh mirrors
      · apply Plans.serves (plans row found backend isVpn)
        rw [rowsOf, stored]
        have rows := @rowsOf_delete state.database backend id
        rw [← rows]
        exact Carries.refl
      · intro other differs
        rw [refreshedRows_elsewhere differs]
        apply unseen
        rw [own]
        intro same
        exact differs (Protocol.vpn.inj same).symm
    next notVpn =>
      apply mirrors.of_unseen
      intro backend
      apply unseen
      intro own
      rw [vpnBackend_eq_some.mpr own] at notVpn
      cases notVpn

theorem mirrors_importInbound {data : StoredInbound}
    {clientStats : List ClientTraffic} (mirrors : Mirrors host state)
    (fits : HostFits state.database panelHost)
    (refreshes : Refreshes host state
      (.importInbound data clientStats, panelHost)) :
    Mirrors host
      (handle host panelHost (.importInbound data clientStats) state) := by
  have other : (imported data).protocol.isVpnProtocol = false := refreshes
  generalize called : callService panelHost state.database
    (.importInbound data clientStats) = answer
  obtain ⟨error, after⟩ := answer
  have none : refreshedBackend state.database
      (.importInbound data clientStats) =
        vpnBackend (imported data).protocol := by
    cases protocol : (imported data).protocol with
    | vpn backend =>
        rw [protocol] at other
        cases other
    | _ => rfl
  refine mirrors.handle_form called none (inbounds_addInbound called) ?_ ?_
  · rintro ⟨row, member, here, -⟩
    exact fits.2 row member here
  · intro backend isVpn
    rw [vpnBackend_eq_some.mp isVpn] at other
    cases other

/-- An operation after which the services read the same rows. -/
theorem Mirrors.handle_unrefreshed (mirrors : Mirrors host state)
    {operation : Operation}
    (none : refreshedBackend state.database operation = none)
    (same : servedRows host
        (callService panelHost state.database operation).2 =
      servedRows host state.database) :
    Mirrors host (handle host panelHost operation state) := by
  generalize called : callService panelHost state.database operation = answer
    at same
  obtain ⟨error, after⟩ := answer
  cases error with
  | some error =>
      rw [handle_of_error called]
      exact mirrors.of_servedRows same
  | none =>
      rw [handle_of_success called, none]
      exact mirrors.of_servedRows same

/-- What the handler refreshes is all that has to be. -/
theorem mirrors_step {call : Operation × PanelHost} {next : State}
    (mirrors : Mirrors host state) (refreshes : Refreshes host state call)
    (stepped : (machine host).step state call = some next) :
    Mirrors host next := by
  change step host state call = some next at stepped
  unfold step at stepped
  split at stepped
  next fits =>
    obtain rfl := Option.some.inj stepped
    obtain ⟨operation, panelHost⟩ := call
    cases operation with
    | addInbound form clientStats => exact mirrors_addInbound mirrors refreshes
    | updateInbound pathId form => exact mirrors_updateInbound mirrors refreshes
    | delInbound id => exact mirrors_delInbound mirrors refreshes
    | importInbound data clientStats =>
        exact mirrors_importInbound mirrors fits refreshes
    | delDepletedClients id =>
        exact mirrors.handle_unrefreshed rfl
          (servedRows_delDepletedClients refreshes)
    | addTraffic batch =>
        exact mirrors.handle_unrefreshed rfl (servedRows_addTraffic refreshes)
  · cases stepped

end Steps

/-- A panel without inbounds. -/
def freshState : State where
  database := emptyDatabase
  files _ := none
  daemons _ := none
  prerouting := none

theorem mirrors_freshState : Mirrors host freshState where
  daemons backend daemon own := by
    cases backend <;> simp [freshState, requiredDaemons, desired, servedRows,
      emptyDatabase, StoredInbounds.view, Inbounds.ofProtocol, Table.empty]
  prerouting := rfl

def plainHost : Host := ⟨[], false, fun _ => false⟩

def pptpForm (enable : Bool) : StoredInbound :=
  { inboundForm [] with
    protocol := .vpn .pptp
    enable := enable
    settings := .parsed (.obj [("clients", .arr [.obj [("id", .str "ann"),
      ("password", .str "x"), ("email", .str "ann")]])]) }

/-- An inbound is added, counted on, and deleted. -/
def pptpServed : List (Operation × PanelHost) :=
  [(.addInbound (pptpForm true) [], ⟨1000, 1, true, true⟩),
    (.addTraffic ⟨[], [⟨"ann", 10, 20⟩]⟩, ⟨1000, 2, true, true⟩),
    (.delInbound 1, ⟨1000, 2, true, true⟩)]

end VpnUi.BackEnd
