import VpnUi.BackEnd.Refresh

namespace VpnUi.BackEnd

open Foundation Panel Address

/-! When a refresh leaves its protocol mirrored, and why it leaves the others
so. -/

variable {host : Host} {files other : ConfigFiles} {backend : VpnProtocol}
  {rows : List Served} {state next : State}

section Agreement

/-- The files of one protocol are the same. -/
def AgreeOn (backend : VpnProtocol) (files other : ConfigFiles) : Prop :=
  ∀ name, name.backend = backend → files name = other name

theorem AgreeOn.configOf (agree : AgreeOn backend files other)
    {daemon : DaemonName} (own : daemon.backend = backend) :
    BackEnd.configOf files daemon = BackEnd.configOf other daemon := by
  apply List.map_congr_left
  intro name member
  exact agree name ((DaemonName.backend_of_mem_files member).trans own)

theorem AgreeOn.hasUsableCert (agree : AgreeOn backend files other) {id : Int}
    {reading : Reading} :
    BackEnd.hasUsableCert host files backend id reading =
      BackEnd.hasUsableCert host other backend id reading := by
  unfold BackEnd.hasUsableCert
  split
  · rfl
  · simp only [List.all_cons, List.all_nil,
      agree (configDir backend id _) rfl]

theorem AgreeOn.desired (agree : AgreeOn backend files other) :
    BackEnd.desired host files rows backend =
      BackEnd.desired host other rows backend := by
  cases backend with
  | openconnect | sstp => simp only [BackEnd.desired, agree.hasUsableCert]
  | _ => rfl

theorem agreeOn_generatedFiles
    (same : servedRows host next.database backend =
      servedRows host state.database backend)
    (agree : AgreeOn backend next.files state.files) :
    AgreeOn backend (generatedFiles host next) (generatedFiles host state) := by
  rintro name rfl
  simp only [generatedFiles, same]
  exact Files.writeAll_congr (agree name rfl)

/-- A protocol stays mirrored where its rows, files and daemons stay. -/
theorem MirrorsDaemons.of_same (mirrors : MirrorsDaemons host state backend)
    (same : servedRows host next.database backend =
      servedRows host state.database backend)
    (agree : AgreeOn backend next.files state.files)
    (daemons : ∀ daemon, daemon.backend = backend →
      next.daemons daemon = state.daemons daemon) :
    MirrorsDaemons host next backend := by
  intro daemon own
  have derived := agreeOn_generatedFiles same agree
  have required : requiredDaemons host next backend =
      requiredDaemons host state backend := by
    rw [requiredDaemons, derived.desired, same]
    rfl
  rw [daemons daemon own, mirrors daemon own, derived.configOf own, required]

/-- A change of the database that no service sees. -/
theorem Mirrors.of_servedRows (mirrors : Mirrors host state)
    {database : Store.Database}
    (same : servedRows host database = servedRows host state.database) :
    Mirrors host { state with database := database } where
  daemons backend := (mirrors.daemons backend).of_same
    (congrFun same backend) (fun _ _ => rfl) fun _ _ => rfl
  prerouting := by
    rw [same]
    exact mirrors.prerouting

end Agreement

section Serves

/-- One daemon serves all rows: there is none, or one of them is enabled. -/
def SharedServes (rows : List Served) : Prop :=
  rows = [] ∨ ∃ row ∈ rows, row.enable = true

/-- With the bundled libreswan an enabled row uses IPsec, or none does and pluto
does not run. -/
def IpsecServes (host : Host) (daemons : Daemons) (rows : List Served) : Prop :=
  host.bundledIpsec = true →
    (∃ row ∈ rows, row.enable = true ∧ usesIpsec row = true) ∨
      daemons .pluto = none ∧ ∀ row ∈ rows, usesIpsec row = false

/-- The services of the protocol start for these rows what the enabled ones
require. -/
def Serves (host : Host) (daemons : Daemons) (rows : List Served) :
    VpnProtocol → Prop
  | .l2tp => SharedServes rows ∧ IpsecServes host daemons rows
  | .pptp => SharedServes rows
  | _ => True

theorem SharedServes.filter_eq_nil (serves : SharedServes rows) :
    rows.filter Served.enable = [] ↔ rows = [] := by
  constructor
  · intro empty
    rcases serves with none | ⟨row, member, enabled⟩
    · exact none
    · exact absurd enabled (List.filter_eq_nil_iff.mp empty row member)
  · rintro rfl
    rfl

theorem any_usesIpsec_filter {daemons : Daemons}
    (serves : IpsecServes host daemons rows) :
    (host.bundledIpsec && (rows.filter Served.enable).any usesIpsec) =
      (host.bundledIpsec && rows.any usesIpsec) := by
  cases bundled : host.bundledIpsec with
  | false => rfl
  | true =>
      simp only [Bool.true_and]
      rcases serves bundled with ⟨row, member, enabled, uses⟩ | ⟨-, unused⟩
      · rw [List.any_eq_true.mpr ⟨row, member, uses⟩, List.any_eq_true]
        exact ⟨row, List.mem_filter.mpr ⟨member, enabled⟩, uses⟩
      · have none : rows.any usesIpsec = false :=
          List.any_eq_false.mpr fun row member => by simp [unused row member]
        rw [none, List.any_eq_false]
        intro row member
        simp [unused row (List.mem_of_mem_filter member)]

theorem flatMap_filter_enable {Item : Type*} {items : Served → List Item}
    (disabled : ∀ row : Served, row.enable = false → items row = []) :
    (rows.filter Served.enable).flatMap items = rows.flatMap items := by
  induction rows with
  | nil => rfl
  | cons row rest induction =>
      cases enabled : row.enable with
      | true =>
          rw [List.filter_cons_of_pos enabled, List.flatMap_cons,
            List.flatMap_cons, induction]
      | false =>
          rw [List.filter_cons_of_neg (by simp [enabled]), List.flatMap_cons,
            disabled row enabled, List.nil_append, induction]

/-- What the services start is then what is required. -/
theorem Serves.desired_filter {daemons : Daemons}
    (serves : Serves host daemons rows backend) :
    desired host files (rows.filter Served.enable) backend =
      desired host files rows backend := by
  cases backend with
  | l2tp =>
      obtain ⟨shared, ipsec⟩ := serves
      simp only [desired, shared.filter_eq_nil, any_usesIpsec_filter ipsec]
  | pptp =>
      have shared : SharedServes rows := serves
      simp only [desired, shared.filter_eq_nil]
  | openvpn | openconnect | sstp =>
      apply flatMap_filter_enable
      intro row disabled
      simp only [disabled]

/-- Pluto is not left running. -/
theorem Serves.pluto_stopped {daemons : Daemons}
    (serves : Serves host daemons rows .l2tp)
    (stopped : host.bundledIpsec = false → daemons .pluto = none)
    (undesired : DaemonName.pluto ∉ desired host files rows .l2tp) :
    daemons .pluto = none := by
  cases bundled : host.bundledIpsec with
  | false => exact stopped bundled
  | true =>
      rcases serves.2 bundled with ⟨row, member, -, uses⟩ | ⟨none, -⟩
      · have any : rows.any usesIpsec = true :=
          List.any_eq_true.mpr ⟨row, member, uses⟩
        simp [desired, bundled, any] at undesired
      · exact none

end Serves

section Refresh

/-- Without the bundled libreswan there is no pluto to run. -/
theorem Mirrors.pluto_of_host (mirrors : Mirrors host state)
    (hosts : host.bundledIpsec = false) : state.daemons .pluto = none := by
  rw [mirrors.daemons .l2tp .pluto rfl, if_neg]
  simp [requiredDaemons, desired, hosts]

/-- The rows that a refresh of their protocol works on. -/
def refreshedRows (host : Host) (backend : VpnProtocol)
    (database : Store.Database) : ServedRows :=
  servedRows host (expandVpnRanges database backend)

theorem refresh_files : (refresh host backend state).files =
    state.files.writeAll (generateAllConfigs
      (refreshedRows host backend state.database backend) backend) :=
  writeAll_restartWrites

theorem agreeOn_refresh {elsewhere : VpnProtocol} (differs : elsewhere ≠ backend) :
    AgreeOn elsewhere (refresh host backend state).files state.files := by
  rintro name rfl
  rw [refresh_files]
  apply Files.writeAll_of_not_mem
  rintro entry member rfl
  exact differs (backend_of_generateAllConfigs member)

/-- The protocol itself: its generated files are on the disk, and its daemons
were started on them. -/
theorem mirrorsDaemons_refresh
    (hosted : host.bundledIpsec = false → state.daemons .pluto = none)
    (serves : Serves host state.daemons
      (refreshedRows host backend state.database backend) backend) :
    MirrorsDaemons host (refresh host backend state) backend := by
  intro daemon own
  have agree : AgreeOn backend
      (generatedFiles host (refresh host backend state))
      (refresh host backend state).files := by
    rintro name rfl
    simp only [generatedFiles, refresh_files]
    exact congrFun Files.writeAll_writeAll name
  have rows : servedRows host (refresh host backend state).database =
      refreshedRows host backend state.database := rfl
  rw [requiredDaemons, rows, serves.desired_filter, agree.desired,
    agree.configOf own]
  change restartServices host (refresh host backend state).files
    (refreshedRows host backend state.database backend) backend state.daemons
      daemon = _
  rw [restartServices, if_neg (not_not.mpr own)]
  split
  · rfl
  next undesired =>
    split
    next isPluto =>
      subst isPluto
      subst own
      exact serves.pluto_stopped hosted undesired
    · rfl

/-- A refresh brings the protocol back that was changed, if all others were
mirrored. -/
theorem mirrors_refresh {database : Store.Database}
    (mirrors : Mirrors host state)
    (serves : Serves host state.daemons
      (refreshedRows host backend database backend) backend)
    (elsewhere : ∀ other, other ≠ backend →
      refreshedRows host backend database other =
        servedRows host state.database other) :
    Mirrors host (refresh host backend { state with database := database }) where
  daemons := by
    intro other
    by_cases same : other = backend
    · subst same
      exact mirrorsDaemons_refresh mirrors.pluto_of_host serves
    · refine (mirrors.daemons other).of_same ?_ ?_ ?_
      · exact elsewhere other same
      · exact agreeOn_refresh same
      · intro daemon own
        change restartServices _ _ _ _ _ daemon = _
        rw [restartServices, if_pos (fun refreshed =>
          same (own.symm.trans refreshed))]
  prerouting := rfl

end Refresh

end VpnUi.BackEnd
