import Mathlib.Data.List.Perm.Basic
import VpnUi.Foundation.Transition
import VpnUi.Xray.Config

namespace VpnUi.Xray

open Foundation

/-! The running core by what it was loaded with and what the API has changed
since, and the restarts that leave it alone. -/

/-- A successful call of the core's API. -/
inductive ApiCall
  | addInbound (inbound : InboundConfig)
  | delInbound (tag : String)
  | addUser (tag : String) (user : User)
  | removeUser (tag email : String)
  deriving DecidableEq

def InboundConfig.onUsers (change : List User → List User)
    (inbound : InboundConfig) : InboundConfig :=
  { inbound with
    settings := { inbound.settings with
      users := change inbound.settings.users } }

def onTag (tag : String) (change : List User → List User)
    (inbounds : List InboundConfig) : List InboundConfig :=
  inbounds.map fun inbound =>
    if inbound.tag = tag then inbound.onUsers change else inbound

def applyCall (inbounds : List InboundConfig) : ApiCall → List InboundConfig
  | .addInbound inbound => inbounds ++ [inbound]
  | .delInbound tag => inbounds.filter (·.tag ≠ tag)
  | .addUser tag user => onTag tag (· ++ [user]) inbounds
  | .removeUser tag email => onTag tag (·.filter (·.email ≠ email)) inbounds

/-- The configuration the process was started with, and its inbounds now. -/
structure Core where
  loaded : Config
  inbounds : List InboundConfig
  deriving DecidableEq

def Core.load (config : Config) : Core := ⟨config, config.inbounds⟩

def Core.apply (core : Core) (calls : List ApiCall) : Core :=
  { core with inbounds := calls.foldl applyCall core.inbounds }

def Core.effective (core : Core) : Config :=
  { core.loaded with inbounds := core.inbounds }

/-- Two inbounds that differ at most in the order of their users. -/
def InboundConfig.Agrees (inbound other : InboundConfig) : Prop :=
  inbound = other.onUsers (fun _ => inbound.settings.users) ∧
    inbound.settings.users.Perm other.settings.users

/-- The same inbounds in some order. -/
def InboundsAgree (inbounds others : List InboundConfig) : Prop :=
  ∃ ordered, inbounds.Perm ordered ∧
    List.Forall₂ InboundConfig.Agrees ordered others

def Config.Agrees (config other : Config) : Prop :=
  InboundsAgree config.inbounds other.inbounds ∧
    config = { other with inbounds := config.inbounds }

theorem InboundConfig.Agrees.refl (inbound : InboundConfig) :
    inbound.Agrees inbound := ⟨rfl, List.Perm.refl _⟩

theorem InboundsAgree.refl (inbounds : List InboundConfig) :
    InboundsAgree inbounds inbounds := by
  refine ⟨inbounds, List.Perm.refl _, ?_⟩
  induction inbounds with
  | nil => exact .nil
  | cons inbound rest induction =>
      exact .cons (InboundConfig.Agrees.refl inbound) induction

theorem Config.Agrees.refl (config : Config) : config.Agrees config :=
  ⟨InboundsAgree.refl _, rfl⟩

/-- `returned` tells that the last event was a `RestartXray(false)` that
returned nil with the core running. -/
structure Station (Database : Type*) where
  database : Database
  core : Option Core
  needRestart : Bool
  returned : Bool

/-- An operation of the panel or an edit of the template: the database after it,
the API calls that succeeded, and whether it flags a restart.  A restart first
runs `AddTraffic(nil, nil)`, which may change both in the same way. -/
inductive StationEvent (Database : Type*)
  | operate (database : Database) (calls : List ApiCall) (flags : Bool)
  | takeFlag
  | restartXray (isForce : Bool) (database : Database) (calls : List ApiCall)
      (started : Bool)
  | exit

section Machine

variable {Database : Type*} (generate : Database → Option Config)

/-- `RestartXray` once the configuration is generated. -/
def Station.restartXray (station : Station Database) (isForce : Bool)
    (config : Config) (started : Bool) : Station Database :=
  match station.core with
  | some core =>
      if !isForce && core.loaded.equals config && !station.needRestart then
        { station with returned := true }
      else
        { station with
          core := if started then some (.load config) else none
          returned := !isForce && started }
  | none =>
      { station with
        core := if started then some (.load config) else none
        returned := !isForce && started }

/-- The calls reach the core only while it runs. -/
def Station.operate (station : Station Database) (database : Database)
    (calls : List ApiCall) : Station Database :=
  { station with
    database := database
    core := station.core.map (·.apply calls)
    returned := false }

def stepStation (station : Station Database) :
    StationEvent Database → Option (Station Database)
  | .operate database calls flags =>
      some { station.operate database calls with
        needRestart := station.needRestart || flags }
  | .takeFlag => some { station with needRestart := false, returned := false }
  | .restartXray isForce database calls started =>
      let operated := station.operate database calls
      match generate database with
      | none => some operated
      | some config => some (operated.restartXray isForce config started)
  | .exit => some { station with core := none, returned := false }

def stationMachine : Machine (Station Database) (StationEvent Database) :=
  ⟨stepStation generate⟩

/-- After a `RestartXray(false)` that returned nil the core has what would be
generated now. -/
def Station.Sound (station : Station Database) : Prop :=
  station.returned = true → ∀ core ∈ station.core,
    ∀ config ∈ generate station.database, core.effective.Agrees config

/-- A restart that is skipped finds the inbounds and users the core was loaded
with, and the two sections that are not compared unchanged. -/
def SkipsUnchanged (station : Station Database) :
    StationEvent Database → Prop
  | .restartXray isForce database calls _ =>
      ∀ core ∈ station.core, ∀ config ∈ generate database,
        isForce = false → core.loaded.equals config = true →
          station.needRestart = false →
            InboundsAgree (core.apply calls).inbounds core.loaded.inbounds ∧
              core.loaded.observatory = config.observatory ∧
              core.loaded.burstObservatory = config.burstObservatory
  | _ => True

variable {generate}

/-- What is left to agree once `Equals` has said yes. -/
theorem agrees_iff_of_equals {core : Core} {config : Config}
    (equals : core.loaded.equals config = true) :
    core.effective.Agrees config ↔
      InboundsAgree core.inbounds core.loaded.inbounds ∧
        core.loaded.observatory = config.observatory ∧
        core.loaded.burstObservatory = config.burstObservatory := by
  have same := Config.equals_iff.mp equals
  have inbounds : config.inbounds = core.loaded.inbounds := by rw [same]
  unfold Config.Agrees
  rw [inbounds]
  refine and_congr Iff.rfl ?_
  obtain ⟨⟨_, _, _, _, _, _, _, _, _, _, _, _, _, _⟩, _⟩ := core
  obtain ⟨_, _, _, _, _, _, _, _, _, _, _, _, _, _⟩ := config
  simp only [Config.mk.injEq] at same
  simp [Core.effective, same]

theorem Station.sound_of_silent {station : Station Database}
    (silent : station.returned = false) : station.Sound generate := by
  intro returned
  rw [silent] at returned
  cases returned

/-- A core that has just been loaded is as generated. -/
theorem Station.sound_load {station : Station Database} {config : Config}
    {started : Bool} (generated : generate station.database = some config)
    (core : station.core = if started then some (.load config) else none) :
    station.Sound generate := by
  intro _ loaded running other current
  rw [core] at running
  obtain rfl : config = other :=
    Option.some.inj (generated.symm.trans (Option.mem_def.mp current))
  cases started with
  | false => cases running
  | true =>
      obtain rfl := Option.some.inj running
      exact Config.Agrees.refl config

/-- A restart is sound exactly if, when it is skipped, what `Equals` does not
look at agrees. -/
theorem Station.restartXray_sound_iff {station : Station Database}
    {isForce started : Bool} {config : Config}
    (generated : generate station.database = some config) :
    (station.restartXray isForce config started).Sound generate ↔
      ∀ core ∈ station.core, isForce = false →
        core.loaded.equals config = true → station.needRestart = false →
          InboundsAgree core.inbounds core.loaded.inbounds ∧
            core.loaded.observatory = config.observatory ∧
            core.loaded.burstObservatory = config.burstObservatory := by
  unfold Station.restartXray
  split
  next core running =>
    simp only [running, Option.mem_def, Option.some.injEq, forall_eq']
    split
    next skipped =>
      simp only [Bool.and_eq_true, Bool.not_eq_true'] at skipped
      obtain ⟨⟨unforced, equals⟩, unflagged⟩ := skipped
      have sound_iff : Station.Sound generate
          ⟨station.database, some core, station.needRestart, true⟩ ↔
            core.effective.Agrees config := by
        simp [Station.Sound, generated]
      refine sound_iff.trans ((agrees_iff_of_equals equals).trans ?_)
      simp only [unforced, equals, unflagged, forall_const]
    next restarted =>
      refine iff_of_true (Station.sound_load generated rfl) ?_
      intro unforced equals unflagged
      simp [unforced, equals, unflagged] at restarted
  next stopped =>
    refine iff_of_true (Station.sound_load generated rfl) ?_
    rw [stopped]
    rintro _ ⟨⟩

theorem sound_step_iff {station next : Station Database}
    {event : StationEvent Database}
    (stepped : (stationMachine generate).step station event = some next) :
    next.Sound generate ↔ SkipsUnchanged generate station event := by
  cases event with
  | operate database calls flags =>
      obtain rfl := Option.some.inj stepped
      exact iff_of_true (Station.sound_of_silent rfl) trivial
  | takeFlag =>
      obtain rfl := Option.some.inj stepped
      exact iff_of_true (Station.sound_of_silent rfl) trivial
  | exit =>
      obtain rfl := Option.some.inj stepped
      exact iff_of_true (Station.sound_of_silent rfl) trivial
  | restartXray isForce database calls started =>
      simp only [stationMachine, stepStation] at stepped
      cases generated : generate database with
      | none =>
          rw [generated] at stepped
          obtain rfl := Option.some.inj stepped
          refine iff_of_true (Station.sound_of_silent rfl) ?_
          intro _ _ config current
          rw [generated] at current
          cases current
      | some config =>
          rw [generated] at stepped
          obtain rfl := Option.some.inj stepped
          refine (Station.restartXray_sound_iff generated).trans ?_
          simp only [Station.operate, Option.mem_def, Option.map_eq_some_iff,
            forall_exists_index, and_imp, forall_apply_eq_imp_iff₂,
            SkipsUnchanged, generated, Option.some.injEq, forall_eq']
          rfl

theorem refused_skips {station : Station Database}
    {event : StationEvent Database}
    (refused : (stationMachine generate).step station event = none) :
    SkipsUnchanged generate station event := by
  cases event with
  | operate | takeFlag | exit => exact trivial
  | restartXray isForce database calls started =>
      simp only [stationMachine, stepStation] at refused
      split at refused <;> cases refused

variable (generate) in
/-- No restart that returns nil leaves the core behind the database precisely if
every skipped one finds the core as it was loaded. -/
theorem skipped_restart_sound_iff (database : Database) (needRestart : Bool)
    (events : List (StationEvent Database)) :
    (stationMachine generate).Throughout (Station.Sound generate)
        ⟨database, none, needRestart, false⟩ events ↔
      (stationMachine generate).Guarded (SkipsUnchanged generate)
        ⟨database, none, needRestart, false⟩ events :=
  @Machine.throughout_iff_guarded _ _ (stationMachine generate) _
    (fun _ => True) _ (fun _ _ _ _ _ => trivial)
    (fun _ _ _ _ _ stepped => sound_step_iff stepped)
    (fun _ _ refused => refused_skips refused) _ _
    trivial (Station.sound_of_silent rfl)

end Machine

/-- An inbound of one client, whose statistics say whether it is enabled. -/
def vlessRow (enabled : Bool) : Row where
  id := 1
  enable := true
  listen := ""
  port := 443
  protocol := .vless
  otherSettings := "\x7b\"decryption\":\"none\"\x7d"
  clients := [⟨"alice", some true, "\x7b\"id\":\"1\"\x7d"⟩]
  streamSettings := "\x7b\x7d"
  tag := "inbound-443"
  sniffing := "\x7b\x7d"
  clientStats := [("alice", enabled)]

def generateRows (database : Config × List Row) : Option Config :=
  some (getXrayConfig id database.1 database.2)

/-- The client uses up its traffic and is removed through the API; its traffic
is reset, the API fails, and the restart that was flagged is skipped. -/
def resetHistory : List (StationEvent (Config × List Row)) :=
  [.restartXray false (.blank, [vlessRow true]) [] true,
    .operate (.blank, [vlessRow false]) [.removeUser "inbound-443" "alice"] false,
    .operate (.blank, [vlessRow true]) [] true,
    .takeFlag,
    .restartXray false (.blank, [vlessRow true]) [] true]

/-- The core runs on without the client. -/
theorem client_missing_after_skipped_restart :
    ¬ ∀ events, (stationMachine generateRows).Throughout
      (Station.Sound generateRows) ⟨(.blank, []), none, false, false⟩ events := by
  intro sound
  have final := (sound resetHistory).final _ rfl
  obtain ⟨⟨ordered, permuted, agree⟩, -⟩ := final rfl _ rfl _ rfl
  obtain rfl := List.singleton_perm.mp permuted
  obtain ⟨⟨-, users⟩, -⟩ := List.forall₂_cons.mp agree
  exact absurd users.length_eq (by decide)

end VpnUi.Xray
