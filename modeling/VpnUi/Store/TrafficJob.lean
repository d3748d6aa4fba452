import VpnUi.Store.Concurrent
import VpnUi.Store.TrafficCrash

namespace VpnUi.Store

open Foundation Panel

/-! The traffic job beside the other calls: one pass of `AddTraffic` at a time,
in its own steps, with the process pointer of the core. -/

inductive TrafficStage
  | counters
  | clients
  | renewals
  | disableClients
  | disableInbounds

/-- A pass under way: `start` is what its transaction would roll back to. -/
structure RunningPass where
  batch : TrafficBatch
  now : Int
  start : Database
  stage : TrafficStage

/-- `apiPort` is the port of the process pointer, which is nil before the first
start. -/
structure TrafficPanel where
  database : Database
  apiPort : Option Int
  pass : Option RunningPass
  crashed : Bool

/-- `XrayAPI.Init` refuses the port, and there is no handler client then. -/
def PortRefused (apiPort : Option Int) : Prop :=
  ∃ port ∈ apiPort, port ≤ 0 ∨ 65535 < port

instance (apiPort : Option Int) : Decidable (PortRefused apiPort) :=
  match apiPort with
  | none => isFalse fun ⟨_, member, _⟩ => nomatch member
  | some port => decidable_of_iff (port ≤ 0 ∨ 65535 < port)
      ⟨fun refused => ⟨port, rfl, refused⟩,
        fun ⟨_, member, refused⟩ => Option.some.inj member ▸ refused⟩

/-- A depleted client is removed from the core, unless its protocol has its own
daemon. -/
def RemovesUser (now : Int) (database : Database) : Prop :=
  ∃ row ∈ database.inbounds.rows, ∃ stat ∈ database.traffics.rows,
    row.id = stat.inboundId ∧
      depleted now stat.total (stat.up + stat.down) stat.expiryTime = true ∧
      stat.enable = true ∧
      row.protocol ∉ [.vpn .l2tp, .vpn .pptp, .vpn .openvpn]

instance (now : Int) (database : Database) :
    Decidable (RemovesUser now database) :=
  inferInstanceAs (Decidable (∃ row ∈ database.inbounds.rows,
    ∃ stat ∈ database.traffics.rows, _))

/-- A depleted inbound is deleted from the core. -/
def DeletesInbound (now : Int) (database : Database) : Prop :=
  ∃ row ∈ database.inbounds.rows,
    depleted now row.total (row.up + row.down) row.expiryTime = true ∧
      row.enable = true

instance (now : Int) (database : Database) :
    Decidable (DeletesInbound now database) :=
  inferInstanceAs (Decidable (∃ row ∈ database.inbounds.rows, _))

namespace TrafficPanel

def crash (panel : TrafficPanel) : TrafficPanel :=
  { panel with pass := none, crashed := true }

/-- The statements of a stage, without a failure of the database. -/
def perform (panel : TrafficPanel) (pass : RunningPass) (stage : TrafficStage)
    (statements : List Statement) : TrafficPanel :=
  { panel with
    database :=
      (Call.run pass.start Call.noFaults 0 statements panel.database).2
    pass := some { pass with stage := stage } }

/-- The next stage of the pass. -/
def advance (panel : TrafficPanel) (pass : RunningPass) : TrafficPanel :=
  match pass.stage with
  | .counters =>
      panel.perform pass .clients (addInboundTraffic pass.batch.inbounds)
  | .clients =>
      match addClientTraffic pass.now pass.batch.clients panel.database with
      | none => panel.crash
      | some statements =>
          -- `p.SetOnlineClients` is not guarded in this branch
          if panel.apiPort = none ∧ batchRows pass.batch panel.database ≠ []
          then panel.crash
          else panel.perform pass .renewals statements
  | .renewals =>
      match autoRenewClients pass.now panel.database with
      | none => panel.crash
      | some statements => panel.perform pass .disableClients statements
  | .disableClients =>
      if PortRefused panel.apiPort ∧ RemovesUser pass.now panel.database
      then panel.crash
      else { panel with
        database := panel.database.disableInvalidClients pass.now
        pass := some { pass with stage := .disableInbounds } }
  | .disableInbounds =>
      if PortRefused panel.apiPort ∧ DeletesInbound pass.now panel.database
      then panel.crash
      else { panel with
        database := panel.database.disableInvalidInbounds pass.now
        pass := none }

end TrafficPanel

inductive TrafficEvent
  | call (call : AccountCall × PanelHost)
  /-- A start of the core, whether it comes to read its API port or not. -/
  | newProcess (apiPort : Int)
  | startPass (batch : TrafficBatch) (now : Int)
  | advance

/-- The traffic passes of `accountMachine` take the pointer for granted. -/
def isTrafficPass : AccountCall → Bool
  | .request (.addTraffic _) => true
  | _ => false

def stepTraffic (panel : TrafficPanel) : TrafficEvent → Option TrafficPanel
  | .call call =>
      if panel.crashed ∨ panel.pass.isSome ∨ isTrafficPass call.1 then none
      else (accountMachine.step panel.database call).map fun database =>
        { panel with database := database }
  | .newProcess apiPort =>
      if panel.crashed then none
      else some { panel with apiPort := some apiPort }
  | .startPass batch now =>
      if panel.crashed ∨ panel.pass.isSome then none
      else some { panel with
        pass := some ⟨batch, now, panel.database, .counters⟩ }
  | .advance => panel.pass.map panel.advance

def trafficMachine : Machine TrafficPanel TrafficEvent := ⟨stepTraffic⟩

/-- When the next stage of a pass finds all it asserts. -/
def StageReady (panel : TrafficPanel) (pass : RunningPass) : Prop :=
  match pass.stage with
  | .counters => True
  | .clients =>
      let rows := batchRows pass.batch panel.database
      (rows = [] ∨ panel.apiPort ≠ none) ∧
        Adjustable pass.now
          ((waitingInbounds rows panel.database).flatMap arrayItems)
          (Waits rows)
  | .renewals =>
      ∀ row ∈ panel.database.inbounds, ∀ stat ∈ panel.database.traffics,
        isRenewable pass.now stat = true → stat.inboundId = row.id →
          Renewable row
  | .disableClients =>
      ¬ (PortRefused panel.apiPort ∧ RemovesUser pass.now panel.database)
  | .disableInbounds =>
      ¬ (PortRefused panel.apiPort ∧ DeletesInbound pass.now panel.database)

def TrafficReady (panel : TrafficPanel) : TrafficEvent → Prop
  | .advance => ∀ pass ∈ panel.pass, StageReady panel pass
  | _ => True

section Steps

variable {panel next : TrafficPanel}

theorem advance_crashed {pass : RunningPass} (alive : panel.crashed = false) :
    (panel.advance pass).crashed = false ↔ StageReady panel pass := by
  obtain ⟨batch, now, start, stage⟩ := pass
  cases stage with
  | counters => exact iff_of_true alive trivial
  | clients =>
      have adjusted := @addClientTraffic_isSome now batch panel.database
      simp only [TrafficPanel.advance, StageReady]
      rw [← adjusted]
      cases addClientTraffic now batch.clients panel.database with
      | none => simp [TrafficPanel.crash]
      | some statements =>
          dsimp only
          by_cases missing : panel.apiPort = none ∧
              batchRows batch panel.database ≠ []
          · rw [if_pos missing]
            refine iff_of_false (Bool.noConfusion ·) ?_
            exact fun ready => ready.1.elim missing.2 (· missing.1)
          · rw [if_neg missing]
            rw [not_and_or, not_not] at missing
            exact iff_of_true alive ⟨missing.symm, rfl⟩
  | renewals =>
      have renewed := @autoRenewClients_isSome now panel.database
      simp only [TrafficPanel.advance, StageReady]
      rw [← renewed]
      cases autoRenewClients now panel.database with
      | none => simp [TrafficPanel.crash]
      | some statements => exact iff_of_true alive rfl
  | disableClients =>
      simp only [TrafficPanel.advance, StageReady]
      split
      next refused => simp [TrafficPanel.crash, refused.1, refused.2]
      next fine => exact iff_of_true alive fine
  | disableInbounds =>
      simp only [TrafficPanel.advance, StageReady]
      split
      next refused => simp [TrafficPanel.crash, refused.1, refused.2]
      next fine => exact iff_of_true alive fine

/-- A step crashes the panel exactly when its stage was not ready. -/
theorem stepTraffic_crashed {event : TrafficEvent}
    (alive : panel.crashed = false)
    (stepped : stepTraffic panel event = some next) :
    next.crashed = false ↔ TrafficReady panel event := by
  cases event with
  | call call =>
      simp only [stepTraffic, Option.ite_none_left_eq_some] at stepped
      obtain ⟨database, -, rfl⟩ := Option.map_eq_some_iff.mp stepped.2
      exact iff_of_true alive trivial
  | newProcess apiPort =>
      simp only [stepTraffic, Option.ite_none_left_eq_some] at stepped
      obtain rfl := Option.some.inj stepped.2
      exact iff_of_true alive trivial
  | startPass batch now =>
      simp only [stepTraffic, Option.ite_none_left_eq_some] at stepped
      obtain rfl := Option.some.inj stepped.2
      exact iff_of_true alive trivial
  | advance =>
      obtain ⟨pass, under, rfl⟩ := Option.map_eq_some_iff.mp stepped
      rw [advance_crashed alive, TrafficReady, under]
      simp

/-- A panel stays crashed. -/
theorem stepTraffic_stays_crashed {event : TrafficEvent}
    (crashed : ¬ panel.crashed = false)
    (stepped : stepTraffic panel event = some next) :
    ¬ next.crashed = false := by
  rw [Bool.not_eq_false] at crashed ⊢
  cases event with
  | advance =>
      obtain ⟨⟨batch, now, start, stage⟩, -, rfl⟩ :=
        Option.map_eq_some_iff.mp stepped
      cases stage with
      | counters => exact crashed
      | clients =>
          simp only [TrafficPanel.advance]
          split
          next => rfl
          next => split <;> first | rfl | exact crashed
      | renewals =>
          simp only [TrafficPanel.advance]
          split
          next => rfl
          next => exact crashed
      | disableClients | disableInbounds =>
          simp only [TrafficPanel.advance]
          split
          next => rfl
          next => exact crashed
  | _ => simp [stepTraffic, crashed] at stepped

end Steps

section Pass

variable {panel final : TrafficPanel} {pass : RunningPass}
  {batch : TrafficBatch} {now : Int} {events : List TrafficEvent}

theorem run_startPass (alive : panel.crashed = false)
    (idle : panel.pass = none) :
    trafficMachine.run panel (.startPass batch now :: events) =
      trafficMachine.run { panel with
        pass := some ⟨batch, now, panel.database, .counters⟩ } events := by
  simp [Machine.run, trafficMachine, stepTraffic, alive, idle]

theorem run_advance (running : panel.pass = some pass) :
    trafficMachine.run panel (.advance :: events) =
      trafficMachine.run (panel.advance pass) events := by
  simp [Machine.run, trafficMachine, stepTraffic, running]

theorem run_advance_crash :
    trafficMachine.run panel.crash (.advance :: events) = none := rfl

theorem run_noFaults_number {State Error : Type*} {initial state : State}
    {script : List (Call State Error)} {number other : Nat} :
    Call.run initial Call.noFaults number script state =
      Call.run initial Call.noFaults other script state := by
  induction script generalizing number other state with
  | nil => rfl
  | cons call rest induction =>
      simp only [Call.run, Call.noFaults]
      cases call.attempt false state with
      | some next => exact induction
      | none =>
          cases call.onError with
          | ignored => exact induction
          | rolledBack => rfl
          | kept => rfl

/-- A pass that comes through its stages is `AddTraffic`. -/
theorem addTraffic_of_survived (alive : panel.crashed = false)
    (idle : panel.pass = none)
    (ran : trafficMachine.run panel
      (.startPass batch now :: List.replicate 5 .advance) = some final)
    (survived : final.crashed = false) :
    final.pass = none ∧
      addTraffic now batch Call.noFaults panel.database =
        (none, final.database) := by
  have counted := @run_addInboundTraffic panel.database 0 batch.inbounds
    panel.database
  rw [run_startPass alive idle] at ran
  simp only [List.replicate] at ran
  rw [run_advance rfl] at ran
  simp only [TrafficPanel.advance, TrafficPanel.perform] at ran
  rw [run_advance rfl] at ran
  simp only [TrafficPanel.advance] at ran
  rw [addTraffic, counted]
  simp only [trafficPasses]
  rw [counted] at ran
  dsimp only at ran
  revert ran
  cases addClientTraffic now batch.clients
    ((batch.inbounds.filter (·.isInbound)).foldl Database.countInbound
      panel.database) with
  | none =>
    intro ran
    rw [run_advance_crash] at ran
    cases ran
  | some statements =>
    intro ran
    dsimp only at ran ⊢
    split at ran
    next =>
      rw [run_advance_crash] at ran
      cases ran
    next =>
      rw [run_advance rfl] at ran
      simp only [TrafficPanel.advance, TrafficPanel.perform] at ran
      rw [@run_noFaults_number _ _ _ _ _
        (addInboundTraffic batch.inbounds).length 0]
      revert ran
      cases autoRenewClients now (Call.run panel.database Call.noFaults 0
        statements ((batch.inbounds.filter (·.isInbound)).foldl
          Database.countInbound panel.database)).2 with
      | none =>
        intro ran
        rw [run_advance_crash] at ran
        cases ran
      | some renewals =>
        intro ran
        dsimp only at ran ⊢
        rw [run_advance rfl] at ran
        simp only [TrafficPanel.advance] at ran
        split at ran
        next =>
          rw [run_advance_crash] at ran
          cases ran
        next =>
          rw [run_advance rfl] at ran
          simp only [TrafficPanel.advance, Machine.run_nil] at ran
          split at ran
          next =>
            obtain rfl := Option.some.inj ran
            cases survived
          next =>
            obtain rfl := Option.some.inj ran
            refine ⟨rfl, ?_⟩
            simp only [Call.noFaults, Bool.false_eq_true, if_false]
            rw [@run_noFaults_number _ _ _ _ renewals _ 0]

end Pass

def freshTrafficPanel : TrafficPanel := ⟨emptyDatabase, none, none, false⟩

/-- The clock of ann starts with her first bytes; the form leaves her expiry
out. -/
def delayedForm (id : Int) (fields : JsonObject) : StoredInbound :=
  { inboundForm [] with
    id := id
    settings := .parsed (.obj [("clients", .arr [.obj ([("id", .str "ann"),
      ("email", .str "ann"), ("enable", .bool true)] ++ fields)])]) }

/-- The clock of ann is started by her first bytes. -/
def clockStarted : List TrafficEvent :=
  [.newProcess 62789,
    .call (.request (.addInbound
      (delayedForm 0 [("expiryTime", .int (-86400000))]) []),
      ⟨1000, 1, true, true⟩),
    .startPass annBytes 1000, .advance, .advance, .advance, .advance, .advance]

/-- Bytes of a client are counted before the core was ever started. -/
def bytesBeforeCore : List TrafficEvent :=
  [.call (.request (.addInbound (inboundForm ["ann"]) []),
      ⟨1000, 1, true, true⟩),
    .startPass annBytes 1000, .advance, .advance]

/-- Bytes of a client whose form lost the expiry that the row has. -/
def bytesWithoutExpiry : List TrafficEvent :=
  [.newProcess 62789,
    .call (.request (.addInbound
      (delayedForm 0 [("expiryTime", .int (-86400000))]) []),
      ⟨1000, 1, true, true⟩),
    .call (.request (.updateInbound (delayedForm 1 [])), noonHost),
    .startPass annBytes 1000, .advance, .advance]

end VpnUi.Store
