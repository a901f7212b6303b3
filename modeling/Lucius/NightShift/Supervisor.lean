import Lucius.Integration.CommitService
import Lucius.NightShift.Containment
import Lucius.Runtime.Loop

/-! The supervisor of a night shift: cycles of one runtime run, an integration and a commit.

The three services are parameters and may do anything to what lies outside the supervisor. The
calls it makes of them, and what lay outside whenever it looked at the workspaces, are kept in
order, which the program does not do. Costs, providers and durations are left out. -/

namespace Lucius.NightShift

open Lucius.Runtime Integration ControlledCommit Ollama

inductive NightShiftStatus where
  | cleanTermination | hardStop
  deriving DecidableEq, Repr

/-- A configuration that was built: it has room for a task, and time for it. -/
structure NightShiftConfig where
  workflowIds : Option (List String) := none
  maxTasks : Int := 1
  maxCommits : Int := 1
  maxWallClockSeconds : Rat := 3600
  stopOnManualReconciliation : Bool := true
  allowedTaskComplexities : List String := ["T0", "T1"]
  allowedRiskLevels : List String := ["LOW"]
  tasks_positive : 1 ≤ maxTasks := by decide
  commits_nonneg : 0 ≤ maxCommits := by decide
  clock_positive : 0 < maxWallClockSeconds := by decide

/-- Building a configuration, with the refusals of its limits. -/
def NightShiftConfig.make (workflowIds : Option (List String)) (maxTasks maxCommits : Int)
    (maxWallClockSeconds : Rat) (stopOnManualReconciliation : Bool) (dispatcherCount : Int)
    (allowedTaskComplexities allowedRiskLevels : List String) : Except PyExc NightShiftConfig :=
  if dispatcherCount ≠ 1 then
    .error (.valueError "Night Shift v0 supports exactly one logical dispatcher")
  else if tasks : maxTasks < 1 then .error (.valueError "max_tasks must be positive")
  else if commits : maxCommits < 0 then .error (.valueError "max_commits must be non-negative")
  else if clock : maxWallClockSeconds ≤ 0 then
    .error (.valueError "max_wall_clock_seconds must be positive")
  else .ok {
    workflowIds := workflowIds
    maxTasks := maxTasks
    maxCommits := maxCommits
    maxWallClockSeconds := maxWallClockSeconds
    stopOnManualReconciliation := stopOnManualReconciliation
    allowedTaskComplexities := allowedTaskComplexities
    allowedRiskLevels := allowedRiskLevels
    tasks_positive := not_lt.mp tasks
    commits_nonneg := not_lt.mp commits
    clock_positive := Rat.not_le.mp clock }

/-- What the supervisor reads of a runtime run. -/
structure RuntimeReport extends ExecutionRuntimeLoopResult where
  escalations : Nat := 0
  deriving DecidableEq

structure NightShiftCycleRecord where
  cycleNumber : Nat
  runtimeStatus : Option RuntimeLoopStatus := none
  runtimeStoppedReason : Option String := none
  workflowId : Option String := none
  itemId : Option String := none
  projectId : Option String := none
  taskOutcome : Option RuntimeExecutionOutcome := none
  integrationStatus : Option IntegrationStatus := none
  integrationReason : Option String := none
  commitStatus : Option CommitStatus := none
  commitReason : Option String := none
  resultingCommitSha : Option String := none
  manualReconciliationRequired : Bool := false
  containmentStatus : Option ContainmentStatus := none
  containmentReason : Option String := none
  candidateQuarantined : Bool := false
  hardStopReason : Option String := none

structure NightShiftResult where
  status : NightShiftStatus := .cleanTermination
  stopReason : Option String := none
  cyclesAttempted : Nat := 0
  tasksSelected : Nat := 0
  tasksCompleted : Nat := 0
  tasksBlocked : Nat := 0
  tasksEscalated : Nat := 0
  containedTaskLocalFailures : Nat := 0
  hardStopFailures : Nat := 0
  workflowsProcessed : List String := []
  l1IntegrationsAttempted : Nat := 0
  l1IntegrationsSucceeded : Nat := 0
  l1IntegrationsFailed : Nat := 0
  l2CommitsAttempted : Nat := 0
  l2CommitsSucceeded : Nat := 0
  l2CommitsAlreadyCommitted : Nat := 0
  l2CommitsFailed : Nat := 0
  resultingCommitShas : List String := []
  manualReconciliationRequired : Bool := false
  maxLimitReachedReason : Option String := none
  integrityViolation : Option String := none
  cycles : List NightShiftCycleRecord := []

/-- A call of a service: a runtime run or an integration that returned, a commit that is asked
for, and the commit that returned. -/
inductive Call where
  | ran (cycle : Nat) (report : RuntimeReport)
  | integrated (cycle : Nat) (workflowId : String) (status : IntegrationStatus)
  | committing (cycle : Nat) (workflowId : String)
  | committed (cycle : Nat) (workflowId : String) (status : CommitStatus)
  deriving DecidableEq

/-- What lies outside the supervisor, with what the services keep for themselves. -/
structure Outside (ρ : Type) where
  store : Store
  disk : Disk
  rest : ρ

structure Services (ρ : Type) where
  runtime : RuntimeLoopConfig → Action (Outside ρ) PyExc RuntimeReport
  integrate : CanonicalIntegrationRequest → Action (Outside ρ) PyExc CanonicalIntegrationResult
  commit : ControlledCommitRequest → Action (Outside ρ) PyExc ControlledCommitResult
  clock : Nat → Rat
  surroundings : Surroundings

structure ShiftState (ρ : Type) where
  outside : Outside ρ
  readings : Nat := 0
  result : NightShiftResult := {}
  calls : List Call := []
  looks : List (Outside ρ) := []

abbrev Shift (ρ α : Type) := Action (ShiftState ρ) PyExc α

section

variable {ρ : Type}

def onOutside {α : Type} (action : Action (Outside ρ) PyExc α) : Shift ρ α :=
  Action.zoom ShiftState.outside (fun state outside => { state with outside := outside }) action

def onStore {α : Type} (operation : Op α) : Shift ρ α :=
  onOutside (Action.zoom Outside.store (fun outside store => { outside with store := store }) operation)

def report (change : NightShiftResult → NightShiftResult) : Shift ρ Unit :=
  modify (fun state => { state with result := change state.result })

def called (call : Call) : Shift ρ Unit :=
  modify (fun state => { state with calls := state.calls ++ [call] })

def look : Shift ρ Unit :=
  modify (fun state => { state with looks := state.looks ++ [state.outside] })

def readClock (services : Services ρ) : Shift ρ Rat := do
  let state ← get
  set { state with readings := state.readings + 1 }
  return services.clock state.readings

def audit (eventType result : String) : Shift ρ Unit :=
  onStore (Op.record {
    eventType := eventType
    action := "run_night_shift_supervisor"
    result := result })

@[simp] theorem exec_report (change : NightShiftResult → NightShiftResult) (state : ShiftState ρ) :
    Action.exec (report change) state = (.ok (), { state with result := change state.result }) := rfl

@[simp] theorem exec_called (call : Call) (state : ShiftState ρ) :
    Action.exec (called call) state = (.ok (), { state with calls := state.calls ++ [call] }) := rfl

@[simp] theorem exec_look (state : ShiftState ρ) :
    Action.exec look state = (.ok (), { state with looks := state.looks ++ [state.outside] }) := rfl

@[simp] theorem exec_readClock (services : Services ρ) (state : ShiftState ρ) :
    Action.exec (readClock services) state =
      (.ok (services.clock state.readings), { state with readings := state.readings + 1 }) := rfl

theorem exec_audit (eventType result : String) (state : ShiftState ρ) :
    ∃ outside, outside.store.toTables = state.outside.store.toTables ∧
      outside.disk = state.outside.disk ∧
      Action.exec (audit eventType result) state = (.ok (), { state with outside := outside }) := by
  refine ⟨_, ?_, ?_, rfl⟩ <;> rfl

/-- The record of the cycle that is under way is the last one. -/
def onLast {α : Type} (change : α → α) : List α → List α
  | [] => []
  | [last] => [change last]
  | first :: second :: rest => first :: onLast change (second :: rest)

def reportCycle (change : NightShiftCycleRecord → NightShiftCycleRecord) : Shift ρ Unit :=
  report (fun result => { result with cycles := onLast change result.cycles })

def extendUnique (target : List String) (value : String) : List String :=
  if value.toList.isEmpty ∨ value ∈ target then target else target ++ [value]

/-- The supervisor ends with its result, after reading the clock once more. -/
def ended (services : Services ρ) (change : NightShiftResult → NightShiftResult) :
    Shift ρ (Option NightShiftResult) := do
  report change
  let _ ← readClock services
  let state ← get
  return some state.result

def finishClean (services : Services ρ) (reason : String) : Shift ρ (Option NightShiftResult) := do
  let result ← ended services (fun result => { result with
    status := .cleanTermination
    stopReason := some reason
    maxLimitReachedReason := if "MAX_".toList.isPrefixOf reason.toList then some reason else none })
  audit "NIGHT_SHIFT_COMPLETED" "CLEAN_TERMINATION"
  return result

def hardStop (services : Services ρ) (reason : String) : Shift ρ (Option NightShiftResult) := do
  reportCycle (fun cycle => { cycle with hardStopReason := some reason })
  let result ← ended services (fun result => { result with
    hardStopFailures := result.hardStopFailures + 1
    status := .hardStop
    stopReason := some reason
    integrityViolation := some reason })
  audit "NIGHT_SHIFT_CYCLE_CHECKPOINT" "HARD_STOP"
  audit "NIGHT_SHIFT_HARD_STOP" "HARD_STOP"
  return result

structure PromotionContext where
  canonicalRepositoryPath : String
  candidateWorkspacePath : String
  expectedBaselineCommit : String
  createCommitAuthorized : Bool

def createCommitAuthorized (tables : Tables) (task : TaskRow) (plan : EngineeringPlanRow) : Bool :=
  match tables.contracts.get? plan.taskContractId with
  | none => false
  | some contract =>
    decide (contract.taskId = task.id) && decide (contract.version = plan.taskContractVersion) &&
      decide (StrEnum.value AllowedAction.createCommit ∈ contract.allowedActions) &&
      decide (2 ≤ Tasks.authorityRank task.authorityLevel) &&
      decide (2 ≤ Tasks.authorityRank contract.authorityLevel)

/-- What a completed workflow is promoted with, or why it may not be. -/
def promotionContext (surroundings : Surroundings) (tables : Tables) (config : NightShiftConfig)
    (workflowId : String) : String ⊕ PromotionContext :=
  match tables.workflows.get? workflowId with
  | none => .inl "WORKFLOW_NOT_FOUND"
  | some workflow =>
    if workflow.workflowState ≠ .completedPendingIntegration then
      .inl "WORKFLOW_NOT_COMPLETED_PENDING_INTEGRATION"
    else
      match (reference workflow.taskId).bind tables.tasks.get?,
        (reference workflow.planId).bind tables.plans.get?,
        (reference workflow.planFreezeId).bind tables.freezes.get?,
        (reference workflow.repositoryId).bind tables.repositories.get? with
      | some task, some plan, some freeze, some repository =>
        if some task.projectId ≠ workflow.projectId ∨ some plan.projectId ≠ workflow.projectId ∨
            some freeze.projectId ≠ workflow.projectId then
          .inl "PROMOTION_PROJECT_RELATIONSHIP_INVALID"
        else if freeze.taskId ≠ task.id ∨ freeze.planId ≠ plan.id ∨ plan.taskId ≠ task.id then
          .inl "PROMOTION_PLAN_FREEZE_RELATIONSHIP_INVALID"
        else
          match reference freeze.commitSha with
          | none => .inl "FROZEN_BASELINE_COMMIT_REQUIRED"
          | some baseline =>
            if task.complexity ∉ config.allowedTaskComplexities then
              .inl "TASK_COMPLEXITY_OUTSIDE_NIGHT_SHIFT_BOUNDS"
            else if Queue.upper plan.riskLevel ∉ config.allowedRiskLevels then
              .inl "PLAN_RISK_OUTSIDE_NIGHT_SHIFT_BOUNDS"
            else if workflow.worktreePath.toList.isEmpty then .inl "CANDIDATE_WORKTREE_REQUIRED"
            else .inr {
              canonicalRepositoryPath := surroundings.resolve repository.location
              candidateWorkspacePath := surroundings.resolve workflow.worktreePath
              expectedBaselineCommit := baseline
              createCommitAuthorized := createCommitAuthorized tables task plan }
      | _, _, _, _ => .inl "PROMOTION_STATE_INCOMPLETE"

def integrationStopReason (result : CanonicalIntegrationResult) : String :=
  if result.status = .rollbackFailed then "L1_ROLLBACK_UNCERTAIN"
  else if result.rollbackAttempted ∧ result.rollbackSucceeded = false then "L1_ROLLBACK_UNCERTAIN"
  else "L1_INTEGRATION_FAILED"

/-- The commit of an integrated workflow, and what its result means for the shift. -/
def commitWorkflow (services : Services ρ) (config : NightShiftConfig) (number : Nat)
    (workflowId : String) (context : PromotionContext) (integration : CanonicalIntegrationResult) :
    Shift ρ (Option NightShiftResult) := do
  called (.committing number workflowId)
  let commit ← onOutside (services.commit {
    workflowId := workflowId
    canonicalRepositoryPath := context.canonicalRepositoryPath
    expectedBaselineCommit := context.expectedBaselineCommit
    authorityLevel := .l2
    protectedUntrackedHashes := integration.protectedUntrackedHashes })
  called (.committed number workflowId commit.status)
  report (fun result => { result with l2CommitsAttempted := result.l2CommitsAttempted + 1 })
  reportCycle (fun cycle => { cycle with
    commitStatus := some commit.status
    commitReason := commit.reason
    resultingCommitSha := commit.resultingCommit
    manualReconciliationRequired := commit.manualReconciliationRequired })
  match commit.status with
  | .completed => do
      report (fun result => { result with
        l2CommitsSucceeded := result.l2CommitsSucceeded + 1
        resultingCommitShas := extendUnique result.resultingCommitShas (commit.resultingCommit.getD "") })
      audit "NIGHT_SHIFT_CYCLE_CHECKPOINT" "COMPLETED"
      return none
  | .alreadyCommitted => do
      report (fun result => { result with
        l2CommitsAlreadyCommitted := result.l2CommitsAlreadyCommitted + 1
        resultingCommitShas := extendUnique result.resultingCommitShas (commit.resultingCommit.getD "") })
      audit "NIGHT_SHIFT_CYCLE_CHECKPOINT" "ALREADY_COMMITTED"
      return none
  | _ => do
      let manual := commit.manualReconciliationRequired && config.stopOnManualReconciliation
      report (fun result => { result with
        l2CommitsFailed := result.l2CommitsFailed + 1
        manualReconciliationRequired := result.manualReconciliationRequired || manual })
      hardStop services (if manual then "MANUAL_RECONCILIATION_REQUIRED" else "CONTROLLED_COMMIT_FAILED")

/-- A completed workflow is integrated, and then committed where that is authorized. -/
def promote (services : Services ρ) (config : NightShiftConfig) (number : Nat) (workflowId : String) :
    Shift ρ (Option NightShiftResult) := do
  let state ← get
  match promotionContext services.surroundings state.outside.store.toTables config workflowId with
  | .inl reason => hardStop services reason
  | .inr context => do
      let integration ← onOutside (services.integrate {
        workflowId := workflowId
        canonicalRepositoryPath := context.canonicalRepositoryPath
        candidateWorkspacePath := context.candidateWorkspacePath
        expectedBaselineCommit := context.expectedBaselineCommit })
      called (.integrated number workflowId integration.status)
      report (fun result => { result with
        l1IntegrationsAttempted := result.l1IntegrationsAttempted + 1 })
      reportCycle (fun cycle => { cycle with
        integrationStatus := some integration.status
        integrationReason := integration.reason })
      if integration.status ≠ .completed then
        report (fun result => { result with l1IntegrationsFailed := result.l1IntegrationsFailed + 1 })
        hardStop services (integrationStopReason integration)
      else
        report (fun result => { result with
          l1IntegrationsSucceeded := result.l1IntegrationsSucceeded + 1 })
        if context.createCommitAuthorized = false then
          hardStop services "CREATE_COMMIT_NOT_AUTHORIZED"
        else commitWorkflow services config number workflowId context integration

/-- A task that did not complete ends the shift unless its failure is contained. -/
def settleFailure (services : Services ρ) (workflowId : String) (snapshots : List ContainmentSnapshot) :
    Shift ρ (Option NightShiftResult) := do
  let state ← get
  let containment ← onStore (proveContainedFailure services.surroundings state.outside.disk workflowId
    (snapshots.find? (fun snapshot => snapshot.workflowId = workflowId)))
  reportCycle (fun cycle => { cycle with
    containmentStatus := some containment.status
    containmentReason := containment.reason
    candidateQuarantined := containment.candidateQuarantined })
  if containment.status ≠ .contained then
    hardStop services (((containment.reason).filter (fun reason => !reason.toList.isEmpty)).getD
      "TASK_FAILURE_CONTAINMENT_NOT_PROVEN")
  else
    report (fun result => { result with
      containedTaskLocalFailures := result.containedTaskLocalFailures + 1 })
    audit "NIGHT_SHIFT_CYCLE_CHECKPOINT" "TASK_LOCAL_NON_COMPLETION"
    return none

def runtimeConfig (config : NightShiftConfig) : RuntimeLoopConfig where
  workflowIds := config.workflowIds.getD []
  maxTasks := 1
  dispatcherCount := 1
  stopOnBlock := false

/-- What the report of the runtime means for the shift. -/
def settleReport (services : Services ρ) (config : NightShiftConfig) (number : Nat)
    (snapshots : List ContainmentSnapshot) (runtime : RuntimeReport) :
    Shift ρ (Option NightShiftResult) := do
  if runtime.status = .idle ∧ runtime.selectedTasks = 0 then
    audit "NIGHT_SHIFT_CYCLE_CHECKPOINT" "IDLE"
    finishClean services "IDLE"
  else if runtime.escalations ≠ 0 ∨ runtime.status = .escalated then
    hardStop services "RUNTIME_ESCALATION"
  else
    match runtime.taskRecords.getLast? with
    | none => hardStop services ((reference runtime.stoppedReason).getD "RUNTIME_RESULT_WITHOUT_TASK_RECORD")
    | some record => do
        reportCycle (fun cycle => { cycle with
          workflowId := some record.workflowId
          itemId := some record.itemId
          projectId := record.projectId
          taskOutcome := some record.outcome })
        report (fun result => { result with
          workflowsProcessed := extendUnique result.workflowsProcessed record.workflowId })
        if record.outcome ≠ .completed then settleFailure services record.workflowId snapshots
        else promote services config number record.workflowId

/-- The workspaces are looked at before the runtime is run, and its report is settled after. -/
def attempt (services : Services ρ) (config : NightShiftConfig) : Shift ρ (Option NightShiftResult) := do
  let state ← get
  let number := state.result.cyclesAttempted
  let snapshots ← Action.ofExcept (captureContainmentSnapshots services.surroundings
    state.outside.store.toTables state.outside.disk config.workflowIds)
  let runtime ← onOutside (services.runtime (runtimeConfig config))
  called (.ran number runtime)
  reportCycle (fun cycle => { cycle with
    runtimeStatus := some runtime.status
    runtimeStoppedReason := runtime.stoppedReason })
  report (fun result => { result with
    tasksSelected := result.tasksSelected + runtime.selectedTasks
    tasksCompleted := result.tasksCompleted + runtime.completedTasks
    tasksBlocked := result.tasksBlocked + runtime.blockedTasks
    tasksEscalated := result.tasksEscalated + runtime.escalations })
  settleReport services config number snapshots runtime

/-- A cycle, once none of the limits is reached. -/
def work (services : Services ρ) (config : NightShiftConfig) : Shift ρ (Option NightShiftResult) := do
  report (fun result => { result with
    cycles := result.cycles ++ [{ cycleNumber := result.cyclesAttempted + 1 }]
    cyclesAttempted := result.cyclesAttempted + 1 })
  audit "NIGHT_SHIFT_CYCLE_STARTED" "STARTED"
  look
  attempt services config

/-- The limit that is reached, if one is. -/
def limitReached (config : NightShiftConfig) (result : NightShiftResult) (elapsed : Rat) : Option String :=
  if config.maxTasks ≤ result.tasksSelected then some "MAX_TASKS_REACHED"
  else if config.maxCommits ≤ result.l2CommitsSucceeded then some "MAX_COMMITS_REACHED"
  else if config.maxWallClockSeconds ≤ elapsed then some "MAX_WALL_CLOCK_REACHED"
  else none

/-- One turn of the loop; it goes on where there is no result. -/
def cycle (services : Services ρ) (config : NightShiftConfig) (started : Rat) :
    Shift ρ (Option NightShiftResult) := do
  let now ← readClock services
  let state ← get
  match limitReached config state.result (max 0 (now - started)) with
  | some reason => finishClean services reason
  | none => work services config

/-- The loop for a number of turns; it is still going on where there is no result. -/
def loop (services : Services ρ) (config : NightShiftConfig) (started : Rat) :
    Nat → Shift ρ (Option NightShiftResult)
  | 0 => return none
  | turns + 1 => do
      match ← cycle services config started with
      | some result => return some result
      | none => loop services config started turns

/-- A run of the supervisor for a number of turns, from what lies outside. -/
def run (services : Services ρ) (config : NightShiftConfig) (turns : Nat) :
    Shift ρ (Option NightShiftResult) := do
  let started ← readClock services
  modify (fun state => { state with result := {}, calls := [], looks := [] })
  audit "NIGHT_SHIFT_STARTED" "STARTED"
  loop services config started turns

end
end Lucius.NightShift
