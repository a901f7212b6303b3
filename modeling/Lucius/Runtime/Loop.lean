import Lucius.Runtime.PlanningAdapter
import Lucius.Runtime.Release
import Lucius.Runtime.Router

/-! The execution runtime loop: it prepares the plans of its workflows, then dispatches,
releases and executes one item after the other.

The state keeps what was handed to the execution router, with the rows at that moment,
which the program does not. Each worktree has its own files, and its own router looks at
them. The counts and times that only a report reads are left out. -/

namespace Lucius.Runtime

open Queue Router Ollama Planning Worktree

inductive RuntimeLoopStatus where
  | completed | idle | waiting | blocked | escalated | failed
  deriving DecidableEq, Repr

instance : StrEnum RuntimeLoopStatus where
  value
    | .completed => "COMPLETED"
    | .idle => "IDLE"
    | .waiting => "WAITING"
    | .blocked => "BLOCKED"
    | .escalated => "ESCALATED"
    | .failed => "FAILED"
  members := [.completed, .idle, .waiting, .blocked, .escalated, .failed]
  complete := by intro member; cases member <;> decide
  distinct := by intro left right; cases left <;> cases right <;> decide

structure RuntimeLoopConfig where
  workflowIds : List String := []
  maxTasks : Nat := 1
  dispatcherCount : Int := 1
  stopOnBlock : Bool := false

structure RuntimeTaskExecutionRecord where
  workflowId : String
  itemId : String
  projectId : Option String
  providerId : String
  outcome : RuntimeExecutionOutcome
  completedSubsteps : List String
  failureClass : Option String
  blockerCategory : Option String
  deriving DecidableEq, Repr

structure ExecutionRuntimeLoopResult where
  status : RuntimeLoopStatus := .idle
  selectedTasks : Nat := 0
  completedTasks : Nat := 0
  blockedTasks : Nat := 0
  resumedTasks : Nat := 0
  planReferences : List RuntimePlanReference := []
  taskRecords : List RuntimeTaskExecutionRecord := []
  stoppedReason : Option String := none
  deriving DecidableEq, Repr

/-- An item as it was handed to the execution router. -/
structure Handed where
  context : RuntimeExecutionContext
  tables : Tables

structure LoopState where
  store : Store
  workspaces : String → Files
  result : ExecutionRuntimeLoopResult := {}
  handed : List Handed := []

abbrev LoopAction (α : Type) := Action LoopState PyExc α

/-- `fromisoformat` says of a text whether the time it states has an offset, and nothing of a
text that states none. -/
structure ExecutionRuntimeLoopService where
  planning : ScriptedRuntimePlanningAdapter
  router : String → ModelExecutionRouter
  fromisoformat : String → Option Bool

def onStore {α : Type} (operation : Op α) : LoopAction α :=
  Action.zoom LoopState.store (fun state store => { state with store := store }) operation

def report (change : ExecutionRuntimeLoopResult → ExecutionRuntimeLoopResult) : LoopAction Unit :=
  modify (fun state => { state with result := change state.result })

/-- The workflows a run is about, in the order they are prepared. -/
def workflowRows (tables : Tables) (workflowIds : List String) : Except PyExc (List String) :=
  if workflowIds.isEmpty then
    .ok ((sortedBy PersistentWorkflowRow.id
      (tables.workflows.rows.filter (fun row => !row.taskBacklog.isEmpty))).map
        PersistentWorkflowRow.id)
  else
    let missing := workflowIds.filter (fun workflowId => (tables.workflows.get? workflowId).isNone)
    if missing.isEmpty then .ok workflowIds
    else .error (.executionRuntimeLoopError ("Unknown persistent workflows: " ++
      (Json.ofTexts missing).pyRepr))

/-- A completed workflow is not planned; its references are returned if it has them. -/
def prepareWorkflow (planning : ScriptedRuntimePlanningAdapter) (workflowId : String) :
    Op (List RuntimePlanReference) := do
  reconcileCompletedWorkflowParentTask workflowId
  let workflow ← Workflows.workflowRow workflowId
  if workflow.workflowState = .completedPendingIntegration then
    return (Planning.preparedReference workflow).toList
  else
    let reference ← planning.prepareWorkflowPlan workflowId
    return [reference]

def prepareEach (planning : ScriptedRuntimePlanningAdapter) :
    List String → Op (List RuntimePlanReference)
  | [] => return []
  | workflowId :: rest => do
      let references ← prepareWorkflow planning workflowId
      let later ← prepareEach planning rest
      return references ++ later

def prepareWorkflowPlans (planning : ScriptedRuntimePlanningAdapter) (workflowIds : List String) :
    Op (List RuntimePlanReference) := do
  let store ← get
  let rows ← Action.ofExcept (workflowRows store.toTables workflowIds)
  prepareEach planning rows

def criticalReasons : List String :=
  ["PROJECT_MISSING", "TASK_MISSING", "TASK_PROJECT_MISMATCH", "TASK_NOT_READY",
    "WORKFLOW_PROJECT_MISSING", "REPOSITORY_MISSING", "REPOSITORY_PROJECT_MISMATCH",
    "REPOSITORY_UNATTACHED", "FROZEN_PLAN_MISSING", "PLAN_FREEZE_PROJECT_OR_TASK_MISMATCH",
    "QUEUE_STATE_MALFORMED_OR_MISSING"]

/-- The text before the first colon, and the text after it. -/
def reasonKey (reason : String) : String := String.ofList (reason.toList.takeWhile (· ≠ ':'))

def reasonDetail (reason : String) : String :=
  String.ofList ((reason.toList.dropWhile (· ≠ ':')).drop 1)

def isFailClosed (evaluation : DispatchCandidateEvaluation) : Bool :=
  decide (evaluation.candidate.state ∉ [QueueWorkItemState.completed, .failed]) &&
    evaluation.reasons.any (fun reason => decide (reasonKey reason ∈ criticalReasons))

def firstDispatchFailClosedEvaluation (selection : DispatchSelection) :
    Option DispatchCandidateEvaluation :=
  selection.excludedCandidates.find? isFailClosed

def dispatchReasonText (evaluation : DispatchCandidateEvaluation) (reason : String) : String :=
  if reasonKey reason = "TASK_NOT_READY" ∧ ':' ∈ reason.toList then
    "Task " ++ evaluation.candidate.taskId.getD "None" ++ " is not READY for execution: " ++
      reasonDetail reason
  else if reason = "FROZEN_PLAN_MISSING" then
    "Selected workflow has no frozen EngineeringPlan/PlanFreeze references."
  else if reason = "TASK_MISSING" then
    "Persistent workflow has no canonical task bound for pre-mutation release."
  else if reason = "REPOSITORY_MISSING" ∨ reason = "REPOSITORY_UNATTACHED" then
    "Selected workflow repository is not attached to the task project."
  else reason

/-- The first reason of the evaluation speaks for it, critical or not. -/
def dispatchFailClosed (selection : DispatchSelection) :
    Option (DispatchCandidateEvaluation × String) :=
  (firstDispatchFailClosedEvaluation selection).bind (fun evaluation =>
    evaluation.reasons.head?.map (fun reason => (evaluation, dispatchReasonText evaluation reason)))

def releaseBlock (reason : String) : BlockRequest where
  blockingState := .waitingHuman
  blockingReason := reason
  blockerCategory := StrEnum.value BlockerCode.authorityInsufficient
  resumeCondition :=
    "Run canonical readiness/release validation successfully before retrying dispatch."

def blockDispatchSelectionFailure (evaluation : DispatchCandidateEvaluation) (reason : String) :
    Op Unit := do
  let candidate := evaluation.candidate
  let _ ← Queue.blockDispatchSelectedItem candidate.workflowId candidate.itemId candidate.state
    candidate.itemVersion (releaseBlock reason)
  Op.record {
    eventType := "NATIVE_RUNTIME_PRE_MUTATION_RELEASE_BLOCKED"
    projectId := some candidate.projectId
    repositoryId := candidate.repositoryId
    taskId := candidate.taskId
    action := "validate_dispatch_selection_release"
    result := "BLOCKED" }

def contextAudit (context : RuntimeExecutionContext) (eventType action result : String) : AuditDraft where
  eventType := eventType
  projectId := context.projectId
  repositoryId := context.repositoryId
  taskId := context.workflowTaskId
  action := action
  result := result

def blockPreDispatchFailure (context : RuntimeExecutionContext) (reason : String) : Op Unit := do
  Op.record (contextAudit context "NATIVE_RUNTIME_PRE_MUTATION_RELEASE_BLOCKED"
    "validate_pre_mutation_release" "BLOCKED")
  let _ ← Queue.blockRunningItem context.workflowId context.itemId (releaseBlock reason)

/-- `left or right` of optional texts. -/
def orText (left right : Option String) : Option String := (nonEmpty left).or right

def nonCompletionBlock (outcome : ExecutionAdapterResult) : BlockRequest where
  blockingState :=
    if outcome.outcome = .escalated ∨ outcome.outcome = .failed then .waitingHuman
    else .waitingExternal
  blockingReason :=
    (orText outcome.blockingReason (nonEmpty outcome.error)).getD (StrEnum.value outcome.outcome)
  blockerCategory := (nonEmpty outcome.blockerCategory).getD (StrEnum.value outcome.outcome)
  resumeCondition := (nonEmpty outcome.resumeCondition).getD
    "Runtime adapter must provide safe continuation evidence."
  workCompleted := outcome.completedSubsteps
  relevantArtifacts := outcome.evidence.map (fun evidence => (Json.obj evidence).pyStr)

def taskLocalFailureClasses : List String :=
  ["CONTEXT_CAPABILITY_MISMATCH", "DETERMINISTIC_MUTATION_VERIFICATION_FAILED",
    "DETERMINISTIC_READ_ONLY_VERIFICATION_FAILED", "EVIDENCE_REFERENCE_VALIDATION_FAILED",
    "MALFORMED_OLLAMA_JSON", "MISSING_READ_ONLY_CONTEXT", "MISSING_VERIFICATION_HANDOFF",
    "MUTATION_SCOPE_VIOLATION", "NO_ELIGIBLE_PROVIDER", "OLLAMA_OUTPUT_TRUNCATED",
    "READ_ONLY_MUTATION_ATTEMPT", "SCHEMA_CONSTRAINT_VALIDATION_FAILED",
    "UNSUPPORTED_QUANTITATIVE_CLAIM"]

def isTaskLocal (outcome : ExecutionAdapterResult) : Bool :=
  outcome.failureClass.any (fun failureClass => decide (failureClass ∈ taskLocalFailureClasses))

def statusForNonCompletion (outcome : ExecutionAdapterResult) : RuntimeLoopStatus :=
  if outcome.outcome = .escalated then .escalated
  else if outcome.outcome = .failed then if isTaskLocal outcome then .blocked else .failed
  else .blocked

def shouldStopAfterNonCompletion (outcome : ExecutionAdapterResult) (config : RuntimeLoopConfig) :
    Bool :=
  if config.stopOnBlock || decide (outcome.outcome = .escalated) then true
  else if outcome.outcome ≠ .failed then false
  else !isTaskLocal outcome

def routerId : String := "model-execution-router"

def routerException : ExecutionAdapterResult where
  outcome := .failed
  providerId := some routerId
  blockerCategory := some "EXECUTION_ROUTER_EXCEPTION"
  blockingReason := some "Execution router raised before returning a canonical result."
  resumeCondition := some "Repair the router/provider path and resume from the blocked queue item."

/-- The router sees the files of the worktree of the item. -/
def routed (router : ModelExecutionRouter) (context : RuntimeExecutionContext) (state : LoopState) :
    Except PyExc ExecutionAdapterResult × Router.RouterState :=
  Action.exec (Router.execute router context)
    { store := state.store, files := state.workspaces context.worktreePath }

/-- The state after the router, with the item among those handed to it. -/
def handedOver (state : LoopState) (context : RuntimeExecutionContext)
    (after : Router.RouterState) : LoopState :=
  { state with
    store := after.store
    workspaces := fun path =>
      if path = context.worktreePath then after.files else state.workspaces path
    handed := state.handed ++ [{ context := context, tables := state.store.toTables }] }

/-- Every exception of the router becomes a failed result. -/
def executeRouterFailClosed (service : ExecutionRuntimeLoopService)
    (context : RuntimeExecutionContext) : LoopAction ExecutionAdapterResult := do
  let state ← get
  let ended := routed (service.router context.worktreePath) context state
  set (handedOver state context ended.2)
  return match ended.1 with
    | .ok result => result
    | .error _ => routerException

def taskRecord (context : RuntimeExecutionContext) (outcome : ExecutionAdapterResult) :
    RuntimeTaskExecutionRecord where
  workflowId := context.workflowId
  itemId := context.itemId
  projectId := context.projectId
  providerId := (nonEmpty outcome.providerId).getD routerId
  outcome := outcome.outcome
  completedSubsteps := outcome.completedSubsteps
  failureClass := outcome.failureClass
  blockerCategory := outcome.blockerCategory

def recordTaskExecution (context : RuntimeExecutionContext) (label : String) : Op Unit :=
  Op.record (contextAudit context "NATIVE_RUNTIME_TASK_EXECUTION_RECORDED"
    "execute_runtime_queue_item" label)

/-- Whether the loop goes on after an item. -/
inductive Continuation where
  | goOn | stop
  deriving DecidableEq

def settleCompletion (context : RuntimeExecutionContext) (outcome : ExecutionAdapterResult) :
    LoopAction Continuation := do
  let _ ← onStore (Queue.completeItem context.workflowId context.itemId outcome.completedSubsteps)
  onStore (reconcileCompletedWorkflowParentTask context.workflowId)
  report (fun result => { result with completedTasks := result.completedTasks + 1 })
  onStore (recordTaskExecution context "COMPLETED")
  report (fun result => { result with status := .completed })
  return .goOn

def settleNonCompletion (config : RuntimeLoopConfig) (context : RuntimeExecutionContext)
    (outcome : ExecutionAdapterResult) : LoopAction Continuation := do
  let _ ← onStore (Queue.blockRunningItem context.workflowId context.itemId
    (nonCompletionBlock outcome))
  let status := statusForNonCompletion outcome
  report (fun result => { result with
    blockedTasks := result.blockedTasks + 1, status := status })
  onStore (recordTaskExecution context (StrEnum.value status))
  if shouldStopAfterNonCompletion outcome config then
    let reason := (orText outcome.blockingReason (nonEmpty outcome.error)).getD
      (StrEnum.value outcome.outcome)
    report (fun result => { result with stoppedReason := some reason })
    return .stop
  else return .goOn

/-- A released item, from the router to the queue. -/
def executeReleased (service : ExecutionRuntimeLoopService) (config : RuntimeLoopConfig)
    (context : RuntimeExecutionContext) : LoopAction Continuation := do
  let outcome ← executeRouterFailClosed service context
  report (fun result => { result with
    taskRecords := result.taskRecords ++ [taskRecord context outcome] })
  if outcome.outcome = .completed then settleCompletion context outcome
  else settleNonCompletion config context outcome

/-- The run ends where nothing is selected, as a failure where a candidate is excluded for a
critical reason. -/
def settleNoSelection (selection : DispatchSelection) : LoopAction Continuation := do
  match dispatchFailClosed selection with
  | some (evaluation, reason) => do
      onStore (blockDispatchSelectionFailure evaluation reason)
      report (fun result => { result with
        blockedTasks := result.blockedTasks + 1, status := .failed, stoppedReason := some reason })
      return .stop
  | none => do
      report (fun result => { result with
        status := if result.selectedTasks = 0 then .idle else .completed
        stoppedReason := some selection.reason })
      return .stop

def withUtcOffset (text : String) : String :=
  String.ofList (text.toList.flatMap (fun letter => if letter = 'Z' then "+00:00".toList else [letter]))

def parseDatetime (fromisoformat : String → Option Bool) : Json → Option Bool
  | .str text =>
    if (Json.strip text.toList).isEmpty then none else fromisoformat (withUtcOffset text)
  | _ => none

/-- Two times are compared only where both have an offset or neither has. -/
def blockedInterval (fromisoformat : String → Option Bool) (item : Item) : Except PyExc Unit :=
  match parseDatetime fromisoformat (item.get "blocked_at"),
    parseDatetime fromisoformat (item.get "resolved_at") with
  | some blocked, some resolved => if blocked = resolved then .ok () else .error .typeError
  | _, _ => .ok ()

def isResumed (selection : DispatchSelection) : Bool :=
  decide (selection.startedPreviousState = some (StrEnum.value QueueWorkItemState.readyToResume))

def executeSelected (service : ExecutionRuntimeLoopService) (config : RuntimeLoopConfig)
    (selection : DispatchSelection) (candidate : DispatchCandidate) : LoopAction Continuation := do
  let state ← get
  let context ← Action.ofExcept
    (executionContext state.store.toTables candidate.workflowId candidate.itemId)
  report (fun result => { result with
    selectedTasks := result.selectedTasks + 1
    resumedTasks := result.resumedTasks + (if isResumed selection then 1 else 0) })
  Action.ofExcept (if isResumed selection then
    blockedInterval service.fromisoformat context.queueItem else .ok ())
  let error ← Action.ofExcept (preDispatchReleaseError state.store context)
  match error with
  | some reason => do
      onStore (blockPreDispatchFailure context reason)
      report (fun result => { result with
        blockedTasks := result.blockedTasks + 1, status := .failed, stoppedReason := some reason })
      return .stop
  | none => executeReleased service config context

def cycle (service : ExecutionRuntimeLoopService) (config : RuntimeLoopConfig) :
    LoopAction Continuation := do
  let selection ← onStore (startNext config.workflowIds)
  match selection.selected with
  | none => settleNoSelection selection
  | some candidate => executeSelected service config selection candidate

/-- Each cycle that goes on has selected a task. -/
def cycles (service : ExecutionRuntimeLoopService) (config : RuntimeLoopConfig) :
    Nat → LoopAction Unit
  | 0 => return ()
  | remaining + 1 => do
      match ← cycle service config with
      | .stop => return ()
      | .goOn => cycles service config remaining

def isQueueStateError : PyExc → Bool
  | .queueStateError _ => true
  | _ => false

/-- An error of the queue ends the loop; what it had reported stands. -/
def guarded (service : ExecutionRuntimeLoopService) (config : RuntimeLoopConfig) : LoopAction Unit := do
  match ← Action.recovering isQueueStateError (cycles service config config.maxTasks) with
  | .ok () => return ()
  | .error error => do
      report (fun result => { result with
        status := .failed
        stoppedReason := some (match error with
          | .queueStateError message => message
          | _ => "") })
      onStore (Op.record {
        eventType := "NATIVE_RUNTIME_LOOP_FAILED_CLOSED"
        action := "run_native_execution_runtime_loop"
        result := "QUEUE_STATE_ERROR" })

/-- The end of a run is recorded, also where an exception goes through. -/
def finished (loop : LoopAction Unit) : LoopAction ExecutionRuntimeLoopResult := fun state =>
  let ended := Action.exec loop state
  let store := ended.2.store.record {
    eventType := "NATIVE_RUNTIME_LOOP_COMPLETED"
    action := "run_native_execution_runtime_loop"
    result := StrEnum.value ended.2.result.status }
  (ended.1.map (fun _ => ended.2.result), { ended.2 with store := store })

def run (service : ExecutionRuntimeLoopService) (config : RuntimeLoopConfig) :
    LoopAction ExecutionRuntimeLoopResult := do
  if config.dispatcherCount ≠ 1 then
    throw (.executionRuntimeLoopError "native runtime loop supports exactly one logical dispatcher")
  else
    modify (fun state => { state with result := {} })
    let references ← onStore (prepareWorkflowPlans service.planning config.workflowIds)
    report (fun result => { result with planReferences := references })
    finished (guarded service config)

end Lucius.Runtime
