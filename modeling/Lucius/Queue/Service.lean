import Lucius.Queue.Items

/-! The non-blocking queue over the backlogs of the persisted workflows. -/

namespace Lucius.Queue

structure QueueSelection where
  selectedItemId : Option String := none
  reason : String
  eligibleItemIds : List String := []
  blockedItemIds : List String := []
  runningItemIds : List String := []
  deriving DecidableEq

def workflowRow (workflowId : String) : Op PersistentWorkflowRow := do
  let store ← get
  match store.workflows.get? workflowId with
  | some row => return row
  | none => throw (.queueStateError ("Unknown persistent workflow: " ++ workflowId))

def validateScopedRunningIdentities (items : List GlobalQueueItem) : Except PyExc Unit :=
  let running := items.filter (fun item => item.state = some .running)
  if (running.map (·.logicalTaskId)).Nodup then .ok ()
  else .error (.queueStateError "Duplicate RUNNING logical task detected.")

def isBlockedOrWaiting (items : List GlobalQueueItem) (item : GlobalQueueItem) : Bool :=
  isBlockedState item.state || !globalDependenciesComplete item items

def selectNext (workflow : PersistentWorkflowRow) : Except PyExc QueueSelection := do
  let parsed ← executionItems workflow
  let stateful := parsed.filter (·.queueStatePresent)
  let executable := parsed.filter (·.schedulable)
  validateScopedRunningIdentities stateful
  match stateful.filter (fun item => item.state = some .running) with
  | first :: others =>
    return { reason := "RUNNING_ITEM_ACTIVE_NO_PREEMPTION"
             runningItemIds := (first :: others).map (·.itemId) }
  | [] =>
    let eligible := executable.filter (globalIsEligible · executable)
    let blocked := executable.filter (isBlockedOrWaiting executable)
    match sortedBy scopedSelectionKey eligible with
    | [] => return { reason := "NO_ELIGIBLE_WORK", blockedItemIds := blocked.map (·.itemId) }
    | selected :: others =>
      return { selectedItemId := some selected.itemId
               reason := scopedSelectionReason selected
               eligibleItemIds := (selected :: others).map (·.itemId)
               blockedItemIds := blocked.map (·.itemId) }

/-- What every start writes: the item runs, under a new version and generation. -/
def startItem (workflow : PersistentWorkflowRow) (item : Item) (wanted : String) :
    Op PersistentWorkflowRow := do
  let running ← setState item .running
  let startedAt ← Op.nowIso
  let generation ← Action.ofExcept (running.getOr "run_generation" (.int 0)).pyInt
  let started :=
    (running.set "started_at" (.str startedAt)).set "run_generation" (.int (generation + 1))
  let updatedAt ← Op.utcNow
  let row := { workflow with
    activeTaskId := some (itemId started)
    taskBacklog := replaceItem workflow.taskBacklog wanted started
    updatedAt := updatedAt }
  Op.putWorkflow row
  return row

def auditWorkflow (workflow : PersistentWorkflowRow) (eventType action result : String) : Op Unit :=
  Op.record {
    eventType := eventType
    projectId := workflow.projectId
    repositoryId := workflow.repositoryId
    taskId := workflow.taskId
    action := action
    result := result }

def requireExecutable (workflow : PersistentWorkflowRow) : Op Unit :=
  match workflowExecutionExclusionReason workflow with
  | some reason => throw (.queueStateError ("Workflow is not executable: " ++ reason))
  | none => pure ()

def startNext (workflowId : String) : Op QueueSelection := do
  let workflow ← workflowRow workflowId
  requireExecutable workflow
  let selection ← Action.ofExcept (selectNext workflow)
  let parsed ← Action.ofExcept (executionItems workflow)
  match selection.selectedItemId with
  | none =>
    match parsed.find? (fun item => !item.schedulable) with
    | some excluded =>
      throw (.queueStateError ("Queue work item is not executable: " ++
        excluded.exclusionReason.getD "None"))
    | none => return selection
  | some selectedId =>
    let item ← Action.ofExcept (findItem workflow.taskBacklog selectedId)
    match parsed.find? (fun candidate => candidate.itemId = selectedId) with
    | none => throw (.queueStateError "Selected queue work item no longer exists.")
    | some selected =>
      if !selected.schedulable then
        throw (.queueStateError ("Selected queue work item is not schedulable: " ++
          selected.exclusionReason.getD "None"))
      else if !isEligibleState selected.state then
        throw (.queueStateError ("Selected queue work item is not executable: " ++
          selected.stateLabel))
      else
        let row ← startItem workflow item selectedId
        auditWorkflow row "QUEUE_WORK_ITEM_STARTED" "start_queue_work_item" (itemId item)
        return selection

structure QueueBlockCheckpoint where
  id : String
  workflowId : String
  itemId : String
  priorState : QueueWorkItemState
  blockingState : QueueWorkItemState
  blockingReason : String
  blockerCategory : String
  workCompleted : List String
  implementationHead : Option String
  pendingDecisionOrDependency : Option String
  resumeCondition : String
  knownRisks : List String
  relevantArtifacts : List String
  repairCounters : Dict
  approvalRequirements : List String
  nextSafeAction : String
  staleStateValidationRequirements : List String
  createdAt : Timestamp

def QueueBlockCheckpoint.dump (checkpoint : QueueBlockCheckpoint) : Dict :=
  [("id", .str checkpoint.id),
    ("workflow_id", .str checkpoint.workflowId),
    ("item_id", .str checkpoint.itemId),
    ("prior_state", .str (StrEnum.value checkpoint.priorState)),
    ("blocking_state", .str (StrEnum.value checkpoint.blockingState)),
    ("blocking_reason", .str checkpoint.blockingReason),
    ("blocker_category", .str checkpoint.blockerCategory),
    ("work_completed", .ofTexts checkpoint.workCompleted),
    ("implementation_head", .ofOptionalText checkpoint.implementationHead),
    ("pending_decision_or_dependency", .ofOptionalText checkpoint.pendingDecisionOrDependency),
    ("resume_condition", .str checkpoint.resumeCondition),
    ("known_risks", .ofTexts checkpoint.knownRisks),
    ("relevant_artifacts", .ofTexts checkpoint.relevantArtifacts),
    ("repair_counters", .obj checkpoint.repairCounters),
    ("approval_requirements", .ofTexts checkpoint.approvalRequirements),
    ("next_safe_action", .str checkpoint.nextSafeAction),
    ("stale_state_validation_requirements",
      .ofTexts checkpoint.staleStateValidationRequirements),
    ("created_at", .str checkpoint.createdAt.jsonText)]

/-- The keyword arguments the two blocking operations share; an empty list or
object falls back as an absent one does. -/
structure BlockRequest where
  blockingState : QueueWorkItemState
  blockingReason : String
  blockerCategory : String
  resumeCondition : String
  workCompleted : List String := []
  implementationHead : Option String := none
  pendingDecisionOrDependency : Option String := none
  knownRisks : List String := []
  relevantArtifacts : List String := []
  repairCounters : Dict := []
  approvalRequirements : List String := []
  nextSafeAction : String := "Select another eligible work item."
  staleStateValidationRequirements : List String := []

def defaultStaleStateRequirements : List String :=
  ["current_block_checkpoint_id matches", "item_state matches blocking_state",
    "item_version matches checkpoint item_version"]

def completedSubsteps (item : Item) : Except PyExc (List Json) :=
  (item.getOr "completed_substeps" (.arr [])).pyIter

/-- The work the request names or else what the item has completed. -/
def workCompletedOf (item : Item) (request : BlockRequest) : Except PyExc (List String) :=
  if request.workCompleted.isEmpty then do Json.textList (← completedSubsteps item)
  else .ok request.workCompleted

def checkpointOf (workflow : PersistentWorkflowRow) (wanted : String) (item : Item)
    (priorState : QueueWorkItemState) (request : BlockRequest) : Op QueueBlockCheckpoint := do
  let id ← Op.nextId .queueCheckpoint
  let workCompleted ← Action.ofExcept (workCompletedOf item request)
  let createdAt ← Op.utcNow
  return {
    id := id
    workflowId := workflow.id
    itemId := wanted
    priorState := priorState
    blockingState := request.blockingState
    blockingReason := request.blockingReason
    blockerCategory := request.blockerCategory
    workCompleted := workCompleted
    implementationHead := request.implementationHead
    pendingDecisionOrDependency := request.pendingDecisionOrDependency
    resumeCondition := request.resumeCondition
    knownRisks := request.knownRisks
    relevantArtifacts := request.relevantArtifacts
    repairCounters :=
      if request.repairCounters.isEmpty then workflow.repairCounters else request.repairCounters
    approvalRequirements := request.approvalRequirements
    nextSafeAction := request.nextSafeAction
    staleStateValidationRequirements :=
      if request.staleStateValidationRequirements.isEmpty then defaultStaleStateRequirements
      else request.staleStateValidationRequirements
    createdAt := createdAt }

/-- The fields a checkpoint leaves on its item before the state changes. -/
def withCheckpoint (item : Item) (checkpoint : QueueBlockCheckpoint) (blockedAt : String) :
    Except PyExc Item := do
  let checkpoints ← (item.getOr "block_checkpoints" (.arr [])).appendTarget
  let version ← itemVersion item
  let entry := Json.obj (checkpoint.dump.set "item_version" (.int version))
  let substeps ← completedSubsteps item
  return (((((((item.set "block_checkpoints" (.arr (checkpoints ++ [entry]))).set
    "current_block_checkpoint_id" (.str checkpoint.id)).set
    "blocked_at" (.str blockedAt)).set
    "blocking_reason" (.str checkpoint.blockingReason)).set
    "blocker_category" (.str checkpoint.blockerCategory)).set
    "resume_condition" (.str checkpoint.resumeCondition)).set
    "work_completed" (.ofTexts checkpoint.workCompleted)).set
    "completed_substeps" (.arr (mergeSubsteps substeps checkpoint.workCompleted))

def blockItem (workflow : PersistentWorkflowRow) (wanted : String) (item : Item)
    (priorState : QueueWorkItemState) (request : BlockRequest) (action : String) :
    Op QueueBlockCheckpoint := do
  let checkpoint ← checkpointOf workflow wanted item priorState request
  let blockedAt ← Op.nowIso
  let marked ← Action.ofExcept (withCheckpoint item checkpoint blockedAt)
  let blocked ← setState marked request.blockingState
  let updatedAt ← Op.utcNow
  let row := { workflow with
    activeTaskId := none
    taskBacklog := replaceItem workflow.taskBacklog wanted blocked
    checkpointHistory := workflow.checkpointHistory ++ [.str checkpoint.id]
    updatedAt := updatedAt }
  Op.putWorkflow row
  auditWorkflow row "QUEUE_WORK_ITEM_BLOCKED" action (StrEnum.value request.blockingState)
  return checkpoint

def requireBlockingState (target : QueueWorkItemState) : Op Unit :=
  if target ∈ blockedStates then pure ()
  else throw (.queueStateError ("Blocking state required, got " ++ StrEnum.value target))

def blockRunningItem (workflowId wanted : String) (request : BlockRequest) :
    Op QueueBlockCheckpoint := do
  requireBlockingState request.blockingState
  let workflow ← workflowRow workflowId
  let item ← Action.ofExcept (findItem workflow.taskBacklog wanted)
  let priorState ← Action.ofExcept (state item)
  if priorState ≠ .running then
    throw (.queueStateError ("Only RUNNING work can be blocked, got " ++ StrEnum.value priorState))
  else
    blockItem workflow wanted item priorState request "block_queue_work_item"

def blockDispatchSelectedItem (workflowId wanted : String) (expectedState : QueueWorkItemState)
    (expectedItemVersion : Int) (request : BlockRequest) : Op QueueBlockCheckpoint := do
  requireBlockingState request.blockingState
  if expectedState ∉ eligibleStates then
    throw (.queueStateError ("Dispatch-selected item must be READY or READY_TO_RESUME, got " ++
      StrEnum.value expectedState))
  else
    let workflow ← workflowRow workflowId
    let item ← Action.ofExcept (findItem workflow.taskBacklog wanted)
    let priorState ← Action.ofExcept (state item)
    if priorState ≠ expectedState then
      throw (.queueStateError "Stale dispatch selection cannot block newer queue state.")
    else
      let version ← Action.ofExcept (itemVersion item)
      if version ≠ expectedItemVersion then
        throw (.queueStateError "Stale dispatch selection version cannot block newer queue state.")
      else
        blockItem workflow wanted item priorState request
          "block_dispatch_selected_queue_work_item"

/-- The three tests a client's view of a blocked item has to pass. -/
def requireCurrentBlock (item : Item) (checkpointId : String) (expectedItemVersion : Int)
    (verb : String) : Except PyExc Unit := do
  if !(item.get "current_block_checkpoint_id").isStr checkpointId then
    throw (.queueStateError ("Stale checkpoint cannot " ++ verb ++ " newer queue state."))
  else
    let version ← itemVersion item
    if version ≠ expectedItemVersion then
      throw (.queueStateError ("Stale item version cannot " ++ verb ++ " queue state."))
    else
      let current ← state item
      if current ∈ blockedStates then pure ()
      else throw (.queueStateError ("Blocked item required, got " ++ StrEnum.value current))

def repairTimeout (item : Item) : Option Json → Except PyExc Item
  | none => .ok item
  | some (.int seconds) =>
    if 0 < seconds then .ok (item.set "timeout_seconds" (.int seconds))
    else .error (.queueStateError "timeout_seconds repair must be a positive integer.")
  | some _ => .error (.queueStateError "timeout_seconds repair must be a positive integer.")

def allowedContextLimitKeys : List String := ["deterministic_verification", "read_only_context_paths"]

def isContextPath : Json → Bool
  | .str path => !(Json.strip path.toList).isEmpty
  | _ => false

def validContextPaths : Json → Bool
  | .arr paths => !paths.isEmpty && paths.all isContextPath
  | _ => false

def validateContextLimitsPatch (patch : Dict) : Except PyExc Unit :=
  let forbidden := sortedBy id ((patch.map Prod.fst).filter (· ∉ allowedContextLimitKeys)).dedup
  if !forbidden.isEmpty then
    .error (.queueStateError ("Unsafe context_limits repair keys are not allowed: " ++
      ", ".intercalate forbidden))
  else if patch.has "deterministic_verification" && !(patch.get "deterministic_verification").isTrue then
    .error (.queueStateError "deterministic_verification repair may only set the value to true.")
  else if patch.has "read_only_context_paths" &&
      !validContextPaths (patch.get "read_only_context_paths") then
    .error (.queueStateError
      "read_only_context_paths repair requires a non-empty list of non-empty strings.")
  else .ok ()

def repairBlockedItemConfiguration (workflowId wanted checkpointId : String)
    (expectedItemVersion : Int) (timeoutSeconds : Option Json) (contextLimitsPatch : Dict) :
    Op Item := do
  let workflow ← workflowRow workflowId
  let item ← Action.ofExcept (findItem workflow.taskBacklog wanted)
  Action.ofExcept (requireCurrentBlock item checkpointId expectedItemVersion "repair")
  let timed ← Action.ofExcept (repairTimeout item timeoutSeconds)
  Action.ofExcept (validateContextLimitsPatch contextLimitsPatch)
  let limits ← Action.ofExcept (timed.getOr "context_limits" (.obj [])).pyDict
  let version ← Action.ofExcept (itemVersion timed)
  let now ← Op.nowIso
  let repaired := ((timed.set "context_limits" (.obj (limits.update contextLimitsPatch))).set
    "version" (.int (version + 1))).set "updated_at" (.str now)
  let updatedAt ← Op.utcNow
  let row := { workflow with
    taskBacklog := replaceItem workflow.taskBacklog wanted repaired
    updatedAt := updatedAt }
  Op.putWorkflow row
  auditWorkflow row "QUEUE_WORK_ITEM_CONFIGURATION_REPAIRED"
    "repair_blocked_queue_work_item_configuration" wanted
  return repaired

def resolveBlocker (workflowId wanted checkpointId : String) (expectedItemVersion : Int)
    (resolutionEvent : String) : Op Item := do
  let workflow ← workflowRow workflowId
  let item ← Action.ofExcept (findItem workflow.taskBacklog wanted)
  Action.ofExcept (requireCurrentBlock item checkpointId expectedItemVersion "resolve")
  let resolvedAt ← Op.nowIso
  let noted :=
    (item.set "resolution_event" (.str resolutionEvent)).set "resolved_at" (.str resolvedAt)
  let resolved ← setState noted .readyToResume
  let updatedAt ← Op.utcNow
  let row := { workflow with
    taskBacklog := replaceItem workflow.taskBacklog wanted resolved
    updatedAt := updatedAt }
  Op.putWorkflow row
  auditWorkflow row "QUEUE_WORK_ITEM_READY_TO_RESUME" "resolve_queue_blocker"
    (StrEnum.value QueueWorkItemState.readyToResume)
  return resolved

def completeItem (workflowId wanted : String) (substeps : List String) : Op Item := do
  let workflow ← workflowRow workflowId
  requireExecutable workflow
  let item ← Action.ofExcept (findItem workflow.taskBacklog wanted)
  let current ← Action.ofExcept (executionState item)
  if current ∉ [QueueWorkItemState.running, .readyToResume] then
    throw (.queueStateError ("Cannot complete item from state " ++ StrEnum.value current))
  else
    let existing ← Action.ofExcept (completedSubsteps item)
    let completedAt ← Op.nowIso
    let noted := (item.set "completed_substeps" (.arr (mergeSubsteps existing substeps))).set
      "completed_at" (.str completedAt)
    let completed ← setState noted .completed
    let backlog := replaceItem workflow.taskBacklog wanted completed
    let updatedAt ← Op.utcNow
    let row := { workflow with
      activeTaskId := if workflow.activeTaskId = some wanted then none else workflow.activeTaskId
      completedTaskIds := sortedBy id (completedItemIdsForCompletion backlog)
      pendingTaskIds := sortedBy id (pendingItemIdsForCompletion backlog)
      taskBacklog := backlog
      updatedAt := updatedAt }
    Op.putWorkflow row
    auditWorkflow row "QUEUE_WORK_ITEM_COMPLETED" "complete_queue_work_item" wanted
    return completed

end Lucius.Queue
