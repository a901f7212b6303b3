import Lucius.Runtime.Dispatcher
import Lucius.Runtime.Requests
import Lucius.Tasks.Service

/-! The release of a dispatched item: what the runtime checks before it hands the item to
the execution router, and the reconciliation of a task with its completed workflow. -/

namespace Lucius.Runtime

open Queue Router

def findQueueItem (items : List Item) (wanted : String) : Except PyExc Item :=
  match items.find? (fun item => itemId item = wanted) with
  | some item => .ok item
  | none => .error (.executionRuntimeLoopError ("Unknown queue item: " ++ wanted))

def executionContext (tables : Tables) (workflowId wanted : String) :
    Except PyExc RuntimeExecutionContext :=
  match tables.workflows.get? workflowId with
  | none => .error (.executionRuntimeLoopError ("Unknown persistent workflow: " ++ workflowId))
  | some workflow => do
      let item ← findQueueItem workflow.taskBacklog wanted
      let title ← (item.get "title").optionalText
      return {
        workflowId := workflow.id
        itemId := wanted
        logicalTaskId :=
          (((item.get "logical_task_id").orElse (item.get "task_id")).orElse (.str wanted)).pyStr
        projectId := workflow.projectId
        repositoryId := workflow.repositoryId
        workflowTaskId := workflow.taskId
        title := title
        workflowObjective := workflow.objective
        worktreePath := workflow.worktreePath
        authorityTier := workflow.authorityTier
        planId := workflow.planId
        planFreezeId := workflow.planFreezeId
        queueItem := item }

/-- A field of the item that names something else than the selected item. -/
def namesAnother (item : Item) (allowed : List String) (field : String) : Bool :=
  match item.get field with
  | .null => false
  | target => decide (target.pyStr ∉ allowed)

def selectedMutationIdentityError (context : RuntimeExecutionContext) : Option String :=
  let item := context.queueItem
  if ["mutation_item_id", "mutates_item_id", "execution_item_id", "selected_item_id"].any
      (namesAnother item [context.itemId]) then
    some "Queue item mutation identity does not match the selected item."
  else if ["mutation_task_id", "mutates_task_id"].any (namesAnother item
      ([context.logicalTaskId, context.itemId] ++ context.workflowTaskId.toList)) then
    some "Queue item mutation task identity does not match the selected task."
  else none

/-- The newest event of one of the kinds about a task, of one action where it is given. -/
def latestTaskAudit (audits : List AuditEventRow) (taskId : String) (eventTypes : List String)
    (action : Option String) : Option AuditEventRow :=
  (sortedBy auditKey (audits.filter (fun row =>
    decide (row.taskId = some taskId) && decide (row.eventType ∈ eventTypes) &&
      action.all (fun named => decide (row.action = named))))).getLast?

def readinessReleaseEvidenceError (audits : List AuditEventRow) (taskId : String) : Option String :=
  match latestTaskAudit audits taskId ["TASK_READY"] none with
  | none => some ("Task " ++ taskId ++ " has no successful canonical readiness transition.")
  | some ready =>
    if (latestTaskAudit audits taskId ["POLICY_BLOCK", "TASK_BLOCKED"] (some "mark_ready")).any
        (fun failed => ready.timestamp ≤ failed.timestamp) then
      some ("Task " ++ taskId ++
        " readiness failure was not superseded by a later TASK_READY event.")
    else if (latestTaskAudit audits taskId ["TASK_CONTRACT_CREATED", "TASK_CONTRACT_UPDATED"]
        none).any (fun change => ready.timestamp < change.timestamp) then
      some ("Task " ++ taskId ++ " readiness is stale after a contract change.")
    else none

def planFreezeError (tables : Tables) (context : RuntimeExecutionContext)
    (contract : TaskContractRow) : Option String :=
  match nonEmpty context.planId, nonEmpty context.planFreezeId with
  | some planId, some planFreezeId =>
    match tables.plans.get? planId, tables.freezes.get? planFreezeId with
    | some plan, some freeze =>
      if freeze.planId ≠ plan.id then
        some "Selected workflow PlanFreeze does not match the EngineeringPlan."
      else if some plan.taskId ≠ context.workflowTaskId ∨
          some freeze.taskId ≠ context.workflowTaskId then
        some "Selected workflow frozen plan does not match the exact selected task."
      else if some plan.projectId ≠ context.projectId ∨
          some freeze.projectId ≠ context.projectId then
        some "Selected workflow frozen plan does not match the execution project."
      else if plan.taskContractId ≠ contract.id ∨ plan.taskContractVersion ≠ contract.version then
        some "Selected workflow frozen plan is stale relative to the active task contract."
      else none
    | _, _ => some "Selected workflow references an unknown EngineeringPlan or PlanFreeze."
  | _, _ => some "Selected workflow has no frozen EngineeringPlan."

def blockerText (blocker : Tasks.StructuredBlocker) : String :=
  StrEnum.value blocker.code ++ ": " ++ blocker.message

/-- The checks on the repository of the execution. -/
def repositoryReleaseError (tables : Tables) (task : TaskRow) (contract : TaskContractRow)
    (context : RuntimeExecutionContext) : Option String :=
  match context.repositoryId with
  | none => some "Selected workflow has no repository bound for execution."
  | some repositoryId =>
    if repositoryId ∉ contract.repositoryIds then
      some "Selected workflow repository is not authorized by the active task contract."
    else if !Tasks.isAttached tables task.projectId repositoryId then
      some "Selected workflow repository is not attached to the task project."
    else none

def runningItemError (workflow : PersistentWorkflowRow) (context : RuntimeExecutionContext) :
    Except PyExc (Option String) := do
  let item ← findQueueItem workflow.taskBacklog context.itemId
  return if (item.get "state").isStr (StrEnum.value QueueWorkItemState.running) then none
    else some "Selected queue item is no longer RUNNING immediately before dispatch."

/-- The checks on a task that is ready under a contract. -/
def contractReleaseError (store : Store) (workflow : PersistentWorkflowRow) (task : TaskRow)
    (contract : TaskContractRow) (context : RuntimeExecutionContext) : Except PyExc (Option String) :=
  match repositoryReleaseError store.toTables task contract context with
  | some error => .ok (some error)
  | none =>
    match selectedMutationIdentityError context with
    | some error => .ok (some error)
    | none => do
        let blockers ← Tasks.contractBlockers store.toTables task
        if !blockers.isEmpty then
          return some ("Current task contract is not valid for execution: " ++
            "; ".intercalate (blockers.map blockerText))
        else
          match readinessReleaseEvidenceError store.audits task.id with
          | some error => return some error
          | none =>
            match planFreezeError store.toTables context contract with
            | some error => return some error
            | none => runningItemError workflow context

def preDispatchReleaseError (store : Store) (context : RuntimeExecutionContext) :
    Except PyExc (Option String) :=
  match store.workflows.get? context.workflowId with
  | none => .ok (some ("Unknown persistent workflow: " ++ context.workflowId))
  | some workflow =>
    match (nonEmpty context.workflowTaskId).bind store.tasks.get? with
    | none =>
      .ok (some "Persistent workflow has no canonical task bound for pre-mutation release.")
    | some task =>
      if some task.projectId ≠ context.projectId then
        .ok (some "Selected workflow task project does not match execution context project.")
      else if task.status ≠ .ready then
        .ok (some ("Task " ++ task.id ++ " is not READY for execution: " ++
          StrEnum.value task.status))
      else
        match store.activeContract task.id with
        | none => .ok (some ("Task " ++ task.id ++ " has no active contract."))
        | some contract => contractReleaseError store workflow task contract context

def workflowSuccessfullyCompleted (workflow : PersistentWorkflowRow) : Bool :=
  workflow.activeTaskId.isNone && !workflow.taskBacklog.isEmpty &&
    workflow.taskBacklog.all (fun item => decide (queueState? item = some .completed)) &&
    (workflow.taskBacklog.map itemId).all (fun id => decide (id ∈ workflow.completedTaskIds)) &&
    workflow.completedTaskIds.all (fun id => decide (id ∈ workflow.taskBacklog.map itemId)) &&
    workflow.pendingTaskIds.isEmpty

def completedWorkflowTaskStatus (tables : Tables) (taskId : String) : TaskStatus :=
  match tables.activeContract taskId with
  | none => .complete
  | some contract =>
    if !contract.documentationRequired then .complete
    else
      match Tasks.documentationCompletion tables taskId with
      | none => .documentationPending
      | some completion =>
        if contract.documentationTargets.any (· ∉ completion.targetsCompleted) ∨
            completion.evidenceReferences = [] then .documentationPending
        else .complete

/-- The task of a workflow that is completed, if the workflow is bound to one. -/
def parentTask (tables : Tables) (workflow : PersistentWorkflowRow) : Option TaskRow :=
  if workflowSuccessfullyCompleted workflow then (nonEmpty workflow.taskId).bind tables.tasks.get?
  else none

def reconciledTask (task : TaskRow) (status : TaskStatus) (updatedAt : Timestamp) : TaskRow :=
  { task with
    status := status
    blockerCode := none
    blockerMessage := none
    blockedAt := none
    failureReason := none
    updatedAt := updatedAt }

def reconciledWorkflow (workflow : PersistentWorkflowRow) (updatedAt : Timestamp) :
    PersistentWorkflowRow :=
  { workflow with
    workflowState := .completedPendingIntegration
    activeTaskId := none
    updatedAt := updatedAt }

/-- Neither state is read before it is written. -/
def reconcileParentTask (workflow : PersistentWorkflowRow) (task : TaskRow) : Op Unit := do
  let store ← get
  let target := completedWorkflowTaskStatus store.toTables task.id
  if task.status = target ∧ workflow.workflowState = .completedPendingIntegration then return ()
  else
    let taskUpdated ← Op.utcNow
    Tasks.putTask (reconciledTask task target taskUpdated)
    let workflowUpdated ← Op.utcNow
    Op.putWorkflow (reconciledWorkflow workflow workflowUpdated)
    Op.record {
      eventType := "NATIVE_RUNTIME_WORKFLOW_PARENT_TASK_RECONCILED"
      projectId := workflow.projectId
      repositoryId := workflow.repositoryId
      taskId := some task.id
      action := "reconcile_completed_runtime_workflow"
      result := StrEnum.value target }

def reconcileCompletedWorkflowParentTask (workflowId : String) : Op Unit := do
  let store ← get
  match store.workflows.get? workflowId with
  | none => return ()
  | some workflow =>
    match parentTask store.toTables workflow with
    | none => return ()
    | some task => reconcileParentTask workflow task

end Lucius.Runtime
