import Lucius.Queue.Service

/-! Selection over the backlogs of all execution-eligible workflows. -/

namespace Lucius.Queue

structure GlobalWorkflowExclusion where
  projectId : Option String
  workflowId : String
  workflowState : PersistentWorkflowState
  reason : String
  itemCount : Nat
  items : List GlobalQueueItem

structure GlobalQueueSelection where
  selectedProjectId : Option String := none
  selectedWorkflowId : Option String := none
  selectedItemId : Option String := none
  reason : String
  selectedItemVersion : Option Int := none
  startedProjectId : Option String := none
  startedWorkflowId : Option String := none
  startedItemId : Option String := none
  startedPreviousState : Option String := none
  startedNewState : Option String := none
  startedPreviousVersion : Option Int := none
  startedNewVersion : Option Int := none
  mutationIdentityMatchesSelection : Option Bool := none
  eligibleItems : List GlobalQueueItem := []
  blockedItems : List GlobalQueueItem := []
  runningItems : List GlobalQueueItem := []
  excludedItems : List GlobalQueueItem := []

def lookupWorkflow (workflows : Table PersistentWorkflowRow) (workflowId : String) :
    Except PyExc PersistentWorkflowRow :=
  match workflows.get? workflowId with
  | some row => .ok row
  | none => .error (.queueStateError ("Unknown persistent workflow: " ++ workflowId))

/-- Without identifiers every row is read, in the order of its key. -/
def globalWorkflows (workflows : Table PersistentWorkflowRow) (workflowIds : List String) :
    Except PyExc (List PersistentWorkflowRow) := do
  let rows ←
    if workflowIds.isEmpty then .ok (sortedBy (fun (row : PersistentWorkflowRow) => row.id) workflows.rows)
    else workflowIds.mapM (lookupWorkflow workflows)
  return rows.filter (fun row => !row.taskBacklog.isEmpty)

def schedulableWorkflows (rows : List PersistentWorkflowRow) : List PersistentWorkflowRow :=
  rows.filter (fun row => (workflowExecutionExclusionReason row).isNone)

def lifecycleExclusions : List PersistentWorkflowRow → Except PyExc (List GlobalWorkflowExclusion)
  | [] => .ok []
  | workflow :: rest =>
    match workflowExecutionExclusionReason workflow with
    | none => lifecycleExclusions rest
    | some reason => do
        let items ← globalItems (some reason) [workflow]
        let exclusion : GlobalWorkflowExclusion := {
          projectId := workflow.projectId
          workflowId := workflow.id
          workflowState := workflow.workflowState
          reason := reason
          itemCount := workflow.taskBacklog.length
          items := items }
        return exclusion :: (← lifecycleExclusions rest)

def validateGlobalRunningIdentities (items : List GlobalQueueItem) : Except PyExc Unit :=
  let running := items.filter (fun item => item.state = some .running)
  if (running.map (fun item => (item.projectId, item.logicalTaskId))).Nodup then .ok ()
  else .error (.queueStateError "Duplicate global RUNNING logical work item detected.")

def selectGlobalNext (workflows : Table PersistentWorkflowRow) (workflowIds : List String) :
    Except PyExc GlobalQueueSelection := do
  let rows ← globalWorkflows workflows workflowIds
  let lifecycleExcluded ← lifecycleExclusions rows
  let items ← globalItems none (schedulableWorkflows rows)
  let stateful := items.filter (·.queueStatePresent)
  let executable := items.filter (·.schedulable)
  let excluded := lifecycleExcluded.flatMap (·.items) ++ items.filter (fun item => !item.schedulable)
  validateGlobalRunningIdentities stateful
  match stateful.filter (fun item => item.state = some .running) with
  | first :: others =>
    return { reason := "GLOBAL_RUNNING_ITEM_ACTIVE_NO_PREEMPTION"
             runningItems := first :: others
             excludedItems := excluded }
  | [] =>
    let eligible := executable.filter (globalIsEligible · executable)
    let blocked := executable.filter (isBlockedOrWaiting executable)
    match sortedBy globalSelectionKey eligible with
    | [] =>
      return { reason := "NO_GLOBAL_ELIGIBLE_WORK"
               blockedItems := blocked
               excludedItems := excluded }
    | selected :: others =>
      return { selectedProjectId := selected.projectId
               selectedWorkflowId := some selected.workflowId
               selectedItemId := some selected.itemId
               selectedItemVersion := some selected.version
               reason := globalSelectionReason selected
               eligibleItems := selected :: others
               blockedItems := blocked
               excludedItems := excluded }

/-- Whether the caller's selection still is the one the queue would make. -/
def sameSelection (current selection : GlobalQueueSelection) : Bool :=
  current.selectedProjectId = selection.selectedProjectId &&
    current.selectedWorkflowId = selection.selectedWorkflowId &&
    current.selectedItemId = selection.selectedItemId &&
    current.selectedItemVersion = selection.selectedItemVersion

/-- The checks between the selection and the mutation, on the workflow's items. -/
def validateGlobalStart (workflow : PersistentWorkflowRow) (parsed : List GlobalQueueItem)
    (current selection : GlobalQueueSelection) : Except PyExc (Item × GlobalQueueItem) := do
  validateGlobalRunningIdentities (parsed.filter (·.queueStatePresent))
  if parsed.any (fun item => item.state = some .running) then
    throw (.queueStateError
      "Stale global selection: running item active, no preemption allowed.")
  else
    let item ← findItem workflow.taskBacklog (selection.selectedItemId.getD "")
    match parsed.find? (fun candidate => some candidate.itemId = selection.selectedItemId) with
    | none => throw (.queueStateError "Stale global selection: selected item no longer exists.")
    | some selected =>
      if !selected.schedulable then
        throw (.queueStateError ("Selected global item is not schedulable: " ++
          selected.exclusionReason.getD "None"))
      else if !isEligibleState selected.state then
        throw (.queueStateError ("Selected global item is no longer eligible: " ++
          selected.stateLabel))
      else if !globalDependenciesComplete selected parsed then
        throw (.queueStateError "Selected global item dependencies are no longer complete.")
      else
        match current.eligibleItems with
        | [] => throw .indexError
        | first :: _ =>
          if globalSelectionKey selected ≠ globalSelectionKey first then
            throw (.queueStateError
              "Stale global selection: ordering changed, caller must re-run global selection.")
          else return (item, selected)

def startGlobalSelection (selection : GlobalQueueSelection) (workflowIds : List String) :
    Op GlobalQueueSelection := do
  let workflow ← workflowRow (selection.selectedWorkflowId.getD "")
  if !workflowIds.isEmpty && workflow.id ∉ workflowIds then
    throw (.queueStateError "Global selection workflow is outside requested scope.")
  else if (workflowExecutionExclusionReason workflow).isSome then
    throw (.queueStateError "Stale global selection: workflow is no longer schedulable.")
  else
    let store ← get
    let current ← Action.ofExcept (selectGlobalNext store.workflows workflowIds)
    if !sameSelection current selection then
      throw (.queueStateError "Stale global selection: caller must re-run global selection.")
    else
      let parsed ← Action.ofExcept (globalItems none [workflow])
      let (item, selected) ← Action.ofExcept (validateGlobalStart workflow parsed current selection)
      let previousVersion ← Action.ofExcept (itemVersion item)
      let row ← startItem workflow item (selection.selectedItemId.getD "")
      if selection.selectedProjectId ≠ workflow.projectId ∨
          selection.selectedWorkflowId ≠ some workflow.id ∨
          selection.selectedItemId ≠ some (itemId item) then
        throw (.queueStateError "Global selection identity did not match mutation identity.")
      else
        auditWorkflow row "GLOBAL_QUEUE_WORK_ITEM_STARTED" "start_global_queue_work_item" (itemId item)
        return { selection with
          startedProjectId := workflow.projectId
          startedWorkflowId := some workflow.id
          startedItemId := some (itemId item)
          startedPreviousState := some (stateText selected.state)
          startedNewState := some (StrEnum.value QueueWorkItemState.running)
          startedPreviousVersion := some previousVersion
          startedNewVersion := some (previousVersion + 1)
          mutationIdentityMatchesSelection := some true }

def startSelectedGlobalItem (selection : GlobalQueueSelection) (workflowIds : List String) :
    Op GlobalQueueSelection :=
  match selection.selectedWorkflowId with
  | none => return selection
  | some _ => startGlobalSelection selection workflowIds

def startGlobalNext (workflowIds : List String) : Op GlobalQueueSelection := do
  let store ← get
  let selection ← Action.ofExcept (selectGlobalNext store.workflows workflowIds)
  startSelectedGlobalItem selection workflowIds

end Lucius.Queue
