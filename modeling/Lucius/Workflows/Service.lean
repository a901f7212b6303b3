import Lucius.Persistence.Rows

/-! The lifecycle of a persistent workflow: its plan, its progress, its
checkpoints and the validation of a resume. None of these writes its backlog. -/

namespace Lucius.Workflows

open Lucius.Action

variable {workflowId : String} {store after : Store}

def workflowRow (workflowId : String) : Op PersistentWorkflowRow := do
  let store ← get
  match store.workflows.get? workflowId with
  | some row => return row
  | none => throw (.valueError ("Unknown persistent workflow: " ++ workflowId))

def audit (row : PersistentWorkflowRow) (eventType action result : String) : Op Unit :=
  Op.record {
    eventType := eventType
    projectId := row.projectId
    repositoryId := row.repositoryId
    taskId := row.taskId
    action := action
    result := result }

/-- What a workflow is created with; what is left out is empty. -/
structure WorkflowRequest where
  objective : String
  expectedMainHead : String
  worktreePath : String
  authorityTier : String
  projectId : Option String := none
  repositoryId : Option String := none
  repositorySnapshotId : Option String := none
  taskId : Option String := none
  taskBacklog : List Dict := []
  dependencyGraph : Dict := []
  decisions : List Json := []
  pendingTaskIds : List String := []

def initialRepairCounters : Dict :=
  [("total", .int 0), ("by_task", .obj []),
    ("limits", .obj [("per_task", .int 3), ("total", .int 8)])]

def WorkflowRequest.row (request : WorkflowRequest) (id : String) (updatedAt : Timestamp) :
    PersistentWorkflowRow where
  id := id
  projectId := request.projectId
  repositoryId := request.repositoryId
  repositorySnapshotId := request.repositorySnapshotId
  taskId := request.taskId
  objective := request.objective
  expectedMainHead := request.expectedMainHead
  worktreePath := request.worktreePath
  authorityTier := request.authorityTier
  taskBacklog := request.taskBacklog
  dependencyGraph := request.dependencyGraph
  decisions := request.decisions
  pendingTaskIds := request.pendingTaskIds
  repairCounters := initialRepairCounters
  updatedAt := updatedAt

/-- A row whose key is taken is refused by the database. -/
def addWorkflow (row : PersistentWorkflowRow) : Op Unit := do
  let store ← get
  if (store.workflows.get? row.id).isSome then throw .databaseError
  else set { store with workflows := store.workflows.add row }

def create (request : WorkflowRequest) : Op PersistentWorkflowRow := do
  let id ← Op.nextId .persistentWorkflow
  let updatedAt ← Op.utcNow
  let row := request.row id updatedAt
  addWorkflow row
  audit row "PERSISTENT_WORKFLOW_CREATED" "create_persistent_workflow"
    (StrEnum.value row.workflowState)
  return row

def attachPlan (workflowId planId planFreezeId : String) : Op PersistentWorkflowRow := do
  let row ← workflowRow workflowId
  let updatedAt ← Op.utcNow
  let attached := { row with
    planId := some planId
    planFreezeId := some planFreezeId
    workflowState := .planReady
    updatedAt := updatedAt }
  Op.putWorkflow attached
  audit attached "PERSISTENT_WORKFLOW_PLAN_ATTACHED" "attach_workflow_plan"
    (StrEnum.value attached.workflowState)
  return attached

structure Progress where
  state : PersistentWorkflowState
  activeTaskId : Option String := none
  completedTaskIds : Option (List String) := none
  pendingTaskIds : Option (List String) := none
  repairCounters : Option Dict := none

def updateProgress (workflowId : String) (progress : Progress) : Op PersistentWorkflowRow := do
  let row ← workflowRow workflowId
  let updatedAt ← Op.utcNow
  let updated := { row with
    workflowState := progress.state
    activeTaskId := progress.activeTaskId
    completedTaskIds := progress.completedTaskIds.getD row.completedTaskIds
    pendingTaskIds := progress.pendingTaskIds.getD row.pendingTaskIds
    repairCounters := progress.repairCounters.getD row.repairCounters
    updatedAt := updatedAt }
  Op.putWorkflow updated
  audit updated "PERSISTENT_WORKFLOW_PROGRESS_UPDATED" "update_workflow_progress"
    (StrEnum.value updated.workflowState)
  return updated

structure CheckpointRequest where
  checkpointState : PersistentWorkflowState
  activeTaskId : Option String
  completedTaskIds : List String
  pendingTaskIds : List String
  repairCounters : Dict

def recordCheckpoint (workflowId : String) (request : CheckpointRequest) :
    Op WorkflowCheckpointRow := do
  let row ← workflowRow workflowId
  let id ← Op.nextId .workflowCheckpoint
  let checkpoint : WorkflowCheckpointRow := ⟨id, row.id⟩
  let _ ← Op.utcNow
  Op.addCheckpoint checkpoint
  let updatedAt ← Op.utcNow
  let updated := { row with
    workflowState := request.checkpointState
    activeTaskId := request.activeTaskId
    completedTaskIds := request.completedTaskIds
    pendingTaskIds := request.pendingTaskIds
    repairCounters := request.repairCounters
    checkpointHistory := row.checkpointHistory ++ [.str checkpoint.id]
    updatedAt := updatedAt }
  Op.putWorkflow updated
  audit updated "PERSISTENT_WORKFLOW_CHECKPOINT_RECORDED" "record_workflow_checkpoint"
    (StrEnum.value request.checkpointState)
  return checkpoint

inductive ResumeValidationResult where
  | safeToResume | checkpointReviewRequired | blocked
  deriving DecidableEq, Repr

instance : StrEnum ResumeValidationResult where
  value
    | .safeToResume => "SAFE_TO_RESUME"
    | .checkpointReviewRequired => "CHECKPOINT_REVIEW_REQUIRED"
    | .blocked => "BLOCKED"
  members := [.safeToResume, .checkpointReviewRequired, .blocked]
  complete := by intro member; cases member <;> decide
  distinct := by intro left right; cases left <;> cases right <;> decide

def resumeResult (checks : List Dict) : ResumeValidationResult :=
  let failed := checks.filter (fun check => !(check.get "status").isStr "PASS")
  if failed.isEmpty then .safeToResume
  else if failed.any (fun check => (check.get "severity").isStr "BLOCKING") then .blocked
  else .checkpointReviewRequired

/-- The workflow enters resume validation whatever the checks found. -/
def validateResume (workflowId checkpointId : String) (checks : List Dict)
    (nextEligibleTaskId : Option String) : Op ResumeValidationResult := do
  let row ← workflowRow workflowId
  let store ← get
  if (store.checkpoints.get? checkpointId).map (·.workflowId) ≠ some row.id then
    throw (.valueError ("Unknown checkpoint for workflow: " ++ checkpointId))
  else
    let result := resumeResult checks
    let _ ← Op.nextId .resumeValidation
    let _ ← Op.utcNow
    let updatedAt ← Op.utcNow
    let updated := { row with
      workflowState := .resumeValidation
      activeTaskId := nextEligibleTaskId
      updatedAt := updatedAt }
    Op.putWorkflow updated
    audit updated "PERSISTENT_WORKFLOW_RESUME_VALIDATED" "validate_workflow_resume"
      (StrEnum.value result)
    return result

/-- One row is written under its own key, with the backlog it had. -/
def LifecycleWrite (before after : Tables) (row written : PersistentWorkflowRow) : Prop :=
  after.workflows = before.workflows.put written ∧ before.workflows.get? row.id = some row ∧
    written.id = row.id ∧ written.taskBacklog = row.taskBacklog

theorem workflowRow_bind_ok {α : Type}
    {next : PersistentWorkflowRow → Op α} {result : α}
    (done : exec (workflowRow workflowId >>= next) store = (.ok result, after)) :
    ∃ row, store.workflows.get? row.id = some row ∧ row.id = workflowId ∧
      exec (next row) store = (.ok result, after) := by
  obtain ⟨row, middle, read, later⟩ := bind_ok done
  unfold workflowRow at read
  rw [exec_get_bind] at read
  cases found : store.workflows.get? workflowId with
  | none =>
    rw [found] at read
    cases read
  | some known =>
    rw [found] at read
    cases read
    have named := Table.get?_key found
    exact ⟨row, (congrArg store.workflows.get? named).trans found, named, later⟩

theorem create_ok {request : WorkflowRequest} {row : PersistentWorkflowRow}
    (done : exec (create request) store = (.ok row, after)) :
    ∃ updatedAt, row = request.row row.id updatedAt ∧ store.workflows.get? row.id = none ∧
      after.toTables = { store.toTables with workflows := store.workflows.add row } := by
  unfold create at done
  rw [exec_bind_of_ok (Op.exec_nextId _ _), exec_bind_of_ok (Op.exec_utcNow _)] at done
  obtain ⟨_, middle, added, later⟩ := bind_ok done
  rw [audit, exec_bind_of_ok (Op.exec_record _ _)] at later
  obtain ⟨rfl, rfl⟩ := ok_pure later
  unfold addWorkflow at added
  rw [exec_get_bind] at added
  split at added
  · cases added
  · next fresh =>
      cases added
      exact ⟨_, rfl, by simpa using fresh, rfl⟩

theorem attachPlan_ok {planId planFreezeId : String} {attached : PersistentWorkflowRow}
    (done : exec (attachPlan workflowId planId planFreezeId) store = (.ok attached, after)) :
    ∃ row updatedAt, store.workflows.get? row.id = some row ∧ row.id = workflowId ∧
      attached = { row with
        planId := some planId
        planFreezeId := some planFreezeId
        workflowState := .planReady
        updatedAt := updatedAt } ∧
      after.toTables = { store.toTables with workflows := store.workflows.put attached } := by
  unfold attachPlan at done
  obtain ⟨row, present, named, done⟩ := workflowRow_bind_ok done
  rw [exec_bind_of_ok (Op.exec_utcNow _), exec_bind_of_ok (Op.exec_putWorkflow _ _),
    audit, exec_bind_of_ok (Op.exec_record _ _)] at done
  obtain ⟨rfl, rfl⟩ := ok_pure done
  exact ⟨row, _, present, named, rfl, rfl⟩

theorem updateProgress_ok {progress : Progress}
    {result : PersistentWorkflowRow}
    (done : exec (updateProgress workflowId progress) store = (.ok result, after)) :
    ∃ row, row.id = workflowId ∧ LifecycleWrite store.toTables after.toTables row result := by
  unfold updateProgress at done
  obtain ⟨row, present, named, done⟩ := workflowRow_bind_ok done
  rw [exec_bind_of_ok (Op.exec_utcNow _), exec_bind_of_ok (Op.exec_putWorkflow _ _),
    audit, exec_bind_of_ok (Op.exec_record _ _)] at done
  obtain ⟨rfl, rfl⟩ := ok_pure done
  exact ⟨row, named, rfl, present, rfl, rfl⟩

theorem addCheckpoint_bind_ok {checkpoint : WorkflowCheckpointRow} {α : Type} {next : Unit → Op α} {result : α}
    (done : exec (Op.addCheckpoint checkpoint >>= next) store = (.ok result, after)) :
    exec (next ()) { store with checkpoints := store.checkpoints.add checkpoint } =
      (.ok result, after) := by
  obtain ⟨_, middle, added, later⟩ := bind_ok done
  unfold Op.addCheckpoint at added
  rw [exec_get_bind] at added
  split at added
  · cases added
  · cases added
    exact later

theorem recordCheckpoint_ok {request : CheckpointRequest}
    {result : WorkflowCheckpointRow}
    (done : exec (recordCheckpoint workflowId request) store = (.ok result, after)) :
    ∃ row written, row.id = workflowId ∧ LifecycleWrite store.toTables after.toTables row written := by
  unfold recordCheckpoint at done
  obtain ⟨row, present, named, done⟩ := workflowRow_bind_ok done
  rw [exec_bind_of_ok (Op.exec_nextId _ _), exec_bind_of_ok (Op.exec_utcNow _)] at done
  have done := addCheckpoint_bind_ok done
  rw [exec_bind_of_ok (Op.exec_utcNow _), exec_bind_of_ok (Op.exec_putWorkflow _ _),
    audit, exec_bind_of_ok (Op.exec_record _ _)] at done
  obtain ⟨-, rfl⟩ := ok_pure done
  exact ⟨row, _, named, rfl, present, rfl, rfl⟩

theorem validateResume_ok {checkpointId : String} {checks : List Dict}
    {next : Option String} {result : ResumeValidationResult}
    (done : exec (validateResume workflowId checkpointId checks next) store =
      (.ok result, after)) :
    ∃ row written, row.id = workflowId ∧ LifecycleWrite store.toTables after.toTables row written := by
  unfold validateResume at done
  obtain ⟨row, present, named, done⟩ := workflowRow_bind_ok done
  rw [exec_get_bind] at done
  split at done
  · cases done
  · rw [exec_bind_of_ok (Op.exec_nextId _ _), exec_bind_of_ok (Op.exec_utcNow _),
      exec_bind_of_ok (Op.exec_utcNow _), exec_bind_of_ok (Op.exec_putWorkflow _ _),
      audit, exec_bind_of_ok (Op.exec_record _ _)] at done
    obtain ⟨-, rfl⟩ := ok_pure done
    exact ⟨row, _, named, rfl, present, rfl, rfl⟩

end Lucius.Workflows
