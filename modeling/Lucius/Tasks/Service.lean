import Lucius.Tasks.Policy

/-! The service of tasks: their contracts, the transitions of their status, and their runs. -/

namespace Lucius.Tasks

def terminalStatuses : List TaskStatus := [.complete, .cancelled]

def taskRow (taskId : String) : Op TaskRow := do
  let store ← get
  match store.tasks.get? taskId with
  | some row => return row
  | none => throw (.valueError ("Unknown task: " ++ taskId))

def putTask (row : TaskRow) : Op Unit :=
  modify (fun store => { store with tasks := store.tasks.put row })

def ensureTransition (task : TaskRow) (allowedFrom : List TaskStatus) : Except PyExc Unit :=
  if task.status ∈ terminalStatuses then .error (.valueError "Task is terminal for Phase 1.5")
  else if task.status ∈ allowedFrom then .ok ()
  else .error (.valueError ("Invalid Task transition from " ++ StrEnum.value task.status))

def auditTask (task : TaskRow) (eventType action result : String) (runId : Option String) : Op Unit :=
  Op.record {
    eventType := eventType
    projectId := some task.projectId
    taskId := some task.id
    runId := runId
    action := action
    result := result }

/-- A task row under the clock of the write. -/
def writeTask (change : Timestamp → TaskRow) : Op TaskRow := do
  let updatedAt ← Op.utcNow
  putTask (change updatedAt)
  return change updatedAt

def createTask (projectId title objective : String) (authorityLevel : AuthorityLevel) : Op TaskRow := do
  let store ← get
  match store.projects.get? projectId with
  | none => throw (.valueError ("Unknown project: " ++ projectId))
  | some project =>
    if project.status ≠ .active then
      throw (.valueError "Project must be ACTIVE to receive new active work")
    else
      let id ← Op.nextId .task
      let updatedAt ← Op.utcNow
      let row : TaskRow := {
        id := id
        projectId := project.id
        title := title
        objective := objective
        authorityLevel := authorityLevel
        updatedAt := updatedAt }
      let current ← get
      if (current.tasks.get? row.id).isSome then throw .databaseError
      else
        set { current with tasks := current.tasks.add row }
        auditTask row "TASK_CREATED" "create_task" "SUCCESS" none
        return row

def criterionStatuses : List String := ["PENDING", "PASS", "FAIL", "NOT_EVALUATED"]

def criterionKey (index : Nat) : String := "AC-" ++ Timestamp.padded 3 index

/-- A criterion is a text or an object; one that states nothing is left out. -/
def normalizeCriterion (index : Nat) : Json → Except PyExc (Option Dict)
  | .str text =>
    let statement := String.ofList (Json.strip text.toList)
    .ok (if statement.toList.isEmpty then none
      else some [("id", .str (criterionKey index)), ("statement", .str statement),
        ("status", .str "PENDING")])
  | .obj members =>
    let statement :=
      String.ofList (Json.strip (Dict.getOr members "statement" (.str "")).pyStr.toList)
    let key := ((Dict.get members "id").orElse (Dict.get members "key")).orElse
      (.str (criterionKey index))
    match criterionStatuses.find?
        (fun name => (Dict.getOr members "status" (.str "PENDING")).isStr name) with
    | none =>
      .error (.valueError ((Dict.getOr members "status" (.str "PENDING")).pyRepr ++
        " is not a valid AcceptanceCriterionStatus"))
    | some status =>
      .ok (if statement.toList.isEmpty then none
        else some [("id", .str key.pyStr), ("statement", .str statement), ("status", .str status)])
  | _ => .error .attributeError

def normalizeCriteriaFrom (index : Nat) : List Json → Except PyExc (List Dict)
  | [] => .ok []
  | criterion :: rest => do
      let normalized ← normalizeCriterion index criterion
      let more ← normalizeCriteriaFrom (index + 1) rest
      return normalized.toList ++ more

/-- What a contract is created or updated with. -/
structure ContractTerms where
  objective : String
  acceptanceCriteria : List Json
  constraints : List String := []
  repositoryIds : List String := []
  allowedActions : List String := []
  environment : Environment := .sandbox
  authorityLevel : AuthorityLevel := .l0
  dependencies : List String := []
  documentationRequired : Bool := false
  documentationTargets : List String := []

/-- The terms replace what the contract said; its number and its version stay. -/
def ContractTerms.applied (terms : ContractTerms) (contract : TaskContractRow) (criteria : List Dict)
    (actions : List AllowedAction) : TaskContractRow :=
  { contract with
    objective := terms.objective
    acceptanceCriteria := criteria
    constraints := terms.constraints
    repositoryIds := terms.repositoryIds
    allowedActions := actions.map StrEnum.value
    environment := terms.environment
    authorityLevel := terms.authorityLevel
    dependencies := terms.dependencies
    documentationRequired := terms.documentationRequired
    documentationTargets := terms.documentationTargets }

def writeContract (row : TaskContractRow) : Op Unit :=
  modify (fun store => { store with contracts := store.contracts.put row })

def addContract (row : TaskContractRow) : Op Unit := do
  let store ← get
  if (store.contracts.get? row.id).isSome then throw .databaseError
  else set { store with contracts := store.contracts.add row }

def createOrUpdateContract (taskId : String) (terms : ContractTerms) : Op TaskContractRow := do
  let task ← taskRow taskId
  let criteria ← Action.ofExcept (normalizeCriteriaFrom 1 terms.acceptanceCriteria)
  let actions ← Action.ofExcept (terms.allowedActions.mapM parseAction)
  let store ← get
  match store.activeContract task.id with
  | some latest => do
      let contract := terms.applied latest criteria actions
      let _ ← Op.utcNow
      writeContract contract
      auditTask task "TASK_CONTRACT_UPDATED" "create_or_update_contract" "SUCCESS" none
      return contract
  | none => do
      let id ← Op.nextId .taskContract
      let _ ← Op.utcNow
      let contract := terms.applied { id := id, taskId := task.id } criteria actions
      addContract contract
      auditTask task "TASK_CONTRACT_CREATED" "create_or_update_contract" "SUCCESS" none
      return contract

def validateContract (taskId : String) : Op (List StructuredBlocker) := do
  let task ← taskRow taskId
  let store ← get
  Action.ofExcept (contractBlockers store.toTables task)

def applyBlocker (task : TaskRow) (blocker : StructuredBlocker) : Op TaskRow := do
  let blockedAt ← Op.utcNow
  writeTask (fun updatedAt => { task with
    status := .blocked
    blockerCode := some (StrEnum.value blocker.code)
    blockerMessage := some blocker.message
    blockedAt := some blockedAt
    updatedAt := updatedAt })

/-- A contract that does not validate blocks the task. -/
def markReady (taskId : String) : Op (List StructuredBlocker) := do
  let task ← taskRow taskId
  Action.ofExcept (ensureTransition task [.draft, .blocked, .failed])
  let blockers ← validateContract task.id
  match blockers with
  | first :: _ => do
      let blocked ← applyBlocker task first
      auditTask blocked "POLICY_BLOCK" "mark_ready" "BLOCKED" none
      auditTask blocked "TASK_BLOCKED" "mark_ready" "BLOCKED" none
      return blockers
  | [] => do
      let ready ← writeTask (fun updatedAt => { task with
        status := .ready
        blockerCode := none
        blockerMessage := none
        blockedAt := none
        updatedAt := updatedAt })
      auditTask ready "TASK_READY" "mark_ready" "SUCCESS" none
      return blockers

def validateSnapshotBinding (tables : Tables) (task : TaskRow) : Option String → Except PyExc Unit
  | none => .ok ()
  | some snapshotId =>
    match tables.snapshots.get? snapshotId with
    | none => .error (.valueError ("Unknown repository snapshot: " ++ snapshotId))
    | some snapshot =>
      if ⟨task.projectId, snapshot.repositoryId⟩ ∈ tables.attachments then .ok ()
      else .error (.valueError
        "RepositorySnapshot does not belong to a repository attached to the Task project")

def addRun (run : TaskRunRow) : Op Unit := do
  let store ← get
  if (store.taskRuns.get? run.id).isSome then throw .databaseError
  else set { store with taskRuns := store.taskRuns.add run }

def startRun (taskId : String) (snapshotId : Option String) : Op TaskRunRow := do
  let task ← taskRow taskId
  if task.status ≠ .ready then throw (.valueError "Task must be READY before starting a run")
  else
    let store ← get
    Action.ofExcept (validateSnapshotBinding store.toTables task snapshotId)
    let id ← Op.nextId .taskRun
    let _ ← Op.utcNow
    let run : TaskRunRow := { id := id, taskId := task.id, snapshotId := snapshotId, status := .running }
    addRun run
    let running ← writeTask (fun updatedAt =>
      { task with status := .running, updatedAt := updatedAt })
    auditTask running "TASK_RUN_STARTED" "start_run" "SUCCESS" (some id)
    return run

/-- The run a caller names, if it names one that exists. It may be a run of any task. -/
def namedRun (tables : Tables) (runId : Option String) : Option TaskRunRow :=
  (runId.filter (fun id => !id.toList.isEmpty)).bind tables.taskRuns.get?

def finishRun (runId : Option String) (finish : TaskRunRow → Timestamp → TaskRunRow) : Op Unit := do
  let store ← get
  match namedRun store.toTables runId with
  | none => return ()
  | some run => do
      let finishedAt ← Op.utcNow
      modify (fun store => { store with taskRuns := store.taskRuns.put (finish run finishedAt) })

/-- The transitions that write a status, end the run they are told of, and say so. -/
def transition (taskId : String) (allowedFrom : List TaskStatus)
    (change : TaskRow → Timestamp → TaskRow) (finish : TaskRunRow → Timestamp → TaskRunRow)
    (eventType action result : String) (runId : Option String) : Op TaskRow := do
  let task ← taskRow taskId
  Action.ofExcept (ensureTransition task allowedFrom)
  let row ← writeTask (change task)
  finishRun runId finish
  auditTask row eventType action result runId
  return row

def blockTask (taskId : String) (code : BlockerCode) (message : String) : Op TaskRow := do
  let task ← taskRow taskId
  Action.ofExcept (ensureTransition task [.draft, .ready, .running, .blocked])
  let blocked ← applyBlocker task ⟨code, message⟩
  auditTask blocked "TASK_BLOCKED" "block_task" "BLOCKED" none
  return blocked

def failTask (taskId failureReason : String) (runId : Option String) : Op TaskRow :=
  transition taskId [.running, .blocked, .ready]
    (fun task updatedAt => { task with
      status := .failed, failureReason := some failureReason, updatedAt := updatedAt })
    (fun run finishedAt => { run with
      status := .failed, finishedAt := some finishedAt, failureReason := some failureReason })
    "TASK_FAILED" "fail_task" "FAILED" runId

def markImplementationComplete (taskId : String) (runId outputSummary : Option String) : Op TaskRow :=
  transition taskId [.running]
    (fun task updatedAt => { task with status := .implementationComplete, updatedAt := updatedAt })
    (fun run finishedAt => { run with
      status := .succeeded, finishedAt := some finishedAt, outputSummary := outputSummary })
    "TASK_IMPLEMENTATION_COMPLETE" "mark_implementation_complete" "SUCCESS" runId

def markDocumentationPending (taskId : String) : Op TaskRow :=
  transition taskId [.implementationComplete]
    (fun task updatedAt => { task with status := .documentationPending, updatedAt := updatedAt })
    (fun run _ => run) "TASK_DOCUMENTATION_PENDING" "mark_documentation_pending" "SUCCESS" none

def cancelTask (taskId : String) : Op TaskRow :=
  transition taskId [.draft, .ready, .running, .blocked]
    (fun task updatedAt => { task with status := .cancelled, updatedAt := updatedAt })
    (fun run _ => run) "TASK_CANCELLED" "cancel_task" "SUCCESS" none

def documentationCompletion (tables : Tables) (taskId : String) : Option DocumentationCompletionRow :=
  tables.documentationCompletions.rows.find? (fun row => row.taskId = taskId)

def recordDocumentationCompletion (taskId : String) (targetsCompleted evidenceReferences : List String) :
    Op DocumentationCompletionRow := do
  let task ← taskRow taskId
  let store ← get
  match documentationCompletion store.toTables task.id with
  | some existing => do
      let row := { existing with
        targetsCompleted := targetsCompleted, evidenceReferences := evidenceReferences }
      let _ ← Op.utcNow
      modify (fun store => { store with
        documentationCompletions := store.documentationCompletions.put row })
      return row
  | none => do
      let id ← Op.nextId .documentationCompletion
      let _ ← Op.utcNow
      let row : DocumentationCompletionRow := ⟨id, task.id, targetsCompleted, evidenceReferences⟩
      let current ← get
      if (current.documentationCompletions.get? row.id).isSome then throw .databaseError
      else
        set { current with documentationCompletions := current.documentationCompletions.add row }
        return row

/-- What the documentation of a task still lacks; the first lack is recorded. -/
def documentationGap (tables : Tables) (task : TaskRow) : Option (StructuredBlocker × Bool) :=
  match tables.activeContract task.id with
  | none => none
  | some contract =>
    if !contract.documentationRequired then none
    else
      let evidence : StructuredBlocker :=
        ⟨.documentationRequired, "Documentation evidence is required before Task completion."⟩
      match documentationCompletion tables task.id with
      | none => some (evidence, true)
      | some completion =>
        if task.status ≠ .documentationPending ∨ completion.evidenceReferences = [] then
          some (evidence, true)
        else if contract.documentationTargets.any (· ∉ completion.targetsCompleted) then
          some (⟨.documentationRequired, "Documentation targets are incomplete."⟩, false)
        else none

def completeTask (taskId : String) : Op (List StructuredBlocker) := do
  let task ← taskRow taskId
  Action.ofExcept (ensureTransition task [.implementationComplete, .documentationPending])
  let store ← get
  match documentationGap store.toTables task with
  | some (blocker, true) => do
      auditTask task "POLICY_BLOCK" "complete_task" "BLOCKED" none
      return [blocker]
  | some (blocker, false) => return [blocker]
  | none => do
      let complete ← writeTask (fun updatedAt =>
        { task with status := .complete, updatedAt := updatedAt })
      auditTask complete "TASK_COMPLETE" "complete_task" "SUCCESS" none
      return []

end Lucius.Tasks
