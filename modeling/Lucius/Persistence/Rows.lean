import Lucius.Lib.Action
import Lucius.Lib.Lists
import Lucius.Lib.Table
import Lucius.Domain.Enums
import Lucius.Domain.Json

/-! The rows the services share, and the session they share them through.

A timestamp counts microseconds of UTC; a naive one read back from the database
is one the readers complete with UTC. The clock and the random identifiers come
from the environment: reading one moves to the next. -/

namespace Lucius

open Lucius.Action

abbrev Timestamp := Nat

namespace Timestamp

def padded (width value : Nat) : String :=
  let digits := toString value
  String.ofList (List.replicate (width - digits.length) '0') ++ digits

/-- Year, month and day of a count of days since 1970-01-01. -/
def civil (days : Nat) : Nat × Nat × Nat :=
  let shifted := days + 719468
  let era := shifted / 146097
  let dayOfEra := shifted % 146097
  let yearOfEra := (dayOfEra - dayOfEra / 1460 + dayOfEra / 36524 - dayOfEra / 146096) / 365
  let dayOfYear := dayOfEra - (365 * yearOfEra + yearOfEra / 4 - yearOfEra / 100)
  let shiftedMonth := (5 * dayOfYear + 2) / 153
  let day := dayOfYear - (153 * shiftedMonth + 2) / 5 + 1
  let month := if shiftedMonth < 10 then shiftedMonth + 3 else shiftedMonth - 9
  (yearOfEra + era * 400 + (if month ≤ 2 then 1 else 0), month, day)

def civilText (timestamp : Timestamp) : String :=
  let seconds := timestamp / 1000000
  let fraction := timestamp % 1000000
  let (year, month, day) := civil (seconds / 86400)
  let ofDay := seconds % 86400
  padded 4 year ++ "-" ++ padded 2 month ++ "-" ++ padded 2 day ++ "T" ++
    padded 2 (ofDay / 3600) ++ ":" ++ padded 2 (ofDay / 60 % 60) ++ ":" ++ padded 2 (ofDay % 60) ++
    (if fraction = 0 then "" else "." ++ padded 6 fraction)

/-- `isoformat()`: the fraction of a second is left out when it is zero. -/
def isoformat (timestamp : Timestamp) : String := timestamp.civilText ++ "+00:00"

/-- A timestamp of a record dumped as JSON. -/
def jsonText (timestamp : Timestamp) : String := timestamp.civilText ++ "Z"

end Timestamp

structure ProjectRow where
  id : String
  name : String := ""
  slug : String := ""
  projectType : String := "DFG_INTERNAL"
  status : ProjectStatus := .active
  documentationPolicy : Dict := []

instance : Keyed ProjectRow String := ⟨ProjectRow.id⟩

structure RepositoryRegistrationRow where
  id : String
  projectId : String
  status : String := "ACTIVE"
  location : String := ""
  accessMode : String := "CANONICAL_INTEGRATION"

instance : Keyed RepositoryRegistrationRow String := ⟨RepositoryRegistrationRow.id⟩

structure ProjectRepositoryAttachmentRow where
  projectId : String
  repositoryId : String
  deriving DecidableEq

structure TaskRow where
  id : String
  projectId : String
  title : String := ""
  objective : String := ""
  authorityLevel : AuthorityLevel := .l0
  complexity : String := "T0"
  status : TaskStatus := .draft
  blockerCode : Option String := none
  blockerMessage : Option String := none
  blockedAt : Option Timestamp := none
  failureReason : Option String := none
  updatedAt : Timestamp := 0

instance : Keyed TaskRow String := ⟨TaskRow.id⟩

structure TaskContractRow where
  id : String
  taskId : String
  version : Nat := 1
  objective : String := ""
  acceptanceCriteria : List Dict := []
  constraints : List String := []
  repositoryIds : List String := []
  allowedActions : List String := []
  environment : Environment := .development
  authorityLevel : AuthorityLevel := .l0
  dependencies : List String := []
  documentationRequired : Bool := false
  documentationTargets : List String := []

instance : Keyed TaskContractRow String := ⟨TaskContractRow.id⟩

structure TaskRunRow where
  id : String
  taskId : String
  snapshotId : Option String := none
  status : TaskRunStatus := .running
  finishedAt : Option Timestamp := none
  outputSummary : Option String := none
  failureReason : Option String := none

instance : Keyed TaskRunRow String := ⟨TaskRunRow.id⟩

structure RepositorySnapshotRow where
  id : String
  repositoryId : String := ""
  commitSha : Option String := none
  branch : Option String := none
  isDirty : Bool := false
  manifestHash : String := ""
  manifest : Json := .obj []

instance : Keyed RepositorySnapshotRow String := ⟨RepositorySnapshotRow.id⟩

structure DocumentationCompletionRow where
  id : String
  taskId : String
  targetsCompleted : List String := []
  evidenceReferences : List String := []

instance : Keyed DocumentationCompletionRow String := ⟨DocumentationCompletionRow.id⟩

structure EvidenceReferenceRow where
  id : String
  projectId : String
  repositoryId : String := ""
  snapshotId : String := ""
  sourceType : String := ""
  path : String := ""
  snippet : Option String := none
  relevanceScore : Rat := 0
  matchReasons : List String := []

instance : Keyed EvidenceReferenceRow String := ⟨EvidenceReferenceRow.id⟩

structure MemoryEntryRow where
  id : String
  projectId : Option String := none
  scope : KnowledgeScope
  statement : String := ""
  sourceReference : Option String := none
  sourceProjectId : Option String := none
  sourceTaskId : Option String := none
  sourceRunId : Option String := none
  sourceEvidenceIds : List String := []
  confidence : Rat := 0
  validationStatus : ValidationStatus := .observed
  contextTags : List String := []
  technologyTags : List String := []
  supersedesId : Option String := none
  supersededById : Option String := none
  requiresRevalidation : Bool := false
  revalidationReason : Option String := none
  deriving DecidableEq

instance : Keyed MemoryEntryRow String := ⟨MemoryEntryRow.id⟩

structure LearningCandidateRow where
  id : String
  projectId : Option String := none
  taskId : Option String := none
  runId : Option String := none
  statement : String := ""
  evidenceIds : List String := []
  sourceMemoryIds : List String := []
  sourceDocumentRefs : List String := []
  confidence : Rat := 0
  status : LearningCandidateStatus := .pending
  sanitizationStatus : SanitizationStatus
  sourceClassification : KnowledgeFirewallClassification
  deriving DecidableEq

instance : Keyed LearningCandidateRow String := ⟨LearningCandidateRow.id⟩

/-- A plan, with the contract it was made for, which the program does not keep. What
only the checks of a freeze read is the rest of its content. -/
structure EngineeringPlanRow where
  id : String
  taskId : String
  projectId : String
  taskContractId : String := ""
  taskContractVersion : Nat := 1
  version : Nat := 1
  status : EngineeringPlanStatus := .proposed
  requiredAuthorityLevel : String := "L0"
  riskLevel : String := "LOW"
  repositorySnapshotIds : List String := []
  evidenceIds : List String := []
  affectedFiles : List Dict := []
  deterministicAcceptanceChecks : List Dict := []
  blockers : List Dict := []
  content : Dict := []
  supersedesPlanId : Option String := none
  supersededByPlanId : Option String := none
  plannedFor : Option TaskContractRow := none

instance : Keyed EngineeringPlanRow String := ⟨EngineeringPlanRow.id⟩

structure PlanFreezeRow where
  id : String
  planId : String
  taskId : String
  projectId : String
  commitSha : Option String := none
  planPayload : Json := .obj []

instance : Keyed PlanFreezeRow String := ⟨PlanFreezeRow.id⟩

structure PersistentWorkflowRow where
  id : String
  projectId : Option String := none
  repositoryId : Option String := none
  repositorySnapshotId : Option String := none
  taskId : Option String := none
  planId : Option String := none
  planFreezeId : Option String := none
  objective : String := ""
  expectedMainHead : String := ""
  worktreePath : String := ""
  workflowState : PersistentWorkflowState := .objectiveAccepted
  authorityTier : String := ""
  taskBacklog : List Dict := []
  dependencyGraph : Dict := []
  decisions : List Json := []
  activeTaskId : Option String := none
  completedTaskIds : List String := []
  pendingTaskIds : List String := []
  repairCounters : Dict := []
  checkpointHistory : List Json := []
  updatedAt : Timestamp := 0

instance : Keyed PersistentWorkflowRow String := ⟨PersistentWorkflowRow.id⟩

structure WorkflowCheckpointRow where
  id : String
  workflowId : String

instance : Keyed WorkflowCheckpointRow String := ⟨WorkflowCheckpointRow.id⟩

structure DurableMissionRow where
  id : String
  canonicalSha : String
  status : MissionStatus := .active
  completedTasksCount : Nat := 0
  waitingTasksCount : Nat := 0
  blockedTasksCount : Nat := 0
  createdAt : Timestamp := 0
  updatedAt : Timestamp := 0
  missionMetadata : Dict := []

instance : Keyed DurableMissionRow String := ⟨DurableMissionRow.id⟩

structure DurableWaitRow where
  id : String
  missionId : String
  itemId : Option String := none
  taskId : Option String := none
  waitClass : String
  reason : String := ""
  retryAfter : Option Timestamp := none
  clearedAt : Option Timestamp := none
  isCleared : Bool := false
  createdAt : Timestamp := 0
  waitMetadata : Dict := []

instance : Keyed DurableWaitRow String := ⟨DurableWaitRow.id⟩

structure ModelExecutionRow where
  id : String
  requestId : String
  projectId : Option String := none
  taskId : Option String := none
  runId : Option String := none
  providerId : String
  model : Option String := none
  status : String
  capabilities : List String := []
  fallbackUsed : Bool := false
  attemptNumber : Nat := 1
  errorCode : Option String := none

instance : Keyed ModelExecutionRow String := ⟨ModelExecutionRow.id⟩

structure ControlledCommitRow where
  id : String
  workflowId : String
  projectId : Option String := none
  repositoryId : String
  taskId : String
  planFreezeId : String
  baselineCommitSha : String
  parentCommitSha : String
  resultingCommitSha : String
  authorizedPaths : List String := []
  actualChangedPaths : List String := []
  pathContentHashes : List (String × String) := []
  manifestHash : String
  commitMessage : String
  status : String

instance : Keyed ControlledCommitRow String := ⟨ControlledCommitRow.id⟩

structure AuditEventRow where
  id : String
  eventType : String
  projectId : Option String
  repositoryId : Option String
  taskId : Option String
  runId : Option String
  action : String
  result : String
  timestamp : Timestamp
  deriving DecidableEq

inductive Entity where
  | project | repository | task | taskContract | taskRun | documentationCompletion
  | engineeringPlan | planFreeze | persistentWorkflow | workflowCheckpoint | resumeValidation
  | queueCheckpoint | memory | learning | modelExecution | controlledCommit | audit
  deriving DecidableEq, Repr

def Entity.idPrefix : Entity → String
  | .project => "LPROJ"
  | .repository => "LREPO"
  | .task => "LTASK"
  | .taskContract => "LCONTR"
  | .taskRun => "LRUN"
  | .documentationCompletion => "LDOC"
  | .engineeringPlan => "LPLAN"
  | .planFreeze => "LFREEZE"
  | .persistentWorkflow => "LWORK"
  | .workflowCheckpoint => "LWCHK"
  | .resumeValidation => "LRESUME"
  | .queueCheckpoint => "LQCHK"
  | .memory => "LMEM"
  | .learning => "LLEARN"
  | .modelExecution => "LMEXEC"
  | .controlledCommit => "LCOMMIT"
  | .audit => "LAUDIT"

def formatPublicId (entity : Entity) (number : Nat) : String :=
  entity.idPrefix ++ "_" ++ Timestamp.padded 6 number

structure Tables where
  projects : Table ProjectRow := .empty
  repositories : Table RepositoryRegistrationRow := .empty
  attachments : List ProjectRepositoryAttachmentRow := []
  snapshots : Table RepositorySnapshotRow := .empty
  tasks : Table TaskRow := .empty
  contracts : Table TaskContractRow := .empty
  taskRuns : Table TaskRunRow := .empty
  documentationCompletions : Table DocumentationCompletionRow := .empty
  evidence : Table EvidenceReferenceRow := .empty
  memories : Table MemoryEntryRow := .empty
  learningCandidates : Table LearningCandidateRow := .empty
  plans : Table EngineeringPlanRow := .empty
  freezes : Table PlanFreezeRow := .empty
  workflows : Table PersistentWorkflowRow := .empty
  checkpoints : Table WorkflowCheckpointRow := .empty
  missions : Table DurableMissionRow := .empty
  waits : Table DurableWaitRow := .empty
  modelExecutions : Table ModelExecutionRow := .empty
  controlledCommits : Table ControlledCommitRow := .empty

/-- The contract of a task that counts: its latest version. -/
def Tables.activeContract (tables : Tables) (taskId : String) : Option TaskContractRow :=
  (sortedBy TaskContractRow.version
    (tables.contracts.rows.filter (fun row => row.taskId = taskId)).reverse).getLast?

/-- `issued` is the highest number of an entity a counter or a persisted row
holds, so the next identifier is one past it. -/
structure Store extends Tables where
  audits : List AuditEventRow := []
  issued : Entity → Nat := fun _ => 0
  clock : Nat → Timestamp := fun _ => 0
  ticks : Nat := 0
  draws : Nat → String := fun draw => Timestamp.padded 12 draw
  drawn : Nat := 0

abbrev Op (α : Type) := Action Store PyExc α

structure AuditDraft where
  eventType : String
  projectId : Option String := none
  repositoryId : Option String := none
  taskId : Option String := none
  runId : Option String := none
  action : String
  result : String

namespace Store

def now (store : Store) : Timestamp := store.clock store.ticks

def tick (store : Store) : Store := { store with ticks := store.ticks + 1 }

def nextNumber (store : Store) (entity : Entity) : Nat := store.issued entity + 1

def issue (store : Store) (entity : Entity) : Store :=
  { store with
    issued := fun other => if other = entity then store.issued entity + 1 else store.issued other }

def auditRow (store : Store) (draft : AuditDraft) : AuditEventRow where
  id := formatPublicId .audit (store.nextNumber .audit)
  eventType := draft.eventType
  projectId := draft.projectId
  repositoryId := draft.repositoryId
  taskId := draft.taskId
  runId := draft.runId
  action := draft.action
  result := draft.result
  timestamp := store.now

def record (store : Store) (draft : AuditDraft) : Store :=
  { (store.issue .audit).tick with audits := store.audits ++ [store.auditRow draft] }

@[simp] theorem tick_tables (store : Store) : store.tick.toTables = store.toTables := rfl
@[simp] theorem issue_tables (store : Store) (entity : Entity) :
    (store.issue entity).toTables = store.toTables := rfl
@[simp] theorem record_tables (store : Store) (draft : AuditDraft) :
    (store.record draft).toTables = store.toTables := rfl

end Store

namespace Op

def utcNow : Op Timestamp := do
  let store ← get
  set store.tick
  return store.now

def nowIso : Op String := do
  return (← utcNow).isoformat

def nextId (entity : Entity) : Op String := do
  let store ← get
  set (store.issue entity)
  return formatPublicId entity (store.nextNumber entity)

/-- Twelve hexadecimal digits of a random identifier. -/
def uuid : Op String := do
  let store ← get
  set { store with drawn := store.drawn + 1 }
  return store.draws store.drawn

def record (draft : AuditDraft) : Op Unit := modify (fun store => store.record draft)

def putWorkflow (row : PersistentWorkflowRow) : Op Unit :=
  modify (fun store => { store with workflows := store.workflows.put row })

/-- A row whose key is taken is refused by the database. -/
def addCheckpoint (row : WorkflowCheckpointRow) : Op Unit := do
  let store ← get
  if (store.checkpoints.get? row.id).isSome then throw .databaseError
  else set { store with checkpoints := store.checkpoints.add row }

@[simp] theorem exec_utcNow (store : Store) :
    exec utcNow store = (.ok store.now, store.tick) := rfl

@[simp] theorem exec_nowIso (store : Store) :
    exec nowIso store = (.ok store.now.isoformat, store.tick) := rfl

@[simp] theorem exec_nextId (entity : Entity) (store : Store) :
    exec (nextId entity) store =
      (.ok (formatPublicId entity (store.nextNumber entity)), store.issue entity) := rfl

@[simp] theorem exec_uuid (store : Store) :
    exec uuid store =
      (.ok (store.draws store.drawn), { store with drawn := store.drawn + 1 }) := rfl

@[simp] theorem exec_record (draft : AuditDraft) (store : Store) :
    exec (record draft) store = (.ok (), store.record draft) := rfl

@[simp] theorem exec_putWorkflow (row : PersistentWorkflowRow) (store : Store) :
    exec (putWorkflow row) store =
      (.ok (), { store with workflows := store.workflows.put row }) := rfl

end Op

/-- No row is written: at most the clock, the counters and the audit events are. -/
def SameTables (before after : Store) : Prop := after.toTables = before.toTables

theorem sameTables_refl (store : Store) : SameTables store store := rfl

theorem sameTables_trans (first second third : Store) (one : SameTables first second)
    (two : SameTables second third) : SameTables first third := Eq.trans two one

theorem record_same (draft : AuditDraft) : Action.Respects SameTables (Op.record draft) :=
  fun _ => rfl

theorem nextId_same (entity : Entity) : Action.Respects SameTables (Op.nextId entity) := fun _ => rfl

theorem utcNow_same : Action.Respects SameTables Op.utcNow := fun _ => rfl

theorem nowIso_same : Action.Respects SameTables Op.nowIso := fun _ => rfl

theorem get_same : Action.Respects SameTables (get : Op Store) :=
  respects_get sameTables_refl

end Lucius
