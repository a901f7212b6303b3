import Lucius.Runtime.Schemas
import Mathlib.Data.Prod.Lex

/-! The execution request the router makes of a dispatched queue item.

The item says what is asked for and whether it may change files; which files, and the
checks they have to pass, come from the frozen plan. -/

namespace Lucius.Router

open Worktree Acceptance Lucius.Action

structure RouterSettings where
  maxProviderRetries : Nat := 0
  maxFailovers : Nat := 0
  defaultExecutionSupervision : RuntimeExecutionSupervision := .unsupervised
  intField : Json → Option Int

def readOnlyTaskTypes : List String := ["inspection", "reasoning", "analysis", "read_only_engineering"]

/-- `str.lower`, of ASCII letters. -/
def lower (text : String) : String := String.ofList (text.toList.map Char.toLower)

def queueItemIsReadOnly (queueItem : Dict) : Bool :=
  (queueItem.get "read_only").isTrue ||
    (match queueItem.get "mutation_allowed" with
      | .bool allowed => !allowed
      | _ => false) ||
    decide (lower (queueItem.getOr "task_type" (.str "")).pyStr ∈ readOnlyTaskTypes)

def queueItemIsUnattended (queueItem : Dict) : Bool :=
  (queueItem.getOr "unattended" (queueItem.getOr "unattended_eligible" (.bool false))).truthy

/-- The normal form of a frozen path, if it is a path inside the repository. -/
def normalizeFrozenMutationPath (rawPath : Json) : Option String :=
  match rawPath with
  | .str text =>
    let candidate := Json.strip text.toList
    let parts := pathParts (String.ofList candidate)
    if candidate.isEmpty || decide ('\\' ∈ candidate) || decide (candidate.head? = some '/') ||
        decide (['.', '.'] ∈ parts) || parts.isEmpty then none
    else some (asPosix parts)
  | _ => none

def frozenPathsFrom (seen : List String) : List Json → Option (List String)
  | [] => some []
  | .obj members :: rest =>
    match normalizeFrozenMutationPath (Dict.get members "path") with
    | none => none
    | some path =>
      if path ∈ seen then frozenPathsFrom seen rest
      else (frozenPathsFrom (path :: seen) rest).map (path :: ·)
  | _ :: _ => none

structure FrozenMutationScope where
  paths : List String := []
  checks : List Check := []
  error : Option String := none
  deriving DecidableEq

def frozenAcceptanceErrorCodes : List (String × String) :=
  [("INVALID_DETERMINISTIC_ACCEPTANCE_CHECKS", "INVALID_FROZEN_DETERMINISTIC_ACCEPTANCE_CHECKS"),
    ("INVALID_DETERMINISTIC_ACCEPTANCE_CHECK", "INVALID_FROZEN_DETERMINISTIC_ACCEPTANCE_CHECK"),
    ("UNSUPPORTED_DETERMINISTIC_ACCEPTANCE_CHECK",
      "UNSUPPORTED_FROZEN_DETERMINISTIC_ACCEPTANCE_CHECK"),
    ("INVALID_DETERMINISTIC_ACCEPTANCE_PATH", "INVALID_FROZEN_DETERMINISTIC_ACCEPTANCE_PATH"),
    ("DETERMINISTIC_ACCEPTANCE_PATH_OUTSIDE_SCOPE",
      "DETERMINISTIC_ACCEPTANCE_PATH_OUTSIDE_MUTATION_SCOPE"),
    ("DUPLICATE_DETERMINISTIC_ACCEPTANCE_CHECK", "DUPLICATE_FROZEN_DETERMINISTIC_ACCEPTANCE_CHECK"),
    ("INVALID_DETERMINISTIC_ACCEPTANCE_EXPECTED_TEXT",
      "INVALID_FROZEN_DETERMINISTIC_ACCEPTANCE_EXPECTED_TEXT")]

def frozenAcceptanceErrorCode (code : String) : String :=
  ((frozenAcceptanceErrorCodes.find? (fun entry => entry.1 = code)).map Prod.snd).getD code

/-- The exceptions of the normalisation that are not its own error. -/
def acceptanceExc : WorkspaceExc → PyExc
  | .acceptance code _ => .deterministicAcceptanceError code
  | .typeError => .typeError
  | .keyError => .keyError
  | .valueError message => .valueError message
  | .gitMutation code _ => .gitMutationError code
  | .osError => .osError
  | .decodeError => .unicodeError
  | .databaseError => .databaseError
  | .assertionError => .assertionError
  | .integrationBlocked reason => .integrationBlocked reason

/-- The frozen checks over the frozen paths. -/
def frozenChecks (payload : Dict) (paths : List String) (requireDeterministicAcceptance : Bool) :
    Except PyExc FrozenMutationScope :=
  match payload.getOr "deterministic_acceptance_checks" (.arr []) with
  | .arr rawChecks =>
    match normalizeDeterministicAcceptanceChecks paths (.arr rawChecks) with
    | .error (.acceptance code _) =>
      .ok { paths := paths, error := some (frozenAcceptanceErrorCode code) }
    | .error other => .error (acceptanceExc other)
    | .ok checks =>
      if requireDeterministicAcceptance && checks.isEmpty then
        .ok { paths := paths, error := some "MISSING_FROZEN_DETERMINISTIC_ACCEPTANCE_CHECK" }
      else .ok { paths := paths, checks := checks }
  | _ => .ok { paths := paths, error := some "INVALID_FROZEN_DETERMINISTIC_ACCEPTANCE_CHECKS" }

def payloadScope (planPayload : Json) (requireDeterministicAcceptance : Bool) :
    Except PyExc FrozenMutationScope :=
  let payload : Dict := match planPayload with
    | .obj members => members
    | _ => []
  match payload.get "affected_files" with
  | .arr affectedFiles =>
    match frozenPathsFrom [] affectedFiles with
    | none => .ok { error := some "INVALID_FROZEN_AFFECTED_FILES" }
    | some [] => .ok { error := some "EMPTY_FROZEN_MUTATION_SCOPE" }
    | some (first :: rest) => frozenChecks payload (first :: rest) requireDeterministicAcceptance
  | _ => .ok { error := some "INVALID_FROZEN_AFFECTED_FILES" }

def frozenMutationScope (tables : Tables) (planId planFreezeId : String)
    (readOnly requireDeterministicAcceptance : Bool) : Except PyExc FrozenMutationScope :=
  if readOnly then .ok {}
  else
    match tables.freezes.get? planFreezeId with
    | none => .ok { error := some "PLAN_FREEZE_NOT_FOUND" }
    | some freeze =>
      if freeze.planId ≠ planId then .ok { error := some "PLAN_FREEZE_PLAN_MISMATCH" }
      else payloadScope freeze.planPayload requireDeterministicAcceptance

abbrev AuditKey := ℕ ×ₗ String

def auditKey (row : AuditEventRow) : AuditKey := toLex (row.timestamp, row.id)

/-- The newest event of a kind about a task. -/
def latestTaskEvent (audits : List AuditEventRow) (taskId eventType : String) :
    Option AuditEventRow :=
  (sortedBy auditKey (audits.filter
    (fun row => decide (row.taskId = some taskId ∧ row.eventType = eventType)))).getLast?

def releaseEvidenceRefs (store : Store) (taskId planId planFreezeId : String) : List String :=
  [planId, planFreezeId] ++ ((latestTaskEvent store.audits taskId "TASK_READY").map (·.id)).toList

def nonEmpty (text : Option String) : Option String :=
  text.filter (fun value => !value.toList.isEmpty)

/-- Capabilities under the names of the request. -/
def normalizedCapability (capability : Json) : String :=
  if capability.pyStr = "code_mutation" then "code_modification" else capability.pyStr

def requiredCapabilities (queueItem : Dict) (readOnly : Bool) : Except PyExc (List String) :=
  match queueItem.get "required_capabilities" with
  | .null => .ok (if readOnly then ["inspection_reasoning"] else ["code_modification"])
  | listed => do return (← listed.pyIter).map normalizedCapability

def executionSupervision (settings : RouterSettings) (queueItem : Dict) :
    Except PyExc RuntimeExecutionSupervision :=
  match queueItem.lookup "execution_supervision" with
  | none => .ok settings.defaultExecutionSupervision
  | some raw =>
    match StrEnum.ofValue? raw.pyStr with
    | some supervision => .ok supervision
    | none =>
      .error (.valueError (Json.reprStr raw.pyStr ++
        " is not a valid RuntimeExecutionSupervision"))

def optionalIntField (settings : RouterSettings) (value : Json) : Except PyExc (Option Int) :=
  match value with
  | .null => .ok none
  | other =>
    match settings.intField other with
    | some number => .ok (some number)
    | none => .error .validationError

def requestMetadata (queueItem contextLimits : Dict) (mutationScopeError : Option String) :
    RequestMetadata where
  taskComplexityExplicit := queueItem.has "task_complexity" || queueItem.has "complexity"
  taskRiskExplicit := queueItem.has "task_risk" || queueItem.has "risk"
  isolationModeExplicit := queueItem.has "isolation_mode"
  deterministicVerificationExplicit := contextLimits.has "deterministic_verification"
  mutationScopeError := mutationScopeError

/-- The request of an item whose task and plan are known. -/
def boundRequest (settings : RouterSettings) (store : Store) (context : RuntimeExecutionContext)
    (executionId taskId planId planFreezeId : String) : Except PyExc RuntimeExecutionRequest := do
  let queueItem := context.queueItem
  let contextLimits ← (queueItem.getOr "context_limits" (.obj [])).pyDict
  let readOnly := queueItemIsReadOnly queueItem
  let unattended := queueItemIsUnattended queueItem
  let scope ← frozenMutationScope store.toTables planId planFreezeId readOnly (unattended && !readOnly)
  let supervision ← executionSupervision settings queueItem
  let capabilities ← requiredCapabilities queueItem readOnly
  let tools ← (queueItem.getOr "tool_requirements" (.arr [])).pyIter
  let _ ← (queueItem.getOr "budget_policy" (.obj [])).pyDict
  let timeoutSeconds ← optionalIntField settings (queueItem.get "timeout_seconds")
  return {
    executionId := executionId
    taskId := taskId
    workflowId := context.workflowId
    itemId := context.itemId
    logicalTaskId := context.logicalTaskId
    planId := planId
    planFreezeId := planFreezeId
    projectId := context.projectId
    repositoryId := context.repositoryId
    isolatedWorkspace := context.worktreePath
    taskIntent := (nonEmpty context.title).getD context.workflowObjective
    allowedMutationScope := context.authorityTier
    allowedMutationPaths := scope.paths
    deterministicAcceptanceChecks := scope.checks
    requiredCapabilities := capabilities
    taskType := (queueItem.getOr "task_type" (.str "engineering")).pyStr
    taskComplexity := (queueItem.getOr "task_complexity"
      (queueItem.getOr "complexity" (.str "T1"))).pyStr
    taskRisk := (queueItem.getOr "task_risk" (queueItem.getOr "risk" (.str "LOW"))).pyStr
    unattended := unattended
    readOnly := readOnly
    executionSupervision := supervision
    toolRequirements := tools.map Json.pyStr
    isolationMode := (queueItem.getOr "isolation_mode" (.str "ISOLATED_WORKTREE")).pyStr
    contextLimits := contextLimits
    timeoutSeconds := timeoutSeconds
    releaseEvidenceRefs := releaseEvidenceRefs store taskId planId planFreezeId
    metadata := requestMetadata queueItem contextLimits scope.error }

def requestFromContext (settings : RouterSettings) (context : RuntimeExecutionContext) :
    Op RuntimeExecutionRequest :=
  match nonEmpty context.workflowTaskId with
  | none => throw (.valueError "Runtime execution context must include a bound task id.")
  | some taskId =>
    match nonEmpty context.planId, nonEmpty context.planFreezeId with
    | some planId, some planFreezeId => do
        let executionId ← Op.nextId .modelExecution
        let store ← get
        Action.ofExcept (boundRequest settings store context executionId taskId planId planFreezeId)
    | _, _ => throw (.valueError "Runtime execution context must include frozen plan references.")

/-- What the request says of its mode and its scope. -/
structure RequestScope (tables : Tables) (context : RuntimeExecutionContext)
    (request : RuntimeExecutionRequest) (scope : FrozenMutationScope) : Prop where
  frozen : ∃ planId planFreezeId, nonEmpty context.planId = some planId ∧
    nonEmpty context.planFreezeId = some planFreezeId ∧
    frozenMutationScope tables planId planFreezeId (queueItemIsReadOnly context.queueItem)
      (queueItemIsUnattended context.queueItem && !queueItemIsReadOnly context.queueItem) = .ok scope
  readOnly : request.readOnly = queueItemIsReadOnly context.queueItem
  unattended : request.unattended = queueItemIsUnattended context.queueItem
  paths : request.allowedMutationPaths = scope.paths
  checks : request.deterministicAcceptanceChecks = scope.checks
  error : request.metadata.mutationScopeError = scope.error

theorem boundRequest_ok {settings : RouterSettings} {store : Store} {context : RuntimeExecutionContext}
    {executionId taskId planId planFreezeId : String} {request : RuntimeExecutionRequest}
    (plan : nonEmpty context.planId = some planId)
    (freeze : nonEmpty context.planFreezeId = some planFreezeId)
    (done : boundRequest settings store context executionId taskId planId planFreezeId = .ok request) :
    ∃ scope, RequestScope store.toTables context request scope := by
  unfold boundRequest at done
  obtain ⟨_, _, done⟩ := except_bind_ok done
  obtain ⟨scope, read, done⟩ := except_bind_ok done
  obtain ⟨_, _, done⟩ := except_bind_ok done
  obtain ⟨_, _, done⟩ := except_bind_ok done
  obtain ⟨_, _, done⟩ := except_bind_ok done
  obtain ⟨_, _, done⟩ := except_bind_ok done
  obtain ⟨_, _, done⟩ := except_bind_ok done
  cases done
  exact ⟨scope, ⟨planId, planFreezeId, plan, freeze, read⟩, rfl, rfl, rfl, rfl, rfl⟩

theorem requestFromContext_ok {settings : RouterSettings} {context : RuntimeExecutionContext}
    {store left : Store} {request : RuntimeExecutionRequest}
    (done : Action.exec (requestFromContext settings context) store = (.ok request, left)) :
    ∃ scope, RequestScope store.toTables context request scope := by
  unfold requestFromContext at done
  split at done
  · cases done
  · split at done
    · next plan freeze =>
        rw [exec_bind_of_ok (Op.exec_nextId _ _), exec_get_bind,
          exec_ofExcept] at done
        obtain ⟨scope, is⟩ := boundRequest_ok plan freeze (Prod.mk.inj done).1
        exact ⟨scope, ⟨is.frozen, is.readOnly, is.unattended, is.paths, is.checks, is.error⟩⟩
    · cases done

end Lucius.Router
