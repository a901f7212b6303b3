import Lucius.Runtime.DeterministicAcceptance

/-! The integration of frozen candidate content into a canonical working tree.

What the operating system, Git and the database do at each point of a call is a
parameter: any of them may fail at any of its steps. -/

namespace Lucius.Integration

open Worktree Acceptance

structure CanonicalIntegrationRequest where
  workflowId : String
  canonicalRepositoryPath : String
  candidateWorkspacePath : String
  expectedBaselineCommit : String
  accessMode : RepositoryAccessMode := .canonicalIntegration
  authorityLevel : AuthorityLevel := .l1

inductive IntegrationStatus where
  | completed | failed | rollbackFailed
  deriving DecidableEq, Repr

structure CanonicalIntegrationResult where
  status : IntegrationStatus
  workflowId : String
  reason : Option String := none
  baselineCommit : Option String := none
  canonicalHead : Option String := none
  authorizedPaths : List String := []
  candidateChangedPaths : List String := []
  appliedPaths : List String := []
  actualChangedPaths : List String := []
  protectedUntrackedHashes : List (String × String) := []
  deterministicAcceptance : List Verification := []
  rollbackAttempted : Bool := false
  rollbackSucceeded : Bool := false

/-- The points of a call at which something is read. -/
inductive Reading where
  | canonicalHead | stagedPaths | trackedPaths | untrackedHashes
  | candidateHead | candidateChanges | candidateAcceptance | candidateCapture | validation
  | appliedChanges | appliedHashes | appliedAcceptance | completedHead
  | baseline | restoredHead | restoredHashes | restoredChanges | rollbackFailedHead | failedHead
  deriving DecidableEq, Repr

structure Environment where
  host : Host
  canonical : Checkout
  candidate : Checkout
  sha256 : Bytes → String
  resolvePath : String → String
  candidateCommands : Commands
  canonicalCommands : Commands
  fault : Reading → Option ReadFault
  writes : WriteFaults
  canonicalDirectories : String → Bool
  auditFault : String → Bool
  flushFault : Bool

structure World where
  store : Store
  canonical : Files
  candidate : Files

abbrev Integrating (α : Type) := Action World WorkspaceExc α

def blocked (reason : String) : WorkspaceExc := .integrationBlocked reason

/-- The exceptions `integrate` turns into a result. -/
def handled : WorkspaceExc → Bool
  | .gitMutation _ _ => true
  | .acceptance _ _ => true
  | .integrationBlocked _ => true
  | _ => false

def message : WorkspaceExc → String
  | .gitMutation _ text => text
  | .acceptance _ text => text
  | .integrationBlocked reason => reason
  | _ => ""

def auditEvent (env : Environment) (request : CanonicalIntegrationRequest)
    (eventType result : String) : Integrating Unit := do
  if env.auditFault eventType then throw .databaseError
  else
    modify (fun world =>
      let workflow := world.store.workflows.get? request.workflowId
      { world with store := world.store.record {
          eventType := eventType
          projectId := workflow.bind (·.projectId)
          repositoryId := workflow.bind (·.repositoryId)
          taskId := workflow.bind (·.taskId)
          action := "controlled_canonical_integration"
          result := result } })

/-- A reference that is absent or empty names no row. -/
def reference (id : Option String) : Option String := id.filter (fun text => !text.toList.isEmpty)

def authorityRank (value : String) : Nat :=
  match (StrEnum.ofValue? value : Option AuthorityLevel) with
  | some .l0 => 0
  | some .l1 => 1
  | some .l2 => 2
  | some .l3 => 3
  | none => 99

/-- The rows a call is about. -/
structure FrozenWork where
  workflow : PersistentWorkflowRow
  plan : EngineeringPlanRow
  freeze : PlanFreezeRow
  repository : RepositoryRegistrationRow

def frozenPlan (tables : Tables) (workflow : PersistentWorkflowRow) :
    Except WorkspaceExc (EngineeringPlanRow × PlanFreezeRow) :=
  match (reference workflow.taskId).bind tables.tasks.get? with
  | none => .error (blocked "WORKFLOW_TASK_RELATIONSHIP_INVALID")
  | some task =>
    if some task.projectId ≠ workflow.projectId then
      .error (blocked "WORKFLOW_TASK_RELATIONSHIP_INVALID")
    else
      match (reference workflow.planId).bind tables.plans.get?,
          (reference workflow.planFreezeId).bind tables.freezes.get? with
      | some plan, some freeze =>
        if plan.taskId ≠ task.id ∨ freeze.taskId ≠ task.id ∨ freeze.planId ≠ plan.id then
          .error (blocked "FROZEN_PLAN_RELATIONSHIP_INVALID")
        else if some plan.projectId ≠ workflow.projectId ∨
            some freeze.projectId ≠ workflow.projectId then
          .error (blocked "FROZEN_PLAN_PROJECT_MISMATCH")
        else if authorityRank plan.requiredAuthorityLevel > authorityRank (StrEnum.value AuthorityLevel.l1) then
          .error (blocked "PLAN_AUTHORITY_EXCEEDS_L1")
        else .ok (plan, freeze)
      | _, _ => .error (blocked "FROZEN_PLAN_REQUIRED")

def attachedRepository (tables : Tables) (workflow : PersistentWorkflowRow) :
    Except WorkspaceExc RepositoryRegistrationRow :=
  if workflow.authorityTier ≠ StrEnum.value AuthorityLevel.l1 then
    .error (blocked "WORKFLOW_L1_AUTHORITY_REQUIRED")
  else
    match (reference workflow.repositoryId).bind tables.repositories.get? with
    | none => .error (blocked "REPOSITORY_REQUIRED")
    | some repository =>
      if repository.accessMode ≠ StrEnum.value RepositoryAccessMode.canonicalIntegration then
        .error (blocked "REPOSITORY_ACCESS_MODE_NOT_CANONICAL_INTEGRATION")
      else if tables.attachments.any (fun attachment =>
          decide (some attachment.projectId = workflow.projectId) &&
            decide (attachment.repositoryId = repository.id)) = false then
        .error (blocked "REPOSITORY_NOT_ATTACHED_TO_PROJECT")
      else .ok repository

/-- What the request and the database say, before anything is read from a tree. -/
def frozenWork (tables : Tables) (request : CanonicalIntegrationRequest) :
    Except WorkspaceExc FrozenWork :=
  if request.accessMode ≠ .canonicalIntegration then
    .error (blocked "CANONICAL_INTEGRATION_ACCESS_MODE_REQUIRED")
  else if request.authorityLevel ≠ .l1 then .error (blocked "L1_AUTHORITY_REQUIRED")
  else
    match tables.workflows.get? request.workflowId with
    | none => .error (blocked "WORKFLOW_NOT_FOUND")
    | some workflow =>
      if workflow.workflowState ≠ .completedPendingIntegration then
        .error (blocked "WORKFLOW_NOT_COMPLETED_PENDING_INTEGRATION")
      else do
        let (plan, freeze) ← frozenPlan tables workflow
        let repository ← attachedRepository tables workflow
        return ⟨workflow, plan, freeze, repository⟩

def requireRoots (resolvePath : String → String) (request : CanonicalIntegrationRequest)
    (work : FrozenWork) : Except WorkspaceExc Unit :=
  let canonicalRoot := resolvePath request.canonicalRepositoryPath
  let candidateRoot := resolvePath request.candidateWorkspacePath
  if canonicalRoot ≠ resolvePath work.repository.location then
    .error (blocked "CANONICAL_REPOSITORY_PATH_MISMATCH")
  else if candidateRoot ≠ resolvePath work.workflow.worktreePath then
    .error (blocked "CANDIDATE_WORKSPACE_MISMATCH")
  else if candidateRoot = canonicalRoot then
    .error (blocked "CANDIDATE_WORKSPACE_MUST_BE_ISOLATED")
  else if (reference work.freeze.commitSha).isNone then
    .error (blocked "FROZEN_BASELINE_COMMIT_REQUIRED")
  else if work.freeze.commitSha ≠ some request.expectedBaselineCommit then
    .error (blocked "REQUEST_BASELINE_DOES_NOT_MATCH_FREEZE")
  else .ok ()

/-- The head of the canonical repository and the hashes of its untracked files. -/
def protectedState (env : Environment) (canonical : Files) (expectedBaselineCommit : String) :
    Except WorkspaceExc (String × List (String × String)) := do
  let canonicalHead ← currentHead (env.fault .canonicalHead) env.canonical
  if canonicalHead ≠ expectedBaselineCommit then throw (blocked "CANONICAL_HEAD_DRIFT")
  else
    let staged ← stagedPaths (env.fault .stagedPaths) env.canonical
    if !staged.isEmpty then throw (blocked "PREEXISTING_STAGED_CHANGES")
    else
      let tracked ← trackedWorktreePaths (env.fault .trackedPaths) env.canonical canonical
      if !tracked.isEmpty then throw (blocked "PREEXISTING_TRACKED_CHANGES")
      else
        let hashes ← captureUntrackedFileHashes (env.fault .untrackedHashes) env.sha256 env.canonical
          canonical
        return (canonicalHead, hashes)

def authorizedPath (item : Json) : Except WorkspaceExc String :=
  match item with
  | .obj members =>
    match validateRelativeRepoPath (Dict.get members "path") with
    | .ok path => .ok path
    | .error (.gitMutation _ _) => .error (blocked "INVALID_FROZEN_AFFECTED_FILES")
    | .error error => .error error
  | _ => .error (blocked "INVALID_FROZEN_AFFECTED_FILES")

def payloadOf (freeze : PlanFreezeRow) : Dict :=
  match freeze.planPayload with
  | .obj members => members
  | _ => []

/-- The paths in the order they are first named. -/
def firstOccurrences (seen : List String) : List String → List String
  | [] => []
  | path :: rest =>
    if path ∈ seen then firstOccurrences seen rest
    else path :: firstOccurrences (path :: seen) rest

def authorizedPaths (freeze : PlanFreezeRow) : Except WorkspaceExc (List String) :=
  match (payloadOf freeze).get "affected_files" with
  | .arr items => do
      let paths ← items.mapM authorizedPath
      if paths.isEmpty then throw (blocked "EMPTY_FROZEN_AFFECTED_FILES")
      else return firstOccurrences [] paths
  | _ => .error (blocked "INVALID_FROZEN_AFFECTED_FILES")

def frozenAcceptanceErrorCode (code : String) : String :=
  if code = "INVALID_DETERMINISTIC_ACCEPTANCE_CHECKS" then
    "INVALID_FROZEN_DETERMINISTIC_ACCEPTANCE_CHECKS"
  else if code = "INVALID_DETERMINISTIC_ACCEPTANCE_CHECK" then
    "INVALID_FROZEN_DETERMINISTIC_ACCEPTANCE_CHECK"
  else if code = "UNSUPPORTED_DETERMINISTIC_ACCEPTANCE_CHECK" then
    "UNSUPPORTED_FROZEN_DETERMINISTIC_ACCEPTANCE_CHECK"
  else if code = "INVALID_DETERMINISTIC_ACCEPTANCE_PATH" then
    "INVALID_FROZEN_DETERMINISTIC_ACCEPTANCE_PATH"
  else if code = "DETERMINISTIC_ACCEPTANCE_PATH_OUTSIDE_SCOPE" then
    "DETERMINISTIC_ACCEPTANCE_PATH_OUTSIDE_AFFECTED_FILES"
  else if code = "DUPLICATE_DETERMINISTIC_ACCEPTANCE_CHECK" then
    "DUPLICATE_FROZEN_DETERMINISTIC_ACCEPTANCE_CHECK"
  else if code = "INVALID_DETERMINISTIC_ACCEPTANCE_EXPECTED_TEXT" then
    "INVALID_FROZEN_DETERMINISTIC_ACCEPTANCE_EXPECTED_TEXT"
  else code

def acceptanceChecks (freeze : PlanFreezeRow) (authorized : List String) :
    Except WorkspaceExc (List Check) :=
  match (payloadOf freeze).get "deterministic_acceptance_checks" with
  | .arr (first :: rest) =>
    match normalizeDeterministicAcceptanceChecks authorized (.arr (first :: rest)) with
    | .ok checks => .ok checks
    | .error (.acceptance code _) => .error (blocked (frozenAcceptanceErrorCode code))
    | .error error => .error error
  | _ => .error (blocked "FROZEN_DETERMINISTIC_ACCEPTANCE_REQUIRED")

structure IntegrationContext where
  workflow : PersistentWorkflowRow
  plan : EngineeringPlanRow
  freeze : PlanFreezeRow
  baselineCommit : String
  canonicalHead : String
  authorizedPaths : List String
  acceptanceChecks : List Check
  protectedUntrackedHashes : List (String × String)
  candidateChangedPaths : List String := []
  candidateHead : String := ""
  candidateAcceptance : List Verification := []
  capturedFileContents : List CapturedFile := []

/-- The part of the preflight about the canonical side. -/
def canonicalContext (env : Environment) (request : CanonicalIntegrationRequest) (tables : Tables)
    (canonical : Files) : Except WorkspaceExc IntegrationContext := do
  let work ← frozenWork tables request
  requireRoots env.resolvePath request work
  let (canonicalHead, hashes) ← protectedState env canonical request.expectedBaselineCommit
  let authorized ← authorizedPaths work.freeze
  if (hashes.map Prod.fst).any (· ∈ authorized) then
    throw (blocked "PROTECTED_UNTRACKED_PATH_AUTHORIZED_FOR_MUTATION")
  else
    let checks ← acceptanceChecks work.freeze authorized
    return {
      workflow := work.workflow
      plan := work.plan
      freeze := work.freeze
      baselineCommit := request.expectedBaselineCommit
      canonicalHead := canonicalHead
      authorizedPaths := authorized
      acceptanceChecks := checks
      protectedUntrackedHashes := hashes }

/-- The head and the changes of the candidate, all of them authorized. -/
def candidateChanges (env : Environment) (context : IntegrationContext) (candidate : Files) :
    Except WorkspaceExc (String × List String) := do
  let candidateHead ← currentHead (env.fault .candidateHead) env.candidate
  if candidateHead ≠ context.baselineCommit then throw (blocked "CANDIDATE_HEAD_BASELINE_MISMATCH")
  else
    let changed ← changedPaths (env.fault .candidateChanges) env.candidate candidate
    if changed.any (· ∉ context.authorizedPaths) then
      throw (blocked "CANDIDATE_HAS_UNAUTHORIZED_CHANGES")
    else if changed.isEmpty then throw (blocked "CANDIDATE_HAS_NO_GIT_CHANGES")
    else return (candidateHead, changed)

/-- The content of the changed paths, each with a check that it meets. -/
def capturedChanges (env : Environment) (context : IntegrationContext) (changed : List String)
    (candidate : Files) : Except WorkspaceExc (List CapturedFile) := do
  if changed.any (· ∉ acceptanceCheckPaths context.acceptanceChecks) then
    throw (blocked "CANDIDATE_CHANGE_MISSING_DETERMINISTIC_ACCEPTANCE_CHECK")
  else
    let captured ← captureUtf8FileContents (env.fault .candidateCapture) env.candidate
      candidate context.authorizedPaths changed
    match verifyDeterministicAcceptanceContent captured context.acceptanceChecks with
    | .ok () => return captured
    | .error (.acceptance _ _) => throw (blocked "CANDIDATE_CAPTURED_CONTENT_MISMATCH")
    | .error error => throw error

def onCandidate {α : Type} (work : FileWork α) : Integrating α :=
  Action.zoom World.candidate (fun world files => { world with candidate := files }) work.commit

def onCanonical {α : Type} (work : FileWork α) : Integrating α :=
  Action.zoom World.canonical (fun world files => { world with canonical := files }) work.commit

def preflight (env : Environment) (request : CanonicalIntegrationRequest) :
    Integrating IntegrationContext := do
  let world ← get
  let context ← Action.ofExcept
    (canonicalContext env request world.store.toTables world.canonical)
  let (candidateHead, changed) ← Action.ofExcept (candidateChanges env context world.candidate)
  let acceptance ← onCandidate (verifyDeterministicAcceptance (env.fault .candidateAcceptance)
    env.candidateCommands env.candidate context.acceptanceChecks)
  let verified ← get
  let captured ← Action.ofExcept (capturedChanges env context changed verified.candidate)
  return { context with
    candidateChangedPaths := changed
    candidateHead := candidateHead
    candidateAcceptance := acceptance
    capturedFileContents := captured }

def fileItem (file : CapturedFile) : FileItem := .item (.str file.path) (some file.content)

/-- The files to write: nothing has been written when this fails. -/
def prepareFiles (env : Environment) (request : CanonicalIntegrationRequest)
    (context : IntegrationContext) : Integrating (List ValidatedFileContent) := do
  let validated ← Action.ofExcept (validateFileContents (env.fault .validation) env.canonical
    context.authorizedPaths none (context.capturedFileContents.map fileItem))
  if validated.isEmpty then throw (blocked "NO_INTEGRATION_CONTENT")
  else
    auditEvent env request "CANONICAL_INTEGRATION_PREFLIGHT_PASSED" "SUCCESS"
    return validated

def intendedPaths (files : List ValidatedFileContent) : List String := sortedBy id (files.map (·.path))

def verifyPostApply (env : Environment) (context : IntegrationContext) (intended observed : List String)
    (files : Files) : Except WorkspaceExc (List String) := do
  let _ ← verifyUntrackedFileHashes (env.fault .appliedHashes) env.sha256 env.canonical files
    context.protectedUntrackedHashes
  let actual := observed.filter (· ∉ context.protectedUntrackedHashes.map Prod.fst)
  if actual.any (· ∉ context.authorizedPaths) then
    throw (blocked "CANONICAL_UNAUTHORIZED_CHANGED_PATHS")
  else if intended.any (· ∉ actual) then throw (blocked "CANONICAL_INTENDED_WRITES_NOT_OBSERVED")
  else return sortedBy id actual

/-- The changes Git observes after the writes, all intended ones and authorized ones only. -/
def observedChanges (env : Environment) (context : IntegrationContext)
    (validated : List ValidatedFileContent) (files : Files) : Except WorkspaceExc (List String) := do
  let observed ← changedPaths (env.fault .appliedChanges) env.canonical files
  verifyPostApply env context (intendedPaths validated) observed files

def closeWorkflow (env : Environment) (request : CanonicalIntegrationRequest) : Integrating Unit := do
  let world ← get
  match world.store.workflows.get? request.workflowId with
  | none => throw .assertionError
  | some workflow =>
    let row := { workflow with workflowState := .closed, updatedAt := world.store.now }
    set { world with store := { world.store.tick with workflows := world.store.workflows.put row } }
    if env.flushFault then throw .databaseError
    else auditEvent env request "CANONICAL_INTEGRATION_WORKFLOW_CLOSED" "SUCCESS"

structure AppliedFiles where
  written : List WrittenFile
  actualChangedPaths : List String
  deterministicAcceptance : List Verification

/-- The writes, and the evidence that they are the intended ones. -/
def applyFiles (env : Environment) (context : IntegrationContext)
    (validated : List ValidatedFileContent) : FileWork AppliedFiles := do
  let written ← writeValidatedFileContents env.host env.writes validated
  let files ← Journal.read
  let actual ← Journal.ofExcept (observedChanges env context validated files)
  let deterministic ← verifyDeterministicAcceptance (env.fault .appliedAcceptance)
    env.canonicalCommands env.canonical context.acceptanceChecks
  return ⟨written, actual, deterministic⟩

/-- From the first write to the closed workflow. -/
def mutate (env : Environment) (request : CanonicalIntegrationRequest) (context : IntegrationContext)
    (validated : List ValidatedFileContent) : Integrating CanonicalIntegrationResult := do
  let applied ← onCanonical (applyFiles env context validated)
  closeWorkflow env request
  let head ← Action.ofExcept (currentHead (env.fault .completedHead) env.canonical)
  return {
    status := .completed
    workflowId := request.workflowId
    baselineCommit := some context.baselineCommit
    canonicalHead := some head
    authorizedPaths := context.authorizedPaths
    candidateChangedPaths := context.candidateChangedPaths
    appliedPaths := applied.written.map (·.path)
    actualChangedPaths := applied.actualChangedPaths
    protectedUntrackedHashes := context.protectedUntrackedHashes
    deterministicAcceptance := applied.deterministicAcceptance }

def isGitMutation : WorkspaceExc → Bool
  | .gitMutation _ _ => true
  | _ => false

/-- The rollback of the files, and the evidence that it was complete. -/
def restoreFiles (env : Environment) (context : IntegrationContext) : FileWork Unit := do
  restoreAuthorizedPathsToBaseline (env.fault .baseline) (env.fault .restoredHead) env.writes
    env.canonicalDirectories env.canonical context.baselineCommit context.authorizedPaths
  let restored ← Journal.read
  let _ ← Journal.ofExcept (verifyUntrackedFileHashes (env.fault .restoredHashes) env.sha256
    env.canonical restored context.protectedUntrackedHashes)
  let _ ← Journal.ofExcept (changedPaths (env.fault .restoredChanges) env.canonical restored)

def rollBack (env : Environment) (request : CanonicalIntegrationRequest)
    (context : IntegrationContext) : Integrating Unit := do
  onCanonical (restoreFiles env context)
  auditEvent env request "CANONICAL_INTEGRATION_ROLLBACK_COMPLETED" "SUCCESS"

def failedResult (env : Environment) (request : CanonicalIntegrationRequest)
    (context : IntegrationContext) (error : WorkspaceExc) (mutationStarted rolledBack : Bool) :
    Integrating CanonicalIntegrationResult := do
  auditEvent env request "CANONICAL_INTEGRATION_FAILED" "FAILED_CLOSED"
  let head ← Action.ofExcept (currentHead (env.fault .failedHead) env.canonical)
  return {
    status := .failed
    workflowId := request.workflowId
    reason := some (message error)
    baselineCommit := some context.baselineCommit
    canonicalHead := some head
    authorizedPaths := context.authorizedPaths
    candidateChangedPaths := context.candidateChangedPaths
    rollbackAttempted := mutationStarted
    rollbackSucceeded := rolledBack }

def rollbackFailedResult (env : Environment) (request : CanonicalIntegrationRequest)
    (context : IntegrationContext) (error rollbackError : WorkspaceExc) :
    Integrating CanonicalIntegrationResult := do
  auditEvent env request "CANONICAL_INTEGRATION_ROLLBACK_FAILED" "FAILED_CLOSED"
  let head ← Action.ofExcept (currentHead (env.fault .rollbackFailedHead) env.canonical)
  return {
    status := .rollbackFailed
    workflowId := request.workflowId
    reason := some (message error ++ "; rollback failed: " ++ message rollbackError)
    baselineCommit := some context.baselineCommit
    canonicalHead := some head
    authorizedPaths := context.authorizedPaths
    candidateChangedPaths := context.candidateChangedPaths
    rollbackAttempted := true
    rollbackSucceeded := false }

/-- What follows a handled failure after the first write. -/
def afterFailure (env : Environment) (request : CanonicalIntegrationRequest)
    (context : IntegrationContext) (error : WorkspaceExc) :
    Integrating CanonicalIntegrationResult := do
  auditEvent env request "CANONICAL_INTEGRATION_ROLLBACK_ATTEMPTED" "STARTED"
  match ← Action.recovering isGitMutation (rollBack env request context) with
  | .ok () => failedResult env request context error true true
  | .error rollbackError => rollbackFailedResult env request context error rollbackError

def integrateContext (env : Environment) (request : CanonicalIntegrationRequest)
    (context : IntegrationContext) : Integrating CanonicalIntegrationResult := do
  match ← Action.recovering handled (prepareFiles env request context) with
  | .error error => failedResult env request context error false false
  | .ok validated =>
    match ← Action.recovering handled (mutate env request context validated) with
    | .ok result => return result
    | .error error => afterFailure env request context error

/-- A flush that fails has rolled back the transaction, and with it what the call
changed in the database. -/
def sessionEnd {α : Type} (store : Store) : Except WorkspaceExc α × World → Except WorkspaceExc α × World
  | (.error .databaseError, after) => (.error .databaseError, { after with store := store })
  | (outcome, after) => (outcome, after)

def integrateInSession (env : Environment) (request : CanonicalIntegrationRequest) :
    Integrating CanonicalIntegrationResult := do
  auditEvent env request "CANONICAL_INTEGRATION_REQUESTED" "REQUESTED"
  match ← Action.recovering handled (preflight env request) with
  | .error error =>
    auditEvent env request "CANONICAL_INTEGRATION_PREFLIGHT_FAILED" "FAILED_CLOSED"
    return { status := .failed, workflowId := request.workflowId, reason := some (message error) }
  | .ok context => integrateContext env request context

def integrate (env : Environment) (request : CanonicalIntegrationRequest) :
    Integrating CanonicalIntegrationResult :=
  fun world => sessionEnd world.store (Action.exec (integrateInSession env request) world)

end Lucius.Integration
