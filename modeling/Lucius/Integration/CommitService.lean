import Lucius.Integration.ControlledCommit
import Lucius.Repositories.Commits

/-! One verified local commit of a closed, integrated workflow.

The repository moves while a call runs: before each point at which the call looks at it
or changes it, other processes may have acted, and any command may fail there. -/

namespace Lucius.ControlledCommit

open Worktree Acceptance Lucius.Action Integration

/-- The four looks at the repository that are compared with each other. -/
inductive Phase where
  | preflight | preCommit | staged | postCommit
  deriving DecidableEq, Repr

inductive Point where
  | head (phase : Phase) | stagedPaths (phase : Phase) | untracked (phase : Phase)
  | changes (phase : Phase) | acceptance (phase : Phase) | fileHash (phase : Phase) (path : String)
  | headParents | headPaths
  | stage | stagedHash (path : String) | commit | committedHead | unstage
  | otherHead | parents | committedPaths | committedHash (path : String)
  | lastHead | changedHead | observedHead
  deriving DecidableEq, Repr

structure Manifest where
  workflowId : String
  planFreezeId : String
  baselineCommitSha : String
  authorizedPaths : List String
  actualChangedPaths : List String
  pathContentHashes : List (String × String)
  protectedUntrackedHashes : List (String × String)
  deterministicAcceptance : List Verification
  commitMessage : String

/-- Other processes add commits at most; a commit keeps its content. A new commit gets
a name no commit of the repository has. -/
structure Environment where
  sha256 : Bytes → String
  manifestHash : Manifest → String
  resolvePath : String → String
  ignored : String → Bool
  shown : String → Bytes
  commitName : Repository → String
  commands : Phase → Commands
  others : Point → Repository → Repository
  fault : Point → Option ReadFault
  lands : Point → Bool
  auditFault : String → Bool
  recordFault : Bool
  commitName_fresh : ∀ repository : Repository,
    repository.commits.lookup (commitName repository) = none
  others_keep : ∀ point (repository : Repository) sha commit, repository.commits.lookup sha = some commit →
    (others point repository).commits.lookup sha = some commit

/-- A commit the service made, with the workflow and the freeze it was made for. -/
structure Creation where
  workflowId : String
  planFreezeId : String
  parent : String
  name : String
  deriving DecidableEq, Repr

/-- What was looked at, and the repository as it was then. -/
structure Sight where
  point : Point
  repository : Repository

/-- The commits made and the looks taken are kept for the record; no step reads them. -/
structure Scene where
  store : Store
  repository : Repository
  made : List Creation := []
  sights : List Sight := []

abbrev Committing (α : Type) := Action Scene CommitExc α

def lift {α : Type} : Except WorkspaceExc α → Except CommitExc α
  | .ok value => .ok value
  | .error error => .error (.raised error)

def Scene.reached (env : Environment) (point : Point) (scene : Scene) : Scene :=
  { scene with
    repository := env.others point scene.repository
    sights := scene.sights ++ [⟨point, env.others point scene.repository⟩] }

def reach (env : Environment) (point : Point) : Committing Repository := do
  modify (Scene.reached env point)
  return (← get).repository

def observe {α : Type} (env : Environment) (point : Point)
    (read : Option ReadFault → Repository → Except WorkspaceExc α) : Committing α := do
  let repository ← reach env point
  Action.ofExcept (lift (read (env.fault point) repository))

def setRepository (repository : Repository) : Committing Unit :=
  modify (fun scene => { scene with repository := repository })

def observeHead (env : Environment) (point : Point) : Committing String :=
  observe env point (fun fault repository => currentHead fault (repository.checkout env.ignored))

def observeStaged (env : Environment) (phase : Phase) : Committing (List String) :=
  observe env (.stagedPaths phase)
    (fun fault repository => stagedPaths fault (repository.checkout env.ignored))

def observeChanges (env : Environment) (phase : Phase) : Committing (List String) :=
  observe env (.changes phase)
    (fun fault repository => changedPaths fault (repository.checkout env.ignored) repository.files)

def verifyUntracked (env : Environment) (phase : Phase) (hashes : List (String × String)) :
    Committing Unit := do
  let _ ← observe env (.untracked phase) (fun fault repository =>
    verifyUntrackedFileHashes fault env.sha256 (repository.checkout env.ignored) repository.files hashes)

def hashFile (env : Environment) (phase : Phase) (path : String) : Committing String :=
  observe env (.fileHash phase path) (fun fault repository => do
    failing fault
    workspaceFileSha256 env.sha256 (repository.checkout env.ignored) repository.files path)

def verifyAcceptance (env : Environment) (phase : Phase) (checks : List Check) :
    Committing (List Verification) := do
  let repository ← reach env (.acceptance phase)
  let outcome := verifyDeterministicAcceptance (env.fault (.acceptance phase)) (env.commands phase)
    (repository.checkout env.ignored) checks repository.files
  setRepository { repository with files := Updates.applyAll repository.files outcome.1 }
  Action.ofExcept (lift outcome.2)

/-- The service of audit events. -/
def audit (env : Environment) (request : ControlledCommitRequest) (eventType result : String) :
    Committing Unit := do
  if env.auditFault eventType then throw (.raised .databaseError)
  else
    modify (fun scene =>
      let workflow := scene.store.workflows.get? request.workflowId
      { scene with store := scene.store.record {
          eventType := eventType
          projectId := workflow.bind (·.projectId)
          repositoryId := workflow.bind (·.repositoryId)
          taskId := workflow.bind (·.taskId)
          action := "controlled_local_commit"
          result := result } })

inductive CommitStatus where
  | completed | failed | alreadyCommitted | postCommitVerificationFailed
  deriving DecidableEq, Repr

structure ControlledCommitResult where
  status : CommitStatus
  workflowId : String
  reason : Option String := none
  baselineCommit : Option String := none
  resultingCommit : Option String := none
  authorizedPaths : List String := []
  committedPaths : List String := []
  manifestHash : Option String := none
  recordId : Option String := none
  manualReconciliationRequired : Bool := false
  unstagedPaths : List String := []

structure CommitContext where
  work : CommitWork
  baselineCommit : String
  authorizedPaths : List String
  acceptanceChecks : List Check
  deterministicAcceptance : List Verification
  protectedUntrackedHashes : List (String × String)
  commitMessage : String
  manifest : Manifest
  manifestHash : String

def requireBaseline (env : Environment) (request : ControlledCommitRequest) (work : CommitWork) :
    Except CommitExc Unit :=
  if env.resolvePath request.canonicalRepositoryPath ≠ env.resolvePath work.repository.location then
    .error (.blocked "CANONICAL_REPOSITORY_PATH_MISMATCH")
  else if (reference work.freeze.commitSha).isNone then
    .error (.blocked "FROZEN_BASELINE_COMMIT_REQUIRED")
  else if work.freeze.commitSha ≠ some request.expectedBaselineCommit then
    .error (.blocked "REQUEST_BASELINE_DOES_NOT_MATCH_FREEZE")
  else .ok ()

def completedStatus : String := "COMPLETED"

def existingRecord (tables : Tables) (work : CommitWork) : Option ControlledCommitRow :=
  tables.controlledCommits.rows.find? (fun record =>
    decide (record.workflowId = work.workflow.id) && decide (record.planFreezeId = work.freeze.id) &&
      decide (record.status = completedStatus))

def isGitMutation : CommitExc → Bool
  | .raised (.gitMutation _ _) => true
  | _ => false

/-- Whether a commit looks like one the service made without recording it. -/
def looksLikeMissingCommitRecord (env : Environment) (head baseline : String)
    (authorizedPaths : List String) : Committing Bool := do
  let read ← recovering isGitMutation (do
    let parents ← observe env .headParents (fun fault repository => commitParentShas fault repository head)
    let paths ← observe env .headPaths (fun fault repository => commitChangedPaths fault repository head)
    return (parents, paths))
  match read with
  | .ok (parents, paths) =>
    return decide (parents = [baseline]) && !paths.isEmpty && paths.all (· ∈ authorizedPaths)
  | .error _ => return false

def requireHead (env : Environment) (request : ControlledCommitRequest) (authorizedPaths : List String) :
    Committing Unit := do
  let head ← observeHead env (.head .preflight)
  if head ≠ request.expectedBaselineCommit then
    if ← looksLikeMissingCommitRecord env head request.expectedBaselineCommit authorizedPaths then
      throw (.blocked "CONTROLLED_COMMIT_RECONCILIATION_REQUIRED")
    else throw (.blocked "CANONICAL_HEAD_DRIFT")
  else return ()

/-- The changed paths apart from the protected ones. -/
def unprotected (changed : List String) (hashes : List (String × String)) : List String :=
  sortedBy id (changed.dedup.filter (fun path => decide (path ∉ hashes.map Prod.fst)))

def commitMessageOf (message : Option String) (taskId : String) : Except CommitExc String :=
  let value := message.getD ("lucius: complete " ++ taskId)
  let chars := value.toList
  if (Json.strip chars).isEmpty ∨ Json.strip chars ≠ chars then
    .error (.blocked "INVALID_COMMIT_MESSAGE")
  else if 120 < chars.length ∨ chars.any (fun char => char.toNat < 32 ∨ char.toNat = 127) then
    .error (.blocked "INVALID_COMMIT_MESSAGE")
  else .ok value

def hashFiles (env : Environment) (phase : Phase) : List String → Committing (List (String × String))
  | [] => return []
  | path :: rest => do
      let hash ← hashFile env phase path
      let hashes ← hashFiles env phase rest
      return (path, hash) :: hashes

def observeChangedPaths (env : Environment) (request : ControlledCommitRequest)
    (authorizedPaths : List String) : Committing (List String) := do
  let staged ← observeStaged env .preflight
  if !staged.isEmpty then throw (.blocked "PREEXISTING_STAGED_CHANGES")
  else if request.protectedUntrackedHashes.any (fun entry => decide (entry.1 ∈ authorizedPaths)) then
    throw (.blocked "PROTECTED_UNTRACKED_PATH_AUTHORIZED_FOR_MUTATION")
  else
    verifyUntracked env .preflight request.protectedUntrackedHashes
    let observed ← observeChanges env .preflight
    let actual := unprotected observed request.protectedUntrackedHashes
    if actual.isEmpty then throw (.blocked "CANONICAL_HAS_NO_CHANGES")
    else if actual.any (fun path => decide (path ∉ authorizedPaths)) then
      throw (.blocked "CANONICAL_HAS_UNAUTHORIZED_CHANGES")
    else return actual

def contextOf (env : Environment) (request : ControlledCommitRequest) (work : CommitWork)
    (authorizedPaths : List String) (checks : List Check) (actual : List String)
    (evidence : List Verification) (message : String) (hashes : List (String × String)) :
    CommitContext :=
  let manifest : Manifest := {
    workflowId := work.workflow.id
    planFreezeId := work.freeze.id
    baselineCommitSha := request.expectedBaselineCommit
    authorizedPaths := authorizedPaths
    actualChangedPaths := actual
    pathContentHashes := hashes
    protectedUntrackedHashes := request.protectedUntrackedHashes
    deterministicAcceptance := evidence
    commitMessage := message }
  { work := work
    baselineCommit := request.expectedBaselineCommit
    authorizedPaths := authorizedPaths
    acceptanceChecks := checks
    deterministicAcceptance := evidence
    protectedUntrackedHashes := request.protectedUntrackedHashes
    commitMessage := message
    manifest := manifest
    manifestHash := env.manifestHash manifest }

/-- The part of the preflight that looks at the working tree. -/
def preflightTree (env : Environment) (request : ControlledCommitRequest) (work : CommitWork)
    (authorizedPaths : List String) (checks : List Check) : Committing CommitContext := do
  let actual ← observeChangedPaths env request authorizedPaths
  let evidence ← verifyAcceptance env .preflight checks
  if actual.any (fun path => decide (path ∉ acceptanceCheckPaths checks)) then
    throw (.blocked "CANONICAL_CHANGE_MISSING_DETERMINISTIC_ACCEPTANCE_CHECK")
  else
    let message ← Action.ofExcept (commitMessageOf request.commitMessage work.task.id)
    let hashes ← hashFiles env .preflight actual
    return contextOf env request work authorizedPaths checks actual evidence message hashes

/-- What the preflight takes from the database and the frozen payload. -/
def preflightRows (env : Environment) (request : ControlledCommitRequest) (tables : Tables) :
    Except CommitExc (CommitWork × List String × List Check) := do
  let work ← commitWork tables request
  requireBaseline env request work
  match existingRecord tables work with
  | some record => throw (.alreadyCommitted record)
  | none =>
    let authorized ← authorizedPaths work.freeze
    let checks ← acceptanceChecks work.freeze authorized
    return (work, authorized, checks)

def preflight (env : Environment) (request : ControlledCommitRequest) : Committing CommitContext := do
  let scene ← get
  let (work, authorized, checks) ← Action.ofExcept (preflightRows env request scene.store.toTables)
  requireHead env request authorized
  preflightTree env request work authorized checks

def verifyHashes (hash : String → Committing String) (reason : String) :
    List (String × String) → Committing Unit
  | [] => return ()
  | (path, expected) :: rest => do
      let observed ← hash path
      if observed ≠ expected then throw (.blocked reason)
      else verifyHashes hash reason rest

/-- Whether the repository still has the head, the index and the changes of the preflight. -/
def verifyUnmoved (env : Environment) (context : CommitContext) : Committing Unit := do
  let head ← observeHead env (.head .preCommit)
  if head ≠ context.baselineCommit then throw (.blocked "CANONICAL_HEAD_DRIFT")
  else
    let staged ← observeStaged env .preCommit
    if !staged.isEmpty then throw (.blocked "PREEXISTING_STAGED_CHANGES")
    else
      verifyUntracked env .preCommit context.protectedUntrackedHashes
      let observed ← observeChanges env .preCommit
      if unprotected observed context.protectedUntrackedHashes ≠ context.manifest.actualChangedPaths then
        throw (.blocked "CANONICAL_CHANGED_PATHS_DRIFT")
      else return ()

def verifyPreCommitState (env : Environment) (context : CommitContext) : Committing Unit := do
  verifyUnmoved env context
  let evidence ← verifyAcceptance env .preCommit context.acceptanceChecks
  if evidence ≠ context.deterministicAcceptance then throw (.blocked "DETERMINISTIC_ACCEPTANCE_DRIFT")
  else
    verifyHashes (hashFile env .preCommit) "CANONICAL_CONTENT_HASH_DRIFT"
      context.manifest.pathContentHashes

/-- A command that changes the repository. One that fails may have taken effect. -/
def mutate (env : Environment) (point : Point) (change : Repository → Except WorkspaceExc Repository) :
    Committing Unit := do
  let repository ← reach env point
  match env.fault point with
  | none =>
    let changed ← Action.ofExcept (lift (change repository))
    setRepository changed
  | some fault => do
      if env.lands point then setRepository ((change repository).toOption.getD repository)
      throw (.raised fault.exc)

def stagePaths (env : Environment) (paths : List String) : Committing Unit := do
  let validated ← Action.ofExcept (lift (paths.mapM (fun path => validateRelativeRepoPath (.str path))))
  if validated.isEmpty then
    throw (.raised (.gitMutation "NO_STAGE_PATHS" "No paths were supplied for staging."))
  else mutate env .stage (fun repository => .ok (repository.added env.ignored validated))

def unstagePaths (env : Environment) (paths : List String) : Committing Unit := do
  let validated ← Action.ofExcept (lift (paths.mapM (fun path => validateRelativeRepoPath (.str path))))
  if validated.isEmpty then return ()
  else mutate env .unstage (fun repository => .ok (repository.unstaged validated))

def verifyStagedManifest (env : Environment) (context : CommitContext) : Committing Unit := do
  verifyUntracked env .staged context.protectedUntrackedHashes
  let observed ← observeStaged env .staged
  if observed ≠ context.manifest.actualChangedPaths then
    throw (.blocked "STAGED_PATHS_DO_NOT_MATCH_MANIFEST")
  else
    verifyHashes (fun path => observe env (.stagedHash path) (fun fault repository =>
      stagedFileSha256 fault env.sha256 env.shown repository path)) "STAGED_CONTENT_HASH_MISMATCH"
      context.manifest.pathContentHashes

/-- Git refuses a commit of nothing. -/
def commitStaged (env : Environment) (repository : Repository) : Except WorkspaceExc Repository :=
  if (repository.checkout env.ignored).staged.isEmpty then
    .error (.gitMutation "GIT_COMMIT_FAILED" "Unable to create controlled local commit.")
  else .ok (repository.committed (env.commitName repository))

/-- Keeps a commit for the record when the head has moved since. -/
def noteCreation (workflowId planFreezeId parent : String) (scene : Scene) : Scene :=
  if scene.repository.head = parent then scene
  else { scene with made := scene.made ++ [⟨workflowId, planFreezeId, parent, scene.repository.head⟩] }

def makeCommit (env : Environment) (context : CommitContext) : Committing Unit := fun scene =>
  let parent := (env.others .commit scene.repository).head
  let ended := exec (mutate env .commit (commitStaged env)) scene
  (ended.1, noteCreation context.work.workflow.id context.work.freeze.id parent ended.2)

def createLocalCommit (env : Environment) (context : CommitContext) : Committing String := do
  makeCommit env context
  observeHead env .committedHead

/-- Whether the head is a commit of the manifest on the baseline. -/
def verifyCommitted (env : Environment) (context : CommitContext) (resulting : String) :
    Committing (List String) := do
  if resulting = context.baselineCommit then throw (.blocked "COMMIT_DID_NOT_ADVANCE_HEAD")
  else
    let head ← observeHead env (.head .postCommit)
    if head ≠ resulting then do
      let _ ← observeHead env .otherHead
      throw (.blocked "CANONICAL_HEAD_NOT_RESULTING_COMMIT")
    else
      let parents ← observe env .parents (fun fault repository =>
        commitParentShas fault repository resulting)
      if parents ≠ [context.baselineCommit] then
        throw (.blocked "CONTROLLED_COMMIT_PARENT_MISMATCH")
      else
        let committed ← observe env .committedPaths (fun fault repository =>
          commitChangedPaths fault repository resulting)
        if committed ≠ context.manifest.actualChangedPaths then
          throw (.blocked "COMMITTED_PATHS_DO_NOT_MATCH_MANIFEST")
        else if committed.any (fun path => decide (path ∉ context.authorizedPaths)) then
          throw (.blocked "COMMITTED_UNAUTHORIZED_PATHS")
        else
          verifyHashes (fun path => observe env (.committedHash path) (fun fault repository =>
            committedFileSha256 fault env.sha256 env.shown repository resulting path))
            "COMMITTED_CONTENT_HASH_MISMATCH" context.manifest.pathContentHashes
          return committed

/-- Whether the working tree is clean, with the head still where it was put. -/
def verifyCleanWorktree (env : Environment) (context : CommitContext) (resulting : String) :
    Committing Unit := do
  verifyUntracked env .postCommit context.protectedUntrackedHashes
  let remaining ← observeChanges env .postCommit
  if !(unprotected remaining context.protectedUntrackedHashes).isEmpty then
    throw (.blocked "CANONICAL_WORKTREE_NOT_CLEAN_AFTER_COMMIT")
  else
    let last ← observeHead env .lastHead
    if last ≠ resulting then do
      let _ ← observeHead env .changedHead
      throw (.blocked "CANONICAL_HEAD_CHANGED_AFTER_VERIFICATION")
    else return ()

def verifyPostCommit (env : Environment) (context : CommitContext) (resulting : String) :
    Committing (List String) := do
  let committed ← verifyCommitted env context resulting
  let evidence ← verifyAcceptance env .postCommit context.acceptanceChecks
  if evidence ≠ context.deterministicAcceptance then
    throw (.blocked "POST_COMMIT_DETERMINISTIC_ACCEPTANCE_DRIFT")
  else
    verifyCleanWorktree env context resulting
    return committed

/-- The exceptions the handlers around the staging name. -/
def handled : CommitExc → Bool
  | .blocked _ => true
  | .raised (.gitMutation _ _) => true
  | .raised (.acceptance _ _) => true
  | _ => false

def preflightHandled : CommitExc → Bool
  | .alreadyCommitted _ => true
  | error => handled error

def CommitExc.text : CommitExc → String
  | .blocked reason => reason
  | .raised error => Integration.message error
  | .alreadyCommitted _ => "ALREADY_COMMITTED"

def cleanupStaging (env : Environment) (paths : List String) : Committing (List String) := do
  if paths.isEmpty then return []
  else
    match ← recovering isGitMutation (unstagePaths env paths) with
    | .ok _ => return paths
    | .error _ => return []

/-- Unstages and reports a failure before the commit. -/
def failedBefore (env : Environment) (request : ControlledCommitRequest) (context : CommitContext)
    (eventType : String) (paths : List String) (error : CommitExc) : Committing ControlledCommitResult := do
  let unstaged ← cleanupStaging env paths
  audit env request eventType "FAILED_CLOSED"
  return {
    status := .failed
    workflowId := request.workflowId
    reason := some error.text
    baselineCommit := some context.baselineCommit
    authorizedPaths := context.authorizedPaths
    manifestHash := some context.manifestHash
    unstagedPaths := unstaged }

def safeCurrentHead (env : Environment) : Committing (Option String) := do
  match ← recovering isGitMutation (observeHead env .observedHead) with
  | .ok head => return some head
  | .error _ => return none

def failedAfter (env : Environment) (request : ControlledCommitRequest) (context : CommitContext)
    (resulting : String) (error : CommitExc) : Committing ControlledCommitResult := do
  let _ ← safeCurrentHead env
  audit env request "CONTROLLED_COMMIT_POST_COMMIT_VERIFICATION_FAILED" "MANUAL_RECONCILIATION_REQUIRED"
  return {
    status := .postCommitVerificationFailed
    workflowId := request.workflowId
    reason := some error.text
    baselineCommit := some context.baselineCommit
    resultingCommit := some resulting
    authorizedPaths := context.authorizedPaths
    manifestHash := some context.manifestHash
    manualReconciliationRequired := true }

def recordOf (context : CommitContext) (resulting : String) (committed : List String) (id : String) :
    ControlledCommitRow where
  id := id
  workflowId := context.work.workflow.id
  projectId := context.work.workflow.projectId
  repositoryId := context.work.repository.id
  taskId := context.work.task.id
  planFreezeId := context.work.freeze.id
  baselineCommitSha := context.baselineCommit
  parentCommitSha := context.baselineCommit
  resultingCommitSha := resulting
  authorizedPaths := context.authorizedPaths
  actualChangedPaths := committed
  pathContentHashes := context.manifest.pathContentHashes
  manifestHash := context.manifestHash
  commitMessage := context.commitMessage
  status := completedStatus

/-- The database takes one record of a status for a workflow and a freeze. -/
def recordTaken (tables : Tables) (record : ControlledCommitRow) : Bool :=
  (tables.controlledCommits.get? record.id).isSome ||
    tables.controlledCommits.rows.any (fun other =>
      decide (other.workflowId = record.workflowId) &&
        decide (other.planFreezeId = record.planFreezeId) && decide (other.status = record.status))

def addRecord (env : Environment) (context : CommitContext) (resulting : String)
    (committed : List String) : Committing ControlledCommitRow := do
  let scene ← get
  let record := recordOf context resulting committed
    (formatPublicId .controlledCommit (scene.store.nextNumber .controlledCommit))
  if env.recordFault || recordTaken scene.store.toTables record then throw (.raised .databaseError)
  else
    set { scene with
      store := { scene.store.issue .controlledCommit with
        controlledCommits := scene.store.controlledCommits.add record } }
    return record

def verifyAndRecord (env : Environment) (request : ControlledCommitRequest) (context : CommitContext)
    (resulting : String) : Committing ControlledCommitResult := do
  let committed ← verifyPostCommit env context resulting
  let record ← addRecord env context resulting committed
  audit env request "CONTROLLED_COMMIT_COMPLETED" "SUCCESS"
  return {
    status := .completed
    workflowId := request.workflowId
    baselineCommit := some context.baselineCommit
    resultingCommit := some resulting
    authorizedPaths := context.authorizedPaths
    committedPaths := committed
    manifestHash := some context.manifestHash
    recordId := some record.id }

def finish (env : Environment) (request : ControlledCommitRequest) (context : CommitContext)
    (resulting : String) : Committing ControlledCommitResult := do
  match ← recovering (fun _ => true) (verifyAndRecord env request context resulting) with
  | .ok result => return result
  | .error error => failedAfter env request context resulting error

def stageManifest (env : Environment) (context : CommitContext) : Committing Unit := do
  stagePaths env context.manifest.actualChangedPaths
  verifyStagedManifest env context

def commitStagedManifest (env : Environment) (request : ControlledCommitRequest)
    (context : CommitContext) : Committing ControlledCommitResult := do
  match ← recovering isGitMutation (createLocalCommit env context) with
  | .ok resulting => finish env request context resulting
  | .error error =>
    failedBefore env request context "CONTROLLED_COMMIT_CREATION_FAILED"
      context.manifest.actualChangedPaths error

def stageAndCommit (env : Environment) (request : ControlledCommitRequest) (context : CommitContext) :
    Committing ControlledCommitResult := do
  match ← recovering handled (stageManifest env context) with
  | .ok _ => commitStagedManifest env request context
  | .error error =>
    failedBefore env request context "CONTROLLED_COMMIT_PRE_COMMIT_FAILED"
      context.manifest.actualChangedPaths error

def commitContext (env : Environment) (request : ControlledCommitRequest) (context : CommitContext) :
    Committing ControlledCommitResult := do
  match ← recovering handled (verifyPreCommitState env context) with
  | .ok _ => stageAndCommit env request context
  | .error error => failedBefore env request context "CONTROLLED_COMMIT_PRE_COMMIT_FAILED" [] error

/-- What a call returns that the preflight has stopped. -/
def stopped (env : Environment) (request : ControlledCommitRequest) (error : CommitExc) :
    Committing ControlledCommitResult :=
  match error with
  | .alreadyCommitted record => do
      audit env request "CONTROLLED_COMMIT_ALREADY_EXISTS" "ALREADY_COMMITTED"
      return {
        status := .alreadyCommitted
        workflowId := request.workflowId
        baselineCommit := some record.baselineCommitSha
        resultingCommit := some record.resultingCommitSha
        committedPaths := record.actualChangedPaths
        manifestHash := some record.manifestHash
        recordId := some record.id }
  | other => do
      audit env request "CONTROLLED_COMMIT_PREFLIGHT_FAILED" "FAILED_CLOSED"
      return { status := .failed, workflowId := request.workflowId, reason := some other.text }

def commit (env : Environment) (request : ControlledCommitRequest) :
    Committing ControlledCommitResult := do
  audit env request "CONTROLLED_COMMIT_REQUESTED" "REQUESTED"
  match ← recovering preflightHandled (preflight env request) with
  | .ok context => commitContext env request context
  | .error error => stopped env request error

end Lucius.ControlledCommit
