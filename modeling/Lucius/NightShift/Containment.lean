import Lucius.Integration.Preflight
import Lucius.Runtime.Requests

/-! What the supervisor of a night shift sees of the workspaces before a cycle, and what it
requires of them after a task that did not complete.

A command needs a directory to start in. In a repository Git answers; a path inside a repository
is a path of that repository. -/

namespace Lucius.NightShift

open Worktree Integration

inductive Place where
  | missing | notDirectory | outsideGit
  | repository (checkout : Checkout) (files : Files)

/-- A command that has no directory to start in fails in the operating system, not in Git. -/
def Place.opened : Place → Except WorkspaceExc (Checkout × Files)
  | .missing => .error .osError
  | .notDirectory => .error .osError
  | .outsideGit => .error (.gitMutation "GIT_COMMAND_FAILED" "git command failed")
  | .repository checkout files => .ok (checkout, files)

abbrev Disk := String → Place

structure Surroundings where
  resolve : String → String
  sha256 : Bytes → String

structure ContainmentSnapshot where
  workflowId : String
  canonicalRepositoryPath : String
  candidateWorkspacePath : String
  baselineCommit : Option String
  canonicalHead : String
  canonicalTrackedPaths : List String
  canonicalStagedPaths : List String
  protectedUntrackedHashes : List (String × String)
  candidateHead : String
  candidateChangedPaths : List String

def containmentSnapshot (surroundings : Surroundings) (disk : Disk) (workflow : PersistentWorkflowRow)
    (freeze : PlanFreezeRow) (repository : RepositoryRegistrationRow) :
    Except WorkspaceExc ContainmentSnapshot := do
  let canonical := surroundings.resolve repository.location
  let candidate := surroundings.resolve workflow.worktreePath
  let (checkout, files) ← (disk canonical).opened
  let canonicalHead ← currentHead none checkout
  let tracked ← trackedWorktreePaths none checkout files
  let staged ← stagedPaths none checkout
  let hashes ← captureUntrackedFileHashes none surroundings.sha256 checkout files
  let (candidateCheckout, candidateFiles) ← (disk candidate).opened
  let candidateHead ← currentHead none candidateCheckout
  let changed ← changedPaths none candidateCheckout candidateFiles
  return {
    workflowId := workflow.id
    canonicalRepositoryPath := canonical
    candidateWorkspacePath := candidate
    baselineCommit := freeze.commitSha
    canonicalHead := canonicalHead
    canonicalTrackedPaths := tracked
    canonicalStagedPaths := staged
    protectedUntrackedHashes := hashes
    candidateHead := candidateHead
    candidateChangedPaths := changed }

/-- The workflows of a configuration, all of them where it names none. -/
def shiftWorkflows (tables : Tables) (workflowIds : Option (List String)) : List PersistentWorkflowRow :=
  let allowed := workflowIds.getD []
  (sortedBy PersistentWorkflowRow.id tables.workflows.rows).filter
    (fun workflow => allowed.isEmpty || decide (workflow.id ∈ allowed))

/-- A workflow with a freeze, a repository and a worktree has a snapshot taken. -/
def watched (tables : Tables) (workflow : PersistentWorkflowRow) :
    Option (PlanFreezeRow × RepositoryRegistrationRow) :=
  match (reference workflow.planFreezeId).bind tables.freezes.get?,
    (reference workflow.repositoryId).bind tables.repositories.get? with
  | some freeze, some repository =>
    if workflow.worktreePath.toList.isEmpty then none else some (freeze, repository)
  | _, _ => none

/-- A workspace Git refuses is passed by; another error goes through. -/
def captureFrom (surroundings : Surroundings) (tables : Tables) (disk : Disk) :
    List PersistentWorkflowRow → Except PyExc (List ContainmentSnapshot)
  | [] => .ok []
  | workflow :: rest =>
    match watched tables workflow with
    | none => captureFrom surroundings tables disk rest
    | some (freeze, repository) =>
      match containmentSnapshot surroundings disk workflow freeze repository with
      | .ok snapshot => do
          let snapshots ← captureFrom surroundings tables disk rest
          return snapshot :: snapshots
      | .error (.gitMutation _ _) => captureFrom surroundings tables disk rest
      | .error error => .error (Router.acceptanceExc error)

def captureContainmentSnapshots (surroundings : Surroundings) (tables : Tables) (disk : Disk)
    (workflowIds : Option (List String)) : Except PyExc (List ContainmentSnapshot) :=
  captureFrom surroundings tables disk (shiftWorkflows tables workflowIds)

inductive ContainmentStatus where
  | contained | notContained
  deriving DecidableEq, Repr

structure ContainmentResult where
  status : ContainmentStatus
  reason : Option String := none
  candidateQuarantined : Bool := false
  deriving DecidableEq, Repr

def notContained (reason : String) : ContainmentResult where
  status := .notContained
  reason := some reason

/-- What was wrong before the task was started. -/
def unsafeBefore (snapshot : ContainmentSnapshot) (baseline : String) : Option String :=
  if snapshot.canonicalHead ≠ baseline then some "CANONICAL_HEAD_UNSAFE_BEFORE_FAILURE"
  else if !snapshot.canonicalTrackedPaths.isEmpty || !snapshot.canonicalStagedPaths.isEmpty then
    some "CANONICAL_DIRTY_BEFORE_FAILURE"
  else if snapshot.candidateHead ≠ baseline ∨ snapshot.candidateChangedPaths.isEmpty = false then
    some "CANDIDATE_UNSAFE_BEFORE_FAILURE"
  else none

/-- What the task left: a reason not to go on, or the state of the candidate. -/
def checkAfter (surroundings : Surroundings) (disk : Disk) (snapshot : ContainmentSnapshot)
    (baseline : String) : Except WorkspaceExc (String ⊕ (String × List String)) := do
  let (checkout, files) ← (disk snapshot.canonicalRepositoryPath).opened
  let head ← currentHead none checkout
  if head ≠ baseline then return .inl "FAILED_TASK_ADVANCED_CANONICAL_HEAD"
  else
    let staged ← stagedPaths none checkout
    if !staged.isEmpty then return .inl "FAILED_TASK_LEFT_CANONICAL_STAGED_CHANGES"
    else
      let tracked ← trackedWorktreePaths none checkout files
      if !tracked.isEmpty then return .inl "FAILED_TASK_LEFT_CANONICAL_TRACKED_CHANGES"
      else
        let _ ← verifyUntrackedFileHashes none surroundings.sha256 checkout files
          snapshot.protectedUntrackedHashes
        let observed ← changedPaths none checkout files
        let unexpected := observed.filter (· ∉ snapshot.protectedUntrackedHashes.map Prod.fst)
        if !unexpected.isEmpty then return .inl "FAILED_TASK_LEFT_UNAUTHORIZED_CANONICAL_CHANGES"
        else
          let (candidate, candidateFiles) ← (disk snapshot.candidateWorkspacePath).opened
          let candidateHead ← currentHead none candidate
          let changes ← changedPaths none candidate candidateFiles
          return .inr (candidateHead, changes)

def quarantineEntry (reason timestamp : String) : Json :=
  .obj [("event", .str "FAILED_CANDIDATE_QUARANTINED"), ("reason", .str reason),
    ("timestamp", .str timestamp)]

/-- A quarantined workflow is blocked, and its history says why. -/
def quarantineFailedCandidate (workflowId reason : String) : Op Unit := do
  let store ← get
  match store.workflows.get? workflowId with
  | none => return ()
  | some workflow => do
      let timestamp ← Op.nowIso
      let updatedAt ← Op.utcNow
      Op.putWorkflow { workflow with
        workflowState := .blocked
        activeTaskId := none
        checkpointHistory := workflow.checkpointHistory ++ [quarantineEntry reason timestamp]
        updatedAt := updatedAt }

def quarantined : ContainmentResult where
  status := .contained
  reason := some "FAILED_CANDIDATE_QUARANTINED"
  candidateQuarantined := true

def settleCandidate (workflowId : String) (snapshot : ContainmentSnapshot) (candidateHead : String)
    (changes : List String) : Op ContainmentResult := do
  if candidateHead ≠ snapshot.candidateHead then
    quarantineFailedCandidate workflowId "FAILED_TASK_CHANGED_CANDIDATE_HEAD"
    return quarantined
  else if !changes.isEmpty then
    quarantineFailedCandidate workflowId "FAILED_TASK_LEFT_CANDIDATE_CHANGES"
    return quarantined
  else return { status := .contained, reason := some "TASK_LOCAL_FAILURE_CONTAINED" }

def proveContainedFailure (surroundings : Surroundings) (disk : Disk) (workflowId : String) :
    Option ContainmentSnapshot → Op ContainmentResult
  | none => return notContained "CONTAINMENT_SNAPSHOT_MISSING"
  | some snapshot =>
    match reference snapshot.baselineCommit with
    | none => return notContained "FROZEN_BASELINE_COMMIT_REQUIRED"
    | some baseline =>
      match unsafeBefore snapshot baseline with
      | some reason => return notContained reason
      | none =>
        match checkAfter surroundings disk snapshot baseline with
        | .error (.gitMutation code _) =>
          return notContained ("CONTAINMENT_GIT_CHECK_FAILED:" ++ code)
        | .error error => throw (Router.acceptanceExc error)
        | .ok (.inl reason) => return notContained reason
        | .ok (.inr (candidateHead, changes)) =>
          settleCandidate workflowId snapshot candidateHead changes

end Lucius.NightShift
