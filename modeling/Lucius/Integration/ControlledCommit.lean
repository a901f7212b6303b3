import Lucius.Integration.Service

/-! What the service of controlled commits asks of the database and of the frozen payload
before it looks at a tree. -/

namespace Lucius.ControlledCommit

open Worktree Acceptance Integration

structure ControlledCommitRequest where
  workflowId : String
  canonicalRepositoryPath : String
  expectedBaselineCommit : String
  authorityLevel : AuthorityLevel := .l2
  commitMessage : Option String := none
  protectedUntrackedHashes : List (String × String) := []

inductive CommitExc where
  | blocked (reason : String)
  | raised (error : WorkspaceExc)
  | alreadyCommitted (record : ControlledCommitRow)

/-- An unknown level ranks below every other here. -/
def authorityRank (value : String) : Int :=
  match (StrEnum.ofValue? value : Option AuthorityLevel) with
  | some .l0 => 0
  | some .l1 => 1
  | some .l2 => 2
  | some .l3 => 3
  | none => -1

def verifyCommitAuthority (task : TaskRow) (contract : TaskContractRow) : Except CommitExc Unit :=
  let required := authorityRank (StrEnum.value AuthorityLevel.l2)
  if StrEnum.value AllowedAction.createCommit ∉ contract.allowedActions then
    .error (.blocked "CREATE_COMMIT_NOT_AUTHORIZED")
  else if authorityRank (StrEnum.value task.authorityLevel) < required then
    .error (.blocked "TASK_L2_AUTHORITY_REQUIRED")
  else if authorityRank (StrEnum.value contract.authorityLevel) < required then
    .error (.blocked "CONTRACT_L2_AUTHORITY_REQUIRED")
  else .ok ()

structure CommitWork where
  workflow : PersistentWorkflowRow
  task : TaskRow
  plan : EngineeringPlanRow
  freeze : PlanFreezeRow
  contract : TaskContractRow
  repository : RepositoryRegistrationRow

def closedPlan (tables : Tables) (workflow : PersistentWorkflowRow) :
    Except CommitExc (TaskRow × EngineeringPlanRow × PlanFreezeRow) :=
  match (reference workflow.taskId).bind tables.tasks.get? with
  | none => .error (.blocked "WORKFLOW_TASK_RELATIONSHIP_INVALID")
  | some task =>
    if some task.projectId ≠ workflow.projectId then
      .error (.blocked "WORKFLOW_TASK_RELATIONSHIP_INVALID")
    else
      match (reference workflow.planId).bind tables.plans.get?,
          (reference workflow.planFreezeId).bind tables.freezes.get? with
      | some plan, some freeze =>
        if plan.taskId ≠ task.id ∨ freeze.taskId ≠ task.id ∨ freeze.planId ≠ plan.id then
          .error (.blocked "FROZEN_PLAN_RELATIONSHIP_INVALID")
        else if some plan.projectId ≠ workflow.projectId ∨
            some freeze.projectId ≠ workflow.projectId then
          .error (.blocked "FROZEN_PLAN_PROJECT_MISMATCH")
        else .ok (task, plan, freeze)
      | _, _ => .error (.blocked "FROZEN_PLAN_REQUIRED")

def plannedContract (tables : Tables) (task : TaskRow) (plan : EngineeringPlanRow) :
    Except CommitExc TaskContractRow :=
  match tables.contracts.get? plan.taskContractId with
  | none => .error (.blocked "TASK_CONTRACT_REQUIRED")
  | some contract =>
    if contract.taskId ≠ task.id ∨ contract.version ≠ plan.taskContractVersion then
      .error (.blocked "TASK_CONTRACT_REQUIRED")
    else .ok contract

def attachedRepository (tables : Tables) (workflow : PersistentWorkflowRow) :
    Except CommitExc RepositoryRegistrationRow :=
  match (reference workflow.repositoryId).bind tables.repositories.get? with
  | none => .error (.blocked "REPOSITORY_REQUIRED")
  | some repository =>
    if repository.accessMode ≠ StrEnum.value RepositoryAccessMode.canonicalIntegration then
      .error (.blocked "REPOSITORY_ACCESS_MODE_NOT_CANONICAL_INTEGRATION")
    else if tables.attachments.any (fun attachment =>
        decide (some attachment.projectId = workflow.projectId) &&
          decide (attachment.repositoryId = repository.id)) = false then
      .error (.blocked "REPOSITORY_NOT_ATTACHED_TO_PROJECT")
    else .ok repository

def commitWork (tables : Tables) (request : ControlledCommitRequest) : Except CommitExc CommitWork :=
  if request.authorityLevel ≠ .l2 then .error (.blocked "L2_AUTHORITY_REQUIRED")
  else
    match tables.workflows.get? request.workflowId with
    | none => .error (.blocked "WORKFLOW_NOT_FOUND")
    | some workflow =>
      if workflow.workflowState ≠ .closed then .error (.blocked "WORKFLOW_NOT_CLOSED")
      else do
        let (task, plan, freeze) ← closedPlan tables workflow
        let contract ← plannedContract tables task plan
        verifyCommitAuthority task contract
        let repository ← attachedRepository tables workflow
        return ⟨workflow, task, plan, freeze, contract, repository⟩

def authorizedPath (item : Json) : Except CommitExc String :=
  match item with
  | .obj members =>
    match validateRelativeRepoPath (Dict.get members "path") with
    | .ok path => .ok path
    | .error (.gitMutation _ _) => .error (.blocked "INVALID_FROZEN_AFFECTED_FILES")
    | .error error => .error (.raised error)
  | _ => .error (.blocked "INVALID_FROZEN_AFFECTED_FILES")

def authorizedPaths (freeze : PlanFreezeRow) : Except CommitExc (List String) :=
  match (payloadOf freeze).get "affected_files" with
  | .arr items => do
      let paths ← items.mapM authorizedPath
      if paths.isEmpty then throw (.blocked "EMPTY_FROZEN_AFFECTED_FILES")
      else return firstOccurrences [] paths
  | _ => .error (.blocked "INVALID_FROZEN_AFFECTED_FILES")

def acceptanceChecks (freeze : PlanFreezeRow) (authorized : List String) :
    Except CommitExc (List Check) :=
  match (payloadOf freeze).get "deterministic_acceptance_checks" with
  | .arr (first :: rest) =>
    match normalizeDeterministicAcceptanceChecks authorized (.arr (first :: rest)) with
    | .ok checks => .ok checks
    | .error (.acceptance code _) =>
      .error (.blocked (Integration.frozenAcceptanceErrorCode code))
    | .error error => .error (.raised error)
  | _ => .error (.blocked "FROZEN_DETERMINISTIC_ACCEPTANCE_REQUIRED")

end Lucius.ControlledCommit
