import Lucius.Planning.Freeze
import Lucius.Workflows.Service

/-! The planning adapter of the runtime: it makes and freezes the plan of a workflow that
has none, out of what the items of its backlog declare. -/

namespace Lucius.Planning

open Worktree Acceptance Lucius.Action Router

def readOnlyPlanTypes : List String :=
  ["inspection", "inspection_reasoning", "reasoning", "read_only", "read-only"]

/-- The type of an item as the planner reads it, its execution mode where it has none. -/
def plannedTaskType (item : Dict) : String :=
  let named := ((item.get "task_type").orElse (item.get "execution_mode")).orElse (.str "")
  lower (String.ofList (Json.strip named.pyStr.toList))

def flaggedReadOnly (item : Dict) : Bool :=
  (item.get "read_only").isTrue ||
    (match item.get "mutation_allowed" with
      | .bool allowed => !allowed
      | _ => false)

def runtimeItemIsReadOnly (item : Dict) : Bool :=
  flaggedReadOnly item || decide (plannedTaskType item ∈ readOnlyPlanTypes)

def runtimeWorkflowIsReadOnly (queueItems : List Dict) : Bool :=
  !queueItems.isEmpty && queueItems.all runtimeItemIsReadOnly

def runtimeItemIsUnattended (item : Dict) : Bool :=
  (item.get "unattended").isTrue || (item.get "unattended_execution").isTrue ||
    (item.get "unattended_eligible").isTrue

def runtimeWorkflowIsUnattended (queueItems : List Dict) : Bool :=
  queueItems.any runtimeItemIsUnattended

def rawMutationPath : Json → Json
  | .obj members => Dict.get members "path"
  | other => other

def mutationPath (entry : Json) : Except PyExc String :=
  match validateRelativeRepoPath (rawMutationPath entry) with
  | .ok path => .ok path
  | .error (.gitMutation _ _) =>
    .error (.valueError ("Runtime queue item contains invalid mutation path: " ++
      (rawMutationPath entry).pyRepr))
  | .error other => .error (acceptanceExc other)

def mutationPathsUnder (item : Dict) (key : String) : Except PyExc (List String) :=
  match item.get key with
  | .null => .ok []
  | .arr entries => entries.mapM mutationPath
  | _ => .error (.valueError ("Runtime queue item " ++ key ++ " must be a list."))

def explicitMutationPathsFromItem (item : Dict) : Except PyExc (List String) := do
  let allowed ← mutationPathsUnder item "allowed_mutation_paths"
  let affected ← mutationPathsUnder item "affected_files"
  return allowed ++ affected

/-- The paths of all items, the first mention of each. -/
def runtimeAffectedFiles (queueItems : List Dict) : Except PyExc (List AffectedFilePlan) := do
  let paths ← queueItems.mapM explicitMutationPathsFromItem
  return paths.flatten.eraseDups.map (fun path => { path := path, status := .newProposed })

/-- An item may write its expected text under a shorter name. -/
def normalizeQueueAcceptanceCheckInput (check : Dict) : Dict :=
  if !check.has "expected_text" && check.has "text" then
    check.filter (fun entry => entry.1 ≠ "text") ++ [("expected_text", check.get "text")]
  else check

def queueAcceptanceCheck : Json → Except PyExc Json
  | .obj check => .ok (.obj (normalizeQueueAcceptanceCheckInput check))
  | _ =>
    .error (.valueError
      "Runtime queue item deterministic_acceptance_checks entries must be objects.")

def acceptanceChecksFromItem (item : Dict) : Except PyExc (List Json) :=
  match item.getOr "deterministic_acceptance_checks" (.arr []) with
  | .null => .ok []
  | .arr entries => entries.mapM queueAcceptanceCheck
  | _ =>
    .error (.valueError "Runtime queue item deterministic_acceptance_checks must be a list.")

/-- The checks of all items, over the paths of all items. -/
def runtimeDeterministicAcceptanceChecks (queueItems : List Dict) (authorizedPaths : List String) :
    Except PyExc (List Check) := do
  let listed ← queueItems.mapM acceptanceChecksFromItem
  match normalizeDeterministicAcceptanceChecks authorizedPaths (.arr listed.flatten) with
  | .ok checks => .ok checks
  | .error (.acceptance code _) =>
    .error (.valueError
      ("Runtime queue item deterministic_acceptance_checks are invalid: " ++ code))
  | .error other => .error (acceptanceExc other)

/-- What a mutation needs to be planned at all. -/
def planningGap (queueItems : List Dict) (affectedFiles : List AffectedFilePlan)
    (checks : List Check) : Option String :=
  if runtimeWorkflowIsReadOnly queueItems then none
  else if affectedFiles.isEmpty then
    some "Runtime mutation planning requires explicit allowed_mutation_paths or affected_files."
  else if runtimeWorkflowIsUnattended queueItems && checks.isEmpty then
    some "Unattended runtime mutation planning requires explicit deterministic_acceptance_checks."
  else none

/-- The contract of the task says nothing in the plan. -/
def defaultModelPlan (workflow : PersistentWorkflowRow) : Except PyExc ModelEngineeringPlanOutput := do
  let queueItems := workflow.taskBacklog
  let affectedFiles ← runtimeAffectedFiles queueItems
  let checks ← runtimeDeterministicAcceptanceChecks queueItems
    (affectedFiles.map AffectedFilePlan.path)
  match planningGap queueItems affectedFiles checks with
  | some gap => .error (.valueError gap)
  | none => do
      let planned ← checks.mapM DeterministicAcceptanceCheck.ofCheck
      return {
        requiredAuthorityLevel := .l1
        affectedFiles := affectedFiles
        deterministicAcceptanceChecks := planned
        content := [
          ("summary", .str ("Runtime plan for " ++ (nonEmpty workflow.taskId).getD workflow.id)),
          ("objective", .str workflow.objective)] }

structure RuntimePlanReference where
  workflowId : String
  planId : String
  planFreezeId : String
  createdByRuntime : Bool
  deriving DecidableEq, Repr

structure ScriptedRuntimePlanningAdapter where
  plansByWorkflowId : String → Option ModelEngineeringPlanOutput := fun _ => none
  gates : FreezeGates

def workflowContract (tables : Tables) (workflow : PersistentWorkflowRow) : Option TaskContractRow :=
  (nonEmpty workflow.taskId).bind tables.activeContract

def planningContextFromWorkflow (tables : Tables) (workflow : PersistentWorkflowRow) :
    PlanningContext :=
  let taskId := (nonEmpty workflow.taskId).getD workflow.id
  let contract := workflowContract tables workflow
  { taskId := taskId
    projectId := (nonEmpty workflow.projectId).getD "PROJECT_UNSPECIFIED"
    taskContractId := (contract.map TaskContractRow.id).getD (taskId ++ "_RUNTIME_CONTRACT")
    taskContractVersion := (contract.map TaskContractRow.version).getD 1
    contractAuthorityLevel := (contract.map TaskContractRow.authorityLevel).getD .l1
    snapshotIds := (nonEmpty workflow.repositorySnapshotId).toList
    plannedFor := contract }

/-- The plan and the freeze a workflow already has. -/
def preparedReference (workflow : PersistentWorkflowRow) : Option RuntimePlanReference :=
  match nonEmpty workflow.planId, nonEmpty workflow.planFreezeId with
  | some planId, some planFreezeId => some ⟨workflow.id, planId, planFreezeId, false⟩
  | _, _ => none

namespace ScriptedRuntimePlanningAdapter

def modelPlan (adapter : ScriptedRuntimePlanningAdapter) (workflow : PersistentWorkflowRow) :
    Except PyExc ModelEngineeringPlanOutput :=
  match adapter.plansByWorkflowId workflow.id with
  | some scripted => .ok scripted
  | none => defaultModelPlan workflow

def plan (adapter : ScriptedRuntimePlanningAdapter) (workflow : PersistentWorkflowRow) :
    Op RuntimePlanReference := do
  let modelPlan ← Action.ofExcept (adapter.modelPlan workflow)
  let store ← get
  let plan ← EngineeringPlanRepository.create (planningContextFromWorkflow store.toTables workflow)
    modelPlan []
  let freeze ← PlanFreezeService.freeze adapter.gates plan.id
  let _ ← Workflows.attachPlan workflow.id plan.id freeze.id
  return ⟨workflow.id, plan.id, freeze.id, true⟩

def prepareWorkflowPlan (adapter : ScriptedRuntimePlanningAdapter) (workflowId : String) :
    Op RuntimePlanReference := do
  let workflow ← Workflows.workflowRow workflowId
  match preparedReference workflow with
  | some reference => return reference
  | none => adapter.plan workflow

/-- A plan that is made is the model's plan, frozen as it is or as the freeze its number
already had. -/
theorem plan_ok {adapter : ScriptedRuntimePlanningAdapter} {workflow : PersistentWorkflowRow}
    {store after : Store} {reference : RuntimePlanReference}
    (done : Action.exec (adapter.plan workflow) store = (.ok reference, after)) :
    ∃ modelPlan plan created freeze,
      adapter.modelPlan workflow = .ok modelPlan ∧ store.plans.get? plan.id = none ∧
        plan = EngineeringPlanRepository.newRow (planningContextFromWorkflow store.toTables workflow)
          modelPlan [] plan.id
          (latestVersion store.toTables
            (planningContextFromWorkflow store.toTables workflow).taskId + 1) ∧
        created = { store.issue .engineeringPlan with plans := store.plans.add plan } ∧
        ∃ frozen attached,
          Action.exec (PlanFreezeService.freeze adapter.gates plan.id) created = (.ok freeze, frozen) ∧
          Action.exec (Workflows.attachPlan workflow.id plan.id freeze.id) frozen =
            (.ok attached, after) ∧
          reference = ⟨workflow.id, plan.id, freeze.id, true⟩ := by
  unfold plan at done
  obtain ⟨modelPlan, made, done⟩ := bind_ofExcept_ok done
  rw [exec_get_bind] at done
  obtain ⟨row, created, makes, done⟩ := bind_ok done
  obtain ⟨fresh, shape, reached⟩ := EngineeringPlanRepository.create_ok makes
  obtain ⟨freeze, frozen, freezes, done⟩ := bind_ok done
  obtain ⟨attached, last, attaches, done⟩ := bind_ok done
  obtain ⟨rfl, rfl⟩ := ok_pure done
  exact ⟨modelPlan, row, created, freeze, made, fresh, shape, reached, frozen, attached, freezes,
    attaches, rfl⟩

theorem prepareWorkflowPlan_ok {adapter : ScriptedRuntimePlanningAdapter} {workflowId : String}
    {store after : Store} {reference : RuntimePlanReference}
    (done : Action.exec (adapter.prepareWorkflowPlan workflowId) store = (.ok reference, after)) :
    ∃ workflow, store.workflows.get? workflowId = some workflow ∧ workflow.id = workflowId ∧
      ((preparedReference workflow = some reference ∧ after = store) ∨
        (preparedReference workflow = none ∧
          Action.exec (adapter.plan workflow) store = (.ok reference, after))) := by
  unfold prepareWorkflowPlan at done
  obtain ⟨workflow, present, named, done⟩ := Workflows.workflowRow_bind_ok done
  have held : store.workflows.get? workflowId = some workflow := named ▸ present
  cases prepared : preparedReference workflow with
  | some known =>
    rw [prepared] at done
    obtain ⟨rfl, rfl⟩ := ok_pure done
    exact ⟨workflow, held, named, .inl ⟨prepared, rfl⟩⟩
  | none =>
    rw [prepared] at done
    exact ⟨workflow, held, named, .inr ⟨prepared, done⟩⟩

end ScriptedRuntimePlanningAdapter
end Lucius.Planning
