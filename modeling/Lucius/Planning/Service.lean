import Lucius.Planning.Freeze
import Lucius.Tasks.Policy

/-! The planner of tasks: a plan is made of an answer of the planning model, and may be
superseded or rejected later.

What is retrieved for a plan, what the model answers, and what the validation of the
answer finds or adds, is a parameter: it ends in blockers or in a plan. Whether that plan
needs more authority than its contract gives is judged here. -/

namespace Lucius.Planning

def planningBlocker (code message : String) (metadata : Dict) : Dict :=
  [("code", .str code), ("message", .str message), ("metadata", .obj metadata)]

structure PlanningModel where
  propose : Store → PlanningContext → Except (List Dict) ModelEngineeringPlanOutput

structure PlanningResult where
  plan : Option EngineeringPlanRow := none
  blockers : List Dict := []

def planningAudit (task : TaskRow) (eventType action result : String) : AuditDraft where
  eventType := eventType
  projectId := some task.projectId
  taskId := some task.id
  action := action
  result := result

/-- What a task lacks to be planned. -/
def preflightBlockers (tables : Tables) (task : TaskRow) (snapshotIds : List String) : List Dict :=
  let contract := tables.activeContract task.id
  (if ((tables.projects.get? task.projectId).any (fun project => project.status = .active)) then []
    else [planningBlocker "PROJECT_INACTIVE" "Project is not active." []]) ++
    (if task.status ∈ [TaskStatus.ready, .running, .blocked] then []
      else [planningBlocker "TASK_NOT_READY" "Task must be READY or RUNNING before planning." []]) ++
    (if contract.any (fun terms => !terms.acceptanceCriteria.isEmpty) then []
      else [planningBlocker "TASK_CONTRACT_INVALID" "Task requires a valid TaskContract." []]) ++
    (if contract.any (fun terms => !terms.repositoryIds.isEmpty && snapshotIds.isEmpty) then
        [planningBlocker "REPOSITORY_SNAPSHOT_REQUIRED"
          "Repository snapshots are required for repository-bound planning." []]
      else [])

def planningContext (task : TaskRow) (contract : TaskContractRow) (snapshotIds : List String) :
    PlanningContext where
  taskId := task.id
  projectId := task.projectId
  taskContractId := contract.id
  taskContractVersion := contract.version
  contractAuthorityLevel := contract.authorityLevel
  snapshotIds := snapshotIds
  plannedFor := some contract

/-- A plan above the authority of its contract is kept, with a blocker. -/
def authorityBlockers (context : PlanningContext) (plan : ModelEngineeringPlanOutput) : List Dict :=
  if Tasks.authorityExceeds plan.requiredAuthorityLevel context.contractAuthorityLevel then
    [planningBlocker "AUTHORITY_ESCALATION_REQUIRED" "Plan requires authority above TaskContract authority."
      [("required_authority_level", .str (StrEnum.value plan.requiredAuthorityLevel)),
        ("contract_authority_level", .str (StrEnum.value context.contractAuthorityLevel))]]
  else []

namespace EngineeringPlannerService

def refused (task : TaskRow) (eventType : String) (blockers : List Dict) : Op PlanningResult := do
  Op.record (planningAudit task eventType "create_engineering_plan" "BLOCKED")
  return { blockers := blockers }

def createFor (model : PlanningModel) (task : TaskRow) (contract : TaskContractRow)
    (snapshotIds : List String) : Op PlanningResult := do
  let context := planningContext task contract snapshotIds
  let store ← get
  match model.propose store context with
  | .error blockers => refused task "ENGINEERING_PLAN_INVALID" blockers
  | .ok modelPlan => do
      let blockers := authorityBlockers context modelPlan
      let plan ← EngineeringPlanRepository.create context modelPlan blockers
      Op.record (planningAudit task "ENGINEERING_PLAN_CREATED" "create_engineering_plan" "SUCCESS")
      Op.record (planningAudit task "ENGINEERING_PLAN_PROPOSED" "propose_engineering_plan" "SUCCESS")
      return { plan := some plan, blockers := blockers }

def createPlan (model : PlanningModel) (taskId : String) (snapshotIds : List String) :
    Op PlanningResult := do
  let store ← get
  match store.tasks.get? taskId with
  | none => throw (.valueError ("Unknown task: " ++ taskId))
  | some task => do
      Op.record (planningAudit task "PLANNING_STARTED" "create_engineering_plan" "STARTED")
      match preflightBlockers store.toTables task snapshotIds, store.activeContract task.id with
      | [], some contract => createFor model task contract snapshotIds
      | blockers, _ => refused task "PLANNING_BLOCKED" blockers

/-- The plan before is superseded only by a plan that was made. -/
def replan (model : PlanningModel) (previousPlanId : String) (snapshotIds : List String) :
    Op PlanningResult := do
  let previous ← planRow previousPlanId
  let result ← createPlan model previous.taskId snapshotIds
  match result.plan with
  | none => return result
  | some plan => do
      let created ← planRow plan.id
      let superseded ← planRow previousPlanId
      let linked := { created with supersedesPlanId := some superseded.id }
      putPlan { superseded with status := .superseded, supersededByPlanId := some plan.id }
      putPlan linked
      Op.record {
        eventType := "ENGINEERING_PLAN_SUPERSEDED"
        projectId := some previous.projectId
        taskId := some previous.taskId
        action := "replan"
        result := "SUCCESS" }
      return { result with plan := some linked }

def rejectPlan (planId : String) : Op EngineeringPlanRow := do
  let plan ← EngineeringPlanRepository.reject planId
  Op.record {
    eventType := "ENGINEERING_PLAN_REJECTED"
    projectId := some plan.projectId
    taskId := some plan.taskId
    action := "reject_engineering_plan"
    result := "SUCCESS" }
  return plan

end EngineeringPlannerService
end Lucius.Planning
