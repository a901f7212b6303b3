import Lucius.Runtime.DeterministicAcceptance

/-! The engineering plans and their repository.

What a plan says beyond its authority, its files and its checks is persisted as the gates of
a freeze read it. -/

namespace Lucius.Planning

open Acceptance Lucius.Action

structure AffectedFilePlan where
  path : String
  status : AffectedFileStatus := .unknown
  evidenceIds : List String := []
  deriving DecidableEq

def AffectedFilePlan.dump (file : AffectedFilePlan) : Dict :=
  [("path", .str file.path), ("status", .str (StrEnum.value file.status)),
    ("evidence_ids", Json.ofTexts file.evidenceIds)]

/-- A check as a plan states it: each type has the arguments it takes and no others. -/
inductive DeterministicAcceptanceCheck where
  | commandSucceeds (argv : List String) (timeoutSeconds : Option Int)
  | fileExists (path : String)
  | text (type : TextCheck) (path expectedText : String)
  deriving DecidableEq, Repr

/-- A path is stripped; a blank one is refused. -/
def nonemptyPath (path : String) : Except PyExc String :=
  if (Json.strip path.toList).isEmpty then .error .validationError
  else .ok (String.ofList (Json.strip path.toList))

def DeterministicAcceptanceCheck.ofCheck : Check → Except PyExc DeterministicAcceptanceCheck
  | .commandSucceeds argv timeoutSeconds => .ok (.commandSucceeds argv (some timeoutSeconds))
  | .fileExists path => do return .fileExists (← nonemptyPath path)
  | .text type path expectedText => do return .text type (← nonemptyPath path) expectedText

/-- The arguments that are not given are left out. -/
def DeterministicAcceptanceCheck.dump : DeterministicAcceptanceCheck → Dict
  | .commandSucceeds argv timeoutSeconds =>
    [("type", .str "command_succeeds"), ("argv", Json.ofTexts argv)] ++
      (timeoutSeconds.map (fun timeout => ("timeout_seconds", Json.int timeout))).toList
  | .fileExists path => [("type", .str "file_exists"), ("path", .str path)]
  | .text type path expectedText =>
    [("type", .str type.name), ("path", .str path), ("expected_text", .str expectedText)]

structure PlanStep where
  stepId : String
  title : String := ""
  description : String := ""
  affectedFiles : List String := []
  requiredEvidenceIds : List String := []
  memoryIds : List String := []
  authorityLevel : AuthorityLevel := .l1
  supportStatus : PlanStepSupportStatus := .inferred

structure AcceptanceCoverage where
  criterionId : String
  status : AcceptanceCoverageStatus
  stepIds : List String := []
  evidenceIds : List String := []

structure PlanAssumption where
  statement : String
  verified : Bool := false
  evidenceIds : List String := []

structure PlanUnknown where
  statement : String
  blocking : Bool := false

structure TestRecommendation where
  description : String
  evidenceIds : List String := []

/-- Of a risk its text is kept, and of a documentation requirement its reason. -/
structure ModelEngineeringPlanOutput where
  requiredAuthorityLevel : AuthorityLevel := .l1
  affectedFiles : List AffectedFilePlan := []
  deterministicAcceptanceChecks : List DeterministicAcceptanceCheck := []
  content : Dict := []
  summary : String := ""
  objective : String := ""
  riskLevel : PlanRiskLevel := .low
  assumptions : List PlanAssumption := []
  unknowns : List PlanUnknown := []
  affectedComponents : List String := []
  steps : List PlanStep := []
  acceptanceCoverage : List AcceptanceCoverage := []
  documentationReasons : List String := []
  risks : List String := []
  testStrategy : List TestRecommendation := []

structure PlanningEvidenceItem where
  evidenceId : String
  repositoryId : String := ""
  snapshotId : String
  sourceType : String := ""
  path : String
  snippet : Option String := none
  relevanceScore : Rat := 0
  matchReasons : List String := []

/-- What a plan is made from. The contract itself is not handed on by the program. -/
structure PlanningContext where
  taskId : String
  projectId : String
  taskContractId : String
  taskContractVersion : Nat := 1
  contractAuthorityLevel : AuthorityLevel := .l1
  snapshotIds : List String := []
  plannedFor : Option TaskContractRow := none
  taskComplexity : String := ""
  acceptanceCriteria : List Dict := []
  environment : Environment := .sandbox
  evidence : List PlanningEvidenceItem := []
  memoryIds : List String := []

def latestVersion (tables : Tables) (taskId : String) : Nat :=
  ((tables.plans.rows.filter (fun row => row.taskId = taskId)).map EngineeringPlanRow.version).foldr
    max 0

/-- A row whose key is taken is refused by the database. -/
def addPlan (row : EngineeringPlanRow) : Op Unit := do
  let store ← get
  if (store.plans.get? row.id).isSome then throw .databaseError
  else set { store with plans := store.plans.add row }

def putPlan (row : EngineeringPlanRow) : Op Unit :=
  modify (fun store => { store with plans := store.plans.put row })

def planRow (planId : String) : Op EngineeringPlanRow := do
  let store ← get
  match store.plans.get? planId with
  | some row => return row
  | none => throw (.valueError ("Unknown engineering plan: " ++ planId))

namespace EngineeringPlanRepository

def newRow (context : PlanningContext) (modelPlan : ModelEngineeringPlanOutput)
    (blockers : List Dict) (id : String) (version : Nat) : EngineeringPlanRow where
  id := id
  taskId := context.taskId
  projectId := context.projectId
  taskContractId := context.taskContractId
  taskContractVersion := context.taskContractVersion
  version := version
  status := .proposed
  requiredAuthorityLevel := StrEnum.value modelPlan.requiredAuthorityLevel
  riskLevel := StrEnum.value modelPlan.riskLevel
  repositorySnapshotIds := context.snapshotIds.filter (fun snapshot => !snapshot.toList.isEmpty)
  evidenceIds := context.evidence.map PlanningEvidenceItem.evidenceId
  affectedFiles := modelPlan.affectedFiles.map AffectedFilePlan.dump
  deterministicAcceptanceChecks :=
    modelPlan.deterministicAcceptanceChecks.map DeterministicAcceptanceCheck.dump
  blockers := blockers
  content := modelPlan.content
  plannedFor := context.plannedFor

def create (context : PlanningContext) (modelPlan : ModelEngineeringPlanOutput)
    (blockers : List Dict) : Op EngineeringPlanRow := do
  let store ← get
  let id ← Op.nextId .engineeringPlan
  let row := newRow context modelPlan blockers id (latestVersion store.toTables context.taskId + 1)
  addPlan row
  return row

def reject (planId : String) : Op EngineeringPlanRow := do
  let row ← planRow planId
  let rejected := { row with status := .rejected }
  putPlan rejected
  return rejected

theorem create_ok {context : PlanningContext} {modelPlan : ModelEngineeringPlanOutput}
    {blockers : List Dict} {store after : Store} {row : EngineeringPlanRow}
    (done : exec (create context modelPlan blockers) store = (.ok row, after)) :
    store.plans.get? row.id = none ∧
      row = newRow context modelPlan blockers row.id (latestVersion store.toTables context.taskId + 1) ∧
      after = { store.issue .engineeringPlan with plans := store.plans.add row } := by
  unfold create at done
  rw [exec_get_bind, exec_bind_of_ok (Op.exec_nextId _ _)] at done
  obtain ⟨_, middle, added, done⟩ := bind_ok done
  obtain ⟨rfl, rfl⟩ := ok_pure done
  unfold addPlan at added
  rw [exec_get_bind] at added
  split at added
  · cases added
  · next fresh =>
      cases added
      exact ⟨by simpa using fresh, rfl, rfl⟩

end EngineeringPlanRepository
end Lucius.Planning
