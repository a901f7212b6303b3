import Lucius.Planning.Plans
import Lucius.Runtime.Requests

/-! Freezing a plan. A plan is frozen once: a later freeze returns the first.

The gates on the claims and the completeness of a plan read its content and the evidence
of the project; they are a parameter, and name the issues they find. -/

namespace Lucius.Planning

open Acceptance Lucius.Action

abbrev FreezeGates := Store → EngineeringPlanRow → Except PyExc (List String)

def objects (dicts : List Dict) : Json := .arr (dicts.map Json.obj)

def planPayload (plan : EngineeringPlanRow) : Dict :=
  [("id", .str plan.id), ("task_id", .str plan.taskId), ("project_id", .str plan.projectId),
    ("task_contract_id", .str plan.taskContractId),
    ("task_contract_version", .int plan.taskContractVersion),
    ("required_authority_level", .str plan.requiredAuthorityLevel),
    ("repository_snapshot_ids", Json.ofTexts plan.repositorySnapshotIds),
    ("evidence_ids", Json.ofTexts plan.evidenceIds),
    ("affected_files", objects plan.affectedFiles),
    ("deterministic_acceptance_checks", objects plan.deterministicAcceptanceChecks),
    ("blockers", objects plan.blockers)] ++ plan.content

/-- The paths a payload lists, as they are written there. -/
def affectedPaths (files : List Json) : List String :=
  files.filterMap (fun file =>
    match file with
    | .obj members => (Dict.get members "path").text?.filter (fun path => !path.toList.isEmpty)
    | _ => none)

/-- The codes of the issues; an exception of another kind goes through. -/
def checkIssues (paths : List String) (checks : List Json) : Except PyExc (List String) :=
  match normalizeDeterministicAcceptanceChecks paths (.arr checks) with
  | .ok _ => .ok []
  | .error (.acceptance code _) => .ok [code]
  | .error other => .error (Router.acceptanceExc other)

def deterministicAcceptanceCheckIssues (payload : Dict) : Except PyExc (List String) :=
  match payload.getOr "affected_files" (.arr []) with
  | .arr files =>
    match payload.getOr "deterministic_acceptance_checks" (.arr []) with
    | .arr checks => checkIssues (affectedPaths files) checks
    | _ => .ok ["INVALID_DETERMINISTIC_ACCEPTANCE_CHECKS"]
  | _ => .ok ["INVALID_AFFECTED_FILES"]

/-- The commit of the one snapshot a plan refers to. -/
def freezeCommitSha (tables : Tables) (plan : EngineeringPlanRow) : Option String :=
  match plan.repositorySnapshotIds with
  | [snapshotId] => (tables.snapshots.get? snapshotId).bind RepositorySnapshotRow.commitSha
  | _ => none

def freezeOfPlan (tables : Tables) (planId : String) : Option PlanFreezeRow :=
  tables.freezes.rows.find? (fun freeze => freeze.planId = planId)

def freezeRow (tables : Tables) (plan : EngineeringPlanRow) (id : String) : PlanFreezeRow where
  id := id
  planId := plan.id
  taskId := plan.taskId
  projectId := plan.projectId
  commitSha := freezeCommitSha tables plan
  planPayload := .obj (planPayload plan)

def freezeAudit (plan : EngineeringPlanRow) (eventType result : String) : AuditDraft where
  eventType := eventType
  projectId := some plan.projectId
  taskId := some plan.taskId
  action := "freeze_engineering_plan"
  result := result

def addFreeze (row : PlanFreezeRow) : Op Unit := do
  let store ← get
  if (store.freezes.get? row.id).isSome then throw .databaseError
  else set { store with freezes := store.freezes.add row }

namespace PlanFreezeService

/-- An issue is recorded before it is raised. -/
def refuse (plan : EngineeringPlanRow) (result : String) : List String → Op Unit
  | [] => return ()
  | code :: _ => do
      let label := if result.toList.isEmpty then code else result
      Op.record (freezeAudit plan "ENGINEERING_PLAN_FREEZE_BLOCKED" label)
      throw (.planFreezeError label)

def add (plan : EngineeringPlanRow) : Op PlanFreezeRow := do
  let store ← get
  let id ← Op.nextId .planFreeze
  let _ ← Op.utcNow
  let row := freezeRow store.toTables plan id
  addFreeze row
  Op.record (freezeAudit plan "ENGINEERING_PLAN_FROZEN" "SUCCESS")
  return row

def freeze (gates : FreezeGates) (planId : String) : Op PlanFreezeRow := do
  let store ← get
  match freezeOfPlan store.toTables planId with
  | some existing => return existing
  | none =>
    match store.plans.get? planId with
    | none => throw (.valueError ("Unknown EngineeringPlan: " ++ planId))
    | some plan => do
        let issues ← Action.ofExcept (deterministicAcceptanceCheckIssues (planPayload plan))
        refuse plan "INVALID_DETERMINISTIC_ACCEPTANCE_CHECK" issues
        let found ← Action.ofExcept (gates store plan)
        refuse plan "" found
        add plan

theorem refuse_ok {plan : EngineeringPlanRow} {result : String} {issues : List String}
    {store after : Store}
    (done : Action.exec (refuse plan result issues) store = (.ok (), after)) :
    issues = [] ∧ after = store := by
  cases issues with
  | nil =>
    cases done
    exact ⟨rfl, rfl⟩
  | cons code rest => cases done

theorem add_ok {plan : EngineeringPlanRow} {store after : Store} {row : PlanFreezeRow}
    (done : Action.exec (add plan) store = (.ok row, after)) :
    store.freezes.get? row.id = none ∧ row = freezeRow store.toTables plan row.id ∧
      after.toTables = { store.toTables with freezes := store.freezes.add row } := by
  unfold add at done
  rw [exec_get_bind, exec_bind_of_ok (Op.exec_nextId _ _),
    exec_bind_of_ok (Op.exec_utcNow _)] at done
  obtain ⟨_, middle, added, later⟩ := bind_ok done
  rw [exec_bind_of_ok (Op.exec_record _ _)] at later
  obtain ⟨rfl, rfl⟩ := ok_pure later
  unfold addFreeze at added
  rw [exec_get_bind] at added
  split at added
  · cases added
  · next fresh =>
      cases added
      exact ⟨by simpa using fresh, rfl, rfl⟩

theorem freeze_ok {gates : FreezeGates} {planId : String} {store after : Store} {row : PlanFreezeRow}
    (done : Action.exec (freeze gates planId) store = (.ok row, after)) :
    (freezeOfPlan store.toTables planId = some row ∧ after = store) ∨
      (freezeOfPlan store.toTables planId = none ∧
        ∃ plan, store.plans.get? planId = some plan ∧
          deterministicAcceptanceCheckIssues (planPayload plan) = .ok [] ∧
          gates store plan = .ok [] ∧ store.freezes.get? row.id = none ∧
          row = freezeRow store.toTables plan row.id ∧
          after.toTables = { store.toTables with freezes := store.freezes.add row }) := by
  unfold freeze at done
  rw [exec_get_bind] at done
  cases frozen : freezeOfPlan store.toTables planId with
  | some existing =>
    rw [frozen] at done
    obtain ⟨rfl, rfl⟩ := ok_pure done
    exact .inl ⟨rfl, rfl⟩
  | none =>
    rw [frozen] at done
    cases present : store.plans.get? planId with
    | none =>
      rw [present] at done
      cases done
    | some plan =>
      rw [present] at done
      obtain ⟨issues, checked, done⟩ := bind_ofExcept_ok done
      obtain ⟨_, middle, refused, done⟩ := bind_ok done
      obtain ⟨rfl, rfl⟩ := refuse_ok refused
      obtain ⟨found, gated, done⟩ := bind_ofExcept_ok done
      obtain ⟨_, last, accepted, done⟩ := bind_ok done
      obtain ⟨nothing, same⟩ := refuse_ok accepted
      rw [nothing] at gated
      rw [same] at done
      have added := add_ok done
      exact .inr ⟨rfl, plan, rfl, checked, gated, added⟩

end PlanFreezeService
end Lucius.Planning
