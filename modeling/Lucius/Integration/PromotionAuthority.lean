import Lucius.Integration.ControlledCommit
import Lucius.Planning.Validation

/-! The authority of a plan between the planner, which raises it to the authority of the
contract, the integration, which caps it, and the commit, which asks for more. -/

namespace Lucius.Planning

open Tasks

theorem authorityRank_injective {first second : AuthorityLevel}
    (same : authorityRank first = authorityRank second) : first = second := by
  cases first <;> cases second <;> first | rfl | cases same

theorem le_maxAuthority (first second : AuthorityLevel) :
    authorityRank first ≤ authorityRank (maxAuthority first second) := by
  unfold maxAuthority
  split
  · exact le_refl _
  · omega

theorem steps_raise (steps : List PlanStep) (start : AuthorityLevel) :
    authorityRank start ≤ authorityRank (steps.foldl (fun required step =>
      if authorityExceeds step.authorityLevel required then step.authorityLevel else required)
      start) := by
  induction steps generalizing start with
  | nil => exact le_refl _
  | cons step rest ih =>
    have here : authorityRank start ≤ authorityRank
        (if authorityExceeds step.authorityLevel start then step.authorityLevel else start) := by
      split
      · next exceeds =>
          have above := of_decide_eq_true exceeds
          omega
      · exact le_refl _
    exact le_trans here (ih _)

theorem contract_le_requiredAuthority (context : PlanningContext)
    (plan : ModelEngineeringPlanOutput) :
    authorityRank context.contractAuthorityLevel ≤ authorityRank (requiredAuthority context plan) := by
  have stepped := steps_raise plan.steps context.contractAuthorityLevel
  unfold requiredAuthority
  dsimp only
  split
  · split
    · exact le_trans stepped (le_trans (le_maxAuthority _ _) (le_maxAuthority _ _))
    · exact le_trans stepped (le_maxAuthority _ _)
  · split
    · exact le_trans stepped (le_maxAuthority _ _)
    · exact stepped

theorem requiredAuthority_le_elevated (context : PlanningContext) (plan : ModelEngineeringPlanOutput) :
    authorityRank (requiredAuthority context plan) ≤
      authorityRank (elevated context plan).1.requiredAuthorityLevel := by
  unfold elevated
  dsimp only
  split
  · exact le_refl _
  · next within =>
      have bound : ¬ authorityRank plan.requiredAuthorityLevel <
          authorityRank (requiredAuthority context plan) := by
        intro exceeds
        exact within (decide_eq_true exceeds)
      omega

theorem accepted_authority {tables : Tables} {context : PlanningContext}
    {plan : ModelEngineeringPlanOutput} {validated : ValidatedPlan}
    (accepted : validateAndEnrichPlan tables context plan = .ok validated)
    (free : validated.blockers = []) :
    validated.plan.requiredAuthorityLevel = context.contractAuthorityLevel := by
  obtain ⟨files, known⟩ := validateAndEnrichPlan_accepted accepted free
  apply authorityRank_injective
  apply le_antisymm known.authority
  rw [known.enriched]
  exact le_trans (contract_le_requiredAuthority context _) (requiredAuthority_le_elevated context _)

end Lucius.Planning

namespace Lucius.Integration

open Planning

theorem frozenPlan_authority {tables : Tables} {workflow : PersistentWorkflowRow}
    {plan : EngineeringPlanRow} {freeze : PlanFreezeRow}
    (read : frozenPlan tables workflow = .ok (plan, freeze)) :
    authorityRank plan.requiredAuthorityLevel ≤ 1 := by
  unfold frozenPlan at read
  split at read
  · cases read
  split at read
  · cases read
  split at read
  · split at read
    · cases read
    split at read
    · cases read
    split at read
    · cases read
    · next within =>
        cases read
        exact not_lt.mp within
  · cases read

theorem frozenWork_authority {tables : Tables} {request : CanonicalIntegrationRequest}
    {work : FrozenWork} (read : frozenWork tables request = .ok work) :
    authorityRank work.plan.requiredAuthorityLevel ≤ 1 := by
  unfold frozenWork at read
  split at read
  · cases read
  split at read
  · cases read
  split at read
  · cases read
  split at read
  · cases read
  · obtain ⟨⟨plan, freeze⟩, planned, read⟩ := except_bind_ok read
    obtain ⟨repository, _, read⟩ := except_bind_ok read
    cases read
    exact frozenPlan_authority planned

/-- Under a contract of L2, the plan the planner accepts may be committed and can never be
integrated. -/
theorem l2_plan_never_integrated {tables : Tables} {task : TaskRow} {contract : TaskContractRow}
    {context : PlanningContext} {plan : ModelEngineeringPlanOutput} {validated : ValidatedPlan}
    (taskLevel : task.authorityLevel = .l2) (contractLevel : contract.authorityLevel = .l2)
    (allowed : StrEnum.value AllowedAction.createCommit ∈ contract.allowedActions)
    (bound : context.contractAuthorityLevel = contract.authorityLevel)
    (accepted : validateAndEnrichPlan tables context plan = .ok validated)
    (free : validated.blockers = []) :
    ControlledCommit.verifyCommitAuthority task contract = .ok () ∧
      ∀ (blockers : List Dict) (planId : String) (version : Nat) (rows : Tables)
        (request : CanonicalIntegrationRequest) (work : FrozenWork),
        frozenWork rows request = .ok work →
          work.plan ≠ EngineeringPlanRepository.newRow context validated.plan blockers planId version := by
  constructor
  · unfold ControlledCommit.verifyCommitAuthority
    rw [taskLevel, contractLevel]
    simp [allowed]
  · intro blockers planId version rows request work read same
    have level : validated.plan.requiredAuthorityLevel = .l2 := by
      rw [accepted_authority accepted free, bound, contractLevel]
    have capped := frozenWork_authority read
    rw [same] at capped
    dsimp only [EngineeringPlanRepository.newRow] at capped
    rw [level] at capped
    revert capped
    decide

/-- A task and a contract of L2 that allows a commit, and an answer that names one new file. -/
def commitContract : TaskContractRow where
  id := "LCONTR_000001"
  taskId := "LTASK_000001"
  authorityLevel := .l2
  allowedActions := [StrEnum.value AllowedAction.createCommit]

def commitTask : TaskRow where
  id := "LTASK_000001"
  projectId := "LPROJ_000001"
  authorityLevel := .l2
  status := .ready

def commitContext : PlanningContext where
  taskId := "LTASK_000001"
  projectId := "LPROJ_000001"
  taskContractId := "LCONTR_000001"
  contractAuthorityLevel := .l2

def notesAnswer : ModelEngineeringPlanOutput where
  affectedFiles := [{ path := "a.md" }]
  deterministicAcceptanceChecks := [.fileExists "a.md"]

def notesFiles : List AffectedFilePlan := [{ path := "a.md", status := .newProposed }]

def notesValidated : ValidatedPlan where
  plan := (elevated commitContext (supported (classified notesAnswer notesFiles))).1
  blockers := []
  warnings := (elevated commitContext (supported (classified notesAnswer notesFiles))).2

theorem notes_validated : validateAndEnrichPlan {} commitContext notesAnswer = .ok notesValidated := by
  have files : classifyAffectedFiles {} commitContext notesAnswer = .ok notesFiles := by
    decide +kernel
  have normal : Acceptance.normalizeDeterministicAcceptanceChecks
      ((classified notesAnswer notesFiles).affectedFiles.map (·.path))
      (.arr ((classified notesAnswer notesFiles).deterministicAcceptanceChecks.map
        (fun check => .obj check.dump))) = .ok [.fileExists "a.md"] := by
    decide +kernel
  have checks : validateDeterministicAcceptanceChecks (classified notesAnswer notesFiles) =
      .ok [] := by
    unfold validateDeterministicAcceptanceChecks
    rw [normal]
  have within : Tasks.authorityExceeds
      (elevated commitContext (supported (classified notesAnswer notesFiles))).1.requiredAuthorityLevel
      commitContext.contractAuthorityLevel = false := by
    decide +kernel
  have free : escalationBlockers commitContext
      (elevated commitContext (supported (classified notesAnswer notesFiles))).1.requiredAuthorityLevel
        = [] := by
    unfold escalationBlockers
    rw [within]
    rfl
  simp only [validateAndEnrichPlan, files, bind, Except.bind, checks, free]
  rfl

theorem notes_plan_never_integrated :
    ControlledCommit.verifyCommitAuthority commitTask commitContract = .ok () ∧
      ∀ (blockers : List Dict) (planId : String) (version : Nat) (rows : Tables)
        (request : CanonicalIntegrationRequest) (work : FrozenWork),
        frozenWork rows request = .ok work →
          work.plan ≠ EngineeringPlanRepository.newRow commitContext notesValidated.plan blockers
            planId version :=
  l2_plan_never_integrated rfl rfl (by decide) rfl notes_validated rfl

/-- The plan the planner accepts for them is above what an integration takes. -/
theorem notes_plan_exceeds_cap :
    validateAndEnrichPlan {} commitContext notesAnswer = .ok notesValidated ∧
      notesValidated.blockers = [] ∧
      1 < authorityRank (EngineeringPlanRepository.newRow commitContext notesValidated.plan []
        "LPLAN_000001" 1).requiredAuthorityLevel := by
  refine ⟨notes_validated, rfl, ?_⟩
  decide +kernel

end Lucius.Integration
