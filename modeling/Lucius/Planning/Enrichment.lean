import Lucius.Integration.PromotionAuthority
import Lucius.Lib.Sorting
import Lucius.Planning.FreezeAgreement

/-! Enriching a plan a second time: its files, its steps, its risk and its authority are as the
first time left them, and nothing is raised. -/

namespace Lucius.Planning

open Tasks

theorem sorted_again {names more : List String} (known : ∀ name ∈ more, name ∈ names) :
    sortedBy id (sortedBy id names.dedup ++ more).dedup = sortedBy id names.dedup := by
  have perm : (sortedBy id names.dedup ++ more).dedup.Perm names.dedup := by
    apply (List.perm_ext_iff_of_nodup (List.nodup_dedup _) (List.nodup_dedup _)).mpr
    intro name
    rw [List.mem_dedup, List.mem_append, mem_sortedBy, List.mem_dedup]
    exact ⟨fun either => either.elim id (known name), .inl⟩
  exact sortedBy_perm perm (fun _ _ _ _ same => same)

theorem classifyFile_again (context : PlanningContext) (manifest : List String)
    (file : AffectedFilePlan) :
    classifyFile context manifest (classifyFile context manifest file) =
      classifyFile context manifest file := by
  have path := classifyFile_path context manifest file
  by_cases unnamed : (file.path.toList.isEmpty || decide (Queue.upper file.path = "UNKNOWN")) = true
  · simp only [classifyFile, unnamed, if_true]
  · by_cases evidence : (evidenceByPath context file.path).isEmpty = true
    · by_cases listed : file.path ∈ manifest
      · simp only [classifyFile, unnamed, evidence, listed, Bool.not_true, Bool.false_eq_true, if_true,
          if_false]
      · by_cases proposed : '/' ∈ file.path.toList ∨ '.' ∈ file.path.toList
        · simp only [classifyFile, unnamed, evidence, listed, proposed, Bool.not_true,
            Bool.false_eq_true, if_true, if_false]
        · simp only [classifyFile, unnamed, evidence, listed, proposed, Bool.not_true,
            Bool.false_eq_true, if_false]
    · have sorted := @sorted_again (file.evidenceIds ++ evidenceByPath context file.path)
        (evidenceByPath context file.path) (fun _ member => List.mem_append_right _ member)
      simp only [classifyFile, unnamed, evidence, Bool.not_false, Bool.false_eq_true, if_true, if_false,
        sorted]

theorem supported_steps {α : Type} (plan : ModelEngineeringPlanOutput) (read : PlanStep → α)
    (same : ∀ step status, read { step with supportStatus := status } = read step) :
    (supported plan).steps.map read = plan.steps.map read := by
  unfold supported classifyStepSupport
  rw [List.map_map]
  apply List.map_congr_left
  intro step member
  exact same step _

variable {tables : Tables} {context : PlanningContext} {plan : ModelEngineeringPlanOutput}
  {files : List AffectedFilePlan} {validated : ValidatedPlan}

/-- The plan with its files and its steps as the first enrichment leaves them. -/
def settled (plan : ModelEngineeringPlanOutput) (files : List AffectedFilePlan) :
    ModelEngineeringPlanOutput :=
  supported (classified plan files)

theorem settled_paths (plan : ModelEngineeringPlanOutput) (files : List AffectedFilePlan) :
    (settled plan files).steps.flatMap (·.affectedFiles) = plan.steps.flatMap (·.affectedFiles) := by
  have same := supported_steps (classified plan files) (·.affectedFiles) (fun _ _ => rfl)
  rw [List.flatMap_def, List.flatMap_def]
  exact congrArg List.flatten same

/-- The file that a plan has at a path, classified. -/
def enrichedFile (context : PlanningContext) (manifest : List String)
    (plan : ModelEngineeringPlanOutput) (path : String) : AffectedFilePlan :=
  classifyFile context manifest (plannedFile plan path)

theorem enrichedFile_path (manifest : List String) (path : String) :
    (enrichedFile context manifest plan path).path = path :=
  (classifyFile_path _ _ _).trans (plannedFile_path plan path)

theorem classifyAffectedFiles_ok (read : classifyAffectedFiles tables context plan = .ok files) :
    ∃ manifest, manifestPaths tables context = .ok manifest ∧
      files = (plannedPaths plan).map (enrichedFile context manifest plan) := by
  obtain ⟨manifest, known, listed⟩ := except_bind_ok read
  exact ⟨manifest, known, (Except.ok.inj listed).symm⟩

theorem classifyAffectedFiles_of_manifest {manifest : List String}
    (known : manifestPaths tables context = .ok manifest) :
    classifyAffectedFiles tables context plan =
      .ok ((plannedPaths plan).map (enrichedFile context manifest plan)) := by
  rw [classifyAffectedFiles, known]
  rfl

theorem find_last {paths : List String} {file : String → AffectedFilePlan} {path : String}
    (named : ∀ other, (file other).path = other) (member : path ∈ paths) :
    ((paths.map file).reverse.find? (fun other => decide (other.path = path))) = some (file path) := by
  have inside : file path ∈ (paths.map file).reverse :=
    List.mem_reverse.mpr (List.mem_map_of_mem member)
  cases found : (paths.map file).reverse.find? (fun other => decide (other.path = path)) with
  | none =>
    have missed := List.find?_eq_none.mp found (file path) inside
    exact absurd (decide_eq_true (named path)) missed
  | some other =>
    have chosen := of_decide_eq_true
      (List.find?_some (p := fun other : AffectedFilePlan => decide (other.path = path)) found)
    obtain ⟨name, _, same⟩ := List.mem_map.mp (List.mem_reverse.mp (List.mem_of_find?_eq_some found))
    rw [← same, named] at chosen
    rw [← same, chosen]

theorem enriched_paths (manifest : List String) (plan : ModelEngineeringPlanOutput) :
    ((plannedPaths plan).map (enrichedFile context manifest plan)).map (·.path) = plannedPaths plan := by
  rw [List.map_map]
  conv_rhs => rw [← List.map_id (plannedPaths plan)]
  apply List.map_congr_left
  exact fun path _ => enrichedFile_path manifest path

section

variable {enriched : ModelEngineeringPlanOutput} {manifest : List String}
  (kept : enriched.affectedFiles = (plannedPaths plan).map (enrichedFile context manifest plan))
include kept

theorem plannedPaths_again
    (steps : enriched.steps.flatMap (·.affectedFiles) = plan.steps.flatMap (·.affectedFiles)) :
    plannedPaths enriched = plannedPaths plan := by
  rw [plannedPaths, kept, steps, enriched_paths]
  exact sorted_again (fun _ member => List.mem_append_right _ member)

theorem enrichedFile_again {path : String} (member : path ∈ plannedPaths plan) :
    enrichedFile context manifest enriched path = enrichedFile context manifest plan path := by
  have found := find_last (@enrichedFile_path context plan manifest) member
  rw [enrichedFile, plannedFile, kept, found, Option.getD_some]
  exact classifyFile_again _ _ _

theorem classifyAffectedFiles_again (known : manifestPaths tables context = .ok manifest)
    (steps : enriched.steps.flatMap (·.affectedFiles) = plan.steps.flatMap (·.affectedFiles)) :
    classifyAffectedFiles tables context enriched =
      .ok ((plannedPaths plan).map (enrichedFile context manifest plan)) := by
  have same : ∀ path ∈ plannedPaths plan, enrichedFile context manifest enriched path =
      enrichedFile context manifest plan path := fun path member => enrichedFile_again kept member
  rw [classifyAffectedFiles_of_manifest known, plannedPaths_again kept steps,
    List.map_congr_left same]

end

/-! What is raised -/

theorem supported_again (plan : ModelEngineeringPlanOutput) :
    supported (supported plan) = supported plan := by
  have again : classifyStepSupport (supported plan) = classifyStepSupport plan := by
    unfold supported classifyStepSupport
    rw [List.map_map]
    rfl
  rw [supported, again]
  rfl

theorem riskFloor_elevated (context : PlanningContext) (plan : ModelEngineeringPlanOutput) :
    riskFloor context (elevated context plan).1 = riskFloor context plan := rfl

theorem requiredAuthority_elevated (context : PlanningContext) (plan : ModelEngineeringPlanOutput) :
    requiredAuthority context (elevated context plan).1 = requiredAuthority context plan := rfl

theorem riskFloor_le_elevated (context : PlanningContext) (plan : ModelEngineeringPlanOutput) :
    riskRank (riskFloor context plan) ≤ riskRank (elevated context plan).1.riskLevel := by
  unfold elevated
  dsimp only
  split
  · exact le_refl _
  · next within =>
      have bound : ¬riskRank plan.riskLevel < riskRank (riskFloor context plan) :=
        fun below => within (decide_eq_true below)
      omega

theorem risk_le_elevated (context : PlanningContext) (plan : ModelEngineeringPlanOutput) :
    riskRank plan.riskLevel ≤ riskRank (elevated context plan).1.riskLevel := by
  unfold elevated
  dsimp only
  split
  · next below =>
      have bound := of_decide_eq_true below
      omega
  · exact le_refl _

theorem authority_le_elevated (context : PlanningContext) (plan : ModelEngineeringPlanOutput) :
    authorityRank plan.requiredAuthorityLevel ≤
      authorityRank (elevated context plan).1.requiredAuthorityLevel := by
  unfold elevated
  dsimp only
  split
  · next below =>
      have bound := of_decide_eq_true below
      omega
  · exact le_refl _

theorem elevated_again (context : PlanningContext) (plan : ModelEngineeringPlanOutput) :
    elevated context (elevated context plan).1 = ((elevated context plan).1, []) := by
  have risk : decide (riskRank (elevated context plan).1.riskLevel < riskRank (riskFloor context plan)) =
      false := decide_eq_false (not_lt.mpr (riskFloor_le_elevated context plan))
  have authority : authorityExceeds (requiredAuthority context plan)
      (elevated context plan).1.requiredAuthorityLevel = false :=
    decide_eq_false (not_lt.mpr (requiredAuthority_le_elevated context plan))
  rw [elevated.eq_1 context (elevated context plan).1, riskFloor_elevated, requiredAuthority_elevated,
    risk, authority]
  rfl

theorem step_le_foldl (steps : List PlanStep) (start : AuthorityLevel) (step : PlanStep)
    (member : step ∈ steps) :
    authorityRank step.authorityLevel ≤ authorityRank (steps.foldl (fun required step =>
      if authorityExceeds step.authorityLevel required then step.authorityLevel else required)
      start) := by
  induction steps generalizing start with
  | nil => cases member
  | cons first rest ih =>
    rcases List.mem_cons.mp member with same | later
    · subst same
      refine le_trans ?_ (steps_raise rest _)
      dsimp only
      split
      · exact le_refl _
      · next within =>
          have bound : ¬authorityRank start < authorityRank step.authorityLevel :=
            fun exceeds => within (decide_eq_true exceeds)
          omega
    · exact ih _ later

theorem step_le_requiredAuthority (context : PlanningContext) (plan : ModelEngineeringPlanOutput)
    (step : PlanStep) (member : step ∈ plan.steps) :
    authorityRank step.authorityLevel ≤ authorityRank (requiredAuthority context plan) := by
  have stepped := step_le_foldl plan.steps context.contractAuthorityLevel step member
  have sensitive (level : AuthorityLevel) := le_maxAuthority (plan.steps.foldl (fun required step =>
    if authorityExceeds step.authorityLevel required then step.authorityLevel else required)
    context.contractAuthorityLevel) level
  unfold requiredAuthority
  dsimp only
  split
  · split
    · exact le_trans stepped (le_trans (sensitive _) (le_maxAuthority _ _))
    · exact le_trans stepped (sensitive _)
  · split
    · exact le_trans stepped (sensitive _)
    · exact stepped

/-! The second time -/

theorem referenceBlockers_settled (tables : Tables) (context : PlanningContext)
    (plan : ModelEngineeringPlanOutput) (files : List AffectedFilePlan) :
    referenceBlockers tables context (elevated context (settled plan files)).1 =
      referenceBlockers tables context plan := by
  have blockers := supported_steps (classified plan files)
    (stepBlockers (context.evidence.map (·.evidenceId)).dedup context.memoryIds) (fun _ _ => rfl)
  have ids := supported_steps (classified plan files) (·.stepId) (fun _ _ => rfl)
  unfold referenceBlockers
  rw [List.flatMap_def, List.flatMap_def]
  change (List.map _ (supported (classified plan files)).steps).flatten ++
    plan.acceptanceCoverage.flatMap (coverageBlockers
      ((supported (classified plan files)).steps.map (·.stepId)) _) ++ _ ++ _ ++ _ = _
  rw [blockers, ids]
  rfl

/-- What an enriched plan is never below. -/
structure Raised (context : PlanningContext) (plan enriched : ModelEngineeringPlanOutput) : Prop where
  risk : riskRank plan.riskLevel ≤ riskRank enriched.riskLevel
  riskFloor : riskRank (riskFloor context enriched) ≤ riskRank enriched.riskLevel
  authority : authorityRank plan.requiredAuthorityLevel ≤ authorityRank enriched.requiredAuthorityLevel
  authorityFloor : authorityRank (requiredAuthority context enriched) ≤
    authorityRank enriched.requiredAuthorityLevel
  contract : authorityRank context.contractAuthorityLevel ≤ authorityRank enriched.requiredAuthorityLevel
  steps : ∀ step ∈ enriched.steps,
    authorityRank step.authorityLevel ≤ authorityRank enriched.requiredAuthorityLevel
  ownSteps : ∀ step ∈ plan.steps,
    authorityRank step.authorityLevel ≤ authorityRank enriched.requiredAuthorityLevel

theorem settled_raised (context : PlanningContext) (plan : ModelEngineeringPlanOutput)
    (files : List AffectedFilePlan) : Raised context plan (elevated context (settled plan files)).1 := by
  have floor := requiredAuthority_le_elevated context (settled plan files)
  have steps : ∀ step ∈ (settled plan files).steps, authorityRank step.authorityLevel ≤
      authorityRank (elevated context (settled plan files)).1.requiredAuthorityLevel :=
    fun step member => le_trans (step_le_requiredAuthority context _ step member) floor
  have levels := supported_steps (classified plan files) (·.authorityLevel) (fun _ _ => rfl)
  exact {
    risk := risk_le_elevated context (settled plan files)
    riskFloor := riskFloor_le_elevated context (settled plan files)
    authority := authority_le_elevated context (settled plan files)
    authorityFloor := floor
    contract := le_trans (contract_le_requiredAuthority context (settled plan files)) floor
    steps := steps
    ownSteps := by
      intro step member
      have present : step.authorityLevel ∈ (settled plan files).steps.map (·.authorityLevel) := by
        rw [settled, levels]
        exact List.mem_map_of_mem member
      obtain ⟨other, inside, same⟩ := List.mem_map.mp present
      rw [← same]
      exact steps other inside }

theorem enrich_ok (done : validateAndEnrichPlan tables context plan = .ok validated) :
    ∃ files checked, classifyAffectedFiles tables context plan = .ok files ∧
      validateDeterministicAcceptanceChecks (classified plan files) = .ok checked ∧
      validated = {
        plan := (elevated context (settled plan files)).1
        blockers := referenceBlockers tables context plan ++ checked ++
          escalationBlockers context (elevated context (settled plan files)).1.requiredAuthorityLevel
        warnings := (elevated context (settled plan files)).2 } := by
  obtain ⟨files, read, done⟩ := except_bind_ok done
  obtain ⟨checked, valid, done⟩ := except_bind_ok done
  cases done
  exact ⟨files, checked, read, valid, rfl⟩

theorem settled_again (context : PlanningContext) (plan : ModelEngineeringPlanOutput)
    (files : List AffectedFilePlan) :
    settled (elevated context (settled plan files)).1 files = (elevated context (settled plan files)).1 := by
  have again := supported_again (classified plan files)
  have steps : classifyStepSupport (settled plan files) = (settled plan files).steps :=
    congrArg ModelEngineeringPlanOutput.steps again
  have same : classifyStepSupport (classified (elevated context (settled plan files)).1 files) =
      classifyStepSupport (settled plan files) := rfl
  rw [settled, supported, same, steps]
  rfl

/-- A plan that is enriched again stays as it is, with the same blockers and nothing raised, and
neither its risk nor its authority is below its own, a floor, the contract's or a step's. -/
theorem enrichment_stable (done : validateAndEnrichPlan tables context plan = .ok validated) :
    validateAndEnrichPlan tables context validated.plan =
        .ok { plan := validated.plan, blockers := validated.blockers, warnings := [] } ∧
      Raised context plan validated.plan := by
  obtain ⟨files, checked, read, valid, same⟩ := enrich_ok done
  subst same
  obtain ⟨manifest, known, listed⟩ := classifyAffectedFiles_ok read
  have again : classifyAffectedFiles tables context (elevated context (settled plan files)).1 =
      .ok files := by
    rw [listed]
    exact classifyAffectedFiles_again rfl known (settled_paths plan _)
  refine ⟨?_, settled_raised context plan files⟩
  have checks : validateDeterministicAcceptanceChecks
      (classified (elevated context (settled plan files)).1 files) = .ok checked := valid
  rw [validateAndEnrichPlan, again]
  change (validateDeterministicAcceptanceChecks
    (classified (elevated context (settled plan files)).1 files) >>= _) = _
  rw [checks]
  change Except.ok _ = Except.ok _
  rw [show supported (classified (elevated context (settled plan files)).1 files) =
    (elevated context (settled plan files)).1 from settled_again context plan files, elevated_again,
    referenceBlockers_settled]

def twiceListed : ModelEngineeringPlanOutput where
  summary := "Change the schema"
  affectedFiles := [{ path := "b.md" }, { path := "a.md" }, { path := "b.md" }]
  steps := [{ stepId := "S1", affectedFiles := ["c.md"], authorityLevel := .l2 }]

def bareContext : PlanningContext where
  taskId := "TASK_000001"
  projectId := "PROJ_000001"
  taskContractId := "CONTRACT_000001"

theorem twiceListed_stable : ∃ validated,
    validateAndEnrichPlan {} bareContext twiceListed = .ok validated ∧
      validateAndEnrichPlan {} bareContext validated.plan =
        .ok { plan := validated.plan, blockers := validated.blockers, warnings := [] } ∧
      Raised bareContext twiceListed validated.plan := by
  have enriched : (validateAndEnrichPlan {} bareContext twiceListed).toOption.isSome = true := by
    decide +kernel
  cases done : validateAndEnrichPlan {} bareContext twiceListed with
  | error raised => rw [done] at enriched; cases enriched
  | ok validated => exact ⟨validated, rfl, enrichment_stable done⟩

end Lucius.Planning
