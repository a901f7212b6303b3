import Lucius.Planning.Enrichment

/-! The evidence that a plan refers to. The validation visits the steps and the acceptance
coverage; the files, the assumptions and the tests keep the evidence the model named. -/

namespace Lucius.Planning

def knownEvidence (context : PlanningContext) : List String := context.evidence.map (·.evidenceId)

/-- Every evidence id of the plan is that of an evidence item of the context. -/
structure Grounded (context : PlanningContext) (plan : ModelEngineeringPlanOutput) : Prop where
  steps : ∀ step ∈ plan.steps, step.requiredEvidenceIds ⊆ knownEvidence context
  coverage : ∀ item ∈ plan.acceptanceCoverage, item.evidenceIds ⊆ knownEvidence context
  files : ∀ file ∈ plan.affectedFiles, file.evidenceIds ⊆ knownEvidence context
  assumptions : ∀ assumption ∈ plan.assumptions, assumption.evidenceIds ⊆ knownEvidence context
  tests : ∀ test ∈ plan.testStrategy, test.evidenceIds ⊆ knownEvidence context

def isInvalid (blocker : PlanningBlocker) : Bool := decide (blocker.code = "ENGINEERING_PLAN_INVALID")

/-- What is returned without an invalidity refers to the evidence of the context only. -/
def ReferencesHold (tables : Tables) (context : PlanningContext) (plan : ModelEngineeringPlanOutput) :
    Prop :=
  ∀ validated, validateAndEnrichPlan tables context plan = .ok validated →
    validated.blockers.any isInvalid = false → Grounded context validated.plan

/-- The sections that are not visited refer to the evidence of the context; of the entries of one
file only the last counts. -/
structure OthersGrounded (context : PlanningContext) (plan : ModelEngineeringPlanOutput) : Prop where
  files : ∀ path ∈ plannedPaths plan, (plannedFile plan path).evidenceIds ⊆ knownEvidence context
  assumptions : ∀ assumption ∈ plan.assumptions, assumption.evidenceIds ⊆ knownEvidence context
  tests : ∀ test ∈ plan.testStrategy, test.evidenceIds ⊆ knownEvidence context

/-- Where the plan is not found invalid, the sections that are not visited are grounded. -/
def UnvisitedGrounded (tables : Tables) (context : PlanningContext)
    (plan : ModelEngineeringPlanOutput) : Prop :=
  ∀ validated, validateAndEnrichPlan tables context plan = .ok validated →
    validated.blockers.any isInvalid = false → OthersGrounded context plan

variable {tables : Tables} {context : PlanningContext} {plan : ModelEngineeringPlanOutput}
  {files : List AffectedFilePlan} {validated : ValidatedPlan}

theorem missingNames_eq_nil {names known : List String} :
    missingNames names known = [] ↔ names ⊆ known := by
  constructor
  · intro none name member
    by_contra missing
    have listed : name ∈ missingNames names known := by
      rw [missingNames, mem_sortedBy, List.mem_filter, List.mem_dedup]
      exact ⟨member, decide_eq_true missing⟩
    rw [none] at listed
    cases listed
  · intro inside
    apply List.eq_nil_iff_forall_not_mem.mpr
    intro name member
    rw [missingNames, mem_sortedBy, List.mem_filter, List.mem_dedup] at member
    exact of_decide_eq_true member.2 (inside member.1)

theorem invalidPlan_isInvalid (message : String) (metadata : Dict) :
    isInvalid (invalidPlan message metadata) = true := rfl

theorem step_grounded {evidenceIds memoryIds : List String} {step : PlanStep}
    (free : (stepBlockers evidenceIds memoryIds step).any isInvalid = false) :
    step.requiredEvidenceIds ⊆ evidenceIds := by
  apply missingNames_eq_nil.mp
  by_contra some
  rw [stepBlockers, if_neg (by simpa using some), List.any_append, List.any_cons,
    invalidPlan_isInvalid] at free
  cases free

theorem coverage_grounded {stepIds evidenceIds : List String} {item : AcceptanceCoverage}
    (free : (coverageBlockers stepIds evidenceIds item).any isInvalid = false) :
    item.evidenceIds ⊆ evidenceIds := by
  apply missingNames_eq_nil.mp
  by_contra some
  have missing : ((missingNames item.stepIds stepIds).isEmpty &&
      (missingNames item.evidenceIds evidenceIds).isEmpty) = false := by
    rw [List.isEmpty_eq_false_iff.mpr some, Bool.and_false]
  simp only [coverageBlockers, missing, Bool.false_eq_true, if_false, List.any_cons,
    invalidPlan_isInvalid, Bool.true_or] at free
  cases free

theorem any_flatMap_false {α : Type} {items : List α} {blockers : α → List PlanningBlocker}
    (free : (items.flatMap blockers).any isInvalid = false) {item : α} (member : item ∈ items) :
    (blockers item).any isInvalid = false := by
  rw [List.any_eq_false] at free ⊢
  exact fun blocker inside => free blocker (List.mem_flatMap.mpr ⟨item, member, inside⟩)

theorem known_dedup {context : PlanningContext} {names : List String}
    (inside : names ⊆ ((context.evidence.map (·.evidenceId)).dedup)) :
    names ⊆ knownEvidence context :=
  fun _ member => List.mem_dedup.mp (inside member)

theorem classifyFile_grounded (context : PlanningContext) (manifest : List String)
    (file : AffectedFilePlan) :
    (classifyFile context manifest file).evidenceIds ⊆ knownEvidence context ↔
      file.evidenceIds ⊆ knownEvidence context := by
  unfold classifyFile
  dsimp only
  split
  · rfl
  · split
    · constructor
      · intro inside name member
        apply inside
        rw [mem_sortedBy, List.mem_dedup]
        exact List.mem_append_left _ member
      · intro inside name member
        rw [mem_sortedBy, List.mem_dedup] at member
        rcases List.mem_append.mp member with own | supporting
        · exact inside own
        · obtain ⟨item, kept, same⟩ := List.mem_map.mp supporting
          rw [← same]
          exact List.mem_map_of_mem (List.mem_filter.mp kept).1
    · split
      · rfl
      · split
        · rfl
        · rfl

/-- The blockers of a plan that is not found invalid leave no step and no coverage ungrounded. -/
theorem visited_grounded (free : (referenceBlockers tables context plan).any isInvalid = false) :
    (∀ step ∈ plan.steps, step.requiredEvidenceIds ⊆ knownEvidence context) ∧
      ∀ item ∈ plan.acceptanceCoverage, item.evidenceIds ⊆ knownEvidence context := by
  simp only [referenceBlockers, List.any_append, Bool.or_eq_false_iff] at free
  constructor
  · intro step member
    exact known_dedup (step_grounded (any_flatMap_false free.1.1.1.1 member))
  · intro item member
    exact known_dedup (coverage_grounded (any_flatMap_false free.1.1.1.2 member))

theorem othersGrounded_iff (done : validateAndEnrichPlan tables context plan = .ok validated)
    (free : validated.blockers.any isInvalid = false) :
    Grounded context validated.plan ↔ OthersGrounded context plan := by
  obtain ⟨files, checked, read, _, same⟩ := enrich_ok done
  subst same
  obtain ⟨manifest, _, listed⟩ := classifyAffectedFiles_ok read
  have kept : (elevated context (settled plan files)).1.affectedFiles = files := rfl
  have own : (∀ file ∈ files, file.evidenceIds ⊆ knownEvidence context) ↔
      ∀ path ∈ plannedPaths plan, (plannedFile plan path).evidenceIds ⊆ knownEvidence context := by
    rw [listed, List.forall_mem_map]
    exact forall₂_congr (fun path _ => classifyFile_grounded context manifest (plannedFile plan path))
  constructor
  · intro grounded
    exact ⟨own.mp grounded.files, grounded.assumptions, grounded.tests⟩
  · intro others
    simp only [List.any_append, Bool.or_eq_false_iff] at free
    rw [← referenceBlockers_settled tables context plan files] at free
    have ⟨steps, coverage⟩ := visited_grounded free.1.1
    exact ⟨steps, coverage, own.mpr others.files, others.assumptions, others.tests⟩

/-- A plan that is not found invalid refers to the evidence of its context exactly where its
files, its assumptions and its tests do, which are not visited. -/
theorem references_hold_iff (tables : Tables) (context : PlanningContext)
    (plan : ModelEngineeringPlanOutput) :
    ReferencesHold tables context plan ↔ UnvisitedGrounded tables context plan := by
  constructor
  · intro held validated done free
    exact (othersGrounded_iff done free).mp (held validated done free)
  · intro others validated done free
    exact (othersGrounded_iff done free).mpr (others validated done free)

def fabricatedTest : ModelEngineeringPlanOutput where
  summary := "Describe the queue"
  testStrategy := [{ description := "Read the notes", evidenceIds := ["EVID_404404"] }]

/-- A test that refers to evidence nobody has is accepted without a blocker. -/
theorem fabricated_reference_accepted : ¬ReferencesHold {} bareContext fabricatedTest := by
  intro held
  have accepted : (validateAndEnrichPlan {} bareContext fabricatedTest).toOption.any
      (fun validated => validated.blockers.any isInvalid = false ∧
        validated.plan.testStrategy.map TestRecommendation.evidenceIds = [["EVID_404404"]]) = true := by
    decide +kernel
  cases done : validateAndEnrichPlan {} bareContext fabricatedTest with
  | error raised => rw [done] at accepted; cases accepted
  | ok validated =>
    rw [done] at accepted
    have ⟨free, listed⟩ := of_decide_eq_true accepted
    have grounded := held validated done free
    have inside : ["EVID_404404"] ∈ validated.plan.testStrategy.map TestRecommendation.evidenceIds := by
      rw [listed]
      exact List.mem_singleton.mpr rfl
    obtain ⟨test, member, same⟩ := List.mem_map.mp inside
    have known := grounded.tests test member
    rw [same] at known
    cases known (List.mem_singleton.mpr rfl)

end Lucius.Planning
