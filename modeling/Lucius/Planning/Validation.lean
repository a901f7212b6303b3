import Lucius.Planning.Freeze
import Lucius.Queue.Items
import Lucius.Tasks.Policy

/-! The validation of what a planning model answers: the blockers it finds, and the files,
the risk and the authority it writes into the plan. -/

namespace Lucius.Planning

open Acceptance Tasks Queue

structure PlanningBlocker where
  code : String
  message : String
  metadata : Dict

def invalidPlan (message : String) (metadata : Dict) : PlanningBlocker :=
  ⟨"ENGINEERING_PLAN_INVALID", message, metadata⟩

/-- `sorted(set(names) - set(known))`. -/
def missingNames (names known : List String) : List String :=
  sortedBy id (names.dedup.filter (· ∉ known))

def stepBlockers (evidenceIds memoryIds : List String) (step : PlanStep) : List PlanningBlocker :=
  let missingEvidence := missingNames step.requiredEvidenceIds evidenceIds
  let missingMemory := missingNames step.memoryIds memoryIds
  (if missingEvidence.isEmpty then []
    else [invalidPlan "Plan step references nonexistent or unauthorized evidence."
      [("step_id", .str step.stepId), ("evidence_ids", .ofTexts missingEvidence)]]) ++
  (if missingMemory.isEmpty then []
    else [invalidPlan "Plan step references nonexistent or unauthorized memory."
      [("step_id", .str step.stepId), ("memory_ids", .ofTexts missingMemory)]])

def coverageBlockers (stepIds evidenceIds : List String) (item : AcceptanceCoverage) :
    List PlanningBlocker :=
  let missingSteps := missingNames item.stepIds stepIds
  let missingEvidence := missingNames item.evidenceIds evidenceIds
  if missingSteps.isEmpty && missingEvidence.isEmpty then []
  else [invalidPlan "Acceptance coverage references missing plan steps or evidence."
    [("criterion_id", .str item.criterionId), ("step_ids", .ofTexts missingSteps),
      ("evidence_ids", .ofTexts missingEvidence)]]

def validateReferenceScope (tables : Tables) (context : PlanningContext) (evidenceIds : List String) :
    List PlanningBlocker :=
  evidenceIds.flatMap (fun evidenceId =>
    if (tables.evidence.get? evidenceId).any (fun row => row.projectId = context.projectId) then []
    else [invalidPlan "Plan references evidence outside the planning project."
      [("evidence_id", .str evidenceId)]])

def validateAcceptanceCoverage (context : PlanningContext) (plan : ModelEngineeringPlanOutput) :
    List PlanningBlocker :=
  let expected := context.acceptanceCriteria.map (fun criterion => (criterion.get "id").pyStr)
  let missing := missingNames expected (plan.acceptanceCoverage.map (·.criterionId))
  let uncovered := sortedBy id ((plan.acceptanceCoverage.filter (fun item =>
    decide (item.status ∈ [AcceptanceCoverageStatus.notCovered, .blocked]))).map (·.criterionId))
  (if missing.isEmpty then []
    else [invalidPlan "Plan omits required acceptance criteria coverage."
      [("criterion_ids", .ofTexts missing)]]) ++
  (if uncovered.isEmpty then []
    else [invalidPlan "Plan leaves acceptance criteria uncovered or blocked."
      [("criterion_ids", .ofTexts uncovered)]])

def assumptionBlockers (assumption : PlanAssumption) : List PlanningBlocker :=
  if assumption.verified then
    [invalidPlan "Assumptions must not be claimed as verified facts."
      [("assumption", .str assumption.statement)]]
  else []

/-- The path a manifest entry names, where it names one. -/
def manifestEntryPath : Json → Except PyExc (Option String)
  | .obj entry =>
    match Dict.get entry "path" with
    | .str path => .ok (if path.toList.isEmpty then none else some path)
    | .arr (_ :: _) => .error .typeError
    | .obj (_ :: _) => .error .typeError
    | _ => .ok none
  | _ => .error .attributeError

def snapshotManifestPaths (snapshot : RepositorySnapshotRow) : Except PyExc (List String) :=
  match snapshot.manifest with
  | .obj members => do
      let files ← (Dict.getOr members "files" (.arr [])).pyIter
      let paths ← files.mapM manifestEntryPath
      return paths.filterMap id
  | _ => .error .attributeError

/-- The snapshots of the context that are there. -/
def contextSnapshots (tables : Tables) (context : PlanningContext) : List RepositorySnapshotRow :=
  (context.snapshotIds.filter (fun id => !id.toList.isEmpty)).filterMap tables.snapshots.get?

def manifestPaths (tables : Tables) (context : PlanningContext) : Except PyExc (List String) := do
  let paths ← (contextSnapshots tables context).mapM snapshotManifestPaths
  return paths.flatten

def evidenceByPath (context : PlanningContext) (path : String) : List String :=
  (context.evidence.filter (fun item => item.path = path)).map (·.evidenceId)

/-- Every path the plan names: those of its files and those of its steps. -/
def plannedPaths (plan : ModelEngineeringPlanOutput) : List String :=
  sortedBy id (plan.affectedFiles.map (·.path) ++ plan.steps.flatMap (·.affectedFiles)).dedup

/-- The last entry of a path stands for it. -/
def plannedFile (plan : ModelEngineeringPlanOutput) (path : String) : AffectedFilePlan :=
  (plan.affectedFiles.reverse.find? (fun file => file.path = path)).getD { path := path }

def classifyFile (context : PlanningContext) (manifest : List String) (file : AffectedFilePlan) :
    AffectedFilePlan :=
  let supporting := evidenceByPath context file.path
  if file.path.toList.isEmpty || decide (upper file.path = "UNKNOWN") then
    { file with status := .unknown }
  else if !supporting.isEmpty then
    { file with
      status := .existingVerified
      evidenceIds := sortedBy id (file.evidenceIds ++ supporting).dedup }
  else if file.path ∈ manifest then { file with status := .existingVerified }
  else if '/' ∈ file.path.toList ∨ '.' ∈ file.path.toList then { file with status := .newProposed }
  else { file with status := .unknown }

def classifyAffectedFiles (tables : Tables) (context : PlanningContext)
    (plan : ModelEngineeringPlanOutput) : Except PyExc (List AffectedFilePlan) := do
  let manifest ← manifestPaths tables context
  return (plannedPaths plan).map (fun path => classifyFile context manifest (plannedFile plan path))

def validateDeterministicAcceptanceChecks (plan : ModelEngineeringPlanOutput) :
    Except PyExc (List PlanningBlocker) :=
  match normalizeDeterministicAcceptanceChecks (plan.affectedFiles.map (·.path))
    (.arr (plan.deterministicAcceptanceChecks.map (fun check => .obj check.dump))) with
  | .ok _ => .ok []
  | .error (.acceptance code message) => .ok [invalidPlan message [("code", .str code)]]
  | .error other => .error (Router.acceptanceExc other)

def hasBlockingUnknown (plan : ModelEngineeringPlanOutput) : Bool := plan.unknowns.any (·.blocking)

def classifyStepSupport (plan : ModelEngineeringPlanOutput) : List PlanStep :=
  plan.steps.map (fun step =>
    { step with
      supportStatus :=
        if !step.requiredEvidenceIds.isEmpty then .supported
        else if hasBlockingUnknown plan then .blockedByUnknown
        else .inferred })

def planText (plan : ModelEngineeringPlanOutput) : List Char :=
  (" ".intercalate [plan.summary, plan.objective, " ".intercalate plan.affectedComponents,
    " ".intercalate (plan.steps.map (fun step => step.title ++ " " ++ step.description)),
    " ".intercalate plan.risks, " ".intercalate plan.documentationReasons]).toList.map Char.toLower

def mentions (text : List Char) (words : List String) : Bool :=
  words.any (fun word => decide (word.toList <:+: text))

def riskRank : PlanRiskLevel → Nat
  | .low => 0
  | .medium => 1
  | .high => 2
  | .critical => 3

def maxRisk (first second : PlanRiskLevel) : PlanRiskLevel :=
  if riskRank second ≤ riskRank first then first else second

def isCriticalText (context : PlanningContext) (text : List Char) : Bool :=
  decide (context.environment = .production) ||
    mentions text ["production", "destructive", "irreversible"]

def riskFloor (context : PlanningContext) (plan : ModelEngineeringPlanOutput) : PlanRiskLevel :=
  let text := planText plan
  let raised (raises : Bool) (level risk : PlanRiskLevel) := if raises then maxRisk risk level else risk
  raised (isCriticalText context text) .critical
    (raised (mentions text ["security", "secret", "credential"]) .high
      (raised (mentions text ["migration", "schema", "architecture"]) .high
        (raised (decide (context.taskComplexity ∈ ["T2", "T3"]) ||
          decide (3 < plan.affectedFiles.length) || hasBlockingUnknown plan) .medium .low)))

def maxAuthority (first second : AuthorityLevel) : AuthorityLevel :=
  if authorityRank second ≤ authorityRank first then first else second

/-- The authority of the contract is the floor; the steps and the words of the plan raise it. -/
def requiredAuthority (context : PlanningContext) (plan : ModelEngineeringPlanOutput) :
    AuthorityLevel :=
  let text := planText plan
  let stepped := plan.steps.foldl (fun required step =>
    if authorityExceeds step.authorityLevel required then step.authorityLevel else required)
    context.contractAuthorityLevel
  let sensitive := if mentions text ["migration", "schema", "security", "credential"] then
    maxAuthority stepped .l2 else stepped
  if isCriticalText context text then maxAuthority sensitive .l3 else sensitive

def escalationBlockers (context : PlanningContext) (required : AuthorityLevel) :
    List PlanningBlocker :=
  if authorityExceeds required context.contractAuthorityLevel then
    [⟨"AUTHORITY_ESCALATION_REQUIRED", "Plan requires authority above TaskContract authority.",
      [("required_authority_level", .str (StrEnum.value required)),
        ("contract_authority_level", .str (StrEnum.value context.contractAuthorityLevel))]⟩]
  else []

structure ValidatedPlan where
  plan : ModelEngineeringPlanOutput
  blockers : List PlanningBlocker
  warnings : List Dict

/-- The risk and the authority a plan is raised to. -/
def elevated (context : PlanningContext) (plan : ModelEngineeringPlanOutput) :
    ModelEngineeringPlanOutput × List Dict :=
  let risk := riskFloor context plan
  let riskier := decide (riskRank plan.riskLevel < riskRank risk)
  let authority := requiredAuthority context plan
  let higher := authorityExceeds authority plan.requiredAuthorityLevel
  ({ plan with
      riskLevel := if riskier then risk else plan.riskLevel
      requiredAuthorityLevel := if higher then authority else plan.requiredAuthorityLevel },
    (if riskier then [[("code", .str "RISK_FLOOR_ELEVATED"),
        ("model_risk", .str (StrEnum.value plan.riskLevel)),
        ("deterministic_risk", .str (StrEnum.value risk))]] else []) ++
    (if higher then [[("code", .str "AUTHORITY_FLOOR_ELEVATED"),
        ("model_authority", .str (StrEnum.value plan.requiredAuthorityLevel)),
        ("deterministic_authority", .str (StrEnum.value authority))]] else []))

/-- The blockers of what a plan refers to, covers and assumes. -/
def referenceBlockers (tables : Tables) (context : PlanningContext)
    (plan : ModelEngineeringPlanOutput) : List PlanningBlocker :=
  let evidenceIds := (context.evidence.map (·.evidenceId)).dedup
  plan.steps.flatMap (stepBlockers evidenceIds context.memoryIds) ++
    plan.acceptanceCoverage.flatMap (coverageBlockers (plan.steps.map (·.stepId)) evidenceIds) ++
    validateReferenceScope tables context evidenceIds ++ validateAcceptanceCoverage context plan ++
    plan.assumptions.flatMap assumptionBlockers

/-- The plan with its files classified. -/
def classified (plan : ModelEngineeringPlanOutput) (files : List AffectedFilePlan) :
    ModelEngineeringPlanOutput :=
  { plan with affectedFiles := files }

def supported (plan : ModelEngineeringPlanOutput) : ModelEngineeringPlanOutput :=
  { plan with steps := classifyStepSupport plan }

def validateAndEnrichPlan (tables : Tables) (context : PlanningContext)
    (plan : ModelEngineeringPlanOutput) : Except PyExc ValidatedPlan := do
  let files ← classifyAffectedFiles tables context plan
  let checked ← validateDeterministicAcceptanceChecks (classified plan files)
  let enriched := elevated context (supported (classified plan files))
  return {
    plan := enriched.1
    blockers := referenceBlockers tables context plan ++ checked ++
      escalationBlockers context enriched.1.requiredAuthorityLevel
    warnings := enriched.2 }

theorem escalationBlockers_eq_nil {context : PlanningContext} {required : AuthorityLevel}
    (free : escalationBlockers context required = []) :
    authorityRank required ≤ authorityRank context.contractAuthorityLevel := by
  unfold escalationBlockers at free
  split at free
  · cases free
  · next within =>
      by_contra above
      exact within (decide_eq_true (not_le.mp above))

/-- An answer that is accepted: its files are classified, its checks are in order, and it
needs no more authority than the contract gives. -/
structure Accepted (tables : Tables) (context : PlanningContext) (plan : ModelEngineeringPlanOutput)
    (validated : ValidatedPlan) (files : List AffectedFilePlan) : Prop where
  sorted : classifyAffectedFiles tables context plan = .ok files
  references : referenceBlockers tables context plan = []
  checks : validateDeterministicAcceptanceChecks (classified plan files) = .ok []
  enriched : validated.plan = (elevated context (supported (classified plan files))).1
  authority : authorityRank validated.plan.requiredAuthorityLevel ≤
    authorityRank context.contractAuthorityLevel

theorem validateAndEnrichPlan_accepted {tables : Tables} {context : PlanningContext}
    {plan : ModelEngineeringPlanOutput} {validated : ValidatedPlan}
    (done : validateAndEnrichPlan tables context plan = .ok validated)
    (free : validated.blockers = []) : ∃ files, Accepted tables context plan validated files := by
  unfold validateAndEnrichPlan at done
  obtain ⟨files, read, done⟩ := except_bind_ok done
  obtain ⟨checked, valid, done⟩ := except_bind_ok done
  cases done
  obtain ⟨before, within⟩ := List.append_eq_nil_iff.mp free
  obtain ⟨references, none⟩ := List.append_eq_nil_iff.mp before
  exact ⟨files, read, references, none ▸ valid, rfl, escalationBlockers_eq_nil within⟩

end Lucius.Planning
