import Lucius.Domain.JsonText
import Lucius.Persistence.PublicIds
import Lucius.Queue.Items
import Lucius.Workflows.Service

/-! The artifacts that evidence identifiers name, and when a claim's evidence is valid.

A row keeps the columns that the gate reads under their own names and the rest by name, since
the context of a claim may ask for any column. -/

namespace Lucius.Json

/-- The integer that a float equals. A float of 16 digits or more prints with an exponent. -/
def wholeValue (value : PyFloat) : Option Int :=
  if ".0".toList <:+ value.text.toList ∨ "e+".toList <:+: value.text.toList then value.truncated
  else none

def sameFloat (left right : PyFloat) : Bool :=
  (left.zero && right.zero) || (decide (left.text = right.text) && left.text != "nan")

def ofBool (value : Bool) : Int := if value then 1 else 0

mutual

/-- `left == right`. -/
def pyEq : Json → Json → Bool
  | null, null => true
  | bool left, bool right => left = right
  | bool left, int right => ofBool left = right
  | bool left, float right => wholeValue right = some (ofBool left)
  | int left, bool right => left = ofBool right
  | int left, int right => left = right
  | int left, float right => wholeValue right = some left
  | float left, bool right => wholeValue left = some (ofBool right)
  | float left, int right => wholeValue left = some right
  | float left, float right => sameFloat left right
  | str left, str right => left = right
  | arr left, arr right => pyEqElements left right
  | obj left, obj right => left.length = right.length && pyEqMembers left right
  | _, _ => false

def pyEqElements : List Json → List Json → Bool
  | [], [] => true
  | left :: lefts, right :: rights => pyEq left right && pyEqElements lefts rights
  | _, _ => false

def pyEqMembers : List (String × Json) → Dict → Bool
  | [], _ => true
  | (name, value) :: rest, other =>
    (match other.lookup name with
      | some found => pyEq value found
      | none => false) && pyEqMembers rest other

end

def hashable : Json → Bool
  | arr _ => false
  | obj _ => false
  | _ => true

/-- `value in {...}`. -/
def inSet (value : Json) (members : List Json) : Except PyExc Bool :=
  if value.hashable then .ok (members.any (pyEq value)) else .error .typeError

def inTexts (value : Json) (members : List String) : Except PyExc Bool :=
  if value.hashable then .ok (members.any value.isStr) else .error .typeError

/-- The dictionary whose `get` is called. -/
def getTarget : Json → Except PyExc Dict
  | obj members => .ok members
  | _ => .error .attributeError

end Lucius.Json

namespace Lucius.Pilots

open Workflows

/-! ### Stored artifacts -/

inductive RepositoryStateClassification where
  | canonicalClean | nonCanonicalDirty | nonCanonicalHeadChanged | nonCanonicalUntrackedState
  | nonCanonicalExternalMutation
  deriving DecidableEq, Repr

instance : StrEnum RepositoryStateClassification where
  value
    | .canonicalClean => "CANONICAL_CLEAN"
    | .nonCanonicalDirty => "NON_CANONICAL_DIRTY"
    | .nonCanonicalHeadChanged => "NON_CANONICAL_HEAD_CHANGED"
    | .nonCanonicalUntrackedState => "NON_CANONICAL_UNTRACKED_STATE"
    | .nonCanonicalExternalMutation => "NON_CANONICAL_EXTERNAL_MUTATION"
  members := [.canonicalClean, .nonCanonicalDirty, .nonCanonicalHeadChanged, .nonCanonicalUntrackedState, .nonCanonicalExternalMutation]
  complete := by intro member; cases member <;> decide
  distinct := by intro left right; cases left <;> cases right <;> decide

inductive EvaluationMode where
  | planningOnly | planVsImplementation | orchestrationControlPlane
  deriving DecidableEq, Repr

instance : StrEnum EvaluationMode where
  value
    | .planningOnly => "PLANNING_ONLY"
    | .planVsImplementation => "PLAN_VS_IMPLEMENTATION"
    | .orchestrationControlPlane => "ORCHESTRATION_CONTROL_PLANE"
  members := [.planningOnly, .planVsImplementation, .orchestrationControlPlane]
  complete := by intro member; cases member <;> decide
  distinct := by intro left right; cases left <;> cases right <;> decide

inductive EvaluationResult where
  | pass | passWithWarnings | fail | insufficientEvidence
  deriving DecidableEq, Repr

instance : StrEnum EvaluationResult where
  value
    | .pass => "PASS"
    | .passWithWarnings => "PASS_WITH_WARNINGS"
    | .fail => "FAIL"
    | .insufficientEvidence => "INSUFFICIENT_EVIDENCE"
  members := [.pass, .passWithWarnings, .fail, .insufficientEvidence]
  complete := by intro member; cases member <;> decide
  distinct := by intro left right; cases left <;> cases right <;> decide

inductive RubricCaptureStatus where
  | captured | notCaptured
  deriving DecidableEq, Repr

instance : StrEnum RubricCaptureStatus where
  value
    | .captured => "CAPTURED"
    | .notCaptured => "NOT_CAPTURED"
  members := [.captured, .notCaptured]
  complete := by intro member; cases member <;> decide
  distinct := by intro left right; cases left <;> cases right <;> decide

inductive BenchmarkRunStatus where
  | passed | failed | error | notRun
  deriving DecidableEq, Repr

instance : StrEnum BenchmarkRunStatus where
  value
    | .passed => "PASSED"
    | .failed => "FAILED"
    | .error => "ERROR"
    | .notRun => "NOT_RUN"
  members := [.passed, .failed, .error, .notRun]
  complete := by intro member; cases member <;> decide
  distinct := by intro left right; cases left <;> cases right <;> decide

inductive RepositoryIntegrityResult where
  | unchanged | headChanged | worktreeChanged | notChecked
  deriving DecidableEq, Repr

instance : StrEnum RepositoryIntegrityResult where
  value
    | .unchanged => "UNCHANGED"
    | .headChanged => "HEAD_CHANGED"
    | .worktreeChanged => "WORKTREE_CHANGED"
    | .notChecked => "NOT_CHECKED"
  members := [.unchanged, .headChanged, .worktreeChanged, .notChecked]
  complete := by intro member; cases member <;> decide
  distinct := by intro left right; cases left <;> cases right <;> decide

structure EvidenceReference where
  id : String
  sourceType : String
  path : String
  snippet : Option String := none
  claim : Option String := none
  matchReasons : List String := []
  others : Dict := []

structure BenchmarkResult where
  id : String
  status : BenchmarkRunStatus
  failed : Int := 0
  deterministicMetrics : Dict := []
  others : Dict := []

structure PlanEvaluation where
  id : String
  supersedesEvaluationId : Option String := none
  evaluationMode : EvaluationMode := .planVsImplementation
  result : EvaluationResult
  corrections : List Dict := []
  implementationArtifact : Dict := []
  others : Dict := []

structure PilotRecord where
  id : String
  deterministicEvaluationId : Option String := none
  repositoryIntegrityResult : RepositoryIntegrityResult
  gateResult : Dict := []
  others : Dict := []

structure RepositoryStateObservation where
  id : String
  classification : RepositoryStateClassification
  others : Dict := []

structure RepositorySnapshot where
  id : String
  isDirty : Bool
  others : Dict := []

structure HumanRubric where
  id : String
  status : RubricCaptureStatus
  scores : Dict := []
  others : Dict := []

structure ResumeValidation where
  id : String
  result : ResumeValidationResult
  others : Dict := []

structure Workflow where
  id : String
  projectId : Option String := none
  taskBacklog : List Dict := []
  others : Dict := []

/-- A row of a table whose columns the gate reads by name only. -/
structure FiledRow where
  id : String
  others : Dict := []

instance : Keyed EvidenceReference String := ⟨EvidenceReference.id⟩
instance : Keyed BenchmarkResult String := ⟨BenchmarkResult.id⟩
instance : Keyed PlanEvaluation String := ⟨PlanEvaluation.id⟩
instance : Keyed PilotRecord String := ⟨PilotRecord.id⟩
instance : Keyed RepositoryStateObservation String := ⟨RepositoryStateObservation.id⟩
instance : Keyed RepositorySnapshot String := ⟨RepositorySnapshot.id⟩
instance : Keyed HumanRubric String := ⟨HumanRubric.id⟩
instance : Keyed ResumeValidation String := ⟨ResumeValidation.id⟩
instance : Keyed Workflow String := ⟨Workflow.id⟩
instance : Keyed FiledRow String := ⟨FiledRow.id⟩

structure ArtifactStore where
  evidenceReferences : Table EvidenceReference := Table.empty
  benchmarkResults : Table BenchmarkResult := Table.empty
  planEvaluations : Table PlanEvaluation := Table.empty
  pilotRecords : Table PilotRecord := Table.empty
  repositoryStates : Table RepositoryStateObservation := Table.empty
  repositorySnapshots : Table RepositorySnapshot := Table.empty
  humanRubrics : Table HumanRubric := Table.empty
  learningCandidates : Table FiledRow := Table.empty
  engineeringPlans : Table FiledRow := Table.empty
  planFreezes : Table FiledRow := Table.empty
  workflowCheckpoints : Table FiledRow := Table.empty
  resumeValidations : Table ResumeValidation := Table.empty
  persistentWorkflows : Table Workflow := Table.empty

inductive Artifact where
  | evidence (row : EvidenceReference)
  | benchmark (row : BenchmarkResult)
  | evaluation (row : PlanEvaluation)
  | pilotRecord (row : PilotRecord)
  | repositoryState (row : RepositoryStateObservation)
  | snapshot (row : RepositorySnapshot)
  | rubric (row : HumanRubric)
  | resume (row : ResumeValidation)
  | workflow (row : Workflow)
  | filed (row : FiledRow)
  | queueCheckpoint (entry : Dict)

namespace Artifact

/-- The columns of a row. A queue checkpoint is no row and has none. -/
def columns : Artifact → Dict
  | evidence row =>
    [("id", .str row.id), ("source_type", .str row.sourceType), ("path", .str row.path),
      ("snippet", .ofOptionalText row.snippet), ("claim", .ofOptionalText row.claim),
      ("match_reasons", .ofTexts row.matchReasons)] ++ row.others
  | benchmark row =>
    [("id", .str row.id), ("status", .str (StrEnum.value row.status)), ("failed", .int row.failed),
      ("deterministic_metrics", .obj row.deterministicMetrics)] ++ row.others
  | evaluation row =>
    [("id", .str row.id), ("supersedes_evaluation_id", .ofOptionalText row.supersedesEvaluationId),
      ("evaluation_mode", .str (StrEnum.value row.evaluationMode)), ("result", .str (StrEnum.value row.result)),
      ("corrections", .arr (row.corrections.map .obj)),
      ("implementation_artifact", .obj row.implementationArtifact)] ++ row.others
  | pilotRecord row =>
    [("id", .str row.id), ("deterministic_evaluation_id", .ofOptionalText row.deterministicEvaluationId),
      ("repository_integrity_result", .str (StrEnum.value row.repositoryIntegrityResult)),
      ("gate_result", .obj row.gateResult)] ++ row.others
  | repositoryState row =>
    [("id", .str row.id), ("classification", .str (StrEnum.value row.classification))] ++ row.others
  | snapshot row => [("id", .str row.id), ("is_dirty", .bool row.isDirty)] ++ row.others
  | rubric row =>
    [("id", .str row.id), ("status", .str (StrEnum.value row.status)), ("scores", .obj row.scores)] ++ row.others
  | resume row => [("id", .str row.id), ("result", .str (StrEnum.value row.result))] ++ row.others
  | workflow row =>
    [("id", .str row.id), ("project_id", .ofOptionalText row.projectId),
      ("task_backlog", .arr (row.taskBacklog.map .obj))] ++ row.others
  | filed row => ("id", .str row.id) :: row.others
  | queueCheckpoint _ => []

/-- What a context key reads. -/
def read (artifact : Artifact) (key : String) : Json :=
  match artifact with
  | queueCheckpoint entry => entry.get key
  | row => row.columns.get key

end Artifact

/-! ### Evidence identifiers -/

inductive ArtifactType where
  | evidenceReference | benchmarkResult | engineeringPlanEvaluation | pilotRecord | repositoryState
  | repositorySnapshot | humanRubric | pilotLearning | engineeringPlan | planFreeze
  | workflowCheckpoint | resumeValidation | persistentWorkflow | queueCheckpoint
  deriving DecidableEq, Repr

def artifactPrefixTypes : List (String × ArtifactType) :=
  [("LEVID", .evidenceReference), ("LBENCH", .benchmarkResult), ("LEVALPLAN", .engineeringPlanEvaluation),
    ("LPILOT", .pilotRecord), ("LRSTATE", .repositoryState), ("LSNAP", .repositorySnapshot),
    ("LRUBRIC", .humanRubric), ("LPLEARN", .pilotLearning), ("LPLAN", .engineeringPlan),
    ("LFREEZE", .planFreeze), ("LWCHK", .workflowCheckpoint), ("LRESUME", .resumeValidation),
    ("LWORK", .persistentWorkflow), ("LQCHK", .queueCheckpoint)]

/-- The characters that `strip` takes off. -/
def isSpace (char : Char) : Bool :=
  let code := char.toNat
  (9 ≤ code && code ≤ 13) || (28 ≤ code && code ≤ 32) || (8192 ≤ code && code ≤ 8202) ||
    [133, 160, 5760, 8232, 8233, 8239, 8287, 12288].contains code

def strip (text : String) : String :=
  String.ofList ((text.toList.dropWhile isSpace).reverse.dropWhile isSpace).reverse

def isCapital (char : Char) : Bool := 'A' ≤ char && char ≤ 'Z'

/-- `EVIDENCE_ID_PATTERN`, on a text without space at its end. -/
def isEvidenceId (text : String) : Bool :=
  let capitals := text.toList.takeWhile isCapital
  match text.toList.dropWhile isCapital with
  | '_' :: digits =>
    !capitals.isEmpty && digits.length = 6 &&
      digits.all (fun digit => (PublicIds.decimalValue digit).isSome)
  | _ => false

def evidencePrefix (evidenceId : String) : String :=
  String.ofList (evidenceId.toList.takeWhile (· ≠ '_'))

def artifactTypeOf (evidenceId : String) : Option ArtifactType :=
  (artifactPrefixTypes.find? (fun entry => entry.1 = evidencePrefix evidenceId)).map Prod.snd

/-- The values that name evidence, of the fields for lists and the fields for one. -/
def evidenceValues (claim : Dict) : List Json :=
  ["evidence_refs", "evidence_artifact_ids", "evidence_ids", "evidence_ref_ids"].flatMap (fun key =>
    match claim.get key with
    | .arr elements => elements
    | raw => if raw.truthy then [raw] else []) ++
  ["evidence_artifact_id", "evidence_id", "evidence_ref_id"].flatMap (fun key =>
    let raw := claim.get key
    if raw.truthy then [raw] else [])

def evidenceIdsFromClaim (claim : Dict) : List String :=
  ((evidenceValues claim).filter (fun value => !value.isNull && strip value.pyStr != "")).map Json.pyStr

/-! ### Looking an artifact up -/

/-- The first checkpoint of that id among the checkpoints of one backlog item. -/
def checkpointAmong (evidenceId : String) : List Json → Except PyExc (Option Dict)
  | [] => .ok none
  | checkpoint :: rest => do
      let entry ← checkpoint.getTarget
      if (entry.get "id").isStr evidenceId then return some entry else checkpointAmong evidenceId rest

def checkpointOfBacklog (evidenceId : String) : List Dict → Except PyExc (Option Dict)
  | [] => .ok none
  | item :: rest => do
      let checkpoints ← ((item.getOr "block_checkpoints" (.arr [])).orElse (.arr [])).pyIter
      match ← checkpointAmong evidenceId checkpoints with
      | some entry => return some entry
      | none => checkpointOfBacklog evidenceId rest

def lookupQueueCheckpoint (evidenceId : String) : List Workflow → Except PyExc (Option Dict)
  | [] => .ok none
  | workflow :: rest => do
      match ← checkpointOfBacklog evidenceId workflow.taskBacklog with
      | some entry =>
        return some (entry.update
          [("workflow_id", .str workflow.id), ("project_id", .ofOptionalText workflow.projectId)])
      | none => lookupQueueCheckpoint evidenceId rest

def lookupArtifact (store : ArtifactStore) (evidenceId : String) :
    ArtifactType → Except PyExc (Option Artifact)
  | .evidenceReference => .ok ((store.evidenceReferences.get? evidenceId).map .evidence)
  | .benchmarkResult => .ok ((store.benchmarkResults.get? evidenceId).map .benchmark)
  | .engineeringPlanEvaluation => .ok ((store.planEvaluations.get? evidenceId).map .evaluation)
  | .pilotRecord => .ok ((store.pilotRecords.get? evidenceId).map .pilotRecord)
  | .repositoryState => .ok ((store.repositoryStates.get? evidenceId).map .repositoryState)
  | .repositorySnapshot => .ok ((store.repositorySnapshots.get? evidenceId).map .snapshot)
  | .humanRubric => .ok ((store.humanRubrics.get? evidenceId).map .rubric)
  | .pilotLearning => .ok ((store.learningCandidates.get? evidenceId).map .filed)
  | .engineeringPlan => .ok ((store.engineeringPlans.get? evidenceId).map .filed)
  | .planFreeze => .ok ((store.planFreezes.get? evidenceId).map .filed)
  | .workflowCheckpoint => .ok ((store.workflowCheckpoints.get? evidenceId).map .filed)
  | .resumeValidation => .ok ((store.resumeValidations.get? evidenceId).map .resume)
  | .persistentWorkflow => .ok ((store.persistentWorkflows.get? evidenceId).map .workflow)
  | .queueCheckpoint => do
      return (← lookupQueueCheckpoint evidenceId store.persistentWorkflows.rows).map .queueCheckpoint

def isSuperseded (store : ArtifactStore) (evidenceId : String) : Artifact → Bool
  | .evaluation _ =>
    store.planEvaluations.rows.any (fun row => row.supersedesEvaluationId = some evidenceId)
  | artifact =>
    ((artifact.columns.get "superseded_by_plan_id").orElse
      (artifact.columns.get "superseded_by_id")).truthy

/-- The first key of the context that the artifact does not answer as expected. -/
def contextMismatch (artifact : Artifact) (requiredContext : Dict) : Option Dict :=
  requiredContext.findSome? (fun (key, expected) =>
    if expected.isNull || expected.isStr "" || (artifact.read key).pyEq expected then none
    else some [("field", .str key), ("expected", expected), ("actual", artifact.read key)])

/-! ### What an artifact says -/

def observedResult : Artifact → String
  | .benchmark row =>
    if row.status = .passed ∧ (row.deterministicMetrics.get "hard_gate_status").isStr "PASS" then "PASS"
    else "FAIL"
  | .evaluation row =>
    if row.result = .fail ∨ row.result = .insufficientEvidence then "FAIL" else "PASS"
  | .pilotRecord row => if (row.gateResult.get "passed").isTrue then "PASS" else "FAIL"
  | .repositoryState row => if row.classification = .canonicalClean then "PASS" else "FAIL"
  | .snapshot row => if row.isDirty then "FAIL" else "PASS"
  | .rubric row => if row.status = .captured then "PASS" else "FAIL"
  | .resume row => if row.result = .safeToResume then "PASS" else "FAIL"
  | _ => "UNKNOWN"

def payloadKeys : List String :=
  ["result", "status", "classification", "benchmark_version", "deterministic_metrics",
    "implementation_artifact", "dimensions", "corrections", "gate_result", "scores", "comments",
    "manifest_hash", "checkpoint_state", "latest_test_results", "known_warnings"]

def sortedText (value : Json) : List Char := value.dumps [',', ' '] [':', ' ']

def artifactText : Artifact → List Char
  | .queueCheckpoint entry => sortedText (.obj entry)
  | .evidence row =>
    (String.intercalate " " [row.sourceType, row.path, row.claim.getD "", row.snippet.getD "",
      if row.matchReasons.isEmpty then "" else (Json.ofTexts row.matchReasons).pyStr]).toList
  | artifact =>
    sortedText (.obj (("id", artifact.columns.get "id") ::
      payloadKeys.filterMap (fun key => (artifact.columns.lookup key).map (fun value => (key, value)))))

def textContainsResult (text : List Char) (expectedResult : String) : Bool :=
  ["observed_result=" ++ expectedResult, "result=" ++ expectedResult,
    "\"observed_result\": \"" ++ expectedResult ++ "\"", "\"result\": \"" ++ expectedResult ++ "\""].any
    (fun marker => marker.toList <:+: text)

/-- `wanted and wanted not in text`: only a string can be looked for in a text. -/
def lacks (text : List Char) (wanted : Json) : Except PyExc Bool :=
  if wanted.truthy then
    match wanted with
    | .str needle => .ok (!decide (needle.toList <:+: text))
    | _ => .error .typeError
  else .ok false

/-- What a claim asks of each artifact it names. -/
structure EvidenceDemand where
  allowedTypes : Option (List ArtifactType) := none
  requiredContext : Json := .null
  requireCurrent : Bool := false
  expectedResult : Option String := none
  expectedInvariant : Json := .null
  testProbeId : Json := .null
  claimName : Json := .null

def semanticSupportError (artifact : Artifact) (demand : EvidenceDemand) : Except PyExc (Option String) := do
  let expectedResult := Queue.upper (demand.expectedResult.getD "")
  let observed := observedResult artifact
  if expectedResult = "PASS" ∧ observed = "FAIL" then
    return some "EVIDENCE_RESULT_MISMATCH"
  let text := artifactText artifact
  if ← lacks text demand.claimName then
    return some "EVIDENCE_PAYLOAD_INSUFFICIENT"
  if ← lacks text demand.expectedInvariant then
    return some "EVIDENCE_PAYLOAD_INSUFFICIENT"
  if ← lacks text demand.testProbeId then
    return some "EVIDENCE_PAYLOAD_INSUFFICIENT"
  if expectedResult ≠ "" ∧ observed = "UNKNOWN" ∧ textContainsResult text expectedResult = false then
    return some "EVIDENCE_RESULT_MISMATCH"
  if expectedResult ≠ "" ∧ observed ≠ "UNKNOWN" ∧ observed ≠ expectedResult then
    return some "EVIDENCE_RESULT_MISMATCH"
  return none

/-! ### Validation -/

structure EvidenceReferenceValidation where
  evidenceId : Option String
  valid : Bool
  reason : String
  artifactType : Option ArtifactType := none
  details : Dict := []

structure ClaimEvidenceValidation where
  valid : Bool
  reason : String
  validations : List EvidenceReferenceValidation := []

def ClaimEvidenceValidation.diagnostics (validation : ClaimEvidenceValidation) : List String :=
  (validation.validations.filter (fun item => !item.valid)).map (fun item =>
    (match item.evidenceId with
      | some id => if id = "" then "<missing>" else id
      | none => "<missing>") ++ ":" ++ item.reason)

def contextError (artifact : Artifact) (requiredContext : Json) : Except PyExc (Option Dict) :=
  if requiredContext.truthy then
    match requiredContext with
    | .obj members => .ok (contextMismatch artifact members)
    | _ => .error .attributeError
  else .ok none

/-- The checks of one artifact, after its identifier has been read. -/
def validateArtifact (store : ArtifactStore) (demand : EvidenceDemand) (evidenceId : String)
    (artifactType : ArtifactType) : Except PyExc EvidenceReferenceValidation := do
  let invalid (reason : String) (details : Dict) : EvidenceReferenceValidation :=
    { evidenceId := some evidenceId
      valid := false
      reason := reason
      artifactType := some artifactType
      details := details }
  if demand.allowedTypes.any (fun allowed => decide (artifactType ∉ allowed)) then
    return invalid "EVIDENCE_TYPE_NOT_ALLOWED" []
  match ← lookupArtifact store evidenceId artifactType with
  | none => return invalid "EVIDENCE_NOT_FOUND" []
  | some artifact =>
    if demand.requireCurrent && isSuperseded store evidenceId artifact then
      return invalid "EVIDENCE_SUPERSEDED" []
    match ← contextError artifact demand.requiredContext with
    | some details => return invalid "EVIDENCE_CONTEXT_MISMATCH" details
    | none =>
      match ← semanticSupportError artifact demand with
      | some reason => return invalid reason []
      | none =>
        return {
          evidenceId := some evidenceId
          valid := true
          reason := "VALID"
          artifactType := some artifactType }

def validateEvidenceReference (store : ArtifactStore) (demand : EvidenceDemand) (given : String) :
    Except PyExc EvidenceReferenceValidation :=
  let evidenceId := strip given
  if evidenceId = "" then
    .ok { evidenceId := none, valid := false, reason := "MALFORMED_EVIDENCE_ID" }
  else if isEvidenceId evidenceId then
    match artifactTypeOf evidenceId with
    | none => .ok { evidenceId := some evidenceId, valid := false, reason := "MALFORMED_EVIDENCE_ID" }
    | some artifactType => validateArtifact store demand evidenceId artifactType
  else .ok { evidenceId := some evidenceId, valid := false, reason := "MALFORMED_EVIDENCE_ID" }

def validateClaimEvidence (store : ArtifactStore) (claim : Dict) (demand : EvidenceDemand) :
    Except PyExc ClaimEvidenceValidation := do
  let evidenceIds := evidenceIdsFromClaim claim
  if evidenceIds.isEmpty then
    return {
      valid := false
      reason := "EVIDENCE_PAYLOAD_INSUFFICIENT"
      validations := [{
        evidenceId := none
        valid := false
        reason := "EVIDENCE_PAYLOAD_INSUFFICIENT" }] }
  let validations ← evidenceIds.mapM (validateEvidenceReference store demand)
  match validations.find? (fun item => !item.valid) with
  | some first => return { valid := false, reason := first.reason, validations := validations }
  | none => return { valid := true, reason := "VALID", validations := validations }

/-! ### What a valid reference stands for -/

/-- An identifier names a stored artifact of an allowed type that is current where that is
asked, answers the context and supports the claim. -/
def Supports (store : ArtifactStore) (demand : EvidenceDemand) (given : String) : Prop :=
  ∃ artifactType artifact,
    isEvidenceId (strip given) = true ∧
    artifactTypeOf (strip given) = some artifactType ∧
    (∀ allowed, demand.allowedTypes = some allowed → artifactType ∈ allowed) ∧
    lookupArtifact store (strip given) artifactType = .ok (some artifact) ∧
    (demand.requireCurrent = true → isSuperseded store (strip given) artifact = false) ∧
    contextError artifact demand.requiredContext = .ok none ∧
    semanticSupportError artifact demand = .ok none

theorem validateArtifact_valid_iff (store : ArtifactStore) (demand : EvidenceDemand) (evidenceId : String)
    (artifactType : ArtifactType) :
    (∃ item, validateArtifact store demand evidenceId artifactType = .ok item ∧ item.valid = true) ↔
      (∀ allowed, demand.allowedTypes = some allowed → artifactType ∈ allowed) ∧
      ∃ artifact, lookupArtifact store evidenceId artifactType = .ok (some artifact) ∧
        (demand.requireCurrent = true → isSuperseded store evidenceId artifact = false) ∧
        contextError artifact demand.requiredContext = .ok none ∧
        semanticSupportError artifact demand = .ok none := by
  have allowedAll : demand.allowedTypes.any (fun allowed => decide (artifactType ∉ allowed)) = false ↔
      ∀ allowed, demand.allowedTypes = some allowed → artifactType ∈ allowed := by
    cases demand.allowedTypes with
    | none => simp
    | some allowed => simp
  constructor
  · rintro ⟨item, done, valid⟩
    unfold validateArtifact at done
    dsimp only at done
    split at done
    · cases done
      cases valid
    rename_i allowed
    refine ⟨allowedAll.mp (by simpa using allowed), ?_⟩
    have ⟨stored, found, done⟩ := except_bind_ok done
    cases stored with
    | none =>
      cases done
      cases valid
    | some artifact =>
      dsimp only at done
      split at done
      · cases done
        cases valid
      rename_i current
      have ⟨mismatch, context, done⟩ := except_bind_ok done
      cases mismatch with
      | some details =>
        cases done
        cases valid
      | none =>
        have ⟨reason, semantic, done⟩ := except_bind_ok done
        cases reason with
        | some text =>
          cases done
          cases valid
        | none => exact ⟨artifact, found, by simpa using current, context, semantic⟩
  · rintro ⟨allowed, artifact, found, current, context, semantic⟩
    let item : EvidenceReferenceValidation :=
      ⟨some evidenceId, true, "VALID", some artifactType, []⟩
    have done : validateArtifact store demand evidenceId artifactType = .ok item := by
      have unbarred := Bool.eq_false_iff.mp (allowedAll.mpr allowed)
      have fresh : ¬ (demand.requireCurrent && isSuperseded store evidenceId artifact) = true := by
        simpa using current
      simp only [validateArtifact, if_neg unbarred, found, if_neg fresh, context, semantic, bind, Except.bind]
      rfl
    exact ⟨item, done, rfl⟩

theorem validateEvidenceReference_valid_iff (store : ArtifactStore) (demand : EvidenceDemand)
    (given : String) :
    (∃ item, validateEvidenceReference store demand given = .ok item ∧ item.valid = true) ↔
      Supports store demand given := by
  have named (known : isEvidenceId (strip given) = true) : strip given ≠ "" := by
    intro empty
    rw [empty] at known
    cases known
  have reduced : (∃ item, validateEvidenceReference store demand given = .ok item ∧ item.valid = true) ↔
      isEvidenceId (strip given) = true ∧ ∃ artifactType,
        artifactTypeOf (strip given) = some artifactType ∧
        ∃ item, validateArtifact store demand (strip given) artifactType = .ok item ∧
          item.valid = true := by
    unfold validateEvidenceReference
    dsimp only
    by_cases known : isEvidenceId (strip given) = true
    · rw [if_neg (named known), if_pos known]
      cases artifactTypeOf (strip given) with
      | none => simp
      | some artifactType => simp [known]
    · simp only [known, false_and, iff_false, Bool.false_eq_true, if_false]
      split <;> simp
  rw [reduced]
  constructor
  · rintro ⟨known, artifactType, typed, valid⟩
    have ⟨allowed, artifact, checks⟩ := (validateArtifact_valid_iff ..).mp valid
    exact ⟨artifactType, artifact, known, typed, allowed, checks⟩
  · rintro ⟨artifactType, artifact, known, typed, allowed, checks⟩
    exact ⟨known, artifactType, typed, (validateArtifact_valid_iff ..).mpr ⟨allowed, artifact, checks⟩⟩

/-- A claim's evidence is valid when there is some and each identifier supports the claim. -/
theorem validateClaimEvidence_valid_iff (store : ArtifactStore) (claim : Dict) (demand : EvidenceDemand) :
    (∃ validation, validateClaimEvidence store claim demand = .ok validation ∧ validation.valid = true) ↔
      evidenceIdsFromClaim claim ≠ [] ∧ ∀ id ∈ evidenceIdsFromClaim claim, Supports store demand id := by
  unfold validateClaimEvidence
  dsimp only
  generalize evidenceIdsFromClaim claim = ids
  constructor
  · rintro ⟨validation, done, valid⟩
    split at done
    · cases done
      cases valid
    rename_i some
    refine ⟨by simpa using some, ?_⟩
    have ⟨items, ran, done⟩ := except_bind_ok done
    cases found : items.find? (fun item => !item.valid) with
    | some item =>
      rw [found] at done
      cases done
      cases valid
    | none =>
      intro id member
      have ⟨item, listed, checked⟩ := forall₂_left (mapM_ok ran) member
      have passed := List.find?_eq_none.mp found item listed
      exact (validateEvidenceReference_valid_iff store demand id).mp ⟨item, checked, by simpa using passed⟩
  · rintro ⟨some, all⟩
    have each : ∀ id ∈ ids, ∃ item, validateEvidenceReference store demand id = .ok item ∧
        item.valid = true :=
      fun id member => (validateEvidenceReference_valid_iff store demand id).mpr (all id member)
    have ⟨items, ran⟩ := mapM_ok_of_forall (fun id member => (each id member).imp fun _ found => found.1)
    have passed : items.find? (fun item => !item.valid) = none := by
      rw [List.find?_eq_none]
      intro item listed
      have ⟨id, member, checked⟩ := forall₂_right (mapM_ok ran) listed
      have ⟨other, found, valid⟩ := each id member
      rw [checked] at found
      cases found
      simpa using valid
    refine ⟨⟨true, "VALID", items⟩, ?_, rfl⟩
    rw [if_neg (by simpa using some), ran]
    simp only [bind, Except.bind, passed]
    rfl

end Lucius.Pilots
