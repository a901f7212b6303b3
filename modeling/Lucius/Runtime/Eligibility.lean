import Lucius.Queue.Items
import Lucius.Runtime.Requests

/-! Which providers may execute a request: what they offer, whom they serve and what
the profile of the model they would use allows. -/

namespace Lucius.Router

open Queue

/-- The reasons whose conditions hold, each once. -/
def reasonsOf (found : List (Bool × String)) : List String :=
  ((found.filter Prod.fst).map Prod.snd).eraseDups

def missingFrom (wanted offered : List String) : List String :=
  sortedBy id (wanted.filter (· ∉ offered)).dedup

/-- A restriction to some names: an empty list restricts nothing, nor does it matter
to a request that names none. -/
def excludes (allowed : List String) (name : String) : Bool :=
  !name.toList.isEmpty && !allowed.isEmpty && decide (name ∉ allowed)

def registrationObstacle (request : RuntimeExecutionRequest)
    (registration : RuntimeProviderRegistration) : Option String :=
  let missingCapabilities := missingFrom request.requiredCapabilities registration.capabilities
  let missingTools := missingFrom request.toolRequirements registration.supportedTools
  if !missingCapabilities.isEmpty then
    some ("missing capabilities: " ++ (Json.ofTexts missingCapabilities).pyRepr)
  else if excludes registration.supportedTaskClasses request.taskType then
    some ("task type " ++ request.taskType ++ " unsupported")
  else if excludes registration.allowedProjectIds (request.projectId.getD "") then
    some "project not allowed"
  else if excludes registration.allowedRepositoryIds (request.repositoryId.getD "") then
    some "repository not allowed"
  else if excludes registration.supportedIsolationModes request.isolationMode then
    some "isolation mode unsupported"
  else if !missingTools.isEmpty then some ("missing tools: " ++ (Json.ofTexts missingTools).pyRepr)
  else
    match Ollama.optionalInt (request.contextLimits.get "max_context_tokens"),
        registration.maxContextTokens with
    | some requested, some most => if most < requested then some "context limit exceeded" else none
    | _, _ => none

/-- The first capable model, in the order of their identifiers; the first model when
none is capable. -/
def selectedModel (registration : RuntimeProviderRegistration) (request : RuntimeExecutionRequest) :
    Option RuntimeProviderModel :=
  let capable := registration.models.filter (fun model =>
    request.requiredCapabilities.all
      (fun capability => capability ∈ model.capabilities || capability ∈ registration.capabilities))
  (sortedBy (·.modelId) (if capable.isEmpty then registration.models else capable)).head?

def selectedModelId (registration : RuntimeProviderRegistration) (request : RuntimeExecutionRequest) :
    Option String :=
  (selectedModel registration request).map (·.modelId)

def selectedProfile (registration : RuntimeProviderRegistration) (request : RuntimeExecutionRequest) :
    Option ModelCapabilityProfile :=
  (selectedModel registration request).bind (·.capabilityProfile)

def mutationCapabilities : List String := ["code_modification", "documentation_update"]

def requiresMutation (request : RuntimeExecutionRequest) : Bool :=
  request.requiredCapabilities.any (· ∈ mutationCapabilities)

def complexityNames : List String := ["T0", "T1", "T2", "T3", "T4"]

def complexityRank (value : String) : Nat :=
  let text := if value.toList.isEmpty then "T1" else upper value
  (complexityNames.findIdx? (· = text)).getD 99

def mentions (text : String) (terms : List String) : Bool :=
  terms.any (fun term => Acceptance.occursIn (Worktree.utf8 term) (Worktree.utf8 (lower text)))

def intentText (request : RuntimeExecutionRequest) (second : String) : String :=
  " ".intercalate [request.taskIntent, second, " ".intercalate request.requiredCapabilities]

def isEvidenceSensitiveRequest (request : RuntimeExecutionRequest) : Bool :=
  (request.contextLimits.get "evidence_sensitive").isTrue ||
    mentions (intentText request request.logicalTaskId)
      ["evidence", "profitability", "backtest", "oos", "capital", "strategy"]

def financialOrLiveAction (request : RuntimeExecutionRequest) : Bool :=
  mentions (intentText request request.taskType)
    ["live trading", "money movement", "place order", "execute trade"]

def externalSideEffectAction (request : RuntimeExecutionRequest) : Bool :=
  mentions (intentText request request.taskType) ["deploy", "push", "merge"]

def isSupervised (request : RuntimeExecutionRequest) : Bool :=
  request.executionSupervision = .supervised || request.executionSupervision = .humanApproved

def profileIneligibilityReasons (request : RuntimeExecutionRequest) :
    Option ModelCapabilityProfile → List String
  | none => []
  | some profile => reasonsOf [
      (profile.status = .disabled, "MODEL_NOT_QUALIFIED"),
      (profile.supervisionRequired && !isSupervised request, "MODEL_SUPERVISION_REQUIRED"),
      (request.unattended && (profile.supervisionRequired || profile.status = .supervisedOnly),
        "MODEL_SUPERVISION_REQUIRED"),
      (profile.schemaConstrainedRequired && !(request.contextLimits.get "schema_constraint").truthy,
        "SCHEMA_CONSTRAINT_REQUIRED"),
      (requiresMutation request && !profile.supportsMutation, "MODEL_LACKS_REQUIRED_CAPABILITY")]

/-- A timeout of zero is none. -/
def effectiveTimeout (request : RuntimeExecutionRequest) (profile : ModelCapabilityProfile) :
    Option Int :=
  match request.timeoutSeconds with
  | some seconds => if seconds = 0 then profile.defaultTimeoutSeconds else some seconds
  | none => profile.defaultTimeoutSeconds

def exceedsTimeout (request : RuntimeExecutionRequest) (profile : ModelCapabilityProfile) : Bool :=
  match profile.maxTimeoutSeconds, effectiveTimeout request profile with
  | some most, some seconds => decide (most < seconds)
  | _, _ => false

def qualificationReasons : Option ModelCapabilityProfile → List (Bool × String)
  | none => [(true, "MODEL_NOT_QUALIFIED_FOR_UNATTENDED")]
  | some profile =>
    let supervised := profile.status = .supervisedOnly || profile.supervisionRequired
    [(profile.status = .disabled, "MODEL_NOT_QUALIFIED_FOR_UNATTENDED"),
      (profile.status ≠ .disabled && supervised, "MODEL_SUPERVISION_REQUIRED"),
      (profile.status ≠ .disabled && !supervised &&
        (profile.status = .notQualified || !profile.unattendedEligible),
        "MODEL_NOT_QUALIFIED_FOR_UNATTENDED")]

def unattendedProfileReasons (request : RuntimeExecutionRequest)
    (registration : RuntimeProviderRegistration) :
    Option ModelCapabilityProfile → List (Bool × String)
  | none => []
  | some profile => [
      (!request.metadata.taskComplexityExplicit, "TASK_COMPLEXITY_UNKNOWN"),
      (!request.metadata.taskRiskExplicit, "TASK_RISK_UNKNOWN"),
      (!request.metadata.deterministicVerificationExplicit, "DETERMINISTIC_VERIFICATION_UNKNOWN"),
      (!request.metadata.isolationModeExplicit, "WORKSPACE_ISOLATION_UNKNOWN"),
      (profile.isLocal && !(registration.metadata.get "explicit_allowed_workspace_roots").truthy,
        "WORKSPACE_ALLOWED_ROOT_UNKNOWN"),
      (!(missingFrom request.requiredCapabilities profile.supportedCapabilities).isEmpty,
        "MODEL_LACKS_REQUIRED_CAPABILITY"),
      (requiresMutation request && !profile.unattendedMutationEligible,
        "MODEL_NOT_QUALIFIED_FOR_UNATTENDED_MUTATION"),
      (requiresMutation request && !profile.supportsMutation, "MODEL_LACKS_REQUIRED_CAPABILITY"),
      (decide (complexityRank profile.maxTaskComplexity < complexityRank request.taskComplexity),
        "TASK_COMPLEXITY_EXCEEDS_MODEL_PROFILE"),
      (decide (upper request.taskComplexity ∉ complexityNames), "TASK_COMPLEXITY_UNKNOWN"),
      (decide (upper request.taskRisk ≠ "LOW"), "TASK_RISK_EXCEEDS_UNATTENDED_POLICY"),
      (profile.deterministicVerificationRequired &&
        !(request.contextLimits.get "deterministic_verification").truthy,
        "DETERMINISTIC_VERIFICATION_REQUIRED"),
      (isEvidenceSensitiveRequest request && !profile.evidenceSensitiveSuitable,
        "MODEL_NOT_QUALIFIED_FOR_EVIDENCE_SENSITIVE_WORK"),
      (isEvidenceSensitiveRequest request && profile.evidenceSensitiveSuitable &&
        !(request.contextLimits.get "evidence_reference_validation_required").truthy,
        "EVIDENCE_VALIDATION_REQUIRED"),
      (exceedsTimeout request profile, "TIMEOUT_BUDGET_EXCEEDS_MODEL_PROFILE")]

def unattendedRequestReasons (request : RuntimeExecutionRequest) : List (Bool × String) := [
  (decide (request.isolationMode ≠ "ISOLATED_WORKTREE"), "WORKSPACE_ISOLATION_REQUIRED"),
  ((request.contextLimits.get "external_side_effects").isTrue || externalSideEffectAction request,
    "EXTERNAL_SIDE_EFFECT_NOT_AUTHORIZED"),
  (financialOrLiveAction request, "FINANCIAL_ACTION_NOT_AUTHORIZED"),
  ((request.contextLimits.get "semantic_retry_allowed").isTrue, "SEMANTIC_RETRY_NOT_AUTHORIZED")]

def unattendedIneligibilityReasons (request : RuntimeExecutionRequest)
    (registration : RuntimeProviderRegistration) (profile : Option ModelCapabilityProfile) :
    List String :=
  reasonsOf (qualificationReasons profile ++ unattendedProfileReasons request registration profile ++
    unattendedRequestReasons request)

/-- An unattended request without a timeout takes the one of the profile. -/
def withBoundedTimeout (request : RuntimeExecutionRequest) (profile : Option ModelCapabilityProfile) :
    RuntimeExecutionRequest :=
  match request.timeoutSeconds with
  | some _ => request
  | none => { request with timeoutSeconds := profile.bind (·.defaultTimeoutSeconds) }

def refused (registration : RuntimeProviderRegistration) (reasons : List String)
    (selectedModelId : Option String) : RuntimeProviderCandidateEvaluation where
  providerId := registration.providerId
  eligible := false
  reasons := reasons
  selectedModelId := selectedModelId

def eligibleReason : String :=
  "eligible: capability, policy, repository, isolation, tool, and context requirements satisfied"

def accepted (registration : RuntimeProviderRegistration) (selectedModelId : Option String) :
    RuntimeProviderCandidateEvaluation where
  providerId := registration.providerId
  eligible := true
  reasons := [eligibleReason]
  selectedModelId := selectedModelId

/-- The judgement of the model's profile, and the request it leaves. -/
def evaluateProfile (request : RuntimeExecutionRequest) (registration : RuntimeProviderRegistration) :
    RuntimeProviderCandidateEvaluation × RuntimeExecutionRequest :=
  let profile := selectedProfile registration request
  let modelId := selectedModelId registration request
  let profileReasons := profileIneligibilityReasons request profile
  if !profileReasons.isEmpty then (refused registration profileReasons modelId, request)
  else if !request.unattended then (accepted registration modelId, request)
  else
    let unattendedReasons := unattendedIneligibilityReasons request registration profile
    if !unattendedReasons.isEmpty then (refused registration unattendedReasons modelId, request)
    else (accepted registration modelId, withBoundedTimeout request profile)

/-- A provider is asked whether it is available only where it is registered so. -/
def providerAvailable (registration : RuntimeProviderRegistration) (isAvailable : Except PyExc Bool) :
    Except PyExc Bool :=
  if registration.available then isAvailable else .ok false

def evaluateProvider (request : RuntimeExecutionRequest) (registration : RuntimeProviderRegistration)
    (isAvailable : Except PyExc Bool) :
    Except PyExc (RuntimeProviderCandidateEvaluation × RuntimeExecutionRequest) :=
  if registration.status ≠ .active then
    .ok (refused registration ["provider status " ++ StrEnum.value registration.status] none, request)
  else do
    let available ← providerAvailable registration isAvailable
    if !available then return (refused registration ["provider unavailable"] none, request)
    else
      match registrationObstacle request registration with
      | some reason => return (refused registration [reason] none, request)
      | none => return evaluateProfile request registration

end Lucius.Router
