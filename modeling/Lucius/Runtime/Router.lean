import Lucius.Runtime.Eligibility
import Lucius.Runtime.ProviderQuality

/-! The model execution router: it makes the request of a dispatched item, chooses among
the providers, calls them until one does not fail, and judges what they completed.

What a provider answers, and what it does to the workspace, is a parameter: it may
depend on the number of the call, so that a provider may answer each call otherwise.
The state keeps the calls made, which the program does not. -/

namespace Lucius.Router

open Worktree Updates Ollama

/-- An exception a provider raises. -/
structure ProviderFailure where
  errorType : String
  message : String
  deriving DecidableEq, Repr

structure Provider where
  registration : RuntimeProviderRegistration
  isAvailable : Except PyExc Bool
  invoke : Nat → RuntimeExecutionRequest → Journal String Bytes ProviderFailure RuntimeExecutionResult

def Provider.id (provider : Provider) : String := provider.registration.providerId

structure RuntimeProviderRegistry where
  registered : List Provider
  unique : (registered.map Provider.id).Nodup

def RuntimeProviderRegistry.providers (registry : RuntimeProviderRegistry) : List Provider :=
  sortedBy Provider.id registry.registered

structure ModelExecutionRouter where
  settings : RouterSettings
  registry : RuntimeProviderRegistry
  gates : GateEnvironment

/-- A call of a provider: what it was asked, after the failure of which provider, and
the workspace it found. -/
structure Invocation where
  provider : Provider
  request : RuntimeExecutionRequest
  failoverFrom : Option String
  number : Nat
  found : Files

structure RouterState where
  store : Store
  files : Files
  invocations : List Invocation := []

abbrev RouterAction (α : Type) := Action RouterState PyExc α

def onStore {α : Type} (operation : Op α) : RouterAction α :=
  Action.zoom RouterState.store (fun state store => { state with store := store }) operation

def onFiles {α : Type} (work : GateWork α) : RouterAction α :=
  Action.zoom RouterState.files (fun state files => { state with files := files }) work.commit

def routerAudit (context : RuntimeExecutionContext) (eventType action result : String) : AuditDraft where
  eventType := eventType
  projectId := context.projectId
  repositoryId := context.repositoryId
  taskId := context.workflowTaskId
  action := action
  result := result

def record (context : RuntimeExecutionContext) (eventType action result : String) : RouterAction Unit :=
  onStore (Op.record (routerAudit context eventType action result))

def runtimeCostRanks : List (String × Nat) :=
  [("LOCAL_FREE", 0), ("FREE", 0), ("LOW_COST", 1), ("LOW", 1), ("MEDIUM", 2), ("HIGH", 3),
    ("PREMIUM", 4)]

abbrev SelectionKey := ℕ ×ₗ ℤ ×ₗ String

def providerSelectionKey (registration : RuntimeProviderRegistration) : SelectionKey :=
  let costClass := Queue.upper (registration.costClass.getD "")
  let costRank := ((runtimeCostRanks.find? (fun entry => entry.1 = costClass)).map Prod.snd).getD 99
  toLex (costRank, toLex (-(registration.reliabilityScore : Int), registration.providerId))

structure Evaluated where
  provider : Provider
  evaluation : RuntimeProviderCandidateEvaluation

/-- Each provider judges the request that the ones before it have left. -/
def evaluateProviders (request : RuntimeExecutionRequest) :
    List Provider → Except PyExc (List Evaluated × RuntimeExecutionRequest)
  | [] => .ok ([], request)
  | provider :: rest => do
      let (evaluation, left) ← evaluateProvider request provider.registration provider.isAvailable
      let (later, last) ← evaluateProviders left rest
      return (⟨provider, evaluation⟩ :: later, last)

def eligibleInOrder (evaluated : List Evaluated) : List Evaluated :=
  sortedBy (fun found => providerSelectionKey found.provider.registration)
    (evaluated.filter (fun found => found.evaluation.eligible))

def routingDecision (executionId : String) (evaluated : List Evaluated) : RuntimeRoutingDecision :=
  let candidates := evaluated.map Evaluated.evaluation
  match eligibleInOrder evaluated with
  | [] =>
    { routingDecisionId := "PENDING"
      executionId := executionId
      candidates := candidates
      noEligibleReason := some "No registered runtime execution provider satisfied the request." }
  | selected :: fallbacks =>
    { routingDecisionId := "PENDING"
      executionId := executionId
      selectedProviderId := some selected.evaluation.providerId
      selectedModelId := selected.evaluation.selectedModelId
      fallbackProviderIds := fallbacks.map (fun found => found.evaluation.providerId)
      candidates := candidates
      policyReasons := selected.evaluation.reasons }

structure Routing where
  decision : RuntimeRoutingDecision
  providers : List Provider
  request : RuntimeExecutionRequest

/-- The decision is named by the audit event that records it. -/
def recordDecision (context : RuntimeExecutionContext) (decision : RuntimeRoutingDecision) :
    RouterAction RuntimeRoutingDecision := do
  let draft := routerAudit context "MODEL_EXECUTION_ROUTING_DECISION"
    "select_runtime_execution_provider" (decision.selectedProviderId.getD "NO_ELIGIBLE_PROVIDER")
  let state ← get
  onStore (Op.record draft)
  return { decision with routingDecisionId := (state.store.auditRow draft).id }

def route (router : ModelExecutionRouter) (request : RuntimeExecutionRequest)
    (context : RuntimeExecutionContext) : RouterAction Routing := do
  let (evaluated, left) ← Action.ofExcept (evaluateProviders request router.registry.providers)
  record context "MODEL_EXECUTION_PROVIDER_CANDIDATES_EVALUATED"
    "evaluate_runtime_execution_providers" "SUCCESS"
  let decision ← recordDecision context (routingDecision request.executionId evaluated)
  return {
    decision := decision
    providers := (eligibleInOrder evaluated).map Evaluated.provider
    request := { left with routingDecisionId := some decision.routingDecisionId } }

def providerException (provider : Provider) (request : RuntimeExecutionRequest)
    (failure : ProviderFailure) : RuntimeExecutionResult where
  executionId := request.executionId
  providerId := provider.id
  providerVersion := provider.registration.providerVersion
  modelId := selectedModelId provider.registration request
  routingDecisionId := request.routingDecisionId
  status := .failed
  providerNativeStatus := some "EXCEPTION"
  retryability :=
    if provider.registration.retryEligible || provider.registration.failoverEligible then
      .retryableOrFailoverable
    else .nonRetryable
  failureClass := some "PROVIDER_EXCEPTION"
  providerErrorMetadata :=
    [("error_type", .str failure.errorType), ("message", .str failure.message)]

def missingVerification (result : RuntimeExecutionResult) : RuntimeExecutionResult :=
  { result with
    status := .failed
    providerNativeStatus := some ((nonEmpty result.providerNativeStatus).getD
      "COMPLETED_WITHOUT_VERIFICATION")
    retryability := .nonRetryable
    failureClass := some "MISSING_VERIFICATION_HANDOFF"
    mutationSummary := some "Provider reported completion without verification handoff evidence."
    providerErrorMetadata := Dict.update result.providerErrorMetadata
      [("reason", .str "COMPLETED result requires verification handoff evidence.")] }

def evidenceReferenceReasons : List String :=
  ["FABRICATED_OR_UNAUTHORIZED_EVIDENCE_REFERENCE", "MALFORMED_EVIDENCE_REFERENCE_FIELD",
    "MISSING_REQUIRED_EVIDENCE_REFERENCE",
    "FACT_OR_DERIVED_VALUE_MISSING_ALLOWED_EVIDENCE_REFERENCE"]

def evidenceReferenceFailed (issue : Dict) : Bool :=
  evidenceReferenceReasons.any (Acceptance.startsWith (issue.getOr "reason" (.str "")).pyStr)

def unsupportedClaims (result : RuntimeExecutionResult) (issues : List Dict) : RuntimeExecutionResult :=
  { result with
    status := .failed
    providerNativeStatus := some ((nonEmpty result.providerNativeStatus).getD
      "COMPLETED_WITH_UNSUPPORTED_CLAIMS")
    retryability := .nonRetryable
    failureClass := some (if issues.any evidenceReferenceFailed then
        "EVIDENCE_REFERENCE_VALIDATION_FAILED"
      else "UNSUPPORTED_QUANTITATIVE_CLAIM")
    mutationSummary := some ("Evidence-sensitive provider output contains fabricated, missing, " ++
      "untyped, or unsupported evidence/quantitative claims.")
    providerErrorMetadata := Dict.update result.providerErrorMetadata [
      ("reason", .str ("Evidence-sensitive claims require allowed evidence references and FACT, " ++
        "DERIVED_VALUE, ASSUMPTION, PROPOSED_PARAMETER, or UNKNOWN classification.")),
      ("quality_issues", objects issues)] }

/-- The gate on the evidence of a result that the others have let through. -/
def enforceQuality (env : GateEnvironment) (request : RuntimeExecutionRequest)
    (result : RuntimeExecutionResult) : GateWork RuntimeExecutionResult :=
  if result.status ≠ .completed then return result
  else do
    let files ← Journal.read
    let issues ← Journal.ofExcept (evidenceSensitiveProviderQualityIssues env request result files)
    if issues.isEmpty then return result else return unsupportedClaims result issues

def enforceProviderResultContract (env : GateEnvironment) (request : RuntimeExecutionRequest)
    (result : RuntimeExecutionResult) : GateWork RuntimeExecutionResult :=
  if result.status = .completed ∧ result.verification.isEmpty then return missingVerification result
  else do
    let enforced ← enforceSchemaConstrainedOutput env request result
    enforceQuality env request enforced

def routed (request : RuntimeExecutionRequest) (failoverFrom : Option String)
    (result : RuntimeExecutionResult) : RuntimeExecutionResult :=
  { result with
    routingDecisionId := request.routingDecisionId
    fallbackUsed := failoverFrom.isSome
    failoverFromProviderId := failoverFrom }

namespace Invocation

def call (invocation : Invocation) : List FileUpdate × Except ProviderFailure RuntimeExecutionResult :=
  invocation.provider.invoke invocation.number invocation.request invocation.found

/-- The result of the call, an exception being one that failed. -/
def result (invocation : Invocation) : RuntimeExecutionResult :=
  routed invocation.request invocation.failoverFrom
    (match invocation.call.2 with
      | .ok answer => answer
      | .error failure => providerException invocation.provider invocation.request failure)

/-- The workspace as the call leaves it. -/
def left (invocation : Invocation) : Files := applyAll invocation.found invocation.call.1

/-- The call, and the judgement of its result. -/
def judged (env : GateEnvironment) (invocation : Invocation) : GateWork RuntimeExecutionResult := do
  Journal.made invocation.call.1
  enforceProviderResultContract env invocation.request invocation.result

end Invocation

def recordModelExecutionAttempt (context : RuntimeExecutionContext) (request : RuntimeExecutionRequest)
    (result : RuntimeExecutionResult) (attemptNumber : Nat) : Op Unit := do
  let store ← get
  let recordId ←
    if 1 < attemptNumber ∨ (store.modelExecutions.get? request.executionId).isSome = true then
      Op.nextId .modelExecution
    else pure request.executionId
  modify (fun current => { current with
    modelExecutions := current.modelExecutions.put {
      id := recordId
      requestId := request.executionId
      projectId := context.projectId
      taskId := context.workflowTaskId
      runId := some context.workflowId
      providerId := result.providerId
      model := result.modelId
      status := StrEnum.value result.status
      capabilities := request.requiredCapabilities
      fallbackUsed := result.fallbackUsed
      attemptNumber := attemptNumber
      errorCode := result.failureClass } })

/-- The call a provider gets next. -/
def invocationAt (request : RuntimeExecutionRequest) (provider : Provider)
    (failoverFrom : Option String) (state : RouterState) : Invocation :=
  ⟨provider, request, failoverFrom, state.invocations.length, state.files⟩

def begin (invocation : Invocation) (state : RouterState) : RouterState :=
  { state with invocations := state.invocations ++ [invocation] }

/-- One call of a provider, judged and recorded. -/
def attempt (router : ModelExecutionRouter) (context : RuntimeExecutionContext)
    (request : RuntimeExecutionRequest) (provider : Provider) (failoverFrom : Option String)
    (attemptIndex : Nat) : RouterAction RuntimeExecutionResult := do
  record context "MODEL_EXECUTION_PROVIDER_INVOCATION_STARTED" "invoke_runtime_execution_provider"
    provider.id
  let state ← get
  let invocation := invocationAt request provider failoverFrom state
  modify (begin invocation)
  let result ← onFiles (invocation.judged router.gates)
  record context "MODEL_EXECUTION_PROVIDER_INVOCATION_COMPLETED" "invoke_runtime_execution_provider"
    (StrEnum.value result.status)
  onStore (recordModelExecutionAttempt context request result (attemptIndex + 1))
  return result

def retryable (retryability : RuntimeRetryability) : Bool :=
  retryability = .retryable || retryability = .retryableOrFailoverable

def failoverable (retryability : RuntimeRetryability) : Bool :=
  retryability = .failoverable || retryability = .retryableOrFailoverable

/-- The last attempt made: its result, its index, and the failovers before it. -/
structure Attempted where
  result : RuntimeExecutionResult
  attemptIndex : Nat
  failoversUsed : Nat

/-- The attempts of one provider, from the index on, with the retries that are left. -/
def attempts (router : ModelExecutionRouter) (context : RuntimeExecutionContext)
    (request : RuntimeExecutionRequest) (provider : Provider) (failoverFrom : Option String)
    (failoversUsed attemptIndex : Nat) : Nat → RouterAction Attempted
  | 0 => do
      let result ← attempt router context request provider failoverFrom attemptIndex
      return ⟨result, attemptIndex, failoversUsed⟩
  | retriesLeft + 1 => do
      let result ← attempt router context request provider failoverFrom attemptIndex
      if result.status = .failed ∧ retryable result.retryability = true then
        record context "MODEL_EXECUTION_PROVIDER_RETRY_ATTEMPTED" "retry_runtime_execution_provider"
          provider.id
        attempts router context request provider failoverFrom failoversUsed (attemptIndex + 1)
          retriesLeft
      else return ⟨result, attemptIndex, failoversUsed⟩

/-- The providers in turn: one that fails hands over to the next while its failure and
the number of failovers allow it. -/
def tryProviders (router : ModelExecutionRouter) (context : RuntimeExecutionContext)
    (request : RuntimeExecutionRequest) (failoverFrom : Option String) (failoversUsed : Nat)
    (provider : Provider) : List Provider → RouterAction Attempted
  | [] => attempts router context request provider failoverFrom failoversUsed 0
      router.settings.maxProviderRetries
  | next :: rest => do
      let attempted ← attempts router context request provider failoverFrom failoversUsed 0
        router.settings.maxProviderRetries
      if attempted.result.status = .failed ∧ failoverable attempted.result.retryability = true ∧
          failoversUsed < router.settings.maxFailovers then
        record context "MODEL_EXECUTION_PROVIDER_FAILOVER_ATTEMPTED"
          "failover_runtime_execution_provider" next.id
        tryProviders router context request (some provider.id) (failoversUsed + 1) next rest
      else return attempted

def adapterResultFromProvider (attempted : Attempted) : Except PyExc ExecutionAdapterResult := do
  let result := attempted.result
  let resumeCondition ← (result.verificationHandoffMetadata.get "resume_condition").optionalText
  let error ← (result.providerErrorMetadata.get "message").optionalText
  return {
    outcome := result.status
    completedSubsteps := result.completedSubsteps
    evidence := if result.evidence.isEmpty then result.outputArtifactRefs else result.evidence
    verification := result.verification
    documentation := result.documentation
    retries := attempted.attemptIndex
    blockingReason := if result.status = .completed then none else result.mutationSummary
    blockerCategory := result.failureClass
    resumeCondition := resumeCondition
    error := error
    executionId := some result.executionId
    providerId := some result.providerId
    providerVersion := some result.providerVersion
    modelId := result.modelId
    modelVersion := result.modelVersion
    routingDecisionId := result.routingDecisionId
    providerNativeStatus := result.providerNativeStatus
    retryability := result.retryability
    failureClass := result.failureClass
    providerErrorMetadata := result.providerErrorMetadata
    fallbackUsed := decide (0 < attempted.failoversUsed) || result.fallbackUsed
    failoverFromProviderId := result.failoverFromProviderId
    verificationHandoffMetadata := result.verificationHandoffMetadata }

def completeRouting (context : RuntimeExecutionContext) (attempted : Attempted) :
    RouterAction ExecutionAdapterResult := do
  let normalized ← Action.ofExcept (adapterResultFromProvider attempted)
  record context "MODEL_EXECUTION_PROVIDER_RESULT_NORMALIZED" "normalize_runtime_execution_result"
    (StrEnum.value normalized.outcome)
  record context "MODEL_EXECUTION_ROUTING_COMPLETED" "route_runtime_execution_request"
    (StrEnum.value normalized.outcome)
  return normalized

def mutationScopeRejected (request : RuntimeExecutionRequest) (error : String) :
    ExecutionAdapterResult where
  outcome := .failed
  executionId := some request.executionId
  blockerCategory := some "MUTATION_SCOPE_VIOLATION"
  failureClass := some "MUTATION_SCOPE_VIOLATION"
  blockingReason := some ("Mutation authorization rejected before provider routing: " ++ error)
  resumeCondition := some ("Restore a valid frozen plan with explicit authorized mutation paths " ++
    "and rerun canonical readiness/release.")
  error := some error

def noEligibleProvider (request : RuntimeExecutionRequest) (decision : RuntimeRoutingDecision) :
    ExecutionAdapterResult where
  outcome := .failed
  executionId := some request.executionId
  routingDecisionId := some decision.routingDecisionId
  blockerCategory := some "NO_ELIGIBLE_PROVIDER"
  failureClass := some "NO_ELIGIBLE_PROVIDER"
  blockingReason := some (decision.noEligibleReason.getD "No eligible runtime execution provider.")
  resumeCondition := some ("Register or restore an eligible execution provider, then rerun " ++
    "canonical readiness/release.")
  error := decision.noEligibleReason

/-- The scope error that stops a mutation before it is routed. -/
def scopeError (request : RuntimeExecutionRequest) : Option String :=
  if request.readOnly then none else nonEmpty request.metadata.mutationScopeError

def routeRequest (router : ModelExecutionRouter) (context : RuntimeExecutionContext)
    (request : RuntimeExecutionRequest) : RouterAction ExecutionAdapterResult := do
  let routing ← route router request context
  match routing.providers with
  | [] => do
      record context "MODEL_EXECUTION_NO_ELIGIBLE_PROVIDER" "route_runtime_execution_request"
        "FAILED_CLOSED"
      record context "MODEL_EXECUTION_ROUTING_COMPLETED" "route_runtime_execution_request" "FAILED"
      return noEligibleProvider request routing.decision
  | selected :: fallbacks => do
      let attempted ← tryProviders router context routing.request none 0 selected fallbacks
      completeRouting context attempted

def execute (router : ModelExecutionRouter) (context : RuntimeExecutionContext) :
    RouterAction ExecutionAdapterResult := do
  let request ← onStore (requestFromContext router.settings context)
  record context "MODEL_EXECUTION_ROUTING_REQUEST_ACCEPTED" "accept_runtime_execution_request"
    "ACCEPTED"
  match scopeError request with
  | some error => do
      record context "MODEL_EXECUTION_MUTATION_SCOPE_REJECTED" "validate_frozen_mutation_scope"
        "FAILED_CLOSED"
      return mutationScopeRejected request error
  | none => routeRequest router context request

end Lucius.Router
