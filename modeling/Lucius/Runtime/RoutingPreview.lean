import Lucius.Runtime.FailedExecution
import Lucius.Runtime.RouterRecords

/-! The preview of a routing, and what a provider's eligibility and its request owe to the
other providers. All providers judge one request, and one that accepts may write to it. -/

namespace Lucius.Router

open Worktree Lucius.Action

structure RuntimeWorkerShape where
  valid : Bool
  reasons : List String := []
  contextFileCount : Nat := 0
  contextBytes : Nat := 0
  maxContextFiles : Option Int := none
  maxContextBytes : Option Int := none
  requestedEvidenceRefs : Option Int := none
  maxEvidenceRefs : Option Int := none
  deriving DecidableEq, Repr

/-- The size of a context file; a path that leads to no file of the workspace has none. -/
def contextFileBytes (checkout : Checkout) (files : Files) (rawPath : Json) : Nat :=
  match checkout.resolve rawPath.pyStr with
  | none => 0
  | some location => ((files.lookup location).map List.length).getD 0

def workerShapeLimit (providers : List Provider) : Option Json :=
  (providers.map (fun provider => provider.registration.metadata.get "read_only_worker_shape")).find?
    Json.truthy

def limitField (limit : Json) (key : String) (default : Json) : Except PyExc Json :=
  match limit with
  | .obj members => .ok (Dict.getOr members key default)
  | _ => .error .attributeError

def textOf : Json → Option String
  | .str text => some text
  | _ => none

/-- What a request has to be for the worker of a shape. -/
def workerFieldReasons (request : RuntimeExecutionRequest) (capabilities : List Json) : List String :=
  ([(decide (request.taskType ≠ "inspection"), "WORKER_TASK_TYPE_MISMATCH"),
    (decide (request.taskComplexity ≠ "T1"), "WORKER_TASK_COMPLEXITY_MISMATCH"),
    (decide (request.taskRisk ≠ "LOW"), "WORKER_TASK_RISK_MISMATCH"),
    (decide (request.isolationMode ≠ "ISOLATED_WORKTREE"), "WORKER_ISOLATION_MODE_MISMATCH"),
    (decide (request.executionSupervision ≠ .unsupervised), "WORKER_EXECUTION_SUPERVISION_MISMATCH"),
    (decide (request.requiredCapabilities.map some ≠ capabilities.map textOf), "WORKER_CAPABILITY_MISMATCH"),
    (!(request.contextLimits.get "deterministic_verification").isTrue,
      "WORKER_DETERMINISTIC_VERIFICATION_REQUIRED"),
    (!(request.contextLimits.get "evidence_reference_validation_required").isTrue,
      "WORKER_EVIDENCE_VALIDATION_REQUIRED")].filter Prod.fst).map Prod.snd

def requestedRefs (request : RuntimeExecutionRequest) : Except PyExc (Option Int) :=
  match request.contextLimits.get "requested_evidence_refs" with
  | .null => .ok none
  | value => do return some (← value.pyInt)

def limitedWorkerShape (checkout : Checkout) (files : Files) (request : RuntimeExecutionRequest)
    (limit : Json) : Except PyExc RuntimeWorkerShape := do
  let paths ← (request.contextLimits.getOr "read_only_context_paths" (.arr [])).pyIter
  let contextBytes := (paths.map (contextFileBytes checkout files)).sum
  let maxFiles ← (← limitField limit "max_context_files" (.int 0)).pyInt
  let maxBytes ← (← limitField limit "max_context_bytes" (.int 0)).pyInt
  let maxEvidenceRefs ← (← limitField limit "max_evidence_refs" (.int 0)).pyInt
  let capabilities ← (← limitField limit "required_capabilities"
    (.arr [.str "inspection_reasoning"])).pyIter
  let requested ← requestedRefs request
  let reasons := workerFieldReasons request capabilities ++
    ([(decide (maxFiles < paths.length), "WORKER_CONTEXT_FILE_LIMIT_EXCEEDED"),
      (decide (maxBytes < contextBytes), "WORKER_CONTEXT_BYTE_LIMIT_EXCEEDED"),
      (requested.any (fun refs => decide (maxEvidenceRefs < refs)),
        "WORKER_EVIDENCE_REFERENCE_LIMIT_EXCEEDED")].filter Prod.fst).map Prod.snd
  return {
    valid := reasons.isEmpty
    reasons := reasons
    contextFileCount := paths.length
    contextBytes := contextBytes
    maxContextFiles := some maxFiles
    maxContextBytes := some maxBytes
    requestedEvidenceRefs := requested
    maxEvidenceRefs := some maxEvidenceRefs }

def workerShape (checkout : Checkout) (files : Files) (request : RuntimeExecutionRequest)
    (providers : List Provider) : Except PyExc RuntimeWorkerShape :=
  if !request.readOnly || !request.unattended then .ok { valid := true }
  else
    match workerShapeLimit providers with
    | none => .ok { valid := true }
    | some limit => limitedWorkerShape checkout files request limit

structure RoutingPreview where
  request : RuntimeExecutionRequest
  candidates : List RuntimeProviderCandidateEvaluation
  workerShape : RuntimeWorkerShape

/-- The judgement of a request by the registered providers, and the request it leaves. -/
def previewCandidates (router : ModelExecutionRouter) (request : RuntimeExecutionRequest) :
    Except PyExc (List RuntimeProviderCandidateEvaluation × RuntimeExecutionRequest) := do
  let (evaluated, left) ← evaluateProviders request router.registry.providers
  return (evaluated.map Evaluated.evaluation, left)

def preview (router : ModelExecutionRouter) (context : RuntimeExecutionContext) :
    RouterAction RoutingPreview := do
  let request ← onStore (requestFromContext router.settings context)
  let (candidates, left) ← Action.ofExcept (previewCandidates router request)
  let state ← get
  let shape ← Action.ofExcept (workerShape router.gates.checkout state.files left
    router.registry.providers)
  return ⟨left, candidates, shape⟩

/-- The router with no other provider registered. -/
def ModelExecutionRouter.only (router : ModelExecutionRouter) (provider : Provider) :
    ModelExecutionRouter :=
  { router with registry := ⟨[provider], List.nodup_singleton _⟩ }

/-- The routing finds the provider eligible, and would call it with a request. -/
def Offers (router : ModelExecutionRouter) (request : RuntimeExecutionRequest)
    (context : RuntimeExecutionContext) (state : RouterState) (provider : Provider)
    (asked : RuntimeExecutionRequest) : Prop :=
  ∃ routing after, exec (route router request context) state = (.ok routing, after) ∧
    provider ∈ routing.providers ∧ routing.request = asked

/-- Each provider is offered what it is offered alone. -/
def Independent (router : ModelExecutionRouter) (request : RuntimeExecutionRequest)
    (context : RuntimeExecutionContext) (state : RouterState) : Prop :=
  ∀ provider ∈ router.registry.registered, ∀ asked,
    Offers router request context state provider asked ↔
      Offers (router.only provider) request context state provider asked

def PreviewKeeps (router : ModelExecutionRouter) (request : RuntimeExecutionRequest) : Prop :=
  ∀ candidates left, previewCandidates router request = .ok (candidates, left) → left = request

def Provider.evaluate (provider : Provider) (request : RuntimeExecutionRequest) :
    Except PyExc (RuntimeProviderCandidateEvaluation × RuntimeExecutionRequest) :=
  evaluateProvider request provider.registration provider.isAvailable

/-- The provider accepts the request as it was made. -/
def Provider.Accepts (provider : Provider) (request : RuntimeExecutionRequest) : Prop :=
  ∃ evaluation left, provider.evaluate request = .ok (evaluation, left) ∧ evaluation.eligible = true

/-- The judgement does not end in an exception of the availability check. -/
def Provider.Answers (provider : Provider) : Prop :=
  provider.registration.status = .active → provider.registration.available = true →
    ∃ available, provider.isAvailable = .ok available

def Provider.defaultTimeout (provider : Provider) (request : RuntimeExecutionRequest) : Option Int :=
  (selectedProfile provider.registration request).bind (·.defaultTimeoutSeconds)

/-- Nobody accepts the request, or each provider answers and none that accepts it would
write a timeout into it. -/
def Untouched (router : ModelExecutionRouter) (request : RuntimeExecutionRequest) : Prop :=
  (∀ provider ∈ router.registry.registered, ¬ provider.Accepts request) ∨
    (∀ provider ∈ router.registry.registered, provider.Answers) ∧
      (request.unattended = false ∨ request.timeoutSeconds ≠ none ∨
        ∀ provider ∈ router.registry.registered, provider.Accepts request →
          provider.defaultTimeout request = none)

theorem evaluate_answers (provider : Provider) (request : RuntimeExecutionRequest) :
    provider.Answers ↔ ∃ judged, provider.evaluate request = .ok judged := by
  unfold Provider.Answers Provider.evaluate evaluateProvider
  by_cases active : provider.registration.status = .active
  · rw [if_neg (fun other => other active), providerAvailable]
    cases offered : provider.registration.available with
    | false => exact iff_of_true (fun _ never => nomatch never) ⟨_, rfl⟩
    | true =>
      rw [if_pos rfl]
      cases answer : provider.isAvailable with
      | error error =>
        refine iff_of_false ?_ ?_
        · intro answers
          obtain ⟨available, found⟩ := answers active rfl
          cases found
        · rintro ⟨judged, done⟩
          cases done
      | ok available =>
        refine iff_of_true (fun _ _ => ⟨available, rfl⟩) ?_
        cases available with
        | false => exact ⟨_, rfl⟩
        | true =>
          cases registrationObstacle request provider.registration with
          | some reason => exact ⟨_, rfl⟩
          | none => exact ⟨_, rfl⟩
  · rw [if_pos active]
    exact iff_of_true (fun other => absurd other active) ⟨_, rfl⟩

theorem evaluateProfile_left (request : RuntimeExecutionRequest)
    (registration : RuntimeProviderRegistration) :
    (evaluateProfile request registration).2 =
      if (evaluateProfile request registration).1.eligible = true ∧ request.unattended = true then
        withBoundedTimeout request (selectedProfile registration request)
      else request := by
  unfold evaluateProfile
  dsimp only
  split
  · rw [if_neg (fun both => nomatch both.1)]
  · split
    · rename_i attended
      rw [Bool.not_eq_true'] at attended
      rw [if_neg (fun both => by rw [attended] at both; exact nomatch both.2)]
    · rename_i alone
      have unattended : request.unattended = true := by simpa using alone
      split
      · rw [if_neg (fun both => nomatch both.1)]
      · rw [if_pos ⟨rfl, unattended⟩]

theorem evaluate_left {provider : Provider} {request left : RuntimeExecutionRequest}
    {evaluation : RuntimeProviderCandidateEvaluation}
    (done : provider.evaluate request = .ok (evaluation, left)) :
    left = if evaluation.eligible = true ∧ request.unattended = true then
        withBoundedTimeout request (selectedProfile provider.registration request)
      else request := by
  unfold Provider.evaluate evaluateProvider at done
  split at done
  · cases done
    rw [if_neg (fun both => nomatch both.1)]
  · obtain ⟨available, -, rest⟩ := except_bind_ok done
    split at rest
    · cases rest
      rw [if_neg (fun both => nomatch both.1)]
    · split at rest
      · cases rest
        rw [if_neg (fun both => nomatch both.1)]
      · have judged := Except.ok.inj rest
        have same := evaluateProfile_left request provider.registration
        rw [judged] at same
        exact same

theorem withBoundedTimeout_same {request : RuntimeExecutionRequest} {profile : Option ModelCapabilityProfile}
    (kept : request.timeoutSeconds ≠ none ∨ profile.bind (·.defaultTimeoutSeconds) = none) :
    withBoundedTimeout request profile = request := by
  unfold withBoundedTimeout
  cases timeout : request.timeoutSeconds with
  | some seconds => rfl
  | none =>
    rcases kept with given | nothing
    · exact absurd timeout given
    · dsimp only
      rw [nothing, ← timeout]

/-- A judgement that leaves the request as it is, if it ends. -/
def Provider.Leaves (provider : Provider) (request : RuntimeExecutionRequest) : Prop :=
  ∀ evaluation left, provider.evaluate request = .ok (evaluation, left) → left = request

theorem leaves_of_refused {provider : Provider} {request : RuntimeExecutionRequest}
    (refused : ¬ provider.Accepts request) : provider.Leaves request := by
  intro evaluation left done
  rw [evaluate_left done, if_neg]
  rintro ⟨eligible, -⟩
  exact refused ⟨evaluation, left, done, eligible⟩

theorem leaves_of_untouched {router : ModelExecutionRouter} {request : RuntimeExecutionRequest}
    (untouched : Untouched router request) :
    ∀ provider ∈ router.registry.registered, provider.Leaves request := by
  intro provider member
  rcases untouched with refused | ⟨-, kept⟩
  · exact leaves_of_refused (refused provider member)
  · intro evaluation left done
    rw [evaluate_left done]
    split
    · rename_i both
      apply withBoundedTimeout_same
      rcases kept with attended | given | unset
      · rw [attended] at both
        cases both.2
      · exact .inl given
      · exact .inr (unset provider member ⟨evaluation, left, done, both.1⟩)
    · rfl

theorem evaluateProviders_leaves {request left : RuntimeExecutionRequest} {providers : List Provider}
    {evaluated : List Evaluated} (leave : ∀ provider ∈ providers, provider.Leaves request)
    (done : evaluateProviders request providers = .ok (evaluated, left)) :
    left = request ∧ ∀ found ∈ evaluated,
      found.provider.evaluate request = .ok (found.evaluation, request) := by
  induction providers generalizing evaluated with
  | nil =>
    obtain ⟨rfl, rfl⟩ := Prod.mk.inj (Except.ok.inj done)
    exact ⟨rfl, fun found member => by cases member⟩
  | cons provider rest ih =>
    obtain ⟨⟨evaluation, middle⟩, first, afterFirst⟩ := except_bind_ok done
    have judged : provider.evaluate request = .ok (evaluation, middle) := first
    have same : middle = request := leave provider List.mem_cons_self evaluation middle judged
    subst same
    obtain ⟨⟨later, last⟩, others, built⟩ := except_bind_ok afterFirst
    obtain ⟨rfl, rfl⟩ := Prod.mk.inj (Except.ok.inj built)
    obtain ⟨kept, all⟩ := ih (fun other inside => leave other (List.mem_cons_of_mem _ inside)) others
    refine ⟨kept, ?_⟩
    intro found member
    rcases List.mem_cons.mp member with same | inside
    · rw [same]
      exact judged
    · exact all found inside

theorem evaluateProviders_answered {request : RuntimeExecutionRequest} {providers : List Provider}
    (leave : ∀ provider ∈ providers, provider.Leaves request)
    (answer : ∀ provider ∈ providers, provider.Answers) :
    ∃ evaluated, evaluateProviders request providers = .ok (evaluated, request) ∧
      evaluated.map Evaluated.provider = providers := by
  induction providers with
  | nil => exact ⟨[], rfl, rfl⟩
  | cons provider rest ih =>
    obtain ⟨⟨evaluation, left⟩, judged⟩ :=
      (evaluate_answers provider request).mp (answer provider List.mem_cons_self)
    have same : left = request := leave provider List.mem_cons_self evaluation left judged
    subst same
    obtain ⟨later, others, listed⟩ := ih (fun other inside => leave other (List.mem_cons_of_mem _ inside))
      (fun other inside => answer other (List.mem_cons_of_mem _ inside))
    refine ⟨⟨provider, evaluation⟩ :: later, ?_, by rw [List.map_cons, listed]⟩
    have first : evaluateProvider left provider.registration provider.isAvailable =
        .ok (evaluation, left) := judged
    rw [evaluateProviders, first]
    change (do
      let (later, last) ← evaluateProviders left rest
      return (Evaluated.mk provider evaluation :: later, last)) = _
    rw [others]
    rfl

theorem evaluateProviders_answers {request left : RuntimeExecutionRequest} {providers : List Provider}
    {evaluated : List Evaluated} (done : evaluateProviders request providers = .ok (evaluated, left)) :
    ∀ provider ∈ providers, provider.Answers := by
  induction providers generalizing request evaluated left with
  | nil => exact fun other member => by cases member
  | cons provider rest ih =>
    obtain ⟨⟨evaluation, middle⟩, first, afterFirst⟩ := except_bind_ok done
    obtain ⟨⟨later, last⟩, others, -⟩ := except_bind_ok afterFirst
    intro other member
    rcases List.mem_cons.mp member with same | inside
    · rw [same]
      exact (evaluate_answers provider request).mpr ⟨(evaluation, middle), first⟩
    · exact ih others other inside

/-- The name of the decision that is recorded next. -/
def decisionId (state : RouterState) : String :=
  formatPublicId .audit (state.store.nextNumber .audit + 1)

theorem offers_iff (router : ModelExecutionRouter) (request : RuntimeExecutionRequest)
    (context : RuntimeExecutionContext) (state : RouterState) (provider : Provider)
    (asked : RuntimeExecutionRequest) :
    Offers router request context state provider asked ↔
      ∃ evaluated left, evaluateProviders request router.registry.providers = .ok (evaluated, left) ∧
        (∃ found ∈ evaluated, found.provider = provider ∧ found.evaluation.eligible = true) ∧
        asked = { left with routingDecisionId := some (decisionId state) } := by
  unfold Offers route
  rcases judged : evaluateProviders request router.registry.providers with error | ⟨evaluated, left⟩
  · refine iff_of_false ?_ ?_
    · rintro ⟨routing, after, done, -⟩
      cases done
    · rintro ⟨evaluated, left, done, -⟩
      cases done
  · have chosen : provider ∈ (eligibleInOrder evaluated).map Evaluated.provider ↔
        ∃ found ∈ evaluated, found.provider = provider ∧ found.evaluation.eligible = true := by
      rw [List.mem_map]
      constructor
      · rintro ⟨found, listed, same⟩
        obtain ⟨member, eligible⟩ := List.mem_filter.mp ((mem_sortedBy _ _ _).mp listed)
        exact ⟨found, member, same, eligible⟩
      · rintro ⟨found, member, same, eligible⟩
        exact ⟨found, (mem_sortedBy _ _ _).mpr (List.mem_filter.mpr ⟨member, eligible⟩), same⟩
    constructor
    · rintro ⟨routing, after, done, offered, rfl⟩
      cases done
      exact ⟨evaluated, left, rfl, chosen.mp offered, rfl⟩
    · rintro ⟨evaluated', left', same, found, rfl⟩
      cases same
      exact ⟨_, _, rfl, chosen.mpr found, rfl⟩

theorem offers_only_iff (router : ModelExecutionRouter) (request : RuntimeExecutionRequest)
    (context : RuntimeExecutionContext) (state : RouterState) (provider : Provider)
    (asked : RuntimeExecutionRequest) :
    Offers (router.only provider) request context state provider asked ↔
      ∃ evaluation left, provider.evaluate request = .ok (evaluation, left) ∧
        evaluation.eligible = true ∧ asked = { left with routingDecisionId := some (decisionId state) } := by
  rw [offers_iff]
  have alone : (router.only provider).registry.providers = [provider] := rfl
  have unfolded : evaluateProviders request [provider] =
      (provider.evaluate request).map (fun judged => ([⟨provider, judged.1⟩], judged.2)) := by
    rw [evaluateProviders]
    change (provider.evaluate request >>= _) = _
    cases provider.evaluate request with
    | error error => rfl
    | ok judged => rfl
  rw [alone, unfolded]
  cases judged : provider.evaluate request with
  | error error =>
    refine iff_of_false ?_ ?_
    · rintro ⟨evaluated, left, done, -⟩
      cases done
    · rintro ⟨evaluation, left, done, -⟩
      cases done
  | ok answer =>
    constructor
    · rintro ⟨evaluated, left, done, ⟨found, member, -, eligible⟩, rfl⟩
      cases done
      rw [List.mem_singleton.mp member] at eligible
      exact ⟨_, _, rfl, eligible, rfl⟩
    · rintro ⟨evaluation, left, done, eligible, rfl⟩
      cases done
      exact ⟨_, _, rfl, ⟨_, List.mem_singleton.mpr rfl, rfl, eligible⟩, rfl⟩

/-- A call of a provider that the preview shows as eligible, with the request it shows. -/
def Foreseen (router : ModelExecutionRouter) (shown : RoutingPreview) (invocation : Invocation) : Prop :=
  (∃ judged, (invocation.provider, judged) ∈ router.registry.providers.zip shown.candidates ∧
    judged.eligible = true) ∧
    ∃ decision, invocation.request = { shown.request with routingDecisionId := decision }

/-- A preview writes nothing, and foresees the calls of an execution that starts where it did. -/
def PreviewTells (router : ModelExecutionRouter) (context : RuntimeExecutionContext) (store : Store)
    (files : Files) : Prop :=
  ∀ shown left, exec (preview router context) (starting store files) = (.ok shown, left) →
    left.store.toTables = store.toTables ∧ left.files = files ∧
      ∀ invocation ∈ (exec (execute router context) (starting store files)).2.invocations,
        Foreseen router shown invocation

section

variable (router : ModelExecutionRouter) (request : RuntimeExecutionRequest)
  (context : RuntimeExecutionContext) (state : RouterState)

theorem mem_providers {router : ModelExecutionRouter} {provider : Provider} :
    provider ∈ router.registry.providers ↔ provider ∈ router.registry.registered := mem_sortedBy _ _ _

theorem independent_of_untouched (untouched : Untouched router request) :
    Independent router request context state ∧ PreviewKeeps router request := by
  have leave : ∀ provider ∈ router.registry.providers, provider.Leaves request :=
    fun provider member => leaves_of_untouched untouched provider (mem_providers.mp member)
  constructor
  · intro provider registered asked
    rw [offers_iff, offers_only_iff]
    constructor
    · rintro ⟨evaluated, left, judged, ⟨found, member, rfl, eligible⟩, rfl⟩
      obtain ⟨same, all⟩ := evaluateProviders_leaves leave judged
      exact ⟨found.evaluation, left, by rw [same]; exact all found member, eligible, rfl⟩
    · rintro ⟨evaluation, left, judged, eligible, rfl⟩
      have accepts : provider.Accepts request := ⟨evaluation, left, judged, eligible⟩
      have answer : ∀ other ∈ router.registry.providers, other.Answers := by
        rcases untouched with refused | ⟨answers, -⟩
        · exact absurd accepts (refused provider registered)
        · exact fun other member => answers other (mem_providers.mp member)
      obtain ⟨evaluated, run, listed⟩ := evaluateProviders_answered leave answer
      have present : provider ∈ evaluated.map Evaluated.provider := by
        rw [listed]
        exact mem_providers.mpr registered
      obtain ⟨found, member, same⟩ := List.mem_map.mp present
      have alone := (evaluateProviders_leaves leave run).2 found member
      rw [same, judged] at alone
      cases alone
      exact ⟨evaluated, _, run, ⟨found, member, same, eligible⟩, rfl⟩
  · intro candidates left shown
    obtain ⟨⟨evaluated, last⟩, run, built⟩ := except_bind_ok shown
    cases built
    exact (evaluateProviders_leaves leave run).1

theorem untouched_of_independent (independent : Independent router request context state)
    (keeps : PreviewKeeps router request) : Untouched router request := by
  by_cases nobody : ∀ provider ∈ router.registry.registered, ¬ provider.Accepts request
  · exact .inl nobody
  · right
    push Not at nobody
    obtain ⟨first, registered, evaluation, left, judged, eligible⟩ := nobody
    have alone := (offers_only_iff router request context state first _).mpr
      ⟨evaluation, left, judged, eligible, rfl⟩
    obtain ⟨evaluated, last, run, -, -⟩ := (offers_iff router request context state first _).mp
      ((independent first registered _).mpr alone)
    have kept : last = request := keeps (evaluated.map Evaluated.evaluation) last (by
      rw [previewCandidates, run]
      rfl)
    subst kept
    refine ⟨fun provider member => evaluateProviders_answers run provider (mem_providers.mpr member), ?_⟩
    by_cases unattended : last.unattended = true
    · by_cases given : last.timeoutSeconds = none
      · refine .inr (.inr ?_)
        rintro provider member ⟨evaluation, left, judged, eligible⟩
        obtain ⟨again, other, rerun, -, same⟩ := (offers_iff router last context state provider _).mp
          ((independent provider member _).mpr ((offers_only_iff router last context state provider _).mpr
            ⟨evaluation, left, judged, eligible, rfl⟩))
        rw [run] at rerun
        cases rerun
        have timeout := congrArg RuntimeExecutionRequest.timeoutSeconds same
        dsimp only at timeout
        rw [evaluate_left judged, if_pos ⟨eligible, unattended⟩, withBoundedTimeout, given] at timeout
        exact timeout
      · exact .inr (.inl given)
    · exact .inl (Bool.eq_false_iff.mpr unattended)

/-- Eligibility and request are independent of the other providers, and the preview leaves
the request, exactly when no provider that accepts it writes a timeout into it and no
availability check ends in an exception. -/
theorem routing_independent_iff :
    Independent router request context state ∧ PreviewKeeps router request ↔ Untouched router request :=
  ⟨fun ⟨independent, keeps⟩ => untouched_of_independent router request context state independent keeps,
    independent_of_untouched router request context state⟩

end

/-- Reading work without supervision and without a timeout of its own. -/
def readRequest : RuntimeExecutionRequest where
  executionId := "LEXEC_000001"
  taskId := "LTASK_000001"
  workflowId := "LWORK_000001"
  itemId := "first"
  logicalTaskId := "first"
  planId := "LPLAN_000001"
  planFreezeId := "LFREEZE_000001"
  isolatedWorkspace := "/tmp/workspace"
  taskIntent := "Read the notes"
  allowedMutationScope := "L1"
  requiredCapabilities := ["inspection_reasoning"]
  taskType := "inspection"
  unattended := true
  readOnly := true
  contextLimits := [("deterministic_verification", .bool true)]
  metadata := {
    taskComplexityExplicit := true
    taskRiskExplicit := true
    isolationModeExplicit := true
    deterministicVerificationExplicit := true }

/-- A local model for reading work, with the timeouts of its profile. -/
def readingProvider (name : String) (default most : Int) : Provider where
  registration := { qwenRegistration with
    providerId := name
    models := [{
      modelId := name
      capabilities := qwenProfile.supportedCapabilities
      capabilityProfile := some { qwenProfile with
        defaultTimeoutSeconds := some default
        maxTimeoutSeconds := some most } }] }
  isAvailable := .ok true
  invoke := fun _ request => return blockedAnswer request

def quickReader : Provider := readingProvider "quick-local" 20 30

def twoReaders : ModelExecutionRouter :=
  ⟨plainSettings, ⟨[quickReader, readingProvider "broad-local" 60 100], by decide⟩, plainGates⟩

/-- The judgement of each provider, and the timeout of the request they leave. -/
def judgements (router : ModelExecutionRouter) :
    Option (List (String × Bool × List String) × Option Int) :=
  (evaluateProviders readRequest router.registry.providers).toOption.map (fun run =>
    (run.1.map (fun found => (found.provider.id, found.evaluation.eligible, found.evaluation.reasons)),
      run.2.timeoutSeconds))

/-- With the timeout of the provider before it, the quick one is not eligible, and the
preview shows a request with that timeout. -/
theorem earlier_provider_decides :
    judgements (twoReaders.only quickReader) = some ([("quick-local", true, [eligibleReason])], some 20) ∧
      judgements twoReaders = some ([("broad-local", true, [eligibleReason]),
        ("quick-local", false, ["TIMEOUT_BUDGET_EXCEEDS_MODEL_PROFILE"])], some 60) ∧
      ¬ Independent twoReaders readRequest (itemContext []) (starting {} ∅) ∧
      ¬ PreviewKeeps twoReaders readRequest := by
  have alone : judgements (twoReaders.only quickReader) =
      some ([("quick-local", true, [eligibleReason])], some 20) := by decide +kernel
  have both : judgements twoReaders = some ([("broad-local", true, [eligibleReason]),
      ("quick-local", false, ["TIMEOUT_BUDGET_EXCEEDS_MODEL_PROFILE"])], some 60) := by decide +kernel
  obtain ⟨evaluated, left, run, listed, timeout⟩ : ∃ evaluated left,
      evaluateProviders readRequest twoReaders.registry.providers = .ok (evaluated, left) ∧
      evaluated.map (fun found => (found.provider.id, found.evaluation.eligible, found.evaluation.reasons)) =
        [("broad-local", true, [eligibleReason]),
          ("quick-local", false, ["TIMEOUT_BUDGET_EXCEEDS_MODEL_PROFILE"])] ∧
      left.timeoutSeconds = some 60 := by
    unfold judgements at both
    cases ended : evaluateProviders readRequest twoReaders.registry.providers with
    | error error =>
      rw [ended] at both
      cases both
    | ok run =>
      rw [ended] at both
      obtain ⟨listed, timeout⟩ := Prod.mk.inj (Option.some.inj both)
      exact ⟨run.1, run.2, rfl, listed, timeout⟩
  refine ⟨alone, both, ?_, ?_⟩
  · intro independent
    have offered : ∃ asked, Offers (twoReaders.only quickReader) readRequest (itemContext []) (starting {} ∅)
        quickReader asked := by
      unfold judgements at alone
      cases ended : evaluateProviders readRequest (twoReaders.only quickReader).registry.providers with
      | error error =>
        rw [ended] at alone
        cases alone
      | ok run =>
        rw [ended] at alone
        obtain ⟨single, -⟩ := Prod.mk.inj (Option.some.inj alone)
        obtain ⟨found, rest, same, here, nothing⟩ := List.map_eq_cons_iff.mp single
        have providers := evaluateProviders_listed ended
        rw [same, List.map_cons] at providers
        have eligible := congrArg (fun entry => entry.2.1) here
        exact ⟨_, (offers_iff _ _ _ _ _ _).mpr ⟨run.1, run.2, ended,
          ⟨found, by rw [same]; exact List.mem_cons_self, (List.cons.inj providers).1, eligible⟩, rfl⟩⟩
    obtain ⟨asked, offers⟩ := offered
    obtain ⟨again, last, rerun, ⟨found, member, same, eligible⟩, -⟩ := (offers_iff _ _ _ _ _ _).mp
      ((independent quickReader List.mem_cons_self asked).mpr offers)
    rw [run] at rerun
    cases rerun
    have shown := List.mem_map_of_mem
      (f := fun found : Evaluated => (found.provider.id, found.evaluation.eligible, found.evaluation.reasons))
      member
    rw [listed, same, eligible] at shown
    have name : quickReader.id = "quick-local" := rfl
    rw [name] at shown
    simp at shown
  · intro keeps
    have kept := keeps (evaluated.map Evaluated.evaluation) left (by
      rw [previewCandidates, run]
      rfl)
    rw [kept] at timeout
    cases timeout

end Lucius.Router
