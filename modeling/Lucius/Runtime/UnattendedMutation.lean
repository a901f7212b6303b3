import Lucius.Runtime.RouterCalls

/-! Which models get unattended mutations: what the eligibility of a provider says about
the profile of the model it would use. -/

namespace Lucius.Router

open Worktree Updates Lucius.Action Queue

theorem reasonsOf_eq_nil_iff (found : List (Bool × String)) :
    reasonsOf found = [] ↔ ∀ entry ∈ found, entry.1 = false := by
  have kept : reasonsOf found = [] ↔ found.filter Prod.fst = [] := by
    unfold reasonsOf
    cases found.filter Prod.fst with
    | nil => simp
    | cons entry rest => simp [List.eraseDups_cons]
  rw [kept, List.filter_eq_nil_iff]
  simp

/-- The provider passes the checks of its registration and of its model's profile. -/
structure Judged (request : RuntimeExecutionRequest) (registration : RuntimeProviderRegistration) :
    Prop where
  registered : registrationObstacle request registration = none
  profile : profileIneligibilityReasons request (selectedProfile registration request) = []
  unattended : request.unattended = true →
    unattendedIneligibilityReasons request registration (selectedProfile registration request) = []

/-- The same request, its timeout and the name of its routing decision apart. -/
def SameAsk (first second : RuntimeExecutionRequest) : Prop :=
  ∃ seconds decision, second =
    { first with timeoutSeconds := seconds, routingDecisionId := decision }

theorem SameAsk.refl (request : RuntimeExecutionRequest) : SameAsk request request :=
  ⟨request.timeoutSeconds, request.routingDecisionId, rfl⟩

theorem SameAsk.trans {first second third : RuntimeExecutionRequest} (one : SameAsk first second)
    (other : SameAsk second third) : SameAsk first third := by
  obtain ⟨_, _, rfl⟩ := one
  obtain ⟨seconds, decision, rfl⟩ := other
  exact ⟨seconds, decision, rfl⟩

theorem sameAsk_withBoundedTimeout (request : RuntimeExecutionRequest)
    (profile : Option ModelCapabilityProfile) : SameAsk request (withBoundedTimeout request profile) := by
  unfold withBoundedTimeout
  split
  · exact .refl request
  · exact ⟨_, request.routingDecisionId, rfl⟩

theorem evaluateProfile_judged (request : RuntimeExecutionRequest)
    (registration : RuntimeProviderRegistration)
    (registered : registrationObstacle request registration = none) :
    SameAsk request (evaluateProfile request registration).2 ∧
      ((evaluateProfile request registration).1.eligible = true → Judged request registration) := by
  unfold evaluateProfile
  dsimp only
  split
  · exact ⟨.refl request, fun eligible => by cases eligible⟩
  · rename_i profile
    have qualified : profileIneligibilityReasons request (selectedProfile registration request) = [] := by
      simpa using profile
    split
    · rename_i attended
      refine ⟨.refl request, fun _ => ⟨registered, qualified, fun unattended => ?_⟩⟩
      rw [unattended] at attended
      cases attended
    · split
      · exact ⟨.refl request, fun eligible => by cases eligible⟩
      · rename_i none
        exact ⟨sameAsk_withBoundedTimeout request _,
          fun _ => ⟨registered, qualified, fun _ => by simpa using none⟩⟩

theorem evaluateProvider_judged {request left : RuntimeExecutionRequest}
    {registration : RuntimeProviderRegistration} {isAvailable : Except PyExc Bool}
    {evaluation : RuntimeProviderCandidateEvaluation}
    (done : evaluateProvider request registration isAvailable = .ok (evaluation, left)) :
    SameAsk request left ∧ (evaluation.eligible = true → Judged request registration) := by
  have refusal : ∀ reasons, (refused registration reasons none, request) = (evaluation, left) →
      SameAsk request left ∧ (evaluation.eligible = true → Judged request registration) := by
    intro reasons same
    obtain ⟨rfl, rfl⟩ := Prod.mk.inj same
    exact ⟨.refl request, fun eligible => by cases eligible⟩
  unfold evaluateProvider at done
  split at done
  · exact refusal _ (Except.ok.inj done)
  · obtain ⟨available, _, asked⟩ := except_bind_ok done
    split at asked
    · exact refusal _ (Except.ok.inj asked)
    · split at asked
      · exact refusal _ (Except.ok.inj asked)
      · rename_i registered
        have judged := evaluateProfile_judged request registration registered
        rw [Except.ok.inj asked] at judged
        exact judged

theorem evaluateProviders_judged {request left : RuntimeExecutionRequest} {providers : List Provider}
    {evaluated : List Evaluated} (done : evaluateProviders request providers = .ok (evaluated, left)) :
    SameAsk request left ∧ ∀ found ∈ evaluated, found.evaluation.eligible = true →
      ∃ asked, SameAsk request asked ∧ Judged asked found.provider.registration := by
  induction providers generalizing request evaluated left with
  | nil =>
    obtain ⟨rfl, rfl⟩ := Prod.mk.inj (Except.ok.inj done)
    exact ⟨.refl request, fun found member => by cases member⟩
  | cons provider rest ih =>
    obtain ⟨⟨evaluation, middle⟩, first, afterFirst⟩ := except_bind_ok done
    obtain ⟨⟨later, last⟩, others, built⟩ := except_bind_ok afterFirst
    obtain ⟨rfl, rfl⟩ := Prod.mk.inj (Except.ok.inj built)
    obtain ⟨same, judged⟩ := evaluateProvider_judged first
    obtain ⟨sameRest, judgedRest⟩ := ih others
    refine ⟨same.trans sameRest, ?_⟩
    intro found member eligible
    rcases List.mem_cons.mp member with here | inside
    · subst here
      exact ⟨request, .refl request, judged eligible⟩
    · obtain ⟨asked, sameAsked, fine⟩ := judgedRest found inside eligible
      exact ⟨asked, same.trans sameAsked, fine⟩

theorem called_judged {router : ModelExecutionRouter} {context : RuntimeExecutionContext} {store : Store}
    {files final : Files} {outcome : Except PyExc ExecutionAdapterResult} {made : List Invocation}
    (run : Executed router context store files outcome made final) {invocation : Invocation}
    (member : invocation ∈ made) :
    ∃ request asked, Requested router.settings context store request ∧ SameAsk request invocation.request ∧
      SameAsk request asked ∧ Judged asked invocation.provider.registration := by
  cases run with
  | uncalled => cases member
  | @called request left posed selected fallbacks attempted made final requested offered decided calls
      requests providers first =>
      obtain ⟨evaluated, done, listed⟩ := offered.evaluated
      obtain ⟨same, judged⟩ := evaluateProviders_judged done
      have inside := providers invocation member
      rw [listed, List.mem_map] at inside
      obtain ⟨found, chosen, is⟩ := inside
      obtain ⟨known, eligible⟩ := List.mem_filter.mp ((mem_sortedBy _ _ _).mp chosen)
      obtain ⟨asked, sameAsked, fine⟩ := judged found known eligible
      obtain ⟨decision, rfl⟩ := decided
      rw [is] at fine
      refine ⟨request, asked, requested, ?_, sameAsked, fine⟩
      rw [requests invocation member]
      exact same.trans ⟨left.timeoutSeconds, decision, rfl⟩

/-- No model of the calls lacks the qualification for unattended mutations. -/
def QualifiedCalls (router : ModelExecutionRouter) (context : RuntimeExecutionContext) (store : Store)
    (files : Files) : Prop :=
  ∀ invocation ∈ (exec (execute router context) (starting store files)).2.invocations,
    invocation.request.unattended = true → invocation.request.readOnly = false →
      ∃ profile, selectedProfile invocation.provider.registration invocation.request = some profile ∧
        profile.unattendedMutationEligible = true

/-- The item asks for an unattended mutation that is within its frozen scope. -/
structure UnattendedMutation (settings : RouterSettings) (context : RuntimeExecutionContext)
    (store : Store) (request : RuntimeExecutionRequest) : Prop where
  requested : Requested settings context store request
  unattended : request.unattended = true
  mutation : request.readOnly = false

/-- Nothing in the request alone rules out its unattended execution. -/
structure Placeable (request : RuntimeExecutionRequest) : Prop where
  complexityExplicit : request.metadata.taskComplexityExplicit = true
  riskExplicit : request.metadata.taskRiskExplicit = true
  verificationExplicit : request.metadata.deterministicVerificationExplicit = true
  isolationExplicit : request.metadata.isolationModeExplicit = true
  complexity : upper request.taskComplexity ∈ complexityNames
  risk : upper request.taskRisk = "LOW"
  evidence : isEvidenceSensitiveRequest request = true →
    (request.contextLimits.get "evidence_reference_validation_required").truthy = true
  isolation : request.isolationMode = "ISOLATED_WORKTREE"
  sideEffects : ((request.contextLimits.get "external_side_effects").isTrue ||
    externalSideEffectAction request) = false
  financial : financialOrLiveAction request = false
  semanticRetry : (request.contextLimits.get "semantic_retry_allowed").isTrue = false

theorem Placeable.congr {first second : RuntimeExecutionRequest} (same : SameAsk first second)
    (placeable : Placeable second) : Placeable first := by
  obtain ⟨_, _, rfl⟩ := same
  exact ⟨placeable.1, placeable.2, placeable.3, placeable.4, placeable.5, placeable.6, placeable.7,
    placeable.8, placeable.9, placeable.10, placeable.11⟩

theorem unattended_judged {request : RuntimeExecutionRequest}
    {registration : RuntimeProviderRegistration} (judged : Judged request registration)
    (unattended : request.unattended = true) :
    Placeable request ∧ ∃ profile, selectedProfile registration request = some profile ∧
      (requiresMutation request = true → profile.unattendedMutationEligible = true) := by
  have none := (reasonsOf_eq_nil_iff _).mp (judged.unattended unattended)
  cases chosen : selectedProfile registration request with
  | none =>
    rw [chosen] at none
    have unqualified := none (true, "MODEL_NOT_QUALIFIED_FOR_UNATTENDED") (by simp [qualificationReasons])
    cases unqualified
  | some profile =>
    rw [chosen] at none
    have ofProfile : ∀ entry ∈ unattendedProfileReasons request registration (some profile),
        entry.1 = false :=
      fun entry member => none entry (List.mem_append_left _ (List.mem_append_right _ member))
    have ofRequest : ∀ entry ∈ unattendedRequestReasons request, entry.1 = false :=
      fun entry member => none entry (List.mem_append_right _ member)
    simp only [unattendedProfileReasons, List.forall_mem_cons] at ofProfile
    simp only [unattendedRequestReasons, List.forall_mem_cons] at ofRequest
    obtain ⟨complexity, risk, verification, isolation, _, _, mutation, _, _, named, low, _, suitable,
      evidence, _⟩ := ofProfile
    obtain ⟨isolated, sideEffects, financial, semanticRetry, _⟩ := ofRequest
    refine ⟨⟨?_, ?_, ?_, ?_, ?_, ?_, ?_, ?_, sideEffects, financial, semanticRetry⟩, profile, rfl, ?_⟩
    · simpa using complexity
    · simpa using risk
    · simpa using verification
    · simpa using isolation
    · simpa using named
    · simpa using low
    · intro sensitive
      simp only [sensitive, Bool.true_and, Bool.not_eq_false'] at suitable evidence
      simpa [suitable] using evidence
    · simpa using isolated
    · intro requires
      simpa [requires] using mutation

/-- A profile qualified for unattended work of every kind but mutations. -/
def readerProfile (request : RuntimeExecutionRequest) : ModelCapabilityProfile where
  supportedCapabilities := request.requiredCapabilities
  evidenceSensitiveSuitable := true
  deterministicVerificationRequired := false
  supervisionRequired := false
  unattendedEligible := true
  maxTaskComplexity := "T4"
  status := .qualified

def readerRegistration (request : RuntimeExecutionRequest) : RuntimeProviderRegistration where
  providerId := "reader"
  capabilities := request.requiredCapabilities
  supportedTools := request.toolRequirements
  models := [{ modelId := "reader", capabilityProfile := some (readerProfile request) }]

/-- A provider of the request for unattended work that blocks each of its calls. -/
def readerProvider (request : RuntimeExecutionRequest) : Provider where
  registration := readerRegistration request
  isAvailable := .ok true
  invoke := fun _ asked =>
    return { executionId := asked.executionId, providerId := "reader", status := .blocked }

theorem missingFrom_self (names : List String) : missingFrom names names = [] := by
  have none : names.filter (· ∉ names) = [] := by simp
  rw [missingFrom, none]
  rfl

theorem complexityRank_named {value : String} (named : upper value ∈ complexityNames) :
    complexityRank value ≤ 4 := by
  have present : value.toList.isEmpty = false := by
    by_contra empty
    rw [Bool.not_eq_false, List.isEmpty_iff] at empty
    rw [upper, empty] at named
    revert named
    decide
  rw [complexityRank, present]
  generalize upper value = text at named
  simp only [complexityNames, List.mem_cons, List.not_mem_nil, or_false] at named
  rcases named with rfl | rfl | rfl | rfl | rfl <;> decide

theorem readerRegistration_free (request : RuntimeExecutionRequest) :
    registrationObstacle request (readerRegistration request) = none := by
  have unrestricted : ∀ name, excludes [] name = false := by
    intro name
    simp [excludes]
  unfold registrationObstacle
  simp [missingFrom_self, readerRegistration, unrestricted]

theorem readerRegistration_profile (request asked : RuntimeExecutionRequest) :
    selectedProfile (readerRegistration request) asked = some (readerProfile request) := by
  unfold selectedProfile selectedModel
  dsimp only [readerRegistration]
  rw [List.filter_cons, List.filter_nil]
  split <;> simp [sortedBy]

theorem reader_accepted {request : RuntimeExecutionRequest} (placeable : Placeable request)
    (capabilities : requiresMutation request = false) :
    ∃ modelId left, evaluateProvider request (readerRegistration request) (.ok true) =
      .ok (accepted (readerRegistration request) modelId, left) := by
  have profileReasons : profileIneligibilityReasons request (some (readerProfile request)) = [] := by
    simp [profileIneligibilityReasons, readerProfile, reasonsOf, capabilities]
  have rank : ¬ complexityRank "T4" < complexityRank request.taskComplexity := by
    have most := complexityRank_named placeable.complexity
    have top : complexityRank "T4" = 4 := by decide
    omega
  have unattendedReasons : unattendedIneligibilityReasons request (readerRegistration request)
      (some (readerProfile request)) = [] := by
    rw [unattendedIneligibilityReasons, reasonsOf_eq_nil_iff]
    simp [qualificationReasons, unattendedProfileReasons, unattendedRequestReasons, readerProfile,
      exceedsTimeout, missingFrom_self, capabilities, placeable.complexityExplicit,
      placeable.riskExplicit, placeable.verificationExplicit, placeable.isolationExplicit,
      placeable.complexity, placeable.risk, placeable.isolation, placeable.financial,
      placeable.semanticRetry]
    exact ⟨decide_eq_false rank, placeable.evidence, by simpa using placeable.sideEffects⟩
  have judged : ∃ modelId left, evaluateProfile request (readerRegistration request) =
      (accepted (readerRegistration request) modelId, left) := by
    unfold evaluateProfile
    dsimp only
    rw [readerRegistration_profile, profileReasons, unattendedReasons]
    cases request.unattended
    · exact ⟨_, _, rfl⟩
    · exact ⟨_, _, rfl⟩
  obtain ⟨modelId, left, profile⟩ := judged
  refine ⟨modelId, left, ?_⟩
  have active : ¬ (readerRegistration request).status ≠ .active := fun other => other rfl
  rw [evaluateProvider, if_neg active]
  dsimp only [providerAvailable, bind, Except.bind]
  simp only [readerRegistration_free]
  exact congrArg Except.ok profile

def readerRegistry (request : RuntimeExecutionRequest) : RuntimeProviderRegistry :=
  ⟨[readerProvider request], List.nodup_singleton _⟩

theorem reader_offered {settings : RouterSettings} {gates : GateEnvironment}
    {request : RuntimeExecutionRequest} (placeable : Placeable request)
    (capabilities : requiresMutation request = false) :
    ∃ left, Offered ⟨settings, readerRegistry request, gates⟩ request [readerProvider request] left := by
  obtain ⟨modelId, left, judged⟩ := reader_accepted placeable capabilities
  refine ⟨left, ⟨[⟨readerProvider request, accepted (readerRegistration request) modelId⟩], ?_, rfl⟩⟩
  change (evaluateProvider request (readerRegistration request) (.ok true) >>= _) = _
  rw [judged]
  rfl

theorem reader_called {settings : RouterSettings} {gates : GateEnvironment}
    {context : RuntimeExecutionContext} {store : Store} {request : RuntimeExecutionRequest}
    (requested : Requested settings context store request) (placeable : Placeable request)
    (capabilities : requiresMutation request = false) (files : Files) :
    ∃ invocation ∈ (exec (execute ⟨settings, readerRegistry request, gates⟩ context)
      (starting store files)).2.invocations,
      invocation.provider = readerProvider request ∧ SameAsk request invocation.request := by
  obtain ⟨left, offer⟩ := reader_offered placeable capabilities
  have run := execute_executed ⟨settings, readerRegistry request, gates⟩ context store files
  generalize exec (execute ⟨settings, readerRegistry request, gates⟩ context) (starting store files) =
    ended at run ⊢
  obtain ⟨outcome, last, final, made⟩ := ended
  dsimp only at run ⊢
  cases made with
  | nil =>
    cases run with
    | uncalled failed unoffered => exact absurd offer (unoffered _ _ _ _ requested)
    | called _ _ _ _ _ _ first => cases first
  | cons invocation rest =>
    refine ⟨invocation, List.mem_cons_self, ?_⟩
    obtain ⟨other, _, known, same, _⟩ := called_judged run List.mem_cons_self
    rw [known.unique requested] at same
    refine ⟨?_, same⟩
    cases run with
    | called known offered _ _ _ providers _ =>
      rw [known.unique requested] at offered
      rw [offered.unique offer] at providers
      exact List.mem_singleton.mp (providers invocation List.mem_cons_self)

/-- The profile of the local model that serves reading work without supervision. -/
def qwenProfile : ModelCapabilityProfile where
  isLocal := true
  supportedCapabilities := ["inspection_reasoning", "documentation_update", "code_modification"]
  supportsMutation := true
  supervisionRequired := false
  unattendedEligible := true
  maxTaskComplexity := "T1"
  defaultTimeoutSeconds := some 120
  maxTimeoutSeconds := some 120
  status := .qualifiedWithConstraints

def qwenRegistration : RuntimeProviderRegistration where
  providerId := "ollama-local"
  providerVersion := "1"
  capabilities := qwenProfile.supportedCapabilities
  supportedTaskClasses := ["engineering", "inspection", "reasoning", "inspection_reasoning"]
  supportedIsolationModes := ["ISOLATED_WORKTREE"]
  maxContextTokens := some 40960
  models := [{
    modelId := "qwen3:8b"
    capabilities := qwenProfile.supportedCapabilities
    capabilityProfile := some qwenProfile }]
  costClass := some "LOCAL_FREE"
  reliabilityScore := 40
  metadata := [("explicit_allowed_workspace_roots", .bool true)]

/-- A registered local model whose calls all answer the same. -/
def qwenProvider (answer : RuntimeExecutionRequest → RuntimeExecutionResult) : Provider where
  registration := qwenRegistration
  isAvailable := .ok true
  invoke := fun _ request => return answer request

def plainGates : GateEnvironment where
  host := .posix
  checkout := .plain "sha" ∅ (fun _ => false)
  directories := fun _ => false
  searchIgnoringCase := fun _ _ => .ok false
  writeFault := fun _ => none
  classifications := claimClassifications

def plainSettings : RouterSettings := { intField := Ollama.optionalInt }

def frozenStore (payload : Dict) : Store :=
  { freezes := ⟨[{
      id := "LFREEZE_000001"
      planId := "LPLAN_000001"
      taskId := "LTASK_000001"
      projectId := "LPROJ_000001"
      planPayload := .obj payload }], List.nodup_singleton _⟩ }

def itemContext (queueItem : Dict) : RuntimeExecutionContext where
  workflowId := "LWORK_000001"
  itemId := "first"
  logicalTaskId := "first"
  workflowTaskId := some "LTASK_000001"
  workflowObjective := "Write the notes"
  worktreePath := "/tmp/workspace"
  authorityTier := "L1"
  planId := some "LPLAN_000001"
  planFreezeId := some "LFREEZE_000001"
  queueItem := queueItem

/-- The scope is one file, which has to exist. -/
def notesPayload : Dict :=
  [("affected_files", .arr [.obj [("path", .str "notes.md")]]),
    ("deterministic_acceptance_checks",
      .arr [.obj [("type", .str "file_exists"), ("path", .str "notes.md")]])]

/-- An unattended mutation that asks for reading capabilities. -/
def inspectingMutation : Dict :=
  [("item_id", .str "first"), ("unattended", .bool true), ("task_complexity", .str "T1"),
    ("task_risk", .str "LOW"), ("isolation_mode", .str "ISOLATED_WORKTREE"),
    ("required_capabilities", .arr [.str "inspection_reasoning"]),
    ("context_limits", .obj [("deterministic_verification", .bool true)])]

def qwenRouter (answer : RuntimeExecutionRequest → RuntimeExecutionResult) : ModelExecutionRouter :=
  ⟨plainSettings, ⟨[qwenProvider answer], List.nodup_singleton _⟩, plainGates⟩

def blockedAnswer (request : RuntimeExecutionRequest) : RuntimeExecutionResult :=
  { executionId := request.executionId, providerId := "ollama-local", status := .blocked }

end Lucius.Router
