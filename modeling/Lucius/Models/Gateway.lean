import Lucius.Models.PreferredRouting
import Mathlib.Data.List.Range

/-! The execution of a request: the models of its route are tried in turn, and every attempt is
recorded. Token counts, costs, durations and audit events are left out. -/

namespace Lucius.Models

inductive ModelResponseStatus where
  | succeeded | failed
  deriving DecidableEq

def retryableModelErrors : List ModelErrorCode :=
  [.providerUnavailable, .timeout, .rateLimit, .transientError, .invalidResponse,
    .structuredOutputInvalid, .providerError]

def nonFallbackModelErrors : List ModelErrorCode :=
  [.privacyPolicyBlock, .authorityBlock, .unsafeRequest, .budgetExceeded, .costPolicyBlock]

structure ProviderGeneration where
  content : String
  structuredData : Option Dict := none
  finishReason : Option String := none

structure ModelResponse where
  requestId : String
  executionId : Option String := none
  providerId : Option String := none
  modelProfileId : Option String := none
  modelName : Option String := none
  status : ModelResponseStatus
  content : Option String := none
  structuredData : Option Dict := none
  finishReason : Option String := none
  errorCode : Option ModelErrorCode := none
  errorMessage : Option String := none
  fallbackUsed : Bool := false
  attemptNumber : Nat := 1
  routingDecision : RoutingDecision

/-- A recorded invocation. -/
structure ModelExecution where
  id : String
  requestId : String
  providerId : Option String
  modelProfileId : Option String
  model : Option String
  status : ModelResponseStatus
  routingDecision : RoutingDecision
  fallbackUsed : Bool
  attemptNumber : Nat
  errorCode : Option ModelErrorCode

/-- What a call of an adapter comes to. -/
inductive AdapterCall where
  | unavailable
  | gatewayError (code : ModelErrorCode) (message : String)
  | validationError (message : String)
  | raised (message : String)
  | generated (generation : ProviderGeneration)

/-- The rows as an attempt finds them, the adapters, the validation by the schema of the request
and the ids of the executions. -/
structure Surroundings where
  profileById : Nat → String → Option ModelProfile
  providerKnown : Nat → String → Bool
  adapters : String → Option (Nat → ModelProfile → AdapterCall)
  modelValidate : Dict → Except String Dict
  createExecutionId : List ModelExecution → String
  primaryKey : ∀ number id profile, profileById number id = some profile → profile.id = some id

/-- The recorded executions, and the profiles that were tried. -/
structure GatewayState where
  executions : List ModelExecution
  tried : List String

section

variable (world : Surroundings) (request : ModelRequest)

def failureResponse (decision : RoutingDecision) (code : ModelErrorCode) (message : String)
    (profile : Option ModelProfile) (attemptNumber : Nat) : ModelResponse where
  requestId := request.requestId
  providerId := profile.map (·.providerId)
  modelProfileId := profile.bind (·.id)
  modelName := profile.map (·.modelName)
  status := .failed
  errorCode := some code
  errorMessage := some message
  fallbackUsed := 1 < attemptNumber
  attemptNumber
  routingDecision := decision

def executionFromResponse (id : String) (response : ModelResponse) : ModelExecution where
  id
  requestId := request.requestId
  providerId := response.providerId
  modelProfileId := response.modelProfileId
  model := response.modelName
  status := response.status
  routingDecision := response.routingDecision
  fallbackUsed := response.fallbackUsed
  attemptNumber := response.attemptNumber
  errorCode := response.errorCode

def persistResponse (response : ModelResponse) (state : GatewayState) : ModelResponse × GatewayState :=
  let id := world.createExecutionId state.executions
  ({ response with executionId := some id },
    { state with executions := state.executions ++ [executionFromResponse request id response] })

/-- The data of a generation, or the code and the text of the failure. -/
def validateStructuredResponse (generation : ProviderGeneration) :
    Except (ModelErrorCode × String) (Option Dict) :=
  if !request.structuredOutputSchema then .ok generation.structuredData
  else
    match generation.structuredData with
    | none => .error (.structuredOutputInvalid, "Provider returned no structured data.")
    | some data =>
      match world.modelValidate data with
      | .error message => .error (.structuredOutputInvalid, message)
      | .ok validated => .ok (some validated)

def attemptExecution (decision : RoutingDecision) (profile : ModelProfile) (call : AdapterCall)
    (attemptNumber : Nat) : ModelResponse :=
  let failed (code : ModelErrorCode) (message : String) :=
    failureResponse request decision code message (some profile) attemptNumber
  match call with
  | .unavailable => failed .providerUnavailable "Provider adapter is unavailable."
  | .gatewayError code message => failed code message
  | .validationError message => failed .structuredOutputInvalid message
  | .raised message => failed .providerError message
  | .generated generation =>
    match validateStructuredResponse world request generation with
    | .error (code, message) => failed code message
    | .ok structuredData =>
      { requestId := request.requestId, providerId := some profile.providerId,
        modelProfileId := profile.id, modelName := some profile.modelName, status := .succeeded,
        content := some generation.content, structuredData, finishReason := generation.finishReason,
        fallbackUsed := 1 < attemptNumber, attemptNumber, routingDecision := decision }

/-- What an attempt on a profile that is there comes to. -/
def attemptOn (decision : RoutingDecision) (profile : ModelProfile) (number : Nat) : ModelResponse :=
  match world.providerKnown number profile.providerId, world.adapters profile.providerId with
  | true, some adapter => attemptExecution world request decision profile (adapter number profile) number
  | _, _ => failureResponse request decision .providerUnavailable
      s!"No adapter registered for provider {profile.providerId}." (some profile) number

def recordPolicyBlock (decision : RoutingDecision) (state : GatewayState) : ModelResponse × GatewayState :=
  let code := decision.errorCode.getD .noEligibleModel
  persistResponse world request
    (failureResponse request decision code (decision.reasons.head?.getD code.value) none 1) state

/-- The next profile is tried after a failure that may be retried, where fallback is allowed. -/
def fallsBack (response : ModelResponse) : Bool :=
  decide (response.status ≠ .succeeded) && request.fallbackAllowed &&
    match response.errorCode with
    | none => false
    | some code => decide (code ∉ nonFallbackModelErrors) && decide (code ∈ retryableModelErrors)

def fallbackLoop (decision : RoutingDecision) :
    Nat → List String → Option ModelResponse → GatewayState → Option ModelResponse × GatewayState
  | _, [], last, state => (last, state)
  | attemptNumber, profileId :: rest, _, state =>
    let state := { state with tried := state.tried ++ [profileId] }
    match world.profileById attemptNumber profileId with
    | none =>
      let (response, state) := persistResponse world request (failureResponse request decision
        .modelNotFound s!"Model profile {profileId} disappeared before execution." none attemptNumber) state
      (some response, state)
    | some profile =>
      let (response, state) :=
        persistResponse world request (attemptOn world request decision profile attemptNumber) state
      if fallsBack request response then
        fallbackLoop decision (attemptNumber + 1) rest (some response) state
      else (some response, state)

/-- The profiles to try; a number of attempts that is zero counts as none given. -/
def attemptedProfiles (selected : String) (decision : RoutingDecision) : List String :=
  let profileIds := selected :: (if request.fallbackAllowed then decision.fallbackProfileIds else [])
  let maxAttempts : Int := if request.maxAttempts.getD 0 = 0 then profileIds.length
    else request.maxAttempts.getD 0
  profileIds.take (max 1 maxAttempts).toNat

def executeWithFallback (registry : Registry) (state : GatewayState) : ModelResponse × GatewayState :=
  let decision := registry.routeRequest request
  match decision.errorCode, decision.selectedProfileId with
  | none, some selected =>
    match fallbackLoop world request decision 1 (attemptedProfiles request selected decision) none state with
    | (some response, state) => (response, state)
    | (none, state) =>
      recordPolicyBlock world request { decision with errorCode := some .budgetExceeded } state
  | _, _ => recordPolicyBlock world request decision state

end

/-- After the attempt another one may follow. -/
def ModelExecution.GoesOn (row : ModelExecution) : Prop :=
  row.status ≠ .succeeded ∧ ∃ code, row.errorCode = some code ∧ code ∉ nonFallbackModelErrors ∧
    code ∈ retryableModelErrors

/-- The recorded attempt on a profile. -/
def Records (profileId : String) (row : ModelExecution) : Prop :=
  row.modelProfileId = none ∨ row.modelProfileId = some profileId

/-- The attempts on some of the profiles to try, and what was recorded of them. -/
inductive Attempts (request : ModelRequest) :
    Nat → List String → List String → List ModelExecution → Prop where
  | ends {number profileId rest row} (recorded : Records profileId row) (numbered : row.attemptNumber = number) :
      Attempts request number (profileId :: rest) [profileId] [row]
  | goesOn {number profileId rest row tried rows} (recorded : Records profileId row)
      (numbered : row.attemptNumber = number) (allowed : request.fallbackAllowed = true)
      (onward : row.GoesOn) (later : Attempts request (number + 1) rest tried rows) :
      Attempts request number (profileId :: rest) (profileId :: tried) (row :: rows)

namespace Attempts

variable {request : ModelRequest} {number : Nat} {profileIds tried : List String} {rows : List ModelExecution}

theorem tried_sublist (attempts : Attempts request number profileIds tried rows) :
    tried.Sublist profileIds := by
  induction attempts with
  | ends => exact (List.nil_sublist _).cons_cons _
  | goesOn _ _ _ _ _ ih => exact ih.cons_cons _

theorem recorded (attempts : Attempts request number profileIds tried rows) :
    List.Forall₂ Records tried rows := by
  induction attempts with
  | ends recorded => exact .cons recorded .nil
  | goesOn recorded _ _ _ _ ih => exact .cons recorded ih

theorem numbered (attempts : Attempts request number profileIds tried rows) :
    rows.map (·.attemptNumber) = List.range' number rows.length := by
  induction attempts with
  | ends _ numbered => rw [List.map_singleton, numbered]; rfl
  | goesOn _ numbered _ _ _ ih => rw [List.map_cons, numbered, ih, List.length_cons, List.range'_succ]

theorem goes_on (attempts : Attempts request number profileIds tried rows) :
    ∀ row ∈ rows.dropLast, row.GoesOn := by
  induction attempts with
  | ends => simp
  | goesOn _ _ _ onward later ih =>
    have more := later.recorded
    intro row member
    cases later with
    | ends => exact (List.mem_singleton.mp member) ▸ onward
    | goesOn =>
      rcases List.mem_cons.mp member with same | inside
      · exact same ▸ onward
      · exact ih row inside

theorem single (attempts : Attempts request number profileIds tried rows)
    (forbidden : request.fallbackAllowed = false) : tried.length = 1 := by
  cases attempts with
  | ends => rfl
  | goesOn _ _ allowed => rw [allowed] at forbidden; cases forbidden

end Attempts

section

variable {world : Surroundings} {request : ModelRequest} {decision : RoutingDecision}

theorem attemptOn_names (profile : ModelProfile) (number : Nat) :
    (attemptOn world request decision profile number).modelProfileId = profile.id ∧
      (attemptOn world request decision profile number).attemptNumber = number := by
  unfold attemptOn
  split
  · unfold attemptExecution
    split
    case h_5 =>
      split <;> exact ⟨rfl, rfl⟩
    all_goals exact ⟨rfl, rfl⟩
  · exact ⟨rfl, rfl⟩

theorem goesOn_of_fallsBack {response : ModelResponse} (id : String)
    (onward : fallsBack request response = true) :
    request.fallbackAllowed = true ∧ (executionFromResponse request id response).GoesOn := by
  unfold fallsBack at onward
  rw [Bool.and_eq_true, Bool.and_eq_true, decide_eq_true_eq] at onward
  obtain ⟨⟨failed, allowed⟩, coded⟩ := onward
  refine ⟨allowed, failed, ?_⟩
  cases known : response.errorCode with
  | none =>
    rw [known] at coded
    cases coded
  | some told =>
    rw [known] at coded
    simp only [Bool.and_eq_true, decide_eq_true_eq] at coded
    exact ⟨told, known, coded⟩

/-- By induction on the profiles still to try. -/
theorem fallbackLoop_attempts (number : Nat) (profileId : String) (rest : List String)
    (last : Option ModelResponse) (state : GatewayState) :
    ∃ response tried rows, fallbackLoop world request decision number (profileId :: rest) last state =
        (some response, ⟨state.executions ++ rows, state.tried ++ tried⟩) ∧
      Attempts request number (profileId :: rest) tried rows ∧
      rows.getLast?.map (·.status) = some response.status := by
  induction rest generalizing number profileId last state with
  | nil =>
    rw [fallbackLoop]
    cases known : world.profileById number profileId with
    | none => exact ⟨_, _, [executionFromResponse request _ _], rfl, .ends (.inl rfl) rfl, rfl⟩
    | some profile =>
      have named := @attemptOn_names world request decision profile number
      have recorded := named.1.trans (world.primaryKey number profileId profile known)
      dsimp only [fallbackLoop]
      rw [ite_self]
      exact ⟨_, _, [executionFromResponse request _ _], rfl, .ends (.inr recorded) named.2, rfl⟩
  | cons next rest ih =>
    rw [fallbackLoop]
    cases known : world.profileById number profileId with
    | none => exact ⟨_, _, [executionFromResponse request _ _], rfl, .ends (.inl rfl) rfl, rfl⟩
    | some profile =>
      have named := @attemptOn_names world request decision profile number
      have recorded := named.1.trans (world.primaryKey number profileId profile known)
      dsimp only
      split
      · next onward =>
          obtain ⟨allowed, goes⟩ := goesOn_of_fallsBack (world.createExecutionId state.executions) onward
          obtain ⟨response, tried, rows, run, attempts, answer⟩ := ih (number + 1) next _ _
          refine ⟨response, profileId :: tried, executionFromResponse request
            (world.createExecutionId state.executions) (attemptOn world request decision profile number) ::
              rows, run.trans ?_, .goesOn (.inr recorded) named.2 allowed goes attempts, ?_⟩
          · simp [persistResponse]
          · cases attempts <;> exact answer
      · exact ⟨_, _, [executionFromResponse request _ _], rfl, .ends (.inr recorded) named.2, rfl⟩

variable {registry : Registry}

theorem recordPolicyBlock_writes (decision : RoutingDecision) (state : GatewayState) :
    ∃ row, row.status = .failed ∧ (recordPolicyBlock world request decision state).2 =
      ⟨state.executions ++ [row], state.tried⟩ := by
  unfold recordPolicyBlock persistResponse
  exact ⟨_, rfl, rfl⟩

/-- The profiles of a route are eligible and apart. -/
theorem routed_ids {selected : String}
    (routed : (registry.routeRequest request).selectedProfileId = some selected) :
    (registry.routeRequest request).errorCode = none ∧
      (selected :: (registry.routeRequest request).fallbackProfileIds).Nodup ∧
      ∀ id ∈ selected :: (registry.routeRequest request).fallbackProfileIds,
        ∃ pair ∈ registry.eligible request, pair.1.id = some id := by
  obtain ⟨listed, chain, rest, perm, -, chained, -, order⟩ :=
    orderEligible_documented request (registry.eligible request)
  have whole : (orderEligible request (registry.eligible request)).Perm (registry.eligible request) :=
    order ▸ chained.perm.trans perm
  cases leads : orderEligible request (registry.eligible request) with
  | nil =>
    unfold Registry.routeRequest route at routed
    rw [show eligibleOf request registry.providers registry.profiles = registry.eligible request from rfl,
      leads] at routed
    cases routed
  | cons first others =>
    rw [leads] at whole
    obtain ⟨chosen, backups⟩ := routeRequest_of_order leads
    have named : first.1.id = some selected := chosen.symm.trans routed
    obtain ⟨-, once, each⟩ := fallback_ids whole
    refine ⟨?_, ?_, ?_⟩
    · unfold Registry.routeRequest route
      rw [show eligibleOf request registry.providers registry.profiles = registry.eligible request from rfl,
        leads]
    · rw [backups]
      exact List.nodup_cons.mpr ⟨fun member => ((each selected).mp member).1 named.symm, once⟩
    · intro id member
      rw [backups] at member
      rcases List.mem_cons.mp member with same | later
      · exact ⟨first, whole.mem_iff.mp List.mem_cons_self, same ▸ named⟩
      · exact ((each id).mp later).2

theorem attemptedProfiles_cons (selected : String) (decision : RoutingDecision) :
    ∃ rest, attemptedProfiles request selected decision = selected :: rest ∧
      (selected :: rest).Sublist (selected :: decision.fallbackProfileIds) ∧
      ∀ limit, request.maxAttempts = some limit → limit ≠ 0 →
        ((selected :: rest).length : Int) ≤ max 1 limit := by
  have positive (limit : Int) : ∃ more, (max 1 limit).toNat = more + 1 :=
    ⟨(max 1 limit).toNat - 1, by omega⟩
  unfold attemptedProfiles
  dsimp only
  obtain ⟨more, count⟩ := positive (if request.maxAttempts.getD 0 = 0 then
    ((selected :: (if request.fallbackAllowed then decision.fallbackProfileIds else [])).length : Int)
    else request.maxAttempts.getD 0)
  rw [count, List.take_succ_cons]
  refine ⟨_, rfl, (List.Sublist.trans (List.take_sublist _ _) ?_).cons_cons _, ?_⟩
  · split
    · exact .refl _
    · exact List.nil_sublist _
  · intro limit given nonzero
    rw [given, Option.getD_some, if_neg nonzero] at count
    have short := List.length_take_le more (if request.fallbackAllowed then decision.fallbackProfileIds else [])
    rw [List.length_cons]
    omega

/-- What the attempts of a request keep to; nothing is said of a limit of zero. -/
structure FallbackHolds (registry : Registry) (request : ModelRequest) (tried : List String)
    (rows : List ModelExecution) (response : ModelResponse) : Prop where
  eligible : ∀ id ∈ tried, ∃ pair ∈ registry.eligible request, pair.1.id = some id
  once : tried.Nodup
  limited : ∀ limit, request.maxAttempts = some limit → limit ≠ 0 → (tried.length : Int) ≤ max 1 limit
  single : request.fallbackAllowed = false → tried.length = 1
  recorded : List.Forall₂ Records tried rows
  numbered : rows.map (·.attemptNumber) = List.range' 1 rows.length
  goesOn : ∀ row ∈ rows.dropLast, row.GoesOn
  answer : rows.getLast?.map (·.status) = some response.status

/-- A request without a route is recorded as blocked; another one is tried on its route. -/
theorem gateway_fallback (world : Surroundings) (registry : Registry) (request : ModelRequest)
    (before : GatewayState) :
    ((registry.routeRequest request).selectedProfileId = none →
      ∃ row, row.status = .failed ∧ (executeWithFallback world request registry before).2 =
        ⟨before.executions ++ [row], before.tried⟩) ∧
    ((registry.routeRequest request).selectedProfileId ≠ none →
      ∃ tried rows, (executeWithFallback world request registry before).2 =
          ⟨before.executions ++ rows, before.tried ++ tried⟩ ∧
        FallbackHolds registry request tried rows (executeWithFallback world request registry before).1) := by
  unfold executeWithFallback
  dsimp only
  cases routed : (registry.routeRequest request).selectedProfileId with
  | none =>
    refine ⟨fun _ => ?_, fun routed => absurd rfl routed⟩
    cases (registry.routeRequest request).errorCode <;> exact recordPolicyBlock_writes _ _
  | some selected =>
    refine ⟨nofun, fun _ => ?_⟩
    obtain ⟨clear, distinct, known⟩ := routed_ids routed
    obtain ⟨rest, profiles, sublist, limited⟩ :=
      @attemptedProfiles_cons request selected (registry.routeRequest request)
    obtain ⟨response, tried, rows, run, attempts, answer⟩ := @fallbackLoop_attempts world
      request (registry.routeRequest request) 1 selected rest none before
    have within := attempts.tried_sublist
    rw [clear]
    dsimp only
    rw [profiles, run]
    refine ⟨tried, rows, rfl, fun id member => known id (sublist.subset (within.subset member)),
      distinct.sublist (within.trans sublist), fun limit given nonzero => ?_, attempts.single,
      attempts.recorded, attempts.numbered, attempts.goes_on, answer⟩
    have bounded := within.length_le
    have total := limited limit given nonzero
    omega

end

def negativeLimit : ModelRequest := { chainedRequest with maxAttempts := some (-1) }

/-- No profile is found any more when it is tried. -/
def emptied : Surroundings where
  profileById _ _ := none
  providerKnown _ _ := false
  adapters _ := none
  modelValidate := .ok
  createExecutionId rows := s!"MODEL-EXEC-{rows.length + 1}"
  primaryKey _ _ _ found := Option.noConfusion rfl (heq_of_eq found)

/-- One attempt is made whatever the limit. -/
theorem negative_limit_exceeded :
    ¬ ∀ limit, negativeLimit.maxAttempts = some limit →
      ((executeWithFallback emptied negativeLimit twoModels ⟨[], []⟩).2.tried.length : Int) ≤ limit := by
  intro within
  have tried : (executeWithFallback emptied negativeLimit twoModels ⟨[], []⟩).2.tried.length = 1 := by
    decide +kernel
  have bounded := within (-1) rfl
  omega

end Lucius.Models
