import Lucius.Runtime.Router

/-! The calls the router makes: each finds the workspace as the one before it has left it,
and is followed by another only after a failure that may be retried or handed over. -/

namespace Lucius.Router

open Worktree Updates Lucius.Action

@[simp] theorem exec_record (context : RuntimeExecutionContext) (eventType action result : String)
    (state : RouterState) :
    exec (record context eventType action result) state =
      (.ok (), { state with store := state.store.record (routerAudit context eventType action result) }) :=
  rfl

theorem exec_record_bind {α : Type} (context : RuntimeExecutionContext)
    (eventType action result : String) (next : Unit → RouterAction α) (state : RouterState) :
    exec (record context eventType action result >>= next) state =
      exec (next ())
        { state with store := state.store.record (routerAudit context eventType action result) } :=
  exec_bind_of_ok (exec_record context eventType action result state)

theorem exec_recordModelExecutionAttempt (context : RuntimeExecutionContext)
    (request : RuntimeExecutionRequest) (result : RuntimeExecutionResult) (attemptNumber : Nat)
    (store : Store) : ∃ after,
      exec (recordModelExecutionAttempt context request result attemptNumber) store = (.ok (), after) := by
  unfold recordModelExecutionAttempt
  rw [exec_get_bind]
  split
  · exact ⟨_, rfl⟩
  · exact ⟨_, rfl⟩

theorem exec_onStore_ok {α : Type} {operation : Op α} (state : RouterState) {value : α} {store : Store}
    (done : exec operation state.store = (.ok value, store)) :
    exec (onStore operation) state = (.ok value, { state with store := store }) := by
  rw [onStore, exec_zoom, done]

theorem exec_onFiles {α : Type} (work : GateWork α) (state : RouterState) :
    exec (onFiles work) state =
      ((work state.files).2, { state with files := applyAll state.files (work state.files).1 }) := rfl

/-- Calls in a row: how the last one ends, and the workspace it leaves. -/
inductive Calls (env : GateEnvironment) :
    Files → List Invocation → Except PyExc RuntimeExecutionResult → Files → Prop
  | last {files : Files} {invocation : Invocation} {updates : List FileUpdate}
      {outcome : Except PyExc RuntimeExecutionResult}
      (found : invocation.found = files) (judged : invocation.judged env files = (updates, outcome)) :
      Calls env files [invocation] outcome (applyAll files updates)
  | next {files final : Files} {invocation : Invocation} {updates : List FileUpdate}
      {result : RuntimeExecutionResult} {rest : List Invocation}
      {outcome : Except PyExc RuntimeExecutionResult}
      (found : invocation.found = files)
      (judged : invocation.judged env files = (updates, .ok result))
      (failed : result.status = .failed)
      (again : retryable result.retryability = true ∨ failoverable result.retryability = true)
      (later : Calls env (applyAll files updates) rest outcome final) :
      Calls env files (invocation :: rest) outcome final

/-- What a part of the router's work has done: calls that ask some of the providers for
one request. -/
structure Called (router : ModelExecutionRouter) (request : RuntimeExecutionRequest)
    (asked : List Provider) (before after : RouterState)
    (outcome : Except PyExc RuntimeExecutionResult) (made : List Invocation) : Prop where
  invocations : after.invocations = before.invocations ++ made
  calls : Calls router.gates before.files made outcome after.files
  request : ∀ invocation ∈ made, invocation.request = request
  provider : ∀ invocation ∈ made, invocation.provider ∈ asked

theorem Calls.append {env : GateEnvironment} {files middle final : Files} {front back : List Invocation}
    {first outcome : Except PyExc RuntimeExecutionResult} {result : RuntimeExecutionResult}
    (before : Calls env files front first middle) (ended : first = .ok result)
    (failed : result.status = .failed)
    (again : retryable result.retryability = true ∨ failoverable result.retryability = true)
    (after : Calls env middle back outcome final) : Calls env files (front ++ back) outcome final := by
  induction before with
  | last found judged => exact .next found (judged.trans (by rw [ended])) failed again after
  | next found judged stopped repeated _ ih => exact .next found judged stopped repeated (ih ended after)

theorem Called.append {router : ModelExecutionRouter} {request : RuntimeExecutionRequest}
    {first second asked : List Provider} {before middle resumed after : RouterState}
    {result : RuntimeExecutionResult} {outcome : Except PyExc RuntimeExecutionResult}
    {front back : List Invocation} (earlier : Called router request first before middle (.ok result) front)
    (failed : result.status = .failed)
    (again : retryable result.retryability = true ∨ failoverable result.retryability = true)
    (later : Called router request second resumed after outcome back)
    (kept : resumed.invocations = middle.invocations ∧ resumed.files = middle.files)
    (inside : first ⊆ asked ∧ second ⊆ asked) :
    Called router request asked before after outcome (front ++ back) where
  invocations := by rw [later.invocations, kept.1, earlier.invocations, List.append_assoc]
  calls := earlier.calls.append rfl failed again (kept.2 ▸ later.calls)
  request := by
    intro invocation member
    rcases List.mem_append.mp member with one | other
    · exact earlier.request invocation one
    · exact later.request invocation other
  provider := by
    intro invocation member
    rcases List.mem_append.mp member with one | other
    · exact inside.1 (earlier.provider invocation one)
    · exact inside.2 (later.provider invocation other)

theorem Called.widen {router : ModelExecutionRouter} {request : RuntimeExecutionRequest}
    {provider : Provider} {asked : List Provider} {before after : RouterState}
    {outcome : Except PyExc RuntimeExecutionResult} {made : List Invocation}
    (called : Called router request [provider] before after outcome made) (member : provider ∈ asked) :
    Called router request asked before after outcome made where
  invocations := called.invocations
  calls := called.calls
  request := called.request
  provider := by
    intro invocation inside
    rw [List.mem_singleton.mp (called.provider invocation inside)]
    exact member

section

variable {router : ModelExecutionRouter} {context : RuntimeExecutionContext}
  {request : RuntimeExecutionRequest} {provider : Provider} {failoverFrom : Option String}

variable (router context request provider failoverFrom) in
theorem exec_attempt (attemptIndex : Nat) (state : RouterState) :
    ∃ store, exec (attempt router context request provider failoverFrom attemptIndex) state =
      (((invocationAt request provider failoverFrom state).judged router.gates state.files).2,
        { store := store
          files := applyAll state.files
            ((invocationAt request provider failoverFrom state).judged router.gates state.files).1
          invocations := state.invocations ++ [invocationAt request provider failoverFrom state] }) := by
  let started : RouterState := begin (invocationAt request provider failoverFrom state)
    { state with store := state.store.record (routerAudit context
      "MODEL_EXECUTION_PROVIDER_INVOCATION_STARTED" "invoke_runtime_execution_provider" provider.id) }
  have run := exec_onFiles
    ((invocationAt request provider failoverFrom state).judged router.gates) started
  unfold attempt
  rw [exec_record_bind, exec_get_bind, exec_bind_of_ok (exec_modify _ _)]
  change ∃ store, exec (onFiles
    ((invocationAt request provider failoverFrom state).judged router.gates) >>= _) started = _
  rcases judged : (invocationAt request provider failoverFrom state).judged router.gates state.files
    with ⟨updates, error | result⟩
  · refine ⟨started.store, ?_⟩
    rw [exec_bind_of_error (run.trans (by rw [show started.files = state.files from rfl, judged]))]
    rfl
  · rw [exec_bind_of_ok (run.trans (by rw [show started.files = state.files from rfl, judged])),
      exec_record_bind]
    let judgedState : RouterState :=
      { store := started.store.record (routerAudit context
          "MODEL_EXECUTION_PROVIDER_INVOCATION_COMPLETED" "invoke_runtime_execution_provider"
          (StrEnum.value result.status))
        files := applyAll state.files updates
        invocations := started.invocations }
    obtain ⟨store, recorded⟩ := exec_recordModelExecutionAttempt context request result
      (attemptIndex + 1) judgedState.store
    exact ⟨store, exec_bind_of_ok (exec_onStore_ok judgedState recorded)⟩

theorem attempt_called {attemptIndex : Nat} {state after : RouterState}
    {outcome : Except PyExc RuntimeExecutionResult}
    (done : exec (attempt router context request provider failoverFrom attemptIndex) state =
      (outcome, after)) :
    Called router request [provider] state after outcome
      [invocationAt request provider failoverFrom state] := by
  obtain ⟨store, ended⟩ :=
    exec_attempt router context request provider failoverFrom attemptIndex state
  rw [done] at ended
  obtain ⟨rfl, rfl⟩ := Prod.mk.inj ended
  constructor
  · rfl
  · exact .last rfl rfl
  · intro invocation member
    rw [List.mem_singleton.mp member]
    rfl
  · intro invocation member
    rw [List.mem_singleton.mp member]
    exact List.mem_singleton.mpr rfl

/-- The provider is the first that is called. -/
def FirstCalls (provider : Provider) (made : List Invocation) : Prop :=
  made.head?.map Invocation.provider = some provider

theorem FirstCalls.append {made : List Invocation} (first : FirstCalls provider made)
    (more : List Invocation) : FirstCalls provider (made ++ more) := by
  cases made with
  | nil => cases first
  | cons invocation rest => exact first

/-- The attempts of a provider end with the attempt made, or with those after a retry. -/
theorem attempts_ended {failoversUsed attemptIndex retriesLeft : Nat} {state after : RouterState}
    {outcome : Except PyExc Attempted}
    (done : exec (attempts router context request provider failoverFrom failoversUsed attemptIndex
      retriesLeft) state = (outcome, after)) :
    (∃ made, exec (attempt router context request provider failoverFrom attemptIndex) state = (made, after) ∧
      outcome = made.map (fun result => ⟨result, attemptIndex, failoversUsed⟩)) ∨
    ∃ fewer result left event, retriesLeft = fewer + 1 ∧
      exec (attempt router context request provider failoverFrom attemptIndex) state = (.ok result, left) ∧
      (result.status = .failed ∧ retryable result.retryability = true) ∧
      exec (attempts router context request provider failoverFrom failoversUsed (attemptIndex + 1) fewer)
        { left with store := left.store.record event } = (outcome, after) := by
  rcases ended : exec (attempt router context request provider failoverFrom attemptIndex) state
    with ⟨error | result, left⟩
  · have stopped : (outcome, after) = (.error error, left) := by
      rw [← done]
      cases retriesLeft <;> exact exec_bind_of_error ended
    obtain ⟨rfl, rfl⟩ := Prod.mk.inj stopped
    exact .inl ⟨_, rfl, rfl⟩
  · cases retriesLeft with
    | zero =>
      rw [attempts, exec_bind_of_ok ended, exec_pure] at done
      obtain ⟨rfl, rfl⟩ := Prod.mk.inj done
      exact .inl ⟨_, rfl, rfl⟩
    | succ fewer =>
      rw [attempts, exec_bind_of_ok ended] at done
      split at done
      · rename_i failed
        rw [exec_record_bind] at done
        exact .inr ⟨fewer, result, left, _, rfl, rfl, failed, done⟩
      · rw [exec_pure] at done
        obtain ⟨rfl, rfl⟩ := Prod.mk.inj done
        exact .inl ⟨_, rfl, rfl⟩

/-- The providers in turn end with the attempts of the first, or with those of the others. -/
theorem tryProviders_ended {failoversUsed : Nat} {rest : List Provider} {state after : RouterState}
    {outcome : Except PyExc Attempted}
    (done : exec (tryProviders router context request failoverFrom failoversUsed provider rest) state =
      (outcome, after)) :
    exec (attempts router context request provider failoverFrom failoversUsed 0
      router.settings.maxProviderRetries) state = (outcome, after) ∨
    ∃ next others attempted left event, rest = next :: others ∧
      exec (attempts router context request provider failoverFrom failoversUsed 0
        router.settings.maxProviderRetries) state = (.ok attempted, left) ∧
      (attempted.result.status = .failed ∧ failoverable attempted.result.retryability = true ∧
        failoversUsed < router.settings.maxFailovers) ∧
      exec (tryProviders router context request (some provider.id) (failoversUsed + 1) next others)
        { left with store := left.store.record event } = (outcome, after) := by
  cases rest with
  | nil => exact .inl done
  | cons next others =>
    unfold tryProviders at done
    rcases ended : exec (attempts router context request provider failoverFrom failoversUsed 0
      router.settings.maxProviderRetries) state with ⟨error | attempted, left⟩
    · rw [exec_bind_of_error ended] at done
      exact .inl done
    · rw [exec_bind_of_ok ended] at done
      split at done
      · rename_i failed
        rw [exec_record_bind] at done
        exact .inr ⟨next, others, attempted, left, _, rfl, rfl, failed, done⟩
      · rw [exec_pure] at done
        exact .inl done

theorem attempts_called {failoversUsed attemptIndex retriesLeft : Nat} {state after : RouterState}
    {outcome : Except PyExc Attempted}
    (done : exec (attempts router context request provider failoverFrom failoversUsed attemptIndex
      retriesLeft) state = (outcome, after)) :
    ∃ made, Called router request [provider] state after (outcome.map Attempted.result) made ∧
      FirstCalls provider made := by
  rcases attempts_ended done with ⟨made, ended, rfl⟩ | ⟨fewer, result, left, event, rfl, ended, failed, done⟩
  · refine ⟨[invocationAt request provider failoverFrom state], ?_, rfl⟩
    have same : (made.map (fun result => (⟨result, attemptIndex, failoversUsed⟩ : Attempted))).map
        Attempted.result = made := by
      cases made <;> rfl
    rw [same]
    exact attempt_called ended
  · obtain ⟨made, later, _⟩ := attempts_called done
    refine ⟨_, (attempt_called ended).append failed.1 (.inl failed.2) later ⟨rfl, rfl⟩
      ⟨List.Subset.refl _, List.Subset.refl _⟩, ?_⟩
    have first : FirstCalls provider [invocationAt request provider failoverFrom state] := rfl
    exact first.append made
termination_by retriesLeft

theorem tryProviders_called {failoversUsed : Nat} {rest : List Provider} {state after : RouterState}
    {outcome : Except PyExc Attempted}
    (done : exec (tryProviders router context request failoverFrom failoversUsed provider rest) state =
      (outcome, after)) :
    ∃ made, Called router request (provider :: rest) state after (outcome.map Attempted.result) made ∧
      FirstCalls provider made := by
  induction rest generalizing provider failoverFrom failoversUsed state with
  | nil => exact attempts_called done
  | cons next others ih =>
    rcases tryProviders_ended done with ended | ⟨_, _, attempted, left, event, same, ended, failed, done⟩
    · obtain ⟨made, called, first⟩ := attempts_called ended
      exact ⟨made, called.widen List.mem_cons_self, first⟩
    · cases same
      obtain ⟨made, called, first⟩ := attempts_called ended
      obtain ⟨more, later, _⟩ := ih done
      refine ⟨_, called.append failed.1 (.inr failed.2.1) later ⟨rfl, rfl⟩ ⟨?_, ?_⟩, first.append more⟩
      · exact List.cons_subset_cons _ (List.nil_subset _)
      · exact List.subset_cons_self _ _

end

/-- The request of a call, and the state in which it is routed. -/
structure Requested (settings : RouterSettings) (context : RuntimeExecutionContext)
    (store : Store) (request : RuntimeExecutionRequest) : Prop where
  built : ∃ left, exec (requestFromContext settings context) store = (.ok request, left)
  inScope : scopeError request = none

/-- The providers the request is offered, in order, and the request they have left. -/
structure Offered (router : ModelExecutionRouter) (request : RuntimeExecutionRequest)
    (providers : List Provider) (left : RuntimeExecutionRequest) : Prop where
  evaluated : ∃ evaluated, evaluateProviders request router.registry.providers = .ok (evaluated, left) ∧
    providers = (eligibleInOrder evaluated).map Evaluated.provider

theorem Requested.unique {settings : RouterSettings} {context : RuntimeExecutionContext}
    {store : Store} {first second : RuntimeExecutionRequest}
    (one : Requested settings context store first) (other : Requested settings context store second) :
    first = second := by
  obtain ⟨_, built⟩ := one.built
  obtain ⟨_, same⟩ := other.built
  rw [built] at same
  cases same
  rfl

theorem Offered.unique {router : ModelExecutionRouter} {request left last : RuntimeExecutionRequest}
    {first second : List Provider} (one : Offered router request first left)
    (other : Offered router request second last) : first = second := by
  obtain ⟨evaluated, judged, offered⟩ := one
  obtain ⟨again, same, listed⟩ := other
  rw [judged] at same
  cases same
  rw [offered, listed]

theorem evaluateProviders_listed {request left : RuntimeExecutionRequest} {providers : List Provider}
    {evaluated : List Evaluated} (done : evaluateProviders request providers = .ok (evaluated, left)) :
    evaluated.map Evaluated.provider = providers := by
  induction providers generalizing request evaluated left with
  | nil =>
    obtain ⟨rfl, rfl⟩ := Prod.mk.inj (Except.ok.inj done)
    rfl
  | cons provider rest ih =>
    obtain ⟨⟨evaluation, middle⟩, first, afterFirst⟩ := except_bind_ok done
    obtain ⟨⟨later, last⟩, others, built⟩ := except_bind_ok afterFirst
    obtain ⟨rfl, rfl⟩ := Prod.mk.inj (Except.ok.inj built)
    rw [List.map_cons, ih others]

theorem evaluateProviders_asked {request left : RuntimeExecutionRequest} {providers : List Provider}
    {evaluated : List Evaluated} (done : evaluateProviders request providers = .ok (evaluated, left)) :
    ∀ found ∈ evaluated, found.provider ∈ providers := by
  intro found member
  rw [← evaluateProviders_listed done]
  exact List.mem_map_of_mem member

theorem Offered.registered {router : ModelExecutionRouter} {request left : RuntimeExecutionRequest}
    {providers : List Provider} (offered : Offered router request providers left) :
    ∀ provider ∈ providers, provider ∈ router.registry.registered := by
  obtain ⟨evaluated, judged, rfl⟩ := offered
  intro provider member
  obtain ⟨found, chosen, rfl⟩ := List.mem_map.mp member
  have eligible := List.mem_of_mem_filter ((mem_sortedBy _ _ _).mp chosen)
  exact (mem_sortedBy _ _ _).mp (evaluateProviders_asked judged found eligible)

/-- A run of the router: it ends without a call, or its calls ask the providers that are
eligible. -/
inductive Executed (router : ModelExecutionRouter) (context : RuntimeExecutionContext)
    (store : Store) (files : Files) :
    Except PyExc ExecutionAdapterResult → List Invocation → Files → Prop
  | uncalled {outcome : Except PyExc ExecutionAdapterResult}
      (failed : ∀ result, outcome = .ok result → result.outcome = .failed)
      (unoffered : ∀ request selected fallbacks left, Requested router.settings context store request →
        ¬ Offered router request (selected :: fallbacks) left) :
      Executed router context store files outcome [] files
  | called {request left asked : RuntimeExecutionRequest} {selected : Provider}
      {fallbacks : List Provider} {attempted : Except PyExc Attempted} {made : List Invocation}
      {final : Files} (requested : Requested router.settings context store request)
      (offered : Offered router request (selected :: fallbacks) left)
      (decided : ∃ decision, asked = { left with routingDecisionId := decision })
      (calls : Calls router.gates files made (attempted.map Attempted.result) final)
      (requests : ∀ invocation ∈ made, invocation.request = asked)
      (providers : ∀ invocation ∈ made, invocation.provider ∈ selected :: fallbacks)
      (first : FirstCalls selected made) :
      Executed router context store files (attempted >>= adapterResultFromProvider) made final

def starting (store : Store) (files : Files) : RouterState := ⟨store, files, []⟩

/-- How a run of the router ends: before it calls a provider, or as the calls of the
eligible providers end. -/
inductive Tried (router : ModelExecutionRouter) (context : RuntimeExecutionContext)
    (store : Store) (files : Files) : Except PyExc ExecutionAdapterResult × RouterState → Prop
  | uncalled {ended : Except PyExc ExecutionAdapterResult × RouterState}
      (idle : ended.2.invocations = [] ∧ ended.2.files = files)
      (failed : ∀ result, ended.1 = .ok result → result.outcome = .failed)
      (unoffered : ∀ request selected fallbacks left, Requested router.settings context store request →
        ¬ Offered router request (selected :: fallbacks) left) :
      Tried router context store files ended
  | called {request left asked : RuntimeExecutionRequest} {selected : Provider}
      {fallbacks : List Provider} {attempted : Except PyExc Attempted} {middle last : RouterState}
      {ended : Except PyExc ExecutionAdapterResult × RouterState}
      (requested : Requested router.settings context store request)
      (offered : Offered router request (selected :: fallbacks) left)
      (decided : ∃ decision, asked = { left with routingDecisionId := decision })
      (idle : middle.invocations = [] ∧ middle.files = files)
      (tried : exec (tryProviders router context asked none 0 selected fallbacks) middle = (attempted, last))
      (normalized : ended.1 = attempted >>= adapterResultFromProvider)
      (kept : ended.2.invocations = last.invocations ∧ ended.2.files = last.files) :
      Tried router context store files ended

variable {router : ModelExecutionRouter} {context : RuntimeExecutionContext}

variable (context) in
theorem recordDecision_ok (decision : RuntimeRoutingDecision) (state : RouterState) :
    ∃ named store, exec (recordDecision context decision) state =
      (.ok { decision with routingDecisionId := named }, { state with store := store }) :=
  ⟨_, _, rfl⟩

theorem route_ended {request : RuntimeExecutionRequest} {state after : RouterState}
    {outcome : Except PyExc Routing} (done : exec (route router request context) state = (outcome, after)) :
    after.invocations = state.invocations ∧ after.files = state.files ∧
      (∀ error, outcome = .error error → ∀ providers left, ¬ Offered router request providers left) ∧
      ∀ routing, outcome = .ok routing → ∃ left, Offered router request routing.providers left ∧
        ∃ decision, routing.request = { left with routingDecisionId := decision } := by
  unfold route at done
  rcases judged : evaluateProviders request router.registry.providers with error | ⟨evaluated, left⟩
  · rw [judged] at done
    obtain ⟨rfl, rfl⟩ := Prod.mk.inj done
    refine ⟨rfl, rfl, ?_, ?_⟩
    · rintro raised same providers left ⟨evaluated, done, _⟩
      rw [judged] at done
      cases done
    · intro routing returned
      cases returned
  · rw [judged, exec_bind_of_ok (exec_ofExcept _ _)] at done
    dsimp only at done
    rw [exec_record_bind] at done
    obtain ⟨named, store, decided⟩ := recordDecision_ok context
      (routingDecision request.executionId evaluated) { state with store := state.store.record _ }
    rw [exec_bind_of_ok decided, exec_pure] at done
    obtain ⟨rfl, rfl⟩ := Prod.mk.inj done
    refine ⟨rfl, rfl, ?_, ?_⟩
    · intro raised returned
      cases returned
    · intro routing returned
      cases returned
      exact ⟨left, ⟨evaluated, judged, rfl⟩, _, rfl⟩

variable (context) in
theorem exec_completeRouting (attempted : Attempted) (state : RouterState) :
    ∃ store, exec (completeRouting context attempted) state =
      (adapterResultFromProvider attempted, { state with store := store }) := by
  unfold completeRouting
  cases adapterResultFromProvider attempted with
  | error error => exact ⟨state.store, rfl⟩
  | ok normalized => exact ⟨_, rfl⟩

theorem routeRequest_tried {request : RuntimeExecutionRequest} {store : Store}
    (requested : Requested router.settings context store request) {state : RouterState}
    (fresh : state.invocations = []) :
    Tried router context store state.files (exec (routeRequest router context request) state) := by
  unfold routeRequest
  rcases routed : exec (route router request context) state with ⟨error | routing, middle⟩
  · obtain ⟨invocations, files, raised, _⟩ := route_ended routed
    rw [exec_bind_of_error routed]
    refine .uncalled ⟨invocations.trans fresh, files⟩ ?_ ?_
    · intro result returned
      cases returned
    · intro other selected fallbacks left known
      rw [known.unique requested]
      exact raised error rfl _ left
  · obtain ⟨invocations, files, _, offered⟩ := route_ended routed
    obtain ⟨left, offer, decided⟩ := offered routing rfl
    rw [exec_bind_of_ok routed]
    split
    · rename_i none
      rw [exec_record_bind, exec_record_bind, exec_pure]
      refine .uncalled ⟨invocations.trans fresh, files⟩ ?_ ?_
      · intro result returned
        cases returned
        rfl
      · intro other selected fallbacks last known more
        rw [known.unique requested] at more
        have same := offer.unique more
        rw [none] at same
        cases same
    · rename_i selected fallbacks providers
      rw [providers] at offer
      rcases tried : exec (tryProviders router context routing.request none 0 selected fallbacks) middle
        with ⟨error | attempted, last⟩
      · rw [exec_bind_of_error tried]
        exact .called requested offer decided ⟨invocations.trans fresh, files⟩ tried rfl ⟨rfl, rfl⟩
      · obtain ⟨written, completed⟩ := exec_completeRouting context attempted last
        rw [exec_bind_of_ok tried, completed]
        exact .called requested offer decided ⟨invocations.trans fresh, files⟩ tried rfl ⟨rfl, rfl⟩

variable (router context) in
theorem requestFromContext_kept (store : Store) (files : Files) :
    exec (onStore (requestFromContext router.settings context)) (starting store files) =
      ((exec (requestFromContext router.settings context) store).1,
        starting (exec (requestFromContext router.settings context) store).2 files) := rfl

theorem execute_tried (router : ModelExecutionRouter) (context : RuntimeExecutionContext)
    (store : Store) (files : Files) :
    Tried router context store files (exec (execute router context) (starting store files)) := by
  have start := requestFromContext_kept router context store files
  unfold execute
  rcases built : exec (requestFromContext router.settings context) store with ⟨error | request, left⟩
  · rw [built] at start
    rw [exec_bind_of_error start]
    refine .uncalled ⟨rfl, rfl⟩ ?_ ?_
    · intro result returned
      cases returned
    · rintro request selected fallbacks last ⟨⟨_, known⟩, _⟩
      rw [built] at known
      cases known
  · rw [built] at start
    rw [exec_bind_of_ok start, exec_record_bind]
    cases scope : scopeError request with
    | some error =>
      dsimp only
      rw [exec_record_bind, exec_pure]
      refine .uncalled ⟨rfl, rfl⟩ ?_ ?_
      · intro result returned
        cases returned
        rfl
      · rintro other selected fallbacks last ⟨⟨_, known⟩, free⟩
        rw [built] at known
        cases known
        rw [scope] at free
        cases free
    | none =>
      have requested : Requested router.settings context store request := ⟨⟨left, built⟩, scope⟩
      let accepted : Store := left.record (routerAudit context
        "MODEL_EXECUTION_ROUTING_REQUEST_ACCEPTED" "accept_runtime_execution_request" "ACCEPTED")
      have fresh : (starting accepted files).invocations = [] := rfl
      exact routeRequest_tried requested fresh

theorem execute_executed (router : ModelExecutionRouter) (context : RuntimeExecutionContext)
    (store : Store) (files : Files) :
    Executed router context store files (exec (execute router context) (starting store files)).1
      (exec (execute router context) (starting store files)).2.invocations
      (exec (execute router context) (starting store files)).2.files := by
  cases execute_tried router context store files with
  | uncalled idle failed unoffered =>
    rw [idle.1, idle.2]
    exact .uncalled failed unoffered
  | called requested offered decided idle tried normalized kept =>
    obtain ⟨made, called, first⟩ := tryProviders_called tried
    have calls := called.calls
    have listed := called.invocations
    rw [idle.2] at calls
    rw [idle.1, List.nil_append] at listed
    rw [kept.1, kept.2, normalized, listed]
    exact .called requested offered decided calls called.request called.provider first

end Lucius.Router
