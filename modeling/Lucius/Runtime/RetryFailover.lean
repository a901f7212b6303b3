import Lucius.Lib.Turns
import Lucius.Runtime.FailedExecution

/-! How often the router calls the providers it may choose from, in which order, and which
result it ends with. -/

namespace Lucius.Router

open Worktree Lucius.Action

def Invocation.providerId (invocation : Invocation) : String := invocation.provider.id

/-- The judged result of a call, or what its judgement raised. -/
def Invocation.verdict (env : GateEnvironment) (invocation : Invocation) :
    Except PyExc RuntimeExecutionResult := (invocation.judged env invocation.found).2

/-- A call that failed, in a way the last condition is about. -/
def FailedWith (env : GateEnvironment) (condition : Ollama.RuntimeRetryability → Bool)
    (invocation : Invocation) : Prop :=
  ∃ result, invocation.verdict env = .ok result ∧ result.status = .failed ∧
    condition result.retryability = true

def Retryable (env : GateEnvironment) : Invocation → Prop := FailedWith env retryable

def Failoverable (env : GateEnvironment) : Invocation → Prop := FailedWith env failoverable

/-- The calls of the providers that were offered, and the result of the run. -/
structure TakenInTurn (router : ModelExecutionRouter) (offered : List Provider)
    (made : List Invocation) (outcome : Except PyExc ExecutionAdapterResult) : Prop where
  bounded : made.length ≤ (router.settings.maxProviderRetries + 1) * (router.settings.maxFailovers + 1)
  ordered : InTurn router.settings.maxProviderRetries router.settings.maxFailovers
    (offered.map Provider.id) (made.map Invocation.providerId)
  retried : made.Pairwise (fun earlier later =>
    later.providerId = earlier.providerId → Retryable router.gates earlier)
  failedOver : made.IsChain (fun earlier later =>
    later.providerId ≠ earlier.providerId → Failoverable router.gates earlier)
  returned : ∃ front last index used, made = front ++ [last] ∧
    (∀ invocation ∈ front, FailedWith router.gates (fun _ => true) invocation) ∧
    outcome = (last.verdict router.gates).map (fun result => ⟨result, index, used⟩) >>=
      adapterResultFromProvider

section

variable {router : ModelExecutionRouter} {context : RuntimeExecutionContext}
  {request : RuntimeExecutionRequest} {provider : Provider} {failoverFrom : Option String}

abbrev ProviderTurn (router : ModelExecutionRouter) (retries : Nat) (provider : Provider)
    (front : List Invocation) (last : Invocation) : Prop :=
  Turn Invocation.providerId (Retryable router.gates) retries provider.id front last

abbrev ProviderTurns (router : ModelExecutionRouter) (failovers : Nat) (providers : List Provider)
    (made : List Invocation) (last : Invocation) (index used : Nat) : Prop :=
  Turns Invocation.providerId (Retryable router.gates) (Failoverable router.gates)
    router.settings.maxProviderRetries failovers (providers.map Provider.id) made last index used

theorem attempt_verdict {attemptIndex : Nat} {state after : RouterState}
    {outcome : Except PyExc RuntimeExecutionResult}
    (done : exec (attempt router context request provider failoverFrom attemptIndex) state =
      (outcome, after)) :
    after.invocations = state.invocations ++ [invocationAt request provider failoverFrom state] ∧
      outcome = (invocationAt request provider failoverFrom state).verdict router.gates := by
  obtain ⟨store, ended⟩ :=
    exec_attempt router context request provider failoverFrom attemptIndex state
  rw [done] at ended
  obtain ⟨result, left⟩ := Prod.mk.inj ended
  rw [left]
  exact ⟨rfl, result⟩

theorem single_turn (retries : Nat) (state : RouterState) :
    ProviderTurn router retries provider [] (invocationAt request provider failoverFrom state) := by
  refine ⟨?_, Nat.zero_le _, ?_⟩
  · intro invocation member
    rw [List.mem_singleton.mp member]
    rfl
  · intro invocation member
    cases member

/-- The attempts of one provider. The induction is on the retries that are left. -/
theorem attempts_turn {failoversUsed attemptIndex retriesLeft : Nat} {state after : RouterState}
    {outcome : Except PyExc Attempted}
    (done : exec (attempts router context request provider failoverFrom failoversUsed attemptIndex
      retriesLeft) state = (outcome, after)) :
    ∃ front last, after.invocations = state.invocations ++ (front ++ [last]) ∧
      ProviderTurn router retriesLeft provider front last ∧
      outcome = (last.verdict router.gates).map
        (fun result => ⟨result, attemptIndex + front.length, failoversUsed⟩) := by
  rcases attempts_ended done with ⟨made, ended, rfl⟩ | ⟨fewer, result, left, event, rfl, ended, failed, done⟩
  · obtain ⟨listed, verdict⟩ := attempt_verdict ended
    exact ⟨[], _, listed, single_turn _ state, by rw [← verdict]; rfl⟩
  · obtain ⟨listed, verdict⟩ := attempt_verdict ended
    obtain ⟨front, last, more, turn, returned⟩ := attempts_turn done
    let invocation := invocationAt request provider failoverFrom state
    refine ⟨invocation :: front, last, ?_, ⟨?_, ?_, ?_⟩, ?_⟩
    · rw [more]
      dsimp only
      rw [listed, List.append_assoc]
      rfl
    · intro other member
      rcases List.mem_cons.mp member with here | later
      · rw [here]
        rfl
      · exact turn.party other later
    · exact Nat.succ_le_succ turn.bounded
    · intro other member
      rcases List.mem_cons.mp member with here | later
      · rw [here]
        exact ⟨result, verdict.symm, failed⟩
      · exact turn.repeated other later
    · rw [returned, List.length_cons, Nat.add_assoc, Nat.add_comm 1]
termination_by retriesLeft

/-- The attempts of the providers. The induction is on the providers that are left. -/
theorem tryProviders_turns {failoversUsed : Nat} {rest : List Provider} {state after : RouterState}
    {outcome : Except PyExc Attempted} (allowed : failoversUsed ≤ router.settings.maxFailovers)
    (done : exec (tryProviders router context request failoverFrom failoversUsed provider rest) state =
      (outcome, after)) :
    ∃ made last index used, after.invocations = state.invocations ++ made ∧
      ProviderTurns router (router.settings.maxFailovers - failoversUsed) (provider :: rest) made last
        index used ∧
      outcome = (last.verdict router.gates).map (fun result => ⟨result, index, failoversUsed + used⟩) := by
  induction rest generalizing provider failoverFrom failoversUsed state with
  | nil =>
    obtain ⟨front, last, listed, turn, returned⟩ := attempts_turn done
    exact ⟨_, last, _, 0, listed, .last turn, by rw [returned, Nat.zero_add, Nat.add_zero]⟩
  | cons next others ih =>
    rcases tryProviders_ended done with ended | ⟨_, _, attempted, left, event, same, ended, failed, done⟩
    · obtain ⟨front, last, listed, turn, returned⟩ := attempts_turn ended
      exact ⟨_, last, _, 0, listed, .last turn, by rw [returned, Nat.zero_add, Nat.add_zero]⟩
    · cases same
      obtain ⟨front, stop, listed, turn, returned⟩ := attempts_turn ended
      have handed : Failoverable router.gates stop := by
        cases verdict : stop.verdict router.gates with
        | error error =>
          rw [verdict] at returned
          cases returned
        | ok result =>
          rw [verdict] at returned
          cases returned
          exact ⟨result, verdict, failed.1, failed.2.1⟩
      obtain ⟨made, last, index, used, more, turns, after⟩ := ih failed.2.2 done
      refine ⟨front ++ stop :: made, last, index, used + 1, ?_, ?_, ?_⟩
      · rw [more]
        dsimp only
        rw [listed]
        simp
      · have fewer : router.settings.maxFailovers - failoversUsed =
            router.settings.maxFailovers - (failoversUsed + 1) + 1 := by omega
        rw [fewer]
        exact .next turn handed turns
      · have counted : failoversUsed.succ + used = failoversUsed + (used + 1) :=
          Nat.succ_add_eq_add_succ _ _
        rw [after, counted]

end

theorem Offered.distinct {router : ModelExecutionRouter} {request left : RuntimeExecutionRequest}
    {providers : List Provider} (offered : Offered router request providers left) :
    (providers.map Provider.id).Nodup := by
  obtain ⟨evaluated, judged, rfl⟩ := offered
  have registered : (evaluated.map (fun found => found.provider.id)).Nodup := by
    have listed := evaluateProviders_listed judged
    have sorted : (router.registry.providers.map Provider.id).Nodup :=
      ((List.perm_insertionSort _ _).map Provider.id).nodup_iff.mpr router.registry.unique
    rw [← listed, List.map_map] at sorted
    exact sorted
  have chosen : (eligibleInOrder evaluated).Perm
      (evaluated.filter (fun found => found.evaluation.eligible)) := List.perm_insertionSort _ _
  rw [List.map_map, (chosen.map _).nodup_iff]
  exact registered.sublist (List.filter_sublist.map _)

/-- A run of the router calls no provider, or it takes the eligible providers in turn. Of
a failure that is not failoverable it only promises that no other provider comes next. -/
theorem execute_taken_in_turn (router : ModelExecutionRouter) (context : RuntimeExecutionContext)
    (store : Store) (files : Files) :
    let ended := exec (execute router context) (starting store files)
    (ended.2.invocations = [] ∧ ∀ result, ended.1 = .ok result → result.outcome = .failed) ∨
      ∃ request left offered, Requested router.settings context store request ∧
        Offered router request offered left ∧ (offered.map Provider.id).Nodup ∧
        TakenInTurn router offered ended.2.invocations ended.1 := by
  intro ended
  cases execute_tried router context store files with
  | uncalled idle failed unoffered => exact .inl ⟨idle.1, failed⟩
  | @called request left asked selected fallbacks attempted middle last ended' requested offered decided
      idle tried normalized kept =>
      obtain ⟨made, final, index, used, listed, turns, returned⟩ :=
        tryProviders_turns (Nat.zero_le _) tried
      rw [idle.1, List.nil_append] at listed
      have calls : ended.2.invocations = made := kept.1.trans listed
      refine .inr ⟨request, left, selected :: fallbacks, requested, offered, offered.distinct, ?_⟩
      rw [calls]
      obtain ⟨front, split, earlier⟩ := turns.continued
      refine ⟨turns.length_le, turns.inTurn, turns.retried offered.distinct, turns.handedOver,
        front, final, index, 0 + used, split, ?_, ?_⟩
      · intro invocation member
        rcases earlier invocation member with ⟨result, verdict, failed, -⟩ | ⟨result, verdict, failed, -⟩
        · exact ⟨result, verdict, failed, rfl⟩
        · exact ⟨result, verdict, failed, rfl⟩
      · rw [← returned]
        exact normalized

/-- A local model whose calls fail, each in its own way. -/
def failingProvider (name : String) (retryability : Nat → Ollama.RuntimeRetryability) : Provider where
  registration := { qwenRegistration with providerId := name }
  isAvailable := .ok true
  invoke := fun number request => return {
    executionId := request.executionId
    providerId := name
    status := .failed
    retryability := retryability number }

def patientRouter : ModelExecutionRouter where
  settings := { plainSettings with maxProviderRetries := 1, maxFailovers := 1 }
  registry := ⟨[
    failingProvider "first-local" (fun number => if number = 0 then .retryable else .failoverable),
    failingProvider "second-local" (fun _ => .nonRetryable)], by decide⟩
  gates := plainGates

/-- A local model whose resume condition is no text. -/
def oddRouter : ModelExecutionRouter where
  settings := plainSettings
  registry := ⟨[{
    registration := qwenRegistration
    isAvailable := .ok true
    invoke := fun _ request => return {
      executionId := request.executionId
      providerId := "ollama-local"
      status := .blocked
      verificationHandoffMetadata := [("resume_condition", .int 5)] } }], List.nodup_singleton _⟩
  gates := plainGates

def notesRun (router : ModelExecutionRouter) : Except PyExc ExecutionAdapterResult × RouterState :=
  exec (execute router (itemContext writeNotes)) (starting (frozenStore notesPayload) ∅)

/-- The provider of each call, with the status and the retryability of its verdict. -/
def callsOf (router : ModelExecutionRouter) :
    List (String × Option (Ollama.RuntimeExecutionOutcome × Ollama.RuntimeRetryability)) :=
  (notesRun router).2.invocations.map (fun invocation => (invocation.providerId,
    (invocation.verdict router.gates).toOption.map (fun result => (result.status, result.retryability))))

/-- A failure that may be retried and not handed over is followed by calls of its own
provider and of the next one, and a result that is no failure is lost when it cannot be
normalized. -/
theorem retried_failure_goes_on :
    (callsOf patientRouter = [("first-local", some (.failed, .retryable)),
        ("first-local", some (.failed, .failoverable)), ("second-local", some (.failed, .nonRetryable))] ∧
      ¬ (notesRun patientRouter).2.invocations.Pairwise
        (fun earlier _ => Failoverable patientRouter.gates earlier)) ∧
    callsOf oddRouter = [("ollama-local", some (.blocked, .nonRetryable))] ∧
      (notesRun oddRouter).1.isOk = false := by
  have listed : callsOf patientRouter = [("first-local", some (.failed, .retryable)),
      ("first-local", some (.failed, .failoverable)), ("second-local", some (.failed, .nonRetryable))] := by
    decide +kernel
  refine ⟨⟨listed, ?_⟩, by decide +kernel, by decide +kernel⟩
  intro stops
  unfold callsOf at listed
  generalize (notesRun patientRouter).2.invocations = made at listed stops
  obtain ⟨first, others, rfl, here, there⟩ := List.map_eq_cons_iff.mp listed
  obtain ⟨second, rest, rfl, -, -⟩ := List.map_eq_cons_iff.mp there
  obtain ⟨result, verdict, -, allowed⟩ := (List.pairwise_cons.mp stops).1 second List.mem_cons_self
  have seen := congrArg Prod.snd here
  dsimp only at seen
  rw [verdict] at seen
  have kind : result.retryability = .retryable := congrArg Prod.snd (Option.some.inj seen)
  rw [kind] at allowed
  cases allowed

end Lucius.Router
