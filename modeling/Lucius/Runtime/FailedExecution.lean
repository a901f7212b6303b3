import Lucius.Runtime.UnattendedMutation

/-! What failed executions leave in the workspace.

A provider takes back what it has done before it reports a failure. The router makes
failures of its own: of an exception, and of a completed result that it rejects. -/

namespace Lucius.Router

open Worktree Updates Lucius.Action

variable {env : GateEnvironment} {invocation : Invocation} {failure : ProviderFailure}
  {verdict : RuntimeExecutionResult} {files : Files} {updates : List FileUpdate}

/-- The failures a provider reports leave the workspace as the call has found it. -/
def FailsCleanly (provider : Provider) : Prop :=
  ∀ number request files updates answer,
    provider.invoke number request files = (updates, .ok answer) → answer.status = .failed →
      Neutral files updates

/-- The result can be told to the runtime loop. -/
structure Reported (result : RuntimeExecutionResult) : Prop where
  resumeCondition : ∃ text,
    (result.verificationHandoffMetadata.get "resume_condition").optionalText = .ok text
  error : ∃ text, (result.providerErrorMetadata.get "message").optionalText = .ok text

theorem adapterResultFromProvider_ok {attempted : Attempted} {result : ExecutionAdapterResult}
    (done : adapterResultFromProvider attempted = .ok result) :
    result.outcome = attempted.result.status ∧ Reported attempted.result := by
  unfold adapterResultFromProvider at done
  obtain ⟨resumeCondition, resumes, afterResume⟩ := except_bind_ok done
  obtain ⟨error, fails, built⟩ := except_bind_ok afterResume
  cases built
  exact ⟨rfl, ⟨_, resumes⟩, ⟨_, fails⟩⟩

theorem adapterResultFromProvider_of_reported {attempted : Attempted}
    (reported : Reported attempted.result) :
    ∃ result, adapterResultFromProvider attempted = .ok result ∧
      result.outcome = attempted.result.status := by
  obtain ⟨⟨resumeCondition, resumes⟩, ⟨error, fails⟩⟩ := reported
  unfold adapterResultFromProvider
  dsimp only
  rw [resumes, fails]
  exact ⟨_, rfl, rfl⟩

theorem judged_uncompleted (other : invocation.result.status ≠ .completed) (files : Files) :
    invocation.judged env files = (invocation.call.1, .ok invocation.result) := by
  have unjudged : ∀ contents, enforceProviderResultContract env invocation.request invocation.result
      contents = ([], .ok invocation.result) := by
    intro contents
    unfold enforceProviderResultContract
    rw [if_neg (fun both => other both.1), enforceSchemaConstrainedOutput, if_pos other,
      Journal.bind_apply_ok (Journal.pure_apply _ _), enforceQuality, if_pos other]
    rfl
  unfold Invocation.judged
  rw [Journal.bind_apply_ok (Journal.made_apply _ _), unjudged, List.append_nil]

theorem result_of_raised (raised : invocation.call.2 = .error failure) :
    invocation.result = routed invocation.request invocation.failoverFrom
      (providerException invocation.provider invocation.request failure) := by
  rw [Invocation.result, raised]

theorem result_of_answered {answer : RuntimeExecutionResult}
    (answered : invocation.call.2 = .ok answer) :
    invocation.result = routed invocation.request invocation.failoverFrom answer := by
  rw [Invocation.result, answered]

theorem judged_raised (raised : invocation.call.2 = .error failure) (files : Files) :
    invocation.judged env files = (invocation.call.1, .ok invocation.result) := by
  apply judged_uncompleted
  rw [result_of_raised raised]
  intro completed
  cases completed

theorem reported_of_raised (raised : invocation.call.2 = .error failure) :
    invocation.result.status = .failed ∧ Reported invocation.result := by
  rw [result_of_raised raised]
  exact ⟨rfl, ⟨_, rfl⟩, ⟨_, rfl⟩⟩

theorem enforceSchema_verdict {request : RuntimeExecutionRequest}
    {result : RuntimeExecutionResult}
    (completed : result.status = .completed)
    (done : enforceSchemaConstrainedOutput env request result files = (updates, .ok verdict)) :
    verdict.status = .completed ∨ verdict.retryability = .nonRetryable := by
  unfold enforceSchemaConstrainedOutput at done
  rw [if_neg (not_not.mpr completed)] at done
  split at done
  · cases done
    exact .inl completed
  · obtain ⟨_, findings, _, _, judged, _⟩ := Journal.bind_ok done
    split at judged
    · cases judged
      exact .inr rfl
    · cases judged
      left
      unfold schemaPassed
      split <;> exact completed

theorem enforceQuality_verdict {request : RuntimeExecutionRequest}
    {result : RuntimeExecutionResult}
    (done : enforceQuality env request result files = (updates, .ok verdict)) :
    verdict = result ∨ verdict.retryability = .nonRetryable := by
  unfold enforceQuality at done
  split at done
  · cases done
    exact .inl rfl
  · obtain ⟨_, current, _, _, gathered, _⟩ := Journal.bind_ok done
    obtain ⟨_, issues, _, _, judged, _⟩ := Journal.bind_ok gathered
    split at judged
    · cases judged
      exact .inl rfl
    · cases judged
      exact .inr rfl

theorem rejected_nonRetryable (completed : invocation.result.status = .completed)
    (judged : invocation.judged env files = (updates, .ok verdict))
    (failed : verdict.status = .failed) : verdict.retryability = .nonRetryable := by
  obtain ⟨_, _, _, _, enforced, _⟩ := Journal.bind_ok judged
  unfold enforceProviderResultContract at enforced
  split at enforced
  · cases enforced
    rfl
  · obtain ⟨_, middle, _, schema, quality, _⟩ := Journal.bind_ok enforced
    rcases enforceQuality_verdict quality with same | final
    · rw [same] at failed ⊢
      rcases enforceSchema_verdict completed schema with passed | final
      · rw [failed] at passed
        cases passed
      · exact final
    · exact final

/-- The call has not changed the workspace where it raises, or is rejected and the
rejection is what the loop gets. -/
structure Contained (env : GateEnvironment) (invocation : Invocation) : Prop where
  raised : ∀ failure, invocation.call.2 = .error failure → Neutral invocation.found invocation.call.1
  rejected : ∀ answer updates verdict, invocation.call.2 = .ok answer → answer.status = .completed →
    invocation.judged env invocation.found = (updates, .ok verdict) → verdict.status = .failed →
      Reported verdict → Neutral invocation.found updates

theorem failed_cases (judged : invocation.judged env invocation.found = (updates, .ok verdict))
    (failed : verdict.status = .failed) :
    (∃ failure, invocation.call.2 = .error failure ∧ updates = invocation.call.1) ∨
      (∃ answer, invocation.call.2 = .ok answer ∧ answer.status = .failed ∧
        updates = invocation.call.1) ∨
      ∃ answer, invocation.call.2 = .ok answer ∧ answer.status = .completed ∧
        verdict.retryability = .nonRetryable := by
  rcases ended : invocation.call.2 with failure | answer
  · rw [judged_raised ended] at judged
    cases judged
    exact .inl ⟨failure, rfl, rfl⟩
  · have routedAnswer := result_of_answered ended
    by_cases completed : answer.status = .completed
    · right; right
      have same : invocation.result.status = .completed := by rw [routedAnswer]; exact completed
      exact ⟨answer, rfl, completed, rejected_nonRetryable same judged failed⟩
    · have other : invocation.result.status ≠ .completed := by rw [routedAnswer]; exact completed
      rw [judged_uncompleted other] at judged
      cases judged
      right; left
      rw [routedAnswer] at failed
      exact ⟨answer, rfl, failed, rfl⟩

theorem neutral_of_contained
    (clean : FailsCleanly invocation.provider) (contained : Contained env invocation)
    (judged : invocation.judged env invocation.found = (updates, .ok verdict))
    (failed : verdict.status = .failed) (reported : Reported verdict) :
    Neutral invocation.found updates := by
  rcases failed_cases judged failed with ⟨failure, raised, rfl⟩ | ⟨answer, answered, own, rfl⟩ |
    ⟨answer, answered, completed, _⟩
  · exact contained.raised failure raised
  · exact clean _ _ _ _ answer (Prod.ext rfl answered) own
  · exact contained.rejected answer updates verdict answered completed judged failed reported

/-- What the claim of a failed run says of its calls. -/
structure CallsContained (files : Files) (made : List Invocation)
    (outcome : Except PyExc RuntimeExecutionResult) (final : Files) : Prop where
  ended : ∀ verdict, outcome = .ok verdict → verdict.status = .failed → Reported verdict →
    Same final files
  restarted : ∀ invocation ∈ made, Same invocation.found files

theorem Calls.restarts {final : Files} {made : List Invocation}
    {outcome : Except PyExc RuntimeExecutionResult} (calls : Calls env files made outcome final) :
    ∃ invocation ∈ made, invocation.found = files := by
  cases calls with
  | last found _ => exact ⟨_, List.mem_singleton_self _, found⟩
  | next found _ _ _ _ => exact ⟨_, List.mem_cons_self, found⟩

theorem calls_contained_iff {final : Files} {made : List Invocation}
    {outcome : Except PyExc RuntimeExecutionResult} (calls : Calls env files made outcome final)
    (clean : ∀ invocation ∈ made, FailsCleanly invocation.provider) :
    CallsContained files made outcome final ↔ ∀ invocation ∈ made, Contained env invocation := by
  induction calls with
  | @last files invocation updates outcome found judged =>
    subst found
    simp only [List.forall_mem_singleton] at clean ⊢
    constructor
    · intro kept
      constructor
      · intro failure raised
        have own : invocation.judged env invocation.found =
            (invocation.call.1, .ok invocation.result) := judged_raised raised invocation.found
        rw [judged] at own
        cases own
        have ⟨failed, reported⟩ := reported_of_raised raised
        exact (same_applyAll_iff _ _).mp (kept.ended _ rfl failed reported)
      · intro answer made verdict _ _ known failed reported
        rw [judged] at known
        cases known
        exact (same_applyAll_iff _ _).mp (kept.ended _ rfl failed reported)
    · intro contained
      constructor
      · intro verdict returned failed reported
        rw [returned] at judged
        exact (same_applyAll_iff _ _).mpr
          (neutral_of_contained clean contained judged failed reported)
      · intro other member
        rw [List.mem_singleton.mp member]
        exact fun key => rfl
  | @next files final invocation updates result rest outcome found judged failed again later ih =>
    subst found
    simp only [List.forall_mem_cons] at clean ⊢
    have unrejected : ¬ result.retryability = .nonRetryable := by
      intro final
      rw [final] at again
      revert again
      decide
    have sameAs := ih clean.2
    constructor
    · intro kept
      obtain ⟨first, member, foundLater⟩ := later.restarts
      have back := kept.restarted first (List.mem_cons_of_mem _ member)
      rw [foundLater] at back
      have neutral := (same_applyAll_iff _ _).mp back
      refine ⟨⟨?_, ?_⟩, sameAs.mp ⟨?_, ?_⟩⟩
      · intro failure raised
        have own : invocation.judged env invocation.found =
            (invocation.call.1, .ok invocation.result) := judged_raised raised invocation.found
        rw [judged] at own
        cases own
        exact neutral
      · intro answer made verdict answered completed known _ _
        rw [judged] at known
        cases known
        exact neutral
      · intro verdict returned failed reported
        exact same_trans (kept.ended verdict returned failed reported) (same_symm back)
      · intro other inside
        exact same_trans (kept.restarted other (List.mem_cons_of_mem _ inside)) (same_symm back)
    · rintro ⟨contained, others⟩
      have neutral : Neutral invocation.found updates := by
        rcases failed_cases judged failed with ⟨failure, raised, rfl⟩ | ⟨answer, answered, own, rfl⟩ |
          ⟨_, _, _, final⟩
        · exact contained.raised failure raised
        · exact clean.1 _ _ _ _ answer (Prod.ext rfl answered) own
        · exact absurd final unrejected
      have back := (same_applyAll_iff _ _).mpr neutral
      have kept := sameAs.mpr others
      constructor
      · intro verdict returned failed reported
        exact same_trans (kept.ended verdict returned failed reported) back
      · intro other member
        rcases List.mem_cons.mp member with rfl | inside
        · exact fun key => rfl
        · exact same_trans (kept.restarted other inside) back

/-- A failed execution leaves the workspace as it was, and each call starts from there. -/
structure FailureLeavesNothing (router : ModelExecutionRouter) (context : RuntimeExecutionContext)
    (store : Store) (files : Files) : Prop where
  ended : ∀ result, (exec (execute router context) (starting store files)).1 = .ok result →
    result.outcome = .failed →
      Same (exec (execute router context) (starting store files)).2.files files
  restarted : ∀ invocation ∈ (exec (execute router context) (starting store files)).2.invocations,
    Same invocation.found files

/-- An attended mutation of the notes. -/
def writeNotes : Dict := [("item_id", .str "first")]

/-- A local model that writes the notes and reports completion without verification. -/
def hastyProvider : Provider where
  registration := qwenRegistration
  isAvailable := .ok true
  invoke := fun _ request => do
    Journal.made [("notes.md", some (utf8 "Notes\n"))]
    return { executionId := request.executionId, providerId := "ollama-local", status := .completed }

def hastyRouter : ModelExecutionRouter :=
  ⟨plainSettings, ⟨[hastyProvider], List.nodup_singleton _⟩, plainGates⟩

theorem hastyRouter_failsCleanly :
    ∀ provider ∈ hastyRouter.registry.registered, FailsCleanly provider := by
  intro provider member
  rw [List.mem_singleton.mp member]
  intro number request files updates answer done failed
  cases done
  cases failed

end Lucius.Router
