import Lucius.Runtime.FailedExecution

/-! The frozen checks of files when an execution is completed.

A provider verifies the checks before it returns; what is written after that, by the
provider or by the schema gate, is not verified again. -/

namespace Lucius.Router

open Worktree Updates Lucius.Action Acceptance

/-- The workspace meets a check of a file. -/
def Accepts (checkout : Checkout) (files : Files) : Check → Prop
  | .commandSucceeds _ _ => True
  | .fileExists path => ∃ verified, verifyExists checkout files path = .ok verified
  | .text type path expected => ∃ verified, verifyTextCheck checkout files type path expected = .ok verified

/-- The content at the location of a check meets it. -/
def contentMeets (check : Check) (content : Option Bytes) : Bool :=
  match check, content with
  | .commandSucceeds _ _, _ => true
  | _, none => false
  | .fileExists _, some _ => true
  | .text type path expected, some bytes =>
    let actual := universalNewlines false bytes
    validUtf8 bytes &&
      (verifyText type path (utf8 expected) actual (workspaceFailure path (utf8 expected) actual)).toBool

def checkLocation (checkout : Checkout) (check : Check) : Option String :=
  check.path?.bind checkout.resolve

theorem toBool_iff {ε α : Type} (result : Except ε α) :
    result.toBool = true ↔ ∃ value, result = .ok value := by
  cases result with
  | error error => simp [Except.toBool]
  | ok value => simp [Except.toBool]

theorem accepts_iff (checkout : Checkout) (files : Files) (check : Check) :
    Accepts checkout files check ↔ check.path? = none ∨
      ∃ location, checkLocation checkout check = some location ∧
        contentMeets check (files.lookup location) = true := by
  cases check with
  | commandSucceeds argv timeout => simp [Accepts, Check.path?]
  | fileExists path =>
    simp only [Accepts, Check.path?, checkLocation, Option.bind_some, reduceCtorEq, false_or]
    unfold verifyExists acceptanceTarget
    cases checkout.resolve path with
    | none => simp [bind, Except.bind]
    | some location =>
      cases found : files.lookup location with
      | none => simp [found, contentMeets, bind, Except.bind]
      | some bytes => simp [found, contentMeets, bind, Except.bind, pure, Except.pure]
  | text type path expected =>
    simp only [Accepts, Check.path?, checkLocation, Option.bind_some, reduceCtorEq, false_or]
    unfold verifyTextCheck acceptanceTarget
    cases checkout.resolve path with
    | none => simp [bind, Except.bind]
    | some location =>
      cases found : files.lookup location with
      | none => simp [found, contentMeets, bind, Except.bind]
      | some bytes =>
        cases valid : validUtf8 bytes with
        | false =>
          simp [found, contentMeets, valid, bind, Except.bind, throw, throwThe,
            MonadExceptOf.throw]
        | true => simp [found, contentMeets, valid, bind, Except.bind, toBool_iff]

/-- The updates leave the location of the check as it was, or with a content that meets it. -/
def KeepsAccepted (checkout : Checkout) (check : Check) (updates : List FileUpdate) : Prop :=
  ∀ location content, checkLocation checkout check = some location →
    last updates location = some content → contentMeets check content = true

theorem accepts_applyAll_iff {checkout : Checkout} {files : Files} {check : Check}
    (accepted : Accepts checkout files check) (updates : List FileUpdate) :
    Accepts checkout (applyAll files updates) check ↔ KeepsAccepted checkout check updates := by
  rw [accepts_iff] at accepted ⊢
  rcases accepted with command | ⟨location, resolved, meets⟩
  · constructor
    · intro _ location content resolved _
      rw [checkLocation, command] at resolved
      cases resolved
    · intro _
      exact .inl command
  · constructor
    · rintro (command | ⟨other, same, now⟩) place content known written
      · rw [checkLocation, command] at resolved
        cases resolved
      · have here : other = place := Option.some.inj (same.symm.trans known)
        rw [here, lookup_applyAll, written] at now
        exact now
    · intro kept
      refine .inr ⟨location, resolved, ?_⟩
      rw [lookup_applyAll]
      cases written : last updates location with
      | none => exact meets
      | some content => exact kept location content resolved written

/-- At some point of a call that completes, each frozen check was met. -/
def Verifies (checkout : Checkout) (provider : Provider) : Prop :=
  ∀ number request files updates answer, provider.invoke number request files = (updates, .ok answer) →
    answer.status = .completed → ∀ check ∈ request.deterministicAcceptanceChecks,
      ∃ front back, updates = front ++ back ∧ Accepts checkout (applyAll files front) check

/-- The repairs of the schema gate after a call. -/
def Invocation.repairs (env : GateEnvironment) (invocation : Invocation) : List FileUpdate :=
  (enforceSchemaConstrainedOutput env invocation.request invocation.result invocation.left).1

/-- What is written once a check was met, in the rest of the call and by the repairs that
follow it, still meets the check. -/
def Undisturbed (env : GateEnvironment) (invocation : Invocation) : Prop :=
  ∀ check ∈ invocation.request.deterministicAcceptanceChecks, ∀ front back,
    invocation.call.1 = front ++ back → Accepts env.checkout (applyAll invocation.found front) check →
      KeepsAccepted env.checkout check (back ++ invocation.repairs env)

/-- The call completes, passes the gates, and the loop is told so. -/
structure Completes (env : GateEnvironment) (invocation : Invocation)
    (verdict : RuntimeExecutionResult) : Prop where
  judged : (invocation.judged env invocation.found).2 = .ok verdict
  completed : verdict.status = .completed
  reported : Reported verdict

theorem enforceQuality_journal (env : GateEnvironment) (request : RuntimeExecutionRequest)
    (result : RuntimeExecutionResult) (files : Files) :
    (enforceQuality env request result files).1 = [] := by
  unfold enforceQuality
  split
  · rfl
  · rw [Journal.read_bind_apply]
    cases issues : evidenceSensitiveProviderQualityIssues env request result files with
    | error error => rw [Journal.ofExcept_bind_error rfl]
    | ok found =>
      rw [Journal.ofExcept_bind_ok rfl]
      split <;> rfl

theorem Completes.answered {env : GateEnvironment} {invocation : Invocation}
    {verdict : RuntimeExecutionResult} (completes : Completes env invocation verdict) :
    ∃ answer, invocation.call.2 = .ok answer ∧ answer.status = .completed := by
  rcases ended : invocation.call.2 with failure | answer
  · have judged := completes.judged
    rw [judged_raised ended, Except.ok.injEq] at judged
    have failed := (reported_of_raised ended).1
    rw [judged, completes.completed] at failed
    cases failed
  · refine ⟨answer, rfl, ?_⟩
    by_contra other
    have same := result_of_answered ended
    have uncompleted : invocation.result.status ≠ .completed := by rw [same]; exact other
    have judged := completes.judged
    rw [judged_uncompleted uncompleted, Except.ok.injEq] at judged
    rw [judged] at uncompleted
    exact uncompleted completes.completed

theorem Completes.updates {env : GateEnvironment} {invocation : Invocation}
    {verdict : RuntimeExecutionResult} (completes : Completes env invocation verdict) :
    (invocation.judged env invocation.found).1 = invocation.call.1 ++ invocation.repairs env := by
  have judged := completes.judged
  unfold Invocation.judged at judged ⊢
  rw [Journal.bind_apply_ok (Journal.made_apply _ _)] at judged ⊢
  have afterCall : applyAll invocation.found invocation.call.1 = invocation.left := rfl
  rw [afterCall] at judged ⊢
  dsimp only at judged ⊢
  congr 1
  unfold enforceProviderResultContract at judged ⊢
  split at judged
  · cases judged
    cases completes.completed
  · rename_i verified
    rw [if_neg verified]
    rcases schema : enforceSchemaConstrainedOutput env invocation.request invocation.result
      invocation.left with ⟨updates, error | enforced⟩
    · rw [Journal.bind_apply_error schema] at judged
      cases judged
    · rw [Journal.bind_apply_ok schema, enforceQuality_journal, Invocation.repairs, schema,
        List.append_nil]

/-- Where the provider verifies, a completed call ends with its checks met exactly when
nothing disturbs them. -/
theorem completed_accepts_iff {env : GateEnvironment} {invocation : Invocation}
    {verdict : RuntimeExecutionResult} (verifies : Verifies env.checkout invocation.provider)
    (completes : Completes env invocation verdict) :
    (∀ check ∈ invocation.request.deterministicAcceptanceChecks,
      Accepts env.checkout
        (applyAll invocation.found (invocation.judged env invocation.found).1) check) ↔
      Undisturbed env invocation := by
  rw [completes.updates]
  constructor
  · intro accepted check member front back split met
    have now := accepted check member
    rw [split, List.append_assoc, applyAll_append] at now
    exact (accepts_applyAll_iff met _).mp now
  · intro undisturbed check member
    obtain ⟨answer, answered, completed⟩ := completes.answered
    obtain ⟨front, back, split, met⟩ : ∃ front back, invocation.call.1 = front ++ back ∧
        Accepts env.checkout (applyAll invocation.found front) check :=
      verifies _ _ _ _ answer (Prod.ext rfl answered) completed check member
    rw [split, List.append_assoc, applyAll_append]
    exact (accepts_applyAll_iff met _).mpr (undisturbed check member front back split met)

theorem Calls.ends {env : GateEnvironment} {files final : Files} {made : List Invocation}
    {outcome : Except PyExc RuntimeExecutionResult} (calls : Calls env files made outcome final) :
    ∃ invocation ∈ made, (invocation.judged env invocation.found).2 = outcome ∧
      final = applyAll invocation.found (invocation.judged env invocation.found).1 := by
  induction calls with
  | last found judged =>
    refine ⟨_, List.mem_singleton_self _, ?_⟩
    rw [found, judged]
    exact ⟨rfl, rfl⟩
  | next found judged failed again later ih =>
    obtain ⟨invocation, member, ended⟩ := ih
    exact ⟨invocation, List.mem_cons_of_mem _ member, ended⟩

theorem Calls.completes_last {env : GateEnvironment} {files final : Files} {made : List Invocation}
    {outcome : Except PyExc RuntimeExecutionResult} (calls : Calls env files made outcome final)
    {invocation : Invocation} (member : invocation ∈ made) {verdict : RuntimeExecutionResult}
    (completes : Completes env invocation verdict) :
    outcome = .ok verdict ∧
      final = applyAll invocation.found (invocation.judged env invocation.found).1 := by
  have ended := completes.judged
  induction calls with
  | last found judged =>
    rw [List.mem_singleton] at member
    subst member
    rw [found, judged] at ended ⊢
    exact ⟨ended, rfl⟩
  | next found judged failed again later ih =>
    rcases List.mem_cons.mp member with here | inside
    · subst here
      rw [found, judged] at ended
      cases ended
      rw [completes.completed] at failed
      cases failed
    · exact ih inside

/-- A completed execution returns with the frozen checks of files met. -/
def AcceptedAtReturn (router : ModelExecutionRouter) (context : RuntimeExecutionContext)
    (store : Store) (files : Files) : Prop :=
  ∀ request result, Requested router.settings context store request →
    (exec (execute router context) (starting store files)).1 = .ok result →
      result.outcome = .completed → ∀ check ∈ request.deterministicAcceptanceChecks,
        Accepts router.gates.checkout
          (exec (execute router context) (starting store files)).2.files check

/-- An attended mutation of the notes, which have to name their sources. -/
def structuredNotes : Dict :=
  [("item_id", .str "first"),
    ("context_limits", .obj [("schema_constraint", .obj [("files", .arr [.obj [
      ("path", .str "notes.md"), ("required_sections", .arr [.str "## Sources"]),
      ("allow_safe_structural_repair", .bool true)]])])])]

/-- The notes are frozen to one line. -/
def oneLinePayload : Dict :=
  [("affected_files", .arr [.obj [("path", .str "notes.md")]]),
    ("deterministic_acceptance_checks", .arr [.obj [("type", .str "exact_file_content"),
      ("path", .str "notes.md"), ("expected_text", .str "Notes\n")]])]

def writtenNotes : List FileUpdate := [("notes.md", some (utf8 "Notes\n"))]

/-- A local model that writes the notes, and completes when they meet all checks. -/
def carefulProvider : Provider where
  registration := qwenRegistration
  isAvailable := .ok true
  invoke := fun _ request files =>
    let answer : RuntimeExecutionResult :=
      { executionId := request.executionId, providerId := "ollama-local", status := .completed
        verification := [[("type", .str "deterministic_acceptance")]] }
    if request.deterministicAcceptanceChecks.all (fun check => match check.path? with
        | none => true
        | some path => contentMeets check ((applyAll files writtenNotes).lookup path)) then
      (writtenNotes, .ok answer)
    else ([], .ok { answer with status := .failed })

def carefulRouter : ModelExecutionRouter :=
  ⟨plainSettings, ⟨[carefulProvider], List.nodup_singleton _⟩, plainGates⟩

theorem carefulRouter_verifies : ∀ provider ∈ carefulRouter.registry.registered,
    Verifies carefulRouter.gates.checkout provider := by
  intro provider member
  rw [List.mem_singleton.mp member]
  intro number request files updates answer done completed check asked
  change (if _ then _ else _) = _ at done
  split at done
  · rename_i accepted
    cases done
    refine ⟨writtenNotes, [], rfl, ?_⟩
    have met := List.all_eq_true.mp accepted check asked
    rw [accepts_iff]
    cases path : check.path? with
    | none => exact .inl rfl
    | some path' =>
      rw [path] at met
      exact .inr ⟨path', by rw [checkLocation, path]; rfl, met⟩
  · cases done
    cases completed

def exactNotes : Check := .text .exactFileContent "notes.md" "Notes\n"

end Lucius.Router
