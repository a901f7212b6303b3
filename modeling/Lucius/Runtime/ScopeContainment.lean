import Lucius.Runtime.FailedExecution
import Lucius.Runtime.OllamaProvider
import Lucius.Runtime.ProviderMutation

/-! Which files an execution changes, when the local provider does the work.

The provider writes to the paths of the request alone. The commands of acceptance
checks, a rollback that fails and the repairs of the schema gate write where they
will. -/

namespace Lucius.Ollama

open Worktree Updates

/-- The location is that of an authorized path. -/
def Authorized (checkout : Checkout) (paths : List String) (location : String) : Prop :=
  ∃ path ∈ paths, checkout.resolve path = some location

theorem validateFileItems_authorized {checkout : Checkout} {authorized seen : List String}
    {limit : Option Nat} {items : List FileItem} {validated : List ValidatedFileContent}
    (done : validateFileItems checkout authorized limit seen items = .ok validated) :
    ∀ file ∈ validated, Authorized checkout authorized file.location := by
  induction items generalizing seen validated with
  | nil =>
    cases done
    intro file member
    cases member
  | cons item rest ih =>
    cases item with
    | malformed => cases done
    | item rawPath content =>
      obtain ⟨path, _, afterPath⟩ := except_bind_ok done
      split at afterPath
      · cases afterPath
      · split at afterPath
        · cases afterPath
        · rename_i inside
          cases content with
          | none => cases afterPath
          | some text =>
            dsimp only at afterPath
            split at afterPath
            · cases afterPath
            · obtain ⟨location, located, afterLocation⟩ := except_bind_ok afterPath
              obtain ⟨others, later, built⟩ := except_bind_ok afterLocation
              cases built
              intro file member
              rcases List.mem_cons.mp member with rfl | other
              · exact ⟨path, not_not.mp inside, locate_ok located⟩
              · exact ih later file other

theorem validatedChanges_authorized {env : ProviderEnvironment} {files : Files} {payload : Dict}
    {paths : List String} {validated : List ValidatedFileContent}
    (done : validatedChanges env files payload paths = .ok validated) :
    ∀ file ∈ validated, Authorized env.checkout paths file.location := by
  obtain ⟨_, _, afterRead⟩ := except_bind_ok done
  obtain ⟨items, _, afterItems⟩ := except_bind_ok afterRead
  split at afterItems
  · cases afterItems
  · split at afterItems
    · cases afterItems
    · split at afterItems
      · cases afterItems
      · unfold validateFileContents at afterItems
        rcases ended : (failing (env.fault .validation) >>= fun _ =>
          if items.isEmpty then throw (.gitMutation "NO_FILE_CONTENTS"
            "No file contents were supplied for integration.")
          else validateFileItems env.checkout paths (some env.settings.maxFileBytes) [] items) with
          error | found
        · rw [ended] at afterItems
          cases afterItems
        · rw [ended] at afterItems
          cases afterItems
          obtain ⟨_, _, listed⟩ := except_bind_ok ended
          split at listed
          · cases listed
          · exact validateFileItems_authorized listed

theorem writeFile_writes (host : Host) (faults : WriteFaults) (item : ValidatedFileContent) :
    Journal.Writes (fun update => update.1 = item.location) (writeFile host faults item) := by
  intro contents update member
  unfold writeFile at member
  split at member
  · cases member
  · cases attempt : faults.write item.path with
    | none =>
      rw [attempt] at member
      rw [List.mem_singleton.mp member]
      rfl
    | some left =>
      rw [attempt] at member
      obtain ⟨bytes, _, rfl⟩ := List.mem_map.mp member
      rfl

theorem writeValidated_writes {host : Host} {faults : WriteFaults} {allowed : String → Prop}
    {items : List ValidatedFileContent} (listed : ∀ file ∈ items, allowed file.location) :
    Journal.Writes (fun update => allowed update.1) (writeValidatedFileContents host faults items) := by
  induction items with
  | nil => exact Journal.writes_pure _
  | cons item rest ih =>
    apply Journal.writes_bind
    · intro contents update member
      rw [writeFile_writes host faults item contents update member]
      exact listed item List.mem_cons_self
    · intro _ _ _ _
      apply Journal.writes_bind
      · exact ih (fun file member => listed file (List.mem_cons_of_mem _ member))
      · intro _ _ _ _
        exact Journal.writes_pure _

theorem applyFileChanges_writes (env : ProviderEnvironment) (payload : Dict) (paths : List String) :
    Journal.Writes (fun update => Authorized env.checkout paths update.1)
      (applyFileChanges env payload paths) := by
  apply Journal.writes_read_bind
  intro files
  refine Journal.writes_bind (Journal.writes_ofExcept _) ?_
  intro contents updates validated known
  have listed := validatedChanges_authorized (Journal.ok_ofExcept known).1
  exact Journal.writes_mapError (writeValidated_writes listed)

/-- What the commands of the checks write while a mutation is verified. -/
def acceptanceStrays (env : ProviderEnvironment) (request : RuntimeExecutionRequest) (payload : Dict)
    (files : Files) : List FileUpdate :=
  match applyFileChanges env payload request.allowedMutationPaths files with
  | (_, .error _) => []
  | (updates, .ok written) =>
    match verifyScope env request written (applyAll files updates) with
    | .error _ => []
    | .ok () => (verifyAcceptance env request (applyAll files updates)).1

/-- What a rollback that fails has written. -/
def rollbackStrays (env : ProviderEnvironment) (request : RuntimeExecutionRequest)
    (body payload : Dict) (files : Files) : List FileUpdate :=
  match mutateWorkspace env request body payload files with
  | (updates, .error (.blocked _ _ _)) =>
    match restoreCleanWorkspace env (applyAll files updates) with
    | (_, .ok ()) => []
    | (back, .error _) => back
  | _ => []

theorem mutateWorkspace_journal (env : ProviderEnvironment) (request : RuntimeExecutionRequest)
    (body payload : Dict) (files : Files) :
    (mutateWorkspace env request body payload files).1 =
      (applyFileChanges env payload request.allowedMutationPaths files).1 ++
        acceptanceStrays env request payload files := by
  unfold mutateWorkspace acceptanceStrays
  rcases edits : applyFileChanges env payload request.allowedMutationPaths files with
    ⟨updates, error | written⟩
  · rw [Journal.bind_apply_error edits]
    exact (List.append_nil updates).symm
  · rw [Journal.bind_apply_ok edits, Journal.read_bind_apply]
    cases scope : verifyScope env request written (applyAll files updates) with
    | error error =>
      rw [Journal.ofExcept_bind_error rfl]
      dsimp only
      rw [scope]
    | ok checked =>
      rw [Journal.ofExcept_bind_ok rfl]
      dsimp only
      rw [scope]
      rcases accepted : verifyAcceptance env request (applyAll files updates) with
        ⟨strays, error | verified⟩
      · rw [Journal.bind_apply_error accepted]
      · rw [Journal.bind_apply_ok accepted, Journal.ofExcept_apply, List.append_nil]

theorem restored_confined {env : ProviderEnvironment} {files left : Files} {back : List FileUpdate}
    {inside : String → Prop} (clean : CleanStart env.checkout files)
    (done : restoreCleanWorkspace env left = (back, .ok ())) : Confined inside files back := by
  rw [restoreCleanWorkspace_updates done]
  intro update member
  right
  rcases List.mem_append.mp member with reset | cleaned
  · obtain ⟨bytes, entry, written⟩ := mem_resetUpdates.mp (show (update.1, update.2) ∈ _ from reset)
    have unchanged : update.1 ∉ env.checkout.diff files := by
      rw [clean.tracked]
      exact List.not_mem_nil
    rw [env.checkout.diff_regular files update.1 bytes entry, not_not] at unchanged
    rw [written, unchanged]
  · obtain ⟨listed, written⟩ := mem_cleanUpdates.mp (show (update.1, update.2) ∈ _ from cleaned)
    obtain ⟨_, untracked, visible⟩ := (env.checkout.others_iff _ _).mp listed
    have absent : update.1 ∉ env.checkout.others files := by
      rw [clean.untracked]
      exact List.not_mem_nil
    rw [written]
    by_contra present
    apply absent
    rw [env.checkout.others_iff]
    exact ⟨.inl (Option.isSome_iff_ne_none.mpr (Ne.symm present)), untracked, visible⟩

/-- The updates of a call that are not edits of its response, nor undo them. -/
def strays (env : ProviderEnvironment) (request : RuntimeExecutionRequest) (files : Files) :
    List FileUpdate :=
  match answered env request files with
  | .error _ => []
  | .ok (body, payload) =>
    acceptanceStrays env request payload files ++ rollbackStrays env request body payload files

theorem invoke_confined_iff {env : ProviderEnvironment} {request : RuntimeExecutionRequest}
    {files start : Files} {inside : String → Prop}
    (authorized : ∀ location, Authorized env.checkout request.allowedMutationPaths location →
      inside location) (agree : AgreeOutside inside files start) :
    Confined inside start (invoke env request files).1 ↔
      Confined inside start (strays env request files) := by
  unfold strays
  cases known : answered env request files with
  | error error => rw [invoke_unanswered known]
  | ok answer =>
    obtain ⟨body, payload⟩ := answer
    have edits : Confined inside start
        (applyFileChanges env payload request.allowedMutationPaths files).1 :=
      confined_of_inside (fun update member =>
        authorized _ (applyFileChanges_writes env payload _ files update member))
    have journal := mutateWorkspace_journal env request body payload files
    rw [invoke_answered known, Journal.attempt_bind_apply]
    dsimp only
    rw [confined_append_iff, confined_append_iff]
    unfold rollbackStrays
    rcases mutated : mutateWorkspace env request body payload files with ⟨updates, error | result⟩
    · rw [mutated] at journal
      dsimp only at journal ⊢
      have own : Confined inside start updates ↔
          Confined inside start (acceptanceStrays env request payload files) := by
        rw [journal, confined_append_iff]
        exact and_iff_right edits
      rw [own]
      apply and_congr_right
      intro _
      cases error with
      | blocked failureClass message retryability =>
        rw [mutationFailure_blocked]
        dsimp only
        rcases restored : restoreCleanWorkspace env (applyAll files updates) with ⟨back, failure | _⟩
        · cases failure <;> exact Iff.rfl
        · have kept : Confined inside files back := restored_confined (answered_clean known) restored
          exact iff_of_true ((confined_congr agree back).mp kept) confined_nil
      | _ => exact Iff.rfl
    · rw [mutated] at journal
      dsimp only at journal ⊢
      have own : Confined inside start updates ↔
          Confined inside start (acceptanceStrays env request payload files) := by
        rw [journal, confined_append_iff]
        exact and_iff_right edits
      rw [own]
      exact Iff.rfl

end Lucius.Ollama

namespace Lucius.Router

open Worktree Updates Lucius.Action Ollama

/-- Only the paths of a mutation request are in scope. -/
def InScope (checkout : Checkout) (request : RuntimeExecutionRequest) (location : String) : Prop :=
  request.readOnly = false ∧ Authorized checkout request.allowedMutationPaths location

theorem inScope_of_sameAsk {first second : RuntimeExecutionRequest} (same : SameAsk first second)
    (checkout : Checkout) : InScope checkout second = InScope checkout first := by
  obtain ⟨_, _, rfl⟩ := same
  rfl

/-- The updates of a call that are not edits of its response, nor undo them. -/
def OllamaExecutionProvider.strays (ollama : OllamaExecutionProvider) (workspace : Checkout)
    (number : Nat) (request : RuntimeExecutionRequest) (files : Files) : List FileUpdate :=
  if request.readOnly then []
  else Ollama.strays (ollama.meets workspace number) (mutationRequest request) files

theorem invoke_journal (ollama : OllamaExecutionProvider) (workspace : Checkout) (number : Nat)
    (request : RuntimeExecutionRequest) (files : Files) :
    (ollama.invoke workspace number request files).1 =
      if request.readOnly then []
      else (Ollama.invoke (ollama.meets workspace number) (mutationRequest request) files).1 := by
  unfold OllamaExecutionProvider.invoke
  rw [Journal.read_bind_apply]
  split
  · rfl
  · rcases ended : Ollama.invoke (ollama.meets workspace number) (mutationRequest request) files with
      ⟨updates, error | result⟩
    · rw [Journal.bind_apply_error (show Journal.mapError _ _ files = (updates, .error _) by
        rw [Journal.mapError, ended]; rfl)]
    · rw [Journal.bind_apply_ok (show Journal.mapError _ _ files = (updates, .ok result) by
        rw [Journal.mapError, ended]; rfl)]
      exact List.append_nil updates

theorem call_confined_iff (ollama : OllamaExecutionProvider) (workspace : Checkout) (number : Nat)
    (request : RuntimeExecutionRequest) {files start : Files}
    (agree : AgreeOutside (InScope workspace request) files start) :
    Confined (InScope workspace request) start (ollama.invoke workspace number request files).1 ↔
      Confined (InScope workspace request) start (ollama.strays workspace number request files) := by
  rw [invoke_journal, OllamaExecutionProvider.strays]
  split
  · exact Iff.rfl
  · rename_i mutation
    apply Ollama.invoke_confined_iff _ agree
    intro location authorized
    exact ⟨by simpa using mutation, authorized⟩

/-- What the gates write. -/
def Invocation.gateUpdates (env : GateEnvironment) (invocation : Invocation) : List FileUpdate :=
  (enforceProviderResultContract env invocation.request invocation.result invocation.left).1

/-- The updates of a call and of the gates after it. -/
def Invocation.journal (env : GateEnvironment) (invocation : Invocation) : List FileUpdate :=
  (invocation.judged env invocation.found).1

theorem journal_eq (env : GateEnvironment) (invocation : Invocation) :
    invocation.journal env = invocation.call.1 ++ invocation.gateUpdates env := by
  unfold Invocation.journal Invocation.judged
  rw [Journal.bind_apply_ok (Journal.made_apply _ _)]
  rfl

theorem calls_agree {env : GateEnvironment} {files start final : Files} {made : List Invocation}
    {outcome : Except PyExc RuntimeExecutionResult} {inside : String → Prop}
    (calls : Calls env files made outcome final) (agree : AgreeOutside inside files start)
    (confined : ∀ invocation ∈ made, Confined inside start (invocation.journal env)) :
    AgreeOutside inside final start ∧
      ∀ invocation ∈ made, AgreeOutside inside invocation.found start := by
  induction calls with
  | @last files invocation updates outcome found judged =>
    subst found
    simp only [List.forall_mem_singleton] at confined ⊢
    rw [Invocation.journal, judged] at confined
    exact ⟨applyAll_agrees agree confined, agree⟩
  | @next files final invocation updates result rest outcome found judged failed again later ih =>
    subst found
    rw [List.forall_mem_cons] at confined ⊢
    rw [Invocation.journal, judged] at confined
    obtain ⟨ended, others⟩ := ih (applyAll_agrees agree confined.1) confined.2
    exact ⟨ended, agree, others⟩

/-- Where it can be said of each call whether its updates are confined, it can be said of
all of them. -/
theorem calls_confined_iff {env : GateEnvironment} {files start final : Files}
    {made : List Invocation} {outcome : Except PyExc RuntimeExecutionResult} {inside : String → Prop}
    {Holds : Invocation → Prop} (calls : Calls env files made outcome final)
    (agree : AgreeOutside inside files start)
    (each : ∀ invocation ∈ made, AgreeOutside inside invocation.found start →
      (Confined inside start (invocation.journal env) ↔ Holds invocation)) :
    (∀ invocation ∈ made, Confined inside start (invocation.journal env)) ↔
      ∀ invocation ∈ made, Holds invocation := by
  induction calls with
  | @last files invocation updates outcome found judged =>
    subst found
    simp only [List.forall_mem_singleton] at each ⊢
    exact each agree
  | @next files final invocation updates result rest outcome found judged failed again later ih =>
    subst found
    rw [List.forall_mem_cons] at each
    simp only [List.forall_mem_cons]
    have head := each.1 agree
    constructor
    · rintro ⟨confined, others⟩
      refine ⟨head.mp confined, ?_⟩
      rw [Invocation.journal, judged] at confined
      exact (ih (applyAll_agrees agree confined) each.2).mp others
    · rintro ⟨holds, others⟩
      have confined := head.mpr holds
      refine ⟨confined, ?_⟩
      rw [Invocation.journal, judged] at confined
      exact (ih (applyAll_agrees agree confined) each.2).mpr others

/-- From its start to its return, an execution has changed nothing out of the scope of
its request. -/
structure ScopeContained (router : ModelExecutionRouter) (context : RuntimeExecutionContext)
    (store : Store) (files : Files) (request : RuntimeExecutionRequest) : Prop where
  during : ∀ invocation ∈ (exec (execute router context) (starting store files)).2.invocations,
    ∀ front back, invocation.journal router.gates = front ++ back →
      AgreeOutside (InScope router.gates.checkout request) (applyAll invocation.found front) files
  returned : AgreeOutside (InScope router.gates.checkout request)
    (exec (execute router context) (starting store files)).2.files files

def ollamaRouter (settings : RouterSettings) (gates : GateEnvironment)
    (ollama : List OllamaExecutionProvider)
    (unique : (ollama.map (·.registration.providerId)).Nodup) : ModelExecutionRouter :=
  ⟨settings, ⟨ollama.map (·.provider gates.checkout), by rwa [List.map_map]⟩, gates⟩

/-- A call of one of the providers writes out of scope neither by a command of a check,
nor by a rollback that fails, nor by the gates, unless what was there at the start. -/
def StaysInScope (gates : GateEnvironment) (ollama : List OllamaExecutionProvider) (start : Files)
    (request : RuntimeExecutionRequest) (invocation : Invocation) : Prop :=
  (∀ worker ∈ ollama, invocation.provider = worker.provider gates.checkout →
    Confined (InScope gates.checkout request) start
      (worker.strays gates.checkout invocation.number invocation.request invocation.found)) ∧
    Confined (InScope gates.checkout request) start (invocation.gateUpdates gates)

theorem staysInScope_iff {gates : GateEnvironment} {ollama : List OllamaExecutionProvider}
    {start : Files} {request : RuntimeExecutionRequest} {invocation : Invocation}
    (same : SameAsk request invocation.request)
    (worked : ∃ worker ∈ ollama, invocation.provider = worker.provider gates.checkout)
    (agree : AgreeOutside (InScope gates.checkout request) invocation.found start) :
    Confined (InScope gates.checkout request) start (invocation.journal gates) ↔
      StaysInScope gates ollama start request invocation := by
  have scope := inScope_of_sameAsk same gates.checkout
  have calls : ∀ worker : OllamaExecutionProvider,
      invocation.provider = worker.provider gates.checkout →
        (Confined (InScope gates.checkout request) start invocation.call.1 ↔
          Confined (InScope gates.checkout request) start
            (worker.strays gates.checkout invocation.number invocation.request invocation.found)) := by
    intro worker asked
    rw [← scope] at agree ⊢
    rw [Invocation.call, asked]
    exact call_confined_iff worker gates.checkout invocation.number invocation.request agree
  rw [journal_eq, confined_append_iff, StaysInScope]
  apply and_congr_left
  intro _
  constructor
  · intro confined worker _ asked
    exact (calls worker asked).mp confined
  · intro all
    obtain ⟨worker, member, asked⟩ := worked
    exact (calls worker asked).mpr (all worker member asked)

def readmeFiles : Files := (∅ : Files).insert "README.md" (utf8 "Readme\n")

def readmeTree : Contents String (Option Bytes) :=
  (∅ : Contents String (Option Bytes)).insert "README.md" (some (utf8 "Readme\n"))

/-- A model that is asked to read, and cites what it has read. -/
def citingEnvironment : Ollama.ProviderEnvironment :=
  { Ollama.fullDiskProvider with
    response := .ok [("response", .str "answer")]
    jsonLoads := fun _ => some (.obj [("evidence_refs", .arr [.obj [("path", .str "README.md"),
      ("exact_fragment", .str "Readme")]])]) }

def citingProvider : OllamaExecutionProvider where
  registration := qwenRegistration
  isAvailable := .ok true
  model := "qwen3:8b"
  endpoint := "http://127.0.0.1:11434"
  contextTarget := fun path => .workspace path path
  environment := fun _ => citingEnvironment

def readmeGates : GateEnvironment :=
  { plainGates with checkout := .plain "sha" readmeTree (fun _ => false) }

/-- An inspection of the readme, which has to name its sources. -/
def inspectReadme : Dict :=
  [("item_id", .str "first"), ("task_type", .str "inspection"),
    ("context_limits", .obj [("read_only_context_paths", .arr [.str "README.md"]),
      ("schema_constraint", .obj [("files", .arr [.obj [
        ("path", .str "README.md"), ("required_sections", .arr [.str "## Sources"]),
        ("allow_safe_structural_repair", .bool true)]])])])]

def citingRouter : ModelExecutionRouter :=
  ollamaRouter plainSettings readmeGates [citingProvider] (List.nodup_singleton _)

theorem inspectReadme_request : ∃ request left,
    exec (requestFromContext plainSettings (itemContext inspectReadme)) (frozenStore []) =
      (.ok request, left) ∧ request.readOnly = true := ⟨_, _, rfl, rfl⟩

end Lucius.Router
