import Lucius.Integration.Service
import Lucius.Repositories.Restoration

/-! What a call has established when it starts to write, and that nothing was written
before.

A call is prepared when its preflight and the validation of its files have ended
normally. All that follows is then the mutation, and what follows its failure. -/

namespace Lucius.Integration

open Worktree Lucius.Action

variable {after world ready stopped : World} {context : IntegrationContext}
  {validated : List ValidatedFileContent} {error : WorkspaceExc}

/-- The canonical files and the workflows are as they were. -/
structure Unwritten (world after : World) : Prop where
  files : after.canonical = world.canonical
  workflows : after.store.workflows = world.store.workflows

theorem unwritten_refl (world : World) : Unwritten world world := ⟨rfl, rfl⟩

theorem unwritten_trans (first second third : World) (one : Unwritten first second)
    (two : Unwritten second third) : Unwritten first third :=
  ⟨two.files.trans one.files, two.workflows.trans one.workflows⟩

/-- Everything up to the first write. -/
def preparation (env : Environment) (request : CanonicalIntegrationRequest) :
    Integrating (IntegrationContext × List ValidatedFileContent) := do
  auditEvent env request "CANONICAL_INTEGRATION_REQUESTED" "REQUESTED"
  let context ← preflight env request
  let validated ← prepareFiles env request context
  return (context, validated)

/-- From the first write on. -/
def mutation (env : Environment) (request : CanonicalIntegrationRequest) (context : IntegrationContext)
    (validated : List ValidatedFileContent) : Integrating CanonicalIntegrationResult := do
  match ← recovering handled (mutate env request context validated) with
  | .ok result => return result
  | .error error => afterFailure env request context error

/-- The call writes: with this context, these files and this state before the first write. -/
def Prepared (env : Environment) (request : CanonicalIntegrationRequest) (world : World)
    (context : IntegrationContext) (validated : List ValidatedFileContent) (ready : World) : Prop :=
  exec (preparation env request) world = (.ok (context, validated), ready)

section

variable (env : Environment) (request : CanonicalIntegrationRequest)

theorem unwritten_auditEvent (eventType result : String) :
    Action.Respects Unwritten (auditEvent env request eventType result) := by
  unfold auditEvent
  split
  · exact respects_throw unwritten_refl _
  · exact respects_modify (fun world => ⟨rfl, rfl⟩)

theorem unwritten_onCandidate {α : Type} (work : FileWork α) :
    Action.Respects Unwritten (onCandidate work) := fun _ => ⟨rfl, rfl⟩

theorem unwritten_preflight : Action.Respects Unwritten (preflight env request) := by
  apply respects_bind unwritten_trans (respects_get unwritten_refl)
  intro world
  apply respects_bind unwritten_trans (respects_ofExcept unwritten_refl _)
  intro context
  apply respects_bind unwritten_trans (respects_ofExcept unwritten_refl _)
  rintro ⟨candidateHead, changed⟩
  apply respects_bind unwritten_trans (unwritten_onCandidate _)
  intro acceptance
  apply respects_bind unwritten_trans (respects_get unwritten_refl)
  intro verified
  apply respects_bind unwritten_trans (respects_ofExcept unwritten_refl _)
  intro captured
  exact respects_pure unwritten_refl _

theorem unwritten_prepareFiles (context : IntegrationContext) :
    Action.Respects Unwritten (prepareFiles env request context) := by
  apply respects_bind unwritten_trans (respects_ofExcept unwritten_refl _)
  intro validated
  split
  · exact respects_throw unwritten_refl _
  · apply respects_bind unwritten_trans (unwritten_auditEvent env request _ _)
    intro _
    exact respects_pure unwritten_refl _

theorem unwritten_preparation : Action.Respects Unwritten (preparation env request) := by
  apply respects_bind unwritten_trans (unwritten_auditEvent env request _ _)
  intro _
  apply respects_bind unwritten_trans (unwritten_preflight env request)
  intro context
  apply respects_bind unwritten_trans (unwritten_prepareFiles env request context)
  intro validated
  exact respects_pure unwritten_refl _

theorem unwritten_failedResult (context : IntegrationContext) (error : WorkspaceExc)
    (started rolledBack : Bool) :
    Action.Respects Unwritten (failedResult env request context error started rolledBack) := by
  apply respects_bind unwritten_trans (unwritten_auditEvent env request _ _)
  intro _
  apply respects_bind unwritten_trans (respects_ofExcept unwritten_refl _)
  intro head
  exact respects_pure unwritten_refl _

end

/-- A failure reported without a rollback. -/
def Refused (outcome : Except WorkspaceExc CanonicalIntegrationResult) : Prop :=
  ∀ result, outcome = .ok result → result.status = .failed ∧ result.rollbackSucceeded = false

theorem failedResult_refused (env : Environment) (request : CanonicalIntegrationRequest)
    (context : IntegrationContext) (error : WorkspaceExc) (started rolledBack : Bool) (world : World)
    {result : CanonicalIntegrationResult}
    (done : exec (failedResult env request context error started rolledBack) world =
      (.ok result, after)) : result.status = .failed ∧ result.rollbackSucceeded = rolledBack := by
  obtain ⟨_, _, _, read⟩ := bind_ok done
  obtain ⟨head, _, finish⟩ := bind_ofExcept_ok read
  obtain ⟨rfl, -⟩ := ok_pure finish
  exact ⟨rfl, rfl⟩

section

variable {α : Type} (store : Store) (ended : Except WorkspaceExc α × World)

theorem sessionEnd_outcome : (sessionEnd store ended).1 = ended.1 := by
  unfold sessionEnd
  split <;> rfl

theorem sessionEnd_files : (sessionEnd store ended).2.canonical = ended.2.canonical := by
  unfold sessionEnd
  split <;> rfl

theorem sessionEnd_unwritten {world : World} (kept : Unwritten world ended.2) :
    Unwritten world (sessionEnd world.store ended).2 := by
  refine ⟨(sessionEnd_files world.store ended).trans kept.files, ?_⟩
  unfold sessionEnd
  split
  · rfl
  · exact kept.workflows

end

theorem ok_sessionEnd {α : Type} {store : Store} {ended : Except WorkspaceExc α × World} {result : α} (done : sessionEnd store ended = (.ok result, after)) :
    ended = (.ok result, after) := by
  unfold sessionEnd at done
  split at done
  · cases done
  · exact done

theorem integrate_prepared {env : Environment} {request : CanonicalIntegrationRequest}
    (prepared : Prepared env request world context validated ready) :
    exec (integrate env request) world =
      sessionEnd world.store (exec (mutation env request context validated) ready) := by
  obtain ⟨_, requested, audited, afterAudit⟩ := bind_ok prepared
  obtain ⟨_, checked, passed, afterPreflight⟩ := bind_ok afterAudit
  obtain ⟨_, written, files, finish⟩ := bind_ok afterPreflight
  obtain ⟨same, rfl⟩ := ok_pure finish
  obtain ⟨rfl, rfl⟩ := Prod.mk.inj same
  change sessionEnd world.store (exec (integrateInSession env request) world) = _
  rw [integrateInSession, exec_bind_of_ok audited,
    exec_bind_of_ok (exec_recovering_ok handled passed)]
  change sessionEnd world.store (exec (integrateContext env request context) checked) = _
  rw [integrateContext, exec_bind_of_ok (exec_recovering_ok handled files)]
  rfl

theorem refused_error (error : WorkspaceExc) : Refused (.error error) := by
  intro result same
  cases same

theorem integrateContext_unprepared {env : Environment} {request : CanonicalIntegrationRequest}
    (failed : exec (prepareFiles env request context) world = (.error error, stopped)) :
    Unwritten world (exec (integrateContext env request context) world).2 ∧
      Refused (exec (integrateContext env request context) world).1 := by
  have before := respects_exec (unwritten_prepareFiles env request context) failed
  rw [integrateContext]
  cases known : handled error with
  | false =>
    rw [exec_bind_of_error (exec_recovering_unhandled failed known)]
    exact ⟨before, refused_error error⟩
  | true =>
    rw [exec_bind_of_ok (exec_recovering_handled failed known)]
    have later := unwritten_failedResult env request context error false false stopped
    refine ⟨unwritten_trans _ _ _ before later, ?_⟩
    intro result done
    exact failedResult_refused env request context error false false stopped (Prod.ext done rfl)

theorem integrateInSession_unchecked {env : Environment} {request : CanonicalIntegrationRequest}
    {requested : World}
    (audited : exec (auditEvent env request "CANONICAL_INTEGRATION_REQUESTED" "REQUESTED") world =
      (.ok (), requested))
    (failed : exec (preflight env request) requested = (.error error, stopped)) :
    Unwritten requested (exec (integrateInSession env request) world).2 ∧
      Refused (exec (integrateInSession env request) world).1 := by
  have before := respects_exec (unwritten_preflight env request) failed
  rw [integrateInSession, exec_bind_of_ok audited]
  cases known : handled error with
  | false =>
    rw [exec_bind_of_error (exec_recovering_unhandled failed known)]
    exact ⟨before, refused_error error⟩
  | true =>
    rw [exec_bind_of_ok (exec_recovering_handled failed known)]
    refine ⟨unwritten_trans _ _ _ before ?_, ?_⟩
    · apply respects_bind unwritten_trans (unwritten_auditEvent env request _ _)
      intro _
      exact respects_pure unwritten_refl _
    · intro result done
      obtain ⟨_, _, _, finish⟩ := bind_ok (Prod.ext done rfl)
      obtain ⟨rfl, -⟩ := ok_pure finish
      exact ⟨rfl, rfl⟩

theorem integrateInSession_unprepared {env : Environment} {request : CanonicalIntegrationRequest}
    (failed : exec (preparation env request) world = (.error error, stopped)) :
    Unwritten world (exec (integrateInSession env request) world).2 ∧
      Refused (exec (integrateInSession env request) world).1 := by
  rcases audited : exec (auditEvent env request "CANONICAL_INTEGRATION_REQUESTED" "REQUESTED")
    world with ⟨refusal | _, requested⟩
  · rw [integrateInSession, exec_bind_of_error audited]
    exact ⟨respects_exec (unwritten_auditEvent env request _ _) audited, refused_error refusal⟩
  · have requesting := respects_exec (unwritten_auditEvent env request _ _) audited
    rcases passed : exec (preflight env request) requested with ⟨refusal | context, checked⟩
    · obtain ⟨kept, refused⟩ := integrateInSession_unchecked audited passed
      exact ⟨unwritten_trans _ _ _ requesting kept, refused⟩
    · have checking := respects_exec (unwritten_preflight env request) passed
      have continued : exec (integrateInSession env request) world =
          exec (integrateContext env request context) checked := by
        rw [integrateInSession, exec_bind_of_ok audited,
          exec_bind_of_ok (exec_recovering_ok handled passed)]
      rcases files : exec (prepareFiles env request context) checked with
        ⟨refusal | validated, ready⟩
      · obtain ⟨kept, refused⟩ := integrateContext_unprepared files
        rw [continued]
        exact ⟨unwritten_trans _ _ _ requesting (unwritten_trans _ _ _ checking kept), refused⟩
      · rw [preparation, exec_bind_of_ok audited, exec_bind_of_ok passed,
          exec_bind_of_ok files] at failed
        cases failed

theorem integrate_unprepared {env : Environment} {request : CanonicalIntegrationRequest}
    (failed : exec (preparation env request) world = (.error error, stopped)) :
    Unwritten world (exec (integrate env request) world).2 ∧
      Refused (exec (integrate env request) world).1 := by
  obtain ⟨kept, refused⟩ := integrateInSession_unprepared failed
  refine ⟨sessionEnd_unwritten _ kept, ?_⟩
  change Refused (sessionEnd world.store _).1
  rw [sessionEnd_outcome]
  exact refused

/-- What the preflight has established about the canonical side. -/
structure Protected (env : Environment) (request : CanonicalIntegrationRequest) (world : World)
    (context : IntegrationContext) : Prop where
  clean : env.canonical.diff world.canonical = []
  unstaged : env.canonical.staged = []
  untracked : ∀ path, path ∈ context.protectedUntrackedHashes.map Prod.fst ↔
    path ∈ env.canonical.others world.canonical
  pending : ∃ workflow, world.store.workflows.get? request.workflowId = some workflow ∧
    workflow.workflowState = .completedPendingIntegration

theorem failing_bind_ok {α : Type} {fault : Option ReadFault} {next : Unit → Except WorkspaceExc α}
    {result : α} (done : (failing fault >>= next) = .ok result) : next () = .ok result := by
  obtain ⟨_, _, finish⟩ := except_bind_ok done
  exact finish

theorem captureUntrackedFileHashes_ok {fault : Option ReadFault} {sha256 : Bytes → String}
    {checkout : Checkout} {files : Files} {hashes : List (String × String)}
    (done : captureUntrackedFileHashes fault sha256 checkout files = .ok hashes) (path : String) :
    path ∈ hashes.map Prod.fst ↔ path ∈ checkout.others files := by
  obtain ⟨paths, listed, hashed⟩ := except_bind_ok done
  have sorted := failing_bind_ok listed
  cases sorted
  have paired := mapM_ok hashed
  rw [← mem_sortedBy id (checkout.others files) path, List.mem_map]
  have named : ∀ {known : String} {hash : String × String},
      (do return (known, ← workspaceFileSha256 sha256 checkout files known) :
        Except WorkspaceExc (String × String)) = .ok hash → hash.1 = known := by
    intro known hash read
    obtain ⟨_, _, finish⟩ := except_bind_ok read
    cases finish
    rfl
  constructor
  · rintro ⟨hash, member, rfl⟩
    obtain ⟨known, inside, read⟩ := forall₂_right paired member
    rw [named read]
    exact inside
  · intro inside
    obtain ⟨hash, member, read⟩ := forall₂_left paired inside
    exact ⟨hash, member, named read⟩

theorem sortedBy_isEmpty {items : List String} (empty : ¬ (!(sortedBy id items).isEmpty) = true) :
    items = [] := by
  cases items with
  | nil => rfl
  | cons item rest =>
    exfalso
    apply empty
    have member : item ∈ sortedBy id (item :: rest) := (mem_sortedBy id _ item).mpr List.mem_cons_self
    cases sorted : sortedBy id (item :: rest) with
    | nil =>
      rw [sorted] at member
      cases member
    | cons first others => rfl

theorem protectedState_ok {env : Environment} {canonical : Files} {commit head : String}
    {hashes : List (String × String)}
    (done : protectedState env canonical commit = .ok (head, hashes)) :
    env.canonical.diff canonical = [] ∧ env.canonical.staged = [] ∧
      ∀ path, path ∈ hashes.map Prod.fst ↔ path ∈ env.canonical.others canonical := by
  obtain ⟨known, _, afterHead⟩ := except_bind_ok done
  split at afterHead
  · cases afterHead
  · obtain ⟨staged, stagedRead, afterStaged⟩ := except_bind_ok afterHead
    have sortedStaged := failing_bind_ok stagedRead
    cases sortedStaged
    split at afterStaged
    · cases afterStaged
    · rename_i noneStaged
      obtain ⟨tracked, trackedRead, afterTracked⟩ := except_bind_ok afterStaged
      have sortedTracked := failing_bind_ok trackedRead
      cases sortedTracked
      split at afterTracked
      · cases afterTracked
      · rename_i noneTracked
        obtain ⟨captured, hashed, finish⟩ := except_bind_ok afterTracked
        cases finish
        exact ⟨sortedBy_isEmpty noneTracked, sortedBy_isEmpty noneStaged,
          captureUntrackedFileHashes_ok hashed⟩

theorem frozenWork_pending {tables : Tables} {request : CanonicalIntegrationRequest} {work : FrozenWork}
    (done : frozenWork tables request = .ok work) :
    ∃ workflow, tables.workflows.get? request.workflowId = some workflow ∧
      workflow.workflowState = .completedPendingIntegration := by
  unfold frozenWork at done
  split at done
  · cases done
  · split at done
    · cases done
    · split at done
      · cases done
      · rename_i workflow found
        split at done
        · cases done
        · rename_i pending
          exact ⟨workflow, found, not_not.mp pending⟩

theorem canonicalContext_ok {env : Environment} {request : CanonicalIntegrationRequest}
    (done : canonicalContext env request world.store.toTables world.canonical = .ok context) :
    Protected env request world context := by
  obtain ⟨work, frozen, afterWork⟩ := except_bind_ok done
  obtain ⟨_, _, afterRoots⟩ := except_bind_ok afterWork
  obtain ⟨⟨head, hashes⟩, state, afterState⟩ := except_bind_ok afterRoots
  obtain ⟨authorized, _, afterPaths⟩ := except_bind_ok afterState
  have guarded := protectedState_ok state
  split at afterPaths
  · cases afterPaths
  · obtain ⟨checks, _, finish⟩ := except_bind_ok afterPaths
    cases finish
    exact ⟨guarded.1, guarded.2.1, guarded.2.2, frozenWork_pending frozen⟩

theorem preflight_protected {env : Environment} {request : CanonicalIntegrationRequest}
    (done : exec (preflight env request) world = (.ok context, after)) :
    Protected env request world context := by
  rw [preflight, exec_get_bind] at done
  obtain ⟨canonical, checked, afterCanonical⟩ := bind_ofExcept_ok done
  obtain ⟨⟨head, changed⟩, _, afterCandidate⟩ := bind_ofExcept_ok afterCanonical
  obtain ⟨_, _, _, afterAcceptance⟩ := bind_ok afterCandidate
  rw [exec_get_bind] at afterAcceptance
  obtain ⟨captured, _, finish⟩ := bind_ofExcept_ok afterAcceptance
  obtain ⟨rfl, -⟩ := ok_pure finish
  obtain ⟨clean, unstaged, untracked, pending⟩ := canonicalContext_ok checked
  exact ⟨clean, unstaged, untracked, pending⟩

theorem prepared_unwritten {env : Environment} {request : CanonicalIntegrationRequest}
    (prepared : Prepared env request world context validated ready) : Unwritten world ready := by
  exact respects_exec (unwritten_preparation env request) prepared

theorem prepared_protected {env : Environment} {request : CanonicalIntegrationRequest}
    (prepared : Prepared env request world context validated ready) :
    Protected env request world context := by
  obtain ⟨_, requested, audited, afterAudit⟩ := bind_ok prepared
  obtain ⟨_, checked, passed, afterPreflight⟩ := bind_ok afterAudit
  obtain ⟨_, written, files, finish⟩ := bind_ok afterPreflight
  obtain ⟨same, -⟩ := ok_pure finish
  obtain ⟨rfl, -⟩ := Prod.mk.inj same
  have kept := respects_exec (unwritten_auditEvent env request _ _) audited
  obtain ⟨clean, unstaged, untracked, pending⟩ := preflight_protected passed
  rw [kept.files] at clean untracked
  rw [kept.workflows] at pending
  exact ⟨clean, unstaged, untracked, pending⟩

/-! A pending workflow whose plan names some files of two regular checkouts, and an
environment in which nothing fails. -/

def filesOf (entries : List (String × Bytes)) : Files :=
  entries.foldr (fun entry known => known.insert entry.1 entry.2) ∅

def regularCheckout (tree : List (String × Bytes)) (ignored : List String) : Checkout :=
  .plain "sha" (tree.foldr (fun entry known => known.insert entry.1 (some entry.2)) ∅)
    (fun path => decide (path ∈ ignored))

def existsCheck (path : String) : Json := .obj [("type", .str "file_exists"), ("path", .str path)]

def frozenTables (authorized checked : List String) : Tables where
  repositories := .single {
    id := "LREPO_000001"
    projectId := "LPROJ_000001"
    location := "/canonical" }
  attachments := [⟨"LPROJ_000001", "LREPO_000001"⟩]
  tasks := .single { id := "LTASK_000001", projectId := "LPROJ_000001" }
  plans := .single { id := "LPLAN_000001", taskId := "LTASK_000001", projectId := "LPROJ_000001" }
  freezes := .single {
    id := "LFREEZE_000001"
    planId := "LPLAN_000001"
    taskId := "LTASK_000001"
    projectId := "LPROJ_000001"
    commitSha := some "sha"
    planPayload := .obj [
      ("affected_files", .arr (authorized.map (fun path => .obj [("path", .str path)]))),
      ("deterministic_acceptance_checks", .arr (checked.map existsCheck))] }
  workflows := .single {
    id := "LWORK_000001"
    projectId := some "LPROJ_000001"
    repositoryId := some "LREPO_000001"
    taskId := some "LTASK_000001"
    planId := some "LPLAN_000001"
    planFreezeId := some "LFREEZE_000001"
    worktreePath := "/candidate"
    authorityTier := "L1"
    workflowState := .completedPendingIntegration }

def calmEnvironment (checkout : Checkout) : Environment where
  host := .posix
  canonical := checkout
  candidate := checkout
  sha256 := fun bytes => String.ofList (bytes.map (fun byte => Char.ofNat byte.toNat))
  resolvePath := id
  candidateCommands := ⟨fun _ => false, fun _ _ => ([], .osError)⟩
  canonicalCommands := ⟨fun _ => false, fun _ _ => ([], .osError)⟩
  fault := fun _ => none
  writes := ⟨fun _ => false, fun _ => none, fun _ => false, fun _ => none, fun _ => false⟩
  canonicalDirectories := fun _ => false
  auditFault := fun _ => false
  flushFault := false

def integrationRequest : CanonicalIntegrationRequest where
  workflowId := "LWORK_000001"
  canonicalRepositoryPath := "/canonical"
  candidateWorkspacePath := "/candidate"
  expectedBaselineCommit := "sha"

def pendingWorld (authorized checked : List String) (canonical candidate : List (String × Bytes)) :
    World where
  store := { toTables := frozenTables authorized checked }
  canonical := filesOf canonical
  candidate := filesOf candidate

end Lucius.Integration
