import Lucius.Repositories.Restoration
import Lucius.Runtime.Ollama

/-! Whether a mutation that the provider reports as failed has left the workspace as it
was. -/

namespace Lucius.Ollama

open Worktree Updates

variable {files : Files} {updates back : List FileUpdate} {env : ProviderEnvironment}
  {request : RuntimeExecutionRequest} {body payload : Dict}

/-- The locations that a reset and a clean put in order: the files of the commit, and
those that are neither tracked nor ignored. -/
def Restorable (checkout : Checkout) (location : String) : Prop :=
  (∃ bytes, checkout.tree.lookup location = some (some bytes)) ∨
    (checkout.tree.lookup location = none ∧ checkout.ignored location = false)

/-- A call that returns a failure has left the workspace as it was. -/
def FailsUnchanged (env : ProviderEnvironment) (request : RuntimeExecutionRequest) (files : Files) :
    Prop :=
  ∀ updates result, invoke env request files = (updates, .ok result) → result.status = .failed →
    Same (applyAll files updates) files

/-- However a mutation fails, what it wrote is gone. One that is blocked is rolled back:
the rollback leaves alone what it does not put in order, or it is blocked itself. -/
def FailureContained (env : ProviderEnvironment) (request : RuntimeExecutionRequest)
    (body payload : Dict) (files : Files) : Prop :=
  match mutateWorkspace env request body payload files with
  | (_, .ok _) => True
  | (updates, .error (.blocked _ _ _)) =>
    match restoreCleanWorkspace env (applyAll files updates) with
    | (_, .ok ()) =>
      ∀ location, ¬ Restorable env.checkout location →
        (applyAll files updates).lookup location = files.lookup location
    | (back, .error (.blocked _ _ _)) => Neutral files (updates ++ back)
    | (_, .error _) => True
  | (updates, .error _) => Neutral files updates

theorem mem_resetUpdates {checkout : Checkout} {location : String} {value : Option Bytes} :
    (location, value) ∈ resetUpdates checkout ↔
      ∃ bytes, checkout.tree.lookup location = some (some bytes) ∧ value = some bytes := by
  constructor
  · intro member
    obtain ⟨path, _, inside⟩ := List.mem_flatMap.mp member
    unfold baselineUpdate at inside
    split at inside
    · rename_i bytes entry
      obtain ⟨rfl, same⟩ := Prod.mk.inj (List.mem_singleton.mp inside)
      exact ⟨bytes, entry, same⟩
    · cases inside
  · rintro ⟨bytes, entry, rfl⟩
    have known : location ∈ checkout.tree.keys :=
      AList.mem_keys.mp (AList.lookup_isSome.mp (by rw [entry]; rfl))
    apply List.mem_flatMap.mpr
    refine ⟨location, known, ?_⟩
    rw [baselineUpdate, entry]
    exact List.mem_singleton.mpr rfl

theorem mem_cleanUpdates {checkout : Checkout} {location : String}
    {value : Option Bytes} :
    (location, value) ∈ cleanUpdates checkout files ↔ location ∈ checkout.others files ∧ value = none := by
  constructor
  · intro member
    obtain ⟨path, listed, made⟩ := List.mem_map.mp member
    obtain ⟨rfl, rfl⟩ := Prod.mk.inj made
    exact ⟨listed, rfl⟩
  · rintro ⟨listed, rfl⟩
    exact List.mem_map.mpr ⟨location, listed, rfl⟩

/-- The workspace after a reset and a clean of what was left in it. -/
def restoredFiles (checkout : Checkout) (left : Files) : Files :=
  applyAll (applyAll left (resetUpdates checkout))
    (cleanUpdates checkout (applyAll left (resetUpdates checkout)))

section

variable (checkout : Checkout) (left : Files) {location : String}

theorem restored_tracked {bytes : Bytes} (entry : checkout.tree.lookup location = some (some bytes)) :
    (restoredFiles checkout left).lookup location = some bytes := by
  have reset : last (resetUpdates checkout) location = some (some bytes) := by
    apply last_eq_some (mem_resetUpdates.mpr ⟨bytes, entry, rfl⟩)
    intro other member
    obtain ⟨found, known, rfl⟩ := mem_resetUpdates.mp member
    rw [entry] at known
    exact (Option.some.inj known).symm
  have clean : last (cleanUpdates checkout (applyAll left (resetUpdates checkout))) location = none := by
    apply last_eq_none
    intro value member
    have untracked := ((checkout.others_iff _ location).mp (mem_cleanUpdates.mp member).1).2.1
    rw [entry] at untracked
    cases untracked
  rw [restoredFiles, lookup_applyAll, clean, Option.getD_none, lookup_applyAll, reset]
  rfl

theorem reset_untracked (untracked : ∀ bytes, checkout.tree.lookup location ≠ some (some bytes)) :
    (applyAll left (resetUpdates checkout)).lookup location = left.lookup location := by
  have reset : last (resetUpdates checkout) location = none := by
    apply last_eq_none
    intro value member
    obtain ⟨bytes, entry, _⟩ := mem_resetUpdates.mp member
    exact untracked bytes entry
  rw [lookup_applyAll, reset, Option.getD_none]

theorem restored_clean (untracked : checkout.tree.lookup location = none)
    (visible : checkout.ignored location = false) :
    (restoredFiles checkout left).lookup location = none := by
  rw [restoredFiles, lookup_applyAll]
  by_cases listed : location ∈ checkout.others (applyAll left (resetUpdates checkout))
  · have removed := last_eq_some (mem_cleanUpdates.mpr ⟨listed, rfl⟩)
      (fun other member => (mem_cleanUpdates.mp member).2)
    rw [removed]
    rfl
  · have kept := last_eq_none (fun value member => listed (mem_cleanUpdates.mp member).1)
    rw [kept, Option.getD_none]
    rw [checkout.others_iff, not_and_or] at listed
    rcases listed with absent | tracked
    · rw [not_or, Option.not_isSome_iff_eq_none] at absent
      exact absent.1
    · exact absurd ⟨untracked, visible⟩ tracked

theorem restored_other (outside : ¬ Restorable checkout location) :
    (restoredFiles checkout left).lookup location = left.lookup location := by
  have untracked : ∀ bytes, checkout.tree.lookup location ≠ some (some bytes) :=
    fun bytes entry => outside (.inl ⟨bytes, entry⟩)
  have clean : last (cleanUpdates checkout (applyAll left (resetUpdates checkout))) location = none := by
    apply last_eq_none
    intro value member
    have listed := (checkout.others_iff _ location).mp (mem_cleanUpdates.mp member).1
    exact outside (.inr listed.2)
  rw [restoredFiles, lookup_applyAll, clean, Option.getD_none, reset_untracked checkout left untracked]

end

theorem runCommand_ok {fault : CommandFault} {made : List FileUpdate}
    (done : runCommand fault updates files = (made, .ok ())) : made = updates := by
  unfold runCommand at done
  split at done <;> cases done
  rfl

theorem restoreToBaseline_updates {commit : String} {left : Files} (done : restoreToBaseline env commit left = (back, .ok ())) :
    back = resetUpdates env.checkout ++
      cleanUpdates env.checkout (applyAll left (resetUpdates env.checkout)) := by
  obtain ⟨_, _, afterCommit⟩ := Journal.bind_ofExcept_ok done
  obtain ⟨first, _, rest, reset, afterReset, journal⟩ := Journal.bind_ok afterCommit
  rw [Journal.read_bind_apply, runCommand_ok reset] at afterReset
  obtain ⟨second, _, last, cleaned, afterClean, tail⟩ := Journal.bind_ok afterReset
  rw [Journal.read_bind_apply] at afterClean
  have finished := (Journal.ok_ofExcept afterClean).2
  rw [journal, tail, finished, runCommand_ok reset, runCommand_ok cleaned, List.append_nil]

theorem restoreCleanWorkspace_updates {left : Files} (done : restoreCleanWorkspace env left = (back, .ok ())) :
    back = resetUpdates env.checkout ++
      cleanUpdates env.checkout (applyAll left (resetUpdates env.checkout)) := by
  obtain ⟨head, _, restoring⟩ := Journal.bind_ofExcept_ok (Journal.ok_mapError done)
  exact restoreToBaseline_updates restoring

theorem restoreCleanWorkspace_ok {left : Files}
    (done : restoreCleanWorkspace env left = (back, .ok ())) :
    applyAll left back = restoredFiles env.checkout left := by
  rw [restoreCleanWorkspace_updates done, applyAll_append]
  rfl

/-- Nothing is changed and nothing untracked is there when the mutation starts. -/
structure CleanStart (checkout : Checkout) (files : Files) : Prop where
  tracked : checkout.diff files = []
  untracked : checkout.others files = []

theorem answered_clean (done : answered env request files = .ok (body, payload)) :
    CleanStart env.checkout files := by
  obtain ⟨_, _, afterWorkspace⟩ := except_bind_ok done
  obtain ⟨_, started, _⟩ := except_bind_ok afterWorkspace
  unfold requireCleanStart at started
  split at started
  · cases started
  · obtain ⟨paths, read, afterPaths⟩ := except_bind_ok started
    split at afterPaths
    · cases afterPaths
    · rename_i none
      have sorted : paths = sortedBy id (env.checkout.listed files).dedup := by
        unfold gitChangedPaths changedPaths at read
        cases fault : env.fault .cleanStart with
        | none =>
          rw [fault] at read
          cases read
          rfl
        | some found =>
          rw [fault] at read
          cases read
      have unlisted : ∀ path, path ∉ env.checkout.listed files := by
        intro path member
        have inside : path ∈ paths := by
          rw [sorted, mem_sortedBy, List.mem_dedup]
          exact member
        cases paths with
        | nil => cases inside
        | cons first rest => exact none rfl
      constructor
      · apply List.eq_nil_iff_forall_not_mem.mpr
        intro path member
        exact unlisted path (List.mem_append_left _ (List.mem_append_left _ member))
      · apply List.eq_nil_iff_forall_not_mem.mpr
        intro path member
        exact unlisted path (List.mem_append_right _ member)

/-- From a clean start a rollback restores everything it puts in order, so what
remains is what was left elsewhere. -/
theorem restored_same_iff {checkout : Checkout} (clean : CleanStart checkout files)
    (left : Files) :
    Same (restoredFiles checkout left) files ↔
      ∀ location, ¬ Restorable checkout location → left.lookup location = files.lookup location := by
  constructor
  · intro same location outside
    rw [← restored_other checkout left outside]
    exact same location
  · intro kept location
    by_cases restorable : Restorable checkout location
    · rcases restorable with ⟨bytes, entry⟩ | ⟨untracked, visible⟩
      · have unchanged : location ∉ checkout.diff files := by
          rw [clean.tracked]
          exact List.not_mem_nil
        rw [checkout.diff_regular files location bytes entry, not_not] at unchanged
        rw [restored_tracked checkout left entry, unchanged]
      · have absent : location ∉ checkout.others files := by
          rw [clean.untracked]
          exact List.not_mem_nil
        rw [restored_clean checkout left untracked visible]
        by_contra present
        apply absent
        rw [checkout.others_iff]
        exact ⟨.inl (Option.isSome_iff_ne_none.mpr (Ne.symm present)), untracked, visible⟩
    · rw [restored_other checkout left restorable]
      exact kept location restorable

theorem mutateWorkspace_completed {result : RuntimeExecutionResult}
    (done : mutateWorkspace env request body payload files = (updates, .ok result)) :
    result.status = .completed := by
  obtain ⟨_, written, _, _, afterWrites, _⟩ := Journal.bind_ok done
  rw [Journal.read_bind_apply] at afterWrites
  obtain ⟨_, _, afterScope⟩ := Journal.bind_ofExcept_ok afterWrites
  obtain ⟨_, _, _, _, finish, _⟩ := Journal.bind_ok afterScope
  have built := (Journal.ok_ofExcept finish).1
  obtain ⟨latency, _, finished⟩ := except_bind_ok built
  split at finished
  · cases finished
  · cases finished
    rfl

theorem invoke_answered (known : answered env request files = .ok (body, payload)) :
    invoke env request files =
      (Journal.attempt (mutateWorkspace env request body payload) >>= fun outcome =>
        match outcome with
        | .ok result => pure result
        | .error error => mutationFailure env error) files := by
  rw [invoke, Journal.read_bind_apply]
  generalize answered env request files = outcome at known ⊢
  subst known
  rfl

theorem invoke_unanswered {error : ProviderExc} (known : answered env request files = .error error) :
    invoke env request files = ([], .ok (failureOf env error)) := by
  rw [invoke, Journal.read_bind_apply, known]
  rfl

theorem failureOf_failed (env : ProviderEnvironment) (error : ProviderExc) :
    (failureOf env error).status = .failed := by
  cases error <;> rfl

theorem mutationFailure_blocked (env : ProviderEnvironment) (failureClass message : String)
    (retryability : RuntimeRetryability) (left : Files) :
    mutationFailure env (.blocked failureClass message retryability) left =
      match restoreCleanWorkspace env left with
      | (back, .ok ()) => (back, .ok (failedResult failureClass message retryability))
      | (back, .error (.blocked _ rollbackMessage _)) =>
        (back, .ok (rollbackFailed message rollbackMessage))
      | (back, .error error) => (back, .error error) := by
  rw [mutationFailure, Journal.attempt_bind_apply]
  rcases restoreCleanWorkspace env left with ⟨back, error | _⟩
  · cases error with
    | blocked rollbackClass rollbackMessage rollbackRetryability =>
      exact Prod.ext (List.append_nil back) rfl
    | _ => exact Prod.ext (List.append_nil back) rfl
  · exact Prod.ext (List.append_nil back) rfl

/-- What a call has to establish, from how it ended. -/
def EndsUnchanged (files : Files)
    (ended : List FileUpdate × Except ProviderExc RuntimeExecutionResult) : Prop :=
  ∀ result, ended.2 = .ok result → result.status = .failed → Same (applyAll files ended.1) files

theorem failsUnchanged_iff (env : ProviderEnvironment) (request : RuntimeExecutionRequest)
    (files : Files) :
    FailsUnchanged env request files ↔ EndsUnchanged files (invoke env request files) := by
  constructor
  · intro unchanged result ended failed
    exact unchanged _ result (Prod.ext rfl ended) failed
  · intro unchanged updates result ended failed
    have same := unchanged result (congrArg Prod.snd ended) failed
    rwa [congrArg Prod.fst ended] at same

theorem ends_failed_iff {failure : RuntimeExecutionResult}
    (failed : failure.status = .failed) :
    EndsUnchanged files (updates, .ok failure) ↔ Neutral files updates := by
  rw [← same_applyAll_iff]
  constructor
  · intro unchanged
    exact unchanged failure rfl failed
  · intro same result _ _
    exact same

theorem ends_unrestored_iff {failure : RuntimeExecutionResult} (failed : failure.status = .failed) :
    EndsUnchanged files (updates ++ [], .ok failure) ↔ Neutral files updates := by
  rw [List.append_nil]
  exact ends_failed_iff failed

theorem ends_raised (files : Files) (updates : List FileUpdate) (error : ProviderExc) :
    EndsUnchanged files (updates, .error error) := by
  intro result ended
  cases ended

theorem blocked_unchanged_iff (clean : CleanStart env.checkout files) (failureClass message : String)
    (retryability : RuntimeRetryability) (updates : List FileUpdate) :
    EndsUnchanged files
      (updates ++ (mutationFailure env (.blocked failureClass message retryability)
          (applyAll files updates)).1,
        (mutationFailure env (.blocked failureClass message retryability)
          (applyAll files updates)).2) ↔
      match restoreCleanWorkspace env (applyAll files updates) with
      | (_, .ok ()) =>
        ∀ location, ¬ Restorable env.checkout location →
          (applyAll files updates).lookup location = files.lookup location
      | (back, .error (.blocked _ _ _)) => Neutral files (updates ++ back)
      | (_, .error _) => True := by
  rw [mutationFailure_blocked]
  rcases restored : restoreCleanWorkspace env (applyAll files updates) with ⟨back, error | _⟩
  · cases error with
    | blocked rollbackClass rollbackMessage rollbackRetryability => exact ends_failed_iff rfl
    | _ => exact iff_of_true (ends_raised files _ _) trivial
  · have reached := restoreCleanWorkspace_ok restored
    calc EndsUnchanged files (updates ++ back, .ok (failedResult failureClass message retryability))
        ↔ Neutral files (updates ++ back) := ends_failed_iff rfl
      _ ↔ Same (restoredFiles env.checkout (applyAll files updates)) files := by
          rw [← same_applyAll_iff, applyAll_append, reached]
      _ ↔ _ := restored_same_iff clean (applyAll files updates)

theorem mutation_unchanged_iff (known : answered env request files = .ok (body, payload)) :
    FailsUnchanged env request files ↔ FailureContained env request body payload files := by
  rw [failsUnchanged_iff, invoke_answered known, Journal.attempt_bind_apply]
  unfold FailureContained
  rcases mutated : mutateWorkspace env request body payload files with ⟨updates, error | result⟩
  · cases error with
    | blocked failureClass message retryability =>
      exact blocked_unchanged_iff (answered_clean known) failureClass message retryability updates
    | _ => exact ends_unrestored_iff (failureOf_failed env _)
  · apply iff_of_true _ trivial
    intro other ended failed
    cases ended
    rw [mutateWorkspace_completed mutated] at failed
    cases failed

def twoFilesTree : Updates.Contents String (Option Bytes) :=
  ((∅ : Updates.Contents String (Option Bytes)).insert "a.txt" (some [97])).insert "b.txt" (some [98])

def twoFiles : Files := ((∅ : Files).insert "a.txt" [97]).insert "b.txt" [98]

/-- The model rewrites two files, and the disk is full when the second is written. -/
def fullDiskProvider : ProviderEnvironment where
  host := .posix
  settings := {}
  workspace := "/tmp/workspace"
  workspaceIsDirectory := true
  insideAllowedRoots := true
  checkout := .plain "sha" twoFilesTree (fun _ => false)
  directories := fun _ => false
  commands := ⟨fun _ => false, fun _ _ => ([], .osError)⟩
  writes := ⟨fun _ => false, fun path => if path = "b.txt" then some none else none, fun _ => false,
    fun _ => none, fun _ => false⟩
  fault := fun _ => none
  resetFault := none
  cleanFault := none
  response := .ok [("response", .str "edits")]
  jsonLoads := fun _ => some (.obj [("edits", .arr [
    .obj [("path", .str "a.txt"), ("old", .str "a"), ("new", .str "A")],
    .obj [("path", .str "b.txt"), ("old", .str "b"), ("new", .str "B")]])])
  elapsedMs := 0
  resultFault := none
  describe := fun _ => "No space left on device"

def twoFilesRequest : RuntimeExecutionRequest := { allowedMutationPaths := ["a.txt", "b.txt"] }

end Lucius.Ollama
