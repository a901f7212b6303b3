import Lucius.Integration.Preflight

/-! Whether a rollback that is reported as successful has left the canonical files as
they were. -/

namespace Lucius.Integration

open Worktree Updates Lucius.Action

section

variable (env : Environment) (request : CanonicalIntegrationRequest) (context : IntegrationContext)
  (validated : List ValidatedFileContent)

/-- The files a call has left when its writes and their verification have ended. -/
def appliedTo (files : Files) : Files := applyAll files (applyFiles env context validated files).1

theorem closeWorkflow_files (world : World) :
    (exec (closeWorkflow env request) world).2.canonical = world.canonical := by
  rw [closeWorkflow, exec_get_bind]
  split
  · rfl
  · split
    · rfl
    · exact (unwritten_auditEvent env request _ _ _).files

theorem exec_onCanonical {α : Type} (work : FileWork α) (world : World) :
    exec (onCanonical work) world = ((work world.canonical).2,
      { world with canonical := applyAll world.canonical (work world.canonical).1 }) := rfl

theorem mutate_files (world : World) :
    (exec (mutate env request context validated) world).2.canonical =
      appliedTo env context validated world.canonical := by
  rcases applied : applyFiles env context validated world.canonical with ⟨updates, error | files⟩
  · have raised : exec (onCanonical (applyFiles env context validated)) world =
        (.error error, { world with canonical := applyAll world.canonical updates }) := by
      rw [exec_onCanonical, applied]
    rw [mutate, exec_bind_of_error raised, appliedTo, applied]
  · have done : exec (onCanonical (applyFiles env context validated)) world =
        (.ok files, { world with canonical := applyAll world.canonical updates }) := by
      rw [exec_onCanonical, applied]
    have closing := closeWorkflow_files env request
      { world with canonical := applyAll world.canonical updates }
    rw [mutate, exec_bind_of_ok done, appliedTo, applied]
    rcases closed : exec (closeWorkflow env request)
      { world with canonical := applyAll world.canonical updates } with ⟨error | _, after⟩
    · rw [closed] at closing
      rw [exec_bind_of_error closed]
      exact closing
    · rw [closed] at closing
      rw [exec_bind_of_ok closed]
      cases known : currentHead (env.fault .completedHead) env.canonical with
      | error error => exact closing
      | ok head => exact closing

theorem mutate_completed {world after : World} {result : CanonicalIntegrationResult}
    (done : exec (mutate env request context validated) world = (.ok result, after)) :
    result.status = .completed := by
  obtain ⟨_, _, _, closing⟩ := bind_ok done
  obtain ⟨_, _, _, read⟩ := bind_ok closing
  obtain ⟨_, _, finish⟩ := bind_ofExcept_ok read
  obtain ⟨rfl, -⟩ := ok_pure finish
  rfl

theorem rollBack_ok {world after : World}
    (done : exec (rollBack env request context) world = (.ok (), after)) :
    ∃ updates, restoreFiles env context world.canonical = (updates, .ok ()) ∧
      after.canonical = applyAll world.canonical updates := by
  obtain ⟨_, restored, restoring, audited⟩ := bind_ok done
  rw [exec_onCanonical] at restoring
  obtain ⟨ended, rfl⟩ := Prod.mk.inj restoring
  have kept := (respects_exec (unwritten_auditEvent env request _ _) audited).files
  exact ⟨(restoreFiles env context world.canonical).1, Prod.ext rfl ended, kept⟩

theorem afterFailure_rolledBack {world after : World} {error : WorkspaceExc}
    {result : CanonicalIntegrationResult}
    (done : exec (afterFailure env request context error) world = (.ok result, after))
    (rolledBack : result.rollbackSucceeded = true) :
    ∃ updates, restoreFiles env context world.canonical = (updates, .ok ()) ∧
      after.canonical = applyAll world.canonical updates := by
  obtain ⟨_, attempted, started, afterStart⟩ := bind_ok done
  have starting := (respects_exec (unwritten_auditEvent env request _ _) started).files
  obtain ⟨outcome, restored, recovered, reported⟩ := bind_ok afterStart
  have rolled := ok_recovering recovered
  cases outcome with
  | error refusal =>
    obtain ⟨_, _, _, read⟩ := bind_ok reported
    obtain ⟨head, _, finish⟩ := bind_ofExcept_ok read
    obtain ⟨rfl, -⟩ := ok_pure finish
    cases rolledBack
  | ok _ =>
    obtain ⟨updates, restoring, files⟩ := rollBack_ok env request context rolled
    have kept := (respects_exec
      (unwritten_failedResult env request context error true true) reported).files
    rw [starting] at restoring files
    exact ⟨updates, restoring, kept.trans files⟩

theorem mutation_rolledBack {world after : World} {result : CanonicalIntegrationResult}
    (done : exec (mutation env request context validated) world = (.ok result, after))
    (failed : result.status = .failed) (rolledBack : result.rollbackSucceeded = true) :
    ∃ updates, restoreFiles env context (appliedTo env context validated world.canonical) =
        (updates, .ok ()) ∧
      after.canonical = applyAll (appliedTo env context validated world.canonical) updates := by
  obtain ⟨outcome, mutated, recovered, handling⟩ := bind_ok done
  have files := mutate_files env request context validated world
  have ended := ok_recovering recovered
  rw [ended] at files
  cases outcome with
  | error error =>
    rw [← files]
    exact afterFailure_rolledBack env request context handling rolledBack
  | ok success =>
    obtain ⟨rfl, -⟩ := ok_pure handling
    rw [mutate_completed env request context validated ended] at failed
    cases failed

theorem restoreFiles_ok {files : Files} {updates : List FileUpdate}
    (done : restoreFiles env context files = (updates, .ok ())) :
    Same (applyAll files updates)
      (applyAll files (restorations env.canonical context.authorizedPaths)) := by
  obtain ⟨front, _, back, restored, verified, journal⟩ := Journal.bind_ok done
  rw [Journal.read_bind_apply] at verified
  obtain ⟨_, _, hashed⟩ := Journal.bind_ofExcept_ok verified
  obtain ⟨_, _, listed⟩ := Journal.bind_ofExcept_ok hashed
  cases listed
  rw [journal, List.append_nil]
  exact restoreAuthorizedPathsToBaseline_ok restored

end

/-- The rollback removes no file that was there, and what the writes and the commands
of the checks changed elsewhere ended as it was. -/
structure RollbackExact (env : Environment) (context : IntegrationContext)
    (validated : List ValidatedFileContent) (before : Files) : Prop where
  removed : ∀ location, last (restorations env.canonical context.authorizedPaths) location = some none →
    before.lookup location = none
  elsewhere : ∀ location value,
    last (restorations env.canonical context.authorizedPaths) location = none →
    last (applyFiles env context validated before).1 location = some value →
    value = before.lookup location

/-- After a failure with a successful rollback the canonical files are as they were
exactly when the rollback is exact for the authorized paths and the files written. -/
theorem rolled_back_files_same_iff_exact {env : Environment} {request : CanonicalIntegrationRequest}
    {world ready after : World} {context : IntegrationContext} {validated : List ValidatedFileContent}
    {result : CanonicalIntegrationResult} (prepared : Prepared env request world context validated ready)
    (done : exec (integrate env request) world = (.ok result, after))
    (failed : result.status = .failed) (rolledBack : result.rollbackSucceeded = true) :
    Same after.canonical world.canonical ↔ RollbackExact env context validated world.canonical := by
  have guarded := prepared_protected prepared
  rw [integrate_prepared prepared] at done
  obtain ⟨updates, restored, files⟩ :=
    mutation_rolledBack env request context validated (ok_sessionEnd done) failed rolledBack
  rw [(prepared_unwritten prepared).files] at restored files
  have left := restoreFiles_ok env context restored
  rw [← files, appliedTo, ← applyAll_append] at left
  have same : Same after.canonical world.canonical ↔
      Neutral world.canonical ((applyFiles env context validated world.canonical).1 ++
        restorations env.canonical context.authorizedPaths) := by
    rw [← same_applyAll_iff]
    exact ⟨same_trans (same_symm left), same_trans left⟩
  rw [same, neutral_append_iff, neutral_restorations_iff guarded.clean]
  exact ⟨fun ⟨removed, elsewhere⟩ => ⟨removed, elsewhere⟩,
    fun ⟨removed, elsewhere⟩ => ⟨removed, elsewhere⟩⟩

/-- Git fails to list the changes after the writes; `notes.log` is ignored. -/
def unlistedEnvironment : Environment :=
  { calmEnvironment (regularCheckout [("a.txt", [97])] ["notes.log"]) with
    fault := fun reading =>
      if reading = .appliedChanges then some (.git "GIT_STATUS_FAILED" "git status failed") else none }

def ignoredWorld : World :=
  pendingWorld ["a.txt", "notes.log"] ["a.txt"] [("a.txt", [97]), ("notes.log", [110])]
    [("a.txt", [98]), ("notes.log", [110])]

/-- The rollback is reported as successful, and an ignored file that the plan named and
no write touched is gone. -/
theorem rollback_removes_ignored_file :
    ∃ result after, exec (integrate unlistedEnvironment integrationRequest) ignoredWorld =
        (.ok result, after) ∧
      result.status = .failed ∧ result.rollbackSucceeded = true ∧
      ignoredWorld.canonical.lookup "notes.log" = some [110] ∧
      after.canonical.lookup "notes.log" = none :=
  ⟨_, _, rfl, rfl, rfl, by decide +kernel, by decide +kernel⟩

/-- In that call the rollback was not exact, as the theorem says. -/
theorem ignored_rollback_not_exact :
    ∃ context validated ready, Prepared unlistedEnvironment integrationRequest ignoredWorld context
        validated ready ∧
      ¬ RollbackExact unlistedEnvironment context validated ignoredWorld.canonical := by
  refine ⟨_, _, _, rfl, ?_⟩
  intro restored
  have prepared : Prepared unlistedEnvironment integrationRequest ignoredWorld _ _ _ := rfl
  have kept := (rolled_back_files_same_iff_exact prepared rfl rfl rfl).mpr restored "notes.log"
  revert kept
  decide +kernel

end Lucius.Integration
