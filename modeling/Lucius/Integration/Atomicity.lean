import Lucius.Integration.Rollback

/-! Whether a call that neither completes nor reports a failed rollback has left the
canonical files and the state of the workflow as they were. -/

namespace Lucius.Integration

open Worktree Updates Lucius.Action

def stateOf (store : Store) (workflowId : String) : Option PersistentWorkflowState :=
  (store.workflows.get? workflowId).map (·.workflowState)

structure Undisturbed (workflowId : String) (world after : World) : Prop where
  files : Same after.canonical world.canonical
  state : stateOf after.store workflowId = stateOf world.store workflowId

def Settled (outcome : Except WorkspaceExc CanonicalIntegrationResult) : Prop :=
  ∃ result, outcome = .ok result ∧ (result.status = .completed ∨ result.status = .rollbackFailed)

def AtomicEnd (workflowId : String) (world : World)
    (ended : Except WorkspaceExc CanonicalIntegrationResult × World) : Prop :=
  Settled ended.1 ∨ Undisturbed workflowId world ended.2

/-- The call completes, or reports a failed rollback, or leaves everything as it was. -/
def Atomic (env : Environment) (request : CanonicalIntegrationRequest) (world : World) : Prop :=
  AtomicEnd request.workflowId world (exec (integrate env request) world)

/-- What a handled failure leads to leaves the call atomic. The updates are those made
before it; `closed` says that the workflow had been closed, which stays unless a flush
fails and the transaction is rolled back. -/
def RollbackContained (env : Environment) (context : IntegrationContext) (before : Files)
    (updates : List FileUpdate) (closed : Bool) : Prop :=
  if env.auditFault "CANONICAL_INTEGRATION_ROLLBACK_ATTEMPTED" = true then Neutral before updates
  else
    match restoreFiles env context (applyAll before updates) with
    | (back, .ok ()) =>
      Neutral before (updates ++ back) ∧
        (closed = true → env.auditFault "CANONICAL_INTEGRATION_ROLLBACK_COMPLETED" = true ∨
          env.auditFault "CANONICAL_INTEGRATION_FAILED" = true)
    | (back, .error error) =>
      if isGitMutation error = true then
        if env.auditFault "CANONICAL_INTEGRATION_ROLLBACK_FAILED" = true then
          Neutral before (updates ++ back)
        else env.fault .rollbackFailedHead = none ∨ (Neutral before (updates ++ back) ∧ closed = false)
      else Neutral before (updates ++ back) ∧ (closed = true → error = .databaseError)

/-- Each way the writes, their verification and the closing of the workflow can end
leaves the call atomic. -/
def Contained (env : Environment) (context : IntegrationContext)
    (validated : List ValidatedFileContent) (before : Files) : Prop :=
  match applyFiles env context validated before with
  | (updates, .error error) =>
    if handled error = true then RollbackContained env context before updates false
    else Neutral before updates
  | (updates, .ok _) =>
    if env.flushFault = true ∨ env.auditFault "CANONICAL_INTEGRATION_WORKFLOW_CLOSED" = true then
      Neutral before updates
    else
      match env.fault .completedHead with
      | none => True
      | some (.git _ _) => RollbackContained env context before updates true
      | some _ => False

/-- Where a call stands: the updates it has made to the files, and whether it has
closed the workflow. -/
structure Standing (workflowId : String) (world now : World) (updates : List FileUpdate)
    (closed : Bool) : Prop where
  pending : stateOf world.store workflowId = some .completedPendingIntegration
  files : now.canonical = applyAll world.canonical updates
  state : stateOf now.store workflowId =
    some (if closed = true then .closed else .completedPendingIntegration)

section

variable {workflowId : String} {world now : World} {updates : List FileUpdate} {closed : Bool}

theorem standing_unwritten (standing : Standing workflowId world now updates closed) {after : World}
    (kept : Unwritten now after) : Standing workflowId world after updates closed := by
  refine ⟨standing.pending, kept.files.trans standing.files, ?_⟩
  rw [stateOf, kept.workflows]
  exact standing.state

theorem standing_applied (standing : Standing workflowId world now updates closed)
    (back : List FileUpdate) :
    Standing workflowId world { now with canonical := applyAll now.canonical back }
      (updates ++ back) closed := by
  refine ⟨standing.pending, ?_, standing.state⟩
  rw [applyAll_append, ← standing.files]

theorem undisturbed_iff (standing : Standing workflowId world now updates closed) :
    Undisturbed workflowId world now ↔ Neutral world.canonical updates ∧ closed = false := by
  have files : Same now.canonical world.canonical ↔ Neutral world.canonical updates := by
    rw [standing.files, same_applyAll_iff]
  have state : stateOf now.store workflowId = stateOf world.store workflowId ↔ closed = false := by
    rw [standing.state, standing.pending]
    cases closed <;> decide
  constructor
  · rintro ⟨same, kept⟩
    exact ⟨files.mp same, state.mp kept⟩
  · rintro ⟨neutral, opened⟩
    exact ⟨files.mpr neutral, state.mpr opened⟩

theorem failed_end_iff (standing : Standing workflowId world now updates closed)
    {result : CanonicalIntegrationResult} (failed : result.status = .failed) :
    AtomicEnd workflowId world (sessionEnd world.store (.ok result, now)) ↔
      Neutral world.canonical updates ∧ closed = false := by
  rw [← undisturbed_iff standing]
  constructor
  · rintro (⟨other, same, settled⟩ | undisturbed)
    · cases same
      rw [failed] at settled
      rcases settled with completed | reported
      · cases completed
      · cases reported
    · exact undisturbed
  · exact Or.inr

theorem error_end_iff (standing : Standing workflowId world now updates closed) (error : WorkspaceExc) :
    AtomicEnd workflowId world (sessionEnd world.store (.error error, now)) ↔
      Neutral world.canonical updates ∧ (closed = true → error = .databaseError) := by
  have unsettled : AtomicEnd workflowId world (sessionEnd world.store (.error error, now)) ↔
      Undisturbed workflowId world (sessionEnd world.store
        ((.error error, now) : Except WorkspaceExc CanonicalIntegrationResult × World)).2 := by
    constructor
    · rintro (⟨other, same, -⟩ | undisturbed)
      · rw [sessionEnd_outcome] at same
        cases same
      · exact undisturbed
    · exact Or.inr
  rw [unsettled]
  by_cases database : error = .databaseError
  · subst database
    have files : Same now.canonical world.canonical ↔ Neutral world.canonical updates := by
      rw [standing.files, same_applyAll_iff]
    exact ⟨fun undisturbed => ⟨files.mp undisturbed.files, fun _ => rfl⟩,
      fun ⟨neutral, _⟩ => ⟨files.mpr neutral, rfl⟩⟩
  · have kept : sessionEnd world.store (.error error, now) =
        ((.error error, now) : Except WorkspaceExc CanonicalIntegrationResult × World) := by
      cases error <;> first | rfl | exact absurd rfl database
    rw [kept, undisturbed_iff standing]
    cases closed <;> simp [database]

theorem settled_end {ended : Except WorkspaceExc CanonicalIntegrationResult × World}
    (settled : Settled ended.1) : AtomicEnd workflowId world (sessionEnd world.store ended) := by
  refine .inl ?_
  rw [sessionEnd_outcome]
  exact settled

end

section

variable {env : Environment} {request : CanonicalIntegrationRequest} {context : IntegrationContext}
variable {world now : World} {updates : List FileUpdate} {closed : Bool}

theorem exec_auditEvent_fault {eventType : String} (result : String)
    (fault : env.auditFault eventType = true) (world : World) :
    exec (auditEvent env request eventType result) world = (.error .databaseError, world) := by
  rw [auditEvent, if_pos fault]
  rfl

theorem exec_auditEvent (request : CanonicalIntegrationRequest) {eventType : String} (result : String)
    (calm : ¬ env.auditFault eventType = true) (world : World) :
    ∃ after, exec (auditEvent env request eventType result) world = (.ok (), after) := by
  rw [auditEvent, if_neg calm]
  exact ⟨_, rfl⟩

theorem currentHead_error {fault : ReadFault} (checkout : Checkout) :
    currentHead (some fault) checkout = .error fault.exc := rfl

theorem exc_not_database (fault : ReadFault) : fault.exc ≠ .databaseError := by
  cases fault <;> simp [ReadFault.exc]

theorem auditFault_end_iff (standing : Standing request.workflowId world now updates closed)
    {eventType result : String} (fault : env.auditFault eventType = true)
    (next : Unit → Integrating CanonicalIntegrationResult) :
    AtomicEnd request.workflowId world (sessionEnd world.store
      (exec (auditEvent env request eventType result >>= next) now)) ↔
      Neutral world.canonical updates := by
  rw [exec_bind_of_error (exec_auditEvent_fault result fault now), error_end_iff standing]
  simp

theorem failedResult_end_iff (standing : Standing request.workflowId world now updates closed)
    (error : WorkspaceExc) (started rolledBack : Bool) :
    AtomicEnd request.workflowId world (sessionEnd world.store
      (exec (failedResult env request context error started rolledBack) now)) ↔
      Neutral world.canonical updates ∧
        (closed = true → env.auditFault "CANONICAL_INTEGRATION_FAILED" = true) := by
  by_cases fault : env.auditFault "CANONICAL_INTEGRATION_FAILED" = true
  · rw [failedResult, auditFault_end_iff standing fault]
    simp [fault]
  · obtain ⟨after, audited⟩ := exec_auditEvent request "FAILED_CLOSED" fault now
    have standing := standing_unwritten standing
      (respects_exec (unwritten_auditEvent env request _ _) audited)
    rw [failedResult, exec_bind_of_ok audited]
    have opened : (closed = true → env.auditFault "CANONICAL_INTEGRATION_FAILED" = true) ↔
        closed = false := by
      cases closed <;> simp [fault]
    rw [opened]
    cases reading : env.fault .failedHead with
    | none => exact failed_end_iff standing rfl
    | some other =>
      rw [currentHead_error]
      refine (error_end_iff standing other.exc).trans ?_
      cases closed <;> simp [exc_not_database]

theorem rollbackFailedResult_end_iff
    (standing : Standing request.workflowId world now updates closed) (error refusal : WorkspaceExc) :
    AtomicEnd request.workflowId world (sessionEnd world.store
      (exec (rollbackFailedResult env request context error refusal) now)) ↔
      if env.auditFault "CANONICAL_INTEGRATION_ROLLBACK_FAILED" = true then
        Neutral world.canonical updates
      else env.fault .rollbackFailedHead = none ∨
        (Neutral world.canonical updates ∧ closed = false) := by
  by_cases fault : env.auditFault "CANONICAL_INTEGRATION_ROLLBACK_FAILED" = true
  · rw [rollbackFailedResult, auditFault_end_iff standing fault, if_pos fault]
  · obtain ⟨after, audited⟩ := exec_auditEvent request "FAILED_CLOSED" fault now
    have standing := standing_unwritten standing
      (respects_exec (unwritten_auditEvent env request _ _) audited)
    rw [rollbackFailedResult, exec_bind_of_ok audited, if_neg fault]
    cases reading : env.fault .rollbackFailedHead with
    | none => exact iff_of_true (settled_end ⟨_, rfl, .inr rfl⟩) (.inl rfl)
    | some other =>
      rw [currentHead_error]
      refine (error_end_iff standing other.exc).trans ?_
      cases closed <;> simp [exc_not_database]

/-- What follows a handled failure leaves the call atomic exactly when the rollback is
contained. -/
theorem afterFailure_end_iff (standing : Standing request.workflowId world now updates closed)
    (error : WorkspaceExc) :
    AtomicEnd request.workflowId world (sessionEnd world.store
      (exec (afterFailure env request context error) now)) ↔
      RollbackContained env context world.canonical updates closed := by
  unfold RollbackContained
  by_cases fault : env.auditFault "CANONICAL_INTEGRATION_ROLLBACK_ATTEMPTED" = true
  · rw [afterFailure, auditFault_end_iff standing fault, if_pos fault]
  · obtain ⟨attempted, audited⟩ := exec_auditEvent request "STARTED" fault now
    have standing := standing_unwritten standing
      (respects_exec (unwritten_auditEvent env request _ _) audited)
    rw [afterFailure, exec_bind_of_ok audited, if_neg fault, ← standing.files]
    rcases restored : restoreFiles env context attempted.canonical with ⟨back, refusal | _⟩
    · have standing := standing_applied standing back
      have rolled : exec (rollBack env request context) attempted = (.error refusal,
          { attempted with canonical := applyAll attempted.canonical back }) := by
        rw [rollBack]
        apply exec_bind_of_error
        rw [exec_onCanonical, restored]
      by_cases known : isGitMutation refusal = true
      · rw [exec_bind_of_ok (exec_recovering_handled rolled known)]
        simp only [known, if_true]
        exact rollbackFailedResult_end_iff standing error refusal
      · have foreign := Bool.eq_false_iff.mpr known
        rw [exec_bind_of_error (exec_recovering_unhandled rolled foreign),
          error_end_iff standing]
        simp only [foreign, Bool.false_eq_true, if_false]
    · have standing := standing_applied standing back
      have restoring : exec (onCanonical (restoreFiles env context)) attempted = (.ok (),
          { attempted with canonical := applyAll attempted.canonical back }) := by
        rw [exec_onCanonical, restored]
      by_cases unaudited : env.auditFault "CANONICAL_INTEGRATION_ROLLBACK_COMPLETED" = true
      · have rolled : exec (rollBack env request context) attempted = (.error .databaseError,
            { attempted with canonical := applyAll attempted.canonical back }) := by
          rw [rollBack, exec_bind_of_ok restoring]
          exact exec_auditEvent_fault "SUCCESS" unaudited _
        rw [exec_bind_of_error (exec_recovering_unhandled rolled rfl),
          error_end_iff standing]
        simp [unaudited]
      · obtain ⟨reported, completed⟩ := exec_auditEvent request "SUCCESS" unaudited
          { attempted with canonical := applyAll attempted.canonical back }
        have rolled : exec (rollBack env request context) attempted = (.ok (), reported) := by
          rw [rollBack, exec_bind_of_ok restoring]
          exact completed
        have standing := standing_unwritten standing
          (respects_exec (unwritten_auditEvent env request _ _) completed)
        rw [exec_bind_of_ok (exec_recovering_ok isGitMutation rolled)]
        refine (failedResult_end_iff standing error true true).trans ?_
        simp [unaudited]

theorem closeWorkflow_ends (standing : Standing request.workflowId world now updates false) :
    ∃ after, exec (closeWorkflow env request) now =
        (if env.flushFault = true ∨ env.auditFault "CANONICAL_INTEGRATION_WORKFLOW_CLOSED" = true then
          .error .databaseError else .ok (), after) ∧
      Standing request.workflowId world after updates true := by
  have state := standing.state
  rw [stateOf] at state
  obtain ⟨workflow, found, -⟩ := Option.map_eq_some_iff.mp state
  let row := { workflow with workflowState := .closed, updatedAt := now.store.now }
  let written := { now with
    store := { now.store.tick with workflows := now.store.workflows.put row } }
  have named : Keyed.key row = request.workflowId :=
    (Table.get?_key found : workflow.id = request.workflowId)
  have stored : (now.store.workflows.put row).get? request.workflowId = some row :=
    Table.get?_put_same found named
  have closed : Standing request.workflowId world written updates true := by
    refine ⟨standing.pending, standing.files, ?_⟩
    rw [stateOf, stored]
    rfl
  rw [closeWorkflow, exec_get_bind, found]
  change ∃ after, exec (if env.flushFault = true then throw .databaseError
    else auditEvent env request "CANONICAL_INTEGRATION_WORKFLOW_CLOSED" "SUCCESS") written = _ ∧ _
  by_cases flush : env.flushFault = true
  · rw [if_pos flush, if_pos (Or.inl flush)]
    exact ⟨written, rfl, closed⟩
  · rw [if_neg flush]
    by_cases fault : env.auditFault "CANONICAL_INTEGRATION_WORKFLOW_CLOSED" = true
    · rw [if_pos (Or.inr fault)]
      exact ⟨written, exec_auditEvent_fault "SUCCESS" fault written, closed⟩
    · obtain ⟨after, audited⟩ := exec_auditEvent request "SUCCESS" fault written
      rw [if_neg (not_or.mpr ⟨flush, fault⟩)]
      exact ⟨after, audited, standing_unwritten closed
        (respects_exec (unwritten_auditEvent env request _ _) audited)⟩

variable {validated : List ValidatedFileContent}

theorem mutation_raised_iff {stopped : World} {error : WorkspaceExc}
    (raised : exec (mutate env request context validated) now = (.error error, stopped))
    (standing : Standing request.workflowId world stopped updates closed) :
    AtomicEnd request.workflowId world (sessionEnd world.store
      (exec (mutation env request context validated) now)) ↔
      if handled error = true then RollbackContained env context world.canonical updates closed
      else Neutral world.canonical updates ∧ (closed = true → error = .databaseError) := by
  by_cases known : handled error = true
  · rw [mutation, exec_bind_of_ok (exec_recovering_handled raised known), if_pos known]
    exact afterFailure_end_iff standing error
  · rw [mutation, exec_bind_of_error
      (exec_recovering_unhandled raised (Bool.eq_false_iff.mpr known)), if_neg known]
    exact error_end_iff standing error

theorem mutation_end_iff (standing : Standing request.workflowId world now [] false) :
    AtomicEnd request.workflowId world (sessionEnd world.store
      (exec (mutation env request context validated) now)) ↔
      Contained env context validated world.canonical := by
  have files : now.canonical = world.canonical := standing.files
  unfold Contained
  rcases applied : applyFiles env context validated world.canonical with ⟨updates, error | evidence⟩
  · have raised : exec (mutate env request context validated) now = (.error error,
        { now with canonical := applyAll now.canonical updates }) := by
      rw [mutate]
      apply exec_bind_of_error
      rw [exec_onCanonical, files, applied]
    rw [mutation_raised_iff raised (standing_applied standing updates)]
    simp
  · have written : exec (onCanonical (applyFiles env context validated)) now = (.ok evidence,
        { now with canonical := applyAll now.canonical updates }) := by
      rw [exec_onCanonical, files, applied]
    obtain ⟨after, closing, standing⟩ := closeWorkflow_ends (standing_applied standing updates)
    by_cases fault : env.flushFault = true ∨
        env.auditFault "CANONICAL_INTEGRATION_WORKFLOW_CLOSED" = true
    · rw [if_pos fault] at closing
      have raised : exec (mutate env request context validated) now =
          (.error .databaseError, after) := by
        rw [mutate, exec_bind_of_ok written]
        exact exec_bind_of_error closing
      rw [mutation_raised_iff raised standing]
      simp [handled, fault]
    · rw [if_neg fault] at closing
      simp only [if_neg fault]
      cases reading : env.fault .completedHead with
      | none =>
        have completed : ∃ result, exec (mutate env request context validated) now =
            (.ok result, after) ∧ result.status = .completed := by
          rw [mutate, exec_bind_of_ok written, exec_bind_of_ok closing, reading]
          exact ⟨_, rfl, rfl⟩
        obtain ⟨result, done, status⟩ := completed
        rw [mutation, exec_bind_of_ok (exec_recovering_ok handled done)]
        exact iff_of_true (settled_end ⟨result, rfl, .inl status⟩) trivial
      | some other =>
        have raised : exec (mutate env request context validated) now =
            (.error other.exc, after) := by
          rw [mutate, exec_bind_of_ok written, exec_bind_of_ok closing, reading]
          rfl
        rw [mutation_raised_iff raised standing]
        cases other <;> simp [handled, ReadFault.exc]

end

def twoFiles : List (String × Bytes) := [("a.txt", [97]), ("b.txt", [98])]

/-- The disk is full when the second file is written. -/
def fullDiskEnvironment : Environment :=
  { calmEnvironment (regularCheckout twoFiles []) with
    writes := ⟨fun _ => false, fun path => if path = "b.txt" then some none else none, fun _ => false,
      fun _ => none, fun _ => false⟩ }

def twoChangesWorld : World :=
  pendingWorld ["a.txt", "b.txt"] ["a.txt", "b.txt"] twoFiles [("a.txt", [65]), ("b.txt", [66])]

end Lucius.Integration
