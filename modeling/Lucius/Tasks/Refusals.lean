import Lucius.Tasks.Runs

/-! What an operation on a task leaves of the tasks and the workflows when it is refused, and so
what it does to them however it ends. -/

namespace Lucius.Tasks

open Lucius.Action

def Untouched (before after : Store) : Prop :=
  after.tasks = before.tasks ∧ after.workflows = before.workflows

theorem untouched_refl (store : Store) : Untouched store store := ⟨rfl, rfl⟩

theorem untouched_trans (first second third : Store) (one : Untouched first second)
    (two : Untouched second third) : Untouched first third :=
  ⟨two.1.trans one.1, two.2.trans one.2⟩

theorem sameTables_untouched {α : Type} {action : Op α} (same : Respects SameTables action) :
    Respects Untouched action :=
  respects_mono
    (fun _ _ tables => ⟨congrArg Tables.tasks tables, congrArg Tables.workflows tables⟩) same

theorem taskRow_untouched (taskId : String) : Respects Untouched (taskRow taskId) :=
  sameTables_untouched (Runs.taskRow_same taskId)

theorem ofExcept_untouched {α : Type} (value : Except PyExc α) :
    Respects Untouched (Action.ofExcept value : Op α) := respects_ofExcept untouched_refl value

theorem validateContract_untouched (taskId : String) : Respects Untouched (validateContract taskId) := by
  apply respects_bind untouched_trans (taskRow_untouched taskId)
  intro task
  apply respects_bind untouched_trans (respects_get untouched_refl)
  intro store
  exact ofExcept_untouched _

theorem addRun_untouched (run : TaskRunRow) : Respects Untouched (addRun run) := by
  intro store
  unfold addRun
  rw [exec_get_bind]
  split
  · exact untouched_refl store
  · exact ⟨rfl, rfl⟩

/-! ### What no exception can come of -/

theorem writeTask_returns (change : Timestamp → TaskRow) : Returns (writeTask change) :=
  fun _ => ⟨_, _, rfl⟩

theorem applyBlocker_returns (task : TaskRow) (blocker : StructuredBlocker) :
    Returns (applyBlocker task blocker) := fun _ => ⟨_, _, rfl⟩

theorem auditTask_returns (task : TaskRow) (eventType action result : String) (runId : Option String) :
    Returns (auditTask task eventType action result runId) := fun _ => ⟨_, _, rfl⟩

theorem finishRun_returns (runId : Option String) (finish : TaskRunRow → Timestamp → TaskRunRow) :
    Returns (finishRun runId finish) := by
  intro store
  obtain ⟨later, finished, -⟩ := exec_finishRun runId finish store
  exact ⟨(), later, finished⟩

/-! ### The operations that are refused -/

theorem transition_refused (taskId : String) (allowedFrom : List TaskStatus)
    (change : TaskRow → Timestamp → TaskRow) (finish : TaskRunRow → Timestamp → TaskRunRow)
    (eventType action result : String) (runId : Option String) :
    OnRaise Untouched (transition taskId allowedFrom change finish eventType action result runId) := by
  apply onRaise_bind untouched_trans (taskRow_untouched taskId)
  intro task
  apply onRaise_bind untouched_trans (ofExcept_untouched _)
  intro _
  apply onRaise_of_returns
  apply returns_bind (writeTask_returns _)
  intro row
  apply returns_bind (finishRun_returns _ _)
  intro _
  apply returns_bind (auditTask_returns _ _ _ _ _)
  intro _
  exact returns_pure row

theorem blockTask_refused (taskId : String) (code : BlockerCode) (message : String) :
    OnRaise Untouched (blockTask taskId code message) := by
  apply onRaise_bind untouched_trans (taskRow_untouched taskId)
  intro task
  apply onRaise_bind untouched_trans (ofExcept_untouched _)
  intro _
  apply onRaise_of_returns
  apply returns_bind (applyBlocker_returns _ _)
  intro blocked
  apply returns_bind (auditTask_returns _ _ _ _ _)
  intro _
  exact returns_pure blocked

theorem markReady_refused (taskId : String) : OnRaise Untouched (markReady taskId) := by
  apply onRaise_bind untouched_trans (taskRow_untouched taskId)
  intro task
  apply onRaise_bind untouched_trans (ofExcept_untouched _)
  intro _
  apply onRaise_bind untouched_trans (validateContract_untouched task.id)
  intro blockers
  apply onRaise_of_returns
  cases blockers with
  | cons first rest =>
    apply returns_bind (applyBlocker_returns _ _)
    intro blocked
    apply returns_bind (auditTask_returns _ _ _ _ _)
    intro _
    apply returns_bind (auditTask_returns _ _ _ _ _)
    intro _
    exact returns_pure _
  | nil =>
    apply returns_bind (writeTask_returns _)
    intro ready
    apply returns_bind (auditTask_returns _ _ _ _ _)
    intro _
    exact returns_pure _

theorem startRun_refused (taskId : String) (snapshotId : Option String) :
    OnRaise Untouched (startRun taskId snapshotId) := by
  apply onRaise_bind untouched_trans (taskRow_untouched taskId)
  intro task
  split
  · exact onRaise_of_respects (respects_throw untouched_refl _)
  · apply onRaise_bind untouched_trans (respects_get untouched_refl)
    intro store
    apply onRaise_bind untouched_trans (ofExcept_untouched _)
    intro _
    apply onRaise_bind untouched_trans (sameTables_untouched (nextId_same _))
    intro id
    apply onRaise_bind untouched_trans (sameTables_untouched utcNow_same)
    intro _
    apply onRaise_bind untouched_trans (addRun_untouched _)
    intro _
    apply onRaise_of_returns
    apply returns_bind (writeTask_returns _)
    intro running
    apply returns_bind (auditTask_returns _ _ _ _ _)
    intro _
    exact returns_pure _

theorem completeTask_refused (taskId : String) : OnRaise Untouched (completeTask taskId) := by
  apply onRaise_bind untouched_trans (taskRow_untouched taskId)
  intro task
  apply onRaise_bind untouched_trans (ofExcept_untouched _)
  intro _
  apply onRaise_bind untouched_trans (respects_get untouched_refl)
  intro store
  apply onRaise_of_returns
  split
  · apply returns_bind (auditTask_returns _ _ _ _ _)
    intro _
    exact returns_pure _
  · exact returns_pure _
  · apply returns_bind (writeTask_returns _)
    intro complete
    apply returns_bind (auditTask_returns _ _ _ _ _)
    intro _
    exact returns_pure _

theorem TaskOperation.attempt_refused (operation : TaskOperation) :
    OnRaise Untouched operation.attempt := by
  have forgets {α : Type} {action : Op α} (refused : OnRaise Untouched action) :
      OnRaise Untouched (do let _ ← action; pure () : Op Unit) :=
    onRaise_bind_returns refused fun _ => returns_pure ()
  cases operation with
  | markReady taskId => exact forgets (markReady_refused taskId)
  | startRun taskId snapshotId => exact forgets (startRun_refused taskId snapshotId)
  | blockTask taskId code message => exact forgets (blockTask_refused taskId code message)
  | failTask taskId failureReason runId => exact forgets (transition_refused _ _ _ _ _ _ _ _)
  | markImplementationComplete taskId runId outputSummary =>
    exact forgets (transition_refused _ _ _ _ _ _ _ _)
  | markDocumentationPending taskId => exact forgets (transition_refused _ _ _ _ _ _ _ _)
  | completeTask taskId => exact forgets (completeTask_refused taskId)
  | cancelTask taskId => exact forgets (transition_refused _ _ _ _ _ _ _ _)

theorem TaskOperation.attempt_leaves (operation : TaskOperation) (store : Store) :
    TaskEffect store.toTables (exec operation.attempt store).2.toTables := by
  rcases ended : exec operation.attempt store with ⟨error | nothing, after⟩
  · exact .inl (operation.attempt_refused store error after ended)
  · exact operation.attempt_effect ended

end Lucius.Tasks
