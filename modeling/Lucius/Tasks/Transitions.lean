import Lucius.Tasks.Service

/-! What an operation on a task writes when it succeeds: the row of a task that is not in
a terminal status, or no task at all. -/

namespace Lucius.Tasks

open Lucius.Action

/-- A task that is not terminal is written, and no workflow. -/
structure TaskWrite (before after : Tables) (task : TaskRow) : Prop where
  present : before.tasks.get? task.id = some task
  unfinished : task.status ∉ terminalStatuses
  written : ∃ row, row.id = task.id ∧ after.tasks = before.tasks.put row
  workflows : after.workflows = before.workflows

/-- What an operation of the service does to the tasks and the workflows. -/
def TaskEffect (before after : Tables) : Prop :=
  (after.tasks = before.tasks ∧ after.workflows = before.workflows) ∨
    ∃ task, TaskWrite before after task

theorem taskEffect_of_tables {before after : Tables} (same : after = before) :
    TaskEffect before after := .inl (same ▸ ⟨rfl, rfl⟩)

theorem taskRow_bind_ok {taskId : String} {α : Type} {next : TaskRow → Op α} {store after : Store}
    {result : α} (done : exec (taskRow taskId >>= next) store = (.ok result, after)) :
    ∃ task, store.tasks.get? task.id = some task ∧ task.id = taskId ∧
      exec (next task) store = (.ok result, after) := by
  obtain ⟨task, middle, read, later⟩ := bind_ok done
  unfold taskRow at read
  rw [exec_get_bind] at read
  cases found : store.tasks.get? taskId with
  | none =>
    rw [found] at read
    cases read
  | some known =>
    rw [found] at read
    cases read
    have named : task.id = taskId := Table.get?_key found
    exact ⟨task, by rw [named, found], named, later⟩

theorem ensureTransition_ok {task : TaskRow} {allowedFrom : List TaskStatus}
    (allowed : ensureTransition task allowedFrom = .ok ()) : task.status ∉ terminalStatuses := by
  unfold ensureTransition at allowed
  split at allowed
  · cases allowed
  · assumption

theorem exec_writeTask (change : Timestamp → TaskRow) (store : Store) :
    exec (writeTask change) store =
      (.ok (change store.now), { store.tick with tasks := store.tasks.put (change store.now) }) := rfl

theorem taskWrite_of_written {store middle after : Store} {task row : TaskRow}
    (present : store.tasks.get? task.id = some task) (opened : task.status ∉ terminalStatuses)
    (named : row.id = task.id) (tasks : middle.tasks = store.tasks)
    (workflows : middle.workflows = store.workflows)
    (final : after.toTables = { middle.toTables with tasks := middle.tasks.put row }) :
    TaskEffect store.toTables after.toTables := by
  refine .inr ⟨task, present, opened, ⟨row, named, ?_⟩, ?_⟩
  · rw [final, tasks]
  · rw [final, workflows]

section

variable {taskId : String} {store after : Store}

/-- The runs as they are when the run that is named has ended. -/
def finishedRuns (tables : Tables) (runId : Option String) (finish : TaskRunRow → TaskRunRow) :
    Table TaskRunRow :=
  match namedRun tables runId with
  | none => tables.taskRuns
  | some run => tables.taskRuns.put (finish run)

theorem exec_finishRun (runId : Option String) (finish : TaskRunRow → Timestamp → TaskRunRow)
    (store : Store) : ∃ later, exec (finishRun runId finish) store = (.ok (), later) ∧
      later.toTables = { store.toTables with
        taskRuns := finishedRuns store.toTables runId (fun run => finish run store.now) } := by
  unfold finishRun finishedRuns
  rw [exec_get_bind]
  cases namedRun store.toTables runId with
  | none => exact ⟨store, rfl, rfl⟩
  | some run => exact ⟨_, rfl, rfl⟩

theorem transition_writes {allowedFrom : List TaskStatus} {change : TaskRow → Timestamp → TaskRow}
    {finish : TaskRunRow → Timestamp → TaskRunRow} {eventType action result : String}
    {runId : Option String} {row : TaskRow}
    (done : exec (transition taskId allowedFrom change finish eventType action result runId) store =
      (.ok row, after)) :
    ∃ task updatedAt finishedAt, store.tasks.get? taskId = some task ∧ task.id = taskId ∧
      ensureTransition task allowedFrom = .ok () ∧
      after.toTables = { store.toTables with
        tasks := store.tasks.put (change task updatedAt)
        taskRuns := finishedRuns store.toTables runId (fun run => finish run finishedAt) } := by
  unfold transition at done
  obtain ⟨task, present, named, done⟩ := taskRow_bind_ok done
  obtain ⟨_, allowed, done⟩ := bind_ofExcept_ok done
  rw [exec_bind_of_ok (exec_writeTask _ _)] at done
  obtain ⟨later, finished, tables⟩ := exec_finishRun runId finish
    { store.tick with tasks := store.tasks.put (change task store.now) }
  rw [exec_bind_of_ok finished, auditTask, exec_bind_of_ok (Op.exec_record _ _)] at done
  have final := congrArg Store.toTables (ok_pure done).2
  exact ⟨task, store.now, _, named ▸ present, named, allowed, final.trans tables⟩

theorem transition_ok {allowedFrom : List TaskStatus} {change : TaskRow → Timestamp → TaskRow}
    (kept : ∀ task updatedAt, (change task updatedAt).id = task.id)
    {finish : TaskRunRow → Timestamp → TaskRunRow} {eventType action result : String}
    {runId : Option String} {row : TaskRow}
    (done : exec (transition taskId allowedFrom change finish eventType action result runId) store =
      (.ok row, after)) : TaskEffect store.toTables after.toTables := by
  obtain ⟨task, updatedAt, finishedAt, present, named, allowed, written⟩ := transition_writes done
  have held : store.tasks.get? task.id = some task := by rw [named, present]
  have tasks : after.tasks = store.tasks.put (change task updatedAt) := by
    have same := congrArg Tables.tasks written
    exact same
  have workflows : after.workflows = store.workflows := by
    have same := congrArg Tables.workflows written
    exact same
  exact .inr ⟨task, held, ensureTransition_ok allowed,
    ⟨change task updatedAt, kept task updatedAt, tasks⟩, workflows⟩

theorem applyBlocker_ok {task row : TaskRow} {blocker : StructuredBlocker}
    (done : exec (applyBlocker task blocker) store = (.ok row, after)) :
    row.id = task.id ∧ after.toTables = { store.toTables with tasks := store.tasks.put row } := by
  unfold applyBlocker at done
  rw [exec_bind_of_ok (Op.exec_utcNow _), exec_writeTask] at done
  cases done
  exact ⟨rfl, rfl⟩

theorem blockTask_ok {code : BlockerCode} {message : String} {row : TaskRow}
    (done : exec (blockTask taskId code message) store = (.ok row, after)) :
    TaskEffect store.toTables after.toTables := by
  unfold blockTask at done
  obtain ⟨task, present, -, done⟩ := taskRow_bind_ok done
  obtain ⟨_, allowed, done⟩ := bind_ofExcept_ok done
  obtain ⟨blocked, middle, applied, done⟩ := bind_ok done
  obtain ⟨named, tables⟩ := applyBlocker_ok applied
  rw [auditTask, exec_bind_of_ok (Op.exec_record _ _)] at done
  have final := congrArg Store.toTables (ok_pure done).2
  exact taskWrite_of_written present (ensureTransition_ok allowed) named rfl rfl (final.trans tables)

theorem validateContract_ok {blockers : List StructuredBlocker}
    (done : exec (validateContract taskId) store = (.ok blockers, after)) : after = store := by
  unfold validateContract at done
  obtain ⟨task, -, -, done⟩ := taskRow_bind_ok done
  rw [exec_get_bind] at done
  exact (ok_ofExcept done).2

theorem markReady_ok {blockers : List StructuredBlocker}
    (done : exec (markReady taskId) store = (.ok blockers, after)) :
    TaskEffect store.toTables after.toTables := by
  unfold markReady at done
  obtain ⟨task, present, -, done⟩ := taskRow_bind_ok done
  obtain ⟨_, allowed, done⟩ := bind_ofExcept_ok done
  obtain ⟨found, middle, validated, done⟩ := bind_ok done
  have same := validateContract_ok validated
  subst same
  cases found with
  | cons first rest =>
    obtain ⟨blocked, last, applied, done⟩ := bind_ok done
    obtain ⟨named, tables⟩ := applyBlocker_ok applied
    rw [auditTask, auditTask, exec_bind_of_ok (Op.exec_record _ _),
      exec_bind_of_ok (Op.exec_record _ _)] at done
    have final := congrArg Store.toTables (ok_pure done).2
    exact taskWrite_of_written present (ensureTransition_ok allowed) named rfl rfl
      (final.trans tables)
  | nil =>
    dsimp only at done
    rw [exec_bind_of_ok (exec_writeTask _ _), auditTask,
      exec_bind_of_ok (Op.exec_record _ _)] at done
    have final := congrArg Store.toTables (ok_pure done).2
    exact taskWrite_of_written present (ensureTransition_ok allowed) (by rfl) rfl rfl final

theorem startRun_ok {snapshotId : Option String} {run : TaskRunRow}
    (done : exec (startRun taskId snapshotId) store = (.ok run, after)) :
    TaskEffect store.toTables after.toTables := by
  unfold startRun at done
  obtain ⟨task, present, -, done⟩ := taskRow_bind_ok done
  split at done
  · cases done
  · next ready =>
      have opened : task.status ∉ terminalStatuses := by
        rw [not_not.mp ready]
        decide
      rw [exec_get_bind] at done
      obtain ⟨_, _, done⟩ := bind_ofExcept_ok done
      rw [exec_bind_of_ok (Op.exec_nextId _ _),
        exec_bind_of_ok (Op.exec_utcNow _)] at done
      obtain ⟨_, middle, added, done⟩ := bind_ok done
      have kept : middle.tasks = store.tasks ∧ middle.workflows = store.workflows := by
        unfold addRun at added
        rw [exec_get_bind] at added
        split at added
        · cases added
        · cases added
          exact ⟨rfl, rfl⟩
      rw [exec_bind_of_ok (exec_writeTask _ _), auditTask,
        exec_bind_of_ok (Op.exec_record _ _)] at done
      have final := congrArg Store.toTables (ok_pure done).2
      exact taskWrite_of_written present opened (by rfl) kept.1 kept.2 final

theorem completeTask_ok {blockers : List StructuredBlocker}
    (done : exec (completeTask taskId) store = (.ok blockers, after)) :
    TaskEffect store.toTables after.toTables := by
  unfold completeTask at done
  obtain ⟨task, present, -, done⟩ := taskRow_bind_ok done
  obtain ⟨_, allowed, done⟩ := bind_ofExcept_ok done
  rw [exec_get_bind] at done
  split at done
  · rw [auditTask, exec_bind_of_ok (Op.exec_record _ _)] at done
    have final := congrArg Store.toTables (ok_pure done).2
    exact taskEffect_of_tables final
  · have final := congrArg Store.toTables (ok_pure done).2
    exact taskEffect_of_tables final
  · rw [exec_bind_of_ok (exec_writeTask _ _), auditTask,
      exec_bind_of_ok (Op.exec_record _ _)] at done
    have final := congrArg Store.toTables (ok_pure done).2
    exact taskWrite_of_written present (ensureTransition_ok allowed) (by rfl) rfl rfl final

theorem failTask_ok {failureReason : String} {runId : Option String} {row : TaskRow}
    (done : exec (failTask taskId failureReason runId) store = (.ok row, after)) :
    TaskEffect store.toTables after.toTables := by
  apply transition_ok _ done
  intro task updatedAt
  rfl

theorem markImplementationComplete_ok {runId outputSummary : Option String} {row : TaskRow}
    (done : exec (markImplementationComplete taskId runId outputSummary) store = (.ok row, after)) :
    TaskEffect store.toTables after.toTables := by
  apply transition_ok _ done
  intro task updatedAt
  rfl

theorem markDocumentationPending_ok {row : TaskRow}
    (done : exec (markDocumentationPending taskId) store = (.ok row, after)) :
    TaskEffect store.toTables after.toTables := by
  apply transition_ok _ done
  intro task updatedAt
  rfl

theorem cancelTask_ok {row : TaskRow}
    (done : exec (cancelTask taskId) store = (.ok row, after)) :
    TaskEffect store.toTables after.toTables := by
  apply transition_ok _ done
  intro task updatedAt
  rfl

end

/-- The operations that move a task between its states. -/
inductive TaskOperation where
  | markReady (taskId : String)
  | startRun (taskId : String) (snapshotId : Option String)
  | blockTask (taskId : String) (code : BlockerCode) (message : String)
  | failTask (taskId failureReason : String) (runId : Option String)
  | markImplementationComplete (taskId : String) (runId outputSummary : Option String)
  | markDocumentationPending (taskId : String)
  | completeTask (taskId : String)
  | cancelTask (taskId : String)

namespace TaskOperation

def attempt : TaskOperation → Op Unit
  | .markReady taskId => do
      let _ ← Tasks.markReady taskId
  | .startRun taskId snapshotId => do
      let _ ← Tasks.startRun taskId snapshotId
  | .blockTask taskId code message => do
      let _ ← Tasks.blockTask taskId code message
  | .failTask taskId failureReason runId => do
      let _ ← Tasks.failTask taskId failureReason runId
  | .markImplementationComplete taskId runId outputSummary => do
      let _ ← Tasks.markImplementationComplete taskId runId outputSummary
  | .markDocumentationPending taskId => do
      let _ ← Tasks.markDocumentationPending taskId
  | .completeTask taskId => do
      let _ ← Tasks.completeTask taskId
  | .cancelTask taskId => do
      let _ ← Tasks.cancelTask taskId

theorem attempt_effect {operation : TaskOperation} {store after : Store}
    (done : exec operation.attempt store = (.ok (), after)) :
    TaskEffect store.toTables after.toTables := by
  have kept {α : Type} {action : Op α}
      (inner : ∀ result last, exec action store = (.ok result, last) →
        TaskEffect store.toTables last.toTables)
      (ended : exec (do let _ ← action; pure () : Op Unit) store = (.ok (), after)) :
      TaskEffect store.toTables after.toTables := by
    obtain ⟨result, last, first, done⟩ := bind_ok ended
    rw [(ok_pure done).2]
    exact inner result last first
  cases operation with
  | markReady taskId => exact kept (fun _ _ => markReady_ok) done
  | startRun taskId snapshotId => exact kept (fun _ _ => startRun_ok) done
  | blockTask taskId code message => exact kept (fun _ _ => blockTask_ok) done
  | failTask taskId failureReason runId => exact kept (fun _ _ => failTask_ok) done
  | markImplementationComplete taskId runId outputSummary =>
    exact kept (fun _ _ => markImplementationComplete_ok) done
  | markDocumentationPending taskId => exact kept (fun _ _ => markDocumentationPending_ok) done
  | completeTask taskId => exact kept (fun _ _ => completeTask_ok) done
  | cancelTask taskId => exact kept (fun _ _ => cancelTask_ok) done

end TaskOperation
end Lucius.Tasks
