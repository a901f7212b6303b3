import Lucius.Runtime.Preparation
import Lucius.Tasks.Runs

/-! The two gates of documentation: the one a task is completed through, and the one the runtime
settles the task of a completed workflow by. -/

namespace Lucius.Runtime

open Lucius.Action Tasks Tasks.Runs Router

/-- The store in which a task has another status. -/
def withStatus (store : Store) (task : TaskRow) (status : TaskStatus) : Store :=
  { store with tasks := store.tasks.put { task with status := status } }

/-- The task service, asked to complete the task, has nothing against it. -/
def CompletionAccepted (store : Store) (taskId : String) : Prop :=
  (exec (completeTask taskId) store).1 = .ok []

def documentationNeeded (tables : Tables) (taskId : String) : Bool :=
  (tables.activeContract taskId).any TaskContractRow.documentationRequired

theorem completionAccepted_iff {store : Store} {taskId : String} {task : TaskRow}
    (found : store.tasks.get? taskId = some task)
    (allowed : ensureTransition task [.implementationComplete, .documentationPending] = .ok ()) :
    CompletionAccepted store taskId ↔ documentationGap store.toTables task = none := by
  unfold CompletionAccepted completeTask
  rw [exec_bind_of_ok (exec_taskRow_some found), exec_bind_ofExcept allowed,
    exec_get_bind]
  rcases documentationGap store.toTables task with _ | ⟨blocker, recorded⟩
  · dsimp only
    rw [exec_bind_of_ok (exec_writeTask _ _), auditTask,
      exec_bind_of_ok (Op.exec_record _ _)]
    exact iff_of_true rfl rfl
  · refine iff_of_false ?_ (Option.some_ne_none _)
    cases recorded
    · dsimp only
      rw [exec_pure]
      exact fun accepted => List.cons_ne_nil _ _ (Except.ok.inj accepted)
    · dsimp only
      rw [auditTask, exec_bind_of_ok (Op.exec_record _ _), exec_pure]
      exact fun accepted => List.cons_ne_nil _ _ (Except.ok.inj accepted)

theorem gap_pending_iff {tables : Tables} {task : TaskRow} (pending : task.status = .documentationPending) :
    documentationGap tables task = none ↔ completedWorkflowTaskStatus tables task.id = .complete := by
  unfold documentationGap completedWorkflowTaskStatus
  cases tables.activeContract task.id with
  | none => exact iff_of_true rfl rfl
  | some contract =>
    dsimp only
    cases contract.documentationRequired with
    | false => exact iff_of_true rfl rfl
    | true =>
      simp only [Bool.not_true, Bool.false_eq_true, if_false]
      cases Tasks.documentationCompletion tables task.id with
      | none => simp
      | some completion =>
        dsimp only
        rw [pending]
        by_cases bare : completion.evidenceReferences = []
        · simp [bare]
        · simp [bare]

theorem gap_of_not_needed {tables : Tables} {task : TaskRow}
    (needless : documentationNeeded tables task.id = false) : documentationGap tables task = none := by
  unfold documentationGap
  unfold documentationNeeded at needless
  cases active : tables.activeContract task.id with
  | none => rfl
  | some contract =>
    rw [active, Option.any_some] at needless
    dsimp only
    rw [needless]
    rfl

theorem complete_of_not_needed {tables : Tables} {taskId : String}
    (needless : documentationNeeded tables taskId = false) :
    completedWorkflowTaskStatus tables taskId = .complete := by
  unfold completedWorkflowTaskStatus
  unfold documentationNeeded at needless
  cases active : tables.activeContract taskId with
  | none => rfl
  | some contract =>
    rw [active, Option.any_some] at needless
    dsimp only
    rw [needless]
    rfl

section

variable {store : Store} {task : TaskRow}

theorem withStatus_found (present : store.tasks.get? task.id = some task) (status : TaskStatus) :
    (withStatus store task status).tasks.get? task.id = some { task with status := status } :=
  Table.get?_put_same present rfl

/-- Asked for a task with pending documentation, the task service judges as the runtime does. -/
theorem accepted_pending_iff (present : store.tasks.get? task.id = some task) :
    CompletionAccepted (withStatus store task .documentationPending) task.id ↔
      completedWorkflowTaskStatus store.toTables task.id = .complete := by
  rw [completionAccepted_iff (withStatus_found present _) rfl]
  exact gap_pending_iff rfl

theorem accepted_implemented (present : store.tasks.get? task.id = some task)
    (needless : documentationNeeded store.toTables task.id = false) :
    CompletionAccepted (withStatus store task .implementationComplete) task.id := by
  rw [completionAccepted_iff (withStatus_found present _) rfl]
  exact gap_of_not_needed needless

end

theorem reconciled_status {workflowId : String} {store : Store} {workflow : PersistentWorkflowRow}
    {task : TaskRow} (found : store.workflows.get? workflowId = some workflow)
    (bound : (nonEmpty workflow.taskId).bind store.tasks.get? = some task)
    (completed : workflowSuccessfullyCompleted workflow = true) :
    ((exec (reconcileCompletedWorkflowParentTask workflowId) store).2.tasks.get? task.id).map
      TaskRow.status = some (completedWorkflowTaskStatus store.toTables task.id) := by
  have parent : parentTask store.toTables workflow = some task := by
    unfold parentTask
    rw [if_pos completed]
    exact bound
  obtain ⟨-, -, present⟩ := parentTask_present parent
  unfold reconcileCompletedWorkflowParentTask reconcileParentTask
  rw [exec_get_bind, found]
  dsimp only
  rw [parent]
  dsimp only
  rw [exec_get_bind]
  split
  · rename_i settled
    rw [exec_pure, present, Option.map_some, settled.1]
  · have written := Table.get?_put_same present
      (rfl : (reconciledTask task (completedWorkflowTaskStatus store.toTables task.id) store.now).id = task.id)
    calc ((store.tasks.put (reconciledTask task _ store.now)).get? task.id).map TaskRow.status
      _ = _ := by rw [written]; rfl

/-- The runtime completes the task of a completed workflow exactly when the task service would
complete it, once its documentation is pending or, where none is required, its implementation
complete; otherwise the documentation is pending. -/
theorem documentation_gates_agree (workflowId : String) (store : Store)
    (workflow : PersistentWorkflowRow) (task : TaskRow)
    (found : store.workflows.get? workflowId = some workflow)
    (bound : (nonEmpty workflow.taskId).bind store.tasks.get? = some task)
    (completed : workflowSuccessfullyCompleted workflow = true) :
    ∃ status, ((exec (reconcileCompletedWorkflowParentTask workflowId) store).2.tasks.get? task.id).map
        TaskRow.status = some status ∧
      (status = .complete ↔
        CompletionAccepted (withStatus store task .documentationPending) task.id) ∧
      (documentationNeeded store.toTables task.id = false → (status = .complete ↔
        CompletionAccepted (withStatus store task .implementationComplete) task.id)) ∧
      (status ≠ .complete → status = .documentationPending) := by
  have present := (nonEmpty_bind_get? bound).2
  refine ⟨_, reconciled_status found bound completed, (accepted_pending_iff present).symm, ?_, ?_⟩
  · intro needless
    exact iff_of_true (complete_of_not_needed needless) (accepted_implemented present needless)
  · intro incomplete
    exact (completedWorkflowTaskStatus_cases store.toTables task.id).resolve_left incomplete

def finishedWorkflow : PersistentWorkflowRow where
  id := "LWORK_000001"
  taskId := some "LTASK_000001"
  workflowState := .implementing
  taskBacklog := [[("item_id", .str "first"), ("state", .str "COMPLETED")]]
  completedTaskIds := ["first"]

/-- A contract that asks for a document, and a record that names it without evidence. -/
def undocumentedStore : Store where
  tasks := ⟨[{ id := "LTASK_000001", projectId := "LPROJ_000001", status := .running }], by decide⟩
  contracts := ⟨[{
    id := "LCONTR_000001"
    taskId := "LTASK_000001"
    documentationRequired := true
    documentationTargets := ["README.md"] }], by decide⟩
  documentationCompletions := ⟨[{
    id := "LDOC_000001"
    taskId := "LTASK_000001"
    targetsCompleted := ["README.md"] }], by decide⟩
  workflows := ⟨[finishedWorkflow], by decide⟩

theorem undocumented_gates_agree :
    ∃ status, ((exec (reconcileCompletedWorkflowParentTask "LWORK_000001") undocumentedStore).2.tasks.get?
        "LTASK_000001").map TaskRow.status = some status ∧
      (status = .complete ↔ CompletionAccepted (withStatus undocumentedStore
        { id := "LTASK_000001", projectId := "LPROJ_000001", status := .running } .documentationPending)
        "LTASK_000001") := by
  obtain ⟨status, reached, pending, -⟩ := documentation_gates_agree "LWORK_000001" undocumentedStore
    finishedWorkflow { id := "LTASK_000001", projectId := "LPROJ_000001", status := .running } rfl rfl
    (by decide +kernel)
  exact ⟨status, reached, pending⟩

end Lucius.Runtime
