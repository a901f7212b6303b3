import Lucius.Lib.Links
import Lucius.Tasks.Runs

/-! What a ready task has been asked when it was last marked ready, and why the dependencies
that are asked about form no cycle.

A contract may be edited at any time, also when its task is ready or complete, and is not
looked at again; so the dependencies here are those of the moment of the marking. -/

namespace Lucius.Tasks.Readiness

open Lucius.Action

/-- A call of `mark_ready` that has returned, with the tables it has looked at. -/
structure Mark where
  taskId : String
  tables : Tables
  blockers : List StructuredBlocker

structure ReadinessState where
  store : Store
  marks : List Mark := []

/-- An operation of the service, or work that does not touch the tasks: that of the projects
and repositories, or of another writer of contracts. -/
inductive ReadinessOperation where
  | service (operation : ServiceOperation)
  | elsewhere (change : Store → Store) (untouched : ∀ store, (change store).tasks = store.tasks)

def marked (store : Store) : ServiceOperation → List Mark
  | .lifecycle (.markReady taskId) =>
    match (exec (markReady taskId) store).1 with
    | .ok blockers => [⟨taskId, store.toTables, blockers⟩]
    | .error _ => []
  | _ => []

def step (state : ReadinessState) : ReadinessOperation → ReadinessState
  | .service operation =>
    { store := (exec operation.attempt state.store).2
      marks := state.marks ++ marked state.store operation }
  | .elsewhere change _ => { state with store := change state.store }

def lastMark (marks : List Mark) (taskId : String) : Option Mark :=
  (marks.filter (fun mark => mark.taskId = taskId)).getLast?

def statusOf (tables : Tables) (taskId : String) : Option TaskStatus :=
  (tables.tasks.get? taskId).map TaskRow.status

def Mark.dependencies (mark : Mark) : List String :=
  ((mark.tables.activeContract mark.taskId).map TaskContractRow.dependencies).getD []

/-- The first task was marked ready while its contract depended on the second. -/
def DependsOn (marks : List Mark) (taskId dependencyId : String) : Prop :=
  ∃ mark ∈ marks, mark.taskId = taskId ∧ mark.blockers = [] ∧ dependencyId ∈ mark.dependencies

/-- What a marking without blockers has found. -/
structure Granted (mark : Mark) : Prop where
  unfinished : ∃ task, mark.tables.tasks.get? mark.taskId = some task ∧ task.status ∉ terminalStatuses ∧
    ∃ contract, mark.tables.activeContract mark.taskId = some contract ∧
      (∃ project, mark.tables.projects.get? task.projectId = some project ∧ project.status = .active) ∧
      ∀ repositoryId ∈ contract.repositoryIds, isAttached mark.tables task.projectId repositoryId = true
  complete : ∀ dependencyId ∈ mark.dependencies, statusOf mark.tables dependencyId = some .complete

/-! ### What an operation does to the statuses -/

/-- No task is made ready, and none that is complete is touched. -/
structure Kept (before after : Store) : Prop where
  ready : ∀ taskId, statusOf after.toTables taskId = some .ready →
    statusOf before.toTables taskId = some .ready
  complete : ∀ taskId, statusOf before.toTables taskId = some .complete →
    statusOf after.toTables taskId = some .complete

theorem kept_of_tasks {before after : Store} (same : after.tasks = before.tasks) : Kept before after := by
  have statuses : ∀ taskId, statusOf after.toTables taskId = statusOf before.toTables taskId := by
    intro taskId
    unfold statusOf
    rw [same]
  exact ⟨fun taskId now => statuses taskId ▸ now, fun taskId done => (statuses taskId).trans done⟩

theorem kept_refl (store : Store) : Kept store store := kept_of_tasks rfl

theorem kept_trans (first second third : Store) (one : Kept first second) (two : Kept second third) :
    Kept first third :=
  ⟨fun taskId now => one.ready taskId (two.ready taskId now),
    fun taskId done => two.complete taskId (one.complete taskId done)⟩

theorem statusOf_put_other {tables : Tables} {row : TaskRow} {taskId : String} (other : row.id ≠ taskId) :
    statusOf { tables with tasks := tables.tasks.put row } taskId = statusOf tables taskId := by
  unfold statusOf
  dsimp only
  rw [Table.get?_put_other _ _ other]

theorem statusOf_put_same {tables : Tables} {row old : TaskRow}
    (present : tables.tasks.get? row.id = some old) :
    statusOf { tables with tasks := tables.tasks.put row } row.id = some row.status := by
  unfold statusOf
  dsimp only
  rw [Table.get?_put_same present rfl]
  rfl

theorem kept_put {before after : Store} {task row : TaskRow} {taskId : String}
    (present : before.tasks.get? taskId = some task) (unfinished : task.status ∉ terminalStatuses)
    (named : row.id = taskId) (unready : row.status ≠ .ready)
    (written : after.tasks = before.tasks.put row) : Kept before after := by
  subst named
  have statuses : ∀ other, statusOf after.toTables other =
      statusOf { before.toTables with tasks := before.tasks.put row } other := by
    intro other
    unfold statusOf
    rw [written]
  constructor
  · intro other now
    rw [statuses] at now
    by_cases same : row.id = other
    · subst same
      rw [statusOf_put_same present] at now
      exact absurd (Option.some.inj now) unready
    · rwa [statusOf_put_other same] at now
  · intro other done
    rw [statuses]
    by_cases same : row.id = other
    · subst same
      unfold statusOf at done
      rw [present] at done
      have complete : task.status = .complete := Option.some.inj done
      rw [complete] at unfinished
      exact absurd (by decide) unfinished
    · rwa [statusOf_put_other same]

theorem kept_add {before after : Store} {row : TaskRow} (fresh : before.tasks.get? row.id = none)
    (unready : row.status ≠ .ready) (written : after.tasks = before.tasks.add row) :
    Kept before after := by
  constructor
  · intro taskId now
    unfold statusOf at now ⊢
    rw [written] at now
    by_cases same : row.id = taskId
    · subst same
      rw [show (before.tasks.add row).get? row.id = some row from Table.get?_add_fresh fresh] at now
      exact absurd (Option.some.inj now) unready
    · rwa [Table.get?_add_other same] at now
  · intro taskId done
    unfold statusOf at done ⊢
    obtain ⟨old, present, complete⟩ := Option.map_eq_some_iff.mp done
    rw [written, Table.get?_add_old present, ← complete]
    rfl

theorem kept_of_same {α : Type} {action : Op α} (same : Respects SameTables action) : Respects Kept action :=
  respects_mono (fun _ _ tables => kept_of_tasks (congrArg Tables.tasks tables)) same

theorem taskRow_kept (taskId : String) : Respects Kept (taskRow taskId) :=
  kept_of_same (Runs.taskRow_same taskId)

theorem auditTask_kept (task : TaskRow) (eventType action result : String) (runId : Option String) :
    Respects Kept (auditTask task eventType action result runId) := kept_of_same (record_same _)

theorem ofExcept_kept {α : Type} (value : Except PyExc α) :
    Respects Kept (Action.ofExcept value : Op α) := respects_ofExcept kept_refl value

theorem pure_kept {α : Type} (value : α) : Respects Kept (pure value : Op α) :=
  respects_pure kept_refl value

theorem throw_kept {α : Type} (error : PyExc) : Respects Kept (throw error : Op α) :=
  respects_throw kept_refl error

theorem get_kept : Respects Kept (get : Op Store) := respects_get kept_refl

theorem createTask_kept (projectId title objective : String) (level : AuthorityLevel) :
    Respects Kept (createTask projectId title objective level) := by
  apply respects_bind kept_trans get_kept
  intro store
  cases store.projects.get? projectId with
  | none => exact throw_kept _
  | some project =>
    dsimp only
    split
    · exact throw_kept _
    · apply respects_bind kept_trans (kept_of_same (nextId_same .task))
      intro id
      apply respects_bind kept_trans (kept_of_same utcNow_same)
      intro updatedAt current
      rw [exec_get_bind]
      split
      · exact kept_refl current
      · rename_i fresh
        rw [exec_bind_of_ok (exec_set _ _), auditTask,
          exec_bind_of_ok (Op.exec_record _ _)]
        exact kept_add (Option.not_isSome_iff_eq_none.mp fresh) (by simp) rfl

theorem createOrUpdateContract_kept (taskId : String) (terms : ContractTerms) :
    Respects Kept (createOrUpdateContract taskId terms) := by
  apply respects_bind kept_trans (taskRow_kept taskId)
  intro task
  apply respects_bind kept_trans (ofExcept_kept _)
  intro criteria
  apply respects_bind kept_trans (ofExcept_kept _)
  intro actions
  apply respects_bind kept_trans get_kept
  intro store
  cases store.activeContract task.id with
  | some latest =>
    apply respects_bind kept_trans (kept_of_same utcNow_same)
    intro _
    apply respects_bind kept_trans
    · exact respects_modify fun _ => kept_of_tasks rfl
    · intro _
      apply respects_bind kept_trans (auditTask_kept _ _ _ _ _)
      intro _
      exact pure_kept _
  | none =>
    apply respects_bind kept_trans (kept_of_same (nextId_same .taskContract))
    intro id
    apply respects_bind kept_trans (kept_of_same utcNow_same)
    intro _
    apply respects_bind kept_trans
    · intro current
      unfold addContract
      rw [exec_get_bind]
      split
      · exact kept_refl current
      · exact kept_of_tasks rfl
    · intro _
      apply respects_bind kept_trans (auditTask_kept _ _ _ _ _)
      intro _
      exact pure_kept _

theorem validateContract_kept (taskId : String) : Respects Kept (validateContract taskId) := by
  apply respects_bind kept_trans (taskRow_kept taskId)
  intro task
  apply respects_bind kept_trans get_kept
  intro store
  exact ofExcept_kept _

theorem recordDocumentationCompletion_kept (taskId : String)
    (targetsCompleted evidenceReferences : List String) :
    Respects Kept (recordDocumentationCompletion taskId targetsCompleted evidenceReferences) := by
  apply respects_bind kept_trans (taskRow_kept taskId)
  intro task
  apply respects_bind kept_trans get_kept
  intro store
  cases documentationCompletion store.toTables task.id with
  | some existing =>
    apply respects_bind kept_trans (kept_of_same utcNow_same)
    intro _
    apply respects_bind kept_trans
    · exact respects_modify fun _ => kept_of_tasks rfl
    · intro _
      exact pure_kept _
  | none =>
    apply respects_bind kept_trans (kept_of_same (nextId_same _))
    intro id
    apply respects_bind kept_trans (kept_of_same utcNow_same)
    intro _ current
    rw [exec_get_bind]
    split
    · exact kept_refl current
    · exact kept_of_tasks rfl

theorem transition_kept {taskId : String} {allowedFrom : List TaskStatus}
    {change : TaskRow → Timestamp → TaskRow} {finish : TaskRunRow → Timestamp → TaskRunRow}
    {eventType action result : String} {runId : Option String}
    (same : ∀ task updatedAt, (change task updatedAt).id = task.id)
    (unready : ∀ task updatedAt, (change task updatedAt).status ≠ .ready) :
    Respects Kept (transition taskId allowedFrom change finish eventType action result runId) := by
  intro store
  rcases ended : exec (transition taskId allowedFrom change finish eventType action result runId) store
    with ⟨outcome, after⟩
  rcases Runs.transition_ends ended with
    ⟨_, kept⟩ | ⟨task, updatedAt, _, present, named, ⟨other, held, allowed⟩, tasks, _⟩
  · rw [kept]
    exact kept_refl store
  · rw [present] at held
    cases held
    exact kept_put present (ensureTransition_ok allowed) ((same task updatedAt).trans named)
      (unready task updatedAt) tasks

/-- What blocking a task leaves of its row. -/
def blockedRow (task : TaskRow) (blocker : StructuredBlocker) (blockedAt updatedAt : Timestamp) : TaskRow :=
  { task with
    status := .blocked
    blockerCode := some (StrEnum.value blocker.code)
    blockerMessage := some blocker.message
    blockedAt := some blockedAt
    updatedAt := updatedAt }

theorem exec_applyBlocker (task : TaskRow) (blocker : StructuredBlocker) (store : Store) :
    ∃ blockedAt updatedAt after, exec (applyBlocker task blocker) store =
      (.ok (blockedRow task blocker blockedAt updatedAt), after) ∧
        after.tasks = store.tasks.put (blockedRow task blocker blockedAt updatedAt) :=
  ⟨_, _, _, rfl, rfl⟩

theorem blockTask_kept (taskId : String) (code : BlockerCode) (message : String) :
    Respects Kept (blockTask taskId code message) := by
  intro store
  unfold blockTask
  cases found : store.tasks.get? taskId with
  | none =>
    rw [exec_bind_of_error (Runs.exec_taskRow_none found)]
    exact kept_refl store
  | some task =>
    rw [exec_bind_of_ok (Runs.exec_taskRow_some found)]
    cases allowed : ensureTransition task [.draft, .ready, .running, .blocked] with
    | error refusal => exact kept_refl store
    | ok _ =>
      obtain ⟨blockedAt, updatedAt, after, applied, tasks⟩ := exec_applyBlocker task ⟨code, message⟩ store
      rw [exec_bind_ofExcept rfl, exec_bind_of_ok applied, auditTask,
        exec_bind_of_ok (Op.exec_record _ _)]
      have named : (blockedRow task ⟨code, message⟩ blockedAt updatedAt).id = taskId :=
        Table.get?_key found
      have blocked : (blockedRow task ⟨code, message⟩ blockedAt updatedAt).status ≠ .ready := by
        simp [blockedRow]
      exact kept_put found (ensureTransition_ok allowed) named blocked tasks

theorem startRun_kept (taskId : String) (snapshotId : Option String) :
    Respects Kept (startRun taskId snapshotId) := by
  intro store
  rcases ended : exec (startRun taskId snapshotId) store with ⟨outcome, after⟩
  rcases Runs.startRun_ends ended with
    ⟨_, same⟩ | ⟨task, row, _, ⟨⟨other, held, ready, _⟩, _⟩, present, named, running, _, _, _, tasks, _⟩
  · exact kept_of_tasks (congrArg Tables.tasks same)
  · rw [present] at held
    cases held
    apply kept_put present _ named _ tasks
    · rw [ready]
      decide
    · rw [running]
      decide

theorem completeTask_kept (taskId : String) : Respects Kept (completeTask taskId) := by
  intro store
  rcases ended : exec (completeTask taskId) store with ⟨outcome, after⟩
  rcases Runs.completeTask_ends ended with
    ⟨_, same⟩ | ⟨task, updatedAt, present, named, ⟨other, held, allowed, _⟩, _, tasks⟩
  · exact kept_of_tasks (congrArg Tables.tasks same)
  · rw [present] at held
    cases held
    exact kept_put present (ensureTransition_ok allowed) (by exact named) (by simp) tasks

/-- How a marking ends: it raises, it blocks the task for the first blocker, or the task is
ready. -/
inductive MarkEnd (store : Store) (taskId : String) :
    Except PyExc (List StructuredBlocker) → Store → Prop
  | raised {error : PyExc} {after : Store} (tasks : after.tasks = store.tasks) :
      MarkEnd store taskId (.error error) after
  | blocked {task : TaskRow} {first : StructuredBlocker} {rest : List StructuredBlocker}
      {blockedAt updatedAt : Timestamp} {after : Store}
      (present : store.tasks.get? taskId = some task) (unfinished : task.status ∉ terminalStatuses)
      (tasks : after.tasks = store.tasks.put (blockedRow task first blockedAt updatedAt)) :
      MarkEnd store taskId (.ok (first :: rest)) after
  | ready {task row : TaskRow} {after : Store}
      (present : store.tasks.get? taskId = some task) (unfinished : task.status ∉ terminalStatuses)
      (valid : contractBlockers store.toTables task = .ok []) (named : row.id = taskId)
      (status : row.status = .ready) (tasks : after.tasks = store.tasks.put row) :
      MarkEnd store taskId (.ok []) after

theorem exec_validateContract {taskId : String} {task : TaskRow} {store : Store}
    (present : store.tasks.get? taskId = some task) :
    exec (validateContract taskId) store = (contractBlockers store.toTables task, store) := by
  unfold validateContract
  rw [exec_bind_of_ok (Runs.exec_taskRow_some present), exec_get_bind,
    exec_ofExcept]

theorem markReady_end (store : Store) (taskId : String) :
    MarkEnd store taskId (exec (markReady taskId) store).1 (exec (markReady taskId) store).2 := by
  unfold markReady
  cases found : store.tasks.get? taskId with
  | none =>
    rw [exec_bind_of_error (Runs.exec_taskRow_none found)]
    exact .raised rfl
  | some task =>
    have named : task.id = taskId := Table.get?_key found
    rw [exec_bind_of_ok (Runs.exec_taskRow_some found)]
    cases allowed : ensureTransition task [.draft, .blocked, .failed] with
    | error refusal => exact .raised rfl
    | ok _ =>
      have unfinished := ensureTransition_ok allowed
      have held : store.tasks.get? task.id = some task := by rw [named, found]
      have validated := exec_validateContract held
      rw [exec_bind_ofExcept rfl]
      cases read : contractBlockers store.toTables task with
      | error error =>
        rw [read] at validated
        rw [exec_bind_of_error validated]
        exact .raised rfl
      | ok blockers =>
        rw [read] at validated
        rw [exec_bind_of_ok validated]
        cases blockers with
        | nil =>
          dsimp only
          rw [exec_bind_of_ok (exec_writeTask _ _), auditTask,
            exec_bind_of_ok (Op.exec_record _ _)]
          let row : TaskRow :=
            { task with
              status := .ready
              blockerCode := none
              blockerMessage := none
              blockedAt := none
              updatedAt := store.now }
          exact @MarkEnd.ready store taskId task row _ found unfinished read named rfl rfl
        | cons first rest =>
          obtain ⟨blockedAt, updatedAt, after, applied, tasks⟩ := exec_applyBlocker task first store
          dsimp only
          rw [exec_bind_of_ok applied, auditTask, auditTask,
            exec_bind_of_ok (Op.exec_record _ _),
            exec_bind_of_ok (Op.exec_record _ _)]
          exact .blocked found unfinished tasks

/-- Every operation but a marking that succeeds keeps what is ready and what is complete. -/
theorem attempt_kept (store : Store) (operation : ServiceOperation)
    (unmarked : ∀ mark ∈ marked store operation, mark.blockers ≠ []) :
    Kept store (exec operation.attempt store).2 := by
  have discarded {α : Type} {action : Op α} (kept : Respects Kept action) :
      Kept store (exec (do let _ ← action; pure () : Op Unit) store).2 := by
    rw [Runs.exec_discarded]
    exact kept store
  cases operation with
  | createTask projectId title objective level => exact discarded (createTask_kept _ _ _ _)
  | createOrUpdateContract taskId terms => exact discarded (createOrUpdateContract_kept _ _)
  | validateContract taskId => exact discarded (validateContract_kept _)
  | recordDocumentationCompletion taskId targets references =>
    exact discarded (recordDocumentationCompletion_kept _ _ _)
  | lifecycle operation =>
    cases operation with
    | startRun taskId snapshotId => exact discarded (startRun_kept _ _)
    | blockTask taskId code message => exact discarded (blockTask_kept _ _ _)
    | failTask taskId failureReason runId =>
      exact discarded (transition_kept (fun _ _ => rfl) (by simp))
    | markImplementationComplete taskId runId outputSummary =>
      exact discarded (transition_kept (fun _ _ => rfl) (by simp))
    | markDocumentationPending taskId =>
      exact discarded (transition_kept (fun _ _ => rfl) (by simp))
    | cancelTask taskId => exact discarded (transition_kept (fun _ _ => rfl) (by simp))
    | completeTask taskId => exact discarded (completeTask_kept _)
    | markReady taskId =>
      have ends := markReady_end store taskId
      have left : (exec (ServiceOperation.lifecycle (.markReady taskId)).attempt store).2 =
          (exec (markReady taskId) store).2 := Runs.exec_discarded _ store
      rw [left]
      unfold marked at unmarked
      dsimp only at unmarked
      generalize (exec (markReady taskId) store).2 = after at ends ⊢
      generalize (exec (markReady taskId) store).1 = outcome at ends unmarked
      cases ends with
      | raised tasks => exact kept_of_tasks tasks
      | @blocked task first rest blockedAt updatedAt _ present unfinished tasks =>
        have named : (blockedRow task first blockedAt updatedAt).id = taskId :=
          Table.get?_key present
        have blocked : (blockedRow task first blockedAt updatedAt).status ≠ .ready := by
          simp [blockedRow]
        exact kept_put present unfinished named blocked tasks
      | ready => exact absurd rfl (unmarked _ (List.mem_singleton_self _))

end Lucius.Tasks.Readiness
