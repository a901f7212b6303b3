import Lucius.Lib.Run
import Lucius.Tasks.Creation

/-! The runs of a task: how many of them are running, and which operations leave one of them
running behind a task that has ended. -/

namespace Lucius.Tasks

open Lucius.Action

/-- The operations of the service. -/
inductive ServiceOperation where
  | createTask (projectId title objective : String) (authorityLevel : AuthorityLevel)
  | createOrUpdateContract (taskId : String) (terms : ContractTerms)
  | validateContract (taskId : String)
  | recordDocumentationCompletion (taskId : String) (targetsCompleted evidenceReferences : List String)
  | lifecycle (operation : TaskOperation)

namespace ServiceOperation

def attempt : ServiceOperation → Op Unit
  | .createTask projectId title objective level => do
      let _ ← Tasks.createTask projectId title objective level
  | .createOrUpdateContract taskId terms => do
      let _ ← Tasks.createOrUpdateContract taskId terms
  | .validateContract taskId => do
      let _ ← Tasks.validateContract taskId
  | .recordDocumentationCompletion taskId targets references => do
      let _ ← Tasks.recordDocumentationCompletion taskId targets references
  | .lifecycle operation => operation.attempt

end ServiceOperation

namespace Runs

/-- What a call leaves, whether it returns or raises. -/
def step (store : Store) (operation : ServiceOperation) : Store := (exec operation.attempt store).2

def endedStatuses : List TaskStatus := [.complete, .cancelled, .failed]

def running (tables : Tables) (taskId : String) : List TaskRunRow :=
  tables.taskRuns.rows.filter (fun run => run.taskId = taskId ∧ run.status = .running)

theorem mem_running {tables : Tables} {taskId : String} {run : TaskRunRow} :
    run ∈ running tables taskId ↔
      run ∈ tables.taskRuns.rows ∧ run.taskId = taskId ∧ run.status = .running := by
  rw [running, List.mem_filter, decide_eq_true_eq]

/-- A task has one running run at most, and none once it has ended. -/
structure Settled (tables : Tables) : Prop where
  single : ∀ taskId, ∀ first ∈ running tables taskId, ∀ second ∈ running tables taskId, first = second
  ended : ∀ task ∈ tables.tasks.rows, task.status ∈ endedStatuses → running tables task.id = []

/-! ### The operations that start no run and end no task -/

/-- No run is started, and no task is brought to an end. -/
structure Spared (before after : Store) : Prop where
  runs : ∀ run ∈ after.taskRuns.rows, run.status = .running → run ∈ before.taskRuns.rows
  tasks : ∀ task ∈ after.tasks.rows, task.status ∈ endedStatuses → task ∈ before.tasks.rows

theorem spared_of_tables {before after : Store} (same : after.toTables = before.toTables) :
    Spared before after := by
  have runs := congrArg Tables.taskRuns same
  have tasks := congrArg Tables.tasks same
  exact ⟨fun run member _ => runs ▸ member, fun task member _ => tasks ▸ member⟩

theorem spared_refl (store : Store) : Spared store store := spared_of_tables rfl

theorem spared_trans (first second third : Store) (one : Spared first second)
    (two : Spared second third) : Spared first third := by
  constructor
  · intro run member started
    exact one.runs run (two.runs run member started) started
  · intro task member finished
    exact one.tasks task (two.tasks task member finished) finished

theorem settled_of_spared {before after : Store} (spared : Spared before after)
    (settled : Settled before.toTables) : Settled after.toTables := by
  have kept : ∀ taskId, ∀ run ∈ running after.toTables taskId, run ∈ running before.toTables taskId := by
    intro taskId run member
    obtain ⟨inside, named, started⟩ := mem_running.mp member
    exact mem_running.mpr ⟨spared.runs run inside started, named, started⟩
  constructor
  · intro taskId first one second two
    exact settled.single taskId first (kept taskId first one) second (kept taskId second two)
  · intro task member finished
    have nothing := settled.ended task (spared.tasks task member finished) finished
    rw [List.eq_nil_iff_forall_not_mem] at nothing ⊢
    intro run inside
    exact nothing run (kept task.id run inside)

theorem sameTables_spared {α : Type} {action : Op α} (same : Respects SameTables action) :
    Respects Spared action :=
  respects_mono (fun _ _ tables => spared_of_tables tables) same

theorem ofExcept_spared {α : Type} (value : Except PyExc α) :
    Respects Spared (Action.ofExcept value : Op α) := respects_ofExcept spared_refl value

theorem get_spared : Respects Spared (get : Op Store) := respects_get spared_refl

theorem pure_spared {α : Type} (value : α) : Respects Spared (pure value : Op α) :=
  respects_pure spared_refl value

theorem throw_spared {α : Type} (error : PyExc) : Respects Spared (throw error : Op α) :=
  respects_throw spared_refl error

theorem taskRow_same (taskId : String) : Respects SameTables (taskRow taskId) := by
  apply respects_bind sameTables_trans get_same
  intro store
  cases store.tasks.get? taskId with
  | none => exact respects_throw sameTables_refl _
  | some task => exact respects_pure sameTables_refl task

theorem taskRow_spared (taskId : String) : Respects Spared (taskRow taskId) :=
  sameTables_spared (taskRow_same taskId)

theorem auditTask_spared (task : TaskRow) (eventType action result : String) (runId : Option String) :
    Respects Spared (auditTask task eventType action result runId) :=
  sameTables_spared (record_same _)

theorem spared_put (store : Store) {row : TaskRow} (unended : row.status ∉ endedStatuses) :
    Spared store { store with tasks := store.tasks.put row } := by
  constructor
  · intro run member _
    exact member
  · intro task member finished
    rcases Table.mem_put member with rfl | ⟨kept, _⟩
    · exact absurd finished unended
    · exact kept

theorem writeTask_spared {change : Timestamp → TaskRow}
    (unended : ∀ updatedAt, (change updatedAt).status ∉ endedStatuses) :
    Respects Spared (writeTask change) := by
  apply respects_bind spared_trans (sameTables_spared utcNow_same)
  intro updatedAt
  apply respects_bind spared_trans
  · exact respects_modify fun store => spared_put store (unended updatedAt)
  · intro _
    exact pure_spared _

theorem finishRun_spared (runId : Option String) {finish : TaskRunRow → Timestamp → TaskRunRow}
    (stopped : ∀ run finishedAt, (finish run finishedAt).status ≠ .running ∨ finish run finishedAt = run) :
    Respects Spared (finishRun runId finish) := by
  intro store
  obtain ⟨later, finished, tables⟩ := exec_finishRun runId finish store
  rw [finished]
  have runs : later.taskRuns = finishedRuns store.toTables runId (fun run => finish run store.now) := by
    have same := congrArg Tables.taskRuns tables
    exact same
  have tasks : later.tasks = store.tasks := by
    have same := congrArg Tables.tasks tables
    exact same
  constructor
  · intro run member started
    dsimp only at member
    rw [runs, finishedRuns] at member
    cases found : namedRun store.toTables runId with
    | none =>
      rw [found] at member
      exact member
    | some named =>
      rw [found] at member
      have present : named ∈ store.taskRuns.rows := by
        obtain ⟨_, _, read⟩ := Option.bind_eq_some_iff.mp found
        exact Table.get?_mem read
      rcases Table.mem_put member with rfl | ⟨kept, _⟩
      · rcases stopped named store.now with closed | same
        · exact absurd started closed
        · rw [same]
          exact present
      · exact kept
  · intro task member _
    dsimp only at member
    rwa [tasks] at member

theorem transition_spared {taskId : String} {allowedFrom : List TaskStatus}
    {change : TaskRow → Timestamp → TaskRow} {finish : TaskRunRow → Timestamp → TaskRunRow}
    {eventType action result : String} {runId : Option String}
    (unended : ∀ task updatedAt, (change task updatedAt).status ∉ endedStatuses)
    (stopped : ∀ run finishedAt, (finish run finishedAt).status ≠ .running ∨ finish run finishedAt = run) :
    Respects Spared (transition taskId allowedFrom change finish eventType action result runId) := by
  apply respects_bind spared_trans (taskRow_spared taskId)
  intro task
  apply respects_bind spared_trans (ofExcept_spared _)
  intro _
  apply respects_bind spared_trans (writeTask_spared (unended task))
  intro row
  apply respects_bind spared_trans (finishRun_spared runId stopped)
  intro _
  apply respects_bind spared_trans (auditTask_spared _ _ _ _ _)
  intro _
  exact pure_spared _

theorem markImplementationComplete_spared (taskId : String) (runId outputSummary : Option String) :
    Respects Spared (markImplementationComplete taskId runId outputSummary) := by
  apply transition_spared
  · intro task updatedAt
    simp [endedStatuses]
  · intro run finishedAt
    exact .inl (by simp)

theorem markDocumentationPending_spared (taskId : String) :
    Respects Spared (markDocumentationPending taskId) := by
  apply transition_spared
  · intro task updatedAt
    simp [endedStatuses]
  · intro run finishedAt
    exact .inr rfl

theorem applyBlocker_spared (task : TaskRow) (blocker : StructuredBlocker) :
    Respects Spared (applyBlocker task blocker) := by
  apply respects_bind spared_trans (sameTables_spared utcNow_same)
  intro blockedAt
  apply writeTask_spared
  intro updatedAt
  simp [endedStatuses]

theorem blockTask_spared (taskId : String) (code : BlockerCode) (message : String) :
    Respects Spared (blockTask taskId code message) := by
  apply respects_bind spared_trans (taskRow_spared taskId)
  intro task
  apply respects_bind spared_trans (ofExcept_spared _)
  intro _
  apply respects_bind spared_trans (applyBlocker_spared task _)
  intro blocked
  apply respects_bind spared_trans (auditTask_spared _ _ _ _ _)
  intro _
  exact pure_spared _

theorem validateContract_spared (taskId : String) : Respects Spared (validateContract taskId) := by
  apply respects_bind spared_trans (taskRow_spared taskId)
  intro task
  apply respects_bind spared_trans get_spared
  intro store
  exact ofExcept_spared _

theorem markReady_spared (taskId : String) : Respects Spared (markReady taskId) := by
  apply respects_bind spared_trans (taskRow_spared taskId)
  intro task
  apply respects_bind spared_trans (ofExcept_spared _)
  intro _
  apply respects_bind spared_trans (validateContract_spared task.id)
  intro blockers
  cases blockers with
  | cons first rest =>
    apply respects_bind spared_trans (applyBlocker_spared task first)
    intro blocked
    apply respects_bind spared_trans (auditTask_spared _ _ _ _ _)
    intro _
    apply respects_bind spared_trans (auditTask_spared _ _ _ _ _)
    intro _
    exact pure_spared _
  | nil =>
    apply respects_bind spared_trans
    · apply writeTask_spared
      intro updatedAt
      simp [endedStatuses]
    · intro ready
      apply respects_bind spared_trans (auditTask_spared _ _ _ _ _)
      intro _
      exact pure_spared _

theorem createTask_spared (projectId title objective : String) (level : AuthorityLevel) :
    Respects Spared (createTask projectId title objective level) := by
  apply respects_bind spared_trans get_spared
  intro store
  cases store.projects.get? projectId with
  | none => exact throw_spared _
  | some project =>
    dsimp only
    split
    · exact throw_spared _
    · apply respects_bind spared_trans (sameTables_spared (nextId_same .task))
      intro id
      apply respects_bind spared_trans (sameTables_spared utcNow_same)
      intro updatedAt current
      rw [exec_get_bind]
      split
      · exact spared_refl current
      · rw [exec_bind_of_ok (exec_set _ _), auditTask,
          exec_bind_of_ok (Op.exec_record _ _)]
        constructor
        · intro run member _
          exact member
        · intro task member finished
          rcases Table.mem_add member with old | rfl
          · exact old
          · simp [endedStatuses] at finished

theorem spared_of_same {before after : Store} (tasks : after.tasks = before.tasks)
    (runs : after.taskRuns = before.taskRuns) : Spared before after :=
  ⟨fun _ member _ => runs ▸ member, fun _ member _ => tasks ▸ member⟩

theorem createOrUpdateContract_spared (taskId : String) (terms : ContractTerms) :
    Respects Spared (createOrUpdateContract taskId terms) := by
  apply respects_bind spared_trans (taskRow_spared taskId)
  intro task
  apply respects_bind spared_trans (ofExcept_spared _)
  intro criteria
  apply respects_bind spared_trans (ofExcept_spared _)
  intro actions
  apply respects_bind spared_trans get_spared
  intro store
  cases store.activeContract task.id with
  | some latest =>
    apply respects_bind spared_trans (sameTables_spared utcNow_same)
    intro _
    apply respects_bind spared_trans
    · exact respects_modify fun _ => spared_of_same rfl rfl
    · intro _
      apply respects_bind spared_trans (auditTask_spared _ _ _ _ _)
      intro _
      exact pure_spared _
  | none =>
    apply respects_bind spared_trans (sameTables_spared (nextId_same .taskContract))
    intro id
    apply respects_bind spared_trans (sameTables_spared utcNow_same)
    intro _
    apply respects_bind spared_trans
    · intro current
      unfold addContract
      rw [exec_get_bind]
      split
      · exact spared_refl current
      · exact spared_of_same rfl rfl
    · intro _
      apply respects_bind spared_trans (auditTask_spared _ _ _ _ _)
      intro _
      exact pure_spared _

theorem recordDocumentationCompletion_spared (taskId : String)
    (targetsCompleted evidenceReferences : List String) :
    Respects Spared (recordDocumentationCompletion taskId targetsCompleted evidenceReferences) := by
  apply respects_bind spared_trans (taskRow_spared taskId)
  intro task
  apply respects_bind spared_trans get_spared
  intro store
  cases documentationCompletion store.toTables task.id with
  | some existing =>
    apply respects_bind spared_trans (sameTables_spared utcNow_same)
    intro _
    apply respects_bind spared_trans
    · exact respects_modify fun _ => spared_of_same rfl rfl
    · intro _
      exact pure_spared _
  | none =>
    apply respects_bind spared_trans (sameTables_spared (nextId_same _))
    intro id
    apply respects_bind spared_trans (sameTables_spared utcNow_same)
    intro _ current
    rw [exec_get_bind]
    split
    · exact spared_refl current
    · exact spared_of_same rfl rfl

/-! ### The operations that start a run or end a task -/

/-- The task a call names is there, and may be moved from its status. -/
def Allowed (tables : Tables) (taskId : String) (allowedFrom : List TaskStatus) : Prop :=
  ∃ task, tables.tasks.get? taskId = some task ∧ ensureTransition task allowedFrom = .ok ()

/-- A run of the task is started when it is asked for. -/
structure Startable (store : Store) (taskId : String) (snapshotId : Option String) : Prop where
  ready : ∃ task, store.tasks.get? taskId = some task ∧ task.status = .ready ∧
    validateSnapshotBinding store.toTables task snapshotId = .ok ()
  fresh : store.taskRuns.get? (formatPublicId .taskRun (store.nextNumber .taskRun)) = none

/-- The task is complete when it is asked for, and its documentation is. -/
def Completable (tables : Tables) (taskId : String) : Prop :=
  ∃ task, tables.tasks.get? taskId = some task ∧
    ensureTransition task [.implementationComplete, .documentationPending] = .ok () ∧
    documentationGap tables task = none

/-- A run is started where none is running, and a task is ended where none is, or none but the
run the call says has failed. -/
def Closes (store : Store) : ServiceOperation → Prop
  | .lifecycle (.startRun taskId snapshotId) =>
    Startable store taskId snapshotId → running store.toTables taskId = []
  | .lifecycle (.failTask taskId _ runId) =>
    Allowed store.toTables taskId [.running, .blocked, .ready] →
      ∀ run ∈ running store.toTables taskId, namedRun store.toTables runId = some run
  | .lifecycle (.completeTask taskId) =>
    Completable store.toTables taskId → running store.toTables taskId = []
  | .lifecycle (.cancelTask taskId) =>
    Allowed store.toTables taskId [.draft, .ready, .running, .blocked] →
      running store.toTables taskId = []
  | _ => True

theorem settled_ended_iff {before after : Store} {task row : TaskRow}
    (settled : Settled before.toTables) (tasks : after.tasks = before.tasks.put row)
    (present : before.tasks.get? row.id = some task) (ended : row.status ∈ endedStatuses)
    (runs : ∀ run ∈ after.taskRuns.rows, run.status = .running → run ∈ before.taskRuns.rows) :
    Settled after.toTables ↔ running after.toTables row.id = [] := by
  have kept : ∀ taskId, ∀ run ∈ running after.toTables taskId, run ∈ running before.toTables taskId := by
    intro taskId run member
    obtain ⟨inside, named, started⟩ := mem_running.mp member
    exact mem_running.mpr ⟨runs run inside started, named, started⟩
  constructor
  · intro later
    have written : row ∈ after.tasks.rows := by
      rw [tasks]
      exact Table.get?_mem (Table.get?_put_same present rfl)
    exact later.ended row written ended
  · intro nothing
    constructor
    · intro taskId first one second two
      exact settled.single taskId first (kept taskId first one) second (kept taskId second two)
    · intro other member finished
      rw [tasks] at member
      rcases Table.mem_put member with rfl | ⟨old, _⟩
      · exact nothing
      · have earlier := settled.ended other old finished
        rw [List.eq_nil_iff_forall_not_mem] at earlier ⊢
        intro run inside
        exact earlier run (kept other.id run inside)

theorem exec_taskRow_none {taskId : String} {store : Store} (absent : store.tasks.get? taskId = none) :
    exec (taskRow taskId) store = (.error (.valueError ("Unknown task: " ++ taskId)), store) := by
  unfold taskRow
  rw [exec_get_bind, absent]
  rfl

theorem exec_taskRow_some {taskId : String} {task : TaskRow} {store : Store}
    (present : store.tasks.get? taskId = some task) :
    exec (taskRow taskId) store = (.ok task, store) := by
  unfold taskRow
  rw [exec_get_bind, present]
  rfl

/-- A transition is refused and writes nothing, or is allowed and writes the task and the run. -/
theorem transition_ends {taskId : String} {allowedFrom : List TaskStatus}
    {change : TaskRow → Timestamp → TaskRow} {finish : TaskRunRow → Timestamp → TaskRunRow}
    {eventType action result : String} {runId : Option String} {store after : Store}
    {outcome : Except PyExc TaskRow}
    (ended : exec (transition taskId allowedFrom change finish eventType action result runId) store =
      (outcome, after)) :
    (¬ Allowed store.toTables taskId allowedFrom ∧ after = store) ∨
      ∃ task updatedAt finishedAt, store.tasks.get? taskId = some task ∧ task.id = taskId ∧
        Allowed store.toTables taskId allowedFrom ∧
        after.tasks = store.tasks.put (change task updatedAt) ∧
        after.taskRuns = finishedRuns store.toTables runId (fun run => finish run finishedAt) := by
  cases outcome with
  | ok row =>
    obtain ⟨task, updatedAt, finishedAt, present, named, allowed, written⟩ := transition_writes ended
    have tasks := congrArg Tables.tasks written
    have runs := congrArg Tables.taskRuns written
    exact .inr ⟨task, updatedAt, finishedAt, present, named, ⟨task, present, allowed⟩, tasks, runs⟩
  | error error =>
    left
    unfold transition at ended
    cases found : store.tasks.get? taskId with
    | none =>
      rw [exec_bind_of_error (exec_taskRow_none found)] at ended
      cases ended
      refine ⟨?_, rfl⟩
      rintro ⟨task, present, _⟩
      rw [found] at present
      cases present
    | some task =>
      rw [exec_bind_of_ok (exec_taskRow_some found)] at ended
      cases allowed : ensureTransition task allowedFrom with
      | error refusal =>
        rw [allowed] at ended
        cases ended
        refine ⟨?_, rfl⟩
        rintro ⟨other, present, granted⟩
        rw [found] at present
        cases present
        rw [allowed] at granted
        cases granted
      | ok _ =>
        obtain ⟨later, finished, _⟩ := exec_finishRun runId finish
          { store.tick with tasks := store.tasks.put (change task store.now) }
        rw [allowed, exec_bind_of_ok (exec_ofExcept _ _),
          exec_bind_of_ok (exec_writeTask _ _), exec_bind_of_ok finished, auditTask,
          exec_bind_of_ok (Op.exec_record _ _)] at ended
        cases ended

theorem mem_of_namedRun {tables : Tables} {runId : Option String} {run : TaskRunRow}
    (named : namedRun tables runId = some run) : run ∈ tables.taskRuns.rows := by
  obtain ⟨_, _, read⟩ := Option.bind_eq_some_iff.mp named
  exact Table.get?_mem read

theorem running_finished_iff {before after : Tables} {runId : Option String}
    {finish : TaskRunRow → TaskRunRow} {taskId : String}
    (stops : ∀ run, (finish run).id = run.id ∧ (finish run).status ≠ .running)
    (runs : after.taskRuns = finishedRuns before runId finish) :
    running after taskId = [] ↔
      ∀ run ∈ running before taskId, namedRun before runId = some run := by
  rw [List.eq_nil_iff_forall_not_mem]
  cases named : namedRun before runId with
  | none =>
    have same : after.taskRuns = before.taskRuns := by rw [runs, finishedRuns, named]
    have alike : running after taskId = running before taskId := by rw [running, same, running]
    rw [alike]
    constructor
    · intro nothing run member
      exact absurd member (nothing run)
    · intro each run member
      cases each run member
  | some stopped =>
    have written : after.taskRuns = before.taskRuns.put (finish stopped) := by
      rw [runs, finishedRuns, named]
    have present : stopped ∈ before.taskRuns.rows := mem_of_namedRun named
    constructor
    · intro nothing run member
      obtain ⟨inside, owner, started⟩ := mem_running.mp member
      by_cases same : run.id = stopped.id
      · rw [Table.row_unique present inside same.symm]
      · exfalso
        apply nothing run
        rw [mem_running, written]
        exact ⟨Table.mem_put_other inside fun equal => same (equal.trans (stops stopped).1), owner,
          started⟩
    · intro each run member
      obtain ⟨inside, owner, started⟩ := mem_running.mp member
      rw [written] at inside
      rcases Table.mem_put inside with rfl | ⟨old, other⟩
      · exact (stops stopped).2 started
      · have is := each run (mem_running.mpr ⟨old, owner, started⟩)
        rw [← Option.some.inj is] at other
        exact other (stops stopped).1.symm

theorem running_finished_mem {before : Tables} {runId : Option String}
    {finish : TaskRunRow → TaskRunRow}
    (stops : ∀ run, (finish run).status ≠ .running) {run : TaskRunRow}
    (member : run ∈ (finishedRuns before runId finish).rows) (started : run.status = .running) :
    run ∈ before.taskRuns.rows := by
  unfold finishedRuns at member
  cases named : namedRun before runId with
  | none =>
    rw [named] at member
    exact member
  | some stopped =>
    rw [named] at member
    rcases Table.mem_put member with rfl | ⟨old, _⟩
    · exact absurd started (stops stopped)
    · exact old

section

variable {taskId : String} {store after : Store}

theorem failTask_settled_iff (settled : Settled store.toTables) {failureReason : String} {runId : Option String}
    {outcome : Except PyExc TaskRow}
    (ended : exec (failTask taskId failureReason runId) store = (outcome, after)) :
    Settled after.toTables ↔ (Allowed store.toTables taskId [.running, .blocked, .ready] →
      ∀ run ∈ running store.toTables taskId, namedRun store.toTables runId = some run) := by
  rcases transition_ends ended with ⟨refused, rfl⟩ | ⟨task, updatedAt, finishedAt, present, named,
    allowed, tasks, runs⟩
  · exact ⟨fun _ granted => absurd granted refused, fun _ => settled⟩
  · rw [← named] at present
    rw [settled_ended_iff settled tasks present (by simp [endedStatuses]), imp_iff_right allowed]
    · rw [named]
      apply running_finished_iff _ runs
      intro run
      exact ⟨rfl, by simp⟩
    · intro run member started
      rw [runs] at member
      apply running_finished_mem _ member started
      intro run
      simp

theorem cancelTask_settled_iff (settled : Settled store.toTables) {outcome : Except PyExc TaskRow}
    (ended : exec (cancelTask taskId) store = (outcome, after)) :
    Settled after.toTables ↔ (Allowed store.toTables taskId [.draft, .ready, .running, .blocked] →
      running store.toTables taskId = []) := by
  rcases transition_ends ended with ⟨refused, rfl⟩ | ⟨task, updatedAt, finishedAt, present, named,
    allowed, tasks, runs⟩
  · exact ⟨fun _ granted => absurd granted refused, fun _ => settled⟩
  · have kept : after.taskRuns = store.taskRuns := runs
    rw [← named] at present
    rw [settled_ended_iff settled tasks present (by simp [endedStatuses]), imp_iff_right allowed]
    · rw [named, running, kept, running]
    · intro run member _
      rwa [kept] at member

theorem completeTask_ends {outcome : Except PyExc (List StructuredBlocker)}
    (ended : exec (completeTask taskId) store = (outcome, after)) :
    (¬ Completable store.toTables taskId ∧ after.toTables = store.toTables) ∨
      ∃ task updatedAt, store.tasks.get? taskId = some task ∧ task.id = taskId ∧
        Completable store.toTables taskId ∧ after.taskRuns = store.taskRuns ∧
        after.tasks = store.tasks.put { task with status := .complete, updatedAt := updatedAt } := by
  unfold completeTask at ended
  cases found : store.tasks.get? taskId with
  | none =>
    rw [exec_bind_of_error (exec_taskRow_none found)] at ended
    cases ended
    refine .inl ⟨?_, rfl⟩
    rintro ⟨task, present, _⟩
    rw [found] at present
    cases present
  | some task =>
    have incomplete : (∀ allowed, ensureTransition task [.implementationComplete, .documentationPending] =
        .ok allowed → documentationGap store.toTables task ≠ none) → ¬ Completable store.toTables taskId := by
      rintro lacking ⟨other, present, allowed, nothing⟩
      rw [found] at present
      cases present
      exact lacking () allowed nothing
    rw [exec_bind_of_ok (exec_taskRow_some found)] at ended
    cases allowed : ensureTransition task [.implementationComplete, .documentationPending] with
    | error refusal =>
      rw [allowed] at ended
      cases ended
      refine .inl ⟨incomplete ?_, rfl⟩
      intro granted other
      rw [allowed] at other
      cases other
    | ok granted =>
      rw [exec_bind_ofExcept allowed, exec_get_bind] at ended
      rcases gap : documentationGap store.toTables task with _ | ⟨blocker, recorded⟩
      · rw [gap] at ended
        dsimp only at ended
        rw [exec_bind_of_ok (exec_writeTask _ _), auditTask,
          exec_bind_of_ok (Op.exec_record _ _)] at ended
        cases ended
        exact .inr ⟨task, store.now, rfl, Table.get?_key found, ⟨task, found, allowed, gap⟩, rfl, rfl⟩
      · refine .inl ⟨incomplete fun _ _ none => ?_, ?_⟩
        · rw [gap] at none
          cases none
        · rw [gap] at ended
          cases recorded
          · cases ended
            rfl
          · dsimp only at ended
            rw [auditTask, exec_bind_of_ok (Op.exec_record _ _)] at ended
            cases ended
            rfl

theorem completeTask_settled_iff (settled : Settled store.toTables) {outcome : Except PyExc (List StructuredBlocker)}
    (ended : exec (completeTask taskId) store = (outcome, after)) :
    Settled after.toTables ↔
      (Completable store.toTables taskId → running store.toTables taskId = []) := by
  rcases completeTask_ends ended with ⟨refused, same⟩ | ⟨task, updatedAt, present, named,
    complete, runs, tasks⟩
  · rw [same]
    exact ⟨fun _ granted => absurd granted refused, fun _ => settled⟩
  · rw [← named] at present
    rw [settled_ended_iff settled tasks present (by simp [endedStatuses]), imp_iff_right complete]
    · rw [named, running, runs, running]
    · intro run member _
      rwa [runs] at member

theorem startRun_ends {snapshotId : Option String} {outcome : Except PyExc TaskRunRow}
    (ended : exec (startRun taskId snapshotId) store = (outcome, after)) :
    (¬ Startable store taskId snapshotId ∧ after.toTables = store.toTables) ∨
      ∃ task row run, Startable store taskId snapshotId ∧ store.tasks.get? taskId = some task ∧
        row.id = taskId ∧ row.status = .running ∧ run.taskId = taskId ∧ run.status = .running ∧
        store.taskRuns.get? run.id = none ∧ after.tasks = store.tasks.put row ∧
        after.taskRuns = store.taskRuns.add run := by
  unfold startRun at ended
  cases found : store.tasks.get? taskId with
  | none =>
    rw [exec_bind_of_error (exec_taskRow_none found)] at ended
    cases ended
    refine .inl ⟨?_, rfl⟩
    rintro ⟨⟨task, present, _⟩, _⟩
    rw [found] at present
    cases present
  | some task =>
    have named : task.id = taskId := Table.get?_key found
    have unready : ¬ (task.status = .ready ∧
        validateSnapshotBinding store.toTables task snapshotId = .ok ()) →
        ¬ Startable store taskId snapshotId := by
      rintro lacking ⟨⟨other, present, ready, bound⟩, _⟩
      rw [found] at present
      cases present
      exact lacking ⟨ready, bound⟩
    rw [exec_bind_of_ok (exec_taskRow_some found)] at ended
    split at ended
    · next other =>
        cases ended
        exact .inl ⟨unready fun granted => other granted.1, rfl⟩
    · next ready =>
        rw [exec_get_bind] at ended
        cases bound : validateSnapshotBinding store.toTables task snapshotId with
        | error refusal =>
          rw [bound] at ended
          cases ended
          refine .inl ⟨unready fun granted => ?_, rfl⟩
          rw [bound] at granted
          cases granted.2
        | ok _ =>
          rw [exec_bind_ofExcept bound, exec_bind_of_ok (Op.exec_nextId _ _),
            exec_bind_of_ok (Op.exec_utcNow _)] at ended
          dsimp only at ended
          rw [addRun, bind_assoc, exec_get_bind] at ended
          split at ended
          · next taken =>
              cases ended
              refine .inl ⟨?_, rfl⟩
              rintro ⟨_, fresh⟩
              have free : store.taskRuns.get? (formatPublicId .taskRun (store.nextNumber .taskRun)) =
                none := fresh
              simp [free] at taken
          · next fresh =>
              have free := Option.not_isSome_iff_eq_none.mp fresh
              rw [exec_bind_of_ok (exec_set _ _),
                exec_bind_of_ok (exec_writeTask _ _), auditTask,
                exec_bind_of_ok (Op.exec_record _ _)] at ended
              cases ended
              let row : TaskRow := { task with status := .running, updatedAt := store.tick.now }
              let run : TaskRunRow := {
                id := formatPublicId .taskRun (store.nextNumber .taskRun)
                taskId := task.id
                snapshotId := snapshotId }
              exact .inr ⟨task, row, run, ⟨⟨task, found, not_not.mp ready, bound⟩, free⟩, rfl, named, rfl,
                named, rfl, free, rfl, rfl⟩

theorem startRun_settled_iff (settled : Settled store.toTables) {snapshotId : Option String} {outcome : Except PyExc TaskRunRow}
    (ended : exec (startRun taskId snapshotId) store = (outcome, after)) :
    Settled after.toTables ↔
      (Startable store taskId snapshotId → running store.toTables taskId = []) := by
  rcases startRun_ends ended with ⟨refused, same⟩ | ⟨task, row, run, granted, present, named,
    status, owner, started, fresh, tasks, runs⟩
  · rw [same]
    exact ⟨fun _ granted => absurd granted refused, fun _ => settled⟩
  · have rows : after.taskRuns.rows = store.taskRuns.rows ++ [run] := by
      rw [runs]
      exact Table.add_rows fresh
    have own : running after.toTables taskId = running store.toTables taskId ++ [run] := by
      simp [running, rows, owner, started]
    have others : ∀ other, other ≠ taskId → running after.toTables other = running store.toTables other := by
      intro other different
      have apart : ¬ taskId = other := fun same => different same.symm
      simp [running, rows, owner, apart]
    rw [imp_iff_right granted]
    constructor
    · intro later
      rw [List.eq_nil_iff_forall_not_mem]
      intro old member
      have one : old ∈ running after.toTables taskId := by
        rw [own]
        exact List.mem_append_left _ member
      have two : run ∈ running after.toTables taskId := by
        rw [own]
        exact List.mem_append_right _ List.mem_cons_self
      have same := later.single taskId old one run two
      have present := Table.get?_of_mem (mem_running.mp member).1
      rw [same] at present
      have free : store.taskRuns.get? (Keyed.key run) = none := fresh
      rw [free] at present
      cases present
    · intro nothing
      rw [nothing, List.nil_append] at own
      constructor
      · intro other first one second two
        by_cases here : other = taskId
        · rw [here, own, List.mem_singleton] at one two
          rw [one, two]
        · rw [others other here] at one two
          exact settled.single other first one second two
      · intro other member finished
        rw [tasks] at member
        rcases Table.mem_put member with rfl | ⟨old, different⟩
        · rw [status] at finished
          simp [endedStatuses] at finished
        · have apart : other.id ≠ taskId := fun same => different (same.trans named.symm)
          rw [others other.id apart]
          exact settled.ended other old finished

end

/-! ### The runs of the service -/

theorem discarded_spared {α : Type} {action : Op α} (spared : Respects Spared action) :
    Respects Spared (do let _ ← action; pure () : Op Unit) := by
  apply respects_bind spared_trans spared
  intro _
  exact pure_spared ()

theorem exec_discarded {α : Type} (action : Op α) (store : Store) :
    (exec (do let _ ← action; pure () : Op Unit) store).2 = (exec action store).2 := by
  rw [exec_bind]
  rcases exec action store with ⟨_ | _, after⟩ <;> rfl

theorem step_settled_iff {store : Store} (settled : Settled store.toTables)
    (operation : ServiceOperation) :
    Settled (step store operation).toTables ↔ Closes store operation := by
  have kept (spared : Respects Spared operation.attempt) : Settled (step store operation).toTables :=
    settled_of_spared (spared store) settled
  cases operation with
  | createTask projectId title objective level =>
    exact iff_of_true (kept (discarded_spared (createTask_spared projectId title objective level))) trivial
  | createOrUpdateContract taskId terms =>
    exact iff_of_true (kept (discarded_spared (createOrUpdateContract_spared taskId terms))) trivial
  | validateContract taskId =>
    exact iff_of_true (kept (discarded_spared (validateContract_spared taskId))) trivial
  | recordDocumentationCompletion taskId targets references =>
    exact iff_of_true
      (kept (discarded_spared (recordDocumentationCompletion_spared taskId targets references))) trivial
  | lifecycle operation =>
    cases operation with
    | markReady taskId =>
      exact iff_of_true (kept (discarded_spared (markReady_spared taskId))) trivial
    | startRun taskId snapshotId =>
      have left : step store (.lifecycle (.startRun taskId snapshotId)) =
          (exec (startRun taskId snapshotId) store).2 := exec_discarded _ store
      rw [left]
      exact startRun_settled_iff settled rfl
    | blockTask taskId code message =>
      exact iff_of_true (kept (discarded_spared (blockTask_spared taskId code message))) trivial
    | failTask taskId failureReason runId =>
      have left : step store (.lifecycle (.failTask taskId failureReason runId)) =
          (exec (failTask taskId failureReason runId) store).2 := exec_discarded _ store
      rw [left]
      exact failTask_settled_iff settled rfl
    | markImplementationComplete taskId runId outputSummary =>
      exact iff_of_true
        (kept (discarded_spared (markImplementationComplete_spared taskId runId outputSummary))) trivial
    | markDocumentationPending taskId =>
      exact iff_of_true (kept (discarded_spared (markDocumentationPending_spared taskId))) trivial
    | completeTask taskId =>
      have left : step store (.lifecycle (.completeTask taskId)) =
          (exec (completeTask taskId) store).2 := exec_discarded _ store
      rw [left]
      exact completeTask_settled_iff settled rfl
    | cancelTask taskId =>
      have left : step store (.lifecycle (.cancelTask taskId)) =
          (exec (cancelTask taskId) store).2 := exec_discarded _ store
      rw [left]
      exact cancelTask_settled_iff settled rfl

/-- In every run of the service a task has one running run at most and none once it has ended,
exactly when each operation closes what it ends. -/
theorem runs_settled_iff (store : Store) (operations : List ServiceOperation)
    (settled : Settled store.toTables) :
    (∀ front back, operations = front ++ back → Settled (Run.run step store front).toTables) ↔
      ∀ front operation back, operations = front ++ operation :: back →
        Closes (Run.run step store front) operation := by
  rw [← Run.meets_iff_forall, Run.states_iff_meets step (fun state => Settled state.toTables) _ _ settled]
  apply Run.meets_iff_guarded step (fun state => Settled state.toTables)
  · intro state operation before
    exact step_settled_iff before operation
  · intro state operation _ after
    exact after
  · exact settled

/-- A project with a draft task and its contract. -/
def drafted : Store :=
  { projects := .single { id := "LPROJ_000001" }
    tasks := .single { id := "LTASK_000001", projectId := "LPROJ_000001" }
    contracts := .single {
      id := "LCONTR_000001"
      taskId := "LTASK_000001"
      objective := "note"
      acceptanceCriteria := [[("id", .str "AC-001"), ("statement", .str "noted"),
        ("status", .str "PENDING")]] } }

def started : List ServiceOperation :=
  [.lifecycle (.markReady "LTASK_000001"), .lifecycle (.startRun "LTASK_000001" none)]

theorem drafted_settled : Settled drafted.toTables := by
  constructor
  · intro taskId first member
    cases (mem_running.mp member).1
  · intro task member finished
    rfl

/-- The task is blocked, made ready and started again. -/
def restarted : Store :=
  Run.run step drafted
    (started ++ [.lifecycle (.blockTask "LTASK_000001" .decisionRequired "held")] ++ started)

/-- The task fails, and the call says nothing of its run. -/
def unsaid : Store :=
  Run.run step drafted (started ++ [.lifecycle (.failTask "LTASK_000001" "broken" none)])

theorem restarted_running : (running restarted.toTables "LTASK_000001").map TaskRunRow.id =
    ["LRUN_000001", "LRUN_000002"] := by decide +kernel

theorem unsaid_running : unsaid.tasks.rows.map (fun task => (task.id, task.status)) =
    [("LTASK_000001", .failed)] ∧
      (running unsaid.toTables "LTASK_000001").map TaskRunRow.id = ["LRUN_000001"] := by
  decide +kernel

theorem runs_left_running :
    Settled drafted.toTables ∧ ¬ Settled restarted.toTables ∧ ¬ Settled unsaid.toTables := by
  refine ⟨drafted_settled, ?_, ?_⟩
  · intro settled
    have two := restarted_running
    rcases listed : running restarted.toTables "LTASK_000001" with _ | ⟨first, _ | ⟨second, rest⟩⟩
    · simp [listed] at two
    · simp [listed] at two
    · have same := settled.single "LTASK_000001" first (by rw [listed]; simp) second (by rw [listed]; simp)
      rw [listed, same] at two
      simp only [List.map_cons, List.cons.injEq] at two
      have different := two.1.symm.trans two.2.1
      exact absurd different (by decide)
  · intro settled
    obtain ⟨status, one⟩ := unsaid_running
    have failed : ("LTASK_000001", TaskStatus.failed) ∈
        unsaid.tasks.rows.map (fun task => (task.id, task.status)) := by
      rw [status]
      exact List.mem_singleton.mpr rfl
    obtain ⟨task, member, shown⟩ := List.mem_map.mp failed
    obtain ⟨named, ended⟩ := Prod.mk.inj shown
    have nothing := settled.ended task member (by rw [ended]; decide)
    rw [named] at nothing
    rw [nothing] at one
    cases one

theorem started_settled_iff :
    (∀ front back, started = front ++ back → Settled (Run.run step drafted front).toTables) ↔
      ∀ front operation back, started = front ++ operation :: back →
        Closes (Run.run step drafted front) operation :=
  runs_settled_iff drafted started drafted_settled

end Runs
end Lucius.Tasks
