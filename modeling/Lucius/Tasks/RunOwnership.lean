import Lucius.Tasks.Runs

/-! The runs that the end of a task writes: the run that the caller names, whosever it is. -/

namespace Lucius.Tasks.Runs

open Lucius.Action

/-- The two calls that end a run. -/
inductive EndingCall where
  | failTask (failureReason : String)
  | markImplementationComplete (outputSummary : Option String)

def EndingCall.attempt (taskId : String) (runId : Option String) : EndingCall → Op TaskRow
  | .failTask failureReason => Tasks.failTask taskId failureReason runId
  | .markImplementationComplete outputSummary => Tasks.markImplementationComplete taskId runId outputSummary

def EndingCall.allowedFrom : EndingCall → List TaskStatus
  | .failTask _ => [.running, .blocked, .ready]
  | .markImplementationComplete _ => [.running]

/-- The named run as the call leaves it. -/
def EndingCall.ended (call : EndingCall) (run : TaskRunRow) (finishedAt : Timestamp) : TaskRunRow :=
  match call with
  | .failTask failureReason =>
    { run with status := .failed, finishedAt := some finishedAt, failureReason := some failureReason }
  | .markImplementationComplete outputSummary =>
    { run with status := .succeeded, finishedAt := some finishedAt, outputSummary := outputSummary }

/-- No run of another task changes, and no finished run changes its status. -/
structure RunsOwned (taskId : String) (before after : Tables) : Prop where
  others : ∀ run ∈ before.taskRuns.rows, run.taskId ≠ taskId → run ∈ after.taskRuns.rows
  finished : ∀ run ∈ before.taskRuns.rows, run.finishedAt.isSome = true →
    ∀ now ∈ after.taskRuns.rows, now.id = run.id → now.status = run.status

variable {taskId : String} {runId : Option String} {store : Store}

theorem transition_runs {allowedFrom : List TaskStatus} {change : TaskRow → Timestamp → TaskRow}
    {finish : TaskRunRow → Timestamp → TaskRunRow} {eventType action result : String}
    (allowed : Allowed store.toTables taskId allowedFrom) :
    (exec (transition taskId allowedFrom change finish eventType action result runId) store).2.taskRuns =
      finishedRuns store.toTables runId (fun run => finish run store.tick.now) := by
  obtain ⟨task, present, granted⟩ := allowed
  obtain ⟨later, finished, tables⟩ := exec_finishRun runId finish
    { store.tick with tasks := store.tasks.put (change task store.now) }
  have runs := congrArg Tables.taskRuns tables
  unfold transition
  rw [exec_bind_of_ok (exec_taskRow_some present), granted, exec_bind_of_ok (exec_ofExcept _ _),
    exec_bind_of_ok (exec_writeTask _ _), exec_bind_of_ok finished, auditTask,
    exec_bind_of_ok (Op.exec_record _ _)]
  exact runs

theorem attempt_runs (call : EndingCall) :
    (¬ Allowed store.toTables taskId call.allowedFrom ∧ (exec (call.attempt taskId runId) store).2 = store) ∨
      (Allowed store.toTables taskId call.allowedFrom ∧ (exec (call.attempt taskId runId) store).2.taskRuns =
        finishedRuns store.toTables runId (fun run => call.ended run store.tick.now)) := by
  by_cases allowed : Allowed store.toTables taskId call.allowedFrom
  · refine .inr ⟨allowed, ?_⟩
    cases call with
    | failTask failureReason => exact transition_runs allowed
    | markImplementationComplete outputSummary => exact transition_runs allowed
  · refine .inl ⟨allowed, ?_⟩
    cases call with
    | failTask failureReason =>
      exact ((transition_ends rfl).resolve_right fun ⟨_, _, _, _, _, other, _⟩ => allowed other).2
    | markImplementationComplete outputSummary =>
      exact ((transition_ends rfl).resolve_right fun ⟨_, _, _, _, _, other, _⟩ => allowed other).2

theorem ended_id (call : EndingCall) (run : TaskRunRow) (finishedAt : Timestamp) :
    (call.ended run finishedAt).id = run.id := by cases call <;> rfl

/-- The runs are owned when the call is refused, names no run, or names one of the task that has
not finished otherwise. -/
theorem runs_owned_iff (call : EndingCall) (taskId : String) (runId : Option String) (store : Store) :
    RunsOwned taskId store.toTables (exec (call.attempt taskId runId) store).2.toTables ↔
      (Allowed store.toTables taskId call.allowedFrom → ∀ run, namedRun store.toTables runId = some run →
        (run.taskId = taskId ∨ call.ended run store.tick.now = run) ∧
        (run.finishedAt.isSome = true → (call.ended run store.tick.now).status = run.status)) := by
  rcases @attempt_runs taskId runId store call with ⟨refused, same⟩ | ⟨allowed, runs⟩
  · refine iff_of_true ?_ (fun allowed => absurd allowed refused)
    rw [same]
    exact ⟨fun run member _ => member, fun run member _ now inside equal =>
      by rw [Table.row_unique inside member equal]⟩
  · cases named : namedRun store.toTables runId with
    | none =>
      rw [finishedRuns, named] at runs
      refine iff_of_true ?_ (fun _ run found => by cases found)
      constructor
      · intro run member _
        rw [runs]
        exact member
      · intro run member _ now inside equal
        rw [runs] at inside
        rw [Table.row_unique inside member equal]
    | some stopped =>
      rw [finishedRuns, named] at runs
      have present := mem_of_namedRun named
      have identity := ended_id call stopped store.tick.now
      have written : call.ended stopped store.tick.now ∈ (exec (call.attempt taskId runId) store).2.taskRuns.rows := by
        rw [runs]
        exact Table.get?_mem (Table.get?_put_same (Table.get?_of_mem present) identity)
      constructor
      · rintro owned - run found
        cases found
        constructor
        · by_contra foreign
          obtain ⟨other, changed⟩ := not_or.mp foreign
          have kept := owned.others stopped present other
          exact changed (Table.row_unique written kept identity)
        · intro finished
          exact owned.finished stopped present finished _ written identity
      · intro told
        obtain ⟨own, ending⟩ := told allowed stopped rfl
        constructor
        · intro run member other
          rw [runs]
          by_cases same : run.id = stopped.id
          · have equal := Table.row_unique member present same
            subst equal
            rcases own with own | kept
            · exact absurd own other
            · rw [runs, kept] at written
              exact kept ▸ written
          · exact Table.mem_put_other member fun equal => same (equal.trans identity)
        · intro run member finished now inside equal
          rw [runs] at inside
          rcases Table.mem_put inside with rfl | ⟨old, -⟩
          · have same : run = stopped := Table.row_unique member present (equal.symm.trans identity)
            subst same
            exact ending finished
          · rw [Table.row_unique old member equal]

/-- A task that runs, and a finished run of another. -/
def sharedRuns : Store :=
  { tasks := .single { id := "LTASK_000001", projectId := "LPROJ_000001", status := .running }
    taskRuns := .single { id := "LRUN_000002", taskId := "LTASK_000002", status := .succeeded, finishedAt := some 0 } }

/-- The finished run of another task is made a failed one. -/
theorem foreign_run_failed : ¬ ∀ (call : EndingCall) (taskId : String) (runId : Option String) (store : Store),
    RunsOwned taskId store.toTables (exec (call.attempt taskId runId) store).2.toTables := by
  intro owned
  have failed : (exec ((EndingCall.failTask "broken").attempt "LTASK_000001" (some "LRUN_000002"))
      sharedRuns).2.taskRuns.rows.map (fun run => (run.id, run.status)) = [("LRUN_000002", .failed)] := by decide +kernel
  have kept := (owned (.failTask "broken") "LTASK_000001" (some "LRUN_000002") sharedRuns).others _
    (List.mem_singleton_self _) (by decide)
  have changed : ("LRUN_000002", TaskRunStatus.succeeded) ∈ [("LRUN_000002", TaskRunStatus.failed)] := by
    rw [← failed]
    exact List.mem_map.mpr ⟨_, kept, rfl⟩
  exact absurd changed (by decide)

end Lucius.Tasks.Runs
