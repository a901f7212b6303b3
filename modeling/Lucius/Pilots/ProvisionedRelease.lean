import Lucius.Integration.Service
import Lucius.Pilots.ProvisioningIsolation
import Lucius.Runtime.LoopSteps

/-! Whether the runtime releases what was provisioned.

The provisioner writes its tasks as ready and records no readiness. The release check asks for the event
that marking a task ready records, so it passes no item that was provisioned. -/

namespace Lucius.Pilots.ControlledMutation

open Lucius.Runtime

/-- A task that was marked ready is one the store holds. -/
def ReadyTasksExist (store : Store) : Prop :=
  ∀ event ∈ store.audits, event.eventType = "TASK_READY" →
    ∀ taskId, event.taskId = some taskId → (store.tasks.get? taskId).isSome

/-- A later store: the workflow still has its task, which was not marked ready since. -/
structure Later (after later : Store) (result : ProvisionedTask) : Prop where
  workflow : ∃ old new, after.workflows.get? result.workflowId = some old ∧
    later.workflows.get? result.workflowId = some new ∧ new.taskId = old.taskId
  unmarked : ∀ event ∈ later.audits, event.eventType = "TASK_READY" →
    event.taskId = some result.taskId → event ∈ after.audits

/-- The release check of the runtime passes an item of the workflow. -/
def Released (store : Store) (workflowId : String) : Prop :=
  ∃ itemId context, executionContext store.toTables workflowId itemId = .ok context ∧
    preDispatchReleaseError store context = .ok none

/-- What is asked of a provisioned task: its contract is valid, the router and the integration read the
freeze, and in some later store the item is released. -/
structure Releasable (after : Store) (result : ProvisionedTask) : Prop where
  contract : ∃ task, after.tasks.get? result.taskId = some task ∧
    Tasks.contractBlockers after.toTables task = .ok []
  scope : ∃ freeze paths checks, after.freezes.get? result.planFreezeId = some freeze ∧
    (∀ required, Router.frozenMutationScope after.toTables result.planId result.planFreezeId false required =
      .ok { paths := paths, checks := checks }) ∧
    Integration.authorizedPaths freeze = .ok paths ∧ Integration.acceptanceChecks freeze paths = .ok checks
  released : ∃ later, Later after later result ∧ Released later result.workflowId

/-! ### What a release rests on -/

theorem latestTaskAudit_mem {audits : List AuditEventRow} {taskId : String} {eventTypes : List String}
    {action : Option String} {event : AuditEventRow}
    (latest : latestTaskAudit audits taskId eventTypes action = some event) :
    event ∈ audits ∧ event.taskId = some taskId ∧ event.eventType ∈ eventTypes := by
  unfold latestTaskAudit at latest
  have member := (mem_sortedBy _ _ _).mp (List.mem_of_getLast? latest)
  obtain ⟨inside, matching⟩ := List.mem_filter.mp member
  simp only [Bool.and_eq_true, decide_eq_true_eq] at matching
  exact ⟨inside, matching.1.1, matching.1.2⟩

theorem readinessReleaseEvidenceError_none {audits : List AuditEventRow} {taskId : String}
    (free : readinessReleaseEvidenceError audits taskId = none) :
    ∃ event ∈ audits, event.eventType = "TASK_READY" ∧ event.taskId = some taskId := by
  unfold readinessReleaseEvidenceError at free
  cases latest : latestTaskAudit audits taskId ["TASK_READY"] none with
  | none =>
    rw [latest] at free
    cases free
  | some event =>
    obtain ⟨inside, named, kind⟩ := latestTaskAudit_mem latest
    exact ⟨event, inside, List.mem_singleton.mp kind, named⟩

theorem contractReleaseError_evidence {store : Store} {workflow : PersistentWorkflowRow} {task : TaskRow}
    {contract : TaskContractRow} {context : Router.RuntimeExecutionContext}
    (released : contractReleaseError store workflow task contract context = .ok none) :
    readinessReleaseEvidenceError store.audits task.id = none := by
  unfold contractReleaseError at released
  split at released
  · cases released
  split at released
  · cases released
  obtain ⟨blockers, -, released⟩ := except_bind_ok released
  split at released
  · cases released
  split at released
  · cases released
  · assumption

theorem released_marked {store : Store} {workflowId : String} {workflow : PersistentWorkflowRow}
    {taskId : String} (listed : store.workflows.get? workflowId = some workflow)
    (bound : workflow.taskId = some taskId) (released : Released store workflowId) :
    ∃ event ∈ store.audits, event.eventType = "TASK_READY" ∧ event.taskId = some taskId := by
  obtain ⟨itemId, context, read, free⟩ := released
  obtain ⟨found, present, -, boundTask, -, -⟩ := Runtime.executionContext_ok read
  obtain rfl : workflow = found := Option.some.inj (listed.symm.trans present)
  rw [bound] at boundTask
  unfold preDispatchReleaseError at free
  split at free
  · cases free
  split at free
  · cases free
  rename_i task parent
  split at free
  · cases free
  split at free
  · cases free
  split at free
  · cases free
  have evidence := readinessReleaseEvidenceError_none (contractReleaseError_evidence free)
  obtain ⟨named, -⟩ := Runtime.nonEmpty_bind_get? parent
  rw [boundTask, Router.nonEmpty, Option.filter_eq_some_iff] at named
  have same : taskId = task.id := Option.some.inj named.1
  rwa [← same] at evidence

theorem unreleased {before after : Store} {spec : Specification} {results : List ProvisionedTask}
    {added : List PersistentWorkflowRow} (accepted : Accepted spec before after results added)
    (known : ReadyTasksExist before) {result : ProvisionedTask} (member : result ∈ results) {later : Store}
    (since : Later after later result) : ¬ Released later result.workflowId := by
  intro released
  obtain ⟨rows, filed, -⟩ := accepted.filed result member
  obtain ⟨old, new, held, listed, kept⟩ := since.workflow
  obtain rfl : rows.workflow = old := Option.some.inj (filed.workflow.symm.trans held)
  obtain ⟨event, inside, ready, named⟩ := released_marked listed (kept.trans filed.workflowTask) released
  have recorded : event ∈ before.audits := accepted.audits ▸ since.unmarked event inside ready named
  have present := known event recorded ready result.taskId named
  rw [accepted.unknown result member] at present
  cases present

/-- Nothing that was provisioned is released. -/
theorem provisioned_never_releasable {session : Session} {call : Call} {results : List ProvisionedTask}
    (known : ReadyTasksExist session.store) (accepts : Accepts session call results) :
    results ≠ [] ∧ ∀ result ∈ results, ¬ Releasable (provision session call).store result := by
  have complete := complete_of_accepts accepts
  obtain ⟨members, spec, added, -, -, accepted⟩ := accepts_ok accepts
  refine ⟨complete.some, ?_⟩
  intro result member releasable
  obtain ⟨later, since, released⟩ := releasable.released
  exact unreleased accepted known member since released

def notesResult : ProvisionedTask where
  provisioningId := "notes-1"
  projectId := "LPROJ_000001"
  repositoryId := "LREPO_000001"
  taskId := "LTASK_000001"
  taskContractId := "LCONTR_000001"
  planId := "LPLAN_000001"
  planFreezeId := "LFREEZE_000001"
  workflowId := "LWORK_000001"
  workspace := "/trees/notes"
  frozenHead := "c0ffee"
  allowedMutationPaths := ["notes.md"]
  executionSupervision := "SUPERVISED"

theorem notes_accepts : Accepts (Session.opened {}) notesCall [notesResult] := by
  unfold Accepts
  decide +kernel

theorem notes_never_releasable : [notesResult] ≠ [] ∧ ∀ result ∈ [notesResult],
    ¬ Releasable (provision (Session.opened {}) notesCall).store result :=
  provisioned_never_releasable (fun _ member => nomatch member) notes_accepts

/-- The store with the notes provisioned, and their item started. -/
def runningNotes : Store :=
  let store := (provision (Session.opened {}) notesCall).store
  match store.workflows.get? notesResult.workflowId with
  | some row => { store with
      workflows := store.workflows.put { row with
        taskBacklog := row.taskBacklog.map (fun item => item.set "state" (.str "RUNNING")) } }
  | none => store

def runningNotesAnswer : Except PyExc (Option String) := do
  let context ← executionContext runningNotes.toTables "LWORK_000001" "notes-1-task-1"
  preDispatchReleaseError runningNotes context

/-- The notes are accepted, and their running item is refused for want of the event. -/
theorem notes_not_released : Accepts (Session.opened {}) notesCall [notesResult] ∧
    runningNotesAnswer =
      .ok (some "Task LTASK_000001 has no successful canonical readiness transition.") ∧
    ¬ Releasable (provision (Session.opened {}) notesCall).store notesResult := by
  refine ⟨notes_accepts, by decide +kernel, ?_⟩
  intro releasable
  obtain ⟨later, since, released⟩ := releasable.released
  obtain ⟨members, spec, added, -, -, accepted⟩ := accepts_ok notes_accepts
  exact unreleased accepted (fun _ member => nomatch member) (List.mem_singleton.mpr rfl) since released

end Lucius.Pilots.ControlledMutation
