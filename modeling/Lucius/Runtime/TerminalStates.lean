import Lucius.Integration.ClosedWorkflows
import Lucius.Runtime.ShelvedWorkflows
import Lucius.Tasks.Refusals

/-! Which runs of the three services leave a closed workflow closed, and a complete or cancelled
task in its status.

The service of tasks asks for the status before it writes one, and an integration only closes.
The preparation of a run asks for neither state: it reconciles every workflow whose items are
done, and plans every one that has no plan. -/

namespace Lucius.Runtime.TerminalStates

open Lucius.Action Run Planning Tasks

variable {first second third before after : Tables} {store : Store} {workflowId : String}
  {row written : PersistentWorkflowRow} {task : TaskRow}

/-- The closed workflows are closed, and the tasks that have ended are as they ended. -/
structure TerminalKept (before after : Tables) : Prop where
  closed : ∀ workflowId row, before.workflows.get? workflowId = some row → row.workflowState = .closed →
    ∃ new, after.workflows.get? workflowId = some new ∧ new.workflowState = .closed
  ended : ∀ taskId task, before.tasks.get? taskId = some task → task.status ∈ terminalStatuses →
    ∃ new, after.tasks.get? taskId = some new ∧ new.status = task.status

theorem terminalKept_refl (tables : Tables) : TerminalKept tables tables :=
  ⟨fun _ row present closed => ⟨row, present, closed⟩, fun _ task present _ => ⟨task, present, rfl⟩⟩

theorem terminalKept_trans (one : TerminalKept first second)
    (two : TerminalKept second third) : TerminalKept first third := by
  constructor
  · intro workflowId row present closed
    obtain ⟨middle, known, still⟩ := one.closed workflowId row present closed
    exact two.closed workflowId middle known still
  · intro taskId task present ended
    obtain ⟨middle, known, same⟩ := one.ended taskId task present ended
    obtain ⟨new, found, later⟩ := two.ended taskId middle known (same ▸ ended)
    exact ⟨new, found, later.trans same⟩

theorem terminalKept_of_same (workflows : after.workflows = before.workflows)
    (tasks : after.tasks = before.tasks) : TerminalKept before after := by
  have kept := terminalKept_refl before
  constructor
  · rw [workflows]
    exact kept.closed
  · rw [tasks]
    exact kept.ended

theorem taskEffect_terminalKept (effect : Tasks.TaskEffect before after) :
    TerminalKept before after := by
  rcases effect with ⟨tasks, workflows⟩ | ⟨task, write⟩
  · exact terminalKept_of_same workflows tasks
  · obtain ⟨row, named, put⟩ := write.written
    constructor
    · rw [write.workflows]
      exact (terminalKept_refl before).closed
    · intro taskId other present ended
      have different : row.id ≠ taskId := by
        intro same
        rw [← same, named, write.present] at present
        cases present
        exact write.unfinished ended
      refine ⟨other, ?_, rfl⟩
      rw [put, Table.get?_put_other _ _ different]
      exact present

theorem closesOnly_terminalKept
    (closes : Integration.ClosesOnly before after) : TerminalKept before after := by
  obtain ⟨workflows, same, carried⟩ := closes
  rw [same]
  constructor
  · intro workflowId row present closed
    obtain ⟨new, found, kept⟩ := Table.carried_some carried present
    refine ⟨new, found, ?_⟩
    rcases kept with rfl | ⟨_, rfl⟩
    · exact closed
    · rfl
  · exact (terminalKept_refl before).ended

theorem loopKept_terminalKept (kept : LoopKept before after) :
    TerminalKept before after := by
  constructor
  · intro workflowId row present closed
    obtain ⟨new, found, bound⟩ := Table.carried_some kept.workflows present
    exact ⟨new, found, bound.closed closed⟩
  · intro taskId task present ended
    obtain ⟨new, found, same | ⟨ready, -⟩⟩ := Table.carried_some kept.tasks present
    · exact ⟨new, found, same⟩
    · rw [ready] at ended
      exact absurd ended (by decide)

/-! ### The preparation of a run -/

/-- A closed workflow is bound to no task that its items complete, and has a plan or none that can
be made; and a task that has ended has the status its documentation asks for. -/
def RowKeeps (planning : ScriptedRuntimePlanningAdapter) (store : Store)
    (row : PersistentWorkflowRow) : Prop :=
  (row.workflowState = .closed → parentTask store.toTables row = none ∧
    (preparedReference row ≠ none ∨ ∃ error after, exec (planning.plan row) store = (.error error, after))) ∧
  ∀ task, parentTask store.toTables row = some task → task.status ∈ terminalStatuses →
    task.status = completedWorkflowTaskStatus store.toTables task.id

def PreparationKeeps (planning : ScriptedRuntimePlanningAdapter) (store : Store)
    (workflowId : String) : Prop :=
  ∀ row, store.workflows.get? workflowId = some row → RowKeeps planning store row

theorem preparationKeeps_iff {planning : ScriptedRuntimePlanningAdapter}
    (present : store.workflows.get? workflowId = some row) :
    PreparationKeeps planning store workflowId ↔ RowKeeps planning store row := by
  constructor
  · intro all
    exact all row present
  · intro holds other known
    rw [present] at known
    exact Option.some.inj known ▸ holds

theorem rowKeeps_settled (planning : ScriptedRuntimePlanningAdapter) (parent : parentTask store.toTables row = some task) :
    RowKeeps planning store row ↔ row.workflowState ≠ .closed ∧
      (task.status ∈ terminalStatuses → task.status = completedWorkflowTaskStatus store.toTables task.id) := by
  unfold RowKeeps
  rw [parent]
  apply and_congr
  · constructor
    · exact fun spared closed => nomatch (spared closed).1
    · exact fun isOpen closed => absurd closed isOpen
  · constructor
    · exact fun all => all task rfl
    · intro agrees other same
      cases same
      exact agrees

theorem rowKeeps_planned (planning : ScriptedRuntimePlanningAdapter) (parent : parentTask store.toTables row = none) :
    RowKeeps planning store row ↔ (row.workflowState = .closed → preparedReference row ≠ none ∨
      ∃ error after, exec (planning.plan row) store = (.error error, after)) := by
  unfold RowKeeps
  rw [parent]
  constructor
  · intro both closed
    exact (both.1 closed).2
  · intro planned
    refine ⟨fun closed => ⟨rfl, planned closed⟩, ?_⟩
    intro other same
    cases same

/-- A task keeps its status, or has the one its documentation asks for. -/
def MayComplete (tables : Tables) (old new : TaskRow) : Prop :=
  new.id = old.id ∧ (new.status = old.status ∨ new.status = completedWorkflowTaskStatus tables old.id)

/-- What preparations leave: no workflow is paused or closed by one, and no task gets another
status than that of its documentation, which stays. -/
structure Drift (before after : Tables) : Prop where
  workflows : ∀ workflowId row, after.workflows.get? workflowId = some row → Shelved row →
    before.workflows.get? workflowId = some row
  tasks : before.tasks.Carried (MayComplete before) after.tasks
  documented : ∀ taskId, completedWorkflowTaskStatus after taskId = completedWorkflowTaskStatus before taskId

theorem mayComplete_refl (tables : Tables) (task : TaskRow) : MayComplete tables task task :=
  ⟨rfl, .inl rfl⟩

theorem drift_refl (tables : Tables) : Drift tables tables :=
  ⟨fun _ _ present _ => present, Table.carried_refl (mayComplete_refl tables) _, fun _ => rfl⟩

theorem drift_trans (one : Drift first second) (two : Drift second third) :
    Drift first third := by
  constructor
  · intro workflowId row present shelved
    exact one.workflows workflowId row (two.workflows workflowId row present shelved) shelved
  · have later : second.tasks.Carried (MayComplete first) third.tasks := by
      apply Table.carried_mono _ two.tasks
      rintro old new ⟨named, status⟩
      rw [one.documented] at status
      exact ⟨named, status⟩
    apply Table.carried_trans _ one.tasks later
    rintro old middle new ⟨named, earlier⟩ ⟨renamed, final⟩
    refine ⟨renamed.trans named, ?_⟩
    rcases final with same | settled
    · rw [same]
      exact earlier
    · exact .inr (named ▸ settled)
  · intro taskId
    exact (two.documented taskId).trans (one.documented taskId)

/-- A closed workflow is neither closed nor paused any more, or a task that had ended has another
status. -/
inductive Broken (before after : Tables) : Prop where
  | reopened (workflowId : String) (row : PersistentWorkflowRow)
      (present : before.workflows.get? workflowId = some row) (closed : row.workflowState = .closed)
      (opened : ∀ new, after.workflows.get? workflowId = some new → ¬ Shelved new)
  | rewritten (taskId : String) (task new : TaskRow) (present : before.tasks.get? taskId = some task)
      (ended : task.status ∈ terminalStatuses) (found : after.tasks.get? taskId = some new)
      (settled : new.status = completedWorkflowTaskStatus after taskId)
      (changed : new.status ≠ task.status)

theorem Broken.not_kept (broken : Broken before after) :
    ¬ TerminalKept before after := by
  intro kept
  cases broken with
  | reopened workflowId row present closed opened =>
    obtain ⟨new, known, still⟩ := kept.closed workflowId row present closed
    exact opened new known (.inr still)
  | rewritten taskId task new present ended found settled changed =>
    obtain ⟨final, known, same⟩ := kept.ended taskId task present ended
    rw [found] at known
    cases known
    exact changed same

theorem Broken.later (broken : Broken first second)
    (drift : Drift second third) : Broken first third := by
  cases broken with
  | reopened workflowId row present closed opened =>
    refine .reopened workflowId row present closed ?_
    intro new known shelved
    exact opened new (drift.workflows workflowId new known shelved) shelved
  | rewritten taskId task new present ended found settled changed =>
    obtain ⟨final, known, -, status⟩ := Table.carried_some drift.tasks found
    have named : new.id = taskId := Table.get?_key found
    have same : final.status = new.status := by
      rcases status with same | complete
      · exact same
      · rw [complete, named, settled]
    refine .rewritten taskId task final present ended known ?_ ?_
    · rw [same, settled, drift.documented]
    · rw [same]
      exact changed

theorem Broken.earlier (drift : Drift first second)
    (next : Drift second third) (broken : Broken second third) : Broken first third := by
  cases broken with
  | reopened workflowId row present closed opened =>
    exact .reopened workflowId row (drift.workflows workflowId row present (.inr closed)) closed opened
  | rewritten taskId task new present ended found settled changed =>
    obtain ⟨old, known, -, status⟩ := Table.carried_origin drift.tasks present
    have named : old.id = taskId := Table.get?_key known
    have same : task.status = old.status := by
      rcases status with same | complete
      · exact same
      · rw [named] at complete
        rw [settled, next.documented, drift.documented, ← complete] at changed
        exact absurd rfl changed
    refine .rewritten taskId old new known ?_ found settled ?_
    · rw [← same]
      exact ended
    · rw [← same]
      exact changed

/-- What a preparation does: it keeps what is terminal where it is to, and breaks it elsewhere. -/
structure Ending (keeps : Prop) (before after : Tables) : Prop where
  drift : Drift before after
  kept : keeps → TerminalKept before after
  broken : ¬ keeps → Broken before after

theorem ending_same {keeps : Prop} (tables : Tables) (holds : keeps) : Ending keeps tables tables :=
  ⟨drift_refl tables, fun _ => terminalKept_refl tables, fun fails => absurd holds fails⟩

theorem ending_trans {one two : Prop} (start : Ending one first second)
    (rest : Ending two second third) : Ending (one ∧ two) first third := by
  constructor
  · exact drift_trans start.drift rest.drift
  · intro both
    exact terminalKept_trans (start.kept both.1) (rest.kept both.2)
  · intro fails
    by_cases holds : one
    · have later : ¬ two := fun other => fails ⟨holds, other⟩
      exact (rest.broken later).earlier start.drift rest.drift
    · exact (start.broken holds).later rest.drift

theorem Ending.congr {one two : Prop} (same : one ↔ two)
    (ending : Ending one before after) : Ending two before after :=
  ⟨ending.drift, fun holds => ending.kept (same.mpr holds),
    fun fails => ending.broken fun holds => fails (same.mp holds)⟩

/-- What settles a task when its workflow is done. -/
def SettlementKept (before after : Store) : Prop :=
  after.tasks = before.tasks ∧ after.contracts = before.contracts ∧
    after.documentationCompletions = before.documentationCompletions

theorem settlementKept_refl (store : Store) : SettlementKept store store := ⟨rfl, rfl, rfl⟩

theorem settlementKept_trans (first second third : Store) (one : SettlementKept first second)
    (two : SettlementKept second third) : SettlementKept first third :=
  ⟨two.1.trans one.1, two.2.1.trans one.2.1, two.2.2.trans one.2.2⟩

theorem settlementKept_of_tables {before after : Store} (same : after.toTables = before.toTables) :
    SettlementKept before after :=
  ⟨congrArg Tables.tasks same, congrArg Tables.contracts same,
    congrArg Tables.documentationCompletions same⟩

theorem completedWorkflowTaskStatus_congr {left right : Tables} (contracts : left.contracts = right.contracts)
    (completions : left.documentationCompletions = right.documentationCompletions) (taskId : String) :
    completedWorkflowTaskStatus left taskId = completedWorkflowTaskStatus right taskId := by
  unfold completedWorkflowTaskStatus Tasks.documentationCompletion
  rw [activeContract_congr contracts, completions]

theorem plan_settlementKept (planning : ScriptedRuntimePlanningAdapter) (row : PersistentWorkflowRow) :
    Respects SettlementKept (planning.plan row) := by
  unfold ScriptedRuntimePlanningAdapter.plan
  apply respects_bind settlementKept_trans (respects_ofExcept settlementKept_refl _)
  intro modelPlan
  apply respects_bind settlementKept_trans (respects_get settlementKept_refl)
  intro store
  apply respects_bind settlementKept_trans
  · apply respects_of_ends
    · intro before plan after done
      obtain ⟨-, -, written⟩ := Planning.EngineeringPlanRepository.create_ok done
      rw [written]
      exact settlementKept_refl before
    · intro before error after raised
      exact settlementKept_of_tables (create_raised raised)
  · intro plan
    apply respects_bind settlementKept_trans
    · intro before
      obtain ⟨freezes, same⟩ := freeze_freezesOnly planning.gates plan.id before
      unfold SettlementKept
      rw [same]
      exact ⟨rfl, rfl, rfl⟩
    · intro freeze
      apply respects_bind settlementKept_trans
      · apply respects_of_ends
        · intro before attached after done
          obtain ⟨-, -, -, -, -, written⟩ := Workflows.attachPlan_ok done
          unfold SettlementKept
          rw [written]
          exact ⟨rfl, rfl, rfl⟩
        · intro before error after raised
          exact settlementKept_of_tables (attachPlan_raised raised)
      · intro attached
        exact respects_pure settlementKept_refl _

/-- A workflow is left as it is, or written in a state that is neither closed nor paused. -/
theorem drift_of_put
    (put : after.workflows = before.workflows.put written) (isOpen : ¬ Shelved written) (present : before.workflows.get? written.id = some row)
    (tasks : before.tasks.Carried (MayComplete before) after.tasks)
    (documented : ∀ taskId,
      completedWorkflowTaskStatus after taskId = completedWorkflowTaskStatus before taskId) :
    Drift before after := by
  refine ⟨?_, tasks, documented⟩
  intro workflowId other known shelved
  rw [put] at known
  by_cases same : written.id = workflowId
  · have found : (before.workflows.put written).get? workflowId = some written :=
      Table.get?_put_same (same ▸ present) same
    cases found.symm.trans known
    exact absurd shelved isOpen
  · rwa [Table.get?_put_other _ _ same] at known

theorem closed_shelved (closed : row.workflowState = .closed) :
    Shelved row := .inr closed

theorem closed_of_put (put : after.workflows = before.workflows.put written)
    (present : before.workflows.get? written.id = some row) (isOpen : row.workflowState ≠ .closed)
    (workflowId : String) (other : PersistentWorkflowRow)
    (known : before.workflows.get? workflowId = some other) (closed : other.workflowState = .closed) :
    ∃ new, after.workflows.get? workflowId = some new ∧ new.workflowState = .closed := by
  have different : written.id ≠ workflowId := by
    intro same
    rw [← same, present] at known
    cases known
    exact isOpen closed
  refine ⟨other, ?_, closed⟩
  rw [put, Table.get?_put_other _ _ different]
  exact known

theorem reopened_of_put (put : after.workflows = before.workflows.put written)
    (present : before.workflows.get? written.id = some row) (closed : row.workflowState = .closed)
    (isOpen : ¬ Shelved written) : Broken before after := by
  refine .reopened written.id row present closed ?_
  intro new known
  rw [put, Table.get?_put_same present rfl] at known
  cases known
  exact isOpen

/-- A reconciliation writes nothing only where the task and the workflow have both been settled. -/
theorem reconcile_settles {workflow : PersistentWorkflowRow} (found : store.workflows.get? workflowId = some workflow)
    (parent : parentTask store.toTables workflow = some task) :
    ∃ after, exec (reconcileCompletedWorkflowParentTask workflowId) store = (.ok (), after) ∧
      ((task.status = completedWorkflowTaskStatus store.toTables task.id ∧
          workflow.workflowState = .completedPendingIntegration ∧ after = store) ∨
        Reconciled workflowId store.toTables after.toTables workflow task) := by
  unfold reconcileCompletedWorkflowParentTask reconcileParentTask
  rw [exec_get_bind, found]
  dsimp only
  rw [parent]
  dsimp only
  rw [exec_get_bind]
  split
  · next settled => exact ⟨store, rfl, .inl ⟨settled.1, settled.2, rfl⟩⟩
  · exact ⟨_, rfl, .inr ⟨found, parent, _, _, rfl⟩⟩

theorem reconciled_ending {workflow : PersistentWorkflowRow}
    (reconciled : Reconciled workflowId before after workflow task) :
    Ending (workflow.workflowState ≠ .closed ∧
        (task.status ∈ terminalStatuses → task.status = completedWorkflowTaskStatus before task.id))
      before after := by
  obtain ⟨present, parent, taskUpdated, workflowUpdated, written⟩ := reconciled
  obtain ⟨-, -, listed⟩ := parentTask_present parent
  let settled := reconciledTask task (completedWorkflowTaskStatus before task.id) taskUpdated
  let opened := reconciledWorkflow workflow workflowUpdated
  have named : opened.id = workflowId := Table.get?_key present
  have here : before.workflows.get? opened.id = some workflow := by rw [named, present]
  have workflows : after.workflows = before.workflows.put opened := congrArg Tables.workflows written
  have tasks : after.tasks = before.tasks.put settled := congrArg Tables.tasks written
  have isOpen : ¬ Shelved opened := reconciled_open workflow workflowUpdated
  have found : after.tasks.get? task.id = some settled := by
    rw [tasks]
    exact Table.get?_put_same listed rfl
  have documented : ∀ taskId,
      completedWorkflowTaskStatus after taskId = completedWorkflowTaskStatus before taskId := by
    rw [written]
    exact completedWorkflowTaskStatus_congr rfl rfl
  constructor
  · apply drift_of_put workflows isOpen here _ documented
    rw [tasks]
    exact Table.carried_put (mayComplete_refl before) listed ⟨rfl, .inr rfl⟩
  · rintro ⟨still, agrees⟩
    constructor
    · exact closed_of_put workflows here still
    · intro taskId other known ended
      by_cases same : task.id = taskId
      · subst same
        rw [listed] at known
        cases known
        exact ⟨settled, found, (agrees ended).symm⟩
      · refine ⟨other, ?_, rfl⟩
        rw [tasks, show (before.tasks.put settled).get? taskId = before.tasks.get? taskId from
          Table.get?_put_other _ _ same]
        exact known
  · intro fails
    by_cases closed : workflow.workflowState = .closed
    · exact reopened_of_put workflows here closed isOpen
    · have differs : ¬ (task.status ∈ terminalStatuses →
          task.status = completedWorkflowTaskStatus before task.id) := fun agrees => fails ⟨closed, agrees⟩
      obtain ⟨ended, changed⟩ := Classical.not_imp.mp differs
      exact .rewritten task.id task settled listed ended found (documented task.id).symm
        fun same => changed same.symm

theorem prepareWorkflowPlan_ending (planning : ScriptedRuntimePlanningAdapter) (present : store.workflows.get? row.id = some row) :
    Ending (row.workflowState = .closed → preparedReference row ≠ none ∨
        ∃ error after, exec (planning.plan row) store = (.error error, after))
      store.toTables (exec (planning.prepareWorkflowPlan row.id) store).2.toTables := by
  unfold ScriptedRuntimePlanningAdapter.prepareWorkflowPlan
  rw [exec_bind_of_ok (exec_workflowRow present)]
  cases planned : preparedReference row with
  | some reference => exact ending_same _ fun _ => .inl (Option.some_ne_none reference)
  | none =>
    dsimp only
    have settles := plan_settlementKept planning row store
    rcases ended : exec (planning.plan row) store with ⟨error | reference, after⟩
    · rw [ended] at settles
      obtain ⟨tasks, contracts, completions⟩ := settles
      have workflows : after.workflows = store.workflows := plan_refused planning row store error after ended
      have documented := completedWorkflowTaskStatus_congr contracts completions
      constructor
      · refine ⟨?_, ?_, documented⟩
        · rw [workflows]
          exact fun _ _ known _ => known
        · rw [tasks]
          exact Table.carried_refl (mayComplete_refl _) _
      · exact fun _ => terminalKept_of_same workflows tasks
      · exact fun fails => absurd (fun _ => .inr ⟨error, after, rfl⟩) fails
    · rw [ended] at settles
      obtain ⟨tasks, contracts, completions⟩ := settles
      obtain ⟨written, named, ready, put⟩ := plan_made ended
      have here : store.workflows.get? written.id = some row := by rw [named, present]
      have isOpen := planReady_open ready
      constructor
      · apply drift_of_put put isOpen here _ (completedWorkflowTaskStatus_congr contracts completions)
        rw [tasks]
        exact Table.carried_refl (mayComplete_refl _) _
      · intro keeps
        have still : row.workflowState ≠ .closed := by
          intro closed
          rcases keeps closed with held | ⟨error, left, raised⟩
          · exact held rfl
          · cases raised
        constructor
        · exact closed_of_put put here still
        · rw [tasks]
          exact (terminalKept_refl _).ended
      · intro fails
        obtain ⟨closed, _⟩ := Classical.not_imp.mp fails
        exact reopened_of_put put here closed isOpen

theorem prepareWorkflow_ending (planning : ScriptedRuntimePlanningAdapter) (workflowId : String)
    (store : Store) :
    Ending (PreparationKeeps planning store workflowId) store.toTables
      (exec (prepareWorkflow planning workflowId) store).2.toTables := by
  cases present : store.workflows.get? workflowId with
  | none =>
    have unchanged : (exec (prepareWorkflow planning workflowId) store).2 = store := by
      unfold prepareWorkflow
      rw [exec_bind_of_ok (reconcile_missing present),
        exec_bind_of_error (exec_workflowRow_missing present)]
    rw [unchanged]
    apply ending_same
    intro row known
    rw [present] at known
    cases known
  | some row =>
    have named : row.id = workflowId := Table.get?_key present
    apply Ending.congr (preparationKeeps_iff present).symm
    cases parent : parentTask store.toTables row with
    | some task =>
      apply Ending.congr (rowKeeps_settled planning parent).symm
      obtain ⟨after, done, ⟨agrees, finished, same⟩ | reconciled⟩ := reconcile_settles present parent
      · have unchanged : (exec (prepareWorkflow planning workflowId) store).2 = store := by
          unfold prepareWorkflow
          rw [exec_bind_of_ok done, same, exec_bind_of_ok (exec_workflowRow present),
            if_pos finished]
          rfl
        rw [unchanged]
        apply ending_same
        refine ⟨?_, fun _ => agrees⟩
        rw [finished]
        decide
      · have here : ∃ updated, after.workflows.get? workflowId = some updated ∧
            updated.workflowState = .completedPendingIntegration := by
          obtain ⟨-, -, _, updatedAt, written⟩ := reconciled
          refine ⟨reconciledWorkflow row updatedAt, ?_, rfl⟩
          rw [show after.workflows = store.workflows.put (reconciledWorkflow row updatedAt) from
            congrArg Tables.workflows written]
          exact Table.get?_put_same present named
        obtain ⟨updated, found, finished⟩ := here
        have unchanged : (exec (prepareWorkflow planning workflowId) store).2 = after := by
          unfold prepareWorkflow
          rw [exec_bind_of_ok done, exec_bind_of_ok (exec_workflowRow found),
            if_pos finished]
          rfl
        rw [unchanged]
        exact reconciled_ending reconciled
    | none =>
      apply Ending.congr (rowKeeps_planned planning parent).symm
      by_cases finished : row.workflowState = .completedPendingIntegration
      · have unchanged : (exec (prepareWorkflow planning workflowId) store).2 = store := by
          unfold prepareWorkflow
          rw [exec_bind_of_ok (reconcile_working present parent),
            exec_bind_of_ok (exec_workflowRow present), if_pos finished]
          rfl
        rw [unchanged]
        apply ending_same
        intro closed
        rw [finished] at closed
        cases closed
      · rw [exec_prepareWorkflow_working present parent finished, ← named]
        have here : store.workflows.get? row.id = some row := by rw [named, present]
        exact prepareWorkflowPlan_ending planning here

theorem prepareEach_ending (planning : ScriptedRuntimePlanningAdapter) (workflowIds : List String)
    (store : Store) :
    Ending (∀ begun ∈ preparations planning workflowIds store,
        PreparationKeeps planning begun.1 begun.2)
      store.toTables (exec (prepareEach planning workflowIds) store).2.toTables := by
  induction workflowIds generalizing store with
  | nil => exact ending_same _ fun _ member => nomatch member
  | cons workflowId rest ih =>
    have first := prepareWorkflow_ending planning workflowId store
    unfold prepareEach preparations
    rw [exec_bind]
    rcases ended : exec (prepareWorkflow planning workflowId) store with ⟨error | references, middle⟩
    · rw [ended] at first
      exact first.congr List.forall_mem_singleton.symm
    · rw [ended] at first
      have last : (exec (prepareEach planning rest >>= fun later => pure (references ++ later))
          middle).2 = (exec (prepareEach planning rest) middle).2 := by
        rw [exec_bind]
        rcases exec (prepareEach planning rest) middle with ⟨error | found, after⟩ <;> rfl
      dsimp only
      rw [last]
      exact (ending_trans first (ih middle)).congr List.forall_mem_cons.symm

/-! ### The run of the loop, and any run of the services -/

theorem broken_stays {tables : Tables} (service : ExecutionRuntimeLoopService)
    (config : RuntimeLoopConfig) {begun : LoopState} (broken : Broken tables begun.store.toTables) :
    ¬ TerminalKept tables (exec (finished (guarded service config)) begun).2.store.toTables := by
  intro kept
  have looped : LoopKept begun.store.toTables
      (exec (finished (guarded service config)) begun).2.store.toTables :=
    (finished_stepped (guarded_stepped service config) begun).kept
  cases broken with
  | reopened workflowId row present closed opened =>
    obtain ⟨new, known, still⟩ := kept.closed workflowId row present closed
    have opens := (cycles_shelved service config config.maxTasks begun).2
    rw [finished_workflows] at known
    obtain ⟨old, held, shelved⟩ := opens workflowId new known (closed_shelved still)
    exact opened old held shelved
  | rewritten taskId task new present ended found settled changed =>
    obtain ⟨final, known, same⟩ := kept.ended taskId task present ended
    obtain ⟨last, held, kept⟩ := Table.carried_some looped.tasks found
    rw [known] at held
    cases held
    rcases kept with unchanged | ⟨ready, -⟩
    · exact changed (unchanged.symm.trans same)
    · rw [ready] at settled
      rcases completedWorkflowTaskStatus_cases begun.store.toTables taskId with complete | pending
      · exact absurd (settled.trans complete) (by decide)
      · exact absurd (settled.trans pending) (by decide)

theorem run_terminalKept_iff (service : ExecutionRuntimeLoopService) (config : RuntimeLoopConfig)
    (state : LoopState) :
    TerminalKept state.store.toTables (exec (run service config) state).2.store.toTables ↔
      ∀ begun ∈ runPreparations service config state,
        PreparationKeeps service.planning begun.1 begun.2 := by
  unfold run runPreparations
  by_cases one : config.dispatcherCount ≠ 1
  · rw [if_pos one, if_pos one]
    exact iff_of_true (terminalKept_refl _) fun _ member => absurd member List.not_mem_nil
  · rw [if_neg one, if_neg one, exec_bind_of_ok (exec_modify _ _), exec_bind,
      onStore, exec_zoom]
    unfold prepareWorkflowPlans
    rw [exec_get_bind]
    cases listed : workflowRows state.store.toTables config.workflowIds with
    | error error => exact iff_of_true (terminalKept_refl _) fun _ member => absurd member List.not_mem_nil
    | ok rows =>
      rw [exec_bind_ofExcept rfl]
      have prepared := prepareEach_ending service.planning rows state.store
      by_cases keeps : ∀ begun ∈ preparations service.planning rows state.store,
          PreparationKeeps service.planning begun.1 begun.2
      · refine iff_of_true ?_ keeps
        have kept := prepared.kept keeps
        rcases ended : exec (prepareEach service.planning rows) state.store with
          ⟨error | references, store⟩
        · rw [ended] at kept
          exact kept
        · rw [ended] at kept
          dsimp only
          rw [report, exec_bind_of_ok (exec_modify _ _)]
          let begun : LoopState := { state with
            store := store
            result := { planReferences := references } }
          have looped := (finished_stepped (guarded_stepped service config) begun).kept
          exact terminalKept_trans kept (loopKept_terminalKept looped)
      · refine iff_of_false ?_ keeps
        have broken := prepared.broken keeps
        rcases ended : exec (prepareEach service.planning rows) state.store with
          ⟨error | references, store⟩
        · rw [ended] at broken
          exact broken.not_kept
        · rw [ended] at broken
          dsimp only
          rw [report, exec_bind_of_ok (exec_modify _ _)]
          exact broken_stays service config broken

/-- An operation on a task, a run of the loop in some workspaces, an integration over two working
trees, or work that touches neither the tasks nor the workflows. -/
inductive Operation where
  | task (operation : Tasks.TaskOperation)
  | runtime (service : ExecutionRuntimeLoopService) (config : RuntimeLoopConfig)
      (workspaces : String → Worktree.Files)
  | integrate (env : Integration.Environment) (request : Integration.CanonicalIntegrationRequest)
      (canonical candidate : Worktree.Files)
  | elsewhere (change : Store → Store) (untouched : ∀ store, Tasks.Untouched store (change store))

def step (store : Store) : Operation → Store
  | .task operation => (exec operation.attempt store).2
  | .runtime service config workspaces =>
    (exec (run service config) { store := store, workspaces := workspaces }).2.store
  | .integrate env request canonical candidate =>
    (exec (Integration.integrate env request) ⟨store, canonical, candidate⟩).2.store
  | .elsewhere change _ => change store

/-- A run of the loop comes to no workflow whose preparation would reopen it, or give its ended task
another status. -/
def Keeps (store : Store) : Operation → Prop
  | .runtime service config workspaces =>
    ∀ begun ∈ runPreparations service config { store := store, workspaces := workspaces },
      PreparationKeeps service.planning begun.1 begun.2
  | _ => True

theorem step_terminalKept_iff (store : Store) (operation : Operation) :
    TerminalKept store.toTables (step store operation).toTables ↔ Keeps store operation := by
  cases operation with
  | task operation =>
    exact iff_of_true (taskEffect_terminalKept (operation.attempt_leaves store)) trivial
  | runtime service config workspaces =>
    exact run_terminalKept_iff service config { store := store, workspaces := workspaces }
  | integrate env request canonical candidate =>
    have closes := Integration.integrate_closes env request ⟨store, canonical, candidate⟩
    exact iff_of_true (closesOnly_terminalKept closes) trivial
  | elsewhere change untouched =>
    obtain ⟨tasks, workflows⟩ := untouched store
    exact iff_of_true (terminalKept_of_same workflows tasks) trivial

/-- What is terminal at any moment of a run is so, in the same state, at every later one. -/
def Absorbing (start : Store) (operations : List Operation) : Prop :=
  ∀ front middle back, operations = front ++ (middle ++ back) →
    TerminalKept (Run.run step start front).toTables (Run.run step start (front ++ middle)).toTables

theorem terminal_states_absorbing_iff (start : Store) (operations : List Operation) :
    Absorbing start operations ↔ Meets step Keeps start operations := by
  constructor
  · intro absorbing
    rw [Run.meets_iff_forall]
    intro front operation back split
    have kept := absorbing front [operation] back split
    rw [Run.run_append] at kept
    exact (step_terminalKept_iff _ operation).mp kept
  · intro meets front middle back split
    rw [split] at meets
    have later := (Run.meets_append step Keeps _ _ _ meets).2
    have now := (Run.meets_append step Keeps _ _ _ later).1
    rw [Run.run_append]
    exact Run.relation_guarded step Keeps
      (fun before after => TerminalKept before.toTables after.toTables)
      (fun store => terminalKept_refl store.toTables) (fun _ _ _ => terminalKept_trans)
      (fun store operation keeps => (step_terminalKept_iff store operation).mpr keeps)
      (Run.run step start front) middle now

/-- The ready workflow, closed when its item was completed. -/
def closedWorkflow : PersistentWorkflowRow :=
  { readyWorkflow with
    workflowState := .closed
    taskBacklog := [("state", .str "COMPLETED") :: Planning.declaringItem "first" "a.md"]
    completedTaskIds := ["first"] }

/-- The store with the closed workflow, and with its task in the given status. -/
def closedStore (status : TaskStatus) : Store :=
  { (readyState ⟨[closedWorkflow], List.nodup_singleton _⟩).store with
    tasks := ⟨[{
      id := "LTASK_000001"
      projectId := "LPROJ_000001"
      authorityLevel := .l1
      status := status }], List.nodup_singleton _⟩ }

def anyRun : List Operation := [.runtime plainService {} fun _ => ∅]

/-- One run of the loop takes a closed workflow back to be integrated, and completes a task that has
been cancelled. -/
theorem closed_workflow_reopened :
    ¬ Absorbing (closedStore .complete) anyRun ∧ ¬ Absorbing (closedStore .cancelled) anyRun ∧
      (Run.run step (closedStore .complete) anyRun).workflows.rows.map
        PersistentWorkflowRow.workflowState = [.completedPendingIntegration] ∧
      (Run.run step (closedStore .cancelled) anyRun).tasks.rows.map TaskRow.status = [.complete] := by
  have reopened : (Run.run step (closedStore .complete) anyRun).workflows.rows.map
      PersistentWorkflowRow.workflowState = [.completedPendingIntegration] := by decide +kernel
  have rewritten : (Run.run step (closedStore .cancelled) anyRun).tasks.rows.map TaskRow.status =
      [.complete] := by decide +kernel
  refine ⟨?_, ?_, reopened, rewritten⟩
  · intro absorbing
    obtain ⟨new, found, closed⟩ :=
      (absorbing [] anyRun [] rfl).closed "LWORK_000001" closedWorkflow rfl rfl
    have listed := List.mem_map_of_mem (f := PersistentWorkflowRow.workflowState) (Table.get?_mem found)
    rw [List.nil_append, reopened, closed] at listed
    revert listed
    decide
  · intro absorbing
    obtain ⟨new, found, same⟩ := (absorbing [] anyRun [] rfl).ended "LTASK_000001" _ rfl (by decide)
    have listed := List.mem_map_of_mem (f := TaskRow.status) (Table.get?_mem found)
    rw [List.nil_append, rewritten, same] at listed
    revert listed
    decide

end Lucius.Runtime.TerminalStates
