import Lucius.Runtime.ItemAuthorization
import Lucius.Runtime.Preparation

/-! Whether a workflow that cannot be planned keeps a run from the other workflows. -/

namespace Lucius.Runtime

open Lucius.Action Planning Router

/-- A workflow that is yet to be planned, with a backlog no plan can be made of. -/
structure Unplannable (planning : ScriptedRuntimePlanningAdapter) (tables : Tables)
    (workflow : PersistentWorkflowRow) : Prop where
  present : tables.workflows.get? workflow.id = some workflow
  unfinished : workflow.workflowState ≠ .completedPendingIntegration
  working : parentTask tables workflow = none
  unplanned : preparedReference workflow = none
  refused : ∃ error, planning.modelPlan workflow = .error error

/-- The run returns, and has dispatched an item. -/
def Dispatches (ended : Except PyExc ExecutionRuntimeLoopResult × LoopState) : Prop :=
  ∃ result, ended.1 = .ok result ∧ 0 < result.selectedTasks

def SameBacklog (old new : PersistentWorkflowRow) : Prop := new.taskBacklog = old.taskBacklog

/-- The rows of the other workflows are as they were. -/
def OthersKept (workflowId : String) (before after : Store) : Prop :=
  ∀ other, other ≠ workflowId → after.workflows.get? other = before.workflows.get? other

section

variable {workflowId : String}

theorem othersKept_refl (store : Store) : OthersKept workflowId store store := fun _ _ => rfl

theorem othersKept_trans (first second third : Store) (one : OthersKept workflowId first second)
    (two : OthersKept workflowId second third) : OthersKept workflowId first third :=
  fun other different => (two other different).trans (one other different)

theorem othersKept_of_workflows {before after : Store} (same : after.workflows = before.workflows) :
    OthersKept workflowId before after := fun other _ => by rw [same]

theorem othersKept_put {before after : Store} {row : PersistentWorkflowRow} (named : row.id = workflowId)
    (written : after.workflows = before.workflows.put row) : OthersKept workflowId before after := by
  intro other different
  rw [written]
  exact Table.get?_put_other _ _ (fun same => different (same.symm.trans named))

theorem reconcile_others (workflowId : String) :
    Action.Respects (OthersKept workflowId) (reconcileCompletedWorkflowParentTask workflowId) := by
  intro store
  obtain ⟨after, done, unchanged | ⟨workflow, task, present, -, _, updatedAt, written⟩⟩ :=
    reconcile_ends workflowId store
  · rw [done]
    exact othersKept_of_workflows (by rw [unchanged])
  · have named : (reconciledWorkflow workflow updatedAt).id = workflowId := Table.get?_key present
    rw [done]
    exact othersKept_put named (by rw [written])

theorem attachPlan_others (workflowId planId planFreezeId : String) :
    Action.Respects (OthersKept workflowId) (Workflows.attachPlan workflowId planId planFreezeId) := by
  apply respects_of_ends
  · intro store attached after done
    obtain ⟨row, updatedAt, -, named, is, written⟩ := Workflows.attachPlan_ok done
    have same : attached.id = workflowId := by
      rw [is]
      exact named
    exact othersKept_put same (by rw [written])
  · intro store error after raised
    exact othersKept_of_workflows (by rw [attachPlan_raised raised])

theorem create_others (context : Planning.PlanningContext)
    (modelPlan : Planning.ModelEngineeringPlanOutput) (blockers : List Dict) :
    Action.Respects (OthersKept workflowId)
      (Planning.EngineeringPlanRepository.create context modelPlan blockers) := by
  apply respects_of_ends
  · intro store plan after done
    obtain ⟨-, -, written⟩ := Planning.EngineeringPlanRepository.create_ok done
    exact othersKept_of_workflows (by rw [written]; rfl)
  · intro store error after raised
    exact othersKept_of_workflows (by rw [create_raised raised])

theorem plan_others (adapter : ScriptedRuntimePlanningAdapter) (workflow : PersistentWorkflowRow) :
    Action.Respects (OthersKept workflow.id) (adapter.plan workflow) := by
  have frozen (planId : String) : Action.Respects (OthersKept workflow.id)
      (Planning.PlanFreezeService.freeze adapter.gates planId) := by
    have implies : ∀ before after, FreezesOnly before after → OthersKept workflow.id before after := by
      rintro before after ⟨freezes, same⟩
      exact othersKept_of_workflows (by rw [same])
    exact respects_mono implies (freeze_freezesOnly adapter.gates planId)
  unfold ScriptedRuntimePlanningAdapter.plan
  apply respects_bind othersKept_trans (respects_ofExcept othersKept_refl _)
  intro modelPlan
  apply respects_bind othersKept_trans (respects_get othersKept_refl)
  intro store
  apply respects_bind othersKept_trans (create_others _ _ _)
  intro plan
  apply respects_bind othersKept_trans (frozen plan.id)
  intro freeze
  apply respects_bind othersKept_trans (attachPlan_others _ _ _)
  intro attached
  exact respects_pure othersKept_refl _

end

theorem exec_workflowRow {workflowId : String} {store : Store} {workflow : PersistentWorkflowRow}
    (found : store.workflows.get? workflowId = some workflow) :
    exec (Workflows.workflowRow workflowId) store = (.ok workflow, store) := by
  unfold Workflows.workflowRow
  rw [exec_get_bind, found]
  rfl

theorem exec_workflowRow_missing {workflowId : String} {store : Store}
    (absent : store.workflows.get? workflowId = none) :
    exec (Workflows.workflowRow workflowId) store =
      (.error (.valueError ("Unknown persistent workflow: " ++ workflowId)), store) := by
  unfold Workflows.workflowRow
  rw [exec_get_bind, absent]
  rfl

theorem prepareWorkflowPlan_others (adapter : ScriptedRuntimePlanningAdapter) (workflowId : String) :
    Action.Respects (OthersKept workflowId) (adapter.prepareWorkflowPlan workflowId) := by
  intro store
  unfold ScriptedRuntimePlanningAdapter.prepareWorkflowPlan
  cases found : store.workflows.get? workflowId with
  | none =>
    rw [exec_bind_of_error (exec_workflowRow_missing found)]
    exact othersKept_refl store
  | some workflow =>
    rw [exec_bind_of_ok (exec_workflowRow found)]
    have named : workflow.id = workflowId := Table.get?_key found
    split
    · exact othersKept_refl store
    · exact named ▸ plan_others adapter workflow store

theorem prepareWorkflow_others (planning : ScriptedRuntimePlanningAdapter) (workflowId : String) :
    Action.Respects (OthersKept workflowId) (prepareWorkflow planning workflowId) := by
  unfold prepareWorkflow
  apply respects_bind othersKept_trans (reconcile_others workflowId)
  intro _
  apply respects_bind othersKept_trans (workflowRow_same workflowId othersKept_refl)
  intro workflow
  split
  · exact respects_pure othersKept_refl _
  · apply respects_bind othersKept_trans (prepareWorkflowPlan_others planning workflowId)
    intro reference
    exact respects_pure othersKept_refl _

theorem unplannable_kept {planning : ScriptedRuntimePlanningAdapter} {before after : Store}
    {bad : PersistentWorkflowRow} {workflowId : String} (different : workflowId ≠ bad.id)
    (others : OthersKept workflowId before after) (prepared : PreparedStore before after)
    (unplannable : Unplannable planning before.toTables bad) :
    Unplannable planning after.toTables bad := by
  have present : after.workflows.get? bad.id = some bad := by
    rw [others bad.id different.symm]
    exact unplannable.present
  refine ⟨present, unplannable.unfinished, ?_, unplannable.unplanned, unplannable.refused⟩
  have working := unplannable.working
  unfold parentTask at working ⊢
  split
  · next completed =>
      rw [if_pos completed] at working
      cases named : nonEmpty bad.taskId with
      | none => rfl
      | some taskId =>
        rw [named] at working
        have absent : before.tasks.get? taskId = none := working
        cases found : after.tasks.get? taskId with
        | none => exact found
        | some task =>
          obtain ⟨older, known, -⟩ := Table.carried_origin prepared.tasks found
          exact absurd (known.symm.trans absent) (by simp)
  · rfl

theorem prepareWorkflow_raises {planning : ScriptedRuntimePlanningAdapter} {store : Store}
    {bad : PersistentWorkflowRow} (unplannable : Unplannable planning store.toTables bad) :
    ∃ error after, exec (prepareWorkflow planning bad.id) store = (.error error, after) := by
  obtain ⟨error, refused⟩ := unplannable.refused
  have quiet : exec (reconcileCompletedWorkflowParentTask bad.id) store = (.ok (), store) :=
    reconcile_working unplannable.present unplannable.working
  have planned : exec (planning.prepareWorkflowPlan bad.id) store = (.error error, store) := by
    unfold ScriptedRuntimePlanningAdapter.prepareWorkflowPlan
    rw [exec_bind_of_ok (exec_workflowRow unplannable.present), unplannable.unplanned]
    dsimp only
    unfold ScriptedRuntimePlanningAdapter.plan
    rw [refused]
    rfl
  refine ⟨error, store, ?_⟩
  unfold prepareWorkflow
  rw [exec_bind_of_ok quiet, exec_bind_of_ok (exec_workflowRow unplannable.present),
    if_neg unplannable.unfinished, exec_bind_of_error planned]

theorem prepareEach_raises {planning : ScriptedRuntimePlanningAdapter} {workflowIds : List String}
    {bad : PersistentWorkflowRow} (member : bad.id ∈ workflowIds) {store : Store}
    (unplannable : Unplannable planning store.toTables bad) :
    ∃ error after, exec (prepareEach planning workflowIds) store = (.error error, after) := by
  induction workflowIds generalizing store with
  | nil => cases member
  | cons workflowId rest ih =>
    unfold prepareEach
    by_cases here : workflowId = bad.id
    · obtain ⟨error, after, raised⟩ := prepareWorkflow_raises unplannable
      exact ⟨error, after, by rw [here, exec_bind_of_error raised]⟩
    · have later : bad.id ∈ rest := (List.mem_cons.mp member).resolve_left (Ne.symm here)
      have others := prepareWorkflow_others planning workflowId store
      have prepared := prepareWorkflow_prepared planning workflowId store
      rcases ended : exec (prepareWorkflow planning workflowId) store with ⟨error | references, middle⟩
      · exact ⟨error, middle, exec_bind_of_error ended⟩
      · rw [ended] at others prepared
        obtain ⟨error, after, raised⟩ := ih later (unplannable_kept here others prepared unplannable)
        exact ⟨error, after, by
          rw [exec_bind_of_ok ended, exec_bind_of_error raised]⟩

theorem prepareWorkflowPlans_raises {planning : ScriptedRuntimePlanningAdapter}
    {workflowIds rows : List String} {bad : PersistentWorkflowRow} {store : Store}
    (listed : workflowRows store.toTables workflowIds = .ok rows) (member : bad.id ∈ rows)
    (unplannable : Unplannable planning store.toTables bad) :
    ∃ error after, exec (prepareWorkflowPlans planning workflowIds) store = (.error error, after) := by
  obtain ⟨error, after, raised⟩ := prepareEach_raises member unplannable
  refine ⟨error, after, ?_⟩
  unfold prepareWorkflowPlans
  rw [exec_get_bind, listed]
  exact raised

/-- A run over a workflow that cannot be planned raises before it dispatches anything,
whatever the other workflows are and wherever it stands among them. -/
theorem unplannable_stops_run (service : ExecutionRuntimeLoopService) (config : RuntimeLoopConfig)
    (state : LoopState) {rows : List String} {bad : PersistentWorkflowRow}
    (listed : workflowRows state.store.toTables config.workflowIds = .ok rows)
    (member : bad.id ∈ rows) (unplannable : Unplannable service.planning state.store.toTables bad) :
    ¬ Dispatches (exec (run service config) state) ∧
      (∃ error, (exec (run service config) state).1 = .error error) ∧
      (exec (run service config) state).2.handed = state.handed ∧
      state.store.workflows.Carried SameBacklog
        (exec (run service config) state).2.store.workflows := by
  have raised : ∃ error after, exec (run service config) state = (.error error, after) ∧
      after.handed = state.handed ∧ PreparedStore state.store after.store := by
    unfold run
    split
    · exact ⟨_, state, rfl, rfl, preparedStore_refl _⟩
    · obtain ⟨error, after, raised⟩ := prepareWorkflowPlans_raises listed member unplannable
      have prepared := respects_exec
        (prepareWorkflowPlans_prepared service.planning config.workflowIds) raised
      rw [exec_bind_of_ok (exec_modify _ _)]
      have stopped : exec (onStore (prepareWorkflowPlans service.planning config.workflowIds))
          { state with result := {} } =
            (.error error, { state with result := {}, store := after }) := by
        rw [onStore, exec_zoom, raised]
      exact ⟨error, _, exec_bind_of_error stopped, rfl, prepared⟩
  obtain ⟨error, after, ended, handed, prepared⟩ := raised
  rw [ended]
  refine ⟨?_, ⟨error, rfl⟩, handed, ?_⟩
  · rintro ⟨result, returned, -⟩
    cases returned
  · exact Table.carried_mono (fun _ _ same => same.taskBacklog) prepared.workflows

/-- A workflow with a frozen plan and one item that is ready. -/
def readyWorkflow : PersistentWorkflowRow where
  id := "LWORK_000001"
  projectId := some "LPROJ_000001"
  repositoryId := some "LREPO_000001"
  taskId := some "LTASK_000001"
  planId := some "LPLAN_000001"
  planFreezeId := some "LFREEZE_000001"
  workflowState := .planReady
  authorityTier := "L1"
  taskBacklog := [("state", .str "READY") :: Planning.declaringItem "first" "a.md"]

def unplannableWorkflow : PersistentWorkflowRow where
  id := "LWORK_000002"
  taskBacklog := [[("item_id", .str "second"), ("task_type", .str "engineering")]]

def readyContract : TaskContractRow where
  id := "LCONTR_000001"
  taskId := "LTASK_000001"
  objective := "Write the notes"
  acceptanceCriteria := [[("id", .str "AC-001"), ("statement", .str "The notes are written")]]
  repositoryIds := ["LREPO_000001"]
  authorityLevel := .l1

def readyTables (workflows : Table PersistentWorkflowRow) : Tables where
  projects := .single { id := "LPROJ_000001" }
  repositories := .single { id := "LREPO_000001", projectId := "LPROJ_000001" }
  attachments := [⟨"LPROJ_000001", "LREPO_000001"⟩]
  tasks := .single {
      id := "LTASK_000001"
      projectId := "LPROJ_000001"
      authorityLevel := .l1
      status := .ready }
  contracts := .single readyContract
  plans := .single {
      id := "LPLAN_000001"
      taskId := "LTASK_000001"
      projectId := "LPROJ_000001"
      taskContractId := "LCONTR_000001"
      plannedFor := some readyContract }
  freezes := .single {
      id := "LFREEZE_000001"
      planId := "LPLAN_000001"
      taskId := "LTASK_000001"
      projectId := "LPROJ_000001"
      planPayload := .obj Router.notesPayload }
  workflows := workflows

def taskReady : AuditEventRow where
  id := "LAUDIT_000001"
  eventType := "TASK_READY"
  projectId := some "LPROJ_000001"
  repositoryId := none
  taskId := some "LTASK_000001"
  runId := none
  action := "mark_ready"
  result := "SUCCESS"
  timestamp := 0

def readyState (workflows : Table PersistentWorkflowRow) : LoopState where
  store := { readyTables workflows with audits := [taskReady], issued := fun _ => 1 }
  workspaces := fun _ => ∅

def oneReady : LoopState := readyState (.single readyWorkflow)

def readyAndUnplannable : LoopState :=
  readyState ⟨[readyWorkflow, unplannableWorkflow], by decide⟩

def plainService : ExecutionRuntimeLoopService where
  planning := Planning.runtimeAdapter
  router := fun _ => ⟨Router.plainSettings, ⟨[], List.nodup_nil⟩, Router.plainGates⟩
  fromisoformat := fun _ => none

/-- The workflow with the ready item is run on its own, and not together with the other. -/
theorem ready_stopped_by_unplannable :
    Unplannable plainService.planning readyAndUnplannable.store.toTables unplannableWorkflow ∧
      Dispatches (exec (run plainService { workflowIds := ["LWORK_000001"] }) readyAndUnplannable) ∧
      ¬ Dispatches (exec (run plainService { workflowIds := ["LWORK_000001", "LWORK_000002"] })
        readyAndUnplannable) := by
  have alone : (exec (run plainService { workflowIds := ["LWORK_000001"] })
      readyAndUnplannable).1.map (·.selectedTasks) = .ok 1 := by decide +kernel
  have both : (exec (run plainService { workflowIds := ["LWORK_000001", "LWORK_000002"] })
      readyAndUnplannable).1.toOption = none := by decide +kernel
  refine ⟨⟨rfl, by decide, rfl, rfl, _, rfl⟩, ?_, ?_⟩
  · rcases ended : (exec (run plainService { workflowIds := ["LWORK_000001"] })
        readyAndUnplannable).1 with error | result
    · rw [ended] at alone
      cases alone
    · rw [ended] at alone
      have selected : result.selectedTasks = 1 := Except.ok.inj alone
      exact ⟨result, ended, by omega⟩
  · rintro ⟨result, returned, -⟩
    rw [returned] at both
    cases both

theorem unplannable_stops_ready :
    ¬ Dispatches (exec (run plainService {}) readyAndUnplannable) ∧
      (∃ error, (exec (run plainService {}) readyAndUnplannable).1 = .error error) ∧
      (exec (run plainService {}) readyAndUnplannable).2.handed = [] ∧
      readyAndUnplannable.store.workflows.Carried SameBacklog
        (exec (run plainService {}) readyAndUnplannable).2.store.workflows := by
  have listed : workflowRows readyAndUnplannable.store.toTables [] =
      .ok ["LWORK_000001", "LWORK_000002"] := by decide +kernel
  have unplannable : Unplannable plainService.planning readyAndUnplannable.store.toTables
      unplannableWorkflow := ⟨rfl, by decide, rfl, rfl, _, rfl⟩
  exact unplannable_stops_run plainService {} readyAndUnplannable listed (by decide) unplannable

end Lucius.Runtime
