import Lucius.Integration.ClosedWorkflows
import Lucius.Planning.Service
import Lucius.Runtime.ShelvedWorkflows
import Lucius.Tasks.Frame

/-! The services that make, withdraw, attach and execute plans side by side, and what becomes of the
plans that the workflows hold.

What is handed to the execution router is kept, and so are the integrations that complete, each
with the tables of its moment. -/

namespace Lucius.Runtime.PlannedWork

open Lucius.Action Planning Router

/-- The integration of a workflow. -/
structure Integrated where
  workflowId : String
  tables : Tables

structure PlannedState where
  store : Store
  handed : List Handed := []
  integrated : List Integrated := []

/-- Some workflow names the plan as its own. -/
def Attached (tables : Tables) (planId : String) : Prop :=
  ∃ workflowId row, tables.workflows.get? workflowId = some row ∧ nonEmpty row.planId = some planId

/-- The plans and the contracts are the same, and no workflow names another plan. -/
structure Frame (before after : Tables) : Prop where
  contracts : after.contracts = before.contracts
  plans : after.plans = before.plans
  attached : ∀ planId, Attached after planId → Attached before planId

inductive Operation where
  | task (operation : Tasks.ServiceOperation)
  | createPlan (model : Planning.PlanningModel) (taskId : String) (snapshotIds : List String)
  | replan (model : Planning.PlanningModel) (previousPlanId : String) (snapshotIds : List String)
  | rejectPlan (planId : String)
  | freeze (gates : Planning.FreezeGates) (planId : String)
  | attachPlan (workflowId planId planFreezeId : String)
  | prepare (planning : ScriptedRuntimePlanningAdapter) (workflowId : String)
  | resolveBlocker (workflowId itemId checkpointId : String) (expectedItemVersion : Int)
      (resolutionEvent : String)
  | runtime (service : ExecutionRuntimeLoopService) (config : RuntimeLoopConfig)
      (workspaces : String → Worktree.Files)
  | integrate (env : Integration.Environment) (request : Integration.CanonicalIntegrationRequest)
      (canonical candidate : Worktree.Files)
  | elsewhere (change : Store → Store)
      (untouched : ∀ store, Frame store.toTables (change store).toTables)

def completed (request : Integration.CanonicalIntegrationRequest) :
    Except Worktree.WorkspaceExc Integration.CanonicalIntegrationResult × Integration.World → List Integrated
  | (.ok result, after) =>
    if result.status = .completed then [⟨request.workflowId, after.store.toTables⟩] else []
  | (.error _, _) => []

def step (state : PlannedState) : Operation → PlannedState
  | .task operation => { state with store := (exec operation.attempt state.store).2 }
  | .createPlan model taskId snapshotIds =>
    { state with store :=
        (exec (Planning.EngineeringPlannerService.createPlan model taskId snapshotIds) state.store).2 }
  | .replan model previousPlanId snapshotIds =>
    { state with store :=
        (exec (Planning.EngineeringPlannerService.replan model previousPlanId snapshotIds)
          state.store).2 }
  | .rejectPlan planId =>
    { state with store := (exec (Planning.EngineeringPlannerService.rejectPlan planId) state.store).2 }
  | .freeze gates planId =>
    { state with store := (exec (Planning.PlanFreezeService.freeze gates planId) state.store).2 }
  | .attachPlan workflowId planId planFreezeId =>
    { state with store := (exec (Workflows.attachPlan workflowId planId planFreezeId) state.store).2 }
  | .prepare planning workflowId =>
    { state with store := (exec (planning.prepareWorkflowPlan workflowId) state.store).2 }
  | .resolveBlocker workflowId itemId checkpointId version event =>
    { state with store :=
        (exec (Queue.resolveBlocker workflowId itemId checkpointId version event) state.store).2 }
  | .runtime service config workspaces =>
    let after := (exec (run service config) { store := state.store, workspaces := workspaces }).2
    { state with
      store := after.store
      handed := state.handed ++ after.handed }
  | .integrate env request canonical candidate =>
    let ended := exec (Integration.integrate env request) ⟨state.store, canonical, candidate⟩
    { state with
      store := ended.2.store
      integrated := state.integrated ++ completed request ended }
  | .elsewhere change _ => { state with store := change state.store }

/-! ### What leaves the plans alone -/

/-- Whatever is handed over was released: its workflow has a task that is ready, and a plan that was
made for the active contract as it stands. -/
def HandsReleased (before after : PlannedState) : Prop :=
  ∃ more, after.handed = before.handed ++ more ∧ ∀ handed ∈ more, ∃ workflow task contract plan,
    Released handed.tables handed.context workflow task contract plan

theorem step_released (state : PlannedState) (operation : Operation) :
    HandsReleased state (step state operation) := by
  cases operation with
  | runtime service config workspaces =>
    obtain ⟨more, handed, known⟩ :=
      run_handed service config { store := state.store, workspaces := workspaces }
    exact ⟨more, congrArg (state.handed ++ ·) handed, fun each member => (known each member).1.released⟩
  | _ => exact ⟨[], (List.append_nil _).symm, fun _ member => absurd member List.not_mem_nil⟩

theorem handed_released (start : PlannedState) (operations : List Operation) :
    HandsReleased start (Run.run step start operations) := by
  apply Run.relation_run step HandsReleased _ _ step_released
  · exact fun state => ⟨[], (List.append_nil _).symm, fun _ member => absurd member List.not_mem_nil⟩
  · rintro first second third ⟨one, earlier, before⟩ ⟨two, later, after⟩
    refine ⟨one ++ two, by rw [later, earlier, List.append_assoc], ?_⟩
    intro handed member
    exact (List.mem_append.mp member).elim (before handed) (after handed)

theorem frame_refl (tables : Tables) : Frame tables tables := ⟨rfl, rfl, fun _ attached => attached⟩

theorem frame_of_tables {before after : Tables} (same : after = before) : Frame before after :=
  same ▸ frame_refl before

theorem attached_of_origin {before after : Tables}
    (origin : ∀ workflowId new, after.workflows.get? workflowId = some new →
      ∃ old, before.workflows.get? workflowId = some old ∧ new.planId = old.planId) :
    ∀ planId, Attached after planId → Attached before planId := by
  rintro planId ⟨workflowId, new, present, named⟩
  obtain ⟨old, known, same⟩ := origin workflowId new present
  exact ⟨workflowId, old, known, same ▸ named⟩

theorem frame_of_carried {related : PersistentWorkflowRow → PersistentWorkflowRow → Prop}
    {before after : Tables} (contracts : after.contracts = before.contracts)
    (plans : after.plans = before.plans) (workflows : before.workflows.Carried related after.workflows)
    (keeps : ∀ old new, related old new → new.planId = old.planId) : Frame before after := by
  refine ⟨contracts, plans, attached_of_origin ?_⟩
  intro workflowId new present
  obtain ⟨old, known, holds⟩ := Table.carried_origin workflows present
  exact ⟨old, known, keeps old new holds⟩

theorem frame_of_loopKept {before after : Tables} (kept : LoopKept before after) : Frame before after :=
  frame_of_carried kept.contracts kept.plans kept.workflows fun _ _ same => same.planId

theorem frame_of_closesOnly {before after : Tables} (closes : Integration.ClosesOnly before after) :
    Frame before after := by
  obtain ⟨workflows, same, carried⟩ := closes
  rw [same]
  refine frame_of_carried rfl rfl carried ?_
  intro old new closed
  rcases closed with rfl | ⟨_, rfl⟩
  · rfl
  · rfl

theorem frame_of_freezesOnly {before after : Store} (freezes : FreezesOnly before after) :
    Frame before.toTables after.toTables := by
  obtain ⟨rows, same⟩ := freezes
  rw [same]
  exact ⟨rfl, rfl, fun _ attached => attached⟩

theorem frame_of_taskTables {before after : Store} (only : Tasks.TaskTablesOnly before after) :
    Frame before.toTables after.toTables := by
  unfold Tasks.TaskTablesOnly at only
  rw [only]
  exact ⟨rfl, rfl, fun _ attached => attached⟩

theorem resolveBlocker_frame (workflowId wanted checkpointId : String) (version : Int) (event : String)
    (store : Store) : Frame store.toTables
      (exec (Queue.resolveBlocker workflowId wanted checkpointId version event) store).2.toTables := by
  rcases ended : exec (Queue.resolveBlocker workflowId wanted checkpointId version event) store with
    ⟨error | result, after⟩
  · exact frame_of_tables (Queue.resolveBlocker_raised _ _ _ _ _ store error after ended)
  · obtain ⟨row, written, item, new, -, -, -, edits⟩ := Queue.resolveBlocker_writes ended
    have bound := edits.write.bound
    have here : store.workflows.get? written.id = some row := by rw [bound.id, edits.write.present]
    have put : after.toTables = { store.toTables with workflows := store.workflows.put written } :=
      edits.write.put
    rw [put]
    refine ⟨rfl, rfl, attached_of_origin ?_⟩
    intro id other present
    by_cases same : written.id = id
    · have found : (store.workflows.put written).get? id = some written :=
        Table.get?_put_same (same ▸ here) same
      cases found.symm.trans present
      exact ⟨row, same ▸ here, bound.planId⟩
    · have kept : (store.workflows.put written).get? id = store.workflows.get? id :=
        Table.get?_put_other _ _ same
      exact ⟨other, kept.symm.trans present, rfl⟩

/-! ### The plans that workflows hold -/

/-- Every plan that a workflow holds has the property. -/
def Held (property : EngineeringPlanRow → Prop) (tables : Tables) : Prop :=
  ∀ planId plan, Attached tables planId → tables.plans.get? planId = some plan → property plan

section

variable {property : EngineeringPlanRow → Prop}

theorem held_frame {before after : Tables} (frame : Frame before after) (held : Held property before) :
    Held property after := by
  intro planId plan attached listed
  rw [frame.plans] at listed
  exact held planId plan (frame.attached planId attached) listed

theorem held_prepared {before after : Tables} (prepared : Prepared before after)
    (made : ∀ plan, RuntimePlan before plan → property plan) (held : Held property before) :
    Held property after := by
  rintro planId plan ⟨workflowId, new, present, named⟩ listed
  rcases prepared.made planId plan listed with known | ⟨-, own⟩
  · obtain ⟨old, origin, -⟩ := Table.carried_origin prepared.workflows present
    rcases prepared.attached workflowId old new origin present with same | ⟨other, _, is, -, fresh⟩
    · exact held planId plan ⟨workflowId, old, origin, same ▸ named⟩ known
    · have whole : other = planId := by
        rw [is, nonEmpty, Option.filter_eq_some_iff] at named
        exact Option.some.inj named.1
      rw [whole, known] at fresh
      cases fresh
  · exact made plan own

theorem run_held (service : ExecutionRuntimeLoopService) (config : RuntimeLoopConfig) (store : Store)
    (workspaces : String → Worktree.Files)
    (made : ∀ plan, RuntimePlan store.toTables plan → property plan) (held : Held property store.toTables) :
    let after := (exec (run service config) { store := store, workspaces := workspaces }).2
    Held property after.store.toTables ∧ after.store.contracts = store.contracts ∧
      ∀ handed ∈ after.handed, HandedOver config.workflowIds handed ∧ Held property handed.tables ∧
        handed.tables.contracts = store.contracts := by
  intro after
  have origins : ∀ tables, Prepared store.toTables tables → ∀ later, LoopKept tables later →
      Held property later ∧ later.contracts = store.contracts := by
    intro tables prepared later kept
    have frame := frame_of_loopKept kept
    exact ⟨held_frame frame (held_prepared prepared made held),
      frame.contracts.trans prepared.contracts⟩
  obtain ⟨started, _, origin, stepped⟩ := run_steps service config { store := store, workspaces := workspaces }
  have prepared : Prepared store.toTables started.store.toTables := by
    rcases origin with unchanged | reached
    · rw [unchanged]
      exact prepared_refl store.toTables
    · rw [reached]
      exact prepareWorkflowPlans_prepared service.planning config.workflowIds store
  obtain ⟨final, contracts⟩ := origins _ prepared _ stepped.kept
  refine ⟨final, contracts, ?_⟩
  intro handed member
  obtain ⟨more, appended, known⟩ := run_handed service config { store := store, workspaces := workspaces }
  have listed : handed ∈ more := by
    rw [show after.handed = [] ++ more from appended, List.nil_append] at member
    exact member
  obtain ⟨granted, tables, stems, kept⟩ := known handed listed
  obtain ⟨here, same⟩ := origins tables stems handed.tables kept
  exact ⟨granted, here, same⟩

theorem held_put {before : Tables} {old new : EngineeringPlanRow} (present : before.plans.get? new.id = some old)
    (holds : Attached before new.id → property old → property new) (held : Held property before) :
    Held property { before with plans := before.plans.put new } := by
  intro planId plan attached listed
  by_cases same : new.id = planId
  · have found : (before.plans.put new).get? planId = some new := Table.get?_put_same (same ▸ present) same
    have is : plan = new := Option.some.inj (listed.symm.trans found)
    rw [is]
    have named : Attached before new.id := by
      rw [same]
      exact attached
    exact holds named (held new.id old named present)
  · have kept : (before.plans.put new).get? planId = before.plans.get? planId := Table.get?_put_other _ _ same
    exact held planId plan attached (kept.symm.trans listed)

theorem held_add {before : Tables} {new : EngineeringPlanRow} (fresh : before.plans.get? new.id = none)
    (holds : Attached before new.id → property new) (held : Held property before) :
    Held property { before with plans := before.plans.add new } := by
  intro planId plan attached listed
  by_cases same : new.id = planId
  · have found : (before.plans.add new).get? new.id = some new := Table.get?_add_fresh fresh
    rw [same] at found
    have is : plan = new := Option.some.inj (listed.symm.trans found)
    rw [is]
    apply holds
    rw [same]
    exact attached
  · have kept : (before.plans.add new).get? planId = before.plans.get? planId := Table.get?_add_other same
    exact held planId plan attached (kept.symm.trans listed)

end

/-! ### What runs leave alone -/

/-- The contracts and the plans stay as they are, workflows keep their tasks, and no task gets ready. -/
structure RunKept (before after : Store) : Prop where
  contracts : after.contracts = before.contracts
  plans : ∀ planId plan, before.plans.get? planId = some plan → after.plans.get? planId = some plan
  workflows : before.workflows.Carried (fun old new => new.taskId = old.taskId) after.workflows
  tasks : before.tasks.Carried StillReady after.tasks

theorem runKept_trans (first second third : Store) (one : RunKept first second)
    (two : RunKept second third) : RunKept first third where
  contracts := two.contracts.trans one.contracts
  plans := fun planId plan found => two.plans planId plan (one.plans planId plan found)
  workflows := Table.carried_trans (fun _ _ _ one two => two.trans one) one.workflows two.workflows
  tasks := Table.carried_trans stillReady_trans one.tasks two.tasks

theorem runKept_of_prepared {before after : Store} (prepared : Prepared before.toTables after.toTables) :
    RunKept before after :=
  ⟨prepared.contracts, prepared.kept, Table.carried_mono (fun _ _ same => same.taskId) prepared.workflows,
    prepared.tasks⟩

theorem runKept_of_loopKept {before after : Store} (kept : LoopKept before.toTables after.toTables) :
    RunKept before after where
  contracts := kept.contracts
  plans := fun planId plan found => by rw [kept.plans, found]
  workflows := Table.carried_mono (fun _ _ same => same.taskId) kept.workflows
  tasks := by
    refine Table.carried_mono (fun old new status ready => ?_) kept.tasks
    rcases status with same | ⟨was, -⟩
    · exact same.symm.trans ready
    · exact was

structure Call where
  service : ExecutionRuntimeLoopService
  config : RuntimeLoopConfig
  workspaces : String → Worktree.Files

def runOnce (store : Store) (call : Call) : Store :=
  (exec (run call.service call.config) { store, workspaces := call.workspaces }).2.store

theorem runOnce_kept (store : Store) (call : Call) : RunKept store (runOnce store call) := by
  obtain ⟨started, -, origin, stepped⟩ :=
    run_steps call.service call.config { store, workspaces := call.workspaces }
  refine runKept_trans _ _ _ (runKept_of_prepared ?_) (runKept_of_loopKept stepped.kept)
  rcases origin with same | prepared
  · exact same ▸ prepared_refl store.toTables
  · exact prepared ▸ prepareWorkflowPlans_prepared call.service.planning call.config.workflowIds store

theorem runs_kept (start : Store) (calls : List Call) : RunKept start (Run.run runOnce start calls) :=
  Run.relation_run runOnce RunKept (fun _ => runKept_of_prepared (prepared_refl _)) runKept_trans
    runOnce_kept start calls
/-! ### What the planner writes -/

/-- A plan is made for the active contract of its task, and no other row is written. -/
structure PlanMade (store : Store) (after : Tables) (plan : EngineeringPlanRow) : Prop where
  fresh : store.plans.get? plan.id = none
  named : plan.id = formatPublicId .engineeringPlan (store.nextNumber .engineeringPlan)
  contract : ∃ contract, store.activeContract plan.taskId = some contract ∧
    plan.plannedFor = some contract
  blank : plan.status = .proposed ∧ plan.supersedesPlanId = none ∧ plan.supersededByPlanId = none
  written : after = { store.toTables with plans := store.plans.add plan }

/-- How the making of a plan ends: with one, or with none. -/
inductive CreationEnd (store : Store) : Except PyExc Planning.PlanningResult → Store → Prop where
  | none (outcome : Except PyExc Planning.PlanningResult) (after : Store)
      (refused : ∀ result, outcome = .ok result → result.plan = none)
      (same : after.toTables = store.toTables) : CreationEnd store outcome after
  | some (result : Planning.PlanningResult) (after : Store) (plan : EngineeringPlanRow)
      (returned : result.plan = some plan) (made : PlanMade store after.toTables plan) :
      CreationEnd store (.ok result) after

theorem createFor_end (model : Planning.PlanningModel) (task : TaskRow) (contract : TaskContractRow)
    (snapshotIds : List String) (store : Store) (active : store.activeContract task.id = some contract) :
    CreationEnd store
      (exec (Planning.EngineeringPlannerService.createFor model task contract snapshotIds) store).1
      (exec (Planning.EngineeringPlannerService.createFor model task contract snapshotIds) store).2 := by
  unfold Planning.EngineeringPlannerService.createFor
  dsimp only
  rw [exec_get_bind]
  cases proposed : model.propose store (Planning.planningContext task contract snapshotIds) with
  | error blockers =>
    refine .none _ _ ?_ rfl
    intro result returned
    cases returned
    rfl
  | ok modelPlan =>
    dsimp only
    rw [exec_bind]
    rcases ended : exec (Planning.EngineeringPlanRepository.create
      (Planning.planningContext task contract snapshotIds) modelPlan
      (Planning.authorityBlockers (Planning.planningContext task contract snapshotIds) modelPlan)) store
      with ⟨error | plan, after⟩
    · refine .none _ _ ?_ (create_raised ended)
      intro result returned
      cases returned
    · obtain ⟨fresh, shape, written⟩ := Planning.EngineeringPlanRepository.create_ok ended
      have named : plan.id = formatPublicId .engineeringPlan (store.nextNumber .engineeringPlan) := by
        unfold Planning.EngineeringPlanRepository.create at ended
        rw [exec_get_bind, exec_bind_of_ok (Op.exec_nextId _ _)] at ended
        obtain ⟨_, middle, _, last⟩ := bind_ok ended
        rw [(ok_pure last).1]
        rfl
      have tables : after.toTables = { store.toTables with plans := store.plans.add plan } := by
        rw [written]
        rfl
      refine .some _ _ plan rfl ⟨fresh, named, ⟨contract, ?_, ?_⟩, ?_, tables⟩
      · rw [shape]
        exact active
      · rw [shape]
        rfl
      · rw [shape]
        exact ⟨rfl, rfl, rfl⟩

theorem creationEnd_recorded {store after : Store} {draft : AuditDraft}
    {outcome : Except PyExc Planning.PlanningResult}
    (ended : CreationEnd (store.record draft) outcome after) : CreationEnd store outcome after := by
  cases ended with
  | none _ _ refused same => exact .none _ _ refused same
  | some result _ plan returned made =>
    exact .some result _ plan returned ⟨made.fresh, made.named, made.contract, made.blank, made.written⟩

theorem createPlan_end (model : Planning.PlanningModel) (taskId : String) (snapshotIds : List String)
    (store : Store) : CreationEnd store
      (exec (Planning.EngineeringPlannerService.createPlan model taskId snapshotIds) store).1
      (exec (Planning.EngineeringPlannerService.createPlan model taskId snapshotIds) store).2 := by
  unfold Planning.EngineeringPlannerService.createPlan
  rw [exec_get_bind]
  cases found : store.tasks.get? taskId with
  | none =>
    refine .none _ _ ?_ rfl
    intro result returned
    cases returned
  | some task =>
    dsimp only
    rw [exec_bind_of_ok (Op.exec_record _ _)]
    split
    · next contract _ active =>
        exact creationEnd_recorded (createFor_end model task contract snapshotIds _ active)
    · refine .none _ _ ?_ rfl
      intro result returned
      cases returned
      rfl

theorem exec_planRow {planId : String} {store : Store} {plan : EngineeringPlanRow}
    (listed : store.plans.get? planId = some plan) :
    exec (Planning.planRow planId) store = (.ok plan, store) := by
  unfold Planning.planRow
  rw [exec_get_bind, listed]
  rfl

theorem exec_planRow_missing {planId : String} {store : Store} (missing : store.plans.get? planId = none) :
    exec (Planning.planRow planId) store =
      (.error (.valueError ("Unknown engineering plan: " ++ planId)), store) := by
  unfold Planning.planRow
  rw [exec_get_bind, missing]
  rfl

/-- A call replaces the plan by the one it makes. -/
structure Replaces (model : Planning.PlanningModel) (previousPlanId : String) (snapshotIds : List String)
    (store : Store) (previous plan : EngineeringPlanRow) : Prop where
  listed : store.plans.get? previousPlanId = some previous
  made : ∃ result middle, exec (Planning.EngineeringPlannerService.createPlan model previous.taskId
    snapshotIds) store = (.ok result, middle) ∧ result.plan = some plan ∧ PlanMade store middle.toTables plan

theorem replan_end (model : Planning.PlanningModel) (previousPlanId : String) (snapshotIds : List String)
    (store : Store) :
    ((∀ previous plan, ¬ Replaces model previousPlanId snapshotIds store previous plan) ∧
      (exec (Planning.EngineeringPlannerService.replan model previousPlanId snapshotIds) store).2.toTables =
        store.toTables) ∨
      ∃ previous plan, Replaces model previousPlanId snapshotIds store previous plan ∧
        (exec (Planning.EngineeringPlannerService.replan model previousPlanId snapshotIds)
            store).2.toTables = { store.toTables with
          plans := ((store.plans.add plan).put
            { previous with status := .superseded, supersededByPlanId := some plan.id }).put
            { plan with supersedesPlanId := some previous.id } } := by
  unfold Planning.EngineeringPlannerService.replan
  cases listed : store.plans.get? previousPlanId with
  | none =>
    rw [exec_bind_of_error (exec_planRow_missing listed)]
    refine .inl ⟨fun previous plan replaces => ?_, rfl⟩
    rw [replaces.listed] at listed
    cases listed
  | some previous =>
    rw [exec_bind_of_ok (exec_planRow listed), exec_bind]
    have creation := createPlan_end model previous.taskId snapshotIds store
    rcases ended : exec (Planning.EngineeringPlannerService.createPlan model previous.taskId snapshotIds)
      store with ⟨error | result, middle⟩
    · rw [ended] at creation
      cases creation with
      | none _ _ _ same =>
        refine .inl ⟨fun other plan replaces => ?_, same⟩
        have named := replaces.listed
        rw [listed] at named
        cases named
        obtain ⟨_, _, made, -⟩ := replaces.made
        rw [ended] at made
        cases made
    · rw [ended] at creation
      cases creation with
      | none _ _ refused same =>
        dsimp only
        have nothing := refused result rfl
        rw [nothing]
        refine .inl ⟨fun other plan replaces => ?_, same⟩
        have named := replaces.listed
        rw [listed] at named
        cases named
        obtain ⟨_, _, made, returned, -⟩ := replaces.made
        rw [ended] at made
        cases made
        rw [nothing] at returned
        cases returned
      | some _ _ plan returned made =>
        dsimp only
        rw [returned]
        have still : middle.plans.get? previousPlanId = some previous := by
          rw [show middle.plans = store.plans.add plan from congrArg Tables.plans made.written]
          exact Table.get?_add_old listed
        have here : middle.plans.get? plan.id = some plan := by
          rw [show middle.plans = store.plans.add plan from congrArg Tables.plans made.written]
          exact Table.get?_add_fresh made.fresh
        dsimp only
        rw [exec_bind_of_ok (exec_planRow here), exec_bind_of_ok (exec_planRow still), Planning.putPlan,
          Planning.putPlan, exec_bind_of_ok (exec_modify _ _), exec_bind_of_ok (exec_modify _ _),
          exec_bind_of_ok (Op.exec_record _ _)]
        refine .inr ⟨previous, plan, ⟨listed, result, middle, ended, returned, made⟩, ?_⟩
        let superseded : EngineeringPlanRow :=
          { previous with status := .superseded, supersededByPlanId := some plan.id }
        let linked : EngineeringPlanRow := { plan with supersedesPlanId := some previous.id }
        exact congrArg (fun tables : Tables =>
          { tables with plans := (tables.plans.put superseded).put linked }) made.written

/-- The new plan is still there as it was made when the one before has been superseded. -/
theorem made_after_put {store : Store} {after : Tables} {previous plan superseded : EngineeringPlanRow}
    (made : PlanMade store after plan) (listed : store.plans.get? previous.id = some previous)
    (named : superseded.id = previous.id) : ((store.plans.add plan).put superseded).get? plan.id = some plan := by
  rw [Table.get?_put_other]
  · exact Table.get?_add_fresh made.fresh
  · intro same
    have fresh := made.fresh
    rw [show plan.id = previous.id from (same.symm.trans named), listed] at fresh
    cases fresh

theorem rejectPlan_end (planId : String) (store : Store) :
    (store.plans.get? planId = none ∧
        (exec (Planning.EngineeringPlannerService.rejectPlan planId) store).2.toTables = store.toTables) ∨
      ∃ plan, store.plans.get? planId = some plan ∧
        (exec (Planning.EngineeringPlannerService.rejectPlan planId) store).2.toTables =
          { store.toTables with plans := store.plans.put { plan with status := .rejected } } := by
  unfold Planning.EngineeringPlannerService.rejectPlan Planning.EngineeringPlanRepository.reject
  cases listed : store.plans.get? planId with
  | none =>
    rw [bind_assoc, exec_bind_of_error (exec_planRow_missing listed)]
    exact .inl ⟨rfl, rfl⟩
  | some plan =>
    rw [bind_assoc, exec_bind_of_ok (exec_planRow listed)]
    exact .inr ⟨plan, rfl, rfl⟩

theorem held_attachPlan {property : EngineeringPlanRow → Prop} (workflowId planId planFreezeId : String)
    (store : Store) (holds : ∀ plan, store.plans.get? planId = some plan → property plan)
    (held : Held property store.toTables) :
    Held property (exec (Workflows.attachPlan workflowId planId planFreezeId) store).2.toTables := by
  rcases ended : exec (Workflows.attachPlan workflowId planId planFreezeId) store with
    ⟨error | attached, after⟩
  · exact held_frame (frame_of_tables (attachPlan_raised ended)) held
  · obtain ⟨row, updatedAt, present, named, is, tables⟩ := Workflows.attachPlan_ok ended
    rw [tables]
    rintro otherId plan ⟨id, other, known, names⟩ listed
    have here : store.workflows.get? attached.id = some row := by
      rw [is]
      exact present
    by_cases same : attached.id = id
    · have found : (store.workflows.put attached).get? id = some attached :=
        Table.get?_put_same (same ▸ here) same
      have whole : other = attached := Option.some.inj (known.symm.trans found)
      rw [whole, is, nonEmpty, Option.filter_eq_some_iff] at names
      have equal : planId = otherId := Option.some.inj names.1
      exact holds plan (equal ▸ listed)
    · have kept : (store.workflows.put attached).get? id = store.workflows.get? id :=
        Table.get?_put_other _ _ same
      exact held otherId plan ⟨id, other, kept.symm.trans known, names⟩ listed

/-- The store with the ready workflow, whose plan is proposed and frozen. -/
def readyStore : Store := oneReady.store

def anyRun : Operation := .runtime plainService {} fun _ => ∅

end Lucius.Runtime.PlannedWork
