import Lucius.Runtime.PlannedWork

/-! Which runs of the services execute a plan that has been withdrawn.

Neither the release of an item nor the preflight of an integration reads the status or the blockers
of a plan. A withdrawn plan is executed where a workflow holds it: it was withdrawn there, or it was
attached afterwards. -/

namespace Lucius.Runtime.PlannedWork

open Run Lucius.Action Router

/-- The plan was kept although it needs more authority than its contract gives. -/
def Escalated (plan : EngineeringPlanRow) : Prop :=
  ∃ blocker ∈ plan.blockers, (Dict.get blocker "code").isStr "AUTHORITY_ESCALATION_REQUIRED" = true

def Withdrawn (plan : EngineeringPlanRow) : Prop :=
  plan.status = .rejected ∨ plan.status = .superseded ∨ Escalated plan

/-- The plan of the workflow, if it has one, is not withdrawn. -/
def Standing (tables : Tables) (workflowId : String) : Prop :=
  ∀ row plan, tables.workflows.get? workflowId = some row →
    (nonEmpty row.planId).bind tables.plans.get? = some plan → ¬ Withdrawn plan

/-- No withdrawn plan has been executed. -/
structure Respected (state : PlannedState) : Prop where
  handed : ∀ handed ∈ state.handed, Standing handed.tables handed.context.workflowId
  integrated : ∀ integrated ∈ state.integrated, Standing integrated.tables integrated.workflowId

/-- No workflow names the plan that is made next. -/
def NextFree (store : Store) : Prop :=
  ¬ Attached store.toTables (formatPublicId .engineeringPlan (store.nextNumber .engineeringPlan))

/-- No plan is withdrawn while a workflow holds it, and none that is withdrawn is attached. -/
def Detached (state : PlannedState) : Operation → Prop
  | .createPlan _ _ _ => NextFree state.store
  | .replan model previousPlanId snapshotIds =>
    NextFree state.store ∧ ∀ previous plan,
      Replaces model previousPlanId snapshotIds state.store previous plan →
        ¬ Attached state.store.toTables previousPlanId
  | .rejectPlan planId =>
    ∀ plan, state.store.plans.get? planId = some plan → ¬ Attached state.store.toTables planId
  | .attachPlan _ planId _ => ∀ plan, state.store.plans.get? planId = some plan → ¬ Withdrawn plan
  | _ => True

/-- No workflow holds a withdrawn plan, and none has been executed. -/
structure Upheld (state : PlannedState) : Prop where
  held : Held (fun plan => ¬ Withdrawn plan) state.store.toTables
  respected : Respected state

theorem standing_of_held {tables : Tables} (held : Held (fun plan => ¬ Withdrawn plan) tables)
    (workflowId : String) : Standing tables workflowId := by
  intro row plan present read
  obtain ⟨planId, named, listed⟩ := Option.bind_eq_some_iff.mp read
  exact held planId plan ⟨workflowId, row, present, named⟩ listed

theorem runtimePlan_standing {tables : Tables} {plan : EngineeringPlanRow}
    (made : RuntimePlan tables plan) : ¬ Withdrawn plan := by
  rintro (rejected | superseded | ⟨blocker, listed, -⟩)
  · rw [made.status] at rejected
    cases rejected
  · rw [made.status] at superseded
    cases superseded
  · rw [made.blockers] at listed
    cases listed

theorem held_made {store : Store} {after : Tables} {plan : EngineeringPlanRow}
    (free : NextFree store) (made : PlanMade store after plan)
    (held : Held (fun plan => ¬ Withdrawn plan) store.toTables) :
    Held (fun plan => ¬ Withdrawn plan) after := by
  rw [made.written]
  refine held_add made.fresh ?_ held
  intro attached
  rw [made.named] at attached
  exact absurd attached free

theorem upheld_of_held {state : PlannedState} {store : Store}
    (held : Held (fun plan => ¬ Withdrawn plan) store.toTables) (upheld : Upheld state) :
    Upheld { state with store := store } :=
  ⟨held, upheld.respected.handed, upheld.respected.integrated⟩

theorem task_held (operation : Tasks.ServiceOperation) (store : Store)
    (held : Held (fun plan => ¬ Withdrawn plan) store.toTables) :
    Held (fun plan => ¬ Withdrawn plan) (exec operation.attempt store).2.toTables := by
  by_cases writes : ∃ taskId terms, operation = .createOrUpdateContract taskId terms
  · obtain ⟨taskId, terms, rfl⟩ := writes
    have others := (Tasks.createOrUpdateContract_end store taskId terms).others
    rw [Tasks.attempt_contract, others]
    exact held
  · have other : ∀ taskId terms, operation ≠ .createOrUpdateContract taskId terms :=
      fun taskId terms is => writes ⟨taskId, terms, is⟩
    exact held_frame (frame_of_taskTables (Tasks.attempt_only other store)) held

theorem upheld_step (state : PlannedState) (operation : Operation) (upheld : Upheld state)
    (detached : Detached state operation) : Upheld (step state operation) := by
  have held := upheld.held
  cases operation with
  | task operation => exact upheld_of_held (task_held operation state.store held) upheld
  | createPlan model taskId snapshotIds =>
    apply upheld_of_held _ upheld
    have ended := createPlan_end model taskId snapshotIds state.store
    generalize exec (Planning.EngineeringPlannerService.createPlan model taskId snapshotIds)
      state.store = after at ended
    obtain ⟨outcome, after⟩ := after
    cases ended with
    | none _ _ _ same => exact held_frame (frame_of_tables same) held
    | some _ _ plan _ made => exact held_made detached made held
  | replan model previousPlanId snapshotIds =>
    apply upheld_of_held _ upheld
    rcases replan_end model previousPlanId snapshotIds state.store with ⟨-, same⟩ |
      ⟨previous, plan, replaces, written⟩
    · exact held_frame (frame_of_tables same) held
    · have unnamed := detached.2 previous plan replaces
      obtain ⟨listed, result, middle, -, -, made⟩ := replaces
      have named : previous.id = previousPlanId := Table.get?_key listed
      have later := held_made detached.1 made held
      rw [made.written] at later
      rw [written]
      have still : (state.store.plans.add plan).get? previous.id = some previous :=
        Table.get?_add_old (named ▸ listed)
      let superseded : EngineeringPlanRow :=
        { previous with status := .superseded, supersededByPlanId := some plan.id }
      have put := @held_put _ _ previous superseded still (fun attached => absurd (named ▸ attached) unnamed) later
      exact @held_put _ _ plan { plan with supersedesPlanId := some previous.id }
        (@made_after_put _ _ previous _ superseded made (by rw [named]; exact listed) rfl) (fun _ kept => kept) put
  | rejectPlan planId =>
    apply upheld_of_held _ upheld
    rcases rejectPlan_end planId state.store with ⟨-, same⟩ | ⟨plan, listed, written⟩
    · exact held_frame (frame_of_tables same) held
    · rw [written]
      have named : plan.id = planId := Table.get?_key listed
      have here : state.store.plans.get? plan.id = some plan := by rw [named, listed]
      exact held_put here (fun attached => absurd (named ▸ attached) (detached plan listed)) held
  | freeze gates planId =>
    apply upheld_of_held _ upheld
    exact held_frame (frame_of_freezesOnly (freeze_freezesOnly gates planId state.store)) held
  | attachPlan workflowId planId planFreezeId =>
    exact upheld_of_held (held_attachPlan workflowId planId planFreezeId state.store detached held) upheld
  | prepare planning workflowId =>
    apply upheld_of_held _ upheld
    have prepared := prepareWorkflowPlan_prepared planning workflowId state.store
    exact held_prepared prepared (fun _ => runtimePlan_standing) held
  | resolveBlocker workflowId itemId checkpointId version event =>
    apply upheld_of_held _ upheld
    exact held_frame (resolveBlocker_frame workflowId itemId checkpointId version event state.store) held
  | runtime service config workspaces =>
    obtain ⟨left, -, known⟩ := run_held service config state.store workspaces
      (fun _ => runtimePlan_standing) held
    refine ⟨left, ?_, upheld.respected.integrated⟩
    intro handed member
    rcases List.mem_append.mp member with earlier | now
    · exact upheld.respected.handed handed earlier
    · exact standing_of_held (known handed now).2.1 _
  | integrate env request canonical candidate =>
    have closes := Integration.integrate_closes env request ⟨state.store, canonical, candidate⟩
    have left := held_frame (frame_of_closesOnly closes) held
    refine ⟨left, upheld.respected.handed, ?_⟩
    intro integrated member
    rcases List.mem_append.mp member with earlier | now
    · exact upheld.respected.integrated integrated earlier
    · generalize exec (Integration.integrate env request) ⟨state.store, canonical, candidate⟩ = ended
        at left now
      obtain ⟨outcome, after⟩ := ended
      cases outcome with
      | error error => cases now
      | ok result =>
        have only : integrated = ⟨request.workflowId, after.store.toTables⟩ := by
          rw [completed] at now
          split at now
          · exact List.mem_singleton.mp now
          · cases now
        rw [only]
        exact standing_of_held left _
  | elsewhere change untouched =>
    exact upheld_of_held (held_frame (untouched state.store) held) upheld

/-- Where no plan is withdrawn from under a workflow, and none is attached once it is withdrawn, no
withdrawn plan is handed to the router or integrated. -/
theorem withdrawn_plans_not_executed (start : Store) (operations : List Operation)
    (held : Held (fun plan => ¬ Withdrawn plan) start.toTables)
    (meets : Meets step Detached { store := start } operations) :
    Respected (Run.run step { store := start } operations) := by
  have begun : Upheld { store := start } :=
    ⟨held, ⟨(fun _ member => nomatch member), (fun _ member => nomatch member)⟩⟩
  exact (Run.invariant_guarded step Detached Upheld upheld_step _ operations begun meets).respected

def notesTree : List (String × Worktree.Bytes) := [("a.txt", [97, 10])]

/-- The store with a workflow whose candidate has changed the one file its frozen plan names. -/
def pendingStore : Store :=
  (Integration.pendingWorld ["a.txt"] ["a.txt"] notesTree [("a.txt", [98, 10])]).store

def anyIntegration : Operation :=
  .integrate (Integration.calmEnvironment (Integration.regularCheckout notesTree []))
    Integration.integrationRequest (Integration.filesOf notesTree)
    (Integration.filesOf [("a.txt", [98, 10])])

/-- The plan of a workflow is rejected, and its item is handed to the router all the same, or its
candidate integrated. -/
theorem rejected_plan_executed :
    ¬ Respected (Run.run step { store := readyStore } [.rejectPlan "LPLAN_000001", anyRun]) ∧
      ¬ Respected (Run.run step { store := pendingStore } [.rejectPlan "LPLAN_000001", anyIntegration]) := by
  have handed : (Run.run step { store := readyStore } [.rejectPlan "LPLAN_000001", anyRun]).handed.map
      (fun handed => ((handed.tables.workflows.get? handed.context.workflowId).bind fun row =>
        (nonEmpty row.planId).bind handed.tables.plans.get?).map EngineeringPlanRow.status) =
        [some .rejected] := by decide +kernel
  have integrated : (Run.run step { store := pendingStore }
      [.rejectPlan "LPLAN_000001", anyIntegration]).integrated.map
      (fun integrated => ((integrated.tables.workflows.get? integrated.workflowId).bind fun row =>
        (nonEmpty row.planId).bind integrated.tables.plans.get?).map EngineeringPlanRow.status) =
        [some .rejected] := by decide +kernel
  have falls {tables : Tables} {workflowId : String}
      (status : ((tables.workflows.get? workflowId).bind fun row =>
        (nonEmpty row.planId).bind tables.plans.get?).map EngineeringPlanRow.status = some .rejected) :
      ¬ Standing tables workflowId := by
    intro standing
    obtain ⟨plan, read, rejected⟩ := Option.map_eq_some_iff.mp status
    obtain ⟨row, present, read⟩ := Option.bind_eq_some_iff.mp read
    exact standing row plan present read (.inl rejected)
  constructor
  · intro respected
    obtain ⟨one, listed⟩ := List.map_eq_singleton_iff.mp handed
    exact falls listed.2 (respected.handed one (listed.1 ▸ List.mem_singleton_self one))
  · intro respected
    obtain ⟨one, listed⟩ := List.map_eq_singleton_iff.mp integrated
    exact falls listed.2 (respected.integrated one (listed.1 ▸ List.mem_singleton_self one))

/-- A plan that is rejected while no workflow holds it, and a run of the loop. -/
theorem unattached_rejection_respected :
    Held (fun plan => ¬ Withdrawn plan) readyStore.toTables ∧
      Respected (Run.run step { store := readyStore } [.rejectPlan "LPLAN_000002", anyRun]) := by
  have held : Held (fun plan => ¬ Withdrawn plan) readyStore.toTables := by
    intro planId plan _ listed
    have inside : plan ∈ readyStore.plans.rows := Table.get?_mem listed
    rw [List.mem_singleton.mp inside]
    rintro (rejected | superseded | ⟨blocker, listed, -⟩)
    · cases rejected
    · cases superseded
    · cases listed
  refine ⟨held, withdrawn_plans_not_executed readyStore _ held ⟨?_, trivial, trivial⟩⟩
  intro plan listed
  cases listed

end Lucius.Runtime.PlannedWork
