import Lucius.Runtime.PlannedWork

/-! Which runs of the services hand an item to the execution router under a plan that was made for
other terms than its contract now has.

A plan names its contract by a number and a version, and a contract is edited in place under both.
What keeps a plan from going stale is therefore that the contract it names is not edited. -/

namespace Lucius.Runtime.PlannedWork

open Run Lucius.Action Router

variable {tables before after : Tables} {taskId : String} {plan : EngineeringPlanRow}

/-- What a contract asks for. -/
structure SameTerms (old new : TaskContractRow) : Prop where
  objective : new.objective = old.objective
  acceptanceCriteria : new.acceptanceCriteria = old.acceptanceCriteria
  constraints : new.constraints = old.constraints
  allowedActions : new.allowedActions = old.allowedActions
  authorityLevel : new.authorityLevel = old.authorityLevel
  dependencies : new.dependencies = old.dependencies

/-- The plan was made for the terms the contract has. -/
def MadeFor (plan : EngineeringPlanRow) (contract : TaskContractRow) : Prop :=
  ∃ made, plan.plannedFor = some made ∧ SameTerms made contract

def Names (plan : EngineeringPlanRow) (contract : TaskContractRow) : Prop :=
  plan.taskContractId = contract.id ∧ plan.taskContractVersion = contract.version

/-- If the plan names the active contract of its task, it was made for its terms. -/
def Current (tables : Tables) (plan : EngineeringPlanRow) : Prop :=
  ∀ contract, tables.activeContract plan.taskId = some contract → Names plan contract →
    MadeFor plan contract

/-- The item was handed over with a plan made for the terms of the contract that was active. -/
def Fresh (handed : Handed) : Prop :=
  ∃ workflow task contract plan,
    Released handed.tables handed.context workflow task contract plan ∧ MadeFor plan contract

/-- No contract is written with other terms than the plan of a workflow that names it was made for,
and no plan is attached that has gone stale. -/
def Unedited (state : PlannedState) : Operation → Prop
  | .task (.createOrUpdateContract taskId terms) =>
    ∀ contract, Tasks.Writes state.store taskId terms contract →
      Held (fun plan => Names plan contract → MadeFor plan contract) state.store.toTables
  | .attachPlan _ planId _ =>
    ∀ plan, state.store.plans.get? planId = some plan → Current state.store.toTables plan
  | _ => True

/-- The contracts have been numbered by the service. -/
def Numbered (tables : Tables) : Prop :=
  ∀ contract ∈ tables.contracts.rows, ∃ number, contract.id = formatPublicId .taskContract number

/-- What the services keep while no contract is edited under a plan. -/
structure Consistent (tables : Tables) : Prop where
  numbered : Numbered tables
  current : Held (Current tables) tables

structure AllFresh (state : PlannedState) : Prop where
  consistent : Consistent state.store.toTables
  fresh : ∀ handed ∈ state.handed, Fresh handed

/-! ### The active contract of a task -/

theorem activeContract_mem {contract : TaskContractRow}
    (active : tables.activeContract taskId = some contract) :
    contract ∈ tables.contracts.rows ∧ contract.taskId = taskId := by
  have member := List.mem_of_getLast? active
  rw [mem_sortedBy, List.mem_reverse, List.mem_filter, decide_eq_true_eq] at member
  exact member

theorem activeContract_of_listed {left right : Tables}
    (same : left.contracts.rows.filter (fun row => decide (row.taskId = taskId)) =
      right.contracts.rows.filter (fun row => decide (row.taskId = taskId))) :
    left.activeContract taskId = right.activeContract taskId := by
  unfold Tables.activeContract
  rw [same]

theorem activeContract_put_other {old new : TaskContractRow}
    (present : old ∈ tables.contracts.rows) (named : new.id = old.id) (task : new.taskId = old.taskId)
    (other : new.taskId ≠ taskId) :
    ({ tables with contracts := tables.contracts.put new }).activeContract taskId =
      tables.activeContract taskId := by
  apply activeContract_of_listed
  show (tables.contracts.rows.map fun row => if row.id = new.id then new else row).filter _ = _
  rw [List.filter_map]
  have kept : tables.contracts.rows.filter
      ((fun row => decide (row.taskId = taskId)) ∘ fun row => if row.id = new.id then new else row) =
        tables.contracts.rows.filter (fun row => decide (row.taskId = taskId)) := by
    apply List.filter_congr
    intro row member
    dsimp only [Function.comp]
    split
    · next same =>
        have is : row = old := Table.row_unique member present (same.trans named)
        rw [is, ← task]
    · rfl
  have spared : ∀ row ∈ tables.contracts.rows.filter (fun row => decide (row.taskId = taskId)),
      (if row.id = new.id then new else row) = id row := by
    intro row member
    split
    · next same =>
        obtain ⟨inside, mine⟩ := List.mem_filter.mp member
        have is : row = old := Table.row_unique inside present (same.trans named)
        rw [decide_eq_true_eq, is, ← task] at mine
        exact absurd mine other
    · rfl
  rw [kept, List.map_congr_left spared, List.map_id]

theorem activeContract_add_other {new : TaskContractRow}
    (fresh : tables.contracts.get? new.id = none) (other : new.taskId ≠ taskId) :
    ({ tables with contracts := tables.contracts.add new }).activeContract taskId =
      tables.activeContract taskId := by
  apply activeContract_of_listed
  have rows : (tables.contracts.add new).rows = tables.contracts.rows ++ [new] := Table.add_rows fresh
  dsimp only
  rw [rows, List.filter_append]
  simp [other]

theorem sameTerms_refl (contract : TaskContractRow) : SameTerms contract contract :=
  ⟨rfl, rfl, rfl, rfl, rfl, rfl⟩

theorem current_congr (contracts : after.contracts = before.contracts) (current : Current before plan) : Current after plan := by
  intro contract active
  rw [activeContract_congr contracts] at active
  exact current contract active

theorem formatPublicId_digit (entity : Entity) (number : Nat) (text : String) :
    formatPublicId entity number ≠ text ++ "_RUNTIME_CONTRACT" := by
  intro same
  have lists := congrArg String.toList same
  have digits : (toString number).toList = Nat.toDigits 10 number := Nat.toList_repr
  unfold formatPublicId Timestamp.padded at lists
  rw [String.toList_append, String.toList_append, String.toList_append, String.toList_append,
    digits] at lists
  have last := congrArg List.getLast? lists
  rw [← List.append_assoc, List.getLast?_append, List.getLast?_append] at last
  cases found : (Nat.toDigits 10 number).getLast? with
  | none => exact absurd (List.getLast?_eq_none_iff.mp found) Nat.toDigits_ne_nil
  | some digit =>
    have isDigit : digit.isDigit = true :=
      Nat.isDigit_of_mem_toDigits (by decide) (by decide) (List.mem_of_getLast? found)
    have ending : (text.toList ++ "_RUNTIME_CONTRACT".toList).getLast? = some 'T' := by
      rw [List.getLast?_append]
      rfl
    rw [found, ending] at last
    have is : digit = 'T' := Option.some.inj last
    rw [is] at isDigit
    exact absurd isDigit (by decide)

/-- A plan the runtime makes is made for the active contract, or for none that has a number. -/
theorem runtimePlan_current (numbered : Numbered tables)
    (made : RuntimePlan tables plan) : Current tables plan := by
  intro contract active names
  rcases made.contract with planned | unnumbered
  · rw [active] at planned
    exact ⟨contract, planned, sameTerms_refl contract⟩
  · obtain ⟨number, named⟩ := numbered contract (activeContract_mem active).1
    rw [names.1, named] at unnumbered
    exact absurd unnumbered (formatPublicId_digit .taskContract number plan.taskId)

theorem planMade_current {store : Store}
    (made : PlanMade store after plan) : Current store.toTables plan := by
  intro contract active _
  obtain ⟨known, found, planned⟩ := made.contract
  rw [active] at found
  cases found
  exact ⟨contract, planned, sameTerms_refl contract⟩

theorem consistent_of_held (contracts : after.contracts = before.contracts)
    (held : Held (Current before) after) (consistent : Consistent before) : Consistent after := by
  constructor
  · unfold Numbered
    rw [contracts]
    exact consistent.numbered
  · intro planId plan attached listed
    exact current_congr contracts (held planId plan attached listed)

theorem consistent_plans {plans : Table EngineeringPlanRow}
    (held : Held (Current tables) { tables with plans := plans }) (consistent : Consistent tables) :
    Consistent { tables with plans := plans } :=
  @consistent_of_held tables _ rfl held consistent

theorem consistent_frame (frame : Frame before after)
    (consistent : Consistent before) : Consistent after :=
  consistent_of_held frame.contracts (held_frame frame consistent.current) consistent

theorem current_written {contract : TaskContractRow}
    (mine : after.activeContract contract.taskId = some contract)
    (others : ∀ taskId, contract.taskId ≠ taskId → after.activeContract taskId = before.activeContract taskId)
    (plans : after.plans = before.plans) (workflows : after.workflows = before.workflows)
    (agrees : Held (fun plan => Names plan contract → MadeFor plan contract) before)
    (held : Held (Current before) before) : Held (Current after) after := by
  rintro planId plan ⟨workflowId, row, present, named⟩ listed
  rw [workflows] at present
  rw [plans] at listed
  intro active found names
  by_cases same : contract.taskId = plan.taskId
  · rw [← same, mine] at found
    cases found
    exact agrees planId plan ⟨workflowId, row, present, named⟩ listed names
  · rw [others plan.taskId same] at found
    exact held planId plan ⟨workflowId, row, present, named⟩ listed active found names

theorem contract_consistent (taskId : String) (terms : Tasks.ContractTerms) (store : Store)
    (agrees : ∀ contract, Tasks.Writes store taskId terms contract →
      Held (fun plan => Names plan contract → MadeFor plan contract) store.toTables)
    (consistent : Consistent store.toTables) :
    Consistent (exec (Tasks.createOrUpdateContract taskId terms) store).2.toTables := by
  cases Tasks.createOrUpdateContract_end store taskId terms with
  | refused same =>
    rw [same]
    exact consistent
  | updated latest contract active writes named version task written =>
    obtain ⟨inside, owner⟩ := activeContract_mem active
    have mine := Tasks.activeContract_put active named task version
    have numbered : ∀ row ∈ (store.contracts.put contract).rows,
        ∃ number, row.id = formatPublicId .taskContract number := by
      intro row member
      rcases Table.mem_put member with rfl | ⟨old, -⟩
      · rw [named]
        exact consistent.numbered latest inside
      · exact consistent.numbered row old
    have whole : contract.taskId = taskId := task.trans owner
    rw [written]
    refine ⟨numbered, @current_written store.toTables _ contract ?_ ?_ rfl rfl (agrees contract writes)
      consistent.current⟩
    · rw [whole]
      exact mine
    · intro other different
      exact activeContract_put_other inside named task different
  | created contract unwritten writes fresh named task written =>
    have numbered : ∀ row ∈ (store.contracts.add contract).rows,
        ∃ number, row.id = formatPublicId .taskContract number := by
      intro row member
      rcases Table.mem_add member with old | rfl
      · exact consistent.numbered row old
      · exact named
    rw [written]
    refine ⟨numbered, @current_written store.toTables _ contract ?_ ?_ rfl rfl (agrees contract writes)
      consistent.current⟩
    · exact Tasks.activeContract_add fresh (task ▸ unwritten)
    · intro other different
      exact activeContract_add_other fresh different

theorem task_consistent (operation : Tasks.ServiceOperation) (state : PlannedState)
    (unedited : Unedited state (.task operation)) (consistent : Consistent state.store.toTables) :
    Consistent (exec operation.attempt state.store).2.toTables := by
  by_cases writes : ∃ taskId terms, operation = .createOrUpdateContract taskId terms
  · obtain ⟨taskId, terms, rfl⟩ := writes
    rw [Tasks.attempt_contract]
    exact contract_consistent taskId terms state.store unedited consistent
  · have other : ∀ taskId terms, operation ≠ .createOrUpdateContract taskId terms :=
      fun taskId terms is => writes ⟨taskId, terms, is⟩
    exact consistent_frame (frame_of_taskTables (Tasks.attempt_only other state.store)) consistent

theorem fresh_of_handed {workflowIds : List String} {handed : Handed}
    (granted : HandedOver workflowIds handed) (held : Held (Current tables) handed.tables)
    (contracts : handed.tables.contracts = tables.contracts) : Fresh handed := by
  obtain ⟨workflow, task, contract, plan, released⟩ := granted.released
  have attached : Attached handed.tables plan.id :=
    ⟨handed.context.workflowId, workflow, released.workflowListed, released.planId⟩
  have current := held plan.id plan attached released.planListed
  have active : tables.activeContract plan.taskId = some contract := by
    rw [released.planTask, ← activeContract_congr contracts]
    exact released.active
  exact ⟨workflow, task, contract, plan, released,
    current contract active ⟨released.contractId, released.version⟩⟩

theorem allFresh_step (state : PlannedState) (operation : Operation) (allFresh : AllFresh state)
    (unedited : Unedited state operation) : AllFresh (step state operation) := by
  have consistent := allFresh.consistent
  have fresh := allFresh.fresh
  cases operation with
  | task operation => exact ⟨task_consistent operation state unedited consistent, fresh⟩
  | createPlan model taskId snapshotIds =>
    refine ⟨?_, fresh⟩
    have ended := createPlan_end model taskId snapshotIds state.store
    show Consistent (exec (Planning.EngineeringPlannerService.createPlan model taskId snapshotIds)
      state.store).2.toTables
    generalize exec (Planning.EngineeringPlannerService.createPlan model taskId snapshotIds)
      state.store = after at ended
    obtain ⟨outcome, after⟩ := after
    cases ended with
    | none _ _ _ same => exact consistent_frame (frame_of_tables same) consistent
    | some _ _ plan _ made =>
      have own := planMade_current made
      dsimp only
      rw [made.written]
      exact consistent_plans (held_add made.fresh (fun _ => own) consistent.current) consistent
  | replan model previousPlanId snapshotIds =>
    refine ⟨?_, fresh⟩
    rcases replan_end model previousPlanId snapshotIds state.store with ⟨-, same⟩ |
      ⟨previous, plan, replaces, written⟩
    · exact consistent_frame (frame_of_tables same) consistent
    · obtain ⟨listed, result, middle, -, -, made⟩ := replaces
      have named : previous.id = previousPlanId := Table.get?_key listed
      have still : (state.store.plans.add plan).get? previous.id = some previous :=
        Table.get?_add_old (named ▸ listed)
      have later := held_add made.fresh (fun _ => planMade_current made) consistent.current
      show Consistent (exec _ state.store).2.toTables
      rw [written]
      let superseded : EngineeringPlanRow :=
        { previous with status := .superseded, supersededByPlanId := some plan.id }
      have kept (_ : Attached { state.store.toTables with plans := state.store.plans.add plan } previous.id)
          (current : Current state.store.toTables previous) : Current state.store.toTables superseded :=
        current
      have put := @held_put _ _ previous superseded still kept later
      have here : ((state.store.plans.add plan).put superseded).get? plan.id = some plan :=
        @made_after_put _ _ previous _ _ made (by rw [named]; exact listed) rfl
      exact consistent_plans (@held_put _ _ plan { plan with supersedesPlanId := some previous.id } here
        (fun _ current => current) put) consistent
  | rejectPlan planId =>
    refine ⟨?_, fresh⟩
    rcases rejectPlan_end planId state.store with ⟨-, same⟩ | ⟨plan, listed, written⟩
    · exact consistent_frame (frame_of_tables same) consistent
    · have named : plan.id = planId := Table.get?_key listed
      have here : state.store.plans.get? plan.id = some plan := by rw [named, listed]
      show Consistent (exec _ state.store).2.toTables
      rw [written]
      have kept (_ : Attached state.store.toTables plan.id) (current : Current state.store.toTables plan) :
          Current state.store.toTables { plan with status := .rejected } := current
      exact consistent_plans (held_put here kept consistent.current) consistent
  | freeze gates planId =>
    exact ⟨consistent_frame (frame_of_freezesOnly (freeze_freezesOnly gates planId state.store)) consistent,
      fresh⟩
  | attachPlan workflowId planId planFreezeId =>
    refine ⟨?_, fresh⟩
    have contracts : (exec (Workflows.attachPlan workflowId planId planFreezeId) state.store).2.contracts =
        state.store.contracts := by
      rcases ended : exec (Workflows.attachPlan workflowId planId planFreezeId) state.store with
        ⟨error | attached, after⟩
      · exact congrArg Tables.contracts (attachPlan_raised ended)
      · obtain ⟨-, -, -, -, -, tables⟩ := Workflows.attachPlan_ok ended
        show after.contracts = _
        rw [tables]
    exact consistent_of_held contracts
      (held_attachPlan workflowId planId planFreezeId state.store unedited consistent.current) consistent
  | prepare planning workflowId =>
    have prepared := prepareWorkflowPlan_prepared planning workflowId state.store
    refine ⟨consistent_of_held prepared.contracts ?_ consistent, fresh⟩
    exact held_prepared prepared (fun _ => runtimePlan_current consistent.numbered) consistent.current
  | resolveBlocker workflowId itemId checkpointId version event =>
    exact ⟨consistent_frame (resolveBlocker_frame _ _ _ _ _ state.store) consistent, fresh⟩
  | runtime service config workspaces =>
    obtain ⟨left, contracts, known⟩ := run_held service config state.store workspaces
      (fun _ => runtimePlan_current consistent.numbered) consistent.current
    refine ⟨consistent_of_held contracts left consistent, ?_⟩
    intro handed member
    rcases List.mem_append.mp member with earlier | now
    · exact fresh handed earlier
    · obtain ⟨granted, held, same⟩ := known handed now
      exact fresh_of_handed granted held same
  | integrate env request canonical candidate =>
    have closes := Integration.integrate_closes env request ⟨state.store, canonical, candidate⟩
    exact ⟨consistent_frame (frame_of_closesOnly closes) consistent, fresh⟩
  | elsewhere change untouched => exact ⟨consistent_frame (untouched state.store) consistent, fresh⟩

/-- Where no contract is edited under the plan of a workflow, and no stale plan is attached, every
item is handed over with a plan made for the terms of its contract. -/
theorem handed_plans_fresh (start : Store) (operations : List Operation)
    (consistent : Consistent start.toTables) (meets : Meets step Unedited { store := start } operations) :
    ∀ handed ∈ (Run.run step { store := start } operations).handed, Fresh handed := by
  have begun : AllFresh { store := start } := ⟨consistent, (fun _ member => nomatch member)⟩
  exact (Run.invariant_guarded step Unedited AllFresh allFresh_step _ operations begun meets).fresh

def laterTerms : Tasks.ContractTerms where
  objective := "Write the release notes"
  acceptanceCriteria := [.str "The release notes are written"]
  repositoryIds := ["LREPO_000001"]
  authorityLevel := .l1

/-- The store with the ready workflow, before it has a plan. -/
def unplannedStore : Store :=
  (readyState ⟨[{ readyWorkflow with
    planId := none
    planFreezeId := none }], List.nodup_singleton _⟩).store

/-- The contract of the ready task is written, the task blocked and made ready again, and the loop run. -/
def editedWork : List Operation :=
  [.task (.createOrUpdateContract "LTASK_000001" laterTerms),
    .task (.lifecycle (.blockTask "LTASK_000001" .decisionRequired "The terms have changed")),
    .task (.lifecycle (.markReady "LTASK_000001")), anyRun]

/-- What the plan of the item was made for, and what its contract asks for. -/
def objectives (handed : Handed) : Option (Option String × Option String) :=
  ((handed.tables.workflows.get? handed.context.workflowId).bind fun row =>
    (nonEmpty row.planId).bind handed.tables.plans.get?).map fun plan =>
      (plan.plannedFor.map TaskContractRow.objective,
        (handed.tables.activeContract plan.taskId).map TaskContractRow.objective)

theorem objectives_of_fresh {handed : Handed} (fresh : Fresh handed) :
    ∃ objective, objectives handed = some (some objective, some objective) := by
  obtain ⟨workflow, task, contract, plan, released, made, planned, same⟩ := fresh
  refine ⟨contract.objective, ?_⟩
  unfold objectives
  rw [released.workflowListed, Option.bind_some, released.planId, Option.bind_some, released.planListed,
    Option.map_some, planned, released.planTask, released.active]
  dsimp only [Option.map_some]
  rw [same.objective]

/-- The plan was made for the notes, the contract asks for the release notes, and the item is handed
to the router. -/
theorem edited_contract_handed_stale :
    ∃ handed ∈ (Run.run step { store := readyStore } editedWork).handed, ¬ Fresh handed := by
  have read : (Run.run step { store := readyStore } editedWork).handed.map objectives =
      [some (some "Write the notes", some "Write the release notes")] := by decide +kernel
  obtain ⟨handed, listed, stale⟩ := List.map_eq_singleton_iff.mp read
  refine ⟨handed, listed ▸ List.mem_singleton_self handed, ?_⟩
  intro fresh
  obtain ⟨objective, same⟩ := objectives_of_fresh fresh
  rw [stale] at same
  simp only [Option.some.injEq, Prod.mk.injEq] at same
  exact absurd (same.1.trans same.2.symm) (by decide)

/-- The contract is edited before the workflow has a plan, and the run makes one for the new terms. -/
theorem planned_contract_handed_fresh :
    (Run.run step { store := unplannedStore } editedWork).handed.length = 1 ∧
      ∀ handed ∈ (Run.run step { store := unplannedStore } editedWork).handed, Fresh handed := by
  have unattached : ∀ planId, ¬ Attached unplannedStore.toTables planId := by
    rintro planId ⟨workflowId, row, present, named⟩
    have inside : row ∈ unplannedStore.workflows.rows := Table.get?_mem present
    rw [List.mem_singleton.mp inside] at named
    cases named
  have consistent : Consistent unplannedStore.toTables := by
    constructor
    · intro contract member
      rw [show contract = readyContract from List.mem_singleton.mp member]
      exact ⟨1, by decide⟩
    · intro planId plan attached
      exact absurd attached (unattached planId)
  refine ⟨by decide +kernel,
    handed_plans_fresh unplannedStore _ consistent ⟨?_, trivial, trivial, trivial, trivial⟩⟩
  intro contract _ planId plan attached
  exact absurd attached (unattached planId)

end Lucius.Runtime.PlannedWork
