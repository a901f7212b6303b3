import Lucius.Runtime.Loop

/-! What the preparation of the workflows of a run changes: a completed workflow and its
task are reconciled, and a workflow that has no plan gets one. -/

namespace Lucius.Runtime

open Lucius.Action Planning Router

variable {workflow : PersistentWorkflowRow} {task : TaskRow} {workflowId : String} {store : Store}
  {plan : EngineeringPlanRow} {before after : Tables}

theorem activeContract_congr {left right : Tables} (same : left.contracts = right.contracts)
    (taskId : String) : left.activeContract taskId = right.activeContract taskId := by
  unfold Tables.activeContract
  rw [same]

theorem nonEmpty_bind_get? {α : Type} [Keyed α String] {table : Table α} {key : Option String}
    {row : α} (found : (nonEmpty key).bind table.get? = some row) :
    nonEmpty key = some (Keyed.key row) ∧ table.get? (Keyed.key row) = some row := by
  obtain ⟨named, is, present⟩ := Option.bind_eq_some_iff.mp found
  have same := Table.get?_key present
  exact ⟨by rw [is, same], by rw [same]; exact present⟩

theorem parentTask_present {tables : Tables}
    (parent : parentTask tables workflow = some task) :
    workflowSuccessfullyCompleted workflow = true ∧ nonEmpty workflow.taskId = some task.id ∧
      tables.tasks.get? task.id = some task := by
  unfold parentTask at parent
  split at parent
  · next completed => exact ⟨completed, nonEmpty_bind_get? parent⟩
  · cases parent

/-- The write of a reconciliation. -/
structure Reconciled (workflowId : String) (before after : Tables) (workflow : PersistentWorkflowRow)
    (task : TaskRow) : Prop where
  present : before.workflows.get? workflowId = some workflow
  parent : parentTask before workflow = some task
  written : ∃ taskUpdated workflowUpdated, after = { before with
    tasks := before.tasks.put
      (reconciledTask task (completedWorkflowTaskStatus before task.id) taskUpdated)
    workflows := before.workflows.put (reconciledWorkflow workflow workflowUpdated) }

theorem reconcile_missing (absent : store.workflows.get? workflowId = none) :
    exec (reconcileCompletedWorkflowParentTask workflowId) store = (.ok (), store) := by
  unfold reconcileCompletedWorkflowParentTask
  rw [exec_get_bind, absent]
  rfl

theorem reconcile_working (found : store.workflows.get? workflowId = some workflow)
    (working : parentTask store.toTables workflow = none) :
    exec (reconcileCompletedWorkflowParentTask workflowId) store = (.ok (), store) := by
  unfold reconcileCompletedWorkflowParentTask
  rw [exec_get_bind, found]
  dsimp only
  rw [working]
  rfl

theorem reconcile_completes (found : store.workflows.get? workflowId = some workflow)
    (parent : parentTask store.toTables workflow = some task) :
    ∃ after, exec (reconcileCompletedWorkflowParentTask workflowId) store = (.ok (), after) ∧
      ((workflow.workflowState = .completedPendingIntegration ∧ after = store) ∨
        Reconciled workflowId store.toTables after.toTables workflow task) := by
  unfold reconcileCompletedWorkflowParentTask reconcileParentTask
  rw [exec_get_bind, found]
  dsimp only
  rw [parent]
  dsimp only
  rw [exec_get_bind]
  split
  · next settled => exact ⟨store, rfl, .inl ⟨settled.2, rfl⟩⟩
  · exact ⟨_, rfl, .inr ⟨found, parent, _, _, rfl⟩⟩

theorem reconcile_ends (workflowId : String) (store : Store) :
    ∃ after, exec (reconcileCompletedWorkflowParentTask workflowId) store = (.ok (), after) ∧
      (after.toTables = store.toTables ∨
        ∃ workflow task, Reconciled workflowId store.toTables after.toTables workflow task) := by
  cases found : store.workflows.get? workflowId with
  | none => exact ⟨store, reconcile_missing found, .inl rfl⟩
  | some workflow =>
    cases parent : parentTask store.toTables workflow with
    | none => exact ⟨store, reconcile_working found parent, .inl rfl⟩
    | some task =>
      obtain ⟨after, done, ⟨-, same⟩ | reconciled⟩ := reconcile_completes found parent
      · exact ⟨after, done, .inl (by rw [same])⟩
      · exact ⟨after, done, .inr ⟨workflow, task, reconciled⟩⟩

theorem completedWorkflowTaskStatus_cases (tables : Tables) (taskId : String) :
    completedWorkflowTaskStatus tables taskId = .complete ∨
      completedWorkflowTaskStatus tables taskId = .documentationPending := by
  unfold completedWorkflowTaskStatus
  repeat' split
  all_goals simp

/-- What no preparation writes in a workflow; its active task it may clear. -/
structure SameWork (old new : PersistentWorkflowRow) : Prop where
  id : new.id = old.id
  taskId : new.taskId = old.taskId
  taskBacklog : new.taskBacklog = old.taskBacklog
  activeTaskId : new.activeTaskId = old.activeTaskId ∨ new.activeTaskId = none

theorem sameWork_refl (row : PersistentWorkflowRow) : SameWork row row := ⟨rfl, rfl, rfl, .inl rfl⟩

theorem sameWork_trans (first second third : PersistentWorkflowRow) (one : SameWork first second)
    (two : SameWork second third) : SameWork first third where
  id := two.id.trans one.id
  taskId := two.taskId.trans one.taskId
  taskBacklog := two.taskBacklog.trans one.taskBacklog
  activeTaskId := by
    rcases two.activeTaskId with same | cleared
    · exact one.activeTaskId.imp same.trans same.trans
    · exact .inr cleared

/-- A task does not become ready. -/
def StillReady (old new : TaskRow) : Prop := new.status = .ready → old.status = .ready

theorem stillReady_refl (task : TaskRow) : StillReady task task := id

theorem stillReady_trans (first second third : TaskRow) (one : StillReady first second)
    (two : StillReady second third) : StillReady first third := fun ready => one (two ready)

/-- A plan the runtime makes is made for the contract that is active, or for none. -/
structure RuntimePlan (tables : Tables) (plan : EngineeringPlanRow) : Prop where
  status : plan.status = .proposed
  blockers : plan.blockers = []
  contract : plan.plannedFor = tables.activeContract plan.taskId ∨
    plan.taskContractId = plan.taskId ++ "_RUNTIME_CONTRACT"

theorem RuntimePlan.congr {left right : Tables}
    (same : left.contracts = right.contracts) (made : RuntimePlan left plan) :
    RuntimePlan right plan :=
  ⟨made.status, made.blockers, made.contract.imp_left
    (fun is => is.trans (activeContract_congr same plan.taskId))⟩

/-- What preparations change: the plans that are there stay, the ones they make are the
runtime's own, and a workflow keeps its plan or gets one of those. -/
structure Prepared (before after : Tables) : Prop where
  workflows : before.workflows.Carried SameWork after.workflows
  attached : ∀ workflowId old new, before.workflows.get? workflowId = some old →
    after.workflows.get? workflowId = some new → new.planId = old.planId ∨
      ∃ planId plan, new.planId = some planId ∧ after.plans.get? planId = some plan ∧
        before.plans.get? planId = none
  tasks : before.tasks.Carried StillReady after.tasks
  contracts : after.contracts = before.contracts
  kept : ∀ planId plan, before.plans.get? planId = some plan → after.plans.get? planId = some plan
  made : ∀ planId plan, after.plans.get? planId = some plan →
    before.plans.get? planId = some plan ∨
      (before.plans.get? planId = none ∧ RuntimePlan before plan)

theorem prepared_refl (tables : Tables) : Prepared tables tables where
  workflows := Table.carried_refl sameWork_refl _
  attached := by
    intro workflowId old new present later
    rw [present] at later
    cases later
    exact .inl rfl
  tasks := Table.carried_refl stillReady_refl _
  contracts := rfl
  kept := fun _ _ present => present
  made := fun _ _ present => .inl present

theorem prepared_trans {first second third : Tables} (one : Prepared first second)
    (two : Prepared second third) : Prepared first third where
  workflows := Table.carried_trans sameWork_trans one.workflows two.workflows
  attached := by
    intro workflowId old new present later
    obtain ⟨middle, between, -⟩ := Table.carried_some one.workflows present
    rcases two.attached workflowId middle new between later with kept | ⟨planId, plan, is, made, fresh⟩
    · rcases one.attached workflowId old middle present between with same |
        ⟨planId, plan, is, made, fresh⟩
      · exact .inl (kept.trans same)
      · exact .inr ⟨planId, plan, kept.trans is, two.kept planId plan made, fresh⟩
    · refine .inr ⟨planId, plan, is, made, ?_⟩
      cases known : first.plans.get? planId with
      | none => rfl
      | some older =>
        rw [one.kept planId older known] at fresh
        cases fresh
  tasks := Table.carried_trans stillReady_trans one.tasks two.tasks
  contracts := two.contracts.trans one.contracts
  kept := fun planId plan present => two.kept planId plan (one.kept planId plan present)
  made := by
    intro planId plan present
    rcases two.made planId plan present with earlier | ⟨fresh, made⟩
    · exact one.made planId plan earlier
    · refine .inr ⟨?_, made.congr one.contracts⟩
      cases known : first.plans.get? planId with
      | none => rfl
      | some older =>
        rw [one.kept planId older known] at fresh
        cases fresh

/-- The relation between the rows of two states of a session. -/
def PreparedStore (before after : Store) : Prop := Prepared before.toTables after.toTables

theorem preparedStore_refl (store : Store) : PreparedStore store store := prepared_refl store.toTables

theorem preparedStore_trans (first second third : Store) (one : PreparedStore first second)
    (two : PreparedStore second third) : PreparedStore first third := prepared_trans one two

theorem prepared_of_rows (workflows : after.workflows = before.workflows)
    (tasks : after.tasks = before.tasks) (contracts : after.contracts = before.contracts)
    (plans : after.plans = before.plans) : Prepared before after := by
  have base := prepared_refl before
  constructor
  · rw [workflows]
    exact base.workflows
  · rw [workflows, plans]
    exact base.attached
  · rw [tasks]
    exact base.tasks
  · exact contracts
  · rw [plans]
    exact base.kept
  · rw [plans]
    exact base.made

theorem prepared_of_tables (same : after = before) : Prepared before after :=
  same ▸ prepared_refl before

theorem reconciled_prepared
    (reconciled : Reconciled workflowId before after workflow task) : Prepared before after := by
  obtain ⟨present, parent, taskUpdated, workflowUpdated, written⟩ := reconciled
  obtain ⟨-, -, listed⟩ := parentTask_present parent
  have named : workflow.id = workflowId := Table.get?_key present
  have base := prepared_refl before
  rw [written]
  constructor
  · have here : before.workflows.get? workflow.id = some workflow := by rw [named, present]
    exact Table.carried_put sameWork_refl here ⟨rfl, rfl, rfl, .inr rfl⟩
  · intro other old new earlier later
    refine .inl ?_
    by_cases same : workflow.id = other
    · have found : (before.workflows.put (reconciledWorkflow workflow workflowUpdated)).get? other =
          some (reconciledWorkflow workflow workflowUpdated) := Table.get?_put_same earlier same
      have known : some old = some workflow := by
        rw [← earlier, ← same, named, present]
      cases found.symm.trans later
      cases known
      rfl
    · have kept : (before.workflows.put (reconciledWorkflow workflow workflowUpdated)).get? other =
          before.workflows.get? other := Table.get?_put_other _ _ same
      rw [show _ = some new from later, earlier] at kept
      cases kept
      rfl
  · have settled : StillReady task
        (reconciledTask task (completedWorkflowTaskStatus before task.id) taskUpdated) := by
      intro ready
      rcases completedWorkflowTaskStatus_cases before task.id with complete | pending
      · exact absurd (complete.symm.trans ready) (by decide)
      · exact absurd (pending.symm.trans ready) (by decide)
    exact Table.carried_put stillReady_refl listed settled
  · rfl
  · exact base.kept
  · exact base.made

theorem reconcile_prepared (workflowId : String) :
    Action.Respects PreparedStore (reconcileCompletedWorkflowParentTask workflowId) := by
  intro store
  obtain ⟨after, done, unchanged | ⟨workflow, task, reconciled⟩⟩ := reconcile_ends workflowId store
  · rw [done]
    exact prepared_of_tables unchanged
  · rw [done]
    exact reconciled_prepared reconciled

/-- A freeze adds a row to the freezes and writes no other table. -/
def FreezesOnly (before after : Store) : Prop :=
  ∃ freezes, after.toTables = { before.toTables with freezes := freezes }

theorem freezesOnly_of_tables {before after : Store} (same : after.toTables = before.toTables) :
    FreezesOnly before after := ⟨before.freezes, same⟩

theorem freezesOnly_refl (store : Store) : FreezesOnly store store := freezesOnly_of_tables rfl

theorem freezesOnly_trans (first second third : Store) (one : FreezesOnly first second)
    (two : FreezesOnly second third) : FreezesOnly first third := by
  obtain ⟨earlier, one⟩ := one
  obtain ⟨later, two⟩ := two
  exact ⟨later, by rw [two, one]⟩

theorem freezesOnly_prepared (before after : Store) (frozen : FreezesOnly before after) :
    PreparedStore before after := by
  obtain ⟨freezes, same⟩ := frozen
  exact prepared_of_rows (by rw [same]) (by rw [same]) (by rw [same]) (by rw [same])

theorem record_freezesOnly (draft : AuditDraft) : Action.Respects FreezesOnly (Op.record draft) :=
  fun _ => freezesOnly_of_tables rfl

theorem refuse_freezesOnly (plan : EngineeringPlanRow) (result : String) (issues : List String) :
    Action.Respects FreezesOnly (Planning.PlanFreezeService.refuse plan result issues) := by
  cases issues with
  | nil => exact respects_pure freezesOnly_refl _
  | cons code rest =>
    apply respects_bind freezesOnly_trans (record_freezesOnly _)
    intro _
    exact respects_throw freezesOnly_refl _

theorem addFreeze_freezesOnly (row : PlanFreezeRow) :
    Action.Respects FreezesOnly (Planning.addFreeze row) := by
  intro store
  unfold Planning.addFreeze
  rw [exec_get_bind]
  split
  · exact freezesOnly_refl store
  · exact ⟨store.freezes.add row, rfl⟩

theorem freeze_freezesOnly (gates : Planning.FreezeGates) (planId : String) :
    Action.Respects FreezesOnly (Planning.PlanFreezeService.freeze gates planId) := by
  have added (plan : EngineeringPlanRow) :
      Action.Respects FreezesOnly (Planning.PlanFreezeService.add plan) := by
    have issued : Action.Respects FreezesOnly (Op.nextId .planFreeze) :=
      fun _ => freezesOnly_of_tables rfl
    have ticked : Action.Respects FreezesOnly Op.utcNow := fun _ => freezesOnly_of_tables rfl
    unfold Planning.PlanFreezeService.add
    apply respects_bind freezesOnly_trans (respects_get freezesOnly_refl)
    intro store
    apply respects_bind freezesOnly_trans issued
    intro id
    apply respects_bind freezesOnly_trans ticked
    intro _
    apply respects_bind freezesOnly_trans (addFreeze_freezesOnly _)
    intro _
    apply respects_bind freezesOnly_trans (record_freezesOnly _)
    intro _
    exact respects_pure freezesOnly_refl _
  unfold Planning.PlanFreezeService.freeze
  apply respects_bind freezesOnly_trans (respects_get freezesOnly_refl)
  intro store
  split
  · exact respects_pure freezesOnly_refl _
  · split
    · exact respects_throw freezesOnly_refl _
    · apply respects_bind freezesOnly_trans (respects_ofExcept freezesOnly_refl _)
      intro issues
      apply respects_bind freezesOnly_trans (refuse_freezesOnly _ _ _)
      intro _
      apply respects_bind freezesOnly_trans (respects_ofExcept freezesOnly_refl _)
      intro found
      apply respects_bind freezesOnly_trans (refuse_freezesOnly _ _ _)
      intro _
      exact added _

theorem create_raised {context : Planning.PlanningContext}
    {modelPlan : Planning.ModelEngineeringPlanOutput} {blockers : List Dict} {after : Store}
    {error : PyExc}
    (raised : exec (Planning.EngineeringPlanRepository.create context modelPlan blockers) store =
      (.error error, after)) : after.toTables = store.toTables := by
  unfold Planning.EngineeringPlanRepository.create Planning.addPlan at raised
  rw [exec_get_bind, exec_bind_of_ok (Op.exec_nextId _ _), bind_assoc,
    exec_get_bind] at raised
  split at raised
  · cases raised
    rfl
  · cases raised

theorem added_prepared (fresh : before.plans.get? plan.id = none) (made : RuntimePlan before plan) :
    Prepared before { before with plans := before.plans.add plan } := by
  have base := prepared_refl before
  have kept : ∀ planId older, before.plans.get? planId = some older →
      (before.plans.add plan).get? planId = some older :=
    fun planId older present => Table.get?_add_old present
  refine ⟨base.workflows, ?_, base.tasks, rfl, kept, ?_⟩
  · intro workflowId old new earlier later
    exact .inl (congrArg PersistentWorkflowRow.planId (Option.some.inj (later.symm.trans earlier)))
  · intro planId other present
    by_cases same : plan.id = planId
    · have here : (before.plans.add plan).get? plan.id = some plan := Table.get?_add_fresh fresh
      rw [same] at here
      have is : other = plan := Option.some.inj (Eq.trans (Eq.symm present) here)
      rw [is]
      exact .inr ⟨same ▸ fresh, made⟩
    · have elsewhere : (before.plans.add plan).get? planId = before.plans.get? planId :=
        Table.get?_add_other same
      exact .inl (elsewhere.symm.trans present)

theorem attached_prepared {middle : Tables}
    {row attached : PersistentWorkflowRow} (prepared : Prepared before middle)
    (fresh : before.plans.get? plan.id = none) (listed : middle.plans.get? plan.id = some plan)
    (present : middle.workflows.get? row.id = some row) (work : SameWork row attached)
    (planned : attached.planId = some plan.id)
    (written : after = { middle with workflows := middle.workflows.put attached }) :
    Prepared before after := by
  have here : middle.workflows.get? attached.id = some row := by
    rw [work.id, present]
  rw [written]
  refine ⟨?_, ?_, prepared.tasks, prepared.contracts, prepared.kept, prepared.made⟩
  · exact Table.carried_trans sameWork_trans prepared.workflows
      (Table.carried_put sameWork_refl here work)
  · intro workflowId old new earlier later
    by_cases same : attached.id = workflowId
    · have found : (middle.workflows.put attached).get? workflowId = some attached :=
        Table.get?_put_same (same ▸ here) same
      have is : new = attached := Option.some.inj (Eq.trans (Eq.symm later) found)
      exact .inr ⟨plan.id, plan, is ▸ planned, listed, fresh⟩
    · have kept : (middle.workflows.put attached).get? workflowId =
          middle.workflows.get? workflowId := Table.get?_put_other _ _ same
      exact prepared.attached workflowId old new earlier (Eq.trans (Eq.symm kept) later)

theorem newRow_runtimePlan (tables : Tables) (workflow : PersistentWorkflowRow)
    (modelPlan : Planning.ModelEngineeringPlanOutput) (id : String) (version : Nat) :
    RuntimePlan tables (Planning.EngineeringPlanRepository.newRow
      (planningContextFromWorkflow tables workflow) modelPlan [] id version) := by
  refine ⟨rfl, rfl, ?_⟩
  dsimp only [Planning.EngineeringPlanRepository.newRow, planningContextFromWorkflow,
    workflowContract]
  cases nonEmpty workflow.taskId with
  | none => exact .inr rfl
  | some taskId => exact .inl rfl

theorem attachPlan_raised {planId planFreezeId : String} {after : Store}
    {error : PyExc}
    (raised : exec (Workflows.attachPlan workflowId planId planFreezeId) store =
      (.error error, after)) : after.toTables = store.toTables := by
  unfold Workflows.attachPlan Workflows.workflowRow at raised
  rw [bind_assoc, exec_get_bind] at raised
  cases found : store.workflows.get? workflowId with
  | none =>
    rw [found] at raised
    cases raised
    rfl
  | some row =>
    rw [found] at raised
    cases raised

theorem plan_prepared (adapter : ScriptedRuntimePlanningAdapter) (workflow : PersistentWorkflowRow) :
    Action.Respects PreparedStore (adapter.plan workflow) := by
  intro store
  unfold ScriptedRuntimePlanningAdapter.plan
  rw [exec_bind, exec_ofExcept]
  cases adapter.modelPlan workflow with
  | error error => exact preparedStore_refl store
  | ok modelPlan =>
    dsimp only
    rw [exec_get_bind, exec_bind]
    rcases creating : exec (Planning.EngineeringPlanRepository.create
      (planningContextFromWorkflow store.toTables workflow) modelPlan []) store with
      ⟨error | plan, created⟩
    · exact prepared_of_tables (create_raised creating)
    dsimp only
    obtain ⟨fresh, shape, reached⟩ := Planning.EngineeringPlanRepository.create_ok creating
    have own : RuntimePlan store.toTables plan := by
      rw [shape]
      exact newRow_runtimePlan store.toTables workflow modelPlan _ _
    have listed : created.plans.get? plan.id = some plan := by
      rw [reached]
      exact Table.get?_add_fresh fresh
    have planned : PreparedStore store created := by
      have added := added_prepared fresh own
      have tables : created.toTables =
          { store.toTables with plans := store.plans.add plan } := by
        rw [reached]
        rfl
      rw [PreparedStore, tables]
      exact added
    rw [exec_bind]
    have freezing := freeze_freezesOnly adapter.gates plan.id created
    rcases ended : exec (Planning.PlanFreezeService.freeze adapter.gates plan.id) created with
      ⟨error | freeze, frozen⟩
    · rw [ended] at freezing
      exact preparedStore_trans _ _ _ planned (freezesOnly_prepared _ _ freezing)
    rw [ended] at freezing
    have prepared := preparedStore_trans _ _ _ planned (freezesOnly_prepared _ _ freezing)
    have still : frozen.plans.get? plan.id = some plan := by
      obtain ⟨freezes, same⟩ := freezing
      rw [show frozen.plans = created.plans by rw [same], listed]
    dsimp only
    rw [exec_bind]
    rcases attaching : exec (Workflows.attachPlan workflow.id plan.id freeze.id) frozen with
      ⟨error | attached, last⟩
    · exact preparedStore_trans _ _ _ prepared (prepared_of_tables (attachPlan_raised attaching))
    · obtain ⟨row, updatedAt, present, -, is, written⟩ := Workflows.attachPlan_ok attaching
      refine attached_prepared prepared fresh still present ?_ (by rw [is]) written
      rw [is]
      exact ⟨rfl, rfl, rfl, .inl rfl⟩

theorem workflowRow_same (workflowId : String) {relation : Store → Store → Prop}
    (reflexive : ∀ store, relation store store) :
    Action.Respects relation (Workflows.workflowRow workflowId) := by
  intro store
  unfold Workflows.workflowRow
  rw [exec_get_bind]
  cases store.workflows.get? workflowId with
  | none => exact reflexive store
  | some row => exact reflexive store

theorem prepareWorkflowPlan_prepared (adapter : ScriptedRuntimePlanningAdapter) (workflowId : String) :
    Action.Respects PreparedStore (adapter.prepareWorkflowPlan workflowId) := by
  unfold ScriptedRuntimePlanningAdapter.prepareWorkflowPlan
  apply respects_bind preparedStore_trans (workflowRow_same workflowId preparedStore_refl)
  intro workflow
  split
  · exact respects_pure preparedStore_refl _
  · exact plan_prepared adapter workflow

theorem prepareWorkflow_prepared (planning : ScriptedRuntimePlanningAdapter) (workflowId : String) :
    Action.Respects PreparedStore (prepareWorkflow planning workflowId) := by
  unfold prepareWorkflow
  apply respects_bind preparedStore_trans (reconcile_prepared workflowId)
  intro _
  apply respects_bind preparedStore_trans (workflowRow_same workflowId preparedStore_refl)
  intro workflow
  split
  · exact respects_pure preparedStore_refl _
  · apply respects_bind preparedStore_trans (prepareWorkflowPlan_prepared planning workflowId)
    intro reference
    exact respects_pure preparedStore_refl _

theorem prepareEach_prepared (planning : ScriptedRuntimePlanningAdapter) (workflowIds : List String) :
    Action.Respects PreparedStore (prepareEach planning workflowIds) := by
  induction workflowIds with
  | nil => exact respects_pure preparedStore_refl _
  | cons workflowId rest ih =>
    unfold prepareEach
    apply respects_bind preparedStore_trans (prepareWorkflow_prepared planning workflowId)
    intro references
    apply respects_bind preparedStore_trans ih
    intro later
    exact respects_pure preparedStore_refl _

theorem prepareWorkflowPlans_prepared (planning : ScriptedRuntimePlanningAdapter)
    (workflowIds : List String) :
    Action.Respects PreparedStore (prepareWorkflowPlans planning workflowIds) := by
  unfold prepareWorkflowPlans
  apply respects_bind preparedStore_trans (respects_get preparedStore_refl)
  intro store
  apply respects_bind preparedStore_trans (respects_ofExcept preparedStore_refl _)
  intro rows
  exact prepareEach_prepared planning rows

end Lucius.Runtime
