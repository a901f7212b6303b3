import Lucius.Queue.ReachableStates

/-! What a run of the loop leaves of the workflows that are paused or closed. -/

namespace Lucius.Runtime

open Lucius.Action Queue Queue.ReachableStates Planning

variable {before after first second third store : Store} {old written row : PersistentWorkflowRow}
  {item new : Item}

def Shelved (row : PersistentWorkflowRow) : Prop :=
  row.workflowState = .paused ∨ row.workflowState = .closed

instance : DecidablePred Shelved := fun _ => inferInstanceAs (Decidable (_ ∨ _))

/-- The fields an item is known by, and those of its state, its version and its checkpoints. -/
def standingFields : List String :=
  ["item_id", "task_id", "state", "version", "block_checkpoints", "current_block_checkpoint_id"]

def SameStanding (old new : Item) : Prop := ∀ field ∈ standingFields, new.get field = old.get field

structure LeftAlone (old new : PersistentWorkflowRow) : Prop where
  lifecycle : new.workflowState = old.workflowState
  items : List.Forall₂ SameStanding old.taskBacklog new.taskBacklog

def ShelvedLeftAlone (before after : Store) : Prop :=
  ∀ id row, before.workflows.get? id = some row → Shelved row →
    ∃ new, after.workflows.get? id = some new ∧ LeftAlone row new

/-- The workflows a preparation comes to, each with the store it finds there. -/
def preparations (planning : ScriptedRuntimePlanningAdapter) : List String → Store →
    List (Store × String)
  | [], _ => []
  | workflowId :: rest, store =>
    (store, workflowId) ::
      match exec (prepareWorkflow planning workflowId) store with
      | (.error _, _) => []
      | (.ok _, after) => preparations planning rest after

def runPreparations (service : ExecutionRuntimeLoopService) (config : RuntimeLoopConfig)
    (state : LoopState) : List (Store × String) :=
  if config.dispatcherCount ≠ 1 then []
  else
    match workflowRows state.store.toTables config.workflowIds with
    | .error _ => []
    | .ok rows => preparations service.planning rows state.store

/-- The states in which a cycle begins. -/
def cycleStarts (service : ExecutionRuntimeLoopService) (config : RuntimeLoopConfig) :
    Nat → LoopState → List LoopState
  | 0, _ => []
  | remaining + 1, state =>
    state ::
      match exec (cycle service config) state with
      | (.ok .goOn, next) => cycleStarts service config remaining next
      | _ => []

def runCycles (service : ExecutionRuntimeLoopService) (config : RuntimeLoopConfig)
    (state : LoopState) : List LoopState :=
  match loopStart service config state with
  | none => []
  | some begun => cycleStarts service config config.maxTasks begun

/-- A shelved workflow that is prepared has no task to reconcile, and a plan or none that can be
made of it. -/
def PreparationSpares (planning : ScriptedRuntimePlanningAdapter) (store : Store)
    (workflowId : String) : Prop :=
  ∀ row, store.workflows.get? workflowId = some row → Shelved row →
    parentTask store.toTables row = none ∧
      (preparedReference row ≠ none ∨ ∃ error after, exec (planning.plan row) store = (.error error, after))

/-- The item that is blocked for a critical reason is of no shelved workflow. -/
def FailClosedSpares (selection : DispatchSelection) (store : Store) : Prop :=
  ∀ evaluation reason row item, dispatchFailClosed selection = some (evaluation, reason) →
    Blockable store evaluation.candidate.workflowId evaluation.candidate.itemId
      evaluation.candidate.state evaluation.candidate.itemVersion (releaseBlock reason) row item →
    ¬ Shelved row

/-- The same of a cycle, which blocks an item only where it selects none. -/
def CycleSpares (workflowIds : List String) (state : LoopState) : Prop :=
  ∀ selection store, exec (startNext workflowIds) state.store = (.ok selection, store) →
    selection.selected = none → FailClosedSpares selection store

/-- The shelved workflows are the same, and their rows are as they were. -/
def SameShelved (before after : Store) : Prop :=
  ∀ id row, Shelved row → (after.workflows.get? id = some row ↔ before.workflows.get? id = some row)

theorem sameShelved_refl (store : Store) : SameShelved store store := fun _ _ _ => Iff.rfl

theorem sameShelved_trans (first second third : Store) (one : SameShelved first second)
    (two : SameShelved second third) : SameShelved first third :=
  fun id row shelved => (two id row shelved).trans (one id row shelved)

theorem sameShelved_of_workflows (same : after.workflows = before.workflows) :
    SameShelved before after := fun id row _ => by rw [same]

theorem sameShelved_of_put (present : before.workflows.get? written.id = some old) (was : ¬ Shelved old)
    (isOpen : ¬ Shelved written) (put : after.workflows = before.workflows.put written) :
    SameShelved before after := by
  intro id row shelved
  rw [put]
  by_cases same : written.id = id
  · have found : (before.workflows.put written).get? id = some written :=
      Table.get?_put_same (same ▸ present) same
    rw [found, ← same, present]
    refine iff_of_false ?_ ?_
    · intro known
      exact isOpen (Option.some.inj known ▸ shelved)
    · intro known
      exact was (Option.some.inj known ▸ shelved)
  · rw [Table.get?_put_other _ _ same]

theorem leftAlone_refl (row : PersistentWorkflowRow) : LeftAlone row row :=
  ⟨rfl, List.forall₂_same.mpr fun _ _ _ _ => rfl⟩

theorem shelvedLeftAlone_of_same (same : SameShelved before after) :
    ShelvedLeftAlone before after :=
  fun id row present shelved => ⟨row, (same id row shelved).mpr present, leftAlone_refl row⟩

theorem shelvedLeftAlone_from (same : SameShelved first second) :
    ShelvedLeftAlone second third ↔ ShelvedLeftAlone first third := by
  refine forall_congr' fun id => forall_congr' fun row => ?_
  constructor
  · intro kept present shelved
    exact kept ((same id row shelved).mpr present) shelved
  · intro kept present shelved
    exact kept ((same id row shelved).mp present) shelved

/-- No workflow has become a shelved one. -/
def NoneShelved (before after : Store) : Prop :=
  ∀ id new, after.workflows.get? id = some new → Shelved new →
    ∃ old, before.workflows.get? id = some old ∧ Shelved old

theorem noneShelved_refl (store : Store) : NoneShelved store store :=
  fun _ new present shelved => ⟨new, present, shelved⟩

theorem noneShelved_trans (first second third : Store) (one : NoneShelved first second)
    (two : NoneShelved second third) : NoneShelved first third := by
  intro id new present shelved
  obtain ⟨middle, known, still⟩ := two id new present shelved
  exact one id middle known still

theorem noneShelved_of_same (same : SameShelved before after) :
    NoneShelved before after :=
  fun id new present shelved => ⟨new, (same id new shelved).mp present, shelved⟩

theorem noneShelved_of_put
    (present : before.workflows.get? written.id = some old) (was : Shelved written → Shelved old)
    (put : after.workflows = before.workflows.put written) : NoneShelved before after := by
  intro id new known shelved
  rw [put] at known
  by_cases same : written.id = id
  · have found : (before.workflows.put written).get? id = some written :=
      Table.get?_put_same (same ▸ present) same
    rw [found] at known
    cases known
    exact ⟨old, same ▸ present, was shelved⟩
  · rw [Table.get?_put_other _ _ same] at known
    exact ⟨new, known, shelved⟩

/-- Some shelved workflow is one no more. -/
def Unshelved (before after : Store) : Prop :=
  ∃ id row, before.workflows.get? id = some row ∧ Shelved row ∧
    ∀ new, after.workflows.get? id = some new → ¬ Shelved new

theorem Unshelved.not_leftAlone (unshelved : Unshelved before after) :
    ¬ ShelvedLeftAlone before after := by
  intro kept
  obtain ⟨id, row, present, shelved, gone⟩ := unshelved
  obtain ⟨new, known, same⟩ := kept id row present shelved
  apply gone new known
  unfold Shelved
  rw [same.lifecycle]
  exact shelved

theorem Unshelved.later (unshelved : Unshelved first second)
    (later : NoneShelved second third) : Unshelved first third := by
  obtain ⟨id, row, present, shelved, gone⟩ := unshelved
  refine ⟨id, row, present, shelved, ?_⟩
  intro new known still
  obtain ⟨old, held, was⟩ := later id new known still
  exact gone old held was

theorem Unshelved.earlier (same : SameShelved first second)
    (unshelved : Unshelved second third) : Unshelved first third := by
  obtain ⟨id, row, present, shelved, gone⟩ := unshelved
  exact ⟨id, row, (same id row shelved).mp present, shelved, gone⟩

theorem unshelved_of_put (present : before.workflows.get? written.id = some old) (was : Shelved old)
    (isOpen : ¬ Shelved written) (put : after.workflows = before.workflows.put written) :
    Unshelved before after := by
  refine ⟨written.id, old, present, was, ?_⟩
  intro new known
  rw [put, Table.get?_put_same present rfl] at known
  cases known
  exact isOpen

/-- A plan that is made makes its workflow ready; one that is not leaves the workflows alone. -/
theorem plan_made {planning : ScriptedRuntimePlanningAdapter} {reference : Planning.RuntimePlanReference}
    (done : exec (planning.plan row) store = (.ok reference, after)) :
    ∃ written, written.id = row.id ∧ written.workflowState = .planReady ∧
      after.workflows = store.workflows.put written := by
  obtain ⟨modelPlan, plan, created, freeze, -, -, -, reached, frozen, attached, freezes, attaches, -⟩ :=
    Planning.ScriptedRuntimePlanningAdapter.plan_ok done
  obtain ⟨known, updatedAt, -, named, is, tables⟩ := Workflows.attachPlan_ok attaches
  obtain ⟨rows, same⟩ := respects_exec (freeze_freezesOnly planning.gates plan.id) freezes
  have kept : frozen.workflows = store.workflows := by
    rw [show frozen.workflows = created.workflows by rw [same], reached]
    rfl
  refine ⟨attached, ?_, ?_, ?_⟩
  · rw [is]
    exact named
  · rw [is]
  · rw [← kept]
    exact congrArg Tables.workflows tables

def WorkflowsKept (before after : Store) : Prop := after.workflows = before.workflows

theorem workflowsKept_refl (store : Store) : WorkflowsKept store store := rfl

theorem workflowsKept_trans (first second third : Store) (one : WorkflowsKept first second)
    (two : WorkflowsKept second third) : WorkflowsKept first third := two.trans one

theorem create_workflowsKept (context : Planning.PlanningContext)
    (modelPlan : Planning.ModelEngineeringPlanOutput) (blockers : List Dict) :
    Action.Respects WorkflowsKept
      (Planning.EngineeringPlanRepository.create context modelPlan blockers) := by
  apply respects_of_ends
  · intro store plan after done
    obtain ⟨-, -, written⟩ := Planning.EngineeringPlanRepository.create_ok done
    show after.workflows = store.workflows
    rw [written]
    rfl
  · intro store error after raised
    exact congrArg Tables.workflows (create_raised raised)

theorem plan_refused (planning : ScriptedRuntimePlanningAdapter) (row : PersistentWorkflowRow) :
    Action.OnRaise WorkflowsKept (planning.plan row) := by
  have frozen (planId : String) :
      Action.Respects WorkflowsKept (Planning.PlanFreezeService.freeze planning.gates planId) := by
    refine respects_mono ?_ (freeze_freezesOnly planning.gates planId)
    rintro before after ⟨freezes, same⟩
    show after.workflows = before.workflows
    rw [same]
  unfold ScriptedRuntimePlanningAdapter.plan
  apply onRaise_bind workflowsKept_trans (respects_ofExcept workflowsKept_refl _)
  intro modelPlan
  apply onRaise_bind workflowsKept_trans (respects_get workflowsKept_refl)
  intro store
  apply onRaise_bind workflowsKept_trans (create_workflowsKept _ _ _)
  intro plan
  apply onRaise_bind workflowsKept_trans (frozen plan.id)
  intro freeze
  apply onRaise_bind_returns
  · intro store error after raised
    exact congrArg Tables.workflows (attachPlan_raised raised)
  · intro attached
    exact returns_pure _

/-- What is not done to a shelved workflow, or what becomes of it. -/
inductive Shelving (spares : Prop) (before after : Store) : Prop where
  | spared (spared : spares) (same : SameShelved before after)
  | unshelved (touched : ¬ spares) (unshelved : Unshelved before after)
      (none : NoneShelved before after)

theorem planReady_open (ready : row.workflowState = .planReady) :
    ¬ Shelved row := by
  unfold Shelved
  rw [ready]
  decide

theorem reconciled_open (row : PersistentWorkflowRow) (updatedAt : Timestamp) :
    ¬ Shelved (reconciledWorkflow row updatedAt) := by
  have settled : (reconciledWorkflow row updatedAt).workflowState = .completedPendingIntegration := rfl
  unfold Shelved
  rw [settled]
  decide

theorem shelving_of_put {spares : Prop}
    (present : before.workflows.get? written.id = some row) (isOpen : ¬ Shelved written)
    (put : after.workflows = before.workflows.put written) (decides : spares ↔ ¬ Shelved row) :
    Shelving spares before after := by
  by_cases shelved : Shelved row
  · have touched : ¬ spares := fun spared => decides.mp spared shelved
    exact .unshelved touched (unshelved_of_put present shelved isOpen put)
      (noneShelved_of_put present (fun still => absurd still isOpen) put)
  · exact .spared (decides.mpr shelved) (sameShelved_of_put present shelved isOpen put)

theorem exec_prepareWorkflow_working {planning : ScriptedRuntimePlanningAdapter} {workflowId : String}
    (present : store.workflows.get? workflowId = some row)
    (working : parentTask store.toTables row = none)
    (unfinished : row.workflowState ≠ .completedPendingIntegration) :
    (exec (prepareWorkflow planning workflowId) store).2 =
      (exec (planning.prepareWorkflowPlan workflowId) store).2 := by
  unfold prepareWorkflow
  rw [exec_bind_of_ok (reconcile_working present working),
    exec_bind_of_ok (exec_workflowRow present), if_neg unfinished, exec_bind]
  rcases exec (planning.prepareWorkflowPlan workflowId) store with ⟨error | reference, after⟩ <;> rfl

theorem prepareWorkflow_shelving (planning : ScriptedRuntimePlanningAdapter) (workflowId : String)
    (store : Store) :
    Shelving (PreparationSpares planning store workflowId) store
      (exec (prepareWorkflow planning workflowId) store).2 := by
  cases present : store.workflows.get? workflowId with
  | none =>
    have unchanged : (exec (prepareWorkflow planning workflowId) store).2 = store := by
      unfold prepareWorkflow
      rw [exec_bind_of_ok (reconcile_missing present),
        exec_bind_of_error (exec_workflowRow_missing present)]
    rw [unchanged]
    refine .spared ?_ (sameShelved_refl store)
    intro row known
    rw [present] at known
    cases known
  | some row =>
    have named : row.id = workflowId := Table.get?_key present
    have only (property : PersistentWorkflowRow → Prop) (holds : property row) :
        ∀ other, store.workflows.get? workflowId = some other → property other := by
      intro other known
      rw [present] at known
      exact Option.some.inj known ▸ holds
    cases parent : parentTask store.toTables row with
    | some task =>
      have decides : PreparationSpares planning store workflowId ↔ ¬ Shelved row := by
        constructor
        · intro spares shelved
          have working := (spares row present shelved).1
          rw [parent] at working
          cases working
        · intro isOpen
          exact only _ fun shelved => absurd shelved isOpen
      obtain ⟨after, done, ⟨finished, same⟩ | reconciled⟩ := reconcile_completes present parent
      · have unchanged : (exec (prepareWorkflow planning workflowId) store).2 = store := by
          unfold prepareWorkflow
          rw [exec_bind_of_ok done, same, exec_bind_of_ok (exec_workflowRow present),
            if_pos finished]
          rfl
        have isOpen : ¬ Shelved row := by
          unfold Shelved
          rw [finished]
          decide
        rw [unchanged]
        exact .spared (decides.mpr isOpen) (sameShelved_refl store)
      · obtain ⟨-, -, taskUpdated, updatedAt, written⟩ := reconciled
        have put : after.workflows = store.workflows.put (reconciledWorkflow row updatedAt) :=
          congrArg Tables.workflows written
        have here : after.workflows.get? workflowId = some (reconciledWorkflow row updatedAt) := by
          rw [put]
          exact Table.get?_put_same present named
        have unchanged : (exec (prepareWorkflow planning workflowId) store).2 = after := by
          unfold prepareWorkflow
          rw [exec_bind_of_ok done, exec_bind_of_ok (exec_workflowRow here)]
          rfl
        rw [unchanged]
        have known : store.workflows.get? (reconciledWorkflow row updatedAt).id = some row :=
          named ▸ present
        exact shelving_of_put known (reconciled_open row updatedAt) put decides
    | none =>
      by_cases finished : row.workflowState = .completedPendingIntegration
      · have unchanged : (exec (prepareWorkflow planning workflowId) store).2 = store := by
          unfold prepareWorkflow
          rw [exec_bind_of_ok (reconcile_working present parent),
            exec_bind_of_ok (exec_workflowRow present), if_pos finished]
          rfl
        have isOpen : ¬ Shelved row := by
          unfold Shelved
          rw [finished]
          decide
        rw [unchanged]
        exact .spared (only _ fun shelved => absurd shelved isOpen) (sameShelved_refl store)
      · rw [exec_prepareWorkflow_working present parent finished]
        unfold ScriptedRuntimePlanningAdapter.prepareWorkflowPlan
        rw [exec_bind_of_ok (exec_workflowRow present)]
        cases planned : preparedReference row with
        | some reference =>
          refine .spared (only _ fun _ => ⟨parent, .inl ?_⟩) (sameShelved_refl store)
          rw [planned]
          exact Option.some_ne_none reference
        | none =>
          dsimp only
          rcases ended : exec (planning.plan row) store with ⟨error | reference, after⟩
          · exact .spared (only _ fun _ => ⟨parent, .inr ⟨error, after, ended⟩⟩)
              (sameShelved_of_workflows (plan_refused planning row store error after ended))
          · obtain ⟨written, same, ready, put⟩ := plan_made ended
            have known : store.workflows.get? written.id = some row := by
              rw [same, named]
              exact present
            refine shelving_of_put known (planReady_open ready) put ⟨?_, ?_⟩
            · intro spares shelved
              rcases (spares row present shelved).2 with held | ⟨error, left, raised⟩
              · exact held planned
              · rw [ended] at raised
                cases raised
            · intro isOpen
              exact only _ fun shelved => absurd shelved isOpen

theorem prepareEach_shelving (planning : ScriptedRuntimePlanningAdapter) (workflowIds : List String)
    (store : Store) :
    Shelving (∀ begun ∈ preparations planning workflowIds store,
        PreparationSpares planning begun.1 begun.2)
      store (exec (prepareEach planning workflowIds) store).2 := by
  induction workflowIds generalizing store with
  | nil => exact .spared (fun _ member => nomatch member) (sameShelved_refl store)
  | cons workflowId rest ih =>
    have first := prepareWorkflow_shelving planning workflowId store
    unfold prepareEach preparations
    rw [exec_bind]
    rcases ended : exec (prepareWorkflow planning workflowId) store with ⟨error | references, middle⟩
    · rw [ended] at first
      cases first with
      | spared spared same =>
        refine .spared ?_ same
        intro begun member
        rw [List.mem_singleton.mp member]
        exact spared
      | unshelved touched gone none =>
        exact .unshelved (fun spared => touched (spared _ List.mem_cons_self)) gone none
    · rw [ended] at first
      have later := ih middle
      have last : (exec (prepareEach planning rest >>= fun later => pure (references ++ later))
          middle).2 = (exec (prepareEach planning rest) middle).2 := by
        rw [exec_bind]
        rcases exec (prepareEach planning rest) middle with ⟨error | found, after⟩ <;> rfl
      dsimp only
      rw [last]
      cases first with
      | spared spared same =>
        cases later with
        | spared others still =>
          refine .spared ?_ (sameShelved_trans _ _ _ same still)
          intro begun member
          rcases List.mem_cons.mp member with this | other
          · rw [this]
            exact spared
          · exact others begun other
        | unshelved touched gone none =>
          refine .unshelved ?_ (gone.earlier same)
            (noneShelved_trans _ _ _ (noneShelved_of_same same) none)
          exact fun all => touched fun begun member => all begun (List.mem_cons_of_mem _ member)
      | unshelved touched gone none =>
        have kept : NoneShelved middle (exec (prepareEach planning rest) middle).2 := by
          cases later with
          | spared _ same => exact noneShelved_of_same same
          | unshelved _ _ none => exact none
        exact .unshelved (fun all => touched (all _ List.mem_cons_self)) (gone.later kept)
          (noneShelved_trans _ _ _ none kept)

section

variable {workflowId : String}

def ShelvedAt (store : Store) (workflowId : String) : Prop :=
  ∃ row, store.workflows.get? workflowId = some row ∧ Shelved row

/-- What is done to a workflow that is not shelved leaves the shelved ones as they are. -/
def SparesOthers (workflowId : String) (before after : Store) : Prop :=
  ¬ ShelvedAt before workflowId → SameShelved before after

theorem sparesOthers_refl (store : Store) : SparesOthers workflowId store store :=
  fun _ => sameShelved_refl store

theorem not_shelvedAt_later {before after : Store} (same : SameShelved before after)
    (isOpen : ¬ ShelvedAt before workflowId) : ¬ ShelvedAt after workflowId := by
  rintro ⟨row, present, shelved⟩
  exact isOpen ⟨row, (same workflowId row shelved).mp present, shelved⟩

theorem sparesOthers_trans (first second third : Store) (one : SparesOthers workflowId first second)
    (two : SparesOthers workflowId second third) : SparesOthers workflowId first third := by
  intro isOpen
  have same := one isOpen
  exact sameShelved_trans _ _ _ same (two (not_shelvedAt_later same isOpen))

theorem sparesOthers_of_tables {before after : Store} (same : after.toTables = before.toTables) :
    SparesOthers workflowId before after :=
  fun _ => sameShelved_of_workflows (congrArg Tables.workflows same)

theorem queueWrite_sparesOthers {before after : Store} {row written : PersistentWorkflowRow}
    {item new : Item} (named : row.id = workflowId)
    (write : QueueWrite before.toTables after.toTables row written item new) :
    SparesOthers workflowId before after := by
  intro isOpen
  have was : ¬ Shelved row := fun shelved => isOpen ⟨row, named ▸ write.present, shelved⟩
  have present : before.workflows.get? written.id = some row := by
    rw [write.bound.id]
    exact write.present
  refine sameShelved_of_put present was ?_ (congrArg Tables.workflows write.put)
  unfold Shelved
  rw [write.bound.workflowState]
  exact was

theorem blockRunningItem_sparesOthers (wanted : String) (request : Queue.BlockRequest) :
    Action.Respects (SparesOthers workflowId) (Queue.blockRunningItem workflowId wanted request) := by
  apply respects_of_ends
  · intro store checkpoint after done
    obtain ⟨row, written, item, new, named, -, -, blocks⟩ := Queue.blockRunningItem_writes done
    exact queueWrite_sparesOthers named blocks.write
  · intro store error after raised
    exact sparesOthers_of_tables (Queue.blockRunningItem_raised _ _ _ _ _ _ raised)

theorem completeItem_sparesOthers (wanted : String) (substeps : List String) :
    Action.Respects (SparesOthers workflowId) (Queue.completeItem workflowId wanted substeps) := by
  apply respects_of_ends
  · intro store completed after done
    obtain ⟨row, written, item, new, named, -, completes⟩ := Queue.completeItem_writes done
    exact queueWrite_sparesOthers named completes.write
  · intro store error after raised
    exact sparesOthers_of_tables (Queue.completeItem_raised _ _ _ _ _ _ raised)

theorem reconcile_sparesOthers :
    Action.Respects (SparesOthers workflowId) (reconcileCompletedWorkflowParentTask workflowId) := by
  intro store
  obtain ⟨after, done, unchanged | ⟨row, task, present, -, taskUpdated, updatedAt, written⟩⟩ :=
    reconcile_ends workflowId store
  · rw [done]
    exact sparesOthers_of_tables unchanged
  · rw [done]
    intro isOpen
    have known : store.workflows.get? (reconciledWorkflow row updatedAt).id = some row := by
      rw [show (reconciledWorkflow row updatedAt).id = workflowId from Table.get?_key present]
      exact present
    exact sameShelved_of_put known (fun shelved => isOpen ⟨row, present, shelved⟩)
      (reconciled_open row updatedAt) (congrArg Tables.workflows written)

theorem record_sparesOthers (draft : AuditDraft) :
    Action.Respects (SparesOthers workflowId) (Op.record draft) :=
  fun _ => sparesOthers_of_tables rfl

/-- The same of the states of a run. -/
def StateSparesOthers (workflowId : String) (before after : LoopState) : Prop :=
  SparesOthers workflowId before.store after.store

theorem stateSparesOthers_refl (state : LoopState) : StateSparesOthers workflowId state state :=
  sparesOthers_refl state.store

theorem stateSparesOthers_trans (first second third : LoopState)
    (one : StateSparesOthers workflowId first second)
    (two : StateSparesOthers workflowId second third) : StateSparesOthers workflowId first third :=
  sparesOthers_trans _ _ _ one two

theorem onStore_sparesOthers {α : Type} {operation : Op α}
    (spares : Action.Respects (SparesOthers workflowId) operation) :
    Action.Respects (StateSparesOthers workflowId) (onStore operation) :=
  fun state => spares state.store

theorem report_sparesOthers (change : ExecutionRuntimeLoopResult → ExecutionRuntimeLoopResult) :
    Action.Respects (StateSparesOthers workflowId) (report change) :=
  fun state => stateSparesOthers_refl state

theorem settleCompletion_sparesOthers {context : Router.RuntimeExecutionContext}
    (named : context.workflowId = workflowId) (outcome : Router.ExecutionAdapterResult) :
    Action.Respects (StateSparesOthers workflowId) (settleCompletion context outcome) := by
  unfold settleCompletion
  rw [named]
  apply respects_bind stateSparesOthers_trans (onStore_sparesOthers (completeItem_sparesOthers _ _))
  intro completed
  apply respects_bind stateSparesOthers_trans (onStore_sparesOthers reconcile_sparesOthers)
  intro _
  apply respects_bind stateSparesOthers_trans (report_sparesOthers _)
  intro _
  apply respects_bind stateSparesOthers_trans (onStore_sparesOthers (record_sparesOthers _))
  intro _
  apply respects_bind stateSparesOthers_trans (report_sparesOthers _)
  intro _
  exact respects_pure stateSparesOthers_refl _

theorem settleNonCompletion_sparesOthers {context : Router.RuntimeExecutionContext}
    (named : context.workflowId = workflowId) (config : RuntimeLoopConfig)
    (outcome : Router.ExecutionAdapterResult) :
    Action.Respects (StateSparesOthers workflowId) (settleNonCompletion config context outcome) := by
  unfold settleNonCompletion
  rw [named]
  apply respects_bind stateSparesOthers_trans
    (onStore_sparesOthers (blockRunningItem_sparesOthers _ _))
  intro checkpoint
  apply respects_bind stateSparesOthers_trans (report_sparesOthers _)
  intro _
  apply respects_bind stateSparesOthers_trans (onStore_sparesOthers (record_sparesOthers _))
  intro _
  split
  · apply respects_bind stateSparesOthers_trans (report_sparesOthers _)
    intro _
    exact respects_pure stateSparesOthers_refl _
  · exact respects_pure stateSparesOthers_refl _

theorem executeRouterFailClosed_sparesOthers (service : ExecutionRuntimeLoopService)
    (context : Router.RuntimeExecutionContext) :
    Action.Respects (StateSparesOthers workflowId) (executeRouterFailClosed service context) := by
  intro state
  obtain ⟨outcome, executes⟩ := executeRouterFailClosed_ends service context state
  obtain ⟨executions, tables⟩ :=
    routed_recordsOnly (service.router context.worktreePath) context state
  rw [executes]
  intro _
  apply sameShelved_of_workflows
  show (routed (service.router context.worktreePath) context state).2.store.workflows = state.store.workflows
  rw [tables]

theorem executeReleased_sparesOthers (service : ExecutionRuntimeLoopService)
    (config : RuntimeLoopConfig) {context : Router.RuntimeExecutionContext}
    (named : context.workflowId = workflowId) :
    Action.Respects (StateSparesOthers workflowId) (executeReleased service config context) := by
  unfold executeReleased
  apply respects_bind stateSparesOthers_trans (executeRouterFailClosed_sparesOthers service context)
  intro outcome
  apply respects_bind stateSparesOthers_trans (report_sparesOthers _)
  intro _
  split
  · exact settleCompletion_sparesOthers named outcome
  · exact settleNonCompletion_sparesOthers named config outcome

theorem blockPreDispatchFailure_sparesOthers {context : Router.RuntimeExecutionContext}
    (named : context.workflowId = workflowId) (reason : String) :
    Action.Respects (SparesOthers workflowId) (blockPreDispatchFailure context reason) := by
  unfold blockPreDispatchFailure
  rw [named]
  apply respects_bind sparesOthers_trans (record_sparesOthers _)
  intro _
  apply respects_bind sparesOthers_trans (blockRunningItem_sparesOthers _ _)
  intro checkpoint
  exact respects_pure sparesOthers_refl _

theorem executeSelected_sparesOthers (service : ExecutionRuntimeLoopService)
    (config : RuntimeLoopConfig) (selection : DispatchSelection) (candidate : DispatchCandidate) :
    Action.Respects (StateSparesOthers candidate.workflowId)
      (executeSelected service config selection candidate) := by
  intro state
  unfold executeSelected
  rw [exec_get_bind]
  cases read : executionContext state.store.toTables candidate.workflowId candidate.itemId with
  | error error => exact stateSparesOthers_refl state
  | ok context =>
    have named : context.workflowId = candidate.workflowId := by
      unfold executionContext at read
      split at read
      · cases read
      · next row present =>
          obtain ⟨item, -, read⟩ := except_bind_ok read
          obtain ⟨title, -, read⟩ := except_bind_ok read
          cases read
          exact Table.get?_key present
    rw [exec_bind_ofExcept rfl]
    refine respects_bind stateSparesOthers_trans (report_sparesOthers _) ?_ state
    intro _
    apply respects_bind stateSparesOthers_trans (respects_ofExcept stateSparesOthers_refl _)
    intro _
    apply respects_bind stateSparesOthers_trans (respects_ofExcept stateSparesOthers_refl _)
    intro release
    cases release with
    | none => exact executeReleased_sparesOthers service config named
    | some reason =>
      apply respects_bind stateSparesOthers_trans
        (onStore_sparesOthers (blockPreDispatchFailure_sparesOthers named reason))
      intro _
      apply respects_bind stateSparesOthers_trans (report_sparesOthers _)
      intro _
      exact respects_pure stateSparesOthers_refl _

end

theorem not_selected_shelved {workflowIds : List String} {selection : DispatchSelection}
    {candidate : DispatchCandidate}
    (done : exec (startNext workflowIds) store = (.ok selection, after))
    (chosen : selection.selected = some candidate) :
    ¬ ShelvedAt store candidate.workflowId ∧ SameShelved store after := by
  rcases startNext_ok done with ⟨none, -⟩ |
    ⟨picked, row, item, new, selected, dispatchable, named, -, write, -⟩
  · rw [chosen] at none
    cases none
  · have same : picked = candidate := Option.some.inj (selected.symm.trans chosen)
    obtain ⟨other, member, source, -, bound, -, judged⟩ := dispatchable.eligible
    have present : store.workflows.get? row.id = some row := write.present
    have this : other = row :=
      Table.row_unique member (Table.get?_mem present) (bound.symm.trans named)
    have isOpen : ¬ Shelved row := by
      have eligible := (unobjectionable judged).lifecycle
      rw [this] at eligible
      rintro (paused | closed)
      · rw [paused] at eligible
        revert eligible
        decide
      · rw [closed] at eligible
        revert eligible
        decide
    constructor
    · rintro ⟨known, found, shelved⟩
      rw [← same, named, present] at found
      exact isOpen (Option.some.inj found ▸ shelved)
    · obtain ⟨wanted, written, -, bound, -, put⟩ := write.effect
      have here : store.workflows.get? written.id = some row := by
        rw [bound.id]
        exact present
      refine sameShelved_of_put here isOpen ?_ (congrArg Tables.workflows put)
      unfold Shelved
      rw [bound.workflowState]
      exact isOpen

theorem blocked_not_sameStanding {reason : String} {expected : QueueWorkItemState}
    (eligible : expected ∈ Queue.eligibleStates) (stated : Queue.state item = .ok expected)
    (moved : Queue.Moved item new (releaseBlock reason).blockingState) : ¬ SameStanding item new := by
  intro same
  have waiting : Queue.queueState? new = some .waitingHuman := moved.stated
  have field : new.get "state" = item.get "state" := same "state" (by decide)
  have was : Queue.queueState? item = some .waitingHuman := by
    rw [← waiting]
    unfold Queue.queueState?
    rw [field]
  have different : expected ≠ .waitingHuman := by
    rintro rfl
    revert eligible
    decide
  exact Queue.ReachableStates.not_stated stated different (by decide) was

theorem not_leftAlone_of_write (write : QueueWrite before.toTables after.toTables row written item new)
    (named : itemId new = itemId item) (shelved : Shelved row) (changed : ¬ SameStanding item new) :
    ¬ ShelvedLeftAlone before after := by
  intro kept
  obtain ⟨left, found, alone⟩ := kept row.id row write.present shelved
  have here : after.workflows.get? row.id = some written := by
    rw [show after.workflows = before.workflows.put written from congrArg Tables.workflows write.put]
    exact Table.get?_put_same write.present write.bound.id
  have same : left = written := Option.some.inj (found.symm.trans here)
  obtain ⟨front, back, replaced⟩ :=
    Queue.ReachableStates.QueueWrite.replaced_at write named
  have items := alone.items
  rw [same, replaced.held, replaced.holds] at items
  have rest := List.forall₂_drop_append (front ++ item :: back) front (new :: back) items
  rw [List.drop_left] at rest
  exact changed (List.forall₂_cons.mp rest).1

theorem queueWrite_noneShelved (write : QueueWrite before.toTables after.toTables row written item new) :
    NoneShelved before after := by
  have present : before.workflows.get? written.id = some row := by
    rw [write.bound.id]
    exact write.present
  refine noneShelved_of_put present ?_ (congrArg Tables.workflows write.put)
  unfold Shelved
  rw [write.bound.workflowState]
  exact id

/-- What a step that blocks an item does to the shelved workflows; it ends the loop. -/
inductive Blocking (spares : Prop) (before : Store) (outcome : Except PyExc Continuation)
    (after : Store) : Prop where
  | spared (spared : spares) (same : SameShelved before after)
  | touched (touched : ¬ spares) (stops : outcome ≠ .ok .goOn)
      (changed : ¬ ShelvedLeftAlone before after) (none : NoneShelved before after)

theorem settleNoSelection_blocking (selection : DispatchSelection) (state : LoopState) :
    Blocking (FailClosedSpares selection state.store) state.store
      (exec (settleNoSelection selection) state).1 (exec (settleNoSelection selection) state).2.store := by
  unfold settleNoSelection FailClosedSpares
  cases critical : dispatchFailClosed selection with
  | none =>
    refine .spared ?_ (sameShelved_refl state.store)
    intro evaluation reason row item other
    cases other
  | some found =>
    obtain ⟨evaluation, reason⟩ := found
    dsimp only
    rw [exec_bind, onStore, exec_zoom, blockDispatchSelectionFailure, exec_bind]
    rcases blocking : exec (Queue.blockDispatchSelectedItem evaluation.candidate.workflowId
      evaluation.candidate.itemId evaluation.candidate.state evaluation.candidate.itemVersion
      (releaseBlock reason)) state.store with ⟨error | checkpoint, middle⟩
    · have same : middle.toTables = state.store.toTables :=
        Queue.blockDispatchSelectedItem_raised _ _ _ _ _ _ _ _ blocking
      refine .spared ?_ (sameShelved_of_workflows (congrArg Tables.workflows same))
      intro _ _ row item other blockable
      cases other
      obtain ⟨_, _, made⟩ := blockable.made
      rw [blocking] at made
      cases made
    · obtain ⟨row, written, item, new, named, found, eligible, stated, versioned, blocks⟩ :=
        Queue.blockDispatchSelectedItem_writes blocking
      have write := blocks.write
      have moved := blocks.moved
      have blockable := Queue.ReachableStates.blockable_of_made blocking named write found blocks.blocking
        eligible stated versioned
      by_cases shelved : Shelved row
      · refine .touched ?_ (fun same => by cases same) ?_ ?_
        · intro spares
          exact spares evaluation reason row item rfl blockable shelved
        · exact not_leftAlone_of_write write moved.named shelved
            (blocked_not_sameStanding eligible stated moved)
        · exact queueWrite_noneShelved write
      · refine .spared ?_ ?_
        · intro _ _ other _ same blocked
          cases same
          have present := blockable.present
          rw [blocked.present] at present
          exact Option.some.inj present ▸ shelved
        · refine queueWrite_sparesOthers rfl write ?_
          rintro ⟨other, present, still⟩
          have same : other = row := Option.some.inj (present.symm.trans write.present)
          exact shelved (same ▸ still)

theorem cycle_blocking (service : ExecutionRuntimeLoopService) (config : RuntimeLoopConfig)
    (state : LoopState) :
    Blocking (CycleSpares config.workflowIds state) state.store (exec (cycle service config) state).1
      (exec (cycle service config) state).2.store := by
  unfold cycle CycleSpares
  rw [exec_bind, onStore, exec_zoom]
  rcases dispatched : exec (startNext config.workflowIds) state.store with ⟨error | selection, store⟩
  · have same : store.toTables = state.store.toTables := startNext_raised dispatched
    refine .spared ?_ (sameShelved_of_workflows (congrArg Tables.workflows same))
    intro selection after done
    cases done
  · dsimp only
    cases chosen : selection.selected with
    | some candidate =>
      obtain ⟨isOpen, started⟩ := not_selected_shelved dispatched chosen
      have executed := executeSelected_sparesOthers service config selection candidate
        { state with store := store } (not_shelvedAt_later started isOpen)
      refine .spared ?_ (sameShelved_trans _ _ _ started executed)
      intro other after done none
      cases done
      rw [chosen] at none
      cases none
    | none =>
      have unchanged : store.toTables = state.store.toTables := by
        rcases startNext_ok dispatched with ⟨-, same⟩ | ⟨_, _, _, _, other, -⟩
        · exact same
        · rw [chosen] at other
          cases other
      have begun : SameShelved state.store store :=
        sameShelved_of_workflows (congrArg Tables.workflows unchanged)
      cases settleNoSelection_blocking selection { state with store := store } with
      | spared spares same =>
        refine .spared ?_ (sameShelved_trans _ _ _ begun same)
        intro other after done _
        cases done
        exact spares
      | touched touched stops changed none =>
        refine .touched ?_ stops ?_ (noneShelved_trans _ _ _ (noneShelved_of_same begun) none)
        · exact fun all => touched (all selection store rfl chosen)
        · rw [← shelvedLeftAlone_from begun]
          exact changed

/-- Any number of cycles leaves the shelved workflows alone exactly where each cycle does. -/
theorem cycles_shelved (service : ExecutionRuntimeLoopService) (config : RuntimeLoopConfig)
    (remaining : Nat) : ∀ state : LoopState,
    (ShelvedLeftAlone state.store (exec (cycles service config remaining) state).2.store ↔
      ∀ begun ∈ cycleStarts service config remaining state, CycleSpares config.workflowIds begun) ∧
    NoneShelved state.store (exec (cycles service config remaining) state).2.store := by
  induction remaining with
  | zero =>
    intro state
    refine ⟨iff_of_true (shelvedLeftAlone_of_same (sameShelved_refl state.store)) ?_,
      noneShelved_refl state.store⟩
    intro begun member
    cases member
  | succ remaining ih =>
    intro state
    have one := cycle_blocking service config state
    unfold cycles cycleStarts
    rw [exec_bind]
    rcases ended : exec (cycle service config) state with ⟨outcome, after⟩
    rw [ended] at one
    cases one with
    | touched touched stops changed none =>
      have last : ∀ begun : List LoopState,
          ¬ ∀ start ∈ state :: begun, CycleSpares config.workflowIds start :=
        fun begun all => touched (all state List.mem_cons_self)
      rcases outcome with error | continuation
      · exact ⟨iff_of_false changed (last _), none⟩
      · cases continuation with
        | stop => exact ⟨iff_of_false changed (last _), none⟩
        | goOn => exact absurd rfl stops
    | spared spares same =>
      have kept := noneShelved_of_same same
      have single : ∀ start ∈ [state], CycleSpares config.workflowIds start :=
        List.forall_mem_singleton.mpr spares
      rcases outcome with error | continuation
      · exact ⟨iff_of_true (shelvedLeftAlone_of_same same) single, kept⟩
      · cases continuation with
        | stop => exact ⟨iff_of_true (shelvedLeftAlone_of_same same) single, kept⟩
        | goOn =>
          obtain ⟨exactly, none⟩ := ih after
          refine ⟨?_, noneShelved_trans _ _ _ kept none⟩
          dsimp only
          rw [List.forall_mem_cons, ← exactly, shelvedLeftAlone_from same]
          exact (and_iff_right spares).symm

theorem shelvedLeftAlone_congr {other : Store}
    (same : after.workflows = other.workflows) :
    ShelvedLeftAlone before after ↔ ShelvedLeftAlone before other := by
  unfold ShelvedLeftAlone
  rw [same]

/-- A run leaves the paused and the closed workflows alone exactly where it prepares none that it
would reconcile or plan, and where no item of one is blocked at its end. -/
theorem shelved_left_alone_iff (service : ExecutionRuntimeLoopService) (config : RuntimeLoopConfig)
    (state : LoopState) :
    ShelvedLeftAlone state.store (exec (run service config) state).2.store ↔
      (∀ begun ∈ runPreparations service config state,
        PreparationSpares service.planning begun.1 begun.2) ∧
      ∀ begun ∈ runCycles service config state, CycleSpares config.workflowIds begun := by
  unfold run runPreparations runCycles loopStart
  by_cases one : config.dispatcherCount ≠ 1
  · rw [if_pos one, if_pos one, if_pos one]
    refine iff_of_true (shelvedLeftAlone_of_same (sameShelved_refl state.store)) ⟨?_, ?_⟩
    · intro begun member
      cases member
    · intro begun member
      cases member
  · rw [if_neg one, if_neg one, if_neg one, exec_bind_of_ok (exec_modify _ _),
      exec_bind, onStore, exec_zoom]
    unfold prepareWorkflowPlans
    rw [exec_get_bind]
    cases listed : workflowRows state.store.toTables config.workflowIds with
    | error error =>
      refine iff_of_true (shelvedLeftAlone_of_same (sameShelved_refl state.store)) ⟨?_, ?_⟩
      · intro begun member
        cases member
      · intro begun member
        cases member
    | ok rows =>
      rw [exec_bind_ofExcept rfl]
      have prepared := prepareEach_shelving service.planning rows state.store
      rcases ended : exec (prepareEach service.planning rows) state.store with
        ⟨error | references, store⟩
      · rw [ended] at prepared
        dsimp only at prepared ⊢
        cases prepared with
        | spared spares same =>
          exact iff_of_true (shelvedLeftAlone_of_same same) ⟨spares, fun _ member => absurd member List.not_mem_nil⟩
        | unshelved touched gone none =>
          exact iff_of_false gone.not_leftAlone fun both => touched both.1
      · rw [ended] at prepared
        dsimp only at prepared ⊢
        rw [report, exec_bind_of_ok (exec_modify _ _)]
        let begun : LoopState := { state with
          store := store
          result := { planReferences := references } }
        obtain ⟨looped, opened⟩ := cycles_shelved service config config.maxTasks begun
        have finishes : (exec (finished (guarded service config)) begun).2.store.workflows =
            (exec (cycles service config config.maxTasks) begun).2.store.workflows :=
          finished_workflows service config begun
        cases prepared with
        | spared spares same =>
          rw [← shelvedLeftAlone_from same]
          exact (shelvedLeftAlone_congr finishes).trans (looped.trans (and_iff_right spares).symm)
        | unshelved touched gone none =>
          have later : Unshelved state.store
              (exec (cycles service config config.maxTasks) begun).2.store := gone.later opened
          refine iff_of_false ?_ fun both => touched both.1
          exact fun kept => later.not_leftAlone ((shelvedLeftAlone_congr finishes).mp kept)

/-- The lifecycle of a workflow and the states of its items. -/
def standing (row : PersistentWorkflowRow) : PersistentWorkflowState × List String :=
  (row.workflowState, row.taskBacklog.map (fun item => (item.get "state").pyStr))

theorem leftAlone_standing {new : PersistentWorkflowRow} (alone : LeftAlone old new) :
    standing new = standing old := by
  have states : new.taskBacklog.map (fun item => (item.get "state").pyStr) =
      old.taskBacklog.map (fun item => (item.get "state").pyStr) := by
    have items := alone.items
    generalize old.taskBacklog = before at items
    generalize new.taskBacklog = after at items
    induction items with
    | nil => rfl
    | cons same rest ih => rw [List.map_cons, List.map_cons, ih, same "state" (by decide)]
  unfold standing
  rw [alone.lifecycle, states]

theorem standing_kept (kept : ShelvedLeftAlone before after) (present : before.workflows.get? row.id = some row)
    (shelved : Shelved row) : standing row ∈ after.workflows.rows.map standing := by
  obtain ⟨new, found, alone⟩ := kept row.id row present shelved
  exact List.mem_map.mpr ⟨new, Table.get?_mem found, leftAlone_standing alone⟩

/-- The ready workflow, paused before it has a plan. -/
def pausedWorkflow : PersistentWorkflowRow :=
  { readyWorkflow with
    workflowState := .paused
    planId := none
    planFreezeId := none }

/-- The ready workflow, closed and bound to no task. -/
def closedWorkflow : PersistentWorkflowRow :=
  { readyWorkflow with
    workflowState := .closed
    taskId := none }

/-- The paused workflow is planned and its item started; the item of the closed one is blocked. -/
theorem shelved_workflows_touched :
    ¬ ShelvedLeftAlone (readyState ⟨[pausedWorkflow], List.nodup_singleton _⟩).store
        (exec (run plainService {}) (readyState ⟨[pausedWorkflow], List.nodup_singleton _⟩)).2.store ∧
      ¬ ShelvedLeftAlone (readyState ⟨[closedWorkflow], List.nodup_singleton _⟩).store
        (exec (run plainService {}) (readyState ⟨[closedWorkflow], List.nodup_singleton _⟩)).2.store := by
  have planned : (exec (run plainService {})
      (readyState ⟨[pausedWorkflow], List.nodup_singleton _⟩)).2.store.workflows.rows.map standing =
        [(.planReady, ["WAITING_HUMAN"])] := by decide +kernel
  have blocked : (exec (run plainService {})
      (readyState ⟨[closedWorkflow], List.nodup_singleton _⟩)).2.store.workflows.rows.map standing =
        [(.closed, ["WAITING_HUMAN"])] := by decide +kernel
  constructor
  · intro kept
    have same := standing_kept kept rfl (by decide : Shelved pausedWorkflow)
    rw [planned] at same
    revert same
    decide
  · intro kept
    have same := standing_kept kept rfl (by decide : Shelved closedWorkflow)
    rw [blocked] at same
    revert same
    decide

end Lucius.Runtime
