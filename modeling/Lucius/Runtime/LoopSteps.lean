import Lucius.Queue.Failures
import Lucius.Runtime.DispatchPolicy
import Lucius.Runtime.Preparation
import Lucius.Runtime.RouterRecords

/-! What the cycles of the loop change, and what holds of an item when it is handed to the
execution router. -/

namespace Lucius.Runtime

open Lucius.Action Queue Router

variable {before after tables : Tables} {wanted workflowId : String} {workflow : PersistentWorkflowRow}
  {task : TaskRow} {context : RuntimeExecutionContext} {contract : TaskContractRow} {store : Store}

/-- What no cycle writes in a workflow; a closed one stays closed. -/
structure SameBound (old new : PersistentWorkflowRow) : Prop where
  id : new.id = old.id
  taskId : new.taskId = old.taskId
  planId : new.planId = old.planId
  busy : new.taskBacklog ≠ [] → old.taskBacklog ≠ []
  closed : old.workflowState = .closed → new.workflowState = .closed

theorem sameBound_refl (row : PersistentWorkflowRow) : SameBound row row := ⟨rfl, rfl, rfl, id, id⟩

theorem sameBound_trans (first second third : PersistentWorkflowRow) (one : SameBound first second)
    (two : SameBound second third) : SameBound first third where
  id := two.id.trans one.id
  taskId := two.taskId.trans one.taskId
  planId := two.planId.trans one.planId
  busy := fun busy => one.busy (two.busy busy)
  closed := fun closed => two.closed (one.closed closed)

/-- A task keeps its status, or a ready one leaves it. -/
def KeepsStatus (old new : TaskRow) : Prop :=
  new.status = old.status ∨ (old.status = .ready ∧ new.status ≠ .ready)

theorem keepsStatus_refl (task : TaskRow) : KeepsStatus task task := .inl rfl

theorem keepsStatus_trans (first second third : TaskRow) (one : KeepsStatus first second)
    (two : KeepsStatus second third) : KeepsStatus first third := by
  rcases two with same | ⟨ready, left⟩
  · rcases one with before | ⟨ready, left⟩
    · exact .inl (same.trans before)
    · exact .inr ⟨ready, by rw [same]; exact left⟩
  · rcases one with before | ⟨-, unready⟩
    · exact .inr ⟨before.symm.trans ready, left⟩
    · exact absurd ready unready

structure LoopKept (before after : Tables) : Prop where
  workflows : before.workflows.Carried SameBound after.workflows
  tasks : before.tasks.Carried KeepsStatus after.tasks
  contracts : after.contracts = before.contracts
  plans : after.plans = before.plans

theorem loopKept_refl (tables : Tables) : LoopKept tables tables :=
  ⟨Table.carried_refl sameBound_refl _, Table.carried_refl keepsStatus_refl _, rfl, rfl⟩

theorem loopKept_trans {first second third : Tables} (one : LoopKept first second)
    (two : LoopKept second third) : LoopKept first third where
  workflows := Table.carried_trans sameBound_trans one.workflows two.workflows
  tasks := Table.carried_trans keepsStatus_trans one.tasks two.tasks
  contracts := two.contracts.trans one.contracts
  plans := two.plans.trans one.plans

theorem loopKept_of_tables (same : after = before) : LoopKept before after :=
  same ▸ loopKept_refl before

theorem findItem_mem {items : List Item} {item : Item}
    (found : findItem items wanted = .ok item) : items ≠ [] := by
  rintro rfl
  cases found

theorem itemWrite_loopKept {row : PersistentWorkflowRow} {item new : Item}
    (write : ItemWrite before after row item new) : LoopKept before after := by
  obtain ⟨wanted, written, found, bound, -, tables⟩ := write.effect
  have same : SameBound row written :=
    ⟨bound.id, bound.taskId, bound.planId, fun _ => findItem_mem found,
      fun closed => bound.workflowState.trans closed⟩
  have here : before.workflows.get? written.id = some row := by
    rw [bound.id]
    exact write.present
  rw [tables]
  exact ⟨Table.carried_put sameBound_refl here same, Table.carried_refl keepsStatus_refl _, rfl, rfl⟩

def KeptStore (before after : Store) : Prop := LoopKept before.toTables after.toTables

theorem keptStore_refl (store : Store) : KeptStore store store := loopKept_refl store.toTables

theorem keptStore_trans (first second third : Store) (one : KeptStore first second)
    (two : KeptStore second third) : KeptStore first third := loopKept_trans one two

theorem keptStore_of_same (before after : Store) (same : SameTables before after) :
    KeptStore before after := loopKept_of_tables same

theorem record_kept (draft : AuditDraft) : Respects KeptStore (Op.record draft) :=
  respects_mono keptStore_of_same (record_same draft)

theorem kept_of_ends {α : Type} {operation : Op α}
    (normal : ∀ store result after, exec operation store = (.ok result, after) → KeptStore store after)
    (raised : Action.OnRaise SameTables operation) : Respects KeptStore operation :=
  respects_of_ends normal
    (fun store error after ended => keptStore_of_same store after (raised store error after ended))

theorem startNext_kept (workflowIds : List String) : Respects KeptStore (startNext workflowIds) := by
  apply kept_of_ends
  · intro store selection after done
    rcases startNext_ok done with ⟨-, same⟩ | ⟨_, _, _, _, -, -, -, -, write, -⟩
    · exact loopKept_of_tables same
    · exact itemWrite_loopKept write
  · intro store error after raised
    exact startNext_raised raised

theorem blockRunningItem_kept (workflowId wanted : String) (request : Queue.BlockRequest) :
    Respects KeptStore (Queue.blockRunningItem workflowId wanted request) := by
  apply kept_of_ends
  · intro store checkpoint after done
    obtain ⟨_, _, _, _, -, -, -, blocks⟩ := Queue.blockRunningItem_writes done
    exact itemWrite_loopKept blocks.write.itemWrite
  · exact Queue.blockRunningItem_raised _ _ _

theorem blockDispatchSelectedItem_kept (workflowId wanted : String) (expected : QueueWorkItemState)
    (version : Int) (request : Queue.BlockRequest) :
    Respects KeptStore (Queue.blockDispatchSelectedItem workflowId wanted expected version request) := by
  apply kept_of_ends
  · intro store checkpoint after done
    obtain ⟨_, _, _, _, -, -, -, -, -, blocks⟩ := Queue.blockDispatchSelectedItem_writes done
    exact itemWrite_loopKept blocks.write.itemWrite
  · exact Queue.blockDispatchSelectedItem_raised _ _ _ _ _

theorem completeItem_kept (workflowId wanted : String) (substeps : List String) :
    Respects KeptStore (Queue.completeItem workflowId wanted substeps) := by
  apply kept_of_ends
  · intro store item after done
    obtain ⟨_, _, _, _, -, -, completes⟩ := Queue.completeItem_writes done
    exact itemWrite_loopKept completes.write.itemWrite
  · exact Queue.completeItem_raised _ _ _

theorem recordsOnly_kept {before after : Router.RouterState} (records : Router.RecordsOnly before after) :
    KeptStore before.store after.store := by
  obtain ⟨executions, tables⟩ := records
  rw [KeptStore, tables]
  exact ⟨Table.carried_refl sameBound_refl _, Table.carried_refl keepsStatus_refl _, rfl, rfl⟩

theorem reconciled_loopKept (reconciled : Reconciled workflowId before after workflow task)
    (opened : workflow.workflowState ≠ .closed) (ready : task.status = .ready) :
    LoopKept before after := by
  obtain ⟨present, parent, taskUpdated, workflowUpdated, written⟩ := reconciled
  obtain ⟨-, -, listed⟩ := parentTask_present parent
  have named : workflow.id = workflowId := Table.get?_key present
  have here : before.workflows.get? workflow.id = some workflow := by rw [named, present]
  have settled : KeepsStatus task
      (reconciledTask task (completedWorkflowTaskStatus before task.id) taskUpdated) := by
    refine .inr ⟨ready, ?_⟩
    intro still
    rcases completedWorkflowTaskStatus_cases before task.id with complete | pending
    · exact absurd (complete.symm.trans still) (by decide)
    · exact absurd (pending.symm.trans still) (by decide)
  have same : SameBound workflow (reconciledWorkflow workflow workflowUpdated) :=
    ⟨rfl, rfl, rfl, id, fun closed => absurd closed opened⟩
  rw [written]
  exact ⟨Table.carried_put sameBound_refl here same, Table.carried_put keepsStatus_refl listed settled,
    rfl, rfl⟩

/-- What the release of an item establishes about the rows it is released under. -/
structure Released (tables : Tables) (context : RuntimeExecutionContext)
    (workflow : PersistentWorkflowRow) (task : TaskRow) (contract : TaskContractRow)
    (plan : EngineeringPlanRow) : Prop where
  workflowListed : tables.workflows.get? context.workflowId = some workflow
  busy : workflow.taskBacklog ≠ []
  taskId : nonEmpty workflow.taskId = some task.id
  taskListed : tables.tasks.get? task.id = some task
  ready : task.status = .ready
  active : tables.activeContract task.id = some contract
  planId : nonEmpty workflow.planId = some plan.id
  planListed : tables.plans.get? plan.id = some plan
  planTask : plan.taskId = task.id
  contractId : plan.taskContractId = contract.id
  version : plan.taskContractVersion = contract.version

theorem executionContext_ok (read : executionContext tables workflowId wanted = .ok context) :
    ∃ workflow, tables.workflows.get? workflowId = some workflow ∧ context.workflowId = workflow.id ∧
      context.workflowTaskId = workflow.taskId ∧ context.planId = workflow.planId ∧
      workflow.taskBacklog ≠ [] := by
  unfold executionContext at read
  cases found : tables.workflows.get? workflowId with
  | none =>
    rw [found] at read
    cases read
  | some workflow =>
    rw [found] at read
    obtain ⟨item, held, read⟩ := except_bind_ok read
    obtain ⟨title, _, read⟩ := except_bind_ok read
    cases read
    refine ⟨workflow, rfl, rfl, rfl, rfl, ?_⟩
    intro empty
    rw [empty] at held
    cases held

theorem planFreezeError_none (free : planFreezeError tables context contract = none) :
    ∃ plan, nonEmpty context.planId = some plan.id ∧ tables.plans.get? plan.id = some plan ∧
      some plan.taskId = context.workflowTaskId ∧ plan.taskContractId = contract.id ∧
      plan.taskContractVersion = contract.version := by
  unfold planFreezeError at free
  cases planned : nonEmpty context.planId with
  | none => simp only [planned, reduceCtorEq] at free
  | some planId =>
    cases frozen : nonEmpty context.planFreezeId with
    | none => simp only [planned, frozen, reduceCtorEq] at free
    | some planFreezeId =>
      cases listed : tables.plans.get? planId with
      | none => simp only [planned, frozen, listed, reduceCtorEq] at free
      | some plan =>
        cases known : tables.freezes.get? planFreezeId with
        | none => simp only [planned, frozen, listed, known, reduceCtorEq] at free
        | some freeze =>
          simp only [planned, frozen, listed, known] at free
          repeat' split at free
          all_goals try cases free
          have named : plan.id = planId := Table.get?_key listed
          refine ⟨plan, by rw [named], by rw [named, listed], ?_⟩
          simp_all

theorem contractReleaseError_none
    (released : contractReleaseError store workflow task contract context = .ok none) :
    planFreezeError store.toTables context contract = none := by
  unfold contractReleaseError at released
  split at released
  · cases released
  · split at released
    · cases released
    · obtain ⟨blockers, _, released⟩ := except_bind_ok released
      split at released
      · cases released
      · split at released
        · cases released
        · split at released
          · cases released
          · assumption

theorem released_of_preDispatch (read : executionContext store.toTables workflowId wanted = .ok context)
    (released : preDispatchReleaseError store context = .ok none) :
    context.workflowId = workflowId ∧
      ∃ workflow task contract plan, Released store.toTables context workflow task contract plan := by
  obtain ⟨workflow, found, named, boundTask, boundPlan, busy⟩ := executionContext_ok read
  have key : workflow.id = workflowId := Table.get?_key found
  refine ⟨named.trans key, workflow, ?_⟩
  have here : store.workflows.get? context.workflowId = some workflow := by
    rw [named, key, found]
  unfold preDispatchReleaseError at released
  rw [here] at released
  dsimp only at released
  cases parent : (nonEmpty context.workflowTaskId).bind store.tasks.get? with
  | none =>
    rw [parent] at released
    cases released
  | some task =>
    rw [parent] at released
    dsimp only at released
    split at released
    · cases released
    · split at released
      · cases released
      · next ready =>
          cases active : store.activeContract task.id with
          | none =>
            rw [active] at released
            cases released
          | some contract =>
            rw [active] at released
            obtain ⟨plan, planned, listed, planTask, contractId, version⟩ :=
              planFreezeError_none (contractReleaseError_none released)
            obtain ⟨taskNamed, taskListed⟩ := nonEmpty_bind_get? parent
            have whole : context.workflowTaskId = some task.id := by
              rw [nonEmpty, Option.filter_eq_some_iff] at taskNamed
              exact taskNamed.1
            refine ⟨task, contract, plan, here, busy, boundTask ▸ taskNamed, taskListed,
              not_not.mp ready, active, boundPlan ▸ planned, listed, ?_, contractId, version⟩
            exact Option.some.inj (planTask.trans whole)

/-- An item was handed to the router out of the workflows of the run, and released. -/
structure HandedOver (workflowIds : List String) (handed : Handed) : Prop where
  inScope : workflowIds = [] ∨ handed.context.workflowId ∈ workflowIds
  released : ∃ workflow task contract plan,
    Released handed.tables handed.context workflow task contract plan

/-- What a part of the loop does: it keeps the rows, and hands over released items under
rows that are kept too. -/
structure Stepped (workflowIds : List String) (before after : LoopState) : Prop where
  kept : LoopKept before.store.toTables after.store.toTables
  handed : ∃ more, after.handed = before.handed ++ more ∧ ∀ handed ∈ more,
    LoopKept before.store.toTables handed.tables ∧ HandedOver workflowIds handed

section

variable {workflowIds : List String}

theorem stepped_of_kept {before after : LoopState} (kept : KeptStore before.store after.store)
    (same : after.handed = before.handed) : Stepped workflowIds before after := by
  refine ⟨kept, [], by rw [same, List.append_nil], ?_⟩
  intro handed member
  cases member

theorem stepped_refl (state : LoopState) : Stepped workflowIds state state :=
  stepped_of_kept (keptStore_refl state.store) rfl

theorem stepped_trans (first second third : LoopState) (one : Stepped workflowIds first second)
    (two : Stepped workflowIds second third) : Stepped workflowIds first third := by
  obtain ⟨earlier, appended, known⟩ := one.handed
  obtain ⟨later, appendedLater, knownLater⟩ := two.handed
  refine ⟨loopKept_trans one.kept two.kept, earlier ++ later, ?_, ?_⟩
  · rw [appendedLater, appended, List.append_assoc]
  · intro handed member
    rcases List.mem_append.mp member with before | after
    · exact known handed before
    · obtain ⟨kept, granted⟩ := knownLater handed after
      exact ⟨loopKept_trans one.kept kept, granted⟩

theorem onStore_stepped {α : Type} {operation : Op α} (kept : Respects KeptStore operation) :
    Respects (Stepped workflowIds) (onStore operation) := by
  have lifted : ∀ (state : LoopState) (after : Store), KeptStore state.store after →
      Stepped workflowIds state { state with store := after } :=
    fun _ _ kept => stepped_of_kept kept rfl
  exact respects_zoom lifted kept

theorem report_stepped (change : ExecutionRuntimeLoopResult → ExecutionRuntimeLoopResult) :
    Respects (Stepped workflowIds) (report change) :=
  fun state => stepped_of_kept (keptStore_refl state.store) rfl

theorem record_stepped (draft : AuditDraft) :
    Respects (Stepped workflowIds) (onStore (Op.record draft)) :=
  onStore_stepped (record_kept draft)

theorem settleNonCompletion_stepped (config : RuntimeLoopConfig) (context : RuntimeExecutionContext)
    (outcome : Router.ExecutionAdapterResult) :
    Respects (Stepped workflowIds) (settleNonCompletion config context outcome) := by
  unfold settleNonCompletion recordTaskExecution
  apply respects_bind stepped_trans (onStore_stepped (blockRunningItem_kept _ _ _))
  intro checkpoint
  apply respects_bind stepped_trans (report_stepped _)
  intro _
  apply respects_bind stepped_trans (record_stepped _)
  intro _
  split
  · apply respects_bind stepped_trans (report_stepped _)
    intro _
    exact respects_pure stepped_refl _
  · exact respects_pure stepped_refl _

theorem settleNoSelection_stepped (selection : DispatchSelection) :
    Respects (Stepped workflowIds) (settleNoSelection selection) := by
  unfold settleNoSelection
  split
  · next evaluation reason _ =>
      have blocked : Respects KeptStore (blockDispatchSelectionFailure evaluation reason) := by
        unfold blockDispatchSelectionFailure
        apply respects_bind keptStore_trans (blockDispatchSelectedItem_kept _ _ _ _ _)
        intro checkpoint
        exact record_kept _
      apply respects_bind stepped_trans (onStore_stepped blocked)
      intro _
      apply respects_bind stepped_trans (report_stepped _)
      intro _
      exact respects_pure stepped_refl _
  · apply respects_bind stepped_trans (report_stepped _)
    intro _
    exact respects_pure stepped_refl _

theorem blockPreDispatchFailure_kept (context : RuntimeExecutionContext) (reason : String) :
    Respects KeptStore (blockPreDispatchFailure context reason) := by
  unfold blockPreDispatchFailure
  apply respects_bind keptStore_trans (record_kept _)
  intro _
  apply respects_bind keptStore_trans (blockRunningItem_kept _ _ _)
  intro checkpoint
  exact respects_pure keptStore_refl _

end

/-- A workflow that is not closed, whose task is ready where it has one. -/
def ReadyWork (tables : Tables) (workflowId : String) : Prop :=
  ∃ workflow, tables.workflows.get? workflowId = some workflow ∧
    ∀ task, (nonEmpty workflow.taskId).bind tables.tasks.get? = some task → task.status = .ready

theorem released_readyWork
    {plan : EngineeringPlanRow} (released : Released tables context workflow task contract plan) :
    ReadyWork tables context.workflowId := by
  refine ⟨workflow, released.workflowListed, ?_⟩
  intro other parent
  rw [released.taskId, Option.bind_some, released.taskListed] at parent
  cases parent
  exact released.ready

theorem readyWork_congr (workflows : after.workflows = before.workflows)
    (tasks : after.tasks = before.tasks) (ready : ReadyWork before workflowId) :
    ReadyWork after workflowId := by
  unfold ReadyWork
  rw [workflows, tasks]
  exact ready

theorem completeItem_opened {substeps : List String} {result : Item}
    {after : Store}
    (done : exec (Queue.completeItem workflowId wanted substeps) store = (.ok result, after)) :
    ∃ row written, store.workflows.get? workflowId = some row ∧ written.taskId = row.taskId ∧
      written.workflowState ≠ .closed ∧ after.workflows.get? workflowId = some written ∧
      after.tasks = store.tasks := by
  obtain ⟨row, _, item, new, named, -, completes⟩ := Queue.completeItem_writes done
  have write := completes.write
  obtain ⟨wanted, written, found, bound, -, tables⟩ := write.itemWrite.effect
  unfold Queue.completeItem at done
  obtain ⟨known, present, knownNamed, done⟩ := Queue.workflowRow_bind_ok done
  obtain ⟨eligible, -⟩ := Queue.requireExecutable_bind_ok done
  have same : known = row := by
    have keys : store.workflows.get? row.id = some known := by
      rw [named, ← knownNamed, present]
    exact Option.some.inj (keys.symm.trans write.present)
  have key : written.id = workflowId := bound.id.trans named
  have here : store.workflows.get? workflowId = some row := by
    rw [← named]
    exact write.present
  refine ⟨row, written, here, bound.taskId, ?_, ?_, by rw [tables]⟩
  · rw [bound.workflowState, ← same]
    intro closed
    rw [closed] at eligible
    revert eligible
    decide
  · rw [tables]
    exact Table.get?_put_same here key

theorem reconcile_completed {substeps : List String} {result : Item}
    {after : Store} (ready : ReadyWork store.toTables workflowId)
    (done : exec (Queue.completeItem workflowId wanted substeps) store = (.ok result, after)) :
    KeptStore after (exec (reconcileCompletedWorkflowParentTask workflowId) after).2 := by
  obtain ⟨row, written, found, bound, opened, here, tasks⟩ := completeItem_opened done
  obtain ⟨known, listed, readyTask⟩ := ready
  have same : known = row := Option.some.inj (listed.symm.trans found)
  obtain ⟨last, reconciles, unchanged | ⟨workflow, task, reconciled⟩⟩ := reconcile_ends workflowId after
  · rw [reconciles]
    exact loopKept_of_tables unchanged
  · rw [reconciles]
    have is : workflow = written := Option.some.inj (reconciled.present.symm.trans here)
    have parent : (nonEmpty workflow.taskId).bind after.tasks.get? = some task := by
      have shown := reconciled.parent
      unfold parentTask at shown
      split at shown
      · exact shown
      · cases shown
    rw [is, bound, ← same, tasks] at parent
    exact reconciled_loopKept reconciled (is ▸ opened) (readyTask task parent)

theorem settleCompletion_stepped {workflowIds : List String}
    {outcome : Router.ExecutionAdapterResult} {state : LoopState}
    (ready : ReadyWork state.store.toTables context.workflowId) :
    Stepped workflowIds state (exec (settleCompletion context outcome) state).2 := by
  unfold settleCompletion recordTaskExecution
  rw [exec_bind, onStore, exec_zoom]
  have completing := completeItem_kept context.workflowId context.itemId outcome.completedSubsteps
    state.store
  rcases ended : exec (Queue.completeItem context.workflowId context.itemId
    outcome.completedSubsteps) state.store with ⟨error | item, middle⟩
  · rw [ended] at completing
    exact stepped_of_kept completing rfl
  · rw [ended] at completing
    have completed : Stepped workflowIds state { state with store := middle } :=
      stepped_of_kept completing rfl
    have reconciled := reconcile_completed ready ended
    obtain ⟨last, reconciles, -⟩ := reconcile_ends context.workflowId middle
    rw [reconciles] at reconciled
    have settled : Stepped workflowIds { state with store := middle } { state with store := last } :=
      stepped_of_kept reconciled rfl
    have finish : exec (onStore (reconcileCompletedWorkflowParentTask context.workflowId))
        { state with store := middle } = (.ok (), { state with store := last }) := by
      rw [onStore, exec_zoom, reconciles]
    dsimp only
    rw [exec_bind_of_ok finish]
    refine stepped_trans _ _ _ (stepped_trans _ _ _ completed settled) ?_
    apply respects_bind stepped_trans (report_stepped _)
    intro _
    apply respects_bind stepped_trans (record_stepped _)
    intro _
    apply respects_bind stepped_trans (report_stepped _)
    intro _
    exact respects_pure stepped_refl _

theorem executeRouterFailClosed_ends (service : ExecutionRuntimeLoopService)
    (context : RuntimeExecutionContext) (state : LoopState) : ∃ outcome,
    exec (executeRouterFailClosed service context) state = (.ok outcome,
      handedOver state context (routed (service.router context.worktreePath) context state).2) :=
  ⟨_, rfl⟩

theorem routed_recordsOnly (router : Router.ModelExecutionRouter) (context : RuntimeExecutionContext)
    (state : LoopState) : Router.RecordsOnly
      { store := state.store, files := state.workspaces context.worktreePath }
      (routed router context state).2 :=
  Router.execute_recordsOnly router context _

theorem executeReleased_stepped {service : ExecutionRuntimeLoopService} {config : RuntimeLoopConfig}
    {workflowIds : List String} {state : LoopState}
    (granted : HandedOver workflowIds ⟨context, state.store.toTables⟩) :
    Stepped workflowIds state (exec (executeReleased service config context) state).2 := by
  obtain ⟨_, _, _, _, released⟩ := granted.released
  obtain ⟨outcome, executes⟩ := executeRouterFailClosed_ends service context state
  have records := routed_recordsOnly (service.router context.worktreePath) context state
  generalize (routed (service.router context.worktreePath) context state).2 = routedTo
    at executes records
  have ready : ReadyWork (handedOver state context routedTo).store.toTables context.workflowId := by
    obtain ⟨executions, tables⟩ := records
    have workflows : routedTo.store.workflows = state.store.workflows := by rw [tables]
    have tasks : routedTo.store.tasks = state.store.tasks := by rw [tables]
    exact readyWork_congr workflows tasks (released_readyWork released)
  have handing : Stepped workflowIds state (handedOver state context routedTo) := by
    refine ⟨recordsOnly_kept records, [⟨context, state.store.toTables⟩], rfl, ?_⟩
    intro handed member
    rw [List.mem_singleton.mp member]
    exact ⟨loopKept_refl state.store.toTables, granted⟩
  unfold executeReleased
  rw [exec_bind_of_ok executes, report, exec_bind_of_ok (exec_modify _ _)]
  have reported : Stepped workflowIds (handedOver state context routedTo) _ :=
    report_stepped (fun result => { result with
      taskRecords := result.taskRecords ++ [taskRecord context outcome] })
      (handedOver state context routedTo)
  refine stepped_trans _ _ _ (stepped_trans _ _ _ handing reported) ?_
  split
  · exact settleCompletion_stepped ready
  · exact settleNonCompletion_stepped config context outcome _

theorem executeSelected_stepped {service : ExecutionRuntimeLoopService} {config : RuntimeLoopConfig}
    {workflowIds : List String} {selection : DispatchSelection} {candidate : DispatchCandidate}
    (scope : workflowIds = [] ∨ candidate.workflowId ∈ workflowIds) :
    Respects (Stepped workflowIds) (executeSelected service config selection candidate) := by
  intro state
  unfold executeSelected
  rw [exec_get_bind, exec_bind, exec_ofExcept]
  cases read : executionContext state.store.toTables candidate.workflowId candidate.itemId with
  | error error => exact stepped_refl state
  | ok context =>
    dsimp only
    apply stepped_trans _ _ _ (report_stepped (fun result => { result with
      selectedTasks := result.selectedTasks + 1
      resumedTasks := result.resumedTasks + (if isResumed selection then 1 else 0) }) state)
    rw [report, exec_bind_of_ok (exec_modify _ _), exec_modify,
      exec_bind, exec_ofExcept]
    rcases (if isResumed selection then blockedInterval service.fromisoformat context.queueItem
      else Except.ok ()) with error | nothing
    · exact stepped_refl _
    dsimp only
    rw [exec_bind, exec_ofExcept]
    cases checked : preDispatchReleaseError state.store context with
    | error error => exact stepped_refl _
    | ok release =>
      dsimp only
      cases release with
      | some reason =>
        apply respects_bind stepped_trans
          (onStore_stepped (blockPreDispatchFailure_kept _ _))
        intro _
        apply respects_bind stepped_trans (report_stepped _)
        intro _
        exact respects_pure stepped_refl _
      | none =>
        obtain ⟨named, released⟩ := released_of_preDispatch read checked
        have granted : HandedOver workflowIds ⟨context, state.store.toTables⟩ :=
          ⟨named ▸ scope, released⟩
        exact executeReleased_stepped granted

theorem cycle_stepped (service : ExecutionRuntimeLoopService) (config : RuntimeLoopConfig) :
    Respects (Stepped config.workflowIds) (cycle service config) := by
  intro state
  unfold cycle
  rw [exec_bind, onStore, exec_zoom]
  have started := startNext_kept config.workflowIds state.store
  rcases ended : exec (startNext config.workflowIds) state.store with ⟨error | selection, after⟩
  · rw [ended] at started
    exact stepped_of_kept started rfl
  · rw [ended] at started
    have dispatched : Stepped config.workflowIds state { state with store := after } :=
      stepped_of_kept started rfl
    dsimp only
    cases chosen : selection.selected with
    | none => exact stepped_trans _ _ _ dispatched (settleNoSelection_stepped selection _)
    | some candidate =>
      have scope : config.workflowIds = [] ∨ candidate.workflowId ∈ config.workflowIds := by
        rcases startNext_ok ended with ⟨unselected, -⟩ | ⟨other, _, _, _, same, dispatchable, -⟩
        · rw [chosen] at unselected
          cases unselected
        · rw [chosen] at same
          cases same
          exact dispatchable.inScope
      exact stepped_trans _ _ _ dispatched (executeSelected_stepped scope _)

theorem cycles_stepped (service : ExecutionRuntimeLoopService) (config : RuntimeLoopConfig)
    (remaining : Nat) : Respects (Stepped config.workflowIds) (cycles service config remaining) := by
  induction remaining with
  | zero => exact respects_pure stepped_refl _
  | succ remaining ih =>
    unfold cycles
    apply respects_bind stepped_trans (cycle_stepped service config)
    intro continuation
    cases continuation with
    | stop => exact respects_pure stepped_refl _
    | goOn => exact ih

theorem guarded_stepped (service : ExecutionRuntimeLoopService) (config : RuntimeLoopConfig) :
    Respects (Stepped config.workflowIds) (guarded service config) := by
  unfold guarded
  apply respects_bind stepped_trans
    (respects_recovering isQueueStateError (cycles_stepped service config config.maxTasks))
  intro outcome
  cases outcome with
  | ok nothing => exact respects_pure stepped_refl _
  | error error =>
    apply respects_bind stepped_trans (report_stepped _)
    intro _
    exact record_stepped _

theorem finished_stepped {workflowIds : List String} {loop : LoopAction Unit}
    (stepped : Respects (Stepped workflowIds) loop) : Respects (Stepped workflowIds) (finished loop) := by
  intro state
  exact stepped_trans _ _ _ (stepped state) (stepped_of_kept (loopKept_of_tables rfl) rfl)

/-- A run that is refused does nothing; another prepares its workflows, and from there on
keeps the rows and hands over released items. -/
theorem run_steps (service : ExecutionRuntimeLoopService) (config : RuntimeLoopConfig)
    (state : LoopState) : ∃ started : LoopState, started.handed = state.handed ∧
      (started.store = state.store ∨
        started.store = (exec (prepareWorkflowPlans service.planning config.workflowIds)
          state.store).2) ∧
      Stepped config.workflowIds started (exec (run service config) state).2 := by
  unfold run
  split
  · exact ⟨state, rfl, .inl rfl, stepped_refl state⟩
  · rw [exec_bind_of_ok (exec_modify _ _), exec_bind, onStore, exec_zoom]
    rcases ended : exec (prepareWorkflowPlans service.planning config.workflowIds) state.store with
      ⟨error | references, prepared⟩
    · exact ⟨{ state with result := {}, store := prepared }, rfl, .inr rfl, stepped_refl _⟩
    · refine ⟨{ state with result := {}, store := prepared }, rfl, .inr rfl, ?_⟩
      dsimp only
      refine respects_bind stepped_trans (report_stepped _) ?_
        { state with result := {}, store := prepared }
      intro _
      exact finished_stepped (guarded_stepped service config)

/-- What a run hands over, it hands over under rows that stem from those it started with:
prepared first, and kept from there on. -/
theorem run_handed (service : ExecutionRuntimeLoopService) (config : RuntimeLoopConfig)
    (state : LoopState) : ∃ more, (exec (run service config) state).2.handed = state.handed ++ more ∧
      ∀ handed ∈ more, HandedOver config.workflowIds handed ∧
        ∃ tables, Prepared state.store.toTables tables ∧ LoopKept tables handed.tables := by
  obtain ⟨started, same, origin, stepped⟩ := run_steps service config state
  obtain ⟨more, appended, known⟩ := stepped.handed
  refine ⟨more, by rw [appended, same], ?_⟩
  intro handed member
  obtain ⟨kept, granted⟩ := known handed member
  refine ⟨granted, started.store.toTables, ?_, kept⟩
  rcases origin with unchanged | reached
  · rw [unchanged]
    exact prepared_refl state.store.toTables
  · rw [reached]
    exact prepareWorkflowPlans_prepared service.planning config.workflowIds state.store

end Lucius.Runtime
