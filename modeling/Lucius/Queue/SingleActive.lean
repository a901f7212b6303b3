import Lucius.Lib.Run
import Lucius.Runtime.Dispatcher
import Lucius.Workflows.Service

/-! How many items run at once, over the three ways of starting one.

A scoped start inspects the items of its own workflow, a global one those of the
execution-eligible workflows, the dispatcher those of every workflow. -/

namespace Lucius.Queue.SingleActive

open Lucius.Action Workflows

variable {new item : Item} {row written : PersistentWorkflowRow} {before after : Store}

inductive SchedulerOperation where
  | startNext (workflowId : String)
  | startGlobalNext
  | dispatcherStartNext
  | blockRunningItem (workflowId itemId : String) (request : BlockRequest)
  | resolveBlocker (workflowId itemId checkpointId : String) (expectedItemVersion : Int)
      (resolutionEvent : String)
  | completeItem (workflowId itemId : String) (completedSubsteps : List String)
  | updateProgress (workflowId : String) (progress : Progress)
  | recordCheckpoint (workflowId : String) (request : CheckpointRequest)
  | validateResume (workflowId checkpointId : String) (checks : List Dict)
      (nextEligibleTaskId : Option String)

def step (store : Store) : SchedulerOperation → Store
  | .startNext workflowId => transact (startNext workflowId) store
  | .startGlobalNext => transact (startGlobalNext []) store
  | .dispatcherStartNext => transact (Runtime.startNext []) store
  | .blockRunningItem workflowId itemId request =>
    transact (blockRunningItem workflowId itemId request) store
  | .resolveBlocker workflowId itemId checkpointId version event =>
    transact (resolveBlocker workflowId itemId checkpointId version event) store
  | .completeItem workflowId itemId substeps =>
    transact (completeItem workflowId itemId substeps) store
  | .updateProgress workflowId progress =>
    transact (Workflows.updateProgress workflowId progress) store
  | .recordCheckpoint workflowId request =>
    transact (Workflows.recordCheckpoint workflowId request) store
  | .validateResume workflowId checkpointId checks next =>
    transact (Workflows.validateResume workflowId checkpointId checks next) store

def IsStart : SchedulerOperation → Prop
  | .startNext _ => True
  | .startGlobalNext => True
  | .dispatcherStartNext => True
  | _ => False

/-- The workflows whose running items stop a start. -/
def Inspects : SchedulerOperation → PersistentWorkflowRow → Prop
  | .startNext workflowId, row => row.id = workflowId
  | .startGlobalNext, row => row.workflowState ∈ executionEligibleWorkflowStates
  | .dispatcherStartNext, _ => True
  | _, _ => False

def runningCount (row : PersistentWorkflowRow) : Nat :=
  (row.taskBacklog.filter (fun item => decide (Running item))).length

def activeItems (store : Store) : Nat := (store.workflows.rows.map runningCount).sum

/-- Some place of some backlog holds a running item that was not running before. -/
def StartsItem (before after : Store) : Prop :=
  ∃ old ∈ before.workflows.rows, ∃ new ∈ after.workflows.rows, new.id = old.id ∧
    ∃ (place : Nat) (was is : Item), old.taskBacklog[place]? = some was ∧ new.taskBacklog[place]? = some is ∧
      ¬ Running was ∧ Running is

theorem idle_iff_count (row : PersistentWorkflowRow) : Idle row ↔ runningCount row = 0 := by
  unfold Idle runningCount
  rw [List.length_eq_zero_iff, List.filter_eq_nil_iff]
  simp

theorem running_moved {old : Item} {target : QueueWorkItemState} (moved : Moved old new target) :
    Running new ↔ target = .running := by
  unfold Running
  rw [moved.stated]
  simp

def weight (item : Item) : Nat := if Running item then 1 else 0

theorem count_replaced (front back : List Item) (item new : Item) (row written : PersistentWorkflowRow)
    (old : row.taskBacklog = front ++ item :: back)
    (now : written.taskBacklog = front ++ new :: back) :
    runningCount written + weight item = runningCount row + weight new := by
  unfold runningCount weight
  rw [old, now]
  by_cases was : Running item <;> by_cases is : Running new <;>
    simp [List.filter_append, was, is] <;> omega

theorem itemWrite_rows {before after : Tables}
    (write : ItemWrite before after row item new) :
    ∃ written front back, after.workflows = before.workflows.put written ∧
      written.id = row.id ∧ row.taskBacklog = front ++ item :: back ∧
      written.taskBacklog = front ++ new :: back := by
  obtain ⟨wanted, written, found, bound, backlog, tables⟩ := write.effect
  obtain ⟨front, back, split, -, replaced⟩ := findItem_split found
  exact ⟨written, front, back, by rw [tables], bound.id, split, by rw [backlog, replaced]⟩

theorem active_itemWrite (write : ItemWrite before.toTables after.toTables row item new) :
    activeItems after + weight item = activeItems before + weight new := by
  obtain ⟨written, front, back, put, named, old, now⟩ := itemWrite_rows write
  have counts := count_replaced front back item new row written old now
  have sums := Table.sum_put (Table.get?_mem write.present) named.symm runningCount
  unfold activeItems
  rw [put]
  omega

theorem active_lifecycle (write : LifecycleWrite before.toTables after.toTables row written) :
    activeItems after = activeItems before := by
  obtain ⟨put, present, named, backlog⟩ := write
  have sums := Table.sum_put (Table.get?_mem present) named.symm runningCount
  have same : runningCount written = runningCount row := by
    rw [runningCount, backlog, ← runningCount]
  unfold activeItems
  rw [put]
  omega

theorem starts_of_same (same : after.workflows = before.workflows)
    (started : StartsItem before after) : False := by
  obtain ⟨old, member, new, inside, named, place, was, is, read, now, idle, running⟩ := started
  rw [same] at inside
  have equal := Table.row_unique inside member named
  rw [equal, read] at now
  exact idle (Option.some.inj now ▸ running)

theorem starts_of_lifecycle (write : LifecycleWrite before.toTables after.toTables row written)
    (started : StartsItem before after) : False := by
  obtain ⟨put, present, named, backlog⟩ := write
  obtain ⟨old, member, new, inside, same, place, was, is, read, now, idle, running⟩ := started
  rw [put] at inside
  have sameBacklog : new.taskBacklog = old.taskBacklog := by
    rcases Table.mem_put inside with isWritten | ⟨untouched, -⟩
    · have keys : old.id = row.id := by rw [← named, ← isWritten, same]
      have equal : old = row := Table.row_unique member (Table.get?_mem present) keys
      rw [isWritten, backlog, equal]
    · rw [Table.row_unique untouched member same]
  rw [sameBacklog, read] at now
  exact idle (Option.some.inj now ▸ running)

theorem starts_of_itemWrite (write : ItemWrite before.toTables after.toTables row item new)
    (started : StartsItem before after) : Running new := by
  obtain ⟨written, front, back, put, named, oldBacklog, newBacklog⟩ := itemWrite_rows write
  obtain ⟨old, member, other, inside, same, place, was, is, read, now, idle, running⟩ := started
  rw [put] at inside
  rcases Table.mem_put inside with isWritten | ⟨untouched, -⟩
  · have keys : old.id = row.id := by rw [← named, ← isWritten, same]
    have equal : old = row := Table.row_unique member (Table.get?_mem write.present) keys
    rw [equal, oldBacklog] at read
    rw [isWritten, newBacklog] at now
    rcases getElem?_replaced now item with ⟨-, is⟩ | ⟨-, kept⟩
    · exact is ▸ running
    · rw [read] at kept
      exact absurd (Option.some.inj kept ▸ running) idle
  · have equal := Table.row_unique untouched member same
    rw [equal, read] at now
    exact absurd (Option.some.inj now ▸ running) idle

/-- The three effects an operation can have on the backlogs. -/
inductive Effect (operation : SchedulerOperation) (before after : Store) : Prop where
  | kept (same : after.workflows = before.workflows)
  | lifecycle (row written : PersistentWorkflowRow)
      (write : LifecycleWrite before.toTables after.toTables row written)
  | moved (row : PersistentWorkflowRow) (item new : Item) (target : QueueWorkItemState)
      (write : ItemWrite before.toTables after.toTables row item new) (moved : Moved item new target)
      (other : target ≠ .running)
  | started (row : PersistentWorkflowRow) (item new : Item)
      (write : ItemWrite before.toTables after.toTables row item new)
      (moved : Moved item new .running) (start : IsStart operation) (inspected : Inspects operation row)
      (idle : ∀ other ∈ before.workflows.rows, Inspects operation other → Idle other)

theorem blocked_ne_running {target : QueueWorkItemState} (blocked : target ∈ blockedStates) :
    target ≠ .running := by
  intro same
  subst same
  revert blocked
  decide

theorem idle_of_empty (empty : row.taskBacklog = []) : Idle row := by
  intro item member
  rw [empty] at member
  cases member

theorem transact_effect {α : Type} {action : Op α} {operation : SchedulerOperation} {store : Store}
    (established : ∀ after result, exec action store = (.ok result, after) →
      Effect operation store after) : Effect operation store (transact action store) := by
  rcases outcome : exec action store with ⟨_ | result, after⟩
  · rw [transact_error outcome]
    exact .kept rfl
  · rw [transact_ok outcome]
    exact established after result outcome

theorem step_effect (store : Store) (operation : SchedulerOperation) :
    Effect operation store (step store operation) := by
  cases operation with
  | startNext workflowId =>
    refine transact_effect fun after result done => ?_
    rcases startNext_writes done with same | ⟨row, _, item, new, named, starts⟩
    · exact .kept (by rw [same])
    · refine .started row item new starts.write.itemWrite starts.moved trivial named ?_
      intro other member inspected
      have keys : other.id = row.id := inspected.trans named.symm
      exact Table.row_unique member (Table.get?_mem starts.write.present) keys ▸ starts.idle
  | startGlobalNext =>
    refine transact_effect fun after result done => ?_
    rcases startGlobalNext_writes done with same | ⟨_, row, _, item, new, starts⟩
    · exact .kept (by rw [same])
    · refine .started row item new starts.write.itemWrite starts.moved trivial starts.executable ?_
      intro other member inspected
      obtain ⟨rows, read, idle⟩ := starts.others
      by_cases empty : other.taskBacklog = []
      · exact idle_of_empty empty
      · exact idle other (globalWorkflows_all read member empty) inspected
  | dispatcherStartNext =>
    refine transact_effect fun after result done => ?_
    rcases Runtime.startNext_ok done with ⟨-, same⟩ |
      ⟨candidate, row, item, new, -, dispatchable, -, -, write, moved, -⟩
    · exact .kept (congrArg Tables.workflows same)
    · exact .started row item new write moved trivial trivial
        (fun other member _ => dispatchable.idle other member (Or.inl rfl))
  | blockRunningItem workflowId itemId request =>
    refine transact_effect fun after result done => ?_
    obtain ⟨row, _, item, new, -, -, -, blocks⟩ := blockRunningItem_writes done
    exact .moved row item new _ blocks.write.itemWrite blocks.moved (blocked_ne_running blocks.blocking)
  | resolveBlocker workflowId itemId checkpointId version event =>
    refine transact_effect fun after result done => ?_
    obtain ⟨row, _, item, new, -, -, moved, edits⟩ := resolveBlocker_writes done
    exact .moved row item new _ edits.write.itemWrite moved (by decide)
  | completeItem workflowId itemId substeps =>
    refine transact_effect fun after result done => ?_
    obtain ⟨row, _, item, new, -, -, completes⟩ := completeItem_writes done
    exact .moved row item new _ completes.write.itemWrite completes.moved (by decide)
  | updateProgress workflowId progress =>
    refine transact_effect fun after result done => ?_
    obtain ⟨row, -, write⟩ := Workflows.updateProgress_ok done
    exact .lifecycle row result write
  | recordCheckpoint workflowId request =>
    refine transact_effect fun after result done => ?_
    obtain ⟨row, written, -, write⟩ := Workflows.recordCheckpoint_ok done
    exact .lifecycle row written write
  | validateResume workflowId checkpointId checks next =>
    refine transact_effect fun after result done => ?_
    obtain ⟨row, written, -, write⟩ := Workflows.validateResume_ok done
    exact .lifecycle row written write

/-- Only a start moves an item to RUNNING, and only while every workflow it
inspects is idle. -/
theorem start_step (store : Store) (operation : SchedulerOperation)
    (started : StartsItem store (step store operation)) :
    IsStart operation ∧ ∀ row ∈ store.workflows.rows, Inspects operation row → Idle row := by
  cases step_effect store operation with
  | kept same => exact (starts_of_same same started).elim
  | lifecycle row written write => exact (starts_of_lifecycle write started).elim
  | moved row item new target write moved other =>
    exact absurd ((running_moved moved).mp (starts_of_itemWrite write started)) other
  | started row item new write moved start inspected idle => exact ⟨start, idle⟩

def OneEach (store : Store) : Prop := ∀ row ∈ store.workflows.rows, runningCount row ≤ 1

instance (store : Store) : Decidable (OneEach store) :=
  inferInstanceAs (Decidable (∀ row ∈ store.workflows.rows, runningCount row ≤ 1))

theorem one_each_of_put (one : OneEach before) (put : after.workflows = before.workflows.put written)
    (bound : runningCount written ≤ 1) : OneEach after := by
  intro other member
  rw [put] at member
  rcases Table.mem_put member with same | ⟨untouched, -⟩
  · rw [same]
    exact bound
  · exact one other untouched

theorem one_each_step (store : Store) (operation : SchedulerOperation) (one : OneEach store) :
    OneEach (step store operation) := by
  cases step_effect store operation with
  | kept same =>
    intro row member
    rw [same] at member
    exact one row member
  | lifecycle row written write =>
    obtain ⟨put, present, named, backlog⟩ := write
    refine one_each_of_put one put ?_
    have count := one row (Table.get?_mem present)
    rwa [runningCount, backlog, ← runningCount]
  | moved row item new target write moved other =>
    obtain ⟨written, front, back, put, named, old, now⟩ := itemWrite_rows write
    have counts := count_replaced front back item new row written old now
    have quiet : weight new = 0 := if_neg (fun running => other ((running_moved moved).mp running))
    have before := one row (Table.get?_mem write.present)
    refine one_each_of_put one put ?_
    omega
  | started row item new write moved start inspected idle =>
    obtain ⟨written, front, back, put, named, old, now⟩ := itemWrite_rows write
    have counts := count_replaced front back item new row written old now
    have none := (idle_iff_count row).mp (idle row (Table.get?_mem write.present) inspected)
    have most : weight new ≤ 1 := by
      unfold weight
      split <;> omega
    refine one_each_of_put one put ?_
    omega

/-- The workflows a start does not inspect are idle. -/
def OthersIdle (store : Store) (operation : SchedulerOperation) : Prop :=
  IsStart operation → ∀ row ∈ store.workflows.rows, ¬ Inspects operation row → Idle row

theorem active_zero {store : Store} (idle : ∀ row ∈ store.workflows.rows, Idle row) :
    activeItems store = 0 := by
  unfold activeItems
  rw [List.sum_eq_zero]
  intro count member
  obtain ⟨row, inside, same⟩ := List.mem_map.mp member
  rw [← same]
  exact (idle_iff_count row).mp (idle row inside)

theorem single_active_step (store : Store) (operation : SchedulerOperation)
    (single : activeItems store ≤ 1) (others : OthersIdle store operation) :
    activeItems (step store operation) ≤ 1 := by
  cases step_effect store operation with
  | kept same =>
    rw [activeItems, same, ← activeItems]
    exact single
  | lifecycle row written write =>
    rw [active_lifecycle write]
    exact single
  | moved row item new target write moved other =>
    have counts := active_itemWrite write
    have quiet : weight new = 0 := if_neg (fun running => other ((running_moved moved).mp running))
    omega
  | started row item new write moved start inspected idle =>
    have counts := active_itemWrite write
    have zero : activeItems store = 0 := by
      apply active_zero
      intro other member
      by_cases seen : Inspects operation other
      · exact idle other member seen
      · exact others start other member seen
    have most : weight new ≤ 1 := by
      unfold weight
      split <;> omega
    omega

/-- In every run from workflows with at most one running item each: an operation
that moves an item to RUNNING is a start that found every workflow it inspects
idle; each workflow keeps at most one running item; and where each start also
finds the workflows it does not inspect idle, as a dispatcher start always does,
at most one item runs over all workflows. -/
theorem active_execution_by_inspected_workflows (start : Store)
    (operations : List SchedulerOperation) (one : OneEach start) :
    (∀ front operation back, operations = front ++ operation :: back →
      StartsItem (Run.run step start front) (step (Run.run step start front) operation) →
      IsStart operation ∧
        ∀ row ∈ (Run.run step start front).workflows.rows, Inspects operation row → Idle row) ∧
    OneEach (Run.run step start operations) ∧
    (activeItems start ≤ 1 → Run.Meets step OthersIdle start operations →
      activeItems (Run.run step start operations) ≤ 1) := by
  refine ⟨?_, ?_, ?_⟩
  · intro front operation back _ started
    exact start_step _ operation started
  · exact Run.invariant_run step OneEach one_each_step start operations one
  · intro single meets
    exact Run.invariant_guarded step OthersIdle (fun store => activeItems store ≤ 1)
      single_active_step start operations single meets

def readyWorkflow (id item : String) : PersistentWorkflowRow :=
  { id := id
    projectId := some "LPROJ_000001"
    workflowState := .planReady
    taskBacklog := [[("item_id", .str item), ("state", .str "READY")]] }

def twoReadyWorkflows : Store :=
  { workflows := ⟨[readyWorkflow "LWORK_000001" "first", readyWorkflow "LWORK_000002" "second"],
      by decide⟩ }

/-- Two scoped starts run two items at once. -/
theorem scoped_starts_run_two_items :
    activeItems twoReadyWorkflows = 0 ∧
      activeItems (Run.run step twoReadyWorkflows
        [.startNext "LWORK_000001", .startNext "LWORK_000002"]) = 2 := by
  decide

theorem active_execution_one_scoped_start :
    OneEach (Run.run step twoReadyWorkflows [.startNext "LWORK_000001"]) ∧
      activeItems (Run.run step twoReadyWorkflows [.startNext "LWORK_000001"]) ≤ 1 := by
  obtain ⟨-, one, single⟩ := active_execution_by_inspected_workflows twoReadyWorkflows
    [.startNext "LWORK_000001"] (by decide)
  have idle : ∀ row ∈ twoReadyWorkflows.workflows.rows, Idle row := by decide
  exact ⟨one, single (by decide) ⟨fun _ row member _ => idle row member, trivial⟩⟩

end Lucius.Queue.SingleActive
