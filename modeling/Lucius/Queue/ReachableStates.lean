import Lucius.Runtime.Operations
import Lucius.Runtime.Settlement

/-! What every sequence of calls of the queue keeps between the items of a workflow and the
columns of the workflow that repeat them. -/

namespace Lucius.Queue.ReachableStates

open Lucius.Action Lucius.Runtime

variable {row written : PersistentWorkflowRow} {item new : Item}
  {target expectedState : QueueWorkItemState} {store after : Store} {operation : QueueOperation}
  {workflowId wanted : String} {version : Int} {request : BlockRequest}

inductive QueueOperation where
  | startNext (workflowId : String)
  | startGlobalNext (workflowIds : List String)
  | blockRunningItem (workflowId itemId : String) (request : BlockRequest)
  | blockDispatchSelectedItem (workflowId itemId : String) (expectedState : QueueWorkItemState)
      (expectedItemVersion : Int) (request : BlockRequest)
  | repairBlockedItemConfiguration (workflowId itemId checkpointId : String)
      (expectedItemVersion : Int) (timeoutSeconds : Option Json) (contextLimitsPatch : Dict)
  | resolveBlocker (workflowId itemId checkpointId : String) (expectedItemVersion : Int)
      (resolutionEvent : String)
  | completeItem (workflowId itemId : String) (completedSubsteps : List String)

/-- What a call leaves, whether it returns or raises. -/
def step (store : Store) : QueueOperation → Store
  | .startNext workflowId => (exec (startNext workflowId) store).2
  | .startGlobalNext workflowIds => (exec (startGlobalNext workflowIds) store).2
  | .blockRunningItem workflowId itemId request =>
    (exec (blockRunningItem workflowId itemId request) store).2
  | .blockDispatchSelectedItem workflowId itemId expectedState version request =>
    (exec (blockDispatchSelectedItem workflowId itemId expectedState version request) store).2
  | .repairBlockedItemConfiguration workflowId itemId checkpointId version timeout patch =>
    (exec (repairBlockedItemConfiguration workflowId itemId checkpointId version timeout patch)
      store).2
  | .resolveBlocker workflowId itemId checkpointId version event =>
    (exec (resolveBlocker workflowId itemId checkpointId version event) store).2
  | .completeItem workflowId itemId substeps =>
    (exec (completeItem workflowId itemId substeps) store).2

def Completed (item : Item) : Prop := queueState? item = some .completed

def Terminal (item : Item) : Prop := ∃ target ∈ terminalStates, queueState? item = some target

def runningIds (items : List Item) : List String :=
  (items.filter (fun item => decide (Running item))).map itemId

/-- The active task of the workflow is the one item of it that runs; without one none runs. -/
def ActiveRuns (row : PersistentWorkflowRow) : Prop :=
  runningIds row.taskBacklog = row.activeTaskId.toList

instance : DecidablePred ActiveRuns := fun row =>
  inferInstanceAs (Decidable (runningIds row.taskBacklog = row.activeTaskId.toList))

/-- The two lists of the workflow are those of its completed and of its unfinished items. -/
structure Listed (row : PersistentWorkflowRow) : Prop where
  completed : ∀ id, id ∈ row.completedTaskIds ↔ ∃ item ∈ row.taskBacklog, itemId item = id ∧ Completed item
  pending : ∀ id, id ∈ row.pendingTaskIds ↔ ∃ item ∈ row.taskBacklog, itemId item = id ∧ ¬ Terminal item
  completedOnce : row.completedTaskIds.Nodup
  pendingOnce : row.pendingTaskIds.Nodup

/-- A completion that returns leaves the lists of its workflow exact. -/
def CompletesListed (store : Store) : QueueOperation → Prop
  | .completeItem workflowId itemId substeps => ∀ result after,
      exec (completeItem workflowId itemId substeps) store = (.ok result, after) →
        ∃ row, after.workflows.get? workflowId = some row ∧ Listed row
  | _ => True

def KeptOnceCompleted (old new : Item) : Prop := Completed old → new = old

/-- What is asked of the states a run goes through. -/
structure Sound (start : Store) (operations : List QueueOperation) : Prop where
  active : ∀ front back, operations = front ++ back →
    ∀ row ∈ (Run.run step start front).workflows.rows, ActiveRuns row
  completed : ∀ front middle back, operations = front ++ (middle ++ back) →
    Backlogs KeptOnceCompleted (Run.run step start front).workflows
      (Run.run step start (front ++ middle)).workflows
  listed : ∀ front operation back, operations = front ++ operation :: back →
    CompletesListed (Run.run step start front) operation

/-- The item of a selection that the block of a dispatch accepts. -/
structure Blockable (store : Store) (workflowId wanted : String) (expectedState : QueueWorkItemState)
    (version : Int) (request : BlockRequest) (row : PersistentWorkflowRow) (item : Item) : Prop where
  present : store.workflows.get? workflowId = some row
  found : findItem row.taskBacklog wanted = .ok item
  blocking : request.blockingState ∈ blockedStates
  expected : expectedState ∈ eligibleStates
  stated : state item = .ok expectedState
  versioned : itemVersion item = .ok version
  readable : canBlock item request = true

/-- No block of a dispatch is made in a workflow in which an item runs. -/
def SparesRunning (store : Store) : QueueOperation → Prop
  | .blockDispatchSelectedItem workflowId itemId expectedState version request =>
    ∀ row item, Blockable store workflowId itemId expectedState version request row item → Idle row
  | _ => True

theorem runningIds_append (front back : List Item) :
    runningIds (front ++ back) = runningIds front ++ runningIds back := by
  unfold runningIds
  rw [List.filter_append, List.map_append]

theorem runningIds_cons (item : Item) (rest : List Item) :
    runningIds (item :: rest) = (if Running item then [itemId item] else []) ++ runningIds rest := by
  unfold runningIds
  by_cases running : Running item
  · simp [running]
  · simp [running]

theorem runningIds_eq_nil (items : List Item) : runningIds items = [] ↔ ∀ item ∈ items, ¬ Running item := by
  unfold runningIds
  rw [List.map_eq_nil_iff, List.filter_eq_nil_iff]
  simp

theorem mem_runningIds {items : List Item} {id : String} (member : id ∈ runningIds items) :
    id ∈ items.map itemId := by
  unfold runningIds at member
  obtain ⟨item, inside, named⟩ := List.mem_map.mp member
  exact List.mem_map.mpr ⟨item, List.mem_of_mem_filter inside, named⟩

theorem idle_iff_runningIds (row : PersistentWorkflowRow) : Idle row ↔ runningIds row.taskBacklog = [] :=
  (runningIds_eq_nil row.taskBacklog).symm

/-- What is written of an item, and of the active task with it. -/
inductive Change (row written : PersistentWorkflowRow) (item new : Item) : Prop where
  | started (idle : Idle row) (running : Running new) (active : written.activeTaskId = some (itemId item))
  | stopped (was : Running item) (rests : ¬ Running new) (cleared : written.activeTaskId = none)
  | edited (was : ¬ Running item) (rests : ¬ Running new)
      (kept : written.activeTaskId = row.activeTaskId)
  | completed (rests : ¬ Running new) (active : written.activeTaskId =
      if row.activeTaskId = some (itemId item) then none else row.activeTaskId)

/-- A backlog in which one item is written over by another. -/
structure Replaced (row written : PersistentWorkflowRow) (item new : Item) (front back : List Item) :
    Prop where
  held : row.taskBacklog = front ++ item :: back
  holds : written.taskBacklog = front ++ new :: back
  named : itemId new = itemId item

theorem alone_of_running {front back : List Item}
    (old : row.taskBacklog = front ++ item :: back) (active : ActiveRuns row) (running : Running item) :
    runningIds front = [] ∧ runningIds back = [] ∧ row.activeTaskId = some (itemId item) := by
  unfold ActiveRuns at active
  rw [old, runningIds_append, runningIds_cons, if_pos running] at active
  cases named : row.activeTaskId with
  | none =>
    rw [named] at active
    simp at active
  | some id =>
    rw [named, Option.toList_some] at active
    have short := congrArg List.length active
    simp only [List.length_append, List.length_singleton] at short
    have before : runningIds front = [] := List.length_eq_zero_iff.mp (by omega)
    have after : runningIds back = [] := List.length_eq_zero_iff.mp (by omega)
    rw [before, after] at active
    simp only [List.nil_append, List.append_nil, List.cons.injEq, and_true] at active
    exact ⟨before, after, by rw [active]⟩

theorem activeRuns_change {front back : List Item} (replaced : Replaced row written item new front back)
    (distinct : (row.taskBacklog.map itemId).Nodup) (active : ActiveRuns row)
    (change : Change row written item new) : ActiveRuns written := by
  have before := active
  unfold ActiveRuns at before ⊢
  rw [replaced.held, runningIds_append, runningIds_cons] at before
  rw [replaced.holds, runningIds_append, runningIds_cons]
  cases change with
  | started idle running now =>
    rw [idle_iff_runningIds, replaced.held, runningIds_append, List.append_eq_nil_iff, runningIds_cons,
      List.append_eq_nil_iff] at idle
    obtain ⟨head, -, tail⟩ := idle
    rw [head, tail, if_pos running, now, replaced.named]
    rfl
  | stopped was rests cleared =>
    obtain ⟨head, tail, -⟩ := alone_of_running replaced.held active was
    rw [head, tail, if_neg rests, cleared]
    rfl
  | edited was rests kept =>
    rw [if_neg was] at before
    rw [if_neg rests, kept, before]
  | completed rests now =>
    rw [if_neg rests, now]
    by_cases was : Running item
    · obtain ⟨head, tail, named⟩ := alone_of_running replaced.held active was
      rw [head, tail, if_pos named]
      rfl
    · rw [if_neg was] at before
      -- the active task would be a second item of the same identifier
      have other : row.activeTaskId ≠ some (itemId item) := by
        intro named
        rw [named, Option.toList_some, List.nil_append] at before
        have listed : itemId item ∈ runningIds front ++ runningIds back := by
          rw [before]
          exact List.mem_singleton_self _
        rw [replaced.held, List.map_append, List.map_cons, List.nodup_middle, List.nodup_cons] at distinct
        apply distinct.1
        rcases List.mem_append.mp listed with head | tail
        · exact List.mem_append_left _ (mem_runningIds head)
        · exact List.mem_append_right _ (mem_runningIds tail)
      rw [if_neg other, before]

theorem QueueWrite.replaced_at {before after : Tables} (write : QueueWrite before after row written item new)
    (named : itemId new = itemId item) : ∃ front back, Replaced row written item new front back := by
  obtain ⟨wanted, found, backlog⟩ := write.replaced
  obtain ⟨front, back, split, -, holds⟩ := findItem_split found
  exact ⟨front, back, split, by rw [backlog, holds], named⟩

theorem stateIfValid_eq (item : Item) :
    stateIfValid item = if item.has "state" then queueState? item else some .ready := by
  unfold stateIfValid queueState?
  by_cases present : item.has "state" = true
  · obtain ⟨raw, held⟩ := Option.isSome_iff_exists.mp present
    rw [if_pos present, Dict.getOr, Dict.get, held, Option.getD_some, Option.getD_some]
    cases raw with
    | null => decide
    | _ => rfl
  · rw [if_neg present, Dict.getOr, Option.not_isSome_iff_eq_none.mp present]
    decide

theorem state_ok (item : Item) (target : QueueWorkItemState) :
    state item = .ok target ↔ stateIfValid item = some target := by
  unfold state stateIfValid
  dsimp only
  split
  · rename_i found known
    rw [known, Except.ok.injEq, Option.some.injEq]
  · rename_i known
    rw [known]
    exact iff_of_false (by simp) (by simp)

theorem queueState_of_stateIfValid (other : target ≠ .ready) :
    stateIfValid item = some target ↔ queueState? item = some target := by
  rw [stateIfValid_eq]
  by_cases present : item.has "state" = true
  · rw [if_pos present]
  · have absent : queueState? item = none := by
      rw [queueState?, Dict.get_of_not_has (by simpa using present)]
      rfl
    rw [if_neg present, absent]
    exact iff_of_false (fun same => other (Option.some.inj same).symm) (by simp)

theorem executionState_ok
    (done : executionState item = .ok target) : queueState? item = some target := by
  unfold executionState at done
  split at done
  · cases done
  · split at done
    · cases done
    · rename_i filled
      split at done
      · rename_i found known
        rw [queueState?, if_neg filled, known]
        exact congrArg some (Except.ok.inj done)
      · cases done

theorem stated_of_state (other : target ≠ .ready)
    (stated : state item = .ok target) : queueState? item = some target :=
  (queueState_of_stateIfValid other).mp ((state_ok item target).mp stated)

theorem not_stated {other : QueueWorkItemState} (stated : state item = .ok target)
    (different : target ≠ other) (known : other ≠ .ready) : queueState? item ≠ some other := by
  intro held
  have valid := (queueState_of_stateIfValid known).mpr held
  rw [(state_ok item target).mp stated] at valid
  exact different (Option.some.inj valid)

theorem blocked_not (blocked : target ∈ blockedStates) :
    target ≠ .running ∧ target ≠ .completed := by
  revert blocked
  cases target <;> decide

theorem eligible_not (eligible : target ∈ eligibleStates) :
    target ≠ .running ∧ target ≠ .completed := by
  revert eligible
  cases target <;> decide

theorem not_running_moved (moved : Moved item new target)
    (other : target ≠ .running) : ¬ Running new := by
  intro running
  exact other (Option.some.inj (moved.stated.symm.trans running))

/-- The effects a call can have on the backlogs. -/
inductive Effect (before : Store) (operation : QueueOperation) (after : Store) : Prop where
  | kept (same : after.workflows = before.workflows)
  | wrote (row written : PersistentWorkflowRow) (item new : Item)
      (write : QueueWrite before.toTables after.toTables row written item new)
      (named : itemId new = itemId item) (unfinished : ¬ Completed item)
      (change : Change row written item new)
  | withdrew (row written : PersistentWorkflowRow) (item new : Item)
      (write : QueueWrite before.toTables after.toTables row written item new)
      (named : itemId new = itemId item) (unfinished : ¬ Completed item) (was : ¬ Running item)
      (rests : ¬ Running new) (cleared : written.activeTaskId = none)
      (spared : SparesRunning before operation → Idle row)

theorem effect_of_ends {α : Type} {action : Op α}
    (raised : Action.OnRaise SameTables action)
    (returned : ∀ result after, exec action store = (.ok result, after) →
      Effect store operation after) : Effect store operation (exec action store).2 := by
  rcases ended : exec action store with ⟨error | result, after⟩
  · have same : SameTables store after := raised store error after ended
    exact .kept (congrArg Tables.workflows same)
  · exact returned result after ended

theorem exec_blockDispatchSelectedItem (present : store.workflows.get? workflowId = some row)
    (found : findItem row.taskBacklog wanted = .ok item) (blocking : request.blockingState ∈ blockedStates)
    (expected : expectedState ∈ eligibleStates) (stated : state item = .ok expectedState)
    (versioned : itemVersion item = .ok version) :
    exec (blockDispatchSelectedItem workflowId wanted expectedState version request) store =
      exec (blockItem row wanted item expectedState request
        "block_dispatch_selected_queue_work_item") store := by
  have looked : exec (workflowRow workflowId) store = (.ok row, store) := by
    rw [exec_workflowRow, present]
    rfl
  unfold blockDispatchSelectedItem requireBlockingState
  rw [if_pos blocking, exec_bind_of_ok (exec_pure _ _),
    if_neg (not_not.mpr expected), exec_bind_of_ok looked, exec_bind_ofExcept found,
    exec_bind_ofExcept stated, if_neg (not_not.mpr rfl), exec_bind_ofExcept versioned,
    if_neg (not_not.mpr rfl)]

theorem blockable_of_made {checkpoint : QueueBlockCheckpoint}
    (done : exec (blockDispatchSelectedItem workflowId wanted expectedState version request)
      store = (.ok checkpoint, after)) (named : row.id = workflowId)
    (write : QueueWrite store.toTables after.toTables row written item new)
    (found : findItem row.taskBacklog wanted = .ok item)
    (blocking : request.blockingState ∈ blockedStates) (expected : expectedState ∈ eligibleStates)
    (stated : state item = .ok expectedState) (versioned : itemVersion item = .ok version) :
    Blockable store workflowId wanted expectedState version request row item := by
  have present : store.workflows.get? workflowId = some row := named ▸ write.present
  refine ⟨present, found, blocking, expected, stated, versioned, ?_⟩
  rw [exec_blockDispatchSelectedItem present found blocking expected stated versioned] at done
  exact Runtime.blockItem_able done

theorem Blockable.made
    (blockable : Blockable store workflowId wanted expectedState version request row item) :
    ∃ checkpoint after, exec (blockDispatchSelectedItem workflowId wanted expectedState version
      request) store = (.ok checkpoint, after) := by
  rw [exec_blockDispatchSelectedItem blockable.present blockable.found blockable.blocking
    blockable.expected blockable.stated blockable.versioned]
  exact Runtime.blockItem_done blockable.versioned blockable.readable store

theorem started_effect (starts : Starts store.toTables after.toTables row written item new) :
    Effect store operation after := by
  refine .wrote row written item new starts.write starts.moved.named ?_
    (.started starts.idle starts.moved.stated starts.active)
  intro completed
  have eligible := starts.eligible
  rw [completed] at eligible
  revert eligible
  decide

theorem step_effect (store : Store) (operation : QueueOperation) :
    Effect store operation (step store operation) := by
  cases operation with
  | startNext workflowId =>
    refine effect_of_ends (startNext_raised _) fun selection after done => ?_
    rcases startNext_writes done with same | ⟨row, written, item, new, -, starts⟩
    · exact .kept (by rw [same])
    · exact started_effect starts
  | startGlobalNext workflowIds =>
    refine effect_of_ends (startGlobalNext_raised _) fun selection after done => ?_
    rcases startGlobalNext_writes done with same | ⟨_, row, written, item, new, starts⟩
    · exact .kept (by rw [same])
    · exact started_effect starts.toStarts
  | blockRunningItem workflowId itemId request =>
    refine effect_of_ends (blockRunningItem_raised _ _ _) fun checkpoint after done => ?_
    obtain ⟨row, written, item, new, -, -, stated, blocks⟩ := blockRunningItem_writes done
    refine .wrote row written item new blocks.write blocks.moved.named ?_ (.stopped ?_ ?_ blocks.released)
    · exact not_stated stated (by decide) (by decide)
    · exact stated_of_state (by decide) stated
    · exact not_running_moved blocks.moved (blocked_not blocks.blocking).1
  | blockDispatchSelectedItem workflowId itemId expectedState version request =>
    refine effect_of_ends (blockDispatchSelectedItem_raised _ _ _ _ _) fun checkpoint after done => ?_
    obtain ⟨row, written, item, new, named, found, expected, stated, versioned, blocks⟩ :=
      blockDispatchSelectedItem_writes done
    refine .withdrew row written item new blocks.write blocks.moved.named ?_ ?_ ?_ blocks.released ?_
    · exact not_stated stated (eligible_not expected).2 (by decide)
    · exact not_stated stated (eligible_not expected).1 (by decide)
    · exact not_running_moved blocks.moved (blocked_not blocks.blocking).1
    · intro spares
      exact spares row item
        (blockable_of_made done named blocks.write found blocks.blocking expected stated versioned)
  | repairBlockedItemConfiguration workflowId itemId checkpointId version timeout patch =>
    refine effect_of_ends (repairBlockedItemConfiguration_raised _ _ _ _ _ _) fun repaired after done => ?_
    obtain ⟨row, written, item, new, -, -, same, -, named, edits⟩ :=
      repairBlockedItemConfiguration_writes done
    obtain ⟨current, blocked, stated⟩ := edits.blocked
    refine .wrote row written item new edits.write named ?_ (.edited ?_ ?_ edits.active)
    · exact not_stated stated (blocked_not blocked).2 (by decide)
    · exact not_stated stated (blocked_not blocked).1 (by decide)
    · intro running
      exact not_stated stated (blocked_not blocked).1 (by decide) (same ▸ running)
  | resolveBlocker workflowId itemId checkpointId version event =>
    refine effect_of_ends (resolveBlocker_raised _ _ _ _ _) fun resolved after done => ?_
    obtain ⟨row, written, item, new, -, -, moved, edits⟩ := resolveBlocker_writes done
    obtain ⟨current, blocked, stated⟩ := edits.blocked
    refine .wrote row written item new edits.write moved.named ?_ (.edited ?_ ?_ edits.active)
    · exact not_stated stated (blocked_not blocked).2 (by decide)
    · exact not_stated stated (blocked_not blocked).1 (by decide)
    · exact not_running_moved moved (by decide)
  | completeItem workflowId itemId substeps =>
    refine effect_of_ends (completeItem_raised _ _ _) fun completed after done => ?_
    obtain ⟨row, written, item, new, -, -, completes⟩ := completeItem_writes done
    refine .wrote row written item new completes.write completes.moved.named ?_ (.completed ?_ completes.active)
    · intro completed
      rcases completes.executed with running | resumed
      · have stated := executionState_ok running
        rw [completed] at stated
        cases stated
      · have stated := executionState_ok resumed
        rw [completed] at stated
        cases stated
    · exact not_running_moved completes.moved (by decide)

theorem nodup_sortedBy {ids : List String} (distinct : ids.Nodup) : (sortedBy id ids).Nodup :=
  (List.perm_insertionSort _ ids).nodup_iff.mpr distinct

theorem terminal_iff (item : Item) :
    Terminal item ↔ ∃ target ∈ terminalStates, stateIfValid item = some target := by
  apply exists_congr
  intro target
  apply and_congr_right
  intro terminal
  have other : target ≠ .ready := by
    rintro rfl
    revert terminal
    decide
  exact (queueState_of_stateIfValid other).symm

theorem listed_of_written
    (completed : row.completedTaskIds = sortedBy id (completedItemIdsForCompletion row.taskBacklog))
    (pending : row.pendingTaskIds = sortedBy id (pendingItemIdsForCompletion row.taskBacklog)) :
    Listed row := by
  constructor
  · intro name
    rw [completed, mem_sortedBy, completedItemIdsForCompletion, List.mem_dedup, List.mem_map]
    apply exists_congr
    intro item
    have stated : stateIfValid item = some .completed ↔ queueState? item = some .completed :=
      queueState_of_stateIfValid (by decide)
    rw [List.mem_filter, decide_eq_true_eq, stated, and_assoc, and_comm (b := itemId item = name)]
    rfl
  · intro name
    rw [pending, mem_sortedBy, pendingItemIdsForCompletion, List.mem_dedup, List.mem_map]
    apply exists_congr
    intro item
    rw [List.mem_filter, and_assoc, and_comm (b := itemId item = name), terminal_iff]
    refine and_congr_right fun _ => and_congr_right fun _ => ?_
    split
    · rename_i unknown
      refine iff_of_true rfl ?_
      rintro ⟨target, -, known⟩
      rw [unknown] at known
      cases known
    · rename_i found known
      rw [known, decide_eq_true_eq]
      constructor
      · rintro other ⟨target, terminal, same⟩
        exact other (Option.some.inj same ▸ terminal)
      · intro none terminal
        exact none ⟨found, terminal, rfl⟩
  · rw [completed]
    exact nodup_sortedBy (List.nodup_dedup _)
  · rw [pending]
    exact nodup_sortedBy (List.nodup_dedup _)

theorem completesListed (store : Store) (operation : QueueOperation) : CompletesListed store operation := by
  cases operation with
  | completeItem workflowId itemId substeps =>
    intro result after done
    obtain ⟨row, written, item, new, named, -, completes⟩ := completeItem_writes done
    refine ⟨written, ?_, listed_of_written completes.completed completes.pending⟩
    have put : after.workflows = store.workflows.put written := congrArg Tables.workflows completes.write.put
    rw [put, ← named]
    exact Table.get?_put_same completes.write.present completes.write.bound.id
  | _ => trivial

/-- Distinct identifiers, and the active task of each workflow is its running item. -/
def Whole (store : Store) : Prop :=
  ∀ row ∈ store.workflows.rows, (row.taskBacklog.map itemId).Nodup ∧ ActiveRuns row

theorem whole_of_put {before : Store}
    (whole : Whole before) (write : QueueWrite before.toTables after.toTables row written item new)
    (named : itemId new = itemId item) (active : ActiveRuns row → ActiveRuns written) : Whole after := by
  have put : after.workflows = before.workflows.put written := congrArg Tables.workflows write.put
  obtain ⟨distinct, held⟩ := whole row (Table.get?_mem write.present)
  intro other member
  rw [put] at member
  rcases Table.mem_put member with same | ⟨untouched, -⟩
  · obtain ⟨front, back, replaced⟩ := QueueWrite.replaced_at write named
    rw [same]
    refine ⟨?_, active held⟩
    rw [replaced.holds, List.map_append, List.map_cons, named, ← List.map_cons (f := itemId),
      ← List.map_append, ← replaced.held]
    exact distinct
  · exact whole other untouched

theorem whole_step (store : Store) (operation : QueueOperation) (whole : Whole store)
    (spares : SparesRunning store operation) : Whole (step store operation) := by
  cases step_effect store operation with
  | kept same =>
    intro row member
    rw [same] at member
    exact whole row member
  | wrote row written item new write named unfinished change =>
    obtain ⟨front, back, replaced⟩ := QueueWrite.replaced_at write named
    have distinct := (whole row (Table.get?_mem write.present)).1
    exact whole_of_put whole write named (fun active => activeRuns_change replaced distinct active change)
  | withdrew row written item new write named unfinished was rests cleared spared =>
    obtain ⟨front, back, replaced⟩ := QueueWrite.replaced_at write named
    have distinct := (whole row (Table.get?_mem write.present)).1
    -- an idle workflow has no active task to lose
    have none : ActiveRuns row → row.activeTaskId = none := by
      intro active
      rw [ActiveRuns, (idle_iff_runningIds row).mp (spared spares)] at active
      exact Option.toList_eq_nil_iff.mp active.symm
    exact whole_of_put whole write named fun active =>
      activeRuns_change replaced distinct active (.edited was rests (cleared.trans (none active).symm))

theorem keptOnceCompleted_refl (item : Item) : KeptOnceCompleted item item := fun _ => rfl

theorem keptOnceCompleted_trans (first second third : Item) (one : KeptOnceCompleted first second)
    (two : KeptOnceCompleted second third) : KeptOnceCompleted first third := by
  intro completed
  have same := one completed
  rw [two (same ▸ completed), same]

theorem completed_step (store : Store) (operation : QueueOperation) :
    Backlogs KeptOnceCompleted store.workflows (step store operation).workflows := by
  cases step_effect store operation with
  | kept same =>
    rw [same]
    exact Runtime.backlogs_refl keptOnceCompleted_refl _
  | wrote row written item new write named unfinished change =>
    exact Runtime.backlogs_itemWrite keptOnceCompleted_refl write.itemWrite
      (fun completed => absurd completed unfinished)
  | withdrew row written item new write named unfinished was rests cleared spared =>
    exact Runtime.backlogs_itemWrite keptOnceCompleted_refl write.itemWrite
      (fun completed => absurd completed unfinished)

theorem completed_run (start : Store) (operations : List QueueOperation) :
    Backlogs KeptOnceCompleted start.workflows (Run.run step start operations).workflows :=
  Run.relation_run step (fun before after => Backlogs KeptOnceCompleted before.workflows after.workflows)
    (fun store => Runtime.backlogs_refl keptOnceCompleted_refl store.workflows)
    (fun _ _ _ => Runtime.backlogs_trans keptOnceCompleted_trans) completed_step start operations

/-- A block of a dispatch that leaves the active task right was made in an idle workflow. -/
theorem spares_of_active (active : ∀ row ∈ (step store operation).workflows.rows, ActiveRuns row) :
    SparesRunning store operation := by
  cases operation with
  | blockDispatchSelectedItem workflowId wanted expectedState version request =>
    intro row item blockable
    obtain ⟨checkpoint, after, done⟩ := blockable.made
    obtain ⟨other, written, found, new, named, known, -, stated, -, blocks⟩ :=
      blockDispatchSelectedItem_writes done
    have write := blocks.write
    obtain ⟨front, back, replaced⟩ := QueueWrite.replaced_at write blocks.moved.named
    have same : other = row := by
      have present : store.workflows.get? workflowId = some other := named ▸ write.present
      exact Option.some.inj (present.symm.trans blockable.present)
    have put : after.workflows = store.workflows.put written := congrArg Tables.workflows write.put
    have member : written ∈ after.workflows.rows := by
      rw [put]
      exact Table.get?_mem (Table.get?_put_same write.present write.bound.id)
    have right : ActiveRuns written := by
      apply active written
      rw [step, done]
      exact member
    have rests : ¬ Running new := not_running_moved blocks.moved (blocked_not blocks.blocking).1
    have was : ¬ Running found := not_stated stated (eligible_not blockable.expected).1 (by decide)
    rw [ActiveRuns, blocks.released, replaced.holds, runningIds_append, runningIds_cons, if_neg rests] at right
    rw [idle_iff_runningIds, ← same, replaced.held, runningIds_append, runningIds_cons, if_neg was]
    exact right
  | _ => trivial

/-- From backlogs of distinct items none of which runs, the queue keeps its active tasks, its
completed items and its lists right exactly when no workflow starts with an active task and no
block of a dispatch is made where an item runs. -/
theorem sound_iff (start : Store) (operations : List QueueOperation)
    (distinct : ∀ row ∈ start.workflows.rows, (row.taskBacklog.map itemId).Nodup)
    (idle : ∀ row ∈ start.workflows.rows, Idle row) :
    Sound start operations ↔ (∀ row ∈ start.workflows.rows, row.activeTaskId = none) ∧
      Run.Meets step SparesRunning start operations := by
  constructor
  · intro sound
    constructor
    · intro row member
      have active := sound.active [] operations rfl row member
      rw [ActiveRuns, (idle_iff_runningIds row).mp (idle row member)] at active
      exact Option.toList_eq_nil_iff.mp active.symm
    · rw [Run.meets_iff_forall]
      intro front operation back split
      apply spares_of_active
      have reached := sound.active (front ++ [operation]) back (by rw [split, List.append_assoc]; rfl)
      rw [Run.run_append] at reached
      exact reached
  · rintro ⟨none, spares⟩
    have whole : Whole start := by
      intro row member
      refine ⟨distinct row member, ?_⟩
      rw [ActiveRuns, (idle_iff_runningIds row).mp (idle row member), none row member]
      rfl
    constructor
    · intro front back split
      rw [split] at spares
      have meets := (Run.meets_append step SparesRunning start front back spares).1
      have reached := Run.invariant_guarded step SparesRunning Whole whole_step start front whole meets
      exact fun row member => (reached row member).2
    · intro front middle back _
      rw [Run.run_append]
      exact completed_run _ middle
    · intro front operation back _
      exact completesListed _ operation

def readyItem (id : String) : Item := [("item_id", .str id), ("state", .str "READY")]

/-- One workflow with two items to start. -/
def twoReadyItems : Store :=
  { workflows := .single {
      id := "LWORK_000001"
      workflowState := .planReady
      taskBacklog := [readyItem "first", readyItem "second"] } }

def refused : BlockRequest :=
  { blockingState := .blockedAuthority
    blockingReason := "LANE_EXCLUDED"
    blockerCategory := "DISPATCH"
    resumeCondition := "Repair the failed dispatch precondition." }

/-- The first item runs while the second is blocked. -/
def blockedBesideRunning : List QueueOperation :=
  [.startNext "LWORK_000001", .blockDispatchSelectedItem "LWORK_000001" "second" .ready 0 refused]

theorem block_clears_active_of_running :
    (∀ row ∈ twoReadyItems.workflows.rows, (row.taskBacklog.map itemId).Nodup ∧ Idle row ∧
        row.activeTaskId = none ∧ ∀ item ∈ row.taskBacklog, (queueState? item).isSome = true) ∧
      (Run.run step twoReadyItems blockedBesideRunning).workflows.rows.map
        (fun row => (row.activeTaskId, runningIds row.taskBacklog)) = [(none, ["first"])] ∧
      ¬ Sound twoReadyItems blockedBesideRunning := by
  refine ⟨by decide, by decide +kernel, ?_⟩
  intro sound
  have broken : ∃ row ∈ (Run.run step twoReadyItems blockedBesideRunning).workflows.rows,
      ¬ ActiveRuns row := by
    decide +kernel
  obtain ⟨row, member, wrong⟩ := broken
  exact wrong (sound.active blockedBesideRunning [] rfl row member)

/-- A start and a completion of its item. -/
theorem sound_start_and_completion :
    Sound twoReadyItems [.startNext "LWORK_000001", .completeItem "LWORK_000001" "first" []] :=
  (sound_iff twoReadyItems _ (by decide) (by decide)).mpr ⟨by decide, trivial, trivial, trivial⟩

end Lucius.Queue.ReachableStates
