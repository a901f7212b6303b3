import Lucius.Queue.Global

/-! What an operation of the queue writes when it succeeds: one item of one
workflow, in its place, and nothing the workflow is bound to. -/

namespace Lucius.Queue

open Lucius.Action

variable {row workflow : PersistentWorkflowRow} {item new result : Item}
  {workflowId wanted checkpointId : String} {α : Type} {store after : Store}
  {rows : List PersistentWorkflowRow} {parsed : List GlobalQueueItem} {selection : GlobalQueueSelection}
  {request : BlockRequest} {checkpoint : QueueBlockCheckpoint} {expected : Int}
  {timeoutSeconds : Option Json} {workflows : Table PersistentWorkflowRow} {workflowIds : List String}

structure SameBinding (old new : PersistentWorkflowRow) : Prop where
  id : new.id = old.id
  projectId : new.projectId = old.projectId
  repositoryId : new.repositoryId = old.repositoryId
  taskId : new.taskId = old.taskId
  planId : new.planId = old.planId
  planFreezeId : new.planFreezeId = old.planFreezeId
  workflowState : new.workflowState = old.workflowState

structure ItemWrite (before after : Tables) (row : PersistentWorkflowRow) (item new : Item) : Prop where
  present : before.workflows.get? row.id = some row
  effect : ∃ wanted written, findItem row.taskBacklog wanted = .ok item ∧ SameBinding row written ∧
    written.taskBacklog = replaceItem row.taskBacklog wanted new ∧
    after = { before with workflows := before.workflows.put written }

/-- An item write, with the row it leaves. -/
structure QueueWrite (before after : Tables) (row written : PersistentWorkflowRow) (item new : Item) :
    Prop where
  present : before.workflows.get? row.id = some row
  bound : SameBinding row written
  replaced : ∃ wanted, findItem row.taskBacklog wanted = .ok item ∧
    written.taskBacklog = replaceItem row.taskBacklog wanted new
  put : after = { before with workflows := before.workflows.put written }

theorem QueueWrite.itemWrite {before after : Tables} {written : PersistentWorkflowRow} (write : QueueWrite before after row written item new) :
    ItemWrite before after row item new := by
  obtain ⟨wanted, found, backlog⟩ := write.replaced
  exact ⟨write.present, wanted, written, found, write.bound, backlog, write.put⟩

/-- The item stays marked with the block it was last marked with. -/
def SameBlock (old new : Item) : Prop :=
  new.get "current_block_checkpoint_id" = old.get "current_block_checkpoint_id"

/-- The item keeps what it depends on. -/
def SameNeeds (old new : Item) : Prop :=
  new.getOr "dependencies" (.arr []) = old.getOr "dependencies" (.arr [])

/-- The queue reads the workflow, and all the item of the identifier depends on is completed. -/
def Cleared (row : PersistentWorkflowRow) (wanted : String) : Prop :=
  ∃ parsed, executionItems row = .ok parsed ∧ ∃ found ∈ parsed, found.itemId = wanted ∧
    globalDependenciesComplete found parsed = true

def Running (item : Item) : Prop := queueState? item = some .running

instance (item : Item) : Decidable (Running item) := inferInstanceAs (Decidable (_ = _))

def Idle (row : PersistentWorkflowRow) : Prop := ∀ item ∈ row.taskBacklog, ¬ Running item

instance (row : PersistentWorkflowRow) : Decidable (Idle row) :=
  inferInstanceAs (Decidable (∀ item ∈ row.taskBacklog, ¬ Running item))

/-- A ready item starts in a workflow where nothing runs. -/
structure Starts (before after : Tables) (row written : PersistentWorkflowRow) (item new : Item) : Prop where
  write : QueueWrite before after row written item new
  moved : Moved item new .running
  idle : Idle row
  eligible : isEligibleState (queueState? item) = true
  active : written.activeTaskId = some (itemId item)
  mark : SameBlock item new
  needs : SameNeeds item new
  cleared : Cleared row (itemId item)

/-- The item of a client's selection starts: the selection carries its version, and nothing runs in
the workflows the queue looks at. -/
structure StartsSelected (selection : GlobalQueueSelection) (workflowIds : List String) (before after : Tables)
    (row written : PersistentWorkflowRow) (item new : Item) : Prop
    extends Starts before after row written item new where
  selected : selection.selectedItemId = some (itemId item)
  executable : row.workflowState ∈ executionEligibleWorkflowStates
  versioned : ∃ version, selection.selectedItemVersion = some version ∧ itemVersion item = .ok version
  others : ∃ rows, globalWorkflows before.workflows workflowIds = .ok rows ∧
    ∀ other ∈ rows, other.workflowState ∈ executionEligibleWorkflowStates → Idle other

/-- An item is blocked and marked with the checkpoint of the block. -/
structure Blocks (request : BlockRequest) (checkpoint : QueueBlockCheckpoint) (before after : Tables)
    (row written : PersistentWorkflowRow) (item new : Item) : Prop where
  write : QueueWrite before after row written item new
  moved : Moved item new request.blockingState
  blocking : request.blockingState ∈ blockedStates
  released : written.activeTaskId = none
  mark : new.get "current_block_checkpoint_id" = .str checkpoint.id
  needs : SameNeeds item new

/-- A blocked item is written for a client that names its block and its version. -/
structure Edits (checkpointId : String) (version : Int) (before after : Tables)
    (row written : PersistentWorkflowRow) (item new : Item) : Prop where
  write : QueueWrite before after row written item new
  names : (item.get "current_block_checkpoint_id").isStr checkpointId = true
  versioned : itemVersion item = .ok version
  blocked : ∃ current ∈ blockedStates, state item = .ok current
  active : written.activeTaskId = row.activeTaskId
  mark : SameBlock item new
  needs : SameNeeds item new

structure Completes (before after : Tables) (row written : PersistentWorkflowRow) (item new : Item) : Prop where
  write : QueueWrite before after row written item new
  moved : Moved item new .completed
  executed : executionState item = .ok .running ∨ executionState item = .ok .readyToResume
  active : written.activeTaskId =
    (if row.activeTaskId = some (itemId item) then none else row.activeTaskId)
  completed : written.completedTaskIds = sortedBy id (completedItemIdsForCompletion written.taskBacklog)
  pending : written.pendingTaskIds = sortedBy id (pendingItemIdsForCompletion written.taskBacklog)
  mark : SameBlock item new
  needs : SameNeeds item new

theorem workflowRow_bind_ok {next : PersistentWorkflowRow → Op α} {result : α}
    (done : exec (workflowRow workflowId >>= next) store = (.ok result, after)) :
    ∃ row, store.workflows.get? row.id = some row ∧ row.id = workflowId ∧
      exec (next row) store = (.ok result, after) := by
  obtain ⟨row, middle, read, later⟩ := bind_ok done
  unfold workflowRow at read
  rw [exec_get_bind] at read
  cases found : store.workflows.get? workflowId with
  | none =>
    rw [found] at read
    cases read
  | some known =>
    rw [found] at read
    cases read
    have named := Table.get?_key found
    exact ⟨row, (congrArg store.workflows.get? named).trans found, named, later⟩

theorem requireExecutable_bind_ok {next : Unit → Op α} {result : α}
    (done : exec (requireExecutable workflow >>= next) store = (.ok result, after)) :
    workflow.workflowState ∈ executionEligibleWorkflowStates ∧
      exec (next ()) store = (.ok result, after) := by
  unfold requireExecutable workflowExecutionExclusionReason at done
  by_cases eligible : workflow.workflowState ∈ executionEligibleWorkflowStates
  · rw [if_pos eligible] at done
    exact ⟨eligible, done⟩
  · rw [if_neg eligible] at done
    cases done

theorem startItem_ok (done : exec (startItem workflow item wanted) store = (.ok row, after)) :
    ∃ new, Moved item new .running ∧ SameBinding workflow row ∧
      row.activeTaskId = some (itemId item) ∧
      row.taskBacklog = replaceItem workflow.taskBacklog wanted new ∧
      after.toTables = { store.toTables with workflows := store.workflows.put row } ∧
      SameBlock item new ∧ SameNeeds item new := by
  unfold startItem at done
  obtain ⟨running, middle, moved, done⟩ := bind_ok done
  obtain ⟨version, versioned, ticked, shape⟩ := setState_ok moved
  rw [exec_bind_of_ok (Op.exec_nowIso middle)] at done
  obtain ⟨generation, _, done⟩ := bind_ofExcept_ok done
  rw [exec_bind_of_ok (Op.exec_utcNow _), exec_bind_of_ok (Op.exec_putWorkflow _ _)] at done
  obtain ⟨same, reached⟩ := ok_pure done
  refine ⟨(running.set "started_at" (.str middle.now.isoformat)).set "run_generation"
    (.int (generation + 1)), ⟨?_, ⟨version, versioned, ?_⟩, ?_⟩, ?_, ?_, ?_, ?_, ?_, ?_⟩
  · simp [shape, queueState?, Json.isNull]
  · simp [shape, itemVersion]
  · simp [shape, itemId]
  · subst same
    exact ⟨rfl, rfl, rfl, rfl, rfl, rfl, rfl⟩
  · rw [same]
    simp [shape, itemId]
  · rw [same]
  · rw [reached, same, ticked]
    rfl
  · simp [SameBlock, shape]
  · simp [SameNeeds, shape]

theorem validateScopedRunning_cases (items : List GlobalQueueItem) :
    validateScopedRunningIdentities items = .ok () ∨
      ∃ error, validateScopedRunningIdentities items = .error error := by
  cases validateScopedRunningIdentities items with
  | error error => exact Or.inr ⟨error, rfl⟩
  | ok => exact Or.inl rfl

theorem idle_of_parsed {reason : Option String} (read : globalItems reason rows = .ok parsed)
    (quiet : ∀ found ∈ parsed, found.queueStatePresent = true → found.state ≠ some .running) :
    ∀ row ∈ rows, Idle row := by
  intro row member item inside running
  obtain ⟨found, known, parse⟩ := (globalItems_ok read).1 row member item inside
  obtain ⟨stated, -, -, -, -, present⟩ := globalItem_ok parse
  apply quiet found known
  · rw [present, running]
    rfl
  · rw [stated]
    exact running

theorem selectNext_ok {selection : QueueSelection}
    {selectedId : String} (done : selectNext workflow = .ok selection)
    (selected : selection.selectedItemId = some selectedId) : Idle workflow := by
  unfold selectNext at done
  rcases read : executionItems workflow with _ | parsed
  · simp [read, bind, Except.bind] at done
  rcases validateScopedRunning_cases (parsed.filter (·.queueStatePresent)) with fine | ⟨error, bad⟩
  · rcases active : (parsed.filter (·.queueStatePresent)).filter
      (fun item => item.state = some .running) with _ | ⟨first, others⟩
    · have quiet := idle_of_parsed read (by
        intro found known present running
        have listed : found ∈ (parsed.filter (·.queueStatePresent)).filter
            (fun item => item.state = some .running) := by
          simp [List.mem_filter, known, present, running]
        rw [active] at listed
        cases listed)
      exact quiet workflow List.mem_cons_self
    · simp only [read, fine, active, bind, Except.bind, pure, Except.pure, Except.ok.injEq] at done
      rw [← done] at selected
      cases selected
  · simp [read, bad, bind, Except.bind] at done

theorem globalDependenciesComplete_mono {item : GlobalQueueItem} {some all : List GlobalQueueItem}
    (among : ∀ found ∈ some, found ∈ all) (complete : globalDependenciesComplete item some = true) :
    globalDependenciesComplete item all = true := by
  unfold globalDependenciesComplete at complete ⊢
  rw [List.all_eq_true] at complete ⊢
  intro dependency wanted
  have listed := of_decide_eq_true (complete dependency wanted)
  obtain ⟨found, member, named⟩ := List.mem_map.mp listed
  obtain ⟨inside, completed⟩ := List.mem_filter.mp member
  apply decide_eq_true
  exact List.mem_map.mpr ⟨found, List.mem_filter.mpr ⟨among found inside, completed⟩, named⟩

theorem selectNext_cleared {selection : QueueSelection}
    {selectedId : String} (done : selectNext workflow = .ok selection)
    (selected : selection.selectedItemId = some selectedId) : Cleared workflow selectedId := by
  unfold selectNext at done
  rcases read : executionItems workflow with _ | parsed
  · simp [read, bind, Except.bind] at done
  rcases validateScopedRunning_cases (parsed.filter (·.queueStatePresent)) with fine | ⟨error, bad⟩
  · simp only [read, fine, bind, Except.bind] at done
    split at done
    · cases done
      cases selected
    · split at done
      · cases done
        cases selected
      · rename_i chosen others ordered
        cases done
        have listed : chosen ∈ sortedBy scopedSelectionKey
            ((parsed.filter (·.schedulable)).filter
              (globalIsEligible · (parsed.filter (·.schedulable)))) := by
          rw [ordered]
          exact List.mem_cons_self
        rw [mem_sortedBy] at listed
        obtain ⟨inside, eligible⟩ := List.mem_filter.mp listed
        have complete := (Bool.and_eq_true_iff.mp eligible).2
        exact ⟨parsed, read, chosen, List.mem_of_mem_filter inside, Option.some.inj selected,
          globalDependenciesComplete_mono (fun _ => List.mem_of_mem_filter) complete⟩
  · simp [read, bad, bind, Except.bind] at done

theorem parsed_state {reason : Option String} {candidate : GlobalQueueItem}
    (read : globalItems reason [workflow] = .ok parsed) (member : candidate ∈ parsed)
    (named : candidate.itemId = wanted) (found : findItem workflow.taskBacklog wanted = .ok item) :
    candidate.state = queueState? item := by
  obtain ⟨-, origin, distinct⟩ := globalItems_ok read
  obtain ⟨row, only, other, inside, parse⟩ := origin candidate member
  obtain rfl : row = workflow := List.mem_singleton.mp only
  obtain ⟨stated, itemNamed, -⟩ := globalItem_ok parse
  obtain ⟨front, back, split, foundNamed, -⟩ := findItem_split found
  have keys : itemId other = itemId item := (itemNamed.symm.trans named).trans foundNamed.symm
  have same : other = item :=
    List.inj_on_of_nodup_map (distinct row only) inside (by simp [split]) keys
  rw [stated, same]

theorem startNext_writes {selection : QueueSelection}
    (done : exec (startNext workflowId) store = (.ok selection, after)) :
    after = store ∨ ∃ row written item new, row.id = workflowId ∧
      Starts store.toTables after.toTables row written item new := by
  unfold startNext at done
  obtain ⟨workflow, present, named, done⟩ := workflowRow_bind_ok done
  obtain ⟨-, done⟩ := requireExecutable_bind_ok done
  obtain ⟨chosen, choice, done⟩ := bind_ofExcept_ok done
  obtain ⟨parsed, parse, done⟩ := bind_ofExcept_ok done
  cases wanted : chosen.selectedItemId with
  | none =>
    simp only [wanted] at done
    split at done
    · cases done
    · exact Or.inl (ok_pure done).2
  | some selectedId =>
    simp only [wanted] at done
    obtain ⟨item, found, done⟩ := bind_ofExcept_ok done
    split at done
    · cases done
    · rename_i selected known
      split at done
      · cases done
      · split at done
        · cases done
        · rename_i eligible
          obtain ⟨row, last, started, done⟩ := bind_ok done
          obtain ⟨new, moved, bound, active, backlog, tables, kept, needs⟩ := startItem_ok started
          obtain ⟨_, _, _, itemNamed, _⟩ := findItem_split found
          obtain ⟨_, final, audited, done⟩ := bind_ok done
          rw [auditWorkflow, Op.exec_record] at audited
          cases audited
          obtain ⟨-, rfl⟩ := ok_pure done
          have stated : selected.state = queueState? item :=
            parsed_state parse (List.mem_of_find?_eq_some known)
              (by simpa using List.find?_some known) found
          refine Or.inr ⟨workflow, row, item, new, named, ⟨present, bound, ⟨selectedId, found, backlog⟩, ?_⟩,
            moved, selectNext_ok choice wanted, ?_, active, kept, needs,
            itemNamed ▸ selectNext_cleared choice wanted⟩
          · rw [Store.record_tables, tables]
          · rw [← stated]
            simpa using eligible

theorem checkpointOf_ok {priorState : QueueWorkItemState}
    (done : exec (checkpointOf workflow wanted item priorState request) store =
      (.ok checkpoint, after)) : after.toTables = store.toTables := by
  unfold checkpointOf at done
  rw [exec_bind_of_ok (Op.exec_nextId _ _)] at done
  obtain ⟨_, _, done⟩ := bind_ofExcept_ok done
  rw [exec_bind_of_ok (Op.exec_utcNow _)] at done
  rw [(ok_pure done).2]
  rfl

theorem withCheckpoint_ok {marked : Item} {blockedAt : String}
    (done : withCheckpoint item checkpoint blockedAt = .ok marked) :
    itemVersion marked = itemVersion item ∧ itemId marked = itemId item ∧
      marked.get "current_block_checkpoint_id" = .str checkpoint.id ∧ SameNeeds item marked := by
  unfold withCheckpoint at done
  rcases listed : (item.getOr "block_checkpoints" (.arr [])).appendTarget with _ | checkpoints
  · simp [listed, bind, Except.bind] at done
  rcases versioned : itemVersion item with _ | version
  · simp [listed, versioned, bind, Except.bind] at done
  rcases noted : completedSubsteps item with _ | substeps
  · simp [listed, versioned, noted, bind, Except.bind] at done
  simp only [listed, versioned, noted, bind, Except.bind, pure, Except.pure, Except.ok.injEq] at done
  subst done
  refine ⟨?_, ?_, ?_, ?_⟩
  · rw [← versioned]
    simp [itemVersion]
  · simp [itemId]
  · simp
  · simp [SameNeeds]

theorem moved_of_setState {marked : Item} {target : QueueWorkItemState}
    (done : exec (setState marked target) store = (.ok new, after))
    (version : itemVersion marked = itemVersion item) (named : itemId marked = itemId item) :
    Moved item new target ∧ after = store.tick ∧ SameBlock marked new ∧ SameNeeds marked new := by
  obtain ⟨found, versioned, ticked, shape⟩ := setState_ok done
  refine ⟨⟨?_, ⟨found, version ▸ versioned, ?_⟩, ?_⟩, ticked, ?_, ?_⟩
  · simp [shape, queueState?, Json.isNull]
  · simp [shape, itemVersion]
  · rw [← named]
    simp [shape, itemId]
  · simp [SameBlock, shape]
  · simp [SameNeeds, shape]

theorem queueWrite_of_put {middle : Store} {written : PersistentWorkflowRow}
    (final : after.toTables = { middle.toTables with workflows := middle.workflows.put written })
    (kept : middle.toTables = store.toTables)
    (present : store.workflows.get? row.id = some row)
    (found : findItem row.taskBacklog wanted = .ok item)
    (bound : SameBinding row written)
    (backlog : written.taskBacklog = replaceItem row.taskBacklog wanted new) :
    QueueWrite store.toTables after.toTables row written item new := by
  refine ⟨present, bound, ⟨wanted, found, backlog⟩, ?_⟩
  rw [final, ← kept]

theorem blockItem_writes {priorState : QueueWorkItemState} {action : String}
    (present : store.workflows.get? workflow.id = some workflow)
    (found : findItem workflow.taskBacklog wanted = .ok item)
    (blocking : request.blockingState ∈ blockedStates)
    (done : exec (blockItem workflow wanted item priorState request action) store =
      (.ok checkpoint, after)) :
    ∃ written new, Blocks request checkpoint store.toTables after.toTables workflow written item new := by
  unfold blockItem at done
  obtain ⟨_, middle, made, done⟩ := bind_ok done
  have kept := checkpointOf_ok made
  rw [exec_bind_of_ok (Op.exec_nowIso _)] at done
  obtain ⟨marked, shape, done⟩ := bind_ofExcept_ok done
  obtain ⟨version, named, mark, needs⟩ := withCheckpoint_ok shape
  obtain ⟨new, reached, changed, done⟩ := bind_ok done
  obtain ⟨moved, ticked, sameBlock, sameNeeds⟩ := moved_of_setState changed version named
  rw [exec_bind_of_ok (Op.exec_utcNow _), exec_bind_of_ok (Op.exec_putWorkflow _ _),
    auditWorkflow, exec_bind_of_ok (Op.exec_record _ _)] at done
  obtain ⟨same, final⟩ := ok_pure done
  exact ⟨_, new, queueWrite_of_put (congrArg Store.toTables final) (by rw [ticked]; exact kept) present
    found ⟨rfl, rfl, rfl, rfl, rfl, rfl, rfl⟩ rfl, moved, blocking, rfl, by rw [sameBlock, mark, same],
    sameNeeds.trans needs⟩

theorem requireBlockingState_bind_ok {target : QueueWorkItemState} {next : Unit → Op α} {result : α}
    (done : exec (requireBlockingState target >>= next) store = (.ok result, after)) :
    target ∈ blockedStates ∧ exec (next ()) store = (.ok result, after) := by
  unfold requireBlockingState at done
  by_cases blocking : target ∈ blockedStates
  · rw [if_pos blocking] at done
    exact ⟨blocking, done⟩
  · rw [if_neg blocking] at done
    cases done

theorem blockRunningItem_writes
    (done : exec (blockRunningItem workflowId wanted request) store = (.ok checkpoint, after)) :
    ∃ row written item new, row.id = workflowId ∧ itemId item = wanted ∧ state item = .ok .running ∧
      Blocks request checkpoint store.toTables after.toTables row written item new := by
  unfold blockRunningItem at done
  obtain ⟨blocking, done⟩ := requireBlockingState_bind_ok done
  obtain ⟨row, present, named, done⟩ := workflowRow_bind_ok done
  obtain ⟨item, found, done⟩ := bind_ofExcept_ok done
  obtain ⟨prior, stated, done⟩ := bind_ofExcept_ok done
  split at done
  · cases done
  · rename_i running
    obtain ⟨_, _, _, itemNamed, _⟩ := findItem_split found
    obtain ⟨written, new, blocks⟩ := blockItem_writes present found blocking done
    have same : prior = .running := by simpa using running
    exact ⟨row, written, item, new, named, itemNamed, same ▸ stated, blocks⟩

theorem blockDispatchSelectedItem_writes
    {expectedState : QueueWorkItemState} {expectedItemVersion : Int}
    (done : exec (blockDispatchSelectedItem workflowId wanted expectedState
      expectedItemVersion request) store = (.ok checkpoint, after)) :
    ∃ row written item new, row.id = workflowId ∧ findItem row.taskBacklog wanted = .ok item ∧
      expectedState ∈ eligibleStates ∧ state item = .ok expectedState ∧
      itemVersion item = .ok expectedItemVersion ∧
      Blocks request checkpoint store.toTables after.toTables row written item new := by
  unfold blockDispatchSelectedItem at done
  obtain ⟨blocking, done⟩ := requireBlockingState_bind_ok done
  split at done
  · cases done
  · rename_i eligible
    obtain ⟨row, present, named, done⟩ := workflowRow_bind_ok done
    obtain ⟨item, found, done⟩ := bind_ofExcept_ok done
    obtain ⟨prior, stated, done⟩ := bind_ofExcept_ok done
    split at done
    · cases done
    · rename_i agrees
      obtain ⟨version, versioned, done⟩ := bind_ofExcept_ok done
      split at done
      · cases done
      · rename_i expected
        obtain ⟨written, new, blocks⟩ := blockItem_writes present found blocking done
        have sameState : prior = expectedState := by simpa using agrees
        have sameVersion : version = expectedItemVersion := by simpa using expected
        exact ⟨row, written, item, new, named, found, by simpa using eligible, sameState ▸ stated,
          sameVersion ▸ versioned, blocks⟩

theorem requireCurrentBlock_ok {verb : String}
    (done : requireCurrentBlock item checkpointId expected verb = .ok ()) :
    (item.get "current_block_checkpoint_id").isStr checkpointId = true ∧
      itemVersion item = .ok expected ∧ ∃ current ∈ blockedStates, state item = .ok current := by
  unfold requireCurrentBlock at done
  split at done
  · cases done
  · rename_i checkpoint
    rcases versioned : itemVersion item with _ | version
    · simp [versioned, bind, Except.bind] at done
    · simp only [versioned, bind, Except.bind] at done
      split at done
      · cases done
      · rename_i same
        have equal : version = expected := by simpa using same
        rcases stated : state item with _ | current
        · simp [stated] at done
        · simp only [stated] at done
          split at done
          · rename_i blocked
            exact ⟨by simpa using checkpoint, by rw [equal], current, blocked, rfl⟩
          · cases done

theorem resolveBlocker_writes {event : String}
    (done : exec (resolveBlocker workflowId wanted checkpointId expected event) store =
      (.ok result, after)) :
    ∃ row written item new, row.id = workflowId ∧ itemId item = wanted ∧ Moved item new .readyToResume ∧
      Edits checkpointId expected store.toTables after.toTables row written item new := by
  unfold resolveBlocker at done
  obtain ⟨row, present, named, done⟩ := workflowRow_bind_ok done
  obtain ⟨item, found, done⟩ := bind_ofExcept_ok done
  obtain ⟨_, current, done⟩ := bind_ofExcept_ok done
  obtain ⟨checkpoint, versioned, blocked⟩ := requireCurrentBlock_ok current
  rw [exec_bind_of_ok (Op.exec_nowIso _)] at done
  obtain ⟨new, reached, changed, done⟩ := bind_ok done
  have version : itemVersion ((item.set "resolution_event" (.str event)).set "resolved_at"
      (.str store.now.isoformat)) = itemVersion item := by
    simp [itemVersion]
  obtain ⟨moved, ticked, sameBlock, sameNeeds⟩ := moved_of_setState changed version (by simp [itemId])
  rw [exec_bind_of_ok (Op.exec_utcNow _), exec_bind_of_ok (Op.exec_putWorkflow _ _),
    auditWorkflow, exec_bind_of_ok (Op.exec_record _ _)] at done
  have final := (ok_pure done).2
  obtain ⟨_, _, _, itemNamed, _⟩ := findItem_split found
  exact ⟨row, _, item, new, named, itemNamed, moved,
    queueWrite_of_put (congrArg Store.toTables final) (by rw [ticked]; rfl) present found
      ⟨rfl, rfl, rfl, rfl, rfl, rfl, rfl⟩ rfl, checkpoint, versioned, blocked, rfl,
    sameBlock.trans (by simp), sameNeeds.trans (by simp)⟩

theorem repairTimeout_ok {timed : Item}
    (done : repairTimeout item timeoutSeconds = .ok timed) :
    itemVersion timed = itemVersion item ∧ itemId timed = itemId item ∧
      queueState? timed = queueState? item ∧ SameBlock item timed ∧ SameNeeds item timed := by
  unfold repairTimeout at done
  split at done
  · cases done
    exact ⟨rfl, rfl, rfl, rfl, rfl⟩
  · split at done
    · cases done
      exact ⟨by simp [itemVersion], by simp [itemId], by simp [queueState?], by simp [SameBlock],
        by simp [SameNeeds]⟩
    · cases done
  · cases done

theorem repairBlockedItemConfiguration_writes {patch : Dict}
    (done : exec (repairBlockedItemConfiguration workflowId wanted checkpointId expected
      timeoutSeconds patch) store = (.ok result, after)) :
    ∃ row written item new, row.id = workflowId ∧ itemId item = wanted ∧
      queueState? new = queueState? item ∧ itemVersion new = .ok (expected + 1) ∧
      itemId new = itemId item ∧
      Edits checkpointId expected store.toTables after.toTables row written item new := by
  unfold repairBlockedItemConfiguration at done
  obtain ⟨row, present, named, done⟩ := workflowRow_bind_ok done
  obtain ⟨item, found, done⟩ := bind_ofExcept_ok done
  obtain ⟨_, current, done⟩ := bind_ofExcept_ok done
  obtain ⟨checkpoint, versioned, blocked⟩ := requireCurrentBlock_ok current
  obtain ⟨timed, repaired, done⟩ := bind_ofExcept_ok done
  obtain ⟨version, itemNamed, stated, sameBlock, sameNeeds⟩ := repairTimeout_ok repaired
  obtain ⟨_, _, done⟩ := bind_ofExcept_ok done
  obtain ⟨limits, _, done⟩ := bind_ofExcept_ok done
  obtain ⟨previous, read, done⟩ := bind_ofExcept_ok done
  have same : previous = expected := by
    rw [version, versioned] at read
    exact (Except.ok.inj read).symm
  rw [exec_bind_of_ok (Op.exec_nowIso _), exec_bind_of_ok (Op.exec_utcNow _),
    exec_bind_of_ok (Op.exec_putWorkflow _ _), auditWorkflow,
    exec_bind_of_ok (Op.exec_record _ _)] at done
  have final := (ok_pure done).2
  obtain ⟨_, _, _, wantedNamed, _⟩ := findItem_split found
  refine ⟨row, _, item, _, named, wantedNamed, ?_, ?_, ?_,
    queueWrite_of_put (congrArg Store.toTables final) rfl present found
      ⟨rfl, rfl, rfl, rfl, rfl, rfl, rfl⟩ rfl, checkpoint, versioned, blocked, rfl, ?_, ?_⟩
  · rw [← stated]
    simp [queueState?]
  · simp [itemVersion, same]
  · rw [← itemNamed]
    simp [itemId]
  · rw [SameBlock, ← sameBlock]
    simp
  · rw [SameNeeds, ← sameNeeds]
    simp

theorem completeItem_writes {substeps : List String}
    (done : exec (completeItem workflowId wanted substeps) store = (.ok result, after)) :
    ∃ row written item new, row.id = workflowId ∧ itemId item = wanted ∧
      Completes store.toTables after.toTables row written item new := by
  unfold completeItem at done
  obtain ⟨row, present, named, done⟩ := workflowRow_bind_ok done
  obtain ⟨-, done⟩ := requireExecutable_bind_ok done
  obtain ⟨item, found, done⟩ := bind_ofExcept_ok done
  obtain ⟨current, stated, done⟩ := bind_ofExcept_ok done
  split at done
  · cases done
  · rename_i executable
    obtain ⟨existing, _, done⟩ := bind_ofExcept_ok done
    rw [exec_bind_of_ok (Op.exec_nowIso _)] at done
    obtain ⟨new, reached, changed, done⟩ := bind_ok done
    have version : itemVersion ((item.set "completed_substeps"
        (.arr (mergeSubsteps existing substeps))).set "completed_at"
        (.str store.now.isoformat)) = itemVersion item := by
      simp [itemVersion]
    obtain ⟨moved, ticked, sameBlock, sameNeeds⟩ := moved_of_setState changed version (by simp [itemId])
    rw [exec_bind_of_ok (Op.exec_utcNow _), exec_bind_of_ok (Op.exec_putWorkflow _ _),
      auditWorkflow, exec_bind_of_ok (Op.exec_record _ _)] at done
    have final := (ok_pure done).2
    obtain ⟨_, _, _, wantedNamed, _⟩ := findItem_split found
    refine ⟨row, _, item, new, named, wantedNamed,
      queueWrite_of_put (congrArg Store.toTables final) (by rw [ticked]; rfl) present found
        ⟨rfl, rfl, rfl, rfl, rfl, rfl, rfl⟩ rfl, moved, ?_, by rw [wantedNamed], rfl, rfl,
        sameBlock.trans (by simp), sameNeeds.trans (by simp)⟩
    have among : current = .running ∨ current = .readyToResume := by
      simpa using not_not.mp executable
    rcases among with rfl | rfl
    · exact Or.inl stated
    · exact Or.inr stated

theorem globalWorkflows_all (read : globalWorkflows workflows [] = .ok rows) (member : row ∈ workflows.rows) (busy : row.taskBacklog ≠ []) :
    row ∈ rows := by
  simp only [globalWorkflows, List.isEmpty_nil, if_true, bind, Except.bind, pure, Except.pure,
    Except.ok.injEq] at read
  subst read
  rw [List.mem_filter]
  exact ⟨(mem_sortedBy _ _ _).mpr member, by simpa using busy⟩

theorem globalWorkflows_known (read : globalWorkflows workflows workflowIds = .ok rows) (member : row ∈ rows) : row ∈ workflows.rows := by
  unfold globalWorkflows at read
  split at read
  · simp only [bind, Except.bind, pure, Except.pure, Except.ok.injEq] at read
    subst read
    exact (mem_sortedBy _ _ _).mp (List.mem_of_mem_filter member)
  · rcases named : workflowIds.mapM (lookupWorkflow workflows) with _ | found
    · simp [named, bind, Except.bind] at read
    · simp only [named, bind, Except.bind, pure, Except.pure, Except.ok.injEq] at read
      subst read
      obtain ⟨workflowId, _, known⟩ := forall₂_right (mapM_ok named) (List.mem_of_mem_filter member)
      unfold lookupWorkflow at known
      split at known
      · rename_i present
        exact (Except.ok.inj known) ▸ Table.get?_mem present
      · cases known

/-- What a global selection that names an item says of the items it was made over. -/
structure Chosen (workflows : Table PersistentWorkflowRow) (workflowIds : List String)
    (selection : GlobalQueueSelection) : Prop where
  idle : ∃ rows, globalWorkflows workflows workflowIds = .ok rows ∧
    ∀ row ∈ rows, row.workflowState ∈ executionEligibleWorkflowStates → Idle row
  origin : ∃ row ∈ workflows.rows, ∃ item ∈ row.taskBacklog, ∃ version,
    selection.selectedWorkflowId = some row.id ∧ selection.selectedItemId = some (itemId item) ∧
      selection.selectedItemVersion = some version ∧ itemVersion item = .ok version ∧
      (row.taskBacklog.map itemId).Nodup

/-- The entry a global selection names, none of the entries beside it running. -/
structure First (workflows : Table PersistentWorkflowRow) (workflowIds : List String)
    (selection : GlobalQueueSelection) (rows : List PersistentWorkflowRow)
    (parsed : List GlobalQueueItem) (chosen : GlobalQueueItem) : Prop where
  listed : globalWorkflows workflows workflowIds = .ok rows
  read : globalItems none (schedulableWorkflows rows) = .ok parsed
  quiet : ∀ found ∈ parsed, found.queueStatePresent = true → found.state ≠ some .running
  known : chosen ∈ parsed
  projectId : selection.selectedProjectId = chosen.projectId
  workflowId : selection.selectedWorkflowId = some chosen.workflowId
  itemId : selection.selectedItemId = some chosen.itemId
  version : selection.selectedItemVersion = some chosen.version

theorem selectGlobalNext_first (done : selectGlobalNext workflows workflowIds = .ok selection)
    (selected : selection.selectedWorkflowId = some workflowId) :
    ∃ rows parsed chosen, First workflows workflowIds selection rows parsed chosen := by
  unfold selectGlobalNext at done
  rcases listed : globalWorkflows workflows workflowIds with _ | rows
  · simp [listed, bind, Except.bind] at done
  rcases left : lifecycleExclusions rows with _ | exclusions
  · simp [listed, left, bind, Except.bind] at done
  rcases read : globalItems none (schedulableWorkflows rows) with _ | parsed
  · simp [listed, left, read, bind, Except.bind] at done
  rcases checked : validateGlobalRunningIdentities (parsed.filter (·.queueStatePresent)) with _ | _
  · simp [listed, left, read, checked, bind, Except.bind] at done
  rcases active : (parsed.filter (·.queueStatePresent)).filter
      (fun item => item.state = some .running) with _ | ⟨first, others⟩
  · simp only [listed, left, read, checked, active, bind, Except.bind] at done
    split at done
    · cases done
      cases selected
    · rename_i chosen others ordered
      cases done
      have listedFirst : chosen ∈ sortedBy globalSelectionKey
          ((parsed.filter (·.schedulable)).filter
            (globalIsEligible · (parsed.filter (·.schedulable)))) := by
        rw [ordered]
        exact List.mem_cons_self
      rw [mem_sortedBy] at listedFirst
      refine ⟨rows, parsed, chosen, listed, read, ?_,
        List.mem_of_mem_filter (List.mem_of_mem_filter listedFirst), rfl, rfl, rfl, rfl⟩
      intro found known present running
      have inside : found ∈ (parsed.filter (·.queueStatePresent)).filter
          (fun item => item.state = some .running) := by
        simp [List.mem_filter, known, present, running]
      rw [active] at inside
      cases inside
  · simp only [listed, left, read, checked, active, bind, Except.bind, pure, Except.pure,
      Except.ok.injEq] at done
    rw [← done] at selected
    cases selected

theorem selectGlobalNext_ok (done : selectGlobalNext workflows workflowIds = .ok selection)
    (selected : selection.selectedWorkflowId = some workflowId) :
    Chosen workflows workflowIds selection := by
  obtain ⟨rows, parsed, chosen, first⟩ := selectGlobalNext_first done selected
  refine ⟨⟨rows, first.listed, ?_⟩, ?_⟩
  · intro row member eligible
    apply idle_of_parsed first.read first.quiet row
    rw [schedulableWorkflows, List.mem_filter]
    exact ⟨member, by simp [workflowExecutionExclusionReason, eligible]⟩
  · obtain ⟨-, origin, distinct⟩ := globalItems_ok first.read
    obtain ⟨row, member, item, inside, parse⟩ := origin chosen first.known
    obtain ⟨-, itemNamed, rowNamed, -, versioned, -⟩ := globalItem_ok parse
    refine ⟨row, globalWorkflows_known first.listed (List.mem_of_mem_filter member), item, inside,
      chosen.version, ?_, ?_, first.version, versioned, distinct row member⟩
    · rw [first.workflowId, rowNamed]
    · rw [first.itemId, itemNamed]

theorem validateGlobalStart_ok {current : GlobalQueueSelection} {selected : GlobalQueueItem}
    (done : validateGlobalStart workflow parsed current selection = .ok (item, selected)) :
    findItem workflow.taskBacklog (selection.selectedItemId.getD "") = .ok item ∧
      (∀ found ∈ parsed, found.queueStatePresent = true → found.state ≠ some .running) ∧
      (globalItems none [workflow] = .ok parsed → isEligibleState (queueState? item) = true) ∧
      (globalItems none [workflow] = .ok parsed → Cleared workflow (itemId item)) := by
  unfold validateGlobalStart at done
  rcases checked : validateGlobalRunningIdentities (parsed.filter (·.queueStatePresent)) with _ | _
  · simp [checked, bind, Except.bind] at done
  simp only [checked, bind, Except.bind] at done
  split at done
  · cases done
  rename_i quiet
  rcases found : findItem workflow.taskBacklog (selection.selectedItemId.getD "") with _ | known
  · simp [found] at done
  simp only [found] at done
  split at done
  · cases done
  rename_i listed
  split at done
  · cases done
  split at done
  · cases done
  rename_i eligible
  split at done
  · cases done
  rename_i complete
  repeat' split at done
  all_goals cases done
  have wanted : some selected.itemId = selection.selectedItemId := by
    simpa using List.find?_some listed
  refine ⟨rfl, ?_, ?_, ?_⟩
  · intro other member _ running
    exact quiet (List.any_eq_true.mpr ⟨other, member, by simpa using running⟩)
  · intro parse
    have stated := parsed_state parse (List.mem_of_find?_eq_some listed) rfl
      (by rw [← wanted] at found; exact found)
    rw [← stated]
    simpa using eligible
  · intro parse
    obtain ⟨_, _, _, itemNamed, _⟩ := findItem_split found
    rw [← wanted] at itemNamed
    exact ⟨parsed, parse, selected, List.mem_of_find?_eq_some listed, itemNamed.symm,
      by simpa using complete⟩

/-- A client's selection is accepted only as the selection the queue would make
now, so the version it carries is the version of the item it starts. -/
theorem startGlobalSelection_writes {result : GlobalQueueSelection}
    (wanted : selection.selectedWorkflowId = some workflowId)
    (done : exec (startGlobalSelection selection workflowIds) store = (.ok result, after)) :
    ∃ row written item new, row.id = workflowId ∧
      StartsSelected selection workflowIds store.toTables after.toTables row written item new := by
  unfold startGlobalSelection at done
  obtain ⟨row, present, named, done⟩ := workflowRow_bind_ok done
  split at done
  · cases done
  split at done
  · cases done
  rename_i executable
  have eligible : row.workflowState ∈ executionEligibleWorkflowStates := by
    unfold workflowExecutionExclusionReason at executable
    split at executable
    · assumption
    · exact absurd rfl executable
  rw [exec_get_bind] at done
  obtain ⟨current, choice, done⟩ := bind_ofExcept_ok done
  split at done
  · cases done
  rename_i agrees
  have same : sameSelection current selection = true := by simpa using agrees
  simp only [sameSelection, Bool.and_eq_true, decide_eq_true_eq] at same
  obtain ⟨⟨⟨-, sameWorkflow⟩, sameItem⟩, sameVersion⟩ := same
  obtain ⟨parsed, parse, done⟩ := bind_ofExcept_ok done
  obtain ⟨⟨item, selected⟩, valid, done⟩ := bind_ofExcept_ok done
  obtain ⟨found, quiet, startable, ready⟩ := validateGlobalStart_ok valid
  obtain ⟨previous, _, done⟩ := bind_ofExcept_ok done
  obtain ⟨written, last, started, done⟩ := bind_ok done
  obtain ⟨new, moved, bound, active, backlog, tables, kept, needs⟩ := startItem_ok started
  split at done
  · cases done
  rename_i identity
  rw [auditWorkflow, exec_bind_of_ok (Op.exec_record _ _)] at done
  have final := (ok_pure done).2
  obtain ⟨-, -, itemWanted⟩ : selection.selectedProjectId = row.projectId ∧
      selection.selectedWorkflowId = some row.id ∧
      selection.selectedItemId = some (itemId item) := by
    simpa only [not_or, not_not] using identity
  obtain ⟨idle, origin⟩ := selectGlobalNext_ok choice (sameWorkflow.trans wanted)
  obtain ⟨other, member, chosen, inside, version, otherNamed, chosenNamed, versionNamed, versioned,
    distinct⟩ := origin
  have rowNamed : row.id = workflowId := by
    rw [named, wanted]
    rfl
  have sameRow : other = row := by
    have keys : other.id = row.id := by
      rw [sameWorkflow, wanted] at otherNamed
      exact (Option.some.inj otherNamed).symm.trans rowNamed.symm
    exact Table.row_unique member (Table.get?_mem present) keys
  subst sameRow
  have sameChosen : chosen = item := by
    have keys : itemId chosen = itemId item := by
      rw [sameItem, itemWanted] at chosenNamed
      exact (Option.some.inj chosenNamed).symm
    obtain ⟨front, back, split, -, -⟩ := findItem_split found
    exact List.inj_on_of_nodup_map distinct inside (by simp [split]) keys
  subst sameChosen
  refine ⟨other, written, chosen, new, rowNamed, ⟨⟨present, bound, ⟨_, found, backlog⟩, ?_⟩, moved, ?_, ?_,
    active, kept, needs, ready parse⟩, itemWanted, eligible,
    ⟨version, sameVersion ▸ versionNamed, versioned⟩, idle⟩
  · rw [final, Store.record_tables, tables]
  · exact idle_of_parsed parse quiet other List.mem_cons_self
  · exact startable parse

theorem startSelectedGlobalItem_writes {result : GlobalQueueSelection}
    (done : exec (startSelectedGlobalItem selection workflowIds) store = (.ok result, after)) :
    after = store ∨ ∃ row written item new, selection.selectedWorkflowId = some row.id ∧
      StartsSelected selection workflowIds store.toTables after.toTables row written item new := by
  unfold startSelectedGlobalItem at done
  cases wanted : selection.selectedWorkflowId with
  | none =>
    rw [wanted] at done
    exact Or.inl (ok_pure done).2
  | some workflowId =>
    rw [wanted] at done
    obtain ⟨row, written, item, new, named, starts⟩ := startGlobalSelection_writes wanted done
    exact Or.inr ⟨row, written, item, new, by rw [named], starts⟩

theorem startGlobalNext_writes {result : GlobalQueueSelection}
    (done : exec (startGlobalNext workflowIds) store = (.ok result, after)) :
    after = store ∨ ∃ selection row written item new,
      StartsSelected selection workflowIds store.toTables after.toTables row written item new := by
  unfold startGlobalNext at done
  rw [exec_get_bind] at done
  obtain ⟨selection, -, done⟩ := bind_ofExcept_ok done
  rcases startSelectedGlobalItem_writes done with unchanged | ⟨row, written, item, new, -, starts⟩
  · exact Or.inl unchanged
  · exact Or.inr ⟨selection, row, written, item, new, starts⟩

end Lucius.Queue
