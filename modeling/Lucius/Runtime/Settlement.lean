import Lucius.Runtime.FaultIsolation
import Lucius.Runtime.LoopSteps

/-! What a run of the loop leaves of the items it has started. -/

namespace Lucius.Runtime

open Lucius.Action Queue Router

variable {after : Store} {wanted action : String} {new : Item} {workflow : PersistentWorkflowRow}
  {priorState : QueueWorkItemState} {request : BlockRequest} {items : List Item}

def InScope (workflowIds : List String) (workflowId : String) : Prop :=
  workflowIds = [] ∨ workflowId ∈ workflowIds

instance (workflowIds : List String) (workflowId : String) :
    Decidable (InScope workflowIds workflowId) := inferInstanceAs (Decidable (_ ∨ _))

/-- Every workflow in scope meets the property. -/
def EachInScope (property : PersistentWorkflowRow → Prop) (workflowIds : List String)
    (tables : Tables) : Prop :=
  ∀ row ∈ tables.workflows.rows, InScope workflowIds row.id → property row

instance (property : PersistentWorkflowRow → Prop) [DecidablePred property]
    (workflowIds : List String) (tables : Tables) :
    Decidable (EachInScope property workflowIds tables) :=
  inferInstanceAs (Decidable (∀ row ∈ tables.workflows.rows, InScope workflowIds row.id →
    property row))

/-- No item runs and none is named as the active one. -/
def AtRest (row : PersistentWorkflowRow) : Prop := Idle row ∧ row.activeTaskId = none

instance : DecidablePred AtRest := fun row =>
  inferInstanceAs (Decidable (Idle row ∧ row.activeTaskId = none))

/-- What a block reads of its item can be read. -/
def canBlock (item : Item) (request : BlockRequest) : Bool :=
  (item.getOr "block_checkpoints" (.arr [])).appendTarget.isOk && (completedSubsteps item).isOk &&
    (workCompletedOf item request).isOk

/-- An item the loop has started, in the state after its start. -/
structure Start where
  selection : DispatchSelection
  candidate : DispatchCandidate
  state : LoopState

/-- How the router's part ends, with its exceptions made a failed result. -/
def failClosed : Except PyExc ExecutionAdapterResult → ExecutionAdapterResult
  | .ok result => result
  | .error _ => routerException

/-- What the loop reads of a started item, and what its block or its completion reads, can be
read. -/
def settles (service : ExecutionRuntimeLoopService) (start : Start) : Bool :=
  match executionContext start.state.store.toTables start.candidate.workflowId
    start.candidate.itemId with
  | .error _ => false
  | .ok context =>
    (if isResumed start.selection then blockedInterval service.fromisoformat context.queueItem
      else .ok ()).isOk &&
    match preDispatchReleaseError start.state.store context with
    | .error _ => false
    | .ok (some reason) => canBlock context.queueItem (releaseBlock reason)
    | .ok none =>
      let outcome :=
        failClosed (routed (service.router context.worktreePath) context start.state).1
      if outcome.outcome = .completed then (completedSubsteps context.queueItem).isOk
      else canBlock context.queueItem (nonCompletionBlock outcome)

/-- The items the cycles start, each in the state after its start. -/
def starts (service : ExecutionRuntimeLoopService) (config : RuntimeLoopConfig) :
    Nat → LoopState → List Start
  | 0, _ => []
  | remaining + 1, state =>
    match exec (onStore (startNext config.workflowIds)) state with
    | (.error _, _) => []
    | (.ok selection, started) =>
      match selection.selected with
      | none => []
      | some candidate =>
        ⟨selection, candidate, started⟩ ::
          match exec (executeSelected service config selection candidate) started with
          | (.ok .goOn, next) => starts service config remaining next
          | _ => []

/-- The state in which the loop of a run begins, where the plans of its workflows can be
prepared. -/
def loopStart (service : ExecutionRuntimeLoopService) (config : RuntimeLoopConfig)
    (state : LoopState) : Option LoopState :=
  if config.dispatcherCount ≠ 1 then none
  else
    match exec (prepareWorkflowPlans service.planning config.workflowIds) state.store with
    | (.error _, _) => none
    | (.ok references, store) =>
      some { state with store := store, result := { planReferences := references } }

def runStarts (service : ExecutionRuntimeLoopService) (config : RuntimeLoopConfig)
    (state : LoopState) : List Start :=
  match loopStart service config state with
  | none => []
  | some begun => starts service config config.maxTasks begun

/-- A workflow with a running item: the first of its items under that identifier, which is named
as the active one. -/
structure Started (store : Store) (row : PersistentWorkflowRow) (item : Item) : Prop where
  present : store.workflows.get? row.id = some row
  found : findItem row.taskBacklog (itemId item) = .ok item
  running : Running item
  stated : Queue.state item = .ok .running
  executable : Queue.executionState item = .ok .running
  version : ∃ version, itemVersion item = .ok version
  eligible : row.workflowState ∈ Queue.executionEligibleWorkflowStates
  active : row.activeTaskId = some (itemId item)

/-- A write that takes a workflow to rest, but for its other items. -/
structure SettledWrite (before after : Tables) (row : PersistentWorkflowRow) (wanted : String) :
    Prop where
  written : ∃ written new, after = { before with workflows := before.workflows.put written } ∧
    written.id = row.id ∧ written.activeTaskId = none ∧
    written.taskBacklog = replaceItem row.taskBacklog wanted new ∧ ¬ Running new

theorem settledWrite_of_put {store middle : Store} {row written : PersistentWorkflowRow}
    (final : after.toTables = { middle.toTables with workflows := middle.workflows.put written })
    (kept : middle.toTables = store.toTables) (named : written.id = row.id)
    (cleared : written.activeTaskId = none)
    (backlog : written.taskBacklog = replaceItem row.taskBacklog wanted new) (rests : ¬ Running new) :
    SettledWrite store.toTables after.toTables row wanted := by
  refine ⟨written, new, ?_, named, cleared, backlog, rests⟩
  rw [final, ← kept]

theorem not_running_of_blocked {item : Item} {target : QueueWorkItemState}
    (stated : Queue.queueState? item = some target) (blocked : target ∈ Queue.blockedStates) :
    ¬ Running item := by
  intro running
  have same : target = .running := Option.some.inj (stated.symm.trans running)
  rw [same] at blocked
  revert blocked
  decide

theorem blockItem_settles {item : Item} {checkpoint : QueueBlockCheckpoint}
    {store : Store} (blocking : request.blockingState ∈ Queue.blockedStates)
    (done : exec (Queue.blockItem workflow wanted item priorState request action) store =
      (.ok checkpoint, after)) :
    SettledWrite store.toTables after.toTables workflow wanted := by
  unfold Queue.blockItem at done
  obtain ⟨_, middle, made, done⟩ := bind_ok done
  have kept : middle.toTables = store.toTables := Queue.checkpointOf_ok made
  rw [exec_bind_of_ok (Op.exec_nowIso _)] at done
  obtain ⟨marked, shape, done⟩ := bind_ofExcept_ok done
  obtain ⟨version, named, -⟩ := Queue.withCheckpoint_ok shape
  obtain ⟨new, reached, changed, done⟩ := bind_ok done
  obtain ⟨moved, ticked, -⟩ := Queue.moved_of_setState changed version named
  rw [exec_bind_of_ok (Op.exec_utcNow _), exec_bind_of_ok (Op.exec_putWorkflow _ _),
    Queue.auditWorkflow, exec_bind_of_ok (Op.exec_record _ _)] at done
  have final := (ok_pure done).2
  exact settledWrite_of_put (congrArg Store.toTables final) (by rw [ticked]; exact kept) rfl rfl rfl
    (not_running_of_blocked moved.stated blocking)

theorem blockItem_done {item : Item} {version : Int}
    (versioned : itemVersion item = .ok version) (able : canBlock item request = true)
    (store : Store) : ∃ checkpoint after,
      exec (Queue.blockItem workflow wanted item priorState request action) store =
        (.ok checkpoint, after) := by
  simp only [canBlock, Bool.and_eq_true] at able
  obtain ⟨⟨listed, read⟩, worked⟩ := able
  obtain ⟨entries, listed⟩ := except_isOk listed
  obtain ⟨substeps, read⟩ := except_isOk read
  obtain ⟨work, worked⟩ := except_isOk worked
  have checkpointed : ∃ checkpoint middle, exec (Queue.checkpointOf workflow wanted item priorState
      request) store = (.ok checkpoint, middle) := by
    unfold Queue.checkpointOf
    rw [exec_bind_of_ok (Op.exec_nextId _ _), worked]
    exact ⟨_, _, rfl⟩
  obtain ⟨checkpoint, middle, made⟩ := checkpointed
  have marking : ∃ marked, Queue.withCheckpoint item checkpoint middle.now.isoformat = .ok marked := by
    unfold Queue.withCheckpoint
    rw [listed, versioned, read]
    exact ⟨_, rfl⟩
  obtain ⟨marked, shape⟩ := marking
  have moving : ∃ new last, exec (Queue.setState marked request.blockingState) middle.tick =
      (.ok new, last) := by
    have same : itemVersion marked = .ok version := (Queue.withCheckpoint_ok shape).1.trans versioned
    unfold Queue.setState
    rw [same]
    exact ⟨_, _, rfl⟩
  obtain ⟨new, last, moved⟩ := moving
  unfold Queue.blockItem
  rw [exec_bind_of_ok made, exec_bind_of_ok (Op.exec_nowIso _),
    exec_bind_ofExcept shape, exec_bind_of_ok moved]
  exact ⟨_, _, rfl⟩

theorem blockItem_able {item : Item} {checkpoint : QueueBlockCheckpoint}
    {store : Store}
    (done : exec (Queue.blockItem workflow wanted item priorState request action) store =
      (.ok checkpoint, after)) : canBlock item request = true := by
  unfold Queue.blockItem at done
  obtain ⟨_, middle, made, done⟩ := bind_ok done
  rw [exec_bind_of_ok (Op.exec_nowIso _)] at done
  obtain ⟨marked, shape, -⟩ := bind_ofExcept_ok done
  unfold Queue.checkpointOf at made
  rw [exec_bind_of_ok (Op.exec_nextId _ _)] at made
  obtain ⟨work, worked, -⟩ := bind_ofExcept_ok made
  unfold Queue.withCheckpoint at shape
  obtain ⟨entries, listed, shape⟩ := except_bind_ok shape
  obtain ⟨version, -, shape⟩ := except_bind_ok shape
  obtain ⟨substeps, read, -⟩ := except_bind_ok shape
  rw [canBlock, listed, read, worked]
  rfl

section

variable {store : Store} {row : PersistentWorkflowRow} {item : Item}

theorem exec_queue_workflowRow (started : Started store row item) :
    exec (Queue.workflowRow row.id) store = (.ok row, store) := by
  unfold Queue.workflowRow
  rw [exec_get_bind, started.present]
  rfl

theorem exec_blockRunningItem (started : Started store row item) {request : BlockRequest}
    (blocking : request.blockingState ∈ Queue.blockedStates) :
    exec (Queue.blockRunningItem row.id (itemId item) request) store =
      exec (Queue.blockItem row (itemId item) item .running request "block_queue_work_item")
        store := by
  unfold Queue.blockRunningItem Queue.requireBlockingState
  rw [if_pos blocking, exec_bind_of_ok (exec_pure _ _),
    exec_bind_of_ok (exec_queue_workflowRow started),
    exec_bind_ofExcept started.found, exec_bind_ofExcept started.stated]
  rfl

/-- An operation that brings the workflow of a running item to rest, or raises and writes no row. -/
def SettlesOrRaises {α : Type} (able : Bool) (operation : Op α) (store : Store)
    (row : PersistentWorkflowRow) (wanted : String) : Prop :=
  (able = true ∧ ∃ result after, exec operation store = (.ok result, after) ∧
    SettledWrite store.toTables after.toTables row wanted) ∨
  (able = false ∧ ∃ error after, exec operation store = (.error error, after) ∧
    after.toTables = store.toTables)

theorem blockRunningItem_started (started : Started store row item) {request : BlockRequest}
    (blocking : request.blockingState ∈ Queue.blockedStates) :
    SettlesOrRaises (canBlock item request)
      (Queue.blockRunningItem row.id (itemId item) request) store row (itemId item) := by
  obtain ⟨version, versioned⟩ := started.version
  cases able : canBlock item request with
  | true =>
    obtain ⟨checkpoint, after, done⟩ := blockItem_done versioned able store
    have ended := (exec_blockRunningItem started blocking).trans done
    exact .inl ⟨rfl, checkpoint, after, ended, blockItem_settles blocking done⟩
  | false =>
    rcases ended : exec (Queue.blockRunningItem row.id (itemId item) request) store with
      ⟨error | checkpoint, after⟩
    · exact .inr ⟨rfl, error, after, ended, Queue.blockRunningItem_raised _ _ _ _ _ _ ended⟩
    · rw [exec_blockRunningItem started blocking] at ended
      have readable := blockItem_able ended
      rw [able] at readable
      cases readable

theorem exec_completeItem (started : Started store row item) (substeps : List String) :
    (∃ completed after, (completedSubsteps item).isOk = true ∧
      exec (Queue.completeItem row.id (itemId item) substeps) store = (.ok completed, after) ∧
        SettledWrite store.toTables after.toTables row (itemId item)) ∨
    (∃ error, (completedSubsteps item).isOk = false ∧
      exec (Queue.completeItem row.id (itemId item) substeps) store = (.error error, store)) := by
  have running : ¬ QueueWorkItemState.running ∉ [QueueWorkItemState.running, .readyToResume] := by
    decide
  have executable : exec (Queue.requireExecutable row) store = (.ok (), store) := by
    unfold Queue.requireExecutable Queue.workflowExecutionExclusionReason
    rw [if_pos started.eligible]
    rfl
  unfold Queue.completeItem
  rw [exec_bind_of_ok (exec_queue_workflowRow started), exec_bind_of_ok executable,
    exec_bind_ofExcept started.found, exec_bind_ofExcept started.executable,
    if_neg running]
  cases read : completedSubsteps item with
  | error error => exact .inr ⟨error, rfl, rfl⟩
  | ok existing =>
    obtain ⟨version, versioned⟩ := started.version
    have moving : ∃ new last, exec (Queue.setState ((item.set "completed_substeps"
        (.arr (Queue.mergeSubsteps existing substeps))).set "completed_at"
        (.str store.now.isoformat)) .completed) store.tick = (.ok new, last) := by
      have same : itemVersion ((item.set "completed_substeps"
          (.arr (Queue.mergeSubsteps existing substeps))).set "completed_at"
          (.str store.now.isoformat)) = .ok version := by
        rw [← versioned]
        simp [itemVersion]
      unfold Queue.setState
      rw [same]
      exact ⟨_, _, rfl⟩
    obtain ⟨new, last, moved⟩ := moving
    have rests : ¬ Running new := by
      obtain ⟨_, -, -, shape⟩ := Queue.setState_ok moved
      simp [Running, Queue.queueState?, shape, Json.isNull]
    have ticked : last.toTables = store.toTables := by
      obtain ⟨_, -, same, -⟩ := Queue.setState_ok moved
      rw [same]
      rfl
    rw [exec_bind_ofExcept rfl, exec_bind_of_ok (Op.exec_nowIso _),
      exec_bind_of_ok moved]
    refine .inl ⟨_, _, rfl, rfl, ?_⟩
    exact settledWrite_of_put rfl ticked rfl (if_pos started.active) rfl rests

theorem Started.congr {other : Store} (started : Started store row item)
    (same : other.workflows = store.workflows) : Started other row item :=
  { started with present := by rw [same]; exact started.present }

end

theorem findItem_replaceItem {old : Item}
    (found : findItem items wanted = .ok old) (named : itemId new = wanted) :
    findItem (replaceItem items wanted new) wanted = .ok new := by
  induction items with
  | nil => cases found
  | cons head tail ih =>
    by_cases here : itemId head = wanted
    · simp only [replaceItem, here, if_true, findItem, named]
    · simp only [findItem, here, if_false] at found
      simp only [replaceItem, here, if_false, findItem]
      exact ih found

theorem replaceItem_replaceItem {first second : Item}
    (named : itemId first = wanted) :
    replaceItem (replaceItem items wanted first) wanted second = replaceItem items wanted second := by
  induction items with
  | nil => rfl
  | cons head tail ih =>
    by_cases here : itemId head = wanted
    · simp only [replaceItem, here, if_true, named]
    · simp only [replaceItem, here, if_false, ih]

theorem mem_replaceItem {other : Item}
    (member : other ∈ replaceItem items wanted new) : other = new ∨ other ∈ items := by
  induction items with
  | nil => cases member
  | cons head tail ih =>
    by_cases here : itemId head = wanted
    · simp only [replaceItem, here, if_true, List.mem_cons] at member
      exact member.imp_right (List.mem_cons_of_mem head)
    · simp only [replaceItem, here, if_false, List.mem_cons] at member
      rcases member with same | later
      · exact .inr (same ▸ List.mem_cons_self)
      · exact (ih later).imp_right (List.mem_cons_of_mem head)

/-- One item of the workflows in scope runs, and every other workflow has the property. -/
structure InProgress (property : PersistentWorkflowRow → Prop) (workflowIds : List String)
    (store : Store) (row : PersistentWorkflowRow) (item : Item) : Prop where
  started : Started store row item
  inScope : InScope workflowIds row.id
  rest : ∀ other ∈ store.workflows.rows, other.id ≠ row.id → InScope workflowIds other.id →
    property other
  alone : ∀ new, ¬ Running new → ∀ other ∈ replaceItem row.taskBacklog (itemId item) new,
    ¬ Running other

theorem executionState_of_queueState {item : Item} {target : QueueWorkItemState}
    (stated : Queue.queueState? item = some target) : Queue.executionState item = .ok target := by
  unfold Queue.queueState? at stated
  split at stated
  · cases stated
  · next filled =>
      have present : item.has "state" = true := by
        by_contra absent
        exact filled (by rw [Dict.get_of_not_has (by simpa using absent)]; rfl)
      unfold Queue.executionState
      simp only [present, Bool.not_true, Bool.false_eq_true, if_false, filled, stated]

theorem dispatchItem_started {candidate : DispatchCandidate}
    {item : Item} {previous : Int} {store : Store}
    (present : store.workflows.get? workflow.id = some workflow)
    (found : findItem workflow.taskBacklog candidate.itemId = .ok item)
    (eligible : workflow.workflowState ∈ Queue.executionEligibleWorkflowStates)
    (done : exec (dispatchItem workflow candidate item) store = (.ok previous, after)) :
    ∃ row new, Started after row new ∧ row.id = workflow.id ∧ itemId new = candidate.itemId ∧
      row.taskBacklog = replaceItem workflow.taskBacklog candidate.itemId new ∧
      after.workflows = store.workflows.put row := by
  unfold dispatchItem at done
  obtain ⟨version, versioned, done⟩ := bind_ofExcept_ok done
  rw [exec_bind_of_ok (Op.exec_utcNow _)] at done
  obtain ⟨generation, _, done⟩ := bind_ofExcept_ok done
  rw [exec_bind_of_ok (Op.exec_utcNow _), exec_bind_of_ok (Op.exec_putWorkflow _ _)]
    at done
  have final := (ok_pure done).2
  obtain ⟨_, _, _, itemNamed, _⟩ := Queue.findItem_split found
  generalize shape : (((item.set "state" (.str (StrEnum.value QueueWorkItemState.running))).set
    "version" (.int (version + 1))).set "started_at" (.str _)).set "run_generation" (.int _) = new
    at final
  have named : itemId new = candidate.itemId := by
    rw [← itemNamed, ← shape]
    simp [itemId]
  obtain ⟨row, written, rowNamed, backlog, lifecycle, active⟩ : ∃ row,
      after.workflows = store.workflows.put row ∧ row.id = workflow.id ∧
      row.taskBacklog = replaceItem workflow.taskBacklog candidate.itemId new ∧
      row.workflowState = workflow.workflowState ∧ row.activeTaskId = some candidate.itemId :=
    ⟨_, congrArg (fun store : Store => store.workflows) final, rfl, rfl, rfl, rfl⟩
  have running : Running new := by
    simp [← shape, Running, Queue.queueState?, Json.isNull]
  refine ⟨row, new, ⟨?_, ?_, running, ?_, executionState_of_queueState running, ⟨version + 1, ?_⟩, lifecycle ▸ eligible, ?_⟩, rowNamed, named,
    backlog, written⟩
  · rw [written, rowNamed]
    exact Table.get?_put_same present rowNamed
  · rw [named, backlog]
    exact findItem_replaceItem found named
  · simp [← shape, Queue.state]
  · simp [← shape, itemVersion]
  · rw [active, named]

section

variable {property : PersistentWorkflowRow → Prop} {workflowIds : List String}

variable {selection : DispatchSelection} {after state : LoopState} {context : RuntimeExecutionContext}
  {outcome : Except PyExc Continuation} {config : RuntimeLoopConfig} {before : Tables}

theorem startNext_inProgress (idle : ∀ row, property row → Idle row)
    {candidate : DispatchCandidate} {store after : Store}
    (quiet : EachInScope property workflowIds store.toTables)
    (done : exec (startNext workflowIds) store = (.ok selection, after))
    (chosen : selection.selected = some candidate) :
    ∃ row item, InProgress property workflowIds after row item ∧ candidate.workflowId = row.id ∧
      candidate.itemId = itemId item := by
  unfold startNext at done
  obtain ⟨selected, middle, cycle, done⟩ := bind_ok done
  obtain ⟨kept, dispatchable⟩ := selectNext_ok cycle
  cases wanted : selected.selected with
  | none =>
    simp only [wanted] at done
    obtain ⟨rfl, -⟩ := ok_pure done
    rw [wanted] at chosen
    cases chosen
  | some picked =>
    simp only [wanted] at done
    rw [exec_get_bind] at done
    split at done
    · cases done
    next workflow present =>
      split at done
      · cases done
      split at done
      · cases done
      next item listed =>
        have named : workflow.id = picked.workflowId := Table.get?_key present
        have found := Queue.find_eq_findItem _ _ _ listed
        have here : middle.workflows.get? workflow.id = some workflow := by rw [named, present]
        have known : store.workflows.get? workflow.id = some workflow := by
          rw [← here]
          exact congrArg (fun tables : Tables => tables.workflows.get? workflow.id) kept.symm
        obtain ⟨scope, -, eligible⟩ := dispatchable picked wanted
        have inScope : InScope workflowIds workflow.id := named ▸ scope
        have lifecycle : workflow.workflowState ∈ Queue.executionEligibleWorkflowStates := by
          obtain ⟨row, member, source, -, bound, -, judged⟩ := eligible
          have same : row = workflow :=
            Table.row_unique member (Table.get?_mem known) (bound.symm.trans named.symm)
          exact same ▸ (unobjectionable judged).lifecycle
        obtain ⟨previous, last, dispatched, done⟩ := bind_ok done
        obtain ⟨row, new, started, rowNamed, itemNamed, backlog, written⟩ :=
          dispatchItem_started here found lifecycle dispatched
        rw [dispatchAudit, exec_bind_of_ok (Op.exec_record _ _)] at done
        obtain ⟨rfl, rfl⟩ := ok_pure done
        cases chosen
        refine ⟨row, new, ⟨started.congr rfl, rowNamed ▸ inScope, ?_, ?_⟩,
          named.symm.trans rowNamed.symm, itemNamed.symm⟩
        · intro other member different
          have before : other ∈ (middle.workflows.put row).rows := by
            rw [← written]
            exact member
          rcases Table.mem_put before with same | ⟨old, -⟩
          · exact absurd (congrArg PersistentWorkflowRow.id same) different
          · exact quiet other (kept ▸ old)
        · intro rested rests other member
          rw [backlog, itemNamed, replaceItem_replaceItem itemNamed] at member
          rcases mem_replaceItem member with same | old
          · exact same ▸ rests
          · exact idle workflow (quiet workflow (Table.get?_mem known) inScope) other old

variable {store : Store} {row : PersistentWorkflowRow} {item : Item}

theorem InProgress.congr {other : Store} (running : InProgress property workflowIds store row item)
    (same : other.workflows = store.workflows) : InProgress property workflowIds other row item where
  started := running.started.congr same
  inScope := running.inScope
  rest := by
    rw [same]
    exact running.rest
  alone := running.alone

theorem InProgress.settled (rests : ∀ row, AtRest row → property row) {after : Tables}
    (running : InProgress property workflowIds store row item)
    (write : SettledWrite store.toTables after row (itemId item)) :
    EachInScope property workflowIds after := by
  obtain ⟨written, new, tables, named, cleared, backlog, rested⟩ := write
  intro other member scope
  rw [tables] at member
  rcases Table.mem_put member with same | ⟨old, different⟩
  · have idle : Idle other := by
      rw [same, Idle, backlog]
      exact running.alone new rested
    exact rests other ⟨idle, by rw [same]; exact cleared⟩
  · have apart : other.id ≠ row.id := by
      rw [← named]
      exact different
    exact running.rest other old apart scope

theorem InProgress.busy {after : Tables} (running : InProgress property workflowIds store row item)
    (same : after.workflows = store.workflows) : ¬ EachInScope Idle workflowIds after := by
  intro idle
  have member : row ∈ after.workflows.rows := by
    rw [same]
    exact Table.get?_mem running.started.present
  obtain ⟨front, back, split, -, -⟩ := Queue.findItem_split running.started.found
  have inside : item ∈ row.taskBacklog := by
    rw [split]
    simp
  exact idle row member running.inScope item inside running.started.running

theorem executionContext_started (started : Started store row item)
    (read : executionContext store.toTables row.id (itemId item) = .ok context) :
    context.workflowId = row.id ∧ context.itemId = itemId item ∧ context.queueItem = item := by
  unfold executionContext at read
  rw [started.present] at read
  obtain ⟨held, found, read⟩ := except_bind_ok read
  obtain ⟨title, -, read⟩ := except_bind_ok read
  cases read
  unfold findQueueItem at found
  split at found
  · next other listed =>
      cases found
      have same := Queue.find_eq_findItem _ _ _ listed
      rw [started.found] at same
      exact ⟨rfl, rfl, (Except.ok.inj same).symm⟩
  · cases found

/-- How the execution of a started item ends: with the scope at rest, or with an exception that
leaves the workflows as they were. -/
inductive Ended (property : PersistentWorkflowRow → Prop) (workflowIds : List String)
    (before : LoopState) (settled : Bool) (outcome : Except PyExc Continuation) (after : LoopState) :
    Prop where
  | settled (able : settled = true)
      (quiet : EachInScope property workflowIds after.store.toTables)
  | raised (unable : settled = false) (error : PyExc) (ends : outcome = .error error)
      (same : after.store.workflows = before.store.workflows)

def SameWorkflows (before after : LoopState) : Prop :=
  after.store.workflows = before.store.workflows

theorem sameWorkflows_refl (state : LoopState) : SameWorkflows state state := rfl

theorem sameWorkflows_trans (first second third : LoopState) (one : SameWorkflows first second)
    (two : SameWorkflows second third) : SameWorkflows first third := two.trans one

theorem report_sameWorkflows (change : ExecutionRuntimeLoopResult → ExecutionRuntimeLoopResult) :
    Action.Respects SameWorkflows (report change) := fun _ => rfl

theorem record_sameWorkflows (draft : AuditDraft) :
    Action.Respects SameWorkflows (onStore (Op.record draft)) := fun _ => rfl

theorem blocked_ended (rests : ∀ row, AtRest row → property row) {α : Type}
    {able : Bool} {operation : Op α} {later : LoopAction Continuation}
    (running : InProgress property workflowIds state.store row item)
    (ends : SettlesOrRaises able operation state.store row (itemId item))
    (kept : Action.Respects SameWorkflows later)
    (ended : exec (do
      let _ ← onStore operation
      later) state = (outcome, after)) :
    Ended property workflowIds state able outcome after := by
  rcases ends with ⟨able, result, blocked, done, write⟩ | ⟨unable, error, left, raised, same⟩
  · have first : exec (onStore operation) state = (.ok result, { state with store := blocked }) := by
      rw [onStore, exec_zoom, done]
    rw [exec_bind_of_ok first] at ended
    have tail := kept { state with store := blocked }
    rw [ended] at tail
    refine .settled able ?_
    have quiet := running.settled rests write
    unfold EachInScope at quiet ⊢
    rw [tail]
    exact quiet
  · have first : exec (onStore operation) state = (.error error, { state with store := left }) := by
      rw [onStore, exec_zoom, raised]
    rw [exec_bind_of_error first] at ended
    cases ended
    exact .raised unable error rfl (congrArg Tables.workflows same)

theorem reconcile_quiet (idle : ∀ row, property row → Idle row)
    (rests : ∀ row, AtRest row → property row) {workflowId : String} {before after : Store}
    (quiet : EachInScope property workflowIds before.toTables)
    (done : exec (reconcileCompletedWorkflowParentTask workflowId) before = (.ok (), after)) :
    EachInScope property workflowIds after.toTables := by
  obtain ⟨last, ended, unchanged | ⟨workflow, task, reconciled⟩⟩ := reconcile_ends workflowId before
  · cases ended.symm.trans done
    rw [unchanged]
    exact quiet
  · cases ended.symm.trans done
    obtain ⟨present, -, taskUpdated, workflowUpdated, written⟩ := reconciled
    intro other member scope
    rw [written] at member
    rcases Table.mem_put member with same | ⟨old, -⟩
    · have inside : InScope workflowIds workflow.id := by
        rw [same] at scope
        exact scope
      have was := idle workflow (quiet workflow (Table.get?_mem present) inside)
      exact rests other ⟨by rw [same]; exact was, by rw [same]; rfl⟩
    · exact quiet other old scope

theorem settleCompletion_ended (idle : ∀ row, property row → Idle row)
    (rests : ∀ row, AtRest row → property row) {result : ExecutionAdapterResult}
    (running : InProgress property workflowIds state.store row item)
    (workflowNamed : context.workflowId = row.id) (itemNamed : context.itemId = itemId item)
    (ended : exec (settleCompletion context result) state = (outcome, after)) :
    Ended property workflowIds state (completedSubsteps item).isOk outcome after := by
  unfold settleCompletion at ended
  rw [workflowNamed, itemNamed] at ended
  rcases exec_completeItem running.started result.completedSubsteps with
    ⟨completed, settled, able, done, write⟩ | ⟨error, unable, raised⟩
  · have first : exec (onStore (Queue.completeItem row.id (itemId item) result.completedSubsteps))
        state = (.ok completed, { state with store := settled }) := by
      rw [onStore, exec_zoom, done]
    obtain ⟨last, reconciles, -⟩ := reconcile_ends row.id settled
    have second : exec (onStore (reconcileCompletedWorkflowParentTask row.id))
        { state with store := settled } = (.ok (), { state with store := last }) := by
      rw [onStore, exec_zoom, reconciles]
    rw [exec_bind_of_ok first, exec_bind_of_ok second] at ended
    have quiet := reconcile_quiet idle rests (running.settled rests write) reconciles
    cases ended
    exact .settled able quiet
  · have first : exec (onStore (Queue.completeItem row.id (itemId item) result.completedSubsteps))
        state = (.error error, state) := by
      rw [onStore, exec_zoom, raised]
    rw [exec_bind_of_error first] at ended
    cases ended
    exact .raised unable error rfl rfl

theorem nonCompletionBlock_blocking (result : ExecutionAdapterResult) :
    (nonCompletionBlock result).blockingState ∈ Queue.blockedStates := by
  unfold nonCompletionBlock
  dsimp only
  split <;> decide

theorem settleNonCompletion_ended (rests : ∀ row, AtRest row → property row)
    {result : ExecutionAdapterResult}
    (running : InProgress property workflowIds state.store row item)
    (workflowNamed : context.workflowId = row.id) (itemNamed : context.itemId = itemId item)
    (ended : exec (settleNonCompletion config context result) state = (outcome, after)) :
    Ended property workflowIds state (canBlock item (nonCompletionBlock result)) outcome after := by
  unfold settleNonCompletion at ended
  rw [workflowNamed, itemNamed] at ended
  have ends := blockRunningItem_started running.started (nonCompletionBlock_blocking result)
  refine blocked_ended rests running ends ?_ ended
  apply respects_bind sameWorkflows_trans (report_sameWorkflows _)
  intro _
  apply respects_bind sameWorkflows_trans (record_sameWorkflows _)
  intro _
  split
  · apply respects_bind sameWorkflows_trans (report_sameWorkflows _)
    intro _
    exact respects_pure sameWorkflows_refl _
  · exact respects_pure sameWorkflows_refl _

theorem Ended.from {before middle : LoopState} {able : Bool} (same : middle.store.workflows = before.store.workflows)
    (ended : Ended property workflowIds middle able outcome after) :
    Ended property workflowIds before able outcome after := by
  cases ended with
  | settled able quiet => exact .settled able quiet
  | raised unable error ends kept => exact .raised unable error ends (kept.trans same)

theorem executeReleased_ended (idle : ∀ row, property row → Idle row)
    (rests : ∀ row, AtRest row → property row) {service : ExecutionRuntimeLoopService}
    (running : InProgress property workflowIds state.store row item)
    (workflowNamed : context.workflowId = row.id) (itemNamed : context.itemId = itemId item)
    (ended : exec (executeReleased service config context) state = (outcome, after)) :
    Ended property workflowIds state
      (let result := failClosed (routed (service.router context.worktreePath) context state).1
        if result.outcome = .completed then (completedSubsteps item).isOk
        else canBlock item (nonCompletionBlock result)) outcome after := by
  have same : (routed (service.router context.worktreePath) context state).2.store.workflows =
      state.store.workflows := by
    obtain ⟨executions, tables⟩ :=
      routed_recordsOnly (service.router context.worktreePath) context state
    rw [tables]
  have executes : exec (executeRouterFailClosed service context) state =
      (.ok (failClosed (routed (service.router context.worktreePath) context state).1),
        handedOver state context (routed (service.router context.worktreePath) context state).2) := by
    rfl
  generalize routed (service.router context.worktreePath) context state = routedTo at *
  unfold executeReleased at ended
  rw [exec_bind_of_ok executes, report, exec_bind_of_ok (exec_modify _ _)]
    at ended
  have handed := running.congr same
  dsimp only
  split at ended
  · next completed =>
      rw [if_pos completed]
      exact (settleCompletion_ended idle rests handed workflowNamed itemNamed ended).from same
  · next incomplete =>
      rw [if_neg incomplete]
      exact (settleNonCompletion_ended rests handed workflowNamed itemNamed ended).from same

theorem releaseBlock_blocking (reason : String) :
    (releaseBlock reason).blockingState ∈ Queue.blockedStates := by
  have human : QueueWorkItemState.waitingHuman ∈ Queue.blockedStates := by decide
  exact human

theorem blockPreDispatchFailure_started {reason : String}
    (started : Started store row item) (workflowNamed : context.workflowId = row.id)
    (itemNamed : context.itemId = itemId item) :
    SettlesOrRaises (canBlock item (releaseBlock reason)) (blockPreDispatchFailure context reason)
      store row (itemId item) := by
  unfold blockPreDispatchFailure
  rw [workflowNamed, itemNamed]
  let draft := contextAudit context "NATIVE_RUNTIME_PRE_MUTATION_RELEASE_BLOCKED"
    "validate_pre_mutation_release" "BLOCKED"
  have recorded : Started (store.record draft) row item := started.congr rfl
  rcases blockRunningItem_started recorded (releaseBlock_blocking reason) with
    ⟨able, checkpoint, after, done, write⟩ | ⟨unable, error, left, raised, same⟩
  · refine .inl ⟨able, (), after, ?_, write⟩
    rw [exec_bind_of_ok (Op.exec_record _ _), exec_bind_of_ok done]
    rfl
  · refine .inr ⟨unable, error, left, ?_, same⟩
    rw [exec_bind_of_ok (Op.exec_record _ _), exec_bind_of_error raised]

theorem executeSelected_ended (idle : ∀ row, property row → Idle row)
    (rests : ∀ row, AtRest row → property row) {service : ExecutionRuntimeLoopService} {candidate : DispatchCandidate} (running : InProgress property workflowIds state.store row item)
    (workflowNamed : candidate.workflowId = row.id) (itemNamed : candidate.itemId = itemId item)
    (ended : exec (executeSelected service config selection candidate) state = (outcome, after)) :
    Ended property workflowIds state (settles service ⟨selection, candidate, state⟩) outcome
      after := by
  unfold executeSelected at ended
  unfold settles
  dsimp only
  rw [exec_get_bind, workflowNamed, itemNamed] at ended
  rw [workflowNamed, itemNamed]
  cases read : executionContext state.store.toTables row.id (itemId item) with
  | error error =>
    rw [read] at ended
    cases ended
    exact .raised rfl error rfl rfl
  | ok context =>
    obtain ⟨contextWorkflow, contextItem, contextHeld⟩ :=
      executionContext_started running.started read
    rw [exec_bind_ofExcept read, report, exec_bind_of_ok (exec_modify _ _)]
      at ended
    dsimp only
    rw [exec_bind, exec_ofExcept] at ended
    cases compared : (if isResumed selection then
        blockedInterval service.fromisoformat context.queueItem else Except.ok ()) with
    | error error =>
      rw [compared] at ended
      cases ended
      exact .raised rfl error rfl rfl
    | ok nothing =>
      rw [compared] at ended
      dsimp only at ended
      rw [exec_bind, exec_ofExcept] at ended
      cases checked : preDispatchReleaseError state.store context with
      | error error =>
        rw [checked] at ended
        cases ended
        exact .raised rfl error rfl rfl
      | ok release =>
        rw [checked] at ended
        dsimp only at ended
        -- Only the counts of the run have changed since the start.
        let counted : LoopState := { state with result := { state.result with
          selectedTasks := state.result.selectedTasks + 1
          resumedTasks := state.result.resumedTasks +
            (if isResumed selection then 1 else 0) } }
        have begun : InProgress property workflowIds counted.store row item := running
        have same : counted.store.workflows = state.store.workflows := rfl
        rw [contextHeld]
        apply Ended.from same
        cases release with
        | some reason =>
          have ends : SettlesOrRaises (canBlock item (releaseBlock reason))
              (blockPreDispatchFailure context reason) counted.store row (itemId item) :=
            blockPreDispatchFailure_started begun.started contextWorkflow contextItem
          refine blocked_ended rests begun ends ?_ ended
          apply respects_bind sameWorkflows_trans (report_sameWorkflows _)
          intro _
          exact respects_pure sameWorkflows_refl _
        | none =>
          exact executeReleased_ended idle rests begun contextWorkflow contextItem ended

theorem settledWrite_quiet (idle : ∀ row, property row → Idle row)
    (rests : ∀ row, AtRest row → property row) {after : Tables} {wanted : String}
    (present : before.workflows.get? row.id = some row)
    (quiet : EachInScope property workflowIds before)
    (write : SettledWrite before after row wanted) : EachInScope property workflowIds after := by
  obtain ⟨written, new, tables, named, cleared, backlog, rested⟩ := write
  intro other member scope
  rw [tables] at member
  rcases Table.mem_put member with same | ⟨old, -⟩
  · have inside : InScope workflowIds row.id := by
      rw [same, named] at scope
      exact scope
    have was := idle row (quiet row (Table.get?_mem present) inside)
    refine rests other ⟨?_, by rw [same]; exact cleared⟩
    intro entry listed
    rw [same, backlog] at listed
    rcases mem_replaceItem listed with this | old
    · exact this ▸ rested
    · exact was entry old
  · exact quiet other old scope

theorem blockDispatchSelectedItem_quiet (idle : ∀ row, property row → Idle row)
    (rests : ∀ row, AtRest row → property row) {workflowId wanted : String}
    {expected : QueueWorkItemState} {version : Int} {request : BlockRequest}
    {outcome : Except PyExc QueueBlockCheckpoint} {before after : Store}
    (quiet : EachInScope property workflowIds before.toTables)
    (ended : exec (Queue.blockDispatchSelectedItem workflowId wanted expected version request)
      before = (outcome, after)) : EachInScope property workflowIds after.toTables := by
  cases outcome with
  | error error =>
    have same : after.toTables = before.toTables :=
      Queue.blockDispatchSelectedItem_raised _ _ _ _ _ _ _ _ ended
    rw [same]
    exact quiet
  | ok checkpoint =>
    unfold Queue.blockDispatchSelectedItem at ended
    obtain ⟨blocking, ended⟩ := Queue.requireBlockingState_bind_ok ended
    split at ended
    · cases ended
    · obtain ⟨row, present, -, ended⟩ := Queue.workflowRow_bind_ok ended
      obtain ⟨item, -, ended⟩ := bind_ofExcept_ok ended
      obtain ⟨prior, -, ended⟩ := bind_ofExcept_ok ended
      split at ended
      · cases ended
      · obtain ⟨known, -, ended⟩ := bind_ofExcept_ok ended
        split at ended
        · cases ended
        · exact settledWrite_quiet idle rests present quiet (blockItem_settles blocking ended)

theorem settleNoSelection_ended (idle : ∀ row, property row → Idle row)
    (rests : ∀ row, AtRest row → property row)
    (quiet : EachInScope property workflowIds state.store.toTables)
    (ended : exec (settleNoSelection selection) state = (outcome, after)) :
    EachInScope property workflowIds after.store.toTables ∧ outcome ≠ .ok .goOn := by
  unfold settleNoSelection at ended
  split at ended
  · next evaluation reason _ =>
      rw [exec_bind, onStore, exec_zoom] at ended
      unfold blockDispatchSelectionFailure at ended
      rw [exec_bind] at ended
      rcases blocking : exec (Queue.blockDispatchSelectedItem evaluation.candidate.workflowId
        evaluation.candidate.itemId evaluation.candidate.state evaluation.candidate.itemVersion
        (releaseBlock reason)) state.store with ⟨error | checkpoint, middle⟩
      · have left := blockDispatchSelectedItem_quiet idle rests quiet blocking
        rw [blocking] at ended
        cases ended
        exact ⟨left, fun same => by cases same⟩
      · have left := blockDispatchSelectedItem_quiet idle rests quiet blocking
        rw [blocking] at ended
        cases ended
        exact ⟨left, fun same => by cases same⟩
  · cases ended
    exact ⟨quiet, fun same => by cases same⟩

theorem cycles_ended (idle : ∀ row, property row → Idle row)
    (rests : ∀ row, AtRest row → property row) (service : ExecutionRuntimeLoopService)
    (config : RuntimeLoopConfig) (remaining : Nat) :
    ∀ state : LoopState, EachInScope property config.workflowIds state.store.toTables →
      ((∀ start ∈ starts service config remaining state, settles service start = true) →
        EachInScope property config.workflowIds
          (exec (cycles service config remaining) state).2.store.toTables) ∧
      ((∃ start ∈ starts service config remaining state, settles service start = false) →
        ¬ EachInScope Idle config.workflowIds
          (exec (cycles service config remaining) state).2.store.toTables) := by
  induction remaining with
  | zero =>
    intro state quiet
    refine ⟨fun _ => quiet, ?_⟩
    rintro ⟨start, member, -⟩
    cases member
  | succ remaining ih =>
    intro state quiet
    unfold cycles cycle starts
    rw [exec_bind, exec_bind, onStore, exec_zoom]
    rcases dispatched : exec (startNext config.workflowIds) state.store with
      ⟨error | selection, store⟩
    · have same : store.toTables = state.store.toTables := startNext_raised dispatched
      refine ⟨fun _ => ?_, ?_⟩
      · dsimp only
        rw [same]
        exact quiet
      · rintro ⟨start, member, -⟩
        cases member
    · dsimp only
      cases chosen : selection.selected with
      | none =>
        dsimp only
        have unchanged : store.toTables = state.store.toTables := by
          rcases startNext_ok dispatched with ⟨-, same⟩ | ⟨_, _, _, _, other, -⟩
          · exact same
          · rw [chosen] at other
            cases other
        have still : EachInScope property config.workflowIds store.toTables := by
          rw [unchanged]
          exact quiet
        rcases ended : exec (settleNoSelection selection) { state with store := store } with
          ⟨error | continuation, after⟩
        · obtain ⟨left, -⟩ := settleNoSelection_ended idle rests still ended
          refine ⟨fun _ => left, ?_⟩
          rintro ⟨start, member, -⟩
          cases member
        · obtain ⟨left, stops⟩ := settleNoSelection_ended idle rests still ended
          cases continuation with
          | goOn => exact absurd rfl stops
          | stop =>
            refine ⟨fun _ => left, ?_⟩
            rintro ⟨start, member, -⟩
            cases member
      | some candidate =>
        dsimp only
        obtain ⟨row, item, running, workflowNamed, itemNamed⟩ :=
          startNext_inProgress idle quiet dispatched chosen
        have begun : InProgress property config.workflowIds
            ({ state with store := store } : LoopState).store row item := running
        rcases ended : exec (executeSelected service config selection candidate)
          { state with store := store } with ⟨outcome, after⟩
        cases executeSelected_ended idle rests begun workflowNamed itemNamed ended with
        | settled able left =>
          rcases outcome with error | continuation
          · refine ⟨fun _ => left, ?_⟩
            rintro ⟨start, member, unable⟩
            rw [List.mem_singleton.mp member, able] at unable
            cases unable
          · cases continuation with
            | stop =>
              refine ⟨fun _ => left, ?_⟩
              rintro ⟨start, member, unable⟩
              rw [List.mem_singleton.mp member, able] at unable
              cases unable
            | goOn =>
              obtain ⟨settle, stuck⟩ := ih after left
              refine ⟨fun each => settle fun start member =>
                each start (List.mem_cons_of_mem _ member), ?_⟩
              rintro ⟨start, member, unable⟩
              rcases List.mem_cons.mp member with same | later
              · rw [same, able] at unable
                cases unable
              · exact stuck ⟨start, later, unable⟩
        | raised unable error ends same =>
          rw [ends]
          refine ⟨fun each => ?_, fun _ => begun.busy same⟩
          have able := each _ (List.mem_cons_self)
          rw [unable] at able
          cases able

theorem EachInScope.congr {after : Tables} (same : after.workflows = before.workflows) :
    EachInScope property workflowIds after ↔ EachInScope property workflowIds before := by
  unfold EachInScope
  rw [same]

theorem finished_workflows (service : ExecutionRuntimeLoopService) (config : RuntimeLoopConfig)
    (state : LoopState) : (exec (finished (guarded service config)) state).2.store.workflows =
      (exec (cycles service config config.maxTasks) state).2.store.workflows := by
  have guards : (exec (guarded service config) state).2.store.workflows =
      (exec (cycles service config config.maxTasks) state).2.store.workflows := by
    unfold guarded
    rw [exec_bind, exec_recovering]
    rcases exec (cycles service config config.maxTasks) state with ⟨error | nothing, after⟩
    · cases known : isQueueStateError error with
      | true =>
        dsimp only
        rw [if_pos known]
        rfl
      | false =>
        dsimp only
        rw [if_neg (by rw [known]; exact Bool.false_ne_true)]
    · rfl
  exact guards

theorem prepared_each {kind : PersistentWorkflowRow → Prop}
    (carried : ∀ old new, SameWork old new → kind old → kind new) {after : Tables}
    (prepared : Prepared before after) (each : EachInScope kind workflowIds before) :
    EachInScope kind workflowIds after := by
  intro row member scope
  obtain ⟨old, present, same⟩ :=
    Table.carried_origin prepared.workflows (Table.get?_of_mem member)
  have inside : InScope workflowIds old.id := by
    rw [← same.id]
    exact scope
  exact carried old row same (each old (Table.get?_mem present) inside)

theorem run_ended (idle : ∀ row, property row → Idle row) (rests : ∀ row, AtRest row → property row)
    (carried : ∀ old new, SameWork old new → property old → property new)
    (service : ExecutionRuntimeLoopService) (config : RuntimeLoopConfig) (state : LoopState)
    (quiet : EachInScope property config.workflowIds state.store.toTables) :
    EachInScope property config.workflowIds (exec (run service config) state).2.store.toTables ↔
      ∀ start ∈ runStarts service config state, settles service start = true := by
  unfold run runStarts loopStart
  split
  · simp only [List.not_mem_nil, IsEmpty.forall_iff, implies_true, iff_true]
    exact quiet
  · have prepared := prepareWorkflowPlans_prepared service.planning config.workflowIds state.store
    rw [exec_bind_of_ok (exec_modify _ _), exec_bind, onStore, exec_zoom]
    rcases ended : exec (prepareWorkflowPlans service.planning config.workflowIds) state.store with
      ⟨error | references, store⟩
    · rw [ended] at prepared
      simp only [List.not_mem_nil, IsEmpty.forall_iff, implies_true, iff_true]
      exact prepared_each carried prepared quiet
    · rw [ended] at prepared
      have begun := prepared_each carried prepared quiet
      dsimp only
      rw [report, exec_bind_of_ok (exec_modify _ _),
        EachInScope.congr (finished_workflows service config _)]
      obtain ⟨settle, stuck⟩ := cycles_ended idle rests service config config.maxTasks
        { state with store := store, result := { planReferences := references } } begun
      refine ⟨fun left start member => ?_, settle⟩
      by_contra unable
      refine stuck ⟨start, member, by simpa using unable⟩ ?_
      intro row known scope
      exact idle row (left row known scope)

/-- A run that begins with no running item in scope leaves none exactly where every item it
starts can be settled; and then, where no workflow in scope named an active task, none does. -/
theorem run_leaves_nothing_running (service : ExecutionRuntimeLoopService) (config : RuntimeLoopConfig)
    (state : LoopState) (idle : EachInScope Idle config.workflowIds state.store.toTables) :
    (EachInScope Idle config.workflowIds (exec (run service config) state).2.store.toTables ↔
      ∀ start ∈ runStarts service config state, settles service start = true) ∧
    (EachInScope (·.activeTaskId = none) config.workflowIds state.store.toTables →
      (EachInScope AtRest config.workflowIds (exec (run service config) state).2.store.toTables ↔
        ∀ start ∈ runStarts service config state, settles service start = true)) := by
  have keepsIdle : ∀ old new, SameWork old new → Idle old → Idle new := by
    intro old new same was
    rw [Idle, same.taskBacklog]
    exact was
  constructor
  · exact run_ended (fun _ quiet => quiet) (fun _ rest => rest.1) keepsIdle service config state idle
  · intro inactive
    have keepsRest : ∀ old new, SameWork old new → AtRest old → AtRest new := by
      rintro old new same ⟨was, cleared⟩
      refine ⟨keepsIdle old new same was, ?_⟩
      exact same.activeTaskId.elim (fun kept => kept.trans cleared) id
    have atRest : EachInScope AtRest config.workflowIds state.store.toTables :=
      fun row member scope => ⟨idle row member scope, inactive row member scope⟩
    exact run_ended (fun _ quiet => quiet.1) (fun _ rest => rest) keepsRest service config state atRest

end

/-- One ready item, which no provider of the plain service takes. -/
theorem ready_item_settled :
    EachInScope AtRest [] (exec (run plainService {}) oneReady).2.store.toTables := by
  have idle : EachInScope Idle [] oneReady.store.toTables := by decide
  have inactive : EachInScope (·.activeTaskId = none) [] oneReady.store.toTables := by decide
  have settle : ∀ start ∈ runStarts plainService {} oneReady, settles plainService start = true := by
    decide +kernel
  exact ((run_leaves_nothing_running plainService {} oneReady idle).2 inactive).mpr settle

/-- The ready item with null where its completed substeps are listed. -/
def substepsNull : LoopState :=
  readyState ⟨[{ readyWorkflow with
    taskBacklog := [("completed_substeps", .null) :: ("state", .str "READY") ::
      Planning.declaringItem "first" "a.md"] }], List.nodup_singleton _⟩

theorem substeps_null_left_running :
    EachInScope AtRest [] substepsNull.store.toTables ∧
      ¬ EachInScope Idle [] (exec (run plainService {}) substepsNull).2.store.toTables ∧
      ¬ EachInScope (·.activeTaskId = none) []
        (exec (run plainService {}) substepsNull).2.store.toTables := by
  refine ⟨by decide, ?_, ?_⟩
  · decide +kernel
  · decide +kernel

end Lucius.Runtime
