import Lucius.Queue.ReachableStates

/-! What the queue shows of its items, and which states it takes as blocked. -/

namespace Lucius.Queue

structure QueueStatus where
  workflowId : String
  running : List Item
  blocked : List Item
  ready : List Item
  readyToResume : List Item
  dependencyBlocked : List Item
  completed : List Item
  failed : List Item
  excluded : List Item
  nextSelection : QueueSelection

def excludedPayload (item : GlobalQueueItem) : Item :=
  (((((item.item.set "state_label" (.str item.stateLabel)).set
    "raw_state" (.ofOptionalText item.rawState)).set
    "raw_priority" (.ofOptionalText item.rawPriority)).set
    "exclusion_reason" (.ofOptionalText item.exclusionReason)).set
    "queue_state_present" (.bool item.queueStatePresent)).set
    "priority_valid" (.bool item.priorityValid)

def inStateOf (target : QueueWorkItemState) (item : GlobalQueueItem) : Bool :=
  decide (item.state = some target)

def isReadyIn (executable : List GlobalQueueItem) (target : QueueWorkItemState)
    (item : GlobalQueueItem) : Bool :=
  inStateOf target item && globalDependenciesComplete item executable

def inspect (workflow : PersistentWorkflowRow) : Except PyExc QueueStatus := do
  let parsed ← executionItems workflow
  let executable := parsed.filter (·.schedulable)
  let selection ← selectNext workflow
  let items (bucket : GlobalQueueItem → Bool) := (executable.filter bucket).map (·.item)
  return {
    workflowId := workflow.id
    running := items (inStateOf .running)
    blocked := items (isBlockedState ·.state)
    ready := items (isReadyIn executable .ready)
    readyToResume := items (isReadyIn executable .readyToResume)
    dependencyBlocked := items (fun item => !globalDependenciesComplete item executable)
    completed := items (inStateOf .completed)
    failed := items (inStateOf .failed)
    excluded := (parsed.filter (fun item => !item.schedulable)).map excludedPayload
    nextSelection := selection }

structure GlobalQueueStatus where
  observedWorkflowIds : List String
  workflowIds : List String
  activeProjectIds : List String
  running : List GlobalQueueItem
  blocked : List GlobalQueueItem
  ready : List GlobalQueueItem
  readyToResume : List GlobalQueueItem
  dependencyBlocked : List GlobalQueueItem
  completed : List GlobalQueueItem
  failed : List GlobalQueueItem
  legacyUnschedulable : List GlobalQueueItem
  lifecycleExcluded : List GlobalWorkflowExclusion
  nextSelection : GlobalQueueSelection

def activeProjects (executable : List GlobalQueueItem) : List String :=
  sortedBy id ((executable.filterMap (·.projectId)).filter (fun project => project ≠ "")).dedup

def inspectGlobal (workflows : Table PersistentWorkflowRow) (workflowIds : List String) :
    Except PyExc GlobalQueueStatus := do
  let rows ← globalWorkflows workflows workflowIds
  let lifecycleExcluded ← lifecycleExclusions rows
  let items ← globalItems none (schedulableWorkflows rows)
  let executable := items.filter (·.schedulable)
  let selection ← selectGlobalNext workflows (rows.map (·.id))
  return {
    observedWorkflowIds := rows.map (·.id)
    workflowIds := (schedulableWorkflows rows).map (·.id)
    activeProjectIds := activeProjects executable
    running := executable.filter (inStateOf .running)
    blocked := executable.filter (isBlockedState ·.state)
    ready := executable.filter (isReadyIn executable .ready)
    readyToResume := executable.filter (isReadyIn executable .readyToResume)
    dependencyBlocked := executable.filter (fun item => !globalDependenciesComplete item executable)
    completed := executable.filter (inStateOf .completed)
    failed := executable.filter (inStateOf .failed)
    legacyUnschedulable := items.filter (fun item => !item.queueStatePresent)
    lifecycleExcluded := lifecycleExcluded
    nextSelection := selection }

/-- The items of all buckets. -/
def QueueStatus.shown (status : QueueStatus) : List Item :=
  status.running ++ status.blocked ++ status.ready ++ status.readyToResume ++
    status.dependencyBlocked ++ status.completed ++ status.failed ++ status.excluded

def GlobalQueueStatus.shown (status : GlobalQueueStatus) : List GlobalQueueItem :=
  status.running ++ status.blocked ++ status.ready ++ status.readyToResume ++
    status.dependencyBlocked ++ status.completed ++ status.failed ++ status.legacyUnschedulable ++
    status.lifecycleExcluded.flatMap (·.items)

/-- The states that no bucket of the queue is for. -/
def unlistedStates : List QueueWorkItemState := [.waitingResourceShort, .waitingResourceLong]

/-- An item in a state no bucket is for that waits for no other item. -/
def Unlisted (executable : List GlobalQueueItem) (item : GlobalQueueItem) : Prop :=
  (∃ target ∈ unlistedStates, item.state = some target) ∧
    globalDependenciesComplete item executable = true

def inBucket (executable : List GlobalQueueItem) (item : GlobalQueueItem) : Bool :=
  inStateOf .running item || isBlockedState item.state || isReadyIn executable .ready item ||
    isReadyIn executable .readyToResume item || !globalDependenciesComplete item executable ||
    inStateOf .completed item || inStateOf .failed item

theorem inBucket_iff {executable : List GlobalQueueItem} {item : GlobalQueueItem}
    (stated : item.state.isSome = true) : inBucket executable item = true ↔ ¬ Unlisted executable item := by
  obtain ⟨target, known⟩ := Option.isSome_iff_exists.mp stated
  unfold inBucket Unlisted isReadyIn inStateOf
  rw [known]
  cases globalDependenciesComplete item executable with
  | false => simp
  | true => cases target <;> decide

def buckets (executable : List GlobalQueueItem) : List GlobalQueueItem :=
  executable.filter (inStateOf .running) ++ executable.filter (isBlockedState ·.state) ++
    executable.filter (isReadyIn executable .ready) ++
    executable.filter (isReadyIn executable .readyToResume) ++
    executable.filter (fun item => !globalDependenciesComplete item executable) ++
    executable.filter (inStateOf .completed) ++ executable.filter (inStateOf .failed)

theorem mem_buckets (executable : List GlobalQueueItem) (item : GlobalQueueItem) :
    item ∈ buckets executable ↔ item ∈ executable ∧ inBucket executable item = true := by
  unfold buckets inBucket
  simp only [List.mem_append, List.mem_filter, Bool.or_eq_true]
  tauto

theorem globalItem_kept {workflow : PersistentWorkflowRow} {reason : Option String} {item : Item}
    {found : GlobalQueueItem} (done : globalItem workflow reason item = .ok found) :
    found.item = item ∧ found.queueStatePresent = found.state.isSome ∧
      (found.schedulable = true → found.state.isSome = true) := by
  unfold globalItem at done
  obtain ⟨createdOrder, -, done⟩ := except_bind_ok done
  obtain ⟨version, -, done⟩ := except_bind_ok done
  obtain ⟨dependencies, -, done⟩ := except_bind_ok done
  obtain ⟨title, -, done⟩ := except_bind_ok done
  obtain ⟨checkpoint, -, done⟩ := except_bind_ok done
  cases done
  refine ⟨rfl, rfl, ?_⟩
  intro schedulable
  exact (Bool.and_eq_true _ _ ▸ schedulable).1

theorem itemId_excludedPayload (item : GlobalQueueItem) :
    itemId (excludedPayload item) = itemId item.item := by
  simp [excludedPayload, itemId]

/-- An item the queue shows in no bucket: it is schedulable, and unlisted. -/
def Overlooked (workflow : PersistentWorkflowRow) (item : Item) : Prop :=
  ∃ parsed found, executionItems workflow = .ok parsed ∧ globalItem workflow none item = .ok found ∧
    found.schedulable = true ∧ Unlisted (parsed.filter (·.schedulable)) found

theorem inspect_shown {workflow : PersistentWorkflowRow} {status : QueueStatus}
    (done : inspect workflow = .ok status) : ∃ parsed, executionItems workflow = .ok parsed ∧
      ∀ wanted, wanted ∈ status.shown.map itemId ↔ ∃ found ∈ parsed, found.itemId = wanted ∧
        (found.schedulable = true → inBucket (parsed.filter (·.schedulable)) found = true) := by
  unfold inspect at done
  obtain ⟨parsed, read, done⟩ := except_bind_ok done
  obtain ⟨selection, -, done⟩ := except_bind_ok done
  cases done
  refine ⟨parsed, read, ?_⟩
  intro wanted
  have named : ∀ found ∈ parsed, itemId found.item = found.itemId := by
    intro found member
    obtain ⟨row, single, item, -, parse⟩ := (globalItems_ok read).2.1 found member
    rw [(globalItem_kept parse).1, (globalItem_ok parse).2.1]
  unfold QueueStatus.shown
  dsimp only
  rw [← List.map_append, ← List.map_append, ← List.map_append, ← List.map_append, ← List.map_append,
    ← List.map_append]
  change wanted ∈ ((buckets (parsed.filter (·.schedulable))).map (·.item) ++
    (parsed.filter (fun item => !item.schedulable)).map excludedPayload).map itemId ↔ _
  simp only [List.map_append, List.mem_append, List.mem_map, exists_exists_and_eq_and,
    itemId_excludedPayload, mem_buckets, List.mem_filter]
  constructor
  · rintro (⟨found, ⟨⟨member, schedulable⟩, bucketed⟩, is⟩ | ⟨found, ⟨member, excluded⟩, is⟩)
    · exact ⟨found, member, (named found member).symm.trans is, fun _ => bucketed⟩
    · refine ⟨found, member, (named found member).symm.trans is, fun schedulable => ?_⟩
      rw [schedulable] at excluded
      cases excluded
  · rintro ⟨found, member, is, bucketed⟩
    cases schedulable : found.schedulable with
    | true =>
      exact .inl ⟨found, ⟨⟨member, schedulable⟩, bucketed schedulable⟩, (named found member).trans is⟩
    | false => exact .inr ⟨found, ⟨member, by rw [schedulable]; rfl⟩, (named found member).trans is⟩

theorem entry_unique {workflow : PersistentWorkflowRow} {item : Item} {found other : GlobalQueueItem}
    {reason : Option String} {parsed : List GlobalQueueItem} {rows : List PersistentWorkflowRow}
    (read : globalItems reason rows = .ok parsed) (row : workflow ∈ rows) (inside : item ∈ workflow.taskBacklog)
    (parse : globalItem workflow reason item = .ok found)
    {source : Item} (listed : source ∈ workflow.taskBacklog)
    (own : globalItem workflow reason source = .ok other) (named : other.itemId = itemId item) :
    other = found := by
  have distinct := (globalItems_ok read).2.2 workflow row
  have same : source = item := by
    apply List.inj_on_of_nodup_map distinct listed inside
    rw [← named, (globalItem_ok own).2.1]
  rw [same] at own
  exact Except.ok.inj (own.symm.trans parse)

theorem inspect_shows_iff {workflow : PersistentWorkflowRow} {status : QueueStatus}
    (done : inspect workflow = .ok status) :
    (∀ item ∈ workflow.taskBacklog, itemId item ∈ status.shown.map itemId) ↔
      ∀ item ∈ workflow.taskBacklog, ¬ Overlooked workflow item := by
  obtain ⟨parsed, read, shown⟩ := inspect_shown done
  refine forall_congr' fun item => forall_congr' fun inside => ?_
  rw [shown]
  constructor
  · rintro ⟨other, member, named, bucketed⟩ ⟨again, found, readAgain, parse, schedulable, unlisted⟩
    rw [read] at readAgain
    cases readAgain
    obtain ⟨row, single, source, listed, own⟩ := (globalItems_ok read).2.1 other member
    rw [List.mem_singleton.mp single] at listed own
    have same := entry_unique read (List.mem_singleton_self workflow) inside parse listed own named
    rw [same] at bucketed
    exact (inBucket_iff ((globalItem_kept parse).2.2 schedulable)).mp (bucketed schedulable) unlisted
  · intro seen
    obtain ⟨found, member, parse⟩ :=
      (globalItems_ok read).1 workflow (List.mem_singleton_self workflow) item inside
    refine ⟨found, member, (globalItem_ok parse).2.1, fun schedulable => ?_⟩
    rw [inBucket_iff ((globalItem_kept parse).2.2 schedulable)]
    exact fun unlisted => seen ⟨parsed, found, read, parse, schedulable, unlisted⟩

theorem lifecycleExclusions_ok {rows : List PersistentWorkflowRow}
    {exclusions : List GlobalWorkflowExclusion} (read : lifecycleExclusions rows = .ok exclusions) :
    (∀ row ∈ rows, row.workflowState ∉ executionEligibleWorkflowStates → ∀ item ∈ row.taskBacklog,
      ∃ found ∈ exclusions.flatMap (·.items), found.workflowId = row.id ∧ found.itemId = itemId item) ∧
    (∀ found ∈ exclusions.flatMap (·.items), ∃ row ∈ rows,
      row.workflowState ∉ executionEligibleWorkflowStates ∧ found.workflowId = row.id) := by
  induction rows generalizing exclusions with
  | nil =>
    cases read
    exact ⟨by simp, by simp⟩
  | cons row rest ih =>
    unfold lifecycleExclusions workflowExecutionExclusionReason at read
    by_cases eligible : row.workflowState ∈ executionEligibleWorkflowStates
    · rw [if_pos eligible] at read
      obtain ⟨present, origin⟩ := ih read
      constructor
      · intro other member ineligible
        rcases List.mem_cons.mp member with same | later
        · exact absurd (same ▸ eligible) ineligible
        · exact present other later ineligible
      · intro found member
        obtain ⟨other, later, known⟩ := origin found member
        exact ⟨other, List.mem_cons_of_mem row later, known⟩
    · rw [if_neg eligible] at read
      obtain ⟨items, parsed, read⟩ := except_bind_ok read
      obtain ⟨later, others, read⟩ := except_bind_ok read
      cases read
      obtain ⟨present, origin⟩ := ih others
      obtain ⟨here, source, -⟩ := globalItems_ok parsed
      rw [List.flatMap_cons]
      constructor
      · intro other member ineligible item inside
        rcases List.mem_cons.mp member with same | tail
        · obtain ⟨found, known, parse⟩ :=
            here row (List.mem_singleton_self row) item (same ▸ inside)
          obtain ⟨-, itemNamed, rowNamed, -⟩ := globalItem_ok parse
          exact ⟨found, List.mem_append_left _ known, same ▸ rowNamed, itemNamed⟩
        · obtain ⟨found, known, named⟩ := present other tail ineligible item inside
          exact ⟨found, List.mem_append_right _ known, named⟩
      · intro found member
        rcases List.mem_append.mp member with head | tail
        · obtain ⟨other, single, item, inside, parse⟩ := source found head
          obtain ⟨-, -, rowNamed, -⟩ := globalItem_ok parse
          have same := List.mem_singleton.mp single
          exact ⟨row, List.mem_cons_self, eligible, same ▸ rowNamed⟩
        · obtain ⟨other, listed, known⟩ := origin found tail
          exact ⟨other, List.mem_cons_of_mem row listed, known⟩

/-- An item the queue over several workflows shows in no bucket: it has a state and cannot be
scheduled, or it can and is unlisted. -/
def OverlookedAmong (rows : List PersistentWorkflowRow) (row : PersistentWorkflowRow) (item : Item) :
    Prop :=
  row ∈ schedulableWorkflows rows ∧ ∃ parsed found,
    globalItems none (schedulableWorkflows rows) = .ok parsed ∧ globalItem row none item = .ok found ∧
      ((found.queueStatePresent = true ∧ found.schedulable = false) ∨
        (found.schedulable = true ∧ Unlisted (parsed.filter (·.schedulable)) found))

theorem inspectGlobal_shown {workflows : Table PersistentWorkflowRow} {workflowIds : List String}
    {status : GlobalQueueStatus} (done : inspectGlobal workflows workflowIds = .ok status) :
    ∃ rows exclusions parsed, globalWorkflows workflows workflowIds = .ok rows ∧
      lifecycleExclusions rows = .ok exclusions ∧
      globalItems none (schedulableWorkflows rows) = .ok parsed ∧
      ∀ found, found ∈ status.shown ↔
        (found ∈ parsed ∧ ((found.schedulable = true ∧ inBucket (parsed.filter (·.schedulable)) found = true) ∨
          found.queueStatePresent = false)) ∨ found ∈ exclusions.flatMap (·.items) := by
  unfold inspectGlobal at done
  obtain ⟨rows, listed, done⟩ := except_bind_ok done
  obtain ⟨exclusions, excluded, done⟩ := except_bind_ok done
  obtain ⟨parsed, read, done⟩ := except_bind_ok done
  obtain ⟨selection, -, done⟩ := except_bind_ok done
  cases done
  refine ⟨rows, exclusions, parsed, listed, excluded, read, ?_⟩
  intro found
  change found ∈ buckets (parsed.filter (·.schedulable)) ++
    parsed.filter (fun item => !item.queueStatePresent) ++ exclusions.flatMap (·.items) ↔ _
  simp only [List.mem_append, mem_buckets, List.mem_filter, Bool.not_eq_true']
  tauto

theorem inspectGlobal_shows_iff {workflows : Table PersistentWorkflowRow} {workflowIds : List String}
    {status : GlobalQueueStatus} {rows : List PersistentWorkflowRow}
    (done : inspectGlobal workflows workflowIds = .ok status)
    (listed : globalWorkflows workflows workflowIds = .ok rows) :
    (∀ row ∈ rows, ∀ item ∈ row.taskBacklog,
        (row.id, itemId item) ∈ status.shown.map (fun found => (found.workflowId, found.itemId))) ↔
      ∀ row ∈ rows, ∀ item ∈ row.taskBacklog, ¬ OverlookedAmong rows row item := by
  obtain ⟨again, exclusions, parsed, listedAgain, excluded, read, shown⟩ := inspectGlobal_shown done
  rw [listed] at listedAgain
  cases listedAgain
  obtain ⟨present, origin⟩ := lifecycleExclusions_ok excluded
  obtain ⟨entries, source, -⟩ := globalItems_ok read
  have known (row : PersistentWorkflowRow) (member : row ∈ rows) : row ∈ workflows.rows :=
    globalWorkflows_known listed member
  have schedulable (row : PersistentWorkflowRow) : row ∈ schedulableWorkflows rows ↔
      row ∈ rows ∧ row.workflowState ∈ executionEligibleWorkflowStates := by
    unfold schedulableWorkflows workflowExecutionExclusionReason
    rw [List.mem_filter]
    by_cases eligible : row.workflowState ∈ executionEligibleWorkflowStates
    · simp [eligible]
    · simp [eligible]
  refine forall_congr' fun row => forall_congr' fun member => forall_congr' fun item =>
    forall_congr' fun inside => ?_
  rw [List.mem_map]
  constructor
  · rintro ⟨other, listed, keys⟩ ⟨scheduled, again, found, readAgain, parse, hidden⟩
    obtain ⟨rowNamed, itemNamed⟩ := Prod.mk.inj keys
    rw [read] at readAgain
    cases readAgain
    rcases (shown other).mp listed with ⟨entry, seen⟩ | elsewhere
    · obtain ⟨sourceRow, sourceListed, sourceItem, held, own⟩ := source other entry
      have same : sourceRow = row := by
        obtain ⟨-, -, named, -⟩ := globalItem_ok own
        exact Table.row_unique (known sourceRow ((schedulable sourceRow).mp sourceListed).1)
          (known row member) (named.symm.trans rowNamed)
      rw [same] at held own
      have is := entry_unique read scheduled inside parse held own itemNamed
      rw [is] at seen
      rcases hidden with ⟨stated, refused⟩ | ⟨able, unlisted⟩
      · rcases seen with ⟨able, -⟩ | unstated
        · rw [refused] at able
          cases able
        · rw [stated] at unstated
          cases unstated
      · rcases seen with ⟨-, bucketed⟩ | unstated
        · exact (inBucket_iff ((globalItem_kept parse).2.2 able)).mp bucketed unlisted
        · rw [(globalItem_kept parse).2.1, (globalItem_kept parse).2.2 able] at unstated
          cases unstated
    · obtain ⟨excludedRow, listedRow, ineligible, named⟩ := origin other elsewhere
      have same : excludedRow = row :=
        Table.row_unique (known excludedRow listedRow) (known row member) (named.symm.trans rowNamed)
      exact ineligible (same ▸ ((schedulable row).mp scheduled).2)
  · intro seen
    by_cases eligible : row.workflowState ∈ executionEligibleWorkflowStates
    · have scheduled := (schedulable row).mpr ⟨member, eligible⟩
      obtain ⟨found, entry, parse⟩ := entries row scheduled item inside
      obtain ⟨-, itemNamed, rowNamed, -⟩ := globalItem_ok parse
      refine ⟨found, (shown found).mpr (.inl ⟨entry, ?_⟩), by rw [itemNamed, rowNamed]⟩
      by_contra hidden
      rw [not_or] at hidden
      apply seen
      refine ⟨scheduled, parsed, found, read, parse, ?_⟩
      cases able : found.schedulable with
      | false => exact .inl ⟨by simpa using hidden.2, rfl⟩
      | true =>
        refine .inr ⟨rfl, ?_⟩
        by_contra listedState
        exact hidden.1 ⟨able, (inBucket_iff ((globalItem_kept parse).2.2 able)).mpr listedState⟩
    · obtain ⟨found, listedFound, rowNamed, itemNamed⟩ := present row member eligible item inside
      exact ⟨found, (shown found).mpr (.inr listedFound), by rw [rowNamed, itemNamed]⟩

end Lucius.Queue
