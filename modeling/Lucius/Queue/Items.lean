import Mathlib.Data.Prod.Lex
import Mathlib.Data.String.Basic
import Lucius.Persistence.Rows

/-! Work items of a workflow backlog: what the queue reads from an item, and the
items it schedules. An item is the JSON object the backlog holds, so every field
may be absent or malformed. -/

namespace Lucius.Queue

open Lucius.Action

abbrev Item := Dict

def blockedStates : List QueueWorkItemState :=
  [.waitingHuman, .waitingExternal, .waitingResource, .waitingDependency, .waitingSchedule,
    .blockedDependency, .blockedAuthority, .blockedDecision, .retryLater]

def terminalStates : List QueueWorkItemState := [.completed, .failed]

def eligibleStates : List QueueWorkItemState := [.ready, .readyToResume]

def validPriorities : List String := ["CRITICAL", "HIGH", "NORMAL", "LOW"]

def priorityRank (priority : String) : Nat :=
  if priority = "CRITICAL" then 0
  else if priority = "HIGH" then 1
  else if priority = "LOW" then 3
  else 2

def stateClassRank : Option QueueWorkItemState → Nat
  | some .readyToResume => 0
  | some .ready => 1
  | _ => 9

def executionEligibleWorkflowStates : List PersistentWorkflowState :=
  [.planReady, .implementing, .verifying, .checkpointReviewRequired, .resumeValidation, .blocked,
    .approvedToContinue]

/-- Upper case of the letters of ASCII. -/
def upper (text : String) : String := String.ofList (text.toList.map Char.toUpper)

def itemId (item : Item) : String := ((item.get "item_id").orElse (item.get "task_id")).pyStr

def itemVersion (item : Item) : Except PyExc Int := (item.getOr "version" (.int 0)).pyInt

def uniqueItemIds (items : List Item) : Bool := decide (items.map itemId).Nodup

def validateUniqueItemIds (items : List Item) : Except PyExc Unit :=
  if uniqueItemIds items then .ok ()
  else .error (.queueStateError "Duplicate queue work item id detected.")

/-- The state an item states: none when the field is absent, null or unknown. -/
def queueState? (item : Item) : Option QueueWorkItemState :=
  if (item.get "state").isNull then none else StrEnum.ofValue? (item.get "state").pyStr

def state (item : Item) : Except PyExc QueueWorkItemState :=
  let raw := (item.getOr "state" (.str "READY")).pyStr
  match StrEnum.ofValue? raw with
  | some found => .ok found
  | none => .error (.valueError (Json.reprStr raw ++ " is not a valid QueueWorkItemState"))

def stateIfValid (item : Item) : Option QueueWorkItemState :=
  StrEnum.ofValue? (item.getOr "state" (.str "READY")).pyStr

def completedItemIdsForCompletion (items : List Item) : List String :=
  ((items.filter (fun item => stateIfValid item = some .completed)).map itemId).dedup

def pendingItemIdsForCompletion (items : List Item) : List String :=
  ((items.filter (fun item =>
    match stateIfValid item with
    | none => true
    | some found => found ∉ terminalStates)).map itemId).dedup

def executionState (item : Item) : Except PyExc QueueWorkItemState :=
  if !item.has "state" then
    .error (.queueStateError "Queue work item is not executable: missing queue state.")
  else if (item.get "state").isNull then
    .error (.queueStateError "Queue work item is not executable: null queue state.")
  else
    match StrEnum.ofValue? (item.get "state").pyStr with
    | some found => .ok found
    | none =>
      .error (.queueStateError ("Queue work item is not executable: unknown queue state " ++
        (item.get "state").pyRepr ++ "."))

structure ParsedState where
  state : Option QueueWorkItemState
  stateLabel : String
  rawState : Option String
  exclusionReason : Option String
  deriving DecidableEq

def parseGlobalState (item : Item) : ParsedState :=
  if !item.has "state" then
    ⟨none, "LEGACY_UNSCHEDULABLE", none, some "LEGACY_UNSCHEDULABLE:MISSING_STATE"⟩
  else if (item.get "state").isNull then
    ⟨none, "MALFORMED_UNSCHEDULABLE", none, some "MALFORMED_UNSCHEDULABLE:NULL_STATE"⟩
  else
    let raw := (item.get "state").pyStr
    match StrEnum.ofValue? raw with
    | some found => ⟨some found, StrEnum.value found, some raw, none⟩
    | none =>
      ⟨none, "MALFORMED_UNSCHEDULABLE", some raw,
        some ("MALFORMED_UNSCHEDULABLE:UNKNOWN_STATE:" ++ raw)⟩

structure ParsedPriority where
  priority : String
  rawPriority : Option String
  exclusionReason : Option String
  deriving DecidableEq

def parseGlobalPriority (item : Item) : ParsedPriority :=
  if (item.get "priority").isNull then ⟨"NORMAL", none, none⟩
  else
    let raw := (item.get "priority").pyStr
    if raw ∈ validPriorities then ⟨raw, some raw, none⟩
    else ⟨raw, some raw, some ("MALFORMED_UNSCHEDULABLE:UNKNOWN_PRIORITY:" ++ raw)⟩

structure GlobalQueueItem where
  projectId : Option String
  workflowId : String
  repositoryId : Option String
  workflowTaskId : Option String
  itemId : String
  logicalTaskId : String
  title : Option String
  state : Option QueueWorkItemState
  stateLabel : String
  rawState : Option String
  priority : String
  rawPriority : Option String
  createdOrder : Int
  version : Int
  dependencies : List String
  currentBlockCheckpointId : Option String
  queueStatePresent : Bool
  priorityValid : Bool
  schedulable : Bool
  exclusionReason : Option String
  item : Item

def workflowExecutionExclusionReason (workflow : PersistentWorkflowRow) : Option String :=
  if workflow.workflowState ∈ executionEligibleWorkflowStates then none
  else some ("WORKFLOW_LIFECYCLE_INELIGIBLE:" ++ StrEnum.value workflow.workflowState)

def globalItem (workflow : PersistentWorkflowRow) (exclusionReason : Option String) (item : Item) :
    Except PyExc GlobalQueueItem := do
  let parsedState := parseGlobalState item
  let parsedPriority := parseGlobalPriority item
  let reason := exclusionReason.or (parsedState.exclusionReason.or parsedPriority.exclusionReason)
  let createdOrder ← (item.getOr "created_order" (.int 0)).pyInt
  let version ← itemVersion item
  let dependencies ← (item.getOr "dependencies" (.arr [])).pyIter
  let title ← (item.get "title").optionalText
  let checkpoint ← (item.get "current_block_checkpoint_id").optionalText
  return {
    projectId := workflow.projectId
    workflowId := workflow.id
    repositoryId := workflow.repositoryId
    workflowTaskId := workflow.taskId
    itemId := itemId item
    logicalTaskId :=
      (((item.get "logical_task_id").orElse (item.get "task_id")).orElse (.str (itemId item))).pyStr
    title := title
    state := parsedState.state
    stateLabel := parsedState.stateLabel
    rawState := parsedState.rawState
    priority := parsedPriority.priority
    rawPriority := parsedPriority.rawPriority
    createdOrder := createdOrder
    version := version
    dependencies := dependencies.map Json.pyStr
    currentBlockCheckpointId := checkpoint
    queueStatePresent := parsedState.state.isSome
    priorityValid := parsedPriority.exclusionReason.isNone
    schedulable := parsedState.state.isSome && reason.isNone
    exclusionReason := reason
    item := item }

def globalItems (exclusionReason : Option String) :
    List PersistentWorkflowRow → Except PyExc (List GlobalQueueItem)
  | [] => .ok []
  | workflow :: rest => do
      validateUniqueItemIds workflow.taskBacklog
      let items ← workflow.taskBacklog.mapM (globalItem workflow exclusionReason)
      return items ++ (← globalItems exclusionReason rest)

def executionItems (workflow : PersistentWorkflowRow) : Except PyExc (List GlobalQueueItem) :=
  globalItems none [workflow]

def globalDependenciesComplete (item : GlobalQueueItem) (items : List GlobalQueueItem) : Bool :=
  let completed := (items.filter (fun candidate =>
    candidate.workflowId = item.workflowId ∧ candidate.state = some .completed)).map (·.itemId)
  item.dependencies.all (fun dependency => dependency ∈ completed)

def isEligibleState (state : Option QueueWorkItemState) : Bool :=
  match state with
  | some found => found ∈ eligibleStates
  | none => false

def isBlockedState (state : Option QueueWorkItemState) : Bool :=
  match state with
  | some found => found ∈ blockedStates
  | none => false

def globalIsEligible (item : GlobalQueueItem) (items : List GlobalQueueItem) : Bool :=
  isEligibleState item.state && globalDependenciesComplete item items

abbrev ScopedKey := ℕ ×ₗ ℕ ×ₗ ℤ ×ₗ String

def scopedSelectionKey (item : GlobalQueueItem) : ScopedKey :=
  toLex (priorityRank (upper item.priority), toLex (stateClassRank item.state,
    toLex (item.createdOrder, item.itemId)))

def stateText : Option QueueWorkItemState → String
  | some found => StrEnum.value found
  | none => "None"

def scopedSelectionReason (item : GlobalQueueItem) : String :=
  "priority=" ++ upper item.priority ++ " state=" ++ stateText item.state ++ " order=" ++
    toString item.createdOrder

abbrev GlobalKey := ℕ ×ₗ ℕ ×ₗ ℤ ×ₗ String ×ₗ String ×ₗ String

def globalSelectionKey (item : GlobalQueueItem) : GlobalKey :=
  toLex (priorityRank (upper item.priority), toLex (stateClassRank item.state,
    toLex (item.createdOrder, toLex (item.projectId.getD "", toLex (item.workflowId, item.itemId)))))

def globalSelectionReason (item : GlobalQueueItem) : String :=
  "project=" ++ item.projectId.getD "None" ++ " workflow=" ++ item.workflowId ++ " priority=" ++
    upper item.priority ++ " state=" ++ stateText item.state ++ " order=" ++ toString item.createdOrder

def mergeSubsteps (existing : List Json) (additional : List String) : List Json :=
  additional.foldl
    (fun merged substep => if merged.any (·.isStr substep) then merged else merged ++ [.str substep])
    existing

def findItem : List Item → String → Except PyExc Item
  | [], wanted => .error (.queueStateError ("Unknown queue work item: " ++ wanted))
  | item :: rest, wanted => if itemId item = wanted then .ok item else findItem rest wanted

/-- The item `findItem` finds, written back in its place. -/
def replaceItem : List Item → String → Item → List Item
  | [], _, _ => []
  | item :: rest, wanted, new =>
    if itemId item = wanted then new :: rest else item :: replaceItem rest wanted new

def setState (item : Item) (target : QueueWorkItemState) : Op Item := do
  let version ← Action.ofExcept (itemVersion item)
  let now ← Op.nowIso
  return ((item.set "state" (.str (StrEnum.value target))).set "version" (.int (version + 1))).set
    "updated_at" (.str now)

theorem parseGlobalState_state (item : Item) : (parseGlobalState item).state = queueState? item := by
  unfold parseGlobalState queueState?
  by_cases present : item.has "state"
  · simp only [present, Bool.not_true, Bool.false_eq_true, if_false]
    split
    · rfl
    · cases found : (StrEnum.ofValue? (item.get "state").pyStr : Option QueueWorkItemState) <;> rfl
  · have absent : item.has "state" = false := by simpa using present
    simp [absent, Dict.get_of_not_has absent, Json.isNull]

theorem globalItem_ok {workflow : PersistentWorkflowRow} {reason : Option String} {item : Item}
    {parsed : GlobalQueueItem} (done : globalItem workflow reason item = .ok parsed) :
    parsed.state = queueState? item ∧ parsed.itemId = itemId item ∧
      parsed.workflowId = workflow.id ∧ parsed.projectId = workflow.projectId ∧
      itemVersion item = .ok parsed.version ∧
      parsed.queueStatePresent = (queueState? item).isSome := by
  unfold globalItem at done
  rcases created : (item.getOr "created_order" (.int 0)).pyInt with _ | createdOrder
  · simp [created, bind, Except.bind] at done
  rcases versioned : itemVersion item with _ | version
  · simp [created, versioned, bind, Except.bind] at done
  rcases depends : (item.getOr "dependencies" (.arr [])).pyIter with _ | dependencies
  · simp [created, versioned, depends, bind, Except.bind] at done
  rcases titled : (item.get "title").optionalText with _ | title
  · simp [created, versioned, depends, titled, bind, Except.bind] at done
  rcases checked : (item.get "current_block_checkpoint_id").optionalText with _ | checkpoint
  · simp [created, versioned, depends, titled, checked, bind, Except.bind] at done
  simp only [created, versioned, depends, titled, checked, bind, Except.bind, pure, Except.pure,
    Except.ok.injEq] at done
  subst done
  exact ⟨parseGlobalState_state item, rfl, rfl, rfl, rfl, by
    rw [← parseGlobalState_state item]⟩

theorem globalItems_ok {reason : Option String} {rows : List PersistentWorkflowRow}
    {parsed : List GlobalQueueItem} (done : globalItems reason rows = .ok parsed) :
    (∀ row ∈ rows, ∀ item ∈ row.taskBacklog, ∃ found ∈ parsed,
      globalItem row reason item = .ok found) ∧
    (∀ found ∈ parsed, ∃ row ∈ rows, ∃ item ∈ row.taskBacklog,
      globalItem row reason item = .ok found) ∧
    (∀ row ∈ rows, (row.taskBacklog.map itemId).Nodup) := by
  induction rows generalizing parsed with
  | nil =>
    cases done
    exact ⟨by simp, by simp, by simp⟩
  | cons row rest ih =>
    unfold globalItems at done
    rcases unique : validateUniqueItemIds row.taskBacklog with _ | _
    · simp [unique, bind, Except.bind] at done
    rcases read : row.taskBacklog.mapM (globalItem row reason) with _ | here
    · simp [unique, read, bind, Except.bind] at done
    rcases later : globalItems reason rest with _ | there
    · simp [unique, read, later, bind, Except.bind] at done
    simp only [unique, read, later, bind, Except.bind, pure, Except.pure, Except.ok.injEq] at done
    subst done
    obtain ⟨present, origin, distinct⟩ := ih later
    have paired := mapM_ok read
    have nodup : (row.taskBacklog.map itemId).Nodup := by
      unfold validateUniqueItemIds at unique
      split at unique
      · rename_i holds
        exact of_decide_eq_true holds
      · cases unique
    refine ⟨?_, ?_, ?_⟩
    · intro other member item inside
      rcases List.mem_cons.mp member with same | tail
      · subst same
        obtain ⟨found, known, parse⟩ := forall₂_left paired inside
        exact ⟨found, List.mem_append_left _ known, parse⟩
      · obtain ⟨found, known, parse⟩ := present other tail item inside
        exact ⟨found, List.mem_append_right _ known, parse⟩
    · intro found member
      rcases List.mem_append.mp member with head | tail
      · obtain ⟨item, inside, parse⟩ := forall₂_right paired head
        exact ⟨row, List.mem_cons_self, item, inside, parse⟩
      · obtain ⟨other, known, item, inside, parse⟩ := origin found tail
        exact ⟨other, List.mem_cons_of_mem _ known, item, inside, parse⟩
    · intro other member
      rcases List.mem_cons.mp member with same | tail
      · exact same ▸ nodup
      · exact distinct other tail

/-- The place of the item a lookup finds: no item before it has the identifier,
and writing the item back changes that place only. -/
theorem findItem_split {items : List Item} {wanted : String} {item : Item}
    (found : findItem items wanted = .ok item) :
    ∃ front back, items = front ++ item :: back ∧ itemId item = wanted ∧
      ∀ new, replaceItem items wanted new = front ++ new :: back := by
  induction items with
  | nil => cases found
  | cons head tail ih =>
    by_cases here : itemId head = wanted
    · simp only [findItem, here, if_true, Except.ok.injEq] at found
      subst found
      exact ⟨[], tail, rfl, here, fun new => by simp [replaceItem, here]⟩
    · simp only [findItem, here, if_false] at found
      obtain ⟨front, back, split, named, written⟩ := ih found
      refine ⟨head :: front, back, ?_, named, ?_⟩
      · rw [split, List.cons_append]
      · intro new
        simp only [replaceItem, here, if_false, written new, List.cons_append]

theorem find_eq_findItem (items : List Item) (wanted : String) (item : Item)
    (found : items.find? (fun other => itemId other = wanted) = some item) :
    findItem items wanted = .ok item := by
  induction items with
  | nil => cases found
  | cons head tail ih =>
    by_cases here : itemId head = wanted
    · simp only [List.find?_cons, here, decide_true, Option.some.injEq] at found
      subst found
      simp only [findItem, here, if_true]
    · simp only [List.find?_cons, here, decide_false] at found
      simp only [findItem, here, if_false]
      exact ih found

/-- A write that moves an item to a state under the next version. -/
structure Moved (old new : Item) (target : QueueWorkItemState) : Prop where
  stated : queueState? new = some target
  bumped : ∃ version, itemVersion old = .ok version ∧ itemVersion new = .ok (version + 1)
  named : itemId new = itemId old

theorem setState_ok {item new : Item} {target : QueueWorkItemState} {store after : Store}
    (done : Action.exec (setState item target) store = (.ok new, after)) :
    ∃ version, itemVersion item = .ok version ∧ after = store.tick ∧
      new = ((item.set "state" (.str (StrEnum.value target))).set
        "version" (.int (version + 1))).set "updated_at" (.str store.now.isoformat) := by
  obtain ⟨version, versioned, done⟩ := bind_ofExcept_ok done
  rw [exec_bind_of_ok (Op.exec_nowIso store)] at done
  obtain ⟨rfl, rfl⟩ := ok_pure done
  exact ⟨version, versioned, rfl, rfl⟩

end Lucius.Queue
