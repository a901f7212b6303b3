import Lucius.Runtime.Dispatcher

/-! What the queue says of the item a dispatch moves to RUNNING.

The dispatcher parses the backlogs itself. It neither compares the identifiers of a
workflow's items nor reads whether a priority is one the queue knows. -/

namespace Lucius.Runtime

open Queue Lucius.Action

variable {row : PersistentWorkflowRow} {item : Item} {candidate : DispatchCandidate}
  {workflowIds : List String} {store after : Store} {place : Nat}

/-- The call moves the item at a place of a workflow's backlog to RUNNING. -/
def MovesToRunning (before after : Store) (row : PersistentWorkflowRow) (place : Nat) (item : Item) :
    Prop :=
  row ∈ before.workflows.rows ∧ row.taskBacklog[place]? = some item ∧ ¬ Running item ∧
    ∃ written ∈ after.workflows.rows, written.id = row.id ∧
      ∃ new, written.taskBacklog[place]? = some new ∧ Running new

def Recognised (item : Item) : Prop :=
  (item.get "priority").isNull = true ∨ (item.get "priority").pyStr ∈ validPriorities

instance (item : Item) : Decidable (Recognised item) :=
  inferInstanceAs (Decidable (_ ∨ _))

def DependenciesCompleted (row : PersistentWorkflowRow) (item : Item) : Prop :=
  ∃ names, (item.getOr "dependencies" (.arr [])).pyIter = .ok names ∧ ∀ name ∈ names,
    ∃ other ∈ row.taskBacklog, itemId other = name.pyStr ∧ queueState? other = some .completed

/-- The queue's own selection over the workflow lists the item as eligible. -/
def QueueEligible (row : PersistentWorkflowRow) (item : Item) : Prop :=
  ∃ parsed, executionItems row = .ok parsed ∧ ∃ found ∈ parsed.filter (·.schedulable),
    found.item = item ∧ globalIsEligible found (parsed.filter (·.schedulable)) = true

/-- The candidate is the evaluation of the item, but for the notes on its fairness. -/
def CandidateOf (tables : Tables) (row : PersistentWorkflowRow) (item : Item)
    (candidate : DispatchCandidate) : Prop :=
  ∃ found, evaluation tables (bundleOf tables row) item = .ok found ∧
    candidate = { found.candidate with schedulingMetadata := candidate.schedulingMetadata }

structure MeetsQueuePolicy (store : Store) (workflowIds : List String) (row : PersistentWorkflowRow)
    (item : Item) : Prop where
  unique : (row.taskBacklog.map itemId).Nodup
  state : queueState? item = some .ready ∨ queueState? item = some .readyToResume
  priority : Recognised item
  lifecycle : row.workflowState ∈ executionEligibleWorkflowStates
  dependencies : DependenciesCompleted row item
  eligible : QueueEligible row item
  selected : ∃ selection candidate, (exec (startNext workflowIds) store).1 = .ok selection ∧
    selection.selected = some candidate ∧ CandidateOf store.toTables row item candidate

/-- The fields the queue reads as texts hold one or are null. -/
def TextFields (item : Item) : Prop :=
  (∃ title, (item.get "title").optionalText = .ok title) ∧
    ∃ checkpoint, (item.get "current_block_checkpoint_id").optionalText = .ok checkpoint

/-- What the dispatcher leaves unread of a workflow whose item it starts. -/
structure QueueReadable (row : PersistentWorkflowRow) (item : Item) : Prop where
  unique : (row.taskBacklog.map itemId).Nodup
  texts : ∀ other ∈ row.taskBacklog, TextFields other
  priority : Recognised item
  dependencies : ∀ names, (item.getOr "dependencies" (.arr [])).pyIter = .ok names →
    ∀ name ∈ names, ∃ other ∈ row.taskBacklog, itemId other = name.pyStr ∧
      queueState? other = some .completed ∧ Recognised other

theorem parseGlobalPriority_recognised (item : Item) :
    (parseGlobalPriority item).exclusionReason = none ↔ Recognised item := by
  unfold parseGlobalPriority Recognised
  by_cases null : (item.get "priority").isNull
  · simp [null]
  · by_cases known : (item.get "priority").pyStr ∈ validPriorities <;> simp [null, known]

theorem parseGlobalState_reason (item : Item) :
    (parseGlobalState item).exclusionReason = none ↔ (queueState? item).isSome = true := by
  rw [← parseGlobalState_state item]
  unfold parseGlobalState
  by_cases present : item.has "state"
  · simp only [present, Bool.not_true, Bool.false_eq_true, if_false]
    split
    · simp
    · cases (StrEnum.ofValue? (item.get "state").pyStr : Option QueueWorkItemState) <;> simp
  · simp [present]

/-- What the queue needs of an item to read it. -/
structure Parses (item : Item) (names : List Json) : Prop where
  createdOrder : ∃ order, (item.getOr "created_order" (.int 0)).pyInt = .ok order
  version : ∃ version, itemVersion item = .ok version
  dependencies : (item.getOr "dependencies" (.arr [])).pyIter = .ok names
  texts : TextFields item

/-- The queue's reading of an item of a workflow that is not excluded. -/
structure ReadAs (row : PersistentWorkflowRow) (item : Item) (names : List Json)
    (found : GlobalQueueItem) : Prop where
  source : found.item = item
  itemId : found.itemId = Queue.itemId item
  workflowId : found.workflowId = row.id
  state : found.state = queueState? item
  dependencies : found.dependencies = names.map Json.pyStr
  schedulable : found.schedulable = true ↔ (queueState? item).isSome = true ∧ Recognised item

theorem readAs_of_parse {found : GlobalQueueItem}
    (done : globalItem row none item = .ok found) :
    ∃ names, Parses item names ∧ ReadAs row item names found := by
  unfold globalItem at done
  obtain ⟨order, created, done⟩ := except_bind_ok done
  obtain ⟨version, versioned, done⟩ := except_bind_ok done
  obtain ⟨names, depends, done⟩ := except_bind_ok done
  obtain ⟨title, titled, done⟩ := except_bind_ok done
  obtain ⟨checkpoint, checked, done⟩ := except_bind_ok done
  cases done
  refine ⟨names, ⟨⟨order, created⟩, ⟨version, versioned⟩, depends, ⟨title, titled⟩, checkpoint, checked⟩,
    rfl, rfl, rfl, parseGlobalState_state item, rfl, ?_⟩
  have stated := parseGlobalState_reason item
  have ranked := parseGlobalPriority_recognised item
  rw [← parseGlobalState_state item] at stated ⊢
  simp only [Option.none_or, Bool.and_eq_true, Option.isNone_iff_eq_none, Option.or_eq_none_iff, stated,
    ranked]
  constructor
  · intro both
    exact ⟨both.1, both.2.2⟩
  · intro both
    exact ⟨both.1, both.1, both.2⟩

theorem parse_of_parses {names : List Json}
    (parses : Parses item names) : ∃ found, globalItem row none item = .ok found := by
  obtain ⟨order, created⟩ := parses.createdOrder
  obtain ⟨version, versioned⟩ := parses.version
  obtain ⟨⟨title, titled⟩, checkpoint, checked⟩ := parses.texts
  unfold globalItem
  rw [created, versioned, parses.dependencies, titled, checked]
  exact ⟨_, rfl⟩

theorem executionItems_of_parses (unique : (row.taskBacklog.map itemId).Nodup)
    (each : ∀ item ∈ row.taskBacklog, ∃ names, Parses item names) :
    ∃ parsed, executionItems row = .ok parsed := by
  have read : ∀ item ∈ row.taskBacklog, ∃ found, globalItem row none item = .ok found := by
    intro item member
    obtain ⟨names, parses⟩ := each item member
    exact parse_of_parses parses
  obtain ⟨parsed, known⟩ := mapM_ok_of_forall read
  have valid : validateUniqueItemIds row.taskBacklog = .ok () := by
    rw [validateUniqueItemIds, uniqueItemIds, decide_eq_true unique]
    rfl
  refine ⟨parsed ++ [], ?_⟩
  unfold executionItems globalItems
  rw [valid, known]
  rfl

theorem mem_completed {parsed : List GlobalQueueItem}
    (read : executionItems row = .ok parsed) {found : GlobalQueueItem} (workflow : found.workflowId = row.id)
    (name : String) :
    name ∈ (((parsed.filter (·.schedulable)).filter (fun candidate =>
        candidate.workflowId = found.workflowId ∧ candidate.state = some .completed)).map (·.itemId)) ↔
      ∃ other ∈ row.taskBacklog, itemId other = name ∧ queueState? other = some .completed ∧
        Recognised other := by
  obtain ⟨present, origin, _⟩ := globalItems_ok read
  constructor
  · intro member
    obtain ⟨candidate, inside, named⟩ := List.mem_map.mp member
    simp only [List.mem_filter, decide_eq_true_eq] at inside
    obtain ⟨⟨known, schedulable⟩, _, completed⟩ := inside
    obtain ⟨source, same, other, held, parse⟩ := origin candidate known
    obtain rfl := List.mem_singleton.mp same
    obtain ⟨names, _, readAs⟩ := readAs_of_parse parse
    exact ⟨other, held, readAs.itemId ▸ named, readAs.state ▸ completed,
      (readAs.schedulable.mp schedulable).2⟩
  · rintro ⟨other, held, named, completed, recognised⟩
    obtain ⟨candidate, known, parse⟩ := present row List.mem_cons_self other held
    obtain ⟨names, _, readAs⟩ := readAs_of_parse parse
    have schedulable := readAs.schedulable.mpr ⟨by rw [completed]; rfl, recognised⟩
    apply List.mem_map.mpr
    refine ⟨candidate, ?_, readAs.itemId.trans named⟩
    simp only [List.mem_filter, decide_eq_true_eq]
    exact ⟨⟨known, schedulable⟩, readAs.workflowId.trans workflow.symm, readAs.state.trans completed⟩

theorem isEligibleState_iff (state : Option QueueWorkItemState) :
    isEligibleState state = true ↔ state = some .ready ∨ state = some .readyToResume := by
  cases state with
  | none => simp [isEligibleState]
  | some found => simp [isEligibleState, eligibleStates]

/-- The queue lists an item as eligible exactly when it can read the workflow, the item
waits for a start at a known priority, and what it depends on is completed at one. -/
theorem queueEligible_iff (held : item ∈ row.taskBacklog) :
    QueueEligible row item ↔
      (∃ parsed, executionItems row = .ok parsed) ∧ Recognised item ∧
        (queueState? item = some .ready ∨ queueState? item = some .readyToResume) ∧
        ∀ names, (item.getOr "dependencies" (.arr [])).pyIter = .ok names → ∀ name ∈ names,
          ∃ other ∈ row.taskBacklog, itemId other = name.pyStr ∧
            queueState? other = some .completed ∧ Recognised other := by
  constructor
  · rintro ⟨parsed, read, found, member, same, eligible⟩
    obtain ⟨known, schedulable⟩ := List.mem_filter.mp member
    obtain ⟨source, here, other, inside, parse⟩ := (globalItems_ok read).2.1 found known
    obtain rfl := List.mem_singleton.mp here
    obtain ⟨names, parses, readAs⟩ := readAs_of_parse parse
    have sameItem : other = item := readAs.source.symm.trans same
    subst sameItem
    have both := Bool.and_eq_true_iff.mp eligible
    refine ⟨⟨parsed, read⟩, (readAs.schedulable.mp schedulable).2, ?_, ?_⟩
    · have stated := (isEligibleState_iff found.state).mp both.1
      rwa [readAs.state] at stated
    · intro others iterated name wanted
      have equal : others = names := by
        rw [parses.dependencies] at iterated
        exact (Except.ok.inj iterated).symm
      subst equal
      apply (mem_completed read readAs.workflowId name.pyStr).mp
      have listed : name.pyStr ∈ found.dependencies := by
        rw [readAs.dependencies]
        exact List.mem_map_of_mem wanted
      have complete := both.2
      unfold globalDependenciesComplete at complete
      exact of_decide_eq_true (List.all_eq_true.mp complete _ listed)
  · rintro ⟨⟨parsed, read⟩, recognised, waiting, complete⟩
    obtain ⟨found, known, parse⟩ := (globalItems_ok read).1 row List.mem_cons_self item held
    obtain ⟨names, parses, readAs⟩ := readAs_of_parse parse
    have stated : (queueState? item).isSome = true := by
      rcases waiting with state | state <;> rw [state] <;> rfl
    refine ⟨parsed, read, found, ?_, readAs.source, ?_⟩
    · exact List.mem_filter.mpr ⟨known, readAs.schedulable.mpr ⟨stated, recognised⟩⟩
    · apply Bool.and_eq_true_iff.mpr
      constructor
      · rw [isEligibleState_iff, readAs.state]
        exact waiting
      · unfold globalDependenciesComplete
        apply List.all_eq_true.mpr
        intro dependency wanted
        rw [readAs.dependencies] at wanted
        obtain ⟨name, inside, rfl⟩ := List.mem_map.mp wanted
        apply decide_eq_true
        exact (mem_completed read readAs.workflowId name.pyStr).mpr
          (complete names parses.dependencies name inside)

theorem distinctReasons_keep (reasons : List String) :
    ∀ seen : List String, seen ≠ [] →
      reasons.foldl (fun seen reason => if reason ∈ seen then seen else seen ++ [reason]) seen ≠ [] := by
  induction reasons with
  | nil => exact fun seen some => some
  | cons reason rest ih =>
    intro seen some
    apply ih
    dsimp only
    split
    · exact some
    · simp

theorem distinctReasons_eq_nil {reasons : List String} (none : distinctReasons reasons = []) :
    reasons = [] := by
  cases reasons with
  | nil => rfl
  | cons reason rest =>
    have kept := distinctReasons_keep rest [reason] (by simp)
    exact absurd none kept

/-- What holds of an item the dispatcher has nothing against. -/
structure Unobjectionable (row : PersistentWorkflowRow) (item : Item) : Prop where
  lifecycle : row.workflowState ∈ executionEligibleWorkflowStates
  state : queueState? item = some .ready ∨ queueState? item = some .readyToResume
  dependencies : DependenciesCompleted row item

theorem unobjectionable {tables : Tables}
    (judged : eligibilityReasons tables (bundleOf tables row) item = .ok []) :
    Unobjectionable row item := by
  obtain ⟨names, iterated, done⟩ := except_bind_ok judged
  have none := distinctReasons_eq_nil (Except.ok.inj done)
  simp only [List.append_eq_nil_iff] at none
  obtain ⟨⟨⟨⟨⟨⟨⟨⟨⟨⟨_, lifecycle⟩, _⟩, _⟩, _⟩, _⟩, _⟩, state⟩, dependencies⟩, _⟩, _⟩ := none
  refine ⟨?_, ?_, names, iterated, ?_⟩
  · by_contra ineligible
    rw [bundleOf] at lifecycle
    simp only [ineligible, if_false] at lifecycle
    cases lifecycle
  · rw [← isEligibleState_iff]
    cases found : queueState? item with
    | none =>
      rw [found] at state
      cases state
    | some stated =>
      rw [found] at state
      by_contra ineligible
      have outside : stated ∉ eligibleStates := by simpa [isEligibleState] using ineligible
      simp only [stateReasons, outside, if_false] at state
      split at state
      · cases state
      · split at state <;> cases state
  · intro name member
    by_contra missing
    have unresolved : names.any (fun dependency => dependency.pyStr ∉
        (row.taskBacklog.filter (fun other => queueState? other = some .completed)).map itemId) = true := by
      apply List.any_eq_true.mpr
      refine ⟨name, member, decide_eq_true ?_⟩
      intro listed
      obtain ⟨other, held, named⟩ := List.mem_map.mp listed
      obtain ⟨inside, completed⟩ := List.mem_filter.mp held
      exact missing ⟨other, inside, named, of_decide_eq_true completed⟩
    rw [bundleOf] at dependencies
    simp only [unresolved, if_true] at dependencies
    cases dependencies

theorem evaluation_reads {tables : Tables}
    {found : DispatchCandidateEvaluation}
    (done : evaluation tables (bundleOf tables row) item = .ok found) (texts : TextFields item) :
    ∃ names, Parses item names := by
  obtain ⟨candidate, parsed, done⟩ := except_bind_ok done
  obtain ⟨reasons, judged, _⟩ := except_bind_ok done
  obtain ⟨names, iterated, _⟩ := except_bind_ok judged
  obtain ⟨order, created, parsed⟩ := except_bind_ok parsed
  obtain ⟨capabilities, _, parsed⟩ := except_bind_ok parsed
  obtain ⟨version, versioned, _⟩ := except_bind_ok parsed
  exact ⟨names, ⟨order, created⟩, ⟨version, versioned⟩, iterated, texts⟩

/-- The item of a selected candidate, in a workflow whose items were all evaluated. -/
structure SelectedItem (tables : Tables) (row : PersistentWorkflowRow) (item : Item)
    (candidate : DispatchCandidate) : Prop where
  known : row ∈ tables.workflows.rows
  held : item ∈ row.taskBacklog
  workflowId : candidate.workflowId = row.id
  itemId : candidate.itemId = Queue.itemId item
  same : CandidateOf tables row item candidate
  judged : eligibilityReasons tables (bundleOf tables row) item = .ok []
  evaluated : ∀ other ∈ row.taskBacklog, ∃ found, evaluation tables (bundleOf tables row) other = .ok found

theorem selectNext_selected {selection : DispatchSelection}
    (done : exec (selectNext workflowIds) store = (.ok selection, after))
    (selected : selection.selected = some candidate) :
    ∃ row item, SelectedItem store.toTables row item candidate := by
  obtain ⟨-, bundles, found, listed, judged, chosen⟩ := selectNext_reads done
  rcases chosen with none | ⟨-, cycleId, audits, rfl⟩
  · rw [none] at selected
    cases selected
  · obtain ⟨present, origin⟩ := evaluations_ok judged
    obtain ⟨source, inside, eligible, same⟩ := chooseSelection_same selected
    obtain ⟨bundle, listedBundle, item, held, parse⟩ := origin source inside
    obtain ⟨shape, row, -⟩ := (workflowBundles_ok listed).1 bundle listedBundle
    have bundled : bundleOf store.toTables bundle.workflow = bundle := shape.symm
    obtain ⟨-, workflowNamed, itemNamed, reasons⟩ := evaluation_ok parse
    refine ⟨bundle.workflow, item, row, held, ?_, ?_, ⟨source, ?_, same⟩, ?_, ?_⟩
    · rw [same]
      exact workflowNamed
    · rw [same]
      exact itemNamed
    · rw [bundled]
      exact parse
    · rw [bundled]
      exact reasons eligible
    · intro other member
      obtain ⟨known, _, read⟩ := present bundle listedBundle other member
      rw [bundled]
      exact ⟨known, read⟩

theorem startNext_selected {selection : DispatchSelection}
    (done : exec (startNext workflowIds) store = (.ok selection, after))
    (selected : selection.selected = some candidate) :
    ∃ row item, SelectedItem store.toTables row item candidate := by
  unfold startNext at done
  obtain ⟨chosen, middle, cycle, done⟩ := bind_ok done
  cases wanted : chosen.selected with
  | none =>
    simp only [wanted] at done
    obtain ⟨rfl, _⟩ := ok_pure done
    rw [wanted] at selected
    cases selected
  | some first =>
    simp only [wanted] at done
    rw [exec_get_bind] at done
    split at done
    · cases done
    split at done
    · cases done
    split at done
    · cases done
    obtain ⟨previous, last, _, done⟩ := bind_ok done
    rw [dispatchAudit, exec_bind_of_ok (Op.exec_record _ _)] at done
    obtain ⟨rfl, _⟩ := ok_pure done
    have same : chosen.selected = some candidate := wanted.trans selected
    exact selectNext_selected cycle same

theorem auditSelection_same (selection : DispatchSelection) (result : String) :
    Action.Respects SameTables (auditSelection selection result) := by
  unfold auditSelection dispatchAudit
  cases selection.selected with
  | none => exact record_same _
  | some candidate =>
    apply respects_bind sameTables_trans (record_same _)
    intro _
    apply respects_bind sameTables_trans (record_same _)
    intro _
    exact record_same _

theorem selectNext_same (workflowIds : List String) :
    Action.Respects SameTables (selectNext workflowIds) := by
  have read : Action.Respects SameTables (get : Op Store) := respects_get sameTables_refl
  unfold selectNext
  apply respects_bind sameTables_trans (nextId_same _)
  intro cycleId
  apply respects_bind sameTables_trans read
  intro store
  apply respects_bind sameTables_trans (respects_ofExcept sameTables_refl _)
  intro bundles
  apply respects_bind sameTables_trans (record_same _)
  intro _
  apply respects_bind sameTables_trans (record_same _)
  intro _
  apply respects_bind sameTables_trans (respects_ofExcept sameTables_refl _)
  intro found
  split
  · apply respects_bind sameTables_trans (auditSelection_same _ _)
    intro _
    exact respects_pure sameTables_refl _
  · apply respects_bind sameTables_trans (record_same _)
    intro _
    apply respects_bind sameTables_trans read
    intro audited
    apply respects_bind sameTables_trans (auditSelection_same _ _)
    intro _
    exact respects_pure sameTables_refl _

theorem dispatchItem_raised {workflow : PersistentWorkflowRow} {error : PyExc}
    (raised : exec (dispatchItem workflow candidate item) store = (.error error, after)) :
    SameTables store after := by
  unfold dispatchItem at raised
  cases versioned : itemVersion item with
  | error other =>
    rw [versioned] at raised
    cases raised
    rfl
  | ok version =>
    rw [versioned] at raised
    cases generated : (item.getOr "run_generation" (.int 0)).pyInt with
    | error other =>
      rw [generated] at raised
      cases raised
      rfl
    | ok generation =>
      rw [generated] at raised
      cases raised

theorem startNext_raised {error : PyExc}
    (raised : exec (startNext workflowIds) store = (.error error, after)) :
    SameTables store after := by
  unfold startNext at raised
  have selected := selectNext_same workflowIds store
  rw [exec_bind] at raised
  rcases cycle : exec (selectNext workflowIds) store with ⟨_ | chosen, middle⟩
  · rw [cycle] at raised selected
    cases raised
    exact selected
  · rw [cycle] at raised selected
    have kept : SameTables store middle := selected
    dsimp only at raised
    cases wanted : chosen.selected with
    | none =>
      simp only [wanted] at raised
      cases raised
    | some candidate =>
      simp only [wanted] at raised
      rw [exec_get_bind] at raised
      split at raised
      · cases raised
        exact kept
      split at raised
      · cases raised
        exact kept
      split at raised
      · cases raised
        exact kept
      rename_i workflow _ _ _ item _
      rw [exec_bind] at raised
      rcases dispatched : exec (dispatchItem workflow candidate item) middle with
        ⟨other | previous, last⟩
      · rw [dispatched] at raised
        cases raised
        exact sameTables_trans _ _ _ kept (dispatchItem_raised dispatched)
      · rw [dispatched] at raised
        cases raised

theorem movesToRunning_of_write {before : Store} {moved : PersistentWorkflowRow}
    {new wasItem : Item}
    (write : ItemWrite before.toTables after.toTables row item new)
    (moves : MovesToRunning before after moved place wasItem) : moved = row ∧ wasItem = item := by
  obtain ⟨wanted, written, found, bound, backlog, tables⟩ := write.effect
  obtain ⟨front, back, split, -, replaced⟩ := findItem_split found
  obtain ⟨member, read, idle, other, inside, named, is, now, running⟩ := moves
  have put : after.workflows = before.workflows.put written := by rw [tables]
  rw [put] at inside
  rcases Table.mem_put inside with same | ⟨untouched, -⟩
  · have keys : moved.id = row.id := by rw [← bound.id, ← same, named]
    have equal : moved = row := Table.row_unique member (Table.get?_mem write.present) keys
    refine ⟨equal, ?_⟩
    rw [equal, split] at read
    rw [same, backlog, replaced] at now
    rcases getElem?_replaced now item with ⟨here, -⟩ | ⟨-, kept⟩
    · simp [here] at read
      exact read.symm
    · rw [read] at kept
      exact absurd (Option.some.inj kept ▸ running) idle
  · have equal : other = moved := Table.row_unique untouched member named
    rw [equal, read] at now
    exact absurd (Option.some.inj now ▸ running) idle

theorem not_moves_of_same {before : Store} (same : SameTables before after) : ¬ MovesToRunning before after row place item := by
  rintro ⟨member, read, idle, other, inside, named, is, now, running⟩
  have rows : after.workflows = before.workflows := congrArg Tables.workflows same
  rw [rows] at inside
  rw [Table.row_unique inside member named, read] at now
  exact idle (Option.some.inj now ▸ running)

/-- An item that a dispatch moves to RUNNING has the identifier of an item that was
selected in its workflow. -/
theorem moved_selected
    (moves : MovesToRunning store (exec (startNext workflowIds) store).2 row place item) :
    ∃ selection candidate source, (exec (startNext workflowIds) store).1 = .ok selection ∧
      selection.selected = some candidate ∧ SelectedItem store.toTables row source candidate ∧
      itemId source = itemId item := by
  rcases outcome : exec (startNext workflowIds) store with ⟨error | selection, after⟩
  · rw [outcome] at moves
    exact absurd moves (not_moves_of_same (startNext_raised outcome))
  · rw [outcome] at moves
    rcases startNext_ok outcome with ⟨-, same⟩ |
      ⟨candidate, written, first, new, selected, -, workflowNamed, itemNamed, write, -⟩
    · exact absurd moves (not_moves_of_same same)
    · obtain ⟨sameRow, sameItem⟩ := movesToRunning_of_write write moves
      obtain ⟨origin, source, chosen⟩ := startNext_selected outcome selected
      have keys : origin.id = written.id := by rw [← chosen.workflowId, workflowNamed]
      have equal : origin = written :=
        Table.row_unique chosen.known (Table.get?_mem write.present) keys
      subst equal
      subst sameRow
      refine ⟨selection, candidate, source, rfl, selected, chosen, ?_⟩
      rw [← chosen.itemId, itemNamed, sameItem]

/-- The items a dispatch moves to RUNNING are those the queue would start exactly where
the queue can read what the dispatcher leaves unread. -/
theorem dispatched_item_meets_queue_policy_iff (workflowIds : List String) (store : Store)
    (row : PersistentWorkflowRow) (place : Nat) (item : Item)
    (moves : MovesToRunning store (exec (startNext workflowIds) store).2 row place item) :
    MeetsQueuePolicy store workflowIds row item ↔ QueueReadable row item := by
  have held : item ∈ row.taskBacklog := List.mem_of_getElem? moves.2.1
  constructor
  · intro meets
    obtain ⟨⟨parsed, read⟩, recognised, _, complete⟩ := (queueEligible_iff held).mp meets.eligible
    refine ⟨meets.unique, ?_, recognised, complete⟩
    intro other member
    obtain ⟨found, _, parse⟩ := (globalItems_ok read).1 row List.mem_cons_self other member
    obtain ⟨names, parses, _⟩ := readAs_of_parse parse
    exact parses.texts
  · intro readable
    obtain ⟨selection, candidate, source, returned, selected, chosen, named⟩ := moved_selected moves
    have same : source = item := List.inj_on_of_nodup_map readable.unique chosen.held held named
    subst same
    have fine := unobjectionable chosen.judged
    have parsed : ∃ parsed, executionItems row = .ok parsed := by
      apply executionItems_of_parses readable.unique
      intro other member
      obtain ⟨found, evaluated⟩ := chosen.evaluated other member
      exact evaluation_reads evaluated (readable.texts other member)
    exact {
      unique := readable.unique
      state := fine.state
      priority := readable.priority
      lifecycle := fine.lifecycle
      dependencies := fine.dependencies
      eligible := (queueEligible_iff held).mpr
        ⟨parsed, readable.priority, fine.state, readable.dependencies⟩
      selected := ⟨selection, candidate, returned, selected, chosen.same⟩ }

def dispatchableWorkflow (items : List Item) : PersistentWorkflowRow :=
  { id := "LWORK_000001"
    projectId := some "LPROJ_000001"
    repositoryId := some "LREPO_000001"
    taskId := some "LTASK_000001"
    planId := some "LPLAN_000001"
    planFreezeId := some "LFREEZE_000001"
    workflowState := .planReady
    taskBacklog := items }

def dispatchableStore (items : List Item) : Store :=
  { projects := .single { id := "LPROJ_000001" }
    repositories := .single { id := "LREPO_000001", projectId := "LPROJ_000001" }
    attachments := [⟨"LPROJ_000001", "LREPO_000001"⟩]
    tasks := .single { id := "LTASK_000001", projectId := "LPROJ_000001", status := .ready }
    plans := .single { id := "LPLAN_000001", taskId := "LTASK_000001", projectId := "LPROJ_000001" }
    freezes := .single {
      id := "LFREEZE_000001"
      planId := "LPLAN_000001"
      taskId := "LTASK_000001"
      projectId := "LPROJ_000001" }
    workflows := .single (dispatchableWorkflow items) }

def prioritizedItem (priority : String) : Item :=
  [("item_id", .str "first"), ("state", .str "READY"), ("priority", .str priority)]

/-- An item of a priority that only the dispatcher reads as one starts. -/
theorem lower_case_priority_dispatched :
    MovesToRunning (dispatchableStore [prioritizedItem "high"])
      (exec (startNext []) (dispatchableStore [prioritizedItem "high"])).2
      (dispatchableWorkflow [prioritizedItem "high"]) 0 (prioritizedItem "high") ∧
    ¬ MeetsQueuePolicy (dispatchableStore [prioritizedItem "high"]) []
      (dispatchableWorkflow [prioritizedItem "high"]) (prioritizedItem "high") := by
  refine ⟨⟨List.mem_cons_self, rfl, by decide +kernel, _, List.mem_cons_self, rfl, _, rfl,
    by decide +kernel⟩, ?_⟩
  intro meets
  have recognised := meets.priority
  revert recognised
  decide +kernel

theorem normal_priority_dispatched :
    MeetsQueuePolicy (dispatchableStore [prioritizedItem "NORMAL"]) []
      (dispatchableWorkflow [prioritizedItem "NORMAL"]) (prioritizedItem "NORMAL") := by
  refine (dispatched_item_meets_queue_policy_iff [] (dispatchableStore [prioritizedItem "NORMAL"])
    (dispatchableWorkflow [prioritizedItem "NORMAL"]) 0 (prioritizedItem "NORMAL")
    ⟨List.mem_cons_self, rfl, by decide +kernel, _, List.mem_cons_self, rfl, _, rfl,
      by decide +kernel⟩).mpr
    ⟨by decide +kernel, ?_, by decide +kernel, ?_⟩
  · intro other member
    obtain rfl := List.mem_singleton.mp member
    exact ⟨⟨none, rfl⟩, none, rfl⟩
  · intro names iterated name member
    cases iterated
    cases member

end Lucius.Runtime
