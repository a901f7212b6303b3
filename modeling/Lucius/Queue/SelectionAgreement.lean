import Lucius.Lib.Sorting
import Lucius.Queue.Global

/-! Whether the queue of one workflow and the queue over that workflow alone select the same. -/

namespace Lucius.Queue

def duplicateRunning : PyExc := .queueStateError "Duplicate RUNNING logical task detected."

def duplicateGlobalRunning : PyExc :=
  .queueStateError "Duplicate global RUNNING logical work item detected."

/-- The two selections are of the same items in the same order, or are refused alike. -/
inductive Agree : Except PyExc QueueSelection → Except PyExc GlobalQueueSelection → Prop where
  | refused (error : PyExc) : Agree (.error error) (.error error)
  | duplicated : Agree (.error duplicateRunning) (.error duplicateGlobalRunning)
  | selected (own : QueueSelection) (selection : GlobalQueueSelection)
      (item : own.selectedItemId = selection.selectedItemId)
      (order : own.eligibleItemIds = selection.eligibleItems.map (·.itemId))
      (blocked : own.blockedItemIds = selection.blockedItems.map (·.itemId)) :
      Agree (.ok own) (.ok selection)

section

variable {workflows : Table PersistentWorkflowRow} {workflow : PersistentWorkflowRow}

theorem globalWorkflows_single (present : workflows.get? workflow.id = some workflow)
    (busy : workflow.taskBacklog ≠ []) : globalWorkflows workflows [workflow.id] = .ok [workflow] := by
  have known : lookupWorkflow workflows workflow.id = .ok workflow := by
    unfold lookupWorkflow
    rw [present]
  have kept : !workflow.taskBacklog.isEmpty := by simpa using busy
  unfold globalWorkflows
  simp [known, kept, bind, Except.bind, pure, Except.pure]

theorem lifecycleExclusions_single (eligible : workflow.workflowState ∈ executionEligibleWorkflowStates) :
    lifecycleExclusions [workflow] = .ok [] := by
  unfold lifecycleExclusions workflowExecutionExclusionReason
  rw [if_pos eligible]
  rfl

theorem schedulableWorkflows_single
    (eligible : workflow.workflowState ∈ executionEligibleWorkflowStates) :
    schedulableWorkflows [workflow] = [workflow] := by
  simp [schedulableWorkflows, workflowExecutionExclusionReason, eligible]

theorem executionItems_bound {parsed : List GlobalQueueItem} (read : executionItems workflow = .ok parsed)
    {found : GlobalQueueItem} (member : found ∈ parsed) :
    found.projectId = workflow.projectId ∧ found.workflowId = workflow.id := by
  obtain ⟨-, origin, -⟩ := globalItems_ok read
  obtain ⟨row, single, item, -, parse⟩ := origin found member
  obtain ⟨-, -, workflowId, projectId, -⟩ := globalItem_ok parse
  rw [List.mem_singleton.mp single] at workflowId projectId
  exact ⟨projectId, workflowId⟩

theorem globalSelectionKey_le {first second : GlobalQueueItem}
    (project : first.projectId = second.projectId) (workflow : first.workflowId = second.workflowId) :
    globalSelectionKey first ≤ globalSelectionKey second ↔
      scopedSelectionKey first ≤ scopedSelectionKey second := by
  unfold globalSelectionKey scopedSelectionKey
  simp [Prod.Lex.toLex_le_toLex, project, workflow]

theorem validateRunning_agree {items : List GlobalQueueItem}
    (bound : ∀ item ∈ items, item.projectId = workflow.projectId) :
    (validateScopedRunningIdentities items = .ok () ∧ validateGlobalRunningIdentities items = .ok ()) ∨
      (validateScopedRunningIdentities items = .error duplicateRunning ∧
        validateGlobalRunningIdentities items = .error duplicateGlobalRunning) := by
  have pairs : (items.filter (fun item => item.state = some .running)).map
      (fun item => (item.projectId, item.logicalTaskId)) =
        ((items.filter (fun item => item.state = some .running)).map (·.logicalTaskId)).map
          (Prod.mk workflow.projectId) := by
    rw [List.map_map]
    apply List.map_congr_left
    intro item member
    rw [bound item (List.mem_of_mem_filter member)]
    rfl
  have injective : Function.Injective (Prod.mk workflow.projectId : String → Option String × String) :=
    fun _ _ same => (Prod.mk.inj same).2
  have same : ((items.filter (fun item => item.state = some .running)).map
      (fun item => (item.projectId, item.logicalTaskId))).Nodup ↔
        ((items.filter (fun item => item.state = some .running)).map (·.logicalTaskId)).Nodup := by
    rw [pairs]
    exact List.nodup_map_iff injective
  unfold validateScopedRunningIdentities validateGlobalRunningIdentities
  by_cases distinct : ((items.filter (fun item => item.state = some .running)).map
      (·.logicalTaskId)).Nodup
  · exact .inl ⟨if_pos distinct, if_pos (same.mpr distinct)⟩
  · exact .inr ⟨if_neg distinct, if_neg fun other => distinct (same.mp other)⟩

/-- The two queues select alike for one workflow that can be executed. -/
theorem selections_agree (present : workflows.get? workflow.id = some workflow)
    (eligible : workflow.workflowState ∈ executionEligibleWorkflowStates)
    (busy : workflow.taskBacklog ≠ []) :
    Agree (selectNext workflow) (selectGlobalNext workflows [workflow.id]) := by
  unfold selectNext selectGlobalNext
  rw [globalWorkflows_single present busy]
  simp only [bind, Except.bind]
  rw [lifecycleExclusions_single eligible]
  dsimp only
  rw [schedulableWorkflows_single eligible, show globalItems none [workflow] = executionItems workflow from rfl]
  rcases read : executionItems workflow with error | parsed
  · exact .refused error
  dsimp only
  have bound : ∀ item ∈ parsed.filter (·.queueStatePresent), item.projectId = workflow.projectId :=
    fun item member => (executionItems_bound read (List.mem_of_mem_filter member)).1
  rcases validateRunning_agree bound with ⟨own, overall⟩ | ⟨own, overall⟩
  · rw [own, overall]
    dsimp only
    cases active : (parsed.filter (·.queueStatePresent)).filter
        (fun item => item.state = some .running) with
    | cons first others => exact .selected _ _ rfl rfl rfl
    | nil =>
      dsimp only
      have ordered : ∀ items : List GlobalQueueItem, (∀ item ∈ items, item ∈ parsed) →
          sortedBy globalSelectionKey items = sortedBy scopedSelectionKey items := by
        intro items known
        apply sortedBy_congr
        intro first inside second other
        obtain ⟨project, named⟩ := executionItems_bound read (known first inside)
        obtain ⟨sameProject, sameNamed⟩ := executionItems_bound read (known second other)
        exact globalSelectionKey_le (project.trans sameProject.symm) (named.trans sameNamed.symm)
      rw [ordered]
      · cases sortedBy scopedSelectionKey ((parsed.filter (·.schedulable)).filter
            (globalIsEligible · (parsed.filter (·.schedulable)))) with
        | nil => exact .selected _ _ rfl rfl rfl
        | cons chosen others => exact .selected _ _ rfl rfl rfl
      · intro item member
        exact List.mem_of_mem_filter (List.mem_of_mem_filter member)
  · rw [own, overall]
    exact .duplicated

end

def notesItem (itemId state : String) : Item :=
  [("item_id", .str itemId), ("state", .str state), ("logical_task_id", .str "notes")]

/-- A workflow with items of one logical task, in the given states. -/
def notesWorkflow (states : List (String × String)) : PersistentWorkflowRow where
  id := "LWORK_000001"
  workflowState := .planReady
  taskBacklog := states.map (fun entry => notesItem entry.1 entry.2)

def notesWorkflows (states : List (String × String)) : Table PersistentWorkflowRow :=
  ⟨[notesWorkflow states], List.nodup_singleton _⟩

theorem ready_items_selected_alike :
    Agree (selectNext (notesWorkflow [("b", "READY"), ("a", "READY"), ("c", "WAITING_HUMAN")]))
      (selectGlobalNext (notesWorkflows [("b", "READY"), ("a", "READY"), ("c", "WAITING_HUMAN")])
        ["LWORK_000001"]) :=
  selections_agree rfl (by decide) (by decide)

/-- Both queues refuse two running items of one logical task, each in its own words. -/
theorem duplicate_running_named_apart :
    selectNext (notesWorkflow [("a", "RUNNING"), ("b", "RUNNING")]) = .error duplicateRunning ∧
      ∃ error, selectGlobalNext (notesWorkflows [("a", "RUNNING"), ("b", "RUNNING")])
        ["LWORK_000001"] = .error error ∧ error ≠ duplicateRunning := by
  refine ⟨by decide +kernel, duplicateGlobalRunning, ?_, by decide⟩
  have told : (match selectGlobalNext (notesWorkflows [("a", "RUNNING"), ("b", "RUNNING")])
      ["LWORK_000001"] with
    | .ok _ => none
    | .error error => some error) = some duplicateGlobalRunning := by decide +kernel
  cases ended : selectGlobalNext (notesWorkflows [("a", "RUNNING"), ("b", "RUNNING")])
      ["LWORK_000001"] with
  | ok selection =>
    rw [ended] at told
    cases told
  | error error =>
    rw [ended] at told
    rw [Option.some.inj told]

end Lucius.Queue
