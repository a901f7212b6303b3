import Lucius.Queue.Steps

/-! What an operation of the queue that raises leaves: no row is written before the last
exception can come. -/

namespace Lucius.Queue

open Lucius.Action

theorem workflowRow_same (workflowId : String) : Respects SameTables (workflowRow workflowId) := by
  unfold workflowRow
  apply respects_bind sameTables_trans get_same
  intro store
  split
  · exact respects_pure sameTables_refl _
  · exact respects_throw sameTables_refl _

theorem requireExecutable_same (workflow : PersistentWorkflowRow) :
    Respects SameTables (requireExecutable workflow) := by
  unfold requireExecutable
  split
  · exact respects_throw sameTables_refl _
  · exact respects_pure sameTables_refl _

theorem requireBlockingState_same (target : QueueWorkItemState) :
    Respects SameTables (requireBlockingState target) := by
  unfold requireBlockingState
  split
  · exact respects_pure sameTables_refl _
  · exact respects_throw sameTables_refl _

theorem setState_same (item : Item) (target : QueueWorkItemState) :
    Respects SameTables (setState item target) := by
  unfold setState
  apply respects_bind sameTables_trans (respects_ofExcept sameTables_refl _)
  intro version
  apply respects_bind sameTables_trans nowIso_same
  intro now
  exact respects_pure sameTables_refl _

theorem checkpointOf_same (workflow : PersistentWorkflowRow) (wanted : String) (item : Item)
    (priorState : QueueWorkItemState) (request : BlockRequest) :
    Respects SameTables (checkpointOf workflow wanted item priorState request) := by
  unfold checkpointOf
  apply respects_bind sameTables_trans (nextId_same _)
  intro id
  apply respects_bind sameTables_trans (respects_ofExcept sameTables_refl _)
  intro workCompleted
  apply respects_bind sameTables_trans utcNow_same
  intro createdAt
  exact respects_pure sameTables_refl _

theorem written_returns {α : Type} (row : PersistentWorkflowRow) (eventType action result : String)
    (value : α) : Returns (do
      Op.putWorkflow row
      auditWorkflow row eventType action result
      return value : Op α) := by
  apply returns_bind (returns_modify _)
  intro _
  apply returns_bind (returns_modify _)
  intro _
  exact returns_pure value

theorem blockItem_raised (workflow : PersistentWorkflowRow) (wanted : String) (item : Item)
    (priorState : QueueWorkItemState) (request : BlockRequest) (action : String) :
    OnRaise SameTables (blockItem workflow wanted item priorState request action) := by
  unfold blockItem
  apply onRaise_bind sameTables_trans (checkpointOf_same _ _ _ _ _)
  intro checkpoint
  apply onRaise_bind sameTables_trans nowIso_same
  intro blockedAt
  apply onRaise_bind sameTables_trans (respects_ofExcept sameTables_refl _)
  intro marked
  apply onRaise_bind sameTables_trans (setState_same _ _)
  intro blocked
  apply onRaise_bind sameTables_trans utcNow_same
  intro updatedAt
  exact onRaise_of_returns (written_returns _ _ _ _ _)

theorem throw_raised {α : Type} (error : PyExc) : OnRaise SameTables (throw error : Op α) :=
  onRaise_of_respects (respects_throw sameTables_refl error)

theorem blockRunningItem_raised (workflowId wanted : String) (request : BlockRequest) :
    OnRaise SameTables (blockRunningItem workflowId wanted request) := by
  unfold blockRunningItem
  apply onRaise_bind sameTables_trans (requireBlockingState_same _)
  intro _
  apply onRaise_bind sameTables_trans (workflowRow_same _)
  intro workflow
  apply onRaise_bind sameTables_trans (respects_ofExcept sameTables_refl _)
  intro item
  apply onRaise_bind sameTables_trans (respects_ofExcept sameTables_refl _)
  intro priorState
  split
  · exact throw_raised _
  · exact blockItem_raised _ _ _ _ _ _

theorem blockDispatchSelectedItem_raised (workflowId wanted : String)
    (expectedState : QueueWorkItemState) (expectedItemVersion : Int) (request : BlockRequest) :
    OnRaise SameTables (blockDispatchSelectedItem workflowId wanted expectedState expectedItemVersion
      request) := by
  unfold blockDispatchSelectedItem
  apply onRaise_bind sameTables_trans (requireBlockingState_same _)
  intro _
  split
  · exact throw_raised _
  · apply onRaise_bind sameTables_trans (workflowRow_same _)
    intro workflow
    apply onRaise_bind sameTables_trans (respects_ofExcept sameTables_refl _)
    intro item
    apply onRaise_bind sameTables_trans (respects_ofExcept sameTables_refl _)
    intro priorState
    split
    · exact throw_raised _
    · apply onRaise_bind sameTables_trans (respects_ofExcept sameTables_refl _)
      intro version
      split
      · exact throw_raised _
      · exact blockItem_raised _ _ _ _ _ _

theorem completeItem_raised (workflowId wanted : String) (substeps : List String) :
    OnRaise SameTables (completeItem workflowId wanted substeps) := by
  unfold completeItem
  apply onRaise_bind sameTables_trans (workflowRow_same _)
  intro workflow
  apply onRaise_bind sameTables_trans (requireExecutable_same _)
  intro _
  apply onRaise_bind sameTables_trans (respects_ofExcept sameTables_refl _)
  intro item
  apply onRaise_bind sameTables_trans (respects_ofExcept sameTables_refl _)
  intro current
  split
  · exact throw_raised _
  · apply onRaise_bind sameTables_trans (respects_ofExcept sameTables_refl _)
    intro existing
    apply onRaise_bind sameTables_trans nowIso_same
    intro completedAt
    apply onRaise_bind sameTables_trans (setState_same _ _)
    intro completed
    apply onRaise_bind sameTables_trans utcNow_same
    intro updatedAt
    exact onRaise_of_returns (written_returns _ _ _ _ _)

theorem startItem_raised (workflow : PersistentWorkflowRow) (item : Item) (wanted : String) :
    OnRaise SameTables (startItem workflow item wanted) := by
  unfold startItem
  apply onRaise_bind sameTables_trans (setState_same _ _)
  intro running
  apply onRaise_bind sameTables_trans nowIso_same
  intro startedAt
  apply onRaise_bind sameTables_trans (respects_ofExcept sameTables_refl _)
  intro generation
  apply onRaise_bind sameTables_trans utcNow_same
  intro updatedAt
  apply onRaise_of_returns
  apply returns_bind (returns_modify _)
  intro _
  exact returns_pure _

theorem startNext_raised (workflowId : String) : OnRaise SameTables (startNext workflowId) := by
  unfold startNext
  apply onRaise_bind sameTables_trans (workflowRow_same _)
  intro workflow
  apply onRaise_bind sameTables_trans (requireExecutable_same _)
  intro _
  apply onRaise_bind sameTables_trans (respects_ofExcept sameTables_refl _)
  intro selection
  apply onRaise_bind sameTables_trans (respects_ofExcept sameTables_refl _)
  intro parsed
  split
  · split
    · exact throw_raised _
    · exact onRaise_of_returns (returns_pure _)
  · apply onRaise_bind sameTables_trans (respects_ofExcept sameTables_refl _)
    intro item
    split
    · exact throw_raised _
    · split
      · exact throw_raised _
      · split
        · exact throw_raised _
        · apply onRaise_bind_returns (startItem_raised _ _ _)
          intro row
          apply returns_bind (returns_modify _)
          intro _
          exact returns_pure _

theorem resolveBlocker_raised (workflowId wanted checkpointId : String) (expected : Int)
    (event : String) :
    OnRaise SameTables (resolveBlocker workflowId wanted checkpointId expected event) := by
  unfold resolveBlocker
  apply onRaise_bind sameTables_trans (workflowRow_same _)
  intro workflow
  apply onRaise_bind sameTables_trans (respects_ofExcept sameTables_refl _)
  intro item
  apply onRaise_bind sameTables_trans (respects_ofExcept sameTables_refl _)
  intro _
  apply onRaise_bind sameTables_trans nowIso_same
  intro resolvedAt
  apply onRaise_bind sameTables_trans (setState_same _ _)
  intro resolved
  apply onRaise_bind sameTables_trans utcNow_same
  intro updatedAt
  exact onRaise_of_returns (written_returns _ _ _ _ _)

theorem repairBlockedItemConfiguration_raised (workflowId wanted checkpointId : String)
    (expected : Int) (timeoutSeconds : Option Json) (patch : Dict) :
    OnRaise SameTables (repairBlockedItemConfiguration workflowId wanted checkpointId expected
      timeoutSeconds patch) := by
  unfold repairBlockedItemConfiguration
  apply onRaise_bind sameTables_trans (workflowRow_same _)
  intro workflow
  apply onRaise_bind sameTables_trans (respects_ofExcept sameTables_refl _)
  intro item
  apply onRaise_bind sameTables_trans (respects_ofExcept sameTables_refl _)
  intro _
  apply onRaise_bind sameTables_trans (respects_ofExcept sameTables_refl _)
  intro timed
  apply onRaise_bind sameTables_trans (respects_ofExcept sameTables_refl _)
  intro _
  apply onRaise_bind sameTables_trans (respects_ofExcept sameTables_refl _)
  intro limits
  apply onRaise_bind sameTables_trans (respects_ofExcept sameTables_refl _)
  intro version
  apply onRaise_bind sameTables_trans nowIso_same
  intro now
  apply onRaise_bind sameTables_trans utcNow_same
  intro updatedAt
  exact onRaise_of_returns (written_returns _ _ _ _ _)

theorem exec_workflowRow (workflowId : String) (store : Store) :
    exec (workflowRow workflowId) store =
      ((store.workflows.get? workflowId).elim
        (.error (.queueStateError ("Unknown persistent workflow: " ++ workflowId))) .ok, store) := by
  unfold workflowRow
  rw [exec_get_bind]
  cases store.workflows.get? workflowId with
  | none => rfl
  | some row => rfl

theorem first_identity {workflows : Table PersistentWorkflowRow} {workflowIds : List String}
    {selection : GlobalQueueSelection} {rows : List PersistentWorkflowRow}
    {parsed : List GlobalQueueItem} {chosen : GlobalQueueItem} {workflow : PersistentWorkflowRow}
    {item : Item} (first : First workflows workflowIds selection rows parsed chosen)
    (present : workflows.get? (selection.selectedWorkflowId.getD "") = some workflow)
    (found : findItem workflow.taskBacklog (selection.selectedItemId.getD "") = .ok item) :
    selection.selectedProjectId = workflow.projectId ∧
      selection.selectedWorkflowId = some workflow.id ∧
      selection.selectedItemId = some (itemId item) := by
  obtain ⟨-, origin, -⟩ := globalItems_ok first.read
  obtain ⟨row, member, _, -, parse⟩ := origin chosen first.known
  obtain ⟨-, -, rowNamed, project, -⟩ := globalItem_ok parse
  have inside : row ∈ workflows.rows :=
    globalWorkflows_known first.listed (List.mem_of_mem_filter member)
  rw [first.workflowId] at present
  have named : workflow.id = chosen.workflowId := Table.get?_key present
  have same : row = workflow :=
    Table.row_unique inside (Table.get?_mem present) (rowNamed.symm.trans named.symm)
  obtain ⟨_, _, -, itemNamed, -⟩ := findItem_split found
  refine ⟨?_, ?_, ?_⟩
  · rw [first.projectId, project, same]
  · rw [first.workflowId, named]
  · rw [itemNamed, first.itemId]
    rfl

theorem startGlobalSelection_raised {selection : GlobalQueueSelection} {workflowIds : List String}
    {workflowId : String} (selected : selection.selectedWorkflowId = some workflowId) :
    OnRaise SameTables (startGlobalSelection selection workflowIds) := by
  intro store error after raised
  unfold startGlobalSelection at raised
  rw [exec_bind, exec_workflowRow] at raised
  cases present : store.workflows.get? (selection.selectedWorkflowId.getD "") with
  | none =>
    rw [present] at raised
    cases raised
    rfl
  | some workflow =>
    rw [present] at raised
    dsimp only [Option.elim_some] at raised
    split at raised
    · cases raised
      rfl
    split at raised
    · cases raised
      rfl
    rw [exec_get_bind] at raised
    cases made : selectGlobalNext store.workflows workflowIds with
    | error refusal =>
      rw [made] at raised
      cases raised
      rfl
    | ok current =>
      rw [exec_bind_ofExcept made] at raised
      split at raised
      · cases raised
        rfl
      rename_i agrees
      have same : sameSelection current selection = true := by simpa using agrees
      simp only [sameSelection, Bool.and_eq_true, decide_eq_true_eq] at same
      obtain ⟨⟨⟨sameProject, sameWorkflow⟩, sameItem⟩, -⟩ := same
      obtain ⟨rows, parsed, chosen, first⟩ := selectGlobalNext_first made (sameWorkflow.trans selected)
      cases parse : globalItems none [workflow] with
      | error refusal =>
        rw [parse] at raised
        cases raised
        rfl
      | ok items =>
        rw [exec_bind_ofExcept parse] at raised
        cases valid : validateGlobalStart workflow items current selection with
        | error refusal =>
          rw [valid] at raised
          cases raised
          rfl
        | ok pair =>
          obtain ⟨item, candidate⟩ := pair
          rw [exec_bind_ofExcept valid] at raised
          dsimp only at raised
          have found := (validateGlobalStart_ok valid).1
          rw [← sameWorkflow] at present
          rw [← sameItem] at found
          have identity := first_identity first present found
          rw [sameProject, sameWorkflow, sameItem] at identity
          refine onRaise_bind sameTables_trans (respects_ofExcept sameTables_refl _)
            ?_ store error after raised
          intro previous
          apply onRaise_bind_returns (startItem_raised _ _ _)
          intro row
          rw [if_neg (by simp only [identity, ne_eq, not_true, or_self, not_false_eq_true])]
          apply returns_bind (returns_modify _)
          intro _
          exact returns_pure _

theorem startSelectedGlobalItem_raised (selection : GlobalQueueSelection) (workflowIds : List String) :
    OnRaise SameTables (startSelectedGlobalItem selection workflowIds) := by
  intro store error after raised
  unfold startSelectedGlobalItem at raised
  split at raised
  · cases raised
  · rename_i workflowId selected
    exact startGlobalSelection_raised selected store error after raised

theorem startGlobalNext_raised (workflowIds : List String) :
    OnRaise SameTables (startGlobalNext workflowIds) := by
  intro store error after raised
  unfold startGlobalNext at raised
  rw [exec_get_bind] at raised
  cases made : selectGlobalNext store.workflows workflowIds with
  | error refusal =>
    rw [made] at raised
    cases raised
    rfl
  | ok selection =>
    rw [exec_bind_ofExcept made] at raised
    exact startSelectedGlobalItem_raised selection workflowIds store error after raised

end Lucius.Queue
