import Lucius.Persistence.Identifiers
import Lucius.Queue.Steps

/-! The calls of the queue issue identifiers and take none back, and a block is named by the
identifier it issues. -/

namespace Lucius.Queue

open Lucius.Action

theorem grows_bind {α β : Type} {first : Op α} {next : α → Op β} (one : Respects IssuedGrow first)
    (two : ∀ result, Respects IssuedGrow (next result)) : Respects IssuedGrow (first >>= next) :=
  respects_bind issuedGrow_trans one two

theorem grows_ofExcept {α : Type} (value : Except PyExc α) :
    Respects IssuedGrow (Action.ofExcept value : Op α) :=
  respects_ofExcept issuedGrow_refl value

theorem grows_pure {α : Type} (value : α) : Respects IssuedGrow (pure value : Op α) :=
  respects_pure issuedGrow_refl value

theorem grows_throw {α : Type} (error : PyExc) : Respects IssuedGrow (throw error : Op α) :=
  respects_throw issuedGrow_refl error

theorem workflowRow_grows (workflowId : String) : Respects IssuedGrow (workflowRow workflowId) := by
  unfold workflowRow
  apply grows_bind get_grows
  intro store
  split
  · exact grows_pure _
  · exact grows_throw _

theorem requireExecutable_grows (workflow : PersistentWorkflowRow) :
    Respects IssuedGrow (requireExecutable workflow) := by
  unfold requireExecutable
  split
  · exact grows_throw _
  · exact grows_pure _

theorem requireBlockingState_grows (target : QueueWorkItemState) :
    Respects IssuedGrow (requireBlockingState target) := by
  unfold requireBlockingState
  split
  · exact grows_pure _
  · exact grows_throw _

theorem setState_grows (item : Item) (target : QueueWorkItemState) :
    Respects IssuedGrow (setState item target) := by
  unfold setState
  apply grows_bind (grows_ofExcept _)
  intro version
  apply grows_bind nowIso_grows
  intro now
  exact grows_pure _

theorem written_grows {α : Type} (row : PersistentWorkflowRow) (eventType action result : String)
    (value : α) : Respects IssuedGrow (do
      Op.putWorkflow row
      auditWorkflow row eventType action result
      return value : Op α) := by
  apply grows_bind (putWorkflow_grows _)
  intro _
  apply grows_bind (record_grows _)
  intro _
  exact grows_pure value

theorem checkpointOf_grows (workflow : PersistentWorkflowRow) (wanted : String) (item : Item)
    (priorState : QueueWorkItemState) (request : BlockRequest) :
    Respects IssuedGrow (checkpointOf workflow wanted item priorState request) := by
  unfold checkpointOf
  apply grows_bind (nextId_grows _)
  intro id
  apply grows_bind (grows_ofExcept _)
  intro workCompleted
  apply grows_bind utcNow_grows
  intro createdAt
  exact grows_pure _

theorem blockTail_grows (workflow : PersistentWorkflowRow) (wanted : String) (item : Item)
    (request : BlockRequest) (action : String) (checkpoint : QueueBlockCheckpoint) :
    Respects IssuedGrow (do
      let blockedAt ← Op.nowIso
      let marked ← Action.ofExcept (withCheckpoint item checkpoint blockedAt)
      let blocked ← setState marked request.blockingState
      let updatedAt ← Op.utcNow
      let row := { workflow with
        activeTaskId := none
        taskBacklog := replaceItem workflow.taskBacklog wanted blocked
        checkpointHistory := workflow.checkpointHistory ++ [.str checkpoint.id]
        updatedAt := updatedAt }
      Op.putWorkflow row
      auditWorkflow row "QUEUE_WORK_ITEM_BLOCKED" action (StrEnum.value request.blockingState)
      return checkpoint : Op QueueBlockCheckpoint) := by
  apply grows_bind nowIso_grows
  intro blockedAt
  apply grows_bind (grows_ofExcept _)
  intro marked
  apply grows_bind (setState_grows _ _)
  intro blocked
  apply grows_bind utcNow_grows
  intro updatedAt
  exact written_grows _ _ _ _ _

theorem blockItem_grows (workflow : PersistentWorkflowRow) (wanted : String) (item : Item)
    (priorState : QueueWorkItemState) (request : BlockRequest) (action : String) :
    Respects IssuedGrow (blockItem workflow wanted item priorState request action) := by
  unfold blockItem
  apply grows_bind (checkpointOf_grows _ _ _ _ _)
  intro checkpoint
  exact blockTail_grows _ _ _ _ _ _

theorem blockRunningItem_grows (workflowId wanted : String) (request : BlockRequest) :
    Respects IssuedGrow (blockRunningItem workflowId wanted request) := by
  unfold blockRunningItem
  apply grows_bind (requireBlockingState_grows _)
  intro _
  apply grows_bind (workflowRow_grows _)
  intro workflow
  apply grows_bind (grows_ofExcept _)
  intro item
  apply grows_bind (grows_ofExcept _)
  intro priorState
  split
  · exact grows_throw _
  · exact blockItem_grows _ _ _ _ _ _

theorem blockDispatchSelectedItem_grows (workflowId wanted : String)
    (expectedState : QueueWorkItemState) (expectedItemVersion : Int) (request : BlockRequest) :
    Respects IssuedGrow (blockDispatchSelectedItem workflowId wanted expectedState expectedItemVersion
      request) := by
  unfold blockDispatchSelectedItem
  apply grows_bind (requireBlockingState_grows _)
  intro _
  split
  · exact grows_throw _
  · apply grows_bind (workflowRow_grows _)
    intro workflow
    apply grows_bind (grows_ofExcept _)
    intro item
    apply grows_bind (grows_ofExcept _)
    intro priorState
    split
    · exact grows_throw _
    · apply grows_bind (grows_ofExcept _)
      intro version
      split
      · exact grows_throw _
      · exact blockItem_grows _ _ _ _ _ _

theorem completeItem_grows (workflowId wanted : String) (substeps : List String) :
    Respects IssuedGrow (completeItem workflowId wanted substeps) := by
  unfold completeItem
  apply grows_bind (workflowRow_grows _)
  intro workflow
  apply grows_bind (requireExecutable_grows _)
  intro _
  apply grows_bind (grows_ofExcept _)
  intro item
  apply grows_bind (grows_ofExcept _)
  intro current
  split
  · exact grows_throw _
  · apply grows_bind (grows_ofExcept _)
    intro existing
    apply grows_bind nowIso_grows
    intro completedAt
    apply grows_bind (setState_grows _ _)
    intro completed
    apply grows_bind utcNow_grows
    intro updatedAt
    exact written_grows _ _ _ _ _

theorem resolveBlocker_grows (workflowId wanted checkpointId : String) (expected : Int)
    (event : String) :
    Respects IssuedGrow (resolveBlocker workflowId wanted checkpointId expected event) := by
  unfold resolveBlocker
  apply grows_bind (workflowRow_grows _)
  intro workflow
  apply grows_bind (grows_ofExcept _)
  intro item
  apply grows_bind (grows_ofExcept _)
  intro _
  apply grows_bind nowIso_grows
  intro resolvedAt
  apply grows_bind (setState_grows _ _)
  intro resolved
  apply grows_bind utcNow_grows
  intro updatedAt
  exact written_grows _ _ _ _ _

theorem repairBlockedItemConfiguration_grows (workflowId wanted checkpointId : String)
    (expected : Int) (timeoutSeconds : Option Json) (patch : Dict) :
    Respects IssuedGrow (repairBlockedItemConfiguration workflowId wanted checkpointId expected
      timeoutSeconds patch) := by
  unfold repairBlockedItemConfiguration
  apply grows_bind (workflowRow_grows _)
  intro workflow
  apply grows_bind (grows_ofExcept _)
  intro item
  apply grows_bind (grows_ofExcept _)
  intro _
  apply grows_bind (grows_ofExcept _)
  intro timed
  apply grows_bind (grows_ofExcept _)
  intro _
  apply grows_bind (grows_ofExcept _)
  intro limits
  apply grows_bind (grows_ofExcept _)
  intro version
  apply grows_bind nowIso_grows
  intro now
  apply grows_bind utcNow_grows
  intro updatedAt
  exact written_grows _ _ _ _ _

theorem startItem_grows (workflow : PersistentWorkflowRow) (item : Item) (wanted : String) :
    Respects IssuedGrow (startItem workflow item wanted) := by
  unfold startItem
  apply grows_bind (setState_grows _ _)
  intro running
  apply grows_bind nowIso_grows
  intro startedAt
  apply grows_bind (grows_ofExcept _)
  intro generation
  apply grows_bind utcNow_grows
  intro updatedAt
  apply grows_bind (putWorkflow_grows _)
  intro _
  exact grows_pure _

theorem startNext_grows (workflowId : String) : Respects IssuedGrow (startNext workflowId) := by
  unfold startNext
  apply grows_bind (workflowRow_grows _)
  intro workflow
  apply grows_bind (requireExecutable_grows _)
  intro _
  apply grows_bind (grows_ofExcept _)
  intro selection
  apply grows_bind (grows_ofExcept _)
  intro parsed
  split
  · split
    · exact grows_throw _
    · exact grows_pure _
  · apply grows_bind (grows_ofExcept _)
    intro item
    split
    · exact grows_throw _
    · split
      · exact grows_throw _
      · split
        · exact grows_throw _
        · apply grows_bind (startItem_grows _ _ _)
          intro row
          apply grows_bind (record_grows _)
          intro _
          exact grows_pure _

theorem startGlobalSelection_grows (selection : GlobalQueueSelection) (workflowIds : List String) :
    Respects IssuedGrow (startGlobalSelection selection workflowIds) := by
  unfold startGlobalSelection
  apply grows_bind (workflowRow_grows _)
  intro workflow
  split
  · exact grows_throw _
  · split
    · exact grows_throw _
    · apply grows_bind get_grows
      intro store
      apply grows_bind (grows_ofExcept _)
      intro current
      split
      · exact grows_throw _
      · apply grows_bind (grows_ofExcept _)
        intro parsed
        apply grows_bind (grows_ofExcept _)
        rintro ⟨item, selected⟩
        apply grows_bind (grows_ofExcept _)
        intro previousVersion
        apply grows_bind (startItem_grows _ _ _)
        intro row
        split
        · exact grows_throw _
        · apply grows_bind (record_grows _)
          intro _
          exact grows_pure _

theorem startGlobalNext_grows (workflowIds : List String) :
    Respects IssuedGrow (startGlobalNext workflowIds) := by
  unfold startGlobalNext
  apply grows_bind get_grows
  intro store
  apply grows_bind (grows_ofExcept _)
  intro selection
  unfold startSelectedGlobalItem
  split
  · exact grows_pure _
  · exact startGlobalSelection_grows _ _

/-- The identifier is the next one, and it counts as issued from then on. -/
structure Issues (checkpointId : String) (before after : Store) : Prop where
  next : checkpointId = formatPublicId .queueCheckpoint (before.nextNumber .queueCheckpoint)
  spent : before.nextNumber .queueCheckpoint ≤ after.issued .queueCheckpoint

theorem blockItem_issues {workflow : PersistentWorkflowRow} {wanted : String} {item : Item}
    {priorState : QueueWorkItemState} {request : BlockRequest} {action : String}
    {checkpoint : QueueBlockCheckpoint} {store after : Store}
    (done : Action.exec (blockItem workflow wanted item priorState request action) store =
      (.ok checkpoint, after)) : Issues checkpoint.id store after := by
  unfold blockItem at done
  obtain ⟨made, middle, making, done⟩ := bind_ok done
  have named : made.id = formatPublicId .queueCheckpoint (store.nextNumber .queueCheckpoint) ∧
      middle.issued .queueCheckpoint = store.nextNumber .queueCheckpoint := by
    unfold checkpointOf at making
    rw [exec_bind_of_ok (Op.exec_nextId _ _)] at making
    obtain ⟨_, _, making⟩ := bind_ofExcept_ok making
    rw [exec_bind_of_ok (Op.exec_utcNow _)] at making
    obtain ⟨same, reached⟩ := ok_pure making
    rw [same, reached]
    exact ⟨rfl, rfl⟩
  have later := respects_exec (blockTail_grows workflow wanted item request action made) done
  rw [exec_bind_of_ok (Op.exec_nowIso _)] at done
  obtain ⟨marked, _, done⟩ := bind_ofExcept_ok done
  obtain ⟨blocked, _, _, done⟩ := bind_ok done
  rw [exec_bind_of_ok (Op.exec_utcNow _), exec_bind_of_ok (Op.exec_putWorkflow _ _),
    auditWorkflow, exec_bind_of_ok (Op.exec_record _ _)] at done
  have same : checkpoint = made := (ok_pure done).1
  constructor
  · rw [same, named.1]
  · rw [← named.2]
    exact later .queueCheckpoint

theorem blockRunningItem_issues {workflowId wanted : String} {request : BlockRequest}
    {checkpoint : QueueBlockCheckpoint} {store after : Store}
    (done : Action.exec (blockRunningItem workflowId wanted request) store = (.ok checkpoint, after)) :
    Issues checkpoint.id store after := by
  unfold blockRunningItem at done
  obtain ⟨-, done⟩ := requireBlockingState_bind_ok done
  obtain ⟨row, -, -, done⟩ := workflowRow_bind_ok done
  obtain ⟨item, -, done⟩ := bind_ofExcept_ok done
  obtain ⟨prior, -, done⟩ := bind_ofExcept_ok done
  split at done
  · cases done
  · exact blockItem_issues done

theorem blockDispatchSelectedItem_issues {workflowId wanted : String}
    {expectedState : QueueWorkItemState} {expectedItemVersion : Int} {request : BlockRequest}
    {checkpoint : QueueBlockCheckpoint} {store after : Store}
    (done : Action.exec (blockDispatchSelectedItem workflowId wanted expectedState
      expectedItemVersion request) store = (.ok checkpoint, after)) :
    Issues checkpoint.id store after := by
  unfold blockDispatchSelectedItem at done
  obtain ⟨-, done⟩ := requireBlockingState_bind_ok done
  split at done
  · cases done
  · obtain ⟨row, -, -, done⟩ := workflowRow_bind_ok done
    obtain ⟨item, -, done⟩ := bind_ofExcept_ok done
    obtain ⟨prior, -, done⟩ := bind_ofExcept_ok done
    split at done
    · cases done
    · obtain ⟨version, -, done⟩ := bind_ofExcept_ok done
      split at done
      · cases done
      · exact blockItem_issues done

end Lucius.Queue
