import Lucius.Queue.Inspection
import Lucius.Runtime.DurableWaits

/-! The states the queue takes as blocked against those its writers put items in. -/

namespace Lucius.Queue

open Lucius.Action Mission Lucius.Runtime Lucius.Runtime.Tokens ReachableStates

/-- The check on the state in a resolution and in a repair. -/
def TakenAsBlocked (item : Item) : Prop := ∃ current ∈ blockedStates, state item = .ok current

/-- An item put into a state the dispatcher takes as blocked is one the queue takes as blocked. -/
def PutAsBlocked (old new : Item) : Prop :=
  ∀ target ∈ dispatchBlockedStates, queueState? new = some target → queueState? old ≠ some target →
    TakenAsBlocked new

theorem blocked_ne_ready {target : QueueWorkItemState} (blocked : target ∈ dispatchBlockedStates) :
    target ≠ .ready := by
  rintro rfl
  revert blocked
  decide

theorem dispatchBlocked_iff (target : QueueWorkItemState) :
    target ∈ dispatchBlockedStates ↔ target ∈ blockedStates ∨ target ∈ unlistedStates := by
  cases target <;> decide

theorem unlisted_not_blocked {target : QueueWorkItemState} (unlisted : target ∈ unlistedStates) :
    target ∉ blockedStates := by
  revert unlisted
  cases target <;> decide

theorem takenAsBlocked_iff {item : Item} {target : QueueWorkItemState} (other : target ≠ .ready)
    (stated : queueState? item = some target) : TakenAsBlocked item ↔ target ∈ blockedStates := by
  have current : state item = .ok target :=
    (state_ok item target).mpr ((queueState_of_stateIfValid other).mpr stated)
  constructor
  · rintro ⟨found, blocked, known⟩
    rw [current] at known
    exact Except.ok.inj known ▸ blocked
  · intro blocked
    exact ⟨target, blocked, current⟩

theorem putAsBlocked_refl (item : Item) : PutAsBlocked item item :=
  fun _ _ stated changed => absurd stated changed

theorem putAsBlocked_of_known {old new : Item} {target : QueueWorkItemState}
    (stated : queueState? new = some target)
    (known : target ∈ dispatchBlockedStates → target ∈ blockedStates) : PutAsBlocked old new := by
  intro found blocked held _
  have same : found = target := Option.some.inj (held.symm.trans stated)
  rw [same] at blocked
  exact (takenAsBlocked_iff (blocked_ne_ready blocked) stated).mpr (known blocked)

theorem putAsBlocked_inState (target : QueueWorkItemState) (item : Item) :
    PutAsBlocked item (inState target item) ↔
      (target ∈ unlistedStates → queueState? item = some target) := by
  have stated := Runtime.DurableWaits.queueState_inState target item
  constructor
  · intro put unlisted
    by_contra changed
    have blocked := (dispatchBlocked_iff target).mpr (.inr unlisted)
    have taken := put target blocked stated changed
    exact unlisted_not_blocked unlisted ((takenAsBlocked_iff (blocked_ne_ready blocked) stated).mp taken)
  · intro held found blocked known changed
    have same : found = target := Option.some.inj (known.symm.trans stated)
    rw [same] at blocked changed
    rcases (dispatchBlocked_iff target).mp blocked with taken | unlisted
    · exact (takenAsBlocked_iff (blocked_ne_ready blocked) stated).mpr taken
    · exact absurd (held unlisted) changed

/-- No wait puts an item in a state that only the dispatcher takes as blocked. -/
def HoldsKnown (store : Store) : WorkOperation → Prop
  | .mission operation => Accepted store operation → writtenState operation ∈ unlistedStates →
      ∀ row ∈ store.workflows.rows, ∀ item ∈ row.taskBacklog,
        targets store.workflows (writtenItems store operation) row.id item = true →
        queueState? item = some (writtenState operation)
  | _ => True

/-- A call of the queue or of the dispatcher keeps the state or writes one the queue knows. -/
theorem putAsBlocked_queue {operation : WorkOperation} {store after : Store}
    (queue : ∀ wait, operation ≠ .mission wait)
    (done : exec (attempt operation) store = (.ok (), after)) :
    Backlogs PutAsBlocked store.workflows after.workflows := by
  rcases attempt_wrote queue done with same | ⟨row, item, new, write, revised⟩
  · rw [congrArg Tables.workflows same]
    exact backlogs_refl putAsBlocked_refl store.workflows
  · refine backlogs_itemWrite putAsBlocked_refl write ?_
    rcases revised.stated with same | ⟨target, known, stated⟩
    · intro target _ stated changed
      exact absurd (same ▸ stated) changed
    · refine putAsBlocked_of_known stated fun taken => ?_
      rcases (dispatchBlocked_iff target).mp taken with blocked | unlisted
      · exact blocked
      · revert known unlisted
        cases target <;> decide

theorem putAsBlocked_waits {operation : Mission.MissionOperation} {store after : Store}
    (done : exec (perform operation) store = (.ok (), after)) :
    Backlogs PutAsBlocked store.workflows after.workflows ↔ HoldsKnown store (.mission operation) := by
  rw [perform_workflows done, backlogs_retargeted]
  constructor
  · intro put _ unlisted row member item inside targeted
    have related := put row member item inside
    rw [settle, if_pos targeted, putAsBlocked_inState] at related
    exact related unlisted
  · intro known row member item inside
    unfold settle
    by_cases targeted : targets store.workflows (writtenItems store operation) row.id item = true
    · rw [if_pos targeted, putAsBlocked_inState]
      exact fun unlisted => known ⟨after, done⟩ unlisted row member item inside targeted
    · rw [if_neg targeted]
      exact putAsBlocked_refl item

theorem putAsBlocked_step_iff (store : Store) (operation : WorkOperation) :
    Backlogs PutAsBlocked store.workflows (Runtime.step store operation).workflows ↔
      HoldsKnown store operation := by
  rcases outcome : exec (attempt operation) store with ⟨error | _, after⟩
  · have reached : Runtime.step store operation = store := transact_error outcome
    rw [reached]
    refine iff_of_true (backlogs_refl putAsBlocked_refl store.workflows) ?_
    cases operation with
    | mission wait =>
      rintro ⟨other, done⟩
      have raised : exec (perform wait) store = (.error error, after) := outcome
      rw [raised] at done
      cases done
    | _ => trivial
  · have reached : Runtime.step store operation = after := transact_ok outcome
    rw [reached]
    cases operation with
    | mission wait => exact putAsBlocked_waits outcome
    | _ => exact iff_of_true (putAsBlocked_queue (by simp) outcome) trivial

theorem putAsBlocked_run_iff (start : Store) (operations : List WorkOperation) :
    (∀ front operation back, operations = front ++ operation :: back →
      Backlogs PutAsBlocked (Run.run Runtime.step start front).workflows
        (Runtime.step (Run.run Runtime.step start front) operation).workflows) ↔
    Run.Meets Runtime.step HoldsKnown start operations := by
  rw [Run.meets_iff_forall]
  refine forall_congr' fun front => forall_congr' fun operation => forall_congr' fun back =>
    imp_congr_right fun _ => ?_
  exact putAsBlocked_step_iff _ operation

/-- In each view of the queue every item is in a bucket exactly when none is overlooked, and in
every run the items put in a state of the dispatcher's blocked ones are blocked ones of the queue
exactly when no wait puts an item in one of the two states the queue does not know. -/
theorem work_shown_iff_states_known (workflow : PersistentWorkflowRow)
    (workflows : Table PersistentWorkflowRow) (workflowIds : List String) (start : Store)
    (operations : List WorkOperation) :
    (∀ status, inspect workflow = .ok status →
      ((∀ item ∈ workflow.taskBacklog, itemId item ∈ status.shown.map itemId) ↔
        ∀ item ∈ workflow.taskBacklog, ¬ Overlooked workflow item)) ∧
    (∀ status rows, inspectGlobal workflows workflowIds = .ok status →
      globalWorkflows workflows workflowIds = .ok rows →
      ((∀ row ∈ rows, ∀ item ∈ row.taskBacklog,
          (row.id, itemId item) ∈ status.shown.map (fun found => (found.workflowId, found.itemId))) ↔
        ∀ row ∈ rows, ∀ item ∈ row.taskBacklog, ¬ OverlookedAmong rows row item)) ∧
    ((∀ front operation back, operations = front ++ operation :: back →
        Backlogs PutAsBlocked (Run.run Runtime.step start front).workflows
          (Runtime.step (Run.run Runtime.step start front) operation).workflows) ↔
      Run.Meets Runtime.step HoldsKnown start operations) := by
  refine ⟨?_, ?_, ?_⟩
  · intro status done
    exact inspect_shows_iff done
  · intro status rows done listed
    exact inspectGlobal_shows_iff done listed
  · exact putAsBlocked_run_iff start operations

/-- One item waits for a resource, the other has a priority that is none. -/
def overlookedWork : PersistentWorkflowRow :=
  { id := "LWORK_000001"
    workflowState := .planReady
    taskBacklog :=
      [[("item_id", .str "short"), ("state", .str "WAITING_RESOURCE_SHORT")],
        [("item_id", .str "odd"), ("state", .str "READY"), ("priority", .str "URGENT")]] }

def overlookedTable : Table PersistentWorkflowRow := .single overlookedWork

/-- An item whose block was resolved once. -/
def resolvedOnce : Store :=
  { workflows := .single {
      id := "LWORK_000001"
      workflowState := .planReady
      taskBacklog := [[("item_id", .str "first"), ("state", .str "READY_TO_RESUME"),
        ("current_block_checkpoint_id", .str "QBLOCK_000001"), ("version", .int 3)]] }
    missions := .single { id := "mission", canonicalSha := "HEAD" } }

def heldShort : Store :=
  Runtime.step resolvedOnce (.mission (.recordWait "mission"
    { waitClass := "RESOURCE_SHORT", reason := "held", itemId := some "first" }))

theorem short_wait_is_lost :
    (inspect overlookedWork).toOption.map (fun status => status.shown.map itemId) = some ["odd"] ∧
    (inspectGlobal overlookedTable []).toOption.map
      (fun status => status.shown.map (fun found => found.itemId)) = some [] ∧
    (itemAt heldShort.workflows "LWORK_000001" "first").bind queueState? = some .waitingResourceShort ∧
    (exec (resolveBlocker "LWORK_000001" "first" "QBLOCK_000001" 3 "Freed.") heldShort).1.map
      (fun _ => ()) = .error (.queueStateError "Blocked item required, got WAITING_RESOURCE_SHORT") ∧
    (exec (repairBlockedItemConfiguration "LWORK_000001" "first" "QBLOCK_000001" 3 none [])
      heldShort).1.map (fun _ => ()) =
        .error (.queueStateError "Blocked item required, got WAITING_RESOURCE_SHORT") := by
  decide +kernel

end Lucius.Queue
