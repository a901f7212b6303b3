import Lucius.Lib.Run
import Lucius.Runtime.Dispatcher
import Lucius.Runtime.Waits

/-! The writers of a backlog side by side: the queue, the dispatcher and the
supervisor of missions. Each keeps the items and their places, so what a step or a
run does is a relation between an item and the item that stands in its place. -/

namespace Lucius.Runtime

open Lucius.Action Queue Mission

/-- The backlogs hold the same items in the same places, each related to what it was. -/
def Backlogs (related : Item → Item → Prop) (before after : Table PersistentWorkflowRow) : Prop :=
  List.Forall₂ (fun old new => new.id = old.id ∧ List.Forall₂ related old.taskBacklog new.taskBacklog)
    before.rows after.rows

section

variable {related : Item → Item → Prop}

theorem backlogs_refl (reflexive : ∀ item, related item item) (workflows : Table PersistentWorkflowRow) :
    Backlogs related workflows workflows :=
  List.forall₂_same.mpr fun _ _ => ⟨rfl, List.forall₂_same.mpr fun item _ => reflexive item⟩

theorem backlogs_trans
    (transitive : ∀ first second third, related first second → related second third →
      related first third)
    {first second third : Table PersistentWorkflowRow} (one : Backlogs related first second)
    (two : Backlogs related second third) : Backlogs related first third :=
  forall₂_trans
    (fun _ _ _ here next => ⟨next.1.trans here.1, forall₂_trans transitive here.2 next.2⟩) one two

theorem backlogs_itemWrite {before after : Store} {row : PersistentWorkflowRow} {item new : Item}
    (reflexive : ∀ item, related item item)
    (write : ItemWrite before.toTables after.toTables row item new) (here : related item new) :
    Backlogs related before.workflows after.workflows := by
  obtain ⟨wanted, written, found, bound, backlog, tables⟩ := write.effect
  obtain ⟨front, back, split, -, replaced⟩ := Queue.findItem_split found
  have put : after.workflows = before.workflows.put written := congrArg Tables.workflows tables
  rw [put]
  refine List.forall₂_map_right_iff.mpr (List.forall₂_same.mpr fun old member => ?_)
  by_cases same : old.id = written.id
  · have equal : old = row :=
      Table.row_unique member (Table.get?_mem write.present) (same.trans bound.id)
    rw [if_pos (show Keyed.key old = Keyed.key written from same)]
    refine ⟨same.symm, ?_⟩
    rw [backlog, replaced, equal, split]
    exact List.rel_append (List.forall₂_same.mpr fun item _ => reflexive item)
      (.cons here (List.forall₂_same.mpr fun item _ => reflexive item))
  · rw [if_neg (show ¬ Keyed.key old = Keyed.key written from same)]
    exact ⟨rfl, List.forall₂_same.mpr fun item _ => reflexive item⟩

/-- A relation holds over the writes of the supervisor exactly when it holds of
each targeted item and of each item left alone. -/
theorem backlogs_retargeted {workflows : Table PersistentWorkflowRow} {itemIds : List String}
    {target : QueueWorkItemState} :
    Backlogs related workflows (retargetedAll workflows itemIds target) ↔
      ∀ row ∈ workflows.rows, ∀ item ∈ row.taskBacklog,
        related item (settle workflows itemIds target row.id item) := by
  unfold Backlogs
  rw [Mission.retargetedAll_rows, List.forall₂_map_right_iff, List.forall₂_same]
  simp only [true_and, List.forall₂_map_right_iff, List.forall₂_same]

theorem forall₂_findItem {items others : List Item} {wanted : String} {item : Item}
    (named : ∀ old new, related old new → itemId new = itemId old)
    (paired : List.Forall₂ related items others) (found : findItem items wanted = .ok item) :
    ∃ new, findItem others wanted = .ok new ∧ related item new := by
  induction paired with
  | nil => cases found
  | @cons old new _ _ here _ ih =>
    by_cases same : itemId old = wanted
    · simp only [findItem, same, if_true, Except.ok.injEq] at found
      subst found
      exact ⟨new, by simp only [findItem, (named old new here).trans same, if_true], here⟩
    · simp only [findItem, same, if_false] at found
      obtain ⟨other, known, holds⟩ := ih found
      refine ⟨other, ?_, holds⟩
      simp only [findItem, named old new here, same, if_false]
      exact known

end

/-- The item a client addresses by a workflow and an item identifier. -/
def itemAt (workflows : Table PersistentWorkflowRow) (workflowId wanted : String) : Option Item :=
  match workflows.get? workflowId with
  | none => none
  | some row => (findItem row.taskBacklog wanted).toOption

theorem itemAt_of_found {workflows : Table PersistentWorkflowRow} {row : PersistentWorkflowRow}
    {wanted : String} {item : Item} (present : workflows.get? row.id = some row)
    (found : findItem row.taskBacklog wanted = .ok item) : itemAt workflows row.id wanted = some item := by
  rw [itemAt, present]
  simp [found, Except.toOption]

theorem backlogs_itemAt {related : Item → Item → Prop}
    (named : ∀ old new, related old new → itemId new = itemId old)
    {before after : Table PersistentWorkflowRow} (kept : Backlogs related before after)
    {workflowId wanted : String} {item : Item} (known : itemAt before workflowId wanted = some item) :
    ∃ new, itemAt after workflowId wanted = some new ∧ related item new := by
  unfold itemAt at known
  cases present : before.get? workflowId with
  | none => simp [present] at known
  | some row =>
    simp only [present] at known
    have found : findItem row.taskBacklog wanted = .ok item := by
      cases looked : findItem row.taskBacklog wanted with
      | error error => simp [looked, Except.toOption] at known
      | ok other =>
        simp only [looked, Except.toOption, Option.some.injEq] at known
        rw [known]
    obtain ⟨other, member, same, paired⟩ := forall₂_left kept (Table.get?_mem present)
    obtain ⟨new, foundNew, holds⟩ := forall₂_findItem named paired found
    have key : other.id = workflowId := same.trans (Table.get?_key present)
    refine ⟨new, ?_, holds⟩
    rw [← key]
    exact itemAt_of_found (Table.get?_of_mem member) foundNew

inductive WorkOperation where
  | startNext (workflowId : String)
  | startGlobalNext (workflowIds : List String)
  | startSelectedGlobalItem (selection : GlobalQueueSelection) (workflowIds : List String)
  | dispatcherStartNext (workflowIds : List String)
  | blockRunningItem (workflowId itemId : String) (request : BlockRequest)
  | blockDispatchSelectedItem (workflowId itemId : String) (expectedState : QueueWorkItemState)
      (expectedItemVersion : Int) (request : BlockRequest)
  | repairBlockedItemConfiguration (workflowId itemId checkpointId : String)
      (expectedItemVersion : Int) (timeoutSeconds : Option Json) (contextLimitsPatch : Dict)
  | resolveBlocker (workflowId itemId checkpointId : String) (expectedItemVersion : Int)
      (resolutionEvent : String)
  | completeItem (workflowId itemId : String) (completedSubsteps : List String)
  | mission (operation : MissionOperation)

def attempt : WorkOperation → Op Unit
  | .startNext workflowId => do let _ ← Queue.startNext workflowId
  | .startGlobalNext workflowIds => do let _ ← Queue.startGlobalNext workflowIds
  | .startSelectedGlobalItem selection workflowIds => do
      let _ ← Queue.startSelectedGlobalItem selection workflowIds
  | .dispatcherStartNext workflowIds => do let _ ← Runtime.startNext workflowIds
  | .blockRunningItem workflowId itemId request => do
      let _ ← Queue.blockRunningItem workflowId itemId request
  | .blockDispatchSelectedItem workflowId itemId expectedState version request => do
      let _ ← Queue.blockDispatchSelectedItem workflowId itemId expectedState version request
  | .repairBlockedItemConfiguration workflowId itemId checkpointId version timeout patch => do
      let _ ← Queue.repairBlockedItemConfiguration workflowId itemId checkpointId version timeout patch
  | .resolveBlocker workflowId itemId checkpointId version event => do
      let _ ← Queue.resolveBlocker workflowId itemId checkpointId version event
  | .completeItem workflowId itemId substeps => do
      let _ ← Queue.completeItem workflowId itemId substeps
  | .mission operation => Mission.perform operation

def step (store : Store) (operation : WorkOperation) : Store :=
  Action.transact (attempt operation) store

/-- A write of the queue: the item keeps its name and gets the next version. -/
structure Versioned (old new : Item) : Prop where
  bumped : ∃ version, itemVersion old = .ok version ∧ itemVersion new = .ok (version + 1)
  named : itemId new = itemId old

/-- The effects of a step on the backlogs: none, a write of the queue to one item,
or the writes of the supervisor. -/
inductive Effect (operation : WorkOperation) (before after : Store) : Prop where
  | kept (same : after.toTables = before.toTables)
  | versioned (row : PersistentWorkflowRow) (item new : Item)
      (write : ItemWrite before.toTables after.toTables row item new) (bumped : Versioned item new)
      (queue : ∀ wait, operation ≠ .mission wait)
  | waits (wait : MissionOperation) (isWait : operation = .mission wait)
      (done : Action.exec (Mission.perform wait) before = (.ok (), after))

/-- What a call of the queue makes of an item: the next version of it, in the state it had or
in one of those the queue puts items in. -/
structure Revised (old new : Item) : Prop where
  versioned : Versioned old new
  stated : Queue.queueState? new = Queue.queueState? old ∨
    ∃ target ∈ .running :: .readyToResume :: .completed :: Queue.blockedStates,
      Queue.queueState? new = some target

theorem revised_of_moved {old new : Item} {target : QueueWorkItemState}
    (moved : Queue.Moved old new target)
    (known : target ∈ .running :: .readyToResume :: .completed :: Queue.blockedStates) :
    Revised old new :=
  ⟨⟨moved.bumped, moved.named⟩, .inr ⟨target, known, moved.stated⟩⟩

theorem blocking_known {target : QueueWorkItemState} (blocking : target ∈ Queue.blockedStates) :
    target ∈ .running :: .readyToResume :: .completed :: Queue.blockedStates :=
  List.mem_cons_of_mem _ (List.mem_cons_of_mem _ (List.mem_cons_of_mem _ blocking))

theorem revises_started {before after : Tables} {row written : PersistentWorkflowRow} {item new : Item}
    (starts : Queue.Starts before after row written item new) :
    ∃ row item new, ItemWrite before after row item new ∧ Revised item new :=
  ⟨row, item, new, starts.write.itemWrite, revised_of_moved starts.moved (by decide)⟩

theorem revises_blocked {request : Queue.BlockRequest} {checkpoint : Queue.QueueBlockCheckpoint}
    {before after : Tables} {row written : PersistentWorkflowRow} {item new : Item}
    (blocks : Queue.Blocks request checkpoint before after row written item new) :
    ∃ row item new, ItemWrite before after row item new ∧ Revised item new :=
  ⟨row, item, new, blocks.write.itemWrite, revised_of_moved blocks.moved (blocking_known blocks.blocking)⟩

/-- A call of the queue or of the dispatcher changes no table or revises one item. -/
theorem attempt_wrote {operation : WorkOperation} {store after : Store}
    (queue : ∀ wait, operation ≠ .mission wait)
    (done : Action.exec (attempt operation) store = (.ok (), after)) :
    after.toTables = store.toTables ∨ ∃ row item new,
      ItemWrite store.toTables after.toTables row item new ∧ Revised item new := by
  cases operation with
  | mission wait => exact absurd rfl (queue wait)
  | startNext workflowId =>
    obtain ⟨_, middle, inner, done⟩ := bind_ok done
    obtain ⟨-, rfl⟩ := ok_pure done
    rcases Queue.startNext_writes inner with same | ⟨row, _, item, new, -, starts⟩
    · exact .inl (by rw [same])
    · exact .inr (revises_started starts)
  | startGlobalNext workflowIds =>
    obtain ⟨_, middle, inner, done⟩ := bind_ok done
    obtain ⟨-, rfl⟩ := ok_pure done
    rcases Queue.startGlobalNext_writes inner with same | ⟨_, row, _, item, new, starts⟩
    · exact .inl (by rw [same])
    · exact .inr (revises_started starts.toStarts)
  | startSelectedGlobalItem selection workflowIds =>
    obtain ⟨_, middle, inner, done⟩ := bind_ok done
    obtain ⟨-, rfl⟩ := ok_pure done
    rcases Queue.startSelectedGlobalItem_writes inner with same | ⟨row, _, item, new, -, starts⟩
    · exact .inl (by rw [same])
    · exact .inr (revises_started starts.toStarts)
  | dispatcherStartNext workflowIds =>
    obtain ⟨_, middle, inner, done⟩ := bind_ok done
    obtain ⟨-, rfl⟩ := ok_pure done
    rcases Runtime.startNext_ok inner with ⟨-, same⟩ |
      ⟨_, row, item, new, -, -, -, -, write, moved, -⟩
    · exact .inl same
    · exact .inr ⟨row, item, new, write, revised_of_moved moved (by decide)⟩
  | blockRunningItem workflowId itemId request =>
    obtain ⟨_, middle, inner, done⟩ := bind_ok done
    obtain ⟨-, rfl⟩ := ok_pure done
    obtain ⟨row, _, item, new, -, -, -, blocks⟩ := Queue.blockRunningItem_writes inner
    exact .inr (revises_blocked blocks)
  | blockDispatchSelectedItem workflowId itemId expectedState version request =>
    obtain ⟨_, middle, inner, done⟩ := bind_ok done
    obtain ⟨-, rfl⟩ := ok_pure done
    obtain ⟨row, _, item, new, -, -, -, -, -, blocks⟩ := Queue.blockDispatchSelectedItem_writes inner
    exact .inr (revises_blocked blocks)
  | repairBlockedItemConfiguration workflowId itemId checkpointId version timeout patch =>
    obtain ⟨_, middle, inner, done⟩ := bind_ok done
    obtain ⟨-, rfl⟩ := ok_pure done
    obtain ⟨row, _, item, new, -, -, stated, bumped, named, edits⟩ :=
      Queue.repairBlockedItemConfiguration_writes inner
    exact .inr ⟨row, item, new, edits.write.itemWrite, ⟨⟨version, edits.versioned, bumped⟩, named⟩, .inl stated⟩
  | resolveBlocker workflowId itemId checkpointId version event =>
    obtain ⟨_, middle, inner, done⟩ := bind_ok done
    obtain ⟨-, rfl⟩ := ok_pure done
    obtain ⟨row, _, item, new, -, -, moved, edits⟩ := Queue.resolveBlocker_writes inner
    exact .inr ⟨row, item, new, edits.write.itemWrite, revised_of_moved moved (by decide)⟩
  | completeItem workflowId itemId substeps =>
    obtain ⟨_, middle, inner, done⟩ := bind_ok done
    obtain ⟨-, rfl⟩ := ok_pure done
    obtain ⟨row, _, item, new, -, -, completes⟩ := Queue.completeItem_writes inner
    exact .inr ⟨row, item, new, completes.write.itemWrite, revised_of_moved completes.moved (by decide)⟩

theorem attempt_effect {operation : WorkOperation} {store after : Store}
    (done : Action.exec (attempt operation) store = (.ok (), after)) :
    Effect operation store after := by
  by_cases isWait : ∃ wait, operation = .mission wait
  · obtain ⟨wait, rfl⟩ := isWait
    exact .waits wait rfl done
  · have queue : ∀ wait, operation ≠ .mission wait := fun wait same => isWait ⟨wait, same⟩
    rcases attempt_wrote queue done with same | ⟨row, item, new, write, revised⟩
    · exact .kept same
    · exact .versioned row item new write revised.versioned queue

theorem step_effect (store : Store) (operation : WorkOperation) :
    Effect operation store (step store operation) := by
  unfold step
  rcases outcome : Action.exec (attempt operation) store with ⟨_ | _, after⟩
  · rw [transact_error outcome]
    exact .kept rfl
  · rw [transact_ok outcome]
    exact attempt_effect outcome

end Lucius.Runtime
