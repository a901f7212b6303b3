import Lucius.Queue.BlockedStates
import Lucius.Queue.Counters

/-! The blocks of one item and their resolutions, over any sequence of calls of the queue. -/

namespace Lucius.Queue.BlockResolution

open Lucius.Action

open Lucius.Runtime (itemAt itemAt_of_found)
open ReachableStates

theorem findItem_replaceItem {items : List Item} {wanted : String} {item new : Item}
    (found : findItem items wanted = .ok item) (named : itemId new = wanted) (other : String) :
    findItem (replaceItem items wanted new) other =
      if other = wanted then .ok new else findItem items other := by
  induction items with
  | nil => cases found
  | cons head rest ih =>
    by_cases here : itemId head = wanted
    · rw [replaceItem, if_pos here, findItem, named, findItem, here]
      by_cases same : other = wanted
      · rw [if_pos same.symm, if_pos same]
      · rw [if_neg (fun equal => same equal.symm), if_neg same, if_neg (fun equal => same equal.symm)]
    · rw [findItem, if_neg here] at found
      rw [replaceItem, if_neg here, findItem, ih found, findItem]
      by_cases same : other = wanted
      · rw [if_pos same, same, if_neg here, if_pos rfl]
      · rw [if_neg same, if_neg same]

/-- A write changes the item a client addresses by the names of the item written, and no other. -/
theorem itemAt_write {before after : Tables} {row written : PersistentWorkflowRow} {item new : Item}
    (write : QueueWrite before after row written item new) (named : itemId new = itemId item)
    (workflowId wanted : String) : itemAt after.workflows workflowId wanted =
      if row.id = workflowId ∧ itemId item = wanted then some new
      else itemAt before.workflows workflowId wanted := by
  obtain ⟨name, found, backlog⟩ := write.replaced
  obtain ⟨_, _, _, itemNamed, _⟩ := findItem_split found
  have put : after.workflows = before.workflows.put written := congrArg Tables.workflows write.put
  unfold itemAt
  by_cases here : row.id = workflowId
  · have present : before.workflows.get? workflowId = some row := here ▸ write.present
    have stored : (before.workflows.put written).get? workflowId = some written :=
      Table.get?_put_same present (write.bound.id.trans here)
    rw [put, stored, present]
    dsimp only
    rw [backlog, findItem_replaceItem found (named.trans itemNamed)]
    by_cases same : itemId item = wanted
    · rw [if_pos (same.symm.trans itemNamed), if_pos ⟨here, same⟩]
      rfl
    · rw [if_neg (fun equal => same (itemNamed.trans equal.symm)), if_neg (fun both => same both.2)]
  · rw [if_neg (fun both => here both.1), put, Table.get?_put_other]
    exact fun equal => here (write.bound.id.symm.trans equal)

theorem itemAt_written {before after : Tables} {row written : PersistentWorkflowRow} {item new : Item}
    (write : QueueWrite before after row written item new) :
    itemAt before.workflows row.id (itemId item) = some item := by
  obtain ⟨name, found, -⟩ := write.replaced
  obtain ⟨_, _, _, itemNamed, _⟩ := findItem_split found
  exact itemAt_of_found write.present (itemNamed ▸ found)

/-- The checkpoint of the block a call makes of the item. -/
def blockedAs (workflowId wanted : String) (store : Store) : QueueOperation → Option String
  | .blockRunningItem row item request =>
    if row = workflowId ∧ item = wanted then
      (exec (blockRunningItem row item request) store).1.toOption.map (·.id)
    else none
  | .blockDispatchSelectedItem row item expectedState version request =>
    if row = workflowId ∧ item = wanted then
      (exec (blockDispatchSelectedItem row item expectedState version request)
        store).1.toOption.map (·.id)
    else none
  | _ => none

/-- The checkpoint a call resolves on the item. -/
def resolvedAs (workflowId wanted : String) (store : Store) : QueueOperation → Option String
  | .resolveBlocker row item checkpointId version event =>
    if row = workflowId ∧ item = wanted then
      (exec (resolveBlocker row item checkpointId version event) store).1.toOption.map
        (fun _ => checkpointId)
    else none
  | _ => none

/-- What a call does to one item. -/
inductive Change (workflowId wanted : String) (operation : QueueOperation) (before after : Store) : Prop
    where
  | kept (same : itemAt after.workflows workflowId wanted = itemAt before.workflows workflowId wanted)
      (unblocked : blockedAs workflowId wanted before operation = none)
      (unresolved : resolvedAs workflowId wanted before operation = none)
  | moved (item new : Item) (was : itemAt before.workflows workflowId wanted = some item)
      (now : itemAt after.workflows workflowId wanted = some new) (mark : SameBlock item new)
      (target : QueueWorkItemState) (stated : queueState? new = some target)
      (free : target = .running ∨ target = .completed)
      (unblocked : blockedAs workflowId wanted before operation = none)
      (unresolved : resolvedAs workflowId wanted before operation = none)
  | edited (item new : Item) (was : itemAt before.workflows workflowId wanted = some item)
      (now : itemAt after.workflows workflowId wanted = some new) (mark : SameBlock item new)
      (stated : queueState? new = queueState? item) (taken : TakenAsBlocked item)
      (unblocked : blockedAs workflowId wanted before operation = none)
      (unresolved : resolvedAs workflowId wanted before operation = none)
  | blocked (new : Item) (checkpointId : String)
      (now : itemAt after.workflows workflowId wanted = some new)
      (mark : new.get "current_block_checkpoint_id" = .str checkpointId)
      (issued : Issues checkpointId before after) (target : QueueWorkItemState)
      (stated : queueState? new = some target) (blocking : target ∈ blockedStates)
      (made : blockedAs workflowId wanted before operation = some checkpointId)
      (unresolved : resolvedAs workflowId wanted before operation = none)
  | resolved (item new : Item) (checkpointId event : String) (version : Int)
      (call : operation = .resolveBlocker workflowId wanted checkpointId version event)
      (was : itemAt before.workflows workflowId wanted = some item)
      (now : itemAt after.workflows workflowId wanted = some new) (mark : SameBlock item new)
      (names : item.get "current_block_checkpoint_id" = .str checkpointId) (taken : TakenAsBlocked item)
      (stated : queueState? new = some .readyToResume)
      (unblocked : blockedAs workflowId wanted before operation = none)
      (done : resolvedAs workflowId wanted before operation = some checkpointId)

theorem change_same {workflowId wanted : String} {operation : QueueOperation} {before after : Store}
    (same : SameTables before after) (unblocked : blockedAs workflowId wanted before operation = none)
    (unresolved : resolvedAs workflowId wanted before operation = none) :
    Change workflowId wanted operation before after :=
  .kept (by rw [congrArg Tables.workflows same]) unblocked unresolved

theorem change_moved {workflowId wanted : String} {operation : QueueOperation} {before after : Store}
    {row written : PersistentWorkflowRow} {item new : Item} {target : QueueWorkItemState}
    (write : QueueWrite before.toTables after.toTables row written item new)
    (moved : Moved item new target) (mark : SameBlock item new)
    (free : target = .running ∨ target = .completed)
    (unblocked : blockedAs workflowId wanted before operation = none)
    (unresolved : resolvedAs workflowId wanted before operation = none) :
    Change workflowId wanted operation before after := by
  have now := itemAt_write write moved.named workflowId wanted
  by_cases here : row.id = workflowId ∧ itemId item = wanted
  · rw [if_pos here] at now
    have was := itemAt_written write
    rw [here.1, here.2] at was
    exact .moved item new was now mark target moved.stated free unblocked unresolved
  · rw [if_neg here] at now
    exact .kept now unblocked unresolved

theorem change_blocked {workflowId wanted row name : String} {operation : QueueOperation} {before after : Store}
    {request : BlockRequest} {checkpoint : QueueBlockCheckpoint} {old written : PersistentWorkflowRow}
    {item new : Item} (blocks : Blocks request checkpoint before.toTables after.toTables old written item new)
    (rowNamed : old.id = row) (itemNamed : itemId item = name) (issued : Issues checkpoint.id before after)
    (here : row = workflowId ∧ name = wanted →
      blockedAs workflowId wanted before operation = some checkpoint.id)
    (away : ¬ (row = workflowId ∧ name = wanted) → blockedAs workflowId wanted before operation = none)
    (unresolved : resolvedAs workflowId wanted before operation = none) :
    Change workflowId wanted operation before after := by
  have now := itemAt_write blocks.write blocks.moved.named workflowId wanted
  rw [rowNamed, itemNamed] at now
  by_cases among : row = workflowId ∧ name = wanted
  · rw [if_pos among] at now
    exact .blocked new checkpoint.id now blocks.mark issued _ blocks.moved.stated blocks.blocking (here among)
      unresolved
  · rw [if_neg among] at now
    exact .kept now (away among) unresolved

theorem step_change (workflowId wanted : String) (store : Store) (operation : QueueOperation) :
    Change workflowId wanted operation store (step store operation) := by
  cases operation with
  | startNext row =>
    rcases ended : exec (startNext row) store with ⟨error | selection, after⟩
    · rw [step, ended]
      exact change_same (startNext_raised _ _ _ _ ended) rfl rfl
    · rw [step, ended]
      rcases startNext_writes ended with same | ⟨_, _, item, new, -, starts⟩
      · exact change_same (congrArg Store.toTables same) rfl rfl
      · exact change_moved starts.write starts.moved starts.mark (.inl rfl) rfl rfl
  | startGlobalNext rows =>
    rcases ended : exec (startGlobalNext rows) store with ⟨error | selection, after⟩
    · rw [step, ended]
      exact change_same (startGlobalNext_raised _ _ _ _ ended) rfl rfl
    · rw [step, ended]
      rcases startGlobalNext_writes ended with same | ⟨_, _, _, item, new, starts⟩
      · exact change_same (congrArg Store.toTables same) rfl rfl
      · exact change_moved starts.write starts.moved starts.mark (.inl rfl) rfl rfl
  | blockRunningItem row name request =>
    rcases ended : exec (blockRunningItem row name request) store with ⟨error | checkpoint, after⟩
    · rw [step, ended]
      exact change_same (blockRunningItem_raised _ _ _ _ _ _ ended)
        (by simp [blockedAs, ended, Except.toOption]) rfl
    · rw [step, ended]
      obtain ⟨_, _, item, new, rowNamed, itemNamed, -, blocks⟩ := blockRunningItem_writes ended
      refine change_blocked blocks rowNamed itemNamed (blockRunningItem_issues ended) ?_ ?_ rfl
      · intro here
        rw [blockedAs, if_pos here, ended]
        rfl
      · intro away
        rw [blockedAs, if_neg away]
  | blockDispatchSelectedItem row name expectedState version request =>
    rcases ended : exec (blockDispatchSelectedItem row name expectedState version request) store
      with ⟨error | checkpoint, after⟩
    · rw [step, ended]
      exact change_same (blockDispatchSelectedItem_raised _ _ _ _ _ _ _ _ ended)
        (by simp [blockedAs, ended, Except.toOption]) rfl
    · rw [step, ended]
      obtain ⟨_, _, item, new, rowNamed, found, -, -, -, blocks⟩ := blockDispatchSelectedItem_writes ended
      obtain ⟨_, _, _, itemNamed, _⟩ := findItem_split found
      refine change_blocked blocks rowNamed itemNamed (blockDispatchSelectedItem_issues ended) ?_ ?_ rfl
      · intro here
        rw [blockedAs, if_pos here, ended]
        rfl
      · intro away
        rw [blockedAs, if_neg away]
  | repairBlockedItemConfiguration row name checkpointId version timeout patch =>
    rcases ended : exec
      (repairBlockedItemConfiguration row name checkpointId version timeout patch) store
      with ⟨error | repaired, after⟩
    · rw [step, ended]
      exact change_same (repairBlockedItemConfiguration_raised _ _ _ _ _ _ _ _ _ ended) rfl rfl
    · rw [step, ended]
      obtain ⟨_, _, item, new, rowNamed, itemNamed, stated, -, named, edits⟩ :=
        repairBlockedItemConfiguration_writes ended
      have now := itemAt_write edits.write named workflowId wanted
      have was := itemAt_written edits.write
      rw [rowNamed, itemNamed] at now was
      by_cases here : row = workflowId ∧ name = wanted
      · rw [if_pos here] at now
        rw [here.1, here.2] at was
        exact .edited item new was now edits.mark stated edits.blocked rfl rfl
      · rw [if_neg here] at now
        exact .kept now rfl rfl
  | resolveBlocker row name checkpointId version event =>
    rcases ended : exec (resolveBlocker row name checkpointId version event) store
      with ⟨error | resolved, after⟩
    · rw [step, ended]
      exact change_same (resolveBlocker_raised _ _ _ _ _ _ _ _ ended) rfl
        (by simp [resolvedAs, ended, Except.toOption])
    · rw [step, ended]
      obtain ⟨_, _, item, new, rowNamed, itemNamed, moved, edits⟩ := resolveBlocker_writes ended
      have now := itemAt_write edits.write moved.named workflowId wanted
      have was := itemAt_written edits.write
      rw [rowNamed, itemNamed] at now was
      by_cases here : row = workflowId ∧ name = wanted
      · rw [if_pos here] at now
        rw [here.1, here.2] at was
        exact .resolved item new checkpointId event version (by rw [here.1, here.2]) was now edits.mark
          (Json.isStr_iff.mp edits.names) edits.blocked moved.stated rfl
          (by rw [resolvedAs, if_pos here, ended]; rfl)
      · rw [if_neg here] at now
        exact .kept now rfl (by rw [resolvedAs, if_neg here])
  | completeItem row name substeps =>
    rcases ended : exec (completeItem row name substeps) store with ⟨error | completed, after⟩
    · rw [step, ended]
      exact change_same (completeItem_raised _ _ _ _ _ _ ended) rfl rfl
    · rw [step, ended]
      obtain ⟨_, _, item, new, -, -, completes⟩ := completeItem_writes ended
      exact change_moved completes.write completes.moved completes.mark (.inr rfl) rfl rfl

/-- The store, the checkpoints of the blocks of one item, the latest first, and the checkpoints
resolved on it. The two lists are observations: no call reads them. -/
structure Session where
  store : Store
  made : List String
  resolved : List String

def begin (workflowId wanted : String) (store : Store) : Session where
  store := store
  made := ((itemAt store.workflows workflowId wanted).bind (fun item =>
    (item.get "current_block_checkpoint_id").text?)).toList
  resolved := []

def next (workflowId wanted : String) (session : Session) (operation : QueueOperation) : Session where
  store := step session.store operation
  made := (blockedAs workflowId wanted session.store operation).toList ++ session.made
  resolved := (resolvedAs workflowId wanted session.store operation).toList ++ session.resolved

/-- The checkpoint the item starts with is none that is still to be issued. -/
def Fresh (workflowId wanted : String) (store : Store) : Prop :=
  ∀ checkpointId ∈ (begin workflowId wanted store).made, ∀ number,
    store.issued .queueCheckpoint < number → checkpointId ≠ formatPublicId .queueCheckpoint number

structure Sound (workflowId wanted : String) (session : Session) : Prop where
  marked : ∀ item, itemAt session.store.workflows workflowId wanted = some item →
    (item.get "current_block_checkpoint_id").text? = session.made.head?
  issued : ∀ checkpointId ∈ session.made, ∀ number, session.store.issued .queueCheckpoint < number →
    checkpointId ≠ formatPublicId .queueCheckpoint number
  madeOnce : session.made.Nodup
  resolvedOnce : session.resolved.Nodup
  known : ∀ checkpointId ∈ session.resolved, checkpointId ∈ session.made
  settled : ∀ item, itemAt session.store.workflows workflowId wanted = some item →
    ∀ checkpointId ∈ session.resolved, session.made.head? = some checkpointId → ¬ TakenAsBlocked item

theorem step_grows (store : Store) (operation : QueueOperation) : IssuedGrow store (step store operation) := by
  cases operation with
  | startNext row => exact startNext_grows row store
  | startGlobalNext rows => exact startGlobalNext_grows rows store
  | blockRunningItem row item request => exact blockRunningItem_grows row item request store
  | blockDispatchSelectedItem row item expectedState version request =>
    exact blockDispatchSelectedItem_grows row item expectedState version request store
  | repairBlockedItemConfiguration row item checkpointId version timeout patch =>
    exact repairBlockedItemConfiguration_grows row item checkpointId version timeout patch store
  | resolveBlocker row item checkpointId version event =>
    exact resolveBlocker_grows row item checkpointId version event store
  | completeItem row item substeps => exact completeItem_grows row item substeps store

theorem sound_begin {workflowId wanted : String} {store : Store} (fresh : Fresh workflowId wanted store) :
    Sound workflowId wanted (begin workflowId wanted store) where
  marked item known := by
    have known : itemAt store.workflows workflowId wanted = some item := known
    unfold begin
    rw [known, Option.bind_some, Option.head?_toList]
  issued := fresh
  madeOnce := by
    unfold begin
    cases (itemAt store.workflows workflowId wanted).bind _ with
    | none => exact List.nodup_nil
    | some _ => exact List.nodup_singleton _
  resolvedOnce := List.nodup_nil
  known checkpointId member := nomatch member
  settled item known checkpointId member := nomatch member

section

variable {workflowId wanted : String} {session : Session} {operation : QueueOperation}

theorem next_quiet (unblocked : blockedAs workflowId wanted session.store operation = none)
    (unresolved : resolvedAs workflowId wanted session.store operation = none) :
    next workflowId wanted session operation =
      { session with store := step session.store operation } := by
  unfold next
  rw [unblocked, unresolved]
  rfl

/-- An item that is marked as before and is not blocked now keeps what holds of its blocks. -/
theorem sound_marked (sound : Sound workflowId wanted session)
    (unblocked : blockedAs workflowId wanted session.store operation = none)
    (unresolved : resolvedAs workflowId wanted session.store operation = none)
    (marked : ∀ new, itemAt (step session.store operation).workflows workflowId wanted = some new →
      (new.get "current_block_checkpoint_id").text? = session.made.head?)
    (settled : ∀ new, itemAt (step session.store operation).workflows workflowId wanted = some new →
      ∀ checkpointId ∈ session.resolved, session.made.head? = some checkpointId → ¬ TakenAsBlocked new) :
    Sound workflowId wanted (next workflowId wanted session operation) := by
  rw [next_quiet unblocked unresolved]
  refine ⟨marked, ?_, sound.madeOnce, sound.resolvedOnce, sound.known, settled⟩
  intro checkpointId member number later
  exact sound.issued checkpointId member number ((step_grows session.store operation _).trans_lt later)

theorem not_taken_of_free {new : Item} {target : QueueWorkItemState}
    (stated : queueState? new = some target) (other : target ≠ .ready) (free : target ∉ blockedStates) :
    ¬ TakenAsBlocked new :=
  fun taken => free ((takenAsBlocked_iff other stated).mp taken)

theorem sound_next (sound : Sound workflowId wanted session) :
    Sound workflowId wanted (next workflowId wanted session operation) := by
  cases step_change workflowId wanted session.store operation with
  | kept same unblocked unresolved =>
    apply sound_marked sound unblocked unresolved
    · intro new known
      exact sound.marked new (same ▸ known)
    · intro new known
      exact sound.settled new (same ▸ known)
  | moved item new was now mark target stated free unblocked unresolved =>
    apply sound_marked sound unblocked unresolved
    · intro found known
      rw [now] at known
      rw [← Option.some.inj known, mark]
      exact sound.marked item was
    · intro found known checkpointId _ _
      rw [now] at known
      rw [← Option.some.inj known]
      rcases free with running | completed
      · exact not_taken_of_free stated (by rw [running]; decide) (by rw [running]; decide)
      · exact not_taken_of_free stated (by rw [completed]; decide) (by rw [completed]; decide)
  | edited item new was now mark stated taken unblocked unresolved =>
    apply sound_marked sound unblocked unresolved
    · intro found known
      rw [now] at known
      rw [← Option.some.inj known, mark]
      exact sound.marked item was
    · -- a repaired item is blocked, so the checkpoint it is marked with is not resolved
      intro found known checkpointId member latest
      exact absurd taken (sound.settled item was checkpointId member latest)
  | blocked new checkpointId now mark issued target stated blocking made unresolved =>
    have absent : checkpointId ∉ session.made := by
      intro member
      apply sound.issued checkpointId member (session.store.nextNumber .queueCheckpoint)
      · exact Nat.lt_succ_self _
      · exact issued.next
    have shape : next workflowId wanted session operation =
        { store := step session.store operation, made := checkpointId :: session.made,
          resolved := session.resolved } := by
      unfold next
      rw [made, unresolved]
      rfl
    rw [shape]
    refine ⟨?_, ?_, ?_, sound.resolvedOnce, ?_, ?_⟩
    · intro found known
      rw [now] at known
      rw [← Option.some.inj known, mark]
      rfl
    · intro other member number later
      rcases List.mem_cons.mp member with same | before
      · intro equal
        have number : session.store.nextNumber .queueCheckpoint = number :=
          formatPublicId_injective .queueCheckpoint (issued.next.symm.trans (same.symm.trans equal))
        have spent := issued.spent
        rw [number] at spent
        exact absurd later (not_lt.mpr spent)
      · exact sound.issued other before number ((step_grows session.store operation _).trans_lt later)
    · exact List.nodup_cons.mpr ⟨absent, sound.madeOnce⟩
    · intro other member
      exact List.mem_cons_of_mem _ (sound.known other member)
    · intro found known other member latest
      have same : checkpointId = other := Option.some.inj latest
      exact absurd (same ▸ sound.known other member) absent
  | resolved item new checkpointId event version call was now mark names taken stated unblocked done =>
    have latest : session.made.head? = some checkpointId := by
      rw [← sound.marked item was, names]
      rfl
    have unresolved : checkpointId ∉ session.resolved := fun member =>
      sound.settled item was checkpointId member latest taken
    have shape : next workflowId wanted session operation =
        { store := step session.store operation, made := session.made,
          resolved := checkpointId :: session.resolved } := by
      unfold next
      rw [unblocked, done]
      rfl
    rw [shape]
    refine ⟨?_, ?_, sound.madeOnce, ?_, ?_, ?_⟩
    · intro found known
      rw [now] at known
      rw [← Option.some.inj known, mark]
      exact sound.marked item was
    · intro other member number later
      exact sound.issued other member number ((step_grows session.store operation _).trans_lt later)
    · exact List.nodup_cons.mpr ⟨unresolved, sound.resolvedOnce⟩
    · intro other member
      rcases List.mem_cons.mp member with same | before
      · rw [same]
        exact List.mem_of_mem_head? latest
      · exact sound.known other before
    · intro found known other _ _
      rw [now] at known
      rw [← Option.some.inj known]
      exact not_taken_of_free stated (by decide) (by decide)

end

/-- The item is at the version given. -/
def AtVersion (workflowId wanted : String) (store : Store) (version : Int) : Prop :=
  ∃ item, itemAt store.workflows workflowId wanted = some item ∧ itemVersion item = .ok version

/-- What holds of the next call, whichever it is: a resolution of the item that does not name its
latest checkpoint and its version raises and writes nothing, and the item becomes ready to resume
by nothing but a resolution that names its latest checkpoint. -/
structure Guarded (workflowId wanted : String) (session : Session) (operation : QueueOperation) : Prop
    where
  refused : ∀ checkpointId version event,
    session.made.head? ≠ some checkpointId ∨ ¬ AtVersion workflowId wanted session.store version →
    ∃ error after, exec (resolveBlocker workflowId wanted checkpointId version event)
      session.store = (.error error, after) ∧ SameTables session.store after
  resumed : (itemAt (step session.store operation).workflows workflowId wanted).bind queueState? =
      some .readyToResume →
    (itemAt session.store.workflows workflowId wanted).bind queueState? ≠ some .readyToResume →
    ∃ checkpointId version event,
      operation = .resolveBlocker workflowId wanted checkpointId version event ∧
        session.made.head? = some checkpointId

theorem guarded_of_sound {workflowId wanted : String} {session : Session}
    (sound : Sound workflowId wanted session) (operation : QueueOperation) :
    Guarded workflowId wanted session operation := by
  constructor
  · intro checkpointId version event stale
    rcases ended : exec (resolveBlocker workflowId wanted checkpointId version event) session.store
      with ⟨error | resolved, after⟩
    · exact ⟨error, after, rfl, resolveBlocker_raised _ _ _ _ _ _ _ _ ended⟩
    · obtain ⟨_, _, item, new, rowNamed, itemNamed, -, edits⟩ := resolveBlocker_writes ended
      have was := itemAt_written edits.write
      rw [rowNamed, itemNamed] at was
      rcases stale with other | elsewhere
      · refine absurd ?_ other
        rw [← sound.marked item was, Json.isStr_iff.mp edits.names]
        rfl
      · exact absurd ⟨item, was, edits.versioned⟩ elsewhere
  · intro resumes rested
    cases step_change workflowId wanted session.store operation with
    | kept same =>
      rw [same] at resumes
      exact absurd resumes rested
    | moved item new was now mark target stated free =>
      rw [now, Option.bind_some, stated] at resumes
      rcases free with running | completed
      · rw [running] at resumes
        cases resumes
      · rw [completed] at resumes
        cases resumes
    | edited item new was now mark stated =>
      rw [now, Option.bind_some, stated] at resumes
      rw [was, Option.bind_some] at rested
      exact absurd resumes rested
    | blocked new checkpointId now mark issued target stated blocking =>
      rw [now, Option.bind_some, stated] at resumes
      rw [Option.some.inj resumes] at blocking
      exact absurd blocking (by decide)
    | resolved item new checkpointId event version call was now mark names =>
      refine ⟨checkpointId, version, event, call, ?_⟩
      rw [← sound.marked item was, names]
      rfl

/-- Over any sequence of calls from a store whose checkpoint of the item is none still to be issued:
no two blocks of the item share a checkpoint, none is resolved twice, and each call is guarded. -/
theorem blocks_resolved_once (workflowId wanted : String) (store : Store)
    (fresh : Fresh workflowId wanted store) (operations : List QueueOperation) :
    let reached := Run.run (next workflowId wanted) (begin workflowId wanted store) operations
    reached.made.Nodup ∧ reached.resolved.Nodup ∧
      ∀ operation, Guarded workflowId wanted reached operation := by
  have sound : Sound workflowId wanted
      (Run.run (next workflowId wanted) (begin workflowId wanted store) operations) :=
    Run.invariant_run (next workflowId wanted) (Sound workflowId wanted) (fun _ _ => sound_next) _ operations
      (sound_begin fresh)
  exact ⟨sound.madeOnce, sound.resolvedOnce, guarded_of_sound sound⟩

/-- One running item. -/
def oneRunning : Store :=
  { workflows := .single {
      id := "LWORK_000001"
      workflowState := .planReady
      activeTaskId := some "first"
      taskBacklog := [[("item_id", .str "first"), ("state", .str "RUNNING")]] } }

/-- Two clients see the same block; the one that comes second is refused. -/
def twoClients : List QueueOperation :=
  [.blockRunningItem "LWORK_000001" "first" ReachableStates.refused,
    .resolveBlocker "LWORK_000001" "first" "LQCHK_000001" 1 "Granted.",
    .resolveBlocker "LWORK_000001" "first" "LQCHK_000001" 1 "Granted again."]

theorem two_clients_resolve_once :
    let reached := Run.run (next "LWORK_000001" "first") (begin "LWORK_000001" "first" oneRunning) twoClients
    reached.made = ["LQCHK_000001"] ∧ reached.resolved = ["LQCHK_000001"] ∧
      reached.resolved.Nodup ∧
      ∀ operation, Guarded "LWORK_000001" "first" reached operation := by
  have once := blocks_resolved_once "LWORK_000001" "first" oneRunning (fun _ member => nomatch member)
    twoClients
  exact ⟨by decide +kernel, by decide +kernel, once.2⟩

end Lucius.Queue.BlockResolution
