import Lucius.Runtime.Mission

/-! What the operations of the supervisor do to the backlogs and to the waits.

Every one of them writes one state into the items some identifiers target; which
items those are does not change while the writes go on. -/

namespace Lucius.Mission

open Lucius.Action Queue

variable {missionId : String} {record : DurableMissionRecord} {store after before : Store}
  {now : Timestamp} {pathExists : String → Bool} {records : List DurableWaitRecord}
  {attemptId : Option String}

/-- The workflow whose items an identifier targets: the first with a match. -/
def targetWorkflow (workflows : Table PersistentWorkflowRow) (itemId : String) : Option String :=
  (workflows.rows.find? (fun row => row.taskBacklog.any (matchesItem itemId))).map (·.id)

/-- The item of the workflow is targeted by one of the identifiers. -/
def targets (workflows : Table PersistentWorkflowRow) (itemIds : List String) (workflowId : String)
    (item : Item) : Bool :=
  itemIds.any (fun itemId =>
    decide (targetWorkflow workflows itemId = some workflowId) && matchesItem itemId item)

def retargetedAll (workflows : Table PersistentWorkflowRow) (itemIds : List String)
    (target : QueueWorkItemState) : Table PersistentWorkflowRow :=
  itemIds.foldl (fun current itemId => retargeted current itemId target) workflows

def inState (target : QueueWorkItemState) (item : Item) : Item := item.set "state" (stateText target)

theorem matches_inState (itemId : String) (target : QueueWorkItemState) (item : Item) :
    matchesItem itemId (inState target item) = matchesItem itemId item := by
  simp [matchesItem, inState]

theorem matches_targetItem (itemId other : String) (target : QueueWorkItemState) (item : Item) :
    matchesItem itemId (targetItem other target item) = matchesItem itemId item := by
  unfold targetItem
  split
  · exact matches_inState itemId target item
  · rfl

theorem any_matches_map (itemId : String) (change : Item → Item) (items : List Item)
    (kept : ∀ item, matchesItem itemId (change item) = matchesItem itemId item) :
    (items.map change).any (matchesItem itemId) = items.any (matchesItem itemId) := by
  rw [List.any_map]
  congr 1
  funext item
  exact kept item

/-- The row a retargeting leaves in the place of another. -/
def retargetedRow (workflows : Table PersistentWorkflowRow) (itemId : String)
    (target : QueueWorkItemState) (row : PersistentWorkflowRow) : PersistentWorkflowRow :=
  if targetWorkflow workflows itemId = some row.id then
    { row with taskBacklog := row.taskBacklog.map (targetItem itemId target) }
  else row

theorem retargetedRow_id (workflows : Table PersistentWorkflowRow) (itemId : String)
    (target : QueueWorkItemState) (row : PersistentWorkflowRow) :
    (retargetedRow workflows itemId target row).id = row.id := by
  unfold retargetedRow
  split <;> rfl

theorem retargeted_rows (workflows : Table PersistentWorkflowRow) (itemId : String)
    (target : QueueWorkItemState) :
    (retargeted workflows itemId target).rows =
      workflows.rows.map (retargetedRow workflows itemId target) := by
  cases found : workflows.rows.find? (fun row => row.taskBacklog.any (matchesItem itemId)) with
  | none =>
    have nowhere : targetWorkflow workflows itemId = none := by rw [targetWorkflow, found]; rfl
    have each : ∀ row ∈ workflows.rows, retargetedRow workflows itemId target row = id row := by
      intro row _
      simp [retargetedRow, nowhere]
    rw [List.map_congr_left each, List.map_id, retargeted, found]
  | some first =>
    have here : targetWorkflow workflows itemId = some first.id := by rw [targetWorkflow, found]; rfl
    have member := List.mem_of_find?_eq_some found
    rw [retargeted, found]
    apply List.map_congr_left
    intro row inside
    by_cases same : row.id = first.id
    · have equal : row = first := Table.row_unique inside member same
      subst equal
      simp [retargetedRow, here, Keyed.key]
    · have other : targetWorkflow workflows itemId ≠ some row.id := by
        rw [here]
        exact fun equal => same (Option.some.inj equal).symm
      simp [retargetedRow, other, Keyed.key, same]

theorem find_map_id {rows : List PersistentWorkflowRow} (predicate : PersistentWorkflowRow → Bool)
    (change : PersistentWorkflowRow → PersistentWorkflowRow)
    (kept : ∀ row, predicate (change row) = predicate row) (named : ∀ row, (change row).id = row.id) :
    ((rows.map change).find? predicate).map (·.id) = (rows.find? predicate).map (·.id) := by
  induction rows with
  | nil => rfl
  | cons first rest ih =>
    simp only [List.map_cons, List.find?_cons, kept]
    cases predicate first with
    | true => exact congrArg some (named first)
    | false => exact ih

theorem targetWorkflow_retargeted (workflows : Table PersistentWorkflowRow) (itemId other : String)
    (target : QueueWorkItemState) :
    targetWorkflow (retargeted workflows itemId target) other = targetWorkflow workflows other := by
  unfold targetWorkflow
  rw [retargeted_rows]
  apply find_map_id
  · intro row
    unfold retargetedRow
    split
    · exact any_matches_map other _ _ (fun item => matches_targetItem other itemId target item)
    · rfl
  · exact retargetedRow_id workflows itemId target

def settle (workflows : Table PersistentWorkflowRow) (itemIds : List String)
    (target : QueueWorkItemState) (workflowId : String) (item : Item) : Item :=
  if targets workflows itemIds workflowId item then inState target item else item

/-- All the identifiers of an operation at once: an item is settled when one of
them targets it, in the table the operation started from. -/
theorem retargetedAll_rows (itemIds : List String) (target : QueueWorkItemState)
    (workflows : Table PersistentWorkflowRow) :
    (retargetedAll workflows itemIds target).rows = workflows.rows.map (fun row =>
      { row with taskBacklog := row.taskBacklog.map (settle workflows itemIds target row.id) }) := by
  induction itemIds generalizing workflows with
  | nil =>
    have each : ∀ row ∈ workflows.rows,
        { row with taskBacklog := row.taskBacklog.map (settle workflows [] target row.id) } = id row := by
      intro row _
      have same : settle workflows [] target row.id = id := by
        funext item
        simp [settle, targets]
      rw [same, List.map_id]
      rfl
    rw [List.map_congr_left each, List.map_id]
    rfl
  | cons itemId rest ih =>
    have unfolded : retargetedAll workflows (itemId :: rest) target =
        retargetedAll (retargeted workflows itemId target) rest target := rfl
    rw [unfolded, ih, retargeted_rows, List.map_map]
    apply List.map_congr_left
    intro row _
    have later : ∀ item, targets (retargeted workflows itemId target) rest row.id item =
        targets workflows rest row.id item := by
      intro item
      unfold targets
      simp only [targetWorkflow_retargeted]
    simp only [Function.comp_apply, retargetedRow_id]
    unfold retargetedRow
    split
    · rename_i here
      simp only [List.map_map]
      congr 1
      apply List.map_congr_left
      intro item _
      have kept : targets workflows rest row.id (inState target item) =
          targets workflows rest row.id item := by
        simp only [targets, matches_inState]
      simp only [Function.comp_apply, settle, later, targetItem]
      by_cases now : matchesItem itemId item = true
      · have first : targets workflows (itemId :: rest) row.id item = true := by
          simp [targets, here, now]
        have shape : (item.set "state" (stateText target)) = inState target item := rfl
        rw [if_pos now, shape, kept, if_pos first]
        split
        · simp only [inState, Dict.set_set]
        · rfl
      · have first : targets workflows (itemId :: rest) row.id item =
            targets workflows rest row.id item := by
          simp [targets, now]
        rw [if_neg now, first]
    · rename_i elsewhere
      congr 1
      apply List.map_congr_left
      intro item _
      have first : targets workflows (itemId :: rest) row.id item =
          targets workflows rest row.id item := by
        simp [targets, elsewhere]
      simp only [settle, later, first]

inductive MissionOperation where
  | createMission (canonicalSha : String) (metadata : Dict) (missionId attemptId : Option String)
  | recordWait (missionId : String) (request : WaitRequest)
  | clearWait (waitId : String)
  | getMission (missionId : String)
  | recoverMission (missionId : String) (currentCanonicalSha attemptId canonicalSha : Option String)
  | recordInterruption (missionId : String) (attemptId : Option String) (reason : String)
      (checkpointData : Dict)
  | reevaluateDurableWaits (pathExists : String → Bool) (missionId : Option String)
  | reconcileMissionState (missionId : String)

def perform : MissionOperation → Op Unit
  | .createMission sha metadata missionId attemptId => do
      let _ ← createMission sha metadata missionId attemptId
  | .recordWait missionId request => do let _ ← recordWait missionId request
  | .clearWait waitId => do let _ ← clearWait waitId
  | .getMission missionId => do let _ ← getMission missionId
  | .recoverMission missionId current attemptId canonical => do
      let _ ← recoverMission missionId current attemptId canonical
  | .recordInterruption missionId attemptId reason checkpoint => do
      let _ ← recordInterruption missionId attemptId reason checkpoint
  | .reevaluateDurableWaits pathExists missionId => do
      let _ ← reevaluateDurableWaits pathExists missionId
  | .reconcileMissionState missionId => do let _ ← reconcileMissionState missionId

/-- The waits a recovery finds due: it reads the clock twice before it looks. -/
def dueWaits (store : Store) (missionId : String) : List DurableWaitRow :=
  (missionWaits store.waits missionId).filter
    (fun wait => !wait.isCleared && isDue store.tick.now wait)

def reevaluated (pathExists : String → Bool) (now : Timestamp) (wait : DurableWaitRow) : Bool :=
  match shouldClear pathExists now wait with
  | .ok clear => clear
  | .error _ => false

def openWaits (waits : Table DurableWaitRow) (missionId : Option String) : List DurableWaitRow :=
  waits.rows.filter (fun wait =>
    !wait.isCleared && missionId.all (fun wanted => wait.missionId = wanted))

/-- The waits an operation clears, in the order in which it clears them. -/
def clearedWaits (store : Store) : MissionOperation → List DurableWaitRow
  | .clearWait waitId => (store.waits.get? waitId).toList
  | .recoverMission missionId _ _ _ => dueWaits store missionId
  | .reevaluateDurableWaits pathExists missionId =>
    (openWaits store.waits missionId).filter (reevaluated pathExists store.now)
  | _ => []

/-- The identifiers whose items an operation writes. -/
def writtenItems (store : Store) : MissionOperation → List String
  | .recordWait _ request => (heldItem request).toList.map Prod.fst
  | operation => (clearedWaits store operation).filterMap releasedItem

def writtenState : MissionOperation → QueueWorkItemState
  | .recordWait _ request => ((heldItem request).map Prod.snd).getD .ready
  | _ => .ready

/-- The waits left open are those that were open and are not cleared. -/
def OpenAfter (cleared : List DurableWaitRow) (before after : Table DurableWaitRow) : Prop :=
  ∀ wait, (wait ∈ after.rows ∧ wait.isCleared = false) ↔
    (wait ∈ before.rows ∧ wait.isCleared = false ∧ ∀ other ∈ cleared, other.id ≠ wait.id)

theorem openAfter_nil (waits : Table DurableWaitRow) : OpenAfter [] waits waits := by
  intro wait
  simp

theorem openAfter_put (waits : Table DurableWaitRow) (wait cleared : DurableWaitRow)
    (same : cleared.id = wait.id) (isCleared : cleared.isCleared = true) :
    OpenAfter [wait] waits (waits.put cleared) := by
  intro other
  constructor
  · rintro ⟨member, isOpen⟩
    rcases Table.mem_put member with equal | ⟨old, different⟩
    · rw [equal, isCleared] at isOpen
      cases isOpen
    · refine ⟨old, isOpen, ?_⟩
      intro first inside
      rw [List.mem_singleton.mp inside, ← same]
      exact fun equal => different equal.symm
  · rintro ⟨member, isOpen, others⟩
    refine ⟨Table.mem_put_other member ?_, isOpen⟩
    intro equal
    exact others wait List.mem_cons_self (same.symm.trans equal.symm)

theorem openAfter_trans {first second : List DurableWaitRow} {before middle after : Table DurableWaitRow}
    (one : OpenAfter first before middle) (two : OpenAfter second middle after) :
    OpenAfter (first ++ second) before after := by
  intro wait
  rw [two wait, ← and_assoc, one wait]
  simp only [List.mem_append, or_imp, forall_and]
  tauto

theorem reconcileMissionState_ok
    (done : exec (reconcileMissionState missionId) store = (.ok record, after)) :
    after.workflows = store.workflows ∧ after.waits = store.waits := by
  unfold reconcileMissionState at done
  obtain ⟨mission, middle, read, done⟩ := bind_ok done
  have unchanged : middle = store := by
    unfold missionRow at read
    rw [exec_get_bind] at read
    split at read
    · exact (ok_pure read).2
    · cases read
  rw [exec_get_bind, exec_bind_of_ok (Op.exec_utcNow _),
    exec_bind_of_ok (Op.exec_utcNow _)] at done
  obtain ⟨_, last, written, done⟩ := bind_ok done
  have shape := ok_modify written
  obtain ⟨-, rfl⟩ := ok_ofExcept done
  rw [shape, unchanged]
  exact ⟨rfl, rfl⟩

/-- Waits are cleared, and the items they refer to are made ready. -/
structure Clears (cleared : List DurableWaitRow) (before after : Store) : Prop where
  workflows : after.workflows =
    retargetedAll before.workflows (cleared.filterMap releasedItem) .ready
  waits : OpenAfter cleared before.waits after.waits

theorem retargetedAll_append (workflows : Table PersistentWorkflowRow) (first second : List String)
    (target : QueueWorkItemState) :
    retargetedAll workflows (first ++ second) target =
      retargetedAll (retargetedAll workflows first target) second target :=
  List.foldl_append

theorem clears_nil (workflows : after.workflows = before.workflows)
    (waits : after.waits = before.waits) : Clears [] before after := by
  refine ⟨workflows, ?_⟩
  rw [waits]
  exact openAfter_nil before.waits

theorem clears_trans {first second : List DurableWaitRow} {middle : Store}
    (one : Clears first before middle) (two : Clears second middle after) :
    Clears (first ++ second) before after := by
  refine ⟨?_, openAfter_trans one.waits two.waits⟩
  rw [two.workflows, one.workflows, List.filterMap_append, retargetedAll_append]

theorem clears_kept {cleared : List DurableWaitRow} {middle : Store}
    (one : Clears cleared before middle) (workflows : after.workflows = middle.workflows)
    (waits : after.waits = middle.waits) : Clears cleared before after := by
  have both := clears_trans one (clears_nil workflows waits)
  rwa [List.append_nil] at both

theorem release_exec (wait : DurableWaitRow) (store : Store) :
    exec (release wait) store = (.ok (), { store with
      workflows := retargetedAll store.workflows ((releasedItem wait).toList) .ready }) := by
  unfold release
  cases releasedItem wait <;> rfl

theorem clears_one {wait : DurableWaitRow} (cleared : DurableWaitRow)
    (same : cleared.id = wait.id) (isCleared : cleared.isCleared = true)
    (workflows : after.workflows =
      retargetedAll before.workflows ((releasedItem wait).toList) .ready)
    (waits : after.waits = before.waits.put cleared) : Clears [wait] before after := by
  constructor
  · rw [workflows, List.filterMap_cons, List.filterMap_nil]
    cases releasedItem wait <;> rfl
  · rw [waits]
    exact openAfter_put before.waits wait cleared same isCleared

theorem clearDue_ok {due : List DurableWaitRow}
    (done : exec (clearDue now due) store = (.ok (), after)) : Clears due store after := by
  induction due generalizing store with
  | nil =>
    obtain ⟨-, rfl⟩ := ok_pure done
    exact clears_nil rfl rfl
  | cons wait rest ih =>
    unfold clearDue at done
    obtain ⟨_, middle, written, done⟩ := bind_ok done
    have shape := ok_modify written
    rw [exec_bind_of_ok (release_exec _ _)] at done
    have first : Clears [wait] store { middle with
        workflows := retargetedAll middle.workflows ((releasedItem wait).toList) .ready } := by
      refine clears_one { wait with isCleared := true, clearedAt := some now } rfl rfl ?_ ?_
      · rw [shape]
      · rw [shape]
    exact clears_trans first (ih done)

theorem clearWait_ok {waitId : String} {result : Option DurableWaitRecord}
    (done : exec (clearWait waitId) store = (.ok result, after)) :
    Clears (store.waits.get? waitId).toList store after := by
  unfold clearWait at done
  rw [exec_get_bind] at done
  cases found : store.waits.get? waitId with
  | none =>
    rw [found] at done
    obtain ⟨-, rfl⟩ := ok_pure done
    exact clears_nil rfl rfl
  | some wait =>
    simp only [found] at done
    rw [exec_bind_of_ok (Op.exec_utcNow _)] at done
    obtain ⟨_, middle, written, done⟩ := bind_ok done
    have shape := ok_modify written
    rw [exec_bind_of_ok (release_exec _ _)] at done
    obtain ⟨_, last, reconciled, done⟩ := bind_ok done
    obtain ⟨workflows, waits⟩ := reconcileMissionState_ok reconciled
    rw [auditMission, exec_bind_of_ok (Op.exec_record _ _)] at done
    obtain ⟨_, _, done⟩ := bind_ofExcept_ok done
    obtain ⟨-, rfl⟩ := ok_pure done
    refine clears_one { wait with isCleared := true, clearedAt := some store.now } rfl rfl ?_ ?_
    · rw [Store.record_tables, workflows, shape]
      rfl
    · rw [Store.record_tables, waits, shape]
      rfl

/-- A reevaluation looks each wait up again before it clears it, and finds it as it was: the
waits cleared before it are others. What holds of no clearing and is kept by one holds of all. -/
theorem reevaluateWaits_induct {motive : List DurableWaitRow → Store → Store → Prop}
    (stop : ∀ store, motive [] store store)
    (clear : ∀ {wait rest result store middle after}, store.waits.get? wait.id = some wait →
      exec (clearWait wait.id) store = (.ok result, middle) → motive rest middle after →
      motive (wait :: rest) store after) {candidates : List DurableWaitRow}
    (done : exec (reevaluateWaits pathExists now candidates) store = (.ok records, after))
    (distinct : (candidates.map (·.id)).Nodup)
    (known : ∀ wait ∈ candidates, store.waits.get? wait.id = some wait ∧ wait.isCleared = false) :
    motive (candidates.filter (reevaluated pathExists now)) store after := by
  induction candidates generalizing store records with
  | nil =>
    obtain ⟨-, rfl⟩ := ok_pure done
    exact stop _
  | cons wait rest ih =>
    unfold reevaluateWaits at done
    rw [List.map_cons, List.nodup_cons] at distinct
    obtain ⟨cleared, decision, done⟩ := bind_ofExcept_ok done
    obtain ⟨_, middle, clearing, done⟩ := bind_ok done
    obtain ⟨_, last, later, done⟩ := bind_ok done
    obtain ⟨-, rfl⟩ := ok_pure done
    have decided : reevaluated pathExists now wait = cleared := by rw [reevaluated, decision]
    cases cleared with
    | false =>
      obtain ⟨-, rfl⟩ := ok_pure clearing
      rw [List.filter_cons_of_neg (by rw [decided]; exact Bool.false_ne_true)]
      exact ih later distinct.2 (fun other member => known other (List.mem_cons_of_mem wait member))
    | true =>
      have present := (known wait List.mem_cons_self).1
      have effect := clearWait_ok clearing
      rw [present] at effect
      rw [List.filter_cons_of_pos decided]
      refine clear present clearing (ih later distinct.2 ?_)
      intro other member
      obtain ⟨listed, isOpen⟩ := known other (List.mem_cons_of_mem _ member)
      have stays := (effect.waits other).mpr ⟨Table.get?_mem listed, isOpen, ?_⟩
      · exact ⟨Table.get?_of_mem stays.1, isOpen⟩
      · intro gone inside same
        have equal : gone = wait := List.mem_singleton.mp inside
        apply distinct.1
        rw [← equal, same]
        exact List.mem_map_of_mem member

theorem reevaluateWaits_ok {candidates : List DurableWaitRow}
    (done : exec (reevaluateWaits pathExists now candidates) store = (.ok records, after))
    (distinct : (candidates.map (·.id)).Nodup)
    (known : ∀ wait ∈ candidates, store.waits.get? wait.id = some wait ∧ wait.isCleared = false) :
    Clears (candidates.filter (reevaluated pathExists now)) store after := by
  apply reevaluateWaits_induct (fun store => clears_nil rfl rfl) ?_ done distinct known
  intro wait rest result store middle after present clearing later
  have first := clearWait_ok clearing
  rw [present] at first
  exact clears_trans first later

theorem missionRow_ok {row : DurableMissionRow}
    (done : exec (missionRow missionId) store = (.ok row, after)) : after = store := by
  unfold missionRow at done
  rw [exec_get_bind] at done
  split at done
  · exact (ok_pure done).2
  · cases done

theorem givenOr_ok {label given : String} {option : Option String}
    (done : exec (givenOr label option) store = (.ok given, after)) :
    after.toTables = store.toTables ∧ after.clock = store.clock ∧ after.ticks = store.ticks := by
  unfold givenOr at done
  cases option with
  | some known =>
    obtain ⟨-, rfl⟩ := ok_pure done
    exact ⟨rfl, rfl, rfl⟩
  | none =>
    rw [exec_bind_of_ok (Op.exec_uuid _)] at done
    obtain ⟨-, rfl⟩ := ok_pure done
    exact ⟨rfl, rfl, rfl⟩

theorem recoverMission_ok {current canonical : Option String}
    (done : exec (recoverMission missionId current attemptId canonical) store =
      (.ok record, after)) : Clears (dueWaits store missionId) store after := by
  unfold recoverMission at done
  obtain ⟨mission, middle, read, done⟩ := bind_ok done
  rw [missionRow_ok read] at done
  split at done
  · cases done
  obtain ⟨attempt, named, drawn, done⟩ := bind_ok done
  obtain ⟨tables, clock, ticks⟩ := givenOr_ok drawn
  obtain ⟨attempts, _, done⟩ := bind_ofExcept_ok done
  rw [exec_bind_of_ok (Op.exec_utcNow _)] at done
  obtain ⟨_, put, written, done⟩ := bind_ok done
  have shape := ok_modify written
  rw [exec_bind_of_ok (Op.exec_utcNow _), exec_get_bind] at done
  obtain ⟨_, cleared, clearing, done⟩ := bind_ok done
  obtain ⟨_, reconciled, settled, done⟩ := bind_ok done
  obtain ⟨workflows, waits⟩ := reconcileMissionState_ok settled
  rw [auditMission, exec_bind_of_ok (Op.exec_record _ _)] at done
  obtain ⟨-, rfl⟩ := ok_pure done
  have sameWaits : put.waits = store.waits := by
    have kept : named.waits = store.waits := congrArg Tables.waits tables
    rw [shape]
    exact kept
  have sameWorkflows : put.workflows = store.workflows := by
    have kept : named.workflows = store.workflows := congrArg Tables.workflows tables
    rw [shape]
    exact kept
  have sameNow : put.now = store.tick.now := by
    rw [shape]
    simp only [Store.now, Store.tick, clock, ticks]
  have due := clearDue_ok clearing
  have listed : (missionWaits put.tick.waits missionId).filter
      (fun wait => !wait.isCleared && isDue put.now wait) = dueWaits store missionId := by
    rw [dueWaits, sameNow, Store.tick_tables, sameWaits]
  rw [listed] at due
  refine clears_kept ⟨?_, ?_⟩ workflows waits
  · rw [due.workflows, Store.tick_tables, sameWorkflows]
  · have opened := due.waits
    rwa [Store.tick_tables, sameWaits] at opened

theorem reevaluateDurableWaits_ok {missionId : Option String}
    (done : exec (reevaluateDurableWaits pathExists missionId) store = (.ok records, after)) :
    Clears ((openWaits store.waits missionId).filter (reevaluated pathExists store.now)) store after := by
  unfold reevaluateDurableWaits at done
  rw [exec_bind_of_ok (Op.exec_utcNow _), exec_get_bind] at done
  have cleared := reevaluateWaits_ok done
    (List.Nodup.sublist (List.Sublist.map _ List.filter_sublist) store.waits.unique)
    (fun wait member => by
      obtain ⟨present, isOpen⟩ := List.mem_filter.mp member
      simp only [Bool.and_eq_true, Bool.not_eq_true'] at isOpen
      exact ⟨Table.get?_of_mem present, isOpen.1⟩)
  exact ⟨cleared.workflows, cleared.waits⟩

theorem addMission_ok {row : DurableMissionRow}
    (done : exec (addMission row) store = (.ok (), after)) :
    after.workflows = store.workflows ∧ after.waits = store.waits := by
  unfold addMission at done
  rw [exec_get_bind] at done
  split at done
  · cases done
  · have shape := ok_modify done
    rw [shape]
    exact ⟨rfl, rfl⟩

theorem createMission_ok {sha : String} {metadata : Dict} {missionId : Option String}
    (done : exec (createMission sha metadata missionId attemptId) store = (.ok record, after)) :
    after.workflows = store.workflows ∧ after.waits = store.waits := by
  unfold createMission at done
  obtain ⟨_, identified, first, done⟩ := bind_ok done
  obtain ⟨_, attempted, second, done⟩ := bind_ok done
  rw [exec_bind_of_ok (Op.exec_utcNow _)] at done
  obtain ⟨_, _, done⟩ := bind_ofExcept_ok done
  rw [exec_bind_of_ok (Op.exec_utcNow _)] at done
  obtain ⟨_, added, adding, done⟩ := bind_ok done
  obtain ⟨workflows, waits⟩ := addMission_ok adding
  rw [auditMission, exec_bind_of_ok (Op.exec_record _ _)] at done
  obtain ⟨-, rfl⟩ := ok_ofExcept done
  have tables : attempted.toTables = store.toTables :=
    (givenOr_ok second).1.trans (givenOr_ok first).1
  exact ⟨workflows.trans (congrArg Tables.workflows tables), waits.trans (congrArg Tables.waits tables)⟩

theorem recordInterruption_ok {reason : String} {checkpoint : Dict}
    (done : exec (recordInterruption missionId attemptId reason checkpoint) store =
      (.ok record, after)) : after.workflows = store.workflows ∧ after.waits = store.waits := by
  unfold recordInterruption at done
  obtain ⟨mission, middle, read, done⟩ := bind_ok done
  rw [missionRow_ok read, exec_bind_of_ok (Op.exec_utcNow _)] at done
  rw [exec_bind_of_ok (Op.exec_utcNow _)] at done
  obtain ⟨_, put, written, done⟩ := bind_ok done
  have shape := ok_modify written
  rw [auditMission, exec_bind_of_ok (Op.exec_record _ _)] at done
  obtain ⟨workflows, waits⟩ := reconcileMissionState_ok done
  rw [workflows, waits, Store.record_tables, shape]
  exact ⟨rfl, rfl⟩

theorem getMission_ok {record : Option DurableMissionRecord}
    (done : exec (getMission missionId) store = (.ok record, after)) :
    after.workflows = store.workflows ∧ after.waits = store.waits := by
  unfold getMission at done
  rw [exec_get_bind] at done
  split at done
  · obtain ⟨-, rfl⟩ := ok_pure done
    exact ⟨rfl, rfl⟩
  · obtain ⟨_, middle, reconciled, done⟩ := bind_ok done
    obtain ⟨-, rfl⟩ := ok_pure done
    exact reconcileMissionState_ok reconciled

theorem addWait_ok {row : DurableWaitRow}
    (done : exec (addWait row) store = (.ok (), after)) :
    after = { store with waits := store.waits.add row } := by
  unfold addWait at done
  rw [exec_get_bind] at done
  split at done
  · cases done
  · exact ok_modify done

theorem hold_exec (request : WaitRequest) (store : Store) :
    exec (hold request) store = (.ok (), { store with
      workflows := retargetedAll store.workflows ((heldItem request).toList.map Prod.fst)
        (((heldItem request).map Prod.snd).getD .ready) }) := by
  unfold hold
  rcases heldItem request with _ | ⟨itemId, target⟩ <;> rfl

theorem recordWait_ok {request : WaitRequest} {record : DurableWaitRecord}
    (done : exec (recordWait missionId request) store = (.ok record, after)) :
    after.workflows = retargetedAll store.workflows ((heldItem request).toList.map Prod.fst)
      (((heldItem request).map Prod.snd).getD .ready) := by
  unfold recordWait at done
  rw [exec_bind_of_ok (Op.exec_uuid _), exec_bind_of_ok (Op.exec_utcNow _),
    exec_bind_of_ok (Op.exec_utcNow _)] at done
  obtain ⟨_, added, adding, done⟩ := bind_ok done
  have shape := addWait_ok adding
  rw [exec_bind_of_ok (hold_exec _ _)] at done
  obtain ⟨_, last, reconciled, done⟩ := bind_ok done
  obtain ⟨workflows, -⟩ := reconcileMissionState_ok reconciled
  rw [auditMission, exec_bind_of_ok (Op.exec_record _ _)] at done
  obtain ⟨-, rfl⟩ := ok_ofExcept done
  rw [Store.record_tables, workflows, shape]
  rfl

def IsRecordWait : MissionOperation → Prop
  | .recordWait _ _ => True
  | _ => False

theorem perform_clears {operation : MissionOperation}
    (other : ¬ IsRecordWait operation)
    (done : exec (perform operation) store = (.ok (), after)) :
    Clears (clearedWaits store operation) store after := by
  cases operation with
  | recordWait => exact absurd trivial other
  | createMission =>
    obtain ⟨_, middle, inner, done⟩ := bind_ok done
    obtain ⟨-, rfl⟩ := ok_pure done
    obtain ⟨workflows, waits⟩ := createMission_ok inner
    exact clears_nil workflows waits
  | clearWait =>
    obtain ⟨_, middle, inner, done⟩ := bind_ok done
    obtain ⟨-, rfl⟩ := ok_pure done
    exact clearWait_ok inner
  | getMission =>
    obtain ⟨_, middle, inner, done⟩ := bind_ok done
    obtain ⟨-, rfl⟩ := ok_pure done
    obtain ⟨workflows, waits⟩ := getMission_ok inner
    exact clears_nil workflows waits
  | recoverMission =>
    obtain ⟨_, middle, inner, done⟩ := bind_ok done
    obtain ⟨-, rfl⟩ := ok_pure done
    exact recoverMission_ok inner
  | recordInterruption =>
    obtain ⟨_, middle, inner, done⟩ := bind_ok done
    obtain ⟨-, rfl⟩ := ok_pure done
    obtain ⟨workflows, waits⟩ := recordInterruption_ok inner
    exact clears_nil workflows waits
  | reevaluateDurableWaits =>
    obtain ⟨_, middle, inner, done⟩ := bind_ok done
    obtain ⟨-, rfl⟩ := ok_pure done
    exact reevaluateDurableWaits_ok inner
  | reconcileMissionState =>
    obtain ⟨_, middle, inner, done⟩ := bind_ok done
    obtain ⟨-, rfl⟩ := ok_pure done
    obtain ⟨workflows, waits⟩ := reconcileMissionState_ok inner
    exact clears_nil workflows waits

theorem perform_workflows {operation : MissionOperation}
    (done : exec (perform operation) store = (.ok (), after)) :
    after.workflows =
      retargetedAll store.workflows (writtenItems store operation) (writtenState operation) := by
  by_cases recording : IsRecordWait operation
  · cases operation with
    | recordWait missionId request =>
      obtain ⟨_, middle, inner, done⟩ := bind_ok done
      obtain ⟨-, rfl⟩ := ok_pure done
      exact recordWait_ok inner
    | _ => exact recording.elim
  · have cleared := (perform_clears recording done).workflows
    cases operation with
    | recordWait => exact absurd trivial recording
    | _ => exact cleared

end Lucius.Mission
