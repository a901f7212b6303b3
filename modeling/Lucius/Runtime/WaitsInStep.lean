import Lucius.Runtime.DurableWaits

/-! The items a recorded wait holds, and the waits that are open for them. -/

namespace Lucius.Runtime.WaitsInStep

open Lucius.Action Queue Mission Tokens DurableWaits

variable {store after : Store} {request : WaitRequest} {target : QueueWorkItemState} {place : Place}
  {item : Item} {operation : MissionOperation} {session : Session}

/-- A place in the backlog of a workflow. The supervisor moves no item to another place. -/
abbrev Place := String × Nat

def itemIn (workflows : Table PersistentWorkflowRow) (place : Place) : Option Item :=
  (workflows.get? place.1).bind (fun row => row.taskBacklog[place.2]?)

def stateIn (workflows : Table PersistentWorkflowRow) (place : Place) : Option QueueWorkItemState :=
  (itemIn workflows place).bind queueState?

/-- The item in the place is one the wait puts in a state when it is recorded. -/
def IsFor (workflows : Table PersistentWorkflowRow) (place : Place) (item : Item)
    (wait : DurableWaitRow) : Prop :=
  ∃ name, namedItem wait.itemId = some name ∧ targetWorkflow workflows name = some place.1 ∧
    matchesItem name item = true

def Awaited (store : Store) (place : Place) : Prop :=
  ∃ item, itemIn store.workflows place = some item ∧
    ∃ wait ∈ store.waits.rows, wait.isCleared = false ∧ IsFor store.workflows place item wait

/-- The state a recorded wait puts the item of a place in. -/
def putInto (store : Store) (place : Place) : MissionOperation → Option QueueWorkItemState
  | .recordWait missionId request =>
    match (exec (perform (.recordWait missionId request)) store).1, heldItem request,
        itemIn store.workflows place with
    | .ok _, some (name, target), some item =>
      if targets store.workflows [name] place.1 item then some target else none
    | _, _, _ => none
  | _ => none

/-- The store, and the state a recorded wait put the item of a place in, for as long as the item
stays in it. What is held is an observation: no operation reads it. -/
structure Session where
  store : Store
  held : Place → Option QueueWorkItemState

def begin (store : Store) : Session := { store := store, held := fun _ => none }

def heldAfter (session : Session) (operation : MissionOperation) (after : Store) (place : Place) :
    Option QueueWorkItemState :=
  match putInto session.store place operation with
  | some target => some target
  | none =>
    if stateIn after.workflows place = session.held place then session.held place else none

def step (session : Session) (operation : MissionOperation) : Session :=
  let after := transact (perform operation) session.store
  { store := after, held := heldAfter session operation after }

def IsTimed : MissionOperation → Prop
  | .recoverMission _ _ _ _ => True
  | .reevaluateDurableWaits _ _ => True
  | _ => False

/-- After the operation every item still in the state a recorded wait put it in has an open wait,
and it is in that state no more where a timer or a flag cleared a wait for it that makes no
item ready. -/
structure InStep (session : Session) (operation : MissionOperation) : Prop where
  awaited : ∀ place target, (step session operation).held place = some target →
    Awaited (step session operation).store place
  timed : IsTimed operation → Accepted session.store operation →
    ∀ wait ∈ clearedWaits session.store operation, wait.waitClass ∉ clearableClasses →
    ∀ place item, itemIn session.store.workflows place = some item →
      IsFor session.store.workflows place item wait → (step session operation).held place = none

/-- The operation clears every open wait for a held item, or a timer or a flag clears one of them. -/
def Frees (session : Session) (operation : MissionOperation) (place : Place) (item : Item) : Prop :=
  (IsTimed operation ∧ ∃ wait ∈ clearedWaits session.store operation,
    IsFor session.store.workflows place item wait) ∨
  ∀ wait ∈ session.store.waits.rows, wait.isCleared = false →
    IsFor session.store.workflows place item wait →
    ∃ cleared ∈ clearedWaits session.store operation, cleared.id = wait.id

/-- Where an operation frees a held item, one of the waits it clears makes the item ready. -/
def Releases (session : Session) (operation : MissionOperation) : Prop :=
  Accepted session.store operation → ∀ place item target, session.held place = some target →
    itemIn session.store.workflows place = some item → Frees session operation place item →
    ∃ wait ∈ clearedWaits session.store operation, wait.waitClass ∈ clearableClasses ∧
      IsFor session.store.workflows place item wait

/-- The held items are in the state they are held in, which is not READY, and an open wait is
for each of them. -/
def Sound (session : Session) : Prop :=
  ∀ place target, session.held place = some target →
    stateIn session.store.workflows place = some target ∧ target ≠ .ready ∧
      Awaited session.store place

theorem itemIn_retargetedAll (workflows : Table PersistentWorkflowRow) (itemIds : List String)
    (target : QueueWorkItemState) (place : Place) :
    itemIn (retargetedAll workflows itemIds target) place =
      (itemIn workflows place).map (settle workflows itemIds target place.1) := by
  have moved : (retargetedAll workflows itemIds target).get? place.1 =
      (workflows.get? place.1).map (fun row =>
        { row with taskBacklog := row.taskBacklog.map (settle workflows itemIds target row.id) }) := by
    unfold Table.get?
    rw [Mission.retargetedAll_rows, List.find?_map]
    rfl
  unfold itemIn
  rw [moved]
  cases found : workflows.get? place.1 with
  | none => rfl
  | some row =>
    have named : row.id = place.1 := Table.get?_key found
    simp only [Option.map_some, Option.bind_some, List.getElem?_map, named]

theorem targetWorkflow_retargetedAll (workflows : Table PersistentWorkflowRow) (itemIds : List String)
    (target : QueueWorkItemState) (name : String) :
    targetWorkflow (retargetedAll workflows itemIds target) name = targetWorkflow workflows name := by
  induction itemIds generalizing workflows with
  | nil => rfl
  | cons first rest ih => exact (ih _).trans (Mission.targetWorkflow_retargeted workflows first name target)

theorem matches_settle (workflows : Table PersistentWorkflowRow) (itemIds : List String)
    (target : QueueWorkItemState) (workflowId name : String) (item : Item) :
    matchesItem name (settle workflows itemIds target workflowId item) = matchesItem name item := by
  unfold settle
  split
  · exact Mission.matches_inState name target item
  · rfl

theorem isFor_settle (workflows : Table PersistentWorkflowRow) (itemIds : List String)
    (target : QueueWorkItemState) (place : Place) (item : Item) (wait : DurableWaitRow) :
    IsFor (retargetedAll workflows itemIds target) place
      (settle workflows itemIds target place.1 item) wait ↔ IsFor workflows place item wait := by
  unfold IsFor
  simp only [targetWorkflow_retargetedAll, matches_settle]

theorem targets_iff (workflows : Table PersistentWorkflowRow) (itemIds : List String) (place : Place)
    (item : Item) : targets workflows itemIds place.1 item = true ↔
      ∃ name ∈ itemIds, targetWorkflow workflows name = some place.1 ∧ matchesItem name item = true := by
  simp only [targets, List.any_eq_true, Bool.and_eq_true, decide_eq_true_eq]

theorem released_iff (workflows : Table PersistentWorkflowRow) (cleared : List DurableWaitRow)
    (place : Place) (item : Item) :
    targets workflows (cleared.filterMap releasedItem) place.1 item = true ↔
      ∃ wait ∈ cleared, wait.waitClass ∈ clearableClasses ∧ IsFor workflows place item wait := by
  rw [targets_iff]
  constructor
  · rintro ⟨name, member, target, matched⟩
    obtain ⟨wait, inside, released⟩ := List.mem_filterMap.mp member
    unfold releasedItem at released
    by_cases clearable : wait.waitClass ∈ clearableClasses
    · rw [if_pos clearable] at released
      exact ⟨wait, inside, clearable, name, released, target, matched⟩
    · rw [if_neg clearable] at released
      cases released
  · rintro ⟨wait, inside, clearable, name, named, target, matched⟩
    refine ⟨name, List.mem_filterMap.mpr ⟨wait, inside, ?_⟩, target, matched⟩
    rw [releasedItem, if_pos clearable, named]

theorem addWait_adds {row : DurableWaitRow}
    (done : exec (Mission.addWait row) store = (.ok (), after)) :
    (∀ wait ∈ store.waits.rows, wait ∈ after.waits.rows) ∧ row ∈ after.waits.rows := by
  unfold Mission.addWait at done
  rw [exec_get_bind] at done
  split at done
  · cases done
  · rename_i fresh
    rw [ok_modify done]
    have absent : store.waits.get? (Keyed.key row) = none := Option.not_isSome_iff_eq_none.mp fresh
    exact ⟨fun wait member => Table.mem_add_old member, Table.get?_mem (Table.get?_add_fresh absent)⟩

theorem recordWait_adds {missionId : String}
    (done : exec (perform (.recordWait missionId request)) store = (.ok (), after)) :
    (∀ wait ∈ store.waits.rows, wait ∈ after.waits.rows) ∧
      ∃ wait ∈ after.waits.rows, wait.itemId = request.itemId ∧ wait.isCleared = false := by
  obtain ⟨_, middle, inner, done⟩ := bind_ok done
  obtain ⟨-, rfl⟩ := ok_pure done
  unfold Mission.recordWait at inner
  rw [exec_bind_of_ok (Op.exec_uuid _), exec_bind_of_ok (Op.exec_utcNow _),
    exec_bind_of_ok (Op.exec_utcNow _)] at inner
  obtain ⟨_, added, adding, inner⟩ := bind_ok inner
  rw [exec_bind_of_ok (Mission.hold_exec _ _)] at inner
  obtain ⟨_, last, reconciled, inner⟩ := bind_ok inner
  obtain ⟨-, waits⟩ := Mission.reconcileMissionState_ok reconciled
  rw [Mission.auditMission, exec_bind_of_ok (Op.exec_record _ _)] at inner
  obtain ⟨-, rfl⟩ := ok_ofExcept inner
  rw [Store.record_tables, waits]
  obtain ⟨kept, member⟩ := addWait_adds adding
  exact ⟨kept, _, member, rfl, rfl⟩

theorem awaited_kept {before : Store} {itemIds : List String} {wait : DurableWaitRow}
    (workflows : after.workflows = retargetedAll before.workflows itemIds target)
    (known : itemIn before.workflows place = some item) (member : wait ∈ after.waits.rows)
    (isOpen : wait.isCleared = false) (is : IsFor before.workflows place item wait) :
    Awaited after place := by
  refine ⟨settle before.workflows itemIds target place.1 item, ?_, wait, member, isOpen, ?_⟩
  · rw [workflows, itemIn_retargetedAll, known]
    rfl
  · rw [workflows, isFor_settle]
    exact is

theorem stateIn_performed {before : Store} (done : exec (perform operation) before = (.ok (), after))
    (known : itemIn before.workflows place = some item) : stateIn after.workflows place =
      if targets before.workflows (writtenItems before operation) place.1 item = true then
        some (writtenState operation)
      else queueState? item := by
  unfold stateIn
  rw [Mission.perform_workflows done, itemIn_retargetedAll, known, Option.map_some, Option.bind_some]
  unfold settle
  split
  · exact queueState_inState _ item
  · rfl

theorem putInto_some (put : putInto store place operation = some target) :
    ∃ missionId request name item after, operation = .recordWait missionId request ∧
      exec (perform operation) store = (.ok (), after) ∧ heldItem request = some (name, target) ∧
      itemIn store.workflows place = some item ∧
      targets store.workflows [name] place.1 item = true := by
  cases operation with
  | recordWait missionId request =>
    rcases done : exec (perform (.recordWait missionId request)) store with ⟨_ | ⟨⟩, after⟩
    · simp only [putInto, done] at put
      cases put
    · cases holds : heldItem request with
      | none =>
        simp only [putInto, done, holds] at put
        cases put
      | some pair =>
        cases known : itemIn store.workflows place with
        | none =>
          simp only [putInto, done, holds, known] at put
          cases put
        | some item =>
          simp only [putInto, done, holds, known] at put
          by_cases targeted : targets store.workflows [pair.1] place.1 item = true
          · rw [if_pos targeted] at put
            have same : heldItem request = some (pair.1, target) := by
              rw [holds, ← Option.some.inj put]
            exact ⟨missionId, request, pair.1, item, after, rfl, rfl, same, rfl, targeted⟩
          · rw [if_neg targeted] at put
            cases put
  | _ => cases put

theorem putInto_other (other : ¬ Mission.IsRecordWait operation)
    (place : Place) : putInto store place operation = none := by
  cases operation with
  | recordWait => exact absurd trivial other
  | _ => rfl

theorem held_cases (held : (step session operation).held place = some target) :
    putInto session.store place operation = some target ∨
      session.held place = some target ∧
        stateIn (step session operation).store.workflows place = some target := by
  unfold step heldAfter at held
  dsimp only at held
  split at held
  · rename_i found put
    cases held
    exact .inl put
  · split at held
    · rename_i same
      rw [held] at same
      exact .inr ⟨held, same⟩
    · cases held

theorem heldState_of_heldItem {name : String}
    (holds : heldItem request = some (name, target)) :
    namedItem request.itemId = some name ∧ target ≠ .ready := by
  unfold heldItem at holds
  split at holds
  · rename_i found state named recorded
    cases holds
    refine ⟨named, ?_⟩
    rintro rfl
    unfold recordedState at recorded
    repeat' split at recorded
    all_goals cases recorded
  · cases holds

theorem store_accepted (done : exec (perform operation) session.store = (.ok (), after)) :
    (step session operation).store = after := transact_ok done

theorem held_state (sound : Sound session)
    (held : (step session operation).held place = some target) :
    stateIn (step session operation).store.workflows place = some target ∧ target ≠ .ready := by
  rcases held_cases held with put | ⟨before, stated⟩
  · obtain ⟨missionId, request, name, item, after, rfl, done, holds, known, targeted⟩ := putInto_some put
    refine ⟨?_, (heldState_of_heldItem holds).2⟩
    rw [store_accepted done, stateIn_performed done known]
    simp only [writtenItems, writtenState, holds, Option.toList_some, List.map_cons, List.map_nil,
      Option.map_some, Option.getD_some, targeted, if_true]
  · exact ⟨stated, (sound place target before).2.1⟩

theorem awaited_recorded {missionId : String}
    (sound : Sound session)
    (done : exec (perform (.recordWait missionId request)) session.store = (.ok (), after))
    (held : (step session (.recordWait missionId request)).held place = some target) :
    Awaited after place := by
  have workflows := Mission.perform_workflows done
  obtain ⟨kept, wait, member, named, isOpen⟩ := recordWait_adds done
  rcases held_cases held with put | ⟨before, -⟩
  · obtain ⟨_, recorded, name, item, _, same, -, holds, known, targeted⟩ := putInto_some put
    cases same
    obtain ⟨found, inside, target, matched⟩ := (targets_iff _ _ place item).mp targeted
    rw [List.mem_singleton.mp inside] at target matched
    apply awaited_kept workflows known member isOpen
    exact ⟨name, named ▸ (heldState_of_heldItem holds).1, target, matched⟩
  · obtain ⟨item, known, other, present, stillOpen, is⟩ := (sound place target before).2.2
    exact awaited_kept workflows known (kept other present) stillOpen is

/-- An operation that records no wait keeps what it holds in its state, if it frees it not. -/
theorem held_of_unreleased (other : ¬ Mission.IsRecordWait operation)
    (done : exec (perform operation) session.store = (.ok (), after)) (held : session.held place = some target)
    (stated : stateIn session.store.workflows place = some target)
    (known : itemIn session.store.workflows place = some item)
    (unreleased : ¬ ∃ wait ∈ clearedWaits session.store operation, wait.waitClass ∈ clearableClasses ∧
      IsFor session.store.workflows place item wait) :
    (step session operation).held place = some target := by
  have writes : writtenItems session.store operation =
      (clearedWaits session.store operation).filterMap releasedItem := by
    cases operation with
    | recordWait => exact absurd trivial other
    | _ => rfl
  have untargeted : targets session.store.workflows (writtenItems session.store operation) place.1 item ≠
      true := by
    rw [writes]
    exact fun targeted => unreleased ((released_iff _ _ place item).mp targeted)
  have same : stateIn after.workflows place = some target := by
    rw [stateIn_performed done known, if_neg untargeted]
    rw [stateIn, known, Option.bind_some] at stated
    exact stated
  have reached := store_accepted done
  unfold step heldAfter
  unfold step at reached
  dsimp only at reached ⊢
  rw [putInto_other other, reached, same, held]
  simp

theorem accepted_or_kept (session : Session) (operation : MissionOperation) :
    (∃ after, exec (perform operation) session.store = (.ok (), after)) ∨
      ¬ Accepted session.store operation ∧ (step session operation).store = session.store := by
  rcases outcome : exec (perform operation) session.store with ⟨error | ⟨⟩, after⟩
  · refine .inr ⟨?_, transact_error outcome⟩
    rintro ⟨other, done⟩
    rw [outcome] at done
    cases done
  · exact .inl ⟨after, rfl⟩

theorem timed_clears (timed : IsTimed operation) :
    ¬ Mission.IsRecordWait operation := by
  cases operation with
  | recordWait => exact timed.elim
  | _ => exact id

theorem releases_of_inStep (sound : Sound session)
    (inStep : InStep session operation) : Releases session operation := by
  rintro ⟨after, done⟩ place item target held known frees
  by_contra unreleased
  obtain ⟨stated, -, found, knownAgain, wait, member, isOpen, is⟩ := sound place target held
  rw [known] at knownAgain
  cases knownAgain
  by_cases recording : Mission.IsRecordWait operation
  · -- a recorded wait clears none, and the held item has an open one
    rcases frees with ⟨timed, -⟩ | each
    · exact timed_clears timed recording
    · obtain ⟨cleared, inside, -⟩ := each wait member isOpen is
      cases operation with
      | recordWait => cases inside
      | _ => exact recording.elim
  · have still := held_of_unreleased recording done held stated known unreleased
    rcases frees with ⟨timed, cleared, inside, isFor⟩ | each
    · have unclearable : cleared.waitClass ∉ clearableClasses :=
        fun clearable => unreleased ⟨cleared, inside, clearable, isFor⟩
      have none := inStep.timed timed ⟨after, done⟩ cleared inside unclearable place item known isFor
      rw [still] at none
      cases none
    · obtain ⟨new, knownAfter, other, memberAfter, openAfter, isAfter⟩ := inStep.awaited place target still
      have reached := store_accepted done
      rw [reached] at knownAfter memberAfter isAfter
      rw [Mission.perform_workflows done, itemIn_retargetedAll, known] at knownAfter
      cases knownAfter
      rw [Mission.perform_workflows done, isFor_settle] at isAfter
      have opened := (Mission.perform_clears recording done).waits
      obtain ⟨before, wasOpen, others⟩ := (opened other).mp ⟨memberAfter, openAfter⟩
      obtain ⟨cleared, inside, same⟩ := each other before wasOpen isAfter
      exact others cleared inside same

theorem unreleased_of_held (other : ¬ Mission.IsRecordWait operation)
    (done : exec (perform operation) session.store = (.ok (), after)) (known : itemIn session.store.workflows place = some item)
    (unready : target ≠ .ready) (still : stateIn after.workflows place = some target) :
    ¬ ∃ wait ∈ clearedWaits session.store operation, wait.waitClass ∈ clearableClasses ∧
      IsFor session.store.workflows place item wait := by
  intro released
  have targeted : targets session.store.workflows (writtenItems session.store operation) place.1 item =
      true := by
    cases operation with
    | recordWait => exact absurd trivial other
    | _ => exact (released_iff _ _ place item).mpr released
  rw [stateIn_performed done known, if_pos targeted, DurableWaits.writtenState_ready other] at still
  exact unready (Option.some.inj still).symm

theorem inStep_of_releases (sound : Sound session)
    (releases : Releases session operation) : InStep session operation := by
  rcases accepted_or_kept session operation with ⟨after, done⟩ | ⟨refused, kept⟩
  · have reached := store_accepted done
    by_cases recording : Mission.IsRecordWait operation
    · cases operation with
      | recordWait missionId request =>
        constructor
        · intro place target held
          rw [reached]
          exact awaited_recorded sound done held
        · intro timed
          exact timed.elim
      | _ => exact recording.elim
    · -- what is held after the operation was held before it, in the same state
      have was {place : Place} {target : QueueWorkItemState}
          (held : (step session operation).held place = some target) :
          session.held place = some target ∧ stateIn after.workflows place = some target := by
        rcases held_cases held with put | before
        · rw [putInto_other recording] at put
          cases put
        · rw [reached] at before
          exact before
      have stays {place : Place} {target : QueueWorkItemState} {item : Item}
          (held : (step session operation).held place = some target)
          (known : itemIn session.store.workflows place = some item) : ¬ Frees session operation place item := by
        intro frees
        obtain ⟨before, still⟩ := was held
        have unready := (sound place target before).2.1
        have released := releases ⟨after, done⟩ place item target before known frees
        exact unreleased_of_held recording done known unready still released
      constructor
      · intro place target held
        obtain ⟨stated, -⟩ := held_state sound held
        obtain ⟨before, -⟩ := was held
        obtain ⟨-, -, item, known, -⟩ := sound place target before
        have waits : ¬ ∀ wait ∈ session.store.waits.rows, wait.isCleared = false →
            IsFor session.store.workflows place item wait →
            ∃ cleared ∈ clearedWaits session.store operation, cleared.id = wait.id :=
          fun each => stays held known (.inr each)
        push Not at waits
        obtain ⟨wait, member, isOpen, is, uncleared⟩ := waits
        have opened := (Mission.perform_clears recording done).waits
        obtain ⟨present, stillOpen⟩ := (opened wait).mpr ⟨member, isOpen, uncleared⟩
        rw [reached]
        exact awaited_kept (Mission.perform_workflows done) known present stillOpen is
      · intro timed _ wait inside _ place item known is
        cases held : (step session operation).held place with
        | none => rfl
        | some target => exact absurd (.inl ⟨timed, wait, inside, is⟩) (stays held known)
  · constructor
    · intro place target held
      rcases held_cases held with put | ⟨before, -⟩
      · obtain ⟨_, _, _, _, after, same, done, -⟩ := putInto_some put
        exact absurd ⟨after, done⟩ refused
      · rw [kept]
        exact (sound place target before).2.2
    · intro _ accepted
      exact absurd accepted refused

theorem sound_step (sound : Sound session)
    (inStep : InStep session operation) : Sound (step session operation) := by
  intro place target held
  obtain ⟨stated, unready⟩ := held_state sound held
  exact ⟨stated, unready, inStep.awaited place target held⟩

/-- In every run of the supervisor the held items have open waits, and none is left in its state
by a timer or a flag, exactly when each operation that frees a held item makes it ready. -/
theorem waits_in_step_iff (store : Store) (operations : List MissionOperation) :
    (∀ front operation back, operations = front ++ operation :: back →
      InStep (Run.run step (begin store) front) operation) ↔
    Run.Meets step Releases (begin store) operations := by
  rw [← Run.meets_iff_forall]
  apply Run.meets_iff_guarded step Sound
  · intro session operation sound
    exact ⟨releases_of_inStep sound, inStep_of_releases sound⟩
  · intro session operation sound inStep
    exact sound_step sound inStep
  · intro place target held
    cases held

open DurableWaits

def firstPlace : Place := ("LWORK_000001", 0)

def blockedUntil (waitClass : String) (retryAfter : Option Timestamp) (metadata : Dict) : MissionOperation :=
  .recordWait "mission" { waitClass := waitClass
                          reason := "held"
                          itemId := some "first"
                          retryAfter := retryAfter
                          metadata := metadata }

def recovery : MissionOperation := .recoverMission "mission" none none none

/-- A wait for an authority cleared by its timer, one for a decision by its flag, and one by a call. -/
def unblockings : List (List MissionOperation) :=
  [[blockedUntil "AUTHORITY" (some 0) [], recovery],
    [blockedUntil "DECISION" none [("can_resume", .bool true)], .reevaluateDurableWaits (fun _ => false) none],
    [blockedUntil "AUTHORITY" none [], .clearWait "wait_000000000000"]]

def leftBlocked (session : Session) : Bool :=
  (session.held firstPlace).isSome && session.store.waits.rows.all (·.isCleared)

theorem blocked_items_lose_their_waits :
    (∀ operations ∈ unblockings, leftBlocked (Run.run step (begin readyStore) operations) = true) ∧
      ¬ InStep (step (begin readyStore) (blockedUntil "AUTHORITY" (some 0) [])) recovery := by
  have left : ∀ operations ∈ unblockings,
      leftBlocked (Run.run step (begin readyStore) operations) = true := by
    decide +kernel
  refine ⟨left, ?_⟩
  intro inStep
  have here := left [blockedUntil "AUTHORITY" (some 0) [], recovery] List.mem_cons_self
  obtain ⟨held, cleared⟩ := (Bool.and_eq_true _ _).mp here
  obtain ⟨target, still⟩ := Option.isSome_iff_exists.mp held
  obtain ⟨item, -, wait, member, isOpen, -⟩ := inStep.awaited firstPlace target still
  have closed := List.all_eq_true.mp cleared wait member
  rw [isOpen] at closed
  cases closed

end Lucius.Runtime.WaitsInStep
