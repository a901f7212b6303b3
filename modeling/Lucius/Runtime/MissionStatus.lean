import Lucius.Runtime.WaitsInStep

/-! The status of a mission: what completes it, and what ends a pause. -/

namespace Lucius.Runtime.MissionStatuses

open Lucius.Action Queue Mission Tokens

variable {missionId : String} {row : DurableMissionRow} {store after : Store}
  {record : Mission.DurableMissionRecord} {attemptId : Option String} {operation : MissionOperation}

def statusOf (missions : Table DurableMissionRow) (missionId : String) : Option MissionStatus :=
  (missions.get? missionId).map (·.status)

def isCompleted (item : Item) : Bool := inStates [.completed] item

def isReady (item : Item) : Bool := inStates [.ready, .readyToResume] item

def anyReady (workflows : Table PersistentWorkflowRow) : Bool := (allItems workflows).any isReady

def haltedStatuses : List MissionStatus := [.paused, .interrupted]

theorem reconciled_id (mission : DurableMissionRow) (waits : List DurableWaitRow) (items : List Item)
    (now : Timestamp) : (reconciled mission waits items now).id = mission.id := by
  unfold reconciled
  dsimp only
  split
  · rfl
  · split
    · rfl
    · split
      · rfl
      · split
        · rfl
        · split
          · rfl
          · rfl

theorem inStates_exclusive {left right : List QueueWorkItemState} (apart : ∀ target ∈ left, target ∉ right)
    {item : Item} (first : inStates left item = true) : inStates right item = false := by
  unfold inStates at first ⊢
  obtain ⟨target, member, stated⟩ := List.any_eq_true.mp first
  rw [List.any_eq_false]
  intro other inside same
  have equal : target = other := by
    have value := (Json.isStr_iff.mp stated).symm.trans (Json.isStr_iff.mp same)
    exact StrEnum.distinct target other (Json.str.inj value)
  exact apart target member (equal ▸ inside)

theorem filter_isEmpty_of_completed {items : List Item} (states : List QueueWorkItemState)
    (all : ∀ item ∈ items, isCompleted item = true) (other : QueueWorkItemState.completed ∉ states) :
    items.filter (inStates states) = [] := by
  rw [List.filter_eq_nil_iff]
  intro item member
  have apart : ∀ target ∈ [QueueWorkItemState.completed], target ∉ states := by
    intro target inside
    rw [List.mem_singleton.mp inside]
    exact other
  simp [inStates_exclusive apart (all item member)]

theorem any_isReady (items : List Item) :
    items.any isReady = !(items.filter (inStates [.ready, .readyToResume])).isEmpty := by
  rw [Bool.eq_iff_iff, List.any_eq_true, Bool.not_eq_true', List.isEmpty_eq_false_iff_exists_mem]
  simp only [List.mem_filter]
  rfl

/-- A reconciliation completes a mission that is not halted exactly when there are items, all of
them are completed, and no wait of the mission is open. -/
theorem reconciled_completed_iff (mission : DurableMissionRow) (waits : List DurableWaitRow)
    (items : List Item) (now : Timestamp) :
    (reconciled mission waits items now).status = .completed ↔
      mission.status ∉ haltedStatuses ∧ items ≠ [] ∧ (∀ item ∈ items, isCompleted item = true) ∧
        ∀ wait ∈ waits, wait.isCleared = true := by
  constructor
  · intro completed
    unfold reconciled at completed
    dsimp only at completed
    split at completed
    · rename_i halted
      rw [completed] at halted
      exact absurd halted.1 (by decide)
    · rename_i running
      split at completed
      · cases completed
      · rename_i unready
        have quiet : (items.filter (inStates [.ready, .readyToResume])).isEmpty = true := by simpa using unready
        split at completed
        · rename_i waiting
          dsimp only at completed
          split at completed
          · cases completed
          · cases completed
        · rename_i free
          split at completed
          · rename_i done
            obtain ⟨some, all, -⟩ := done
            refine ⟨fun halted => running ⟨halted, quiet⟩, by simpa using some, ?_, ?_⟩
            · exact List.filter_eq_self.mp (List.filter_sublist.eq_of_length all)
            · intro wait member
              by_contra isOpen
              apply free
              have listed : wait ∈ waits.filter (fun wait => !wait.isCleared) :=
                List.mem_filter.mpr ⟨member, by simpa using isOpen⟩
              rw [Bool.or_eq_true]
              right
              cases shape : waits.filter (fun wait => !wait.isCleared) with
              | nil =>
                rw [shape] at listed
                cases listed
              | cons _ _ => rfl
          · split at completed
            · cases completed
            · cases completed
  · rintro ⟨running, some, all, cleared⟩
    have ready := filter_isEmpty_of_completed [.ready, .readyToResume] all (by decide)
    have waiting := filter_isEmpty_of_completed waitingStates all (by decide)
    have blocked := filter_isEmpty_of_completed blockedItemStates all (by decide)
    have done : items.filter (inStates [.completed]) = items := List.filter_eq_self.mpr all
    have closed : waits.filter (fun wait => !wait.isCleared) = [] := by
      rw [List.filter_eq_nil_iff]
      intro wait member
      simp [cleared wait member]
    unfold reconciled
    simp only [ready, waiting, blocked, done, closed]
    rw [if_neg (fun halted => running halted.1), if_neg (by simp), if_neg (by simp), if_pos]
    exact ⟨by simpa using some, trivial, rfl⟩

/-- A paused mission stays so exactly when nothing is ready, and no other becomes paused. -/
theorem reconciled_paused_iff (mission : DurableMissionRow) (waits : List DurableWaitRow)
    (items : List Item) (now : Timestamp) :
    (reconciled mission waits items now).status = .paused ↔
      mission.status = .paused ∧ items.any isReady = false := by
  rw [any_isReady, Bool.not_eq_false']
  unfold reconciled
  dsimp only
  split
  · rename_i halted
    exact ⟨fun paused => ⟨paused, halted.2⟩, fun both => both.1⟩
  · rename_i running
    have left : ¬ (mission.status = .paused ∧
        (items.filter (inStates [.ready, .readyToResume])).isEmpty = true) := by
      rintro ⟨paused, quiet⟩
      exact running ⟨by rw [paused]; decide, quiet⟩
    split
    · exact iff_of_false (by simp) left
    · split
      · dsimp only
        split
        · exact iff_of_false (by simp) left
        · exact iff_of_false (by simp) left
      · split
        · exact iff_of_false (by simp) left
        · split
          · exact iff_of_false (by simp) left
          · exact iff_of_false (by simp) left

theorem missionRow_found (done : exec (Mission.missionRow missionId) store = (.ok row, after)) :
    after = store ∧ store.missions.get? missionId = some row := by
  unfold Mission.missionRow at done
  rw [exec_get_bind] at done
  cases found : store.missions.get? missionId with
  | none =>
    rw [found] at done
    cases done
  | some known =>
    rw [found] at done
    cases done
    exact ⟨rfl, rfl⟩

theorem reconcileMissionState_writes
    (done : exec (reconcileMissionState missionId) store = (.ok record, after)) :
    ∃ mission row now, store.missions.get? missionId = some mission ∧
      after.missions = store.missions.put row ∧ row.id = missionId ∧ row.status =
        (reconciled mission (missionWaits store.waits missionId) (allItems store.workflows) now).status := by
  unfold reconcileMissionState at done
  obtain ⟨mission, middle, read, done⟩ := bind_ok done
  obtain ⟨same, present⟩ := missionRow_found read
  rw [same, exec_get_bind, exec_bind_of_ok (Op.exec_utcNow _),
    exec_bind_of_ok (Op.exec_utcNow _)] at done
  obtain ⟨_, last, written, done⟩ := bind_ok done
  have shape := ok_modify written
  obtain ⟨-, rfl⟩ := ok_ofExcept done
  refine ⟨mission, { reconciled mission (missionWaits store.waits missionId) (allItems store.workflows)
    store.now with updatedAt := store.tick.now }, store.now, present, by rw [shape]; rfl, ?_, rfl⟩
  exact (reconciled_id mission _ _ _).trans (Table.get?_key present)

theorem statusOf_put {missions : Table DurableMissionRow} {old : DurableMissionRow} (present : missions.get? missionId = some old) (named : row.id = missionId)
    (wanted : String) : statusOf (missions.put row) wanted =
      if wanted = missionId then some row.status else statusOf missions wanted := by
  unfold statusOf
  by_cases same : wanted = missionId
  · rw [if_pos same, same, Table.get?_put_same present named]
    rfl
  · rw [if_neg same, Table.get?_put_other]
    exact fun equal => same (equal.symm.trans named)

theorem statusOf_reconciled
    (done : exec (reconcileMissionState missionId) store = (.ok record, after)) :
    ∃ mission now, store.missions.get? missionId = some mission ∧
      ∀ wanted, statusOf after.missions wanted = if wanted = missionId then
        some (reconciled mission (missionWaits store.waits missionId) (allItems store.workflows) now).status
      else statusOf store.missions wanted := by
  obtain ⟨mission, row, now, present, written, named, status⟩ := reconcileMissionState_writes done
  refine ⟨mission, now, present, ?_⟩
  intro wanted
  rw [written, statusOf_put present named, status]

/-- The missions reconciled one after the other, each with the backlogs as they were then. -/
abbrev Moments := List (String × Table PersistentWorkflowRow)

/-- The missions that are paused after the reconciliations: those that were and met no ready item. -/
def PausedAfter (moments : Moments) (before after : Table DurableMissionRow) : Prop :=
  ∀ missionId, statusOf after missionId = some .paused ↔ statusOf before missionId = some .paused ∧
    ∀ moment ∈ moments, moment.1 = missionId → anyReady moment.2 = false

theorem pausedAfter_nil (missions : Table DurableMissionRow) : PausedAfter [] missions missions := by
  intro missionId
  simp

theorem pausedAfter_append {first second : Moments} {before middle after : Table DurableMissionRow}
    (one : PausedAfter first before middle) (two : PausedAfter second middle after) :
    PausedAfter (first ++ second) before after := by
  intro missionId
  rw [two missionId, one missionId]
  simp only [List.mem_append, or_imp, forall_and, and_assoc]

theorem pausedAfter_reconciled
    (done : exec (reconcileMissionState missionId) store = (.ok record, after)) :
    PausedAfter [(missionId, store.workflows)] store.missions after.missions := by
  obtain ⟨mission, now, present, status⟩ := statusOf_reconciled done
  intro wanted
  rw [status wanted]
  simp only [List.mem_singleton, forall_eq]
  by_cases same : wanted = missionId
  · have was : statusOf store.missions wanted = some mission.status := by
      rw [statusOf, same, present, Option.map_some]
    rw [if_pos same, was, Option.some.injEq, Option.some.injEq, reconciled_paused_iff]
    exact and_congr_right fun _ => ⟨fun quiet _ => quiet, fun each => each same.symm⟩
  · rw [if_neg same]
    exact ⟨fun paused => ⟨paused, fun equal => absurd equal.symm same⟩, fun both => both.1⟩

/-- Each wait is cleared in the backlogs the ones before it left, and then its mission reconciled. -/
def clearings (workflows : Table PersistentWorkflowRow) : List DurableWaitRow → Moments
  | [] => []
  | wait :: rest =>
    let released := retargetedAll workflows ([wait].filterMap releasedItem) .ready
    (wait.missionId, released) :: clearings released rest

theorem clearings_append (workflows : Table PersistentWorkflowRow) (front back : List DurableWaitRow) :
    clearings workflows (front ++ back) = clearings workflows front ++
      clearings (retargetedAll workflows (front.filterMap releasedItem) .ready) back := by
  induction front generalizing workflows with
  | nil => rfl
  | cons wait rest ih =>
    have split : (wait :: rest).filterMap releasedItem =
        [wait].filterMap releasedItem ++ rest.filterMap releasedItem := by
      rw [← List.filterMap_append]
      rfl
    rw [split, Mission.retargetedAll_append]
    exact congrArg _ (ih _)

theorem pausedAfter_clearWait {waitId : String} {result : Option Mission.DurableWaitRecord} (done : exec (Mission.clearWait waitId) store = (.ok result, after)) :
    PausedAfter (clearings store.workflows (store.waits.get? waitId).toList) store.missions
      after.missions := by
  unfold Mission.clearWait at done
  rw [exec_get_bind] at done
  cases found : store.waits.get? waitId with
  | none =>
    rw [found] at done
    obtain ⟨-, rfl⟩ := ok_pure done
    exact pausedAfter_nil _
  | some wait =>
    simp only [found] at done
    rw [exec_bind_of_ok (Op.exec_utcNow _)] at done
    obtain ⟨_, middle, written, done⟩ := bind_ok done
    have shape := ok_modify written
    rw [exec_bind_of_ok (Mission.release_exec _ _)] at done
    obtain ⟨_, last, reconciled, done⟩ := bind_ok done
    rw [Mission.auditMission, exec_bind_of_ok (Op.exec_record _ _)] at done
    obtain ⟨_, _, done⟩ := bind_ofExcept_ok done
    obtain ⟨-, rfl⟩ := ok_pure done
    have paused := pausedAfter_reconciled reconciled
    rw [shape] at paused
    rw [Store.record_tables]
    have listed : [wait].filterMap releasedItem = (releasedItem wait).toList := by
      cases released : releasedItem wait with
      | none => simp [released]
      | some name => simp [released]
    simp only [Option.toList_some, clearings, listed]
    exact paused

theorem pausedAfter_reevaluated {pathExists : String → Bool} {missionId : Option String}
    {records : List Mission.DurableWaitRecord}
    (done : exec (Mission.reevaluateDurableWaits pathExists missionId) store =
      (.ok records, after)) :
    PausedAfter (clearings store.workflows
      ((openWaits store.waits missionId).filter (reevaluated pathExists store.now)))
      store.missions after.missions := by
  unfold Mission.reevaluateDurableWaits at done
  rw [exec_bind_of_ok (Op.exec_utcNow _), exec_get_bind] at done
  apply Mission.reevaluateWaits_induct
    (motive := fun cleared before after => PausedAfter (clearings before.workflows cleared)
      before.missions after.missions) (fun store => pausedAfter_nil store.missions) ?_ done
  · exact List.Nodup.sublist (List.Sublist.map _ List.filter_sublist) store.waits.unique
  · intro wait member
    obtain ⟨present, isOpen⟩ := List.mem_filter.mp member
    simp only [Bool.and_eq_true, Bool.not_eq_true'] at isOpen
    exact ⟨Table.get?_of_mem present, isOpen.1⟩
  · intro wait rest result before middle last present clearing later
    have first := pausedAfter_clearWait clearing
    have workflows := (Mission.clearWait_ok clearing).workflows
    rw [present] at first workflows
    have front : wait :: rest = [wait] ++ rest := rfl
    rw [front, clearings_append]
    rw [workflows] at later
    exact pausedAfter_append first later

theorem clearDue_missions {now : Timestamp} {due : List DurableWaitRow}
    (done : exec (Mission.clearDue now due) store = (.ok (), after)) :
    after.missions = store.missions := by
  induction due generalizing store with
  | nil =>
    obtain ⟨-, rfl⟩ := ok_pure done
    rfl
  | cons wait rest ih =>
    unfold Mission.clearDue at done
    obtain ⟨_, middle, written, done⟩ := bind_ok done
    have shape := ok_modify written
    rw [exec_bind_of_ok (Mission.release_exec _ _)] at done
    rw [ih done, shape]

theorem recoverMission_statuses {current canonical : Option String}
    (done : exec (Mission.recoverMission missionId current attemptId canonical) store =
      (.ok record, after)) :
    ∃ mission row now, store.missions.get? missionId = some mission ∧ row.status = mission.status ∧
      ∀ wanted, statusOf after.missions wanted = if wanted = missionId then
        some (reconciled row (missionWaits after.waits missionId) (allItems after.workflows) now).status
      else statusOf store.missions wanted := by
  unfold Mission.recoverMission at done
  obtain ⟨mission, middle, read, done⟩ := bind_ok done
  obtain ⟨same, present⟩ := missionRow_found read
  rw [same] at done
  split at done
  · cases done
  obtain ⟨attempt, named, drawn, done⟩ := bind_ok done
  have tables := (Mission.givenOr_ok drawn).1
  obtain ⟨attempts, _, done⟩ := bind_ofExcept_ok done
  rw [exec_bind_of_ok (Op.exec_utcNow _)] at done
  obtain ⟨_, put, written, done⟩ := bind_ok done
  have shape := ok_modify written
  rw [exec_bind_of_ok (Op.exec_utcNow _), exec_get_bind] at done
  obtain ⟨_, cleared, clearing, done⟩ := bind_ok done
  obtain ⟨_, last, settled, done⟩ := bind_ok done
  rw [Mission.auditMission, exec_bind_of_ok (Op.exec_record _ _)] at done
  obtain ⟨-, rfl⟩ := ok_pure done
  obtain ⟨row, now, found, statuses⟩ := statusOf_reconciled settled
  obtain ⟨workflows, waits⟩ := Mission.reconcileMissionState_ok settled
  have missions : cleared.missions = put.missions := by
    rw [clearDue_missions clearing, Store.tick_tables]
  have kept : named.missions = store.missions := congrArg Tables.missions tables
  obtain ⟨started, written, sameId, sameStatus⟩ : ∃ started : DurableMissionRow,
      put.missions = store.missions.put started ∧ started.id = missionId ∧
        started.status = mission.status := by
    rw [shape, ← kept]
    exact ⟨_, rfl, Table.get?_key present, rfl⟩
  have status : row.status = mission.status := by
    rw [missions, written, Table.get?_put_same present sameId] at found
    rw [← Option.some.inj found, sameStatus]
  refine ⟨mission, row, now, present, status, ?_⟩
  intro wanted
  rw [Store.record_tables, waits, workflows, statuses wanted]
  by_cases equal : wanted = missionId
  · rw [if_pos equal, if_pos equal]
  · rw [if_neg equal, if_neg equal, missions, written]
    exact (statusOf_put present sameId wanted).trans (if_neg equal)

def reconciliations (store : Store) : MissionOperation → Moments
  | .createMission _ _ _ _ => []
  | .recordWait missionId request =>
    [(missionId, retargetedAll store.workflows (writtenItems store (.recordWait missionId request))
      (writtenState (.recordWait missionId request)))]
  | .clearWait waitId => clearings store.workflows (store.waits.get? waitId).toList
  | .getMission missionId => [(missionId, store.workflows)]
  | .recoverMission missionId _ _ _ =>
    [(missionId,
      retargetedAll store.workflows ((dueWaits store missionId).filterMap releasedItem) .ready)]
  | .recordInterruption missionId _ _ _ => [(missionId, store.workflows)]
  | .reevaluateDurableWaits pathExists missionId => clearings store.workflows
      ((openWaits store.waits missionId).filter (reevaluated pathExists store.now))
  | .reconcileMissionState missionId => [(missionId, store.workflows)]

theorem statusOf_add {missions : Table DurableMissionRow}
    (fresh : missions.get? row.id = none) (wanted : String) : statusOf (missions.add row) wanted =
      if wanted = row.id then some row.status else statusOf missions wanted := by
  unfold statusOf
  by_cases same : wanted = row.id
  · rw [if_pos same, same]
    exact congrArg (Option.map _) (Table.get?_add_fresh fresh)
  · rw [if_neg same, Table.get?_add_other]
    exact fun equal => same equal.symm

theorem pausedAfter_created {sha : String} {metadata : Dict} {missionId : Option String}
    (done : exec (Mission.createMission sha metadata missionId attemptId) store =
      (.ok record, after)) : PausedAfter [] store.missions after.missions := by
  unfold Mission.createMission at done
  obtain ⟨id, identified, first, done⟩ := bind_ok done
  obtain ⟨attempt, attempted, second, done⟩ := bind_ok done
  rw [exec_bind_of_ok (Op.exec_utcNow _)] at done
  obtain ⟨attempts, _, done⟩ := bind_ofExcept_ok done
  rw [exec_bind_of_ok (Op.exec_utcNow _)] at done
  obtain ⟨_, added, adding, done⟩ := bind_ok done
  rw [Mission.auditMission, exec_bind_of_ok (Op.exec_record _ _)] at done
  obtain ⟨-, rfl⟩ := ok_ofExcept done
  have tables : attempted.toTables = store.toTables :=
    (Mission.givenOr_ok second).1.trans (Mission.givenOr_ok first).1
  have kept : attempted.missions = store.missions := congrArg Tables.missions tables
  unfold Mission.addMission at adding
  rw [exec_get_bind] at adding
  split at adding
  · cases adding
  · rename_i absent
    have fresh : store.missions.get? id = none := by
      rw [← kept]
      exact Option.not_isSome_iff_eq_none.mp absent
    intro wanted
    rw [Store.record_tables, ok_modify adding]
    show statusOf (attempted.missions.add _) wanted = _ ↔ _
    rw [kept, statusOf_add fresh]
    by_cases same : wanted = id
    · have none : statusOf store.missions wanted = none := by rw [statusOf, same, fresh, Option.map_none]
      rw [if_pos same, none]
      exact iff_of_false (by simp) (by simp)
    · rw [if_neg same]
      simp

/-- The missions paused after an accepted operation: those that were and the one it interrupts,
unless it reconciles them while an item is ready. -/
theorem paused_performed
    (done : exec (perform operation) store = (.ok (), after)) (missionId : String) :
    statusOf after.missions missionId = some .paused ↔
      (statusOf store.missions missionId = some .paused ∨
        ∃ attemptId reason checkpoint,
          operation = .recordInterruption missionId attemptId reason checkpoint) ∧
      ∀ moment ∈ reconciliations store operation, moment.1 = missionId → anyReady moment.2 = false := by
  have plain (paused : PausedAfter (reconciliations store operation) store.missions after.missions)
      (other : ¬ ∃ attemptId reason checkpoint,
        operation = .recordInterruption missionId attemptId reason checkpoint) :
      statusOf after.missions missionId = some .paused ↔
        (statusOf store.missions missionId = some .paused ∨
          ∃ attemptId reason checkpoint,
            operation = .recordInterruption missionId attemptId reason checkpoint) ∧
        ∀ moment ∈ reconciliations store operation, moment.1 = missionId → anyReady moment.2 = false := by
    rw [paused missionId]
    exact and_congr_left' (or_iff_left other).symm
  cases operation with
  | createMission sha metadata mission attempt =>
    obtain ⟨_, middle, inner, done⟩ := bind_ok done
    obtain ⟨-, rfl⟩ := ok_pure done
    exact plain (pausedAfter_created inner) (by simp)
  | recordWait mission request =>
    have workflows := Mission.perform_workflows done
    obtain ⟨_, middle, inner, done⟩ := bind_ok done
    obtain ⟨-, rfl⟩ := ok_pure done
    refine plain ?_ (by simp)
    unfold Mission.recordWait at inner
    rw [exec_bind_of_ok (Op.exec_uuid _), exec_bind_of_ok (Op.exec_utcNow _),
      exec_bind_of_ok (Op.exec_utcNow _)] at inner
    obtain ⟨_, added, adding, inner⟩ := bind_ok inner
    have shape := Mission.addWait_ok adding
    rw [exec_bind_of_ok (Mission.hold_exec _ _)] at inner
    obtain ⟨_, last, settled, inner⟩ := bind_ok inner
    have kept := (Mission.reconcileMissionState_ok settled).1
    have paused := pausedAfter_reconciled settled
    rw [Mission.auditMission, exec_bind_of_ok (Op.exec_record _ _)] at inner
    obtain ⟨-, rfl⟩ := ok_ofExcept inner
    rw [Store.record_tables] at workflows ⊢
    rw [← kept, workflows, shape] at paused
    exact paused
  | clearWait waitId =>
    obtain ⟨_, middle, inner, done⟩ := bind_ok done
    obtain ⟨-, rfl⟩ := ok_pure done
    exact plain (pausedAfter_clearWait inner) (by simp)
  | getMission mission =>
    obtain ⟨_, middle, inner, done⟩ := bind_ok done
    obtain ⟨-, rfl⟩ := ok_pure done
    refine plain ?_ (by simp)
    unfold Mission.getMission at inner
    rw [exec_get_bind] at inner
    split at inner
    · rename_i absent
      obtain ⟨-, rfl⟩ := ok_pure inner
      intro wanted
      refine ⟨fun paused => ⟨paused, ?_⟩, fun both => both.1⟩
      intro moment member same
      rw [List.mem_singleton.mp member] at same
      rw [statusOf, ← same, Option.isNone_iff_eq_none.mp absent] at paused
      cases paused
    · obtain ⟨_, last, settled, inner⟩ := bind_ok inner
      obtain ⟨-, rfl⟩ := ok_pure inner
      exact pausedAfter_reconciled settled
  | recoverMission mission current attempt canonical =>
    obtain ⟨_, middle, inner, done⟩ := bind_ok done
    obtain ⟨-, rfl⟩ := ok_pure done
    refine plain ?_ (by simp)
    have workflows := (Mission.recoverMission_ok inner).workflows
    obtain ⟨found, row, now, present, status, statuses⟩ := recoverMission_statuses inner
    intro wanted
    rw [statuses wanted]
    unfold reconciliations
    simp only [List.mem_singleton, forall_eq]
    by_cases same : wanted = mission
    · have was : statusOf store.missions wanted = some found.status := by
        rw [statusOf, same, present, Option.map_some]
      rw [if_pos same, was, Option.some.injEq, Option.some.injEq, reconciled_paused_iff, status, workflows]
      exact and_congr_right fun _ => ⟨fun quiet _ => quiet, fun each => each same.symm⟩
    · rw [if_neg same]
      exact ⟨fun paused => ⟨paused, fun equal => absurd equal.symm same⟩, fun both => both.1⟩
  | recordInterruption mission attempt reason checkpoint =>
    obtain ⟨_, middle, inner, done⟩ := bind_ok done
    obtain ⟨-, rfl⟩ := ok_pure done
    unfold Mission.recordInterruption at inner
    obtain ⟨found, _, read, inner⟩ := bind_ok inner
    obtain ⟨unread, present⟩ := missionRow_found read
    rw [unread, exec_bind_of_ok (Op.exec_utcNow _), exec_bind_of_ok (Op.exec_utcNow _)] at inner
    obtain ⟨_, put, written, inner⟩ := bind_ok inner
    have shape := ok_modify written
    rw [Mission.auditMission, exec_bind_of_ok (Op.exec_record _ _)] at inner
    have paused := pausedAfter_reconciled inner missionId
    rw [Store.record_tables, shape] at paused
    rw [paused]
    refine and_congr ?_ Iff.rfl
    show statusOf (store.missions.put _) missionId = _ ↔ _
    rw [statusOf_put present]
    · by_cases same : missionId = mission
      · rw [if_pos same, same]
        exact iff_of_true rfl (.inr ⟨attempt, reason, checkpoint, rfl⟩)
      · rw [if_neg same]
        refine (or_iff_left ?_).symm
        rintro ⟨_, _, _, equal⟩
        exact same (MissionOperation.recordInterruption.inj equal).1.symm
    · exact Table.get?_key present
  | reevaluateDurableWaits pathExists mission =>
    obtain ⟨_, middle, inner, done⟩ := bind_ok done
    obtain ⟨-, rfl⟩ := ok_pure done
    exact plain (pausedAfter_reevaluated inner) (by simp)
  | reconcileMissionState mission =>
    obtain ⟨_, middle, inner, done⟩ := bind_ok done
    obtain ⟨-, rfl⟩ := ok_pure done
    exact plain (pausedAfter_reconciled inner) (by simp)

/-- The store, and the missions that were interrupted and not recovered since. The list is an
observation: no operation reads it. -/
structure Session where
  store : Store
  interrupted : List String

def begin (store : Store) : Session := { store := store, interrupted := [] }

def interruptedAfter (session : Session) : MissionOperation → List String
  | .recoverMission missionId _ _ _ => session.interrupted.filter (fun other => other ≠ missionId)
  | .recordInterruption missionId attemptId reason checkpoint =>
    match (exec (perform (.recordInterruption missionId attemptId reason checkpoint))
      session.store).1 with
    | .ok _ => missionId :: session.interrupted
    | .error _ => session.interrupted
  | _ => session.interrupted

def step (session : Session) (operation : MissionOperation) : Session where
  store := transact (perform operation) session.store
  interrupted := interruptedAfter session operation

def Paused (session : Session) : Prop :=
  ∀ missionId ∈ session.interrupted, statusOf session.store.missions missionId = some .paused

def StaysPaused (session : Session) (operation : MissionOperation) : Prop :=
  Paused (step session operation)

/-- The operation reconciles no interrupted mission while an item is ready. -/
def MeetsNoWork (session : Session) (operation : MissionOperation) : Prop :=
  Accepted session.store operation → ∀ missionId ∈ interruptedAfter session operation,
    ∀ moment ∈ reconciliations session.store operation, moment.1 = missionId →
      anyReady moment.2 = false

theorem interruptedAfter_cases {session : Session}
    (interrupted : missionId ∈ interruptedAfter session operation) :
    missionId ∈ session.interrupted ∨ Accepted session.store operation ∧
      ∃ attemptId reason checkpoint,
        operation = .recordInterruption missionId attemptId reason checkpoint := by
  cases operation with
  | recoverMission => exact .inl (List.mem_of_mem_filter interrupted)
  | recordInterruption mission attempt reason checkpoint =>
    rcases outcome : exec (perform (.recordInterruption mission attempt reason checkpoint))
      session.store with ⟨error | ⟨⟩, after⟩
    · simp only [interruptedAfter, outcome] at interrupted
      exact .inl interrupted
    · simp only [interruptedAfter, outcome] at interrupted
      rcases List.mem_cons.mp interrupted with same | before
      · exact .inr ⟨⟨after, outcome⟩, attempt, reason, checkpoint, by rw [same]⟩
      · exact .inl before
  | _ => exact .inl interrupted

theorem staysPaused_iff {session : Session} (paused : Paused session) :
    StaysPaused session operation ↔ MeetsNoWork session operation := by
  rcases outcome : exec (perform operation) session.store with ⟨error | ⟨⟩, after⟩
  · have refused : ¬ Accepted session.store operation := by
      rintro ⟨other, done⟩
      rw [outcome] at done
      cases done
    have kept : (step session operation).store = session.store := transact_error outcome
    refine iff_of_true ?_ (fun accepted => absurd accepted refused)
    intro missionId interrupted
    rw [kept]
    rcases interruptedAfter_cases interrupted with before | ⟨accepted, -⟩
    · exact paused missionId before
    · exact absurd accepted refused
  · have reached : (step session operation).store = after := transact_ok outcome
    have entered {missionId : String} (interrupted : missionId ∈ interruptedAfter session operation) :
        statusOf session.store.missions missionId = some .paused ∨ ∃ attemptId reason checkpoint,
          operation = .recordInterruption missionId attemptId reason checkpoint :=
      (interruptedAfter_cases interrupted).imp (paused missionId) And.right
    constructor
    · intro stays _ missionId interrupted
      have still := stays missionId interrupted
      rw [reached, paused_performed outcome] at still
      exact still.2
    · intro quiet missionId interrupted
      rw [reached, paused_performed outcome]
      exact ⟨entered interrupted, quiet ⟨after, outcome⟩ missionId interrupted⟩

/-- In every run an interrupted mission stays paused until it is recovered exactly when no
operation before that reconciles it while an item is ready. -/
theorem staysPaused_run_iff (store : Store) (operations : List MissionOperation) :
    (∀ front operation back, operations = front ++ operation :: back →
      StaysPaused (Run.run step (begin store) front) operation) ↔
    Run.Meets step MeetsNoWork (begin store) operations := by
  rw [← Run.meets_iff_forall]
  apply Run.meets_iff_guarded step Paused
  · intro session operation paused
    exact staysPaused_iff paused
  · intro session operation _ stays
    exact stays
  · intro missionId interrupted
    cases interrupted

theorem reconciled_completed (done : exec (reconcileMissionState missionId) store = (.ok record, after))
    (completed : statusOf after.missions missionId = some .completed) :
    allItems after.workflows ≠ [] ∧ (∀ item ∈ allItems after.workflows, isCompleted item = true) ∧
      ∀ wait ∈ missionWaits after.waits missionId, wait.isCleared = true := by
  obtain ⟨workflows, waits⟩ := Mission.reconcileMissionState_ok done
  obtain ⟨mission, now, -, statuses⟩ := statusOf_reconciled done
  rw [statuses missionId, if_pos rfl, Option.some.injEq, reconciled_completed_iff] at completed
  rw [workflows, waits]
  exact completed.2

/-- A recovery of a mission whose items are completed and whose waits are cleared completes it
exactly when it is not halted. -/
theorem recovered_completed_iff {current canonical : Option String}
    (done : exec (Mission.recoverMission missionId current attemptId canonical) store =
      (.ok record, after))
    (some : allItems store.workflows ≠ [])
    (all : ∀ item ∈ allItems store.workflows, isCompleted item = true)
    (cleared : ∀ wait ∈ missionWaits store.waits missionId, wait.isCleared = true) :
    statusOf after.missions missionId = .some .completed ↔
      ∀ status ∈ haltedStatuses, statusOf store.missions missionId ≠ .some status := by
  obtain ⟨mission, row, now, present, status, statuses⟩ := recoverMission_statuses done
  obtain ⟨workflows, opened⟩ := Mission.recoverMission_ok done
  have nothing : dueWaits store missionId = [] := by
    rw [dueWaits, List.filter_eq_nil_iff]
    intro wait member
    simp [cleared wait member]
  have workflows : after.workflows = store.workflows := by
    rw [workflows, nothing]
    rfl
  have waits : ∀ wait ∈ missionWaits after.waits missionId, wait.isCleared = true := by
    intro wait member
    obtain ⟨inside, own⟩ := List.mem_filter.mp member
    by_contra isOpen
    obtain ⟨before, stillOpen, -⟩ := (opened wait).mp ⟨inside, by simpa using isOpen⟩
    have closed := cleared wait (List.mem_filter.mpr ⟨before, own⟩)
    rw [stillOpen] at closed
    cases closed
  have was : statusOf store.missions missionId = .some mission.status := by
    rw [statusOf, present, Option.map_some]
  rw [statuses missionId, if_pos rfl, Option.some.injEq, reconciled_completed_iff, status, workflows, was]
  constructor
  · rintro ⟨running, -⟩ halted member same
    exact running (Option.some.inj same ▸ member)
  · intro running
    exact ⟨fun member => running _ member rfl, some, all, waits⟩

/-- What completes a mission; what a recovery of a finished mission leaves; how long a pause lasts. -/
theorem mission_status_iff (missionId : String) (store : Store) (operations : List MissionOperation) :
    (∀ record after, exec (reconcileMissionState missionId) store = (.ok record, after) →
      statusOf after.missions missionId = some .completed →
      allItems after.workflows ≠ [] ∧ (∀ item ∈ allItems after.workflows, isCompleted item = true) ∧
        ∀ wait ∈ missionWaits after.waits missionId, wait.isCleared = true) ∧
    (∀ current attemptId canonical record after,
      exec (Mission.recoverMission missionId current attemptId canonical) store =
        (.ok record, after) →
      allItems store.workflows ≠ [] → (∀ item ∈ allItems store.workflows, isCompleted item = true) →
      (∀ wait ∈ missionWaits store.waits missionId, wait.isCleared = true) →
      (statusOf after.missions missionId = some .completed ↔
        ∀ status ∈ haltedStatuses, statusOf store.missions missionId ≠ some status)) ∧
    ((∀ front operation back, operations = front ++ operation :: back →
        StaysPaused (Run.run step (begin store) front) operation) ↔
      Run.Meets step MeetsNoWork (begin store) operations) := by
  refine ⟨?_, ?_, staysPaused_run_iff store operations⟩
  · intro record after done completed
    exact reconciled_completed done completed
  · intro current attemptId canonical record after done nonempty all cleared
    exact recovered_completed_iff done nonempty all cleared

/-- One item in the state given, and a mission. -/
def missionOver (state : String) : Store :=
  { workflows := .single {
      id := "LWORK_000001"
      workflowState := .planReady
      taskBacklog := [[("item_id", .str "first"), ("state", .str state)]] }
    missions := .single { id := "mission", canonicalSha := "HEAD" } }

def interruption : MissionOperation := .recordInterruption "mission" none "SIGINT_OR_SIGTERM" []

def recovery : MissionOperation := .recoverMission "mission" none none none

theorem finished_mission_stays_paused :
    (statusOf (Run.run step (begin (missionOver "COMPLETED")) [interruption, recovery]).store.missions
        "mission" = some .paused ∧
      Accepted (step (begin (missionOver "COMPLETED")) interruption).store recovery) ∧
    statusOf (step (begin (missionOver "READY")) interruption).store.missions "mission" = some .active ∧
    ¬ StaysPaused (begin (missionOver "READY")) interruption := by
  have active : statusOf (step (begin (missionOver "READY")) interruption).store.missions "mission" =
      some .active := by
    decide +kernel
  refine ⟨⟨by decide +kernel, ⟨_, rfl⟩⟩, active, ?_⟩
  intro stays
  have listed : "mission" ∈ (step (begin (missionOver "READY")) interruption).interrupted := by
    decide +kernel
  rw [stays "mission" listed] at active
  cases active

end Lucius.Runtime.MissionStatuses
