import Lucius.Runtime.Tokens

/-! What the waits of a mission do to work that is done or in progress, and to work
that other waits still hold. -/

namespace Lucius.Runtime.DurableWaits

open Lucius.Action

open Queue (Item queueState?)
open Mission Tokens

def settledStates : List QueueWorkItemState := [.completed, .failed, .running]

/-- The item is done or in progress. -/
def Busy (item : Item) : Prop := ∃ target ∈ settledStates, queueState? item = some target

def RefersTo (wait : DurableWaitRow) (item : Item) : Prop :=
  ∃ name, namedItem wait.itemId = some name ∧ matchesItem name item = true

def Held (waits : Table DurableWaitRow) (item : Item) : Prop :=
  ∃ wait ∈ waits.rows, wait.isCleared = false ∧ RefersTo wait item

/-- What an operation of the supervisor may do to one item, given the waits it leaves. -/
structure Lawful (operation : MissionOperation) (waits : Table DurableWaitRow) (old new : Item) :
    Prop where
  kept : Busy old → queueState? new = queueState? old
  released : ¬ IsRecordWait operation → queueState? old ≠ some .ready →
    queueState? new = some .ready → ¬ Held waits new

def Resurrects (store : Store) (operation : MissionOperation) : Prop :=
  ¬ Backlogs (Lawful operation (step store (.mission operation)).waits) store.workflows
    (step store (.mission operation)).workflows

/-- An item the operation writes is neither done nor in progress, and where a wait is
cleared no wait that stays open refers to it. -/
structure Writable (store : Store) (operation : MissionOperation) (item : Item) : Prop where
  idle : ¬ Busy item
  free : ¬ IsRecordWait operation → queueState? item ≠ some .ready →
    ∀ wait ∈ store.waits.rows, wait.isCleared = false →
      (∀ cleared ∈ clearedWaits store operation, cleared.id ≠ wait.id) → ¬ RefersTo wait item

def WritesOnlyFree (store : Store) : WorkOperation → Prop
  | .mission operation => Accepted store operation →
      ∀ row ∈ store.workflows.rows, ∀ item ∈ row.taskBacklog,
        targets store.workflows (writtenItems store operation) row.id item = true →
        Writable store operation item
  | _ => True

theorem queueState_inState (target : QueueWorkItemState) (item : Item) :
    queueState? (inState target item) = some target := by
  simp [queueState?, inState, stateText, Json.isNull]

theorem refersTo_inState (wait : DurableWaitRow) (target : QueueWorkItemState) (item : Item) :
    RefersTo wait (inState target item) ↔ RefersTo wait item := by
  unfold RefersTo
  simp only [Mission.matches_inState]

theorem recordedState_other {waitClass : String} {target : QueueWorkItemState}
    (recorded : recordedState waitClass = some target) : target ∉ settledStates := by
  unfold recordedState at recorded
  repeat' split at recorded
  all_goals cases recorded
  all_goals decide

theorem writtenState_other (operation : MissionOperation) : writtenState operation ∉ settledStates := by
  cases operation with
  | recordWait missionId request =>
    rcases held : heldItem request with _ | ⟨itemId, target⟩
    · simp only [writtenState, held]
      decide
    · simp only [writtenState, held]
      unfold heldItem at held
      split at held
      · rename_i recorded
        cases held
        exact recordedState_other recorded
      · cases held
  | _ => exact (by decide : QueueWorkItemState.ready ∉ settledStates)

theorem writtenState_ready {operation : MissionOperation} (other : ¬ IsRecordWait operation) :
    writtenState operation = .ready := by
  cases operation with
  | recordWait => exact absurd trivial other
  | _ => rfl

theorem held_after {before after : Table DurableWaitRow}
    {cleared : List DurableWaitRow} (opened : OpenAfter cleared before after) (item : Item) :
    Held after item ↔ ∃ wait ∈ before.rows, wait.isCleared = false ∧
      (∀ other ∈ cleared, other.id ≠ wait.id) ∧ RefersTo wait item := by
  constructor
  · rintro ⟨wait, member, isOpen, refers⟩
    obtain ⟨present, stillOpen, others⟩ := (opened wait).mp ⟨member, isOpen⟩
    exact ⟨wait, present, stillOpen, others, refers⟩
  · rintro ⟨wait, member, isOpen, others, refers⟩
    obtain ⟨present, stillOpen⟩ := (opened wait).mpr ⟨member, isOpen, others⟩
    exact ⟨wait, present, stillOpen, refers⟩

theorem lawful_written_iff {store after : Store} {operation : MissionOperation}
    (done : exec (Mission.perform operation) store = (.ok (), after)) (item : Item) :
    Lawful operation after.waits item (inState (writtenState operation) item) ↔
      Writable store operation item := by
  constructor
  · intro lawful
    refine ⟨?_, ?_⟩
    · rintro ⟨target, settled, stated⟩
      have kept := lawful.kept ⟨target, settled, stated⟩
      rw [queueState_inState, stated] at kept
      exact writtenState_other operation (Option.some.inj kept ▸ settled)
    · intro clears unready wait member isOpen others refers
      have ready : queueState? (inState (writtenState operation) item) = some .ready := by
        rw [queueState_inState, writtenState_ready clears]
      apply lawful.released clears unready ready
      have opened := (Mission.perform_clears clears done).waits
      refine (held_after opened _).mpr ⟨wait, member, isOpen, others, ?_⟩
      exact (refersTo_inState wait _ item).mpr refers
  · intro writable
    refine ⟨fun busy => absurd busy writable.idle, ?_⟩
    intro clears unready _ held
    have opened := (Mission.perform_clears clears done).waits
    obtain ⟨wait, member, isOpen, others, refers⟩ :=
      (held_after opened _).mp held
    exact writable.free clears unready wait member isOpen others
      ((refersTo_inState wait _ item).mp refers)

theorem lawful_same (operation : MissionOperation) (waits : Table DurableWaitRow) (item : Item) :
    Lawful operation waits item item :=
  ⟨fun _ => rfl, fun _ unready ready => absurd ready unready⟩

theorem resurrects_iff (store : Store) (operation : MissionOperation) :
    ¬ Resurrects store operation ↔ WritesOnlyFree store (.mission operation) := by
  unfold Resurrects
  rw [not_not]
  rcases outcome : exec (Mission.perform operation) store with ⟨error | _, after⟩
  · have reached : step store (.mission operation) = store := transact_error outcome
    rw [reached]
    constructor
    · rintro - ⟨other, done⟩
      rw [outcome] at done
      cases done
    · intro _
      exact backlogs_refl (lawful_same operation store.waits) store.workflows
  · have reached : step store (.mission operation) = after := transact_ok outcome
    rw [reached, Mission.perform_workflows outcome, backlogs_retargeted]
    constructor
    · intro lawful _ row member item inside targeted
      have related := lawful row member item inside
      rw [settle, if_pos targeted] at related
      exact (lawful_written_iff outcome item).mp related
    · intro free row member item inside
      unfold settle
      by_cases targeted : targets store.workflows (writtenItems store operation) row.id item = true
      · rw [if_pos targeted]
        exact (lawful_written_iff outcome item).mpr (free ⟨after, outcome⟩ row member item inside targeted)
      · rw [if_neg targeted]
        exact lawful_same operation after.waits item

/-- In every run of the queue and the supervisor: no operation of the supervisor
moves an item that is done or in progress, or makes ready an item another open wait
refers to, exactly when each writes only items that are free to be written. -/
theorem waits_resurrect_nothing_iff_items_free (start : Store) (operations : List WorkOperation) :
    (∀ front operation back, operations = front ++ .mission operation :: back →
      ¬ Resurrects (Run.run step start front) operation) ↔
    Run.Meets step WritesOnlyFree start operations := by
  rw [Run.meets_iff_forall]
  constructor
  · intro lawful front operation back split
    cases operation with
    | mission wait => exact (resurrects_iff _ wait).mp (lawful front wait back split)
    | _ => trivial
  · intro free front wait back split
    exact (resurrects_iff _ wait).mpr (free front (.mission wait) back split)

def readyStore : Store :=
  { workflows := .single { id := "LWORK_000001", workflowState := .planReady, taskBacklog :=
              [[("item_id", .str "first"), ("state", .str "READY")]] }
    missions := .single { id := "mission", canonicalSha := "HEAD" } }

def waitFor (waitClass : String) : WorkOperation :=
  .mission (.recordWait "mission" { waitClass := waitClass, reason := "held", itemId := some "first" })

def twoWaits : List WorkOperation := [waitFor "RESOURCE", waitFor "DEPENDENCY"]

def workedOff : List WorkOperation :=
  twoWaits ++ [.mission (.clearWait "wait_000000000000"), .startNext "LWORK_000001",
    .completeItem "LWORK_000001" "first" []]

def firstState (store : Store) : Option QueueWorkItemState :=
  (itemAt store.workflows "LWORK_000001" "first").bind queueState?

def openFor (name : String) (store : Store) : Bool :=
  store.waits.rows.any (fun wait => !wait.isCleared && decide (wait.itemId = some name))

/-- The first wait is cleared while the second is open, and the item is ready; it is
worked off, and clearing the second wait makes the completed item ready again. -/
theorem cleared_waits_ready_held_and_completed_work :
    (firstState (Run.run step readyStore twoWaits) = some .waitingDependency ∧
      firstState (step (Run.run step readyStore twoWaits) (.mission (.clearWait "wait_000000000000"))) =
        some .ready ∧
      openFor "first" (step (Run.run step readyStore twoWaits)
        (.mission (.clearWait "wait_000000000000"))) = true) ∧
    (firstState (Run.run step readyStore workedOff) = some .completed ∧
      firstState (step (Run.run step readyStore workedOff) (.mission (.clearWait "wait_000000000001"))) =
        some .ready) ∧
    Resurrects (Run.run step readyStore workedOff) (.clearWait "wait_000000000001") := by
  refine ⟨by decide, by decide, ?_⟩
  intro lawful
  have free := (resurrects_iff _ _).mp (not_not.mpr lawful) ⟨_, rfl⟩
  have targeted : ((Run.run step readyStore workedOff).workflows.rows.any fun row =>
      row.taskBacklog.any fun item => decide (queueState? item = some .completed) &&
        targets (Run.run step readyStore workedOff).workflows
          (writtenItems (Run.run step readyStore workedOff) (.clearWait "wait_000000000001"))
          row.id item) = true := by decide
  obtain ⟨row, member, listed⟩ := List.any_eq_true.mp targeted
  obtain ⟨item, inside, both⟩ := List.any_eq_true.mp listed
  rw [Bool.and_eq_true, decide_eq_true_eq] at both
  exact (free row member item inside both.2).idle ⟨.completed, by decide, both.1⟩

end Lucius.Runtime.DurableWaits
