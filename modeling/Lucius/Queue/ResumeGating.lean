import Lucius.Queue.Global
import Lucius.Workflows.Service

/-! What the validation of a resume leaves of the lifecycle of its workflow, and what the
queue may start of it afterwards. -/

namespace Lucius.Queue

open Lucius.Action Workflows

/-- Some start takes an item of the workflow. -/
def Startable (store : Store) (workflowId : String) : Prop :=
  (∃ selection after started, Action.exec (startNext workflowId) store = (.ok selection, after) ∧
    selection.selectedItemId = some started) ∨
  ∃ workflowIds selection after started,
    Action.exec (startGlobalNext workflowIds) store = (.ok selection, after) ∧
      selection.startedWorkflowId = some workflowId ∧ selection.startedItemId = some started

/-- The states in which the work of a workflow is finished. -/
def finishedStates : List PersistentWorkflowState := [.completedPendingIntegration, .closed]

/-- A validation puts the workflow in an executable state only when it is safe to resume,
leaves nothing to start otherwise, and does not reopen finished work. -/
structure Gated (workflowId : String) (before : Store)
    (ended : Except PyExc ResumeValidationResult × Store) : Prop where
  executable : ∀ result, ended.1 = .ok result → ∀ row, ended.2.workflows.get? workflowId = some row →
    row.workflowState ∈ executionEligibleWorkflowStates → result = .safeToResume
  held : ∀ result, ended.1 = .ok result → result ≠ .safeToResume → ¬ Startable ended.2 workflowId
  finished : ∀ old new, before.workflows.get? workflowId = some old →
    ended.2.workflows.get? workflowId = some new → old.workflowState ∈ finishedStates →
    new.workflowState = old.workflowState

/-- The checkpoint is one of the workflow. -/
def OwnCheckpoint (store : Store) (workflowId checkpointId : String) : Prop :=
  (store.checkpoints.get? checkpointId).map (·.workflowId) = some workflowId

theorem resumeResult_safe (checks : List Dict) :
    resumeResult checks = .safeToResume ↔ ∀ check ∈ checks, (check.get "status").isStr "PASS" = true := by
  have failed : (checks.filter (fun check => !(check.get "status").isStr "PASS")).isEmpty = true ↔
      ∀ check ∈ checks, (check.get "status").isStr "PASS" = true := by
    rw [List.isEmpty_iff, List.filter_eq_nil_iff]
    simp
  unfold resumeResult
  rw [← failed]
  dsimp only
  split
  · rename_i empty
    exact iff_of_true rfl empty
  · rename_i some
    refine iff_of_false ?_ some
    split
    · exact fun same => nomatch same
    · exact fun same => nomatch same

/-- The validation of a known checkpoint ends with the result of its checks, and enters
the state of validation from every other. -/
theorem validateResume_runs {workflowId checkpointId : String} (checks : List Dict)
    (next : Option String) {store : Store} {row : PersistentWorkflowRow}
    (present : store.workflows.get? workflowId = some row)
    (own : OwnCheckpoint store workflowId checkpointId) :
    ∃ after written, Action.exec (validateResume workflowId checkpointId checks next) store =
        (.ok (resumeResult checks), after) ∧
      after.workflows.get? workflowId = some written ∧ written.workflowState = .resumeValidation := by
  have named : row.id = workflowId := Table.get?_key present
  have known : (store.checkpoints.get? checkpointId).map (·.workflowId) = some row.id := by
    rw [named]
    exact own
  have looked : Action.exec (Workflows.workflowRow workflowId) store = (.ok row, store) := by
    rw [Workflows.workflowRow, exec_get_bind, present]
    rfl
  let written : PersistentWorkflowRow := { row with
    workflowState := .resumeValidation
    activeTaskId := next
    updatedAt := (store.issue .resumeValidation).tick.now }
  have read : ∃ after, Action.exec (validateResume workflowId checkpointId checks next) store =
      (.ok (resumeResult checks), after) ∧ after.workflows = store.workflows.put written := by
    unfold validateResume
    rw [exec_bind_of_ok looked, exec_get_bind, if_neg (fun other => other known)]
    exact ⟨_, rfl, rfl⟩
  obtain ⟨after, ended, put⟩ := read
  refine ⟨after, written, ended, ?_, rfl⟩
  rw [put]
  exact Table.get?_put_same present named

theorem validateResume_raises {workflowId checkpointId : String} (checks : List Dict)
    (next : Option String) {store : Store}
    (unknown : ∀ row, store.workflows.get? workflowId = some row →
      ¬ OwnCheckpoint store workflowId checkpointId) :
    ∃ error, Action.exec (validateResume workflowId checkpointId checks next) store =
      (.error error, store) := by
  unfold validateResume
  cases present : store.workflows.get? workflowId with
  | none =>
    have looked : Action.exec (Workflows.workflowRow workflowId) store =
        (.error (.valueError ("Unknown persistent workflow: " ++ workflowId)), store) := by
      rw [Workflows.workflowRow, exec_get_bind, present]
      rfl
    exact ⟨_, exec_bind_of_error looked⟩
  | some row =>
    have looked : Action.exec (Workflows.workflowRow workflowId) store = (.ok row, store) := by
      rw [Workflows.workflowRow, exec_get_bind, present]
      rfl
    have foreign : (store.checkpoints.get? checkpointId).map (·.workflowId) ≠ some row.id := by
      have named : row.id = workflowId := Table.get?_key present
      rw [named]
      exact unknown row present
    rw [exec_bind_of_ok looked, exec_get_bind, if_pos foreign]
    exact ⟨_, rfl⟩

/-- A validation is gated exactly when it raises, or when its checks all pass and the work
is not finished. -/
theorem validateResume_gated_iff (workflowId checkpointId : String) (checks : List Dict)
    (next : Option String) (store : Store) :
    Gated workflowId store (Action.exec (validateResume workflowId checkpointId checks next) store) ↔
      ∀ row, store.workflows.get? workflowId = some row → OwnCheckpoint store workflowId checkpointId →
        (∀ check ∈ checks, (check.get "status").isStr "PASS" = true) ∧
          row.workflowState ∉ finishedStates := by
  by_cases known : ∃ row, store.workflows.get? workflowId = some row ∧
      OwnCheckpoint store workflowId checkpointId
  · obtain ⟨row, present, own⟩ := known
    obtain ⟨after, written, ended, found, state⟩ :=
      validateResume_runs checks next present own
    rw [ended]
    constructor
    · intro gated other same _
      rw [present] at same
      cases same
      constructor
      · have eligible : written.workflowState ∈ executionEligibleWorkflowStates := by
          rw [state]
          decide
        exact (resumeResult_safe checks).mp (gated.executable _ rfl written found eligible)
      · intro finished
        have kept := gated.finished row written present found finished
        rw [state] at kept
        rw [← kept] at finished
        revert finished
        decide
    · intro safe
      obtain ⟨passed, unfinished⟩ := safe row present own
      have result : resumeResult checks = .safeToResume := (resumeResult_safe checks).mpr passed
      constructor
      · intro found same _ _ _
        rw [← result]
        exact (Except.ok.inj same).symm
      · intro found same other
        exact absurd ((Except.ok.inj same).symm.trans result) other
      · intro old new same _ finished
        rw [present] at same
        cases same
        exact absurd finished unfinished
  · have unknown : ∀ row, store.workflows.get? workflowId = some row →
        ¬ OwnCheckpoint store workflowId checkpointId := fun row present own => known ⟨row, present, own⟩
    obtain ⟨error, raised⟩ := validateResume_raises checks next unknown
    rw [raised]
    refine iff_of_true ?_ (fun row present own => absurd own (unknown row present))
    constructor
    · intro result same
      cases same
    · intro result same
      cases same
    · intro old new before after _
      rw [before] at after
      cases after
      rfl

/-- A closed workflow with an item that was never run. -/
def closedNotes : PersistentWorkflowRow :=
  { id := "LWORK_000001"
    workflowState := .closed
    taskBacklog := [[("item_id", .str "notes"), ("state", .str "READY")]] }

def closedWorkflow : Store :=
  { workflows := .single closedNotes
    checkpoints := .single (⟨"LWCHK_000001", "LWORK_000001"⟩) }

def dirtyWorktree : List Dict :=
  [[("check", .str "worktree_clean"), ("status", .str "FAIL"), ("severity", .str "BLOCKING")]]

def blockedResume : Except PyExc ResumeValidationResult × Store :=
  Action.exec (validateResume "LWORK_000001" "LWCHK_000001" dirtyWorktree none) closedWorkflow

/-- A resume that is blocked reopens the closed workflow and has its item started. -/
theorem blocked_resume_reopens :
    blockedResume.1.toOption = some .blocked ∧
      (Action.exec (startNext "LWORK_000001") closedWorkflow).1.toOption = none ∧
      ((Action.exec (startNext "LWORK_000001") blockedResume.2).1.toOption.bind
        (·.selectedItemId)) = some "notes" ∧
      ¬ Gated "LWORK_000001" closedWorkflow blockedResume := by
  refine ⟨by decide +kernel, by decide +kernel, by decide +kernel, ?_⟩
  intro gated
  obtain ⟨after, written, ended, found, state⟩ :=
    validateResume_runs dirtyWorktree none
      (show closedWorkflow.workflows.get? "LWORK_000001" = some closedNotes from rfl)
      (show OwnCheckpoint closedWorkflow "LWORK_000001" "LWCHK_000001" from rfl)
  rw [blockedResume, ended] at gated
  have kept := gated.finished closedNotes written rfl found (by decide)
  rw [state] at kept
  exact absurd kept (by decide)

end Lucius.Queue
