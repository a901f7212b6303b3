import Lucius.NightShift.ContainmentSoundness
import Lucius.Queue.SingleActive
import Lucius.Runtime.DispatchFairness
import Lucius.Runtime.LoopSteps

/-! What a quarantine of a failed candidate keeps from being dispatched.

A quarantine writes a lifecycle state of the workflow, and the dispatcher counts that state
among those it may execute. What releases a workflow is any change of its state from outside. -/

namespace Lucius.NightShift

open Queue Lucius.Runtime Lucius.Action Run

/-- The state of the loop, and the workflows that were quarantined and not released since. -/
structure QuarantineState where
  loop : LoopState
  quarantined : List String := []

/-- A failure that the supervisor contains, a cycle of the dispatcher, the preparations and the
cycles of a run of the runtime, and whatever else is done to the rows. -/
inductive ShiftOperation where
  | contain (surroundings : Surroundings) (disk : Disk) (workflowId : String)
      (snapshot : Option ContainmentSnapshot)
  | startNext (workflowIds : List String)
  | prepare (service : ExecutionRuntimeLoopService) (config : RuntimeLoopConfig)
  | cycle (service : ExecutionRuntimeLoopService) (config : RuntimeLoopConfig)
  | elsewhere (change : Store → Store)

def lifecycleOf (store : Store) (workflowId : String) : Option PersistentWorkflowState :=
  (store.workflows.get? workflowId).map PersistentWorkflowRow.workflowState

def newlyQuarantined (workflowId : String) : Except PyExc ContainmentResult → List String
  | .ok result => if result.candidateQuarantined then [workflowId] else []
  | .error _ => []

def step (state : QuarantineState) : ShiftOperation → QuarantineState
  | .contain surroundings disk workflowId snapshot =>
    let ended := exec (proveContainedFailure surroundings disk workflowId snapshot) state.loop.store
    { loop := { state.loop with store := ended.2 }
      quarantined := state.quarantined ++ newlyQuarantined workflowId ended.1 }
  | .startNext workflowIds =>
    { state with loop := { state.loop with store := (exec (startNext workflowIds) state.loop.store).2 } }
  | .prepare service config =>
    { state with loop := { state.loop with
        store := (exec (prepareWorkflowPlans service.planning config.workflowIds) state.loop.store).2 } }
  | .cycle service config => { state with loop := (exec (Runtime.cycle service config) state.loop).2 }
  | .elsewhere change =>
    { loop := { state.loop with store := change state.loop.store }
      quarantined := state.quarantined.filter (fun workflowId =>
        lifecycleOf (change state.loop.store) workflowId = lifecycleOf state.loop.store workflowId) }

/-- The workflows that an operation dispatches an item of, every one where the list is empty. -/
def ShiftOperation.scope : ShiftOperation → Option (List String)
  | startNext workflowIds => some workflowIds
  | cycle _ config => some config.workflowIds
  | _ => none

/-- What is done by the supervisor, the dispatcher and the runtime. -/
def ShiftOperation.inside : ShiftOperation → Prop
  | elsewhere _ => False
  | _ => True

def RunningAt (store : Store) (workflowId : String) (place : Nat) : Prop :=
  ∃ row item, store.workflows.get? workflowId = some row ∧ row.taskBacklog[place]? = some item ∧
    Running item

/-- No item of the workflows starts to run. -/
def StartsNone (workflowIds : List String) (before after : Store) : Prop :=
  ∀ workflowId ∈ workflowIds, ∀ place, RunningAt after workflowId place → RunningAt before workflowId place

/-- An operation neither selects nor starts an item of a quarantined workflow. -/
structure QuarantineHolds (state : QuarantineState) (operation : ShiftOperation) : Prop where
  selected : ∀ workflowIds selection after candidate, operation.scope = some workflowIds →
    exec (selectNext workflowIds) state.loop.store = (.ok selection, after) →
    selection.selected = some candidate → candidate.workflowId ∉ state.quarantined
  started : operation.inside →
    StartsNone state.quarantined state.loop.store (step state operation).loop.store

/-- The dispatcher has no reason against an item of the workflow. -/
def Offers (tables : Tables) (row : PersistentWorkflowRow) : Prop :=
  ∃ item ∈ row.taskBacklog, eligibilityReasons tables (bundleOf tables row) item = .ok []

/-- No quarantined workflow in the scope of a dispatch offers an item. -/
def NothingOffered (state : QuarantineState) (operation : ShiftOperation) : Prop :=
  ∀ workflowIds, operation.scope = some workflowIds → ∀ row ∈ state.loop.store.workflows.rows,
    row.id ∈ state.quarantined → (workflowIds = [] ∨ row.id ∈ workflowIds) →
    ¬ Offers state.loop.store.toTables row

/-! ### What starts an item -/

section

variable {workflowIds : List String}

theorem startsNone_refl (store : Store) : StartsNone workflowIds store store := fun _ _ _ running => running

theorem startsNone_trans (first second third : Store) (one : StartsNone workflowIds first second)
    (two : StartsNone workflowIds second third) : StartsNone workflowIds first third :=
  fun workflowId member place running => one workflowId member place (two workflowId member place running)

theorem startsNone_of_workflows {before after : Store} (same : after.workflows = before.workflows) :
    StartsNone workflowIds before after := by
  rintro workflowId - place ⟨row, item, present, read, running⟩
  exact ⟨row, item, same ▸ present, read, running⟩

theorem startsNone_of_same (before after : Store) (same : SameTables before after) :
    StartsNone workflowIds before after := startsNone_of_workflows (congrArg Tables.workflows same)

theorem record_startsNone (draft : AuditDraft) :
    Respects (StartsNone workflowIds) (Op.record draft) :=
  respects_mono startsNone_of_same (record_same draft)

theorem startsNone_of_carried {before after : Store}
    (carried : before.workflows.Carried SameWork after.workflows) :
    StartsNone workflowIds before after := by
  rintro workflowId - place ⟨row, item, present, read, running⟩
  obtain ⟨old, known, same⟩ := Table.carried_origin carried present
  exact ⟨old, item, known, same.taskBacklog ▸ read, running⟩

/-- A write of an item starts none but that of its own row, and none where the item does not run. -/
theorem startsNone_of_write {before after : Store} {row : PersistentWorkflowRow} {item new : Item}
    (write : ItemWrite before.toTables after.toTables row item new)
    (spared : row.id ∈ workflowIds → ¬ Running new) : StartsNone workflowIds before after := by
  obtain ⟨written, front, back, put, named, old, now⟩ := SingleActive.itemWrite_rows write
  rintro workflowId member place ⟨found, read, present, held, running⟩
  have stored : after.workflows = before.workflows.put written := put
  rw [stored] at present
  by_cases same : written.id = workflowId
  · have here : before.workflows.get? workflowId = some row := by rw [← same, named]; exact write.present
    rw [Table.get?_put_same here same] at present
    cases present
    have idle := spared (by rw [← named, same]; exact member)
    refine ⟨row, read, here, ?_, running⟩
    rw [now] at held
    rw [old]
    rcases getElem?_replaced held item with ⟨-, is⟩ | ⟨-, kept⟩
    · exact absurd (is ▸ running) idle
    · exact kept
  · rw [Table.get?_put_other _ _ same] at present
    exact ⟨found, read, present, held, running⟩

theorem startsNone_of_ends {α : Type} {operation : Op α}
    (normal : ∀ store result after, exec operation store = (.ok result, after) →
      StartsNone workflowIds store after)
    (raised : Action.OnRaise SameTables operation) : Respects (StartsNone workflowIds) operation :=
  respects_of_ends normal
    (fun store error after ended => startsNone_of_same store after (raised store error after ended))

theorem startsNone_of_moved {before after : Store} {row : PersistentWorkflowRow} {item new : Item}
    {target : QueueWorkItemState} (write : ItemWrite before.toTables after.toTables row item new)
    (moved : Moved item new target) (elsewhere : target ≠ .running) :
    StartsNone workflowIds before after := by
  apply startsNone_of_write write
  intro _ running
  exact elsewhere (Option.some.inj (moved.stated.symm.trans running))

theorem blockRunningItem_startsNone (workflowId wanted : String) (request : BlockRequest) :
    Respects (StartsNone workflowIds) (blockRunningItem workflowId wanted request) := by
  apply startsNone_of_ends
  · intro store checkpoint after done
    obtain ⟨_, _, _, _, -, -, -, blocks⟩ := blockRunningItem_writes done
    exact startsNone_of_moved blocks.write.itemWrite blocks.moved (SingleActive.blocked_ne_running blocks.blocking)
  · exact blockRunningItem_raised _ _ _

theorem blockDispatchSelectedItem_startsNone (workflowId wanted : String) (expected : QueueWorkItemState)
    (version : Int) (request : BlockRequest) :
    Respects (StartsNone workflowIds)
      (blockDispatchSelectedItem workflowId wanted expected version request) := by
  apply startsNone_of_ends
  · intro store checkpoint after done
    obtain ⟨_, _, _, _, -, -, -, -, -, blocks⟩ := blockDispatchSelectedItem_writes done
    exact startsNone_of_moved blocks.write.itemWrite blocks.moved (SingleActive.blocked_ne_running blocks.blocking)
  · exact blockDispatchSelectedItem_raised _ _ _ _ _

theorem completeItem_startsNone (workflowId wanted : String) (substeps : List String) :
    Respects (StartsNone workflowIds) (completeItem workflowId wanted substeps) := by
  apply startsNone_of_ends
  · intro store item after done
    obtain ⟨_, _, _, _, -, -, completes⟩ := completeItem_writes done
    exact startsNone_of_moved completes.write.itemWrite completes.moved (by decide)
  · exact completeItem_raised _ _ _

theorem reconcile_startsNone (workflowId : String) :
    Respects (StartsNone workflowIds) (reconcileCompletedWorkflowParentTask workflowId) :=
  respects_mono (fun _ _ prepared => startsNone_of_carried prepared.workflows)
    (reconcile_prepared workflowId)

theorem prepareWorkflowPlans_startsNone (planning : Planning.ScriptedRuntimePlanningAdapter)
    (scope : List String) : Respects (StartsNone workflowIds) (prepareWorkflowPlans planning scope) :=
  respects_mono (fun _ _ prepared => startsNone_of_carried prepared.workflows)
    (prepareWorkflowPlans_prepared planning scope)

theorem quarantine_startsNone (workflowId reason : String) :
    Respects (StartsNone workflowIds) (quarantineFailedCandidate workflowId reason) := by
  intro store
  rw [quarantineFailedCandidate, exec_get_bind]
  cases present : store.workflows.get? workflowId with
  | none => exact startsNone_refl store
  | some workflow =>
    have named : workflow.id = workflowId := Table.get?_key present
    have here : store.workflows.get? workflow.id = some workflow := by
      rw [named]
      exact present
    apply startsNone_of_carried
    exact Table.carried_put sameWork_refl here ⟨rfl, rfl, rfl, .inr rfl⟩

theorem contain_startsNone (surroundings : Surroundings) (disk : Disk) (workflowId : String)
    (snapshot : Option ContainmentSnapshot) :
    Respects (StartsNone workflowIds) (proveContainedFailure surroundings disk workflowId snapshot) := by
  have settled (snapshot : ContainmentSnapshot) (head : String) (changes : List String) :
      Respects (StartsNone workflowIds) (settleCandidate workflowId snapshot head changes) := by
    unfold settleCandidate
    split
    · apply respects_bind startsNone_trans (quarantine_startsNone _ _)
      exact fun _ => respects_pure startsNone_refl _
    split
    · apply respects_bind startsNone_trans (quarantine_startsNone _ _)
      exact fun _ => respects_pure startsNone_refl _
    · exact respects_pure startsNone_refl _
  unfold proveContainedFailure
  split
  · exact respects_pure startsNone_refl _
  split
  · exact respects_pure startsNone_refl _
  split
  · exact respects_pure startsNone_refl _
  split
  · exact respects_pure startsNone_refl _
  · exact respects_throw startsNone_refl _
  · exact respects_pure startsNone_refl _
  · exact settled _ _ _

/-! ### A cycle of the runtime -/

def LoopStartsNone (workflowIds : List String) (before after : LoopState) : Prop :=
  StartsNone workflowIds before.store after.store

theorem loopStartsNone_refl (state : LoopState) : LoopStartsNone workflowIds state state :=
  startsNone_refl state.store

theorem loopStartsNone_trans (first second third : LoopState) (one : LoopStartsNone workflowIds first second)
    (two : LoopStartsNone workflowIds second third) : LoopStartsNone workflowIds first third :=
  startsNone_trans _ _ _ one two

theorem onStore_startsNone {α : Type} {operation : Op α}
    (kept : Respects (StartsNone workflowIds) operation) :
    Respects (LoopStartsNone workflowIds) (Runtime.onStore operation) := by
  have lifted : ∀ (state : LoopState) (after : Store), StartsNone workflowIds state.store after →
      LoopStartsNone workflowIds state { state with store := after } := fun _ _ same => same
  exact respects_zoom lifted kept

theorem report_startsNone (change : ExecutionRuntimeLoopResult → ExecutionRuntimeLoopResult) :
    Respects (LoopStartsNone workflowIds) (Runtime.report change) :=
  fun state => startsNone_refl state.store

theorem reported_startsNone {α : Type} (change : ExecutionRuntimeLoopResult → ExecutionRuntimeLoopResult)
    (value : α) : Respects (LoopStartsNone workflowIds) (do Runtime.report change; return value) :=
  respects_bind loopStartsNone_trans (report_startsNone change)
    (fun _ => respects_pure loopStartsNone_refl value)

theorem router_startsNone (service : ExecutionRuntimeLoopService) (context : Router.RuntimeExecutionContext) :
    Respects (LoopStartsNone workflowIds) (executeRouterFailClosed service context) := by
  intro state
  obtain ⟨outcome, executes⟩ := executeRouterFailClosed_ends service context state
  obtain ⟨executions, tables⟩ := routed_recordsOnly (service.router context.worktreePath) context state
  rw [executes]
  apply startsNone_of_workflows
  show (routed (service.router context.worktreePath) context state).2.store.workflows = _
  rw [tables]

theorem settleCompletion_startsNone (context : Router.RuntimeExecutionContext)
    (outcome : Router.ExecutionAdapterResult) :
    Respects (LoopStartsNone workflowIds) (settleCompletion context outcome) := by
  unfold settleCompletion recordTaskExecution
  apply respects_bind loopStartsNone_trans (onStore_startsNone (completeItem_startsNone _ _ _))
  intro item
  apply respects_bind loopStartsNone_trans (onStore_startsNone (reconcile_startsNone _))
  intro _
  apply respects_bind loopStartsNone_trans (report_startsNone _)
  intro _
  apply respects_bind loopStartsNone_trans (onStore_startsNone (record_startsNone _))
  intro _
  exact reported_startsNone _ _

theorem settleNonCompletion_startsNone (config : RuntimeLoopConfig)
    (context : Router.RuntimeExecutionContext) (outcome : Router.ExecutionAdapterResult) :
    Respects (LoopStartsNone workflowIds) (settleNonCompletion config context outcome) := by
  unfold settleNonCompletion recordTaskExecution
  apply respects_bind loopStartsNone_trans (onStore_startsNone (blockRunningItem_startsNone _ _ _))
  intro checkpoint
  apply respects_bind loopStartsNone_trans (report_startsNone _)
  intro _
  apply respects_bind loopStartsNone_trans (onStore_startsNone (record_startsNone _))
  intro _
  split
  · exact reported_startsNone _ _
  · exact respects_pure loopStartsNone_refl _

theorem executeReleased_startsNone (service : ExecutionRuntimeLoopService) (config : RuntimeLoopConfig)
    (context : Router.RuntimeExecutionContext) :
    Respects (LoopStartsNone workflowIds) (executeReleased service config context) := by
  unfold executeReleased
  apply respects_bind loopStartsNone_trans (router_startsNone service context)
  intro outcome
  apply respects_bind loopStartsNone_trans (report_startsNone _)
  intro _
  split
  · exact settleCompletion_startsNone context outcome
  · exact settleNonCompletion_startsNone config context outcome

theorem executeSelected_startsNone (service : ExecutionRuntimeLoopService) (config : RuntimeLoopConfig)
    (selection : DispatchSelection) (candidate : DispatchCandidate) :
    Respects (LoopStartsNone workflowIds) (executeSelected service config selection candidate) := by
  have refused (context : Router.RuntimeExecutionContext) (reason : String) :
      Respects (StartsNone workflowIds) (blockPreDispatchFailure context reason) := by
    unfold blockPreDispatchFailure
    apply respects_bind startsNone_trans (record_startsNone _)
    intro _
    apply respects_bind startsNone_trans (blockRunningItem_startsNone _ _ _)
    exact fun _ => respects_pure startsNone_refl _
  unfold executeSelected
  apply respects_bind loopStartsNone_trans (respects_get loopStartsNone_refl)
  intro state
  apply respects_bind loopStartsNone_trans (respects_ofExcept loopStartsNone_refl _)
  intro context
  apply respects_bind loopStartsNone_trans (report_startsNone _)
  intro _
  apply respects_bind loopStartsNone_trans (respects_ofExcept loopStartsNone_refl _)
  intro _
  apply respects_bind loopStartsNone_trans (respects_ofExcept loopStartsNone_refl _)
  intro release
  split
  · apply respects_bind loopStartsNone_trans (onStore_startsNone (refused _ _))
    intro _
    exact reported_startsNone _ _
  · exact executeReleased_startsNone service config context

theorem settleNoSelection_startsNone (selection : DispatchSelection) :
    Respects (LoopStartsNone workflowIds) (settleNoSelection selection) := by
  have blocked (evaluation : DispatchCandidateEvaluation) (reason : String) :
      Respects (StartsNone workflowIds) (blockDispatchSelectionFailure evaluation reason) := by
    unfold blockDispatchSelectionFailure
    apply respects_bind startsNone_trans (blockDispatchSelectedItem_startsNone _ _ _ _ _)
    exact fun _ => record_startsNone _
  unfold settleNoSelection
  split
  · apply respects_bind loopStartsNone_trans (onStore_startsNone (blocked _ _))
    intro _
    exact reported_startsNone _ _
  · exact reported_startsNone _ _

end

/-! ### Dispatches -/

section

variable {scope quarantined : List String} {store : Store}

/-- No quarantined workflow in the scope offers an item. -/
def Unoffered (store : Store) (scope quarantined : List String) : Prop :=
  ∀ row ∈ store.workflows.rows, row.id ∈ quarantined → (scope = [] ∨ row.id ∈ scope) →
    ¬ Offers store.toTables row

theorem dispatchable_free {candidate : DispatchCandidate} (none : Unoffered store scope quarantined)
    (dispatchable : Dispatchable store.toTables scope candidate) : candidate.workflowId ∉ quarantined := by
  intro held
  obtain ⟨row, member, item, inside, named, -, eligible⟩ := dispatchable.eligible
  rw [named] at held
  exact none row member held (named ▸ dispatchable.inScope) ⟨item, inside, eligible⟩

theorem startNext_startsNone (none : Unoffered store scope quarantined) :
    StartsNone quarantined store (exec (startNext scope) store).2 := by
  rcases ended : exec (startNext scope) store with ⟨error | selection, after⟩
  · exact startsNone_of_same _ _ (startNext_raised ended)
  · rcases startNext_ok ended with ⟨-, same⟩ | ⟨candidate, row, item, new, -, dispatchable, named, -,
      write, -⟩
    · exact startsNone_of_same _ _ same
    · apply startsNone_of_write write
      intro held
      exact absurd (named ▸ held) (dispatchable_free none dispatchable)

theorem cycle_startsNone (service : ExecutionRuntimeLoopService) (config : RuntimeLoopConfig)
    {state : LoopState} (none : Unoffered state.store config.workflowIds quarantined) :
    StartsNone quarantined state.store (exec (Runtime.cycle service config) state).2.store := by
  have dispatched := startNext_startsNone none
  unfold Runtime.cycle
  rw [exec_bind, Runtime.onStore, exec_zoom]
  rcases ended : exec (startNext config.workflowIds) state.store with ⟨error | selection, after⟩
  · rw [ended] at dispatched
    exact dispatched
  · rw [ended] at dispatched
    apply startsNone_trans _ _ _ dispatched
    dsimp only
    split
    · exact settleNoSelection_startsNone selection { state with store := after }
    · exact executeSelected_startsNone service config selection _ { state with store := after }

end

theorem step_holds (state : QuarantineState) (operation : ShiftOperation)
    (none : NothingOffered state operation) : QuarantineHolds state operation := by
  constructor
  · intro scope selection after candidate within done selected
    obtain ⟨-, chosen⟩ := selectNext_ok done
    exact dispatchable_free (none scope within) (chosen candidate selected)
  · intro inside
    cases operation with
    | contain surroundings disk workflowId snapshot => exact contain_startsNone surroundings disk workflowId snapshot _
    | startNext workflowIds => exact startNext_startsNone (none workflowIds rfl)
    | prepare service config => exact prepareWorkflowPlans_startsNone service.planning config.workflowIds _
    | cycle service config => exact cycle_startsNone service config (none config.workflowIds rfl)
    | elsewhere change => exact inside.elim

/-! ### What a dispatch of a quarantined workflow alone selects -/

theorem auditSelection_returns (selection : DispatchSelection) (result : String) :
    Action.Returns (auditSelection selection result) := by
  intro store
  unfold auditSelection dispatchAudit
  split <;> exact ⟨(), _, rfl⟩

theorem rows_of_key {rows : List PersistentWorkflowRow} (unique : (rows.map Keyed.key).Nodup)
    {row : PersistentWorkflowRow} (member : row ∈ rows) :
    rows.filter (fun other => decide (Keyed.key other = Keyed.key row)) = [row] := by
  induction rows with
  | nil => cases member
  | cons first rest ih =>
    rw [List.map_cons, List.nodup_cons] at unique
    rcases List.mem_cons.mp member with same | later
    · have others : rest.filter (fun other => decide (Keyed.key other = Keyed.key row)) = [] := by
        rw [List.filter_eq_nil_iff]
        intro other listed equal
        apply unique.1
        rw [← same, ← of_decide_eq_true equal]
        exact List.mem_map_of_mem listed
      rw [List.filter_cons_of_pos (by simp [same]), others, same]
    · have apart : Keyed.key first ≠ Keyed.key row := by
        intro equal
        apply unique.1
        rw [equal]
        exact List.mem_map_of_mem later
      rw [List.filter_cons_of_neg (by simpa using apart)]
      exact ih unique.2 later

theorem workflowBundles_alone {tables : Tables} {row : PersistentWorkflowRow}
    (member : row ∈ tables.workflows.rows) (busy : row.taskBacklog ≠ []) :
    workflowBundles tables [row.id] = .ok [bundleOf tables row] := by
  have only : tables.workflows.rows.filter (fun other => [row.id].isEmpty || other.id ∈ [row.id]) = [row] := by
    have same : (fun other : PersistentWorkflowRow => [row.id].isEmpty || decide (other.id ∈ [row.id])) =
        fun other => decide (Keyed.key other = Keyed.key row) := by
      funext other
      simp [Keyed.key]
    rw [same]
    exact rows_of_key tables.workflows.unique member
  unfold workflowBundles
  simp only [only]
  have sorted : sortedBy rowKey [row] = [row] := rfl
  rw [sorted]
  simp [busy]

theorem selectNext_offered {store : Store} {row : PersistentWorkflowRow}
    {found : List DispatchCandidateEvaluation} (member : row ∈ store.workflows.rows)
    (idle : Idle row) (readable : evaluations store.toTables [bundleOf store.toTables row] = .ok found)
    (offers : Offers store.toTables row) :
    ∃ selection after candidate, exec (Runtime.selectNext [row.id]) store = (.ok selection, after) ∧
      selection.selected = some candidate ∧ candidate.workflowId = row.id := by
  obtain ⟨item, inside, unobjected⟩ := offers
  obtain ⟨present, origin⟩ := evaluations_ok readable
  have own : ∀ other ∈ found, other.candidate.workflowId = row.id ∧ other.candidate.state ≠ .running := by
    intro other listed
    obtain ⟨bundle, bundled, held, kept, read⟩ := origin other listed
    rw [List.mem_singleton.mp bundled] at kept read
    obtain ⟨stated, named, -⟩ := evaluation_ok read
    refine ⟨named, ?_⟩
    intro running
    apply idle held kept
    unfold Running
    cases state : queueState? held with
    | none =>
      rw [state, running] at stated
      cases stated
    | some known =>
      rw [state, running] at stated
      rw [stated]
      rfl
  have quiet : found.filter (fun other => other.candidate.state = .running) = [] := by
    rw [List.filter_eq_nil_iff]
    intro other listed
    simpa using (own other listed).2
  obtain ⟨chosen, listed, judged⟩ := present _ (List.mem_singleton_self _) item inside
  have eligible : chosen ∈ found.filter (·.eligible) := by
    rw [List.mem_filter]
    refine ⟨listed, ?_⟩
    obtain ⟨candidate, -, judged⟩ := except_bind_ok judged
    obtain ⟨reasons, known, judged⟩ := except_bind_ok judged
    rw [unobjected] at known
    cases known
    cases judged
    rfl
  have bundles := workflowBundles_alone member (List.ne_nil_of_mem inside)
  unfold Runtime.selectNext dispatchAudit
  rw [exec_bind_of_ok (Op.exec_nextId _ _), exec_get_bind, Store.issue_tables, bundles,
    exec_bind_of_ok (exec_ofExcept _ _), exec_bind_of_ok (Op.exec_record _ _),
    exec_bind_of_ok (Op.exec_record _ _), readable,
    exec_bind_of_ok (exec_ofExcept _ _), quiet]
  dsimp only
  rw [exec_bind_of_ok (Op.exec_record _ _), exec_get_bind]
  generalize Store.record _ _ = last
  generalize selected : chooseSelection _ last.audits found = selection
  obtain ⟨⟨⟩, after, audited⟩ := auditSelection_returns selection
    (if selection.selected.isSome then "SELECTED" else "NO_ELIGIBLE_WORK") last
  rw [exec_bind_of_ok audited]
  have ordered : orderedCandidates last.audits (found.filter (·.eligible)) ≠ [] := by
    obtain ⟨other, known, -⟩ := @ordered_of_mem last.audits _ chosen eligible
    exact List.ne_nil_of_mem known
  obtain ⟨first, others, split⟩ := List.exists_cons_of_ne_nil ordered
  have leads : selection.selected = some first.candidate := by
    rw [← selected]
    unfold chooseSelection
    simp only [split]
  refine ⟨selection, after, first.candidate, rfl, leads, ?_⟩
  obtain ⟨source, held, -, same⟩ := chooseSelection_same (selected ▸ leads)
  rw [same]
  exact (own source held).1

/-- The workflow is at rest, the dispatcher can read its backlog, and an item of it is offered. -/
structure CanStart (tables : Tables) (row : PersistentWorkflowRow) : Prop where
  idle : Idle row
  readable : ∃ found, evaluations tables [bundleOf tables row] = .ok found
  offers : Offers tables row

/-- A run in which no dispatch comes to a quarantined workflow that offers an item keeps the
quarantine; and from a quarantined workflow that can start, the next dispatch of it alone selects. -/
theorem quarantine_holds_unless_offered (start : QuarantineState) (operations : List ShiftOperation) :
    (Meets step NothingOffered start operations → Meets step QuarantineHolds start operations) ∧
    ∀ state row, state = Run.run step start operations → row ∈ state.loop.store.workflows.rows →
      row.id ∈ state.quarantined → CanStart state.loop.store.toTables row →
      ¬ QuarantineHolds state (.startNext [row.id]) := by
  constructor
  · apply Run.meets_guarded step NothingOffered QuarantineHolds (fun _ => True)
    · exact fun _ _ _ _ => trivial
    · exact fun state operation _ none => step_holds state operation none
    · trivial
  · intro state row _ member held able holds
    obtain ⟨found, readable⟩ := able.readable
    obtain ⟨selection, after, candidate, done, selected, named⟩ :=
      selectNext_offered member able.idle readable able.offers
    exact holds.selected [row.id] selection after candidate rfl done selected (named ▸ held)

/-! ### A quarantined workflow that is dispatched -/

/-- What the supervisor saw before a task that leaves a file in its candidate workspace. -/
def failedSnapshot : ContainmentSnapshot where
  workflowId := "LWORK_000001"
  canonicalRepositoryPath := "/repo"
  candidateWorkspacePath := "/work"
  baselineCommit := some "base"
  canonicalHead := "base"
  canonicalTrackedPaths := []
  canonicalStagedPaths := []
  protectedUntrackedHashes := [("a.md", "A")]
  candidateHead := "base"
  candidateChangedPaths := []

def failedThenReady : List Item :=
  [[("item_id", .str "first"), ("state", .str "WAITING_HUMAN")],
    [("item_id", .str "second"), ("state", .str "READY")]]

def quarantining : ShiftOperation :=
  .contain littering.surroundings (twoWorkspaces (AList.insert "b.md" [66] ∅)) "LWORK_000001"
    (some failedSnapshot)

def quarantinedWork : QuarantineState :=
  step { loop := { store := dispatchableStore failedThenReady, workspaces := fun _ => ∅ } } quarantining

/-- A quarantined workflow is selected for its next item, which then runs. -/
theorem quarantined_workflow_dispatched :
    quarantinedWork.quarantined = ["LWORK_000001"] ∧
    lifecycleOf quarantinedWork.loop.store "LWORK_000001" = some .blocked ∧
    (exec (startNext []) quarantinedWork.loop.store).1.toOption.map (fun selection =>
      (selection.selected.map (fun candidate => (candidate.workflowId, candidate.itemId)), selection.started)) =
      some (some ("LWORK_000001", "second"), true) ∧
    ¬ QuarantineHolds quarantinedWork (.startNext []) := by
  have quarantined : quarantinedWork.quarantined = ["LWORK_000001"] := by decide +kernel
  have dispatched : (exec (Runtime.selectNext []) quarantinedWork.loop.store).1.toOption.map (fun selection =>
      selection.selected.map (fun candidate => candidate.workflowId)) = some (some "LWORK_000001") := by
    decide +kernel
  refine ⟨quarantined, by decide +kernel, by decide +kernel, ?_⟩
  intro holds
  rcases ended : exec (Runtime.selectNext []) quarantinedWork.loop.store with ⟨error | selection, after⟩
  · rw [ended] at dispatched
    cases dispatched
  · rw [ended] at dispatched
    obtain ⟨candidate, selected, named⟩ := Option.map_eq_some_iff.mp (Option.some.inj dispatched)
    apply holds.selected [] selection after candidate rfl ended selected
    rw [quarantined, named]
    exact List.mem_cons_self

end Lucius.NightShift
