import Lucius.Portfolio.FeedOnce
import Lucius.Runtime.DispatchPolicy

/-! Whether work waits for the work it depends on. The feeder reads the dependencies of an item
and drops them: each piece of work becomes a workflow of its own, whose one queue item depends
on nothing. So only work whose dependencies were finished when it was fed is sure to wait. -/

namespace Lucius.Portfolio

open Lucius.Action Queue Lucius.Runtime

/-- A package that has a workflow, with those of its declared dependencies that name work. -/
structure FedPackage where
  workflowId : String
  sourceId : String
  dependencies : List String
  deriving DecidableEq, Repr

/-- The packages are those fed so far. -/
structure BacklogState where
  store : Store
  fed : List FedPackage := []

/-- The ids of the work a feeder knows. -/
def workIds (feeder : DarwinBacklogFeeder) : List String :=
  feeder.backlog.map (fun item => sourceItemId (rawData item)) ++
    (CanonicalRoadmapAdapter.discoverWorkPackages feeder []).map (·.sourceRecordId)

/-- Of what is declared, what names work that is known or was fed. -/
def namedWork (state : BacklogState) (call : FeedCall) (declared : List String) : List String :=
  declared.filter (fun dependency => decide
    (dependency ∈ workIds call.feeder ∨ dependency ∈ state.fed.map FedPackage.sourceId))

/-- The sources of what a call takes, in the order of its records. -/
def declaredWork (selected : List NormalizedTaskEnvelope) (batch : List NormalizedWorkPackage) :
    List (String × List String) :=
  selected.map (fun envelope => (envelope.sourceItemId, envelope.dependencies)) ++
    batch.map (fun work => (work.sourceRecordId, work.dependencies))

def fedPackages (state : BacklogState) (call : FeedCall) (declared : List (String × List String))
    (records : List FeedRecord) : List FedPackage :=
  (declared.zip records).filterMap (fun entry => entry.2.workflowId.map
    (fun workflowId => ⟨workflowId, entry.1.1, namedWork state call entry.1.2⟩))

inductive BacklogOperation where
  | feed (call : FeedCall)
  | dispatch (workflowIds : List String)
  | completeItem (workflowId itemId : String) (completedSubsteps : List String)
  | blockRunningItem (workflowId itemId : String) (request : Queue.BlockRequest)
  | resolveBlocker (workflowId itemId checkpointId : String) (expectedItemVersion : Int)
      (resolutionEvent : String)

def feedBacklog (state : BacklogState) (call : FeedCall) : BacklogState :=
  match call.plan state.store.toTables, call.apply state.store with
  | .ok (selected, batch), (.ok records, after) =>
    ⟨after, state.fed ++ fedPackages state call (declaredWork selected batch) records⟩
  | _, _ => state

def backlogStep (state : BacklogState) : BacklogOperation → BacklogState
  | .feed call => feedBacklog state call
  | .dispatch workflowIds =>
    { state with store := transact (Runtime.startNext workflowIds) state.store }
  | .completeItem workflowId itemId substeps =>
    { state with store := transact (Queue.completeItem workflowId itemId substeps) state.store }
  | .blockRunningItem workflowId itemId request =>
    { state with
      store := transact (Queue.blockRunningItem workflowId itemId request) state.store }
  | .resolveBlocker workflowId itemId checkpointId version event =>
    { state with
      store := transact (Queue.resolveBlocker workflowId itemId checkpointId version event)
        state.store }

/-- The one item of a workflow is COMPLETED. -/
def WorkflowCompleted (tables : Tables) (workflowId : String) : Prop :=
  ∃ row ∈ tables.workflows.rows, row.id = workflowId ∧
    ∃ item, row.taskBacklog = [item] ∧ queueState? item = some .completed

/-- Work of a source id was fed and is COMPLETED. -/
def WorkCompleted (state : BacklogState) (sourceId : String) : Prop :=
  ∃ package ∈ state.fed, package.sourceId = sourceId ∧
    WorkflowCompleted state.store.toTables package.workflowId

/-- A step moves an item of fed work to RUNNING only when the work it depends on is COMPLETED. -/
def WaitsForDependencies (state : BacklogState) (operation : BacklogOperation) : Prop :=
  ∀ package ∈ state.fed, ∀ row place item,
    MovesToRunning state.store (backlogStep state operation).store row place item →
      row.id = package.workflowId → ∀ dependency ∈ package.dependencies, WorkCompleted state dependency

/-- What a call feeds depends on nothing that is unfinished. -/
def FeedsFinished (state : BacklogState) : BacklogOperation → Prop
  | .feed call => ∀ selected batch, call.plan state.store.toTables = .ok (selected, batch) →
      ∀ work ∈ declaredWork selected batch, ∀ dependency ∈ namedWork state call work.2,
        WorkCompleted state dependency
  | _ => True

/-! ### Completed work stays completed -/

theorem completed_of_itemWrite {before after : Tables} {row : PersistentWorkflowRow} {item new : Item}
    {workflowId : String} (write : ItemWrite before after row item new)
    (kept : row.taskBacklog = [item] → queueState? item = some .completed →
      queueState? new = some .completed)
    (completed : WorkflowCompleted before workflowId) : WorkflowCompleted after workflowId := by
  obtain ⟨other, member, named, held, backlog, stated⟩ := completed
  obtain ⟨wanted, written, found, bound, replaced, tables⟩ := write.effect
  rw [tables]
  by_cases same : row.id = other.id
  · have is : row = other := Table.row_unique (Table.get?_mem write.present) member same
    rw [is, backlog] at found replaced
    have inside : item = held := by
      obtain ⟨front, back, split, -⟩ := findItem_split found
      have listed : item ∈ [held] := by
        rw [split]
        exact List.mem_append_right _ List.mem_cons_self
      exact List.mem_singleton.mp listed
    rw [inside] at found
    have single : written.taskBacklog = [new] := by
      rw [replaced]
      obtain ⟨front, back, split, -, put⟩ := findItem_split found
      rw [put]
      cases front with
      | nil =>
        rw [List.nil_append, List.cons.injEq] at split
        rw [← split.2, List.nil_append]
      | cons first rest => simp at split
    have known : before.workflows.get? written.id = some row := by
      rw [bound.id]
      exact write.present
    have present : written ∈ (before.workflows.put written).rows :=
      Table.get?_mem (Table.get?_put_same known rfl)
    refine ⟨written, present, (bound.id.trans same).trans named, new, single, ?_⟩
    exact kept (is ▸ inside ▸ backlog) (inside ▸ stated)
  · refine ⟨other, Table.mem_put_other member ?_, named, held, backlog, stated⟩
    intro equal
    exact same ((show other.id = written.id from equal).trans bound.id).symm

theorem state_of_queueState {item : Item} {target : QueueWorkItemState}
    (stated : queueState? item = some target) : Queue.state item = .ok target := by
  unfold queueState? at stated
  unfold Queue.state
  split at stated
  · cases stated
  · next present =>
      have same : item.getOr "state" (.str "READY") = item.get "state" := by
        unfold Dict.getOr Dict.get
        cases listed : item.lookup "state" with
        | some value => rfl
        | none =>
          rw [Dict.get, listed] at present
          exact absurd rfl present
      dsimp only
      rw [same, stated]

theorem not_completed_of_state {item : Item} {current : QueueWorkItemState}
    (stated : Queue.state item = .ok current) (other : current ≠ .completed) :
    queueState? item ≠ some .completed := by
  intro completed
  have same := state_of_queueState completed
  rw [stated] at same
  exact other (Except.ok.inj same)

theorem completed_of_transact {α : Type} {action : Op α} {store : Store} {workflowId : String}
    (completed : WorkflowCompleted store.toTables workflowId)
    (kept : ∀ result after, exec action store = (.ok result, after) →
      WorkflowCompleted after.toTables workflowId) :
    WorkflowCompleted (transact action store).toTables workflowId := by
  rcases outcome : exec action store with ⟨_ | result, after⟩
  · rw [transact_error outcome]
    exact completed
  · rw [transact_ok outcome]
    exact kept result after outcome

theorem dispatch_completed {workflowIds : List String} {store : Store} {workflowId : String}
    (completed : WorkflowCompleted store.toTables workflowId) :
    WorkflowCompleted (transact (Runtime.startNext workflowIds) store).toTables workflowId := by
  refine completed_of_transact completed fun selection after done => ?_
  rcases Runtime.startNext_ok done with ⟨-, same⟩ |
    ⟨candidate, row, item, new, -, dispatchable, sameRow, sameItem, write, -⟩
  · rw [same]
    exact completed
  · refine completed_of_itemWrite write (fun backlog stated => ?_) completed
    obtain ⟨other, member, chosen, inside, named, -, judged⟩ := dispatchable.eligible
    have is : other = row :=
      Table.row_unique member (Table.get?_mem write.present) (named.symm.trans sameRow)
    rw [is, backlog, List.mem_singleton] at inside
    rw [inside] at judged
    rcases (Runtime.unobjectionable judged).state with ready | resumed
    · rw [ready] at stated
      cases stated
    · rw [resumed] at stated
      cases stated

theorem feedBacklog_cases (state : BacklogState) (call : FeedCall) :
    feedBacklog state call = state ∨ ∃ records after selected batch own others,
      call.plan state.store.toTables = .ok (selected, batch) ∧
      CallFed call.feeder call.projectId call.maxItems state.store.toTables after.toTables records
        selected batch own others ∧
      feedBacklog state call =
        ⟨after, state.fed ++ fedPackages state call (declaredWork selected batch) records⟩ := by
  unfold feedBacklog
  rcases applied : call.apply state.store with ⟨error | records, after⟩
  · refine .inl ?_
    split
    · next same => cases same
    · rfl
  · obtain ⟨selected, batch, own, others, fed⟩ := feedIntoQueue_ok applied
    have planned : call.plan state.store.toTables = .ok (selected, batch) := fed.plan
    rw [planned]
    exact .inr ⟨records, after, selected, batch, own, others, rfl, fed, rfl⟩

theorem feeds_completed {before after : Tables} {entries : List FedEntry} {workflowId : String}
    (feeds : Feeds before after entries) (completed : WorkflowCompleted before workflowId) :
    WorkflowCompleted after workflowId := by
  obtain ⟨row, member, named, item, backlog, stated⟩ := completed
  obtain ⟨later, present, same⟩ := feeds.kept member
  refine ⟨later, present, ?_, item, ?_, stated⟩
  · exact (congrArg WorkflowContent.id same).trans named
  · exact (congrArg WorkflowContent.taskBacklog same).trans backlog

theorem backlogStep_completed (state : BacklogState) (operation : BacklogOperation) {sourceId : String}
    (completed : WorkCompleted state sourceId) :
    WorkCompleted (backlogStep state operation) sourceId := by
  obtain ⟨package, member, named, finished⟩ := completed
  cases operation with
  | feed call =>
    rcases feedBacklog_cases state call with same |
      ⟨records, after, selected, batch, own, others, -, fed, is⟩
    · rw [backlogStep, same]
      exact ⟨package, member, named, finished⟩
    · rw [backlogStep, is]
      exact ⟨package, List.mem_append_left _ member, named, feeds_completed fed.feeds finished⟩
  | dispatch workflowIds => exact ⟨package, member, named, dispatch_completed finished⟩
  | completeItem workflowId itemId substeps =>
    refine ⟨package, member, named, completed_of_transact finished fun result after done => ?_⟩
    obtain ⟨row, _, item, new, -, -, completes⟩ := Queue.completeItem_writes done
    exact completed_of_itemWrite completes.write.itemWrite (fun _ _ => completes.moved.stated) finished
  | blockRunningItem workflowId itemId request =>
    refine ⟨package, member, named, completed_of_transact finished fun result after done => ?_⟩
    obtain ⟨row, _, item, new, -, -, running, blocks⟩ := Queue.blockRunningItem_writes done
    refine completed_of_itemWrite blocks.write.itemWrite (fun _ stated => ?_) finished
    exact absurd stated (not_completed_of_state running (by decide))
  | resolveBlocker workflowId itemId checkpointId version event =>
    refine ⟨package, member, named, completed_of_transact finished fun result after done => ?_⟩
    obtain ⟨row, _, item, new, -, -, -, edits⟩ := Queue.resolveBlocker_writes done
    obtain ⟨current, blocked, stated⟩ := edits.blocked
    refine completed_of_itemWrite edits.write.itemWrite (fun _ completed => ?_) finished
    refine absurd completed (not_completed_of_state stated ?_)
    intro same
    rw [same] at blocked
    exact absurd blocked (by decide)

/-! ### Every run -/

/-- The work that fed work depends on is completed. -/
def Finished (state : BacklogState) : Prop :=
  ∀ package ∈ state.fed, ∀ dependency ∈ package.dependencies, WorkCompleted state dependency

theorem finished_step (state : BacklogState) (operation : BacklogOperation) (finished : Finished state)
    (feeds : FeedsFinished state operation) : Finished (backlogStep state operation) := by
  intro package member dependency declared
  have old (known : package ∈ state.fed) : WorkCompleted (backlogStep state operation) dependency :=
    backlogStep_completed state operation (finished package known dependency declared)
  cases operation with
  | feed call =>
    rcases feedBacklog_cases state call with same |
      ⟨records, after, selected, batch, own, others, planned, -, is⟩
    · rw [backlogStep, same] at member
      exact old member
    · rw [backlogStep, is] at member
      rcases List.mem_append.mp member with known | new
      · exact old known
      · obtain ⟨entry, listed, made⟩ := List.mem_filterMap.mp new
        obtain ⟨workflowId, -, is⟩ := Option.map_eq_some_iff.mp made
        have work : entry.1 ∈ declaredWork selected batch := (List.of_mem_zip listed).1
        rw [← is] at declared
        exact backlogStep_completed state _ (feeds selected batch planned entry.1 work dependency declared)
  | dispatch workflowIds => exact old member
  | completeItem workflowId itemId substeps => exact old member
  | blockRunningItem workflowId itemId request => exact old member
  | resolveBlocker workflowId itemId checkpointId version event => exact old member

/-- In a run whose calls feed only work that depends on nothing unfinished, no item of fed work
moves to RUNNING before the work it depends on is COMPLETED. -/
theorem dependencies_survive (start : Store) (operations : List BacklogOperation)
    (meets : Run.Meets backlogStep FeedsFinished ⟨start, []⟩ operations) :
    Run.Meets backlogStep WaitsForDependencies ⟨start, []⟩ operations := by
  refine Run.meets_guarded backlogStep FeedsFinished WaitsForDependencies Finished finished_step ?_
    ⟨start, []⟩ operations (fun package member => absurd member List.not_mem_nil) meets
  intro state operation finished _ package member row place item _ _ dependency declared
  exact finished package member dependency declared

/-! ### A dependency that is dropped -/

def backlogItem (itemId priority : String) (dependencies : List String) : Json :=
  .obj [("item_id", .str itemId), ("title", .str "Compare venues"),
    ("objective", .str "Compare the fees of the venues"), ("status", .str "READY"),
    ("priority", .str priority), ("dependencies", Json.ofTexts dependencies)]

def backlogCall (backlog : List Json) : FeedCall where
  feeder := { customItems := true, backlog := backlog }
  adapter := { gates := fun _ _ => .ok [] }

/-- A call that feeds work which depends on nothing, and a dispatch of it. -/
theorem dependencies_survive_independent :
    Run.Meets backlogStep WaitsForDependencies ⟨{}, []⟩
      [.feed (backlogCall [backlogItem "MON-001" "P2" []]), .dispatch []] := by
  refine dependencies_survive {} _ ⟨?_, trivial, trivial⟩
  intro selected batch planned work member dependency named
  have declared : ((backlogCall [backlogItem "MON-001" "P2" []]).plan {}).toOption.map
      (fun taken => declaredWork taken.1 taken.2) = some [("MON-001", [])] := by decide +kernel
  have plan : (backlogCall [backlogItem "MON-001" "P2" []]).plan {} = .ok (selected, batch) := planned
  rw [plan] at declared
  have works : declaredWork selected batch = [("MON-001", [])] := Option.some.inj declared
  rw [works, List.mem_singleton] at member
  rw [member] at named
  cases named

theorem moves_of_states {before after : Store} {workflowId : String}
    {others later : List (String × List (Option QueueWorkItemState))}
    (was : before.workflows.rows.map (fun row => (row.id, row.taskBacklog.map queueState?)) =
      (workflowId, [some .ready]) :: others)
    (is : after.workflows.rows.map (fun row => (row.id, row.taskBacklog.map queueState?)) =
      (workflowId, [some .running]) :: later) :
    ∃ row item, row.id = workflowId ∧ MovesToRunning before after row 0 item := by
  have first {rows : List PersistentWorkflowRow} {state : QueueWorkItemState}
      {rest : List (String × List (Option QueueWorkItemState))}
      (same : rows.map (fun row => (row.id, row.taskBacklog.map queueState?)) =
        (workflowId, [some state]) :: rest) :
      ∃ row ∈ rows, row.id = workflowId ∧ ∃ item, row.taskBacklog = [item] ∧
        queueState? item = some state := by
    cases rows with
    | nil => cases same
    | cons row tail =>
      rw [List.map_cons, List.cons.injEq, Prod.mk.injEq] at same
      obtain ⟨⟨named, states⟩, -⟩ := same
      obtain ⟨item, backlog, stated⟩ := List.map_eq_singleton_iff.mp states
      exact ⟨row, List.mem_cons_self, named, item, backlog, stated⟩
  obtain ⟨row, member, named, item, backlog, ready⟩ := first was
  obtain ⟨written, present, same, new, after, running⟩ := first is
  refine ⟨row, item, named, member, ?_, ?_, written, present, same.trans named.symm, new, ?_, running⟩
  · rw [backlog]
    rfl
  · intro already
    rw [Queue.Running, ready] at already
    cases already
  · rw [after]
    rfl

/-- The work that depends on the other one has the higher priority, and is dispatched first. -/
theorem dependency_dropped :
    ¬ ∀ (start : Store) (operations : List BacklogOperation),
      Run.Meets backlogStep WaitsForDependencies ⟨start, []⟩ operations := by
  intro always
  let call := backlogCall [backlogItem "MON-001" "P2" [], backlogItem "MON-002" "P0" ["MON-001"]]
  let state := backlogStep ⟨{}, []⟩ (.feed call)
  have fed : state.fed = [⟨"LWORK_000001", "MON-002", ["MON-001"]⟩, ⟨"LWORK_000002", "MON-001", []⟩] := by
    decide +kernel
  have was : state.store.workflows.rows.map (fun row => (row.id, row.taskBacklog.map queueState?)) =
      [("LWORK_000001", [some .ready]), ("LWORK_000002", [some .ready])] := by decide +kernel
  have is : (backlogStep state (.dispatch [])).store.workflows.rows.map
      (fun row => (row.id, row.taskBacklog.map queueState?)) =
      [("LWORK_000001", [some .running]), ("LWORK_000002", [some .ready])] := by decide +kernel
  have waits : WaitsForDependencies state (.dispatch []) := (always {} [.feed call, .dispatch []]).2.1
  obtain ⟨row, item, named, moves⟩ := moves_of_states was is
  obtain ⟨package, member, source, finished⟩ := waits ⟨"LWORK_000001", "MON-002", ["MON-001"]⟩
    (by rw [fed]; exact List.mem_cons_self) row 0 item moves named "MON-001" List.mem_cons_self
  obtain ⟨other, present, same, held, backlog, completed⟩ := finished
  have stated : (other.id, other.taskBacklog.map queueState?) ∈
      [("LWORK_000001", [some QueueWorkItemState.ready]), ("LWORK_000002", [some .ready])] := by
    rw [← was]
    exact List.mem_map_of_mem present
  rw [backlog, List.map_singleton, completed] at stated
  simp at stated

end Lucius.Portfolio
