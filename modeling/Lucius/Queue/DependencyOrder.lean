import Lucius.Queue.BlockResolution

/-! The order in which the items of a workflow start and complete.

Each of the ways of starting an item asks that all it depends on be completed. A completion
does not ask, and it also takes an item that was blocked before it ever ran. -/

namespace Lucius.Queue.DependencyOrder

open Lucius.Action Lucius.Runtime ReachableStates BlockResolution

variable {row : PersistentWorkflowRow} {wanted workflowId : String} {item new : Item}
  {target : QueueWorkItemState} {before after store start : Store} {ids : Set String}
  {operations : List Operation}

/-- The operations of the queue and of the dispatcher. -/
inductive Operation where
  | queue (operation : QueueOperation)
  | startSelectedGlobalItem (selection : GlobalQueueSelection) (workflowIds : List String)
  | dispatch (workflowIds : List String)

/-- What a call leaves, whether it returns or raises. -/
def step (store : Store) : Operation → Store
  | .queue operation => ReachableStates.step store operation
  | .startSelectedGlobalItem selection workflowIds =>
    (exec (startSelectedGlobalItem selection workflowIds) store).2
  | .dispatch workflowIds => (exec (Runtime.startNext workflowIds) store).2

/-- The item of the identifier comes to be in a state it was not in. -/
def Becomes (target : QueueWorkItemState) (before after : Store) (workflowId wanted : String) : Prop :=
  ∃ old new, itemAt before.workflows workflowId wanted = some old ∧
    itemAt after.workflows workflowId wanted = some new ∧
    queueState? old ≠ some target ∧ queueState? new = some target

/-- Every identifier the item lists is that of a completed item of its workflow. -/
def DependenciesMet (store : Store) (workflowId wanted : String) : Prop :=
  ∃ row item, store.workflows.get? workflowId = some row ∧ findItem row.taskBacklog wanted = .ok item ∧
    DependenciesCompleted row item

/-- An item of the one identifier lists the other. -/
def DependsOn (backlog : List Item) (wanted needed : String) : Prop :=
  ∃ item ∈ backlog, itemId item = wanted ∧
    ∃ names, (item.getOr "dependencies" (.arr [])).pyIter = .ok names ∧
      ∃ name ∈ names, name.pyStr = needed

/-- Each of the identifiers depends on another of them, as those on a cycle do. -/
def Circular (row : PersistentWorkflowRow) (ids : Set String) : Prop :=
  ∀ id ∈ ids, ∃ next ∈ ids, DependsOn row.taskBacklog id next

def NoneCompleted (row : PersistentWorkflowRow) (ids : Set String) : Prop :=
  ∀ item ∈ row.taskBacklog, itemId item ∈ ids → ¬ Completed item

/-- What holds of every operation of a run and those before it. -/
def EachStep (operations : List Operation) (holds : List Operation → Operation → Prop) : Prop :=
  ∀ front operation back, operations = front ++ operation :: back → holds front operation

/-- The operation after the others brings the item to the state. -/
def Moves (target : QueueWorkItemState) (start : Store) (front : List Operation) (operation : Operation)
    (workflowId wanted : String) : Prop :=
  Becomes target (Run.run step start front) (step (Run.run step start front) operation) workflowId wanted

def MetAfter (start : Store) (front : List Operation) (workflowId wanted : String) : Prop :=
  DependenciesMet (Run.run step start front) workflowId wanted

/-- One of the operations of a run started the item. -/
def StartedIn (start : Store) (operations : List Operation) (workflowId wanted : String) : Prop :=
  ∃ front operation back, operations = front ++ operation :: back ∧
    Moves .running start front operation workflowId wanted

/-- An item starts only when all it depends on is completed. -/
def StartsMet (start : Store) (operations : List Operation) : Prop :=
  EachStep operations fun front operation => ∀ workflowId wanted,
    Moves .running start front operation workflowId wanted → MetAfter start front workflowId wanted

/-- An item completes only when all it depends on is completed. -/
def CompletesMet (start : Store) (operations : List Operation) : Prop :=
  EachStep operations fun front operation => ∀ workflowId wanted,
    Moves .completed start front operation workflowId wanted → MetAfter start front workflowId wanted

def NeverStarts (start : Store) (operations : List Operation) (workflowId : String) (ids : Set String) :
    Prop :=
  EachStep operations fun front operation => ∀ wanted ∈ ids,
    ¬ Moves .running start front operation workflowId wanted

/-- Items that depend on each other in a circle never start. -/
def CirclesRest (start : Store) (operations : List Operation) : Prop :=
  ∀ row ∈ start.workflows.rows, ∀ ids, Circular row ids → NoneCompleted row ids →
    NeverStarts start operations row.id ids

/-- Those of the items that the run completes, it has started before. -/
def CompletesStarted (start : Store) (operations : List Operation) (workflowId : String)
    (ids : Set String) : Prop :=
  EachStep operations fun front operation => ∀ wanted ∈ ids,
    Moves .completed start front operation workflowId wanted → StartedIn start front workflowId wanted

def Distinct (store : Store) : Prop :=
  ∀ row ∈ store.workflows.rows, (row.taskBacklog.map itemId).Nodup

instance : DecidablePred Distinct := fun store =>
  inferInstanceAs (Decidable (∀ row ∈ store.workflows.rows, (row.taskBacklog.map itemId).Nodup))

theorem completed_of_cleared
    (cleared : Cleared row wanted) (found : findItem row.taskBacklog wanted = .ok item) :
    DependenciesCompleted row item := by
  obtain ⟨parsed, read, selected, known, named, complete⟩ := cleared
  obtain ⟨-, origin, distinct⟩ := globalItems_ok read
  obtain ⟨other, same, source, inside, parse⟩ := origin selected known
  obtain rfl := List.mem_singleton.mp same
  obtain ⟨names, parses, readAs⟩ := Runtime.readAs_of_parse parse
  obtain ⟨front, back, split, foundNamed, -⟩ := findItem_split found
  have keys : itemId source = itemId item := by
    rw [foundNamed, ← named, readAs.itemId]
  have equal : source = item :=
    List.inj_on_of_nodup_map (distinct other List.mem_cons_self) inside (by simp [split]) keys
  subst equal
  refine ⟨names, parses.dependencies, ?_⟩
  intro name member
  have listed : name.pyStr ∈ selected.dependencies := by
    rw [readAs.dependencies]
    exact List.mem_map_of_mem member
  unfold globalDependenciesComplete at complete
  have among := of_decide_eq_true (List.all_eq_true.mp complete _ listed)
  obtain ⟨candidate, inside, candidateNamed⟩ := List.mem_map.mp among
  simp only [List.mem_filter, decide_eq_true_eq] at inside
  obtain ⟨candidateKnown, -, stated⟩ := inside
  obtain ⟨again, only, needed, held, parsedNeeded⟩ := origin candidate candidateKnown
  obtain rfl := List.mem_singleton.mp only
  obtain ⟨neededStated, neededNamed, -⟩ := globalItem_ok parsedNeeded
  exact ⟨needed, held, neededNamed.symm.trans candidateNamed, neededStated.symm.trans stated⟩

/-- What no operation takes back of an item. -/
structure Kept (old new : Item) : Prop where
  named : itemId new = itemId old
  needs : SameNeeds old new
  completed : Completed old → Completed new

/-- The effects of an operation on the backlogs. -/
inductive Effect (before after : Store) : Prop where
  | kept (same : after.workflows = before.workflows)
  | wrote (row : PersistentWorkflowRow) (item new : Item)
      (write : ItemWrite before.toTables after.toTables row item new) (kept : Kept item new)
      (checked : Running new → ¬ Running item → DependenciesCompleted row item)

theorem kept_of_moved (moved : Moved item new target)
    (needs : SameNeeds item new) (unfinished : ¬ Completed item) : Kept item new :=
  ⟨moved.named, needs, fun completed => absurd completed unfinished⟩

theorem not_completed_of_eligible (eligible : isEligibleState (queueState? item) = true) :
    ¬ Completed item := by
  intro completed
  rw [completed] at eligible
  revert eligible
  decide

theorem started_effect {written : PersistentWorkflowRow}
    (starts : Starts before.toTables after.toTables row written item new) : Effect before after := by
  obtain ⟨wanted, found, -⟩ := starts.write.replaced
  obtain ⟨_, _, -, named, -⟩ := findItem_split found
  refine .wrote row item new starts.write.itemWrite
    (kept_of_moved starts.moved starts.needs (not_completed_of_eligible starts.eligible)) ?_
  intro _ _
  exact completed_of_cleared (named ▸ starts.cleared) found

theorem rested_effect {written : PersistentWorkflowRow}
    (write : QueueWrite before.toTables after.toTables row written item new) (kept : Kept item new)
    (rests : Running new → Running item) : Effect before after :=
  .wrote row item new write.itemWrite kept fun running idle => absurd (rests running) idle

theorem effect_of_ends {α : Type} {action : Op α}
    (raised : Action.OnRaise SameTables action)
    (returned : ∀ result after, exec action store = (.ok result, after) → Effect store after) :
    Effect store (exec action store).2 := by
  rcases ended : exec action store with ⟨error | result, after⟩
  · have same : SameTables store after := raised store error after ended
    exact .kept (congrArg Tables.workflows same)
  · exact returned result after ended

/-- Without a second item of the identifier the dispatcher starts the item it has judged. -/
theorem dispatched_effect {workflowIds : List String} {selection : Runtime.DispatchSelection} (distinct : Distinct store)
    (done : exec (Runtime.startNext workflowIds) store = (.ok selection, after)) :
    Effect store after := by
  rcases Runtime.startNext_ok done with ⟨-, same⟩ |
    ⟨candidate, row, item, new, selected, -, workflowNamed, itemNamed, write, moved, needs⟩
  · exact .kept (congrArg Tables.workflows same)
  · obtain ⟨origin, source, chosen⟩ := Runtime.startNext_selected done selected
    have sameRow : origin = row :=
      Table.row_unique chosen.known (Table.get?_mem write.present)
        (chosen.workflowId.symm.trans workflowNamed)
    subst sameRow
    obtain ⟨wanted, written, found, -⟩ := write.effect
    obtain ⟨front, back, split, foundNamed, -⟩ := findItem_split found
    have keys : itemId source = itemId item := chosen.itemId.symm.trans itemNamed
    have same : source = item :=
      List.inj_on_of_nodup_map (distinct origin chosen.known) chosen.held (by simp [split]) keys
    subst same
    have fine := Runtime.unobjectionable chosen.judged
    have eligible := (Runtime.isEligibleState_iff _).mpr fine.state
    exact .wrote origin source new write
      (kept_of_moved moved needs (not_completed_of_eligible eligible)) fun _ _ => fine.dependencies

theorem not_running (moved : Moved item new target)
    (other : target ≠ .running) (running : Running new) : Running item :=
  absurd running (ReachableStates.not_running_moved moved other)

theorem blocked_effect {request : BlockRequest} {checkpoint : QueueBlockCheckpoint}
    {written : PersistentWorkflowRow}
    (blocks : Blocks request checkpoint before.toTables after.toTables row written item new)
    (unfinished : ¬ Completed item) : Effect before after :=
  rested_effect blocks.write (kept_of_moved blocks.moved blocks.needs unfinished)
    (not_running blocks.moved (ReachableStates.blocked_not blocks.blocking).1)

theorem queue_effect (store : Store) (operation : QueueOperation) :
    Effect store (ReachableStates.step store operation) := by
  cases operation with
  | startNext workflowId =>
    refine effect_of_ends (startNext_raised _) fun selection after done => ?_
    rcases startNext_writes done with same | ⟨row, written, item, new, -, starts⟩
    · exact .kept (by rw [same])
    · exact started_effect starts
  | startGlobalNext workflowIds =>
    refine effect_of_ends (startGlobalNext_raised _) fun selection after done => ?_
    rcases startGlobalNext_writes done with same | ⟨_, row, written, item, new, starts⟩
    · exact .kept (by rw [same])
    · exact started_effect starts.toStarts
  | blockRunningItem workflowId itemId request =>
    refine effect_of_ends (blockRunningItem_raised _ _ _) fun checkpoint after done => ?_
    obtain ⟨row, written, item, new, -, -, stated, blocks⟩ := blockRunningItem_writes done
    exact blocked_effect blocks (ReachableStates.not_stated stated (by decide) (by decide))
  | blockDispatchSelectedItem workflowId itemId expectedState version request =>
    refine effect_of_ends (blockDispatchSelectedItem_raised _ _ _ _ _) fun checkpoint after done => ?_
    obtain ⟨row, written, item, new, -, -, expected, stated, -, blocks⟩ :=
      blockDispatchSelectedItem_writes done
    exact blocked_effect blocks
      (ReachableStates.not_stated stated (ReachableStates.eligible_not expected).2 (by decide))
  | repairBlockedItemConfiguration workflowId itemId checkpointId version timeout patch =>
    refine effect_of_ends (repairBlockedItemConfiguration_raised _ _ _ _ _ _) fun repaired after done => ?_
    obtain ⟨row, written, item, new, -, -, same, -, named, edits⟩ :=
      repairBlockedItemConfiguration_writes done
    exact rested_effect edits.write ⟨named, edits.needs, same.trans⟩ same.symm.trans
  | resolveBlocker workflowId itemId checkpointId version event =>
    refine effect_of_ends (resolveBlocker_raised _ _ _ _ _) fun resolved after done => ?_
    obtain ⟨row, written, item, new, -, -, moved, edits⟩ := resolveBlocker_writes done
    obtain ⟨current, blocked, stated⟩ := edits.blocked
    have unfinished :=
      ReachableStates.not_stated stated (ReachableStates.blocked_not blocked).2 (by decide)
    exact rested_effect edits.write (kept_of_moved moved edits.needs unfinished)
      (not_running moved (by decide))
  | completeItem workflowId itemId substeps =>
    refine effect_of_ends (completeItem_raised _ _ _) fun completed after done => ?_
    obtain ⟨row, written, item, new, -, -, completes⟩ := completeItem_writes done
    exact rested_effect completes.write
      ⟨completes.moved.named, completes.needs, fun _ => completes.moved.stated⟩
      (not_running completes.moved (by decide))

theorem step_effect (store : Store) (operation : Operation) (distinct : Distinct store) :
    Effect store (step store operation) := by
  cases operation with
  | queue operation => exact queue_effect store operation
  | startSelectedGlobalItem selection workflowIds =>
    refine effect_of_ends (startSelectedGlobalItem_raised _ _) fun result after done => ?_
    rcases startSelectedGlobalItem_writes done with same | ⟨row, written, item, new, -, starts⟩
    · exact .kept (by rw [same])
    · exact started_effect starts.toStarts
  | dispatch workflowIds =>
    refine effect_of_ends (fun _ _ _ => Runtime.startNext_raised) fun result after done => ?_
    exact dispatched_effect distinct done

theorem kept_refl (item : Item) : Kept item item := ⟨rfl, rfl, id⟩

theorem kept_trans (first second third : Item) (one : Kept first second) (two : Kept second third) :
    Kept first third :=
  ⟨two.named.trans one.named, two.needs.trans one.needs,
    fun completed => two.completed (one.completed completed)⟩

theorem Effect.backlogs (effect : Effect before after) :
    Backlogs Kept before.workflows after.workflows := by
  cases effect with
  | kept same =>
    rw [same]
    exact Runtime.backlogs_refl kept_refl _
  | wrote row item new write kept checked => exact Runtime.backlogs_itemWrite kept_refl write kept

theorem map_itemId_kept {items others : List Item} (paired : List.Forall₂ Kept items others) :
    others.map itemId = items.map itemId := by
  induction paired with
  | nil => rfl
  | cons here _ ih => rw [List.map_cons, List.map_cons, here.named, ih]

theorem distinct_kept (kept : Backlogs Kept before.workflows after.workflows)
    (distinct : Distinct before) : Distinct after := by
  intro row member
  obtain ⟨old, inside, -, paired⟩ := forall₂_right kept member
  rw [map_itemId_kept paired]
  exact distinct old inside

/-- From one state of a run to a later one the backlogs keep what no operation takes back. -/
theorem run_kept (start : Store) (operations : List Operation) (distinct : Distinct start) :
    Backlogs Kept start.workflows (Run.run step start operations).workflows :=
  Run.invariant_run step (fun store => Backlogs Kept start.workflows store.workflows)
    (fun store operation kept =>
      Runtime.backlogs_trans kept_trans kept
        (step_effect store operation (distinct_kept kept distinct)).backlogs)
    start operations (Runtime.backlogs_refl kept_refl _)

theorem queueWrite_of_itemWrite {before after : Tables}
    (write : ItemWrite before after row item new) :
    ∃ written, QueueWrite before after row written item new := by
  obtain ⟨wanted, written, found, bound, backlog, tables⟩ := write.effect
  exact ⟨written, write.present, bound, ⟨wanted, found, backlog⟩, tables⟩

/-- An item after an operation is the item before it, or the one that was written in its place. -/
theorem Effect.itemAt_before (effect : Effect before after)
    (now : itemAt after.workflows workflowId wanted = some new) :
    itemAt before.workflows workflowId wanted = some new ∨
      ∃ row item, before.workflows.get? workflowId = some row ∧ findItem row.taskBacklog wanted = .ok item ∧
        itemAt before.workflows workflowId wanted = some item ∧
        (Running new → ¬ Running item → DependenciesCompleted row item) := by
  cases effect with
  | kept same => exact Or.inl (same ▸ now)
  | wrote row item other write kept checked =>
    obtain ⟨written, queueWrite⟩ := queueWrite_of_itemWrite write
    rw [itemAt_write queueWrite kept.named workflowId wanted] at now
    by_cases here : row.id = workflowId ∧ itemId item = wanted
    · rw [if_pos here] at now
      obtain ⟨sameRow, sameItem⟩ := here
      subst sameRow
      subst sameItem
      obtain rfl := Option.some.inj now
      obtain ⟨name, found, -⟩ := queueWrite.replaced
      obtain ⟨_, _, -, named, -⟩ := findItem_split found
      exact Or.inr ⟨row, item, write.present, named ▸ found, itemAt_written queueWrite, checked⟩
    · rw [if_neg here] at now
      exact Or.inl now

theorem started_met (effect : Effect before after)
    (becomes : Becomes .running before after workflowId wanted) :
    DependenciesMet before workflowId wanted := by
  obtain ⟨old, new, was, now, idle, running⟩ := becomes
  rcases effect.itemAt_before now with same | ⟨row, item, present, found, here, checked⟩
  · rw [was] at same
    exact absurd (Option.some.inj same ▸ running) idle
  · rw [was] at here
    obtain rfl := Option.some.inj here
    exact ⟨row, old, present, found, checked running idle⟩

theorem met_kept (kept : Backlogs Kept before.workflows after.workflows) (met : DependenciesMet before workflowId wanted) :
    DependenciesMet after workflowId wanted := by
  obtain ⟨row, item, present, found, names, iterated, each⟩ := met
  obtain ⟨other, member, same, paired⟩ := forall₂_left kept (Table.get?_mem present)
  obtain ⟨new, foundNew, itemKept⟩ := Runtime.forall₂_findItem (fun _ _ => Kept.named) paired found
  have key : other.id = workflowId := same.trans (Table.get?_key present)
  refine ⟨other, new, ?_, foundNew, names, ?_, ?_⟩
  · rw [← key]
    exact Table.get?_of_mem member
  · rw [itemKept.needs]
    exact iterated
  · intro name listed
    obtain ⟨needed, inside, named, completed⟩ := each name listed
    obtain ⟨later, held, neededKept⟩ := forall₂_left paired inside
    exact ⟨later, held, neededKept.named.trans named, neededKept.completed completed⟩

theorem findItem_of_mem {items : List Item} (distinct : (items.map itemId).Nodup)
    (member : item ∈ items) : findItem items (itemId item) = .ok item := by
  induction items with
  | nil => cases member
  | cons head rest ih =>
    rw [List.map_cons, List.nodup_cons] at distinct
    rcases List.mem_cons.mp member with same | later
    · rw [same, findItem, if_pos rfl]
    · rw [findItem, if_neg, ih distinct.2 later]
      intro equal
      exact distinct.1 (equal ▸ List.mem_map_of_mem later)

/-- None of the items of the identifiers is completed. -/
def Uncompleted (store : Store) (workflowId : String) (ids : Set String) : Prop :=
  ∀ wanted ∈ ids, ∀ item, itemAt store.workflows workflowId wanted = some item → ¬ Completed item

theorem circle_unmet (distinct : Distinct start)
    (kept : Backlogs Kept start.workflows store.workflows)
    (member : row ∈ start.workflows.rows) (circular : Circular row ids)
    (none : Uncompleted store row.id ids) (inside : wanted ∈ ids) :
    ¬ DependenciesMet store row.id wanted := by
  rintro ⟨now, item, present, found, names, iterated, each⟩
  obtain ⟨next, among, source, held, sourceNamed, others, listed, name, known, same⟩ := circular wanted inside
  obtain ⟨later, here, laterNamed, paired⟩ := forall₂_left kept member
  have equal : later = now :=
    Table.row_unique here (Table.get?_mem present) (laterNamed.trans (Table.get?_key present).symm)
  subst equal
  have apart := distinct_kept kept distinct later here
  have sourceFound : findItem row.taskBacklog wanted = .ok source :=
    sourceNamed ▸ findItem_of_mem (distinct row member) held
  obtain ⟨new, newFound, sourceKept⟩ := Runtime.forall₂_findItem (fun _ _ => Kept.named) paired sourceFound
  have sameItem : new = item := Except.ok.inj (newFound.symm.trans found)
  have sameNames : others = names := by
    rw [← sameItem, sourceKept.needs, listed] at iterated
    exact Except.ok.inj iterated
  obtain ⟨needed, neededHeld, neededNamed, completed⟩ := each name (sameNames ▸ known)
  have address : itemAt store.workflows later.id (itemId needed) = some needed :=
    Runtime.itemAt_of_found (Table.get?_of_mem here) (findItem_of_mem apart neededHeld)
  rw [laterNamed, neededNamed, same] at address
  exact none next among needed address completed

theorem starts_met (start : Store) (operations : List Operation) (distinct : Distinct start) :
    StartsMet start operations := by
  intro front operation back split workflowId wanted moves
  have reached := distinct_kept (run_kept start front distinct) distinct
  exact started_met (step_effect _ operation reached) moves

theorem met_of_started (distinct : Distinct start) (started : StartedIn start operations workflowId wanted) :
    MetAfter start operations workflowId wanted := by
  obtain ⟨front, operation, back, split, moves⟩ := started
  have met := starts_met start operations distinct front operation back split workflowId wanted moves
  have reached := distinct_kept (run_kept start front distinct) distinct
  have kept := run_kept (Run.run step start front) (operation :: back) reached
  rw [← Run.run_append, ← split] at kept
  exact met_kept kept met

theorem uncompleted_start (member : row ∈ start.workflows.rows) (none : NoneCompleted row ids) :
    Uncompleted start row.id ids := by
  intro wanted inside item known
  have present : start.workflows.get? row.id = some row := Table.get?_of_mem member
  rw [itemAt, present] at known
  cases found : findItem row.taskBacklog wanted with
  | error error => simp [found, Except.toOption] at known
  | ok other =>
    simp only [found, Except.toOption, Option.some.injEq] at known
    subst known
    obtain ⟨front, back, split, named, -⟩ := findItem_split found
    exact none other (by simp [split]) (named ▸ inside)

/-- By induction on the run: the first of a circle to complete would have been started
while another of it was not completed. -/
theorem uncompleted_run (distinct : Distinct start) (member : row ∈ start.workflows.rows)
    (circular : Circular row ids) (none : NoneCompleted row ids)
    (completes : CompletesStarted start operations row.id ids) (size : Nat) :
    ∀ front back, operations = front ++ back → front.length = size →
      Uncompleted (Run.run step start front) row.id ids := by
  induction size using Nat.strong_induction_on with
  | _ size ih =>
    intro front back split length
    rcases List.eq_nil_or_concat front with rfl | ⟨head, operation, rfl⟩
    · exact uncompleted_start member none
    · rw [List.concat_eq_append] at split length ⊢
      rw [List.length_append, List.length_singleton] at length
      rw [List.append_assoc, List.singleton_append] at split
      have before := ih head.length (by omega) head (operation :: back) split rfl
      have reached := distinct_kept (run_kept start head distinct) distinct
      intro wanted inside item now completed
      rw [Run.run_append] at now
      rcases (step_effect _ operation reached).itemAt_before now with same | ⟨_, old, -, -, was, -⟩
      · exact before wanted inside item same completed
      · have moves : Moves .completed start head operation row.id wanted :=
          ⟨old, item, was, now, before wanted inside old was, completed⟩
        obtain ⟨first, starter, rest, parts, started⟩ :=
          completes head operation back split wanted inside moves
        have whole : operations = first ++ starter :: (rest ++ operation :: back) := by
          rw [split, parts, List.append_assoc, List.cons_append]
        have short : first.length < size := by
          have count := congrArg List.length parts
          rw [List.length_append, List.length_cons] at count
          omega
        have earlier := ih first.length short first _ whole rfl
        have met := starts_met start operations distinct first starter _ whole row.id wanted started
        exact circle_unmet distinct (run_kept start first distinct) member circular earlier inside met

/-- From a backlog of distinct identifiers an item starts only when all it depends on is completed.
So it is when an item completes that the run has started, and a circle of items never starts
unless the run completes one of it that it has not started. -/
theorem dependencies_respected (start : Store) (operations : List Operation) (distinct : Distinct start) :
    StartsMet start operations ∧
      (EachStep operations fun front operation => ∀ workflowId wanted,
        Moves .completed start front operation workflowId wanted →
          StartedIn start front workflowId wanted → MetAfter start front workflowId wanted) ∧
      ∀ row ∈ start.workflows.rows, ∀ ids, Circular row ids → NoneCompleted row ids →
        CompletesStarted start operations row.id ids → NeverStarts start operations row.id ids := by
  refine ⟨starts_met start operations distinct, ?_, ?_⟩
  · intro front operation back split workflowId wanted completes started
    exact met_of_started distinct started
  · intro row member ids circular none completes front operation back split wanted inside starts
    have met := starts_met start operations distinct front operation back split row.id wanted starts
    have quiet := uncompleted_run distinct member circular none completes front.length front _ split rfl
    exact circle_unmet distinct (run_kept start front distinct) member circular quiet inside met

instance (row : PersistentWorkflowRow) (item : Item) : Decidable (DependenciesCompleted row item) :=
  match iterated : (item.getOr "dependencies" (.arr [])).pyIter with
  | .ok names =>
    decidable_of_iff (∀ name ∈ names, ∃ other ∈ row.taskBacklog, itemId other = name.pyStr ∧
      queueState? other = some .completed) (by
        constructor
        · exact fun each => ⟨names, iterated, each⟩
        · rintro ⟨others, same, each⟩
          rw [iterated] at same
          exact Except.ok.inj same ▸ each)
  | .error error => isFalse (by
      rintro ⟨names, same, -⟩
      rw [iterated] at same
      cases same)

def dependentItem (id state : String) (dependencies : List String) : Item :=
  [("item_id", .str id), ("state", .str state), ("dependencies", .ofTexts dependencies)]

def backlogOf (items : List Item) : Store :=
  { workflows := .single {
      id := "LWORK_000001"
      workflowState := .planReady
      taskBacklog := items } }

/-- Two items that wait for each other. -/
def twoInCircle : Store :=
  backlogOf [dependentItem "first" "READY" ["second"], dependentItem "second" "READY" ["first"]]

/-- The first item is blocked before it ever runs, resolved and completed; then the next is started. -/
def completedUnstarted : List Operation :=
  [.queue (.blockDispatchSelectedItem "LWORK_000001" "first" .ready 0 refused),
    .queue (.resolveBlocker "LWORK_000001" "first" "LQCHK_000001" 1 "repaired"),
    .queue (.completeItem "LWORK_000001" "first" []),
    .queue (.startNext "LWORK_000001")]

def stateAfter (start : Store) (operations : List Operation) (wanted : String) :
    Option (Option QueueWorkItemState) :=
  (itemAt (Run.run step start operations).workflows "LWORK_000001" wanted).map queueState?

theorem moves_of_states (state : Option QueueWorkItemState)
    {front : List Operation} {operation : Operation}
    (was : stateAfter start front wanted = some state) (other : state ≠ some target)
    (now : stateAfter start (front ++ [operation]) wanted = some (some target)) :
    Moves target start front operation "LWORK_000001" wanted := by
  rw [stateAfter, Option.map_eq_some_iff] at was now
  obtain ⟨old, known, stated⟩ := was
  obtain ⟨new, reached, becomes⟩ := now
  rw [Run.run_append] at reached
  exact ⟨old, new, known, reached, stated ▸ other, becomes⟩

def metAfter (start : Store) (operations : List Operation) (wanted : String) : Bool :=
  ((Run.run step start operations).workflows.get? "LWORK_000001").any fun row =>
    (findItem row.taskBacklog wanted).toOption.any fun item => decide (DependenciesCompleted row item)

theorem metAfter_of_met
    (met : MetAfter start operations "LWORK_000001" wanted) : metAfter start operations wanted = true := by
  obtain ⟨row, item, present, found, complete⟩ := met
  rw [metAfter, present, Option.any_some, found, Except.toOption, Option.any_some, decide_eq_true complete]

theorem circle_started_after_unstarted_completion :
    Distinct twoInCircle ∧
      (∀ row ∈ twoInCircle.workflows.rows, ∀ item ∈ row.taskBacklog, queueState? item = some .ready) ∧
      ¬ CompletesMet twoInCircle completedUnstarted ∧ ¬ CirclesRest twoInCircle completedUnstarted := by
  refine ⟨by decide, by decide, ?_, ?_⟩
  · intro respected
    have completes : Moves .completed twoInCircle (completedUnstarted.take 2)
        (.queue (.completeItem "LWORK_000001" "first" [])) "LWORK_000001" "first" :=
      moves_of_states (some .readyToResume) (by decide +kernel) (by decide) (by decide +kernel)
    have met := metAfter_of_met (respected (completedUnstarted.take 2) _ _ rfl _ _ completes)
    revert met
    decide +kernel
  · intro rest
    have starts : Moves .running twoInCircle (completedUnstarted.take 3)
        (.queue (.startNext "LWORK_000001")) "LWORK_000001" "second" :=
      moves_of_states (some .ready) (by decide +kernel) (by decide) (by decide +kernel)
    refine rest _ List.mem_cons_self {"first", "second"} ?_ ?_ (completedUnstarted.take 3) _ [] rfl
      "second" (Or.inr rfl) starts
    · rintro id (rfl | rfl)
      · exact ⟨"second", Or.inr rfl, _, List.mem_cons_self, rfl, [.str "second"], rfl, .str "second",
          List.mem_cons_self, rfl⟩
      · exact ⟨"first", Or.inl rfl, _, List.mem_cons_of_mem _ List.mem_cons_self, rfl, [.str "first"], rfl,
          .str "first", List.mem_cons_self, rfl⟩
    · have fresh : ∀ item ∈ (twoInCircle.workflows.rows.head (by decide)).taskBacklog,
          queueState? item ≠ some .completed := by decide
      exact fun item member _ => fresh item member

/-- The second item waits for the first, which is started and completed before it. -/
def oneAfterAnother : Store :=
  backlogOf [dependentItem "first" "READY" [], dependentItem "second" "READY" ["first"]]

theorem second_started_when_first_completed :
    MetAfter oneAfterAnother [.queue (.startNext "LWORK_000001"),
      .queue (.completeItem "LWORK_000001" "first" [])] "LWORK_000001" "second" :=
  (dependencies_respected oneAfterAnother [.queue (.startNext "LWORK_000001"),
    .queue (.completeItem "LWORK_000001" "first" []), .queue (.startNext "LWORK_000001")] (by decide)).1
    [.queue (.startNext "LWORK_000001"), .queue (.completeItem "LWORK_000001" "first" [])] _ [] rfl _ _
    (moves_of_states (some .ready) (by decide +kernel) (by decide) (by decide +kernel))

end Lucius.Queue.DependencyOrder
