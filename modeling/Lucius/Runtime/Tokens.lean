import Lucius.Runtime.Operations

/-! The version of an item as the token a client's decision is checked against.

The queue writes the state of an item under the next version. The supervisor of
missions writes the state alone, so a token outlives the state it was taken in
exactly when an operation of the supervisor changes a state. -/

namespace Lucius.Runtime.Tokens

open Lucius.Action

open Queue (Item itemId itemVersion ItemWrite GlobalQueueSelection)
open Mission

def Newer (old new : Item) : Prop :=
  ∃ before after, itemVersion old = .ok before ∧ itemVersion new = .ok after ∧ before < after

/-- A change of the state comes with a greater version. -/
def StateBumped (old new : Item) : Prop := new.get "state" ≠ old.get "state" → Newer old new

structure Grows (old new : Item) : Prop where
  named : itemId new = itemId old
  version : (new.get "state" = old.get "state" ∧ itemVersion new = itemVersion old) ∨ Newer old new

theorem newer_trans {first second third : Item} (one : Newer first second) (two : Newer second third) :
    Newer first third := by
  obtain ⟨low, middle, lowest, between, less⟩ := one
  obtain ⟨again, high, same, highest, more⟩ := two
  have equal : middle = again := Except.ok.inj (between.symm.trans same)
  refine ⟨low, high, lowest, highest, ?_⟩
  omega

theorem newer_congr {first second third : Item} (one : Newer first second)
    (same : itemVersion third = itemVersion second) : Newer first third := by
  obtain ⟨low, high, lowest, highest, less⟩ := one
  exact ⟨low, high, lowest, same.trans highest, less⟩

theorem newer_of_same {first second third : Item} (same : itemVersion second = itemVersion first)
    (two : Newer second third) : Newer first third := by
  obtain ⟨low, high, lowest, highest, less⟩ := two
  exact ⟨low, high, same.symm.trans lowest, highest, less⟩

theorem grows_refl (item : Item) : Grows item item := ⟨rfl, Or.inl ⟨rfl, rfl⟩⟩

theorem grows_trans (first second third : Item) (one : Grows first second) (two : Grows second third) :
    Grows first third := by
  refine ⟨two.named.trans one.named, ?_⟩
  rcases one.version with ⟨stated, versioned⟩ | newer
  · rcases two.version with ⟨statedAgain, versionedAgain⟩ | newer
    · exact Or.inl ⟨statedAgain.trans stated, versionedAgain.trans versioned⟩
    · exact Or.inr (newer_of_same versioned newer)
  · rcases two.version with ⟨-, versionedAgain⟩ | newest
    · exact Or.inr (newer_congr newer versionedAgain)
    · exact Or.inr (newer_trans newer newest)

theorem grows_of_versioned {old new : Item} (bumped : Versioned old new) : Grows old new := by
  obtain ⟨version, before, after⟩ := bumped.bumped
  refine ⟨bumped.named, Or.inr ⟨version, version + 1, before, after, ?_⟩⟩
  omega

theorem stateBumped_of_grows {old new : Item} (grows : Grows old new) : StateBumped old new := by
  intro changed
  rcases grows.version with ⟨same, -⟩ | newer
  · exact absurd same changed
  · exact newer

theorem not_newer_inState (target : QueueWorkItemState) (item : Item) :
    ¬ Newer item (inState target item) := by
  rintro ⟨before, after, old, new, less⟩
  have same : itemVersion (inState target item) = itemVersion item := by
    simp [itemVersion, inState]
  have equal : after = before := Except.ok.inj (new.symm.trans (same.trans old))
  omega

/-- The supervisor does not raise. -/
def Accepted (store : Store) (operation : MissionOperation) : Prop :=
  ∃ after, exec (Mission.perform operation) store = (.ok (), after)

/-- Each item the identifiers target has the state already. -/
def Settled (workflows : Table PersistentWorkflowRow) (itemIds : List String)
    (target : QueueWorkItemState) : Prop :=
  ∀ row ∈ workflows.rows, ∀ item ∈ row.taskBacklog,
    targets workflows itemIds row.id item = true → item.get "state" = stateText target

/-- An operation of the supervisor changes no state. -/
def Quiet (store : Store) : WorkOperation → Prop
  | .mission operation => Accepted store operation →
      Settled store.workflows (writtenItems store operation) (writtenState operation)
  | _ => True

def BumpsState (store : Store) (operation : WorkOperation) : Prop :=
  Backlogs StateBumped store.workflows (step store operation).workflows

theorem grows_settle {workflows : Table PersistentWorkflowRow} {itemIds : List String}
    {target : QueueWorkItemState} (settled : Settled workflows itemIds target) :
    Backlogs Grows workflows (retargetedAll workflows itemIds target) := by
  rw [backlogs_retargeted]
  intro row member item inside
  unfold settle
  by_cases targeted : targets workflows itemIds row.id item = true
  · rw [if_pos targeted]
    have stated := settled row member item inside targeted
    refine ⟨by simp [itemId, inState], Or.inl ⟨?_, by simp [itemVersion, inState]⟩⟩
    rw [stated]
    simp [inState]
  · rw [if_neg targeted]
    exact grows_refl item

theorem settled_of_bumped {workflows : Table PersistentWorkflowRow} {itemIds : List String}
    {target : QueueWorkItemState}
    (bumped : Backlogs StateBumped workflows (retargetedAll workflows itemIds target)) :
    Settled workflows itemIds target := by
  intro row member item inside targeted
  rw [backlogs_retargeted] at bumped
  have related := bumped row member item inside
  rw [settle, if_pos targeted] at related
  by_contra changed
  refine not_newer_inState target item (related ?_)
  intro same
  apply changed
  rw [← same]
  simp [inState]

theorem grows_step (store : Store) (operation : WorkOperation) (quiet : Quiet store operation) :
    Backlogs Grows store.workflows (step store operation).workflows := by
  cases step_effect store operation with
  | kept same =>
    rw [congrArg Tables.workflows same]
    exact backlogs_refl grows_refl store.workflows
  | versioned row item new write bumped queue =>
    exact backlogs_itemWrite grows_refl write (grows_of_versioned bumped)
  | waits wait isWait done =>
    rw [Mission.perform_workflows done]
    rw [isWait] at quiet
    exact grows_settle (quiet ⟨_, done⟩)

theorem backlogs_mono {stronger weaker : Item → Item → Prop}
    (implies : ∀ old new, stronger old new → weaker old new)
    {before after : Table PersistentWorkflowRow} (kept : Backlogs stronger before after) :
    Backlogs weaker before after :=
  List.Forall₂.imp (fun _ _ here => ⟨here.1, List.Forall₂.imp implies here.2⟩) kept

/-- The writes of the queue are always under the next version; those of the
supervisor meet the law exactly when they change no state. -/
theorem bumps_iff_quiet (store : Store) (operation : WorkOperation) :
    BumpsState store operation ↔ Quiet store operation := by
  constructor
  · intro bumps
    cases operation with
    | mission wait =>
      rintro ⟨after, done⟩
      have reached : step store (.mission wait) = after := transact_ok done
      rw [BumpsState, reached, Mission.perform_workflows done] at bumps
      exact settled_of_bumped bumps
    | _ => trivial
  · intro quiet
    exact backlogs_mono (fun _ _ => stateBumped_of_grows) (grows_step store operation quiet)

theorem grows_run (start : Store) (operations : List WorkOperation)
    (quiet : Run.Meets step Quiet start operations) :
    Backlogs Grows start.workflows (Run.run step start operations).workflows :=
  Run.relation_guarded step Quiet (fun before after => Backlogs Grows before.workflows after.workflows)
    (fun store => backlogs_refl grows_refl store.workflows)
    (fun _ _ _ one two => backlogs_trans grows_trans one two)
    (fun store operation => grows_step store operation) start operations quiet

/-- An item under its own name, whose version has not gone back. -/
structure Onward (old new : Item) : Prop where
  named : itemId new = itemId old
  version : ∀ before, itemVersion old = .ok before → ∃ after, itemVersion new = .ok after ∧ before ≤ after

theorem onward_refl (item : Item) : Onward item item :=
  ⟨rfl, fun before same => ⟨before, same, le_refl before⟩⟩

theorem onward_trans (first second third : Item) (one : Onward first second)
    (two : Onward second third) : Onward first third := by
  refine ⟨two.named.trans one.named, fun before same => ?_⟩
  obtain ⟨middle, now, up⟩ := one.version before same
  obtain ⟨after, last, further⟩ := two.version middle now
  exact ⟨after, last, up.trans further⟩

theorem onward_of_versioned {old new : Item} (bumped : Versioned old new) : Onward old new := by
  obtain ⟨⟨version, was, now⟩, named⟩ := bumped
  refine ⟨named, fun before same => ⟨version + 1, now, ?_⟩⟩
  cases was.symm.trans same
  omega

theorem onward_step (store : Store) (operation : WorkOperation) :
    Backlogs Onward store.workflows (step store operation).workflows := by
  cases step_effect store operation with
  | kept same =>
    rw [congrArg Tables.workflows same]
    exact backlogs_refl onward_refl store.workflows
  | versioned row item new write bumped queue =>
    exact backlogs_itemWrite onward_refl write (onward_of_versioned bumped)
  | waits wait isWait done =>
    rw [Mission.perform_workflows done, backlogs_retargeted]
    intro row member item inside
    unfold settle
    split
    · exact ⟨by simp [itemId, inState], fun before same => ⟨before, by simpa [itemVersion, inState], le_refl before⟩⟩
    · exact onward_refl item

/-- Whatever the queue, the dispatcher and the supervisor of missions do, in whatever order, the
backlogs keep their items, each in its place, and no version goes back. -/
theorem backlogs_onward (start : Store) (operations : List WorkOperation) :
    Backlogs Onward start.workflows (Run.run step start operations).workflows :=
  Run.relation_run step (fun before after => Backlogs Onward before.workflows after.workflows)
    (fun store => backlogs_refl onward_refl store.workflows)
    (fun _ _ _ one two => backlogs_trans onward_trans one two) onward_step start operations

def Refused {α : Type} (action : Op α) (store : Store) : Prop :=
  ∀ result after, exec action store ≠ (.ok result, after)

instance {α : Type} (action : Op α) (store : Store) : Decidable (Refused action store) :=
  match outcome : (exec action store).1 with
  | .ok result => .isFalse fun refused => refused result (exec action store).2
      (Prod.ext outcome rfl)
  | .error _ => .isTrue fun result after done => by
      rw [done] at outcome
      cases outcome

/-- No operation accepts the version as that of the item. -/
structure RefusesToken (store : Store) (workflowId wanted : String) (version : Int) : Prop where
  resolve : ∀ checkpointId event,
    Refused (Queue.resolveBlocker workflowId wanted checkpointId version event) store
  repair : ∀ checkpointId timeout patch,
    Refused (Queue.repairBlockedItemConfiguration workflowId wanted checkpointId version timeout patch)
      store
  block : ∀ expectedState request,
    Refused (Queue.blockDispatchSelectedItem workflowId wanted expectedState version request) store
  start : ∀ (selection : GlobalQueueSelection) workflowIds,
    selection.selectedWorkflowId = some workflowId → selection.selectedItemId = some wanted →
    selection.selectedItemVersion = some version →
    Refused (Queue.startSelectedGlobalItem selection workflowIds) store

theorem itemAt_of_write {store after : Store} {row : PersistentWorkflowRow} {item new : Item}
    (write : ItemWrite store.toTables after.toTables row item new) :
    itemAt store.workflows row.id (itemId item) = some item := by
  obtain ⟨wanted, written, found, -, -, -⟩ := write.effect
  obtain ⟨_, _, -, named, -⟩ := Queue.findItem_split found
  rw [named]
  exact itemAt_of_found write.present found

theorem refuses_of_version {store : Store} {workflowId wanted : String} {version : Int} {item : Item}
    (known : itemAt store.workflows workflowId wanted = some item)
    (other : itemVersion item ≠ .ok version) : RefusesToken store workflowId wanted version := by
  have mismatch : ∀ (after : Store) (row : PersistentWorkflowRow) (found new : Item),
      row.id = workflowId → itemId found = wanted →
      ItemWrite store.toTables after.toTables row found new → itemVersion found ≠ .ok version := by
    intro after row found new named itemNamed write versioned
    have present := itemAt_of_write write
    rw [named, itemNamed, known] at present
    exact other (Option.some.inj present ▸ versioned)
  refine ⟨?_, ?_, ?_, ?_⟩
  · intro checkpointId event result after done
    obtain ⟨row, _, found, new, named, itemNamed, -, edits⟩ := Queue.resolveBlocker_writes done
    exact mismatch after row found new named itemNamed edits.write.itemWrite edits.versioned
  · intro checkpointId timeout patch result after done
    obtain ⟨row, _, found, new, named, itemNamed, -, -, -, edits⟩ :=
      Queue.repairBlockedItemConfiguration_writes done
    exact mismatch after row found new named itemNamed edits.write.itemWrite edits.versioned
  · intro expectedState request result after done
    obtain ⟨row, _, found, new, named, held, -, -, versioned, blocks⟩ :=
      Queue.blockDispatchSelectedItem_writes done
    obtain ⟨_, _, -, itemNamed, -⟩ := Queue.findItem_split held
    exact mismatch after row found new named itemNamed blocks.write.itemWrite versioned
  · intro selection workflowIds workflowSelected itemSelected versionSelected result after done
    unfold Queue.startSelectedGlobalItem at done
    rw [workflowSelected] at done
    obtain ⟨row, written, found, new, named, starts⟩ :=
      Queue.startGlobalSelection_writes workflowSelected done
    obtain ⟨current, chosen, versioned⟩ := starts.versioned
    have sameItem : itemId found = wanted := Option.some.inj (starts.selected.symm.trans itemSelected)
    have sameVersion : current = version := Option.some.inj (chosen.symm.trans versionSelected)
    rw [sameVersion] at versioned
    exact mismatch after row found new named sameItem starts.write.itemWrite versioned

/-- In every run the law of the versions holds of each step exactly when the
supervisor changes no state; and then a version read before a change of the state
is refused at every later point. -/
theorem stale_tokens_refused_in_quiet_runs (start : Store) (operations : List WorkOperation) :
    (Run.Meets step BumpsState start operations ↔ Run.Meets step Quiet start operations) ∧
    (Run.Meets step Quiet start operations →
      ∀ front middle back, operations = front ++ middle ++ back →
      ∀ workflowId wanted item changed version,
        itemAt (Run.run step start front).workflows workflowId wanted = some item →
        itemVersion item = .ok version →
        itemAt (Run.run step start (front ++ middle)).workflows workflowId wanted = some changed →
        changed.get "state" ≠ item.get "state" →
        RefusesToken (Run.run step start (front ++ middle ++ back)) workflowId wanted version) := by
  constructor
  · exact Run.meets_iff step bumps_iff_quiet start operations
  · intro quiet front middle back split workflowId wanted item changed version observed versioned
      later moved
    rw [split, List.append_assoc] at quiet
    obtain ⟨-, quietRest⟩ := Run.meets_append step Quiet start front (middle ++ back) quiet
    obtain ⟨quietMiddle, quietBack⟩ := Run.meets_append step Quiet _ middle back quietRest
    have first := grows_run _ middle quietMiddle
    have second := grows_run _ back quietBack
    rw [← Run.run_append] at first second
    rw [← Run.run_append] at second
    -- the item the client read, then at the change, then now
    obtain ⟨found, present, grew⟩ := backlogs_itemAt (fun _ _ grows => grows.named) first observed
    have same : found = changed := Option.some.inj (present.symm.trans later)
    obtain ⟨now, current, grewOn⟩ := backlogs_itemAt (fun _ _ grows => grows.named) second later
    have newer : Newer item changed := stateBumped_of_grows (same ▸ grew) moved
    have newest : Newer item now := by
      rcases grewOn.version with ⟨-, kept⟩ | more
      · exact newer_congr newer kept
      · exact newer_trans newer more
    rw [List.append_assoc] at current ⊢
    refine refuses_of_version current ?_
    intro stale
    obtain ⟨low, high, lowest, highest, less⟩ := newest
    have lowVersion : low = version := Except.ok.inj (lowest.symm.trans versioned)
    have highVersion : high = version := Except.ok.inj (highest.symm.trans stale)
    omega

def waitingItem : Item :=
  [("item_id", .str "first"), ("state", .str "WAITING_RESOURCE"), ("version", .int 3),
    ("current_block_checkpoint_id", .str "LQCHK_000001")]

def waitingStore : Store :=
  { workflows := .single { id := "LWORK_000001", workflowState := .blocked, taskBacklog := [waitingItem] }
    missions := .single { id := "mission", canonicalSha := "HEAD" } }

def authorityWait : WorkOperation :=
  .mission (.recordWait "mission"
    { waitClass := "AUTHORITY", reason := "owner approval", itemId := some "first" })

/-- The client read a resource wait at version 3. The authority block recorded
since then has the same checkpoint and version, and the client's resolution lifts it. -/
theorem resource_token_lifts_authority_block :
    itemAt waitingStore.workflows "LWORK_000001" "first" = some waitingItem ∧
      itemVersion waitingItem = .ok 3 ∧
      (∃ changed, itemAt (step waitingStore authorityWait).workflows "LWORK_000001" "first" =
          some changed ∧ changed.get "state" = .str "BLOCKED_AUTHORITY" ∧
        itemVersion changed = .ok 3) ∧
      ¬ Refused (Queue.resolveBlocker "LWORK_000001" "first" "LQCHK_000001" 3 "resource is back")
        (step waitingStore authorityWait) :=
  ⟨rfl, rfl, ⟨waitingItem.set "state" (.str "BLOCKED_AUTHORITY"), rfl, rfl, rfl⟩, by decide⟩

def resolvedOnce : List WorkOperation :=
  [.resolveBlocker "LWORK_000001" "first" "LQCHK_000001" 3 "resource is back"]

theorem resolved_token_refused_again :
    RefusesToken (Run.run step waitingStore resolvedOnce) "LWORK_000001" "first" 3 := by
  have quiet : Run.Meets step Quiet waitingStore resolvedOnce := ⟨trivial, trivial⟩
  obtain ⟨changed, later, moved⟩ : ∃ changed,
      itemAt (Run.run step waitingStore resolvedOnce).workflows "LWORK_000001" "first" =
        some changed ∧ changed.get "state" = .str "READY_TO_RESUME" := ⟨_, rfl, rfl⟩
  refine (stale_tokens_refused_in_quiet_runs waitingStore resolvedOnce).2 quiet [] resolvedOnce []
    rfl "LWORK_000001" "first" waitingItem changed 3 rfl rfl later ?_
  rw [moved]
  intro same
  have texts : "READY_TO_RESUME" = "WAITING_RESOURCE" := Json.str.inj same
  exact absurd texts (by decide)

end Lucius.Runtime.Tokens
