import Lucius.Portfolio.FeedCalls
import Lucius.Portfolio.Sources

/-! How often a piece of work is fed, over every sequence of calls of the feeder. What is known
of the queue is read once, at the start of a call, and the portfolio feeds before the feeder
has written what it selected; so a key is fed twice exactly by a call that takes it twice. -/

namespace Lucius.Portfolio

open Planning

structure FeedCall where
  feeder : DarwinBacklogFeeder
  adapter : ScriptedRuntimePlanningAdapter
  projectId : String := "darwin-research-engine"
  maxItems : Int := 5

def FeedCall.apply (call : FeedCall) (store : Store) : Except PyExc (List FeedRecord) × Store :=
  Action.exec (call.feeder.feedIntoQueue call.adapter call.projectId call.maxItems) store

def FeedCall.plan (call : FeedCall) (tables : Tables) :
    Except PyExc (List NormalizedTaskEnvelope × List NormalizedWorkPackage) :=
  feedPlan call.feeder call.projectId call.maxItems tables

/-- The records are those of all calls so far. -/
structure FeedState where
  store : Store
  records : List FeedRecord := []

/-- The session of a call that raises is rolled back. -/
def feedStep (state : FeedState) (call : FeedCall) : FeedState :=
  match call.apply state.store with
  | (.ok records, after) => ⟨after, state.records ++ records⟩
  | (.error _, _) => state

/-- Each key has one task at most, and each task its workflow. -/
structure FedOnce (records : List FeedRecord) : Prop where
  keys : (records.map FeedRecord.dedupeKey).Nodup
  workflows : ∀ record ∈ records, record.workflowId.isSome = true

/-- What a call takes has no key twice, and each package of it states something. -/
def TakesOnce (state : FeedState) (call : FeedCall) : Prop :=
  ∀ selected batch, call.plan state.store.toTables = .ok (selected, batch) →
    (selected.map (·.dedupeKey) ++ batch.map (·.dedupeKey)).Nodup ∧ ∀ work ∈ batch, StatedPackage work

/-- The tasks and the workflows that were added are the recorded ones. -/
structure Recorded (before : Tables) (state : FeedState) : Prop where
  tasks : (state.store.tasks.rows.map TaskRow.id).Perm
    (before.tasks.rows.map TaskRow.id ++ state.records.map FeedRecord.taskId)
  workflows : (state.store.workflows.rows.map PersistentWorkflowRow.id).Perm
    (before.workflows.rows.map PersistentWorkflowRow.id ++ state.records.filterMap FeedRecord.workflowId)
  held : ∀ record ∈ state.records, ∀ workflowId, record.workflowId = some workflowId →
    ∃ workflow ∈ state.store.workflows.rows, workflow.id = workflowId ∧
      workflow.taskId = some record.taskId ∧
      workflow.decisions = [.obj [("type", .str "DEDUPE_KEY"), ("key", .str record.dedupeKey)]]

/-! ### What feeding adds -/

section

variable {before after : Tables} {entries : List FedEntry}

theorem Feeds.kept (feeds : Feeds before after entries) {row : PersistentWorkflowRow}
    (member : row ∈ before.workflows.rows) :
    ∃ later ∈ after.workflows.rows, content later = content row := by
  have listed : content row ∈ after.workflows.rows.map content := by
    rw [feeds.contents]
    exact List.mem_append_left _ (List.mem_map_of_mem member)
  obtain ⟨later, present, same⟩ := List.mem_map.mp listed
  exact ⟨later, present, same⟩

theorem Feeds.made (feeds : Feeds before after entries) {entry : FedEntry} {made : WorkflowContent}
    (member : entry ∈ entries) (is : entry.content = some made) :
    ∃ row ∈ after.workflows.rows, content row = made := by
  have listed : made ∈ after.workflows.rows.map content := by
    rw [feeds.contents]
    exact List.mem_append_right _ (List.mem_filterMap.mpr ⟨entry, member, is⟩)
  obtain ⟨row, present, same⟩ := List.mem_map.mp listed
  exact ⟨row, present, same⟩

theorem Feeds.workflowIds (feeds : Feeds before after entries) :
    after.workflows.rows.map PersistentWorkflowRow.id = before.workflows.rows.map PersistentWorkflowRow.id ++
      (entries.map FedEntry.record).filterMap FeedRecord.workflowId := by
  have ids (rows : List PersistentWorkflowRow) :
      rows.map PersistentWorkflowRow.id = (rows.map content).map WorkflowContent.id := by
    rw [List.map_map]
    rfl
  rw [ids, feeds.contents, List.map_append, ← ids, List.map_filterMap, List.filterMap_map]
  congr 1
  apply List.filterMap_congr
  intro entry _
  rw [FedEntry.content, Option.map_map, Function.comp_apply]
  cases entry.record.workflowId <;> rfl

end

/-! ### The known keys -/

theorem decisionKeys_dedupe {key : String} (some : key ≠ "") :
    key ∈ decisionKeys (.obj [("type", .str "DEDUPE_KEY"), ("key", .str key)]) := by
  have truthy : (Json.str key).truthy = true := by
    have chars : key.toList ≠ [] := fun empty => some (String.toList_injective (empty.trans rfl))
    simpa [Json.truthy] using chars
  have is : decisionKeys (.obj [("type", .str "DEDUPE_KEY"), ("key", .str key)]) =
      if (Json.str key).truthy then [key] else [] := rfl
  rw [is, if_pos truthy]
  exact List.mem_cons_self

theorem existing_of_decision {tables : Tables} {existing : List String} {key : String}
    {row : PersistentWorkflowRow} (read : existingDedupeKeys tables = .ok existing)
    (member : row ∈ tables.workflows.rows)
    (decided : row.decisions = [.obj [("type", .str "DEDUPE_KEY"), ("key", .str key)]])
    (some : key ≠ "") : key ∈ existing := by
  unfold existingDedupeKeys at read
  obtain ⟨keys, reads, read⟩ := except_bind_ok read
  cases read
  obtain ⟨found, listed, own⟩ := forall₂_left (mapM_ok reads) member
  refine List.mem_flatten.mpr ⟨found, listed, ?_⟩
  unfold workflowKeys at own
  obtain ⟨items, _, own⟩ := except_bind_ok own
  cases own
  rw [decided, List.flatMap_cons, List.flatMap_nil, List.append_nil]
  exact List.mem_append_left _ (decisionKeys_dedupe some)

/-- What a call takes is not known of the queue. -/
structure Taken (call : FeedCall) (tables : Tables) (selected : List NormalizedTaskEnvelope)
    (batch : List NormalizedWorkPackage) : Prop where
  selected : ∀ envelope ∈ selected,
    call.feeder.Discovered call.projectId defaultAuthorityClasses envelope ∧
      envelope.isEligibleForUnattended = true ∧
      ∃ existing, existingDedupeKeys tables = .ok existing ∧ envelope.dedupeKey ∉ existing
  batch : ∀ work ∈ batch, work ∈ discoverGlobalWork call.feeder defaultAuthorityClasses ∧
    ∃ existing, existingDedupeKeys tables = .ok existing ∧
      GlobalWorkPortfolioService.isEligible existing work = true

theorem portfolioBatch_mem {feeder : DarwinBacklogFeeder} {allowed : List String} {tables : Tables}
    {maxItems : Int} {batch : List NormalizedWorkPackage}
    (read : portfolioBatch feeder allowed tables maxItems = .ok batch) {work : NormalizedWorkPackage}
    (member : work ∈ batch) : work ∈ discoverGlobalWork feeder allowed ∧
      ∃ existing, existingDedupeKeys tables = .ok existing ∧
        GlobalWorkPortfolioService.isEligible existing work = true := by
  unfold portfolioBatch at read
  obtain ⟨existing, known, read⟩ := except_bind_ok read
  cases read
  unfold GlobalWorkPortfolioService.batch at member
  have eligible := List.mem_filter.mp (mem_upTo member)
  exact ⟨eligible.1, existing, known, eligible.2⟩

theorem fromPortfolio_mem {feeder : DarwinBacklogFeeder} {taken : Nat} {maxItems : Int}
    {tables : Tables} {batch : List NormalizedWorkPackage}
    (read : fromPortfolio feeder taken maxItems tables = .ok batch) {work : NormalizedWorkPackage}
    (member : work ∈ batch) : work ∈ discoverGlobalWork feeder defaultAuthorityClasses ∧
      ∃ existing, existingDedupeKeys tables = .ok existing ∧
        GlobalWorkPortfolioService.isEligible existing work = true := by
  unfold fromPortfolio at read
  split at read
  · exact portfolioBatch_mem read member
  · cases read
    cases member

theorem feedPlan_taken {call : FeedCall} {tables : Tables} {selected : List NormalizedTaskEnvelope}
    {batch : List NormalizedWorkPackage} (read : call.plan tables = .ok (selected, batch)) :
    Taken call tables selected batch := by
  have nothing : Taken call tables [] [] :=
    ⟨fun _ member => absurd member List.not_mem_nil, fun _ member => absurd member List.not_mem_nil⟩
  unfold FeedCall.plan feedPlan at read
  split at read
  · cases read
    exact nothing
  obtain ⟨eligible, discovers, read⟩ := except_bind_ok read
  split at read
  · cases read
    exact nothing
  obtain ⟨existing, known, read⟩ := except_bind_ok read
  dsimp only at read
  obtain ⟨found, asks, read⟩ := except_bind_ok read
  cases read
  constructor
  · intro envelope member
    unfold DarwinBacklogFeeder.selected DarwinBacklogFeeder.candidates at member
    have candidate := List.mem_filter.mp (mem_upTo member)
    rw [Bool.and_eq_true, decide_eq_true_eq] at candidate
    exact ⟨DarwinBacklogFeeder.discoverEligibleTasks_mem discovers candidate.1, candidate.2.2,
      existing, known, candidate.2.1⟩
  · intro work member
    exact fromPortfolio_mem asks member

theorem isEligible_unknown {existing : List String} {work : NormalizedWorkPackage}
    (eligible : GlobalWorkPortfolioService.isEligible existing work = true) :
    work.dedupeKey ∉ existing := by
  unfold GlobalWorkPortfolioService.isEligible at eligible
  simp only [Bool.and_eq_true, decide_eq_true_eq] at eligible
  exact eligible.1.2

/-! ### One call -/

theorem feedStep_cases (state : FeedState) (call : FeedCall) :
    feedStep state call = state ∨ ∃ selected batch own others,
      CallFed call.feeder call.projectId call.maxItems state.store.toTables
        (feedStep state call).store.toTables
        (own.map FedEntry.record ++ others.map FedEntry.record) selected batch own others ∧
      (feedStep state call).records =
        state.records ++ (own.map FedEntry.record ++ others.map FedEntry.record) := by
  unfold feedStep
  rcases applied : call.apply state.store with ⟨error | records, after⟩
  · exact .inl rfl
  · obtain ⟨selected, batch, own, others, fed⟩ := feedIntoQueue_ok applied
    have is := fed.records
    subst is
    exact .inr ⟨selected, batch, own, others, fed, rfl⟩

section

variable {call : FeedCall} {before after : Tables} {records : List FeedRecord}
  {selected : List NormalizedTaskEnvelope} {batch : List NormalizedWorkPackage}
  {own others : List FedEntry}

theorem CallFed.keys
    (fed : CallFed call.feeder call.projectId call.maxItems before after records selected batch own
      others) :
    records.map FeedRecord.dedupeKey = selected.map (·.dedupeKey) ++ batch.map (·.dedupeKey) := by
  have envelopes : own.map (fun entry => entry.record.dedupeKey) = selected.map (·.dedupeKey) := by
    symm
    rw [← List.forall₂_eq_eq_eq, List.forall₂_map_left_iff, List.forall₂_map_right_iff]
    refine forall₂_mem fed.envelopes (fun envelope entry _ member is => ?_)
    rw [(fed.feeds.recorded entry (List.mem_append_right _ member)).dedupeKey, is.2]
    rfl
  have packages : others.map (fun entry => entry.record.dedupeKey) = batch.map (·.dedupeKey) := by
    symm
    rw [← List.forall₂_eq_eq_eq, List.forall₂_map_left_iff, List.forall₂_map_right_iff]
    refine forall₂_mem fed.packages (fun work entry _ member is => ?_)
    rw [(fed.feeds.recorded entry (List.mem_append_left _ member)).dedupeKey, is.2]
    rfl
  rw [fed.records, List.map_append, List.map_map, List.map_map]
  exact congrArg₂ (· ++ ·) envelopes packages

theorem CallFed.workflows
    (fed : CallFed call.feeder call.projectId call.maxItems before after records selected batch own
      others) :
    (∀ record ∈ records, record.workflowId.isSome = true) ↔ ∀ work ∈ batch, StatedPackage work := by
  have planned : call.plan before = .ok (selected, batch) := fed.plan
  constructor
  · intro all work member
    obtain ⟨entry, listed, is⟩ := forall₂_left fed.packages member
    have recorded := fed.feeds.recorded entry (List.mem_append_left _ listed)
    rw [← stated_package_iff call.feeder entry.repositoryId work, ← is.2, ← recorded.ready]
    apply all
    rw [fed.records]
    exact List.mem_append_right _ (List.mem_map_of_mem listed)
  · intro stated record member
    rw [fed.records] at member
    rcases List.mem_append.mp member with mine | theirs
    · obtain ⟨entry, listed, rfl⟩ := List.mem_map.mp mine
      obtain ⟨envelope, chosen, is⟩ := forall₂_right fed.envelopes listed
      obtain ⟨⟨item, -, made⟩, -, -⟩ := ((feedPlan_taken planned).selected envelope chosen).1
      rw [(fed.feeds.recorded entry (List.mem_append_right _ listed)).ready, is.2]
      exact stated_envelope call.feeder call.projectId entry.repositoryId made.objective
    · obtain ⟨entry, listed, rfl⟩ := List.mem_map.mp theirs
      obtain ⟨work, chosen, is⟩ := forall₂_right fed.packages listed
      rw [(fed.feeds.recorded entry (List.mem_append_left _ listed)).ready, is.2, stated_package_iff]
      exact stated work chosen

theorem CallFed.unknown
    (fed : CallFed call.feeder call.projectId call.maxItems before after records selected batch own
      others) {row : PersistentWorkflowRow} (member : row ∈ before.workflows.rows) {key : String}
    (decided : row.decisions = [.obj [("type", .str "DEDUPE_KEY"), ("key", .str key)]]) :
    key ∉ records.map FeedRecord.dedupeKey := by
  have taken : Taken call before selected batch := feedPlan_taken fed.plan
  rw [fed.keys]
  intro fedNow
  rcases List.mem_append.mp fedNow with mine | theirs
  · obtain ⟨envelope, chosen, rfl⟩ := List.mem_map.mp mine
    obtain ⟨⟨⟨item, -, made⟩, -, -⟩, -, existing, read, unknown⟩ := taken.selected envelope chosen
    refine unknown (existing_of_decision read member decided ?_)
    rw [made.dedupeKey]
    exact darwinKey_ne_empty _
  · obtain ⟨work, chosen, rfl⟩ := List.mem_map.mp theirs
    obtain ⟨discovered, existing, read, eligible⟩ := taken.batch work chosen
    exact isEligible_unknown eligible
      (existing_of_decision read member decided (discoverGlobalWork_key discovered))

end

theorem recorded_step {before : Tables} (state : FeedState) (call : FeedCall)
    (recorded : Recorded before state) : Recorded before (feedStep state call) := by
  rcases feedStep_cases state call with same | ⟨selected, batch, own, others, fed, records⟩
  · rw [same]
    exact recorded
  have reordered : (others.map FedEntry.record ++ own.map FedEntry.record).Perm
      (own.map FedEntry.record ++ others.map FedEntry.record) := List.perm_append_comm
  constructor
  · have listed := reordered.map FeedRecord.taskId
    rw [← List.map_append, List.map_map] at listed
    have appended := recorded.tasks.append listed
    rw [List.append_assoc, ← List.map_append, ← records] at appended
    rw [fed.feeds.tasks]
    exact appended
  · rw [fed.feeds.workflowIds, records, List.filterMap_append, ← List.append_assoc, List.map_append]
    exact recorded.workflows.append (reordered.filterMap FeedRecord.workflowId)
  · intro record member workflowId named
    rw [records] at member
    rcases List.mem_append.mp member with old | new
    · obtain ⟨workflow, listed, is, owner, decided⟩ := recorded.held record old workflowId named
      obtain ⟨later, present, same⟩ := fed.feeds.kept listed
      refine ⟨later, present, ?_, ?_, ?_⟩
      · exact (congrArg WorkflowContent.id same).trans is
      · exact (congrArg WorkflowContent.taskId same).trans owner
      · exact (congrArg WorkflowContent.decisions same).trans decided
    · rw [← List.map_append] at new
      obtain ⟨entry, listed, rfl⟩ := List.mem_map.mp new
      have inside : entry ∈ others ++ own := (List.perm_append_comm.mem_iff).mp listed
      obtain ⟨row, present, same⟩ := fed.feeds.made inside (entry.content_named named)
      refine ⟨row, present, ?_, ?_, ?_⟩
      · exact congrArg WorkflowContent.id same
      · exact congrArg WorkflowContent.taskId same
      · rw [(fed.feeds.recorded entry inside).dedupeKey]
        exact congrArg WorkflowContent.decisions same

theorem fedOnce_step {before : Tables} (state : FeedState) (call : FeedCall)
    (recorded : Recorded before state) (once : FedOnce state.records) (takes : TakesOnce state call) :
    FedOnce (feedStep state call).records := by
  rcases feedStep_cases state call with same | ⟨selected, batch, own, others, fed, records⟩
  · rw [same]
    exact once
  obtain ⟨distinct, stated⟩ := takes selected batch fed.plan
  rw [records]
  constructor
  · rw [List.map_append, List.nodup_append']
    refine ⟨once.keys, ?_, ?_⟩
    · rw [fed.keys]
      exact distinct
    · intro key old new
      obtain ⟨record, member, rfl⟩ := List.mem_map.mp old
      obtain ⟨workflowId, named⟩ := Option.isSome_iff_exists.mp (once.workflows record member)
      obtain ⟨workflow, listed, -, -, decided⟩ := recorded.held record member workflowId named
      exact fed.unknown listed decided new
  · intro record member
    rcases List.mem_append.mp member with old | new
    · exact once.workflows record old
    · exact (fed.workflows.mpr stated) record new

/-- A call that returns and takes a key twice, or a package that states nothing, has fed it so. -/
theorem takesOnce_of_fedOnce (state : FeedState) (call : FeedCall)
    (returned : (call.apply state.store).1.isOk = true)
    (once : FedOnce (feedStep state call).records) : TakesOnce state call := by
  intro selected batch planned
  obtain ⟨records, after, applied⟩ : ∃ records after, call.apply state.store = (.ok records, after) := by
    generalize call.apply state.store = ended at returned
    rcases ended with ⟨error | records, after⟩
    · cases returned
    · exact ⟨records, after, rfl⟩
  obtain ⟨sameSelected, sameBatch, own, others, fed⟩ := feedIntoQueue_ok applied
  have same : (selected, batch) = (sameSelected, sameBatch) :=
    Except.ok.inj (planned.symm.trans fed.plan)
  cases same
  have is : (feedStep state call).records = state.records ++ records := by
    rw [feedStep, applied]
  rw [is] at once
  constructor
  · have keys := once.keys
    rw [List.map_append, List.nodup_append'] at keys
    rw [← fed.keys]
    exact keys.2.1
  · rw [← fed.workflows]
    exact fun record member => once.workflows record (List.mem_append_right _ member)

/-! ### All calls -/

def WorkKept (before after : FeedState) : Prop :=
  before.store.workflows.Keeps (fun row later => content later = content row) after.store.workflows

/-- Feeding leaves the workflows that are there their project, their task, their backlog and their
decisions. -/
theorem feeding_keeps_work (start : FeedState) (calls : List FeedCall) :
    WorkKept start (Run.run feedStep start calls) := by
  apply Run.relation_run feedStep WorkKept (fun _ row member => ⟨row, member, rfl⟩)
  · exact fun _ _ _ => Table.keeps_trans fun _ _ _ one two => two.trans one
  · intro state call row member
    rcases feedStep_cases state call with same | ⟨_, _, _, _, fed, -⟩
    · exact ⟨row, same.symm ▸ member, rfl⟩
    · exact fed.feeds.kept member

theorem feedStep_grows (state : FeedState) (call : FeedCall) :
    state.records <+: (feedStep state call).records := by
  rcases feedStep_cases state call with same | ⟨selected, batch, own, others, fed, records⟩
  · exact same.symm ▸ List.prefix_refl state.records
  · exact ⟨_, records.symm⟩

theorem fedOnce_prefix {front all : List FeedRecord} (grown : front <+: all) (once : FedOnce all) :
    FedOnce front where
  keys := once.keys.sublist (grown.sublist.map FeedRecord.dedupeKey)
  workflows := fun record member => once.workflows record (grown.subset member)

/-- The calls feed the work they record. If each takes every key once, and no package that
states nothing, then each key has one task and one workflow, and each task its workflow; a
call that returns and does not, leaves a key with two tasks or a task without a workflow. -/
theorem feed_once (start : Store) (calls : List FeedCall) :
    Recorded start.toTables (Run.run feedStep ⟨start, []⟩ calls) ∧
      (Run.Meets feedStep TakesOnce ⟨start, []⟩ calls →
        FedOnce (Run.run feedStep ⟨start, []⟩ calls).records) ∧
      (FedOnce (Run.run feedStep ⟨start, []⟩ calls).records →
        ∀ front call back, calls = front ++ call :: back →
          (call.apply (Run.run feedStep ⟨start, []⟩ front).store).1.isOk = true →
            TakesOnce (Run.run feedStep ⟨start, []⟩ front) call) := by
  have first : Recorded start.toTables ⟨start, []⟩ := by
    refine ⟨?_, ?_, fun record member => absurd member List.not_mem_nil⟩
    · rw [List.map_nil, List.append_nil]
    · rw [List.filterMap_nil, List.append_nil]
  refine ⟨Run.invariant_run feedStep _ recorded_step ⟨start, []⟩ calls first, ?_, ?_⟩
  · intro meets
    have both := Run.invariant_guarded feedStep TakesOnce
      (fun state => Recorded start.toTables state ∧ FedOnce state.records)
      (fun state call holds takes =>
        ⟨recorded_step state call holds.1, fedOnce_step state call holds.1 holds.2 takes⟩)
      ⟨start, []⟩ calls ⟨first, ⟨List.nodup_nil, fun _ member => absurd member List.not_mem_nil⟩⟩ meets
    exact both.2
  · intro once front call back split returned
    apply takesOnce_of_fedOnce _ call returned
    refine fedOnce_prefix ?_ once
    rw [split, Run.run_append, Run.run_cons]
    exact Run.relation_run feedStep (fun one two => one.records <+: two.records)
      (fun _ => List.prefix_refl _) (fun _ _ _ => List.IsPrefix.trans) feedStep_grows _ back

def readyItem : Json :=
  .obj [("item_id", .str "MON-004"), ("title", .str "Compare venues"),
    ("objective", .str "Compare the fees of the venues"), ("status", .str "READY"),
    ("provenance_refs", .arr [.str "docs/venues.md"])]

def oneItemCall : FeedCall where
  feeder := { backlog := [readyItem] }
  adapter := { gates := fun _ _ => .ok [] }

/-- One call, on a backlog of one item: the feeder selects it, and so does the portfolio. -/
theorem one_item_fed_twice :
    ¬ ∀ (start : Store) (calls : List FeedCall),
      FedOnce (Run.run feedStep ⟨start, []⟩ calls).records := by
  intro always
  have fed : (Run.run feedStep ⟨{}, []⟩ [oneItemCall]).records.map FeedRecord.dedupeKey =
      ["darwin:MON-004", "darwin:MON-004"] := by decide +kernel
  have distinct := (always {} [oneItemCall]).keys
  rw [fed] at distinct
  exact absurd distinct (by decide)

end Lucius.Portfolio
