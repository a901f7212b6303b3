import Lucius.Portfolio.FeedOnce

/-! Which work is taken for known. The keys of the queue are enlarged with other spellings of
its item ids, so that work which was never fed can be suppressed as a duplicate. -/

namespace Lucius.Portfolio

def withoutFeedText (text : String) : String := String.ofList (withoutFeed text.toList)

/-- The keys under which work was fed. -/
def fedKeys (tables : Tables) : List String :=
  tables.workflows.rows.flatMap (fun row => row.decisions.flatMap decisionKeys)

/-- The key and the source id of a piece of work: of an item of the backlog, or of the next
gate of a project. -/
def SourceKey (key source : String) : Prop :=
  key = darwinKey source ∨
    ∃ gate, key = "registry_gate:" ++ gate ∧ source = "registry:" ++ gate

/-- A workflow that was fed, with what the queue may have made of its item since. -/
structure FedRow (row : PersistentWorkflowRow) (key source : String) : Prop where
  work : SourceKey key source
  decisions : row.decisions = [.obj [("type", .str "DEDUPE_KEY"), ("key", .str key)]]
  backlog : ∃ item : Dict, row.taskBacklog = [item] ∧
    item.get "item_id" = .str (feedItemId source) ∧
    item.get "logical_task_id" = .str (feedItemId source) ∧ item.get "dedupe_key" = .str key

def AllFed (tables : Tables) : Prop :=
  ∀ row ∈ tables.workflows.rows, ∃ key source, FedRow row key source

/-- The source id of a workflow that was fed. -/
def FedSource (tables : Tables) (source : String) : Prop :=
  ∃ row ∈ tables.workflows.rows, ∃ key, FedRow row key source

/-! ### Keys of different kinds -/

theorem SourceKey.nonempty {key source : String} (work : SourceKey key source) : key ≠ "" := by
  rcases work with rfl | ⟨gate, rfl, -⟩
  · exact darwinKey_ne_empty source
  · intro empty
    have chars := congrArg String.toList empty
    simp [String.toList_append] at chars

theorem SourceKey.ne_feedItemId {key source other : String} (work : SourceKey key source) :
    key ≠ feedItemId other := by
  intro same
  rcases work with rfl | ⟨gate, rfl, -⟩ <;>
    · have chars := congrArg String.toList same
      simp [darwinKey, feedItemId, String.toList_append] at chars

theorem SourceKey.ne_portfolio {key source other : String} (work : SourceKey key source) :
    key ≠ "portfolio:" ++ other := by
  intro same
  rcases work with rfl | ⟨gate, rfl, -⟩ <;>
    · have chars := congrArg String.toList same
      simp [darwinKey, String.toList_append] at chars

theorem feedItemId_injective {first second : String} (same : feedItemId first = feedItemId second) :
    first = second := by
  have chars := congrArg String.toList same
  rw [feedItemId, feedItemId, String.toList_append, String.toList_append] at chars
  exact String.toList_injective (List.append_cancel_left chars)

theorem darwinKey_injective {first second : String} (same : darwinKey first = darwinKey second) :
    first = second := by
  have chars := congrArg String.toList same
  rw [darwinKey, darwinKey, String.toList_append, String.toList_append] at chars
  exact String.toList_injective (List.append_cancel_left chars)

theorem feedItemId_ne_darwin (source itemId : String) : feedItemId source ≠ darwinKey itemId :=
  fun same => SourceKey.ne_feedItemId (.inl rfl) same.symm

theorem feedItemId_ne_portfolio (source other : String) : feedItemId source ≠ "portfolio:" ++ other := by
  intro same
  have chars := congrArg String.toList same
  simp [feedItemId, String.toList_append] at chars

theorem withoutFeedText_feedItemId (source : String) :
    withoutFeedText (feedItemId source) = withoutFeedText source := by
  rw [withoutFeedText, feedItemId, String.toList_append]
  rfl

/-! ### What is known of a queue of fed workflows -/

theorem truthy_of_ne_empty {text : String} (some : text ≠ "") : (Json.str text).truthy = true := by
  have chars : text.toList ≠ [] := fun empty => some (String.toList_injective (empty.trans rfl))
  simpa [Json.truthy] using chars

theorem feedItemId_ne_empty (source : String) : feedItemId source ≠ "" := by
  intro empty
  have chars := congrArg String.toList empty
  simp [feedItemId, String.toList_append] at chars

theorem workflowKeys_fed {row : PersistentWorkflowRow} {key source : String}
    (fed : FedRow row key source) :
    workflowKeys row = .ok (row.decisions.flatMap decisionKeys ++ [key, feedItemId source,
      darwinKey (withoutFeedText source),
      "portfolio:" ++ row.projectId.getD "None" ++ ":" ++ feedItemId source, feedItemId source]) := by
  obtain ⟨item, backlog, itemId, logical, dedupe⟩ := fed.backlog
  have named := truthy_of_ne_empty (feedItemId_ne_empty source)
  have keyed := truthy_of_ne_empty fed.work.nonempty
  have ids : itemIdKeys row.projectId (item.get "item_id") = .ok [feedItemId source,
      darwinKey (withoutFeedText source),
      "portfolio:" ++ row.projectId.getD "None" ++ ":" ++ feedItemId source] := by
    rw [itemId, itemIdKeys, named, ← withoutFeedText_feedItemId]
    rfl
  have keys : itemKeys row.projectId item = .ok [key, feedItemId source,
      darwinKey (withoutFeedText source),
      "portfolio:" ++ row.projectId.getD "None" ++ ":" ++ feedItemId source, feedItemId source] := by
    rw [itemKeys, ids, dedupe, logical, keyed, named, Json.pyStr_str, Json.pyStr_str]
    rfl
  rw [workflowKeys, backlog, List.mapM_cons, keys]
  rfl

theorem fedKeys_mem {tables : Tables} {row : PersistentWorkflowRow} {key source : String}
    (member : row ∈ tables.workflows.rows) (fed : FedRow row key source) : key ∈ fedKeys tables := by
  refine List.mem_flatMap.mpr ⟨row, member, ?_⟩
  rw [fed.decisions, List.flatMap_cons, List.flatMap_nil, List.append_nil]
  exact decisionKeys_dedupe fed.work.nonempty

theorem existingDedupeKeys_fed {tables : Tables} (fed : AllFed tables) :
    ∃ existing, existingDedupeKeys tables = .ok existing := by
  have each : ∀ row ∈ tables.workflows.rows, ∃ keys, workflowKeys row = .ok keys := by
    intro row member
    obtain ⟨key, source, is⟩ := fed row member
    exact ⟨_, workflowKeys_fed is⟩
  obtain ⟨keys, read⟩ := mapM_ok_of_forall each
  exact ⟨keys.flatten, by rw [existingDedupeKeys, read]; rfl⟩

theorem mem_existing_iff {tables : Tables} {existing : List String} (fed : AllFed tables)
    (read : existingDedupeKeys tables = .ok existing) (wanted : String) :
    wanted ∈ existing ↔ ∃ row ∈ tables.workflows.rows, ∃ key source, FedRow row key source ∧
      (wanted = key ∨ wanted = feedItemId source ∨ wanted = darwinKey (withoutFeedText source) ∨
        wanted = "portfolio:" ++ row.projectId.getD "None" ++ ":" ++ feedItemId source) := by
  unfold existingDedupeKeys at read
  obtain ⟨keys, reads, read⟩ := except_bind_ok read
  cases read
  rw [mem_mapM_flatten reads]
  constructor
  · rintro ⟨row, member, values, own, inside⟩
    obtain ⟨key, source, is⟩ := fed row member
    rw [workflowKeys_fed is] at own
    cases own
    refine ⟨row, member, key, source, is, ?_⟩
    rcases List.mem_append.mp inside with decided | listed
    · refine .inl ?_
      rw [is.decisions, List.flatMap_cons, List.flatMap_nil, List.append_nil] at decided
      have own := decisionKeys_dedupe is.work.nonempty
      have single : decisionKeys (.obj [("type", .str "DEDUPE_KEY"), ("key", .str key)]) = [key] := by
        have shape : decisionKeys (.obj [("type", .str "DEDUPE_KEY"), ("key", .str key)]) =
            if (Json.str key).truthy then [key] else [] := rfl
        rw [shape, if_pos (truthy_of_ne_empty is.work.nonempty)]
      rw [single, List.mem_singleton] at decided
      exact decided
    · simp only [List.mem_cons, List.not_mem_nil, or_false] at listed
      rcases listed with same | same | same | same | same
      · exact .inl same
      · exact .inr (.inl same)
      · exact .inr (.inr (.inl same))
      · exact .inr (.inr (.inr same))
      · exact .inr (.inl same)
  · rintro ⟨row, member, key, source, is, spelled⟩
    refine ⟨row, member, _, workflowKeys_fed is, List.mem_append_right _ ?_⟩
    rcases spelled with same | same | same | same <;> simp [same]

section

variable {tables : Tables} {existing : List String} {key source : String}

theorem unfed_known_iff (fed : AllFed tables) (read : existingDedupeKeys tables = .ok existing)
    (work : SourceKey key source) (unfed : key ∉ fedKeys tables) :
    key ∈ existing ↔ ∃ other, FedSource tables other ∧ key = darwinKey (withoutFeedText other) := by
  rw [mem_existing_iff fed read]
  constructor
  · rintro ⟨row, member, known, other, is, spelled⟩
    rcases spelled with same | same | same | same
    · exact absurd (same ▸ fedKeys_mem member is) unfed
    · exact absurd same work.ne_feedItemId
    · exact ⟨other, ⟨row, member, known, is⟩, same⟩
    · rw [String.append_assoc, String.append_assoc] at same
      exact absurd same work.ne_portfolio
  · rintro ⟨other, ⟨row, member, known, is⟩, same⟩
    exact ⟨row, member, known, other, is, .inr (.inr (.inl same))⟩

theorem itemId_known_iff (fed : AllFed tables) (read : existingDedupeKeys tables = .ok existing) :
    feedItemId source ∈ existing ↔ FedSource tables source := by
  rw [mem_existing_iff fed read]
  constructor
  · rintro ⟨row, member, known, other, is, spelled⟩
    rcases spelled with same | same | same | same
    · exact absurd same.symm is.work.ne_feedItemId
    · rw [feedItemId_injective same]
      exact ⟨row, member, known, is⟩
    · exact absurd same (feedItemId_ne_darwin _ _)
    · rw [String.append_assoc, String.append_assoc] at same
      exact absurd same (feedItemId_ne_portfolio _ _)
  · rintro ⟨row, member, known, is⟩
    exact ⟨row, member, known, source, is, .inr (.inl rfl)⟩

end

/-! ### The work that is taken -/

theorem EnvelopeOf.sourceKey {projectId : String} {data : Dict} {envelope : NormalizedTaskEnvelope}
    (made : EnvelopeOf projectId data envelope) :
    SourceKey envelope.dedupeKey envelope.sourceItemId := .inl made.dedupeKey

theorem package_sourceKey {feeder : DarwinBacklogFeeder} {allowed : List String}
    {work : NormalizedWorkPackage} (member : work ∈ discoverGlobalWork feeder allowed) :
    SourceKey work.dedupeKey work.sourceRecordId := by
  rcases mem_discoverGlobalWork member with ⟨item, -, read⟩ | ⟨-, entry, -, rfl⟩
  · exact .inl (packageOf_ok read).dedupeKey
  · refine .inr ⟨entry.1 ++ ":" ++ entry.2.nextCanonicalGate, ?_, ?_⟩
    · rw [CanonicalRoadmapAdapter.workPackage]
      dsimp only
      rw [String.append_assoc, String.append_assoc, String.append_assoc]
    · rw [CanonicalRoadmapAdapter.workPackage]
      dsimp only
      rw [String.append_assoc, String.append_assoc, String.append_assoc]

/-- A queue of fed workflows stays one: what a call feeds has the item id and the key of its work. -/
theorem allFed_step (state : FeedState) (call : FeedCall) (fed : AllFed state.store.toTables) :
    AllFed (feedStep state call).store.toTables := by
  rcases feedStep_cases state call with same | ⟨selected, batch, own, others, calls, -⟩
  · rw [same]
    exact fed
  have taken : Taken call state.store.toTables selected batch := feedPlan_taken calls.plan
  intro row member
  have listed : content row ∈ (feedStep state call).store.workflows.rows.map content :=
    List.mem_map_of_mem member
  rw [calls.feeds.contents] at listed
  rcases List.mem_append.mp listed with old | new
  · obtain ⟨known, present, same⟩ := List.mem_map.mp old
    obtain ⟨key, source, is⟩ := fed known present
    refine ⟨key, source, is.work, ?_, ?_⟩
    · exact (congrArg WorkflowContent.decisions same).symm.trans is.decisions
    · obtain ⟨item, backlog, rest⟩ := is.backlog
      exact ⟨item, (congrArg WorkflowContent.taskBacklog same).symm.trans backlog, rest⟩
  · obtain ⟨entry, present, made⟩ := List.mem_filterMap.mp new
    obtain ⟨workflowId, named⟩ : ∃ workflowId, entry.record.workflowId = some workflowId := by
      cases named : entry.record.workflowId with
      | some workflowId => exact ⟨workflowId, rfl⟩
      | none =>
        rw [FedEntry.content, named] at made
        cases made
    rw [entry.content_named named] at made
    have same := Option.some.inj made
    refine ⟨entry.work.dedupeKey, entry.work.sourceId, ?_, (congrArg WorkflowContent.decisions same).symm,
      entry.work.queueItem entry.record.taskId, (congrArg WorkflowContent.taskBacklog same).symm, ?_⟩
    · rcases List.mem_append.mp present with other | mine
      · obtain ⟨work, chosen, is⟩ := forall₂_right calls.packages other
        rw [is.2]
        exact package_sourceKey (taken.batch work chosen).1
      · obtain ⟨envelope, chosen, is⟩ := forall₂_right calls.envelopes mine
        obtain ⟨⟨item, -, built⟩, -, -⟩ := (taken.selected envelope chosen).1
        rw [is.2]
        exact built.sourceKey
    · rcases List.mem_append.mp present with other | mine
      · obtain ⟨work, -, is⟩ := forall₂_right calls.packages other
        rw [is.2]
        exact ⟨rfl, rfl, rfl⟩
      · obtain ⟨envelope, -, is⟩ := forall₂_right calls.envelopes mine
        rw [is.2]
        exact ⟨rfl, rfl, rfl⟩

theorem allFed_run (start : Store) (calls : List FeedCall) (empty : start.workflows.rows = []) :
    AllFed (Run.run feedStep ⟨start, []⟩ calls).store.toTables := by
  apply Run.invariant_run feedStep (fun state => AllFed state.store.toTables) allFed_step
  intro row member
  rw [empty] at member
  cases member

/-- Work that can be run or prepared and has a reference. -/
def Runnable (work : NormalizedWorkPackage) : Prop :=
  (work.currentState = .ready ∨ work.currentState = .autoPreparable) ∧ work.provenanceRefs ≠ []

theorem isEligible_iff {existing : List String} {work : NormalizedWorkPackage} (runnable : Runnable work) :
    GlobalWorkPortfolioService.isEligible existing work = true ↔
      work.dedupeKey ∉ existing ∧ feedItemId work.sourceRecordId ∉ existing := by
  have references : (!work.provenanceRefs.isEmpty) = true := by
    simpa using runnable.2
  unfold GlobalWorkPortfolioService.isEligible
  rw [references, Bool.and_true, Bool.and_eq_true, Bool.and_eq_true, decide_eq_true_eq,
    decide_eq_true_eq, decide_eq_true_eq]
  exact ⟨fun eligible => ⟨eligible.1.2, eligible.2⟩, fun unknown => ⟨⟨runnable.1, unknown.1⟩, unknown.2⟩⟩

/-- Work that was never fed is taken unless a source that was fed spells its key once `FEED-` is
removed wherever it occurs, or, in the portfolio, has its source id under another key. -/
theorem unfed_taken_iff {tables : Tables} {existing : List String} (fed : AllFed tables)
    (read : existingDedupeKeys tables = .ok existing) (feeder : DarwinBacklogFeeder)
    (projectId : String) (allowed : List String) :
    (∀ eligible, feeder.discoverEligibleTasks projectId allowed = .ok eligible →
      ∀ envelope ∈ eligible, envelope.isEligibleForUnattended = true →
        envelope.dedupeKey ∉ fedKeys tables →
          (envelope ∈ DarwinBacklogFeeder.candidates existing eligible ↔
            ∀ source, FedSource tables source → withoutFeedText source ≠ envelope.sourceItemId)) ∧
    (∀ work ∈ discoverGlobalWork feeder allowed, Runnable work → work.dedupeKey ∉ fedKeys tables →
      (work ∈ (discoverGlobalWork feeder allowed).filter
          (GlobalWorkPortfolioService.isEligible existing) ↔
        ∀ source, FedSource tables source →
          work.dedupeKey ≠ darwinKey (withoutFeedText source) ∧ work.sourceRecordId ≠ source)) := by
  constructor
  · intro eligible discovers envelope member unattended unfed
    obtain ⟨⟨item, -, made⟩, -, -⟩ := DarwinBacklogFeeder.discoverEligibleTasks_mem discovers member
    rw [DarwinBacklogFeeder.candidates, List.mem_filter, Bool.and_eq_true, decide_eq_true_eq,
      unfed_known_iff fed read made.sourceKey unfed]
    constructor
    · rintro ⟨-, unknown, -⟩ source known same
      exact unknown ⟨source, known, by rw [made.dedupeKey, same]⟩
    · intro clear
      refine ⟨member, ?_, unattended⟩
      rintro ⟨source, known, same⟩
      rw [made.dedupeKey] at same
      exact clear source known (darwinKey_injective same).symm
  · intro work member runnable unfed
    rw [List.mem_filter, isEligible_iff runnable,
      unfed_known_iff fed read (package_sourceKey member) unfed, itemId_known_iff fed read]
    constructor
    · rintro ⟨-, unspelled, unfedSource⟩ source known
      exact ⟨fun same => unspelled ⟨source, known, same⟩, fun same => unfedSource (same ▸ known)⟩
    · intro clear
      refine ⟨member, ?_, ?_⟩
      · rintro ⟨source, known, same⟩
        exact (clear source known).1 same
      · intro known
        exact (clear work.sourceRecordId known).2 rfl

/-! ### An id that contains the prefix -/

def researchItem (itemId : String) : Json :=
  .obj [("item_id", .str itemId), ("title", .str "Compare venues"),
    ("objective", .str "Compare the fees of the venues"), ("status", .str "READY")]

/-- A queue that was fed one item, whose id has the prefix inside. -/
def prefixedStore : Store :=
  (Run.run feedStep ⟨{}, []⟩ [{
    feeder := { customItems := true, backlog := [researchItem "XFEED-1"] }
    adapter := { gates := fun _ _ => .ok [] } }]).store

def prefixedKeys : List String :=
  ["darwin:XFEED-1", "darwin:XFEED-1", "FEED-XFEED-1", "darwin:X1",
    "portfolio:darwin-research-engine:FEED-XFEED-1", "FEED-XFEED-1"]

/-- A backlog with an item that the queue was never fed. -/
def unfedFeeder : DarwinBacklogFeeder where
  customItems := true
  backlog := [researchItem "X1"]

theorem prefixedStore_fed : AllFed prefixedStore.toTables := by
  unfold prefixedStore
  exact allFed_run {} _ rfl

theorem prefixedStore_known : existingDedupeKeys prefixedStore.toTables = .ok prefixedKeys := by
  obtain ⟨existing, read⟩ := existingDedupeKeys_fed prefixedStore_fed
  have known : (existingDedupeKeys prefixedStore.toTables).toOption = some prefixedKeys := by
    decide +kernel
  rw [read] at known ⊢
  rw [Option.some.inj known]

theorem prefixedStore_fedKeys : fedKeys prefixedStore.toTables = ["darwin:XFEED-1"] := by
  decide +kernel

theorem unfed_taken_iff_prefixed :
    AllFed prefixedStore.toTables ∧
      existingDedupeKeys prefixedStore.toTables = .ok prefixedKeys ∧
      ∀ eligible, unfedFeeder.discoverEligibleTasks "darwin-research-engine" defaultAuthorityClasses =
          .ok eligible →
        ∀ envelope ∈ eligible, envelope.isEligibleForUnattended = true →
          envelope.dedupeKey ∉ fedKeys prefixedStore.toTables →
            (envelope ∈ DarwinBacklogFeeder.candidates prefixedKeys eligible ↔
              ∀ source, FedSource prefixedStore.toTables source →
                withoutFeedText source ≠ envelope.sourceItemId) :=
  ⟨prefixedStore_fed, prefixedStore_known,
    (unfed_taken_iff prefixedStore_fed prefixedStore_known unfedFeeder "darwin-research-engine"
      defaultAuthorityClasses).1⟩

/-- The item that was never fed is suppressed by the one that was. -/
theorem unfed_item_suppressed :
    ¬ ∀ (tables : Tables) (existing : List String), AllFed tables →
      existingDedupeKeys tables = .ok existing →
        ∀ (feeder : DarwinBacklogFeeder) (projectId : String) (eligible : List NormalizedTaskEnvelope),
          feeder.discoverEligibleTasks projectId defaultAuthorityClasses = .ok eligible →
            ∀ envelope ∈ eligible, envelope.isEligibleForUnattended = true →
              envelope.dedupeKey ∉ fedKeys tables →
                envelope ∈ DarwinBacklogFeeder.candidates existing eligible := by
  intro always
  have found : (unfedFeeder.discoverEligibleTasks "darwin-research-engine"
      defaultAuthorityClasses).toOption.map (List.map (fun envelope =>
        (envelope.dedupeKey, envelope.isEligibleForUnattended))) = some [("darwin:X1", true)] := by
    decide +kernel
  cases read : unfedFeeder.discoverEligibleTasks "darwin-research-engine" defaultAuthorityClasses with
  | error _ =>
    rw [read] at found
    cases found
  | ok eligible =>
    rw [read] at found
    have listed : eligible.map (fun envelope =>
        (envelope.dedupeKey, envelope.isEligibleForUnattended)) = [("darwin:X1", true)] :=
      Option.some.inj found
    obtain ⟨envelope, rest, rfl⟩ : ∃ envelope rest, eligible = envelope :: rest := by
      cases eligible with
      | nil => cases listed
      | cons envelope rest => exact ⟨envelope, rest, rfl⟩
    rw [List.map_cons, List.cons.injEq, Prod.mk.injEq] at listed
    obtain ⟨⟨key, unattended⟩, -⟩ := listed
    have unfed : envelope.dedupeKey ∉ fedKeys prefixedStore.toTables := by
      rw [key, prefixedStore_fedKeys]
      decide
    have taken := always _ _ prefixedStore_fed prefixedStore_known unfedFeeder _ _ read envelope
      List.mem_cons_self unattended unfed
    rw [DarwinBacklogFeeder.candidates, List.mem_filter, Bool.and_eq_true, decide_eq_true_eq] at taken
    refine taken.2.1 ?_
    rw [key]
    decide

end Lucius.Portfolio
