import Lucius.Portfolio.FeedSteps
import Mathlib.Data.List.TakeWhile

/-! What is known of the work that the sources yield: where each piece comes from, under which
key, and whether its contract states something. -/

namespace Lucius.Portfolio

open Tasks Queue

/-! ### Blank texts -/

theorem dropWhile_eq_nil_of_all {α : Type} {holds : α → Bool} {items : List α}
    (all : ∀ item ∈ items.dropWhile holds, holds item = true) : items.dropWhile holds = [] := by
  generalize kept : items.dropWhile holds = rest at all
  cases rest with
  | nil => rfl
  | cons first later =>
    have head := List.head?_dropWhile_not holds items
    rw [kept, List.head?_cons] at head
    have false : holds first = false := by simpa using head
    rw [all first List.mem_cons_self] at false
    cases false

theorem strip_eq_nil_of_all {chars : List Char}
    (all : ∀ char ∈ Json.strip chars, Json.isSpace char = true) : Json.strip chars = [] := by
  unfold Json.strip at all ⊢
  rw [List.reverse_eq_nil_iff]
  apply dropWhile_eq_nil_of_all
  intro char member
  exact all char (List.mem_reverse.mpr member)

theorem all_of_strip_eq_nil {chars : List Char} (blank : Json.strip chars = []) :
    ∀ char ∈ chars, Json.isSpace char = true := by
  have front : chars.dropWhile Json.isSpace = [] := by
    unfold Json.strip at blank
    rw [List.reverse_eq_nil_iff, List.dropWhile_eq_nil_iff] at blank
    apply dropWhile_eq_nil_of_all
    intro char member
    exact blank char (List.mem_reverse.mpr member)
  exact List.dropWhile_eq_nil_iff.mp front

theorem strip_stripped {chars : List Char} (some : Json.strip chars ≠ []) :
    Json.strip (Json.strip chars) ≠ [] := by
  intro blank
  exact some (strip_eq_nil_of_all (all_of_strip_eq_nil blank))

theorem stripped_notBlank {value : Json} (some : (stripped value).toList ≠ []) :
    isBlank (stripped value) = false := by
  unfold stripped at some
  rw [String.toList_ofList] at some
  rw [isBlank, stripped, String.toList_ofList, List.isEmpty_eq_false_iff]
  exact strip_stripped some

/-! ### Criteria -/

theorem normalizeCriterion_text (index number : Nat) (text : String) :
    ∃ key, Tasks.normalizeCriterion index (GlobalWorkPortfolioService.criterion number text) =
      .ok (if (String.ofList (Json.strip text.toList)).toList.isEmpty then none
        else some [("id", key), ("statement", .str (String.ofList (Json.strip text.toList))),
          ("status", .str "PENDING")]) := ⟨_, rfl⟩

theorem normalizeCriterion_criterion (index number : Nat) (text : String) :
    ∃ kept, Tasks.normalizeCriterion index (GlobalWorkPortfolioService.criterion number text) =
      .ok kept ∧ (kept = none ↔ isBlank text = true) := by
  obtain ⟨key, read⟩ := normalizeCriterion_text index number text
  refine ⟨_, read, ?_⟩
  unfold isBlank
  rw [String.toList_ofList]
  cases (Json.strip text.toList).isEmpty <;> simp

theorem normalizeCriteria_numbered (index : Nat) (numbered : List (Nat × String)) :
    ∃ kept, normalizeCriteriaFrom index (numbered.map (fun entry =>
        GlobalWorkPortfolioService.criterion entry.1 entry.2)) = .ok kept ∧
      (kept = [] ↔ ∀ entry ∈ numbered, isBlank entry.2 = true) := by
  induction numbered generalizing index with
  | nil => exact ⟨[], rfl, iff_of_true rfl (fun _ member => absurd member List.not_mem_nil)⟩
  | cons entry rest ih =>
    obtain ⟨first, read, here⟩ := normalizeCriterion_criterion index entry.1 entry.2
    obtain ⟨more, later, there⟩ := ih (index + 1)
    refine ⟨first.toList ++ more, ?_, ?_⟩
    · rw [List.map_cons, normalizeCriteriaFrom, read]
      dsimp only [bind, Except.bind]
      rw [later]
      rfl
    · rw [List.append_eq_nil_iff, there, List.forall_mem_cons, ← here, Option.toList_eq_nil_iff]

/-- The contract of a package states something. -/
def StatedPackage (work : NormalizedWorkPackage) : Prop :=
  isBlank work.objective = false ∧
    (work.acceptanceCriteria = [] ∨ ∃ text ∈ work.acceptanceCriteria, isBlank text = false)

theorem stated_package_iff (feeder : DarwinBacklogFeeder) (repositoryId : String)
    (work : NormalizedWorkPackage) :
    Stated (GlobalWorkPortfolioService.fedWork feeder repositoryId work).terms ↔ StatedPackage work := by
  have numbered (texts : List String) :
      ∃ kept, normalizeCriteriaFrom 1
          (texts.mapIdx (fun index text => GlobalWorkPortfolioService.criterion (index + 1) text)) =
        .ok kept ∧ (kept = [] ↔ ∀ text ∈ texts, isBlank text = true) := by
    obtain ⟨kept, read, blank⟩ :=
      normalizeCriteria_numbered 1 (texts.zipIdx.map (fun entry => (entry.2 + 1, entry.1)))
    refine ⟨kept, ?_, ?_⟩
    · rw [← read, List.mapIdx_eq_zipIdx_map, List.map_map]
      rfl
    · rw [blank, List.forall_mem_map]
      dsimp only
      constructor
      · intro all text member
        rw [← List.zipIdx_map_fst 0 texts] at member
        obtain ⟨entry, listed, rfl⟩ := List.mem_map.mp member
        exact all entry listed
      · intro all entry listed
        exact all entry.1 (List.fst_mem_of_mem_zipIdx listed)
  unfold Stated StatedPackage
  apply and_congr Iff.rfl
  obtain ⟨kept, read, blank⟩ := numbered (if work.acceptanceCriteria.isEmpty then
    ["Verify canonical evidence"] else work.acceptanceCriteria)
  have listed : (∃ criteria, normalizeCriteriaFrom 1
      (GlobalWorkPortfolioService.criteria work) = .ok criteria ∧ criteria ≠ []) ↔ kept ≠ [] := by
    constructor
    · rintro ⟨criteria, same, some⟩
      rw [GlobalWorkPortfolioService.criteria, read] at same
      cases same
      exact some
    · exact fun some => ⟨kept, read, some⟩
  refine Iff.trans listed ?_
  rw [Ne, blank]
  cases work.acceptanceCriteria with
  | nil =>
    refine iff_of_true ?_ (.inl rfl)
    intro all
    exact absurd (all "Verify canonical evidence" List.mem_cons_self) (by decide)
  | cons text rest =>
    rw [List.isEmpty_cons, if_neg Bool.false_ne_true]
    push Not
    simp only [Bool.not_eq_true, List.cons_ne_nil, false_or]

theorem darwinKey_ne_empty (itemId : String) : darwinKey itemId ≠ "" := by
  intro empty
  have chars := congrArg String.toList empty
  simp [darwinKey, String.toList_append] at chars

/-! ### What the feeder discovers -/

theorem mem_upTo {α : Type} {items : List α} {stop : Int} {item : α}
    (member : item ∈ GlobalWorkPortfolioService.upTo items stop) : item ∈ items := by
  unfold GlobalWorkPortfolioService.upTo at member
  split at member
  · exact List.mem_of_mem_take member
  · exact List.mem_of_mem_take member

/-- What an envelope is made of. -/
structure EnvelopeOf (projectId : String) (data : Dict) (envelope : NormalizedTaskEnvelope) : Prop where
  sourceItemId : envelope.sourceItemId = Portfolio.sourceItemId data
  dedupeKey : envelope.dedupeKey = darwinKey envelope.sourceItemId
  authorityClass : envelope.authorityClass = itemAuthorityClass data
  unattended : envelope.isEligibleForUnattended = decide (envelope.authorityClass ∈ ["CLASS_A", "CLASS_B"])
  ready : upper (data.getOr "status" (.str "")).pyStr = "READY"
  unblocked : (data.getOr "blocked_by" (.arr [])).truthy = false
  objective : isBlank envelope.objective = false
  dependencies : ∃ listed, (data.getOr "dependencies" (.arr [])).pyIter = .ok listed ∧
    envelope.dependencies = listed.map Json.pyStr
  priority : envelope.priority =
    taskPriority (envelope.rawPayload.getOr "priority" (.str "P1")).pyStr

theorem envelopeOf_ok {projectId : String} {data : Dict} {envelope : NormalizedTaskEnvelope}
    (read : envelopeOf projectId data = .ok (some envelope)) : EnvelopeOf projectId data envelope := by
  unfold envelopeOf at read
  dsimp only at read
  split at read
  · cases read
  split at read
  · cases read
  next ready =>
  split at read
  · cases read
  next unblocked =>
  split at read
  · cases read
  next stated =>
  obtain ⟨references, _, read⟩ := except_bind_ok read
  obtain ⟨dependencies, listed, read⟩ := except_bind_ok read
  cases read
  rw [Bool.or_eq_true, not_or] at stated
  refine ⟨rfl, rfl, rfl, rfl, not_not.mp ready, by simpa using unblocked, ?_,
    ⟨dependencies, listed, rfl⟩, rfl⟩
  apply stripped_notBlank
  intro empty
  exact stated.2 (List.isEmpty_iff.mpr empty)

theorem normalizeItem_some {projectId : String} {item : Json} {envelope : NormalizedTaskEnvelope}
    (read : normalizeItem projectId item = some envelope) :
    EnvelopeOf projectId (rawData item) envelope := by
  unfold normalizeItem at read
  split at read
  · next found same =>
      rw [read] at same
      exact envelopeOf_ok same
  · cases read

namespace DarwinBacklogFeeder

/-- What the feeder discovers: an item of an allowed class that the guard passes. -/
structure Discovered (feeder : DarwinBacklogFeeder) (projectId : String) (allowed : List String)
    (envelope : NormalizedTaskEnvelope) : Prop where
  item : ∃ item ∈ feeder.backlog, EnvelopeOf projectId (rawData item) envelope
  allowed : envelope.authorityClass ∈ allowed
  passed : ∀ passes, feeder.regressionGuard = some passes → passes envelope = .ok true

theorem admitted_some {feeder : DarwinBacklogFeeder} {projectId : String} {allowed : List String}
    {item : Json} {envelope : NormalizedTaskEnvelope} (member : item ∈ feeder.backlog)
    (read : feeder.admitted projectId allowed item = .ok (some envelope)) :
    feeder.Discovered projectId allowed envelope := by
  unfold admitted at read
  split at read
  · cases read
  next known normalized =>
  have made := normalizeItem_some normalized
  split at read
  · cases read
  next allowedClass =>
  have inside := not_not.mp allowedClass
  split at read
  · next guardless =>
      cases read
      refine ⟨⟨item, member, made⟩, inside, ?_⟩
      intro passes present
      rw [guardless] at present
      cases present
  · next passes guarded =>
      obtain ⟨verdict, judged, read⟩ := except_bind_ok read
      cases verdict with
      | false => cases read
      | true =>
        cases read
        refine ⟨⟨item, member, made⟩, inside, ?_⟩
        intro other present
        rw [guarded] at present
        cases present
        exact judged

theorem discoverEligibleTasks_mem {feeder : DarwinBacklogFeeder} {projectId : String}
    {allowed : List String} {eligible : List NormalizedTaskEnvelope}
    (read : feeder.discoverEligibleTasks projectId allowed = .ok eligible)
    {envelope : NormalizedTaskEnvelope} (member : envelope ∈ eligible) :
    feeder.Discovered projectId allowed envelope := by
  unfold discoverEligibleTasks at read
  obtain ⟨found, admits, read⟩ := except_bind_ok read
  obtain ⟨weights, weighs, read⟩ := except_bind_ok read
  cases read
  obtain ⟨weighed, sorted, rfl⟩ := List.mem_map.mp member
  rw [mem_sortedBy] at sorted
  obtain ⟨known, listed, made⟩ := forall₂_right (mapM_ok weighs) sorted
  have same : weighed.2 = known := by
    unfold weighted at made
    obtain ⟨weight, _, made⟩ := except_bind_ok made
    cases made
    rfl
  obtain ⟨admittedOne, present, is⟩ := List.mem_filterMap.mp listed
  obtain ⟨item, inBacklog, admits⟩ := forall₂_right (mapM_ok admits) present
  rw [show admittedOne = some known from is] at admits
  rw [same]
  exact admitted_some inBacklog admits

end DarwinBacklogFeeder

theorem stated_envelope (feeder : DarwinBacklogFeeder) (projectId repositoryId : String)
    {envelope : NormalizedTaskEnvelope} (objective : isBlank envelope.objective = false) :
    Stated (feeder.fedWork projectId repositoryId envelope).terms := by
  obtain ⟨kept, read, blank⟩ := normalizeCriteria_numbered 1
    [(1, "Evidence gathered and verified from canonical sources")]
  refine ⟨objective, kept, read, ?_⟩
  rw [Ne, blank, List.forall_mem_singleton]
  decide

/-! ### What the portfolio discovers -/

theorem mem_firstOfKey {seen : List String} {works : List NormalizedWorkPackage}
    {work : NormalizedWorkPackage} (member : work ∈ firstOfKey seen works) : work ∈ works := by
  induction works generalizing seen with
  | nil => exact member
  | cons first rest ih =>
    unfold firstOfKey at member
    split at member
    · exact List.mem_cons_of_mem _ (ih member)
    · rcases List.mem_cons.mp member with same | later
      · exact same ▸ List.mem_cons_self
      · exact List.mem_cons_of_mem _ (ih later)

theorem mem_discoverGlobalWork {feeder : DarwinBacklogFeeder} {allowed : List String}
    {work : NormalizedWorkPackage} (member : work ∈ discoverGlobalWork feeder allowed) :
    (∃ item ∈ feeder.backlog, DarwinBacklogAdapter.workPackage allowed item = .ok (some work)) ∨
      (feeder.customItems = false ∧ ∃ entry ∈ feeder.registry,
        work = CanonicalRoadmapAdapter.workPackage allowed entry.1 entry.2) := by
  unfold discoverGlobalWork at member
  rw [mem_sortedBy] at member
  rcases List.mem_append.mp (mem_firstOfKey member) with backlog | gate
  · refine .inl ?_
    cases read : DarwinBacklogAdapter.discoverWorkPackages feeder allowed with
    | error _ =>
      rw [read] at backlog
      cases backlog
    | ok works =>
      rw [read] at backlog
      unfold DarwinBacklogAdapter.discoverWorkPackages at read
      obtain ⟨found, reads, same⟩ := except_bind_ok read
      cases same
      obtain ⟨package, listed, is⟩ := List.mem_filterMap.mp backlog
      obtain ⟨item, present, made⟩ := forall₂_right (mapM_ok reads) listed
      exact ⟨item, present, by rw [made, show package = some work from is]⟩
  · refine .inr ?_
    split at gate
    · cases gate
    · next custom =>
        obtain ⟨entry, listed, rfl⟩ := List.mem_map.mp gate
        exact ⟨by simpa using custom, entry, List.mem_of_mem_filter listed, rfl⟩

/-- What the package of an item is made of. -/
structure PackageOf (allowed : List String) (data : Dict) (work : NormalizedWorkPackage) : Prop where
  sourceRecordId : work.sourceRecordId = sourceItemId data
  dedupeKey : work.dedupeKey = darwinKey work.sourceRecordId
  authorityClass : work.authorityClass = itemAuthorityClass data
  state : ∃ state, work.currentState = stateUnderAuthority allowed work.authorityClass state ∧
    darwinState work.sourceRecordId (upper (data.getOr "status" (.str "QUEUED")).pyStr)
      (data.getOr "blocked_by" (.arr [])) work.provenanceRefs = some state
  dependencies : ∃ listed, (data.getOr "dependencies" (.arr [])).pyIter = .ok listed ∧
    work.dependencies = listed.map Json.pyStr

theorem packageOf_ok {allowed : List String} {item : Json} {work : NormalizedWorkPackage}
    (read : DarwinBacklogAdapter.workPackage allowed item = .ok (some work)) :
    PackageOf allowed (rawData item) work := by
  unfold DarwinBacklogAdapter.workPackage at read
  dsimp only at read
  split at read
  · cases read
  obtain ⟨listed, _, read⟩ := except_bind_ok read
  split at read
  · cases read
  next state known =>
  obtain ⟨dependencies, depends, read⟩ := except_bind_ok read
  obtain ⟨_, _, read⟩ := except_bind_ok read
  obtain ⟨criteria, _, read⟩ := except_bind_ok read
  cases read
  exact ⟨rfl, rfl, rfl, ⟨state, rfl, known⟩, dependencies, depends, rfl⟩

theorem discoverGlobalWork_key {feeder : DarwinBacklogFeeder} {allowed : List String}
    {work : NormalizedWorkPackage} (member : work ∈ discoverGlobalWork feeder allowed) :
    work.dedupeKey ≠ "" := by
  rcases mem_discoverGlobalWork member with ⟨item, -, read⟩ | ⟨-, entry, -, rfl⟩
  · rw [(packageOf_ok read).dedupeKey]
    exact darwinKey_ne_empty _
  · intro empty
    have chars := congrArg String.toList empty
    rw [CanonicalRoadmapAdapter.workPackage] at chars
    simp [String.toList_append] at chars

end Lucius.Portfolio
