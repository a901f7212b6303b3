import Lucius.Portfolio.FeedOnce

/-! Which of two pieces of work comes first: by the ranks of the portfolio, and by those of the
queue once both are fed. The portfolio writes its own label on an item; the feeder writes one of
the queue's. -/

namespace Lucius.Portfolio

open Queue Lucius.Runtime

/-- A piece of work as it is fed: a package of the portfolio, or an item the feeder selected. -/
inductive Piece where
  | package (work : NormalizedWorkPackage)
  | item (envelope : NormalizedTaskEnvelope)

def NormalizedTaskEnvelope.rawPriority (envelope : NormalizedTaskEnvelope) : String :=
  (envelope.rawPayload.getOr "priority" (.str "P1")).pyStr

/-- The priority of the package that the portfolio makes of the piece. -/
def Piece.priority : Piece → String
  | .package work => work.priority
  | .item envelope => upper envelope.rawPriority

/-- The priority the piece is queued with. -/
def Piece.queuePriority : Piece → String
  | .package work => work.priority
  | .item envelope => taskPriority envelope.rawPriority

/-- The portfolio ranks the first piece strictly before the second by its priority. -/
def Precedes (first second : Piece) : Prop :=
  portfolioRank first.priority < portfolioRank second.priority

/-- Neither item is malformed to the queue, and the dispatcher never orders the second before
the first by its priority. -/
structure Preserved (first second : Item) : Prop where
  formed : (parseGlobalPriority first).exclusionReason = none
  formedToo : (parseGlobalPriority second).exclusionReason = none
  ordered : ∀ (one two : PersistentWorkflowRow) (oneProject twoProject : Option ProjectRow)
    (before after : DispatchCandidate), candidateFromItem one first oneProject = .ok before →
      candidateFromItem two second twoProject = .ok after →
        ¬ priorityRank after.priority < priorityRank before.priority

/-- The labels of two pieces of which the portfolio ranks the first before the second, where the
queue ranks them so too. -/
def Agrees : Piece → Piece → Prop
  | .package first, .package second =>
    first.priority ∈ validPriorities ∧ second.priority ∈ validPriorities
  | .package first, .item _ => first.priority ∈ validPriorities ∧ first.priority ≠ "LOW"
  | .item first, .package second => second.priority ∈ validPriorities ∧
      (second.priority = "HIGH" → first.rawPriority ∈ ["P0_NOW", "P0"] ∨
        portfolioRank (upper first.rawPriority) ≠ 0)
  | .item first, .item _ => first.rawPriority ≠ "P2"

/-- An item that holds a label, and of which the dispatcher can make a candidate. -/
structure Holds (label : String) (item : Item) : Prop where
  label : item.get "priority" = .str label
  readable : ∀ row project, ∃ candidate, candidateFromItem row item project = .ok candidate

theorem candidateFromItem_priority {row : PersistentWorkflowRow} {item : Item}
    {project : Option ProjectRow} {candidate : DispatchCandidate}
    (made : candidateFromItem row item project = .ok candidate) :
    candidate.priority = upper ((item.get "priority").orElse (.str "NORMAL")).pyStr := by
  unfold candidateFromItem at made
  obtain ⟨createdOrder, _, made⟩ := except_bind_ok made
  obtain ⟨capabilities, _, made⟩ := except_bind_ok made
  obtain ⟨version, _, made⟩ := except_bind_ok made
  obtain ⟨readyTimestamp, _, made⟩ := except_bind_ok made
  obtain ⟨createdAt, _, made⟩ := except_bind_ok made
  cases made
  rfl

theorem parseGlobalPriority_label {label : String} {item : Item} (holds : Holds label item) :
    (parseGlobalPriority item).exclusionReason = none ↔ label ∈ validPriorities := by
  unfold parseGlobalPriority
  rw [holds.label]
  split
  · rename_i absent
    cases absent
  · by_cases valid : label ∈ validPriorities
    · rw [Json.pyStr_str, if_pos valid]
      exact iff_of_true rfl valid
    · rw [Json.pyStr_str, if_neg valid]
      exact iff_of_false (by simp) valid

theorem candidateFromItem_rank {label : String} {item : Item} (holds : Holds label item)
    (valid : label ∈ validPriorities) {row : PersistentWorkflowRow} {project : Option ProjectRow}
    {candidate : DispatchCandidate} (made : candidateFromItem row item project = .ok candidate) :
    priorityRank candidate.priority = priorityRank label := by
  rw [candidateFromItem_priority made, holds.label]
  revert valid
  have each : ∀ known ∈ validPriorities,
      upper ((Json.str known).orElse (.str "NORMAL")).pyStr = known := by decide
  intro valid
  rw [each label valid]

theorem preserved_iff_labels {label other : String} {first second : Item} (one : Holds label first)
    (two : Holds other second) : Preserved first second ↔
      label ∈ validPriorities ∧ other ∈ validPriorities ∧ priorityRank label ≤ priorityRank other := by
  constructor
  · intro preserved
    have valid := (parseGlobalPriority_label one).mp preserved.formed
    have known := (parseGlobalPriority_label two).mp preserved.formedToo
    refine ⟨valid, known, ?_⟩
    obtain ⟨before, made⟩ := one.readable { id := "" } none
    obtain ⟨after, next⟩ := two.readable { id := "" } none
    have ordered := preserved.ordered _ _ _ _ before after made next
    rw [candidateFromItem_rank one valid made, candidateFromItem_rank two known next] at ordered
    exact Nat.le_of_not_lt ordered
  · rintro ⟨valid, known, ordered⟩
    refine ⟨(parseGlobalPriority_label one).mpr valid, (parseGlobalPriority_label two).mpr known, ?_⟩
    intro _ _ _ _ before after made next
    rw [candidateFromItem_rank one valid made, candidateFromItem_rank two known next]
    exact Nat.not_lt_of_le ordered

/-- The three kinds of label an item of the backlog can have: those the feeder makes HIGH, the one
it makes LOW, and all others. -/
inductive RawLabel (raw : String) : Prop where
  | high (is : raw ∈ ["P0_NOW", "P0"]) (queued : taskPriority raw = "HIGH")
      (rank : portfolioRank (upper raw) = 0)
  | low (is : raw = "P2") (queued : taskPriority raw = "LOW") (rank : portfolioRank (upper raw) = 2)
  | normal (notHigh : raw ∉ ["P0_NOW", "P0"]) (notLow : raw ≠ "P2") (queued : taskPriority raw = "NORMAL")

theorem rawLabel (raw : String) : RawLabel raw := by
  by_cases high : raw = "P0_NOW" ∨ raw = "P0"
  · rcases high with rfl | rfl
    · exact .high (by decide) (by decide) (by decide)
    · exact .high (by decide) (by decide) (by decide)
  · by_cases low : raw = "P2"
    · subst low
      exact .low rfl (by decide) (by decide)
    · refine .normal (by simpa using high) low ?_
      rw [taskPriority, if_neg high, if_neg low]

theorem taskPriority_valid (raw : String) : taskPriority raw ∈ validPriorities := by
  cases rawLabel raw with
  | high _ queued _ => rw [queued]; decide
  | low _ queued _ => rw [queued]; decide
  | normal _ _ queued => rw [queued]; decide

theorem valid_ranks {first second : String} (one : first ∈ validPriorities)
    (two : second ∈ validPriorities) :
    portfolioRank first < portfolioRank second ↔ priorityRank first < priorityRank second := by
  have each : ∀ label ∈ validPriorities, portfolioRank label = priorityRank label := by decide
  rw [each first one, each second two]

/-- The queue knows the labels of both pieces, and ranks them in this order. -/
def Ordered (first second : Piece) : Prop :=
  first.queuePriority ∈ validPriorities ∧ second.queuePriority ∈ validPriorities ∧
    priorityRank first.queuePriority ≤ priorityRank second.queuePriority

theorem agrees_packages {one two : NormalizedWorkPackage}
    (precedes : Precedes (.package one) (.package two)) :
    Agrees (.package one) (.package two) ↔ Ordered (.package one) (.package two) := by
  unfold Precedes at precedes
  dsimp only [Agrees, Ordered, Piece.queuePriority, Piece.priority] at precedes ⊢
  constructor
  · rintro ⟨valid, known⟩
    exact ⟨valid, known, le_of_lt ((valid_ranks valid known).mp precedes)⟩
  · rintro ⟨valid, known, -⟩
    exact ⟨valid, known⟩

theorem agrees_package_item {one : NormalizedWorkPackage} {two : NormalizedTaskEnvelope}
    (precedes : Precedes (.package one) (.item two)) :
    Agrees (.package one) (.item two) ↔ Ordered (.package one) (.item two) := by
  unfold Precedes at precedes
  dsimp only [Agrees, Ordered, Piece.queuePriority, Piece.priority] at precedes ⊢
  apply and_congr_right
  intro valid
  cases rawLabel two.rawPriority with
  | high is queued rank =>
    rw [rank] at precedes
    exact absurd precedes (Nat.not_lt_zero _)
  | low is queued rank =>
    rw [rank] at precedes
    rw [queued]
    have each : ∀ label ∈ validPriorities, portfolioRank label < 2 →
        (label ≠ "LOW" ↔ "LOW" ∈ validPriorities ∧ priorityRank label ≤ priorityRank "LOW") := by
      decide
    exact each one.priority valid precedes
  | normal notHigh notLow queued =>
    rw [queued]
    have each : ∀ label ∈ validPriorities, (label ≠ "LOW" ↔ "NORMAL" ∈ validPriorities ∧
        priorityRank label ≤ priorityRank "NORMAL") := by
      decide
    exact each one.priority valid

theorem agrees_item_package {one : NormalizedTaskEnvelope} {two : NormalizedWorkPackage}
    (precedes : Precedes (.item one) (.package two)) :
    Agrees (.item one) (.package two) ↔ Ordered (.item one) (.package two) := by
  unfold Precedes at precedes
  dsimp only [Agrees, Ordered, Piece.queuePriority, Piece.priority] at precedes ⊢
  rw [and_iff_right (taskPriority_valid one.rawPriority)]
  apply and_congr_right
  intro valid
  cases rawLabel one.rawPriority with
  | high is queued rank =>
    rw [rank] at precedes
    rw [queued]
    have each : ∀ label ∈ validPriorities, 0 < portfolioRank label →
        priorityRank "HIGH" ≤ priorityRank label := by
      decide
    exact iff_of_true (fun _ => Or.inl is) (each two.priority valid precedes)
  | low is queued rank =>
    rw [rank] at precedes ⊢
    rw [queued]
    have each : ∀ label ∈ validPriorities, 2 < portfolioRank label →
        priorityRank "LOW" ≤ priorityRank label := by
      decide
    exact iff_of_true (fun _ => Or.inr (by decide)) (each two.priority valid precedes)
  | normal notHigh notLow queued =>
    -- the label of the item may have any rank here
    rw [queued, or_iff_right notHigh]
    generalize portfolioRank (upper one.rawPriority) = rank at precedes ⊢
    have each : ∀ label ∈ validPriorities, portfolioRank label ≤ 3 ∧
        (portfolioRank label = 1 ↔ label = "HIGH") ∧
        (priorityRank "NORMAL" ≤ priorityRank label ↔ 2 ≤ portfolioRank label) := by
      decide
    obtain ⟨most, high, above⟩ := each two.priority valid
    rw [above, ← high]
    omega

theorem agrees_items {one two : NormalizedTaskEnvelope} (precedes : Precedes (.item one) (.item two)) :
    Agrees (.item one) (.item two) ↔ Ordered (.item one) (.item two) := by
  unfold Precedes at precedes
  dsimp only [Agrees, Ordered, Piece.queuePriority, Piece.priority] at precedes ⊢
  rw [and_iff_right (taskPriority_valid one.rawPriority),
    and_iff_right (taskPriority_valid two.rawPriority)]
  cases rawLabel two.rawPriority with
  | high is queued rank =>
    rw [rank] at precedes
    exact absurd precedes (Nat.not_lt_zero _)
  | low is queued rank =>
    rw [rank] at precedes
    rw [queued]
    have each : ∀ label ∈ validPriorities, priorityRank label ≤ priorityRank "LOW" := by
      decide
    refine iff_of_true ?_ (each _ (taskPriority_valid one.rawPriority))
    intro same
    rw [same] at precedes
    revert precedes
    decide
  | normal _ _ queued =>
    rw [queued]
    cases rawLabel one.rawPriority with
    | high is task rank =>
      rw [task]
      refine iff_of_true ?_ (by decide)
      intro same
      rw [same] at is
      revert is
      decide
    | low is task rank =>
      rw [task]
      exact iff_of_false (fun other => other is) (by decide)
    | normal notHigh notLow task =>
      rw [task]
      exact iff_of_true notLow (le_refl _)

/-- Of two pieces the portfolio orders, the queue keeps the order exactly where their labels
agree. -/
theorem agrees_iff {first second : Piece} (precedes : Precedes first second) :
    Agrees first second ↔ Ordered first second := by
  cases first with
  | package one =>
    cases second with
    | package two => exact agrees_packages precedes
    | item two => exact agrees_package_item precedes
  | item one =>
    cases second with
    | package two => exact agrees_item_package precedes
    | item two => exact agrees_items precedes

/-! ### What the queue holds of the pieces -/

/-- A call that feeds the queue: of the feeder, which asks the portfolio too, or of the portfolio. -/
inductive QueueFeed where
  | backlog (call : FeedCall)
  | portfolio (feeder : DarwinBacklogFeeder) (allowed : List String) (maxItems : Int)

def QueueFeed.apply (feed : QueueFeed) (store : Store) : Except PyExc (List FeedRecord) × Store :=
  match feed with
  | .backlog call => call.apply store
  | .portfolio feeder allowed maxItems => Action.exec
      (GlobalWorkPortfolioService.feedPortfolioIntoQueue feeder allowed maxItems) store

/-- The pieces a call takes, in the order of its records. -/
def QueueFeed.pieces (feed : QueueFeed) (tables : Tables) : Except PyExc (List Piece) :=
  match feed with
  | .backlog call => do
      let (selected, batch) ← call.plan tables
      return selected.map Piece.item ++ batch.map Piece.package
  | .portfolio feeder allowed maxItems => do
      return (← portfolioBatch feeder allowed tables maxItems).map Piece.package

/-- The pieces fed so far, each with its record. -/
structure PieceState where
  store : Store
  fed : List (Piece × FeedRecord) := []

def queueFeedStep (state : PieceState) (feed : QueueFeed) : PieceState :=
  match feed.apply state.store with
  | (.ok records, after) =>
    ⟨after, state.fed ++ ((feed.pieces state.store.toTables).toOption.getD []).zip records⟩
  | (.error _, _) => state

/-- The item that a piece was queued as. -/
def QueuedAs (state : PieceState) (piece : Piece) (item : Item) : Prop :=
  ∃ record workflowId row, (piece, record) ∈ state.fed ∧ record.workflowId = some workflowId ∧
    state.store.workflows.get? workflowId = some row ∧ item ∈ row.taskBacklog

/-- Each piece with a workflow is its only item, under its label. -/
def AllHeld (state : PieceState) : Prop :=
  ∀ entry ∈ state.fed, ∀ workflowId, entry.2.workflowId = some workflowId →
    ∃ row ∈ state.store.workflows.rows, row.id = workflowId ∧
      ∃ item, row.taskBacklog = [item] ∧ Holds entry.1.queuePriority item

theorem package_holds (feeder : DarwinBacklogFeeder) (work : NormalizedWorkPackage) (taskId : String) :
    Holds (Piece.package work).queuePriority (GlobalWorkPortfolioService.queueItem feeder work taskId) :=
  ⟨rfl, fun _ _ => ⟨_, rfl⟩⟩

theorem item_holds (feeder : DarwinBacklogFeeder) (projectId taskId : String)
    {envelope : NormalizedTaskEnvelope} (queued : envelope.priority = taskPriority envelope.rawPriority) :
    Holds (Piece.item envelope).queuePriority
      (DarwinBacklogFeeder.queueItem feeder projectId envelope taskId) :=
  ⟨congrArg Json.str queued, fun _ _ => ⟨_, rfl⟩⟩

/-- An entry that feeds a piece. -/
def FeedsPiece (piece : Piece) (entry : FedEntry) : Prop :=
  Holds piece.queuePriority (entry.work.queueItem entry.record.taskId)

theorem packages_fed {feeder : DarwinBacklogFeeder} {batch : List NormalizedWorkPackage}
    {entries : List FedEntry} (fed : List.Forall₂ (PackageFed feeder) batch entries) :
    List.Forall₂ FeedsPiece (batch.map Piece.package) entries := by
  rw [List.forall₂_map_left_iff]
  refine fed.imp ?_
  rintro work entry ⟨-, same⟩
  rw [FeedsPiece, same]
  exact package_holds feeder work _

theorem items_fed {feeder : DarwinBacklogFeeder} {projectId : String}
    {selected : List NormalizedTaskEnvelope} {entries : List FedEntry}
    (fed : List.Forall₂ (EnvelopeFed feeder projectId) selected entries)
    (labelled : ∀ envelope ∈ selected, envelope.priority = taskPriority envelope.rawPriority) :
    List.Forall₂ FeedsPiece (selected.map Piece.item) entries := by
  rw [List.forall₂_map_left_iff]
  induction fed with
  | nil => exact .nil
  | cons here _ ih =>
    refine .cons ?_ (ih fun envelope member => labelled envelope (List.mem_cons_of_mem _ member))
    rw [FeedsPiece, here.2]
    exact item_holds feeder projectId _ (labelled _ List.mem_cons_self)

theorem apply_feeds {feed : QueueFeed} {records : List FeedRecord} {store after : Store}
    (applied : feed.apply store = (.ok records, after)) :
    ∃ pieces entries listed, feed.pieces store.toTables = .ok pieces ∧
      List.Forall₂ FeedsPiece pieces entries ∧ records = entries.map FedEntry.record ∧
      Feeds store.toTables after.toTables listed ∧ ∀ entry ∈ entries, entry ∈ listed := by
  cases feed with
  | backlog call =>
    obtain ⟨selected, batch, own, others, fed⟩ := feedIntoQueue_ok applied
    have taken : Taken call store.toTables selected batch := feedPlan_taken fed.plan
    have labelled : ∀ envelope ∈ selected, envelope.priority = taskPriority envelope.rawPriority := by
      intro envelope member
      obtain ⟨item, -, made⟩ := (taken.selected envelope member).1.item
      exact made.priority
    refine ⟨selected.map Piece.item ++ batch.map Piece.package, own ++ others, others ++ own, ?_,
      List.rel_append (items_fed fed.envelopes labelled) (packages_fed fed.packages), ?_, fed.feeds, ?_⟩
    · dsimp only [QueueFeed.pieces]
      rw [show call.plan store.toTables = .ok (selected, batch) from fed.plan]
      rfl
    · rw [fed.records, List.map_append]
    · intro entry member
      rcases List.mem_append.mp member with here | there
      · exact List.mem_append_right _ here
      · exact List.mem_append_left _ there
  | portfolio feeder allowed maxItems =>
    obtain ⟨batch, entries, read, fed, same, feeds⟩ := feedPortfolioIntoQueue_ok applied
    refine ⟨batch.map Piece.package, entries, entries, ?_, packages_fed fed, same.symm, feeds,
      fun _ member => member⟩
    dsimp only [QueueFeed.pieces]
    rw [read]
    rfl

theorem zip_fed {pieces : List Piece} {entries : List FedEntry} {piece : Piece} {record : FeedRecord}
    (fed : List.Forall₂ FeedsPiece pieces entries)
    (member : (piece, record) ∈ pieces.zip (entries.map FedEntry.record)) :
    ∃ entry ∈ entries, FeedsPiece piece entry ∧ entry.record = record := by
  induction fed with
  | nil => cases member
  | @cons first entry _ rest here _ ih =>
    rw [List.map_cons, List.zip_cons_cons] at member
    rcases List.mem_cons.mp member with same | later
    · obtain ⟨rfl, rfl⟩ := Prod.mk.inj same
      exact ⟨entry, List.mem_cons_self, here, rfl⟩
    · obtain ⟨other, known, holds⟩ := ih later
      exact ⟨other, List.mem_cons_of_mem _ known, holds⟩

theorem allHeld_step (state : PieceState) (feed : QueueFeed) (held : AllHeld state) :
    AllHeld (queueFeedStep state feed) := by
  unfold queueFeedStep
  rcases applied : feed.apply state.store with ⟨error | records, after⟩
  · exact held
  · obtain ⟨pieces, entries, listed, taken, fed, same, feeds, inside⟩ := apply_feeds applied
    rw [taken, same]
    rintro ⟨piece, record⟩ member workflowId named
    rcases List.mem_append.mp member with old | new
    · obtain ⟨row, present, rowNamed, item, backlog, holds⟩ := held _ old workflowId named
      obtain ⟨later, known, kept⟩ := feeds.kept present
      have id : later.id = row.id := congrArg WorkflowContent.id kept
      have items : later.taskBacklog = row.taskBacklog := congrArg WorkflowContent.taskBacklog kept
      exact ⟨later, known, id.trans rowNamed, item, items.trans backlog, holds⟩
    · obtain ⟨entry, known, holds, recorded⟩ := zip_fed fed new
      have made := entry.content_named (by rw [recorded]; exact named)
      obtain ⟨row, present, kept⟩ := feeds.made (inside entry known) made
      have id : row.id = workflowId := congrArg WorkflowContent.id kept
      have items : row.taskBacklog = [entry.work.queueItem entry.record.taskId] :=
        congrArg WorkflowContent.taskBacklog kept
      exact ⟨row, present, id, _, items, holds⟩

theorem QueuedAs.holds {state : PieceState} {piece : Piece} {item : Item} (held : AllHeld state)
    (queued : QueuedAs state piece item) : Holds piece.queuePriority item := by
  obtain ⟨record, workflowId, row, member, named, present, inside⟩ := queued
  obtain ⟨other, known, otherNamed, only, backlog, holds⟩ := held _ member workflowId named
  have same : other = row :=
    Table.row_unique known (Table.get?_mem present) (otherNamed.trans (Table.get?_key present).symm)
  rw [← same, backlog, List.mem_singleton] at inside
  exact inside ▸ holds

theorem queuedAs_of_fed {state : PieceState} (held : AllHeld state) {entry : Piece × FeedRecord}
    (member : entry ∈ state.fed) (queued : entry.2.workflowId.isSome = true) :
    ∃ item, QueuedAs state entry.1 item := by
  obtain ⟨workflowId, named⟩ := Option.isSome_iff_exists.mp queued
  obtain ⟨row, known, rowNamed, item, backlog, -⟩ := held entry member workflowId named
  refine ⟨item, entry.2, workflowId, row, member, named, ?_, ?_⟩
  · rw [← rowNamed]
    exact Table.get?_of_mem known
  · rw [backlog]
    exact List.mem_singleton_self item

theorem allHeld_run (start : Store) (feeds : List QueueFeed) :
    AllHeld (Run.run queueFeedStep ⟨start, []⟩ feeds) :=
  Run.invariant_run queueFeedStep AllHeld allHeld_step ⟨start, []⟩ feeds
    (fun _ member => absurd member List.not_mem_nil)

def rankedItem (itemId priority : String) : Json :=
  .obj [("item_id", .str itemId), ("title", .str "Compare venues"),
    ("objective", .str "Compare the fees of the venues"), ("status", .str "READY"),
    ("priority", .str priority), ("provenance_refs", .arr [.str "docs/venues.md"])]

/-- Two items of the backlog, fed by the portfolio under its own labels. -/
def rankedFeed : QueueFeed :=
  .portfolio { customItems := true, backlog := [rankedItem "VAL-001" "P0", rankedItem "VAL-002" "P1"] }
    defaultAuthorityClasses 5

def rankedState : PieceState := Run.run queueFeedStep ⟨{}, []⟩ [rankedFeed]

end Lucius.Portfolio
