import Lucius.Lib.Sorting
import Lucius.Planning.Context

/-! The memories of other projects leave no trace in the context of a project: neither do they
appear in it, nor do they take the place of its own. -/

namespace Lucius.Planning

open Lucius.Action Memory Router

/-- A memory of another project. -/
def Foreign (projectId : String) (row : MemoryEntryRow) : Prop :=
  ∃ owner, row.projectId = some owner ∧ owner ≠ projectId

/-- The rows are the same, but for memories of other projects. -/
structure AgreeFor (projectId : String) (first second : Tables) : Prop where
  rest : second = { first with memories := second.memories }
  memories : ∀ row, ¬ Foreign projectId row →
    (row ∈ first.memories.rows ↔ row ∈ second.memories.rows)

/-! ### The memories that are considered -/

def contextQuery (projectId : String) (queryTerms : List String) : MemoryQuery where
  projectId := some projectId
  queryTerms := queryTerms

/-- A memory that is found, ranks and is allowed. -/
def considered (projectId : String) (queryTerms : List String) (allowCandidateMemory : Bool)
    (row : MemoryEntryRow) : Bool :=
  (queryMatches (contextQuery projectId queryTerms) row &&
    decide (0 < (rankRow (some projectId) queryTerms row).score)) &&
      memoryAllowed projectId allowCandidateMemory row

/-- Neither gate alone keeps every foreign memory out: the query is open for a project without a
name, and the second gate for an owner without one. -/
theorem not_foreign_of_considered {projectId : String} {queryTerms : List String} {allow : Bool}
    {row : MemoryEntryRow} (taken : considered projectId queryTerms allow row = true) :
    ¬ Foreign projectId row := by
  rintro ⟨owner, owned, other⟩
  unfold considered at taken
  rw [Bool.and_eq_true, Bool.and_eq_true] at taken
  obtain ⟨⟨matched, _⟩, allowed⟩ := taken
  have different : row.projectId ≠ some projectId := by
    rw [owned]
    exact fun same => other (Option.some.inj same)
  have shown : shownToProject (contextQuery projectId queryTerms) row = true := by
    unfold queryMatches at matched
    simp only [Bool.and_eq_true] at matched
    exact matched.1.1.1.1.1
  by_cases named : projectId.toList.isEmpty
  · have unnamed : projectId = "" := by
      apply String.toList_inj.mp
      simpa using named
    have present : (nonEmpty row.projectId).isSome = true := by
      rw [owned]
      unfold nonEmpty
      have full : owner.toList.isEmpty = false := by
        rw [List.isEmpty_eq_false_iff]
        intro empty
        apply other
        rw [unnamed]
        exact String.toList_inj.mp empty
      simp [full]
    unfold memoryAllowed at allowed
    simp [present, different] at allowed
  · have kept : nonEmpty (contextQuery projectId queryTerms).projectId = some projectId := by
      simpa [nonEmpty, contextQuery] using named
    unfold shownToProject at shown
    rw [kept] at shown
    simp [owned, other] at shown

theorem found_perm (tables : Tables) (projectId : String) (queryTerms : List String) :
    ((memoryMatches tables (contextQuery projectId queryTerms)).filterMap
      (fun entry => tables.memories.get? entry.memoryId)).Perm
    (tables.memories.rows.filter (fun row => queryMatches (contextQuery projectId queryTerms) row &&
      decide (0 < (rankRow (some projectId) queryTerms row).score))) := by
  have read : ∀ rows : List MemoryEntryRow, (∀ row ∈ rows, row ∈ tables.memories.rows) →
      ((rows.map (rankRow (some projectId) queryTerms)).filter (fun found => 0 < found.score)).filterMap
        (fun entry => tables.memories.get? entry.memoryId) =
      rows.filter (fun row => 0 < (rankRow (some projectId) queryTerms row).score) := by
    intro rows inside
    induction rows with
    | nil => rfl
    | cons row rest ih =>
      have later := ih fun other member => inside other (List.mem_cons_of_mem row member)
      have present : tables.memories.get? (rankRow (some projectId) queryTerms row).memoryId = some row :=
        Table.get?_of_mem (inside row List.mem_cons_self)
      rw [List.map_cons]
      by_cases ranked : 0 < (rankRow (some projectId) queryTerms row).score
      · rw [List.filter_cons_of_pos (by simpa using ranked), List.filterMap_cons]
        simp only [present]
        rw [later, List.filter_cons_of_pos (by simpa using ranked)]
      · rw [List.filter_cons_of_neg (by simpa using ranked), later,
          List.filter_cons_of_neg (by simpa using ranked)]
  have sorted := List.perm_insertionSort (fun left right : MemoryEntryRow => left.id ≤ right.id)
    (tables.memories.rows.filter (queryMatches (contextQuery projectId queryTerms)))
  have inside : ∀ row ∈ sortedBy MemoryEntryRow.id
      (tables.memories.rows.filter (queryMatches (contextQuery projectId queryTerms))),
        row ∈ tables.memories.rows := by
    intro row member
    exact List.mem_of_mem_filter ((mem_sortedBy _ _ _).mp member)
  unfold memoryMatches Memory.rankMemory
  refine ((List.perm_insertionSort _ _).filterMap _).trans ?_
  rw [show (contextQuery projectId queryTerms).projectId = some projectId from rfl,
    show (contextQuery projectId queryTerms).queryTerms = queryTerms from rfl, read _ inside]
  refine (sorted.filter _).trans ?_
  rw [List.filter_filter]
  apply List.Perm.of_eq
  apply List.filter_congr
  intro row _
  exact Bool.and_comm _ _

theorem allowedMemories_perm (tables : Tables) (projectId : String) (queryTerms : List String)
    (allow : Bool) :
    (allowedMemories tables projectId allow
      (memoryMatches tables (contextQuery projectId queryTerms))).Perm
    (tables.memories.rows.filter (considered projectId queryTerms allow)) := by
  unfold allowedMemories
  refine ((found_perm tables projectId queryTerms).filter _).trans ?_
  rw [List.filter_filter]
  apply List.Perm.of_eq
  apply List.filter_congr
  intro row _
  exact Bool.and_comm _ _

theorem rows_nodup {α κ : Type} [Keyed α κ] (table : Table α) : table.rows.Nodup :=
  List.Nodup.of_map _ table.unique

/-- The memories a context is given. -/
def selectedMemory (tables : Tables) (projectId : String) (queryTerms : List String)
    (budget : PlanningContextBudget) (allow : Bool) : Selection PlanningMemoryItem :=
  boundedMemory (allowedMemories tables projectId allow
    (memoryMatches tables (contextQuery projectId queryTerms))) budget

section

variable {projectId : String} {first second : Tables} (agree : AgreeFor projectId first second)

include agree

theorem considered_perm (queryTerms : List String) (allow : Bool) :
    (first.memories.rows.filter (considered projectId queryTerms allow)).Perm
      (second.memories.rows.filter (considered projectId queryTerms allow)) := by
  rw [List.perm_ext_iff_of_nodup ((rows_nodup _).filter _) ((rows_nodup _).filter _)]
  intro row
  rw [List.mem_filter, List.mem_filter]
  apply and_congr_left
  intro taken
  exact agree.memories row (not_foreign_of_considered taken)

theorem ordered_same (queryTerms : List String) (allow : Bool) :
    sortedBy memorySortKey (allowedMemories first projectId allow
        (memoryMatches first (contextQuery projectId queryTerms))) =
      sortedBy memorySortKey (allowedMemories second projectId allow
        (memoryMatches second (contextQuery projectId queryTerms))) := by
  have one := allowedMemories_perm first projectId queryTerms allow
  have two := allowedMemories_perm second projectId queryTerms allow
  apply sortedBy_perm (one.trans ((considered_perm agree queryTerms allow).trans two.symm))
  intro left inLeft right inRight same
  have row : ∀ other, other ∈ allowedMemories first projectId allow
      (memoryMatches first (contextQuery projectId queryTerms)) → other ∈ first.memories.rows :=
    fun other member => List.mem_of_mem_filter (one.mem_iff.mp member)
  apply Table.row_unique (row left inLeft) (row right inRight)
  have inner := congrArg (fun key => (ofLex (ofLex (ofLex key).2).2).2) same
  exact inner

theorem selectedMemory_same (queryTerms : List String) (budget : PlanningContextBudget) (allow : Bool) :
    selectedMemory first projectId queryTerms budget allow =
      selectedMemory second projectId queryTerms budget allow := by
  unfold selectedMemory boundedMemory
  rw [ordered_same agree queryTerms allow]

end

/-! ### What the builder returns -/

/-- What a task is told when its context is asked for, from the rows alone. -/
def contextOutcome (search : Search) (tables : Tables) (taskId : String) (snapshotIds : List String)
    (runId : Option String) (budget : PlanningContextBudget) (allow : Bool) :
    Except PyExc (Option BuiltContext × List Dict) :=
  match tables.tasks.get? taskId with
  | none => .ok (none, [planningBlocker "TASK_CONTRACT_INVALID" "Unknown task." []])
  | some task =>
    match preflightBlockers tables task snapshotIds, tables.activeContract task.id with
    | [], some contract =>
      match retrieve search tables (buildRequest task contract snapshotIds runId budget) with
      | .error error => .error error
      | .ok package =>
        .ok (some (builtContext task contract snapshotIds package
          (boundedEvidence package.evidence budget)
          (selectedMemory tables task.projectId
            (buildRequest task contract snapshotIds runId budget).queryTerms budget allow)), [])
    | blockers, _ => .ok (none, blockers)

theorem takeWithin_subset {α : Type} {most bytes : Int} {size : α → Nat} {taken total : Nat}
    {items : List α} {item : α} (member : item ∈ takeWithin most bytes size taken total items) :
    item ∈ items := by
  induction items generalizing taken total with
  | nil => cases member
  | cons head rest ih =>
    unfold takeWithin at member
    split at member
    · cases member
    · rcases List.mem_cons.mp member with rfl | later
      · exact List.mem_cons_self
      · exact List.mem_cons_of_mem head (ih later)

theorem selectedMemory_present {tables : Tables} {projectId : String} {queryTerms : List String}
    {budget : PlanningContextBudget} {allow : Bool} {item : PlanningMemoryItem}
    (member : item ∈ (selectedMemory tables projectId queryTerms budget allow).items) :
    (tables.memories.get? item.memoryId).isSome := by
  have inside : item ∈ (sortedBy memorySortKey (allowedMemories tables projectId allow
      (memoryMatches tables (contextQuery projectId queryTerms)))).map (memoryItem budget) :=
    takeWithin_subset member
  obtain ⟨row, sorted, rfl⟩ := List.mem_map.mp inside
  have listed := (allowedMemories_perm tables projectId queryTerms allow).mem_iff.mp
    ((mem_sortedBy _ _ _).mp sorted)
  have present : tables.memories.get? row.id = some row :=
    Table.get?_of_mem (List.mem_of_mem_filter listed)
  rw [show (memoryItem budget row).memoryId = row.id from rfl, present]
  rfl

theorem exec_markRequiresRevalidation {memoryId reason : String} {store : Store} {row : MemoryEntryRow}
    (found : store.memories.get? memoryId = some row) :
    ∃ marked after, exec (Memory.markRequiresRevalidation memoryId reason) store = (.ok marked, after) ∧
      ∀ key, (store.memories.get? key).isSome → (after.memories.get? key).isSome := by
  have read : exec (Memory.memoryRow memoryId) store = (.ok row, store) := by
    unfold Memory.memoryRow
    rw [exec_get_bind, found]
    rfl
  unfold Memory.markRequiresRevalidation
  rw [exec_bind_of_ok read]
  refine ⟨_, _, rfl, ?_⟩
  intro key present
  have written := Table.get?_put store.memories
    { row with requiresRevalidation := true, revalidationReason := some reason } key
  have after : ((store.memories.put
      { row with requiresRevalidation := true, revalidationReason := some reason }).get? key).isSome := by
    rw [written, Option.isSome_map]
    exact present
  exact after

theorem exec_markConflicts {items : List PlanningMemoryItem} {store : Store}
    (present : ∀ item ∈ items, (store.memories.get? item.memoryId).isSome) :
    ∃ after, exec (markConflicts items) store = (.ok (), after) := by
  induction items generalizing store with
  | nil => exact ⟨store, rfl⟩
  | cons item rest ih =>
    have others : ∀ other ∈ rest, (store.memories.get? other.memoryId).isSome :=
      fun other member => present other (List.mem_cons_of_mem item member)
    unfold markConflicts
    split
    · exact ih others
    · obtain ⟨row, found⟩ := Option.isSome_iff_exists.mp (present item List.mem_cons_self)
      obtain ⟨marked, middle, done, kept⟩ := exec_markRequiresRevalidation found
      rw [exec_bind_of_ok done]
      exact ih fun other member => kept other.memoryId (others other member)

theorem exec_memoryItems (projectId : String) (queryTerms : List String) (budget : PlanningContextBudget)
    (allow : Bool) (store : Store) :
    ∃ after, exec (memoryItems projectId queryTerms budget allow) store =
      (.ok (selectedMemory store.toTables projectId queryTerms budget allow), after) ∧
        after.toTables = store.toTables := ⟨_, rfl, rfl⟩

def recordedIf (condition : Bool) (draft : AuditDraft) (store : Store) : Store :=
  if condition then store.record draft else store

theorem exec_recordIf (condition : Bool) (draft : AuditDraft) (store : Store) :
    exec (recordIf condition draft) store = (.ok (), recordedIf condition draft store) := by
  unfold recordIf recordedIf
  split <;> rfl

theorem recordedIf_memories (condition : Bool) (draft : AuditDraft) (store : Store) :
    (recordedIf condition draft store).memories = store.memories := by
  unfold recordedIf
  split <;> rfl

theorem exec_closing {α : Type} {conflicts : List PlanningMemoryItem} {draft : AuditDraft} {result : α}
    {store : Store} (present : ∀ item ∈ conflicts, (store.memories.get? item.memoryId).isSome) :
    (exec (do markConflicts conflicts; Op.record draft; return result) store).1 = .ok result := by
  obtain ⟨after, marked⟩ := exec_markConflicts present
  rw [exec_bind_of_ok marked, exec_bind_of_ok (Op.exec_record _ _)]
  rfl

theorem conflicts_present {tables : Tables} {projectId : String} {queryTerms : List String}
    {budget : PlanningContextBudget} {allow : Bool} {evidence : List PlanningEvidenceItem}
    {item : PlanningMemoryItem}
    (member : item ∈ (memoryConflicts (selectedMemory tables projectId queryTerms budget allow).items
      evidence).map Prod.fst) : (tables.memories.get? item.memoryId).isSome := by
  obtain ⟨⟨chosen, signal⟩, listed, rfl⟩ := List.mem_map.mp member
  obtain ⟨other, inside, opposed⟩ := List.mem_filterMap.mp listed
  obtain ⟨_, _, same⟩ := Option.map_eq_some_iff.mp opposed
  rw [← (Prod.mk.inj same).1]
  exact selectedMemory_present inside

theorem build_outcome (search : Search) (taskId : String) (snapshotIds : List String)
    (runId : Option String) (budget : PlanningContextBudget) (allow : Bool) (store : Store) :
    (exec (PlanningContextBuilder.build search taskId snapshotIds runId budget allow) store).1 =
      contextOutcome search store.toTables taskId snapshotIds runId budget allow := by
  unfold PlanningContextBuilder.build contextOutcome
  rw [exec_get_bind]
  cases store.tasks.get? taskId with
  | none => rfl
  | some task =>
    dsimp only
    generalize preflightBlockers store.toTables task snapshotIds = lacks
    generalize store.activeContract task.id = active
    rcases lacks with _ | ⟨first, rest⟩
    · rcases active with _ | contract
      · rfl
      · dsimp only
        generalize buildRequest task contract snapshotIds runId budget = request
        cases retrieve search store.toTables request with
        | error error => rfl
        | ok package =>
          obtain ⟨middle, selected, same⟩ :=
            exec_memoryItems task.projectId request.queryTerms budget allow store
          rw [exec_bind_ofExcept rfl, exec_bind_of_ok selected,
            exec_bind_of_ok (exec_recordIf _ _ _), exec_bind_of_ok (exec_recordIf _ _ _)]
          apply exec_closing
          intro item member
          rw [recordedIf_memories, recordedIf_memories, congrArg Tables.memories same]
          exact conflicts_present member
    · rfl

theorem contextOutcome_same {first second : Tables} {projectId taskId : String}
    (agree : AgreeFor projectId first second)
    (own : ∀ task, first.tasks.get? taskId = some task → task.projectId = projectId) (search : Search)
    (snapshotIds : List String) (runId : Option String) (budget : PlanningContextBudget) (allow : Bool) :
    contextOutcome search first taskId snapshotIds runId budget allow =
      contextOutcome search second taskId snapshotIds runId budget allow := by
  have selected := fun queryTerms => selectedMemory_same agree queryTerms budget allow
  have rest := agree.rest
  generalize second.memories = others at rest
  subst rest
  unfold contextOutcome
  cases found : first.tasks.get? taskId with
  | none => rfl
  | some task =>
    dsimp only
    rw [← own task found] at selected
    generalize lacking : preflightBlockers first task snapshotIds = lacks
    have again : preflightBlockers { first with memories := others } task snapshotIds = lacks := lacking
    rw [again]
    generalize held : first.activeContract task.id = active
    have still : ({ first with memories := others }).activeContract task.id = active := held
    rw [still]
    rcases lacks with _ | ⟨blocker, more⟩
    · rcases active with _ | contract
      · rfl
      · dsimp only
        rw [selected]
        rfl
    · rfl

/-- Two stores that differ in memories of other projects only give a task of the project the same
context: the same memories in the same order with the same texts, and the same word on the rest. -/
theorem planning_memory_same (search : Search) (projectId taskId : String) (first second : Store)
    (agree : AgreeFor projectId first.toTables second.toTables)
    (own : ∀ task, first.tasks.get? taskId = some task → task.projectId = projectId)
    (snapshotIds : List String) (runId : Option String) (budget : PlanningContextBudget) (allow : Bool) :
    (exec (PlanningContextBuilder.build search taskId snapshotIds runId budget allow) first).1 =
      (exec (PlanningContextBuilder.build search taskId snapshotIds runId budget allow) second).1 := by
  rw [build_outcome, build_outcome]
  exact contextOutcome_same agree own search snapshotIds runId budget allow

def ownMemory : MemoryEntryRow :=
  { id := "LMEM_000002", projectId := some "LPROJ_000001", scope := .project, statement := "own note"
    validationStatus := .validated }

def foreignMemory : MemoryEntryRow :=
  { id := "LMEM_000001", projectId := some "LPROJ_000002", scope := .project, statement := "other note"
    validationStatus := .validated }

/-- A task that is ready to be planned, beside some memories. -/
def plannedBeside (memories : Table MemoryEntryRow) : Store :=
  { projects := .single { id := "LPROJ_000001" }
    tasks := .single { id := "LTASK_000001", projectId := "LPROJ_000001", status := .ready }
    contracts := .single {
      id := "LCONTR_000001"
      taskId := "LTASK_000001"
      acceptanceCriteria := [[("statement", .str "noted")]] }
    memories := memories }

def ownMemories : Table MemoryEntryRow := .single ownMemory

def allMemories : Table MemoryEntryRow := ⟨[foreignMemory, ownMemory], by decide⟩

def noEvidence : Search := fun _ => .ok ⟨[], []⟩

theorem foreign_note_unseen :
    (exec (PlanningContextBuilder.build noEvidence "LTASK_000001" [] none { maxMemoryItems := 1 } false)
      (plannedBeside ownMemories)).1 =
    (exec (PlanningContextBuilder.build noEvidence "LTASK_000001" [] none { maxMemoryItems := 1 } false)
      (plannedBeside allMemories)).1 := by
  apply planning_memory_same noEvidence "LPROJ_000001"
  · refine ⟨rfl, ?_⟩
    intro row known
    have other : row ≠ foreignMemory := by
      rintro rfl
      exact known ⟨"LPROJ_000002", rfl, by decide⟩
    simp [plannedBeside, ownMemories, allMemories, other]
  · intro task found
    have member : task ∈ (plannedBeside ownMemories).tasks.rows := Table.get?_mem found
    rw [List.mem_singleton.mp member]

end Lucius.Planning
