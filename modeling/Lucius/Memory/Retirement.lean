import Lucius.Memory.Supersession
import Mathlib.Algebra.Order.BigOperators.Group.List

/-! Whether a memory that was superseded is shown again by a retrieval that does not ask for
inactive memories. -/

namespace Lucius.Memory

open Lucius.Action Run

/-- No default retrieval, whatever it asks for, returns a memory that another one supersedes. -/
def Retired (store : Store) : Prop :=
  ∀ query : MemoryQuery, query.includeExcluded = false →
    ∀ found ∈ memoryMatches store.toTables query, supersededBy store.memories found.memoryId = none

/-- No memory that another one supersedes is validated. -/
def RevivesNone (store : Store) : MemoryOperation → Prop
  | .validateMemory memoryId => ∀ row, store.memories.get? memoryId = some row →
      hasProvenance row.sourceReference row.sourceTaskId row.sourceRunId row.sourceEvidenceIds = true →
      row.supersededById = none
  | _ => True

/-- A memory with a link to the one that supersedes it has a status that is left out. -/
def Shelved (memories : Table MemoryEntryRow) : Prop :=
  ∀ memoryId row, memories.get? memoryId = some row → row.supersededById ≠ none →
    row.validationStatus ∈ defaultExcludedStatuses

theorem scopeRank_positive (scope : KnowledgeScope) : 0 < scopeRank scope := by
  cases scope <;> decide

theorem statusRank_positive {status : ValidationStatus} (shown : status ∉ defaultExcludedStatuses) :
    0 < statusRank status := by
  cases status <;> first | decide | exact absurd (by decide) shown

theorem sum_nonneg {gains : List (Int × String)} (each : ∀ gain ∈ gains, 0 ≤ gain.1) :
    0 ≤ (gains.map Prod.fst).sum := by
  apply List.sum_nonneg
  intro gain member
  obtain ⟨whole, listed, rfl⟩ := List.mem_map.mp member
  exact each whole listed

theorem rankRow_positive {row : MemoryEntryRow} (shown : row.validationStatus ∉ defaultExcludedStatuses)
    (projectId : Option String) (queryTerms : List String) :
    0 < (rankRow projectId queryTerms row).score := by
  have status := statusRank_positive shown
  have scope := scopeRank_positive row.scope
  have project := scopeRank_positive .project
  have links : 0 ≤ ((if row.supersededById = none then [((5 : Int), "not superseded")] else []).map
      Prod.fst).sum := by
    split <;> decide
  have provenance : 0 ≤ ((if hasProvenance row.sourceReference row.sourceTaskId row.sourceRunId
      row.sourceEvidenceIds then [((5 : Int), "provenance available")] else []).map Prod.fst).sum := by
    split <;> decide
  have terms : 0 ≤ (((queryTerms.filter (termMatches row)).map
      (fun term => ((10 : Int), "query term match: " ++ term))).map Prod.fst).sum := by
    apply sum_nonneg
    intro gain member
    obtain ⟨term, _, rfl⟩ := List.mem_map.mp member
    exact (by decide : (0 : Int) ≤ 10)
  unfold rankRow rankGains
  simp only [List.map_append, List.sum_append, List.map_cons, List.map_nil, List.sum_cons,
    List.sum_nil]
  split <;> dsimp only <;> omega

theorem mem_memoryMatches {tables : Tables} {query : MemoryQuery} {found : MemoryMatch}
    (member : found ∈ memoryMatches tables query) :
    ∃ row ∈ tables.memories.rows, queryMatches query row = true ∧ found.memoryId = row.id := by
  unfold memoryMatches rankMemory at member
  have kept := List.mem_of_mem_filter ((mem_sortedBy _ _ _).mp member)
  obtain ⟨row, sorted, rfl⟩ := List.mem_map.mp kept
  obtain ⟨listed, wanted⟩ := List.mem_filter.mp ((mem_sortedBy _ _ _).mp sorted)
  exact ⟨row, listed, wanted, rfl⟩

/-- A memory whose status is not left out is returned to whoever asks for nothing in particular. -/
theorem shown_by_default {tables : Tables} {row : MemoryEntryRow} (listed : row ∈ tables.memories.rows)
    (shown : row.validationStatus ∉ defaultExcludedStatuses) :
    rankRow none [] row ∈ memoryMatches tables {} := by
  have wanted : queryMatches {} row = true := by
    unfold queryMatches
    simp [shownToProject, Router.nonEmpty, tagsMeet, shown]
  unfold memoryMatches rankMemory
  apply (mem_sortedBy _ _ _).mpr
  apply List.mem_filter.mpr
  refine ⟨List.mem_map_of_mem ((mem_sortedBy _ _ _).mpr (List.mem_filter.mpr ⟨listed, wanted⟩)), ?_⟩
  exact decide_eq_true (rankRow_positive shown none [])

theorem retired_iff (store : Store) : Retired store ↔ Shelved store.memories := by
  constructor
  · intro retired memoryId row found linked
    by_contra shown
    have hidden := retired {} rfl _ (shown_by_default (Table.get?_mem found) shown)
    have link : supersededBy store.memories row.id = row.supersededById := by
      rw [supersededBy, found_own found]
      rfl
    exact linked (link.symm.trans hidden)
  · intro shelved query active found member
    obtain ⟨row, listed, wanted, same⟩ := mem_memoryMatches member
    have present : store.memories.get? row.id = some row := Table.get?_of_mem listed
    rw [same, supersededBy, present]
    by_contra linked
    have excluded := shelved row.id row present linked
    unfold queryMatches at wanted
    simp [active, excluded] at wanted

section

variable {memories : Table MemoryEntryRow}

theorem shelved_put {new : MemoryEntryRow} (shelved : Shelved memories)
    (kept : new.supersededById ≠ none → new.validationStatus ∈ defaultExcludedStatuses) :
    Shelved (memories.put new) := by
  intro memoryId row found linked
  cases Table.mem_put (Table.get?_mem found) with
  | inl same =>
    rw [same] at linked ⊢
    exact kept linked
  | inr old =>
    exact shelved row.id row (Table.get?_of_mem old.1) linked

theorem edited_shelved {after : Table MemoryEntryRow} (edited : Edited memories after)
    (shelved : Shelved memories) : Shelved after := by
  cases edited with
  | unchanged => exact shelved
  | created fresh _ superseded =>
    intro memoryId row found linked
    cases Table.mem_add (Table.get?_mem found) with
    | inl old => exact shelved row.id row (Table.get?_of_mem old) linked
    | inr same =>
      rw [same] at linked
      exact absurd superseded linked
  | rewritten present _ superseded status =>
    apply shelved_put shelved
    intro linked
    rw [superseded] at linked
    have before := shelved _ _ present linked
    cases status with
    | inl same =>
      rw [same]
      exact before
    | inr excluded => exact excluded

theorem supersedeMemory_shelved {store : Store} (oldId newId : String) (shelved : Shelved store.memories) :
    Shelved (step store (.supersedeMemory oldId newId)).memories := by
  by_cases accepted : ∃ old new, Accepted store.memories oldId newId old new
  · obtain ⟨old, new, accepted⟩ := accepted
    rw [supersedeMemory_accepted accepted]
    have first : Shelved (store.memories.put (superseded old new.id)) :=
      shelved_put shelved (fun _ => by simp [superseded, defaultExcludedStatuses])
    exact shelved_put first (fun linked => shelved newId new accepted.newFound linked)
  · rw [supersedeMemory_refused (fun old new now => accepted ⟨old, new, now⟩)]
    exact shelved

end

theorem validateMemory_accepted {store : Store} {memoryId : String} {row : MemoryEntryRow}
    (found : store.memories.get? memoryId = some row)
    (provenance : hasProvenance row.sourceReference row.sourceTaskId row.sourceRunId
      row.sourceEvidenceIds = true) :
    (step store (.validateMemory memoryId)).memories =
      store.memories.put { row with validationStatus := .validated } := by
  have ended : step store (.validateMemory memoryId) = (exec (validateMemory memoryId) store).2 :=
    exec_discarding _ store
  rw [ended]
  unfold validateMemory
  rw [Action.exec_bind_of_ok (exec_memoryRow found), if_pos provenance]
  rfl

theorem validateMemory_refused {store : Store} {memoryId : String}
    (refused : ∀ row, store.memories.get? memoryId = some row →
      hasProvenance row.sourceReference row.sourceTaskId row.sourceRunId row.sourceEvidenceIds = false) :
    (step store (.validateMemory memoryId)).memories = store.memories := by
  have ended : step store (.validateMemory memoryId) = (exec (validateMemory memoryId) store).2 :=
    exec_discarding _ store
  rw [ended]
  unfold validateMemory
  cases found : store.memories.get? memoryId with
  | none => rw [memoryRow_bind_raised found]
  | some row =>
    rw [Action.exec_bind_of_ok (exec_memoryRow found), refused row found]
    rfl

theorem validateMemory_shelved_iff {store : Store} (memoryId : String) (shelved : Shelved store.memories) :
    Shelved (step store (.validateMemory memoryId)).memories ↔
      RevivesNone store (.validateMemory memoryId) := by
  constructor
  · intro kept row found provenance
    by_contra linked
    rw [validateMemory_accepted found provenance] at kept
    have present : store.memories.get? row.id = some row := found_own found
    have written := Table.get?_put_same present
      (rfl : ({ row with validationStatus := .validated } : MemoryEntryRow).id = row.id)
    have excluded := kept row.id _ written linked
    simp [defaultExcludedStatuses] at excluded
  · intro alone
    by_cases accepted : ∃ row, store.memories.get? memoryId = some row ∧
        hasProvenance row.sourceReference row.sourceTaskId row.sourceRunId row.sourceEvidenceIds = true
    · obtain ⟨row, found, provenance⟩ := accepted
      rw [validateMemory_accepted found provenance]
      exact shelved_put shelved (fun linked => absurd (alone row found provenance) linked)
    · rw [validateMemory_refused]
      · exact shelved
      · intro row found
        by_contra provenance
        exact accepted ⟨row, found, by simpa using provenance⟩

theorem step_retired_iff (store : Store) (operation : MemoryOperation) (retired : Retired store) :
    Retired (step store operation) ↔ RevivesNone store operation := by
  have shelved := (retired_iff store).mp retired
  rw [retired_iff]
  by_cases validates : ∃ memoryId, operation = .validateMemory memoryId
  · obtain ⟨memoryId, rfl⟩ := validates
    exact validateMemory_shelved_iff memoryId shelved
  · have quiet : RevivesNone store operation := by
      cases operation with
      | validateMemory memoryId => exact absurd ⟨memoryId, rfl⟩ validates
      | _ => trivial
    refine iff_of_true ?_ quiet
    by_cases supersedes : ∃ oldId newId, operation = .supersedeMemory oldId newId
    · obtain ⟨oldId, newId, rfl⟩ := supersedes
      exact supersedeMemory_shelved oldId newId shelved
    · exact edited_shelved (step_edits store (fun memoryId same => validates ⟨memoryId, same⟩)
        (fun oldId newId same => supersedes ⟨oldId, newId, same⟩)) shelved

/-- Superseded memories stay hidden through a run exactly when none of them is validated in it. -/
theorem superseded_hidden_iff (start : Store) (operations : List MemoryOperation)
    (retired : Retired start) :
    Meets step (fun store operation => Retired (step store operation)) start operations ↔
      Meets step RevivesNone start operations := by
  apply meets_iff_guarded step Retired
  · exact fun store operation retired => step_retired_iff store operation retired
  · exact fun _ _ _ kept => kept
  · exact retired

theorem empty_retired : Retired {} := by
  rw [retired_iff]
  intro memoryId row found
  cases found

theorem newer_memory_hides :
    Meets step (fun store operation => Retired (step store operation)) {} newerMemory := by
  apply (superseded_hidden_iff {} newerMemory empty_retired).mpr
  exact ⟨trivial, trivial, trivial, trivial, trivial⟩

def validatedAgain : List MemoryOperation := newerMemory ++ [.validateMemory "LMEM_000001"]

/-- The memory that was superseded is validated, and retrieved again. -/
theorem validated_memory_returns : ¬ Retired (run step {} validatedAgain) := by
  intro retired
  have shown : (memoryMatches (run step {} validatedAgain).toTables ⟨none, none, none, [], [], [],
      false⟩).any (fun found => decide (supersededBy (run step {} validatedAgain).memories
        found.memoryId = some "LMEM_000002")) = true := by
    decide +kernel
  obtain ⟨found, member, linked⟩ := List.any_eq_true.mp shown
  have hidden := retired _ rfl found member
  rw [of_decide_eq_true linked] at hidden
  cases hidden

end Lucius.Memory
