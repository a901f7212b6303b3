import Lucius.Lib.Links
import Lucius.Memory.Lifecycle

/-! The links between a memory and the one that supersedes it: both ends agree, and no chain
of them is a circle. -/

namespace Lucius.Memory

open Lucius.Action Run

def supersededBy (memories : Table MemoryEntryRow) (memoryId : String) : Option String :=
  (memories.get? memoryId).bind MemoryEntryRow.supersededById

def supersedes (memories : Table MemoryEntryRow) (memoryId : String) : Option String :=
  (memories.get? memoryId).bind MemoryEntryRow.supersedesId

structure Linked (memories : Table MemoryEntryRow) : Prop where
  inverse : Links.Mutual (supersededBy memories) (supersedes memories)
  acyclic : Links.Acyclic (supersededBy memories)

/-- A supersession that is not refused, with the two memories as they are before it. -/
structure Accepted (memories : Table MemoryEntryRow) (oldId newId : String)
    (old new : MemoryEntryRow) : Prop where
  distinct : oldId ≠ newId
  oldFound : memories.get? oldId = some old
  newFound : memories.get? newId = some new
  direct : ¬ (new.supersededById = some old.id ∨ old.supersedesId = some new.id)

/-- A memory that is superseded is superseded by no third one, the one that supersedes it
supersedes no third one, and was not itself superseded, in however many steps, by the first. -/
def LinksFree (store : Store) : MemoryOperation → Prop
  | .supersedeMemory oldId newId => ∀ old new, Accepted store.memories oldId newId old new →
      (∀ third, old.supersededById = some third → third = newId) ∧
      (∀ third, new.supersedesId = some third → third = oldId) ∧
      ¬ Links.Reaches (supersededBy store.memories) newId oldId
  | _ => True

section

variable {memories : Table MemoryEntryRow} {β : Type} (field : MemoryEntryRow → Option β)

/-- A field of the memory under an identifier. -/
def fieldOf (memories : Table MemoryEntryRow) (memoryId : String) : Option β :=
  (memories.get? memoryId).bind field

theorem fieldOf_put {old new : MemoryEntryRow} (present : memories.get? new.id = some old) :
    fieldOf field (memories.put new) = Function.update (fieldOf field memories) new.id (field new) := by
  funext memoryId
  by_cases same : memoryId = new.id
  · subst same
    rw [Function.update_self, fieldOf, Table.get?_put_same present rfl]
    rfl
  · rw [Function.update_of_ne same, fieldOf, fieldOf]
    rw [Table.get?_put_other memories new (Ne.symm same)]

theorem fieldOf_kept {old new : MemoryEntryRow} (present : memories.get? new.id = some old)
    (kept : field new = field old) : fieldOf field (memories.put new) = fieldOf field memories := by
  have own : fieldOf field memories new.id = field old := by
    rw [fieldOf, present]
    rfl
  rw [fieldOf_put field present, kept, ← own, Function.update_eq_self]

theorem fieldOf_add {row : MemoryEntryRow} (fresh : memories.get? row.id = none)
    (empty : field row = none) : fieldOf field (memories.add row) = fieldOf field memories := by
  funext memoryId
  by_cases same : row.id = memoryId
  · subst same
    have added : (memories.add row).get? row.id = some row := Table.get?_add_fresh fresh
    rw [fieldOf, fieldOf, added, fresh]
    exact empty
  · rw [fieldOf, fieldOf, Table.get?_add_other same]

end

theorem edited_links {before after : Table MemoryEntryRow} (edited : Edited before after) :
    supersededBy after = supersededBy before ∧ supersedes after = supersedes before := by
  cases edited with
  | unchanged => exact ⟨rfl, rfl⟩
  | created fresh supersedes superseded =>
    exact ⟨fieldOf_add _ fresh superseded, fieldOf_add _ fresh supersedes⟩
  | rewritten present supersedes superseded _ =>
    exact ⟨fieldOf_kept _ present superseded, fieldOf_kept _ present supersedes⟩

def SameLinks (before after : Store) : Prop :=
  supersededBy after.memories = supersededBy before.memories ∧
    supersedes after.memories = supersedes before.memories

theorem validateMemory_links (memoryId : String) :
    Action.Respects SameLinks (validateMemory memoryId) := by
  have unchanged : ∀ store, SameLinks store store := fun _ => ⟨rfl, rfl⟩
  apply memoryRow_then unchanged
  intro store row found
  have present : store.memories.get? row.id = some row := found_own found
  split
  · exact ⟨fieldOf_kept _ present rfl, fieldOf_kept _ present rfl⟩
  · exact ⟨rfl, rfl⟩

/-- A memory with the link to the one that supersedes it. -/
def superseded (old : MemoryEntryRow) (newId : String) : MemoryEntryRow :=
  { old with
    validationStatus := .superseded
    supersededById := some newId }

def superseding (new : MemoryEntryRow) (oldId : String) : MemoryEntryRow :=
  { new with supersedesId := some oldId }

theorem supersedeMemory_accepted {store : Store} {oldId newId : String} {old new : MemoryEntryRow}
    (accepted : Accepted store.memories oldId newId old new) :
    (step store (.supersedeMemory oldId newId)).memories =
      (store.memories.put (superseded old new.id)).put (superseding new old.id) := by
  have ended : step store (.supersedeMemory oldId newId) =
      (exec (supersedeMemory oldId newId) store).2 := exec_discarding _ store
  rw [ended]
  unfold supersedeMemory
  rw [if_neg accepted.distinct, exec_bind_of_ok (exec_memoryRow accepted.oldFound),
    exec_bind_of_ok (exec_memoryRow accepted.newFound), if_neg accepted.direct]
  rfl

theorem supersedeMemory_refused {store : Store} {oldId newId : String}
    (refused : ∀ old new, ¬ Accepted store.memories oldId newId old new) :
    (step store (.supersedeMemory oldId newId)).memories = store.memories := by
  have ended : step store (.supersedeMemory oldId newId) =
      (exec (supersedeMemory oldId newId) store).2 := exec_discarding _ store
  rw [ended]
  unfold supersedeMemory
  by_cases same : oldId = newId
  · rw [if_pos same]
    rfl
  · rw [if_neg same]
    cases oldFound : store.memories.get? oldId with
    | none => rw [memoryRow_bind_raised oldFound]
    | some old =>
      rw [exec_bind_of_ok (exec_memoryRow oldFound)]
      cases newFound : store.memories.get? newId with
      | none => rw [memoryRow_bind_raised newFound]
      | some new =>
        rw [exec_bind_of_ok (exec_memoryRow newFound)]
        by_cases direct : new.supersededById = some old.id ∨ old.supersedesId = some new.id
        · rw [if_pos direct]
          rfl
        · exact absurd ⟨same, oldFound, newFound, direct⟩ (refused old new)

theorem Accepted.old_link {memories : Table MemoryEntryRow} {oldId newId : String}
    {old new : MemoryEntryRow} (accepted : Accepted memories oldId newId old new) :
    supersededBy memories oldId = old.supersededById := by
  rw [supersededBy, accepted.oldFound]
  rfl

theorem Accepted.new_link {memories : Table MemoryEntryRow} {oldId newId : String}
    {old new : MemoryEntryRow} (accepted : Accepted memories oldId newId old new) :
    supersedes memories newId = new.supersedesId := by
  rw [supersedes, accepted.newFound]
  rfl

/-- The first write leaves the superseding memory in its place. -/
theorem Accepted.second {memories : Table MemoryEntryRow} {oldId newId : String}
    {old new : MemoryEntryRow} (accepted : Accepted memories oldId newId old new) :
    (memories.put (superseded old newId)).get? (superseding new oldId).id = some new := by
  have apart : (superseded old newId).id ≠ newId := by
    intro same
    exact accepted.distinct ((Table.get?_key accepted.oldFound).symm.trans same)
  have newKey : (superseding new oldId).id = newId := Table.get?_key accepted.newFound
  rw [newKey, Table.get?_put_other _ _ apart]
  exact accepted.newFound

section

variable {store : Store} {oldId newId : String} {old new : MemoryEntryRow}

theorem supersededBy_accepted (accepted : Accepted store.memories oldId newId old new) :
    supersededBy (step store (.supersedeMemory oldId newId)).memories =
      Function.update (supersededBy store.memories) oldId (some newId) := by
  have oldKey : old.id = oldId := Table.get?_key accepted.oldFound
  have newKey : new.id = newId := Table.get?_key accepted.newFound
  have present : store.memories.get? (superseded old newId).id = some old := found_own accepted.oldFound
  rw [supersedeMemory_accepted accepted, oldKey, newKey]
  calc supersededBy ((store.memories.put (superseded old newId)).put (superseding new oldId))
    _ = supersededBy (store.memories.put (superseded old newId)) := fieldOf_kept _ accepted.second rfl
    _ = Function.update (supersededBy store.memories) old.id (some newId) := fieldOf_put _ present
    _ = _ := by rw [oldKey]

theorem supersedes_accepted (accepted : Accepted store.memories oldId newId old new) :
    supersedes (step store (.supersedeMemory oldId newId)).memories =
      Function.update (supersedes store.memories) newId (some oldId) := by
  have oldKey : old.id = oldId := Table.get?_key accepted.oldFound
  have newKey : new.id = newId := Table.get?_key accepted.newFound
  have present : store.memories.get? (superseded old newId).id = some old := found_own accepted.oldFound
  rw [supersedeMemory_accepted accepted, oldKey, newKey]
  calc supersedes ((store.memories.put (superseded old newId)).put (superseding new oldId))
    _ = Function.update (supersedes (store.memories.put (superseded old newId))) new.id (some oldId) :=
        fieldOf_put _ accepted.second
    _ = Function.update (supersedes store.memories) newId (some oldId) := by
        rw [newKey]
        exact congrArg (Function.update · newId (some oldId)) (fieldOf_kept MemoryEntryRow.supersedesId present rfl)

/-- What one supersession needs, in the state it starts from, for the links to stay sound. -/
theorem supersede_linked_iff (linked : Linked store.memories)
    (accepted : Accepted store.memories oldId newId old new) :
    Linked (step store (.supersedeMemory oldId newId)).memories ↔
      (∀ third, old.supersededById = some third → third = newId) ∧
      (∀ third, new.supersedesId = some third → third = oldId) ∧
      ¬ Links.Reaches (supersededBy store.memories) newId oldId := by
  have ends := @Links.mutual_linked _ _ _ oldId newId _ linked.inverse
  have chains := @Links.acyclic_linked _ _ oldId newId _ linked.acyclic
  rw [accepted.old_link, accepted.new_link, ← supersededBy_accepted accepted, ← supersedes_accepted accepted] at ends
  rw [← supersededBy_accepted accepted] at chains
  constructor
  · intro kept
    obtain ⟨freeOld, freeNew⟩ := ends.mp kept.inverse
    exact ⟨freeOld, freeNew, chains.mp kept.acyclic⟩
  · rintro ⟨freeOld, freeNew, apart⟩
    exact ⟨ends.mpr ⟨freeOld, freeNew⟩, chains.mpr apart⟩

end

theorem linked_congr {before after : Table MemoryEntryRow}
    (same : supersededBy after = supersededBy before ∧ supersedes after = supersedes before)
    (linked : Linked before) : Linked after := by
  constructor
  · rw [same.1, same.2]
    exact linked.inverse
  · rw [same.1]
    exact linked.acyclic

theorem step_linked_iff (store : Store) (operation : MemoryOperation) (linked : Linked store.memories) :
    Linked (step store operation).memories ↔ LinksFree store operation := by
  by_cases validates : ∃ memoryId, operation = .validateMemory memoryId
  · obtain ⟨memoryId, rfl⟩ := validates
    refine iff_of_true (linked_congr ?_ linked) trivial
    have ended : step store (.validateMemory memoryId) = (exec (validateMemory memoryId) store).2 :=
      exec_discarding _ store
    rw [ended]
    exact validateMemory_links memoryId store
  · by_cases supersedes : ∃ oldId newId, operation = .supersedeMemory oldId newId
    · obtain ⟨oldId, newId, rfl⟩ := supersedes
      by_cases accepted : ∃ old new, Accepted store.memories oldId newId old new
      · obtain ⟨old, new, accepted⟩ := accepted
        rw [supersede_linked_iff linked accepted]
        constructor
        · intro free other another again
          cases accepted.oldFound.symm.trans again.oldFound
          cases accepted.newFound.symm.trans again.newFound
          exact free
        · exact fun free => free old new accepted
      · have refused : ∀ old new, ¬ Accepted store.memories oldId newId old new := by
          intro old new acceptedNow
          exact accepted ⟨old, new, acceptedNow⟩
        rw [supersedeMemory_refused refused]
        refine iff_of_true linked ?_
        intro old new acceptedNow
        exact absurd acceptedNow (refused old new)
    · have edited := step_edits store (fun memoryId same => validates ⟨memoryId, same⟩)
        (fun oldId newId same => supersedes ⟨oldId, newId, same⟩)
      refine iff_of_true (linked_congr (edited_links edited) linked) ?_
      cases operation with
      | supersedeMemory oldId newId => exact absurd ⟨oldId, newId, rfl⟩ supersedes
      | _ => trivial

/-- The links of the memories are sound after every operation of a run exactly when each
supersession of it, as it is made, links memories that are free to be linked. -/
theorem supersession_linked_iff (start : Store) (operations : List MemoryOperation)
    (linked : Linked start.memories) :
    Meets step (fun store operation => Linked (step store operation).memories) start operations ↔
      Meets step LinksFree start operations := by
  apply meets_iff_guarded step (fun store => Linked store.memories)
  · exact fun store operation linked => step_linked_iff store operation linked
  · exact fun _ _ _ kept => kept
  · exact linked

theorem empty_linked : Linked (Table.empty : Table MemoryEntryRow) :=
  ⟨Links.mutual_none, Links.acyclic_none⟩

def statement (text : String) : MemoryOperation :=
  .createMemory {
    scope := .dfg
    statement := text
    confidence := 7 / 10
    sourceReference := some "source" }

def threeMemories : List MemoryOperation := [statement "first", statement "second", statement "third"]

/-- Each of three memories supersedes the one before it, the first the last. -/
def circle : List MemoryOperation :=
  threeMemories ++ [.supersedeMemory "LMEM_000001" "LMEM_000002",
    .supersedeMemory "LMEM_000002" "LMEM_000003", .supersedeMemory "LMEM_000003" "LMEM_000001"]

def newerMemory : List MemoryOperation :=
  threeMemories ++ [.supersedeMemory "LMEM_000001" "LMEM_000002"]

theorem newer_memory_linked :
    Meets step (fun store operation => Linked (step store operation).memories) {} newerMemory := by
  apply (supersession_linked_iff {} newerMemory empty_linked).mpr
  refine ⟨trivial, trivial, trivial, ?_, trivial⟩
  intro old new accepted
  have alone : supersededBy (run step {} threeMemories).memories "LMEM_000001" = none ∧
      supersedes (run step {} threeMemories).memories "LMEM_000002" = none ∧
      supersededBy (run step {} threeMemories).memories "LMEM_000002" = none := by
    decide +kernel
  obtain ⟨oldAlone, newAlone, last⟩ := alone
  refine ⟨?_, ?_, ?_⟩
  · intro third link
    cases (accepted.old_link.trans link).symm.trans oldAlone
  · intro third link
    cases (accepted.new_link.trans link).symm.trans newAlone
  · intro reaches
    cases Relation.ReflTransGen.cases_head reaches with
    | inl same => exact absurd same (by decide)
    | inr onward =>
      obtain ⟨third, link, _⟩ := onward
      cases link.symm.trans last

theorem circle_not_linked : ¬ Linked (run step {} circle).memories := by
  intro linked
  have links : supersededBy (run step {} circle).memories "LMEM_000001" = some "LMEM_000002" ∧
      supersededBy (run step {} circle).memories "LMEM_000002" = some "LMEM_000003" ∧
      supersededBy (run step {} circle).memories "LMEM_000003" = some "LMEM_000001" := by
    decide +kernel
  obtain ⟨first, second, third⟩ := links
  exact linked.acyclic "LMEM_000001" (.tail (.tail (.single first) second) third)

end Lucius.Memory
