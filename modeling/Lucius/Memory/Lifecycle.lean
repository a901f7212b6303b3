import Lucius.Learning.Service
import Lucius.Memory.Retrieval

/-! What happens to a memory after it was created: it is validated, contradicted, superseded
or deprecated, and marked for revalidation as its evidence grows old. -/

namespace Lucius.Memory

open Lucius.Action Learning Router

inductive EvidenceStatus where
  | current | stale | missing
  deriving DecidableEq

/-- A failure and what was learnt from it, as far as a memory of it is made of them. -/
structure FailureExperience where
  whatFailed : String
  rootCause : Option String := none
  finalFix : Option String := none
  taskId : Option String := none
  runId : Option String := none
  evidenceIds : List String := []

structure TaskExperience where
  taskId : String
  runId : String
  outcome : String
  summary : Option String := none
  evidenceIds : List String := []
  documentationRefs : List String := []
  createLearningCandidate : Bool := false

def rewriteMemory (memoryId eventType action : String) (rewrite : MemoryEntryRow → MemoryEntryRow) :
    Op MemoryEntryRow := do
  let row ← memoryRow memoryId
  let _ ← Op.utcNow
  modify (fun store => { store with memories := store.memories.put (rewrite row) })
  Op.record {
    eventType := eventType
    projectId := row.projectId
    action := action
    result := "SUCCESS" }
  return rewrite row

def contradictMemory (memoryId reason : String) : Op MemoryEntryRow :=
  rewriteMemory memoryId "MEMORY_CONTRADICTED" "contradict_memory" (fun row =>
    { row with
      validationStatus := .contradicted
      revalidationReason := some reason })

def deprecateMemory (memoryId reason : String) : Op MemoryEntryRow :=
  rewriteMemory memoryId "MEMORY_DEPRECATED" "deprecate_memory" (fun row =>
    { row with
      validationStatus := .deprecated
      revalidationReason := some reason })

/-- Only the pair itself is looked at for a circle. -/
def supersedeMemory (oldMemoryId newMemoryId : String) : Op MemoryEntryRow := do
  if oldMemoryId = newMemoryId then throw (.valueError "Memory cannot supersede itself")
  else
    let old ← memoryRow oldMemoryId
    let new ← memoryRow newMemoryId
    if new.supersededById = some old.id ∨ old.supersedesId = some new.id then
      throw (.valueError "Circular supersession rejected")
    else
      let _ ← Op.utcNow
      let _ ← Op.utcNow
      let superseded := { old with
        validationStatus := .superseded
        supersededById := some new.id }
      let superseding := { new with supersedesId := some old.id }
      modify (fun store =>
        { store with memories := (store.memories.put superseded).put superseding })
      Op.record {
        eventType := "MEMORY_SUPERSEDED"
        projectId := if (nonEmpty old.projectId).isSome then old.projectId else new.projectId
        action := "supersede_memory"
        result := "SUCCESS" }
      return superseded

def clearRevalidationFlag (memoryId : String) : Op MemoryEntryRow := do
  let row ← memoryRow memoryId
  if row.sourceEvidenceIds = [] ∧ nonEmpty row.sourceReference = none then
    throw (.valueError "Cannot clear revalidation without valid evidence or source reference")
  else
    rewriteMemory memoryId "MEMORY_REVALIDATION_CLEARED" "clear_revalidation_flag" (fun row =>
      { row with
        requiresRevalidation := false
        revalidationReason := none })

/-- The status of each piece of evidence is what the evidence service reports of it. -/
def propagateEvidenceStaleness (memoryId : String) (statusOf : String → EvidenceStatus) :
    Op MemoryEntryRow := do
  let row ← memoryRow memoryId
  let outdated := fun evidenceId => decide (statusOf evidenceId ∈ [EvidenceStatus.stale, .missing])
  if row.sourceEvidenceIds = [] then return row
  else if row.sourceEvidenceIds.all outdated then
    markRequiresRevalidation row.id "All evidence sources are stale or missing"
  else if row.sourceEvidenceIds.any outdated then
    markRequiresRevalidation row.id
      "At least one evidence source is stale or missing; other evidence remains"
  else return row

def taskProjectId (tables : Tables) (taskId : Option String) : Option String :=
  ((nonEmpty taskId).bind tables.tasks.get?).map TaskRow.projectId

def taskStatement (experience : TaskExperience) : String :=
  String.ofList (Json.strip ("Task " ++ experience.taskId ++ " outcome: " ++ experience.outcome ++
    ". " ++ experience.summary.getD "").toList)

def captureTaskExperience (experience : TaskExperience) : Op Unit := do
  let store ← get
  if (store.taskRuns.get? experience.runId).all (fun run => run.taskId ≠ experience.taskId) then
    throw (.valueError "TaskRun does not belong to task")
  else
    let memory ← createMemory {
      scope := .project
      projectId := taskProjectId store.toTables (some experience.taskId)
      statement := taskStatement experience
      confidence := 7 / 10
      sourceTaskId := some experience.taskId
      sourceRunId := some experience.runId
      sourceEvidenceIds := experience.evidenceIds
      contextTags := ["task_experience"] }
    if experience.createLearningCandidate then
      let _ ← createCandidate {
        candidateType := .pattern
        statement := taskStatement experience
        projectId := memory.projectId
        taskId := some experience.taskId
        runId := some experience.runId
        evidenceIds := experience.evidenceIds
        sourceDocumentRefs := experience.documentationRefs
        proposedScope := .project }
    else return ()

def failureStatement (failure : FailureExperience) : String :=
  "Failure: " ++ failure.whatFailed ++ ". Cause: " ++ (nonEmpty failure.rootCause).getD "unknown" ++
    ". Fix: " ++ (nonEmpty failure.finalFix).getD "unresolved" ++ "."

def captureFailureMemory (failure : FailureExperience) : Op Unit := do
  let store ← get
  let projectId := taskProjectId store.toTables failure.taskId
  let scope := if (nonEmpty projectId).isSome then KnowledgeScope.project else .session
  let _ ← createMemory {
    scope := scope
    projectId := projectId
    statement := failureStatement failure
    confidence := 65 / 100
    sourceTaskId := failure.taskId
    sourceRunId := failure.runId
    sourceEvidenceIds := failure.evidenceIds
    contextTags := ["failure"] }
  let _ ← createCandidate {
    candidateType := .failurePattern
    statement := failureStatement failure
    projectId := projectId
    taskId := failure.taskId
    runId := failure.runId
    evidenceIds := failure.evidenceIds
    proposedScope := scope }
  Op.record {
    eventType := "FAILURE_MEMORY_CAPTURED"
    projectId := projectId
    taskId := failure.taskId
    runId := failure.runId
    action := "capture_failure_memory"
    result := "SUCCESS" }

inductive MemoryOperation where
  | createMemory (request : MemoryRequest)
  | retrieveMemory (query : MemoryQuery)
  | validateMemory (memoryId : String)
  | contradictMemory (memoryId reason : String)
  | supersedeMemory (oldMemoryId newMemoryId : String)
  | deprecateMemory (memoryId reason : String)
  | markRequiresRevalidation (memoryId reason : String)
  | clearRevalidationFlag (memoryId : String)
  | propagateEvidenceStaleness (memoryId : String) (statusOf : String → EvidenceStatus)
  | captureTaskExperience (experience : TaskExperience)
  | captureFailureMemory (failure : FailureExperience)

def attempt : MemoryOperation → Op Unit
  | .createMemory request => do let _ ← createMemory request
  | .retrieveMemory query => do let _ ← retrieveMemory query
  | .validateMemory memoryId => do let _ ← validateMemory memoryId
  | .contradictMemory memoryId reason => do let _ ← contradictMemory memoryId reason
  | .supersedeMemory oldMemoryId newMemoryId => do let _ ← supersedeMemory oldMemoryId newMemoryId
  | .deprecateMemory memoryId reason => do let _ ← deprecateMemory memoryId reason
  | .markRequiresRevalidation memoryId reason => do let _ ← markRequiresRevalidation memoryId reason
  | .clearRevalidationFlag memoryId => do let _ ← clearRevalidationFlag memoryId
  | .propagateEvidenceStaleness memoryId statusOf => do
      let _ ← propagateEvidenceStaleness memoryId statusOf
  | .captureTaskExperience experience => captureTaskExperience experience
  | .captureFailureMemory failure => captureFailureMemory failure

/-- What an operation that raises has written before stays. -/
def step (store : Store) (operation : MemoryOperation) : Store := (exec (attempt operation) store).2

theorem exec_discarding {α : Type} (action : Op α) (store : Store) :
    (exec (do let _ ← action : Op Unit) store).2 = (exec action store).2 := by
  rw [exec_bind]
  rcases exec action store with ⟨error | value, after⟩ <;> rfl

/-- How most operations leave the memories: no link is written, and no memory is made
active again. -/
inductive Edited (memories : Table MemoryEntryRow) : Table MemoryEntryRow → Prop
  | unchanged : Edited memories memories
  | created {row : MemoryEntryRow} (fresh : memories.get? row.id = none)
      (supersedes : row.supersedesId = none) (superseded : row.supersededById = none) :
      Edited memories (memories.add row)
  | rewritten {old new : MemoryEntryRow} (present : memories.get? new.id = some old)
      (supersedes : new.supersedesId = old.supersedesId)
      (superseded : new.supersededById = old.supersededById)
      (status : new.validationStatus = old.validationStatus ∨
        new.validationStatus ∈ defaultExcludedStatuses) :
      Edited memories (memories.put new)

def Edits (before after : Store) : Prop := Edited before.memories after.memories

def SameMemories (before after : Store) : Prop := after.memories = before.memories

theorem edits_refl (store : Store) : Edits store store := .unchanged

theorem sameMemories_refl (store : Store) : SameMemories store store := rfl

theorem sameMemories_trans (first second third : Store) (one : SameMemories first second)
    (two : SameMemories second third) : SameMemories first third := two.trans one

theorem edits_of_same (before after : Store) (same : SameMemories before after) :
    Edits before after := by
  unfold Edits
  rw [same]
  exact .unchanged

theorem edits_then {α β : Type} {first : Op α} {next : α → Op β} (before : Respects Edits first)
    (later : ∀ value, Respects SameMemories (next value)) : Respects Edits (first >>= next) := by
  apply respects_then (fun _ _ edited => edited) _ before later
  intro start middle last edited same
  unfold Edits
  rw [same]
  exact edited

theorem then_edits {α β : Type} {first : Op α} {next : α → Op β}
    (before : Respects SameMemories first) (later : ∀ value, Respects Edits (next value)) :
    Respects Edits (first >>= next) := by
  apply respects_then edits_of_same _ before later
  intro start middle last same edited
  unfold Edits at edited ⊢
  rw [same] at edited
  exact edited

theorem found_own {memories : Table MemoryEntryRow} {memoryId : String} {row : MemoryEntryRow}
    (found : memories.get? memoryId = some row) : memories.get? row.id = some row := by
  have same : row.id = memoryId := Table.get?_key found
  rw [same]
  exact found

theorem exec_memoryRow {store : Store} {memoryId : String} {row : MemoryEntryRow}
    (found : store.memories.get? memoryId = some row) :
    exec (memoryRow memoryId) store = (.ok row, store) := by
  unfold memoryRow
  rw [exec_get_bind, found]
  rfl

theorem memoryRow_bind_raised {store : Store} {memoryId : String} {α : Type}
    {next : MemoryEntryRow → Op α} (missing : store.memories.get? memoryId = none) :
    (exec (memoryRow memoryId >>= next) store).2 = store := by
  unfold memoryRow
  rw [bind_assoc, exec_get_bind, missing]
  rfl

theorem memoryRow_then {relation : Store → Store → Prop} (reflexive : ∀ store, relation store store)
    {memoryId : String} {α : Type} {next : MemoryEntryRow → Op α}
    (later : ∀ store row, store.memories.get? memoryId = some row →
      relation store (exec (next row) store).2) : Respects relation (memoryRow memoryId >>= next) := by
  intro store
  cases found : store.memories.get? memoryId with
  | none =>
    rw [memoryRow_bind_raised found]
    exact reflexive store
  | some row =>
    rw [exec_bind_of_ok (exec_memoryRow found)]
    exact later store row found

theorem createMemory_edits (request : MemoryRequest) : Respects Edits (createMemory request) := by
  apply respects_of_ends
  · intro store row after done
    obtain ⟨-, -, fresh, made, tables⟩ := createMemory_ok done
    have memories : after.memories = store.memories.add row := congrArg Tables.memories tables
    unfold Edits
    rw [memories]
    exact .created fresh (by rw [made]; rfl) (by rw [made]; rfl)
  · intro store error after raised
    apply edits_of_same
    exact congrArg Tables.memories (createMemory_raised raised)

theorem createCandidate_memories (request : CandidateRequest) :
    Respects SameMemories (createCandidate request) := by
  intro store
  unfold SameMemories createCandidate
  rw [exec_bind, exec_ofExcept]
  cases validateConfidence request.confidence with
  | error refusal => rfl
  | ok _ =>
    dsimp only
    split
    · rfl
    · unfold Learning.addCandidate
      rw [exec_get_bind, exec_bind_of_ok (Op.exec_nextId _ _),
        exec_bind_of_ok (Op.exec_utcNow _), bind_assoc, exec_get_bind]
      split <;> rfl

theorem rewriteMemory_edits (memoryId eventType action : String)
    {rewrite : MemoryEntryRow → MemoryEntryRow} (keepsId : ∀ row, (rewrite row).id = row.id)
    (supersedes : ∀ row, (rewrite row).supersedesId = row.supersedesId)
    (superseded : ∀ row, (rewrite row).supersededById = row.supersededById)
    (status : ∀ row, (rewrite row).validationStatus = row.validationStatus ∨
      (rewrite row).validationStatus ∈ defaultExcludedStatuses) :
    Respects Edits (rewriteMemory memoryId eventType action rewrite) := by
  apply memoryRow_then edits_refl
  intro store row found
  have present : store.memories.get? (rewrite row).id = some row := by
    rw [keepsId]
    exact found_own found
  exact .rewritten present (supersedes row) (superseded row) (status row)

theorem contradictMemory_edits (memoryId reason : String) :
    Respects Edits (contradictMemory memoryId reason) := by
  apply rewriteMemory_edits
  · exact fun _ => rfl
  · exact fun _ => rfl
  · exact fun _ => rfl
  · intro row
    right
    simp [defaultExcludedStatuses]

theorem deprecateMemory_edits (memoryId reason : String) :
    Respects Edits (deprecateMemory memoryId reason) := by
  apply rewriteMemory_edits
  · exact fun _ => rfl
  · exact fun _ => rfl
  · exact fun _ => rfl
  · intro row
    right
    simp [defaultExcludedStatuses]

theorem markRequiresRevalidation_edits (memoryId reason : String) :
    Respects Edits (markRequiresRevalidation memoryId reason) := by
  apply memoryRow_then edits_refl
  intro store row found
  have present : store.memories.get? row.id = some row := found_own found
  exact .rewritten present rfl rfl (.inl rfl)

theorem clearRevalidationFlag_edits (memoryId : String) :
    Respects Edits (clearRevalidationFlag memoryId) := by
  apply memoryRow_then edits_refl
  intro store row found
  split
  · exact respects_throw edits_refl _ store
  · clear found
    revert store
    apply rewriteMemory_edits
    · exact fun _ => rfl
    · exact fun _ => rfl
    · exact fun _ => rfl
    · exact fun _ => .inl rfl

theorem propagateEvidenceStaleness_edits (memoryId : String) (statusOf : String → EvidenceStatus) :
    Respects Edits (propagateEvidenceStaleness memoryId statusOf) := by
  apply memoryRow_then edits_refl
  intro store row found
  dsimp only
  split
  · exact respects_pure edits_refl row store
  · split
    · exact markRequiresRevalidation_edits row.id _ store
    · split
      · exact markRequiresRevalidation_edits row.id _ store
      · exact respects_pure edits_refl row store

theorem retrieveMemory_memories (query : MemoryQuery) :
    Respects SameMemories (retrieveMemory query) := by
  intro store
  unfold retrieveMemory
  rw [exec_get_bind, exec_bind_of_ok (Op.exec_record _ _)]
  rfl

theorem captureTaskExperience_edits (experience : TaskExperience) :
    Respects Edits (captureTaskExperience experience) := by
  apply then_edits (respects_get sameMemories_refl)
  intro store
  split
  · exact respects_throw edits_refl _
  · apply edits_then (createMemory_edits _)
    intro memory
    split
    · apply respects_bind sameMemories_trans (createCandidate_memories _)
      exact fun _ => respects_pure sameMemories_refl ()
    · exact respects_pure sameMemories_refl ()

theorem captureFailureMemory_edits (failure : FailureExperience) :
    Respects Edits (captureFailureMemory failure) := by
  apply then_edits (respects_get sameMemories_refl)
  intro store
  apply edits_then (createMemory_edits _)
  intro memory
  apply respects_bind sameMemories_trans (createCandidate_memories _)
  exact fun _ _ => rfl

theorem step_edits (store : Store) {operation : MemoryOperation}
    (noValidation : ∀ memoryId, operation ≠ .validateMemory memoryId)
    (noSupersession : ∀ old new, operation ≠ .supersedeMemory old new) :
    Edits store (step store operation) := by
  have ended : ∀ {α : Type} {action : Op α}, Respects Edits action →
      Respects Edits (do let _ ← action : Op Unit) := by
    intro α action edits store
    rw [exec_discarding]
    exact edits store
  cases operation with
  | createMemory request => exact ended (createMemory_edits request) store
  | retrieveMemory query =>
    exact ended (respects_mono edits_of_same (retrieveMemory_memories query)) store
  | validateMemory memoryId => exact absurd rfl (noValidation memoryId)
  | contradictMemory memoryId reason => exact ended (contradictMemory_edits memoryId reason) store
  | supersedeMemory old new => exact absurd rfl (noSupersession old new)
  | deprecateMemory memoryId reason => exact ended (deprecateMemory_edits memoryId reason) store
  | markRequiresRevalidation memoryId reason =>
    exact ended (markRequiresRevalidation_edits memoryId reason) store
  | clearRevalidationFlag memoryId => exact ended (clearRevalidationFlag_edits memoryId) store
  | propagateEvidenceStaleness memoryId statusOf =>
    exact ended (propagateEvidenceStaleness_edits memoryId statusOf) store
  | captureTaskExperience experience => exact captureTaskExperience_edits experience store
  | captureFailureMemory failure => exact captureFailureMemory_edits failure store

end Lucius.Memory
