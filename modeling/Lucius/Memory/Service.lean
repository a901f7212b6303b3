import Lucius.Memory.Firewall

/-! The memories of the engine: how one is created, and how one is validated. -/

namespace Lucius.Memory

open Lucius.Action Router

/-- What a memory is created with. -/
structure MemoryRequest where
  scope : KnowledgeScope
  statement : String
  confidence : Rat
  validationStatus : ValidationStatus := .observed
  projectId : Option String := none
  sourceReference : Option String := none
  sourceProjectId : Option String := none
  sourceTaskId : Option String := none
  sourceRunId : Option String := none
  sourceEvidenceIds : List String := []
  contextTags : List String := []
  technologyTags : List String := []

def validateConfidence (confidence : Rat) : Except PyExc Unit :=
  if confidence < 0 ∨ 1 < confidence then
    .error (.valueError "confidence must be between 0.0 and 1.0")
  else .ok ()

def hasProvenance (reference taskId runId : Option String) (evidenceIds : List String) : Bool :=
  (nonEmpty reference).isSome || (nonEmpty taskId).isSome || (nonEmpty runId).isSome ||
    !evidenceIds.isEmpty

def validateMemoryCreation (request : MemoryRequest) : Except PyExc Unit := do
  validateConfidence request.confidence
  if (request.scope = .project ∨ request.scope = .client) ∧ nonEmpty request.projectId = none then
    throw (.valueError (StrEnum.value request.scope ++ " memory requires project_id"))
  else if request.validationStatus = .validated ∧ hasProvenance request.sourceReference
      request.sourceTaskId request.sourceRunId request.sourceEvidenceIds = false then
    throw (.valueError "VALIDATED memory requires provenance")
  else if request.scope = .global ∧ request.validationStatus = .validated ∧
      request.sourceEvidenceIds = [] then
    throw (.valueError "VALIDATED GLOBAL memory requires evidence provenance")
  else return ()

def MemoryRequest.row (request : MemoryRequest) (id : String) : MemoryEntryRow where
  id := id
  projectId := request.projectId
  scope := request.scope
  statement := String.ofList (Json.strip request.statement.toList)
  sourceReference := request.sourceReference
  sourceProjectId := request.sourceProjectId
  sourceTaskId := request.sourceTaskId
  sourceRunId := request.sourceRunId
  sourceEvidenceIds := request.sourceEvidenceIds
  confidence := request.confidence
  validationStatus := request.validationStatus
  contextTags := request.contextTags
  technologyTags := request.technologyTags

def memoryAudit (row : MemoryEntryRow) (eventType action : String) : AuditDraft where
  eventType := eventType
  projectId := row.projectId
  taskId := row.sourceTaskId
  runId := row.sourceRunId
  action := action
  result := "SUCCESS"

def addMemory (row : MemoryEntryRow) : Op Unit := do
  let store ← get
  if (store.memories.get? row.id).isSome then throw .databaseError
  else set { store with memories := store.memories.add row }

/-- The project a memory belongs to is the one source that is looked at. -/
def createMemory (request : MemoryRequest) : Op MemoryEntryRow := do
  Action.ofExcept (validateMemoryCreation request)
  let store ← get
  if request.scope = .global ∧ isClient store.toTables request.projectId = true then
    Op.record {
      eventType := "KNOWLEDGE_PROMOTION_BLOCKED"
      projectId := request.projectId
      action := "create_memory"
      result := "BLOCKED" }
    throw (.valueError "CLIENT-derived memory cannot directly become GLOBAL")
  else
    let id ← Op.nextId .memory
    let _ ← Op.utcNow
    addMemory (request.row id)
    Op.record (memoryAudit (request.row id) "MEMORY_CREATED" "create_memory")
    return request.row id

def memoryRow (memoryId : String) : Op MemoryEntryRow := do
  let store ← get
  match store.memories.get? memoryId with
  | some row => return row
  | none => throw (.valueError ("Unknown memory entry: " ++ memoryId))

def validateMemory (memoryId : String) : Op MemoryEntryRow := do
  let row ← memoryRow memoryId
  if hasProvenance row.sourceReference row.sourceTaskId row.sourceRunId row.sourceEvidenceIds then
    let _ ← Op.utcNow
    let validated := { row with validationStatus := .validated }
    modify (fun store => { store with memories := store.memories.put validated })
    Op.record {
      eventType := "MEMORY_VALIDATED"
      projectId := row.projectId
      action := "validate_memory"
      result := "SUCCESS" }
    return validated
  else throw (.valueError "VALIDATED memory requires provenance")

theorem createMemory_ok {request : MemoryRequest} {store after : Store} {row : MemoryEntryRow}
    (done : Action.exec (createMemory request) store = (.ok row, after)) :
    validateMemoryCreation request = .ok () ∧
      (request.scope = .global → isClient store.toTables request.projectId = false) ∧
      store.memories.get? row.id = none ∧ row = request.row row.id ∧
      after.toTables = { store.toTables with memories := store.memories.add row } := by
  unfold createMemory at done
  obtain ⟨_, accepted, done⟩ := bind_ofExcept_ok done
  rw [exec_get_bind] at done
  split at done
  · cases done
  · next admitted =>
      rw [exec_bind_of_ok (Op.exec_nextId _ _),
        exec_bind_of_ok (Op.exec_utcNow _)] at done
      obtain ⟨_, middle, added, later⟩ := bind_ok done
      rw [exec_bind_of_ok (Op.exec_record _ _)] at later
      obtain ⟨rfl, rfl⟩ := ok_pure later
      unfold addMemory at added
      rw [exec_get_bind] at added
      split at added
      · cases added
      · next fresh =>
          cases added
          refine ⟨accepted, ?_, by simpa using fresh, rfl, rfl⟩
          intro wide
          simpa [wide] using admitted

theorem createMemory_raised {request : MemoryRequest} {store after : Store} {error : PyExc}
    (raised : Action.exec (createMemory request) store = (.error error, after)) :
    after.toTables = store.toTables := by
  unfold createMemory at raised
  rw [exec_bind, exec_ofExcept] at raised
  cases accepted : validateMemoryCreation request with
  | error refusal =>
    rw [accepted] at raised
    cases raised
    rfl
  | ok _ =>
    rw [accepted] at raised
    dsimp only at raised
    rw [exec_get_bind] at raised
    split at raised
    · cases raised
      rfl
    · rw [exec_bind_of_ok (Op.exec_nextId _ _),
        exec_bind_of_ok (Op.exec_utcNow _), addMemory, bind_assoc,
        exec_get_bind] at raised
      split at raised
      · cases raised
        rfl
      · cases raised

end Lucius.Memory
