import Lucius.Memory.Service

/-! The learning candidates: how one is created, validated, and promoted to a memory. -/

namespace Lucius.Learning

open Lucius.Action Memory

/-- What a candidate is created with. -/
structure CandidateRequest where
  candidateType : LearningCandidateType
  statement : String
  confidence : Rat := 1 / 2
  projectId : Option String := none
  taskId : Option String := none
  runId : Option String := none
  evidenceIds : List String := []
  sourceMemoryIds : List String := []
  sourceDocumentRefs : List String := []
  proposedScope : KnowledgeScope := .project
  sanitizationStatus : Option SanitizationStatus := none

def CandidateRequest.classification (request : CandidateRequest) (tables : Tables) :
    KnowledgeFirewallClassification :=
  classifySource (isClient tables request.projectId) request.proposedScope

def CandidateRequest.row (request : CandidateRequest) (tables : Tables) (id : String) :
    LearningCandidateRow where
  id := id
  projectId := request.projectId
  taskId := request.taskId
  runId := request.runId
  statement := String.ofList (Json.strip request.statement.toList)
  evidenceIds := request.evidenceIds
  sourceMemoryIds := request.sourceMemoryIds
  sourceDocumentRefs := request.sourceDocumentRefs
  confidence := request.confidence
  sanitizationStatus := request.sanitizationStatus.getD
    (defaultSanitization (request.classification tables) request.proposedScope)
  sourceClassification := request.classification tables

def candidateAudit (row : LearningCandidateRow) (eventType action result : String) : AuditDraft where
  eventType := eventType
  projectId := row.projectId
  taskId := row.taskId
  runId := row.runId
  action := action
  result := result

def addCandidate (row : LearningCandidateRow) : Op Unit := do
  let store ← get
  if (store.learningCandidates.get? row.id).isSome then throw .databaseError
  else set { store with learningCandidates := store.learningCandidates.add row }

/-- Only the project of a candidate is classified. -/
def createCandidate (request : CandidateRequest) : Op LearningCandidateRow := do
  Action.ofExcept (validateConfidence request.confidence)
  if request.evidenceIds = [] ∧ request.sourceMemoryIds = [] ∧ request.sourceDocumentRefs = [] ∧
      request.candidateType ≠ .knowledgeCorrection then
    throw (.valueError "LearningCandidate requires source/provenance")
  else
    let store ← get
    let id ← Op.nextId .learning
    let _ ← Op.utcNow
    let row := request.row store.toTables id
    addCandidate row
    Op.record (candidateAudit row "LEARNING_CANDIDATE_CREATED" "create_learning_candidate" "SUCCESS")
    return row

def candidateRow (candidateId : String) : Op LearningCandidateRow := do
  let store ← get
  match store.learningCandidates.get? candidateId with
  | some row => return row
  | none => throw (.valueError ("Unknown learning candidate: " ++ candidateId))

def validateCandidate (candidateId : String) : Op LearningCandidateRow := do
  let row ← candidateRow candidateId
  let _ ← Op.utcNow
  let validated := { row with status := .validated }
  modify (fun store => { store with learningCandidates := store.learningCandidates.put validated })
  Op.record (candidateAudit row "LEARNING_CANDIDATE_VALIDATED" "validate_learning_candidate" "SUCCESS")
  return validated

/-- A global memory is created without the project of its candidate. -/
def promotedMemory (candidate : LearningCandidateRow) (targetScope : KnowledgeScope) :
    MemoryRequest where
  scope := targetScope
  statement := candidate.statement
  confidence := candidate.confidence
  validationStatus := .validated
  projectId := if targetScope = .global then none else candidate.projectId
  sourceReference := some candidate.id
  sourceTaskId := candidate.taskId
  sourceRunId := candidate.runId
  sourceEvidenceIds := candidate.evidenceIds

def promoteCandidate (candidateId : String) (targetScope : KnowledgeScope) (actor : Actor) :
    Op MemoryEntryRow := do
  let candidate ← candidateRow candidateId
  match promotionObstacle candidate targetScope actor with
  | some reason =>
    Op.record (candidateAudit candidate "KNOWLEDGE_PROMOTION_BLOCKED" "promote_candidate" "BLOCKED")
    throw (.valueError reason)
  | none =>
    let memory ← createMemory (promotedMemory candidate targetScope)
    Op.record (candidateAudit candidate "KNOWLEDGE_PROMOTED" "promote_candidate" "SUCCESS")
    return memory

theorem candidateRow_bind_ok {candidateId : String} {α : Type} {next : LearningCandidateRow → Op α}
    {store after : Store} {result : α}
    (done : Action.exec (candidateRow candidateId >>= next) store = (.ok result, after)) :
    ∃ row, store.learningCandidates.get? candidateId = some row ∧
      Action.exec (next row) store = (.ok result, after) := by
  obtain ⟨row, middle, read, later⟩ := bind_ok done
  unfold candidateRow at read
  rw [exec_get_bind] at read
  cases found : store.learningCandidates.get? candidateId with
  | none =>
    rw [found] at read
    cases read
  | some known =>
    rw [found] at read
    cases read
    exact ⟨row, rfl, later⟩

theorem promoteCandidate_ok {candidateId : String} {targetScope : KnowledgeScope} {actor : Actor}
    {store after : Store} {memory : MemoryEntryRow}
    (done : Action.exec (promoteCandidate candidateId targetScope actor) store = (.ok memory, after)) :
    ∃ candidate middle, store.learningCandidates.get? candidateId = some candidate ∧
      promotionObstacle candidate targetScope actor = none ∧
      Action.exec (createMemory (promotedMemory candidate targetScope)) store = (.ok memory, middle) ∧
      after.toTables = middle.toTables := by
  unfold promoteCandidate at done
  obtain ⟨candidate, found, done⟩ := candidateRow_bind_ok done
  split at done
  · cases done
  · next allowed =>
      obtain ⟨created, middle, creating, later⟩ := bind_ok done
      rw [exec_bind_of_ok (Op.exec_record _ _)] at later
      obtain ⟨rfl, rfl⟩ := ok_pure later
      exact ⟨candidate, middle, found, allowed, creating, rfl⟩

end Lucius.Learning
