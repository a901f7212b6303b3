import Lucius.Memory.Retrieval
import Lucius.Planning.Service

/-! The context a task is planned in: the evidence of its repositories and the memories of
its project, each within its budget, and the memories the evidence speaks against.

What a search of the repositories finds for a request is a parameter. -/

namespace Lucius.Planning

open Memory Router

structure PlanningContextBudget where
  maxEvidenceItems : Int := 8
  maxMemoryItems : Int := 6
  maxTotalContextBytes : Int := 24000
  maxPerSourceBytes : Int := 1200

structure PlanningMemoryItem where
  memoryId : String
  scope : KnowledgeScope
  statement : String
  validationStatus : ValidationStatus
  confidence : Rat
  requiresRevalidation : Bool
  sourceEvidenceIds : List String
  deriving DecidableEq

/-- The front of a text; a limit below zero counts from its end. -/
def sliceTo (limit : Int) (text : String) : String :=
  String.ofList (text.toList.take (if 0 ≤ limit then limit else text.toList.length + limit).toNat)

/-- The items up to the first that a number of items or of bytes has no room for. -/
def takeWithin {α : Type} (most bytes : Int) (size : α → Nat) : Nat → Nat → List α → List α
  | _, _, [] => []
  | taken, total, item :: rest =>
    if most ≤ taken ∨ bytes < (total + size item : Nat) then []
    else item :: takeWithin most bytes size (taken + 1) (total + size item) rest

/-- What was selected of one kind, what is said of it, and how many were left out. -/
structure Selection (α : Type) where
  items : List α
  warnings : List Dict
  omitted : Nat

def budgetWarnings (limit : String) (omitted : Nat) : List Dict :=
  if omitted = 0 then []
  else [[("code", .str "PLANNING_CONTEXT_BUDGET_REACHED"), ("limit", .str limit), ("omitted", .int omitted)]]

def evidenceItem (budget : PlanningContextBudget) (row : EvidenceReferenceRow) : PlanningEvidenceItem where
  evidenceId := row.id
  repositoryId := row.repositoryId
  snapshotId := row.snapshotId
  sourceType := row.sourceType
  path := row.path
  snippet := some (sliceTo budget.maxPerSourceBytes (row.snippet.getD ""))
  relevanceScore := row.relevanceScore
  matchReasons := row.matchReasons

def boundedEvidence (rows : List EvidenceReferenceRow) (budget : PlanningContextBudget) :
    Selection PlanningEvidenceItem :=
  let ordered := sortedBy (fun row : EvidenceReferenceRow => toLex (-row.relevanceScore, row.id)) rows
  let selected := takeWithin budget.maxEvidenceItems budget.maxTotalContextBytes
    (fun item : PlanningEvidenceItem => (item.snippet.getD "").utf8ByteSize) 0 0
    (ordered.map (evidenceItem budget))
  let omitted := ordered.length - selected.length
  { items := selected, warnings := budgetWarnings "evidence" omitted, omitted := omitted }

def memoryAllowed (projectId : String) (allowCandidateMemory : Bool) (row : MemoryEntryRow) : Bool :=
  if row.scope = .client ∧ row.projectId ≠ some projectId then false
  else if (nonEmpty row.projectId).isSome ∧ row.projectId ≠ some projectId then false
  else if row.validationStatus = .validated then true
  else allowCandidateMemory && decide (row.validationStatus ∈ [ValidationStatus.candidate, .observed])

def memoryScopeRank : KnowledgeScope → Nat
  | .project => 0
  | .dfg => 1
  | .domain => 2
  | .global => 3
  | _ => 9

def memorySortKey (row : MemoryEntryRow) : ℕ ×ₗ ℕ ×ₗ ℕ ×ₗ String :=
  toLex (memoryScopeRank row.scope, toLex (if row.validationStatus = .validated then 0 else 1,
    toLex (if row.requiresRevalidation then 1 else 0, row.id)))

def memoryItem (budget : PlanningContextBudget) (row : MemoryEntryRow) : PlanningMemoryItem where
  memoryId := row.id
  scope := row.scope
  statement := sliceTo budget.maxPerSourceBytes row.statement
  validationStatus := row.validationStatus
  confidence := row.confidence
  requiresRevalidation := row.requiresRevalidation
  sourceEvidenceIds := row.sourceEvidenceIds

def boundedMemory (rows : List MemoryEntryRow) (budget : PlanningContextBudget) :
    Selection PlanningMemoryItem :=
  let ordered := sortedBy memorySortKey rows
  let selected := takeWithin budget.maxMemoryItems budget.maxTotalContextBytes
    (fun item : PlanningMemoryItem => item.statement.utf8ByteSize) 0 0 (ordered.map (memoryItem budget))
  let omitted := ordered.length - selected.length
  { items := selected
    warnings := (selected.filter PlanningMemoryItem.requiresRevalidation).map (fun item =>
      [("code", .str "MEMORY_REVALIDATION_REQUIRED"), ("memory_id", .str item.memoryId)]) ++
        budgetWarnings "memory" omitted
    omitted := omitted }

/-- The memories that were found, each read again, and of these the ones the project may use. -/
def allowedMemories (tables : Tables) (projectId : String) (allowCandidateMemory : Bool)
    (found : List Memory.MemoryMatch) : List MemoryEntryRow :=
  (found.filterMap (fun entry => tables.memories.get? entry.memoryId)).filter
    (memoryAllowed projectId allowCandidateMemory)

def memoryItems (projectId : String) (queryTerms : List String) (budget : PlanningContextBudget)
    (allowCandidateMemory : Bool) : Op (Selection PlanningMemoryItem) := do
  let found ← retrieveMemory { projectId := some projectId, queryTerms := queryTerms }
  let store ← get
  return boundedMemory (allowedMemories store.toTables projectId allowCandidateMemory found) budget

namespace Patterns

open Pattern

def implementationName : Pattern :=
  atLeast 1 (one (fun char => char.isLower || char.isDigit || char = '_' || char = '-'))

def claimed : Pattern := .seq (literal "uses implementation ") implementationName

def shown : Pattern :=
  sequence [literal "implementation", one (fun char => char = '_' || char = ' '), implementationName]

end Patterns

/-- The implementation a memory says is in use. -/
def claimedImplementation (statement : List Char) : Option (List Char) :=
  (Patterns.claimed.findAll statement).head?.map (fun found => (found.text statement).drop 20)

def shownImplementations (text : List Char) : List (List Char) :=
  ((Patterns.shown.findAll text).map (fun found => (found.text text).drop 15)).eraseDups

def evidenceText (items : List PlanningEvidenceItem) : List Char :=
  lowered ("\n".intercalate (items.map (fun item =>
    " ".intercalate [item.path, item.sourceType, item.snippet.getD "", " ".intercalate item.matchReasons]))).toList

def conflictWarning (item : PlanningMemoryItem) (signal : List String) : Dict :=
  [("code", .str "MEMORY_CONFLICT_WITH_REPOSITORY"), ("memory_id", .str item.memoryId),
    ("memory_claim", .str item.statement), ("evidence_signal", .ofTexts signal)]

/-- A memory of an implementation the evidence shows no trace of. -/
def memoryConflict (text : List Char) (item : PlanningMemoryItem) : Option (List String) :=
  let statement := lowered item.statement.toList
  match claimedImplementation statement with
  | none => none
  | some name =>
    let shown := shownImplementations text
    if shown ≠ [] ∧ name ∉ shown then some (sortedBy id (shown.map String.ofList))
    else if within "snapshot reuse" statement ∧
        (within "code" text ∨ within "repositories.py" text) ∧
        within ("implementation " ++ String.ofList name) text = false then
      some ["current snapshot reuse evidence differs from memory claim"]
    else none

def memoryConflicts (memory : List PlanningMemoryItem) (evidence : List PlanningEvidenceItem) :
    List (PlanningMemoryItem × List String) :=
  memory.filterMap (fun item => (memoryConflict (evidenceText evidence) item).map (fun signal => (item, signal)))

structure RetrievalRequest where
  taskId : String
  taskRunId : Option String
  projectId : String
  repositoryIds : List String
  snapshotIds : List String
  queryTerms : List String
  maxResults : Int
  maxTotalBytes : Int
  maxSnippetBytes : Int

def buildRequest (task : TaskRow) (contract : TaskContractRow) (snapshotIds : List String)
    (runId : Option String) (budget : PlanningContextBudget) : RetrievalRequest where
  taskId := task.id
  taskRunId := runId
  projectId := task.projectId
  repositoryIds := contract.repositoryIds.eraseDups
  snapshotIds := snapshotIds.eraseDups
  queryTerms := deriveQueryTerms task.title task.objective contract.objective contract.acceptanceCriteria []
  maxResults := budget.maxEvidenceItems * 2
  maxTotalBytes := budget.maxTotalContextBytes
  maxSnippetBytes := budget.maxPerSourceBytes

/-- The evidence a search of the repositories captured, and its warnings. -/
structure TechnicalContextPackage where
  evidence : List EvidenceReferenceRow
  warnings : List Dict

abbrev Search := RetrievalRequest → Except PyExc TechnicalContextPackage

def retrieve (search : Search) (tables : Tables) (request : RetrievalRequest) :
    Except PyExc TechnicalContextPackage :=
  match nonEmpty request.taskRunId with
  | none => search request
  | some runId =>
    if (tables.taskRuns.get? runId).any (fun run => run.taskId = request.taskId) then search request
    else .error (.valueError "TaskRun does not belong to retrieval Task")

structure BuiltContext where
  context : PlanningContext
  memory : List PlanningMemoryItem
  warnings : List Dict
  omittedEvidence : Nat
  omittedMemory : Nat

def builtContext (task : TaskRow) (contract : TaskContractRow) (snapshotIds : List String)
    (package : TechnicalContextPackage) (evidence : Selection PlanningEvidenceItem)
    (memory : Selection PlanningMemoryItem) : BuiltContext where
  context := { planningContext task contract snapshotIds with
    taskComplexity := task.complexity
    acceptanceCriteria := contract.acceptanceCriteria
    environment := contract.environment
    evidence := evidence.items
    memoryIds := memory.items.map PlanningMemoryItem.memoryId }
  memory := memory.items
  warnings := package.warnings ++ evidence.warnings ++ memory.warnings ++
    (memoryConflicts memory.items evidence.items).map (fun (item, signal) => conflictWarning item signal)
  omittedEvidence := evidence.omitted
  omittedMemory := memory.omitted

def contextAudit (task : TaskRow) (runId : Option String) (eventType result : String) : AuditDraft where
  eventType := eventType
  projectId := some task.projectId
  taskId := some task.id
  runId := runId
  action := "build_planning_context"
  result := result

def truncated (built : BuiltContext) : Bool :=
  0 < built.omittedEvidence || 0 < built.omittedMemory ||
    built.warnings.any (fun warning => (warning.get "code").isStr "CONTEXT_BUDGET_REACHED")

def recordIf (condition : Bool) (draft : AuditDraft) : Op Unit :=
  if condition then Op.record draft else return ()

/-- The memories the evidence speaks against are to be validated again. -/
def markConflicts : List PlanningMemoryItem → Op Unit
  | [] => return ()
  | item :: rest => do
      if item.memoryId.toList.isEmpty then markConflicts rest
      else
        let _ ← markRequiresRevalidation item.memoryId
          "Planning detected conflict with current repository evidence"
        markConflicts rest

namespace PlanningContextBuilder

def build (search : Search) (taskId : String) (snapshotIds : List String) (runId : Option String)
    (budget : PlanningContextBudget) (allowCandidateMemory : Bool) :
    Op (Option BuiltContext × List Dict) := do
  let store ← get
  match store.tasks.get? taskId with
  | none => return (none, [planningBlocker "TASK_CONTRACT_INVALID" "Unknown task." []])
  | some task =>
    match preflightBlockers store.toTables task snapshotIds, store.activeContract task.id with
    | [], some contract => do
        let request := buildRequest task contract snapshotIds runId budget
        let package ← Action.ofExcept (retrieve search store.toTables request)
        let evidence := boundedEvidence package.evidence budget
        let memory ← memoryItems task.projectId request.queryTerms budget allowCandidateMemory
        let built := builtContext task contract snapshotIds package evidence memory
        let conflicts := (memoryConflicts memory.items evidence.items).map Prod.fst
        recordIf (truncated built) (contextAudit task runId "PLANNING_CONTEXT_TRUNCATED" "WARNING")
        recordIf (!conflicts.isEmpty)
          (contextAudit task runId "MEMORY_CONFLICT_WITH_REPOSITORY" "WARNING")
        markConflicts conflicts
        Op.record (contextAudit task runId "PLANNING_CONTEXT_CREATED" "SUCCESS")
        return (some built, [])
    | blockers, _ => do
        Op.record (contextAudit task none "PLANNING_BLOCKED" "BLOCKED")
        return (none, blockers)

end PlanningContextBuilder
end Lucius.Planning
