import Lucius.Memory.Service
import Lucius.Runtime.ProviderQuality

/-! The retrieval of memories: the terms of a text, the rank of a memory under them, and the
memories a project may ask for. Letters are those of ASCII; the kind of a memory is left out. -/

namespace Lucius.Memory

open Router

def stopWords : List String :=
  ["a", "an", "and", "are", "as", "at", "be", "by", "for", "from", "in", "into", "is", "it", "of",
    "on", "or", "the", "to", "while", "with"]

def tokenPattern : Pattern :=
  .seq (.one Char.isAlphanum) (.many (.one (fun char => char.isAlphanum || char ∈ ['_', '.', '/', '-'])))

def tokenMargin : List Char :=
  ['.', ',', ':', ';', '(', ')', '[', ']', '\x7b', '\x7d', '\'', '"', Char.ofNat 96]

/-- The parts between a separator, without those that are empty or say nothing. -/
def tokenParts (separator : Char) (token : List Char) : List (List Char) :=
  (token.splitOn separator).filter
    (fun part => !part.isEmpty && decide (String.ofList part ∉ stopWords))

/-- A capital letter starts a new part. -/
def camelParts (raw : List Char) : List (List Char) :=
  ((raw.splitBy (fun _ next => !next.isUpper)).filter (fun part => 1 < part.length)).map lowered

def tokensOf (raw : List Char) : List (List Char) :=
  let normalized := lowered (stripChars tokenMargin raw)
  if normalized.isEmpty || decide (String.ofList normalized ∈ stopWords) then []
  else
    normalized ::
      ((if '_' ∈ normalized then tokenParts '_' normalized else []) ++
        (if '/' ∈ normalized then tokenParts '/' normalized else []) ++
        (if '.' ∈ normalized ∧ normalized.head? ≠ some '.' then tokenParts '.' normalized else []) ++
        (camelParts raw).filter (fun part => decide (String.ofList part ∉ stopWords)))

def tokenizeTerms (text : String) : List String :=
  (((tokenPattern.findAll text.toList).flatMap (fun found => tokensOf (found.text text.toList))).map
    String.ofList).eraseDups

def criterionStatement (criterion : Dict) : String := (criterion.getOr "statement" (.str "")).pyStr

def deriveQueryTerms (taskTitle taskObjective contractObjective : String)
    (acceptanceCriteria : List Dict) (explicitTerms : List String) : List String :=
  (([taskTitle, taskObjective, contractObjective] ++ acceptanceCriteria.map criterionStatement ++
    explicitTerms).flatMap tokenizeTerms).eraseDups

def defaultExcludedStatuses : List ValidationStatus := [.superseded, .deprecated, .contradicted]

def scopeRank : KnowledgeScope → Int
  | .project => 50
  | .dfg => 35
  | .domain => 30
  | .global => 20
  | .client => 15
  | .session => 10

def statusRank : ValidationStatus → Int
  | .validated => 30
  | .candidate => 12
  | .observed => 8
  | .contradicted => -100
  | .superseded => -50
  | .deprecated => -50

structure MemoryMatch where
  memoryId : String
  score : Int
  statement : String
  validationStatus : ValidationStatus
  matchReasons : List String
  deriving DecidableEq

def termMatches (row : MemoryEntryRow) (term : String) : Bool :=
  let wanted := String.ofList (lowered term.toList)
  decide (wanted ∈ tokenizeTerms row.statement) ||
    (row.contextTags ++ row.technologyTags).any (fun tag => String.ofList (lowered tag.toList) = wanted) ||
    within wanted (lowered row.statement.toList)

/-- What a memory scores under the terms of a query, each gain with its reason. -/
def rankGains (row : MemoryEntryRow) (projectId : Option String) (queryTerms : List String) :
    List (Int × String) :=
  [if (nonEmpty projectId).isSome ∧ row.projectId = projectId ∧ row.scope = .project then
      (scopeRank .project, "matching project memory")
    else (scopeRank row.scope, "scope: " ++ StrEnum.value row.scope),
    (statusRank row.validationStatus, "validation status: " ++ StrEnum.value row.validationStatus)] ++
  (if row.supersededById = none then [(5, "not superseded")] else []) ++
  (if hasProvenance row.sourceReference row.sourceTaskId row.sourceRunId row.sourceEvidenceIds then
    [(5, "provenance available")] else []) ++
  (queryTerms.filter (termMatches row)).map (fun term => (10, "query term match: " ++ term))

def rankRow (projectId : Option String) (queryTerms : List String) (row : MemoryEntryRow) : MemoryMatch :=
  let gains := rankGains row projectId queryTerms
  { memoryId := row.id
    score := (gains.map Prod.fst).sum
    statement := row.statement
    validationStatus := row.validationStatus
    matchReasons := sortedBy id (gains.map Prod.snd).eraseDups }

def rankMemory (rows : List MemoryEntryRow) (projectId : Option String) (queryTerms : List String) :
    List MemoryMatch :=
  sortedBy (fun found => toLex (-found.score, found.memoryId))
    ((rows.map (rankRow projectId queryTerms)).filter (fun found => 0 < found.score))

structure MemoryQuery where
  projectId : Option String := none
  scope : Option KnowledgeScope := none
  validationStatus : Option ValidationStatus := none
  technologyTags : List String := []
  contextTags : List String := []
  queryTerms : List String := []
  includeExcluded : Bool := false

/-- Without a scope, a project is shown its own memories and the wide ones that have no owner. -/
def shownToProject (query : MemoryQuery) (row : MemoryEntryRow) : Bool :=
  match nonEmpty query.projectId with
  | none => true
  | some projectId =>
    decide (row.projectId = some projectId) ||
      (decide (query.scope = none) && decide (row.projectId = none) &&
        decide (row.scope ∈ [KnowledgeScope.dfg, .domain, .global]))

def tagsMeet (wanted tags : List String) : Bool :=
  wanted.isEmpty || wanted.any (fun tag =>
    tags.any (fun other => lowered other.toList = lowered tag.toList))

def queryMatches (query : MemoryQuery) (row : MemoryEntryRow) : Bool :=
  shownToProject query row &&
    query.scope.all (fun scope => row.scope = scope) &&
    query.validationStatus.all (fun status => row.validationStatus = status) &&
    (query.includeExcluded || decide (row.validationStatus ∉ defaultExcludedStatuses)) &&
    tagsMeet query.technologyTags row.technologyTags && tagsMeet query.contextTags row.contextTags

def memoryMatches (tables : Tables) (query : MemoryQuery) : List MemoryMatch :=
  rankMemory (sortedBy MemoryEntryRow.id (tables.memories.rows.filter (queryMatches query)))
    query.projectId query.queryTerms

def retrieveMemory (query : MemoryQuery) : Op (List MemoryMatch) := do
  let store ← get
  Op.record {
    eventType := "MEMORY_RETRIEVED"
    projectId := query.projectId
    action := "retrieve_memory"
    result := "SUCCESS" }
  return memoryMatches store.toTables query

def markRequiresRevalidation (memoryId reason : String) : Op MemoryEntryRow := do
  let row ← memoryRow memoryId
  let marked := { row with requiresRevalidation := true, revalidationReason := some reason }
  let _ ← Op.utcNow
  modify (fun store => { store with memories := store.memories.put marked })
  Op.record {
    eventType := "MEMORY_REVALIDATION_REQUIRED"
    projectId := row.projectId
    action := "mark_requires_revalidation"
    result := "SUCCESS" }
  return marked

end Lucius.Memory
