import Lucius.Queue.Items
import Lucius.Runtime.Requests

/-! The work that is there to be fed: the items of the research backlog, as the feeder and the
portfolio each read them, and the next gates of the registered projects.

The fields of a package that nothing reads afterwards are left out. -/

namespace Lucius.Portfolio

open Queue

/-- `needle in text`. -/
def contains (needle text : String) : Bool := decide (needle.toList <:+: text.toList)

def stripped (value : Json) : String := String.ofList (Json.strip value.pyStr.toList)

structure NormalizedTaskEnvelope where
  dedupeKey : String
  sourceItemId : String
  projectId : String
  title : String
  objective : String
  taskType : String
  authorityClass : String
  priority : String
  dependencies : List String
  provenanceRefs : List String
  isEligibleForUnattended : Bool
  rawPayload : Dict

/-- Whether the guard passes an envelope; it may raise. -/
abbrev RegressionGuard := NormalizedTaskEnvelope → Except PyExc Bool

structure DFGProjectRecord where
  displayName : String
  canonicalRepo : Option String := none
  canonicalDocs : List String := []
  status : DFGProjectStatus
  currentPhase : String
  nextCanonicalGate : String
  dependencies : List String := []
  priority : String := "NORMAL"
  authorityProfile : List AuthorityClass := [.classA]

/-- The backlog is what the feeder loads when it is asked. Which of the references are files
is a question to the disk. -/
structure DarwinBacklogFeeder where
  darwinRoot : String := ""
  customItems : Bool := false
  backlog : List Json := []
  registry : List (String × DFGProjectRecord) := []
  regressionGuard : Option RegressionGuard := none
  maxBatchSize : Option Int := none
  maxTotalTasks : Option Int := none
  totalFed : Int := 0
  contextPaths : List String → List String := id
  evidencePaths : String → String → List String → List String := fun _ _ references => references
  pathExists : String → Bool := fun _ => false

def defaultAuthorityClasses : List String := ["CLASS_A", "CLASS_B"]

/-- What a raw item says; one that is no object says nothing. -/
def rawData : Json → Dict
  | .obj members => members
  | _ => []

def taskPriority (rawPriority : String) : String :=
  if rawPriority = "P0_NOW" ∨ rawPriority = "P0" then "HIGH"
  else if rawPriority = "P2" then "LOW"
  else "NORMAL"

def sourceItemId (data : Dict) : String := stripped (data.getOr "item_id" (.str ""))

def darwinKey (itemId : String) : String := "darwin:" ++ itemId

def itemAuthorityClass (data : Dict) : String :=
  upper (data.getOr "authority_class" (.str "CLASS_B")).pyStr

def envelopeOf (projectId : String) (data : Dict) : Except PyExc (Option NormalizedTaskEnvelope) :=
  let itemId := sourceItemId data
  let title := stripped (data.getOr "title" (.str ""))
  let objective := stripped (data.getOr "objective" (.str ""))
  if itemId.toList.isEmpty then .ok none
  else if upper (data.getOr "status" (.str "")).pyStr ≠ "READY" then .ok none
  else if (data.getOr "blocked_by" (.arr [])).truthy then .ok none
  else if title.toList.isEmpty || objective.toList.isEmpty then .ok none
  else do
    let provenanceRefs ← (data.getOr "provenance_refs" (.arr [])).pyIter
    let dependencies ← (data.getOr "dependencies" (.arr [])).pyIter
    let authorityClass := itemAuthorityClass data
    return some {
      dedupeKey := darwinKey itemId
      sourceItemId := itemId
      projectId := projectId
      title := "[Darwin " ++ itemId ++ "] " ++ title
      objective := objective
      taskType := (data.getOr "task_type" (.str
        (if authorityClass = "CLASS_C" then "ENGINEERING" else "RESEARCH_BACKLOG_ITEM"))).pyStr
      authorityClass := authorityClass
      priority := taskPriority (data.getOr "priority" (.str "P1")).pyStr
      dependencies := dependencies.map Json.pyStr
      provenanceRefs := provenanceRefs.map Json.pyStr
      isEligibleForUnattended := decide (authorityClass ∈ ["CLASS_A", "CLASS_B"])
      rawPayload := data }

/-- An item that cannot be read is left out. -/
def normalizeItem (projectId : String) (item : Json) : Option NormalizedTaskEnvelope :=
  match envelopeOf projectId (rawData item) with
  | .ok found => found
  | .error _ => none

/-- A list or an object is no key of a mapping. -/
def priorityWeight (raw : Json) : Except PyExc Nat :=
  if !Acceptance.isHashable raw then .error .typeError
  else if raw.isStr "P0_NOW" then .ok 0
  else if raw.isStr "P0" then .ok 1
  else if raw.isStr "P1" then .ok 2
  else if raw.isStr "P2" then .ok 3
  else .ok 99

namespace DarwinBacklogFeeder

/-- The envelope of an item that its class and the guard admit. -/
def admitted (feeder : DarwinBacklogFeeder) (projectId : String) (allowed : List String)
    (item : Json) : Except PyExc (Option NormalizedTaskEnvelope) :=
  match normalizeItem projectId item with
  | none => .ok none
  | some envelope =>
    if envelope.authorityClass ∉ allowed then .ok none
    else
      match feeder.regressionGuard with
      | none => .ok (some envelope)
      | some passes => do return if ← passes envelope then some envelope else none

def weighted (envelope : NormalizedTaskEnvelope) : Except PyExc (Nat × NormalizedTaskEnvelope) := do
  return (← priorityWeight (envelope.rawPayload.getOr "priority" (.str "P1")), envelope)

def discoverEligibleTasks (feeder : DarwinBacklogFeeder) (projectId : String)
    (allowed : List String) : Except PyExc (List NormalizedTaskEnvelope) := do
  let found ← feeder.backlog.mapM (feeder.admitted projectId allowed)
  let weights ← (found.filterMap id).mapM weighted
  return (sortedBy (fun entry => toLex (entry.1, entry.2.sourceItemId)) weights).map Prod.snd

end DarwinBacklogFeeder

structure NormalizedWorkPackage where
  workId : String
  projectId : String
  title : String
  objective : String
  priority : String
  currentState : GlobalWorkState
  authorityClass : String
  dependencies : List String
  provenanceRefs : List String
  acceptanceCriteria : List String
  sourceProject : String
  executionProject : String
  canonicalEvidenceProject : String
  canonicalEvidencePath : Option String
  sourceRecordId : String
  dedupeKey : String

def darwinProjects : List (String × String) :=
  [("MON-001", "fp-labs"), ("MON-002", "commercial-photography"), ("MON-003", "cinema-collection"),
    ("MON-004", "dfg-binance-executor"), ("MON-005", "commerce-affiliate-engine"),
    ("MON-006", "fp-criptoclub"), ("MON-007", "billy-the-trader"),
    ("MON-008", "billy-production-engine"), ("MON-010", "dfg-prediction-engine"),
    ("MON-011", "arbitrage-engine"), ("MON-012", "section-8-real-estate"),
    ("VAL-001", "locations-concierge"), ("VAL-002", "dealhunter")]

def darwinProject (itemId : String) : String :=
  ((darwinProjects.find? (fun entry => contains entry.1 itemId)).map Prod.snd).getD
    "darwin-research-engine"

def closedItemStatuses : List String := ["REJECTED", "SUPERSEDED", "COMPLETED", "CANCELLED", "PARKED"]

/-- A closed item has no state: it is passed over. -/
def darwinState (itemId status : String) (blockedBy : Json) (provenanceRefs : List String) :
    Option GlobalWorkState :=
  if status = "READY" then
    some (if blockedBy.truthy then .waitingDependency
      else if provenanceRefs.isEmpty then .notYetEligible
      else .ready)
  else if status = "NEEDS_EVIDENCE" then
    some (if provenanceRefs.isEmpty || contains "DECISION" itemId then .blockedDecision
      else .autoPreparable)
  else if contains "BLOCKED" status then
    some (if contains "LEGAL" status || contains "LEGAL" blockedBy.pyStr then .blockedAuthority
      else .blockedDecision)
  else if status ∈ closedItemStatuses then none
  else some .notYetEligible

/-- Of the classes that are not allowed, one blocks the work. -/
def stateUnderAuthority (allowed : List String) (authorityClass : String) (state : GlobalWorkState) :
    GlobalWorkState :=
  if authorityClass ∉ allowed ∧ authorityClass = "CLASS_C" then .blockedAuthority else state

/-- The criteria of an item: its questions, or else what it is expected to yield. -/
def itemCriteria (data : Dict) : Json :=
  (data.getOr "research_questions" (.arr [])).orElse
    (if (data.get "expected_output").truthy then .arr [data.get "expected_output"] else .arr [])

def textsOf : Json → Except PyExc (List String)
  | .arr elements => Json.textList elements
  | _ => .error .validationError

namespace DarwinBacklogAdapter

def workPackage (allowed : List String) (item : Json) :
    Except PyExc (Option NormalizedWorkPackage) :=
  let data := rawData item
  let itemId := sourceItemId data
  if itemId.toList.isEmpty then .ok none
  else do
    let status := upper (data.getOr "status" (.str "QUEUED")).pyStr
    let priority := upper (data.getOr "priority" (.str "P1")).pyStr
    let listed ← (data.getOr "provenance_refs" (.arr [])).pyIter
    let provenanceRefs := listed.map Json.pyStr
    let project := darwinProject itemId
    match darwinState itemId status (data.getOr "blocked_by" (.arr [])) provenanceRefs with
    | none => return none
    | some state => do
        let authorityClass := itemAuthorityClass data
        let dependencies ← (data.getOr "dependencies" (.arr [])).pyIter
        let _ ← Json.optionalText (data.get "expected_output")
        let acceptanceCriteria ← textsOf (itemCriteria data)
        return some {
          workId := "work_" ++ itemId
          projectId := project
          title := "[" ++ project ++ "] " ++ stripped (data.getOr "title" (.str ""))
          objective := stripped (data.getOr "objective" (.str ""))
          priority := priority
          currentState := stateUnderAuthority allowed authorityClass state
          authorityClass := authorityClass
          dependencies := dependencies.map Json.pyStr
          provenanceRefs := provenanceRefs
          acceptanceCriteria := acceptanceCriteria
          sourceProject := "darwin-research-engine"
          executionProject := project
          canonicalEvidenceProject := "darwin-research-engine"
          canonicalEvidencePath := provenanceRefs.head?
          sourceRecordId := itemId
          dedupeKey := darwinKey itemId }

def discoverWorkPackages (feeder : DarwinBacklogFeeder) (allowed : List String) :
    Except PyExc (List NormalizedWorkPackage) := do
  let found ← feeder.backlog.mapM (workPackage allowed)
  return found.filterMap id

end DarwinBacklogAdapter

namespace CanonicalRoadmapAdapter

def gateState (record : DFGProjectRecord) : GlobalWorkState :=
  match record.status with
  | .operational | .maintenance => .autoPreparable
  | .inDevelopment => if record.canonicalDocs.isEmpty then .autoPreparable else .ready
  | .designing | .validating | .researching => .autoPreparable
  | .blocked | .concept => .blockedDecision
  | _ => .notYetEligible

/-- `str.title`, of ASCII letters: one that follows no letter is upper case. -/
def titleFrom (afterLetter : Bool) : List Char → List Char
  | [] => []
  | char :: rest =>
    (if afterLetter then char.toLower else char.toUpper) :: titleFrom char.isAlpha rest

def nextCanonicalGateFormat (gate : String) : String :=
  String.ofList (titleFrom false (gate.toList.map (fun char => if char = '_' then ' ' else char)))

def workPackage (allowed : List String) (projectId : String) (record : DFGProjectRecord) :
    NormalizedWorkPackage :=
  let gate := record.nextCanonicalGate
  let authorityClass := StrEnum.value (record.authorityProfile.headD .classA)
  let provenanceRefs := if record.canonicalDocs.isEmpty then
    ["src/lucius/projects/dfg_canonical_registry.json"] else record.canonicalDocs
  { workId := "gate_work_" ++ projectId ++ "_" ++ Router.lower gate
    projectId := projectId
    title := "[" ++ record.displayName ++ " Next Gate] " ++ nextCanonicalGateFormat gate
    objective := "Prepare and verify canonical next gate requirements (" ++ gate ++ ") for " ++
      record.displayName ++ " phase " ++ record.currentPhase ++ "."
    priority := upper record.priority
    currentState := stateUnderAuthority allowed authorityClass (gateState record)
    authorityClass := authorityClass
    dependencies := record.dependencies
    provenanceRefs := provenanceRefs
    acceptanceCriteria := ["Extract explicit requirements for gate " ++ gate,
      "Validate compliance with phase " ++ record.currentPhase ++ " boundaries",
      "Verify evidence grounding against canonical documentation"]
    sourceProject := projectId
    executionProject := projectId
    canonicalEvidenceProject := projectId
    canonicalEvidencePath := provenanceRefs.head?
    sourceRecordId := "registry:" ++ projectId ++ ":" ++ gate
    dedupeKey := "registry_gate:" ++ projectId ++ ":" ++ gate }

/-- A project without a next gate has no work. -/
def discoverWorkPackages (feeder : DarwinBacklogFeeder) (allowed : List String) :
    List NormalizedWorkPackage :=
  (feeder.registry.filter (fun entry => !entry.2.nextCanonicalGate.toList.isEmpty)).map
    (fun entry => workPackage allowed entry.1 entry.2)

end CanonicalRoadmapAdapter

def priorityRanks : List (String × Nat) :=
  [("P0_CRITICAL", 0), ("P0_NOW", 0), ("P0", 0), ("CRITICAL", 0), ("P1_HIGH", 1), ("P1", 1),
    ("HIGH", 1), ("P2_NORMAL", 2), ("P2", 2), ("NORMAL", 2), ("P3_LOW", 3), ("P3", 3), ("LOW", 3),
    ("P4_SPECULATIVE", 4), ("P4", 4), ("SPECULATIVE", 4), ("PARKED", 98), ("UNKNOWN", 99)]

def portfolioRank (priority : String) : Nat :=
  ((priorityRanks.find? (fun entry => entry.1 = priority)).map Prod.snd).getD 99

def stateRank : GlobalWorkState → Nat
  | .ready => 0
  | .autoPreparable => 1
  | _ => 2

/-- The first package of each key. -/
def firstOfKey (seen : List String) : List NormalizedWorkPackage → List NormalizedWorkPackage
  | [] => []
  | work :: rest =>
    if work.dedupeKey ∈ seen then firstOfKey seen rest
    else work :: firstOfKey (work.dedupeKey :: seen) rest

/-- An adapter that raises yields nothing. Custom items replace all sources but the backlog. -/
def discoverGlobalWork (feeder : DarwinBacklogFeeder) (allowed : List String) :
    List NormalizedWorkPackage :=
  let backlog := (DarwinBacklogAdapter.discoverWorkPackages feeder allowed).toOption.getD []
  let gates := if feeder.customItems then []
    else CanonicalRoadmapAdapter.discoverWorkPackages feeder allowed
  sortedBy (fun work =>
    toLex (stateRank work.currentState, toLex (portfolioRank work.priority, work.workId)))
    (firstOfKey [] (backlog ++ gates))

end Lucius.Portfolio
