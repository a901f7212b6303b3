import Lucius.Portfolio.Packages
import Lucius.Runtime.PlanningAdapter
import Lucius.Tasks.Service

/-! Feeding work into the queue: a task and a contract for each piece of it, and, if the task
can be made ready, a workflow with one queue item. The feeder of the backlog and the portfolio
both do it; the feeder calls the portfolio before it feeds what it has selected itself.

A record is kept of every task that is created, also of one that is left without a workflow. -/

namespace Lucius.Portfolio

open Tasks Planning

/-- `text.replace("FEED-", "")`. -/
def withoutFeed : List Char → List Char
  | 'F' :: 'E' :: 'E' :: 'D' :: '-' :: rest => withoutFeed rest
  | char :: rest => char :: withoutFeed rest
  | [] => []

def decisionKeys (decision : Json) : List String :=
  match decision with
  | .obj members =>
    if (Dict.get members "type").isStr "DEDUPE_KEY" && (Dict.get members "key").truthy then
      [(Dict.get members "key").pyStr]
    else []
  | _ => []

/-- An id that is there and no text has no `replace`. -/
def itemIdKeys (projectId : Option String) (itemId : Json) : Except PyExc (List String) :=
  if !itemId.truthy then .ok []
  else
    match itemId with
    | .str text => .ok [text, darwinKey (String.ofList (withoutFeed text.toList)),
        "portfolio:" ++ projectId.getD "None" ++ ":" ++ text]
    | _ => .error .attributeError

def itemKeys (projectId : Option String) (item : Dict) : Except PyExc (List String) := do
  let named ← itemIdKeys projectId (item.get "item_id")
  return (if (item.get "dedupe_key").truthy then [(item.get "dedupe_key").pyStr] else []) ++ named ++
    (if (item.get "logical_task_id").truthy then [(item.get "logical_task_id").pyStr] else [])

def workflowKeys (workflow : PersistentWorkflowRow) : Except PyExc (List String) := do
  let listed ← workflow.taskBacklog.mapM (itemKeys workflow.projectId)
  return workflow.decisions.flatMap decisionKeys ++ listed.flatten

def existingDedupeKeys (tables : Tables) : Except PyExc (List String) := do
  let keys ← tables.workflows.rows.mapM workflowKeys
  return keys.flatten

structure FeedRecord where
  dedupeKey : String
  sourceId : String
  taskId : String
  workflowId : Option String
  deriving DecidableEq, Repr

def feedItemId (sourceId : String) : String := "FEED-" ++ sourceId

/-- What one piece of work is fed as. -/
structure FedWork where
  dedupeKey : String
  sourceId : String
  title : String
  objective : String
  terms : ContractTerms
  expectedMainHead : String
  worktreePath : String
  queueItem : String → Dict

def FedWork.request (work : FedWork) (projectId repositoryId taskId : String) :
    Workflows.WorkflowRequest where
  objective := work.objective
  expectedMainHead := work.expectedMainHead
  worktreePath := work.worktreePath
  authorityTier := StrEnum.value AuthorityLevel.l0
  projectId := some projectId
  repositoryId := some repositoryId
  repositorySnapshotId := some "FEED-SNAPSHOT"
  taskId := some taskId
  taskBacklog := [work.queueItem taskId]
  dependencyGraph := [(feedItemId work.sourceId, .arr [])]
  decisions := [.obj [("type", .str "DEDUPE_KEY"), ("key", .str work.dedupeKey)]]
  pendingTaskIds := [feedItemId work.sourceId]

/-- The task is there before its readiness is known. -/
def feedWork (projectId repositoryId : String) (work : FedWork) : Op FeedRecord := do
  let task ← Tasks.createTask projectId work.title work.objective .l0
  let _ ← Tasks.createOrUpdateContract task.id work.terms
  let blockers ← Tasks.markReady task.id
  if !blockers.isEmpty then return ⟨work.dedupeKey, work.sourceId, task.id, none⟩
  else
    let workflow ← Workflows.create (work.request projectId repositoryId task.id)
    return ⟨work.dedupeKey, work.sourceId, task.id, some workflow.id⟩

def feedAll {α : Type} (feed : α → Op FeedRecord) : List α → Op (List FeedRecord)
  | [] => return []
  | work :: rest => do
      let record ← feed work
      let more ← feedAll feed rest
      return record :: more

def ensureProject (row : ProjectRow) : Op ProjectRow := do
  let store ← get
  match store.projects.get? row.id with
  | some project => return project
  | none => do
      set { store with projects := store.projects.add row }
      return row

/-- The first registration that is looked for, or the one under the number of the new row. -/
def ensureRegistration (wanted : RepositoryRegistrationRow → Bool) (row : RepositoryRegistrationRow) :
    Op RepositoryRegistrationRow := do
  let store ← get
  match store.repositories.rows.find? wanted with
  | some registration => return registration
  | none =>
    match store.repositories.get? row.id with
    | some registration => return registration
    | none => do
        set { store with repositories := store.repositories.add row }
        return row

def ensureAttachment (projectId repositoryId : String) : Op Unit := do
  let store ← get
  let attachment : ProjectRepositoryAttachmentRow := ⟨projectId, repositoryId⟩
  if attachment ∈ store.attachments then return ()
  else set { store with attachments := store.attachments ++ [attachment] }

def readActions : List String := ["READ_REPOSITORY", "READ_DOCUMENTATION"]

def contextLimits (paths : List String) : Json :=
  .obj [("read_only_context_paths", Json.ofTexts paths), ("deterministic_verification", .bool true),
    ("evidence_reference_validation_required", .bool true)]

/-- `references or ["docs/"]`. -/
def allowedPaths (references : List String) : Json :=
  Json.ofTexts (if references.isEmpty then ["docs/"] else references)

namespace GlobalWorkPortfolioService

def defaultLocation : String :=
  "/Volumes/BLACKBOX/2 CODE PROJECTS/Lucius Engineering/lucius-engineering"

def registered (feeder : DarwinBacklogFeeder) (projectId : String) : Option DFGProjectRecord :=
  (feeder.registry.find? (fun entry => entry.1 = projectId)).map Prod.snd

/-- The repository of the registry, where it is on the disk. -/
def repositoryLocation (feeder : DarwinBacklogFeeder) (projectId otherwise : String) : String :=
  match (registered feeder projectId).bind (·.canonicalRepo) with
  | some repository =>
    if !repository.toList.isEmpty && feeder.pathExists repository then repository else otherwise
  | none => otherwise

def criterion (index : Nat) (text : String) : Json :=
  .obj [("id", .str ("AC-" ++ Timestamp.padded 3 index)), ("statement", .str text),
    ("status", .str "PENDING")]

def criteria (work : NormalizedWorkPackage) : List Json :=
  (if work.acceptanceCriteria.isEmpty then ["Verify canonical evidence"]
    else work.acceptanceCriteria).mapIdx (fun index text => criterion (index + 1) text)

def queueItem (feeder : DarwinBacklogFeeder) (work : NormalizedWorkPackage) (taskId : String) : Dict :=
  [("item_id", .str (feedItemId work.sourceRecordId)),
    ("logical_task_id", .str (feedItemId work.sourceRecordId)), ("task_id", .str taskId),
    ("project_id", .str work.projectId), ("title", .str work.title), ("state", .str "READY"),
    ("status", .str "READY"), ("priority", .str work.priority), ("created_order", .int 1),
    ("read_only", .bool true), ("mutation_allowed", .bool false),
    ("task_type", .str "inspection_reasoning"), ("allowed_actions", Json.ofTexts readActions),
    ("allowed_paths", allowedPaths work.provenanceRefs),
    ("context_limits", contextLimits (feeder.evidencePaths work.projectId
      work.canonicalEvidenceProject work.provenanceRefs)),
    ("dedupe_key", .str work.dedupeKey), ("source_project", .str work.sourceProject),
    ("execution_project", .str work.executionProject),
    ("canonical_evidence_project", .str work.canonicalEvidenceProject),
    ("canonical_evidence_path", Json.ofOptionalText work.canonicalEvidencePath)]

def fedWork (feeder : DarwinBacklogFeeder) (repositoryId : String) (work : NormalizedWorkPackage) :
    FedWork where
  dedupeKey := work.dedupeKey
  sourceId := work.sourceRecordId
  title := work.title
  objective := work.objective
  terms := {
    objective := work.objective
    acceptanceCriteria := criteria work
    constraints := ["READ_ONLY_REPOSITORY", "NO_TRADING_MESSAGING_OR_CREDENTIAL_ACTIONS"]
    repositoryIds := [repositoryId]
    allowedActions := readActions }
  expectedMainHead := "4c48197b146282fc3e1c5383c09d10ebab37f01a"
  worktreePath := repositoryLocation feeder work.projectId defaultLocation
  queueItem := queueItem feeder work

def feedPackage (feeder : DarwinBacklogFeeder) (work : NormalizedWorkPackage) : Op FeedRecord := do
  let _ ← ensureProject {
    id := work.projectId
    name := work.projectId
    slug := Router.lower work.projectId }
  let registration ← ensureRegistration (fun row => row.projectId = work.projectId) {
    id := "repo-" ++ work.projectId
    projectId := work.projectId
    location := repositoryLocation feeder work.projectId defaultLocation
    accessMode := "READ_ONLY" }
  ensureAttachment work.projectId registration.id
  feedWork work.projectId registration.id (fedWork feeder registration.id work)

/-- What can be run or prepared, has a reference, and is not known. -/
def isEligible (existing : List String) (work : NormalizedWorkPackage) : Bool :=
  decide (work.currentState = .ready ∨ work.currentState = .autoPreparable) &&
    !work.provenanceRefs.isEmpty && decide (work.dedupeKey ∉ existing) &&
    decide (feedItemId work.sourceRecordId ∉ existing)

/-- `items[:stop]`. -/
def upTo {α : Type} (items : List α) (stop : Int) : List α :=
  if stop < 0 then items.take (items.length - (-stop).toNat) else items.take stop.toNat

/-- The packages a call feeds. -/
def batch (feeder : DarwinBacklogFeeder) (allowed existing : List String) (maxItems : Int) :
    List NormalizedWorkPackage :=
  upTo ((discoverGlobalWork feeder allowed).filter (isEligible existing)) maxItems

def feedPortfolioIntoQueue (feeder : DarwinBacklogFeeder) (allowed : List String) (maxItems : Int) :
    Op (List FeedRecord) := do
  let store ← get
  let existing ← Action.ofExcept (existingDedupeKeys store.toTables)
  feedAll (feedPackage feeder) (batch feeder allowed existing maxItems)

end GlobalWorkPortfolioService

namespace DarwinBacklogFeeder

def ensureFeederProject (projectId : String) : Op ProjectRow :=
  ensureProject {
    id := projectId
    name := "Darwin Research Engine"
    slug := projectId
    projectType := "R_AND_D" }

def ensureRepositoryAttachment (feeder : DarwinBacklogFeeder) (projectId : String) :
    Op RepositoryRegistrationRow := do
  let registration ← ensureRegistration
    (fun row => row.projectId = projectId && row.location = feeder.darwinRoot) {
      id := "repo-" ++ projectId
      projectId := projectId
      location := feeder.darwinRoot
      accessMode := "READ_ONLY" }
  ensureAttachment projectId registration.id
  return registration

def substep (sourceId : String) : Json :=
  .obj [("substep_id", .str (feedItemId sourceId ++ "-01")),
    ("title", .str ("Execute research synthesis for " ++ sourceId)), ("status", .str "PENDING"),
    ("allowed_actions", Json.ofTexts readActions)]

def queueItem (feeder : DarwinBacklogFeeder) (projectId : String) (envelope : NormalizedTaskEnvelope)
    (taskId : String) : Dict :=
  [("item_id", .str (feedItemId envelope.sourceItemId)),
    ("logical_task_id", .str (feedItemId envelope.sourceItemId)), ("task_id", .str taskId),
    ("project_id", .str projectId), ("title", .str envelope.title), ("state", .str "READY"),
    ("status", .str "READY"), ("priority", .str envelope.priority), ("created_order", .int 1),
    ("read_only", .bool true), ("mutation_allowed", .bool false),
    ("task_type", .str "inspection_reasoning"), ("substeps", .arr [substep envelope.sourceItemId]),
    ("allowed_actions", Json.ofTexts readActions),
    ("allowed_paths", allowedPaths envelope.provenanceRefs),
    ("context_limits", contextLimits (feeder.contextPaths envelope.provenanceRefs)),
    ("dedupe_key", .str envelope.dedupeKey)]

def fedWork (feeder : DarwinBacklogFeeder) (projectId repositoryId : String)
    (envelope : NormalizedTaskEnvelope) : FedWork where
  dedupeKey := envelope.dedupeKey
  sourceId := envelope.sourceItemId
  title := envelope.title
  objective := envelope.objective
  terms := {
    objective := envelope.objective
    acceptanceCriteria := [GlobalWorkPortfolioService.criterion 1
      "Evidence gathered and verified from canonical sources"]
    constraints := ["READ_ONLY_REPOSITORY", "NO_SOURCE_MUTATION", "NO_COMMIT_MERGE_PUSH_DEPLOY",
      "NO_TRADING_MESSAGING_OR_CREDENTIAL_ACTIONS"]
    repositoryIds := [repositoryId]
    allowedActions := readActions }
  expectedMainHead := "65614f7207bd4e92e270636173bd30de4a1e890b"
  worktreePath := feeder.darwinRoot
  queueItem := queueItem feeder projectId envelope

/-- A workflow that is created is planned at once. -/
def feedEnvelope (feeder : DarwinBacklogFeeder) (adapter : ScriptedRuntimePlanningAdapter)
    (projectId repositoryId : String) (envelope : NormalizedTaskEnvelope) : Op FeedRecord := do
  let record ← feedWork projectId repositoryId (fedWork feeder projectId repositoryId envelope)
  match record.workflowId with
  | none => return record
  | some workflowId => do
      let _ ← adapter.prepareWorkflowPlan workflowId
      return record

def candidates (existing : List String) (eligible : List NormalizedTaskEnvelope) :
    List NormalizedTaskEnvelope :=
  eligible.filter (fun envelope =>
    decide (envelope.dedupeKey ∉ existing) && envelope.isEligibleForUnattended)

/-- The bounds on what a call may feed. -/
def effectiveMax (feeder : DarwinBacklogFeeder) (maxItems : Int) : Int :=
  let batched := feeder.maxBatchSize.elim maxItems (min maxItems)
  feeder.maxTotalTasks.elim batched (fun total => min batched (total - feeder.totalFed))

def exhausted (feeder : DarwinBacklogFeeder) : Bool :=
  feeder.maxTotalTasks.any (fun total => decide (total ≤ feeder.totalFed))

/-- The envelopes a call selects for itself. -/
def selected (feeder : DarwinBacklogFeeder) (existing : List String)
    (eligible : List NormalizedTaskEnvelope) (maxItems : Int) : List NormalizedTaskEnvelope :=
  GlobalWorkPortfolioService.upTo (candidates existing eligible) (feeder.effectiveMax maxItems)

/-- The portfolio is asked for the rest, before what is selected is fed. -/
def feedFromPortfolio (feeder : DarwinBacklogFeeder) (taken : Nat) (maxItems : Int) :
    Op (List FeedRecord) :=
  if feeder.customItems = false ∧ (taken : Int) < feeder.effectiveMax maxItems then
    GlobalWorkPortfolioService.feedPortfolioIntoQueue feeder defaultAuthorityClasses
      (feeder.effectiveMax maxItems - taken)
  else return []

def feedSelected (feeder : DarwinBacklogFeeder) (adapter : ScriptedRuntimePlanningAdapter)
    (projectId : String) (selected : List NormalizedTaskEnvelope) : Op (List FeedRecord) := do
  let project ← ensureFeederProject projectId
  let registration ← feeder.ensureRepositoryAttachment project.id
  feedAll (feeder.feedEnvelope adapter project.id registration.id) selected

def feedIntoQueue (feeder : DarwinBacklogFeeder) (adapter : ScriptedRuntimePlanningAdapter)
    (projectId : String) (maxItems : Int) : Op (List FeedRecord) :=
  if feeder.exhausted then return []
  else do
    let eligible ← Action.ofExcept (feeder.discoverEligibleTasks projectId defaultAuthorityClasses)
    if eligible.isEmpty then return []
    else
      let store ← get
      let existing ← Action.ofExcept (existingDedupeKeys store.toTables)
      let selected := feeder.selected existing eligible maxItems
      let portfolio ← feeder.feedFromPortfolio selected.length maxItems
      if selected.isEmpty then return portfolio
      else
        let records ← feeder.feedSelected adapter projectId selected
        return records ++ portfolio

/-- What the call reports: the work that has a workflow. -/
def ingested (records : List FeedRecord) : List FeedRecord :=
  records.filter (fun record => record.workflowId.isSome)

end DarwinBacklogFeeder

end Lucius.Portfolio
