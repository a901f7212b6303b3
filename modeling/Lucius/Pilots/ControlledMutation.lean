import Lucius.Pilots.Provenance
import Lucius.Planning.Freeze
import Lucius.Runtime.OllamaProvider
import Lucius.Tasks.Service

/-! Provisioning of controlled mutation work. A specification is checked, and the repository and the
workspace it names are inspected; each of its tasks then gets a contract, a plan, a freeze and a workflow
with one item.

What the machine answers about paths and their repositories is a parameter. -/

namespace Lucius.Pilots.ControlledMutation

open Acceptance Worktree Queue

/-- `ControlledMutationProvisioningError`, a `ValueError`. -/
def provisioningError (message : String) : PyExc := .valueError message

def demand (holds : Bool) (message : String) : Except PyExc Unit :=
  if holds then .ok () else .error (provisioningError message)

/-! ### The specification -/

structure ProjectSpec where
  name : String
  slug : String
  members : Dict

structure RepositorySpec where
  name : String
  path : String
  frozenHead : String
  workspace : String
  allowedWorkspaceRoot : String
  members : Dict

structure TaskSpec where
  key : String
  executionSupervision : String
  acceptanceCriteria : List String
  members : Dict

/-- A specification that was checked: what is required of it has its type. -/
structure Specification where
  provisioningId : String
  project : ProjectSpec
  repository : RepositorySpec
  tasks : List TaskSpec

def isBlankText (text : String) : Bool := (strip text).toList.isEmpty

def requireFields (members : Dict) (fields : List String) (message : String → String) :
    Except PyExc Unit :=
  match fields.find? (fun field => !members.has field) with
  | some field => .error (provisioningError (message field))
  | none => .ok ()

def requireText (members : Dict) (field message : String) : Except PyExc String :=
  match members.get field with
  | .str text => if isBlankText text then .error (provisioningError message) else .ok text
  | _ => .error (provisioningError message)

def validateProject : Json → Except PyExc ProjectSpec
  | .obj members => do
      let name ← requireText members "name" "project.name is required."
      let slug ← requireText members "slug" "project.slug is required."
      return ⟨name, slug, members⟩
  | _ => .error (provisioningError "project must be an object.")

def requireRepositoryText (members : Dict) (field : String) : Except PyExc String :=
  requireText members field ("repository." ++ field ++ " is explicitly required.")

def validateRepository : Json → Except PyExc RepositorySpec
  | .obj members => do
      let name ← requireRepositoryText members "name"
      let path ← requireRepositoryText members "path"
      let frozenHead ← requireRepositoryText members "frozen_head"
      let workspace ← requireRepositoryText members "workspace"
      let allowedWorkspaceRoot ← requireRepositoryText members "allowed_workspace_root"
      return ⟨name, path, frozenHead, workspace, allowedWorkspaceRoot, members⟩
  | _ => .error (provisioningError "repository must be an object.")

def taskFields : List String :=
  ["key", "title", "objective", "acceptance_criteria", "allowed_mutation_paths",
    "deterministic_acceptance_checks", "execution_supervision"]

/-- A list of texts, none of them blank. -/
def criteriaTexts : List Json → Option (List String)
  | [] => some []
  | .str text :: rest => if isBlankText text then none else (criteriaTexts rest).map (text :: ·)
  | _ :: _ => none

def acceptanceCriteria : Json → Except PyExc (List String)
  | .arr (first :: rest) =>
    match criteriaTexts (first :: rest) with
    | some criteria => .ok criteria
    | none => .error (provisioningError "Each task requires non-empty acceptance_criteria.")
  | _ => .error (provisioningError "Each task requires non-empty acceptance_criteria.")

def validateTask (keys : List String) : Json → Except PyExc TaskSpec
  | .obj members => do
      requireFields members taskFields
        (fun field => "Each task must explicitly declare " ++ field ++ ".")
      let key ← requireText members "key" "Task key must be non-empty."
      demand (decide (key ∉ keys)) ("Duplicate task key: " ++ key)
      demand (!(Dict.get members "read_only").isTrue)
        "Controlled mutation task cannot be read_only=true."
      demand (Dict.get members "mutation_allowed").isTrue
        "Controlled mutation task must explicitly set mutation_allowed=true."
      demand (!((Dict.get members "unattended").isTrue || (Dict.get members "unattended_execution").isTrue))
        "Controlled mutation provisioner v1 does not authorize unattended mutation."
      let supervised ← (Dict.get members "execution_supervision").inTexts ["SUPERVISED", "HUMAN_APPROVED"]
      demand supervised "execution_supervision must be SUPERVISED or HUMAN_APPROVED."
      demand (Dict.get members "deterministic_verification").isTrue
        "Controlled mutation requires deterministic_verification=true."
      let criteria ← acceptanceCriteria (Dict.get members "acceptance_criteria")
      return ⟨key, (Dict.get members "execution_supervision").pyStr, criteria, members⟩
  | _ => .error (provisioningError "Each task must be an object.")

def validateTasksFrom (keys : List String) : List Json → Except PyExc (List TaskSpec)
  | [] => .ok []
  | task :: rest => do
      let spec ← validateTask keys task
      let more ← validateTasksFrom (spec.key :: keys) rest
      return spec :: more

def validateTasks : Json → Except PyExc (List TaskSpec)
  | .arr (first :: rest) => validateTasksFrom [] (first :: rest)
  | _ => .error (provisioningError "At least one task is required.")

def validateSpecification (specification : Dict) : Except PyExc Specification := do
  requireFields specification ["provisioning_id", "project", "repository", "tasks"]
    (fun field => "Specification requires " ++ field ++ ".")
  let provisioningId ← requireText specification "provisioning_id" "provisioning_id must be non-empty."
  demand (!Router.withinText "LWORK_".toList provisioningId.toList)
    "Historical workflow identifiers cannot be reused."
  let project ← validateProject (specification.get "project")
  let repository ← validateRepository (specification.get "repository")
  let tasks ← validateTasks (specification.get "tasks")
  return ⟨provisioningId, project, repository, tasks⟩

def validatedPathsFrom (seen : List String) : List Json → Except PyExc (List String)
  | [] => .ok []
  | raw :: rest =>
    match validateRelativeRepoPath raw with
    | .error _ => .error (provisioningError ("Invalid allowed mutation path: " ++ raw.pyRepr))
    | .ok path => do
        demand (decide (path ∉ seen)) ("Duplicate allowed mutation path: " ++ path)
        let more ← validatedPathsFrom (path :: seen) rest
        return path :: more

def validatedPaths : Json → Except PyExc (List String)
  | .arr (first :: rest) => validatedPathsFrom [] (first :: rest)
  | _ => .error (provisioningError "allowed_mutation_paths must be a non-empty list.")

/-- The checks of a task, which say something of every path it may change. -/
def validatedAcceptanceChecks (raw : Json) (allowedPaths : List String) : Except PyExc (List Check) :=
  match normalizeDeterministicAcceptanceChecks allowedPaths raw with
  | .error (.acceptance code _) =>
    .error (provisioningError ("Invalid deterministic acceptance checks: " ++ code))
  | .error other => .error (Router.acceptanceExc other)
  | .ok checks => do
      let missing := sortedBy id (allowedPaths.filter (fun path => path ∉ acceptanceCheckPaths checks))
      demand missing.isEmpty
        ("Every allowed mutation path requires deterministic acceptance coverage: " ++
          (Json.ofTexts missing).pyRepr)
      return checks

/-! ### The repository and the workspace -/

/-- What the machine answers. A command that fails prints nothing that is read. -/
structure Workspaces where
  expanduser : String → Except PyExc String
  resolve : String → Except PyExc String
  isDir : String → Bool
  git : String → List String → Except PyExc (Option String)

namespace Workspaces

variable (workspaces : Workspaces)

def located (path : String) : Except PyExc String := do
  let expanded ← workspaces.expanduser path
  workspaces.resolve expanded

def inspect (path : String) (args : List String) : Except PyExc String := do
  match ← workspaces.git path args with
  | some printed => .ok (strip printed)
  | none => .error (provisioningError ("Unable to inspect Git workspace: " ++ path))

def validateRepositoryAndWorkspace (repositoryPath workspace allowedRoot frozenHead : String) :
    Except PyExc Unit := do
  demand (workspaces.isDir repositoryPath) ("Repository does not exist: " ++ repositoryPath)
  demand (workspaces.isDir workspace) ("Persistent isolated workspace does not exist: " ++ workspace)
  demand ((pathParts allowedRoot).isPrefixOf (pathParts workspace))
    "Persistent workspace is outside explicitly authorized root."
  demand (decide (workspace ≠ repositoryPath))
    "Persistent workspace must be isolated from target repository."
  let repositoryTop ← workspaces.inspect repositoryPath ["rev-parse", "--show-toplevel"]
  let repositoryRoot ← workspaces.resolve repositoryTop
  let workspaceTop ← workspaces.inspect workspace ["rev-parse", "--show-toplevel"]
  let workspaceRoot ← workspaces.resolve workspaceTop
  demand (decide (repositoryRoot = repositoryPath)) "Repository path is not Git repository root."
  demand (decide (workspaceRoot = workspace)) "Persistent workspace is not isolated Git worktree root."
  let repositoryHead ← workspaces.inspect repositoryPath ["rev-parse", "HEAD"]
  let workspaceHead ← workspaces.inspect workspace ["rev-parse", "HEAD"]
  demand (decide (repositoryHead = frozenHead)) "Canonical repository HEAD does not match frozen_head."
  demand (decide (workspaceHead = frozenHead)) "Persistent workspace HEAD does not match frozen_head."
  let status ← workspaces.inspect workspace ["status", "--porcelain", "--untracked-files=all"]
  demand status.toList.isEmpty "Persistent isolated workspace is dirty."

/-- The repository and the workspace of a specification, as the machine locates them. -/
structure Site where
  repositoryPath : String
  workspace : String

def site (repository : RepositorySpec) : Except PyExc Site := do
  let repositoryPath ← workspaces.located repository.path
  let workspace ← workspaces.located repository.workspace
  let allowedRoot ← workspaces.located repository.allowedWorkspaceRoot
  workspaces.validateRepositoryAndWorkspace repositoryPath workspace allowedRoot repository.frozenHead
  return ⟨repositoryPath, workspace⟩

end Workspaces

/-! ### The rows -/

/-- The text a number leaves in a text column; nothing is kept of `None` and of `nan`. -/
def boundText : Json → Except PyExc (Option String)
  | .null => .ok none
  | .str text => .ok (some text)
  | .bool value => .ok (some (if value then "1" else "0"))
  | .int value =>
    if -(2 ^ 63) ≤ value ∧ value < 2 ^ 63 then .ok (some (toString value)) else .error .overflowError
  | .float value => .ok (if value.text = "nan" then none else some value.text)
  | .arr _ => .error .databaseError
  | .obj _ => .error .databaseError

def filled : Option String → Except PyExc String
  | some text => .ok text
  | none => .error .databaseError

/-- A list column, as its readers iterate it. -/
def listColumn (value : Json) : List String :=
  match value.pyIter with
  | .ok elements => elements.map Json.pyStr
  | .error _ => []

def spread (value : Json) : Except PyExc (List String) := do
  let elements ← value.pyIter
  return elements.map Json.pyStr

/-- A row that a constraint of the database refuses ends the call. -/
def addRow (refused : Store → Bool) (write : Store → Store) : Op Unit := do
  let store ← get
  if refused store then throw .databaseError else set (write store)

def addProject (row : ProjectRow) : Op Unit :=
  addRow (fun store => (store.projects.get? row.id).isSome)
    (fun store => { store with projects := store.projects.add row })

def projectBy (tables : Tables) (column : ProjectRow → String) (wanted : String) : Option ProjectRow :=
  tables.projects.rows.find? (fun row => column row = wanted)

def createProject (spec : ProjectSpec) : Op ProjectRow := do
  let id ← Op.nextId .project
  let _ ← Action.ofExcept (boundText (spec.members.get "organization"))
  let _ ← Action.ofExcept (boundText (spec.members.get "description"))
  let row : ProjectRow := {
    id := id
    name := spec.name
    slug := spec.slug
    projectType := "ENGINEERING"
    documentationPolicy := [("canonical_target_documentation_required", .bool true)] }
  addProject row
  return row

/-- The project a specification names: one of its name, else one of its slug. -/
def existingProject (tables : Tables) (spec : ProjectSpec) : Except PyExc (Option ProjectRow) :=
  match projectBy tables ProjectRow.name spec.name, projectBy tables ProjectRow.slug spec.slug with
  | some named, some slugged =>
    if named.id ≠ slugged.id then
      .error (provisioningError ("Controlled mutation project identity conflict: name " ++
        Json.reprStr spec.name ++ " and slug " ++ Json.reprStr spec.slug ++
        " resolve to different existing projects."))
    else .ok (some named)
  | some named, none => .ok (some named)
  | none, some slugged =>
    if slugged.name ≠ spec.name then
      .error (provisioningError ("Controlled mutation project identity conflict: slug " ++
        Json.reprStr spec.slug ++ " already belongs to project " ++ Json.reprStr slugged.name ++
        ", not " ++ Json.reprStr spec.name ++ "."))
    else .ok (some slugged)
  | none, none => .ok none

def resolveOrCreateProject (spec : ProjectSpec) : Op ProjectRow := do
  let store ← get
  match ← Action.ofExcept (existingProject store.toTables spec) with
  | some project => return project
  | none => createProject spec

/-- A project has one repository at a location. -/
def addRepository (row : RepositoryRegistrationRow) : Op Unit :=
  addRow
    (fun store => (store.repositories.get? row.id).isSome || store.repositories.rows.any (fun other =>
      decide (other.projectId = row.projectId) && decide (other.location = row.location)))
    (fun store => { store with repositories := store.repositories.add row })

def attachRepository (row : ProjectRepositoryAttachmentRow) : Op Unit :=
  addRow (fun store => decide (row ∈ store.attachments))
    (fun store => { store with attachments := store.attachments ++ [row] })

def createRepository (spec : RepositorySpec) (projectId location : String) :
    Op RepositoryRegistrationRow := do
  let id ← Op.nextId .repository
  let _ ← Action.ofExcept (boundText (spec.members.get "canonical_remote"))
  let _ ← Action.ofExcept (boundText (spec.members.getOr "default_branch" (.str "main")))
  let row : RepositoryRegistrationRow := { id := id, projectId := projectId, location := location }
  addRepository row
  attachRepository ⟨projectId, id⟩
  return row

/-- What the rows of the tasks of one call share. -/
structure Provisioning where
  provisioningId : String
  projectId : String
  repositoryId : String
  workspace : String
  frozenHead : String

structure TaskColumns where
  title : String
  objective : String
  complexity : String

def taskColumns (members : Dict) : Except PyExc TaskColumns := do
  let title ← boundText (members.get "title")
  let objective ← boundText (members.get "objective")
  let priority ← boundText (members.getOr "priority" (.str "HIGH"))
  let complexity ← boundText (members.getOr "task_complexity" (.str "T1"))
  let title ← filled title
  let objective ← filled objective
  let _ ← filled priority
  let complexity ← filled complexity
  return ⟨title, objective, complexity⟩

def addTask (row : TaskRow) : Op Unit :=
  addRow (fun store => (store.tasks.get? row.id).isSome)
    (fun store => { store with tasks := store.tasks.add row })

def createTask (provisioning : Provisioning) (members : Dict) : Op TaskRow := do
  let id ← Op.nextId .task
  let _ ← Op.utcNow
  let updatedAt ← Op.utcNow
  let columns ← Action.ofExcept (taskColumns members)
  let row : TaskRow := {
    id := id
    projectId := provisioning.projectId
    title := columns.title
    objective := columns.objective
    authorityLevel := .l1
    complexity := columns.complexity
    status := .ready
    updatedAt := updatedAt }
  addTask row
  return row

def criterionId (index : Nat) : String := "AC-" ++ toString index

def criterionIds (criteria : List String) : List String :=
  (List.range' 1 criteria.length).map criterionId

def contractCriteria (criteria : List String) : List Dict :=
  ((criterionIds criteria).zip criteria).map
    (fun pair => [("id", .str pair.1), ("description", .str pair.2)])

def contractConstraints : List String :=
  ["ONE_LOGICAL_DISPATCHER", "ISOLATED_WORKTREE", "NO_PUSH", "NO_MERGE", "NO_DEPLOY", "NO_LIVE_TRADING",
    "NO_EXTERNAL_MESSAGING", "NO_SPENDING"]

def contractActions : List String :=
  ["READ_REPOSITORY", "READ_DOCUMENTATION", "RUN_TESTS", "CREATE_TEMP_FILES", "WRITE_SOURCE",
    "WRITE_TESTS", "WRITE_DOCUMENTATION"]

def documentationTargets (members : Dict) : Json :=
  members.getOr "documentation_targets" (Json.ofTexts ["target-project canonical documentation"])

def createContract (provisioning : Provisioning) (spec : TaskSpec) (task : TaskRow) :
    Op TaskContractRow := do
  let id ← Op.nextId .taskContract
  let constraints ← Action.ofExcept (spread (spec.members.getOr "constraints" (.arr [])))
  let _ ← Action.ofExcept (spread (spec.members.getOr "stop_conditions" (.arr [])))
  let row : TaskContractRow := {
    id := id
    taskId := task.id
    version := 1
    objective := task.objective
    acceptanceCriteria := contractCriteria spec.acceptanceCriteria
    constraints := contractConstraints ++ constraints
    repositoryIds := [provisioning.repositoryId]
    allowedActions := contractActions
    environment := .development
    authorityLevel := .l1
    dependencies := listColumn (spec.members.getOr "dependencies" (.arr []))
    documentationRequired := true
    documentationTargets := listColumn (documentationTargets spec.members) }
  Tasks.addContract row
  return row

def affectedFiles (allowedPaths : List String) : List Dict :=
  allowedPaths.map (fun path =>
    [("path", .str path), ("status", .str "NEW_PROPOSED"), ("evidence_ids", .arr [])])

def checkDicts (checks : List Check) : List Dict := checks.map Router.Check.toDict

def planStep (spec : TaskSpec) : Dict :=
  [("step_id", .str "STEP-1"), ("sequence", .int 1), ("title", .str "Execute bounded controlled mutation"),
    ("description", spec.members.get "objective"),
    ("affected_components", spec.members.getOr "affected_components" (Json.ofTexts ["target_project"])),
    ("expected_result",
      .str "Authorized target-project changes satisfy frozen deterministic acceptance."),
    ("validation", .str "Lucius verifies the isolated candidate before any canonical integration.")]

def acceptanceCoverage (criteria : List String) : List Dict :=
  (criterionIds criteria).map (fun id =>
    [("criterion_id", .str id), ("status", .str "COVERED"), ("step_ids", Json.ofTexts ["STEP-1"]),
      ("evidence_ids", .arr [])])

def testStrategy (criteria : List String) : List Dict :=
  [[("kind", .str "INTEGRATION"),
    ("description", .str "Run deterministic target-project verification."),
    ("acceptance_criteria", Json.ofTexts (criterionIds criteria)), ("evidence_ids", .arr [])]]

def documentationRequirement (target : Json) : Dict :=
  [("target", target),
    ("reason", .str ("Controlled mutation may change target-project behavior, interfaces, operation, or " ++
      "capability.")),
    ("trigger", .str "retained target change"), ("target_type", .str "canonical_target"),
    ("exact_path_required", .bool false), ("acceptable_paths", .arr []),
    ("acceptable_categories", Json.ofTexts ["canonical_project_documentation"])]

/-- The plan is filed under a status of its own, `READY`, that no reader asks for. -/
def createPlan (provisioning : Provisioning) (spec : TaskSpec) (task : TaskRow) (contract : TaskContractRow)
    (allowedPaths : List String) (checks : List Check) : Op EngineeringPlanRow := do
  let id ← Op.nextId .engineeringPlan
  let targets ← Action.ofExcept (documentationTargets spec.members).pyIter
  let row : EngineeringPlanRow := {
    id := id
    taskId := task.id
    projectId := provisioning.projectId
    taskContractId := contract.id
    taskContractVersion := contract.version
    requiredAuthorityLevel := StrEnum.value AuthorityLevel.l1
    affectedFiles := affectedFiles allowedPaths
    deterministicAcceptanceChecks := checkDicts checks
    content := [
      ("summary", .str ("Controlled mutation plan for " ++ task.id)), ("objective", .str task.objective),
      ("affected_components", spec.members.getOr "affected_components" (Json.ofTexts ["target_project"])),
      ("steps", Planning.objects [planStep spec]),
      ("acceptance_coverage", Planning.objects (acceptanceCoverage spec.acceptanceCriteria)),
      ("test_strategy", Planning.objects (testStrategy spec.acceptanceCriteria)),
      ("documentation_requirements", Planning.objects (targets.map documentationRequirement))]
    plannedFor := some contract }
  Planning.addPlan row
  return row

def createFreeze (provisioning : Provisioning) (task : TaskRow) (plan : EngineeringPlanRow)
    (allowedPaths : List String) (checks : List Check) : Op PlanFreezeRow := do
  let id ← Op.nextId .planFreeze
  let row : PlanFreezeRow := {
    id := id
    planId := plan.id
    taskId := task.id
    projectId := provisioning.projectId
    commitSha := some provisioning.frozenHead
    planPayload := .obj [("affected_files", Planning.objects (affectedFiles allowedPaths)),
      ("deterministic_acceptance_checks", Planning.objects (checkDicts checks))] }
  Planning.addFreeze row
  return row

def queueItemId (provisioningId : String) (index : Nat) : String :=
  provisioningId ++ "-task-" ++ toString index

def queueItem (provisioningId : String) (index : Nat) (spec : TaskSpec) (allowedPaths : List String)
    (checks : List Check) : Item :=
  [("item_id", .str (queueItemId provisioningId index)), ("provisioning_id", .str provisioningId),
    ("key", .str spec.key), ("title", spec.members.get "title"), ("objective", spec.members.get "objective"),
    ("state", .str "READY"), ("read_only", .bool false), ("mutation_allowed", .bool true),
    ("unattended", .bool false), ("unattended_execution", .bool false),
    ("execution_supervision", .str spec.executionSupervision),
    ("task_complexity", spec.members.getOr "task_complexity" (.str "T1")),
    ("task_risk", spec.members.getOr "task_risk" (.str "LOW")),
    ("isolation_mode", .str "ISOLATED_WORKTREE"),
    ("allowed_mutation_paths", Json.ofTexts allowedPaths),
    ("deterministic_acceptance_checks", Planning.objects (checkDicts checks)),
    ("deterministic_verification", .bool true),
    ("required_capabilities",
      spec.members.getOr "required_capabilities" (Json.ofTexts ["code_modification"])),
    ("context_paths", spec.members.getOr "context_paths" (.arr []))]

def isolatedBranch (provisioningId : String) (spec : TaskSpec) : Except PyExc String := do
  let bound ← boundText (spec.members.getOr "isolated_branch"
    (.str ("lucius/" ++ provisioningId ++ "/" ++ spec.key)))
  filled bound

def createWorkflow (provisioning : Provisioning) (index : Nat) (spec : TaskSpec) (task : TaskRow)
    (planId planFreezeId : String) (item : Item) : Op PersistentWorkflowRow := do
  let id ← Op.nextId .persistentWorkflow
  let _ ← Op.utcNow
  let updatedAt ← Op.utcNow
  let _ ← Action.ofExcept (isolatedBranch provisioning.provisioningId spec)
  let row : PersistentWorkflowRow := {
    id := id
    projectId := some provisioning.projectId
    repositoryId := some provisioning.repositoryId
    taskId := some task.id
    planId := some planId
    planFreezeId := some planFreezeId
    objective := task.objective
    expectedMainHead := provisioning.frozenHead
    worktreePath := provisioning.workspace
    workflowState := .planReady
    authorityTier := StrEnum.value AuthorityLevel.l1
    taskBacklog := [item]
    pendingTaskIds := [queueItemId provisioning.provisioningId index]
    updatedAt := updatedAt }
  Workflows.addWorkflow row
  return row

/-! ### The provisioning -/

structure ProvisionedTask where
  provisioningId : String
  projectId : String
  repositoryId : String
  taskId : String
  taskContractId : String
  planId : String
  planFreezeId : String
  workflowId : String
  workspace : String
  frozenHead : String
  allowedMutationPaths : List String
  executionSupervision : String
  deriving DecidableEq

def provisionTask (provisioning : Provisioning) (index : Nat) (spec : TaskSpec) : Op ProvisionedTask := do
  let allowedPaths ← Action.ofExcept (validatedPaths (spec.members.get "allowed_mutation_paths"))
  let checks ← Action.ofExcept
    (validatedAcceptanceChecks (spec.members.get "deterministic_acceptance_checks") allowedPaths)
  let task ← createTask provisioning spec.members
  let contract ← createContract provisioning spec task
  let plan ← createPlan provisioning spec task contract allowedPaths checks
  let freeze ← createFreeze provisioning task plan allowedPaths checks
  let item := queueItem provisioning.provisioningId index spec allowedPaths checks
  let workflow ← createWorkflow provisioning index spec task plan.id freeze.id item
  return {
    provisioningId := provisioning.provisioningId
    projectId := provisioning.projectId
    repositoryId := provisioning.repositoryId
    taskId := task.id
    taskContractId := contract.id
    planId := plan.id
    planFreezeId := freeze.id
    workflowId := workflow.id
    workspace := provisioning.workspace
    frozenHead := provisioning.frozenHead
    allowedMutationPaths := allowedPaths
    executionSupervision := spec.executionSupervision }

def provisionTasks (provisioning : Provisioning) (index : Nat) : List TaskSpec → Op (List ProvisionedTask)
  | [] => pure []
  | spec :: rest => do
      let result ← provisionTask provisioning index spec
      let more ← provisionTasks provisioning (index + 1) rest
      return result :: more

def provisioningMarker (provisioningId : Json) : String :=
  "\"provisioning_id\": \"" ++ provisioningId.pyStr ++ "\""

/-- The item states the identifier, or somewhere in its text it is stated. -/
def namesProvisioning (provisioningId : Json) (item : Item) : Bool :=
  (item.get "provisioning_id").pyEq provisioningId ||
    Router.withinText (provisioningMarker provisioningId).toList ((Json.obj item).dumps [',', ' '] [':', ' '])

def rejectDuplicateProvisioning (tables : Tables) (provisioningId : Json) : Except PyExc Unit :=
  demand (!tables.workflows.rows.any (fun row => row.taskBacklog.any (namesProvisioning provisioningId)))
    ("Provisioning id already exists: " ++ provisioningId.pyStr)

def provisionSpecification (workspaces : Workspaces) (specification : Dict) :
    Op (List ProvisionedTask) := do
  let spec ← Action.ofExcept (validateSpecification specification)
  let store ← get
  Action.ofExcept (rejectDuplicateProvisioning store.toTables (.str spec.provisioningId))
  let site ← Action.ofExcept (workspaces.site spec.repository)
  let project ← resolveOrCreateProject spec.project
  let repository ← createRepository spec.repository project.id site.repositoryPath
  let provisioning : Provisioning := {
    provisioningId := spec.provisioningId
    projectId := project.id
    repositoryId := repository.id
    workspace := site.workspace
    frozenHead := spec.repository.frozenHead }
  provisionTasks provisioning 1 spec.tasks

/-- The identifier is looked for before the specification is checked, too. -/
def attemptProvisioning (workspaces : Workspaces) (specification : Json) : Op (List ProvisionedTask) := do
  let members ← Action.ofExcept specification.getTarget
  let store ← get
  Action.ofExcept (rejectDuplicateProvisioning store.toTables (members.getOr "provisioning_id" (.str "")))
  provisionSpecification workspaces members

/-! ### The session -/

/-- A session that has not committed since it was in the one store, and now holds the other. -/
structure Session where
  committed : Store
  store : Store

def Session.opened (store : Store) : Session := ⟨store, store⟩

/-- All that was not committed is gone, whichever call wrote it. The clock goes on. -/
def Session.rollback (session : Session) (after : Store) : Session :=
  { session with
    store := { session.committed with
      ticks := after.ticks
      drawn := after.drawn } }

structure Call where
  workspaces : Workspaces
  specification : Json

def provisionControlledMutation (session : Session) (call : Call) :
    Except PyExc (List ProvisionedTask) × Session :=
  match Action.exec (attemptProvisioning call.workspaces call.specification) session.store with
  | (.ok results, after) => (.ok results, { session with store := after })
  | (.error error, after) => (.error error, session.rollback after)

end Lucius.Pilots.ControlledMutation
