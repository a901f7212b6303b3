import Lucius.Persistence.Rows

/-! The authority a task contract needs, and the validation of a contract. -/

namespace Lucius.Tasks

structure StructuredBlocker where
  code : BlockerCode
  message : String
  deriving DecidableEq, Repr

def authorityRank : AuthorityLevel → Nat
  | .l0 => 0
  | .l1 => 1
  | .l2 => 2
  | .l3 => 3

def actionAuthority : AllowedAction → AuthorityLevel
  | .readRepository => .l0
  | .readDocumentation => .l0
  | .runTests => .l0
  | .createTempFiles => .l0
  | .writeSource => .l1
  | .writeTests => .l1
  | .writeDocumentation => .l1
  | .createMigration => .l1
  | .createCommit => .l2

def environmentAuthority : Environment → AuthorityLevel
  | .sandbox => .l0
  | .development => .l0
  | .staging => .l2
  | .production => .l3

def authorityExceeds (candidate maximum : AuthorityLevel) : Bool :=
  decide (authorityRank maximum < authorityRank candidate)

/-- What is asked for is within both authorities. -/
def requireAuthority (taskAuthority contractAuthority required : AuthorityLevel) (subject : String) :
    List StructuredBlocker :=
  if authorityExceeds required contractAuthority || authorityExceeds required taskAuthority then
    [⟨.authorityInsufficient,
      subject ++ " requires authority " ++ StrEnum.value required ++ "."⟩]
  else []

def validateAuthority (taskAuthority contractAuthority : AuthorityLevel)
    (actions : List AllowedAction) (environment : Environment) : List StructuredBlocker :=
  (if authorityExceeds contractAuthority taskAuthority then
      [⟨.authorityInsufficient, "TaskContract authority cannot exceed Task authority."⟩]
    else []) ++
    actions.flatMap (fun action =>
      requireAuthority taskAuthority contractAuthority (actionAuthority action)
        ("Action " ++ StrEnum.value action)) ++
    requireAuthority taskAuthority contractAuthority (environmentAuthority environment)
      ("Environment " ++ StrEnum.value environment)

def isAttached (tables : Tables) (projectId repositoryId : String) : Bool :=
  (tables.repositories.get? repositoryId).isSome &&
    decide (⟨projectId, repositoryId⟩ ∈ tables.attachments)

def validateRepositories (tables : Tables) (task : TaskRow) (contract : TaskContractRow) :
    List StructuredBlocker :=
  contract.repositoryIds.flatMap (fun repositoryId =>
    if isAttached tables task.projectId repositoryId then []
    else [⟨.missingRepository, "TaskContract repository is not attached to the Task project."⟩])

def validateDependency (tables : Tables) (task : TaskRow) (dependencyId : String) :
    List StructuredBlocker :=
  if dependencyId = task.id then [⟨.dependencyBlocked, "Task cannot depend on itself."⟩]
  else
    match tables.tasks.get? dependencyId with
    | none => [⟨.dependencyBlocked, "Task dependency does not exist."⟩]
    | some dependency =>
      (if (tables.activeContract dependency.id).any (fun other => task.id ∈ other.dependencies) then
          [⟨.dependencyBlocked, "Direct task dependency cycle detected."⟩]
        else []) ++
        (if dependency.status ≠ .complete then
          [⟨.dependencyBlocked, "Task dependency is not COMPLETE."⟩]
        else [])

def validateDependencies (tables : Tables) (task : TaskRow) (contract : TaskContractRow) :
    List StructuredBlocker :=
  contract.dependencies.flatMap (validateDependency tables task)

def validateProject : Option ProjectRow → List StructuredBlocker
  | none => [⟨.invalidContract, "Task project does not exist."⟩]
  | some project =>
    if project.status ≠ .active then
      [⟨.projectInactive, "Project must be ACTIVE before a Task can become READY."⟩]
    else []

def isBlank (text : String) : Bool := (Json.strip text.toList).isEmpty

def validateContent (contract : TaskContractRow) : List StructuredBlocker :=
  (if isBlank contract.objective then
      [⟨.invalidContract, "TaskContract objective is blank."⟩]
    else []) ++
    (if contract.acceptanceCriteria.isEmpty then
      [⟨.invalidContract, "TaskContract requires acceptance criteria."⟩]
    else []) ++
    (if contract.documentationRequired && contract.documentationTargets.isEmpty then
      [⟨.documentationRequired,
        "Documentation targets are required when documentation_required is true."⟩]
    else [])

def parseAction (action : String) : Except PyExc AllowedAction :=
  match StrEnum.ofValue? action with
  | some known => .ok known
  | none => .error (.valueError (Json.reprStr action ++ " is not a valid AllowedAction"))

/-- The blockers of a contract, in the order they are found; it is valid when there are
none. -/
def contractBlockers (tables : Tables) (task : TaskRow) : Except PyExc (List StructuredBlocker) :=
  let project := validateProject (tables.projects.get? task.projectId)
  match tables.activeContract task.id with
  | none => .ok (project ++ [⟨.invalidContract, "Task has no active contract."⟩])
  | some contract => do
      let actions ← contract.allowedActions.mapM parseAction
      return project ++ validateContent contract ++ validateRepositories tables task contract ++
        validateDependencies tables task contract ++
        validateAuthority task.authorityLevel contract.authorityLevel actions contract.environment

end Lucius.Tasks
