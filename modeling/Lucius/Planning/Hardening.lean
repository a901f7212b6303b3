import Lucius.Planning.Freeze
import Lucius.Queue.Items

/-! The gate of a freeze on the file entries of a plan: what it asks of their paths, their
states and their evidence against the snapshots the plan refers to. -/

namespace Lucius.Planning

open Worktree Queue

/-- Every issue is an error. -/
structure HardeningIssue where
  code : String
  message : String
  details : Dict

def existingFileStatuses : List String := ["EXISTING_VERIFIED", "EXPECTED_EXISTING", "EXISTING"]

def normalizeRepoPath (path : String) : Option String :=
  if path.toList.isEmpty || decide (path.toList.head? = some '/') then none
  else if ['.', '.'] ∈ pathParts path then none
  else some (asPosix (pathParts path))

/-- The files of a manifest; those of an object are named by its keys. -/
def manifestFiles (manifest : Json) : Except PyExc (List Json) :=
  match manifest with
  | .obj members =>
    match Dict.getOr members "files" (.arr []) with
    | .obj files => .ok (files.map (fun file =>
      .obj (Dict.update [("path", .str file.1)]
        (match file.2 with
          | .obj fields => fields
          | _ => []))))
    | other => other.pyIter
  | _ => .ok []

def snapshotEntry (item : Json) : Option (String × Dict) :=
  match item with
  | .obj entry =>
    (normalizeRepoPath ((Dict.get entry "path").orElse (.str "")).pyStr).map (fun path => (path, entry))
  | _ => none

def snapshotPaths (snapshot : RepositorySnapshotRow) : Except PyExc (List (String × Dict)) := do
  return (← manifestFiles snapshot.manifest).filterMap snapshotEntry

/-- The last entry of a path stands for it. -/
def manifestEntry (entries : List (String × Dict)) (path : String) : Option Dict :=
  (entries.reverse.find? (fun entry => entry.1 = path)).map Prod.snd

def manifestFileType (entry : Dict) : String :=
  Router.lower ((entry.get "file_type").orElse ((entry.get "type").orElse (.str "file"))).pyStr

def claimPath (fileClaim : Dict) : String :=
  ((fileClaim.get "path").orElse
    ((fileClaim.get "file").orElse ((fileClaim.get "filepath").orElse (.str "")))).pyStr

def claimStatus (fileClaim : Dict) : String :=
  upper ((fileClaim.get "state").orElse ((fileClaim.get "status").orElse (.str "UNKNOWN"))).pyStr

def evidenceSupportsSnapshot (tables : Tables) (evidenceIds snapshotIds : List String) : Bool :=
  evidenceIds.any (fun id =>
    (tables.evidence.get? id).any (fun row => decide (row.snapshotId ∈ snapshotIds)))

def evidenceIssues (tables : Tables) (snapshotIds evidenceIds : List String) (path : String)
    (fileClaim : Dict) : Except PyExc (List HardeningIssue) := do
  let listed ← ((fileClaim.getOr "evidence_ids" (.arr [])).orElse (.arr [])).pyIter
  let claimed := listed.map Json.pyStr
  let relied := if claimed.isEmpty then sortedBy id evidenceIds.dedup else claimed
  if relied.isEmpty || evidenceSupportsSnapshot tables relied snapshotIds then return []
  else return [⟨"STALE_OR_MISSING_FILE_STATE_EVIDENCE",
    "EXISTING_VERIFIED file claims must not rely only on evidence from a stale snapshot.",
    [("path", .str path), ("evidence_ids", .ofTexts relied), ("snapshot_ids", .ofTexts snapshotIds)]⟩]

/-- What is wrong with a file that is said to exist. -/
def stateIssues (snapshotIds : List String) (path status : String) : Option Dict → List HardeningIssue
  | none => [⟨"PLAN_FILE_STATE_MISMATCH",
      "Plan marked a file as existing, but the frozen snapshot does not contain it.",
      [("path", .str path), ("status", .str status), ("snapshot_ids", .ofTexts snapshotIds)]⟩]
  | some entry =>
    if manifestFileType entry = "directory" then
      [⟨"PLAN_FILE_STATE_MISMATCH", "Plan marked a directory as an existing file.",
        [("path", .str path), ("status", .str status),
          ("file_type", .str (manifestFileType entry))]⟩]
    else []

def fileIssues (tables : Tables) (snapshotIds evidenceIds : List String)
    (manifestPaths : List (String × Dict)) (fileClaim : Dict) : Except PyExc (List HardeningIssue) :=
  let status := claimStatus fileClaim
  match normalizeRepoPath (claimPath fileClaim) with
  | none => .ok [⟨"INVALID_PLAN_FILE_PATH",
      "Plan affected_files paths must be repository-relative paths.",
      [("path", .str (claimPath fileClaim)), ("status", .str status)]⟩]
  | some path => do
      let entry := manifestEntry manifestPaths path
      let unsupported ← if status = "EXISTING_VERIFIED" ∧ entry.isSome then
          evidenceIssues tables snapshotIds evidenceIds path fileClaim
        else .ok []
      return (if status ∈ existingFileStatuses then stateIssues snapshotIds path status entry else []) ++
        unsupported

/-- A plan without a snapshot that is there has no issues of this kind. -/
def validatePlanFileStates (tables : Tables) (plan : EngineeringPlanRow) :
    Except PyExc (List HardeningIssue) :=
  let snapshotIds := plan.repositorySnapshotIds.filter (fun id => !id.toList.isEmpty)
  let snapshots := snapshotIds.filterMap tables.snapshots.get?
  if snapshots.isEmpty then .ok []
  else do
    let manifests ← snapshots.mapM snapshotPaths
    let issues ← plan.affectedFiles.mapM
      (fileIssues tables snapshotIds plan.evidenceIds manifests.flatten)
    return issues.flatten

/-- The gates of a freeze in their order: the claims of the plan, its files, and the rest. -/
def planGates (claims others : FreezeGates) : FreezeGates := fun store plan => do
  let unsupported ← claims store plan
  if !unsupported.isEmpty then return ["UNSUPPORTED_VERIFIED_PLAN_CLAIM"]
  else
    let files ← validatePlanFileStates store.toTables plan
    let more ← others store plan
    return files.map HardeningIssue.code ++ more

end Lucius.Planning
