import Lucius.Lib.Lists
import Lucius.Repositories.Worktree

/-! Reading, writing and restoring the files of a repository under controlled paths.

A function that only reads takes the fault it meets, if it meets one: which of its
commands failed makes no difference to what it leaves. -/

namespace Lucius.Worktree

def failing : Option ReadFault → Except WorkspaceExc Unit
  | none => .ok ()
  | some fault => .error fault.exc

def invalidPath (message : String) : WorkspaceExc := .gitMutation "INVALID_REPOSITORY_PATH" message

/-- The parts of a relative path: empty ones and `.` are left out. -/
def pathParts (path : String) : List (List Char) :=
  (path.toList.splitOn '/').filter (fun part => !part.isEmpty && decide (part ≠ ['.']))

/-- The parts joined again, `.` when there is none. -/
def asPosix (parts : List (List Char)) : String :=
  if parts.isEmpty then "."
  else String.ofList ((parts.intersperse ['/']).flatten)

def validateRelativeRepoPath (rawPath : Json) : Except WorkspaceExc String :=
  match rawPath with
  | .str path =>
    let chars := path.toList
    if (Json.strip chars).isEmpty || decide (Json.strip chars ≠ chars) || decide ('\\' ∈ chars) ||
        decide (chars.head? = some '/') then
      .error (invalidPath ("Unsafe repository path: " ++ Json.reprStr path))
    else if ['.', '.'] ∈ pathParts path then
      .error (invalidPath ("Unsafe repository path: " ++ Json.reprStr path))
    else .ok (asPosix (pathParts path))
  | _ => .error (invalidPath "Repository path must be a string.")

def currentHead (fault : Option ReadFault) (checkout : Checkout) : Except WorkspaceExc String := do
  failing fault
  return checkout.head

def changedPaths (fault : Option ReadFault) (checkout : Checkout) (files : Files) :
    Except WorkspaceExc (List String) := do
  failing fault
  return sortedBy id (checkout.listed files).dedup

def untrackedPaths (fault : Option ReadFault) (checkout : Checkout) (files : Files) :
    Except WorkspaceExc (List String) := do
  failing fault
  return sortedBy id (checkout.others files)

def trackedWorktreePaths (fault : Option ReadFault) (checkout : Checkout) (files : Files) :
    Except WorkspaceExc (List String) := do
  failing fault
  return sortedBy id (checkout.diff files)

def stagedPaths (fault : Option ReadFault) (checkout : Checkout) :
    Except WorkspaceExc (List String) := do
  failing fault
  return sortedBy id checkout.staged

/-- The location of a validated path, inside the root. -/
def locate (checkout : Checkout) (path : String) : Except WorkspaceExc String :=
  match checkout.resolve path with
  | some location => .ok location
  | none => .error (invalidPath ("Path escapes repository: " ++ path))

def workspaceFileSha256 (sha256 : Bytes → String) (checkout : Checkout) (files : Files)
    (rawPath : String) : Except WorkspaceExc String := do
  let path ← validateRelativeRepoPath (.str rawPath)
  let location ← locate checkout path
  match files.lookup location with
  | some bytes => return sha256 bytes
  | none =>
    throw (.gitMutation "WORKTREE_FILE_NOT_REGULAR"
      ("Workspace file is not a regular file: " ++ path))

def captureUntrackedFileHashes (fault : Option ReadFault) (sha256 : Bytes → String)
    (checkout : Checkout) (files : Files) : Except WorkspaceExc (List (String × String)) := do
  let paths ← untrackedPaths fault checkout files
  paths.mapM (fun path => do return (path, ← workspaceFileSha256 sha256 checkout files path))

def stateDrift (message : String) : WorkspaceExc :=
  .gitMutation "PROTECTED_UNTRACKED_STATE_DRIFT" message

/-- Those of the protected paths whose content has changed. -/
def driftedPaths (sha256 : Bytes → String) (checkout : Checkout) (files : Files) :
    List (String × String) → Except WorkspaceExc (List String)
  | [] => .ok []
  | (path, expected) :: rest =>
    match workspaceFileSha256 sha256 checkout files path with
    | .error (.gitMutation _ _) =>
      .error (stateDrift ("Protected untracked path is no longer a regular file: " ++ path))
    | .error error => .error error
    | .ok observed => do
        let drifted ← driftedPaths sha256 checkout files rest
        return if observed ≠ expected then path :: drifted else drifted

def verifyUntrackedFileHashes (fault : Option ReadFault) (sha256 : Bytes → String)
    (checkout : Checkout) (files : Files) (expectedHashes : List (String × String)) :
    Except WorkspaceExc (List String) := do
  let current ← untrackedPaths fault checkout files
  let missing := sortedBy id ((expectedHashes.map Prod.fst).filter (· ∉ current))
  if !missing.isEmpty then
    throw (stateDrift ("Protected untracked paths disappeared: " ++ ", ".intercalate missing))
  else
    let drifted ← driftedPaths sha256 checkout files expectedHashes
    if !drifted.isEmpty then
      throw (stateDrift ("Protected untracked paths changed: " ++
        ", ".intercalate (sortedBy id drifted)))
    else return current

/-- A file item as it is supplied: its path, and its content where that is a text. -/
inductive FileItem where
  | malformed
  | item (path : Json) (content : Option Text)

structure ValidatedFileContent where
  path : String
  location : String
  content : Text
  byteCount : Nat
  deriving DecidableEq, Repr

def validateFileItems (checkout : Checkout) (authorizedPaths : List String)
    (maxFileBytes : Option Nat) (seen : List String) :
    List FileItem → Except WorkspaceExc (List ValidatedFileContent)
  | [] => .ok []
  | .malformed :: _ =>
    .error (.gitMutation "MALFORMED_FILE_CONTENT" "File content item must be an object.")
  | .item rawPath content :: rest => do
      let path ← validateRelativeRepoPath rawPath
      if path ∈ seen then
        throw (.gitMutation "DUPLICATE_FILE_CONTENT" ("Duplicate file content path: " ++ path))
      else if path ∉ authorizedPaths then
        throw (.gitMutation "UNAUTHORIZED_FILE_CONTENT" ("Unauthorized file content path: " ++ path))
      else
        match content with
        | none =>
          throw (.gitMutation "MALFORMED_FILE_CONTENT" ("File content must be a string: " ++ path))
        | some text =>
          if maxFileBytes.any (· < text.length) then
            throw (.gitMutation "FILE_CONTENT_TOO_LARGE" ("File content too large: " ++ path))
          else
            let location ← locate checkout path
            let validated ← validateFileItems checkout authorizedPaths maxFileBytes (path :: seen) rest
            return ⟨path, location, text, text.length⟩ :: validated

def validateFileContents (fault : Option ReadFault) (checkout : Checkout)
    (authorizedPaths : List String) (maxFileBytes : Option Nat) (files : List FileItem) :
    Except WorkspaceExc (List ValidatedFileContent) := do
  failing fault
  if files.isEmpty then
    throw (.gitMutation "NO_FILE_CONTENTS" "No file contents were supplied for integration.")
  else validateFileItems checkout authorizedPaths maxFileBytes [] files

structure CapturedFile where
  path : String
  content : Text
  deriving DecidableEq, Repr

def captureFiles (checkout : Checkout) (files : Files) (authorizedPaths : List String)
    (seen : List String) : List String → Except WorkspaceExc (List CapturedFile)
  | [] => .ok []
  | rawPath :: rest => do
      let path ← validateRelativeRepoPath (.str rawPath)
      if path ∈ seen then
        throw (.gitMutation "DUPLICATE_FILE_CONTENT" ("Duplicate file content path: " ++ path))
      else if path ∉ authorizedPaths then
        throw (.gitMutation "UNAUTHORIZED_FILE_CONTENT" ("Unauthorized file content path: " ++ path))
      else
        let location ← locate checkout path
        match files.lookup location with
        | none =>
          throw (.gitMutation "CANDIDATE_FILE_NOT_REGULAR"
            ("Candidate file is not a regular file: " ++ path))
        | some bytes =>
          if !validUtf8 bytes then
            throw (.gitMutation "CANDIDATE_FILE_NOT_UTF8"
              ("Candidate file is not valid UTF-8: " ++ path))
          else
            let captured ← captureFiles checkout files authorizedPaths (path :: seen) rest
            return ⟨path, universalNewlines false bytes⟩ :: captured

def captureUtf8FileContents (fault : Option ReadFault) (checkout : Checkout) (files : Files)
    (authorizedPaths paths : List String) : Except WorkspaceExc (List CapturedFile) := do
  failing fault
  captureFiles checkout files authorizedPaths [] paths

/-- The operating system refusing a write. A write that fails may have left the file
with other bytes. -/
structure WriteFaults where
  mkdir : String → Bool
  write : String → Option (Option Bytes)
  spawn : String → Bool
  restore : String → Option ReadFault
  unlink : String → Bool

structure WrittenFile where
  path : String
  bytes : Nat
  deriving DecidableEq, Repr

def ValidatedFileContent.update (host : Host) (item : ValidatedFileContent) : FileUpdate :=
  (item.location, some (hostNewlines host item.content))

def writeFile (host : Host) (faults : WriteFaults) (item : ValidatedFileContent) : FileWork Unit :=
  if faults.mkdir item.path then .ofExcept (.error .osError)
  else
    match faults.write item.path with
    | none => .made [item.update host]
    | some left =>
      .report (left.toList.map (fun bytes => (item.location, some bytes)), .error .osError)

def writeValidatedFileContents (host : Host) (faults : WriteFaults) :
    List ValidatedFileContent → FileWork (List WrittenFile)
  | [] => return []
  | item :: rest => do
      writeFile host faults item
      let written ← writeValidatedFileContents host faults rest
      return ⟨item.path, item.byteCount⟩ :: written

def requireRestored (fault : Option ReadFault) (path : String) : Except WorkspaceExc Unit :=
  match fault with
  | none => .ok ()
  | some (.git _ message) =>
    .error (.gitMutation "RESTORE_FAILED"
      (if message = "" then "Unable to restore authorized path: " ++ path else message))
  | some other => .error other.exc

/-- What Git restores at a tracked path: a file, when the path is one. -/
def baselineUpdate (checkout : Checkout) (path : String) : List FileUpdate :=
  match checkout.tree.lookup path with
  | some (some bytes) => [(path, some bytes)]
  | _ => []

def restoreTracked (faults : WriteFaults) (checkout : Checkout) (path : String) : FileWork Unit := do
  Journal.ofExcept (requireRestored (faults.restore path) path)
  Journal.made (baselineUpdate checkout path)

def removeUntracked (faults : WriteFaults) (directories : String → Bool) (checkout : Checkout)
    (path : String) : FileWork Unit := do
  let target ← Journal.ofExcept (locate checkout path)
  let files ← Journal.read
  if (files.lookup target).isSome then
    if faults.unlink path then Journal.ofExcept (.error .osError)
    else Journal.made [(target, none)]
  else if isDirectory directories files target then
    Journal.ofExcept (.error
      (.gitMutation "RESTORE_FAILED" ("Authorized path is not a removable file: " ++ path)))
  else return ()

/-- A path of the baseline commit is restored by Git; the file any other path leads
to is unlinked. -/
def restorePath (faults : WriteFaults) (directories : String → Bool) (checkout : Checkout)
    (path : String) : FileWork Unit :=
  if faults.spawn path then .ofExcept (.error .osError)
  else if checkout.tracked path then restoreTracked faults checkout path
  else removeUntracked faults directories checkout path

def restorePaths (faults : WriteFaults) (directories : String → Bool) (checkout : Checkout) :
    List String → FileWork Unit
  | [] => return ()
  | path :: rest => do
      restorePath faults directories checkout path
      restorePaths faults directories checkout rest

def exactCommit (fault : Option ReadFault) (checkout : Checkout) (baselineCommit : String) :
    Except WorkspaceExc Unit := do
  failing fault
  match checkout.revParse baselineCommit with
  | none => throw (.gitMutation "GIT_COMMAND_FAILED" "git command failed")
  | some resolved =>
    if resolved ≠ baselineCommit then
      throw (.gitMutation "BASELINE_COMMIT_AMBIGUOUS"
        "Baseline commit must be an exact full commit SHA.")
    else pure ()

def requireHead (fault : Option ReadFault) (checkout : Checkout) (baselineCommit : String) :
    Except WorkspaceExc Unit := do
  let head ← currentHead fault checkout
  if head ≠ baselineCommit then
    throw (.gitMutation "RESTORE_HEAD_MISMATCH"
      "Scoped rollback unexpectedly changed repository HEAD.")
  else pure ()

def validatedPaths (paths : List String) : Except WorkspaceExc (List String) := do
  let validated ← paths.mapM (fun path => validateRelativeRepoPath (.str path))
  return sortedBy id validated.dedup

def restoreAuthorizedPathsToBaseline (baselineFault headFault : Option ReadFault)
    (faults : WriteFaults) (directories : String → Bool) (checkout : Checkout)
    (baselineCommit : String) (paths : List String) : FileWork Unit := do
  Journal.ofExcept (exactCommit baselineFault checkout baselineCommit)
  let validated ← Journal.ofExcept (validatedPaths paths)
  restorePaths faults directories checkout validated
  Journal.ofExcept (requireHead headFault checkout baselineCommit)

end Lucius.Worktree
