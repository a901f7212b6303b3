import Lucius.Repositories.Inspection

/-! The files of a repository as its snapshots record them, from the working tree or from a
commit.

What Git prints and the disk holds is data; text that a command prints is decoded, and its line
ends are translated. -/

namespace Lucius.Worktree

inductive SnapshotMode where
  | fast | standard | deep
  deriving DecidableEq, Repr

inductive RepositoryErrorCode where
  | repositoryNotFound | notAGitRepository | repositoryOutsideWorkspace | permissionDenied | unsafePath
  | fileTooLarge | binaryFile | gitCommandFailed | unsupportedRepositoryState
  deriving DecidableEq, Repr

inductive RepositoryExc where
  | repository (code : RepositoryErrorCode) (message : String)
  | decodeError
  deriving DecidableEq, Repr

def defaultMaxTextFileSize : Nat := 2 * 1024 * 1024

/-- The line ends of a text, translated as reading in text mode does. -/
def lineFeeds (afterReturn : Bool) : List Char → List Char
  | [] => []
  | char :: rest =>
    if char = '\r' then '\n' :: lineFeeds true rest
    else if char = '\n' ∧ afterReturn = true then lineFeeds false rest
    else char :: lineFeeds false rest

def textMode (text : String) : String := String.ofList (lineFeeds false text.toList)

/-- A repository on disk: its working tree and what Git answers about it. -/
structure LocalRepository where
  checkout : Checkout
  files : Files
  branch : Option String
  indexed : List String
  porcelain : List String

/-- A commit as Git prints it; a path it does not have, or that is no blob, is an error. -/
structure Commit where
  paths : List String
  shown : String → Option Bytes

/-! ### The state of the working tree -/

structure DirtySummary where
  modified : List String
  added : List String
  deleted : List String
  renamed : List String
  untracked : List String
  conflicted : List String
  deriving DecidableEq, Repr

def DirtySummary.any (dirty : DirtySummary) : Bool :=
  [dirty.modified, dirty.added, dirty.deleted, dirty.renamed, dirty.untracked, dirty.conflicted].any
    (fun paths => !paths.isEmpty)

/-- What follows the first arrow. -/
def afterArrow : List Char → Option (List Char)
  | [] => none
  | char :: rest =>
    if (char :: rest).take 4 = [' ', '-', '>', ' '] then some ((char :: rest).drop 4)
    else afterArrow rest

def porcelainPath (text : List Char) : List Char :=
  let path := if text[2]? = some ' ' then text.drop 3 else (text.drop 2).dropWhile Json.isSpace
  (afterArrow path).getD path

def conflictCodes : List (List Char) :=
  [['D', 'D'], ['A', 'U'], ['U', 'D'], ['U', 'A'], ['D', 'U'], ['A', 'A'], ['U', 'U']]

/-- The paths of the lines whose code passes the test. -/
def codedPaths (lines : List String) (test : List Char → Bool) : List String :=
  sortedBy id ((lines.filter (fun line => test (line.toList.take 2))).map
    (fun line => String.ofList (porcelainPath line.toList))).dedup

def parseStatus (lines : List String) : DirtySummary where
  modified := codedPaths lines (fun code => 'M' ∈ code)
  added := codedPaths lines (fun code => 'A' ∈ code)
  deleted := codedPaths lines (fun code => 'D' ∈ code)
  renamed := codedPaths lines (fun code => 'R' ∈ code)
  untracked := codedPaths lines (fun code => code = ['?', '?'])
  conflicted := codedPaths lines (fun code => code ∈ conflictCodes || 'U' ∈ code)

structure GitState where
  branch : Option String
  commitSha : String
  isDirty : Bool
  dirty : DirtySummary
  deriving DecidableEq, Repr

def gitState (repository : LocalRepository) : GitState :=
  let dirty := parseStatus repository.porcelain
  { branch := repository.branch
    commitSha := repository.checkout.head
    isDirty := dirty.any
    dirty := dirty }

def gitStatusFor (dirty : DirtySummary) (path : String) : String :=
  if path ∈ dirty.untracked then "untracked"
  else if path ∈ dirty.conflicted then "conflicted"
  else if path ∈ dirty.modified then "modified"
  else if path ∈ dirty.added then "added"
  else if path ∈ dirty.deleted then "deleted"
  else if path ∈ dirty.renamed then "renamed"
  else "tracked"

/-! ### Which files there are -/

def isListed (path : String) : Bool := !path.toList.isEmpty && !isExcluded path

def listFiles (repository : LocalRepository) : List String :=
  let names := repository.indexed ++ repository.checkout.others repository.files
  sortedBy id ((names.map textMode).dedup.filter isListed)

def listCommitFiles (commit : Commit) : List String :=
  sortedBy id ((commit.paths.map textMode).filter isListed)

def validateRelativePath (path : String) : Except RepositoryExc String :=
  if path.toList.head? = some '/' ∨ ['.', '.'] ∈ pathParts path then
    .error (.repository .unsafePath path)
  else .ok (asPosix (pathParts path))

/-- Where the path leads, and the bytes there. -/
def resolveRepoFile (repository : LocalRepository) (path : String) :
    Except RepositoryExc (String × Bytes) := do
  let validated ← validateRelativePath path
  match repository.checkout.resolve validated with
  | none => .error (.repository .unsafePath validated)
  | some location =>
    match repository.files.lookup location with
    | none => .error (.repository .repositoryNotFound path)
    | some bytes => .ok (location, bytes)

/-! ### The record of a file -/

def sampleSize : Nat := 8192

def looksBinary (bytes : Bytes) : Bool :=
  let sample := bytes.take sampleSize
  decide (0 ∈ sample) || (!sample.isEmpty && !validUtf8 sample)

structure FileRecord where
  path : String
  sizeBytes : Nat
  fileType : String
  contentHash : Option String
  gitStatus : String
  isSensitive : Bool
  isBinary : Bool
  deriving DecidableEq, Repr

variable (sha256 : Bytes → String) (maxTextFileSize : Nat) (mode : SnapshotMode)

/-- The record of the bytes at a location of the working tree. -/
def recordOf (status : String) (location : String) (bytes : Bytes) : FileRecord :=
  let isSensitive := isSensitivePath location
  let fileType := classifyFileType location
  let inspected := !isSensitive && decide (bytes.length ≤ maxTextFileSize)
  let isBinary := if inspected then looksBinary bytes else decide (fileType = "binary")
  { path := location
    sizeBytes := bytes.length
    fileType := fileType
    contentHash :=
      if inspected ∧ mode ≠ .fast ∧ ¬ isBinary then some (sha256 bytes) else none
    gitStatus := status
    isSensitive := isSensitive
    isBinary := isBinary }

def fileRecord (repository : LocalRepository) (dirty : DirtySummary) (path : String) :
    Except RepositoryExc FileRecord := do
  let (location, bytes) ← resolveRepoFile repository path
  return recordOf sha256 maxTextFileSize mode (gitStatusFor dirty location) location bytes

/-- The bytes that decoding what `git show` prints, and encoding it again, give. -/
def retold (bytes : Bytes) : Except RepositoryExc Bytes :=
  if validUtf8 bytes then .ok (universalNewlines false bytes) else .error .decodeError

def historicalRecordOf (path : String) (data : Bytes) : FileRecord :=
  let isSensitive := isSensitivePath path
  let isBinary := decide (0 ∈ data.take sampleSize)
  { path := path
    sizeBytes := data.length
    fileType := classifyFileType path
    contentHash :=
      if ¬ isSensitive ∧ mode ≠ .fast ∧ data.length ≤ maxTextFileSize ∧ ¬ isBinary then
        some (sha256 data)
      else none
    gitStatus := "tracked"
    isSensitive := isSensitive
    isBinary := isBinary }

def historicalFileRecord (commit : Commit) (path : String) : Except RepositoryExc FileRecord := do
  let validated ← validateRelativePath path
  match commit.shown validated with
  | none => .error (.repository .repositoryNotFound validated)
  | some bytes => do
      let data ← retold bytes
      return historicalRecordOf sha256 maxTextFileSize mode validated data

def inspectedMode : SnapshotMode → SnapshotMode
  | .deep => .standard
  | mode => mode

/-- The file records of a snapshot of the working tree. -/
def worktreeRecords (repository : LocalRepository) : Except RepositoryExc (List FileRecord) :=
  (listFiles repository).mapM
    (fileRecord sha256 maxTextFileSize (inspectedMode mode) repository (parseStatus repository.porcelain))

/-- The file records of a snapshot of a commit. -/
def commitRecords (commit : Commit) : Except RepositoryExc (List FileRecord) :=
  (listCommitFiles commit).mapM (historicalFileRecord sha256 maxTextFileSize (inspectedMode mode) commit)

end Lucius.Worktree
