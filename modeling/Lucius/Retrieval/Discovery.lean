import Lucius.Lib.Sorting
import Lucius.Lib.Utf8
import Lucius.Repositories.GitMutation
import Mathlib.Data.Prod.Lex

/-! The retrieval of evidence for a task: the matches of the query terms in a file, the rank of
the file, and the budget of what is taken. Scores are hundredths. -/

namespace Lucius.Retrieval

open Worktree

/-- What is asked of letters: `str.lower` and `str.isdigit`. -/
structure Letters where
  lower : List Char → List Char
  isDigit : Char → Bool

inductive SourceType where
  | code | documentation | test | config | git | memory | external
  deriving DecidableEq

def SourceType.value : SourceType → String
  | .code => "CODE"
  | .documentation => "DOCUMENTATION"
  | .test => "TEST"
  | .config => "CONFIG"
  | .git => "GIT"
  | .memory => "MEMORY"
  | .external => "EXTERNAL"

structure RetrievalRequest where
  queryTerms : List (List Char)
  maxResults : Int := 10
  maxTotalBytes : Int := 24000
  maxSnippetBytes : Int := 600

/-- The file a match, a candidate or a ranked source is about. -/
structure Origin where
  repositoryId : String
  snapshotId : String
  path : String
  contentHash : String
  deriving DecidableEq

inductive MatchType where
  | content | technicalIdentifier | heading | path
  deriving DecidableEq

structure SearchMatch where
  origin : Origin
  lineStart : Option Nat := none
  lineEnd : Option Nat := none
  matchedTerm : List Char
  matchType : MatchType
  snippet : Option (List Char) := none
  deriving DecidableEq

structure CandidateSource where
  origin : Origin
  sourceType : SourceType
  sizeBytes : Nat
  found : List SearchMatch

structure RankedSource where
  origin : Origin
  sourceType : SourceType
  score : Int
  matchedTerms : List String
  matchReasons : List String
  lineStart : Option Nat
  lineEnd : Option Nat
  snippet : Option (List Char)
  sizeBytes : Nat
  deriving DecidableEq

/-! Matches -/

/-- `needle in text`. -/
def occurs (needle text : List Char) : Bool := text.tails.any (fun tail => needle.isPrefixOf tail)

def isLineBreak (char : Char) : Bool :=
  decide (char.toNat ∈ [10, 11, 12, 13, 28, 29, 30, 133, 8232, 8233])

/-- `text.splitlines()`, with the line so far backwards. -/
def splitLines (line : List Char) : List Char → List (List Char)
  | [] => if line.isEmpty then [] else [line.reverse]
  | '\r' :: '\n' :: rest => line.reverse :: splitLines [] rest
  | char :: rest =>
    if isLineBreak char then line.reverse :: splitLines [] rest else splitLines (char :: line) rest

/-- `bytes[:limit]`. -/
def sliceBytes (limit : Int) (bytes : List UInt8) : List UInt8 :=
  bytes.take (if 0 ≤ limit then limit.toNat else bytes.length - (-limit).toNat)

def boundedSnippet (text : List Char) (maxBytes : Int) : List Char :=
  if (Utf8.encode text).length ≤ maxBytes then text
  else Utf8.decodeIgnoring (sliceBytes maxBytes (Utf8.encode text))

def isTechnicalIdentifier (letters : Letters) (term : List Char) : Bool :=
  decide ('_' ∈ term) || decide ('.' ∈ term) || decide ('/' ∈ term) || term.any letters.isDigit ||
    decide (14 < term.length)

def basename (path : String) : List Char := (pathParts path).getLastD []

section

variable (letters : Letters) (origin : Origin)

def inLine (line term : List Char) : Bool := occurs (letters.lower term) (letters.lower line)

def inPath (path : String) (term : List Char) : Bool :=
  occurs (letters.lower term) (letters.lower path.toList) ||
    occurs (letters.lower term) (letters.lower (basename path))

def lineFound (maxSnippetBytes : Int) (sourceType : SourceType) (line : List Char × Nat)
    (term : List Char) : SearchMatch where
  origin
  lineStart := some line.2
  lineEnd := some line.2
  matchedTerm := term
  matchType :=
    if isTechnicalIdentifier letters term && inLine letters line.1 term then .technicalIdentifier
    else if sourceType = .documentation ∧ (line.1.dropWhile Json.isSpace).head? ∈ [some '#', some '='] then
      .heading
    else .content
  snippet := some (boundedSnippet (Json.strip line.1) maxSnippetBytes)

def lineMatch (maxSnippetBytes : Int) (sourceType : SourceType) (line : List Char × Nat)
    (term : List Char) : Option SearchMatch :=
  if !inLine letters line.1 term && !inPath letters origin.path term then none
  else some (lineFound letters origin maxSnippetBytes sourceType line term)

def pathMatch (term : List Char) : Option SearchMatch :=
  if inPath letters origin.path term then some { origin, matchedTerm := term, matchType := .path } else none

def matchesForText (text : List Char) (queryTerms : List (List Char)) (maxSnippetBytes : Int)
    (sourceType : SourceType) : List SearchMatch :=
  let found := ((splitLines [] text).zipIdx 1).flatMap fun line =>
    queryTerms.filterMap (lineMatch letters origin maxSnippetBytes sourceType line)
  (if found.isEmpty then queryTerms.filterMap (pathMatch letters origin) else found).take 20

end

/-! Ranks -/

def sourceTypeWeight : SourceType → Int
  | .code => 6
  | .test => 5
  | .documentation => 4
  | .config => 4
  | .git => 3
  | _ => 0

/-- The root of an absolute path is a part of it. -/
def posixParts (path : String) : List (List Char) :=
  let slashes := path.toList.takeWhile (· = '/')
  (if slashes.isEmpty then [] else if slashes.length = 2 then [slashes] else [['/']]) ++ pathParts path

/-- What a term, a match or the type of the source adds to the score, and why. -/
def termReason (letters : Letters) (path : String) (term : List Char) : List (Int × String) :=
  let lower := letters.lower term
  let lowerPath := letters.lower path.toList
  let name := letters.lower (basename path)
  if lower = lowerPath ∨ lower = name then [(70, "exact path/name match: " ++ String.ofList term)]
  else if occurs lower name then [(48, "basename match: " ++ String.ofList term)]
  else if lower ∈ (posixParts path).map letters.lower ∨ occurs lower lowerPath then
    [(14, "path token match: " ++ String.ofList term)]
  else []

def matchReason (found : SearchMatch) : Int × String :=
  match found.matchType with
  | .technicalIdentifier => (24, "technical identifier match: " ++ String.ofList found.matchedTerm)
  | .heading => (5, "title/heading match: " ++ String.ofList found.matchedTerm)
  | _ => (2, "content match: " ++ String.ofList found.matchedTerm)

def typeReason : SourceType → List (Int × String)
  | .test => [(8, "test source relationship")]
  | .documentation => [(5, "documentation relationship")]
  | .config => [(6, "configuration relationship")]
  | _ => []

def rank (letters : Letters) (candidate : CandidateSource) (queryTerms : List (List Char)) : RankedSource :=
  let named := queryTerms.filter fun term => !(termReason letters candidate.origin.path term).isEmpty
  let reasons := (sourceTypeWeight candidate.sourceType, "source type: " ++ candidate.sourceType.value) ::
    (queryTerms.flatMap (termReason letters candidate.origin.path) ++ candidate.found.map matchReason ++
      typeReason candidate.sourceType)
  let best := candidate.found.head?
  { origin := candidate.origin
    sourceType := candidate.sourceType
    score := (reasons.map (·.1)).sum
    matchedTerms := sortedBy id (((named ++ candidate.found.map (·.matchedTerm)).map String.ofList).dedup)
    matchReasons := sortedBy id ((reasons.map (·.2)).dedup)
    lineStart := best.bind (·.lineStart)
    lineEnd := best.bind (·.lineEnd)
    snippet := best.bind (·.snippet)
    sizeBytes := candidate.sizeBytes }

def rankCandidates (letters : Letters) (candidates : List CandidateSource) (queryTerms : List (List Char)) :
    List RankedSource :=
  sortedBy (fun source => toLex (-source.score, toLex (source.origin.path,
      toLex (source.origin.repositoryId, source.origin.snapshotId))))
    ((candidates.map (fun candidate => rank letters candidate queryTerms)).filter fun source => 0 < source.score)

/-! Budgets -/

def snippetBytes (source : RankedSource) : Nat := (Utf8.encode (source.snippet.getD [])).length

/-- A snippet that is too long is cut; a negative limit makes one that is absent too long. -/
def cutSnippet (request : RetrievalRequest) (source : RankedSource) : Except PyExc RankedSource :=
  if (snippetBytes source : Int) ≤ request.maxSnippetBytes then .ok source
  else
    match source.snippet with
    | none => .error .attributeError
    | some snippet => .ok { source with
        snippet := some (Utf8.decodeIgnoring (sliceBytes request.maxSnippetBytes (Utf8.encode snippet))) }

inductive BudgetLimit where
  | maxResults | maxTotalBytes
  deriving DecidableEq

/-- The sources that are selected after some others, and the limit that was reached. -/
def applyBudgetFrom (request : RetrievalRequest) (selected total : Nat) :
    List RankedSource → Except PyExc (List RankedSource × List BudgetLimit)
  | [] => .ok ([], [])
  | source :: rest =>
    if request.maxResults ≤ selected then .ok ([], [.maxResults])
    else do
      let source ← cutSnippet request source
      if request.maxTotalBytes < total + snippetBytes source then .ok ([], [.maxTotalBytes])
      else
        let (later, warnings) ← applyBudgetFrom request (selected + 1) (total + snippetBytes source) rest
        return (source :: later, warnings)

def applyBudget (ranked : List RankedSource) (request : RetrievalRequest) :
    Except PyExc (List RankedSource × List BudgetLimit) :=
  applyBudgetFrom request 0 0 ranked

end Lucius.Retrieval
