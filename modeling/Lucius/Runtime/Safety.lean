import Lucius.Domain.Characters

/-! The deny gate for commands of unattended execution: a list of patterns, searched
for in the command line without regard to case. -/

namespace Lucius.Safety

open Characters

inductive Piece where
  | boundary
  | text (expected : String)
  | spaces (atLeastOne : Bool)
  | oneOf (expected : String)
  | someOf (expected : String)
  | gap

/-- Any number of allowed characters, then what comes next. -/
def repeated (allowed : Char → Bool) (next : Option Char → List Char → Bool) (before : Option Char) :
    List Char → Bool
  | [] => next before []
  | char :: rest => next before (char :: rest) ||
      (allowed char && repeated allowed next (some char) rest)

def atLeastOnce (allowed : Char → Bool) (next : Option Char → List Char → Bool) :
    List Char → Bool
  | [] => false
  | char :: rest => allowed char && repeated allowed next (some char) rest

def literal (next : Option Char → List Char → Bool) :
    List Char → Option Char → List Char → Bool
  | [], before, chars => next before chars
  | _ :: _, _, [] => false
  | expected :: more, _, char :: rest =>
    decide (folded char = folded expected) && literal next more (some char) rest

def among (expected : String) (char : Char) : Bool :=
  decide (folded char ∈ expected.toList.map folded)

section

variable (beyond : Char → Bool)

def matchHere : List Piece → Option Char → List Char → Bool
  | [], _, _ => true
  | .boundary :: rest, before, chars =>
    (before.any (isWord beyond) != chars.head?.any (isWord beyond)) && matchHere rest before chars
  | .text expected :: rest, before, chars =>
    literal (matchHere rest) expected.toList before chars
  | .spaces true :: rest, _, chars => atLeastOnce Json.isSpace (matchHere rest) chars
  | .spaces false :: rest, before, chars => repeated Json.isSpace (matchHere rest) before chars
  | .oneOf expected :: rest, _, chars =>
    match chars with
    | [] => false
    | char :: after => among expected char && matchHere rest (some char) after
  | .someOf expected :: rest, _, chars => atLeastOnce (among expected) (matchHere rest) chars
  | .gap :: rest, before, chars => repeated (· ≠ '\n') (matchHere rest) before chars

def found (pattern : List Piece) (text : String) : Bool :=
  repeated (fun _ => true) (matchHere beyond pattern) none text.toList

end

structure CommandPattern where
  source : String
  pieces : List Piece

/-- Words in a row, each its own, as `\bfirst\s+second\b`. -/
def wordsPattern (words : List String) : List Piece :=
  [.boundary] ++ (words.map Piece.text).intersperse (.spaces true) ++ [.boundary]

def forbiddenCommandPatterns : List CommandPattern :=
  [⟨"\\brm\\s+-[rf]+", [.boundary, .text "rm", .spaces true, .text "-", .someOf "rf"]⟩,
    ⟨"\\brm\\b", wordsPattern ["rm"]⟩,
    ⟨"\\bgit\\s+clean\\b", wordsPattern ["git", "clean"]⟩,
    ⟨"\\bgit\\s+reset\\s+--hard\\b", wordsPattern ["git", "reset", "--hard"]⟩,
    ⟨"\\bgit\\s+restore\\b", wordsPattern ["git", "restore"]⟩,
    ⟨"\\bgit\\s+push\\s+.*--force",
      [.boundary, .text "git", .spaces true, .text "push", .spaces true, .gap, .text "--force"]⟩,
    ⟨"\\bgit\\s+worktree\\s+remove\\b", wordsPattern ["git", "worktree", "remove"]⟩,
    ⟨"\\bgit\\s+branch\\s+-[dD]\\b",
      [.boundary, .text "git", .spaces true, .text "branch", .spaces true, .text "-", .oneOf "dD",
        .boundary]⟩,
    ⟨"\\bsudo\\b", wordsPattern ["sudo"]⟩,
    ⟨"\\bchmod\\b", wordsPattern ["chmod"]⟩,
    ⟨"\\bchown\\b", wordsPattern ["chown"]⟩,
    ⟨"\\bpip\\s+install\\b", wordsPattern ["pip", "install"]⟩,
    ⟨"\\bnpm\\s+install\\b", wordsPattern ["npm", "install"]⟩,
    ⟨"\\bcurl\\b.*\\|\\s*sh",
      [.boundary, .text "curl", .boundary, .gap, .text "|", .spaces false, .text "sh"]⟩]

/-- The first forbidden pattern the command line matches. -/
def deniedPattern (command : List String) (beyond : Char → Bool := asciiAlone) : Option String :=
  (forbiddenCommandPatterns.find?
    (fun pattern => found beyond pattern.pieces (" ".intercalate command))).map (·.source)

def assertUnattendedCommandAuthorized (command : List String) (beyond : Char → Bool := asciiAlone) :
    Except String Unit :=
  match deniedPattern command beyond with
  | none => .ok ()
  | some source =>
    .error ("Command denied by Lucius Unattended Safety Gate: '" ++ " ".intercalate command ++
      "' matched pattern '" ++ source ++ "'")

end Lucius.Safety
