import Lucius.Persistence.PublicIds
import Lucius.Repositories.GitMutation
import Lucius.Runtime.Diagnostics
import Lucius.Runtime.Safety

/-! Deterministic acceptance: the checks a plan freezes, normalised, and their
verification over a working tree and over captured content. -/

namespace Lucius.Acceptance

open Worktree

inductive TextCheck where
  | exactFileContent | fileContains | fileNotContains
  deriving DecidableEq, Repr

inductive Check where
  | commandSucceeds (argv : List String) (timeoutSeconds : Int)
  | fileExists (path : String)
  | text (type : TextCheck) (path expectedText : String)
  deriving DecidableEq, Repr

def TextCheck.name : TextCheck → String
  | .exactFileContent => "exact_file_content"
  | .fileContains => "file_contains"
  | .fileNotContains => "file_not_contains"

def Check.path? : Check → Option String
  | .commandSucceeds _ _ => none
  | .fileExists path => some path
  | .text _ path _ => some path

def textChecks : List TextCheck := [.exactFileContent, .fileContains, .fileNotContains]

def maxCommandTimeoutSeconds : Int := 600

def defaultCommandTimeoutSeconds : Int := 300

def allowedCommandExecutables : List String := [".venv/bin/python", ".venv/bin/python3"]

def allowedPytestOptions : List String :=
  ["-q", "-s", "-x", "--quiet", "--verbose", "--disable-warnings", "--tb=short", "--tb=auto",
    "--tb=long", "--maxfail=1"]

def shellMetachars : List Char := ['|', '&', ';', '<', '>', '$', Char.ofNat 96, '\\', '\n', '\r']

def startsWith (text start : String) : Bool := start.toList.isPrefixOf text.toList

/-- The text before the first `::`. -/
def beforeColons : List Char → List Char
  | [] => []
  | ':' :: ':' :: _ => []
  | char :: rest => char :: beforeColons rest

def validatePytestTargetArg (index : Nat) (arg : String) : Except WorkspaceExc Unit :=
  match validateRelativeRepoPath (.str (String.ofList (beforeColons arg.toList))) with
  | .error (.gitMutation _ _) =>
    .error (.acceptance "DETERMINISTIC_ACCEPTANCE_COMMAND_ARG_NOT_ALLOWED"
      ("command_succeeds check " ++ toString index ++ " pytest target is invalid: " ++ arg))
  | .error error => .error error
  | .ok path =>
    if path ≠ "tests" ∧ startsWith path "tests/" = false then
      .error (.acceptance "DETERMINISTIC_ACCEPTANCE_COMMAND_ARG_NOT_ALLOWED"
        ("command_succeeds check " ++ toString index ++
          " pytest target must be under tests/: " ++ arg))
    else .ok ()

/-- `int` of a text of digits. -/
def intOfDigits (digits : List Char) : Except WorkspaceExc Nat :=
  match PublicIds.pyInt digits with
  | .ok value => .ok value
  | .error (.valueError message) => .error (.valueError message)
  | .error _ => .error .typeError

/-- `--maxfail=` with a number from one to ten. The number is read once its characters
are digits, some of which `int` does not read. -/
def isBoundedMaxfail (arg : String) : Except WorkspaceExc Bool :=
  let digits := arg.toList.drop 10
  if startsWith arg "--maxfail=" && PublicIds.isdigit digits then do
    let value ← intOfDigits digits
    return decide (1 ≤ value ∧ value ≤ 10)
  else .ok false

def validatePytestArg (index : Nat) (arg : String) : Except WorkspaceExc Unit :=
  if arg ∈ allowedPytestOptions then .ok ()
  else do
    let bounded ← isBoundedMaxfail arg
    if bounded then .ok ()
    else if startsWith arg "-" then
      .error (.acceptance "DETERMINISTIC_ACCEPTANCE_COMMAND_ARG_NOT_ALLOWED"
        ("command_succeeds check " ++ toString index ++ " pytest option is not allowlisted: " ++ arg))
    else validatePytestTargetArg index arg

def validatePytestArgs (index : Nat) : List String → Except WorkspaceExc Unit
  | [] => .ok ()
  | arg :: rest => do
      validatePytestArg index arg
      validatePytestArgs index rest

def validateAllowedCommandArgv (index : Nat) (argv : List String) : Except WorkspaceExc Unit :=
  if argv.headD "" ∉ allowedCommandExecutables then
    .error (.acceptance "DETERMINISTIC_ACCEPTANCE_COMMAND_NOT_ALLOWED"
      ("command_succeeds check " ++ toString index ++ " executable is not allowlisted."))
  else if argv.any (fun arg => arg.toList.any (· ∈ shellMetachars)) then
    .error (.acceptance "DETERMINISTIC_ACCEPTANCE_COMMAND_SHELL_METACHARACTER"
      ("command_succeeds check " ++ toString index ++ " contains a rejected shell metacharacter."))
  else if (argv.drop 1).take 2 ≠ ["-m", "pytest"] then
    .error (.acceptance "DETERMINISTIC_ACCEPTANCE_COMMAND_NOT_ALLOWED"
      ("command_succeeds check " ++ toString index ++ " must invoke pytest via python -m pytest."))
  else validatePytestArgs index (argv.drop 3)

/-- Non-empty texts: anything else has no command line. -/
def commandTexts : List Json → Option (List String)
  | [] => some []
  | .str text :: rest => if text.toList.isEmpty then none else (commandTexts rest).map (text :: ·)
  | _ :: _ => none

def commandArgv : Json → Option (List String)
  | .arr (first :: rest) => commandTexts (first :: rest)
  | _ => none

/-- A `bool` is an `int`. -/
def commandTimeout : Json → Option Int
  | .int value => some value
  | .bool value => some (if value then 1 else 0)
  | _ => none

def normalizeCommandSucceedsCheck (index : Nat) (check : Dict) : Except WorkspaceExc Check :=
  if check.has "path" || check.has "expected_text" then
    .error (.acceptance "INVALID_DETERMINISTIC_ACCEPTANCE_COMMAND"
      ("command_succeeds check " ++ toString index ++ " must not provide path or expected_text."))
  else
    match commandArgv (check.get "argv") with
    | none =>
      .error (.acceptance "INVALID_DETERMINISTIC_ACCEPTANCE_COMMAND_ARGV"
        ("command_succeeds check " ++ toString index ++
          " argv must be a non-empty list of strings."))
    | some argv =>
      match (commandTimeout (check.getOr "timeout_seconds" (.int defaultCommandTimeoutSeconds))).filter
          (fun timeout => 0 < timeout ∧ timeout ≤ maxCommandTimeoutSeconds) with
      | none =>
        .error (.acceptance "INVALID_DETERMINISTIC_ACCEPTANCE_COMMAND_TIMEOUT"
          ("command_succeeds check " ++ toString index ++ " timeout_seconds must be 1.." ++
            toString maxCommandTimeoutSeconds ++ "."))
      | some timeout => do
          validateAllowedCommandArgv index argv
          return .commandSucceeds argv timeout

def isHashable : Json → Bool
  | .arr _ => false
  | .obj _ => false
  | _ => true

def normalizePathCheck (index : Nat) (authorizedPaths : List String) (check : Dict)
    (type : Option TextCheck) : Except WorkspaceExc Check :=
  match validateRelativeRepoPath (check.get "path") with
  | .error (.gitMutation _ _) =>
    .error (.acceptance "INVALID_DETERMINISTIC_ACCEPTANCE_PATH"
      ("Deterministic acceptance path is invalid at index " ++ toString index ++ ": " ++
        (check.get "path").pyRepr))
  | .error error => .error error
  | .ok path =>
    if path ∉ authorizedPaths then
      .error (.acceptance "DETERMINISTIC_ACCEPTANCE_PATH_OUTSIDE_SCOPE"
        ("Deterministic acceptance path is outside frozen authorization: " ++ path))
    else
      match type with
      | none =>
        if check.has "expected_text" then
          .error (.acceptance "INVALID_DETERMINISTIC_ACCEPTANCE_EXPECTED_TEXT"
            ("file_exists must not provide expected_text: " ++ path))
        else .ok (.fileExists path)
      | some kind =>
        match check.get "expected_text" with
        | .str expected => .ok (.text kind path expected)
        | _ =>
          .error (.acceptance "INVALID_DETERMINISTIC_ACCEPTANCE_EXPECTED_TEXT"
            ("Deterministic acceptance expected_text is invalid for: " ++ path))

def normalizeDeterministicAcceptanceCheck (index : Nat) (authorizedPaths : List String)
    (check : Json) : Except WorkspaceExc Check :=
  match check with
  | .obj members =>
    let type := Dict.get members "type"
    if !isHashable type then .error .typeError
    else if type.isStr "command_succeeds" then normalizeCommandSucceedsCheck index members
    else if type.isStr "file_exists" then normalizePathCheck index authorizedPaths members none
    else
      match textChecks.find? (fun kind => type.isStr kind.name) with
      | some kind => normalizePathCheck index authorizedPaths members (some kind)
      | none =>
        .error (.acceptance "UNSUPPORTED_DETERMINISTIC_ACCEPTANCE_CHECK"
          ("Unsupported deterministic acceptance check type at index " ++ toString index ++ "."))
  | _ =>
    .error (.acceptance "INVALID_DETERMINISTIC_ACCEPTANCE_CHECK"
      ("Deterministic acceptance check " ++ toString index ++ " is malformed."))

/-- The message names the path of the check; a command has none to name. -/
def duplicateCheck (index : Nat) : Check → WorkspaceExc
  | .commandSucceeds _ _ => .keyError
  | .fileExists path =>
    .acceptance "DUPLICATE_DETERMINISTIC_ACCEPTANCE_CHECK"
      ("Duplicate deterministic acceptance check at index " ++ toString index ++
        ": file_exists " ++ path)
  | .text type path _ =>
    .acceptance "DUPLICATE_DETERMINISTIC_ACCEPTANCE_CHECK"
      ("Duplicate deterministic acceptance check at index " ++ toString index ++ ": " ++
        type.name ++ " " ++ path)

def normalizeFrom (authorizedPaths : List String) (seen : List Check) (index : Nat) :
    List Json → Except WorkspaceExc (List Check)
  | [] => .ok []
  | check :: rest => do
      let normalized ← normalizeDeterministicAcceptanceCheck index authorizedPaths check
      if normalized ∈ seen then throw (duplicateCheck index normalized)
      else
        let more ← normalizeFrom authorizedPaths (normalized :: seen) (index + 1) rest
        return normalized :: more

def normalizeDeterministicAcceptanceChecks (authorizedPaths : List String) (checks : Json) :
    Except WorkspaceExc (List Check) :=
  match checks with
  | .arr elements => normalizeFrom authorizedPaths [] 1 elements
  | _ =>
    .error (.acceptance "INVALID_DETERMINISTIC_ACCEPTANCE_CHECKS"
      "deterministic_acceptance_checks must be a list.")

def acceptanceCheckPaths (checks : List Check) : List String :=
  sortedBy id (checks.filterMap Check.path?).dedup

inductive CommandOutcome where
  | exited (code : Int) (stdout : String := "") (stderr : String := "")
  | timedOut
  | osError
  | decodeError
  deriving DecidableEq, Repr

/-- The commands of the checks: which executables are there, and what running one
does to the files and how it ends. -/
structure Commands where
  available : String → Bool
  run : List String → Files → List FileUpdate × CommandOutcome

structure Verification where
  type : String
  path : Option String
  bytes : Option Nat
  diagnostics : Option CommandDiagnostics := none
  deriving DecidableEq, Repr

def commandVerdict (argv : List String) (timeoutSeconds : Int) :
    CommandOutcome → Except WorkspaceExc Verification
  | .exited code stdout stderr =>
    if code ≠ 0 then
      .error (.acceptance "DETERMINISTIC_ACCEPTANCE_COMMAND_NONZERO_EXIT"
        ("command_succeeds failed with exit code " ++ toString code ++ "."))
    else .ok ⟨"deterministic_acceptance_command_succeeds", none, none,
      some (commandDiagnostics argv timeoutSeconds code stdout stderr)⟩
  | .timedOut =>
    .error (.acceptance "DETERMINISTIC_ACCEPTANCE_COMMAND_TIMEOUT"
      ("command_succeeds timed out after " ++ toString timeoutSeconds ++ " seconds."))
  | .osError =>
    .error (.acceptance "DETERMINISTIC_ACCEPTANCE_COMMAND_EXECUTION_FAILED"
      "command_succeeds could not execute: ")
  | .decodeError => .error .decodeError

def verifyCommandSucceeds (commands : Commands) (argv : List String) (timeoutSeconds : Int) :
    FileWork Verification :=
  match Safety.assertUnattendedCommandAuthorized argv with
  | .error message =>
    .ofExcept (.error
      (.acceptance "DETERMINISTIC_ACCEPTANCE_COMMAND_ARG_NOT_ALLOWED" message))
  | .ok () =>
    if !commands.available (argv.headD "") then
      .ofExcept (.error (.acceptance "DETERMINISTIC_ACCEPTANCE_COMMAND_EXECUTABLE_MISSING"
        ("command_succeeds executable does not exist: " ++ argv.headD "")))
    else do
      let files ← Journal.read
      Journal.report ((commands.run argv files).1,
        commandVerdict argv timeoutSeconds (commands.run argv files).2)

/-- `needle in text`. -/
def occursIn (needle text : Text) : Bool := text.tails.any (fun tail => needle.isPrefixOf tail)

def verifyText (type : TextCheck) (path : String) (expected actual : Text)
    (failure : TextCheck → WorkspaceExc) : Except WorkspaceExc Verification :=
  let holds := match type with
    | .exactFileContent => decide (actual = expected)
    | .fileContains => occursIn expected actual
    | .fileNotContains => !occursIn expected actual
  if holds then .ok ⟨"deterministic_acceptance_" ++ type.name, some path, some actual.length, none⟩
  else .error (failure type)

def workspaceFailure (path : String) (expected actual : Text) : TextCheck → WorkspaceExc
  | .exactFileContent =>
    .acceptance "DETERMINISTIC_ACCEPTANCE_EXACT_CONTENT_MISMATCH"
      ("Exact file content acceptance failed for " ++ path ++ ": expected " ++
        toString expected.length ++ " bytes, observed " ++ toString actual.length ++ " bytes.")
  | .fileContains =>
    .acceptance "DETERMINISTIC_ACCEPTANCE_REQUIRED_TEXT_MISSING"
      ("File content acceptance failed for " ++ path ++ ": expected text was not present.")
  | .fileNotContains =>
    .acceptance "DETERMINISTIC_ACCEPTANCE_FORBIDDEN_TEXT_PRESENT"
      ("File content acceptance failed for " ++ path ++ ": forbidden text was present.")

/-- The regular file an acceptance path leads to. -/
def acceptanceTarget (checkout : Checkout) (files : Files) (path : String) :
    Except WorkspaceExc Bytes :=
  match checkout.resolve path with
  | none =>
    .error (.acceptance "INVALID_DETERMINISTIC_ACCEPTANCE_PATH"
      ("Deterministic acceptance path escapes workspace: " ++ path))
  | some location =>
    match files.lookup location with
    | none =>
      .error (.acceptance "DETERMINISTIC_ACCEPTANCE_TARGET_MISSING"
        ("Deterministic acceptance target does not exist: " ++ path))
    | some bytes => .ok bytes

def verifyTextCheck (checkout : Checkout) (files : Files) (type : TextCheck)
    (path expected : String) : Except WorkspaceExc Verification := do
  let bytes ← acceptanceTarget checkout files path
  if !validUtf8 bytes then
    throw (.acceptance "DETERMINISTIC_ACCEPTANCE_READ_FAILED"
      ("Could not read deterministic acceptance target " ++ path ++ ": "))
  else
    let actual := universalNewlines false bytes
    verifyText type path (utf8 expected) actual (workspaceFailure path (utf8 expected) actual)

def verifyExists (checkout : Checkout) (files : Files) (path : String) :
    Except WorkspaceExc Verification := do
  let _ ← acceptanceTarget checkout files path
  return ⟨"deterministic_acceptance_file_exists", some path, none, none⟩

def verifyCheck (commands : Commands) (checkout : Checkout) : Check → FileWork Verification
  | .commandSucceeds argv timeout => verifyCommandSucceeds commands argv timeout
  | .fileExists path => do
      let files ← Journal.read
      Journal.ofExcept (verifyExists checkout files path)
  | .text type path expected => do
      let files ← Journal.read
      Journal.ofExcept (verifyTextCheck checkout files type path expected)

def verifyChecks (commands : Commands) (checkout : Checkout) :
    List Check → FileWork (List Verification)
  | [] => return []
  | check :: rest => do
      let verified ← verifyCheck commands checkout check
      let later ← verifyChecks commands checkout rest
      return verified :: later

def verifyDeterministicAcceptance (fault : Option ReadFault) (commands : Commands)
    (checkout : Checkout) (checks : List Check) : FileWork (List Verification) := do
  Journal.ofExcept (failing fault)
  verifyChecks commands checkout checks

def capturedFailure (path : String) : TextCheck → WorkspaceExc
  | .exactFileContent =>
    .acceptance "DETERMINISTIC_ACCEPTANCE_EXACT_CONTENT_MISMATCH"
      ("Exact file content acceptance failed for captured content: " ++ path)
  | .fileContains =>
    .acceptance "DETERMINISTIC_ACCEPTANCE_REQUIRED_TEXT_MISSING"
      ("File content acceptance failed for captured content " ++ path ++
        ": expected text was not present.")
  | .fileNotContains =>
    .acceptance "DETERMINISTIC_ACCEPTANCE_FORBIDDEN_TEXT_PRESENT"
      ("File content acceptance failed for captured content " ++ path ++
        ": forbidden text was present.")

def capturedContent (captured : List CapturedFile) (path : String) : Except WorkspaceExc Text :=
  match captured.find? (fun file => file.path = path) with
  | some file => .ok file.content
  | none =>
    .error (.acceptance "DETERMINISTIC_ACCEPTANCE_TARGET_MISSING"
      ("Deterministic acceptance target does not exist in captured content: " ++ path))

/-- The captured content is not asked about commands. -/
def verifyCapturedCheck (captured : List CapturedFile) : Check → Except WorkspaceExc Unit
  | .commandSucceeds _ _ => .ok ()
  | .fileExists path => do let _ ← capturedContent captured path
  | .text type path expected => do
      let actual ← capturedContent captured path
      let _ ← verifyText type path (utf8 expected) actual (capturedFailure path)

def verifyDeterministicAcceptanceContent (captured : List CapturedFile) :
    List Check → Except WorkspaceExc Unit
  | [] => .ok ()
  | check :: rest => do
      verifyCapturedCheck captured check
      verifyDeterministicAcceptanceContent captured rest

end Lucius.Acceptance
