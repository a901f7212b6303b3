import Lucius.Domain.Characters
import Lucius.Lib.Pattern

/-! What is kept of a command that was run: its arguments and its output, without the
secrets they name and cut to a bound. -/

namespace Lucius.Acceptance

open Pattern Characters

def maxCommandOutputBytes : Nat := 4096

def redactedText : String := "<REDACTED>"

def isNameChar (char : Char) : Bool :=
  (folded char).isAlphanum || char = '_' || char = '.' || char = '-'

def anyCase (text : String) : Pattern :=
  sequence (text.toList.map (fun wanted => one (fun char => folded char = wanted)))

def secretWord : Pattern :=
  either (anyCase "secret") (either (anyCase "token")
    (either (sequence [anyCase "api", optional (one (fun char => char = '_' || char = '-')), anyCase "key"])
      (either (anyCase "apikey") (either (anyCase "password") (anyCase "credential")))))

def isSeparator (char : Char) : Bool := char = ':' || char = '='

/-- The name of a secret up to its value. -/
def secretAssignment (beyond : Char → Bool) : Pattern :=
  sequence [boundary (isWord beyond), many (one isNameChar), secretWord, many (one isNameChar),
    many (one Json.isSpace), one isSeparator, many (one Json.isSpace)]

def isValueChar (char : Char) : Bool :=
  !Json.isSpace char && decide (char ≠ '\'') && decide (char ≠ '"') && decide (char ≠ Char.ofNat 96)

def secretValue : Pattern := atLeast 1 (one isValueChar)

def bearerWord (beyond : Char → Bool) : Pattern :=
  sequence [boundary (isWord beyond), anyCase "bearer", atLeast 1 (one Json.isSpace)]

def isTokenChar (char : Char) : Bool :=
  (folded char).isAlphanum || decide (char ∈ ['.', '_', '~', '+', '/', '-'])

def bearerToken : Pattern := seq (atLeast 1 (one isTokenChar)) (many (one (· = '=')))

def redactCommandOutput (value : String) (beyond : Char → Bool := asciiAlone) : String × Bool :=
  let named := replacing (secretAssignment beyond) secretValue redactedText.toList value.toList
  let redacted := String.ofList (replacing (bearerWord beyond) bearerToken redactedText.toList named)
  (redacted, decide (redacted ≠ value))

/-- The characters whose encodings fit in a number of bytes, and whether some of those
bytes are left to the next one. -/
def fitting : Nat → List Char → List Char × Bool
  | _, [] => ([], false)
  | room, char :: rest =>
    if char.utf8Size ≤ room then
      let (kept, cut) := fitting (room - char.utf8Size) rest
      (char :: kept, cut)
    else ([], decide (0 < room))

/-- A character cut in two is read back as a replacement character. -/
def truncatedText (value : String) : String :=
  let (kept, cut) := fitting maxCommandOutputBytes value.toList
  String.ofList (kept ++ (if cut then [Char.ofNat 65533] else []) ++ "\n[truncated]".toList)

structure BoundedOutput where
  text : String
  originalBytes : Nat
  storedBytes : Nat
  truncated : Bool
  redacted : Bool
  deriving DecidableEq, Repr

def boundedOutput (value : String) : BoundedOutput :=
  let (redactedValue, redacted) := redactCommandOutput value
  let truncated := decide (maxCommandOutputBytes < redactedValue.utf8ByteSize)
  let text := if truncated then truncatedText redactedValue else redactedValue
  { text := text
    originalBytes := value.utf8ByteSize
    storedBytes := text.utf8ByteSize
    truncated := truncated
    redacted := redacted }

def secretArgMarkers : List String :=
  ["secret", "token", "api_key", "api-key", "apikey", "password", "credential"]

def dashed (chars : List Char) : List Char := chars.map (fun char => if char = '_' then '-' else char)

def argumentExpectsSecretValue (arg : String) : Bool :=
  if '=' ∈ arg.toList ∨ ':' ∈ arg.toList then false
  else
    let normalized := dashed ((arg.toList.dropWhile (· = '-')).map Char.toLower)
    secretArgMarkers.any (fun marker =>
      normalized.tails.any (fun tail => (dashed marker.toList).isPrefixOf tail))

/-- The flag says that the argument before names a secret. -/
def redactedDiagnosticArgv (redactNext : Bool) : List String → List String × Bool
  | [] => ([], false)
  | arg :: rest =>
    if redactNext = true ∧ arg.toList.head? ≠ some '-' then
      (redactedText :: (redactedDiagnosticArgv false rest).1, true)
    else if (redactCommandOutput arg).2 then
      ((redactCommandOutput arg).1 :: (redactedDiagnosticArgv false rest).1, true)
    else
      let later := redactedDiagnosticArgv (argumentExpectsSecretValue arg) rest
      (arg :: later.1, later.2)

structure CommandDiagnostics where
  argv : List String
  argvRedacted : Bool
  timeoutSeconds : Int
  exitCode : Int
  stdout : String
  stderr : String
  stdoutBytes : Nat
  stderrBytes : Nat
  stdoutTruncated : Bool
  stderrTruncated : Bool
  stdoutRedacted : Bool
  stderrRedacted : Bool
  outputLimitBytes : Nat
  deriving DecidableEq, Repr

/-- The record of a command that ended. -/
def commandDiagnostics (argv : List String) (timeoutSeconds exitCode : Int) (stdout stderr : String) :
    CommandDiagnostics :=
  let stdoutCapture := boundedOutput stdout
  let stderrCapture := boundedOutput stderr
  let safeArgv := redactedDiagnosticArgv false argv
  { argv := safeArgv.1
    argvRedacted := safeArgv.2
    timeoutSeconds := timeoutSeconds
    exitCode := exitCode
    stdout := stdoutCapture.text
    stderr := stderrCapture.text
    stdoutBytes := stdoutCapture.originalBytes
    stderrBytes := stderrCapture.originalBytes
    stdoutTruncated := stdoutCapture.truncated
    stderrTruncated := stderrCapture.truncated
    stdoutRedacted := stdoutCapture.redacted
    stderrRedacted := stderrCapture.redacted
    outputLimitBytes := maxCommandOutputBytes }

example : (boundedOutput "api_key = abc, Bearer x1==").text =
    "api_key = <REDACTED> Bearer <REDACTED>" := by decide +kernel

end Lucius.Acceptance
