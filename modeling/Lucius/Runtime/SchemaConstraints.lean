import Lucius.Runtime.Requests

/-! Schema-constrained output: files whose sections and labels a completed execution
has to have. Missing ones are appended to the file where the contract allows it.

A forbidden pattern is searched for by the pattern engine of the language, which is a
parameter; labels are words, searched for as such. -/

namespace Lucius.Router

open Worktree

/-- What the gates of the router meet: the workspace, the pattern engine, the characters
outside ASCII that belong to words, and writes that the operating system refuses. -/
structure GateEnvironment where
  host : Host
  checkout : Checkout
  directories : String → Bool
  searchIgnoringCase : String → Text → Except PyExc Bool
  writeFault : String → Option (Option Bytes)
  classifications : List String
  beyond : Char → Bool := Characters.asciiAlone

abbrev GateWork (α : Type) := Journal String Bytes PyExc α

def decoded (text : Text) : List Char :=
  ((String.fromUTF8? ⟨text.toArray⟩).map String.toList).getD []

def isWordChar (char : Char) : Bool := char.isAlphanum || char = '_'

def wholeWord (word : String) (beyond : Char → Bool := Characters.asciiAlone) : Pattern :=
  .sequence [.boundary (Characters.isWord beyond), .literal word, .boundary (Characters.isWord beyond)]

def stringList : Json → List String
  | .arr elements => elements.filterMap (fun element =>
    match element with
    | .str text => if text.toList.isEmpty then none else some text
    | _ => none)
  | _ => []

def schemaContract (contextLimits : Dict) : Dict :=
  match contextLimits.get "schema_constraint" with
  | .obj members => members
  | _ => []

def fileContracts (contract : Dict) : List Dict :=
  match contract.get "files" with
  | .arr elements => elements.filterMap (fun element =>
    match element with
    | .obj members => some members
    | _ => none)
  | _ => []

def missingSections (fileContract : Dict) (content : Text) : List String :=
  (stringList (fileContract.get "required_sections")).filter
    (fun wanted => !Acceptance.occursIn (utf8 wanted) content)

def missingLabels (env : GateEnvironment) (fileContract : Dict) (content : Text) : List String :=
  (stringList (fileContract.get "required_labels")).filter
    (fun label => !(wholeWord label env.beyond).search (decoded content))

def unsafeContentIssues (env : GateEnvironment) (path : String) (content : Text) :
    List String → Except PyExc (List Dict)
  | [] => .ok []
  | pattern :: rest => do
      let found ← env.searchIgnoringCase pattern content
      let later ← unsafeContentIssues env path content rest
      return if found then
          [("path", .str path), ("reason", .str "FORBIDDEN_SCHEMA_CONSTRAINED_CONTENT"),
            ("pattern", .str pattern)] :: later
        else later

def placeholderLine (label : String) : String :=
  "- " ++ label ++
    ": NOT_ESTABLISHED; provider did not supply verified content for this required category."

def safeStructuralAdditions (sections labels : List String) : List String :=
  sections ++ (if sections.isEmpty && !labels.isEmpty then ["## Structural Placeholders"] else []) ++
    labels.map placeholderLine

/-- The text without the white space at its end. -/
def rstrip (text : Text) : Text :=
  utf8 (String.ofList ((decoded text).reverse.dropWhile Json.isSpace).reverse)

def appendStructuralAdditions (content : Text) (additions : List String) : Text :=
  rstrip content ++ [10, 10] ++ rstrip (utf8 ("\n".intercalate additions)) ++ [10]

def structureIssue (path reason : String) (sections labels : List String) : Dict :=
  [("path", .str path), ("reason", .str reason), ("missing_sections", Json.ofTexts sections),
    ("missing_labels", Json.ofTexts labels)]

/-- Issues, and repairs made. -/
structure ContractFindings where
  issues : List Dict := []
  repairs : List Dict := []

def readText (files : Files) (location : String) : Except PyExc Text :=
  match files.lookup location with
  | none => .error .osError
  | some bytes =>
    if validUtf8 bytes then .ok (universalNewlines false bytes)
    else .error .unicodeError

def writeText (env : GateEnvironment) (location : String) (content : Text) : GateWork Unit :=
  match env.writeFault location with
  | none => .made [(location, some (hostNewlines env.host content))]
  | some left => .report (left.toList.map (fun bytes => (location, some bytes)), .error .osError)

/-- The structure that is still missing once a repair has been made. -/
def verifyRepaired (env : GateEnvironment) (fileContract : Dict) (path location : String)
    (repairs : List Dict) : GateWork ContractFindings := do
  let files ← Journal.read
  let content ← Journal.ofExcept (readText files location)
  let sections := missingSections fileContract content
  let labels := missingLabels env fileContract content
  if sections.isEmpty && labels.isEmpty then return { repairs := repairs }
  else
    return {
      issues := [structureIssue path "MISSING_REQUIRED_STRUCTURE_AFTER_REPAIR" sections labels]
      repairs := repairs }

def repairFile (env : GateEnvironment) (fileContract : Dict) (path location : String)
    (content : Text) : GateWork ContractFindings := do
  let sections := missingSections fileContract content
  let labels := missingLabels env fileContract content
  writeText env location
    (appendStructuralAdditions content (safeStructuralAdditions sections labels))
  verifyRepaired env fileContract path location
    [structureIssue path "SAFE_STRUCTURAL_PLACEHOLDER_REPAIR" sections labels]

def enforceContent (env : GateEnvironment) (fileContract : Dict) (path location : String)
    (content : Text) : GateWork ContractFindings := do
  let unsafeIssues ← Journal.ofExcept (unsafeContentIssues env path content
    (stringList (fileContract.get "forbidden_patterns")))
  let sections := missingSections fileContract content
  let labels := missingLabels env fileContract content
  if !unsafeIssues.isEmpty then return { issues := unsafeIssues }
  else if sections.isEmpty && labels.isEmpty then return {}
  else if !(fileContract.get "allow_safe_structural_repair").truthy then
    return { issues := [structureIssue path "MISSING_REQUIRED_STRUCTURE" sections labels] }
  else repairFile env fileContract path location content

def enforceFileContract (env : GateEnvironment) (fileContract : Dict) :
    GateWork ContractFindings :=
  match nonEmpty (fileContract.get "path").text? with
  | none =>
    return { issues := [[("reason", .str "MALFORMED_SCHEMA_CONSTRAINT"), ("field", .str "path")]] }
  | some path =>
    match env.checkout.resolve path with
    | none =>
      return { issues := [[("path", .str path),
        ("reason", .str "SCHEMA_CONSTRAINT_PATH_OUTSIDE_WORKSPACE")]] }
    | some location => do
        let files ← Journal.read
        if (files.lookup location).isNone && !isDirectory env.directories files location then
          return { issues := [[("path", .str path),
            ("reason", .str "MISSING_REQUIRED_OUTPUT_FILE")]] }
        else
          let content ← Journal.ofExcept (readText files location)
          enforceContent env fileContract path location content

def enforceFileContracts (env : GateEnvironment) : List Dict → GateWork ContractFindings
  | [] => return {}
  | fileContract :: rest => do
      let here ← enforceFileContract env fileContract
      let later ← enforceFileContracts env rest
      return { issues := here.issues ++ later.issues, repairs := here.repairs ++ later.repairs }

def objects (dicts : List Dict) : Json := .arr (dicts.map .obj)

def schemaConstraintStatus (status : String) (repairs : List Dict) : Dict :=
  [("schema_constraint", .obj [("status", .str status), ("repairs", objects repairs)])]

def schemaFailed (result : RuntimeExecutionResult) (findings : ContractFindings) :
    RuntimeExecutionResult :=
  { result with
    status := .failed
    providerNativeStatus := some ((nonEmpty result.providerNativeStatus).getD
      "COMPLETED_WITH_SCHEMA_CONSTRAINT_FAILURE")
    retryability := .nonRetryable
    failureClass := some "SCHEMA_CONSTRAINT_VALIDATION_FAILED"
    mutationSummary :=
      some "Provider output failed deterministic schema-constrained structural validation."
    providerErrorMetadata := Dict.update result.providerErrorMetadata [
      ("reason", .str
        "Schema-constrained execution requires mandatory structure without unsafe semantic repair."),
      ("schema_constraint_issues", objects findings.issues),
      ("schema_constraint_repairs", objects findings.repairs)] }

def schemaPassed (result : RuntimeExecutionResult) (repairs : List Dict) : RuntimeExecutionResult :=
  if repairs.isEmpty then
    { result with
      verificationHandoffMetadata := Dict.update result.verificationHandoffMetadata
        (schemaConstraintStatus "PASS" []) }
  else
    { result with
      providerNativeStatus := some ((nonEmpty result.providerNativeStatus).getD
        "DONE_WITH_STRUCTURAL_REPAIR")
      evidence := result.evidence ++ [[("type", .str "schema_constrained_structural_repair"),
        ("repairs", objects repairs), ("semantic_repair", .bool false)]]
      verificationHandoffMetadata := Dict.update result.verificationHandoffMetadata
        (schemaConstraintStatus "PASS_WITH_STRUCTURAL_REPAIR" repairs) }

def enforceSchemaConstrainedOutput (env : GateEnvironment) (request : RuntimeExecutionRequest)
    (result : RuntimeExecutionResult) : GateWork RuntimeExecutionResult :=
  if result.status ≠ .completed then return result
  else if (schemaContract request.contextLimits).isEmpty then return result
  else do
    let findings ← enforceFileContracts env (fileContracts (schemaContract request.contextLimits))
    if !findings.issues.isEmpty then return schemaFailed result findings
    else return schemaPassed result findings.repairs

end Lucius.Router
