import Lucius.Runtime.Router

/-! The local execution provider as the router calls it: requests that may only read
beside the mutations, and the results it makes of both. -/

namespace Lucius.Router

open Worktree Updates Acceptance Ollama

/-- Where a path that is offered for reading leads: out of what may be read, to a
location of the workspace, or to a file under another root the provider may read. -/
inductive ContextTarget where
  | escapes
  | workspace (key location : String)
  | elsewhere (key : String) (content : Option Bytes)

structure OllamaExecutionProvider where
  registration : RuntimeProviderRegistration
  isAvailable : Except PyExc Bool
  model : String
  endpoint : String
  contextTarget : String → ContextTarget
  environment : Nat → ProviderEnvironment

structure ReadOnlyContext where
  path : String
  content : List Char

def maxReadOnlyContextBytes : Nat := 200000

def maxReadOnlyFileBytes : Nat := 10000

/-- The lines of a text, each with the break that ends it. -/
def splitKeepingEnds (line : List Char) : List Char → List (List Char)
  | [] => if line.isEmpty then [] else [line.reverse]
  | char :: rest =>
    if isLineBreak char then (char :: line).reverse :: splitKeepingEnds [] rest
    else splitKeepingEnds (char :: line) rest

def byteCount (chars : List Char) : Nat := (utf8 (String.ofList chars)).length

/-- The first lines that together are within the limit. -/
def linesWithin (limit : Nat) : List (List Char) → List (List Char)
  | [] => []
  | line :: rest =>
    if limit < byteCount line then [] else line :: linesWithin (limit - byteCount line) rest

/-- The excerpt of a file that is too long. The provider names no intent here, so no
section of the file is preferred. -/
def extractRelevantBoundedContext (content : List Char) (maxBytes : Nat) :
    Except ProviderExc (List Char) :=
  let excerpt := Json.strip (linesWithin maxBytes (splitKeepingEnds [] content)).flatten
  if excerpt.isEmpty then
    .error (blockedBy "CONTEXT_CAPABILITY_MISMATCH"
      "Cannot extract safe bounded context from provenance file.")
  else .ok excerpt

def contextContent (rawPath : String) (bytes : Option Bytes) : Except ProviderExc (List Char) :=
  match bytes with
  | none =>
    .error (blockedBy "MISSING_READ_ONLY_CONTEXT" ("Context file does not exist: " ++ rawPath))
  | some bytes =>
    if !validUtf8 bytes then
      .error (blockedBy "INVALID_READ_ONLY_CONTEXT"
        ("Context file is not UTF-8 text: " ++ rawPath))
    else
      let text := universalNewlines false bytes
      if maxReadOnlyContextBytes < text.length then
        .error (blockedBy "READ_ONLY_CONTEXT_TOO_LARGE"
          ("Context file exceeds 200000 bytes: " ++ rawPath))
      else if maxReadOnlyFileBytes < text.length then
        extractRelevantBoundedContext (decoded text) maxReadOnlyFileBytes
      else .ok (decoded text)

def readOnlyContextFrom (provider : OllamaExecutionProvider) (files : Files) (seen : List String) :
    List Json → Except ProviderExc (List ReadOnlyContext)
  | [] => .ok []
  | rawPath :: rest =>
    let path := String.ofList (Json.strip rawPath.pyStr.toList)
    if path.toList.isEmpty then readOnlyContextFrom provider files seen rest
    else
      match provider.contextTarget path with
      | .escapes => .error (blockedBy "UNSAFE_FILE_PATH" ("Path escapes workspace: " ++ path))
      | .workspace key location =>
        if key ∈ seen then readOnlyContextFrom provider files seen rest
        else do
          let content ← contextContent path (files.lookup location)
          return ⟨key, content⟩ :: (← readOnlyContextFrom provider files (key :: seen) rest)
      | .elsewhere key bytes =>
        if key ∈ seen then readOnlyContextFrom provider files seen rest
        else do
          let content ← contextContent path bytes
          return ⟨key, content⟩ :: (← readOnlyContextFrom provider files (key :: seen) rest)

def typeName : Json → String
  | .null => "NoneType"
  | .bool _ => "bool"
  | .int _ => "int"
  | .float _ => "float"
  | .str _ => "str"
  | .arr _ => "list"
  | .obj _ => "dict"

def pathElements (paths : Json) : Except ProviderExc (List Json) :=
  match paths.pyIter with
  | .ok elements => .ok elements
  | .error _ => .error (.other ("'" ++ typeName paths ++ "' object is not iterable"))

def readOnlyFileContext (provider : OllamaExecutionProvider) (env : ProviderEnvironment)
    (request : RuntimeExecutionRequest) (files : Files) : Except ProviderExc (List ReadOnlyContext) :=
  let paths := request.contextLimits.getOr "read_only_context_paths" (.arr [])
  if !paths.truthy then
    .error (blockedBy "MISSING_READ_ONLY_CONTEXT"
      "Read-only repository-grounded execution requires explicit read_only_context_paths.")
  else do
    let elements ← pathElements paths
    Ollama.readable (env.fault .context)
    let context ← readOnlyContextFrom provider files [] elements
    if context.isEmpty then
      throw (blockedBy "MISSING_READ_ONLY_CONTEXT" "No usable read-only context files were supplied.")
    else return context

def withinText (needle text : List Char) : Bool :=
  text.tails.any (fun tail => needle.isPrefixOf tail)

/-- The words of a text with one space between them. -/
def squeezed (chars : List Char) : List Char :=
  [' '].intercalate ((chars.splitOnP Json.isSpace).filter (fun word => !word.isEmpty))

def readOnlyUnverified (message : String) : ProviderExc :=
  blockedBy "DETERMINISTIC_READ_ONLY_VERIFICATION_FAILED" message

def repositoryEvidence (path detail : String) : Dict :=
  [("result", .str "PASS"), ("type", .str "deterministic_repository_evidence"), ("path", .str path),
    ("detail", .str detail)]

/-- The evidence of a fragment that the context holds, its spaces apart. -/
def fragmentEvidence (path : String) (fragment content : List Char) : List Dict :=
  let cleaned := Json.strip fragment
  if withinText fragment content || withinText cleaned content then
    [repositoryEvidence path
      "Exact model-cited fragment exists in the frozen authorized read-only context."]
  else if !(squeezed cleaned).isEmpty && withinText (squeezed cleaned) (squeezed content) then
    [repositoryEvidence path
      ("Whitespace-normalized model-cited fragment exists in the frozen authorized read-only " ++
        "context.")]
  else []

def verifyReference (context : List ReadOnlyContext) (reference : Json) :
    Except ProviderExc (List Dict) :=
  match reference with
  | .obj members =>
    let path := Dict.get members "path"
    match path.text?.bind (fun name => context.find? (fun file => file.path = name)) with
    | none =>
      .error (readOnlyUnverified ("Repository evidence path is not authorized: " ++ path.pyStr))
    | some file =>
      match (Dict.get members "exact_fragment").text?.filter
          (fun fragment => !(Json.strip fragment.toList).isEmpty) with
      | none =>
        .error (readOnlyUnverified
          ("Repository evidence fragment is empty for: " ++ file.path))
      | some fragment => .ok (fragmentEvidence file.path fragment.toList file.content)
  | _ => .error (readOnlyUnverified "Repository evidence reference must be an object.")

def verifyReadOnlyEvidence (context : List ReadOnlyContext) (evidenceRefs : Json) :
    Except ProviderExc (List Dict) :=
  match evidenceRefs with
  | .arr (first :: rest) => do
      let verified ← (first :: rest).mapM (verifyReference context)
      if verified.flatten.isEmpty then
        throw (readOnlyUnverified
          "No model-cited evidence fragment was found in frozen context.")
      else return verified.flatten
  | _ =>
    .error (readOnlyUnverified
      "Read-only execution returned no repository evidence references.")

def defaultOllamaNumPredict : Nat := 512

def readOnlyMutation (message : String) : ProviderExc :=
  blockedBy "READ_ONLY_MUTATION_ATTEMPT" message

/-- A response to a request that may only read lists no files. -/
def requireNoFiles (payload : Dict) : Except ProviderExc Unit :=
  match payload.get "files" with
  | .null => .ok ()
  | .arr [] => .ok ()
  | .arr _ =>
    .error (readOnlyMutation
      "Ollama response attempted file changes for a read-only request.")
  | _ =>
    .error (readOnlyMutation
      "Ollama response contained malformed file-change data for a read-only request.")

def dictList : Json → List Dict
  | .arr elements => elements.filterMap (fun element =>
    match element with
    | .obj members => some members
    | _ => none)
  | _ => []

def textsOf : Json → List String
  | .arr elements => elements.filterMap Json.text?
  | _ => []

def substepsOr (payload : Dict) (fallback : String) : List String :=
  let substeps := textsOf (payload.get "completed_substeps")
  if substeps.isEmpty then [fallback] else substeps

section

variable (provider : OllamaExecutionProvider) (env : ProviderEnvironment)
  (request : RuntimeExecutionRequest)

/-- What every completed result of the provider says. -/
def completedBy (body : Dict) : RuntimeExecutionResult where
  executionId := request.executionId
  providerId := provider.registration.providerId
  providerVersion := provider.registration.providerVersion
  modelId := some ((body.get "model").orElse (.str provider.model)).pyStr
  modelVersion := some provider.registration.providerVersion
  routingDecisionId := request.routingDecisionId
  status := .completed
  providerNativeStatus := some (if (body.getOr "done" (.bool true)).truthy then "DONE" else "PARTIAL")

def executionEvidence (kind : String) (body : Dict) (more : Dict) (numPredict : Nat) : Dict :=
  [("type", .str kind), ("provider_id", .str provider.registration.providerId),
    ("model", .str ((body.get "model").orElse (.str provider.model)).pyStr),
    ("workspace", .str env.workspace)] ++ more ++ [("num_predict", .int numPredict)]

def handOffMetadata (more : Dict) : Dict :=
  [("provider", .str "ollama"), ("endpoint", .str provider.endpoint),
    ("model_response_captured", .bool true)] ++ more

def completedReading (body payload : Dict) (verified : List Dict) : RuntimeExecutionResult :=
  { completedBy provider request body with
    mutationSummary := some ((payload.get "summary").orElse
      (.str "Ollama provider completed read-only execution.")).pyStr
    completedSubsteps := substepsOr payload
      "Completed read-only local model execution without file changes."
    evidence := [executionEvidence provider env "ollama_read_only_runtime_execution" body []
      defaultOllamaNumPredict]
    verification := verified
    documentation := dictList (payload.get "documentation")
    verificationHandoffMetadata := handOffMetadata provider
      [("read_only", .bool true), ("deterministic_read_only_verification", .bool true),
        ("verified_evidence_refs", .int verified.length),
        ("num_predict", .int defaultOllamaNumPredict)] }

/-- A reading execution. Nothing of it writes to the workspace. -/
def readingResult (files : Files) : Except ProviderExc RuntimeExecutionResult := do
  Ollama.validateWorkspace env { isolationMode := request.isolationMode }
  let context ← readOnlyFileContext provider env request files
  let body ← env.response
  let payload ← Ollama.parseModelPayload env.jsonLoads body defaultOllamaNumPredict
  requireNoFiles payload
  let verified ← verifyReadOnlyEvidence context (payload.get "evidence_refs")
  let _ ← Ollama.latencyMs env body
  match env.resultFault with
  | some error => throw error
  | none => return completedReading provider env request body payload verified

def failedBy (failure : Ollama.RuntimeExecutionResult) : RuntimeExecutionResult where
  executionId := request.executionId
  providerId := provider.registration.providerId
  providerVersion := provider.registration.providerVersion
  modelId := some provider.model
  modelVersion := some provider.registration.providerVersion
  routingDecisionId := request.routingDecisionId
  status := failure.status
  providerNativeStatus := some "FAILED"
  mutationSummary := some failure.mutationSummary
  retryability := failure.retryability
  failureClass := failure.failureClass
  providerErrorMetadata := [("message", .str failure.mutationSummary)]

def read (files : Files) : RuntimeExecutionResult :=
  match readingResult provider env request files with
  | .ok result => result
  | .error error => failedBy provider request (Ollama.failureOf env error)

end

/-- The check as the record of the plan holds it. -/
def Check.toDict : Check → Dict
  | .commandSucceeds argv timeoutSeconds =>
    [("type", .str "command_succeeds"), ("argv", Json.ofTexts argv),
      ("timeout_seconds", .int timeoutSeconds)]
  | .fileExists path => [("type", .str "file_exists"), ("path", .str path)]
  | .text type path expectedText =>
    [("type", .str type.name), ("path", .str path), ("expected_text", .str expectedText)]

/-- The part of the request that mutations read. -/
def mutationRequest (request : RuntimeExecutionRequest) : Ollama.RuntimeExecutionRequest where
  isolationMode := request.isolationMode
  allowedMutationPaths := request.allowedMutationPaths
  deterministicAcceptanceChecks := request.deterministicAcceptanceChecks.map Check.toDict

def acceptanceDetail (type : String) : String :=
  if type = "deterministic_acceptance_file_exists" then "Workspace file exists as a regular file."
  else if type = "deterministic_acceptance_exact_file_content" then
    "Workspace file content exactly matches the frozen acceptance value."
  else if type = "deterministic_acceptance_file_contains" then
    "Workspace file content contains the frozen acceptance text."
  else "Workspace file content does not contain the forbidden frozen text."

def acceptanceEvidence (found : Verification) : Dict :=
  [("result", .str "PASS"), ("type", .str found.type)] ++
    (match found.path with
      | some path => [("path", .str path), ("detail", .str (acceptanceDetail found.type))]
      | none => []) ++
    (found.bytes.toList.map (fun count => ("bytes", Json.int count)))

def writtenEntry (file : WrittenFile) : Dict := [("path", .str file.path), ("bytes", .int file.bytes)]

def contextEntry (file : Ollama.ContextFile) : Dict :=
  [("path", .str file.path),
    ("state", .str (if file.content.isSome then "EXISTING_FILE" else "NEW_FILE")),
    ("bytes", .int file.bytes)]

/-- What a completed mutation has observed: the changes of its edits, and the checks
they have passed. -/
structure MutationEvidence where
  context : List Ollama.ContextFile
  changed : List String
  accepted : List Verification

def mutationEvidence (env : ProviderEnvironment) (request : RuntimeExecutionRequest) (payload : Dict)
    (files : Files) : MutationEvidence :=
  let edited := applyAll files
    (Ollama.applyFileChanges env payload request.allowedMutationPaths files).1
  { context := (Ollama.mutationFileContext env (mutationRequest request) files).toOption.getD []
    changed := (Ollama.gitChangedPaths (env.fault .changes) env.checkout edited).toOption.getD []
    accepted := (Ollama.verifyAcceptance env (mutationRequest request) edited).2.toOption.getD [] }

def scopeEvidence (request : RuntimeExecutionRequest) (changed written : List String) : Dict :=
  [("result", .str "PASS"), ("type", .str "deterministic_mutation_scope"),
    ("detail", .str "Git-observed mutation paths are within the frozen authorized scope."),
    ("allowed_paths", Json.ofTexts (sortedBy id request.allowedMutationPaths)),
    ("changed_paths", Json.ofTexts changed), ("written_paths", Json.ofTexts (sortedBy id written))]

def reportedVerification (payload : Dict) (written : Nat) : List Dict :=
  let verification := dictList (payload.get "verification")
  if verification.isEmpty then
    [[("result", .str "PASS"), ("detail", .str ("Provider wrote " ++ toString written ++
      " file(s) in isolated workspace."))]]
  else verification

def completedMutation (provider : OllamaExecutionProvider) (env : ProviderEnvironment)
    (request : RuntimeExecutionRequest) (body payload : Dict) (files : Files)
    (done : Ollama.RuntimeExecutionResult) : RuntimeExecutionResult :=
  let seen := mutationEvidence env request payload files
  let written := done.outputArtifactRefs.map writtenEntry
  let paths := done.outputArtifactRefs.map WrittenFile.path
  let contextEntries := objects (seen.context.map contextEntry)
  { completedBy provider request body with
    outputArtifactRefs := written
    mutationSummary := some done.mutationSummary
    completedSubsteps := substepsOr payload ("Applied " ++ toString written.length ++
      " bounded file change(s) in isolated workspace.")
    evidence := [executionEvidence provider env "ollama_runtime_execution" body
      [("files", objects written), ("mutation_context_files", contextEntries)]
      env.settings.mutationNumPredict]
    verification := [scopeEvidence request seen.changed paths] ++
      seen.accepted.map acceptanceEvidence ++ reportedVerification payload written.length
    documentation := dictList (payload.get "documentation")
    verificationHandoffMetadata := handOffMetadata provider
      [("deterministic_mutation_verification", .bool true),
        ("deterministic_acceptance_verification", .bool (!seen.accepted.isEmpty)),
        ("allowed_mutation_paths", Json.ofTexts (sortedBy id request.allowedMutationPaths)),
        ("actual_changed_paths", Json.ofTexts seen.changed),
        ("num_predict", .int env.settings.mutationNumPredict),
        ("mutation_context_files", contextEntries)] }

def mutationResult (provider : OllamaExecutionProvider) (env : ProviderEnvironment)
    (request : RuntimeExecutionRequest) (files : Files) (done : Ollama.RuntimeExecutionResult) :
    RuntimeExecutionResult :=
  match done.status, Ollama.answered env (mutationRequest request) files with
  | .completed, .ok (body, payload) => completedMutation provider env request body payload files done
  | _, _ => failedBy provider request done

def workspaceErrorType : WorkspaceExc → String
  | .gitMutation _ _ => "GitMutationError"
  | .acceptance _ _ => "DeterministicAcceptanceError"
  | .integrationBlocked _ => "_IntegrationBlocked"
  | .osError => "OSError"
  | .decodeError => "UnicodeDecodeError"
  | .databaseError => "OperationalError"
  | .typeError => "TypeError"
  | .keyError => "KeyError"
  | .valueError _ => "ValueError"
  | .assertionError => "AssertionError"

/-- An exception that leaves the provider. -/
def providerFailure (env : ProviderEnvironment) : ProviderExc → ProviderFailure
  | .blocked _ message _ => ⟨"_ProviderBlocked", message⟩
  | .workspace error => ⟨workspaceErrorType error, env.describe error⟩
  | .timeout message => ⟨"TimeoutError", message⟩
  | .url message _ => ⟨"URLError", message⟩
  | .other message => ⟨"Exception", message⟩

namespace OllamaExecutionProvider

/-- What a call meets in the workspace that is given to it. -/
def meets (provider : OllamaExecutionProvider) (workspace : Checkout) (number : Nat) : ProviderEnvironment :=
  { provider.environment number with checkout := workspace }

def invoke (provider : OllamaExecutionProvider) (workspace : Checkout) (number : Nat)
    (request : RuntimeExecutionRequest) :
    Journal String Bytes ProviderFailure RuntimeExecutionResult := do
  let env := provider.meets workspace number
  let files ← Journal.read
  if request.readOnly then return read provider env request files
  else do
    let done ← Journal.mapError (providerFailure env) (Ollama.invoke env (mutationRequest request))
    return mutationResult provider env request files done

def provider (workspace : Checkout) (ollama : OllamaExecutionProvider) : Provider :=
  ⟨ollama.registration, ollama.isAvailable, ollama.invoke workspace⟩

end OllamaExecutionProvider

end Lucius.Router
