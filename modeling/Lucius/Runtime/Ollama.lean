import Lucius.Runtime.DeterministicAcceptance

/-! The local execution provider in mutation mode: a model's edits, applied to an
isolated workspace and verified there.

The model's answer, what the operating system and Git do and how long things take are
parameters. The prompt goes to the model alone, so it is not built here. -/

namespace Lucius.Ollama

open Worktree Acceptance

inductive RuntimeRetryability where
  | retryable | failoverable | retryableOrFailoverable | nonRetryable
  deriving DecidableEq, Repr

inductive RuntimeExecutionOutcome where
  | completed | blocked | escalated | failed
  deriving DecidableEq, Repr

/-- The exceptions of the provider: the one it raises itself, those of the workspace
functions that it does not turn into its own, and the others `invoke` tells apart. -/
inductive ProviderExc where
  | blocked (failureClass message : String) (retryability : RuntimeRetryability)
  | workspace (error : WorkspaceExc)
  | timeout (message : String)
  | url (message : String) (timedOut : Bool)
  | other (message : String)
  deriving DecidableEq, Repr

def blockedBy (failureClass message : String) : ProviderExc :=
  .blocked failureClass message .nonRetryable

def verificationFailed (message : String) : ProviderExc :=
  blockedBy "DETERMINISTIC_MUTATION_VERIFICATION_FAILED" message

abbrev ProviderWork (α : Type) := Journal String Bytes ProviderExc α

structure ProviderSettings where
  maxFiles : Nat := 3
  maxFileBytes : Nat := 20000
  mutationNumPredict : Nat := 256
  maxContextFileBytes : Nat := 20000
  maxContextTotalBytes : Nat := 40000

structure RuntimeExecutionRequest where
  isolationMode : String := "ISOLATED_WORKTREE"
  allowedMutationPaths : List String := []
  deterministicAcceptanceChecks : List Dict := []

structure RuntimeExecutionResult where
  status : RuntimeExecutionOutcome
  mutationSummary : String
  outputArtifactRefs : List WrittenFile := []
  latencyMs : Option Nat := none
  inputTokens : Option Int := none
  outputTokens : Option Int := none
  retryability : RuntimeRetryability := .nonRetryable
  failureClass : Option String := none

/-- The points of a call at which the workspace is read. -/
inductive ProviderReading where
  | cleanStart | context | edits | validation | changes | acceptance
  | restoreHead | restoreBaseline | restoredHead | restoredChanges
  deriving DecidableEq, Repr

/-- A command that changes the workspace and fails, with the changes it has made. -/
abbrev CommandFault := Option (List FileUpdate × ReadFault)

structure ProviderEnvironment where
  host : Host
  settings : ProviderSettings
  workspace : String
  workspaceIsDirectory : Bool
  insideAllowedRoots : Bool
  checkout : Checkout
  directories : String → Bool
  commands : Commands
  writes : WriteFaults
  fault : ProviderReading → Option ReadFault
  resetFault : CommandFault
  cleanFault : CommandFault
  response : Except ProviderExc Dict
  jsonLoads : String → Option Json
  elapsedMs : Nat
  resultFault : Option ProviderExc
  describe : WorkspaceExc → String

def gitFailure : WorkspaceExc → ProviderExc
  | .gitMutation _ message => verificationFailed message
  | error => .workspace error

def unsafePath : WorkspaceExc → ProviderExc
  | .gitMutation _ message => blockedBy "UNSAFE_FILE_PATH" message
  | error => .workspace error

def acceptanceFailure : WorkspaceExc → ProviderExc
  | .acceptance _ message => verificationFailed message
  | error => .workspace error

def fileFailureClass (code : String) : String :=
  if code = "INVALID_REPOSITORY_PATH" then "UNSAFE_FILE_PATH"
  else if code = "DUPLICATE_FILE_CONTENT" then "MUTATION_SCOPE_VIOLATION"
  else if code = "UNAUTHORIZED_FILE_CONTENT" then "MUTATION_SCOPE_VIOLATION"
  else if code = "MALFORMED_FILE_CONTENT" then "MALFORMED_FILE_CHANGE"
  else if code = "FILE_CONTENT_TOO_LARGE" then "FILE_CHANGE_TOO_LARGE"
  else "DETERMINISTIC_MUTATION_VERIFICATION_FAILED"

def fileFailure : WorkspaceExc → ProviderExc
  | .gitMutation code message => blockedBy (fileFailureClass code) message
  | error => .workspace error

def validateWorkspace (env : ProviderEnvironment) (request : RuntimeExecutionRequest) :
    Except ProviderExc Unit :=
  if request.isolationMode ≠ "ISOLATED_WORKTREE" then
    .error (blockedBy "UNSUPPORTED_ISOLATION_MODE" "Ollama provider requires ISOLATED_WORKTREE.")
  else if !env.workspaceIsDirectory then
    .error (blockedBy "MISSING_ISOLATED_WORKSPACE" ("Workspace does not exist: " ++ env.workspace))
  else if !env.insideAllowedRoots then
    .error (blockedBy "WORKSPACE_OUTSIDE_ALLOWED_ROOTS"
      ("Workspace is outside allowed roots: " ++ env.workspace))
  else .ok ()

def noMutationPaths : ProviderExc :=
  blockedBy "MUTATION_SCOPE_VIOLATION" "Mutation request has no authorized frozen mutation paths."

def gitChangedPaths (fault : Option ReadFault) (checkout : Checkout) (files : Files) :
    Except ProviderExc (List String) :=
  (changedPaths fault checkout files).mapError gitFailure

def requireCleanStart (env : ProviderEnvironment) (request : RuntimeExecutionRequest)
    (files : Files) : Except ProviderExc Unit :=
  if request.allowedMutationPaths.isEmpty then .error noMutationPaths
  else do
    let preexisting ← gitChangedPaths (env.fault .cleanStart) env.checkout files
    if !preexisting.isEmpty then
      throw (verificationFailed ("Mutation workspace was not clean before execution: " ++
        ", ".intercalate preexisting))
    else return ()

/-- Whether a directory of the path, or the path itself, is a symbolic link. -/
def pathContainsSymlink (checkout : Checkout) (path : String) : Bool :=
  (parentsOf [] path.toList ++ [path]).any checkout.isLink

/-- The bytes at a mutation path; none where there is no file yet. -/
def mutationTarget (env : ProviderEnvironment) (files : Files) (path : String) :
    Except ProviderExc (Option Bytes) :=
  if pathContainsSymlink env.checkout path then
    .error (blockedBy "MUTATION_CONTEXT_SYMLINK_REJECTED"
      ("Authorized mutation path contains a symlink: " ++ path))
  else if (env.checkout.resolve path).isNone then
    .error (blockedBy "UNSAFE_FILE_PATH" ("Path escapes workspace: " ++ path))
  else
    match files.lookup path with
    | some bytes =>
      if env.settings.maxContextFileBytes < bytes.length then
        .error (blockedBy "MUTATION_CONTEXT_FILE_TOO_LARGE"
          ("Authorized mutation context file too large: " ++ path))
      else .ok (some bytes)
    | none =>
      if isDirectory env.directories files path then
        .error (blockedBy "MUTATION_CONTEXT_FILE_NOT_REGULAR"
          ("Authorized mutation path is not a regular file: " ++ path))
      else .ok none

def decodeTarget (path : String) (bytes : Bytes) : Except ProviderExc Text :=
  if validUtf8 bytes then .ok bytes
  else
    .error (blockedBy "MUTATION_CONTEXT_FILE_NOT_UTF8"
      ("Authorized mutation path is not valid UTF-8: " ++ path))

structure ContextFile where
  path : String
  content : Option Text
  bytes : Nat

def contextFiles (env : ProviderEnvironment) (files : Files) (seen : List String) (total : Nat) :
    List String → Except ProviderExc (List ContextFile)
  | [] => .ok []
  | rawPath :: rest => do
      let path ← (validateRelativeRepoPath (.str rawPath)).mapError unsafePath
      if path ∈ seen then
        throw (blockedBy "MUTATION_SCOPE_VIOLATION" ("Duplicate mutation context path: " ++ path))
      else
        match ← mutationTarget env files path with
        | none =>
          let later ← contextFiles env files (path :: seen) total rest
          return ⟨path, none, 0⟩ :: later
        | some bytes =>
          if env.settings.maxContextTotalBytes < total + bytes.length then
            throw (blockedBy "MUTATION_CONTEXT_TOTAL_TOO_LARGE"
              "Authorized mutation context total size exceeds configured limit.")
          else
            let content ← decodeTarget path bytes
            let later ← contextFiles env files (path :: seen) (total + bytes.length) rest
            return ⟨path, some content, bytes.length⟩ :: later

def readable (fault : Option ReadFault) : Except ProviderExc Unit :=
  (failing fault).mapError .workspace

def mutationFileContext (env : ProviderEnvironment) (request : RuntimeExecutionRequest)
    (files : Files) : Except ProviderExc (List ContextFile) :=
  if env.settings.maxFiles < request.allowedMutationPaths.length then
    .error (blockedBy "MUTATION_CONTEXT_TOO_MANY_FILES"
      ("Mutation context exceeds max authorized files: " ++
        toString request.allowedMutationPaths.length ++ " > " ++ toString env.settings.maxFiles ++ "."))
  else do
    readable (env.fault .context)
    contextFiles env files [] 0 request.allowedMutationPaths

def optionalInt : Json → Option Int
  | .int value => some value
  | .bool value => some (if value then 1 else 0)
  | _ => none

/-- The text from the first opening brace to the last closing one. -/
def braced (chars : List Char) : Option (List Char) :=
  let opened := chars.dropWhile (fun char => decide (char ≠ '\x7b'))
  let closed := (opened.reverse.dropWhile (fun char => decide (char ≠ '\x7d'))).reverse
  if closed.isEmpty then none else some closed

/-- The counts of a response as an error text lists them. -/
def responseCounts (body : Dict) (raw : String) (numPredict : Option Nat) : String :=
  "(eval_count=" ++ (if (optionalInt (body.get "eval_count")).isSome then
      (body.get "eval_count").pyStr else "None") ++
    (match numPredict with
      | some limit => ", num_predict=" ++ toString limit
      | none => "") ++
    ", done=" ++ (body.get "done").pyStr ++ ", done_reason=" ++ (body.get "done_reason").pyRepr ++
    ", response_chars=" ++ toString raw.length ++ ")."

def likelyTruncated (body : Dict) (numPredict : Nat) : Bool :=
  (match body.get "done" with
    | .bool false => true
    | _ => false) || (body.get "done_reason").isStr "length" ||
    (optionalInt (body.get "eval_count")).any (fun count => decide ((numPredict : Int) ≤ count))

def malformedJson (message : String) : ProviderExc := blockedBy "MALFORMED_OLLAMA_JSON" message

def loadedPayload (jsonLoads : String → Option Json) (body : Dict) (raw : String) (numPredict : Nat) :
    Except ProviderExc Json :=
  match jsonLoads raw with
  | some payload => .ok payload
  | none =>
    if likelyTruncated body numPredict then
      .error (.blocked "OLLAMA_OUTPUT_TRUNCATED"
        ("Ollama output ended before valid JSON completed " ++
          responseCounts body raw (some numPredict)) .retryableOrFailoverable)
    else
      match braced raw.toList with
      | none =>
        .error (malformedJson ("Ollama response was not valid JSON " ++
          responseCounts body raw none))
      | some inner =>
        match jsonLoads (String.ofList inner) with
        | some payload => .ok payload
        | none =>
          .error (malformedJson ("Ollama response contained malformed JSON " ++
            responseCounts body raw none))

def parseModelPayload (jsonLoads : String → Option Json) (body : Dict) (numPredict : Nat) :
    Except ProviderExc Dict :=
  match body.get "response" with
  | .str raw => do
      match ← loadedPayload jsonLoads body raw numPredict with
      | .obj members => return members
      | _ => throw (malformedJson "Ollama JSON response must be an object.")
  | _ => .error (blockedBy "MALFORMED_OLLAMA_RESPONSE" "Ollama response missing text payload.")

/-- How often a text occurs in another, no two occurrences overlapping. The number is
that of the bytes still to be passed over. -/
def countFrom (old : Text) : Nat → Text → Nat
  | _, [] => 0
  | skip + 1, _ :: rest => countFrom old skip rest
  | 0, byte :: rest =>
    if old.isPrefixOf (byte :: rest) then countFrom old (old.length - 1) rest + 1
    else countFrom old 0 rest

def replaceFirst (old new : Text) : Text → Text
  | [] => []
  | byte :: rest =>
    if old.isPrefixOf (byte :: rest) then new ++ (byte :: rest).drop old.length
    else byte :: replaceFirst old new rest

structure CompactEdit where
  path : String
  old : Text
  new : Text

structure EditedFile where
  path : String
  working : Text
  original : Text
  existed : Bool

def malformedChange (message : String) : ProviderExc := blockedBy "MALFORMED_FILE_CHANGE" message

def targetMismatch (message : String) : ProviderExc :=
  blockedBy "COMPACT_EDIT_TARGET_MISMATCH" message

def tooManyChanges (message : String) : ProviderExc := blockedBy "TOO_MANY_FILE_CHANGES" message

def compactEditKeys : List String := ["path", "old", "new"]

def parseEdit (edit : Json) : Except ProviderExc CompactEdit :=
  match edit with
  | .obj members =>
    if !(members.all (fun entry => decide (entry.1 ∈ compactEditKeys)) &&
        compactEditKeys.all (Dict.has members)) then
      .error (malformedChange "Each compact edit must contain exactly path, old, and new.")
    else
      match Dict.get members "path", Dict.get members "old", Dict.get members "new" with
      | .str path, .str old, .str new => .ok ⟨path, utf8 old, utf8 new⟩
      | _, _, _ =>
        .error (malformedChange "Compact edit path, old, and new values must be strings.")
  | _ => .error (malformedChange "Each compact edit must contain exactly path, old, and new.")

/-- The file as the first edit of its path finds it. -/
def openEdited (env : ProviderEnvironment) (files : Files) (edited : List EditedFile)
    (path : String) : Except ProviderExc EditedFile :=
  if env.settings.maxFiles ≤ edited.length then
    .error (tooManyChanges "Compact edits exceeded max distinct changed files.")
  else do
    match ← mutationTarget env files path with
    | none => return ⟨path, [], [], false⟩
    | some bytes =>
      let content ← decodeTarget path bytes
      return ⟨path, content, content, true⟩

def editFile (file : EditedFile) (edit : CompactEdit) : Except ProviderExc EditedFile :=
  if !file.existed then
    if edit.old ≠ [] then
      .error (targetMismatch ("New file compact edit requires empty old content: " ++ file.path))
    else .ok { file with working := edit.new, existed := true }
  else if edit.old = [] then
    .error (targetMismatch
      ("Existing file compact edit requires non-empty old content: " ++ file.path))
  else if edit.old = edit.new then
    .error (blockedBy "NO_EFFECT_COMPACT_EDIT"
      ("Compact edit would not change file content: " ++ file.path))
  else if countFrom edit.old 0 file.working ≠ 1 then
    .error (targetMismatch ("Compact edit old content must match exactly once in " ++ file.path ++
      "; matched " ++ toString (countFrom edit.old 0 file.working) ++ " times."))
  else .ok { file with working := replaceFirst edit.old edit.new file.working }

def putEdited (edited : List EditedFile) (file : EditedFile) : List EditedFile :=
  edited.map (fun other => if other.path = file.path then file else other)

def applyCompactEdit (env : ProviderEnvironment) (files : Files) (authorized : List String)
    (edited : List EditedFile) (edit : Json) : Except ProviderExc (List EditedFile) := do
  let parsed ← parseEdit edit
  let path ← (validateRelativeRepoPath (.str parsed.path)).mapError unsafePath
  if path ∉ authorized then
    throw (blockedBy "MUTATION_SCOPE_VIOLATION"
      ("Compact edit path is outside authorized mutation scope: " ++ path))
  else
    match edited.find? (fun file => decide (file.path = path)) with
    | some file => return putEdited edited (← editFile file parsed)
    | none =>
      let file ← openEdited env files edited path
      return edited ++ [← editFile file parsed]

def noFileChanges (message : String) : ProviderExc := blockedBy "NO_FILE_CHANGES" message

def materializeCompactEdits (env : ProviderEnvironment) (files : Files) (edits : Json)
    (allowedMutationPaths : List String) : Except ProviderExc (List FileItem) :=
  match edits with
  | .arr (first :: rest) =>
    if env.settings.maxFiles * 8 < rest.length + 1 then
      .error (tooManyChanges "Ollama response exceeded max compact edits.")
    else if allowedMutationPaths.isEmpty then .error noMutationPaths
    else do
      let edited ← (first :: rest).foldlM (applyCompactEdit env files allowedMutationPaths) []
      let changed := edited.filter (fun file => decide (file.working ≠ file.original))
      if changed.isEmpty then
        throw (blockedBy "NO_EFFECT_COMPACT_EDIT"
          "Compact edits produced no effective file changes.")
      else return changed.map (fun file => .item (.str file.path) (some file.working))
  | _ => .error (noFileChanges "Ollama response did not contain compact edits.")

def fileItem : Json → FileItem
  | .obj members =>
    .item (Dict.get members "path")
      (match Dict.get members "content" with
        | .str content => some (utf8 content)
        | _ => none)
  | _ => .malformed

/-- The files of a response: those its edits make, or those it lists. -/
def changedFiles (env : ProviderEnvironment) (files : Files) (payload : Dict)
    (allowedMutationPaths : List String) : Except ProviderExc (List FileItem) :=
  if (payload.get "edits").isNull then
    match payload.get "files" with
    | .arr elements => .ok (elements.map fileItem)
    | _ => .ok []
  else
    match payload.get "files" with
    | .null => materializeCompactEdits env files (payload.get "edits") allowedMutationPaths
    | .arr [] => materializeCompactEdits env files (payload.get "edits") allowedMutationPaths
    | _ =>
      .error (malformedChange
        "Ollama response must not mix compact edits with full-file changes.")

def validatedChanges (env : ProviderEnvironment) (files : Files) (payload : Dict)
    (allowedMutationPaths : List String) : Except ProviderExc (List ValidatedFileContent) := do
  readable (env.fault .edits)
  let items ← changedFiles env files payload allowedMutationPaths
  if items.isEmpty then throw (noFileChanges "Ollama response did not contain file changes.")
  else if env.settings.maxFiles < items.length then
    throw (tooManyChanges "Ollama response exceeded max file changes.")
  else if allowedMutationPaths.isEmpty then throw noMutationPaths
  else
    (validateFileContents (env.fault .validation) env.checkout allowedMutationPaths
      (some env.settings.maxFileBytes) items).mapError fileFailure

/-- All files are validated before the first is written. -/
def applyFileChanges (env : ProviderEnvironment) (payload : Dict)
    (allowedMutationPaths : List String) : ProviderWork (List WrittenFile) := do
  let files ← Journal.read
  let validated ← Journal.ofExcept (validatedChanges env files payload allowedMutationPaths)
  (writeValidatedFileContents env.host env.writes validated).mapError .workspace

def scopeDetails (unauthorized missing : List String) : String :=
  "; ".intercalate
    ((if unauthorized.isEmpty then []
      else ["unauthorized changed paths: " ++ ", ".intercalate unauthorized]) ++
    (if missing.isEmpty then []
      else ["provider-reported writes absent from git changes: " ++ ", ".intercalate missing]))

/-- Git observes changes of authorized paths only, and all the writes. -/
def verifyScope (env : ProviderEnvironment) (request : RuntimeExecutionRequest)
    (written : List WrittenFile) (files : Files) : Except ProviderExc Unit := do
  let actual ← gitChangedPaths (env.fault .changes) env.checkout files
  let unauthorized := sortedBy id (actual.filter (· ∉ request.allowedMutationPaths))
  let missing := sortedBy id ((written.map (·.path)).filter (· ∉ actual))
  if !unauthorized.isEmpty || !missing.isEmpty then
    throw (verificationFailed (scopeDetails unauthorized missing))
  else return ()

def verifyAcceptance (env : ProviderEnvironment) (request : RuntimeExecutionRequest) :
    ProviderWork (List Verification) :=
  Journal.mapError acceptanceFailure (do
    let checks ← Journal.ofExcept (normalizeDeterministicAcceptanceChecks
      request.allowedMutationPaths (.arr (request.deterministicAcceptanceChecks.map .obj)))
    verifyDeterministicAcceptance (env.fault .acceptance) env.commands env.checkout checks)

/-- The quotient of two integers is a float, which has a largest value. -/
def quotientOverflows (numerator : Int) : Bool :=
  decide ((2 ^ 1024 - 2 ^ 970) * 1000000 ≤ numerator.natAbs)

def latencyMs (env : ProviderEnvironment) (body : Dict) : Except ProviderExc Nat :=
  match optionalInt (body.get "total_duration") with
  | some total =>
    if quotientOverflows total then
      .error (.other "integer division result too large for a float")
    else .ok (total / 1000000).toNat
  | none => .ok env.elapsedMs

def completedResult (env : ProviderEnvironment) (body payload : Dict) (written : List WrittenFile) :
    Except ProviderExc RuntimeExecutionResult := do
  let latency ← latencyMs env body
  match env.resultFault with
  | some error => throw error
  | none =>
    return {
      status := .completed
      mutationSummary := ((payload.get "summary").orElse
        (.str "Ollama provider applied bounded file changes.")).pyStr
      outputArtifactRefs := written
      latencyMs := some latency
      inputTokens := optionalInt (body.get "prompt_eval_count")
      outputTokens := optionalInt (body.get "eval_count") }

/-- The edits, and the evidence that they are within the scope and accepted. -/
def mutateWorkspace (env : ProviderEnvironment) (request : RuntimeExecutionRequest)
    (body payload : Dict) : ProviderWork RuntimeExecutionResult := do
  let written ← applyFileChanges env payload request.allowedMutationPaths
  let files ← Journal.read
  Journal.ofExcept (verifyScope env request written files)
  let _ ← verifyAcceptance env request
  Journal.ofExcept (completedResult env body payload written)

def runCommand (fault : CommandFault) (updates : List FileUpdate) : FileWork Unit :=
  match fault with
  | none => .made updates
  | some (left, .git _ message) =>
    .report (left, .error (.gitMutation "RESTORE_FAILED"
      (if message = "" then "Unable to restore repository." else message)))
  | some (left, other) => .report (left, .error other.exc)

/-- `git reset --hard` writes the files of the commit. -/
def resetUpdates (checkout : Checkout) : List FileUpdate :=
  checkout.tree.keys.flatMap (baselineUpdate checkout)

/-- `git clean -fd` removes the files that are neither tracked nor ignored. -/
def cleanUpdates (checkout : Checkout) (files : Files) : List FileUpdate :=
  (checkout.others files).map (fun path => (path, none))

def assertClean (fault : Option ReadFault) (checkout : Checkout) (files : Files) :
    Except WorkspaceExc Unit := do
  let paths ← changedPaths fault checkout files
  if !paths.isEmpty then
    throw (.gitMutation "REPOSITORY_DIRTY" ("Repository is not clean: " ++ ", ".intercalate paths))
  else return ()

def verifyRestored (env : ProviderEnvironment) (baselineCommit : String) (files : Files) :
    Except WorkspaceExc Unit := do
  let head ← currentHead (env.fault .restoredHead) env.checkout
  if head ≠ baselineCommit then
    throw (.gitMutation "RESTORE_HEAD_MISMATCH" ("Repository HEAD " ++ head ++
      " does not match baseline " ++ baselineCommit ++ "."))
  else assertClean (env.fault .restoredChanges) env.checkout files

def restoreToBaseline (env : ProviderEnvironment) (baselineCommit : String) : FileWork Unit := do
  Journal.ofExcept (exactCommit (env.fault .restoreBaseline) env.checkout baselineCommit)
  runCommand env.resetFault (resetUpdates env.checkout)
  let reset ← Journal.read
  runCommand env.cleanFault (cleanUpdates env.checkout reset)
  let restored ← Journal.read
  Journal.ofExcept (verifyRestored env baselineCommit restored)

def restoreCleanWorkspace (env : ProviderEnvironment) : ProviderWork Unit :=
  Journal.mapError gitFailure (do
    let head ← Journal.ofExcept (currentHead (env.fault .restoreHead) env.checkout)
    restoreToBaseline env head)

def failedResult (failureClass message : String) (retryability : RuntimeRetryability) :
    RuntimeExecutionResult where
  status := .failed
  mutationSummary := message
  retryability := retryability
  failureClass := some failureClass

/-- The result of a call that an exception ended. -/
def failureOf (env : ProviderEnvironment) : ProviderExc → RuntimeExecutionResult
  | .blocked failureClass message retryability => failedResult failureClass message retryability
  | .timeout message => failedResult "PROVIDER_TIMEOUT" message .retryableOrFailoverable
  | .url message timedOut =>
    failedResult (if timedOut then "PROVIDER_TIMEOUT" else "OLLAMA_UNAVAILABLE") message
      .retryableOrFailoverable
  | .workspace error => failedResult "OLLAMA_PROVIDER_ERROR" (env.describe error) .nonRetryable
  | .other message => failedResult "OLLAMA_PROVIDER_ERROR" message .nonRetryable

/-- Everything up to the model's parsed answer. -/
def answered (env : ProviderEnvironment) (request : RuntimeExecutionRequest) (files : Files) :
    Except ProviderExc (Dict × Dict) := do
  validateWorkspace env request
  requireCleanStart env request files
  let _ ← mutationFileContext env request files
  let body ← env.response
  let payload ← parseModelPayload env.jsonLoads body env.settings.mutationNumPredict
  return (body, payload)

def rollbackFailed (message rollbackMessage : String) : RuntimeExecutionResult :=
  failedResult "DETERMINISTIC_MUTATION_VERIFICATION_FAILED"
    (message ++ "; mutation rollback failed: " ++ rollbackMessage) .nonRetryable

/-- Only a blocked mutation is rolled back. -/
def mutationFailure (env : ProviderEnvironment) : ProviderExc → ProviderWork RuntimeExecutionResult
  | .blocked failureClass message retryability => do
      match ← Journal.attempt (restoreCleanWorkspace env) with
      | .ok () => return failedResult failureClass message retryability
      | .error (.blocked _ rollbackMessage _) => return rollbackFailed message rollbackMessage
      | .error other => Journal.ofExcept (.error other)
  | error => return failureOf env error

def invoke (env : ProviderEnvironment) (request : RuntimeExecutionRequest) :
    ProviderWork RuntimeExecutionResult := do
  let files ← Journal.read
  match answered env request files with
  | .error error => return failureOf env error
  | .ok (body, payload) =>
    match ← Journal.attempt (mutateWorkspace env request body payload) with
    | .ok result => return result
    | .error error => mutationFailure env error

end Lucius.Ollama
