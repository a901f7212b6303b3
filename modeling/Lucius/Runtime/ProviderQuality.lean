import Lucius.Runtime.SchemaConstraints

/-! What evidence-sensitive output of a provider has to satisfy: its evidence references
are authorized ones, and its figures are classified and sourced. Letters and digits
are those of ASCII. -/

namespace Lucius.Router

open Worktree

def claimClassifications : List String :=
  ["FACT", "DERIVED_VALUE", "ASSUMPTION", "PROPOSED_PARAMETER", "UNKNOWN"]

def evidenceSensitiveTerms : List String :=
  ["evidence", "protocol", "profitability", "backtest", "oos", "out-of-sample", "walk-forward",
    "paper validation", "paper-validation", "capital", "notional", "strategy"]

def provenanceIdentifierContextTerms : List String :=
  ["artifact", "audit", "checksum", "commit", "digest", "freeze", "hash", "id", "identifier",
    "manifest", "plan", "repository", "repo", "revision", "sha", "snapshot", "task", "version",
    "workflow"]

def sourceTerms : List String :=
  ["source", "evidence", "verified", "commit", "schema", "code", "artifact", "path", "repository",
    "from ", "per "]

def structuralNumericKeys : List String :=
  ["categorized_count", "schema_version", "total_statements", "total_items", "total_records",
    "total_sections", "validation_count"]

namespace Patterns

open Pattern

def digit : Pattern := one Char.isDigit

def isHex (char : Char) : Bool :=
  char.isDigit || (('a' ≤ char && char ≤ 'f') || ('A' ≤ char && char ≤ 'F'))

def hex : Pattern := one isHex

def alphanumeric : Pattern := one Char.isAlphanum

def space : Pattern := one Json.isSpace

def fraction : Pattern := sequence [one (· = '.'), atLeast 1 digit]

def date : Pattern :=
  sequence [times 4 digit, one (· = '-'), times 2 digit, one (· = '-'), times 2 digit]

def amount : Pattern :=
  sequence [optional (one (· = '$')), atLeast 1 digit,
    many (sequence [one (· = ','), times 3 digit]), optional fraction, optional (one (· = '%'))]

def factor : Pattern := sequence [atLeast 1 digit, one (· = 'x')]

def quantitative : Pattern :=
  sequence [notAfter isWordChar, either date (either amount (either factor (atLeast 8 hex))),
    notBefore isWordChar]

def canonicalEvidenceReference : Pattern :=
  sequence [boundary isWordChar,
    either (sequence [literal "LEVID_", times 6 digit])
      (sequence [literal "LPLAN_", times 6 digit, literal "_EVIDENCE_", between 3 6 digit]),
    boundary isWordChar]

def isKeyStart (char : Char) : Bool := char.isAlpha || char = '_'

def isKeyChar (char : Char) : Bool := isWordChar char || char = '-'

def structuralJsonCounter : Pattern :=
  sequence [many space, optional (one (· = '"')), one isKeyStart, many (one isKeyChar),
    optional (one (· = '"')), many space, one (· = ':'), many space, atLeast 1 digit,
    optional fraction, many space, optional (one (· = ',')), many space]

def uuid : Pattern :=
  sequence [times 8 hex, one (· = '-'), times 4 hex, one (· = '-'), times 4 hex, one (· = '-'),
    times 4 hex, one (· = '-'), times 12 hex]

def longHex : Pattern := between 8 128 hex

def versionToken : Pattern :=
  sequence [optional (one (fun char => char = 'v' || char = 'V')), atLeast 1 digit, many fraction,
    many (sequence [one (fun char => char = '-' || char = '_'), atLeast 1 alphanumeric])]

end Patterns

def within (needle : String) (chars : List Char) : Bool :=
  chars.tails.any (fun tail => needle.toList.isPrefixOf tail)

def lowered (chars : List Char) : List Char := chars.map Char.toLower

def isEvidenceSensitive (request : RuntimeExecutionRequest) : Bool :=
  (request.contextLimits.get "evidence_sensitive").isTrue ||
    mentionsTerm (intent request) evidenceSensitiveTerms
where
  intent (request : RuntimeExecutionRequest) : List Char :=
    lowered (" ".intercalate [request.taskIntent, request.logicalTaskId,
      " ".intercalate request.requiredCapabilities]).toList
  mentionsTerm (text : List Char) (terms : List String) : Bool :=
    terms.any (fun term => within term text)

def filePaths (entry : Dict) : List String :=
  match entry.get "files" with
  | .arr elements => elements.filterMap (fun element =>
    match element with
    | .obj members => (Dict.get members "path").text?
    | _ => none)
  | _ => []

def writtenPaths (result : RuntimeExecutionResult) : List String :=
  ((result.outputArtifactRefs ++ result.evidence).flatMap (fun entry =>
    (entry.get "path").text?.toList ++ filePaths entry)).eraseDups

/-- The suffix of the last part of a path. -/
def suffixOf (path : String) : List Char :=
  let name := (pathParts path).getLastD []
  let ending := (name.reverse.takeWhile (· ≠ '.')).reverse
  if ending.length + 1 < name.length ∧ ending ≠ [] then '.' :: ending else []

def isTextPath (path : String) : Bool :=
  decide (String.ofList (lowered (suffixOf path)) ∈ [".md", ".txt", ".json", ".yaml", ".yml", ".csv"])

def isLineBreak (char : Char) : Bool :=
  decide (char.toNat ∈ [10, 11, 12, 13, 28, 29, 30, 133, 8232, 8233])

/-- The lines of a text; the last one need not be ended. -/
def splitLinesFrom (line : List Char) : List Char → List (List Char)
  | [] => if line.isEmpty then [] else [line.reverse]
  | char :: rest =>
    if isLineBreak char then line.reverse :: splitLinesFrom [] rest
    else splitLinesFrom (char :: line) rest

/-- The key of a counter line. -/
def counterKey (line : List Char) : String :=
  let start := line.dropWhile Json.isSpace
  String.ofList (((if start.head? = some '"' then start.drop 1 else start).takeWhile
    Patterns.isKeyChar).map Char.toLower)

def isStructuralJsonCounter (line : List Char) : Bool :=
  Patterns.structuralJsonCounter.fullMatch line && decide (counterKey line ∈ structuralNumericKeys)

def tokenMargin : List Char :=
  [Char.ofNat 96, '\'', '"', '.', ',', ';', ':', '(', ')', '[', ']', '\x7b', '\x7d']

def stripChars (margin chars : List Char) : List Char :=
  ((chars.dropWhile (· ∈ margin)).reverse.dropWhile (· ∈ margin)).reverse

def hasIdentifierContext (context : List Char) : Bool :=
  provenanceIdentifierContextTerms.any (fun term => (wholeWord term).search context)

/-- Whether the token is a number followed by `x`, one point being allowed in it. -/
def isFactorToken (token : List Char) : Bool :=
  let front := token.dropLast
  let digits := front.takeWhile (· ≠ '.') ++ (front.dropWhile (· ≠ '.')).drop 1
  (lowered token).getLast? = some 'x' && !digits.isEmpty && digits.all Char.isDigit

def isProvenanceIdentifierToken (line : List Char) (found : Pattern.Found) : Bool :=
  let token := stripChars tokenMargin (found.text line)
  let before := lowered (line.take found.start)
  let after := lowered (line.drop (found.start + found.length))
  let context := before.drop (before.length - 48) ++ [' '] ++ after.take 24
  if token.isEmpty then true
  else if token.head? = some '$' || token.getLast? = some '%' then false
  else if isFactorToken token then false
  else if Patterns.uuid.fullMatch token then true
  else if Patterns.longHex.fullMatch token && token.any Char.isAlpha then true
  else if hasIdentifierContext context then true
  else if Patterns.versionToken.fullMatch token then
    within "version" context || within "v" (lowered token)
  else false

def hasClaimQuantity (line : List Char) : Bool :=
  !isStructuralJsonCounter line &&
    (Patterns.quantitative.findAll line).any (fun found => !isProvenanceIdentifierToken line found)

/-- The first classification named by a line, in the order in which they are tried. -/
def lineClassification (classifications : List String) (line : List Char) : Option String :=
  classifications.find? (fun name => (wholeWord name).search (line.map Char.toUpper))

def hasSource (line : List Char) : Bool := sourceTerms.any (fun term => within term (lowered line))

def recordReferences : Json → List String
  | .obj members => ["id", "reference", "evidence_reference"].filterMap
      (fun key => (Dict.get members key).text?)
  | .str record => [record]
  | _ => []

def listed : Json → List Json
  | .arr elements => elements
  | _ => []

def allowedEvidenceRefs (request : RuntimeExecutionRequest) : List String :=
  request.releaseEvidenceRefs ++
    ["allowed_evidence_refs", "authorized_evidence_refs"].flatMap
      (fun key => (listed (request.contextLimits.get key)).map Json.pyStr) ++
    (listed (request.contextLimits.get "evidence_records")).flatMap recordReferences

def canonicalEvidenceReferences (line : List Char) : List String :=
  ((Patterns.canonicalEvidenceReference.findAll line).map
    (fun found => String.ofList (found.text line))).eraseDups

def lineIssue (path : String) (number : Nat) (reason : String) (details : Dict) : Dict :=
  [("path", .str path), ("line", .int number), ("reason", .str reason)] ++ details

def unauthorizedReference (reference : String) : String × Json :=
  ("evidence_reference", .str reference)

/-- The issue of the figures of a line, if there is one. -/
def quantityIssue (env : GateEnvironment) (allowed : List String) (required : Bool) (path : String)
    (number : Nat) (line : List Char) : List Dict :=
  match lineClassification env.classifications line with
  | none => [lineIssue path number "QUANTITATIVE_CLAIM_MISSING_CLASSIFICATION"
      [("required_classifications", Json.ofTexts (sortedBy id claimClassifications))]]
  | some classification =>
    let references := canonicalEvidenceReferences line
    if classification ≠ "FACT" ∧ classification ≠ "DERIVED_VALUE" then []
    else if !hasSource line then
      [lineIssue path number "FACT_OR_DERIVED_VALUE_MISSING_EVIDENCE_REFERENCE"
        [("classification", .str classification)]]
    else if required && !(!references.isEmpty && references.all (· ∈ allowed)) then
      [lineIssue path number "FACT_OR_DERIVED_VALUE_MISSING_ALLOWED_EVIDENCE_REFERENCE"
        [("classification", .str classification)]]
    else []

def lineIssues (env : GateEnvironment) (allowed : List String) (required : Bool) (path : String)
    (number : Nat) (line : List Char) : List Dict :=
  let stripped := Json.strip line
  ((canonicalEvidenceReferences stripped).filter (· ∉ allowed)).map (fun reference =>
    lineIssue path number "FABRICATED_OR_UNAUTHORIZED_EVIDENCE_REFERENCE"
      [unauthorizedReference reference]) ++
  (if hasClaimQuantity stripped then quantityIssue env allowed required path number stripped else [])

def writtenFileIssues (env : GateEnvironment) (allowed : List String) (required : Bool)
    (files : Files) : List String → Except PyExc (List Dict)
  | [] => .ok []
  | path :: rest => do
      let here ← match (env.checkout.resolve path).filter (fun location =>
          isTextPath path && ((files.lookup location).isSome ||
            isDirectory env.directories files location)) with
        | none => .ok []
        | some location => do
            let text ← readText files location
            pure (((splitLinesFrom [] (decoded text)).zipIdx 1).flatMap
              (fun numbered => lineIssues env allowed required path numbered.2 numbered.1))
      return here ++ (← writtenFileIssues env allowed required files rest)

mutual

/-- The fields of a value that name evidence, with where they are. -/
def evidenceReferenceFields (path : String) : Json → List (String × Json)
  | .obj members => memberReferenceFields path members
  | .arr elements => elementReferenceFields path 0 elements
  | _ => []

def memberReferenceFields (path : String) : List (String × Json) → List (String × Json)
  | [] => []
  | (key, item) :: rest =>
    let here := path ++ "." ++ key
    (if lower key = "evidence_reference" ∨ lower key = "evidence_references" then [(here, item)]
      else []) ++ evidenceReferenceFields here item ++ memberReferenceFields path rest

def elementReferenceFields (path : String) (index : Nat) : List Json → List (String × Json)
  | [] => []
  | item :: rest =>
    evidenceReferenceFields (path ++ "[" ++ toString index ++ "]") item ++
      elementReferenceFields path (index + 1) rest

end

def textElements : List Json → Option (List String)
  | [] => some []
  | .str text :: rest => (textElements rest).map (text :: ·)
  | _ :: _ => none

def malformedReference (path : String) : Dict :=
  [("path", .str path), ("reason", .str "MALFORMED_EVIDENCE_REFERENCE_FIELD"),
    ("expected", .str "string or list[string]")]

def referenceIssues (allowed : List String) (path : String) (references : List String) : List Dict :=
  (references.filter (· ∉ allowed)).map (fun reference =>
    [("path", .str path), ("reason", .str "FABRICATED_OR_UNAUTHORIZED_EVIDENCE_REFERENCE"),
      unauthorizedReference reference])

def fieldIssues (allowed : List String) (required : Bool) (field : String × Json) : List Dict :=
  match field.2 with
  | .str reference => referenceIssues allowed field.1 [reference]
  | .arr elements =>
    match textElements elements with
    | some references => referenceIssues allowed field.1 references
    | none => [malformedReference field.1]
  | .null => if required then [malformedReference field.1] else []
  | _ => [malformedReference field.1]

def payloadFields (result : RuntimeExecutionResult) : Json :=
  .obj [("evidence", objects result.evidence), ("verification", objects result.verification),
    ("documentation", objects result.documentation),
    ("provider_error_metadata", .obj result.providerErrorMetadata)]

/-- A claim of the provider names its evidence. -/
def unsupportedClaim (evidence : Dict) : Bool :=
  (evidence.get "type").isStr "provider_claim" && !(evidence.get "evidence_reference").truthy &&
    !(evidence.get "evidence_references").truthy

def evidenceReferenceIssuesFromPayload (result : RuntimeExecutionResult) (allowed : List String)
    (required : Bool) : List Dict :=
  (evidenceReferenceFields "$" (payloadFields result)).flatMap (fieldIssues allowed required) ++
    (if required then (result.evidence.filter unsupportedClaim).map (fun _ =>
      [("path", .str "evidence"), ("reason", .str "MISSING_REQUIRED_EVIDENCE_REFERENCE")])
    else [])

def evidenceSensitiveProviderQualityIssues (env : GateEnvironment) (request : RuntimeExecutionRequest)
    (result : RuntimeExecutionResult) (files : Files) : Except PyExc (List Dict) :=
  let required := (request.contextLimits.get "evidence_reference_validation_required").truthy
  let allowed := allowedEvidenceRefs request
  if !isEvidenceSensitive request && !required then .ok []
  else if !isEvidenceSensitive request then
    .ok (evidenceReferenceIssuesFromPayload result allowed required)
  else do
    let written ← writtenFileIssues env allowed required files (writtenPaths result)
    return evidenceReferenceIssuesFromPayload result allowed required ++ written

end Lucius.Router
