import Lucius.Domain.Json
import Lucius.Lib.Sorting
import Mathlib.Data.Prod.Lex
import Mathlib.Data.String.Basic

/-! The choice of a model for a request among the registered profiles. Costs are rationals;
the sets of capabilities are lists. -/

namespace Lucius.Models

inductive ProviderType where
  | local | openai | anthropic | google | custom
  deriving DecidableEq

def ProviderType.value : ProviderType → String
  | .local => "LOCAL"
  | .openai => "OPENAI"
  | .anthropic => "ANTHROPIC"
  | .google => "GOOGLE"
  | .custom => "CUSTOM"

/-- Also the status of a profile, whose enumeration has the same members. -/
inductive ProviderStatus where
  | active | paused | disabled
  deriving DecidableEq

def ProviderStatus.value : ProviderStatus → String
  | .active => "ACTIVE"
  | .paused => "PAUSED"
  | .disabled => "DISABLED"

inductive ModelCapability where
  | textGeneration | structuredOutput | codeReasoning | codeGeneration | planning | summarization
  | classification | longContext | toolUse | highReasoning | privateInference
  deriving DecidableEq

def ModelCapability.value : ModelCapability → String
  | .textGeneration => "TEXT_GENERATION"
  | .structuredOutput => "STRUCTURED_OUTPUT"
  | .codeReasoning => "CODE_REASONING"
  | .codeGeneration => "CODE_GENERATION"
  | .planning => "PLANNING"
  | .summarization => "SUMMARIZATION"
  | .classification => "CLASSIFICATION"
  | .longContext => "LONG_CONTEXT"
  | .toolUse => "TOOL_USE"
  | .highReasoning => "HIGH_REASONING"
  | .privateInference => "PRIVATE_INFERENCE"

inductive PrivacyClass where
  | «public» | internal | confidential | restricted
  deriving DecidableEq

def PrivacyClass.value : PrivacyClass → String
  | .public => "PUBLIC"
  | .internal => "INTERNAL"
  | .confidential => "CONFIDENTIAL"
  | .restricted => "RESTRICTED"

inductive CostClass where
  | free | low | medium | high | premium
  deriving DecidableEq

def CostClass.value : CostClass → String
  | .free => "FREE"
  | .low => "LOW"
  | .medium => "MEDIUM"
  | .high => "HIGH"
  | .premium => "PREMIUM"

inductive LatencyClass where
  | low | medium | high
  deriving DecidableEq

inductive ModelErrorCode where
  | modelNotFound | modelDisabled | providerUnavailable | capabilityUnavailable | privacyPolicyBlock
  | authorityBlock | unsafeRequest | costPolicyBlock | budgetExceeded | contextLimitExceeded
  | timeout | rateLimit | transientError | invalidResponse | structuredOutputInvalid
  | providerError | noEligibleModel
  deriving DecidableEq

def ModelErrorCode.value : ModelErrorCode → String
  | .modelNotFound => "MODEL_NOT_FOUND"
  | .modelDisabled => "MODEL_DISABLED"
  | .providerUnavailable => "PROVIDER_UNAVAILABLE"
  | .capabilityUnavailable => "CAPABILITY_UNAVAILABLE"
  | .privacyPolicyBlock => "PRIVACY_POLICY_BLOCK"
  | .authorityBlock => "AUTHORITY_BLOCK"
  | .unsafeRequest => "UNSAFE_REQUEST"
  | .costPolicyBlock => "COST_POLICY_BLOCK"
  | .budgetExceeded => "BUDGET_EXCEEDED"
  | .contextLimitExceeded => "CONTEXT_LIMIT_EXCEEDED"
  | .timeout => "TIMEOUT"
  | .rateLimit => "RATE_LIMIT"
  | .transientError => "TRANSIENT_ERROR"
  | .invalidResponse => "INVALID_RESPONSE"
  | .structuredOutputInvalid => "STRUCTURED_OUTPUT_INVALID"
  | .providerError => "PROVIDER_ERROR"
  | .noEligibleModel => "NO_ELIGIBLE_MODEL"

structure ModelProvider where
  id : Option String
  name : String
  providerType : ProviderType
  status : ProviderStatus := .active
  supportsLocal : Bool := false
  deriving DecidableEq

structure ModelProfile where
  id : Option String
  providerId : String
  modelName : String
  status : ProviderStatus := .active
  capabilities : List ModelCapability := []
  privacyClass : PrivacyClass := .public
  costClass : CostClass := .low
  latencyClass : LatencyClass := .medium
  qualityScore : Int := 0
  maxContextTokens : Option Int := none
  maxOutputTokens : Option Int := none
  inputCostPerMillion : Option Rat := none
  outputCostPerMillion : Option Rat := none
  deriving DecidableEq

structure ModelRequest where
  requestId : String
  requiredCapabilities : List ModelCapability := []
  privacyClass : PrivacyClass := .internal
  minimumQuality : Int := 0
  maxCostClass : Option CostClass := none
  maxEstimatedCost : Option Rat := none
  maxAttempts : Option Int := none
  preferredProvider : Option String := none
  preferredModel : Option String := none
  fallbackModelIds : List String := []
  inputMessages : List String := []
  structuredOutputSchema : Bool := false
  maxOutputTokens : Option Int := none
  fallbackAllowed : Bool := true
  metadata : Dict := []

structure RoutingRejection where
  providerId : Option String
  modelProfileId : Option String
  reason : ModelErrorCode
  message : String

structure RoutingDecision where
  requestId : String
  selectedProfileId : Option String := none
  fallbackProfileIds : List String := []
  reasons : List String := []
  rejected : List RoutingRejection := []
  errorCode : Option ModelErrorCode := none

/-! The policies a profile has to meet. -/

def privacyRank : PrivacyClass → Nat
  | .public => 0
  | .internal => 1
  | .confidential => 2
  | .restricted => 3

def costRank : CostClass → Nat
  | .free => 0
  | .low => 1
  | .medium => 2
  | .high => 3
  | .premium => 4

def latencyRank : LatencyClass → Nat
  | .low => 0
  | .medium => 1
  | .high => 2

def privacyAllows (model request : PrivacyClass) : Bool := privacyRank request ≤ privacyRank model

def costAllows (model : CostClass) : Option CostClass → Bool
  | none => true
  | some limit => costRank model ≤ costRank limit

def capabilitiesSatisfied (capabilities required : List ModelCapability) (supportsLocal : Bool) : Bool :=
  required.all fun capability =>
    (decide (capability = .privateInference) && supportsLocal) || decide (capability ∈ capabilities)

/-- A number given with the request; in Python a truth value is a number too. -/
def estimateRequestTokens (request : ModelRequest) : Json :=
  match request.metadata.get "context_tokens" with
  | .int tokens => .int tokens
  | .bool flag => .bool flag
  | _ =>
    let chars := (request.inputMessages.map String.length).sum
    .int (if chars = 0 then 0 else max 1 (chars / 4 : Nat))

def tokenCount : Json → Int
  | .int tokens => tokens
  | .bool true => 1
  | _ => 0

def estimateProfileCost (profile : ModelProfile) (inputTokens : Int) (outputTokens : Option Int) :
    Option Rat :=
  if profile.inputCostPerMillion.isNone && profile.outputCostPerMillion.isNone then none
  else
    some (profile.inputCostPerMillion.getD 0 * inputTokens / 1000000 +
      profile.outputCostPerMillion.getD 0 * outputTokens.getD 0 / 1000000)

/-- Eight decimals, a tie going to the even digit. -/
def costText (cost : Rat) : String :=
  let scaled := (if cost < 0 then -cost else cost) * 100000000
  let low := scaled.floor.toNat
  let rest := scaled - low
  let digits := if rest < 1 / 2 ∨ (rest = 1 / 2 ∧ low % 2 = 0) then low else low + 1
  let decimals := toString (digits % 100000000)
  (if cost < 0 then "-" else "") ++ toString (digits / 100000000) ++ "." ++
    String.ofList (List.replicate (8 - decimals.length) '0') ++ decimals

def idText (id : Option String) : String := id.getD "None"

def exceeds (value : Int) : Option Int → Option Int
  | some limit => if limit < value then some limit else none
  | none => none

def validateProfileForRequest (request : ModelRequest) (provider : ModelProvider)
    (profile : ModelProfile) : List RoutingRejection :=
  let rejection (reason : ModelErrorCode) (message : String) : List RoutingRejection :=
    [⟨provider.id, profile.id, reason, message⟩]
  let required := request.requiredCapabilities ++
    (if request.structuredOutputSchema then [.structuredOutput] else [])
  let contextTokens := estimateRequestTokens request
  let estimatedCost := estimateProfileCost profile (tokenCount contextTokens) request.maxOutputTokens
  (if provider.status ≠ .active then
    rejection .providerUnavailable s!"Provider {idText provider.id} is {provider.status.value}." else []) ++
  (if profile.status ≠ .active then
    rejection .modelDisabled s!"Model profile {idText profile.id} is {profile.status.value}." else []) ++
  (if !capabilitiesSatisfied profile.capabilities required provider.supportsLocal then
    rejection .capabilityUnavailable "Required capabilities are not satisfied." else []) ++
  (if !privacyAllows profile.privacyClass request.privacyClass then
    rejection .privacyPolicyBlock
      s!"{profile.privacyClass.value} model cannot process {request.privacyClass.value} request." else []) ++
  (if !costAllows profile.costClass request.maxCostClass then
    rejection .costPolicyBlock (profile.costClass.value ++ " exceeds max cost " ++
      (request.maxCostClass.map CostClass.value).getD "" ++ ".") else []) ++
  (match exceeds (tokenCount contextTokens) profile.maxContextTokens with
    | some limit => rejection .contextLimitExceeded
        s!"Estimated context {contextTokens.pyStr} exceeds limit {limit}."
    | none => []) ++
  (match request.maxOutputTokens with
    | none => []
    | some output =>
      match exceeds output profile.maxOutputTokens with
      | some limit => rejection .contextLimitExceeded s!"Requested output {output} exceeds limit {limit}."
      | none => []) ++
  (if profile.qualityScore < request.minimumQuality then
    rejection .capabilityUnavailable
      s!"Quality {profile.qualityScore} is below minimum {request.minimumQuality}." else []) ++
  (match request.maxEstimatedCost, estimatedCost with
    | some limit, some cost =>
      if limit < cost then
        rejection .budgetExceeded s!"Estimated cost {costText cost} exceeds request budget."
      else []
    | _, _ => [])

/-! Who is eligible, and in which order. -/

abbrev Candidate := ModelProfile × ModelProvider

/-- The profile with its provider, or why it is refused; of two providers of one id the last counts. -/
def judged (request : ModelRequest) (providers : List ModelProvider) (profile : ModelProfile) :
    Except (List RoutingRejection) Candidate :=
  match providers.reverse.find? (fun provider => decide (provider.id = some profile.providerId)) with
  | none => .error [⟨some profile.providerId, profile.id, .providerUnavailable,
      s!"Provider {profile.providerId} is not registered."⟩]
  | some provider =>
    match validateProfileForRequest request provider profile with
    | [] => .ok (profile, provider)
    | blockers => .error blockers

def eligibleOf (request : ModelRequest) (providers : List ModelProvider) (profiles : List ModelProfile) :
    List Candidate :=
  profiles.filterMap fun profile => (judged request providers profile).toOption

def rejectedOf (request : ModelRequest) (providers : List ModelProvider) (profiles : List ModelProfile) :
    List RoutingRejection :=
  profiles.flatMap fun profile =>
    match judged request providers profile with
    | .error blockers => blockers
    | .ok _ => []

abbrev SelectionKey := ℕ ×ₗ ℕ ×ₗ ℤ ×ₗ ℕ ×ₗ ℕ ×ₗ String

def selectionKey (request : ModelRequest) (pair : Candidate) : SelectionKey :=
  let (profile, provider) := pair
  toLex (if request.preferredModel ∈ [profile.id, some profile.modelName] then 0 else 1,
    toLex (if request.preferredProvider ∈
        [provider.id, some provider.name, some provider.providerType.value] then 0 else 1,
      toLex (if .highReasoning ∈ request.requiredCapabilities ∨ request.minimumQuality ≠ 0 then
          -profile.qualityScore else 0,
        toLex (costRank profile.costClass, toLex (latencyRank profile.latencyClass,
          if profile.id.getD "" = "" then profile.modelName else profile.id.getD "")))))

def isNamed (requested : String) (pair : Candidate) : Bool :=
  decide (pair.1.id = some requested ∨ pair.1.modelName = requested)

/-- The explicit chain so far, and what remains. -/
def takeNamed (chained : List Candidate × List Candidate) (requested : String) :
    List Candidate × List Candidate :=
  match chained.2.find? (isNamed requested) with
  | none => chained
  | some found => (chained.1 ++ [found], chained.2.erase found)

def orderEligible (request : ModelRequest) (eligible : List Candidate) : List Candidate :=
  let sorted := sortedBy (selectionKey request) eligible
  if request.fallbackModelIds.isEmpty then sorted
  else
    let chained := request.fallbackModelIds.foldl takeNamed ([], sorted)
    if chained.1.isEmpty then sorted else chained.1 ++ chained.2

def errorPriority : List ModelErrorCode :=
  [.privacyPolicyBlock, .costPolicyBlock, .budgetExceeded, .contextLimitExceeded,
    .capabilityUnavailable, .modelDisabled, .providerUnavailable]

def dominantError (rejected : List RoutingRejection) : ModelErrorCode :=
  (errorPriority.find? (fun code => decide (code ∈ rejected.map (·.reason)))).getD .noEligibleModel

def selectionReasons (request : ModelRequest) (selected : ModelProfile) : List String :=
  let values := sortedBy id (request.requiredCapabilities.map ModelCapability.value)
  ["Selected " ++ idText selected.id ++ " for " ++
      (if values.isEmpty then "general" else ",".intercalate values) ++ " request.",
    s!"Cost class {selected.costClass.value}; privacy class {selected.privacyClass.value}."] ++
  (if request.preferredModel = some selected.modelName ∨ request.preferredModel = selected.id then
    ["Preferred model honored."]
  else if request.preferredModel.getD "" ≠ "" then
    ["Preferred model unavailable or disallowed; routed to eligible alternative."]
  else [])

def route (request : ModelRequest) (providers : List ModelProvider) (profiles : List ModelProfile) :
    RoutingDecision :=
  let rejected := rejectedOf request providers profiles
  match orderEligible request (eligibleOf request providers profiles) with
  | [] =>
    { requestId := request.requestId, rejected, errorCode := some (dominantError rejected),
      reasons := [s!"No eligible model: {(dominantError rejected).value}."] }
  | (selected, _) :: others =>
    { requestId := request.requestId, selectedProfileId := selected.id,
      fallbackProfileIds := others.filterMap (·.1.id),
      reasons := selectionReasons request selected, rejected }

/-- The rows of the two tables, whose ids are primary keys. -/
structure Registry where
  providers : List ModelProvider
  profiles : List ModelProfile
  registered : ∀ profile ∈ profiles, profile.id.isSome
  distinct : (profiles.map (·.id)).Nodup

namespace Registry

def eligible (registry : Registry) (request : ModelRequest) : List Candidate :=
  eligibleOf request registry.providers registry.profiles

def routeRequest (registry : Registry) (request : ModelRequest) : RoutingDecision :=
  route request registry.providers registry.profiles

end Registry

end Lucius.Models
