import Lucius.Runtime.Ollama

/-! What the execution router and its providers exchange: requests, results and the
registrations of providers.

Durations, token counts and costs are passed on unread, so they are left out. -/

namespace Lucius.Router

open Ollama

instance : StrEnum RuntimeExecutionOutcome where
  value
    | .completed => "COMPLETED"
    | .blocked => "BLOCKED"
    | .escalated => "ESCALATED"
    | .failed => "FAILED"
  members := [.completed, .blocked, .escalated, .failed]
  complete := by intro member; cases member <;> decide
  distinct := by intro left right; cases left <;> cases right <;> decide

inductive RuntimeProviderStatus where
  | active | paused | disabled | unavailable
  deriving DecidableEq, Repr

instance : StrEnum RuntimeProviderStatus where
  value
    | .active => "ACTIVE"
    | .paused => "PAUSED"
    | .disabled => "DISABLED"
    | .unavailable => "UNAVAILABLE"
  members := [.active, .paused, .disabled, .unavailable]
  complete := by intro member; cases member <;> decide
  distinct := by intro left right; cases left <;> cases right <;> decide

inductive ModelQualificationStatus where
  | qualified | qualifiedWithConstraints | supervisedOnly | notQualified | disabled
  deriving DecidableEq, Repr

inductive RuntimeExecutionSupervision where
  | unsupervised | supervised | humanApproved
  deriving DecidableEq, Repr

instance : StrEnum RuntimeExecutionSupervision where
  value
    | .unsupervised => "UNSUPERVISED"
    | .supervised => "SUPERVISED"
    | .humanApproved => "HUMAN_APPROVED"
  members := [.unsupervised, .supervised, .humanApproved]
  complete := by intro member; cases member <;> decide
  distinct := by intro left right; cases left <;> cases right <;> decide

structure RuntimeExecutionContext where
  workflowId : String
  itemId : String
  logicalTaskId : String
  projectId : Option String := none
  repositoryId : Option String := none
  workflowTaskId : Option String := none
  title : Option String := none
  workflowObjective : String
  worktreePath : String
  authorityTier : String
  planId : Option String := none
  planFreezeId : Option String := none
  queueItem : Dict := []

/-- What the router notes about an item beside the fields of the request. -/
structure RequestMetadata where
  taskComplexityExplicit : Bool := false
  taskRiskExplicit : Bool := false
  isolationModeExplicit : Bool := false
  deterministicVerificationExplicit : Bool := false
  mutationScopeError : Option String := none
  deriving DecidableEq, Repr

structure RuntimeExecutionRequest where
  executionId : String
  taskId : String
  workflowId : String
  itemId : String
  logicalTaskId : String
  planId : String
  planFreezeId : String
  projectId : Option String := none
  repositoryId : Option String := none
  isolatedWorkspace : String
  taskIntent : String
  allowedMutationScope : String
  allowedMutationPaths : List String := []
  deterministicAcceptanceChecks : List Acceptance.Check := []
  requiredCapabilities : List String := []
  taskType : String := "engineering"
  taskComplexity : String := "T1"
  taskRisk : String := "LOW"
  unattended : Bool := false
  readOnly : Bool := false
  executionSupervision : RuntimeExecutionSupervision := .unsupervised
  toolRequirements : List String := []
  isolationMode : String := "ISOLATED_WORKTREE"
  contextLimits : Dict := []
  timeoutSeconds : Option Int := none
  releaseEvidenceRefs : List String := []
  routingDecisionId : Option String := none
  metadata : RequestMetadata := {}

structure RuntimeExecutionResult where
  executionId : String
  providerId : String
  providerVersion : String := "unknown"
  modelId : Option String := none
  modelVersion : Option String := none
  routingDecisionId : Option String := none
  status : RuntimeExecutionOutcome
  providerNativeStatus : Option String := none
  outputArtifactRefs : List Dict := []
  mutationSummary : Option String := none
  completedSubsteps : List String := []
  evidence : List Dict := []
  verification : List Dict := []
  documentation : List Dict := []
  retryability : RuntimeRetryability := .nonRetryable
  failureClass : Option String := none
  providerErrorMetadata : Dict := []
  fallbackUsed : Bool := false
  failoverFromProviderId : Option String := none
  verificationHandoffMetadata : Dict := []

structure ExecutionAdapterResult where
  outcome : RuntimeExecutionOutcome
  completedSubsteps : List String := []
  evidence : List Dict := []
  verification : List Dict := []
  documentation : List Dict := []
  retries : Nat := 0
  escalations : Nat := 0
  blockingReason : Option String := none
  blockerCategory : Option String := none
  resumeCondition : Option String := none
  error : Option String := none
  executionId : Option String := none
  providerId : Option String := none
  providerVersion : Option String := none
  modelId : Option String := none
  modelVersion : Option String := none
  routingDecisionId : Option String := none
  providerNativeStatus : Option String := none
  retryability : RuntimeRetryability := .nonRetryable
  failureClass : Option String := none
  providerErrorMetadata : Dict := []
  fallbackUsed : Bool := false
  failoverFromProviderId : Option String := none
  verificationHandoffMetadata : Dict := []

structure ModelCapabilityProfile where
  isLocal : Bool := false
  supportedCapabilities : List String := []
  supportsMutation : Bool := false
  evidenceSensitiveSuitable : Bool := false
  schemaConstrainedRequired : Bool := false
  deterministicVerificationRequired : Bool := true
  supervisionRequired : Bool := true
  unattendedEligible : Bool := false
  unattendedMutationEligible : Bool := false
  maxTaskComplexity : String := "T0"
  defaultTimeoutSeconds : Option Int := none
  maxTimeoutSeconds : Option Int := none
  status : ModelQualificationStatus := .notQualified
  deriving DecidableEq, Repr

structure RuntimeProviderModel where
  modelId : String
  capabilities : List String := []
  capabilityProfile : Option ModelCapabilityProfile := none
  deriving DecidableEq, Repr

structure RuntimeProviderRegistration where
  providerId : String
  providerVersion : String := "unknown"
  status : RuntimeProviderStatus := .active
  capabilities : List String := []
  supportedTaskClasses : List String := []
  supportedIsolationModes : List String := []
  supportedTools : List String := []
  maxContextTokens : Option Int := none
  models : List RuntimeProviderModel := []
  available : Bool := true
  retryEligible : Bool := true
  failoverEligible : Bool := true
  costClass : Option String := none
  allowedProjectIds : List String := []
  allowedRepositoryIds : List String := []
  reliabilityScore : Nat := 0
  metadata : Dict := []

structure RuntimeProviderCandidateEvaluation where
  providerId : String
  eligible : Bool
  reasons : List String := []
  selectedModelId : Option String := none
  deriving DecidableEq, Repr

structure RuntimeRoutingDecision where
  routingDecisionId : String
  executionId : String
  selectedProviderId : Option String := none
  selectedModelId : Option String := none
  fallbackProviderIds : List String := []
  candidates : List RuntimeProviderCandidateEvaluation := []
  policyReasons : List String := []
  noEligibleReason : Option String := none
  deriving DecidableEq, Repr

end Lucius.Router
