import Mathlib.Tactic.Common

/-! The string enumerations of the domain. A column holds the value of a member;
reading a text back finds the member of that value, if there is one. -/

namespace Lucius

universe u

class StrEnum (α : Type u) where
  value : α → String
  members : List α
  complete : ∀ member, member ∈ members
  distinct : ∀ left right, value left = value right → left = right

namespace StrEnum

variable {α : Type u} [StrEnum α]

def ofValue? (text : String) : Option α :=
  (members : List α).find? (fun member => decide (value member = text))

theorem ofValue?_eq_some {text : String} {member : α} :
    ofValue? text = some member ↔ value member = text := by
  constructor
  · intro found
    have matched := List.find?_some (p := fun other => decide (value other = text)) found
    exact of_decide_eq_true matched
  · intro same
    cases found : (ofValue? text : Option α) with
    | none =>
      have absent := List.find?_eq_none.mp found member (complete member)
      exact absurd (decide_eq_true same) (by simpa using absent)
    | some other =>
      have matched := List.find?_some (p := fun candidate => decide (value candidate = text)) found
      have named : value other = text := of_decide_eq_true matched
      rw [distinct other member (named.trans same.symm)]

@[simp] theorem ofValue?_value (member : α) : ofValue? (value member) = some member :=
  ofValue?_eq_some.mpr rfl

end StrEnum

inductive ProjectStatus where
  | active | paused | archived
  deriving DecidableEq, Repr

instance : StrEnum ProjectStatus where
  value
    | .active => "ACTIVE"
    | .paused => "PAUSED"
    | .archived => "ARCHIVED"
  members := [.active, .paused, .archived]
  complete := by intro member; cases member <;> decide
  distinct := by intro left right; cases left <;> cases right <;> decide

inductive RepositoryAccessMode where
  | readOnly | canonicalIntegration
  deriving DecidableEq, Repr

instance : StrEnum RepositoryAccessMode where
  value
    | .readOnly => "READ_ONLY"
    | .canonicalIntegration => "CANONICAL_INTEGRATION"
  members := [.readOnly, .canonicalIntegration]
  complete := by intro member; cases member <;> decide
  distinct := by intro left right; cases left <;> cases right <;> decide

/-- The levels are ordered as they are listed. -/
inductive AuthorityLevel where
  | l0 | l1 | l2 | l3
  deriving DecidableEq, Repr

instance : StrEnum AuthorityLevel where
  value
    | .l0 => "L0"
    | .l1 => "L1"
    | .l2 => "L2"
    | .l3 => "L3"
  members := [.l0, .l1, .l2, .l3]
  complete := by intro member; cases member <;> decide
  distinct := by intro left right; cases left <;> cases right <;> decide

inductive TaskStatus where
  | draft | ready | running | blocked | implementationComplete | documentationPending
  | complete | failed | cancelled
  deriving DecidableEq, Repr

instance : StrEnum TaskStatus where
  value
    | .draft => "DRAFT"
    | .ready => "READY"
    | .running => "RUNNING"
    | .blocked => "BLOCKED"
    | .implementationComplete => "IMPLEMENTATION_COMPLETE"
    | .documentationPending => "DOCUMENTATION_PENDING"
    | .complete => "COMPLETE"
    | .failed => "FAILED"
    | .cancelled => "CANCELLED"
  members := [.draft, .ready, .running, .blocked, .implementationComplete, .documentationPending,
    .complete, .failed, .cancelled]
  complete := by intro member; cases member <;> decide
  distinct := by intro left right; cases left <;> cases right <;> decide

inductive TaskRunStatus where
  | running | succeeded | failed | blocked | cancelled
  deriving DecidableEq, Repr

instance : StrEnum TaskRunStatus where
  value
    | .running => "RUNNING"
    | .succeeded => "SUCCEEDED"
    | .failed => "FAILED"
    | .blocked => "BLOCKED"
    | .cancelled => "CANCELLED"
  members := [.running, .succeeded, .failed, .blocked, .cancelled]
  complete := by intro member; cases member <;> decide
  distinct := by intro left right; cases left <;> cases right <;> decide

inductive Environment where
  | sandbox | development | staging | production
  deriving DecidableEq, Repr

instance : StrEnum Environment where
  value
    | .sandbox => "SANDBOX"
    | .development => "DEVELOPMENT"
    | .staging => "STAGING"
    | .production => "PRODUCTION"
  members := [.sandbox, .development, .staging, .production]
  complete := by intro member; cases member <;> decide
  distinct := by intro left right; cases left <;> cases right <;> decide

inductive EngineeringPlanStatus where
  | draft | proposed | approved | superseded | rejected
  deriving DecidableEq, Repr

instance : StrEnum EngineeringPlanStatus where
  value
    | .draft => "DRAFT"
    | .proposed => "PROPOSED"
    | .approved => "APPROVED"
    | .superseded => "SUPERSEDED"
    | .rejected => "REJECTED"
  members := [.draft, .proposed, .approved, .superseded, .rejected]
  complete := by intro member; cases member <;> decide
  distinct := by intro left right; cases left <;> cases right <;> decide

inductive AffectedFileStatus where
  | existingVerified | likelyExisting | newProposed | unknown
  deriving DecidableEq, Repr

instance : StrEnum AffectedFileStatus where
  value
    | .existingVerified => "EXISTING_VERIFIED"
    | .likelyExisting => "LIKELY_EXISTING"
    | .newProposed => "NEW_PROPOSED"
    | .unknown => "UNKNOWN"
  members := [.existingVerified, .likelyExisting, .newProposed, .unknown]
  complete := by intro member; cases member <;> decide
  distinct := by intro left right; cases left <;> cases right <;> decide

inductive PlanRiskLevel where
  | low | medium | high | critical
  deriving DecidableEq, Repr

instance : StrEnum PlanRiskLevel where
  value
    | .low => "LOW"
    | .medium => "MEDIUM"
    | .high => "HIGH"
    | .critical => "CRITICAL"
  members := [.low, .medium, .high, .critical]
  complete := by intro member; cases member <;> decide
  distinct := by intro left right; cases left <;> cases right <;> decide

inductive PlanStepSupportStatus where
  | supported | partiallySupported | inferred | blockedByUnknown
  deriving DecidableEq, Repr

inductive AcceptanceCoverageStatus where
  | covered | partiallyCovered | notCovered | blocked
  deriving DecidableEq, Repr

inductive AllowedAction where
  | readRepository | readDocumentation | runTests | createTempFiles | writeSource | writeTests
  | writeDocumentation | createMigration | createCommit
  deriving DecidableEq, Repr

instance : StrEnum AllowedAction where
  value
    | .readRepository => "READ_REPOSITORY"
    | .readDocumentation => "READ_DOCUMENTATION"
    | .runTests => "RUN_TESTS"
    | .createTempFiles => "CREATE_TEMP_FILES"
    | .writeSource => "WRITE_SOURCE"
    | .writeTests => "WRITE_TESTS"
    | .writeDocumentation => "WRITE_DOCUMENTATION"
    | .createMigration => "CREATE_MIGRATION"
    | .createCommit => "CREATE_COMMIT"
  members := [.readRepository, .readDocumentation, .runTests, .createTempFiles, .writeSource,
    .writeTests, .writeDocumentation, .createMigration, .createCommit]
  complete := by intro member; cases member <;> decide
  distinct := by intro left right; cases left <;> cases right <;> decide

inductive BlockerCode where
  | missingRepository | invalidContract | dependencyBlocked | authorityInsufficient
  | workspaceInvalid | repositoryStateUnsafe | decisionRequired | documentationRequired
  | projectInactive
  deriving DecidableEq, Repr

instance : StrEnum BlockerCode where
  value
    | .missingRepository => "MISSING_REPOSITORY"
    | .invalidContract => "INVALID_CONTRACT"
    | .dependencyBlocked => "DEPENDENCY_BLOCKED"
    | .authorityInsufficient => "AUTHORITY_INSUFFICIENT"
    | .workspaceInvalid => "WORKSPACE_INVALID"
    | .repositoryStateUnsafe => "REPOSITORY_STATE_UNSAFE"
    | .decisionRequired => "DECISION_REQUIRED"
    | .documentationRequired => "DOCUMENTATION_REQUIRED"
    | .projectInactive => "PROJECT_INACTIVE"
  members := [.missingRepository, .invalidContract, .dependencyBlocked, .authorityInsufficient,
    .workspaceInvalid, .repositoryStateUnsafe, .decisionRequired, .documentationRequired,
    .projectInactive]
  complete := by intro member; cases member <;> decide
  distinct := by intro left right; cases left <;> cases right <;> decide

inductive PersistentWorkflowState where
  | objectiveAccepted | planning | planReady | implementing | verifying
  | checkpointReviewRequired | paused | resumeValidation | blocked | approvedToContinue
  | completedPendingIntegration | closed
  deriving DecidableEq, Repr

instance : StrEnum PersistentWorkflowState where
  value
    | .objectiveAccepted => "OBJECTIVE_ACCEPTED"
    | .planning => "PLANNING"
    | .planReady => "PLAN_READY"
    | .implementing => "IMPLEMENTING"
    | .verifying => "VERIFYING"
    | .checkpointReviewRequired => "CHECKPOINT_REVIEW_REQUIRED"
    | .paused => "PAUSED"
    | .resumeValidation => "RESUME_VALIDATION"
    | .blocked => "BLOCKED"
    | .approvedToContinue => "APPROVED_TO_CONTINUE"
    | .completedPendingIntegration => "COMPLETED_PENDING_INTEGRATION"
    | .closed => "CLOSED"
  members := [.objectiveAccepted, .planning, .planReady, .implementing, .verifying,
    .checkpointReviewRequired, .paused, .resumeValidation, .blocked, .approvedToContinue,
    .completedPendingIntegration, .closed]
  complete := by intro member; cases member <;> decide
  distinct := by intro left right; cases left <;> cases right <;> decide

inductive QueueWorkItemState where
  | ready | running | waitingHuman | waitingExternal | waitingResource | waitingResourceShort
  | waitingResourceLong | waitingDependency | waitingSchedule | blockedDependency
  | blockedAuthority | blockedDecision | retryLater | readyToResume | completed | failed
  deriving DecidableEq, Repr

instance : StrEnum QueueWorkItemState where
  value
    | .ready => "READY"
    | .running => "RUNNING"
    | .waitingHuman => "WAITING_HUMAN"
    | .waitingExternal => "WAITING_EXTERNAL"
    | .waitingResource => "WAITING_RESOURCE"
    | .waitingResourceShort => "WAITING_RESOURCE_SHORT"
    | .waitingResourceLong => "WAITING_RESOURCE_LONG"
    | .waitingDependency => "WAITING_DEPENDENCY"
    | .waitingSchedule => "WAITING_SCHEDULE"
    | .blockedDependency => "BLOCKED_DEPENDENCY"
    | .blockedAuthority => "BLOCKED_AUTHORITY"
    | .blockedDecision => "BLOCKED_DECISION"
    | .retryLater => "RETRY_LATER"
    | .readyToResume => "READY_TO_RESUME"
    | .completed => "COMPLETED"
    | .failed => "FAILED"
  members := [.ready, .running, .waitingHuman, .waitingExternal, .waitingResource,
    .waitingResourceShort, .waitingResourceLong, .waitingDependency, .waitingSchedule,
    .blockedDependency, .blockedAuthority, .blockedDecision, .retryLater, .readyToResume,
    .completed, .failed]
  complete := by intro member; cases member <;> decide
  distinct := by intro left right; cases left <;> cases right <;> decide

inductive MissionStatus where
  | active | waiting | sleeping | paused | interrupted | completed | failed | cancelled
  deriving DecidableEq, Repr

instance : StrEnum MissionStatus where
  value
    | .active => "ACTIVE"
    | .waiting => "WAITING"
    | .sleeping => "SLEEPING"
    | .paused => "PAUSED"
    | .interrupted => "INTERRUPTED"
    | .completed => "COMPLETED"
    | .failed => "FAILED"
    | .cancelled => "CANCELLED"
  members := [.active, .waiting, .sleeping, .paused, .interrupted, .completed, .failed, .cancelled]
  complete := by intro member; cases member <;> decide
  distinct := by intro left right; cases left <;> cases right <;> decide

inductive DurableWaitClass where
  | resource | resourceShort | resourceLong | dependency | schedule | human | authority | decision
  deriving DecidableEq, Repr

instance : StrEnum DurableWaitClass where
  value
    | .resource => "RESOURCE"
    | .resourceShort => "RESOURCE_SHORT"
    | .resourceLong => "RESOURCE_LONG"
    | .dependency => "DEPENDENCY"
    | .schedule => "SCHEDULE"
    | .human => "HUMAN"
    | .authority => "AUTHORITY"
    | .decision => "DECISION"
  members := [.resource, .resourceShort, .resourceLong, .dependency, .schedule, .human, .authority,
    .decision]
  complete := by intro member; cases member <;> decide
  distinct := by intro left right; cases left <;> cases right <;> decide

inductive Actor where
  | human | chatgpt | codex | lucius | externalEngineeringAgent | system
  deriving DecidableEq, Repr

instance : StrEnum Actor where
  value
    | .human => "HUMAN"
    | .chatgpt => "CHATGPT"
    | .codex => "CODEX"
    | .lucius => "LUCIUS"
    | .externalEngineeringAgent => "EXTERNAL_ENGINEERING_AGENT"
    | .system => "SYSTEM"
  members := [.human, .chatgpt, .codex, .lucius, .externalEngineeringAgent, .system]
  complete := by intro member; cases member <;> decide
  distinct := by intro left right; cases left <;> cases right <;> decide

inductive KnowledgeScope where
  | global | dfg | domain | project | client | session
  deriving DecidableEq, Repr

instance : StrEnum KnowledgeScope where
  value
    | .global => "GLOBAL"
    | .dfg => "DFG"
    | .domain => "DOMAIN"
    | .project => "PROJECT"
    | .client => "CLIENT"
    | .session => "SESSION"
  members := [.global, .dfg, .domain, .project, .client, .session]
  complete := by intro member; cases member <;> decide
  distinct := by intro left right; cases left <;> cases right <;> decide

inductive ValidationStatus where
  | observed | candidate | validated | contradicted | superseded | deprecated
  deriving DecidableEq, Repr

instance : StrEnum ValidationStatus where
  value
    | .observed => "OBSERVED"
    | .candidate => "CANDIDATE"
    | .validated => "VALIDATED"
    | .contradicted => "CONTRADICTED"
    | .superseded => "SUPERSEDED"
    | .deprecated => "DEPRECATED"
  members := [.observed, .candidate, .validated, .contradicted, .superseded, .deprecated]
  complete := by intro member; cases member <;> decide
  distinct := by intro left right; cases left <;> cases right <;> decide

inductive LearningCandidateType where
  | pattern | failurePattern | procedure | knowledgeCorrection | optimization
  deriving DecidableEq, Repr

instance : StrEnum LearningCandidateType where
  value
    | .pattern => "PATTERN"
    | .failurePattern => "FAILURE_PATTERN"
    | .procedure => "PROCEDURE"
    | .knowledgeCorrection => "KNOWLEDGE_CORRECTION"
    | .optimization => "OPTIMIZATION"
  members := [.pattern, .failurePattern, .procedure, .knowledgeCorrection, .optimization]
  complete := by intro member; cases member <;> decide
  distinct := by intro left right; cases left <;> cases right <;> decide

inductive LearningCandidateStatus where
  | pending | needsMoreEvidence | validated | rejected
  deriving DecidableEq, Repr

instance : StrEnum LearningCandidateStatus where
  value
    | .pending => "PENDING"
    | .needsMoreEvidence => "NEEDS_MORE_EVIDENCE"
    | .validated => "VALIDATED"
    | .rejected => "REJECTED"
  members := [.pending, .needsMoreEvidence, .validated, .rejected]
  complete := by intro member; cases member <;> decide
  distinct := by intro left right; cases left <;> cases right <;> decide

inductive KnowledgeFirewallClassification where
  | isPrivate | abstractable | globalSafe
  deriving DecidableEq, Repr

instance : StrEnum KnowledgeFirewallClassification where
  value
    | .isPrivate => "PRIVATE"
    | .abstractable => "ABSTRACTABLE"
    | .globalSafe => "GLOBAL_SAFE"
  members := [.isPrivate, .abstractable, .globalSafe]
  complete := by intro member; cases member <;> decide
  distinct := by intro left right; cases left <;> cases right <;> decide

inductive SanitizationStatus where
  | notRequired | required | sanitized | rejected
  deriving DecidableEq, Repr

instance : StrEnum SanitizationStatus where
  value
    | .notRequired => "NOT_REQUIRED"
    | .required => "REQUIRED"
    | .sanitized => "SANITIZED"
    | .rejected => "REJECTED"
  members := [.notRequired, .required, .sanitized, .rejected]
  complete := by intro member; cases member <;> decide
  distinct := by intro left right; cases left <;> cases right <;> decide

inductive GlobalWorkState where
  | ready | autoPreparable | waitingResource | waitingResourceShort | waitingResourceLong
  | waitingDependency | waitingSchedule | blockedAuthority | blockedDecision | notYetEligible
  | completed | superseded
  deriving DecidableEq, Repr

instance : StrEnum GlobalWorkState where
  value
    | .ready => "READY"
    | .autoPreparable => "AUTO_PREPARABLE"
    | .waitingResource => "WAITING_RESOURCE"
    | .waitingResourceShort => "WAITING_RESOURCE_SHORT"
    | .waitingResourceLong => "WAITING_RESOURCE_LONG"
    | .waitingDependency => "WAITING_DEPENDENCY"
    | .waitingSchedule => "WAITING_SCHEDULE"
    | .blockedAuthority => "BLOCKED_AUTHORITY"
    | .blockedDecision => "BLOCKED_DECISION"
    | .notYetEligible => "NOT_YET_ELIGIBLE"
    | .completed => "COMPLETED"
    | .superseded => "SUPERSEDED"
  members := [.ready, .autoPreparable, .waitingResource, .waitingResourceShort,
    .waitingResourceLong, .waitingDependency, .waitingSchedule, .blockedAuthority,
    .blockedDecision, .notYetEligible, .completed, .superseded]
  complete := by intro member; cases member <;> decide
  distinct := by intro left right; cases left <;> cases right <;> decide

inductive DFGProjectStatus where
  | concept | researching | validating | designing | engineeringReady | inDevelopment
  | validatingBuild | operational | maintenance | parked | blocked
  deriving DecidableEq, Repr

instance : StrEnum DFGProjectStatus where
  value
    | .concept => "CONCEPT"
    | .researching => "RESEARCHING"
    | .validating => "VALIDATING"
    | .designing => "DESIGNING"
    | .engineeringReady => "ENGINEERING_READY"
    | .inDevelopment => "IN_DEVELOPMENT"
    | .validatingBuild => "VALIDATING_BUILD"
    | .operational => "OPERATIONAL"
    | .maintenance => "MAINTENANCE"
    | .parked => "PARKED"
    | .blocked => "BLOCKED"
  members := [.concept, .researching, .validating, .designing, .engineeringReady, .inDevelopment,
    .validatingBuild, .operational, .maintenance, .parked, .blocked]
  complete := by intro member; cases member <;> decide
  distinct := by intro left right; cases left <;> cases right <;> decide

inductive AuthorityClass where
  | classA | classB | classC | classD | classE
  deriving DecidableEq, Repr

instance : StrEnum AuthorityClass where
  value
    | .classA => "CLASS_A"
    | .classB => "CLASS_B"
    | .classC => "CLASS_C"
    | .classD => "CLASS_D"
    | .classE => "CLASS_E"
  members := [.classA, .classB, .classC, .classD, .classE]
  complete := by intro member; cases member <;> decide
  distinct := by intro left right; cases left <;> cases right <;> decide

end Lucius
