import Lucius.Runtime.Requests

/-! The knowledge firewall: how a source is classified, and which candidates may be
promoted to which scope. -/

namespace Lucius.Memory

open Router

def clientProjectType : String := "CLIENT"

/-- A project is looked up by an identifier that is not empty. -/
def isClient (tables : Tables) (projectId : Option String) : Bool :=
  ((nonEmpty projectId).bind tables.projects.get?).any
    (fun project => decide (project.projectType = clientProjectType))

def authorizedGlobalPromoters : List Actor := [.human, .system]

def classifySource (fromClient : Bool) (proposedScope : KnowledgeScope) :
    KnowledgeFirewallClassification :=
  if fromClient || decide (proposedScope = .client) then .isPrivate
  else if proposedScope = .project then .abstractable
  else .globalSafe

def defaultSanitization (classification : KnowledgeFirewallClassification)
    (proposedScope : KnowledgeScope) : SanitizationStatus :=
  if classification = .isPrivate ∧ proposedScope = .global then .required
  else if classification = .isPrivate then .required
  else .notRequired

/-- Why a candidate may not be promoted, if it may not. -/
def promotionObstacle (candidate : LearningCandidateRow) (targetScope : KnowledgeScope)
    (actor : Actor) : Option String :=
  if actor ∉ authorizedGlobalPromoters ∧ targetScope = .global then
    some "Autonomous global promotion is blocked."
  else if candidate.status ≠ .validated then
    some "LearningCandidate must be VALIDATED before promotion."
  else if candidate.evidenceIds = [] ∧ candidate.sourceMemoryIds = [] ∧
      candidate.sourceDocumentRefs = [] then
    some "Promotion requires provenance."
  else if targetScope = .global ∧ candidate.sourceClassification = .isPrivate then
    some "PRIVATE source classification cannot be promoted directly to GLOBAL."
  else if targetScope = .global ∧ candidate.sanitizationStatus ≠ .notRequired ∧
      candidate.sanitizationStatus ≠ .sanitized then
    some "GLOBAL promotion requires allowed sanitization status."
  else none

end Lucius.Memory
