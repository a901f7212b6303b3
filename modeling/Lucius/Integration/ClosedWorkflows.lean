import Lucius.Integration.Preflight

/-! What a call writes in the database: a workflow is closed, or no row is written. -/

namespace Lucius.Integration

open Worktree Lucius.Action

/-- The row is the one that was there, or that one closed. -/
def MayClose (old new : PersistentWorkflowRow) : Prop :=
  new = old ∨ ∃ updatedAt, new = { old with workflowState := .closed, updatedAt := updatedAt }

theorem mayClose_refl (row : PersistentWorkflowRow) : MayClose row row := .inl rfl

theorem mayClose_trans (first second third : PersistentWorkflowRow) (one : MayClose first second)
    (two : MayClose second third) : MayClose first third := by
  rcases two with rfl | ⟨later, rfl⟩
  · exact one
  · rcases one with rfl | ⟨_, rfl⟩
    · exact .inr ⟨later, rfl⟩
    · exact .inr ⟨later, rfl⟩

/-- Some workflows are closed, and nothing else is written. -/
def ClosesOnly (before after : Tables) : Prop :=
  ∃ workflows, after = { before with workflows := workflows } ∧
    before.workflows.Carried MayClose workflows

theorem closesOnly_refl (tables : Tables) : ClosesOnly tables tables :=
  ⟨tables.workflows, rfl, Table.carried_refl mayClose_refl _⟩

theorem closesOnly_trans {first second third : Tables} (one : ClosesOnly first second)
    (two : ClosesOnly second third) : ClosesOnly first third := by
  obtain ⟨middle, rfl, earlier⟩ := one
  obtain ⟨last, rfl, later⟩ := two
  exact ⟨last, rfl, Table.carried_trans mayClose_trans earlier later⟩

/-- The same of the worlds a call goes through. -/
def WorldCloses (before after : World) : Prop :=
  ClosesOnly before.store.toTables after.store.toTables

theorem worldCloses_of_tables {before after : World} (same : after.store.toTables = before.store.toTables) :
    WorldCloses before after := by
  unfold WorldCloses
  rw [same]
  exact closesOnly_refl _

theorem worldCloses_refl (world : World) : WorldCloses world world := worldCloses_of_tables rfl

theorem worldCloses_trans (first second third : World) (one : WorldCloses first second)
    (two : WorldCloses second third) : WorldCloses first third := closesOnly_trans one two

variable (env : Environment) (request : CanonicalIntegrationRequest)

theorem value_closes {α : Type} (value : Except WorkspaceExc α) :
    Respects WorldCloses (Action.ofExcept value : Integrating α) :=
  respects_ofExcept worldCloses_refl value

theorem auditEvent_closes (eventType result : String) :
    Respects WorldCloses (auditEvent env request eventType result) := by
  unfold auditEvent
  split
  · exact respects_throw worldCloses_refl _
  · exact respects_modify fun _ => worldCloses_of_tables rfl

theorem onCandidate_closes {α : Type} (work : FileWork α) : Respects WorldCloses (onCandidate work) :=
  fun _ => worldCloses_of_tables rfl

theorem onCanonical_closes {α : Type} (work : FileWork α) : Respects WorldCloses (onCanonical work) :=
  fun _ => worldCloses_of_tables rfl

theorem preflight_closes : Respects WorldCloses (preflight env request) := by
  apply respects_bind worldCloses_trans (respects_get worldCloses_refl)
  intro world
  apply respects_bind worldCloses_trans (value_closes _)
  intro context
  apply respects_bind worldCloses_trans (value_closes _)
  intro observed
  apply respects_bind worldCloses_trans (onCandidate_closes _)
  intro acceptance
  apply respects_bind worldCloses_trans (respects_get worldCloses_refl)
  intro verified
  apply respects_bind worldCloses_trans (value_closes _)
  intro captured
  exact respects_pure worldCloses_refl _

theorem prepareFiles_closes (context : IntegrationContext) :
    Respects WorldCloses (prepareFiles env request context) := by
  apply respects_bind worldCloses_trans (value_closes _)
  intro validated
  split
  · exact respects_throw worldCloses_refl _
  · apply respects_bind worldCloses_trans (auditEvent_closes env request _ _)
    intro _
    exact respects_pure worldCloses_refl _

theorem closeWorkflow_closes : Respects WorldCloses (closeWorkflow env request) := by
  intro world
  unfold closeWorkflow
  rw [exec_get_bind]
  cases found : world.store.workflows.get? request.workflowId with
  | none => exact worldCloses_refl world
  | some workflow =>
    dsimp only
    rw [exec_bind_of_ok (exec_set _ _)]
    have named : workflow.id = request.workflowId := Table.get?_key found
    have here : world.store.workflows.get? workflow.id = some workflow := by rw [named, found]
    have closed : WorldCloses world { world with store := { world.store.tick with
        workflows := world.store.workflows.put
          { workflow with workflowState := .closed, updatedAt := world.store.now } } } :=
      ⟨_, rfl, Table.carried_put mayClose_refl here (.inr ⟨world.store.now, rfl⟩)⟩
    apply worldCloses_trans _ _ _ closed
    split
    · exact worldCloses_refl _
    · exact auditEvent_closes env request _ _ _

theorem mutate_closes (context : IntegrationContext) (validated : List ValidatedFileContent) :
    Respects WorldCloses (mutate env request context validated) := by
  apply respects_bind worldCloses_trans (onCanonical_closes _)
  intro applied
  apply respects_bind worldCloses_trans (closeWorkflow_closes env request)
  intro _
  apply respects_bind worldCloses_trans (value_closes _)
  intro head
  exact respects_pure worldCloses_refl _

theorem failedResult_closes (context : IntegrationContext) (error : WorkspaceExc)
    (mutationStarted rolledBack : Bool) :
    Respects WorldCloses (failedResult env request context error mutationStarted rolledBack) := by
  apply respects_bind worldCloses_trans (auditEvent_closes env request _ _)
  intro _
  apply respects_bind worldCloses_trans (value_closes _)
  intro head
  exact respects_pure worldCloses_refl _

theorem rollbackFailedResult_closes (context : IntegrationContext) (error rollbackError : WorkspaceExc) :
    Respects WorldCloses (rollbackFailedResult env request context error rollbackError) := by
  apply respects_bind worldCloses_trans (auditEvent_closes env request _ _)
  intro _
  apply respects_bind worldCloses_trans (value_closes _)
  intro head
  exact respects_pure worldCloses_refl _

theorem rollBack_closes (context : IntegrationContext) :
    Respects WorldCloses (rollBack env request context) := by
  apply respects_bind worldCloses_trans (onCanonical_closes _)
  intro _
  exact auditEvent_closes env request _ _

theorem afterFailure_closes (context : IntegrationContext) (error : WorkspaceExc) :
    Respects WorldCloses (afterFailure env request context error) := by
  apply respects_bind worldCloses_trans (auditEvent_closes env request _ _)
  intro _
  apply respects_bind worldCloses_trans
    (respects_recovering isGitMutation (rollBack_closes env request context))
  intro rolled
  cases rolled with
  | ok nothing => exact failedResult_closes env request context error true true
  | error rollbackError => exact rollbackFailedResult_closes env request context error rollbackError

theorem integrateContext_closes (context : IntegrationContext) :
    Respects WorldCloses (integrateContext env request context) := by
  apply respects_bind worldCloses_trans
    (respects_recovering handled (prepareFiles_closes env request context))
  intro prepared
  cases prepared with
  | error error => exact failedResult_closes env request context error false false
  | ok validated =>
    apply respects_bind worldCloses_trans
      (respects_recovering handled (mutate_closes env request context validated))
    intro mutated
    cases mutated with
    | ok result => exact respects_pure worldCloses_refl _
    | error error => exact afterFailure_closes env request context error

theorem integrateInSession_closes : Respects WorldCloses (integrateInSession env request) := by
  apply respects_bind worldCloses_trans (auditEvent_closes env request _ _)
  intro _
  apply respects_bind worldCloses_trans
    (respects_recovering handled (preflight_closes env request))
  intro checked
  cases checked with
  | error error =>
    apply respects_bind worldCloses_trans (auditEvent_closes env request _ _)
    intro _
    exact respects_pure worldCloses_refl _
  | ok context => exact integrateContext_closes env request context

theorem integrate_closes : Respects WorldCloses (integrate env request) := by
  intro world
  have inside := integrateInSession_closes env request world
  show WorldCloses world (sessionEnd world.store (exec (integrateInSession env request) world)).2
  generalize exec (integrateInSession env request) world = ended at inside
  -- A failed flush takes the store of the start back.
  unfold sessionEnd
  split
  · exact worldCloses_of_tables rfl
  · exact inside

end Lucius.Integration
