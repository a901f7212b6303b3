import Lucius.Runtime.Router

/-! What the execution router writes in the database: its own records, and no other row. -/

namespace Lucius.Router

open Worktree Lucius.Action

/-- The router writes its own records and no other row. -/
def RecordsOnly (before after : RouterState) : Prop :=
  ∃ executions, after.store.toTables = { before.store.toTables with modelExecutions := executions }

theorem recordsOnly_of_tables {before after : RouterState}
    (same : after.store.toTables = before.store.toTables) : RecordsOnly before after :=
  ⟨before.store.modelExecutions, same⟩

theorem recordsOnly_refl (state : RouterState) : RecordsOnly state state := recordsOnly_of_tables rfl

theorem recordsOnly_trans (first second third : RouterState) (one : RecordsOnly first second)
    (two : RecordsOnly second third) : RecordsOnly first third := by
  obtain ⟨_, one⟩ := one
  obtain ⟨executions, two⟩ := two
  exact ⟨executions, by rw [two, one]⟩

theorem onStore_recordsOnly {α : Type} {operation : Op α} (same : Respects SameTables operation) :
    Respects RecordsOnly (onStore operation) :=
  respects_zoom (fun _ _ kept => recordsOnly_of_tables kept) same

theorem record_recordsOnly (context : RuntimeExecutionContext) (eventType action result : String) :
    Respects RecordsOnly (record context eventType action result) :=
  onStore_recordsOnly (record_same _)

theorem onFiles_recordsOnly {α : Type} (work : GateWork α) : Respects RecordsOnly (onFiles work) :=
  fun _ => recordsOnly_of_tables rfl

theorem recordModelExecutionAttempt_recordsOnly (context : RuntimeExecutionContext)
    (request : RuntimeExecutionRequest) (result : RuntimeExecutionResult) (attemptNumber : Nat) :
    Respects RecordsOnly (onStore (recordModelExecutionAttempt context request result attemptNumber)) := by
  intro state
  unfold recordModelExecutionAttempt onStore
  rw [exec_zoom, exec_get_bind]
  split
  · exact ⟨_, rfl⟩
  · exact ⟨_, rfl⟩

theorem requestFromContext_same (settings : RouterSettings) (context : RuntimeExecutionContext) :
    Respects SameTables (requestFromContext settings context) := by
  unfold requestFromContext
  split
  · exact respects_throw sameTables_refl _
  · split
    · apply respects_bind sameTables_trans (nextId_same _)
      intro executionId
      apply respects_bind sameTables_trans get_same
      intro store
      exact respects_ofExcept sameTables_refl _
    · exact respects_throw sameTables_refl _

theorem requestFromContext_recordsOnly (settings : RouterSettings) (context : RuntimeExecutionContext) :
    Respects RecordsOnly (onStore (requestFromContext settings context)) :=
  onStore_recordsOnly (requestFromContext_same settings context)

theorem route_recordsOnly (router : ModelExecutionRouter) (request : RuntimeExecutionRequest)
    (context : RuntimeExecutionContext) : Respects RecordsOnly (route router request context) := by
  unfold route recordDecision
  apply respects_bind recordsOnly_trans (respects_ofExcept recordsOnly_refl _)
  intro evaluated
  apply respects_bind recordsOnly_trans (record_recordsOnly _ _ _ _)
  intro _
  apply respects_bind recordsOnly_trans
  · apply respects_bind recordsOnly_trans (respects_get recordsOnly_refl)
    intro state
    apply respects_bind recordsOnly_trans (onStore_recordsOnly (record_same _))
    intro _
    exact respects_pure recordsOnly_refl _
  · intro decision
    exact respects_pure recordsOnly_refl _

section

variable (router : ModelExecutionRouter) (context : RuntimeExecutionContext)
  (request : RuntimeExecutionRequest)

theorem attempt_recordsOnly (provider : Provider) (failoverFrom : Option String) (attemptIndex : Nat) :
    Respects RecordsOnly (attempt router context request provider failoverFrom attemptIndex) := by
  unfold attempt
  apply respects_bind recordsOnly_trans (record_recordsOnly _ _ _ _)
  intro _
  apply respects_bind recordsOnly_trans (respects_get recordsOnly_refl)
  intro state
  have began : Respects RecordsOnly
      (modify (begin (invocationAt request provider failoverFrom state)) : RouterAction Unit) :=
    fun _ => recordsOnly_of_tables rfl
  apply respects_bind recordsOnly_trans began
  intro _
  apply respects_bind recordsOnly_trans (onFiles_recordsOnly _)
  intro result
  apply respects_bind recordsOnly_trans (record_recordsOnly _ _ _ _)
  intro _
  apply respects_bind recordsOnly_trans (recordModelExecutionAttempt_recordsOnly _ _ _ _)
  intro _
  exact respects_pure recordsOnly_refl _

theorem attempts_recordsOnly (provider : Provider) (failoverFrom : Option String)
    (failoversUsed attemptIndex retriesLeft : Nat) : Respects RecordsOnly
      (attempts router context request provider failoverFrom failoversUsed attemptIndex retriesLeft) := by
  induction retriesLeft generalizing attemptIndex with
  | zero =>
    apply respects_bind recordsOnly_trans (attempt_recordsOnly router context request _ _ _)
    intro result
    exact respects_pure recordsOnly_refl _
  | succ retriesLeft ih =>
    apply respects_bind recordsOnly_trans (attempt_recordsOnly router context request _ _ _)
    intro result
    split
    · apply respects_bind recordsOnly_trans (record_recordsOnly _ _ _ _)
      intro _
      exact ih (attemptIndex + 1)
    · exact respects_pure recordsOnly_refl _

theorem tryProviders_recordsOnly (failoverFrom : Option String) (failoversUsed : Nat)
    (provider : Provider) (rest : List Provider) : Respects RecordsOnly
      (tryProviders router context request failoverFrom failoversUsed provider rest) := by
  induction rest generalizing failoverFrom failoversUsed provider with
  | nil => exact attempts_recordsOnly router context request _ _ _ _ _
  | cons next rest ih =>
    apply respects_bind recordsOnly_trans (attempts_recordsOnly router context request _ _ _ _ _)
    intro attempted
    split
    · apply respects_bind recordsOnly_trans (record_recordsOnly _ _ _ _)
      intro _
      exact ih _ _ _
    · exact respects_pure recordsOnly_refl _

theorem routeRequest_recordsOnly : Respects RecordsOnly (routeRequest router context request) := by
  unfold routeRequest
  apply respects_bind recordsOnly_trans (route_recordsOnly router request context)
  intro routing
  split
  · apply respects_bind recordsOnly_trans (record_recordsOnly _ _ _ _)
    intro _
    apply respects_bind recordsOnly_trans (record_recordsOnly _ _ _ _)
    intro _
    exact respects_pure recordsOnly_refl _
  · apply respects_bind recordsOnly_trans (tryProviders_recordsOnly router context _ _ _ _ _)
    intro attempted
    unfold completeRouting
    apply respects_bind recordsOnly_trans (respects_ofExcept recordsOnly_refl _)
    intro normalized
    apply respects_bind recordsOnly_trans (record_recordsOnly _ _ _ _)
    intro _
    apply respects_bind recordsOnly_trans (record_recordsOnly _ _ _ _)
    intro _
    exact respects_pure recordsOnly_refl _

end

theorem execute_recordsOnly (router : ModelExecutionRouter) (context : RuntimeExecutionContext) :
    Respects RecordsOnly (execute router context) := by
  unfold execute
  apply respects_bind recordsOnly_trans (requestFromContext_recordsOnly _ _)
  intro request
  apply respects_bind recordsOnly_trans (record_recordsOnly _ _ _ _)
  intro _
  split
  · apply respects_bind recordsOnly_trans (record_recordsOnly _ _ _ _)
    intro _
    exact respects_pure recordsOnly_refl _
  · exact routeRequest_recordsOnly router context request

end Lucius.Router
