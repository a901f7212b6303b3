import Lucius.Tasks.Runs

/-! What the service of tasks writes: the tasks, their runs and the completions of their
documentation; and the contracts, in one operation of its own. -/

namespace Lucius.Tasks

open Lucius.Action

/-- The tables are the same up to those of the tasks. -/
def TaskTablesOnly (before after : Store) : Prop :=
  after.toTables = { before.toTables with
    tasks := after.tasks
    taskRuns := after.taskRuns
    documentationCompletions := after.documentationCompletions }

theorem taskTablesOnly_refl (store : Store) : TaskTablesOnly store store := rfl

theorem taskTablesOnly_trans (first second third : Store) (one : TaskTablesOnly first second)
    (two : TaskTablesOnly second third) : TaskTablesOnly first third := by
  unfold TaskTablesOnly at *
  rw [two, one]

theorem sameTables_only {α : Type} {action : Op α} (same : Respects SameTables action) :
    Respects TaskTablesOnly action := by
  intro store
  have unchanged : (exec action store).2.toTables = store.toTables := same store
  unfold TaskTablesOnly
  rw [unchanged]

theorem taskRow_only (taskId : String) : Respects TaskTablesOnly (taskRow taskId) :=
  sameTables_only (Runs.taskRow_same taskId)

theorem ofExcept_only {α : Type} (value : Except PyExc α) :
    Respects TaskTablesOnly (Action.ofExcept value : Op α) :=
  respects_ofExcept taskTablesOnly_refl value

theorem auditTask_only (task : TaskRow) (eventType action result : String) (runId : Option String) :
    Respects TaskTablesOnly (auditTask task eventType action result runId) :=
  sameTables_only (record_same _)

theorem writeTask_only (change : Timestamp → TaskRow) : Respects TaskTablesOnly (writeTask change) :=
  fun _ => rfl

theorem applyBlocker_only (task : TaskRow) (blocker : StructuredBlocker) :
    Respects TaskTablesOnly (applyBlocker task blocker) := fun _ => rfl

theorem finishRun_only (runId : Option String) (finish : TaskRunRow → Timestamp → TaskRunRow) :
    Respects TaskTablesOnly (finishRun runId finish) := by
  intro store
  obtain ⟨later, finished, tables⟩ := exec_finishRun runId finish store
  unfold TaskTablesOnly
  rw [finished, tables]

theorem addRun_only (run : TaskRunRow) : Respects TaskTablesOnly (addRun run) := by
  intro store
  unfold addRun
  rw [exec_get_bind]
  split <;> rfl

theorem validateContract_only (taskId : String) : Respects TaskTablesOnly (validateContract taskId) := by
  apply respects_bind taskTablesOnly_trans (taskRow_only taskId)
  intro task
  apply respects_bind taskTablesOnly_trans (sameTables_only get_same)
  intro store
  exact ofExcept_only _

theorem transition_only (taskId : String) (allowedFrom : List TaskStatus)
    (change : TaskRow → Timestamp → TaskRow) (finish : TaskRunRow → Timestamp → TaskRunRow)
    (eventType action result : String) (runId : Option String) :
    Respects TaskTablesOnly (transition taskId allowedFrom change finish eventType action result runId) := by
  apply respects_bind taskTablesOnly_trans (taskRow_only taskId)
  intro task
  apply respects_bind taskTablesOnly_trans (ofExcept_only _)
  intro _
  apply respects_bind taskTablesOnly_trans (writeTask_only _)
  intro row
  apply respects_bind taskTablesOnly_trans (finishRun_only _ _)
  intro _
  apply respects_bind taskTablesOnly_trans (auditTask_only _ _ _ _ _)
  intro _
  exact respects_pure taskTablesOnly_refl row

theorem blockTask_only (taskId : String) (code : BlockerCode) (message : String) :
    Respects TaskTablesOnly (blockTask taskId code message) := by
  apply respects_bind taskTablesOnly_trans (taskRow_only taskId)
  intro task
  apply respects_bind taskTablesOnly_trans (ofExcept_only _)
  intro _
  apply respects_bind taskTablesOnly_trans (applyBlocker_only _ _)
  intro blocked
  apply respects_bind taskTablesOnly_trans (auditTask_only _ _ _ _ _)
  intro _
  exact respects_pure taskTablesOnly_refl blocked

theorem markReady_only (taskId : String) : Respects TaskTablesOnly (markReady taskId) := by
  apply respects_bind taskTablesOnly_trans (taskRow_only taskId)
  intro task
  apply respects_bind taskTablesOnly_trans (ofExcept_only _)
  intro _
  apply respects_bind taskTablesOnly_trans (validateContract_only task.id)
  intro blockers
  cases blockers with
  | cons first rest =>
    apply respects_bind taskTablesOnly_trans (applyBlocker_only _ _)
    intro blocked
    apply respects_bind taskTablesOnly_trans (auditTask_only _ _ _ _ _)
    intro _
    apply respects_bind taskTablesOnly_trans (auditTask_only _ _ _ _ _)
    intro _
    exact respects_pure taskTablesOnly_refl _
  | nil =>
    apply respects_bind taskTablesOnly_trans (writeTask_only _)
    intro ready
    apply respects_bind taskTablesOnly_trans (auditTask_only _ _ _ _ _)
    intro _
    exact respects_pure taskTablesOnly_refl _

theorem startRun_only (taskId : String) (snapshotId : Option String) :
    Respects TaskTablesOnly (startRun taskId snapshotId) := by
  apply respects_bind taskTablesOnly_trans (taskRow_only taskId)
  intro task
  split
  · exact respects_throw taskTablesOnly_refl _
  · apply respects_bind taskTablesOnly_trans (sameTables_only get_same)
    intro store
    apply respects_bind taskTablesOnly_trans (ofExcept_only _)
    intro _
    apply respects_bind taskTablesOnly_trans (sameTables_only (nextId_same _))
    intro id
    apply respects_bind taskTablesOnly_trans (sameTables_only utcNow_same)
    intro _
    apply respects_bind taskTablesOnly_trans (addRun_only _)
    intro _
    apply respects_bind taskTablesOnly_trans (writeTask_only _)
    intro running
    apply respects_bind taskTablesOnly_trans (auditTask_only _ _ _ _ _)
    intro _
    exact respects_pure taskTablesOnly_refl _

theorem completeTask_only (taskId : String) : Respects TaskTablesOnly (completeTask taskId) := by
  apply respects_bind taskTablesOnly_trans (taskRow_only taskId)
  intro task
  apply respects_bind taskTablesOnly_trans (ofExcept_only _)
  intro _
  apply respects_bind taskTablesOnly_trans (sameTables_only get_same)
  intro store
  split
  · apply respects_bind taskTablesOnly_trans (auditTask_only _ _ _ _ _)
    intro _
    exact respects_pure taskTablesOnly_refl _
  · exact respects_pure taskTablesOnly_refl _
  · apply respects_bind taskTablesOnly_trans (writeTask_only _)
    intro complete
    apply respects_bind taskTablesOnly_trans (auditTask_only _ _ _ _ _)
    intro _
    exact respects_pure taskTablesOnly_refl _

theorem createTask_only (projectId title objective : String) (level : AuthorityLevel) :
    Respects TaskTablesOnly (createTask projectId title objective level) := by
  apply respects_bind taskTablesOnly_trans (sameTables_only get_same)
  intro store
  cases store.projects.get? projectId with
  | none => exact respects_throw taskTablesOnly_refl _
  | some project =>
    dsimp only
    split
    · exact respects_throw taskTablesOnly_refl _
    · apply respects_bind taskTablesOnly_trans (sameTables_only (nextId_same .task))
      intro id
      apply respects_bind taskTablesOnly_trans (sameTables_only utcNow_same)
      intro updatedAt current
      rw [exec_get_bind]
      split <;> rfl

theorem recordDocumentationCompletion_only (taskId : String) (targets references : List String) :
    Respects TaskTablesOnly (recordDocumentationCompletion taskId targets references) := by
  apply respects_bind taskTablesOnly_trans (taskRow_only taskId)
  intro task
  apply respects_bind taskTablesOnly_trans (sameTables_only get_same)
  intro store
  cases documentationCompletion store.toTables task.id with
  | some existing => exact fun _ => rfl
  | none =>
    apply respects_bind taskTablesOnly_trans (sameTables_only (nextId_same _))
    intro id
    apply respects_bind taskTablesOnly_trans (sameTables_only utcNow_same)
    intro _ current
    rw [exec_get_bind]
    split <;> rfl

theorem forgets_only {α : Type} {action : Op α} (only : Respects TaskTablesOnly action) :
    Respects TaskTablesOnly (do let _ ← action; pure () : Op Unit) :=
  respects_bind taskTablesOnly_trans only fun _ => respects_pure taskTablesOnly_refl ()

theorem TaskOperation.attempt_only (operation : TaskOperation) :
    Respects TaskTablesOnly operation.attempt := by
  cases operation with
  | markReady taskId => exact forgets_only (markReady_only taskId)
  | startRun taskId snapshotId => exact forgets_only (startRun_only taskId snapshotId)
  | blockTask taskId code message => exact forgets_only (blockTask_only taskId code message)
  | failTask taskId failureReason runId => exact forgets_only (transition_only _ _ _ _ _ _ _ _)
  | markImplementationComplete taskId runId outputSummary =>
    exact forgets_only (transition_only _ _ _ _ _ _ _ _)
  | markDocumentationPending taskId => exact forgets_only (transition_only _ _ _ _ _ _ _ _)
  | completeTask taskId => exact forgets_only (completeTask_only taskId)
  | cancelTask taskId => exact forgets_only (transition_only _ _ _ _ _ _ _ _)

/-! ### The contracts -/

/-- The contract a call writes: the active one under the new terms, or the first of the task. -/
def contractWritten (store : Store) (taskId : String) (terms : ContractTerms) (criteria : List Dict)
    (actions : List AllowedAction) : TaskContractRow :=
  match store.activeContract taskId with
  | some latest => terms.applied latest criteria actions
  | none =>
    terms.applied { id := formatPublicId .taskContract (store.nextNumber .taskContract), taskId := taskId }
      criteria actions

/-- The terms a call gives can be read, and this is the contract it then writes. -/
def Writes (store : Store) (taskId : String) (terms : ContractTerms) (contract : TaskContractRow) : Prop :=
  ∃ criteria actions, normalizeCriteriaFrom 1 terms.acceptanceCriteria = .ok criteria ∧
    terms.allowedActions.mapM parseAction = .ok actions ∧
    contract = contractWritten store taskId terms criteria actions

/-- How a call ends: nothing is written, or the contract is, over the active one or as a new one. -/
inductive ContractEnd (store : Store) (taskId : String) (terms : ContractTerms) (after : Store) : Prop where
  | refused (same : after.toTables = store.toTables)
  | updated (latest contract : TaskContractRow) (active : store.activeContract taskId = some latest)
      (writes : Writes store taskId terms contract) (named : contract.id = latest.id)
      (version : contract.version = latest.version) (task : contract.taskId = latest.taskId)
      (written : after.toTables = { store.toTables with contracts := store.contracts.put contract })
  | created (contract : TaskContractRow) (unwritten : store.activeContract taskId = none)
      (writes : Writes store taskId terms contract) (fresh : store.contracts.get? contract.id = none)
      (named : ∃ number, contract.id = formatPublicId .taskContract number) (task : contract.taskId = taskId)
      (written : after.toTables = { store.toTables with contracts := store.contracts.add contract })

theorem createOrUpdateContract_end (store : Store) (taskId : String) (terms : ContractTerms) :
    ContractEnd store taskId terms (exec (createOrUpdateContract taskId terms) store).2 := by
  unfold createOrUpdateContract
  cases found : store.tasks.get? taskId with
  | none =>
    rw [exec_bind_of_error (Runs.exec_taskRow_none found)]
    exact .refused rfl
  | some task =>
    have named : task.id = taskId := Table.get?_key found
    rw [exec_bind_of_ok (Runs.exec_taskRow_some found), named]
    cases normal : normalizeCriteriaFrom 1 terms.acceptanceCriteria with
    | error error => exact .refused rfl
    | ok criteria =>
      cases parsed : terms.allowedActions.mapM parseAction with
      | error error => exact .refused rfl
      | ok actions =>
        have writes : Writes store taskId terms
            (contractWritten store taskId terms criteria actions) :=
          ⟨criteria, actions, normal, parsed, rfl⟩
        rw [exec_bind_ofExcept rfl, exec_bind_ofExcept rfl, exec_get_bind]
        cases active : store.activeContract taskId with
        | some latest =>
          have applied : contractWritten store taskId terms criteria actions =
              terms.applied latest criteria actions := by
            unfold contractWritten
            rw [active]
          rw [applied] at writes
          exact .updated latest _ active writes rfl rfl rfl rfl
        | none =>
          have applied : contractWritten store taskId terms criteria actions =
              terms.applied { id := formatPublicId .taskContract (store.nextNumber .taskContract)
                              taskId := taskId } criteria actions := by
            unfold contractWritten
            rw [active]
          rw [applied] at writes
          dsimp only
          rw [exec_bind_of_ok (Op.exec_nextId _ _), exec_bind_of_ok (Op.exec_utcNow _),
            addContract, bind_assoc, exec_get_bind]
          split
          · exact .refused rfl
          · next fresh =>
              have free := Option.not_isSome_iff_eq_none.mp fresh
              exact .created _ active writes free ⟨_, rfl⟩ rfl rfl

theorem ContractEnd.others {store after : Store} {taskId : String} {terms : ContractTerms}
    (ended : ContractEnd store taskId terms after) :
    after.toTables = { store.toTables with contracts := after.contracts } := by
  cases ended with
  | refused same => rw [same]
  | updated _ _ _ _ _ _ _ written => rw [written]
  | created _ _ _ _ _ _ written => rw [written]

theorem attempt_contract (taskId : String) (terms : ContractTerms) (store : Store) :
    (exec (ServiceOperation.createOrUpdateContract taskId terms).attempt store).2 =
      (exec (createOrUpdateContract taskId terms) store).2 := by
  show (exec (createOrUpdateContract taskId terms >>= fun _ => pure ()) store).2 = _
  rw [exec_bind]
  rcases exec (createOrUpdateContract taskId terms) store with ⟨error | contract, after⟩ <;> rfl

theorem attempt_only {operation : ServiceOperation}
    (other : ∀ taskId terms, operation ≠ .createOrUpdateContract taskId terms) :
    Respects TaskTablesOnly operation.attempt := by
  cases operation with
  | createTask projectId title objective level => exact forgets_only (createTask_only _ _ _ _)
  | createOrUpdateContract taskId terms => exact absurd rfl (other taskId terms)
  | validateContract taskId => exact forgets_only (validateContract_only taskId)
  | recordDocumentationCompletion taskId targets references =>
    exact forgets_only (recordDocumentationCompletion_only _ _ _)
  | lifecycle operation => exact operation.attempt_only

end Lucius.Tasks
