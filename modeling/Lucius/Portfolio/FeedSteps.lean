import Lucius.Portfolio.Feeding
import Lucius.Tasks.Creation

/-! What feeding a piece of work writes, and when its task can be made ready. -/

namespace Lucius.Portfolio

open Lucius.Action Tasks

/-- The terms of a contract for reading in one repository. -/
structure ReadingTerms (repositoryId : String) (terms : ContractTerms) : Prop where
  repositoryIds : terms.repositoryIds = [repositoryId]
  allowedActions : terms.allowedActions = readActions
  environment : terms.environment = .sandbox
  authorityLevel : terms.authorityLevel = .l0
  dependencies : terms.dependencies = []
  documentation : terms.documentationRequired = false

/-- The terms state an objective and a criterion. -/
def Stated (terms : ContractTerms) : Prop :=
  isBlank terms.objective = false ∧
    ∃ criteria, Tasks.normalizeCriteriaFrom 1 terms.acceptanceCriteria = .ok criteria ∧ criteria ≠ []

theorem readActions_parse {actions : List AllowedAction}
    (parsed : readActions.mapM parseAction = .ok actions) :
    actions = [.readRepository, .readDocumentation] := by
  have known : readActions.mapM parseAction = .ok [.readRepository, .readDocumentation] := by decide
  rw [known] at parsed
  exact (Except.ok.inj parsed).symm

/-- The task of a piece of work that is read is ready exactly when its contract states something. -/
theorem contractBlockers_reading {tables : Tables} {task : TaskRow} {contract old : TaskContractRow}
    {terms : ContractTerms} {repositoryId : String} {criteria : List Dict}
    {actions : List AllowedAction} {blockers : List Tasks.StructuredBlocker} {project : ProjectRow}
    (reading : ReadingTerms repositoryId terms)
    (found : tables.projects.get? task.projectId = some project) (active : project.status = .active)
    (attached : Tasks.isAttached tables task.projectId repositoryId = true)
    (level : task.authorityLevel = .l0)
    (parsed : terms.allowedActions.mapM parseAction = .ok actions)
    (is : contract = terms.applied old criteria actions)
    (contracted : tables.activeContract task.id = some contract)
    (read : contractBlockers tables task = .ok blockers) :
    blockers = [] ↔ isBlank terms.objective = false ∧ criteria ≠ [] := by
  have listed : actions = [.readRepository, .readDocumentation] := by
    rw [reading.allowedActions] at parsed
    exact readActions_parse parsed
  have again : contract.allowedActions.mapM parseAction = .ok actions := by
    rw [is, listed]
    rfl
  have projectFree : Tasks.validateProject (tables.projects.get? task.projectId) = [] := by
    rw [found, Tasks.validateProject, active]
    rfl
  have repositories : Tasks.validateRepositories tables task contract = [] := by
    have ids : contract.repositoryIds = [repositoryId] := by
      rw [is]
      exact reading.repositoryIds
    rw [Tasks.validateRepositories, ids, List.flatMap_cons, if_pos attached]
    rfl
  have dependencies : Tasks.validateDependencies tables task contract = [] := by
    have ids : contract.dependencies = [] := by
      rw [is]
      exact reading.dependencies
    rw [Tasks.validateDependencies, ids]
    rfl
  have authority : Tasks.validateAuthority task.authorityLevel contract.authorityLevel actions
      contract.environment = [] := by
    have contractLevel : contract.authorityLevel = .l0 := by
      rw [is]
      exact reading.authorityLevel
    have environment : contract.environment = .sandbox := by
      rw [is]
      exact reading.environment
    rw [level, contractLevel, environment, listed]
    decide
  have content : Tasks.validateContent contract = [] ↔ isBlank terms.objective = false ∧ criteria ≠ [] := by
    have objective : contract.objective = terms.objective := by
      rw [is]
      rfl
    have stated : contract.acceptanceCriteria = criteria := by
      rw [is]
      rfl
    have documentation : contract.documentationRequired = false := by
      rw [is]
      exact reading.documentation
    unfold Tasks.validateContent
    rw [objective, stated, documentation]
    cases isBlank terms.objective <;> cases criteria <;> simp
  unfold contractBlockers at read
  rw [contracted] at read
  dsimp only at read
  rw [again, projectFree, repositories, dependencies] at read
  dsimp only [bind, Except.bind] at read
  rw [authority] at read
  simp only [List.nil_append, List.append_nil] at read
  have same : blockers = Tasks.validateContent contract := (Except.ok.inj read).symm
  rw [same]
  exact content

/-- The workflows that a piece of work adds: one of what was asked for, or none. -/
def WorkflowMade (before after : Tables) (projectId repositoryId : String) (work : FedWork)
    (record : FeedRecord) : Prop :=
  match record.workflowId with
  | none => after.workflows = before.workflows
  | some workflowId => before.workflows.get? workflowId = none ∧ ∃ updatedAt,
      after.workflows = before.workflows.add
        ((work.request projectId repositoryId record.taskId).row workflowId updatedAt)

/-- What feeding a piece of work leaves. -/
structure WorkFed (before after : Tables) (projectId repositoryId : String) (work : FedWork)
    (record : FeedRecord) : Prop where
  dedupeKey : record.dedupeKey = work.dedupeKey
  sourceId : record.sourceId = work.sourceId
  ready : record.workflowId.isSome = true ↔ Stated work.terms
  tasks : after.tasks.rows.map TaskRow.id = before.tasks.rows.map TaskRow.id ++ [record.taskId]
  workflows : WorkflowMade before after projectId repositoryId work record
  projects : after.projects = before.projects
  repositories : after.repositories = before.repositories
  attachments : after.attachments = before.attachments

theorem feedWork_ok {projectId repositoryId : String} {work : FedWork} {record : FeedRecord}
    {store after : Store} (reading : ReadingTerms repositoryId work.terms)
    (attached : Tasks.isAttached store.toTables projectId repositoryId = true)
    (done : exec (feedWork projectId repositoryId work) store = (.ok record, after)) :
    WorkFed store.toTables after.toTables projectId repositoryId work record := by
  unfold feedWork at done
  obtain ⟨task, first, createdTask, done⟩ := bind_ok done
  have created := Tasks.createTask_ok createdTask
  obtain ⟨contract, second, writtenContract, done⟩ := bind_ok done
  have written := Tasks.createOrUpdateContract_ok writtenContract
  obtain ⟨blockers, third, marked, done⟩ := bind_ok done
  obtain ⟨readTask, present, read, kept⟩ := Tasks.markReady_reads marked
  have tasks : third.tasks.rows.map TaskRow.id = store.tasks.rows.map TaskRow.id ++ [task.id] := by
    rw [Tasks.taskEffect_ids (Tasks.markReady_ok marked), written.written, created.written]
    dsimp only
    rw [Table.add_rows created.fresh, List.map_append]
    rfl
  have workflowsKept : third.workflows = store.workflows := by
    rw [kept, written.written, created.written]
  have projectsKept : third.projects = store.projects := by
    rw [kept, written.written, created.written]
  have repositoriesKept : third.repositories = store.repositories := by
    rw [kept, written.written, created.written]
  have attachmentsKept : third.attachments = store.attachments := by
    rw [kept, written.written, created.written]
  have isTask : readTask = task := by
    have tasks : second.tasks = store.tasks.add task := by
      rw [written.written, created.written]
    rw [tasks, show task.id = Keyed.key task from rfl, Table.get?_add_fresh created.fresh] at present
    exact (Option.some.inj present).symm
  have ready : blockers = [] ↔ Stated work.terms := by
    obtain ⟨project, found, active⟩ := created.project
    obtain ⟨old, criteria, actions, normal, parsed, is⟩ := written.terms
    have projects : second.projects.get? task.projectId = some project := by
      rw [written.written, created.written, created.projectId]
      exact found
    have attachedThere : Tasks.isAttached second.toTables task.projectId repositoryId = true := by
      rw [written.written, created.written, created.projectId]
      exact attached
    rw [isTask] at read
    rw [contractBlockers_reading reading projects active attachedThere created.level parsed is
      written.active read]
    constructor
    · rintro ⟨objective, some⟩
      exact ⟨objective, criteria, normal, some⟩
    · rintro ⟨objective, others, same, some⟩
      rw [normal] at same
      cases same
      exact ⟨objective, some⟩
  cases blockers with
  | cons blocker rest =>
    obtain ⟨rfl, rfl⟩ := ok_pure done
    refine ⟨rfl, rfl, ?_, tasks, workflowsKept, projectsKept, repositoriesKept, attachmentsKept⟩
    exact iff_of_false Bool.false_ne_true (fun stated => List.cons_ne_nil _ _ (ready.mpr stated))
  | nil =>
    obtain ⟨workflow, last, made, done⟩ := bind_ok done
    obtain ⟨updatedAt, is, fresh, tables⟩ := Workflows.create_ok made
    obtain ⟨rfl, rfl⟩ := ok_pure done
    refine ⟨rfl, rfl, iff_of_true rfl (ready.mp rfl), ?_, ⟨?_, updatedAt, ?_⟩, ?_, ?_, ?_⟩
    · rw [tables]
      exact tasks
    · rw [← workflowsKept]
      exact fresh
    · rw [tables, ← is]
      dsimp only
      rw [workflowsKept]
    · rw [tables]
      exact projectsKept
    · rw [tables]
      exact repositoriesKept
    · rw [tables]
      exact attachmentsKept

end Lucius.Portfolio
