import Lucius.Pilots.ControlledMutation

/-! The rows an accepted provisioning call adds to a store. -/

namespace Lucius.Pilots.ControlledMutation

open Lucius.Action Acceptance Queue

variable {store after before : Store} {done : Unit} {spec : TaskSpec} {provisioning : Provisioning}
  {task : TaskRow} {index : Nat}

/-- The tables a step leaves, and the audit events as they were. -/
structure Writes (before after : Store) (tables : Tables) : Prop where
  tables : after.toTables = tables
  audits : after.audits = before.audits

theorem addRow_ok {refused : Store → Bool} {write : Store → Store}
    (added : exec (addRow refused write) store = (.ok done, after)) :
    refused store = false ∧ after = write store := by
  unfold addRow at added
  rw [exec_get_bind] at added
  split at added
  · cases added
  · next free =>
      cases added
      exact ⟨by simpa using free, rfl⟩

theorem createProject_ok {spec : ProjectSpec} {row : ProjectRow}
    (done : exec (createProject spec) store = (.ok row, after)) :
    store.projects.get? row.id = none ∧
      Writes store after { store.toTables with projects := store.projects.add row } := by
  unfold createProject at done
  rw [exec_bind_of_ok (Op.exec_nextId _ _)] at done
  obtain ⟨organization, -, done⟩ := bind_ofExcept_ok done
  obtain ⟨description, -, done⟩ := bind_ofExcept_ok done
  obtain ⟨_, middle, added, done⟩ := bind_ok done
  obtain ⟨rfl, rfl⟩ := ok_pure done
  obtain ⟨free, rfl⟩ := addRow_ok added
  exact ⟨by simpa using free, rfl, rfl⟩

theorem createRepository_ok {spec : RepositorySpec} {projectId location : String}
    {row : RepositoryRegistrationRow}
    (done : exec (createRepository spec projectId location) store = (.ok row, after)) :
    store.repositories.get? row.id = none ∧ Writes store after { store.toTables with
      repositories := store.repositories.add row
      attachments := store.attachments ++ [⟨projectId, row.id⟩] } := by
  unfold createRepository at done
  rw [exec_bind_of_ok (Op.exec_nextId _ _)] at done
  obtain ⟨remote, -, done⟩ := bind_ofExcept_ok done
  obtain ⟨branch, -, done⟩ := bind_ofExcept_ok done
  obtain ⟨_, middle, added, done⟩ := bind_ok done
  obtain ⟨_, last, attached, done⟩ := bind_ok done
  obtain ⟨rfl, rfl⟩ := ok_pure done
  obtain ⟨free, rfl⟩ := addRow_ok added
  obtain ⟨-, rfl⟩ := addRow_ok attached
  have absent := (Bool.or_eq_false_iff.mp free).1
  exact ⟨by simpa using absent, rfl, rfl⟩

theorem createTask_ok {members : Dict} {row : TaskRow}
    (done : exec (createTask provisioning members) store = (.ok row, after)) :
    store.tasks.get? row.id = none ∧ row.status = .ready ∧ row.projectId = provisioning.projectId ∧
      Writes store after { store.toTables with tasks := store.tasks.add row } := by
  unfold createTask at done
  rw [exec_bind_of_ok (Op.exec_nextId _ _), exec_bind_of_ok (Op.exec_utcNow _),
    exec_bind_of_ok (Op.exec_utcNow _)] at done
  obtain ⟨columns, -, done⟩ := bind_ofExcept_ok done
  obtain ⟨_, middle, added, done⟩ := bind_ok done
  obtain ⟨rfl, rfl⟩ := ok_pure done
  obtain ⟨free, rfl⟩ := addRow_ok added
  exact ⟨by simpa using free, rfl, rfl, rfl, rfl⟩

theorem createContract_ok {row : TaskContractRow}
    (done : exec (createContract provisioning spec task) store = (.ok row, after)) :
    store.contracts.get? row.id = none ∧ row.taskId = task.id ∧
      Writes store after { store.toTables with contracts := store.contracts.add row } := by
  unfold createContract at done
  rw [exec_bind_of_ok (Op.exec_nextId _ _)] at done
  obtain ⟨constraints, -, done⟩ := bind_ofExcept_ok done
  obtain ⟨conditions, -, done⟩ := bind_ofExcept_ok done
  obtain ⟨_, middle, added, done⟩ := bind_ok done
  obtain ⟨rfl, rfl⟩ := ok_pure done
  obtain ⟨free, rfl⟩ := addRow_ok added
  exact ⟨by simpa using free, rfl, rfl, rfl⟩

theorem createPlan_ok {contract : TaskContractRow} {allowedPaths : List String} {checks : List Check}
    {row : EngineeringPlanRow}
    (done : exec (createPlan provisioning spec task contract allowedPaths checks) store = (.ok row, after)) :
    store.plans.get? row.id = none ∧ row.taskId = task.id ∧ row.taskContractId = contract.id ∧
      Writes store after { store.toTables with plans := store.plans.add row } := by
  unfold createPlan at done
  rw [exec_bind_of_ok (Op.exec_nextId _ _)] at done
  obtain ⟨targets, -, done⟩ := bind_ofExcept_ok done
  obtain ⟨_, middle, added, done⟩ := bind_ok done
  obtain ⟨rfl, rfl⟩ := ok_pure done
  obtain ⟨free, rfl⟩ := addRow_ok added
  exact ⟨by simpa using free, rfl, rfl, rfl, rfl⟩

theorem createFreeze_ok {plan : EngineeringPlanRow}
    {allowedPaths : List String} {checks : List Check} {row : PlanFreezeRow}
    (done : exec (createFreeze provisioning task plan allowedPaths checks) store = (.ok row, after)) :
    store.freezes.get? row.id = none ∧ row.taskId = task.id ∧ row.planId = plan.id ∧
      Writes store after { store.toTables with freezes := store.freezes.add row } := by
  unfold createFreeze at done
  rw [exec_bind_of_ok (Op.exec_nextId _ _)] at done
  obtain ⟨_, middle, added, done⟩ := bind_ok done
  obtain ⟨rfl, rfl⟩ := ok_pure done
  obtain ⟨free, rfl⟩ := addRow_ok added
  exact ⟨by simpa using free, rfl, rfl, rfl, rfl⟩

theorem createWorkflow_ok {planId planFreezeId : String} {item : Item} {row : PersistentWorkflowRow}
    (done : exec (createWorkflow provisioning index spec task planId planFreezeId item) store =
      (.ok row, after)) :
    store.workflows.get? row.id = none ∧ row.taskId = some task.id ∧ row.planId = some planId ∧
      row.planFreezeId = some planFreezeId ∧ row.taskBacklog = [item] ∧
      Writes store after { store.toTables with workflows := store.workflows.add row } := by
  unfold createWorkflow at done
  rw [exec_bind_of_ok (Op.exec_nextId _ _), exec_bind_of_ok (Op.exec_utcNow _),
    exec_bind_of_ok (Op.exec_utcNow _)] at done
  obtain ⟨branch, -, done⟩ := bind_ofExcept_ok done
  obtain ⟨_, middle, added, done⟩ := bind_ok done
  obtain ⟨rfl, rfl⟩ := ok_pure done
  obtain ⟨free, rfl⟩ := addRow_ok added
  exact ⟨by simpa using free, rfl, rfl, rfl, rfl, rfl, rfl⟩

/-! ### What a call leaves -/

/-- Each row of the one tables is a row of the other. -/
structure Grows (before after : Tables) : Prop where
  projects : before.projects.rows ⊆ after.projects.rows
  repositories : before.repositories.rows ⊆ after.repositories.rows
  tasks : before.tasks.rows ⊆ after.tasks.rows
  contracts : before.contracts.rows ⊆ after.contracts.rows
  plans : before.plans.rows ⊆ after.plans.rows
  freezes : before.freezes.rows ⊆ after.freezes.rows
  workflows : before.workflows.rows ⊆ after.workflows.rows

theorem Grows.refl (tables : Tables) : Grows tables tables where
  projects := List.Subset.refl _
  repositories := List.Subset.refl _
  tasks := List.Subset.refl _
  contracts := List.Subset.refl _
  plans := List.Subset.refl _
  freezes := List.Subset.refl _
  workflows := List.Subset.refl _

theorem Grows.trans {first second third : Tables} (one : Grows first second) (two : Grows second third) :
    Grows first third where
  projects := List.Subset.trans one.projects two.projects
  repositories := List.Subset.trans one.repositories two.repositories
  tasks := List.Subset.trans one.tasks two.tasks
  contracts := List.Subset.trans one.contracts two.contracts
  plans := List.Subset.trans one.plans two.plans
  freezes := List.Subset.trans one.freezes two.freezes
  workflows := List.Subset.trans one.workflows two.workflows

theorem get?_grown {α : Type} [Keyed α String] {before after : Table α} (grown : before.rows ⊆ after.rows)
    {key : String} {row : α} (found : before.get? key = some row) : after.get? key = some row := by
  have inside := Table.get?_of_mem (grown (Table.get?_mem found))
  rwa [Table.get?_key found] at inside

theorem subset_add {α : Type} [Keyed α String] (table : Table α) (row : α) :
    table.rows ⊆ (table.add row).rows := fun _ member => Table.mem_add_old member

/-- The rows one task is provisioned with. -/
structure TaskRows where
  task : TaskRow
  contract : TaskContractRow
  plan : EngineeringPlanRow
  freeze : PlanFreezeRow
  workflow : PersistentWorkflowRow

def TaskRows.added (rows : TaskRows) (tables : Tables) : Tables :=
  { tables with
    tasks := tables.tasks.add rows.task
    contracts := tables.contracts.add rows.contract
    plans := tables.plans.add rows.plan
    freezes := tables.freezes.add rows.freeze
    workflows := tables.workflows.add rows.workflow }

theorem TaskRows.added_grows (rows : TaskRows) (tables : Tables) : Grows tables (rows.added tables) where
  projects := List.Subset.refl _
  repositories := List.Subset.refl _
  tasks := subset_add _ _
  contracts := subset_add _ _
  plans := subset_add _ _
  freezes := subset_add _ _
  workflows := subset_add _ _

/-- The rows are filed, each naming the others, and the answer to the caller names them. -/
structure Filed (tables : Tables) (result : ProvisionedTask) (rows : TaskRows) : Prop where
  task : tables.tasks.get? result.taskId = some rows.task
  contract : tables.contracts.get? result.taskContractId = some rows.contract
  plan : tables.plans.get? result.planId = some rows.plan
  freeze : tables.freezes.get? result.planFreezeId = some rows.freeze
  workflow : tables.workflows.get? result.workflowId = some rows.workflow
  contractTask : rows.contract.taskId = result.taskId
  planTask : rows.plan.taskId = result.taskId
  planContract : rows.plan.taskContractId = result.taskContractId
  freezeTask : rows.freeze.taskId = result.taskId
  freezePlan : rows.freeze.planId = result.planId
  workflowTask : rows.workflow.taskId = some result.taskId
  workflowPlan : rows.workflow.planId = some result.planId
  workflowFreeze : rows.workflow.planFreezeId = some result.planFreezeId

theorem Filed.grown {before after : Tables} {result : ProvisionedTask} {rows : TaskRows}
    (filed : Filed before result rows) (grown : Grows before after) : Filed after result rows :=
  { filed with
    task := get?_grown grown.tasks filed.task
    contract := get?_grown grown.contracts filed.contract
    plan := get?_grown grown.plans filed.plan
    freeze := get?_grown grown.freezes filed.freeze
    workflow := get?_grown grown.workflows filed.workflow }

/-- The only item of the workflow is that of the task. -/
def ItemOf (provisioningId : String) (spec : TaskSpec) (index : Nat) (workflow : PersistentWorkflowRow) : Prop :=
  ∃ paths checks, workflow.taskBacklog = [queueItem provisioningId index spec paths checks]

structure Provisioned (provisioning : Provisioning) (index : Nat) (spec : TaskSpec) (before after : Store)
    (result : ProvisionedTask) (rows : TaskRows) : Prop where
  unknown : before.tasks.get? result.taskId = none
  unfiled : before.workflows.get? rows.workflow.id = none
  ready : rows.task.status = .ready
  project : result.projectId = provisioning.projectId
  repository : result.repositoryId = provisioning.repositoryId
  item : ItemOf provisioning.provisioningId spec index rows.workflow
  writes : Writes before after (rows.added before.toTables)
  filed : Filed after.toTables result rows

theorem provisionTask_ok {result : ProvisionedTask}
    (done : exec (provisionTask provisioning index spec) before = (.ok result, after)) :
    ∃ rows, Provisioned provisioning index spec before after result rows := by
  unfold provisionTask at done
  obtain ⟨paths, -, done⟩ := bind_ofExcept_ok done
  obtain ⟨checks, -, done⟩ := bind_ofExcept_ok done
  obtain ⟨task, first, tasked, done⟩ := bind_ok done
  obtain ⟨contract, second, contracted, done⟩ := bind_ok done
  obtain ⟨plan, third, planned, done⟩ := bind_ok done
  obtain ⟨freeze, fourth, frozen, done⟩ := bind_ok done
  obtain ⟨workflow, fifth, worked, done⟩ := bind_ok done
  obtain ⟨rfl, rfl⟩ := ok_pure done
  obtain ⟨freshTask, ready, -, ⟨oneTables, oneAudits⟩⟩ := createTask_ok tasked
  obtain ⟨freshContract, contractTask, ⟨twoTables, twoAudits⟩⟩ := createContract_ok contracted
  obtain ⟨freshPlan, planTask, planContract, ⟨threeTables, threeAudits⟩⟩ := createPlan_ok planned
  obtain ⟨freshFreeze, freezeTask, freezePlan, ⟨fourTables, fourAudits⟩⟩ := createFreeze_ok frozen
  obtain ⟨freshWorkflow, workflowTask, workflowPlan, workflowFreeze, backlog, ⟨fiveTables, fiveAudits⟩⟩ :=
    createWorkflow_ok worked
  rw [fourTables, threeTables, twoTables, oneTables] at fiveTables freshWorkflow
  rw [threeTables, twoTables, oneTables] at freshFreeze
  rw [twoTables, oneTables] at freshPlan
  rw [oneTables] at freshContract
  have audits : after.audits = before.audits := by
    rw [fiveAudits, fourAudits, threeAudits, twoAudits, oneAudits]
  refine ⟨⟨task, contract, plan, freeze, workflow⟩, freshTask, freshWorkflow, ready, rfl, rfl,
    ⟨paths, checks, backlog⟩, ⟨fiveTables, audits⟩, ?_⟩
  rw [fiveTables]
  exact {
    task := Table.get?_add_fresh freshTask
    contract := Table.get?_add_fresh freshContract
    plan := Table.get?_add_fresh freshPlan
    freeze := Table.get?_add_fresh freshFreeze
    workflow := Table.get?_add_fresh freshWorkflow
    contractTask := contractTask
    planTask := planTask
    planContract := planContract
    freezeTask := freezeTask
    freezePlan := freezePlan
    workflowTask := workflowTask
    workflowPlan := workflowPlan
    workflowFreeze := workflowFreeze }

/-- What the tasks of a call leave: an answer for each, and its rows. -/
structure TasksProvisioned (provisioning : Provisioning) (specs : List TaskSpec) (before after : Store)
    (results : List ProvisionedTask) (added : List PersistentWorkflowRow) : Prop where
  grows : Grows before.toTables after.toTables
  projects : after.projects = before.projects
  repositories : after.repositories = before.repositories
  audits : after.audits = before.audits
  workflows : after.workflows.rows = before.workflows.rows ++ added
  named : added.map PersistentWorkflowRow.id = results.map ProvisionedTask.workflowId
  items : List.Forall₂ (fun spec row => ∃ index, ItemOf provisioning.provisioningId spec index row) specs added
  placed : ∀ result ∈ results, result.projectId = provisioning.projectId ∧
    result.repositoryId = provisioning.repositoryId
  unknown : ∀ result ∈ results, before.tasks.get? result.taskId = none
  distinct : (results.map ProvisionedTask.taskId).Nodup
  filed : ∀ result ∈ results, ∃ rows, Filed after.toTables result rows ∧ rows.task.status = .ready ∧
    ∃ spec index, ItemOf provisioning.provisioningId spec index rows.workflow

/-- By induction over the tasks: each adds its rows to what those before it left. -/
theorem provisionTasks_ok {specs : List TaskSpec} {results : List ProvisionedTask}
    (done : exec (provisionTasks provisioning index specs) before = (.ok results, after)) :
    ∃ added, TasksProvisioned provisioning specs before after results added := by
  induction specs generalizing index before results with
  | nil =>
    obtain ⟨rfl, rfl⟩ := ok_pure done
    refine ⟨[], Grows.refl _, rfl, rfl, rfl, (List.append_nil _).symm, rfl, .nil, ?_, ?_, List.nodup_nil, ?_⟩
    all_goals
      intro result member
      cases member
  | cons spec rest ih =>
    rw [provisionTasks] at done
    obtain ⟨result, middle, first, done⟩ := bind_ok done
    obtain ⟨more, last, others, done⟩ := bind_ok done
    obtain ⟨rfl, rfl⟩ := ok_pure done
    obtain ⟨rows, one⟩ := provisionTask_ok first
    obtain ⟨added, tail⟩ := ih others
    have grown : Grows before.toTables middle.toTables := by
      rw [one.writes.tables]
      exact rows.added_grows _
    have extended : middle.workflows.rows = before.workflows.rows ++ [rows.workflow] := by
      rw [one.writes.tables]
      exact Table.add_rows one.unfiled
    have named : rows.workflow.id = result.workflowId := Table.get?_key one.filed.workflow
    refine ⟨rows.workflow :: added, {
      grows := grown.trans tail.grows
      projects := tail.projects.trans (by rw [one.writes.tables]; rfl)
      repositories := tail.repositories.trans (by rw [one.writes.tables]; rfl)
      audits := tail.audits.trans one.writes.audits
      workflows := ?_
      named := ?_
      items := .cons ⟨index, one.item⟩ tail.items
      placed := ?_
      unknown := ?_
      distinct := ?_
      filed := ?_ }⟩
    · rw [tail.workflows, extended, List.append_assoc, List.singleton_append]
    · rw [List.map_cons, List.map_cons, named, tail.named]
    · exact List.forall_mem_cons.mpr ⟨⟨one.project, one.repository⟩, tail.placed⟩
    · refine List.forall_mem_cons.mpr ⟨one.unknown, fun other member => ?_⟩
      have absent := tail.unknown other member
      cases known : before.tasks.get? other.taskId with
      | none => rfl
      | some row =>
        rw [get?_grown grown.tasks known] at absent
        cases absent
    · rw [List.map_cons, List.nodup_cons]
      refine ⟨fun repeated => ?_, tail.distinct⟩
      obtain ⟨other, member, same⟩ := List.mem_map.mp repeated
      have absent := tail.unknown other member
      rw [same, one.filed.task] at absent
      cases absent
    · exact List.forall_mem_cons.mpr
        ⟨⟨rows, one.filed.grown tail.grows, one.ready, spec, index, one.item⟩, tail.filed⟩

theorem existingProject_some {tables : Tables} {spec : ProjectSpec} {project : ProjectRow}
    (found : existingProject tables spec = .ok (some project)) : project ∈ tables.projects.rows := by
  unfold existingProject at found
  split at found
  · rename_i named slugged byName bySlug
    split at found
    · cases found
    · cases found
      exact List.mem_of_find?_eq_some byName
  · rename_i named byName bySlug
    cases found
    exact List.mem_of_find?_eq_some byName
  · rename_i slugged byName bySlug
    split at found
    · cases found
    · cases found
      exact List.mem_of_find?_eq_some bySlug
  · cases found

theorem resolveOrCreateProject_ok {spec : ProjectSpec} {project : ProjectRow}
    (done : exec (resolveOrCreateProject spec) store = (.ok project, after)) :
    after.projects.get? project.id = some project ∧ store.projects.rows ⊆ after.projects.rows ∧
      Writes store after { store.toTables with projects := after.projects } := by
  unfold resolveOrCreateProject at done
  rw [exec_get_bind] at done
  obtain ⟨existing, found, done⟩ := bind_ofExcept_ok done
  cases existing with
  | some known =>
    obtain ⟨rfl, rfl⟩ := ok_pure done
    exact ⟨Table.get?_of_mem (existingProject_some found), List.Subset.refl _, rfl, rfl⟩
  | none =>
    obtain ⟨fresh, ⟨tables, audits⟩⟩ := createProject_ok done
    have projects : after.projects = store.projects.add project := by rw [tables]
    rw [projects]
    exact ⟨Table.get?_add_fresh fresh, subset_add _ _, tables, audits⟩

theorem demand_ok {holds : Bool} {message : String} (passed : demand holds message = .ok done) :
    holds = true := by
  unfold demand at passed
  split at passed
  · assumption
  · cases passed

theorem rejectDuplicateProvisioning_ok {tables : Tables} {provisioningId : Json}
    (passed : rejectDuplicateProvisioning tables provisioningId = .ok done) :
    ∀ row ∈ tables.workflows.rows, ∀ item ∈ row.taskBacklog,
      namesProvisioning provisioningId item = false := by
  have free := demand_ok passed
  simpa using free

/-- What an accepted call leaves. -/
structure Accepted (spec : Specification) (before after : Store) (results : List ProvisionedTask)
    (added : List PersistentWorkflowRow) : Prop where
  unclaimed : ∀ row ∈ before.workflows.rows, ∀ item ∈ row.taskBacklog,
    namesProvisioning (.str spec.provisioningId) item = false
  grows : Grows before.toTables after.toTables
  audits : after.audits = before.audits
  workflows : after.workflows.rows = before.workflows.rows ++ added
  named : added.map PersistentWorkflowRow.id = results.map ProvisionedTask.workflowId
  items : List.Forall₂ (fun task row => ∃ index, ItemOf spec.provisioningId task index row) spec.tasks added
  unknown : ∀ result ∈ results, before.tasks.get? result.taskId = none
  distinct : (results.map ProvisionedTask.taskId).Nodup
  placed : ∀ result ∈ results, (after.projects.get? result.projectId).isSome ∧
    (after.repositories.get? result.repositoryId).isSome
  filed : ∀ result ∈ results, ∃ rows, Filed after.toTables result rows ∧ rows.task.status = .ready ∧
    ∃ task index, ItemOf spec.provisioningId task index rows.workflow

theorem attemptProvisioning_ok {workspaces : Workspaces} {specification : Json}
    {results : List ProvisionedTask}
    (done : exec (attemptProvisioning workspaces specification) before = (.ok results, after)) :
    ∃ members spec added, specification = .obj members ∧ validateSpecification members = .ok spec ∧
      Accepted spec before after results added := by
  unfold attemptProvisioning at done
  obtain ⟨members, read, done⟩ := bind_ofExcept_ok done
  rw [exec_get_bind] at done
  obtain ⟨_, -, done⟩ := bind_ofExcept_ok done
  unfold provisionSpecification at done
  obtain ⟨spec, valid, done⟩ := bind_ofExcept_ok done
  rw [exec_get_bind] at done
  obtain ⟨_, unclaimed, done⟩ := bind_ofExcept_ok done
  obtain ⟨site, -, done⟩ := bind_ofExcept_ok done
  obtain ⟨project, first, resolved, done⟩ := bind_ok done
  obtain ⟨repository, second, registered, done⟩ := bind_ok done
  obtain ⟨added, tasks⟩ := provisionTasks_ok done
  obtain ⟨known, projects, ⟨oneTables, oneAudits⟩⟩ := resolveOrCreateProject_ok resolved
  obtain ⟨fresh, ⟨twoTables, twoAudits⟩⟩ := createRepository_ok registered
  have repositories : before.repositories.rows ⊆ second.repositories.rows := by
    rw [twoTables, oneTables]
    exact subset_add _ _
  have grown : Grows before.toTables second.toTables := by
    rw [twoTables, oneTables]
    exact { Grows.refl before.toTables with
      projects := projects
      repositories := subset_add _ _ }
  have object : specification = .obj members := by
    cases specification with
    | obj other =>
      cases read
      rfl
    | _ => cases read
  have oldTasks : second.tasks = before.tasks := by rw [twoTables, oneTables]
  have oldWorkflows : second.workflows = before.workflows := by rw [twoTables, oneTables]
  refine ⟨members, spec, added, object, valid, {
    unclaimed := rejectDuplicateProvisioning_ok unclaimed
    grows := grown.trans tasks.grows
    audits := (tasks.audits.trans twoAudits).trans oneAudits
    workflows := oldWorkflows ▸ tasks.workflows
    named := tasks.named
    items := tasks.items
    unknown := oldTasks ▸ tasks.unknown
    distinct := tasks.distinct
    placed := ?_
    filed := tasks.filed }⟩
  intro result member
  obtain ⟨inProject, inRepository⟩ := tasks.placed result member
  have registeredAs : second.repositories.get? repository.id = some repository := by
    rw [twoTables]
    exact Table.get?_add_fresh fresh
  have projectKept : second.projects.get? project.id = some project := by
    rw [twoTables]
    exact known
  rw [inProject, inRepository, tasks.projects, tasks.repositories]
  exact ⟨by rw [projectKept]; rfl, by rw [registeredAs]; rfl⟩

end Lucius.Pilots.ControlledMutation
