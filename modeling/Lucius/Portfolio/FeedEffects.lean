import Lucius.Portfolio.FeedSteps
import Lucius.Runtime.Preparation

/-! What a call of the feeder leaves: a task for each piece of work it takes, and a workflow
for each of those that can be made ready. -/

namespace Lucius.Portfolio

open Lucius.Action Planning

/-- What neither feeding nor planning changes in a workflow. -/
structure WorkflowContent where
  id : String
  projectId : Option String
  taskId : Option String
  taskBacklog : List Dict
  dependencyGraph : Dict
  decisions : List Json

def content (row : PersistentWorkflowRow) : WorkflowContent :=
  ⟨row.id, row.projectId, row.taskId, row.taskBacklog, row.dependencyGraph, row.decisions⟩

/-- A piece of work, where it was fed to and what is recorded of it. -/
structure FedEntry where
  projectId : String
  repositoryId : String
  work : FedWork
  record : FeedRecord

/-- The content of the workflow of an entry that has one. -/
def FedEntry.content (entry : FedEntry) : Option WorkflowContent :=
  entry.record.workflowId.map (fun workflowId => Portfolio.content
    ((entry.work.request entry.projectId entry.repositoryId entry.record.taskId).row workflowId 0))

theorem FedEntry.content_named (entry : FedEntry) {workflowId : String}
    (named : entry.record.workflowId = some workflowId) :
    entry.content = some {
      id := workflowId
      projectId := some entry.projectId
      taskId := some entry.record.taskId
      taskBacklog := [entry.work.queueItem entry.record.taskId]
      dependencyGraph := [(feedItemId entry.work.sourceId, .arr [])]
      decisions := [.obj [("type", .str "DEDUPE_KEY"), ("key", .str entry.work.dedupeKey)]] } := by
  rw [FedEntry.content, named]
  rfl

structure FedEntry.Recorded (entry : FedEntry) : Prop where
  dedupeKey : entry.record.dedupeKey = entry.work.dedupeKey
  sourceId : entry.record.sourceId = entry.work.sourceId
  ready : entry.record.workflowId.isSome = true ↔ Stated entry.work.terms

/-- The tasks and the workflows that are added are those of the entries, in their order. -/
structure Feeds (before after : Tables) (entries : List FedEntry) : Prop where
  recorded : ∀ entry ∈ entries, entry.Recorded
  tasks : after.tasks.rows.map TaskRow.id =
    before.tasks.rows.map TaskRow.id ++ entries.map (·.record.taskId)
  contents : after.workflows.rows.map content =
    before.workflows.rows.map content ++ entries.filterMap FedEntry.content
  attached : ∀ projectId repositoryId, Tasks.isAttached before projectId repositoryId = true →
    Tasks.isAttached after projectId repositoryId = true

theorem feeds_nil {before after : Tables} (tasks : after.tasks = before.tasks)
    (contents : after.workflows.rows.map content = before.workflows.rows.map content)
    (attached : ∀ projectId repositoryId, Tasks.isAttached before projectId repositoryId = true →
      Tasks.isAttached after projectId repositoryId = true) : Feeds before after [] where
  recorded := fun _ member => absurd member List.not_mem_nil
  tasks := by rw [tasks, List.map_nil, List.append_nil]
  contents := by rw [contents, List.filterMap_nil, List.append_nil]
  attached := attached

theorem feeds_refl (tables : Tables) : Feeds tables tables [] :=
  feeds_nil rfl rfl (fun _ _ known => known)

theorem feeds_append {first second third : Tables} {front back : List FedEntry}
    (one : Feeds first second front) (two : Feeds second third back) :
    Feeds first third (front ++ back) where
  recorded := by
    intro entry member
    rcases List.mem_append.mp member with member | member
    · exact one.recorded entry member
    · exact two.recorded entry member
  tasks := by rw [two.tasks, one.tasks, List.map_append, List.append_assoc]
  contents := by rw [two.contents, one.contents, List.filterMap_append, List.append_assoc]
  attached := fun projectId repositoryId known =>
    two.attached projectId repositoryId (one.attached projectId repositoryId known)

/-! ### Projects and repositories -/

theorem ensureProject_ok {row project : ProjectRow} {store after : Store}
    (done : exec (ensureProject row) store = (.ok project, after)) :
    project.id = row.id ∧ Feeds store.toTables after.toTables [] := by
  unfold ensureProject at done
  rw [exec_get_bind] at done
  cases found : store.projects.get? row.id with
  | some known =>
    rw [found] at done
    obtain ⟨rfl, rfl⟩ := ok_pure done
    exact ⟨Table.get?_key found, feeds_refl _⟩
  | none =>
    rw [found] at done
    cases done
    exact ⟨rfl, feeds_nil rfl rfl (fun _ _ known => known)⟩

theorem ensureRegistration_ok {wanted : RepositoryRegistrationRow → Bool}
    {row registration : RepositoryRegistrationRow} {store after : Store}
    (done : exec (ensureRegistration wanted row) store = (.ok registration, after)) :
    after.repositories.get? registration.id = some registration ∧
      Feeds store.toTables after.toTables [] := by
  unfold ensureRegistration at done
  rw [exec_get_bind] at done
  cases found : store.repositories.rows.find? wanted with
  | some known =>
    rw [found] at done
    obtain ⟨rfl, rfl⟩ := ok_pure done
    exact ⟨Table.get?_of_mem (List.mem_of_find?_eq_some found), feeds_refl _⟩
  | none =>
    rw [found] at done
    dsimp only at done
    cases listed : store.repositories.get? row.id with
    | some known =>
      rw [listed] at done
      obtain ⟨rfl, rfl⟩ := ok_pure done
      exact ⟨Table.get?_of_mem (Table.get?_mem listed), feeds_refl _⟩
    | none =>
      rw [listed] at done
      cases done
      refine ⟨Table.get?_add_fresh listed, feeds_nil rfl rfl ?_⟩
      intro projectId repositoryId known
      unfold Tasks.isAttached at known ⊢
      rw [Bool.and_eq_true] at known ⊢
      obtain ⟨old, present⟩ := Option.isSome_iff_exists.mp known.1
      refine ⟨?_, known.2⟩
      dsimp only
      rw [Table.get?_add_old present]
      rfl

theorem ensureAttachment_ok {projectId repositoryId : String} {store after : Store}
    {registration : RepositoryRegistrationRow}
    (present : store.repositories.get? repositoryId = some registration)
    (done : exec (ensureAttachment projectId repositoryId) store = (.ok (), after)) :
    Tasks.isAttached after.toTables projectId repositoryId = true ∧
      Feeds store.toTables after.toTables [] := by
  unfold ensureAttachment at done
  rw [exec_get_bind] at done
  dsimp only at done
  split at done
  · next known =>
      cases done
      refine ⟨?_, feeds_refl _⟩
      rw [Tasks.isAttached, present, Option.isSome_some, Bool.true_and, decide_eq_true_eq]
      exact known
  · cases done
    constructor
    · rw [Tasks.isAttached, present, Option.isSome_some, Bool.true_and, decide_eq_true_eq]
      exact List.mem_append_right _ (List.mem_singleton.mpr rfl)
    · refine feeds_nil rfl rfl ?_
      intro project repository known
      rw [Tasks.isAttached, Bool.and_eq_true, decide_eq_true_eq] at known ⊢
      exact ⟨known.1, List.mem_append_left _ known.2⟩

/-! ### The plan of a fed workflow -/

theorem prepareWorkflowPlan_content {adapter : ScriptedRuntimePlanningAdapter} {workflowId : String}
    {reference : Planning.RuntimePlanReference} {store after : Store}
    (done : exec (adapter.prepareWorkflowPlan workflowId) store = (.ok reference, after)) :
    Feeds store.toTables after.toTables [] := by
  obtain ⟨workflow, present, named, ⟨-, same⟩ | ⟨-, planned⟩⟩ :=
    ScriptedRuntimePlanningAdapter.prepareWorkflowPlan_ok done
  · rw [same]
    exact feeds_refl _
  · obtain ⟨modelPlan, plan, created, freeze, -, -, -, makes, frozen, attached, freezes, attaches, -⟩ :=
      ScriptedRuntimePlanningAdapter.plan_ok planned
    have freezing := Runtime.freeze_freezesOnly adapter.gates plan.id created
    rw [freezes] at freezing
    obtain ⟨rows, frozenTables⟩ := freezing
    have only : frozen.toTables = { created.toTables with freezes := rows } := frozenTables
    obtain ⟨row, updatedAt, held, -, is, written⟩ := Workflows.attachPlan_ok attaches
    have workflows : frozen.workflows = store.workflows := by
      have kept : frozen.workflows = created.workflows := by rw [only]
      rw [kept, makes]
      rfl
    refine feeds_nil ?_ ?_ ?_
    · rw [written]
      have kept : frozen.tasks = created.tasks := by rw [only]
      rw [kept, makes]
      rfl
    · rw [written]
      dsimp only
      rw [workflows] at held ⊢
      apply Table.put_rows_map
      intro old member same
      have isRow : old = row := by
        apply Table.row_unique member (Table.get?_mem held)
        rw [same, is]
        rfl
      rw [isRow, is]
      rfl
    · have repositories : after.repositories = store.repositories := by
        rw [written]
        have kept : frozen.repositories = created.repositories := by rw [only]
        rw [kept, makes]
        rfl
      have attachments : after.attachments = store.attachments := by
        rw [written]
        have kept : frozen.attachments = created.attachments := by rw [only]
        rw [kept, makes]
        rfl
      intro projectId repositoryId known
      rw [Tasks.isAttached, repositories, attachments]
      exact known

/-! ### The pieces of work -/

theorem workFed_feeds {before after : Tables} {projectId repositoryId : String} {work : FedWork}
    {record : FeedRecord} (fed : WorkFed before after projectId repositoryId work record) :
    Feeds before after [⟨projectId, repositoryId, work, record⟩] where
  recorded := by
    intro entry member
    rw [List.mem_singleton.mp member]
    exact ⟨fed.dedupeKey, fed.sourceId, fed.ready⟩
  tasks := fed.tasks
  contents := by
    have made := fed.workflows
    unfold WorkflowMade at made
    rw [List.filterMap_cons, FedEntry.content, List.filterMap_nil]
    cases workflow : record.workflowId with
    | none =>
      rw [workflow] at made
      rw [made]
      exact (List.append_nil _).symm
    | some workflowId =>
      rw [workflow] at made
      obtain ⟨fresh, updatedAt, added⟩ := made
      rw [added, Table.add_rows fresh, List.map_append]
      rfl
  attached := by
    intro project repository known
    rw [Tasks.isAttached, fed.repositories, fed.attachments]
    exact known

/-- A list is fed when each piece of it is, in a state that the feeding keeps ready for it. -/
theorem feedAll_ok {α : Type} {feed : α → Op FeedRecord} (taken : α → FedEntry → Prop)
    (fit : Tables → Prop)
    (kept : ∀ before after entries, Feeds before after entries → fit before → fit after)
    (one : ∀ (work : α) (record : FeedRecord) (store after : Store), fit store.toTables →
      exec (feed work) store = (.ok record, after) →
        ∃ entry, taken work entry ∧ entry.record = record ∧
          Feeds store.toTables after.toTables [entry])
    {works : List α} {records : List FeedRecord} {store after : Store} (start : fit store.toTables)
    (done : exec (feedAll feed works) store = (.ok records, after)) :
    ∃ entries, List.Forall₂ taken works entries ∧ entries.map FedEntry.record = records ∧
      Feeds store.toTables after.toTables entries := by
  induction works generalizing store records with
  | nil =>
    obtain ⟨rfl, rfl⟩ := ok_pure done
    exact ⟨[], .nil, rfl, feeds_refl _⟩
  | cons work rest ih =>
    unfold feedAll at done
    obtain ⟨record, middle, first, done⟩ := bind_ok done
    obtain ⟨more, last, later, done⟩ := bind_ok done
    obtain ⟨rfl, rfl⟩ := ok_pure done
    obtain ⟨entry, is, recorded, fed⟩ := one work record store middle start first
    obtain ⟨entries, are, records, feds⟩ := ih (kept _ _ _ fed start) later
    refine ⟨entry :: entries, .cons is are, ?_, feeds_append fed feds⟩
    rw [List.map_cons, recorded, records]

end Lucius.Portfolio
