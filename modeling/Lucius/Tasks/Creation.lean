import Lucius.Tasks.Transitions

/-! What creating a task, writing its contract and making it ready leave behind. -/

namespace Lucius.Tasks

open Lucius.Action

section

variable {store after : Store}

/-- A created task is a new draft of an active project. -/
structure TaskCreated (before after : Tables) (projectId : String) (level : AuthorityLevel)
    (task : TaskRow) : Prop where
  project : ∃ project, before.projects.get? projectId = some project ∧ project.status = .active
  projectId : task.projectId = projectId
  level : task.authorityLevel = level
  status : task.status = .draft
  fresh : before.tasks.get? task.id = none
  written : after = { before with tasks := before.tasks.add task }

theorem createTask_ok {projectId title objective : String} {level : AuthorityLevel} {task : TaskRow}
    (done : exec (createTask projectId title objective level) store = (.ok task, after)) :
    TaskCreated store.toTables after.toTables projectId level task := by
  unfold createTask at done
  rw [exec_get_bind] at done
  cases found : store.projects.get? projectId with
  | none =>
    rw [found] at done
    cases done
  | some project =>
    rw [found] at done
    dsimp only at done
    split at done
    · cases done
    · next active =>
        rw [exec_bind_of_ok (Op.exec_nextId _ _), exec_bind_of_ok (Op.exec_utcNow _),
          exec_get_bind] at done
        split at done
        · cases done
        · next fresh =>
            rw [exec_bind_of_ok (exec_set _ _), auditTask,
              exec_bind_of_ok (Op.exec_record _ _)] at done
            obtain ⟨rfl, rfl⟩ := ok_pure done
            have named : project.id = projectId := Table.get?_key found
            exact ⟨⟨project, found, not_not.mp active⟩, named, rfl, rfl, by simpa using fresh, rfl⟩

end

/-! ### The active contract -/

theorem sortedBy_map {α κ : Type} [LE κ] [DecidableLE κ] {key : α → κ} {view : α → α}
    {items : List α} (same : ∀ item ∈ items, key (view item) = key item) :
    sortedBy key (items.map view) = (sortedBy key items).map view := by
  unfold sortedBy
  symm
  apply List.map_insertionSort
  intro left inLeft right inRight
  rw [same left inLeft, same right inRight]

/-- A contract that is rewritten under its own number, version and task stays the active one. -/
theorem activeContract_put {tables : Tables} {taskId : String} {old new : TaskContractRow}
    (active : tables.activeContract taskId = some old) (named : new.id = old.id)
    (task : new.taskId = old.taskId) (version : new.version = old.version) :
    ({ tables with contracts := tables.contracts.put new }).activeContract taskId = some new := by
  have listed : old ∈ tables.contracts.rows ∧ old.taskId = taskId := by
    have member := List.mem_of_getLast? active
    rw [mem_sortedBy, List.mem_reverse, List.mem_filter, decide_eq_true_eq] at member
    exact member
  generalize rewritten : (fun row : TaskContractRow => if row.id = new.id then new else row) = view
  have kept : ∀ row ∈ tables.contracts.rows, (view row).taskId = row.taskId ∧
      (view row).version = row.version := by
    intro row member
    rw [← rewritten]
    dsimp only
    split
    · next same =>
        have is : row = old := Table.row_unique member listed.1 (same.trans named)
        rw [is]
        exact ⟨task, version⟩
    · exact ⟨rfl, rfl⟩
  have filtered : ((tables.contracts.put new).rows.filter (fun row => row.taskId = taskId)) =
      (tables.contracts.rows.filter (fun row => row.taskId = taskId)).map view := by
    have rows : (tables.contracts.put new).rows = tables.contracts.rows.map view := by
      rw [← rewritten]
      rfl
    rw [rows, List.filter_map]
    congr 1
    apply List.filter_congr
    intro row member
    rw [Function.comp_apply, (kept row member).1]
  have sorted : sortedBy TaskContractRow.version
      ((tables.contracts.rows.filter (fun row => row.taskId = taskId)).map view).reverse =
      (sortedBy TaskContractRow.version
        (tables.contracts.rows.filter (fun row => row.taskId = taskId)).reverse).map view := by
    rw [← List.map_reverse]
    apply sortedBy_map
    intro row member
    exact (kept row (List.mem_of_mem_filter (List.mem_reverse.mp member))).2
  have here : view old = new := by
    rw [← rewritten]
    exact if_pos named.symm
  unfold Tables.activeContract at active ⊢
  dsimp only
  rw [filtered, sorted, List.getLast?_map, active, Option.map_some, here]

theorem activeContract_add {tables : Tables} {new : TaskContractRow}
    (fresh : tables.contracts.get? new.id = none) (none : tables.activeContract new.taskId = none) :
    ({ tables with contracts := tables.contracts.add new }).activeContract new.taskId = some new := by
  have nothing : tables.contracts.rows.filter (fun row => row.taskId = new.taskId) = [] := by
    unfold Tables.activeContract at none
    rw [List.getLast?_eq_none_iff, List.eq_nil_iff_forall_not_mem] at none
    rw [List.eq_nil_iff_forall_not_mem]
    intro row member
    apply none row
    rw [mem_sortedBy, List.mem_reverse]
    exact member
  have rows : (tables.contracts.add new).rows = tables.contracts.rows ++ [new] :=
    Table.add_rows fresh
  unfold Tables.activeContract
  dsimp only
  rw [rows, List.filter_append, nothing]
  simp [sortedBy]

variable {store after : Store}

/-- What writing a contract leaves: the terms, read, are the active contract of the task. -/
structure ContractWritten (before after : Tables) (taskId : String) (terms : ContractTerms)
    (contract : TaskContractRow) : Prop where
  terms : ∃ old criteria actions, normalizeCriteriaFrom 1 terms.acceptanceCriteria = .ok criteria ∧
    terms.allowedActions.mapM parseAction = .ok actions ∧ contract = terms.applied old criteria actions
  active : after.activeContract taskId = some contract
  written : after = { before with contracts := after.contracts }

theorem createOrUpdateContract_ok {taskId : String} {terms : ContractTerms}
    {contract : TaskContractRow}
    (done : exec (createOrUpdateContract taskId terms) store = (.ok contract, after)) :
    ContractWritten store.toTables after.toTables taskId terms contract := by
  unfold createOrUpdateContract at done
  obtain ⟨task, present, named, done⟩ := taskRow_bind_ok done
  obtain ⟨criteria, normal, done⟩ := bind_ofExcept_ok done
  obtain ⟨actions, parsed, done⟩ := bind_ofExcept_ok done
  rw [exec_get_bind] at done
  cases active : store.activeContract task.id with
  | some latest =>
    rw [active] at done
    dsimp only [writeContract] at done
    rw [exec_bind_of_ok (Op.exec_utcNow _), exec_bind_of_ok (exec_modify _ _),
      auditTask, exec_bind_of_ok (Op.exec_record _ _)] at done
    obtain ⟨rfl, rfl⟩ := ok_pure done
    rw [named] at active
    exact ⟨⟨latest, criteria, actions, normal, parsed, rfl⟩,
      activeContract_put active rfl rfl rfl, rfl⟩
  | none =>
    rw [active] at done
    dsimp only at done
    rw [exec_bind_of_ok (Op.exec_nextId _ _), exec_bind_of_ok (Op.exec_utcNow _)] at done
    obtain ⟨_, middle, added, done⟩ := bind_ok done
    rw [auditTask, exec_bind_of_ok (Op.exec_record _ _)] at done
    obtain ⟨rfl, rfl⟩ := ok_pure done
    unfold addContract at added
    rw [exec_get_bind] at added
    split at added
    · cases added
    · next fresh =>
        cases added
        rw [named] at active
        have free := Option.not_isSome_iff_eq_none.mp fresh
        refine ⟨⟨_, criteria, actions, normal, parsed, rfl⟩, ?_, rfl⟩
        rw [← named] at active ⊢
        exact activeContract_add free active

theorem taskEffect_ids {before after : Tables} (effect : TaskEffect before after) :
    after.tasks.rows.map TaskRow.id = before.tasks.rows.map TaskRow.id := by
  rcases effect with ⟨same, _⟩ | ⟨task, _, _, ⟨row, _, written⟩, _⟩
  · rw [same]
  · rw [written]
    exact Table.putRows_keys before.tasks.rows row

theorem markReady_reads {taskId : String} {blockers : List StructuredBlocker}
    (done : exec (markReady taskId) store = (.ok blockers, after)) :
    ∃ task, store.tasks.get? taskId = some task ∧
      contractBlockers store.toTables task = .ok blockers ∧
      after.toTables = { store.toTables with tasks := after.tasks } := by
  unfold markReady at done
  obtain ⟨task, present, named, done⟩ := taskRow_bind_ok done
  obtain ⟨_, _, done⟩ := bind_ofExcept_ok done
  obtain ⟨found, middle, validated, done⟩ := bind_ok done
  have same := (validateContract_ok validated).symm
  subst same
  have read : contractBlockers store.toTables task = .ok found := by
    unfold validateContract at validated
    obtain ⟨again, there, alike, validated⟩ := taskRow_bind_ok validated
    rw [exec_get_bind] at validated
    have is : again = task := by
      rw [alike, present] at there
      exact (Option.some.inj there).symm
    rw [← is]
    exact (ok_ofExcept validated).1
  have held : store.tasks.get? taskId = some task := named ▸ present
  cases found with
  | cons first rest =>
    obtain ⟨blocked, last, applied, done⟩ := bind_ok done
    obtain ⟨_, tables⟩ := applyBlocker_ok applied
    rw [auditTask, auditTask, exec_bind_of_ok (Op.exec_record _ _),
      exec_bind_of_ok (Op.exec_record _ _)] at done
    obtain ⟨rfl, rfl⟩ := ok_pure done
    refine ⟨task, held, read, ?_⟩
    change last.toTables = { store.toTables with tasks := last.tasks }
    rw [tables]
  | nil =>
    dsimp only at done
    rw [exec_bind_of_ok (exec_writeTask _ _), auditTask,
      exec_bind_of_ok (Op.exec_record _ _)] at done
    obtain ⟨rfl, rfl⟩ := ok_pure done
    exact ⟨task, held, read, rfl⟩

end Lucius.Tasks
