import Lucius.Tasks.Readiness

/-! Over any run of the service, a ready task has passed the checks of its last marking, and the
dependencies that were checked lead to no cycle. -/

namespace Lucius.Tasks.Readiness

open Lucius.Action Run

/-! ### What a contract without blockers has -/

theorem validateProject_nil {project : Option ProjectRow} (valid : validateProject project = []) :
    ∃ row, project = some row ∧ row.status = .active := by
  cases project with
  | none => cases valid
  | some row =>
    dsimp only [validateProject] at valid
    split at valid
    · cases valid
    · rename_i active
      exact ⟨row, rfl, not_not.mp active⟩

theorem validateRepositories_nil {tables : Tables} {task : TaskRow} {contract : TaskContractRow}
    (valid : validateRepositories tables task contract = []) :
    ∀ repositoryId ∈ contract.repositoryIds, isAttached tables task.projectId repositoryId = true := by
  intro repositoryId member
  have none := List.flatMap_eq_nil_iff.mp valid repositoryId member
  split at none
  · assumption
  · cases none

theorem validateDependency_nil {tables : Tables} {task : TaskRow} {dependencyId : String}
    (valid : validateDependency tables task dependencyId = []) :
    statusOf tables dependencyId = some .complete := by
  unfold validateDependency at valid
  split at valid
  · cases valid
  · cases present : tables.tasks.get? dependencyId with
    | none =>
      rw [present] at valid
      cases valid
    | some dependency =>
      rw [present] at valid
      have status := (List.append_eq_nil_iff.mp valid).2
      split at status
      · cases status
      · rename_i complete
        unfold statusOf
        rw [present, Option.map_some, not_not.mp complete]

/-- The checks of a contract that has no blocker. -/
structure Checked (tables : Tables) (task : TaskRow) (contract : TaskContractRow) : Prop where
  active : tables.activeContract task.id = some contract
  project : validateProject (tables.projects.get? task.projectId) = []
  repositories : validateRepositories tables task contract = []
  dependencies : validateDependencies tables task contract = []

theorem contractBlockers_nil {tables : Tables} {task : TaskRow}
    (valid : contractBlockers tables task = .ok []) : ∃ contract, Checked tables task contract := by
  unfold contractBlockers at valid
  cases active : tables.activeContract task.id with
  | none =>
    rw [active] at valid
    have empty := Except.ok.inj valid
    simp at empty
  | some contract =>
    rw [active] at valid
    dsimp only at valid
    cases read : contract.allowedActions.mapM parseAction with
    | error error =>
      rw [read] at valid
      cases valid
    | ok actions =>
      rw [read] at valid
      have empty := Except.ok.inj valid
      simp only [List.append_eq_nil_iff] at empty
      obtain ⟨⟨⟨⟨project, _⟩, repositories⟩, dependencies⟩, _⟩ := empty
      exact ⟨contract, active, project, repositories, dependencies⟩

theorem granted_of_valid {tables : Tables} {taskId : String} {task : TaskRow}
    (present : tables.tasks.get? taskId = some task) (unfinished : task.status ∉ terminalStatuses)
    (valid : contractBlockers tables task = .ok []) : Granted ⟨taskId, tables, []⟩ := by
  have named : task.id = taskId := Table.get?_key present
  obtain ⟨contract, checked⟩ := contractBlockers_nil valid
  have active := checked.active
  rw [named] at active
  have project := validateProject_nil checked.project
  have attached := validateRepositories_nil checked.repositories
  constructor
  · exact ⟨task, present, unfinished, contract, active, project, attached⟩
  · intro dependencyId member
    unfold Mark.dependencies at member
    rw [active] at member
    have none := List.flatMap_eq_nil_iff.mp checked.dependencies dependencyId member
    exact validateDependency_nil none

/-! ### The markings of a run -/

theorem lastMark_append_other {marks : List Mark} {mark : Mark} {taskId : String}
    (other : mark.taskId ≠ taskId) : lastMark (marks ++ [mark]) taskId = lastMark marks taskId := by
  unfold lastMark
  rw [List.filter_append, List.filter_cons_of_neg (by simpa using other), List.filter_nil,
    List.append_nil]

theorem lastMark_append_same (marks : List Mark) (mark : Mark) :
    lastMark (marks ++ [mark]) mark.taskId = some mark := by
  unfold lastMark
  rw [List.filter_append, List.filter_cons_of_pos (by simp), List.filter_nil, List.getLast?_concat]

theorem dependsOn_append_iff {marks : List Mark} {mark : Mark} {taskId dependencyId : String} :
    DependsOn (marks ++ [mark]) taskId dependencyId ↔
      DependsOn marks taskId dependencyId ∨
        mark.taskId = taskId ∧ mark.blockers = [] ∧ dependencyId ∈ mark.dependencies := by
  unfold DependsOn
  constructor
  · rintro ⟨found, member, rest⟩
    cases List.mem_append.mp member with
    | inl earlier => exact .inl ⟨found, earlier, rest⟩
    | inr now =>
      rw [List.mem_singleton] at now
      subst now
      exact .inr rest
  · rintro (⟨found, member, rest⟩ | rest)
    · exact ⟨found, List.mem_append_left _ member, rest⟩
    · exact ⟨mark, List.mem_append_right _ (List.mem_singleton_self _), rest⟩

theorem dependsOn_append_blocked {marks : List Mark} {mark : Mark} (blocked : mark.blockers ≠ [])
    (taskId dependencyId : String) :
    DependsOn (marks ++ [mark]) taskId dependencyId ↔ DependsOn marks taskId dependencyId := by
  rw [dependsOn_append_iff]
  constructor
  · rintro (before | ⟨_, none, _⟩)
    · exact before
    · exact absurd none blocked
  · exact .inl

/-- Ready tasks have passed their last marking, and what was depended on is complete. -/
structure Sound (state : ReadinessState) : Prop where
  ready : ∀ taskId, statusOf state.store.toTables taskId = some .ready →
    ∃ mark, lastMark state.marks taskId = some mark ∧ mark.blockers = [] ∧ Granted mark
  complete : ∀ taskId dependencyId, DependsOn state.marks taskId dependencyId →
    statusOf state.store.toTables dependencyId = some .complete
  acyclic : ∀ taskId, ¬ Relation.TransGen (DependsOn state.marks) taskId taskId

theorem sound_start {start : Store} (unready : ∀ task ∈ start.tasks.rows, task.status ≠ .ready) :
    Sound ⟨start, []⟩ where
  ready := by
    intro taskId ready
    obtain ⟨task, present, status⟩ := Option.map_eq_some_iff.mp ready
    exact absurd status (unready task (Table.get?_mem present))
  complete := by
    rintro taskId dependencyId ⟨mark, member, _⟩
    cases member
  acyclic := by
    intro taskId cycle
    obtain ⟨_, _, mark, member, _⟩ := Relation.TransGen.tail'_iff.mp cycle
    cases member

theorem sound_kept {state : ReadinessState} {after : Store} (sound : Sound state)
    (kept : Kept state.store after) : Sound ⟨after, state.marks⟩ where
  ready := fun taskId ready => sound.ready taskId (kept.ready taskId ready)
  complete := fun taskId dependencyId depends =>
    kept.complete dependencyId (sound.complete taskId dependencyId depends)
  acyclic := sound.acyclic

theorem sound_blocked {state : ReadinessState} {after : Store} {mark : Mark} (sound : Sound state)
    (kept : Kept state.store after) (blocked : mark.blockers ≠ [])
    (unready : statusOf after.toTables mark.taskId ≠ some .ready) :
    Sound ⟨after, state.marks ++ [mark]⟩ where
  ready := by
    intro taskId ready
    have other : mark.taskId ≠ taskId := by
      intro same
      rw [← same] at ready
      exact unready ready
    rw [lastMark_append_other other]
    exact sound.ready taskId (kept.ready taskId ready)
  complete := by
    intro taskId dependencyId depends
    rw [dependsOn_append_blocked blocked] at depends
    exact kept.complete dependencyId (sound.complete taskId dependencyId depends)
  acyclic := by
    intro taskId cycle
    have before : Relation.TransGen (DependsOn state.marks) taskId taskId :=
      Relation.TransGen.mono
        (fun left right depends => (dependsOn_append_blocked blocked left right).mp depends) _ _ cycle
    exact sound.acyclic taskId before

/-- No task depends on one that is not complete: the new dependencies close no cycle, and what
they are on stays complete. -/
theorem sound_ready {state : ReadinessState} {after : Store} {mark : Mark} {task row : TaskRow}
    (sound : Sound state) (granted : Granted mark)
    (looked : mark.tables = state.store.toTables) (clear : mark.blockers = [])
    (present : state.store.tasks.get? mark.taskId = some task)
    (unfinished : task.status ∉ terminalStatuses)
    (named : row.id = mark.taskId) (tasks : after.tasks = state.store.tasks.put row) :
    Sound ⟨after, state.marks ++ [mark]⟩ := by
  have incomplete : statusOf state.store.toTables mark.taskId ≠ some .complete := by
    unfold statusOf
    rw [present]
    intro complete
    rw [Option.some.inj complete] at unfinished
    exact unfinished (by decide)
  have found : ∀ left right, DependsOn (state.marks ++ [mark]) left right →
      statusOf state.store.toTables right = some .complete := by
    intro left right depends
    cases dependsOn_append_iff.mp depends with
    | inl before => exact sound.complete left right before
    | inr now =>
      rw [← looked]
      exact granted.complete right now.2.2
  have others : ∀ taskId, taskId ≠ mark.taskId →
      statusOf after.toTables taskId = statusOf state.store.toTables taskId := by
    intro taskId different
    have other : row.id ≠ taskId := by
      rw [named]
      exact different.symm
    unfold statusOf
    rw [tasks, Table.get?_put_other _ _ other]
  constructor
  · intro taskId ready
    by_cases same : taskId = mark.taskId
    · rw [same]
      exact ⟨mark, lastMark_append_same _ _, clear, granted⟩
    · rw [others taskId same] at ready
      rw [lastMark_append_other (Ne.symm same)]
      exact sound.ready taskId ready
  · intro left right depends
    have complete := found left right depends
    have different : right ≠ mark.taskId := by
      intro same
      rw [same] at complete
      exact incomplete complete
    rw [others right different]
    exact complete
  · have added : ∀ left right, DependsOn (state.marks ++ [mark]) left right →
        DependsOn state.marks left right ∨ left = mark.taskId := by
      intro left right depends
      cases dependsOn_append_iff.mp depends with
      | inl before => exact .inl before
      | inr now => exact .inr now.1.symm
    have unentered : ∀ left, ¬ DependsOn (state.marks ++ [mark]) left mark.taskId :=
      fun left depends => incomplete (found left mark.taskId depends)
    exact Links.acyclic_grown sound.acyclic added unentered

/-! ### Runs -/

theorem sound_service {state : ReadinessState} (sound : Sound state) (operation : ServiceOperation) :
    Sound (step state (.service operation)) := by
  by_cases marking : ∃ taskId, operation = .lifecycle (.markReady taskId)
  · obtain ⟨taskId, rfl⟩ := marking
    have left : (exec (ServiceOperation.lifecycle (.markReady taskId)).attempt state.store).2 =
        (exec (markReady taskId) state.store).2 := Runs.exec_discarded _ state.store
    have ends := markReady_end state.store taskId
    unfold step marked
    dsimp only
    rw [left]
    generalize (exec (markReady taskId) state.store).2 = after at ends ⊢
    generalize (exec (markReady taskId) state.store).1 = outcome at ends ⊢
    cases ends with
    | raised tasks =>
      dsimp only
      rw [List.append_nil]
      exact sound_kept sound (kept_of_tasks tasks)
    | @blocked task first rest blockedAt updatedAt _ present unfinished tasks =>
      have named : (blockedRow task first blockedAt updatedAt).id = taskId := Table.get?_key present
      have blocked : (blockedRow task first blockedAt updatedAt).status ≠ .ready := by
        simp [blockedRow]
      have unready : statusOf after.toTables taskId ≠ some .ready := by
        unfold statusOf
        rw [tasks, Table.get?_put_same present named]
        simp [blockedRow]
      exact sound_blocked sound (kept_put present unfinished named blocked tasks)
        (List.cons_ne_nil _ _) unready
    | ready present unfinished valid named status tasks =>
      have granted := granted_of_valid present unfinished valid
      exact sound_ready sound granted rfl rfl present unfinished named tasks
  · have unmarked : marked state.store operation = [] := by
      unfold marked
      split
      · rename_i taskId
        exact absurd ⟨taskId, rfl⟩ marking
      · rfl
    have kept := attempt_kept state.store operation (by simp [unmarked])
    unfold step
    dsimp only
    rw [unmarked, List.append_nil]
    exact sound_kept sound kept

theorem sound_step (state : ReadinessState) (operation : ReadinessOperation) (sound : Sound state) :
    Sound (step state operation) := by
  cases operation with
  | service operation => exact sound_service sound operation
  | elsewhere change untouched => exact sound_kept sound (kept_of_tasks (untouched state.store))

/-- A marking that reports blockers leaves its task blocked for the first of them. -/
def BlocksFirst (state : ReadinessState) : ReadinessOperation → Prop
  | .service (.lifecycle (.markReady taskId)) =>
    ∀ first rest, (exec (markReady taskId) state.store).1 = .ok (first :: rest) →
      ∃ task, (step state (.service (.lifecycle (.markReady taskId)))).store.tasks.get? taskId =
          some task ∧
        task.status = .blocked ∧ task.blockerCode = some (StrEnum.value first.code) ∧
        task.blockerMessage = some first.message
  | _ => True

theorem blocksFirst (state : ReadinessState) (operation : ReadinessOperation) :
    BlocksFirst state operation := by
  cases operation with
  | elsewhere change untouched => trivial
  | service operation =>
    cases operation with
    | lifecycle operation =>
      cases operation with
      | markReady taskId =>
        intro first rest reported
        have left : (exec (ServiceOperation.lifecycle (.markReady taskId)).attempt state.store).2 =
            (exec (markReady taskId) state.store).2 := Runs.exec_discarded _ state.store
        have ends := markReady_end state.store taskId
        rw [reported] at ends
        cases ends with
        | @blocked task first rest blockedAt updatedAt _ present unfinished tasks =>
          have named : (blockedRow task first blockedAt updatedAt).id = taskId :=
            Table.get?_key present
          refine ⟨blockedRow task first blockedAt updatedAt, ?_, rfl, rfl, rfl⟩
          unfold step
          dsimp only
          rw [left, tasks]
          exact Table.get?_put_same present named
      | _ => trivial
    | _ => trivial

theorem readiness_sound (start : Store) (operations : List ReadinessOperation)
    (unready : ∀ task ∈ start.tasks.rows, task.status ≠ .ready) :
    Sound (run step ⟨start, []⟩ operations) ∧ Meets step BlocksFirst ⟨start, []⟩ operations := by
  have sound := Run.invariant_run step Sound sound_step ⟨start, []⟩ operations (sound_start unready)
  exact ⟨sound, Run.meets_of_always step _ blocksFirst _ _⟩

/-! ### Contracts that are edited after the marking -/

def dependenciesNow (tables : Tables) (taskId : String) : List String :=
  ((tables.activeContract taskId).map TaskContractRow.dependencies).getD []

def planned : Store :=
  { projects := .single { id := "LPROJ_000001" } }

def created : ReadinessOperation :=
  .service (.createTask "LPROJ_000001" "note" "note" .l0)

def contracted (taskId : String) (dependencies : List String) : ReadinessOperation :=
  .service (.createOrUpdateContract taskId
    { objective := "note", acceptanceCriteria := [.str "noted"], dependencies := dependencies })

def readied (taskId : String) : List ReadinessOperation := [.service (.lifecycle (.markReady taskId))]

def finished (taskId runId : String) : List ReadinessOperation :=
  readied taskId ++
    [.service (.lifecycle (.startRun taskId none)),
      .service (.lifecycle (.markImplementationComplete taskId (some runId) none)),
      .service (.lifecycle (.completeTask taskId))]

/-- Three tasks are made ready one after the other, each once the one before is complete; the
contract of the first is edited when the task is complete. -/
def looping : List ReadinessOperation :=
  [created, created, created, contracted "LTASK_000001" []] ++
    finished "LTASK_000001" "LRUN_000001" ++
    [contracted "LTASK_000001" ["LTASK_000003"], contracted "LTASK_000002" ["LTASK_000001"]] ++
    finished "LTASK_000002" "LRUN_000002" ++
    [contracted "LTASK_000003" ["LTASK_000002"]] ++ readied "LTASK_000003"

def looped : ReadinessState := run step ⟨planned, []⟩ looping

/-- Two tasks are made ready, and then their contracts are edited. -/
def paired : ReadinessState :=
  run step ⟨planned, []⟩
    ([created, created, contracted "LTASK_000001" [], contracted "LTASK_000002" []] ++
      readied "LTASK_000001" ++ readied "LTASK_000002" ++
      [contracted "LTASK_000001" ["LTASK_000002"], contracted "LTASK_000002" ["LTASK_000001"]])

theorem edited_contracts_loop :
    (looped.marks.map (fun mark => (mark.taskId, mark.blockers)) =
        [("LTASK_000001", []), ("LTASK_000002", []), ("LTASK_000003", [])] ∧
      (looped.marks.getLast?.map (fun mark =>
          ["LTASK_000001", "LTASK_000002", "LTASK_000003"].map (dependenciesNow mark.tables))) =
        some [["LTASK_000003"], ["LTASK_000001"], ["LTASK_000002"]]) ∧
      ["LTASK_000001", "LTASK_000002"].map (statusOf paired.store.toTables) =
          [some .ready, some .ready] ∧
        ["LTASK_000001", "LTASK_000002"].map (dependenciesNow paired.store.toTables) =
          [["LTASK_000002"], ["LTASK_000001"]] := by
  decide +kernel

/-- The checks themselves have seen no loop. -/
theorem looping_sound :
    Sound (run step ⟨planned, []⟩ looping) ∧ Meets step BlocksFirst ⟨planned, []⟩ looping := by
  refine readiness_sound planned looping ?_
  intro task member
  cases member

end Lucius.Tasks.Readiness
