import Lucius.Pilots.ProvisionedRows

/-! What a rejected provisioning call takes with it.

The calls of one session share its uncommitted rows, and a rejected call rolls the session back. The calls
are isolated from each other exactly when none is rejected after one was accepted. -/

namespace Lucius.Pilots.ControlledMutation

open Queue

variable {provisioningId : String} {session : Session} {call : Call} {results : List ProvisionedTask}
  {calls : List Call} {store : Store}

def specifiedId : Json → String
  | .obj members => (Dict.get members "provisioning_id").pyStr
  | _ => ""

def keyOf : Json → Json
  | .obj members => Dict.get members "key"
  | _ => .null

/-- The keys of the tasks a specification lists. -/
def specifiedKeys : Json → List Json
  | .obj members =>
    match Dict.get members "tasks" with
    | .arr tasks => tasks.map keyOf
    | _ => []
  | _ => []

def itemsUnder (provisioningId : String) (row : PersistentWorkflowRow) : List (String × Item) :=
  (row.taskBacklog.filter (fun item => (item.get "provisioning_id").isStr provisioningId)).map
    (fun item => (row.id, item))

/-- The items provisioned under an identifier, each with its workflow. -/
def provisionedItems (tables : Tables) (provisioningId : String) : List (String × Item) :=
  tables.workflows.rows.flatMap (itemsUnder provisioningId)

/-- The items under the identifier of a specification are those of its tasks, one for each, and all that
the answer names is filed. -/
structure Complete (tables : Tables) (specification : Json) (results : List ProvisionedTask) : Prop where
  once : (provisionedItems tables (specifiedId specification)).map (fun entry => (entry.1, entry.2.get "key")) =
    (results.map ProvisionedTask.workflowId).zip (specifiedKeys specification)
  all : results.length = (specifiedKeys specification).length
  some : results ≠ []
  distinct : (results.map ProvisionedTask.taskId).Nodup
  placed : ∀ result ∈ results, (tables.projects.get? result.projectId).isSome ∧
    (tables.repositories.get? result.repositoryId).isSome
  filed : ∀ result ∈ results, ∃ rows, Filed tables result rows

def provision (session : Session) (call : Call) : Session := (provisionControlledMutation session call).2

def Accepts (session : Session) (call : Call) (results : List ProvisionedTask) : Prop :=
  (provisionControlledMutation session call).1 = .ok results

def Rejects (session : Session) (call : Call) : Prop := ∀ results, ¬ Accepts session call results

/-- The rows and the audit events are the same. -/
structure SameRows (before after : Store) : Prop where
  tables : after.toTables = before.toTables
  audits : after.audits = before.audits

/-- A call that is rejected leaves the store as it was. -/
def Spares (session : Session) (call : Call) : Prop :=
  Rejects session call → SameRows session.store (provision session call).store

/-- Rejected calls leave the store alone, and what an accepted call provisioned is there in the end. -/
structure Isolated (start : Session) (calls : List Call) : Prop where
  spared : Run.Meets provision Spares start calls
  kept : ∀ front call back results, calls = front ++ call :: back →
    Accepts (Run.run provision start front) call results →
      Complete (Run.run provision start calls).store.toTables call.specification results

/-- No call is rejected after another was accepted. -/
def RejectionsFirst (start : Session) (calls : List Call) : Prop :=
  ∀ front call between rejected back results, calls = front ++ call :: between ++ rejected :: back →
    Accepts (Run.run provision start front) call results →
      ¬ Rejects (Run.run provision start (front ++ call :: between)) rejected

/-! ### What a specification lists -/

theorem requireText_ok {members : Dict} {field message text : String}
    (required : requireText members field message = .ok text) : members.get field = .str text := by
  unfold requireText at required
  split at required
  · next found written =>
      split at required
      · cases required
      · cases required
        exact written
  · cases required

theorem validateTask_ok {keys : List String} {task : Json} {spec : TaskSpec}
    (valid : validateTask keys task = .ok spec) : keyOf task = .str spec.key := by
  cases task with
  | obj members =>
    rw [validateTask] at valid
    obtain ⟨_, -, valid⟩ := except_bind_ok valid
    obtain ⟨key, named, valid⟩ := except_bind_ok valid
    obtain ⟨_, -, valid⟩ := except_bind_ok valid
    obtain ⟨_, -, valid⟩ := except_bind_ok valid
    obtain ⟨_, -, valid⟩ := except_bind_ok valid
    obtain ⟨_, -, valid⟩ := except_bind_ok valid
    obtain ⟨supervised, -, valid⟩ := except_bind_ok valid
    obtain ⟨_, -, valid⟩ := except_bind_ok valid
    obtain ⟨_, -, valid⟩ := except_bind_ok valid
    obtain ⟨criteria, -, valid⟩ := except_bind_ok valid
    cases valid
    exact requireText_ok named
  | _ => cases valid

theorem validateTasksFrom_ok {keys : List String} {tasks : List Json} {specs : List TaskSpec}
    (valid : validateTasksFrom keys tasks = .ok specs) :
    tasks.map keyOf = specs.map (fun spec => .str spec.key) := by
  induction tasks generalizing keys specs with
  | nil =>
    cases valid
    rfl
  | cons task rest ih =>
    rw [validateTasksFrom] at valid
    obtain ⟨spec, first, valid⟩ := except_bind_ok valid
    obtain ⟨more, others, valid⟩ := except_bind_ok valid
    cases valid
    rw [List.map_cons, List.map_cons, validateTask_ok first, ih others]

theorem validateTasks_ok {tasks : Json} {specs : List TaskSpec} (valid : validateTasks tasks = .ok specs) :
    ∃ elements, tasks = .arr elements ∧ elements.map keyOf = specs.map (fun spec => .str spec.key) ∧
      specs ≠ [] := by
  unfold validateTasks at valid
  split at valid
  · next first rest =>
      have keys := validateTasksFrom_ok valid
      refine ⟨first :: rest, rfl, keys, ?_⟩
      rintro rfl
      cases keys
  · cases valid

theorem validateSpecification_ok {members : Dict} {spec : Specification}
    (valid : validateSpecification members = .ok spec) :
    specifiedId (.obj members) = spec.provisioningId ∧
      specifiedKeys (.obj members) = spec.tasks.map (fun task => .str task.key) ∧ spec.tasks ≠ [] := by
  unfold validateSpecification at valid
  obtain ⟨_, -, valid⟩ := except_bind_ok valid
  obtain ⟨provisioningId, named, valid⟩ := except_bind_ok valid
  obtain ⟨_, -, valid⟩ := except_bind_ok valid
  obtain ⟨project, -, valid⟩ := except_bind_ok valid
  obtain ⟨repository, -, valid⟩ := except_bind_ok valid
  obtain ⟨tasks, listed, valid⟩ := except_bind_ok valid
  cases valid
  obtain ⟨elements, written, keys, some⟩ := validateTasks_ok listed
  refine ⟨?_, ?_, some⟩
  · rw [specifiedId, requireText_ok named]
    rfl
  · rw [specifiedKeys, written]
    exact keys

/-! ### The items of an identifier -/

theorem itemsUnder_of_item {spec : TaskSpec} {index : Nat}
    {row : PersistentWorkflowRow} (item : ItemOf provisioningId spec index row) (other : String) :
    (itemsUnder other row).map (fun entry => (entry.1, entry.2.get "key")) =
      if provisioningId = other then [(row.id, .str spec.key)] else [] := by
  obtain ⟨paths, checks, backlog⟩ := item
  have names : (queueItem provisioningId index spec paths checks).get "provisioning_id" =
      .str provisioningId := rfl
  rw [itemsUnder, backlog, List.filter_cons, names]
  by_cases same : provisioningId = other
  · rw [if_pos (Json.isStr_iff.mpr (congrArg Json.str same)), if_pos same]
    rfl
  · rw [if_neg (fun named => same (Json.str.inj (Json.isStr_iff.mp named))), if_neg same]
    rfl

/-- By induction over the tasks of the call and the workflows they were given. -/
theorem itemsUnder_added {tasks : List TaskSpec}
    {added : List PersistentWorkflowRow}
    (items : List.Forall₂ (fun task row => ∃ index, ItemOf provisioningId task index row) tasks added)
    (other : String) :
    (added.flatMap (itemsUnder other)).map (fun entry => (entry.1, entry.2.get "key")) =
      if provisioningId = other then
        (added.map PersistentWorkflowRow.id).zip (tasks.map (fun task => .str task.key))
      else [] := by
  induction items with
  | nil => simp
  | cons first rest ih =>
    obtain ⟨index, item⟩ := first
    rw [List.flatMap_cons, List.map_append, ih, itemsUnder_of_item item]
    by_cases same : provisioningId = other
    · simp only [if_pos same]
      rfl
    · simp only [if_neg same]
      rfl

theorem itemsUnder_unclaimed {row : PersistentWorkflowRow}
    (unclaimed : ∀ item ∈ row.taskBacklog, namesProvisioning (.str provisioningId) item = false) :
    itemsUnder provisioningId row = [] := by
  rw [itemsUnder, List.map_eq_nil_iff, List.filter_eq_nil_iff]
  intro item member named
  have same := Json.isStr_iff.mp named
  have free := (Bool.or_eq_false_iff.mp (unclaimed item member)).1
  rw [same] at free
  simp [Json.pyEq] at free

/-! ### One call -/

theorem provision_cases (session : Session) (call : Call) :
    (∃ results, Accepts session call results ∧ (provision session call).committed = session.committed ∧
      Action.exec (attemptProvisioning call.workspaces call.specification) session.store =
        (.ok results, (provision session call).store)) ∨
    (Rejects session call ∧ (provision session call).committed = session.committed ∧
      SameRows session.committed (provision session call).store) := by
  unfold Rejects Accepts provision provisionControlledMutation
  rcases Action.exec (attemptProvisioning call.workspaces call.specification) session.store with
    ⟨error | results, after⟩
  · exact Or.inr ⟨(fun results done => nomatch done), rfl, rfl, rfl⟩
  · exact Or.inl ⟨results, rfl, rfl, rfl⟩

theorem provision_committed (session : Session) (call : Call) :
    (provision session call).committed = session.committed := by
  rcases provision_cases session call with ⟨results, -, kept, -⟩ | ⟨-, kept, -⟩
  · exact kept
  · exact kept

theorem run_committed (start : Session) (calls : List Call) :
    (Run.run provision start calls).committed = start.committed :=
  Run.invariant_run provision (fun session => session.committed = start.committed)
    (fun session call kept => (provision_committed session call).trans kept) start calls rfl

theorem rejects_rows (rejected : Rejects session call) :
    SameRows session.committed (provision session call).store := by
  rcases provision_cases session call with ⟨results, accepted, -⟩ | ⟨-, -, same⟩
  · exact absurd accepted (rejected results)
  · exact same

theorem accepts_ok (accepted : Accepts session call results) :
    ∃ members spec added, call.specification = .obj members ∧ validateSpecification members = .ok spec ∧
      Accepted spec session.store (provision session call).store results added := by
  rcases provision_cases session call with ⟨found, here, -, done⟩ | ⟨rejected, -⟩
  · have same : found = results := Except.ok.inj (here.symm.trans accepted)
    rw [same] at done
    exact attemptProvisioning_ok done
  · exact absurd accepted (rejected results)

theorem results_length {spec : Specification} {before after : Store}
    {added : List PersistentWorkflowRow} (accepted : Accepted spec before after results added) :
    results.length = spec.tasks.length := by
  have named := congrArg List.length accepted.named
  rw [List.length_map, List.length_map] at named
  rw [← named, accepted.items.length_eq]

theorem complete_of_accepts (accepts : Accepts session call results) :
    Complete (provision session call).store.toTables call.specification results := by
  obtain ⟨members, spec, added, object, valid, accepted⟩ := accepts_ok accepts
  obtain ⟨named, keys, some⟩ := validateSpecification_ok valid
  have length : results.length = spec.tasks.length := results_length accepted
  rw [object]
  refine {
    once := ?_
    all := by rw [keys, List.length_map, length]
    some := ?_
    distinct := accepted.distinct
    placed := accepted.placed
    filed := fun result member => (accepted.filed result member).imp fun rows filed => filed.1 }
  · have none : session.store.workflows.rows.flatMap (itemsUnder spec.provisioningId) = [] :=
      List.flatMap_eq_nil_iff.mpr fun row member => itemsUnder_unclaimed (accepted.unclaimed row member)
    rw [provisionedItems, named, accepted.workflows, List.flatMap_append, none, List.nil_append,
      itemsUnder_added accepted.items, if_pos rfl, accepted.named, keys]
  · rintro rfl
    exact some (List.eq_nil_of_length_eq_zero length.symm)

/-- An identifier that has its items is refused from then on, so a later call adds none under it. -/
theorem complete_kept {later : List ProvisionedTask}
    {specification : Json} (complete : Complete session.store.toTables specification results)
    (accepts : Accepts session call later) :
    Complete (provision session call).store.toTables specification results := by
  obtain ⟨members, spec, added, -, -, accepted⟩ := accepts_ok accepts
  have other : spec.provisioningId ≠ specifiedId specification := by
    intro same
    have none : provisionedItems session.store.toTables (specifiedId specification) = [] :=
      List.flatMap_eq_nil_iff.mpr fun row member =>
        itemsUnder_unclaimed (same ▸ accepted.unclaimed row member)
    have once := complete.once
    rw [none, List.map_nil] at once
    have length := congrArg List.length once
    rw [List.length_nil, List.length_zip, ← complete.all, List.length_map, min_self] at length
    exact complete.some (List.eq_nil_of_length_eq_zero length.symm)
  have grown := accepted.grows
  refine { complete with
    once := ?_
    placed := ?_
    filed := ?_ }
  · have once := complete.once
    rw [provisionedItems] at once ⊢
    rw [accepted.workflows, List.flatMap_append, List.map_append, once, itemsUnder_added accepted.items,
      if_neg other, List.append_nil]
  · intro result member
    obtain ⟨project, repository⟩ := complete.placed result member
    obtain ⟨projectRow, projectFound⟩ := Option.isSome_iff_exists.mp project
    obtain ⟨repositoryRow, repositoryFound⟩ := Option.isSome_iff_exists.mp repository
    rw [get?_grown grown.projects projectFound, get?_grown grown.repositories repositoryFound]
    exact ⟨rfl, rfl⟩
  · intro result member
    exact (complete.filed result member).imp fun rows filed => filed.grown grown

theorem workflows_grow (accepts : Accepts session call results) :
    session.store.workflows.rows.length < (provision session call).store.workflows.rows.length := by
  obtain ⟨members, spec, added, -, valid, accepted⟩ := accepts_ok accepts
  have some := (validateSpecification_ok valid).2.2
  have length : added.length = spec.tasks.length := accepted.items.length_eq.symm
  have positive : 0 < spec.tasks.length := List.length_pos_iff.mpr some
  rw [accepted.workflows, List.length_append]
  omega

/-! ### A run of calls -/

theorem workflows_within {start : Session}
    (spared : Run.Meets provision Spares start calls) :
    start.store.workflows.rows.length ≤ (Run.run provision start calls).store.workflows.rows.length := by
  refine Run.relation_guarded provision Spares
    (fun before after => before.store.workflows.rows.length ≤ after.store.workflows.rows.length)
    (fun _ => Nat.le_refl _) (fun _ _ _ => Nat.le_trans) ?_ start calls spared
  intro session call spares
  rcases provision_cases session call with ⟨results, accepted, -⟩ | ⟨rejected, -⟩
  · exact Nat.le_of_lt (workflows_grow accepted)
  · rw [(spares rejected).tables]

theorem rejectionsFirst_of_spared (spared : Run.Meets provision Spares (Session.opened store) calls) :
    RejectionsFirst (Session.opened store) calls := by
  intro front call between rejected back results split accepted rejects
  rw [split, List.append_assoc] at spared
  obtain ⟨before, rest⟩ := Run.meets_append provision Spares _ front _ spared
  obtain ⟨during, last⟩ := Run.meets_append provision Spares _ (call :: between) _ rest
  have start := workflows_within before
  have grown := workflows_grow accepted
  have middle := workflows_within during.2
  -- the rollback brings back the rows the session started with, which are fewer
  have here : Spares (Run.run provision (Session.opened store) (front ++ call :: between)) rejected := by
    rw [Run.run_append]
    exact last.1
  have same := here rejects
  have rolled := rejects_rows rejects
  have workflows := congrArg (fun tables : Tables => tables.workflows.rows.length)
    (same.tables.symm.trans rolled.tables)
  rw [run_committed, Run.run_append, Run.run_cons] at workflows
  change _ = store.workflows.rows.length at workflows
  change store.workflows.rows.length ≤ _ at start
  omega

theorem spared_of_rejectionsFirst (first : RejectionsFirst (Session.opened store) calls) :
    Run.Meets provision Spares (Session.opened store) calls := by
  rw [Run.meets_iff_forall]
  intro front call back split rejected
  have refused : Run.Meets provision Rejects (Session.opened store) front := by
    rw [Run.meets_iff_forall]
    intro before other between here results accepted
    rw [here] at split rejected
    exact first before other between call back results split accepted rejected
  have unchanged : SameRows store (Run.run provision (Session.opened store) front).store := by
    refine (Run.invariant_guarded provision Rejects
      (fun session => session.committed = store ∧ SameRows store session.store) ?_ (Session.opened store) front
      ⟨rfl, rfl, rfl⟩ refused).2
    intro session other kept rejects
    have committed := (provision_committed session other).trans kept.1
    exact ⟨committed, kept.1 ▸ rejects_rows rejects⟩
  have rolled := rejects_rows rejected
  rw [run_committed] at rolled
  exact ⟨rolled.tables.trans unchanged.tables.symm, rolled.audits.trans unchanged.audits.symm⟩

theorem kept_of_rejectionsFirst
    (first : RejectionsFirst (Session.opened store) calls) {front back : List Call} (split : calls = front ++ call :: back)
    (accepts : Accepts (Run.run provision (Session.opened store) front) call results) :
    Complete (Run.run provision (Session.opened store) calls).store.toTables call.specification results := by
  rw [split, Run.run_append, Run.run_cons]
  have accepted : Run.Meets provision (fun session other => ¬ Rejects session other)
      (provision (Run.run provision (Session.opened store) front) call) back := by
    rw [Run.meets_iff_forall]
    intro between later rest here
    rw [here, ← List.cons_append, ← List.append_assoc] at split
    have fine := first front call between later rest results split accepts
    rwa [Run.run_append, Run.run_cons] at fine
  refine Run.invariant_guarded provision _
    (fun session => Complete session.store.toTables call.specification results) ?_ _ back
    (complete_of_accepts accepts) accepted
  intro session other complete fine
  obtain ⟨later, here⟩ := not_forall_not.mp fine
  exact complete_kept complete here

theorem provisioning_isolated_iff (store : Store) (calls : List Call) :
    Isolated (Session.opened store) calls ↔ RejectionsFirst (Session.opened store) calls := by
  constructor
  · intro isolated
    exact rejectionsFirst_of_spared isolated.spared
  · intro first
    refine ⟨spared_of_rejectionsFirst first, ?_⟩
    intro front call back results split accepts
    exact kept_of_rejectionsFirst first split accepts

/-! ### A duplicate -/

/-- A machine on which every path is the clean worktree of one commit. -/
def cleanWorkspaces : Workspaces where
  expanduser := .ok
  resolve := .ok
  isDir _ := true
  git path args :=
    .ok (some (if args = ["rev-parse", "--show-toplevel"] then path
      else if args = ["rev-parse", "HEAD"] then "c0ffee"
      else ""))

def notesTask : Json :=
  .obj [("key", .str "notes"), ("title", .str "Notes"), ("objective", .str "Write the notes"),
    ("acceptance_criteria", Json.ofTexts ["The notes exist"]),
    ("allowed_mutation_paths", Json.ofTexts ["notes.md"]),
    ("deterministic_acceptance_checks",
      .arr [.obj [("type", .str "file_exists"), ("path", .str "notes.md")]]),
    ("execution_supervision", .str "SUPERVISED"), ("mutation_allowed", .bool true),
    ("deterministic_verification", .bool true)]

def notesSpecification : Json :=
  .obj [("provisioning_id", .str "notes-1"),
    ("project", .obj [("name", .str "Notes"), ("slug", .str "notes")]),
    ("repository", .obj [("name", .str "notes"), ("path", .str "/work/notes"),
      ("frozen_head", .str "c0ffee"), ("workspace", .str "/trees/notes"),
      ("allowed_workspace_root", .str "/trees")]),
    ("tasks", .arr [notesTask])]

def notesCall : Call := ⟨cleanWorkspaces, notesSpecification⟩

theorem notes_accepted : (provisionControlledMutation (Session.opened {}) notesCall).1.isOk = true := by
  decide +kernel

theorem notes_refused_again :
    (provisionControlledMutation (provision (Session.opened {}) notesCall) notesCall).1.isOk = false := by
  decide +kernel

/-- The second call for the same identifier takes the first one's rows with it. -/
theorem duplicate_loses_notes : ¬ Isolated (Session.opened {}) [notesCall, notesCall] := by
  intro isolated
  have first := rejectionsFirst_of_spared isolated.spared
  have accepted := notes_accepted
  cases done : (provisionControlledMutation (Session.opened {}) notesCall).1 with
  | error error =>
    rw [done] at accepted
    cases accepted
  | ok results =>
    refine first [] notesCall [] notesCall [] results rfl done ?_
    intro later again
    have refused := notes_refused_again
    rw [Accepts] at again
    rw [List.nil_append, Run.run_cons, Run.run_nil] at again
    rw [again] at refused
    cases refused

end Lucius.Pilots.ControlledMutation
