import Lucius.Runtime.ExecutionClass
import Lucius.Runtime.OllamaProvider

/-! What one item is authorised to change and has to meet, when its workflow was planned
from all its items together. -/

namespace Lucius.Acceptance

open Worktree

variable {index : Nat} {check : Check} {authorized : List String} {checks : List Check}
  {raws : List Json}

/-- The code of a check whose path is not among those authorised. -/
def outsideScope : String := "DETERMINISTIC_ACCEPTANCE_PATH_OUTSIDE_SCOPE"

/-- The check itself does not depend on its place, and on the authorised paths only in
that its path has to be one. -/
def Renormalizes (checked : Except WorkspaceExc Check) (check : Check) : Prop :=
  checked = .ok check ∨ ∃ message, checked = .error (.acceptance outsideScope message)

theorem validatePytestTargetArg_anywhere {arg : String} (other : Nat)
    (done : validatePytestTargetArg index arg = .ok ()) : validatePytestTargetArg other arg = .ok () := by
  unfold validatePytestTargetArg at done ⊢
  cases read : validateRelativeRepoPath (.str (String.ofList (beforeColons arg.toList))) with
  | error failure =>
    rw [read] at done
    cases failure <;> cases done
  | ok path =>
    rw [read] at done
    dsimp only at done ⊢
    split at done
    · cases done
    · next inside => rw [if_neg inside]

theorem validatePytestArgs_anywhere {args : List String} (other : Nat)
    (done : validatePytestArgs index args = .ok ()) : validatePytestArgs other args = .ok () := by
  induction args with
  | nil => rfl
  | cons arg rest ih =>
    obtain ⟨_, first, later⟩ := except_bind_ok done
    have here : validatePytestArg other arg = .ok () := by
      unfold validatePytestArg at first ⊢
      split at first
      · next listed => rw [if_pos listed]
      · next unlisted =>
          rw [if_neg unlisted]
          obtain ⟨isBounded, read, afterRead⟩ := except_bind_ok first
          rw [read]
          change (if isBounded = true then Except.ok () else _) = _ at afterRead
          change (if isBounded = true then Except.ok () else _) = _
          split at afterRead
          · next bounded => rw [if_pos bounded]
          · next unbounded =>
              rw [if_neg unbounded]
              split at afterRead
              · cases afterRead
              · next plain =>
                  rw [if_neg plain]
                  exact validatePytestTargetArg_anywhere other afterRead
    change (validatePytestArg other arg >>= fun _ => validatePytestArgs other rest) = .ok ()
    rw [here]
    exact ih later

theorem validateAllowedCommandArgv_anywhere {argv : List String} (other : Nat)
    (done : validateAllowedCommandArgv index argv = .ok ()) :
    validateAllowedCommandArgv other argv = .ok () := by
  unfold validateAllowedCommandArgv at done ⊢
  split at done
  · cases done
  · next known =>
      rw [if_neg known]
      split at done
      · cases done
      · next plain =>
          rw [if_neg plain]
          split at done
          · cases done
          · next pytest =>
              rw [if_neg pytest]
              exact validatePytestArgs_anywhere other done

theorem normalizeCommandSucceedsCheck_anywhere {members : Dict}
    (other : Nat) (done : normalizeCommandSucceedsCheck index members = .ok check) :
    normalizeCommandSucceedsCheck other members = .ok check := by
  unfold normalizeCommandSucceedsCheck at done ⊢
  split at done
  · cases done
  · next alone =>
      rw [if_neg alone]
      cases line : commandArgv (Dict.get members "argv") with
      | none =>
        rw [line] at done
        cases done
      | some argv =>
        rw [line] at done
        dsimp only at done ⊢
        split at done
        · cases done
        · obtain ⟨_, allowed, built⟩ := except_bind_ok done
          rw [validateAllowedCommandArgv_anywhere other allowed]
          exact built

theorem normalizePathCheck_anywhere {members : Dict}
    {type : Option TextCheck} (other : Nat) (paths : List String)
    (done : normalizePathCheck index authorized members type = .ok check) :
    Renormalizes (normalizePathCheck other paths members type) check := by
  unfold normalizePathCheck at done ⊢
  cases read : validateRelativeRepoPath (Dict.get members "path") with
  | error failure =>
    rw [read] at done
    cases failure <;> cases done
  | ok path =>
    rw [read] at done
    dsimp only at done ⊢
    split at done
    · cases done
    · by_cases inside : path ∈ paths
      · rw [if_neg (not_not_intro inside)]
        refine .inl ?_
        cases type with
        | none =>
          dsimp only at done ⊢
          split at done
          · cases done
          · next bare => rw [if_neg bare, done]
        | some kind =>
          dsimp only at done ⊢
          cases expected : Dict.get members "expected_text" with
          | str text =>
            rw [expected] at done
            exact done
          | null | bool _ | int _ | float _ | arr _ | obj _ =>
            rw [expected] at done
            cases done
      · rw [if_pos inside]
        exact .inr ⟨_, rfl⟩

theorem normalizeCheck_anywhere {raw : Json}
    (other : Nat) (paths : List String)
    (done : normalizeDeterministicAcceptanceCheck index authorized raw = .ok check) :
    Renormalizes (normalizeDeterministicAcceptanceCheck other paths raw) check := by
  unfold normalizeDeterministicAcceptanceCheck at done ⊢
  cases raw with
  | obj members =>
    dsimp only at done ⊢
    split at done
    · cases done
    · next hashable =>
        rw [if_neg hashable]
        split at done
        · next command =>
            rw [if_pos command]
            exact .inl (normalizeCommandSucceedsCheck_anywhere other done)
        · next noCommand =>
            rw [if_neg noCommand]
            split at done
            · next exist =>
                rw [if_pos exist]
                exact normalizePathCheck_anywhere other paths done
            · next noExist =>
                rw [if_neg noExist]
                cases kind : textChecks.find? (fun kind => (Dict.get members "type").isStr kind.name) with
                | none =>
                  rw [kind] at done
                  cases done
                | some text =>
                  rw [kind] at done
                  exact normalizePathCheck_anywhere other paths done
  | null | bool _ | int _ | float _ | str _ | arr _ => cases done

/-- What a check is, wherever it stands. -/
def IsCheck (raw : Json) (check : Check) : Prop :=
  ∃ index authorized, normalizeDeterministicAcceptanceCheck index authorized raw = .ok check

theorem IsCheck.unique {raw : Json} {first second : Check} (one : IsCheck raw first)
    (other : IsCheck raw second) : first = second := by
  obtain ⟨index, authorized, done⟩ := one
  obtain ⟨place, paths, again⟩ := other
  rcases normalizeCheck_anywhere place paths done with same | ⟨message, outside⟩
  · rw [again] at same
    exact (Except.ok.inj same).symm
  · rw [again] at outside
    cases outside

theorem normalizeFrom_checks {seen : List Check} (done : normalizeFrom authorized seen index raws = .ok checks) :
    List.Forall₂ IsCheck raws checks := by
  induction raws generalizing seen index checks with
  | nil =>
    cases done
    exact .nil
  | cons raw rest ih =>
    obtain ⟨check, first, later⟩ := except_bind_ok done
    split at later
    · cases later
    · obtain ⟨more, others, built⟩ := except_bind_ok later
      cases built
      exact .cons ⟨index, authorized, first⟩ (ih others)

theorem mem_of_normalized
    (done : normalizeDeterministicAcceptanceChecks authorized (.arr raws) = .ok checks)
    (check : Check) : check ∈ checks ↔ ∃ raw ∈ raws, IsCheck raw check := by
  have paired := normalizeFrom_checks done
  constructor
  · intro member
    obtain ⟨raw, present, is⟩ := forall₂_right paired member
    exact ⟨raw, present, is⟩
  · rintro ⟨raw, present, is⟩
    obtain ⟨other, member, same⟩ := forall₂_left paired present
    rwa [is.unique same]

theorem normalizeFrom_anywhere {seen : List Check} (paths : List String)
    (done : normalizeFrom authorized seen index raws = .ok checks) :
    normalizeFrom paths seen index raws = .ok checks ∨
      ∃ message, normalizeFrom paths seen index raws = .error (.acceptance outsideScope message) := by
  induction raws generalizing seen index checks with
  | nil => exact .inl done
  | cons raw rest ih =>
    obtain ⟨check, first, later⟩ := except_bind_ok done
    rcases normalizeCheck_anywhere index paths first with same | ⟨message, outside⟩
    · split at later
      · cases later
      · next unseen =>
          obtain ⟨more, others, built⟩ := except_bind_ok later
          cases built
          rcases ih others with again | ⟨message, outside⟩
          · refine .inl ?_
            simp only [normalizeFrom, same, bind, Except.bind, if_neg unseen, again]
            rfl
          · refine .inr ⟨message, ?_⟩
            simp only [normalizeFrom, same, bind, Except.bind, if_neg unseen, outside]
    · refine .inr ⟨message, ?_⟩
      simp only [normalizeFrom, outside, bind, Except.bind]

end Lucius.Acceptance

namespace Lucius.Planning

open Router Acceptance Lucius.Action

/-- The item declares the path, as the planner normalises it. -/
def DeclaresPath (item : Dict) (path : String) : Prop :=
  ∃ paths, explicitMutationPathsFromItem item = .ok paths ∧ path ∈ paths

/-- The item declares the check. -/
def DeclaresCheck (item : Dict) (check : Check) : Prop :=
  ∃ listed, acceptanceChecksFromItem item = .ok listed ∧ ∃ raw ∈ listed, IsCheck raw check

theorem planned_paths {queueItems : List Dict} {files : List AffectedFilePlan}
    (done : runtimeAffectedFiles queueItems = .ok files) (path : String) :
    (∃ file ∈ files, file.path = path) ↔ ∃ item ∈ queueItems, DeclaresPath item path := by
  unfold runtimeAffectedFiles at done
  obtain ⟨paths, listed, built⟩ := except_bind_ok done
  cases built
  constructor
  · rintro ⟨file, member, rfl⟩
    obtain ⟨known, inside, rfl⟩ := List.mem_map.mp member
    exact (mem_mapM_flatten listed known).mp (List.mem_eraseDups.mp inside)
  · intro declared
    have inside := (mem_mapM_flatten listed path).mpr declared
    exact ⟨_, List.mem_map.mpr ⟨path, List.mem_eraseDups.mpr inside, rfl⟩, rfl⟩

theorem planned_checks {queueItems : List Dict} {authorized : List String} {checks : List Check}
    (done : runtimeDeterministicAcceptanceChecks queueItems authorized = .ok checks) (check : Check) :
    check ∈ checks ↔ ∃ item ∈ queueItems, DeclaresCheck item check := by
  unfold runtimeDeterministicAcceptanceChecks at done
  obtain ⟨listed, read, normalized⟩ := except_bind_ok done
  have accepted : normalizeDeterministicAcceptanceChecks authorized (.arr listed.flatten) =
      .ok checks := by
    split at normalized
    · next found =>
        rw [found]
        cases normalized
        rfl
    · cases normalized
    · cases normalized
  rw [mem_of_normalized accepted]
  constructor
  · rintro ⟨raw, inside, is⟩
    obtain ⟨item, member, values, same, present⟩ := (mem_mapM_flatten read raw).mp inside
    exact ⟨item, member, values, same, raw, present, is⟩
  · rintro ⟨item, member, values, same, raw, present, is⟩
    exact ⟨raw, (mem_mapM_flatten read raw).mpr ⟨item, member, values, same, present⟩, is⟩

/-- The router reads a planned path back out of the frozen plan. -/
def ReadsPathBack (declared path : String) : Prop :=
  normalizeFrozenMutationPath (.str declared) = some path

/-- The router reads a planned check back out of the frozen plan. -/
def ReadsCheckBack (declared check : Check) : Prop :=
  ∃ stated, DeterministicAcceptanceCheck.ofCheck declared = .ok stated ∧
    IsCheck (.obj stated.dump) check

theorem mem_frozenPathsFrom {files : List Json} {seen paths : List String}
    (done : frozenPathsFrom seen files = some paths) (path : String) :
    path ∈ seen ∨ path ∈ paths ↔
      path ∈ seen ∨ ∃ members, .obj members ∈ files ∧
        normalizeFrozenMutationPath (Dict.get members "path") = some path := by
  induction files generalizing seen paths with
  | nil =>
    cases done
    simp
  | cons file rest ih =>
    cases file with
    | obj members =>
      unfold frozenPathsFrom at done
      cases read : normalizeFrozenMutationPath (Dict.get members "path") with
      | none =>
        rw [read] at done
        cases done
      | some known =>
        rw [read] at done
        dsimp only at done
        split at done
        · next old =>
            rw [ih done]
            constructor
            · rintro (before | ⟨other, inside, named⟩)
              · exact .inl before
              · exact .inr ⟨other, List.mem_cons_of_mem _ inside, named⟩
            · rintro (before | ⟨other, inside, named⟩)
              · exact .inl before
              · rcases List.mem_cons.mp inside with here | later
                · cases here
                  rw [read] at named
                  cases named
                  exact .inl old
                · exact .inr ⟨other, later, named⟩
        · obtain ⟨more, others, rfl⟩ := Option.map_eq_some_iff.mp done
          have following := ih others
          constructor
          · rintro (before | member)
            · exact .inl before
            · rcases List.mem_cons.mp member with rfl | later
              · exact .inr ⟨members, List.mem_cons_self, read⟩
              · rcases following.mp (.inr later) with before | ⟨other, inside, named⟩
                · rcases List.mem_cons.mp before with rfl | old
                  · exact .inr ⟨members, List.mem_cons_self, read⟩
                  · exact .inl old
                · exact .inr ⟨other, List.mem_cons_of_mem _ inside, named⟩
          · rintro (before | ⟨other, inside, named⟩)
            · exact .inl before
            · rcases List.mem_cons.mp inside with here | later
              · cases here
                rw [read] at named
                cases named
                exact .inr List.mem_cons_self
              · rcases following.mpr (.inr ⟨other, later, named⟩) with before | member
                · rcases List.mem_cons.mp before with rfl | old
                  · exact .inr List.mem_cons_self
                  · exact .inl old
                · exact .inr (List.mem_cons_of_mem _ member)
    | null | bool _ | int _ | float _ | str _ | arr _ => cases done

theorem checks_of_no_issues {plan : EngineeringPlanRow}
    (done : deterministicAcceptanceCheckIssues (planPayload plan) = .ok []) :
    ∃ authorized checks, normalizeDeterministicAcceptanceChecks authorized
      (objects plan.deterministicAcceptanceChecks) = .ok checks := by
  change checkIssues (affectedPaths (plan.affectedFiles.map Json.obj))
    (plan.deterministicAcceptanceChecks.map Json.obj) = .ok [] at done
  unfold checkIssues at done
  split at done
  · next checks normalized => exact ⟨_, checks, normalized⟩
  · cases done
  · cases done

theorem payloadScope_ok {plan : EngineeringPlanRow} {scope : FrozenMutationScope} {required : Bool}
    (frozen : deterministicAcceptanceCheckIssues (planPayload plan) = .ok [])
    (read : payloadScope (.obj (planPayload plan)) required = .ok scope)
    (passes : nonEmpty scope.error = none) :
    frozenPathsFrom [] (plan.affectedFiles.map Json.obj) = some scope.paths ∧
      normalizeDeterministicAcceptanceChecks scope.paths
        (objects plan.deterministicAcceptanceChecks) = .ok scope.checks := by
  obtain ⟨authorized, checks, normalized⟩ := checks_of_no_issues frozen
  have listed : Dict.get (planPayload plan) "affected_files" =
      .arr (plan.affectedFiles.map Json.obj) := rfl
  have stated : Dict.getOr (planPayload plan) "deterministic_acceptance_checks" (.arr []) =
      .arr (plan.deterministicAcceptanceChecks.map Json.obj) := rfl
  unfold payloadScope at read
  dsimp only at read
  rw [listed] at read
  dsimp only at read
  split at read
  · cases read
    cases passes
  · cases read
    cases passes
  · next first rest paths =>
      unfold frozenChecks at read
      rw [stated] at read
      dsimp only at read
      rcases normalizeFrom_anywhere (first :: rest) normalized with same | ⟨message, outside⟩
      · have again : normalizeDeterministicAcceptanceChecks (first :: rest)
            (.arr (plan.deterministicAcceptanceChecks.map Json.obj)) = .ok checks := same
        rw [again] at read
        dsimp only at read
        split at read
        · cases read
          cases passes
        · cases read
          exact ⟨paths, again⟩
      · have again : normalizeDeterministicAcceptanceChecks (first :: rest)
            (.arr (plan.deterministicAcceptanceChecks.map Json.obj)) =
              .error (.acceptance outsideScope message) := outside
        have named : nonEmpty (some (frozenAcceptanceErrorCode outsideScope)) ≠ none := by
          decide +kernel
        rw [again] at read
        cases read
        exact absurd passes named

/-- The runtime has planned and frozen the workflow by itself, each freeze before it being
of a plan there is, and the freeze is still there later. -/
structure RuntimePlanned (adapter : ScriptedRuntimePlanningAdapter) (store : Store)
    (workflow : PersistentWorkflowRow) (reference : RuntimePlanReference) (later : Store) : Prop where
  unscripted : adapter.plansByWorkflowId workflow.id = none
  known : ∀ freeze ∈ store.freezes.rows, (store.plans.get? freeze.planId).isSome = true
  present : store.workflows.get? workflow.id = some workflow
  created : reference.createdByRuntime = true
  prepared : ∃ after, exec (adapter.prepareWorkflowPlan workflow.id) store = (.ok reference, after) ∧
    later.freezes.get? reference.planFreezeId = after.freezes.get? reference.planFreezeId

theorem freezeOfPlan_fresh {tables : Tables} {planId : String}
    (known : ∀ freeze ∈ tables.freezes.rows, (tables.plans.get? freeze.planId).isSome = true)
    (fresh : tables.plans.get? planId = none) : freezeOfPlan tables planId = none := by
  apply List.find?_eq_none.mpr
  intro freeze member same
  have named := of_decide_eq_true same
  have there := known freeze member
  rw [named, fresh] at there
  cases there

theorem RuntimePlanned.frozen {adapter : ScriptedRuntimePlanningAdapter} {store later : Store}
    {workflow : PersistentWorkflowRow} {reference : RuntimePlanReference}
    (planned : RuntimePlanned adapter store workflow reference later) :
    ∃ modelPlan plan freeze, defaultModelPlan workflow = .ok modelPlan ∧
      plan.affectedFiles = modelPlan.affectedFiles.map AffectedFilePlan.dump ∧
      plan.deterministicAcceptanceChecks =
        modelPlan.deterministicAcceptanceChecks.map DeterministicAcceptanceCheck.dump ∧
      deterministicAcceptanceCheckIssues (planPayload plan) = .ok [] ∧
      later.freezes.get? reference.planFreezeId = some freeze ∧
      freeze.planId = reference.planId ∧ freeze.planPayload = .obj (planPayload plan) := by
  obtain ⟨after, done, kept⟩ := planned.prepared
  obtain ⟨found, present, named, ends⟩ :=
    ScriptedRuntimePlanningAdapter.prepareWorkflowPlan_ok done
  rw [planned.present] at present
  cases present
  rcases ends with ⟨already, _⟩ | ⟨_, made⟩
  · have old : reference.createdByRuntime = false := by
      unfold preparedReference at already
      split at already
      · cases already
        rfl
      · cases already
    rw [planned.created] at old
    cases old
  · obtain ⟨modelPlan, plan, created, freeze, model, fresh, shape, reached, frozen, attached, freezes,
      attaches, refers⟩ := ScriptedRuntimePlanningAdapter.plan_ok made
    have default : defaultModelPlan workflow = .ok modelPlan := by
      unfold ScriptedRuntimePlanningAdapter.modelPlan at model
      rwa [planned.unscripted] at model
    have unfrozen : freezeOfPlan created.toTables plan.id = none := by
      have before : freezeOfPlan store.toTables plan.id = none :=
        freezeOfPlan_fresh planned.known fresh
      rw [reached]
      exact before
    rcases PlanFreezeService.freeze_ok freezes with ⟨old, _⟩ | ⟨_, held, there, checked, _, new, row, tables⟩
    · rw [unfrozen] at old
      cases old
    · have same : held = plan := by
        have kept : created.plans.get? plan.id = some plan := by
          rw [reached]
          exact Table.get?_add_fresh fresh
        rw [kept] at there
        exact (Option.some.inj there).symm
      subst same
      obtain ⟨_, _, _, _, _, written⟩ := Workflows.attachPlan_ok attaches
      have stored : after.freezes.get? freeze.id = some freeze := by
        have unchanged : after.freezes = frozen.freezes := by rw [written]
        have added : frozen.freezes = created.freezes.add freeze := by rw [tables]
        rw [unchanged, added]
        exact Table.get?_add_fresh new
      rw [refers] at kept ⊢
      refine ⟨modelPlan, held, freeze, default, ?_, ?_, checked, kept.trans stored, ?_, ?_⟩
      · rw [shape]
        rfl
      · rw [shape]
        rfl
      · rw [row]
        rfl
      · rw [row]
        rfl

/-- The item declares, alone, all that the items of the workflow declare together, as it is
read back out of the plan. -/
structure DeclaresAll (workflow : PersistentWorkflowRow) (item : Dict) : Prop where
  paths : ∀ path, DeclaresPath item path ↔
    ∃ other ∈ workflow.taskBacklog, ∃ declared, DeclaresPath other declared ∧ ReadsPathBack declared path
  checks : ∀ check, DeclaresCheck item check ↔
    ∃ other ∈ workflow.taskBacklog, ∃ declared, DeclaresCheck other declared ∧
      ReadsCheckBack declared check

/-- The request authorises the paths the item declares, and asks for its checks. -/
structure ItemAuthorized (item : Dict) (request : RuntimeExecutionRequest) : Prop where
  paths : ∀ path, path ∈ request.allowedMutationPaths ↔ DeclaresPath item path
  checks : ∀ check, check ∈ request.deterministicAcceptanceChecks ↔ DeclaresCheck item check

theorem mem_frozen_paths {plan : EngineeringPlanRow} {modelPlan : ModelEngineeringPlanOutput}
    (listed : plan.affectedFiles = modelPlan.affectedFiles.map AffectedFilePlan.dump)
    {paths : List String}
    (read : frozenPathsFrom [] (plan.affectedFiles.map Json.obj) = some paths) (path : String) :
    path ∈ paths ↔ ∃ file ∈ modelPlan.affectedFiles, ReadsPathBack file.path path := by
  have inside := mem_frozenPathsFrom read path
  simp only [List.not_mem_nil, false_or] at inside
  rw [inside, listed]
  constructor
  · rintro ⟨members, member, named⟩
    obtain ⟨dumped, one, same⟩ := List.mem_map.mp member
    obtain ⟨file, known, rfl⟩ := List.mem_map.mp one
    cases same
    exact ⟨file, known, named⟩
  · rintro ⟨file, known, named⟩
    exact ⟨file.dump, List.mem_map.mpr ⟨_, List.mem_map.mpr ⟨file, known, rfl⟩, rfl⟩, named⟩

theorem mem_frozen_checks {plan : EngineeringPlanRow} {modelPlan : ModelEngineeringPlanOutput}
    {planned checks : List Check} {paths : List String}
    (stated : planned.mapM DeterministicAcceptanceCheck.ofCheck =
      .ok modelPlan.deterministicAcceptanceChecks)
    (listed : plan.deterministicAcceptanceChecks =
      modelPlan.deterministicAcceptanceChecks.map DeterministicAcceptanceCheck.dump)
    (read : normalizeDeterministicAcceptanceChecks paths
      (objects plan.deterministicAcceptanceChecks) = .ok checks) (check : Check) :
    check ∈ checks ↔ ∃ declared ∈ planned, ReadsCheckBack declared check := by
  rw [mem_of_normalized read, listed]
  have paired := mapM_ok stated
  constructor
  · rintro ⟨raw, member, is⟩
    obtain ⟨dumped, one, rfl⟩ := List.mem_map.mp member
    obtain ⟨check, known, rfl⟩ := List.mem_map.mp one
    obtain ⟨declared, inside, same⟩ := forall₂_right paired known
    exact ⟨declared, inside, check, same, is⟩
  · rintro ⟨declared, inside, stored, same, is⟩
    obtain ⟨other, known, again⟩ := forall₂_left paired inside
    rw [same] at again
    cases again
    exact ⟨_, List.mem_map.mpr ⟨_, List.mem_map.mpr ⟨stored, known, rfl⟩, rfl⟩, is⟩

/-- A mutation of a workflow the runtime planned by itself is authorised as its item
declares exactly when that item declares all that the workflow does. -/
theorem item_authorized_iff {adapter : ScriptedRuntimePlanningAdapter} {store later : Store}
    {workflow : PersistentWorkflowRow} {reference : RuntimePlanReference}
    (planned : RuntimePlanned adapter store workflow reference later)
    {settings : RouterSettings} {context : RuntimeExecutionContext}
    (plan : context.planId = some reference.planId)
    (freeze : context.planFreezeId = some reference.planFreezeId)
    {request : RuntimeExecutionRequest} (requested : Requested settings context later request)
    (mutation : request.readOnly = false) :
    ItemAuthorized context.queueItem request ↔ DeclaresAll workflow context.queueItem := by
  obtain ⟨modelPlan, frozenPlan, row, model, files, checks, passes, held, names, payload⟩ :=
    planned.frozen
  obtain ⟨left, built⟩ := requested.built
  obtain ⟨scope, is⟩ := requestFromContext_ok built
  obtain ⟨planId, freezeId, planNamed, freezeNamed, read⟩ := is.frozen
  have samePlan : planId = reference.planId := by
    rw [plan] at planNamed
    exact (Option.some.inj (Option.filter_eq_some_iff.mp planNamed).1).symm
  have sameFreeze : freezeId = reference.planFreezeId := by
    rw [freeze] at freezeNamed
    exact (Option.some.inj (Option.filter_eq_some_iff.mp freezeNamed).1).symm
  have mutates : queueItemIsReadOnly context.queueItem = false := is.readOnly.symm.trans mutation
  have inScope : nonEmpty scope.error = none := by
    have free := requested.inScope
    unfold scopeError at free
    rw [mutation, is.error] at free
    exact free
  unfold frozenMutationScope at read
  rw [mutates, samePlan, sameFreeze, held] at read
  dsimp only at read
  rw [if_neg (by decide), if_neg (not_not_intro names), payload] at read
  obtain ⟨paths, normalized⟩ := payloadScope_ok passes read inScope
  obtain ⟨declaredChecks, affected, checked, _, stated⟩ := defaultModelPlan_ok model
  have allPaths : ∀ path, path ∈ request.allowedMutationPaths ↔
      ∃ other ∈ workflow.taskBacklog, ∃ declared, DeclaresPath other declared ∧
        ReadsPathBack declared path := by
    intro path
    rw [is.paths, mem_frozen_paths files paths]
    constructor
    · rintro ⟨file, known, back⟩
      obtain ⟨other, member, declares⟩ := (planned_paths affected file.path).mp ⟨file, known, rfl⟩
      exact ⟨other, member, file.path, declares, back⟩
    · rintro ⟨other, member, declared, declares, back⟩
      obtain ⟨file, known, rfl⟩ := (planned_paths affected declared).mpr ⟨other, member, declares⟩
      exact ⟨file, known, back⟩
  have allChecks : ∀ check, check ∈ request.deterministicAcceptanceChecks ↔
      ∃ other ∈ workflow.taskBacklog, ∃ declared, DeclaresCheck other declared ∧
        ReadsCheckBack declared check := by
    intro check
    rw [is.checks, mem_frozen_checks stated checks normalized]
    constructor
    · rintro ⟨declared, known, back⟩
      obtain ⟨other, member, declares⟩ := (planned_checks checked declared).mp known
      exact ⟨other, member, declared, declares, back⟩
    · rintro ⟨other, member, declared, declares, back⟩
      exact ⟨declared, (planned_checks checked declared).mpr ⟨other, member, declares⟩, back⟩
  constructor
  · intro authorized
    exact ⟨fun path => (authorized.paths path).symm.trans (allPaths path),
      fun check => (authorized.checks check).symm.trans (allChecks check)⟩
  · intro all
    exact ⟨fun path => (allPaths path).trans (all.paths path).symm,
      fun check => (allChecks check).trans (all.checks check).symm⟩

def declaringItem (itemId path : String) : Dict :=
  [("item_id", .str itemId), ("task_type", .str "engineering"),
    ("allowed_mutation_paths", .arr [.str path]),
    ("deterministic_acceptance_checks",
      .arr [.obj [("type", .str "file_exists"), ("path", .str path)]])]

/-- Two mutations, each with a file of its own. -/
def twoNotes : PersistentWorkflowRow where
  id := "LWORK_000001"
  projectId := some "LPROJ_000001"
  taskId := some "LTASK_000001"
  taskBacklog := [declaringItem "first" "a.md", declaringItem "second" "b.md"]

def runtimeAdapter : ScriptedRuntimePlanningAdapter := { gates := fun _ _ => .ok [] }

def notesStore : Store := { workflows := .single twoNotes }

def notesReference : RuntimePlanReference :=
  ⟨"LWORK_000001", "LPLAN_000001", "LFREEZE_000001", true⟩

def plannedNotes : Store := (exec (runtimeAdapter.prepareWorkflowPlan "LWORK_000001") notesStore).2

theorem notes_planned :
    RuntimePlanned runtimeAdapter notesStore twoNotes notesReference plannedNotes where
  unscripted := rfl
  known := fun _ member => by cases member
  present := rfl
  created := rfl
  prepared := ⟨plannedNotes, by
    have reached : (exec (runtimeAdapter.prepareWorkflowPlan "LWORK_000001") notesStore).1 =
        .ok notesReference := by decide +kernel
    exact Prod.ext reached rfl, rfl⟩

def firstNote : RuntimeExecutionContext := itemContext (declaringItem "first" "a.md")

theorem firstNote_requested : ∃ request, Requested plainSettings firstNote plannedNotes request ∧
    request.readOnly = false ∧ request.allowedMutationPaths = ["a.md", "b.md"] := by
  have asked : (exec (requestFromContext plainSettings firstNote) plannedNotes).1.map (fun request =>
      (scopeError request, request.readOnly, request.allowedMutationPaths)) =
        .ok (none, false, ["a.md", "b.md"]) := by
    decide +kernel
  rcases built : exec (requestFromContext plainSettings firstNote) plannedNotes with
    ⟨error | request, left⟩
  · rw [built] at asked
    cases asked
  · rw [built] at asked
    obtain ⟨inScope, mutation, paths⟩ := Prod.mk.inj (Except.ok.inj asked) |>.imp id Prod.mk.inj
    exact ⟨request, ⟨⟨left, built⟩, inScope⟩, mutation, paths⟩

theorem firstNote_authorized_iff : ∃ request, Requested plainSettings firstNote plannedNotes request ∧
    (ItemAuthorized firstNote.queueItem request ↔ DeclaresAll twoNotes firstNote.queueItem) := by
  obtain ⟨request, requested, mutation, _⟩ := firstNote_requested
  exact ⟨request, requested, item_authorized_iff notes_planned rfl rfl requested mutation⟩

/-- The first item is authorised to change the file of the second. -/
theorem firstNote_overauthorized :
    RuntimePlanned runtimeAdapter notesStore twoNotes notesReference plannedNotes ∧
      ∃ request, Requested plainSettings firstNote plannedNotes request ∧
        request.readOnly = false ∧ ¬ ItemAuthorized firstNote.queueItem request := by
  obtain ⟨request, requested, mutation, paths⟩ := firstNote_requested
  refine ⟨notes_planned, request, requested, mutation, ?_⟩
  intro authorized
  have second : "b.md" ∈ request.allowedMutationPaths := by
    rw [paths]
    decide
  obtain ⟨declared, read, member⟩ := (authorized.paths "b.md").mp second
  have own : explicitMutationPathsFromItem firstNote.queueItem = .ok ["a.md"] := by decide +kernel
  rw [own] at read
  cases read
  revert member
  decide

end Lucius.Planning
