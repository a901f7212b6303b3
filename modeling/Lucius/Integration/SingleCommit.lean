import Lucius.Integration.CommitReads
import Mathlib.Algebra.Order.BigOperators.Group.List

/-! At most one controlled commit is made for a workflow and its freeze.

The commit is made before its record is stored, so what keeps a second one from being
made is that the head never returns to the frozen baseline. -/

namespace Lucius.ControlledCommit

open Worktree Acceptance Lucius.Action

variable {tables : Tables} {request : ControlledCommitRequest} {work : CommitWork}
  {authorized : List String} {checks : List Check} {before after : Scene} {creation : Creation}

/-- One call, and whether the caller keeps what it wrote to the database. -/
structure Call where
  env : Environment
  request : ControlledCommitRequest
  kept : Bool

def Call.ended (call : Call) (scene : Scene) : Except CommitExc ControlledCommitResult × Scene :=
  exec (commit call.env call.request) scene

def step (scene : Scene) (call : Call) : Scene :=
  if call.kept then (call.ended scene).2 else { (call.ended scene).2 with store := scene.store }

/-- The repository as other processes leave it at some points of a call. -/
def Drifted (env : Environment) (before after : Repository) : Prop :=
  ∃ points : List Point, after = points.foldl (fun repository point => env.others point repository) before

/-- The failures a result stands for: a command of Git that exits with an error. -/
def Reported (env : Environment) : Prop :=
  (∀ eventType, env.auditFault eventType = false) ∧
    ∀ point fault, env.fault point = some fault → ∃ code message, fault = .git code message

/-- The freeze of a commit that was made, as the database holds it. -/
structure FrozenFor (tables : Tables) (creation : Creation) (work : CommitWork)
    (authorized : List String) (checks : List Check) : Prop where
  rows : ∃ request, commitWork tables request = .ok work
  workflow : work.workflow.id = creation.workflowId
  freeze : work.freeze.id = creation.planFreezeId
  baseline : work.freeze.commitSha = some creation.parent
  paths : authorizedPaths work.freeze = .ok authorized
  checked : acceptanceChecks work.freeze authorized = .ok checks

/-- The head has left the baseline of the commit for good: it was on it, so no new name
is that of the baseline. -/
structure Spent (scene : Scene) (creation : Creation) : Prop where
  known : (scene.repository.commits.lookup creation.parent).isSome = true
  left : scene.repository.head ≠ creation.parent
  frozen : ∃ work authorized checks, FrozenFor scene.store.toTables creation work authorized checks

def Creation.pair (creation : Creation) : String × String := (creation.workflowId, creation.planFreezeId)

structure Once (scene : Scene) : Prop where
  distinct : (scene.made.map Creation.pair).Nodup
  spent : ∀ creation ∈ scene.made, Spent scene creation

theorem commitWork_rowsKept {before after : Store} (kept : RowsKept before after)
    (request : ControlledCommitRequest) :
    commitWork after.toTables request = commitWork before.toTables request := by
  rw [kept]
  rfl

theorem commitWork_unique {first second : ControlledCommitRequest}
    {left right : CommitWork} (one : commitWork tables first = .ok left)
    (two : commitWork tables second = .ok right) (same : first.workflowId = second.workflowId) :
    left = right := by
  unfold commitWork at one two
  by_cases low : first.authorityLevel ≠ .l2
  · rw [if_pos low] at one
    cases one
  · by_cases lower : second.authorityLevel ≠ .l2
    · rw [if_pos lower] at two
      cases two
    · rw [if_neg low, same] at one
      rw [if_neg lower, one] at two
      exact Except.ok.inj two

theorem commitWork_workflow
    (done : commitWork tables request = .ok work) : work.workflow.id = request.workflowId := by
  unfold commitWork at done
  split at done
  · cases done
  · split at done
    · cases done
    · rename_i workflow found
      split at done
      · cases done
      · obtain ⟨⟨task, plan, freeze⟩, -, rest⟩ := except_bind_ok done
        obtain ⟨contract, -, rest⟩ := except_bind_ok rest
        obtain ⟨nothing, -, rest⟩ := except_bind_ok rest
        obtain ⟨repository, -, returned⟩ := except_bind_ok rest
        cases returned
        exact Table.get?_key found

theorem preflightRows_ok {env : Environment}
    (done : preflightRows env request tables = .ok (work, authorized, checks)) :
    commitWork tables request = .ok work ∧ requireBaseline env request work = .ok () ∧
      existingRecord tables work = none ∧ authorizedPaths work.freeze = .ok authorized ∧
      acceptanceChecks work.freeze authorized = .ok checks := by
  obtain ⟨found, rows, rest⟩ := except_bind_ok done
  obtain ⟨nothing, baseline, rest⟩ := except_bind_ok rest
  cases existing : existingRecord tables found with
  | some record =>
    rw [existing] at rest
    cases rest
  | none =>
    rw [existing] at rest
    obtain ⟨paths, listed, rest⟩ := except_bind_ok rest
    obtain ⟨normalized, checked, returned⟩ := except_bind_ok rest
    cases returned
    exact ⟨rows, baseline, existing, listed, checked⟩

theorem requireBaseline_ok {env : Environment}
    (done : requireBaseline env request work = .ok ()) :
    work.freeze.commitSha = some request.expectedBaselineCommit := by
  unfold requireBaseline at done
  split at done
  · cases done
  · split at done
    · cases done
    · split at done
      · cases done
      · rename_i same
        exact not_not.mp same

/-- A call up to its preflight: it raises, it is stopped, or it goes on with a context. -/
inductive Begins (env : Environment) (request : ControlledCommitRequest) (scene : Scene) : Prop where
  | unrecorded (error : CommitExc) (middle : Scene)
      (audited : exec (audit env request "CONTROLLED_COMMIT_REQUESTED" "REQUESTED") scene =
        (.error error, middle))
      (ended : exec (commit env request) scene = (.error error, middle))
  | raised (middle after : Scene) (error : CommitExc)
      (audited : exec (audit env request "CONTROLLED_COMMIT_REQUESTED" "REQUESTED") scene = (.ok (), middle))
      (noted : Noted scene middle) (looked : exec (preflight env request) middle = (.error error, after))
      (foreign : preflightHandled error = false)
      (ended : exec (commit env request) scene = (.error error, after))
  | refused (middle after : Scene) (error : CommitExc)
      (audited : exec (audit env request "CONTROLLED_COMMIT_REQUESTED" "REQUESTED") scene = (.ok (), middle))
      (noted : Noted scene middle) (looked : exec (preflight env request) middle = (.error error, after))
      (ended : exec (commit env request) scene = exec (stopped env request error) after)
  | prepared (middle after : Scene) (context : CommitContext)
      (audited : exec (audit env request "CONTROLLED_COMMIT_REQUESTED" "REQUESTED") scene = (.ok (), middle))
      (noted : Noted scene middle) (looked : exec (preflight env request) middle = (.ok context, after))
      (ended : exec (commit env request) scene = exec (commitContext env request context) after)

theorem commit_begins (env : Environment) (request : ControlledCommitRequest) (scene : Scene) :
    Begins env request scene := by
  rcases audited : exec (audit env request "CONTROLLED_COMMIT_REQUESTED" "REQUESTED") scene with
    ⟨error | nothing, middle⟩
  · refine .unrecorded error middle audited ?_
    rw [commit, exec_bind_of_error audited]
  · have noted : Noted scene middle := respects_exec (audit_notes env request _ _) audited
    rcases looked : exec (preflight env request) middle with ⟨error | context, after⟩
    · cases known : preflightHandled error with
      | false =>
        refine .raised middle after error audited noted looked known ?_
        rw [commit, exec_bind_of_ok audited,
          exec_bind_of_error (exec_recovering_unhandled looked known)]
      | true =>
        refine .refused middle after error audited noted looked ?_
        rw [commit, exec_bind_of_ok audited, exec_bind_of_ok (exec_recovering_handled looked known)]
    · refine .prepared middle after context audited noted looked ?_
      rw [commit, exec_bind_of_ok audited, exec_bind_of_ok (exec_recovering_ok _ looked)]

section

variable {env : Environment} (quiet : Undisturbed env)
include quiet

theorem commit_makes (request : ControlledCommitRequest) (scene : Scene) :
    Still scene (exec (commit env request) scene).2 ∨
      ∃ work authorized checks,
        preflightRows env request scene.store.toTables = .ok (work, authorized, checks) ∧
        scene.repository.head = request.expectedBaselineCommit ∧
        Made work.workflow.id work.freeze.id scene (exec (commit env request) scene).2 := by
  have frame := still_frame quiet
  cases commit_begins env request scene with
  | unrecorded error middle audited ended =>
    rw [ended]
    exact .inl (respects_exec (audit_still request _ _) audited)
  | raised middle after error audited noted looked foreign ended =>
    rw [ended]
    exact .inl (still_trans _ _ _ noted.still (respects_exec (preflight_respects frame request) looked))
  | refused middle after error audited noted looked ended =>
    rw [ended]
    have before : Still scene after := still_trans _ _ _ noted.still
      (respects_exec (preflight_respects frame request) looked)
    exact .inl (still_trans _ _ _ before (stopped_still quiet request error after))
  | prepared middle after context audited noted looked ended =>
    rw [ended]
    have before : Still scene after := still_trans _ _ _ noted.still
      (respects_exec (preflight_respects frame request) looked)
    rcases commitContext_makes quiet request context after with still | made
    · exact .inl (still_trans _ _ _ before still)
    · have prepared := preflight_ok looked
      have rows := prepared.rows
      have head := prepared.head
      rw [noted.tables] at rows
      rw [show (middle.reached env (.head .preflight)).repository =
        env.others (.head .preflight) middle.repository from rfl, (quiet _ _).1,
        noted.repository] at head
      exact .inr ⟨_, _, _, rows, head, still_made before made⟩

end

theorem Still.kept (still : Still before after) (kept : Bool) :
    Still before (if kept then after else { after with store := before.store }) := by
  cases kept with
  | true => exact still
  | false => exact ⟨still.head, still.made, rowsKept_refl _, still.commits⟩

theorem Made.kept {workflowId planFreezeId : String}
    (made : Made workflowId planFreezeId before after) (kept : Bool) :
    Made workflowId planFreezeId before (if kept then after else { after with store := before.store }) := by
  cases kept with
  | true => exact made
  | false => exact ⟨made.unknown, made.made, rowsKept_refl _, made.commits⟩

theorem FrozenFor.rowsKept {before after : Store} (kept : RowsKept before after)
    (frozen : FrozenFor before.toTables creation work authorized checks) :
    FrozenFor after.toTables creation work authorized checks := by
  obtain ⟨request, rows⟩ := frozen.rows
  exact { frozen with rows := ⟨request, (commitWork_rowsKept kept request).trans rows⟩ }

/-- The head of a scene that kept its commits is another than a known baseline, when it
is new or stands where it stood. -/
theorem Spent.carried (spent : Spent before creation)
    (rows : RowsKept before.store after.store) (commits : CommitsKept before.repository after.repository)
    (moved : after.repository.head = before.repository.head ∨
      before.repository.commits.lookup after.repository.head = none) : Spent after creation := by
  obtain ⟨commit, known⟩ := Option.isSome_iff_exists.mp spent.known
  obtain ⟨work, authorized, checks, frozen⟩ := spent.frozen
  refine ⟨?_, ?_, work, authorized, checks, frozen.rowsKept rows⟩
  · rw [commits _ commit known]
    rfl
  · intro same
    rcases moved with stayed | unknown
    · exact spent.left (stayed.symm.trans same)
    · rw [same, known] at unknown
      cases unknown

theorem FrozenFor.baseline_unique {other : CommitWork}
    (frozen : FrozenFor tables creation work authorized checks)
    (rows : commitWork tables request = .ok other) (same : creation.workflowId = request.workflowId) :
    other = work := by
  obtain ⟨asked, held⟩ := frozen.rows
  refine commitWork_unique rows held ?_
  rw [← same, ← frozen.workflow, commitWork_workflow held]

theorem once_still (once : Once before) (still : Still before after) :
    Once after := by
  constructor
  · rw [still.made]
    exact once.distinct
  · intro creation member
    rw [still.made] at member
    exact (once.spent creation member).carried still.rows still.commits (.inl still.head)

theorem once_made {env : Environment} (once : Once before)
    (rows : preflightRows env request before.store.toTables = .ok (work, authorized, checks))
    (head : before.repository.head = request.expectedBaselineCommit)
    (made : Made work.workflow.id work.freeze.id before after) : Once after := by
  obtain ⟨found, based, -, listed, checked⟩ := preflightRows_ok rows
  have baseline := requireBaseline_ok based
  let new : Creation := ⟨work.workflow.id, work.freeze.id, before.repository.head, after.repository.head⟩
  have noted : after.made = before.made ++ [new] := made.made
  have frozen : FrozenFor before.store.toTables new work authorized checks :=
    ⟨⟨request, found⟩, rfl, rfl, by rw [baseline, ← head], listed, checked⟩
  constructor
  · rw [noted, List.map_append, List.nodup_append]
    refine ⟨once.distinct, List.nodup_singleton _, ?_⟩
    intro pair old fresh present same
    obtain ⟨creation, member, rfl⟩ := List.mem_map.mp old
    rw [List.map_cons, List.map_nil, List.mem_singleton] at present
    rw [present] at same
    have spent := once.spent creation member
    obtain ⟨held, paths, normalized, known⟩ := spent.frozen
    have named : creation.workflowId = request.workflowId :=
      (congrArg Prod.fst same).trans (commitWork_workflow found)
    have equal : work = held := known.baseline_unique found named
    have parents : some creation.parent = some before.repository.head := by
      rw [← known.baseline, ← equal, baseline, head]
    exact spent.left (Option.some.inj parents).symm
  · intro creation member
    rw [noted, List.mem_append, List.mem_singleton] at member
    rcases member with old | rfl
    · exact (once.spent creation old).carried made.rows made.commits (.inr made.unknown)
    · have known := before.repository.head_known
      obtain ⟨commit, held⟩ := Option.isSome_iff_exists.mp known
      refine ⟨?_, ?_, work, authorized, checks, frozen.rowsKept made.rows⟩
      · rw [made.commits _ commit held]
        rfl
      · intro same
        have unknown := made.unknown
        rw [same, held] at unknown
        cases unknown

theorem once_step {scene : Scene} {call : Call} (quiet : Undisturbed call.env) (once : Once scene) :
    Once (step scene call) := by
  rcases commit_makes quiet call.request scene with still | ⟨work, authorized, checks, rows, head, made⟩
  · exact once_still once (still.kept call.kept)
  · exact once_made once rows head (made.kept call.kept)

theorem once_run {start : Scene} (initial : Once start) {calls : List Call}
    (quiet : ∀ call ∈ calls, Undisturbed call.env) : Once (Run.run step start calls) := by
  refine Run.invariant_guarded step (fun _ call => Undisturbed call.env) Once
    (fun scene call once still => once_step still once) start calls initial ?_
  rw [Run.meets_iff_forall]
  intro front call back split
  exact quiet call (by rw [split]; simp)

section

variable {env : Environment} {α : Type} {point : Point} {scene after : Scene} {error : CommitExc}
  {request : ControlledCommitRequest} {creation : Creation}

theorem drifts (env : Environment) :
    Reads env (fun before after => Drifted env before.repository after.repository) where
  reflexive _ := ⟨[], rfl⟩
  transitive first second third one two := by
    obtain ⟨front, left⟩ := one
    obtain ⟨back, right⟩ := two
    exact ⟨front ++ back, by rw [right, left, List.foldl_append]⟩
  reached point scene := ⟨[point], rfl⟩

theorem drifted_kept (quiet : Undisturbed env) {before after : Repository}
    (drifted : Drifted env before after) :
    after.head = before.head ∧ Updates.Same after.index before.index := by
  obtain ⟨points, same⟩ := drifted
  subst same
  induction points generalizing before with
  | nil => exact ⟨rfl, Updates.same_refl _⟩
  | cons point rest ih =>
    obtain ⟨head, index⟩ := @ih (env.others point before)
    obtain ⟨stayed, staged⟩ := quiet point before
    exact ⟨head.trans stayed, Updates.same_trans index staged⟩

theorem observe_error
    {read : Option ReadFault → Repository → Except WorkspaceExc α} (done : exec (observe env point read) scene = (.error error, after)) :
    ∃ raised, error = .raised raised ∧
      read (env.fault point) (scene.reached env point).repository = .error raised := by
  have unfolded : exec (observe env point read) scene =
      exec (Action.ofExcept (lift (read (env.fault point) (scene.reached env point).repository)))
        (scene.reached env point) := rfl
  rw [unfolded, exec_ofExcept] at done
  have raised := congrArg Prod.fst done
  dsimp only at raised
  cases found : read (env.fault point) (scene.reached env point).repository with
  | error raisedError =>
    rw [found] at raised
    cases raised
    exact ⟨raisedError, rfl, rfl⟩
  | ok value =>
    rw [found] at raised
    cases raised

/-- An action whose only exceptions are those of a failed Git command. -/
def GitOnly {α : Type} (action : Committing α) : Prop :=
  ∀ scene error after, exec action scene = (.error error, after) → isGitMutation error = true

theorem git_handled (git : isGitMutation error = true) :
    preflightHandled error = true := by
  cases error with
  | blocked reason => rfl
  | alreadyCommitted record => rfl
  | raised failure =>
    cases failure with
    | gitMutation code message => rfl
    | _ => cases git

theorem failing_git (reported : Reported env) {error : WorkspaceExc}
    (failed : failing (env.fault point) = .error error) : isGitMutation (.raised error) = true := by
  cases fault : env.fault point with
  | none =>
    rw [fault] at failed
    cases failed
  | some held =>
    obtain ⟨code, message, rfl⟩ := reported.2 point held fault
    rw [fault] at failed
    cases failed
    rfl

theorem observe_git (reported : Reported env)
    {read : Option ReadFault → Repository → Except WorkspaceExc α}
    (reads : ∀ repository error, read (env.fault point) repository = .error error →
      failing (env.fault point) = .error error ∨ isGitMutation (.raised error) = true) :
    GitOnly (observe env point read) := by
  intro scene error after done
  obtain ⟨raised, rfl, failed⟩ := observe_error done
  rcases reads _ raised failed with faulted | known
  · exact failing_git reported faulted
  · exact known

theorem failing_bind_error {fault : Option ReadFault} {next : Unit → Except WorkspaceExc α}
    {error : WorkspaceExc} (failed : (failing fault >>= next) = .error error) :
    failing fault = .error error ∨ next () = .error error := by
  cases fault with
  | none => exact .inr failed
  | some held =>
    cases failed
    exact .inl rfl

theorem head_git (reported : Reported env) (point : Point) : GitOnly (observeHead env point) := by
  apply observe_git reported
  intro repository error failed
  rcases failing_bind_error failed with faulted | later
  · exact .inl faulted
  · cases later

theorem parents_git (reported : Reported env) (sha : String) :
    GitOnly (observe env .headParents (fun fault repository => commitParentShas fault repository sha)) := by
  apply observe_git reported
  intro repository error failed
  rcases failing_bind_error failed with faulted | later
  · exact .inl faulted
  · split at later
    · cases later
    · cases later
      exact .inr rfl

theorem paths_git (reported : Reported env) (sha : String) :
    GitOnly (observe env .headPaths (fun fault repository => commitChangedPaths fault repository sha)) := by
  apply observe_git reported
  intro repository error failed
  rcases failing_bind_error failed with faulted | later
  · exact .inl faulted
  · split at later
    · cases later
      exact .inr rfl
    · split at later
      · split at later
        · cases later
        · cases later
          exact .inr rfl
      · cases later

theorem gitOnly_bind {β : Type} {first : Committing α} {next : α → Committing β}
    (before : GitOnly first) (later : ∀ value, GitOnly (next value)) : GitOnly (first >>= next) := by
  intro scene error after done
  rw [exec_bind] at done
  rcases outcome : exec first scene with ⟨raised | value, middle⟩
  · rw [outcome] at done
    cases done
    exact before scene _ _ outcome
  · rw [outcome] at done
    exact later value middle error after done

theorem gitOnly_pure (value : α) : GitOnly (pure value : Committing α) := by
  intro scene error after done
  cases done

theorem reconciliation_returns (reported : Reported env) (head baseline : String)
    (authorized : List String) (scene : Scene) :
    ∃ missing after,
      exec (looksLikeMissingCommitRecord env head baseline authorized) scene = (.ok missing, after) := by
  have git := gitOnly_bind (parents_git reported head) (fun parents =>
    gitOnly_bind (paths_git reported head) (fun paths => gitOnly_pure (parents, paths)))
  unfold looksLikeMissingCommitRecord
  rcases outcome : exec (do
      let parents ← observe env .headParents (fun fault repository =>
        commitParentShas fault repository head)
      let paths ← observe env .headPaths (fun fault repository =>
        commitChangedPaths fault repository head)
      return (parents, paths)) scene with ⟨error | ⟨parents, paths⟩, after⟩
  · rw [exec_bind_of_ok (exec_recovering_handled outcome (git scene error after outcome))]
    exact ⟨_, _, rfl⟩
  · rw [exec_bind_of_ok (exec_recovering_ok _ outcome)]
    exact ⟨_, _, rfl⟩

theorem requireHead_stops (authorized : List String)
    (left : (scene.reached env (.head .preflight)).repository.head ≠ request.expectedBaselineCommit) :
    ∃ error after, exec (requireHead env request authorized) scene = (.error error, after) ∧
      (Reported env → preflightHandled error = true) := by
  rcases ended : exec (requireHead env request authorized) scene with ⟨error | nothing, after⟩
  · refine ⟨error, after, rfl, ?_⟩
    intro reported
    unfold requireHead at ended
    rcases looked : exec (observeHead env (.head .preflight)) scene with ⟨raised | head, middle⟩
    · rw [exec_bind_of_error looked] at ended
      cases ended
      exact git_handled (head_git reported _ scene _ _ looked)
    · rw [exec_bind_of_ok looked] at ended
      split at ended
      · obtain ⟨missing, last, found⟩ := reconciliation_returns reported head
          request.expectedBaselineCommit authorized middle
        rw [exec_bind_of_ok found] at ended
        split at ended
        · cases ended
          rfl
        · cases ended
          rfl
      · cases ended
  · exact absurd (requireHead_ok ended).2 (by rw [(requireHead_ok ended).1]; exact left)

/-- Every error of a reading of rows is a reason for blocking. -/
def Blocks {α : Type} (value : Except CommitExc α) : Prop :=
  ∀ error, value = .error error → ∃ reason, error = .blocked reason

theorem blocks_error (reason : String) : Blocks (.error (.blocked reason) : Except CommitExc α) := by
  intro error failed
  cases failed
  exact ⟨reason, rfl⟩

theorem blocks_ok (value : α) : Blocks (.ok value) := fun _ failed => nomatch failed

theorem blocks_bind {β : Type} {first : Except CommitExc α} {next : α → Except CommitExc β}
    (before : Blocks first) (later : ∀ value, Blocks (next value)) : Blocks (first >>= next) := by
  intro error failed
  cases found : first with
  | error refused =>
    rw [found] at failed
    cases failed
    exact before _ found
  | ok value =>
    rw [found] at failed
    exact later value error failed

theorem closedPlan_blocks (tables : Tables) (workflow : PersistentWorkflowRow) :
    Blocks (closedPlan tables workflow) := by
  unfold closedPlan
  split
  · exact blocks_error _
  · split
    · exact blocks_error _
    · split
      · split
        · exact blocks_error _
        · split
          · exact blocks_error _
          · exact blocks_ok _
      · exact blocks_error _

theorem plannedContract_blocks (tables : Tables) (task : TaskRow) (plan : EngineeringPlanRow) :
    Blocks (plannedContract tables task plan) := by
  unfold plannedContract
  split
  · exact blocks_error _
  · split
    · exact blocks_error _
    · exact blocks_ok _

theorem authority_blocks (task : TaskRow) (contract : TaskContractRow) :
    Blocks (verifyCommitAuthority task contract) := by
  unfold verifyCommitAuthority
  dsimp only
  split
  · exact blocks_error _
  · split
    · exact blocks_error _
    · split
      · exact blocks_error _
      · exact blocks_ok _

theorem attachedRepository_blocks (tables : Tables) (workflow : PersistentWorkflowRow) :
    Blocks (attachedRepository tables workflow) := by
  unfold attachedRepository
  split
  · exact blocks_error _
  · split
    · exact blocks_error _
    · split
      · exact blocks_error _
      · exact blocks_ok _

theorem commitWork_blocks (tables : Tables) (request : ControlledCommitRequest) :
    Blocks (commitWork tables request) := by
  unfold commitWork
  split
  · exact blocks_error _
  · split
    · exact blocks_error _
    · split
      · exact blocks_error _
      · apply blocks_bind (closedPlan_blocks _ _)
        rintro ⟨task, plan, freeze⟩
        apply blocks_bind (plannedContract_blocks _ _ _)
        intro contract
        apply blocks_bind (authority_blocks _ _)
        intro _
        exact blocks_bind (attachedRepository_blocks _ _) (fun _ => blocks_ok _)

theorem requireBaseline_blocks (request : ControlledCommitRequest) (work : CommitWork) :
    Blocks (requireBaseline env request work) := by
  unfold requireBaseline
  split
  · exact blocks_error _
  · split
    · exact blocks_error _
    · split
      · exact blocks_error _
      · exact blocks_ok _

/-- The rows of a freeze a commit was made for are refused for a reason, or because of
the record of that commit. -/
theorem rows_handled {tables : Tables}
    {work : CommitWork} {paths : List String} {normalized : List Check}
    (frozen : FrozenFor tables creation work paths normalized)
    (same : creation.workflowId = request.workflowId)
    (rows : preflightRows env request tables = .error error) : preflightHandled error = true := by
  unfold preflightRows at rows
  cases found : commitWork tables request with
  | error refused =>
    obtain ⟨reason, rfl⟩ := commitWork_blocks tables request refused found
    rw [found] at rows
    cases rows
    rfl
  | ok other =>
    have equal := frozen.baseline_unique found same
    subst equal
    rw [found] at rows
    cases based : requireBaseline env request other with
    | error refused =>
      obtain ⟨reason, rfl⟩ := requireBaseline_blocks request other refused based
      have ended : (.error (.blocked reason) : Except CommitExc (CommitWork × List String × List Check)) =
          .error error := by
        rw [← rows]
        simp only [bind, Except.bind, based]
      cases ended
      rfl
    | ok nothing =>
      simp only [bind, Except.bind, based] at rows
      cases existing : existingRecord tables other with
      | some record =>
        rw [existing] at rows
        cases rows
        rfl
      | none =>
        rw [existing] at rows
        simp only [frozen.paths, frozen.checked] at rows
        cases rows

/-- Where the baseline of the freeze is spent, the preflight ends before it looks at the
working tree. -/
theorem preflight_stops (quiet : Undisturbed env) (spent : Spent scene creation)
    (same : creation.workflowId = request.workflowId) :
    ∃ error after, exec (preflight env request) scene = (.error error, after) ∧
      Drifted env scene.repository after.repository ∧ (Reported env → preflightHandled error = true) := by
  unfold preflight
  rw [exec_get_bind]
  obtain ⟨work, paths, normalized, frozen⟩ := spent.frozen
  cases rows : preflightRows env request scene.store.toTables with
  | error error =>
    exact ⟨error, scene, rfl, ⟨[], rfl⟩, fun _ => rows_handled frozen same rows⟩
  | ok held =>
    obtain ⟨other, authorized, checks⟩ := held
    obtain ⟨found, based, -, -, -⟩ := preflightRows_ok rows
    have equal := frozen.baseline_unique found same
    have parent : some creation.parent = some request.expectedBaselineCommit := by
      rw [← frozen.baseline, ← equal, requireBaseline_ok based]
    have left : (scene.reached env (.head .preflight)).repository.head ≠
        request.expectedBaselineCommit := by
      rw [← Option.some.inj parent]
      exact fun back => spent.left ((quiet _ scene.repository).1.symm.trans back)
    obtain ⟨error, after, stopped, known⟩ := requireHead_stops authorized left
    refine ⟨error, after, ?_, respects_exec (requireHead_respects (drifts env) request authorized) stopped,
      known⟩
    rw [exec_bind_ofExcept rfl, exec_bind_of_error stopped]

theorem Spent.noted {before : Scene} (spent : Spent before creation)
    (noted : Noted before after) : Spent after creation :=
  spent.carried noted.still.rows noted.still.commits (.inl noted.still.head)

theorem stopped_noted (request : ControlledCommitRequest) (error : CommitExc) :
    Respects Noted (stopped env request error) := by
  have trans : ∀ first second third, Noted first second → Noted second third → Noted first third :=
    fun _ _ _ one two => ⟨two.repository.trans one.repository, two.made.trans one.made,
      two.sights.trans one.sights, two.tables.trans one.tables⟩
  unfold stopped
  split
  · exact respects_bind trans (audit_notes env _ _ _) (fun _ => respects_pure (fun _ => ⟨rfl, rfl, rfl, rfl⟩) _)
  · exact respects_bind trans (audit_notes env _ _ _) (fun _ => respects_pure (fun _ => ⟨rfl, rfl, rfl, rfl⟩) _)

theorem audit_returns {eventType result : String}
    (quiet : env.auditFault eventType = false) : Returns (audit env request eventType result) := by
  unfold audit
  rw [if_neg (by rw [quiet]; exact Bool.false_ne_true)]
  exact returns_modify _

theorem stopped_status {result : ControlledCommitResult}
    (done : exec (stopped env request error) scene = (.ok result, after)) :
    result.status = .alreadyCommitted ∨ result.status = .failed := by
  unfold stopped at done
  split at done
  · obtain ⟨nothing, middle, -, returned⟩ := bind_ok done
    obtain ⟨rfl, -⟩ := ok_pure returned
    exact .inl rfl
  · obtain ⟨nothing, middle, -, returned⟩ := bind_ok done
    obtain ⟨rfl, -⟩ := ok_pure returned
    exact .inr rfl

theorem stopped_returns (reported : Reported env) (request : ControlledCommitRequest)
    (error : CommitExc) : Returns (stopped env request error) := by
  unfold stopped
  split
  · exact returns_bind (audit_returns (reported.1 _)) (fun _ => returns_pure _)
  · exact returns_bind (audit_returns (reported.1 _)) (fun _ => returns_pure _)

/-- A call for a workflow whose commit has been made changes nothing and says so. -/
structure Idle (env : Environment) (before : Repository)
    (ended : Except CommitExc ControlledCommitResult × Scene) : Prop where
  head : ended.2.repository.head = before.head
  index : Updates.Same ended.2.repository.index before.index
  drifted : Drifted env before ended.2.repository
  status : ∀ result, ended.1 = .ok result → result.status = .alreadyCommitted ∨ result.status = .failed
  returns : Reported env → ∃ result, ended.1 = .ok result

theorem later_call (quiet : Undisturbed env) (spent : Spent scene creation) (same : creation.workflowId = request.workflowId) :
    Idle env scene.repository (exec (commit env request) scene) := by
  have still : ∀ after, Drifted env scene.repository after →
      after.head = scene.repository.head ∧ Updates.Same after.index scene.repository.index :=
    fun _ drifted => drifted_kept quiet drifted
  cases commit_begins env request scene with
  | unrecorded error middle audited ended =>
    have noted : Noted scene middle := respects_exec (audit_notes env request _ _) audited
    have drifted : Drifted env scene.repository middle.repository := ⟨[], noted.repository⟩
    rw [ended]
    refine ⟨(still _ drifted).1, (still _ drifted).2, drifted, (fun _ done => nomatch done), ?_⟩
    intro reported
    obtain ⟨nothing, after, returned⟩ :=
      @audit_returns env request _ "REQUESTED" (reported.1 "CONTROLLED_COMMIT_REQUESTED")
        scene
    rw [audited] at returned
    cases returned
  | raised middle after error audited noted looked foreign ended =>
    obtain ⟨refused, last, stops, drifted, known⟩ := preflight_stops quiet (spent.noted noted) same
    rw [looked] at stops
    cases stops
    rw [noted.repository] at drifted
    rw [ended]
    refine ⟨(still _ drifted).1, (still _ drifted).2, drifted, (fun _ done => nomatch done), ?_⟩
    intro reported
    rw [known reported] at foreign
    cases foreign
  | refused middle after error audited noted looked ended =>
    obtain ⟨refused, last, stops, drifted, known⟩ := preflight_stops quiet (spent.noted noted) same
    rw [looked] at stops
    cases stops
    rw [noted.repository] at drifted
    have unmoved := (@stopped_noted env request error after).repository
    rw [← unmoved] at drifted
    rw [ended]
    refine ⟨(still _ drifted).1, (still _ drifted).2, drifted, ?_, ?_⟩
    · intro result done
      exact stopped_status (Prod.ext done rfl)
    · intro reported
      obtain ⟨result, final, returned⟩ := stopped_returns reported request error after
      exact ⟨result, by rw [returned]⟩
  | prepared middle after context audited noted looked ended =>
    obtain ⟨refused, last, stops, -, -⟩ := preflight_stops quiet (spent.noted noted) same
    rw [looked] at stops
    cases stops

end

/-- In every run of calls on a repository whose head and index no other process moves,
one commit at most is made for a workflow and its freeze, and every later call for that
workflow leaves the repository as other processes make it and says that the commit is
there or that the call failed. -/
theorem one_commit_per_freeze (start : Scene) (fresh : start.made = []) (calls : List Call)
    (quiet : ∀ call ∈ calls, Undisturbed call.env) :
    ((Run.run step start calls).made.map Creation.pair).Nodup ∧
    ∀ front call back, calls = front ++ call :: back →
      ∀ creation ∈ (Run.run step start front).made, creation.workflowId = call.request.workflowId →
        Idle call.env (Run.run step start front).repository (call.ended (Run.run step start front)) := by
  have initial : Once start := by
    constructor
    · rw [fresh]
      exact List.nodup_nil
    · intro creation member
      rw [fresh] at member
      cases member
  refine ⟨(once_run initial quiet).distinct, ?_⟩
  intro front call back split creation member same
  have listed : call ∈ calls := by
    rw [split]
    simp
  have before : ∀ other ∈ front, Undisturbed other.env := fun other earlier =>
    quiet other (by rw [split]; exact List.mem_append_left _ earlier)
  exact later_call (quiet call listed) ((once_run initial before).spent creation member) same

/-- A name longer than those of all commits together. -/
def freshName (repository : Repository) : String :=
  String.ofList (List.replicate ((repository.commits.keys.map String.length).sum + 1) 'c')

theorem freshName_fresh (repository : Repository) :
    repository.commits.lookup (freshName repository) = none := by
  rw [AList.lookup_eq_none]
  intro taken
  have counted : (freshName repository).length ≤ (repository.commits.keys.map String.length).sum :=
    List.single_le_sum (fun _ _ => Nat.zero_le _) _ (List.mem_map_of_mem (AList.mem_keys.mp taken))
  rw [freshName, String.length_ofList, List.length_replicate] at counted
  omega

/-- A repository in which no command fails and no other process takes part. -/
def calm : Environment where
  sha256 := fun bytes => String.ofList (bytes.map (fun byte => Char.ofNat byte.toNat))
  manifestHash := fun manifest => manifest.workflowId ++ manifest.planFreezeId
  resolvePath := id
  ignored := fun _ => false
  shown := fun _ => []
  commitName := freshName
  commands := fun _ => ⟨fun _ => false, fun _ _ => ([], .osError)⟩
  others := fun _ repository => repository
  fault := fun _ => none
  lands := fun _ => false
  auditFault := fun _ => false
  recordFault := false
  commitName_fresh := freshName_fresh
  others_keep := fun _ _ _ _ found => found

def notesPayload : Json := .obj [
  ("affected_files", .arr [.obj [("path", .str "a.md")]]),
  ("deterministic_acceptance_checks",
    .arr [.obj [("type", .str "file_exists"), ("path", .str "a.md")]])]

def notesTables : Tables where
  tasks := Table.empty.add
    { id := "LTASK_000001", projectId := "LPROJ_000001", authorityLevel := .l2, status := .complete }
  contracts := Table.empty.add
    { id := "LCONTR_000001", taskId := "LTASK_000001", authorityLevel := .l2
      allowedActions := ["CREATE_COMMIT"] }
  plans := Table.empty.add
    { id := "LPLAN_000001", taskId := "LTASK_000001", projectId := "LPROJ_000001"
      taskContractId := "LCONTR_000001" }
  freezes := Table.empty.add
    { id := "LFREEZE_000001", planId := "LPLAN_000001", taskId := "LTASK_000001"
      projectId := "LPROJ_000001", commitSha := some "base", planPayload := notesPayload }
  repositories := Table.empty.add
    { id := "LREPO_000001", projectId := "LPROJ_000001", location := "/work" }
  attachments := [⟨"LPROJ_000001", "LREPO_000001"⟩]
  workflows := Table.empty.add
    { id := "LWORK_000001", projectId := some "LPROJ_000001", repositoryId := some "LREPO_000001"
      taskId := some "LTASK_000001", planId := some "LPLAN_000001"
      planFreezeId := some "LFREEZE_000001", workflowState := .closed }

def notesRepository : Repository where
  head := "base"
  index := ∅
  files := AList.insert "a.md" [65] ∅
  commits := AList.insert "base" ⟨[], ∅⟩ ∅
  head_known := by decide

def notesScene : Scene := ⟨{ toTables := notesTables }, notesRepository, [], []⟩

def notesRequest : ControlledCommitRequest where
  workflowId := "LWORK_000001"
  canonicalRepositoryPath := "/work"
  expectedBaselineCommit := "base"

def notesCall : Call := ⟨calm, notesRequest, true⟩

theorem notes_commit_once :
    ((notesCall.ended notesScene).1.toOption.map (·.status) = some .completed ∧
      (Run.run step notesScene [notesCall, notesCall]).made.map Creation.pair =
        [("LWORK_000001", "LFREEZE_000001")]) ∧
    ((Run.run step notesScene [notesCall, notesCall]).made.map Creation.pair).Nodup :=
  ⟨by decide +kernel, (one_commit_per_freeze notesScene rfl [notesCall, notesCall]
    (by
      intro call listed
      have same : call = notesCall := by simpa using listed
      rw [same]
      exact fun point repository => ⟨rfl, Updates.same_refl _⟩)).1⟩

end Lucius.ControlledCommit
