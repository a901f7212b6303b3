import Lucius.Integration.CommitSoundness

/-! What a controlled commit that fails leaves of the head and the index.

Up to the staging nothing is changed. From there on a failure is undone by a cleanup that
may fail itself, and the handlers around the steps do not name every exception. -/

namespace Lucius.ControlledCommit

open Worktree Lucius.Action

variable {after scene start left : Scene} {before : Repository} {paths names : List String}
  {context : CommitContext}

/-- The head and the index are what they were. -/
def SameState (before after : Repository) : Prop :=
  after.head = before.head ∧ Updates.Same after.index before.index

/-- A call that does not complete leaves the head and the index, or its result asks for
reconciliation by hand. -/
def Reverts (before : Repository) (ended : Except CommitExc ControlledCommitResult × Scene) : Prop :=
  match ended.1 with
  | .ok result => result.status ≠ .completed →
      SameState before ended.2.repository ∨ result.manualReconciliationRequired = true
  | .error _ => SameState before ended.2.repository

/-- The call gets as far as staging its paths. -/
def Stages (env : Environment) (request : ControlledCommitRequest) (scene : Scene)
    (context : CommitContext) (start : Scene) : Prop :=
  ∃ middle prepared, exec (audit env request "CONTROLLED_COMMIT_REQUESTED" "REQUESTED") scene = (.ok (), middle) ∧
    exec (preflight env request) middle = (.ok context, prepared) ∧
    exec (verifyPreCommitState env context) prepared = (.ok (), start)

/-- The command that unstages takes effect. -/
def Unstages (env : Environment) : Prop := env.fault .unstage = none ∨ env.lands .unstage = true

/-- A failure that has staged nothing, or one the handler names and the cleanup undoes. -/
def Undone (env : Environment) (handles : CommitExc → Bool) (start left : Scene) (error : CommitExc) :
    Prop :=
  Updates.Same left.repository.index start.repository.index ∨ handles error = true ∧ Unstages env

/-- The failure of a verification after the commit can be reported. -/
def Reportable (env : Environment) : Prop :=
  env.auditFault "CONTROLLED_COMMIT_POST_COMMIT_VERIFICATION_FAILED" = false ∧
    ∀ fault, env.fault .observedHead = some fault → isGitMutation (.raised fault.exc) = true

/-- Each failure from the staging on is undone or reported. -/
structure Recovers (env : Environment) (request : ControlledCommitRequest) (context : CommitContext)
    (start : Scene) : Prop where
  staging : ∀ error left, exec (stageManifest env context) start = (.error error, left) →
    Undone env handled start left error
  creation : ∀ staged error left, exec (stageManifest env context) start = (.ok (), staged) →
    exec (createLocalCommit env context) staged = (.error error, left) →
    left.repository.head = start.repository.head ∧ Undone env isGitMutation start left error
  verification : ∀ staged created resulting error left,
    exec (stageManifest env context) start = (.ok (), staged) →
    exec (createLocalCommit env context) staged = (.ok resulting, created) →
    exec (verifyAndRecord env request context resulting) created = (.error error, left) → Reportable env

def Unmoved (before after : Scene) : Prop := SameState before.repository after.repository

theorem unmoved_refl (scene : Scene) : Unmoved scene scene := ⟨rfl, Updates.same_refl _⟩

theorem unmoved_trans (first second third : Scene) (one : Unmoved first second)
    (two : Unmoved second third) : Unmoved first third :=
  ⟨two.1.trans one.1, Updates.same_trans two.2 one.2⟩

theorem Noted.unmoved {before : Scene} (noted : Noted before after) : Unmoved before after := by
  unfold Unmoved
  rw [noted.repository]
  exact ⟨rfl, Updates.same_refl _⟩

variable {env : Environment}

theorem unmoved_frame (quiet : Undisturbed env) : Frame env Unmoved where
  reflexive := unmoved_refl
  transitive := unmoved_trans
  reached point scene := quiet point scene.repository
  checked _ _ _ := unmoved_refl _

theorem headTree_kept {after : Repository} (head : after.head = before.head)
    (commits : CommitsKept before after) : after.headTree = before.headTree := by
  obtain ⟨commit, known⟩ := Option.isSome_iff_exists.mp before.head_known
  have held := commits _ _ known
  unfold Repository.headTree
  rw [head, known, held]

theorem clean_kept {before : Scene} (unmoved : Unmoved before after)
    (commits : CommitsKept before.repository after.repository) (clean : before.repository.Clean) :
    after.repository.Clean := by
  unfold Repository.Clean
  rw [headTree_kept unmoved.1 commits]
  exact Updates.same_trans unmoved.2 clean

theorem staged_empty {phase : Phase}
    (done : exec (observeStaged env phase) scene = (.ok paths, after)) (empty : paths = []) :
    after.repository.Clean := by
  obtain ⟨reached, found⟩ := observe_ok done
  obtain ⟨nothing, -, returned⟩ := except_bind_ok found
  rw [← reached] at returned
  cases returned
  rw [← Repository.staged_eq_nil _ env.ignored]
  apply List.eq_nil_iff_forall_not_mem.mpr
  intro path member
  have listed : path ∈ sortedBy id (after.repository.checkout env.ignored).staged :=
    (mem_sortedBy id _ path).mpr member
  rw [empty] at listed
  cases listed

theorem preCommit_clean (quiet : Undisturbed env)
    (done : exec (verifyPreCommitState env context) scene = (.ok (), after)) :
    after.repository.Clean := by
  obtain ⟨nothing, unmoved, looked, rest⟩ := bind_ok done
  have verifying : ∀ {relation : Scene → Scene → Prop}, Frame env relation → relation unmoved after := by
    intro relation frame
    obtain ⟨evidence, middle, accepted, hashing⟩ := bind_ok rest
    have reads := frame.toReads
    split at hashing
    · exact (not_ok_throw hashing).elim
    · exact frame.transitive _ _ _ (respects_exec (acceptance_respects frame _ _) accepted)
        (respects_exec (verifyHashes_respects reads (fun _ => observe_respects reads _ _) _ _) hashing)
  suffices clean : unmoved.repository.Clean from
    clean_kept (verifying (unmoved_frame quiet)) (verifying (grows_frame env)).commits clean
  unfold verifyUnmoved at looked
  obtain ⟨head, first, -, rest⟩ := bind_ok looked
  split at rest
  · exact (not_ok_throw rest).elim
  · obtain ⟨paths, second, staged, rest⟩ := bind_ok rest
    split at rest
    · exact (not_ok_throw rest).elim
    · rename_i empty
      have clean : second.repository.Clean := staged_empty staged (by simpa using empty)
      obtain ⟨nothing, third, kept, rest⟩ := bind_ok rest
      obtain ⟨observed, fourth, changed, rest⟩ := bind_ok rest
      split at rest
      · exact (not_ok_throw rest).elim
      · obtain ⟨-, rfl⟩ := ok_pure rest
        have later : ∀ {relation : Scene → Scene → Prop}, Reads env relation →
            relation second unmoved := by
          intro relation reads
          exact reads.transitive _ _ _ (respects_exec (untracked_respects reads _ _) kept)
            (respects_exec (observe_respects reads _ _) changed)
        exact clean_kept (later (unmoved_frame quiet).toReads)
          (later (grows_frame env).toReads).commits clean

/-- The index differs at most under the paths. -/
structure Within (paths : List String) (before after : Scene) : Prop where
  commits : CommitsKept before.repository after.repository
  outside : ∀ key, Repository.covers paths key = false →
    after.repository.index.lookup key = before.repository.index.lookup key

theorem within_frame (quiet : Undisturbed env) (paths : List String) : Frame env (Within paths) where
  reflexive _ := ⟨fun _ _ found => found, fun _ _ => rfl⟩
  transitive _ _ _ one two := ⟨commitsKept_trans one.commits two.commits,
    fun key outside => (two.outside key outside).trans (one.outside key outside)⟩
  reached point scene := ⟨env.others_keep point scene.repository,
    fun key _ => (quiet point scene.repository).2 key⟩
  checked _ _ _ := ⟨fun _ _ found => found, fun _ _ => rfl⟩

theorem mutate_takes {point : Point} {change : Repository → Repository} :
    (exec (mutate env point (fun repository => .ok (change repository))) scene).2 =
      if env.fault point = none ∨ env.lands point = true then
        { scene.reached env point with repository := change (scene.reached env point).repository }
      else scene.reached env point := by
  cases fault : env.fault point with
  | none =>
    rw [if_pos (.inl rfl), mutate_runs fault]
    rfl
  | some held =>
    rw [mutate_fails fault]
    by_cases landed : env.lands point = true
    · rw [if_pos landed, if_pos (.inr landed)]
      rfl
    · rw [if_neg landed, if_neg (fun taken => taken.elim nofun landed)]

def validated (paths : List String) : Except WorkspaceExc (List String) :=
  paths.mapM (fun path => validateRelativeRepoPath (.str path))

theorem cleanup_scene (paths : List String) (scene : Scene) :
    (exec (cleanupStaging env paths) scene).2 =
      if paths.isEmpty then scene else (exec (unstagePaths env paths) scene).2 := by
  unfold cleanupStaging
  split
  · rfl
  · rcases ended : exec (unstagePaths env paths) scene with ⟨error | nothing, after⟩
    · cases known : isGitMutation error with
      | true => rw [exec_bind_of_ok (exec_recovering_handled ended known)]; rfl
      | false => rw [exec_bind_of_error (exec_recovering_unhandled ended known)]
    · rw [exec_bind_of_ok (exec_recovering_ok _ ended)]
      rfl

theorem unstage_scene (quiet : Undisturbed env) (valid : validated paths = .ok names) (clean : start.repository.Clean) (head : left.repository.head = start.repository.head)
    (within : Within names start left) :
    (exec (unstagePaths env paths) left).2.repository.head = left.repository.head ∧
      (Updates.Same (exec (unstagePaths env paths) left).2.repository.index start.repository.index ↔
        Unstages env ∨ Updates.Same left.repository.index start.repository.index) := by
  have named : unstagePaths env paths =
      if names.isEmpty then pure ()
      else mutate env .unstage (fun repository => .ok (repository.unstaged names)) := by
    unfold unstagePaths
    rw [show paths.mapM (fun path => validateRelativeRepoPath (.str path)) = .ok names from valid]
    rfl
  rw [named]
  by_cases empty : names.isEmpty = true
  · rw [if_pos empty]
    have nothing : names = [] := by simpa using empty
    have same : Updates.Same left.repository.index start.repository.index := fun key =>
      within.outside key (by rw [nothing]; rfl)
    exact ⟨rfl, fun _ => .inr same, fun _ => same⟩
  · rw [if_neg empty, mutate_takes]
    let before := left.reached env .unstage
    have reached : Unmoved left before := (unmoved_frame quiet).reached .unstage left
    by_cases takes : env.fault .unstage = none ∨ env.lands .unstage = true
    · rw [if_pos takes]
      refine ⟨reached.1, fun _ => .inl takes, fun _ => ?_⟩
      have inside : Within names start before :=
        (within_frame quiet names).transitive _ _ _ within ((within_frame quiet names).reached .unstage left)
      have tree : before.repository.headTree = start.repository.headTree :=
        headTree_kept (reached.1.trans head) inside.commits
      have restored : Updates.Same (before.repository.unstaged names).index before.repository.headTree := by
        apply Repository.unstaged_clean
        intro key outside
        rw [inside.outside key outside, tree]
        exact clean key
      rw [tree] at restored
      exact Updates.same_trans restored (Updates.same_symm clean)
    · rw [if_neg takes]
      have absent : ¬ Unstages env := takes
      refine ⟨reached.1, ?_, ?_⟩
      · intro same
        exact .inr (Updates.same_trans (Updates.same_symm reached.2) same)
      · rintro (undoes | same)
        · exact absurd undoes absent
        · exact Updates.same_trans reached.2 same

theorem cleanup_undoes (quiet : Undisturbed env) (paths : List String)
    (clean : start.repository.Clean) (head : left.repository.head = start.repository.head)
    (within : ∀ names, validated paths = .ok names → Within names start left)
    (invalid : ∀ error, validated paths = .error error →
      Updates.Same left.repository.index start.repository.index) :
    (exec (cleanupStaging env paths) left).2.repository.head = left.repository.head ∧
      (Updates.Same (exec (cleanupStaging env paths) left).2.repository.index start.repository.index ↔
        Unstages env ∨ Updates.Same left.repository.index start.repository.index) := by
  rw [cleanup_scene]
  cases paths with
  | nil =>
    have same : Updates.Same left.repository.index start.repository.index := fun key =>
      (within [] rfl).outside key rfl
    exact ⟨rfl, fun _ => .inr same, fun _ => same⟩
  | cons first rest =>
    rw [if_neg (by simp)]
    cases valid : validated (first :: rest) with
    | ok names => exact unstage_scene quiet valid clean head (within names valid)
    | error error =>
      have same := invalid error valid
      have refused : exec (unstagePaths env (first :: rest)) left = (.error (.raised error), left) := by
        unfold unstagePaths
        rw [show (first :: rest).mapM (fun path => validateRelativeRepoPath (.str path)) =
          .error error from valid]
        rfl
      rw [refused]
      exact ⟨rfl, fun _ => .inr same, fun _ => same⟩

theorem failedBefore_scene (request : ControlledCommitRequest) (context : CommitContext)
    (eventType : String) (paths : List String) (error : CommitExc) (scene : Scene) :
    (exec (failedBefore env request context eventType paths error) scene).2.repository =
      (exec (cleanupStaging env paths) scene).2.repository := by
  unfold failedBefore
  rcases cleaned : exec (cleanupStaging env paths) scene with ⟨refused | unstaged, after⟩
  · rw [exec_bind_of_error cleaned]
  · rw [exec_bind_of_ok cleaned]
    rcases audited : exec (audit env request eventType "FAILED_CLOSED") after with ⟨refused | nothing, last⟩
    · rw [exec_bind_of_error audited]
      exact (respects_exec (audit_notes env request _ _) audited).repository
    · rw [exec_bind_of_ok audited]
      exact (respects_exec (audit_notes env request _ _) audited).repository

theorem failedBefore_reverts (before : Repository) {request : ControlledCommitRequest} {eventType : String} {error : CommitExc} :
    Reverts before (exec (failedBefore env request context eventType paths error) scene) ↔
      SameState before (exec (cleanupStaging env paths) scene).2.repository := by
  rw [← failedBefore_scene request context eventType paths error scene]
  unfold Reverts
  rcases ended : exec (failedBefore env request context eventType paths error) scene with
    ⟨refused | result, after⟩
  · exact Iff.rfl
  · obtain ⟨failed, silent⟩ := failedBefore_status ended
    dsimp only
    rw [failed, silent]
    simp

theorem stagePaths_named (valid : validated paths = .ok names) :
    stagePaths env paths =
      if names.isEmpty then
        throw (.raised (.gitMutation "NO_STAGE_PATHS" "No paths were supplied for staging."))
      else mutate env .stage (fun repository => .ok (repository.added env.ignored names)) := by
  unfold stagePaths
  rw [show paths.mapM (fun path => validateRelativeRepoPath (.str path)) = .ok names from valid]
  rfl

theorem stageManifest_within (quiet : Undisturbed env)
    (valid : validated context.manifest.actualChangedPaths = .ok names) :
    Respects (Within names) (stageManifest env context) := by
  have frame := within_frame quiet names
  apply bind_respects frame.toReads _ (fun _ => stagedManifest_respects frame.toReads context)
  rw [stagePaths_named valid]
  split
  · exact throw_respects frame.toReads _
  · intro scene
    have start := frame.reached .stage scene
    rcases mutate_leaves env .stage (fun repository => .ok (repository.added env.ignored names)) scene with
      found | ⟨changed, done, left⟩
    · rw [found]
      exact start
    · rw [left]
      cases done
      exact frame.transitive _ _ _ start
        ⟨fun _ _ found => found, fun key outside => Repository.added_index _ _ names key outside⟩

theorem stageManifest_invalid {error : WorkspaceExc}
    (invalid : validated context.manifest.actualChangedPaths = .error error) :
    exec (stageManifest env context) start = (.error (.raised error), start) := by
  unfold stageManifest stagePaths
  rw [show context.manifest.actualChangedPaths.mapM
    (fun path => validateRelativeRepoPath (.str path)) = .error error from invalid]
  rfl

theorem createLocalCommit_within (quiet : Undisturbed env) (context : CommitContext) :
    Respects (Within []) (createLocalCommit env context) := by
  have frame := within_frame quiet []
  apply bind_respects frame.toReads _ (fun _ => observe_respects frame.toReads _ _)
  intro scene
  have start := frame.reached .commit scene
  have unfolded : (exec (makeCommit env context) scene).2 =
      noteCreation context.work.workflow.id context.work.freeze.id
        (scene.reached env .commit).repository.head
        (exec (mutate env .commit (commitStaged env)) scene).2 := rfl
  have noted : ∀ workflowId planFreezeId parent (after : Scene),
      (noteCreation workflowId planFreezeId parent after).repository = after.repository := by
    intro workflowId planFreezeId parent after
    unfold noteCreation
    split
    · rfl
    · rfl
  have left : Within [] scene (exec (mutate env .commit (commitStaged env)) scene).2 := by
    rcases mutate_leaves env .commit (commitStaged env) scene with found | ⟨changed, done, left⟩
    · rw [found]
      exact start
    · rw [left]
      refine frame.transitive _ _ _ start ⟨commitStaged_keeps _ changed done, fun key _ => ?_⟩
      unfold commitStaged at done
      split at done
      · cases done
      · cases done
        rfl
  rw [unfolded]
  exact ⟨by rw [noted]; exact left.commits, by rw [noted]; exact left.outside⟩

theorem mutate_ok {point : Point} {change : Repository → Except WorkspaceExc Repository} {nothing : Unit}
    (done : exec (mutate env point change) scene = (.ok nothing, after)) :
    ∃ changed, change (scene.reached env point).repository = .ok changed ∧
      after = { scene.reached env point with repository := changed } := by
  obtain ⟨repository, first, looked, rest⟩ := bind_ok done
  have read : repository = (scene.reached env point).repository ∧ first = scene.reached env point := by
    cases looked
    exact ⟨rfl, rfl⟩
  rw [read.1, read.2] at rest
  cases fault : env.fault point with
  | none =>
    rw [fault] at rest
    obtain ⟨changed, found, written⟩ := bind_ofExcept_ok rest
    cases written
    exact ⟨changed, lift_ok found, rfl⟩
  | some held =>
    rw [fault] at rest
    dsimp only at rest
    split at rest
    · cases rest
    · cases rest

theorem createLocalCommit_moves (quiet : Undisturbed env)
    {staged created : Scene} {resulting : String}
    (done : exec (createLocalCommit env context) staged = (.ok resulting, created)) :
    created.repository.head ≠ staged.repository.head := by
  obtain ⟨nothing, middle, made, looked⟩ := bind_ok done
  have reached := (observeHead_ok looked).1
  have head : created.repository.head = middle.repository.head := by
    rw [reached]
    exact (quiet .committedHead middle.repository).1
  have before : (staged.reached env .commit).repository.head = staged.repository.head :=
    (quiet .commit staged.repository).1
  rcases ran : exec (mutate env .commit (commitStaged env)) staged with ⟨ended, left⟩
  have unfolded : exec (makeCommit env context) staged =
      (ended, noteCreation context.work.workflow.id context.work.freeze.id
        (staged.reached env .commit).repository.head left) := by
    have plain : exec (makeCommit env context) staged =
        ((exec (mutate env .commit (commitStaged env)) staged).1,
          noteCreation context.work.workflow.id context.work.freeze.id
            (staged.reached env .commit).repository.head
            (exec (mutate env .commit (commitStaged env)) staged).2) := rfl
    rw [plain, ran]
  rw [unfolded] at made
  obtain ⟨normal, noted⟩ := Prod.mk.inj made
  rw [normal] at ran
  obtain ⟨changed, committed, written⟩ := mutate_ok ran
  have kept : middle.repository = left.repository := by
    rw [← noted]
    unfold noteCreation
    split
    · rfl
    · rfl
  rw [head, kept, written, ← before]
  unfold commitStaged at committed
  split at committed
  · cases committed
  · cases committed
    intro same
    have known := (staged.reached env .commit).repository.head_known
    have unknown := env.commitName_fresh (staged.reached env .commit).repository
    rw [show env.commitName (staged.reached env .commit).repository =
      (staged.reached env .commit).repository.head from same] at unknown
    rw [unknown] at known
    cases known

theorem sameState_congr {start : Repository} (same : SameState before start) (after : Repository) :
    SameState before after ↔ SameState start after := by
  constructor
  · rintro ⟨head, index⟩
    exact ⟨head.trans same.1.symm, Updates.same_trans index (Updates.same_symm same.2)⟩
  · rintro ⟨head, index⟩
    exact ⟨head.trans same.1, Updates.same_trans index same.2⟩

theorem reverts_congr {start : Repository} (same : SameState before start)
    (ended : Except CommitExc ControlledCommitResult × Scene) :
    Reverts before ended ↔ Reverts start ended := by
  unfold Reverts
  cases ended.1 with
  | error error => exact sameState_congr same _
  | ok result => simp only [sameState_congr same]

/-- A failure with the head where it was: what is left of it depends on the handler and
on the cleanup. -/
theorem undone_iff (quiet : Undisturbed env)
    (clean : start.repository.Clean) (head : left.repository.head = start.repository.head)
    (within : ∀ names, validated paths = .ok names → Within names start left)
    (invalid : ∀ error, validated paths = .error error →
      Updates.Same left.repository.index start.repository.index)
    (handles : CommitExc → Bool) (request : ControlledCommitRequest) (context : CommitContext)
    (eventType : String) (error : CommitExc) :
    Reverts start.repository
        (if handles error then exec (failedBefore env request context eventType paths error) left
          else (.error error, left)) ↔ Undone env handles start left error := by
  obtain ⟨stays, undoes⟩ := cleanup_undoes quiet paths clean head within invalid
  cases known : handles error with
  | true =>
    rw [if_pos rfl, failedBefore_reverts]
    unfold SameState Undone
    rw [stays, head, undoes, known]
    simp [or_comm]
  | false =>
    rw [if_neg Bool.false_ne_true]
    unfold Reverts SameState Undone
    rw [known]
    simp [head]

theorem safeCurrentHead_returns (readable : ∀ fault, env.fault .observedHead = some fault →
    isGitMutation (.raised fault.exc) = true) : Returns (safeCurrentHead env) := by
  intro scene
  unfold safeCurrentHead
  rcases ended : exec (observeHead env .observedHead) scene with ⟨error | head, after⟩
  · have git : isGitMutation error = true := by
      obtain ⟨raised, rfl, failed⟩ := observe_error ended
      cases fault : env.fault .observedHead with
      | none =>
        rw [fault] at failed
        cases failed
      | some held =>
        rw [fault] at failed
        cases failed
        exact readable held fault
    rw [exec_bind_of_ok (exec_recovering_handled ended git)]
    exact ⟨_, _, rfl⟩
  · rw [exec_bind_of_ok (exec_recovering_ok _ ended)]
    exact ⟨_, _, rfl⟩

theorem failedAfter_reverts (quiet : Undisturbed env)
    (moved : left.repository.head ≠ start.repository.head) (request : ControlledCommitRequest)
    (context : CommitContext) (resulting : String) (error : CommitExc) :
    Reverts start.repository (exec (failedAfter env request context resulting error) left) ↔
      Reportable env := by
  have away : ∀ after : Scene, Still left after → ¬ SameState start.repository after.repository :=
    fun after still same => moved (still.head.symm.trans same.1)
  have unfolded : failedAfter env request context resulting error =
      safeCurrentHead env >>= fun _ => audit env request
        "CONTROLLED_COMMIT_POST_COMMIT_VERIFICATION_FAILED" "MANUAL_RECONCILIATION_REQUIRED" >>= fun _ =>
          pure {
            status := .postCommitVerificationFailed
            workflowId := request.workflowId
            reason := some error.text
            baselineCommit := some context.baselineCommit
            resultingCommit := some resulting
            authorizedPaths := context.authorizedPaths
            manifestHash := some context.manifestHash
            manualReconciliationRequired := true } := rfl
  rcases ended : exec (failedAfter env request context resulting error) left with ⟨refused | result, after⟩
  · have still : Still left after := respects_exec (failedAfter_still quiet request context resulting error) ended
    refine iff_of_false (away after still) ?_
    rintro ⟨quietly, readable⟩
    rw [unfolded] at ended
    obtain ⟨observed, middle, looked⟩ := safeCurrentHead_returns readable left
    rw [exec_bind_of_ok looked] at ended
    obtain ⟨nothing, last, audited⟩ :=
      @audit_returns env request _ "MANUAL_RECONCILIATION_REQUIRED" quietly middle
    rw [exec_bind_of_ok audited] at ended
    cases ended
  · obtain ⟨-, flagged⟩ := failedAfter_status ended
    refine iff_of_true (fun _ => .inr flagged) ⟨?_, ?_⟩
    · rw [unfolded] at ended
      obtain ⟨observed, middle, -, rest⟩ := bind_ok ended
      obtain ⟨nothing, last, audited, -⟩ := bind_ok rest
      unfold audit at audited
      split at audited
      · cases audited
      · rename_i silent
        exact Bool.eq_false_iff.mpr silent
    · intro fault held
      rw [unfolded] at ended
      obtain ⟨observed, middle, looked, -⟩ := bind_ok ended
      obtain ⟨head, first, recovered, -⟩ := bind_ok looked
      have raised : exec (observeHead env .observedHead) left =
          (.error (.raised fault.exc), left.reached env .observedHead) := by
        have plain : exec (observeHead env .observedHead) left =
            exec (Action.ofExcept (lift (currentHead (env.fault .observedHead)
              ((left.reached env .observedHead).repository.checkout env.ignored))))
              (left.reached env .observedHead) := rfl
        rw [plain, held]
        rfl
      cases git : isGitMutation (.raised fault.exc) with
      | true => rfl
      | false =>
        rw [exec_recovering_unhandled raised git] at recovered
        cases recovered

theorem exec_handled {α β : Type} (handles : CommitExc → Bool) (action : Committing α)
    (next : Except CommitExc α → Committing β) {error : CommitExc}
    (raised : exec action scene = (.error error, after)) :
    exec (recovering handles action >>= next) scene =
      if handles error then exec (next (.error error)) after else (.error error, after) := by
  cases known : handles error with
  | true => rw [exec_bind_of_ok (exec_recovering_handled raised known), if_pos rfl]
  | false =>
    rw [exec_bind_of_error (exec_recovering_unhandled raised known), if_neg Bool.false_ne_true]

theorem creation_reverts (quiet : Undisturbed env) (request : ControlledCommitRequest) {staged : Scene} (clean : start.repository.Clean)
    (staging : exec (stageManifest env context) start = (.ok (), staged)) :
    Reverts start.repository (exec (commitStagedManifest env request context) staged) ↔
      (∀ error left, exec (createLocalCommit env context) staged = (.error error, left) →
        left.repository.head = start.repository.head ∧ Undone env isGitMutation start left error) ∧
      ∀ created resulting error left,
        exec (createLocalCommit env context) staged = (.ok resulting, created) →
        exec (verifyAndRecord env request context resulting) created = (.error error, left) →
          Reportable env := by
  have still : Still start staged := respects_exec (stageManifest_still quiet context) staging
  have within : ∀ names, validated context.manifest.actualChangedPaths = .ok names →
      Within names start staged :=
    fun names valid => respects_exec (stageManifest_within quiet valid) staging
  unfold commitStagedManifest
  rcases made : exec (createLocalCommit env context) staged with ⟨error | resulting, left⟩
  · rw [exec_handled isGitMutation _ _ made]
    have index := respects_exec (createLocalCommit_within quiet context) made
    have inside : ∀ names, validated context.manifest.actualChangedPaths = .ok names →
        Within names start left := fun names valid =>
      ⟨commitsKept_trans (within names valid).commits index.commits,
        fun key outside => (index.outside key rfl).trans ((within names valid).outside key outside)⟩
    have invalid : ∀ refused, validated context.manifest.actualChangedPaths = .error refused →
        Updates.Same left.repository.index start.repository.index := by
      intro refused wrong
      rw [stageManifest_invalid wrong] at staging
      cases staging
    by_cases head : left.repository.head = start.repository.head
    · rw [undone_iff quiet clean head inside invalid isGitMutation request context
        "CONTROLLED_COMMIT_CREATION_FAILED" error]
      constructor
      · intro undone
        refine ⟨?_, fun _ _ _ _ done => nomatch done⟩
        intro other after ended
        cases ended
        exact ⟨head, undone⟩
      · intro recovers
        exact (recovers.1 error left rfl).2
    · refine iff_of_false ?_ (fun recovers => head (recovers.1 error left rfl).1)
      intro reverts
      apply head
      cases known : isGitMutation error with
      | true =>
        rw [known, if_pos rfl, failedBefore_reverts] at reverts
        have kept := (cleanup_still quiet context.manifest.actualChangedPaths left).head
        exact kept.symm.trans reverts.1
      | false =>
        rw [known, if_neg Bool.false_ne_true] at reverts
        exact reverts.1
  · rw [exec_bind_of_ok (exec_recovering_ok _ made)]
    dsimp only
    unfold finish
    rcases ended : exec (verifyAndRecord env request context resulting) left with ⟨error | result, last⟩
    · rw [exec_handled (fun _ => true) _ _ ended, if_pos rfl]
      have moved : last.repository.head ≠ start.repository.head := by
        have after : Still left last := by
          have reads := (still_frame quiet).toReads
          refine respects_exec (bind_respects reads (postCommit_respects (still_frame quiet) _ _) ?_) ended
          intro committed
          apply bind_respects reads (addRecord_still _ _ _)
          intro record
          exact bind_respects reads (audit_still _ _ _) (fun _ => pure_respects reads _)
        rw [after.head, ← still.head]
        exact createLocalCommit_moves quiet made
      have reported := failedAfter_reverts quiet moved request context resulting error
      constructor
      · intro reverts
        refine ⟨(fun _ _ done => nomatch done), ?_⟩
        intro created other raised after done _
        exact reported.mp reverts
      · intro recovers
        exact reported.mpr (recovers.2 left resulting error last rfl ended)
    · rw [exec_bind_of_ok (exec_recovering_ok _ ended)]
      have completed : result.status = .completed := by
        obtain ⟨committed, first, -, rest⟩ := bind_ok ended
        obtain ⟨record, second, -, rest⟩ := bind_ok rest
        obtain ⟨nothing, third, -, returned⟩ := bind_ok rest
        obtain ⟨rfl, -⟩ := ok_pure returned
        rfl
      refine iff_of_true (fun other => absurd completed other) ⟨(fun _ _ done => nomatch done), ?_⟩
      intro created other error after done failed
      cases done
      rw [ended] at failed
      cases failed

theorem staging_reverts (quiet : Undisturbed env) (request : ControlledCommitRequest)
    (context : CommitContext) (clean : start.repository.Clean) :
    Reverts start.repository (exec (stageAndCommit env request context) start) ↔
      Recovers env request context start := by
  unfold stageAndCommit
  rcases ended : exec (stageManifest env context) start with ⟨error | nothing, left⟩
  · have still : Still start left := respects_exec (stageManifest_still quiet context) ended
    have within : ∀ names, validated context.manifest.actualChangedPaths = .ok names →
        Within names start left :=
      fun names valid => respects_exec (stageManifest_within quiet valid) ended
    have invalid : ∀ refused, validated context.manifest.actualChangedPaths = .error refused →
        Updates.Same left.repository.index start.repository.index := by
      intro refused wrong
      rw [stageManifest_invalid wrong] at ended
      cases ended
      exact Updates.same_refl _
    rw [exec_handled handled _ _ ended, undone_iff quiet clean still.head within invalid handled request
      context "CONTROLLED_COMMIT_PRE_COMMIT_FAILED" error]
    constructor
    · intro undone
      refine ⟨?_, ?_, ?_⟩
      · intro other after failed
        rw [ended] at failed
        cases failed
        exact undone
      · intro staged other after done
        rw [ended] at done
        cases done
      · intro staged created resulting other after done
        rw [ended] at done
        cases done
    · intro recovers
      exact recovers.staging error left ended
  · rw [exec_bind_of_ok (exec_recovering_ok _ ended)]
    dsimp only
    rw [creation_reverts quiet request clean ended]
    constructor
    · rintro ⟨creation, verification⟩
      refine ⟨?_, ?_, ?_⟩
      · intro error after failed
        rw [ended] at failed
        cases failed
      · intro staged error after done
        rw [ended] at done
        cases done
        exact creation error after
      · intro staged created resulting error after done
        rw [ended] at done
        cases done
        exact verification created resulting error after
    · intro recovers
      exact ⟨fun error after => recovers.creation left error after ended,
        fun created resulting error after => recovers.verification left created resulting error after ended⟩

theorem commitContext_reverts (quiet : Undisturbed env) (request : ControlledCommitRequest)
    (context : CommitContext) (prepared : Scene) :
    Reverts prepared.repository (exec (commitContext env request context) prepared) ↔
      ∀ start, exec (verifyPreCommitState env context) prepared = (.ok (), start) →
        Recovers env request context start := by
  unfold commitContext
  rcases ended : exec (verifyPreCommitState env context) prepared with ⟨error | nothing, start⟩
  · have same : Unmoved prepared start :=
      respects_exec (preCommit_respects (unmoved_frame quiet) context) ended
    refine iff_of_true ?_ (fun _ done => nomatch done)
    rw [exec_handled handled _ _ ended]
    cases handled error with
    | true =>
      rw [if_pos rfl, failedBefore_reverts]
      exact same
    | false =>
      rw [if_neg Bool.false_ne_true]
      exact same
  · have same : Unmoved prepared start :=
      respects_exec (preCommit_respects (unmoved_frame quiet) context) ended
    rw [exec_bind_of_ok (exec_recovering_ok _ ended)]
    dsimp only
    rw [reverts_congr same, staging_reverts quiet request context (preCommit_clean quiet ended)]
    constructor
    · intro recovers other done
      cases done
      exact recovers
    · intro all
      exact all start rfl

/-- A call whose head and index no other process moves leaves them when it fails, or asks
for reconciliation by hand, exactly when each failure from the staging on is one that is
undone or reported. -/
theorem failed_commit_iff (env : Environment) (quiet : Undisturbed env)
    (request : ControlledCommitRequest) (scene : Scene) :
    Reverts scene.repository (exec (commit env request) scene) ↔
      ∀ context start, Stages env request scene context start → Recovers env request context start := by
  have frame := unmoved_frame quiet
  cases commit_begins env request scene with
  | unrecorded error middle audited ended =>
    refine iff_of_true ?_ ?_
    · rw [ended]
      exact (respects_exec (audit_notes env request _ _) audited).unmoved
    · rintro context start ⟨first, prepared, recorded, -, -⟩
      rw [audited] at recorded
      cases recorded
  | raised middle after error audited noted looked foreign ended =>
    refine iff_of_true ?_ ?_
    · rw [ended]
      exact unmoved_trans _ _ _ noted.unmoved (respects_exec (preflight_respects frame request) looked)
    · rintro context start ⟨first, prepared, recorded, passed, -⟩
      rw [audited] at recorded
      cases recorded
      rw [looked] at passed
      cases passed
  | refused middle after error audited noted looked ended =>
    have same : Unmoved scene (exec (stopped env request error) after).2 :=
      unmoved_trans _ _ _ noted.unmoved (unmoved_trans _ _ _
        (respects_exec (preflight_respects frame request) looked)
        (@stopped_noted env request error after).unmoved)
    refine iff_of_true ?_ ?_
    · rw [ended]
      unfold Reverts
      cases (exec (stopped env request error) after).1 with
      | error refusal => exact same
      | ok result => exact fun _ => .inl same
    · rintro context start ⟨first, prepared, recorded, passed, -⟩
      rw [audited] at recorded
      cases recorded
      rw [looked] at passed
      cases passed
  | prepared middle after context audited noted looked ended =>
    have same : Unmoved scene after :=
      unmoved_trans _ _ _ noted.unmoved (respects_exec (preflight_respects frame request) looked)
    rw [ended, reverts_congr same, commitContext_reverts quiet request context after]
    constructor
    · rintro all other start ⟨first, prepared, recorded, passed, verified⟩
      rw [audited] at recorded
      cases recorded
      rw [looked] at passed
      cases passed
      exact all start verified
    · intro all start verified
      exact all context start ⟨middle, after, audited, looked, verified⟩

theorem calm_quiet : Undisturbed calm := fun _ _ => ⟨rfl, Updates.same_refl _⟩

theorem notes_commit_recovers :
    Reverts notesRepository (exec (commit calm notesRequest) notesScene) ∧
      ∀ context start, Stages calm notesRequest notesScene context start →
        Recovers calm notesRequest context start := by
  have completed : (exec (commit calm notesRequest) notesScene).1.toOption.map (·.status) =
      some .completed := by decide +kernel
  have reverts : Reverts notesRepository (exec (commit calm notesRequest) notesScene) := by
    unfold Reverts
    cases ended : (exec (commit calm notesRequest) notesScene).1 with
    | error error =>
      rw [ended] at completed
      cases completed
    | ok result =>
      rw [ended] at completed
      exact fun other => absurd (Option.some.inj completed) other
  exact ⟨reverts, (failed_commit_iff calm calm_quiet notesRequest notesScene).mp reverts⟩

/-- Git fails with an error at some points of a call. -/
def failingAt (points : List Point) : Environment :=
  { calm with
    fault := fun point =>
      if point ∈ points then some (.git "GIT_COMMAND_FAILED" "git command failed") else none }

def outcome (env : Environment) : Option (CommitStatus × Bool) × String × List String :=
  let ended := exec (commit env notesRequest) notesScene
  (ended.1.toOption.map (fun result => (result.status, result.manualReconciliationRequired)),
    ended.2.repository.head, ended.2.repository.index.keys)

/-- A commit whose head cannot be read is reported as a plain failure and stays; a path
whose staged content cannot be read stays staged when it cannot be unstaged. -/
theorem failed_call_leaves_changes :
    (outcome (failingAt [.committedHead]) = (some (.failed, false), "ccccc", ["a.md"]) ∧
      ¬ Reverts notesRepository (exec (commit (failingAt [.committedHead]) notesRequest) notesScene)) ∧
    outcome (failingAt [.stagedHash "a.md", .unstage]) = (some (.failed, false), "base", ["a.md"]) ∧
      ¬ Reverts notesRepository
        (exec (commit (failingAt [.stagedHash "a.md", .unstage]) notesRequest) notesScene) := by
  have silent : ∀ env, (outcome env).1 = some (.failed, false) →
      Reverts notesRepository (exec (commit env notesRequest) notesScene) →
      SameState notesRepository (exec (commit env notesRequest) notesScene).2.repository := by
    intro env failed reverts
    unfold Reverts at reverts
    cases ended : (exec (commit env notesRequest) notesScene).1 with
    | error error =>
      rw [ended] at reverts
      exact reverts
    | ok result =>
      rw [ended] at reverts
      unfold outcome at failed
      dsimp only at failed
      rw [ended] at failed
      obtain ⟨status, flag⟩ := Prod.mk.inj (Option.some.inj failed)
      rcases reverts (by rw [status]; decide) with same | flagged
      · exact same
      · rw [flag] at flagged
        cases flagged
  have head : outcome (failingAt [.committedHead]) = (some (.failed, false), "ccccc", ["a.md"]) := by
    decide +kernel
  have index : outcome (failingAt [.stagedHash "a.md", .unstage]) =
      (some (.failed, false), "base", ["a.md"]) := by decide +kernel
  refine ⟨⟨head, ?_⟩, index, ?_⟩
  · intro reverts
    have same := (silent _ (by rw [head]) reverts).1
    have moved := congrArg (fun seen => seen.2.1) head
    rw [show (outcome (failingAt [.committedHead])).2.1 =
      (exec (commit (failingAt [.committedHead]) notesRequest) notesScene).2.repository.head from rfl,
      same] at moved
    exact absurd moved (by decide)
  · intro reverts
    have same := (silent _ (by rw [index]) reverts).2 "a.md"
    have staged := congrArg (fun seen => seen.2.2) index
    have present : "a.md" ∈ (exec (commit (failingAt [.stagedHash "a.md", .unstage]) notesRequest)
        notesScene).2.repository.index := by
      apply AList.mem_keys.mpr
      rw [show (exec (commit (failingAt [.stagedHash "a.md", .unstage]) notesRequest)
        notesScene).2.repository.index.keys = ["a.md"] from staged]
      exact List.mem_singleton.mpr rfl
    rw [AList.lookup_eq_none.mpr (show "a.md" ∉ notesRepository.index from AList.notMem_empty _),
      AList.lookup_eq_none] at same
    exact same present

end Lucius.ControlledCommit
