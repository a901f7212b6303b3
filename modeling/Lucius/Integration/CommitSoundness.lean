import Lucius.Integration.SingleCommit

/-! What a completed controlled commit is: one commit on the frozen baseline, of the
authorized and checked paths, with the content the preflight had hashed. -/

namespace Lucius.ControlledCommit

open Worktree Acceptance Lucius.Action

theorem changedPaths_kept {before after : Repository} (kept : CommitsKept before after) {sha : String}
    {paths : List String} (found : commitChangedPaths none before sha = .ok paths) :
    commitChangedPaths none after sha = .ok paths := by
  cases known : before.commits.lookup sha with
  | none =>
    simp only [commitChangedPaths, failing, known] at found
    cases found
  | some commit =>
    simp only [commitChangedPaths, failing, known, kept sha commit known] at found ⊢
    rcases parents : commit.parents with _ | ⟨parent, _ | ⟨second, others⟩⟩
    · rw [parents] at found
      exact found
    · rw [parents] at found
      dsimp only at found ⊢
      cases held : before.commits.lookup parent with
      | none =>
        rw [held] at found
        cases found
      | some base =>
        rw [held] at found
        rw [kept parent base held]
        exact found
    · rw [parents] at found
      exact found

theorem committedHash_kept {before after : Repository} (kept : CommitsKept before after)
    {sha256 : Bytes → String} {shown : String → Bytes} {sha path hash : String} {commit : CommitObject}
    (known : before.commits.lookup sha = some commit)
    (found : committedFileSha256 none sha256 shown before sha path = .ok hash) :
    committedFileSha256 none sha256 shown after sha path = .ok hash := by
  unfold committedFileSha256 at found ⊢
  rw [known] at found
  rw [kept sha commit known]
  exact found

/-- Each of the files that must stay is untracked and has the expected hash. -/
def Kept (env : Environment) (repository : Repository) (hashes : List (String × String)) : Prop :=
  ∀ entry ∈ hashes,
    entry.1 ∈ (repository.checkout env.ignored).others repository.files ∧
      workspaceFileSha256 env.sha256 (repository.checkout env.ignored) repository.files entry.1 =
        .ok entry.2

theorem driftedPaths_nil {sha256 : Bytes → String} {checkout : Checkout} {files : Files}
    {hashes : List (String × String)} (same : driftedPaths sha256 checkout files hashes = .ok []) :
    ∀ entry ∈ hashes, workspaceFileSha256 sha256 checkout files entry.1 = .ok entry.2 := by
  induction hashes with
  | nil => exact fun _ member => nomatch member
  | cons first rest ih =>
    obtain ⟨path, expected⟩ := first
    unfold driftedPaths at same
    cases read : workspaceFileSha256 sha256 checkout files path with
    | error error =>
      rw [read] at same
      cases error with
      | gitMutation code message => cases same
      | _ => cases same
    | ok observed =>
      rw [read] at same
      obtain ⟨drifted, later, returned⟩ := except_bind_ok same
      by_cases equal : observed = expected
      · rw [if_neg (fun different => different equal)] at returned
        cases returned
        intro entry member
        rcases List.mem_cons.mp member with here | there
        · subst here
          rw [read, equal]
        · exact ih later entry there
      · rw [if_pos equal] at returned
        cases returned

theorem verifyUntrackedFileHashes_ok {sha256 : Bytes → String} {checkout : Checkout} {files : Files}
    {hashes : List (String × String)} {current : List String}
    (verified : verifyUntrackedFileHashes none sha256 checkout files hashes = .ok current) :
    ∀ entry ∈ hashes, entry.1 ∈ checkout.others files ∧
      workspaceFileSha256 sha256 checkout files entry.1 = .ok entry.2 := by
  obtain ⟨listed, read, rest⟩ := except_bind_ok verified
  have others : listed = sortedBy id (checkout.others files) := by
    cases read
    rfl
  dsimp only at rest
  split at rest
  · cases rest
  · rename_i present
    obtain ⟨drifted, same, returned⟩ := except_bind_ok rest
    split at returned
    · cases returned
    · rename_i empty
      have none_drifted : drifted = [] := by simpa using empty
      rw [none_drifted] at same
      intro entry member
      refine ⟨?_, driftedPaths_nil same entry member⟩
      by_contra absent
      apply present
      have missing : entry.1 ∈ sortedBy id ((hashes.map Prod.fst).filter (· ∉ listed)) := by
        rw [mem_sortedBy, List.mem_filter, others]
        exact ⟨List.mem_map_of_mem member, decide_eq_true (by rwa [mem_sortedBy])⟩
      cases left : sortedBy id ((hashes.map Prod.fst).filter (· ∉ listed)) with
      | nil =>
        rw [left] at missing
        cases missing
      | cons first others => rfl

theorem kept_of_verified {env : Environment} {repository : Repository}
    {hashes : List (String × String)} {current : List String}
    (verified : verifyUntrackedFileHashes none env.sha256 (repository.checkout env.ignored)
      repository.files hashes = .ok current) : Kept env repository hashes :=
  verifyUntrackedFileHashes_ok verified

/-- The files that must stay, in a look taken between two scenes. -/
def KeptSeen (env : Environment) (phase : Phase) (before after : Scene)
    (hashes : List (String × String)) : Prop :=
  ∃ repository, Looked before after ⟨.untracked phase, repository⟩ ∧ Kept env repository hashes

variable {env : Environment}

theorem KeptSeen.since {phase : Phase} {first second third : Scene} {hashes : List (String × String)}
    (seen : KeptSeen env phase second third hashes) (grows : Grows first second) :
    KeptSeen env phase first third hashes := by
  obtain ⟨repository, looked, kept⟩ := seen
  exact ⟨repository, looked.since grows, kept⟩

theorem KeptSeen.onward {phase : Phase} {first second third : Scene} {hashes : List (String × String)}
    (seen : KeptSeen env phase first second hashes) (grows : Grows second third) :
    KeptSeen env phase first third hashes := by
  obtain ⟨repository, looked, kept⟩ := seen
  exact ⟨repository, looked.onward grows, kept⟩

theorem untracked_kept {phase : Phase} {hashes : List (String × String)} {scene after : Scene}
    {nothing : Unit} (done : exec (verifyUntracked env phase hashes) scene = (.ok nothing, after)) :
    KeptSeen env phase scene after hashes := by
  obtain ⟨reached, current, verified⟩ := untracked_ok done
  have fine : env.fault (.untracked phase) = none := by
    obtain ⟨_, run, -⟩ := except_bind_ok verified
    obtain ⟨_, ran, -⟩ := except_bind_ok run
    exact failing_ok ran
  rw [fine] at verified
  refine ⟨after.repository, ?_, kept_of_verified verified⟩
  rw [reached]
  exact reached_looked env _ scene

/-- What the verification after the commit has established of it. -/
structure Verified (env : Environment) (context : CommitContext) (resulting : String)
    (committed : List String) (before after : Scene) (commit : CommitObject) : Prop where
  known : after.repository.commits.lookup resulting = some commit
  parents : commit.parents = [context.baselineCommit]
  changed : commitChangedPaths none after.repository resulting = .ok committed
  paths : committed = context.manifest.actualChangedPaths
  authorized : ∀ path ∈ committed, path ∈ context.authorizedPaths
  hashes : ∀ entry ∈ context.manifest.pathContentHashes,
    committedFileSha256 none env.sha256 env.shown after.repository resulting entry.1 = .ok entry.2
  untracked : KeptSeen env .postCommit before after context.protectedUntrackedHashes

theorem parents_ok {resulting : String} {scene after : Scene} {parents : List String}
    (done : exec (observe env .parents (fun fault repository =>
      commitParentShas fault repository resulting)) scene = (.ok parents, after)) :
    ∃ commit, after.repository.commits.lookup resulting = some commit ∧ commit.parents = parents := by
  obtain ⟨reached, found⟩ := observe_ok done
  obtain ⟨nothing, -, read⟩ := except_bind_ok found
  rw [← reached] at read
  split at read
  · rename_i commit known
    cases read
    exact ⟨commit, known, rfl⟩
  · cases read

theorem committedPaths_ok {resulting : String} {scene after : Scene} {paths : List String}
    (done : exec (observe env .committedPaths (fun fault repository =>
      commitChangedPaths fault repository resulting)) scene = (.ok paths, after)) :
    commitChangedPaths none after.repository resulting = .ok paths := by
  obtain ⟨reached, found⟩ := observe_ok done
  have fine : env.fault .committedPaths = none := by
    obtain ⟨nothing, ran, -⟩ := except_bind_ok found
    exact failing_ok ran
  rw [fine, ← reached] at found
  exact found

theorem committedHash_ok {resulting path hash : String} {scene after : Scene} {commit : CommitObject}
    (known : after.repository.commits.lookup resulting = some commit)
    (done : exec (observe env (.committedHash path) (fun fault repository =>
      committedFileSha256 fault env.sha256 env.shown repository resulting path)) scene =
        (.ok hash, after)) :
    committedFileSha256 none env.sha256 env.shown after.repository resulting path = .ok hash := by
  obtain ⟨reached, found⟩ := observe_ok done
  rw [← reached] at found
  unfold committedFileSha256 at found ⊢
  rw [known] at found ⊢
  dsimp only at found ⊢
  have fine : env.fault (.committedHash path) = none := by
    obtain ⟨nothing, ran, -⟩ := except_bind_ok found
    exact failing_ok ran
  rw [fine] at found
  exact found

theorem committed_ok {context : CommitContext} {resulting : String} {committed : List String}
    {scene after : Scene}
    (done : exec (verifyCommitted env context resulting) scene = (.ok committed, after)) :
    ∃ commit, after.repository.commits.lookup resulting = some commit ∧
      commit.parents = [context.baselineCommit] ∧
      commitChangedPaths none after.repository resulting = .ok committed ∧
      committed = context.manifest.actualChangedPaths ∧
      (∀ path ∈ committed, path ∈ context.authorizedPaths) ∧
      ∀ entry ∈ context.manifest.pathContentHashes,
        committedFileSha256 none env.sha256 env.shown after.repository resulting entry.1 = .ok entry.2 := by
  have reads := (grows_frame env).toReads
  unfold verifyCommitted at done
  split at done
  · exact (not_ok_throw done).elim
  · obtain ⟨head, first, -, rest⟩ := bind_ok done
    split at rest
    · obtain ⟨other, moved, -, thrown⟩ := bind_ok rest
      exact (not_ok_throw thrown).elim
    · obtain ⟨parents, second, looked, rest⟩ := bind_ok rest
      obtain ⟨commit, known, read⟩ := parents_ok looked
      split at rest
      · exact (not_ok_throw rest).elim
      · rename_i based
        obtain ⟨paths, third, listed, rest⟩ := bind_ok rest
        have changed := committedPaths_ok listed
        have later : Grows second third := respects_exec (observe_respects reads _ _) listed
        split at rest
        · exact (not_ok_throw rest).elim
        · rename_i equal
          split at rest
          · exact (not_ok_throw rest).elim
          · rename_i allowed
            obtain ⟨nothing, fourth, hashed, rest⟩ := bind_ok rest
            obtain ⟨rfl, rfl⟩ := ok_pure rest
            have taken := verifyHashes_ok env (fun _ => observe_respects reads _ _) hashed
            have hashing : Grows third after := respects_exec
              (verifyHashes_respects reads (fun _ => observe_respects reads _ _) _ _) hashed
            have whole : Grows second after := grows_trans _ _ _ later hashing
            refine ⟨commit, whole.commits _ _ known, read.trans (not_not.mp based),
              changedPaths_kept hashing.commits changed, not_not.mp equal, ?_, ?_⟩
            · intro path member
              by_contra outside
              exact allowed (List.any_eq_true.mpr ⟨path, member, decide_eq_true outside⟩)
            · intro entry member
              obtain ⟨before, left, hash, since, remains⟩ := taken entry member
              have held := (grows_trans _ _ _ later since).commits _ _ known
              exact committedHash_kept remains.commits held (committedHash_ok held hash)

theorem postCommit_ok {context : CommitContext} {resulting : String} {committed : List String}
    {scene after : Scene}
    (done : exec (verifyPostCommit env context resulting) scene = (.ok committed, after)) :
    ∃ commit, Verified env context resulting committed scene after commit := by
  have frame := grows_frame env
  obtain ⟨paths, first, verified, rest⟩ := bind_ok done
  obtain ⟨commit, known, parents, changed, listed, authorized, hashes⟩ := committed_ok verified
  have verifying : Grows scene first := respects_exec (committed_respects frame.toReads _ _) verified
  obtain ⟨evidence, second, accepted, rest⟩ := bind_ok rest
  have accepting : Grows first second := respects_exec (acceptance_respects frame _ _) accepted
  split at rest
  · exact (not_ok_throw rest).elim
  · obtain ⟨nothing, third, cleaned, rest⟩ := bind_ok rest
    obtain ⟨rfl, rfl⟩ := ok_pure rest
    have cleaning : Grows second after := respects_exec (cleanWorktree_respects frame.toReads _ _) cleaned
    have later : Grows first after := grows_trans _ _ _ accepting cleaning
    obtain ⟨nothing, fourth, kept, rest⟩ := bind_ok cleaned
    have remaining : Grows fourth after := by
      obtain ⟨left, fifth, observed, rest⟩ := bind_ok rest
      have observing : Grows fourth fifth := respects_exec (observe_respects frame.toReads _ _) observed
      split at rest
      · exact (not_ok_throw rest).elim
      · obtain ⟨last, sixth, final, rest⟩ := bind_ok rest
        have ending : Grows fifth sixth := respects_exec (observe_respects frame.toReads _ _) final
        split at rest
        · obtain ⟨other, moved, -, thrown⟩ := bind_ok rest
          exact (not_ok_throw thrown).elim
        · obtain ⟨-, rfl⟩ := ok_pure rest
          exact grows_trans _ _ _ observing ending
    exact ⟨commit, {
      known := later.commits _ _ known
      parents := parents
      changed := changedPaths_kept later.commits changed
      paths := listed
      authorized := authorized
      hashes := fun entry member => committedHash_kept later.commits known (hashes entry member)
      untracked := ((untracked_kept kept).onward remaining).since (grows_trans _ _ _ verifying accepting) }⟩

theorem Noted.grows {before after : Scene} (noted : Noted before after) : Grows before after := by
  refine ⟨?_, [], by rw [noted.sights, List.append_nil]⟩
  rw [noted.repository]
  exact fun _ _ found => found

theorem mutate_grows (point : Point) {change : Repository → Except WorkspaceExc Repository}
    (keeps : ∀ repository changed, change repository = .ok changed → CommitsKept repository changed) :
    Respects Grows (mutate env point change) := by
  intro scene
  have start : Grows scene (scene.reached env point) := (grows_frame env).reached point scene
  rcases mutate_leaves env point change scene with found | ⟨changed, done, left⟩
  · rw [found]
    exact start
  · rw [left]
    exact grows_trans _ _ _ start ⟨keeps _ changed done, [], (List.append_nil _).symm⟩

theorem stagePaths_grows (paths : List String) : Respects Grows (stagePaths env paths) := by
  have reads := (grows_frame env).toReads
  apply bind_respects reads (value_respects reads _)
  intro validated
  split
  · exact throw_respects reads _
  · apply mutate_grows
    intro repository changed done
    cases done
    exact fun _ _ found => found

theorem commitStaged_keeps (repository changed : Repository)
    (done : commitStaged env repository = .ok changed) : CommitsKept repository changed := by
  unfold commitStaged at done
  split at done
  · cases done
  · cases done
    intro sha commit known
    have other : sha ≠ env.commitName repository := by
      intro same
      rw [same, env.commitName_fresh repository] at known
      cases known
    exact (AList.lookup_insert_ne other).trans known

theorem makeCommit_grows (context : CommitContext) : Respects Grows (makeCommit env context) := by
  intro scene
  have moved : Grows scene (exec (mutate env .commit (commitStaged env)) scene).2 :=
    mutate_grows .commit commitStaged_keeps scene
  have unfolded : (exec (makeCommit env context) scene).2 =
      noteCreation context.work.workflow.id context.work.freeze.id
        (scene.reached env .commit).repository.head
        (exec (mutate env .commit (commitStaged env)) scene).2 := rfl
  rw [unfolded, noteCreation]
  split
  · exact moved
  · exact ⟨moved.commits, moved.sights⟩

theorem addRecord_grows (context : CommitContext) (resulting : String) (committed : List String) :
    Respects Grows (addRecord env context resulting committed) := by
  intro scene
  unfold addRecord
  rw [exec_get_bind]
  dsimp only
  split
  · exact grows_refl scene
  · exact ⟨fun _ _ found => found, [], (List.append_nil _).symm⟩

theorem failedBefore_status {request : ControlledCommitRequest} {context : CommitContext}
    {eventType : String} {paths : List String} {error : CommitExc} {scene after : Scene}
    {result : ControlledCommitResult}
    (done : exec (failedBefore env request context eventType paths error) scene = (.ok result, after)) :
    result.status = .failed ∧ result.manualReconciliationRequired = false := by
  obtain ⟨unstaged, middle, -, rest⟩ := bind_ok done
  obtain ⟨nothing, last, -, returned⟩ := bind_ok rest
  obtain ⟨rfl, -⟩ := ok_pure returned
  exact ⟨rfl, rfl⟩

theorem failedAfter_status {request : ControlledCommitRequest} {context : CommitContext}
    {resulting : String} {error : CommitExc} {scene after : Scene} {result : ControlledCommitResult}
    (done : exec (failedAfter env request context resulting error) scene = (.ok result, after)) :
    result.status = .postCommitVerificationFailed ∧ result.manualReconciliationRequired = true := by
  obtain ⟨observed, middle, -, rest⟩ := bind_ok done
  obtain ⟨nothing, last, -, returned⟩ := bind_ok rest
  obtain ⟨rfl, -⟩ := ok_pure returned
  exact ⟨rfl, rfl⟩

/-- What a completed result says of the verification it comes from. -/
structure Completed (env : Environment) (context : CommitContext) (scene after : Scene)
    (result : ControlledCommitResult) (resulting : String) : Prop where
  grows : Grows scene after
  verified : ∃ commit, Verified env context resulting result.committedPaths scene after commit
  resulting : result.resultingCommit = some resulting
  authorized : result.authorizedPaths = context.authorizedPaths
  manifest : result.manifestHash = some context.manifestHash

theorem Verified.onward {context : CommitContext} {resulting : String} {committed : List String}
    {first second third : Scene} {commit : CommitObject}
    (verified : Verified env context resulting committed first second commit)
    (grows : Grows second third) : Verified env context resulting committed first third commit where
  known := grows.commits _ _ verified.known
  parents := verified.parents
  changed := changedPaths_kept grows.commits verified.changed
  paths := verified.paths
  authorized := verified.authorized
  hashes entry member := committedHash_kept grows.commits verified.known (verified.hashes entry member)
  untracked := verified.untracked.onward grows

theorem Completed.since {context : CommitContext} {first second third : Scene}
    {result : ControlledCommitResult} {resulting : String}
    (completed : Completed env context second third result resulting) (grows : Grows first second) :
    Completed env context first third result resulting := by
  obtain ⟨commit, verified⟩ := completed.verified
  exact { completed with
    grows := grows_trans _ _ _ grows completed.grows
    verified := ⟨commit, { verified with untracked := verified.untracked.since grows }⟩ }

theorem finish_completed {request : ControlledCommitRequest} {context : CommitContext}
    {resulting : String} {scene after : Scene} {result : ControlledCommitResult}
    (done : exec (finish env request context resulting) scene = (.ok result, after))
    (completed : result.status = .completed) :
    Completed env context scene after result resulting := by
  obtain ⟨outcome, middle, recovered, rest⟩ := bind_ok done
  have ran := ok_recovering recovered
  cases outcome with
  | error error =>
    rw [(failedAfter_status rest).1] at completed
    cases completed
  | ok found =>
    obtain ⟨rfl, rfl⟩ := ok_pure rest
    obtain ⟨committed, first, checked, rest⟩ := bind_ok ran
    obtain ⟨record, second, recorded, rest⟩ := bind_ok rest
    obtain ⟨nothing, third, audited, returned⟩ := bind_ok rest
    obtain ⟨rfl, rfl⟩ := ok_pure returned
    obtain ⟨commit, verified⟩ := postCommit_ok checked
    have later : Grows first after := grows_trans _ _ _
      (respects_exec (addRecord_grows _ _ _) recorded)
      (respects_exec (audit_notes env request _ _) audited).grows
    have looked : Grows scene first :=
      respects_exec (postCommit_respects (grows_frame env) context resulting) checked
    exact ⟨grows_trans _ _ _ looked later, ⟨commit, verified.onward later⟩, rfl, rfl, rfl⟩

theorem commitContext_completed {request : ControlledCommitRequest} {context : CommitContext}
    {scene after : Scene} {result : ControlledCommitResult}
    (done : exec (commitContext env request context) scene = (.ok result, after))
    (completed : result.status = .completed) :
    ∃ resulting, Completed env context scene after result resulting := by
  have frame := grows_frame env
  have failed : ∀ eventType paths error before,
      exec (failedBefore env request context eventType paths error) before ≠ (.ok result, after) := by
    intro eventType paths error before ended
    rw [(failedBefore_status ended).1] at completed
    cases completed
  obtain ⟨verified, first, recovered, rest⟩ := bind_ok done
  have checking := respects_exec (preCommit_respects frame context) (ok_recovering recovered)
  cases verified with
  | error error => exact absurd rest (failed _ _ _ _)
  | ok nothing =>
    obtain ⟨staged, second, recovered, rest⟩ := bind_ok rest
    have staging : Grows first second := respects_exec
      (bind_respects frame.toReads (stagePaths_grows _)
        (fun _ => stagedManifest_respects frame.toReads context)) (ok_recovering recovered)
    cases staged with
    | error error => exact absurd rest (failed _ _ _ _)
    | ok nothing =>
      obtain ⟨created, third, recovered, rest⟩ := bind_ok rest
      have creating : Grows second third := respects_exec
        (bind_respects frame.toReads (makeCommit_grows context)
          (fun _ => observe_respects frame.toReads _ _)) (ok_recovering recovered)
      cases created with
      | error error => exact absurd rest (failed _ _ _ _)
      | ok resulting =>
        have ended := finish_completed rest completed
        exact ⟨resulting, ended.since
          (grows_trans _ _ _ checking (grows_trans _ _ _ staging creating))⟩

/-- The commit of a completed call, with what it was made from. -/
structure Sound (env : Environment) (request : ControlledCommitRequest) (before after : Scene)
    (result : ControlledCommitResult) (work : CommitWork) (checks : List Check) (manifest : Manifest)
    (resulting : String) (commit : CommitObject) : Prop where
  rows : commitWork before.store.toTables request = .ok work
  frozen : work.freeze.commitSha = some request.expectedBaselineCommit
  authorized : authorizedPaths work.freeze = .ok result.authorizedPaths
  checked : acceptanceChecks work.freeze result.authorizedPaths = .ok checks
  named : result.resultingCommit = some resulting
  summed : result.manifestHash = some (env.manifestHash manifest)
  known : after.repository.commits.lookup resulting = some commit
  parents : commit.parents = [request.expectedBaselineCommit]
  changed : commitChangedPaths none after.repository resulting = .ok manifest.actualChangedPaths
  listed : result.committedPaths = manifest.actualChangedPaths
  within : ∀ path ∈ manifest.actualChangedPaths, path ∈ result.authorizedPaths
  covered : ∀ path ∈ manifest.actualChangedPaths, ∃ check ∈ checks, check.path? = some path
  observed : ∃ repository changes, Looked before after ⟨.changes .preflight, repository⟩ ∧
    changedPaths none (repository.checkout env.ignored) repository.files = .ok changes ∧
    manifest.actualChangedPaths = unprotected changes request.protectedUntrackedHashes
  hashed : ∃ early repository late,
    after.sights = before.sights ++ early ++ ⟨.acceptance .preflight, repository⟩ :: late ∧
    (verifyDeterministicAcceptance none (env.commands .preflight) (repository.checkout env.ignored)
      checks repository.files).2.isOk = true ∧
    ∀ path ∈ manifest.actualChangedPaths, ∃ hash, HashSeen env .preflight late path hash ∧
      committedFileSha256 none env.sha256 env.shown after.repository resulting path = .ok hash
  kept : KeptSeen env .preflight before after request.protectedUntrackedHashes ∧
    KeptSeen env .postCommit before after request.protectedUntrackedHashes

theorem HashSeen.onward {phase : Phase} {looks more : List Sight} {path hash : String}
    (seen : HashSeen env phase looks path hash) : HashSeen env phase (looks ++ more) path hash := by
  obtain ⟨repository, member, read⟩ := seen
  exact ⟨repository, List.mem_append_left _ member, read⟩

theorem mem_acceptanceCheckPaths {checks : List Check} {path : String}
    (listed : path ∈ acceptanceCheckPaths checks) : ∃ check ∈ checks, check.path? = some path := by
  rw [acceptanceCheckPaths, mem_sortedBy, List.mem_dedup, List.mem_filterMap] at listed
  exact listed

/-- A completed call has made one commit on the frozen baseline. What it changes are the
paths of the manifest, each of them authorized and covered by a check of the freeze, with
the content the preflight had hashed after the checks had passed; and the protected files
are as the request has them, before and after. -/
theorem completed_commit_sound (env : Environment) (request : ControlledCommitRequest)
    (scene after : Scene) (result : ControlledCommitResult)
    (done : exec (commit env request) scene = (.ok result, after))
    (completed : result.status = .completed) :
    ∃ work checks manifest resulting commit,
      Sound env request scene after result work checks manifest resulting commit := by
  have stopless : ∀ error before, exec (stopped env request error) before ≠ (.ok result, after) := by
    intro error before ended
    rcases stopped_status ended with other | other
    · rw [completed] at other
      cases other
    · rw [completed] at other
      cases other
  cases commit_begins env request scene with
  | unrecorded error middle audited ended =>
    rw [ended] at done
    cases done
  | raised middle last error audited noted looked foreign ended =>
    rw [ended] at done
    cases done
  | refused middle last error audited noted looked ended =>
    rw [ended] at done
    exact absurd done (stopless error last)
  | prepared middle last context audited noted looked ended =>
    rw [ended] at done
    obtain ⟨resulting, facts⟩ := commitContext_completed done completed
    obtain ⟨commit, verified⟩ := facts.verified
    have prepared := preflight_ok looked
    have rows := prepared.rows
    rw [noted.tables] at rows
    obtain ⟨found, based, -, listed, checked⟩ := preflightRows_ok rows
    have baseline : context.baselineCommit = request.expectedBaselineCommit := by
      rw [prepared.made]
      rfl
    have guarded : context.protectedUntrackedHashes = request.protectedUntrackedHashes := by
      rw [prepared.made]
      rfl
    have hash : context.manifestHash = env.manifestHash context.manifest := by
      rw [prepared.made]
      rfl
    have preparing : Grows middle last := respects_exec (preflight_respects (grows_frame env) request) looked
    have beginning : Grows scene last := grows_trans _ _ _ noted.grows preparing
    refine ⟨context.work, context.acceptanceChecks, context.manifest, resulting, commit, {
      rows := found
      frozen := requireBaseline_ok based
      authorized := by rw [facts.authorized]; exact listed
      checked := by rw [facts.authorized]; exact checked
      named := facts.resulting
      summed := by rw [facts.manifest, hash]
      known := verified.known
      parents := by rw [verified.parents, baseline]
      changed := by rw [← verified.paths]; exact verified.changed
      listed := verified.paths
      within := by rw [facts.authorized]; exact prepared.authorized
      covered := fun path member => mem_acceptanceCheckPaths (prepared.covered path member)
      observed := ?_
      hashed := ?_
      kept := ⟨?_, ?_⟩ }⟩
    · obtain ⟨repository, changes, looking, known, same⟩ := prepared.changed
      exact ⟨repository, changes, (looking.onward facts.grows).since noted.grows, known, same⟩
    · obtain ⟨early, repository, late, looks, passed, seen⟩ := prepared.hashes
      obtain ⟨more, extended⟩ := facts.grows.sights
      refine ⟨early, repository, late ++ more, ?_, ?_, ?_⟩
      · rw [extended, looks, noted.sights]
        simp
      · rw [passed]
        rfl
      · intro path member
        rw [← prepared.hashed] at member
        obtain ⟨entry, held, rfl⟩ := List.mem_map.mp member
        exact ⟨entry.2, (seen entry held).onward, verified.hashes entry held⟩
    · obtain ⟨repository, current, looking, known⟩ := prepared.untracked
      exact ⟨repository, (looking.onward facts.grows).since noted.grows, kept_of_verified known⟩
    · rw [← guarded]
      exact verified.untracked.since beginning

theorem notes_commit_sound :
    ∃ after result work checks manifest resulting commit,
      Sound calm notesRequest notesScene after result work checks manifest resulting commit := by
  have completed : (exec (commit calm notesRequest) notesScene).1.toOption.map (·.status) =
      some .completed := by decide +kernel
  rcases ended : exec (commit calm notesRequest) notesScene with ⟨error | result, after⟩
  · rw [ended] at completed
    cases completed
  · rw [ended] at completed
    exact ⟨after, result, completed_commit_sound calm notesRequest notesScene after result ended
      (Option.some.inj completed)⟩

end Lucius.ControlledCommit
