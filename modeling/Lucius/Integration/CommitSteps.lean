import Lucius.Integration.CommitService

/-! What the steps of a controlled commit leave as it was. The steps that only look at
the repository respect every relation that other processes and the commands of the
checks respect. -/

namespace Lucius.ControlledCommit

open Worktree Acceptance Lucius.Action

/-- A relation that no other process breaks. -/
structure Reads (env : Environment) (relation : Scene → Scene → Prop) : Prop where
  reflexive : ∀ scene, relation scene scene
  transitive : ∀ first second third, relation first second → relation second third →
    relation first third
  reached : ∀ point scene, relation scene (scene.reached env point)

/-- A relation that the commands of the checks do not break either. -/
structure Frame (env : Environment) (relation : Scene → Scene → Prop) : Prop extends
    Reads env relation where
  checked : ∀ phase checks scene, relation scene { scene with
    repository := { scene.repository with
      files := Updates.applyAll scene.repository.files
        (verifyDeterministicAcceptance (env.fault (.acceptance phase)) (env.commands phase)
          (scene.repository.checkout env.ignored) checks scene.repository.files).1 } }

section

variable {env : Environment} {relation : Scene → Scene → Prop} (reads : Reads env relation)
include reads

theorem bind_respects {α β : Type} {first : Committing α} {next : α → Committing β}
    (before : Respects relation first) (later : ∀ value, Respects relation (next value)) :
    Respects relation (first >>= next) := respects_bind reads.transitive before later

theorem pure_respects {α : Type} (value : α) : Respects relation (pure value : Committing α) :=
  respects_pure reads.reflexive value

theorem throw_respects {α : Type} (error : CommitExc) :
    Respects relation (throw error : Committing α) := respects_throw reads.reflexive error

theorem value_respects {α : Type} (value : Except CommitExc α) :
    Respects relation (Action.ofExcept value : Committing α) :=
  respects_ofExcept reads.reflexive value

theorem reach_respects (point : Point) : Respects relation (reach env point) := by
  apply bind_respects reads
  · exact respects_modify (reads.reached point)
  · intro _
    exact bind_respects reads (respects_get reads.reflexive) (fun _ => pure_respects reads _)

theorem observe_respects {α : Type} (point : Point)
    (read : Option ReadFault → Repository → Except WorkspaceExc α) :
    Respects relation (observe env point read) :=
  bind_respects reads (reach_respects reads point) (fun _ => value_respects reads _)

theorem untracked_respects (phase : Phase) (hashes : List (String × String)) :
    Respects relation (verifyUntracked env phase hashes) :=
  bind_respects reads (observe_respects reads _ _) (fun _ => pure_respects reads _)

theorem reconciliation_respects (head baseline : String) (authorized : List String) :
    Respects relation (looksLikeMissingCommitRecord env head baseline authorized) := by
  apply bind_respects reads
  · apply respects_recovering
    apply bind_respects reads (observe_respects reads _ _)
    intro _
    exact bind_respects reads (observe_respects reads _ _) (fun _ => pure_respects reads _)
  · intro read
    cases read with
    | ok found => exact pure_respects reads _
    | error error => exact pure_respects reads _

theorem requireHead_respects (request : ControlledCommitRequest) (authorized : List String) :
    Respects relation (requireHead env request authorized) := by
  apply bind_respects reads (observe_respects reads _ _)
  intro head
  split
  · apply bind_respects reads (reconciliation_respects reads _ _ _)
    intro missing
    split
    · exact throw_respects reads _
    · exact throw_respects reads _
  · exact pure_respects reads _

theorem hashFiles_respects (phase : Phase) (paths : List String) :
    Respects relation (hashFiles env phase paths) := by
  induction paths with
  | nil => exact pure_respects reads _
  | cons path rest ih =>
    apply bind_respects reads (observe_respects reads _ _)
    intro hash
    exact bind_respects reads ih (fun _ => pure_respects reads _)

theorem verifyHashes_respects {hash : String → Committing String}
    (looks : ∀ path, Respects relation (hash path)) (reason : String)
    (expected : List (String × String)) : Respects relation (verifyHashes hash reason expected) := by
  induction expected with
  | nil => exact pure_respects reads _
  | cons entry rest ih =>
    apply bind_respects reads (looks _)
    intro observed
    split
    · exact throw_respects reads _
    · exact ih

theorem changedPaths_respects (request : ControlledCommitRequest) (authorized : List String) :
    Respects relation (observeChangedPaths env request authorized) := by
  apply bind_respects reads (observe_respects reads _ _)
  intro staged
  split
  · exact throw_respects reads _
  · split
    · exact throw_respects reads _
    · apply bind_respects reads (untracked_respects reads _ _)
      intro _
      apply bind_respects reads (observe_respects reads _ _)
      intro observed
      dsimp only
      split
      · exact throw_respects reads _
      · split
        · exact throw_respects reads _
        · exact pure_respects reads _

theorem stagedManifest_respects (context : CommitContext) :
    Respects relation (verifyStagedManifest env context) := by
  apply bind_respects reads (untracked_respects reads _ _)
  intro _
  apply bind_respects reads (observe_respects reads _ _)
  intro observed
  split
  · exact throw_respects reads _
  · exact verifyHashes_respects reads (fun _ => observe_respects reads _ _) _ _

theorem unmoved_respects (context : CommitContext) :
    Respects relation (verifyUnmoved env context) := by
  apply bind_respects reads (observe_respects reads _ _)
  intro head
  split
  · exact throw_respects reads _
  · apply bind_respects reads (observe_respects reads _ _)
    intro staged
    split
    · exact throw_respects reads _
    · apply bind_respects reads (untracked_respects reads _ _)
      intro _
      apply bind_respects reads (observe_respects reads _ _)
      intro observed
      split
      · exact throw_respects reads _
      · exact pure_respects reads _

theorem committed_respects (context : CommitContext) (resulting : String) :
    Respects relation (verifyCommitted env context resulting) := by
  unfold verifyCommitted
  split
  · exact throw_respects reads _
  · apply bind_respects reads (observe_respects reads _ _)
    intro head
    split
    · exact bind_respects reads (observe_respects reads _ _) (fun _ => throw_respects reads _)
    · apply bind_respects reads (observe_respects reads _ _)
      intro parents
      split
      · exact throw_respects reads _
      · apply bind_respects reads (observe_respects reads _ _)
        intro committed
        split
        · exact throw_respects reads _
        · split
          · exact throw_respects reads _
          · exact bind_respects reads
              (verifyHashes_respects reads (fun _ => observe_respects reads _ _) _ _)
              (fun _ => pure_respects reads _)

theorem cleanWorktree_respects (context : CommitContext) (resulting : String) :
    Respects relation (verifyCleanWorktree env context resulting) := by
  apply bind_respects reads (untracked_respects reads _ _)
  intro _
  apply bind_respects reads (observe_respects reads _ _)
  intro remaining
  split
  · exact throw_respects reads _
  · apply bind_respects reads (observe_respects reads _ _)
    intro last
    split
    · exact bind_respects reads (observe_respects reads _ _) (fun _ => throw_respects reads _)
    · exact pure_respects reads _

end

section

variable {env : Environment} {relation : Scene → Scene → Prop} (frame : Frame env relation)
include frame

theorem acceptance_respects (phase : Phase) (checks : List Check) :
    Respects relation (verifyAcceptance env phase checks) := by
  intro scene
  exact frame.transitive _ _ _ (frame.reached (.acceptance phase) scene)
    (frame.transitive _ _ _ (frame.checked phase checks _) (value_respects frame.toReads _ _))

theorem preflightTree_respects (request : ControlledCommitRequest) (work : CommitWork)
    (authorized : List String) (checks : List Check) :
    Respects relation (preflightTree env request work authorized checks) := by
  apply bind_respects frame.toReads (changedPaths_respects frame.toReads _ _)
  intro actual
  apply bind_respects frame.toReads (acceptance_respects frame _ _)
  intro evidence
  split
  · exact throw_respects frame.toReads _
  · apply bind_respects frame.toReads (value_respects frame.toReads _)
    intro message
    exact bind_respects frame.toReads (hashFiles_respects frame.toReads _ _) (fun _ => pure_respects frame.toReads _)

theorem preflight_respects (request : ControlledCommitRequest) :
    Respects relation (preflight env request) := by
  apply bind_respects frame.toReads (respects_get frame.reflexive)
  intro scene
  apply bind_respects frame.toReads (value_respects frame.toReads _)
  rintro ⟨work, authorized, checks⟩
  exact bind_respects frame.toReads (requireHead_respects frame.toReads _ _)
    (fun _ => preflightTree_respects frame _ _ _ _)

theorem preCommit_respects (context : CommitContext) :
    Respects relation (verifyPreCommitState env context) := by
  apply bind_respects frame.toReads (unmoved_respects frame.toReads context)
  intro _
  apply bind_respects frame.toReads (acceptance_respects frame _ _)
  intro evidence
  split
  · exact throw_respects frame.toReads _
  · exact verifyHashes_respects frame.toReads (fun _ => observe_respects frame.toReads _ _) _ _

theorem postCommit_respects (context : CommitContext) (resulting : String) :
    Respects relation (verifyPostCommit env context resulting) := by
  apply bind_respects frame.toReads (committed_respects frame.toReads context resulting)
  intro committed
  apply bind_respects frame.toReads (acceptance_respects frame _ _)
  intro evidence
  split
  · exact throw_respects frame.toReads _
  · exact bind_respects frame.toReads (cleanWorktree_respects frame.toReads context resulting)
      (fun _ => pure_respects frame.toReads _)

end

def CommitsKept (before after : Repository) : Prop :=
  ∀ sha commit, before.commits.lookup sha = some commit → after.commits.lookup sha = some commit

/-- No row but a record of a commit is written. -/
def RowsKept (before after : Store) : Prop :=
  after.toTables = { before.toTables with controlledCommits := after.controlledCommits }

/-- The head stands where it stood, and no commit is made. -/
structure Still (before after : Scene) : Prop where
  head : after.repository.head = before.repository.head
  made : after.made = before.made
  rows : RowsKept before.store after.store
  commits : CommitsKept before.repository after.repository

/-- A commit is made for a workflow and a freeze: the head moves to a name that is new. -/
structure Made (workflowId planFreezeId : String) (before after : Scene) : Prop where
  unknown : before.repository.commits.lookup after.repository.head = none
  made : after.made =
    before.made ++ [⟨workflowId, planFreezeId, before.repository.head, after.repository.head⟩]
  rows : RowsKept before.store after.store
  commits : CommitsKept before.repository after.repository

def MayMake (workflowId planFreezeId : String) (before after : Scene) : Prop :=
  Still before after ∨ Made workflowId planFreezeId before after

theorem rowsKept_refl (store : Store) : RowsKept store store := rfl

theorem rowsKept_trans {first second third : Store} (one : RowsKept first second)
    (two : RowsKept second third) : RowsKept first third := by
  unfold RowsKept at *
  rw [two, one]

theorem commitsKept_trans {first second third : Repository} (one : CommitsKept first second)
    (two : CommitsKept second third) : CommitsKept first third :=
  fun sha commit found => two sha commit (one sha commit found)

theorem unknown_before {before after : Repository} (kept : CommitsKept before after) {name : String}
    (unknown : after.commits.lookup name = none) : before.commits.lookup name = none := by
  cases found : before.commits.lookup name with
  | none => rfl
  | some commit =>
    rw [kept name commit found] at unknown
    cases unknown

theorem still_refl (scene : Scene) : Still scene scene :=
  ⟨rfl, rfl, rowsKept_refl _, fun _ _ found => found⟩

theorem still_trans (first second third : Scene) (one : Still first second)
    (two : Still second third) : Still first third where
  head := two.head.trans one.head
  made := two.made.trans one.made
  rows := rowsKept_trans one.rows two.rows
  commits := commitsKept_trans one.commits two.commits

section

variable {workflowId planFreezeId : String} {first second third : Scene}

theorem still_made (one : Still first second) (two : Made workflowId planFreezeId second third) :
    Made workflowId planFreezeId first third where
  unknown := unknown_before one.commits two.unknown
  made := by rw [two.made, one.made, one.head]
  rows := rowsKept_trans one.rows two.rows
  commits := commitsKept_trans one.commits two.commits

theorem made_still (one : Made workflowId planFreezeId first second) (two : Still second third) :
    Made workflowId planFreezeId first third where
  unknown := by rw [two.head]; exact one.unknown
  made := by rw [two.made, one.made, two.head]
  rows := rowsKept_trans one.rows two.rows
  commits := commitsKept_trans one.commits two.commits

theorem still_mayMake (one : Still first second) (two : MayMake workflowId planFreezeId second third) :
    MayMake workflowId planFreezeId first third :=
  two.imp (still_trans _ _ _ one) (still_made one)

theorem mayMake_still (one : MayMake workflowId planFreezeId first second) (two : Still second third) :
    MayMake workflowId planFreezeId first third :=
  one.imp (fun still => still_trans _ _ _ still two) (fun made => made_still made two)

theorem mayMake_bind {α β : Type} {first : Committing α} {next : α → Committing β}
    (before : Respects (MayMake workflowId planFreezeId) first)
    (later : ∀ value, Respects Still (next value)) :
    Respects (MayMake workflowId planFreezeId) (first >>= next) := by
  refine respects_then ?_ ?_ before later
  · exact fun _ _ may => may
  · exact fun _ _ _ one two => mayMake_still one two

theorem still_bind {α β : Type} {first : Committing α} {next : α → Committing β}
    (before : Respects Still first)
    (later : ∀ value, Respects (MayMake workflowId planFreezeId) (next value)) :
    Respects (MayMake workflowId planFreezeId) (first >>= next) := by
  refine respects_then ?_ ?_ before later
  · exact fun _ _ still => .inl still
  · exact fun _ _ _ one two => still_mayMake one two

end

/-- At most audit events are written. -/
structure Noted (before after : Scene) : Prop where
  repository : after.repository = before.repository
  made : after.made = before.made
  sights : after.sights = before.sights
  tables : after.store.toTables = before.store.toTables

theorem Noted.still {before after : Scene} (noted : Noted before after) : Still before after := by
  obtain ⟨repository, made, -, tables⟩ := noted
  refine ⟨by rw [repository], made, ?_, ?_⟩
  · unfold RowsKept
    rw [tables]
  · rw [repository]
    exact fun _ _ found => found

theorem audit_notes (env : Environment) (request : ControlledCommitRequest) (eventType result : String) :
    Respects Noted (audit env request eventType result) := by
  unfold audit
  split
  · exact respects_throw (fun _ => ⟨rfl, rfl, rfl, rfl⟩) _
  · exact respects_modify (fun _ => ⟨rfl, rfl, rfl, rfl⟩)

/-- Other processes leave the head and the index alone. -/
def Undisturbed (env : Environment) : Prop :=
  ∀ point repository, (env.others point repository).head = repository.head ∧
    Updates.Same (env.others point repository).index repository.index

variable {env : Environment} (quiet : Undisturbed env)
include quiet

theorem still_frame : Frame env Still where
  reflexive := still_refl
  transitive := still_trans
  reached point scene :=
    ⟨(quiet point scene.repository).1, rfl, rowsKept_refl _, env.others_keep point scene.repository⟩
  checked _ _ _ := ⟨rfl, rfl, rowsKept_refl _, fun _ _ found => found⟩

omit quiet in
theorem audit_still (request : ControlledCommitRequest) (eventType result : String) :
    Respects Still (audit env request eventType result) :=
  respects_mono (fun _ _ => Noted.still) (audit_notes env request eventType result)

omit quiet in
theorem addRecord_still (context : CommitContext) (resulting : String) (committed : List String) :
    Respects Still (addRecord env context resulting committed) := by
  intro scene
  unfold addRecord
  rw [exec_get_bind]
  dsimp only
  split
  · exact still_refl scene
  · exact ⟨rfl, rfl, rfl, fun _ _ found => found⟩

omit quiet in
theorem mutate_runs {point : Point} {change : Repository → Except WorkspaceExc Repository}
    (calm : env.fault point = none) :
    exec (mutate env point change) scene =
      exec (Action.ofExcept (lift (change (scene.reached env point).repository)) >>= setRepository)
        (scene.reached env point) := by
  unfold mutate
  rw [calm]
  rfl

omit quiet in
/-- A command that fails has its effect all the same where it lands. -/
theorem mutate_fails {point : Point} {fault : ReadFault} {change : Repository → Except WorkspaceExc Repository}
    (failed : env.fault point = some fault) :
    exec (mutate env point change) scene = (.error (.raised fault.exc),
      if env.lands point = true then
        { scene.reached env point with
          repository := (change (scene.reached env point).repository).toOption.getD
            (scene.reached env point).repository }
      else scene.reached env point) := by
  unfold mutate
  rw [failed]
  cases env.lands point <;> rfl

omit quiet in
theorem mutate_leaves (env : Environment) (point : Point)
    (change : Repository → Except WorkspaceExc Repository) (scene : Scene) :
    (exec (mutate env point change) scene).2 = scene.reached env point ∨
      ∃ changed, change (scene.reached env point).repository = .ok changed ∧
        (exec (mutate env point change) scene).2 =
          { scene.reached env point with repository := changed } := by
  cases fault : env.fault point with
  | none =>
    rw [mutate_runs fault]
    cases done : change (scene.reached env point).repository with
    | error error => exact .inl rfl
    | ok changed => exact .inr ⟨changed, rfl, rfl⟩
  | some held =>
    rw [mutate_fails fault]
    cases env.lands point with
    | false => exact .inl rfl
    | true =>
      cases done : change (scene.reached env point).repository with
      | error error => exact .inl rfl
      | ok changed => exact .inr ⟨changed, rfl, rfl⟩

theorem mutate_still (point : Point) {change : Repository → Except WorkspaceExc Repository}
    (keeps : ∀ repository changed, change repository = .ok changed →
      changed.head = repository.head ∧ changed.commits = repository.commits) :
    Respects Still (mutate env point change) := by
  intro scene
  have start : Still scene (scene.reached env point) := (still_frame quiet).reached point scene
  rcases mutate_leaves env point change scene with found | ⟨changed, done, left⟩
  · rw [found]
    exact start
  · obtain ⟨head, commits⟩ := keeps _ changed done
    rw [left]
    apply still_trans _ _ _ start
    refine ⟨head, rfl, rowsKept_refl _, ?_⟩
    intro sha commit known
    have same : changed.commits.lookup sha = some commit := by
      rw [commits]
      exact known
    exact same

theorem stagePaths_still (paths : List String) : Respects Still (stagePaths env paths) := by
  have reads := (still_frame quiet).toReads
  apply bind_respects reads (value_respects reads _)
  intro validated
  split
  · exact throw_respects reads _
  · apply mutate_still quiet
    intro repository changed done
    cases done
    exact ⟨rfl, rfl⟩

theorem cleanup_still (paths : List String) : Respects Still (cleanupStaging env paths) := by
  have reads := (still_frame quiet).toReads
  unfold cleanupStaging
  split
  · exact pure_respects reads _
  · apply bind_respects reads
    · apply respects_recovering
      apply bind_respects reads (value_respects reads _)
      intro validated
      split
      · exact pure_respects reads _
      · apply mutate_still quiet
        intro repository changed done
        cases done
        exact ⟨rfl, rfl⟩
    · intro outcome
      cases outcome with
      | ok nothing => exact pure_respects reads _
      | error error => exact pure_respects reads _

theorem failedBefore_still (request : ControlledCommitRequest) (context : CommitContext)
    (eventType : String) (paths : List String) (error : CommitExc) :
    Respects Still (failedBefore env request context eventType paths error) := by
  have reads := (still_frame quiet).toReads
  apply bind_respects reads (cleanup_still quiet paths)
  intro unstaged
  exact bind_respects reads (audit_still _ _ _) (fun _ => pure_respects reads _)

theorem failedAfter_still (request : ControlledCommitRequest) (context : CommitContext)
    (resulting : String) (error : CommitExc) :
    Respects Still (failedAfter env request context resulting error) := by
  have reads := (still_frame quiet).toReads
  apply bind_respects reads
  · apply bind_respects reads (respects_recovering _ (observe_respects reads _ _))
    intro outcome
    cases outcome with
    | ok head => exact pure_respects reads _
    | error error => exact pure_respects reads _
  · intro observed
    exact bind_respects reads (audit_still _ _ _) (fun _ => pure_respects reads _)

theorem finish_still (request : ControlledCommitRequest) (context : CommitContext)
    (resulting : String) : Respects Still (finish env request context resulting) := by
  have reads := (still_frame quiet).toReads
  apply bind_respects reads
  · apply respects_recovering
    apply bind_respects reads (postCommit_respects (still_frame quiet) _ _)
    intro committed
    apply bind_respects reads (addRecord_still _ _ _)
    intro record
    exact bind_respects reads (audit_still _ _ _) (fun _ => pure_respects reads _)
  · intro outcome
    cases outcome with
    | ok result => exact pure_respects reads _
    | error error => exact failedAfter_still quiet _ _ _ _

theorem stageManifest_still (context : CommitContext) : Respects Still (stageManifest env context) :=
  bind_respects (still_frame quiet).toReads (stagePaths_still quiet _)
    (fun _ => stagedManifest_respects (still_frame quiet).toReads _)

theorem stopped_still (request : ControlledCommitRequest) (error : CommitExc) :
    Respects Still (stopped env request error) := by
  have reads := (still_frame quiet).toReads
  unfold stopped
  split
  · exact bind_respects reads (audit_still _ _ _) (fun _ => pure_respects reads _)
  · exact bind_respects reads (audit_still _ _ _) (fun _ => pure_respects reads _)

theorem makeCommit_makes (context : CommitContext) :
    Respects (MayMake context.work.workflow.id context.work.freeze.id) (makeCommit env context) := by
  intro scene
  let before := scene.reached env .commit
  have start : Still scene before := (still_frame quiet).reached .commit scene
  have unfolded : (exec (makeCommit env context) scene).2 =
      noteCreation context.work.workflow.id context.work.freeze.id before.repository.head
        (exec (mutate env .commit (commitStaged env)) scene).2 := rfl
  rw [unfolded]
  rcases mutate_leaves env .commit (commitStaged env) scene with found | ⟨changed, done, left⟩
  · rw [found, noteCreation, if_pos rfl]
    exact .inl start
  · rw [left]
    have fresh := env.commitName_fresh before.repository
    have named : changed = before.repository.committed (env.commitName before.repository) := by
      unfold commitStaged at done
      split at done
      · cases done
      · cases done
        rfl
    have moved : env.commitName before.repository ≠ before.repository.head := by
      intro same
      have known := before.repository.head_known
      rw [← same, fresh] at known
      cases known
    rw [named]
    have noted : noteCreation context.work.workflow.id context.work.freeze.id before.repository.head
        { before with repository := before.repository.committed (env.commitName before.repository) } =
        { before with
          repository := before.repository.committed (env.commitName before.repository)
          made := before.made ++ [⟨context.work.workflow.id, context.work.freeze.id,
            before.repository.head, env.commitName before.repository⟩] } := if_neg moved
    rw [show scene.reached env .commit = before from rfl, noted]
    refine .inr (still_made start ⟨fresh, rfl, rowsKept_refl _, ?_⟩)
    intro sha commit known
    have other : sha ≠ env.commitName before.repository := by
      intro same
      rw [same, fresh] at known
      cases known
    exact (AList.lookup_insert_ne other).trans known

theorem commitStaged_makes (request : ControlledCommitRequest) (context : CommitContext) :
    Respects (MayMake context.work.workflow.id context.work.freeze.id)
      (commitStagedManifest env request context) := by
  have reads := (still_frame quiet).toReads
  apply mayMake_bind
  · apply respects_recovering
    exact mayMake_bind (makeCommit_makes quiet context) (fun _ => observe_respects reads _ _)
  · intro outcome
    cases outcome with
    | ok resulting => exact finish_still quiet _ _ _
    | error error => exact failedBefore_still quiet _ _ _ _ _

theorem commitContext_makes (request : ControlledCommitRequest) (context : CommitContext) :
    Respects (MayMake context.work.workflow.id context.work.freeze.id)
      (commitContext env request context) := by
  have failing : ∀ paths error, Respects (MayMake context.work.workflow.id context.work.freeze.id)
      (failedBefore env request context "CONTROLLED_COMMIT_PRE_COMMIT_FAILED" paths error) :=
    fun paths error => respects_mono (fun _ _ still => .inl still)
      (failedBefore_still quiet request context _ paths error)
  apply still_bind (respects_recovering _ (preCommit_respects (still_frame quiet) context))
  intro verified
  cases verified with
  | error error => exact failing [] error
  | ok nothing =>
    apply still_bind (respects_recovering _ (stageManifest_still quiet context))
    intro staged
    cases staged with
    | error error => exact failing _ error
    | ok nothing => exact commitStaged_makes quiet request context

end Lucius.ControlledCommit
