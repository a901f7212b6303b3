import Lucius.Integration.FailedCommit

/-! When a controlled commit is refused because its acceptance has drifted.

The evidence of the checks is compared as a whole, and the evidence of a command holds
what is kept of its output. -/

namespace Lucius.Acceptance

open Worktree

/-- The commands write no file. -/
def Commands.Silent (commands : Commands) : Prop := ∀ argv files, (commands.run argv files).1 = []

/-- What is kept of the output of a command that ends. -/
def recordedOutput (commands : Commands) (argv : List String) (files : Files) :
    Option (BoundedOutput × BoundedOutput) :=
  match (commands.run argv files).2 with
  | .exited _ stdout stderr => some (boundedOutput stdout, boundedOutput stderr)
  | _ => none

theorem diagnostics_eq_iff (argv : List String) (timeout code : Int) (stdout stderr stdout' stderr' : String) :
    commandDiagnostics argv timeout code stdout' stderr' = commandDiagnostics argv timeout code stdout stderr ↔
      boundedOutput stdout' = boundedOutput stdout ∧ boundedOutput stderr' = boundedOutput stderr := by
  have bounded : ∀ one other : String, (boundedOutput one).text = (boundedOutput other).text →
      (boundedOutput one).originalBytes = (boundedOutput other).originalBytes →
      (boundedOutput one).truncated = (boundedOutput other).truncated →
      (boundedOutput one).redacted = (boundedOutput other).redacted →
      boundedOutput one = boundedOutput other := by
    intro one other text bytes truncated redacted
    have size : ∀ value, (boundedOutput value).storedBytes = (boundedOutput value).text.utf8ByteSize := by
      intro value
      unfold boundedOutput
      dsimp only
    have stored : (boundedOutput one).storedBytes = (boundedOutput other).storedBytes := by
      rw [size, size, text]
    cases left : boundedOutput one
    cases right : boundedOutput other
    rw [left, right] at text bytes stored truncated redacted
    rw [BoundedOutput.mk.injEq]
    exact ⟨text, bytes, stored, truncated, redacted⟩
  constructor
  · intro same
    simp only [commandDiagnostics, CommandDiagnostics.mk.injEq] at same
    obtain ⟨-, -, -, -, text, text', bytes, bytes', cut, cut', redacted, redacted', -⟩ := same
    exact ⟨bounded _ _ text bytes cut redacted, bounded _ _ text' bytes' cut' redacted'⟩
  · rintro ⟨out, err⟩
    rw [commandDiagnostics, commandDiagnostics, out, err]

theorem verifyCommandSucceeds_apply (commands : Commands) (argv : List String) (timeout : Int)
    (files : Files) :
    verifyCommandSucceeds commands argv timeout files =
      match Safety.assertUnattendedCommandAuthorized argv with
      | .error message =>
        ([], .error (.acceptance "DETERMINISTIC_ACCEPTANCE_COMMAND_ARG_NOT_ALLOWED" message))
      | .ok () =>
        if (!commands.available (argv.headD "")) = true then
          ([], .error (.acceptance "DETERMINISTIC_ACCEPTANCE_COMMAND_EXECUTABLE_MISSING"
            ("command_succeeds executable does not exist: " ++ argv.headD "")))
        else ((commands.run argv files).1, commandVerdict argv timeout (commands.run argv files).2) := by
  unfold verifyCommandSucceeds
  cases Safety.assertUnattendedCommandAuthorized argv with
  | error message => rfl
  | ok nothing =>
    dsimp only
    split
    · rfl
    · rfl

theorem verifyCommandSucceeds_ok {commands : Commands} {argv : List String} {timeout : Int} {files : Files}
    {evidence : Verification} (passed : (verifyCommandSucceeds commands argv timeout files).2 = .ok evidence) :
    ∃ stdout stderr, (commands.run argv files).2 = .exited 0 stdout stderr ∧
      evidence = ⟨"deterministic_acceptance_command_succeeds", none, none,
        some (commandDiagnostics argv timeout 0 stdout stderr)⟩ := by
  rw [verifyCommandSucceeds_apply] at passed
  split at passed
  · cases passed
  · split at passed
    · cases passed
    · have verdict : commandVerdict argv timeout (commands.run argv files).2 = .ok evidence := passed
      cases ended : (commands.run argv files).2 with
      | exited code stdout stderr =>
        rw [ended, commandVerdict] at verdict
        by_cases zero : code = 0
        · rw [if_neg (fun other => other zero)] at verdict
          cases verdict
          exact ⟨stdout, stderr, by rw [zero], by rw [zero]⟩
        · rw [if_pos zero] at verdict
          cases verdict
      | timedOut =>
        rw [ended] at verdict
        cases verdict
      | osError =>
        rw [ended] at verdict
        cases verdict
      | decodeError =>
        rw [ended] at verdict
        cases verdict

section

variable {commands : Commands} (silent : commands.Silent)
include silent

theorem verifyCheck_writes (checkout : Checkout) (check : Check) :
    Journal.Writes (fun _ => False) (verifyCheck commands checkout check) := by
  intro files update member
  cases check with
  | commandSucceeds argv timeout =>
    rw [verifyCheck, verifyCommandSucceeds_apply] at member
    split at member
    · cases member
    · split at member
      · cases member
      · rw [silent argv files] at member
        cases member
  | fileExists path => cases member
  | text type path expected => cases member

theorem verifyChecks_writes (checkout : Checkout) (checks : List Check) :
    Journal.Writes (fun _ => False) (verifyChecks commands checkout checks) := by
  induction checks with
  | nil => exact Journal.writes_pure _
  | cons check rest ih =>
    apply Journal.writes_bind (verifyCheck_writes silent checkout check)
    intro _ _ verified _
    exact Journal.writes_bind ih (fun _ _ _ _ => Journal.writes_pure _)

theorem acceptance_writes (fault : Option ReadFault) (checkout : Checkout) (checks : List Check)
    (files : Files) : (verifyDeterministicAcceptance fault commands checkout checks files).1 = [] := by
  have writes : Journal.Writes (fun _ => False)
      (verifyDeterministicAcceptance fault commands checkout checks) :=
    Journal.writes_bind (Journal.writes_ofExcept _) (fun _ _ _ _ => verifyChecks_writes silent checkout checks)
  exact List.eq_nil_iff_forall_not_mem.mpr (writes files)

theorem verifyChecks_cons {checkout : Checkout} {check : Check} {rest : List Check} {files : Files}
    {evidence : List Verification}
    (passed : (verifyChecks commands checkout (check :: rest) files).2 = .ok evidence) :
    ∃ first later, (verifyCheck commands checkout check files).2 = .ok first ∧
      (verifyChecks commands checkout rest files).2 = .ok later ∧ evidence = first :: later := by
  have ended : verifyChecks commands checkout (check :: rest) files =
      ((verifyChecks commands checkout (check :: rest) files).1, .ok evidence) := Prod.ext rfl passed
  obtain ⟨front, first, back, checked, others, -⟩ := Journal.bind_ok ended
  have empty : front = [] := by
    have written := verifyCheck_writes silent checkout check files
    rw [checked] at written
    exact List.eq_nil_iff_forall_not_mem.mpr written
  subst empty
  obtain ⟨middle, later, last, verified, returned, -⟩ := Journal.bind_ok others
  cases returned
  have seen : verifyChecks commands checkout rest files = (middle, .ok later) := verified
  exact ⟨first, later, by rw [checked], by rw [seen], rfl⟩

end

theorem verifyCheck_agree {first second : Commands} {before after : Checkout}
    (links : after.resolve = before.resolve) {check : Check} {files : Files} {early late : Verification}
    (passed : (verifyCheck first before check files).2 = .ok early)
    (again : (verifyCheck second after check files).2 = .ok late) :
    late = early ↔ ∀ argv timeout, check = .commandSucceeds argv timeout →
      recordedOutput second argv files = recordedOutput first argv files := by
  cases check with
  | commandSucceeds argv timeout =>
    obtain ⟨stdout, stderr, ended, rfl⟩ := verifyCommandSucceeds_ok passed
    obtain ⟨stdout', stderr', ended', rfl⟩ := verifyCommandSucceeds_ok again
    have outputs : recordedOutput second argv files = recordedOutput first argv files ↔
        boundedOutput stdout' = boundedOutput stdout ∧ boundedOutput stderr' = boundedOutput stderr := by
      rw [recordedOutput, recordedOutput, ended, ended', Option.some.injEq, Prod.mk.injEq]
    have evidence : (∀ other limit, Check.commandSucceeds argv timeout = .commandSucceeds other limit →
        recordedOutput second other files = recordedOutput first other files) ↔
        recordedOutput second argv files = recordedOutput first argv files := by
      constructor
      · exact fun all => all argv timeout rfl
      · intro same other limit named
        cases named
        exact same
    rw [evidence, outputs, ← diagnostics_eq_iff argv timeout 0]
    simp
  | fileExists path =>
    have same : verifyExists before files path = verifyExists after files path := by
      rw [verifyExists, verifyExists, acceptanceTarget, acceptanceTarget, links]
    have found : verifyExists before files path = .ok early := passed
    have refound : verifyExists after files path = .ok late := again
    rw [same, refound] at found
    cases found
    exact ⟨(fun _ _ _ => nofun), fun _ => rfl⟩
  | text type path expected =>
    have same : verifyTextCheck before files type path expected =
        verifyTextCheck after files type path expected := by
      rw [verifyTextCheck, verifyTextCheck, acceptanceTarget, acceptanceTarget, links]
    have found : verifyTextCheck before files type path expected = .ok early := passed
    have refound : verifyTextCheck after files type path expected = .ok late := again
    rw [same, refound] at found
    cases found
    exact ⟨(fun _ _ _ => nofun), fun _ => rfl⟩

/-- The commands of the checks leave the same record of their outputs. -/
def Agree (first second : Commands) (checks : List Check) (files : Files) : Prop :=
  ∀ argv timeout, .commandSucceeds argv timeout ∈ checks →
    recordedOutput second argv files = recordedOutput first argv files

/-- Two runs of the checks that pass on the same files leave the same evidence exactly when
the outputs agree. -/
theorem verifyChecks_agree {first second : Commands} (silent : first.Silent) (quiet : second.Silent)
    {before after : Checkout} (links : after.resolve = before.resolve) {checks : List Check} {files : Files}
    {early late : List Verification} (passed : (verifyChecks first before checks files).2 = .ok early)
    (again : (verifyChecks second after checks files).2 = .ok late) :
    late = early ↔ Agree first second checks files := by
  induction checks generalizing early late with
  | nil =>
    cases passed
    cases again
    exact ⟨(fun _ _ => nofun), fun _ => rfl⟩
  | cons check rest ih =>
    obtain ⟨one, more, checked, others, rfl⟩ := verifyChecks_cons silent passed
    obtain ⟨one', more', checked', others', rfl⟩ := verifyChecks_cons quiet again
    rw [List.cons.injEq, verifyCheck_agree links checked checked', ih others others']
    constructor
    · rintro ⟨here, there⟩ argv timeout member
      rcases List.mem_cons.mp member with same | later
      · exact here argv timeout same.symm
      · exact there argv timeout later
    · intro all
      exact ⟨fun argv timeout same => all argv timeout (same ▸ List.mem_cons_self),
        fun argv timeout later => all argv timeout (List.mem_cons_of_mem _ later)⟩

end Lucius.Acceptance

namespace Lucius.ControlledCommit

open Worktree Acceptance Lucius.Action

/-- Neither another process nor a command of the checks changes a file or a link. -/
structure FilesKept (env : Environment) : Prop where
  others : ∀ point repository, (env.others point repository).files = repository.files ∧
    (env.others point repository).resolve = repository.resolve
  commands : ∀ phase, (env.commands phase).Silent

/-- The preflight ends with a context. -/
def Prepares (env : Environment) (request : ControlledCommitRequest) (scene : Scene)
    (context : CommitContext) (prepared : Scene) : Prop :=
  ∃ middle, exec (audit env request "CONTROLLED_COMMIT_REQUESTED" "REQUESTED") scene = (.ok (), middle) ∧
    exec (preflight env request) middle = (.ok context, prepared)

/-- The commit is made, and its verification starts. -/
def Creates (env : Environment) (request : ControlledCommitRequest) (scene : Scene)
    (context : CommitContext) (resulting : String) (created : Scene) : Prop :=
  ∃ start staged, Stages env request scene context start ∧
    exec (stageManifest env context) start = (.ok (), staged) ∧
    exec (createLocalCommit env context) staged = (.ok resulting, created)

/-- A verification raises that the acceptance has drifted. -/
def RejectedForDrift (env : Environment) (request : ControlledCommitRequest) (scene : Scene) : Prop :=
  ∃ context,
    (∃ prepared left, Prepares env request scene context prepared ∧
      exec (verifyPreCommitState env context) prepared =
        (.error (.blocked "DETERMINISTIC_ACCEPTANCE_DRIFT"), left)) ∨
    (∃ resulting created left, Creates env request scene context resulting created ∧
      exec (verifyPostCommit env context resulting) created =
        (.error (.blocked "POST_COMMIT_DETERMINISTIC_ACCEPTANCE_DRIFT"), left))

/-- The call gets as far as running the checks again. -/
inductive Reaches (env : Environment) (request : ControlledCommitRequest) (scene : Scene)
    (context : CommitContext) : Phase → Scene → Prop where
  | preCommit {prepared start : Scene} (prepares : Prepares env request scene context prepared)
      (unmoved : exec (verifyUnmoved env context) prepared = (.ok (), start)) :
      Reaches env request scene context .preCommit start
  | postCommit {resulting : String} {committed : List String} {created start : Scene}
      (creates : Creates env request scene context resulting created)
      (verified : exec (verifyCommitted env context resulting) created = (.ok committed, start)) :
      Reaches env request scene context .postCommit start

def Passes (env : Environment) (phase : Phase) (checks : List Check) (start : Scene) : Prop :=
  ∃ evidence after, exec (verifyAcceptance env phase checks) start = (.ok evidence, after)

/-- A repository with the files and the links of another one. -/
def SameFiles (before after : Repository) : Prop :=
  after.files = before.files ∧ after.resolve = before.resolve

/-- The files stay, and every look finds them. -/
structure Steady (before after : Scene) : Prop where
  files : SameFiles before.repository after.repository
  seen : ∃ more, after.sights = before.sights ++ more ∧
    ∀ sight ∈ more, SameFiles before.repository sight.repository

theorem steady_refl (scene : Scene) : Steady scene scene :=
  ⟨⟨rfl, rfl⟩, [], (List.append_nil _).symm, nofun⟩

theorem steady_trans (first second third : Scene) (one : Steady first second) (two : Steady second third) :
    Steady first third := by
  obtain ⟨files, front, left, early⟩ := one
  obtain ⟨files', back, right, late⟩ := two
  refine ⟨⟨files'.1.trans files.1, files'.2.trans files.2⟩, front ++ back,
    by rw [right, left, List.append_assoc], ?_⟩
  intro sight member
  rcases List.mem_append.mp member with before | after
  · exact early sight before
  · exact ⟨(late sight after).1.trans files.1, (late sight after).2.trans files.2⟩

theorem Noted.steady {before after : Scene} (noted : Noted before after) : Steady before after := by
  refine ⟨?_, [], by rw [noted.sights, List.append_nil], nofun⟩
  rw [noted.repository]
  exact ⟨rfl, rfl⟩

variable {env : Environment}

section

variable (kept : FilesKept env) {request : ControlledCommitRequest} {scene prepared : Scene}
  {context : CommitContext}
include kept

theorem steady_frame : Frame env Steady where
  reflexive := steady_refl
  transitive := steady_trans
  reached point scene := by
    refine ⟨kept.others point scene.repository, [⟨point, env.others point scene.repository⟩], rfl, ?_⟩
    intro sight member
    rw [List.mem_singleton.mp member]
    exact kept.others point scene.repository
  checked phase checks scene := by
    have nothing := acceptance_writes (kept.commands phase) (env.fault (.acceptance phase))
      (scene.repository.checkout env.ignored) checks scene.repository.files
    refine ⟨⟨?_, rfl⟩, [], (List.append_nil _).symm, nofun⟩
    rw [nothing]
    rfl

theorem mutate_steady (point : Point) {change : Repository → Except WorkspaceExc Repository}
    (keeps : ∀ repository changed, change repository = .ok changed → SameFiles repository changed) :
    Respects Steady (mutate env point change) := by
  intro scene
  have start : Steady scene (scene.reached env point) := (steady_frame kept).reached point scene
  rcases mutate_leaves env point change scene with found | ⟨changed, done, left⟩
  · rw [found]
    exact start
  · rw [left]
    exact steady_trans _ _ _ start ⟨keeps _ changed done, [], (List.append_nil _).symm, nofun⟩

theorem stageManifest_steady (context : CommitContext) : Respects Steady (stageManifest env context) := by
  have reads := (steady_frame kept).toReads
  apply bind_respects reads _ (fun _ => stagedManifest_respects reads context)
  apply bind_respects reads (value_respects reads _)
  intro validated
  split
  · exact throw_respects reads _
  · apply mutate_steady kept
    intro repository changed done
    cases done
    exact ⟨rfl, rfl⟩

theorem createLocalCommit_steady (context : CommitContext) :
    Respects Steady (createLocalCommit env context) := by
  have reads := (steady_frame kept).toReads
  apply bind_respects reads _ (fun _ => observe_respects reads _ _)
  intro scene
  have unfolded : (exec (makeCommit env context) scene).2 =
      noteCreation context.work.workflow.id context.work.freeze.id
        (scene.reached env .commit).repository.head
        (exec (mutate env .commit (commitStaged env)) scene).2 := rfl
  have left : Steady scene (exec (mutate env .commit (commitStaged env)) scene).2 := by
    apply mutate_steady kept
    intro repository changed done
    unfold commitStaged at done
    split at done
    · cases done
    · cases done
      exact ⟨rfl, rfl⟩
  rw [unfolded, noteCreation]
  split
  · exact left
  · exact ⟨left.files, left.seen⟩

theorem prepares_steady (prepares : Prepares env request scene context prepared) :
    Steady scene prepared := by
  obtain ⟨middle, audited, looked⟩ := prepares
  exact steady_trans _ _ _ (respects_exec (audit_notes env request _ _) audited).steady
    (respects_exec (preflight_respects (steady_frame kept) request) looked)

theorem creates_steady {created : Scene} {resulting : String}
    (creates : Creates env request scene context resulting created) : Steady scene created := by
  obtain ⟨start, staged, ⟨middle, prepared, audited, looked, verified⟩, staging, creating⟩ := creates
  have begun : Steady scene prepared := prepares_steady kept ⟨middle, audited, looked⟩
  have checked : Steady prepared start :=
    respects_exec (preCommit_respects (steady_frame kept) context) verified
  have added : Steady start staged := respects_exec (stageManifest_steady kept context) staging
  have made : Steady staged created := respects_exec (createLocalCommit_steady kept context) creating
  exact steady_trans _ _ _ begun (steady_trans _ _ _ checked (steady_trans _ _ _ added made))

theorem reaches_steady {start : Scene}
    {phase : Phase} (reaches : Reaches env request scene context phase start) : Steady scene start := by
  cases reaches with
  | preCommit prepares unmoved =>
    exact steady_trans _ _ _ (prepares_steady kept prepares)
      (respects_exec (unmoved_respects (steady_frame kept).toReads context) unmoved)
  | postCommit creates verified =>
    exact steady_trans _ _ _ (creates_steady kept creates)
      (respects_exec (committed_respects (steady_frame kept).toReads context _) verified)

theorem prepares_evidence (prepares : Prepares env request scene context prepared) :
    ∃ checkout : Checkout, checkout.resolve = scene.repository.resolve ∧
      (verifyChecks (env.commands .preflight) checkout context.acceptanceChecks
        scene.repository.files).2 = .ok context.deterministicAcceptance := by
  obtain ⟨middle, audited, looked⟩ := prepares
  have noted : Noted scene middle := respects_exec (audit_notes env request _ _) audited
  obtain ⟨files, more, extended, found⟩ :=
    respects_exec (preflight_respects (steady_frame kept) request) looked
  obtain ⟨early, repository, late, sights, passed, -⟩ := (preflight_ok looked).hashes
  have same : SameFiles middle.repository repository := by
    have split : more = early ++ ⟨.acceptance .preflight, repository⟩ :: late := by
      rw [sights, List.append_assoc] at extended
      exact (List.append_cancel_left extended).symm
    exact found ⟨.acceptance .preflight, repository⟩ (by rw [split]; simp)
  rw [noted.repository] at same
  refine ⟨repository.checkout env.ignored, same.2, ?_⟩
  rw [← same.1]
  exact passed

/-- The evidence of a later verification differs from that of the preflight exactly when
the outputs differ. -/
theorem evidence_agrees {start after : Scene} {phase : Phase} {evidence : List Verification}
    (prepares : Prepares env request scene context prepared) (steady : Steady scene start)
    (passed : exec (verifyAcceptance env phase context.acceptanceChecks) start = (.ok evidence, after)) :
    evidence = context.deterministicAcceptance ↔
      Agree (env.commands .preflight) (env.commands phase) context.acceptanceChecks
        scene.repository.files := by
  obtain ⟨checkout, links, early⟩ := prepares_evidence kept prepares
  obtain ⟨-, verified⟩ := acceptance_ok passed
  have faultless := passed_faultless verified
  rw [faultless] at verified
  have same : SameFiles scene.repository (start.reached env (.acceptance phase)).repository :=
    (steady_trans _ _ _ steady ((steady_frame kept).reached _ start)).files
  rw [same.1] at verified
  exact verifyChecks_agree (kept.commands .preflight) (kept.commands phase) (same.2.trans links.symm)
    early verified

end

theorem Creates.prepares {request : ControlledCommitRequest} {scene created : Scene}
    {context : CommitContext} {resulting : String}
    (creates : Creates env request scene context resulting created) :
    ∃ prepared, Prepares env request scene context prepared := by
  obtain ⟨start, staged, ⟨middle, prepared, audited, looked, -⟩, -, -⟩ := creates
  exact ⟨prepared, middle, audited, looked⟩

theorem Reaches.prepares {request : ControlledCommitRequest} {scene start : Scene} {context : CommitContext}
    {phase : Phase} (reaches : Reaches env request scene context phase start) :
    ∃ prepared, Prepares env request scene context prepared := by
  cases reaches with
  | preCommit prepares unmoved => exact ⟨_, prepares⟩
  | postCommit creates verified => exact creates.prepares

/-- The action does not raise that a reason blocks the call. -/
def Spares {α : Type} (reason : String) (action : Committing α) : Prop :=
  ∀ scene left, exec action scene ≠ (.error (.blocked reason), left)

section

variable {reason : String}

theorem spares_pure {α : Type} (value : α) : Spares reason (pure value : Committing α) :=
  fun _ _ raised => nomatch raised

theorem spares_throw {α : Type} {error : CommitExc} (other : error ≠ .blocked reason) :
    Spares reason (throw error : Committing α) := by
  intro scene left raised
  have same : (.error error : Except CommitExc α) = .error (.blocked reason) := congrArg Prod.fst raised
  cases same
  exact other rfl

theorem spares_bind {α β : Type} {first : Committing α} {next : α → Committing β}
    (before : Spares reason first) (later : ∀ value, Spares reason (next value)) :
    Spares reason (first >>= next) := by
  intro scene left raised
  rcases ended : exec first scene with ⟨error | value, middle⟩
  · rw [exec_bind_of_error ended] at raised
    cases raised
    exact before scene left ended
  · rw [exec_bind_of_ok ended] at raised
    exact later value middle left raised

theorem lift_spares {α : Type} (value : Except WorkspaceExc α) :
    Spares reason (Action.ofExcept (lift value)) := by
  cases value with
  | error error => exact spares_throw (fun same => nomatch same)
  | ok value => exact spares_pure value

theorem observe_spares {α : Type} (point : Point)
    (read : Option ReadFault → Repository → Except WorkspaceExc α) :
    Spares reason (observe env point read) := by
  intro scene left
  exact lift_spares _ (scene.reached env point) left

theorem acceptance_spares (phase : Phase) (checks : List Check) :
    Spares reason (verifyAcceptance env phase checks) := by
  intro scene left
  exact lift_spares _ _ left

theorem untracked_spares (phase : Phase) (hashes : List (String × String)) :
    Spares reason (verifyUntracked env phase hashes) :=
  spares_bind (observe_spares _ _) (fun _ => spares_pure _)

theorem hashes_spare {hash : String → Committing String} (looks : ∀ path, Spares reason (hash path))
    {other : String} (different : other ≠ reason) (expected : List (String × String)) :
    Spares reason (verifyHashes hash other expected) := by
  induction expected with
  | nil => exact spares_pure _
  | cons entry rest ih =>
    apply spares_bind (looks _)
    intro observed
    split
    · exact spares_throw (fun same => different (CommitExc.blocked.inj same))
    · exact ih

end

theorem unmoved_spares (context : CommitContext) :
    Spares "DETERMINISTIC_ACCEPTANCE_DRIFT" (verifyUnmoved env context) := by
  apply spares_bind (observe_spares _ _)
  intro head
  split
  · exact spares_throw (by simp)
  · apply spares_bind (observe_spares _ _)
    intro staged
    split
    · exact spares_throw (by simp)
    · apply spares_bind (untracked_spares _ _)
      intro _
      apply spares_bind (observe_spares _ _)
      intro observed
      split
      · exact spares_throw (by simp)
      · exact spares_pure _

theorem committed_spares (context : CommitContext) (resulting : String) :
    Spares "POST_COMMIT_DETERMINISTIC_ACCEPTANCE_DRIFT" (verifyCommitted env context resulting) := by
  unfold verifyCommitted
  split
  · exact spares_throw (by simp)
  · apply spares_bind (observe_spares _ _)
    intro head
    split
    · exact spares_bind (observe_spares _ _) (fun _ => spares_throw (by simp))
    · apply spares_bind (observe_spares _ _)
      intro parents
      split
      · exact spares_throw (by simp)
      · apply spares_bind (observe_spares _ _)
        intro committed
        split
        · exact spares_throw (by simp)
        · split
          · exact spares_throw (by simp)
          · exact spares_bind (hashes_spare (fun _ => observe_spares _ _) (by decide) _)
              (fun _ => spares_pure _)

theorem cleanWorktree_spares (context : CommitContext) (resulting : String) :
    Spares "POST_COMMIT_DETERMINISTIC_ACCEPTANCE_DRIFT" (verifyCleanWorktree env context resulting) := by
  apply spares_bind (untracked_spares _ _)
  intro _
  apply spares_bind (observe_spares _ _)
  intro remaining
  split
  · exact spares_throw (by simp)
  · apply spares_bind (observe_spares _ _)
    intro last
    split
    · exact spares_bind (observe_spares _ _) (fun _ => spares_throw (by simp))
    · exact spares_pure _

theorem compared_drift {α β : Type} (env : Environment) (context : CommitContext) (phase : Phase)
    {reason : String} {first : Committing α} {last : α → Committing β} (before : Spares reason first)
    (later : ∀ value, Spares reason (last value)) (scene : Scene) :
    (∃ left, exec (first >>= fun value => verifyAcceptance env phase context.acceptanceChecks >>= fun evidence =>
        if evidence ≠ context.deterministicAcceptance then throw (.blocked reason) else last value) scene =
      (.error (.blocked reason), left)) ↔
    ∃ value start evidence after, exec first scene = (.ok value, start) ∧
      exec (verifyAcceptance env phase context.acceptanceChecks) start = (.ok evidence, after) ∧
      evidence ≠ context.deterministicAcceptance := by
  constructor
  · rintro ⟨left, raised⟩
    rcases began : exec first scene with ⟨error | value, start⟩
    · rw [exec_bind_of_error began] at raised
      cases raised
      exact (before scene left began).elim
    · rw [exec_bind_of_ok began] at raised
      rcases passed : exec (verifyAcceptance env phase context.acceptanceChecks) start with
        ⟨error | evidence, after⟩
      · rw [exec_bind_of_error passed] at raised
        cases raised
        exact (acceptance_spares phase context.acceptanceChecks start left passed).elim
      · rw [exec_bind_of_ok passed] at raised
        by_cases same : evidence = context.deterministicAcceptance
        · rw [if_neg (fun different => different same)] at raised
          exact (later value after left raised).elim
        · exact ⟨value, start, evidence, after, rfl, passed, same⟩
  · rintro ⟨value, start, evidence, after, began, passed, different⟩
    refine ⟨after, ?_⟩
    rw [exec_bind_of_ok began, exec_bind_of_ok passed, if_pos different]
    rfl

theorem preCommit_drift (context : CommitContext) (prepared : Scene) :
    (∃ left, exec (verifyPreCommitState env context) prepared =
      (.error (.blocked "DETERMINISTIC_ACCEPTANCE_DRIFT"), left)) ↔
    ∃ start evidence after, exec (verifyUnmoved env context) prepared = (.ok (), start) ∧
      exec (verifyAcceptance env .preCommit context.acceptanceChecks) start = (.ok evidence, after) ∧
      evidence ≠ context.deterministicAcceptance := by
  have hashing : ∀ _ : Unit, Spares "DETERMINISTIC_ACCEPTANCE_DRIFT" (verifyHashes (hashFile env .preCommit)
      "CANONICAL_CONTENT_HASH_DRIFT" context.manifest.pathContentHashes) :=
    fun _ => hashes_spare (fun _ => observe_spares _ _) (by decide) _
  have looking : Spares "DETERMINISTIC_ACCEPTANCE_DRIFT" (verifyUnmoved env context) := unmoved_spares context
  have compared := compared_drift env context .preCommit looking hashing prepared
  exact compared.trans ⟨fun ⟨_, rest⟩ => rest, fun rest => ⟨(), rest⟩⟩

theorem postCommit_drift (context : CommitContext) (resulting : String) (created : Scene) :
    (∃ left, exec (verifyPostCommit env context resulting) created =
      (.error (.blocked "POST_COMMIT_DETERMINISTIC_ACCEPTANCE_DRIFT"), left)) ↔
    ∃ committed start evidence after,
      exec (verifyCommitted env context resulting) created = (.ok committed, start) ∧
      exec (verifyAcceptance env .postCommit context.acceptanceChecks) start = (.ok evidence, after) ∧
      evidence ≠ context.deterministicAcceptance :=
  compared_drift env context .postCommit (committed_spares context resulting)
    (fun _ => spares_bind (cleanWorktree_spares _ _) (fun _ => spares_pure _)) created

theorem Creates.passes {request : ControlledCommitRequest} {scene created : Scene}
    {context : CommitContext} {resulting : String}
    (creates : Creates env request scene context resulting created) :
    ∃ start, Reaches env request scene context .preCommit start ∧
      Passes env .preCommit context.acceptanceChecks start := by
  obtain ⟨first, staged, ⟨middle, prepared, audited, looked, verified⟩, -, -⟩ := creates
  obtain ⟨nothing, start, unmoved, rest⟩ := bind_ok verified
  obtain ⟨evidence, after, passed, -⟩ := bind_ok rest
  exact ⟨start, .preCommit ⟨middle, audited, looked⟩ unmoved, evidence, after, passed⟩

def testedPayload : Json := .obj [
  ("affected_files", .arr [.obj [("path", .str "a.md")]]),
  ("deterministic_acceptance_checks", .arr [
    .obj [("type", .str "file_exists"), ("path", .str "a.md")],
    .obj [("type", .str "command_succeeds"), ("timeout_seconds", .int 60),
      ("argv", .arr [.str ".venv/bin/python", .str "-m", .str "pytest", .str "-q"])]])]

def testedScene : Scene :=
  { notesScene with
    store := { toTables := { notesTables with
      freezes := Table.empty.add
        { id := "LFREEZE_000001", planId := "LPLAN_000001", taskId := "LTASK_000001"
          projectId := "LPROJ_000001", commitSha := some "base", planPayload := testedPayload } } } }

/-- The tests pass each time, and print how long they took. -/
def timed (printed : Phase → String) : Environment :=
  { calm with commands := fun phase => ⟨fun _ => true, fun _ _ => ([], .exited 0 (printed phase))⟩ }

theorem timed_kept (printed : Phase → String) : FilesKept (timed printed) :=
  ⟨fun _ _ => ⟨rfl, rfl⟩, fun _ _ _ => rfl⟩

def reported (env : Environment) : Option (CommitStatus × Option String) :=
  (exec (commit env notesRequest) testedScene).1.toOption.map (fun result => (result.status, result.reason))

/-- The reason for which the verification after the commit stops a call. -/
def refusalAfter (env : Environment) : Option String :=
  match exec (audit env notesRequest "CONTROLLED_COMMIT_REQUESTED" "REQUESTED") testedScene with
  | (.error _, _) => none
  | (.ok _, middle) =>
    match exec (preflight env notesRequest) middle with
    | (.error _, _) => none
    | (.ok context, prepared) =>
      match exec (verifyPreCommitState env context) prepared with
      | (.error _, _) => none
      | (.ok _, start) =>
        match exec (stageManifest env context) start with
        | (.error _, _) => none
        | (.ok _, staged) =>
          match exec (createLocalCommit env context) staged with
          | (.error _, _) => none
          | (.ok resulting, created) =>
            match (exec (verifyPostCommit env context resulting) created).1 with
            | .error (.blocked reason) => some reason
            | _ => none

theorem refusalAfter_raised {reason : String} (refused : refusalAfter env = some reason) :
    ∃ context resulting created left, Creates env notesRequest testedScene context resulting created ∧
      exec (verifyPostCommit env context resulting) created = (.error (.blocked reason), left) := by
  unfold refusalAfter at refused
  split at refused
  · cases refused
  · rename_i nothing middle audited
    split at refused
    · cases refused
    · rename_i context prepared looked
      split at refused
      · cases refused
      · rename_i nothing start verified
        split at refused
        · cases refused
        · rename_i nothing staged staging
          split at refused
          · cases refused
          · rename_i resulting created creating
            split at refused
            · rename_i found raised
              cases refused
              exact ⟨context, resulting, created, _,
                ⟨start, staged, ⟨middle, prepared, audited, looked, verified⟩, staging, creating⟩,
                Prod.ext raised rfl⟩
            · cases refused

/-- Tests that pass before the commit and after it, and take longer the last time. -/
def slower : Environment :=
  timed (fun phase => if phase = .postCommit then "1 passed in 0.02s" else "1 passed in 0.01s")

end Lucius.ControlledCommit
