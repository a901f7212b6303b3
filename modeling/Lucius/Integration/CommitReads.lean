import Lucius.Integration.CommitSteps

/-! What the looks of a controlled commit have found when they end normally. -/

namespace Lucius.ControlledCommit

open Worktree Acceptance Lucius.Action

variable {scene after : Scene} {nothing : Unit} {phase : Phase} {request : ControlledCommitRequest}

theorem lift_ok {α : Type} {value : Except WorkspaceExc α} {result : α} (done : lift value = .ok result) :
    value = .ok result := by
  cases value with
  | error error => cases done
  | ok held =>
    cases done
    rfl

variable {env : Environment}

theorem observe_ok {α : Type} {point : Point} {read : Option ReadFault → Repository → Except WorkspaceExc α} {result : α} (done : exec (observe env point read) scene = (.ok result, after)) :
    after = scene.reached env point ∧
      read (env.fault point) (scene.reached env point).repository = .ok result := by
  have unfolded : exec (observe env point read) scene =
      exec (Action.ofExcept (lift (read (env.fault point) (scene.reached env point).repository)))
        (scene.reached env point) := rfl
  rw [unfolded] at done
  obtain ⟨found, same⟩ := ok_ofExcept done
  exact ⟨same, lift_ok found⟩

theorem failing_ok {fault : Option ReadFault} (done : failing fault = .ok nothing) :
    fault = none := by
  cases fault with
  | none => rfl
  | some fault => cases done

theorem observeHead_ok {point : Point} {head : String}
    (done : exec (observeHead env point) scene = (.ok head, after)) :
    after = scene.reached env point ∧ head = (scene.reached env point).repository.head := by
  obtain ⟨same, found⟩ := observe_ok done
  obtain ⟨nothing, -, returned⟩ := except_bind_ok found
  cases returned
  exact ⟨same, rfl⟩

theorem untracked_ok {hashes : List (String × String)}
    (done : exec (verifyUntracked env phase hashes) scene = (.ok nothing, after)) :
    after = scene.reached env (.untracked phase) ∧ ∃ current,
      verifyUntrackedFileHashes (env.fault (.untracked phase)) env.sha256
        (after.repository.checkout env.ignored) after.repository.files hashes = .ok current := by
  obtain ⟨current, middle, observed, rest⟩ := bind_ok done
  obtain ⟨same, found⟩ := observe_ok observed
  obtain ⟨-, left⟩ := ok_pure rest
  subst left
  subst same
  exact ⟨rfl, current, found⟩

theorem passed_faultless {fault : Option ReadFault} {commands : Commands} {checkout : Checkout}
    {checks : List Check} {files : Files} {evidence : List Verification}
    (passed : (verifyDeterministicAcceptance fault commands checkout checks files).2 = .ok evidence) :
    fault = none := by
  have ended : verifyDeterministicAcceptance fault commands checkout checks files =
      ((verifyDeterministicAcceptance fault commands checkout checks files).1, .ok evidence) :=
    Prod.ext rfl passed
  obtain ⟨nothing, quiet, -⟩ := Journal.bind_ofExcept_ok ended
  exact failing_ok quiet

theorem acceptance_ok {checks : List Check}
    {evidence : List Verification}
    (done : exec (verifyAcceptance env phase checks) scene = (.ok evidence, after)) :
    after.sights = (scene.reached env (.acceptance phase)).sights ∧
      (verifyDeterministicAcceptance (env.fault (.acceptance phase)) (env.commands phase)
        ((scene.reached env (.acceptance phase)).repository.checkout env.ignored) checks
        (scene.reached env (.acceptance phase)).repository.files).2 = .ok evidence := by
  let before := scene.reached env (.acceptance phase)
  let outcome := verifyDeterministicAcceptance (env.fault (.acceptance phase)) (env.commands phase)
    (before.repository.checkout env.ignored) checks before.repository.files
  have unfolded : exec (verifyAcceptance env phase checks) scene =
      exec (Action.ofExcept (lift outcome.2))
        { before with
          repository := { before.repository with
            files := Updates.applyAll before.repository.files outcome.1 } } := rfl
  rw [unfolded] at done
  obtain ⟨found, same⟩ := ok_ofExcept done
  rw [same]
  exact ⟨rfl, lift_ok found⟩

/-- The hash of a file of the working tree, in a look that has been taken. -/
def HashSeen (env : Environment) (phase : Phase) (sights : List Sight) (path hash : String) : Prop :=
  ∃ repository, ⟨.fileHash phase path, repository⟩ ∈ sights ∧
    workspaceFileSha256 env.sha256 (repository.checkout env.ignored) repository.files path = .ok hash

theorem hashFile_ok {path hash : String}
    (done : exec (hashFile env phase path) scene = (.ok hash, after)) :
    after = scene.reached env (.fileHash phase path) ∧
      workspaceFileSha256 env.sha256 (after.repository.checkout env.ignored) after.repository.files path =
        .ok hash := by
  obtain ⟨same, found⟩ := observe_ok done
  obtain ⟨nothing, -, hashed⟩ := except_bind_ok found
  subst same
  exact ⟨rfl, hashed⟩

theorem hashFiles_ok {paths : List String}
    {hashes : List (String × String)}
    (done : exec (hashFiles env phase paths) scene = (.ok hashes, after)) :
    hashes.map Prod.fst = paths ∧ ∃ more, after.sights = scene.sights ++ more ∧
      ∀ entry ∈ hashes, HashSeen env phase more entry.1 entry.2 := by
  induction paths generalizing scene hashes with
  | nil =>
    obtain ⟨rfl, rfl⟩ := ok_pure done
    exact ⟨rfl, [], (List.append_nil _).symm, fun _ member => nomatch member⟩
  | cons path rest ih =>
    obtain ⟨hash, middle, first, tail⟩ := bind_ok done
    obtain ⟨later, last, others, returned⟩ := bind_ok tail
    obtain ⟨rfl, rfl⟩ := ok_pure returned
    obtain ⟨same, hashed⟩ := hashFile_ok first
    obtain ⟨named, more, extended, seen⟩ := ih others
    refine ⟨by rw [List.map_cons, named], ⟨.fileHash phase path, middle.repository⟩ :: more, ?_, ?_⟩
    · rw [extended, same]
      simp [Scene.reached]
    · intro entry member
      rcases List.mem_cons.mp member with here | there
      · subst here
        exact ⟨middle.repository, List.mem_cons_self, hashed⟩
      · obtain ⟨repository, found, known⟩ := seen entry there
        exact ⟨repository, List.mem_cons_of_mem _ found, known⟩

/-- Commits stay, and a look that was taken stays taken. -/
structure Grows (before after : Scene) : Prop where
  commits : CommitsKept before.repository after.repository
  sights : ∃ more, after.sights = before.sights ++ more

theorem grows_trans (first second third : Scene) (one : Grows first second) (two : Grows second third) :
    Grows first third := by
  obtain ⟨front, left⟩ := one.sights
  obtain ⟨back, right⟩ := two.sights
  exact ⟨commitsKept_trans one.commits two.commits, front ++ back,
    by rw [right, left, List.append_assoc]⟩

theorem grows_refl (scene : Scene) : Grows scene scene :=
  ⟨fun _ _ found => found, [], (List.append_nil _).symm⟩

theorem grows_frame (env : Environment) : Frame env Grows where
  reflexive := grows_refl
  transitive := grows_trans
  reached point scene := ⟨env.others_keep point scene.repository, _, rfl⟩
  checked _ _ _ := ⟨fun _ _ found => found, [], (List.append_nil _).symm⟩

/-- A look taken between two scenes. -/
def Looked (before after : Scene) (sight : Sight) : Prop :=
  ∃ looks, after.sights = before.sights ++ looks ∧ sight ∈ looks

theorem Looked.onward {first second third : Scene} {sight : Sight} (looked : Looked first second sight)
    (grows : Grows second third) : Looked first third sight := by
  obtain ⟨front, left, member⟩ := looked
  obtain ⟨back, right⟩ := grows.sights
  exact ⟨front ++ back, by rw [right, left, List.append_assoc], List.mem_append_left _ member⟩

theorem Looked.since {first second third : Scene} {sight : Sight} (looked : Looked second third sight)
    (grows : Grows first second) : Looked first third sight := by
  obtain ⟨back, right, member⟩ := looked
  obtain ⟨front, left⟩ := grows.sights
  exact ⟨front ++ back, by rw [right, left, List.append_assoc], List.mem_append_right _ member⟩

theorem reached_looked (env : Environment) (point : Point) (scene : Scene) :
    Looked scene (scene.reached env point) ⟨point, (scene.reached env point).repository⟩ :=
  ⟨_, rfl, List.mem_singleton.mpr rfl⟩

theorem verifyHashes_ok (env : Environment) {hash : String → Committing String} {reason : String}
    (looks : ∀ path, Respects Grows (hash path)) {expected : List (String × String)}
    (done : exec (verifyHashes hash reason expected) scene = (.ok nothing, after)) :
    ∀ entry ∈ expected, ∃ before later, exec (hash entry.1) before = (.ok entry.2, later) ∧
      Grows scene later ∧ Grows later after := by
  induction expected generalizing scene with
  | nil => exact fun _ member => nomatch member
  | cons entry rest ih =>
    obtain ⟨observed, middle, found, tail⟩ := bind_ok done
    have first : Grows scene middle := respects_exec (looks entry.1) found
    by_cases same : observed = entry.2
    · rw [if_neg (fun different => different same)] at tail
      intro other member
      rcases List.mem_cons.mp member with here | there
      · subst here
        exact ⟨scene, middle, same ▸ found, first,
          respects_exec (verifyHashes_respects (grows_frame env).toReads looks reason rest) tail⟩
      · obtain ⟨before, later, taken, since, until_end⟩ := ih tail other there
        exact ⟨before, later, taken, grows_trans _ _ _ first since, until_end⟩
    · rw [if_pos same] at tail
      exact (not_ok_throw tail).elim

/-- What a preflight that ends normally has established. -/
structure Prepared (env : Environment) (request : ControlledCommitRequest) (scene : Scene)
    (context : CommitContext) (after : Scene) : Prop where
  rows : preflightRows env request scene.store.toTables =
    .ok (context.work, context.authorizedPaths, context.acceptanceChecks)
  head : (scene.reached env (.head .preflight)).repository.head = request.expectedBaselineCommit
  made : context = contextOf env request context.work context.authorizedPaths context.acceptanceChecks
    context.manifest.actualChangedPaths context.deterministicAcceptance context.commitMessage
    context.manifest.pathContentHashes
  authorized : ∀ path ∈ context.manifest.actualChangedPaths, path ∈ context.authorizedPaths
  covered : ∀ path ∈ context.manifest.actualChangedPaths,
    path ∈ acceptanceCheckPaths context.acceptanceChecks
  hashed : context.manifest.pathContentHashes.map Prod.fst = context.manifest.actualChangedPaths
  changed : ∃ repository observed, Looked scene after ⟨.changes .preflight, repository⟩ ∧
    changedPaths none (repository.checkout env.ignored) repository.files = .ok observed ∧
    context.manifest.actualChangedPaths = unprotected observed request.protectedUntrackedHashes
  untracked : ∃ repository current, Looked scene after ⟨.untracked .preflight, repository⟩ ∧
    verifyUntrackedFileHashes none env.sha256 (repository.checkout env.ignored) repository.files
      request.protectedUntrackedHashes = .ok current
  hashes : ∃ early repository late,
    after.sights = scene.sights ++ early ++ ⟨.acceptance .preflight, repository⟩ :: late ∧
    (verifyDeterministicAcceptance none (env.commands .preflight) (repository.checkout env.ignored)
      context.acceptanceChecks repository.files).2 = .ok context.deterministicAcceptance ∧
    ∀ entry ∈ context.manifest.pathContentHashes, HashSeen env .preflight late entry.1 entry.2

theorem requireHead_ok {authorized : List String}
    (done : exec (requireHead env request authorized) scene = (.ok nothing, after)) :
    after = scene.reached env (.head .preflight) ∧
      after.repository.head = request.expectedBaselineCommit := by
  obtain ⟨head, middle, observed, rest⟩ := bind_ok done
  obtain ⟨reached, found⟩ := observeHead_ok observed
  by_cases same : head = request.expectedBaselineCommit
  · rw [if_neg (fun different => different same)] at rest
    obtain ⟨-, left⟩ := ok_pure rest
    rw [left, reached]
    exact ⟨rfl, found.symm.trans same⟩
  · rw [if_pos same] at rest
    obtain ⟨missing, last, -, thrown⟩ := bind_ok rest
    split at thrown
    · exact (not_ok_throw thrown).elim
    · exact (not_ok_throw thrown).elim

theorem changedPaths_ok {authorized actual : List String}
    (done : exec (observeChangedPaths env request authorized) scene = (.ok actual, after)) :
    (∀ path ∈ actual, path ∈ authorized) ∧
    (∃ repository observed, Looked scene after ⟨.changes .preflight, repository⟩ ∧
      changedPaths none (repository.checkout env.ignored) repository.files = .ok observed ∧
      actual = unprotected observed request.protectedUntrackedHashes) ∧
    (∃ repository current, Looked scene after ⟨.untracked .preflight, repository⟩ ∧
      verifyUntrackedFileHashes none env.sha256 (repository.checkout env.ignored) repository.files
        request.protectedUntrackedHashes = .ok current) := by
  obtain ⟨staged, first, started, rest⟩ := bind_ok done
  have start : Grows scene first :=
    respects_exec (observe_respects (grows_frame env).toReads _ _) started
  split at rest
  · exact (not_ok_throw rest).elim
  · split at rest
    · exact (not_ok_throw rest).elim
    · obtain ⟨nothing, second, verified, rest⟩ := bind_ok rest
      have verifying : Grows first second :=
        respects_exec (untracked_respects (grows_frame env).toReads _ _) verified
      obtain ⟨reached, current, untracked⟩ := untracked_ok verified
      obtain ⟨observed, third, looked, rest⟩ := bind_ok rest
      obtain ⟨seen, listed⟩ := observe_ok looked
      dsimp only at rest
      split at rest
      · exact (not_ok_throw rest).elim
      · split at rest
        · exact (not_ok_throw rest).elim
        · rename_i _ _ _ allowed
          obtain ⟨rfl, rfl⟩ := ok_pure rest
          have fine : env.fault (.untracked .preflight) = none := by
            obtain ⟨_, run, -⟩ := except_bind_ok untracked
            obtain ⟨_, ran, -⟩ := except_bind_ok run
            exact failing_ok ran
          have quiet : env.fault (.changes .preflight) = none := by
            obtain ⟨_, ran, -⟩ := except_bind_ok listed
            exact failing_ok ran
          rw [fine] at untracked
          rw [quiet] at listed
          refine ⟨?_, ⟨(second.reached env (.changes .preflight)).repository, observed, ?_, listed, rfl⟩,
            ⟨second.repository, current, ?_, untracked⟩⟩
          · intro path member
            by_contra outside
            exact allowed (List.any_eq_true.mpr ⟨path, member, decide_eq_true outside⟩)
          · rw [seen]
            exact (reached_looked env _ second).since (grows_trans _ _ _ start verifying)
          · rw [seen]
            apply Looked.onward _ ((grows_frame env).reached _ second)
            rw [reached]
            exact (reached_looked env _ first).since start

theorem preflight_ok {context : CommitContext}
    (done : exec (preflight env request) scene = (.ok context, after)) :
    Prepared env request scene context after := by
  unfold preflight at done
  rw [exec_get_bind] at done
  obtain ⟨⟨work, authorized, checks⟩, rows, rest⟩ := bind_ofExcept_ok done
  obtain ⟨nothing, first, required, rest⟩ := bind_ok rest
  obtain ⟨reached, head⟩ := requireHead_ok required
  obtain ⟨actual, second, listed, rest⟩ := bind_ok rest
  obtain ⟨allowed, changed, untracked⟩ := changedPaths_ok listed
  obtain ⟨evidence, third, verified, rest⟩ := bind_ok rest
  obtain ⟨looked, passed⟩ := acceptance_ok verified
  split at rest
  · exact (not_ok_throw rest).elim
  · rename_i checked
    obtain ⟨message, worded, rest⟩ := bind_ofExcept_ok rest
    obtain ⟨hashes, fourth, taken, returned⟩ := bind_ok rest
    obtain ⟨rfl, rfl⟩ := ok_pure returned
    obtain ⟨named, more, extended, seen⟩ := hashFiles_ok taken
    have requiring : Grows scene first :=
      respects_exec (requireHead_respects (grows_frame env).toReads _ _) required
    have listing : Grows first second :=
      respects_exec (changedPaths_respects (grows_frame env).toReads _ _) listed
    have later : Grows second after := grows_trans _ _ _
      (respects_exec (acceptance_respects (grows_frame env) _ _) verified)
      (respects_exec (hashFiles_respects (grows_frame env).toReads _ _) taken)
    have fine : env.fault (.acceptance .preflight) = none := passed_faultless passed
    refine { rows := rows, head := reached ▸ head, made := rfl, authorized := allowed, covered := ?_,
             hashed := named, changed := ?_, untracked := ?_, hashes := ?_ }
    · intro path member
      by_contra outside
      exact checked (List.any_eq_true.mpr ⟨path, member, decide_eq_true outside⟩)
    · obtain ⟨repository, observed, found, known⟩ := changed
      exact ⟨repository, observed, (found.onward later).since requiring, known⟩
    · obtain ⟨repository, current, found, known⟩ := untracked
      exact ⟨repository, current, (found.onward later).since requiring, known⟩
    · rw [fine] at passed
      obtain ⟨early, begun⟩ := (grows_trans _ _ _ requiring listing).sights
      refine ⟨early, (second.reached env (.acceptance .preflight)).repository, more, ?_, passed, seen⟩
      rw [extended, looked, ← begun]
      simp [Scene.reached]

end Lucius.ControlledCommit
