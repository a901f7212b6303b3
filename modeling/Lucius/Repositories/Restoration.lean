import Lucius.Repositories.GitMutation

/-! What the writes of a call leave in a working tree, and what its rollback leaves. -/

namespace Lucius.Worktree

open Updates

variable {faults : WriteFaults} {files : Files} {updates : List FileUpdate} {checkout : Checkout}
  {path location : String} {directories : String → Bool} {authorized : List String}

def writes (host : Host) (files : List ValidatedFileContent) : List FileUpdate :=
  files.map (·.update host)

/-- What is restored at a path, in the rollback of a commit that has it and in one
that does not. -/
def restoration (checkout : Checkout) (path : String) : List FileUpdate :=
  if checkout.tracked path then baselineUpdate checkout path
  else (checkout.resolve path).toList.map (fun location => (location, none))

/-- The updates of a rollback of the authorized paths, in the order of their names. -/
def restorations (checkout : Checkout) (authorized : List String) : List FileUpdate :=
  match validatedPaths authorized with
  | .ok paths => paths.flatMap (restoration checkout)
  | .error _ => []

theorem writeFile_ok {host : Host} {item : ValidatedFileContent} (done : writeFile host faults item files = (updates, .ok ())) :
    updates = [item.update host] := by
  unfold writeFile at done
  by_cases refused : faults.mkdir item.path = true
  · rw [if_pos refused] at done
    cases done
  · rw [if_neg refused] at done
    cases attempt : faults.write item.path with
    | none =>
      rw [attempt] at done
      cases done
      rfl
    | some left =>
      rw [attempt] at done
      cases done

theorem writeValidatedFileContents_ok {host : Host}
    {items : List ValidatedFileContent}
    {written : List WrittenFile}
    (done : writeValidatedFileContents host faults items files = (updates, .ok written)) :
    updates = writes host items := by
  induction items generalizing files updates written with
  | nil =>
    cases done
    rfl
  | cons item rest ih =>
    obtain ⟨first, _, back, wrote, others, journal⟩ := Journal.bind_ok done
    obtain ⟨later, _, _, remaining, finish, tail⟩ := Journal.bind_ok others
    have here := writeFile_ok wrote
    have rest := ih remaining
    cases finish
    rw [journal, tail, here, rest, List.append_nil]
    rfl

theorem restoreTracked_ok (done : restoreTracked faults checkout path files = (updates, .ok ())) :
    updates = baselineUpdate checkout path := by
  obtain ⟨_, _, made⟩ := Journal.bind_ofExcept_ok done
  cases made
  rfl

theorem same_removal (absent : files.lookup location = none) :
    Same files (applyAll files [(location, none)]) := by
  apply same_symm
  rw [same_applyAll_iff]
  intro key value found
  have member := List.mem_singleton.mp (last_mem found)
  obtain ⟨rfl, rfl⟩ := Prod.mk.inj member
  exact absent.symm

theorem locate_ok
    (found : locate checkout path = .ok location) : checkout.resolve path = some location := by
  unfold locate at found
  split at found
  · rename_i resolved
    cases found
    exact resolved
  · cases found

theorem removeUntracked_ok
    (done : removeUntracked faults directories checkout path files = (updates, .ok ())) :
    Same (applyAll files updates)
      (applyAll files ((checkout.resolve path).toList.map (fun location => (location, none)))) := by
  obtain ⟨target, located, removed⟩ := Journal.bind_ofExcept_ok done
  have resolved := locate_ok located
  rw [Journal.read_bind_apply] at removed
  rw [resolved]
  split at removed
  · split at removed
    · cases removed
    · cases removed
      exact fun _ => rfl
  · rename_i absent
    split at removed
    · cases removed
    · cases removed
      exact same_removal (Option.not_isSome_iff_eq_none.mp absent)

theorem restorePath_ok (done : restorePath faults directories checkout path files = (updates, .ok ())) :
    Same (applyAll files updates) (applyAll files (restoration checkout path)) := by
  unfold restorePath at done
  unfold restoration
  split at done
  · cases done
  · split at done
    · rename_i tracked
      have journal := restoreTracked_ok done
      rw [if_pos tracked, journal]
      exact fun _ => rfl
    · rename_i untracked
      rw [if_neg untracked]
      exact removeUntracked_ok done

theorem restorePaths_ok {paths : List String}
    (done : restorePaths faults directories checkout paths files = (updates, .ok ())) :
    Same (applyAll files updates) (applyAll files (paths.flatMap (restoration checkout))) := by
  induction paths generalizing files updates with
  | nil =>
    cases done
    exact fun _ => rfl
  | cons path rest ih =>
    obtain ⟨front, _, back, here, later, journal⟩ := Journal.bind_ok done
    rw [journal, List.flatMap_cons, applyAll_append, applyAll_append]
    exact same_trans (ih later) (same_applyAll (restorePath_ok here) _)

theorem restoreAuthorizedPathsToBaseline_ok {baselineFault headFault : Option ReadFault} {commit : String}
    (done : restoreAuthorizedPathsToBaseline baselineFault headFault faults directories checkout
      commit authorized files = (updates, .ok ())) :
    Same (applyAll files updates) (applyAll files (restorations checkout authorized)) := by
  obtain ⟨_, _, afterCommit⟩ := Journal.bind_ofExcept_ok done
  obtain ⟨paths, validated, afterPaths⟩ := Journal.bind_ofExcept_ok afterCommit
  obtain ⟨back, _, last, restored, required, journal⟩ := Journal.bind_ok afterPaths
  have finished := (Journal.ok_ofExcept required).2
  rw [restorations, validated, journal, finished, List.append_nil]
  exact restorePaths_ok restored

theorem mem_restorations
    {bytes : Bytes} (member : (location, some bytes) ∈ restorations checkout authorized) :
    checkout.tree.lookup location = some (some bytes) := by
  unfold restorations at member
  split at member
  · obtain ⟨path, _, inside⟩ := List.mem_flatMap.mp member
    unfold restoration at inside
    split at inside
    · unfold baselineUpdate at inside
      split at inside
      · rename_i known
        obtain ⟨rfl, same⟩ := Prod.mk.inj (List.mem_singleton.mp inside)
        cases same
        exact known
      · cases inside
    · obtain ⟨_, _, made⟩ := List.mem_map.mp inside
      cases made
  · cases member

/-- In a tree without changes the restorations leave everything as it was unless they
remove a file. -/
theorem neutral_restorations_iff {before : Files}
    (clean : checkout.diff before = []) :
    Neutral before (restorations checkout authorized) ↔
      ∀ location, last (restorations checkout authorized) location = some none →
        before.lookup location = none := by
  constructor
  · intro neutral location removed
    exact (neutral location none removed).symm
  · intro absent location value found
    cases value with
    | none => exact (absent location found).symm
    | some bytes =>
      have entry := mem_restorations (last_mem found)
      have unchanged : location ∉ checkout.diff before := by
        rw [clean]
        exact List.not_mem_nil
      rw [checkout.diff_regular before location bytes entry, not_not] at unchanged
      exact unchanged.symm

end Lucius.Worktree
