import Lucius.Runtime.DeterministicAcceptance

/-! What the normalisation of checks asks of the authorised paths. -/

namespace Lucius.Acceptance

open Worktree

/-- A check depends on the authorised paths only by the validated paths among them. -/
def AuthorizesMore (paths more : List String) : Prop :=
  ∀ raw path, validateRelativeRepoPath raw = .ok path → path ∈ paths → path ∈ more

theorem normalizePathCheck_mono {index : Nat} {paths more : List String} {check : Dict}
    {type : Option TextCheck} {normalized : Check} (grows : AuthorizesMore paths more)
    (done : normalizePathCheck index paths check type = .ok normalized) :
    normalizePathCheck index more check type = .ok normalized := by
  unfold normalizePathCheck at done ⊢
  cases read : validateRelativeRepoPath (check.get "path") with
  | error error =>
    rw [read] at done
    cases error <;> exact absurd done (by simp)
  | ok path =>
    rw [read] at done
    dsimp only at done ⊢
    split at done
    · cases done
    · next listed =>
        have kept : path ∈ more := grows _ path read (not_not.mp listed)
        rw [if_neg (not_not.mpr kept)]
        exact done

theorem normalizeDeterministicAcceptanceCheck_mono {index : Nat} {paths more : List String}
    {check : Json} {normalized : Check} (grows : AuthorizesMore paths more)
    (done : normalizeDeterministicAcceptanceCheck index paths check = .ok normalized) :
    normalizeDeterministicAcceptanceCheck index more check = .ok normalized := by
  cases check with
  | obj members =>
    unfold normalizeDeterministicAcceptanceCheck at done ⊢
    dsimp only at done ⊢
    split at done
    · cases done
    · next hashable =>
        rw [if_neg hashable]
        split at done
        · next command =>
            rw [if_pos command]
            exact done
        · next other =>
            rw [if_neg other]
            split at done
            · next exists_ =>
                rw [if_pos exists_]
                exact normalizePathCheck_mono grows done
            · next text =>
                rw [if_neg text]
                cases kind : textChecks.find? (fun kind => (Dict.get members "type").isStr kind.name) with
                | none =>
                  rw [kind] at done
                  cases done
                | some found =>
                  rw [kind] at done
                  exact normalizePathCheck_mono grows done
  | _ => cases done

theorem normalizeFrom_mono {paths more : List String} {seen : List Check} {index : Nat}
    {checks : List Json} {normalized : List Check} (grows : AuthorizesMore paths more)
    (done : normalizeFrom paths seen index checks = .ok normalized) :
    normalizeFrom more seen index checks = .ok normalized := by
  induction checks generalizing seen index normalized with
  | nil => exact done
  | cons check rest ih =>
    unfold normalizeFrom at done ⊢
    obtain ⟨first, read, done⟩ := except_bind_ok done
    rw [normalizeDeterministicAcceptanceCheck_mono grows read]
    dsimp only [bind, Except.bind] at done ⊢
    split at done
    · cases done
    · next fresh =>
        rw [if_neg fresh]
        cases later : normalizeFrom paths (first :: seen) (index + 1) rest with
        | error error =>
          rw [later] at done
          cases done
        | ok others =>
          rw [later] at done
          rw [ih later]
          exact done

/-- What is accepted under some authorised paths is accepted under more of them, and reads the same. -/
theorem accepted_under_more {paths more : List String} {checks : Json} {normalized : List Check}
    (grows : AuthorizesMore paths more)
    (done : normalizeDeterministicAcceptanceChecks paths checks = .ok normalized) :
    normalizeDeterministicAcceptanceChecks more checks = .ok normalized := by
  cases checks with
  | arr elements => exact normalizeFrom_mono grows done
  | _ => cases done

theorem accepted_under_another : normalizeDeterministicAcceptanceChecks ["a.txt", "b.txt"]
    (.arr [.obj [("type", .str "file_exists"), ("path", .str "a.txt")]]) = .ok [.fileExists "a.txt"] :=
  @accepted_under_more ["a.txt"] _ _ _ (fun _ _ _ => List.mem_append_left ["b.txt"]) (by decide +kernel)

theorem normalizeFrom_cons_ne_nil {paths : List String} {seen : List Check} {index : Nat}
    {check : Json} {rest : List Json} {normalized : List Check}
    (done : normalizeFrom paths seen index (check :: rest) = .ok normalized) : normalized ≠ [] := by
  unfold normalizeFrom at done
  obtain ⟨first, _, done⟩ := except_bind_ok done
  split at done
  · cases done
  · obtain ⟨others, _, done⟩ := except_bind_ok done
    cases done
    exact List.cons_ne_nil _ _

end Lucius.Acceptance
