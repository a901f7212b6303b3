import Lucius.Integration.ControlledCommit
import Lucius.Planning.Hardening
import Lucius.Repositories.Capture
import Lucius.Runtime.CheckScope

/-! One frozen payload under the four modules that read it: the freeze that accepts it, the
router that executes it, the integration and the commit. -/

namespace Lucius.Worktree

/-- A path as the repository names one: relative, inside, unpadded and not the root. -/
structure RepoRelative (path : String) : Prop where
  unpadded : Json.strip path.toList = path.toList
  plain : '\\' ∉ path.toList
  relative : path.toList.head? ≠ some '/'
  inside : ['.', '.'] ∉ pathParts path
  named : pathParts path ≠ []

theorem RepoRelative.nonempty {path : String} (known : RepoRelative path) : path.toList ≠ [] := by
  intro empty
  exact known.named (pathParts_empty empty)

theorem RepoRelative.validated {path : String} (known : RepoRelative path) :
    validateRelativeRepoPath (.str path) = .ok (asPosix (pathParts path)) := by
  simp only [validateRelativeRepoPath, known.unpadded]
  simp [known.nonempty, known.plain, known.relative, known.inside]

theorem RepoRelative.normalized {path : String} (known : RepoRelative path) :
    Router.normalizeFrozenMutationPath (.str path) = some (asPosix (pathParts path)) := by
  simp only [Router.normalizeFrozenMutationPath, known.unpadded, String.ofList_toList]
  simp [known.nonempty, known.plain, known.relative, known.inside, known.named]

theorem repoRelative_of_both {path validated normalized : String}
    (integrated : validateRelativeRepoPath (.str path) = .ok validated)
    (executed : Router.normalizeFrozenMutationPath (.str path) = some normalized) :
    RepoRelative path := by
  simp only [validateRelativeRepoPath] at integrated
  split at integrated
  · cases integrated
  · next sound =>
      split at integrated
      · cases integrated
      · next inside =>
          simp only [Bool.or_eq_true, decide_eq_true_eq, not_or, not_not] at sound
          obtain ⟨⟨⟨_, unpadded⟩, plain⟩, relative⟩ := sound
          simp only [Router.normalizeFrozenMutationPath, unpadded, String.ofList_toList] at executed
          split at executed
          · cases executed
          · next named =>
              simp only [Bool.or_eq_true, not_or, List.isEmpty_iff] at named
              exact ⟨unpadded, plain, relative, inside, named.2⟩

end Lucius.Worktree

namespace Lucius.Integration

open Acceptance Worktree Planning

/-- An entry of a payload that names a file of the repository. -/
def NamesRepoFile (entry : Json) : Prop :=
  ∃ members path, entry = .obj members ∧ Dict.get members "path" = .str path ∧ RepoRelative path

/-- The normal form of the path an entry names. -/
def entryPath : Json → String
  | .obj members =>
    match Dict.get members "path" with
    | .str path => asPosix (pathParts path)
    | _ => ""
  | _ => ""

/-- The router, the integration and the commit read the same paths and the same checks. -/
structure ScopesAgree (tables : Tables) (freeze : PlanFreezeRow) (paths : List String)
    (checks : List Check) : Prop where
  executed : ∀ required, Router.frozenMutationScope tables freeze.planId freeze.id false required =
    .ok { paths := paths, checks := checks }
  integratedPaths : authorizedPaths freeze = .ok paths
  integratedChecks : acceptanceChecks freeze paths = .ok checks
  committedPaths : ControlledCommit.authorizedPaths freeze = .ok paths
  committedChecks : ControlledCommit.acceptanceChecks freeze paths = .ok checks

theorem mem_firstOccurrences_iff {seen paths : List String} {path : String} (fresh : path ∉ seen) :
    path ∈ firstOccurrences seen paths ↔ path ∈ paths := by
  induction paths generalizing seen with
  | nil => rfl
  | cons first rest ih =>
    rw [firstOccurrences]
    by_cases same : path = first
    · rw [← same, if_neg fresh]
      simp
    · split
      · rw [ih fresh, List.mem_cons]
        simp [same]
      · rw [List.mem_cons, List.mem_cons, ih (by simp [same, fresh])]

theorem firstOccurrences_ne_nil (path : String) (rest : List String) :
    firstOccurrences [] (path :: rest) ≠ [] := by
  rw [firstOccurrences, if_neg List.not_mem_nil]
  exact List.cons_ne_nil _ _

theorem frozenPathsFrom_named {entries : List Json} (seen : List String)
    (named : ∀ entry ∈ entries, NamesRepoFile entry) :
    Router.frozenPathsFrom seen entries = some (firstOccurrences seen (entries.map entryPath)) := by
  induction entries generalizing seen with
  | nil => rfl
  | cons entry rest ih =>
    obtain ⟨members, path, rfl, held, known⟩ := named entry List.mem_cons_self
    have later := fun seen => ih seen
      (fun other member => named other (List.mem_cons_of_mem _ member))
    have here : entryPath (.obj members) = asPosix (pathParts path) := by
      simp only [entryPath, held]
    rw [List.map_cons, firstOccurrences, here, Router.frozenPathsFrom, held, known.normalized]
    dsimp only
    split
    · exact later seen
    · rw [later]
      rfl

theorem authorizedPath_named {entry : Json} (named : NamesRepoFile entry) :
    authorizedPath entry = .ok (entryPath entry) := by
  obtain ⟨members, path, rfl, held, known⟩ := named
  simp only [authorizedPath, entryPath, held, known.validated]

theorem committedPath_named {entry : Json} (named : NamesRepoFile entry) :
    ControlledCommit.authorizedPath entry = .ok (entryPath entry) := by
  obtain ⟨members, path, rfl, held, known⟩ := named
  simp only [ControlledCommit.authorizedPath, entryPath, held, known.validated]

theorem named_of_both {members : Dict} {path normalized : String}
    (integrated : authorizedPath (.obj members) = .ok path)
    (executed : Router.normalizeFrozenMutationPath (Dict.get members "path") = some normalized) :
    NamesRepoFile (.obj members) := by
  unfold authorizedPath at integrated
  dsimp only at integrated
  cases held : Dict.get members "path" with
  | str text =>
    rw [held] at integrated executed
    refine ⟨members, text, rfl, held, ?_⟩
    cases valid : validateRelativeRepoPath (.str text) with
    | ok value => exact repoRelative_of_both valid executed
    | error error =>
      rw [valid] at integrated
      cases error <;> cases integrated
  | _ =>
    rw [held] at executed
    cases executed

theorem all_named_of_both {entries : List Json} {seen paths validated : List String}
    (executed : Router.frozenPathsFrom seen entries = some paths)
    (integrated : entries.mapM authorizedPath = .ok validated) :
    ∀ entry ∈ entries, NamesRepoFile entry := by
  induction entries generalizing seen paths validated with
  | nil =>
    intro entry member
    cases member
  | cons first rest ih =>
    rw [List.mapM_cons] at integrated
    obtain ⟨path, here, integrated⟩ := except_bind_ok integrated
    obtain ⟨others, later, _⟩ := except_bind_ok integrated
    cases first with
    | obj members =>
      rw [Router.frozenPathsFrom] at executed
      cases normal : Router.normalizeFrozenMutationPath (Dict.get members "path") with
      | none =>
        rw [normal] at executed
        cases executed
      | some normalized =>
        rw [normal] at executed
        dsimp only at executed
        have more : ∃ seen paths, Router.frozenPathsFrom seen rest = some paths := by
          split at executed
          · exact ⟨_, _, executed⟩
          · obtain ⟨paths, read, _⟩ := Option.map_eq_some_iff.mp executed
            exact ⟨_, _, read⟩
        obtain ⟨_, _, read⟩ := more
        intro entry member
        rcases List.mem_cons.mp member with same | inside
        · exact same ▸ named_of_both here normal
        · exact ih read later entry inside
    | _ => cases executed

theorem affectedPaths_grow {entries : List Json} (named : ∀ entry ∈ entries, NamesRepoFile entry) :
    AuthorizesMore (affectedPaths entries) (firstOccurrences [] (entries.map entryPath)) := by
  intro raw path valid listed
  rw [mem_firstOccurrences_iff List.not_mem_nil]
  obtain ⟨entry, member, read⟩ := List.mem_filterMap.mp listed
  obtain ⟨members, text, rfl, held, known⟩ := named entry member
  dsimp only at read
  rw [held] at read
  obtain ⟨same, _⟩ := Option.filter_eq_some_iff.mp read
  cases same
  refine List.mem_map.mpr ⟨_, member, ?_⟩
  have normal : path = asPosix (pathParts path) := by
    cases raw with
    | str given =>
      rw [validateRelativeRepoPath_ok valid, pathParts_asPosix]
    | _ => cases valid
  simp only [entryPath, held]
  exact normal.symm

theorem checkIssues_ok {paths : List String} {checks : List Json}
    (accepted : checkIssues paths checks = .ok []) :
    ∃ normalized, normalizeDeterministicAcceptanceChecks paths (.arr checks) = .ok normalized := by
  unfold checkIssues at accepted
  split at accepted
  · next normalized read => exact ⟨normalized, read⟩
  · cases accepted
  · cases accepted

/-- A payload with at least one affected file and at least one check, stored with its freeze. -/
structure Frozen (tables : Tables) (freeze : PlanFreezeRow) (payload : Dict)
    (files checks : List Json) : Prop where
  stored : tables.freezes.get? freeze.id = some freeze
  held : freeze.planPayload = .obj payload
  listed : payload.get "affected_files" = .arr files
  checked : payload.get "deterministic_acceptance_checks" = .arr checks
  files : files ≠ []
  checks : checks ≠ []

section

variable {tables : Tables} {freeze : PlanFreezeRow} {payload : Dict} {files checks : List Json}

theorem getOr_of_get {dict : Dict} {key : String} {elements : List Json} {fallback : Json}
    (held : dict.get key = .arr elements) : dict.getOr key fallback = .arr elements := by
  unfold Dict.get at held
  unfold Dict.getOr
  cases found : dict.lookup key with
  | none =>
    rw [found] at held
    cases held
  | some value =>
    rw [found] at held
    exact held

theorem Frozen.accepted (frozen : Frozen tables freeze payload files checks)
    (accepted : deterministicAcceptanceCheckIssues payload = .ok []) :
    ∃ normalized, normalizeDeterministicAcceptanceChecks (affectedPaths files) (.arr checks) =
      .ok normalized := by
  unfold deterministicAcceptanceCheckIssues at accepted
  rw [getOr_of_get frozen.listed, getOr_of_get frozen.checked] at accepted
  exact checkIssues_ok accepted

theorem Frozen.scope (frozen : Frozen tables freeze payload files checks) (required : Bool) :
    Router.frozenMutationScope tables freeze.planId freeze.id false required =
      match Router.frozenPathsFrom [] files with
      | none => .ok { error := some "INVALID_FROZEN_AFFECTED_FILES" }
      | some [] => .ok { error := some "EMPTY_FROZEN_MUTATION_SCOPE" }
      | some (first :: rest) => Router.frozenChecks payload (first :: rest) required := by
  have held : Router.payloadScope freeze.planPayload required =
      Router.payloadScope (.obj payload) required := by
    rw [frozen.held]
  unfold Router.frozenMutationScope
  rw [if_neg (by decide), frozen.stored]
  dsimp only
  rw [if_neg (not_not.mpr rfl), held]
  have listed := frozen.listed
  unfold Router.payloadScope
  dsimp only
  generalize Dict.get payload "affected_files" = found at listed ⊢
  subst listed
  rfl

/-- Where every entry names a file, all three read the paths in the order they are first named. -/
theorem Frozen.agree (frozen : Frozen tables freeze payload files checks)
    (accepted : deterministicAcceptanceCheckIssues payload = .ok [])
    (named : ∀ entry ∈ files, NamesRepoFile entry) :
    ∃ normalized, ScopesAgree tables freeze (firstOccurrences [] (files.map entryPath)) normalized := by
  obtain ⟨normalized, read⟩ := frozen.accepted accepted
  have normal : normalizeDeterministicAcceptanceChecks (firstOccurrences [] (files.map entryPath))
      (.arr checks) = .ok normalized := normalizeFrom_mono (affectedPaths_grow named) read
  obtain ⟨check, rest, several⟩ := List.exists_cons_of_ne_nil frozen.checks
  obtain ⟨file, more, first⟩ := List.exists_cons_of_ne_nil frozen.files
  have payloadIs : payloadOf freeze = payload := by
    rw [payloadOf, frozen.held]
  have mapped : (files.map entryPath).isEmpty = false := by
    rw [first]
    rfl
  have nonempty : normalized ≠ [] := by
    rw [several] at read
    exact normalizeFrom_cons_ne_nil read
  refine ⟨normalized, ⟨?executed, ?integratedPaths, ?integratedChecks, ?committedPaths,
    ?committedChecks⟩⟩
  case executed =>
    intro required
    have checked : Router.frozenChecks payload (firstOccurrences [] (files.map entryPath)) required =
        .ok { paths := firstOccurrences [] (files.map entryPath), checks := normalized } := by
      unfold Router.frozenChecks
      rw [getOr_of_get frozen.checked]
      dsimp only
      rw [normal]
      simp [nonempty]
    have paths := firstOccurrences_ne_nil (entryPath file) (more.map entryPath)
    rw [← List.map_cons, ← first] at paths
    obtain ⟨head, others, split⟩ := List.exists_cons_of_ne_nil paths
    rw [frozen.scope, frozenPathsFrom_named [] named]
    rw [split] at checked ⊢
    exact checked
  case integratedPaths =>
    unfold authorizedPaths
    rw [payloadIs, frozen.listed]
    dsimp only
    rw [mapM_ok_map (fun entry member => authorizedPath_named (named entry member))]
    dsimp only [bind, Except.bind]
    rw [if_neg (by rw [mapped]; exact Bool.false_ne_true)]
    rfl
  case integratedChecks =>
    unfold acceptanceChecks
    rw [payloadIs, frozen.checked, several]
    dsimp only
    rw [← several, normal]
  case committedPaths =>
    unfold ControlledCommit.authorizedPaths
    rw [payloadIs, frozen.listed]
    dsimp only
    rw [mapM_ok_map (fun entry member => committedPath_named (named entry member))]
    dsimp only [bind, Except.bind]
    rw [if_neg (by rw [mapped]; exact Bool.false_ne_true)]
    rfl
  case committedChecks =>
    unfold ControlledCommit.acceptanceChecks
    rw [payloadIs, frozen.checked, several]
    dsimp only
    rw [← several, normal]

theorem Frozen.named (frozen : Frozen tables freeze payload files checks) {paths : List String}
    {normalized : List Check} (agree : ScopesAgree tables freeze paths normalized) :
    ∀ entry ∈ files, NamesRepoFile entry := by
  have integrated := agree.integratedPaths
  unfold authorizedPaths at integrated
  rw [payloadOf, frozen.held] at integrated
  dsimp only at integrated
  rw [frozen.listed] at integrated
  obtain ⟨validated, read, _⟩ := except_bind_ok integrated
  have executed := agree.executed false
  rw [frozen.scope] at executed
  cases scope : Router.frozenPathsFrom [] files with
  | none =>
    rw [scope] at executed
    cases executed
  | some found => exact all_named_of_both scope read

/-- A payload the freeze accepts means one scope to the router, the integration and the commit
exactly when each of its entries names a file of the repository. -/
theorem frozen_scopes_agree_iff (frozen : Frozen tables freeze payload files checks)
    (accepted : deterministicAcceptanceCheckIssues payload = .ok []) :
    (∃ paths normalized, ScopesAgree tables freeze paths normalized) ↔
      ∀ entry ∈ files, NamesRepoFile entry := by
  constructor
  · rintro ⟨paths, normalized, agree⟩
    exact frozen.named agree
  · intro named
    exact ⟨_, frozen.agree accepted named⟩

end

/-- A plan that names some files and checks that one of them exists, frozen. -/
def filesPlan (paths : List String) : EngineeringPlanRow :=
  EngineeringPlanRepository.newRow
    { taskId := "LTASK_000001", projectId := "LPROJ_000001", taskContractId := "LCONTR_000001" }
    { affectedFiles := paths.map (fun path => { path := path })
      deterministicAcceptanceChecks := [.fileExists "b.md"] } [] "LPLAN_000001" 1

def filesFreeze (paths : List String) : PlanFreezeRow := freezeRow {} (filesPlan paths) "LFREEZ_000001"

def filesTables (paths : List String) : Tables := { freezes := ⟨[filesFreeze paths], by simp⟩ }

theorem filesTables_frozen (path : String) :
    Frozen (filesTables [path]) (filesFreeze [path]) (planPayload (filesPlan [path]))
      [.obj (AffectedFilePlan.dump { path := path })]
      [.obj (DeterministicAcceptanceCheck.dump (.fileExists "b.md"))] :=
  ⟨rfl, rfl, rfl, rfl, List.cons_ne_nil _ _, List.cons_ne_nil _ _⟩

theorem notes_scopes_agree :
    (∃ paths normalized, ScopesAgree (filesTables ["b.md"]) (filesFreeze ["b.md"]) paths
      normalized) ↔
      ∀ entry ∈ [Json.obj (AffectedFilePlan.dump { path := "b.md" })], NamesRepoFile entry :=
  frozen_scopes_agree_iff (filesTables_frozen "b.md") (by decide +kernel)

/-- A padded path is executed and never integrated. -/
theorem padded_scopes_disagree :
    deterministicAcceptanceCheckIssues (planPayload (filesPlan [" a.md", "b.md"])) = .ok [] ∧
      validatePlanFileStates {} (filesPlan [" a.md", "b.md"]) = .ok [] ∧
      Router.frozenMutationScope (filesTables [" a.md", "b.md"]) "LPLAN_000001" "LFREEZ_000001" false
        true = .ok { paths := ["a.md", "b.md"], checks := [.fileExists "b.md"] } ∧
      ¬ ∃ paths normalized,
        ScopesAgree (filesTables [" a.md", "b.md"]) (filesFreeze [" a.md", "b.md"]) paths normalized := by
  refine ⟨by decide +kernel, rfl, by decide +kernel, ?_⟩
  rintro ⟨paths, normalized, agree⟩
  have refused : authorizedPaths (filesFreeze [" a.md", "b.md"]) =
      .error (blocked "INVALID_FROZEN_AFFECTED_FILES") := by
    decide +kernel
  rw [agree.integratedPaths] at refused
  cases refused

end Lucius.Integration
