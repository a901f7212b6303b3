import Lucius.Planning.Hardening
import Lucius.Planning.Validation
import Lucius.Repositories.Capture
import Lucius.Runtime.CheckScope

/-! What the planner accepts and what a freeze accepts of the files of a plan. -/

namespace Lucius.Planning

open Acceptance Lucius.Action Worktree Queue

variable {path : String} {paths snapshotIds : List String}

/-- The snapshots of the context that have an id: those its plan is persisted with. -/
def namedSnapshots (context : PlanningContext) : List String :=
  context.snapshotIds.filter (fun id => !id.toList.isEmpty)

/-- The entry the freeze finds for a path in the snapshots of the context. -/
def recordedEntry (tables : Tables) (context : PlanningContext) (path : String) : Option Dict :=
  match (contextSnapshots tables context).mapM snapshotPaths with
  | .ok manifests => manifestEntry manifests.flatten path
  | .error _ => none

/-- The planner takes the file for one that is there: it has evidence of it, or a manifest
lists it. -/
def TakenAsExisting (tables : Tables) (context : PlanningContext) (path : String) : Prop :=
  upper path ≠ "UNKNOWN" ∧ (evidenceByPath context path ≠ [] ∨
    ∃ paths, manifestPaths tables context = .ok paths ∧ path ∈ paths)

structure RelativePath (path : String) : Prop where
  nonempty : path.toList ≠ []
  relative : path.toList.head? ≠ some '/'
  inside : ['.', '.'] ∉ pathParts path

/-- A planned path the freeze takes: it is relative, and where the planner takes the file for
one that is there, the snapshots have it as a file and the evidence the model named for it,
if that is all there is, is of these snapshots. -/
structure PathFits (tables : Tables) (context : PlanningContext) (plan : ModelEngineeringPlanOutput)
    (path : String) : Prop where
  relative : RelativePath path
  recorded : TakenAsExisting tables context path →
    ∃ entry, recordedEntry tables context (asPosix (pathParts path)) = some entry ∧
      manifestFileType entry ≠ "directory"
  supported : TakenAsExisting tables context path → evidenceByPath context path = [] →
    (plannedFile plan path).evidenceIds ≠ [] →
      evidenceSupportsSnapshot tables (plannedFile plan path).evidenceIds (namedSnapshots context) = true

/-- Without a snapshot that is there, the freeze asks nothing of the files. -/
def FilesFit (tables : Tables) (context : PlanningContext) (plan : ModelEngineeringPlanOutput) : Prop :=
  contextSnapshots tables context = [] ∨ ∀ path ∈ plannedPaths plan, PathFits tables context plan path

/-- The evidence of the context is of the context's own snapshots. -/
def OwnEvidence (tables : Tables) (context : PlanningContext) : Prop :=
  ∀ item ∈ context.evidence, ∀ row, tables.evidence.get? item.evidenceId = some row →
    row.snapshotId ∈ namedSnapshots context

theorem normalizeRepoPath_relative (known : RelativePath path) :
    normalizeRepoPath path = some (asPosix (pathParts path)) := by
  unfold normalizeRepoPath
  simp [known.nonempty, known.relative, known.inside]

theorem relative_of_normalizeRepoPath {normal : String}
    (read : normalizeRepoPath path = some normal) : RelativePath path := by
  unfold normalizeRepoPath at read
  split at read
  · cases read
  · next sound =>
      split at read
      · cases read
      · next inside =>
          simp only [Bool.or_eq_true, decide_eq_true_eq, not_or, List.isEmpty_iff] at sound
          exact ⟨sound.1, sound.2, inside⟩

/-! ### The manifests -/

theorem manifestEntry_of_mem {entries : List (String × Dict)} {entry : Dict}
    (member : (path, entry) ∈ entries) : ∃ found, manifestEntry entries path = some found := by
  have some : (entries.reverse.find? (fun entry => entry.1 = path)).isSome := by
    rw [List.find?_isSome]
    exact ⟨_, List.mem_reverse.mpr member, decide_eq_true rfl⟩
  obtain ⟨found, read⟩ := Option.isSome_iff_exists.mp some
  exact ⟨found.2, by rw [manifestEntry, read]; rfl⟩

theorem snapshotEntry_of_path {item : Json}
    (read : manifestEntryPath item = .ok (some path)) (known : RelativePath path) :
    ∃ entry, snapshotEntry item = some (asPosix (pathParts path), entry) := by
  cases item with
  | obj entry =>
    unfold manifestEntryPath at read
    dsimp only at read
    cases held : Dict.get entry "path" with
    | str text =>
      rw [held] at read
      dsimp only at read
      split at read
      · cases read
      · next nonempty =>
          cases read
          have truthy : (Json.str path).truthy = true := by
            simpa [Json.truthy] using nonempty
          refine ⟨entry, ?_⟩
          simp only [snapshotEntry, held, Json.orElse, truthy, if_true, Json.pyStr_str,
            normalizeRepoPath_relative known, Option.map_some]
    | arr elements =>
      rw [held] at read
      cases elements <;> cases read
    | obj members =>
      rw [held] at read
      cases members <;> cases read
    | _ =>
      rw [held] at read
      cases read
  | _ => cases read

theorem manifestEntryPath_text {text : String} {path : Option String} :
    manifestEntryPath (.str text) ≠ .ok path := by
  intro read
  cases read

theorem manifestFiles_of_planner {snapshot : RepositorySnapshotRow}
    (read : snapshotManifestPaths snapshot = .ok paths) :
    ∃ items, manifestFiles snapshot.manifest = .ok items ∧
      ∀ path ∈ paths, ∃ item ∈ items, manifestEntryPath item = .ok (some path) := by
  unfold snapshotManifestPaths at read
  unfold manifestFiles
  cases manifest : snapshot.manifest with
  | obj members =>
    rw [manifest] at read
    obtain ⟨items, listed, read⟩ := except_bind_ok read
    obtain ⟨parsed, each, read⟩ := except_bind_ok read
    cases read
    have paired := mapM_ok each
    have found : ∀ path ∈ parsed.filterMap id, ∃ item ∈ items,
        manifestEntryPath item = .ok (some path) := by
      intro path member
      obtain ⟨entry, present, same⟩ := List.mem_filterMap.mp member
      obtain ⟨item, inside, known⟩ := forall₂_right paired present
      exact ⟨item, inside, by rw [known, ← same]; rfl⟩
    dsimp only
    cases files : Dict.getOr members "files" (.arr []) with
    | obj named =>
      rw [files] at listed
      cases listed
      refine ⟨_, rfl, ?_⟩
      intro path member
      obtain ⟨item, inside, known⟩ := found path member
      obtain ⟨entry, _, rfl⟩ := List.mem_map.mp inside
      exact absurd known manifestEntryPath_text
    | _ =>
      rw [files] at listed
      exact ⟨items, listed, found⟩
  | _ =>
    rw [manifest] at read
    cases read

theorem snapshotPaths_of_planner {snapshot : RepositorySnapshotRow}
    (read : snapshotManifestPaths snapshot = .ok paths) :
    ∃ entries, snapshotPaths snapshot = .ok entries ∧
      ∀ path ∈ paths, RelativePath path → ∃ entry, (asPosix (pathParts path), entry) ∈ entries := by
  obtain ⟨items, listed, found⟩ := manifestFiles_of_planner read
  refine ⟨items.filterMap snapshotEntry, by rw [snapshotPaths, listed]; rfl, ?_⟩
  intro path member known
  obtain ⟨item, inside, named⟩ := found path member
  obtain ⟨entry, same⟩ := snapshotEntry_of_path named known
  exact ⟨entry, List.mem_filterMap.mpr ⟨item, inside, same⟩⟩

theorem manifests_of_planner {tables : Tables} {context : PlanningContext}
    (read : manifestPaths tables context = .ok paths) :
    ∃ manifests, (contextSnapshots tables context).mapM snapshotPaths = .ok manifests ∧
      ∀ path ∈ paths, RelativePath path →
        ∃ entry, manifestEntry manifests.flatten (asPosix (pathParts path)) = some entry := by
  unfold manifestPaths at read
  obtain ⟨lists, each, read⟩ := except_bind_ok read
  cases read
  have paired := mapM_ok each
  have readable : ∀ snapshot ∈ contextSnapshots tables context,
      ∃ entries, snapshotPaths snapshot = .ok entries := by
    intro snapshot member
    obtain ⟨listed, _, known⟩ := forall₂_left paired member
    obtain ⟨entries, same, _⟩ := snapshotPaths_of_planner known
    exact ⟨entries, same⟩
  obtain ⟨manifests, all⟩ := mapM_ok_of_forall readable
  refine ⟨manifests, all, ?_⟩
  intro path member known
  obtain ⟨listed, inList, inside⟩ := List.mem_flatten.mp member
  obtain ⟨snapshot, present, planner⟩ := forall₂_right paired inList
  obtain ⟨entries, same, found⟩ := snapshotPaths_of_planner planner
  obtain ⟨entry, recorded⟩ := found path inside known
  have listedEntry : (asPosix (pathParts path), entry) ∈ manifests.flatten :=
    (mem_mapM_flatten all _).mpr ⟨snapshot, present, entries, same, recorded⟩
  exact manifestEntry_of_mem listedEntry

/-! ### The classified files -/

theorem plannedFile_path (plan : ModelEngineeringPlanOutput) (path : String) :
    (plannedFile plan path).path = path := by
  unfold plannedFile
  cases found : plan.affectedFiles.reverse.find? (fun file => file.path = path) with
  | none => rfl
  | some file =>
    have same := List.find?_some found
    simpa using same

theorem classifyFile_path (context : PlanningContext) (manifest : List String)
    (file : AffectedFilePlan) : (classifyFile context manifest file).path = file.path := by
  unfold classifyFile
  dsimp only
  split_ifs <;> rfl

theorem classifyFile_other {tables : Tables} {context : PlanningContext} {manifest : List String}
    (file : AffectedFilePlan) (read : manifestPaths tables context = .ok manifest)
    (other : ¬ TakenAsExisting tables context file.path) :
    (classifyFile context manifest file).status = .unknown ∨
      (classifyFile context manifest file).status = .newProposed := by
  unfold classifyFile
  dsimp only
  split
  · exact .inl rfl
  · next named =>
      rw [Bool.or_eq_true, not_or, decide_eq_true_eq] at named
      have nothing : ¬ (evidenceByPath context file.path ≠ [] ∨
          ∃ paths, manifestPaths tables context = .ok paths ∧ file.path ∈ paths) :=
        fun found => other ⟨named.2, found⟩
      rw [not_or, not_not] at nothing
      have unlisted : file.path ∉ manifest := fun member => nothing.2 ⟨manifest, read, member⟩
      rw [nothing.1, if_neg (by decide), if_neg unlisted]
      split
      · exact .inr rfl
      · exact .inl rfl

/-- A file that is taken as existing is verified by the evidence of its path, if there is any. -/
theorem classifyFile_existing {tables : Tables} {context : PlanningContext} {manifest : List String}
    (file : AffectedFilePlan) (read : manifestPaths tables context = .ok manifest)
    (nonempty : file.path.toList ≠ []) (taken : TakenAsExisting tables context file.path) :
    (classifyFile context manifest file).status = .existingVerified ∧
      (classifyFile context manifest file).evidenceIds =
        if (evidenceByPath context file.path).isEmpty then file.evidenceIds
        else sortedBy id (file.evidenceIds ++ evidenceByPath context file.path).dedup := by
  obtain ⟨named, found⟩ := taken
  unfold classifyFile
  dsimp only
  rw [if_neg (by simp [nonempty, named])]
  by_cases evidence : evidenceByPath context file.path = []
  · have listed : file.path ∈ manifest := by
      rcases found with some | ⟨paths, same, member⟩
      · exact absurd evidence some
      · rw [read] at same
        cases same
        exact member
    rw [evidence, if_neg (by decide), if_pos listed]
    exact ⟨rfl, rfl⟩
  · have some : (evidenceByPath context file.path).isEmpty = false := by
      simpa using evidence
    rw [some]
    exact ⟨rfl, rfl⟩

@[simp] theorem claimPath_dump (file : AffectedFilePlan) : claimPath file.dump = file.path := by
  have path : Dict.get file.dump "path" = .str file.path := rfl
  have other : Dict.get file.dump "file" = .null := rfl
  have another : Dict.get file.dump "filepath" = .null := rfl
  unfold claimPath
  rw [path, other, another]
  unfold Json.orElse
  split
  · rfl
  · next empty =>
      have nothing : file.path = "" := by
        simpa [Json.truthy] using empty
      rw [nothing]
      rfl

theorem claimStatus_dump (file : AffectedFilePlan) :
    claimStatus file.dump = StrEnum.value file.status := by
  have status : Dict.get file.dump "status" = .str (StrEnum.value file.status) := rfl
  have state : Dict.get file.dump "state" = .null := rfl
  unfold claimStatus
  rw [status, state]
  cases file.status <;> decide

theorem fileIssues_invalid (tables : Tables) (snapshotIds evidenceIds : List String)
    (manifest : List (String × Dict)) (file : AffectedFilePlan) (bad : ¬ RelativePath file.path) :
    ∃ issue, fileIssues tables snapshotIds evidenceIds manifest file.dump = .ok [issue] ∧
      issue.code = "INVALID_PLAN_FILE_PATH" := by
  have refused : normalizeRepoPath (claimPath file.dump) = none := by
    rw [claimPath_dump]
    cases read : normalizeRepoPath file.path with
    | none => rfl
    | some normal => exact absurd (relative_of_normalizeRepoPath read) bad
  unfold fileIssues
  dsimp only
  rw [refused]
  exact ⟨_, rfl, rfl⟩

theorem fileIssues_other {tables : Tables} {evidenceIds : List String}
    {manifest : List (String × Dict)} {file : AffectedFilePlan} (known : RelativePath file.path)
    (other : file.status = .unknown ∨ file.status = .newProposed) :
    fileIssues tables snapshotIds evidenceIds manifest file.dump = .ok [] := by
  unfold fileIssues
  dsimp only
  rw [claimPath_dump, normalizeRepoPath_relative known, claimStatus_dump]
  rcases other with same | same <;> rw [same] <;> rfl

theorem fileIssues_existing {tables : Tables} {evidenceIds : List String}
    {manifest : List (String × Dict)} {file : AffectedFilePlan} (known : RelativePath file.path)
    (existing : file.status = .existingVerified) :
    fileIssues tables snapshotIds evidenceIds manifest file.dump =
      match manifestEntry manifest (asPosix (pathParts file.path)) with
      | none => .ok (stateIssues snapshotIds (asPosix (pathParts file.path)) "EXISTING_VERIFIED" none)
      | some entry => do
          let unsupported ← evidenceIssues tables snapshotIds evidenceIds
            (asPosix (pathParts file.path)) file.dump
          return stateIssues snapshotIds (asPosix (pathParts file.path)) "EXISTING_VERIFIED"
            (some entry) ++ unsupported := by
  have value : StrEnum.value file.status = "EXISTING_VERIFIED" := by
    rw [existing]
    rfl
  have listed : "EXISTING_VERIFIED" ∈ existingFileStatuses := by decide
  unfold fileIssues
  dsimp only
  rw [claimPath_dump, normalizeRepoPath_relative known, claimStatus_dump, value]
  dsimp only
  cases manifestEntry manifest (asPosix (pathParts file.path)) with
  | none => simp [listed, bind, Except.bind, pure, Except.pure]
  | some entry => simp [listed]

theorem evidenceSupportsSnapshot_congr {tables : Tables} {first second : List String}
    (same : ∀ id, id ∈ first ↔ id ∈ second) :
    evidenceSupportsSnapshot tables first snapshotIds =
      evidenceSupportsSnapshot tables second snapshotIds := by
  unfold evidenceSupportsSnapshot
  rw [Bool.eq_iff_iff, List.any_eq_true, List.any_eq_true]
  constructor
  · rintro ⟨id, member, known⟩
    exact ⟨id, (same id).mp member, known⟩
  · rintro ⟨id, member, known⟩
    exact ⟨id, (same id).mpr member, known⟩

/-- The evidence that stands for a file: its own, or else that of the plan. -/
def relied (evidenceIds : List String) (file : AffectedFilePlan) : List String :=
  if file.evidenceIds = [] then evidenceIds else file.evidenceIds

theorem claimedEvidence_dump (file : AffectedFilePlan) :
    ((Dict.getOr file.dump "evidence_ids" (.arr [])).orElse (.arr [])).pyIter =
      .ok (file.evidenceIds.map Json.str) := by
  have held : Dict.getOr file.dump "evidence_ids" (.arr []) = Json.ofTexts file.evidenceIds := rfl
  rw [held]
  cases file.evidenceIds with
  | nil => rfl
  | cons first rest => rfl

theorem evidenceIssues_dump (tables : Tables) (snapshotIds evidenceIds : List String) (path : String)
    (file : AffectedFilePlan) :
    ∃ issues, evidenceIssues tables snapshotIds evidenceIds path file.dump = .ok issues ∧
      (∀ issue ∈ issues, issue.code = "STALE_OR_MISSING_FILE_STATE_EVIDENCE") ∧
      (issues = [] ↔ relied evidenceIds file = [] ∨
        evidenceSupportsSnapshot tables (relied evidenceIds file) snapshotIds = true) := by
  have texts : (file.evidenceIds.map Json.str).map Json.pyStr = file.evidenceIds := by
    rw [List.map_map]
    exact List.map_id' _
  have standing : ∀ name, name ∈ (if file.evidenceIds.isEmpty then sortedBy id evidenceIds.dedup
      else file.evidenceIds) ↔ name ∈ relied evidenceIds file := by
    intro name
    unfold relied
    cases file.evidenceIds with
    | nil => simp [mem_sortedBy, List.mem_dedup]
    | cons first rest => simp
  have support : evidenceSupportsSnapshot tables _ snapshotIds = _ :=
    evidenceSupportsSnapshot_congr standing
  have nothing : (if file.evidenceIds.isEmpty then sortedBy id evidenceIds.dedup
      else file.evidenceIds).isEmpty = true ↔ relied evidenceIds file = [] := by
    rw [List.isEmpty_iff, List.eq_nil_iff_forall_not_mem, List.eq_nil_iff_forall_not_mem]
    exact forall_congr' (fun name => not_congr (standing name))
  unfold evidenceIssues
  rw [claimedEvidence_dump]
  dsimp only [bind, Except.bind]
  rw [texts]
  generalize (if file.evidenceIds.isEmpty = true then sortedBy id evidenceIds.dedup
    else file.evidenceIds) = names at support nothing ⊢
  split
  · next fine =>
      rw [Bool.or_eq_true, nothing, support] at fine
      refine ⟨[], rfl, ?_, iff_of_true rfl fine⟩
      intro issue member
      cases member
  · next stale =>
      rw [Bool.or_eq_true, nothing, support] at stale
      refine ⟨_, rfl, ?_, iff_of_false (List.cons_ne_nil _ _) stale⟩
      intro issue member
      rw [List.mem_singleton.mp member]

/-- The evidence of the context is in the database. -/
def KnownEvidence (tables : Tables) (context : PlanningContext) : Prop :=
  ∀ item ∈ context.evidence, ∃ row, tables.evidence.get? item.evidenceId = some row

theorem known_of_accepted {tables : Tables} {context : PlanningContext}
    {plan : ModelEngineeringPlanOutput} (references : referenceBlockers tables context plan = []) :
    KnownEvidence tables context := by
  intro item member
  unfold referenceBlockers at references
  obtain ⟨before, _⟩ := List.append_eq_nil_iff.mp references
  obtain ⟨before, _⟩ := List.append_eq_nil_iff.mp before
  obtain ⟨_, scope⟩ := List.append_eq_nil_iff.mp before
  unfold validateReferenceScope at scope
  have listed : item.evidenceId ∈ (context.evidence.map (·.evidenceId)).dedup :=
    List.mem_dedup.mpr (List.mem_map_of_mem member)
  have fine := List.flatMap_eq_nil_iff.mp scope _ listed
  split at fine
  · next found =>
      cases read : tables.evidence.get? item.evidenceId with
      | none =>
        rw [read] at found
        cases found
      | some row => exact ⟨row, rfl⟩
  · cases fine

theorem own_supports {tables : Tables} {context : PlanningContext} {ids : List String}
    {item : PlanningEvidenceItem} (own : OwnEvidence tables context)
    (known : KnownEvidence tables context) (member : item ∈ context.evidence)
    (listed : item.evidenceId ∈ ids) :
    evidenceSupportsSnapshot tables ids (namedSnapshots context) = true := by
  obtain ⟨row, read⟩ := known item member
  have inside := own item member row read
  unfold evidenceSupportsSnapshot
  rw [List.any_eq_true]
  refine ⟨item.evidenceId, listed, ?_⟩
  rw [read]
  exact decide_eq_true inside

def fileRefusals : List String :=
  ["INVALID_DETERMINISTIC_ACCEPTANCE_CHECK", "INVALID_PLAN_FILE_PATH", "PLAN_FILE_STATE_MISMATCH",
    "STALE_OR_MISSING_FILE_STATE_EVIDENCE"]

theorem stateIssues_code {status : String} {entry : Option Dict}
    {issue : HardeningIssue} (member : issue ∈ stateIssues snapshotIds path status entry) :
    issue.code = "PLAN_FILE_STATE_MISMATCH" := by
  cases entry with
  | none =>
    rw [List.mem_singleton.mp member]
  | some entry =>
    unfold stateIssues at member
    dsimp only at member
    split at member
    · rw [List.mem_singleton.mp member]
    · cases member

theorem stateIssues_eq_nil {status : String} {entry : Dict} :
    stateIssues snapshotIds path status (some entry) = [] ↔ manifestFileType entry ≠ "directory" := by
  unfold stateIssues
  dsimp only
  split
  · next directory => exact iff_of_false (List.cons_ne_nil _ _) (not_not.mpr directory)
  · next file => exact iff_of_true rfl file

section

variable {tables : Tables} {context : PlanningContext} {manifest : List String}

theorem relied_classified (file : AffectedFilePlan) (own : OwnEvidence tables context)
    (known : KnownEvidence tables context) (read : manifestPaths tables context = .ok manifest)
    (nonempty : file.path.toList ≠ []) (taken : TakenAsExisting tables context file.path) :
    (relied (context.evidence.map (·.evidenceId)) (classifyFile context manifest file) = [] ∨
      evidenceSupportsSnapshot tables
        (relied (context.evidence.map (·.evidenceId)) (classifyFile context manifest file))
        (namedSnapshots context) = true) ↔
      (evidenceByPath context file.path = [] → file.evidenceIds ≠ [] →
        evidenceSupportsSnapshot tables file.evidenceIds (namedSnapshots context) = true) := by
  obtain ⟨_, ids⟩ := classifyFile_existing file read nonempty taken
  unfold relied
  rw [ids]
  by_cases evidence : evidenceByPath context file.path = []
  · rw [evidence]
    simp only [List.isEmpty_nil, if_true, forall_const]
    by_cases named : file.evidenceIds = []
    · rw [if_pos named]
      refine iff_of_true ?_ (fun some => absurd named some)
      cases given : context.evidence with
      | nil => exact .inl rfl
      | cons item rest =>
        have member : item ∈ context.evidence := by
          rw [given]
          exact List.mem_cons_self
        exact .inr (own_supports own known member List.mem_cons_self)
    · rw [if_neg named]
      simp [named]
  · obtain ⟨first, rest, several⟩ := List.exists_cons_of_ne_nil evidence
    have listed : first ∈ evidenceByPath context file.path := by
      rw [several]
      exact List.mem_cons_self
    obtain ⟨item, filtered, same⟩ := List.mem_map.mp listed
    have member := List.mem_of_mem_filter filtered
    have kept : item.evidenceId ∈
        sortedBy id (file.evidenceIds ++ evidenceByPath context file.path).dedup := by
      rw [mem_sortedBy, List.mem_dedup, List.mem_append, same]
      exact .inr listed
    have some : (evidenceByPath context file.path).isEmpty = false := by
      simpa using evidence
    rw [some]
    refine iff_of_true (.inr ?_) (fun nothing => absurd nothing evidence)
    simp only [Bool.false_eq_true, if_false, List.ne_nil_of_mem kept]
    exact own_supports own known member kept

theorem fileIssues_classified {manifests : List (List (String × Dict))}
    (plan : ModelEngineeringPlanOutput) (path : String) (own : OwnEvidence tables context)
    (known : KnownEvidence tables context) (read : manifestPaths tables context = .ok manifest)
    (all : (contextSnapshots tables context).mapM snapshotPaths = .ok manifests) :
    ∃ issues, fileIssues tables (namedSnapshots context) (context.evidence.map (·.evidenceId))
        manifests.flatten (classifyFile context manifest (plannedFile plan path)).dump = .ok issues ∧
      (∀ issue ∈ issues, issue.code ∈ fileRefusals) ∧
      (issues = [] ↔ PathFits tables context plan path) := by
  have named : (classifyFile context manifest (plannedFile plan path)).path = path := by
    rw [classifyFile_path, plannedFile_path]
  have filePath := plannedFile_path plan path
  by_cases relative : RelativePath path
  · by_cases taken : TakenAsExisting tables context path
    · have status := (classifyFile_existing (plannedFile plan path) read
        (by rw [filePath]; exact relative.nonempty) (by rw [filePath]; exact taken)).1
      have evidence := relied_classified (plannedFile plan path) own known read
        (by rw [filePath]; exact relative.nonempty) (by rw [filePath]; exact taken)
      rw [filePath] at evidence
      have recorded : recordedEntry tables context (asPosix (pathParts path)) =
          manifestEntry manifests.flatten (asPosix (pathParts path)) := by
        rw [recordedEntry, all]
      rw [fileIssues_existing (by rw [named]; exact relative) status, named]
      cases entry : manifestEntry manifests.flatten (asPosix (pathParts path)) with
      | none =>
        refine ⟨_, rfl, ?_, iff_of_false (List.cons_ne_nil _ _) ?_⟩
        · intro issue member
          rw [stateIssues_code member]
          decide
        · intro fits
          obtain ⟨found, same, _⟩ := fits.recorded taken
          rw [recorded, entry] at same
          cases same
      | some found =>
        obtain ⟨unsupported, same, codes, free⟩ := evidenceIssues_dump tables
          (namedSnapshots context) (context.evidence.map (·.evidenceId)) (asPosix (pathParts path))
          (classifyFile context manifest (plannedFile plan path))
        dsimp only
        rw [same]
        refine ⟨_, rfl, ?_, ?_⟩
        · intro issue member
          rcases List.mem_append.mp member with state | stale
          · rw [stateIssues_code state]
            decide
          · rw [codes issue stale]
            decide
        · rw [List.append_eq_nil_iff, stateIssues_eq_nil, free, evidence]
          constructor
          · rintro ⟨file, supported⟩
            exact ⟨relative, fun _ => ⟨found, by rw [recorded, entry], file⟩, fun _ => supported⟩
          · intro fits
            obtain ⟨other, same, file⟩ := fits.recorded taken
            rw [recorded, entry] at same
            cases same
            exact ⟨file, fits.supported taken⟩
    · have status := classifyFile_other (plannedFile plan path) read
        (by rw [filePath]; exact taken)
      refine ⟨[], fileIssues_other (by rw [named]; exact relative) status, ?_, iff_of_true rfl ?_⟩
      · intro issue member
        cases member
      · exact ⟨relative, fun existing => absurd existing taken, fun existing => absurd existing taken⟩
  · obtain ⟨issue, refused, code⟩ := fileIssues_invalid tables
      (namedSnapshots context) (context.evidence.map (·.evidenceId)) manifests.flatten
      (classifyFile context manifest (plannedFile plan path)) (by rw [named]; exact relative)
    refine ⟨[issue], refused, ?_, iff_of_false (List.cons_ne_nil _ _) ?_⟩
    · intro other member
      rw [List.mem_singleton.mp member, code]
      decide
    · intro fits
      exact relative fits.relative

/-- The gate on the files of an accepted plan finds issues of its own codes, and none exactly
when the files fit. -/
theorem validatePlanFileStates_accepted {plan : ModelEngineeringPlanOutput}
    {files : List AffectedFilePlan} {row : EngineeringPlanRow} (own : OwnEvidence tables context)
    (known : KnownEvidence tables context)
    (classified : classifyAffectedFiles tables context plan = .ok files)
    (snapshots : row.repositorySnapshotIds = namedSnapshots context)
    (evidence : row.evidenceIds = context.evidence.map (·.evidenceId))
    (affected : row.affectedFiles = files.map AffectedFilePlan.dump) :
    ∃ issues, validatePlanFileStates tables row = .ok issues ∧
      (∀ issue ∈ issues, issue.code ∈ fileRefusals) ∧
      (issues = [] ↔ FilesFit tables context plan) := by
  have same : row.repositorySnapshotIds.filter (fun id => !id.toList.isEmpty) =
      namedSnapshots context := by
    rw [snapshots, namedSnapshots, List.filter_filter]
    simp
  have found : (namedSnapshots context).filterMap tables.snapshots.get? =
      contextSnapshots tables context := rfl
  unfold validatePlanFileStates
  dsimp only
  rw [same, found]
  by_cases none : contextSnapshots tables context = []
  · rw [none]
    refine ⟨[], rfl, ?_, iff_of_true rfl (.inl none)⟩
    intro issue member
    cases member
  · have some : (contextSnapshots tables context).isEmpty = false := by
      simpa using none
    rw [some]
    rw [if_neg Bool.false_ne_true]
    unfold classifyAffectedFiles at classified
    obtain ⟨manifest, read, classified⟩ := except_bind_ok classified
    cases classified
    obtain ⟨manifests, all, _⟩ := manifests_of_planner read
    have each : ∀ path ∈ plannedPaths plan, ∃ issues, fileIssues tables (namedSnapshots context)
        (context.evidence.map (·.evidenceId)) manifests.flatten
        (classifyFile context manifest (plannedFile plan path)).dump = .ok issues ∧
      (∀ issue ∈ issues, issue.code ∈ fileRefusals) ∧
      (issues = [] ↔ PathFits tables context plan path) :=
      fun path _ => fileIssues_classified plan path own known read all
    have listed : ∃ lists, row.affectedFiles.mapM (fileIssues tables (namedSnapshots context)
        (context.evidence.map (·.evidenceId)) manifests.flatten) = .ok lists := by
      apply mapM_ok_of_forall
      intro claim member
      rw [affected, List.map_map] at member
      obtain ⟨path, inside, rfl⟩ := List.mem_map.mp member
      obtain ⟨issues, same, _⟩ := each path inside
      exact ⟨issues, same⟩
    obtain ⟨lists, parsed⟩ := listed
    have paired := mapM_ok parsed
    have flat := mem_mapM_flatten parsed
    rw [all, evidence]
    dsimp only [bind, Except.bind]
    rw [parsed]
    refine ⟨_, rfl, ?_, ?_⟩
    · intro issue member
      obtain ⟨claim, listed, issues, same, inside⟩ := (flat issue).mp member
      rw [affected, List.map_map] at listed
      obtain ⟨path, planned, rfl⟩ := List.mem_map.mp listed
      obtain ⟨others, again, codes, _⟩ := each path planned
      rw [Function.comp_apply, again] at same
      cases same
      exact codes issue inside
    · rw [List.eq_nil_iff_forall_not_mem]
      constructor
      · intro nothing
        refine .inr (fun path planned => ?_)
        obtain ⟨issues, same, _, free⟩ := each path planned
        have listed : (classifyFile context manifest (plannedFile plan path)).dump ∈
            row.affectedFiles := by
          rw [affected, List.map_map]
          exact List.mem_map_of_mem planned
        apply free.mp
        rw [List.eq_nil_iff_forall_not_mem]
        intro issue member
        exact nothing issue ((flat issue).mpr ⟨_, listed, issues, same, member⟩)
      · intro fits issue member
        obtain ⟨claim, listed, issues, same, inside⟩ := (flat issue).mp member
        rw [affected, List.map_map] at listed
        obtain ⟨path, planned, rfl⟩ := List.mem_map.mp listed
        obtain ⟨others, again, _, free⟩ := each path planned
        rw [Function.comp_apply, again] at same
        cases same
        have fit : PathFits tables context plan path := by
          rcases fits with absent | fits
          · exact absurd absent none
          · exact fits path planned
        rw [free.mpr fit] at inside
        cases inside

end

/-! ### The checks -/

theorem validated_ne_empty {raw : Json} (valid : validateRelativeRepoPath raw = .ok path) :
    path.toList ≠ [] := by
  intro empty
  cases raw with
  | str text =>
    have parts : pathParts path = pathParts text := by
      rw [validateRelativeRepoPath_ok valid, pathParts_asPosix]
    rw [Worktree.pathParts_empty empty] at parts
    have dot : path = "." := by
      rw [validateRelativeRepoPath_ok valid, ← parts]
      rfl
    rw [dot] at empty
    revert empty
    decide
  | _ => cases valid

theorem deterministicChecks_accepted {plan : ModelEngineeringPlanOutput} {context : PlanningContext}
    {blockers : List Dict} {id : String} {version : Nat}
    (valid : validateDeterministicAcceptanceChecks plan = .ok []) :
    deterministicAcceptanceCheckIssues
      (planPayload (EngineeringPlanRepository.newRow context plan blockers id version)) = .ok [] := by
  have normal : ∃ checks, normalizeDeterministicAcceptanceChecks (plan.affectedFiles.map (·.path))
      (.arr (plan.deterministicAcceptanceChecks.map (fun check => .obj check.dump))) = .ok checks := by
    unfold validateDeterministicAcceptanceChecks at valid
    split at valid
    · next checks read => exact ⟨checks, read⟩
    · cases valid
    · cases valid
  obtain ⟨checks, read⟩ := normal
  have grows : AuthorizesMore (plan.affectedFiles.map (·.path))
      (affectedPaths (plan.affectedFiles.map (fun file => .obj file.dump))) := by
    intro raw path known member
    obtain ⟨file, listed, rfl⟩ := List.mem_map.mp member
    refine List.mem_filterMap.mpr ⟨.obj file.dump, List.mem_map_of_mem listed, ?_⟩
    have held : Dict.get file.dump "path" = .str file.path := rfl
    dsimp only
    rw [held]
    simp [Json.text?, validated_ne_empty known]
  have frozen : normalizeDeterministicAcceptanceChecks
      (affectedPaths (plan.affectedFiles.map (fun file => .obj file.dump)))
      (.arr (plan.deterministicAcceptanceChecks.map (fun check => .obj check.dump))) = .ok checks :=
    normalizeFrom_mono grows read
  have payload : deterministicAcceptanceCheckIssues
      (planPayload (EngineeringPlanRepository.newRow context plan blockers id version)) =
      checkIssues (affectedPaths (plan.affectedFiles.map (fun file => .obj file.dump)))
        (plan.deterministicAcceptanceChecks.map (fun check => .obj check.dump)) := by
    have files : Dict.getOr (planPayload
        (EngineeringPlanRepository.newRow context plan blockers id version)) "affected_files" (.arr []) =
        objects (plan.affectedFiles.map AffectedFilePlan.dump) := rfl
    have listed : Dict.getOr (planPayload
        (EngineeringPlanRepository.newRow context plan blockers id version))
        "deterministic_acceptance_checks" (.arr []) =
        objects (plan.deterministicAcceptanceChecks.map DeterministicAcceptanceCheck.dump) := rfl
    unfold deterministicAcceptanceCheckIssues
    rw [files, listed]
    unfold objects
    rw [List.map_map, List.map_map]
    rfl
  rw [payload]
  unfold checkIssues
  rw [frozen]

/-! ### The freeze -/

namespace PlanFreezeService

theorem addFreeze_raised {row : PlanFreezeRow} {store after : Store} {error : PyExc}
    (raised : exec (addFreeze row) store = (.error error, after)) : error = .databaseError := by
  unfold addFreeze at raised
  rw [exec_get_bind] at raised
  split at raised
  · cases raised
    rfl
  · cases raised

theorem add_raised {plan : EngineeringPlanRow} {store : Store} {error : PyExc}
    (raised : (exec (add plan) store).1 = .error error) : error = .databaseError := by
  unfold add at raised
  rw [exec_get_bind, exec_bind_of_ok (Op.exec_nextId _ _),
    exec_bind_of_ok (Op.exec_utcNow _)] at raised
  dsimp only at raised
  generalize (store.issue .planFreeze).tick = middle at raised
  generalize freezeRow _ _ _ = row at raised
  rw [exec_bind] at raised
  cases added : exec (addFreeze row) middle with
  | mk ended after =>
    rw [added] at raised
    cases ended with
    | ok _ =>
      dsimp only at raised
      rw [exec_bind_of_ok (Op.exec_record _ _)] at raised
      cases raised
    | error other =>
      cases raised
      exact addFreeze_raised added

theorem freeze_gated {gates : FreezeGates} {planId : String} {store : Store} {plan : EngineeringPlanRow}
    {codes : List String} (unfrozen : freezeOfPlan store.toTables planId = none)
    (present : store.plans.get? planId = some plan)
    (checked : deterministicAcceptanceCheckIssues (planPayload plan) = .ok [])
    (gated : gates store plan = .ok codes) :
    exec (freeze gates planId) store =
      exec (refuse plan "" codes >>= fun _ => add plan) store := by
  unfold freeze
  rw [exec_get_bind, unfrozen]
  dsimp only
  rw [present]
  dsimp only
  rw [exec_bind_ofExcept checked]
  rw [exec_bind_of_ok (show exec (refuse plan "INVALID_DETERMINISTIC_ACCEPTANCE_CHECK" [])
    store = (.ok (), store) from rfl)]
  rw [exec_bind_ofExcept gated]

theorem freeze_passed {gates : FreezeGates} {planId : String} {store : Store}
    {plan : EngineeringPlanRow} (unfrozen : freezeOfPlan store.toTables planId = none)
    (present : store.plans.get? planId = some plan)
    (checked : deterministicAcceptanceCheckIssues (planPayload plan) = .ok [])
    (gated : gates store plan = .ok []) :
    exec (freeze gates planId) store = exec (add plan) store := by
  rw [freeze_gated unfrozen present checked gated]
  exact exec_bind_of_ok (show exec (refuse plan "" []) store = (.ok (), store) from rfl)

theorem freeze_refused {gates : FreezeGates} {planId : String} {store : Store}
    {plan : EngineeringPlanRow} {code : String} {rest : List String}
    (unfrozen : freezeOfPlan store.toTables planId = none)
    (present : store.plans.get? planId = some plan)
    (checked : deterministicAcceptanceCheckIssues (planPayload plan) = .ok [])
    (gated : gates store plan = .ok (code :: rest)) :
    (exec (freeze gates planId) store).1 = .error (.planFreezeError code) := by
  rw [freeze_gated unfrozen present checked gated]
  rfl

end PlanFreezeService

/-- A plan the planner accepted without a blocker, persisted and not frozen yet. -/
structure Persisted (store : Store) (context : PlanningContext) (plan : ModelEngineeringPlanOutput)
    (row : EngineeringPlanRow) : Prop where
  stored : store.plans.get? row.id = some row
  unfrozen : freezeOfPlan store.toTables row.id = none
  accepted : ∃ validated, validateAndEnrichPlan store.toTables context plan = .ok validated ∧
    validated.blockers = [] ∧ ∃ version,
      row = EngineeringPlanRepository.newRow context validated.plan [] row.id version

section

variable {store : Store} {context : PlanningContext} {plan : ModelEngineeringPlanOutput}
  {row : EngineeringPlanRow}

theorem Persisted.gates (persisted : Persisted store context plan row)
    (own : OwnEvidence store.toTables context) :
    deterministicAcceptanceCheckIssues (planPayload row) = .ok [] ∧
      ∃ issues, validatePlanFileStates store.toTables row = .ok issues ∧
        (∀ issue ∈ issues, issue.code ∈ fileRefusals) ∧
        (issues = [] ↔ FilesFit store.toTables context plan) := by
  obtain ⟨validated, done, free, version, is⟩ := persisted.accepted
  obtain ⟨files, known⟩ := validateAndEnrichPlan_accepted done free
  constructor
  · have valid : validateDeterministicAcceptanceChecks validated.plan = .ok [] := by
      rw [known.enriched]
      exact known.checks
    rw [is]
    exact deterministicChecks_accepted valid
  · have affected : row.affectedFiles = files.map AffectedFilePlan.dump := by
      rw [is, known.enriched]
      rfl
    have evidence : row.evidenceIds = context.evidence.map (·.evidenceId) := by
      rw [is]
      rfl
    have snapshots : row.repositorySnapshotIds = namedSnapshots context := by
      rw [is]
      rfl
    exact validatePlanFileStates_accepted own (known_of_accepted known.references) known.sorted
      snapshots evidence affected

/-- Of an accepted plan, the checks are never a reason to refuse the freeze, and the files are
none exactly when they fit. -/
theorem accepted_plan_freezes_iff (persisted : Persisted store context plan row)
    (own : OwnEvidence store.toTables context) :
    (deterministicAcceptanceCheckIssues (planPayload row) = .ok [] ∧
        validatePlanFileStates store.toTables row = .ok [] ↔ FilesFit store.toTables context plan) ∧
      ∀ claims others found, claims store row = .ok [] → others store row = .ok found →
        (∀ code ∈ found, code ∉ fileRefusals) →
        ((∀ code ∈ fileRefusals,
            (exec (PlanFreezeService.freeze (planGates claims others) row.id) store).1 ≠
              .error (.planFreezeError code)) ↔ FilesFit store.toTables context plan) := by
  obtain ⟨checked, issues, found, codes, free⟩ := persisted.gates own
  constructor
  · constructor
    · rintro ⟨_, none⟩
      rw [found] at none
      cases none
      exact free.mp rfl
    · intro fits
      refine ⟨checked, ?_⟩
      rw [found, free.mpr fits]
  · intro claims others more silent rest named
    have gated : planGates claims others store row = .ok (issues.map HardeningIssue.code ++ more) := by
      unfold planGates
      simp only [silent, found, rest, bind, Except.bind]
      rfl
    constructor
    · intro never
      apply free.mp
      cases some : issues with
      | nil => rfl
      | cons issue others =>
        have member : issue ∈ issues := by
          rw [some]
          exact List.mem_cons_self
        rw [some] at gated
        exact absurd (PlanFreezeService.freeze_refused persisted.unfrozen persisted.stored checked
          gated) (never issue.code (codes issue member))
    · intro fits code listed refused
      rw [free.mpr fits] at gated
      cases more with
      | nil =>
        have passed := PlanFreezeService.freeze_passed persisted.unfrozen persisted.stored checked gated
        rw [passed] at refused
        cases PlanFreezeService.add_raised refused
      | cons first later =>
        have other := PlanFreezeService.freeze_refused persisted.unfrozen persisted.stored checked gated
        rw [other] at refused
        cases refused
        exact named _ List.mem_cons_self listed

end

/-- A context with one empty snapshot, and an answer that proposes one new file. -/
def emptySnapshot : RepositorySnapshotRow where
  id := "LSNAP_000001"

def fileContext : PlanningContext where
  taskId := "LTASK_000001"
  projectId := "LPROJ_000001"
  taskContractId := "LCONTR_000001"
  snapshotIds := ["LSNAP_000001"]

def fileAnswer (path : String) : ModelEngineeringPlanOutput where
  affectedFiles := [{ path := path }]

def filePlan (path : String) : ModelEngineeringPlanOutput :=
  (elevated fileContext (supported (classified (fileAnswer path)
    [{ path := path, status := .newProposed }]))).1

def fileRow (path : String) : EngineeringPlanRow :=
  EngineeringPlanRepository.newRow fileContext (filePlan path) [] "LPLAN_000001" 1

def fileStore (path : String) : Store where
  snapshots := ⟨[emptySnapshot], by simp⟩
  plans := ⟨[fileRow path], by simp⟩

theorem fileStore_persisted
    (sorted : classifyAffectedFiles (fileStore path).toTables fileContext (fileAnswer path) =
      .ok [{ path := path, status := .newProposed }])
    (within : Tasks.authorityExceeds (filePlan path).requiredAuthorityLevel .l1 = false) :
    Persisted (fileStore path) fileContext (fileAnswer path) (fileRow path) := by
  have free : escalationBlockers fileContext (filePlan path).requiredAuthorityLevel = [] := by
    unfold escalationBlockers
    rw [show fileContext.contractAuthorityLevel = .l1 from rfl, within]
    rfl
  have done : validateAndEnrichPlan (fileStore path).toTables fileContext (fileAnswer path) =
      .ok ⟨filePlan path, [], (elevated fileContext (supported (classified (fileAnswer path)
        [{ path := path, status := .newProposed }]))).2⟩ := by
    unfold filePlan at free ⊢
    unfold validateAndEnrichPlan
    rw [sorted]
    simp only [bind, Except.bind]
    rw [show validateDeterministicAcceptanceChecks (classified (fileAnswer path)
      [{ path := path, status := .newProposed }]) = .ok [] from rfl]
    dsimp only
    rw [free]
    rfl
  have stored : fileRow path ∈ (fileStore path).plans.rows := List.mem_singleton.mpr rfl
  exact ⟨Table.get?_of_mem stored, rfl, _, done, rfl, 1, rfl⟩

theorem fileContext_own (path : String) : OwnEvidence (fileStore path).toTables fileContext := by
  intro item member
  cases member

theorem new_file_freezes :
    (deterministicAcceptanceCheckIssues (planPayload (fileRow "a.md")) = .ok [] ∧
        validatePlanFileStates (fileStore "a.md").toTables (fileRow "a.md") = .ok [] ↔
      FilesFit (fileStore "a.md").toTables fileContext (fileAnswer "a.md")) ∧
      ∀ claims others found, claims (fileStore "a.md") (fileRow "a.md") = .ok [] →
        others (fileStore "a.md") (fileRow "a.md") = .ok found → (∀ code ∈ found, code ∉ fileRefusals) →
        ((∀ code ∈ fileRefusals,
            (exec (PlanFreezeService.freeze (planGates claims others) "LPLAN_000001")
              (fileStore "a.md")).1 ≠ .error (.planFreezeError code)) ↔
          FilesFit (fileStore "a.md").toTables fileContext (fileAnswer "a.md")) :=
  accepted_plan_freezes_iff (fileStore_persisted (by decide +kernel) (by decide +kernel))
    (fileContext_own "a.md")

/-- An absolute path is a proposed file to the planner and no file to the freeze. -/
theorem absolute_path_unfreezable :
    Persisted (fileStore "/a.md") fileContext (fileAnswer "/a.md") (fileRow "/a.md") ∧
      OwnEvidence (fileStore "/a.md").toTables fileContext ∧
      (exec (PlanFreezeService.freeze
        (planGates (fun _ _ => .ok []) (fun _ _ => .ok [])) "LPLAN_000001") (fileStore "/a.md")).1 =
          .error (.planFreezeError "INVALID_PLAN_FILE_PATH") := by
  have persisted : Persisted (fileStore "/a.md") fileContext (fileAnswer "/a.md") (fileRow "/a.md") :=
    fileStore_persisted (by decide +kernel) (by decide +kernel)
  have checked : deterministicAcceptanceCheckIssues (planPayload (fileRow "/a.md")) = .ok [] := by
    decide +kernel
  have gated : planGates (fun _ _ => .ok []) (fun _ _ => .ok []) (fileStore "/a.md") (fileRow "/a.md") =
      .ok ["INVALID_PLAN_FILE_PATH"] := by
    decide +kernel
  exact ⟨persisted, fileContext_own "/a.md",
    PlanFreezeService.freeze_refused persisted.unfrozen persisted.stored checked gated⟩

end Lucius.Planning
