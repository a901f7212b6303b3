import Lucius.Planning.Enrichment
import Lucius.Portfolio.Sources

/-! The planned paths as an evaluation judges them, against the planner's own classification. -/

namespace Lucius.PlannedPaths

open Planning Queue

inductive MetricApplicability where
  | captured | notCaptured | notApplicable
  deriving DecidableEq, Repr

/-- Scores are whole here. -/
structure EvaluationDimension where
  name : String
  status : String
  applicability : MetricApplicability := .captured
  score : Option Nat := none
  actual : List String := []
  missing : List String := []
  notes : Option String := none
  deriving DecidableEq, Repr

def notCapturedDimension (name message : String) : EvaluationDimension where
  name := name
  status := "NOT_CAPTURED"
  applicability := .notCaptured
  notes := some message

/-- `str(value).strip()` -/
def spelled (text : String) : String := String.ofList (Json.strip text.toList)

def normalizeSet (values : List String) : List String :=
  ((values.map spelled).filter (fun value => value ≠ "")).dedup

def marksNew (path : String) : Bool := "NEW:".toList.isPrefixOf path.toList

/-- A dimension that fails for each path it misses. -/
def pathsDimension (name notes : String) (planned missing : List String) : EvaluationDimension where
  name := name
  status := if missing.isEmpty then "PASS" else "FAIL"
  score := some (if missing.isEmpty then 100 else 0)
  actual := sortedBy id planned
  missing := missing
  notes := some notes

def hallucinatedPathsDimension (knownPaths plannedFiles : List String) : EvaluationDimension :=
  let known := normalizeSet knownPaths
  let planned := normalizeSet plannedFiles
  if known.isEmpty then
    notCapturedDimension "hallucinated_files_paths" "Repository manifest paths were not captured."
  else
    pathsDimension "hallucinated_files_paths" "missing contains hallucinated paths for this dimension" planned
      (sortedBy id (planned.filter (fun path => decide (path ∉ known) && !marksNew path)))

/-- The path of an entry that a plan proposes to add. -/
def proposedPath : Json → Option String
  | .obj item =>
    if upper (Dict.getOr item "status" (.str "")).pyStr ∈ ["NEW_PROPOSED", "NEW", "CREATE"] then
      some (spelled (Dict.getOr item "path" (.str "")).pyStr)
    else none
  | _ => none

def plannedPathValidityDimension (knownPaths : List String) (affectedFiles : List Json)
    (plannedFiles : List String) : EvaluationDimension :=
  let known := normalizeSet knownPaths
  let planned := normalizeSet plannedFiles
  if known.isEmpty then
    notCapturedDimension "planned_path_validity" "Repository manifest paths were not captured."
  else
    let proposedNew := affectedFiles.filterMap proposedPath
    pathsDimension "planned_path_validity" "missing contains invalid planned paths for this dimension" planned
      (sortedBy id (planned.filter
        (fun path => decide (path ∉ known) && decide (path ∉ proposedNew) && !marksNew path)))

def filePath : Json → String
  | .obj item => (Dict.getOr item "path" (.str "")).pyStr
  | item => item.pyStr

def stepFiles : Json → Except PyExc (List String)
  | .obj step => do
    let files ← (Dict.getOr step "affected_files" (.arr [])).pyIter
    return files.map Json.pyStr
  | _ => .error .attributeError

def planFiles (plan : Dict) : Except PyExc (List String) := do
  let files ← (plan.getOr "affected_files" (.arr [])).pyIter
  let steps ← (plan.getOr "steps" (.arr [])).pyIter
  let named ← steps.mapM stepFiles
  return ((files.map filePath ++ named.flatten).filter (fun path => path ≠ "")).eraseDups

/-- The two dimensions on paths of a planning-only evaluation. -/
def pathDimensions (plan artifact : Dict) : Except PyExc (EvaluationDimension × EvaluationDimension) := do
  let known ← (artifact.getOr "known_paths" (.arr [])).pyIter
  let files ← planFiles plan
  let affected ← (plan.getOr "affected_files" (.arr [])).pyIter
  return (plannedPathValidityDimension (known.map Json.pyStr) affected files,
    hallucinatedPathsDimension (known.map Json.pyStr) files)

def dumpStep (step : PlanStep) : Dict :=
  [("step_id", .str step.stepId), ("affected_files", Json.ofTexts step.affectedFiles)]

/-- A plan as its freeze hands it to the evaluation. -/
def evaluatedPlan (plan : ModelEngineeringPlanOutput) : Dict :=
  [("affected_files", objects (plan.affectedFiles.map AffectedFilePlan.dump)),
    ("steps", objects (plan.steps.map dumpStep))]

/-- The dimensions report the same paths, and none of a file that the plan classifies as new. -/
structure NewFilesSpared (plan : ModelEngineeringPlanOutput)
    (dimensions : EvaluationDimension × EvaluationDimension) : Prop where
  same : ∀ path, path ∈ dimensions.1.missing ↔ path ∈ dimensions.2.missing
  spared : ∀ file ∈ plan.affectedFiles, file.status = .newProposed →
    spelled file.path ∉ dimensions.1.missing ∧ spelled file.path ∉ dimensions.2.missing

/-- The planner takes the path for a file to be added. -/
def ProposedNew (context : PlanningContext) (manifest : List String) (path : String) : Prop :=
  path ≠ "" ∧ upper path ≠ "UNKNOWN" ∧ evidenceByPath context path = [] ∧ path ∉ manifest ∧
    ('/' ∈ path.toList ∨ '.' ∈ path.toList)

instance (context : PlanningContext) (manifest : List String) (path : String) :
    Decidable (ProposedNew context manifest path) :=
  inferInstanceAs (Decidable (_ ∧ _))

theorem mem_normalizeSet {values : List String} {path : String} :
    path ∈ normalizeSet values ↔ path ≠ "" ∧ ∃ value ∈ values, spelled value = path := by
  simp only [normalizeSet, List.mem_dedup, List.mem_filter, List.mem_map, decide_eq_true_eq]
  exact And.comm

theorem classifyFile_new (context : PlanningContext) (manifest : List String) (file : AffectedFilePlan) :
    (classifyFile context manifest file).status = .newProposed ↔ ProposedNew context manifest file.path := by
  have named : file.path.toList.isEmpty = true ↔ file.path = "" := by simp
  unfold classifyFile ProposedNew
  dsimp only
  split
  · rename_i unnamed
    rw [Bool.or_eq_true, named, decide_eq_true_eq] at unnamed
    constructor
    · intro new
      cases new
    · rintro ⟨filled, known, -⟩
      exact absurd unnamed (not_or.mpr ⟨filled, known⟩)
  rename_i known
  rw [Bool.or_eq_true, named, decide_eq_true_eq, not_or] at known
  split
  · rename_i supported
    constructor
    · intro new
      cases new
    · rintro ⟨-, -, none, -⟩
      rw [none] at supported
      cases supported
  rename_i unsupported
  have none : evidenceByPath context file.path = [] := by simpa using unsupported
  split
  · rename_i listed
    constructor
    · intro new
      cases new
    · rintro ⟨-, -, -, absent, -⟩
      exact absurd listed absent
  rename_i absent
  split
  · rename_i shaped
    exact ⟨fun _ => ⟨known.1, known.2, none, absent, shaped⟩, fun _ => rfl⟩
  · rename_i plain
    constructor
    · intro new
      cases new
    · rintro ⟨-, -, -, -, shaped⟩
      exact absurd shaped plain

/-- A path of a new file is not blank. -/
theorem spelled_new {context : PlanningContext} {manifest : List String} {path : String}
    (proposed : ProposedNew context manifest path) : spelled path ≠ "" := by
  intro blank
  have empty : Json.strip path.toList = [] := by
    have lists := congrArg String.toList blank
    simpa [spelled] using lists
  have spaces := Portfolio.all_of_strip_eq_nil empty
  rcases proposed.2.2.2.2 with slash | dot
  · exact absurd (spaces '/' slash) (by decide)
  · exact absurd (spaces '.' dot) (by decide)

theorem proposedPath_dump (file : AffectedFilePlan) :
    proposedPath (.obj file.dump) = if file.status = .newProposed then some (spelled file.path) else none := by
  have path : Dict.getOr file.dump "path" (.str "") = .str file.path := rfl
  have status : Dict.getOr file.dump "status" (.str "") = .str (StrEnum.value file.status) := rfl
  rw [proposedPath, path, status, Json.pyStr_str, Json.pyStr_str]
  cases file.status <;> rfl

theorem stepFiles_dump (step : PlanStep) : stepFiles (.obj (dumpStep step)) = .ok step.affectedFiles := by
  have files : Dict.getOr (dumpStep step) "affected_files" (.arr []) = Json.ofTexts step.affectedFiles := rfl
  rw [stepFiles, files]
  simp [Json.ofTexts, Json.pyIter, bind, Except.bind, pure, Except.pure, Function.comp_def]

theorem mapM_stepFiles (steps : List PlanStep) :
    ((steps.map dumpStep).map Json.obj).mapM stepFiles = .ok (steps.map (·.affectedFiles)) := by
  induction steps with
  | nil => rfl
  | cons step rest ih =>
    rw [List.map_cons, List.map_cons, List.mapM_cons, stepFiles_dump, ih]
    rfl

/-- The planned files that the evaluation reads of a plan. -/
def evaluatedFiles (plan : ModelEngineeringPlanOutput) : List String :=
  ((plan.affectedFiles.map (·.path) ++ plan.steps.flatMap (·.affectedFiles)).filter
    (fun path => path ≠ "")).eraseDups

def evaluatedItems (plan : ModelEngineeringPlanOutput) : List Json :=
  (plan.affectedFiles.map AffectedFilePlan.dump).map Json.obj

theorem planFiles_evaluated (plan : ModelEngineeringPlanOutput) :
    planFiles (evaluatedPlan plan) = .ok (evaluatedFiles plan) := by
  have files : Dict.getOr (evaluatedPlan plan) "affected_files" (.arr []) = .arr (evaluatedItems plan) := rfl
  have steps : Dict.getOr (evaluatedPlan plan) "steps" (.arr []) = objects (plan.steps.map dumpStep) := rfl
  have paths : (evaluatedItems plan).map filePath = plan.affectedFiles.map (·.path) := by
    rw [evaluatedItems, List.map_map, List.map_map]
    apply List.map_congr_left
    exact fun file _ => Json.pyStr_str file.path
  rw [planFiles, files, steps, objects]
  simp only [Json.pyIter, bind, Except.bind, mapM_stepFiles, paths, pure, Except.pure, evaluatedFiles,
    List.flatMap_def]

theorem pathDimensions_evaluated {artifact : Dict} {paths : List String}
    (held : artifact.getOr "known_paths" (.arr []) = Json.ofTexts paths)
    (plan : ModelEngineeringPlanOutput) : pathDimensions (evaluatedPlan plan) artifact =
      .ok (plannedPathValidityDimension paths (evaluatedItems plan) (evaluatedFiles plan),
        hallucinatedPathsDimension paths (evaluatedFiles plan)) := by
  have listed : (paths.map Json.str).map Json.pyStr = paths := by
    rw [List.map_map]
    exact List.map_id paths
  have items : Dict.getOr (evaluatedPlan plan) "affected_files" (.arr []) = .arr (evaluatedItems plan) := rfl
  rw [pathDimensions, held, planFiles_evaluated, items, Json.ofTexts]
  simp only [Json.pyIter, bind, Except.bind, pure, Except.pure, listed]

section

variable {paths files : List String} {items : List Json} {path : String}

theorem mem_hallucinated : path ∈ (hallucinatedPathsDimension paths files).missing ↔
    normalizeSet paths ≠ [] ∧ path ∈ normalizeSet files ∧ path ∉ normalizeSet paths ∧ marksNew path = false := by
  unfold hallucinatedPathsDimension
  dsimp only
  split
  · rename_i empty
    simp [notCapturedDimension, List.isEmpty_iff.mp empty]
  · rename_i captured
    have some : normalizeSet paths ≠ [] := fun empty => captured (List.isEmpty_iff.mpr empty)
    simp [pathsDimension, mem_sortedBy, some]

theorem mem_invalid : path ∈ (plannedPathValidityDimension paths items files).missing ↔
    path ∈ (hallucinatedPathsDimension paths files).missing ∧ path ∉ items.filterMap proposedPath := by
  rw [mem_hallucinated]
  unfold plannedPathValidityDimension
  dsimp only
  split
  · rename_i empty
    simp [notCapturedDimension, List.isEmpty_iff.mp empty]
  · rename_i captured
    have some : normalizeSet paths ≠ [] := fun empty => captured (List.isEmpty_iff.mpr empty)
    simp only [pathsDimension, mem_sortedBy, List.mem_filter, Bool.and_eq_true, decide_eq_true_eq,
      Bool.not_eq_true']
    tauto

end

section

variable {tables : Tables} {context : PlanningContext} {plan : ModelEngineeringPlanOutput}
  {validated : ValidatedPlan} {manifest paths : List String}

theorem enriched_plan (enriched : validateAndEnrichPlan tables context plan = .ok validated)
    (read : manifestPaths tables context = .ok manifest) :
    validated.plan.affectedFiles = (plannedPaths plan).map (enrichedFile context manifest plan) ∧
      validated.plan.steps.flatMap (·.affectedFiles) = plan.steps.flatMap (·.affectedFiles) := by
  unfold validateAndEnrichPlan at enriched
  obtain ⟨files, listed, enriched⟩ := except_bind_ok enriched
  obtain ⟨checked, _, enriched⟩ := except_bind_ok enriched
  cases enriched
  rw [classifyAffectedFiles_of_manifest read] at listed
  cases listed
  exact ⟨rfl, settled_paths plan _⟩

/-- What the evaluation plans are the paths of the plan as the model gave it, without space around. -/
theorem mem_planned (enriched : validateAndEnrichPlan tables context plan = .ok validated)
    (read : manifestPaths tables context = .ok manifest) {path : String} :
    path ∈ normalizeSet (evaluatedFiles validated.plan) ↔
      path ≠ "" ∧ ∃ planned ∈ plannedPaths plan, spelled planned = path := by
  obtain ⟨files, steps⟩ := enriched_plan enriched read
  have stepped {path : String} (member : path ∈ plan.steps.flatMap (·.affectedFiles)) :
      path ∈ plannedPaths plan := by
    rw [plannedPaths, mem_sortedBy, List.mem_dedup]
    exact List.mem_append_right _ member
  rw [mem_normalizeSet, evaluatedFiles, files, steps, enriched_paths]
  refine and_congr_right fun filled => ?_
  constructor
  · rintro ⟨value, member, same⟩
    have inside := (List.mem_filter.mp (List.mem_eraseDups.mp member)).1
    exact ⟨value, (List.mem_append.mp inside).elim id stepped, same⟩
  · rintro ⟨value, member, same⟩
    refine ⟨value, List.mem_eraseDups.mpr (List.mem_filter.mpr ⟨List.mem_append_left _ member, ?_⟩), same⟩
    rw [decide_eq_true_eq]
    rintro rfl
    exact filled (same.symm.trans rfl)

theorem mem_proposed (enriched : validateAndEnrichPlan tables context plan = .ok validated)
    (read : manifestPaths tables context = .ok manifest) {path : String} :
    path ∈ (evaluatedItems validated.plan).filterMap proposedPath ↔
      ∃ planned ∈ plannedPaths plan, ProposedNew context manifest planned ∧ spelled planned = path := by
  rw [evaluatedItems, (enriched_plan enriched read).1]
  simp only [List.mem_filterMap, List.mem_map, exists_exists_and_eq_and, proposedPath_dump,
    Option.ite_none_right_eq_some, Option.some.injEq, enrichedFile_path]
  refine exists_congr fun planned => and_congr_right fun _ => and_congr_left fun _ => ?_
  rw [enrichedFile, classifyFile_new, plannedFile_path]

/-- The dimensions agree and spare the new files exactly when the manifests name no path, or name
each path the planner takes for a new file, or it begins with the mark of one. -/
theorem new_files_spared_iff {artifact : Dict}
    (enriched : validateAndEnrichPlan tables context plan = .ok validated)
    (read : manifestPaths tables context = .ok manifest)
    (held : artifact.getOr "known_paths" (.arr []) = Json.ofTexts paths)
    (manifests : ∀ path, path ∈ paths ↔ path ∈ manifest) :
    ∃ dimensions, pathDimensions (evaluatedPlan validated.plan) artifact = .ok dimensions ∧
      (NewFilesSpared validated.plan dimensions ↔
        (∀ path ∈ manifest, spelled path = "") ∨
          ∀ path ∈ plannedPaths plan, ProposedNew context manifest path →
            (∃ known ∈ manifest, spelled known = spelled path) ∨ marksNew (spelled path) = true) := by
  refine ⟨_, pathDimensions_evaluated held validated.plan, ?_⟩
  have known {path : String} : path ∈ normalizeSet paths ↔
      path ≠ "" ∧ ∃ value ∈ manifest, spelled value = path := by
    rw [mem_normalizeSet]
    simp only [manifests]
  constructor
  · rintro ⟨same, -⟩
    by_cases captured : normalizeSet paths = []
    · refine .inl fun path member => ?_
      by_contra filled
      have inside := known.mpr ⟨filled, path, member, rfl⟩
      rw [captured] at inside
      cases inside
    · refine .inr fun path member proposed => ?_
      by_contra unknown
      obtain ⟨absent, unmarked⟩ := not_or.mp unknown
      have reported : spelled path ∈ (hallucinatedPathsDimension paths (evaluatedFiles validated.plan)).missing :=
        mem_hallucinated.mpr ⟨captured, (mem_planned enriched read).mpr ⟨spelled_new proposed, path, member, rfl⟩,
          fun inside => absent (known.mp inside).2, by simpa using unmarked⟩
      have invalid := mem_invalid.mp ((same _).mpr reported)
      exact invalid.2 ((mem_proposed enriched read).mpr ⟨path, member, proposed, rfl⟩)
  · intro accepted
    have unreported {path : String} (member : path ∈ plannedPaths plan)
        (proposed : ProposedNew context manifest path) :
        spelled path ∉ (hallucinatedPathsDimension paths (evaluatedFiles validated.plan)).missing := by
      intro reported
      obtain ⟨captured, -, absent, unmarked⟩ := mem_hallucinated.mp reported
      rcases accepted with blank | named
      · obtain ⟨first, rest, listed⟩ := List.exists_cons_of_ne_nil captured
        obtain ⟨filled, value, inside, same⟩ := known.mp (listed ▸ List.mem_cons_self (a := first) (l := rest))
        exact filled (same ▸ blank value inside)
      · rcases named path member proposed with inside | marked
        · exact absent (known.mpr ⟨spelled_new proposed, inside⟩)
        · rw [unmarked] at marked
          cases marked
    refine ⟨fun path => ?_, ?_⟩
    · refine ⟨fun invalid => (mem_invalid.mp invalid).1, fun reported => mem_invalid.mpr ⟨reported, ?_⟩⟩
      intro new
      obtain ⟨planned, member, proposed, rfl⟩ := (mem_proposed enriched read).mp new
      exact unreported member proposed reported
    · intro file member new
      rw [(enriched_plan enriched read).1] at member
      obtain ⟨path, inside, rfl⟩ := List.mem_map.mp member
      have proposed : ProposedNew context manifest path := by
        rw [enrichedFile, classifyFile_new, plannedFile_path] at new
        exact new
      rw [enrichedFile_path]
      exact ⟨fun invalid => unreported inside proposed (mem_invalid.mp invalid).1, unreported inside proposed⟩

end

def oneFileTables : Tables where
  snapshots := Table.empty.add {
    id := "LSNAP_000001"
    manifest := .obj [("files", .arr [.obj [("path", .str "src/a.py")]])] }

def oneFileContext : PlanningContext where
  taskId := "LTASK_000001"
  projectId := "LPROJ_000001"
  taskContractId := "LCONTR_000001"
  snapshotIds := ["LSNAP_000001"]

def filePlan (path : String) : ModelEngineeringPlanOutput where
  affectedFiles := [{ path := path }]

def oneFileArtifact : Dict := [("known_paths", Json.ofTexts ["src/a.py"])]

theorem filePlan_enriched {path : String}
    (valid : (validateAndEnrichPlan oneFileTables oneFileContext (filePlan path)).isOk = true) :
    ∃ validated, validateAndEnrichPlan oneFileTables oneFileContext (filePlan path) = .ok validated := by
  cases ended : validateAndEnrichPlan oneFileTables oneFileContext (filePlan path) with
  | error error =>
    rw [ended] at valid
    cases valid
  | ok validated => exact ⟨validated, rfl⟩

theorem known_file_spared : ∃ validated dimensions,
    validateAndEnrichPlan oneFileTables oneFileContext (filePlan "src/a.py") = .ok validated ∧
      pathDimensions (evaluatedPlan validated.plan) oneFileArtifact = .ok dimensions ∧
      NewFilesSpared validated.plan dimensions := by
  obtain ⟨validated, enriched⟩ := @filePlan_enriched "src/a.py" (by decide +kernel)
  obtain ⟨dimensions, evaluated, spared⟩ := @new_files_spared_iff oneFileTables oneFileContext
    (filePlan "src/a.py") validated ["src/a.py"] ["src/a.py"] oneFileArtifact enriched
    (by decide +kernel) rfl (fun _ => Iff.rfl)
  exact ⟨validated, dimensions, enriched, evaluated, spared.mpr (.inr (by decide +kernel))⟩

/-- A plan that adds a file: the path is valid, and hallucinated. -/
theorem new_file_hallucinated : ∃ validated dimensions,
    validateAndEnrichPlan oneFileTables oneFileContext (filePlan "src/new.py") = .ok validated ∧
      pathDimensions (evaluatedPlan validated.plan) oneFileArtifact = .ok dimensions ∧
      dimensions.1.missing = [] ∧ dimensions.2.missing = ["src/new.py"] ∧
      ¬ NewFilesSpared validated.plan dimensions := by
  obtain ⟨validated, enriched⟩ := @filePlan_enriched "src/new.py" (by decide +kernel)
  have evaluated := @pathDimensions_evaluated oneFileArtifact ["src/a.py"] rfl validated.plan
  have reported : (validateAndEnrichPlan oneFileTables oneFileContext (filePlan "src/new.py")).toOption.map
      (fun validated => (pathDimensions (evaluatedPlan validated.plan) oneFileArtifact).toOption.map
        (fun dimensions => (dimensions.1.missing, dimensions.2.missing))) =
      some (some ([], ["src/new.py"])) := by
    decide +kernel
  rw [enriched] at reported
  simp only [Except.toOption, Option.map_some, evaluated, Option.some.injEq, Prod.mk.injEq] at reported
  refine ⟨validated, _, enriched, evaluated, reported.1, reported.2, ?_⟩
  rintro ⟨same, -⟩
  have invalid := (same "src/new.py").mpr (by rw [reported.2]; exact List.mem_cons_self)
  rw [reported.1] at invalid
  cases invalid

end Lucius.PlannedPaths
