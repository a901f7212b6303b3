import Lucius.Pilots.ReleaseGate

/-! When a release gate that passes stands on sound inputs. -/

namespace Lucius.Pilots

/-! ### What the gate promises -/

def isSevere (correction : Dict) : Bool :=
  (correction.get "severity").isStr "MAJOR" || isCritical correction

/-- A passing disposition with valid current evidence names the dimension of each severe correction. -/
def Disposed (store : ArtifactStore) (evaluation : PlanEvaluation) : Prop :=
  ∀ correction ∈ evaluation.corrections, isSevere correction = true →
    ∃ (disposition : Dict) (dimensions : List Json),
      evaluation.implementationArtifact.get "evaluation_warning_disposition" = .obj disposition ∧
      disposition.get "result" = .str "PASS" ∧
      evidenceIdsFromClaim disposition ≠ [] ∧
      (∀ id ∈ evidenceIdsFromClaim disposition, Supports store (dispositionDemand disposition) id) ∧
      (disposition.getOr "disposed_correction_dimensions" (.arr [])).pyIter = .ok dimensions ∧
      dimensions.any (correction.get "dimension").pyEq = true

section

variable (scoreDropped : Json → Json → Except PyExc Bool) (store : ArtifactStore) (request : GateRequest)

structure SoundRelease : Prop where
  canonical : ∃ state, stored store.repositoryStates request.repositoryStateId = some state ∧
    state.classification = .canonicalClean
  evaluated : ∃ evaluation,
    stored store.planEvaluations request.deterministicEvaluationId = some evaluation ∧
    (evaluation.result = .pass ∨ evaluation.result = .passWithWarnings) ∧ Disposed store evaluation
  benchmarked : ∃ before after,
    stored store.benchmarkResults request.benchmarkBeforeId = some before ∧
    stored store.benchmarkResults request.benchmarkAfterId = some after ∧
    before.status ≠ .notRun ∧ after.status ≠ .notRun ∧
    compareRows scoreDropped before after = .ok (.noRegression, [])
  untouched : request.repositoryIntegrityResult = .unchanged

/-- Every check that the gate makes finds nothing to block, and the recommendation can be read. -/
structure NothingBlocks : Prop where
  canonical : ∃ state, stored store.repositoryStates request.repositoryStateId = some state ∧
    state.classification = .canonicalClean
  evaluated : ∃ evaluation leaked,
    stored store.planEvaluations request.deterministicEvaluationId = some evaluation ∧
    (evaluation.result = .pass ∨ evaluation.result = .passWithWarnings) ∧
    evaluation.corrections.any isCritical = false ∧
    (evaluation.result = .passWithWarnings →
      evaluationWarningBlockers store evaluation.corrections evaluation.implementationArtifact = .ok []) ∧
    leakageFailed evaluation.implementationArtifact = .ok leaked ∧
    ¬ (evaluation.evaluationMode = .planningOnly ∧ leaked = true)
  benchmarked : ∃ before after status reasons,
    stored store.benchmarkResults request.benchmarkBeforeId = some before ∧
    stored store.benchmarkResults request.benchmarkAfterId = some after ∧
    compareRows scoreDropped before after = .ok (status, reasons) ∧
    status ≠ .regression ∧ status ≠ .inconclusive
  untouched : request.repositoryIntegrityResult = .unchanged
  staged : stageBlockers store
    (artifactOf (stored store.planEvaluations request.deterministicEvaluationId))
    (comparesImplementation (stored store.planEvaluations request.deterministicEvaluationId)) = .ok []
  recommended : ∃ recommendation, clearedRecommendation store request
    (artifactOf (stored store.planEvaluations request.deterministicEvaluationId))
    (comparesImplementation (stored store.planEvaluations request.deterministicEvaluationId))
    (stored store.humanRubrics request.humanRubricId)
    ((stored store.humanRubrics request.humanRubricId).any (fun rubric => rubric.status = .captured)) =
      .ok recommendation

/-- What the gate does not look at: the severe corrections of an evaluation without warnings,
and whether the benchmarks were run. -/
def Overlooked : Prop :=
  (∃ evaluation, stored store.planEvaluations request.deterministicEvaluationId = some evaluation ∧
    evaluation.result = .pass ∧ ¬ Disposed store evaluation) ∨
  (∃ before, stored store.benchmarkResults request.benchmarkBeforeId = some before ∧
    before.status = .notRun) ∨
  (∃ after, stored store.benchmarkResults request.benchmarkAfterId = some after ∧ after.status = .notRun)

end

/-! ### What each section blocks -/

theorem repositoryStateBlockers_nil {state : Option RepositoryStateObservation} :
    repositoryStateBlockers state = [] ↔ ∃ row, state = some row ∧ row.classification = .canonicalClean := by
  cases state with
  | none => simp [repositoryStateBlockers]
  | some row =>
    unfold repositoryStateBlockers
    split
    · rename_i clean
      simp [clean]
    · rename_i dirty
      simp [dirty]

theorem integrityBlockers_nil {result : RepositoryIntegrityResult} :
    integrityBlockers result = [] ↔ result = .unchanged := by
  unfold integrityBlockers
  split
  · rename_i same
    simp [same]
  · rename_i other
    simp [other]

theorem resultBlockers_nil {evaluation : PlanEvaluation} :
    resultBlockers evaluation = [] ↔
      (evaluation.result = .pass ∨ evaluation.result = .passWithWarnings) ∧
        evaluation.corrections.any isCritical = false := by
  unfold resultBlockers
  cases result : evaluation.result with
  | pass => simp
  | passWithWarnings => simp
  | fail => simp
  | insufficientEvidence => simp

theorem evaluationBlockers_nil {store : ArtifactStore} {stored : Option PlanEvaluation} :
    evaluationBlockers store stored = .ok [] ↔ ∃ evaluation leaked, stored = some evaluation ∧
      (evaluation.result = .pass ∨ evaluation.result = .passWithWarnings) ∧
      evaluation.corrections.any isCritical = false ∧
      (evaluation.result = .passWithWarnings →
        evaluationWarningBlockers store evaluation.corrections evaluation.implementationArtifact = .ok []) ∧
      leakageFailed evaluation.implementationArtifact = .ok leaked ∧
      ¬ (evaluation.evaluationMode = .planningOnly ∧ leaked = true) := by
  cases stored with
  | none =>
    constructor
    · intro done
      cases done
    · rintro ⟨_, _, ⟨⟩, _⟩
  | some evaluation =>
    constructor
    · intro done
      have ⟨disposition, disposed, done⟩ := except_bind_ok done
      have ⟨leaked, audited, done⟩ := except_bind_ok done
      have empty := List.append_eq_nil_iff.mp (Except.ok.inj done)
      have ⟨results, undisposed⟩ := List.append_eq_nil_iff.mp empty.1
      have ⟨passing, calm⟩ := resultBlockers_nil.mp results
      refine ⟨evaluation, leaked, rfl, passing, calm, ?_, audited, ?_⟩
      · intro warned
        rw [dispositionBlockers, if_pos warned, undisposed] at disposed
        exact disposed
      · intro failing
        have last := empty.2
        rw [if_pos failing] at last
        cases last
    · rintro ⟨_, leaked, ⟨⟩, passing, calm, disposed, audited, clean⟩
      have results := resultBlockers_nil.mpr ⟨passing, calm⟩
      have disposition : dispositionBlockers store evaluation = .ok [] := by
        unfold dispositionBlockers
        split
        · rename_i warned
          exact disposed warned
        · rfl
      simp only [evaluationBlockers, disposition, audited, bind, Except.bind, results, if_neg clean,
        List.nil_append]
      rfl

theorem stored_get {α : Type} [Keyed α String] {table : Table α} {id : Option String} {row : α}
    (found : stored table id = some row) : table.get? (Keyed.key row) = some row := by
  cases id with
  | none => cases found
  | some text =>
    unfold stored at found
    dsimp only at found
    split at found
    · cases found
    · rw [Table.get?_key found]
      exact found

theorem compare_stored {scoreDropped : Json → Json → Except PyExc Bool} {store : ArtifactStore}
    {beforeId afterId : Option String} {before after : BenchmarkResult}
    (first : stored store.benchmarkResults beforeId = some before)
    (second : stored store.benchmarkResults afterId = some after) :
    compare scoreDropped store (some before.id) (some after.id) =
      (compareRows scoreDropped before after).map
        (fun compared => ⟨compared.1, some before.id, some after.id, compared.2⟩) := by
  have foundFirst : store.benchmarkResults.get? before.id = some before := stored_get first
  have foundSecond : store.benchmarkResults.get? after.id = some after := stored_get second
  unfold compare
  simp only [foundFirst, foundSecond]
  cases compareRows scoreDropped before after with
  | error failure => rfl
  | ok compared => rfl

theorem orElse_ne_nil (reasons : List String) (fallback : String) : orElse reasons fallback ≠ [] := by
  unfold orElse
  split
  · exact List.cons_ne_nil _ _
  · rename_i some
    simpa using some

theorem benchmarkBlockers_nil {scoreDropped : Json → Json → Except PyExc Bool} {store : ArtifactStore}
    {beforeId afterId : Option String} :
    (∃ status, benchmarkBlockers scoreDropped store (stored store.benchmarkResults beforeId)
        (stored store.benchmarkResults afterId) = .ok (status, [])) ↔
      ∃ before after status reasons, stored store.benchmarkResults beforeId = some before ∧
        stored store.benchmarkResults afterId = some after ∧
        compareRows scoreDropped before after = .ok (status, reasons) ∧
        status ≠ .regression ∧ status ≠ .inconclusive := by
  cases first : stored store.benchmarkResults beforeId with
  | none => simp [benchmarkBlockers]
  | some before =>
    cases second : stored store.benchmarkResults afterId with
    | none => simp [benchmarkBlockers]
    | some after =>
      have compared := @compare_stored scoreDropped _ _ _ _ _ first second
      unfold benchmarkBlockers
      simp only [compared]
      cases ran : compareRows scoreDropped before after with
      | error failure => simp [Except.map, bind, Except.bind, ran]
      | ok ended =>
        obtain ⟨status, reasons⟩ := ended
        have blocked := orElse_ne_nil reasons
        cases status <;> simp_all [Except.map, bind, Except.bind, pure, Except.pure]

/-! ### The recommendation of a blocked gate -/

theorem blockedRecommendation_notReady {comparesImplementation : Bool} {pilotStage : Json}
    {recommendation : AutonomyRecommendation}
    (done : blockedRecommendation comparesImplementation pilotStage = .ok recommendation) :
    recommendation.notReady = true := by
  unfold blockedRecommendation at done
  split at done
  · cases done
    decide
  split at done
  · cases done
    decide
  have ⟨queued, _, done⟩ := except_bind_ok done
  repeat' split at done
  all_goals
    cases done
    decide

/-! ### Dispositions -/

theorem inTexts_isStr {value : Json} {members : List String} {found : Bool}
    (read : value.inTexts members = .ok found) : found = members.any value.isStr := by
  unfold Json.inTexts at read
  split at read
  · exact (Except.ok.inj read).symm
  · cases read

theorem mem_severeCorrections {corrections severe : List Dict} (read : severeCorrections corrections = .ok severe)
    {correction : Dict} (member : correction ∈ corrections) (heavy : isSevere correction = true) :
    correction ∈ severe := by
  induction corrections generalizing severe with
  | nil => cases member
  | cons first rest ih =>
    have ⟨counted, known, read⟩ := except_bind_ok read
    have ⟨others, later, read⟩ := except_bind_ok read
    cases read
    rcases List.mem_cons.mp member with same | further
    · have kind : counted = true := by
        rw [inTexts_isStr known, ← same]
        simpa [isSevere, isCritical] using heavy
      rw [kind, same]
      exact List.mem_cons_self
    · have kept := ih later further
      split
      · exact List.mem_cons_of_mem _ kept
      · exact kept

theorem missingDimensions_nil {disposed : List Json} {severe : List Dict}
    (read : missingDimensions disposed severe = .ok []) {correction : Dict} (member : correction ∈ severe) :
    disposed.any (correction.get "dimension").pyEq = true := by
  induction severe with
  | nil => cases member
  | cons first rest ih =>
    have ⟨known, asked, read⟩ := except_bind_ok read
    have ⟨others, later, read⟩ := except_bind_ok read
    have ended := Except.ok.inj read
    cases known with
    | false => cases ended
    | true =>
      have none : others = [] := ended
      subst none
      rcases List.mem_cons.mp member with same | further
      · unfold Json.inSet at asked
        split at asked
        · rw [same]
          exact Except.ok.inj asked
        · cases asked
      · exact ih later further

theorem hashed_ok {values result : List Json} (done : hashed values = .ok result) : result = values := by
  unfold hashed at done
  split at done
  · exact (Except.ok.inj done).symm
  · cases done

theorem undisposedBlockers_nil {store : ArtifactStore} {severe : List Dict} {disposition : Dict}
    (done : undisposedBlockers store severe disposition = .ok []) :
    disposition.get "result" = .str "PASS" ∧
      evidenceIdsFromClaim disposition ≠ [] ∧
      (∀ id ∈ evidenceIdsFromClaim disposition, Supports store (dispositionDemand disposition) id) ∧
      ∃ dimensions, (disposition.getOr "disposed_correction_dimensions" (.arr [])).pyIter = .ok dimensions ∧
        ∀ correction ∈ severe, dimensions.any (correction.get "dimension").pyEq = true := by
  unfold undisposedBlockers at done
  split at done
  · cases done
  rename_i passing
  have ⟨validation, validated, done⟩ := except_bind_ok done
  split at done
  · cases done
  rename_i valid
  have ⟨dimensions, iterated, done⟩ := except_bind_ok done
  have ⟨disposed, kept, done⟩ := except_bind_ok done
  have ⟨missing, read, done⟩ := except_bind_ok done
  have supported := (validateClaimEvidence_valid_iff store disposition (dispositionDemand disposition)).mp
    ⟨validation, validated, by simpa using valid⟩
  split at done
  · rename_i none
    rw [List.isEmpty_iff.mp none, hashed_ok kept] at read
    exact ⟨Json.isStr_iff.mp (by simpa using passing), supported.1, supported.2, dimensions, iterated,
      fun correction member => missingDimensions_nil read member⟩
  · have ⟨names, _, done⟩ := except_bind_ok done
    cases done

/-- An evaluation with warnings that the gate lets pass has its severe corrections disposed of. -/
theorem disposed_of_warningBlockers {store : ArtifactStore} {evaluation : PlanEvaluation}
    (done : evaluationWarningBlockers store evaluation.corrections evaluation.implementationArtifact = .ok []) :
    Disposed store evaluation := by
  have ⟨severe, read, done⟩ := except_bind_ok done
  intro correction member heavy
  have listed := mem_severeCorrections read member heavy
  split at done
  · rename_i none
    rw [List.isEmpty_iff.mp none] at listed
    cases listed
  split at done
  · rename_i disposition named
    have ⟨passing, cited, supported, dimensions, iterated, covered⟩ := undisposedBlockers_nil done
    exact ⟨disposition, dimensions, named, passing, cited, supported, iterated, covered correction listed⟩
  · cases done

/-! ### The gate -/

section

variable {scoreDropped : Json → Json → Except PyExc Bool} {store : ArtifactStore} {request : GateRequest}

theorem evaluate_ok {result : ReleaseGateResult} (done : evaluate scoreDropped store request = .ok result) :
    ∃ ofEvaluation compared ofStage recommended,
      evaluationBlockers store (stored store.planEvaluations request.deterministicEvaluationId) =
        .ok ofEvaluation ∧
      benchmarkBlockers scoreDropped store (stored store.benchmarkResults request.benchmarkBeforeId)
        (stored store.benchmarkResults request.benchmarkAfterId) = .ok compared ∧
      stageBlockers store (artifactOf (stored store.planEvaluations request.deterministicEvaluationId))
        (comparesImplementation (stored store.planEvaluations request.deterministicEvaluationId)) =
          .ok ofStage ∧
      result.blockers =
        repositoryStateBlockers (stored store.repositoryStates request.repositoryStateId) ++ ofEvaluation ++
          compared.2 ++ integrityBlockers request.repositoryIntegrityResult ++ ofStage ∧
      recommend store request (artifactOf (stored store.planEvaluations request.deterministicEvaluationId))
        (comparesImplementation (stored store.planEvaluations request.deterministicEvaluationId))
        result.blockers (stored store.humanRubrics request.humanRubricId)
        ((stored store.humanRubrics request.humanRubricId).any (fun rubric => rubric.status = .captured)) =
          .ok recommended ∧
      result.recommendation = recommended.1 ∧ result.passed = result.blockers.isEmpty := by
  have ⟨ofEvaluation, evaluated, done⟩ := except_bind_ok done
  have ⟨compared, benchmarked, done⟩ := except_bind_ok done
  have ⟨ofStage, staged, done⟩ := except_bind_ok done
  have ⟨recommended, advised, done⟩ := except_bind_ok done
  cases done
  exact ⟨ofEvaluation, compared, ofStage, recommended, evaluated, benchmarked, staged, rfl, advised, rfl, rfl⟩

theorem nothingBlocks_of_passed {result : ReleaseGateResult}
    (done : evaluate scoreDropped store request = .ok result) (passed : result.passed = true) :
    NothingBlocks scoreDropped store request := by
  have ⟨ofEvaluation, compared, ofStage, recommended, evaluated, benchmarked, staged, blockers, advised, _,
    empty⟩ := evaluate_ok done
  have none : result.blockers = [] := List.isEmpty_iff.mp (empty ▸ passed)
  rw [none] at blockers advised
  simp only [List.nil_eq, List.append_eq_nil_iff] at blockers
  obtain ⟨⟨⟨⟨ofState, rfl⟩, ofBenchmarks⟩, ofIntegrity⟩, rfl⟩ := blockers
  refine ⟨repositoryStateBlockers_nil.mp ofState, evaluationBlockers_nil.mp evaluated,
    benchmarkBlockers_nil.mp ⟨compared.1, ?_⟩, integrityBlockers_nil.mp ofIntegrity, staged, recommended, advised⟩
  rw [benchmarked, ← ofBenchmarks]

theorem passed_of_nothingBlocks (clear : NothingBlocks scoreDropped store request) :
    ∃ result, evaluate scoreDropped store request = .ok result ∧ result.passed = true := by
  have ofState := repositoryStateBlockers_nil.mpr clear.canonical
  have evaluated := evaluationBlockers_nil.mpr clear.evaluated
  have ⟨status, benchmarked⟩ := benchmarkBlockers_nil.mpr clear.benchmarked
  have ofIntegrity := integrityBlockers_nil.mpr clear.untouched
  have ⟨recommended, advised⟩ := clear.recommended
  unfold evaluate
  simp only [evaluated, benchmarked, clear.staged, ofState, ofIntegrity, List.append_nil, recommend,
    List.isEmpty_nil, if_true, advised, bind, Except.bind]
  exact ⟨_, rfl, rfl⟩

theorem sound_of_nothingBlocks (clear : NothingBlocks scoreDropped store request)
    (seen : ¬ Overlooked store request) : SoundRelease scoreDropped store request := by
  have ⟨evaluation, leaked, found, passing, _, disposed, _⟩ := clear.evaluated
  have ⟨before, after, status, reasons, first, second, compared, unharmed, conclusive⟩ := clear.benchmarked
  have ranFirst : before.status ≠ .notRun := fun idle => seen (.inr (.inl ⟨before, first, idle⟩))
  have ranSecond : after.status ≠ .notRun := fun idle => seen (.inr (.inr ⟨after, second, idle⟩))
  refine ⟨clear.canonical, ⟨evaluation, found, passing, ?_⟩,
    ⟨before, after, first, second, ranFirst, ranSecond, ?_⟩, clear.untouched⟩
  · rcases passing with plain | warned
    · by_contra undisposed
      exact seen (.inl ⟨evaluation, found, plain, undisposed⟩)
    · exact disposed_of_warningBlockers (disposed warned)
  · rw [compared]
    unfold compareRows at compared
    rw [if_neg (by simp [ranFirst, ranSecond])] at compared
    dsimp only at compared
    split at compared
    · cases compared
      exact absurd rfl conclusive
    have ⟨dropped, _, ended⟩ := except_bind_ok compared
    have same := Except.ok.inj ended
    simp only [Prod.mk.injEq] at same
    split at same
    · rename_i unchanged
      rw [← same.1, ← same.2, List.isEmpty_iff.mp unchanged]
    · exact absurd same.1.symm unharmed

theorem overlooked_unsound (seen : Overlooked store request) : ¬ SoundRelease scoreDropped store request := by
  rintro ⟨_, ⟨evaluation, found, _, disposed⟩, ⟨before, after, first, second, ranFirst, ranSecond, _⟩, _⟩
  rcases seen with ⟨other, same, _, undisposed⟩ | ⟨other, same, idle⟩ | ⟨other, same, idle⟩
  · rw [found] at same
    cases same
    exact undisposed disposed
  · rw [first] at same
    cases same
    exact ranFirst idle
  · rw [second] at same
    cases same
    exact ranSecond idle

theorem recommendation_guarded {result : ReleaseGateResult}
    (done : evaluate scoreDropped store request = .ok result)
    (ready : result.recommendation.notReady = false) : result.passed = true := by
  have ⟨_, _, _, recommended, _, _, _, _, advised, same, empty⟩ := evaluate_ok done
  rw [empty]
  by_contra blocked
  rw [recommend, if_neg blocked] at advised
  cases answer : blockedRecommendation
      (comparesImplementation (stored store.planEvaluations request.deterministicEvaluationId))
      ((artifactOf (stored store.planEvaluations request.deterministicEvaluationId)).get "pilot_stage") with
  | error failure =>
    rw [answer] at advised
    cases advised
  | ok recommendation =>
    rw [answer] at advised
    have named : (recommendation, []) = recommended := Except.ok.inj advised
    have unready := blockedRecommendation_notReady answer
    rw [same, ← named, unready] at ready
    cases ready

end

/-- A gate that passes stands on sound inputs, and one that does not pass recommends nothing, unless
what it overlooks is all that is wrong. -/
theorem release_sound_iff (scoreDropped : Json → Json → Except PyExc Bool) (store : ArtifactStore)
    (request : GateRequest) :
    (∀ result, evaluate scoreDropped store request = .ok result →
      (result.passed = true → SoundRelease scoreDropped store request) ∧
      (result.recommendation.notReady = false → result.passed = true)) ↔
    ¬ (NothingBlocks scoreDropped store request ∧ Overlooked store request) := by
  constructor
  · rintro sound ⟨clear, seen⟩
    have ⟨result, done, passed⟩ := passed_of_nothingBlocks clear
    exact overlooked_unsound seen ((sound result done).1 passed)
  · intro attentive result done
    refine ⟨fun passed => ?_, recommendation_guarded done⟩
    have clear := nothingBlocks_of_passed done passed
    exact sound_of_nothingBlocks clear (fun seen => attentive ⟨clear, seen⟩)

/-! ### Two releases that should not pass -/

def integerScores : Json → Json → Except PyExc Bool
  | .int before, .int after => .ok (decide (after < before))
  | _, _ => .error .typeError

def scoredBenchmark (id : String) (status : BenchmarkRunStatus) : BenchmarkResult where
  id := id
  status := status
  deterministicMetrics := [("aggregate_score", .int 100), ("hard_gate_status", .str "PASS")]

def cleanStore (corrections : List Dict) (status : BenchmarkRunStatus) : ArtifactStore where
  repositoryStates := ⟨[{ id := "LRSTATE_000001", classification := .canonicalClean }], List.nodup_singleton _⟩
  planEvaluations :=
    ⟨[{ id := "LEVALPLAN_000001", result := .pass, corrections := corrections }], List.nodup_singleton _⟩
  benchmarkResults :=
    ⟨[scoredBenchmark "LBENCH_000001" status, scoredBenchmark "LBENCH_000002" status],
      (by decide : ["LBENCH_000001", "LBENCH_000002"].Nodup)⟩

def fullRequest : GateRequest where
  repositoryStateId := some "LRSTATE_000001"
  deterministicEvaluationId := some "LEVALPLAN_000001"
  benchmarkBeforeId := some "LBENCH_000001"
  benchmarkAfterId := some "LBENCH_000002"

def majorCorrection : Dict := [("dimension", .str "scope"), ("severity", .str "MAJOR")]

/-- Two benchmarks that were never run pass the gate, and so does a severe correction that nothing
disposes of, under an evaluation that has no warnings. -/
theorem overlooked_passes :
    ((evaluate integerScores (cleanStore [] .notRun) fullRequest).map ReleaseGateResult.passed = .ok true ∧
      ¬ SoundRelease integerScores (cleanStore [] .notRun) fullRequest) ∧
    ((evaluate integerScores (cleanStore [majorCorrection] .passed) fullRequest).map
        ReleaseGateResult.passed = .ok true ∧
      ¬ SoundRelease integerScores (cleanStore [majorCorrection] .passed) fullRequest) := by
  refine ⟨⟨by decide +kernel, ?_⟩, ⟨by decide +kernel, ?_⟩⟩
  · exact overlooked_unsound (.inr (.inl ⟨scoredBenchmark "LBENCH_000001" .notRun, rfl, rfl⟩))
  · apply overlooked_unsound
    refine .inl ⟨_, rfl, rfl, ?_⟩
    intro disposed
    obtain ⟨disposition, _, named, _⟩ := disposed majorCorrection List.mem_cons_self (by decide)
    cases named

end Lucius.Pilots
