import Lucius.Pilots.ReleaseGate

/-! The comparison of two evaluation runs case by case, and of two benchmark results by their
counts and scores. The difference of two scores is a parameter. -/

namespace Lucius.Pilots

inductive EvaluationCaseStatus where
  | passed | failed | error
  deriving DecidableEq

inductive EvaluationHardGateStatus where
  | pass | fail
  deriving DecidableEq

def EvaluationHardGateStatus.value : EvaluationHardGateStatus → String
  | .pass => "PASS"
  | .fail => "FAIL"

structure MetricResult (Metric : Type) where
  name : Metric
  score : PyFloat

structure EvaluationCaseResult (Metric : Type) where
  caseId : String
  status : EvaluationCaseStatus
  metricResults : List (MetricResult Metric) := []

structure EvaluationRun where
  aggregateScore : Option PyFloat
  hardGateStatus : EvaluationHardGateStatus

inductive Regression (Metric : Type) where
  | aggregateDropFailure (drop : ℚ)
  | aggregateDropWarning (drop : ℚ)
  | newHardGateFailure
  | newCaseFailure (caseId : String)
  | metricDrop (caseId : String) (metric : Metric) (drop : ℚ)
  deriving DecidableEq

section

variable {Metric : Type} [DecidableEq Metric] (minus : PyFloat → PyFloat → ℚ) (rounded : ℚ → ℚ)

/-- The entry of a dictionary made of a list: the last one counts. -/
def entryOf {α κ : Type} [DecidableEq κ] (key : α → κ) (items : List α) (sought : κ) : Option α :=
  items.reverse.find? (fun item => key item = sought)

def metricDrops (previous current : EvaluationCaseResult Metric) : List (Regression Metric) :=
  current.metricResults.filterMap fun metric => do
    let old ← entryOf MetricResult.name previous.metricResults metric.name
    let drop := minus old.score metric.score
    if 10 < drop then some (.metricDrop current.caseId metric.name (rounded drop)) else none

def caseRegressions (baselineCases : List (EvaluationCaseResult Metric))
    (result : EvaluationCaseResult Metric) : List (Regression Metric) :=
  match entryOf EvaluationCaseResult.caseId baselineCases result.caseId with
  | none => []
  | some previous =>
    (if previous.status = .passed ∧ result.status ≠ .passed then [.newCaseFailure result.caseId] else []) ++
      metricDrops minus rounded previous result

def compareRuns (current : EvaluationRun) (currentCases : List (EvaluationCaseResult Metric))
    (baseline : Option EvaluationRun) (baselineCases : List (EvaluationCaseResult Metric)) :
    List (Regression Metric) :=
  match baseline with
  | none => []
  | some baseline =>
    match current.aggregateScore, baseline.aggregateScore with
    | some score, some baselineScore =>
      let drop := minus baselineScore score
      (if 5 < drop then [.aggregateDropFailure (rounded drop)]
        else if 3 < drop then [.aggregateDropWarning (rounded drop)] else []) ++
      (if baseline.hardGateStatus = .pass ∧ current.hardGateStatus = .fail then [.newHardGateFailure]
        else []) ++
      currentCases.flatMap (caseRegressions minus rounded baselineCases)
    | _, _ => []

/-- The benchmark result that is kept of an evaluation. -/
def runCoreBenchmark (id : String) (run : EvaluationRun) (cases : List (EvaluationCaseResult Metric)) :
    BenchmarkResult :=
  let failed := cases.countP (fun result => result.status ∈ [.failed, .error])
  { id := id
    status := if failed = 0 then .passed else .failed
    failed := failed
    deterministicMetrics := [
      ("aggregate_score", run.aggregateScore.elim .null .float),
      ("hard_gate_status", .str run.hardGateStatus.value)] }

def scoreDropped (allowedScoreDrop : ℚ) : Json → Json → Except PyExc Bool
  | .float before, .float after => .ok (decide (allowedScoreDrop < minus before after))
  | _, _ => .error .typeError

/-- The case passed, by its last result. -/
def Passed (cases : List (EvaluationCaseResult Metric)) (caseId : String) : Prop :=
  ∃ result, entryOf EvaluationCaseResult.caseId cases caseId = some result ∧ result.status = .passed

def NothingLost (before after : List (EvaluationCaseResult Metric)) : Prop :=
  ∀ caseId, Passed before caseId → Passed after caseId

/-- The results of a suite. -/
def suiteCases (suite : List String) (outcome : String → EvaluationCaseStatus × List (MetricResult Metric)) :
    List (EvaluationCaseResult Metric) :=
  suite.map fun caseId => ⟨caseId, (outcome caseId).1, (outcome caseId).2⟩

/-- A run with an aggregate score. -/
structure ScoredRun where
  score : PyFloat
  hardGateStatus : EvaluationHardGateStatus

def ScoredRun.run (scored : ScoredRun) : EvaluationRun := ⟨some scored.score, scored.hardGateStatus⟩

/-- Where no case is told as failing, no case that passed is lost. -/
def CaseGateSound (current baseline : ScoredRun)
    (currentCases baselineCases : List (EvaluationCaseResult Metric)) : Prop :=
  (∀ caseId, .newCaseFailure caseId ∉
    compareRuns minus rounded current.run currentCases (some baseline.run) baselineCases) →
    NothingLost baselineCases currentCases

/-- Where the results of one suite show no regression, no case that passed is lost. -/
def BenchmarkGateSound (allowedScoreDrop : ℚ) (beforeId afterId : String) (baseline current : ScoredRun)
    (suite : List String) (before after : String → EvaluationCaseStatus × List (MetricResult Metric)) : Prop :=
  ∀ reasons, compareRows (scoreDropped minus allowedScoreDrop)
      (runCoreBenchmark beforeId baseline.run (suiteCases suite before))
      (runCoreBenchmark afterId current.run (suiteCases suite after)) = .ok (.noRegression, reasons) →
    NothingLost (suiteCases suite before) (suiteCases suite after)

variable {minus rounded}

theorem entryOf_mem {α κ : Type} [DecidableEq κ] {key : α → κ} {items : List α} {sought : κ} {item : α}
    (found : entryOf key items sought = some item) : item ∈ items ∧ key item = sought := by
  rw [entryOf] at found
  have same := List.find?_some found
  exact ⟨List.mem_reverse.mp (List.mem_of_find?_eq_some found), of_decide_eq_true same⟩

theorem entryOf_some {α κ : Type} [DecidableEq κ] {key : α → κ} {items : List α} {item : α}
    (member : item ∈ items) : ∃ last, entryOf key items (key item) = some last := by
  rw [← Option.isSome_iff_exists, entryOf, List.find?_isSome]
  exact ⟨item, List.mem_reverse.mpr member, decide_eq_true rfl⟩

theorem mem_caseRegressions {baselineCases : List (EvaluationCaseResult Metric)}
    {result : EvaluationCaseResult Metric} {caseId : String} :
    .newCaseFailure caseId ∈ caseRegressions minus rounded baselineCases result ↔
      caseId = result.caseId ∧ Passed baselineCases result.caseId ∧ result.status ≠ .passed := by
  have others (previous : EvaluationCaseResult Metric) :
      .newCaseFailure caseId ∉ metricDrops minus rounded previous result := by
    simp only [metricDrops, List.mem_filterMap, not_exists, not_and]
    intro metric _ found
    obtain ⟨old, -, dropped⟩ := Option.bind_eq_some_iff.mp found
    split at dropped <;> cases dropped
  unfold caseRegressions Passed
  cases entryOf EvaluationCaseResult.caseId baselineCases result.caseId with
  | none => simp
  | some previous =>
    by_cases lost : previous.status = .passed ∧ result.status ≠ .passed
    · simp [lost, others]
    · simp only [lost, if_false, List.nil_append, others, false_iff]
      rintro ⟨-, ⟨other, same, passed⟩, broken⟩
      cases same
      exact lost ⟨passed, broken⟩

/-- The first gate is right when no passed case is missing, or one that is there fails. -/
theorem caseGate_sound_iff (current baseline : ScoredRun)
    (currentCases baselineCases : List (EvaluationCaseResult Metric)) :
    CaseGateSound minus rounded current baseline currentCases baselineCases ↔
      (∀ caseId, Passed baselineCases caseId → ∃ result ∈ currentCases, result.caseId = caseId) ∨
        ∃ result ∈ currentCases, Passed baselineCases result.caseId ∧ result.status ≠ .passed := by
  obtain ⟨score, gate⟩ := current
  obtain ⟨baselineScore, baselineGate⟩ := baseline
  have told (caseId : String) : .newCaseFailure caseId ∈ compareRuns minus rounded ⟨some score, gate⟩ currentCases
        (some ⟨some baselineScore, baselineGate⟩) baselineCases ↔ ∃ result ∈ currentCases,
        caseId = result.caseId ∧ Passed baselineCases result.caseId ∧ result.status ≠ .passed := by
    have drops : .newCaseFailure caseId ∉ (if 5 < minus baselineScore score then
        ([.aggregateDropFailure (rounded (minus baselineScore score))] : List (Regression Metric))
        else if 3 < minus baselineScore score then [.aggregateDropWarning (rounded (minus baselineScore score))]
        else []) ++ (if baselineGate = .pass ∧ gate = .fail then [.newHardGateFailure] else []) := by
      rw [List.mem_append]
      rintro (dropped | failed)
      · split at dropped
        · simp at dropped
        · split at dropped <;> simp at dropped
      · split at failed <;> simp at failed
    rw [compareRuns, List.mem_append, or_iff_right drops, List.mem_flatMap]
    simp only [mem_caseRegressions]
  constructor
  · intro sound
    by_cases failure : ∃ result ∈ currentCases, Passed baselineCases result.caseId ∧ result.status ≠ .passed
    · exact .inr failure
    · refine .inl fun caseId passed => ?_
      have silent : ∀ caseId, .newCaseFailure caseId ∉ compareRuns minus rounded ⟨some score, gate⟩ currentCases
          (some ⟨some baselineScore, baselineGate⟩) baselineCases := by
        intro caseId found
        obtain ⟨result, inside, -, lost⟩ := (told caseId).mp found
        exact failure ⟨result, inside, lost⟩
      obtain ⟨result, found, -⟩ := sound silent caseId passed
      exact ⟨result, entryOf_mem found⟩
  · rintro (present | ⟨result, inside, lost⟩) silent
    · intro caseId passed
      obtain ⟨result, inside, rfl⟩ := present caseId passed
      obtain ⟨last, found⟩ := @entryOf_some _ _ _ EvaluationCaseResult.caseId _ _ inside
      obtain ⟨held, same⟩ := entryOf_mem found
      refine ⟨last, found, ?_⟩
      by_contra failed
      exact silent last.caseId ((told _).mpr ⟨last, held, rfl, same ▸ passed, failed⟩)
    · exact absurd ((told _).mpr ⟨result, inside, rfl, lost⟩) (silent _)

/-- The cases that pass first and not then. -/
def turned (suite : List String) (first second : String → EvaluationCaseStatus) : Nat :=
  suite.countP fun caseId => first caseId = .passed && second caseId ≠ .passed

/-- What is lost is failed more, and what is recovered failed less. -/
theorem failed_turned (suite : List String) (before after : String → EvaluationCaseStatus) :
    suite.countP (fun caseId => after caseId ∈ [.failed, .error]) + turned suite after before =
      suite.countP (fun caseId => before caseId ∈ [.failed, .error]) + turned suite before after := by
  induction suite with
  | nil => rfl
  | cons caseId rest ih =>
    simp only [turned, List.countP_cons] at ih ⊢
    cases before caseId <;> cases after caseId <;> simp at ih ⊢ <;> omega

omit [DecidableEq Metric] in
theorem passed_suite {suite : List String} {outcome : String → EvaluationCaseStatus × List (MetricResult Metric)}
    {caseId : String} : Passed (suiteCases suite outcome) caseId ↔ caseId ∈ suite ∧ (outcome caseId).1 = .passed := by
  have read {result : EvaluationCaseResult Metric} (member : result ∈ suiteCases suite outcome) :
      result.caseId ∈ suite ∧ result.status = (outcome result.caseId).1 := by
    obtain ⟨known, inside, rfl⟩ := List.mem_map.mp member
    exact ⟨inside, rfl⟩
  constructor
  · rintro ⟨result, found, passed⟩
    obtain ⟨member, rfl⟩ := entryOf_mem found
    exact ⟨(read member).1, (read member).2 ▸ passed⟩
  · rintro ⟨inside, passed⟩
    have member : (⟨caseId, (outcome caseId).1, (outcome caseId).2⟩ : EvaluationCaseResult Metric) ∈
        suiteCases suite outcome := List.mem_map.mpr ⟨caseId, inside, rfl⟩
    obtain ⟨last, found⟩ := @entryOf_some _ _ _ EvaluationCaseResult.caseId _ _ member
    obtain ⟨held, same⟩ := entryOf_mem found
    exact ⟨last, found, (read held).2.trans (same ▸ passed)⟩

omit [DecidableEq Metric] in
/-- The second gate is right when nothing is lost, or more is lost than recovered, or a score or
a hard gate tells. -/
theorem benchmarkGate_sound_iff (allowedScoreDrop : ℚ) (beforeId afterId : String) (baseline current : ScoredRun)
    (suite : List String) (before after : String → EvaluationCaseStatus × List (MetricResult Metric)) :
    BenchmarkGateSound minus allowedScoreDrop beforeId afterId baseline current suite before after ↔
      ((∃ caseId ∈ suite, (before caseId).1 = .passed ∧ (after caseId).1 ≠ .passed) →
        turned suite (fun caseId => (after caseId).1) (fun caseId => (before caseId).1) <
            turned suite (fun caseId => (before caseId).1) (fun caseId => (after caseId).1) ∨
          allowedScoreDrop < minus baseline.score current.score ∨ current.hardGateStatus = .fail) := by
  have kept : NothingLost (suiteCases suite before) (suiteCases suite after) ↔
      ¬ ∃ caseId ∈ suite, (before caseId).1 = .passed ∧ (after caseId).1 ≠ .passed := by
    simp only [NothingLost, passed_suite]
    push Not
    exact ⟨fun held caseId inside passed => (held caseId ⟨inside, passed⟩).2,
      fun held caseId ⟨inside, passed⟩ => ⟨inside, held caseId inside passed⟩⟩
  have counts := failed_turned suite (fun caseId => (before caseId).1) (fun caseId => (after caseId).1)
  have failed (id : String) (run : EvaluationRun)
      (outcome : String → EvaluationCaseStatus × List (MetricResult Metric)) :
      (runCoreBenchmark id run (suiteCases suite outcome)).failed =
        suite.countP (fun caseId => (outcome caseId).1 ∈ [.failed, .error]) ∧
      (runCoreBenchmark id run (suiteCases suite outcome)).status ≠ .notRun := by
    refine ⟨by simp only [runCoreBenchmark, suiteCases, List.countP_map]; rfl, ?_⟩
    simp only [runCoreBenchmark]
    split <;> exact BenchmarkRunStatus.noConfusion
  have gated : (Json.str current.hardGateStatus.value).isStr "FAIL" = decide (current.hardGateStatus = .fail) := by
    cases current.hardGateStatus <;> rfl
  have silent : (∃ reasons, compareRows (scoreDropped minus allowedScoreDrop)
        (runCoreBenchmark beforeId baseline.run (suiteCases suite before))
        (runCoreBenchmark afterId current.run (suiteCases suite after)) = .ok (.noRegression, reasons)) ↔
      ¬ (turned suite (fun caseId => (after caseId).1) (fun caseId => (before caseId).1) <
            turned suite (fun caseId => (before caseId).1) (fun caseId => (after caseId).1) ∨
          allowedScoreDrop < minus baseline.score current.score ∨ current.hardGateStatus = .fail) := by
    rw [compareRows, if_neg (not_or.mpr ⟨(failed _ _ _).2, (failed _ _ _).2⟩)]
    have scored (id : String) (run : EvaluationRun) (cases : List (EvaluationCaseResult Metric)) :
        (runCoreBenchmark id run cases).deterministicMetrics.get "aggregate_score" =
          run.aggregateScore.elim .null .float ∧
        (runCoreBenchmark id run cases).deterministicMetrics.get "hard_gate_status" = .str run.hardGateStatus.value :=
      ⟨rfl, rfl⟩
    simp only [(scored _ _ _).1, ScoredRun.run, Option.elim_some, Json.isNull, scoreDropped, Bool.false_or, Bool.false_eq_true,
      if_false, regressionReasons, (scored _ _ _).2, gated, (failed _ _ _).1, bind, Except.bind, pure, Except.pure,
      decide_eq_true_eq, Int.ofNat_lt]
    have grown : suite.countP (fun caseId => (before caseId).1 ∈ [.failed, .error]) <
          suite.countP (fun caseId => (after caseId).1 ∈ [.failed, .error]) ↔
        turned suite (fun caseId => (after caseId).1) (fun caseId => (before caseId).1) <
            turned suite (fun caseId => (before caseId).1) (fun caseId => (after caseId).1) := by omega
    rw [← grown]
    split_ifs <;> simp_all
  rw [BenchmarkGateSound, kept, ← not_imp_not, ← exists_imp, silent]

/-- Both gates, over every pair of runs with scores. -/
theorem regression_gates_iff (current baseline : ScoredRun) :
    (∀ currentCases baselineCases : List (EvaluationCaseResult Metric),
      CaseGateSound minus rounded current baseline currentCases baselineCases ↔
        (∀ caseId, Passed baselineCases caseId → ∃ result ∈ currentCases, result.caseId = caseId) ∨
          ∃ result ∈ currentCases, Passed baselineCases result.caseId ∧ result.status ≠ .passed) ∧
    (∀ (allowedScoreDrop : ℚ) (beforeId afterId : String) (suite : List String)
        (before after : String → EvaluationCaseStatus × List (MetricResult Metric)),
      BenchmarkGateSound minus allowedScoreDrop beforeId afterId baseline current suite before after ↔
        ((∃ caseId ∈ suite, (before caseId).1 = .passed ∧ (after caseId).1 ≠ .passed) →
          turned suite (fun caseId => (after caseId).1) (fun caseId => (before caseId).1) <
              turned suite (fun caseId => (before caseId).1) (fun caseId => (after caseId).1) ∨
            allowedScoreDrop < minus baseline.score current.score ∨ current.hardGateStatus = .fail)) :=
  ⟨caseGate_sound_iff current baseline, fun drop beforeId afterId =>
    benchmarkGate_sound_iff drop beforeId afterId baseline current⟩

end

def perfect : ScoredRun := ⟨⟨"100.0", some 100, false, by decide⟩, .pass⟩

/-- A case that passed is missing from the next run, and one fails in place of another. -/
theorem lost_cases_untold :
    (¬ ∀ currentCases baselineCases : List (EvaluationCaseResult Unit),
      CaseGateSound (fun _ _ => 0) id perfect perfect currentCases baselineCases) ∧
    (¬ ∀ (suite : List String) (before after : String → EvaluationCaseStatus × List (MetricResult Unit)),
      BenchmarkGateSound (fun _ _ => 0) 0 "LBENCH_000001" "LBENCH_000002" perfect perfect suite before after) := by
  constructor
  · intro sound
    have silent (caseId : String) : .newCaseFailure caseId ∉ compareRuns (fun _ _ => (0 : ℚ)) id perfect.run
        [(⟨"b", .passed, []⟩ : EvaluationCaseResult Unit)] (some perfect.run) [⟨"a", .passed, []⟩] :=
      List.not_mem_nil
    obtain ⟨_, found, -⟩ := sound [⟨"b", .passed, []⟩] [⟨"a", .passed, []⟩] silent "a"
      ⟨⟨"a", .passed, []⟩, rfl, rfl⟩
    cases found
  · intro sound
    obtain ⟨_, found, failed⟩ := sound ["a", "b"] (fun caseId => (if caseId = "a" then .passed else .failed, []))
      (fun caseId => (if caseId = "a" then .failed else .passed, [])) [] (by rfl) "a"
      ⟨⟨"a", .passed, []⟩, by rfl, rfl⟩
    cases found
    cases failed

end Lucius.Pilots
