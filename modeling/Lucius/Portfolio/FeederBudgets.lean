import Lucius.Portfolio.FeedAuthority

/-! The budgets of a feeder over its calls: what one call may ingest, and what all calls together
may, by a counter that only a call with work of its own writes. -/

namespace Lucius.Portfolio

structure FeederLimits where
  maxBatchSize : Option Int := none
  maxTotalTasks : Option Int := none

/-- The feeder between its calls. Of each call it is kept how many items were asked for and how
many were ingested. -/
structure FeederState where
  store : Store
  totalFed : Int := 0
  made : List (Nat × Nat) := []

/-- A call finds the sources as they are then; the rows may have been changed elsewhere. -/
inductive FeederOperation where
  | feed (call : FeedCall) (maxItems : Nat)
  | elsewhere (store : Store)

/-- The call of this feeder, with its limits and its counter. -/
def budgeted (limits : FeederLimits) (state : FeederState) (call : FeedCall) (maxItems : Nat) : FeedCall :=
  { call with
    feeder := { call.feeder with
      maxBatchSize := limits.maxBatchSize
      maxTotalTasks := limits.maxTotalTasks
      totalFed := state.totalFed }
    maxItems := maxItems }

/-- `self._total_fed += len(ingested)` is reached by a call that has selected work itself. -/
def countedAfter (call : FeedCall) (tables : Tables) (ingested : Nat) : Int :=
  match call.plan tables with
  | .ok (_ :: _, _) => call.feeder.totalFed + ingested
  | _ => call.feeder.totalFed

/-- The session of a call that raises is rolled back. -/
def feederStep (limits : FeederLimits) (state : FeederState) : FeederOperation → FeederState
  | .elsewhere store => { state with store := store }
  | .feed call maxItems =>
    let asked := budgeted limits state call maxItems
    match asked.apply state.store with
    | (.error _, _) => { state with made := state.made ++ [(maxItems, 0)] }
    | (.ok records, after) =>
      let ingested := (DarwinBacklogFeeder.ingested records).length
      { store := after
        totalFed := countedAfter asked state.store.toTables ingested
        made := state.made ++ [(maxItems, ingested)] }

def ingestedSum (made : List (Nat × Nat)) : Nat := (made.map Prod.snd).sum

structure WithinLimits (limits : FeederLimits) (state : FeederState) : Prop where
  each : ∀ call ∈ state.made, call.2 ≤ call.1 ∧
    ∀ size, limits.maxBatchSize = some size → (call.2 : Int) ≤ size
  together : ∀ total, limits.maxTotalTasks = some total → (ingestedSum state.made : Int) ≤ total

structure FeederLimits.Proper (limits : FeederLimits) : Prop where
  batch : ∀ size, limits.maxBatchSize = some size → 0 ≤ size
  total : ∀ total, limits.maxTotalTasks = some total → 0 ≤ total

/-- A call of a feeder with a total that selects nothing itself takes nothing from the portfolio. -/
def CountsAll (limits : FeederLimits) (state : FeederState) : FeederOperation → Prop
  | .elsewhere _ => True
  | .feed call maxItems => limits.maxTotalTasks.isSome = true →
      ∀ batch, (budgeted limits state call maxItems).plan state.store.toTables = .ok ([], batch) →
        batch = []

theorem upTo_length {α : Type} (items : List α) {stop : Int} (positive : 0 ≤ stop) :
    ((GlobalWorkPortfolioService.upTo items stop).length : Int) ≤ stop := by
  rw [GlobalWorkPortfolioService.upTo, if_neg (by omega), List.length_take]
  omega

theorem portfolioBatch_length {feeder : DarwinBacklogFeeder} {allowed : List String} {tables : Tables}
    {maxItems : Int} {batch : List NormalizedWorkPackage} (positive : 0 ≤ maxItems)
    (planned : portfolioBatch feeder allowed tables maxItems = .ok batch) :
    (batch.length : Int) ≤ maxItems := by
  obtain ⟨existing, _, planned⟩ := except_bind_ok planned
  cases planned
  exact upTo_length _ positive

theorem fromPortfolio_length {feeder : DarwinBacklogFeeder} {taken : Nat} {tables : Tables}
    {maxItems : Int} {batch : List NormalizedWorkPackage}
    (within : (taken : Int) ≤ feeder.effectiveMax maxItems)
    (planned : fromPortfolio feeder taken maxItems tables = .ok batch) :
    ((taken + batch.length : Nat) : Int) ≤ feeder.effectiveMax maxItems := by
  unfold fromPortfolio at planned
  split at planned
  · have short := portfolioBatch_length (by omega) planned
    omega
  · cases planned
    simpa using within

theorem effectiveMax_bounds (feeder : DarwinBacklogFeeder) (maxItems : Nat)
    (batch : ∀ size, feeder.maxBatchSize = some size → 0 ≤ size) (open_ : feeder.exhausted = false) :
    0 ≤ feeder.effectiveMax maxItems ∧ feeder.effectiveMax maxItems ≤ maxItems ∧
      (∀ size, feeder.maxBatchSize = some size → feeder.effectiveMax maxItems ≤ size) ∧
      ∀ total, feeder.maxTotalTasks = some total →
        feeder.effectiveMax maxItems ≤ total - feeder.totalFed := by
  have unspent : ∀ total, feeder.maxTotalTasks = some total → feeder.totalFed < total := by
    intro total given
    rw [DarwinBacklogFeeder.exhausted, given, Option.any_some, decide_eq_false_iff_not] at open_
    omega
  unfold DarwinBacklogFeeder.effectiveMax
  cases sized : feeder.maxBatchSize with
  | none =>
    cases totalled : feeder.maxTotalTasks with
    | none => simp
    | some total =>
      have left := unspent total totalled
      simp only [Option.elim, reduceCtorEq, false_implies, implies_true, Option.some.injEq, true_and,
        forall_eq']
      omega
  | some size =>
    have positive := batch size sized
    cases totalled : feeder.maxTotalTasks with
    | none =>
      simp only [Option.elim, reduceCtorEq, false_implies, implies_true, Option.some.injEq, and_true,
        forall_eq']
      omega
    | some total =>
      have left := unspent total totalled
      simp only [Option.elim, Option.some.injEq, forall_eq']
      omega

theorem feedPlan_bounded {feeder : DarwinBacklogFeeder} {projectId : String} {maxItems : Nat}
    {tables : Tables} {selected : List NormalizedTaskEnvelope} {batch : List NormalizedWorkPackage}
    (positive : ∀ size, feeder.maxBatchSize = some size → 0 ≤ size)
    (planned : feedPlan feeder projectId maxItems tables = .ok (selected, batch)) :
    selected.length + batch.length ≤ maxItems ∧
      (∀ size, feeder.maxBatchSize = some size → ((selected.length + batch.length : Nat) : Int) ≤ size) ∧
      ∀ total, feeder.maxTotalTasks = some total → feeder.totalFed ≤ total →
        ((selected.length + batch.length : Nat) : Int) ≤ total - feeder.totalFed := by
  have idle : selected = [] → batch = [] → selected.length + batch.length ≤ maxItems ∧
      (∀ size, feeder.maxBatchSize = some size → ((selected.length + batch.length : Nat) : Int) ≤ size) ∧
      ∀ total, feeder.maxTotalTasks = some total → feeder.totalFed ≤ total →
        ((selected.length + batch.length : Nat) : Int) ≤ total - feeder.totalFed := by
    intro none empty
    subst none
    subst empty
    refine ⟨Nat.zero_le _, ?_, ?_⟩
    · intro size given
      simpa using positive size given
    · intro total _ within
      simpa using within
  unfold feedPlan at planned
  split at planned
  · cases planned
    exact idle rfl rfl
  · next unspent =>
      have bounds := effectiveMax_bounds feeder maxItems positive (by simpa using unspent)
      obtain ⟨eligible, _, planned⟩ := except_bind_ok planned
      dsimp only at planned
      split at planned
      · cases planned
        exact idle rfl rfl
      · obtain ⟨existing, _, planned⟩ := except_bind_ok planned
        obtain ⟨packages, asked, planned⟩ := except_bind_ok planned
        cases planned
        have own : ((feeder.selected existing eligible maxItems).length : Int) ≤
            feeder.effectiveMax maxItems := upTo_length _ bounds.1
        have both := fromPortfolio_length own asked
        refine ⟨by omega, ?_, ?_⟩
        · intro size given
          have limit := bounds.2.2.1 size given
          omega
        · intro total given _
          have limit := bounds.2.2.2 total given
          omega

/-! The calls of one feeder -/

theorem ingested_length (records : List FeedRecord) :
    (DarwinBacklogFeeder.ingested records).length ≤ records.length := List.length_filter_le _ _

theorem ingestedSum_append (made : List (Nat × Nat)) (call : Nat × Nat) :
    ingestedSum (made ++ [call]) = ingestedSum made + call.2 := by
  simp [ingestedSum]

theorem countedAfter_own {call : FeedCall} {tables : Tables} {first : NormalizedTaskEnvelope}
    {rest : List NormalizedTaskEnvelope} {batch : List NormalizedWorkPackage}
    (planned : call.plan tables = .ok (first :: rest, batch)) (ingested : Nat) :
    countedAfter call tables ingested = call.feeder.totalFed + ingested := by
  rw [countedAfter, planned]

theorem countedAfter_none {call : FeedCall} {tables : Tables} {batch : List NormalizedWorkPackage}
    (planned : call.plan tables = .ok ([], batch)) (ingested : Nat) :
    countedAfter call tables ingested = call.feeder.totalFed := by
  rw [countedAfter, planned]

/-- The counter counts what was ingested, and has not passed the total. -/
structure Counted (limits : FeederLimits) (state : FeederState) : Prop where
  within : WithinLimits limits state
  counts : limits.maxTotalTasks.isSome = true → state.totalFed = ingestedSum state.made

theorem counted_idle {limits : FeederLimits} {state : FeederState} (proper : limits.Proper)
    (counted : Counted limits state) (maxItems : Nat) :
    Counted limits { state with made := state.made ++ [(maxItems, 0)] } where
  within := {
    each := by
      intro call member
      rcases List.mem_append.mp member with before | last
      · exact counted.within.each call before
      · rw [List.mem_singleton.mp last]
        exact ⟨Nat.zero_le _, proper.batch⟩
    together := by
      intro total given
      rw [ingestedSum_append]
      exact counted.within.together total given }
  counts := by
    intro given
    rw [ingestedSum_append]
    exact counted.counts given

theorem counted_step {limits : FeederLimits} (proper : limits.Proper) (state : FeederState)
    (operation : FeederOperation) (counted : Counted limits state)
    (counts : CountsAll limits state operation) :
    Counted limits (feederStep limits state operation) := by
  cases operation with
  | elsewhere store => exact ⟨⟨counted.within.each, counted.within.together⟩, counted.counts⟩
  | feed call maxItems =>
    rw [feederStep]
    dsimp only
    rcases applied : (budgeted limits state call maxItems).apply state.store with ⟨error | records, after⟩
    · exact counted_idle proper counted maxItems
    · obtain ⟨selected, batch, own, others, fed⟩ := feedIntoQueue_ok applied
      have planned : (budgeted limits state call maxItems).plan state.store.toTables =
          .ok (selected, batch) := fed.plan
      have short : (DarwinBacklogFeeder.ingested records).length ≤ selected.length + batch.length := by
        have all := ingested_length records
        rw [fed.records, List.length_append, List.length_map, List.length_map,
          ← fed.envelopes.length_eq, ← fed.packages.length_eq] at all
        rw [fed.records]
        exact all
      have ⟨few, inBatch, inTotal⟩ := @feedPlan_bounded
        (budgeted limits state call maxItems).feeder _ _ _ _ _ proper.batch fed.plan
      have sum : limits.maxTotalTasks.isSome = true →
          countedAfter (budgeted limits state call maxItems) state.store.toTables
            (DarwinBacklogFeeder.ingested records).length =
            ingestedSum state.made + (DarwinBacklogFeeder.ingested records).length := by
        intro given
        have before := counted.counts given
        cases selected with
        | cons first rest =>
          rw [countedAfter_own planned]
          change state.totalFed + _ = _
          rw [before]
        | nil =>
          rw [counts given batch planned, List.length_nil] at short
          rw [countedAfter_none planned]
          change state.totalFed = _
          rw [List.length_nil] at short
          omega
      exact {
        within := {
          each := by
            intro made member
            rcases List.mem_append.mp member with earlier | last
            · exact counted.within.each made earlier
            · rw [List.mem_singleton.mp last]
              refine ⟨by dsimp only; omega, ?_⟩
              intro size given
              have limit := inBatch size given
              dsimp only
              omega
          together := by
            intro total given
            have before := counted.counts (by rw [given]; rfl)
            have spent : state.totalFed ≤ total := by
              rw [before]
              exact counted.within.together total given
            have limit := inTotal total given spent
            change _ ≤ total - state.totalFed at limit
            rw [ingestedSum_append]
            dsimp only
            omega }
        counts := by
          intro given
          rw [ingestedSum_append]
          exact_mod_cast sum given }

/-- A feeder whose calls with nothing of their own take nothing from the portfolio keeps to its
limits: each call to what it is asked for and to the batch, and all of them to the total. -/
theorem feeder_within_limits (limits : FeederLimits) (start : Store) (operations : List FeederOperation)
    (proper : limits.Proper)
    (counts : Run.Meets (feederStep limits) (CountsAll limits) ⟨start, 0, []⟩ operations) :
    WithinLimits limits (Run.run (feederStep limits) ⟨start, 0, []⟩ operations) := by
  have first : Counted limits ⟨start, 0, []⟩ := {
    within := ⟨fun _ member => absurd member List.not_mem_nil, proper.total⟩
    counts := fun _ => rfl }
  exact (Run.invariant_guarded (feederStep limits) (CountsAll limits) (Counted limits)
    (counted_step proper) ⟨start, 0, []⟩ operations first counts).within

/-- One item of the feeder's own, and two of a class that only the portfolio takes. -/
def mixedFeeder : DarwinBacklogFeeder where
  backlog := [readyItem, classedItem "MON-005" "CLASS_D", classedItem "MON-006" "CLASS_D"]

def mixedCall : FeedCall where
  feeder := mixedFeeder
  adapter := { gates := fun _ _ => .ok [] }

def twoInTotal : FeederLimits where
  maxTotalTasks := some 2

theorem twoInTotal_proper : twoInTotal.Proper where
  batch := by
    intro size given
    cases given
  total := by
    intro total given
    cases given
    decide

/-- The items from the portfolio are not counted: three calls ingest three items where two are
the total. -/
theorem total_exceeded :
    ¬ ∀ (limits : FeederLimits) (start : Store) (operations : List FeederOperation),
      limits.Proper → WithinLimits limits (Run.run (feederStep limits) ⟨start, 0, []⟩ operations) := by
  intro always
  have made : (Run.run (feederStep twoInTotal) ⟨{}, 0, []⟩
      [.feed mixedCall 1, .feed mixedCall 1, .feed mixedCall 1]).made = [(1, 1), (1, 1), (1, 1)] := by
    decide +kernel
  have within := (always twoInTotal {} [.feed mixedCall 1, .feed mixedCall 1, .feed mixedCall 1]
    twoInTotal_proper).together 2 rfl
  rw [made] at within
  revert within
  decide

theorem one_call_within_limits :
    WithinLimits twoInTotal
      (Run.run (feederStep twoInTotal) ⟨{}, 0, []⟩ [.feed mixedCall 1]) := by
  apply feeder_within_limits
  · exact twoInTotal_proper
  · refine ⟨?_, trivial⟩
    intro _ batch planned
    have own : ((budgeted twoInTotal ⟨{}, 0, []⟩ mixedCall 1).plan {}).toOption.any
        (fun plan => !plan.1.isEmpty) = true := by
      decide +kernel
    rw [show ({ store := {}, totalFed := 0, made := [] } : FeederState).store.toTables = {} from rfl] at planned
    rw [planned] at own
    cases own

end Lucius.Portfolio
