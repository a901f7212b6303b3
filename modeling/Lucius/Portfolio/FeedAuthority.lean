import Lucius.Portfolio.FeedOnce

/-! Which work is queued, on the two ways into the queue. The feeder admits an item only in an
allowed class, unblocked and past its guard; the portfolio looks for one class of those that
are not allowed, does not look at what blocks an item that needs evidence, and has no guard. -/

namespace Lucius.Portfolio

open Lucius.Action Queue

variable {feeder : DarwinBacklogFeeder} {projectId : String} {allowed : List String}
  {work : NormalizedWorkPackage}

def itemStatus (data : Dict) : String := upper (data.getOr "status" (.str "QUEUED")).pyStr

def blockedBy (data : Dict) : Json := data.getOr "blocked_by" (.arr [])

def MarkedBlocked (data : Dict) : Prop :=
  (blockedBy data).truthy = true ∨ contains "BLOCKED" (itemStatus data) = true

def GuardRejects (feeder : DarwinBacklogFeeder) (projectId : String) (item : Json) : Prop :=
  ∃ passes envelope, feeder.regressionGuard = some passes ∧
    normalizeItem projectId item = some envelope ∧ passes envelope ≠ .ok true

/-- An item that may be queued. -/
structure ItemProper (feeder : DarwinBacklogFeeder) (projectId : String) (allowed : List String)
    (item : Json) : Prop where
  authority : itemAuthorityClass (rawData item) ∈ allowed
  unblocked : ¬ MarkedBlocked (rawData item)
  passed : ¬ GuardRejects feeder projectId item

def gateAuthorityClass (record : DFGProjectRecord) : String :=
  StrEnum.value (record.authorityProfile.headD .classA)

/-- A project whose next gate may be queued. -/
structure GateProper (allowed : List String) (record : DFGProjectRecord) : Prop where
  authority : gateAuthorityClass record ∈ allowed
  unblocked : record.status ≠ .blocked

def EnvelopeProper (feeder : DarwinBacklogFeeder) (projectId : String) (allowed : List String)
    (envelope : NormalizedTaskEnvelope) : Prop :=
  ∀ item ∈ feeder.backlog, normalizeItem projectId item = some envelope →
    ItemProper feeder projectId allowed item

/-- What a package is of may be queued. -/
structure PackageProper (feeder : DarwinBacklogFeeder) (projectId : String) (allowed : List String)
    (work : NormalizedWorkPackage) : Prop where
  item : ∀ item ∈ feeder.backlog, DarwinBacklogAdapter.workPackage allowed item = .ok (some work) →
    ItemProper feeder projectId allowed item
  gate : ∀ entry ∈ feeder.registry,
    work = CanonicalRoadmapAdapter.workPackage allowed entry.1 entry.2 → GateProper allowed entry.2

/-- The three ways past the portfolio. -/
def WaywardItem (feeder : DarwinBacklogFeeder) (projectId : String) (allowed : List String)
    (item : Json) : Prop :=
  (itemAuthorityClass (rawData item) ∉ allowed ∧ itemAuthorityClass (rawData item) ≠ "CLASS_C") ∨
    (itemStatus (rawData item) = "NEEDS_EVIDENCE" ∧ (blockedBy (rawData item)).truthy = true) ∨
    GuardRejects feeder projectId item

def WaywardGate (allowed : List String) (record : DFGProjectRecord) : Prop :=
  gateAuthorityClass record ∉ allowed ∧ gateAuthorityClass record ≠ "CLASS_C"

def Wayward (feeder : DarwinBacklogFeeder) (projectId : String) (allowed : List String)
    (work : NormalizedWorkPackage) : Prop :=
  (∃ item ∈ feeder.backlog, DarwinBacklogAdapter.workPackage allowed item = .ok (some work) ∧
    WaywardItem feeder projectId allowed item) ∨
  ∃ entry ∈ feeder.registry, work = CanonicalRoadmapAdapter.workPackage allowed entry.1 entry.2 ∧
    WaywardGate allowed entry.2

/-! ### The feeder's own way -/

theorem itemStatus_ready {data : Dict} (ready : upper (data.getOr "status" (.str "")).pyStr = "READY") :
    itemStatus data = "READY" := by
  unfold itemStatus
  unfold Dict.getOr at ready ⊢
  cases listed : data.lookup "status" with
  | none =>
    rw [listed] at ready
    exact absurd ready (by decide)
  | some value =>
    rw [listed] at ready
    exact ready

theorem discovered_proper
    {envelope : NormalizedTaskEnvelope} (discovered : feeder.Discovered projectId allowed envelope) :
    EnvelopeProper feeder projectId allowed envelope := by
  intro item _ normalized
  have made := normalizeItem_some normalized
  constructor
  · rw [← made.authorityClass]
    exact discovered.allowed
  · rintro (blocked | status)
    · rw [blockedBy, made.unblocked] at blocked
      cases blocked
    · rw [itemStatus_ready made.ready] at status
      exact absurd status (by decide +kernel)
  · rintro ⟨passes, other, guarded, same, rejected⟩
    rw [normalized] at same
    cases same
    exact rejected (discovered.passed passes guarded)

/-! ### The way of the portfolio -/

theorem stateUnderAuthority_runnable {authorityClass : String}
    {state : GlobalWorkState} (runnable : stateUnderAuthority allowed authorityClass state = .ready ∨
      stateUnderAuthority allowed authorityClass state = .autoPreparable) :
    (state = .ready ∨ state = .autoPreparable) ∧
      (authorityClass ∉ allowed → authorityClass ≠ "CLASS_C") := by
  unfold stateUnderAuthority at runnable
  split at runnable
  · rcases runnable with same | same <;> cases same
  · next free => exact ⟨runnable, fun outside same => free ⟨outside, same⟩⟩

theorem blocked_needsEvidence {itemId : String} {data : Dict} {references : List String}
    {state : GlobalWorkState}
    (known : darwinState itemId (itemStatus data) (blockedBy data) references = some state)
    (runnable : state = .ready ∨ state = .autoPreparable) (blocked : MarkedBlocked data) :
    itemStatus data = "NEEDS_EVIDENCE" ∧ (blockedBy data).truthy = true := by
  unfold darwinState at known
  split at known
  · next ready =>
      have marked : (blockedBy data).truthy = true := by
        rcases blocked with marked | status
        · exact marked
        · rw [ready] at status
          exact absurd status (by decide +kernel)
      rw [if_pos marked] at known
      cases known
      rcases runnable with same | same <;> cases same
  split at known
  · next needs =>
      refine ⟨needs, ?_⟩
      rcases blocked with marked | status
      · exact marked
      · rw [needs] at status
        exact absurd status (by decide +kernel)
  split at known
  · split at known <;>
      · cases known
        rcases runnable with same | same <;> cases same
  split at known
  · cases known
  · cases known
    rcases runnable with same | same <;> cases same

theorem item_proper_iff {item : Json}
    (read : DarwinBacklogAdapter.workPackage allowed item = .ok (some work))
    (runnable : work.currentState = .ready ∨ work.currentState = .autoPreparable) :
    ItemProper feeder projectId allowed item ↔ ¬ WaywardItem feeder projectId allowed item := by
  have made := packageOf_ok read
  obtain ⟨state, is, known⟩ := made.state
  rw [is, made.authorityClass] at runnable
  obtain ⟨own, classes⟩ := stateUnderAuthority_runnable runnable
  constructor
  · rintro proper (⟨outside, -⟩ | ⟨-, marked⟩ | rejected)
    · exact outside proper.authority
    · exact proper.unblocked (.inl marked)
    · exact proper.passed rejected
  · intro straight
    constructor
    · by_contra outside
      exact straight (.inl ⟨outside, classes outside⟩)
    · intro blocked
      exact straight (.inr (.inl (blocked_needsEvidence known own blocked)))
    · exact fun rejected => straight (.inr (.inr rejected))

theorem gate_proper_iff {record : DFGProjectRecord}
    (runnable : (CanonicalRoadmapAdapter.workPackage allowed projectId record).currentState = .ready ∨
      (CanonicalRoadmapAdapter.workPackage allowed projectId record).currentState = .autoPreparable) :
    GateProper allowed record ↔ ¬ WaywardGate allowed record := by
  obtain ⟨own, classes⟩ := stateUnderAuthority_runnable runnable
  constructor
  · exact fun proper wayward => wayward.1 proper.authority
  · intro straight
    constructor
    · by_contra outside
      exact straight ⟨outside, classes outside⟩
    · intro blocked
      rw [CanonicalRoadmapAdapter.gateState, blocked] at own
      rcases own with same | same <;> cases same

theorem package_proper_iff
    (runnable : work.currentState = .ready ∨ work.currentState = .autoPreparable) :
    PackageProper feeder projectId allowed work ↔ ¬ Wayward feeder projectId allowed work := by
  constructor
  · rintro proper (⟨item, member, read, wayward⟩ | ⟨entry, member, same, wayward⟩)
    · exact (item_proper_iff read runnable).mp (proper.item item member read) wayward
    · rw [same] at runnable
      exact (gate_proper_iff runnable).mp (proper.gate entry member same) wayward
  · intro straight
    constructor
    · intro item member read
      rw [item_proper_iff read runnable]
      exact fun wayward => straight (.inl ⟨item, member, read, wayward⟩)
    · intro entry member same
      rw [same] at runnable
      rw [gate_proper_iff runnable]
      exact fun wayward => straight (.inr ⟨entry, member, same, wayward⟩)

theorem isEligible_runnable {existing : List String}
    (eligible : GlobalWorkPortfolioService.isEligible existing work = true) :
    work.currentState = .ready ∨ work.currentState = .autoPreparable := by
  unfold GlobalWorkPortfolioService.isEligible at eligible
  simp only [Bool.and_eq_true, decide_eq_true_eq] at eligible
  exact eligible.1.1.1

/-! ### What is queued -/

/-- Each package that got a workflow may be queued. -/
def PackagesProper (feeder : DarwinBacklogFeeder) (projectId : String) (allowed : List String)
    (batch : List NormalizedWorkPackage) (entries : List FedEntry) : Prop :=
  ∀ work ∈ batch, ∀ entry ∈ entries, PackageFed feeder work entry →
    entry.record.workflowId.isSome = true → PackageProper feeder projectId allowed work

def EnvelopesProper (feeder : DarwinBacklogFeeder) (projectId : String) (allowed : List String)
    (selected : List NormalizedTaskEnvelope) (entries : List FedEntry) : Prop :=
  ∀ envelope ∈ selected, ∀ entry ∈ entries, EnvelopeFed feeder projectId envelope entry →
    entry.record.workflowId.isSome = true → EnvelopeProper feeder projectId allowed envelope

/-- No package that gets a workflow is of the three kinds. -/
def Straight (feeder : DarwinBacklogFeeder) (projectId : String) (allowed : List String)
    (batch : List NormalizedWorkPackage) : Prop :=
  ∀ work ∈ batch, StatedPackage work → ¬ Wayward feeder projectId allowed work

theorem packagesProper_iff {batch : List NormalizedWorkPackage} {entries : List FedEntry}
    (packages : List.Forall₂ (PackageFed feeder) batch entries)
    (recorded : ∀ entry ∈ entries, entry.Recorded)
    (runnable : ∀ work ∈ batch, work.currentState = .ready ∨ work.currentState = .autoPreparable) :
    PackagesProper feeder projectId allowed batch entries ↔ Straight feeder projectId allowed batch := by
  have queued {work : NormalizedWorkPackage} {entry : FedEntry} (member : entry ∈ entries)
      (is : PackageFed feeder work entry) :
      entry.record.workflowId.isSome = true ↔ StatedPackage work := by
    rw [(recorded entry member).ready, is.2, stated_package_iff]
  constructor
  · intro proper work member stated
    obtain ⟨entry, listed, is⟩ := forall₂_left packages member
    rw [← package_proper_iff (runnable work member)]
    exact proper work member entry listed is ((queued listed is).mpr stated)
  · intro straight work member entry listed is workflow
    rw [package_proper_iff (runnable work member)]
    exact straight work member ((queued listed is).mp workflow)

def classedItem (itemId authorityClass : String) : Json :=
  .obj [("item_id", .str itemId), ("title", .str "Compare venues"),
    ("objective", .str "Compare the fees of the venues"), ("status", .str "READY"),
    ("authority_class", .str authorityClass), ("provenance_refs", .arr [.str "docs/venues.md"])]

def classedFeeder : DarwinBacklogFeeder where
  customItems := true
  backlog := [classedItem "MON-004" "CLASS_D"]

end Lucius.Portfolio
