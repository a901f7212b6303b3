import Lucius.Portfolio.FeedEffects

/-! What one call of the feeder takes from its sources, and what it leaves of it. -/

namespace Lucius.Portfolio

open Lucius.Action Planning

/-! ### The portfolio -/

/-- The entry of a package. -/
def PackageFed (feeder : DarwinBacklogFeeder) (work : NormalizedWorkPackage) (entry : FedEntry) :
    Prop :=
  entry.projectId = work.projectId ∧
    entry.work = GlobalWorkPortfolioService.fedWork feeder entry.repositoryId work

theorem feedPackage_ok {feeder : DarwinBacklogFeeder} {work : NormalizedWorkPackage}
    {record : FeedRecord} {store after : Store}
    (done : exec (GlobalWorkPortfolioService.feedPackage feeder work) store = (.ok record, after)) :
    ∃ entry, PackageFed feeder work entry ∧ entry.record = record ∧
      Feeds store.toTables after.toTables [entry] := by
  unfold GlobalWorkPortfolioService.feedPackage at done
  obtain ⟨project, first, ensured, done⟩ := bind_ok done
  have projectFed := (ensureProject_ok ensured).2
  obtain ⟨registration, second, registered, done⟩ := bind_ok done
  obtain ⟨present, registrationFed⟩ := ensureRegistration_ok registered
  obtain ⟨_, third, attaching, done⟩ := bind_ok done
  obtain ⟨attached, attachmentFed⟩ := ensureAttachment_ok present attaching
  have reading : ReadingTerms registration.id
      (GlobalWorkPortfolioService.fedWork feeder registration.id work).terms :=
    ⟨rfl, rfl, rfl, rfl, rfl, rfl⟩
  have fed := workFed_feeds (feedWork_ok reading attached done)
  have all := feeds_append (feeds_append (feeds_append projectFed registrationFed) attachmentFed) fed
  exact ⟨_, ⟨rfl, rfl⟩, rfl, all⟩

/-- The packages that a call of the portfolio takes. -/
def portfolioBatch (feeder : DarwinBacklogFeeder) (allowed : List String) (tables : Tables)
    (maxItems : Int) : Except PyExc (List NormalizedWorkPackage) := do
  let existing ← existingDedupeKeys tables
  return GlobalWorkPortfolioService.batch feeder allowed existing maxItems

theorem feedPortfolioIntoQueue_ok {feeder : DarwinBacklogFeeder} {allowed : List String}
    {maxItems : Int} {records : List FeedRecord} {store after : Store}
    (done : exec (GlobalWorkPortfolioService.feedPortfolioIntoQueue feeder allowed maxItems) store =
      (.ok records, after)) :
    ∃ batch entries, portfolioBatch feeder allowed store.toTables maxItems = .ok batch ∧
      List.Forall₂ (PackageFed feeder) batch entries ∧ entries.map FedEntry.record = records ∧
      Feeds store.toTables after.toTables entries := by
  unfold GlobalWorkPortfolioService.feedPortfolioIntoQueue at done
  rw [exec_get_bind] at done
  obtain ⟨existing, read, done⟩ := bind_ofExcept_ok done
  obtain ⟨entries, are, records, fed⟩ := feedAll_ok (PackageFed feeder)
    (fun _ => True) (fun _ _ _ _ _ => trivial)
    (fun work record start final _ one => feedPackage_ok one) trivial done
  refine ⟨_, entries, ?_, are, records, fed⟩
  rw [portfolioBatch, read]
  rfl

/-! ### The feeder's own work -/

/-- The entry of an envelope. -/
def EnvelopeFed (feeder : DarwinBacklogFeeder) (projectId : String)
    (envelope : NormalizedTaskEnvelope) (entry : FedEntry) : Prop :=
  entry.projectId = projectId ∧
    entry.work = DarwinBacklogFeeder.fedWork feeder projectId entry.repositoryId envelope

theorem feedEnvelope_ok {feeder : DarwinBacklogFeeder} {adapter : ScriptedRuntimePlanningAdapter}
    {projectId repositoryId : String} {envelope : NormalizedTaskEnvelope} {record : FeedRecord}
    {store after : Store}
    (attached : Tasks.isAttached store.toTables projectId repositoryId = true)
    (done : exec (feeder.feedEnvelope adapter projectId repositoryId envelope) store =
      (.ok record, after)) :
    ∃ entry, EnvelopeFed feeder projectId envelope entry ∧ entry.record = record ∧
      Feeds store.toTables after.toTables [entry] := by
  unfold DarwinBacklogFeeder.feedEnvelope at done
  obtain ⟨made, middle, feeding, done⟩ := bind_ok done
  have reading : ReadingTerms repositoryId (feeder.fedWork projectId repositoryId envelope).terms :=
    ⟨rfl, rfl, rfl, rfl, rfl, rfl⟩
  have fed := workFed_feeds (feedWork_ok reading attached feeding)
  cases workflow : made.workflowId with
  | none =>
    rw [workflow] at done
    obtain ⟨rfl, rfl⟩ := ok_pure done
    exact ⟨_, ⟨rfl, rfl⟩, rfl, fed⟩
  | some workflowId =>
    rw [workflow] at done
    obtain ⟨reference, last, planned, done⟩ := bind_ok done
    obtain ⟨rfl, rfl⟩ := ok_pure done
    exact ⟨_, ⟨rfl, rfl⟩, rfl, feeds_append fed (prepareWorkflowPlan_content planned)⟩

theorem feedSelected_ok {feeder : DarwinBacklogFeeder} {adapter : ScriptedRuntimePlanningAdapter}
    {projectId : String} {selected : List NormalizedTaskEnvelope} {records : List FeedRecord}
    {store after : Store}
    (done : exec (feeder.feedSelected adapter projectId selected) store = (.ok records, after)) :
    ∃ entries, List.Forall₂ (EnvelopeFed feeder projectId) selected entries ∧
      entries.map FedEntry.record = records ∧ Feeds store.toTables after.toTables entries := by
  unfold DarwinBacklogFeeder.feedSelected at done
  obtain ⟨project, first, ensured, done⟩ := bind_ok done
  obtain ⟨named, projectFed⟩ := ensureProject_ok ensured
  obtain ⟨registration, third, registered, done⟩ := bind_ok done
  unfold DarwinBacklogFeeder.ensureRepositoryAttachment at registered
  obtain ⟨found, second, looked, registered⟩ := bind_ok registered
  obtain ⟨present, registrationFed⟩ := ensureRegistration_ok looked
  obtain ⟨_, last, attaching, registered⟩ := bind_ok registered
  obtain ⟨rfl, rfl⟩ := ok_pure registered
  obtain ⟨attached, attachmentFed⟩ := ensureAttachment_ok present attaching
  have is : project.id = projectId := named
  rw [is] at attached done
  obtain ⟨entries, are, records, fed⟩ := feedAll_ok (EnvelopeFed feeder projectId)
    (fun tables => Tasks.isAttached tables projectId registration.id = true)
    (fun _ _ _ feeds known => feeds.attached _ _ known)
    (fun envelope record start final ready one => feedEnvelope_ok ready one) attached done
  have setup := feeds_append (feeds_append projectFed registrationFed) attachmentFed
  exact ⟨entries, are, records, feeds_append setup fed⟩

/-! ### A call -/

/-- What a call that has taken so many takes from the portfolio. -/
def fromPortfolio (feeder : DarwinBacklogFeeder) (taken : Nat) (maxItems : Int) (tables : Tables) :
    Except PyExc (List NormalizedWorkPackage) :=
  if feeder.customItems = false ∧ (taken : Int) < feeder.effectiveMax maxItems
  then portfolioBatch feeder defaultAuthorityClasses tables (feeder.effectiveMax maxItems - taken)
  else .ok []

/-- What a call takes for itself, and what it takes from the portfolio. -/
def feedPlan (feeder : DarwinBacklogFeeder) (projectId : String) (maxItems : Int) (tables : Tables) :
    Except PyExc (List NormalizedTaskEnvelope × List NormalizedWorkPackage) :=
  if feeder.exhausted then .ok ([], [])
  else do
    let eligible ← feeder.discoverEligibleTasks projectId defaultAuthorityClasses
    if eligible.isEmpty then return ([], [])
    else
      let existing ← existingDedupeKeys tables
      let selected := feeder.selected existing eligible maxItems
      let batch ← fromPortfolio feeder selected.length maxItems tables
      return (selected, batch)

/-- A call that returns has fed what it took, and nothing else. -/
structure CallFed (feeder : DarwinBacklogFeeder) (projectId : String) (maxItems : Int)
    (before after : Tables) (records : List FeedRecord) (selected : List NormalizedTaskEnvelope)
    (batch : List NormalizedWorkPackage) (own others : List FedEntry) : Prop where
  plan : feedPlan feeder projectId maxItems before = .ok (selected, batch)
  envelopes : List.Forall₂ (EnvelopeFed feeder projectId) selected own
  packages : List.Forall₂ (PackageFed feeder) batch others
  records : records = own.map FedEntry.record ++ others.map FedEntry.record
  feeds : Feeds before after (others ++ own)

theorem feedFromPortfolio_ok {feeder : DarwinBacklogFeeder} {taken : Nat} {maxItems : Int}
    {records : List FeedRecord} {store after : Store}
    (done : exec (feeder.feedFromPortfolio taken maxItems) store = (.ok records, after)) :
    ∃ batch entries, fromPortfolio feeder taken maxItems store.toTables = .ok batch ∧
      List.Forall₂ (PackageFed feeder) batch entries ∧ entries.map FedEntry.record = records ∧
      Feeds store.toTables after.toTables entries := by
  unfold DarwinBacklogFeeder.feedFromPortfolio at done
  split at done
  · next asked =>
      obtain ⟨batch, entries, read, fed⟩ := feedPortfolioIntoQueue_ok done
      exact ⟨batch, entries, by rw [fromPortfolio, if_pos asked, read], fed⟩
  · next idle =>
      obtain ⟨rfl, rfl⟩ := ok_pure done
      exact ⟨[], [], by rw [fromPortfolio, if_neg idle], .nil, rfl, feeds_refl _⟩

theorem feedIntoQueue_ok {feeder : DarwinBacklogFeeder} {adapter : ScriptedRuntimePlanningAdapter}
    {projectId : String} {maxItems : Int} {records : List FeedRecord} {store after : Store}
    (done : exec (feeder.feedIntoQueue adapter projectId maxItems) store = (.ok records, after)) :
    ∃ selected batch own others, CallFed feeder projectId maxItems store.toTables after.toTables
      records selected batch own others := by
  unfold DarwinBacklogFeeder.feedIntoQueue at done
  by_cases exhausted : feeder.exhausted = true
  · rw [if_pos exhausted] at done
    obtain ⟨rfl, rfl⟩ := ok_pure done
    exact ⟨[], [], [], [], by rw [feedPlan, if_pos exhausted], .nil, .nil, rfl, feeds_refl _⟩
  rw [if_neg exhausted] at done
  obtain ⟨eligible, discovered, done⟩ := bind_ofExcept_ok done
  by_cases nothing : eligible.isEmpty = true
  · rw [if_pos nothing] at done
    obtain ⟨rfl, rfl⟩ := ok_pure done
    refine ⟨[], [], [], [], ?_, .nil, .nil, rfl, feeds_refl _⟩
    rw [feedPlan, if_neg exhausted, discovered]
    exact if_pos nothing
  rw [if_neg nothing, exec_get_bind] at done
  obtain ⟨existing, read, done⟩ := bind_ofExcept_ok done
  dsimp only at done
  obtain ⟨portfolio, middle, asked, done⟩ := bind_ok done
  obtain ⟨batch, others, taken, packages, listed, fed⟩ := feedFromPortfolio_ok asked
  have plan : feedPlan feeder projectId maxItems store.toTables =
      .ok (feeder.selected existing eligible maxItems, batch) := by
    rw [feedPlan, if_neg exhausted, discovered]
    change (if eligible.isEmpty = true then _ else _) = _
    rw [if_neg nothing, read]
    change (fromPortfolio feeder _ maxItems store.toTables >>= _) = _
    rw [taken]
    rfl
  split at done
  · next none =>
      obtain ⟨rfl, rfl⟩ := ok_pure done
      have empty := List.isEmpty_iff.mp none
      refine ⟨_, batch, [], others, plan, ?_, packages, listed.symm, ?_⟩
      · rw [empty]
        exact .nil
      · rw [List.append_nil]
        exact fed
  · obtain ⟨ownRecords, last, feeding, done⟩ := bind_ok done
    obtain ⟨rfl, rfl⟩ := ok_pure done
    obtain ⟨own, envelopes, ownListed, ownFed⟩ := feedSelected_ok feeding
    refine ⟨_, batch, own, others, plan, envelopes, packages, ?_, feeds_append fed ownFed⟩
    rw [ownListed, listed]

end Lucius.Portfolio
