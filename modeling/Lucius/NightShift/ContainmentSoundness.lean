import Lucius.Integration.CommitSoundness
import Lucius.NightShift.Budgets

/-! What a night shift that goes on after a task that did not complete knows of the two
workspaces of its workflow. -/

namespace Lucius.NightShift

open Worktree Lucius.Action Integration ControlledCommit

variable {ρ : Type} {checkout : Checkout} {files : Files} {surroundings : Surroundings} {disk : Disk}
  {snapshot : ContainmentSnapshot} {workflowId : String} {store after : Store}

/-- A path of a checkout reads as a regular file with some bytes. -/
def Holds (checkout : Checkout) (files : Files) (path : String) (bytes : Bytes) : Prop :=
  ∃ known location, validateRelativeRepoPath (.str path) = .ok known ∧
    checkout.resolve known = some location ∧ files.lookup location = some bytes

theorem workspaceFileSha256_ok {sha256 : Bytes → String}
    {path hash : String} (read : workspaceFileSha256 sha256 checkout files path = .ok hash) :
    ∃ bytes, Holds checkout files path bytes ∧ sha256 bytes = hash := by
  obtain ⟨known, valid, located⟩ := except_bind_ok read
  obtain ⟨location, resolved, looked⟩ := except_bind_ok located
  have found : checkout.resolve known = some location := by
    unfold locate at resolved
    split at resolved
    · cases resolved
      assumption
    · cases resolved
  split at looked
  · rename_i bytes content
    cases looked
    exact ⟨bytes, ⟨known, location, valid, found, content⟩, rfl⟩
  · cases looked

theorem captured_hash {sha256 : Bytes → String}
    {hashes : List (String × String)}
    (done : captureUntrackedFileHashes none sha256 checkout files = .ok hashes) :
    ∀ entry ∈ hashes, workspaceFileSha256 sha256 checkout files entry.1 = .ok entry.2 := by
  intro entry member
  obtain ⟨paths, listed, hashed⟩ := except_bind_ok done
  obtain ⟨known, inside, read⟩ := forall₂_right (mapM_ok hashed) member
  obtain ⟨hash, found, finish⟩ := except_bind_ok read
  cases finish
  exact found

theorem opened_ok {place : Place}
    (opened : place.opened = .ok (checkout, files)) : place = .repository checkout files := by
  cases place with
  | repository other others =>
    cases opened
    rfl
  | missing => cases opened
  | notDirectory => cases opened
  | outsideGit => cases opened

/-- What a snapshot says of the two workspaces it was taken of. -/
structure Seen (surroundings : Surroundings) (disk : Disk) (workflow : PersistentWorkflowRow)
    (freeze : PlanFreezeRow) (repository : RepositoryRegistrationRow) (snapshot : ContainmentSnapshot)
    (checkout : Checkout) (files : Files) : Prop where
  named : snapshot.workflowId = workflow.id
  canonical : snapshot.canonicalRepositoryPath = surroundings.resolve repository.location
  candidate : snapshot.candidateWorkspacePath = surroundings.resolve workflow.worktreePath
  baseline : snapshot.baselineCommit = freeze.commitSha
  opened : disk snapshot.canonicalRepositoryPath = .repository checkout files
  untracked : ∀ path, path ∈ snapshot.protectedUntrackedHashes.map Prod.fst ↔
    path ∈ checkout.others files
  hashed : ∀ entry ∈ snapshot.protectedUntrackedHashes,
    workspaceFileSha256 surroundings.sha256 checkout files entry.1 = .ok entry.2

theorem containmentSnapshot_ok
    {workflow : PersistentWorkflowRow} {freeze : PlanFreezeRow} {repository : RepositoryRegistrationRow}
    (done : containmentSnapshot surroundings disk workflow freeze repository = .ok snapshot) :
    ∃ checkout files,
      Seen surroundings disk workflow freeze repository snapshot checkout files := by
  obtain ⟨⟨checkout, files⟩, opened, rest⟩ := except_bind_ok done
  obtain ⟨head, headRead, rest⟩ := except_bind_ok rest
  obtain ⟨tracked, trackedRead, rest⟩ := except_bind_ok rest
  obtain ⟨staged, stagedRead, rest⟩ := except_bind_ok rest
  obtain ⟨hashes, hashed, rest⟩ := except_bind_ok rest
  obtain ⟨⟨candidate, candidateFiles⟩, candidateOpened, rest⟩ := except_bind_ok rest
  obtain ⟨candidateHead, candidateRead, rest⟩ := except_bind_ok rest
  obtain ⟨changed, changedRead, returned⟩ := except_bind_ok rest
  cases returned
  exact ⟨checkout, files, {
    named := rfl
    canonical := rfl
    candidate := rfl
    baseline := rfl
    opened := opened_ok opened
    untracked := captureUntrackedFileHashes_ok hashed
    hashed := captured_hash hashed }⟩

theorem captureFrom_mem {tables : Tables}
    {workflows : List PersistentWorkflowRow} {snapshots : List ContainmentSnapshot}
    (done : captureFrom surroundings tables disk workflows = .ok snapshots) (member : snapshot ∈ snapshots) :
    ∃ workflow ∈ workflows, ∃ freeze repository, watched tables workflow = some (freeze, repository) ∧
      containmentSnapshot surroundings disk workflow freeze repository = .ok snapshot := by
  induction workflows generalizing snapshots with
  | nil =>
    cases done
    cases member
  | cons first rest ih =>
    have later {others : List ContainmentSnapshot}
        (captured : captureFrom surroundings tables disk rest = .ok others) (inside : snapshot ∈ others) :
        ∃ workflow ∈ first :: rest, ∃ freeze repository,
          watched tables workflow = some (freeze, repository) ∧
          containmentSnapshot surroundings disk workflow freeze repository = .ok snapshot := by
      obtain ⟨workflow, listed, found⟩ := ih captured inside
      exact ⟨workflow, List.mem_cons_of_mem first listed, found⟩
    unfold captureFrom at done
    split at done
    · exact later done member
    · rename_i freeze repository seen
      split at done
      · rename_i taken snapped
        obtain ⟨others, captured, returned⟩ := except_bind_ok done
        cases returned
        rcases List.mem_cons.mp member with here | there
        · subst here
          exact ⟨first, List.mem_cons_self, freeze, repository, seen, snapped⟩
        · exact later captured there
      · exact later done member
      · cases done

theorem unsafeBefore_none {baseline : String}
    (fine : unsafeBefore snapshot baseline = none) :
    snapshot.candidateHead = baseline := by
  unfold unsafeBefore at fine
  split at fine
  · cases fine
  split at fine
  · cases fine
  split at fine
  · cases fine
  · rename_i same
    exact not_not.mp (fun different => same (.inl different))

/-- What the checks after the task have found of the canonical repository. -/
def Intact (surroundings : Surroundings) (place : Place) (baseline : String)
    (hashes : List (String × String)) : Prop :=
  ∃ checkout files, place = .repository checkout files ∧ checkout.head = baseline ∧
    checkout.staged = [] ∧ checkout.diff files = [] ∧
    (∀ entry ∈ hashes, entry.1 ∈ checkout.others files ∧
      workspaceFileSha256 surroundings.sha256 checkout files entry.1 = .ok entry.2) ∧
    ∀ other ∈ checkout.others files, other ∈ hashes.map Prod.fst

theorem checkAfter_ok {baseline candidateHead : String} {changes : List String}
    (done : checkAfter surroundings disk snapshot baseline = .ok (.inr (candidateHead, changes))) :
    Intact surroundings (disk snapshot.canonicalRepositoryPath) baseline
        snapshot.protectedUntrackedHashes ∧
      ∃ candidate files, disk snapshot.candidateWorkspacePath = .repository candidate files ∧
        candidate.head = candidateHead ∧ changes = sortedBy id (candidate.listed files).dedup := by
  obtain ⟨⟨checkout, files⟩, opened, rest⟩ := except_bind_ok done
  obtain ⟨head, headRead, rest⟩ := except_bind_ok rest
  have headed := failing_bind_ok headRead
  cases headed
  split at rest
  · cases rest
  rename_i atBaseline
  obtain ⟨staged, stagedRead, rest⟩ := except_bind_ok rest
  have stagedPaths := failing_bind_ok stagedRead
  cases stagedPaths
  split at rest
  · cases rest
  rename_i unstaged
  obtain ⟨tracked, trackedRead, rest⟩ := except_bind_ok rest
  have trackedPaths := failing_bind_ok trackedRead
  cases trackedPaths
  split at rest
  · cases rest
  rename_i clean
  obtain ⟨current, verified, rest⟩ := except_bind_ok rest
  obtain ⟨observed, observedRead, rest⟩ := except_bind_ok rest
  have observedPaths := failing_bind_ok observedRead
  cases observedPaths
  dsimp only at rest
  split at rest
  · cases rest
  rename_i expected
  obtain ⟨⟨candidate, candidateFiles⟩, candidateOpened, rest⟩ := except_bind_ok rest
  obtain ⟨found, candidateRead, rest⟩ := except_bind_ok rest
  have candidateHeaded := failing_bind_ok candidateRead
  cases candidateHeaded
  obtain ⟨changed, changedRead, returned⟩ := except_bind_ok rest
  have changedPaths := failing_bind_ok changedRead
  cases changedPaths
  cases returned
  refine ⟨⟨checkout, files, opened_ok opened, not_not.mp atBaseline, sortedBy_isEmpty unstaged,
    sortedBy_isEmpty clean, verifyUntrackedFileHashes_ok verified, ?_⟩,
    candidate, candidateFiles, opened_ok candidateOpened, rfl, rfl⟩
  intro other listed
  by_contra unknown
  apply expected
  have unexpected : other ∈ (sortedBy id (checkout.listed files).dedup).filter
      (· ∉ snapshot.protectedUntrackedHashes.map Prod.fst) := by
    rw [List.mem_filter, mem_sortedBy, List.mem_dedup]
    exact ⟨List.mem_append_right _ listed, decide_eq_true unknown⟩
  rw [List.isEmpty_eq_false_iff.mpr (List.ne_nil_of_mem unexpected)]
  rfl

/-- A workflow that still has a row is blocked in it, and its history says why. -/
def Quarantined (tables : Tables) (workflowId : String) : Prop :=
  ∀ row, tables.workflows.get? workflowId = some row → row.workflowState = .blocked ∧
    row.activeTaskId = none ∧ ∃ earlier reason timestamp,
      row.checkpointHistory = earlier ++ [quarantineEntry reason timestamp]

theorem quarantine_ok {reason : String} {nothing : Unit}
    (done : exec (quarantineFailedCandidate workflowId reason) store = (.ok nothing, after)) :
    Quarantined after.toTables workflowId := by
  rw [quarantineFailedCandidate, exec_get_bind] at done
  cases found : store.workflows.get? workflowId with
  | none =>
    rw [found] at done
    obtain ⟨-, rfl⟩ := ok_pure done
    intro row present
    rw [found] at present
    cases present
  | some workflow =>
    rw [found] at done
    cases done
    intro row present
    change (store.workflows.put _).get? workflowId = some row at present
    rw [Table.get?_put, found, Option.map_some] at present
    split at present
    · cases present
      exact ⟨rfl, rfl, workflow.checkpointHistory, reason, _, rfl⟩
    · rename_i other
      exact absurd rfl other

theorem settleCandidate_ok {candidateHead : String} {changes : List String} {result : ContainmentResult}
    (done : exec (settleCandidate workflowId snapshot candidateHead changes) store =
      (.ok result, after)) :
    (candidateHead = snapshot.candidateHead ∧ changes.isEmpty = true) ∨
      Quarantined after.toTables workflowId := by
  rw [settleCandidate] at done
  split at done
  · obtain ⟨nothing, middle, written, returned⟩ := bind_ok done
    obtain ⟨-, rfl⟩ := ok_pure returned
    exact .inr (quarantine_ok written)
  rename_i same
  split at done
  · obtain ⟨nothing, middle, written, returned⟩ := bind_ok done
    obtain ⟨-, rfl⟩ := ok_pure returned
    exact .inr (quarantine_ok written)
  · rename_i clean
    exact .inl ⟨not_not.mp same, by simpa using clean⟩

/-- What a failure is contained by. -/
structure Proven (surroundings : Surroundings) (disk : Disk) (snapshot : ContainmentSnapshot)
    (tables : Tables) (workflowId baseline : String) : Prop where
  frozen : reference snapshot.baselineCommit = some baseline
  canonical : Intact surroundings (disk snapshot.canonicalRepositoryPath) baseline
    snapshot.protectedUntrackedHashes
  candidate : (∃ candidate files, disk snapshot.candidateWorkspacePath = .repository candidate files ∧
      candidate.head = baseline ∧ candidate.listed files = []) ∨ Quarantined tables workflowId

theorem proveContainedFailure_ok {found : Option ContainmentSnapshot} {result : ContainmentResult}
    (done : exec (proveContainedFailure surroundings disk workflowId found) store = (.ok result, after))
    (contained : result.status = .contained) :
    ∃ snapshot baseline, found = some snapshot ∧
      Proven surroundings disk snapshot after.toTables workflowId baseline := by
  have refused {reason : String}
      (returned : exec (pure (notContained reason) : Op ContainmentResult) store = (.ok result, after)) :
      False := by
    obtain ⟨rfl, -⟩ := ok_pure returned
    cases contained
  unfold proveContainedFailure at done
  split at done
  · exact (refused done).elim
  rename_i snapshot
  split at done
  · exact (refused done).elim
  rename_i baseline frozen
  split at done
  · exact (refused done).elim
  rename_i fine
  split at done
  · exact (refused done).elim
  · cases done
  · exact (refused done).elim
  · rename_i candidateHead changes checked
    obtain ⟨intact, candidate, files, opened, headed, listed⟩ := checkAfter_ok checked
    refine ⟨snapshot, baseline, rfl, frozen, intact, ?_⟩
    obtain ⟨same, clean⟩ | quarantined := settleCandidate_ok done
    · refine .inl ⟨candidate, files, opened, ?_, ?_⟩
      · rw [headed, same, unsafeBefore_none fine]
      · rw [listed] at clean
        have empty : (candidate.listed files).dedup = [] :=
          sortedBy_isEmpty (by rw [clean]; decide)
        exact List.dedup_eq_nil _ |>.mp empty
    · exact .inr quarantined

theorem ok_onStore {α : Type} {operation : Op α} {state after : ShiftState ρ} {result : α}
    (done : exec (onStore operation) state = (.ok result, after)) :
    ∃ store, exec operation state.outside.store = (.ok result, store) ∧
      after = { state with outside := { state.outside with store := store } } := by
  obtain ⟨returned, reached⟩ := Prod.mk.inj done
  exact ⟨_, Prod.ext returned rfl, reached.symm⟩

theorem settleFailure_ok {services : Services ρ}
    {snapshots : List ContainmentSnapshot} {state after : ShiftState ρ}
    (goes : exec (settleFailure services workflowId snapshots) state = (.ok none, after)) :
    after.calls = state.calls ∧ after.outside.disk = state.outside.disk ∧
      ∃ snapshot ∈ snapshots, snapshot.workflowId = workflowId ∧ ∃ baseline,
        Proven services.surroundings after.outside.disk snapshot after.outside.store.toTables
          workflowId baseline := by
  rw [settleFailure, exec_get_bind] at goes
  obtain ⟨containment, middle, settled, goes⟩ := bind_ok goes
  obtain ⟨store, proved, rfl⟩ := ok_onStore settled
  rw [reportCycle, exec_bind_of_ok (exec_report _ _)] at goes
  by_cases contained : containment.status = .contained
  · rw [if_neg (not_not.mpr contained), exec_bind_of_ok (exec_report _ _)] at goes
    obtain ⟨snapshot, baseline, found, proven⟩ := proveContainedFailure_ok proved contained
    cases goes
    have named := List.find?_some found
    exact ⟨rfl, rfl, snapshot, List.mem_of_find?_eq_some found, of_decide_eq_true named, baseline,
      proven⟩
  · rw [if_pos contained] at goes
    cases goes

/-- A cycle that goes on has taken its snapshots, run the runtime and settled its report. -/
theorem cycle_peeled {services : Services ρ} {config : NightShiftConfig} {started : Rat}
    {state after : ShiftState ρ}
    (goes : exec (cycle services config started) state = (.ok none, after)) :
    ∃ number snapshots report middle,
      captureContainmentSnapshots services.surroundings state.outside.store.toTables
        state.outside.disk config.workflowIds = .ok snapshots ∧
      middle.calls = state.calls ++ [.ran number report] ∧
      exec (settleReport services config number snapshots report) middle = (.ok none, after) := by
  obtain ⟨reason, ended⟩ | ⟨-, -, worked⟩ := cycle_cases services config started state
  · rw [goes] at ended
    have stopped := congrArg Prod.fst ended
    cases stopped
  rw [goes] at worked
  have done := worked.symm
  rw [work, exec_bind_of_ok (exec_report _ _)] at done
  obtain ⟨nothing, told, audited, done⟩ := bind_ok done
  cases audited
  rw [exec_bind_of_ok (exec_look _), attempt, exec_get_bind] at done
  obtain ⟨snapshots, captured, done⟩ := bind_ofExcept_ok done
  obtain ⟨report, outside, ran, done⟩ := bind_ok done
  obtain ⟨-, rfl⟩ := Prod.mk.inj ran
  rw [exec_bind_of_ok (exec_called _ _), reportCycle, exec_bind_of_ok (exec_report _ _),
    exec_bind_of_ok (exec_report _ _)] at done
  exact ⟨_, snapshots, report, _, captured, rfl, done⟩

/-- The files of a place that is a repository. -/
def Place.Holds (place : Place) (path : String) (bytes : Bytes) : Prop :=
  ∃ checkout files, place = .repository checkout files ∧ NightShift.Holds checkout files path bytes

/-- An untracked file has kept its content. -/
def Kept (before after : Place) (path : String) : Prop :=
  ∃ bytes, before.Holds path bytes ∧ after.Holds path bytes

/-- What the two workspaces of a workflow are like after a cycle, and what the cycle has left of
the canonical one. -/
def Contained (surroundings : Surroundings) (before after : Outside ρ) (workflowId : String) : Prop :=
  ∃ workflow freeze repository baseline earlier earlierFiles later laterFiles,
    before.store.workflows.get? workflowId = some workflow ∧
    watched before.store.toTables workflow = some (freeze, repository) ∧
    reference freeze.commitSha = some baseline ∧
    before.disk (surroundings.resolve repository.location) = .repository earlier earlierFiles ∧
    after.disk (surroundings.resolve repository.location) = .repository later laterFiles ∧
    later.head = baseline ∧ later.staged = [] ∧ later.diff laterFiles = [] ∧
    (∀ path ∈ earlier.others earlierFiles, path ∈ later.others laterFiles ∧
      Kept (before.disk (surroundings.resolve repository.location))
        (after.disk (surroundings.resolve repository.location)) path) ∧
    (∀ path ∈ later.others laterFiles, path ∈ earlier.others earlierFiles) ∧
    ((∃ candidate files, after.disk (surroundings.resolve workflow.worktreePath) =
        .repository candidate files ∧ candidate.head = baseline ∧ candidate.listed files = []) ∨
      Quarantined after.store.toTables workflowId)

/-- No file has two contents with one digest. -/
def Distinct (surroundings : Surroundings) (before after : Outside ρ) : Prop :=
  ∀ location path first second, (before.disk location).Holds path first →
    (after.disk location).Holds path second →
    surroundings.sha256 first = surroundings.sha256 second → first = second

/-- A night shift goes on after a task that did not complete only with its workspaces contained. -/
theorem goes_on_contained {services : Services ρ} {config : NightShiftConfig} {started : Rat}
    {state after : ShiftState ρ} {number : Nat} {report : RuntimeReport} {more : List Call}
    {record : Lucius.Runtime.RuntimeTaskExecutionRecord}
    (goes : exec (cycle services config started) state = (.ok none, after))
    (ran : after.calls = state.calls ++ .ran number report :: more)
    (last : report.taskRecords.getLast? = some record) (failed : record.outcome ≠ .completed)
    (distinct : Distinct services.surroundings state.outside after.outside) :
    Contained services.surroundings state.outside after.outside record.workflowId := by
  obtain ⟨cycle, snapshots, returned, middle, captured, called, settled⟩ := cycle_peeled goes
  have same : returned = report := by
    obtain ⟨added, -, made, -, -⟩ := respects_exec
      (settleReport_adds services config cycle snapshots returned) settled
    rw [made, called, List.append_assoc, List.append_cancel_left_eq] at ran
    cases ran
    rfl
  subst same
  have failure : ∃ entered : ShiftState ρ,
      exec (settleFailure services record.workflowId snapshots) entered = (.ok none, after) := by
    rw [settleReport] at settled
    split at settled
    · cases settled
    split at settled
    · cases settled
    rw [last] at settled
    dsimp only at settled
    rw [reportCycle, exec_bind_of_ok (exec_report _ _), exec_bind_of_ok (exec_report _ _),
      if_pos failed] at settled
    exact ⟨_, settled⟩
  obtain ⟨entered, settling⟩ := failure
  obtain ⟨-, -, snapshot, member, named, baseline, proven⟩ := settleFailure_ok settling
  obtain ⟨workflow, listed, freeze, repository, seen, snapped⟩ := captureFrom_mem captured member
  obtain ⟨earlier, earlierFiles, sight⟩ := containmentSnapshot_ok snapped
  obtain ⟨later, laterFiles, found, headed, unstaged, clean, verified, known⟩ := proven.canonical
  have stored : workflow ∈ state.outside.store.workflows.rows := by
    have inside := (List.mem_filter.mp listed).1
    rwa [mem_sortedBy] at inside
  have row : state.outside.store.workflows.get? record.workflowId = some workflow := by
    rw [← named, sight.named]
    exact Table.get?_of_mem stored
  have opened := sight.opened
  rw [sight.canonical] at found opened
  refine ⟨workflow, freeze, repository, baseline, earlier, earlierFiles, later, laterFiles, row, seen,
    sight.baseline ▸ proven.frozen, opened, found, headed, unstaged, clean, ?_, ?_, ?_⟩
  · intro path untracked
    obtain ⟨entry, shielded, rfl⟩ := List.mem_map.mp ((sight.untracked path).mpr untracked)
    obtain ⟨stays, rehashed⟩ := verified entry shielded
    obtain ⟨first, held, digest⟩ := workspaceFileSha256_ok (sight.hashed entry shielded)
    obtain ⟨second, holds, redigest⟩ := workspaceFileSha256_ok rehashed
    have before : (state.outside.disk (services.surroundings.resolve repository.location)).Holds
        entry.1 first := ⟨earlier, earlierFiles, opened, held⟩
    have now : (after.outside.disk (services.surroundings.resolve repository.location)).Holds
        entry.1 second := ⟨later, laterFiles, found, holds⟩
    have unchanged : first = second := distinct _ _ _ _ before now (digest.trans redigest.symm)
    subst unchanged
    exact ⟨stays, first, before, now⟩
  · intro path untracked
    exact (sight.untracked path).mp (known path untracked)
  · rw [← sight.candidate]
    exact proven.candidate

/-- A canonical repository with one untracked note, and a candidate workspace. -/
def twoWorkspaces (candidate : Files) : Disk := fun path =>
  if path = "/repo" then
    .repository (.plain "base" ∅ (fun _ => false)) (AList.insert "a.md" [65] ∅)
  else if path = "/work" then .repository (.plain "base" ∅ (fun _ => false)) candidate
  else .missing

def blockedReport : RuntimeReport where
  status := .blocked
  selectedTasks := 1
  blockedTasks := 1
  taskRecords := [{
    workflowId := "LWORK_000001"
    itemId := "ITEM-1"
    projectId := some "LPROJ_000001"
    providerId := "ollama"
    outcome := .blocked
    completedSubsteps := []
    failureClass := none
    blockerCategory := none }]

/-- A runtime whose task leaves a file in its candidate workspace. -/
def littering : Services Unit :=
  { obliging with
    runtime := fun _ => do
      modify (fun outside => { outside with disk := twoWorkspaces (AList.insert "b.md" [66] ∅) })
      return blockedReport
    surroundings := {
      resolve := id
      sha256 := fun bytes => String.ofList (bytes.map (fun byte => Char.ofNat byte.toNat)) } }

def tidyShift : ShiftState Unit where
  outside := { promotable.outside with disk := twoWorkspaces ∅ }

theorem littering_goes_on : (exec (cycle littering {} 0) tidyShift).1 = .ok none := by
  have silent : (exec (cycle littering {} 0) tidyShift).1.toOption.map Option.isNone = some true := by
    decide +kernel
  cases outcome : (exec (cycle littering {} 0) tidyShift).1 with
  | error error =>
    rw [outcome] at silent
    cases silent
  | ok result =>
    cases result with
    | none => rfl
    | some result =>
      rw [outcome] at silent
      cases silent

/-- The night shift goes on, with the candidate quarantined. -/
theorem littering_contained :
    Contained littering.surroundings tidyShift.outside (exec (cycle littering {} 0) tidyShift).2.outside
      "LWORK_000001" := by
  have called : (exec (cycle littering {} 0) tidyShift).2.calls = tidyShift.calls ++ [.ran 1 blockedReport] := by
    decide +kernel
  have goes : exec (cycle littering {} 0) tidyShift = (.ok none, (exec (cycle littering {} 0) tidyShift).2) :=
    Prod.ext littering_goes_on rfl
  exact goes_on_contained goes called rfl (by decide)
    (fun location path first second held holds digest => bytewise_injective digest)

end Lucius.NightShift
