import Lucius.Lib.Blind
import Lucius.Lib.Sorting
import Lucius.NightShift.ContainmentSoundness

/-! A workflow that is not selected, and the night shift without it. -/

namespace Lucius

/-- The store without the row of a workflow. -/
def Store.without (store : Store) (workflowId : String) : Store :=
  { store with workflows := store.workflows.without workflowId }

namespace NightShift

open Worktree Lucius.Action Integration

variable {ρ : Type}

def Place.isDirectory : Place → Bool
  | .missing => false
  | .notDirectory => false
  | .outsideGit => true
  | .repository _ _ => true

/-- The untracked files of a place can be hashed where it is a repository whose paths are valid. -/
def Place.isHashed (place : Place) (sha256 : Bytes → String) : Bool :=
  match place with
  | .repository checkout files => (captureUntrackedFileHashes none sha256 checkout files).isOk
  | _ => false

/-- The canonical path is a directory, and so is the candidate's unless Git refuses the first. -/
def Capturable (surroundings : Surroundings) (disk : Disk) (workflow : PersistentWorkflowRow)
    (repository : RepositoryRegistrationRow) : Prop :=
  (disk (surroundings.resolve repository.location)).isDirectory = true ∧
    ((disk (surroundings.resolve repository.location)).isHashed surroundings.sha256 = true →
      (disk (surroundings.resolve workflow.worktreePath)).isDirectory = true)

instance (surroundings : Surroundings) (disk : Disk) (workflow : PersistentWorkflowRow)
    (repository : RepositoryRegistrationRow) :
    Decidable (Capturable surroundings disk workflow repository) :=
  inferInstanceAs (Decidable (_ ∧ (_ → _)))

def Passed {α : Type} (outcome : Except WorkspaceExc α) : Prop :=
  ∀ error, outcome = .error error → ∃ code message, error = .gitMutation code message

theorem passed_ok {α : Type} (value : α) : Passed (.ok value : Except WorkspaceExc α) := by
  intro error raised
  cases raised

theorem passed_git {α : Type} (code message : String) :
    Passed (.error (.gitMutation code message) : Except WorkspaceExc α) := by
  intro error raised
  cases raised
  exact ⟨code, message, rfl⟩

theorem passed_bind {α β : Type} {first : Except WorkspaceExc α} {next : α → Except WorkspaceExc β}
    (before : Passed first) (later : ∀ value, Passed (next value)) : Passed (first >>= next) := by
  cases first with
  | error error =>
    obtain ⟨code, message, rfl⟩ := before error rfl
    exact passed_git code message
  | ok value => exact later value

theorem workspaceFileSha256_passed (sha256 : Bytes → String) (checkout : Checkout) (files : Files)
    (path : String) : Passed (workspaceFileSha256 sha256 checkout files path) := by
  apply passed_bind
  · unfold validateRelativeRepoPath
    dsimp only
    split
    · exact passed_git _ _
    split
    · exact passed_git _ _
    · exact passed_ok _
  intro known
  apply passed_bind
  · unfold locate
    split
    · exact passed_ok _
    · exact passed_git _ _
  intro location
  split
  · exact passed_ok _
  · exact passed_git _ _

theorem passed_mapM {α β : Type} {read : α → Except WorkspaceExc β} (each : ∀ item, Passed (read item))
    (items : List α) : Passed (items.mapM read) := by
  induction items with
  | nil => exact passed_ok _
  | cons item rest ih =>
    rw [List.mapM_cons]
    apply passed_bind (each item)
    intro value
    apply passed_bind ih
    intro values
    exact passed_ok _

theorem captureUntrackedFileHashes_passed (sha256 : Bytes → String) (checkout : Checkout)
    (files : Files) : Passed (captureUntrackedFileHashes none sha256 checkout files) := by
  apply passed_bind (passed_ok _)
  intro paths
  apply passed_mapM
  intro path
  apply passed_bind (workspaceFileSha256_passed sha256 checkout files path)
  intro hash
  exact passed_ok _

theorem not_passed_system {α : Type} : ¬ Passed (.error .osError : Except WorkspaceExc α) := by
  intro passed
  obtain ⟨code, message, same⟩ := passed .osError rfl
  cases same

theorem opened_passed_iff (place : Place) : Passed place.opened ↔ place.isDirectory = true := by
  cases place with
  | missing => exact ⟨fun passed => absurd passed not_passed_system, fun directory => by cases directory⟩
  | notDirectory => exact ⟨fun passed => absurd passed not_passed_system, fun directory => by cases directory⟩
  | outsideGit => exact ⟨fun _ => rfl, fun _ => passed_git _ _⟩
  | repository checkout files => exact ⟨fun _ => rfl, fun _ => passed_ok _⟩

theorem passed_bind_iff {α β : Type} {first : Except WorkspaceExc α}
    {next : α → Except WorkspaceExc β} :
    Passed (first >>= next) ↔ Passed first ∧ ∀ value, first = .ok value → Passed (next value) := by
  cases first with
  | error error =>
    constructor
    · intro passed
      refine ⟨fun raised same => ?_, fun value same => by cases same⟩
      cases same
      exact passed error rfl
    · rintro ⟨passed, -⟩ raised same
      cases same
      exact passed error rfl
  | ok value =>
    refine ⟨fun passed => ⟨passed_ok value, ?_⟩, fun both => both.2 value rfl⟩
    intro other same
    cases same
    exact passed

theorem snapshot_passed_iff (surroundings : Surroundings) (disk : Disk)
    (workflow : PersistentWorkflowRow) (freeze : PlanFreezeRow)
    (repository : RepositoryRegistrationRow) :
    Passed (containmentSnapshot surroundings disk workflow freeze repository) ↔
      Capturable surroundings disk workflow repository := by
  unfold containmentSnapshot Capturable
  dsimp only
  rw [passed_bind_iff, opened_passed_iff]
  apply and_congr_right
  intro directory
  constructor
  · intro each hashed
    cases placed : disk (surroundings.resolve repository.location) with
    | missing => rw [placed] at hashed; cases hashed
    | notDirectory => rw [placed] at hashed; cases hashed
    | outsideGit => rw [placed] at hashed; cases hashed
    | repository checkout files =>
      rw [placed] at hashed
      obtain ⟨hashes, captured⟩ := except_isOk hashed
      have head := each (checkout, files) (by rw [placed]; rfl)
      have tracked := (passed_bind_iff.mp head).2 _ rfl
      have staged := (passed_bind_iff.mp tracked).2 _ rfl
      have untracked := (passed_bind_iff.mp staged).2 _ rfl
      have candidate := (passed_bind_iff.mp untracked).2 hashes captured
      exact (opened_passed_iff _).mp (passed_bind_iff.mp candidate).1
  · rintro able ⟨checkout, files⟩ opened
    dsimp only
    apply passed_bind (passed_ok _)
    intro head
    apply passed_bind (passed_ok _)
    intro tracked
    apply passed_bind (passed_ok _)
    intro staged
    apply passed_bind_iff.mpr
    refine ⟨captureUntrackedFileHashes_passed surroundings.sha256 checkout files, ?_⟩
    intro hashes captured
    have candidate := able (by
      rw [opened_ok opened]
      unfold Place.isHashed
      dsimp only
      rw [captured]
      rfl)
    apply passed_bind ((opened_passed_iff _).mpr candidate)
    rintro ⟨candidateCheckout, candidateFiles⟩
    apply passed_bind (passed_ok _)
    intro candidateHead
    apply passed_bind (passed_ok _)
    intro changed
    exact passed_ok _

/-- Every workflow of the shift that has a snapshot taken can have one. -/
def AllCapturable (surroundings : Surroundings) (config : NightShiftConfig) (outside : Outside ρ) : Prop :=
  ∀ workflow ∈ shiftWorkflows outside.store.toTables config.workflowIds,
    ∀ found ∈ watched outside.store.toTables workflow,
      Capturable surroundings outside.disk workflow found.2

instance (surroundings : Surroundings) (config : NightShiftConfig) (outside : Outside ρ) :
    Decidable (AllCapturable surroundings config outside) :=
  inferInstanceAs (Decidable (∀ workflow ∈ _, ∀ found ∈ _, _))

theorem captureFrom_ok_iff (surroundings : Surroundings) (tables : Tables) (disk : Disk)
    (workflows : List PersistentWorkflowRow) :
    (∃ snapshots, captureFrom surroundings tables disk workflows = .ok snapshots) ↔
      ∀ workflow ∈ workflows, ∀ found ∈ watched tables workflow,
        Capturable surroundings disk workflow found.2 := by
  induction workflows with
  | nil =>
    refine ⟨?_, fun _ => ⟨[], rfl⟩⟩
    intro _ workflow member
    cases member
  | cons first rest ih =>
    rw [List.forall_mem_cons, ← ih, captureFrom]
    cases seen : watched tables first with
    | none =>
      refine ⟨fun done => ⟨?_, done⟩, fun both => both.2⟩
      intro found same
      cases same
    | some found =>
      obtain ⟨freeze, repository⟩ := found
      have able : (∀ found ∈ some (freeze, repository), Capturable surroundings disk first found.2) ↔
          Passed (containmentSnapshot surroundings disk first freeze repository) := by
        rw [snapshot_passed_iff]
        refine ⟨fun each => each _ rfl, ?_⟩
        intro capturable found same
        cases same
        exact capturable
      rw [able]
      dsimp only
      cases taken : containmentSnapshot surroundings disk first freeze repository with
      | ok snapshot =>
        constructor
        · rintro ⟨snapshots, done⟩
          obtain ⟨others, captured, -⟩ := except_bind_ok done
          exact ⟨passed_ok snapshot, others, captured⟩
        · rintro ⟨-, others, captured⟩
          exact ⟨snapshot :: others, by rw [captured]; rfl⟩
      | error error =>
        cases error with
        | gitMutation code message =>
          exact ⟨fun done => ⟨passed_git code message, done⟩, fun both => both.2⟩
        | _ =>
          constructor
          · rintro ⟨snapshots, done⟩
            cases done
          · rintro ⟨passed, -⟩
            obtain ⟨code, message, same⟩ := passed _ rfl
            cases same

theorem capture_ok_iff (surroundings : Surroundings) (config : NightShiftConfig) (outside : Outside ρ) :
    (∃ snapshots, captureContainmentSnapshots surroundings outside.store.toTables outside.disk
      config.workflowIds = .ok snapshots) ↔ AllCapturable surroundings config outside :=
  captureFrom_ok_iff surroundings outside.store.toTables outside.disk _

section

variable (workflowId : String)

def Outside.without (outside : Outside ρ) : Outside ρ :=
  { outside with store := outside.store.without workflowId }

def ShiftState.without (state : ShiftState ρ) : ShiftState ρ :=
  { state with
    outside := state.outside.without workflowId
    looks := state.looks.map (Outside.without workflowId) }

/-- The services neither see the row of a workflow nor select the workflow. -/
structure Ignored (services : Services ρ) : Prop where
  runtime : ∀ config, Blind (Outside.without workflowId) (services.runtime config)
  integrate : ∀ request, request.workflowId ≠ workflowId →
    Blind (Outside.without workflowId) (services.integrate request)
  commit : ∀ request, request.workflowId ≠ workflowId →
    Blind (Outside.without workflowId) (services.commit request)
  unselected : ∀ config outside report after,
    exec (services.runtime config) outside = (.ok report, after) →
    ∀ record ∈ report.taskRecords, record.workflowId ≠ workflowId

end

variable {workflowId : String} {services : Services ρ} {config : NightShiftConfig}

theorem onOutside_blind {α : Type} {action : Action (Outside ρ) PyExc α}
    (blind : Blind (Outside.without workflowId) action) :
    Blind (ShiftState.without workflowId) (onOutside action) := by
  refine blind_zoom ?_ ?_ blind
  · intro state
    rfl
  · intro state outside
    rfl

theorem onStore_blind {α : Type} {operation : Op α}
    (blind : Blind (Store.without · workflowId) operation) :
    Blind (ShiftState.without workflowId) (onStore operation : Shift ρ α) := by
  apply onOutside_blind
  refine blind_zoom ?_ ?_ blind
  · intro outside
    rfl
  · intro outside store
    rfl

theorem audit_blind (eventType result : String) :
    Blind (ShiftState.without workflowId) (audit eventType result : Shift ρ Unit) :=
  onStore_blind (blind_modify (fun _ => rfl))

theorem report_blind (change : NightShiftResult → NightShiftResult) :
    Blind (ShiftState.without workflowId) (report change : Shift ρ Unit) :=
  blind_modify (fun _ => rfl)

theorem called_blind (call : Call) :
    Blind (ShiftState.without workflowId) (called call : Shift ρ Unit) := blind_modify (fun _ => rfl)

theorem look_blind : Blind (ShiftState.without workflowId) (look : Shift ρ Unit) := by
  apply blind_modify
  intro state
  simp [ShiftState.without]

theorem readClock_blind : Blind (ShiftState.without workflowId) (readClock services) := fun _ => rfl

theorem ended_blind (change : NightShiftResult → NightShiftResult) :
    Blind (ShiftState.without workflowId) (ended services change) := by
  apply blind_bind (report_blind change)
  intro _
  apply blind_bind readClock_blind
  intro _
  refine blind_get ?_ ?_
  · intro state
    rfl
  intro state
  exact blind_pure _

theorem finishClean_blind (reason : String) :
    Blind (ShiftState.without workflowId) (finishClean services reason) := by
  apply blind_bind (ended_blind _)
  intro result
  apply blind_bind (audit_blind _ _)
  intro _
  exact blind_pure result

theorem hardStop_blind (reason : String) :
    Blind (ShiftState.without workflowId) (hardStop services reason) := by
  apply blind_bind (report_blind _)
  intro _
  apply blind_bind (ended_blind _)
  intro result
  apply blind_bind (audit_blind _ _)
  intro _
  apply blind_bind (audit_blind _ _)
  intro _
  exact blind_pure result

section

variable {other : String}

theorem quarantine_blind (different : other ≠ workflowId) (reason : String) :
    Blind (Store.without · workflowId) (quarantineFailedCandidate other reason) := by
  refine blind_get ?_ ?_
  · intro store
    have same : (store.without workflowId).workflows.get? other = store.workflows.get? other :=
      Table.get?_without store.workflows different
    rw [same]
  intro store
  split
  · exact blind_pure _
  · apply blind_bind (fun _ => rfl)
    intro timestamp
    apply blind_bind (fun _ => rfl)
    intro updatedAt
    apply blind_modify
    intro written
    simp only [Store.without, Table.without_put]

theorem settleCandidate_blind (different : other ≠ workflowId) (snapshot : ContainmentSnapshot)
    (candidateHead : String) (changes : List String) :
    Blind (Store.without · workflowId) (settleCandidate other snapshot candidateHead changes) := by
  unfold settleCandidate
  split
  · apply blind_bind (quarantine_blind different _)
    intro _
    exact blind_pure _
  split
  · apply blind_bind (quarantine_blind different _)
    intro _
    exact blind_pure _
  · exact blind_pure _

theorem proveContainedFailure_blind (different : other ≠ workflowId) (surroundings : Surroundings)
    (disk : Disk) (found : Option ContainmentSnapshot) :
    Blind (Store.without · workflowId) (proveContainedFailure surroundings disk other found) := by
  unfold proveContainedFailure
  split
  · exact blind_pure _
  split
  · exact blind_pure _
  split
  · exact blind_pure _
  split
  · exact blind_pure _
  · exact blind_throw _
  · exact blind_pure _
  · exact settleCandidate_blind different _ _ _

theorem settleFailure_blind (different : other ≠ workflowId) (snapshots : List ContainmentSnapshot) :
    Blind (ShiftState.without workflowId) (settleFailure services other snapshots) := by
  refine blind_get ?_ ?_
  · intro state
    rfl
  intro state
  apply blind_bind (onStore_blind (proveContainedFailure_blind different _ _ _))
  intro containment
  apply blind_bind (report_blind _)
  intro _
  split
  · exact hardStop_blind _
  · apply blind_bind (report_blind _)
    intro _
    apply blind_bind (audit_blind _ _)
    intro _
    exact blind_pure none

theorem promotionContext_without (different : other ≠ workflowId) (surroundings : Surroundings)
    (store : Store) :
    promotionContext surroundings (store.without workflowId).toTables config other =
      promotionContext surroundings store.toTables config other := by
  have same : (store.without workflowId).workflows.get? other = store.workflows.get? other :=
    Table.get?_without store.workflows different
  unfold promotionContext
  rw [same]
  rfl

variable (ignored : Ignored workflowId services)

include ignored

theorem commitWorkflow_blind (different : other ≠ workflowId) (number : Nat)
    (context : PromotionContext) (integration : CanonicalIntegrationResult) :
    Blind (ShiftState.without workflowId)
      (commitWorkflow services config number other context integration) := by
  apply blind_bind (called_blind _)
  intro _
  apply blind_bind (onOutside_blind (ignored.commit _ different))
  intro commit
  apply blind_bind (called_blind _)
  intro _
  apply blind_bind (report_blind _)
  intro _
  apply blind_bind (report_blind _)
  intro _
  have stopped (change : NightShiftResult → NightShiftResult) (reason : String) :
      Blind (ShiftState.without workflowId) (do
        report change
        hardStop services reason) := by
    apply blind_bind (report_blind change)
    intro _
    exact hardStop_blind reason
  have reported (change : NightShiftResult → NightShiftResult) (result : String) :
      Blind (ShiftState.without workflowId) (do
        report change
        audit "NIGHT_SHIFT_CYCLE_CHECKPOINT" result
        return none : Shift ρ (Option NightShiftResult)) := by
    apply blind_bind (report_blind change)
    intro _
    apply blind_bind (audit_blind _ result)
    intro _
    exact blind_pure none
  split
  · exact reported _ _
  · exact reported _ _
  · exact stopped _ _

theorem promote_blind (different : other ≠ workflowId) (number : Nat) :
    Blind (ShiftState.without workflowId) (promote services config number other) := by
  refine blind_get ?_ ?_
  · intro state
    have same : promotionContext services.surroundings
        (state.without workflowId).outside.store.toTables config other =
          promotionContext services.surroundings state.outside.store.toTables config other :=
      promotionContext_without different services.surroundings state.outside.store
    rw [same]
  intro state
  split
  · exact hardStop_blind _
  rename_i context promoted
  apply blind_bind (onOutside_blind (ignored.integrate _ different))
  intro integration
  apply blind_bind (called_blind _)
  intro _
  apply blind_bind (report_blind _)
  intro _
  apply blind_bind (report_blind _)
  intro _
  split
  · apply blind_bind (report_blind _)
    intro _
    exact hardStop_blind _
  · apply blind_bind (report_blind _)
    intro _
    split
    · exact hardStop_blind _
    · exact commitWorkflow_blind ignored different number context integration

end

theorem settleReport_blind (ignored : Ignored workflowId services) (number : Nat)
    (snapshots : List ContainmentSnapshot) {runtime : RuntimeReport}
    (unselected : ∀ record ∈ runtime.taskRecords, record.workflowId ≠ workflowId) :
    Blind (ShiftState.without workflowId) (settleReport services config number snapshots runtime) := by
  unfold settleReport
  split
  · apply blind_bind (audit_blind _ _)
    intro _
    exact finishClean_blind _
  split
  · exact hardStop_blind _
  split
  · exact hardStop_blind _
  rename_i record last
  have different := unselected record (List.mem_of_getLast? last)
  apply blind_bind (report_blind _)
  intro _
  apply blind_bind (report_blind _)
  intro _
  split
  · exact settleFailure_blind different snapshots
  · exact promote_blind ignored different number

theorem settleReport_congr {number : Nat} {first second : List ContainmentSnapshot}
    {runtime : RuntimeReport}
    (same : ∀ record ∈ runtime.taskRecords,
      first.find? (fun snapshot => snapshot.workflowId = record.workflowId) =
        second.find? (fun snapshot => snapshot.workflowId = record.workflowId)) :
    settleReport services config number first runtime =
      settleReport services config number second runtime := by
  unfold settleReport
  split
  · rfl
  split
  · rfl
  split
  · rfl
  rename_i record last
  have found := same record (List.mem_of_getLast? last)
  unfold settleFailure
  rw [found]

theorem shiftWorkflows_without (store : Store) (workflowIds : Option (List String)) :
    shiftWorkflows (store.without workflowId).toTables workflowIds =
      (shiftWorkflows store.toTables workflowIds).filter (fun row => decide (row.id ≠ workflowId)) := by
  have sorted : sortedBy PersistentWorkflowRow.id (store.without workflowId).workflows.rows =
      (sortedBy PersistentWorkflowRow.id store.workflows.rows).filter
        (fun row => decide (row.id ≠ workflowId)) :=
    sortedBy_filter _ (fun left one right two same => Table.row_unique one two same)
  unfold shiftWorkflows
  dsimp only
  rw [sorted, List.filter_filter, List.filter_filter]
  apply List.filter_congr
  intro row member
  rw [Bool.and_comm]

/-- What the first workflow adds to the snapshots of the others, in any tables that watch it alike. -/
theorem captureFrom_cons {surroundings : Surroundings} {tables : Tables} {disk : Disk}
    {first : PersistentWorkflowRow} {rest : List PersistentWorkflowRow}
    {snapshots : List ContainmentSnapshot}
    (done : captureFrom surroundings tables disk (first :: rest) = .ok snapshots) :
    ∃ front later, snapshots = front ++ later ∧ captureFrom surroundings tables disk rest = .ok later ∧
      (∀ snapshot ∈ front, snapshot.workflowId = first.id) ∧
      ∀ (others : Tables) fewer taken, watched others first = watched tables first →
        captureFrom surroundings others disk fewer = .ok taken →
        captureFrom surroundings others disk (first :: fewer) = .ok (front ++ taken) := by
  rw [captureFrom] at done
  cases seen : watched tables first with
  | none =>
    rw [seen] at done
    refine ⟨[], snapshots, rfl, done, fun _ member => (List.not_mem_nil member).elim, ?_⟩
    intro others fewer taken same captured
    rw [captureFrom, same]
    exact captured
  | some found =>
    obtain ⟨freeze, repository⟩ := found
    rw [seen] at done
    dsimp only at done
    cases snapped : containmentSnapshot surroundings disk first freeze repository with
    | ok snapshot =>
      rw [snapped] at done
      obtain ⟨later, captured, returned⟩ := except_bind_ok done
      cases returned
      obtain ⟨checkout, files, sight⟩ := containmentSnapshot_ok snapped
      refine ⟨[snapshot], later, rfl, captured, ?_, ?_⟩
      · intro other member
        rw [List.mem_singleton.mp member]
        exact sight.named
      · intro others fewer taken same recaptured
        rw [captureFrom, same]
        dsimp only
        rw [snapped, recaptured]
        rfl
    | error error =>
      rw [snapped] at done
      cases error with
      | gitMutation code message =>
        refine ⟨[], snapshots, rfl, done, fun _ member => (List.not_mem_nil member).elim, ?_⟩
        intro others fewer taken same captured
        rw [captureFrom, same]
        dsimp only
        rw [snapped]
        exact captured
      | _ => cases done

theorem captureFrom_without {surroundings : Surroundings} {store : Store} {disk : Disk}
    {workflows : List PersistentWorkflowRow} {snapshots : List ContainmentSnapshot}
    (done : captureFrom surroundings store.toTables disk workflows = .ok snapshots) :
    captureFrom surroundings (store.without workflowId).toTables disk
        (workflows.filter (fun row => decide (row.id ≠ workflowId))) =
      .ok (snapshots.filter (fun snapshot => decide (snapshot.workflowId ≠ workflowId))) := by
  induction workflows generalizing snapshots with
  | nil =>
    cases done
    rfl
  | cons first rest ih =>
    obtain ⟨front, later, rfl, captured, named, again⟩ := captureFrom_cons done
    rw [List.filter_append]
    by_cases same : first.id = workflowId
    · have dropped : front.filter (fun snapshot => decide (snapshot.workflowId ≠ workflowId)) = [] := by
        rw [List.filter_eq_nil_iff]
        intro snapshot member
        simp [named snapshot member, same]
      rw [List.filter_cons_of_neg (by simpa using same), dropped, List.nil_append]
      exact ih captured
    · have kept : front.filter (fun snapshot => decide (snapshot.workflowId ≠ workflowId)) = front := by
        rw [List.filter_eq_self]
        intro snapshot member
        simp [named snapshot member, same]
      rw [List.filter_cons_of_pos (by simpa using same), kept]
      exact again _ _ _ rfl (ih captured)

theorem capture_without {surroundings : Surroundings} {store : Store} {disk : Disk}
    {workflowIds : Option (List String)} {snapshots : List ContainmentSnapshot}
    (done : captureContainmentSnapshots surroundings store.toTables disk workflowIds = .ok snapshots) :
    captureContainmentSnapshots surroundings (store.without workflowId).toTables disk workflowIds =
      .ok (snapshots.filter (fun snapshot => decide (snapshot.workflowId ≠ workflowId))) := by
  unfold captureContainmentSnapshots
  rw [shiftWorkflows_without]
  exact captureFrom_without done

theorem find?_without {other : String} (different : other ≠ workflowId)
    (snapshots : List ContainmentSnapshot) :
    (snapshots.filter (fun snapshot => decide (snapshot.workflowId ≠ workflowId))).find?
        (fun snapshot => snapshot.workflowId = other) =
      snapshots.find? (fun snapshot => snapshot.workflowId = other) := by
  rw [List.find?_filter]
  congr 1
  funext snapshot
  by_cases same : snapshot.workflowId = other
  · simp [same, different]
  · simp [same]

theorem attempt_without (ignored : Ignored workflowId services) {state : ShiftState ρ}
    (able : AllCapturable services.surroundings config state.outside) :
    exec (attempt services config) (state.without workflowId) =
      ((exec (attempt services config) state).1,
        (exec (attempt services config) state).2.without workflowId) := by
  obtain ⟨snapshots, captured⟩ := (capture_ok_iff services.surroundings config state.outside).mpr able
  have spared : captureContainmentSnapshots services.surroundings
      (state.without workflowId).outside.store.toTables (state.without workflowId).outside.disk
      config.workflowIds =
        .ok (snapshots.filter (fun snapshot => decide (snapshot.workflowId ≠ workflowId))) :=
    capture_without captured
  rw [attempt, exec_get_bind, exec_get_bind]
  dsimp only
  rw [exec_bind_ofExcept spared, exec_bind_ofExcept captured, exec_bind, exec_bind,
    onOutside_blind (ignored.runtime _) state]
  rcases ran : exec (onOutside (services.runtime (runtimeConfig config))) state with
    ⟨error | report, middle⟩
  · rfl
  · have unselected := ignored.unselected (runtimeConfig config) state.outside report middle.outside (by
      obtain ⟨returned, reached⟩ := Prod.mk.inj ran
      rw [← reached]
      exact Prod.ext returned rfl)
    have same : settleReport services config state.result.cyclesAttempted
        (snapshots.filter (fun snapshot => decide (snapshot.workflowId ≠ workflowId))) report =
          settleReport services config state.result.cyclesAttempted snapshots report :=
      settleReport_congr (fun record member => find?_without (unselected record member) snapshots)
    dsimp only
    have number : (state.without workflowId).result.cyclesAttempted = state.result.cyclesAttempted := rfl
    rw [number, same]
    refine blindly_after (called_blind _) (exec_called _ _) ?_
    refine blindly_after (report_blind _) (exec_report _ _) ?_
    refine blindly_after (report_blind _) (exec_report _ _) ?_
    exact settleReport_blind ignored _ snapshots unselected _

theorem work_without (ignored : Ignored workflowId services) {state : ShiftState ρ}
    (able : AllCapturable services.surroundings config state.outside) :
    exec (work services config) (state.without workflowId) =
      ((exec (work services config) state).1,
        (exec (work services config) state).2.without workflowId) := by
  unfold work
  refine blindly_after (report_blind _) (exec_report _ _) ?_
  obtain ⟨told, tables, disk, audited⟩ := exec_audit "NIGHT_SHIFT_CYCLE_STARTED" "STARTED" { state with
    result := { state.result with
      cycles := state.result.cycles ++ [{ cycleNumber := state.result.cyclesAttempted + 1 }]
      cyclesAttempted := state.result.cyclesAttempted + 1 } }
  refine blindly_after (audit_blind _ _) audited ?_
  refine blindly_after look_blind (exec_look _) ?_
  apply attempt_without ignored
  unfold AllCapturable
  dsimp only
  rw [tables, disk]
  exact able

theorem allCapturable_of_told {surroundings : Surroundings} {outside told : Outside ρ}
    (able : AllCapturable surroundings config told)
    (tables : told.store.toTables = outside.store.toTables) (disk : told.disk = outside.disk) :
    AllCapturable surroundings config outside := by
  unfold AllCapturable at able ⊢
  rwa [tables, disk] at able

theorem cycle_without (ignored : Ignored workflowId services) (started : Rat) {state : ShiftState ρ}
    (able : ∀ outside ∈ (exec (cycle services config started) state).2.looks,
      AllCapturable services.surroundings config outside) :
    exec (cycle services config started) (state.without workflowId) =
      ((exec (cycle services config started) state).1,
        (exec (cycle services config started) state).2.without workflowId) := by
  unfold cycle at able ⊢
  refine blindly_after readClock_blind (exec_readClock _ _) ?_
  rw [exec_bind_of_ok (exec_readClock _ _), exec_get_bind] at able
  rw [exec_get_bind, exec_get_bind]
  have result : (ShiftState.without workflowId { state with readings := state.readings + 1 }).result =
      state.result := rfl
  rw [result]
  dsimp only at able ⊢
  cases limit : limitReached config state.result (max 0 (services.clock state.readings - started)) with
  | some reason => exact finishClean_blind reason _
  | none =>
    rw [limit] at able
    obtain ⟨-, -, -, ⟨told, tables, disk, looked⟩, -, -⟩ :=
      work_calls services config { state with readings := state.readings + 1 }
    refine work_without ignored (allCapturable_of_told (able told ?_) tables disk)
    rw [looked]
    exact List.mem_append_right _ (List.mem_singleton.mpr rfl)

theorem cycle_looks (services : Services ρ) (config : NightShiftConfig) (started : Rat)
    (state : ShiftState ρ) :
    state.looks <+: (exec (cycle services config started) state).2.looks := by
  obtain ⟨reason, ended⟩ | ⟨-, -, worked⟩ := cycle_cases services config started state
  · have same := (finishClean_quiet services reason { state with readings := state.readings + 1 }).looks
    rw [ended]
    exact same ▸ List.prefix_refl state.looks
  · obtain ⟨-, -, -, ⟨told, -, -, looked⟩, -, -⟩ :=
      work_calls services config { state with readings := state.readings + 1 }
    rw [worked, looked]
    exact List.prefix_append _ _

theorem loop_looks (services : Services ρ) (config : NightShiftConfig) (started : Rat) (turns : Nat)
    (state : ShiftState ρ) :
    state.looks <+: (exec (loop services config started turns) state).2.looks := by
  induction turns generalizing state with
  | zero => exact List.prefix_refl _
  | succ turns ih =>
    have first := cycle_looks services config started state
    rw [loop, exec_bind]
    rcases ended : exec (cycle services config started) state with ⟨error | ⟨_ | result⟩, after⟩
    · rwa [ended] at first
    · rw [ended] at first
      exact first.trans (ih after)
    · rwa [ended] at first

theorem loop_without (ignored : Ignored workflowId services) (started : Rat) (turns : Nat)
    {state : ShiftState ρ}
    (able : ∀ outside ∈ (exec (loop services config started turns) state).2.looks,
      AllCapturable services.surroundings config outside) :
    exec (loop services config started turns) (state.without workflowId) =
      ((exec (loop services config started turns) state).1,
        (exec (loop services config started turns) state).2.without workflowId) := by
  induction turns generalizing state with
  | zero => rfl
  | succ turns ih =>
    rw [loop, exec_bind] at able
    rw [loop, exec_bind, exec_bind]
    have here := @cycle_without _ workflowId services config ignored started state
    rcases ended : exec (cycle services config started) state with ⟨error | ⟨_ | result⟩, after⟩
    · rw [ended] at able here
      rw [here able]
    · rw [ended] at able here
      have earlier := loop_looks services config started turns after
      rw [here (fun outside member => able outside (earlier.subset member))]
      exact ih able
    · rw [ended] at able here
      rw [here able]
      rfl

/-- A night shift looks at every workspace without an error, and goes as it would without a
workflow that is not selected, exactly where each workspace it watches can be looked at. -/
theorem unselected_spared_iff (services : Services ρ) (config : NightShiftConfig) (turns : Nat)
    (state : ShiftState ρ) (workflowId : String) (ignored : Ignored workflowId services) :
    let ended := exec (run services config turns) state
    ((∀ outside ∈ ended.2.looks, ∃ snapshots, captureContainmentSnapshots services.surroundings
        outside.store.toTables outside.disk config.workflowIds = .ok snapshots) ∧
      exec (run services config turns) (state.without workflowId) =
        (ended.1, ended.2.without workflowId)) ↔
      ∀ outside ∈ ended.2.looks, AllCapturable services.surroundings config outside := by
  intro ended
  constructor
  · rintro ⟨looked, -⟩ outside member
    exact (capture_ok_iff services.surroundings config outside).mp (looked outside member)
  · intro able
    refine ⟨fun outside member => (capture_ok_iff _ config outside).mpr (able outside member), ?_⟩
    obtain ⟨told, -, -, audited⟩ := exec_audit "NIGHT_SHIFT_STARTED" "STARTED" { state with
      readings := state.readings + 1
      result := {}
      calls := []
      looks := [] }
    change ∀ outside ∈ (exec (run services config turns) state).2.looks, _ at able
    change _ = ((exec (run services config turns) state).1,
      (exec (run services config turns) state).2.without workflowId)
    rw [run, exec_bind_of_ok (exec_readClock _ _), exec_bind_of_ok (exec_modify _ _),
      exec_bind_of_ok audited] at able
    rw [run]
    refine blindly_after readClock_blind (exec_readClock _ _) ?_
    refine blindly_after (blind_modify (fun _ => rfl)) (exec_modify _ _) ?_
    refine blindly_after (audit_blind _ _) audited ?_
    exact loop_without ignored _ turns able

/-- A closed workflow beside one that is still open; its worktree is gone. -/
def withClosed (disk : Disk) : ShiftState Unit where
  outside := { promotable.outside with
    store := { promotable.outside.store with
      workflows := promotable.outside.store.workflows.add {
        id := "LWORK_000002"
        repositoryId := some "LREPO_000001"
        planFreezeId := some "LFREEZE_000001"
        worktreePath := "/gone"
        workflowState := .closed } }
    disk := disk }

/-- A runtime that finds nothing to do. -/
def idling : Services Unit :=
  { obliging with runtime := fun _ => return { status := .idle } }

theorem idling_ignored : Ignored "LWORK_000002" idling where
  runtime _ := blind_pure _
  integrate _ _ := blind_pure _
  commit _ _ := blind_pure _
  unselected := by
    intro config outside report after returned record member
    cases returned
    cases member

/-- A worktree outside Git is passed by. -/
theorem outside_git_spared :
    exec (run idling {} 1) ((withClosed fun _ => .outsideGit).without "LWORK_000002") =
      ((exec (run idling {} 1) (withClosed fun _ => .outsideGit)).1,
        (exec (run idling {} 1) (withClosed fun _ => .outsideGit)).2.without "LWORK_000002") := by
  have able : ∀ outside ∈ (exec (run idling {} 1) (withClosed fun _ => .outsideGit)).2.looks,
      AllCapturable idling.surroundings {} outside := by decide +kernel
  exact ((unselected_spared_iff idling {} 1 (withClosed fun _ => .outsideGit) "LWORK_000002"
    idling_ignored).mpr able).2

/-- A worktree that was removed stops the night shift. -/
theorem closed_workflow_stops : Ignored "LWORK_000002" idling ∧
    (exec (run idling {} 1) (withClosed (twoWorkspaces ∅))).1.isOk = false ∧
    (exec (run idling {} 1) ((withClosed (twoWorkspaces ∅)).without "LWORK_000002")).1.isOk = true :=
  ⟨idling_ignored, by decide +kernel, by decide +kernel⟩

end NightShift
end Lucius
