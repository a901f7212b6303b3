import Lucius.Integration.Rollback
import Lucius.Repositories.Capture

/-! Whether a completed call has transferred the bytes of the candidate.

A changed path is read as text, checked as text and written as text, so the bytes that
arrive are those the text is written with, unless a command of the checks changes the
file after that. -/

namespace Lucius.Integration

open Worktree Acceptance Updates Lucius.Action

variable {path : String} {env : Environment} {request : CanonicalIntegrationRequest}
  {context : IntegrationContext} {world after : World} {validated : List ValidatedFileContent}
  {result : CanonicalIntegrationResult}

/-- A file that is to be written is the text of what its path leads to in the candidate. -/
structure Transfer (env : Environment) (candidate : Files) (path : String)
    (file : ValidatedFileContent) : Prop where
  named : file.path = path
  location : env.canonical.resolve path = some file.location
  content : ∃ bytes, contentAt env.candidate candidate path = some bytes ∧
    file.content = universalNewlines false bytes

theorem mem_firstOccurrences {seen paths : List String}
    (member : path ∈ firstOccurrences seen paths) : path ∈ paths := by
  induction paths generalizing seen with
  | nil => cases member
  | cons first rest ih =>
    rw [firstOccurrences] at member
    split at member
    · exact List.mem_cons_of_mem _ (ih member)
    · rcases List.mem_cons.mp member with same | later
      · rw [same]
        exact List.mem_cons_self
      · exact List.mem_cons_of_mem _ (ih later)

theorem authorizedPath_ok {item : Json} (done : authorizedPath item = .ok path) :
    ∃ raw, validateRelativeRepoPath (.str raw) = .ok path := by
  unfold authorizedPath at done
  split at done
  · rename_i members
    split at done
    · rename_i validated known
      cases done
      cases given : Dict.get members "path" with
      | str raw =>
        rw [given] at known
        exact ⟨raw, known⟩
      | _ =>
        rw [given] at known
        cases known
    · cases done
    · cases done
  · cases done

theorem authorizedPaths_ok {freeze : PlanFreezeRow} {paths : List String}
    (done : authorizedPaths freeze = .ok paths) (member : path ∈ paths) :
    ∃ raw, validateRelativeRepoPath (.str raw) = .ok path := by
  unfold authorizedPaths at done
  split at done
  · obtain ⟨named, parsed, afterNamed⟩ := except_bind_ok done
    split at afterNamed
    · cases afterNamed
    · cases afterNamed
      obtain ⟨item, _, read⟩ := forall₂_right (mapM_ok parsed) (mem_firstOccurrences member)
      exact authorizedPath_ok read
  · cases done

/-- What the preflight hands on about the candidate. -/
structure CapturedCandidate (env : Environment) (context : IntegrationContext) (candidate : Files) :
    Prop where
  captured : captureFiles env.candidate candidate context.authorizedPaths []
    context.candidateChangedPaths = .ok context.capturedFileContents
  authorized : ∀ path ∈ context.candidateChangedPaths, ∃ raw,
    validateRelativeRepoPath (.str raw) = .ok path

theorem canonicalContext_paths {tables : Tables} {canonical : Files}
    (done : canonicalContext env request tables canonical = .ok context)
    (member : path ∈ context.authorizedPaths) :
    ∃ raw, validateRelativeRepoPath (.str raw) = .ok path := by
  obtain ⟨work, _, afterWork⟩ := except_bind_ok done
  obtain ⟨_, _, afterRoots⟩ := except_bind_ok afterWork
  obtain ⟨⟨head, hashes⟩, _, afterState⟩ := except_bind_ok afterRoots
  obtain ⟨authorized, named, afterPaths⟩ := except_bind_ok afterState
  split at afterPaths
  · cases afterPaths
  · obtain ⟨checks, _, finish⟩ := except_bind_ok afterPaths
    cases finish
    exact authorizedPaths_ok named member

theorem candidateChanges_authorized {candidate : Files} {head : String} {changed : List String}
    (done : candidateChanges env context candidate = .ok (head, changed))
    (member : path ∈ changed) : path ∈ context.authorizedPaths := by
  obtain ⟨known, _, afterHead⟩ := except_bind_ok done
  split at afterHead
  · cases afterHead
  · obtain ⟨listed, _, afterListed⟩ := except_bind_ok afterHead
    split at afterListed
    · cases afterListed
    · rename_i authorized
      split at afterListed
      · cases afterListed
      · cases afterListed
        by_contra outside
        exact authorized (List.any_eq_true.mpr ⟨path, member, decide_eq_true outside⟩)

theorem capturedChanges_ok {changed : List String}
    {candidate : Files} {captured : List CapturedFile}
    (done : capturedChanges env context changed candidate = .ok captured) :
    captureFiles env.candidate candidate context.authorizedPaths [] changed = .ok captured := by
  unfold capturedChanges at done
  split at done
  · cases done
  · obtain ⟨files, read, afterFiles⟩ := except_bind_ok done
    split at afterFiles
    · cases afterFiles
      exact failing_bind_ok read
    · cases afterFiles
    · cases afterFiles

theorem preflight_captured (done : exec (preflight env request) world = (.ok context, after)) :
    CapturedCandidate env context after.candidate := by
  rw [preflight, exec_get_bind] at done
  obtain ⟨canonical, checked, afterCanonical⟩ := bind_ofExcept_ok done
  obtain ⟨⟨head, changed⟩, listed, afterCandidate⟩ := bind_ofExcept_ok afterCanonical
  obtain ⟨_, verified, _, afterAcceptance⟩ := bind_ok afterCandidate
  rw [exec_get_bind] at afterAcceptance
  obtain ⟨captured, read, finish⟩ := bind_ofExcept_ok afterAcceptance
  obtain ⟨rfl, rfl⟩ := ok_pure finish
  exact ⟨capturedChanges_ok read, fun path member =>
    canonicalContext_paths checked (candidateChanges_authorized listed member)⟩

/-- The candidate is not touched. -/
def SameCandidate (world after : World) : Prop := after.candidate = world.candidate

theorem sameCandidate_auditEvent (env : Environment) (request : CanonicalIntegrationRequest)
    (eventType result : String) :
    Action.Respects SameCandidate (auditEvent env request eventType result) := by
  unfold auditEvent
  split
  · intro world
    rfl
  · exact respects_modify (fun _ => rfl)

theorem prepared_transfers {ready : World}
    (prepared : Prepared env request world context validated ready) :
    List.Forall₂ (Transfer env ready.candidate) context.candidateChangedPaths validated ∧
      (validated.map (·.path)).Nodup := by
  obtain ⟨_, requested, _, afterAudit⟩ := bind_ok prepared
  obtain ⟨_, checked, passed, afterPreflight⟩ := bind_ok afterAudit
  obtain ⟨_, written, files, finish⟩ := bind_ok afterPreflight
  obtain ⟨same, rfl⟩ := ok_pure finish
  obtain ⟨rfl, rfl⟩ := Prod.mk.inj same
  obtain ⟨items, validation, afterItems⟩ := bind_ofExcept_ok files
  have capture := preflight_captured passed
  split at afterItems
  · cases afterItems
  · obtain ⟨_, audited, recorded, ended⟩ := bind_ok afterItems
    obtain ⟨rfl, rfl⟩ := ok_pure ended
    have untouched := respects_exec (sameCandidate_auditEvent env request _ _) recorded
    rw [untouched]
    have opened := failing_bind_ok validation
    split at opened
    · cases opened
    · obtain ⟨located, unique, -⟩ := validateFileItems_ok opened
      refine ⟨forall₂_comp (captureFiles_ok capture.captured) located ?_, unique⟩
      intro path member file item read placed
      obtain ⟨raw, known⟩ := capture.authorized path member
      have kept := validateRelativeRepoPath_again known read.validated
      have same : item.path = file.path := by
        rw [validateRelativeRepoPath_again read.validated placed.validated]
      obtain ⟨bytes, found, text⟩ := read.content
      rw [kept] at found same
      refine ⟨same, ?_, bytes, found, placed.content.trans text⟩
      rw [← same]
      exact placed.location

/-- The updates that the commands of the checks make in the canonical tree. -/
def commandUpdates (env : Environment) (context : IntegrationContext)
    (validated : List ValidatedFileContent) (before : Files) : List FileUpdate :=
  (verifyDeterministicAcceptance (env.fault .appliedAcceptance) env.canonicalCommands env.canonical
    context.acceptanceChecks (applyAll before (writes env.host validated))).1

theorem afterFailure_not_completed {error : WorkspaceExc}
    (done : exec (afterFailure env request context error) world = (.ok result, after)) :
    result.status ≠ .completed := by
  obtain ⟨_, _, _, afterStart⟩ := bind_ok done
  obtain ⟨outcome, _, _, reported⟩ := bind_ok afterStart
  cases outcome with
  | ok _ =>
    rw [(failedResult_refused env request context error true true _ reported).1]
    decide
  | error refusal =>
    obtain ⟨_, _, _, read⟩ := bind_ok reported
    obtain ⟨head, _, finish⟩ := bind_ofExcept_ok read
    obtain ⟨rfl, -⟩ := ok_pure finish
    intro same
    cases same

theorem mutation_completed
    (done : exec (mutation env request context validated) world = (.ok result, after))
    (completed : result.status = .completed) :
    ∃ updates applied, applyFiles env context validated world.canonical = (updates, .ok applied) ∧
      after.canonical = applyAll world.canonical updates := by
  obtain ⟨outcome, mutated, recovered, handling⟩ := bind_ok done
  have ended := ok_recovering recovered
  cases outcome with
  | error error => exact absurd completed (afterFailure_not_completed handling)
  | ok success =>
    obtain ⟨-, rfl⟩ := ok_pure handling
    have files := mutate_files env request context validated world
    rw [ended] at files
    obtain ⟨applied, _, writing, _⟩ := bind_ok ended
    rw [exec_onCanonical] at writing
    obtain ⟨good, -⟩ := Prod.mk.inj writing
    exact ⟨_, applied, Prod.ext rfl good, files⟩

theorem applyFiles_ok {before : Files} {updates : List FileUpdate}
    {applied : AppliedFiles} (done : applyFiles env context validated before = (updates, .ok applied)) :
    updates = writes env.host validated ++ commandUpdates env context validated before ∧
      ∃ actual, observedChanges env context validated
        (applyAll before (writes env.host validated)) = .ok actual := by
  obtain ⟨front, written, back, wrote, observing, journal⟩ := Journal.bind_ok done
  have made := writeValidatedFileContents_ok wrote
  rw [made] at observing journal
  rw [Journal.read_bind_apply] at observing
  obtain ⟨actual, observed, verifying⟩ := Journal.bind_ofExcept_ok observing
  obtain ⟨commands, _, last, verified, finish, rest⟩ := Journal.bind_ok verifying
  cases finish
  refine ⟨?_, actual, observed⟩
  rw [journal, rest, List.append_nil, commandUpdates, verified]

theorem observedChanges_ok {files : Files} {actual : List String}
    (done : observedChanges env context validated files = .ok actual) {file : ValidatedFileContent}
    (member : file ∈ validated) :
    file.path ∈ env.canonical.listed files ∧
      file.path ∉ context.protectedUntrackedHashes.map Prod.fst := by
  obtain ⟨observed, read, verifying⟩ := except_bind_ok done
  have listed := failing_bind_ok read
  cases listed
  obtain ⟨_, _, comparing⟩ := except_bind_ok verifying
  dsimp only at comparing
  split at comparing
  · cases comparing
  · split at comparing
    · cases comparing
    · rename_i seen
      have inside : file.path ∈ (sortedBy id (env.canonical.listed files).dedup).filter
          (· ∉ context.protectedUntrackedHashes.map Prod.fst) := by
        by_contra unseen
        apply seen
        apply List.any_eq_true.mpr
        refine ⟨file.path, ?_, decide_eq_true unseen⟩
        exact (mem_sortedBy id _ _).mpr (List.mem_map_of_mem member)
      obtain ⟨known, unprotected⟩ := List.mem_filter.mp inside
      rw [mem_sortedBy, List.mem_dedup] at known
      exact ⟨known, of_decide_eq_true unprotected⟩

/-- A path that Git did not list before the writes and lists after them has been
written itself, not through a link. -/
theorem observed_written (guarded : Protected env request world context) {file : ValidatedFileContent}
    (listed : file.path ∈ env.canonical.listed
      (applyAll world.canonical (writes env.host validated)))
    (unprotected : file.path ∉ context.protectedUntrackedHashes.map Prod.fst) :
    ∃ other ∈ validated, other.location = file.path := by
  have unlisted : file.path ∉ env.canonical.listed world.canonical := by
    rw [Checkout.listed, guarded.clean, guarded.unstaged, List.nil_append, List.nil_append,
      ← guarded.untracked]
    exact unprotected
  cases found : last (writes env.host validated) file.path with
  | none =>
    have same : (applyAll world.canonical (writes env.host validated)).lookup file.path =
        world.canonical.lookup file.path := by
      rw [lookup_applyAll, found, Option.getD_none]
    exact absurd ((env.canonical.listed_congr same).mp listed) unlisted
  | some value =>
    obtain ⟨other, member, written⟩ := List.mem_map.mp (last_mem found)
    exact ⟨other, member, congrArg Prod.fst written⟩

/-- In a completed call each changed path names the file it leads to, which the last
command to change it, or else the write, has left. -/
theorem completed_content
    {ready : World} (prepared : Prepared env request world context validated ready)
    (done : exec (integrate env request) world = (.ok result, after))
    (completed : result.status = .completed)
    (changed : path ∈ context.candidateChangedPaths) :
    ∃ bytes, contentAt env.candidate ready.candidate path = some bytes ∧
      contentAt env.canonical after.canonical path =
        (last (commandUpdates env context validated world.canonical) path).getD
          (some (transported env.host bytes)) := by
  have guarded := prepared_protected prepared
  obtain ⟨transfers, unique⟩ := prepared_transfers prepared
  rw [integrate_prepared prepared] at done
  obtain ⟨updates, applied, wrote, files⟩ := mutation_completed (ok_sessionEnd done) completed
  rw [(prepared_unwritten prepared).files] at wrote files
  obtain ⟨journal, actual, observed⟩ := applyFiles_ok wrote
  -- A file whose location is another path would leave its own path as it was.
  have direct : ∀ file ∈ validated, file.location = file.path := by
    intro file member
    obtain ⟨listed, unprotected⟩ := observedChanges_ok observed member
    obtain ⟨other, inside, reached⟩ := observed_written guarded listed unprotected
    obtain ⟨_, _, there⟩ := forall₂_right transfers inside
    obtain ⟨_, _, here⟩ := forall₂_right transfers member
    have plain := env.canonical.resolve_plain _ _ there.location
    rw [reached, here.named] at plain
    have same := here.location.symm.trans plain
    rw [here.named]
    exact Option.some.inj same
  obtain ⟨file, member, transfer⟩ := forall₂_left transfers changed
  obtain ⟨bytes, captured, text⟩ := transfer.content
  refine ⟨bytes, captured, ?_⟩
  have once : ((writes env.host validated).map Prod.fst).Nodup := by
    have keys : (writes env.host validated).map Prod.fst = validated.map (·.path) := by
      rw [writes, List.map_map]
      exact List.map_congr_left direct
    rw [keys]
    exact unique
  have written : last (writes env.host validated) path = some (some (transported env.host bytes)) := by
    apply last_of_nodup once
    refine List.mem_map.mpr ⟨file, member, ?_⟩
    rw [ValidatedFileContent.update, direct file member, transfer.named, text]
    rfl
  have resolved : env.canonical.resolve path = some path := by
    rw [transfer.location, direct file member, transfer.named]
  rw [contentAt, resolved, Option.bind_some, files, journal, lookup_applyAll, last_append, written]
  cases last (commandUpdates env context validated world.canonical) path <;> rfl

/-- The bytes of each changed path end their lines as the host does, or a command of the
checks has left the same bytes there. -/
def BytesKept (env : Environment) (context : IntegrationContext)
    (validated : List ValidatedFileContent) (before candidate : Files) : Prop :=
  ∀ path ∈ context.candidateChangedPaths, ∀ bytes,
    contentAt env.candidate candidate path = some bytes →
    match last (commandUpdates env context validated before) path with
    | none => HostLines env.host bytes
    | some left => left = some bytes

/-- A completed call has left in the canonical tree the bytes captured in the candidate
exactly when they are such that reading and writing text keeps them. -/
theorem completed_bytes_same_iff_kept {env : Environment} {request : CanonicalIntegrationRequest}
    {world ready after : World} {context : IntegrationContext} {validated : List ValidatedFileContent}
    {result : CanonicalIntegrationResult} (prepared : Prepared env request world context validated ready)
    (done : exec (integrate env request) world = (.ok result, after))
    (completed : result.status = .completed) :
    (∀ path ∈ context.candidateChangedPaths, contentAt env.canonical after.canonical path =
        contentAt env.candidate ready.candidate path) ↔
      BytesKept env context validated world.canonical ready.candidate := by
  constructor
  · intro same path changed bytes captured
    obtain ⟨known, found, left⟩ := completed_content prepared done completed changed
    rw [captured] at found
    cases found
    rw [same path changed, captured] at left
    cases command : last (commandUpdates env context validated world.canonical) path with
    | none =>
      rw [command] at left
      exact (transported_same_iff env.host bytes).mp (Option.some.inj left).symm
    | some value =>
      rw [command] at left
      exact left.symm
  · intro kept path changed
    obtain ⟨bytes, captured, left⟩ := completed_content prepared done completed changed
    have known := kept path changed bytes captured
    rw [left, captured]
    cases command : last (commandUpdates env context validated world.canonical) path with
    | none =>
      rw [command] at known
      exact congrArg some ((transported_same_iff env.host bytes).mpr known)
    | some value =>
      rw [command] at known
      exact known

/-- The candidate ends a line with `\r\n`, on a host that ends it with `\n`. -/
def returnWorld : World :=
  pendingWorld ["a.txt"] ["a.txt"] [("a.txt", [97, 10])] [("a.txt", [98, 13, 10])]

def returnEnvironment : Environment := calmEnvironment (regularCheckout [("a.txt", [97, 10])] [])

/-- The call completes, and the canonical file has lost the `\r`. -/
theorem completed_call_loses_return :
    ∃ result after, exec (integrate returnEnvironment integrationRequest) returnWorld =
        (.ok result, after) ∧
      result.status = .completed ∧ result.candidateChangedPaths = ["a.txt"] ∧
      contentAt returnEnvironment.candidate after.candidate "a.txt" = some [98, 13, 10] ∧
      contentAt returnEnvironment.canonical after.canonical "a.txt" = some [98, 10] :=
  ⟨_, _, rfl, rfl, by decide +kernel, by decide +kernel, by decide +kernel⟩

/-- In that call the bytes were not such that text keeps them, as the theorem says. -/
theorem return_bytes_not_kept :
    ∃ context validated ready,
      Prepared returnEnvironment integrationRequest returnWorld context validated ready ∧
      ¬ BytesKept returnEnvironment context validated returnWorld.canonical ready.candidate := by
  refine ⟨_, _, _, rfl, ?_⟩
  intro kept
  have prepared : Prepared returnEnvironment integrationRequest returnWorld _ _ _ := rfl
  have changed : "a.txt" ∈ ["a.txt"] := List.mem_cons_self
  have same := (completed_bytes_same_iff_kept prepared rfl rfl).mpr kept "a.txt" changed
  revert same
  decide +kernel

end Lucius.Integration
