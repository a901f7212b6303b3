import Lucius.Repositories.WrittenText
import Lucius.Runtime.DeterministicAcceptance

/-! The acceptance checks over a working tree, and over what was captured of it.

The capture holds the changed files alone, so a check of another file passes on the
working tree and not on the captured content. -/

namespace Lucius.Acceptance

open Worktree Updates

/-- The checks are normalised before they are verified. -/
def verifyOnWorkspace (commands : Commands) (checkout : Checkout) (authorizedPaths : List String)
    (checks : Json) : FileWork (List Verification) := do
  let normalized ← Journal.ofExcept (normalizeDeterministicAcceptanceChecks authorizedPaths checks)
  verifyDeterministicAcceptance none commands checkout normalized

/-- What a check of a text asks of it. -/
def TextHolds (expected actual : Text) : TextCheck → Prop
  | .exactFileContent => actual = expected
  | .fileContains => occursIn expected actual = true
  | .fileNotContains => occursIn expected actual = false

/-- The file of the check is there and as the check asks. -/
def Satisfied (checkout : Checkout) (files : Files) : Check → Prop
  | .commandSucceeds _ _ => False
  | .fileExists path => contentAt checkout files path ≠ none
  | .text type path expected => ∃ bytes, contentAt checkout files path = some bytes ∧
      validUtf8 bytes = true ∧ TextHolds (utf8 expected) (universalNewlines false bytes) type

theorem verifyText_ok_iff (type : TextCheck) (path : String) (expected actual : Text)
    (failure : TextCheck → WorkspaceExc) :
    (∃ verified, verifyText type path expected actual failure = .ok verified) ↔
      TextHolds expected actual type := by
  unfold verifyText
  cases type with
  | exactFileContent =>
    by_cases same : actual = expected <;> simp [TextHolds, same]
  | fileContains =>
    cases found : occursIn expected actual <;> simp [TextHolds, found]
  | fileNotContains =>
    cases found : occursIn expected actual <;> simp [TextHolds, found]

theorem acceptanceTarget_ok_iff (checkout : Checkout) (files : Files) (path : String) (bytes : Bytes) :
    acceptanceTarget checkout files path = .ok bytes ↔ contentAt checkout files path = some bytes := by
  unfold acceptanceTarget contentAt
  cases checkout.resolve path with
  | none => simp
  | some location =>
    rw [Option.bind_some]
    cases known : files.lookup location with
    | none => simp [known]
    | some found => simp [known]

theorem verifyExists_ok_iff (checkout : Checkout) (files : Files) (path : String) :
    (∃ verified, verifyExists checkout files path = .ok verified) ↔ contentAt checkout files path ≠ none := by
  rw [Option.ne_none_iff_exists']
  constructor
  · rintro ⟨verified, done⟩
    obtain ⟨bytes, target, _⟩ := except_bind_ok done
    exact ⟨bytes, (acceptanceTarget_ok_iff checkout files path bytes).mp target⟩
  · rintro ⟨bytes, known⟩
    refine ⟨⟨"deterministic_acceptance_file_exists", some path, none, none⟩, ?_⟩
    rw [verifyExists, (acceptanceTarget_ok_iff checkout files path bytes).mpr known]
    rfl

theorem verifyTextCheck_ok_iff (checkout : Checkout) (files : Files) (type : TextCheck)
    (path expected : String) :
    (∃ verified, verifyTextCheck checkout files type path expected = .ok verified) ↔
      Satisfied checkout files (.text type path expected) := by
  constructor
  · rintro ⟨verified, done⟩
    obtain ⟨bytes, target, afterTarget⟩ := except_bind_ok done
    split at afterTarget
    · cases afterTarget
    · rename_i valid
      refine ⟨bytes, (acceptanceTarget_ok_iff checkout files path bytes).mp target, ?_, ?_⟩
      · simpa using valid
      · exact (verifyText_ok_iff _ _ _ _ _).mp ⟨verified, afterTarget⟩
  · rintro ⟨bytes, known, valid, holds⟩
    obtain ⟨verified, done⟩ := (verifyText_ok_iff type path (utf8 expected)
      (universalNewlines false bytes)
      (workspaceFailure path (utf8 expected) (universalNewlines false bytes))).mpr holds
    refine ⟨verified, ?_⟩
    rw [verifyTextCheck, (acceptanceTarget_ok_iff checkout files path bytes).mpr known]
    simp only [valid, bind, Except.bind]
    exact done

/-! ### Over the working tree -/

section

variable (commands : Commands) (checkout : Checkout)

theorem verifyCheck_file {check : Check} (named : check.path? ≠ none) (files : Files) :
    ∃ result, verifyCheck commands checkout check files = ([], result) ∧
      ((∃ verified, result = .ok verified) ↔ Satisfied checkout files check) := by
  cases check with
  | commandSucceeds argv timeout => exact absurd rfl named
  | fileExists path =>
    exact ⟨verifyExists checkout files path, rfl, verifyExists_ok_iff checkout files path⟩
  | text type path expected =>
    exact ⟨verifyTextCheck checkout files type path expected, rfl,
      verifyTextCheck_ok_iff checkout files type path expected⟩

theorem verifyChecks_ok_iff {checks : List Check} (named : ∀ check ∈ checks, check.path? ≠ none)
    (files : Files) :
    (∃ verified, (verifyChecks commands checkout checks files).2 = .ok verified) ↔
      ∀ check ∈ checks, Satisfied checkout files check := by
  induction checks with
  | nil => exact ⟨(fun _ _ => nofun), fun _ => ⟨[], rfl⟩⟩
  | cons check rest ih =>
    have later := ih (fun other member => named other (List.mem_cons_of_mem _ member))
    obtain ⟨result, checked, passes⟩ :=
      verifyCheck_file commands checkout (named check List.mem_cons_self) files
    rw [List.forall_mem_cons, ← passes, ← later]
    change (∃ verified, ((verifyCheck commands checkout check >>= fun verified =>
      verifyChecks commands checkout rest >>= fun later => pure (verified :: later)) files).2 =
        .ok verified) ↔ _
    cases result with
    | error error =>
      rw [Journal.bind_apply_error checked]
      simp
    | ok verified =>
      rw [Journal.bind_apply_ok checked]
      change (∃ all, ((verifyChecks commands checkout rest >>= fun later =>
        pure (verified :: later)) files).2 = .ok all) ↔ _
      cases ended : verifyChecks commands checkout rest files with
      | mk updates others =>
        cases others with
        | error error =>
          rw [Journal.bind_apply_error ended]
          simp
        | ok more =>
          rw [Journal.bind_apply_ok ended]
          exact ⟨fun _ => ⟨⟨verified, rfl⟩, more, rfl⟩, fun _ => ⟨verified :: more, rfl⟩⟩

end

/-! ### Over the captured content -/

/-- What was captured of a file is the text of its bytes. -/
structure CapturedFrom (checkout : Checkout) (files : Files) (captured : List CapturedFile) : Prop where
  content : ∀ file ∈ captured, ∃ bytes, contentAt checkout files file.path = some bytes ∧
    validUtf8 bytes = true ∧ file.content = universalNewlines false bytes

theorem captureFiles_from {checkout : Checkout} {files : Files} {authorized seen paths : List String}
    {captured : List CapturedFile}
    (done : captureFiles checkout files authorized seen paths = .ok captured) :
    CapturedFrom checkout files captured := by
  induction paths generalizing seen captured with
  | nil =>
    cases done
    exact ⟨fun _ => nofun⟩
  | cons rawPath rest ih =>
    obtain ⟨path, validated, afterPath⟩ := except_bind_ok done
    split at afterPath
    · cases afterPath
    · split at afterPath
      · cases afterPath
      · obtain ⟨location, located, afterLocation⟩ := except_bind_ok afterPath
        split at afterLocation
        · cases afterLocation
        · rename_i bytes found
          split at afterLocation
          · cases afterLocation
          · rename_i valid
            obtain ⟨others, later, finish⟩ := except_bind_ok afterLocation
            cases finish
            refine ⟨?_⟩
            intro file member
            rcases List.mem_cons.mp member with rfl | inside
            · refine ⟨bytes, ?_, by simpa using valid, rfl⟩
              rw [contentAt, locate_ok located]
              exact found
            · exact (ih later).content file inside

section

variable {checkout : Checkout} {files : Files} {captured : List CapturedFile}

theorem capturedContent_ok {path : String} {content : Text}
    (done : capturedContent captured path = .ok content) :
    ∃ file ∈ captured, file.path = path ∧ file.content = content := by
  unfold capturedContent at done
  split at done
  · rename_i file found
    exact ⟨file, List.mem_of_find?_eq_some found, by simpa using List.find?_some found, Except.ok.inj done⟩
  · cases done

theorem capturedContent_of_mem {path : String} {file : CapturedFile} (member : file ∈ captured)
    (named : file.path = path) : ∃ content, capturedContent captured path = .ok content := by
  unfold capturedContent
  cases found : captured.find? (fun file => file.path = path) with
  | none => exact absurd (decide_eq_true named) (List.find?_eq_none.mp found file member)
  | some other => exact ⟨other.content, rfl⟩

variable (of : CapturedFrom checkout files captured)
include of

theorem verifyCapturedText_iff (type : TextCheck) (path expected : String) :
    verifyCapturedCheck captured (.text type path expected) = .ok () ↔
      Satisfied checkout files (.text type path expected) ∧ ∃ file ∈ captured, file.path = path := by
  constructor
  · intro done
    obtain ⟨content, read, afterRead⟩ := except_bind_ok done
    obtain ⟨verified, holds, _⟩ := except_bind_ok afterRead
    obtain ⟨file, member, named, same⟩ := capturedContent_ok read
    obtain ⟨bytes, known, valid, text⟩ := of.content file member
    have asked := (verifyText_ok_iff _ _ _ _ _).mp ⟨verified, holds⟩
    rw [← same, text] at asked
    rw [named] at known
    exact ⟨⟨bytes, known, valid, asked⟩, file, member, named⟩
  · rintro ⟨⟨bytes, known, valid, asked⟩, file, member, named⟩
    obtain ⟨content, read⟩ := capturedContent_of_mem member named
    obtain ⟨other, inside, same, held⟩ := capturedContent_ok read
    obtain ⟨others, again, _, text⟩ := of.content other inside
    rw [same, known] at again
    cases again
    rw [← text, held] at asked
    obtain ⟨verified, done⟩ := (verifyText_ok_iff type path (utf8 expected) content
      (capturedFailure path)).mpr asked
    rw [verifyCapturedCheck]
    simp only [read, done, bind, Except.bind, pure, Except.pure]

theorem verifyCapturedExists_iff (path : String) :
    verifyCapturedCheck captured (.fileExists path) = .ok () ↔
      Satisfied checkout files (.fileExists path) ∧ ∃ file ∈ captured, file.path = path := by
  constructor
  · intro done
    obtain ⟨content, read, _⟩ := except_bind_ok done
    obtain ⟨file, member, named, _⟩ := capturedContent_ok read
    obtain ⟨bytes, known, _, _⟩ := of.content file member
    rw [named] at known
    refine ⟨?_, file, member, named⟩
    rw [Satisfied, known]
    exact Option.some_ne_none bytes
  · rintro ⟨_, file, member, named⟩
    obtain ⟨content, read⟩ := capturedContent_of_mem member named
    rw [verifyCapturedCheck]
    simp only [read, bind, Except.bind, pure, Except.pure]

/-- The captured content meets a check that the working tree meets, where it has its file. -/
theorem verifyCapturedCheck_iff {check : Check} (named : check.path? ≠ none) :
    verifyCapturedCheck captured check = .ok () ↔
      Satisfied checkout files check ∧ ∃ file ∈ captured, check.path? = some file.path := by
  cases check with
  | commandSucceeds argv timeout => exact absurd rfl named
  | fileExists path =>
    rw [verifyCapturedExists_iff of]
    simp [Check.path?, eq_comm]
  | text type path expected =>
    rw [verifyCapturedText_iff of]
    simp [Check.path?, eq_comm]

theorem verifyContent_iff {checks : List Check} (named : ∀ check ∈ checks, check.path? ≠ none) :
    verifyDeterministicAcceptanceContent captured checks = .ok () ↔
      ∀ check ∈ checks, Satisfied checkout files check ∧
        ∃ file ∈ captured, check.path? = some file.path := by
  induction checks with
  | nil => exact ⟨(fun _ _ => nofun), fun _ => rfl⟩
  | cons check rest ih =>
    have later := ih (fun other member => named other (List.mem_cons_of_mem _ member))
    rw [List.forall_mem_cons, ← later, ← verifyCapturedCheck_iff of (named check List.mem_cons_self)]
    rw [verifyDeterministicAcceptanceContent]
    cases verifyCapturedCheck captured check with
    | error error => simp [bind, Except.bind]
    | ok done => simp [bind, Except.bind]

end

/-! ### Agreement -/

def WorkspaceAccepts (commands : Commands) (checkout : Checkout) (files : Files) (checks : List Check) :
    Prop :=
  ∃ verified, (verifyDeterministicAcceptance none commands checkout checks files).2 = .ok verified

def ContentAccepts (captured : List CapturedFile) (checks : List Check) : Prop :=
  verifyDeterministicAcceptanceContent captured checks = .ok ()

/-- What the working tree accepts is accepted of the captured content, and what is rejected
there is rejected here. -/
structure VerificationsAgree (commands : Commands) (checkout : Checkout) (files : Files)
    (captured : List CapturedFile) (checks : List Check) : Prop where
  accepted : WorkspaceAccepts commands checkout files checks → ContentAccepts captured checks
  rejected : ∀ check ∈ checks, ¬ ContentAccepts captured [check] →
    ¬ WorkspaceAccepts commands checkout files [check]

theorem workspaceAccepts_iff (commands : Commands) (checkout : Checkout) (files : Files)
    {checks : List Check} (named : ∀ check ∈ checks, check.path? ≠ none) :
    WorkspaceAccepts commands checkout files checks ↔ ∀ check ∈ checks, Satisfied checkout files check :=
  verifyChecks_ok_iff commands checkout named files

/-- The two verifications agree exactly when each satisfied check is of a captured file. -/
theorem verifications_agree_iff {fault : Option ReadFault} {commands : Commands} {checkout : Checkout}
    {files : Files} {authorized changed : List String} {captured : List CapturedFile}
    {checks : List Check}
    (captures : captureUtf8FileContents fault checkout files authorized changed = .ok captured)
    (named : ∀ check ∈ checks, check.path? ≠ none) :
    VerificationsAgree commands checkout files captured checks ↔
      ∀ check ∈ checks, Satisfied checkout files check → ∃ file ∈ captured, check.path? = some file.path := by
  obtain ⟨_, _, afterFault⟩ := except_bind_ok captures
  have of := captureFiles_from afterFault
  have single : ∀ check ∈ checks, ∀ other ∈ [check], other.path? ≠ none := by
    intro check member other inside
    rw [List.mem_singleton.mp inside]
    exact named check member
  constructor
  · intro agree check member satisfied
    by_contra uncaptured
    apply agree.rejected check member
    · rw [ContentAccepts, verifyContent_iff of (single check member)]
      exact fun accepted => uncaptured (accepted check (List.mem_singleton_self _)).2
    · rw [workspaceAccepts_iff commands checkout files (single check member)]
      intro other inside
      rw [List.mem_singleton.mp inside]
      exact satisfied
  · intro covered
    have transfers : ∀ some : List Check, (∀ check ∈ some, check ∈ checks) →
        WorkspaceAccepts commands checkout files some → ContentAccepts captured some := by
      intro some among accepted
      have known := fun check member => named check (among check member)
      rw [workspaceAccepts_iff commands checkout files known] at accepted
      rw [ContentAccepts, verifyContent_iff of known]
      intro check member
      exact ⟨accepted check member, covered check (among check member) (accepted check member)⟩
    refine ⟨transfers checks (fun _ member => member), ?_⟩
    intro check member rejected accepted
    apply rejected
    apply transfers [check] _ accepted
    intro other inside
    rw [List.mem_singleton.mp inside]
    exact member

def oneChanged : Files := ((∅ : Files).insert "a.txt" (utf8 "new\n")).insert "b.txt" (utf8 "old\n")

def plainCheckout : Checkout := .plain "sha" ∅ (fun _ => false)

def noCommands : Commands := ⟨fun _ => false, fun _ _ => ([], .osError)⟩

theorem changed_file_verifications_agree_iff : ∃ captured,
    captureUtf8FileContents none plainCheckout oneChanged ["a.txt", "b.txt"] ["a.txt"] = .ok captured ∧
      (VerificationsAgree noCommands plainCheckout oneChanged captured [.fileExists "a.txt"] ↔
        ∀ check ∈ [Check.fileExists "a.txt"], Satisfied plainCheckout oneChanged check →
          ∃ file ∈ captured, check.path? = some file.path) := by
  have fine : (captureUtf8FileContents none plainCheckout oneChanged ["a.txt", "b.txt"]
      ["a.txt"]).isOk = true := by decide +kernel
  obtain ⟨captured, captures⟩ := except_isOk fine
  refine ⟨captured, captures, verifications_agree_iff captures ?_⟩
  intro check member
  rw [List.mem_singleton.mp member]
  exact Option.some_ne_none _

/-- Of two authorized files one is changed; the check of the other one passes on the
working tree alone. -/
theorem unchanged_file_verifications_differ : ∃ captured,
    captureUtf8FileContents none plainCheckout oneChanged ["a.txt", "b.txt"] ["a.txt"] = .ok captured ∧
      normalizeDeterministicAcceptanceChecks ["a.txt", "b.txt"] (.arr [
        .obj [("type", .str "file_exists"), ("path", .str "a.txt")],
        .obj [("type", .str "file_contains"), ("path", .str "b.txt"), ("expected_text", .str "old")]]) =
        .ok [.fileExists "a.txt", .text .fileContains "b.txt" "old"] ∧
      ¬ VerificationsAgree noCommands plainCheckout oneChanged captured
        [.fileExists "a.txt", .text .fileContains "b.txt" "old"] := by
  refine ⟨[⟨"a.txt", utf8 "new\n"⟩], by decide +kernel, by decide +kernel, ?_⟩
  intro agree
  have accepted : WorkspaceAccepts noCommands plainCheckout oneChanged
      [.fileExists "a.txt", .text .fileContains "b.txt" "old"] := by
    have passes : (verifyDeterministicAcceptance none noCommands plainCheckout
        [.fileExists "a.txt", .text .fileContains "b.txt" "old"] oneChanged).2.isOk = true := by
      decide +kernel
    exact except_isOk passes
  have rejected : verifyDeterministicAcceptanceContent [⟨"a.txt", utf8 "new\n"⟩]
      [.fileExists "a.txt", .text .fileContains "b.txt" "old"] ≠ .ok () := by
    decide +kernel
  exact rejected (agree.accepted accepted)

/-! ### What was written -/

/-- The check that a file has exactly this content. -/
def exactCheck (path content : String) : Json :=
  .obj [("type", .str "exact_file_content"), ("path", .str path), ("expected_text", .str content)]

/-- A file has exactly this text, by the check and by what is captured. -/
structure RoundTrips (commands : Commands) (checkout : Checkout) (authorized : List String)
    (files : Files) (path content : String) : Prop where
  checked : ∃ verified, (verifyOnWorkspace commands checkout authorized (.arr [exactCheck path content])
    files).2 = .ok verified
  captured : ∃ file, captureUtf8FileContents none checkout files authorized [path] = .ok [file] ∧
    file.content = utf8 content

theorem validateSingle_ok {fault : Option ReadFault} {checkout : Checkout} {authorized : List String}
    {limit : Option Nat} {path : String} {text : Text} {validated : List ValidatedFileContent}
    (done : validateFileContents fault checkout authorized limit [.item (.str path) (some text)] =
      .ok validated) :
    ∃ item, validated = [item] ∧ validateRelativeRepoPath (.str path) = .ok item.path ∧
      item.path ∈ authorized ∧ item.content = text ∧ checkout.resolve item.path = some item.location := by
  obtain ⟨_, _, afterFault⟩ := except_bind_ok done
  rw [if_neg (by simp)] at afterFault
  obtain ⟨found, valid, afterPath⟩ := except_bind_ok afterFault
  rw [if_neg List.not_mem_nil] at afterPath
  split at afterPath
  · cases afterPath
  · rename_i inside
    change (if limit.any (· < text.length) = true then _ else _) = _ at afterPath
    split at afterPath
    · cases afterPath
    · obtain ⟨location, located, afterLocation⟩ := except_bind_ok afterPath
      obtain ⟨others, later, finish⟩ := except_bind_ok afterLocation
      cases later
      cases finish
      exact ⟨_, rfl, valid, not_not.mp inside, rfl, locate_ok located⟩

theorem normalize_exactCheck {authorized : List String} {path found content : String}
    (valid : validateRelativeRepoPath (.str path) = .ok found) (inside : found ∈ authorized) :
    normalizeDeterministicAcceptanceChecks authorized (.arr [exactCheck path content]) =
      .ok [.text .exactFileContent found content] := by
  have single : normalizeDeterministicAcceptanceCheck 1 authorized (exactCheck path content) =
      .ok (.text .exactFileContent found content) := by
    change normalizePathCheck 1 authorized [("type", .str "exact_file_content"), ("path", .str path),
      ("expected_text", .str content)] (some .exactFileContent) = _
    unfold normalizePathCheck
    have named : Dict.get [("type", .str "exact_file_content"), ("path", .str path),
        ("expected_text", .str content)] "path" = .str path := rfl
    rw [named, valid]
    dsimp only
    rw [if_neg (not_not.mpr inside)]
    rfl
  rw [normalizeDeterministicAcceptanceChecks, exactCheck, normalizeFrom]
  rw [exactCheck] at single
  simp only [single, bind, Except.bind]
  rfl

section

variable {host : Host} {checkout : Checkout} {files : Files} {item : ValidatedFileContent} {content : String}
variable (resolved : checkout.resolve item.path = some item.location) (text : item.content = utf8 content)
include resolved text

theorem contentAt_written : contentAt checkout (applyAll files [item.update host]) item.path =
    some (hostNewlines host (utf8 content)) := by
  rw [contentAt, resolved, Option.bind_some, applyAll_cons, applyAll_nil, lookup_applied,
    ValidatedFileContent.update, if_pos rfl, text]

theorem satisfied_written_iff :
    Satisfied checkout (applyAll files [item.update host]) (.text .exactFileContent item.path content) ↔
      '\r' ∉ content.toList := by
  have written : contentAt checkout (applyAll files [item.update host]) item.path = _ :=
    contentAt_written resolved text
  rw [← return_mem_utf8, ← read_written_iff host]
  constructor
  · rintro ⟨bytes, known, valid, holds⟩
    rw [written] at known
    cases known
    exact holds
  · intro read
    exact ⟨_, written, valid_hostNewlines host content, read⟩

theorem captured_written {authorized : List String} {path : String}
    (valid : validateRelativeRepoPath (.str path) = .ok item.path) (inside : item.path ∈ authorized) :
    captureUtf8FileContents none checkout (applyAll files [item.update host]) authorized [path] =
      .ok [⟨item.path, universalNewlines false (hostNewlines host (utf8 content))⟩] := by
  have written : contentAt checkout (applyAll files [item.update host]) item.path = _ :=
    contentAt_written resolved text
  rw [contentAt, resolved, Option.bind_some] at written
  have located : locate checkout item.path = .ok item.location := by
    rw [locate, resolved]
  rw [captureUtf8FileContents]
  simp only [failing, captureFiles, valid, bind, Except.bind, List.not_mem_nil, if_false, inside,
    not_true_eq_false, located, written, valid_hostNewlines, Bool.not_true, Bool.false_eq_true]
  rfl

end

/-- A text that was validated and written is accepted and captured as it is exactly when it has
no carriage return. -/
theorem written_text_round_trips_iff {fault : Option ReadFault} {checkout : Checkout}
    {authorized : List String} {limit : Option Nat} {path content : String}
    {validated : List ValidatedFileContent} {host : Host} {faults : WriteFaults} {files : Files}
    {updates : List FileUpdate} {written : List WrittenFile} (commands : Commands)
    (accepted : validateFileContents fault checkout authorized limit
      [.item (.str path) (some (utf8 content))] = .ok validated)
    (wrote : writeValidatedFileContents host faults validated files = (updates, .ok written)) :
    RoundTrips commands checkout authorized (applyAll files updates) path content ↔
      '\r' ∉ content.toList := by
  obtain ⟨item, rfl, valid, inside, text, resolved⟩ := validateSingle_ok accepted
  have made := writeValidatedFileContents_ok wrote
  subst made
  change RoundTrips commands checkout authorized (applyAll files [item.update host]) path content ↔ _
  have checks : verifyOnWorkspace commands checkout authorized (.arr [exactCheck path content])
      (applyAll files [item.update host]) = verifyChecks commands checkout
        [.text .exactFileContent item.path content] (applyAll files [item.update host]) := by
    rw [verifyOnWorkspace, normalize_exactCheck valid inside]
    rfl
  have named : ∀ check ∈ [Check.text .exactFileContent item.path content], check.path? ≠ none := by
    intro check member
    rw [List.mem_singleton.mp member]
    exact Option.some_ne_none _
  have passes := verifyChecks_ok_iff commands checkout named (applyAll files [item.update host])
  rw [List.forall_mem_singleton, satisfied_written_iff resolved text] at passes
  have read : captureUtf8FileContents none checkout (applyAll files [item.update host]) authorized [path] = _ :=
    captured_written resolved text valid inside
  constructor
  · intro trip
    rw [← passes, ← checks]
    exact trip.checked
  · intro plain
    refine ⟨?_, _, read, ?_⟩
    · rw [checks]
      exact passes.mpr plain
    · rw [← return_mem_utf8] at plain
      exact (read_written_iff host (utf8 content)).mpr plain

def noFaults : WriteFaults := ⟨fun _ => false, fun _ => none, fun _ => false, fun _ => none, fun _ => false⟩

def onlyItem (content : String) : ValidatedFileContent :=
  ⟨"a.txt", "a.txt", utf8 content, (utf8 content).length⟩

theorem plain_text_round_trips_iff :
    RoundTrips noCommands plainCheckout ["a.txt"]
      (applyAll oneChanged [(onlyItem "new\n").update .posix]) "a.txt" "new\n" ↔
        '\r' ∉ "new\n".toList := by
  have accepted : validateFileContents none plainCheckout ["a.txt"] none
      [.item (.str "a.txt") (some (utf8 "new\n"))] = .ok [onlyItem "new\n"] := by
    decide +kernel
  have wrote : writeValidatedFileContents .posix noFaults [onlyItem "new\n"] oneChanged =
      ([(onlyItem "new\n").update .posix], .ok [⟨"a.txt", (onlyItem "new\n").byteCount⟩]) := by
    rfl
  exact written_text_round_trips_iff noCommands accepted wrote

/-- A text of two bytes comes back with one. -/
theorem carriage_return_not_read_back :
    validateFileContents none plainCheckout ["a.txt"] none
        [.item (.str "a.txt") (some (utf8 "\r\n"))] = .ok [onlyItem "\r\n"] ∧
      writeValidatedFileContents .posix noFaults [onlyItem "\r\n"] oneChanged =
        ([(onlyItem "\r\n").update .posix], .ok [⟨"a.txt", 2⟩]) ∧
      captureUtf8FileContents none plainCheckout (applyAll oneChanged [(onlyItem "\r\n").update .posix])
        ["a.txt"] ["a.txt"] = .ok [⟨"a.txt", utf8 "\n"⟩] ∧
      ¬ RoundTrips noCommands plainCheckout ["a.txt"]
        (applyAll oneChanged [(onlyItem "\r\n").update .posix]) "a.txt" "\r\n" := by
  have captured : captureUtf8FileContents none plainCheckout
      (applyAll oneChanged [(onlyItem "\r\n").update .posix]) ["a.txt"] ["a.txt"] =
        .ok [⟨"a.txt", utf8 "\n"⟩] := by
    decide +kernel
  refine ⟨by decide +kernel, rfl, captured, ?_⟩
  intro trip
  obtain ⟨file, read, content⟩ := trip.captured
  rw [captured] at read
  cases read
  revert content
  decide +kernel

end Lucius.Acceptance
