import Lucius.Repositories.ManifestIdentity
import Lucius.Repositories.HistoricalRecords

/-! When a snapshot of the working tree is reported stale.

The warning compares what the snapshot has kept with a snapshot in the standard mode, whatever the
mode of the first was; of the contents it compares what the manifests say of them. -/

namespace Lucius.Worktree

/-- What a stored snapshot has of the state it was taken in. -/
structure Snapshot where
  mode : SnapshotMode
  branch : Option String
  commitSha : String
  isDirty : Bool
  manifestHash : String
  deriving DecidableEq, Repr

section

variable (sha256 : Bytes → String) (maxTextFileSize : Nat)

def buildSnapshot (mode : SnapshotMode) (repository : LocalRepository) : Except RepositoryExc Snapshot := do
  let state := gitState repository
  let records ← worktreeRecords sha256 maxTextFileSize mode repository
  return {
    mode := inspectedMode mode
    branch := state.branch
    commitSha := state.commitSha
    isDirty := state.isDirty
    manifestHash := manifestIdentity sha256 records }

/-- Whether the warning is given. -/
def snapshotStaleWarning (snapshot : Snapshot) (repository : LocalRepository) :
    Except RepositoryExc Bool := do
  let current ← buildSnapshot sha256 maxTextFileSize .standard repository
  return decide (current.commitSha ≠ snapshot.commitSha) || decide (current.branch ≠ snapshot.branch) ||
    decide (current.manifestHash ≠ snapshot.manifestHash) || decide (current.isDirty ≠ snapshot.isDirty)

end

/-! ### What a manifest looks at -/

/-- Where the listed paths lead. -/
def locations (repository : LocalRepository) : List String :=
  (listFiles repository).filterMap (fun path => (resolveRepoFile repository path).toOption.map Prod.fst)

/-- Each listed path leads to a file inside the repository. -/
def Legible (repository : LocalRepository) : Prop :=
  ∀ path ∈ listFiles repository, (resolveRepoFile repository path).isOk = true

instance (repository : LocalRepository) : Decidable (Legible repository) := by
  unfold Legible
  infer_instance

def contentOf (repository : LocalRepository) (location : String) : Bytes :=
  (repository.files.lookup location).getD []

def statusOf (repository : LocalRepository) (location : String) : String :=
  gitStatusFor (parseStatus repository.porcelain) location

/-- The snapshot and the state it is compared with say the same of the file at a location. -/
structure Unseen (maxTextFileSize : Nat) (mode : SnapshotMode) (before now : LocalRepository)
    (location : String) : Prop where
  size : (contentOf before location).length = (contentOf now location).length
  status : statusOf before location = statusOf now location
  looks : isInspected maxTextFileSize location (contentOf before location) = true →
    looksBinary (contentOf before location) = looksBinary (contentOf now location)
  text : isInspected maxTextFileSize location (contentOf before location) = true →
    looksBinary (contentOf before location) = false →
      mode ≠ .fast ∧ contentOf before location = contentOf now location

/-- Commit, branch and dirtiness are the same, and nothing a manifest looks at has changed. -/
structure Alike (maxTextFileSize : Nat) (mode : SnapshotMode) (before now : LocalRepository) : Prop where
  head : before.checkout.head = now.checkout.head
  branch : before.branch = now.branch
  dirty : (gitState before).isDirty = (gitState now).isDirty
  places : (locations before).Perm (locations now)
  files : ∀ location ∈ locations before, Unseen maxTextFileSize mode before now location

/-! ### The places of a legible working tree -/

theorem resolveRepoFile_held {repository : LocalRepository} {path location : String} {bytes : Bytes}
    (found : resolveRepoFile repository path = .ok (location, bytes)) :
    repository.files.lookup location = some bytes := by
  unfold resolveRepoFile at found
  obtain ⟨validated, _, later⟩ := except_bind_ok found
  cases resolved : repository.checkout.resolve validated with
  | none =>
    rw [resolved] at later
    cases later
  | some target =>
    rw [resolved] at later
    dsimp only at later
    cases held : repository.files.lookup target with
    | none =>
      rw [held] at later
      cases later
    | some content =>
      rw [held] at later
      cases later
      exact held

section

variable {sha256 : Bytes → String} {maxTextFileSize : Nat} {mode : SnapshotMode}

/-- The record of the file at a location. -/
def recordAt (sha256 : Bytes → String) (maxTextFileSize : Nat) (mode : SnapshotMode)
    (repository : LocalRepository) (location : String) : FileRecord :=
  recordOf sha256 maxTextFileSize (inspectedMode mode) (statusOf repository location) location
    (contentOf repository location)

theorem fileRecord_ok {repository : LocalRepository} {path location : String} {bytes : Bytes}
    (found : resolveRepoFile repository path = .ok (location, bytes)) :
    fileRecord sha256 maxTextFileSize (inspectedMode mode) repository
        (parseStatus repository.porcelain) path =
      .ok (recordAt sha256 maxTextFileSize mode repository location) := by
  have held := resolveRepoFile_held found
  unfold fileRecord recordAt contentOf statusOf
  rw [found, held]
  rfl

theorem worktreeRecords_legible {repository : LocalRepository} (legible : Legible repository) :
    worktreeRecords sha256 maxTextFileSize mode repository =
      .ok ((locations repository).map (recordAt sha256 maxTextFileSize mode repository)) := by
  unfold worktreeRecords locations
  unfold Legible at legible
  generalize listFiles repository = paths at legible ⊢
  induction paths with
  | nil => rfl
  | cons path rest ih =>
    rw [List.forall_mem_cons] at legible
    have later := ih legible.2
    cases found : resolveRepoFile repository path with
    | error error =>
      rw [found] at legible
      cases legible.1
    | ok place =>
      obtain ⟨location, bytes⟩ := place
      have here := @fileRecord_ok sha256 maxTextFileSize mode repository path location bytes found
      rw [List.mapM_cons, here, later, List.filterMap_cons, found]
      rfl

theorem worktreeRecords_illegible {repository : LocalRepository} (illegible : ¬ Legible repository) :
    ∃ error, worktreeRecords sha256 maxTextFileSize mode repository = .error error := by
  cases built : worktreeRecords sha256 maxTextFileSize mode repository with
  | error error => exact ⟨error, rfl⟩
  | ok records =>
    exfalso
    apply illegible
    intro path member
    obtain ⟨record, _, read⟩ := forall₂_left (mapM_ok built) member
    unfold fileRecord at read
    obtain ⟨place, found, _⟩ := except_bind_ok read
    rw [found]
    rfl

theorem inspectedMode_fast_iff : inspectedMode mode = .fast ↔ mode = .fast := by
  cases mode <;> decide

theorem inspected_congr {location : String} {one two : Bytes} (same : one.length = two.length) :
    isInspected maxTextFileSize location one = isInspected maxTextFileSize location two := by
  unfold isInspected
  rw [same]

theorem entry_recordAt (repository : LocalRepository) (location : String) :
    (recordAt sha256 maxTextFileSize mode repository location).entry =
      { path := location
        sizeBytes := (contentOf repository location).length
        contentHash :=
          if isInspected maxTextFileSize location (contentOf repository location) = true ∧ mode ≠ .fast ∧
              looksBinary (contentOf repository location) = false then
            some (sha256 (contentOf repository location))
          else none
        gitStatus := statusOf repository location
        isSensitive := isSensitivePath location
        isBinary :=
          if isInspected maxTextFileSize location (contentOf repository location) = true then
            looksBinary (contentOf repository location)
          else decide (classifyFileType location = "binary") } := by
  unfold FileRecord.entry recordAt recordOf isInspected
  have slow : inspectedMode mode ≠ .fast ↔ mode ≠ .fast := not_congr inspectedMode_fast_iff
  dsimp only
  generalize (!isSensitivePath location && decide ((contentOf repository location).length ≤ maxTextFileSize)) =
    inspected
  cases inspected <;> simp [slow]

theorem entry_iff (distinct : Function.Injective sha256) (before now : LocalRepository) (location : String) :
    (recordAt sha256 maxTextFileSize mode before location).entry =
        (recordAt sha256 maxTextFileSize .standard now location).entry ↔
      Unseen maxTextFileSize mode before now location := by
  rw [entry_recordAt, entry_recordAt, ManifestEntry.mk.injEq]
  by_cases size : (contentOf before location).length = (contentOf now location).length
  · have parts : Unseen maxTextFileSize mode before now location ↔
        statusOf before location = statusOf now location ∧
        (isInspected maxTextFileSize location (contentOf before location) = true →
          looksBinary (contentOf before location) = looksBinary (contentOf now location)) ∧
        (isInspected maxTextFileSize location (contentOf before location) = true →
          looksBinary (contentOf before location) = false →
            mode ≠ .fast ∧ contentOf before location = contentOf now location) :=
      ⟨fun unseen => ⟨unseen.status, unseen.looks, unseen.text⟩,
        fun known => ⟨size, known.1, known.2.1, known.2.2⟩⟩
    have standard : SnapshotMode.standard ≠ .fast := by decide
    have digests : sha256 (contentOf before location) = sha256 (contentOf now location) ↔
        contentOf before location = contentOf now location := distinct.eq_iff
    rw [parts, ← inspected_congr size]
    cases inspected : isInspected maxTextFileSize location (contentOf before location) with
    | false => simp [size]
    | true =>
      cases looksBinary (contentOf before location) <;>
        cases looksBinary (contentOf now location) <;>
        by_cases fast : mode = .fast <;> simp [size, fast, digests, and_comm]
  · constructor
    · intro same
      exact absurd same.2.1 size
    · intro unseen
      exact absurd unseen.size size

/-- The manifests say the same exactly when they are of the same places and each of these is
unseen. -/
theorem manifest_iff (distinct : Function.Injective sha256) (before now : LocalRepository) :
    manifestIdentity sha256 ((locations before).map (recordAt sha256 maxTextFileSize mode before)) =
        manifestIdentity sha256 ((locations now).map (recordAt sha256 maxTextFileSize .standard now)) ↔
      (locations before).Perm (locations now) ∧
        ∀ location ∈ locations before, Unseen maxTextFileSize mode before now location := by
  have entries (repository : LocalRepository) (mode : SnapshotMode) :
      manifestEntries ((locations repository).map (recordAt sha256 maxTextFileSize mode repository)) =
        (sortedBy id (locations repository)).map
          (fun location => (recordAt sha256 maxTextFileSize mode repository location).entry) := by
    have paths : ((locations repository).map (recordAt sha256 maxTextFileSize mode repository)).map
        FileRecord.path = locations repository := by
      rw [List.map_map]
      exact List.map_id _
    have own : ∀ record ∈ sortedBy FileRecord.path
        ((locations repository).map (recordAt sha256 maxTextFileSize mode repository)),
        record.entry = (recordAt sha256 maxTextFileSize mode repository record.path).entry := by
      intro record member
      obtain ⟨location, _, rfl⟩ := List.mem_map.mp ((mem_sortedBy _ _ _).mp member)
      rfl
    have sorted := map_sortedBy FileRecord.path
      ((locations repository).map (recordAt sha256 maxTextFileSize mode repository))
    rw [paths] at sorted
    unfold manifestEntries
    rw [List.map_congr_left own, ← sorted, List.map_map]
    rfl
  have places (repository : LocalRepository) (mode : SnapshotMode) :
      ((sortedBy id (locations repository)).map
        (fun location => (recordAt sha256 maxTextFileSize mode repository location).entry)).map
          ManifestEntry.path = sortedBy id (locations repository) := by
    rw [List.map_map]
    exact List.map_id _
  rw [manifestIdentity_iff distinct, entries, entries]
  constructor
  · intro same
    have sorted : sortedBy id (locations before) = sortedBy id (locations now) := by
      rw [← places before mode, same, places]
    have perm : (locations before).Perm (locations now) := by
      have left := List.perm_insertionSort (fun left right : String => id left ≤ id right) (locations before)
      have right := List.perm_insertionSort (fun left right : String => id left ≤ id right) (locations now)
      exact left.symm.trans ((List.Perm.of_eq sorted).trans right)
    refine ⟨perm, ?_⟩
    intro location member
    rw [← sorted] at same
    have here := List.map_inj_left.mp same location ((mem_sortedBy id _ _).mpr member)
    exact (entry_iff distinct before now location).mp here
  · rintro ⟨perm, unseen⟩
    have sorted : sortedBy id (locations before) = sortedBy id (locations now) :=
      sortedBy_perm perm fun _ _ _ _ same => same
    rw [← sorted]
    apply List.map_congr_left
    intro location member
    exact (entry_iff distinct before now location).mpr (unseen location ((mem_sortedBy id _ _).mp member))

/-! ### The warning -/

theorem buildSnapshot_legible {repository : LocalRepository} (legible : Legible repository) :
    buildSnapshot sha256 maxTextFileSize mode repository = .ok {
      mode := inspectedMode mode
      branch := repository.branch
      commitSha := repository.checkout.head
      isDirty := (gitState repository).isDirty
      manifestHash := manifestIdentity sha256
        ((locations repository).map (recordAt sha256 maxTextFileSize mode repository)) } := by
  unfold buildSnapshot
  rw [worktreeRecords_legible legible]
  rfl

theorem legible_of_built {repository : LocalRepository} {snapshot : Snapshot}
    (built : buildSnapshot sha256 maxTextFileSize mode repository = .ok snapshot) : Legible repository := by
  by_contra illegible
  obtain ⟨error, raised⟩ := @worktreeRecords_illegible sha256 maxTextFileSize mode repository illegible
  unfold buildSnapshot at built
  rw [raised] at built
  cases built

theorem warning_illegible {snapshot : Snapshot} {now : LocalRepository} (illegible : ¬ Legible now)
    (answer : Bool) : snapshotStaleWarning sha256 maxTextFileSize snapshot now ≠ .ok answer := by
  intro given
  unfold snapshotStaleWarning at given
  obtain ⟨current, built, _⟩ := except_bind_ok given
  exact illegible (legible_of_built built)

/-- Without a warning nothing that the snapshot has kept has changed, and the other way round. -/
theorem warning_iff (distinct : Function.Injective sha256) {before now : LocalRepository}
    {snapshot : Snapshot} (built : buildSnapshot sha256 maxTextFileSize mode before = .ok snapshot)
    (legible : Legible now) :
    ∃ answer, snapshotStaleWarning sha256 maxTextFileSize snapshot now = .ok answer ∧
      (answer = false ↔ Alike maxTextFileSize mode before now) := by
  have current := @buildSnapshot_legible sha256 maxTextFileSize .standard now legible
  rw [buildSnapshot_legible (legible_of_built built)] at built
  have kept := Except.ok.inj built
  unfold snapshotStaleWarning
  rw [current]
  refine ⟨_, rfl, ?_⟩
  rw [← kept]
  have manifests := @manifest_iff sha256 maxTextFileSize mode distinct before now
  simp only [Bool.or_eq_false_iff, decide_eq_false_iff_not, not_not]
  constructor
  · rintro ⟨⟨⟨head, branch⟩, manifest⟩, dirty⟩
    obtain ⟨places, files⟩ := manifests.mp manifest.symm
    exact ⟨head.symm, branch.symm, dirty.symm, places, files⟩
  · intro alike
    have manifest := manifests.mpr ⟨alike.places, alike.files⟩
    exact ⟨⟨⟨alike.head.symm, alike.branch.symm⟩, manifest.symm⟩, alike.dirty.symm⟩

end

/-! ### What the warning is to tell -/

def isText (bytes : Bytes) : Bool := validUtf8 bytes && decide (0 ∉ bytes)

/-- The content of a text that is not sensitive and within the limit. -/
def textAt (maxTextFileSize : Nat) (repository : LocalRepository) (location : String) : Option Bytes :=
  if location ∈ locations repository ∧
      isInspected maxTextFileSize location (contentOf repository location) = true ∧
      isText (contentOf repository location) = true then
    some (contentOf repository location)
  else none

/-- Commit, branch, dirtiness or the content of a text differ. -/
def Differs (maxTextFileSize : Nat) (before now : LocalRepository) : Prop :=
  before.checkout.head ≠ now.checkout.head ∨ before.branch ≠ now.branch ∨
    (gitState before).isDirty ≠ (gitState now).isDirty ∨
    ∃ location, textAt maxTextFileSize before location ≠ textAt maxTextFileSize now location

/-- The answer that a state of the repository asks for. -/
structure Exact (maxTextFileSize : Nat) (before now : LocalRepository)
    (warning : Except RepositoryExc Bool) : Prop where
  unchanged : now = before → warning = .ok false
  changed : Differs maxTextFileSize before now → warning = .ok true

/-- A text is hashed unless the sample of it looks binary. -/
def IsHashed (maxTextFileSize : Nat) (repository : LocalRepository) (location : String) : Prop :=
  isInspected maxTextFileSize location (contentOf repository location) = true ∧
    looksBinary (contentOf repository location) = false

theorem alike_self_iff (maxTextFileSize : Nat) (mode : SnapshotMode) (repository : LocalRepository) :
    Alike maxTextFileSize mode repository repository ↔
      mode ≠ .fast ∨ ∀ location ∈ locations repository, ¬ IsHashed maxTextFileSize repository location := by
  constructor
  · intro alike
    by_contra neither
    rw [not_or, not_not] at neither
    obtain ⟨fast, some⟩ := neither
    apply some
    intro location member hashed
    exact ((alike.files location member).text hashed.1 hashed.2).1 fast
  · intro either
    refine ⟨rfl, rfl, rfl, .refl _, ?_⟩
    intro location member
    refine ⟨rfl, rfl, fun _ => rfl, ?_⟩
    intro inspected text
    refine ⟨?_, rfl⟩
    intro fast
    cases either with
    | inl slow => exact slow fast
    | inr none => exact none location member ⟨inspected, text⟩

/-- A digest that keeps the bytes. -/
def plainDigest (bytes : Bytes) : String := String.ofList (bytes.map (fun byte => Char.ofNat byte.toNat))

def noted : LocalRepository :=
  (CleanCheckout.ofFile "notes.txt" [97] CleanCheckout.notes_valid).repository

def edited : LocalRepository :=
  { noted with files := AList.singleton "notes.txt" [98], porcelain := [" M notes.txt"] }

def removed : LocalRepository := { noted with files := ∅, porcelain := [" D notes.txt"] }

def notedSnapshot : Snapshot where
  mode := .standard
  branch := some "main"
  commitSha := "c0"
  isDirty := false
  manifestHash := "[\x7b\"content_hash\":\"a\",\"git_status\":\"tracked\",\"is_binary\":false," ++
    "\"is_sensitive\":false,\"path\":\"notes.txt\",\"size_bytes\":1\x7d]"

theorem noted_built :
    buildSnapshot plainDigest defaultMaxTextFileSize .standard noted = .ok notedSnapshot := by
  decide +kernel

end Lucius.Worktree
