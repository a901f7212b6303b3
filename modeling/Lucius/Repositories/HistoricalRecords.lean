import Lucius.Lib.Sorting
import Lucius.Repositories.TextMode

/-! When the snapshot of a commit and that of a clean working tree of it record the same.

The one reads what Git prints as text, the other reads the files. -/

namespace Lucius.Worktree

/-- A working tree without changes, and the commit it is checked out at. Git keeps plain paths
and prints the committed bytes; a tree entry without a content is a link or a submodule. -/
structure CleanCheckout where
  repository : LocalRepository
  commit : Commit
  porcelain : repository.porcelain = []
  unlisted : repository.checkout.listed repository.files = []
  indexed : repository.indexed.Perm repository.checkout.tree.keys
  paths : commit.paths.Perm repository.checkout.tree.keys
  normal : ∀ path ∈ commit.paths, validateRelativePath path = .ok path
  shown : ∀ path bytes, repository.checkout.tree.lookup path = some (some bytes) →
    commit.shown path = some bytes
  unshown : ∀ path, repository.checkout.tree.lookup path = none → commit.shown path = none
  direct : ∀ path bytes, repository.checkout.tree.lookup path = some (some bytes) →
    repository.checkout.resolve path = some path
  irregular : ∀ path, repository.checkout.tree.lookup path = some none →
    repository.files.lookup path = none

/-- What the two snapshots are compared by. -/
def FileRecord.compared (record : FileRecord) : String × Nat × Option String × Bool × Bool :=
  (record.path, record.sizeBytes, record.contentHash, record.isBinary, record.isSensitive)

/-- Neither raises, and both record the same of every file. -/
def Agree (left right : Except RepositoryExc (List FileRecord)) : Prop :=
  ∃ first second, left = .ok first ∧ right = .ok second ∧
    first.map FileRecord.compared = second.map FileRecord.compared

/-- Two contents with one digest. -/
def Collide (sha256 : Bytes → String) (left right : Bytes) : Prop :=
  left ≠ right ∧ sha256 left = sha256 right

def isInspected (maxTextFileSize : Nat) (path : String) (bytes : Bytes) : Bool :=
  !isSensitivePath path && decide (bytes.length ≤ maxTextFileSize)

/-- A file whose bytes are the same by either way. -/
structure ReadAlike (sha256 : Bytes → String) (maxTextFileSize : Nat) (mode : SnapshotMode)
    (path : String) (bytes : Bytes) : Prop where
  unpaired : hasCrlf false bytes = false
  whole : isInspected maxTextFileSize path bytes = true →
    0 ∈ bytes.take sampleSize ∨ validUtf8 (bytes.take sampleSize) = true
  named : isInspected maxTextFileSize path bytes = false →
    (0 ∈ bytes.take sampleSize ↔ classifyFileType path = "binary")
  hashed : isInspected maxTextFileSize path bytes = true → mode ≠ .fast → looksBinary bytes = false →
    13 ∈ bytes → Collide sha256 (bytes.map feed) bytes

section

variable {sha256 : Bytes → String} {maxTextFileSize : Nat} {mode : SnapshotMode}

theorem looksBinary_nul_iff {bytes : Bytes} :
    looksBinary bytes = decide (0 ∈ bytes.take sampleSize) ↔
      0 ∈ bytes.take sampleSize ∨ validUtf8 (bytes.take sampleSize) = true := by
  unfold looksBinary
  by_cases nul : 0 ∈ bytes.take sampleSize
  · simp [nul]
  · cases sample : bytes.take sampleSize with
    | nil => simp [show validUtf8 [] = true by decide +kernel]
    | cons first rest =>
      rw [sample] at nul
      simp [nul]

theorem map_feed_same_iff (bytes : Bytes) : bytes.map feed = bytes ↔ 13 ∉ bytes := by
  induction bytes with
  | nil => simp
  | cons byte rest ih =>
    have here : feed byte = byte ↔ byte ≠ 13 := by
      unfold feed
      constructor
      · intro same carriage
        rw [if_pos carriage, carriage] at same
        exact absurd same (by decide)
      · intro other
        rw [if_neg other]
    rw [List.map_cons, List.cons.injEq, List.mem_cons, not_or, here, ih]
    exact and_congr_left fun _ => ne_comm

theorem sha256_feed_iff (bytes : Bytes) :
    sha256 (bytes.map feed) = sha256 bytes ↔ (13 ∈ bytes → Collide sha256 (bytes.map feed) bytes) := by
  constructor
  · intro same carriage
    exact ⟨fun unchanged => (map_feed_same_iff bytes).mp unchanged carriage, same⟩
  · intro collides
    by_cases carriage : 13 ∈ bytes
    · exact (collides carriage).2
    · rw [(map_feed_same_iff bytes).mpr carriage]

theorem compared_iff (status path : String) (bytes : Bytes) :
    (historicalRecordOf sha256 maxTextFileSize mode path (universalNewlines false bytes)).compared =
        (recordOf sha256 maxTextFileSize mode status path bytes).compared ↔
      ReadAlike sha256 maxTextFileSize mode path bytes := by
  by_cases unpaired : hasCrlf false bytes = false
  · have nul : 0 ∈ (bytes.map feed).take sampleSize ↔ 0 ∈ bytes.take sampleSize := by
      rw [← List.map_take]
      exact zero_mem_map_feed _
    have parts : ReadAlike sha256 maxTextFileSize mode path bytes ↔
        (isInspected maxTextFileSize path bytes = true →
          0 ∈ bytes.take sampleSize ∨ validUtf8 (bytes.take sampleSize) = true) ∧
        (isInspected maxTextFileSize path bytes = false →
          (0 ∈ bytes.take sampleSize ↔ classifyFileType path = "binary")) ∧
        (isInspected maxTextFileSize path bytes = true → mode ≠ .fast → looksBinary bytes = false →
          sha256 (bytes.map feed) = sha256 bytes) := by
      constructor
      · intro alike
        exact ⟨alike.whole, alike.named, fun inspected slow text =>
          (sha256_feed_iff bytes).mpr (alike.hashed inspected slow text)⟩
      · rintro ⟨whole, named, hashed⟩
        exact ⟨unpaired, whole, named, fun inspected slow text =>
          (sha256_feed_iff bytes).mp (hashed inspected slow text)⟩
    rw [universalNewlines_map unpaired, parts]
    unfold FileRecord.compared historicalRecordOf recordOf isInspected
    simp only [Prod.mk.injEq, List.length_map, true_and, and_true]
    cases inspected : !isSensitivePath path && decide (bytes.length ≤ maxTextFileSize) with
    | false =>
      have skipped : ¬ (¬ isSensitivePath path = true ∧ bytes.length ≤ maxTextFileSize) := by
        rintro ⟨plain, small⟩
        simp [plain, small] at inspected
      have none : (if ¬ isSensitivePath path = true ∧ mode ≠ .fast ∧ bytes.length ≤ maxTextFileSize ∧
          ¬ decide (0 ∈ (bytes.map feed).take sampleSize) = true then some (sha256 (bytes.map feed))
          else Option.none) = Option.none := if_neg fun held => skipped ⟨held.1, held.2.2.1⟩
      rw [none]
      simp [nul, decide_eq_decide]
    | true =>
      rw [Bool.and_eq_true, Bool.not_eq_true', decide_eq_true_eq] at inspected
      obtain ⟨plain, small⟩ := inspected
      have text := @looksBinary_nul_iff bytes
      simp only [plain, small, decide_eq_decide.mpr nul]
      rw [← text]
      generalize looksBinary bytes = seen
      generalize decide (0 ∈ bytes.take sampleSize) = found
      cases seen <;> cases found <;> by_cases fast : mode = .fast <;> simp [fast]
  · constructor
    · intro same
      have sizes := (Prod.mk.inj (Prod.mk.inj same).2).1
      exact absurd (universalNewlines_length_iff.mp sizes) unpaired
    · intro alike
      exact absurd alike.unpaired unpaired

end

theorem mapM_agree_iff {α β γ δ E : Type} {read : α → Except E β} {other : α → Except E γ}
    {view : β → δ} {look : γ → δ} {inputs : List α} :
    (∃ first second, inputs.mapM read = .ok first ∧ inputs.mapM other = .ok second ∧
        first.map view = second.map look) ↔
      ∀ input ∈ inputs, ∃ left right, read input = .ok left ∧ other input = .ok right ∧
        view left = look right := by
  constructor
  · rintro ⟨first, second, one, two, same⟩
    have left := mapM_ok one
    have right := mapM_ok two
    clear one two
    induction left generalizing second with
    | nil => exact fun input member => absurd member List.not_mem_nil
    | cons here _ ih =>
      cases right with
      | cons there rest =>
        rw [List.map_cons, List.map_cons, List.cons.injEq] at same
        intro input member
        cases List.mem_cons.mp member with
        | inl head => exact ⟨_, _, head ▸ here, head ▸ there, same.1⟩
        | inr tail => exact ih _ same.2 rest input tail
  · intro each
    induction inputs with
    | nil => exact ⟨[], [], rfl, rfl, rfl⟩
    | cons input rest ih =>
      obtain ⟨left, right, here, there, same⟩ := each input List.mem_cons_self
      obtain ⟨first, second, one, two, later⟩ := ih fun other member =>
        each other (List.mem_cons_of_mem input member)
      refine ⟨left :: first, right :: second, ?_, ?_, ?_⟩
      · rw [List.mapM_cons, here, one]
        rfl
      · rw [List.mapM_cons, there, two]
        rfl
      · rw [List.map_cons, List.map_cons, same, later]

/-! ### The files of a clean working tree -/

namespace CleanCheckout

variable (clean : CleanCheckout)

theorem unchanged : clean.repository.checkout.diff clean.repository.files = [] ∧
    clean.repository.checkout.others clean.repository.files = [] := by
  have none := clean.unlisted
  rw [Checkout.listed, List.append_eq_nil_iff, List.append_eq_nil_iff] at none
  exact ⟨none.1.1, none.2⟩

theorem holds {path : String} {bytes : Bytes}
    (regular : clean.repository.checkout.tree.lookup path = some (some bytes)) :
    clean.repository.files.lookup path = some bytes := by
  have listing := clean.repository.checkout.diff_regular clean.repository.files path bytes regular
  rw [clean.unchanged.1] at listing
  by_contra different
  exact absurd (listing.mpr different) List.not_mem_nil

theorem mem_paths {path : String} :
    path ∈ clean.commit.paths ↔ (clean.repository.checkout.tree.lookup path).isSome = true := by
  rw [clean.paths.mem_iff, AList.lookup_isSome, AList.mem_keys]

theorem paths_nodup : clean.commit.paths.Nodup :=
  clean.paths.nodup_iff.mpr clean.repository.checkout.tree.keys_nodup

/-- A regular file that both ways read alike. -/
def Comparable (sha256 : Bytes → String) (maxTextFileSize : Nat) (mode : SnapshotMode) (path : String) :
    Prop :=
  ∃ bytes, clean.repository.checkout.tree.lookup path = some (some bytes) ∧ validUtf8 bytes = true ∧
    ReadAlike sha256 maxTextFileSize mode path bytes

variable {sha256 : Bytes → String} {maxTextFileSize : Nat} {mode : SnapshotMode}

theorem resolveRepoFile_normal {path : String} (member : path ∈ clean.commit.paths) :
    resolveRepoFile clean.repository path =
      match clean.repository.checkout.resolve path with
      | none => .error (.repository .unsafePath path)
      | some location =>
        match clean.repository.files.lookup location with
        | none => .error (.repository .repositoryNotFound path)
        | some bytes => .ok (location, bytes) := by
  unfold resolveRepoFile
  rw [clean.normal path member]
  rfl

theorem historicalFileRecord_normal {path : String} (member : path ∈ clean.commit.paths) :
    historicalFileRecord sha256 maxTextFileSize mode clean.commit path =
      match clean.commit.shown path with
      | none => .error (.repository .repositoryNotFound path)
      | some bytes => (retold bytes).map (historicalRecordOf sha256 maxTextFileSize mode path) := by
  unfold historicalFileRecord
  rw [clean.normal path member]
  rfl

theorem historicalFileRecord_regular {path : String} {bytes : Bytes} (member : path ∈ clean.commit.paths)
    (regular : clean.repository.checkout.tree.lookup path = some (some bytes)) :
    historicalFileRecord sha256 maxTextFileSize mode clean.commit path =
      if validUtf8 bytes = true then
        .ok (historicalRecordOf sha256 maxTextFileSize mode path (universalNewlines false bytes))
      else .error .decodeError := by
  rw [clean.historicalFileRecord_normal member, clean.shown path bytes regular]
  dsimp only [retold]
  split <;> rfl

theorem fileRecord_regular {path : String} {bytes : Bytes} (dirty : DirtySummary)
    (member : path ∈ clean.commit.paths)
    (regular : clean.repository.checkout.tree.lookup path = some (some bytes)) :
    fileRecord sha256 maxTextFileSize mode clean.repository dirty path =
      .ok (recordOf sha256 maxTextFileSize mode (gitStatusFor dirty path) path bytes) := by
  have found : resolveRepoFile clean.repository path = .ok (path, bytes) := by
    rw [clean.resolveRepoFile_normal member, clean.direct path bytes regular]
    dsimp only
    rw [clean.holds regular]
  unfold fileRecord
  rw [found]
  rfl

theorem fileRecord_irregular {path : String} {dirty : DirtySummary} {record : FileRecord}
    (member : path ∈ clean.commit.paths)
    (irregular : clean.repository.checkout.tree.lookup path = some none)
    (read : fileRecord sha256 maxTextFileSize mode clean.repository dirty path = .ok record) :
    record.path ≠ path := by
  obtain ⟨⟨location, bytes⟩, found, done⟩ := except_bind_ok read
  cases done
  intro same
  have here : location = path := same
  subst here
  rw [clean.resolveRepoFile_normal member] at found
  cases resolved : clean.repository.checkout.resolve location with
  | none =>
    rw [resolved] at found
    cases found
  | some target =>
    rw [resolved] at found
    dsimp only at found
    cases held : clean.repository.files.lookup target with
    | none =>
      rw [held] at found
      cases found
    | some content =>
      rw [held] at found
      cases found
      rw [clean.irregular location irregular] at held
      cases held

theorem historicalFileRecord_path {path : String} {record : FileRecord}
    (member : path ∈ clean.commit.paths)
    (read : historicalFileRecord sha256 maxTextFileSize mode clean.commit path = .ok record) :
    record.path = path := by
  rw [clean.historicalFileRecord_normal member] at read
  cases shown : clean.commit.shown path with
  | none =>
    rw [shown] at read
    cases read
  | some bytes =>
    rw [shown] at read
    dsimp only [retold] at read
    split at read
    · cases read
      rfl
    · cases read

theorem comparable_iff (dirty : DirtySummary) {path : String} (member : path ∈ clean.commit.paths) :
    (∃ left right, historicalFileRecord sha256 maxTextFileSize mode clean.commit path = .ok left ∧
        fileRecord sha256 maxTextFileSize mode clean.repository dirty path = .ok right ∧
        left.compared = right.compared) ↔
      clean.Comparable sha256 maxTextFileSize mode path := by
  cases entry : clean.repository.checkout.tree.lookup path with
  | none =>
    have tracked := clean.mem_paths.mp member
    rw [entry] at tracked
    cases tracked
  | some content =>
    cases content with
    | none =>
      constructor
      · rintro ⟨left, right, told, read, same⟩
        have apart := clean.fileRecord_irregular member entry read
        have named := clean.historicalFileRecord_path member told
        have paths : left.path = right.path := (Prod.mk.inj same).1
        exact absurd (paths.symm.trans named) apart
      · rintro ⟨bytes, regular, _⟩
        rw [entry] at regular
        cases regular
    | some bytes =>
      have read := @fileRecord_regular clean sha256 maxTextFileSize mode path bytes dirty member entry
      have told := @historicalFileRecord_regular clean sha256 maxTextFileSize mode path bytes member entry
      constructor
      · rintro ⟨left, right, first, second, same⟩
        rw [told] at first
        split at first
        · rename_i valid
          cases first
          rw [read] at second
          cases second
          exact ⟨bytes, entry, valid, (compared_iff _ path bytes).mp same⟩
        · cases first
      · rintro ⟨other, regular, valid, alike⟩
        rw [entry] at regular
        cases regular
        rw [if_pos valid] at told
        exact ⟨_, _, told, read, (compared_iff _ path bytes).mpr alike⟩

/-! ### The names of the files -/

/-- The names of the listed files come out of a listing as they are. -/
def NamesKept : Prop :=
  ∀ path ∈ clean.commit.paths, isListed (textMode path) = true → '\r' ∉ path.toList

theorem mem_listCommitFiles {name : String} :
    name ∈ listCommitFiles clean.commit ↔
      (∃ path ∈ clean.commit.paths, textMode path = name) ∧ isListed name = true := by
  unfold listCommitFiles
  rw [mem_sortedBy, List.mem_filter, List.mem_map]

theorem mem_listFiles {name : String} :
    name ∈ listFiles clean.repository ↔ name ∈ listCommitFiles clean.commit := by
  have tracked : ∀ path, path ∈ clean.repository.indexed ↔ path ∈ clean.commit.paths := by
    intro path
    rw [clean.indexed.mem_iff, clean.paths.mem_iff]
  rw [clean.mem_listCommitFiles]
  unfold listFiles
  rw [mem_sortedBy, List.mem_filter, List.mem_dedup, List.mem_map, clean.unchanged.2, List.append_nil]
  simp only [tracked]

theorem listFiles_nodup : (listFiles clean.repository).Nodup :=
  (List.perm_insertionSort _ _).nodup_iff.mpr ((List.nodup_dedup _).filter _)

/-- Two files of one name are listed twice for the commit, and once for the working tree. -/
theorem names_apart (lengths : (listCommitFiles clean.commit).length = (listFiles clean.repository).length)
    {path other : String} (member : path ∈ clean.commit.paths) (inside : other ∈ clean.commit.paths)
    (same : textMode path = textMode other) (shown : isListed (textMode path) = true) : path = other := by
  have within : listFiles clean.repository ⊆ listCommitFiles clean.commit :=
    fun _ listed => clean.mem_listFiles.mp listed
  have perm := (List.subperm_of_subset clean.listFiles_nodup within).perm_of_length_le (Nat.le_of_eq lengths)
  have once : ((clean.commit.paths.map textMode).filter isListed).Nodup :=
    (List.perm_insertionSort _ _).nodup_iff.mp (perm.nodup_iff.mp clean.listFiles_nodup)
  rw [List.filter_map] at once
  have first : path ∈ clean.commit.paths.filter (isListed ∘ textMode) :=
    List.mem_filter.mpr ⟨member, shown⟩
  have second : other ∈ clean.commit.paths.filter (isListed ∘ textMode) :=
    List.mem_filter.mpr ⟨inside, show isListed (textMode other) = true from same ▸ shown⟩
  exact List.inj_on_of_nodup_map once first second same

theorem namesKept_of_agree
    (agree : Agree (commitRecords sha256 maxTextFileSize mode clean.commit)
      (worktreeRecords sha256 maxTextFileSize mode clean.repository)) : clean.NamesKept := by
  obtain ⟨first, second, told, read, same⟩ := agree
  have lengths : (listCommitFiles clean.commit).length = (listFiles clean.repository).length := by
    rw [(mapM_ok told).length_eq, (mapM_ok read).length_eq]
    simpa using congrArg List.length same
  intro path member shown carriage
  have normal := validate_textMode (clean.normal path member)
  have listed : textMode path ∈ listCommitFiles clean.commit :=
    clean.mem_listCommitFiles.mpr ⟨⟨path, member, rfl⟩, shown⟩
  obtain ⟨record, _, done⟩ := forall₂_left (mapM_ok told) listed
  unfold historicalFileRecord at done
  rw [normal] at done
  have known : textMode path ∈ clean.commit.paths := by
    rw [clean.mem_paths]
    cases entry : clean.repository.checkout.tree.lookup (textMode path) with
    | some content => rfl
    | none =>
      have absent := clean.unshown _ entry
      change (match clean.commit.shown (textMode path) with
        | none => Except.error (RepositoryExc.repository .repositoryNotFound (textMode path))
        | some bytes => _) = _ at done
      rw [absent] at done
      cases done
  have plain := return_not_mem_lineFeeds false path.toList
  have again : textMode (textMode path) = textMode path := by
    rw [textMode_same_iff, textMode, String.toList_ofList]
    exact plain
  have one := clean.names_apart lengths member known again.symm shown
  rw [one, textMode, String.toList_ofList] at carriage
  exact plain carriage

theorem listings_same (kept : clean.NamesKept) :
    listFiles clean.repository = listCommitFiles clean.commit := by
  have once : ((clean.commit.paths.map textMode).filter isListed).Nodup := by
    rw [List.filter_map]
    apply List.Nodup.map_on _ (clean.paths_nodup.filter _)
    intro left one right two same
    obtain ⟨inLeft, shownLeft⟩ := List.mem_filter.mp one
    obtain ⟨inRight, shownRight⟩ := List.mem_filter.mp two
    have leftSame := textMode_same_iff.mpr (kept left inLeft shownLeft)
    have rightSame := textMode_same_iff.mpr (kept right inRight shownRight)
    rwa [leftSame, rightSame] at same
  have sorted := (List.perm_insertionSort (fun left right : String => id left ≤ id right)
    ((clean.commit.paths.map textMode).filter isListed)).nodup_iff.mpr once
  have perm : (listFiles clean.repository).Perm (listCommitFiles clean.commit) :=
    (List.perm_ext_iff_of_nodup clean.listFiles_nodup sorted).mpr fun _ => clean.mem_listFiles
  exact ordered_unique perm (fun _ _ _ _ same => same) (sortedBy_pairwise id _) (sortedBy_pairwise id _)

/-- The snapshots agree exactly when no listed name has a `\r` and every listed file is a regular
one that both ways read alike. -/
theorem snapshots_agree_iff (sha256 : Bytes → String) (maxTextFileSize : Nat) (mode : SnapshotMode)
    (clean : CleanCheckout) :
    Agree (commitRecords sha256 maxTextFileSize mode clean.commit)
        (worktreeRecords sha256 maxTextFileSize mode clean.repository) ↔
      ∀ path ∈ clean.commit.paths, isListed (textMode path) = true →
        '\r' ∉ path.toList ∧ clean.Comparable sha256 maxTextFileSize (inspectedMode mode) path := by
  have files (kept : clean.NamesKept) :
      Agree (commitRecords sha256 maxTextFileSize mode clean.commit)
          (worktreeRecords sha256 maxTextFileSize mode clean.repository) ↔
        ∀ path ∈ listCommitFiles clean.commit,
          clean.Comparable sha256 maxTextFileSize (inspectedMode mode) path := by
    unfold Agree commitRecords worktreeRecords
    rw [clean.listings_same kept, mapM_agree_iff]
    apply forall₂_congr
    intro name listed
    obtain ⟨⟨path, member, rfl⟩, shown⟩ := clean.mem_listCommitFiles.mp listed
    have same := textMode_same_iff.mpr (kept path member shown)
    rw [same]
    exact clean.comparable_iff _ member
  constructor
  · intro agree path member shown
    have kept := clean.namesKept_of_agree agree
    have same := textMode_same_iff.mpr (kept path member shown)
    have listed : path ∈ listCommitFiles clean.commit :=
      clean.mem_listCommitFiles.mpr ⟨⟨path, member, same⟩, same ▸ shown⟩
    exact ⟨kept path member shown, (files kept).mp agree path listed⟩
  · intro each
    have kept : clean.NamesKept := fun path member shown => (each path member shown).1
    rw [files kept]
    intro name listed
    obtain ⟨⟨path, member, rfl⟩, shown⟩ := clean.mem_listCommitFiles.mp listed
    rw [textMode_same_iff.mpr (kept path member shown)]
    exact (each path member shown).2

theorem lookup_singleton {β : Type} (key asked : String) (value : β) :
    (AList.singleton key value : Updates.Contents String β).lookup asked =
      if asked = key then some value else none := by
  by_cases same : asked = key
  · subst same
    rw [if_pos rfl]
    exact @List.dlookup_cons_eq String (fun _ => β) _ [] asked value
  · rw [if_neg same]
    exact @List.dlookup_cons_ne String (fun _ => β) _ [] asked ⟨key, value⟩ same

/-- A clean working tree with one file. -/
def ofFile (path : String) (bytes : Bytes) (normal : validateRelativePath path = .ok path) :
    CleanCheckout where
  repository :=
    { checkout := Checkout.plain "c0" (AList.singleton path (some bytes)) (fun _ => false)
      files := AList.singleton path bytes
      branch := some "main"
      indexed := [path]
      porcelain := [] }
  commit := ⟨[path], fun asked => if asked = path then some bytes else none⟩
  porcelain := rfl
  unlisted := by simp [Checkout.listed, Checkout.plain, lookup_singleton]
  indexed := .refl _
  paths := .refl _
  normal := by simpa using normal
  shown := by
    intro asked content entry
    by_cases same : asked = path
    · subst same
      simpa [Checkout.plain, lookup_singleton] using entry
    · simp [Checkout.plain, lookup_singleton, same] at entry
  unshown := by
    intro asked absent
    by_cases same : asked = path
    · subst same
      simp [Checkout.plain, lookup_singleton] at absent
    · exact if_neg same
  direct := fun _ _ _ => rfl
  irregular := by
    intro asked entry
    by_cases same : asked = path
    · subst same
      simp [Checkout.plain, lookup_singleton] at entry
    · simp [Checkout.plain, lookup_singleton, same] at entry

theorem notes_valid : validateRelativePath "notes.txt" = .ok "notes.txt" := by
  decide +kernel

/-- A text with the line ends of Windows, and one that is not UTF-8. -/
def crlfFile : CleanCheckout := ofFile "notes.txt" [97, 13, 10] notes_valid

def latinFile : CleanCheckout := ofFile "notes.txt" [99, 97, 102, 233] notes_valid

theorem windows_text_differs :
    ¬ Agree (commitRecords (fun _ => "") defaultMaxTextFileSize .standard crlfFile.commit)
        (worktreeRecords (fun _ => "") defaultMaxTextFileSize .standard crlfFile.repository) ∧
      commitRecords (fun _ => "") defaultMaxTextFileSize .standard latinFile.commit =
        .error .decodeError := by
  constructor
  · rintro ⟨first, second, told, read, same⟩
    have left : (commitRecords (fun _ => "") defaultMaxTextFileSize .standard crlfFile.commit).map
        (List.map FileRecord.compared) = .ok [("notes.txt", 2, some "", false, false)] := by
      decide +kernel
    have right : (worktreeRecords (fun _ => "") defaultMaxTextFileSize .standard crlfFile.repository).map
        (List.map FileRecord.compared) = .ok [("notes.txt", 3, some "", false, false)] := by
      decide +kernel
    rw [told] at left
    rw [read] at right
    have sizes := (Except.ok.inj left).symm.trans (same.trans (Except.ok.inj right))
    exact absurd sizes (by decide)
  · decide +kernel

end CleanCheckout

end Lucius.Worktree
