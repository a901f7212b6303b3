import Lucius.Runtime.Ollama

/-! The files that a list of compact edits makes: each edit replaces its old text at the one
place where the file, as the edits before it left it, holds that text.

A text is its UTF-8 bytes, and a place in it a number of bytes: a text that is not empty starts
with a byte that no character continues, so it is found only where a character starts. -/

namespace Lucius.CompactEdits

open Ollama Worktree

variable {old text : Text} {place : Nat} {edit : CompactEdit} {final : Files} {file made : EditedFile}
  {elements : List Json}

def OccursAt (old text : Text) (place : Nat) : Prop := place ≤ text.length ∧ old <+: text.drop place

structure UniquelyAt (old text : Text) (place : Nat) : Prop where
  occurs : OccursAt old text place
  only : ∀ other, OccursAt old text other → other = place

/-- The text occurs a second time before its first occurrence has ended. -/
def Overlapping (old text : Text) : Prop :=
  ∃ first second, OccursAt old text first ∧ OccursAt old text second ∧ first < second ∧
    second < first + old.length

def replacedAt (old new text : Text) (place : Nat) : Text :=
  text.take place ++ new ++ text.drop (place + old.length)

theorem occursAt_zero : OccursAt old text 0 ↔ old <+: text := by
  simp [OccursAt]

theorem occursAt_succ {rest : Text} {byte : UInt8} :
    OccursAt old (byte :: rest) (place + 1) ↔ OccursAt old rest place := by
  simp [OccursAt]

theorem countFrom_skip (old : Text) (skip : Nat) (text : Text) :
    countFrom old skip text = countFrom old 0 (text.drop skip) := by
  induction text generalizing skip with
  | nil => simp [countFrom]
  | cons byte rest ih =>
    cases skip with
    | zero => rfl
    | succ skip => rw [countFrom, ih, List.drop_succ_cons]

theorem countFrom_none (solid : old ≠ []) (none : countFrom old 0 text = 0) :
    ∀ place, ¬OccursAt old text place := by
  induction text with
  | nil =>
    intro place occurs
    have empty : old <+: [] := by simpa using occurs.2
    exact solid (List.prefix_nil.mp empty)
  | cons byte rest ih =>
    rw [countFrom] at none
    split at none
    · omega
    · next differs =>
        intro place occurs
        cases place with
        | zero => exact differs (List.isPrefixOf_iff_prefix.mpr (occursAt_zero.mp occurs))
        | succ place => exact ih none place (occursAt_succ.mp occurs)

theorem countFrom_one (solid : old ≠ []) (one : countFrom old 0 text = 1)
    (new : Text) : ∃ place, OccursAt old text place ∧
      (∀ other, OccursAt old text other → place ≤ other ∧ other < place + old.length) ∧
      replaceFirst old new text = replacedAt old new text place := by
  induction text with
  | nil => cases one
  | cons byte rest ih =>
    rw [countFrom] at one
    rw [replaceFirst]
    split at one
    · next found =>
        rw [if_pos found]
        refine ⟨0, occursAt_zero.mpr (List.isPrefixOf_iff_prefix.mp found), ?_, by simp [replacedAt]⟩
        have later : countFrom old 0 (rest.drop (old.length - 1)) = 0 := by
          rw [← countFrom_skip]
          omega
        intro other occurs
        refine ⟨Nat.zero_le _, ?_⟩
        by_contra far
        have positive : 0 < old.length := List.length_pos_iff.mpr solid
        have after : OccursAt old (rest.drop (old.length - 1)) (other - old.length) := by
          have shorter := occurs.1
          have starts := occurs.2
          obtain ⟨place, same⟩ : ∃ place, other = place + 1 := ⟨other - 1, by omega⟩
          subst same
          rw [List.drop_succ_cons] at starts
          refine ⟨by simp at shorter ⊢; omega, ?_⟩
          rw [List.drop_drop]
          have sum : old.length - 1 + (place + 1 - old.length) = place := by omega
          rwa [sum]
        exact countFrom_none solid later _ after
    · next differs =>
        rw [if_neg differs]
        obtain ⟨place, occurs, near, same⟩ := ih one
        refine ⟨place + 1, occursAt_succ.mpr occurs, ?_, ?_⟩
        · intro other found
          cases other with
          | zero =>
            exact absurd (List.isPrefixOf_iff_prefix.mpr (occursAt_zero.mp found)) differs
          | succ other =>
            have between := near other (occursAt_succ.mp found)
            omega
        · rw [same]
          simp [replacedAt, Nat.add_right_comm]

theorem uniquely_of_apart (solid : old ≠ []) (one : countFrom old 0 text = 1)
    (apart : ¬Overlapping old text) (new : Text) :
    ∃ place, UniquelyAt old text place ∧ replaceFirst old new text = replacedAt old new text place := by
  obtain ⟨place, occurs, near, same⟩ := countFrom_one solid one new
  refine ⟨place, ⟨occurs, ?_⟩, same⟩
  intro other found
  have between := near other found
  by_contra differs
  exact apart ⟨place, other, occurs, found, by omega, between.2⟩

theorem apart_of_uniquely (unique : UniquelyAt old text place) :
    ¬Overlapping old text := by
  rintro ⟨first, second, one, two, before, -⟩
  have same := (unique.only first one).trans (unique.only second two).symm
  omega

theorem replaceFirst_uniquely (solid : old ≠ [])
    (unique : UniquelyAt old text place) (new : Text) :
    replaceFirst old new text = replacedAt old new text place := by
  induction text generalizing place with
  | nil =>
    have empty : old <+: [] := by simpa using unique.occurs.2
    exact absurd (List.prefix_nil.mp empty) solid
  | cons byte rest ih =>
    rw [replaceFirst]
    split
    · next found =>
        have start := unique.only 0 (occursAt_zero.mpr (List.isPrefixOf_iff_prefix.mp found))
        subst start
        simp [replacedAt]
    · next differs =>
        cases place with
        | zero =>
          exact absurd (List.isPrefixOf_iff_prefix.mpr (occursAt_zero.mp unique.occurs)) differs
        | succ place =>
          have later : UniquelyAt old rest place := {
            occurs := occursAt_succ.mp unique.occurs
            only := fun other found =>
              Nat.succ.inj (unique.only (other + 1) (occursAt_succ.mpr found)) }
          rw [ih later]
          simp [replacedAt, Nat.add_right_comm]

/-! Edits in order -/

/-- One edit: it makes a file where there is none, or replaces what occurs once in one. -/
inductive Edits (contents : Files) (edit : CompactEdit) : Files → Prop where
  | creates (absent : contents.lookup edit.path = none) (empty : edit.old = []) :
      Edits contents edit (contents.insert edit.path edit.new)
  | replaces {text : Text} {place : Nat} (present : contents.lookup edit.path = some text)
      (solid : edit.old ≠ []) (unique : UniquelyAt edit.old text place) :
      Edits contents edit
        (contents.insert edit.path (replacedAt edit.old edit.new text place))

inductive Sequential : Files → List CompactEdit → Files → Prop where
  | nil (contents : Files) : Sequential contents [] contents
  | cons {contents between final : Files} {edit : CompactEdit} {rest : List CompactEdit}
      (first : Edits contents edit between) (later : Sequential between rest final) :
      Sequential contents (edit :: rest) final

/-- An edit as it is listed, its path in order. -/
def Reads (element : Json) (edit : CompactEdit) : Prop :=
  ∃ parsed, parseEdit element = .ok parsed ∧
    validateRelativeRepoPath (.str parsed.path) = .ok edit.path ∧
    edit.old = parsed.old ∧ edit.new = parsed.new

/-- What the first occurrence gives way to, or the new file. -/
def rewritten (contents : Files) (edit : CompactEdit) : Files :=
  contents.insert edit.path (match contents.lookup edit.path with
    | none => edit.new
    | some text => replaceFirst edit.old edit.new text)

/-- No old text overlaps itself in its file, as the edits before it leave the file. -/
def AnchorsApart : Files → List CompactEdit → Prop
  | _, [] => True
  | contents, edit :: rest =>
    (∀ text, contents.lookup edit.path = some text → ¬Overlapping edit.old text) ∧
      AnchorsApart (rewritten contents edit) rest

/-- The edits in order, each with its old text counted once. -/
inductive Counted : Files → List CompactEdit → Files → Prop where
  | nil (contents : Files) : Counted contents [] contents
  | creates {contents final : Files} {edit : CompactEdit} {rest : List CompactEdit}
      (absent : contents.lookup edit.path = none) (empty : edit.old = [])
      (later : Counted (rewritten contents edit) rest final) :
      Counted contents (edit :: rest) final
  | replaces {contents final : Files} {edit : CompactEdit} {rest : List CompactEdit} {text : Text}
      (present : contents.lookup edit.path = some text) (solid : edit.old ≠ [])
      (one : countFrom edit.old 0 text = 1) (later : Counted (rewritten contents edit) rest final) :
      Counted contents (edit :: rest) final

theorem rewritten_creates {contents : Files}
    (absent : contents.lookup edit.path = none) :
    rewritten contents edit = contents.insert edit.path edit.new := by
  rw [rewritten, absent]

theorem rewritten_replaces {contents : Files}
    (present : contents.lookup edit.path = some text) :
    rewritten contents edit =
      contents.insert edit.path (replaceFirst edit.old edit.new text) := by
  rw [rewritten, present]

theorem edits_rewritten {contents between : Files}
    (made : Edits contents edit between) : between = rewritten contents edit := by
  cases made with
  | creates absent empty => exact (rewritten_creates absent).symm
  | replaces present solid unique =>
    rw [rewritten_replaces present, replaceFirst_uniquely solid unique]

theorem sequential_of_apart {contents : Files} {edits : List CompactEdit}
    (counted : Counted contents edits final) (apart : AnchorsApart contents edits) :
    Sequential contents edits final := by
  induction counted with
  | nil contents => exact .nil contents
  | creates absent empty later ih =>
    have first := Edits.creates absent empty
    rw [← rewritten_creates absent] at first
    exact .cons first (ih apart.2)
  | @replaces contents final edit rest text present solid one later ih =>
    obtain ⟨place, unique, same⟩ := uniquely_of_apart solid one (apart.1 text present) edit.new
    have first := Edits.replaces present solid unique
    rw [← same, ← rewritten_replaces present] at first
    exact .cons first (ih apart.2)

theorem apart_of_sequential {contents : Files} {edits : List CompactEdit}
    (made : Sequential contents edits final) : AnchorsApart contents edits := by
  induction made with
  | nil contents => trivial
  | @cons contents between final edit rest first later ih =>
    rw [edits_rewritten first] at ih
    refine ⟨?_, ih⟩
    intro text present
    cases first with
    | creates absent empty =>
      rw [absent] at present
      cases present
    | replaces found solid unique =>
      rw [found] at present
      cases present
      exact apart_of_uniquely unique

/-! The list that is materialized -/

variable {env : ProviderEnvironment} {files contents : Files} {allowed : List String}
  {edited after : List EditedFile} {element : Json}

/-- The files that are being edited, and what they hold. -/
structure Tracks (env : ProviderEnvironment) (files : Files) (allowed : List String)
    (edited : List EditedFile) (contents : Files) : Prop where
  distinct : (edited.map EditedFile.path).Nodup
  bounded : edited.length ≤ env.settings.maxFiles
  authorized : ∀ file ∈ edited, file.path ∈ allowed
  opened : ∀ file ∈ edited, file.existed = true ∧ contents.lookup file.path = some file.working ∧
    file.original = (files.lookup file.path).getD []
  untouched : ∀ path, path ∉ edited.map EditedFile.path → contents.lookup path = files.lookup path

theorem mapError_ok {E F α : Type} {convert : E → F} {outcome : Except E α} {value : α}
    (done : outcome.mapError convert = .ok value) : outcome = .ok value := by
  cases outcome with
  | error raised => cases done
  | ok found =>
    cases done
    rfl

theorem editFile_ok (done : editFile file edit = .ok made) :
    (file.existed = false ∧ edit.old = [] ∧ made = { file with working := edit.new, existed := true }) ∨
    (file.existed = true ∧ edit.old ≠ [] ∧ countFrom edit.old 0 file.working = 1 ∧
      made = { file with working := replaceFirst edit.old edit.new file.working }) := by
  unfold editFile at done
  split at done
  · next fresh =>
      split at done
      · cases done
      · next empty =>
          cases done
          exact .inl ⟨by simpa using fresh, by simpa using empty, rfl⟩
  · next existing =>
      split at done
      · cases done
      · next solid =>
          split at done
          · cases done
          · split at done
            · cases done
            · next one =>
                cases done
                exact .inr ⟨by simpa using existing, solid, by simpa using one, rfl⟩

theorem mutationTarget_ok {path : String} {found : Option Bytes}
    (done : mutationTarget env files path = .ok found) : found = files.lookup path := by
  unfold mutationTarget at done
  split at done
  · cases done
  · split at done
    · cases done
    · split at done
      · next present =>
          split at done
          · cases done
          · cases done
            exact present.symm
      · next absent =>
          split at done
          · cases done
          · cases done
            exact absent.symm

theorem openEdited_ok {path : String}
    (done : openEdited env files edited path = .ok file) :
    edited.length < env.settings.maxFiles ∧ file.path = path ∧
      file.working = (files.lookup path).getD [] ∧ file.original = (files.lookup path).getD [] ∧
      file.existed = (files.lookup path).isSome := by
  unfold openEdited at done
  split at done
  · cases done
  · next room =>
      obtain ⟨found, read, done⟩ := except_bind_ok done
      have same := mutationTarget_ok read
      subst same
      refine ⟨by omega, ?_⟩
      cases present : files.lookup path with
      | none =>
        rw [present] at done
        cases done
        exact ⟨rfl, rfl, rfl, rfl⟩
      | some bytes =>
        rw [present] at done
        obtain ⟨content, decoded, done⟩ := except_bind_ok done
        unfold decodeTarget at decoded
        split at decoded
        · cases decoded
          cases done
          exact ⟨rfl, rfl, rfl, rfl⟩
        · cases decoded

/-- What the code asks of the text that an edit finds. -/
def Found (contents : Files) (edit : CompactEdit) : Prop :=
  (contents.lookup edit.path = none ∧ edit.old = []) ∨
    ∃ text, contents.lookup edit.path = some text ∧ edit.old ≠ [] ∧ countFrom edit.old 0 text = 1

theorem counted_cons {rest : List CompactEdit}
    (found : Found contents edit) (later : Counted (rewritten contents edit) rest final) :
    Counted contents (edit :: rest) final := by
  rcases found with ⟨absent, empty⟩ | ⟨text, present, solid, one⟩
  · exact .creates absent empty later
  · exact .replaces present solid one later

theorem putEdited_paths (edited : List EditedFile) (file : EditedFile) :
    (putEdited edited file).map EditedFile.path = edited.map EditedFile.path := by
  rw [putEdited, List.map_map]
  apply List.map_congr_left
  intro other member
  by_cases same : other.path = file.path
  · simp [same]
  · simp [same]

theorem mem_putEdited {other : EditedFile} (member : other ∈ putEdited edited file) :
    other = file ∨ (other ∈ edited ∧ other.path ≠ file.path) := by
  obtain ⟨before, inside, same⟩ := List.mem_map.mp member
  split at same
  · exact .inl same.symm
  · next differs =>
      subst same
      exact .inr ⟨inside, differs⟩

theorem tracks_put (tracks : Tracks env files allowed edited contents) (member : file ∈ edited)
    (samePath : file.path = edit.path) (done : editFile file edit = .ok made) :
    Found contents edit ∧ Tracks env files allowed (putEdited edited made) (rewritten contents edit) := by
  obtain ⟨path, old, new⟩ := edit
  subst samePath
  have ⟨existed, holds, original⟩ := tracks.opened file member
  rcases editFile_ok done with ⟨fresh, _, _⟩ | ⟨_, solid, one, same⟩
  · rw [existed] at fresh
    cases fresh
  subst same
  refine ⟨.inr ⟨file.working, holds, solid, one⟩, ?_⟩
  rw [rewritten_replaces holds]
  exact {
    distinct := by rw [putEdited_paths]; exact tracks.distinct
    bounded := by simpa [putEdited] using tracks.bounded
    authorized := by
      intro other present
      rcases mem_putEdited present with same | ⟨inside, _⟩
      · rw [same]
        exact tracks.authorized file member
      · exact tracks.authorized other inside
    opened := by
      intro other present
      rcases mem_putEdited present with same | ⟨inside, differs⟩
      · rw [same]
        exact ⟨existed, AList.lookup_insert _, original⟩
      · have kept := tracks.opened other inside
        refine ⟨kept.1, ?_, kept.2.2⟩
        rw [AList.lookup_insert_ne differs]
        exact kept.2.1
    untouched := by
      intro path outside
      rw [putEdited_paths] at outside
      have apart : path ≠ file.path := fun same => outside (same ▸ List.mem_map_of_mem member)
      rw [AList.lookup_insert_ne apart]
      exact tracks.untouched path outside }

theorem tracks_append (tracks : Tracks env files allowed edited contents)
    (fresh : edit.path ∉ edited.map EditedFile.path) (authorized : edit.path ∈ allowed)
    (opened : openEdited env files edited edit.path = .ok file) (done : editFile file edit = .ok made) :
    Found contents edit ∧ Tracks env files allowed (edited ++ [made]) (rewritten contents edit) := by
  have ⟨room, samePath, working, original, existed⟩ := openEdited_ok opened
  have unopened := tracks.untouched edit.path fresh
  have entry : Found contents edit ∧ made.existed = true ∧ made.path = edit.path ∧
      made.original = file.original ∧ (rewritten contents edit).lookup edit.path = some made.working := by
    rcases editFile_ok done with ⟨absent, empty, same⟩ | ⟨present, solid, one, same⟩
    · subst same
      rw [existed] at absent
      have none := unopened.trans (Option.isSome_eq_false_iff.mp absent |> Option.isNone_iff_eq_none.mp)
      refine ⟨.inl ⟨none, empty⟩, rfl, samePath, rfl, ?_⟩
      rw [rewritten_creates none, AList.lookup_insert]
    · subst same
      rw [existed] at present
      obtain ⟨text, found⟩ := Option.isSome_iff_exists.mp present
      rw [found, Option.getD_some] at working
      have holds := unopened.trans found
      rw [working] at one
      refine ⟨.inr ⟨text, holds, solid, one⟩, by rw [existed]; exact present, samePath, rfl, ?_⟩
      rw [rewritten_replaces holds, AList.lookup_insert, working]
  obtain ⟨found, exists_, path, kept, holds⟩ := entry
  refine ⟨found, ?_⟩
  exact {
    distinct := by
      rw [List.map_append, List.map_singleton, path]
      exact List.Nodup.append tracks.distinct (List.nodup_singleton _) (by simpa using fresh)
    bounded := by
      rw [List.length_append, List.length_singleton]
      exact room
    authorized := by
      intro other present
      rcases List.mem_append.mp present with inside | last
      · exact tracks.authorized other inside
      · rw [List.mem_singleton.mp last, path]
        exact authorized
    opened := by
      intro other present
      rcases List.mem_append.mp present with inside | last
      · have before := tracks.opened other inside
        have apart : other.path ≠ edit.path := by
          intro same
          exact fresh (same ▸ List.mem_map_of_mem inside)
        refine ⟨before.1, ?_, before.2.2⟩
        rw [rewritten, AList.lookup_insert_ne apart]
        exact before.2.1
      · rw [List.mem_singleton.mp last, path]
        exact ⟨exists_, holds, kept.trans original⟩
    untouched := by
      intro other outside
      rw [List.map_append, List.mem_append, not_or, List.map_singleton, List.mem_singleton, path] at outside
      rw [rewritten, AList.lookup_insert_ne outside.2]
      exact tracks.untouched other outside.1 }

theorem applyCompactEdit_tracks (tracks : Tracks env files allowed edited contents)
    (done : applyCompactEdit env files allowed edited element = .ok after) :
    ∃ edit, Reads element edit ∧ Found contents edit ∧
      Tracks env files allowed after (rewritten contents edit) := by
  unfold applyCompactEdit at done
  obtain ⟨parsed, read, done⟩ := except_bind_ok done
  obtain ⟨path, valid, done⟩ := except_bind_ok done
  let edit : CompactEdit := { parsed with path := path }
  have reads : Reads element edit := ⟨parsed, read, mapError_ok valid, rfl, rfl⟩
  have sameEdit (file : EditedFile) : editFile file parsed = editFile file edit := rfl
  split at done
  · cases done
  · next inside =>
      have authorized : edit.path ∈ allowed := by simpa using inside
      refine ⟨edit, reads, ?_⟩
      split at done
      · next file found =>
          obtain ⟨made, changed, done⟩ := except_bind_ok done
          cases done
          have chosen := List.find?_some (p := fun other : EditedFile => decide (other.path = path)) found
          have samePath : file.path = edit.path := of_decide_eq_true chosen
          exact tracks_put tracks (List.mem_of_find?_eq_some found) samePath (sameEdit file ▸ changed)
      · next none =>
          obtain ⟨file, opened, done⟩ := except_bind_ok done
          obtain ⟨made, changed, done⟩ := except_bind_ok done
          cases done
          have fresh : edit.path ∉ edited.map EditedFile.path := by
            intro member
            obtain ⟨other, present, same⟩ := List.mem_map.mp member
            have missed := List.find?_eq_none.mp none other present
            exact missed (decide_eq_true same)
          exact tracks_append tracks fresh authorized opened (sameEdit file ▸ changed)

theorem foldlM_tracks (tracks : Tracks env files allowed edited contents)
    (done : elements.foldlM (applyCompactEdit env files allowed) edited = .ok after) :
    ∃ made final, List.Forall₂ Reads elements made ∧ Counted contents made final ∧
      Tracks env files allowed after final := by
  induction elements generalizing edited contents with
  | nil =>
    cases done
    exact ⟨[], contents, .nil, .nil contents, tracks⟩
  | cons element rest ih =>
    rw [List.foldlM_cons] at done
    obtain ⟨between, first, later⟩ := except_bind_ok done
    obtain ⟨edit, reads, found, kept⟩ := applyCompactEdit_tracks tracks first
    obtain ⟨made, final, listed, counted, ends⟩ := ih kept later
    exact ⟨edit :: made, final, .cons reads listed, counted_cons found counted, ends⟩

/-- What is returned: the files that the edits, one after the other and each at the one place
of its old text, leave with other content than they had. -/
structure Materialized (env : ProviderEnvironment) (files : Files) (elements : List Json)
    (allowed : List String) (returned : List FileItem) (made : List CompactEdit) (final : Files) :
    Prop where
  reads : List.Forall₂ Reads elements made
  sequential : Sequential files made final
  changed : ∀ item, item ∈ returned ↔ ∃ path text, item = .item (.str path) (some text) ∧
    final.lookup path = some text ∧ text ≠ (files.lookup path).getD []
  authorized : ∀ path content, .item (.str path) content ∈ returned → path ∈ allowed
  distinct : returned.Nodup
  bounded : returned.length ≤ env.settings.maxFiles

/-- What the materialization promises of the files it returns. -/
def EditsHold (env : ProviderEnvironment) (files : Files) (edits : Json) (allowed : List String) : Prop :=
  ∀ returned, materializeCompactEdits env files edits allowed = .ok returned →
    ∃ elements made final, edits = .arr elements ∧
      Materialized env files elements allowed returned made final

/-- In a list that is not refused, no old text overlaps itself in its file at its turn. -/
def NoneOverlaps (env : ProviderEnvironment) (files : Files) (edits : Json) (allowed : List String) :
    Prop :=
  ∀ returned, materializeCompactEdits env files edits allowed = .ok returned →
    ∀ elements made, edits = .arr elements → List.Forall₂ Reads elements made →
      AnchorsApart files made

theorem reads_unique {first second : List CompactEdit}
    (one : List.Forall₂ Reads elements first) (two : List.Forall₂ Reads elements second) :
    first = second := by
  induction one generalizing second with
  | nil =>
    cases two
    rfl
  | @cons element edit elements edits head tail ih =>
    cases two with
    | @cons _ other _ others otherHead otherTail =>
      obtain ⟨parsed, read, valid, old, new⟩ := head
      obtain ⟨again, readAgain, validAgain, oldAgain, newAgain⟩ := otherHead
      rw [read] at readAgain
      cases readAgain
      rw [valid] at validAgain
      have path := Except.ok.inj validAgain
      have same : edit = other := by
        cases edit
        cases other
        simp_all
      rw [same, ih otherTail]

def EditedFile.item (file : EditedFile) : FileItem := .item (.str file.path) (some file.working)

theorem materialize_ok {edits : Json} {returned : List FileItem}
    (done : materializeCompactEdits env files edits allowed = .ok returned) :
    ∃ elements made final, edits = .arr elements ∧ List.Forall₂ Reads elements made ∧
      Counted files made final ∧ ∃ edited, Tracks env files allowed edited final ∧
        returned = (edited.filter (fun file => decide (file.working ≠ file.original))).map
          EditedFile.item := by
  unfold materializeCompactEdits at done
  split at done
  · next first rest =>
      split at done
      · cases done
      · split at done
        · cases done
        · obtain ⟨edited, applied, done⟩ := except_bind_ok done
          have start : Tracks env files allowed [] files := {
            distinct := List.nodup_nil
            bounded := Nat.zero_le _
            authorized := fun _ member => by cases member
            opened := fun _ member => by cases member
            untouched := fun _ _ => rfl }
          obtain ⟨made, final, reads, counted, tracks⟩ := foldlM_tracks start applied
          refine ⟨first :: rest, made, final, rfl, reads, counted, edited, tracks, ?_⟩
          dsimp only at done
          split at done
          · cases done
          · cases done
            rfl
  · cases done

theorem materialized_of_sequential {made : List CompactEdit}
    (reads : List.Forall₂ Reads elements made) (sequential : Sequential files made final)
    (tracks : Tracks env files allowed edited final) :
    Materialized env files elements allowed
      ((edited.filter (fun file => decide (file.working ≠ file.original))).map EditedFile.item)
      made final where
  reads := reads
  sequential := sequential
  changed := by
    intro item
    constructor
    · intro member
      obtain ⟨file, kept, same⟩ := List.mem_map.mp member
      have ⟨inside, differs⟩ := List.mem_filter.mp kept
      have ⟨_, holds, original⟩ := tracks.opened file inside
      refine ⟨file.path, file.working, same.symm, holds, ?_⟩
      rw [← original]
      exact of_decide_eq_true differs
    · rintro ⟨path, text, same, holds, differs⟩
      have present : path ∈ edited.map EditedFile.path := by
        by_contra outside
        rw [← tracks.untouched path outside, holds] at differs
        exact differs rfl
      obtain ⟨file, inside, named⟩ := List.mem_map.mp present
      have ⟨_, working, original⟩ := tracks.opened file inside
      rw [named, holds] at working
      have sameText := Option.some.inj working
      refine List.mem_map.mpr ⟨file, List.mem_filter.mpr ⟨inside, decide_eq_true ?_⟩, ?_⟩
      · rw [original, named, ← sameText]
        exact differs
      · rw [same, EditedFile.item, named, sameText]
  authorized := by
    intro path content member
    obtain ⟨file, kept, same⟩ := List.mem_map.mp member
    have inside := (List.mem_filter.mp kept).1
    cases same
    exact tracks.authorized file inside
  distinct := by
    have paths : (edited.filter (fun file => decide (file.working ≠ file.original))).Pairwise
        (fun left right => left.path ≠ right.path) :=
      (List.pairwise_map.mp tracks.distinct).filter _
    apply List.pairwise_map.mpr
    apply paths.imp
    intro left right apart same
    cases left
    cases right
    injection same with path _
    injection path with path
    exact apart path
  bounded := by
    rw [List.length_map]
    exact (List.length_filter_le _ _).trans tracks.bounded

/-- The files are what the edits make in order, each at the only place of its old text, exactly
where no old text of an accepted list overlaps itself: the count passes over such a text. -/
theorem edits_hold_iff (env : ProviderEnvironment) (files : Files) (edits : Json)
    (allowed : List String) :
    EditsHold env files edits allowed ↔ NoneOverlaps env files edits allowed := by
  constructor
  · intro held returned done elements made listed reads
    obtain ⟨others, edited, final, same, materialized⟩ := held returned done
    rw [listed] at same
    cases same
    rw [reads_unique reads materialized.reads]
    exact apart_of_sequential materialized.sequential
  · intro apart returned done
    obtain ⟨elements, made, final, listed, reads, counted, edited, tracks, same⟩ := materialize_ok done
    have sequential := sequential_of_apart counted (apart returned done elements made listed reads)
    rw [same]
    exact ⟨elements, made, final, listed, materialized_of_sequential reads sequential tracks⟩

def dashedTree : Updates.Contents String (Option Bytes) :=
  (∅ : Updates.Contents String (Option Bytes)).insert "a.txt" (some [45, 45, 45])

/-- A file of three dashes. -/
def dashed : Files := (∅ : Files).insert "a.txt" [45, 45, 45]

def plainProvider : ProviderEnvironment where
  host := .posix
  settings := {}
  workspace := "/tmp/workspace"
  workspaceIsDirectory := true
  insideAllowedRoots := true
  checkout := .plain "sha" dashedTree (fun _ => false)
  directories := fun _ => false
  commands := ⟨fun _ => false, fun _ _ => ([], .osError)⟩
  writes := ⟨fun _ => false, fun _ => none, fun _ => false, fun _ => none, fun _ => false⟩
  fault := fun _ => none
  resetFault := none
  cleanFault := none
  response := .ok []
  jsonLoads := fun _ => none
  elapsedMs := 0
  resultFault := none
  describe := fun _ => ""

def twoDashes : CompactEdit := ⟨"a.txt", [45, 45], [43]⟩

def twoDashesElement : Json :=
  .obj [("path", .str "a.txt"), ("old", .str "--"), ("new", .str "+")]

theorem twoDashes_read : Reads twoDashesElement twoDashes :=
  ⟨twoDashes, rfl, by decide +kernel, rfl, rfl⟩

/-- Two dashes stand at two places of three dashes, and are counted once. -/
theorem ambiguous_anchor : ¬EditsHold plainProvider dashed (.arr [twoDashesElement]) ["a.txt"] := by
  intro held
  have accepted : (materializeCompactEdits plainProvider dashed (.arr [twoDashesElement])
      ["a.txt"]).toOption.isSome = true := by
    decide +kernel
  cases returned : materializeCompactEdits plainProvider dashed (.arr [twoDashesElement]) ["a.txt"] with
  | error raised => rw [returned] at accepted; cases accepted
  | ok items =>
    obtain ⟨elements, made, final, same, materialized⟩ := held items returned
    cases same
    have sequential := materialized.sequential
    rw [← reads_unique (.cons twoDashes_read .nil) materialized.reads] at sequential
    have apart := (apart_of_sequential sequential).1 [45, 45, 45] (by decide +kernel)
    have first : OccursAt [45, 45] [45, 45, 45] 0 := ⟨by decide, by decide⟩
    have second : OccursAt [45, 45] [45, 45, 45] 1 := ⟨by decide, by decide⟩
    exact apart ⟨0, 1, first, second, by decide, by decide⟩

end Lucius.CompactEdits
