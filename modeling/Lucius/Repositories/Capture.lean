import Lucius.Repositories.Restoration

/-! What the capture of files and the validation of what was captured give.

A validated path has the form its parts give it, so validating it once more gives
it back. -/

namespace Lucius.Worktree

/-- The bytes a path leads to. -/
def contentAt (checkout : Checkout) (files : Files) (path : String) : Option Bytes :=
  (checkout.resolve path).bind files.lookup

theorem not_mem_splitOn {separator : Char} {text part : List Char}
    (member : part ∈ text.splitOn separator) : separator ∉ part := by
  induction text generalizing part with
  | nil =>
    rw [List.splitOn_nil, List.mem_singleton] at member
    rw [member]
    exact List.not_mem_nil
  | cons char rest ih =>
    rw [List.splitOn_cons_eq_if_modifyHead] at member
    split at member
    · rcases List.mem_cons.mp member with empty | later
      · rw [empty]
        exact List.not_mem_nil
      · exact ih later
    · rename_i other
      cases parts : rest.splitOn separator with
      | nil => exact absurd parts (List.splitOn_ne_nil separator rest)
      | cons first others =>
        rw [parts, List.modifyHead_cons] at member
        rw [parts] at ih
        rcases List.mem_cons.mp member with extended | later
        · rw [extended, List.mem_cons, not_or]
          refine ⟨?_, ih List.mem_cons_self⟩
          intro same
          exact other (by rw [same]; exact beq_self_eq_true char)
        · exact ih (List.mem_cons_of_mem _ later)

theorem mem_pathParts {path : String} {part : List Char} (member : part ∈ pathParts path) :
    '/' ∉ part ∧ part ≠ [] ∧ part ≠ ['.'] := by
  obtain ⟨split, kept⟩ := List.mem_filter.mp member
  rw [Bool.and_eq_true, Bool.not_eq_true', decide_eq_true_eq] at kept
  refine ⟨not_mem_splitOn split, ?_, kept.2⟩
  intro empty
  rw [empty] at kept
  exact absurd kept.1 (by decide)

theorem pathParts_empty {path : String} (empty : path.toList = []) : pathParts path = [] := by
  unfold pathParts
  rw [empty]
  decide

theorem pathParts_asPosix (path : String) : pathParts (asPosix (pathParts path)) = pathParts path := by
  by_cases none : pathParts path = []
  · rw [none]
    decide
  · have joined : asPosix (pathParts path) =
        String.ofList (['/'].intercalate (pathParts path)) := by
      rw [asPosix, if_neg (by rwa [List.isEmpty_iff])]
      rfl
    have split : (['/'].intercalate (pathParts path)).splitOn '/' = pathParts path :=
      List.splitOn_intercalate '/' (fun _ member => (mem_pathParts member).1) none
    have kept : (pathParts path).filter (fun part => !part.isEmpty && decide (part ≠ ['.'])) =
        pathParts path := by
      rw [List.filter_eq_self]
      intro part member
      have known := mem_pathParts member
      simp [known.2.1, known.2.2]
    calc pathParts (asPosix (pathParts path))
        = (((['/'].intercalate (pathParts path)).splitOn '/').filter
            (fun part => !part.isEmpty && decide (part ≠ ['.']))) := by
          rw [joined]
          simp only [pathParts, String.toList_ofList]
      _ = pathParts path := by rw [split, kept]

theorem validateRelativeRepoPath_ok {path validated : String}
    (done : validateRelativeRepoPath (.str path) = .ok validated) :
    validated = asPosix (pathParts path) := by
  simp only [validateRelativeRepoPath] at done
  split at done
  · cases done
  · split at done
    · cases done
    · cases done
      rfl

theorem validateRelativeRepoPath_again {path validated again : String}
    (first : validateRelativeRepoPath (.str path) = .ok validated)
    (second : validateRelativeRepoPath (.str validated) = .ok again) : again = validated := by
  rw [validateRelativeRepoPath_ok second, validateRelativeRepoPath_ok first, pathParts_asPosix]

/-- A captured file is the text of the bytes its path leads to. -/
structure Captured (checkout : Checkout) (files : Files) (path : String) (file : CapturedFile) :
    Prop where
  validated : validateRelativeRepoPath (.str path) = .ok file.path
  content : ∃ bytes, contentAt checkout files file.path = some bytes ∧
    file.content = universalNewlines false bytes

theorem captureFiles_ok {checkout : Checkout} {files : Files} {authorized seen paths : List String}
    {captured : List CapturedFile}
    (done : captureFiles checkout files authorized seen paths = .ok captured) :
    List.Forall₂ (Captured checkout files) paths captured := by
  induction paths generalizing seen captured with
  | nil =>
    cases done
    exact .nil
  | cons rawPath rest ih =>
    obtain ⟨path, validated, afterPath⟩ := except_bind_ok done
    split at afterPath
    · cases afterPath
    · split at afterPath
      · cases afterPath
      · obtain ⟨location, located, afterLocation⟩ := except_bind_ok afterPath
        have resolved := locate_ok located
        split at afterLocation
        · cases afterLocation
        · rename_i bytes found
          split at afterLocation
          · cases afterLocation
          · obtain ⟨others, later, finish⟩ := except_bind_ok afterLocation
            cases finish
            refine .cons ⟨validated, bytes, ?_, rfl⟩ (ih later)
            rw [contentAt, resolved]
            exact found

/-- A file that is to be written, with the location of its path. -/
structure Located (checkout : Checkout) (path : String) (content : Text) (file : ValidatedFileContent) :
    Prop where
  validated : validateRelativeRepoPath (.str path) = .ok file.path
  content : file.content = content
  location : checkout.resolve file.path = some file.location

theorem validateFileItems_ok {checkout : Checkout} {authorized seen : List String} {limit : Option Nat}
    {captured : List CapturedFile} {files : List ValidatedFileContent}
    (done : validateFileItems checkout authorized limit seen
      (captured.map (fun file => .item (.str file.path) (some file.content))) = .ok files) :
    List.Forall₂ (fun file => Located checkout file.path file.content) captured files ∧
      (files.map (·.path)).Nodup ∧ ∀ file ∈ files, file.path ∉ seen := by
  induction captured generalizing seen files with
  | nil =>
    cases done
    exact ⟨.nil, List.nodup_nil, fun _ member => absurd member List.not_mem_nil⟩
  | cons first rest ih =>
    obtain ⟨path, validated, afterPath⟩ := except_bind_ok done
    split at afterPath
    · cases afterPath
    · rename_i fresh
      split at afterPath
      · cases afterPath
      · change (if limit.any (· < first.content.length) = true then _ else _) = _ at afterPath
        split at afterPath
        · cases afterPath
        · obtain ⟨location, located, afterLocation⟩ := except_bind_ok afterPath
          obtain ⟨others, later, finish⟩ := except_bind_ok afterLocation
          cases finish
          obtain ⟨paired, unique, unseen⟩ := ih later
          refine ⟨.cons ⟨validated, rfl, locate_ok located⟩ paired, ?_, ?_⟩
          · rw [List.map_cons, List.nodup_cons]
            refine ⟨?_, unique⟩
            intro repeated
            obtain ⟨file, member, same⟩ := List.mem_map.mp repeated
            have known := unseen file member
            rw [same] at known
            exact known List.mem_cons_self
          · intro file member
            rcases List.mem_cons.mp member with same | inside
            · rw [same]
              exact fresh
            · exact fun before => unseen file inside (List.mem_cons_of_mem _ before)

end Lucius.Worktree
