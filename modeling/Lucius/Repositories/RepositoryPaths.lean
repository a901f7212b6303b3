import Lucius.Repositories.Capture

/-! Where a validated repository path leads: strictly below the root, and to one place
for one spelling. Dots and empty parts are dropped after the text has been tested, so what
is left need not pass the tests itself. -/

namespace Lucius.Worktree

/-- The directory the parts of a path lead to, as the names from the top. -/
def walk (here : List (List Char)) : List (List Char) → List (List Char)
  | [] => here
  | part :: rest =>
    if part = [] ∨ part = ['.'] then walk here rest
    else if part = ['.', '.'] then walk here.dropLast rest
    else walk (here ++ [part]) rest

/-- The place of a path under a root. -/
def place (root : List (List Char)) (path : String) : List (List Char) :=
  walk (if path.toList.head? = some '/' then [] else root) (path.toList.splitOn '/')

/-- What a path stands for that a text has been validated to. -/
structure Contained (text path : String) : Prop where
  relative : path.toList.head? ≠ some '/'
  noParent : ['.', '.'] ∉ path.toList.splitOn '/'
  below : ∀ root, ∃ names, names ≠ [] ∧ place root path = root ++ names
  stable : validateRelativeRepoPath (.str path) = .ok path
  unique : ∀ root other found, validateRelativeRepoPath (.str other) = .ok found →
    place root other = place root text → found = path

/-- The text is rejected, or the path it gives is a contained one. -/
def Validates (text : String) : Prop :=
  ∀ path, validateRelativeRepoPath (.str text) = .ok path → Contained text path

/-- The tests that a text has to pass. -/
structure Tested (text : String) : Prop where
  stripped : Json.strip text.toList = text.toList
  relative : text.toList.head? ≠ some '/'
  noBackslash : '\\' ∉ text.toList
  noParent : ['.', '.'] ∉ pathParts text

/-- A text of dots and slashes alone, or one with white space behind its first or
before its last dots. -/
structure Slips (text : String) : Prop where
  nonempty : text.toList ≠ []
  tested : Tested text
  slip : pathParts text = [] ∨
    ((pathParts text).head?.bind List.head?).any Json.isSpace = true ∨
    ((pathParts text).getLast?.bind List.getLast?).any Json.isSpace = true

theorem validate_iff (text path : String) :
    validateRelativeRepoPath (.str text) = .ok path ↔
      text.toList ≠ [] ∧ Tested text ∧ path = asPosix (pathParts text) := by
  constructor
  · intro done
    have form := validateRelativeRepoPath_ok done
    simp only [validateRelativeRepoPath] at done
    split at done
    · cases done
    · rename_i passes
      split at done
      · cases done
      · rename_i noParent
        simp only [Bool.or_eq_true, decide_eq_true_eq, List.isEmpty_iff, not_or, not_not] at passes
        obtain ⟨⟨⟨filled, stripped⟩, noBackslash⟩, relative⟩ := passes
        refine ⟨?_, ⟨stripped, relative, noBackslash, noParent⟩, form⟩
        intro empty
        rw [stripped] at filled
        exact filled empty
  · rintro ⟨nonempty, tested, rfl⟩
    have passes : ¬ ((Json.strip text.toList).isEmpty || decide (Json.strip text.toList ≠ text.toList) ||
        decide ('\\' ∈ text.toList) || decide (text.toList.head? = some '/')) = true := by
      simp [tested.stripped, nonempty, tested.noBackslash, tested.relative]
    simp only [validateRelativeRepoPath]
    rw [if_neg passes, if_neg tested.noParent]

theorem dropWhile_eq_self_iff_head (chars : List Char) :
    chars.dropWhile Json.isSpace = chars ↔ chars.head?.any Json.isSpace = false := by
  cases chars with
  | nil => simp
  | cons first rest =>
    rw [List.head?_cons, Option.any_some]
    cases space : Json.isSpace first with
    | false => simp [space]
    | true =>
      rw [List.dropWhile_cons_of_pos space]
      have shorter := (List.dropWhile_sublist Json.isSpace (l := rest)).length_le
      constructor
      · intro same
        rw [same, List.length_cons] at shorter
        omega
      · intro absurdly
        cases absurdly

theorem strip_eq_self_iff (chars : List Char) :
    Json.strip chars = chars ↔
      chars.head?.any Json.isSpace = false ∧ chars.getLast?.any Json.isSpace = false := by
  have turned : chars.getLast?.any Json.isSpace = false ↔
      chars.reverse.dropWhile Json.isSpace = chars.reverse := by
    rw [dropWhile_eq_self_iff_head, List.head?_reverse]
  rw [← dropWhile_eq_self_iff_head, turned]
  constructor
  · intro same
    have front : chars.dropWhile Json.isSpace = chars := by
      have inner := List.dropWhile_sublist Json.isSpace (l := chars)
      have outer := List.dropWhile_sublist Json.isSpace (l := (chars.dropWhile Json.isSpace).reverse)
      have length := congrArg List.length same
      rw [Json.strip, List.length_reverse] at length
      have most := outer.length_le
      rw [List.length_reverse] at most
      exact inner.eq_of_length_le (by omega)
    refine ⟨front, ?_⟩
    have back := congrArg List.reverse same
    rwa [Json.strip, front, List.reverse_reverse] at back
  · rintro ⟨front, back⟩
    rw [Json.strip, front, back, List.reverse_reverse]

/-! ### The path of the parts -/

theorem asPosix_toList {parts : List (List Char)} (some : parts ≠ []) :
    (asPosix parts).toList = ['/'].intercalate parts := by
  rw [asPosix, if_neg (by rwa [List.isEmpty_iff]), String.toList_ofList]
  rfl

theorem head?_intercalate {first : List Char} {rest : List (List Char)} (filled : first ≠ []) :
    (['/'].intercalate (first :: rest)).head? = first.head? := by
  obtain ⟨char, more, rfl⟩ := List.exists_cons_of_ne_nil filled
  cases rest with
  | nil => simp
  | cons second others => simp [List.intercalate, List.intersperse]

theorem intercalate_cons {first : List Char} {rest : List (List Char)} (more : rest ≠ []) :
    ['/'].intercalate (first :: rest) = first ++ '/' :: ['/'].intercalate rest := by
  obtain ⟨second, others, rfl⟩ := List.exists_cons_of_ne_nil more
  simp [List.intercalate, List.intersperse]

theorem getLast?_intercalate {parts : List (List Char)} (filled : ∀ part ∈ parts, part ≠ []) :
    (['/'].intercalate parts).getLast? = parts.getLast?.bind List.getLast? := by
  induction parts with
  | nil => rfl
  | cons first rest ih =>
    cases rest with
    | nil => simp
    | cons second others =>
      have later := ih (fun part member => filled part (List.mem_cons_of_mem _ member))
      have nonempty : ['/'].intercalate (second :: others) ≠ [] := by
        intro empty
        have head := @head?_intercalate second others (filled second (by simp))
        rw [empty, List.head?_nil] at head
        exact filled second (by simp) (List.head?_eq_none_iff.mp head.symm)
      rw [intercalate_cons (List.cons_ne_nil _ _),
        List.getLast?_append_of_ne_nil _ (List.cons_ne_nil _ _),
        List.getLast?_cons_of_ne_nil nonempty, later, List.getLast?_cons_cons]

theorem mem_intercalate {char : Char} {parts : List (List Char)}
    (member : char ∈ ['/'].intercalate parts) : char = '/' ∨ ∃ part ∈ parts, char ∈ part := by
  induction parts with
  | nil => cases member
  | cons first rest ih =>
    by_cases none : rest = []
    · subst none
      exact .inr ⟨first, List.mem_cons_self, by simpa using member⟩
    · rw [intercalate_cons none, List.mem_append, List.mem_cons] at member
      rcases member with inside | slash | later
      · exact .inr ⟨first, List.mem_cons_self, inside⟩
      · exact .inl slash
      · rcases ih later with slash | ⟨part, among, inside⟩
        · exact .inl slash
        · exact .inr ⟨part, List.mem_cons_of_mem _ among, inside⟩

theorem mem_of_mem_splitOn {char : Char} {text part : List Char} (member : part ∈ text.splitOn '/')
    (inside : char ∈ part) : char ∈ text := by
  induction text generalizing part with
  | nil =>
    rw [List.splitOn_nil, List.mem_singleton] at member
    rw [member] at inside
    cases inside
  | cons first rest ih =>
    rw [List.splitOn_cons_eq_if_modifyHead] at member
    split at member
    · rcases List.mem_cons.mp member with empty | later
      · rw [empty] at inside
        cases inside
      · exact List.mem_cons_of_mem _ (ih later inside)
    · cases parts : rest.splitOn '/' with
      | nil => exact absurd parts (List.splitOn_ne_nil '/' rest)
      | cons front others =>
        rw [parts, List.modifyHead_cons] at member
        rw [parts] at ih
        rcases List.mem_cons.mp member with extended | later
        · rw [extended] at inside
          rcases List.mem_cons.mp inside with same | before
          · rw [same]
            exact List.mem_cons_self
          · exact List.mem_cons_of_mem _ (ih List.mem_cons_self before)
        · exact List.mem_cons_of_mem _ (ih (List.mem_cons_of_mem _ later) inside)

/-! ### Where a path leads -/

theorem walk_names {parts : List (List Char)} (noParent : ['.', '.'] ∉ parts)
    (here : List (List Char)) :
    walk here parts = here ++ parts.filter (fun part => !part.isEmpty && decide (part ≠ ['.'])) := by
  induction parts generalizing here with
  | nil => simp [walk]
  | cons part rest ih =>
    rw [List.mem_cons, not_or] at noParent
    have parent : part ≠ ['.', '.'] := fun same => noParent.1 same.symm
    rw [walk]
    by_cases dropped : part = [] ∨ part = ['.']
    · rw [if_pos dropped, ih noParent.2, List.filter_cons_of_neg]
      rcases dropped with rfl | rfl <;> simp
    · rw [if_neg dropped, if_neg parent, ih noParent.2, List.filter_cons_of_pos]
      · simp
      · rw [not_or] at dropped
        simp [dropped.1, dropped.2]

theorem place_names {path : String} (relative : path.toList.head? ≠ some '/')
    (noParent : ['.', '.'] ∉ pathParts path) (root : List (List Char)) :
    place root path = root ++ pathParts path := by
  have plain : ['.', '.'] ∉ path.toList.splitOn '/' :=
    fun member => noParent (List.mem_filter.mpr ⟨member, by decide⟩)
  rw [place, if_neg relative, walk_names plain]
  rfl

section

variable {text : String} (named : pathParts text ≠ [])

include named

theorem asPosix_head? : (asPosix (pathParts text)).toList.head? = (pathParts text).head?.bind List.head? := by
  rw [asPosix_toList named]
  obtain ⟨first, rest, parts⟩ := List.exists_cons_of_ne_nil named
  have filled : first ≠ [] := (mem_pathParts (by rw [parts]; exact List.mem_cons_self)).2.1
  rw [parts, head?_intercalate filled]
  rfl

theorem asPosix_getLast? :
    (asPosix (pathParts text)).toList.getLast? = (pathParts text).getLast?.bind List.getLast? := by
  rw [asPosix_toList named]
  exact getLast?_intercalate (fun _ member => (mem_pathParts member).2.1)

theorem asPosix_relative : (asPosix (pathParts text)).toList.head? ≠ some '/' := by
  rw [asPosix_head? named]
  obtain ⟨first, rest, parts⟩ := List.exists_cons_of_ne_nil named
  have member : first ∈ pathParts text := by
    rw [parts]
    exact List.mem_cons_self
  rw [parts, List.head?_cons, Option.bind_some]
  intro slash
  exact (mem_pathParts member).1 (List.mem_of_mem_head? slash)

theorem asPosix_splitOn : (asPosix (pathParts text)).toList.splitOn '/' = pathParts text := by
  rw [asPosix_toList named]
  exact List.splitOn_intercalate '/' (fun _ member => (mem_pathParts member).1) named

theorem asPosix_noBackslash (none : '\\' ∉ text.toList) :
    '\\' ∉ (asPosix (pathParts text)).toList := by
  rw [asPosix_toList named]
  intro member
  rcases mem_intercalate member with slash | ⟨part, among, inside⟩
  · exact absurd slash (by decide)
  · exact none (mem_of_mem_splitOn (List.mem_filter.mp among).1 inside)

theorem asPosix_tested (tested : Tested text)
    (front : ((pathParts text).head?.bind List.head?).any Json.isSpace = false)
    (back : ((pathParts text).getLast?.bind List.getLast?).any Json.isSpace = false) :
    Tested (asPosix (pathParts text)) where
  stripped := by
    rw [strip_eq_self_iff, asPosix_head? named, asPosix_getLast? named]
    exact ⟨front, back⟩
  relative := asPosix_relative named
  noBackslash := asPosix_noBackslash named tested.noBackslash
  noParent := by
    rw [pathParts_asPosix]
    exact tested.noParent

theorem asPosix_ne_empty : (asPosix (pathParts text)).toList ≠ [] := by
  intro empty
  have parts := asPosix_splitOn named
  rw [empty, List.splitOn_nil] at parts
  exact (mem_pathParts (by rw [← parts]; exact List.mem_singleton_self _)).2.1 rfl

end

/-- A text gives no unsafe path exactly when it does not slip. -/
theorem validates_iff (text : String) : Validates text ↔ ¬ Slips text := by
  constructor
  · intro validates slips
    have accepted := (validate_iff text _).mpr ⟨slips.nonempty, slips.tested, rfl⟩
    have contained := validates _ accepted
    by_cases parts : pathParts text = []
    · obtain ⟨names, filled, leads⟩ := contained.below []
      rw [parts] at leads
      have nowhere : place [] (asPosix []) = [] := by decide
      rw [nowhere, List.nil_append] at leads
      exact filled leads.symm
    · have stripped := ((validate_iff _ _).mp contained.stable).2.1.stripped
      rw [strip_eq_self_iff, asPosix_head? parts, asPosix_getLast? parts] at stripped
      rcases slips.slip with none | front | back
      · exact parts none
      · rw [front] at stripped
        cases stripped.1
      · rw [back] at stripped
        cases stripped.2
  · intro sound path accepted
    obtain ⟨nonempty, tested, rfl⟩ := (validate_iff text path).mp accepted
    have named : pathParts text ≠ [] := fun none => sound ⟨nonempty, tested, .inl none⟩
    have again : Tested (asPosix (pathParts text)) := by
      apply asPosix_tested named tested
      · rw [← Bool.not_eq_true]
        exact fun front => sound ⟨nonempty, tested, .inr (.inl front)⟩
      · rw [← Bool.not_eq_true]
        exact fun back => sound ⟨nonempty, tested, .inr (.inr back)⟩
    refine ⟨again.relative, ?_, ?_, ?_, ?_⟩
    · rw [asPosix_splitOn named]
      exact tested.noParent
    · intro root
      refine ⟨pathParts text, named, ?_⟩
      rw [place_names again.relative again.noParent, pathParts_asPosix]
    · rw [validate_iff]
      exact ⟨asPosix_ne_empty named, again, by rw [pathParts_asPosix]⟩
    · intro root other found validated same
      obtain ⟨_, otherTested, rfl⟩ := (validate_iff other found).mp validated
      rw [place_names otherTested.relative otherTested.noParent,
        place_names tested.relative tested.noParent] at same
      rw [List.append_cancel_left same]

/-- The dot is let through, and leads to the root itself. -/
theorem dot_leads_to_root : ¬ Validates "." := by
  intro validates
  have accepted : validateRelativeRepoPath (.str ".") = .ok "." := by decide
  obtain ⟨names, filled, leads⟩ := (validates "." accepted).below [['r']]
  have stays : place [['r']] "." = [['r']] := by decide
  rw [stays] at leads
  exact filled (List.append_cancel_left (leads.symm.trans (List.append_nil _).symm))

end Lucius.Worktree
