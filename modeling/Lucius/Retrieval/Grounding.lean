import Lucius.Retrieval.Budgets

/-! What a match says is in the file. A term in the path makes every line a match, so the matches
are grounded where such lines come late, and the snippet where it keeps a term. -/

namespace Lucius.Retrieval

section

variable (letters : Letters) (origin : Origin) (text : List Char) (queryTerms : List (List Char))
  (maxSnippetBytes : Int) (sourceType : SourceType)

def occursInFile (term : List Char) : Prop := ∃ line ∈ splitLines [] text, inLine letters line term = true

/-- A match with a line has its term in it, and a front of the stripped line for its snippet. -/
def LineGrounded (found : SearchMatch) : Prop :=
  ∀ number, found.lineStart = some number → ∃ line, (splitLines [] text)[number - 1]? = some line ∧
    inLine letters line found.matchedTerm = true ∧
    ∃ snippet, found.snippet = some snippet ∧ snippet <+: Json.strip line

/-- The matches of a term that is in no line are of the path. -/
def PathGrounded (found : List SearchMatch) : Prop :=
  ∀ term ∈ queryTerms, ¬ occursInFile letters text term →
    (∀ one ∈ found, one.matchedTerm = term →
      one.matchType = .path ∧ one.lineStart = none ∧ inPath letters origin.path term = true) ∧
    ((∀ other ∈ queryTerms, ¬ occursInFile letters text other) →
      term ∈ (queryTerms.filter (inPath letters origin.path)).take 20 →
        ∃ one ∈ found, one.matchedTerm = term)

/-- Where a line has a query term, the snippet of the evidence has one. -/
def SnippetGrounded (snippet : Option (List Char)) : Prop :=
  (∃ term ∈ queryTerms, occursInFile letters text term) →
    ∃ shown, snippet = some shown ∧ ∃ term ∈ queryTerms, occurs (letters.lower term) (letters.lower shown) = true

def Grounded (sizeBytes : Nat) : Prop :=
  let found := matchesForText letters origin text queryTerms maxSnippetBytes sourceType
  (∀ one ∈ found, LineGrounded letters text one) ∧ PathGrounded letters origin text queryTerms found ∧
    SnippetGrounded letters text queryTerms
      (rank letters ⟨origin, sourceType, sizeBytes, found⟩ queryTerms).snippet

/-- The lines with their numbers and the terms that are in them or in the path, in their order. -/
def hits : List ((List Char × Nat) × List Char) :=
  ((splitLines [] text).zipIdx 1).flatMap fun line =>
    (queryTerms.filter fun term => inLine letters line.1 term || inPath letters origin.path term).map
      fun term => (line, term)

/-- The first twenty hits are in their lines; and the first line that is hit, stripped and cut, keeps
a query term if some line has one. -/
def HitsInLines : Prop :=
  (∀ hit ∈ (hits letters origin text queryTerms).take 20, inLine letters hit.1.1 hit.2 = true) ∧
    ∀ hit ∈ (hits letters origin text queryTerms).head?,
      SnippetGrounded letters text queryTerms (some (boundedSnippet (Json.strip hit.1.1) maxSnippetBytes))

end

section

variable {letters : Letters} {origin : Origin} {text : List Char} {queryTerms : List (List Char)}
  {maxSnippetBytes : Int} {sourceType : SourceType}

theorem boundedSnippet_front (text : List Char) (maxBytes : Int) : boundedSnippet text maxBytes <+: text := by
  unfold boundedSnippet
  split
  · exact List.prefix_refl _
  · exact (Utf8.decode_take text _).1

theorem lineMatches_eq (line : List Char × Nat) :
    queryTerms.filterMap (lineMatch letters origin maxSnippetBytes sourceType line) =
      (queryTerms.filter fun term => inLine letters line.1 term || inPath letters origin.path term).map
        (lineFound letters origin maxSnippetBytes sourceType line) := by
  induction queryTerms with
  | nil => rfl
  | cons term rest ih =>
    rw [List.filterMap_cons, List.filter_cons, lineMatch, ← Bool.not_or]
    cases inLine letters line.1 term || inPath letters origin.path term
    · exact ih
    · simpa using ih

theorem matchesForText_eq : matchesForText letters origin text queryTerms maxSnippetBytes sourceType =
    (if (hits letters origin text queryTerms).isEmpty then queryTerms.filterMap (pathMatch letters origin)
      else (hits letters origin text queryTerms).map fun hit =>
        lineFound letters origin maxSnippetBytes sourceType hit.1 hit.2).take 20 := by
  have found : (((splitLines [] text).zipIdx 1).flatMap fun line =>
      queryTerms.filterMap (lineMatch letters origin maxSnippetBytes sourceType line)) =
      (hits letters origin text queryTerms).map fun hit =>
        lineFound letters origin maxSnippetBytes sourceType hit.1 hit.2 := by
    rw [hits, List.map_flatMap]
    congr 1
    funext line
    rw [lineMatches_eq, List.map_map]
    rfl
  unfold matchesForText
  dsimp only
  rw [found, List.isEmpty_map]

theorem mem_hits {hit : (List Char × Nat) × List Char} (member : hit ∈ hits letters origin text queryTerms) :
    (splitLines [] text)[hit.1.2 - 1]? = some hit.1.1 ∧ hit.2 ∈ queryTerms := by
  obtain ⟨line, numbered, inside⟩ := List.mem_flatMap.mp member
  obtain ⟨term, listed, rfl⟩ := List.mem_map.mp inside
  exact ⟨(List.mem_zipIdx_iff_le_and_getElem?_sub.mp numbered).2, (List.mem_filter.mp listed).1⟩

theorem hits_of_occurs {term : List Char} (asked : term ∈ queryTerms) (found : occursInFile letters text term) :
    hits letters origin text queryTerms ≠ [] := by
  obtain ⟨line, listed, inside⟩ := found
  obtain ⟨place, read⟩ := List.getElem?_of_mem listed
  have numbered : (line, 1 + place) ∈ (splitLines [] text).zipIdx 1 :=
    List.mk_add_mem_zipIdx_iff_getElem?.mpr read
  have struck : term ∈ queryTerms.filter fun term =>
      inLine letters line term || inPath letters origin.path term := by
    rw [List.mem_filter, inside]
    exact ⟨asked, rfl⟩
  exact List.ne_nil_of_mem (List.mem_flatMap.mpr ⟨_, numbered, List.mem_map_of_mem struck⟩)

/-- Without a hit there are path matches only. -/
theorem matches_of_no_hits (silent : hits letters origin text queryTerms = []) :
    matchesForText letters origin text queryTerms maxSnippetBytes sourceType =
      ((queryTerms.filter (inPath letters origin.path)).take 20).map fun term =>
        { origin, matchedTerm := term, matchType := .path } := by
  have paths (terms : List (List Char)) : terms.filterMap (pathMatch letters origin) =
      (terms.filter (inPath letters origin.path)).map fun term =>
        { origin, matchedTerm := term, matchType := .path } := by
    induction terms with
    | nil => rfl
    | cons term rest ih =>
      rw [List.filterMap_cons, List.filter_cons, pathMatch]
      cases inPath letters origin.path term
      · exact ih
      · simpa using ih
  rw [matchesForText_eq, silent, List.isEmpty_nil, if_pos rfl, paths, List.map_take]

theorem matches_of_hits (struck : hits letters origin text queryTerms ≠ []) :
    matchesForText letters origin text queryTerms maxSnippetBytes sourceType =
      ((hits letters origin text queryTerms).take 20).map fun hit =>
        lineFound letters origin maxSnippetBytes sourceType hit.1 hit.2 := by
  rw [matchesForText_eq, if_neg (fun empty => struck (List.isEmpty_iff.mp empty)), List.map_take]

theorem grounded_of_no_hits (silent : hits letters origin text queryTerms = []) (sizeBytes : Nat) :
    Grounded letters origin text queryTerms maxSnippetBytes sourceType sizeBytes := by
  unfold Grounded
  dsimp only
  rw [matches_of_no_hits silent]
  refine ⟨?_, ?_, ?_⟩
  · intro one member number numbered
    obtain ⟨term, -, rfl⟩ := List.mem_map.mp member
    cases numbered
  · intro term asked absent
    refine ⟨fun one member named => ?_, fun _ early => ⟨_, List.mem_map_of_mem early, rfl⟩⟩
    obtain ⟨other, listed, rfl⟩ := List.mem_map.mp member
    cases named
    exact ⟨rfl, rfl, (List.mem_filter.mp (List.mem_of_mem_take listed)).2⟩
  · rintro ⟨term, asked, found⟩
    exact absurd silent (hits_of_occurs asked found)

theorem grounded_of_hits (struck : hits letters origin text queryTerms ≠ [])
    (within : HitsInLines letters origin text queryTerms maxSnippetBytes) (sizeBytes : Nat) :
    Grounded letters origin text queryTerms maxSnippetBytes sourceType sizeBytes := by
  obtain ⟨first, rest, order⟩ := List.exists_cons_of_ne_nil struck
  obtain ⟨inLines, kept⟩ := within
  have firstTaken : first ∈ (hits letters origin text queryTerms).take 20 := by
    rw [order]
    exact List.mem_cons_self
  unfold Grounded
  dsimp only
  rw [matches_of_hits struck]
  refine ⟨?_, ?_, ?_⟩
  · intro one member number numbered
    obtain ⟨hit, taken, rfl⟩ := List.mem_map.mp member
    cases numbered
    exact ⟨hit.1.1, (mem_hits (List.mem_of_mem_take taken)).1, inLines hit taken, _, rfl,
      boundedSnippet_front _ _⟩
  · intro term asked absent
    constructor
    · intro one member named
      obtain ⟨hit, taken, rfl⟩ := List.mem_map.mp member
      cases named
      have read := (mem_hits (List.mem_of_mem_take taken)).1
      exact absurd ⟨hit.1.1, List.mem_of_getElem? read, inLines hit taken⟩ absent
    · intro silent _
      have read := mem_hits (List.mem_of_mem_take firstTaken)
      exact absurd ⟨first.1.1, List.mem_of_getElem? read.1, inLines first firstTaken⟩ (silent first.2 read.2)
  · rw [order] at kept ⊢
    exact kept first rfl

theorem hits_of_grounded (struck : hits letters origin text queryTerms ≠ []) {sizeBytes : Nat}
    (grounded : Grounded letters origin text queryTerms maxSnippetBytes sourceType sizeBytes) :
    HitsInLines letters origin text queryTerms maxSnippetBytes := by
  unfold Grounded at grounded
  dsimp only at grounded
  rw [matches_of_hits struck] at grounded
  obtain ⟨lines, -, kept⟩ := grounded
  constructor
  · intro hit taken
    obtain ⟨line, read, inside, -⟩ := lines _ (List.mem_map_of_mem taken) hit.1.2 rfl
    rw [(mem_hits (List.mem_of_mem_take taken)).1] at read
    cases read
    exact inside
  · intro hit leads
    obtain ⟨first, rest, order⟩ := List.exists_cons_of_ne_nil struck
    rw [order] at kept leads
    cases leads
    exact kept

end

theorem grounded_iff (letters : Letters) (origin : Origin) (text : List Char) (queryTerms : List (List Char))
    (maxSnippetBytes : Int) (sourceType : SourceType) (sizeBytes : Nat) :
    Grounded letters origin text queryTerms maxSnippetBytes sourceType sizeBytes ↔
      HitsInLines letters origin text queryTerms maxSnippetBytes := by
  by_cases silent : hits letters origin text queryTerms = []
  · constructor
    · intro
      rw [HitsInLines, silent]
      exact ⟨nofun, nofun⟩
    · intro
      exact grounded_of_no_hits silent sizeBytes
  · exact ⟨hits_of_grounded silent, fun within => grounded_of_hits silent within sizeBytes⟩

def asciiLetters : Letters where
  lower := List.map Char.toLower
  isDigit := Char.isDigit

/-- The term is in the name of the file, so its first line is the evidence. -/
theorem path_term_not_grounded :
    ¬ Grounded asciiLetters ⟨"REPO-1", "SNAP-1", "src/parser.py", "hash"⟩
      "import os\nclass Parser: pass".toList ["parser".toList] 600 .code 30 := by
  intro grounded
  have first := (hits_of_grounded (by decide +kernel) grounded).1
  exact absurd (first (("import os".toList, 1), "parser".toList) (by decide +kernel)) (by decide +kernel)

end Lucius.Retrieval
