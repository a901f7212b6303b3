import Lucius.Retrieval.Discovery

/-! The limits of a retrieval: how many sources are taken, how long a snippet is and how long they
are together. The sources are taken in their order up to the first that reaches a limit. -/

namespace Lucius.Retrieval

def totalBytes (selected : List RankedSource) : Nat := (selected.map snippetBytes).sum

/-- The same source, with a front of its snippet that fits. -/
structure CutTo (limit : Int) (source cut : RankedSource) : Prop where
  same : { cut with snippet := source.snippet } = source
  front : ∀ snippet ∈ cut.snippet, ∃ whole ∈ source.snippet, snippet <+: whole
  valid : ∀ snippet ∈ cut.snippet, ByteArray.validateUTF8 ⟨(Utf8.encode snippet).toArray⟩ = true
  bounded : (snippetBytes cut : Int) ≤ limit

/-- No source could be taken after the selected ones. -/
def Exhausted (request : RetrievalRequest) (selected : List RankedSource) (source : RankedSource) : Prop :=
  request.maxResults ≤ selected.length ∨
    ∃ cut, cutSnippet request source = .ok cut ∧ request.maxTotalBytes < totalBytes selected + snippetBytes cut

/-- What is selected is a front of the ranking, cut, within the limits and as long as they allow. -/
def BudgetHolds (request : RetrievalRequest) (ranked selected : List RankedSource) : Prop :=
  ∃ front left, ranked = front ++ left ∧ List.Forall₂ (CutTo request.maxSnippetBytes) front selected ∧
    (selected.length : Int) ≤ request.maxResults ∧ (totalBytes selected : Int) ≤ request.maxTotalBytes ∧
    ∀ source ∈ left.head?, Exhausted request selected source

section

variable {request : RetrievalRequest} {source : RankedSource}

theorem cutSnippet_cuts (natural : 0 ≤ request.maxSnippetBytes) :
    ∃ cut, cutSnippet request source = .ok cut ∧ CutTo request.maxSnippetBytes source cut := by
  unfold cutSnippet
  split
  · next small =>
      exact ⟨source, rfl, rfl, fun snippet present => ⟨snippet, present, List.prefix_refl _⟩,
        fun snippet _ => Utf8.valid_encode snippet, small⟩
  · next large =>
      cases present : source.snippet with
      | none =>
        have nothing : snippetBytes source = 0 := by rw [snippetBytes, present]; rfl
        omega
      | some whole =>
        obtain ⟨front, small⟩ := Utf8.decode_take whole request.maxSnippetBytes.toNat
        have slice : sliceBytes request.maxSnippetBytes (Utf8.encode whole) =
            (Utf8.encode whole).take request.maxSnippetBytes.toNat := by
          rw [sliceBytes, if_pos natural]
        dsimp only
        rw [slice]
        refine ⟨_, rfl, ?_, ?_, fun snippet _ => Utf8.valid_encode snippet, ?_⟩
        · rfl
        · rintro snippet ⟨⟩
          exact ⟨whole, present, front⟩
        · have counted := Int.ofNat_le.mpr small
          rw [Int.toNat_of_nonneg natural] at counted
          exact counted

/-- By induction on the sources that are left, with those taken before. -/
theorem applyBudgetFrom_holds (natural : 0 ≤ request.maxSnippetBytes) {before ranked : List RankedSource}
    (few : (before.length : Int) ≤ request.maxResults) (small : (totalBytes before : Int) ≤ request.maxTotalBytes) :
    ∃ selected warnings, applyBudgetFrom request before.length (totalBytes before) ranked =
        .ok (selected, warnings) ∧
      ∃ front left, ranked = front ++ left ∧ List.Forall₂ (CutTo request.maxSnippetBytes) front selected ∧
        ((before ++ selected).length : Int) ≤ request.maxResults ∧
        (totalBytes (before ++ selected) : Int) ≤ request.maxTotalBytes ∧
        ∀ source ∈ left.head?, Exhausted request (before ++ selected) source := by
  induction ranked generalizing before with
  | nil =>
    refine ⟨[], [], rfl, [], [], rfl, .nil, ?_⟩
    rw [List.append_nil]
    exact ⟨few, small, nofun⟩
  | cons source rest ih =>
    rw [applyBudgetFrom]
    split
    · next full =>
        refine ⟨[], _, rfl, [], source :: rest, rfl, .nil, ?_⟩
        rw [List.append_nil]
        exact ⟨few, small, fun _ _ => .inl full⟩
    · next room =>
        obtain ⟨cut, done, cuts⟩ := @cutSnippet_cuts request source natural
        rw [done]
        simp only [bind, Except.bind]
        split
        · next large =>
            refine ⟨[], _, rfl, [], source :: rest, rfl, .nil, ?_⟩
            rw [List.append_nil]
            refine ⟨few, small, fun other first => .inr ?_⟩
            cases first
            exact ⟨cut, done, large⟩
        · next fits =>
            have count : (before ++ [cut]).length = before.length + 1 := by simp
            have total : totalBytes (before ++ [cut]) = totalBytes before + snippetBytes cut := by
              simp [totalBytes]
            obtain ⟨selected, warnings, run, front, left, parts, paired, fewer, smaller, stops⟩ :=
              @ih (before ++ [cut]) (by rw [count]; omega) (by rw [total]; omega)
            rw [count, total] at run
            rw [run]
            refine ⟨cut :: selected, warnings, rfl, source :: front, left, by rw [parts]; rfl,
              .cons cuts paired, ?_⟩
            rw [List.append_assoc, List.singleton_append] at fewer smaller stops
            exact ⟨fewer, smaller, stops⟩

/-- The snippet alone is cut. -/
def Cuts (source cut : RankedSource) : Prop := cut = { source with snippet := cut.snippet }

theorem cuts_of_cutSnippet {cut : RankedSource} (done : cutSnippet request source = .ok cut) : Cuts source cut := by
  unfold cutSnippet at done
  split at done
  · cases done
    rfl
  · split at done <;> cases done
    rfl

theorem applyBudgetFrom_front {ranked selected : List RankedSource} {count total : Nat}
    {warnings : List BudgetLimit}
    (done : applyBudgetFrom request count total ranked = .ok (selected, warnings)) :
    ∃ front left, ranked = front ++ left ∧ List.Forall₂ Cuts front selected ∧ (left = [] ↔ warnings = []) := by
  induction ranked generalizing count total selected warnings with
  | nil =>
    cases done
    exact ⟨[], [], rfl, .nil, iff_of_true rfl rfl⟩
  | cons source rest ih =>
    rw [applyBudgetFrom] at done
    split at done
    · cases done
      exact ⟨[], _, rfl, .nil, by simp⟩
    · obtain ⟨cut, cuts, done⟩ := except_bind_ok done
      split at done
      · cases done
        exact ⟨[], _, rfl, .nil, by simp⟩
      · obtain ⟨_, more, done⟩ := except_bind_ok done
        cases done
        obtain ⟨front, left, rfl, paired, told⟩ := ih more
        exact ⟨source :: front, left, rfl, .cons (cuts_of_cutSnippet cuts) paired, told⟩

/-- A front of the ranking is selected, nothing left out scores more, and a warning tells of it. -/
def SelectsBest (ranked : List RankedSource) : Except PyExc (List RankedSource × List BudgetLimit) → Prop
  | .error _ => True
  | .ok (selected, warnings) => ∃ front left, ranked = front ++ left ∧ List.Forall₂ Cuts front selected ∧
      (left = [] ↔ warnings = []) ∧ ∀ cut ∈ selected, 0 < cut.score ∧ ∀ other ∈ left, other.score ≤ cut.score

theorem best_sources_selected (letters : Letters) (candidates : List CandidateSource)
    (queryTerms : List (List Char)) (request : RetrievalRequest) :
    SelectsBest (rankCandidates letters candidates queryTerms)
      (applyBudget (rankCandidates letters candidates queryTerms) request) := by
  have ordered : (rankCandidates letters candidates queryTerms).Pairwise _ := sortedBy_pairwise _ _
  have positive : ∀ source ∈ rankCandidates letters candidates queryTerms, 0 < source.score := fun source listed =>
    of_decide_eq_true (List.mem_filter.mp ((mem_sortedBy _ _ source).mp listed)).2
  cases done : applyBudget (rankCandidates letters candidates queryTerms) request with
  | error => trivial
  | ok result =>
    obtain ⟨front, left, parts, paired, told⟩ := applyBudgetFrom_front done
    rw [parts, List.pairwise_append] at ordered
    refine ⟨front, left, parts, paired, told, fun cut (member : cut ∈ result.1) => ?_⟩
    obtain ⟨source, inside, same⟩ := forall₂_right paired member
    rw [same]
    refine ⟨positive source (parts ▸ List.mem_append_left left inside), fun other last => ?_⟩
    rcases Prod.Lex.toLex_le_toLex.mp (ordered.2.2 source inside other last) with higher | ⟨equal, _⟩
    · exact (neg_lt_neg_iff.mp higher).le
    · exact (neg_inj.mp equal).ge

theorem ranking_unordered (letters : Letters) (queryTerms : List (List Char))
    {candidates others : List CandidateSource} (perm : candidates.Perm others) (apart : ∀ left ∈ candidates, ∀ right ∈ candidates,
      left.origin.path = right.origin.path → left.origin.repositoryId = right.origin.repositoryId →
        left.origin.snapshotId = right.origin.snapshotId → left = right) :
    rankCandidates letters candidates queryTerms = rankCandidates letters others queryTerms := by
  apply sortedBy_perm ((perm.map _).filter _)
  intro left one right two same
  obtain ⟨first, listed, rfl⟩ := List.mem_map.mp (List.mem_filter.mp one).1
  obtain ⟨second, present, rfl⟩ := List.mem_map.mp (List.mem_filter.mp two).1
  simp only [EmbeddingLike.apply_eq_iff_eq, Prod.mk.injEq] at same
  rw [apart first listed second present same.2.1 same.2.2.1 same.2.2.2]

def file (path : String) : CandidateSource := ⟨⟨"REPO-1", "SNAP-1", path, "hash"⟩, .code, 10, []⟩

theorem two_files_unordered : rankCandidates ⟨id, Char.isDigit⟩ [file "b.py", file "a.py"] [] =
    rankCandidates ⟨id, Char.isDigit⟩ [file "a.py", file "b.py"] [] :=
  ranking_unordered _ _ (.swap _ _ _) (by simp [file])
end

/-- With limits that are not negative. -/
theorem budget_holds (ranked : List RankedSource) (request : RetrievalRequest)
    (results : 0 ≤ request.maxResults) (total : 0 ≤ request.maxTotalBytes)
    (snippet : 0 ≤ request.maxSnippetBytes) :
    ∃ selected warnings, applyBudget ranked request = .ok (selected, warnings) ∧
      BudgetHolds request ranked selected :=
  @applyBudgetFrom_holds request snippet [] ranked results total

def ranked (path snippet : String) : RankedSource where
  origin := ⟨"REPO-1", "SNAP-1", path, "hash"⟩
  sourceType := .code
  score := 8
  matchedTerms := []
  matchReasons := []
  lineStart := some 1
  lineEnd := some 1
  snippet := some snippet.toList
  sizeBytes := 10

/-- The second character takes two bytes, of which one is in the limit. -/
theorem umlaut_holds :
    ∃ selected warnings, applyBudget [ranked "a.py" "äö", ranked "b.py" "x"] ⟨[], 5, 3, 3⟩ =
        .ok (selected, warnings) ∧
      BudgetHolds ⟨[], 5, 3, 3⟩ [ranked "a.py" "äö", ranked "b.py" "x"] selected :=
  budget_holds _ _ (by decide) (by decide) (by decide)

/-- A source left out although there is room for it, and a snippet longer than a negative limit. -/
theorem budget_exceeded_below_zero :
    (∃ selected warnings, applyBudget [ranked "a.py" "abc", ranked "b.py" "x"] ⟨[], 5, 2, 5⟩ =
        .ok (selected, warnings) ∧
      ranked "b.py" "x" ∉ selected ∧ ¬ Exhausted ⟨[], 5, 2, 5⟩ selected (ranked "b.py" "x")) ∧
    ∃ selected warnings, applyBudget [ranked "a.py" "abc"] ⟨[], 5, 9, -1⟩ = .ok (selected, warnings) ∧
      ¬ ∀ source ∈ selected, (snippetBytes source : Int) ≤ -1 := by
  constructor
  · refine ⟨[], [.maxTotalBytes], rfl, List.not_mem_nil, ?_⟩
    rintro (few | ⟨cut, done, exceeds⟩)
    · exact absurd few (by decide)
    · cases (show cutSnippet ⟨[], 5, 2, 5⟩ (ranked "b.py" "x") = .ok (ranked "b.py" "x") from rfl).symm.trans done
      exact absurd exceeds (by decide +kernel)
  · refine ⟨[{ ranked "a.py" "abc" with snippet := some ['a', 'b'] }], [], by rfl, fun within => ?_⟩
    exact absurd (within _ List.mem_cons_self) (by decide +kernel)

end Lucius.Retrieval
