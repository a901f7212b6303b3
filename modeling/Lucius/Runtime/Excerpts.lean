import Lucius.Lib.Sorting
import Lucius.Pilots.Provenance
import Lucius.Runtime.Ollama
import Mathlib.Algebra.Order.BigOperators.Group.List

/-! The bounded excerpt of a context file: the sections that the words of an intent are found
in, best first, or else the first lines.

A letter keeps where in the content it stands, which the program does not; the letters between
two sections are the program's own and stand nowhere. -/

namespace Lucius.Excerpts

open Ollama Pilots

structure Letter where
  char : Char
  place : Option Nat
  deriving DecidableEq, Repr

def letters (content : List Char) : List Letter :=
  content.zipIdx.map (fun entry => ⟨entry.1, some entry.2⟩)

def own (text : List Char) : List Letter := text.map (fun char => ⟨char, none⟩)

def chars (text : List Letter) : List Char := text.map Letter.char

/-- `len(text.encode("utf-8"))`. -/
def size (text : List Letter) : Nat := (text.map (fun letter => letter.char.utf8Size)).sum

def isLineBreak (char : Char) : Bool :=
  [10, 11, 12, 13, 28, 29, 30, 133, 8232, 8233].contains char.toNat

/-- `content.splitlines(keepends=True)`; a return and the line feed after it are one break. -/
def linesFrom (current : List Letter) : List Letter → List (List Letter)
  | [] => if current.isEmpty then [] else [current]
  | letter :: rest =>
    if letter.char = '\r' ∧ rest.head?.map Letter.char = some '\n' then
      linesFrom (current ++ [letter]) rest
    else if isLineBreak letter.char then (current ++ [letter]) :: linesFrom [] rest
    else linesFrom (current ++ [letter]) rest

def isHeading (line : List Letter) : Bool := decide (line.head?.map Letter.char = some '#')

def sectionsFrom (current : List Letter) : List (List Letter) → List (List Letter)
  | [] => if current.isEmpty then [] else [current]
  | line :: rest =>
    if isHeading line && !current.isEmpty then current :: sectionsFrom line rest
    else sectionsFrom (current ++ line) rest

/-- `str.lower`. White space has no case. -/
structure Lower where
  lower : List Char → List Char
  blank : ∀ text, (∀ char ∈ text, isSpace char = true) → lower text = text

def splitWords (text : List Char) : List (List Char) :=
  (text.splitOnP isSpace).filter (fun word => !word.isEmpty)

def spaced (char : Char) : Char := if char = '-' ∨ char = '_' then ' ' else char

def intentWords (python : Lower) (taskIntent : List Char) : List (List Char) :=
  splitWords ((python.lower taskIntent).map spaced)

/-- How many words of more than three letters the section holds. -/
def score (python : Lower) (words : List (List Char)) (text : List Letter) : Nat :=
  words.countP (fun word => decide (3 < word.length ∧ word <:+: python.lower (chars text)))

structure Scored where
  score : Nat
  index : Nat
  text : List Letter

/-- The best score first, and the earlier section first among equal scores. -/
def rank (scored : Scored) : ℤ ×ₗ ℕ := toLex (-(scored.score : ℤ), scored.index)

def scoredSections (python : Lower) (content taskIntent : List Char) : List Scored :=
  let sections := sectionsFrom [] (linesFrom [] (letters content))
  let words := intentWords python taskIntent
  sortedBy rank ((sections.zipIdx.map (fun entry => ⟨score python words entry.1, entry.2, entry.1⟩)).filter
    (fun scored => decide (0 < scored.score)))

def separator (selected : List Letter) : List Letter :=
  if selected.isEmpty then [] else own ['\n', '\n']

/-- The room a section needs is looked for without its separator. -/
def gather (maxBytes : Int) (selected : List Letter) : List (List Letter) → List Letter
  | [] => selected
  | text :: rest =>
    if (size (selected ++ text) : Int) ≤ maxBytes then
      gather maxBytes (selected ++ separator selected ++ text) rest
    else gather maxBytes selected rest

def stripped (text : List Letter) : List Letter :=
  let isBlank (letter : Letter) := isSpace letter.char
  ((text.dropWhile isBlank).reverse.dropWhile isBlank).reverse

def leadingLines (maxBytes : Int) (taken : Nat) : List (List Letter) → List Letter
  | [] => []
  | line :: rest =>
    if maxBytes < (taken + size line : Nat) then []
    else line ++ leadingLines maxBytes (taken + size line) rest

def fits (content : List Char) (maxBytes : Int) : Prop := (size (letters content) : Int) ≤ maxBytes

instance (content : List Char) (maxBytes : Int) : Decidable (fits content maxBytes) :=
  inferInstanceAs (Decidable (_ ≤ _))

def extractRelevantBoundedContext (python : Lower) (content taskIntent : List Char)
    (maxBytes : Int) : Except ProviderExc (List Letter) :=
  if fits content maxBytes then .ok (letters content)
  else
    let selected := gather maxBytes [] ((scoredSections python content taskIntent).map Scored.text)
    if !selected.isEmpty then .ok (stripped selected)
    else
      let result := stripped (leadingLines maxBytes 0 (linesFrom [] (letters content)))
      if result.isEmpty then
        .error (blockedBy "CONTEXT_CAPABILITY_MISMATCH"
          "Cannot extract safe bounded context from provenance file.")
      else .ok result

/-! What an excerpt is made of -/

variable {python : Lower} {content taskIntent : List Char} {maxBytes : Int}

theorem linesFrom_flatten (current text : List Letter) :
    (linesFrom current text).flatten = current ++ text := by
  induction text generalizing current with
  | nil =>
    unfold linesFrom
    split
    · next empty => simp [List.isEmpty_iff.mp empty]
    · simp
  | cons letter rest ih =>
    unfold linesFrom
    split
    · simp [ih]
    · split
      · simp [ih]
      · simp [ih]

theorem sectionsFrom_flatten (current : List Letter) (lines : List (List Letter)) :
    (sectionsFrom current lines).flatten = current ++ lines.flatten := by
  induction lines generalizing current with
  | nil =>
    unfold sectionsFrom
    split
    · next empty => simp [List.isEmpty_iff.mp empty]
    · simp
  | cons line rest ih =>
    unfold sectionsFrom
    split
    · simp [ih]
    · simp [ih]

theorem size_append (left right : List Letter) : size (left ++ right) = size left + size right := by
  simp [size]

theorem size_sublist {left right : List Letter} (inside : left.Sublist right) :
    size left ≤ size right :=
  List.Sublist.sum_le_sum (inside.map _) (fun _ _ => Nat.zero_le _)

theorem stripped_sublist (text : List Letter) : (stripped text).Sublist text := by
  have left : ((text.dropWhile (fun letter => isSpace letter.char)).reverse.dropWhile
      (fun letter => isSpace letter.char)).Sublist
      (text.dropWhile (fun letter => isSpace letter.char)).reverse := List.dropWhile_sublist _
  have right : (text.dropWhile (fun letter => isSpace letter.char)).Sublist text :=
    List.dropWhile_sublist _
  have turned := left.reverse
  rw [List.reverse_reverse] at turned
  exact turned.trans right

theorem leadingLines_sublist (taken : Nat) (lines : List (List Letter)) :
    (leadingLines maxBytes taken lines).Sublist lines.flatten := by
  induction lines generalizing taken with
  | nil => exact List.Sublist.refl _
  | cons line rest ih =>
    unfold leadingLines
    split
    · exact List.nil_sublist _
    · rw [List.flatten_cons]
      exact (List.Sublist.refl line).append (ih _)

theorem leadingLines_size (taken : Nat) (lines : List (List Letter)) :
    leadingLines maxBytes taken lines = [] ∨
      ((taken + size (leadingLines maxBytes taken lines) : Nat) : Int) ≤ maxBytes := by
  induction lines generalizing taken with
  | nil => exact .inl rfl
  | cons line rest ih =>
    unfold leadingLines
    split
    · exact .inl rfl
    · right
      rw [size_append]
      rcases ih (taken + size line) with none | bound
      · rw [none]
        simp only [size, List.map_nil, List.sum_nil] at *
        omega
      · omega

theorem scored_mem {scored : Scored} (member : scored ∈ scoredSections python content taskIntent) :
    scored.text ∈ sectionsFrom [] (linesFrom [] (letters content)) ∧
      0 < score python (intentWords python taskIntent) scored.text := by
  have kept := List.mem_filter.mp ((mem_sortedBy _ _ _).mp member)
  obtain ⟨entry, inside, same⟩ := List.mem_map.mp kept.1
  subst same
  have place := List.mem_zipIdx inside
  refine ⟨?_, of_decide_eq_true kept.2⟩
  rw [place.2.2]
  exact List.getElem_mem _

theorem section_sublist {text : List Letter}
    (member : text ∈ sectionsFrom [] (linesFrom [] (letters content))) :
    text.Sublist (letters content) := by
  have inside := List.sublist_flatten_of_mem member
  rwa [sectionsFrom_flatten, linesFrom_flatten, List.nil_append, List.nil_append] at inside

theorem section_letter {words : List (List Char)} {text : List Letter}
    (solid : ∀ word ∈ words, ∀ char ∈ word, isSpace char = false)
    (scores : 0 < score python words text) : ∃ letter ∈ text, isSpace letter.char = false := by
  obtain ⟨word, member, found⟩ := List.countP_pos_iff.mp scores
  have ⟨long, inside⟩ := of_decide_eq_true found
  by_contra none
  have blank : ∀ char ∈ chars text, isSpace char = true := by
    intro char held
    obtain ⟨letter, present, same⟩ := List.mem_map.mp held
    by_contra solidChar
    exact none ⟨letter, present, by rw [same]; simpa using solidChar⟩
  rw [python.blank _ blank] at inside
  have first : word[0] ∈ word := List.getElem_mem (by omega)
  have space := blank _ (inside.subset first)
  rw [solid word member _ first] at space
  cases space

theorem splitOnP_solid (text : List Char) : ∀ word ∈ text.splitOnP isSpace, ∀ char ∈ word,
    isSpace char = false := by
  induction text with
  | nil => simp
  | cons head rest ih =>
    rw [List.splitOnP_cons_eq_if_modifyHead]
    split
    · intro word member
      rcases List.mem_cons.mp member with same | later
      · subst same
        simp
      · exact ih word later
    · next solid =>
        intro word member
        cases split : rest.splitOnP isSpace with
        | nil => exact absurd split (List.splitOnP_ne_nil _ _)
        | cons first others =>
          rw [split, List.modifyHead_cons] at member
          rw [split] at ih
          rcases List.mem_cons.mp member with same | later
          · subst same
            intro char held
            rcases List.mem_cons.mp held with same | inside
            · subst same
              simpa using solid
            · exact ih first List.mem_cons_self char inside
          · exact ih word (List.mem_cons_of_mem _ later)

theorem intentWords_solid : ∀ word ∈ intentWords python taskIntent, ∀ char ∈ word,
    isSpace char = false :=
  fun word member => splitOnP_solid _ word (List.mem_filter.mp member).1

/-! When one section at most is taken -/

/-- The best section that fits leaves no room for another. -/
def Alone (maxBytes : Int) (texts : List (List Letter)) : Prop :=
  ∀ first rest, texts.filter (fun text => decide ((size text : Int) ≤ maxBytes)) = first :: rest →
    ∀ other ∈ rest, maxBytes < (size first + size other : Nat)

theorem gather_full {selected : List Letter} {texts : List (List Letter)}
    (full : ∀ text ∈ texts, maxBytes < (size (selected ++ text) : Nat)) :
    gather maxBytes selected texts = selected := by
  induction texts with
  | nil => rfl
  | cons text rest ih =>
    have tooLarge := full text List.mem_cons_self
    rw [gather, if_neg (by omega)]
    exact ih (fun other member => full other (List.mem_cons_of_mem _ member))

theorem gather_alone {texts : List (List Letter)} (alone : Alone maxBytes texts) :
    gather maxBytes [] texts = [] ∨
      ∃ text ∈ texts, (size text : Int) ≤ maxBytes ∧ gather maxBytes [] texts = text := by
  induction texts with
  | nil => exact .inl rfl
  | cons text rest ih =>
    by_cases within : (size text : Int) ≤ maxBytes
    · right
      refine ⟨text, List.mem_cons_self, within, ?_⟩
      rw [gather, List.nil_append, if_pos within]
      apply gather_full
      intro other member
      rw [size_append]
      by_cases room : (size other : Int) ≤ maxBytes
      · have sorted := List.filter_cons_of_pos
          (p := fun text => decide ((size text : Int) ≤ maxBytes)) (l := rest) (decide_eq_true within)
        exact alone text _ sorted other (List.mem_filter.mpr ⟨member, decide_eq_true room⟩)
      · push_cast
        omega
    · have passed : Alone maxBytes rest := by
        intro first others sorted
        apply alone first others
        rwa [List.filter_cons_of_neg (by simpa using within)]
      rw [gather, List.nil_append, if_neg within]
      rcases ih passed with none | ⟨other, member, fitting, same⟩
      · exact .inl none
      · exact .inr ⟨other, List.mem_cons_of_mem _ member, fitting, same⟩

theorem gather_grows (selected : List Letter) (texts : List (List Letter)) :
    ∃ more, gather maxBytes selected texts = selected ++ more := by
  induction texts generalizing selected with
  | nil => exact ⟨[], (List.append_nil _).symm⟩
  | cons text rest ih =>
    unfold gather
    split
    · obtain ⟨more, same⟩ := ih (selected ++ separator selected ++ text)
      exact ⟨separator selected ++ text ++ more, by rw [same]; simp⟩
    · exact ih selected

theorem gather_second {selected : List Letter} {texts : List (List Letter)} (some : selected ≠ [])
    {other : List Letter} (member : other ∈ texts)
    (room : (size (selected ++ other) : Int) ≤ maxBytes) :
    ∃ next ∈ texts, ∃ more, gather maxBytes selected texts =
      selected ++ own ['\n', '\n'] ++ next ++ more := by
  induction texts with
  | nil => cases member
  | cons text rest ih =>
    unfold gather
    split
    · obtain ⟨more, same⟩ := @gather_grows maxBytes
        (selected ++ separator selected ++ text) rest
      refine ⟨text, List.mem_cons_self, more, ?_⟩
      rw [same, separator, if_neg (by simpa using some)]
    · next full =>
        have later : other ∈ rest := by
          rcases List.mem_cons.mp member with same | inside
          · exact absurd (same ▸ room) full
          · exact inside
        obtain ⟨next, inside, more, same⟩ := ih later
        exact ⟨next, List.mem_cons_of_mem _ inside, more, same⟩

theorem gather_joins {texts : List (List Letter)} (some : ∀ text ∈ texts, text ≠ [])
    (crowded : ¬Alone maxBytes texts) :
    ∃ first ∈ texts, ∃ next ∈ texts, ∃ more, gather maxBytes [] texts =
      first ++ own ['\n', '\n'] ++ next ++ more := by
  induction texts with
  | nil => exact absurd (fun _ _ sorted => by cases sorted) crowded
  | cons text rest ih =>
    have later := ih (fun other member => some other (List.mem_cons_of_mem _ member))
    by_cases within : (size text : Int) ≤ maxBytes
    · have sorted := List.filter_cons_of_pos
        (p := fun text => decide ((size text : Int) ≤ maxBytes)) (l := rest) (decide_eq_true within)
      have roomy : ∃ other ∈ rest, (size (text ++ other) : Int) ≤ maxBytes := by
        by_contra none
        apply crowded
        intro first others same
        rw [sorted] at same
        cases same
        intro other member
        by_contra room
        refine none ⟨other, (List.mem_filter.mp member).1, ?_⟩
        rw [size_append]
        omega
      obtain ⟨other, member, room⟩ := roomy
      obtain ⟨next, inside, more, same⟩ :=
        gather_second (some text List.mem_cons_self) member room
      refine ⟨text, List.mem_cons_self, next, List.mem_cons_of_mem _ inside, more, ?_⟩
      rw [gather, List.nil_append, if_pos within]
      exact same
    · have passed : ¬Alone maxBytes rest := by
        intro alone
        apply crowded
        intro first others sorted
        rw [List.filter_cons_of_neg (by simpa using within)] at sorted
        exact alone first others sorted
      obtain ⟨first, inFirst, next, inNext, more, same⟩ := later passed
      refine ⟨first, List.mem_cons_of_mem _ inFirst, next, List.mem_cons_of_mem _ inNext, more, ?_⟩
      rw [gather, List.nil_append, if_neg within]
      exact same

theorem dropWhile_keeps {isBlank : Letter → Bool} (before after : List Letter) {letter : Letter}
    (solid : isBlank letter = false) :
    ∃ left, (before ++ letter :: after).dropWhile isBlank = left ++ letter :: after := by
  induction before with
  | nil => exact ⟨[], by simp [solid]⟩
  | cons head rest ih =>
    rw [List.cons_append, List.dropWhile_cons]
    split
    · exact ih
    · exact ⟨head :: rest, rfl⟩

theorem stripped_keeps {first last : Letter} (before between after : List Letter)
    (solidFirst : isSpace first.char = false) (solidLast : isSpace last.char = false) :
    ∀ letter ∈ between, letter ∈ stripped (before ++ first :: (between ++ last :: after)) := by
  intro letter member
  obtain ⟨left, same⟩ := @dropWhile_keeps (fun letter => isSpace letter.char) before
    (between ++ last :: after) _ solidFirst
  have turned : (left ++ first :: (between ++ last :: after)).reverse =
      after.reverse ++ last :: (left ++ first :: between).reverse := by
    simp
  obtain ⟨right, kept⟩ := @dropWhile_keeps (fun letter => isSpace letter.char)
    after.reverse (left ++ first :: between).reverse _ solidLast
  simp only [stripped, same, turned, kept]
  simp [member]

/-! The excerpt -/

/-- A text within the limit, all of the content where that fits, and made of pieces of the
content in their order. -/
structure Bounded (content : List Char) (maxBytes : Int) (text : List Letter) : Prop where
  within : (size text : Int) ≤ maxBytes
  whole : fits content maxBytes → text = letters content
  pieces : text.Sublist (letters content)

def ExcerptHolds (python : Lower) (content taskIntent : List Char) (maxBytes : Int) : Prop :=
  ∀ text, extractRelevantBoundedContext python content taskIntent maxBytes = .ok text →
    Bounded content maxBytes text

/-- No second section is taken: the best one that fits leaves no room for another. -/
def OneSection (python : Lower) (content taskIntent : List Char) (maxBytes : Int) : Prop :=
  Alone maxBytes ((scoredSections python content taskIntent).map Scored.text)

theorem scored_texts {text : List Letter}
    (member : text ∈ (scoredSections python content taskIntent).map Scored.text) :
    text.Sublist (letters content) ∧ ∃ letter ∈ text, isSpace letter.char = false := by
  obtain ⟨scored, inside, same⟩ := List.mem_map.mp member
  subst same
  have ⟨section_, scores⟩ := scored_mem inside
  exact ⟨section_sublist section_, section_letter intentWords_solid scores⟩

theorem letters_place {letter : Letter} (member : letter ∈ letters content) :
    letter.place.isSome = true := by
  obtain ⟨entry, _, same⟩ := List.mem_map.mp member
  subst same
  rfl

theorem bounded_of_sublist {text : List Letter} (long : ¬fits content maxBytes)
    (within : (size text : Int) ≤ maxBytes) (pieces : text.Sublist (letters content)) :
    Bounded content maxBytes (stripped text) where
  within := by
    have shorter := size_sublist (stripped_sublist text)
    omega
  whole := fun fitting => absurd fitting long
  pieces := (stripped_sublist text).trans pieces

theorem extract_long {text : List Letter} (long : ¬fits content maxBytes)
    (returned : extractRelevantBoundedContext python content taskIntent maxBytes = .ok text) :
    (gather maxBytes [] ((scoredSections python content taskIntent).map Scored.text) ≠ [] ∧
      text = stripped (gather maxBytes []
        ((scoredSections python content taskIntent).map Scored.text))) ∨
    (gather maxBytes [] ((scoredSections python content taskIntent).map Scored.text) = [] ∧
      leadingLines maxBytes 0 (linesFrom [] (letters content)) ≠ [] ∧
      text = stripped (leadingLines maxBytes 0 (linesFrom [] (letters content)))) := by
  simp only [extractRelevantBoundedContext, if_neg long] at returned
  split at returned
  · next some =>
      cases returned
      exact .inl ⟨by simpa using some, rfl⟩
  · next none =>
      split at returned
      · cases returned
      · next some =>
          cases returned
          refine .inr ⟨by simpa using none, ?_, rfl⟩
          intro empty
          rw [empty] at some
          exact some rfl

theorem excerpt_of_one (long : ¬fits content maxBytes)
    (one : OneSection python content taskIntent maxBytes) :
    ExcerptHolds python content taskIntent maxBytes := by
  intro text returned
  rcases extract_long long returned with ⟨some, same⟩ | ⟨_, some, same⟩
  · rw [same]
    rcases gather_alone one with none | ⟨selected, member, within, taken⟩
    · exact absurd none some
    · rw [taken]
      exact bounded_of_sublist long within (scored_texts member).1
  · have lines := @leadingLines_sublist maxBytes 0 (linesFrom [] (letters content))
    rw [linesFrom_flatten, List.nil_append] at lines
    have bound := (@leadingLines_size maxBytes 0 (linesFrom [] (letters content))).resolve_left
      some
    rw [same]
    exact bounded_of_sublist long (by omega) lines

theorem one_of_excerpt (long : ¬fits content maxBytes)
    (held : ExcerptHolds python content taskIntent maxBytes) :
    OneSection python content taskIntent maxBytes := by
  by_contra crowded
  have solid : ∀ text ∈ (scoredSections python content taskIntent).map Scored.text, text ≠ [] := by
    intro text member empty
    obtain ⟨letter, present, _⟩ := (scored_texts member).2
    rw [empty] at present
    cases present
  obtain ⟨first, inFirst, next, inNext, more, same⟩ := gather_joins solid crowded
  have some : gather maxBytes [] ((scoredSections python content taskIntent).map Scored.text) ≠ [] := by
    rw [same]
    simp [solid first inFirst]
  have returned : extractRelevantBoundedContext python content taskIntent maxBytes =
      .ok (stripped (first ++ own ['\n', '\n'] ++ next ++ more)) := by
    rw [extractRelevantBoundedContext, if_neg long, same]
    rw [same] at some
    simp only [List.isEmpty_eq_false_iff.mpr some, Bool.not_false, if_true]
  obtain ⟨left, inLeft, solidLeft⟩ := (scored_texts inFirst).2
  obtain ⟨right, inRight, solidRight⟩ := (scored_texts inNext).2
  obtain ⟨before, middle, splitFirst⟩ := List.append_of_mem inLeft
  obtain ⟨start, after, splitNext⟩ := List.append_of_mem inRight
  have kept := stripped_keeps before (middle ++ own ['\n', '\n'] ++ start) (after ++ more) solidLeft
    solidRight ⟨'\n', none⟩ (by simp [own])
  have whole : before ++ left :: (middle ++ own ['\n', '\n'] ++ start ++ right :: (after ++ more)) =
      first ++ own ['\n', '\n'] ++ next ++ more := by
    rw [splitFirst, splitNext]
    simp
  rw [whole] at kept
  have placed := letters_place ((held _ returned).pieces.subset kept)
  cases placed

/-- The excerpt is what it should be exactly where the content fits, or no second section is
taken: a second one brings a separator that is no piece of the content and is not counted. -/
theorem excerpt_holds_iff (python : Lower) (content taskIntent : List Char) (maxBytes : Int) :
    ExcerptHolds python content taskIntent maxBytes ↔
      fits content maxBytes ∨ OneSection python content taskIntent maxBytes := by
  constructor
  · intro held
    by_cases fitting : fits content maxBytes
    · exact .inl fitting
    · exact .inr (one_of_excerpt fitting held)
  · intro condition
    by_cases fitting : fits content maxBytes
    · intro text returned
      rw [extractRelevantBoundedContext, if_pos fitting] at returned
      cases returned
      exact ⟨fitting, fun _ => rfl, List.Sublist.refl _⟩
    · exact excerpt_of_one fitting (condition.resolve_left fitting)

theorem toLower_space {char : Char} (space : isSpace char = true) : char.toLower = char := by
  have code : char.toNat < 65 ∨ 90 < char.toNat := by
    simp only [isSpace, Bool.or_eq_true, Bool.and_eq_true, decide_eq_true_eq,
      List.contains_eq_mem, List.mem_cons, List.not_mem_nil, or_false] at space
    omega
  unfold Char.toLower
  rw [dif_neg]
  intro capital
  have low : 65 ≤ char.toNat := UInt32.le_iff_toNat_le.mp capital.1
  have high : char.toNat ≤ 90 := UInt32.le_iff_toNat_le.mp capital.2
  omega

/-- Lowering letter by letter, as a text in ASCII is lowered. -/
def asciiLower : Lower where
  lower := List.map Char.toLower
  blank := by
    intro text blank
    have same : ∀ char ∈ text, char.toLower = id char :=
      fun char member => toLower_space (blank char member)
    exact (List.map_congr_left same).trans (List.map_id text)

def reordered : List Char := "# zzzz\n# alpha\n# alpha beta".toList

/-- The last section comes before the one ahead of it, and with the separator the two take a
byte more than there is room for. -/
theorem reordered_excerpt :
    ¬ExcerptHolds asciiLower reordered "alpha beta".toList 20 ∧
      (extractRelevantBoundedContext asciiLower reordered "alpha beta".toList 20).toOption.any
        (fun text => decide (20 < size text ∧ ¬(chars text).Sublist reordered)) = true := by
  have crowded : (extractRelevantBoundedContext asciiLower reordered "alpha beta".toList
      20).toOption.any (fun text => decide (20 < size text ∧ ¬(chars text).Sublist reordered)) =
        true := by
    decide +kernel
  refine ⟨?_, crowded⟩
  intro held
  cases returned : extractRelevantBoundedContext asciiLower reordered "alpha beta".toList 20 with
  | error raised => rw [returned] at crowded; cases crowded
  | ok text =>
    rw [returned] at crowded
    have large := (of_decide_eq_true crowded).1
    have within := (held text returned).within
    omega

end Lucius.Excerpts
