import Lucius.Runtime.NormalizedChecks

/-! Forbidden commands in a command line that was joined from its arguments: where a pattern
is found in the line, and which frozen commands are denied for that. -/

namespace Lucius.Safety

open Characters

variable (beyond : Char → Bool)

/-! ### What a match needs -/

/-- The letters of the words of a pattern. -/
def letters (pieces : List Piece) : List Char :=
  pieces.flatMap (fun piece =>
    match piece with
    | .text expected => expected.toList.map folded
    | _ => [])

section

variable {next : Option Char → List Char → Bool} {wanted : Char}

/-- Where it holds, one of the characters left is the wanted one. -/
def Finds (next : Option Char → List Char → Bool) (wanted : Char) : Prop :=
  ∀ before chars, next before chars = true → ∃ char ∈ chars, folded char = wanted

theorem repeated_finds (finds : Finds next wanted) (allowed : Char → Bool) :
    Finds (repeated allowed next) wanted := by
  intro before chars found
  induction chars generalizing before with
  | nil => exact finds before [] found
  | cons char rest ih =>
    rw [repeated, Bool.or_eq_true, Bool.and_eq_true] at found
    rcases found with here | ⟨_, later⟩
    · exact finds before (char :: rest) here
    · obtain ⟨other, member, same⟩ := ih (some char) later
      exact ⟨other, List.mem_cons_of_mem _ member, same⟩

theorem atLeastOnce_finds (finds : Finds next wanted) (allowed : Char → Bool)
    {chars : List Char} (found : atLeastOnce allowed next chars = true) :
    ∃ char ∈ chars, folded char = wanted := by
  cases chars with
  | nil => cases found
  | cons char rest =>
    rw [atLeastOnce, Bool.and_eq_true] at found
    obtain ⟨other, member, same⟩ := repeated_finds finds allowed (some char) rest found.2
    exact ⟨other, List.mem_cons_of_mem _ member, same⟩

theorem literal_finds {expected chars : List Char} {before : Option Char}
    (found : literal next expected before chars = true) :
    (∀ char ∈ expected, ∃ other ∈ chars, folded other = folded char) ∧
      ∃ last rest, next last rest = true ∧ ∀ char ∈ rest, char ∈ chars := by
  induction expected generalizing before chars with
  | nil => exact ⟨(fun _ => nofun), before, chars, found, fun _ member => member⟩
  | cons wanted more ih =>
    cases chars with
    | nil => cases found
    | cons char rest =>
      rw [literal, Bool.and_eq_true] at found
      obtain ⟨others, last, left, holds, inside⟩ := ih found.2
      refine ⟨?_, last, left, holds, fun one member => List.mem_cons_of_mem _ (inside one member)⟩
      rw [List.forall_mem_cons]
      refine ⟨⟨char, List.mem_cons_self, of_decide_eq_true found.1⟩, ?_⟩
      intro one member
      obtain ⟨other, among, same⟩ := others one member
      exact ⟨other, List.mem_cons_of_mem _ among, same⟩

end

theorem matchHere_finds {pieces : List Piece} {wanted : Char} (asked : wanted ∈ letters pieces) :
    Finds (matchHere beyond pieces) wanted := by
  induction pieces with
  | nil => cases asked
  | cons piece rest ih =>
    intro before chars found
    rw [letters, List.flatMap_cons, List.mem_append] at asked
    cases piece with
    | boundary =>
      rw [matchHere, Bool.and_eq_true] at found
      exact ih (asked.resolve_left List.not_mem_nil) before chars found.2
    | text expected =>
      rw [matchHere] at found
      obtain ⟨taken, last, left, holds, inside⟩ := literal_finds found
      rcases asked with here | later
      · obtain ⟨char, member, same⟩ := List.mem_map.mp here
        obtain ⟨other, among, equal⟩ := taken char member
        exact ⟨other, among, equal.trans same⟩
      · obtain ⟨other, among, same⟩ := ih later last left holds
        exact ⟨other, inside other among, same⟩
    | spaces atLeastOne =>
      have finds := ih (asked.resolve_left List.not_mem_nil)
      cases atLeastOne with
      | true => exact atLeastOnce_finds finds _ found
      | false => exact repeated_finds finds _ before chars found
    | oneOf expected =>
      have finds := ih (asked.resolve_left List.not_mem_nil)
      cases chars with
      | nil => cases found
      | cons char after =>
        rw [matchHere, Bool.and_eq_true] at found
        obtain ⟨other, member, same⟩ := finds (some char) after found.2
        exact ⟨other, List.mem_cons_of_mem _ member, same⟩
    | someOf expected =>
      exact atLeastOnce_finds (ih (asked.resolve_left List.not_mem_nil)) _ found
    | gap => exact repeated_finds (ih (asked.resolve_left List.not_mem_nil)) _ before chars found

theorem not_found_of_lacking {pieces : List Piece} {text : String} {wanted : Char}
    (asked : wanted ∈ letters pieces) (lacking : ∀ char ∈ text.toList, folded char ≠ wanted) :
    found beyond pieces text = false := by
  rw [← Bool.not_eq_true]
  intro holds
  obtain ⟨char, member, same⟩ := repeated_finds (matchHere_finds beyond asked) _ none text.toList holds
  exact lacking char member same

/-! ### Across a blank -/

/-- A piece that takes no blank. -/
def Piece.solid : Piece → Bool
  | .boundary => true
  | .text expected | .oneOf expected | .someOf expected =>
    expected.toList.all (fun char => decide (folded ' ' ≠ folded char))
  | .spaces _ | .gap => false

/-- A search that goes on behind a blank goes on from a piece of white space. What it finds
there is the same wherever it began. -/
inductive Crosses (tail : List Piece) (back : List Char) (beyondBlank : Bool) : List Piece → Prop
  | nil : Crosses tail back beyondBlank []
  | solid {piece : Piece} {rest : List Piece} (taken : piece.solid = true)
      (later : Crosses tail back beyondBlank rest) : Crosses tail back beyondBlank (piece :: rest)
  | spaces {rest : List Piece}
      (crossed : matchHere beyond (rest ++ tail) (some ' ') back =
        (matchHere beyond rest (some ' ') [] && beyondBlank))
      (later : Crosses tail back beyondBlank rest) : Crosses tail back beyondBlank (.spaces true :: rest)

section

variable {whole cut : Option Char → List Char → Bool} {part : Option Char → List Char → Bool}
  {back : List Char} {beyondBlank : Bool}

/-- What is found of a text and a blank and more is found in the text, or is found up to the
blank and beyond it. -/
def SplitsAt (whole cut part : Option Char → List Char → Bool) (back : List Char) (beyondBlank : Bool) : Prop :=
  ∀ before front, '\n' ∉ front →
    whole before (front ++ ' ' :: back) = (cut before front || (part before (front ++ [' ']) && beyondBlank))

theorem literal_splitsAt (splits : SplitsAt whole cut part back beyondBlank) {expected : List Char}
    (solid : ∀ char ∈ expected, folded ' ' ≠ folded char) :
    SplitsAt (literal whole expected) (literal cut expected) (literal part expected) back beyondBlank := by
  induction expected with
  | nil => exact splits
  | cons wanted more ih =>
    rw [List.forall_mem_cons] at solid
    intro before front plain
    cases front with
    | nil => simp [literal, solid.1]
    | cons char rest =>
      rw [List.mem_cons, not_or] at plain
      have later := ih solid.2 (some char) rest plain.2
      simp only [List.cons_append, literal, later]
      cases decide (folded char = folded wanted) <;> simp

theorem among_blank {expected : String}
    (solid : ∀ char ∈ expected.toList, folded ' ' ≠ folded char) : among expected ' ' = false := by
  rw [among, decide_eq_false_iff_not]
  intro member
  obtain ⟨char, listed, same⟩ := List.mem_map.mp member
  exact solid char listed same.symm

theorem repeated_splitsAt (splits : SplitsAt whole cut part back beyondBlank) {allowed : Char → Bool}
    (barred : allowed ' ' = false) :
    SplitsAt (repeated allowed whole) (repeated allowed cut) (repeated allowed part) back beyondBlank := by
  intro before front plain
  induction front generalizing before with
  | nil =>
    have here := splits before [] plain
    simp only [List.nil_append] at here
    simp [repeated, barred, here]
  | cons char rest ih =>
    have here := splits before (char :: rest) plain
    rw [List.mem_cons, not_or] at plain
    have later := ih (some char) plain.2
    simp only [List.cons_append] at here
    simp only [List.cons_append, repeated, here, later]
    cases allowed char <;> cases beyondBlank <;> simp [Bool.or_assoc, Bool.or_left_comm]

theorem spaces_stop (starts : back.head?.any Json.isSpace = false) (before : Option Char) :
    repeated Json.isSpace whole before back = whole before back := by
  cases back with
  | nil => rfl
  | cons char rest =>
    rw [List.head?_cons, Option.any_some] at starts
    simp [repeated, starts]

theorem spaces_splitsAt (splits : SplitsAt whole cut part back beyondBlank)
    (starts : back.head?.any Json.isSpace = false)
    (crossed : whole (some ' ') back = (part (some ' ') [] && beyondBlank)) :
    SplitsAt (repeated Json.isSpace whole) (repeated Json.isSpace cut) (repeated Json.isSpace part)
      back beyondBlank := by
  have stops : repeated Json.isSpace whole (some ' ') back = _ := spaces_stop starts (some ' ')
  intro before front plain
  induction front generalizing before with
  | nil =>
    have here := splits before [] plain
    simp only [List.nil_append] at here
    have blank : Json.isSpace ' ' = true := by decide
    simp only [List.nil_append, repeated, here, blank, Bool.true_and, stops, crossed]
    cases beyondBlank <;> simp [Bool.or_assoc]
  | cons char rest ih =>
    have here := splits before (char :: rest) plain
    rw [List.mem_cons, not_or] at plain
    have later := ih (some char) plain.2
    simp only [List.cons_append] at here
    simp only [List.cons_append, repeated, here, later]
    cases Json.isSpace char <;> cases beyondBlank <;> simp [Bool.or_assoc, Bool.or_left_comm]

end

section

variable {pieces tail : List Piece} {back : List Char} {beyondBlank : Bool}
  (crosses : Crosses beyond tail back beyondBlank pieces)
variable (last : ∀ before front, '\n' ∉ front →
  matchHere beyond tail before (front ++ ' ' :: back) = (matchHere beyond tail before front || beyondBlank))
variable (starts : back.head?.any Json.isSpace = false)
include crosses last starts

theorem matchHere_splitsAt :
    SplitsAt (matchHere beyond (pieces ++ tail)) (matchHere beyond (pieces ++ tail)) (matchHere beyond pieces)
      back beyondBlank := by
  induction crosses with
  | nil =>
    intro before front plain
    simp only [List.nil_append, matchHere, Bool.true_and]
    exact last before front plain
  | @solid piece rest taken later ih =>
    cases piece with
    | boundary =>
      intro before front plain
      have after := ih before front plain
      have blank : isWord beyond ' ' = false := by simp [isWord]
      cases front with
      | nil =>
        simp only [List.nil_append] at after
        simp only [List.cons_append, List.nil_append, matchHere, after, List.head?_cons, List.head?_nil,
          Option.any_some, Option.any_none, blank]
        cases before.any (isWord beyond) <;> simp
      | cons char more =>
        simp only [List.cons_append] at after
        simp only [List.cons_append, matchHere, after, List.head?_cons, Option.any_some]
        cases before.any (isWord beyond) != isWord beyond char <;> simp
    | text expected =>
      apply literal_splitsAt ih
      intro char member
      exact of_decide_eq_true (List.all_eq_true.mp taken char member)
    | oneOf expected =>
      have barred : among expected ' ' = false :=
        among_blank (fun char member => of_decide_eq_true (List.all_eq_true.mp taken char member))
      intro before front plain
      cases front with
      | nil => simp [matchHere, barred]
      | cons char more =>
        rw [List.mem_cons, not_or] at plain
        have after := ih (some char) more plain.2
        simp only [List.cons_append, matchHere, after]
        cases among expected char <;> simp
    | someOf expected =>
      have barred : among expected ' ' = false :=
        among_blank (fun char member => of_decide_eq_true (List.all_eq_true.mp taken char member))
      intro before front plain
      cases front with
      | nil => simp [matchHere, atLeastOnce, barred]
      | cons char more =>
        rw [List.mem_cons, not_or] at plain
        have after := repeated_splitsAt ih barred (some char) more plain.2
        simp only [List.cons_append, matchHere, atLeastOnce, after]
        cases among expected char <;> simp
    | spaces _ => cases taken
    | gap => cases taken
  | @spaces rest crossed later ih =>
    have more := spaces_splitsAt ih starts crossed
    intro before front plain
    cases front with
    | nil =>
      have blank : Json.isSpace ' ' = true := by decide
      have stops : repeated Json.isSpace (matchHere beyond (rest ++ tail)) (some ' ') back = _ :=
        spaces_stop starts (some ' ')
      simp [matchHere, atLeastOnce, blank, stops, crossed, repeated]
    | cons char others =>
      rw [List.mem_cons, not_or] at plain
      have after := more (some char) others plain.2
      simp only [List.cons_append, matchHere, atLeastOnce, after]
      cases Json.isSpace char <;> simp

/-- A pattern is found in a line where it is found in the text before a blank, up to the
blank and beyond it, or behind it. -/
theorem search_splits (none : matchHere beyond pieces (some ' ') [] = false) (before : Option Char)
    {front : List Char} (plain : '\n' ∉ front) :
    repeated (fun _ => true) (matchHere beyond (pieces ++ tail)) before (front ++ ' ' :: back) =
      (repeated (fun _ => true) (matchHere beyond (pieces ++ tail)) before front ||
        (repeated (fun _ => true) (matchHere beyond pieces) before (front ++ [' ']) && beyondBlank) ||
        repeated (fun _ => true) (matchHere beyond (pieces ++ tail)) (some ' ') back) := by
  have splits := matchHere_splitsAt beyond crosses last starts
  induction front generalizing before with
  | nil =>
    have here := splits before [] plain
    simp only [List.nil_append] at here
    simp [repeated, here, none]
  | cons char rest ih =>
    have here := splits before (char :: rest) plain
    rw [List.mem_cons, not_or] at plain
    have later := ih (some char) plain.2
    simp only [List.cons_append] at here
    simp only [List.cons_append, repeated, here, later, Bool.true_and]
    cases beyondBlank <;> simp [Bool.or_assoc, Bool.or_left_comm]

end

theorem literal_before {next : Option Char → List Char → Bool}
    (same : ∀ chars, next (some ' ') chars = next none chars) (expected chars : List Char) :
    literal next expected (some ' ') chars = literal next expected none chars := by
  cases expected with
  | nil => exact same chars
  | cons wanted more => cases chars <;> rfl

theorem repeated_before {next : Option Char → List Char → Bool}
    (same : ∀ chars, next (some ' ') chars = next none chars) (allowed : Char → Bool) (chars : List Char) :
    repeated allowed next (some ' ') chars = repeated allowed next none chars := by
  cases chars with
  | nil => exact same []
  | cons char rest => rw [repeated, repeated, same]

theorem matchHere_before (pieces : List Piece) (chars : List Char) :
    matchHere beyond pieces (some ' ') chars = matchHere beyond pieces none chars := by
  induction pieces generalizing chars with
  | nil => rfl
  | cons piece rest ih =>
    cases piece with
    | boundary =>
      have blank : isWord beyond ' ' = false := by simp [isWord]
      simp only [matchHere, ih, Option.any_some, Option.any_none, blank]
    | text expected => exact literal_before ih expected.toList chars
    | spaces atLeastOne =>
      cases atLeastOne with
      | true => rfl
      | false => exact repeated_before ih _ chars
    | oneOf expected => rfl
    | someOf expected => rfl
    | gap => exact repeated_before ih _ chars

/-! ### Lines of arguments -/

/-- What follows each piece of white space. -/
def crossings : List Piece → List (List Piece)
  | [] => []
  | .spaces true :: rest => rest :: crossings rest
  | _ :: rest => crossings rest

/-- How the arguments of a frozen command begin, the executable apart. -/
def openings : List String := ["t", ".", "pytest", "-m", "-q", "-s", "-x", "--q", "--v", "--d", "--t", "--m"]

def plainPiece : Piece → Bool
  | .spaces atLeastOne => atLeastOne
  | piece => piece.solid

theorem blocked : ∀ pattern ∈ forbiddenCommandPatterns, pattern.pieces.all plainPiece = true →
    ∀ rest ∈ crossings pattern.pieces, ∀ opening ∈ openings, ∀ more,
      matchHere beyond rest (some ' ') (opening.toList ++ more) = false := by
  intro pattern member plain rest later opening opens more
  simp only [forbiddenCommandPatterns, List.mem_cons, List.not_mem_nil, or_false] at member
  simp only [openings, List.mem_cons, List.not_mem_nil, or_false] at opens
  rcases member with rfl | rfl | rfl | rfl | rfl | rfl | rfl | rfl | rfl | rfl | rfl | rfl | rfl | rfl
  all_goals
    simp only [crossings, wordsPattern, List.map_cons, List.map_nil, List.intersperse, List.cons_append,
      List.nil_append, List.mem_cons, List.not_mem_nil, or_false] at later
  case inr.inr.inr.inr.inr.inl => cases plain
  case inr.inr.inr.inl | inr.inr.inr.inr.inr.inr.inl | inr.inr.inr.inr.inr.inr.inr.inl =>
    rcases later with rfl | rfl <;>
      rcases opens with rfl | rfl | rfl | rfl | rfl | rfl | rfl | rfl | rfl | rfl | rfl | rfl <;> rfl
  all_goals
    subst later
    rcases opens with rfl | rfl | rfl | rfl | rfl | rfl | rfl | rfl | rfl | rfl | rfl | rfl <;> rfl

theorem nothing_found : ∀ pattern ∈ forbiddenCommandPatterns,
    matchHere beyond pattern.pieces (some ' ') [] = false := by
  intro pattern member
  simp only [forbiddenCommandPatterns, List.mem_cons, List.not_mem_nil, or_false] at member
  rcases member with rfl | rfl | rfl | rfl | rfl | rfl | rfl | rfl | rfl | rfl | rfl | rfl | rfl | rfl <;> rfl

/-- A push that is forced: the first part, and what is forced further on. -/
def pushing : List Piece := [.boundary, .text "git", .spaces true, .text "push", .spaces true]

def forcing : List Piece := [.text "--force"]

def forcedPush : List Piece := pushing ++ .gap :: forcing

theorem push_blocked : ∀ opening ∈ openings, ∀ more,
    matchHere beyond ([.text "push", .spaces true] ++ .gap :: forcing) (some ' ') (opening.toList ++ more) =
      false := by
  intro opening opens more
  simp only [openings, List.mem_cons, List.not_mem_nil, or_false] at opens
  rcases opens with rfl | rfl | rfl | rfl | rfl | rfl | rfl | rfl | rfl | rfl | rfl | rfl <;> rfl

theorem gap_search {chars : List Char} (plain : '\n' ∉ chars) (next : Option Char → List Char → Bool)
    (before : Option Char) :
    repeated (fun char => decide (char ≠ '\n')) next before chars =
      repeated (fun _ => true) next before chars := by
  induction chars generalizing before with
  | nil => rfl
  | cons char rest ih =>
    rw [List.mem_cons, not_or] at plain
    have other : char ≠ '\n' := fun same => plain.1 same.symm
    rw [repeated, repeated, ih plain.2, decide_eq_true other]

theorem crosses_of_plain {pieces tail : List Piece} {back : List Char} {beyondBlank : Bool}
    (plain : pieces.all plainPiece = true)
    (crossed : ∀ rest ∈ crossings pieces, matchHere beyond (rest ++ tail) (some ' ') back =
      (matchHere beyond rest (some ' ') [] && beyondBlank)) :
    Crosses beyond tail back beyondBlank pieces := by
  induction pieces with
  | nil => exact .nil
  | cons piece rest ih =>
    rw [List.all_cons, Bool.and_eq_true] at plain
    cases piece with
    | spaces atLeastOne =>
      cases atLeastOne with
      | true =>
        rw [crossings, List.forall_mem_cons] at crossed
        exact .spaces crossed.1 (ih plain.2 crossed.2)
      | false => cases plain.1
    | boundary | text _ | oneOf _ | someOf _ | gap => exact .solid plain.1 (ih plain.2 crossed)

def line (arguments : List String) : String := " ".intercalate arguments

theorem line_cons (first second : String) (more : List String) :
    (line (first :: second :: more)).toList = first.toList ++ ' ' :: (line (second :: more)).toList := by
  simp [line, String.toList_intercalate, List.intercalate]

/-- An argument of a command, the executable apart. -/
structure Argument (arg : String) : Prop where
  opens : ∃ opening ∈ openings, opening.toList <+: arg.toList
  plain : '\n' ∉ arg.toList

theorem line_opens {second : String} (argument : Argument second) (more : List String) :
    ∃ opening ∈ openings, opening.toList <+: (line (second :: more)).toList := by
  obtain ⟨opening, listed, begins⟩ := argument.opens
  refine ⟨opening, listed, ?_⟩
  cases more with
  | nil => simpa [line] using begins
  | cons third others =>
    rw [line_cons]
    exact begins.trans (List.prefix_append _ _)

theorem opening_starts {back : List Char} (opens : ∃ opening ∈ openings, opening.toList <+: back) :
    back.head?.any Json.isSpace = false := by
  obtain ⟨opening, listed, rest, rfl⟩ := opens
  have known : ∀ opening ∈ openings, opening.toList ≠ [] ∧
      opening.toList.head?.any Json.isSpace = false := by
    decide
  obtain ⟨filled, bare⟩ := known opening listed
  rw [List.head?_append_of_ne_nil _ filled]
  exact bare

theorem mem_line {char : Char} {arguments : List String} (member : char ∈ (line arguments).toList) :
    char = ' ' ∨ ∃ arg ∈ arguments, char ∈ arg.toList := by
  induction arguments with
  | nil => simp [line] at member
  | cons first rest ih =>
    cases rest with
    | nil => exact .inr ⟨first, List.mem_cons_self, by simpa [line] using member⟩
    | cons second more =>
      rw [line_cons, List.mem_append, List.mem_cons] at member
      rcases member with here | blank | behind
      · exact .inr ⟨first, List.mem_cons_self, here⟩
      · exact .inl blank
      · rcases ih behind with blank | ⟨arg, among, inside⟩
        · exact .inl blank
        · exact .inr ⟨arg, List.mem_cons_of_mem _ among, inside⟩

theorem line_plain {arguments : List String} (plain : ∀ arg ∈ arguments, '\n' ∉ arg.toList) :
    '\n' ∉ (line arguments).toList := by
  intro member
  rcases mem_line member with blank | ⟨arg, among, inside⟩
  · exact absurd blank (by decide)
  · exact plain arg among inside

section

variable {first : String} {rest : List String} (arguments : ∀ arg ∈ rest, Argument arg)
variable (plain : '\n' ∉ first.toList)
include arguments plain

/-- A pattern that no argument continues is found in the line where it is found in one of
the arguments. -/
theorem found_line {pieces : List Piece} (none : matchHere beyond pieces (some ' ') [] = false)
    (crosses : ∀ back, (∃ opening ∈ openings, opening.toList <+: back) → Crosses beyond [] back false pieces) :
    found beyond pieces (line (first :: rest)) = (first :: rest).any (found beyond pieces) := by
  induction rest generalizing first with
  | nil => simp [line]
  | cons second more ih =>
    rw [List.forall_mem_cons] at arguments
    have opens := line_opens arguments.1 more
    have splits := search_splits beyond (crosses _ opens) (fun _ _ _ => rfl) (opening_starts opens)
      none .none plain
    have later := ih arguments.2 arguments.1.plain
    rw [List.append_nil, Bool.and_false, Bool.or_false,
      repeated_before (matchHere_before beyond pieces)] at splits
    rw [List.any_cons, ← later]
    unfold found
    rw [line_cons]
    exact splits

theorem found_plain_line {pattern : CommandPattern} (member : pattern ∈ forbiddenCommandPatterns)
    (simple : pattern.pieces.all plainPiece = true) :
    found beyond pattern.pieces (line (first :: rest)) = (first :: rest).any (found beyond pattern.pieces) := by
  apply found_line beyond arguments plain
  · exact nothing_found beyond pattern member
  · rintro back ⟨opening, opens, more, rfl⟩
    apply crosses_of_plain beyond simple
    intro remaining later
    rw [List.append_nil, Bool.and_false]
    exact blocked beyond pattern member simple remaining later opening opens more

theorem found_forcing_line :
    found beyond forcing (line (first :: rest)) = (first :: rest).any (found beyond forcing) := by
  apply found_line beyond arguments plain rfl
  intro back _
  exact .solid (by decide) .nil

theorem found_push_line {second : String} {more : List String} (is : rest = second :: more) :
    found beyond forcedPush (line (first :: rest)) =
      (found beyond forcedPush first ||
        (found beyond pushing (first ++ " ") && found beyond forcing (line rest)) ||
        found beyond forcedPush (line rest)) := by
  subst is
  rw [List.forall_mem_cons] at arguments
  have opens := line_opens arguments.1 more
  have noBreak : '\n' ∉ (line (second :: more)).toList :=
    line_plain (List.forall_mem_cons.mpr ⟨arguments.1.plain, fun arg member => (arguments.2 arg member).plain⟩)
  have gap : ∀ before, matchHere beyond (.gap :: forcing) before (line (second :: more)).toList =
      repeated (fun _ => true) (matchHere beyond forcing) before (line (second :: more)).toList :=
    fun before => gap_search noBreak _ before
  have crosses : Crosses beyond (.gap :: forcing) (line (second :: more)).toList
      (found beyond forcing (line (second :: more))) pushing := by
    apply crosses_of_plain beyond rfl
    intro remaining later
    have known : remaining = [.text "push", .spaces true] ∨ remaining = [] := by
      simpa [pushing, crossings] using later
    rcases known with rfl | rfl
    · obtain ⟨opening, listed, behind, text⟩ := opens
      rw [← text, push_blocked beyond opening listed behind]
      rfl
    · rw [List.nil_append, gap, repeated_before (matchHere_before beyond forcing)]
      rfl
  have last : ∀ before front, '\n' ∉ front →
      matchHere beyond (.gap :: forcing) before (front ++ ' ' :: (line (second :: more)).toList) =
        (matchHere beyond (.gap :: forcing) before front || found beyond forcing (line (second :: more))) := by
    intro before front bare
    have whole : '\n' ∉ front ++ ' ' :: (line (second :: more)).toList := by
      rw [List.mem_append, List.mem_cons, not_or, not_or]
      exact ⟨bare, by decide, noBreak⟩
    have alone : Crosses beyond [] (line (second :: more)).toList false forcing := .solid (by decide) .nil
    have splits := search_splits beyond alone (fun _ _ _ => rfl) (opening_starts opens) rfl before bare
    rw [List.append_nil, Bool.and_false, Bool.or_false,
      repeated_before (matchHere_before beyond forcing)] at splits
    exact (gap_search whole _ before).trans (splits.trans (by rw [← gap_search bare]; rfl))
  have splits := search_splits beyond crosses last (opening_starts opens) rfl .none plain
  rw [repeated_before (matchHere_before beyond (pushing ++ .gap :: forcing))] at splits
  have ended : (first ++ " ").toList = first.toList ++ [' '] := String.toList_append
  unfold found at splits ⊢
  rw [line_cons, ended]
  exact splits

/-- A forced push is found in the line where it is found in an argument, or where it is begun
in one and forced in a later one. -/
theorem not_found_push_line :
    found beyond forcedPush (line (first :: rest)) = false ↔
      (∀ arg ∈ first :: rest, found beyond forcedPush arg = false) ∧
        (first :: rest).Pairwise (fun arg later =>
          ¬ (found beyond pushing (arg ++ " ") = true ∧ found beyond forcing later = true)) := by
  induction rest generalizing first with
  | nil => simp [line]
  | cons second more ih =>
    have rule := found_push_line beyond arguments plain rfl
    rw [List.forall_mem_cons] at arguments
    have forced := found_forcing_line beyond arguments.2 arguments.1.plain
    have later := ih arguments.2 arguments.1.plain
    rw [List.pairwise_cons, List.forall_mem_cons, rule, Bool.or_eq_false_iff, Bool.or_eq_false_iff,
      later, forced]
    constructor
    · rintro ⟨⟨alone, apart⟩, others, pairs⟩
      refine ⟨⟨alone, others⟩, ?_, pairs⟩
      rintro arg member ⟨begun, forces⟩
      rw [begun, Bool.true_and, List.any_eq_false] at apart
      exact apart arg member forces
    · rintro ⟨⟨alone, others⟩, apart, pairs⟩
      refine ⟨⟨alone, ?_⟩, others, pairs⟩
      rw [Bool.and_eq_false_iff]
      by_cases begun : found beyond pushing (first ++ " ") = true
      · refine .inr (List.any_eq_false.mpr ?_)
        intro arg member forces
        exact apart arg member ⟨begun, forces⟩
      · exact .inl (eq_false_of_ne_true begun)

end

/-! ### Arguments that name no test -/

/-- What a command has besides its targets. -/
def fixedArguments : List String :=
  [".venv/bin/python", ".venv/bin/python3", "-m", "pytest"] ++ Acceptance.allowedPytestOptions

/-- Nothing of a forbidden command is found in it, nor a part of a forced push. -/
structure Harmless (arg : String) : Prop where
  bare : ∀ pattern ∈ forbiddenCommandPatterns, found beyond pattern.pieces arg = false
  noPush : found beyond pushing (arg ++ " ") = false
  noForce : found beyond forcing arg = false

theorem harmless_of_lacking {arg : String}
    (lacking : ∀ pieces ∈ [pushing, forcing] ++ forbiddenCommandPatterns.map CommandPattern.pieces,
      ∃ wanted ∈ letters pieces, ∀ char ∈ (arg ++ " ").toList, folded char ≠ wanted) : Harmless beyond arg := by
  have shorter : ∀ char ∈ arg.toList, char ∈ (arg ++ " ").toList := by
    intro char member
    rw [String.toList_append]
    exact List.mem_append_left _ member
  refine ⟨?_, ?_, ?_⟩
  · intro pattern member
    obtain ⟨wanted, asked, none⟩ := lacking pattern.pieces
      (List.mem_append_right _ (List.mem_map_of_mem member))
    exact not_found_of_lacking beyond asked (fun char inside => none char (shorter char inside))
  · obtain ⟨wanted, asked, none⟩ := lacking pushing (by simp)
    exact not_found_of_lacking beyond asked none
  · obtain ⟨wanted, asked, none⟩ := lacking forcing (by simp)
    exact not_found_of_lacking beyond asked (fun char inside => none char (shorter char inside))

theorem fixed_harmless {arg : String} (fixed : arg ∈ fixedArguments) : Harmless beyond arg := by
  have known : ∀ arg ∈ fixedArguments,
      ∀ pieces ∈ [pushing, forcing] ++ forbiddenCommandPatterns.map CommandPattern.pieces,
        (letters pieces).any (fun wanted =>
          (arg ++ " ").toList.all (fun char => decide (folded char ≠ wanted))) = true := by
    have all : fixedArguments.all (fun arg =>
        ([pushing, forcing] ++ forbiddenCommandPatterns.map CommandPattern.pieces).all (fun pieces =>
          (letters pieces).any (fun wanted =>
            (arg ++ " ").toList.all (fun char => decide (folded char ≠ wanted))))) = true := by
      decide +kernel
    intro arg member pieces inside
    exact List.all_eq_true.mp (List.all_eq_true.mp all arg member) pieces inside
  apply harmless_of_lacking
  intro pieces inside
  obtain ⟨wanted, asked, none⟩ := List.any_eq_true.mp (known arg fixed pieces inside)
  exact ⟨wanted, asked, fun char member => of_decide_eq_true (List.all_eq_true.mp none char member)⟩

theorem letter_no_digit {char : Char} (low : 65 ≤ char.toNat) (high : char.toNat < 123) :
    PublicIds.isDigitChar char = false := by
  have known : ∀ code < 123, 65 ≤ code → PublicIds.isDigitChar (Char.ofNat code) = false := by
    decide +kernel
  have digit := known char.toNat high low
  rwa [Char.ofNat_toNat] at digit

theorem digit_folded {char : Char} (digit : PublicIds.isDigitChar char = true) :
    folded char ∉ ['r', 'g', 'u', 'c', 'p', 'n', 'o'] := by
  unfold folded
  split
  · decide
  · split
    · decide
    · split
      · decide
      · intro member
        have bounds : 65 ≤ char.toNat ∧ char.toNat < 123 := by
          rcases toLower_code char with ⟨low, high, _⟩ | plain
          · omega
          · rw [plain] at member
            simp only [List.mem_cons, List.not_mem_nil, or_false] at member
            rcases member with rfl | rfl | rfl | rfl | rfl | rfl | rfl <;> decide
        rw [letter_no_digit bounds.1 bounds.2] at digit
        cases digit

theorem maxfail_harmless {arg : String} (limit : Acceptance.IsFailureLimit arg) : Harmless beyond arg := by
  obtain ⟨begins, digits⟩ := limit
  obtain ⟨rest, text⟩ := (Acceptance.startsWith_iff _ _).mp begins
  have tail : Acceptance.failureLimit arg = rest := by
    rw [Acceptance.failureLimit, text]
    rfl
  rw [tail, PublicIds.isdigit, Bool.and_eq_true] at digits
  have lacking : ∀ wanted ∈ ['r', 'g', 'u', 'c', 'p', 'n', 'o'], ∀ char ∈ (arg ++ " ").toList,
      folded char ≠ wanted := by
    intro wanted listed char member
    have fixed : ∀ char ∈ "--maxfail=".toList ++ " ".toList, folded char ∉ ['r', 'g', 'u', 'c', 'p', 'n', 'o'] := by
      have checked : ("--maxfail=".toList ++ " ".toList).all
          (fun char => folded char ∉ ['r', 'g', 'u', 'c', 'p', 'n', 'o']) = true := by decide
      exact fun char member => of_decide_eq_true (List.all_eq_true.mp checked char member)
    rw [String.toList_append, text, List.mem_append, List.mem_append] at member
    have other : folded char ∉ ['r', 'g', 'u', 'c', 'p', 'n', 'o'] := by
      rcases member with (begun | digit) | ended
      · exact fixed char (List.mem_append_left _ begun)
      · exact digit_folded (List.all_eq_true.mp digits.2 char digit)
      · exact fixed char (List.mem_append_right _ ended)
    intro same
    rw [same] at other
    exact other listed
  apply harmless_of_lacking
  intro pieces inside
  have known : ([pushing, forcing] ++ forbiddenCommandPatterns.map CommandPattern.pieces).all (fun pieces =>
      ['r', 'g', 'u', 'c', 'p', 'n', 'o'].any (fun wanted => decide (wanted ∈ letters pieces))) = true := by
    decide +kernel
  obtain ⟨wanted, listed, asked⟩ := List.any_eq_true.mp (List.all_eq_true.mp known pieces inside)
  exact ⟨wanted, of_decide_eq_true asked, lacking wanted listed⟩

/-! ### Frozen commands -/

open Acceptance Worktree

theorem target_starts {target : String} (inside : InsideTests target) :
    target.toList.head? = some 't' ∨ target.toList.head? = some '.' := by
  obtain ⟨tested, names, parts⟩ := inside
  cases text : target.toList with
  | nil =>
    rw [pathParts_empty text] at parts
    cases parts
  | cons char rest =>
    have relative := tested.relative
    rw [text, List.head?_cons] at relative
    have other : ¬ (char == '/') = true := by
      rw [beq_iff_eq]
      exact fun same => relative (congrArg some same)
    obtain ⟨part, more, split⟩ := List.exists_cons_of_ne_nil (List.splitOnP_ne_nil (· == '/') rest)
    rw [pathParts, text, List.splitOn_eq_splitOnP, List.splitOnP_cons_eq_if_modifyHead, if_neg other, split,
      List.modifyHead_cons] at parts
    by_cases dot : char :: part = ['.']
    · cases dot
      exact .inr rfl
    · rw [List.filter_cons_of_pos (by simp [dot])] at parts
      cases parts
      exact .inl rfl

theorem target_opens {arg : String} (inside : InsideTests (String.ofList (beforeColons arg.toList))) :
    ∃ opening ∈ openings, opening.toList <+: arg.toList := by
  have starts := target_starts inside
  rw [String.toList_ofList] at starts
  cases text : arg.toList with
  | nil =>
    rw [text] at starts
    rcases starts with same | same <;> cases same
  | cons char rest =>
    have head : (beforeColons (char :: rest)).head? = none ∨
        (beforeColons (char :: rest)).head? = some char := by
      unfold beforeColons
      split
      · exact .inl rfl
      · exact .inl rfl
      · rename_i same
        cases same
        exact .inr rfl
    rw [text] at starts
    rcases head with none | known
    · rw [none] at starts
      rcases starts with same | same <;> cases same
    · rw [known] at starts
      rcases starts with same | same
      · cases same
        exact ⟨"t", by decide, rest, rfl⟩
      · cases same
        exact ⟨".", by decide, rest, rfl⟩

theorem option_opens {arg : String} (listed : arg ∈ allowedPytestOptions) :
    ∃ opening ∈ openings, opening.toList <+: arg.toList := by
  have known : allowedPytestOptions.all (fun arg =>
      openings.any (fun opening => opening.toList.isPrefixOf arg.toList)) = true := by
    decide +kernel
  obtain ⟨opening, opens, begins⟩ := List.any_eq_true.mp (List.all_eq_true.mp known arg listed)
  exact ⟨opening, opens, List.isPrefixOf_iff_prefix.mp begins⟩

theorem allowed_opens {arg : String} (allowed : AllowedArgument arg) :
    ∃ opening ∈ openings, opening.toList <+: arg.toList := by
  cases allowed with
  | option listed => exact option_opens listed
  | maxfail limit _ _ _ =>
    obtain ⟨rest, text⟩ := (startsWith_iff _ _).mp limit.1
    refine ⟨"--m", by decide, "axfail=".toList ++ rest, ?_⟩
    rw [text]
    rfl
  | target _ inside => exact target_opens inside

/-- The arguments of a command that name tests. -/
def testTargets (argv : List String) : List String :=
  (argv.drop 3).filter (fun arg => !startsWith arg "-")

theorem dashed_harmless {arg : String} (allowed : AllowedArgument arg) (dashed : startsWith arg "-" = true) :
    Harmless beyond arg := by
  cases allowed with
  | option listed => exact fixed_harmless beyond (List.mem_append_right _ listed)
  | maxfail limit _ _ _ => exact maxfail_harmless beyond limit
  | target plain _ =>
    rw [dashed] at plain
    cases plain

/-- No target holds a forbidden command, and none that begins a push stands before one that
forces it. -/
structure TargetsClear (targets : List String) : Prop where
  alone : ∀ target ∈ targets, ∀ pattern ∈ forbiddenCommandPatterns, found beyond pattern.pieces target = false
  apart : targets.Pairwise (fun target later =>
    ¬ (found beyond pushing (target ++ " ") = true ∧ found beyond forcing later = true))

section

variable {beyond}

theorem targetsClear_cons {first : String} (harmless : Harmless beyond first) (rest : List String) :
    TargetsClear beyond (first :: rest) ↔ TargetsClear beyond rest := by
  constructor
  · rintro ⟨alone, apart⟩
    rw [List.forall_mem_cons] at alone
    rw [List.pairwise_cons] at apart
    exact ⟨alone.2, apart.2⟩
  · rintro ⟨alone, apart⟩
    refine ⟨List.forall_mem_cons.mpr ⟨harmless.bare, alone⟩, List.pairwise_cons.mpr ⟨?_, apart⟩⟩
    rintro later _ ⟨begun, _⟩
    rw [harmless.noPush] at begun
    cases begun

theorem targetsClear_filter {keep : String → Bool} {arguments : List String}
    (harmless : ∀ arg ∈ arguments, keep arg = false → Harmless beyond arg) :
    TargetsClear beyond arguments ↔ TargetsClear beyond (arguments.filter keep) := by
  constructor
  · rintro ⟨alone, apart⟩
    exact ⟨fun target member => alone target (List.mem_filter.mp member).1, apart.filter keep⟩
  · rintro ⟨alone, apart⟩
    refine ⟨?_, ?_⟩
    · intro target member
      cases kept : keep target with
      | false => exact (harmless target member kept).bare
      | true => exact alone target (List.mem_filter.mpr ⟨member, kept⟩)
    · refine List.Pairwise.imp_of_mem ?_ (List.pairwise_filter.mp apart)
      rintro target later member among clear ⟨begun, forced⟩
      cases kept : keep target with
      | false =>
        rw [(harmless target member kept).noPush] at begun
        cases begun
      | true =>
        cases keptLater : keep later with
        | false =>
          rw [(harmless later among keptLater).noForce] at forced
          cases forced
        | true => exact clear kept keptLater ⟨begun, forced⟩

end

theorem pattern_kinds : ∀ pattern ∈ forbiddenCommandPatterns,
    pattern.pieces.all plainPiece = true ∨ pattern.pieces = forcedPush ∨ '|' ∈ letters pattern.pieces := by
  intro pattern member
  simp only [forbiddenCommandPatterns, List.mem_cons, List.not_mem_nil, or_false] at member
  rcases member with rfl | rfl | rfl | rfl | rfl | rfl | rfl | rfl | rfl | rfl | rfl | rfl | rfl | rfl
  case inr.inr.inr.inr.inr.inl => exact .inr (.inl rfl)
  case inr.inr.inr.inr.inr.inr.inr.inr.inr.inr.inr.inr.inr => exact .inr (.inr (by decide))
  all_goals exact .inl (by decide)

theorem push_forbidden : ∃ pattern ∈ forbiddenCommandPatterns, pattern.pieces = forcedPush :=
  ⟨forbiddenCommandPatterns[5], List.getElem_mem _, rfl⟩

theorem folded_bar {char : Char} (same : folded char = '|') : char = '|' := by
  unfold folded at same
  split at same
  · cases same
  · split at same
    · cases same
    · split at same
      · cases same
      · rcases toLower_code char with ⟨low, high, code⟩ | plain
        · rw [same] at code
          have bar : '|'.toNat = 124 := rfl
          omega
        · exact plain.symm.trans same

theorem piped_absent {pieces : List Piece} (piped : '|' ∈ letters pieces) {text : String}
    (plain : '|' ∉ text.toList) : found beyond pieces text = false := by
  apply not_found_of_lacking beyond piped
  intro char member same
  rw [folded_bar same] at member
  exact plain member

theorem line_clear_iff {first : String} {rest : List String} (arguments : ∀ arg ∈ rest, Argument arg)
    (plain : ∀ arg ∈ first :: rest, '\n' ∉ arg.toList ∧ '|' ∉ arg.toList) :
    (∀ pattern ∈ forbiddenCommandPatterns, found beyond pattern.pieces (line (first :: rest)) = false) ↔
      TargetsClear beyond (first :: rest) := by
  have bare := (plain first List.mem_cons_self).1
  constructor
  · intro clear
    obtain ⟨push, listed, same⟩ := push_forbidden
    have noPush := clear push listed
    rw [same, not_found_push_line beyond arguments bare] at noPush
    refine ⟨?_, noPush.2⟩
    intro target member pattern among
    rcases pattern_kinds pattern among with simple | pushed | piped
    · have absent := clear pattern among
      rw [found_plain_line beyond arguments bare among simple, List.any_eq_false] at absent
      exact eq_false_of_ne_true (absent target member)
    · rw [pushed]
      exact noPush.1 target member
    · exact piped_absent beyond piped (plain target member).2
  · rintro ⟨alone, apart⟩ pattern among
    rcases pattern_kinds pattern among with simple | pushed | piped
    · rw [found_plain_line beyond arguments bare among simple, List.any_eq_false]
      intro target member
      rw [alone target member pattern among]
      exact Bool.false_ne_true
    · rw [pushed, not_found_push_line beyond arguments bare]
      refine ⟨?_, apart⟩
      intro target member
      rw [← pushed]
      exact alone target member pattern among
    · apply piped_absent beyond piped
      intro member
      rcases mem_line member with blank | ⟨arg, inside, present⟩
      · exact absurd blank (by decide)
      · exact (plain arg inside).2 present

theorem authorized_iff (command : List String) :
    assertUnattendedCommandAuthorized command beyond = .ok () ↔
      ∀ pattern ∈ forbiddenCommandPatterns, found beyond pattern.pieces (line command) = false := by
  unfold assertUnattendedCommandAuthorized deniedPattern
  cases hit : forbiddenCommandPatterns.find?
      (fun pattern => found beyond pattern.pieces (" ".intercalate command)) with
  | none =>
    have clear := List.find?_eq_none.mp hit
    refine ⟨fun _ pattern member => eq_false_of_ne_true (clear pattern member), fun _ => rfl⟩
  | some pattern =>
    have matched := List.find?_some hit
    refine ⟨nofun, fun clear => ?_⟩
    have absent := clear pattern (List.mem_of_find?_eq_some hit)
    rw [line] at absent
    rw [absent] at matched
    cases matched

theorem allowed_authorized_iff {argv : List String} (allowed : AllowedCommand argv) :
    assertUnattendedCommandAuthorized argv beyond = .ok () ↔ TargetsClear beyond (testTargets argv) := by
  obtain ⟨⟨executable, plain, module⟩, allowedArguments⟩ := allowed
  cases argv with
  | nil => exact absurd executable (by decide)
  | cons first rest =>
    have parts : rest.take 2 = ["-m", "pytest"] := module
    obtain ⟨arguments, rfl⟩ : ∃ arguments, rest = "-m" :: "pytest" :: arguments :=
      ⟨rest.drop 2, by rw [← List.take_append_drop 2 rest, parts]; rfl⟩
    have bare : ∀ arg ∈ first :: "-m" :: "pytest" :: arguments, '\n' ∉ arg.toList ∧ '|' ∉ arg.toList := by
      intro arg member
      have clean := plain arg member
      exact ⟨fun inside => clean _ inside (by decide), fun inside => clean _ inside (by decide)⟩
    have all : ∀ arg ∈ "-m" :: "pytest" :: arguments, Argument arg := by
      intro arg member
      refine ⟨?_, (bare arg (List.mem_cons_of_mem _ member)).1⟩
      rw [List.mem_cons, List.mem_cons] at member
      rcases member with rfl | rfl | among
      · exact ⟨"-m", by decide, List.prefix_refl _⟩
      · exact ⟨"pytest", by decide, List.prefix_refl _⟩
      · exact allowed_opens (allowedArguments arg among)
    have known : first ∈ fixedArguments := by
      rw [List.headD_cons, allowedCommandExecutables, List.mem_cons, List.mem_singleton] at executable
      rcases executable with rfl | rfl <;> decide
    rw [authorized_iff, line_clear_iff beyond all bare, targetsClear_cons (fixed_harmless beyond known),
      targetsClear_cons (fixed_harmless beyond (by decide)),
      targetsClear_cons (fixed_harmless beyond (by decide))]
    apply targetsClear_filter
    intro arg member dashed
    exact dashed_harmless beyond (allowedArguments arg member) (by simpa using dashed)

/-- A frozen command passes the deny gate exactly when its targets are clear. -/
theorem frozen_command_authorized_iff {authorized : List String} {checks : Json} {normalized : List Check}
    (frozen : normalizeDeterministicAcceptanceChecks authorized checks = .ok normalized)
    {argv : List String} {timeout : Int} (member : .commandSucceeds argv timeout ∈ normalized) :
    assertUnattendedCommandAuthorized argv beyond = .ok () ↔ TargetsClear beyond (testTargets argv) := by
  cases checks with
  | arr raws =>
    obtain ⟨paired, _, _⟩ := normalizeFrom_ok_iff.mp frozen
    obtain ⟨raw, _, read⟩ := forall₂_right paired member
    cases read with
    | command _ _ allowed => exact allowed_authorized_iff beyond allowed
  | null | bool _ | int _ | float _ | str _ | obj _ => cases frozen

def pytestArgv (target : String) : List String := [".venv/bin/python", "-m", "pytest", target]

theorem firm_target_authorized_iff :
    assertUnattendedCommandAuthorized (pytestArgv "tests/test_firm.py") asciiAlone = .ok () ↔
      TargetsClear asciiAlone (testTargets (pytestArgv "tests/test_firm.py")) :=
  frozen_command_authorized_iff asciiAlone
    (show normalizeDeterministicAcceptanceChecks [] (.arr [pytestCheck ["tests/test_firm.py"]]) =
      .ok [.commandSucceeds (pytestArgv "tests/test_firm.py") 300] by decide +kernel)
    (List.mem_singleton_self _)

/-- A directory of tests that bears the name of a command is denied. -/
theorem removal_tests_denied :
    normalizeDeterministicAcceptanceChecks [] (.arr [pytestCheck ["tests/rm"]]) =
        .ok [.commandSucceeds (pytestArgv "tests/rm") 300] ∧
      assertUnattendedCommandAuthorized (pytestArgv "tests/rm") ≠ .ok () := by
  refine ⟨by decide +kernel, ?_⟩
  intro accepted
  have denied : (assertUnattendedCommandAuthorized (pytestArgv "tests/rm")).isOk = false := by
    decide +kernel
  rw [accepted] at denied
  cases denied

end Lucius.Safety
