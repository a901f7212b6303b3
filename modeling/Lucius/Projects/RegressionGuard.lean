import Lucius.Repositories.RepositoryPaths
import Lucius.Domain.Characters

/-! The check that a proposed phase does not fall behind the current one. -/

namespace Lucius.Projects

inductive RegressionViolationType where
  | phaseRegression | closedGateReopen | staleShaAssumption | briefNotEngineeringReady | sourceOfTruthConflict
  deriving DecidableEq

structure RegressionViolation where
  violationType : RegressionViolationType
  projectId : String
  message : String
  canonicalValue : String
  proposedValue : String
  deriving DecidableEq

/-- `text.strip().upper()` -/
def normalized (text : List Char) : List Char := (Json.strip text).map Char.toUpper

def isGap (char : Char) : Bool := char = '_' || Json.isSpace char

def word : List Char := ['P', 'H', 'A', 'S', 'E']

def number (digits : List Char) : Nat := digits.foldl (fun total digit => 10 * total + (digit.toNat - 48)) 0

/-- `re.search(r"PHASE[_\s]*([0-9]+)", text)`, as the number found. -/
def phaseNumber : List Char → Option Nat
  | [] => none
  | char :: rest =>
    let digits := (((char :: rest).drop 5).dropWhile isGap).takeWhile Char.isDigit
    if word.isPrefixOf (char :: rest) ∧ digits ≠ [] then some (number digits) else phaseNumber rest

def phaseRegressionCheck (projectId : String) (currentPhase proposedPhase : List Char) :
    Option RegressionViolation := do
  let current ← phaseNumber (normalized currentPhase)
  let proposed ← phaseNumber (normalized proposedPhase)
  let canonical := String.ofList (normalized currentPhase)
  let given := String.ofList (normalized proposedPhase)
  if proposed < current then
    some ⟨.phaseRegression, projectId, s!"Proposed phase '{given}' regresses behind canonical current phase " ++
      s!"'{canonical}'.", canonical, given⟩
  else none

/-! ### Phases in dotted numeric form -/

/-- The digits of a component. -/
structure Digits where
  chars : List Char
  filled : chars ≠ []
  digits : ∀ char ∈ chars, char.isDigit = true

/-- The word in front of a phase, in any case, and what stands between it and the number. -/
structure Label where
  chars : List Char
  gap : List Char
  spelled : chars.map Char.toUpper = word
  gaps : ∀ char ∈ gap, isGap char = true

structure Phase where
  label : Option Label
  leading : Digits
  others : List Digits := []
  suffix : Option Char := none
  letter : ∀ char ∈ suffix, char.isAlpha = true

def Phase.numberText (phase : Phase) : List Char :=
  phase.leading.chars ++ (phase.others.flatMap (fun digits => '.' :: digits.chars) ++ phase.suffix.toList)

def Phase.text (phase : Phase) : List Char :=
  (match phase.label with
    | none => []
    | some label => label.chars ++ label.gap) ++ phase.numberText

/-- The components after the first, then the suffix; no suffix comes first. -/
def Phase.restPrecedes (phase other : Phase) : Prop :=
  phase.others.map (fun digits => number digits.chars) < other.others.map (fun digits => number digits.chars) ∨
    phase.others.map (fun digits => number digits.chars) = other.others.map (fun digits => number digits.chars) ∧
      (phase.suffix.map fun letter => letter.toUpper.toNat).getD 0 <
        (other.suffix.map fun letter => letter.toUpper.toNat).getD 0

def Phase.precedes (phase other : Phase) : Prop :=
  number phase.leading.chars < number other.leading.chars ∨
    number phase.leading.chars = number other.leading.chars ∧ phase.restPrecedes other

/-- The guard flags what precedes the current phase, and no more. -/
def GuardExact (projectId : String) (current proposed : Phase) : Prop :=
  (phaseRegressionCheck projectId current.text proposed.text).isSome = true ↔ proposed.precedes current

theorem upper_of_not_lower {char : Char} (other : ¬ (97 ≤ char.toNat ∧ char.toNat ≤ 122)) : char.toUpper = char := by
  apply dif_neg
  intro small
  exact other ⟨small.1, small.2⟩

theorem digit_bounds {char : Char} : char.isDigit = true ↔ 48 ≤ char.toNat ∧ char.toNat ≤ 57 := by
  rw [Char.isDigit, Bool.and_eq_true, decide_eq_true_iff, decide_eq_true_iff]
  rfl

theorem digit_facts {char : Char} (digit : char.isDigit = true) :
    char.toUpper = char ∧ Json.isSpace char = false ∧ isGap char = false := by
  have bounds := digit_bounds.mp digit
  have solid : Json.isSpace char = false := by
    simp [Json.isSpace]
    omega
  refine ⟨upper_of_not_lower (by omega), solid, ?_⟩
  rw [isGap, solid, Bool.or_false, decide_eq_false_iff_not]
  rintro rfl
  exact absurd digit (by decide)

theorem letter_facts {char : Char} (letter : char.isAlpha = true) :
    char.toUpper.isDigit = false ∧ Json.isSpace char = false := by
  have code : char.val.toNat = char.toNat := rfl
  have bounds : (65 ≤ char.toNat ∧ char.toNat ≤ 90) ∨ (97 ≤ char.toNat ∧ char.toNat ≤ 122) := by
    have cased : (decide (char.val ≥ 'A'.val ∧ char.val ≤ 'Z'.val) ||
        (decide (char.val ≥ 'a'.val) && decide (char.val ≤ 'z'.val))) = true := letter
    simpa [UInt32.le_iff_toNat_le, code] using cased
  constructor
  · rw [Bool.eq_false_iff, Ne, digit_bounds]
    by_cases small : char.val ≥ 'a'.val ∧ char.val ≤ 'z'.val
    · have upper : char.toUpper.val = char.val + ('A'.val - 'a'.val) := by
        delta Char.toUpper
        rw [dif_pos small]
      change ¬ (48 ≤ char.toUpper.val.toNat ∧ char.toUpper.val.toNat ≤ 57)
      have low : 97 ≤ char.val.toNat := small.1
      have gap : ('A'.val - 'a'.val).toNat = 4294967264 := by decide
      rw [upper, UInt32.toNat_add, gap]
      omega
    · rw [upper_of_not_lower (fun both => small ⟨both.1, both.2⟩)]
      omega
  · simp [Json.isSpace]
    omega

theorem gap_upper {char : Char} (gap : isGap char = true) : char.toUpper = char := by
  apply upper_of_not_lower
  simp [isGap, Json.isSpace] at gap
  rcases gap with rfl | gap
  · decide
  · omega

theorem phaseNumber_letters {chars : List Char} {value : Nat} (found : phaseNumber chars = some value) :
    'P' ∈ chars ∧ 'H' ∈ chars := by
  induction chars with
  | nil => cases found
  | cons char rest ih =>
    rw [phaseNumber] at found
    split at found
    · rename_i begins
      obtain ⟨back, same⟩ := List.isPrefixOf_iff_prefix.mp begins.1
      rw [← same]
      exact ⟨by simp [word], by simp [word]⟩
    · exact ⟨List.mem_cons_of_mem _ (ih found).1, List.mem_cons_of_mem _ (ih found).2⟩

theorem phaseNumber_word {tail digits : List Char} (read : (tail.dropWhile isGap).takeWhile Char.isDigit = digits)
    (filled : digits ≠ []) : phaseNumber (word ++ tail) = some (number digits) := by
  have begins : word.isPrefixOf ('P' :: 'H' :: 'A' :: 'S' :: 'E' :: tail) = true :=
    List.isPrefixOf_iff_prefix.mpr (List.prefix_append word tail)
  simp only [word, List.cons_append, List.nil_append, phaseNumber, List.drop_succ_cons, List.drop_zero, read]
  exact if_pos ⟨begins, filled⟩

theorem numberText_solid (phase : Phase) : ∀ char ∈ phase.numberText, Json.isSpace char = false := by
  intro char member
  simp only [Phase.numberText, List.mem_append, List.mem_flatMap, List.mem_cons, Option.mem_toList] at member
  rcases member with inside | ⟨digits, -, rfl | inside⟩ | letter
  · exact (digit_facts (phase.leading.digits char inside)).2.1
  · decide
  · exact (digit_facts (digits.digits char inside)).2.1
  · exact (letter_facts (phase.letter char letter)).2

theorem strip_text (phase : Phase) : Json.strip phase.text = phase.text := by
  have filled : phase.numberText ≠ [] := by simp [Phase.numberText, phase.leading.filled]
  rw [Worktree.strip_eq_self_iff]
  constructor
  · unfold Phase.text
    cases phase.label with
    | none =>
      rw [List.nil_append, List.head?_eq_some_head filled]
      exact numberText_solid phase _ (List.head_mem filled)
    | some label =>
      obtain ⟨first, rest, shape⟩ : ∃ first rest, label.chars = first :: rest :=
        List.exists_cons_of_ne_nil (by intro none; have same := label.spelled; rw [none] at same; cases same)
      have spelled := label.spelled
      rw [shape] at spelled
      have named : first.toUpper = 'P' := (List.cons.inj spelled).1
      have head : (label.chars ++ label.gap ++ phase.numberText).head? = some first := by rw [shape]; rfl
      change Option.any Json.isSpace (label.chars ++ label.gap ++ phase.numberText).head? = false
      rw [head, Option.any_some, Bool.eq_false_iff]
      intro space
      have same : first.toUpper = first := gap_upper (by rw [isGap, space, Bool.or_true])
      rw [← same, named] at space
      exact absurd space (by decide)
  · rw [Phase.text, List.getLast?_append, List.getLast?_eq_some_getLast filled]
    exact numberText_solid phase _ (List.getLast_mem filled)

theorem map_upper {chars : List Char} (same : ∀ char ∈ chars, char.toUpper = char) :
    chars.map Char.toUpper = chars :=
  (List.map_congr_left same).trans (List.map_id chars)

/-- What follows the first component in upper case. -/
def Phase.upperRest (phase : Phase) : List Char :=
  phase.others.flatMap (fun digits => '.' :: digits.chars) ++ (phase.suffix.map Char.toUpper).toList

theorem numberText_upper (phase : Phase) :
    phase.numberText.map Char.toUpper = phase.leading.chars ++ phase.upperRest := by
  have kept (digits : Digits) : digits.chars.map Char.toUpper = digits.chars :=
    map_upper fun char member => (digit_facts (digits.digits char member)).1
  simp only [Phase.numberText, Phase.upperRest, List.map_append, kept, List.map_flatMap, List.map_cons]
  cases phase.suffix <;> rfl

theorem upperRest_first (phase : Phase) : ∀ first ∈ phase.upperRest.head?, first.isDigit = false := by
  intro first member
  unfold Phase.upperRest at member
  cases known : phase.others with
  | nil =>
    rw [known] at member
    cases letter : phase.suffix with
    | none => rw [letter] at member; cases member
    | some char =>
      rw [letter] at member
      cases member
      exact (letter_facts (phase.letter char letter)).1
  | cons digits rest =>
    rw [known] at member
    cases member
    rfl

theorem phaseNumber_text (phase : Phase) :
    phaseNumber (normalized phase.text) = phase.label.map fun _ => number phase.leading.chars := by
  rw [normalized, strip_text, Phase.text, List.map_append, numberText_upper]
  cases phase.label with
  | none =>
    rw [Option.map_none, Option.eq_none_iff_forall_ne_some]
    intro value found
    obtain ⟨first, second⟩ := phaseNumber_letters found
    have letter {char : Char} (inside : char ∈ phase.leading.chars ++ phase.upperRest) (other : char.isDigit = false)
        (dotless : char ≠ '.') : phase.suffix.map Char.toUpper = some char := by
      simp only [Phase.upperRest, List.mem_append, List.mem_flatMap, List.mem_cons, Option.mem_toList] at inside
      rcases inside with inside | ⟨digits, -, same | inside⟩ | inside
      · exact absurd (phase.leading.digits char inside) (Bool.eq_false_iff.mp other)
      · exact absurd same dotless
      · exact absurd (digits.digits char inside) (Bool.eq_false_iff.mp other)
      · exact inside
    have one := letter (by simpa using first) rfl (by decide)
    rw [letter (by simpa using second) rfl (by decide)] at one
    cases one
  | some label =>
    have gaps : label.gap.map Char.toUpper = label.gap :=
      map_upper fun char member => gap_upper (label.gaps char member)
    obtain ⟨first, rest, shape⟩ := List.exists_cons_of_ne_nil phase.leading.filled
    have solid := (digit_facts (phase.leading.digits first (shape ▸ List.mem_cons_self))).2.2
    have skipped : (label.gap ++ (phase.leading.chars ++ phase.upperRest)).dropWhile isGap =
        phase.leading.chars ++ phase.upperRest := by
      rw [List.dropWhile_append_of_pos label.gaps, shape, List.cons_append,
        List.dropWhile_cons_of_neg (by rw [solid]; exact Bool.false_ne_true)]
    have taken : (phase.leading.chars ++ phase.upperRest).takeWhile Char.isDigit = phase.leading.chars := by
      rw [List.takeWhile_append_of_pos phase.leading.digits]
      cases after : phase.upperRest with
      | nil => simp
      | cons next tail =>
        have stops := upperRest_first phase next (by rw [after]; rfl)
        rw [List.takeWhile_cons_of_neg (by rw [stops]; exact Bool.false_ne_true), List.append_nil]
    rw [List.map_append, label.spelled, gaps, List.append_assoc]
    exact phaseNumber_word (by rw [skipped, taken]) phase.leading.filled

/-- The guard is exact unless the proposal precedes and its leading component does not tell, or
one of the phases does not name itself one. -/
theorem guard_exact_iff (projectId : String) (current proposed : Phase) :
    GuardExact projectId current proposed ↔ (proposed.precedes current →
      number proposed.leading.chars < number current.leading.chars ∧
        current.label.isSome = true ∧ proposed.label.isSome = true) := by
  have flagged : (phaseRegressionCheck projectId current.text proposed.text).isSome = true ↔
      number proposed.leading.chars < number current.leading.chars ∧
        current.label.isSome = true ∧ proposed.label.isSome = true := by
    rw [phaseRegressionCheck, phaseNumber_text, phaseNumber_text]
    cases current.label <;> cases proposed.label <;> simp [apply_ite Option.isSome]
  rw [GuardExact, flagged]
  exact ⟨Iff.mpr, fun told => ⟨fun less => .inl less.1, told⟩⟩

/-- The second component tells, and is not read. -/
theorem later_component_unread : ¬ ∀ current proposed, GuardExact "lucius-engineering" current proposed := by
  intro exact
  have told := (exact
    ⟨some ⟨word, [' '], by decide, List.all_eq_true.mp (by decide)⟩,
      ⟨['1'], by decide, List.all_eq_true.mp (by decide)⟩,
      [⟨['2', '4'], by decide, List.all_eq_true.mp (by decide)⟩], none, nofun⟩
    ⟨some ⟨word, [' '], by decide, List.all_eq_true.mp (by decide)⟩,
      ⟨['1'], by decide, List.all_eq_true.mp (by decide)⟩,
      [⟨['9'], by decide, List.all_eq_true.mp (by decide)⟩], none, nofun⟩).mpr (.inr ⟨rfl, .inl (by decide)⟩)
  exact absurd told (by decide +kernel)

end Lucius.Projects
