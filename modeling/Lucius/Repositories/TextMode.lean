import Lucius.Repositories.Capture
import Lucius.Repositories.LocalGit

/-! What reading in text mode keeps of a file name and of the bytes of a file. -/

namespace Lucius.Worktree

/-! ### Names -/

theorem lineFeeds_same {chars : List Char} (none : '\r' ∉ chars) : lineFeeds false chars = chars := by
  induction chars with
  | nil => rfl
  | cons char rest ih =>
    rw [List.mem_cons, not_or] at none
    have plain : ¬ (char = '\n' ∧ (false : Bool) = true) := by simp
    rw [lineFeeds, if_neg (Ne.symm none.1), if_neg plain, ih none.2]

theorem return_not_mem_lineFeeds (afterReturn : Bool) (chars : List Char) :
    '\r' ∉ lineFeeds afterReturn chars := by
  induction chars generalizing afterReturn with
  | nil => exact List.not_mem_nil
  | cons char rest ih =>
    unfold lineFeeds
    split
    · rw [List.mem_cons, not_or]
      exact ⟨by decide, ih true⟩
    · rename_i other
      split
      · exact ih false
      · rw [List.mem_cons, not_or]
        exact ⟨Ne.symm other, ih false⟩

theorem textMode_same_iff {text : String} : textMode text = text ↔ '\r' ∉ text.toList := by
  constructor
  · intro same
    rw [← same, textMode, String.toList_ofList]
    exact return_not_mem_lineFeeds false _
  · intro none
    rw [textMode, lineFeeds_same none, String.ofList_toList]

theorem mem_lineFeeds {afterReturn : Bool} {chars : List Char} {char : Char}
    (member : char ∈ lineFeeds afterReturn chars) : char = '\n' ∨ char ∈ chars := by
  induction chars generalizing afterReturn with
  | nil => exact absurd member List.not_mem_nil
  | cons first rest ih =>
    have later {flag : Bool} (inside : char ∈ lineFeeds flag rest) : char = '\n' ∨ char ∈ first :: rest :=
      (ih inside).imp id (List.mem_cons_of_mem first)
    unfold lineFeeds at member
    split at member
    · cases List.mem_cons.mp member with
      | inl feed => exact .inl feed
      | inr inside => exact later inside
    · split at member
      · exact later member
      · cases List.mem_cons.mp member with
        | inl same => exact .inr (same ▸ List.mem_cons_self)
        | inr inside => exact later inside

theorem feed_mem_lineFeeds {afterReturn : Bool} {chars : List Char} (member : '\r' ∈ chars) :
    '\n' ∈ lineFeeds afterReturn chars := by
  induction chars generalizing afterReturn with
  | nil => exact absurd member List.not_mem_nil
  | cons first rest ih =>
    unfold lineFeeds
    split
    · exact List.mem_cons_self
    · rename_i other
      have inside := (List.mem_cons.mp member).resolve_left (Ne.symm other)
      split
      · exact ih inside
      · exact List.mem_cons_of_mem _ (ih inside)

theorem lineFeeds_eq {chars plain : List Char} (read : lineFeeds false chars = plain)
    (unbroken : '\n' ∉ plain) : chars = plain := by
  have none : '\r' ∉ chars := by
    intro member
    have feed := @feed_mem_lineFeeds false chars member
    rw [read] at feed
    exact unbroken feed
  rwa [lineFeeds_same none] at read

theorem lineFeeds_slash (afterReturn : Bool) (front back : List Char) :
    lineFeeds afterReturn (front ++ '/' :: back) =
      lineFeeds afterReturn front ++ '/' :: lineFeeds false back := by
  induction front generalizing afterReturn with
  | nil => simp [lineFeeds]
  | cons char rest ih =>
    simp only [List.cons_append, lineFeeds, ih]
    split
    · rw [List.cons_append]
    · split
      · rfl
      · rw [List.cons_append]

theorem lineFeeds_intercalate (parts : List (List Char)) :
    lineFeeds false (['/'].intercalate parts) = ['/'].intercalate (parts.map (lineFeeds false)) := by
  induction parts with
  | nil => rfl
  | cons first rest ih =>
    cases rest with
    | nil => simp [List.intercalate]
    | cons second others =>
      have joined (front : List Char) (back : List (List Char)) (more : back ≠ []) :
          ['/'].intercalate (front :: back) = front ++ '/' :: ['/'].intercalate back := by
        cases back with
        | nil => exact absurd rfl more
        | cons next tail => simp [List.intercalate, List.intersperse]
      have more : (second :: others).map (lineFeeds false) ≠ [] := List.cons_ne_nil _ _
      rw [joined first _ (List.cons_ne_nil _ _), lineFeeds_slash, ih, ← joined _ _ more]
      rfl

theorem asPosix_ne_nil {parts : List (List Char)} (some : parts ≠ []) :
    asPosix parts = String.ofList (['/'].intercalate parts) := by
  rw [asPosix, if_neg (by rwa [List.isEmpty_iff])]
  rfl

theorem validate_joined {parts : List (List Char)} (some : parts ≠ [])
    (plain : ∀ part ∈ parts, '/' ∉ part ∧ part ≠ [] ∧ part ≠ ['.'] ∧ part ≠ ['.', '.']) :
    validateRelativePath (asPosix parts) = .ok (asPosix parts) := by
  have split : (['/'].intercalate parts).splitOn '/' = parts :=
    List.splitOn_intercalate '/' (fun part member => (plain part member).1) some
  have text : (asPosix parts).toList = ['/'].intercalate parts := by
    rw [asPosix_ne_nil some, String.toList_ofList]
  have read : pathParts (asPosix parts) = parts := by
    rw [pathParts, text, split, List.filter_eq_self]
    intro part member
    have known := plain part member
    simp [known.2.1, known.2.2.1]
  have relative : (asPosix parts).toList.head? ≠ Option.some '/' := by
    intro absolute
    rw [text] at absolute
    obtain ⟨rest, starts⟩ := List.head?_eq_some_iff.mp absolute
    rw [starts, List.splitOn_cons_eq_if_modifyHead, if_pos (beq_self_eq_true _)] at split
    have empty : [] ∈ parts := by
      rw [← split]
      exact List.mem_cons_self
    exact (plain [] empty).2.1 rfl
  have inside : ['.', '.'] ∉ pathParts (asPosix parts) := by
    rw [read]
    exact fun member => (plain _ member).2.2.2 rfl
  rw [validateRelativePath, if_neg (not_or.mpr ⟨relative, inside⟩), read]

theorem validate_textMode {path : String} (normal : validateRelativePath path = .ok path) :
    validateRelativePath (textMode path) = .ok (textMode path) := by
  unfold validateRelativePath at normal
  split at normal
  · cases normal
  · rename_i plain
    rw [not_or] at plain
    have joined : asPosix (pathParts path) = path := Except.ok.inj normal
    by_cases none : pathParts path = []
    · rw [none] at joined
      rw [← joined]
      decide
    · have text : textMode path = asPosix ((pathParts path).map (lineFeeds false)) := by
        rw [asPosix_ne_nil (by simpa using none), ← lineFeeds_intercalate]
        conv_lhs => rw [textMode, ← joined, asPosix_ne_nil none, String.toList_ofList]
      rw [text]
      apply validate_joined (by simpa using none)
      intro read member
      obtain ⟨part, held, rfl⟩ := List.mem_map.mp member
      have known := mem_pathParts held
      refine ⟨?_, ?_, ?_, ?_⟩
      · intro slash
        cases mem_lineFeeds slash with
        | inl feed => exact absurd feed (by decide)
        | inr inside => exact known.1 inside
      · intro empty
        exact known.2.1 (lineFeeds_eq empty (by decide))
      · intro dot
        exact known.2.2 (lineFeeds_eq dot (by decide))
      · intro dots
        rw [lineFeeds_eq dots (by decide)] at held
        exact plain.2 held

/-! ### Contents -/

/-- A `\n` follows a `\r` somewhere. The flag says that the byte before was a `\r`. -/
def hasCrlf (afterReturn : Bool) : Bytes → Bool
  | [] => false
  | byte :: rest => (decide (byte = 10) && afterReturn) || hasCrlf (decide (byte = 13)) rest

def feed (byte : UInt8) : UInt8 := if byte = 13 then 10 else byte

theorem universalNewlines_length (afterReturn : Bool) (bytes : Bytes) :
    (universalNewlines afterReturn bytes).length ≤ bytes.length := by
  induction bytes generalizing afterReturn with
  | nil => exact Nat.le_refl _
  | cons byte rest ih =>
    unfold universalNewlines
    split
    · exact Nat.succ_le_succ (ih true)
    · split
      · exact Nat.le_succ_of_le (ih false)
      · exact Nat.succ_le_succ (ih false)

theorem universalNewlines_map {afterReturn : Bool} {bytes : Bytes}
    (none : hasCrlf afterReturn bytes = false) : universalNewlines afterReturn bytes = bytes.map feed := by
  induction bytes generalizing afterReturn with
  | nil => rfl
  | cons byte rest ih =>
    rw [hasCrlf, Bool.or_eq_false_iff, Bool.and_eq_false_iff] at none
    obtain ⟨here, later⟩ := none
    unfold universalNewlines
    rw [List.map_cons]
    by_cases carriage : byte = 13
    · rw [decide_eq_true carriage] at later
      rw [if_pos carriage, ih later, feed, if_pos carriage]
    · have unpaired : ¬ (byte = 10 ∧ afterReturn = true) := by
        rintro ⟨newline, flag⟩
        cases here with
        | inl other => exact of_decide_eq_false other newline
        | inr other => rw [flag] at other; cases other
      rw [decide_eq_false carriage] at later
      rw [if_neg carriage, if_neg unpaired, ih later, feed, if_neg carriage]

theorem universalNewlines_shorter {afterReturn : Bool} {bytes : Bytes}
    (pair : hasCrlf afterReturn bytes = true) :
    (universalNewlines afterReturn bytes).length < bytes.length := by
  induction bytes generalizing afterReturn with
  | nil => cases pair
  | cons byte rest ih =>
    rw [hasCrlf, Bool.or_eq_true, Bool.and_eq_true] at pair
    unfold universalNewlines
    by_cases carriage : byte = 13
    · have later : hasCrlf true rest = true := by
        cases pair with
        | inl here =>
          have newline := of_decide_eq_true here.1
          rw [carriage] at newline
          exact absurd newline (by decide)
        | inr later => rwa [decide_eq_true carriage] at later
      rw [if_pos carriage]
      exact Nat.succ_lt_succ (ih later)
    · rw [if_neg carriage]
      split
      · exact Nat.lt_succ_of_le (universalNewlines_length false rest)
      · rename_i unpaired
        cases pair with
        | inl here => exact absurd ⟨of_decide_eq_true here.1, here.2⟩ unpaired
        | inr later =>
          rw [decide_eq_false carriage] at later
          exact Nat.succ_lt_succ (ih later)

theorem universalNewlines_length_iff {bytes : Bytes} :
    (universalNewlines false bytes).length = bytes.length ↔ hasCrlf false bytes = false := by
  constructor
  · intro same
    cases pair : hasCrlf false bytes with
    | false => rfl
    | true => exact absurd same (Nat.ne_of_lt (universalNewlines_shorter pair))
  · intro none
    rw [universalNewlines_map none, List.length_map]

theorem zero_mem_map_feed (bytes : Bytes) : 0 ∈ bytes.map feed ↔ 0 ∈ bytes := by
  rw [List.mem_map]
  constructor
  · rintro ⟨byte, member, fed⟩
    unfold feed at fed
    split at fed
    · exact absurd fed (by decide)
    · rwa [← fed]
  · intro member
    exact ⟨0, member, by decide⟩

end Lucius.Worktree
