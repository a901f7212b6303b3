import Lucius.Lib.Readable
import Mathlib.Data.List.Infix

/-! Texts in which values are written between letters that belong to none of them: a text stands in
such a writing within a value or astride one of those letters. -/

namespace Lucius.Framed

variable {σ : Type}

/-- A value as it is written, and the letter behind it. -/
structure Part (σ : Type) where
  written : List σ := []
  next : σ

def text (parts : List (Part σ)) : List σ := parts.flatMap (fun part => part.written ++ [part.next])

/-- Letters that belong to no value. -/
def frame (letters : List σ) : List (Part σ) := letters.map (fun letter => { next := letter })

/-- The wanted text stands there with the letter behind one of the parts in it. -/
def Straddles (wanted : List σ) (parts : List (Part σ)) : Prop :=
  ∃ before part after left right, parts = before ++ part :: after ∧ wanted = left ++ part.next :: right ∧
    left <:+ text before ++ part.written ∧ right <+: text after

theorem text_append (first second : List (Part σ)) : text (first ++ second) = text first ++ text second :=
  List.flatMap_append

theorem text_cons (part : Part σ) (rest : List (Part σ)) :
    text (part :: rest) = part.written ++ part.next :: text rest := by
  simp [text]

theorem text_frame (letters : List σ) : text (frame letters) = letters := by
  simp [text, frame, List.flatMap_map]

theorem infix_append_cons {wanted front back : List σ} {letter : σ}
    (inside : wanted <:+: front ++ letter :: back) : wanted <:+: front ∨ wanted <:+: back ∨
      ∃ left right, wanted = left ++ letter :: right ∧ left <:+ front ∧ right <+: back := by
  have opened {front : List σ} (start : wanted <+: front ++ letter :: back) : wanted <:+: front ∨
      ∃ right, wanted = front ++ letter :: right ∧ right <+: back := by
    rcases List.prefix_or_prefix_of_prefix start (List.prefix_append front _) with short | long
    · exact .inl short.isInfix
    · obtain ⟨beyond, rfl⟩ := long
      have tail := (List.prefix_append_right_inj front).mp start
      rcases List.prefix_cons_iff.mp tail with rfl | ⟨right, rfl, follows⟩
      · exact .inl (by rw [List.append_nil])
      · exact .inr ⟨right, rfl, follows⟩
  induction front with
  | nil =>
    rcases List.infix_cons_iff.mp inside with start | later
    · rcases @opened [] start with none | ⟨right, same, follows⟩
      · exact .inl none
      · exact .inr (.inr ⟨[], right, same, List.suffix_refl _, follows⟩)
    · exact .inr (.inl later)
  | cons first rest ih =>
    rcases List.infix_cons_iff.mp inside with start | later
    · rcases @opened (first :: rest) start with within | ⟨right, same, follows⟩
      · exact .inl within
      · exact .inr (.inr ⟨first :: rest, right, same, List.suffix_refl _, follows⟩)
    · rcases ih later with within | beyond | ⟨left, right, same, ends, follows⟩
      · exact .inl (within.trans (List.suffix_cons first rest).isInfix)
      · exact .inr (.inl beyond)
      · exact .inr (.inr ⟨left, right, same, ends.trans (List.suffix_cons first rest), follows⟩)

theorem infix_of_straddles {wanted : List σ} {parts : List (Part σ)} (astride : Straddles wanted parts) :
    wanted <:+: text parts := by
  obtain ⟨before, part, after, left, right, rfl, rfl, ⟨head, ends⟩, tail, starts⟩ := astride
  refine ⟨head, tail, ?_⟩
  rw [text_append, text_cons, ← starts, ← List.append_assoc (text before), ← ends]
  simp

/-- A text that is not empty stands within a value or astride a letter between them. -/
theorem infix_text_iff {wanted : List σ} (some : wanted ≠ []) (parts : List (Part σ)) :
    wanted <:+: text parts ↔ (∃ part ∈ parts, wanted <:+: part.written) ∨ Straddles wanted parts := by
  constructor
  · intro inside
    induction parts with
    | nil => exact absurd (List.eq_nil_of_infix_nil inside) some
    | cons part rest ih =>
      rw [text_cons] at inside
      rcases infix_append_cons inside with within | later | ⟨left, right, same, ends, starts⟩
      · exact .inl ⟨part, List.mem_cons_self, within⟩
      · rcases ih later with ⟨other, member, within⟩ | ⟨before, other, after, left, right, split, same, ends, starts⟩
        · exact .inl ⟨other, List.mem_cons_of_mem _ member, within⟩
        · refine .inr ⟨part :: before, other, after, left, right, by rw [split]; rfl, same, ?_, starts⟩
          rw [text_cons, List.append_assoc, List.cons_append]
          exact ends.trans ((List.suffix_cons _ _).trans (List.suffix_append _ _))
      · exact .inr ⟨[], part, rest, left, right, rfl, same, ends, starts⟩
  · rintro (⟨part, member, within⟩ | astride)
    · obtain ⟨before, after, rfl⟩ := List.append_of_mem member
      rw [text_append, text_cons]
      exact within.trans ((List.prefix_append _ _).isInfix.trans (List.suffix_append _ _).isInfix)
    · exact infix_of_straddles astride

/-! ### Which values are written -/

/-- The parts write these values and no others. -/
structure WritesAll (values : List (List σ)) (parts : List (Part σ)) : Prop where
  among : ∀ part ∈ parts, part.written = [] ∨ part.written ∈ values
  each : ∀ value ∈ values, ∃ part ∈ parts, part.written = value

variable {α : Type} {values others : List (List σ)} {parts rest : List (Part σ)}

theorem writes_frame (letters : List σ) : WritesAll [] (frame letters) where
  among := by
    intro part member
    obtain ⟨letter, _, rfl⟩ := List.mem_map.mp member
    exact .inl rfl
  each := by simp

theorem writes_append (one : WritesAll values parts) (two : WritesAll others rest) :
    WritesAll (values ++ others) (parts ++ rest) where
  among := by
    intro part member
    rcases List.mem_append.mp member with here | later
    · exact (one.among part here).imp id (List.mem_append_left _)
    · exact (two.among part later).imp id (List.mem_append_right _)
  each := by
    intro value member
    rcases List.mem_append.mp member with here | later
    · obtain ⟨part, inside, same⟩ := one.each value here
      exact ⟨part, List.mem_append_left _ inside, same⟩
    · obtain ⟨part, inside, same⟩ := two.each value later
      exact ⟨part, List.mem_append_right _ inside, same⟩

theorem mem_joined {separator : List (Part σ)} {write : α → List (Part σ)} {items : List α} {part : Part σ} :
    (part ∈ joined separator write items → part ∈ separator ∨ part ∈ items.flatMap write) ∧
      (part ∈ items.flatMap write → part ∈ joined separator write items) := by
  cases items with
  | nil => simp [joined]
  | cons first rest =>
    simp only [joined, List.flatMap_cons, List.mem_append, List.mem_flatMap]
    grind

/-- Behind separators, and in whatever order, the items write what they write by themselves. -/
theorem writes_joined (letters : List σ) {write : α → List (Part σ)} {items ordered : List α}
    (same : ∀ item, item ∈ ordered ↔ item ∈ items) (flat : WritesAll values (items.flatMap write)) :
    WritesAll values (joined (frame letters) write ordered) := by
  have reordered (part : Part σ) : part ∈ ordered.flatMap write ↔ part ∈ items.flatMap write := by
    simp only [List.mem_flatMap, same]
  constructor
  · intro part member
    rcases mem_joined.1 member with between | own
    · exact .inl ((writes_frame letters).among part between |>.resolve_right (by simp))
    · exact flat.among part ((reordered part).mp own)
  · intro value member
    obtain ⟨part, inside, written⟩ := flat.each value member
    exact ⟨part, mem_joined.2 ((reordered part).mpr inside), written⟩

theorem infix_written_iff {wanted : List σ} (some : wanted ≠ []) (writes : WritesAll values parts) :
    (∃ part ∈ parts, wanted <:+: part.written) ↔ ∃ value ∈ values, wanted <:+: value := by
  constructor
  · rintro ⟨part, member, inside⟩
    rcases writes.among part member with none | listed
    · rw [none] at inside
      exact absurd (List.eq_nil_of_infix_nil inside) some
    · exact ⟨_, listed, inside⟩
  · rintro ⟨value, member, inside⟩
    obtain ⟨part, listed, rfl⟩ := writes.each value member
    exact ⟨part, listed, inside⟩

end Lucius.Framed
