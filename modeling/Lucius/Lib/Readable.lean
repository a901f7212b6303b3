import Mathlib.Tactic.Common

/-! Writings that can be told from whatever follows them.

A writing that is readable is read off the front of a text in one way at most. The rules make
readable writings of pairs, options and lists out of those of their parts. -/

namespace Lucius

universe u v w

variable {α : Type u} {β : Type v} {σ : Type w}

def Readable (write : α → List σ) : Prop :=
  ∀ one two rest more, write one ++ rest = write two ++ more → one = two ∧ rest = more

/-- The writings of items, each but the first behind a separator. -/
def joined (separator : List σ) (write : α → List σ) : List α → List σ
  | [] => []
  | first :: rest => write first ++ rest.flatMap (fun item => separator ++ write item)

theorem joined_map (separator : List σ) (write : β → List σ) (make : α → β) (things : List α) :
    joined separator write (things.map make) = joined separator (fun thing => write (make thing)) things := by
  cases things with
  | nil => rfl
  | cons first rest => rw [List.map_cons, joined, joined, List.flatMap_map]

namespace Readable

variable {write : α → List σ} {other : β → List σ}

theorem injective (readable : Readable write) : Function.Injective write := by
  intro one two same
  exact (readable one two [] [] (by rw [same])).1

/-- What can be read back is readable. -/
theorem of_reader {read : List σ → Option (α × List σ)}
    (reads : ∀ thing rest, read (write thing ++ rest) = some (thing, rest)) : Readable write := by
  intro one two rest more same
  have first := reads one rest
  rw [same, reads two more] at first
  have both := Prod.mk.inj (Option.some.inj first)
  exact ⟨both.1.symm, both.2.symm⟩

theorem comp {view : β → α} (readable : Readable write) (apart : Function.Injective view) :
    Readable (fun thing => write (view thing)) := by
  intro one two rest more same
  have both := readable _ _ rest more same
  exact ⟨apart both.1, both.2⟩

theorem behind (mark : List σ) (readable : Readable write) : Readable (fun thing => mark ++ write thing) := by
  intro one two rest more same
  rw [List.append_assoc, List.append_assoc] at same
  exact readable one two rest more (List.append_cancel_left same)

theorem pair (readable : Readable write) (second : Readable other) :
    Readable (fun both : α × β => write both.1 ++ other both.2) := by
  rintro ⟨one, left⟩ ⟨two, right⟩ rest more same
  rw [List.append_assoc, List.append_assoc] at same
  obtain ⟨rfl, later⟩ := readable one two _ _ same
  obtain ⟨rfl, after⟩ := second left right _ _ later
  exact ⟨rfl, after⟩

theorem option {absent : List σ} (readable : Readable write)
    (apart : ∀ thing rest more, write thing ++ rest ≠ absent ++ more) :
    Readable (fun value : Option α => value.elim absent write) := by
  intro one two rest more same
  cases one with
  | none =>
    cases two with
    | none => exact ⟨rfl, List.append_cancel_left same⟩
    | some thing => exact absurd same.symm (apart thing more rest)
  | some thing =>
    cases two with
    | none => exact absurd same (apart thing rest more)
    | some next =>
      have both := readable thing next rest more same
      exact ⟨congrArg some both.1, both.2⟩

theorem bool {yes no : List σ} (apart : ∀ rest more, yes ++ rest ≠ no ++ more) :
    Readable (fun value : Bool => if value then yes else no) := by
  intro one two rest more same
  cases one with
  | false =>
    cases two with
    | false => exact ⟨rfl, List.append_cancel_left same⟩
    | true => exact absurd same.symm (apart more rest)
  | true =>
    cases two with
    | false => exact absurd same (apart rest more)
    | true => exact ⟨rfl, List.append_cancel_left same⟩

/-- Items one behind the other, up to a mark that none of them starts with. -/
theorem ended {stop : List σ} (readable : Readable write)
    (apart : ∀ thing rest more, write thing ++ rest ≠ stop ++ more) :
    Readable (fun things : List α => things.flatMap write ++ stop) := by
  intro one two rest more same
  dsimp only at same
  induction one generalizing two with
  | nil =>
    cases two with
    | nil => exact ⟨rfl, List.append_cancel_left same⟩
    | cons thing others =>
      rw [List.flatMap_nil, List.nil_append, List.flatMap_cons, List.append_assoc,
        List.append_assoc] at same
      exact absurd same.symm (apart thing _ rest)
  | cons first later ih =>
    cases two with
    | nil =>
      rw [List.flatMap_nil, List.nil_append, List.flatMap_cons, List.append_assoc,
        List.append_assoc] at same
      exact absurd same (apart first _ more)
    | cons thing others =>
      rw [List.flatMap_cons, List.flatMap_cons, List.append_assoc, List.append_assoc,
        List.append_assoc, List.append_assoc] at same
      obtain ⟨rfl, after⟩ := readable first thing _ _ same
      rw [← List.append_assoc, ← List.append_assoc (others.flatMap write)] at after
      obtain ⟨rfl, ends⟩ := ih others after
      exact ⟨rfl, ends⟩

/-- Items with a separator between them, up to a mark that no item and no separator starts
with. -/
theorem listed {separator stop : List σ} (readable : Readable write)
    (apart : ∀ thing rest more, write thing ++ rest ≠ stop ++ more)
    (parted : ∀ rest more, separator ++ rest ≠ stop ++ more) :
    Readable (fun things : List α => joined separator write things ++ stop) := by
  have behindSeparator : Readable (fun things : List α =>
      things.flatMap (fun item => separator ++ write item) ++ stop) := by
    apply ended (readable.behind separator)
    intro thing rest more same
    rw [List.append_assoc] at same
    exact parted _ more same
  intro one two rest more same
  dsimp only at same
  cases one with
  | nil =>
    cases two with
    | nil => exact ⟨rfl, List.append_cancel_left same⟩
    | cons thing others =>
      rw [joined, joined, List.nil_append, List.append_assoc, List.append_assoc] at same
      exact absurd same.symm (apart thing _ rest)
  | cons first later =>
    cases two with
    | nil =>
      rw [joined, joined, List.nil_append, List.append_assoc, List.append_assoc] at same
      exact absurd same (apart first _ more)
    | cons thing others =>
      rw [joined, joined, List.append_assoc, List.append_assoc, List.append_assoc,
        List.append_assoc] at same
      obtain ⟨rfl, after⟩ := readable first thing _ _ same
      rw [← List.append_assoc, ← List.append_assoc] at after
      obtain ⟨rfl, ends⟩ := behindSeparator later others rest more after
      exact ⟨rfl, ends⟩

end Readable

end Lucius
