import Mathlib.Data.List.Sort
import Mathlib.Tactic.Ring

/-! Facts about lists: stable sorting, reading each element, elements in pairs. -/

namespace Lucius

/-- Sorting is stable, as `sorted` is. -/
def sortedBy {α κ : Type} [LE κ] [DecidableLE κ] (key : α → κ) (items : List α) : List α :=
  items.insertionSort (fun left right => key left ≤ key right)

theorem mem_sortedBy {α κ : Type} [LE κ] [DecidableLE κ] (key : α → κ) (items : List α) (item : α) :
    item ∈ sortedBy key items ↔ item ∈ items :=
  (List.perm_insertionSort _ items).mem_iff

theorem mapM_ok {α β E : Type} {parse : α → Except E β} {inputs : List α} {outputs : List β}
    (done : inputs.mapM parse = .ok outputs) :
    List.Forall₂ (fun input output => parse input = .ok output) inputs outputs := by
  induction inputs generalizing outputs with
  | nil =>
    cases done
    exact .nil
  | cons input rest ih =>
    rw [List.mapM_cons] at done
    rcases first : parse input with _ | output
    · rw [first] at done
      cases done
    · rcases later : rest.mapM parse with _ | tail
      · rw [first, later] at done
        cases done
      · rw [first, later] at done
        cases done
        exact .cons first (ih later)

theorem mapM_ok_of_forall {α β E : Type} {parse : α → Except E β} {inputs : List α}
    (each : ∀ input ∈ inputs, ∃ output, parse input = .ok output) :
    ∃ outputs, inputs.mapM parse = .ok outputs := by
  induction inputs with
  | nil => exact ⟨[], rfl⟩
  | cons input rest ih =>
    obtain ⟨output, here⟩ := each input List.mem_cons_self
    obtain ⟨outputs, later⟩ := ih (fun other member => each other (List.mem_cons_of_mem _ member))
    exact ⟨output :: outputs, by rw [List.mapM_cons, here, later]; rfl⟩

theorem mapM_ok_map {α β E : Type} {parse : α → Except E β} {give : α → β} {inputs : List α}
    (each : ∀ input ∈ inputs, parse input = .ok (give input)) :
    inputs.mapM parse = .ok (inputs.map give) := by
  induction inputs with
  | nil => rfl
  | cons input rest ih =>
    have later := ih (fun other member => each other (List.mem_cons_of_mem _ member))
    rw [List.mapM_cons, each input List.mem_cons_self, later]
    rfl

theorem forall₂_left {α β : Type} {related : α → β → Prop} {lefts : List α} {rights : List β}
    (paired : List.Forall₂ related lefts rights) {left : α} (member : left ∈ lefts) :
    ∃ right ∈ rights, related left right := by
  induction paired with
  | nil => cases member
  | cons here _ ih =>
    rcases List.mem_cons.mp member with same | later
    · exact ⟨_, List.mem_cons_self, same ▸ here⟩
    · obtain ⟨right, known, holds⟩ := ih later
      exact ⟨right, List.mem_cons_of_mem _ known, holds⟩

theorem forall₂_right {α β : Type} {related : α → β → Prop} {lefts : List α} {rights : List β}
    (paired : List.Forall₂ related lefts rights) {right : β} (member : right ∈ rights) :
    ∃ left ∈ lefts, related left right :=
  forall₂_left (List.Forall₂.flip paired) member

/-- Elements in pairs may be taken to be in their lists. -/
theorem forall₂_mem {α β : Type} {related other : α → β → Prop} {lefts : List α} {rights : List β}
    (paired : List.Forall₂ related lefts rights)
    (implies : ∀ left right, left ∈ lefts → right ∈ rights → related left right → other left right) :
    List.Forall₂ other lefts rights := by
  induction paired with
  | nil => exact .nil
  | cons here _ ih =>
    refine .cons (implies _ _ List.mem_cons_self List.mem_cons_self here) (ih ?_)
    intro left right inLeft inRight
    exact implies left right (List.mem_cons_of_mem _ inLeft) (List.mem_cons_of_mem _ inRight)

theorem mem_mapM_flatten {α β E : Type} {read : α → Except E (List β)} {inputs : List α}
    {outputs : List (List β)} (done : inputs.mapM read = .ok outputs) (value : β) :
    value ∈ outputs.flatten ↔ ∃ input ∈ inputs, ∃ values, read input = .ok values ∧ value ∈ values := by
  have paired := mapM_ok done
  constructor
  · intro member
    obtain ⟨values, listed, inside⟩ := List.mem_flatten.mp member
    obtain ⟨input, present, same⟩ := forall₂_right paired listed
    exact ⟨input, present, values, same, inside⟩
  · rintro ⟨input, present, values, same, inside⟩
    obtain ⟨others, listed, read⟩ := forall₂_left paired present
    rw [same] at read
    cases read
    exact List.mem_flatten.mpr ⟨_, listed, inside⟩

/-- Elements in pairs twice are so over the pairs between. -/
theorem forall₂_comp {α β γ : Type} {before : α → β → Prop} {after : β → γ → Prop}
    {both : α → γ → Prop} {first : List α} {second : List β} {third : List γ}
    (one : List.Forall₂ before first second) (two : List.Forall₂ after second third)
    (joined : ∀ left ∈ first, ∀ middle right, before left middle → after middle right →
      both left right) : List.Forall₂ both first third := by
  induction one generalizing third with
  | nil =>
    cases two
    exact .nil
  | @cons left middle _ _ here _ ih =>
    cases two with
    | cons next later =>
      exact .cons (joined left List.mem_cons_self middle _ here next)
        (ih later (fun other member => joined other (List.mem_cons_of_mem _ member)))

theorem forall₂_trans {α : Type} {holds : α → α → Prop}
    (transitive : ∀ first second third, holds first second → holds second third → holds first third)
    {first second third : List α} (one : List.Forall₂ holds first second)
    (two : List.Forall₂ holds second third) : List.Forall₂ holds first third :=
  forall₂_comp one two (fun left _ middle right => transitive left middle right)

/-- An element read from a list in which one was replaced is the new one, or was there before. -/
theorem getElem?_replaced {α : Type} {front back : List α} {new value : α} {place : Nat}
    (read : (front ++ new :: back)[place]? = some value) (old : α) :
    (place = front.length ∧ value = new) ∨
      (place ≠ front.length ∧ (front ++ old :: back)[place]? = some value) := by
  rcases Nat.lt_trichotomy place front.length with less | same | more
  · rw [List.getElem?_append_left less] at read
    exact .inr ⟨less.ne, by rw [List.getElem?_append_left less, read]⟩
  · subst same
    rw [List.getElem?_append_right (Nat.le_refl _), Nat.sub_self] at read
    exact .inl ⟨rfl, (Option.some.inj read).symm⟩
  · obtain ⟨gap, shift⟩ : ∃ gap, place - front.length = gap + 1 :=
      ⟨place - front.length - 1, by omega⟩
    rw [List.getElem?_append_right more.le, shift, List.getElem?_cons_succ] at read
    refine .inr ⟨more.ne', ?_⟩
    rw [List.getElem?_append_right more.le, shift, List.getElem?_cons_succ, read]

end Lucius
