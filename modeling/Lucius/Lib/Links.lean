import Mathlib.Data.Set.Finite.Basic
import Mathlib.Order.WellFounded

/-! Links that are kept at both ends.

Each thing names at most one successor and at most one predecessor, and the two maps are
written one by one. The rules say when both stay each other's inverse and without a cycle as
one pair of things is linked. -/

namespace Lucius.Links

universe u

variable {α : Type u} {next prev : α → Option α} {first second : α}

def Linked (next : α → Option α) (left right : α) : Prop := next left = some right

def Reaches (next : α → Option α) : α → α → Prop := Relation.ReflTransGen (Linked next)

/-- No chain of links, of whatever length, leads back to where it starts. -/
def Acyclic (next : α → Option α) : Prop := ∀ thing, ¬ Relation.TransGen (Linked next) thing thing

/-- One map names a successor exactly where the other names the predecessor. -/
def Mutual (next prev : α → Option α) : Prop := ∀ left right, next left = some right ↔ prev right = some left

theorem acyclic_none : Acyclic (fun _ : α => none) := by
  intro thing cycle
  obtain ⟨_, _, last⟩ := Relation.TransGen.tail'_iff.mp cycle
  cases last

theorem mutual_none : Mutual (fun _ : α => none) (fun _ : α => none) := by
  intro left right
  constructor <;> intro link <;> cases link

section

variable [DecidableEq α]

/-- The way to a thing does not leave it. -/
theorem reaches_kept {thing : α} (path : Reaches next thing first) :
    Reaches (Function.update next first (some second)) thing first := by
  induction path using Relation.ReflTransGen.head_induction_on with
  | refl => exact .refl
  | @head left middle link _ ih =>
    by_cases same : left = first
    · rw [same]
      exact .refl
    · refine .head ?_ ih
      unfold Linked at link ⊢
      rw [Function.update_of_ne same]
      exact link

/-- A chain after the linking is one from before, or passes the new link. -/
theorem chain_split {left right : α}
    (chain : Relation.TransGen (Linked (Function.update next first (some second))) left right) :
    Relation.TransGen (Linked next) left right ∨
      Reaches next left first ∧ Reaches next second right := by
  induction chain with
  | @single right link =>
    by_cases same : left = first
    · subst same
      unfold Linked at link
      rw [Function.update_self] at link
      cases link
      exact .inr ⟨.refl, .refl⟩
    · unfold Linked at link
      rw [Function.update_of_ne same] at link
      exact .inl (.single link)
  | @tail middle right _ link ih =>
    by_cases same : middle = first
    · subst same
      unfold Linked at link
      rw [Function.update_self] at link
      cases link
      cases ih with
      | inl old => exact .inr ⟨old.to_reflTransGen, .refl⟩
      | inr passed => exact .inr ⟨passed.1, .refl⟩
    · unfold Linked at link
      rw [Function.update_of_ne same] at link
      cases ih with
      | inl old => exact .inl (old.tail link)
      | inr passed => exact .inr ⟨passed.1, passed.2.tail link⟩

/-- A link closes a cycle exactly when its target reached its origin before. -/
theorem acyclic_linked (acyclic : Acyclic next) :
    Acyclic (Function.update next first (some second)) ↔ ¬ Reaches next second first := by
  constructor
  · intro kept back
    have link : Linked (Function.update next first (some second)) first second :=
      Function.update_self ..
    exact kept first (.head' link (reaches_kept back))
  · intro apart thing cycle
    cases chain_split cycle with
    | inl old => exact acyclic thing old
    | inr passed => exact apart (passed.2.trans passed.1)

/-- Both ends agree after the linking exactly when neither was linked to a third thing. -/
theorem mutual_linked (agree : Mutual next prev) :
    Mutual (Function.update next first (some second)) (Function.update prev second (some first)) ↔
      (∀ third, next first = some third → third = second) ∧
        (∀ third, prev second = some third → third = first) := by
  constructor
  · intro kept
    constructor
    · intro third link
      by_contra different
      have back := (agree first third).mp link
      have stays : Function.update prev second (some first) third = some first := by
        rw [Function.update_of_ne different]
        exact back
      have now := (kept first third).mpr stays
      rw [Function.update_self] at now
      exact different (Option.some.inj now).symm
    · intro third link
      by_contra different
      have forth := (agree third second).mpr link
      have stays : Function.update next first (some second) third = some second := by
        rw [Function.update_of_ne different]
        exact forth
      have now := (kept third second).mp stays
      rw [Function.update_self] at now
      exact different (Option.some.inj now).symm
  · rintro ⟨freeFirst, freeSecond⟩ left right
    by_cases atFirst : left = first
    · subst atFirst
      rw [Function.update_self]
      by_cases atSecond : right = second
      · rw [atSecond, Function.update_self]
        exact iff_of_true rfl rfl
      · rw [Function.update_of_ne atSecond]
        constructor
        · intro link
          exact absurd (Option.some.inj link).symm atSecond
        · intro back
          exact absurd (freeFirst right ((agree left right).mpr back)) atSecond
    · rw [Function.update_of_ne atFirst]
      by_cases atSecond : right = second
      · rw [atSecond, Function.update_self]
        constructor
        · intro link
          exact absurd (freeSecond left ((agree left second).mp link)) atFirst
        · intro back
          exact absurd (Option.some.inj back).symm atFirst
      · rw [Function.update_of_ne atSecond]
        exact agree left right

end

section

variable {old new : α → α → Prop} {source : α}

/-- Where every new link leaves a thing that none enters, a chain is an old one or leaves that
thing. -/
theorem chain_grown (added : ∀ left right, new left right → old left right ∨ left = source)
    (unentered : ∀ left, ¬ new left source) {left right : α} (chain : Relation.TransGen new left right) :
    Relation.TransGen old left right ∨ left = source := by
  induction chain using Relation.TransGen.head_induction_on with
  | single link =>
    cases added _ _ link with
    | inl before => exact .inl (.single before)
    | inr leaves => exact .inr leaves
  | @head left middle link _ ih =>
    cases added _ _ link with
    | inr leaves => exact .inr leaves
    | inl before =>
      cases ih with
      | inl rest => exact .inl (.head before rest)
      | inr enters =>
        rw [enters] at link
        exact absurd link (unentered left)

theorem acyclic_grown (acyclic : ∀ thing, ¬ Relation.TransGen old thing thing)
    (added : ∀ left right, new left right → old left right ∨ left = source)
    (unentered : ∀ left, ¬ new left source) (thing : α) : ¬ Relation.TransGen new thing thing := by
  intro cycle
  cases chain_grown added unentered cycle with
  | inl before => exact acyclic thing before
  | inr leaves =>
    obtain ⟨left, _, last⟩ := Relation.TransGen.tail'_iff.mp cycle
    rw [leaves] at last
    exact unentered left last

end

/-- Among finitely many things without a cycle there is one that none of them follows. -/
theorem exists_last {links : α → α → Prop} (acyclic : ∀ thing, ¬ Relation.TransGen links thing thing)
    {things : List α} (some : things ≠ []) : ∃ thing ∈ things, ∀ other ∈ things, ¬ links thing other := by
  let follows : {thing // thing ∈ things} → {thing // thing ∈ things} → Prop :=
    fun right left => Relation.TransGen links left.1 right.1
  have transitive : IsTrans _ follows := ⟨fun _ _ _ one two => two.trans one⟩
  have irreflexive : Std.Irrefl follows := ⟨fun thing => acyclic thing.1⟩
  have finite : Finite {thing // thing ∈ things} := (List.finite_toSet things).to_subtype
  have founded : WellFounded follows := Finite.wellFounded_of_trans_of_irrefl follows
  obtain ⟨first, member⟩ := List.exists_mem_of_ne_nil things some
  obtain ⟨last, -, least⟩ := founded.has_min Set.univ ⟨⟨first, member⟩, trivial⟩
  exact ⟨last.1, last.2, fun other inside link => least ⟨other, inside⟩ trivial (.single link)⟩

end Lucius.Links
