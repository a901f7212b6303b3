import Lucius.Lib.Lists

/-! When two keys sort a list alike, and when one key sorts two lists alike. -/

namespace Lucius

variable {α κ μ : Type} [LE κ] [DecidableLE κ] [LE μ] [DecidableLE μ]

theorem orderedInsert_congr {first : α → κ} {second : α → μ} {item : α} {items : List α}
    (same : ∀ other ∈ items, first item ≤ first other ↔ second item ≤ second other) :
    items.orderedInsert (fun left right => first left ≤ first right) item =
      items.orderedInsert (fun left right => second left ≤ second right) item := by
  induction items with
  | nil => rfl
  | cons head rest ih =>
    have later := ih fun other member => same other (List.mem_cons_of_mem head member)
    rw [List.orderedInsert, List.orderedInsert, later]
    by_cases before : first item ≤ first head
    · rw [if_pos before, if_pos ((same head List.mem_cons_self).mp before)]
    · rw [if_neg before, if_neg (fun other => before ((same head List.mem_cons_self).mpr other))]

/-- Keys that compare the items of a list alike sort it alike. -/
theorem sortedBy_congr {first : α → κ} {second : α → μ} {items : List α}
    (same : ∀ left ∈ items, ∀ right ∈ items, first left ≤ first right ↔ second left ≤ second right) :
    sortedBy first items = sortedBy second items := by
  induction items with
  | nil => rfl
  | cons head rest ih =>
    have later : sortedBy first rest = sortedBy second rest :=
      ih fun left inside right other =>
        same left (List.mem_cons_of_mem head inside) right (List.mem_cons_of_mem head other)
    have insert : sortedBy first (head :: rest) =
        (sortedBy first rest).orderedInsert (fun left right => first left ≤ first right) head := rfl
    rw [insert, later]
    apply orderedInsert_congr
    intro other member
    have inside : other ∈ rest := (mem_sortedBy second rest other).mp member
    exact same head List.mem_cons_self other (List.mem_cons_of_mem head inside)

variable {ι : Type} [LinearOrder ι] {key : α → ι} {first second : List α}

theorem sortedBy_pairwise (key : α → ι) (items : List α) :
    (sortedBy key items).Pairwise (fun left right => key left ≤ key right) := by
  have trans : IsTrans α (fun left right => key left ≤ key right) := ⟨fun _ _ _ => le_trans⟩
  have all : Std.Total (fun left right : α => key left ≤ key right) := ⟨fun _ _ => le_total _ _⟩
  exact List.pairwise_insertionSort _ items

theorem sortedBy_last {items : List α} {last : α} (found : (sortedBy key items).getLast? = some last) :
    ∀ other ∈ items, key other ≤ key last := by
  intro other member
  obtain ⟨front, whole⟩ := List.getLast?_eq_some_iff.mp found
  have ordered := sortedBy_pairwise key items
  rw [whole, List.pairwise_append] at ordered
  have listed : other ∈ front ++ [last] := whole ▸ (mem_sortedBy key items other).mpr member
  rcases List.mem_append.mp listed with before | final
  · exact ordered.2.2 other before last List.mem_cons_self
  · rw [List.mem_singleton.mp final]

/-- Two lists of the same items in order are one where the key tells the items apart. -/
theorem ordered_unique (perm : first.Perm second)
    (apart : ∀ left ∈ first, ∀ right ∈ first, key left = key right → left = right)
    (one : first.Pairwise (fun left right => key left ≤ key right))
    (two : second.Pairwise (fun left right => key left ≤ key right)) : first = second := by
  apply List.Perm.eq_of_pairwise _ one two perm
  intro left right inFirst inSecond below above
  exact apart left inFirst right (perm.mem_iff.mpr inSecond) (le_antisymm below above)

/-- A key that tells the items of a list apart sorts it the same way in whatever order it comes. -/
theorem sortedBy_perm (perm : first.Perm second)
    (apart : ∀ left ∈ first, ∀ right ∈ first, key left = key right → left = right) :
    sortedBy key first = sortedBy key second := by
  have reordered : (sortedBy key first).Perm (sortedBy key second) :=
    ((List.perm_insertionSort _ first).trans perm).trans (List.perm_insertionSort _ second).symm
  apply ordered_unique reordered _ (sortedBy_pairwise key first) (sortedBy_pairwise key second)
  intro left one right two
  exact apart left ((mem_sortedBy key first left).mp one) right ((mem_sortedBy key first right).mp two)

theorem sortedBy_filter (kept : α → Bool)
    (apart : ∀ left ∈ first, ∀ right ∈ first, key left = key right → left = right) :
    sortedBy key (first.filter kept) = (sortedBy key first).filter kept := by
  have reordered : (sortedBy key (first.filter kept)).Perm ((sortedBy key first).filter kept) :=
    (List.perm_insertionSort _ _).trans ((List.perm_insertionSort _ first).symm.filter kept)
  apply ordered_unique reordered _ (sortedBy_pairwise key _) ((sortedBy_pairwise key first).filter kept)
  intro left one right two
  have inside {item : α} (member : item ∈ sortedBy key (first.filter kept)) : item ∈ first :=
    (List.mem_filter.mp ((mem_sortedBy key _ item).mp member)).1
  exact apart left (inside one) right (inside two)

/-- The keys of a sorted list are its keys, sorted. -/
theorem map_sortedBy (key : α → ι) (items : List α) :
    (sortedBy key items).map key = sortedBy id (items.map key) := by
  have reordered : ((sortedBy key items).map key).Perm (sortedBy id (items.map key)) :=
    ((List.perm_insertionSort _ items).map key).trans (List.perm_insertionSort _ _).symm
  have ordered : ((sortedBy key items).map key).Pairwise (fun left right => id left ≤ id right) :=
    List.pairwise_map.mpr (sortedBy_pairwise key items)
  exact ordered_unique reordered (fun _ _ _ _ same => same) ordered (sortedBy_pairwise id _)

end Lucius
