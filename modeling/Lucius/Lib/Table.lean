import Mathlib.Algebra.BigOperators.Group.List.Basic
import Mathlib.Data.List.Nodup
import Mathlib.Tactic.Ring

/-! Tables of rows under a primary key.

A table carries the uniqueness of its keys, so no lookup lemma below needs it as
a hypothesis. Rows keep the order in which they were added: replacing a row never
moves it. -/

namespace Lucius

universe u v

class Keyed (α : Type u) (κ : outParam (Type v)) where
  key : α → κ

structure Table (α : Type u) {κ : Type v} [Keyed α κ] where
  rows : List α
  unique : (rows.map Keyed.key).Nodup

namespace Table

variable {α : Type u} {κ : Type v} [Keyed α κ]

def empty : Table α := ⟨[], List.nodup_nil⟩

def single (row : α) : Table α := ⟨[row], List.nodup_singleton _⟩

@[simp] theorem single_rows (row : α) : (single row).rows = [row] := rfl

/-- No row is lost: each has one in the other table that it stands in the relation to. -/
def Keeps (related : α → α → Prop) (before after : Table α) : Prop :=
  ∀ old ∈ before.rows, ∃ new ∈ after.rows, related old new

theorem keeps_refl {related : α → α → Prop} (reflexive : ∀ row, related row row) (table : Table α) :
    Keeps related table table :=
  fun old member => ⟨old, member, reflexive old⟩

theorem keeps_trans {related : α → α → Prop}
    (transitive : ∀ first second third, related first second → related second third → related first third)
    {first second third : Table α} (one : Keeps related first second) (two : Keeps related second third) :
    Keeps related first third := by
  intro old member
  obtain ⟨middle, listed, front⟩ := one old member
  obtain ⟨new, there, back⟩ := two middle listed
  exact ⟨new, there, transitive _ _ _ front back⟩

variable [DecidableEq κ]

def get? (table : Table α) (key : κ) : Option α :=
  table.rows.find? (fun row => decide (Keyed.key row = key))

def putRows (rows : List α) (row : α) : List α :=
  rows.map (fun old => if Keyed.key old = Keyed.key row then row else old)

theorem putRows_keys (rows : List α) (row : α) :
    (putRows rows row).map Keyed.key = rows.map Keyed.key := by
  induction rows with
  | nil => rfl
  | cons old rest ih =>
    simp only [putRows, List.map_cons, List.cons.injEq] at ih ⊢
    refine ⟨?_, ih⟩
    split
    · rename_i same
      exact same.symm
    · rfl

/-- Writing a row back replaces the row of the same key; a key that is not in the
table is not added. -/
def put (table : Table α) (row : α) : Table α :=
  ⟨putRows table.rows row, by rw [putRows_keys]; exact table.unique⟩

/-- Adding a row whose key is taken leaves the table as it is. -/
def add (table : Table α) (row : α) : Table α :=
  if fresh : Keyed.key row ∈ table.rows.map Keyed.key then table
  else ⟨table.rows ++ [row], by
    rw [List.map_append, List.map_cons, List.map_nil]
    exact List.nodup_append.mpr ⟨table.unique, List.nodup_singleton _, by
      intro old member new present same
      rw [List.mem_singleton] at present
      subst present
      exact fresh (same ▸ member)⟩⟩

theorem get?_mem {table : Table α} {key : κ} {row : α} (found : table.get? key = some row) :
    row ∈ table.rows := List.mem_of_find?_eq_some found

theorem get?_key {table : Table α} {key : κ} {row : α} (found : table.get? key = some row) :
    Keyed.key row = key := by
  have matched := List.find?_some found
  exact of_decide_eq_true matched

private theorem find_of_mem (rows : List α) (unique : (rows.map Keyed.key).Nodup) (row : α)
    (member : row ∈ rows) :
    rows.find? (fun other => decide (Keyed.key other = Keyed.key row)) = some row := by
  induction rows with
  | nil => cases member
  | cons first rest ih =>
    rw [List.map_cons, List.nodup_cons] at unique
    rcases List.mem_cons.mp member with same | later
    · subst same
      simp
    · have different : Keyed.key first ≠ Keyed.key row := by
        intro same
        exact unique.1 (same ▸ List.mem_map_of_mem later)
      simp only [List.find?_cons, different, decide_false]
      exact ih unique.2 later

theorem get?_of_mem {table : Table α} {row : α} (member : row ∈ table.rows) :
    table.get? (Keyed.key row) = some row :=
  find_of_mem table.rows table.unique row member

theorem row_unique {table : Table α} {first second : α} (one : first ∈ table.rows)
    (two : second ∈ table.rows) (same : Keyed.key first = Keyed.key second) : first = second := by
  have left := get?_of_mem one
  rw [same, get?_of_mem two] at left
  exact (Option.some.inj left).symm

private theorem find_putRows (rows : List α) (row : α) (key : κ) :
    (putRows rows row).find? (fun other => decide (Keyed.key other = key)) =
      (rows.find? (fun other => decide (Keyed.key other = key))).map
        (fun old => if Keyed.key old = Keyed.key row then row else old) := by
  induction rows with
  | nil => rfl
  | cons old rest ih =>
    simp only [putRows, List.map_cons, List.find?_cons] at ih ⊢
    by_cases written : Keyed.key old = Keyed.key row
    · simp only [written, if_true]
      by_cases wanted : Keyed.key row = key
      · simp [wanted, written]
      · simp only [wanted, decide_false]
        exact ih
    · simp only [written, if_false]
      by_cases wanted : Keyed.key old = key
      · simp only [wanted, decide_true, Option.map_some, Option.some.injEq]
        rw [if_neg (wanted ▸ written)]
      · simp only [wanted, decide_false]
        exact ih

theorem get?_put (table : Table α) (row : α) (key : κ) :
    (table.put row).get? key =
      (table.get? key).map (fun old => if Keyed.key old = Keyed.key row then row else old) :=
  find_putRows table.rows row key

@[simp] theorem get?_put_same {table : Table α} {old row : α} {key : κ}
    (found : table.get? key = some old) (same : Keyed.key row = key) :
    (table.put row).get? key = some row := by
  rw [get?_put, found, Option.map_some, get?_key found, same, if_pos rfl]

theorem get?_put_other (table : Table α) (row : α) {key : κ} (other : Keyed.key row ≠ key) :
    (table.put row).get? key = table.get? key := by
  rw [get?_put]
  cases found : table.get? key with
  | none => rfl
  | some old =>
    have different : Keyed.key old ≠ Keyed.key row := by
      rw [get?_key found]
      exact other.symm
    rw [Option.map_some, if_neg different]

theorem mem_put {table : Table α} {row other : α} (member : other ∈ (table.put row).rows) :
    other = row ∨ (other ∈ table.rows ∧ Keyed.key other ≠ Keyed.key row) := by
  obtain ⟨old, present, written⟩ := List.mem_map.mp member
  by_cases same : Keyed.key old = Keyed.key row
  · rw [if_pos same] at written
    exact Or.inl written.symm
  · rw [if_neg same] at written
    subst written
    exact Or.inr ⟨present, same⟩

theorem mem_put_other {table : Table α} {row other : α} (member : other ∈ table.rows)
    (different : Keyed.key other ≠ Keyed.key row) : other ∈ (table.put row).rows :=
  List.mem_map.mpr ⟨other, member, if_neg different⟩

private theorem sum_putRows (rows : List α) (unique : (rows.map Keyed.key).Nodup) (old row : α)
    (member : old ∈ rows) (same : Keyed.key old = Keyed.key row) (weight : α → Nat) :
    ((putRows rows row).map weight).sum + weight old = (rows.map weight).sum + weight row := by
  induction rows with
  | nil => cases member
  | cons first rest ih =>
    rw [List.map_cons, List.nodup_cons] at unique
    simp only [putRows, List.map_cons, List.sum_cons] at ih ⊢
    rcases List.mem_cons.mp member with here | later
    · subst here
      have untouched : rest.map (fun other => if Keyed.key other = Keyed.key row then row else other)
          = rest := by
        have each : ∀ other ∈ rest,
            (if Keyed.key other = Keyed.key row then row else other) = id other := by
          intro other inside
          refine if_neg fun equal => unique.1 ?_
          rw [same, ← equal]
          exact List.mem_map_of_mem inside
        rw [List.map_congr_left each, List.map_id]
      rw [if_pos same, untouched]
      omega
    · have different : Keyed.key first ≠ Keyed.key row := by
        intro equal
        exact unique.1 (equal.trans same.symm ▸ List.mem_map_of_mem later)
      rw [if_neg different]
      have tail := ih unique.2 later
      omega

/-- A sum over the rows changes by the weight of the one row that is written. -/
theorem sum_put {table : Table α} {old row : α} (member : old ∈ table.rows)
    (same : Keyed.key old = Keyed.key row) (weight : α → Nat) :
    ((table.put row).rows.map weight).sum + weight old =
      (table.rows.map weight).sum + weight row :=
  sum_putRows table.rows table.unique old row member same weight

theorem put_rows_map {β : Type*} (table : Table α) (row : α) (view : α → β)
    (kept : ∀ old ∈ table.rows, Keyed.key old = Keyed.key row → view old = view row) :
    (table.put row).rows.map view = table.rows.map view := by
  simp only [put, putRows, List.map_map]
  apply List.map_congr_left
  intro old member
  simp only [Function.comp_apply]
  split
  · rename_i same
    exact (kept old member same).symm
  · rfl

theorem mem_add {table : Table α} {row other : α} (member : other ∈ (table.add row).rows) :
    other ∈ table.rows ∨ other = row := by
  unfold add at member
  split at member
  · exact Or.inl member
  · rcases List.mem_append.mp member with old | new
    · exact Or.inl old
    · exact Or.inr (List.mem_singleton.mp new)

theorem mem_add_old {table : Table α} {row other : α} (member : other ∈ table.rows) :
    other ∈ (table.add row).rows := by
  unfold add
  split
  · exact member
  · exact List.mem_append_left _ member

theorem get?_add_old {table : Table α} {row old : α} {key : κ} (found : table.get? key = some old) :
    (table.add row).get? key = some old := by
  have member : old ∈ (table.add row).rows := mem_add_old (get?_mem found)
  have present := get?_of_mem member
  rwa [get?_key found] at present

theorem add_rows {table : Table α} {row : α} (fresh : table.get? (Keyed.key row) = none) :
    (table.add row).rows = table.rows ++ [row] := by
  have absent : Keyed.key row ∉ table.rows.map Keyed.key := by
    intro present
    obtain ⟨old, member, same⟩ := List.mem_map.mp present
    have found := get?_of_mem member
    rw [same, fresh] at found
    cases found
  unfold add
  rw [dif_neg absent]

theorem get?_add_fresh {table : Table α} {row : α} (fresh : table.get? (Keyed.key row) = none) :
    (table.add row).get? (Keyed.key row) = some row := by
  apply get?_of_mem
  rw [add_rows fresh]
  exact List.mem_append_right _ (List.mem_singleton.mpr rfl)

section

variable {related : α → α → Prop}

/-- The tables have the same keys, with related rows under them. -/
def Carried (related : α → α → Prop) (before after : Table α) : Prop :=
  ∀ key, Option.Rel related (before.get? key) (after.get? key)

theorem carried_refl (reflexive : ∀ row, related row row) (table : Table α) :
    Carried related table table := by
  intro key
  cases table.get? key with
  | none => exact .none
  | some row => exact .some (reflexive row)

theorem carried_trans
    (transitive : ∀ first second third, related first second → related second third →
      related first third)
    {first second third : Table α} (one : Carried related first second)
    (two : Carried related second third) : Carried related first third := by
  intro key
  have front := one key
  have back := two key
  generalize first.get? key = start at front
  generalize second.get? key = middle at front back
  generalize third.get? key = final at back
  cases front with
  | none =>
    cases back
    exact .none
  | some here =>
    cases back with
    | some later => exact .some (transitive _ _ _ here later)

theorem carried_mono {weaker : α → α → Prop} (implies : ∀ old new, related old new → weaker old new)
    {before after : Table α} (carried : Carried related before after) :
    Carried weaker before after := by
  intro key
  have here := carried key
  generalize before.get? key = old at here
  generalize after.get? key = new at here
  cases here with
  | none => exact .none
  | some holds => exact .some (implies _ _ holds)

theorem carried_some {before after : Table α} (carried : Carried related before after) {key : κ}
    {old : α} (found : before.get? key = some old) :
    ∃ new, after.get? key = some new ∧ related old new := by
  have here := carried key
  rw [found] at here
  generalize after.get? key = other at here
  cases here with
  | some holds => exact ⟨_, rfl, holds⟩

theorem carried_origin {before after : Table α} (carried : Carried related before after) {key : κ}
    {new : α} (found : after.get? key = some new) :
    ∃ old, before.get? key = some old ∧ related old new := by
  have here := carried key
  rw [found] at here
  generalize before.get? key = other at here
  cases here with
  | some holds => exact ⟨_, rfl, holds⟩

/-- A row that is put back stands in the relation, the others in reflexivity. -/
theorem carried_put (reflexive : ∀ row, related row row) {table : Table α} {old new : α}
    (found : table.get? (Keyed.key new) = some old) (holds : related old new) :
    Carried related table (table.put new) := by
  intro key
  by_cases same : Keyed.key new = key
  · rw [get?_put_same (same ▸ found) same, ← same, found]
    exact .some holds
  · rw [get?_put_other table new same]
    exact carried_refl reflexive table key

theorem keeps_add (reflexive : ∀ row, related row row) (table : Table α) (row : α) :
    Keeps related table (table.add row) :=
  fun old member => ⟨old, mem_add_old member, reflexive old⟩

theorem keeps_put (reflexive : ∀ row, related row row) {table : Table α} {old new : α}
    (listed : old ∈ table.rows) (same : Keyed.key new = Keyed.key old) (holds : related old new) :
    Keeps related table (table.put new) := by
  intro row member
  by_cases here : Keyed.key row = Keyed.key old
  · rw [row_unique member listed here]
    exact ⟨new, get?_mem (get?_put_same (get?_of_mem listed) same), holds⟩
  · exact ⟨row, mem_put_other member (same ▸ here), reflexive row⟩

end

/-- A row that is added shows under no other key. -/
theorem get?_add_other {table : Table α} {row : α} {key : κ} (other : Keyed.key row ≠ key) :
    (table.add row).get? key = table.get? key := by
  cases found : table.get? key with
  | some old => exact get?_add_old found
  | none =>
    cases listed : (table.add row).get? key with
    | none => rfl
    | some new =>
      rcases mem_add (get?_mem listed) with known | same
      · have present := get?_of_mem known
        rw [get?_key listed, found] at present
        cases present
      · exact absurd (same ▸ get?_key listed) other

section

/-- The table without the row under a key. -/
def without (table : Table α) (key : κ) : Table α :=
  ⟨table.rows.filter (fun row => decide (Keyed.key row ≠ key)),
    table.unique.sublist (List.filter_sublist.map _)⟩

theorem get?_without (table : Table α) {key wanted : κ} (other : wanted ≠ key) :
    (table.without key).get? wanted = table.get? wanted := by
  unfold get? without
  rw [List.find?_filter]
  congr 1
  funext row
  by_cases same : Keyed.key row = wanted
  · simp [same, other]
  · simp [same]

theorem without_put (table : Table α) (row : α) (key : κ) :
    (table.put row).without key = (table.without key).put row := by
  have rows : (putRows table.rows row).filter (fun kept => decide (Keyed.key kept ≠ key)) =
      putRows (table.rows.filter (fun kept => decide (Keyed.key kept ≠ key))) row := by
    rw [putRows, putRows, List.filter_map]
    congr 1
    apply List.filter_congr
    intro old member
    simp only [Function.comp_apply]
    split
    · rename_i same
      rw [same]
    · rfl
  unfold put without
  congr 1

end

end Table
end Lucius
