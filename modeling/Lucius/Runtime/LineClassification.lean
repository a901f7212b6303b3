import Lucius.Runtime.ProviderQuality

/-! The classification of a line. The classes form a set, so they are tried in any order,
and the first one that the line names is taken. -/

namespace Lucius.Router

/-- An order in which the classes may be tried. -/
def IsOrder (order : List String) : Prop := order.Perm claimClassifications

def namesClass (line : List Char) (name : String) : Bool :=
  (wholeWord name).search (line.map Char.toUpper)

/-- A fact and a derived value have to be sourced, the other classes have not. -/
def strictness (name : String) : Nat := if name = "FACT" ∨ name = "DERIVED_VALUE" then 1 else 0

/-- What the line is classified as is settled by the line. -/
structure Classified (line : List Char) : Prop where
  same : ∀ first second, IsOrder first → IsOrder second →
    lineClassification first line = lineClassification second line
  strictest : ∀ order, IsOrder order → ∀ chosen, lineClassification order line = some chosen →
    ∀ other ∈ claimClassifications, namesClass line other = true → strictness other ≤ strictness chosen
  issues : ∀ (env : GateEnvironment) allowed required path number first second, IsOrder first →
    IsOrder second →
      quantityIssue { env with classifications := first } allowed required path number line =
        quantityIssue { env with classifications := second } allowed required path number line

/-- The line names one class at most. -/
def NamesOne (line : List Char) : Prop :=
  ∀ first ∈ claimClassifications, ∀ second ∈ claimClassifications,
    namesClass line first = true → namesClass line second = true → first = second

theorem find?_perm_of_unique {α : Type} {wanted : α → Bool} {first second : List α}
    (same : first.Perm second)
    (unique : ∀ one ∈ first, ∀ other ∈ first, wanted one = true → wanted other = true → one = other) :
    first.find? wanted = second.find? wanted := by
  cases found : second.find? wanted with
  | none =>
    rw [List.find?_eq_none] at found ⊢
    exact fun one member => found one (same.mem_iff.mp member)
  | some other =>
    have member := same.mem_iff.mpr (List.mem_of_find?_eq_some found)
    have holds := List.find?_some found
    cases chosen : first.find? wanted with
    | none => exact absurd holds (List.find?_eq_none.mp chosen other member)
    | some one =>
      rw [unique one (List.mem_of_find?_eq_some chosen) other member (List.find?_some chosen) holds]

theorem taken_first {line : List Char} {name : String} (known : name ∈ claimClassifications)
    (named : namesClass line name = true) :
    ∃ order, IsOrder order ∧ lineClassification order line = some name :=
  ⟨name :: claimClassifications.erase name, (List.perm_cons_erase known).symm,
    List.find?_cons_of_pos named⟩

theorem quantityIssue_congr {env : GateEnvironment} {first second : List String} {line : List Char}
    (same : lineClassification first line = lineClassification second line) (allowed : List String)
    (required : Bool) (path : String) (number : Nat) :
    quantityIssue { env with classifications := first } allowed required path number line =
      quantityIssue { env with classifications := second } allowed required path number line := by
  unfold quantityIssue
  dsimp only
  rw [same]

end Lucius.Router
