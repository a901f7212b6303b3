import Mathlib.Data.String.Basic
import Mathlib.Tactic.Ring

/-! Texts of decimal digits: their order as texts, and the order of the numbers they write. -/

namespace Lucius.Decimals

def Digits (text : List Char) : Prop := ∀ char ∈ text, char.isDigit = true

def value (text : List Char) : Nat := Nat.ofDigitChars 10 text 0

theorem digit_bounds {char : Char} (digit : char.isDigit = true) : 48 ≤ char.toNat ∧ char.toNat ≤ 57 := by
  simpa [Char.isDigit, UInt32.le_iff_toNat_le] using digit

theorem value_cons (char : Char) (rest : List Char) :
    value (char :: rest) = (char.toNat - 48) * 10 ^ rest.length + value rest := by
  have started : value (char :: rest) = Nat.ofDigitChars 10 rest (10 * 0 + (char.toNat - '0'.toNat)) :=
    Nat.ofDigitChars_cons
  rw [started, Nat.ofDigitChars_eq_ofDigitChars_zero]
  rw [Nat.mul_zero, Nat.zero_add, Nat.mul_comm]
  rfl

theorem value_lt {text : List Char} (digits : Digits text) : value text < 10 ^ text.length := by
  induction text with
  | nil => decide
  | cons char rest ih =>
    have below : value rest < 10 ^ rest.length :=
      ih fun other member => digits other (List.mem_cons_of_mem _ member)
    have bounds := digit_bounds (digits char List.mem_cons_self)
    have digit : char.toNat - 48 ≤ 9 := by omega
    rw [value_cons, List.length_cons, Nat.pow_succ]
    calc (char.toNat - 48) * 10 ^ rest.length + value rest
      _ < (char.toNat - 48) * 10 ^ rest.length + 10 ^ rest.length := Nat.add_lt_add_left below _
      _ ≤ 9 * 10 ^ rest.length + 10 ^ rest.length :=
        Nat.add_le_add_right (Nat.mul_le_mul_right _ digit) _
      _ = 10 ^ rest.length * 10 := by ring

/-- A text is before a shorter one when its number is below the other's with as many places
filled up. -/
theorem lt_iff_value {long short : List Char} (one : Digits long) (two : Digits short)
    (shorter : short.length ≤ long.length) :
    long < short ↔ value long < value short * 10 ^ (long.length - short.length) := by
  induction short generalizing long with
  | nil =>
    have empty : value [] = 0 := rfl
    simp [empty]
  | cons second others ih =>
    cases long with
    | nil => cases shorter
    | cons first rest =>
      have oneRest : Digits rest := fun char member => one char (List.mem_cons_of_mem _ member)
      have twoRest : Digits others := fun char member => two char (List.mem_cons_of_mem _ member)
      have shorterRest : others.length ≤ rest.length := by simpa using shorter
      have later := ih oneRest twoRest shorterRest
      have firstBounds := digit_bounds (one first List.mem_cons_self)
      have secondBounds := digit_bounds (two second List.mem_cons_self)
      have places : 10 ^ others.length * 10 ^ (rest.length - others.length) = 10 ^ rest.length := by
        rw [← Nat.pow_add, Nat.add_sub_cancel' shorterRest]
      have filled : value others * 10 ^ (rest.length - others.length) < 10 ^ rest.length := by
        rw [← places]
        exact Nat.mul_lt_mul_of_pos_right (value_lt twoRest) (Nat.pow_pos (by decide))
      have bound := value_lt oneRest
      rw [value_cons, value_cons, List.length_cons, List.length_cons, Nat.add_sub_add_right,
        Nat.add_mul, Nat.mul_assoc, places, List.cons_lt_cons_iff]
      rcases lt_trichotomy first second with less | same | greater
      · have step : first.toNat - 48 + 1 ≤ second.toNat - 48 := by
          have below : first.toNat < second.toNat := less
          omega
        have whole := Nat.mul_le_mul_right (10 ^ rest.length) step
        rw [Nat.add_mul, Nat.one_mul] at whole
        constructor
        · intro _
          omega
        · intro _
          exact Or.inl less
      · subst same
        constructor
        · rintro (less | ⟨-, before⟩)
          · exact absurd less (lt_irrefl _)
          · exact Nat.add_lt_add_left (later.mp before) _
        · intro below
          exact Or.inr ⟨rfl, later.mpr (Nat.lt_of_add_lt_add_left below)⟩
      · have step : second.toNat - 48 + 1 ≤ first.toNat - 48 := by
          have below : second.toNat < first.toNat := greater
          omega
        have whole := Nat.mul_le_mul_right (10 ^ rest.length) step
        rw [Nat.add_mul, Nat.one_mul] at whole
        constructor
        · rintro (less | ⟨same, -⟩)
          · exact absurd less (lt_asymm greater)
          · exact absurd same greater.ne'
        · intro below
          omega

end Lucius.Decimals
