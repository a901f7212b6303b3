import Lucius.Domain.Json

/-! The characters that the patterns of the language tell apart. Which characters outside
ASCII are letters or digits is a parameter. -/

namespace Lucius.Characters

/-- No character outside ASCII is a letter or a digit. -/
def asciiAlone : Char → Bool := fun _ => false

/-- A character of a word; white space is none. -/
def isWord (beyond : Char → Bool) (char : Char) : Bool :=
  char.isAlphanum || char = '_' || (127 < char.toNat && !Json.isSpace char && beyond char)

/-- What a character is compared by where case is ignored. Four letters outside ASCII
count as letters of ASCII. -/
def folded (char : Char) : Char :=
  if char.toNat = 304 ∨ char.toNat = 305 then 'i'
  else if char.toNat = 383 then 's'
  else if char.toNat = 8490 then 'k'
  else char.toLower

theorem toLower_code (char : Char) :
    (65 ≤ char.toNat ∧ char.toNat ≤ 90 ∧ char.toLower.toNat = char.toNat + 32) ∨ char.toLower = char := by
  by_cases upper : char.val ≥ 'A'.val ∧ char.val ≤ 'Z'.val
  · have low : 65 ≤ char.val.toNat := upper.1
    have high : char.val.toNat ≤ 90 := upper.2
    have gap : ('a'.val - 'A'.val).toNat = 32 := by decide
    refine .inl ⟨low, high, ?_⟩
    unfold Char.toLower
    rw [dif_pos upper]
    change (char.val + ('a'.val - 'A'.val)).toNat = char.val.toNat + 32
    rw [UInt32.toNat_add]
    omega
  · refine .inr ?_
    unfold Char.toLower
    rw [dif_neg upper]

end Lucius.Characters
