import Lucius.Domain.Json
import Lucius.Lib.Lists
import Lucius.Lib.Readable

/-! The text of a JSON value, its keys sorted and its characters in ASCII, and how its parts are
read back. -/

namespace Lucius.Json

/-! ### Strings -/

def hexDigits (code : Nat) : List Char :=
  [Nat.digitChar (code / 4096 % 16), Nat.digitChar (code / 256 % 16), Nat.digitChar (code / 16 % 16),
    Nat.digitChar (code % 16)]

/-- The letter of a short escape. -/
def shortEscape (char : Char) : Option Char :=
  if char = '"' then some '"'
  else if char = '\\' then some '\\'
  else if char = '\n' then some 'n'
  else if char = '\r' then some 'r'
  else if char = '\t' then some 't'
  else if char.toNat = 12 then some 'f'
  else if char.toNat = 8 then some 'b'
  else none

/-- A character past the basic plane is written as two surrogates. -/
def escaped (char : Char) : List Char :=
  match shortEscape char with
  | some letter => ['\\', letter]
  | none =>
    if 32 ≤ char.toNat ∧ char.toNat < 127 then [char]
    else if char.toNat < 65536 then '\\' :: 'u' :: hexDigits char.toNat
    else
      '\\' :: 'u' :: hexDigits (55296 + (char.toNat - 65536) / 1024) ++
        '\\' :: 'u' :: hexDigits (56320 + (char.toNat - 65536) % 1024)

def stringText (text : String) : List Char := '"' :: text.toList.flatMap escaped ++ ['"']

/-! ### Values -/

def floatText (value : PyFloat) : List Char :=
  if value.text = "nan" then "NaN".toList
  else if value.text = "inf" then "Infinity".toList
  else if value.text = "-inf" then "-Infinity".toList
  else value.text.toList

mutual

/-- `json.dumps` with sorted keys and the given separators. -/
def dumps (comma colon : List Char) : Json → List Char
  | null => "null".toList
  | bool true => "true".toList
  | bool false => "false".toList
  | int value => (toString value).toList
  | float value => floatText value
  | str value => stringText value
  | arr elements => '[' :: joined comma id (elementTexts comma colon elements) ++ [']']
  | obj members =>
    '\x7b' :: joined comma (fun member => stringText member.1 ++ colon ++ member.2)
      (sortedBy Prod.fst (memberTexts comma colon members)) ++ ['\x7d']

def elementTexts (comma colon : List Char) : List Json → List (List Char)
  | [] => []
  | first :: rest => dumps comma colon first :: elementTexts comma colon rest

def memberTexts (comma colon : List Char) : List (String × Json) → List (String × List Char)
  | [] => []
  | (name, value) :: rest => (name, dumps comma colon value) :: memberTexts comma colon rest

end

theorem elementTexts_map (comma colon : List Char) (elements : List Json) :
    elementTexts comma colon elements = elements.map (dumps comma colon) := by
  induction elements with
  | nil => rfl
  | cons first rest ih => rw [elementTexts, ih, List.map_cons]

/-! ### Reading back -/

def hexValue (digit : Char) : Nat :=
  if digit.toNat < 58 then digit.toNat - 48 else digit.toNat - 87

def hexNumber (first second third fourth : Char) : Nat :=
  ((hexValue first * 16 + hexValue second) * 16 + hexValue third) * 16 + hexValue fourth

theorem hexValue_digitChar {digit : Nat} (small : digit < 16) : hexValue (Nat.digitChar digit) = digit := by
  have all : ∀ digit : Fin 16, hexValue (Nat.digitChar digit) = digit := by decide
  exact all ⟨digit, small⟩

theorem hexNumber_digits {code : Nat} (small : code < 65536) :
    hexNumber (Nat.digitChar (code / 4096 % 16)) (Nat.digitChar (code / 256 % 16))
      (Nat.digitChar (code / 16 % 16)) (Nat.digitChar (code % 16)) = code := by
  have digit (value : Nat) : hexValue (Nat.digitChar (value % 16)) = value % 16 :=
    hexValue_digitChar (Nat.mod_lt value (by decide))
  unfold hexNumber
  rw [digit, digit, digit, digit]
  omega

/-- The character of a short escape. -/
def shortCharacter (letter : Char) : Char :=
  if letter = 'n' then '\n'
  else if letter = 'r' then '\r'
  else if letter = 't' then '\t'
  else if letter = 'f' then Char.ofNat 12
  else if letter = 'b' then Char.ofNat 8
  else letter

def readEscaped : List Char → Option (Char × List Char)
  | '\\' :: 'u' :: first :: second :: third :: fourth :: rest =>
    let code := hexNumber first second third fourth
    if 55296 ≤ code ∧ code < 56320 then
      match rest with
      | '\\' :: 'u' :: first :: second :: third :: fourth :: rest =>
        some (Char.ofNat (65536 + (code - 55296) * 1024 + (hexNumber first second third fourth - 56320)), rest)
      | _ => none
    else some (Char.ofNat code, rest)
  | '\\' :: letter :: rest => some (shortCharacter letter, rest)
  | char :: rest => some (char, rest)
  | [] => none

theorem toNat_range (char : Char) :
    char.toNat < 55296 ∨ 57343 < char.toNat ∧ char.toNat < 1114112 := char.valid

theorem readEscaped_short {char letter : Char} (short : shortEscape char = some letter) (rest : List Char) :
    readEscaped ('\\' :: letter :: rest) = some (char, rest) := by
  have named (code : Nat) (same : char.toNat = code) : char = Char.ofNat code := by
    rw [← same, Char.ofNat_toNat]
  unfold shortEscape at short
  split at short
  · rename_i is
    cases short
    subst is
    rfl
  split at short
  · rename_i is
    cases short
    subst is
    rfl
  split at short
  · rename_i is
    cases short
    subst is
    rfl
  split at short
  · rename_i is
    cases short
    subst is
    rfl
  split at short
  · rename_i is
    cases short
    subst is
    rfl
  split at short
  · rename_i is
    cases short
    rw [named 12 is]
    rfl
  split at short
  · rename_i is
    cases short
    rw [named 8 is]
    rfl
  · cases short

theorem readEscaped_plain {char : Char} (other : char ≠ '\\') (rest : List Char) :
    readEscaped (char :: rest) = some (char, rest) := by
  unfold readEscaped
  split
  · rename_i same
    exact absurd (List.cons.inj same).1 other
  · rename_i same
    exact absurd (List.cons.inj same).1 other
  · rename_i same
    obtain ⟨rfl, rfl⟩ := List.cons.inj same
    rfl
  · rename_i same
    cases same

theorem readEscaped_escaped (char : Char) (rest : List Char) :
    readEscaped (escaped char ++ rest) = some (char, rest) := by
  have range := toNat_range char
  unfold escaped
  cases short : shortEscape char with
  | some letter => exact readEscaped_short short rest
  | none =>
    dsimp only
    split
    · have other : char ≠ '\\' := by
        rintro rfl
        cases short
      exact readEscaped_plain other rest
    · split
      · rename_i basic
        have plain : ¬ (55296 ≤ char.toNat ∧ char.toNat < 56320) := by omega
        simp only [hexDigits, List.cons_append, List.nil_append, readEscaped, hexNumber_digits basic,
          if_neg plain, Char.ofNat_toNat]
      · have high : 55296 + (char.toNat - 65536) / 1024 < 65536 := by omega
        have low : 56320 + (char.toNat - 65536) % 1024 < 65536 := by omega
        have surrogate : 55296 ≤ 55296 + (char.toNat - 65536) / 1024 ∧
            55296 + (char.toNat - 65536) / 1024 < 56320 := by omega
        have code : 65536 + (55296 + (char.toNat - 65536) / 1024 - 55296) * 1024 +
            (56320 + (char.toNat - 65536) % 1024 - 56320) = char.toNat := by omega
        simp only [hexDigits, List.cons_append, List.nil_append, readEscaped, hexNumber_digits high,
          hexNumber_digits low, if_pos surrogate, code, Char.ofNat_toNat]

theorem readable_escaped : Readable escaped := Readable.of_reader readEscaped_escaped

theorem escaped_not_quote (char : Char) (rest more : List Char) : escaped char ++ rest ≠ ['"'] ++ more := by
  intro same
  have read := readEscaped_escaped char rest
  rw [same] at read
  have quote : readEscaped (['"'] ++ more) = some ('"', more) := readEscaped_plain (by decide) more
  rw [quote] at read
  obtain ⟨rfl, rfl⟩ := Prod.mk.inj (Option.some.inj read)
  cases same

theorem readable_stringText : Readable stringText := by
  have chars : Readable (fun things : List Char => ['"'] ++ (things.flatMap escaped ++ ['"'])) :=
    (Readable.ended readable_escaped escaped_not_quote).behind ['"']
  exact chars.comp (fun _ _ same => String.toList_inj.mp same)

theorem readable_digits {stop : Char} (none : stop.isDigit = false) :
    Readable (fun number : Nat => Nat.toDigits 10 number ++ [stop]) := by
  have taken (number : Nat) (rest : List Char) :
      (Nat.toDigits 10 number ++ stop :: rest).takeWhile Char.isDigit = Nat.toDigits 10 number := by
    have digits : ∀ char ∈ Nat.toDigits 10 number, char.isDigit = true :=
      fun char member => Nat.isDigit_of_mem_toDigits (by decide) (by decide) member
    rw [List.takeWhile_append_of_pos digits, List.takeWhile_cons_of_neg (by simp [none]), List.append_nil]
  intro one two rest more same
  rw [List.append_assoc, List.append_assoc, List.singleton_append, List.singleton_append] at same
  have digits : Nat.toDigits 10 one = Nat.toDigits 10 two := by
    rw [← taken one rest, same, taken]
  have numbers : one = two := by
    rw [← Nat.ofDigitChars_toDigits (b := 10) (n := one) (by decide) (by decide), digits,
      Nat.ofDigitChars_toDigits (by decide) (by decide)]
  subst numbers
  exact ⟨rfl, (List.cons.inj (List.append_cancel_left same)).2⟩

end Lucius.Json
