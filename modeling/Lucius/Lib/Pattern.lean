import Mathlib.Tactic.Common

/-! Backtracking patterns over characters: how far the matches at a place reach, the
preferred one first, and the matches in a text from left to right. -/

namespace Lucius

inductive Pattern where
  | nothing
  | one (allowed : Char → Bool)
  | notAfter (barred : Char → Bool)
  | notBefore (barred : Char → Bool)
  | boundary (word : Char → Bool)
  | optional (part : Pattern)
  | many (part : Pattern)
  | seq (first second : Pattern)
  | either (first second : Pattern)

namespace Pattern

def previous (before : Option Char) (chars : List Char) (taken : Nat) : Option Char :=
  if taken = 0 then before else chars[taken - 1]?

/-- Repetitions, as many as possible first. Each takes a character at least, so there
are no more of them than characters. -/
def manyEnds (part : Option Char → List Char → List Nat) :
    Nat → Option Char → List Char → List Nat
  | 0, _, _ => [0]
  | fuel + 1, before, chars =>
    ((part before chars).filter (0 < ·)).flatMap (fun taken =>
      (manyEnds part fuel (previous before chars taken) (chars.drop taken)).map (taken + ·)) ++ [0]

/-- How many characters the matches at a place take. -/
def ends : Pattern → Option Char → List Char → List Nat
  | nothing, _, _ => [0]
  | one allowed, _, chars => if chars.head?.any allowed then [1] else []
  | notAfter barred, before, _ => if before.any barred then [] else [0]
  | notBefore barred, _, chars => if chars.head?.any barred then [] else [0]
  | boundary word, before, chars => if before.any word != chars.head?.any word then [0] else []
  | optional part, before, chars => ends part before chars ++ [0]
  | many part, before, chars => manyEnds (ends part) chars.length before chars
  | seq first second, before, chars =>
    (ends first before chars).flatMap (fun taken =>
      (ends second (previous before chars taken) (chars.drop taken)).map (taken + ·))
  | either first second, before, chars => ends first before chars ++ ends second before chars

def sequence (parts : List Pattern) : Pattern := parts.foldr seq nothing

def literal (text : String) : Pattern := sequence (text.toList.map (fun wanted => one (· = wanted)))

def times (count : Nat) (part : Pattern) : Pattern := sequence (List.replicate count part)

def atLeast (count : Nat) (part : Pattern) : Pattern := seq (times count part) (many part)

def between (least most : Nat) (part : Pattern) : Pattern :=
  seq (times least part) (times (most - least) (optional part))

def fullMatch (pattern : Pattern) (chars : List Char) : Bool :=
  (ends pattern none chars).any (· = chars.length)

def searchFrom (pattern : Pattern) (before : Option Char) : List Char → Bool
  | [] => !(ends pattern before []).isEmpty
  | char :: rest => !(ends pattern before (char :: rest)).isEmpty || searchFrom pattern (some char) rest

def search (pattern : Pattern) (chars : List Char) : Bool := searchFrom pattern none chars

/-- A match: where it starts and how many characters it takes. -/
structure Found where
  start : Nat
  length : Nat

/-- The matches from left to right, none inside another. The first number is that of
the characters a match has taken already. -/
def foundFrom (pattern : Pattern) (before : Option Char) : Nat → Nat → List Char → List Found
  | _, _, [] => []
  | taken + 1, place, char :: rest => foundFrom pattern (some char) taken (place + 1) rest
  | 0, place, char :: rest =>
    match (ends pattern before (char :: rest)).head? with
    | some (more + 1) => ⟨place, more + 1⟩ :: foundFrom pattern (some char) more (place + 1) rest
    | _ => foundFrom pattern (some char) 0 (place + 1) rest

def findAll (pattern : Pattern) (chars : List Char) : List Found := foundFrom pattern none 0 0 chars

def Found.text (found : Found) (chars : List Char) : List Char := (chars.drop found.start).take found.length

/-- A match of two parts in a row: how many characters each of them takes. -/
def spans (first second : Pattern) (before : Option Char) (chars : List Char) : Option (Nat × Nat) :=
  (ends first before chars).findSome? (fun taken =>
    (ends second (previous before chars taken) (chars.drop taken)).head?.map (fun more => (taken, more)))

/-- The second part of each match is replaced. The number bounds the steps. -/
def replacingFrom (first second : Pattern) (replacement : List Char) :
    Nat → Option Char → List Char → List Char
  | 0, _, chars => chars
  | _ + 1, _, [] => []
  | steps + 1, before, char :: rest =>
    match spans first second before (char :: rest) with
    | some (taken, more + 1) =>
      (char :: rest).take taken ++ replacement ++
        replacingFrom first second replacement steps
          (previous before (char :: rest) (taken + more + 1)) ((char :: rest).drop (taken + more + 1))
    | _ => char :: replacingFrom first second replacement steps (some char) rest

def replacing (first second : Pattern) (replacement chars : List Char) : List Char :=
  replacingFrom first second replacement chars.length none chars

end Pattern
end Lucius
