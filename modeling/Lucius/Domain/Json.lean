import Mathlib.Data.List.Infix

/-! JSON column values as the services read them, and the exceptions of the
program. A float is kept by what the code asks of it: its text, its truncation
(none for an infinity or a NaN) and whether it is zero. A zero prints as one. -/

namespace Lucius

instance lawfulChars : LawfulBEq (List Char) := inferInstance

inductive PyExc where
  | typeError
  | keyError
  | attributeError
  | indexError
  | valueError (message : String)
  | overflowError
  | unicodeError
  | assertionError
  | validationError
  | osError
  | timeoutError
  | urlError
  | subprocessError
  | databaseError
  | queueStateError (message : String)
  | taskEligibilityError (message : String)
  | planningError (message : String)
  | planFreezeError (message : String)
  | executionRuntimeLoopError (message : String)
  | gitMutationError (code : String)
  | deterministicAcceptanceError (code : String)
  | integrationBlocked (reason : String)
  | providerBlocked (failureClass : String) (message : String)
  deriving DecidableEq, Repr

structure PyFloat where
  text : String
  truncated : Option Int
  zero : Bool
  zeroText : zero = true → text = "0.0" ∨ text = "-0.0"
  deriving DecidableEq, Repr

inductive Json where
  | null
  | bool (value : Bool)
  | int (value : Int)
  | float (value : PyFloat)
  | str (value : String)
  | arr (elements : List Json)
  | obj (members : List (String × Json))
  deriving Repr

abbrev Dict := List (String × Json)

namespace Dict

def lookup : Dict → String → Option Json
  | [], _ => none
  | (name, value) :: rest, key => if name = key then some value else lookup rest key

/-- `dict.get(key)`: an absent key reads as `None`. -/
def get (dict : Dict) (key : String) : Json := (dict.lookup key).getD .null

def getOr (dict : Dict) (key : String) (fallback : Json) : Json := (dict.lookup key).getD fallback

def has (dict : Dict) (key : String) : Bool := (dict.lookup key).isSome

def set : Dict → String → Json → Dict
  | [], key, new => [(key, new)]
  | (name, value) :: rest, key, new =>
    if name = key then (name, new) :: rest else (name, value) :: set rest key new

def update (dict : Dict) (patch : Dict) : Dict :=
  patch.foldl (fun current entry => set current entry.1 entry.2) dict

theorem lookup_set (dict : Dict) (key other : String) (new : Json) :
    lookup (set dict key new) other = if key = other then some new else lookup dict other := by
  induction dict with
  | nil => rfl
  | cons entry rest ih =>
    obtain ⟨name, value⟩ := entry
    by_cases here : name = key
    · simp only [set, here, if_true, lookup]
      split <;> rfl
    · simp only [set, here, if_false, lookup, ih]
      by_cases wanted : key = other
      · rw [if_pos wanted, if_neg (wanted ▸ here), if_pos wanted]
      · rw [if_neg wanted, if_neg wanted]

@[simp] theorem get_set (dict : Dict) (key other : String) (new : Json) :
    get (set dict key new) other = if key = other then new else get dict other := by
  rw [get, lookup_set]
  split <;> rfl

@[simp] theorem getOr_set (dict : Dict) (key other : String) (new fallback : Json) :
    getOr (set dict key new) other fallback = if key = other then new else getOr dict other fallback := by
  rw [getOr, lookup_set]
  split <;> rfl

theorem set_set (dict : Dict) (key : String) (first second : Json) :
    set (set dict key first) key second = set dict key second := by
  induction dict with
  | nil => simp [set]
  | cons entry rest ih =>
    obtain ⟨name, value⟩ := entry
    by_cases here : name = key
    · simp [set, here]
    · simp [set, here, ih]

theorem get_of_not_has {dict : Dict} {key : String} (absent : dict.has key = false) :
    dict.get key = .null := by
  rw [has, Option.isSome_eq_false_iff, Option.isNone_iff_eq_none] at absent
  rw [get, absent]
  rfl

end Dict

namespace Json

def truthy : Json → Bool
  | null => false
  | bool value => value
  | int value => value != 0
  | float value => !value.zero
  | str value => !value.toList.isEmpty
  | arr elements => !elements.isEmpty
  | obj members => !members.isEmpty

/-- `left or right`. -/
def orElse (left right : Json) : Json := if left.truthy then left else right

def isStr (value : Json) (text : String) : Bool :=
  match value with
  | str found => found = text
  | _ => false

theorem isStr_iff {value : Json} {text : String} : value.isStr text = true ↔ value = str text := by
  cases value with
  | str found => simp [isStr]
  | _ => simp [isStr]

def text? : Json → Option String
  | str text => some text
  | _ => none

def isTrue : Json → Bool
  | bool value => value
  | _ => false

def isNull : Json → Bool
  | null => true
  | _ => false

/-- One character of `repr` of a string. Characters past ASCII stand for
themselves, as the printable ones among them do. -/
def reprChar (quote : Char) (char : Char) : List Char :=
  if char = quote ∨ char = '\\' then ['\\', char]
  else if char = '\n' then ['\\', 'n']
  else if char = '\r' then ['\\', 'r']
  else if char = '\t' then ['\\', 't']
  else if char.toNat < 32 ∨ char.toNat = 127 then
    ['\\', 'x', Nat.digitChar (char.toNat / 16), Nat.digitChar (char.toNat % 16)]
  else [char]

def reprStr (text : String) : String :=
  let chars := text.toList
  let quote := if '\'' ∈ chars ∧ '"' ∉ chars then '"' else '\''
  String.ofList (quote :: (chars.flatMap (reprChar quote)) ++ [quote])

mutual

def pyRepr : Json → String
  | null => "None"
  | bool true => "True"
  | bool false => "False"
  | int value => toString value
  | float value => value.text
  | str value => reprStr value
  | arr elements => "[" ++ reprElements elements ++ "]"
  | obj members => "\x7b" ++ reprMembers members ++ "\x7d"

def reprElements : List Json → String
  | [] => ""
  | [last] => pyRepr last
  | first :: rest => pyRepr first ++ ", " ++ reprElements rest

def reprMembers : List (String × Json) → String
  | [] => ""
  | [(name, last)] => reprStr name ++ ": " ++ pyRepr last
  | (name, first) :: rest => reprStr name ++ ": " ++ pyRepr first ++ ", " ++ reprMembers rest

end

/-- `str(value)`. -/
def pyStr : Json → String
  | str value => value
  | other => pyRepr other

@[simp] theorem pyStr_str (text : String) : pyStr (str text) = text := rfl

/-- White space, as `strip`, `split` and `\s` take it. -/
def isSpace (char : Char) : Bool :=
  let code := char.toNat
  (9 ≤ code && code ≤ 13) || (28 ≤ code && code ≤ 32) || (8192 ≤ code && code ≤ 8202) ||
    [133, 160, 5760, 8232, 8233, 8239, 8287, 12288].contains code

def strip (chars : List Char) : List Char :=
  ((chars.dropWhile isSpace).reverse.dropWhile isSpace).reverse

/-- Decimal digits, an underscore allowed between two of them. -/
def digitsValue : List Char → Bool → Nat → Option Nat
  | [], afterDigit, total => if afterDigit then some total else none
  | char :: rest, afterDigit, total =>
    if char.isDigit then digitsValue rest true (10 * total + (char.toNat - 48))
    else if char = '_' ∧ afterDigit ∧ rest ≠ [] then digitsValue rest false total
    else none

def intOfText (text : String) : Option Int :=
  match strip text.toList with
  | '-' :: digits => (digitsValue digits false 0).map (fun value => -(value : Int))
  | '+' :: digits => (digitsValue digits false 0).map Int.ofNat
  | digits => (digitsValue digits false 0).map Int.ofNat

/-- `int(value)`. -/
def pyInt : Json → Except PyExc Int
  | int value => .ok value
  | bool value => .ok (if value then 1 else 0)
  | float value =>
    match value.truncated with
    | some whole => .ok whole
    | none => .error .overflowError
  | str text =>
    match intOfText text with
    | some value => .ok value
    | none => .error (.valueError ("invalid literal for int() with base 10: " ++ reprStr text))
  | _ => .error .typeError

@[simp] theorem pyInt_int (value : Int) : pyInt (int value) = .ok value := rfl

/-- The elements a `for` loop or `list(value)` yields. -/
def pyIter : Json → Except PyExc (List Json)
  | arr elements => .ok elements
  | str text => .ok (text.toList.map (fun char => str (String.singleton char)))
  | obj members => .ok (members.map (fun entry => str entry.1))
  | _ => .error .typeError

/-- `dict(value)` of a JSON column value. -/
def pyDict : Json → Except PyExc Dict
  | obj members => .ok members
  | arr [] => .ok []
  | str text => if text.toList.isEmpty then .ok [] else .error (.valueError "dictionary update sequence element")
  | arr _ => .error .typeError
  | _ => .error .typeError

/-- A `str | None` field of a validated record. -/
def optionalText : Json → Except PyExc (Option String)
  | null => .ok none
  | str text => .ok (some text)
  | _ => .error .validationError

/-- A `list[str]` field of a validated record. -/
def textList : List Json → Except PyExc (List String)
  | [] => .ok []
  | str text :: rest => do return text :: (← textList rest)
  | _ :: _ => .error .validationError

/-- The list `value.append` adds to: nothing but a list has that method. -/
def appendTarget : Json → Except PyExc (List Json)
  | arr elements => .ok elements
  | _ => .error .attributeError

def ofTexts (texts : List String) : Json := arr (texts.map str)

def ofOptionalText : Option String → Json
  | some text => str text
  | none => null

end Json
end Lucius
