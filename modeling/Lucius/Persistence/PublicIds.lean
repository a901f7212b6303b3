import Lucius.Lib.Run
import Lucius.Persistence.Identifiers

/-! The allocator of public identifiers, as the session runs it.

The next number is one past the highest number among the persisted rows or one past the
last number given out, whichever is higher. The rows waiting in the session are written last,
so the scan does not see them. A write that the database refuses rolls the transaction back,
and the session answers nothing after that. -/

namespace Lucius.PublicIds

open Lucius.Action

def entityPrefixes : List (String × String) :=
  [("project", "LPROJ"), ("repository", "LREPO"), ("snapshot", "LSNAP"), ("task", "LTASK"),
    ("task_contract", "LCONTR"), ("task_run", "LRUN"), ("context_package", "LCTX"),
    ("documentation_completion", "LDOC"), ("evidence", "LEVID"), ("engineering_plan", "LPLAN"),
    ("memory", "LMEM"), ("learning", "LLEARN"), ("evaluation", "LEVAL"), ("audit", "LAUDIT"),
    ("model_provider", "LMPROV"), ("model_profile", "LMPROF"), ("model_execution", "LMEXEC"),
    ("evaluation_suite", "LESUITE"), ("evaluation_case", "LCASE"), ("evaluation_run", "LERUN"),
    ("evaluation_case_result", "LERES"), ("repository_state", "LRSTATE"), ("plan_freeze", "LFREEZE"),
    ("plan_evaluation", "LEVALPLAN"), ("human_rubric", "LRUBRIC"), ("benchmark", "LBENCH"),
    ("pilot_learning", "LPLEARN"), ("pilot_record", "LPILOT"), ("persistent_workflow", "LWORK"),
    ("workflow_checkpoint", "LWCHK"), ("resume_validation", "LRESUME"), ("queue_checkpoint", "LQCHK"),
    ("controlled_commit", "LCOMMIT")]

def entityPrefix (entity : String) : Option String :=
  (entityPrefixes.find? (fun entry => entry.1 = entity)).map Prod.snd

/-- The decimal digits come in runs of ten, from zero on. -/
def decimalZeros : List Nat :=
  [48, 1632, 1776, 1984, 2406, 2534, 2662, 2790, 2918, 3046, 3174, 3302, 3430, 3558, 3664, 3792,
    3872, 4160, 4240, 6112, 6160, 6470, 6608, 6784, 6800, 6992, 7088, 7232, 7248, 42528, 43216,
    43264, 43472, 43504, 43600, 44016, 65296, 66720, 68912, 69734, 69872, 69942, 70096, 70384,
    70736, 70864, 71248, 71360, 71472, 71904, 72016, 72784, 73040, 73120, 92768, 92864, 93008,
    120782, 120792, 120802, 120812, 120822, 123200, 123632, 125264, 130032]

/-- Digits that are not decimal: superscripts, subscripts, circled digits and the like. -/
def otherDigits : List (Nat × Nat) :=
  [(178, 179), (185, 185), (4969, 4977), (6618, 6618), (8304, 8304), (8308, 8313), (8320, 8329),
    (9312, 9320), (9332, 9340), (9352, 9360), (9450, 9450), (9461, 9469), (9471, 9471),
    (10102, 10110), (10112, 10120), (10122, 10130), (68160, 68163), (69216, 69224), (69714, 69722),
    (127232, 127242)]

def decimalValue (char : Char) : Option Nat :=
  (decimalZeros.find? (fun start => start ≤ char.toNat && char.toNat < start + 10)).map
    (fun start => char.toNat - start)

def isDigitChar (char : Char) : Bool :=
  (decimalValue char).isSome ||
    otherDigits.any (fun range => range.1 ≤ char.toNat && char.toNat ≤ range.2)

def isdigit (text : List Char) : Bool := !text.isEmpty && text.all isDigitChar

/-- The number that decimal digits write, after one already read. -/
def digitsValue (value : Nat) : List Char → Option Nat
  | [] => some value
  | char :: rest => do
      let digit ← decimalValue char
      digitsValue (10 * value + digit) rest

def maxStrDigits : Nat := 4300

/-- `int(text)` of a text of digits. -/
def pyInt (text : List Char) : Except PyExc Nat :=
  if maxStrDigits < text.length then
    .error (.valueError "Exceeds the limit (4300 digits) for integer string conversion")
  else
    match digitsValue 0 text with
    | some value => .ok value
    | none => .error (.valueError ("invalid literal for int() with base 10: " ++ String.ofList text))

/-- What follows the prefix and its underscore. -/
def suffixOf (idPrefix publicId : String) : Option (List Char) :=
  let expected := (idPrefix ++ "_").toList
  if expected.isPrefixOf publicId.toList then some (publicId.toList.drop expected.length) else none

def publicIdNumber (publicId idPrefix : String) : Except PyExc Nat :=
  match suffixOf idPrefix publicId with
  | none => .ok 0
  | some suffix => if isdigit suffix then pyInt suffix else .ok 0

structure IdRow where
  table : String
  id : String
  deriving DecidableEq, Repr

structure Database where
  rows : List IdRow := []
  counters : String → Option Nat := fun _ => none

/-- A session: the database as it sees it and as its transaction found it, the rows that
wait to be written, and whether a refused write has rolled the transaction back. -/
structure Session where
  database : Database := {}
  begun : Database := {}
  pending : List IdRow := []
  rolledBack : Bool := false

abbrev Work (α : Type) := Action Session PyExc α

/-- The rows whose identifiers have another form count nothing, so that it does not matter
which of them the query leaves out. -/
def persistedNextNumber (rows : List IdRow) (idPrefix : String) : Except PyExc Nat := do
  let numbers ← rows.mapM (fun row => publicIdNumber row.id idPrefix)
  return numbers.foldl max 0 + 1

/-- The first integer the database cannot hold. -/
def integerBound : Nat := 2 ^ 63

/-- A sum that the database cannot hold becomes the nearest real number, which one more
does not change. -/
def oneMore (number : Nat) : Nat := min (number + 1) integerBound

def advanced (persistedNext current : Nat) : Nat :=
  if current < persistedNext then oneMore persistedNext else oneMore current

def flush : Work Unit := do
  let session ← get
  if session.rolledBack then throw .databaseError
  else if session.pending.Nodup ∧ ∀ row ∈ session.pending, row ∉ session.database.rows then
    set { session with
      database := { session.database with rows := session.database.rows ++ session.pending }
      pending := [] }
  else do
    set { session with database := session.begun, pending := [], rolledBack := true }
    throw .databaseError

def formatId (idPrefix : String) (number : Nat) : String :=
  idPrefix ++ "_" ++ Timestamp.padded 6 number

def nextId (entity : String) : Work String := do
  match entityPrefix entity with
  | none => throw (.valueError ("Unknown Lucius entity type: " ++ entity))
  | some idPrefix => do
      let session ← get
      if session.rolledBack then throw .databaseError
      else do
        let persistedNext ← Action.ofExcept (persistedNextNumber session.database.rows idPrefix)
        if integerBound ≤ persistedNext then throw .overflowError
        else do
          let next := advanced persistedNext ((session.database.counters entity).getD persistedNext)
          set { session with database := { session.database with
            counters := fun other => if other = entity then some next else session.database.counters other } }
          flush
          return formatId idPrefix (next - 1)

/-- The number of an identifier of the prefix: what the decimal digits after it write. -/
def numberOf (idPrefix publicId : String) : Option Nat :=
  (suffixOf idPrefix publicId).bind (fun suffix =>
    if suffix.isEmpty then none else digitsValue 0 suffix)

theorem digitsValue_isSome (text : List Char) (value : Nat) :
    (digitsValue value text).isSome = true ↔ ∀ char ∈ text, (decimalValue char).isSome = true := by
  induction text generalizing value with
  | nil => simp [digitsValue]
  | cons char rest ih =>
    rw [digitsValue, List.forall_mem_cons]
    cases decimalValue char with
    | none => simp
    | some digit => simp [ih]

theorem isDigitChar_of_decimal {char : Char} (decimal : (decimalValue char).isSome = true) :
    isDigitChar char = true := by
  rw [isDigitChar, decimal, Bool.true_or]

/-- The scan can read the identifier. -/
structure Readable (idPrefix publicId : String) : Prop where
  decimal : ∀ suffix, suffixOf idPrefix publicId = some suffix → isdigit suffix = true →
    ∀ char ∈ suffix, (decimalValue char).isSome = true
  short : ∀ suffix, suffixOf idPrefix publicId = some suffix → isdigit suffix = true →
    suffix.length ≤ maxStrDigits

theorem publicIdNumber_iff (idPrefix publicId : String) (number : Nat) :
    publicIdNumber publicId idPrefix = .ok number ↔
      Readable idPrefix publicId ∧ number = (numberOf idPrefix publicId).getD 0 := by
  unfold publicIdNumber numberOf
  cases suffix : suffixOf idPrefix publicId with
  | none =>
    have readable : Readable idPrefix publicId := by
      constructor
      · intro other same
        rw [suffix] at same
        cases same
      · intro other same
        rw [suffix] at same
        cases same
    constructor
    · intro same
      exact ⟨readable, (Except.ok.inj same).symm⟩
    · rintro ⟨_, same⟩
      rw [same]
      rfl
  | some text =>
    rw [Option.bind_some]
    dsimp only
    have readable : Readable idPrefix publicId ↔ (isdigit text = true →
        (∀ char ∈ text, (decimalValue char).isSome = true) ∧ text.length ≤ maxStrDigits) := by
      constructor
      · intro readable digits
        exact ⟨readable.decimal text suffix digits, readable.short text suffix digits⟩
      · intro each
        constructor
        · intro other same digits
          rw [suffix] at same
          cases same
          exact (each digits).1
        · intro other same digits
          rw [suffix] at same
          cases same
          exact (each digits).2
    rw [readable]
    by_cases digits : isdigit text = true
    · have some_ : text.isEmpty = false := by
        unfold isdigit at digits
        simp only [Bool.and_eq_true, Bool.not_eq_true'] at digits
        exact digits.1
      rw [if_pos digits, some_]
      simp only [digits, forall_const, Bool.false_eq_true, if_false]
      rw [← digitsValue_isSome text 0]
      unfold pyInt
      by_cases long : maxStrDigits < text.length
      · rw [if_pos long]
        simp only [reduceCtorEq, false_iff, not_and]
        intro both
        omega
      · rw [if_neg long]
        cases value : digitsValue 0 text with
        | none => simp
        | some read =>
          simp only [Except.ok.injEq, Option.isSome_some, true_and, Option.getD_some]
          constructor
          · intro same
            exact ⟨Nat.le_of_not_lt long, same.symm⟩
          · rintro ⟨_, same⟩
            exact same.symm
    · rw [if_neg digits]
      have unread : (if text.isEmpty = true then none else digitsValue 0 text) = none := by
        split
        · rfl
        · rename_i filled
          by_contra read
          apply digits
          unfold isdigit
          rw [Bool.and_eq_true, List.all_eq_true]
          refine ⟨by simpa using filled, ?_⟩
          have decimals := (digitsValue_isSome text 0).mp (Option.isSome_iff_ne_none.mpr read)
          exact fun char member => isDigitChar_of_decimal (decimals char member)
      rw [unread]
      constructor
      · intro same
        exact ⟨fun now => absurd now digits, (Except.ok.inj same).symm⟩
      · rintro ⟨_, same⟩
        rw [same]
        rfl

/-- The highest number that the rows carry. -/
def highestNumber (rows : List IdRow) (idPrefix : String) : Nat :=
  (rows.map (fun row => (numberOf idPrefix row.id).getD 0)).foldl max 0

theorem persistedNextNumber_iff (rows : List IdRow) (idPrefix : String) (next : Nat) :
    persistedNextNumber rows idPrefix = .ok next ↔
      (∀ row ∈ rows, Readable idPrefix row.id) ∧ next = highestNumber rows idPrefix + 1 := by
  have scanned : ∀ numbers, rows.mapM (fun row => publicIdNumber row.id idPrefix) = .ok numbers ↔
      (∀ row ∈ rows, Readable idPrefix row.id) ∧
        numbers = rows.map (fun row => (numberOf idPrefix row.id).getD 0) := by
    induction rows with
    | nil =>
      intro numbers
      simp [pure, Except.pure, eq_comm]
    | cons row rest ih =>
      intro numbers
      rw [List.mapM_cons, List.forall_mem_cons, List.map_cons]
      have here := publicIdNumber_iff idPrefix row.id
      cases read : publicIdNumber row.id idPrefix with
      | error error =>
        rw [read] at here
        constructor
        · intro done
          cases done
        · rintro ⟨⟨readable, _⟩, _⟩
          have impossible := (here _).mpr ⟨readable, rfl⟩
          cases impossible
      | ok number =>
        rw [read] at here
        obtain ⟨readable, same⟩ := (here number).mp rfl
        cases others : rest.mapM (fun row => publicIdNumber row.id idPrefix) with
        | error error =>
          rw [others] at ih
          constructor
          · intro done
            cases done
          · rintro ⟨⟨_, restReadable⟩, _⟩
            have impossible := (ih _).mpr ⟨restReadable, rfl⟩
            cases impossible
        | ok later =>
          rw [others] at ih
          obtain ⟨restReadable, rest'⟩ := (ih later).mp rfl
          rw [← same, ← rest']
          constructor
          · intro done
            exact ⟨⟨readable, restReadable⟩, (Except.ok.inj done).symm⟩
          · rintro ⟨_, listed⟩
            rw [listed]
            rfl
  unfold persistedNextNumber highestNumber
  cases read : rows.mapM (fun row => publicIdNumber row.id idPrefix) with
  | error error =>
    rw [read] at scanned
    constructor
    · intro done
      cases done
    · rintro ⟨readable, _⟩
      have impossible := (scanned _).mpr ⟨readable, rfl⟩
      cases impossible
  | ok numbers =>
    rw [read] at scanned
    obtain ⟨readable, listed⟩ := (scanned numbers).mp rfl
    rw [← listed]
    constructor
    · intro done
      exact ⟨readable, (Except.ok.inj done).symm⟩
    · rintro ⟨_, same⟩
      rw [same]
      rfl

theorem foldl_max_bound (numbers : List Nat) (start bound : Nat) :
    numbers.foldl max start < bound ↔ start < bound ∧ ∀ number ∈ numbers, number < bound := by
  induction numbers generalizing start with
  | nil => simp
  | cons number rest ih =>
    rw [List.foldl_cons, ih, List.forall_mem_cons, Nat.max_lt, and_assoc]

theorem highestNumber_lt_iff (rows : List IdRow) (idPrefix : String) {bound : Nat} (positive : 0 < bound) :
    highestNumber rows idPrefix < bound ↔
      ∀ row ∈ rows, ∀ number, numberOf idPrefix row.id = some number → number < bound := by
  unfold highestNumber
  rw [foldl_max_bound]
  simp only [positive, true_and, List.forall_mem_map]
  constructor
  · intro each row member number carried
    have below := each row member
    rw [carried] at below
    exact below
  · intro each row member
    cases carried : numberOf idPrefix row.id with
    | none => exact positive
    | some number => exact each row member number carried

/-- The call can be answered: the session is open, the scan can read every row and finds no
number too high for the database, and the rows that wait can be written. -/
structure Answerable (session : Session) (idPrefix : String) : Prop where
  opened : session.rolledBack = false
  readable : ∀ row ∈ session.database.rows, Readable idPrefix row.id
  bounded : ∀ row ∈ session.database.rows, ∀ number, numberOf idPrefix row.id = some number →
    number + 1 < integerBound
  distinct : session.pending.Nodup ∧ ∀ row ∈ session.pending, row ∉ session.database.rows

def Session.counted (session : Session) (entity : String) (next : Nat) : Session :=
  { session with database := { session.database with
    counters := fun other => if other = entity then some next else session.database.counters other } }

/-- What the counter of the entity is moved to. -/
def Session.next (session : Session) (entity idPrefix : String) : Nat :=
  let persistedNext := highestNumber session.database.rows idPrefix + 1
  advanced persistedNext ((session.database.counters entity).getD persistedNext)

/-- The session after a call that is answered. -/
def Session.allocated (session : Session) (entity idPrefix : String) : Session :=
  let counted := session.counted entity (session.next entity idPrefix)
  { counted with
    database := { counted.database with rows := counted.database.rows ++ counted.pending }
    pending := [] }

theorem exec_flush (session : Session) (opened : session.rolledBack = false) :
    exec flush session =
      if session.pending.Nodup ∧ ∀ row ∈ session.pending, row ∉ session.database.rows then
        (.ok (), { session with
          database := { session.database with rows := session.database.rows ++ session.pending }
          pending := [] })
      else (.error .databaseError,
        { session with database := session.begun, pending := [], rolledBack := true }) := by
  unfold flush
  rw [exec_get_bind, opened]
  simp only [Bool.false_eq_true, if_false]
  split
  · rfl
  · rfl

variable {entity idPrefix : String} (known : entityPrefix entity = some idPrefix)

include known

theorem exec_nextId_scanned {session : Session} {persistedNext : Nat}
    (opened : session.rolledBack = false)
    (scanned : persistedNextNumber session.database.rows idPrefix = .ok persistedNext)
    (fits : ¬ integerBound ≤ persistedNext) :
    exec (nextId entity) session =
      let next := advanced persistedNext ((session.database.counters entity).getD persistedNext)
      exec (flush >>= fun _ => pure (formatId idPrefix (next - 1))) (session.counted entity next) := by
  unfold nextId
  rw [known]
  dsimp only
  rw [exec_get_bind, opened]
  simp only [Bool.false_eq_true, if_false]
  rw [exec_bind_ofExcept scanned, if_neg fits, exec_bind_of_ok (exec_set _ _),
    Session.counted, opened]

theorem nextId_answered {session : Session} (answerable : Answerable session idPrefix) :
    exec (nextId entity) session =
      (.ok (formatId idPrefix (session.next entity idPrefix - 1)), session.allocated entity idPrefix) := by
  have scanned := (persistedNextNumber_iff session.database.rows idPrefix _).mpr
    ⟨answerable.readable, rfl⟩
  have below : highestNumber session.database.rows idPrefix < integerBound - 1 := by
    apply (highestNumber_lt_iff _ _ (by decide)).mpr
    intro row member number carried
    have bounded := answerable.bounded row member number carried
    omega
  have fits : ¬ integerBound ≤ highestNumber session.database.rows idPrefix + 1 := by omega
  have flushed := (exec_flush (session.counted entity (session.next entity idPrefix))
    answerable.opened).trans (if_pos answerable.distinct)
  rw [exec_nextId_scanned known answerable.opened scanned fits]
  exact exec_bind_of_ok flushed

theorem answerable_of_answered {session : Session} {publicId : String}
    (answered : (exec (nextId entity) session).1 = .ok publicId) : Answerable session idPrefix := by
  cases opened : session.rolledBack with
  | true =>
    unfold nextId at answered
    rw [known] at answered
    dsimp only at answered
    rw [exec_get_bind, opened] at answered
    cases answered
  | false =>
    cases scanned : persistedNextNumber session.database.rows idPrefix with
    | error error =>
      unfold nextId at answered
      rw [known] at answered
      dsimp only at answered
      rw [exec_get_bind, opened, scanned] at answered
      cases answered
    | ok persistedNext =>
      obtain ⟨readable, same⟩ := (persistedNextNumber_iff _ _ _).mp scanned
      by_cases tooHigh : integerBound ≤ persistedNext
      · unfold nextId at answered
        rw [known] at answered
        dsimp only at answered
        rw [exec_get_bind, opened] at answered
        simp only [Bool.false_eq_true, if_false] at answered
        rw [exec_bind_ofExcept scanned, if_pos tooHigh] at answered
        cases answered
      · rw [exec_nextId_scanned known opened scanned tooHigh] at answered
        refine ⟨opened, readable, ?_, ?_⟩
        · intro row member number carried
          have below := (highestNumber_lt_iff session.database.rows idPrefix
            (Nat.succ_pos _)).mp (Nat.lt_succ_self _) row member number carried
          omega
        · by_contra clash
          have refused := fun next => (exec_flush (session.counted entity next) opened).trans
            (if_neg clash)
          dsimp only at answered
          rw [exec_bind_of_error (refused _)] at answered
          cases answered

end Lucius.PublicIds
