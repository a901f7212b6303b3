import Lucius.Repositories.RepositoryPaths
import Lucius.Runtime.OllamaProvider

/-! What the normalisation of the checks promises of any JSON: the errors its callers know,
or a list that is as it should be and stays as it is. -/

namespace Lucius.Acceptance

open Worktree

section

variable {α β : Type}

/-- An error of the acceptance itself, the one that callers catch. -/
def Refuses (result : Except WorkspaceExc α) : Prop :=
  ∃ code message, result = .error (.acceptance code message)

/-- Any other error. -/
def Breaks (result : Except WorkspaceExc α) : Prop :=
  ∃ error, result = .error error ∧ ∀ code message, error ≠ .acceptance code message

@[simp] theorem breaks_ok (value : α) : ¬ Breaks (.ok value : Except WorkspaceExc α) := by
  rintro ⟨error, same, _⟩
  cases same

@[simp] theorem breaks_acceptance (code message : String) :
    ¬ Breaks (.error (.acceptance code message) : Except WorkspaceExc α) := by
  rintro ⟨error, same, other⟩
  cases same
  exact other code message rfl

theorem breaks_bind {first : Except WorkspaceExc α} {next : α → Except WorkspaceExc β} :
    Breaks (first >>= next) ↔ Breaks first ∨ ∃ value, first = .ok value ∧ Breaks (next value) := by
  cases first with
  | error error =>
    constructor
    · rintro ⟨_, same, other⟩
      cases same
      exact .inl ⟨error, rfl, other⟩
    · rintro (⟨_, same, other⟩ | ⟨_, same, _⟩)
      · cases same
        exact ⟨error, rfl, other⟩
      · cases same
  | ok value =>
    constructor
    · intro breaks
      exact .inr ⟨value, rfl, breaks⟩
    · rintro (breaks | ⟨other, same, breaks⟩)
      · exact absurd breaks (breaks_ok value)
      · cases same
        exact breaks

theorem bind_ok_iff {first : Except WorkspaceExc α} {next : α → Except WorkspaceExc β} {result : β} :
    (first >>= next) = .ok result ↔ ∃ value, first = .ok value ∧ next value = .ok result := by
  constructor
  · exact except_bind_ok
  · rintro ⟨value, rfl, done⟩
    exact done

theorem refuses_or_breaks {result : Except WorkspaceExc α} (failed : ∀ value, result ≠ .ok value) :
    Refuses result ∨ Breaks result := by
  cases result with
  | ok value => exact absurd rfl (failed value)
  | error error =>
    by_cases known : ∃ code message, error = .acceptance code message
    · obtain ⟨code, message, rfl⟩ := known
      exact .inl ⟨code, message, rfl⟩
    · refine .inr ⟨error, rfl, ?_⟩
      intro code message same
      exact known ⟨code, message, same⟩

end

/-! ### Paths -/

/-- A path whose first part begins with white space or whose last part ends with it. -/
def LooseEnds (text : String) : Prop :=
  ((pathParts text).head?.bind List.head?).any Json.isSpace = true ∨
    ((pathParts text).getLast?.bind List.getLast?).any Json.isSpace = true

theorem validate_error {raw : Json} (failed : ∀ path, validateRelativeRepoPath raw ≠ .ok path) :
    ∃ code message, validateRelativeRepoPath raw = .error (.gitMutation code message) := by
  unfold validateRelativeRepoPath at failed ⊢
  cases raw with
  | str text =>
    dsimp only at failed ⊢
    split
    · exact ⟨_, _, rfl⟩
    · split
      · exact ⟨_, _, rfl⟩
      · rename_i plain inside
        rw [if_neg plain, if_neg inside] at failed
        exact absurd rfl (failed _)
  | null | bool _ | int _ | float _ | arr _ | obj _ => exact ⟨_, _, rfl⟩

theorem validate_again_iff {text path : String} (done : validateRelativeRepoPath (.str text) = .ok path) :
    validateRelativeRepoPath (.str path) = .ok path ↔ ¬ LooseEnds text := by
  obtain ⟨filled, tested, rfl⟩ := (validate_iff text path).mp done
  by_cases named : pathParts text = []
  · rw [named]
    constructor
    · rintro _ (loose | loose)
      · rw [named] at loose
        cases loose
      · rw [named] at loose
        cases loose
    · intro _
      decide
  · rw [validate_iff, pathParts_asPosix]
    constructor
    · rintro ⟨_, again, _⟩ loose
      have ends := (strip_eq_self_iff _).mp again.stripped
      rw [asPosix_head? named, asPosix_getLast? named] at ends
      rcases loose with front | back
      · rw [ends.1] at front
        cases front
      · rw [ends.2] at back
        cases back
    · intro tight
      refine ⟨asPosix_ne_empty named, ?_, rfl⟩
      apply asPosix_tested named tested
      · exact eq_false_of_ne_true (fun loose => tight (.inl loose))
      · exact eq_false_of_ne_true (fun loose => tight (.inr loose))

/-- A relative path without a step up whose first part is `tests`. -/
structure InsideTests (target : String) : Prop where
  tested : Tested target
  below : ∃ names, pathParts target = "tests".toList :: names

theorem startsWith_iff (text start : String) :
    startsWith text start = true ↔ ∃ rest, text.toList = start.toList ++ rest := by
  rw [startsWith, List.isPrefixOf_iff_prefix]
  constructor
  · rintro ⟨rest, same⟩
    exact ⟨rest, same.symm⟩
  · rintro ⟨rest, same⟩
    exact ⟨rest, same.symm⟩

theorem under_tests_iff {text path : String} (done : validateRelativeRepoPath (.str text) = .ok path) :
    path = "tests" ∨ startsWith path "tests/" = true ↔
      ∃ names, pathParts text = "tests".toList :: names := by
  obtain ⟨_, _, rfl⟩ := (validate_iff text path).mp done
  constructor
  · rintro (same | below)
    · refine ⟨[], ?_⟩
      rw [← pathParts_asPosix, same]
      decide
    · obtain ⟨rest, parts⟩ := (startsWith_iff _ _).mp below
      have named : pathParts text ≠ [] := by
        intro none
        rw [none] at parts
        revert parts
        exact nofun
      have split := asPosix_splitOn named
      rw [parts] at split
      have first : ("tests".toList ++ '/' :: rest).splitOn '/' = "tests".toList :: rest.splitOn '/' := by
        rw [List.splitOn_append_cons_self]
        rfl
      exact ⟨_, split.symm.trans first⟩
  · rintro ⟨names, parts⟩
    have named : pathParts text ≠ [] := by
      rw [parts]
      exact List.cons_ne_nil _ _
    cases names with
    | nil =>
      refine .inl ?_
      rw [parts]
      decide
    | cons second others =>
      refine .inr ((startsWith_iff _ _).mpr ⟨['/'].intercalate (second :: others), ?_⟩)
      rw [asPosix_toList named, parts, intercalate_cons (List.cons_ne_nil _ _)]
      rfl

/-! ### Arguments -/

/-- What follows `--maxfail=`. -/
def failureLimit (arg : String) : List Char := arg.toList.drop 10

def IsFailureLimit (arg : String) : Prop :=
  startsWith arg "--maxfail=" = true ∧ PublicIds.isdigit (failureLimit arg) = true

inductive AllowedArgument (arg : String) : Prop
  | option (listed : arg ∈ allowedPytestOptions)
  | maxfail (limit : IsFailureLimit arg) (value : Nat)
      (read : PublicIds.pyInt (failureLimit arg) = .ok value) (bounded : 1 ≤ value ∧ value ≤ 10)
  | target (plain : startsWith arg "-" = false)
      (inside : InsideTests (String.ofList (beforeColons arg.toList)))

/-- Digits that `int` does not read: a digit that is no decimal one, or too many of them. -/
def UnreadLimit (arg : String) : Prop :=
  IsFailureLimit arg ∧ ∀ value, PublicIds.pyInt (failureLimit arg) ≠ .ok value

theorem intOfDigits_breaks_iff (digits : List Char) :
    Breaks (intOfDigits digits) ↔ ∀ value, PublicIds.pyInt digits ≠ .ok value := by
  unfold intOfDigits
  cases read : PublicIds.pyInt digits with
  | ok found => simp
  | error error =>
    cases error <;> simp [Breaks]

theorem isBoundedMaxfail_cases (arg : String) :
    (¬ IsFailureLimit arg ∧ isBoundedMaxfail arg = .ok false) ∨
      (IsFailureLimit arg ∧ ∃ value, PublicIds.pyInt (failureLimit arg) = .ok value ∧
        isBoundedMaxfail arg = .ok (decide (1 ≤ value ∧ value ≤ 10))) ∨
      (UnreadLimit arg ∧ Breaks (isBoundedMaxfail arg)) := by
  unfold isBoundedMaxfail
  change _ ∨ _ ∨ (_ ∧ Breaks (if (startsWith arg "--maxfail=" && PublicIds.isdigit (failureLimit arg)) = true
    then _ else _))
  by_cases limit : IsFailureLimit arg
  · have both : (startsWith arg "--maxfail=" && PublicIds.isdigit (failureLimit arg)) = true := by
      rw [Bool.and_eq_true]
      exact limit
    refine .inr ?_
    rw [if_pos both]
    by_cases unread : ∀ value, PublicIds.pyInt (failureLimit arg) ≠ .ok value
    · exact .inr ⟨⟨limit, unread⟩, breaks_bind.mpr (.inl ((intOfDigits_breaks_iff _).mpr unread))⟩
    · push Not at unread
      obtain ⟨value, read⟩ := unread
      refine .inl ⟨limit, value, read, ?_⟩
      change (if (startsWith arg "--maxfail=" && PublicIds.isdigit (failureLimit arg)) = true then
        intOfDigits (failureLimit arg) >>= _ else _) = _
      rw [if_pos both, intOfDigits, read]
      rfl
  · have other : ¬ (startsWith arg "--maxfail=" && PublicIds.isdigit (failureLimit arg)) = true := by
      rw [Bool.and_eq_true]
      exact limit
    refine .inl ⟨limit, ?_⟩
    change (if (startsWith arg "--maxfail=" && PublicIds.isdigit (failureLimit arg)) = true then _ else _) = _
    rw [if_neg other]

theorem validatePytestTargetArg_ok_iff (index : Nat) (arg : String) :
    validatePytestTargetArg index arg = .ok () ↔ InsideTests (String.ofList (beforeColons arg.toList)) := by
  generalize target : String.ofList (beforeColons arg.toList) = text
  unfold validatePytestTargetArg
  rw [target]
  constructor
  · intro done
    cases read : validateRelativeRepoPath (.str text) with
    | error error =>
      rw [read] at done
      cases error <;> cases done
    | ok path =>
      rw [read] at done
      dsimp only at done
      split at done
      · cases done
      · rename_i inside
        have tested := (validate_iff text path).mp read
        refine ⟨tested.2.1, (under_tests_iff read).mp ?_⟩
        by_contra outside
        rw [not_or, Bool.not_eq_true] at outside
        exact inside outside
  · rintro ⟨tested, names, parts⟩
    have filled : text.toList ≠ [] := by
      intro empty
      rw [pathParts_empty empty] at parts
      cases parts
    have read := (validate_iff text _).mpr ⟨filled, tested, rfl⟩
    have inside := (under_tests_iff read).mpr ⟨names, parts⟩
    rw [read]
    dsimp only
    rw [if_neg]
    rintro ⟨differs, outside⟩
    rcases inside with same | below
    · exact differs same
    · rw [below] at outside
      cases outside

theorem validatePytestTargetArg_not_breaks (index : Nat) (arg : String) :
    ¬ Breaks (validatePytestTargetArg index arg) := by
  unfold validatePytestTargetArg
  by_cases failed : ∀ path, validateRelativeRepoPath (.str (String.ofList (beforeColons arg.toList))) ≠ .ok path
  · obtain ⟨code, message, known⟩ := validate_error failed
    rw [known]
    exact breaks_acceptance _ _
  · push Not at failed
    obtain ⟨path, read⟩ := failed
    rw [read]
    dsimp only
    split
    · exact breaks_acceptance _ _
    · exact breaks_ok ()

theorem IsFailureLimit.dashed {arg : String} (limit : IsFailureLimit arg) : startsWith arg "-" = true := by
  obtain ⟨rest, text⟩ := (startsWith_iff _ _).mp limit.1
  exact (startsWith_iff _ _).mpr ⟨"-maxfail=".toList ++ rest, text⟩

theorem UnreadLimit.unlisted {arg : String} (unread : UnreadLimit arg) : arg ∉ allowedPytestOptions := by
  intro listed
  have known : ∀ option ∈ allowedPytestOptions, startsWith option "--maxfail=" = true →
      PublicIds.pyInt (failureLimit option) = .ok 1 := by
    decide
  exact unread.2 1 (known arg listed unread.1.1)

theorem validatePytestArg_ok_iff (index : Nat) (arg : String) :
    validatePytestArg index arg = .ok () ↔ AllowedArgument arg := by
  unfold validatePytestArg
  by_cases listed : arg ∈ allowedPytestOptions
  · rw [if_pos listed]
    exact ⟨fun _ => .option listed, fun _ => rfl⟩
  · rw [if_neg listed, bind_ok_iff]
    constructor
    · rintro ⟨bounded, judged, done⟩
      split at done
      · rename_i fits
        subst fits
        rcases isBoundedMaxfail_cases arg with ⟨_, no⟩ | ⟨limit, value, read, yes⟩ | ⟨_, error, failed, _⟩
        · rw [no] at judged
          cases judged
        · rw [yes] at judged
          exact .maxfail limit value read (of_decide_eq_true (Except.ok.inj judged))
        · rw [failed] at judged
          cases judged
      · split at done
        · cases done
        · rename_i plain
          exact .target (eq_false_of_ne_true plain) ((validatePytestTargetArg_ok_iff index arg).mp done)
    · intro allowed
      cases allowed with
      | option known => exact absurd known listed
      | maxfail limit value read bounded =>
        rcases isBoundedMaxfail_cases arg with ⟨none, _⟩ | ⟨_, other, again, yes⟩ | ⟨unread, _⟩
        · exact absurd limit none
        · rw [read] at again
          cases again
          rw [decide_eq_true bounded] at yes
          exact ⟨true, yes, if_pos rfl⟩
        · exact absurd read (unread.2 value)
      | target plain inside =>
        have none : ¬ IsFailureLimit arg := by
          intro limit
          rw [limit.dashed] at plain
          cases plain
        rcases isBoundedMaxfail_cases arg with ⟨_, no⟩ | ⟨limit, _⟩ | ⟨unread, _⟩
        · refine ⟨false, no, ?_⟩
          rw [if_neg Bool.false_ne_true, if_neg (by rw [plain]; exact Bool.false_ne_true)]
          exact (validatePytestTargetArg_ok_iff index arg).mpr inside
        · exact absurd limit none
        · exact absurd unread.1 none

theorem validatePytestArg_breaks_iff (index : Nat) (arg : String) :
    Breaks (validatePytestArg index arg) ↔ UnreadLimit arg := by
  unfold validatePytestArg
  constructor
  · intro breaks
    split at breaks
    · exact absurd breaks (breaks_ok ())
    · rcases breaks_bind.mp breaks with judged | ⟨bounded, _, later⟩
      · rcases isBoundedMaxfail_cases arg with ⟨_, no⟩ | ⟨_, _, _, yes⟩ | ⟨unread, _⟩
        · rw [no] at judged
          exact absurd judged (breaks_ok _)
        · rw [yes] at judged
          exact absurd judged (breaks_ok _)
        · exact unread
      · split at later
        · exact absurd later (breaks_ok ())
        · split at later
          · exact absurd later (breaks_acceptance _ _)
          · exact absurd later (validatePytestTargetArg_not_breaks index arg)
  · intro unread
    rw [if_neg unread.unlisted, breaks_bind]
    rcases isBoundedMaxfail_cases arg with ⟨none, _⟩ | ⟨_, value, read, _⟩ | ⟨_, judged⟩
    · exact absurd unread.1 none
    · exact absurd read (unread.2 value)
    · exact .inl judged

/-- The arguments up to one with an unread limit are allowed. -/
def ReachesUnread (args : List String) : Prop :=
  ∃ front arg back, args = front ++ arg :: back ∧ (∀ earlier ∈ front, AllowedArgument earlier) ∧
    UnreadLimit arg

theorem validatePytestArgs_ok_iff (index : Nat) (args : List String) :
    validatePytestArgs index args = .ok () ↔ ∀ arg ∈ args, AllowedArgument arg := by
  induction args with
  | nil => exact ⟨(fun _ _ => nofun), fun _ => rfl⟩
  | cons arg rest ih =>
    rw [validatePytestArgs, bind_ok_iff, List.forall_mem_cons, ← ih, ← validatePytestArg_ok_iff index]
    constructor
    · rintro ⟨_, first, later⟩
      exact ⟨first, later⟩
    · rintro ⟨first, later⟩
      exact ⟨(), first, later⟩

theorem validatePytestArgs_breaks_iff (index : Nat) (args : List String) :
    Breaks (validatePytestArgs index args) ↔ ReachesUnread args := by
  induction args with
  | nil =>
    constructor
    · intro breaks
      exact absurd breaks (breaks_ok ())
    · rintro ⟨front, arg, back, parts, _⟩
      exact absurd parts.symm (List.append_ne_nil_of_right_ne_nil front (List.cons_ne_nil arg back))
  | cons arg rest ih =>
    rw [validatePytestArgs, breaks_bind, validatePytestArg_breaks_iff]
    constructor
    · rintro (unread | ⟨_, allowed, later⟩)
      · exact ⟨[], arg, rest, rfl, (fun _ => nofun), unread⟩
      · obtain ⟨front, other, back, parts, before, unread⟩ := ih.mp later
        have first := (validatePytestArg_ok_iff index arg).mp allowed
        exact ⟨arg :: front, other, back, by rw [parts, List.cons_append],
          List.forall_mem_cons.mpr ⟨first, before⟩, unread⟩
    · rintro ⟨front, other, back, parts, before, unread⟩
      cases front with
      | nil =>
        cases parts
        exact .inl unread
      | cons first more =>
        cases parts
        rw [List.forall_mem_cons] at before
        exact .inr ⟨(), (validatePytestArg_ok_iff index _).mpr before.1,
          ih.mpr ⟨more, other, back, rfl, before.2, unread⟩⟩

/-! ### Commands -/

/-- The head of a command that may be frozen. -/
structure PytestCommand (argv : List String) : Prop where
  executable : argv.headD "" ∈ allowedCommandExecutables
  plain : ∀ arg ∈ argv, ∀ char ∈ arg.toList, char ∉ shellMetachars
  module : (argv.drop 1).take 2 = ["-m", "pytest"]

structure AllowedCommand (argv : List String) : Prop where
  command : PytestCommand argv
  arguments : ∀ arg ∈ argv.drop 3, AllowedArgument arg

theorem validateAllowedCommandArgv_cases (index : Nat) (argv : List String) :
    (PytestCommand argv ∧ validateAllowedCommandArgv index argv = validatePytestArgs index (argv.drop 3)) ∨
      (¬ PytestCommand argv ∧ Refuses (validateAllowedCommandArgv index argv)) := by
  unfold validateAllowedCommandArgv
  split
  · rename_i unknown
    exact .inr ⟨fun command => unknown command.executable, _, _, rfl⟩
  · rename_i known
    split
    · rename_i shell
      refine .inr ⟨fun command => ?_, _, _, rfl⟩
      obtain ⟨arg, member, inside⟩ := List.any_eq_true.mp shell
      obtain ⟨char, present, special⟩ := List.any_eq_true.mp inside
      exact command.plain arg member char present (of_decide_eq_true special)
    · rename_i plain
      split
      · rename_i other
        exact .inr ⟨fun command => other command.module, _, _, rfl⟩
      · rename_i pytest
        refine .inl ⟨⟨not_not.mp known, ?_, not_not.mp pytest⟩, rfl⟩
        intro arg member char present special
        apply plain
        rw [List.any_eq_true]
        exact ⟨arg, member, List.any_eq_true.mpr ⟨char, present, decide_eq_true special⟩⟩

theorem validateAllowedCommandArgv_ok_iff (index : Nat) (argv : List String) :
    validateAllowedCommandArgv index argv = .ok () ↔ AllowedCommand argv := by
  rcases validateAllowedCommandArgv_cases index argv with ⟨command, same⟩ | ⟨other, code, message, refused⟩
  · rw [same, validatePytestArgs_ok_iff]
    exact ⟨fun arguments => ⟨command, arguments⟩, fun allowed => allowed.arguments⟩
  · rw [refused]
    exact ⟨nofun, fun allowed => absurd allowed.command other⟩

theorem validateAllowedCommandArgv_breaks_iff (index : Nat) (argv : List String) :
    Breaks (validateAllowedCommandArgv index argv) ↔ PytestCommand argv ∧ ReachesUnread (argv.drop 3) := by
  rcases validateAllowedCommandArgv_cases index argv with ⟨command, same⟩ | ⟨other, code, message, refused⟩
  · rw [same, validatePytestArgs_breaks_iff]
    exact ⟨fun reaches => ⟨command, reaches⟩, fun both => both.2⟩
  · rw [refused]
    exact ⟨fun breaks => absurd breaks (breaks_acceptance code message), fun both => absurd both.1 other⟩

/-- A command with its time limit, and nothing of the other checks. -/
structure CommandGiven (members : Dict) (argv : List String) (timeout : Int) : Prop where
  alone : members.has "path" = false ∧ members.has "expected_text" = false
  line : commandArgv (members.get "argv") = some argv
  limit : commandTimeout (members.getOr "timeout_seconds" (.int defaultCommandTimeoutSeconds)) = some timeout
  bounded : 0 < timeout ∧ timeout ≤ maxCommandTimeoutSeconds

theorem normalizeCommandSucceedsCheck_given {members : Dict} {argv : List String} {timeout : Int}
    (index : Nat) (given : CommandGiven members argv timeout) :
    normalizeCommandSucceedsCheck index members =
      (validateAllowedCommandArgv index argv >>= fun _ => pure (.commandSucceeds argv timeout)) := by
  unfold normalizeCommandSucceedsCheck
  rw [given.alone.1, given.alone.2, if_neg (by decide), given.line]
  dsimp only
  rw [given.limit, Option.filter_some, if_pos (by simpa using given.bounded)]

theorem normalizeCommandSucceedsCheck_refuses {members : Dict} (index : Nat)
    (other : ∀ argv timeout, ¬ CommandGiven members argv timeout) :
    Refuses (normalizeCommandSucceedsCheck index members) := by
  unfold normalizeCommandSucceedsCheck
  split
  · exact ⟨_, _, rfl⟩
  · rename_i alone
    rw [Bool.or_eq_true, not_or, Bool.not_eq_true, Bool.not_eq_true] at alone
    split
    · exact ⟨_, _, rfl⟩
    · rename_i argv line
      split
      · exact ⟨_, _, rfl⟩
      · rename_i timeout read
        obtain ⟨limit, bounded⟩ := Option.filter_eq_some_iff.mp read
        exact absurd ⟨alone, line, limit, by simpa using bounded⟩ (other argv timeout)

theorem normalizeCommandSucceedsCheck_ok_iff (index : Nat) (members : Dict) (check : Check) :
    normalizeCommandSucceedsCheck index members = .ok check ↔
      ∃ argv timeout, CommandGiven members argv timeout ∧ AllowedCommand argv ∧
        check = .commandSucceeds argv timeout := by
  constructor
  · intro done
    by_cases none : ∀ argv timeout, ¬ CommandGiven members argv timeout
    · obtain ⟨code, message, refused⟩ := normalizeCommandSucceedsCheck_refuses index none
      rw [refused] at done
      cases done
    · push Not at none
      obtain ⟨argv, timeout, given⟩ := none
      rw [normalizeCommandSucceedsCheck_given index given, bind_ok_iff] at done
      obtain ⟨_, allowed, built⟩ := done
      cases built
      exact ⟨argv, timeout, given, (validateAllowedCommandArgv_ok_iff index argv).mp allowed, rfl⟩
  · rintro ⟨argv, timeout, given, allowed, rfl⟩
    rw [normalizeCommandSucceedsCheck_given index given,
      (validateAllowedCommandArgv_ok_iff index argv).mpr allowed]
    rfl

theorem normalizeCommandSucceedsCheck_breaks_iff (index : Nat) (members : Dict) :
    Breaks (normalizeCommandSucceedsCheck index members) ↔
      ∃ argv timeout, CommandGiven members argv timeout ∧ PytestCommand argv ∧
        ReachesUnread (argv.drop 3) := by
  constructor
  · intro breaks
    by_cases none : ∀ argv timeout, ¬ CommandGiven members argv timeout
    · obtain ⟨code, message, refused⟩ := normalizeCommandSucceedsCheck_refuses index none
      rw [refused] at breaks
      exact absurd breaks (breaks_acceptance code message)
    · push Not at none
      obtain ⟨argv, timeout, given⟩ := none
      rw [normalizeCommandSucceedsCheck_given index given, breaks_bind] at breaks
      rcases breaks with broken | ⟨_, _, built⟩
      · exact ⟨argv, timeout, given, (validateAllowedCommandArgv_breaks_iff index argv).mp broken⟩
      · exact absurd built (breaks_ok _)
  · rintro ⟨argv, timeout, given, reaches⟩
    rw [normalizeCommandSucceedsCheck_given index given, breaks_bind]
    exact .inl ((validateAllowedCommandArgv_breaks_iff index argv).mpr reaches)

theorem commandTexts_again {raws : List Json} {argv : List String} (read : commandTexts raws = some argv) :
    commandTexts (argv.map .str) = some argv := by
  induction raws generalizing argv with
  | nil =>
    cases read
    rfl
  | cons raw rest ih =>
    cases raw with
    | str text =>
      rw [commandTexts] at read
      split at read
      · cases read
      · rename_i filled
        obtain ⟨more, others, rfl⟩ := Option.map_eq_some_iff.mp read
        rw [List.map_cons, commandTexts, if_neg filled, ih others]
        rfl
    | null | bool _ | int _ | float _ | arr _ | obj _ => cases read

theorem commandArgv_again {raw : Json} {argv : List String} (read : commandArgv raw = some argv) :
    commandArgv (Json.ofTexts argv) = some argv := by
  unfold commandArgv at read
  split at read
  · rename_i first rest
    have again := commandTexts_again read
    cases argv with
    | nil =>
      cases first with
      | str text =>
        rw [commandTexts] at read
        split at read
        · cases read
        · obtain ⟨_, _, built⟩ := Option.map_eq_some_iff.mp read
          cases built
      | null | bool _ | int _ | float _ | arr _ | obj _ => cases read
    | cons text more => exact again
  · cases read

/-! ### One check -/

/-- A check as it is read. -/
inductive ReadAs (authorized : List String) : Json → Check → Prop
  | command {members : Dict} {argv : List String} {timeout : Int}
      (type : members.get "type" = .str "command_succeeds") (given : CommandGiven members argv timeout)
      (allowed : AllowedCommand argv) : ReadAs authorized (.obj members) (.commandSucceeds argv timeout)
  | file {members : Dict} {raw path : String} (type : members.get "type" = .str "file_exists")
      (given : members.get "path" = .str raw) (valid : validateRelativeRepoPath (.str raw) = .ok path)
      (inside : path ∈ authorized) (bare : members.has "expected_text" = false) :
      ReadAs authorized (.obj members) (.fileExists path)
  | text {members : Dict} {raw path expected : String} {kind : TextCheck}
      (type : members.get "type" = .str kind.name) (given : members.get "path" = .str raw)
      (valid : validateRelativeRepoPath (.str raw) = .ok path) (inside : path ∈ authorized)
      (text : members.get "expected_text" = .str expected) :
      ReadAs authorized (.obj members) (.text kind path expected)

/-- A type that no set can be asked for, or a command whose limit is not read. -/
inductive BreaksAt : Json → Prop
  | unhashable {members : Dict} (type : isHashable (members.get "type") = false) : BreaksAt (.obj members)
  | unread {members : Dict} {argv : List String} {timeout : Int}
      (type : members.get "type" = .str "command_succeeds") (given : CommandGiven members argv timeout)
      (command : PytestCommand argv) (reaches : ReachesUnread (argv.drop 3)) : BreaksAt (.obj members)

theorem normalize_by_type (index : Nat) (authorized : List String) (members : Dict) :
    (isHashable (members.get "type") = false ∧
      normalizeDeterministicAcceptanceCheck index authorized (.obj members) = .error .typeError) ∨
    (members.get "type" = .str "command_succeeds" ∧
      normalizeDeterministicAcceptanceCheck index authorized (.obj members) =
        normalizeCommandSucceedsCheck index members) ∨
    (members.get "type" = .str "file_exists" ∧
      normalizeDeterministicAcceptanceCheck index authorized (.obj members) =
        normalizePathCheck index authorized members none) ∨
    (∃ kind : TextCheck, members.get "type" = .str kind.name ∧
      normalizeDeterministicAcceptanceCheck index authorized (.obj members) =
        normalizePathCheck index authorized members (some kind)) ∨
    ((∀ name ∈ ["command_succeeds", "file_exists"] ++ textChecks.map TextCheck.name,
        members.get "type" ≠ .str name) ∧ isHashable (members.get "type") = true ∧
      Refuses (normalizeDeterministicAcceptanceCheck index authorized (.obj members))) := by
  unfold normalizeDeterministicAcceptanceCheck
  dsimp only
  split
  · rename_i unhashable
    exact .inl ⟨by simpa using unhashable, rfl⟩
  · rename_i hashable
    refine .inr ?_
    split
    · rename_i command
      exact .inl ⟨Json.isStr_iff.mp command, rfl⟩
    · rename_i noCommand
      refine .inr ?_
      split
      · rename_i file
        exact .inl ⟨Json.isStr_iff.mp file, rfl⟩
      · rename_i noFile
        refine .inr ?_
        cases found : textChecks.find? (fun kind => (members.get "type").isStr kind.name) with
        | some kind =>
          have named : (members.get "type").isStr kind.name = true := by
            simpa using List.find?_some found
          exact .inl ⟨kind, Json.isStr_iff.mp named, rfl⟩
        | none =>
          refine .inr ⟨?_, by simpa using hashable, _, _, rfl⟩
          have noText := List.find?_eq_none.mp found
          intro name member same
          rw [List.mem_append, List.mem_cons, List.mem_singleton, List.mem_map] at member
          rcases member with (rfl | rfl) | ⟨kind, listed, rfl⟩
          · exact noCommand (Json.isStr_iff.mpr same)
          · exact noFile (Json.isStr_iff.mpr same)
          · exact noText kind listed (Json.isStr_iff.mpr same)

theorem normalizePathCheck_not_breaks (index : Nat) (authorized : List String) (members : Dict)
    (type : Option TextCheck) : ¬ Breaks (normalizePathCheck index authorized members type) := by
  unfold normalizePathCheck
  by_cases failed : ∀ path, validateRelativeRepoPath (members.get "path") ≠ .ok path
  · obtain ⟨code, message, known⟩ := validate_error failed
    rw [known]
    exact breaks_acceptance _ _
  · push Not at failed
    obtain ⟨path, read⟩ := failed
    rw [read]
    dsimp only
    split
    · exact breaks_acceptance _ _
    · cases type with
      | none =>
        dsimp only
        split
        · exact breaks_acceptance _ _
        · exact breaks_ok _
      | some kind =>
        dsimp only
        split
        · exact breaks_ok _
        · exact breaks_acceptance _ _

theorem validate_text {raw : Json} {path : String} (read : validateRelativeRepoPath raw = .ok path) :
    ∃ text, raw = .str text := by
  cases raw with
  | str text => exact ⟨text, rfl⟩
  | null | bool _ | int _ | float _ | arr _ | obj _ => cases read

theorem normalizePathCheck_file_iff (index : Nat) (authorized : List String) (members : Dict)
    (check : Check) :
    normalizePathCheck index authorized members none = .ok check ↔
      ∃ raw path, members.get "path" = .str raw ∧ validateRelativeRepoPath (.str raw) = .ok path ∧
        path ∈ authorized ∧ members.has "expected_text" = false ∧ check = .fileExists path := by
  unfold normalizePathCheck
  constructor
  · intro done
    cases read : validateRelativeRepoPath (members.get "path") with
    | error error =>
      rw [read] at done
      cases error <;> cases done
    | ok path =>
      rw [read] at done
      dsimp only at done
      split at done
      · cases done
      · rename_i inside
        split at done
        · cases done
        · rename_i bare
          cases done
          obtain ⟨raw, given⟩ := validate_text read
          rw [given] at read
          exact ⟨raw, path, given, read, not_not.mp inside, eq_false_of_ne_true bare, rfl⟩
  · rintro ⟨raw, path, given, valid, inside, bare, rfl⟩
    rw [given, valid]
    dsimp only
    rw [if_neg (not_not.mpr inside), bare, if_neg Bool.false_ne_true]

theorem normalizePathCheck_text_iff (index : Nat) (authorized : List String) (members : Dict)
    (kind : TextCheck) (check : Check) :
    normalizePathCheck index authorized members (some kind) = .ok check ↔
      ∃ raw path expected, members.get "path" = .str raw ∧ validateRelativeRepoPath (.str raw) = .ok path ∧
        path ∈ authorized ∧ members.get "expected_text" = .str expected ∧ check = .text kind path expected := by
  unfold normalizePathCheck
  constructor
  · intro done
    cases read : validateRelativeRepoPath (members.get "path") with
    | error error =>
      rw [read] at done
      cases error <;> cases done
    | ok path =>
      rw [read] at done
      dsimp only at done
      split at done
      · cases done
      · rename_i inside
        split at done
        · rename_i expected text
          cases done
          obtain ⟨raw, given⟩ := validate_text read
          rw [given] at read
          exact ⟨raw, path, expected, given, read, not_not.mp inside, text, rfl⟩
        · cases done
  · rintro ⟨raw, path, expected, given, valid, inside, text, rfl⟩
    rw [given, valid]
    dsimp only
    rw [if_neg (not_not.mpr inside), text]

theorem not_str {value : Json} (unhashable : isHashable value = false) (text : String) : value ≠ .str text := by
  rintro rfl
  cases unhashable

theorem TextCheck.name_inj {kind other : TextCheck} (same : kind.name = other.name) : kind = other := by
  cases kind <;> cases other <;> first | rfl | exact absurd same (by decide)

theorem TextCheck.name_ne (kind : TextCheck) :
    kind.name ≠ "command_succeeds" ∧ kind.name ≠ "file_exists" := by
  cases kind <;> decide

theorem TextCheck.listed (kind : TextCheck) : kind ∈ textChecks := by
  cases kind <;> decide

theorem readAs_of_type {authorized : List String} {members : Dict} {check : Check}
    (read : ReadAs authorized (.obj members) check) :
    ∃ name ∈ ["command_succeeds", "file_exists"] ++ textChecks.map TextCheck.name,
      members.get "type" = .str name := by
  cases read with
  | command type _ _ => exact ⟨_, by decide, type⟩
  | file type _ _ _ _ => exact ⟨_, by decide, type⟩
  | @text _ _ _ _ kind type _ _ _ _ =>
    exact ⟨_, List.mem_append_right _ (List.mem_map_of_mem kind.listed), type⟩

theorem normalize_check_ok_iff (index : Nat) (authorized : List String) (raw : Json) (check : Check) :
    normalizeDeterministicAcceptanceCheck index authorized raw = .ok check ↔ ReadAs authorized raw check := by
  cases raw with
  | obj members =>
    rcases normalize_by_type index authorized members with ⟨unhashable, failed⟩ | ⟨type, same⟩ |
      ⟨type, same⟩ | ⟨kind, type, same⟩ | ⟨other, _, code, message, failed⟩
    · rw [failed]
      refine ⟨nofun, fun read => ?_⟩
      obtain ⟨name, _, type⟩ := readAs_of_type read
      exact absurd type (not_str unhashable name)
    · rw [same, normalizeCommandSucceedsCheck_ok_iff]
      constructor
      · rintro ⟨argv, timeout, given, allowed, rfl⟩
        exact .command type given allowed
      · intro read
        cases read with
        | command _ given allowed => exact ⟨_, _, given, allowed, rfl⟩
        | file otherType _ _ _ _ =>
          rw [type] at otherType
          exact absurd (Json.str.inj otherType) (by decide)
        | @text _ _ _ _ kind otherType _ _ _ _ =>
          rw [type] at otherType
          exact absurd (Json.str.inj otherType).symm kind.name_ne.1
    · rw [same, normalizePathCheck_file_iff]
      constructor
      · rintro ⟨raw, path, given, valid, inside, bare, rfl⟩
        exact .file type given valid inside bare
      · intro read
        cases read with
        | command otherType _ _ =>
          rw [type] at otherType
          exact absurd (Json.str.inj otherType) (by decide)
        | file _ given valid inside bare => exact ⟨_, _, given, valid, inside, bare, rfl⟩
        | @text _ _ _ _ kind otherType _ _ _ _ =>
          rw [type] at otherType
          exact absurd (Json.str.inj otherType).symm kind.name_ne.2
    · rw [same, normalizePathCheck_text_iff]
      constructor
      · rintro ⟨raw, path, expected, given, valid, inside, text, rfl⟩
        exact .text type given valid inside text
      · intro read
        cases read with
        | command otherType _ _ =>
          rw [type] at otherType
          exact absurd (Json.str.inj otherType) kind.name_ne.1
        | file otherType _ _ _ _ =>
          rw [type] at otherType
          exact absurd (Json.str.inj otherType) kind.name_ne.2
        | @text _ _ _ _ found otherType given valid inside text =>
          rw [type] at otherType
          have kinds := TextCheck.name_inj (Json.str.inj otherType)
          exact ⟨_, _, _, given, valid, inside, text, by rw [kinds]⟩
    · rw [failed]
      refine ⟨nofun, fun read => ?_⟩
      obtain ⟨name, listed, type⟩ := readAs_of_type read
      exact absurd type (other name listed)
  | null | bool _ | int _ | float _ | arr _ | str _ =>
    refine ⟨nofun, fun read => ?_⟩
    cases read

theorem normalize_check_breaks_iff (index : Nat) (authorized : List String) (raw : Json) :
    Breaks (normalizeDeterministicAcceptanceCheck index authorized raw) ↔ BreaksAt raw := by
  cases raw with
  | obj members =>
    rcases normalize_by_type index authorized members with ⟨unhashable, failed⟩ | ⟨type, same⟩ |
      ⟨type, same⟩ | ⟨kind, type, same⟩ | ⟨other, hashable, code, message, failed⟩
    · rw [failed]
      exact ⟨fun _ => .unhashable unhashable, fun _ => ⟨_, rfl, fun _ _ => nofun⟩⟩
    · rw [same, normalizeCommandSucceedsCheck_breaks_iff]
      constructor
      · rintro ⟨argv, timeout, given, command, reaches⟩
        exact .unread type given command reaches
      · intro breaks
        cases breaks with
        | unhashable unhashable => exact absurd type (not_str unhashable _)
        | unread _ given command reaches => exact ⟨_, _, given, command, reaches⟩
    · rw [same]
      refine ⟨fun breaks => absurd breaks (normalizePathCheck_not_breaks index authorized members none), ?_⟩
      intro breaks
      cases breaks with
      | unhashable unhashable => exact absurd type (not_str unhashable _)
      | unread otherType _ _ _ =>
        rw [type] at otherType
        exact absurd (Json.str.inj otherType) (by decide)
    · rw [same]
      refine ⟨fun breaks =>
        absurd breaks (normalizePathCheck_not_breaks index authorized members (some kind)), ?_⟩
      intro breaks
      cases breaks with
      | unhashable unhashable => exact absurd type (not_str unhashable _)
      | unread otherType _ _ _ =>
        rw [type] at otherType
        exact absurd (Json.str.inj otherType) kind.name_ne.1
    · rw [failed]
      refine ⟨fun breaks => absurd breaks (breaks_acceptance code message), ?_⟩
      intro breaks
      cases breaks with
      | unhashable unhashable =>
        rw [unhashable] at hashable
        cases hashable
      | unread type _ _ _ => exact absurd type (other _ (by decide))
  | null | bool _ | int _ | float _ | arr _ | str _ =>
    constructor
    · intro breaks
      exact absurd breaks (breaks_acceptance _ _)
    · intro breaks
      cases breaks

/-! ### The list -/

theorem normalizeFrom_cons_ok_iff {authorized : List String} {seen normalized : List Check} {index : Nat}
    {raw : Json} {rest : List Json} :
    normalizeFrom authorized seen index (raw :: rest) = .ok normalized ↔
      ∃ check more, ReadAs authorized raw check ∧ check ∉ seen ∧
        normalizeFrom authorized (check :: seen) (index + 1) rest = .ok more ∧ normalized = check :: more := by
  rw [normalizeFrom, bind_ok_iff]
  constructor
  · rintro ⟨check, read, done⟩
    split at done
    · cases done
    · rename_i fresh
      obtain ⟨more, later, built⟩ := except_bind_ok done
      cases built
      exact ⟨check, more, (normalize_check_ok_iff index authorized raw check).mp read, fresh, later, rfl⟩
  · rintro ⟨check, more, read, fresh, later, rfl⟩
    refine ⟨check, (normalize_check_ok_iff index authorized raw check).mpr read, ?_⟩
    rw [if_neg fresh, later]
    rfl

theorem normalizeFrom_ok_iff {authorized : List String} {seen normalized : List Check} {index : Nat}
    {raws : List Json} :
    normalizeFrom authorized seen index raws = .ok normalized ↔
      List.Forall₂ (ReadAs authorized) raws normalized ∧ normalized.Nodup ∧
        ∀ check ∈ normalized, check ∉ seen := by
  induction raws generalizing seen index normalized with
  | nil =>
    constructor
    · intro done
      cases done
      exact ⟨.nil, List.nodup_nil, (fun _ => nofun)⟩
    · rintro ⟨paired, _, _⟩
      cases paired
      rfl
  | cons raw rest ih =>
    rw [normalizeFrom_cons_ok_iff]
    constructor
    · rintro ⟨check, more, read, fresh, later, rfl⟩
      obtain ⟨paired, distinct, new⟩ := ih.mp later
      refine ⟨.cons read paired, List.nodup_cons.mpr ⟨?_, distinct⟩, ?_⟩
      · intro again
        exact new check again List.mem_cons_self
      · rw [List.forall_mem_cons]
        exact ⟨fresh, fun other member known => new other member (List.mem_cons_of_mem _ known)⟩
    · rintro ⟨paired, distinct, new⟩
      cases paired with
      | @cons _ check _ more read others =>
        rw [List.nodup_cons] at distinct
        rw [List.forall_mem_cons] at new
        refine ⟨check, more, read, new.1, ih.mpr ⟨others, distinct.2, ?_⟩, rfl⟩
        intro other member known
        rcases List.mem_cons.mp known with rfl | before
        · exact distinct.1 member
        · exact new.2 other member before

/-- A check that is reached breaks, or is a command that is already there. -/
def BreaksAmong (authorized : List String) (seen : List Check) (raws : List Json) : Prop :=
  ∃ front raw back accepted, raws = front ++ raw :: back ∧
    List.Forall₂ (ReadAs authorized) front accepted ∧ accepted.Nodup ∧ (∀ check ∈ accepted, check ∉ seen) ∧
      (BreaksAt raw ∨ ∃ argv timeout, ReadAs authorized raw (.commandSucceeds argv timeout) ∧
        Check.commandSucceeds argv timeout ∈ accepted ++ seen)

theorem duplicate_breaks_iff {index : Nat} {check : Check} :
    Breaks (.error (duplicateCheck index check) : Except WorkspaceExc (List Check)) ↔
      ∃ argv timeout, check = .commandSucceeds argv timeout := by
  cases check with
  | commandSucceeds argv timeout =>
    refine ⟨fun _ => ⟨argv, timeout, rfl⟩, fun _ => ⟨_, rfl, fun _ _ => nofun⟩⟩
  | fileExists path =>
    refine ⟨fun breaks => absurd breaks (breaks_acceptance _ _), ?_⟩
    rintro ⟨_, _, same⟩
    cases same
  | text kind path expected =>
    refine ⟨fun breaks => absurd breaks (breaks_acceptance _ _), ?_⟩
    rintro ⟨_, _, same⟩
    cases same

theorem normalizeFrom_cons_breaks_iff {authorized : List String} {seen : List Check} {index : Nat}
    {raw : Json} {rest : List Json} :
    Breaks (normalizeFrom authorized seen index (raw :: rest)) ↔
      BreaksAt raw ∨ ∃ check, ReadAs authorized raw check ∧
        ((check ∈ seen ∧ ∃ argv timeout, check = .commandSucceeds argv timeout) ∨
          (check ∉ seen ∧ Breaks (normalizeFrom authorized (check :: seen) (index + 1) rest))) := by
  rw [normalizeFrom, breaks_bind, normalize_check_breaks_iff]
  constructor
  · rintro (breaks | ⟨check, read, later⟩)
    · exact .inl breaks
    · refine .inr ⟨check, (normalize_check_ok_iff index authorized raw check).mp read, ?_⟩
      split at later
      · rename_i known
        exact .inl ⟨known, duplicate_breaks_iff.mp later⟩
      · rename_i fresh
        rcases breaks_bind.mp later with broken | ⟨_, _, built⟩
        · exact .inr ⟨fresh, broken⟩
        · exact absurd built (breaks_ok _)
  · rintro (breaks | ⟨check, read, ⟨known, command⟩ | ⟨fresh, broken⟩⟩)
    · exact .inl breaks
    · refine .inr ⟨check, (normalize_check_ok_iff index authorized raw check).mpr read, ?_⟩
      rw [if_pos known]
      exact duplicate_breaks_iff.mpr command
    · refine .inr ⟨check, (normalize_check_ok_iff index authorized raw check).mpr read, ?_⟩
      rw [if_neg fresh]
      exact breaks_bind.mpr (.inl broken)

theorem normalizeFrom_breaks_iff {authorized : List String} {seen : List Check} {index : Nat}
    {raws : List Json} :
    Breaks (normalizeFrom authorized seen index raws) ↔ BreaksAmong authorized seen raws := by
  induction raws generalizing seen index with
  | nil =>
    constructor
    · intro breaks
      exact absurd breaks (breaks_ok _)
    · rintro ⟨front, raw, back, _, parts, _⟩
      exact absurd parts.symm (List.append_ne_nil_of_right_ne_nil front (List.cons_ne_nil raw back))
  | cons raw rest ih =>
    rw [normalizeFrom_cons_breaks_iff]
    constructor
    · rintro (breaks | ⟨check, read, ⟨known, argv, timeout, rfl⟩ | ⟨fresh, broken⟩⟩)
      · exact ⟨[], raw, rest, [], rfl, .nil, List.nodup_nil, (fun _ => nofun), .inl breaks⟩
      · exact ⟨[], raw, rest, [], rfl, .nil, List.nodup_nil, (fun _ => nofun),
          .inr ⟨argv, timeout, read, known⟩⟩
      · obtain ⟨front, other, back, accepted, rfl, paired, distinct, new, why⟩ := ih.mp broken
        refine ⟨raw :: front, other, back, check :: accepted, rfl, .cons read paired, ?_, ?_, ?_⟩
        · refine List.nodup_cons.mpr ⟨?_, distinct⟩
          intro again
          exact new check again List.mem_cons_self
        · rw [List.forall_mem_cons]
          exact ⟨fresh, fun one member known => new one member (List.mem_cons_of_mem _ known)⟩
        · rcases why with breaks | ⟨argv, timeout, again, among⟩
          · exact .inl breaks
          · refine .inr ⟨argv, timeout, again, ?_⟩
            simp only [List.mem_append, List.mem_cons] at among ⊢
            tauto
    · rintro ⟨front, other, back, accepted, parts, paired, distinct, new, why⟩
      cases paired with
      | nil =>
        cases parts
        rcases why with breaks | ⟨argv, timeout, read, known⟩
        · exact .inl breaks
        · exact .inr ⟨_, read, .inl ⟨known, argv, timeout, rfl⟩⟩
      | @cons _ check _ more read others =>
        cases parts
        rw [List.nodup_cons] at distinct
        rw [List.forall_mem_cons] at new
        refine .inr ⟨check, read, .inr ⟨new.1, ih.mpr ?_⟩⟩
        refine ⟨_, other, back, more, rfl, others, distinct.2, ?_, ?_⟩
        · intro one member known
          rcases List.mem_cons.mp known with rfl | before
          · exact distinct.1 member
          · exact new.2 one member before
        · rcases why with breaks | ⟨argv, timeout, again, among⟩
          · exact .inl breaks
          · refine .inr ⟨argv, timeout, again, ?_⟩
            simp only [List.mem_append, List.mem_cons] at among ⊢
            tauto

/-! ### What the checks come to -/

/-- The checks, as they were returned, given again. -/
def givenBack (checks : List Check) : Json := .arr (checks.map (fun check => .obj (Router.Check.toDict check)))

structure SoundChecks (authorized : List String) (normalized : List Check) : Prop where
  distinct : normalized.Nodup
  settled : normalizeDeterministicAcceptanceChecks authorized (givenBack normalized) = .ok normalized
  authorized : ∀ check ∈ normalized, ∀ path, check.path? = some path → path ∈ authorized
  allowed : ∀ argv timeout, .commandSucceeds argv timeout ∈ normalized → AllowedCommand argv

def NormalizesSafely (authorized : List String) (checks : Json) : Prop :=
  Refuses (normalizeDeterministicAcceptanceChecks authorized checks) ∨
    ∃ normalized, normalizeDeterministicAcceptanceChecks authorized checks = .ok normalized ∧
      SoundChecks authorized normalized

/-- Nothing that is reached breaks, and where all is accepted no path has loose ends. -/
structure Tight (authorized : List String) (raws : List Json) : Prop where
  holds : ¬ BreaksAmong authorized [] raws
  paths : ∀ accepted, List.Forall₂ (ReadAs authorized) raws accepted → accepted.Nodup →
    ∀ (members : Dict) text, .obj members ∈ raws → members.get "path" = .str text → ¬ LooseEnds text

section

variable {authorized : List String} {raw : Json} {check : Check} (read : ReadAs authorized raw check)
include read

theorem ReadAs.authorized_path {path : String} (named : check.path? = some path) : path ∈ authorized := by
  cases read with
  | command _ _ _ => cases named
  | file _ _ _ inside _ =>
    cases named
    exact inside
  | text _ _ _ inside _ =>
    cases named
    exact inside

theorem ReadAs.again_iff :
    ReadAs authorized (.obj (Router.Check.toDict check)) check ↔
      ∀ (members : Dict) text, raw = .obj members → members.get "path" = .str text → ¬ LooseEnds text := by
  cases read with
  | @command members argv timeout type given allowed =>
    constructor
    · intro _ other text same path
      cases same
      rw [Dict.get_of_not_has given.alone.1] at path
      cases path
    · intro _
      exact .command rfl ⟨⟨rfl, rfl⟩, commandArgv_again given.line, rfl, given.bounded⟩ allowed
  | @file members raw path type given valid inside bare =>
    constructor
    · intro again other text same named
      cases same
      rw [given] at named
      cases named
      rw [← validate_again_iff valid]
      cases again with
      | file _ againGiven againValid _ _ =>
        cases againGiven
        exact againValid
    · intro tight
      have stable := (validate_again_iff valid).mpr (tight members raw rfl given)
      exact .file rfl rfl stable inside rfl
  | @text members raw path expected kind type given valid inside text =>
    constructor
    · intro again other text same named
      cases same
      rw [given] at named
      cases named
      rw [← validate_again_iff valid]
      cases again with
      | text _ againGiven againValid _ _ =>
        cases againGiven
        exact againValid
    · intro tight
      have stable := (validate_again_iff valid).mpr (tight members raw rfl given)
      exact .text rfl rfl stable inside rfl

end

section

variable {authorized : List String} {raws : List Json} {normalized : List Check}
variable (paired : List.Forall₂ (ReadAs authorized) raws normalized) (distinct : normalized.Nodup)
include paired distinct

theorem givenBack_iff :
    normalizeDeterministicAcceptanceChecks authorized (givenBack normalized) = .ok normalized ↔
      ∀ (members : Dict) text, .obj members ∈ raws → members.get "path" = .str text → ¬ LooseEnds text := by
  have each : normalizeDeterministicAcceptanceChecks authorized (givenBack normalized) = .ok normalized ↔
      ∀ check ∈ normalized, ReadAs authorized (.obj (Router.Check.toDict check)) check := by
    change normalizeFrom authorized [] 1 (normalized.map (fun check => .obj (Router.Check.toDict check))) =
      .ok normalized ↔ _
    rw [normalizeFrom_ok_iff, List.forall₂_map_left_iff, List.forall₂_same]
    exact ⟨fun all => all.1, fun all => ⟨all, distinct, fun _ _ => List.not_mem_nil⟩⟩
  rw [each]
  constructor
  · intro again members text member path
    obtain ⟨check, inside, read⟩ := forall₂_left paired member
    exact read.again_iff.mp (again check inside) members text rfl path
  · intro tight check member
    obtain ⟨raw, inside, read⟩ := forall₂_right paired member
    apply read.again_iff.mpr
    rintro members text rfl path
    exact tight members text inside path

theorem soundChecks_iff :
    SoundChecks authorized normalized ↔
      ∀ (members : Dict) text, .obj members ∈ raws → members.get "path" = .str text → ¬ LooseEnds text := by
  rw [← givenBack_iff paired distinct]
  constructor
  · exact SoundChecks.settled
  · intro settled
    refine ⟨distinct, settled, ?_, ?_⟩
    · intro check member path named
      obtain ⟨raw, _, read⟩ := forall₂_right paired member
      exact read.authorized_path named
    · intro argv timeout member
      obtain ⟨raw, _, read⟩ := forall₂_right paired member
      cases read with
      | command _ _ allowed => exact allowed

end

/-- The checks normalise safely exactly when the list of them is tight. -/
theorem normalizes_safely_iff (authorized : List String) (checks : Json) :
    NormalizesSafely authorized checks ↔ ∀ raws, checks = .arr raws → Tight authorized raws := by
  cases checks with
  | arr raws =>
    have only : (∀ others, Json.arr raws = .arr others → Tight authorized others) ↔ Tight authorized raws :=
      ⟨fun all => all raws rfl, fun tight others same => by cases same; exact tight⟩
    have broken : Breaks (normalizeDeterministicAcceptanceChecks authorized (.arr raws)) ↔
        BreaksAmong authorized [] raws := normalizeFrom_breaks_iff
    have accepts : ∀ {accepted}, List.Forall₂ (ReadAs authorized) raws accepted → accepted.Nodup →
        normalizeDeterministicAcceptanceChecks authorized (.arr raws) = .ok accepted := by
      intro accepted paired distinct
      exact normalizeFrom_ok_iff.mpr ⟨paired, distinct, fun _ _ => List.not_mem_nil⟩
    rw [only]
    constructor
    · rintro (⟨code, message, refused⟩ | ⟨normalized, done, sound⟩)
      · refine ⟨?_, ?_⟩
        · rw [← broken, refused]
          exact breaks_acceptance code message
        · intro accepted paired distinct
          have done := accepts paired distinct
          rw [refused] at done
          cases done
      · refine ⟨?_, ?_⟩
        · rw [← broken, done]
          exact breaks_ok normalized
        · intro accepted paired distinct
          have same := accepts paired distinct
          rw [done] at same
          cases same
          exact (soundChecks_iff paired distinct).mp sound
    · intro tight
      by_cases failed : ∀ normalized,
          normalizeDeterministicAcceptanceChecks authorized (.arr raws) ≠ .ok normalized
      · rcases refuses_or_breaks failed with refused | breaks
        · exact .inl refused
        · exact absurd (broken.mp breaks) tight.holds
      · push Not at failed
        obtain ⟨normalized, done⟩ := failed
        obtain ⟨paired, distinct, _⟩ := normalizeFrom_ok_iff.mp done
        exact .inr ⟨normalized, done,
          (soundChecks_iff paired distinct).mpr (tight.paths normalized paired distinct)⟩
  | null | bool _ | int _ | float _ | str _ | obj _ =>
    exact ⟨(fun _ _ => nofun), fun _ => .inl ⟨_, _, rfl⟩⟩

def pytestCheck (arguments : List String) : Json :=
  .obj [("type", .str "command_succeeds"),
    ("argv", Json.ofTexts ([".venv/bin/python", "-m", "pytest"] ++ arguments))]

/-- A command given twice raises the error of a missing key. -/
theorem repeated_command_unsafe :
    ¬ NormalizesSafely [] (.arr [pytestCheck ["tests"], pytestCheck ["tests"]]) := by
  have raised : normalizeDeterministicAcceptanceChecks []
      (.arr [pytestCheck ["tests"], pytestCheck ["tests"]]) = .error .keyError := by
    decide +kernel
  rintro (⟨code, message, refused⟩ | ⟨normalized, done, _⟩)
  · rw [raised] at refused
    cases refused
  · rw [raised] at done
    cases done

end Lucius.Acceptance
