import Lucius.Repositories.LocalGit
import Lucius.Repositories.RepositoryPaths
import Lucius.Retrieval.Discovery

/-! What the two readers of `git status --porcelain` make of an output: the groups of paths of
the repository state service and the flag of the local adapter. -/

namespace Lucius.Pilots

open Worktree Retrieval

/-! ### What Git prints -/

inductive Column where
  | unmodified | modified | typeChanged | added | deleted | renamed | copied | unmerged
  deriving DecidableEq

def Column.letter : Column → Char
  | .unmodified => ' '
  | .modified => 'M'
  | .typeChanged => 'T'
  | .added => 'A'
  | .deleted => 'D'
  | .renamed => 'R'
  | .copied => 'C'
  | .unmerged => 'U'

inductive StatusCode where
  | untracked
  | tracked (index worktree : Column) (changed : index ≠ .unmodified ∨ worktree ≠ .unmodified)
  deriving DecidableEq

def StatusCode.letters : StatusCode → List Char
  | .untracked => ['?', '?']
  | .tracked index worktree _ => [index.letter, worktree.letter]

def StatusCode.indexChanged : StatusCode → Bool
  | .untracked => false
  | .tracked index _ _ => index ≠ .unmodified

def StatusCode.worktreeChanged : StatusCode → Bool
  | .untracked => false
  | .tracked _ worktree _ => worktree ≠ .unmodified

/-- An entry; the old name of a renamed or copied file is its origin. -/
structure StatusEntry where
  code : StatusCode
  path : List Char
  origin : Option (List Char) := none
  path_named : path ≠ [] := by decide
  origin_named : origin ≠ some [] := by decide
  origin_tracked : code = .untracked → origin = none := by decide

/-- A name of printed characters that Git does not quote. -/
def isPlainChar (char : Char) : Bool :=
  33 ≤ char.toNat && char.toNat ≤ 126 && char ≠ '"' && char ≠ '\\'

def isPlain (name : List Char) : Bool := name.all isPlainChar

def octal (byte : UInt8) : List Char :=
  '\\' :: [byte.toNat / 64, byte.toNat / 8 % 8, byte.toNat % 8].map (fun digit => Char.ofNat (48 + digit))

/-- A character inside a quoted name. -/
def escape (char : Char) : List Char :=
  if char = '"' ∨ char = '\\' then ['\\', char]
  else if isPlainChar char ∨ char = ' ' then [char]
  else match char.toNat with
    | 7 => ['\\', 'a']
    | 8 => ['\\', 'b']
    | 9 => ['\\', 't']
    | 10 => ['\\', 'n']
    | 11 => ['\\', 'v']
    | 12 => ['\\', 'f']
    | 13 => ['\\', 'r']
    | _ => (Utf8.encode [char]).flatMap octal

def printed (name : List Char) : List Char :=
  if isPlain name then name else '"' :: name.flatMap escape ++ ['"']

def arrow : List Char := [' ', '-', '>', ' ']

/-- What stands after the code and its space. -/
def StatusEntry.names (entry : StatusEntry) : List Char :=
  match entry.origin with
  | none => printed entry.path
  | some origin => printed origin ++ arrow ++ printed entry.path

def StatusEntry.line (entry : StatusEntry) : List Char := entry.code.letters ++ ' ' :: entry.names

/-- A status; a tracked path has one entry. -/
structure Status where
  entries : List StatusEntry
  once : ∀ one ∈ entries, ∀ other ∈ entries, one.code ≠ .untracked → other.code ≠ .untracked →
    one.path = other.path → one = other

def Status.output (status : Status) : List Char := status.entries.flatMap (fun entry => entry.line ++ ['\n'])

/-! ### What the readers see -/

/-- The lines of an output that are not empty. -/
def statusLines (output : List Char) : List String :=
  ((splitLines [] output).filter (fun line => !line.isEmpty)).map String.ofList

structure StatusGroups where
  staged : List String
  tracked : List String
  untracked : List String
  deriving DecidableEq

def isUntracked (code : List Char) : Bool := code = ['?', '?']

def isColumnChanged (column : Nat) (code : List Char) : Bool := !isUntracked code && code[column]? ≠ some ' '

/-- `_status_groups`; the output of the command has been stripped. -/
def statusGroups (output : List Char) : StatusGroups :=
  let lines := statusLines (Json.strip output)
  ⟨codedPaths lines (isColumnChanged 0), codedPaths lines (isColumnChanged 1), codedPaths lines isUntracked⟩

/-- The readers tell what the entries say. -/
structure ReadsRight (repository : LocalRepository) (status : Status) : Prop where
  staged : ∀ path : String, path ∈ (statusGroups status.output).staged ↔
    ∃ entry ∈ status.entries, String.ofList entry.path = path ∧ entry.code.indexChanged = true
  tracked : ∀ path : String, path ∈ (statusGroups status.output).tracked ↔
    ∃ entry ∈ status.entries, String.ofList entry.path = path ∧ entry.code.worktreeChanged = true
  untracked : ∀ path : String, path ∈ (statusGroups status.output).untracked ↔
    ∃ entry ∈ status.entries, String.ofList entry.path = path ∧ entry.code = .untracked
  dirty : (gitState { repository with porcelain := statusLines status.output }).isDirty = true ↔
    status.entries ≠ []

def StatusCode.listed (code : StatusCode) : Bool :=
  code = .untracked || ['M', 'A', 'D', 'R', 'U'].any (fun letter => letter ∈ code.letters)

/-- The origin is not cut at an arrow. -/
def StatusEntry.isWhole (entry : StatusEntry) : Prop := ∀ origin ∈ entry.origin, afterArrow (printed origin) = none

/-- The first entry keeps its first column, no name is cut or quoted, and some code is one
that the adapter knows. -/
structure Regular (status : Status) : Prop where
  first : ∀ entry ∈ status.entries.head?, entry.code = .untracked ∨ entry.code.indexChanged = true
  plain : ∀ entry ∈ status.entries, isPlain entry.path = true
  whole : ∀ entry ∈ status.entries, entry.isWhole
  known : status.entries ≠ [] → ∃ entry ∈ status.entries, entry.code.listed = true

/-! ### The lines -/

variable {name path text : List Char} {status : Status}

/-- The characters that Git prints. -/
def isPrinted (char : Char) : Bool := 32 ≤ char.toNat && char.toNat ≤ 126

theorem octal_printed (byte : UInt8) : ∀ char ∈ octal byte, isPrinted char = true := by
  have digit : ∀ number < 8, isPrinted (Char.ofNat (48 + number)) = true := by decide
  have bound := byte.toNat_lt
  intro char member
  simp only [octal, List.map_cons, List.map_nil, List.mem_cons, List.not_mem_nil, or_false] at member
  rcases member with rfl | rfl | rfl | rfl
  · decide
  · exact digit _ (by omega)
  · exact digit _ (by omega)
  · exact digit _ (by omega)

theorem plainChar_printed {char : Char} (plain : isPlainChar char = true) : isPrinted char = true := by
  simp only [isPlainChar, isPrinted, Bool.and_eq_true, decide_eq_true_eq] at plain ⊢
  omega

theorem escape_printed (char : Char) : ∀ shown ∈ escape char, isPrinted shown = true := by
  intro shown member
  unfold escape at member
  split at member
  · rename_i mark
    simp only [List.mem_cons, List.not_mem_nil, or_false] at member
    rcases member with rfl | rfl
    · decide
    · rcases mark with rfl | rfl <;> decide
  split at member
  · rename_i plain
    rw [List.mem_singleton.mp member]
    rcases plain with plain | rfl
    · exact plainChar_printed plain
    · decide
  split at member
  case _ | _ | _ | _ | _ | _ | _ =>
    simp only [List.mem_cons, List.not_mem_nil, or_false] at member
    rcases member with rfl | rfl <;> decide
  · obtain ⟨byte, -, inside⟩ := List.mem_flatMap.mp member
    exact octal_printed byte shown inside

theorem printed_printed (name : List Char) : ∀ char ∈ printed name, isPrinted char = true := by
  intro char member
  unfold printed at member
  split at member
  · rename_i plain
    exact plainChar_printed (List.all_eq_true.mp plain char member)
  · simp only [List.cons_append, List.mem_cons, List.mem_append, List.not_mem_nil, or_false] at member
    rcases member with rfl | inside | rfl
    · decide
    · obtain ⟨kept, -, shown⟩ := List.mem_flatMap.mp inside
      exact escape_printed kept char shown
    · decide

/-- A printed name begins and ends with a character that is no white space. -/
theorem printed_edges (named : name ≠ []) : ∃ first rest front last, printed name = first :: rest ∧
    printed name = front ++ [last] ∧ Json.isSpace first = false ∧ Json.isSpace last = false ∧ first ≠ ' ' := by
  have solid {char : Char} (plain : isPlainChar char = true) : Json.isSpace char = false ∧ char ≠ ' ' := by
    simp only [isPlainChar, Bool.and_eq_true, decide_eq_true_eq] at plain
    constructor
    · simp [Json.isSpace]
      omega
    · rintro rfl
      exact absurd plain.1.1.1 (by decide)
  unfold printed
  split
  · rename_i plain
    obtain ⟨first, rest, shape⟩ := List.exists_cons_of_ne_nil named
    have start := solid (List.all_eq_true.mp plain first (shape ▸ List.mem_cons_self))
    have final := solid (List.all_eq_true.mp plain _ (List.getLast_mem named))
    exact ⟨first, rest, _, _, shape, (List.dropLast_append_getLast named).symm, start.1, final.1, start.2⟩
  · exact ⟨'"', _, _, '"', rfl, rfl, by decide, by decide, by decide⟩

theorem names_printed (entry : StatusEntry) : ∀ char ∈ entry.names, isPrinted char = true := by
  intro char member
  unfold StatusEntry.names at member
  split at member
  · exact printed_printed _ char member
  · rw [List.mem_append, List.mem_append] at member
    rcases member with (inside | inside) | inside
    · exact printed_printed _ char inside
    · exact List.all_eq_true.mp (by decide : arrow.all isPrinted = true) char inside
    · exact printed_printed _ char inside

theorem names_edges (entry : StatusEntry) : ∃ first rest front last, entry.names = first :: rest ∧
    entry.names = front ++ [last] ∧ Json.isSpace first = false ∧ Json.isSpace last = false ∧ first ≠ ' ' := by
  obtain ⟨first, rest, front, last, begins, ends, start, final, solid⟩ := printed_edges entry.path_named
  unfold StatusEntry.names
  cases known : entry.origin with
  | none => exact ⟨first, rest, front, last, begins, ends, start, final, solid⟩
  | some origin =>
    have named : origin ≠ [] := by
      rintro rfl
      exact entry.origin_named known
    obtain ⟨head, tail, -, -, opens, -, clear, -, sharp⟩ := printed_edges named
    refine ⟨head, tail ++ arrow ++ printed entry.path, printed origin ++ arrow ++ front, last, ?_, ?_,
      clear, final, sharp⟩
    · simp only [opens, List.cons_append]
    · simp only [ends, List.append_assoc]

theorem splitLines_cons {char : Char} (shown : isPrinted char = true) (front rest : List Char) :
    splitLines front (char :: rest) = splitLines (char :: front) rest := by
  simp only [isPrinted, Bool.and_eq_true, decide_eq_true_eq] at shown
  have plain : isLineBreak char = false := by
    simp only [isLineBreak, decide_eq_false_iff_not, List.mem_cons, List.not_mem_nil, or_false]
    omega
  rw [splitLines, plain, if_neg Bool.false_ne_true]
  rintro _ rfl
  exact absurd shown.1 (by decide)

theorem splitLines_line {line : List Char} (shown : ∀ char ∈ line, isPrinted char = true) (front rest : List Char) :
    splitLines front (line ++ '\n' :: rest) = (front.reverse ++ line) :: splitLines [] rest := by
  induction line generalizing front with
  | nil => simp [splitLines, isLineBreak]
  | cons char tail ih =>
    rw [List.cons_append, splitLines_cons (shown char List.mem_cons_self),
      ih (fun other member => shown other (List.mem_cons_of_mem _ member)), List.reverse_cons,
      List.append_assoc, List.singleton_append]

theorem splitLines_last {line : List Char} (shown : ∀ char ∈ line, isPrinted char = true) (front : List Char)
    (filled : front ++ line ≠ []) : splitLines front line = [front.reverse ++ line] := by
  induction line generalizing front with
  | nil =>
    rw [List.append_nil] at filled
    simp [splitLines, filled]
  | cons char tail ih =>
    rw [splitLines_cons (shown char List.mem_cons_self),
      ih (fun other member => shown other (List.mem_cons_of_mem _ member)) _ (by simp), List.reverse_cons,
      List.append_assoc, List.singleton_append]

/-- The text of some lines. -/
def ended (lines : List (List Char)) : List Char := lines.flatMap (· ++ ['\n'])

section

variable {lines : List (List Char)} (shown : ∀ line ∈ lines, line ≠ [] ∧ ∀ char ∈ line, isPrinted char = true)
include shown

theorem statusLines_ended : statusLines (ended lines) = lines.map String.ofList := by
  suffices read : splitLines [] (ended lines) = lines by
    rw [statusLines, read, List.filter_eq_self.mpr]
    exact fun line member => by simp [(shown line member).1]
  induction lines with
  | nil => rfl
  | cons line rest ih =>
    have split := splitLines_line (shown line List.mem_cons_self).2 [] (ended rest)
    rw [ih (fun other member => shown other (List.mem_cons_of_mem _ member))] at split
    simpa [ended] using split

/-- The end of the last line makes no difference. -/
theorem statusLines_dropLast : statusLines (ended lines).dropLast = lines.map String.ofList := by
  suffices read : splitLines [] (ended lines).dropLast = lines by
    rw [statusLines, read, List.filter_eq_self.mpr]
    exact fun line member => by simp [(shown line member).1]
  induction lines with
  | nil => rfl
  | cons line rest ih =>
    obtain ⟨filled, visible⟩ := shown line List.mem_cons_self
    cases rest with
    | nil => simpa [ended] using splitLines_last visible [] filled
    | cons next others =>
      have split := splitLines_line visible [] (ended (next :: others)).dropLast
      rw [ih (fun other member => shown other (List.mem_cons_of_mem _ member))] at split
      have kept : (ended (line :: next :: others)).dropLast =
          line ++ '\n' :: (ended (next :: others)).dropLast := by
        have more : ended (next :: others) ≠ [] := by simp [ended]
        have joined : ended (line :: next :: others) = line ++ '\n' :: ended (next :: others) := by
          simp [ended]
        rw [joined, List.dropLast_append_of_ne_nil (by simp), List.dropLast_cons_of_ne_nil more]
      rw [kept]
      exact split

end

def StatusEntry.lineWith (entry : StatusEntry) (letters : List Char) : List Char := letters ++ ' ' :: entry.names

/-- The path that the readers take from the entry. -/
def StatusEntry.taken (entry : StatusEntry) : List Char := (afterArrow entry.names).getD entry.names

/-- The entries with the letters that are left of their codes where the output is stripped. -/
def seenEntries : List StatusEntry → List (List Char × StatusEntry)
  | [] => []
  | first :: rest => (first.code.letters.dropWhile Json.isSpace, first) :: rest.map fun entry => (entry.code.letters, entry)

/-- Stripping leaves the letters, or takes a blank first column. -/
theorem letters_shape (code : StatusCode) : ∃ first second, code.letters = [first, second] ∧
    isPrinted first = true ∧ isPrinted second = true ∧
    (code.letters.dropWhile Json.isSpace = [first, second] ∨
      (first = ' ' ∧ code.letters.dropWhile Json.isSpace = [second])) := by
  rcases code with _ | ⟨index, worktree, changed⟩
  · exact ⟨'?', '?', rfl, by decide, by decide, .inl rfl⟩
  · have seen (column : Column) : isPrinted column.letter = true := by cases column <;> decide
    refine ⟨_, _, rfl, seen index, seen worktree, ?_⟩
    cases index
    case unmodified =>
      cases worktree
      case unmodified => exact absurd changed (by decide)
      all_goals exact .inr ⟨rfl, rfl⟩
    all_goals exact .inl rfl

/-- What the letters of a seen entry are. -/
theorem seen_letters {entries : List StatusEntry} {letters : List Char} {entry : StatusEntry}
    (member : (letters, entry) ∈ seenEntries entries) : entry ∈ entries ∧
      (letters = entry.code.letters ∨
        entries.head? = some entry ∧ letters = entry.code.letters.dropWhile Json.isSpace) := by
  cases entries with
  | nil => cases member
  | cons first rest =>
    rcases List.mem_cons.mp member with same | later
    · cases same
      exact ⟨List.mem_cons_self, .inr ⟨rfl, rfl⟩⟩
    · obtain ⟨other, inside, same⟩ := List.mem_map.mp later
      cases same
      exact ⟨List.mem_cons_of_mem _ inside, .inl rfl⟩

theorem seen_of_mem {entries : List StatusEntry} {entry : StatusEntry} (member : entry ∈ entries) :
    ∃ letters, (letters, entry) ∈ seenEntries entries := by
  cases entries with
  | nil => cases member
  | cons first rest =>
    rcases List.mem_cons.mp member with rfl | later
    · exact ⟨_, List.mem_cons_self⟩
    · exact ⟨_, List.mem_cons_of_mem _ (List.mem_map_of_mem later)⟩

theorem strip_output (status : Status) : Json.strip status.output =
    (ended ((seenEntries status.entries).map fun seen => seen.2.lineWith seen.1)).dropLast := by
  have written : status.output = ended (status.entries.map StatusEntry.line) := by
    simp [Status.output, ended, List.flatMap_map]
  have front : status.output.dropWhile Json.isSpace =
      ended ((seenEntries status.entries).map fun seen => seen.2.lineWith seen.1) := by
    rw [written]
    cases status.entries with
    | nil => rfl
    | cons first rest =>
      have left : (first.code.letters.dropWhile Json.isSpace).isEmpty = false := by
        obtain ⟨_, _, _, _, _, kept | ⟨_, kept⟩⟩ := letters_shape first.code <;> rw [kept] <;> rfl
      have begins : ended ((first :: rest).map StatusEntry.line) =
          first.code.letters ++ (' ' :: first.names ++ '\n' :: ended (rest.map StatusEntry.line)) := by
        simp [ended, StatusEntry.line]
      rw [begins, List.dropWhile_append, left, if_neg Bool.false_ne_true]
      simp [ended, seenEntries, StatusEntry.lineWith, StatusEntry.line, List.flatMap_map]
  rw [Json.strip, front]
  rcases List.eq_nil_or_concat (seenEntries status.entries) with none | ⟨before, ⟨letters, entry⟩, ends⟩
  · rw [none]
    rfl
  · obtain ⟨-, -, start, last, -, shape, -, solid, -⟩ := names_edges entry
    have whole : ended ((seenEntries status.entries).map fun seen => seen.2.lineWith seen.1) =
        ended (before.map fun seen => seen.2.lineWith seen.1) ++ letters ++ ' ' :: start ++ [last] ++ ['\n'] := by
      simp [ends, ended, StatusEntry.lineWith, shape]
    rw [whole, List.dropLast_concat, List.reverse_append, List.reverse_append]
    simp [solid, show Json.isSpace '\n' = true by decide]

/-- The code and the path that a reader takes from a line. -/
theorem line_read {letters : List Char} {entry : StatusEntry}
    (shape : letters = entry.code.letters ∨ letters = entry.code.letters.dropWhile Json.isSpace) :
    (entry.lineWith letters).take 2 = (letters ++ [' ']).take 2 ∧
      porcelainPath (entry.lineWith letters) = entry.taken := by
  obtain ⟨first, second, known, -, -, kept⟩ := letters_shape entry.code
  obtain ⟨head, tail, -, -, begins, -, clear, -, solid⟩ := names_edges entry
  have two : letters = [first, second] ∨ letters = [second] := by
    rcases shape with rfl | rfl
    · exact .inl known
    · exact kept.imp_right And.right
  rcases two with rfl | rfl
  · exact ⟨rfl, rfl⟩
  · refine ⟨rfl, ?_⟩
    simp [porcelainPath, StatusEntry.lineWith, StatusEntry.taken, begins, solid, clear]

theorem lineWith_printed {letters : List Char} {entry : StatusEntry}
    (shape : letters = entry.code.letters ∨ letters = entry.code.letters.dropWhile Json.isSpace) :
    entry.lineWith letters ≠ [] ∧ ∀ char ∈ entry.lineWith letters, isPrinted char = true := by
  obtain ⟨first, second, known, one, other, -⟩ := letters_shape entry.code
  refine ⟨by simp [StatusEntry.lineWith], fun char member => ?_⟩
  rcases List.mem_append.mp member with inside | inside
  · have among : char ∈ [first, second] := by
      rw [← known]
      rcases shape with rfl | rfl
      · exact inside
      · exact (List.dropWhile_sublist _).subset inside
    rcases List.mem_pair.mp among with rfl | rfl
    · exact one
    · exact other
  · rcases List.mem_cons.mp inside with rfl | inside
    · decide
    · exact names_printed entry char inside

theorem mem_codedPaths (lines : List String) (test : List Char → Bool) (path : String) :
    path ∈ codedPaths lines test ↔
      ∃ line ∈ lines, test (line.toList.take 2) = true ∧ String.ofList (porcelainPath line.toList) = path := by
  rw [codedPaths, mem_sortedBy, List.mem_dedup, List.mem_map]
  simp only [List.mem_filter, and_assoc]

/-- The paths of the service are those taken from the entries whose seen letters pass. -/
theorem mem_group (status : Status) (test : List Char → Bool) (path : String) :
    path ∈ codedPaths (statusLines (Json.strip status.output)) test ↔
      ∃ seen ∈ seenEntries status.entries, test ((seen.1 ++ [' ']).take 2) = true ∧
        String.ofList seen.2.taken = path := by
  have shape : ∀ seen ∈ seenEntries status.entries, seen.1 = seen.2.code.letters ∨
      seen.1 = seen.2.code.letters.dropWhile Json.isSpace :=
    fun seen member => (seen_letters member).2.imp_right And.right
  rw [strip_output, statusLines_dropLast, mem_codedPaths]
  · simp only [List.mem_map, exists_exists_and_eq_and, String.toList_ofList]
    refine exists_congr fun seen => and_congr_right fun member => ?_
    rw [(line_read (shape seen member)).1, (line_read (shape seen member)).2]
  · intro line member
    obtain ⟨seen, inside, rfl⟩ := List.mem_map.mp member
    exact lineWith_printed (shape seen inside)

/-! ### The names -/

def isMark (char : Char) : Bool := char = '"' || char = '\\'

/-- How many quotes and backslashes a text ends with. -/
def marks (text : List Char) : Nat := text.foldl (fun count char => if isMark char then count + 1 else 0) 0

theorem marks_concat (text : List Char) (char : Char) :
    marks (text ++ [char]) = if isMark char then marks text + 1 else 0 := by
  simp [marks]

theorem marks_after (front text : List Char) : marks (front ++ arrow ++ text) = marks text := by
  simp [marks, arrow, isMark]

theorem marks_plain (plain : isPlain name = true) : marks name = 0 := by
  cases name using List.reverseRecOn with
  | nil => rfl
  | append_singleton front last =>
    have solid := List.all_eq_true.mp plain last (by simp)
    simp only [isPlainChar, Bool.and_eq_true, decide_eq_true_eq] at solid
    rw [marks_concat, isMark]
    simp [solid]

theorem afterArrow_some (found : afterArrow text = some path) : ∃ front, text = front ++ arrow ++ path := by
  induction text with
  | nil => cases found
  | cons char rest ih =>
    rw [afterArrow] at found
    split at found
    · rename_i begins
      cases found
      refine ⟨[], ?_⟩
      rw [List.nil_append]
      conv_lhs => rw [← List.take_append_drop 4 (char :: rest), begins]
      rfl
    · obtain ⟨front, same⟩ := ih found
      exact ⟨char :: front, by rw [same]; rfl⟩

theorem space_of_arrow (found : afterArrow text = some path) : ' ' ∈ text := by
  obtain ⟨front, rfl⟩ := afterArrow_some found
  simp [arrow]

theorem no_space_plain (plain : isPlain name = true) : ' ' ∉ name := by
  intro inside
  exact absurd (List.all_eq_true.mp plain ' ' inside) (by decide)

/-- A name that must be quoted ends with more marks as Git prints it. -/
theorem marks_printed (quoted : isPlain name = false) : marks name < marks (printed name) := by
  rw [printed, if_neg (by rw [quoted]; exact Bool.false_ne_true), marks_concat, if_pos (by decide)]
  refine Nat.lt_succ_of_le ?_
  clear quoted
  induction name using List.reverseRecOn with
  | nil => exact Nat.zero_le _
  | append_singleton front last ih =>
    rw [marks_concat]
    split
    · rename_i mark
      have doubled : escape last = ['\\', last] := by
        rw [escape, if_pos (by simpa [isMark] using mark)]
      have joined : '"' :: (front ++ [last]).flatMap escape = ('"' :: front.flatMap escape ++ ['\\']) ++ [last] := by
        simp [doubled]
      rw [joined, marks_concat, if_pos mark, marks_concat, if_pos (by decide)]
      omega
    · exact Nat.zero_le _

theorem marks_taken (entry : StatusEntry) : marks entry.taken = marks (printed entry.path) := by
  have whole : marks entry.names = marks (printed entry.path) := by
    unfold StatusEntry.names
    split
    · rfl
    · exact marks_after _ _
  rw [← whole, StatusEntry.taken]
  cases found : afterArrow entry.names with
  | none => rfl
  | some rest =>
    obtain ⟨front, same⟩ := afterArrow_some found
    rw [same]
    exact (marks_after front rest).symm

/-- The first arrow is one of the text before, unless that text ends in most of one. -/
theorem afterArrow_append (firm : ∀ front, text ≠ front ++ [' ', '-', '>']) :
    afterArrow (text ++ arrow ++ path) = some ((afterArrow text).elim path (· ++ arrow ++ path)) := by
  induction text with
  | nil => simp [afterArrow, arrow]
  | cons char rest ih =>
    have step (tail : List Char) : afterArrow (char :: tail) =
        if (char :: tail).take 4 = arrow then some ((char :: tail).drop 4) else afterArrow tail := rfl
    by_cases begins : (char :: rest).take 4 = arrow
    · rw [← List.take_append_drop 4 (char :: rest), begins]
      simp [afterArrow, arrow]
    · have other : (char :: (rest ++ arrow ++ path)).take 4 ≠ arrow := by
        intro same
        rcases rest with _ | ⟨second, _ | ⟨third, _ | ⟨fourth, tail⟩⟩⟩
        all_goals simp [arrow] at same
        · exact firm [] (by simp [same])
        · exact begins (by simp [same, arrow])
      rw [List.cons_append, List.cons_append, step, if_neg other, step, if_neg begins]
      exact ih (fun front same => firm (char :: front) (by rw [same]; rfl))

theorem afterArrow_names {entry : StatusEntry} {origin : List Char} (known : entry.origin = some origin) :
    afterArrow entry.names =
      some ((afterArrow (printed origin)).elim (printed entry.path) (· ++ arrow ++ printed entry.path)) := by
  unfold StatusEntry.names
  rw [known]
  refine afterArrow_append fun front same => ?_
  unfold printed at same
  split at same
  · rename_i clear
    exact no_space_plain clear (by rw [same]; simp)
  · have ends := congrArg List.getLast? same
    rw [List.getLast?_append, List.getLast?_append] at ends
    exact absurd (Option.some.inj ends) (by decide)

theorem taken_whole {entry : StatusEntry} (plain : isPlain entry.path = true) (whole : entry.isWhole) :
    entry.taken = entry.path := by
  have shown : printed entry.path = entry.path := if_pos plain
  cases known : entry.origin with
  | none =>
    have names : entry.names = entry.path := by rw [StatusEntry.names, known]; exact shown
    rw [StatusEntry.taken, names]
    cases found : afterArrow entry.path with
    | none => rfl
    | some rest => exact absurd (space_of_arrow found) (no_space_plain plain)
  | some origin =>
    rw [StatusEntry.taken, afterArrow_names known, whole origin known, shown]
    rfl

theorem taken_cut {entry : StatusEntry} (cut : ¬ entry.isWhole) : ' ' ∈ entry.taken := by
  rw [StatusEntry.isWhole] at cut
  push Not at cut
  obtain ⟨origin, known, found⟩ := cut
  obtain ⟨rest, found⟩ := Option.ne_none_iff_exists'.mp found
  rw [StatusEntry.taken, afterArrow_names known, found]
  simp [arrow]

/-! ### What the readers tell -/

/-- The two letters that a reader takes as the code. -/
def codeOf (letters : List Char) : List Char := (letters ++ [' ']).take 2

theorem codeOf_seen {entries : List StatusEntry} {letters : List Char} {entry : StatusEntry}
    (member : (letters, entry) ∈ seenEntries entries) : codeOf letters = entry.code.letters ∨
      (entries.head? = some entry ∧ entry.code ≠ .untracked ∧ entry.code.indexChanged = false ∧
        ∃ column : Column, column ≠ .unmodified ∧ codeOf letters = [column.letter, ' ']) := by
  have whole : codeOf entry.code.letters = entry.code.letters := by rcases entry.code with _ | _ <;> rfl
  rcases (seen_letters member).2 with rfl | ⟨first, rfl⟩
  · exact .inl whole
  · rcases known : entry.code with _ | ⟨index, worktree, changed⟩
    · exact .inl rfl
    · cases index
      case unmodified =>
        have other := changed.resolve_left (fun same => same rfl)
        refine .inr ⟨first, StatusCode.noConfusion, rfl, worktree, other, ?_⟩
        cases worktree
        case unmodified => exact absurd rfl other
        all_goals rfl
      all_goals exact .inl rfl

theorem changed_of_tracked {code : StatusCode} (tracked : code ≠ .untracked) :
    code.indexChanged = true ∨ code.worktreeChanged = true := by
  rcases code with _ | ⟨index, worktree, changed⟩
  · exact absurd rfl tracked
  · exact changed.imp decide_eq_true decide_eq_true

theorem letter_ne_question (column : Column) : column.letter ≠ '?' := by cases column <;> decide

theorem letter_blank_iff (column : Column) : column.letter = ' ' ↔ column = .unmodified := by
  cases column <;> decide

theorem untracked_iff (code : StatusCode) : code.letters = ['?', '?'] ↔ code = .untracked := by
  rcases code with _ | ⟨index, worktree, changed⟩
  · exact iff_of_true rfl rfl
  · exact iff_of_false (fun same => letter_ne_question index (List.cons.inj same).1) StatusCode.noConfusion

theorem codeOf_untracked_iff {entries : List StatusEntry} {letters : List Char} {entry : StatusEntry}
    (member : (letters, entry) ∈ seenEntries entries) :
    isUntracked (codeOf letters) = true ↔ entry.code = .untracked := by
  rcases codeOf_seen member with same | ⟨-, other, -, column, -, same⟩
  · rw [same, isUntracked, decide_eq_true_iff, untracked_iff]
  · rw [same, isUntracked, decide_eq_true_iff]
    exact iff_of_false (fun equal => letter_ne_question column (List.cons.inj equal).1) other

section

variable {repository : LocalRepository} (right : ReadsRight repository status)
include right

/-- Every path is taken from an entry of its kind. -/
theorem told_path {entry : StatusEntry} (member : entry ∈ status.entries) : ∃ other ∈ status.entries,
    other.taken = entry.path ∧ (other.code = .untracked ↔ entry.code = .untracked) := by
  have found {test : List Char → Bool}
      (listed : String.ofList entry.path ∈ codedPaths (statusLines (Json.strip status.output)) test)
      (kind : ∀ code, test code = true → (isUntracked code = true ↔ entry.code = .untracked)) :
      ∃ other ∈ status.entries, other.taken = entry.path ∧ (other.code = .untracked ↔ entry.code = .untracked) := by
    obtain ⟨⟨letters, other⟩, inside, passes, same⟩ := (mem_group status test _).mp listed
    refine ⟨other, (seen_letters inside).1, String.ofList_injective same, ?_⟩
    rw [← codeOf_untracked_iff inside]
    exact kind _ passes
  by_cases known : entry.code = .untracked
  · exact found ((right.untracked _).mpr ⟨entry, member, rfl, known⟩) fun code passes => iff_of_true passes known
  · have other (column : Nat) (code : List Char) (passes : isColumnChanged column code = true) :
        isUntracked code = true ↔ entry.code = .untracked := by
      rw [isColumnChanged, Bool.and_eq_true, Bool.not_eq_true'] at passes
      exact iff_of_false (by rw [passes.1]; exact Bool.false_ne_true) known
    rcases changed_of_tracked known with changed | changed
    · exact found ((right.staged _).mpr ⟨entry, member, rfl, changed⟩) (other 0)
    · exact found ((right.tracked _).mpr ⟨entry, member, rfl, changed⟩) (other 1)

/-- A plain name is not cut: only its own entry can tell it. -/
theorem told_whole {entry : StatusEntry} (member : entry ∈ status.entries) (plain : isPlain entry.path = true) :
    entry.isWhole := by
  by_contra cut
  obtain ⟨other, inside, same, kind⟩ := told_path right member
  have few := marks_taken other
  rw [same, marks_plain plain] at few
  have clear : isPlain other.path = true := by
    by_contra quoted
    have more := marks_printed (Bool.eq_false_iff.mpr quoted)
    omega
  have whole : other.isWhole := by
    by_contra broken
    exact no_space_plain plain (same ▸ taken_cut broken)
  have tracked : entry.code ≠ .untracked := by
    intro code
    exact cut fun origin known => by rw [entry.origin_tracked code] at known; cases known
  have equal := status.once other inside entry member (fun code => tracked (kind.mp code)) tracked
    ((taken_whole clear whole).symm.trans same)
  exact cut (equal ▸ whole)

/-- No name is quoted: one with fewest marks at its end could not be told. -/
theorem told_plain : ∀ count, ∀ entry ∈ status.entries, marks entry.path = count → isPlain entry.path = true := by
  intro count
  induction count using Nat.strong_induction_on with
  | _ count ih =>
    intro entry member counted
    obtain ⟨other, inside, same, -⟩ := told_path right member
    have kept := marks_taken other
    rw [same, counted] at kept
    by_cases clear : isPlain other.path = true
    · rw [← same, taken_whole clear (told_whole right inside clear)]
      exact clear
    · have fewer := marks_printed (Bool.eq_false_iff.mpr clear)
      exact absurd (ih _ (by omega) other inside rfl) clear

theorem told_first {entry : StatusEntry} (first : status.entries.head? = some entry) :
    entry.code = .untracked ∨ entry.code.indexChanged = true := by
  by_contra shifted
  obtain ⟨tracked, blank⟩ := not_or.mp shifted
  have member : entry ∈ status.entries := List.mem_of_mem_head? first
  have clear := told_plain right _ entry member rfl
  have seen : (entry.code.letters.dropWhile Json.isSpace, entry) ∈ seenEntries status.entries := by
    obtain ⟨rest, shape⟩ := List.head?_eq_some_iff.mp first
    rw [shape]
    exact List.mem_cons_self
  have passes : isColumnChanged 0 (codeOf (entry.code.letters.dropWhile Json.isSpace)) = true := by
    rcases known : entry.code with _ | ⟨index, worktree, changed⟩
    · exact absurd known tracked
    · rw [known, StatusCode.indexChanged, decide_eq_true_iff, not_not] at blank
      subst blank
      cases worktree <;> first | rfl | exact absurd changed (by decide)
  have listed : String.ofList entry.path ∈ (statusGroups status.output).staged :=
    (mem_group status _ _).mpr ⟨_, seen, passes, by rw [taken_whole clear (told_whole right member clear)]⟩
  obtain ⟨other, inside, same, changed⟩ := (right.staged _).mp listed
  have kind : other.code ≠ .untracked := by
    intro code
    rw [code] at changed
    cases changed
  rw [status.once other inside entry member kind tracked (String.ofList_injective same)] at changed
  exact blank changed

end

/-! ### What a regular status is read as -/

/-- The adapter knows a code by a letter, or as untracked. -/
theorem dirty_iff (repository : LocalRepository) (status : Status) :
    (gitState { repository with porcelain := statusLines status.output }).isDirty = true ↔
      ∃ entry ∈ status.entries, entry.code.listed = true := by
  have written : status.output = ended (status.entries.map StatusEntry.line) := by
    simp [Status.output, ended, List.flatMap_map]
  have lines : statusLines status.output = (status.entries.map StatusEntry.line).map String.ofList := by
    rw [written]
    refine statusLines_ended fun line member => ?_
    obtain ⟨entry, -, rfl⟩ := List.mem_map.mp member
    exact lineWith_printed (.inl rfl)
  have filled (test : List Char → Bool) : (!(codedPaths (statusLines status.output) test).isEmpty) = true ↔
      ∃ entry ∈ status.entries, test entry.code.letters = true := by
    have taken (entry : StatusEntry) : entry.line.take 2 = entry.code.letters := by
      rcases known : entry.code with _ | _ <;> rw [StatusEntry.line, known] <;> rfl
    rw [Bool.not_eq_true', List.isEmpty_eq_false_iff_exists_mem]
    simp only [mem_codedPaths, lines, List.mem_map, exists_exists_and_eq_and, String.toList_ofList, taken]
    exact ⟨fun ⟨_, entry, inside, passes, _⟩ => ⟨entry, inside, passes⟩,
      fun ⟨entry, inside, passes⟩ => ⟨_, entry, inside, passes, rfl⟩⟩
  have conflict : ∀ code ∈ conflictCodes, 'A' ∈ code ∨ 'D' ∈ code ∨ 'U' ∈ code := by decide
  simp only [gitState, DirtySummary.any, parseStatus, List.any_cons, List.any_nil, Bool.or_eq_true, filled,
    StatusCode.listed, decide_eq_true_iff, untracked_iff, Bool.or_false]
  constructor
  · rintro (⟨entry, inside, known⟩ | ⟨entry, inside, known⟩ | ⟨entry, inside, known⟩ | ⟨entry, inside, known⟩ |
      ⟨entry, inside, known⟩ | ⟨entry, inside, known | known⟩)
    case inr.inr.inr.inr.inr.inl =>
      obtain found | found | found := conflict _ known <;> exact ⟨entry, inside, by simp [found]⟩
    all_goals exact ⟨entry, inside, by simp [known]⟩
  · rintro ⟨entry, inside, known | found | found | found | found | found⟩
    · exact .inr (.inr (.inr (.inr (.inl ⟨entry, inside, known⟩))))
    · exact .inl ⟨entry, inside, found⟩
    · exact .inr (.inl ⟨entry, inside, found⟩)
    · exact .inr (.inr (.inl ⟨entry, inside, found⟩))
    · exact .inr (.inr (.inr (.inl ⟨entry, inside, found⟩)))
    · exact .inr (.inr (.inr (.inr (.inr ⟨entry, inside, .inr found⟩))))

/-- A group of a regular status holds the paths whose codes pass. -/
theorem mem_group_regular (regular : Regular status) (test : List Char → Bool) (kind : StatusCode → Prop)
    (same : ∀ code : StatusCode, test code.letters = true ↔ kind code) (path : String) :
    path ∈ codedPaths (statusLines (Json.strip status.output)) test ↔
      ∃ entry ∈ status.entries, String.ofList entry.path = path ∧ kind entry.code := by
  rw [mem_group]
  have read : ∀ seen ∈ seenEntries status.entries, codeOf seen.1 = seen.2.code.letters ∧
      seen.2.taken = seen.2.path := by
    intro seen member
    have inside := (seen_letters member).1
    refine ⟨(codeOf_seen member).resolve_right ?_, taken_whole (regular.plain _ inside) (regular.whole _ inside)⟩
    rintro ⟨first, tracked, blank, -⟩
    rcases regular.first _ first with code | changed
    · exact tracked code
    · rw [blank] at changed
      cases changed
  constructor
  · rintro ⟨seen, member, passes, named⟩
    obtain ⟨letters, whole⟩ := read seen member
    exact ⟨seen.2, (seen_letters member).1, whole ▸ named, (same _).mp (letters ▸ passes)⟩
  · rintro ⟨entry, inside, named, passes⟩
    obtain ⟨left, member⟩ := seen_of_mem inside
    obtain ⟨letters, whole⟩ := read _ member
    refine ⟨_, member, ?_, whole.symm ▸ named⟩
    change test (codeOf left) = true
    rw [letters]
    exact (same _).mpr passes

/-- The readers tell what the entries say exactly when the status is regular. -/
theorem reads_right_iff (repository : LocalRepository) (status : Status) :
    ReadsRight repository status ↔ Regular status := by
  have some_listed : (∃ entry ∈ status.entries, entry.code.listed = true) → status.entries ≠ [] := by
    rintro ⟨entry, inside, -⟩ none
    rw [none] at inside
    cases inside
  constructor
  · intro right
    have plain : ∀ entry ∈ status.entries, isPlain entry.path = true :=
      fun entry member => told_plain right _ entry member rfl
    exact ⟨fun entry first => told_first right first, plain,
      fun entry member => told_whole right member (plain entry member),
      fun filled => (dirty_iff repository status).mp (right.dirty.mpr filled)⟩
  · intro regular
    have changed (column : Nat) (code : StatusCode) : isColumnChanged column code.letters = true ↔
        code ≠ .untracked ∧ code.letters[column]? ≠ some ' ' := by
      rw [isColumnChanged, isUntracked, Bool.and_eq_true, decide_eq_true_iff, Bool.not_eq_true',
        decide_eq_false_iff_not, untracked_iff]
    refine ⟨mem_group_regular regular _ (fun code => code.indexChanged = true) fun code => ?_,
      mem_group_regular regular _ (fun code => code.worktreeChanged = true) fun code => ?_,
      mem_group_regular regular _ (fun code => code = .untracked) fun code => ?_,
      (dirty_iff repository status).trans ⟨some_listed, regular.known⟩⟩
    · rw [changed]
      rcases code with _ | ⟨index, worktree, _⟩
      · simp [StatusCode.indexChanged]
      · simp [StatusCode.indexChanged, StatusCode.letters, letter_blank_iff]
    · rw [changed]
      rcases code with _ | ⟨index, worktree, _⟩
      · simp [StatusCode.worktreeChanged]
      · simp [StatusCode.worktreeChanged, StatusCode.letters, letter_blank_iff]
    · rw [isUntracked, decide_eq_true_iff, untracked_iff]

/-- One file that is changed in the working tree alone. -/
def unstaged : Status where
  entries := [{ code := .tracked .unmodified .modified (by decide), path := ['a'] }]
  once := by simp

def emptyRepository : LocalRepository := ⟨.plain "sha" ∅ (fun _ => false), ∅, none, [], []⟩

/-- A change that is not staged is told as staged. -/
theorem unstaged_told_staged : ¬ ∀ status, ReadsRight emptyRepository status := by
  intro all
  have told : "a" ∈ (statusGroups unstaged.output).staged := by decide +kernel
  obtain ⟨entry, member, -, changed⟩ := ((all unstaged).staged "a").mp told
  rw [List.mem_singleton.mp member] at changed
  cases changed

end Lucius.Pilots
