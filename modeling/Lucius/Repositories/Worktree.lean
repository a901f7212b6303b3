import Lucius.Domain.Json
import Lucius.Lib.Journal
import Mathlib.Data.List.Sort
import Mathlib.Data.String.Basic

/-! Working trees: the bytes of their files, the text Python reads and writes, and
what Git answers about them.

A text is kept as its UTF-8 bytes. A location names a file under the root of the
tree by its path without symbolic links. What Git and the operating system do is a
parameter; its laws are the documented behaviour the callers rely on. -/

namespace Lucius.Worktree

abbrev Bytes := List UInt8

abbrev Text := Bytes

/-- The text with one character for each byte tells the bytes apart. -/
theorem bytewise_injective :
    Function.Injective (fun bytes : Bytes => String.ofList (bytes.map (fun byte => Char.ofNat byte.toNat))) := by
  have bytes : Function.Injective (fun byte : UInt8 => Char.ofNat byte.toNat) := by
    intro first second same
    have read (byte : UInt8) : (Char.ofNat byte.toNat).toNat = byte.toNat := by
      have valid : byte.toNat.isValidChar := .inl (by have bound := byte.toNat_lt; omega)
      rw [Char.ofNat, dif_pos valid]
      rfl
    have numbers := congrArg Char.toNat same
    dsimp only at numbers
    rw [read, read] at numbers
    exact UInt8.toNat_inj.mp numbers
  intro first second same
  exact List.map_injective_iff.mpr bytes (String.ofList_injective same)

def utf8 (text : String) : Text := text.toUTF8.data.toList

def validUtf8 (bytes : Bytes) : Bool := ByteArray.validateUTF8 ⟨bytes.toArray⟩

/-- Reading in text mode turns `\r\n` and a lone `\r` into `\n`. The flag says that
the byte before was a `\r`, whose `\n` has been read. -/
def universalNewlines (afterReturn : Bool) : Bytes → Text
  | [] => []
  | byte :: rest =>
    if byte = 13 then 10 :: universalNewlines true rest
    else if byte = 10 ∧ afterReturn = true then universalNewlines false rest
    else byte :: universalNewlines false rest

inductive Host where
  | posix | windows
  deriving DecidableEq, Repr

def Host.lineSeparator : Host → Bytes
  | .posix => [10]
  | .windows => [13, 10]

/-- Writing in text mode turns `\n` into the line separator of the host. -/
def hostNewlines (host : Host) (text : Text) : Bytes :=
  text.flatMap (fun byte => if byte = 10 then host.lineSeparator else [byte])

/-- The bytes that writing leaves of the text that reading made of some bytes. -/
def transported (host : Host) (bytes : Bytes) : Bytes :=
  hostNewlines host (universalNewlines false bytes)

/-- Each `\r` is followed by `\n` and each `\n` follows a `\r`. -/
def crlfOnly (afterReturn : Bool) : Bytes → Bool
  | [] => !afterReturn
  | byte :: rest =>
    if afterReturn = true then decide (byte = 10) && crlfOnly false rest
    else decide (byte ≠ 10) && crlfOnly (decide (byte = 13)) rest

/-- The bytes end each line the way the host does. -/
def HostLines : Host → Bytes → Prop
  | .posix, bytes => 13 ∉ bytes
  | .windows, bytes => crlfOnly false bytes = true

instance (host : Host) (bytes : Bytes) : Decidable (HostLines host bytes) :=
  match host with
  | .posix => inferInstanceAs (Decidable (13 ∉ bytes))
  | .windows => inferInstanceAs (Decidable (crlfOnly false bytes = true))

theorem transported_posix (bytes : Bytes) : hostNewlines .posix bytes = bytes := by
  induction bytes with
  | nil => rfl
  | cons byte rest ih =>
    unfold hostNewlines at ih ⊢
    rw [List.flatMap_cons, ih]
    by_cases newline : byte = 10
    · rw [if_pos newline, newline]
      rfl
    · rw [if_neg newline]
      rfl

theorem universalNewlines_same_iff (afterReturn : Bool) (bytes : Bytes) (start : afterReturn = false) :
    universalNewlines afterReturn bytes = bytes ↔ 13 ∉ bytes := by
  subst start
  induction bytes with
  | nil => simp [universalNewlines]
  | cons byte rest ih =>
    unfold universalNewlines
    by_cases carriage : byte = 13
    · subst carriage
      simp
    · have flag : ¬ (byte = 10 ∧ (false : Bool) = true) := by simp
      have other : ¬ (13 : UInt8) = byte := fun same => carriage same.symm
      rw [if_neg carriage, if_neg flag, List.cons.injEq, List.mem_cons, not_or, ih]
      simp [other]

theorem crlf_iff (bytes : Bytes) :
    (hostNewlines .windows (universalNewlines false bytes) = bytes ↔ crlfOnly false bytes = true) ∧
    (10 :: hostNewlines .windows (universalNewlines true bytes) = bytes ↔
      crlfOnly true bytes = true) := by
  induction bytes with
  | nil => simp [universalNewlines, hostNewlines, crlfOnly]
  | cons byte rest ih =>
    by_cases carriage : byte = 13
    · subst carriage
      constructor
      · have written : hostNewlines .windows (universalNewlines false (13 :: rest)) =
            13 :: 10 :: hostNewlines .windows (universalNewlines true rest) := by
          simp [universalNewlines, hostNewlines, Host.lineSeparator]
        rw [written, List.cons.injEq]
        simp [ih.2, crlfOnly]
      · have different : ¬ (10 : UInt8) = 13 := by decide
        simp [crlfOnly, different]
    · by_cases newline : byte = 10
      · subst newline
        constructor
        · have written : hostNewlines .windows (universalNewlines false (10 :: rest)) =
              13 :: 10 :: hostNewlines .windows (universalNewlines false rest) := by
            simp [universalNewlines, hostNewlines, Host.lineSeparator]
          have different : ¬ (13 : UInt8) = 10 := by decide
          rw [written]
          simp [crlfOnly, different]
        · have written : universalNewlines true (10 :: rest) = universalNewlines false rest := by
            simp [universalNewlines]
          rw [written]
          simp [ih.1, crlfOnly]
      · have written : ∀ flag, hostNewlines .windows (universalNewlines flag (byte :: rest)) =
            byte :: hostNewlines .windows (universalNewlines false rest) := by
          intro flag
          simp [universalNewlines, hostNewlines, carriage, newline]
        constructor
        · rw [written]
          simp [ih.1, crlfOnly, carriage, newline]
        · have different : ¬ (10 : UInt8) = byte := fun same => newline same.symm
          rw [written]
          simp [crlfOnly, newline, different]

/-- Reading and writing back keeps the bytes that end their lines as the host does,
and no others. -/
theorem transported_same_iff (host : Host) (bytes : Bytes) :
    transported host bytes = bytes ↔ HostLines host bytes := by
  cases host with
  | posix =>
    rw [transported, transported_posix]
    exact universalNewlines_same_iff false bytes rfl
  | windows => exact (crlf_iff bytes).1

abbrev Files := Updates.Contents String Bytes

abbrev FileUpdate := Updates.Update String Bytes

inductive WorkspaceExc where
  | gitMutation (code message : String)
  | acceptance (code message : String)
  | integrationBlocked (reason : String)
  | osError
  | decodeError
  | databaseError
  | typeError
  | keyError
  | valueError (message : String)
  | assertionError
  deriving DecidableEq, Repr

/-- A way in which a command or a read that changes nothing fails. -/
inductive ReadFault where
  | git (code message : String)
  | osError
  | decodeError
  deriving DecidableEq, Repr

def ReadFault.exc : ReadFault → WorkspaceExc
  | .git code message => .gitMutation code message
  | .osError => .osError
  | .decodeError => .decodeError

/-- A repository and its working tree as Git sees them, apart from the files. A tree
entry without a content is a symbolic link or a submodule. -/
structure Checkout where
  head : String
  tree : Updates.Contents String (Option Bytes)
  staged : List String
  ignored : String → Bool
  isLink : String → Bool
  resolve : String → Option String
  revParse : String → Option String
  diff : Files → List String
  others : Files → List String
  diff_regular : ∀ files path bytes, tree.lookup path = some (some bytes) →
    (path ∈ diff files ↔ files.lookup path ≠ some bytes)
  diff_local : ∀ (first second : Files) path, first.lookup path = second.lookup path →
    (path ∈ diff first ↔ path ∈ diff second)
  others_iff : ∀ files path, path ∈ others files ↔
    ((files.lookup path).isSome = true ∨ isLink path = true) ∧ tree.lookup path = none ∧
      ignored path = false
  resolve_plain : ∀ path location, resolve path = some location → resolve location = some location

/-- Without links every path stands where it says. -/
theorem resolve_unlinked (path location : String) (_ : some path = some location) :
    some location = some location :=
  rfl

namespace Checkout

variable (checkout : Checkout)

def tracked (path : String) : Bool := (checkout.tree.lookup path).isSome

/-- What Git lists as changed, before it is sorted. -/
def listed (files : Files) : List String :=
  checkout.diff files ++ checkout.staged ++ checkout.others files

theorem listed_congr {first second : Files} {path : String}
    (same : first.lookup path = second.lookup path) :
    path ∈ checkout.listed first ↔ path ∈ checkout.listed second := by
  simp only [listed, List.mem_append, checkout.diff_local first second path same,
    checkout.others_iff, same]

/-- The checkout of a repository without links, read off its tree. -/
def plain (head : String) (tree : Updates.Contents String (Option Bytes)) (ignored : String → Bool) :
    Checkout where
  head := head
  tree := tree
  staged := []
  ignored := ignored
  isLink := fun _ => false
  resolve := some
  revParse := some
  diff := fun files => tree.keys.filter (fun path =>
    match tree.lookup path with
    | some (some bytes) => decide (files.lookup path ≠ some bytes)
    | _ => false)
  others := fun files => files.keys.filter (fun path => (tree.lookup path).isNone && !ignored path)
  diff_regular := by
    intro files path bytes entry
    have member : path ∈ tree.keys := AList.mem_keys.mp (AList.lookup_isSome.mp (by rw [entry]; rfl))
    rw [List.mem_filter, entry]
    simp [member]
  diff_local := by
    intro first second path same
    simp only [List.mem_filter, same]
  others_iff := by
    intro files path
    rw [List.mem_filter, ← AList.mem_keys, ← AList.lookup_isSome]
    simp [Option.isNone_iff_eq_none]
  resolve_plain := resolve_unlinked

end Checkout

/-- The directories above a path, outermost first. -/
def parentsOf (front : List Char) : List Char → List String
  | [] => []
  | char :: rest =>
    if char = '/' then String.ofList front.reverse :: parentsOf (char :: front) rest
    else parentsOf (char :: front) rest

/-- A location is a directory when a file lies under it, or when it is one of those
that may be empty. -/
def isDirectory (directories : String → Bool) (files : Files) (location : String) : Bool :=
  directories location || files.keys.any (fun key => decide (location ∈ parentsOf [] key.toList))

abbrev FileWork (α : Type) := Journal String Bytes WorkspaceExc α

end Lucius.Worktree
