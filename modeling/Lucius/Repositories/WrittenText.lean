import Lucius.Lib.Utf8
import Lucius.Repositories.Capture

/-! What is read back of a text that was written: the host writes its own line breaks, and
reading knows only one kind. -/

namespace Lucius.Worktree

theorem utf8_eq (text : String) : utf8 text = Utf8.encode text.toList := Utf8.toUTF8_toList text

theorem return_mem_utf8 (text : String) : 13 ∈ utf8 text ↔ '\r' ∈ text.toList := by
  rw [utf8_eq, Utf8.mem_encode (by decide)]
  constructor
  · rintro ⟨char, member, same⟩
    have carriage : char = '\r' := Char.toNat_inj.mp same
    rwa [← carriage]
  · intro member
    exact ⟨'\r', member, by decide⟩

theorem hostNewlines_append (host : Host) (front back : Text) :
    hostNewlines host (front ++ back) = hostNewlines host front ++ hostNewlines host back :=
  List.flatMap_append

theorem hostNewlines_same {host : Host} {text : Text} (none : 10 ∉ text) : hostNewlines host text = text := by
  induction text with
  | nil => rfl
  | cons byte rest ih =>
    rw [List.mem_cons, not_or] at none
    have other : byte ≠ 10 := fun same => none.1 same.symm
    have later : hostNewlines host rest = rest := ih none.2
    calc hostNewlines host (byte :: rest)
        = (if byte = 10 then host.lineSeparator else [byte]) ++ hostNewlines host rest := List.flatMap_cons
      _ = byte :: rest := by rw [if_neg other, later, List.singleton_append]

/-- The line break of the host, as characters. -/
def Host.lineBreak : Host → List Char
  | .posix => ['\n']
  | .windows => ['\r', '\n']

theorem hostNewlines_encode (host : Host) (chars : List Char) :
    hostNewlines host (Utf8.encode chars) =
      Utf8.encode (chars.flatMap (fun char => if char = '\n' then host.lineBreak else [char])) := by
  induction chars with
  | nil => rfl
  | cons char rest ih =>
    rw [Utf8.encode_cons, hostNewlines_append, ih, List.flatMap_cons, Utf8.encode_append]
    congr 1
    by_cases newline : char = '\n'
    · subst newline
      cases host <;> decide
    · have none : 10 ∉ String.utf8EncodeChar char := by
        rw [Utf8.mem_utf8EncodeChar (by decide)]
        intro same
        exact newline (Char.toNat_inj.mp same)
      rw [hostNewlines_same none, if_neg newline, Utf8.encode_cons]
      simp [Utf8.encode]

theorem valid_hostNewlines (host : Host) (text : String) : validUtf8 (hostNewlines host (utf8 text)) = true := by
  rw [utf8_eq, hostNewlines_encode]
  exact Utf8.valid_encode _

theorem return_not_mem_universalNewlines (afterReturn : Bool) (bytes : Bytes) :
    13 ∉ universalNewlines afterReturn bytes := by
  induction bytes generalizing afterReturn with
  | nil => exact List.not_mem_nil
  | cons byte rest ih =>
    unfold universalNewlines
    split
    · rw [List.mem_cons, not_or]
      exact ⟨by decide, ih true⟩
    · rename_i other
      split
      · exact ih false
      · rw [List.mem_cons, not_or]
        exact ⟨fun same => other same.symm, ih false⟩

theorem universalNewlines_separator (host : Host) (bytes : Bytes) :
    universalNewlines false (host.lineSeparator ++ bytes) = 10 :: universalNewlines false bytes := by
  cases host with
  | posix => simp [Host.lineSeparator, universalNewlines]
  | windows => simp [Host.lineSeparator, universalNewlines]

theorem read_written_iff (host : Host) (text : Text) :
    universalNewlines false (hostNewlines host text) = text ↔ 13 ∉ text := by
  constructor
  · intro same
    rw [← same]
    exact return_not_mem_universalNewlines false _
  · intro none
    induction text with
    | nil => rfl
    | cons byte rest ih =>
      rw [List.mem_cons, not_or] at none
      have other : byte ≠ 13 := fun same => none.1 same.symm
      have later := ih none.2
      have written : hostNewlines host (byte :: rest) =
          (if byte = 10 then host.lineSeparator else [byte]) ++ hostNewlines host rest := List.flatMap_cons
      rw [written]
      split
      · rename_i newline
        rw [universalNewlines_separator, later, newline]
      · rename_i plain
        rw [List.singleton_append, universalNewlines, if_neg other, if_neg (by simp [plain]), later]

end Lucius.Worktree
