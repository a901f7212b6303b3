import Mathlib.Tactic.Common

/-! The bytes of a text in UTF-8, character by character. -/

namespace Lucius.Utf8

def encode (chars : List Char) : List UInt8 := chars.flatMap String.utf8EncodeChar

theorem encode_append (front back : List Char) : encode (front ++ back) = encode front ++ encode back :=
  List.flatMap_append

theorem encode_cons (char : Char) (rest : List Char) :
    encode (char :: rest) = String.utf8EncodeChar char ++ encode rest :=
  List.flatMap_cons

theorem toUTF8_toList (text : String) : text.toUTF8.data.toList = encode text.toList := by
  have bytes : text.toUTF8 = text.toList.utf8Encode := String.utf8Encode_toList.symm
  rw [bytes, List.utf8Encode]
  simp [encode]

theorem valid_encode (chars : List Char) : ByteArray.validateUTF8 ⟨(encode chars).toArray⟩ = true := by
  rw [ByteArray.validateUTF8_eq_true_iff]
  refine ⟨chars, ?_⟩
  rw [List.utf8Encode]
  apply ByteArray.ext
  simp [encode]

/-- A byte of ASCII is there for its own character alone. -/
theorem mem_utf8EncodeChar {char : Char} {byte : UInt8} (small : byte.toNat < 128) :
    byte ∈ String.utf8EncodeChar char ↔ char.toNat = byte.toNat := by
  have range : char.val.toNat < 1114112 := by
    have valid := char.valid
    rcases valid with low | high
    · exact Nat.lt_trans low (by decide)
    · exact high.2
  have same : ∀ value < 256, byte = UInt8.ofNat value ↔ byte.toNat = value := by
    intro value fits
    rw [← UInt8.toNat_inj, UInt8.toNat_ofNat', Nat.mod_eq_of_lt fits]
  unfold String.utf8EncodeChar
  dsimp only
  change _ ↔ char.val.toNat = byte.toNat
  split
  · rename_i one
    rw [List.mem_singleton, same _ (by omega)]
    omega
  · split
    · rename_i two
      rw [List.mem_cons, List.mem_singleton, same _ (by omega), same _ (by omega)]
      omega
    · split
      · rename_i three
        rw [List.mem_cons, List.mem_cons, List.mem_singleton, same _ (by omega), same _ (by omega),
          same _ (by omega)]
        omega
      · rw [List.mem_cons, List.mem_cons, List.mem_cons, List.mem_singleton, same _ (by omega),
          same _ (by omega), same _ (by omega), same _ (by omega)]
        omega

theorem mem_encode {chars : List Char} {byte : UInt8} (small : byte.toNat < 128) :
    byte ∈ encode chars ↔ ∃ char ∈ chars, char.toNat = byte.toNat := by
  rw [encode, List.mem_flatMap]
  constructor
  · rintro ⟨char, member, inside⟩
    exact ⟨char, member, (mem_utf8EncodeChar small).mp inside⟩
  · rintro ⟨char, member, same⟩
    exact ⟨char, member, (mem_utf8EncodeChar small).mpr same⟩

/-- The bytes tell which character comes first. -/
theorem utf8EncodeChar_append_inj {char other : Char} {rest more : List UInt8}
    (same : String.utf8EncodeChar char ++ rest = String.utf8EncodeChar other ++ more) :
    char = other ∧ rest = more := by
  have first : some char = some other := by
    rw [← ByteArray.utf8DecodeChar?_utf8EncodeChar_append (b := rest.toByteArray),
      ← ByteArray.utf8DecodeChar?_utf8EncodeChar_append (b := more.toByteArray),
      ← List.toByteArray_append, ← List.toByteArray_append, same]
  cases first
  exact ⟨rfl, List.append_cancel_left same⟩

theorem encode_ne_nil {char : Char} {rest : List Char} : encode (char :: rest) ≠ [] := by
  rw [encode_cons]
  exact List.append_ne_nil_of_left_ne_nil String.utf8EncodeChar_ne_nil _

/-- Where a text begins with the bytes of another, it begins with the other. -/
theorem prefix_of_encode {part text : List Char} (starts : encode part <+: encode text) : part <+: text := by
  induction part generalizing text with
  | nil => exact List.nil_prefix
  | cons char rest ih =>
    cases text with
    | nil => exact absurd (List.prefix_nil.mp starts) encode_ne_nil
    | cons other more =>
      obtain ⟨behind, same⟩ := starts
      rw [encode_cons, encode_cons, List.append_assoc] at same
      obtain ⟨rfl, later⟩ := utf8EncodeChar_append_inj same
      exact (List.prefix_cons_inj char).mpr (ih ⟨behind, later⟩)

theorem firstByte_encode {char : Char} {rest behind more : List UInt8} {byte : UInt8}
    (bytes : String.utf8EncodeChar char ++ rest ++ behind = byte :: more) : byte.IsUTF8FirstByte := by
  obtain ⟨first, others, parts⟩ := List.exists_cons_of_ne_nil (String.utf8EncodeChar_ne_nil (c := char))
  rw [parts] at bytes
  have same : first = byte := (List.cons.inj bytes).1
  have bound : 0 < (String.utf8EncodeChar char).length := by
    rw [parts]
    exact Nat.zero_lt_succ _
  have start : (String.utf8EncodeChar char).get ⟨0, bound⟩ = byte := by
    rw [← same]
    simp only [parts, List.get_eq_getElem, List.getElem_cons_zero]
  rw [← start]
  exact UInt8.isUTF8FirstByte_getElem_zero_utf8EncodeChar

/-- Inside a character no other one begins. -/
theorem no_firstByte {char : Char} {front more : List UInt8} {byte : UInt8}
    (bytes : String.utf8EncodeChar char = front ++ byte :: more) (later : front ≠ []) :
    ¬ byte.IsUTF8FirstByte := by
  have bound : front.length < (String.utf8EncodeChar char).length := by
    rw [bytes, List.length_append, List.length_cons]
    omega
  have place : (String.utf8EncodeChar char).get ⟨front.length, bound⟩ = byte := by
    simp only [bytes, List.get_eq_getElem, List.getElem_append_right (Nat.le_refl _), Nat.sub_self,
      List.getElem_cons_zero]
  rw [← place, List.get_eq_getElem, UInt8.isUTF8FirstByte_getElem_utf8EncodeChar]
  exact fun none => later (List.eq_nil_of_length_eq_zero none)

/-! Decoding that leaves out the bytes with which no character begins. -/

/-- The character that the bytes begin with. -/
def firstChar? (bytes : List UInt8) : Option Char := ByteArray.utf8DecodeChar? ⟨bytes.toArray⟩ 0

/-- `skip` bytes belong to the character before. -/
def decodeFrom : Nat → List UInt8 → List Char
  | _, [] => []
  | skip + 1, _ :: rest => decodeFrom skip rest
  | 0, byte :: rest =>
    match firstChar? (byte :: rest) with
    | some char => char :: decodeFrom (char.utf8Size - 1) rest
    | none => decodeFrom 0 rest

/-- `bytes.decode("utf-8", errors="ignore")`. -/
def decodeIgnoring (bytes : List UInt8) : List Char := decodeFrom 0 bytes

theorem decodeFrom_skip (behind more : List UInt8) :
    decodeFrom behind.length (behind ++ more) = decodeIgnoring more := by
  induction behind with
  | nil => rfl
  | cons byte rest ih => exact ih

theorem decode_char (char : Char) (more : List UInt8) :
    decodeIgnoring (String.utf8EncodeChar char ++ more) = char :: decodeIgnoring more := by
  obtain ⟨byte, behind, bytes⟩ := List.exists_cons_of_ne_nil (String.utf8EncodeChar_ne_nil (c := char))
  have size : char.utf8Size = behind.length + 1 := by
    rw [← String.length_utf8EncodeChar, bytes, List.length_cons]
  have begins : firstChar? (byte :: (behind ++ more)) = some char := by
    have same : (byte :: behind).toByteArray ++ ⟨more.toArray⟩ = ⟨(byte :: (behind ++ more)).toArray⟩ :=
      ByteArray.ext (by simp)
    rw [firstChar?, ← same, ← bytes]
    exact ByteArray.utf8DecodeChar?_utf8EncodeChar_append
  rw [bytes, List.cons_append, decodeIgnoring, decodeFrom, begins]
  dsimp only
  rw [size, Nat.add_sub_cancel, decodeFrom_skip]

theorem firstChar?_some {bytes : List UInt8} {char : Char} (begins : firstChar? bytes = some char) :
    ∃ more, bytes = String.utf8EncodeChar char ++ more := by
  obtain ⟨more, same⟩ := ByteArray.exists_of_utf8DecodeChar?_eq_some begins
  refine ⟨more.data.toList, ?_⟩
  have data := congrArg (fun array => array.data.toList) same
  simpa using data

/-- Of a character that is not whole nothing is left. -/
theorem decode_part {char : Char} {front part behind : List UInt8}
    (bytes : String.utf8EncodeChar char = front ++ part ++ behind) (broken : front ≠ [] ∨ behind ≠ []) :
    decodeIgnoring part = [] := by
  induction part generalizing front with
  | nil => rfl
  | cons byte rest ih =>
    have later : decodeIgnoring rest = [] := by
      have shifted : String.utf8EncodeChar char = front ++ [byte] ++ rest ++ behind := by simpa using bytes
      exact ih shifted (.inl (List.append_ne_nil_of_right_ne_nil _ (List.cons_ne_nil _ _)))
    have unknown : firstChar? (byte :: rest) = none := by
      cases begins : firstChar? (byte :: rest) with
      | none => rfl
      | some other =>
        obtain ⟨more, same⟩ := firstChar?_some begins
        by_cases start : front = []
        · subst start
          have whole : encode [other] <+: encode [char] := by
            refine ⟨more ++ behind, ?_⟩
            simp [encode, bytes, same]
          obtain ⟨_, single⟩ := prefix_of_encode whole
          cases single
          rw [List.nil_append, same, List.append_assoc] at bytes
          have nothing := List.append_eq_nil_iff.mp (List.self_eq_append_right.mp bytes)
          exact absurd nothing.2 (broken.resolve_left fun some => some rfl)
        · have parts : String.utf8EncodeChar other ++ more ++ [] = byte :: rest := by
            rw [List.append_nil, ← same]
          have inside : String.utf8EncodeChar char = front ++ byte :: (rest ++ behind) := by
            simpa using bytes
          exact absurd (firstByte_encode parts) (no_firstByte inside start)
    rw [decodeIgnoring, decodeFrom, unknown]
    exact later

/-- What is read of the front of a text is the characters that are whole in it. -/
theorem decode_take (chars : List Char) (room : Nat) :
    decodeIgnoring ((encode chars).take room) <+: chars ∧
      (encode (decodeIgnoring ((encode chars).take room))).length ≤ room := by
  induction chars generalizing room with
  | nil => simp [encode, decodeIgnoring, decodeFrom]
  | cons char rest ih =>
    rw [encode_cons]
    by_cases fits : (String.utf8EncodeChar char).length ≤ room
    · rw [List.take_append, List.take_of_length_le fits, decode_char, encode_cons, List.length_append]
      obtain ⟨front, small⟩ := ih (room - (String.utf8EncodeChar char).length)
      exact ⟨List.cons_prefix_cons.mpr ⟨rfl, front⟩, by omega⟩
    · have cut : ((String.utf8EncodeChar char ++ encode rest).take room) =
          (String.utf8EncodeChar char).take room := List.take_append_of_le_length (by omega)
      have rest_ne : (String.utf8EncodeChar char).drop room ≠ [] := by
        rw [ne_eq, List.drop_eq_nil_iff]
        omega
      have parts : String.utf8EncodeChar char = [] ++ (String.utf8EncodeChar char).take room ++
          (String.utf8EncodeChar char).drop room := by rw [List.nil_append, List.take_append_drop]
      rw [cut, decode_part parts (.inr rest_ne)]
      exact ⟨List.nil_prefix, Nat.zero_le _⟩

end Lucius.Utf8
