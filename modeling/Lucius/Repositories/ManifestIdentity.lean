import Lucius.Domain.JsonText
import Lucius.Lib.Sorting
import Lucius.Repositories.LocalGit

/-! The identity of a manifest, and what two manifests of one identity have in common.

The identity is the digest of a JSON text. The text can be read back, so where the digest tells
texts apart, it tells the recorded files apart. -/

namespace Lucius.Worktree

open Json

/-- What the identity of a manifest says of a file. -/
structure ManifestEntry where
  path : String
  sizeBytes : Nat
  contentHash : Option String
  gitStatus : String
  isSensitive : Bool
  isBinary : Bool
  deriving DecidableEq, Repr

def FileRecord.entry (record : FileRecord) : ManifestEntry where
  path := record.path
  sizeBytes := record.sizeBytes
  contentHash := record.contentHash
  gitStatus := record.gitStatus
  isSensitive := record.isSensitive
  isBinary := record.isBinary

def ManifestEntry.json (entry : ManifestEntry) : Json :=
  .obj [("path", .str entry.path), ("size_bytes", .int entry.sizeBytes),
    ("content_hash", Json.ofOptionalText entry.contentHash), ("git_status", .str entry.gitStatus),
    ("is_sensitive", .bool entry.isSensitive), ("is_binary", .bool entry.isBinary)]

def stableJsonText (payload : Json) : List Char := dumps [','] [':'] payload

def stableJsonHash (sha256 : Bytes → String) (payload : Json) : String :=
  sha256 (utf8 (String.ofList (stableJsonText payload)))

def manifestEntries (records : List FileRecord) : List ManifestEntry :=
  (sortedBy FileRecord.path records).map FileRecord.entry

def manifestIdentity (sha256 : Bytes → String) (records : List FileRecord) : String :=
  stableJsonHash sha256 (.arr ((manifestEntries records).map ManifestEntry.json))

/-! ### The text of an entry -/

theorem sortedBy_members {β : Type} (path size hash status sensitive binary : β) :
    sortedBy Prod.fst [("path", path), ("size_bytes", size), ("content_hash", hash),
      ("git_status", status), ("is_sensitive", sensitive), ("is_binary", binary)] =
    [("content_hash", hash), ("git_status", status), ("is_binary", binary),
      ("is_sensitive", sensitive), ("path", path), ("size_bytes", size)] := by
  simp [sortedBy, List.insertionSort, List.orderedInsert]

def boolText (value : Bool) : List Char := if value then "true".toList else "false".toList

def hashText (value : Option String) : List Char := value.elim "null".toList stringText

/-- The parts of the text of an entry, in the order of their keys. -/
def entryText (parts : Option String × String × Bool × Bool × String × Nat) : List Char :=
  "\x7b\"content_hash\":".toList ++ (hashText parts.1 ++ (",\"git_status\":".toList ++
    (stringText parts.2.1 ++ (",\"is_binary\":".toList ++ (boolText parts.2.2.1 ++
      (",\"is_sensitive\":".toList ++ (boolText parts.2.2.2.1 ++ (",\"path\":".toList ++
        (stringText parts.2.2.2.2.1 ++ (",\"size_bytes\":".toList ++
          (Nat.toDigits 10 parts.2.2.2.2.2 ++ ['\x7d'])))))))))))

def ManifestEntry.parts (entry : ManifestEntry) : Option String × String × Bool × Bool × String × Nat :=
  (entry.contentHash, entry.gitStatus, entry.isBinary, entry.isSensitive, entry.path, entry.sizeBytes)

theorem parts_injective : Function.Injective ManifestEntry.parts := by
  rintro ⟨⟩ ⟨⟩ same
  simp only [ManifestEntry.parts, Prod.mk.injEq] at same
  simp [same]

theorem dumps_json (entry : ManifestEntry) : dumps [','] [':'] entry.json = entryText entry.parts := by
  have hash : dumps [','] [':'] (Json.ofOptionalText entry.contentHash) = hashText entry.contentHash := by
    cases entry.contentHash <;> rfl
  have flag (value : Bool) : dumps [','] [':'] (.bool value) = boolText value := by
    cases value <;> rfl
  have size : dumps [','] [':'] (.int entry.sizeBytes) = Nat.toDigits 10 entry.sizeBytes := by
    rw [dumps]
    exact Nat.toList_repr
  have text (value : String) : dumps [','] [':'] (.str value) = stringText value := by rw [dumps]
  have marks : "\x7b\"content_hash\":".toList = ['\x7b'] ++ (stringText "content_hash" ++ [':']) ∧
      ",\"git_status\":".toList = [','] ++ (stringText "git_status" ++ [':']) ∧
      ",\"is_binary\":".toList = [','] ++ (stringText "is_binary" ++ [':']) ∧
      ",\"is_sensitive\":".toList = [','] ++ (stringText "is_sensitive" ++ [':']) ∧
      ",\"path\":".toList = [','] ++ (stringText "path" ++ [':']) ∧
      ",\"size_bytes\":".toList = [','] ++ (stringText "size_bytes" ++ [':']) := by
    decide +kernel
  unfold ManifestEntry.json entryText ManifestEntry.parts
  rw [dumps]
  simp only [Json.memberTexts, sortedBy_members, joined, hash, flag, size, text, marks,
    List.flatMap_cons, List.flatMap_nil, List.append_assoc, List.append_nil, List.cons_append,
    List.nil_append]

theorem readable_boolText : Readable boolText :=
  Readable.bool fun _ _ same => absurd (List.cons.inj same).1 (by decide)

theorem readable_hashText : Readable hashText :=
  Json.readable_stringText.option fun _ _ _ same => absurd (List.cons.inj same).1 (by decide)

theorem readable_entryText : Readable entryText :=
  .behind _ (.pair readable_hashText (.behind _ (.pair Json.readable_stringText (.behind _
    (.pair readable_boolText (.behind _ (.pair readable_boolText (.behind _
      (.pair Json.readable_stringText (.behind _ (Json.readable_digits (by decide))))))))))))

/-! ### The identity -/

theorem utf8_injective : Function.Injective utf8 := by
  intro left right same
  have bytes : left.toUTF8 = right.toUTF8 := by
    apply ByteArray.ext
    exact Array.toList_inj.mp same
  exact String.toByteArray_inj.mp bytes

theorem stableJsonText_arr (entries : List ManifestEntry) :
    stableJsonText (.arr (entries.map ManifestEntry.json)) =
      ['['] ++ (joined [','] (fun entry => entryText entry.parts) entries ++ [']']) := by
  have texts : Json.elementTexts [','] [':'] (entries.map ManifestEntry.json) =
      entries.map (fun entry => entryText entry.parts) := by
    rw [Json.elementTexts_map, List.map_map]
    exact List.map_congr_left fun entry _ => dumps_json entry
  unfold stableJsonText
  rw [dumps, texts, joined_map]
  rfl

theorem manifestIdentity_iff {sha256 : Bytes → String} (distinct : Function.Injective sha256)
    {first second : List FileRecord} :
    manifestIdentity sha256 first = manifestIdentity sha256 second ↔
      manifestEntries first = manifestEntries second := by
  constructor
  · intro same
    have texts : stableJsonText (.arr ((manifestEntries first).map ManifestEntry.json)) =
        stableJsonText (.arr ((manifestEntries second).map ManifestEntry.json)) := by
      have strings := utf8_injective (distinct same)
      rw [← String.toList_ofList (l := stableJsonText _), strings, String.toList_ofList]
    have readable : Readable (fun entries : List ManifestEntry =>
        ['['] ++ (joined [','] (fun entry => entryText entry.parts) entries ++ [']'])) :=
      .behind _ (.listed (readable_entryText.comp parts_injective)
        (fun _ _ _ same => absurd (List.cons.inj same).1 (by decide))
        (fun _ _ same => absurd (List.cons.inj same).1 (by decide)))
    rw [stableJsonText_arr, stableJsonText_arr] at texts
    exact readable.injective texts
  · intro same
    unfold manifestIdentity
    rw [same]

end Lucius.Worktree
