import Lucius.Lib.Framed
import Lucius.Pilots.Provenance

/-! Whether the text of an invariant is looked for among the values of an artifact, as they stand in
the one text the artifact is compared as. -/

namespace Lucius.InvariantText

open Framed Pilots

abbrev Parts := List (Framed.Part Char)

/-! ### The values of a payload -/

mutual

/-- The strings of a value, the keys of its objects left out. -/
def strings : Json → List String
  | .str value => [value]
  | .arr elements => elementStrings elements
  | .obj members => memberStrings members
  | _ => []

def elementStrings : List Json → List String
  | [] => []
  | first :: rest => strings first ++ elementStrings rest

def memberStrings : List (String × Json) → List String
  | [] => []
  | (_, value) :: rest => strings value ++ memberStrings rest

end

def escapedText (value : String) : List Char := value.toList.flatMap Json.escaped

def comma : Parts := frame [',', ' ']

def memberPart (member : String × Parts) : Parts :=
  frame (Json.stringText member.1 ++ [':', ' ']) ++ member.2

mutual

def parts : Json → Parts
  | .str value => [{ next := '"' }, { written := escapedText value, next := '"' }]
  | .arr elements => frame ['['] ++ (joined comma id (elementParts elements) ++ frame [']'])
  | .obj members =>
    frame ['\x7b'] ++ (joined comma memberPart (sortedBy Prod.fst (memberParts members)) ++ frame ['\x7d'])
  | other => frame (sortedText other)

def elementParts : List Json → List Parts
  | [] => []
  | first :: rest => parts first :: elementParts rest

def memberParts : List (String × Json) → List (String × Parts)
  | [] => []
  | (name, value) :: rest => (name, parts value) :: memberParts rest

end

theorem text_joined {α : Type} (separator : Parts) (write : α → Parts) (items : List α) :
    text (joined separator write items) = joined (text separator) (fun item => text (write item)) items := by
  cases items with
  | nil => rfl
  | cons first rest =>
    rw [joined, joined, text_append]
    simp only [text, List.flatMap_assoc, List.flatMap_append]

theorem sortedBy_texts (members : List (String × Parts)) :
    sortedBy Prod.fst (members.map (fun member => (member.1, text member.2))) =
      (sortedBy Prod.fst members).map (fun member => (member.1, text member.2)) := by
  unfold sortedBy
  exact (List.map_insertionSort (fun left right : String × Parts => left.1 ≤ right.1)
    (fun left right : String × List Char => left.1 ≤ right.1)
    (fun member : String × Parts => (member.1, text member.2)) members (fun _ _ _ _ => Iff.rfl)).symm

mutual

theorem text_parts : ∀ value, text (parts value) = sortedText value
  | .str value => by
    rw [parts, text_cons, text_cons, sortedText, Json.dumps, Json.stringText]
    rfl
  | .arr elements => by
    rw [parts, text_append, text_append, text_frame, text_frame, text_joined, sortedText, Json.dumps,
      ← text_elementParts elements, joined_map, comma, text_frame]
    rfl
  | .obj members => by
    rw [parts, text_append, text_append, text_frame, text_frame, text_joined, sortedText, Json.dumps,
      ← text_memberParts members, sortedBy_texts, joined_map, comma, text_frame]
    simp only [memberPart, text_append, text_frame]
    rfl
  | .null => by simp only [parts, text_frame]
  | .bool _ => by simp only [parts, text_frame]
  | .int _ => by simp only [parts, text_frame]
  | .float _ => by simp only [parts, text_frame]

theorem text_elementParts : ∀ elements, (elementParts elements).map text =
    Json.elementTexts [',', ' '] [':', ' '] elements
  | [] => rfl
  | first :: rest => by
    rw [elementParts, List.map_cons, text_parts first, text_elementParts rest]
    rfl

theorem text_memberParts : ∀ members, (memberParts members).map (fun member => (member.1, text member.2)) =
    Json.memberTexts [',', ' '] [':', ' '] members
  | [] => rfl
  | (name, value) :: rest => by
    rw [memberParts, List.map_cons, text_parts value, text_memberParts rest]
    rfl

end

mutual

theorem writes_parts : ∀ value, WritesAll ((strings value).map escapedText) (parts value)
  | .str value => by
    rw [parts, strings]
    exact ⟨by simp, by simp⟩
  | .arr elements => by
    rw [parts, strings]
    have inside := writes_joined [',', ' '] (fun _ => Iff.rfl) (writes_elementParts elements)
    have closed := writes_append (writes_frame ['[']) (writes_append inside (writes_frame [']']))
    rwa [List.append_nil, List.nil_append] at closed
  | .obj members => by
    rw [parts, strings]
    have inside := writes_joined [',', ' '] (mem_sortedBy Prod.fst _) (writes_memberParts members)
    have closed := writes_append (writes_frame ['\x7b']) (writes_append inside (writes_frame ['\x7d']))
    rwa [List.append_nil, List.nil_append] at closed
  | .null => by simpa only [parts, strings, List.map_nil] using writes_frame _
  | .bool _ => by simpa only [parts, strings, List.map_nil] using writes_frame _
  | .int _ => by simpa only [parts, strings, List.map_nil] using writes_frame _
  | .float _ => by simpa only [parts, strings, List.map_nil] using writes_frame _

theorem writes_elementParts : ∀ elements,
    WritesAll ((elementStrings elements).map escapedText) ((elementParts elements).flatMap id)
  | [] => writes_frame []
  | first :: rest => by
    rw [elementStrings, elementParts, List.map_append, List.flatMap_cons]
    exact writes_append (writes_parts first) (writes_elementParts rest)

theorem writes_memberParts : ∀ members,
    WritesAll ((memberStrings members).map escapedText) ((memberParts members).flatMap memberPart)
  | [] => writes_frame []
  | (name, value) :: rest => by
    rw [memberStrings, memberParts, List.map_append, List.flatMap_cons]
    exact writes_append (writes_append (writes_frame _) (writes_parts value)) (writes_memberParts rest)

end

/-! ### The fields of an evidence reference -/

/-- The texts of a reference; one that is not given is empty. -/
def fields (row : EvidenceReference) : List String :=
  [row.sourceType, row.path, row.claim.getD "", row.snippet.getD ""]

def quoteOf (value : String) : Char :=
  if '\'' ∈ value.toList ∧ '"' ∉ value.toList then '"' else '\''

/-- What `repr` writes between the quotes. -/
def quotedText (value : String) : List Char := value.toList.flatMap (Json.reprChar (quoteOf value))

def reasonParts (value : String) : Parts :=
  [{ next := quoteOf value }, { written := quotedText value, next := quoteOf value }]

def listParts (reasons : List String) : Parts :=
  if reasons.isEmpty then [] else frame ['['] ++ (joined comma reasonParts reasons ++ frame [']'])

def evidenceParts (row : EvidenceReference) : Parts :=
  (fields row).map (fun value => { written := value.toList, next := ' ' }) ++ listParts row.matchReasons

theorem text_reasonParts (value : String) : text (reasonParts value) = (Json.reprStr value).toList := by
  rw [reasonParts, text_cons, text_cons, Json.reprStr]
  simp [text, quotedText, quoteOf]

theorem reprElements_joined (reasons : List String) : (Json.reprElements (reasons.map .str)).toList =
    joined [',', ' '] (fun value => (Json.reprStr value).toList) reasons := by
  induction reasons with
  | nil => rfl
  | cons first rest ih =>
    cases rest with
    | nil => simp [Json.reprElements, Json.pyRepr, joined]
    | cons second others =>
      rw [List.map_cons, List.map_cons, Json.reprElements, ← List.map_cons, String.toList_append,
        String.toList_append, ih]
      · simp [Json.pyRepr, joined]
      · simp

theorem text_listParts (reasons : List String) : text (listParts reasons) =
    (if reasons.isEmpty then "" else (Json.ofTexts reasons).pyStr).toList := by
  unfold listParts
  split
  · rfl
  · rw [text_append, text_append, text_frame, text_frame, text_joined, comma, text_frame]
    simp only [text_reasonParts, ← reprElements_joined]
    simp [Json.ofTexts, Json.pyStr, Json.pyRepr]

/-! ### Artifacts -/

/-- What is written as JSON of an artifact that is no evidence reference. -/
def payload : Artifact → Json
  | .queueCheckpoint entry => .obj entry
  | artifact => .obj (("id", artifact.columns.get "id") ::
      payloadKeys.filterMap (fun key => (artifact.columns.lookup key).map (fun value => (key, value))))

def artifactParts : Artifact → Parts
  | .evidence row => evidenceParts row
  | artifact => parts (payload artifact)

/-- The strings of the compared fields, each with the letters it is written with. -/
def writtenValues : Artifact → List (String × List Char)
  | .evidence row =>
    (fields row).map (fun value => (value, value.toList)) ++
      row.matchReasons.map (fun value => (value, quotedText value))
  | artifact => (strings (payload artifact)).map (fun value => (value, escapedText value))

theorem text_artifactParts (artifact : Artifact) : text (artifactParts artifact) = artifactText artifact := by
  cases artifact with
  | evidence row =>
    have spaced (one two three four five : String) : String.intercalate " " [one, two, three, four, five] =
        one ++ " " ++ two ++ " " ++ three ++ " " ++ four ++ " " ++ five := rfl
    rw [artifactParts, evidenceParts, text_append, text_listParts, artifactText, spaced]
    simp [text, fields]
  | _ => exact text_parts _

theorem writes_reasons (reasons : List String) : WritesAll (reasons.map quotedText) (listParts reasons) := by
  have flat : WritesAll (reasons.map quotedText) (reasons.flatMap reasonParts) := by
    induction reasons with
    | nil => exact writes_frame []
    | cons first rest ih =>
      have own : WritesAll [quotedText first] (reasonParts first) :=
        ⟨by simp [reasonParts], by simp [reasonParts]⟩
      exact writes_append own ih
  unfold listParts
  split
  · rename_i none
    rw [List.isEmpty_iff.mp none]
    exact writes_frame []
  · have inside := writes_joined [',', ' '] (fun _ => Iff.rfl) flat
    have closed := writes_append (writes_frame ['[']) (writes_append inside (writes_frame [']']))
    rwa [List.append_nil, List.nil_append] at closed

theorem writes_artifact (artifact : Artifact) :
    WritesAll ((writtenValues artifact).map Prod.snd) (artifactParts artifact) := by
  cases artifact with
  | evidence row =>
    have own : WritesAll ((fields row).map String.toList)
        ((fields row).map (fun value => { written := value.toList, next := ' ' })) := by
      refine ⟨fun part member => ?_, by simp⟩
      obtain ⟨value, listed, rfl⟩ := List.mem_map.mp member
      exact .inr (List.mem_map_of_mem listed)
    have all := writes_append own (writes_reasons row.matchReasons)
    simpa [writtenValues, artifactParts, evidenceParts, Function.comp_def] using all
  | _ => simpa [writtenValues, artifactParts, Function.comp_def] using writes_parts _

theorem infix_artifactText {wanted : List Char} (some : wanted ≠ []) (artifact : Artifact) :
    wanted <:+: artifactText artifact ↔
    (∃ entry ∈ writtenValues artifact, wanted <:+: entry.2) ∨ Straddles wanted (artifactParts artifact) := by
  rw [← text_artifactParts, infix_text_iff some, infix_written_iff some (writes_artifact artifact)]
  simp only [List.mem_map, exists_exists_and_eq_and]

/-- A claim that names nothing but an invariant. -/
def invariantOnly (invariant : String) : EvidenceDemand := { expectedInvariant := .str invariant }

theorem semanticSupportError_invariant (artifact : Artifact) (invariant : String) :
    semanticSupportError artifact (invariantOnly invariant) =
      .ok (if invariant = "" ∨ invariant.toList <:+: artifactText artifact then none
        else some "EVIDENCE_PAYLOAD_INSUFFICIENT") := by
  have unasked : lacks (artifactText artifact) .null = .ok false := rfl
  have asked : lacks (artifactText artifact) (.str invariant) =
      .ok (!decide (invariant = "" ∨ invariant.toList <:+: artifactText artifact)) := by
    unfold lacks
    by_cases empty : invariant = ""
    · rw [empty]
      rfl
    · have given : (Json.str invariant).truthy = true := by simp [Json.truthy, empty]
      rw [if_pos given]
      simp [empty]
  have result : Queue.upper "" = "" := by decide
  unfold semanticSupportError invariantOnly
  simp only [Option.getD_none, result, unasked, asked, bind, Except.bind]
  by_cases found : invariant = "" ∨ invariant.toList <:+: artifactText artifact
  · simp [found, pure, Except.pure]
  · simp [found, pure, Except.pure]

/-- The invariant is accepted where a value has it, and refused where it says something that none has. -/
structure Matched (artifact : Artifact) (invariant : String) : Prop where
  accepted : (∃ entry ∈ writtenValues artifact, invariant.toList <:+: entry.1.toList) →
    semanticSupportError artifact (invariantOnly invariant) = .ok none
  refused : invariant ≠ "" → (∀ entry ∈ writtenValues artifact, ¬ invariant.toList <:+: entry.1.toList) →
    semanticSupportError artifact (invariantOnly invariant) = .ok (some "EVIDENCE_PAYLOAD_INSUFFICIENT")

/-- A value has the text, but as it is written none does, nor does the text stand astride a letter
between the values. -/
def LostInWriting (artifact : Artifact) (invariant : String) : Prop :=
  (∃ entry ∈ writtenValues artifact, invariant.toList <:+: entry.1.toList) ∧
    (∀ entry ∈ writtenValues artifact, ¬ invariant.toList <:+: entry.2) ∧
    ¬ Straddles invariant.toList (artifactParts artifact)

/-- No value has the text, but one as it is written does, or the text stands astride a key, a number or
a mark between the values. -/
def FoundBesideValues (artifact : Artifact) (invariant : String) : Prop :=
  (∀ entry ∈ writtenValues artifact, ¬ invariant.toList <:+: entry.1.toList) ∧
    ((∃ entry ∈ writtenValues artifact, invariant.toList <:+: entry.2) ∨
      Straddles invariant.toList (artifactParts artifact))

def commentedRubric (comment : String) : Artifact :=
  .rubric { id := "LRUBRIC_000001", status := .captured, others := [("comments", .str comment)] }

end Lucius.InvariantText
