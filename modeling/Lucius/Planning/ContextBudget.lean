import Lucius.Planning.ProjectIsolation
import Mathlib.Algebra.Order.BigOperators.Group.List

/-! The bytes of the texts in a planning context. A text is cut to a number of characters and
each of the two kinds is counted by itself, so the limits hold where the cut texts take no more
bytes than characters and the first rows of the two kinds have room together. -/

namespace Lucius.Planning

/-- The front of a list that the limits on its items and its bytes leave room for. -/
def Affordable {α : Type} (most bytes : Int) (size : α → Nat) (taken total : Nat) (front : List α) :
    Prop :=
  front = [] ∨ (((taken + front.length : Nat) : Int) ≤ most ∧
    ((total + (front.map size).sum : Nat) : Int) ≤ bytes)

theorem affordable_cons {α : Type} {most bytes : Int} {size : α → Nat} {taken total : Nat} {item : α}
    {front : List α} :
    Affordable most bytes size taken total (item :: front) ↔
      (¬(most ≤ taken ∨ bytes < (total + size item : Nat)) ∧
        Affordable most bytes size (taken + 1) (total + size item) front) := by
  unfold Affordable
  rw [List.map_cons, List.sum_cons, List.length_cons]
  constructor
  · intro affordable
    have ⟨few, small⟩ := affordable.resolve_left (List.cons_ne_nil _ _)
    exact ⟨by omega, .inr ⟨by omega, by omega⟩⟩
  · rintro ⟨room, empty | ⟨few, small⟩⟩
    · subst empty
      simp only [List.length_nil, List.map_nil, List.sum_nil]
      exact .inr ⟨by omega, by omega⟩
    · exact .inr ⟨by omega, by omega⟩

theorem prefix_takeWithin {α : Type} {most bytes : Int} {size : α → Nat} {taken total : Nat}
    {items front : List α} :
    front <+: takeWithin most bytes size taken total items ↔
      front <+: items ∧ Affordable most bytes size taken total front := by
  induction items generalizing taken total front with
  | nil =>
    rw [takeWithin]
    constructor
    · intro inside
      have empty := List.prefix_nil.mp inside
      exact ⟨inside, .inl empty⟩
    · exact And.left
  | cons item rest ih =>
    cases front with
    | nil => simp [Affordable]
    | cons first others =>
      rw [takeWithin, affordable_cons]
      split
      · next full =>
          constructor
          · intro inside
            exact absurd (List.prefix_nil.mp inside) (List.cons_ne_nil _ _)
          · rintro ⟨inside, room, -⟩
            rw [(List.cons_prefix_cons.mp inside).1] at room
            exact absurd full room
      · next room =>
          rw [List.cons_prefix_cons, List.cons_prefix_cons, ih]
          constructor
          · rintro ⟨same, inside, affordable⟩
            subst same
            exact ⟨⟨rfl, inside⟩, room, affordable⟩
          · rintro ⟨⟨same, inside⟩, -, affordable⟩
            subst same
            exact ⟨rfl, inside, affordable⟩

theorem takeWithin_map {α β : Type} (most bytes : Int) (size : β → Nat) (shown : α → β)
    (taken total : Nat) (items : List α) :
    takeWithin most bytes size taken total (items.map shown) =
      (takeWithin most bytes (fun item => size (shown item)) taken total items).map shown := by
  induction items generalizing taken total with
  | nil => rfl
  | cons item rest ih =>
    rw [List.map_cons, takeWithin, takeWithin]
    split
    · rfl
    · rw [ih, List.map_cons]

/-! Texts cut to a number of characters -/

theorem utf8ByteSize_ofList (chars : List Char) :
    (String.ofList chars).utf8ByteSize = (chars.map Char.utf8Size).sum := by
  induction chars with
  | nil => rfl
  | cons char rest ih =>
    have split : String.ofList (char :: rest) = String.singleton char ++ String.ofList rest := by
      apply String.toList_injective
      simp
    rw [split, String.utf8ByteSize_append, ih, String.utf8ByteSize_singleton]
    rfl

theorem length_le_bytes (chars : List Char) : chars.length ≤ (chars.map Char.utf8Size).sum := by
  induction chars with
  | nil => exact Nat.le_refl 0
  | cons char rest ih =>
    rw [List.map_cons, List.sum_cons, List.length_cons]
    have positive := Char.utf8Size_pos char
    omega

theorem single_bytes {chars : List Char} (small : (chars.map Char.utf8Size).sum ≤ chars.length) :
    ∀ char ∈ chars, char.utf8Size = 1 := by
  induction chars with
  | nil => exact fun _ member => by cases member
  | cons first rest ih =>
    rw [List.map_cons, List.sum_cons, List.length_cons] at small
    have positive := Char.utf8Size_pos first
    have later := length_le_bytes rest
    intro char member
    rcases List.mem_cons.mp member with same | inside
    · rw [same]
      omega
    · exact ih (by omega) char inside

/-- The text is within the limit, or as far as the limit goes has only characters of one byte. -/
def InBytes (limit : Int) (text : String) : Prop :=
  (text.utf8ByteSize : Int) ≤ limit ∨
    (0 ≤ limit ∧ ∀ char ∈ text.toList.take limit.toNat, char.utf8Size = 1)

theorem bytes_sublist {left right : List Char} (inside : left.Sublist right) :
    (left.map Char.utf8Size).sum ≤ (right.map Char.utf8Size).sum :=
  List.Sublist.sum_le_sum (inside.map _) (fun _ _ => Nat.zero_le _)

theorem bytes_toList (text : String) : text.utf8ByteSize = (text.toList.map Char.utf8Size).sum := by
  rw [← utf8ByteSize_ofList, String.ofList_toList]

theorem sliceTo_bytes (limit : Int) (text : String) :
    ((sliceTo limit text).utf8ByteSize : Int) ≤ limit ↔ InBytes limit text := by
  unfold sliceTo InBytes
  rw [utf8ByteSize_ofList, bytes_toList]
  by_cases negative : limit < 0
  · constructor
    · intro small
      omega
    · rintro (small | ⟨positive, -⟩)
      · omega
      · omega
  · rw [if_pos (by omega)]
    constructor
    · intro small
      by_cases short : text.toList.length ≤ limit.toNat
      · rw [List.take_of_length_le short] at small
        exact .inl small
      · right
        refine ⟨by omega, single_bytes ?_⟩
        rw [List.length_take]
        omega
    · rintro (small | ⟨-, single⟩)
      · have front := bytes_sublist (List.take_sublist limit.toNat text.toList)
        omega
      · rw [List.map_congr_left single, List.map_const', List.sum_replicate_nat, Nat.mul_one,
          List.length_take]
        omega

/-! The rows in the order they are offered, and the texts they have -/

def snippetText (row : EvidenceReferenceRow) : String := row.snippet.getD ""

def cutBytes {α : Type} (budget : PlanningContextBudget) (text : α → String) (row : α) : Nat :=
  (sliceTo budget.maxPerSourceBytes (text row)).utf8ByteSize

def rankedEvidence (rows : List EvidenceReferenceRow) : List EvidenceReferenceRow :=
  sortedBy (fun row : EvidenceReferenceRow => toLex (-row.relevanceScore, row.id)) rows

def rankedMemory (rows : List MemoryEntryRow) : List MemoryEntryRow := sortedBy memorySortKey rows

def snippetBytes (item : PlanningEvidenceItem) : Nat := (item.snippet.getD "").utf8ByteSize

def statementBytes (item : PlanningMemoryItem) : Nat := item.statement.utf8ByteSize

/-- The limits on what is placed: each text by itself, and all of them together. -/
structure WithinBudget (budget : PlanningContextBudget) (evidence : List PlanningEvidenceItem)
    (memory : List PlanningMemoryItem) : Prop where
  snippets : ∀ item ∈ evidence, (snippetBytes item : Int) ≤ budget.maxPerSourceBytes
  statements : ∀ item ∈ memory, (statementBytes item : Int) ≤ budget.maxPerSourceBytes
  together : (((evidence.map snippetBytes).sum + (memory.map statementBytes).sum : Nat) : Int) ≤
    budget.maxTotalContextBytes

/-- The first rows of a kind that its limits leave room for. -/
structure First {α : Type} (budget : PlanningContextBudget) (most : Int) (text : α → String)
    (ranked front : List α) : Prop where
  leading : front <+: ranked
  affordable : Affordable most budget.maxTotalContextBytes (cutBytes budget text) 0 0 front

/-- First rows that each kind has room for have room together, and the texts of such rows take no
more bytes than they may have characters. -/
structure RoomForBoth (budget : PlanningContextBudget) (rows : List EvidenceReferenceRow)
    (memories : List MemoryEntryRow) : Prop where
  together : ∀ front back,
    First budget budget.maxEvidenceItems snippetText (rankedEvidence rows) front →
    First budget budget.maxMemoryItems MemoryEntryRow.statement (rankedMemory memories) back →
    (((front.map (cutBytes budget snippetText)).sum +
      (back.map (cutBytes budget MemoryEntryRow.statement)).sum : Nat) : Int) ≤
        budget.maxTotalContextBytes
  snippets : ∀ front, First budget budget.maxEvidenceItems snippetText (rankedEvidence rows) front →
    ∀ row ∈ front, InBytes budget.maxPerSourceBytes (snippetText row)
  statements : ∀ back,
    First budget budget.maxMemoryItems MemoryEntryRow.statement (rankedMemory memories) back →
    ∀ row ∈ back, InBytes budget.maxPerSourceBytes row.statement

def placedRows {α : Type} (budget : PlanningContextBudget) (most : Int) (text : α → String)
    (ranked : List α) : List α :=
  takeWithin most budget.maxTotalContextBytes (cutBytes budget text) 0 0 ranked

theorem first_iff {α : Type} {budget : PlanningContextBudget} {most : Int} {text : α → String}
    {ranked front : List α} :
    First budget most text ranked front ↔ front <+: placedRows budget most text ranked := by
  rw [placedRows, prefix_takeWithin]
  exact ⟨fun first => ⟨first.leading, first.affordable⟩, fun both => ⟨both.1, both.2⟩⟩

theorem placedRows_first {α : Type} (budget : PlanningContextBudget) (most : Int) (text : α → String)
    (ranked : List α) : First budget most text ranked (placedRows budget most text ranked) :=
  first_iff.mpr List.prefix_rfl

theorem boundedEvidence_items (rows : List EvidenceReferenceRow) (budget : PlanningContextBudget) :
    (boundedEvidence rows budget).items =
      (placedRows budget budget.maxEvidenceItems snippetText (rankedEvidence rows)).map
        (evidenceItem budget) :=
  takeWithin_map _ _ _ _ _ _ _

theorem boundedMemory_items (rows : List MemoryEntryRow) (budget : PlanningContextBudget) :
    (boundedMemory rows budget).items =
      (placedRows budget budget.maxMemoryItems MemoryEntryRow.statement (rankedMemory rows)).map
        (memoryItem budget) :=
  takeWithin_map _ _ _ _ _ _ _

theorem sum_leading {α : Type} {size : α → Nat} {front whole : List α} (leading : front <+: whole) :
    (front.map size).sum ≤ (whole.map size).sum :=
  List.Sublist.sum_le_sum (leading.sublist.map _) (fun _ _ => Nat.zero_le _)

/-- What is placed is within the limits exactly where the first rows of both kinds have room
together and in bytes. -/
theorem within_budget_iff (rows : List EvidenceReferenceRow) (memories : List MemoryEntryRow)
    (budget : PlanningContextBudget) :
    WithinBudget budget (boundedEvidence rows budget).items (boundedMemory memories budget).items ↔
      RoomForBoth budget rows memories := by
  rw [boundedEvidence_items, boundedMemory_items]
  have evidenceSum (front : List EvidenceReferenceRow) :
      (front.map (evidenceItem budget)).map snippetBytes = front.map (cutBytes budget snippetText) := by
    rw [List.map_map]
    rfl
  have memorySum (back : List MemoryEntryRow) :
      (back.map (memoryItem budget)).map statementBytes =
        back.map (cutBytes budget MemoryEntryRow.statement) := by
    rw [List.map_map]
    rfl
  constructor
  · intro within
    have total := within.together
    rw [evidenceSum, memorySum] at total
    exact {
      together := by
        intro front back first second
        have one := @sum_leading _ (cutBytes budget snippetText) _ _ (first_iff.mp first)
        have two := @sum_leading _ (cutBytes budget MemoryEntryRow.statement) _ _ (first_iff.mp second)
        omega
      snippets := by
        intro front first row member
        have placed := (first_iff.mp first).subset member
        have held : ((sliceTo budget.maxPerSourceBytes (snippetText row)).utf8ByteSize : Int) ≤ _ :=
          within.snippets (evidenceItem budget row) (List.mem_map_of_mem placed)
        exact (sliceTo_bytes _ _).mp held
      statements := by
        intro back second row member
        have placed := (first_iff.mp second).subset member
        have held : ((sliceTo budget.maxPerSourceBytes row.statement).utf8ByteSize : Int) ≤ _ :=
          within.statements (memoryItem budget row) (List.mem_map_of_mem placed)
        exact (sliceTo_bytes _ _).mp held }
  · intro room
    exact {
      snippets := by
        intro item member
        obtain ⟨row, placed, same⟩ := List.mem_map.mp member
        subst same
        exact (sliceTo_bytes _ _).mpr (room.snippets _ (placedRows_first _ _ _ _) row placed)
      statements := by
        intro item member
        obtain ⟨row, placed, same⟩ := List.mem_map.mp member
        subst same
        exact (sliceTo_bytes _ _).mpr (room.statements _ (placedRows_first _ _ _ _) row placed)
      together := by
        rw [evidenceSum, memorySum]
        exact room.together _ _ (placedRows_first _ _ _ _) (placedRows_first _ _ _ _) }

def accentedEvidence : EvidenceReferenceRow where
  id := "EV_000001"
  projectId := "LPROJ_000001"
  snippet := some "éé"

def plainMemory : MemoryEntryRow where
  id := "MEM_000001"
  scope := .project
  statement := "cd"

/-- Two accented letters take four bytes where two are allowed, and with a memory of two bytes
they take six where five are allowed, though each kind has room for its own. -/
theorem budget_exceeded :
    ¬WithinBudget { maxPerSourceBytes := 2, maxTotalContextBytes := 5 }
      (boundedEvidence [accentedEvidence] { maxPerSourceBytes := 2, maxTotalContextBytes := 5 }).items
      (boundedMemory [plainMemory] { maxPerSourceBytes := 2, maxTotalContextBytes := 5 }).items := by
  intro within
  have placed : ((boundedEvidence [accentedEvidence]
      { maxPerSourceBytes := 2, maxTotalContextBytes := 5 }).items.map snippetBytes) = [4] ∧
      ((boundedMemory [plainMemory]
        { maxPerSourceBytes := 2, maxTotalContextBytes := 5 }).items.map statementBytes) = [2] := by
    decide +kernel
  have together := within.together
  rw [placed.1, placed.2] at together
  revert together
  decide

end Lucius.Planning
