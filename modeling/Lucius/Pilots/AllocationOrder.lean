import Lucius.Lib.Decimals
import Lucius.Persistence.Allocation
import Lucius.Pilots.Provenance
import Lucius.Runtime.DispatchFairness
import Lucius.Runtime.Release

/-! Whether identifiers are ordered as their numbers, and accepted as evidence. -/

namespace Lucius.AllocationOrder

open Decimals Pilots PublicIds Router Lucius.Runtime

def formatPublicId (entity : String) (number : Nat) : Except PyExc String :=
  match entityPrefix entity with
  | none => .error (.valueError ("Unknown Lucius entity type: " ++ entity))
  | some idPrefix =>
    if number < 1 then .error (.valueError "Lucius public IDs start at 1")
    else .ok (formatId idPrefix number)

structure TakenSnapshot where
  id : String
  repositoryId : String
  mode : String
  capturedAt : Timestamp

def snapshotKey (row : TakenSnapshot) : ℕ ×ₗ String := toLex (row.capturedAt, row.id)

def latestSnapshot (rows : List TakenSnapshot) (repositoryId mode : String) : Option TakenSnapshot :=
  (sortedBy snapshotKey (rows.filter
    (fun row => decide (row.repositoryId = repositoryId ∧ row.mode = mode)))).getLast?

/-- The identifiers of the entity may name evidence. -/
def NamesArtifacts (entity : String) : Prop :=
  ∃ idPrefix ∈ artifactPrefixTypes.map Prod.fst, entityPrefix entity = some idPrefix

/-- Two rows that differ in nothing a query for the newest one asks, their identifiers apart. -/
structure Tied (one two : AuditEventRow) : Prop where
  task : one.taskId = two.taskId
  kind : one.eventType = two.eventType
  action : one.action = two.action
  time : one.timestamp = two.timestamp

/-- Among rows of one time, every query takes the row of the second identifier for newer. -/
structure TiesBroken (first second : String) : Prop where
  audit : ∀ audits taskId eventTypes action one two, one.id = first → two.id = second → two ∈ audits →
    Tied one two → latestTaskAudit audits taskId eventTypes action ≠ some one
  readiness : ∀ audits taskId eventType one two, one.id = first → two.id = second → two ∈ audits →
    Tied one two → latestTaskEvent audits taskId eventType ≠ some one
  dispatched : ∀ audits one two limit, one.id = first → two.id = second → one.timestamp = two.timestamp →
    (handOvers audits).Perm [one, two] →
    recentStartedProjects audits limit =
      ([two, one].take limit).filterMap (fun row => row.projectId.filter (fun project => project ≠ ""))
  snapshot : ∀ rows repositoryId mode (one two : TakenSnapshot), one.id = first → two.id = second →
    two ∈ rows → one.repositoryId = two.repositoryId → one.mode = two.mode →
    one.capturedAt = two.capturedAt → latestSnapshot rows repositoryId mode ≠ some one

/-- The first identifier comes before the second, and both may name evidence where those of the
entity may. -/
structure InOrder (entity first second : String) : Prop where
  broken : TiesBroken first second
  accepted : NamesArtifacts entity → isEvidenceId first = true ∧ isEvidenceId second = true

/-- How many digits an identifier writes of a number. -/
def places (number : Nat) : Nat := max 6 (Nat.toDigits 10 number).length

/-- The number is not below the earlier one even with its missing places filled up. -/
def Aligned (earlier later : Nat) : Prop := earlier * 10 ^ (places later - places earlier) ≤ later

/-! ### The queries -/

section

variable {first second : String}

theorem key_lt {one two : AuditEventRow} (time : one.timestamp = two.timestamp) (less : one.id < two.id) :
    auditKey one < auditKey two :=
  Prod.Lex.toLex_lt_toLex.mpr (Or.inr ⟨time, less⟩)

theorem tiesBroken_of_lt (less : first < second) : TiesBroken first second where
  audit := by
    rintro audits taskId eventTypes action one two rfl rfl member tied latest
    unfold latestTaskAudit at latest
    have inside := List.mem_filter.mp ((mem_sortedBy _ _ _).mp (List.mem_of_getLast? latest))
    have listed : two ∈ audits.filter (fun row =>
        decide (row.taskId = some taskId) && decide (row.eventType ∈ eventTypes) &&
          action.all (fun named => decide (row.action = named))) := by
      have matching := inside.2
      rw [tied.task, tied.kind, tied.action] at matching
      exact List.mem_filter.mpr ⟨member, matching⟩
    exact absurd (key_lt tied.time less) (not_lt.mpr (sortedBy_last latest two listed))
  readiness := by
    rintro audits taskId eventType one two rfl rfl member tied latest
    unfold latestTaskEvent at latest
    have inside := List.mem_filter.mp ((mem_sortedBy _ _ _).mp (List.mem_of_getLast? latest))
    have listed : two ∈ audits.filter
        (fun row => decide (row.taskId = some taskId ∧ row.eventType = eventType)) := by
      have matching := inside.2
      rw [tied.task, tied.kind] at matching
      exact List.mem_filter.mpr ⟨member, matching⟩
    exact absurd (key_lt tied.time less) (not_lt.mpr (sortedBy_last latest two listed))
  dispatched := by
    rintro audits one two limit rfl rfl time pair
    have before : auditKey one < auditKey two := key_lt time less
    have ordered : sortedBy auditKey (handOvers audits) = [one, two] := by
      refine ordered_unique ((List.perm_insertionSort _ _).trans pair) ?_ (sortedBy_pairwise _ _) ?_
      · intro left inLeft right inRight same
        have oneOf {row : AuditEventRow} (member : row ∈ sortedBy auditKey (handOvers audits)) :
            row = one ∨ row = two := by
          simpa using pair.mem_iff.mp ((mem_sortedBy _ _ _).mp member)
        rcases oneOf inLeft with rfl | rfl <;> rcases oneOf inRight with rfl | rfl
        · rfl
        · exact absurd same before.ne
        · exact absurd same before.ne'
        · rfl
      · simpa using before.le
    have read : recentStartedProjects audits limit =
        ((sortedBy auditKey (handOvers audits)).reverse.take limit).filterMap
          (fun row => row.projectId.filter (fun project => project ≠ "")) := rfl
    rw [read, ordered]
    rfl
  snapshot := by
    rintro rows repositoryId mode one two rfl rfl member repository same time latest
    unfold latestSnapshot at latest
    have inside := List.mem_filter.mp ((mem_sortedBy _ _ _).mp (List.mem_of_getLast? latest))
    have listed : two ∈ rows.filter
        (fun row => decide (row.repositoryId = repositoryId ∧ row.mode = mode)) := by
      have matching := inside.2
      rw [repository, same] at matching
      exact List.mem_filter.mpr ⟨member, matching⟩
    have before : snapshotKey one < snapshotKey two := Prod.Lex.toLex_lt_toLex.mpr (Or.inr ⟨time, less⟩)
    exact absurd before (not_lt.mpr (sortedBy_last latest two listed))

theorem lt_of_tiesBroken (broken : TiesBroken first second) : first < second := by
  by_contra after
  let one : TakenSnapshot := { id := first, repositoryId := "", mode := "", capturedAt := 0 }
  let two : TakenSnapshot := { one with id := second }
  refine broken.snapshot [two, one] "" "" one two rfl rfl List.mem_cons_self rfl rfl rfl ?_
  have before : snapshotKey two ≤ snapshotKey one :=
    Prod.Lex.toLex_le_toLex.mpr (Or.inr ⟨rfl, not_lt.mp after⟩)
  have kept : [two, one].filter (fun row => decide (row.repositoryId = "" ∧ row.mode = "")) = [two, one] := rfl
  unfold latestSnapshot
  rw [kept]
  simp [sortedBy, before]

theorem tiesBroken_iff : TiesBroken first second ↔ first < second :=
  ⟨lt_of_tiesBroken, tiesBroken_of_lt⟩

end

/-! ### The order of the texts -/

theorem padded_length (number : Nat) : (Timestamp.padded 6 number).toList.length = places number := by
  unfold Timestamp.padded places
  have written : (toString number).toList = Nat.toDigits 10 number := Nat.toList_repr
  have counted : (toString number).length = (Nat.toDigits 10 number).length := by
    rw [← written, String.length_toList]
  rw [String.toList_append, String.toList_ofList, List.length_append, List.length_replicate, written,
    counted]
  omega

theorem places_mono {earlier later : Nat} (before : earlier ≤ later) : places earlier ≤ places later := by
  have most : (Nat.toDigits 10 earlier).length ≤ (Nat.toDigits 10 later).length := by
    have bound := (Nat.length_toDigits_le_iff (by decide) Nat.length_toDigits_pos).mp
      (le_refl (Nat.toDigits 10 later).length)
    exact (Nat.length_toDigits_le_iff (by decide) Nat.length_toDigits_pos).mpr (before.trans_lt bound)
  unfold places
  omega

theorem places_six (number : Nat) : places number = 6 ↔ number < 10 ^ 6 := by
  rw [← Nat.length_toDigits_le_iff (b := 10) (by decide) (by decide : 0 < 6)]
  unfold places
  omega

theorem append_lt_append_iff (front left right : List Char) :
    front ++ left < front ++ right ↔ left < right := by
  induction front with
  | nil => rfl
  | cons char rest ih => simp only [List.cons_append, List.cons_lt_cons_iff, lt_irrefl, ih, true_and, false_or]

theorem formatId_lt {idPrefix : String} {earlier later : Nat} (before : earlier < later) :
    formatId idPrefix earlier < formatId idPrefix later ↔ Aligned earlier later := by
  have shared (number : Nat) : (formatId idPrefix number).toList =
      (idPrefix ++ "_").toList ++ (Timestamp.padded 6 number).toList := by
    rw [formatId, String.toList_append]
  have digits (number : Nat) : Digits (Timestamp.padded 6 number).toList := PublicIds.padded_digits 6 number
  have same (number : Nat) : value (Timestamp.padded 6 number).toList = number := padded_value 6 number
  have shorter := places_mono before.le
  rw [← padded_length, ← padded_length] at shorter
  have different : (formatId idPrefix earlier).toList ≠ (formatId idPrefix later).toList := by
    rw [shared, shared]
    intro equal
    have padded := padded_injective 6 (String.toList_inj.mp (List.append_cancel_left equal))
    exact absurd padded before.ne
  have reverse : (formatId idPrefix later).toList < (formatId idPrefix earlier).toList ↔
      later < earlier * 10 ^ (places later - places earlier) := by
    rw [shared, shared, append_lt_append_iff, lt_iff_value (digits later) (digits earlier) shorter, same, same,
      padded_length, padded_length]
  rw [String.lt_iff_toList_lt, Aligned, ← not_lt, ← reverse]
  constructor
  · intro less
    exact lt_asymm less
  · intro after
    exact lt_of_le_of_ne (not_lt.mp after) different

/-! ### The pattern of evidence -/

theorem artifactPrefixes_capital : ∀ idPrefix ∈ artifactPrefixTypes.map Prod.fst,
    idPrefix.toList.all isCapital = true ∧ idPrefix.toList ≠ [] := by
  decide +kernel

theorem isEvidenceId_formatId {idPrefix : String} (artifact : idPrefix ∈ artifactPrefixTypes.map Prod.fst)
    (number : Nat) :
    isEvidenceId (formatId idPrefix number) = true ↔ number < 10 ^ 6 := by
  obtain ⟨capital, filled⟩ := artifactPrefixes_capital idPrefix artifact
  have capitals : ∀ char ∈ idPrefix.toList, isCapital char = true := List.all_eq_true.mp capital
  have shared : (formatId idPrefix number).toList =
      idPrefix.toList ++ '_' :: (Timestamp.padded 6 number).toList := by
    simp [formatId]
  have bar : isCapital '_' = false := by decide
  have front : (idPrefix.toList ++ '_' :: (Timestamp.padded 6 number).toList).takeWhile isCapital =
      idPrefix.toList := by
    rw [List.takeWhile_append_of_pos capitals, List.takeWhile_cons, bar]
    simp
  have back : (idPrefix.toList ++ '_' :: (Timestamp.padded 6 number).toList).dropWhile isCapital =
      '_' :: (Timestamp.padded 6 number).toList := by
    rw [List.dropWhile_append_of_pos capitals, List.dropWhile_cons, bar]
    simp
  have decimal : (Timestamp.padded 6 number).toList.all
      (fun digit => (PublicIds.decimalValue digit).isSome) = true := by
    rw [List.all_eq_true]
    intro char member
    rw [PublicIds.decimalValue_ascii (PublicIds.padded_digits 6 number char member)]
    rfl
  have read : isEvidenceId (formatId idPrefix number) =
      (!idPrefix.toList.isEmpty && decide ((Timestamp.padded 6 number).toList.length = 6) &&
        (Timestamp.padded 6 number).toList.all (fun digit => (PublicIds.decimalValue digit).isSome)) := by
    unfold isEvidenceId
    rw [shared, front, back]
    rfl
  rw [read, decimal, padded_length, ← places_six]
  simp [filled]

theorem formatPublicId_ok {entity publicId : String} {number : Nat}
    (formatted : formatPublicId entity number = .ok publicId) :
    ∃ idPrefix, entityPrefix entity = some idPrefix ∧ publicId = formatId idPrefix number := by
  unfold formatPublicId at formatted
  split at formatted
  · cases formatted
  · rename_i idPrefix known
    split at formatted
    · cases formatted
    · exact ⟨idPrefix, known, (Except.ok.inj formatted).symm⟩

/-- Two identifiers are in the order of their numbers, and accepted, exactly when the numbers are
aligned and, for an entity of evidence, fit in six digits. -/
theorem ids_in_order_iff {entity first second : String} {earlier later : Nat}
    (one : formatPublicId entity earlier = .ok first) (two : formatPublicId entity later = .ok second)
    (before : earlier < later) :
    InOrder entity first second ↔
      Aligned earlier later ∧ (NamesArtifacts entity → later < 10 ^ 6) := by
  obtain ⟨idPrefix, known, rfl⟩ := formatPublicId_ok one
  obtain ⟨same, knownAgain, rfl⟩ := formatPublicId_ok two
  cases known.symm.trans knownAgain
  have listed (named : NamesArtifacts entity) : idPrefix ∈ artifactPrefixTypes.map Prod.fst := by
    obtain ⟨other, member, knownOther⟩ := named
    cases known.symm.trans knownOther
    exact member
  constructor
  · rintro ⟨broken, accepted⟩
    refine ⟨(formatId_lt before).mp (tiesBroken_iff.mp broken), ?_⟩
    intro named
    exact (isEvidenceId_formatId (listed named) later).mp (accepted named).2
  · rintro ⟨aligned, fits⟩
    refine ⟨tiesBroken_iff.mpr ((formatId_lt before).mpr aligned), ?_⟩
    intro named
    have bound := fits named
    exact ⟨(isEvidenceId_formatId (listed named) earlier).mpr (before.trans bound),
      (isEvidenceId_formatId (listed named) later).mpr bound⟩

theorem first_ids_in_order : InOrder "audit" "LAUDIT_000001" "LAUDIT_000002" ↔
    Aligned 1 2 ∧ (NamesArtifacts "audit" → 2 < 10 ^ 6) :=
  ids_in_order_iff (by decide +kernel) (by decide +kernel) (by decide)

/-- The first number of seven digits: an event is taken for older than the one before it, and
evidence is refused as malformed. -/
theorem seventh_digit_unordered :
    formatPublicId "audit" 999999 = .ok "LAUDIT_999999" ∧
      formatPublicId "audit" 1000000 = .ok "LAUDIT_1000000" ∧
      ¬ InOrder "audit" "LAUDIT_999999" "LAUDIT_1000000" ∧
      formatPublicId "evidence" 1000000 = .ok "LEVID_1000000" ∧ NamesArtifacts "evidence" ∧
      isEvidenceId "LEVID_1000000" = false := by
  refine ⟨by decide +kernel, by decide +kernel, ?_, by decide +kernel,
    ⟨"LEVID", by decide +kernel, by decide +kernel⟩, by decide +kernel⟩
  rintro ⟨broken, -⟩
  exact absurd (tiesBroken_iff.mp broken) (by decide +kernel)

end Lucius.AllocationOrder
