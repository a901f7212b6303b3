import Lucius.Persistence.Rows

/-! Public identifiers: a number is issued once, and identifiers of other numbers differ. -/

namespace Lucius

theorem padded_value (width value : Nat) :
    Nat.ofDigitChars 10 (Timestamp.padded width value).toList 0 = value := by
  unfold Timestamp.padded
  have digits : (toString value).toList = Nat.toDigits 10 value := Nat.toList_repr
  simp only [String.toList_append, String.toList_ofList, Nat.ofDigitChars_append,
    Nat.ofDigitChars_replicate_zero, Nat.mul_zero, digits]
  exact Nat.ofDigitChars_toDigits (by decide) (by decide)

theorem padded_injective (width : Nat) : Function.Injective (Timestamp.padded width) := by
  intro left right same
  rw [← padded_value width left, same, padded_value]

theorem formatPublicId_injective (entity : Entity) : Function.Injective (formatPublicId entity) := by
  intro left right same
  unfold formatPublicId at same
  have lists := congrArg String.toList same
  simp only [String.toList_append] at lists
  exact padded_injective 6 (String.toList_inj.mp (List.append_cancel_left lists))

/-- No counter goes back. -/
def IssuedGrow (before after : Store) : Prop := ∀ entity, before.issued entity ≤ after.issued entity

theorem issuedGrow_refl (store : Store) : IssuedGrow store store := fun _ => le_rfl

theorem issuedGrow_trans (first second third : Store) (one : IssuedGrow first second)
    (two : IssuedGrow second third) : IssuedGrow first third :=
  fun entity => (one entity).trans (two entity)

theorem issue_grows (store : Store) (entity : Entity) : IssuedGrow store (store.issue entity) := by
  intro other
  unfold Store.issue
  dsimp only
  split
  · rename_i same
    rw [same]
    exact Nat.le_succ _
  · exact le_rfl

theorem nextId_grows (entity : Entity) : Action.Respects IssuedGrow (Op.nextId entity) :=
  fun store => issue_grows store entity

theorem record_grows (draft : AuditDraft) : Action.Respects IssuedGrow (Op.record draft) :=
  fun store => issue_grows store .audit

theorem utcNow_grows : Action.Respects IssuedGrow Op.utcNow := fun store => issuedGrow_refl store

theorem nowIso_grows : Action.Respects IssuedGrow Op.nowIso := fun store => issuedGrow_refl store

theorem putWorkflow_grows (row : PersistentWorkflowRow) :
    Action.Respects IssuedGrow (Op.putWorkflow row) := fun store => issuedGrow_refl store

theorem get_grows : Action.Respects IssuedGrow (get : Op Store) :=
  Action.respects_get issuedGrow_refl

end Lucius
