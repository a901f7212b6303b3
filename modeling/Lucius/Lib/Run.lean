import Mathlib.Tactic.Common

/-! Runs of a system under a list of operations.

An operation takes every state to a state; a request the system refuses is an
operation that leaves the state as its refusal leaves it. The rules below turn
what one operation preserves into what a whole run preserves, for all runs and
for those whose operations each meet a condition in the state they start from. -/

namespace Lucius.Run

universe u v

variable {S : Type u} {O : Type v}

def run (step : S → O → S) (start : S) (operations : List O) : S :=
  operations.foldl step start

@[simp] theorem run_nil (step : S → O → S) (start : S) : run step start [] = start := rfl

@[simp] theorem run_cons (step : S → O → S) (start : S) (first : O) (rest : List O) :
    run step start (first :: rest) = run step (step start first) rest := rfl

theorem run_append (step : S → O → S) (start : S) (front back : List O) :
    run step start (front ++ back) = run step (run step start front) back :=
  List.foldl_append

/-- Each operation of the run meets the condition in the state it is applied to. -/
def Meets (step : S → O → S) (condition : S → O → Prop) : S → List O → Prop
  | _, [] => True
  | state, operation :: rest => condition state operation ∧ Meets step condition (step state operation) rest

theorem meets_append (step : S → O → S) (condition : S → O → Prop) (start : S) (front back : List O)
    (meets : Meets step condition start (front ++ back)) :
    Meets step condition start front ∧ Meets step condition (run step start front) back := by
  induction front generalizing start with
  | nil => exact ⟨trivial, meets⟩
  | cons first rest ih =>
    obtain ⟨now, later⟩ := ih (step start first) meets.2
    exact ⟨⟨meets.1, now⟩, later⟩

theorem meets_of_always (step : S → O → S) (condition : S → O → Prop)
    (always : ∀ state operation, condition state operation) (start : S) (operations : List O) :
    Meets step condition start operations := by
  induction operations generalizing start with
  | nil => trivial
  | cons first rest ih => exact ⟨always start first, ih (step start first)⟩

theorem meets_iff (step : S → O → S) {left right : S → O → Prop}
    (same : ∀ state operation, left state operation ↔ right state operation) (start : S)
    (operations : List O) : Meets step left start operations ↔ Meets step right start operations := by
  induction operations generalizing start with
  | nil => exact Iff.rfl
  | cons first rest ih => exact and_congr (same start first) (ih (step start first))

/-- Two conditions that agree where an invariant holds, which each of them keeps, are met by
the same runs. -/
theorem meets_iff_guarded (step : S → O → S) {left right : S → O → Prop} (invariant : S → Prop)
    (same : ∀ state operation, invariant state → (left state operation ↔ right state operation))
    (preserved : ∀ state operation, invariant state → left state operation →
      invariant (step state operation))
    (start : S) (operations : List O) (holds : invariant start) :
    Meets step left start operations ↔ Meets step right start operations := by
  induction operations generalizing start with
  | nil => exact Iff.rfl
  | cons first rest ih =>
    constructor
    · rintro ⟨now, later⟩
      have kept := preserved start first holds now
      exact ⟨(same start first holds).mp now, (ih (step start first) kept).mp later⟩
    · rintro ⟨now, later⟩
      have meets := (same start first holds).mpr now
      have kept := preserved start first holds meets
      exact ⟨meets, (ih (step start first) kept).mpr later⟩

/-- A run meets a condition when each of its operations does where it is applied. -/
theorem meets_iff_forall (step : S → O → S) (condition : S → O → Prop) (start : S)
    (operations : List O) : Meets step condition start operations ↔
      ∀ front operation back, operations = front ++ operation :: back →
        condition (run step start front) operation := by
  constructor
  · intro meets front operation back split
    rw [split] at meets
    exact (meets_append step condition start front (operation :: back) meets).2.1
  · induction operations generalizing start with
    | nil => exact fun _ => trivial
    | cons first rest ih =>
      intro each
      refine ⟨each [] first rest rfl, ih (step start first) ?_⟩
      intro front operation back split
      exact each (first :: front) operation back (by rw [split, List.cons_append])

/-- A property holds along a run when each of its operations leads to it. -/
theorem states_iff_meets (step : S → O → S) (property : S → Prop) (start : S) (operations : List O)
    (holds : property start) :
    (∀ front back, operations = front ++ back → property (run step start front)) ↔
      Meets step (fun state operation => property (step state operation)) start operations := by
  rw [meets_iff_forall]
  constructor
  · intro each front operation back split
    have reached := each (front ++ [operation]) back (by rw [split, List.append_assoc]; rfl)
    rwa [run_append, run_cons, run_nil] at reached
  · intro each front back split
    rcases List.eq_nil_or_concat front with rfl | ⟨earlier, operation, rfl⟩
    · exact holds
    · rw [List.concat_eq_append] at split ⊢
      rw [run_append, run_cons, run_nil]
      exact each earlier operation back (by rw [split, List.append_assoc]; rfl)

theorem invariant_guarded (step : S → O → S) (condition : S → O → Prop) (invariant : S → Prop)
    (preserved : ∀ state operation, invariant state → condition state operation →
      invariant (step state operation))
    (start : S) (operations : List O) (holds : invariant start)
    (meets : Meets step condition start operations) : invariant (run step start operations) := by
  induction operations generalizing start with
  | nil => exact holds
  | cons first rest ih => exact ih (step start first) (preserved start first holds meets.1) meets.2

theorem invariant_run (step : S → O → S) (invariant : S → Prop)
    (preserved : ∀ state operation, invariant state → invariant (step state operation))
    (start : S) (operations : List O) (holds : invariant start) :
    invariant (run step start operations) :=
  invariant_guarded step (fun _ _ => True) invariant
    (fun state operation before _ => preserved state operation before) start operations holds
    (meets_of_always step _ (fun _ _ => trivial) start operations)

/-- Where an invariant holds and a condition is met, a property of the step follows. -/
theorem meets_guarded (step : S → O → S) (condition property : S → O → Prop) (invariant : S → Prop)
    (preserved : ∀ state operation, invariant state → condition state operation →
      invariant (step state operation))
    (established : ∀ state operation, invariant state → condition state operation →
      property state operation)
    (start : S) (operations : List O) (holds : invariant start)
    (meets : Meets step condition start operations) : Meets step property start operations := by
  induction operations generalizing start with
  | nil => trivial
  | cons first rest ih =>
    have now := established start first holds meets.1
    have later := ih (step start first) (preserved start first holds meets.1) meets.2
    exact ⟨now, later⟩

/-- A reflexive and transitive relation that every step respects relates the first
state of a run to its last. -/
theorem relation_guarded (step : S → O → S) (condition : S → O → Prop) (relation : S → S → Prop)
    (reflexive : ∀ state, relation state state)
    (transitive : ∀ first second third, relation first second → relation second third →
      relation first third)
    (respected : ∀ state operation, condition state operation → relation state (step state operation))
    (start : S) (operations : List O) (meets : Meets step condition start operations) :
    relation start (run step start operations) :=
  invariant_guarded step condition (relation start)
    (fun state operation before now => transitive _ _ _ before (respected state operation now))
    start operations (reflexive start) meets

theorem relation_run (step : S → O → S) (relation : S → S → Prop)
    (reflexive : ∀ state, relation state state)
    (transitive : ∀ first second third, relation first second → relation second third →
      relation first third)
    (respected : ∀ state operation, relation state (step state operation))
    (start : S) (operations : List O) : relation start (run step start operations) :=
  relation_guarded step (fun _ _ => True) relation reflexive transitive
    (fun state operation _ => respected state operation) start operations
    (meets_of_always step _ (fun _ _ => trivial) start operations)

end Lucius.Run
