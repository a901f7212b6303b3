import Mathlib.Data.List.Chain
import Mathlib.Data.List.Nodup

/-! Attempts in turn. Each party gets some attempts in a row, and a party whose last
attempt calls for it hands over to the next one. -/

namespace Lucius

variable {α β : Type} (who : α → β) (again onward : α → Prop) (retries : Nat)

/-- The attempts of one party: each but the last calls for another. -/
structure Turn (party : β) (front : List α) (last : α) : Prop where
  party : ∀ attempt ∈ front ++ [last], who attempt = party
  bounded : front.length ≤ retries
  repeated : ∀ attempt ∈ front, again attempt

/-- The turns of some parties, with at most a number of handovers: the attempts, the last
of them, how many its party made before it, and the handovers there were. -/
inductive Turns : Nat → List β → List α → α → Nat → Nat → Prop where
  | last {handovers : Nat} {party : β} {rest : List β} {front : List α} {last : α}
      (turn : Turn who again retries party front last) :
      Turns handovers (party :: rest) (front ++ [last]) last front.length 0
  | next {handovers : Nat} {party : β} {rest : List β} {front made : List α} {stop last : α}
      {index used : Nat} (turn : Turn who again retries party front stop) (handed : onward stop)
      (later : Turns handovers rest made last index used) :
      Turns (handovers + 1) (party :: rest) (front ++ stop :: made) last index (used + 1)

/-- Some first parties in their order, each a number of times in a row. -/
def InTurn (handovers : Nat) (parties made : List β) : Prop :=
  ∃ counts : List Nat, counts.length ≤ parties.length ∧ counts.length ≤ handovers + 1 ∧
    (∀ count ∈ counts, 1 ≤ count ∧ count ≤ retries + 1) ∧
    made = (List.zipWith List.replicate counts parties).flatten

variable {who again onward retries}

theorem Turn.attempts {party : β} {front : List α} {last : α}
    (turn : Turn who again retries party front last) :
    (front ++ [last]).map who = List.replicate (front.length + 1) party := by
  rw [List.eq_replicate_iff]
  refine ⟨by simp, ?_⟩
  intro named member
  obtain ⟨attempt, made, rfl⟩ := List.mem_map.mp member
  exact turn.party attempt made

section

variable {handovers : Nat} {parties : List β} {made : List α} {last : α} {index used : Nat}

theorem Turns.length_le (turns : Turns who again onward retries handovers parties made last index used) :
    made.length ≤ (retries + 1) * (handovers + 1) := by
  induction turns with
  | @last handovers party rest front last turn =>
    have bounded := turn.bounded
    rw [List.length_append, List.length_singleton]
    calc front.length + 1 ≤ retries + 1 := Nat.succ_le_succ bounded
      _ ≤ (retries + 1) * (handovers + 1) := Nat.le_mul_of_pos_right _ (Nat.succ_pos _)
  | @next handovers party rest front made stop last index used turn handed later ih =>
    have bounded := turn.bounded
    rw [List.length_append, List.length_cons]
    calc front.length + (made.length + 1) ≤ (retries + 1) + (retries + 1) * (handovers + 1) := by omega
      _ = (retries + 1) * (handovers + 1 + 1) := by rw [Nat.mul_succ _ (handovers + 1), Nat.add_comm]

theorem Turns.inTurn (turns : Turns who again onward retries handovers parties made last index used) :
    InTurn retries handovers parties (made.map who) := by
  induction turns with
  | @last handovers party rest front last turn =>
    have bounded := turn.bounded
    refine ⟨[front.length + 1], by simp, by simp, ?_, ?_⟩
    · intro count member
      rw [List.mem_singleton.mp member]
      omega
    · rw [turn.attempts]
      simp
  | @next handovers party rest front made stop last index used turn handed later ih =>
    obtain ⟨counts, within, bounded, each, listed⟩ := ih
    have here := turn.bounded
    refine ⟨(front.length + 1) :: counts, by simpa using within, by simpa using bounded, ?_, ?_⟩
    · intro count member
      rcases List.mem_cons.mp member with same | inside
      · rw [same]
        omega
      · exact each count inside
    · rw [List.append_cons, List.map_append, turn.attempts, listed]
      simp

theorem Turns.party_mem (turns : Turns who again onward retries handovers parties made last index used) :
    ∀ attempt ∈ made, who attempt ∈ parties := by
  induction turns with
  | @last handovers party rest front last turn =>
    intro attempt member
    rw [turn.party attempt member]
    exact List.mem_cons_self
  | @next handovers party rest front made stop last index used turn handed later ih =>
    intro attempt member
    rw [List.append_cons] at member
    rcases List.mem_append.mp member with early | late
    · rw [turn.party attempt early]
      exact List.mem_cons_self
    · exact List.mem_cons_of_mem _ (ih attempt late)

theorem Turn.pairwise {party : β} {front : List α} {last : α}
    (turn : Turn who again retries party front last) :
    (front ++ [last]).Pairwise (fun earlier later => who later = who earlier → again earlier) := by
  have early : front.Pairwise (fun earlier later => who later = who earlier → again earlier) :=
    List.pairwise_of_forall_mem_list (fun attempt member _ _ _ => turn.repeated attempt member)
  rw [List.pairwise_append]
  exact ⟨early, List.pairwise_singleton _ _, fun attempt member _ _ _ => turn.repeated attempt member⟩

/-- A party gets another attempt, now or later, only after one that calls for it. -/
theorem Turns.retried (turns : Turns who again onward retries handovers parties made last index used)
    (distinct : parties.Nodup) :
    made.Pairwise (fun earlier later => who later = who earlier → again earlier) := by
  induction turns with
  | @last handovers party rest front last turn => exact turn.pairwise
  | @next handovers party rest front made stop last index used turn handed later ih =>
    obtain ⟨absent, others⟩ := List.nodup_cons.mp distinct
    rw [List.append_cons, List.pairwise_append]
    refine ⟨turn.pairwise, ih others, ?_⟩
    intro earlier before later' after same
    rw [turn.party earlier before] at same
    exact (absent (same ▸ later.party_mem later' after)).elim

/-- Another party comes next only after an attempt that hands over. -/
theorem Turns.handedOver (turns : Turns who again onward retries handovers parties made last index used) :
    made.IsChain (fun earlier later => who later ≠ who earlier → onward earlier) := by
  have together : ∀ {party : β} {front : List α} {stop : α}, Turn who again retries party front stop →
      (front ++ [stop]).IsChain (fun earlier later => who later ≠ who earlier → onward earlier) := by
    intro party front stop turn
    apply List.Pairwise.isChain
    apply List.pairwise_of_forall_mem_list
    intro earlier before later after different
    rw [turn.party earlier before, turn.party later after] at different
    exact (different rfl).elim
  induction turns with
  | @last handovers party rest front last turn => exact together turn
  | @next handovers party rest front made stop last index used turn handed later ih =>
    rw [List.append_cons, List.isChain_append]
    refine ⟨together turn, ih, ?_⟩
    intro earlier before later' after different
    have stopped : earlier = stop := by simpa using before.symm
    rw [stopped]
    exact handed

/-- Every attempt but the last calls for another one. -/
theorem Turns.continued (turns : Turns who again onward retries handovers parties made last index used) :
    ∃ front, made = front ++ [last] ∧ ∀ attempt ∈ front, again attempt ∨ onward attempt := by
  induction turns with
  | @last handovers party rest front last turn =>
    exact ⟨front, rfl, fun attempt member => .inl (turn.repeated attempt member)⟩
  | @next handovers party rest front made stop last index used turn handed later ih =>
    obtain ⟨middle, listed, earlier⟩ := ih
    refine ⟨front ++ stop :: middle, by rw [listed]; simp, ?_⟩
    intro attempt member
    rcases List.mem_append.mp member with before | after
    · exact .inl (turn.repeated attempt before)
    · rcases List.mem_cons.mp after with same | inside
      · rw [same]
        exact .inr handed
      · exact earlier attempt inside

end

end Lucius
