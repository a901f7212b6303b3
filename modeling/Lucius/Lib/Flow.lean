import Mathlib.Tactic.Common

/-! What reaches the nodes of a graph from its sources. A node that is clear passes
nothing on. -/

namespace Lucius

universe u

structure Flow (N : Type u) where
  source : N → Prop
  clear : N → Prop
  feeds : N → N → Prop

namespace Flow

variable {N : Type u}

inductive Reaches (flow : Flow N) : N → Prop where
  | source {node : N} (own : flow.source node) : Reaches flow node
  | feeds {earlier later : N} (reached : Reaches flow earlier) (passes : ¬ flow.clear earlier)
      (fed : flow.feeds earlier later) : Reaches flow later

/-- What a node receives at once: it is a source, or is fed by a node that is reached. -/
def Receives (flow : Flow N) (own : Prop) (fed : N → Prop) : Prop :=
  own ∨ ∃ earlier, flow.Reaches earlier ∧ ¬ flow.clear earlier ∧ fed earlier

theorem receives_of_reaches {flow : Flow N} {node : N} (reached : flow.Reaches node) :
    flow.Receives (flow.source node) (fun earlier => flow.feeds earlier node) := by
  cases reached with
  | source own => exact .inl own
  | feeds earlier passes fed => exact .inr ⟨_, earlier, passes, fed⟩

/-- The larger flow has one more node; on the others it is the smaller one. -/
structure Extends (before after : Flow N) (added : N) : Prop where
  source : ∀ node, node ≠ added → after.source node → before.source node
  clear : ∀ node, node ≠ added → before.clear node → after.clear node
  feeds : ∀ earlier later, later ≠ added → after.feeds earlier later → before.feeds earlier later

/-- A node that was not reached before is reached only by what it receives from nodes
that were. -/
theorem receives_of_extends {before after : Flow N} {added : N} (larger : Extends before after added)
    (fresh : ¬ before.Reaches added) {node : N} (reached : after.Reaches node) :
    before.Reaches node ∨
      before.Receives (after.source added) (fun earlier => after.feeds earlier added) := by
  induction reached with
  | @source node own =>
    by_cases here : node = added
    · exact .inr (.inl (here ▸ own))
    · exact .inl (.source (larger.source node here own))
  | @feeds earlier later _ passes fed ih =>
    rcases ih with known | received
    · have different : earlier ≠ added := fun same => fresh (same ▸ known)
      have open_ : ¬ before.clear earlier := fun clear => passes (larger.clear earlier different clear)
      by_cases here : later = added
      · exact .inr (.inr ⟨earlier, known, open_, here ▸ fed⟩)
      · exact .inl (.feeds known open_ (larger.feeds earlier later here fed))
    · exact .inr received

theorem added_receives {before after : Flow N} {added : N} (larger : Extends before after added)
    (fresh : ¬ before.Reaches added) (reached : after.Reaches added) :
    before.Receives (after.source added) (fun earlier => after.feeds earlier added) :=
  (receives_of_extends larger fresh reached).resolve_left fresh

end Flow
end Lucius
