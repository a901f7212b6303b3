import Lucius.Lib.Action

/-! Actions that do not see a part of the state: hiding it before they run is hiding it after. -/

namespace Lucius.Action

variable {S E α β : Type} {hide : S → S}

def Blind (hide : S → S) (action : Action S E α) : Prop :=
  ∀ state, exec action (hide state) = ((exec action state).1, hide (exec action state).2)

theorem blind_pure (result : α) : Blind hide (pure result : Action S E α) := fun _ => rfl

theorem blind_throw (error : E) : Blind hide (throw error : Action S E α) := fun _ => rfl

theorem blind_modify {change : S → S} (commutes : ∀ state, change (hide state) = hide (change state)) :
    Blind hide (modify change : Action S E PUnit) := by
  intro state
  rw [exec_modify, exec_modify, commutes]

/-- One state is enough where the rest of the action is blind. -/
theorem blindly_then {first : Action S E α} {next : α → Action S E β} {state : S}
    (here : exec first (hide state) = ((exec first state).1, hide (exec first state).2))
    (later : ∀ value, Blind hide (next value)) :
    exec (first >>= next) (hide state) =
      ((exec (first >>= next) state).1, hide (exec (first >>= next) state).2) := by
  rw [exec_bind, exec_bind, here]
  rcases exec first state with ⟨error | value, middle⟩
  · rfl
  · exact later value middle

/-- One state is enough for the rest where the first part is blind. -/
theorem blindly_after {first : Action S E α} {next : α → Action S E β} {state middle : S} {value : α}
    (blind : Blind hide first) (done : exec first state = (.ok value, middle))
    (later : exec (next value) (hide middle) =
      ((exec (next value) middle).1, hide (exec (next value) middle).2)) :
    exec (first >>= next) (hide state) =
      ((exec (first >>= next) state).1, hide (exec (first >>= next) state).2) := by
  have hidden : exec first (hide state) = (.ok value, hide middle) := by rw [blind, done]
  rw [exec_bind_of_ok done, exec_bind_of_ok hidden, later]

theorem blind_bind {first : Action S E α} {next : α → Action S E β} (before : Blind hide first)
    (later : ∀ value, Blind hide (next value)) : Blind hide (first >>= next) :=
  fun state => blindly_then (before state) later

/-- What is read of the state is not what is hidden. -/
theorem blind_get {next : S → Action S E β} (same : ∀ state, next (hide state) = next state)
    (later : ∀ state, Blind hide (next state)) : Blind hide (get >>= next) := by
  intro state
  rw [exec_get_bind, exec_get_bind, same]
  exact later state state

theorem blind_zoom {T : Type} {view : S → T} {update : S → T → S} {inner : T → T}
    (seen : ∀ state, view (hide state) = inner (view state))
    (written : ∀ state part, update (hide state) (inner part) = hide (update state part))
    {action : Action T E α} (blind : Blind inner action) : Blind hide (zoom view update action) := by
  intro state
  rw [exec_zoom, exec_zoom, seen, blind, written]

end Lucius.Action
