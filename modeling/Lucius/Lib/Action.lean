import Mathlib.Tactic.Common

/-! Actions that read and write a state and may end in an exception.

The state an action had reached stays when it raises, as the objects of a
session do, so a handler sees what was written before the exception. What is
kept of a failed action is its caller's choice: `transact` rolls it back. -/

namespace Lucius

universe u

abbrev Action (S E : Type) (α : Type) := ExceptT E (StateM S) α

/-- A reader that ends normally has a first part that did. -/
theorem except_bind_ok {E α β : Type} {first : Except E α} {next : α → Except E β} {result : β}
    (done : (first >>= next) = .ok result) : ∃ value, first = .ok value ∧ next value = .ok result := by
  cases first with
  | error error => cases done
  | ok value => exact ⟨value, rfl, done⟩

theorem except_isOk {ε α : Type} {value : Except ε α} (fine : value.isOk = true) :
    ∃ result, value = .ok result := by
  cases value with
  | error error => cases fine
  | ok result => exact ⟨result, rfl⟩

namespace Action

variable {S E α β : Type} {state after : S} {handles : E → Bool} {error : E}

def exec (action : Action S E α) (state : S) : Except E α × S := action.run.run state

def ofExcept (value : Except E α) : Action S E α :=
  match value with
  | .ok result => pure result
  | .error error => throw error

/-- The exceptions that are handled are returned, in the state they left; the others
go through. -/
def recovering (handles : E → Bool) (action : Action S E α) : Action S E (Except E α) :=
  fun state =>
    match exec action state with
    | (.ok result, after) => (.ok (.ok result), after)
    | (.error error, after) => (if handles error then .ok (.error error) else .error error, after)

/-- An action on a part of the state. -/
def zoom {T : Type} (view : S → T) (update : S → T → S) (action : Action T E α) : Action S E α :=
  fun state => ((exec action (view state)).1, update state (exec action (view state)).2)

def transact (action : Action S E α) (state : S) : S :=
  match exec action state with
  | (.ok _, after) => after
  | (.error _, _) => state

@[simp] theorem exec_pure (result : α) (state : S) :
    exec (pure result : Action S E α) state = (.ok result, state) := rfl

@[simp] theorem exec_throw (error : E) (state : S) :
    exec (throw error : Action S E α) state = (.error error, state) := rfl

@[simp] theorem exec_get (state : S) :
    exec (get : Action S E S) state = (.ok state, state) := rfl

@[simp] theorem exec_set (new state : S) :
    exec (set new : Action S E PUnit) state = (.ok ⟨⟩, new) := rfl

@[simp] theorem exec_modify (change : S → S) (state : S) :
    exec (modify change : Action S E PUnit) state = (.ok ⟨⟩, change state) := rfl

@[simp] theorem exec_ofExcept (value : Except E α) (state : S) :
    exec (ofExcept value : Action S E α) state = (value, state) := by
  cases value <;> rfl

theorem exec_bind (first : Action S E α) (next : α → Action S E β) (state : S) :
    exec (first >>= next) state =
      match exec first state with
      | (.ok result, after) => exec (next result) after
      | (.error error, after) => (.error error, after) := by
  simp only [exec, bind, ExceptT.bind, ExceptT.mk, ExceptT.run, StateT.run, StateT.bind]
  rcases first state with ⟨outcome, after⟩
  cases outcome <;> rfl

theorem bind_ok {first : Action S E α} {next : α → Action S E β} {result : β}
    (done : exec (first >>= next) state = (.ok result, after)) :
    ∃ value middle, exec first state = (.ok value, middle) ∧
      exec (next value) middle = (.ok result, after) := by
  rw [exec_bind] at done
  rcases outcome : exec first state with ⟨_ | value, middle⟩
  · rw [outcome] at done
    cases done
  · rw [outcome] at done
    exact ⟨value, middle, rfl, done⟩

theorem bind_ofExcept_ok {value : Except E α} {next : α → Action S E β}
    {result : β} (done : exec (ofExcept value >>= next) state = (.ok result, after)) :
    ∃ read, value = .ok read ∧ exec (next read) state = (.ok result, after) := by
  cases value with
  | error error => cases done
  | ok read => exact ⟨read, rfl, done⟩

@[simp] theorem exec_get_bind (next : S → Action S E β) (state : S) :
    exec (get >>= next) state = exec (next state) state := rfl

theorem exec_bind_of_ok {first : Action S E α} {next : α → Action S E β} {middle : S}
    {value : α} (done : exec first state = (.ok value, middle)) :
    exec (first >>= next) state = exec (next value) middle := by
  rw [exec_bind, done]

theorem exec_bind_ofExcept {value : Except E α} {next : α → Action S E β} {read : α}
    (done : value = .ok read) (state : S) :
    exec (ofExcept value >>= next) state = exec (next read) state := by
  rw [done]
  rfl

theorem exec_recovering (handles : E → Bool) (action : Action S E α) (state : S) :
    exec (recovering handles action) state =
      match exec action state with
      | (.ok result, after) => (.ok (.ok result), after)
      | (.error error, after) => (if handles error then .ok (.error error) else .error error, after) :=
  rfl

theorem exec_recovering_ok (handles : E → Bool) {action : Action S E α} {result : α}
    (done : exec action state = (.ok result, after)) :
    exec (recovering handles action) state = (.ok (.ok result), after) := by
  rw [exec_recovering, done]

theorem exec_recovering_handled {action : Action S E α} (raised : exec action state = (.error error, after)) (known : handles error = true) :
    exec (recovering handles action) state = (.ok (.error error), after) := by
  rw [exec_recovering, raised]
  simp only [known, if_true]

theorem exec_recovering_unhandled {action : Action S E α} (raised : exec action state = (.error error, after)) (foreign : handles error = false) :
    exec (recovering handles action) state = (.error error, after) := by
  rw [exec_recovering, raised]
  simp [foreign]

/-- What recovering returns is how the action ended. -/
theorem ok_recovering {action : Action S E α}
    {outcome : Except E α}
    (done : exec (recovering handles action) state = (.ok outcome, after)) :
    exec action state = (outcome, after) := by
  rw [exec_recovering] at done
  rcases ended : exec action state with ⟨error | result, left⟩
  · rw [ended] at done
    obtain ⟨returned, same⟩ := Prod.mk.inj done
    split at returned
    · cases returned
      rw [same]
    · cases returned
  · rw [ended] at done
    cases done
    rfl

theorem exec_bind_of_error {first : Action S E α} {next : α → Action S E β} {middle : S} (raised : exec first state = (.error error, middle)) :
    exec (first >>= next) state = (.error error, middle) := by
  rw [exec_bind, raised]

@[simp] theorem exec_zoom {T : Type} (view : S → T) (update : S → T → S) (action : Action T E α)
    (state : S) : exec (zoom view update action) state =
      ((exec action (view state)).1, update state (exec action (view state)).2) := rfl

theorem ok_pure {result value : α}
    (done : exec (pure value : Action S E α) state = (.ok result, after)) :
    result = value ∧ after = state := by
  cases done
  exact ⟨rfl, rfl⟩

theorem not_ok_throw {result : α}
    (done : exec (throw error : Action S E α) state = (.ok result, after)) : False := by
  cases done

theorem ok_modify {change : S → S} {nothing : PUnit}
    (done : exec (modify change : Action S E PUnit) state = (.ok nothing, after)) :
    after = change state := by
  cases done
  rfl

theorem ok_ofExcept {value : Except E α} {result : α}
    (done : exec (ofExcept value : Action S E α) state = (.ok result, after)) :
    value = .ok result ∧ after = state := by
  rw [exec_ofExcept] at done
  cases done
  exact ⟨rfl, rfl⟩

theorem transact_ok {action : Action S E α} {result : α}
    (done : exec action state = (.ok result, after)) : transact action state = after := by
  rw [transact, done]

theorem transact_error {action : Action S E α}
    (failed : exec action state = (.error error, after)) : transact action state = state := by
  rw [transact, failed]

/-- However the action ends, the state it reaches is related to the one it started in. -/
def Respects (relation : S → S → Prop) (action : Action S E α) : Prop :=
  ∀ state, relation state (exec action state).2

section

variable {relation : S → S → Prop}

theorem respects_exec {action : Action S E α} (respected : Respects relation action)
    {state after : S} {outcome : Except E α} (ended : exec action state = (outcome, after)) :
    relation state after := by
  have reached := respected state
  rwa [ended] at reached

theorem respects_pure (reflexive : ∀ state, relation state state) (result : α) :
    Respects relation (pure result : Action S E α) := reflexive

theorem respects_throw (reflexive : ∀ state, relation state state) (error : E) :
    Respects relation (throw error : Action S E α) := reflexive

theorem respects_get (reflexive : ∀ state, relation state state) :
    Respects relation (get : Action S E S) := reflexive

theorem respects_ofExcept (reflexive : ∀ state, relation state state) (value : Except E α) :
    Respects relation (ofExcept value : Action S E α) := by
  intro state
  rw [exec_ofExcept]
  exact reflexive state

theorem respects_modify {change : S → S} (step : ∀ state, relation state (change state)) :
    Respects relation (modify change : Action S E PUnit) := step

/-- What two parts leave, where the first keeps one relation and the second another. -/
theorem respects_then {early late : S → S → Prop}
    (first_only : ∀ before after, early before after → relation before after)
    (composed : ∀ first second third, early first second → late second third → relation first third)
    {first : Action S E α} {next : α → Action S E β} (before : Respects early first)
    (later : ∀ value, Respects late (next value)) : Respects relation (first >>= next) := by
  intro state
  have start := before state
  rw [exec_bind]
  rcases outcome : exec first state with ⟨_ | value, middle⟩
  · rw [outcome] at start
    exact first_only _ _ start
  · rw [outcome] at start
    exact composed _ _ _ start (later value middle)

theorem respects_bind
    (transitive : ∀ first second third, relation first second → relation second third →
      relation first third)
    {first : Action S E α} {next : α → Action S E β} (before : Respects relation first)
    (later : ∀ value, Respects relation (next value)) : Respects relation (first >>= next) :=
  respects_then (fun _ _ kept => kept) transitive before later

theorem respects_recovering (handles : E → Bool) {action : Action S E α}
    (body : Respects relation action) : Respects relation (recovering handles action) := by
  intro state
  have reached := body state
  rw [exec_recovering]
  rcases outcome : exec action state with ⟨error | value, after⟩ <;> rwa [outcome] at reached

theorem respects_zoom {T : Type} {view : S → T} {update : S → T → S} {inner : T → T → Prop}
    (lifted : ∀ state after, inner (view state) after → relation state (update state after))
    {action : Action T E α} (respected : Respects inner action) :
    Respects relation (zoom view update action) :=
  fun state => lifted state _ (respected (view state))

/-- An action that never raises. -/
def Returns (action : Action S E α) : Prop :=
  ∀ state, ∃ result after, exec action state = (.ok result, after)

theorem returns_pure (result : α) : Returns (pure result : Action S E α) :=
  fun state => ⟨result, state, rfl⟩

theorem returns_modify (change : S → S) : Returns (modify change : Action S E PUnit) :=
  fun state => ⟨⟨⟩, change state, rfl⟩

theorem returns_bind {first : Action S E α} {next : α → Action S E β} (before : Returns first)
    (later : ∀ value, Returns (next value)) : Returns (first >>= next) := by
  intro state
  obtain ⟨value, middle, done⟩ := before state
  obtain ⟨result, after, rest⟩ := later value middle
  exact ⟨result, after, by rw [exec_bind_of_ok done, rest]⟩

/-- What an exception leaves is related to the state the action started in. -/
def OnRaise (relation : S → S → Prop) (action : Action S E α) : Prop :=
  ∀ state error after, exec action state = (.error error, after) → relation state after

theorem onRaise_of_respects {action : Action S E α} (respected : Respects relation action) :
    OnRaise relation action := fun _ _ _ raised => respects_exec respected raised

theorem onRaise_of_returns {action : Action S E α} (returns : Returns action) :
    OnRaise relation action := by
  intro state error after raised
  obtain ⟨result, left, done⟩ := returns state
  rw [done] at raised
  cases raised

/-- Only the first part writes before the last exception can come. -/
theorem onRaise_bind (transitive : ∀ first second third, relation first second → relation second third →
      relation first third)
    {first : Action S E α} {next : α → Action S E β} (before : Respects relation first)
    (later : ∀ value, OnRaise relation (next value)) : OnRaise relation (first >>= next) := by
  intro state error after raised
  have start := before state
  rw [exec_bind] at raised
  rcases outcome : exec first state with ⟨refusal | value, middle⟩
  · rw [outcome] at raised start
    cases raised
    exact start
  · rw [outcome] at raised start
    exact transitive _ _ _ start (later value middle error after raised)

/-- Nothing raises after the first part. -/
theorem onRaise_bind_returns {first : Action S E α} {next : α → Action S E β}
    (before : OnRaise relation first) (later : ∀ value, Returns (next value)) :
    OnRaise relation (first >>= next) := by
  intro state error after raised
  rw [exec_bind] at raised
  rcases outcome : exec first state with ⟨refusal | value, middle⟩
  · rw [outcome] at raised
    cases raised
    exact before state error after outcome
  · obtain ⟨result, left, done⟩ := later value middle
    rw [outcome] at raised
    exact absurd (done.symm.trans raised) (by intro same; cases same)

/-- The two ways an action can end, each with what it leaves. -/
theorem respects_of_ends {action : Action S E α}
    (normal : ∀ state result after, exec action state = (.ok result, after) → relation state after)
    (raising : OnRaise relation action) : Respects relation action := by
  intro state
  rcases outcome : exec action state with ⟨error | result, after⟩
  · exact raising state error after outcome
  · exact normal state result after outcome

theorem respects_mono {stronger : S → S → Prop}
    (implies : ∀ before after, stronger before after → relation before after)
    {action : Action S E α} (respected : Respects stronger action) : Respects relation action :=
  fun state => implies _ _ (respected state)

end

end Action

end Lucius
