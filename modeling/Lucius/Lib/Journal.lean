import Lucius.Lib.Action
import Lucius.Lib.Updates

/-! Work on finite contents that keeps a journal of its updates.

A journaled action reads the contents as its own updates have left them, and ends
normally or in an exception; either way its journal lists the updates it has made.
Committing it is an action that leaves the contents those updates leave. -/

namespace Lucius

open Updates

def Journal (κ ν E α : Type) := Contents κ ν → List (Update κ ν) × Except E α

namespace Journal

variable {κ ν E α β : Type} [DecidableEq κ]

def made (updates : List (Update κ ν)) : Journal κ ν E Unit := fun _ => (updates, .ok ())

def read : Journal κ ν E (Contents κ ν) := fun contents => ([], .ok contents)

def ofExcept (value : Except E α) : Journal κ ν E α := fun _ => ([], value)

/-- The updates of an action and how it ends, both found out at once. -/
def report (outcome : List (Update κ ν) × Except E α) : Journal κ ν E α := fun _ => outcome

/-- The same work, its exceptions turned into those of its caller. -/
def mapError {F : Type} (convert : E → F) (work : Journal κ ν E α) : Journal κ ν F α :=
  fun contents => ((work contents).1, (work contents).2.mapError convert)

/-- The work, and how it ended as a value. -/
def attempt {F : Type} (work : Journal κ ν E α) : Journal κ ν F (Except E α) :=
  fun contents => ((work contents).1, .ok (work contents).2)

protected def bind (first : Journal κ ν E α) (next : α → Journal κ ν E β) : Journal κ ν E β :=
  fun contents =>
    match first contents with
    | (updates, .error error) => (updates, .error error)
    | (updates, .ok value) =>
      let later := next value (applyAll contents updates)
      (updates ++ later.1, later.2)

instance : Monad (Journal κ ν E) where
  pure value := fun _ => ([], .ok value)
  bind := Journal.bind

def commit (journal : Journal κ ν E α) : Action (Contents κ ν) E α :=
  fun contents => ((journal contents).2, applyAll contents (journal contents).1)

@[simp] theorem exec_commit (journal : Journal κ ν E α) (contents : Contents κ ν) :
    Action.exec (commit journal) contents =
      ((journal contents).2, applyAll contents (journal contents).1) := rfl

theorem pure_apply (value : α) (contents : Contents κ ν) :
    (pure value : Journal κ ν E α) contents = ([], .ok value) := rfl

omit [DecidableEq κ] in
theorem made_apply (updates : List (Update κ ν)) (contents : Contents κ ν) :
    (made updates : Journal κ ν E Unit) contents = (updates, .ok ()) := rfl

omit [DecidableEq κ] in
theorem ofExcept_apply (value : Except E α) (contents : Contents κ ν) :
    (ofExcept value : Journal κ ν E α) contents = ([], value) := rfl

theorem bind_apply_ok {first : Journal κ ν E α} {next : α → Journal κ ν E β} {contents : Contents κ ν}
    {updates : List (Update κ ν)} {value : α} (done : first contents = (updates, .ok value)) :
    (first >>= next) contents =
      (updates ++ (next value (applyAll contents updates)).1,
        (next value (applyAll contents updates)).2) := by
  change Journal.bind first next contents = _
  rw [Journal.bind, done]

theorem bind_apply_error {first : Journal κ ν E α} {next : α → Journal κ ν E β}
    {contents : Contents κ ν} {updates : List (Update κ ν)} {error : E}
    (failed : first contents = (updates, .error error)) :
    (first >>= next) contents = (updates, .error error) := by
  change Journal.bind first next contents = _
  rw [Journal.bind, failed]

theorem read_bind_apply (next : Contents κ ν → Journal κ ν E β) (contents : Contents κ ν) :
    (read >>= next) contents = next contents contents := by
  rw [bind_apply_ok (rfl : read contents = ([], .ok contents))]
  simp

theorem ofExcept_bind_ok {value : Except E α} {result : α} (known : value = .ok result)
    (next : α → Journal κ ν E β) (contents : Contents κ ν) :
    (ofExcept value >>= next) contents = next result contents := by
  rw [bind_apply_ok (show ofExcept value contents = ([], .ok result) by rw [ofExcept_apply, known])]
  simp

theorem ofExcept_bind_error {value : Except E α} {error : E} (known : value = .error error)
    (next : α → Journal κ ν E β) (contents : Contents κ ν) :
    (ofExcept value >>= next) contents = ([], .error error) :=
  bind_apply_error (by rw [ofExcept_apply, known])

theorem attempt_bind_apply {F : Type} (work : Journal κ ν E α) (next : Except E α → Journal κ ν F β)
    (contents : Contents κ ν) :
    (attempt work >>= next) contents =
      ((work contents).1 ++ (next (work contents).2 (applyAll contents (work contents).1)).1,
        (next (work contents).2 (applyAll contents (work contents).1)).2) :=
  bind_apply_ok rfl

omit [DecidableEq κ] in
theorem ok_mapError {F : Type} {convert : E → F} {work : Journal κ ν E α} {contents : Contents κ ν}
    {updates : List (Update κ ν)} {result : α}
    (done : mapError convert work contents = (updates, .ok result)) :
    work contents = (updates, .ok result) := by
  rcases ended : work contents with ⟨made, error | value⟩
  · rw [mapError, ended] at done
    cases done
  · rw [mapError, ended] at done
    cases done
    rfl

/-- An action that ends normally has a first part that did, and its journal is that of
the first part followed by that of the rest. -/
theorem bind_ok {first : Journal κ ν E α} {next : α → Journal κ ν E β} {contents : Contents κ ν}
    {updates : List (Update κ ν)} {result : β}
    (done : (first >>= next) contents = (updates, .ok result)) :
    ∃ front value back, first contents = (front, .ok value) ∧
      next value (applyAll contents front) = (back, .ok result) ∧ updates = front ++ back := by
  rcases outcome : first contents with ⟨front, error | value⟩
  · rw [bind_apply_error outcome] at done
    cases done
  · rw [bind_apply_ok outcome] at done
    have journal := congrArg Prod.fst done
    have ended := congrArg Prod.snd done
    exact ⟨front, value, _, rfl, Prod.ext rfl ended, journal.symm⟩

omit [DecidableEq κ] in
theorem ok_ofExcept {value : Except E α} {contents : Contents κ ν} {updates : List (Update κ ν)}
    {result : α} (done : ofExcept value contents = (updates, .ok result)) :
    value = .ok result ∧ updates = [] := by
  rw [ofExcept_apply, Prod.mk.injEq] at done
  exact ⟨done.2, done.1.symm⟩

theorem bind_ofExcept_ok {value : Except E α} {next : α → Journal κ ν E β} {contents : Contents κ ν}
    {updates : List (Update κ ν)} {result : β}
    (done : (ofExcept value >>= next) contents = (updates, .ok result)) :
    ∃ known, value = .ok known ∧ next known contents = (updates, .ok result) := by
  cases value with
  | error error =>
    rw [ofExcept_bind_error rfl] at done
    cases done
  | ok known =>
    rw [ofExcept_bind_ok rfl] at done
    exact ⟨known, rfl, done⟩

/-- Every update the work makes is of a kind, whatever it starts from. -/
def Writes (allowed : Update κ ν → Prop) (work : Journal κ ν E α) : Prop :=
  ∀ contents, ∀ update ∈ (work contents).1, allowed update

section

variable {allowed : Update κ ν → Prop}

theorem writes_pure (value : α) : Writes allowed (pure value : Journal κ ν E α) := by
  intro contents update member
  cases member

omit [DecidableEq κ] in
theorem writes_ofExcept (value : Except E α) : Writes allowed (ofExcept value : Journal κ ν E α) := by
  intro contents update member
  cases member

omit [DecidableEq κ] in
theorem writes_mapError {F : Type} {convert : E → F} {work : Journal κ ν E α}
    (made : Writes allowed work) : Writes allowed (mapError convert work) := made

/-- The second part needs to be considered for the values alone with which the first
can end. -/
theorem writes_bind {first : Journal κ ν E α} {next : α → Journal κ ν E β}
    (before : Writes allowed first)
    (after : ∀ contents updates value, first contents = (updates, .ok value) →
      Writes allowed (next value)) : Writes allowed (first >>= next) := by
  intro contents update member
  rcases ended : first contents with ⟨updates, error | value⟩
  · rw [bind_apply_error ended] at member
    have made := before contents
    rw [ended] at made
    exact made update member
  · rw [bind_apply_ok ended] at member
    have made := before contents
    rw [ended] at made
    rcases List.mem_append.mp member with earlier | later
    · exact made update earlier
    · exact after contents updates value ended _ update later

theorem writes_read_bind {next : Contents κ ν → Journal κ ν E β}
    (after : ∀ contents, Writes allowed (next contents)) : Writes allowed (read >>= next) := by
  intro contents update member
  rw [read_bind_apply] at member
  exact after contents contents update member

end

end Journal
end Lucius
