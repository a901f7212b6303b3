import Lucius.Persistence.PublicIds

/-! Whether the allocator ever raises, repeats an identifier, or gives out one that is not
past all persisted ones: over any order of calls, inserted rows and flushes. -/

namespace Lucius.PublicIds

open Lucius.Action Run

theorem decimalValue_ascii {char : Char} (digit : char.isDigit = true) :
    decimalValue char = some (char.toNat - '0'.toNat) := by
  have bounds : 48 ≤ char.toNat ∧ char.toNat ≤ 57 := by
    simpa [Char.isDigit, UInt32.le_iff_toNat_le] using digit
  have first : (decide (48 ≤ char.toNat) && decide (char.toNat < 48 + 10)) = true := by
    rw [Bool.and_eq_true, decide_eq_true_eq, decide_eq_true_eq]
    omega
  have listed : decimalZeros = 48 :: decimalZeros.tail := rfl
  rw [decimalValue, listed, List.find?_cons_of_pos (by exact first)]
  rfl

theorem digitsValue_ascii {text : List Char} (digits : ∀ char ∈ text, char.isDigit = true) (value : Nat) :
    digitsValue value text = some (Nat.ofDigitChars 10 text value) := by
  induction text generalizing value with
  | nil => rfl
  | cons char rest ih =>
    rw [digitsValue, decimalValue_ascii (digits char List.mem_cons_self), Option.bind_eq_bind,
      Option.bind_some, ih (fun other member => digits other (List.mem_cons_of_mem _ member))]
    rfl

theorem padded_digits (width value : Nat) :
    ∀ char ∈ (Timestamp.padded width value).toList, char.isDigit = true := by
  intro char member
  unfold Timestamp.padded at member
  rw [String.toList_append, String.toList_ofList, List.mem_append] at member
  rcases member with filler | digit
  · rw [List.eq_of_mem_replicate filler]
    rfl
  · have digits : (toString value).toList = Nat.toDigits 10 value := Nat.toList_repr
    rw [digits] at digit
    exact Nat.isDigit_of_mem_toDigits (by decide) (by decide) digit

theorem suffixOf_formatId (idPrefix : String) (number : Nat) :
    suffixOf idPrefix (formatId idPrefix number) = some (Timestamp.padded 6 number).toList := by
  unfold suffixOf formatId
  rw [String.toList_append]
  simp

theorem numberOf_formatId (idPrefix : String) (number : Nat) :
    numberOf idPrefix (formatId idPrefix number) = some number := by
  have filled : (Timestamp.padded 6 number).toList.isEmpty = false := by
    rw [List.isEmpty_eq_false_iff]
    intro empty
    have value := padded_value 6 number
    rw [empty] at value
    rw [← value] at empty
    revert empty
    decide
  unfold numberOf
  rw [suffixOf_formatId, Option.bind_some, filled]
  simp only [Bool.false_eq_true, if_false]
  rw [digitsValue_ascii (padded_digits 6 number), padded_value]

theorem prefixes_plain : ∀ entry ∈ entityPrefixes, '_' ∉ entry.2.toList := by
  decide +kernel

theorem prefixes_distinct : (entityPrefixes.map Prod.snd).Nodup := by
  decide +kernel

theorem entityPrefix_listed {entity idPrefix : String} (known : entityPrefix entity = some idPrefix) :
    (entity, idPrefix) ∈ entityPrefixes := by
  unfold entityPrefix at known
  obtain ⟨entry, found, same⟩ := Option.map_eq_some_iff.mp known
  have named := List.find?_some found
  have member := List.mem_of_find?_eq_some found
  obtain ⟨name, listed⟩ := entry
  rw [decide_eq_true_eq] at named
  cases same
  exact named ▸ member

theorem entityPrefix_injective {left right idPrefix : String} (one : entityPrefix left = some idPrefix)
    (other : entityPrefix right = some idPrefix) : left = right := by
  have same := List.inj_on_of_nodup_map prefixes_distinct (entityPrefix_listed one)
    (entityPrefix_listed other) rfl
  exact congrArg Prod.fst same

theorem takeWhile_underscore {text : List Char} (plain : '_' ∉ text) (rest : List Char) :
    (text ++ '_' :: rest).takeWhile (· ≠ '_') = text := by
  rw [List.takeWhile_append_of_pos]
  · simp
  · intro char member
    rw [decide_eq_true_eq]
    rintro rfl
    exact plain member

theorem prefix_of_numberOf {entity other idPrefix otherPrefix : String} {number carried : Nat}
    (known : entityPrefix entity = some idPrefix) (knownOther : entityPrefix other = some otherPrefix)
    (numbered : numberOf otherPrefix (formatId idPrefix number) = some carried) : other = entity := by
  have plain := prefixes_plain _ (entityPrefix_listed known)
  have plainOther := prefixes_plain _ (entityPrefix_listed knownOther)
  unfold numberOf at numbered
  obtain ⟨suffix, after, _⟩ := Option.bind_eq_some_iff.mp numbered
  unfold suffixOf at after
  dsimp only at after
  split at after
  · rename_i front
    obtain ⟨rest, written⟩ := List.isPrefixOf_iff_prefix.mp front
    have listed : otherPrefix.toList ++ '_' :: rest =
        idPrefix.toList ++ '_' :: (Timestamp.padded 6 number).toList := by
      rw [formatId] at written
      simpa using written
    have same := congrArg (List.takeWhile (· ≠ '_')) listed
    rw [takeWhile_underscore plainOther, takeWhile_underscore plain] at same
    have equal : otherPrefix = idPrefix := String.toList_inj.mp same
    exact entityPrefix_injective (equal ▸ knownOther) known
  · cases after

/-- The session, with the identifiers it has given out. -/
structure AllocationState where
  session : Session
  issued : List String := []

inductive AllocationOperation where
  | nextId (entity : String)
  | insert (row : IdRow)
  | flush

def step (state : AllocationState) : AllocationOperation → AllocationState
  | .nextId entity =>
    { session := (exec (nextId entity) state.session).2
      issued := state.issued ++ (exec (nextId entity) state.session).1.toOption.toList }
  | .insert row =>
    { state with session := { state.session with pending := state.session.pending ++ [row] } }
  | .flush => { state with session := (exec flush state.session).2 }

/-- The identifier is new, and its number is past that of every persisted one. -/
structure Fresh (state : AllocationState) (idPrefix publicId : String) : Prop where
  unissued : publicId ∉ state.issued
  past : ∃ own, numberOf idPrefix publicId = some own ∧
    ∀ row ∈ state.session.database.rows, ∀ number, numberOf idPrefix row.id = some number → number < own

/-- A call for a known entity is answered with a fresh identifier. -/
def Allocates (state : AllocationState) : AllocationOperation → Prop
  | .nextId entity => ∀ idPrefix, entityPrefix entity = some idPrefix →
      ∃ publicId, (exec (nextId entity) state.session).1 = .ok publicId ∧ Fresh state idPrefix publicId
  | _ => True

/-- A call finds a session that can answer it, and a counter that the database can hold. -/
def Countable (state : AllocationState) : AllocationOperation → Prop
  | .nextId entity => ∀ idPrefix, entityPrefix entity = some idPrefix →
      Answerable state.session idPrefix ∧
        ∀ current, state.session.database.counters entity = some current → current < integerBound
  | _ => True

/-- The number given out is past the rows and not before the counter, which moves past it. -/
structure Advances (session : Session) (entity idPrefix : String) : Prop where
  rows : ∀ row ∈ session.database.rows, ∀ number, numberOf idPrefix row.id = some number →
    number < session.next entity idPrefix - 1
  counter : ∀ current, session.database.counters entity = some current →
    current ≤ session.next entity idPrefix - 1
  moved : session.next entity idPrefix - 1 < session.next entity idPrefix
  held : session.next entity idPrefix ≤ integerBound

theorem advances {session : Session} {entity idPrefix : String} (answerable : Answerable session idPrefix)
    (counted : ∀ current, session.database.counters entity = some current → current < integerBound) :
    Advances session entity idPrefix := by
  have highest : highestNumber session.database.rows idPrefix < integerBound - 1 := by
    apply (highestNumber_lt_iff _ _ (by decide)).mpr
    intro row member number carried
    have bounded := answerable.bounded row member number carried
    omega
  have past : highestNumber session.database.rows idPrefix < session.next entity idPrefix - 1 ∧
      (∀ current, session.database.counters entity = some current →
        current ≤ session.next entity idPrefix - 1) ∧
      session.next entity idPrefix - 1 < session.next entity idPrefix ∧
      session.next entity idPrefix ≤ integerBound := by
    unfold Session.next advanced oneMore
    dsimp only
    cases counter : session.database.counters entity with
    | none =>
      simp only [Option.getD_none, lt_irrefl, if_false]
      refine ⟨by omega, ?_, by omega, by omega⟩
      intro current same
      cases same
    | some current =>
      have below := counted current counter
      simp only [Option.getD_some]
      split
      · refine ⟨by omega, ?_, by omega, by omega⟩
        intro other same
        cases same
        omega
      · refine ⟨by omega, ?_, by omega, by omega⟩
        intro other same
        cases same
        omega
  refine ⟨?_, past.2.1, past.2.2.1, past.2.2.2⟩
  intro row member number carried
  have inside := (highestNumber_lt_iff session.database.rows idPrefix (Nat.succ_pos _)).mp
    (Nat.lt_succ_self _) row member number carried
  exact lt_of_le_of_lt (Nat.le_of_lt_succ inside) past.1

/-- While the session is open, the numbers given out for an entity are below its counter,
and a counter the database cannot hold has just given out the last number. -/
structure Accounted (state : AllocationState) : Prop where
  below : state.session.rolledBack = false → ∀ entity idPrefix, entityPrefix entity = some idPrefix →
    ∀ publicId ∈ state.issued, ∀ number, numberOf idPrefix publicId = some number →
      ∃ current, state.session.database.counters entity = some current ∧ number < current
  exhausted : state.session.rolledBack = false → ∀ entity idPrefix, entityPrefix entity = some idPrefix →
    ∀ current, state.session.database.counters entity = some current → integerBound ≤ current →
      current = integerBound ∧ formatId idPrefix (integerBound - 1) ∈ state.issued

section

variable {state : AllocationState}

/-- A call that can be answered, with a counter that the database can hold, gives out a
fresh identifier. -/
theorem fresh_of_countable (accounted : Accounted state) {entity idPrefix : String}
    (known : entityPrefix entity = some idPrefix) (answerable : Answerable state.session idPrefix)
    (counted : ∀ current, state.session.database.counters entity = some current → current < integerBound) :
    Fresh state idPrefix (formatId idPrefix (state.session.next entity idPrefix - 1)) := by
  have moves := advances answerable counted
  constructor
  · intro issued
    obtain ⟨current, counter, below⟩ := accounted.below answerable.opened entity idPrefix known _ issued
      _ (numberOf_formatId _ _)
    have ahead := moves.counter current counter
    omega
  · exact ⟨_, numberOf_formatId _ _, moves.rows⟩

theorem allocates_iff (accounted : Accounted state) (operation : AllocationOperation) :
    Allocates state operation ↔ Countable state operation := by
  cases operation with
  | insert row => exact Iff.rfl
  | flush => exact Iff.rfl
  | nextId entity =>
    constructor
    · intro allocates idPrefix known
      obtain ⟨publicId, answered, fresh⟩ := allocates idPrefix known
      have answerable := answerable_of_answered known answered
      refine ⟨answerable, ?_⟩
      intro current counter
      by_contra high
      obtain ⟨same, issued⟩ := accounted.exhausted answerable.opened entity idPrefix known current
        counter (Nat.le_of_not_lt high)
      have highest : highestNumber state.session.database.rows idPrefix < integerBound - 1 := by
        apply (highestNumber_lt_iff _ _ (by decide)).mpr
        intro row member number carried
        have bounded := answerable.bounded row member number carried
        omega
      have stuck : state.session.next entity idPrefix = integerBound := by
        unfold Session.next advanced oneMore
        dsimp only
        rw [counter, Option.getD_some, same, if_neg (by omega)]
        omega
      rw [nextId_answered known answerable, stuck] at answered
      cases answered
      exact fresh.unissued issued
    · intro countable idPrefix known
      obtain ⟨answerable, counted⟩ := countable idPrefix known
      refine ⟨_, ?_, fresh_of_countable accounted known answerable counted⟩
      rw [nextId_answered known answerable]

theorem nextId_accounted (accounted : Accounted state) {entity idPrefix : String}
    (known : entityPrefix entity = some idPrefix) (answerable : Answerable state.session idPrefix)
    (counted : ∀ current, state.session.database.counters entity = some current → current < integerBound) :
    Accounted (step state (.nextId entity)) := by
  have moves := advances answerable counted
  have stepped : step state (.nextId entity) =
      { session := state.session.allocated entity idPrefix
        issued := state.issued ++ [formatId idPrefix (state.session.next entity idPrefix - 1)] } := by
    rw [step, nextId_answered known answerable]
    rfl
  have own : (state.session.allocated entity idPrefix).database.counters entity =
      some (state.session.next entity idPrefix) := by
    simp [Session.allocated, Session.counted]
  have others : ∀ other, other ≠ entity →
      (state.session.allocated entity idPrefix).database.counters other =
        state.session.database.counters other := by
    intro other different
    simp [Session.allocated, Session.counted, different]
  rw [stepped]
  constructor
  · intro _ other otherPrefix knownOther publicId member number carried
    dsimp only at member ⊢
    rcases List.mem_append.mp member with earlier | now
    · obtain ⟨current, counter, below⟩ := accounted.below answerable.opened other otherPrefix knownOther
        publicId earlier number carried
      by_cases same : other = entity
      · subst same
        have ahead := moves.counter current counter
        exact ⟨_, own, by omega⟩
      · exact ⟨current, (others other same).trans counter, below⟩
    · rw [List.mem_singleton.mp now] at carried
      have same := prefix_of_numberOf known knownOther carried
      subst same
      rw [known] at knownOther
      cases knownOther
      rw [numberOf_formatId] at carried
      cases carried
      exact ⟨_, own, moves.moved⟩
  · intro _ other otherPrefix knownOther current counter high
    dsimp only at counter ⊢
    by_cases same : other = entity
    · subst same
      rw [known] at knownOther
      cases knownOther
      rw [own] at counter
      cases counter
      have full : state.session.next other idPrefix = integerBound := le_antisymm moves.held high
      refine ⟨full, List.mem_append_right _ ?_⟩
      rw [full]
      exact List.mem_singleton_self _
    · rw [others other same] at counter
      obtain ⟨full, issued⟩ := accounted.exhausted answerable.opened other otherPrefix knownOther current
        counter high
      exact ⟨full, List.mem_append_left _ issued⟩

theorem step_accounted (accounted : Accounted state) (operation : AllocationOperation)
    (allocates : Allocates state operation) : Accounted (step state operation) := by
  cases operation with
  | insert row => exact ⟨accounted.below, accounted.exhausted⟩
  | flush =>
    cases opened : state.session.rolledBack with
    | true =>
      have closed : exec flush state.session = (.error .databaseError, state.session) := by
        unfold flush
        rw [Action.exec_get_bind, opened]
        rfl
      rw [step, closed]
      exact accounted
    | false =>
      rw [step, exec_flush state.session opened]
      split
      · exact ⟨accounted.below, accounted.exhausted⟩
      · constructor
        · intro reopened
          cases reopened
        · intro reopened
          cases reopened
  | nextId entity =>
    cases known : entityPrefix entity with
    | none =>
      have unknown : exec (nextId entity) state.session =
          (.error (.valueError ("Unknown Lucius entity type: " ++ entity)), state.session) := by
        unfold nextId
        rw [known]
        rfl
      have same : step state (.nextId entity) = state := by
        rw [step, unknown]
        simp [Except.toOption]
      rw [same]
      exact accounted
    | some idPrefix =>
      obtain ⟨answerable, counted⟩ := (allocates_iff accounted _).mp allocates idPrefix known
      exact nextId_accounted accounted known answerable counted

end

/-- The counters are integers of the database. -/
def Integral (session : Session) : Prop :=
  ∀ entity current, session.database.counters entity = some current → current < integerBound

/-- Every call of a run gives out a fresh identifier exactly when each finds an open session
whose rows it can read and whose numbers it can hold, and can write the rows that wait. -/
theorem identifiers_fresh_iff (session : Session) (integral : Integral session)
    (operations : List AllocationOperation) :
    Meets step Allocates ⟨session, []⟩ operations ↔ Meets step Countable ⟨session, []⟩ operations := by
  apply Run.meets_iff_guarded step Accounted
  · exact fun state operation accounted => allocates_iff accounted operation
  · exact fun state operation accounted allocates => step_accounted accounted operation allocates
  · constructor
    · intro _ entity idPrefix known publicId member
      cases member
    · intro _ entity idPrefix known current counter high
      have below := integral entity current counter
      omega

theorem integral_empty : Integral {} := by
  intro entity current counter
  cases counter

theorem tasks_numbered_iff :
    Meets step Allocates ⟨{}, []⟩ [.nextId "task", .insert ⟨"tasks", "LTASK_000001"⟩, .nextId "task"] ↔
      Meets step Countable ⟨{}, []⟩
        [.nextId "task", .insert ⟨"tasks", "LTASK_000001"⟩, .nextId "task"] :=
  identifiers_fresh_iff {} integral_empty _

/-- A row whose identifier ends in a superscript two makes every later call raise. -/
theorem superscript_digit_raises :
    Integral {} ∧ ¬ Meets step Allocates ⟨{}, []⟩
      [.insert ⟨"tasks", "LTASK_²"⟩, .flush, .nextId "task"] := by
  refine ⟨integral_empty, ?_⟩
  rintro ⟨_, _, allocates, _⟩
  obtain ⟨publicId, answered, _⟩ := allocates "LTASK" (by decide +kernel)
  have raised : (exec (nextId "task") (step (step ⟨{}, []⟩ (.insert ⟨"tasks", "LTASK_²"⟩))
      .flush).session).1.toOption = none := by
    decide +kernel
  rw [answered] at raised
  cases raised

end Lucius.PublicIds
