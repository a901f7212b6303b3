import Mathlib.Data.List.AList
import Mathlib.Data.List.Dedup

/-! Finite contents changed by updates, one after the other.

An update writes a value under a key or removes the key. What a list of updates
leaves under a key is the last of them for that key, so whether the list leaves
everything as it was is a question about last updates. -/

namespace Lucius.Updates

universe u v

variable {κ : Type u} {ν : Type v} [DecidableEq κ]

abbrev Contents (κ : Type u) (ν : Type v) := AList (fun _ : κ => ν)

abbrev Update (κ : Type u) (ν : Type v) := κ × Option ν

def applied (contents : Contents κ ν) (update : Update κ ν) : Contents κ ν :=
  match update.2 with
  | some value => contents.insert update.1 value
  | none => contents.erase update.1

def applyAll (contents : Contents κ ν) (updates : List (Update κ ν)) : Contents κ ν :=
  updates.foldl applied contents

/-- The last update of a key: what it wrote, or that it removed the key. -/
def last : List (Update κ ν) → κ → Option (Option ν)
  | [], _ => none
  | update :: rest, key => (last rest key).or (if update.1 = key then some update.2 else none)

/-- Each key the updates are about ends as it was. -/
def Neutral (contents : Contents κ ν) (updates : List (Update κ ν)) : Prop :=
  ∀ key value, last updates key = some value → value = contents.lookup key

def Same (left right : Contents κ ν) : Prop := ∀ key, left.lookup key = right.lookup key

@[simp] theorem applyAll_nil (contents : Contents κ ν) : applyAll contents [] = contents := rfl

@[simp] theorem applyAll_cons (contents : Contents κ ν) (update : Update κ ν)
    (rest : List (Update κ ν)) :
    applyAll contents (update :: rest) = applyAll (applied contents update) rest := rfl

theorem applyAll_append (contents : Contents κ ν) (front back : List (Update κ ν)) :
    applyAll contents (front ++ back) = applyAll (applyAll contents front) back := List.foldl_append

theorem lookup_applied (contents : Contents κ ν) (update : Update κ ν) (key : κ) :
    (applied contents update).lookup key =
      if update.1 = key then update.2 else contents.lookup key := by
  rcases update with ⟨written, _ | value⟩
  · by_cases same : written = key
    · subst same
      simp [applied]
    · have other : key ≠ written := fun equal => same equal.symm
      simp [applied, same, AList.lookup_erase_ne other]
  · by_cases same : written = key
    · subst same
      simp [applied]
    · have other : key ≠ written := fun equal => same equal.symm
      simp [applied, same, AList.lookup_insert_ne other]

theorem lookup_applyAll (contents : Contents κ ν) (updates : List (Update κ ν)) (key : κ) :
    (applyAll contents updates).lookup key = (last updates key).getD (contents.lookup key) := by
  induction updates generalizing contents with
  | nil => rfl
  | cons update rest ih =>
    rw [applyAll_cons, ih, lookup_applied, last]
    cases last rest key with
    | some value => rfl
    | none =>
      split <;> rfl

theorem last_append (front back : List (Update κ ν)) (key : κ) :
    last (front ++ back) key = (last back key).or (last front key) := by
  induction front with
  | nil => simp [last]
  | cons update rest ih => rw [List.cons_append, last, ih, last, Option.or_assoc]

theorem last_mem {updates : List (Update κ ν)} {key : κ} {value : Option ν}
    (found : last updates key = some value) : (key, value) ∈ updates := by
  induction updates with
  | nil => cases found
  | cons update rest ih =>
    rw [last, Option.or_eq_some_iff] at found
    rcases found with later | ⟨-, here⟩
    · exact List.mem_cons_of_mem _ (ih later)
    · split at here
      · rename_i same
        cases here
        rw [← same]
        exact List.mem_cons_self
      · cases here

theorem last_isSome {updates : List (Update κ ν)} {key : κ} {value : Option ν}
    (member : (key, value) ∈ updates) : (last updates key).isSome = true := by
  induction updates with
  | nil => cases member
  | cons update rest ih =>
    rw [last, Option.isSome_or]
    rcases List.mem_cons.mp member with same | later
    · subst same
      simp
    · rw [ih later]
      rfl

theorem last_eq_none {updates : List (Update κ ν)} {key : κ}
    (absent : ∀ value, (key, value) ∉ updates) : last updates key = none := by
  cases found : last updates key with
  | none => rfl
  | some value => exact absurd (last_mem found) (absent value)

theorem last_eq_some {updates : List (Update κ ν)} {key : κ} {value : Option ν}
    (member : (key, value) ∈ updates) (only : ∀ other, (key, other) ∈ updates → other = value) :
    last updates key = some value := by
  cases found : last updates key with
  | none =>
    have known := last_isSome member
    rw [found] at known
    cases known
  | some other => rw [only other (last_mem found)]

/-- Where no key is updated twice, each update is the last of its key. -/
theorem last_of_nodup {updates : List (Update κ ν)} (unique : (updates.map Prod.fst).Nodup)
    {key : κ} {value : Option ν} (member : (key, value) ∈ updates) : last updates key = some value := by
  induction updates with
  | nil => cases member
  | cons update rest ih =>
    rw [List.map_cons, List.nodup_cons] at unique
    rw [last]
    rcases List.mem_cons.mp member with same | later
    · subst same
      cases found : last rest key with
      | none => simp
      | some other => exact absurd (List.mem_map_of_mem (last_mem found)) unique.1
    · rw [ih unique.2 later]
      rfl

/-- Keys written from a function: each of them holds what the function gives, the others
what they held. -/
theorem lookup_applyAll_map (contents : Contents κ ν) (keys : List κ) (content : κ → Option ν) (key : κ) :
    (applyAll contents (keys.map (fun written => (written, content written)))).lookup key =
      if key ∈ keys then content key else contents.lookup key := by
  rw [lookup_applyAll]
  by_cases member : key ∈ keys
  · have found : last (keys.map (fun written => (written, content written))) key = some (content key) := by
      apply last_eq_some (List.mem_map.mpr ⟨key, member, rfl⟩)
      intro other listed
      obtain ⟨written, -, same⟩ := List.mem_map.mp listed
      cases same
      rfl
    rw [found, if_pos member]
    rfl
  · have silent : last (keys.map (fun written => (written, content written))) key = none := by
      apply last_eq_none
      intro value listed
      obtain ⟨written, here, same⟩ := List.mem_map.mp listed
      cases same
      exact member here
    rw [silent, if_neg member]
    rfl

theorem same_refl (contents : Contents κ ν) : Same contents contents := fun _ => rfl

/-- The keys under which two contents differ. -/
def differing [DecidableEq ν] (left right : Contents κ ν) : List κ :=
  (left.keys ++ right.keys).dedup.filter (fun key => decide (left.lookup key ≠ right.lookup key))

theorem mem_differing [DecidableEq ν] (left right : Contents κ ν) (key : κ) :
    key ∈ differing left right ↔ left.lookup key ≠ right.lookup key := by
  simp only [differing, List.mem_filter, List.mem_dedup, List.mem_append, decide_eq_true_eq,
    and_iff_right_iff_imp]
  intro different
  by_cases one : key ∈ left
  · exact .inl (AList.mem_keys.mp one)
  · by_cases two : key ∈ right
    · exact .inr (AList.mem_keys.mp two)
    · rw [AList.lookup_eq_none.mpr one, AList.lookup_eq_none.mpr two] at different
      exact absurd rfl different

theorem differing_eq_nil [DecidableEq ν] (left right : Contents κ ν) :
    differing left right = [] ↔ Same left right := by
  simp only [List.eq_nil_iff_forall_not_mem, mem_differing, ne_eq, not_not, Same]

/-- The updates leave every key as it was exactly when they are neutral. -/
theorem same_applyAll_iff (contents : Contents κ ν) (updates : List (Update κ ν)) :
    Same (applyAll contents updates) contents ↔ Neutral contents updates := by
  constructor
  · intro same key value found
    have kept := same key
    rwa [lookup_applyAll, found] at kept
  · intro neutral key
    rw [lookup_applyAll]
    cases found : last updates key with
    | none => rfl
    | some value => exact neutral key value found

theorem same_trans {first second third : Contents κ ν} (one : Same first second)
    (two : Same second third) : Same first third := fun key => (one key).trans (two key)

theorem same_symm {left right : Contents κ ν} (same : Same left right) : Same right left :=
  fun key => (same key).symm

/-- Contents that agree stay so under the same updates. -/
theorem same_applyAll {left right : Contents κ ν} (same : Same left right)
    (updates : List (Update κ ν)) : Same (applyAll left updates) (applyAll right updates) := by
  intro key
  rw [lookup_applyAll, lookup_applyAll, same key]

theorem neutral_nil (contents : Contents κ ν) : Neutral contents ([] : List (Update κ ν)) := by
  intro key value found
  cases found

/-- Updates that are undone: after them come others, and a key keeps the last of these. -/
theorem neutral_append_iff (contents : Contents κ ν) (front back : List (Update κ ν)) :
    Neutral contents (front ++ back) ↔ Neutral contents back ∧
      ∀ key value, last back key = none → last front key = some value →
        value = contents.lookup key := by
  constructor
  · intro neutral
    refine ⟨?_, ?_⟩
    · intro key value found
      apply neutral
      rw [last_append, found]
      rfl
    · intro key value silent found
      apply neutral
      rw [last_append, silent, found]
      rfl
  · rintro ⟨later, earlier⟩ key value found
    rw [last_append] at found
    cases undone : last back key with
    | some other =>
      rw [undone] at found
      cases found
      exact later key _ undone
    | none =>
      rw [undone] at found
      exact earlier key value undone found

/-- Contents that agree on the keys outside a set. -/
def AgreeOutside (inside : κ → Prop) (left right : Contents κ ν) : Prop :=
  ∀ key, ¬ inside key → left.lookup key = right.lookup key

/-- Each update is of a key inside, or writes what the contents have there. -/
def Confined (inside : κ → Prop) (contents : Contents κ ν) (updates : List (Update κ ν)) : Prop :=
  ∀ update ∈ updates, inside update.1 ∨ update.2 = contents.lookup update.1

variable {inside : κ → Prop} {contents other : Contents κ ν}

theorem agreeOutside_refl (inside : κ → Prop) (contents : Contents κ ν) :
    AgreeOutside inside contents contents := fun _ _ => rfl

theorem confined_nil : Confined inside contents ([] : List (Update κ ν)) := by
  intro update member
  cases member

theorem confined_append_iff (front back : List (Update κ ν)) :
    Confined inside contents (front ++ back) ↔
      Confined inside contents front ∧ Confined inside contents back := by
  simp only [Confined, List.forall_mem_append]

theorem confined_of_inside {updates : List (Update κ ν)}
    (member : ∀ update ∈ updates, inside update.1) : Confined inside contents updates :=
  fun update listed => .inl (member update listed)

/-- Whether updates are confined depends on what the contents have outside alone. -/
theorem confined_congr (agree : AgreeOutside inside contents other) (updates : List (Update κ ν)) :
    Confined inside contents updates ↔ Confined inside other updates := by
  apply forall₂_congr
  intro update _
  constructor
  · rintro (here | same)
    · exact .inl here
    · by_cases here : inside update.1
      · exact .inl here
      · exact .inr (same.trans (agree update.1 here))
  · rintro (here | same)
    · exact .inl here
    · by_cases here : inside update.1
      · exact .inl here
      · exact .inr (same.trans (agree update.1 here).symm)

theorem applyAll_agrees {start : Contents κ ν} {updates : List (Update κ ν)}
    (agree : AgreeOutside inside contents start) (confined : Confined inside start updates) :
    AgreeOutside inside (applyAll contents updates) start := by
  induction updates generalizing contents with
  | nil => exact agree
  | cons update rest ih =>
    apply ih
    · intro key outside
      rw [lookup_applied]
      split
      · rename_i same
        rcases confined update List.mem_cons_self with here | kept
        · exact absurd (same ▸ here) outside
        · rw [kept, same]
      · exact agree key outside
    · intro later member
      exact confined later (List.mem_cons_of_mem _ member)

/-- Updates are confined exactly when the contents agree outside after each of them. -/
theorem confined_iff {start : Contents κ ν} (agree : AgreeOutside inside contents start)
    (updates : List (Update κ ν)) :
    Confined inside start updates ↔ ∀ front back, updates = front ++ back →
      AgreeOutside inside (applyAll contents front) start := by
  constructor
  · intro confined front back split
    rw [split, confined_append_iff] at confined
    exact applyAll_agrees agree confined.1
  · intro always update member
    obtain ⟨front, back, split⟩ := List.append_of_mem member
    by_cases here : inside update.1
    · exact .inl here
    · have after := always (front ++ [update]) back (by rw [split]; simp) update.1 here
      rw [applyAll_append, applyAll_cons, applyAll_nil, lookup_applied, if_pos rfl] at after
      exact .inr after

end Lucius.Updates
