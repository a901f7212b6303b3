import Lucius.Models.CapabilityRouter

/-! Which model a decision selects and which it falls back to. An explicit chain goes before
the preferred model, so the preferred one is selected where the chain does not lead elsewhere. -/

namespace Lucius.Models

/-- A model asked for by id or by name. -/
def Preferred (request : ModelRequest) (pair : Candidate) : Prop :=
  ∃ model, request.preferredModel = some model ∧ isNamed model pair = true

def Offered (request : ModelRequest) (eligible : List Candidate) : Prop :=
  ∃ pair ∈ eligible, Preferred request pair

/-- Each explicit id takes the best of those it names among what is left, or names none of them. -/
inductive Chained (request : ModelRequest) :
    List String → List Candidate → List Candidate → List Candidate → Prop where
  | done (left) : Chained request [] left [] left
  | takes {id ids found left chain rest} (listed : found ∈ left) (called : isNamed id found = true)
      (best : ∀ other ∈ left, isNamed id other = true →
        selectionKey request found ≤ selectionKey request other)
      (later : Chained request ids (left.erase found) chain rest) :
      Chained request (id :: ids) left (found :: chain) rest
  | skips {id ids left chain rest} (unknown : ∀ other ∈ left, isNamed id other = false)
      (later : Chained request ids left chain rest) : Chained request (id :: ids) left chain rest

/-- The explicit chain first, the others by preference, quality, cost and latency. -/
def DocumentedOrder (request : ModelRequest) (eligible order : List Candidate) : Prop :=
  ∃ listed chain rest, listed.Perm eligible ∧ Chained request request.fallbackModelIds listed chain rest ∧
    rest.Pairwise (fun left right => selectionKey request left ≤ selectionKey request right) ∧
    order = chain ++ rest

/-- The preferred model where it is eligible, else the first in order; then every other one once. -/
def Selects (request : ModelRequest) (eligible : List Candidate) (decision : RoutingDecision) : Prop :=
  (eligible = [] ∧ decision.selectedProfileId = none ∧ decision.fallbackProfileIds = []) ∨
  ∃ selected ∈ eligible, ∃ order, DocumentedOrder request eligible order ∧
    (Offered request eligible → Preferred request selected) ∧
    (¬ Offered request eligible → order.head? = some selected) ∧
    decision.selectedProfileId = selected.1.id ∧
    decision.fallbackProfileIds.map some = (order.erase selected).map (·.1.id) ∧
    decision.fallbackProfileIds.Nodup ∧
    ∀ id, id ∈ decision.fallbackProfileIds ↔
      some id ≠ selected.1.id ∧ ∃ pair ∈ eligible, pair.1.id = some id

/-- The first explicit id that names an eligible model names a preferred one, if one is eligible. -/
def ChainKeepsPreferred (request : ModelRequest) (eligible : List Candidate) : Prop :=
  Offered request eligible →
    ∀ id, request.fallbackModelIds.find? (fun id => eligible.any (isNamed id)) = some id →
      ∃ pair ∈ eligible, isNamed id pair = true ∧ Preferred request pair

section

variable {request : ModelRequest} {left chain rest : List Candidate}

theorem Chained.perm {ids : List String} (chained : Chained request ids left chain rest) :
    (chain ++ rest).Perm left := by
  induction chained with
  | done => exact .refl _
  | takes listed _ _ _ ih => exact (ih.cons _).trans (List.perm_cons_erase listed).symm
  | skips _ _ ih => exact ih

theorem Chained.nothing {ids : List String} (chained : Chained request ids left chain rest)
    (empty : chain = []) : rest = left := by
  induction chained with
  | done => rfl
  | takes => cases empty
  | skips _ _ ih => exact ih empty

def Ranked (request : ModelRequest) (candidates : List Candidate) : Prop :=
  candidates.Pairwise fun left right => selectionKey request left ≤ selectionKey request right

/-- Of a ranked list the first that meets a test is the best that does. -/
theorem best_of_find {test : Candidate → Bool} (ranked : Ranked request left) {found : Candidate}
    (first : left.find? test = some found) {other : Candidate} (listed : other ∈ left)
    (meets : test other = true) : selectionKey request found ≤ selectionKey request other := by
  obtain ⟨_, front, back, rfl, before⟩ := List.find?_eq_some_iff_append.mp first
  rcases List.mem_append.mp listed with early | late
  · exact absurd meets (by simpa using before other early)
  · rcases List.mem_cons.mp late with same | later
    · rw [same]
    · exact (List.pairwise_cons.mp (List.pairwise_append.mp ranked).2.1).1 other later

theorem chained_of_takes (ids : List String) (taken : List Candidate) (ranked : Ranked request left) :
    ∃ chain rest, ids.foldl takeNamed (taken, left) = (taken ++ chain, rest) ∧
      Chained request ids left chain rest ∧ Ranked request rest := by
  induction ids generalizing taken left with
  | nil => exact ⟨[], left, by rw [List.append_nil]; rfl, .done left, ranked⟩
  | cons id ids ih =>
    rw [List.foldl_cons, takeNamed]
    cases first : left.find? (isNamed id) with
    | none =>
      obtain ⟨chain, rest, folded, chained, later⟩ := ih taken ranked
      have unknown (other : Candidate) (listed : other ∈ left) : isNamed id other = false := by
        simpa using List.find?_eq_none.mp first other listed
      exact ⟨chain, rest, folded, .skips unknown chained, later⟩
    | some found =>
      have shorter : Ranked request (left.erase found) := ranked.sublist (List.erase_sublist)
      obtain ⟨chain, rest, folded, chained, later⟩ := ih (taken ++ [found]) shorter
      refine ⟨found :: chain, rest, ?_, ?_, later⟩
      · rw [folded, List.append_assoc, List.singleton_append]
      · exact .takes (List.mem_of_find?_eq_some first) (List.find?_some first)
          (fun other listed called => best_of_find ranked first listed called) chained

/-- What stands first: of those the first telling id names, the best. -/
theorem Chained.head {ids : List String} (chained : Chained request ids left chain rest)
    (ranked : Ranked request left) {first : Candidate} (leads : (chain ++ rest).head? = some first) :
    first ∈ left ∧
    (ids.find? (fun id => left.any (isNamed id)) = none → ∀ other ∈ left,
      selectionKey request first ≤ selectionKey request other) ∧
    (∀ id, ids.find? (fun id => left.any (isNamed id)) = some id → isNamed id first = true ∧
      ∀ other ∈ left, isNamed id other = true →
        selectionKey request first ≤ selectionKey request other) := by
  induction chained with
  | done left =>
    cases left with
    | nil => cases leads
    | cons head tail =>
      cases leads
      refine ⟨List.mem_cons_self, fun _ other listed => ?_, (nomatch ·, ·)⟩
      rcases List.mem_cons.mp listed with same | later
      · rw [same]
      · exact (List.pairwise_cons.mp ranked).1 other later
  | @takes id ids found left chain rest listed called best later ih =>
    cases leads
    have tells : left.any (isNamed id) = true := List.any_eq_true.mpr ⟨first, listed, called⟩
    rw [List.find?_cons_of_pos (p := fun id => left.any (isNamed id)) tells]
    refine ⟨listed, (nomatch ·), fun other same => ?_⟩
    cases same
    exact ⟨called, best⟩
  | @skips id ids left chain rest unknown later ih =>
    have silent : ¬ left.any (isNamed id) = true := by
      intro tells
      obtain ⟨other, listed, called⟩ := List.any_eq_true.mp tells
      rw [unknown other listed] at called
      cases called
    rw [List.find?_cons_of_neg (p := fun id => left.any (isNamed id)) silent]
    exact ih ranked leads

end

variable {request : ModelRequest} {eligible : List Candidate}

/-- A model ranked no later than a preferred one is preferred too. -/
theorem preferred_of_before {first second : Candidate}
    (before : selectionKey request first ≤ selectionKey request second)
    (preferred : Preferred request second) : Preferred request first := by
  obtain ⟨model, asked, called⟩ := preferred
  have second_key : request.preferredModel ∈ [second.1.id, some second.1.modelName] := by
    rw [asked]
    rcases of_decide_eq_true called with same | same
    · rw [same]
      exact List.mem_cons_self
    · rw [same]
      exact List.mem_cons_of_mem _ List.mem_cons_self
  have first_key : request.preferredModel ∈ [first.1.id, some first.1.modelName] := by
    by_contra other
    rw [selectionKey, selectionKey, Prod.Lex.toLex_le_toLex, if_neg other, if_pos second_key] at before
    rcases before with less | same
    · exact absurd less (Nat.not_lt_zero _)
    · exact absurd same.1 Nat.one_ne_zero
  rw [asked] at first_key
  refine ⟨model, asked, decide_eq_true ?_⟩
  rcases List.mem_cons.mp first_key with same | later
  · exact .inl same.symm
  · exact .inr (Option.some.inj (List.mem_singleton.mp later)).symm

theorem orderEligible_documented (request : ModelRequest) (eligible : List Candidate) :
    ∃ listed chain rest, listed.Perm eligible ∧ Ranked request listed ∧
      Chained request request.fallbackModelIds listed chain rest ∧ Ranked request rest ∧
      orderEligible request eligible = chain ++ rest := by
  have ranked : Ranked request (sortedBy (selectionKey request) eligible) := sortedBy_pairwise _ _
  have perm : (sortedBy (selectionKey request) eligible).Perm eligible := List.perm_insertionSort _ _
  obtain ⟨chain, rest, folded, chained, later⟩ := chained_of_takes request.fallbackModelIds [] ranked
  refine ⟨_, chain, rest, perm, ranked, chained, later, ?_⟩
  rw [List.nil_append] at folded
  unfold orderEligible
  simp only [folded]
  cases chain with
  | nil =>
    rw [chained.nothing rfl]
    split <;> rfl
  | cons head tail =>
    split
    · next absent =>
        rw [List.isEmpty_iff.mp absent] at folded
        cases folded
    · rfl

/-- The first in order is preferred if one is and the chain does not lead elsewhere. -/
theorem preferred_leads {first : Candidate} {others : List Candidate}
    (leads : orderEligible request eligible = first :: others)
    (keeps : ChainKeepsPreferred request eligible) (offered : Offered request eligible) :
    Preferred request first := by
  obtain ⟨listed, chain, rest, perm, ranked, chained, -, order⟩ := orderEligible_documented request eligible
  have head : (chain ++ rest).head? = some first := by rw [← order, leads, List.head?_cons]
  obtain ⟨-, best, bestNamed⟩ := chained.head ranked head
  have same : (fun id => listed.any (isNamed id)) = (fun id => eligible.any (isNamed id)) :=
    funext fun id => perm.any_eq
  rw [same] at best bestNamed
  cases told : request.fallbackModelIds.find? (fun id => eligible.any (isNamed id)) with
  | none =>
    obtain ⟨pair, member, preferred⟩ := offered
    exact preferred_of_before (best told pair (perm.mem_iff.mpr member)) preferred
  | some id =>
    obtain ⟨pair, member, called, preferred⟩ := keeps offered id told
    exact preferred_of_before ((bestNamed id told).2 pair (perm.mem_iff.mpr member) called) preferred

theorem keeps_of_preferred {first : Candidate} {others : List Candidate}
    (leads : orderEligible request eligible = first :: others)
    (preferred : Offered request eligible → Preferred request first) :
    ChainKeepsPreferred request eligible := by
  intro offered id told
  obtain ⟨listed, chain, rest, perm, ranked, chained, -, order⟩ := orderEligible_documented request eligible
  have head : (chain ++ rest).head? = some first := by rw [← order, leads, List.head?_cons]
  obtain ⟨member, -, bestNamed⟩ := chained.head ranked head
  have same : (fun id => listed.any (isNamed id)) = (fun id => eligible.any (isNamed id)) :=
    funext fun id => perm.any_eq
  rw [same] at bestNamed
  exact ⟨first, perm.mem_iff.mp member, (bestNamed id told).1, preferred offered⟩

theorem judged_ok {providers : List ModelProvider} {profile : ModelProfile} {pair : Candidate}
    (judgement : (judged request providers profile).toOption = some pair) : pair.1 = profile := by
  unfold judged at judgement
  split at judgement
  · cases judgement
  · split at judgement <;> cases judgement
    rfl

theorem eligible_sublist (registry : Registry) (request : ModelRequest) :
    ((registry.eligible request).map (·.1)).Sublist registry.profiles := by
  unfold Registry.eligible eligibleOf
  induction registry.profiles with
  | nil => exact .slnil
  | cons profile rest ih =>
    rw [List.filterMap_cons]
    cases judgement : (judged request registry.providers profile).toOption with
    | none => exact ih.cons _
    | some pair =>
      rw [List.map_cons, judged_ok judgement]
      exact ih.cons_cons _

variable {registry : Registry}

theorem eligible_ids (registry : Registry) (request : ModelRequest) :
    ((registry.eligible request).map (·.1.id)).Nodup := by
  have sub := (eligible_sublist registry request).map (·.id)
  rw [List.map_map] at sub
  exact registry.distinct.sublist sub

theorem eligible_registered {pair : Candidate} (listed : pair ∈ registry.eligible request) :
    pair.1.id.isSome :=
  registry.registered _ ((eligible_sublist registry request).subset (List.mem_map_of_mem listed))

theorem eligible_of_id {one two : Candidate} (first : one ∈ registry.eligible request)
    (second : two ∈ registry.eligible request) (same : one.1.id = two.1.id) : one = two :=
  List.inj_on_of_nodup_map (eligible_ids registry request) first second same

/-- A decision says the eligible models in the order they were put. -/
theorem routeRequest_of_order {first : Candidate} {others : List Candidate}
    (leads : orderEligible request (registry.eligible request) = first :: others) :
    (registry.routeRequest request).selectedProfileId = first.1.id ∧
      (registry.routeRequest request).fallbackProfileIds = others.filterMap (·.1.id) := by
  unfold Registry.routeRequest route
  rw [show eligibleOf request registry.providers registry.profiles = registry.eligible request from rfl,
    leads]
  exact ⟨rfl, rfl⟩

/-- Behind the first, the ids tell every other eligible model once. -/
theorem fallback_ids {first : Candidate} {others : List Candidate}
    (whole : (first :: others).Perm (registry.eligible request)) :
    (others.filterMap (·.1.id)).map some = others.map (·.1.id) ∧ (others.filterMap (·.1.id)).Nodup ∧
      ∀ id, id ∈ others.filterMap (·.1.id) ↔
        some id ≠ first.1.id ∧ ∃ pair ∈ registry.eligible request, pair.1.id = some id := by
  have told : (others.filterMap (·.1.id)).map some = others.map (·.1.id) := by
    rw [List.map_filterMap]
    apply List.filterMap_eq_map_iff_forall_eq_some.mpr
    intro pair member
    have known := eligible_registered (whole.mem_iff.mp (List.mem_cons_of_mem first member))
    obtain ⟨id, same⟩ := Option.isSome_iff_exists.mp known
    rw [same]
    rfl
  have distinct : ((first :: others).map (·.1.id)).Nodup :=
    ((whole.map _).nodup_iff).mpr (eligible_ids registry request)
  obtain ⟨apart, once⟩ := List.nodup_cons.mp distinct
  refine ⟨told, List.Nodup.of_map some (told ▸ once), fun id => ?_⟩
  have listed : id ∈ others.filterMap (·.1.id) ↔ some id ∈ others.map (·.1.id) := by
    rw [← told, List.mem_map_of_injective (Option.some_injective _)]
  rw [listed]
  constructor
  · intro member
    obtain ⟨pair, inside, same⟩ := List.mem_map.mp member
    exact ⟨fun equal => apart (show first.1.id ∈ _ from equal ▸ member), pair,
      whole.mem_iff.mp (List.mem_cons_of_mem first inside), same⟩
  · rintro ⟨other, pair, inside, same⟩
    rcases List.mem_cons.mp (whole.mem_iff.mpr inside) with equal | later
    · exact absurd (equal ▸ same).symm other
    · exact List.mem_map.mpr ⟨pair, later, same⟩

/-- Two models and a chain that names the one which is not preferred. -/
def chainedRequest : ModelRequest where
  requestId := "REQ-1"
  preferredModel := some "MODEL-1"
  fallbackModelIds := ["MODEL-2"]

def twoModels : Registry where
  providers := [{ id := some "PROV-1", name := "local", providerType := .local }]
  profiles := [
    { id := some "MODEL-1", providerId := "PROV-1", modelName := "small", privacyClass := .internal },
    { id := some "MODEL-2", providerId := "PROV-1", modelName := "large", privacyClass := .internal }]
  registered := by decide
  distinct := by decide

end Lucius.Models
