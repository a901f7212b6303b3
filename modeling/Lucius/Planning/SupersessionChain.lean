import Lucius.Runtime.PlannedWork

/-! The links between a plan and the plan that supersedes it, over every sequence of plans made,
replaced and rejected. -/

namespace Lucius.Planning.Chain

open Lucius.Action Runtime.PlannedWork

/-- The operations of the planner; anything else leaves the plans as they are. -/
inductive PlanOperation where
  | createPlan (model : PlanningModel) (taskId : String) (snapshotIds : List String)
  | replan (model : PlanningModel) (previousPlanId : String) (snapshotIds : List String)
  | rejectPlan (planId : String)
  | elsewhere (other : Store)

def step (store : Store) : PlanOperation → Store
  | .createPlan model taskId snapshotIds =>
    (exec (EngineeringPlannerService.createPlan model taskId snapshotIds) store).2
  | .replan model previousPlanId snapshotIds =>
    (exec (EngineeringPlannerService.replan model previousPlanId snapshotIds) store).2
  | .rejectPlan planId => (exec (EngineeringPlannerService.rejectPlan planId) store).2
  | .elsewhere other => { other with plans := store.plans }

/-- The links are inverse to one another, and no rejected plan has a successor. -/
structure Chained (plans : Table EngineeringPlanRow) : Prop where
  inverse : ∀ plan ∈ plans.rows, ∀ next ∈ plans.rows,
    plan.supersededByPlanId = some next.id ↔ next.supersedesPlanId = some plan.id
  single : ∀ plan ∈ plans.rows, ∀ next ∈ plans.rows, ∀ other ∈ plans.rows,
    next.supersedesPlanId = some plan.id → other.supersedesPlanId = some plan.id → next = other
  unrejected : ∀ plan ∈ plans.rows, plan.status = .rejected →
    plan.supersededByPlanId = none ∧ ∀ next ∈ plans.rows, next.supersedesPlanId ≠ some plan.id

/-- Links name plans that there are. -/
def Known (plans : Table EngineeringPlanRow) : Prop :=
  ∀ plan ∈ plans.rows, ∀ planId, plan.supersededByPlanId = some planId ∨ plan.supersedesPlanId = some planId →
    ∃ other ∈ plans.rows, other.id = planId

/-- A plan that has a successor is neither replaced nor rejected. -/
def Apt (store : Store) : PlanOperation → Prop
  | .replan model previousPlanId snapshotIds => ∀ previous plan,
      Replaces model previousPlanId snapshotIds store previous plan → previous.supersededByPlanId = none
  | .rejectPlan planId => ∀ plan, store.plans.get? planId = some plan → plan.supersededByPlanId = none
  | _ => True

variable {plans : Table EngineeringPlanRow} {plan previous : EngineeringPlanRow}

theorem chained_of_inverse (inverse : ∀ plan ∈ plans.rows, ∀ next ∈ plans.rows,
      plan.supersededByPlanId = some next.id ↔ next.supersedesPlanId = some plan.id)
    (unrejected : ∀ plan ∈ plans.rows, plan.status = .rejected → plan.supersededByPlanId = none) :
    Chained plans := by
  refine ⟨inverse, ?_, fun plan member rejected => ⟨unrejected plan member rejected, ?_⟩⟩
  · intro plan member next first other second one two
    have left := (inverse plan member next first).mpr one
    rw [(inverse plan member other second).mpr two] at left
    exact Table.row_unique first second (Option.some.inj left).symm
  · intro next inside link
    have named := (inverse plan member next inside).mpr link
    rw [unrejected plan member rejected] at named
    cases named

theorem mem_add_fresh {other : EngineeringPlanRow} (fresh : plans.get? plan.id = none) :
    other ∈ (plans.add plan).rows ↔ other ∈ plans.rows ∨ other = plan := by
  rw [Table.add_rows fresh, List.mem_append, List.mem_singleton]

theorem mem_put_listed {row other : EngineeringPlanRow} (listed : plan ∈ plans.rows) (same : row.id = plan.id) :
    other ∈ (plans.put row).rows ↔ (other ∈ plans.rows ∧ other.id ≠ plan.id) ∨ other = row := by
  constructor
  · intro member
    rcases Table.mem_put member with rfl | ⟨old, apart⟩
    · exact .inr rfl
    · exact .inl ⟨old, fun equal => apart (equal.trans same.symm)⟩
  · rintro (⟨old, apart⟩ | rfl)
    · exact Table.mem_put_other old fun equal => apart (equal.trans same)
    · exact Table.get?_mem (Table.get?_put_same (Table.get?_of_mem listed) same)

theorem ne_of_fresh (fresh : plans.get? plan.id = none) {old : EngineeringPlanRow} (member : old ∈ plans.rows) :
    old.id ≠ plan.id := by
  intro same
  have found : plans.get? old.id = some old := Table.get?_of_mem member
  rw [same, fresh] at found
  cases found

/-- What a replan leaves: the plan before, superseded, the new one, linked, and the others. -/
def replaced (plans : Table EngineeringPlanRow) (previous plan : EngineeringPlanRow) : Table EngineeringPlanRow :=
  ((plans.add plan).put { previous with status := .superseded, supersededByPlanId := some plan.id }).put
    { plan with supersedesPlanId := some previous.id }

theorem mem_replaced (fresh : plans.get? plan.id = none) (listed : previous ∈ plans.rows)
    {other : EngineeringPlanRow} : other ∈ (replaced plans previous plan).rows ↔
      (other ∈ plans.rows ∧ other.id ≠ previous.id) ∨
        other = { previous with status := .superseded, supersededByPlanId := some plan.id } ∨
        other = { plan with supersedesPlanId := some previous.id } := by
  have apart := ne_of_fresh fresh listed
  let superseded : EngineeringPlanRow := { previous with status := .superseded, supersededByPlanId := some plan.id }
  have put (row : EngineeringPlanRow) : row ∈ ((plans.add plan).put superseded).rows ↔
      (row ∈ (plans.add plan).rows ∧ row.id ≠ previous.id) ∨ row = superseded :=
    mem_put_listed ((mem_add_fresh fresh).mpr (.inl listed)) rfl
  have here : plan ∈ ((plans.add plan).put superseded).rows :=
    (put plan).mpr (.inl ⟨(mem_add_fresh fresh).mpr (.inr rfl), apart.symm⟩)
  refine (@mem_put_listed _ plan { plan with supersedesPlanId := some previous.id } other here rfl).trans ?_
  rw [put, mem_add_fresh fresh]
  constructor
  · rintro (⟨⟨old | rfl, other⟩ | rfl, new⟩ | rfl)
    · exact .inl ⟨old, other⟩
    · exact absurd rfl new
    · exact .inr (.inl rfl)
    · exact .inr (.inr rfl)
  · rintro (⟨old, other⟩ | rfl | rfl)
    · exact .inl ⟨.inl ⟨.inl old, other⟩, ne_of_fresh fresh old⟩
    · exact .inl ⟨.inr rfl, apart⟩
    · exact .inr rfl

section

variable (known : Known plans) (chained : Chained plans)
include known

theorem known_replaced (fresh : plans.get? plan.id = none) (listed : previous ∈ plans.rows)
    (blank : plan.supersededByPlanId = none) : Known (replaced plans previous plan) := by
  have kept : ∀ old ∈ plans.rows, ∃ other ∈ (replaced plans previous plan).rows, other.id = old.id := by
    intro old member
    by_cases same : old.id = previous.id
    · exact ⟨_, (mem_replaced fresh listed).mpr (.inr (.inl rfl)), same.symm⟩
    · exact ⟨old, (mem_replaced fresh listed).mpr (.inl ⟨member, same⟩), rfl⟩
  have passed {planId : String} (found : ∃ other ∈ plans.rows, other.id = planId) :
      ∃ other ∈ (replaced plans previous plan).rows, other.id = planId := by
    obtain ⟨old, member, rfl⟩ := found
    exact kept old member
  have new : ∃ other ∈ (replaced plans previous plan).rows, other.id = plan.id :=
    ⟨_, (mem_replaced fresh listed).mpr (.inr (.inr rfl)), rfl⟩
  intro row member planId link
  rcases (mem_replaced fresh listed).mp member with ⟨old, -⟩ | rfl | rfl
  · exact passed (known row old planId link)
  · rcases link with link | link
    · exact Option.some.inj link ▸ new
    · exact passed (known previous listed planId (.inr link))
  · rcases link with link | link
    · rw [show plan.supersededByPlanId = some planId from link] at blank
      cases blank
    · exact passed ⟨previous, listed, Option.some.inj link⟩

theorem unnamed_of_fresh (fresh : plans.get? plan.id = none) : ∀ row ∈ plans.rows,
    row.supersededByPlanId ≠ some plan.id ∧ row.supersedesPlanId ≠ some plan.id := by
  intro row member
  constructor
  · intro link
    obtain ⟨other, old, same⟩ := known row member plan.id (.inl link)
    exact ne_of_fresh fresh old same
  · intro link
    obtain ⟨other, old, same⟩ := known row member plan.id (.inr link)
    exact ne_of_fresh fresh old same

include chained

theorem chained_replaced (fresh : plans.get? plan.id = none) (listed : previous ∈ plans.rows)
    (blank : plan.status = .proposed ∧ plan.supersedesPlanId = none ∧ plan.supersededByPlanId = none)
    (last : previous.supersededByPlanId = none) : Chained (replaced plans previous plan) := by
  have unnamed := unnamed_of_fresh known fresh
  have apart := ne_of_fresh fresh listed
  have inverse := chained.inverse
  have others : ∀ row ∈ plans.rows, row.id ≠ plan.id := fun row member => ne_of_fresh fresh member
  apply chained_of_inverse
  · intro row member next inside
    rcases (mem_replaced fresh listed).mp member with ⟨old, other⟩ | rfl | rfl
    · rcases (mem_replaced fresh listed).mp inside with ⟨later, _⟩ | rfl | rfl
      · exact inverse row old next later
      · exact inverse row old previous listed
      · exact iff_of_false (unnamed row old).1 fun same => other (Option.some.inj same).symm
    · rcases (mem_replaced fresh listed).mp inside with ⟨later, _⟩ | rfl | rfl
      · refine iff_of_false (fun same => others next later (Option.some.inj same).symm) fun link => ?_
        rw [(inverse previous listed next later).mpr link] at last
        cases last
      · refine iff_of_false (fun same => apart (Option.some.inj same).symm) fun link => ?_
        rw [(inverse previous listed previous listed).mpr link] at last
        cases last
      · exact iff_of_true rfl rfl
    · have none (planId : String) : plan.supersededByPlanId ≠ some planId := by
        rw [blank.2.2]
        exact (Option.some_ne_none _).symm
      rcases (mem_replaced fresh listed).mp inside with ⟨later, _⟩ | rfl | rfl
      · exact iff_of_false (none _) (unnamed next later).2
      · exact iff_of_false (none _) (unnamed previous listed).2
      · exact iff_of_false (none _) fun same => apart (Option.some.inj same)
  · intro row member rejected
    rcases (mem_replaced fresh listed).mp member with ⟨old, _⟩ | rfl | rfl
    · exact (chained.unrejected row old rejected).1
    · cases rejected
    · exact blank.2.2

theorem chained_add (fresh : plans.get? plan.id = none)
    (blank : plan.status = .proposed ∧ plan.supersedesPlanId = none ∧ plan.supersededByPlanId = none) :
    Chained (plans.add plan) := by
  have unnamed := unnamed_of_fresh known fresh
  apply chained_of_inverse
  · intro row member next inside
    rcases (mem_add_fresh fresh).mp member with old | rfl
    · rcases (mem_add_fresh fresh).mp inside with later | rfl
      · exact chained.inverse row old next later
      · rw [blank.2.1]
        exact iff_of_false (unnamed row old).1 (Option.some_ne_none _).symm
    · rw [blank.2.2]
      refine iff_of_false (Option.some_ne_none _).symm ?_
      rcases (mem_add_fresh fresh).mp inside with later | rfl
      · exact (unnamed next later).2
      · rw [blank.2.1]
        exact (Option.some_ne_none _).symm
  · intro row member rejected
    rcases (mem_add_fresh fresh).mp member with old | rfl
    · exact (chained.unrejected row old rejected).1
    · exact blank.2.2

end

theorem known_add (known : Known plans) (fresh : plans.get? plan.id = none)
    (blank : plan.supersedesPlanId = none ∧ plan.supersededByPlanId = none) : Known (plans.add plan) := by
  intro row member planId link
  rcases (mem_add_fresh fresh).mp member with old | rfl
  · obtain ⟨other, inside, same⟩ := known row old planId link
    exact ⟨other, (mem_add_fresh fresh).mpr (.inl inside), same⟩
  · rw [blank.1, blank.2] at link
    exact absurd link (by simp)

theorem chained_rejected_iff (chained : Chained plans) (listed : plan ∈ plans.rows) :
    Chained (plans.put { plan with status := .rejected }) ↔ plan.supersededByPlanId = none := by
  have rows {other : EngineeringPlanRow} := @mem_put_listed plans plan { plan with status := .rejected } other listed rfl
  constructor
  · intro after
    exact (after.unrejected _ (rows.mpr (.inr rfl)) rfl).1
  · intro last
    apply chained_of_inverse
    · intro row member next inside
      rcases rows.mp member with ⟨old, _⟩ | rfl <;> rcases rows.mp inside with ⟨later, _⟩ | rfl
      · exact chained.inverse row old next later
      · exact chained.inverse row old plan listed
      · exact chained.inverse plan listed next later
      · exact chained.inverse plan listed plan listed
    · intro row member rejected
      rcases rows.mp member with ⟨old, _⟩ | rfl
      · exact (chained.unrejected row old rejected).1
      · exact last

theorem known_rejected (known : Known plans) (listed : plan ∈ plans.rows) :
    Known (plans.put { plan with status := .rejected }) := by
  have rows {other : EngineeringPlanRow} := @mem_put_listed plans plan { plan with status := .rejected } other listed rfl
  have kept {planId : String} (found : ∃ other ∈ plans.rows, other.id = planId) :
      ∃ other ∈ (plans.put { plan with status := .rejected }).rows, other.id = planId := by
    obtain ⟨other, member, rfl⟩ := found
    by_cases same : other.id = plan.id
    · exact ⟨_, rows.mpr (.inr rfl), same.symm⟩
    · exact ⟨other, rows.mpr (.inl ⟨member, same⟩), rfl⟩
  intro row member planId link
  rcases rows.mp member with ⟨old, _⟩ | rfl
  · exact kept (known row old planId link)
  · exact kept (known plan listed planId link)

theorem chained_replaced_iff (known : Known plans) (chained : Chained plans) (fresh : plans.get? plan.id = none)
    (listed : previous ∈ plans.rows)
    (blank : plan.status = .proposed ∧ plan.supersedesPlanId = none ∧ plan.supersededByPlanId = none) :
    Chained (replaced plans previous plan) ↔ previous.supersededByPlanId = none := by
  refine ⟨fun after => ?_, chained_replaced known chained fresh listed blank⟩
  by_contra linked
  obtain ⟨planId, named⟩ := Option.ne_none_iff_exists'.mp linked
  obtain ⟨next, inside, rfl⟩ := known previous listed planId (.inl named)
  have back := (chained.inverse previous listed next inside).mp named
  -- The former successor, or the plan itself where it was its own, still names the plan.
  have still : ∃ row ∈ (replaced plans previous plan).rows, row.id = next.id ∧
      row.supersedesPlanId = some previous.id := by
    by_cases same : next.id = previous.id
    · rw [Table.row_unique inside listed same] at back
      exact ⟨_, (mem_replaced fresh listed).mpr (.inr (.inl rfl)), same.symm, back⟩
    · exact ⟨next, (mem_replaced fresh listed).mpr (.inl ⟨inside, same⟩), rfl, back⟩
  obtain ⟨row, member, identity, link⟩ := still
  have equal := after.single _ ((mem_replaced fresh listed).mpr (.inr (.inl rfl))) _
    ((mem_replaced fresh listed).mpr (.inr (.inr rfl))) row member rfl link
  exact ne_of_fresh fresh inside (identity.symm.trans (congrArg EngineeringPlanRow.id equal).symm)

/-- A plan that says what it said: only its status and its links change, and once it is withdrawn
it is not proposed again. -/
structure Stands (old new : EngineeringPlanRow) : Prop where
  content : new = { old with
    status := new.status, supersedesPlanId := new.supersedesPlanId,
    supersededByPlanId := new.supersededByPlanId }
  status : new.status = old.status ∨ new.status ∈ [EngineeringPlanStatus.superseded, .rejected]

theorem stands_refl (plan : EngineeringPlanRow) : Stands plan plan := ⟨rfl, .inl rfl⟩

theorem stands_trans (first second third : EngineeringPlanRow) (one : Stands first second)
    (two : Stands second third) : Stands first third := by
  refine ⟨by rw [two.content, one.content], ?_⟩
  rcases two.status with same | withdrawn
  · exact same ▸ one.status
  · exact .inr withdrawn

theorem stands_put {new : EngineeringPlanRow} (listed : plan ∈ plans.rows) (stands : Stands plan new) :
    plans.Keeps Stands (plans.put new) := by
  have named : new.id = plan.id := by rw [stands.content]
  exact Table.keeps_put stands_refl listed named stands

theorem step_stands (store : Store) (operation : PlanOperation) :
    store.plans.Keeps Stands (step store operation).plans := by
  have kept {after : Tables} (same : after = store.toTables) : store.plans.Keeps Stands after.plans :=
    same ▸ Table.keeps_refl stands_refl store.plans
  cases operation with
  | createPlan model taskId snapshotIds =>
    have ended := createPlan_end model taskId snapshotIds store
    show Table.Keeps _ _ (exec (EngineeringPlannerService.createPlan model taskId snapshotIds) store).2.plans
    generalize exec (EngineeringPlannerService.createPlan model taskId snapshotIds) store = after at ended
    obtain ⟨outcome, after⟩ := after
    cases ended with
    | none _ _ _ same => exact kept same
    | some _ _ plan _ made => exact made.written ▸ Table.keeps_add stands_refl store.plans plan
  | replan model previousPlanId snapshotIds =>
    rcases replan_end model previousPlanId snapshotIds store with ⟨-, same⟩ |
      ⟨previous, plan, ⟨found, _, _, -, -, made⟩, written⟩
    · exact kept same
    · have listed : previous ∈ store.plans.rows := Table.get?_mem found
      exact written ▸ Table.keeps_trans stands_trans (Table.keeps_trans stands_trans
        (Table.keeps_add stands_refl store.plans plan)
        (stands_put (Table.mem_add_old listed) ⟨rfl, .inr (by simp)⟩))
        (stands_put (Table.get?_mem (made_after_put made (Table.get?_of_mem listed) rfl)) ⟨rfl, .inl rfl⟩)
  | rejectPlan planId =>
    rcases rejectPlan_end planId store with ⟨-, same⟩ | ⟨plan, found, written⟩
    · exact kept same
    · exact written ▸ stands_put (Table.get?_mem found) ⟨rfl, .inr (by simp)⟩
  | elsewhere other => exact Table.keeps_refl stands_refl store.plans

/-- No sequence of plans made, replaced and rejected rewrites what a plan says. -/
theorem plans_stand (start : Store) (operations : List PlanOperation) :
    start.plans.Keeps Stands (Run.run step start operations).plans :=
  Run.relation_run step (fun before after => before.plans.Keeps Stands after.plans)
    (fun store => Table.keeps_refl stands_refl store.plans)
    (fun _ _ _ => Table.keeps_trans stands_trans) step_stands start operations

theorem step_chained_iff (store : Store) (operation : PlanOperation) (known : Known store.plans)
    (chained : Chained store.plans) : Known (step store operation).plans ∧
      (Chained (step store operation).plans ↔ Apt store operation) := by
  have kept {after : Tables} (same : after = store.toTables) : Known after.plans ∧ Chained after.plans := by
    rw [same]
    exact ⟨known, chained⟩
  cases operation with
  | createPlan model taskId snapshotIds =>
    have ended := createPlan_end model taskId snapshotIds store
    show Known (exec (EngineeringPlannerService.createPlan model taskId snapshotIds) store).2.plans ∧
      (Chained (exec (EngineeringPlannerService.createPlan model taskId snapshotIds) store).2.plans ↔ True)
    generalize exec (EngineeringPlannerService.createPlan model taskId snapshotIds) store = after at ended
    obtain ⟨outcome, after⟩ := after
    cases ended with
    | none _ _ _ same => exact ⟨(kept same).1, iff_true_intro (kept same).2⟩
    | some _ _ plan _ made =>
      have written : after.plans = store.plans.add plan := congrArg Tables.plans made.written
      dsimp only
      rw [written]
      exact ⟨known_add known made.fresh made.blank.2,
        iff_true_intro (chained_add known chained made.fresh made.blank)⟩
  | replan model previousPlanId snapshotIds =>
    rcases replan_end model previousPlanId snapshotIds store with ⟨nothing, same⟩ |
      ⟨previous, plan, replaces, written⟩
    · exact ⟨(kept same).1, iff_of_true (kept same).2 fun previous plan replaces =>
        absurd replaces (nothing previous plan)⟩
    · obtain ⟨result, middle, -, -, made⟩ := replaces.made
      have listed : previous ∈ store.plans.rows := Table.get?_mem replaces.listed
      have after : (step store (.replan model previousPlanId snapshotIds)).plans =
          replaced store.plans previous plan := congrArg Tables.plans written
      rw [after, chained_replaced_iff known chained made.fresh listed made.blank]
      refine ⟨known_replaced known made.fresh listed made.blank.2.2, fun last other next replaced => ?_,
        fun apt => apt previous plan replaces⟩
      rw [Option.some.inj (replaced.listed.symm.trans replaces.listed)]
      exact last
  | rejectPlan planId =>
    rcases rejectPlan_end planId store with ⟨missing, same⟩ | ⟨plan, found, written⟩
    · refine ⟨(kept same).1, iff_of_true (kept same).2 fun plan found => ?_⟩
      rw [missing] at found
      cases found
    · have listed : plan ∈ store.plans.rows := Table.get?_mem found
      have after : (step store (.rejectPlan planId)).plans =
          store.plans.put { plan with status := .rejected } := congrArg Tables.plans written
      rw [after, chained_rejected_iff chained listed]
      refine ⟨known_rejected known listed, fun last other there => ?_, fun apt => apt plan found⟩
      rw [Option.some.inj (there.symm.trans found)]
      exact last
  | elsewhere other => exact ⟨known, iff_true_intro chained⟩

/-- In every run that starts without plans the links are inverse at each point, exactly when no plan
that has a successor is replaced or rejected. -/
theorem runs_chained_iff (store : Store) (operations : List PlanOperation) :
    (∀ front back, operations = front ++ back →
      Chained (Run.run step { store with plans := Table.empty } front).plans) ↔
      ∀ front operation back, operations = front ++ operation :: back →
        Apt (Run.run step { store with plans := Table.empty } front) operation := by
  have empty : Known (Table.empty : Table EngineeringPlanRow) ∧ Chained (Table.empty : Table EngineeringPlanRow) :=
    ⟨fun _ member => absurd member List.not_mem_nil, ⟨fun _ member => absurd member List.not_mem_nil,
      fun _ member => absurd member List.not_mem_nil, fun _ member => absurd member List.not_mem_nil⟩⟩
  rw [← Run.meets_iff_forall, Run.states_iff_meets step (fun state => Chained state.plans) _ _ empty.2]
  apply Run.meets_iff_guarded step (fun state => Known state.plans ∧ Chained state.plans)
  · intro state operation before
    exact (step_chained_iff state operation before.1 before.2).2
  · intro state operation before after
    exact ⟨(step_chained_iff state operation before.1 before.2).1, after⟩
  · exact empty

/-- A store with a task that can be planned. -/
def plannable : Store :=
  { projects := .single { id := "LPROJ_000001" }
    tasks := .single { id := "LTASK_000001", projectId := "LPROJ_000001", status := .ready }
    contracts := .single {
      id := "LCONTR_000001"
      taskId := "LTASK_000001"
      objective := "note"
      acceptanceCriteria := [[("id", .str "AC-001")]] } }

/-- A model that always proposes the same plan. -/
def steady : PlanningModel := ⟨fun _ _ => .ok { summary := "note" }⟩

/-- A plan is made, and replaced twice. -/
def replacedTwice : List PlanOperation :=
  [.createPlan steady "LTASK_000001" [], .replan steady "LPLAN_000001" [], .replan steady "LPLAN_000001" []]

/-- Both new plans name the first one as theirs. -/
theorem replaced_twice_unchained : ¬ ∀ (store : Store) (operations : List PlanOperation),
    Chained (Run.run step { store with plans := Table.empty } operations).plans := by
  intro chained
  have links : (Run.run step { plannable with plans := Table.empty } replacedTwice).plans.rows.map
      (fun plan => (plan.id, plan.supersedesPlanId)) = [("LPLAN_000001", none),
        ("LPLAN_000002", some "LPLAN_000001"), ("LPLAN_000003", some "LPLAN_000001")] := by decide +kernel
  obtain ⟨one, more, rows, first, later⟩ := List.map_eq_cons_iff.mp links
  obtain ⟨two, last, rfl, second, later⟩ := List.map_eq_cons_iff.mp later
  obtain ⟨three, _, rfl, third, -⟩ := List.map_eq_cons_iff.mp later
  obtain ⟨named, -⟩ := Prod.mk.inj first
  obtain ⟨left, linked⟩ := Prod.mk.inj second
  obtain ⟨right, also⟩ := Prod.mk.inj third
  have same := (chained plannable replacedTwice).single one (by simp [rows]) two (by simp [rows]) three
    (by simp [rows]) (named ▸ linked) (named ▸ also)
  rw [same, right] at left
  exact absurd left (by decide)

end Lucius.Planning.Chain
