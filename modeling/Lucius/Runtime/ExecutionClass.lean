import Lucius.Runtime.PlanningAdapter
import Lucius.Runtime.UnattendedMutation

/-! The class of an item, read twice: by the planner, when its workflow is planned, and
by the router, when it is executed. -/

namespace Lucius.Planning

open Router Lucius.Action

theorem isSpace_bounds {char : Char} (space : Json.isSpace char = true) :
    char.toNat ≤ 32 ∨ 133 ≤ char.toNat := by
  simp only [Json.isSpace, Bool.or_eq_true, Bool.and_eq_true, decide_eq_true_eq, List.contains_eq_mem,
    List.mem_cons, List.not_mem_nil, or_false] at space
  omega

theorem isSpace_toLower (char : Char) : Json.isSpace char.toLower = Json.isSpace char := by
  by_cases upper : char.val ≥ 'A'.val ∧ char.val ≤ 'Z'.val
  · have low : 65 ≤ char.toNat := upper.1
    have high : char.toNat ≤ 90 := upper.2
    have lowered : char.toLower.toNat = char.toNat + 32 := by
      unfold Char.toLower
      rw [dif_pos upper]
      change (char.val + ('a'.val - 'A'.val)).toNat = char.val.toNat + 32
      have gap : ('a'.val - 'A'.val).toNat = 32 := by decide
      have small : char.val.toNat ≤ 90 := high
      rw [UInt32.toNat_add]
      omega
    cases one : Json.isSpace char.toLower with
    | false =>
      cases other : Json.isSpace char with
      | false => rfl
      | true =>
        have bounds := isSpace_bounds other
        omega
    | true =>
      have bounds := isSpace_bounds one
      omega
  · unfold Char.toLower
    rw [dif_neg upper]

theorem strip_of_plain {chars : List Char} (plain : ∀ char ∈ chars, Json.isSpace char = false) :
    Json.strip chars = chars := by
  have kept : ∀ more : List Char, (∀ char ∈ more, Json.isSpace char = false) →
      more.dropWhile Json.isSpace = more := by
    intro more clean
    cases more with
    | nil => rfl
    | cons first rest => rw [List.dropWhile_cons_of_neg (by simp [clean first List.mem_cons_self])]
  have backwards : ∀ char ∈ chars.reverse, Json.isSpace char = false :=
    fun char member => plain char (List.mem_reverse.mp member)
  rw [Json.strip, kept chars plain, kept chars.reverse backwards, List.reverse_reverse]

theorem strip_of_lower {text name : String} (same : lower text = name)
    (plain : name.toList.all (fun char => !Json.isSpace char) = true) :
    String.ofList (Json.strip text.toList) = text := by
  have clean : ∀ char ∈ text.toList, Json.isSpace char = false := by
    intro char member
    have inside : char.toLower ∈ name.toList := by
      rw [← same, lower, String.toList_ofList]
      exact List.mem_map.mpr ⟨char, member, rfl⟩
    have kept := List.all_eq_true.mp plain _ inside
    rwa [Bool.not_eq_true', isSpace_toLower] at kept
  rw [strip_of_plain clean, String.ofList_toList]

/-- The type of an item as the router reads it. -/
def routedTaskType (item : Dict) : String := lower (item.getOr "task_type" (.str "")).pyStr

theorem queueItemIsReadOnly_eq (item : Dict) :
    queueItemIsReadOnly item =
      (flaggedReadOnly item || decide (routedTaskType item ∈ readOnlyTaskTypes)) := rfl

theorem falsy_text {value : Json} (falsy : value.truthy = false) :
    value.pyStr ∈ ["None", "False", "0", "0.0", "-0.0", "", "[]", "\x7b\x7d"] := by
  cases value with
  | null => decide
  | bool flag =>
    cases flag with
    | false => decide
    | true => cases falsy
  | int number =>
    have zero : number = 0 := by simpa [Json.truthy] using falsy
    rw [zero]
    decide
  | float number =>
    have zero : number.zero = true := by simpa [Json.truthy] using falsy
    change number.text ∈ _
    rcases number.zeroText zero with printed | printed
    · rw [printed]; decide
    · rw [printed]; decide
  | str text =>
    have empty : text = "" := by simpa [Json.truthy] using falsy
    rw [empty]
    decide
  | arr elements =>
    have empty : elements = [] := by simpa [Json.truthy] using falsy
    rw [empty]
    decide
  | obj members =>
    have empty : members = [] := by simpa [Json.truthy] using falsy
    rw [empty]
    decide

theorem falsy_unnamed {value : Json} (falsy : value.truthy = false) :
    lower value.pyStr ∉ readOnlyTaskTypes := by
  have printed := falsy_text falsy
  generalize value.pyStr = text at printed
  simp only [List.mem_cons, List.not_mem_nil, or_false] at printed
  rcases printed with rfl | rfl | rfl | rfl | rfl | rfl | rfl | rfl <;> decide

theorem getOr_truthy {item : Dict} {key : String}
    (truthy : (item.getOr key (.str "")).truthy = true) : item.get key = item.getOr key (.str "") := by
  unfold Dict.getOr at truthy ⊢
  unfold Dict.get
  cases found : item.lookup key with
  | none =>
    rw [found] at truthy
    cases truthy
  | some value => rfl

theorem plannedTaskType_of_routed {item : Dict} (known : routedTaskType item ∈ readOnlyTaskTypes) :
    plannedTaskType item = routedTaskType item := by
  cases truthy : (item.getOr "task_type" (.str "")).truthy with
  | false => exact absurd known (falsy_unnamed truthy)
  | true =>
    have named := getOr_truthy truthy
    have plain : ∀ name ∈ readOnlyTaskTypes,
        name.toList.all (fun char => !Json.isSpace char) = true := by decide
    have chosen : ((item.get "task_type").orElse (item.get "execution_mode")).orElse (.str "") =
        item.getOr "task_type" (.str "") := by
      rw [named]
      simp only [Json.orElse, truthy, if_true]
    unfold plannedTaskType
    dsimp only
    rw [chosen, strip_of_lower rfl (plain _ known)]
    rfl

/-- The item says by a flag that it is read-only, or names a type that both lists have, or
names none of either. -/
def SameMode (item : Dict) : Prop :=
  flaggedReadOnly item = true ∨ routedTaskType item ∈ ["inspection", "reasoning"] ∨
    (routedTaskType item ∉ readOnlyTaskTypes ∧ plannedTaskType item ∉ readOnlyPlanTypes)

theorem mode_agrees_iff (item : Dict) :
    queueItemIsReadOnly item = runtimeItemIsReadOnly item ↔ SameMode item := by
  rw [queueItemIsReadOnly_eq, runtimeItemIsReadOnly, SameMode]
  cases flagged : flaggedReadOnly item with
  | true => simp
  | false =>
    simp only [Bool.false_or, Bool.false_eq_true, false_or, decide_eq_decide]
    by_cases routed : routedTaskType item ∈ readOnlyTaskTypes
    · rw [plannedTaskType_of_routed routed]
      generalize routedTaskType item = name at routed
      revert routed
      simp only [readOnlyTaskTypes, List.mem_cons, List.not_mem_nil, or_false]
      rintro (rfl | rfl | rfl | rfl) <;> decide
    · have uncommon : routedTaskType item ∉ ["inspection", "reasoning"] := by
        intro common
        apply routed
        revert common
        generalize routedTaskType item = name
        simp only [readOnlyTaskTypes, List.mem_cons, List.not_mem_nil, or_false]
        tauto
      simp [routed, uncommon]

/-- The flag that decides for the router. -/
def decidingFlag (item : Dict) : Json :=
  item.getOr "unattended" (item.getOr "unattended_eligible" (.bool false))

theorem queueItemIsUnattended_eq (item : Dict) :
    queueItemIsUnattended item = (decidingFlag item).truthy := rfl

/-- The deciding flag is the boolean `true`; or it counts as false, and no flag is `true`;
or it counts as true without being it, and another flag is. -/
def SameAttendance (item : Dict) : Prop :=
  (decidingFlag item).isTrue = true ∨
    ((decidingFlag item).truthy = false ∧ runtimeItemIsUnattended item = false) ∨
    ((decidingFlag item).truthy = true ∧ runtimeItemIsUnattended item = true)

theorem isTrue_eq {value : Json} (isTrue : value.isTrue = true) : value = .bool true := by
  cases value with
  | bool flag => exact congrArg Json.bool isTrue
  | null | int _ | float _ | str _ | arr _ | obj _ => cases isTrue

theorem isTrue_of_getOr {item : Dict} {key : String} {fallback : Json}
    (isTrue : (item.getOr key fallback).isTrue = true) :
    (item.get key).isTrue = true ∨ fallback.isTrue = true := by
  unfold Dict.getOr at isTrue
  unfold Dict.get
  cases found : item.lookup key with
  | none =>
    rw [found] at isTrue
    exact .inr isTrue
  | some value =>
    rw [found] at isTrue
    exact .inl isTrue

theorem unattended_of_decidingFlag {item : Dict} (isTrue : (decidingFlag item).isTrue = true) :
    runtimeItemIsUnattended item = true := by
  simp only [runtimeItemIsUnattended, Bool.or_eq_true]
  rcases isTrue_of_getOr isTrue with here | later
  · exact .inl (.inl here)
  · rcases isTrue_of_getOr later with eligible | never
    · exact .inr eligible
    · cases never

theorem attendance_agrees_iff (item : Dict) :
    queueItemIsUnattended item = runtimeItemIsUnattended item ↔ SameAttendance item := by
  rw [queueItemIsUnattended_eq, SameAttendance]
  by_cases sure : (decidingFlag item).isTrue = true
  · have named : (decidingFlag item).truthy = true := by rw [isTrue_eq sure]; rfl
    simp [sure, named, unattended_of_decidingFlag sure]
  · cases one : (decidingFlag item).truthy <;> cases other : runtimeItemIsUnattended item <;>
      simp [sure]

/-- A request the router makes of an item, in whatever context and store. -/
def ItemRequest (item : Dict) (request : RuntimeExecutionRequest) : Prop :=
  ∃ settings context store left, context.queueItem = item ∧
    exec (requestFromContext settings context) store = (.ok request, left)

theorem ItemRequest.classes {item : Dict} {request : RuntimeExecutionRequest}
    (made : ItemRequest item request) :
    request.readOnly = queueItemIsReadOnly item ∧ request.unattended = queueItemIsUnattended item := by
  obtain ⟨settings, context, store, left, rfl, done⟩ := made
  obtain ⟨scope, is⟩ := requestFromContext_ok done
  exact ⟨is.readOnly, is.unattended⟩

/-- The planner and the router agree on the items of a workflow, so that what is executed
keeps to what was planned. -/
structure ClassesAgree (workflow : PersistentWorkflowRow) : Prop where
  mode : ∀ item ∈ workflow.taskBacklog, queueItemIsReadOnly item = runtimeItemIsReadOnly item
  attendance : ∀ item ∈ workflow.taskBacklog,
    queueItemIsUnattended item = runtimeItemIsUnattended item
  unscoped : ∀ plan, defaultModelPlan workflow = .ok plan → plan.affectedFiles = [] →
    ∀ item ∈ workflow.taskBacklog, ∀ request, ItemRequest item request → request.readOnly = true
  mutating : ∀ item ∈ workflow.taskBacklog, runtimeItemIsReadOnly item = false →
    ∀ request, ItemRequest item request → request.readOnly = false
  unattended : ∀ plan, defaultModelPlan workflow = .ok plan → ∀ item ∈ workflow.taskBacklog,
    ∀ request, ItemRequest item request → request.unattended = true →
      runtimeWorkflowIsReadOnly workflow.taskBacklog = true ∨ plan.deterministicAcceptanceChecks ≠ []

theorem ofCheck_list {checks : List Acceptance.Check} {planned : List DeterministicAcceptanceCheck}
    (done : checks.mapM DeterministicAcceptanceCheck.ofCheck = .ok planned) :
    planned = [] ↔ checks = [] := by
  have paired := mapM_ok done
  cases paired with
  | nil => simp
  | cons => simp

theorem defaultModelPlan_ok {workflow : PersistentWorkflowRow} {plan : ModelEngineeringPlanOutput}
    (done : defaultModelPlan workflow = .ok plan) :
    ∃ checks, runtimeAffectedFiles workflow.taskBacklog = .ok plan.affectedFiles ∧
      runtimeDeterministicAcceptanceChecks workflow.taskBacklog
        (plan.affectedFiles.map AffectedFilePlan.path) = .ok checks ∧
      planningGap workflow.taskBacklog plan.affectedFiles checks = none ∧
      checks.mapM DeterministicAcceptanceCheck.ofCheck = .ok plan.deterministicAcceptanceChecks := by
  unfold defaultModelPlan at done
  obtain ⟨files, listed, done⟩ := except_bind_ok done
  obtain ⟨checks, checked, done⟩ := except_bind_ok done
  cases gap : planningGap workflow.taskBacklog files checks with
  | some missing =>
    rw [gap] at done
    cases done
  | none =>
    rw [gap] at done
    obtain ⟨planned, stated, done⟩ := except_bind_ok done
    cases done
    exact ⟨checks, listed, checked, gap, stated⟩

theorem planningGap_none {queueItems : List Dict} {files : List AffectedFilePlan}
    {checks : List Acceptance.Check} (complete : planningGap queueItems files checks = none)
    (mutates : runtimeWorkflowIsReadOnly queueItems = false) :
    files ≠ [] ∧ (runtimeWorkflowIsUnattended queueItems = true → checks ≠ []) := by
  unfold planningGap at complete
  rw [mutates, if_neg (by decide)] at complete
  split at complete
  · cases complete
  · next some =>
      split at complete
      · cases complete
      · next enough =>
          refine ⟨by simpa using some, ?_⟩
          intro unattended none
          exact enough (by simp [unattended, none])

theorem classesAgree_of_items {workflow : PersistentWorkflowRow}
    (modes : ∀ item ∈ workflow.taskBacklog, queueItemIsReadOnly item = runtimeItemIsReadOnly item)
    (attendances : ∀ item ∈ workflow.taskBacklog,
      queueItemIsUnattended item = runtimeItemIsUnattended item) : ClassesAgree workflow where
  mode := modes
  attendance := attendances
  unscoped := by
    intro plan made none item member request asked
    obtain ⟨checks, _, _, complete, _⟩ := defaultModelPlan_ok made
    rw [asked.classes.1, modes item member]
    cases whole : runtimeWorkflowIsReadOnly workflow.taskBacklog with
    | false => exact absurd none (planningGap_none complete whole).1
    | true =>
      simp only [runtimeWorkflowIsReadOnly, Bool.and_eq_true] at whole
      exact List.all_eq_true.mp whole.2 item member
  mutating := by
    intro item member planned request asked
    rw [asked.classes.1, modes item member, planned]
  unattended := by
    intro plan made item member request asked unattended
    obtain ⟨checks, _, _, complete, stated⟩ := defaultModelPlan_ok made
    rw [asked.classes.2, attendances item member] at unattended
    cases whole : runtimeWorkflowIsReadOnly workflow.taskBacklog with
    | true => exact .inl rfl
    | false =>
      refine .inr ?_
      intro none
      have attended := (planningGap_none complete whole).2
        (List.any_eq_true.mpr ⟨item, member, unattended⟩)
      exact attended ((ofCheck_list stated).mp none)

/-- The two readings agree exactly when each item names its mode and its attendance in a
way both know. -/
theorem classes_agree_iff (workflow : PersistentWorkflowRow) :
    ClassesAgree workflow ↔
      ∀ item ∈ workflow.taskBacklog, SameMode item ∧ SameAttendance item := by
  constructor
  · intro agree item member
    exact ⟨(mode_agrees_iff item).mp (agree.mode item member),
      (attendance_agrees_iff item).mp (agree.attendance item member)⟩
  · intro same
    exact classesAgree_of_items
      (fun item member => (mode_agrees_iff item).mpr (same item member).1)
      (fun item member => (attendance_agrees_iff item).mpr (same item member).2)

/-- An analysis with a scope: planned as a mutation, executed as a reading. -/
def analysedNotes : PersistentWorkflowRow where
  id := "LWORK_000001"
  taskId := some "LTASK_000001"
  taskBacklog := [[("item_id", .str "first"), ("task_type", .str "analysis"),
    ("affected_files", .arr [.str "notes.md"])]]

theorem analysis_classes_differ : ¬ ClassesAgree analysedNotes := by
  intro agree
  have same := agree.mode _ List.mem_cons_self
  revert same
  decide +kernel

end Lucius.Planning
