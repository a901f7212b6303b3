import Lucius.Lib.Links
import Lucius.Pilots.Provenance
import Lucius.Queue.DependencyOrder

/-! The check of the dependency identifiers of a backlog, and what a backlog that passes it can
still wait for.

The check reads each identifier without the white space around it and does not follow the
dependencies from item to item. The queue compares the texts as they are. -/

namespace Lucius.Pilots.DependencyPolicy

open Queue Queue.DependencyOrder

structure DependencyPolicyIssue where
  code : String
  itemId : String
  dependency : String
  message : String
  deriving DecidableEq

def policyItemId (item : Item) : String :=
  (((item.get "item_id").orElse (item.get "task_id")).orElse (.str "")).pyStr

/-- `EXECUTABLE_DEPENDENCY_ID_PATTERN`, on a text without white space at its end. -/
def isDependencyId (text : String) : Bool :=
  match text.toList with
  | [] => false
  | first :: rest => first.isAlpha && rest.all (fun char => char.isAlphanum || "_.:-".toList.contains char)

def dependencyIssue (active historical : List String) (item : String) (dependency : String) :
    Option DependencyPolicyIssue :=
  if dependency.toList.isEmpty || !isDependencyId dependency then
    some ⟨"PROSE_OR_MALFORMED_EXECUTABLE_DEPENDENCY", item, dependency,
      "Executable queue dependencies must be canonical local item ids, not prose prerequisites or " ++
        "validation requirements."⟩
  else if dependency ∈ historical ∧ dependency ∉ active then
    some ⟨"STALE_EXECUTABLE_DEPENDENCY", item, dependency,
      "Historical item ids must not satisfy active workflow dependencies."⟩
  else if dependency ∉ active then
    some ⟨"UNKNOWN_EXECUTABLE_DEPENDENCY", item, dependency,
      "Executable dependency id is not present in the active local backlog."⟩
  else none

/-- A list that is absent or holds nothing has no dependencies. -/
def rawDependencies (item : Item) : Except PyExc (List Json) :=
  ((item.getOr "dependencies" (.arr [])).orElse (.arr [])).pyIter

def itemIssues (active historical : List String) (item : Item) : Except PyExc (List DependencyPolicyIssue) := do
  let raw ← rawDependencies item
  return raw.filterMap (fun dependency =>
    dependencyIssue active historical (policyItemId item) (strip dependency.pyStr))

def validateExecutableDependencies (backlog : List Item) (historicalItemIds : List String) :
    Except PyExc (List DependencyPolicyIssue) := do
  let active := backlog.map policyItemId
  let issues ← backlog.mapM (itemIssues active historicalItemIds)
  return issues.flatten

/-- The queue reads the dependencies of the item, each written without white space around it. -/
def Plain (item : Item) : Prop :=
  ∃ names, (item.getOr "dependencies" (.arr [])).pyIter = .ok names ∧
    ∀ name ∈ names, strip name.pyStr = name.pyStr

/-- No item waits for itself, through however many others. -/
def Acyclic (backlog : List Item) : Prop := ∀ id, ¬ Relation.TransGen (DependsOn backlog) id id

/-- Each dependency the queue reads is an item of the backlog. -/
def Closed (backlog : List Item) : Prop :=
  ∀ wanted needed, DependsOn backlog wanted needed → ∃ item ∈ backlog, itemId item = needed

/-- What the queue reads of an item to decide on what it waits for. -/
structure Reads (item : Item) (found : GlobalQueueItem) : Prop where
  itemId : found.itemId = Queue.itemId item
  dependencies : ∃ names, (item.getOr "dependencies" (.arr [])).pyIter = .ok names ∧
    found.dependencies = names.map Json.pyStr

/-- The items of a workflow as the queue reads them while each is completed or waits for its start. -/
structure Resting (backlog : List Item) (workflowId : String) (items : List GlobalQueueItem) : Prop where
  read : List.Forall₂ Reads backlog items
  workflow : ∀ found ∈ items, found.workflowId = workflowId
  state : ∀ found ∈ items, found.state = some .completed ∨ isEligibleState found.state = true

/-- Some item is eligible until all are completed. -/
def Progresses (backlog : List Item) : Prop :=
  ∀ workflowId items, Resting backlog workflowId items →
    (∀ found ∈ items, found.state = some .completed) ∨ ∃ found ∈ items, globalIsEligible found items = true

/-- What is asked of the backlogs that pass the check. -/
def AcceptedProgresses : Prop :=
  ∀ backlog historical, validateExecutableDependencies backlog historical = .ok [] →
    Closed backlog ∧ Acyclic backlog ∧ Progresses backlog

theorem policyItemId_eq {item : Item} {name : String} (named : policyItemId item = name) (some : name ≠ "") :
    itemId item = name := by
  by_cases present : ((item.get "item_id").orElse (item.get "task_id")).truthy = true
  · rw [policyItemId, Json.orElse, if_pos present] at named
    exact named
  · rw [policyItemId, Json.orElse, if_neg present] at named
    exact absurd named.symm some

theorem dependencyIssue_none {active historical : List String} {item dependency : String}
    (accepted : dependencyIssue active historical item dependency = none) :
    dependency ∈ active ∧ dependency ≠ "" := by
  unfold dependencyIssue at accepted
  split at accepted
  · cases accepted
  rename_i written
  split at accepted
  · cases accepted
  split at accepted
  · cases accepted
  rename_i known
  refine ⟨not_not.mp known, ?_⟩
  rintro rfl
  exact written rfl

theorem validated_item {backlog : List Item} {historical : List String}
    (accepted : validateExecutableDependencies backlog historical = .ok []) {item : Item}
    (member : item ∈ backlog) : ∃ raw, rawDependencies item = .ok raw ∧
      ∀ dependency ∈ raw, dependencyIssue (backlog.map policyItemId) historical (policyItemId item)
        (strip dependency.pyStr) = none := by
  unfold validateExecutableDependencies at accepted
  obtain ⟨issues, read, done⟩ := except_bind_ok accepted
  have empty : issues.flatten = [] := Except.ok.inj done
  obtain ⟨found, inside, here⟩ := forall₂_left (mapM_ok read) member
  have none : found = [] := List.flatten_eq_nil_iff.mp empty found inside
  obtain ⟨raw, listed, made⟩ := except_bind_ok here
  refine ⟨raw, listed, ?_⟩
  have clean := (Except.ok.inj made).trans none
  exact List.filterMap_eq_nil_iff.mp clean

theorem pyIter_of_falsy {value : Json} {names : List Json} (falsy : value.truthy = false)
    (iterated : value.pyIter = .ok names) : names = [] := by
  cases value with
  | arr elements =>
    cases iterated
    simpa [Json.truthy] using falsy
  | str text =>
    cases iterated
    have empty : text.toList = [] := by simpa [Json.truthy] using falsy
    rw [empty]
    rfl
  | obj members =>
    cases iterated
    have empty : members = [] := by simpa [Json.truthy] using falsy
    rw [empty]
    rfl
  | _ => cases iterated

theorem rawDependencies_plain {item : Item} {names raw : List Json}
    (iterated : (item.getOr "dependencies" (.arr [])).pyIter = .ok names)
    (listed : rawDependencies item = .ok raw) : names = raw := by
  unfold rawDependencies Json.orElse at listed
  by_cases present : (item.getOr "dependencies" (.arr [])).truthy = true
  · rw [if_pos present, iterated] at listed
    exact Except.ok.inj listed
  · rw [if_neg present] at listed
    rw [pyIter_of_falsy (by simpa using present) iterated]
    exact Except.ok.inj listed

/-- A dependency that the check has accepted, written plainly, is an item of the backlog. -/
theorem closed_of_accepted {backlog : List Item} {historical : List String}
    (accepted : validateExecutableDependencies backlog historical = .ok [])
    (plain : ∀ item ∈ backlog, Plain item) : Closed backlog := by
  rintro wanted needed ⟨item, member, -, names, iterated, name, listed, rfl⟩
  obtain ⟨others, same, written⟩ := plain item member
  have equal : others = names := Except.ok.inj (same.symm.trans iterated)
  obtain ⟨raw, read, clean⟩ := validated_item accepted member
  have inside : name ∈ raw := rawDependencies_plain iterated read ▸ listed
  obtain ⟨known, some⟩ := dependencyIssue_none (clean name inside)
  rw [written name (equal ▸ listed)] at known some
  obtain ⟨other, held, named⟩ := List.mem_map.mp known
  exact ⟨other, held, policyItemId_eq named some⟩

theorem dependencies_of_names {found : GlobalQueueItem} {names : List Json}
    (read : found.dependencies = names.map Json.pyStr) {dependency : String}
    (listed : dependency ∈ found.dependencies) : ∃ name ∈ names, name.pyStr = dependency := by
  rw [read] at listed
  exact List.mem_map.mp listed

theorem dependenciesComplete_iff {found : GlobalQueueItem} {items : List GlobalQueueItem} {workflowId : String}
    (workflow : ∀ other ∈ items, other.workflowId = workflowId) (member : found ∈ items) :
    globalDependenciesComplete found items = true ↔ ∀ dependency ∈ found.dependencies,
      ∃ other ∈ items, other.itemId = dependency ∧ other.state = some .completed := by
  unfold globalDependenciesComplete
  rw [List.all_eq_true]
  refine forall_congr' fun dependency => forall_congr' fun _ => ?_
  rw [decide_eq_true_eq, List.mem_map]
  refine exists_congr fun other => ?_
  rw [List.mem_filter, decide_eq_true_eq]
  constructor
  · rintro ⟨⟨inside, -, completed⟩, named⟩
    exact ⟨inside, named, completed⟩
  · rintro ⟨inside, named, completed⟩
    exact ⟨⟨inside, (workflow other inside).trans (workflow found member).symm, completed⟩, named⟩

/-- The last of the uncompleted items, along the dependencies, waits for completed ones only. -/
theorem progresses_of_acyclic {backlog : List Item} (closed : Closed backlog) (acyclic : Acyclic backlog) :
    Progresses backlog := by
  intro workflowId items resting
  let waiting := items.filter (fun found => decide (found.state ≠ some .completed))
  by_cases done : waiting = []
  · refine Or.inl fun found member => ?_
    by_contra unfinished
    have inside : found ∈ waiting := List.mem_filter.mpr ⟨member, decide_eq_true unfinished⟩
    rw [done] at inside
    cases inside
  · obtain ⟨id, listed, last⟩ :=
      @Links.exists_last _ _ acyclic (waiting.map (·.itemId)) (by simpa using done)
    obtain ⟨found, inside, rfl⟩ := List.mem_map.mp listed
    obtain ⟨member, unfinished⟩ := List.mem_filter.mp inside
    have state : isEligibleState found.state = true :=
      (resting.state found member).resolve_left (of_decide_eq_true unfinished)
    refine Or.inr ⟨found, member, Bool.and_eq_true_iff.mpr ⟨state, ?_⟩⟩
    rw [dependenciesComplete_iff resting.workflow member]
    intro dependency wanted
    obtain ⟨item, held, reads⟩ := forall₂_right resting.read member
    obtain ⟨names, iterated, read⟩ := reads.dependencies
    obtain ⟨name, known, same⟩ := dependencies_of_names read wanted
    have needs : DependsOn backlog found.itemId dependency :=
      ⟨item, held, reads.itemId.symm, names, iterated, name, known, same⟩
    obtain ⟨needed, heldNeeded, named⟩ := closed _ _ needs
    obtain ⟨other, otherMember, otherReads⟩ := forall₂_left resting.read heldNeeded
    have otherNamed : other.itemId = dependency := otherReads.itemId.trans named
    refine ⟨other, otherMember, otherNamed, ?_⟩
    by_contra uncompleted
    have among : other.itemId ∈ waiting.map (·.itemId) :=
      List.mem_map_of_mem (List.mem_filter.mpr ⟨otherMember, decide_eq_true uncompleted⟩)
    exact last other.itemId among (otherNamed ▸ needs)

def dependencyTexts (item : Item) : List String :=
  match (item.getOr "dependencies" (.arr [])).pyIter with
  | .ok names => names.map Json.pyStr
  | .error _ => []

/-- The item as the queue reads it, waiting if it is one of the stuck and else completed. -/
def stuckItem (stuck : String → Bool) (item : Item) : GlobalQueueItem where
  projectId := none
  workflowId := "LWORK_000001"
  repositoryId := none
  workflowTaskId := none
  itemId := itemId item
  logicalTaskId := itemId item
  title := none
  state := if stuck (itemId item) then some .ready else some .completed
  stateLabel := if stuck (itemId item) then "READY" else "COMPLETED"
  rawState := if stuck (itemId item) then some "READY" else some "COMPLETED"
  priority := "NORMAL"
  rawPriority := none
  createdOrder := 0
  version := 0
  dependencies := dependencyTexts item
  currentBlockCheckpointId := none
  queueStatePresent := true
  priorityValid := true
  schedulable := true
  exclusionReason := none
  item := item

theorem resting_stuck {backlog : List Item} (plain : ∀ item ∈ backlog, Plain item) (stuck : String → Bool) :
    Resting backlog "LWORK_000001" (backlog.map (stuckItem stuck)) where
  read := by
    rw [List.forall₂_map_right_iff, List.forall₂_same]
    intro item member
    obtain ⟨names, iterated, -⟩ := plain item member
    exact ⟨rfl, names, iterated, by rw [stuckItem, dependencyTexts, iterated]⟩
  workflow := by
    intro found member
    obtain ⟨item, -, rfl⟩ := List.mem_map.mp member
    rfl
  state := by
    intro found member
    obtain ⟨item, -, rfl⟩ := List.mem_map.mp member
    unfold stuckItem
    cases stuck (itemId item)
    · exact Or.inl rfl
    · exact Or.inr rfl

/-- Where the items that lead to a cycle are all that is left, each of them waits for another. -/
theorem acyclic_of_progresses {backlog : List Item} (distinct : (backlog.map itemId).Nodup)
    (plain : ∀ item ∈ backlog, Plain item) (progresses : Progresses backlog) : Acyclic backlog := by
  classical
  intro id cycle
  let stuck : String → Bool := fun name => decide (Relation.TransGen (DependsOn backlog) name id)
  have resting := resting_stuck plain stuck
  rcases progresses _ _ resting with completed | ⟨found, member, eligible⟩
  · obtain ⟨next, ⟨item, held, named, -⟩, -⟩ := Relation.TransGen.head'_iff.mp cycle
    have state := completed _ (List.mem_map_of_mem held)
    have waits : stuck (itemId item) = true := decide_eq_true (named ▸ cycle)
    simp [stuckItem, waits] at state
  · obtain ⟨item, held, rfl⟩ := List.mem_map.mp member
    obtain ⟨state, complete⟩ := Bool.and_eq_true_iff.mp eligible
    have waits : stuck (itemId item) = true := by
      by_contra rests
      simp [stuckItem, rests, isEligibleState] at state
      revert state
      decide
    obtain ⟨next, ⟨source, sourceHeld, sourceNamed, names, iterated, name, known, same⟩, rest⟩ :=
      Relation.TransGen.head'_iff.mp (of_decide_eq_true waits)
    have equal : source = item := List.inj_on_of_nodup_map distinct sourceHeld held sourceNamed
    subst equal
    have leads : Relation.TransGen (DependsOn backlog) next id := by
      rcases Relation.reflTransGen_iff_eq_or_transGen.mp rest with here | later
      · exact here ▸ cycle
      · exact later
    have wanted : next ∈ (stuckItem stuck source).dependencies := by
      change next ∈ dependencyTexts source
      rw [dependencyTexts, iterated, ← same]
      exact List.mem_map_of_mem known
    obtain ⟨other, otherMember, otherNamed, otherState⟩ :=
      (dependenciesComplete_iff resting.workflow member).mp complete next wanted
    obtain ⟨needed, -, rfl⟩ := List.mem_map.mp otherMember
    have neededNamed : itemId needed = next := otherNamed
    have neededWaits : stuck (itemId needed) = true := decide_eq_true (neededNamed ▸ leads)
    simp [stuckItem, neededWaits] at otherState

/-- The dependencies of an accepted backlog, written plainly, are items of it. Some item is eligible
until all are completed if no item waits for itself, and only then where the items are told apart. -/
theorem accepted_backlog_progresses (backlog : List Item) (historical : List String)
    (accepted : validateExecutableDependencies backlog historical = .ok [])
    (plain : ∀ item ∈ backlog, Plain item) :
    Closed backlog ∧ (Acyclic backlog → Progresses backlog) ∧
      ((backlog.map itemId).Nodup → Progresses backlog → Acyclic backlog) := by
  have closed := closed_of_accepted accepted plain
  exact ⟨closed, progresses_of_acyclic closed, fun distinct => acyclic_of_progresses distinct plain⟩

def dependentItem (id : String) (dependencies : List String) : Item :=
  [("item_id", .str id), ("state", .str "READY"), ("dependencies", .ofTexts dependencies)]

/-- Two items that wait for each other pass the check. -/
def circle : List Item := [dependentItem "implement" ["tests"], dependentItem "tests" ["implement"]]

theorem dependsOn_dependentItem {id wanted needed : String} {dependencies : List String} {rest : List Item}
    (needs : DependsOn (dependentItem id dependencies :: rest) wanted needed) :
    itemId (dependentItem id dependencies) = wanted ∧ needed ∈ dependencies ∨
      DependsOn rest wanted needed := by
  obtain ⟨item, member, named, names, iterated, name, known, same⟩ := needs
  rcases List.mem_cons.mp member with rfl | later
  · have listed : dependencies.map Json.str = names := Except.ok.inj iterated
    rw [← listed] at known
    obtain ⟨text, inside, rfl⟩ := List.mem_map.mp known
    exact Or.inl ⟨named, same ▸ inside⟩
  · exact Or.inr ⟨item, later, named, names, iterated, name, known, same⟩

theorem plain_dependentItem (id : String) {dependencies : List String}
    (written : ∀ text ∈ dependencies, strip text = text) : Plain (dependentItem id dependencies) := by
  refine ⟨dependencies.map Json.str, rfl, ?_⟩
  intro name member
  obtain ⟨text, inside, rfl⟩ := List.mem_map.mp member
  exact written text inside

theorem circle_accepted :
    validateExecutableDependencies circle [] = .ok [] ∧ (circle.map itemId).Nodup ∧
      ¬ Acyclic circle ∧ ¬ Progresses circle ∧ ¬ AcceptedProgresses := by
  have accepted : validateExecutableDependencies circle [] = .ok [] := by decide +kernel
  have plain : ∀ item ∈ circle, Plain item := by
    intro item member
    rcases List.mem_cons.mp member with rfl | rest
    · exact plain_dependentItem _ (by decide +kernel)
    · obtain rfl := List.mem_singleton.mp rest
      exact plain_dependentItem _ (by decide +kernel)
  have cyclic : ¬ Acyclic circle := by
    intro acyclic
    have first : DependsOn circle "implement" "tests" :=
      ⟨_, List.mem_cons_self, rfl, [.str "tests"], rfl, .str "tests", List.mem_cons_self, rfl⟩
    have second : DependsOn circle "tests" "implement" :=
      ⟨_, List.mem_cons_of_mem _ List.mem_cons_self, rfl, [.str "implement"], rfl, .str "implement",
        List.mem_cons_self, rfl⟩
    exact acyclic "implement" (.tail (.single first) second)
  have stuck : ¬ Progresses circle := by
    intro progresses
    have ended := progresses _ _ (resting_stuck plain (fun _ => true))
    revert ended
    decide +kernel
  refine ⟨accepted, by decide, cyclic, stuck, ?_⟩
  intro promised
  exact cyclic (promised circle [] accepted).2.1

def inOrder : List Item := [dependentItem "implement" [], dependentItem "tests" ["implement"]]

theorem backlog_in_order_progresses : Progresses inOrder := by
  refine (accepted_backlog_progresses inOrder [] (by decide +kernel) ?_).2.1 ?_
  · intro item member
    rcases List.mem_cons.mp member with rfl | rest
    · exact plain_dependentItem _ (by decide)
    · obtain rfl := List.mem_singleton.mp rest
      exact plain_dependentItem _ (by decide +kernel)
  · have only : ∀ wanted needed, DependsOn inOrder wanted needed → wanted = "tests" ∧ needed = "implement" := by
      intro wanted needed needs
      rcases dependsOn_dependentItem needs with ⟨-, none⟩ | later
      · cases none
      · rcases dependsOn_dependentItem later with ⟨named, listed⟩ | ⟨item, none, -⟩
        · exact ⟨named.symm, List.mem_singleton.mp listed⟩
        · cases none
    intro id cycle
    obtain ⟨next, out, -⟩ := Relation.TransGen.head'_iff.mp cycle
    obtain ⟨last, -, into⟩ := Relation.TransGen.tail'_iff.mp cycle
    have same := (only id next out).1.symm.trans (only last id into).2
    revert same
    decide

end Lucius.Pilots.DependencyPolicy
