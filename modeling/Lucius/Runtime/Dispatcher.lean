import Lucius.Queue.Steps

/-! The dispatcher of the runtime: it selects among the items of all projects and
starts the selected one itself. Its selection reads every backlog, whatever the
lifecycle state of the workflow. -/

namespace Lucius.Runtime

open Queue Lucius.Action

def dispatchBlockedStates : List QueueWorkItemState :=
  [.waitingHuman, .waitingExternal, .waitingResource, .waitingResourceShort, .waitingResourceLong,
    .waitingDependency, .waitingSchedule, .blockedDependency, .blockedAuthority, .blockedDecision,
    .retryLater]

structure DispatchCandidate where
  projectId : String
  workflowId : String
  taskId : Option String
  repositoryId : Option String
  itemId : String
  logicalTaskId : String
  priority : String
  projectPriority : String
  state : QueueWorkItemState
  dependencyState : String
  blockerState : String
  retryState : String
  resumeState : String
  createdOrder : Int
  readyTimestamp : Option String
  createdAt : Option String
  requiredCapabilities : List String
  planId : Option String
  planFreezeId : Option String
  itemVersion : Int
  schedulingMetadata : Dict
  tieBreakFields : Dict

abbrev CandidateKey := ℕ ×ₗ ℕ ×ₗ ℕ ×ₗ ℕ ×ₗ ℤ ×ₗ String ×ₗ String ×ₗ String

structure DispatchCandidateEvaluation where
  candidate : DispatchCandidate
  eligible : Bool
  reasons : List String
  schedulingKey : CandidateKey

structure DispatchSelection where
  cycleId : String
  selected : Option DispatchCandidate := none
  started : Bool := false
  startedPreviousState : Option String := none
  startedNewState : Option String := none
  startedPreviousVersion : Option Int := none
  startedNewVersion : Option Int := none
  reason : String
  eligibleCandidates : List DispatchCandidateEvaluation := []
  excludedCandidates : List DispatchCandidateEvaluation := []
  blockedCandidates : List DispatchCandidateEvaluation := []
  fairnessApplied : Bool := false
  deterministicTieBreakReason : Option String := none

structure WorkflowBundle where
  workflow : PersistentWorkflowRow
  project : Option ProjectRow
  repository : Option RepositoryRegistrationRow
  task : Option TaskRow

/-- A foreign key that is absent or empty is not looked up. -/
def lookupKey {α : Type} [Keyed α String] (table : Table α) (key : Option String) : Option α :=
  match key with
  | none => none
  | some text => if text.toList.isEmpty then none else table.get? text

def bundleOf (tables : Tables) (workflow : PersistentWorkflowRow) : WorkflowBundle where
  workflow := workflow
  project := lookupKey tables.projects workflow.projectId
  repository := lookupKey tables.repositories workflow.repositoryId
  task := lookupKey tables.tasks workflow.taskId

abbrev RowKey := ℕ ×ₗ String ×ₗ String

/-- A null project sorts before every other. -/
def rowKey (row : PersistentWorkflowRow) : RowKey :=
  toLex (if row.projectId.isSome then 1 else 0, toLex (row.projectId.getD "", row.id))

def workflowBundles (tables : Tables) (workflowIds : List String) :
    Except PyExc (List WorkflowBundle) :=
  let rows := sortedBy rowKey (tables.workflows.rows.filter
    (fun row => workflowIds.isEmpty || row.id ∈ workflowIds))
  let missing := workflowIds.dedup.filter (fun wanted => wanted ∉ rows.map (·.id))
  if !missing.isEmpty then
    .error (.queueStateError ("Unknown persistent workflows: " ++
      (Json.ofTexts (sortedBy id missing)).pyRepr))
  else
    .ok ((rows.filter (fun row => !row.taskBacklog.isEmpty)).map (bundleOf tables))

def planAuthorizesWorkflow (plans : Table EngineeringPlanRow) (freezes : Table PlanFreezeRow)
    (workflow : PersistentWorkflowRow) : Bool :=
  match workflow.planId.bind plans.get?, workflow.planFreezeId.bind freezes.get? with
  | some plan, some freeze =>
    some plan.projectId = workflow.projectId && some freeze.projectId = workflow.projectId &&
      (workflow.taskId.all (fun taskId =>
        taskId.toList.isEmpty || (plan.taskId = taskId && freeze.taskId = taskId))) &&
      freeze.planId = plan.id
  | _, _ => false

def projectReasons (project : Option ProjectRow) : List String :=
  match project with
  | none => ["PROJECT_MISSING"]
  | some row =>
    if row.status ≠ .active then ["PROJECT_DISABLED:" ++ StrEnum.value row.status] else []

def taskReasons (workflow : PersistentWorkflowRow) (task : Option TaskRow) : List String :=
  match task with
  | none => ["TASK_MISSING"]
  | some row =>
    if some row.projectId ≠ workflow.projectId then ["TASK_PROJECT_MISMATCH"]
    else if row.status ≠ .ready then ["TASK_NOT_READY:" ++ StrEnum.value row.status]
    else []

def repositoryReasons (workflow : PersistentWorkflowRow)
    (repository : Option RepositoryRegistrationRow) : List String :=
  match repository with
  | none => ["REPOSITORY_MISSING"]
  | some row =>
    if some row.projectId ≠ workflow.projectId then ["REPOSITORY_PROJECT_MISMATCH"]
    else if row.status ≠ "ACTIVE" then ["REPOSITORY_INACTIVE:" ++ row.status]
    else []

def stateReasons (state : Option QueueWorkItemState) : List String :=
  match state with
  | none => ["QUEUE_STATE_MALFORMED_OR_MISSING"]
  | some found =>
    if found ∈ eligibleStates then []
    else if found ∈ dispatchBlockedStates then ["BLOCKER_UNRESOLVED:" ++ StrEnum.value found]
    else if found = .running then ["RUNNING_ITEM_ACTIVE"]
    else ["QUEUE_STATE_NOT_EXECUTABLE:" ++ StrEnum.value found]

/-- The first of equal reasons is kept. -/
def distinctReasons (reasons : List String) : List String :=
  reasons.foldl (fun seen reason => if reason ∈ seen then seen else seen ++ [reason]) []

def eligibilityReasons (tables : Tables) (bundle : WorkflowBundle) (item : Item) :
    Except PyExc (List String) := do
  let workflow := bundle.workflow
  let state := queueState? item
  let attached := workflow.repositoryId.all (fun repositoryId =>
    repositoryId.toList.isEmpty || tables.attachments.any (fun attachment =>
      some attachment.projectId = workflow.projectId && attachment.repositoryId = repositoryId))
  let completed :=
    (workflow.taskBacklog.filter (fun other => queueState? other = some .completed)).map itemId
  let dependencies ← (item.getOr "dependencies" (.arr [])).pyIter
  return distinctReasons (
    projectReasons bundle.project ++
    (if workflow.workflowState ∈ executionEligibleWorkflowStates then []
      else ["WORKFLOW_TERMINAL_OR_INELIGIBLE:" ++ StrEnum.value workflow.workflowState]) ++
    taskReasons workflow bundle.task ++
    (if workflow.projectId.isNone then ["WORKFLOW_PROJECT_MISSING"] else []) ++
    repositoryReasons workflow bundle.repository ++
    (if attached then [] else ["REPOSITORY_UNATTACHED"]) ++
    (if workflow.planId.isNone || workflow.planFreezeId.isNone then ["FROZEN_PLAN_MISSING"]
      else if planAuthorizesWorkflow tables.plans tables.freezes workflow then []
      else ["PLAN_FREEZE_PROJECT_OR_TASK_MISMATCH"]) ++
    stateReasons state ++
    (if dependencies.any (fun dependency => dependency.pyStr ∉ completed)
      then ["DEPENDENCIES_UNRESOLVED"] else []) ++
    (if state = some .retryLater then ["RETRY_BACKOFF_ACTIVE"] else []) ++
    (if state = some .readyToResume && !(item.get "current_block_checkpoint_id").truthy
      then ["RESUME_PREREQUISITE_MISSING"] else []))

def candidateFromItem (workflow : PersistentWorkflowRow) (item : Item) (project : Option ProjectRow) :
    Except PyExc DispatchCandidate := do
  let state := (queueState? item).getD .failed
  let policy : Dict := (project.map (·.documentationPolicy)).getD []
  let createdOrder ← (item.getOr "created_order" (.int 0)).pyInt
  let capabilities ←
    (item.getOr "required_capabilities" (.arr [.str "code_modification"])).pyIter
  let version ← itemVersion item
  let readyTimestamp ←
    (((item.get "updated_at").orElse (item.get "ready_at")).orElse (item.get "created_at")).optionalText
  let createdAt ← (item.get "created_at").optionalText
  return {
    projectId := workflow.projectId.getD ""
    workflowId := workflow.id
    taskId := workflow.taskId
    repositoryId := workflow.repositoryId
    itemId := itemId item
    logicalTaskId :=
      (((item.get "logical_task_id").orElse (item.get "task_id")).orElse (.str (itemId item))).pyStr
    priority := upper ((item.get "priority").orElse (.str "NORMAL")).pyStr
    projectPriority := upper (((Dict.get policy "priority").orElse
      (Dict.get policy "scheduling_priority")).orElse (.str "NORMAL")).pyStr
    state := state
    dependencyState := "UNKNOWN"
    blockerState := if state ∈ dispatchBlockedStates then "BLOCKED" else "NONE"
    retryState := if state = .retryLater then "BACKOFF" else "READY"
    resumeState := if state = .readyToResume then "RESUME" else "NEW"
    createdOrder := createdOrder
    readyTimestamp := readyTimestamp
    createdAt := createdAt
    requiredCapabilities := capabilities.map Json.pyStr
    planId := workflow.planId
    planFreezeId := workflow.planFreezeId
    itemVersion := version
    schedulingMetadata :=
      [("workflow_state", .str (StrEnum.value workflow.workflowState)),
        ("authority_tier", .str workflow.authorityTier),
        ("is_resumed", .bool (state = .readyToResume))]
    tieBreakFields :=
      [("project_id", .ofOptionalText workflow.projectId),
        ("workflow_id", .str workflow.id),
        ("item_id", .str (itemId item)),
        ("created_order", .int createdOrder)] }

def candidateKey (candidate : DispatchCandidate) (fairnessDeferredProject : Option String) :
    CandidateKey :=
  let fairnessRank :=
    if fairnessDeferredProject = some candidate.projectId ∧ candidate.projectId ≠ "" ∧
        candidate.priority ≠ "CRITICAL" then 1 else 0
  toLex (priorityRank candidate.priority, toLex (fairnessRank,
    toLex (priorityRank candidate.projectPriority, toLex (stateClassRank (some candidate.state),
      toLex (candidate.createdOrder, toLex (candidate.projectId,
        toLex (candidate.workflowId, candidate.itemId)))))))

def evaluation (tables : Tables) (bundle : WorkflowBundle) (item : Item) :
    Except PyExc DispatchCandidateEvaluation := do
  let candidate ← candidateFromItem bundle.workflow item bundle.project
  let reasons ← eligibilityReasons tables bundle item
  let settled := { candidate with
    dependencyState := if "DEPENDENCIES_UNRESOLVED" ∈ reasons then "UNRESOLVED" else "COMPLETE" }
  return {
    candidate := settled
    eligible := reasons.isEmpty
    reasons := if reasons.isEmpty then ["ELIGIBLE"] else reasons
    schedulingKey := candidateKey settled none }

def evaluations (tables : Tables) :
    List WorkflowBundle → Except PyExc (List DispatchCandidateEvaluation)
  | [] => .ok []
  | bundle :: rest => do
      let found ← bundle.workflow.taskBacklog.mapM (evaluation tables bundle)
      return found ++ (← evaluations tables rest)

def consecutiveProjectLimit : Nat := 2

abbrev AuditKey := ℕ ×ₗ String

def recentStartedProjects (audits : List AuditEventRow) (limit : Nat) : List String :=
  let handed := audits.filter
    (fun row => row.eventType = "MULTI_PROJECT_DISPATCH_CANDIDATE_HANDED_TO_RUNTIME")
  let newest := (sortedBy (fun (row : AuditEventRow) =>
    (toLex (row.timestamp, row.id) : AuditKey)) handed).reverse
  (newest.take limit).filterMap (fun row => row.projectId.filter (fun project => project ≠ ""))

def orderedCandidates (audits : List AuditEventRow) (eligible : List DispatchCandidateEvaluation) :
    List DispatchCandidateEvaluation :=
  let recent := recentStartedProjects audits consecutiveProjectLimit
  let exhausted : Option String :=
    match recent with
    | [first, second] => if first = second then some first else none
    | _ => none
  let alternatives := eligible.any (fun found => some found.candidate.projectId ≠ exhausted)
  let deferred := if alternatives then exhausted else none
  let noted := eligible.map (fun found =>
    let metadata :=
      match deferred with
      | none => found.candidate.schedulingMetadata
      | some project =>
        if found.candidate.projectId = project then
          Dict.set found.candidate.schedulingMetadata
            "fairness_deferred_after_consecutive_dispatches" (.int consecutiveProjectLimit)
        else
          Dict.set found.candidate.schedulingMetadata "fairness_boost"
            (.str ("project " ++ project ++ " reached consecutive dispatch limit"))
    { found with
      candidate := { found.candidate with schedulingMetadata := metadata }
      schedulingKey := candidateKey found.candidate deferred })
  sortedBy (·.schedulingKey) noted

def selectionReason (selected : DispatchCandidateEvaluation) (count : Nat) : String :=
  let candidate := selected.candidate
  "project=" ++ candidate.projectId ++ " workflow=" ++ candidate.workflowId ++ " item=" ++
    candidate.itemId ++ " priority=" ++ candidate.priority ++ " project_priority=" ++
    candidate.projectPriority ++ " state=" ++ StrEnum.value candidate.state ++
    " tie_break=priority, fairness, project_priority, resume, created_order, project_id, " ++
    "workflow_id, item_id eligible_count=" ++ toString count

def isDispatchBlocked (found : DispatchCandidateEvaluation) : Bool :=
  found.candidate.state ∈ dispatchBlockedStates || "DEPENDENCIES_UNRESOLVED" ∈ found.reasons

/-- The selection made from the evaluations of a cycle. An evaluation is excluded
when it is neither eligible nor blocked. -/
def chooseSelection (cycleId : String) (audits : List AuditEventRow)
    (found : List DispatchCandidateEvaluation) : DispatchSelection :=
  let eligible := found.filter (·.eligible)
  let blocked := found.filter isDispatchBlocked
  let excluded := found.filter (fun other => !other.eligible && !isDispatchBlocked other)
  match orderedCandidates audits eligible with
  | [] =>
    { cycleId := cycleId
      reason := "NO_ELIGIBLE_MULTI_PROJECT_WORK"
      excludedCandidates := excluded
      blockedCandidates := blocked }
  | first :: others =>
    let reason := selectionReason first (others.length + 1)
    { cycleId := cycleId
      selected := some first.candidate
      reason := reason
      eligibleCandidates := first :: others
      excludedCandidates := excluded
      blockedCandidates := blocked
      fairnessApplied := Dict.has first.candidate.schedulingMetadata "fairness_boost"
      deterministicTieBreakReason := some reason }

def dispatchAudit (eventType action result : String) (selected : Option DispatchCandidate) : Op Unit :=
  Op.record {
    eventType := eventType
    projectId := selected.map (·.projectId)
    repositoryId := selected.bind (·.repositoryId)
    taskId := selected.bind (·.taskId)
    action := action
    result := result }

def auditSelection (selection : DispatchSelection) (result : String) : Op Unit := do
  match selection.selected with
  | some candidate =>
    dispatchAudit "MULTI_PROJECT_DISPATCH_ELIGIBLE_CANDIDATE_SET"
      "record_eligible_dispatch_candidates" (toString selection.eligibleCandidates.length) none
    dispatchAudit "MULTI_PROJECT_DISPATCH_SCHEDULING_POLICY_APPLIED"
      "apply_deterministic_multi_project_policy" selection.reason (some candidate)
    dispatchAudit "MULTI_PROJECT_DISPATCH_CANDIDATE_SELECTED"
      "select_multi_project_dispatch_candidate" result (some candidate)
  | none =>
    dispatchAudit "MULTI_PROJECT_DISPATCH_NO_ELIGIBLE_WORK"
      "select_multi_project_dispatch_candidate" result none

def selectNext (workflowIds : List String) : Op DispatchSelection := do
  let cycleId ← Op.nextId .audit
  let store ← get
  let bundles ← Action.ofExcept (workflowBundles store.toTables workflowIds)
  dispatchAudit "MULTI_PROJECT_DISPATCH_CYCLE_STARTED" "start_multi_project_dispatch_cycle" cycleId none
  dispatchAudit "MULTI_PROJECT_DISPATCH_PROJECTS_INSPECTED" "inspect_dispatchable_projects"
    (toString bundles.length) none
  let found ← Action.ofExcept (evaluations store.toTables bundles)
  match found.filter (fun other => other.candidate.state = .running) with
  | first :: others =>
    let selection : DispatchSelection := {
      cycleId := cycleId
      reason := "RUNNING_ITEM_ACTIVE_NO_PREEMPTION"
      blockedCandidates := first :: others }
    auditSelection selection "NO_PREEMPTION"
    return selection
  | [] =>
    dispatchAudit "MULTI_PROJECT_DISPATCH_CANDIDATE_ELIGIBILITY_EVALUATED"
      "evaluate_dispatch_candidate"
      ("ELIGIBLE_" ++ toString (found.filter (·.eligible)).length) none
    let audited ← get
    let selection := chooseSelection cycleId audited.audits found
    auditSelection selection (if selection.selected.isSome then "SELECTED" else "NO_ELIGIBLE_WORK")
    return selection

/-- The dispatcher writes the running state itself, not through the queue. -/
def dispatchItem (workflow : PersistentWorkflowRow) (candidate : DispatchCandidate) (item : Item) :
    Op Int := do
  let previousVersion ← Action.ofExcept (itemVersion item)
  let startedAt ← Op.utcNow
  let generation ← Action.ofExcept (item.getOr "run_generation" (.int 0)).pyInt
  let started := (((item.set "state" (.str (StrEnum.value QueueWorkItemState.running))).set
    "version" (.int (previousVersion + 1))).set
    "started_at" (.str startedAt.isoformat)).set "run_generation" (.int (generation + 1))
  let updatedAt ← Op.utcNow
  Op.putWorkflow { workflow with
    activeTaskId := some candidate.itemId
    taskBacklog := replaceItem workflow.taskBacklog candidate.itemId started
    updatedAt := updatedAt }
  return previousVersion

def startNext (workflowIds : List String) : Op DispatchSelection := do
  let selection ← selectNext workflowIds
  match selection.selected with
  | none => return selection
  | some candidate =>
    let store ← get
    match store.workflows.get? candidate.workflowId with
    | none =>
      throw (.queueStateError ("Selected workflow no longer exists or is empty: " ++
        candidate.workflowId))
    | some workflow =>
      if workflow.taskBacklog.isEmpty then
        throw (.queueStateError ("Selected workflow no longer exists or is empty: " ++
          candidate.workflowId))
      else
        match workflow.taskBacklog.find? (fun item => itemId item = candidate.itemId) with
        | none =>
          throw (.queueStateError ("Selected queue item no longer exists in workflow: " ++
            candidate.itemId))
        | some item =>
          let previousVersion ← dispatchItem workflow candidate item
          let result := { selection with
            started := true
            startedPreviousState := some (item.get "state").pyStr
            startedNewState := some (StrEnum.value QueueWorkItemState.running)
            startedPreviousVersion := some previousVersion
            startedNewVersion := some (previousVersion + 1) }
          dispatchAudit "MULTI_PROJECT_DISPATCH_CANDIDATE_HANDED_TO_RUNTIME"
            "hand_dispatch_candidate_to_runtime" "SUCCESS" result.selected
          return result

theorem evaluation_ok {tables : Tables} {bundle : WorkflowBundle} {item : Item}
    {found : DispatchCandidateEvaluation} (done : evaluation tables bundle item = .ok found) :
    found.candidate.state = (queueState? item).getD .failed ∧
      found.candidate.workflowId = bundle.workflow.id ∧ found.candidate.itemId = itemId item ∧
      (found.eligible = true → eligibilityReasons tables bundle item = .ok []) := by
  unfold evaluation candidateFromItem at done
  rcases created : (item.getOr "created_order" (.int 0)).pyInt with _ | createdOrder
  · simp [created, bind, Except.bind] at done
  rcases able : (item.getOr "required_capabilities" (.arr [.str "code_modification"])).pyIter
    with _ | capabilities
  · simp [created, able, bind, Except.bind] at done
  rcases versioned : itemVersion item with _ | version
  · simp [created, able, versioned, bind, Except.bind] at done
  rcases ready : (((item.get "updated_at").orElse (item.get "ready_at")).orElse
    (item.get "created_at")).optionalText with _ | readyTimestamp
  · simp [created, able, versioned, ready, bind, Except.bind] at done
  rcases born : (item.get "created_at").optionalText with _ | createdAt
  · simp [created, able, versioned, ready, born, bind, Except.bind] at done
  rcases judged : eligibilityReasons tables bundle item with _ | reasons
  · simp [created, able, versioned, ready, born, judged, bind, Except.bind, pure, Except.pure] at done
  simp only [created, able, versioned, ready, born, judged, bind, Except.bind, pure, Except.pure,
    Except.ok.injEq] at done
  subst done
  refine ⟨rfl, rfl, rfl, ?_⟩
  intro eligible
  rw [List.isEmpty_iff.mp eligible]

theorem evaluations_ok {tables : Tables} {bundles : List WorkflowBundle}
    {found : List DispatchCandidateEvaluation} (done : evaluations tables bundles = .ok found) :
    (∀ bundle ∈ bundles, ∀ item ∈ bundle.workflow.taskBacklog, ∃ other ∈ found,
      evaluation tables bundle item = .ok other) ∧
    (∀ other ∈ found, ∃ bundle ∈ bundles, ∃ item ∈ bundle.workflow.taskBacklog,
      evaluation tables bundle item = .ok other) := by
  induction bundles generalizing found with
  | nil =>
    cases done
    exact ⟨by simp, by simp⟩
  | cons bundle rest ih =>
    unfold evaluations at done
    rcases read : bundle.workflow.taskBacklog.mapM (evaluation tables bundle) with _ | here
    · simp [read, bind, Except.bind] at done
    rcases later : evaluations tables rest with _ | there
    · simp [read, later, bind, Except.bind] at done
    simp only [read, later, bind, Except.bind, pure, Except.pure, Except.ok.injEq] at done
    subst done
    obtain ⟨present, origin⟩ := ih later
    have paired := mapM_ok read
    constructor
    · intro other member item inside
      rcases List.mem_cons.mp member with same | tail
      · subst same
        obtain ⟨known, listed, parse⟩ := forall₂_left paired inside
        exact ⟨known, List.mem_append_left _ listed, parse⟩
      · obtain ⟨known, listed, parse⟩ := present other tail item inside
        exact ⟨known, List.mem_append_right _ listed, parse⟩
    · intro other member
      rcases List.mem_append.mp member with head | tail
      · obtain ⟨item, inside, parse⟩ := forall₂_right paired head
        exact ⟨bundle, List.mem_cons_self, item, inside, parse⟩
      · obtain ⟨known, listed, item, inside, parse⟩ := origin other tail
        exact ⟨known, List.mem_cons_of_mem _ listed, item, inside, parse⟩

theorem workflowBundles_ok {tables : Tables} {workflowIds : List String} {bundles : List WorkflowBundle}
    (read : workflowBundles tables workflowIds = .ok bundles) :
    (∀ bundle ∈ bundles, bundle = bundleOf tables bundle.workflow ∧
      bundle.workflow ∈ tables.workflows.rows ∧
      (workflowIds = [] ∨ bundle.workflow.id ∈ workflowIds)) ∧
    (∀ row ∈ tables.workflows.rows, (workflowIds = [] ∨ row.id ∈ workflowIds) →
      row.taskBacklog ≠ [] → bundleOf tables row ∈ bundles) := by
  unfold workflowBundles at read
  simp only at read
  split at read
  · cases read
  · cases read
    constructor
    · intro bundle member
      obtain ⟨row, inside, same⟩ := List.mem_map.mp member
      subst same
      have listed := (mem_sortedBy _ _ _).mp (List.mem_of_mem_filter inside)
      obtain ⟨present, scope⟩ := List.mem_filter.mp listed
      have named : workflowIds = [] ∨ row.id ∈ workflowIds := by simpa using scope
      exact ⟨rfl, present, named⟩
    · intro row member scope busy
      apply List.mem_map_of_mem
      rw [List.mem_filter, mem_sortedBy, List.mem_filter]
      refine ⟨⟨member, ?_⟩, by simpa using busy⟩
      rcases scope with all | some
      · simp [all]
      · simp [some]

theorem orderedCandidates_same {audits : List AuditEventRow}
    {eligible : List DispatchCandidateEvaluation} {found : DispatchCandidateEvaluation}
    (member : found ∈ orderedCandidates audits eligible) :
    ∃ origin ∈ eligible, found.candidate =
      { origin.candidate with schedulingMetadata := found.candidate.schedulingMetadata } := by
  unfold orderedCandidates at member
  simp only [mem_sortedBy] at member
  obtain ⟨origin, inside, same⟩ := List.mem_map.mp member
  subst same
  exact ⟨origin, inside, rfl⟩

theorem chooseSelection_same {cycleId : String} {audits : List AuditEventRow}
    {found : List DispatchCandidateEvaluation} {candidate : DispatchCandidate}
    (chosen : (chooseSelection cycleId audits found).selected = some candidate) :
    ∃ origin ∈ found, origin.eligible = true ∧
      candidate = { origin.candidate with schedulingMetadata := candidate.schedulingMetadata } := by
  unfold chooseSelection at chosen
  simp only at chosen
  split at chosen
  · cases chosen
  · rename_i first others ordered
    cases chosen
    have member : first ∈ orderedCandidates audits (found.filter (·.eligible)) := by
      rw [ordered]
      exact List.mem_cons_self
    obtain ⟨origin, inside, same⟩ := orderedCandidates_same member
    rw [List.mem_filter] at inside
    exact ⟨origin, inside.1, inside.2, same⟩

theorem auditSelection_tables {selection : DispatchSelection} {result : String} {store after : Store}
    {nothing : Unit}
    (done : Action.exec (auditSelection selection result) store = (.ok nothing, after)) :
    after.toTables = store.toTables := by
  unfold auditSelection dispatchAudit at done
  cases chosen : selection.selected with
  | none =>
    simp only [chosen, Op.exec_record] at done
    cases done
    rfl
  | some candidate =>
    simp only [chosen] at done
    rw [exec_bind_of_ok (Op.exec_record _ _), exec_bind_of_ok (Op.exec_record _ _),
      Op.exec_record] at done
    cases done
    rfl

/-- A dispatch cycle that selects an item found every workflow in its scope idle
and no reason against the item. -/
structure Dispatchable (tables : Tables) (workflowIds : List String) (candidate : DispatchCandidate) :
    Prop where
  inScope : workflowIds = [] ∨ candidate.workflowId ∈ workflowIds
  idle : ∀ row ∈ tables.workflows.rows, (workflowIds = [] ∨ row.id ∈ workflowIds) → Idle row
  eligible : ∃ row ∈ tables.workflows.rows, ∃ item ∈ row.taskBacklog, candidate.workflowId = row.id ∧
    candidate.itemId = itemId item ∧ eligibilityReasons tables (bundleOf tables row) item = .ok []

/-- A selection is read off the evaluations of the bundles in scope, none of a running item where
it selects. -/
structure SelectionOf (tables : Tables) (workflowIds : List String) (selection : DispatchSelection)
    (bundles : List WorkflowBundle) (found : List DispatchCandidateEvaluation) : Prop where
  listed : workflowBundles tables workflowIds = .ok bundles
  judged : evaluations tables bundles = .ok found
  chosen : selection.selected = none ∨
    found.filter (fun other => other.candidate.state = .running) = [] ∧
      ∃ cycleId audits, selection = chooseSelection cycleId audits found

theorem selectNext_reads {workflowIds : List String} {selection : DispatchSelection} {store after : Store}
    (done : Action.exec (selectNext workflowIds) store = (.ok selection, after)) :
    after.toTables = store.toTables ∧
      ∃ bundles found, SelectionOf store.toTables workflowIds selection bundles found := by
  unfold selectNext at done
  rw [exec_bind_of_ok (Op.exec_nextId _ _), exec_get_bind] at done
  obtain ⟨bundles, listed, done⟩ := bind_ofExcept_ok done
  simp only [dispatchAudit] at done
  rw [exec_bind_of_ok (Op.exec_record _ _), exec_bind_of_ok (Op.exec_record _ _)] at done
  obtain ⟨found, judged, done⟩ := bind_ofExcept_ok done
  rw [Store.issue_tables] at listed judged
  split at done
  · obtain ⟨_, last, audited, done⟩ := bind_ok done
    have kept := auditSelection_tables audited
    obtain ⟨rfl, rfl⟩ := ok_pure done
    exact ⟨kept, bundles, found, listed, judged, .inl rfl⟩
  · rename_i quiet
    rw [exec_bind_of_ok (Op.exec_record _ _), exec_get_bind] at done
    obtain ⟨_, last, audited, done⟩ := bind_ok done
    have kept := auditSelection_tables audited
    obtain ⟨rfl, rfl⟩ := ok_pure done
    exact ⟨kept, bundles, found, listed, judged, .inr ⟨quiet, _, _, rfl⟩⟩

theorem selectNext_ok {workflowIds : List String} {selection : DispatchSelection} {store after : Store}
    (done : Action.exec (selectNext workflowIds) store = (.ok selection, after)) :
    after.toTables = store.toTables ∧ ∀ candidate, selection.selected = some candidate →
      Dispatchable store.toTables workflowIds candidate := by
  obtain ⟨kept, bundles, found, listed, judged, origin⟩ := selectNext_reads done
  refine ⟨kept, ?_⟩
  intro candidate chosen
  rcases origin with none | ⟨quiet, cycleId, audits, rfl⟩
  · rw [none] at chosen
    cases chosen
  · obtain ⟨present, origin⟩ := evaluations_ok judged
    obtain ⟨known, complete⟩ := workflowBundles_ok listed
    obtain ⟨source, inside, eligible, same⟩ := chooseSelection_same chosen
    obtain ⟨bundle, listedBundle, item, held, parse⟩ := origin source inside
    obtain ⟨-, workflowNamed, itemNamed, reasons⟩ := evaluation_ok parse
    obtain ⟨shape, row, scope⟩ := known bundle listedBundle
    constructor
    · rw [same]
      exact workflowNamed.symm ▸ scope
    · intro row member scope item inside running
      have busy : row.taskBacklog ≠ [] := List.ne_nil_of_mem inside
      obtain ⟨other, seen, parse⟩ := present _ (complete row member scope busy) item inside
      have stated := (evaluation_ok parse).1
      rw [running, Option.getD_some] at stated
      have filtered : other ∈ found.filter (fun other => other.candidate.state = .running) := by
        rw [List.mem_filter]
        exact ⟨seen, by simpa using stated⟩
      rw [quiet] at filtered
      cases filtered
    · rw [same]
      refine ⟨bundle.workflow, row, item, held, workflowNamed, itemNamed, ?_⟩
      rw [← shape]
      exact reasons eligible

theorem dispatchItem_ok {workflow : PersistentWorkflowRow} {candidate : DispatchCandidate} {item : Item}
    {previous : Int} {store after : Store}
    (present : store.workflows.get? workflow.id = some workflow)
    (found : findItem workflow.taskBacklog candidate.itemId = .ok item)
    (done : Action.exec (dispatchItem workflow candidate item) store = (.ok previous, after)) :
    ∃ new, ItemWrite store.toTables after.toTables workflow item new ∧ Moved item new .running ∧
      SameNeeds item new := by
  unfold dispatchItem at done
  obtain ⟨version, versioned, done⟩ := bind_ofExcept_ok done
  rw [exec_bind_of_ok (Op.exec_utcNow _)] at done
  obtain ⟨generation, _, done⟩ := bind_ofExcept_ok done
  rw [exec_bind_of_ok (Op.exec_utcNow _), exec_bind_of_ok (Op.exec_putWorkflow _ _)] at done
  obtain ⟨-, final⟩ := ok_pure done
  refine ⟨_, (queueWrite_of_put (congrArg Store.toTables final) rfl present found
    ⟨rfl, rfl, rfl, rfl, rfl, rfl, rfl⟩ rfl).itemWrite, ⟨?_, ⟨version, versioned, ?_⟩, ?_⟩, ?_⟩
  · simp [queueState?, Json.isNull]
  · simp [itemVersion]
  · simp [itemId]
  · simp [SameNeeds]

theorem startNext_ok {workflowIds : List String} {selection : DispatchSelection} {store after : Store}
    (done : Action.exec (startNext workflowIds) store = (.ok selection, after)) :
    (selection.selected = none ∧ after.toTables = store.toTables) ∨
    ∃ candidate row item new, selection.selected = some candidate ∧
      Dispatchable store.toTables workflowIds candidate ∧ candidate.workflowId = row.id ∧
      candidate.itemId = itemId item ∧ ItemWrite store.toTables after.toTables row item new ∧
      Moved item new .running ∧ SameNeeds item new := by
  unfold startNext at done
  obtain ⟨chosen, middle, cycle, done⟩ := bind_ok done
  obtain ⟨kept, dispatchable⟩ := selectNext_ok cycle
  cases wanted : chosen.selected with
  | none =>
    simp only [wanted] at done
    obtain ⟨rfl, rfl⟩ := ok_pure done
    exact Or.inl ⟨wanted, kept⟩
  | some candidate =>
    simp only [wanted] at done
    rw [exec_get_bind] at done
    split at done
    · cases done
    rename_i row present
    split at done
    · cases done
    split at done
    · cases done
    rename_i item listed
    have named := Table.get?_key present
    have found := find_eq_findItem _ _ _ listed
    obtain ⟨previous, last, dispatched, done⟩ := bind_ok done
    have here : middle.workflows.get? row.id = some row := by
      rw [show row.id = candidate.workflowId from named]
      exact present
    obtain ⟨new, write, moved, needs⟩ := dispatchItem_ok here found dispatched
    rw [dispatchAudit, exec_bind_of_ok (Op.exec_record _ _)] at done
    obtain ⟨rfl, rfl⟩ := ok_pure done
    obtain ⟨_, _, _, itemNamed, _⟩ := findItem_split found
    refine Or.inr ⟨candidate, row, item, new, rfl, dispatchable candidate wanted, named.symm,
      itemNamed.symm, ?_, moved, needs⟩
    rw [Store.record_tables, ← kept]
    exact write

end Lucius.Runtime
