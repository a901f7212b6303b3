import Lucius.Queue.Steps

/-! The supervisor of durable missions: the waits of a mission, the state they
put an item in, and the state they leave it in when they are cleared. -/

namespace Lucius.Mission

open Queue

def matchesItem (itemId : String) (item : Item) : Bool :=
  (item.get "id").isStr itemId || (item.get "item_id").isStr itemId ||
    (item.get "logical_task_id").isStr itemId

def stateText (target : QueueWorkItemState) : Json := .str (StrEnum.value target)

/-- The state is written alone: the version of the item is left as it is. -/
def targetItem (itemId : String) (target : QueueWorkItemState) (item : Item) : Item :=
  if matchesItem itemId item then item.set "state" (stateText target) else item

/-- The first workflow that holds a matching item has all its matching items moved. -/
def retargeted (workflows : Table PersistentWorkflowRow) (itemId : String)
    (target : QueueWorkItemState) : Table PersistentWorkflowRow :=
  match workflows.rows.find? (fun row => row.taskBacklog.any (matchesItem itemId)) with
  | none => workflows
  | some row =>
    workflows.put { row with taskBacklog := row.taskBacklog.map (targetItem itemId target) }

def updateItemState (itemId : String) (target : QueueWorkItemState) : Op Unit :=
  modify (fun store => { store with workflows := retargeted store.workflows itemId target })

def putMission (row : DurableMissionRow) : Op Unit :=
  modify (fun store => { store with missions := store.missions.put row })

def putWait (row : DurableWaitRow) : Op Unit :=
  modify (fun store => { store with waits := store.waits.put row })

def addMission (row : DurableMissionRow) : Op Unit := do
  let store ← get
  if (store.missions.get? row.id).isSome then throw .databaseError
  else set { store with missions := store.missions.add row }

def addWait (row : DurableWaitRow) : Op Unit := do
  let store ← get
  if (store.waits.get? row.id).isSome then throw .databaseError
  else set { store with waits := store.waits.add row }

/-- The classes whose clearing makes an item ready. -/
def clearableClasses : List String :=
  ["RESOURCE", "RESOURCE_SHORT", "RESOURCE_LONG", "DEPENDENCY", "SCHEDULE"]

/-- The state a recorded wait puts its item in; a human wait puts it in none. -/
def recordedState (waitClass : String) : Option QueueWorkItemState :=
  if waitClass = "RESOURCE_SHORT" then some .waitingResourceShort
  else if waitClass = "RESOURCE_LONG" then some .waitingResourceLong
  else if waitClass = "RESOURCE" then some .waitingResource
  else if waitClass = "DEPENDENCY" then some .waitingDependency
  else if waitClass = "SCHEDULE" then some .waitingSchedule
  else if waitClass = "AUTHORITY" then some .blockedAuthority
  else if waitClass = "DECISION" then some .blockedDecision
  else none

/-- An identifier that is absent or empty names no item. -/
def namedItem (itemId : Option String) : Option String :=
  itemId.filter (fun text => !text.toList.isEmpty)

structure DurableWaitRecord where
  waitId : String
  missionId : String
  itemId : Option String
  taskId : Option String
  projectId : Option String
  waitClass : DurableWaitClass
  reason : String
  dependencyOrResource : Option String
  retryAfter : Option Timestamp
  providerInfo : Dict
  attempts : Int
  provenance : Dict
  clearedAt : Option Timestamp
  isCleared : Bool
  metadata : Dict

def waitRecord (row : DurableWaitRow) : Except PyExc DurableWaitRecord := do
  let providerInfo ← ((row.waitMetadata.get "provider_info").orElse (.obj [])).pyDict
  let attempts ← (row.waitMetadata.getOr "attempts" (.int 0)).pyInt
  let provenance ← ((row.waitMetadata.get "provenance").orElse (.obj [])).pyDict
  let projectId ← (row.waitMetadata.get "project_id").optionalText
  let dependency ← (row.waitMetadata.get "dependency_or_resource").optionalText
  return {
    waitId := row.id
    missionId := row.missionId
    itemId := row.itemId
    taskId := row.taskId
    projectId := projectId
    waitClass := (StrEnum.ofValue? row.waitClass).getD .resource
    reason := row.reason
    dependencyOrResource := dependency
    retryAfter := row.retryAfter
    providerInfo := providerInfo
    attempts := attempts
    provenance := provenance
    clearedAt := row.clearedAt
    isCleared := row.isCleared
    metadata := row.waitMetadata }

structure DurableMissionRecord where
  missionId : String
  canonicalSha : String
  status : MissionStatus
  createdAt : Timestamp
  updatedAt : Timestamp
  completedTasksCount : Nat
  waitingTasksCount : Nat
  blockedTasksCount : Nat
  waitRecords : List DurableWaitRecord
  metadata : Dict

def missionRecord (row : DurableMissionRow) (waits : List DurableWaitRow) :
    Except PyExc DurableMissionRecord := do
  let records ← waits.mapM waitRecord
  return {
    missionId := row.id
    canonicalSha := row.canonicalSha
    status := row.status
    createdAt := row.createdAt
    updatedAt := row.updatedAt
    completedTasksCount := row.completedTasksCount
    waitingTasksCount := row.waitingTasksCount
    blockedTasksCount := row.blockedTasksCount
    waitRecords := records
    metadata := row.missionMetadata }

def allItems (workflows : Table PersistentWorkflowRow) : List Item :=
  workflows.rows.flatMap (·.taskBacklog)

def inStates (states : List QueueWorkItemState) (item : Item) : Bool :=
  states.any (fun target => (item.get "state").isStr (StrEnum.value target))

def waitingStates : List QueueWorkItemState :=
  [.waitingResource, .waitingResourceShort, .waitingResourceLong, .waitingDependency,
    .waitingSchedule, .waitingHuman, .waitingExternal]

def blockedItemStates : List QueueWorkItemState :=
  [.blockedDependency, .blockedAuthority, .blockedDecision]

def earliest : List Timestamp → Option Timestamp
  | [] => none
  | first :: rest => some (rest.foldl min first)

def sleepingMetadata (uncleared : List DurableWaitRow) : Json :=
  .obj [
    ("why_not_executable",
      .str "All active work packages are waiting on resources, dependencies, or schedules."),
    ("earliest_wake_at",
      .ofOptionalText ((earliest (uncleared.filterMap (·.retryAfter))).map Timestamp.isoformat)),
    ("unresolved_dependencies",
      .ofTexts ((uncleared.filter (fun wait => wait.waitClass = "DEPENDENCY")).map (·.reason))),
    ("blocked_authority_decisions",
      .ofTexts ((uncleared.filter (fun wait =>
        wait.waitClass ∈ ["AUTHORITY", "DECISION"])).map (·.reason)))]

def isLongOrSchedule (now : Timestamp) (wait : DurableWaitRow) : Bool :=
  wait.waitClass = "RESOURCE_LONG" || wait.retryAfter.any (fun retryAt => now + 60000000 < retryAt)

/-- The mission as its waits and the items of all workflows leave it. -/
def reconciled (mission : DurableMissionRow) (waits : List DurableWaitRow) (items : List Item)
    (now : Timestamp) : DurableMissionRow :=
  let uncleared := waits.filter (fun wait => !wait.isCleared)
  let waiting := uncleared.filter (fun wait => wait.waitClass ∈ clearableClasses)
  let blocked := uncleared.filter (fun wait => wait.waitClass ∈ ["AUTHORITY", "DECISION", "BLOCKED"])
  let completedItems := items.filter (inStates [.completed])
  let waitingItems := items.filter (inStates waitingStates)
  let blockedItems := items.filter (inStates blockedItemStates)
  let readyItems := items.filter (inStates [.ready, .readyToResume])
  let counted := { mission with
    completedTasksCount := max completedItems.length mission.completedTasksCount
    waitingTasksCount := max waitingItems.length waiting.length
    blockedTasksCount := max blockedItems.length blocked.length }
  if mission.status ∈ [MissionStatus.paused, .interrupted] ∧ readyItems.isEmpty then counted
  else if !readyItems.isEmpty then { counted with status := .active }
  else if !waitingItems.isEmpty || !uncleared.isEmpty then
    { counted with
      status := if uncleared.any (isLongOrSchedule now) then .sleeping else .waiting
      missionMetadata :=
        Dict.set mission.missionMetadata "sleeping_metadata" (sleepingMetadata uncleared) }
  else if !items.isEmpty ∧ completedItems.length = items.length ∧ blockedItems.isEmpty then
    { counted with status := .completed }
  else if !blockedItems.isEmpty then { counted with status := .failed }
  else { counted with status := .waiting }

def missionRow (missionId : String) : Op DurableMissionRow := do
  let store ← get
  match store.missions.get? missionId with
  | some row => return row
  | none => throw (.valueError ("Durable mission '" ++ missionId ++ "' not found"))

def missionWaits (waits : Table DurableWaitRow) (missionId : String) : List DurableWaitRow :=
  waits.rows.filter (fun wait => wait.missionId = missionId)

def reconcileMissionState (missionId : String) : Op DurableMissionRecord := do
  let mission ← missionRow missionId
  let store ← get
  let waits := missionWaits store.waits missionId
  let now ← Op.utcNow
  let updatedAt ← Op.utcNow
  let row := { reconciled mission waits (allItems store.workflows) now with updatedAt := updatedAt }
  putMission row
  Action.ofExcept (missionRecord row waits)

def auditMission (eventType action result : String) : Op Unit :=
  Op.record { eventType := eventType, action := action, result := result }

def attemptEntry (attemptId : String) (startedAt : Timestamp) (recovered : Bool) : Json :=
  .obj ([("attempt_id", .str attemptId), ("started_at", .str startedAt.isoformat)] ++
    (if recovered then [("recovered", .bool true)] else []))

/-- `list + list`: nothing but a list can stand on the left. -/
def extended (attempts : Json) (entry : Json) : Except PyExc Json :=
  match attempts with
  | .arr entries => .ok (.arr (entries ++ [entry]))
  | _ => .error .typeError

def givenOr (label : String) : Option String → Op String
  | some given => return given
  | none => do return label ++ "_" ++ (← Op.uuid)

def createMission (canonicalSha : String) (metadata : Dict) (missionId attemptId : Option String) :
    Op DurableMissionRecord := do
  let id ← givenOr "mis" missionId
  let attempt ← givenOr "att" attemptId
  let startedAt ← Op.utcNow
  let named := metadata.set "current_attempt_id" (.str attempt)
  let attempts ← Action.ofExcept
    (extended (named.getOr "attempts" (.arr [])) (attemptEntry attempt startedAt false))
  let createdAt ← Op.utcNow
  let row : DurableMissionRow := {
    id := id
    canonicalSha := canonicalSha
    createdAt := createdAt
    updatedAt := createdAt
    missionMetadata := named.set "attempts" attempts }
  addMission row
  auditMission "DURABLE_MISSION_CREATED" "create_mission" "SUCCESS"
  Action.ofExcept (missionRecord row [])

structure WaitRequest where
  waitClass : String
  reason : String
  itemId : Option String := none
  taskId : Option String := none
  projectId : Option String := none
  dependencyOrResource : Option String := none
  retryAfter : Option Timestamp := none
  providerInfo : Dict := []
  attempts : Int := 0
  lastAttempt : Option Timestamp := none
  nextEligibilityEval : Option Timestamp := none
  provenance : Dict := []
  metadata : Dict := []

def setWhen (condition : Bool) (key : String) (value : Json) (dict : Dict) : Dict :=
  if condition then dict.set key value else dict

def setTime (key : String) (timestamp : Option Timestamp) (dict : Dict) : Dict :=
  match timestamp with
  | some found => dict.set key (.str found.isoformat)
  | none => dict

def waitMetadata (request : WaitRequest) (enteredAt : Timestamp) : Dict :=
  let named := setWhen (namedItem request.projectId).isSome "project_id"
    (.ofOptionalText request.projectId) request.metadata
  let depends := setWhen (namedItem request.dependencyOrResource).isSome "dependency_or_resource"
    (.ofOptionalText request.dependencyOrResource) named
  let provided := setWhen (!request.providerInfo.isEmpty) "provider_info"
    (.obj request.providerInfo) depends
  let attempted := provided.set "attempts" (.int request.attempts)
  let timed := setTime "next_eligibility_eval" request.nextEligibilityEval
    (setTime "last_attempt" request.lastAttempt attempted)
  let traced := setWhen (!request.provenance.isEmpty) "provenance" (.obj request.provenance) timed
  traced.set "entered_at" (.str enteredAt.isoformat)

/-- The item a recorded wait holds, and the state it is held in. -/
def heldItem (request : WaitRequest) : Option (String × QueueWorkItemState) :=
  match namedItem request.itemId, recordedState request.waitClass with
  | some itemId, some target => some (itemId, target)
  | _, _ => none

def hold (request : WaitRequest) : Op Unit :=
  match heldItem request with
  | some (itemId, target) => updateItemState itemId target
  | none => pure ()

def recordWait (missionId : String) (request : WaitRequest) : Op DurableWaitRecord := do
  let token ← Op.uuid
  let enteredAt ← Op.utcNow
  let createdAt ← Op.utcNow
  let wait : DurableWaitRow := {
    id := "wait_" ++ token
    missionId := missionId
    itemId := request.itemId
    taskId := request.taskId
    waitClass := request.waitClass
    reason := request.reason
    retryAfter := request.retryAfter
    createdAt := createdAt
    waitMetadata := waitMetadata request enteredAt }
  addWait wait
  hold request
  let _ ← reconcileMissionState missionId
  auditMission "DURABLE_WAIT_RECORDED" "record_wait" "SUCCESS"
  Action.ofExcept (waitRecord wait)

/-- The item a cleared wait makes ready. -/
def releasedItem (wait : DurableWaitRow) : Option String :=
  if wait.waitClass ∈ clearableClasses then namedItem wait.itemId else none

def release (wait : DurableWaitRow) : Op Unit :=
  match releasedItem wait with
  | some itemId => updateItemState itemId .ready
  | none => pure ()

/-- A wait that is cleared already is cleared again. -/
def clearWait (waitId : String) : Op (Option DurableWaitRecord) := do
  let store ← get
  match store.waits.get? waitId with
  | none => return none
  | some wait =>
    let clearedAt ← Op.utcNow
    let cleared := { wait with isCleared := true, clearedAt := some clearedAt }
    putWait cleared
    release cleared
    let _ ← reconcileMissionState wait.missionId
    auditMission "DURABLE_WAIT_CLEARED" "clear_wait" "SUCCESS"
    return some (← Action.ofExcept (waitRecord cleared))

def getMission (missionId : String) : Op (Option DurableMissionRecord) := do
  let store ← get
  if (store.missions.get? missionId).isNone then return none
  else return some (← reconcileMissionState missionId)

def isDue (now : Timestamp) (wait : DurableWaitRow) : Bool :=
  wait.retryAfter.any (fun retryAt => retryAt ≤ now)

/-- The due waits of a mission are cleared one after the other. -/
def clearDue (now : Timestamp) : List DurableWaitRow → Op Unit
  | [] => pure ()
  | wait :: rest => do
      putWait { wait with isCleared := true, clearedAt := some now }
      release wait
      clearDue now rest

def recoverMission (missionId : String) (currentCanonicalSha attemptId canonicalSha : Option String) :
    Op DurableMissionRecord := do
  let targetSha := ((namedItem currentCanonicalSha).or (namedItem canonicalSha)).getD "HEAD"
  let mission ← missionRow missionId
  if mission.canonicalSha ≠ targetSha then
    throw (.valueError ("Canonical SHA mismatch during mission recovery: mission sha=" ++
      mission.canonicalSha ++ ", current sha=" ++ targetSha))
  else
    let attempt ← givenOr "att" attemptId
    let named := Dict.set mission.missionMetadata "current_attempt_id" (.str attempt)
    let attempts ← Action.ofExcept (Json.pyIter (Dict.getOr named "attempts" (.arr [])))
    let startedAt ← Op.utcNow
    putMission { mission with
      missionMetadata := Dict.set named "attempts"
        (.arr (attempts ++ [attemptEntry attempt startedAt true])) }
    let now ← Op.utcNow
    let store ← get
    clearDue now ((missionWaits store.waits missionId).filter
      (fun wait => !wait.isCleared && isDue now wait))
    let record ← reconcileMissionState missionId
    auditMission "DURABLE_MISSION_RECOVERED" "recover_mission" "SUCCESS"
    return record

def recordInterruption (missionId : String) (attemptId : Option String) (reason : String)
    (checkpointData : Dict) : Op DurableMissionRecord := do
  let mission ← missionRow missionId
  let timestamp ← Op.utcNow
  let attempt := (Json.ofOptionalText attemptId).orElse
    (Dict.get mission.missionMetadata "current_attempt_id")
  let interruption := Json.obj [("attempt_id", attempt), ("timestamp", .str timestamp.isoformat),
    ("reason", .str reason), ("checkpoint", .obj checkpointData)]
  let updatedAt ← Op.utcNow
  putMission { mission with
    status := .paused
    missionMetadata := Dict.set mission.missionMetadata "last_interruption" interruption
    updatedAt := updatedAt }
  auditMission "DURABLE_MISSION_INTERRUPTED" "record_interruption" "INTERRUPTED"
  reconcileMissionState missionId

def requiredPathsExist (pathExists : String → Bool) : List Json → Except PyExc Bool
  | [] => .ok true
  | .str path :: rest => if pathExists path then requiredPathsExist pathExists rest else .ok false
  | _ :: _ => .error .typeError

/-- The three reasons to clear a wait: its timer, its required paths, its provider. -/
def shouldClear (pathExists : String → Bool) (now : Timestamp) (wait : DurableWaitRow) :
    Except PyExc Bool := do
  let provided := (Dict.get wait.waitMetadata "provider_reavailable").isTrue ||
    (Dict.get wait.waitMetadata "can_resume").isTrue
  if isDue now wait then return true
  else if wait.waitClass = "DEPENDENCY" then
    let required := (Dict.get wait.waitMetadata "required_paths").orElse
      (Dict.get wait.waitMetadata "dependency_file_paths")
    match required with
    | .arr [] => return provided
    | .arr paths => return (← requiredPathsExist pathExists paths) || provided
    | _ => return provided
  else return provided

def clearWhen (clear : Bool) (waitId : String) : Op (Option DurableWaitRecord) :=
  if clear then clearWait waitId else return none

def reevaluateWaits (pathExists : String → Bool) (now : Timestamp) :
    List DurableWaitRow → Op (List DurableWaitRecord)
  | [] => return []
  | wait :: rest => do
      let clear ← Action.ofExcept (shouldClear pathExists now wait)
      let cleared ← clearWhen clear wait.id
      return cleared.toList ++ (← reevaluateWaits pathExists now rest)

def reevaluateDurableWaits (pathExists : String → Bool) (missionId : Option String) :
    Op (List DurableWaitRecord) := do
  let now ← Op.utcNow
  let store ← get
  reevaluateWaits pathExists now (store.waits.rows.filter (fun wait =>
    !wait.isCleared && missionId.all (fun wanted => wait.missionId = wanted)))

end Lucius.Mission
