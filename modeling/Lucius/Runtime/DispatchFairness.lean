import Lucius.Lib.Run
import Lucius.Lib.Sorting
import Lucius.Runtime.DispatchPolicy

/-! Whether one project is dispatched a third time in a row while another one waits.

The dispatcher keeps no memory of its own: which projects it served last it reads from the
audit events of its hand-overs, by their timestamps and then their identifiers. -/

namespace Lucius.Runtime

open Queue Lucius.Action Run

def isHandOver (row : AuditEventRow) : Bool :=
  decide (row.eventType = "MULTI_PROJECT_DISPATCH_CANDIDATE_HANDED_TO_RUNTIME")

def handOvers (audits : List AuditEventRow) : List AuditEventRow := audits.filter isHandOver

/-- The store, with the projects of the dispatches made so far, the oldest first. -/
structure DispatchState where
  store : Store
  history : List String := []

/-- What happens between two dispatches: anything but a hand-over. -/
structure Elsewhere where
  change : Store → Store
  quiet : ∀ store, handOvers (change store).audits = handOvers store.audits

inductive DispatchOperation where
  | startNext (workflowIds : List String)
  | elsewhere (work : Elsewhere)

/-- The project that a call has dispatched an item of. -/
def dispatchedProject : Except PyExc DispatchSelection → List String
  | .ok selection => (selection.selected.map (·.projectId)).toList
  | .error _ => []

def dispatchStep (state : DispatchState) : DispatchOperation → DispatchState
  | .startNext workflowIds =>
    { store := (exec (startNext workflowIds) state.store).2
      history := state.history ++ dispatchedProject (exec (startNext workflowIds) state.store).1 }
  | .elsewhere work => { state with store := work.change state.store }

/-- The last two dispatches went to the project. -/
def Exhausted (history : List String) (project : String) : Prop :=
  ∃ earlier, history = earlier ++ [project, project]

/-- The first of the candidates is no ordinary item of a project that was served twice in a
row, unless no other project has an item of its priority; and no candidate stands before one
of a higher priority. -/
structure Fair (history : List String) (ordered : List DispatchCandidateEvaluation) : Prop where
  deferred : ∀ first rest, ordered = first :: rest → ∀ project, Exhausted history project →
    first.candidate.projectId = project → first.candidate.priority ≠ "CRITICAL" →
    ∀ other ∈ ordered, other.candidate.projectId ≠ project →
      priorityRank other.candidate.priority ≠ priorityRank first.candidate.priority
  ranked : ordered.Pairwise (fun left right =>
    priorityRank left.candidate.priority ≤ priorityRank right.candidate.priority)

/-- Whatever is eligible, the dispatcher is fair. -/
def AlwaysFair (state : DispatchState) : Prop :=
  ∀ eligible, Fair state.history (orderedCandidates state.store.audits eligible)

/-- When the last two dispatches went to one project, the two hand-overs that are newest by
their timestamps and identifiers are of that project. -/
def Recalled (state : DispatchState) : Prop :=
  ∀ project, Exhausted state.history project →
    recentStartedProjects state.store.audits consecutiveProjectLimit = [project, project]

/-- The dispatch that a call makes is fair among the items that were eligible. -/
def DispatchesFairly (state : DispatchState) : DispatchOperation → Prop
  | .startNext workflowIds => ∀ selection candidate,
      (exec (startNext workflowIds) state.store).1 = .ok selection →
      selection.selected = some candidate →
      (∃ first rest, selection.eligibleCandidates = first :: rest ∧ first.candidate = candidate) ∧
        Fair state.history selection.eligibleCandidates
  | .elsewhere _ => True

/-- Every dispatch has left its hand-over, of a project with a name. -/
structure Traced (state : DispatchState) : Prop where
  recorded : (handOvers state.store.audits).map AuditEventRow.projectId = state.history.map some
  named : ∀ project ∈ state.history, project ≠ ""

section

variable {audits : List AuditEventRow} {eligible : List DispatchCandidateEvaluation}

/-- The project that the two newest hand-overs are of. -/
def exhaustedProject (audits : List AuditEventRow) : Option String :=
  match recentStartedProjects audits consecutiveProjectLimit with
  | [first, second] => if first = second then some first else none
  | _ => none

/-- That project is deferred where another one is eligible. -/
def deferredProject (audits : List AuditEventRow) (eligible : List DispatchCandidateEvaluation) :
    Option String :=
  if eligible.any (fun found => some found.candidate.projectId ≠ exhaustedProject audits) then
    exhaustedProject audits
  else none

theorem exhaustedProject_iff {project : String} : exhaustedProject audits = some project ↔
    recentStartedProjects audits consecutiveProjectLimit = [project, project] := by
  unfold exhaustedProject
  constructor
  · intro exhausted
    split at exhausted
    · rename_i first second recent
      split at exhausted
      · rename_i same
        cases exhausted
        rw [recent, same]
      · cases exhausted
    · cases exhausted
  · intro recent
    rw [recent]
    exact if_pos rfl

theorem deferredProject_exhausted {project : String} (exhausted : exhaustedProject audits = some project)
    {other : DispatchCandidateEvaluation} (member : other ∈ eligible)
    (different : other.candidate.projectId ≠ project) :
    deferredProject audits eligible = some project := by
  unfold deferredProject
  rw [exhausted, if_pos]
  apply List.any_eq_true.mpr
  exact ⟨other, member, by simpa using different⟩

/-- What an eligible evaluation becomes in the order: its key, and the notes on fairness. -/
theorem mem_ordered {found : DispatchCandidateEvaluation}
    (member : found ∈ orderedCandidates audits eligible) :
    ∃ origin ∈ eligible, found.candidate =
        { origin.candidate with schedulingMetadata := found.candidate.schedulingMetadata } ∧
      found.schedulingKey = candidateKey origin.candidate (deferredProject audits eligible) := by
  unfold orderedCandidates at member
  simp only [mem_sortedBy] at member
  obtain ⟨origin, inside, same⟩ := List.mem_map.mp member
  subst same
  exact ⟨origin, inside, rfl, rfl⟩

theorem ordered_key {found : DispatchCandidateEvaluation}
    (member : found ∈ orderedCandidates audits eligible) :
    found.schedulingKey = candidateKey found.candidate (deferredProject audits eligible) := by
  obtain ⟨origin, -, same, key⟩ := mem_ordered member
  rw [key, same]
  rfl

theorem ordered_of_mem {origin : DispatchCandidateEvaluation} (member : origin ∈ eligible) :
    ∃ found ∈ orderedCandidates audits eligible,
      found.candidate.projectId = origin.candidate.projectId ∧
      found.candidate.priority = origin.candidate.priority ∧
      found.schedulingKey = candidateKey origin.candidate (deferredProject audits eligible) := by
  unfold orderedCandidates
  simp only [mem_sortedBy]
  exact ⟨_, List.mem_map_of_mem member, rfl, rfl, rfl⟩

theorem ordered_pairwise (audits : List AuditEventRow) (eligible : List DispatchCandidateEvaluation) :
    (orderedCandidates audits eligible).Pairwise
      (fun left right => left.schedulingKey ≤ right.schedulingKey) := by
  unfold orderedCandidates
  exact sortedBy_pairwise _ _

theorem key_priority {left right : DispatchCandidate} {deferred : Option String}
    (below : candidateKey left deferred ≤ candidateKey right deferred) :
    priorityRank left.priority ≤ priorityRank right.priority := by
  unfold candidateKey at below
  rcases Prod.Lex.toLex_le_toLex.mp below with less | ⟨same, _⟩
  · exact less.le
  · exact same.le

/-- Among items of one priority, an item of the deferred project stands behind the others. -/
theorem key_deferred {left right : DispatchCandidate} {project : String} (named : project ≠ "")
    (below : candidateKey left (some project) ≤ candidateKey right (some project))
    (own : left.projectId = project) (ordinary : left.priority ≠ "CRITICAL")
    (other : right.projectId ≠ project) : priorityRank right.priority ≠ priorityRank left.priority := by
  intro same
  unfold candidateKey at below
  have leftRank : some project = some left.projectId ∧ left.projectId ≠ "" ∧
      left.priority ≠ "CRITICAL" := ⟨by rw [own], by rw [own]; exact named, ordinary⟩
  have rightRank : ¬ (some project = some right.projectId ∧ right.projectId ≠ "" ∧
      right.priority ≠ "CRITICAL") := fun holds => other (Option.some.inj holds.1).symm
  dsimp only at below
  rw [if_pos leftRank, if_neg rightRank] at below
  rcases Prod.Lex.toLex_le_toLex.mp below with less | ⟨_, later⟩
  · exact absurd same less.ne'
  · rcases Prod.Lex.toLex_le_toLex.mp later with less | ⟨equal, _⟩
    · exact Nat.not_lt_zero _ less
    · exact Nat.one_ne_zero equal

theorem ordered_ranked (audits : List AuditEventRow) (eligible : List DispatchCandidateEvaluation) :
    (orderedCandidates audits eligible).Pairwise (fun left right =>
      priorityRank left.candidate.priority ≤ priorityRank right.candidate.priority) := by
  apply List.Pairwise.imp_of_mem _ (ordered_pairwise audits eligible)
  intro left right inside other below
  rw [ordered_key inside, ordered_key other] at below
  exact key_priority below

theorem ordered_first {first : DispatchCandidateEvaluation} {rest : List DispatchCandidateEvaluation}
    (ordered : orderedCandidates audits eligible = first :: rest) {other : DispatchCandidateEvaluation}
    (member : other ∈ orderedCandidates audits eligible) :
    first.schedulingKey ≤ other.schedulingKey := by
  have sorted := ordered_pairwise audits eligible
  rw [ordered] at sorted member
  cases List.mem_cons.mp member with
  | inl same => rw [same]
  | inr later => exact (List.pairwise_cons.mp sorted).1 other later

theorem fair_of_recalled {history : List String} (named : ∀ project ∈ history, project ≠ "")
    (recalled : ∀ project, Exhausted history project →
      recentStartedProjects audits consecutiveProjectLimit = [project, project])
    (eligible : List DispatchCandidateEvaluation) : Fair history (orderedCandidates audits eligible) := by
  refine ⟨?_, ordered_ranked audits eligible⟩
  intro first rest ordered project exhausted own ordinary other member different
  have inside : first ∈ orderedCandidates audits eligible := by
    rw [ordered]
    exact List.mem_cons_self
  obtain ⟨origin, listed, same, -⟩ := mem_ordered member
  have sameProject : other.candidate.projectId = origin.candidate.projectId := by rw [same]
  have deferred : deferredProject audits eligible = some project :=
    deferredProject_exhausted (exhaustedProject_iff.mpr (recalled project exhausted)) listed
      (sameProject ▸ different)
  have below := ordered_first ordered member
  rw [ordered_key inside, ordered_key member, deferred] at below
  have known : project ≠ "" := by
    obtain ⟨earlier, split⟩ := exhausted
    apply named
    rw [split]
    exact List.mem_append_right _ List.mem_cons_self
  exact key_deferred known below own ordinary different

/-- An ordinary item of a project. -/
def plainEvaluation (project : String) (createdOrder : Int) : DispatchCandidateEvaluation where
  candidate := {
    projectId := project
    workflowId := "LWORK_000001"
    taskId := none
    repositoryId := none
    itemId := "item"
    logicalTaskId := "item"
    priority := "NORMAL"
    projectPriority := "NORMAL"
    state := .ready
    dependencyState := "COMPLETE"
    blockerState := "NONE"
    retryState := "READY"
    resumeState := "NEW"
    createdOrder := createdOrder
    readyTimestamp := none
    createdAt := none
    requiredCapabilities := []
    planId := none
    planFreezeId := none
    itemVersion := 0
    schedulingMetadata := []
    tieBreakFields := [] }
  eligible := true
  reasons := ["ELIGIBLE"]
  schedulingKey := toLex (2, toLex (0, toLex (2, toLex (1, toLex (createdOrder, toLex (project,
    toLex ("LWORK_000001", "item")))))))

theorem plain_key {project other : String} {deferred : Option String} (free : deferred ≠ some project) :
    candidateKey (plainEvaluation project 0).candidate deferred <
      candidateKey (plainEvaluation other 1).candidate deferred := by
  have first : ¬ (deferred = some project ∧ project ≠ "" ∧ "NORMAL" ≠ "CRITICAL") :=
    fun holds => free holds.1
  unfold candidateKey plainEvaluation
  dsimp only
  rw [if_neg first]
  apply Prod.Lex.toLex_lt_toLex.mpr
  refine .inr ⟨rfl, Prod.Lex.toLex_lt_toLex.mpr ?_⟩
  split
  · exact .inl Nat.one_pos
  · refine .inr ⟨rfl, Prod.Lex.toLex_lt_toLex.mpr (.inr ⟨rfl, Prod.Lex.toLex_lt_toLex.mpr ?_⟩)⟩
    exact .inr ⟨rfl, Prod.Lex.toLex_lt_toLex.mpr (.inl Int.one_pos)⟩

theorem rival_exists (audits : List AuditEventRow) {project : String}
    (unseen : exhaustedProject audits ≠ some project) :
    ∃ other, other ≠ project ∧ deferredProject audits
      [plainEvaluation project 0, plainEvaluation other 1] ≠ some project := by
  have apart : ∀ eligible, deferredProject audits eligible ≠ some project := by
    intro eligible deferred
    unfold deferredProject at deferred
    split at deferred
    · exact unseen deferred
    · cases deferred
  refine ⟨project ++ "x", ?_, apart _⟩
  intro same
  have lengths := congrArg String.length same
  rw [String.length_append] at lengths
  have one : ("x" : String).length = 1 := by decide
  omega

theorem plain_first {project other : String} {first : DispatchCandidateEvaluation}
    {rest : List DispatchCandidateEvaluation}
    (free : deferredProject audits [plainEvaluation project 0, plainEvaluation other 1] ≠ some project)
    (ordered : orderedCandidates audits [plainEvaluation project 0, plainEvaluation other 1] =
      first :: rest) :
    first.candidate.projectId = project ∧ first.candidate.priority = "NORMAL" := by
  have inside : first ∈ orderedCandidates audits
      [plainEvaluation project 0, plainEvaluation other 1] := by
    rw [ordered]
    exact List.mem_cons_self
  obtain ⟨own, ownListed, -, -, ownKey⟩ :=
    @ordered_of_mem audits [plainEvaluation project 0, plainEvaluation other 1]
      (plainEvaluation project 0) List.mem_cons_self
  have below := ordered_first ordered ownListed
  obtain ⟨origin, listed, same, key⟩ := mem_ordered inside
  rw [key, ownKey] at below
  have chosen : origin = plainEvaluation project 0 := by
    rcases List.mem_cons.mp listed with here | later
    · exact here
    · rw [List.mem_singleton.mp later] at below
      exact absurd below (plain_key free).not_ge
  rw [same, chosen]
  exact ⟨rfl, rfl⟩

theorem recalled_of_fair {history : List String} {project : String} (exhausted : Exhausted history project)
    (fair : ∀ eligible, Fair history (orderedCandidates audits eligible)) :
    recentStartedProjects audits consecutiveProjectLimit = [project, project] := by
  by_contra unseen
  have forgotten : exhaustedProject audits ≠ some project :=
    fun seen => unseen (exhaustedProject_iff.mp seen)
  obtain ⟨other, different, free⟩ := rival_exists audits forgotten
  have judged := fair [plainEvaluation project 0, plainEvaluation other 1]
  obtain ⟨rival, rivalListed, rivalProject, rivalPriority, -⟩ :=
    @ordered_of_mem audits [plainEvaluation project 0, plainEvaluation other 1]
      (plainEvaluation other 1) (List.mem_cons_of_mem _ List.mem_cons_self)
  cases ordered : orderedCandidates audits [plainEvaluation project 0, plainEvaluation other 1] with
  | nil =>
    rw [ordered] at rivalListed
    cases rivalListed
  | cons first rest =>
    obtain ⟨owned, ordinary⟩ := plain_first free ordered
    have apart : rival.candidate.projectId ≠ project := by
      rw [rivalProject]
      exact different
    apply judged.deferred first rest ordered project exhausted owned (by rw [ordinary]; decide) rival
      rivalListed apart
    rw [rivalPriority, ordinary]
    rfl

end

/-- No hand-over is recorded. -/
def SameHandOvers (before after : Store) : Prop := handOvers after.audits = handOvers before.audits

theorem sameHandOvers_refl (store : Store) : SameHandOvers store store := rfl

theorem sameHandOvers_trans (first second third : Store) (one : SameHandOvers first second)
    (two : SameHandOvers second third) : SameHandOvers first third := two.trans one

theorem handOvers_record (store : Store) (draft : AuditDraft) :
    handOvers (store.record draft).audits =
      handOvers store.audits ++ handOvers [store.auditRow draft] := List.filter_append _ _

theorem dispatchAudit_quiet {eventType action result : String} {selected : Option DispatchCandidate}
    (other : eventType ≠ "MULTI_PROJECT_DISPATCH_CANDIDATE_HANDED_TO_RUNTIME") :
    Respects SameHandOvers (dispatchAudit eventType action result selected) := by
  intro store
  unfold SameHandOvers dispatchAudit
  rw [Op.exec_record, handOvers_record]
  have quiet : handOvers [store.auditRow {
      eventType := eventType
      projectId := selected.map (·.projectId)
      repositoryId := selected.bind (·.repositoryId)
      taskId := selected.bind (·.taskId)
      action := action
      result := result }] = [] := by
    unfold handOvers
    rw [List.filter_cons_of_neg]
    · rfl
    · unfold isHandOver
      exact fun handed => other (of_decide_eq_true handed)
  rw [quiet, List.append_nil]

theorem auditSelection_quiet (selection : DispatchSelection) (result : String) :
    Respects SameHandOvers (auditSelection selection result) := by
  unfold auditSelection
  cases selection.selected with
  | none => exact dispatchAudit_quiet (by decide)
  | some candidate =>
    apply respects_bind sameHandOvers_trans (dispatchAudit_quiet (by decide))
    intro _
    apply respects_bind sameHandOvers_trans (dispatchAudit_quiet (by decide))
    intro _
    exact dispatchAudit_quiet (by decide)

/-- The selection of a cycle is made from an order of its candidates, which no hand-over of the
cycle itself has changed. -/
structure Chosen (store : Store) (selection : DispatchSelection) (candidate : DispatchCandidate) :
    Prop where
  leads : ∃ first rest, selection.eligibleCandidates = first :: rest ∧ first.candidate = candidate
  ordered : ∃ audits eligible, handOvers audits = handOvers store.audits ∧
    selection.eligibleCandidates = orderedCandidates audits eligible

theorem chooseSelection_chosen {cycleId : String} {audits : List AuditEventRow} {store : Store}
    {found : List DispatchCandidateEvaluation} {candidate : DispatchCandidate}
    (same : handOvers audits = handOvers store.audits)
    (selected : (chooseSelection cycleId audits found).selected = some candidate) :
    Chosen store (chooseSelection cycleId audits found) candidate := by
  unfold chooseSelection at selected ⊢
  dsimp only at selected ⊢
  split at selected
  · cases selected
  · rename_i first others ordered
    cases selected
    exact ⟨⟨first, others, rfl, rfl⟩, audits, found.filter (·.eligible), same, ordered.symm⟩

theorem selectNext_quiet (workflowIds : List String) :
    Respects SameHandOvers (selectNext workflowIds) := by
  have read : Respects SameHandOvers (get : Op Store) := respects_get sameHandOvers_refl
  have issued : Respects SameHandOvers (Op.nextId .audit) := fun _ => rfl
  unfold selectNext
  apply respects_bind sameHandOvers_trans issued
  intro cycleId
  apply respects_bind sameHandOvers_trans read
  intro store
  apply respects_bind sameHandOvers_trans (respects_ofExcept sameHandOvers_refl _)
  intro bundles
  apply respects_bind sameHandOvers_trans (dispatchAudit_quiet (by decide))
  intro _
  apply respects_bind sameHandOvers_trans (dispatchAudit_quiet (by decide))
  intro _
  apply respects_bind sameHandOvers_trans (respects_ofExcept sameHandOvers_refl _)
  intro found
  split
  · apply respects_bind sameHandOvers_trans (auditSelection_quiet _ _)
    intro _
    exact respects_pure sameHandOvers_refl _
  · apply respects_bind sameHandOvers_trans (dispatchAudit_quiet (by decide))
    intro _
    apply respects_bind sameHandOvers_trans read
    intro audited
    apply respects_bind sameHandOvers_trans (auditSelection_quiet _ _)
    intro _
    exact respects_pure sameHandOvers_refl _

theorem selectNext_chosen {workflowIds : List String} {selection : DispatchSelection}
    {store after : Store} {candidate : DispatchCandidate}
    (done : exec (selectNext workflowIds) store = (.ok selection, after))
    (selected : selection.selected = some candidate) : Chosen store selection candidate := by
  unfold selectNext at done
  rw [exec_bind_of_ok (Op.exec_nextId _ _), exec_get_bind] at done
  obtain ⟨bundles, _, done⟩ := bind_ofExcept_ok done
  obtain ⟨_, first, started, done⟩ := bind_ok done
  obtain ⟨_, second, inspected, done⟩ := bind_ok done
  have early : SameHandOvers store second := by
    have one := respects_exec (dispatchAudit_quiet (by decide)) started
    have two := respects_exec (dispatchAudit_quiet (by decide)) inspected
    exact sameHandOvers_trans _ _ _ one two
  obtain ⟨found, _, done⟩ := bind_ofExcept_ok done
  split at done
  · obtain ⟨_, last, _, done⟩ := bind_ok done
    obtain ⟨rfl, _⟩ := ok_pure done
    cases selected
  · obtain ⟨_, third, evaluated, done⟩ := bind_ok done
    rw [exec_get_bind] at done
    obtain ⟨_, last, _, done⟩ := bind_ok done
    obtain ⟨rfl, _⟩ := ok_pure done
    have late := respects_exec (dispatchAudit_quiet (by decide)) evaluated
    exact chooseSelection_chosen (sameHandOvers_trans _ _ _ early late) selected

theorem dispatchItem_quiet (workflow : PersistentWorkflowRow) (candidate : DispatchCandidate)
    (item : Item) : Respects SameHandOvers (dispatchItem workflow candidate item) := by
  have clock : Respects SameHandOvers Op.utcNow := fun _ => rfl
  unfold dispatchItem
  apply respects_bind sameHandOvers_trans (respects_ofExcept sameHandOvers_refl _)
  intro version
  apply respects_bind sameHandOvers_trans clock
  intro startedAt
  apply respects_bind sameHandOvers_trans (respects_ofExcept sameHandOvers_refl _)
  intro generation
  exact respects_bind sameHandOvers_trans clock (fun _ _ => rfl)

/-- How a call ends: it hands over the candidate it has selected, or nothing. -/
structure HandsOver (workflowIds : List String) (store : Store) (outcome : Except PyExc DispatchSelection)
    (after : Store) : Prop where
  recorded : (handOvers after.audits).map AuditEventRow.projectId =
    (handOvers store.audits).map AuditEventRow.projectId ++ (dispatchedProject outcome).map some
  selected : ∀ selection candidate, outcome = .ok selection → selection.selected = some candidate →
    Chosen store selection candidate

theorem handsOver_nothing {workflowIds : List String} {store after : Store}
    {outcome : Except PyExc DispatchSelection} (same : SameHandOvers store after)
    (nothing : ∀ selection, outcome = .ok selection → selection.selected = none) :
    HandsOver workflowIds store outcome after := by
  constructor
  · have idle : dispatchedProject outcome = [] := by
      cases outcome with
      | error _ => rfl
      | ok selection =>
        unfold dispatchedProject
        dsimp only
        rw [nothing selection rfl]
        rfl
    rw [same, idle, List.map_nil, List.append_nil]
  · intro selection candidate ended chosen
    rw [nothing selection ended] at chosen
    cases chosen

theorem startNext_handsOver (workflowIds : List String) (store : Store) :
    HandsOver workflowIds store (exec (startNext workflowIds) store).1
      (exec (startNext workflowIds) store).2 := by
  unfold startNext
  have cycleQuiet := selectNext_quiet workflowIds store
  rw [exec_bind]
  rcases cycle : exec (selectNext workflowIds) store with ⟨error | chosen, middle⟩
  · rw [cycle] at cycleQuiet
    exact handsOver_nothing cycleQuiet (fun _ ended => by cases ended)
  · rw [cycle] at cycleQuiet
    have quiet : SameHandOvers store middle := cycleQuiet
    dsimp only
    cases wanted : chosen.selected with
    | none =>
      dsimp only
      rw [exec_pure]
      apply handsOver_nothing quiet
      rintro selection ⟨rfl⟩
      exact wanted
    | some candidate =>
      dsimp only
      rw [exec_get_bind]
      split
      · exact handsOver_nothing quiet (fun _ ended => by cases ended)
      split
      · exact handsOver_nothing quiet (fun _ ended => by cases ended)
      split
      · exact handsOver_nothing quiet (fun _ ended => by cases ended)
      rename_i workflow _ _ _ item _
      rw [exec_bind]
      have written := dispatchItem_quiet workflow candidate item middle
      rcases dispatched : exec (dispatchItem workflow candidate item) middle with ⟨error | previous, last⟩
      · rw [dispatched] at written
        exact handsOver_nothing (sameHandOvers_trans _ _ _ quiet written) (fun _ ended => by cases ended)
      · rw [dispatched] at written
        have kept : SameHandOvers store last := sameHandOvers_trans _ _ _ quiet written
        dsimp only
        unfold dispatchAudit
        rw [exec_bind_of_ok (Op.exec_record _ _), exec_pure]
        constructor
        · rw [handOvers_record, List.map_append, kept]
          rfl
        · rintro selection other ⟨rfl⟩ same
          cases same
          obtain ⟨leads, ordered⟩ := selectNext_chosen cycle wanted
          exact ⟨leads, ordered⟩

theorem evaluation_project {tables : Tables} {row : PersistentWorkflowRow} {item : Item}
    {found : DispatchCandidateEvaluation}
    (done : evaluation tables (bundleOf tables row) item = .ok found) :
    found.candidate.projectId = row.projectId.getD "" := by
  obtain ⟨candidate, parsed, done⟩ := except_bind_ok done
  obtain ⟨reasons, _, done⟩ := except_bind_ok done
  obtain ⟨order, _, parsed⟩ := except_bind_ok parsed
  obtain ⟨capabilities, _, parsed⟩ := except_bind_ok parsed
  obtain ⟨version, _, parsed⟩ := except_bind_ok parsed
  obtain ⟨ready, _, parsed⟩ := except_bind_ok parsed
  obtain ⟨created, _, parsed⟩ := except_bind_ok parsed
  cases parsed
  cases done
  rfl

theorem selected_named {tables : Tables} {row : PersistentWorkflowRow} {item : Item}
    {candidate : DispatchCandidate} (chosen : SelectedItem tables row item candidate) :
    candidate.projectId ≠ "" := by
  obtain ⟨found, evaluated, same⟩ := chosen.same
  obtain ⟨names, _, done⟩ := except_bind_ok chosen.judged
  have none := distinctReasons_eq_nil (Except.ok.inj done)
  simp only [List.append_eq_nil_iff] at none
  obtain ⟨⟨⟨⟨⟨⟨⟨⟨⟨⟨project, _⟩, _⟩, _⟩, _⟩, _⟩, _⟩, _⟩, _⟩, _⟩, _⟩ := none
  rw [same, evaluation_project evaluated]
  intro empty
  have missing : (bundleOf tables row).project = Option.none := by
    unfold bundleOf lookupKey
    cases known : row.projectId with
    | none => rfl
    | some text =>
      rw [known, Option.getD_some] at empty
      rw [empty]
      rfl
  rw [missing] at project
  cases project

theorem dispatchStep_traced (state : DispatchState) (operation : DispatchOperation)
    (traced : Traced state) : Traced (dispatchStep state operation) := by
  cases operation with
  | startNext workflowIds =>
    have handed := startNext_handsOver workflowIds state.store
    constructor
    · have before := traced.recorded
      calc (handOvers (dispatchStep state (.startNext workflowIds)).store.audits).map
            AuditEventRow.projectId
        _ = (handOvers state.store.audits).map AuditEventRow.projectId ++ _ := handed.recorded
        _ = _ := by rw [before, ← List.map_append]; rfl
    · intro project member
      rcases List.mem_append.mp member with earlier | now
      · exact traced.named project earlier
      · cases ended : exec (startNext workflowIds) state.store with
        | mk outcome after =>
          rw [ended] at now
          cases outcome with
          | error _ => cases now
          | ok selection =>
            unfold dispatchedProject at now
            dsimp only at now
            cases selected : selection.selected with
            | none =>
              rw [selected] at now
              cases now
            | some candidate =>
              rw [selected] at now
              obtain ⟨row, item, chosen⟩ := startNext_selected ended selected
              rw [List.mem_singleton.mp now]
              exact selected_named chosen
  | elsewhere work =>
    constructor
    · have quiet : handOvers (dispatchStep state (.elsewhere work)).store.audits =
          handOvers state.store.audits := work.quiet state.store
      rw [quiet]
      exact traced.recorded
    · exact traced.named

theorem dispatchesFairly_of_recalled {state : DispatchState} (traced : Traced state)
    (recalled : Recalled state) (operation : DispatchOperation) : DispatchesFairly state operation := by
  cases operation with
  | elsewhere work => trivial
  | startNext workflowIds =>
    intro selection candidate ended selected
    have handed := startNext_handsOver workflowIds state.store
    obtain ⟨leads, audits, eligible, same, ordered⟩ := handed.selected selection candidate ended selected
    refine ⟨leads, ?_⟩
    rw [ordered]
    apply fair_of_recalled traced.named
    intro project exhausted
    have seen := recalled project exhausted
    have reading : ∀ events limit, recentStartedProjects events limit =
        recentStartedProjects (handOvers events) limit := by
      intro events limit
      unfold recentStartedProjects handOvers isHandOver
      dsimp only
      rw [List.filter_filter]
      simp only [Bool.and_self]
    rw [reading, same, ← reading]
    exact seen

/-- In every state of a run the dispatcher is fair, whatever is eligible in it, exactly when
the hand-overs show it the last two dispatches; and where they do, each call of the run
dispatches fairly. -/
theorem dispatch_fair_iff (start : DispatchState) (operations : List DispatchOperation)
    (traced : Traced start) :
    (Meets dispatchStep (fun state _ => AlwaysFair state) start operations ↔
      Meets dispatchStep (fun state _ => Recalled state) start operations) ∧
    (Meets dispatchStep (fun state _ => Recalled state) start operations →
      Meets dispatchStep DispatchesFairly start operations) := by
  constructor
  · apply Run.meets_iff_guarded dispatchStep Traced
    · intro state operation traced
      constructor
      · intro fair project exhausted
        exact recalled_of_fair exhausted fair
      · intro recalled eligible
        exact fair_of_recalled traced.named recalled eligible
    · exact fun state operation traced _ => dispatchStep_traced state operation traced
    · exact traced
  · apply Run.meets_guarded dispatchStep _ _ Traced
    · exact fun state operation traced _ => dispatchStep_traced state operation traced
    · exact fun state operation traced recalled => dispatchesFairly_of_recalled traced recalled operation
    · exact traced

def workflowOf (number : String) : PersistentWorkflowRow where
  id := "LWORK_" ++ number
  projectId := some ("LPROJ_" ++ number)
  repositoryId := some ("LREPO_" ++ number)
  taskId := some ("LTASK_" ++ number)
  planId := some ("LPLAN_" ++ number)
  planFreezeId := some ("LFREEZE_" ++ number)
  workflowState := .planReady
  taskBacklog := [[("item_id", .str "first"), ("state", .str "READY")]]

/-- Two projects, with an ordinary item ready in each of the workflows. -/
def twoProjects (workflows : Table PersistentWorkflowRow) : Tables where
  projects := ⟨[{ id := "LPROJ_000001" }, { id := "LPROJ_000002" }], by decide⟩
  repositories := ⟨[{ id := "LREPO_000001", projectId := "LPROJ_000001" },
    { id := "LREPO_000002", projectId := "LPROJ_000002" }], by decide⟩
  attachments := [⟨"LPROJ_000001", "LREPO_000001"⟩, ⟨"LPROJ_000002", "LREPO_000002"⟩]
  tasks := ⟨[{ id := "LTASK_000001", projectId := "LPROJ_000001", status := .ready },
    { id := "LTASK_000002", projectId := "LPROJ_000002", status := .ready }], by decide⟩
  plans := ⟨[{ id := "LPLAN_000001", taskId := "LTASK_000001", projectId := "LPROJ_000001" },
    { id := "LPLAN_000002", taskId := "LTASK_000002", projectId := "LPROJ_000002" }], by decide⟩
  freezes := ⟨[{
      id := "LFREEZE_000001"
      planId := "LPLAN_000001"
      taskId := "LTASK_000001"
      projectId := "LPROJ_000001" }, {
      id := "LFREEZE_000002"
      planId := "LPLAN_000002"
      taskId := "LTASK_000002"
      projectId := "LPROJ_000002" }], by decide⟩
  workflows := workflows

/-- The rows are brought to a state, by whatever services. -/
def broughtTo (tables : Tables) : Elsewhere where
  change store := { store with toTables := tables }
  quiet _ := rfl

def secondReady : DispatchOperation :=
  .elsewhere (broughtTo (twoProjects ⟨[workflowOf "000002"], List.nodup_singleton _⟩))

def bothReady : DispatchOperation :=
  .elsewhere (broughtTo (twoProjects ⟨[workflowOf "000001", workflowOf "000002"], by decide⟩))

def servedTwice : List DispatchOperation :=
  [secondReady, .startNext [], bothReady, .startNext [], bothReady, .startNext [], bothReady]

/-- A state before any dispatch, under a clock. -/
def underClock (clock : Nat → Timestamp) : DispatchState where
  store := { clock := clock }

theorem underClock_traced (clock : Nat → Timestamp) : Traced (underClock clock) :=
  ⟨rfl, fun _ member => (List.not_mem_nil member).elim⟩

theorem recalled_of_recent {state : DispatchState}
    (same : recentStartedProjects state.store.audits consecutiveProjectLimit =
      state.history.reverse.take 2) : Recalled state := by
  rintro project ⟨earlier, split⟩
  rw [same, split, List.reverse_append]
  rfl

theorem advancing_clock_fair :
    Meets dispatchStep DispatchesFairly (underClock id) (servedTwice ++ [.startNext []]) := by
  apply (dispatch_fair_iff (underClock id) _ (underClock_traced id)).2
  refine ⟨?_, ?_, ?_, ?_, ?_, ?_, ?_, ?_, trivial⟩ <;>
    exact recalled_of_recent (by decide +kernel)

/-- The clock is set back once the other project was served. -/
def setBack (tick : Nat) : Timestamp := if tick < 12 then 1000 else tick

theorem clock_set_back_unfair :
    ¬ DispatchesFairly (run dispatchStep (underClock setBack) servedTwice) (.startNext []) := by
  intro fair
  have history : (run dispatchStep (underClock setBack) servedTwice).history =
      ["LPROJ_000002", "LPROJ_000001", "LPROJ_000001"] := by
    decide +kernel
  have selected : ((exec (startNext []) (run dispatchStep (underClock setBack) servedTwice).store).1.toOption.map
      (fun selection => (selection.selected.isSome,
        selection.eligibleCandidates.map (fun found => (found.candidate.projectId, found.candidate.priority))))) =
      some (true, [("LPROJ_000001", "NORMAL"), ("LPROJ_000002", "NORMAL")]) := by
    decide +kernel
  cases ended : (exec (startNext []) (run dispatchStep (underClock setBack) servedTwice).store).1 with
  | error error =>
    rw [ended] at selected
    cases selected
  | ok selection =>
    rw [ended] at selected
    obtain ⟨made, eligible⟩ := Prod.mk.inj (Option.some.inj selected)
    obtain ⟨candidate, chosen⟩ := Option.isSome_iff_exists.mp made
    obtain ⟨_, judged⟩ := fair selection candidate ended chosen
    rw [history] at judged
    cases listed : selection.eligibleCandidates with
    | nil =>
      rw [listed] at eligible
      cases eligible
    | cons first rest =>
      rw [listed] at eligible
      obtain ⟨own, others⟩ := List.cons.inj eligible
      obtain ⟨ownProject, ownPriority⟩ := Prod.mk.inj own
      obtain ⟨rival, inside, same⟩ := List.mem_map.mp (others ▸ List.mem_singleton_self _)
      obtain ⟨rivalProject, rivalPriority⟩ := Prod.mk.inj same
      apply judged.deferred first rest listed "LPROJ_000001" ⟨["LPROJ_000002"], rfl⟩ ownProject
        (by rw [ownPriority]; decide) rival (listed ▸ List.mem_cons_of_mem _ inside)
        (by rw [rivalProject]; decide)
      rw [rivalPriority, ownPriority]

end Lucius.Runtime
