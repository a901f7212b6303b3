import Lucius.NightShift.Supervisor

/-! The budgets of a night shift: what its calls may add up to, and in which order they come. -/

namespace Lucius.NightShift

open Integration ControlledCommit Lucius.Action

variable {ρ : Type}

/-- The last task of a run completed. -/
def RuntimeReport.Completed (report : RuntimeReport) : Prop :=
  report.taskRecords.getLast?.map (fun record => record.outcome) = some .completed

instance (report : RuntimeReport) : Decidable report.Completed :=
  inferInstanceAs (Decidable (_ = _))

namespace Call

def selected : Call → Nat
  | .ran _ report => report.selectedTasks
  | _ => 0

def isCompletedRun : Call → Bool
  | .ran _ report => decide report.Completed
  | _ => false

def isIntegration : Call → Bool
  | .integrated _ _ _ => true
  | _ => false

def isSuccessfulIntegration : Call → Bool
  | .integrated _ _ status => decide (status = .completed)
  | _ => false

def isCommitAttempt : Call → Bool
  | .committing _ _ => true
  | _ => false

def isCommit : Call → Bool
  | .committed _ _ _ => true
  | _ => false

def isSuccessfulCommit : Call → Bool
  | .committed _ _ status => decide (status = .completed)
  | _ => false

end Call

def tasksSelected (calls : List Call) : Nat := (calls.map Call.selected).sum
def completedRuns (calls : List Call) : Nat := calls.countP Call.isCompletedRun
def successfulIntegrations (calls : List Call) : Nat := calls.countP Call.isSuccessfulIntegration
def commitAttempts (calls : List Call) : Nat := calls.countP Call.isCommitAttempt
def successfulCommits (calls : List Call) : Nat := calls.countP Call.isSuccessfulCommit

/-- A commit is asked for right after the integration of its workflow, which comes right after
the run of the cycle. -/
def CommitsFollowIntegrations (calls : List Call) : Prop :=
  ∀ before cycle workflowId after, calls = before ++ .committing cycle workflowId :: after →
    ∃ earlier report, before = earlier ++ [.ran cycle report, .integrated cycle workflowId .completed]

structure WithinBudget (config : NightShiftConfig) (calls : List Call) : Prop where
  tasks : (tasksSelected calls : Int) ≤ config.maxTasks
  commits : (successfulCommits calls : Int) ≤ config.maxCommits
  attempts : commitAttempts calls ≤ successfulIntegrations calls
  integrations : successfulIntegrations calls ≤ completedRuns calls
  ordered : CommitsFollowIntegrations calls

/-- The counters of a result say what the calls add up to. -/
structure Tallied (result : NightShiftResult) (calls : List Call) : Prop where
  tasks : result.tasksSelected = tasksSelected calls
  integrations : result.l1IntegrationsAttempted = calls.countP Call.isIntegration
  integrated : result.l1IntegrationsSucceeded = successfulIntegrations calls
  commits : result.l2CommitsAttempted = calls.countP Call.isCommit
  committed : result.l2CommitsSucceeded = successfulCommits calls

/-- A report the runtime can return to the supervisor. -/
def Reported (services : Services ρ) (config : NightShiftConfig) (report : RuntimeReport) : Prop :=
  ∃ outside after, exec (services.runtime (runtimeConfig config)) outside = (.ok report, after)

def SelectsAtMostOne (services : Services ρ) (config : NightShiftConfig) : Prop :=
  ∀ report, Reported services config report → report.selectedTasks ≤ 1

def SelectsOrIdles (services : Services ρ) (config : NightShiftConfig) : Prop :=
  ∀ report, Reported services config report → 1 ≤ report.selectedTasks ∨ report.status = .idle

/-- No service is called, and the counters of the calls stand. -/
structure Quiet (before after : ShiftState ρ) : Prop where
  calls : after.calls = before.calls
  looks : after.looks = before.looks
  tallied : ∀ {calls}, Tallied before.result calls → Tallied after.result calls

theorem quiet_refl (state : ShiftState ρ) : Quiet state state := ⟨rfl, rfl, id⟩

theorem quiet_trans (first second third : ShiftState ρ) (one : Quiet first second)
    (two : Quiet second third) : Quiet first third :=
  ⟨two.calls.trans one.calls, two.looks.trans one.looks, fun tallied => two.tallied (one.tallied tallied)⟩

theorem get_quiet : Respects Quiet (get : Shift ρ (ShiftState ρ)) := respects_get quiet_refl

theorem pure_quiet {α : Type} (value : α) : Respects Quiet (pure value : Shift ρ α) :=
  respects_pure quiet_refl value

theorem onOutside_quiet {α : Type} (action : Action (Outside ρ) PyExc α) :
    Respects Quiet (onOutside action) := fun _ => ⟨rfl, rfl, id⟩

theorem onStore_quiet {α : Type} (operation : Op α) :
    Respects Quiet (onStore operation : Shift ρ α) := onOutside_quiet _

theorem audit_quiet (eventType result : String) :
    Respects Quiet (audit eventType result : Shift ρ Unit) := onStore_quiet _

theorem readClock_quiet (services : Services ρ) : Respects Quiet (readClock services) :=
  fun _ => ⟨rfl, rfl, id⟩

theorem report_quiet {change : NightShiftResult → NightShiftResult}
    (kept : ∀ result calls, Tallied result calls → Tallied (change result) calls) :
    Respects Quiet (report change : Shift ρ Unit) := fun state => ⟨rfl, rfl, kept state.result _⟩

theorem reportCycle_quiet (change : NightShiftCycleRecord → NightShiftCycleRecord) :
    Respects Quiet (reportCycle change : Shift ρ Unit) :=
  report_quiet (fun _ _ ⟨tasks, integrations, integrated, commits, committed⟩ =>
    ⟨tasks, integrations, integrated, commits, committed⟩)

theorem ended_quiet (services : Services ρ) {change : NightShiftResult → NightShiftResult}
    (kept : ∀ result calls, Tallied result calls → Tallied (change result) calls) :
    Respects Quiet (ended services change) := by
  apply respects_bind quiet_trans (report_quiet kept)
  intro _
  apply respects_bind quiet_trans (readClock_quiet services)
  intro _
  apply respects_bind quiet_trans get_quiet
  intro state
  exact pure_quiet _

theorem finishClean_quiet (services : Services ρ) (reason : String) :
    Respects Quiet (finishClean services reason) := by
  refine respects_bind quiet_trans (ended_quiet services ?_) ?_
  · exact fun _ _ ⟨tasks, integrations, integrated, commits, committed⟩ =>
      ⟨tasks, integrations, integrated, commits, committed⟩
  intro result
  apply respects_bind quiet_trans (audit_quiet _ _)
  intro _
  exact pure_quiet result

theorem hardStop_quiet (services : Services ρ) (reason : String) :
    Respects Quiet (hardStop services reason) := by
  apply respects_bind quiet_trans (reportCycle_quiet _)
  intro _
  refine respects_bind quiet_trans (ended_quiet services ?_) ?_
  · exact fun _ _ ⟨tasks, integrations, integrated, commits, committed⟩ =>
      ⟨tasks, integrations, integrated, commits, committed⟩
  intro result
  apply respects_bind quiet_trans (audit_quiet _ _)
  intro _
  apply respects_bind quiet_trans (audit_quiet _ _)
  intro _
  exact pure_quiet result

theorem settleFailure_quiet (services : Services ρ) (workflowId : String)
    (snapshots : List ContainmentSnapshot) :
    Respects Quiet (settleFailure services workflowId snapshots) := by
  apply respects_bind quiet_trans get_quiet
  intro state
  apply respects_bind quiet_trans (onStore_quiet _)
  intro containment
  apply respects_bind quiet_trans (reportCycle_quiet _)
  intro _
  split
  · exact hardStop_quiet services _
  · refine respects_bind quiet_trans (report_quiet ?_) ?_
    · exact fun _ _ ⟨tasks, integrations, integrated, commits, committed⟩ =>
        ⟨tasks, integrations, integrated, commits, committed⟩
    intro _
    apply respects_bind quiet_trans (audit_quiet _ _)
    intro _
    exact pure_quiet none

/-- Some calls of a shape are made, and the counters of a result follow them. -/
def Adds (shape : List Call → Prop) (before after : ShiftState ρ) : Prop :=
  ∃ added, shape added ∧ after.calls = before.calls ++ added ∧ after.looks = before.looks ∧
    (Tallied before.result before.calls → Tallied after.result after.calls)

theorem Quiet.adds {before after : ShiftState ρ} (quiet : Quiet before after)
    {shape : List Call → Prop} (empty : shape []) : Adds shape before after := by
  refine ⟨[], empty, by rw [quiet.calls, List.append_nil], quiet.looks, ?_⟩
  rw [quiet.calls]
  exact quiet.tallied

theorem Adds.mono {shape wider : List Call → Prop} {before after : ShiftState ρ}
    (adds : Adds shape before after) (implies : ∀ added, shape added → wider added) :
    Adds wider before after := by
  obtain ⟨added, shaped, rest⟩ := adds
  exact ⟨added, implies added shaped, rest⟩

theorem Adds.then {early late shape : List Call → Prop} {first second third : ShiftState ρ}
    (one : Adds early first second) (two : Adds late second third)
    (joined : ∀ before after, early before → late after → shape (before ++ after)) :
    Adds shape first third := by
  obtain ⟨before, earlier, made, looked, kept⟩ := one
  obtain ⟨after, later, finished, seen, held⟩ := two
  exact ⟨before ++ after, joined before after earlier later,
    by rw [finished, made, List.append_assoc], seen.trans looked, fun tallied => held (kept tallied)⟩

@[simp] theorem tasksSelected_append (before after : List Call) :
    tasksSelected (before ++ after) = tasksSelected before + tasksSelected after := by
  simp [tasksSelected]

@[simp] theorem completedRuns_append (before after : List Call) :
    completedRuns (before ++ after) = completedRuns before + completedRuns after := by
  simp [completedRuns]

@[simp] theorem successfulIntegrations_append (before after : List Call) :
    successfulIntegrations (before ++ after) =
      successfulIntegrations before + successfulIntegrations after := by
  simp [successfulIntegrations]

@[simp] theorem commitAttempts_append (before after : List Call) :
    commitAttempts (before ++ after) = commitAttempts before + commitAttempts after := by
  simp [commitAttempts]

@[simp] theorem successfulCommits_append (before after : List Call) :
    successfulCommits (before ++ after) = successfulCommits before + successfulCommits after := by
  simp [successfulCommits]

inductive CommitCalls (cycle : Nat) (workflowId : String) : List Call → Prop where
  | asked : CommitCalls cycle workflowId [.committing cycle workflowId]
  | answered (status : CommitStatus) :
      CommitCalls cycle workflowId [.committing cycle workflowId, .committed cycle workflowId status]

inductive PromotionCalls (cycle : Nat) (workflowId : String) : List Call → Prop where
  | refused : PromotionCalls cycle workflowId []
  | integrated (status : IntegrationStatus) :
      PromotionCalls cycle workflowId [.integrated cycle workflowId status]
  | committing {calls : List Call} (commit : CommitCalls cycle workflowId calls) :
      PromotionCalls cycle workflowId (.integrated cycle workflowId .completed :: calls)

/-- The calls of a cycle. Only a workflow whose task completed is promoted. -/
inductive CycleCalls (services : Services ρ) (config : NightShiftConfig) (cycle : Nat) :
    List Call → Prop where
  | none : CycleCalls services config cycle []
  | ran (report : RuntimeReport) (reported : Reported services config report) :
      CycleCalls services config cycle [.ran cycle report]
  | promoted {report : RuntimeReport} {workflowId : String} {calls : List Call}
      (reported : Reported services config report) (completed : report.Completed)
      (promotion : PromotionCalls cycle workflowId calls) :
      CycleCalls services config cycle (.ran cycle report :: calls)

theorem count_add (counts : Call → Bool) (calls : List Call) (call : Call) :
    (calls ++ [call]).countP counts = calls.countP counts + (counts call).toNat := by
  cases counted : counts call <;> simp [counted]

theorem Tallied.add {result changed : NightShiftResult} {calls : List Call} {call : Call}
    (tallied : Tallied result calls)
    (tasks : changed.tasksSelected = result.tasksSelected + call.selected)
    (integrations : changed.l1IntegrationsAttempted =
      result.l1IntegrationsAttempted + call.isIntegration.toNat)
    (integrated : changed.l1IntegrationsSucceeded =
      result.l1IntegrationsSucceeded + call.isSuccessfulIntegration.toNat)
    (commits : changed.l2CommitsAttempted = result.l2CommitsAttempted + call.isCommit.toNat)
    (committed : changed.l2CommitsSucceeded =
      result.l2CommitsSucceeded + call.isSuccessfulCommit.toNat) :
    Tallied changed (calls ++ [call]) where
  tasks := by simp [tasks, tallied.tasks, tasksSelected]
  integrations := by rw [integrations, tallied.integrations, count_add]
  integrated := by rw [integrated, tallied.integrated]; exact (count_add _ _ _).symm
  commits := by rw [commits, tallied.commits, count_add]
  committed := by rw [committed, tallied.committed]; exact (count_add _ _ _).symm

theorem quiet_then {shape : List Call → Prop} (empty : shape []) {α β : Type} {first : Shift ρ α}
    {next : α → Shift ρ β} (before : Respects Quiet first)
    (later : ∀ value, Respects (Adds shape) (next value)) : Respects (Adds shape) (first >>= next) := by
  refine respects_then (fun _ _ quiet => quiet.adds empty) ?_ before later
  intro start middle stop quiet adds
  have still : Adds (· = []) start middle := quiet.adds rfl
  refine still.then adds ?_
  rintro earlier added rfl made
  exact made

theorem committing_adds (cycle : Nat) (workflowId : String) :
    Respects (Adds (· = [.committing cycle workflowId]))
      (called (.committing cycle workflowId) : Shift ρ Unit) :=
  fun _ => ⟨_, rfl, rfl, rfl, fun tallied => tallied.add rfl rfl rfl rfl rfl⟩

theorem stopped_adds {services : Services ρ} {call : Call} {before middle : ShiftState ρ}
    {change : NightShiftResult → NightShiftResult} {reason : String}
    (made : middle.calls = before.calls ++ [call]) (looked : middle.looks = before.looks)
    (counted : Tallied before.result before.calls → Tallied (change middle.result) middle.calls) :
    Adds (· = [call]) before
      (exec (report change >>= fun _ => hardStop services reason) middle).2 := by
  rw [exec_bind_of_ok (exec_report _ _)]
  have stopped := hardStop_quiet services reason { middle with result := change middle.result }
  refine ⟨[call], rfl, stopped.calls.trans made, stopped.looks.trans looked, fun tallied => ?_⟩
  rw [stopped.calls]
  exact stopped.tallied (counted tallied)

theorem committed_adds (services : Services ρ) (config : NightShiftConfig) (cycle : Nat)
    (workflowId : String) (context : PromotionContext) (integration : CanonicalIntegrationResult) :
    Respects (Adds (CommitCalls cycle workflowId))
      (commitWorkflow services config cycle workflowId context integration) := by
  let answer : List Call → Prop := fun added =>
    added = [] ∨ ∃ status, added = [.committed cycle workflowId status]
  refine @respects_then _ _ _ _ _ (Adds (· = [.committing cycle workflowId])) (Adds answer)
    (fun _ _ adds => adds.mono ?_) (fun _ _ _ one two => one.then two ?_) _ _
    (committing_adds cycle workflowId) ?_
  · rintro added rfl
    exact .asked
  · rintro before after rfl (rfl | ⟨status, rfl⟩)
    · exact .asked
    · exact .answered status
  intro _
  apply quiet_then (.inl rfl) (onOutside_quiet _)
  intro commit state
  rw [exec_bind_of_ok (exec_called _ _), exec_bind_of_ok (exec_report _ _), reportCycle,
    exec_bind_of_ok (exec_report _ _)]
  suffices made : Adds (· = [.committed cycle workflowId commit.status]) state _ from
    made.mono (fun added same => .inr ⟨commit.status, same⟩)
  cases answered : commit.status with
  | completed => exact ⟨_, rfl, rfl, rfl, fun tallied => tallied.add rfl rfl rfl rfl rfl⟩
  | alreadyCommitted => exact ⟨_, rfl, rfl, rfl, fun tallied => tallied.add rfl rfl rfl rfl rfl⟩
  | failed => exact stopped_adds rfl rfl (fun tallied => tallied.add rfl rfl rfl rfl rfl)
  | postCommitVerificationFailed =>
    exact stopped_adds rfl rfl (fun tallied => tallied.add rfl rfl rfl rfl rfl)

theorem promote_adds (services : Services ρ) (config : NightShiftConfig) (cycle : Nat)
    (workflowId : String) :
    Respects (Adds (PromotionCalls cycle workflowId))
      (promote services config cycle workflowId) := by
  intro start
  rw [promote, exec_get_bind]
  split
  · exact (hardStop_quiet services _ start).adds .refused
  · rename_i context promoted
    refine quiet_then .refused (onOutside_quiet _) ?_ start
    intro integration state
    rw [exec_bind_of_ok (exec_called _ _), exec_bind_of_ok (exec_report _ _), reportCycle,
      exec_bind_of_ok (exec_report _ _)]
    by_cases failed : integration.status ≠ .completed
    · rw [if_pos failed]
      suffices made : Adds (· = [.integrated cycle workflowId integration.status]) state _ from
        made.mono (fun added same => same ▸ .integrated integration.status)
      refine stopped_adds rfl rfl (fun tallied => tallied.add rfl rfl ?_ rfl rfl)
      simp [Call.isSuccessfulIntegration, failed]
    · have completed : integration.status = .completed := not_not.mp failed
      rw [if_neg failed, exec_bind_of_ok (exec_report _ _), completed]
      split
      · refine @Adds.then _ (· = [.integrated cycle workflowId .completed]) (· = []) _ _ _ _ ?_
          ((hardStop_quiet services _ _).adds rfl) ?_
        · exact ⟨_, rfl, rfl, rfl, fun tallied => tallied.add rfl rfl rfl rfl rfl⟩
        · rintro before after rfl rfl
          exact .integrated .completed
      · refine @Adds.then _ (· = [.integrated cycle workflowId .completed]) _ _ _ _ _ ?_
          (committed_adds services config cycle workflowId context integration _) ?_
        · exact ⟨_, rfl, rfl, rfl, fun tallied => tallied.add rfl rfl rfl rfl rfl⟩
        · rintro before after rfl commit
          exact .committing commit

theorem settleReport_adds (services : Services ρ) (config : NightShiftConfig) (cycle : Nat)
    (snapshots : List ContainmentSnapshot) (report : RuntimeReport) :
    Respects (Adds (fun added => added = [] ∨
        (report.Completed ∧ ∃ workflowId, PromotionCalls cycle workflowId added)))
      (settleReport services config cycle snapshots report) := by
  rw [settleReport]
  split
  · apply quiet_then (.inl rfl) (audit_quiet _ _)
    intro _ state
    exact (finishClean_quiet services _ state).adds (.inl rfl)
  split
  · intro state
    exact (hardStop_quiet services _ state).adds (.inl rfl)
  split
  · intro state
    exact (hardStop_quiet services _ state).adds (.inl rfl)
  · rename_i record last
    apply quiet_then (.inl rfl) (reportCycle_quiet _)
    intro _
    apply quiet_then (.inl rfl) (report_quiet ?_)
    · intro _ state
      split
      · exact (settleFailure_quiet services _ snapshots state).adds (.inl rfl)
      · rename_i completed
        have ended : report.Completed := by
          rw [RuntimeReport.Completed, last, Option.map_some, not_not.mp completed]
        exact (promote_adds services config cycle record.workflowId state).mono
          (fun added made => .inr ⟨ended, record.workflowId, made⟩)
    · exact fun _ _ ⟨tasks, integrations, integrated, commits, committed⟩ =>
        ⟨tasks, integrations, integrated, commits, committed⟩

theorem settleReport_ends (services : Services ρ) (config : NightShiftConfig) (cycle : Nat)
    (snapshots : List ContainmentSnapshot) {report : RuntimeReport}
    (idle : report.status = .idle ∧ report.selectedTasks = 0) (state : ShiftState ρ) :
    (exec (settleReport services config cycle snapshots report) state).1 ≠ .ok none := by
  rw [settleReport, if_pos idle]
  intro ended
  cases ended

/-- What a cycle adds to the calls, what it looks at, and what it is known by that it goes on. -/
theorem work_calls (services : Services ρ) (config : NightShiftConfig) (state : ShiftState ρ) :
    ∃ added, CycleCalls services config (state.result.cyclesAttempted + 1) added ∧
      (exec (work services config) state).2.calls = state.calls ++ added ∧
      (∃ told : Outside ρ, told.store.toTables = state.outside.store.toTables ∧
        told.disk = state.outside.disk ∧
        (exec (work services config) state).2.looks = state.looks ++ [told]) ∧
      (Tallied state.result state.calls → Tallied (exec (work services config) state).2.result
        (exec (work services config) state).2.calls) ∧
      ((exec (work services config) state).1 = .ok none → ∃ report, Reported services config report ∧
        ¬ (report.status = .idle ∧ report.selectedTasks = 0) ∧
        report.selectedTasks ≤ tasksSelected added) := by
  obtain ⟨told, tables, disk, audited⟩ := exec_audit "NIGHT_SHIFT_CYCLE_STARTED" "STARTED" { state with
    result := { state.result with
      cycles := state.result.cycles ++ [{ cycleNumber := state.result.cyclesAttempted + 1 }]
      cyclesAttempted := state.result.cyclesAttempted + 1 } }
  rw [work, exec_bind_of_ok (exec_report _ _), exec_bind_of_ok audited,
    exec_bind_of_ok (exec_look _), attempt, exec_get_bind]
  dsimp only
  have begun : Tallied state.result state.calls → Tallied { state.result with
      cycles := state.result.cycles ++ [{ cycleNumber := state.result.cyclesAttempted + 1 }]
      cyclesAttempted := state.result.cyclesAttempted + 1 } state.calls :=
    fun ⟨tasks, integrations, integrated, commits, committed⟩ =>
      ⟨tasks, integrations, integrated, commits, committed⟩
  cases captured : captureContainmentSnapshots services.surroundings told.store.toTables told.disk
      config.workflowIds with
  | error error =>
    exact ⟨[], .none, (List.append_nil _).symm, ⟨told, tables, disk, rfl⟩, begun,
      fun goes => by cases goes⟩
  | ok snapshots =>
    rw [exec_bind_of_ok (exec_ofExcept _ _)]
    rcases ran : exec (services.runtime (runtimeConfig config)) told with ⟨error | report, outside⟩
    · rw [onOutside, exec_bind, exec_zoom, ran]
      exact ⟨[], .none, (List.append_nil _).symm, ⟨told, tables, disk, rfl⟩, begun,
        fun goes => by cases goes⟩
    · have reported : Reported services config report := ⟨told, outside, ran⟩
      rw [onOutside, exec_bind, exec_zoom, ran]
      dsimp only
      rw [exec_bind_of_ok (exec_called _ _), reportCycle, exec_bind_of_ok (exec_report _ _),
        exec_bind_of_ok (exec_report _ _)]
      generalize stated : ShiftState.mk outside state.readings _ _ _ = middle
      have called : middle.calls =
          state.calls ++ [.ran (state.result.cyclesAttempted + 1) report] := by rw [← stated]
      have looked : middle.looks = state.looks ++ [told] := by rw [← stated]
      have counted : Tallied state.result state.calls → Tallied middle.result middle.calls := by
        intro tallied
        rw [← stated]
        exact (begun tallied).add rfl rfl rfl rfl rfl
      obtain ⟨added, shaped, made, seen, kept⟩ := settleReport_adds services config
        (state.result.cyclesAttempted + 1) snapshots report middle
      refine ⟨.ran (state.result.cyclesAttempted + 1) report :: added, ?_, ?_,
        ⟨told, tables, disk, seen.trans looked⟩, fun tallied => kept (counted tallied), ?_⟩
      · obtain rfl | ⟨completed, workflowId, promotion⟩ := shaped
        · exact .ran report reported
        · exact .promoted reported completed promotion
      · rw [made, called, List.append_assoc]
        rfl
      · intro goes
        refine ⟨report, reported, fun idle => ?_, ?_⟩
        · exact settleReport_ends services config _ snapshots idle middle goes
        · exact Nat.le_add_right _ _

theorem CommitCalls.front {cycle : Nat} {workflowId : String} {calls made : List Call}
    (commit : CommitCalls cycle workflowId calls) (begun : made <+: calls) :
    made = [] ∨ CommitCalls cycle workflowId made := by
  cases commit with
  | asked =>
    obtain rfl | ⟨rest, rfl, short⟩ := List.prefix_cons_iff.mp begun
    · exact .inl rfl
    · rw [List.prefix_nil.mp short]
      exact .inr .asked
  | answered status =>
    obtain rfl | ⟨rest, rfl, short⟩ := List.prefix_cons_iff.mp begun
    · exact .inl rfl
    obtain rfl | ⟨last, rfl, ended⟩ := List.prefix_cons_iff.mp short
    · exact .inr .asked
    · rw [List.prefix_nil.mp ended]
      exact .inr (.answered status)

theorem PromotionCalls.front {cycle : Nat} {workflowId : String} {calls made : List Call}
    (promotion : PromotionCalls cycle workflowId calls) (begun : made <+: calls) :
    PromotionCalls cycle workflowId made := by
  cases promotion with
  | refused =>
    rw [List.prefix_nil.mp begun]
    exact .refused
  | integrated status =>
    obtain rfl | ⟨rest, rfl, short⟩ := List.prefix_cons_iff.mp begun
    · exact .refused
    · rw [List.prefix_nil.mp short]
      exact .integrated status
  | committing commit =>
    obtain rfl | ⟨rest, rfl, short⟩ := List.prefix_cons_iff.mp begun
    · exact .refused
    obtain rfl | further := commit.front short
    · exact .integrated .completed
    · exact .committing further

theorem CycleCalls.front {services : Services ρ} {config : NightShiftConfig} {cycle : Nat}
    {calls made : List Call} (called : CycleCalls services config cycle calls)
    (begun : made <+: calls) : CycleCalls services config cycle made := by
  cases called with
  | none =>
    rw [List.prefix_nil.mp begun]
    exact .none
  | ran report reported =>
    obtain rfl | ⟨rest, rfl, short⟩ := List.prefix_cons_iff.mp begun
    · exact .none
    · rw [List.prefix_nil.mp short]
      exact .ran report reported
  | promoted reported completed promotion =>
    obtain rfl | ⟨rest, rfl, short⟩ := List.prefix_cons_iff.mp begun
    · exact .none
    · exact .promoted reported completed (promotion.front short)

theorem front_of_append {earlier added made : List Call} (begun : made <+: earlier ++ added) :
    made <+: earlier ∨ ∃ rest, made = earlier ++ rest ∧ rest <+: added := by
  obtain short | ⟨rest, rfl⟩ := List.prefix_or_prefix_of_prefix begun (List.prefix_append earlier added)
  · exact .inl short
  · exact .inr ⟨rest, rfl, (List.prefix_append_right_inj earlier).mp begun⟩

theorem follow_append {earlier added : List Call} (before : CommitsFollowIntegrations earlier)
    (after : CommitsFollowIntegrations added) : CommitsFollowIntegrations (earlier ++ added) := by
  intro front cycle workflowId back split
  obtain ⟨middle, rfl, asked⟩ | ⟨middle, rfl, asked⟩ := List.append_eq_append_iff.mp split
  · obtain ⟨start, report, rfl⟩ := after middle cycle workflowId back asked
    exact ⟨earlier ++ start, report, (List.append_assoc _ _ _).symm⟩
  · cases middle with
    | nil =>
      obtain ⟨start, report, empty⟩ := after [] cycle workflowId back asked.symm
      cases start <;> cases empty
    | cons call rest =>
      obtain ⟨rfl, rfl⟩ := List.cons.inj asked
      exact before front cycle workflowId rest rfl

theorem follow_calm {calls : List Call} (calm : ∀ call ∈ calls, call.isCommitAttempt = false) :
    CommitsFollowIntegrations calls := by
  rintro front cycle workflowId back rfl
  have asked := calm (.committing cycle workflowId) (by simp)
  simp [Call.isCommitAttempt] at asked

theorem CycleCalls.follow {services : Services ρ} {config : NightShiftConfig} {cycle : Nat}
    {calls : List Call} (called : CycleCalls services config cycle calls) :
    CommitsFollowIntegrations calls := by
  cases called with
  | none => exact follow_calm (by simp)
  | ran report reported => exact follow_calm (by simp [Call.isCommitAttempt])
  | promoted reported completed promotion =>
    cases promotion with
    | refused => exact follow_calm (by simp [Call.isCommitAttempt])
    | integrated status => exact follow_calm (by simp [Call.isCommitAttempt])
    | committing commit =>
      intro front number workflowId back split
      -- The one attempt is the third call.
      cases commit with
      | asked =>
        rcases front with _ | ⟨first, _ | ⟨second, _ | ⟨third, rest⟩⟩⟩ <;> simp at split
        obtain ⟨rfl, rfl, ⟨rfl, rfl⟩, -⟩ := split
        exact ⟨[], _, rfl⟩
      | answered status =>
        rcases front with _ | ⟨first, _ | ⟨second, _ | ⟨third, _ | ⟨fourth, rest⟩⟩⟩⟩ <;>
          simp at split
        obtain ⟨rfl, rfl, ⟨rfl, rfl⟩, -⟩ := split
        exact ⟨[], _, rfl⟩

theorem PromotionCalls.bounds {cycle : Nat} {workflowId : String} {calls : List Call}
    (promotion : PromotionCalls cycle workflowId calls) :
    tasksSelected calls = 0 ∧ completedRuns calls = 0 ∧ successfulCommits calls ≤ 1 ∧
      commitAttempts calls ≤ successfulIntegrations calls ∧ successfulIntegrations calls ≤ 1 := by
  cases promotion with
  | refused => decide
  | integrated status =>
    exact ⟨rfl, rfl, Nat.zero_le _, Nat.zero_le _, List.countP_le_length⟩
  | committing commit =>
    cases commit with
    | asked => exact ⟨rfl, rfl, Nat.zero_le _, Nat.le_refl _, Nat.le_refl _⟩
    | answered status =>
      refine ⟨rfl, rfl, ?_, Nat.le_refl _, Nat.le_refl _⟩
      have one : successfulCommits [.committed cycle workflowId status] ≤ 1 := List.countP_le_length
      exact one

theorem CycleCalls.bounds {services : Services ρ} {config : NightShiftConfig} {cycle : Nat}
    {calls : List Call} (called : CycleCalls services config cycle calls)
    (single : SelectsAtMostOne services config) :
    tasksSelected calls ≤ 1 ∧ successfulCommits calls ≤ 1 ∧
      commitAttempts calls ≤ successfulIntegrations calls ∧
      successfulIntegrations calls ≤ completedRuns calls := by
  cases called with
  | none => exact ⟨Nat.zero_le _, Nat.zero_le _, Nat.le_refl _, Nat.le_refl _⟩
  | ran report reported =>
    refine ⟨?_, Nat.zero_le _, Nat.zero_le _, Nat.zero_le _⟩
    exact single report reported
  | @promoted report workflowId calls reported completed promotion =>
    have one := single report reported
    obtain ⟨none, idle, commits, attempts, integrations⟩ := promotion.bounds
    have selected : tasksSelected (.ran cycle report :: calls) = report.selectedTasks := by
      rw [← List.singleton_append, tasksSelected_append, none]
      rfl
    have counted : completedRuns (.ran cycle report :: calls) = 1 := by
      rw [← List.singleton_append, completedRuns_append, idle]
      simp [completedRuns, Call.isCompletedRun, completed]
    rw [selected, counted]
    exact ⟨one, commits, attempts, integrations⟩

theorem WithinBudget.cycle {services : Services ρ} {config : NightShiftConfig} {cycle : Nat}
    {earlier added : List Call} (within : WithinBudget config earlier)
    (tasks : (tasksSelected earlier : Int) < config.maxTasks)
    (commits : (successfulCommits earlier : Int) < config.maxCommits)
    (called : CycleCalls services config cycle added) (single : SelectsAtMostOne services config) :
    WithinBudget config (earlier ++ added) := by
  obtain ⟨one, once, attempts, integrations⟩ := called.bounds single
  constructor
  · rw [tasksSelected_append]
    omega
  · rw [successfulCommits_append]
    omega
  · rw [commitAttempts_append, successfulIntegrations_append]
    exact Nat.add_le_add within.attempts attempts
  · rw [successfulIntegrations_append, completedRuns_append]
    exact Nat.add_le_add within.integrations integrations
  · exact follow_append within.ordered called.follow

/-- The calls were within the budgets all along, and the counters follow them. -/
structure Sound (config : NightShiftConfig) (state : ShiftState ρ) : Prop where
  within : ∀ calls, calls <+: state.calls → WithinBudget config calls
  tallied : Tallied state.result state.calls

theorem within_nil (config : NightShiftConfig) : WithinBudget config [] where
  tasks := le_trans (by decide) config.tasks_positive
  commits := config.commits_nonneg
  attempts := Nat.le_refl _
  integrations := Nat.le_refl _
  ordered := follow_calm (by simp)

theorem Quiet.sound {config : NightShiftConfig} {before after : ShiftState ρ}
    (quiet : Quiet before after) (sound : Sound config before) : Sound config after where
  within := by
    rw [quiet.calls]
    exact sound.within
  tallied := by
    rw [quiet.calls]
    exact quiet.tallied sound.tallied

theorem limitReached_none {config : NightShiftConfig} {result : NightShiftResult} {elapsed : Rat}
    (below : limitReached config result elapsed = none) :
    (result.tasksSelected : Int) < config.maxTasks ∧
      (result.l2CommitsSucceeded : Int) < config.maxCommits := by
  unfold limitReached at below
  split at below
  · cases below
  split at below
  · cases below
  exact ⟨not_le.mp ‹_›, not_le.mp ‹_›⟩

theorem cycle_cases (services : Services ρ) (config : NightShiftConfig) (started : Rat)
    (state : ShiftState ρ) :
    (∃ reason, exec (cycle services config started) state =
      exec (finishClean services reason) { state with readings := state.readings + 1 }) ∨
    ((state.result.tasksSelected : Int) < config.maxTasks ∧
      (state.result.l2CommitsSucceeded : Int) < config.maxCommits ∧
      exec (cycle services config started) state =
        exec (work services config) { state with readings := state.readings + 1 }) := by
  rw [cycle, exec_bind_of_ok (exec_readClock _ _), exec_get_bind]
  cases limit : limitReached config state.result (max 0 (services.clock state.readings - started)) with
  | some reason => exact .inl ⟨reason, rfl⟩
  | none =>
    obtain ⟨tasks, commits⟩ := limitReached_none limit
    exact .inr ⟨tasks, commits, rfl⟩

theorem cycle_sound {services : Services ρ} {config : NightShiftConfig} {started : Rat}
    (single : SelectsAtMostOne services config) {state : ShiftState ρ} (sound : Sound config state) :
    Sound config (exec (cycle services config started) state).2 := by
  obtain ⟨reason, ended⟩ | ⟨tasks, commits, worked⟩ := cycle_cases services config started state
  · rw [ended]
    exact (finishClean_quiet services reason _).sound ⟨sound.within, sound.tallied⟩
  · obtain ⟨added, called, made, -, kept, -⟩ :=
      work_calls services config { state with readings := state.readings + 1 }
    rw [worked]
    refine ⟨fun calls begun => ?_, kept sound.tallied⟩
    rw [made] at begun
    obtain short | ⟨rest, rfl, front⟩ := front_of_append begun
    · exact sound.within calls short
    · rw [sound.tallied.tasks] at tasks
      rw [sound.tallied.committed] at commits
      exact (sound.within state.calls (List.prefix_refl _)).cycle tasks commits (called.front front) single

theorem loop_sound {services : Services ρ} {config : NightShiftConfig} {started : Rat}
    (single : SelectsAtMostOne services config) (turns : Nat) {state : ShiftState ρ}
    (sound : Sound config state) :
    Sound config (exec (loop services config started turns) state).2 := by
  induction turns generalizing state with
  | zero => exact sound
  | succ turns ih =>
    have next : Sound config (exec (cycle services config started) state).2 := cycle_sound single sound
    rw [loop, exec_bind]
    rcases ended : exec (cycle services config started) state with ⟨error | ⟨_ | result⟩, after⟩
    · rwa [ended] at next
    · rw [ended] at next
      exact ih next
    · rwa [ended] at next

/-- A turn that does not end the shift was below the limit on tasks, and used some of it. -/
theorem cycle_goes_on {services : Services ρ} {config : NightShiftConfig} {started : Rat}
    (progress : SelectsOrIdles services config) {state after : ShiftState ρ}
    (tallied : Tallied state.result state.calls)
    (goes : exec (cycle services config started) state = (.ok none, after)) :
    (state.result.tasksSelected : Int) < config.maxTasks ∧ Tallied after.result after.calls ∧
      state.result.tasksSelected + 1 ≤ after.result.tasksSelected := by
  obtain ⟨reason, ended⟩ | ⟨tasks, commits, worked⟩ := cycle_cases services config started state
  · rw [goes] at ended
    have stopped := congrArg Prod.fst ended
    cases stopped
  · obtain ⟨added, called, made, -, kept, selects⟩ :=
      work_calls services config { state with readings := state.readings + 1 }
    rw [← worked, goes] at made kept selects
    obtain ⟨report, reported, busy, selected⟩ := selects rfl
    have counted := kept tallied
    have some : 1 ≤ report.selectedTasks := by
      obtain some | idle := progress report reported
      · exact some
      · by_contra none
        exact busy ⟨idle, by omega⟩
    refine ⟨tasks, counted, ?_⟩
    rw [counted.tasks, made, tasksSelected_append, tallied.tasks]
    exact Nat.add_le_add_left (Nat.le_trans some selected) _

theorem loop_goes_on {services : Services ρ} {config : NightShiftConfig} {started : Rat}
    (progress : SelectsOrIdles services config) {turns : Nat} {state after : ShiftState ρ}
    (tallied : Tallied state.result state.calls)
    (goes : exec (loop services config started turns) state = (.ok none, after)) :
    turns = 0 ∨ (state.result.tasksSelected + turns : Int) ≤ config.maxTasks := by
  induction turns generalizing state with
  | zero => exact .inl rfl
  | succ turns ih =>
    right
    obtain ⟨result, middle, turned, later⟩ := bind_ok goes
    cases result with
    | some result => cases later
    | none =>
      obtain ⟨below, counted, more⟩ := cycle_goes_on progress tallied turned
      obtain rfl | rest := ih counted later
      · push_cast
        omega
      · push_cast
        omega

/-- Whatever the services do, a night shift stays within its budgets, and where each run of the
runtime selects a task or is idle it ends. -/
theorem night_shift_within_budget (services : Services ρ) (config : NightShiftConfig) (turns : Nat)
    (state : ShiftState ρ) (single : SelectsAtMostOne services config) :
    let ended := exec (run services config turns) state
    (∀ calls, calls <+: ended.2.calls → WithinBudget config calls) ∧
      Tallied ended.2.result ended.2.calls ∧
      (SelectsOrIdles services config → config.maxTasks < turns → ended.1 ≠ .ok none) := by
  obtain ⟨outside, -, -, audited⟩ := exec_audit "NIGHT_SHIFT_STARTED" "STARTED" { state with
    readings := state.readings + 1
    result := {}
    calls := []
    looks := [] }
  intro ended
  have looped : ended = exec (loop services config (services.clock state.readings) turns)
      { outside := outside, readings := state.readings + 1 } := by
    rw [show ended = exec (run services config turns) state from rfl, run,
      exec_bind_of_ok (exec_readClock _ _), exec_bind_of_ok (exec_modify _ _), exec_bind_of_ok audited]
  have none : Tallied {} [] := ⟨rfl, rfl, rfl, rfl, rfl⟩
  have begun : Sound config ({ outside := outside, readings := state.readings + 1 } : ShiftState ρ) :=
    ⟨fun calls short => by rw [List.prefix_nil.mp short]; exact within_nil config, none⟩
  have sound : Sound config (exec (loop services config (services.clock state.readings) turns)
      { outside := outside, readings := state.readings + 1 }).2 := loop_sound single turns begun
  rw [looped]
  refine ⟨sound.within, sound.tallied, fun progress many goes => ?_⟩
  obtain zero | few := loop_goes_on progress none (Prod.ext goes rfl)
  · have positive := config.tasks_positive
    omega
  · exact absurd few (by rw [show ((({} : NightShiftResult).tasksSelected : Nat) : Int) = 0 from rfl]; omega)

/-- A completed workflow that may be committed, in workspaces outside Git. -/
def promotable : ShiftState Unit where
  outside := {
    store := {
      repositories := .single { id := "LREPO_000001", projectId := "LPROJ_000001", location := "/repo" }
      tasks := .single { id := "LTASK_000001", projectId := "LPROJ_000001", authorityLevel := .l2 }
      contracts := .single {
        id := "LCONTR_000001"
        taskId := "LTASK_000001"
        allowedActions := ["CREATE_COMMIT"]
        authorityLevel := .l2 }
      plans := .single {
        id := "LPLAN_000001"
        taskId := "LTASK_000001"
        projectId := "LPROJ_000001"
        taskContractId := "LCONTR_000001" }
      freezes := .single {
        id := "LFREEZE_000001"
        planId := "LPLAN_000001"
        taskId := "LTASK_000001"
        projectId := "LPROJ_000001"
        commitSha := some "base" }
      workflows := .single {
        id := "LWORK_000001"
        projectId := some "LPROJ_000001"
        repositoryId := some "LREPO_000001"
        taskId := some "LTASK_000001"
        planId := some "LPLAN_000001"
        planFreezeId := some "LFREEZE_000001"
        worktreePath := "/work"
        workflowState := .completedPendingIntegration } }
    disk := fun _ => .outsideGit
    rest := () }

/-- Services that always select the workflow, complete it, integrate it and commit it. -/
def obliging : Services Unit where
  runtime _ := return {
    status := .completed
    selectedTasks := 1
    completedTasks := 1
    taskRecords := [{
      workflowId := "LWORK_000001"
      itemId := "ITEM-1"
      projectId := some "LPROJ_000001"
      providerId := "ollama"
      outcome := .completed
      completedSubsteps := []
      failureClass := none
      blockerCategory := none }] }
  integrate request := return { status := .completed, workflowId := request.workflowId }
  commit request := return { status := .completed, workflowId := request.workflowId }
  clock _ := 0
  surroundings := { resolve := id, sha256 := fun _ => "" }

theorem obliging_selects_one : SelectsAtMostOne obliging { maxTasks := 3, maxCommits := 2 } := by
  rintro report ⟨outside, after, returned⟩
  cases returned
  decide

/-- Two commits are made and no third one. -/
theorem obliging_within_budget :
    (∀ calls, calls <+: (exec (run obliging { maxTasks := 3, maxCommits := 2 } 4) promotable).2.calls →
        WithinBudget { maxTasks := 3, maxCommits := 2 } calls) ∧
      (exec (run obliging { maxTasks := 3, maxCommits := 2 } 4) promotable).1 ≠ .ok none ∧
      successfulCommits
        (exec (run obliging { maxTasks := 3, maxCommits := 2 } 4) promotable).2.calls = 2 := by
  obtain ⟨within, -, ends⟩ := night_shift_within_budget obliging { maxTasks := 3, maxCommits := 2 } 4
    promotable obliging_selects_one
  refine ⟨within, ends ?_ (by decide), by decide +kernel⟩
  rintro report ⟨outside, after, returned⟩
  cases returned
  exact .inl (Nat.le_refl 1)

end Lucius.NightShift
