import Lucius.Persistence.Rows

/-! The classification of the worktrees of a repository, and the removal of those that are safe
to remove. What Git and the disk answer is given by the surroundings. -/

namespace Lucius.Hygiene

inductive WorktreeClassification where
  | active | dirty | referencedByOpenWorkflow | cleanPrunable | unknown
  deriving DecidableEq

structure WorktreeRecord where
  path : String
  headSha : String
  branch : Option String
  isMainRoot : Bool := false
  classification : WorktreeClassification := .unknown
  classificationReason : String := ""
  trackedModified : Nat := 0
  untrackedFiles : Nat := 0
  deriving DecidableEq

structure WorktreeHygieneReport where
  records : List WorktreeRecord
  prunedPaths : List String := []
  dryRun : Bool := true
  deriving DecidableEq

def WorktreeHygieneReport.count (report : WorktreeHygieneReport) (classification : WorktreeClassification) : Nat :=
  report.records.countP (fun record => record.classification = classification)

/-- What the commands print line by line, nothing when one fails, and what the disk holds. -/
structure Surroundings where
  resolve : String → String
  pathExists : String → Bool
  worktreeList : Option (List (List Char))
  status : String → Option (List (List Char))
  removes : String → Bool

/-- The fields of a worktree, the last one written first. -/
abbrev WorktreeInfo := List (String × String)

def WorktreeInfo.get (info : WorktreeInfo) (key : String) : Option String := info.lookup key

/-- The worktrees that the lines list, after the fields read so far. -/
def readWorktrees (current : WorktreeInfo) : List (List Char) → List WorktreeInfo
  | [] => if current.isEmpty then [] else [current]
  | raw :: rest =>
    let line := Json.strip raw
    if line.isEmpty then
      if current.isEmpty then readWorktrees current rest else current :: readWorktrees [] rest
    else if ' ' ∈ line then
      let value := (line.dropWhile (· ≠ ' ')).drop 1
      readWorktrees ((String.ofList (line.takeWhile (· ≠ ' ')), String.ofList value) :: current) rest
    else if String.ofList line ∈ ["bare", "detached"] then
      readWorktrees ((String.ofList line, "True") :: current) rest
    else readWorktrees current rest

section

variable (surroundings : Surroundings) (repoRoot : String) (session : Option (List PersistentWorkflowRow))

def listWorktrees : List WorktreeInfo := readWorktrees [] (surroundings.worktreeList.getD [])

/-- Whether there are changes, and how many are tracked and untracked. -/
def inspectGitStatus (path : String) : Bool × Nat × Nat :=
  match surroundings.status path with
  | none => (true, 0, 0)
  | some printed =>
    let lines := (printed.map Json.strip).filter (fun line => !line.isEmpty)
    let untracked := lines.countP (fun line => ['?', '?'].isPrefixOf line)
    (!lines.isEmpty, lines.length - untracked, untracked)

/-- `PersistentWorkflowState.<name>.value`; a member has the name it has as value. -/
def stateNamed (name : String) : Except PyExc String :=
  match (StrEnum.ofValue? name : Option PersistentWorkflowState) with
  | some state => .ok (StrEnum.value state)
  | none => .error .attributeError

def activeWorkflowWorktreePaths : Except PyExc (List String) :=
  match session with
  | none => .ok []
  | some workflows => do
      let activeStates ← ["PENDING", "RUNNING", "BLOCKED"].mapM stateNamed
      let found := workflows.filter (fun row => StrEnum.value row.workflowState ∈ activeStates)
      return (found.filter (fun row => row.worktreePath ≠ "")).map (fun row => surroundings.resolve row.worktreePath)

def classifyWorktree (activePaths : List String) (info : WorktreeInfo) : WorktreeRecord :=
  let path := surroundings.resolve ((info.get "worktree").getD "")
  let record : WorktreeRecord := { path := path, headSha := (info.get "HEAD").getD "", branch := info.get "branch" }
  if path = repoRoot then
    { record with
      isMainRoot := true
      classification := .active
      classificationReason := "Canonical main repository checkout" }
  else if surroundings.pathExists path = false then
    { record with classificationReason := "Worktree path does not exist on disk" }
  else
    let (isDirty, modified, untracked) := inspectGitStatus surroundings path
    let record := { record with trackedModified := modified, untrackedFiles := untracked }
    if isDirty then
      { record with
        classification := .dirty
        classificationReason := s!"Uncommitted changes present ({modified} modified, {untracked} untracked)" }
    else if path ∈ activePaths then
      { record with
        classification := .referencedByOpenWorkflow
        classificationReason := "Referenced by an active persistent workflow in database" }
    else
      { record with
        classification := .cleanPrunable
        classificationReason := "Clean worktree with no uncommitted changes or open workflows" }

def scan : Except PyExc WorktreeHygieneReport := do
  let activePaths ← activeWorkflowWorktreePaths surroundings session
  return { records := (listWorktrees surroundings).map (classifyWorktree surroundings repoRoot activePaths) }

def pruneSafeCandidates (dryRun : Bool) : Except PyExc WorktreeHygieneReport := do
  let report ← scan surroundings repoRoot session
  if dryRun then return { report with dryRun := true }
  let candidates := report.records.filter (fun record => record.classification = .cleanPrunable)
  return { report with
    dryRun := false
    prunedPaths := (candidates.map WorktreeRecord.path).filter surroundings.removes }

/-- The worktrees that a call removes; an exception comes before any removal. -/
def removed (dryRun : Bool) : List String :=
  match pruneSafeCandidates surroundings repoRoot session dryRun with
  | .error _ => []
  | .ok report => report.prunedPaths

/-- The path is that of a workflow that is not closed. -/
def Owned (workflows : List PersistentWorkflowRow) (path : String) : Prop :=
  ∃ row ∈ workflows, row.workflowState ≠ .closed ∧ row.worktreePath ≠ "" ∧
    surroundings.resolve row.worktreePath = path

/-- No worktree of an open workflow is removed, and a scan with a session classifies every one. -/
structure PruningSafe (workflows : List PersistentWorkflowRow) (hasSession dryRun : Bool) : Prop where
  kept : ∀ path ∈ removed surroundings repoRoot (if hasSession then some workflows else none) dryRun,
    ¬ Owned surroundings workflows path
  scanned : hasSession = true → ∃ report, scan surroundings repoRoot (some workflows) = .ok report ∧
    report.records.length = (listWorktrees surroundings).length

/-- The worktree is another than the root, is there, is clean, and Git would remove it. -/
def Removable (path : String) : Prop :=
  path ≠ repoRoot ∧ surroundings.pathExists path = true ∧ (inspectGitStatus surroundings path).1 = false ∧
    surroundings.removes path = true

variable {surroundings repoRoot session}

/-- Two of the states that are asked for do not exist. -/
theorem scan_with_session (workflows : List PersistentWorkflowRow) :
    scan surroundings repoRoot (some workflows) = .error .attributeError := by
  have missing : ["PENDING", "RUNNING", "BLOCKED"].mapM stateNamed = .error .attributeError := by decide +kernel
  rw [scan, activeWorkflowWorktreePaths, missing]
  rfl

theorem classified_prunable (info : WorktreeInfo) :
    (classifyWorktree surroundings repoRoot [] info).classification = .cleanPrunable ↔
      surroundings.resolve ((info.get "worktree").getD "") ≠ repoRoot ∧
      surroundings.pathExists (surroundings.resolve ((info.get "worktree").getD "")) = true ∧
      (inspectGitStatus surroundings (surroundings.resolve ((info.get "worktree").getD ""))).1 = false := by
  unfold classifyWorktree
  dsimp only
  split
  · rename_i root
    exact iff_of_false WorktreeClassification.noConfusion (fun other => other.1 root)
  split
  · rename_i absent
    refine iff_of_false WorktreeClassification.noConfusion (fun other => ?_)
    rw [absent] at other
    exact Bool.false_ne_true other.2.1
  rename_i other present
  cases dirty : (inspectGitStatus surroundings (surroundings.resolve ((info.get "worktree").getD ""))).1 with
  | true => simp
  | false => simp [other, Bool.eq_true_of_not_eq_false present]

theorem classified_path (activePaths : List String) (info : WorktreeInfo) :
    (classifyWorktree surroundings repoRoot activePaths info).path =
      surroundings.resolve ((info.get "worktree").getD "") := by
  unfold classifyWorktree
  dsimp only
  split_ifs <;> rfl

/-- Without a session every clean worktree is removed, whosever it is. -/
theorem mem_removed (path : String) : path ∈ removed surroundings repoRoot none false ↔
    Removable surroundings repoRoot path ∧
      ∃ info ∈ listWorktrees surroundings, surroundings.resolve ((info.get "worktree").getD "") = path := by
  have ran : removed surroundings repoRoot none false = ((((listWorktrees surroundings).map
      (classifyWorktree surroundings repoRoot [])).filter
      (fun record => record.classification = .cleanPrunable)).map WorktreeRecord.path).filter
      surroundings.removes := rfl
  rw [ran, List.mem_filter]
  simp only [List.mem_map, List.mem_filter, decide_eq_true_iff]
  constructor
  · rintro ⟨⟨_, ⟨⟨info, listed, rfl⟩, prunable⟩, rfl⟩, removes⟩
    rw [classified_path] at removes ⊢
    obtain ⟨other, present, clean⟩ := (classified_prunable info).mp prunable
    exact ⟨⟨other, present, clean, removes⟩, info, listed, rfl⟩
  · rintro ⟨⟨other, present, clean, removes⟩, info, listed, rfl⟩
    exact ⟨⟨_, ⟨⟨info, listed, rfl⟩, (classified_prunable info).mpr ⟨other, present, clean⟩⟩,
      classified_path _ _⟩, removes⟩

/-- Pruning is safe without a session alone, in a dry run or where no removable worktree is that of
an open workflow. -/
theorem pruning_safe_iff (workflows : List PersistentWorkflowRow) (hasSession dryRun : Bool) :
    PruningSafe surroundings repoRoot workflows hasSession dryRun ↔ hasSession = false ∧ (dryRun = true ∨
      ∀ info ∈ listWorktrees surroundings, Owned surroundings workflows
        (surroundings.resolve ((info.get "worktree").getD "")) →
        ¬ Removable surroundings repoRoot (surroundings.resolve ((info.get "worktree").getD ""))) := by
  cases hasSession with
  | true =>
    refine iff_of_false (fun safe => ?_) (fun other => Bool.false_ne_true other.1.symm)
    obtain ⟨report, done, -⟩ := safe.scanned rfl
    rw [scan_with_session] at done
    cases done
  | false =>
    cases dryRun with
    | true => exact iff_of_true ⟨fun path member => absurd member List.not_mem_nil, nofun⟩ ⟨rfl, .inl rfl⟩
    | false =>
      constructor
      · intro safe
        refine ⟨rfl, .inr fun info listed owned removable => ?_⟩
        exact safe.kept _ ((mem_removed _).mpr ⟨removable, info, listed, rfl⟩) owned
      · rintro ⟨-, dry | spared⟩
        · cases dry
        · refine ⟨fun path member owned => ?_, nofun⟩
          obtain ⟨removable, info, listed, rfl⟩ := (mem_removed path).mp member
          exact spared info listed owned removable

end

/-- A repository with one clean worktree beside its root. -/
def besideRoot : Surroundings where
  resolve := id
  pathExists _ := true
  worktreeList := some ["worktree /repo".toList, [], "worktree /work".toList]
  status _ := some []
  removes _ := true

/-- A scan with a session raises; a run without one removes the worktree of an open workflow. -/
theorem open_worktree_removed :
    (¬ ∀ workflows, PruningSafe besideRoot "/repo" workflows true true) ∧
      ¬ ∀ workflows, PruningSafe besideRoot "/repo" workflows false false := by
  constructor
  · intro safe
    obtain ⟨report, done, -⟩ := (safe []).scanned rfl
    rw [scan_with_session] at done
    cases done
  · intro safe
    have gone : "/work" ∈ removed besideRoot "/repo" none false := by decide +kernel
    exact (safe [{ id := "LWF_000001", worktreePath := "/work" }]).kept "/work" gone
      ⟨_, List.mem_singleton_self _, by decide, by decide, rfl⟩

end Lucius.Hygiene
