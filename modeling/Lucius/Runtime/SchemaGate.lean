import Lucius.Runtime.AcceptanceAtReturn

/-! What the schema gate asks of the files, said of the workspace, and when the gate
raises instead of giving a verdict. -/

namespace Lucius.Router

open Worktree Updates

/-- The operation ends in an exception. -/
def Fails {α : Type} (outcome : Except PyExc α) : Prop := ∃ error, outcome = .error error

theorem not_fails_ok {α : Type} (value : α) : ¬ Fails (.ok value : Except PyExc α) := by
  rintro ⟨error, raised⟩
  cases raised

theorem fails_error {α : Type} (error : PyExc) : Fails (.error error : Except PyExc α) := ⟨error, rfl⟩

/-- The file a contract is about. -/
def contractLocation (env : GateEnvironment) (fileContract : Dict) : Option String :=
  (nonEmpty (fileContract.get "path").text?).bind env.checkout.resolve

/-- The text has the sections and labels of the contract. -/
structure Structured (env : GateEnvironment) (fileContract : Dict) (content : Text) : Prop where
  sections : ∀ wanted ∈ stringList (fileContract.get "required_sections"),
    Acceptance.occursIn (utf8 wanted) content = true
  labels : ∀ label ∈ stringList (fileContract.get "required_labels"),
    (wholeWord label env.beyond).search (decoded content) = true

/-- No forbidden pattern is found in the text. -/
def Clean (env : GateEnvironment) (fileContract : Dict) (content : Text) : Prop :=
  ∀ pattern ∈ stringList (fileContract.get "forbidden_patterns"),
    env.searchIgnoringCase pattern content = .ok false

/-- The workspace satisfies the contract. -/
def FileMeets (env : GateEnvironment) (fileContract : Dict) (files : Files) : Prop :=
  ∃ location content, contractLocation env fileContract = some location ∧
    readText files location = .ok content ∧ Clean env fileContract content ∧
      Structured env fileContract content

def RepairAllowed (fileContract : Dict) : Prop :=
  (fileContract.get "allow_safe_structural_repair").truthy = true

/-- The workspace with the missing structure appended to the file. -/
def repairedFiles (env : GateEnvironment) (fileContract : Dict) (location : String) (content : Text)
    (files : Files) : Files :=
  applyAll files [(location, some (hostNewlines env.host (appendStructuralAdditions content
    (safeStructuralAdditions (missingSections fileContract content)
      (missingLabels env fileContract content)))))]

/-- The repair gives the text its structure. -/
structure Repairs (env : GateEnvironment) (fileContract : Dict) (location : String) (content : Text)
    (files : Files) : Prop where
  allowed : RepairAllowed fileContract
  written : env.writeFault location = none
  repaired : ∃ after, readText (repairedFiles env fileContract location content files) location =
    .ok after ∧ Structured env fileContract after

/-- The repair is tried, and cannot be written or read back. -/
structure RepairFaults (env : GateEnvironment) (fileContract : Dict) (location : String)
    (content : Text) (files : Files) : Prop where
  clean : Clean env fileContract content
  unstructured : ¬ Structured env fileContract content
  allowed : RepairAllowed fileContract
  fault : env.writeFault location ≠ none ∨
    Fails (readText (repairedFiles env fileContract location content files) location)

/-- The gate has nothing against the text. -/
structure ContentAdmits (env : GateEnvironment) (fileContract : Dict) (location : String)
    (content : Text) (files : Files) : Prop where
  clean : Clean env fileContract content
  structured : Structured env fileContract content ∨ Repairs env fileContract location content files

/-- A forbidden pattern is none, or the repair cannot be made. -/
def ContentFaults (env : GateEnvironment) (fileContract : Dict) (location : String) (content : Text)
    (files : Files) : Prop :=
  (∃ pattern ∈ stringList (fileContract.get "forbidden_patterns"),
    Fails (env.searchIgnoringCase pattern content)) ∨
  RepairFaults env fileContract location content files

/-- The gate has nothing against the file, as it finds or as it repairs it. -/
def Admits (env : GateEnvironment) (fileContract : Dict) (files : Files) : Prop :=
  ∃ location content, contractLocation env fileContract = some location ∧
    readText files location = .ok content ∧ ContentAdmits env fileContract location content files

/-- The file is there, and reading, searching or repairing it raises. -/
def Faults (env : GateEnvironment) (fileContract : Dict) (files : Files) : Prop :=
  ∃ location, contractLocation env fileContract = some location ∧
    ((files.lookup location).isSome = true ∨ isDirectory env.directories files location = true) ∧
    (Fails (readText files location) ∨ ∃ content, readText files location = .ok content ∧
      ContentFaults env fileContract location content files)

theorem structured_iff (env : GateEnvironment) (fileContract : Dict) (content : Text) :
    ((missingSections fileContract content).isEmpty && (missingLabels env fileContract content).isEmpty) =
      true ↔ Structured env fileContract content := by
  rw [Bool.and_eq_true, List.isEmpty_iff, List.isEmpty_iff]
  unfold missingSections missingLabels
  rw [List.filter_eq_nil_iff, List.filter_eq_nil_iff]
  constructor
  · rintro ⟨sections, labels⟩
    constructor
    · intro wanted member
      simpa using sections wanted member
    · intro label member
      simpa using labels label member
  · intro structured
    constructor
    · intro wanted member
      simpa using structured.sections wanted member
    · intro label member
      simpa using structured.labels label member

theorem unsafeContentIssues_cases (env : GateEnvironment) (path : String) (content : Text)
    (patterns : List String) :
    (Fails (unsafeContentIssues env path content patterns) ↔
      ∃ pattern ∈ patterns, Fails (env.searchIgnoringCase pattern content)) ∧
    (unsafeContentIssues env path content patterns = .ok [] ↔
      ∀ pattern ∈ patterns, env.searchIgnoringCase pattern content = .ok false) := by
  induction patterns with
  | nil => simp [unsafeContentIssues, Fails]
  | cons pattern rest ih =>
    unfold unsafeContentIssues
    rw [List.exists_mem_cons_iff, List.forall_mem_cons]
    cases here : env.searchIgnoringCase pattern content with
    | error error => simp [Fails, bind, Except.bind]
    | ok found =>
      cases later : unsafeContentIssues env path content rest with
      | error error =>
        rw [later] at ih
        have raises := ih.1.mp (fails_error error)
        constructor
        · exact ⟨fun _ => .inr raises, fun _ => fails_error error⟩
        · constructor
          · intro returned
            cases returned
          · rintro ⟨_, free⟩
            have none := ih.2.mpr free
            cases none
      | ok issues =>
        rw [later] at ih
        have quiet : ¬ ∃ pattern ∈ rest, Fails (env.searchIgnoringCase pattern content) :=
          fun raises => not_fails_ok issues (ih.1.mpr raises)
        constructor
        · constructor
          · intro fails
            exact absurd fails (not_fails_ok _)
          · rintro (fails | fails)
            · exact absurd fails (not_fails_ok found)
            · exact absurd fails quiet
        · rw [← ih.2]
          cases found <;> simp [bind, Except.bind, pure, Except.pure]

section

variable {env : GateEnvironment} {fileContract : Dict} {path location : String} {content : Text}
  {files : Files}

variable (env fileContract path location content files) in
theorem repairFile_cases :
    (Fails (repairFile env fileContract path location content files).2 ↔
      env.writeFault location ≠ none ∨
        Fails (readText (repairedFiles env fileContract location content files) location)) ∧
    ((∃ repairs, (repairFile env fileContract path location content files).2 =
        .ok { repairs := repairs }) ↔
      env.writeFault location = none ∧ ∃ after,
        readText (repairedFiles env fileContract location content files) location = .ok after ∧
          Structured env fileContract after) := by
  unfold repairFile writeText
  cases fault : env.writeFault location with
  | some left =>
    rw [Journal.bind_apply_error rfl]
    constructor
    · exact ⟨fun _ => .inl (by simp), fun _ => fails_error _⟩
    · constructor
      · rintro ⟨repairs, returned⟩
        cases returned
      · rintro ⟨none, _⟩
        cases none
  | none =>
    rw [Journal.bind_apply_ok (Journal.made_apply _ _)]
    unfold verifyRepaired
    rw [Journal.read_bind_apply]
    change (Fails ((Journal.ofExcept (readText (repairedFiles env fileContract location content files)
      location) >>= _) (repairedFiles env fileContract location content files)).2 ↔ _) ∧
      ((∃ repairs, ((Journal.ofExcept (readText (repairedFiles env fileContract location content files)
        location) >>= _) (repairedFiles env fileContract location content files)).2 = _) ↔ _)
    cases back : readText (repairedFiles env fileContract location content files) location with
    | error error =>
      rw [Journal.ofExcept_bind_error rfl]
      constructor
      · exact ⟨fun _ => .inr (fails_error error), fun _ => fails_error error⟩
      · constructor
        · rintro ⟨repairs, returned⟩
          cases returned
        · rintro ⟨_, after, returned, _⟩
          cases returned
    | ok after =>
      rw [Journal.ofExcept_bind_ok rfl]
      have shape := structured_iff env fileContract after
      split
      · rename_i complete
        constructor
        · constructor
          · intro fails
            exact absurd fails (not_fails_ok _)
          · rintro (other | fails)
            · exact absurd rfl other
            · exact absurd fails (not_fails_ok after)
        · exact ⟨fun _ => ⟨rfl, after, rfl, shape.mp complete⟩, fun _ => ⟨_, rfl⟩⟩
      · rename_i incomplete
        constructor
        · constructor
          · intro fails
            exact absurd fails (not_fails_ok _)
          · rintro (other | fails)
            · exact absurd rfl other
            · exact absurd fails (not_fails_ok after)
        · constructor
          · rintro ⟨repairs, returned⟩
            cases returned
          · rintro ⟨_, same, returned, structured⟩
            cases returned
            exact absurd (shape.mpr structured) incomplete

variable (env fileContract path location content files) in
theorem enforceContent_cases :
    (Fails (enforceContent env fileContract path location content files).2 ↔
      ContentFaults env fileContract location content files) ∧
    ((∃ repairs, (enforceContent env fileContract path location content files).2 =
        .ok { repairs := repairs }) ↔
      ContentAdmits env fileContract location content files) := by
  have searched := unsafeContentIssues_cases env path content
    (stringList (fileContract.get "forbidden_patterns"))
  have shape := structured_iff env fileContract content
  unfold enforceContent
  cases issues : unsafeContentIssues env path content
    (stringList (fileContract.get "forbidden_patterns")) with
  | error error =>
    rw [issues] at searched
    rw [Journal.ofExcept_bind_error rfl]
    have raises := searched.1.mp (fails_error error)
    constructor
    · exact ⟨fun _ => .inl raises, fun _ => fails_error error⟩
    · constructor
      · rintro ⟨repairs, returned⟩
        cases returned
      · intro admits
        have none := searched.2.mpr admits.clean
        cases none
  | ok found =>
    rw [issues] at searched
    rw [Journal.ofExcept_bind_ok rfl]
    have quiet : ¬ ∃ pattern ∈ stringList (fileContract.get "forbidden_patterns"),
        Fails (env.searchIgnoringCase pattern content) :=
      fun raises => not_fails_ok found (searched.1.mpr raises)
    cases found with
    | cons issue rest =>
      have dirty : ¬ Clean env fileContract content := by
        intro clean
        have none := searched.2.mpr clean
        cases none
      constructor
      · constructor
        · intro fails
          exact absurd fails (not_fails_ok _)
        · rintro (fails | faults)
          · exact absurd fails quiet
          · exact absurd faults.clean dirty
      · constructor
        · rintro ⟨repairs, returned⟩
          cases returned
        · intro admits
          exact absurd admits.clean dirty
    | nil =>
      have clean : Clean env fileContract content := searched.2.mp rfl
      by_cases complete : Structured env fileContract content
      · have isComplete := shape.mpr complete
        rw [if_neg (by simp), if_pos isComplete]
        constructor
        · constructor
          · intro fails
            exact absurd fails (not_fails_ok _)
          · rintro (fails | faults)
            · exact absurd fails quiet
            · exact absurd complete faults.unstructured
        · exact ⟨fun _ => ⟨clean, .inl complete⟩, fun _ => ⟨[], rfl⟩⟩
      · have incomplete := mt shape.mp complete
        rw [if_neg (by simp), if_neg incomplete]
        by_cases allowed : RepairAllowed fileContract
        · have may : ¬ (!(fileContract.get "allow_safe_structural_repair").truthy) = true := by
            rw [allowed]
            decide
          have repair := repairFile_cases env fileContract path location content files
          rw [if_neg may, repair.1, repair.2]
          constructor
          · constructor
            · exact fun fault => .inr ⟨clean, complete, allowed, fault⟩
            · rintro (fails | faults)
              · exact absurd fails quiet
              · exact faults.fault
          · constructor
            · exact fun repaired => ⟨clean, .inr ⟨allowed, repaired.1, repaired.2⟩⟩
            · rintro ⟨_, structured | repairs⟩
              · exact absurd structured complete
              · exact ⟨repairs.written, repairs.repaired⟩
        · have refused : (!(fileContract.get "allow_safe_structural_repair").truthy) = true := by
            rw [Bool.not_eq_true', ← Bool.not_eq_true]
            exact allowed
          rw [if_pos refused]
          constructor
          · constructor
            · intro fails
              exact absurd fails (not_fails_ok _)
            · rintro (fails | faults)
              · exact absurd fails quiet
              · exact absurd faults.allowed allowed
          · constructor
            · rintro ⟨repairs, returned⟩
              cases returned
            · rintro ⟨_, structured | repairs⟩
              · exact absurd structured complete
              · exact absurd repairs.allowed allowed

end

theorem readText_of_absent {files : Files} {location : String} (absent : files.lookup location = none) :
    readText files location = .error .osError := by
  unfold readText
  rw [absent]

variable (env : GateEnvironment)

theorem enforceFileContract_cases (fileContract : Dict) (files : Files) :
    (Fails (enforceFileContract env fileContract files).2 ↔ Faults env fileContract files) ∧
    ((∃ repairs, (enforceFileContract env fileContract files).2 = .ok { repairs := repairs }) ↔
      Admits env fileContract files) := by
  unfold enforceFileContract Faults Admits contractLocation
  cases named : nonEmpty (fileContract.get "path").text? with
  | none => simp [Fails, pure]
  | some path =>
    rw [Option.bind_some]
    dsimp only
    cases resolved : env.checkout.resolve path with
    | none => simp [Fails, pure]
    | some location =>
      dsimp only
      rw [Journal.read_bind_apply]
      by_cases there : (files.lookup location).isSome = true ∨
          isDirectory env.directories files location = true
      · have found : ¬ ((files.lookup location).isNone &&
            !isDirectory env.directories files location) = true := by
          rw [Bool.and_eq_true, Option.isNone_iff_eq_none, Bool.not_eq_true', not_and_or]
          rcases there with file | directory
          · exact .inl (Option.isSome_iff_ne_none.mp file)
          · exact .inr (by simp [directory])
        rw [if_neg found]
        cases content : readText files location with
        | error error =>
          rw [Journal.ofExcept_bind_error rfl]
          constructor
          · exact ⟨fun _ => ⟨location, rfl, there, .inl ⟨error, content⟩⟩,
              fun _ => fails_error error⟩
          · constructor
            · rintro ⟨repairs, returned⟩
              cases returned
            · rintro ⟨place, text, same, read, _⟩
              cases same
              rw [content] at read
              cases read
        | ok text =>
          have verdict := enforceContent_cases env fileContract path location text files
          rw [Journal.ofExcept_bind_ok rfl, verdict.1, verdict.2]
          constructor
          · constructor
            · exact fun faults => ⟨location, rfl, there, .inr ⟨text, content, faults⟩⟩
            · rintro ⟨place, same, _, fails | ⟨other, read, faults⟩⟩
              · cases same
                rw [content] at fails
                exact absurd fails (not_fails_ok text)
              · cases same
                rw [content] at read
                cases read
                exact faults
          · constructor
            · exact fun admits => ⟨location, text, rfl, content, admits⟩
            · rintro ⟨place, other, same, read, admits⟩
              cases same
              rw [content] at read
              cases read
              exact admits
      · have missing : ((files.lookup location).isNone &&
            !isDirectory env.directories files location) = true := by
          rw [Bool.and_eq_true, Option.isNone_iff_eq_none, Bool.not_eq_true', ← Option.not_isSome_iff_eq_none,
            ← Bool.not_eq_true]
          exact not_or.mp there
        have absent : files.lookup location = none :=
          Option.isNone_iff_eq_none.mp (Bool.and_eq_true _ _ ▸ missing).1
        rw [if_pos missing]
        constructor
        · constructor
          · intro fails
            exact absurd fails (not_fails_ok _)
          · rintro ⟨place, same, present, _⟩
            cases same
            exact absurd present there
        · constructor
          · rintro ⟨repairs, returned⟩
            cases returned
          · rintro ⟨place, text, same, read, _⟩
            cases same
            rw [readText_of_absent absent] at read
            cases read

/-- Each contract with the workspace in which the gate takes it up. -/
def turns : List Dict → Files → List (Dict × Files)
  | [], _ => []
  | fileContract :: rest, files =>
    (fileContract, files) :: turns rest (applyAll files (enforceFileContract env fileContract files).1)

theorem enforceFileContracts_cases (contracts : List Dict) (files : Files) :
    (Fails (enforceFileContracts env contracts files).2 ↔
      ∃ turn ∈ turns env contracts files, Faults env turn.1 turn.2) ∧
    ((∃ repairs, (enforceFileContracts env contracts files).2 = .ok { repairs := repairs }) ↔
      ∀ turn ∈ turns env contracts files, Admits env turn.1 turn.2) := by
  induction contracts generalizing files with
  | nil =>
    unfold enforceFileContracts turns
    constructor
    · constructor
      · intro fails
        exact absurd fails (not_fails_ok _)
      · rintro ⟨turn, member, _⟩
        cases member
    · constructor
      · intro _ turn member
        cases member
      · exact fun _ => ⟨[], rfl⟩
  | cons fileContract rest ih =>
    have here := enforceFileContract_cases env fileContract files
    unfold enforceFileContracts turns
    rw [List.exists_mem_cons_iff, List.forall_mem_cons]
    rcases ended : enforceFileContract env fileContract files with ⟨updates, error | findings⟩
    · rw [ended] at here
      rw [Journal.bind_apply_error ended]
      constructor
      · exact ⟨fun fails => .inl (here.1.mp fails), fun _ => fails_error error⟩
      · constructor
        · rintro ⟨repairs, returned⟩
          cases returned
        · rintro ⟨admits, _⟩
          obtain ⟨repairs, returned⟩ := here.2.mpr admits
          cases returned
    · rw [ended] at here
      rw [Journal.bind_apply_ok ended]
      have sound : ¬ Faults env fileContract files := mt here.1.mpr (not_fails_ok findings)
      have later := ih (applyAll files updates)
      dsimp only
      rcases more : enforceFileContracts env rest (applyAll files updates) with ⟨made, error | others⟩
      · rw [more] at later
        rw [Journal.bind_apply_error more]
        constructor
        · exact ⟨fun fails => .inr (later.1.mp fails), fun _ => fails_error error⟩
        · constructor
          · rintro ⟨repairs, returned⟩
            cases returned
          · rintro ⟨_, admits⟩
            obtain ⟨repairs, returned⟩ := later.2.mpr admits
            cases returned
      · rw [more] at later
        rw [Journal.bind_apply_ok more]
        constructor
        · constructor
          · intro fails
            exact absurd fails (not_fails_ok _)
          · rintro (faults | faults)
            · exact absurd faults sound
            · exact absurd (later.1.mpr faults) (not_fails_ok others)
        · rw [← here.2, ← later.2]
          constructor
          · rintro ⟨repairs, returned⟩
            have issues : findings.issues ++ others.issues = [] :=
              congrArg ContractFindings.issues (Except.ok.inj returned)
            obtain ⟨first, second⟩ := List.append_eq_nil_iff.mp issues
            obtain ⟨firstIssues, firstRepairs⟩ := findings
            obtain ⟨secondIssues, secondRepairs⟩ := others
            cases first
            cases second
            exact ⟨⟨firstRepairs, rfl⟩, ⟨secondRepairs, rfl⟩⟩
          · rintro ⟨⟨firstRepairs, first⟩, ⟨secondRepairs, second⟩⟩
            cases first
            cases second
            exact ⟨firstRepairs ++ secondRepairs, rfl⟩

end Lucius.Router
