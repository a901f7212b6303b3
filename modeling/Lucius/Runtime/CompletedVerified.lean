import Lucius.Runtime.Loop
import Lucius.Runtime.SchemaGate

/-! A completed execution is a verified one.

A provider's claim of completion is judged by the gates of verification, of the
schema and of quality. It comes out completed when all three let it through, and failed
when one is against it; where a gate cannot read what the provider has left, it raises,
and the loop makes a failed result of that. -/

namespace Lucius.Router

open Worktree Updates Lucius.Action

/-- The file contracts of a request. -/
def contractsOf (request : RuntimeExecutionRequest) : List Dict :=
  fileContracts (schemaContract request.contextLimits)

section

theorem elementReferenceFields_append (path : String) (index : Nat) (front back : List Json) :
    elementReferenceFields path index (front ++ back) =
      elementReferenceFields path index front ++
        elementReferenceFields path (index + front.length) back := by
  induction front generalizing index with
  | nil => rfl
  | cons item rest ih =>
    rw [List.cons_append, elementReferenceFields, elementReferenceFields, ih, List.append_assoc,
      List.length_cons, Nat.add_comm rest.length, ← Nat.add_assoc]

/-- No field of the value names evidence. -/
def Unreferenced (value : Json) : Prop := ∀ path, evidenceReferenceFields path value = []

theorem unreferenced_elements {elements : List Json} (free : ∀ item ∈ elements, Unreferenced item) :
    Unreferenced (.arr elements) := by
  intro path
  unfold evidenceReferenceFields
  generalize 0 = index
  induction elements generalizing index with
  | nil => rfl
  | cons item rest ih =>
    unfold elementReferenceFields
    rw [free item List.mem_cons_self, List.nil_append]
    exact ih (fun other member => free other (List.mem_cons_of_mem _ member)) (index + 1)

theorem unreferenced_texts (texts : List String) : Unreferenced (Json.ofTexts texts) := by
  apply unreferenced_elements
  intro item member
  obtain ⟨text, _, rfl⟩ := List.mem_map.mp member
  intro path
  rfl

/-- The key names no evidence. -/
def OtherKey (key : String) : Prop :=
  ¬ (lower key = "evidence_reference" ∨ lower key = "evidence_references")

instance (key : String) : Decidable (OtherKey key) := inferInstanceAs (Decidable (¬ _))

theorem unreferenced_members {members : List (String × Json)}
    (free : ∀ member ∈ members, OtherKey member.1 ∧ Unreferenced member.2) :
    Unreferenced (.obj members) := by
  intro path
  unfold evidenceReferenceFields
  induction members with
  | nil => rfl
  | cons member rest ih =>
    obtain ⟨key, item⟩ := member
    have here := free (key, item) List.mem_cons_self
    unfold memberReferenceFields
    dsimp only
    rw [if_neg here.1, here.2, ih (fun other inside => free other (List.mem_cons_of_mem _ inside))]
    rfl

theorem unreferenced_structureIssue (path reason : String) (sections labels : List String) :
    Unreferenced (.obj (structureIssue path reason sections labels)) := by
  apply unreferenced_members
  unfold structureIssue
  simp only [List.forall_mem_cons]
  refine ⟨⟨by decide, fun _ => rfl⟩, ⟨by decide, fun _ => rfl⟩,
    ⟨by decide, unreferenced_texts sections⟩, ⟨by decide, unreferenced_texts labels⟩, ?_⟩
  intro member inside
  cases inside

/-- The repairs name no evidence. -/
def PlainRepairs (findings : ContractFindings) : Prop :=
  ∀ repair ∈ findings.repairs, Unreferenced (.obj repair)

variable {env : GateEnvironment}

theorem verifyRepaired_repairs {fileContract : Dict} {path location : String} {repairs : List Dict}
    {files : Files} {updates : List FileUpdate} {findings : ContractFindings}
    (done : verifyRepaired env fileContract path location repairs files = (updates, .ok findings)) :
    findings.repairs = repairs := by
  obtain ⟨_, current, _, _, read, _⟩ := Journal.bind_ok done
  obtain ⟨content, _, judged⟩ := Journal.bind_ofExcept_ok read
  change (if _ then _ else _ : GateWork ContractFindings) _ = _ at judged
  split at judged
  · cases judged
    rfl
  · cases judged
    rfl

theorem enforceContent_plain {fileContract : Dict} {path location : String} {content : Text}
    {files : Files} {updates : List FileUpdate} {findings : ContractFindings}
    (done : enforceContent env fileContract path location content files = (updates, .ok findings)) :
    PlainRepairs findings := by
  have without : ∀ issues, PlainRepairs { issues := issues } := by
    intro issues repair member
    cases member
  obtain ⟨unsafeIssues, _, judged⟩ := Journal.bind_ofExcept_ok done
  change (if _ then _ else if _ then _ else if _ then _ else _ : GateWork ContractFindings) _ = _
    at judged
  split at judged
  · cases judged
    exact without _
  · split at judged
    · cases judged
      exact without []
    · split at judged
      · cases judged
        exact without _
      · obtain ⟨_, _, _, _, verified, _⟩ := Journal.bind_ok judged
        intro repair member
        rw [verifyRepaired_repairs verified, List.mem_singleton] at member
        rw [member]
        exact unreferenced_structureIssue _ _ _ _

theorem enforceFileContract_plain {fileContract : Dict} {files : Files} {updates : List FileUpdate}
    {findings : ContractFindings}
    (done : enforceFileContract env fileContract files = (updates, .ok findings)) :
    PlainRepairs findings := by
  have without : ∀ issues, PlainRepairs { issues := issues } := by
    intro issues repair member
    cases member
  unfold enforceFileContract at done
  cases named : nonEmpty (fileContract.get "path").text? with
  | none =>
    rw [named] at done
    cases done
    exact without _
  | some path =>
    rw [named] at done
    dsimp only at done
    cases resolved : env.checkout.resolve path with
    | none =>
      rw [resolved] at done
      cases done
      exact without _
    | some location =>
      rw [resolved] at done
      obtain ⟨_, current, _, _, read, _⟩ := Journal.bind_ok done
      split at read
      · cases read
        exact without _
      · obtain ⟨content, _, judged⟩ := Journal.bind_ofExcept_ok read
        exact enforceContent_plain judged

theorem enforceFileContracts_plain {contracts : List Dict} {files : Files} {updates : List FileUpdate}
    {findings : ContractFindings}
    (done : enforceFileContracts env contracts files = (updates, .ok findings)) :
    PlainRepairs findings := by
  induction contracts generalizing files updates findings with
  | nil =>
    cases done
    intro repair member
    cases member
  | cons fileContract rest ih =>
    obtain ⟨_, here, _, first, gathered, _⟩ := Journal.bind_ok done
    obtain ⟨_, later, _, others, ended, _⟩ := Journal.bind_ok gathered
    cases ended
    intro repair member
    rcases List.mem_append.mp member with one | other
    · exact enforceFileContract_plain first repair one
    · exact ih others repair other

/-- The evidence of a repair. -/
def repairEvidence (repairs : List Dict) : Dict :=
  [("type", .str "schema_constrained_structural_repair"), ("repairs", objects repairs),
    ("semantic_repair", .bool false)]

theorem unreferenced_repairEvidence {repairs : List Dict}
    (plain : ∀ repair ∈ repairs, Unreferenced (.obj repair)) :
    Unreferenced (.obj (repairEvidence repairs)) := by
  have listed : Unreferenced (objects repairs) := by
    apply unreferenced_elements
    intro item member
    obtain ⟨repair, inside, rfl⟩ := List.mem_map.mp member
    exact plain repair inside
  apply unreferenced_members
  unfold repairEvidence
  simp only [List.forall_mem_cons]
  refine ⟨⟨by decide, fun _ => rfl⟩, ⟨by decide, listed⟩, ⟨by decide, fun _ => rfl⟩, ?_⟩
  intro member inside
  cases inside

theorem quality_schemaPassed (request : RuntimeExecutionRequest) (result : RuntimeExecutionResult)
    {repairs : List Dict} (plain : ∀ repair ∈ repairs, Unreferenced (.obj repair)) (files : Files) :
    evidenceSensitiveProviderQualityIssues env request (schemaPassed result repairs) files =
      evidenceSensitiveProviderQualityIssues env request result files := by
  unfold schemaPassed
  split
  · rfl
  · have paths : writtenPaths { result with evidence := result.evidence ++ [repairEvidence repairs] } =
        writtenPaths result := by
      unfold writtenPaths
      simp only [← List.append_assoc, List.flatMap_append]
      congr 1
      exact List.append_nil _
    have fields : ∀ path, evidenceReferenceFields path
        (objects (result.evidence ++ [repairEvidence repairs])) =
          evidenceReferenceFields path (objects result.evidence) := by
      intro path
      unfold objects evidenceReferenceFields
      rw [List.map_append, elementReferenceFields_append]
      simp only [List.map_cons, List.map_nil, elementReferenceFields,
        unreferenced_repairEvidence plain _, List.append_nil]
    have claims : (result.evidence ++ [repairEvidence repairs]).filter unsupportedClaim =
        result.evidence.filter unsupportedClaim := by
      rw [List.filter_append]
      exact List.append_nil _
    have payload : ∀ allowed required, evidenceReferenceIssuesFromPayload
        { result with evidence := result.evidence ++ [repairEvidence repairs] } allowed required =
          evidenceReferenceIssuesFromPayload result allowed required := by
      intro allowed required
      have other : ¬ (lower "evidence" = "evidence_reference" ∨
          lower "evidence" = "evidence_references") := by decide
      unfold evidenceReferenceIssuesFromPayload payloadFields
      simp only [evidenceReferenceFields, memberReferenceFields, if_neg other, fields, claims]
    unfold evidenceSensitiveProviderQualityIssues
    simp only [← paths, ← payload]
    rfl

end

/-- A written text file that cannot be read. -/
def Unreadable (env : GateEnvironment) (files : Files) (path : String) : Prop :=
  ∃ location, env.checkout.resolve path = some location ∧ isTextPath path = true ∧
    ((files.lookup location).isSome = true ∨ isDirectory env.directories files location = true) ∧
    Fails (readText files location)

theorem writtenFileIssues_fails_iff (env : GateEnvironment) (allowed : List String) (required : Bool)
    (files : Files) (paths : List String) :
    Fails (writtenFileIssues env allowed required files paths) ↔
      ∃ path ∈ paths, Unreadable env files path := by
  induction paths with
  | nil => simp [writtenFileIssues, Fails]
  | cons path rest ih =>
    have here : Unreadable env files path ↔ ∃ location, (env.checkout.resolve path).filter
        (fun location => isTextPath path && ((files.lookup location).isSome ||
          isDirectory env.directories files location)) = some location ∧
        Fails (readText files location) := by
      unfold Unreadable
      simp only [Option.filter_eq_some_iff, Bool.and_eq_true, Bool.or_eq_true, and_assoc]
    unfold writtenFileIssues
    rw [List.exists_mem_cons_iff, here]
    cases found : (env.checkout.resolve path).filter (fun location => isTextPath path &&
        ((files.lookup location).isSome || isDirectory env.directories files location)) with
    | none =>
      cases later : writtenFileIssues env allowed required files rest with
      | error error =>
        rw [later] at ih
        exact ⟨fun _ => .inr (ih.mp (fails_error error)), fun _ => fails_error error⟩
      | ok issues =>
        rw [later] at ih
        constructor
        · intro fails
          exact absurd fails (not_fails_ok _)
        · rintro (⟨location, same, _⟩ | fails)
          · cases same
          · exact absurd (ih.mpr fails) (not_fails_ok issues)
    | some location =>
      cases content : readText files location with
      | error error =>
        constructor
        · exact fun _ => .inl ⟨location, rfl, ⟨error, content⟩⟩
        · intro _
          simp only [content, bind, Except.bind]
          exact fails_error error
      | ok text =>
        simp only [content, bind, Except.bind, pure, Except.pure]
        cases later : writtenFileIssues env allowed required files rest with
        | error error =>
          rw [later] at ih
          exact ⟨fun _ => .inr (ih.mp (fails_error error)), fun _ => fails_error error⟩
        | ok issues =>
          rw [later] at ih
          constructor
          · intro fails
            exact absurd fails (not_fails_ok _)
          · rintro (⟨place, same, fails⟩ | fails)
            · cases same
              exact absurd fails (content ▸ not_fails_ok text)
            · exact absurd (ih.mpr fails) (not_fails_ok issues)

theorem quality_fails_iff (env : GateEnvironment) (request : RuntimeExecutionRequest)
    (result : RuntimeExecutionResult) (files : Files) :
    Fails (evidenceSensitiveProviderQualityIssues env request result files) ↔
      isEvidenceSensitive request = true ∧ ∃ path ∈ writtenPaths result, Unreadable env files path := by
  unfold evidenceSensitiveProviderQualityIssues
  dsimp only
  rw [← writtenFileIssues_fails_iff env (allowedEvidenceRefs request)
    (request.contextLimits.get "evidence_reference_validation_required").truthy]
  cases sensitive : isEvidenceSensitive request with
  | false =>
    constructor
    · intro fails
      simp only [Bool.not_false, Bool.true_and, if_true] at fails
      split at fails
      · exact absurd fails (not_fails_ok _)
      · exact absurd fails (not_fails_ok _)
    · rintro ⟨same, _⟩
      cases same
  | true =>
    simp only [Bool.not_true, Bool.false_and, Bool.false_eq_true, if_false, true_and]
    cases writtenFileIssues env (allowedEvidenceRefs request)
        (request.contextLimits.get "evidence_reference_validation_required").truthy files
        (writtenPaths result) with
    | error error => exact ⟨fun _ => fails_error error, fun _ => fails_error error⟩
    | ok issues =>
      constructor
      · intro fails
        exact absurd fails (not_fails_ok _)
      · intro fails
        exact absurd fails (not_fails_ok _)

/-- The provider's answer is a claim of completion. -/
structure Claims (invocation : Invocation) (answer : RuntimeExecutionResult) : Prop where
  answered : invocation.call.2 = .ok answer
  completed : answer.status = .completed

/-- The contracts of a call, each with the workspace in which the gate takes it up. -/
def Invocation.turns (env : GateEnvironment) (invocation : Invocation) : List (Dict × Files) :=
  Router.turns env (contractsOf invocation.request) invocation.left

/-- The workspace as the gates leave it. -/
def Invocation.repaired (env : GateEnvironment) (invocation : Invocation) : Files :=
  applyAll invocation.left (invocation.repairs env)

theorem contractsOf_of_unconstrained {request : RuntimeExecutionRequest}
    (none : (schemaContract request.contextLimits).isEmpty = true) : contractsOf request = [] := by
  rw [contractsOf, List.isEmpty_iff.mp none]
  rfl

theorem schemaPassed_status (result : RuntimeExecutionResult) (repairs : List Dict) :
    (schemaPassed result repairs).status = result.status := by
  unfold schemaPassed
  split <;> rfl

section

variable {env : GateEnvironment} {request : RuntimeExecutionRequest} {result : RuntimeExecutionResult}
  {files : Files}

/-- The three ends of the schema gate: it raises where a turn faults, passes the result on
where each turn admits its contract, and fails it otherwise. -/
inductive SchemaEnd (env : GateEnvironment) (request : RuntimeExecutionRequest)
    (result : RuntimeExecutionResult) (files : Files) : Except PyExc RuntimeExecutionResult → Prop
  | raised {error : PyExc} (faults : ∃ turn ∈ turns env (contractsOf request) files,
      Faults env turn.1 turn.2) : SchemaEnd env request result files (.error error)
  | failed {verdict : RuntimeExecutionResult}
      (sound : ∀ turn ∈ turns env (contractsOf request) files, ¬ Faults env turn.1 turn.2)
      (refused : ¬ ∀ turn ∈ turns env (contractsOf request) files, Admits env turn.1 turn.2)
      (status : verdict.status = .failed) :
      SchemaEnd env request result files (.ok verdict)
  | passed {verdict : RuntimeExecutionResult}
      (sound : ∀ turn ∈ turns env (contractsOf request) files, ¬ Faults env turn.1 turn.2)
      (admits : ∀ turn ∈ turns env (contractsOf request) files, Admits env turn.1 turn.2)
      (status : verdict.status = .completed)
      (quality : ∀ contents, evidenceSensitiveProviderQualityIssues env request verdict contents =
        evidenceSensitiveProviderQualityIssues env request result contents) :
      SchemaEnd env request result files (.ok verdict)

theorem enforceSchema_end (completed : result.status = .completed) :
    SchemaEnd env request result files (enforceSchemaConstrainedOutput env request result files).2 := by
  unfold enforceSchemaConstrainedOutput
  rw [if_neg (not_not.mpr completed)]
  by_cases unconstrained : (schemaContract request.contextLimits).isEmpty = true
  · have idle : turns env (contractsOf request) files = [] := by
      rw [contractsOf_of_unconstrained unconstrained]
      rfl
    rw [if_pos unconstrained]
    apply SchemaEnd.passed
    · rw [idle]
      intro turn member
      cases member
    · rw [idle]
      intro turn member
      cases member
    · exact completed
    · exact fun _ => rfl
  · rw [if_neg unconstrained]
    have outcome := enforceFileContracts_cases env (contractsOf request) files
    unfold contractsOf at outcome
    rcases ended : enforceFileContracts env (fileContracts (schemaContract request.contextLimits)) files
      with ⟨updates, error | findings⟩
    · rw [ended] at outcome
      rw [Journal.bind_apply_error ended]
      exact .raised (outcome.1.mp (fails_error error))
    · rw [ended] at outcome
      have sound : ∀ turn ∈ turns env (contractsOf request) files, ¬ Faults env turn.1 turn.2 :=
        fun turn member faults => not_fails_ok findings (outcome.1.mpr ⟨turn, member, faults⟩)
      rw [Journal.bind_apply_ok ended]
      dsimp only
      cases issues : findings.issues with
      | nil =>
        have passes : (Except.ok findings : Except PyExc ContractFindings) =
            .ok { repairs := findings.repairs } := by
          rw [← issues]
        apply SchemaEnd.passed sound (outcome.2.mp ⟨findings.repairs, passes⟩)
        · rw [schemaPassed_status, completed]
        · exact fun contents => quality_schemaPassed request result (enforceFileContracts_plain ended)
            contents
      | cons issue rest =>
        apply SchemaEnd.failed sound
        · intro admits
          obtain ⟨repairs, returned⟩ := outcome.2.mpr admits
          have none := congrArg ContractFindings.issues (Except.ok.inj returned)
          rw [issues] at none
          cases none
        · rfl

theorem enforceQuality_completed (completed : result.status = .completed) :
    (enforceQuality env request result files).2 =
      (evidenceSensitiveProviderQualityIssues env request result files >>= fun issues =>
        .ok (if issues.isEmpty then result else unsupportedClaims result issues)) := by
  unfold enforceQuality
  rw [if_neg (not_not.mpr completed), Journal.read_bind_apply]
  cases issues : evidenceSensitiveProviderQualityIssues env request result files with
  | error error => rw [Journal.ofExcept_bind_error rfl]; rfl
  | ok found =>
    rw [Journal.ofExcept_bind_ok rfl]
    cases found with
    | nil => rfl
    | cons issue rest => rfl

end

section

variable {env : GateEnvironment}

/-- No update is of this kind. -/
def NoUpdate (_ : FileUpdate) : Prop := False

theorem enforceFileContract_unrepaired {fileContract : Dict} (none : ¬ RepairAllowed fileContract) :
    Journal.Writes NoUpdate (enforceFileContract env fileContract) := by
  unfold enforceFileContract
  cases nonEmpty (fileContract.get "path").text? with
  | none => exact Journal.writes_pure _
  | some path =>
    dsimp only
    cases env.checkout.resolve path with
    | none => exact Journal.writes_pure _
    | some location =>
      apply Journal.writes_read_bind
      intro files
      split
      · exact Journal.writes_pure _
      · have reads : Journal.Writes NoUpdate
            (Journal.ofExcept (readText files location) : GateWork Text) := Journal.writes_ofExcept _
        apply Journal.writes_bind reads
        intro _ _ content _
        have searches : Journal.Writes NoUpdate (Journal.ofExcept (unsafeContentIssues env path content
            (stringList (fileContract.get "forbidden_patterns"))) : GateWork (List Dict)) :=
          Journal.writes_ofExcept _
        apply Journal.writes_bind searches
        intro _ _ unsafeIssues _
        have refused : (!(fileContract.get "allow_safe_structural_repair").truthy) = true := by
          rw [Bool.not_eq_true', ← Bool.not_eq_true]
          exact none
        change Journal.Writes NoUpdate (if _ then _ else if _ then _ else if _ then _ else _)
        rw [if_pos refused]
        split
        · exact Journal.writes_pure _
        · split
          · exact Journal.writes_pure _
          · exact Journal.writes_pure _

theorem no_updates {work : GateWork ContractFindings} (idle : Journal.Writes NoUpdate work)
    (files : Files) : (work files).1 = [] := by
  apply List.eq_nil_iff_forall_not_mem.mpr
  intro update member
  exact idle files update member

theorem turns_unrepaired {contracts : List Dict}
    (none : ∀ fileContract ∈ contracts, ¬ RepairAllowed fileContract) (files : Files) :
    turns env contracts files = contracts.map (fun fileContract => (fileContract, files)) := by
  induction contracts with
  | nil => rfl
  | cons fileContract rest ih =>
    have unrepaired := @enforceFileContract_unrepaired env fileContract
      (none fileContract List.mem_cons_self)
    have here := no_updates unrepaired files
    unfold turns
    rw [here, applyAll_nil, ih (fun other member => none other (List.mem_cons_of_mem _ member)),
      List.map_cons]

theorem enforceFileContracts_unrepaired {contracts : List Dict}
    (none : ∀ fileContract ∈ contracts, ¬ RepairAllowed fileContract) :
    Journal.Writes NoUpdate (enforceFileContracts env contracts) := by
  induction contracts with
  | nil => exact Journal.writes_pure _
  | cons fileContract rest ih =>
    unfold enforceFileContracts
    apply Journal.writes_bind (enforceFileContract_unrepaired (none fileContract List.mem_cons_self))
    intro _ _ here _
    apply Journal.writes_bind (ih (fun other member => none other (List.mem_cons_of_mem _ member)))
    intro _ _ later _
    exact Journal.writes_pure _

theorem Invocation.repaired_unrepaired {invocation : Invocation}
    (none : ∀ fileContract ∈ contractsOf invocation.request, ¬ RepairAllowed fileContract) :
    invocation.repaired env = invocation.left := by
  have idle : invocation.repairs env = [] := by
    apply List.eq_nil_iff_forall_not_mem.mpr
    have writes : Journal.Writes NoUpdate
        (enforceSchemaConstrainedOutput env invocation.request invocation.result) := by
      unfold enforceSchemaConstrainedOutput
      split
      · exact Journal.writes_pure _
      · split
        · exact Journal.writes_pure _
        · apply Journal.writes_bind (enforceFileContracts_unrepaired none)
          intro _ _ findings _
          split
          · exact Journal.writes_pure _
          · exact Journal.writes_pure _
    intro update member
    exact writes invocation.left update member
  rw [Invocation.repaired, idle, applyAll_nil]

theorem unrepaired_meets {invocation : Invocation} {fileContract : Dict}
    (none : ∀ fileContract ∈ contractsOf invocation.request, ¬ RepairAllowed fileContract)
    (admits : ∀ turn ∈ invocation.turns env, Admits env turn.1 turn.2)
    (member : fileContract ∈ contractsOf invocation.request) :
    FileMeets env fileContract (invocation.repaired env) := by
  unfold Invocation.turns at admits
  rw [turns_unrepaired none] at admits
  rw [Invocation.repaired_unrepaired none]
  obtain ⟨location, content, located, read, clean, structured | repairs⟩ :=
    admits (fileContract, invocation.left) (List.mem_map_of_mem member)
  · exact ⟨location, content, located, read, clean, structured⟩
  · exact absurd repairs.allowed (none fileContract member)

end

section

variable {env : GateEnvironment} {invocation : Invocation} {answer : RuntimeExecutionResult}

theorem Claims.result (claims : Claims invocation answer) :
    invocation.result = routed invocation.request invocation.failoverFrom answer :=
  result_of_answered claims.answered

/-- How a claim comes out. -/
inductive ClaimEnd (env : GateEnvironment) (invocation : Invocation) (answer : RuntimeExecutionResult) :
    Except PyExc RuntimeExecutionResult → Prop
  | raised {error : PyExc} (carried : answer.verification ≠ [])
      (faults : (∃ turn ∈ invocation.turns env, Faults env turn.1 turn.2) ∨
        ((∀ turn ∈ invocation.turns env, Admits env turn.1 turn.2) ∧
          isEvidenceSensitive invocation.request = true ∧
          ∃ path ∈ writtenPaths answer, Unreadable env (invocation.repaired env) path)) :
      ClaimEnd env invocation answer (.error error)
  | failed {verdict : RuntimeExecutionResult}
      (sound : answer.verification ≠ [] → ∀ turn ∈ invocation.turns env, ¬ Faults env turn.1 turn.2)
      (refused : answer.verification ≠ [] → (∀ turn ∈ invocation.turns env, Admits env turn.1 turn.2) →
        ∃ issues, evidenceSensitiveProviderQualityIssues env invocation.request answer
          (invocation.repaired env) = .ok issues ∧ issues ≠ [])
      (status : verdict.status = .failed) :
      ClaimEnd env invocation answer (.ok verdict)
  | completed {verdict : RuntimeExecutionResult} (carried : answer.verification ≠ [])
      (sound : ∀ turn ∈ invocation.turns env, ¬ Faults env turn.1 turn.2)
      (admits : ∀ turn ∈ invocation.turns env, Admits env turn.1 turn.2)
      (quality : evidenceSensitiveProviderQualityIssues env invocation.request answer
        (invocation.repaired env) = .ok [])
      (status : verdict.status = .completed) :
      ClaimEnd env invocation answer (.ok verdict)

theorem judged_end (claims : Claims invocation answer) :
    ClaimEnd env invocation answer (invocation.judged env invocation.found).2 := by
  have result := claims.result
  have completed : invocation.result.status = .completed := by
    rw [result]
    exact claims.completed
  have carries : invocation.result.verification = answer.verification := by rw [result]; rfl
  have sameQuality : ∀ contents, evidenceSensitiveProviderQualityIssues env invocation.request
      invocation.result contents = evidenceSensitiveProviderQualityIssues env invocation.request answer
        contents := by
    rw [result]
    exact fun _ => rfl
  unfold Invocation.judged
  rw [Journal.bind_apply_ok (Journal.made_apply _ _)]
  have afterCall : applyAll invocation.found invocation.call.1 = invocation.left := rfl
  rw [afterCall]
  dsimp only
  unfold enforceProviderResultContract
  by_cases empty : answer.verification = []
  · rw [if_pos ⟨completed, by rw [carries, empty]; rfl⟩]
    apply ClaimEnd.failed
    · exact fun carried => absurd empty carried
    · exact fun carried => absurd empty carried
    · rfl
  · have carried : ¬ (invocation.result.status = .completed ∧
        invocation.result.verification.isEmpty = true) := by
      rw [carries, List.isEmpty_iff]
      exact fun both => empty both.2
    rw [if_neg carried]
    have schema := @enforceSchema_end env invocation.request invocation.result invocation.left completed
    rcases ended : enforceSchemaConstrainedOutput env invocation.request invocation.result
      invocation.left with ⟨updates, error | enforced⟩
    · rw [ended] at schema
      rw [Journal.bind_apply_error ended]
      cases schema with
      | raised faults => exact .raised empty (.inl faults)
    · have repaired : applyAll invocation.left updates = invocation.repaired env := by
        rw [Invocation.repaired, Invocation.repairs, ended]
      rw [ended] at schema
      rw [Journal.bind_apply_ok ended, repaired]
      dsimp only
      cases schema with
      | failed sound refused status =>
        have other : enforced.status ≠ .completed := by
          rw [status]
          decide
        unfold enforceQuality
        rw [if_pos other]
        apply ClaimEnd.failed
        · exact fun _ => sound
        · exact fun _ admits => absurd admits refused
        · exact status
      | passed sound admits status quality =>
        rw [enforceQuality_completed status, quality, sameQuality]
        cases issues : evidenceSensitiveProviderQualityIssues env invocation.request answer
            (invocation.repaired env) with
        | error error =>
          have fails := (quality_fails_iff env invocation.request answer
            (invocation.repaired env)).mp ⟨error, issues⟩
          exact .raised empty (.inr ⟨admits, fails⟩)
        | ok found =>
          cases found with
          | nil => exact ClaimEnd.completed empty sound admits issues status
          | cons issue rest =>
            apply ClaimEnd.failed
            · exact fun _ => sound
            · intro _ _
              exact ⟨issue :: rest, issues, List.cons_ne_nil _ _⟩
            · rfl

/-- The answer carries a verification, the schema gate has nothing against any contract
of the request, and the output has no quality issue in the workspace that is left. Where no
repair is allowed, that workspace satisfies every contract. -/
structure Verified (env : GateEnvironment) (invocation : Invocation) (answer : RuntimeExecutionResult)
    (final : Files) : Prop where
  verification : answer.verification ≠ []
  schema : ∀ turn ∈ invocation.turns env, Admits env turn.1 turn.2
  unrepaired : (∀ fileContract ∈ contractsOf invocation.request, ¬ RepairAllowed fileContract) →
    ∀ fileContract ∈ contractsOf invocation.request, FileMeets env fileContract final
  quality : evidenceSensitiveProviderQualityIssues env invocation.request answer final = .ok []

theorem Calls.claims_last {files final : Files} {made : List Invocation}
    {outcome : Except PyExc RuntimeExecutionResult} (calls : Calls env files made outcome final)
    (member : invocation ∈ made) (claims : Claims invocation answer) :
    outcome = (invocation.judged env invocation.found).2 ∧
      final = applyAll invocation.found (invocation.judged env invocation.found).1 := by
  induction calls with
  | last found judged =>
    rw [List.mem_singleton] at member
    subst member
    rw [found, judged]
    exact ⟨rfl, rfl⟩
  | next found judged failed again later ih =>
    rcases List.mem_cons.mp member with here | inside
    · subst here
      have completed : invocation.result.status = .completed := by
        rw [claims.result]
        exact claims.completed
      have final := rejected_nonRetryable completed judged failed
      have never : ¬ (retryable .nonRetryable = true ∨ failoverable .nonRetryable = true) := by
        decide
      rw [final] at again
      exact absurd again never
    · exact ih inside

theorem Completes.final {verdict : RuntimeExecutionResult} (completes : Completes env invocation verdict) :
    applyAll invocation.found (invocation.judged env invocation.found).1 = invocation.repaired env := by
  rw [completes.updates, applyAll_append]
  rfl

theorem Completes.verified {verdict : RuntimeExecutionResult} (completes : Completes env invocation verdict)
    (claims : Claims invocation answer) : Verified env invocation answer
      (applyAll invocation.found (invocation.judged env invocation.found).1) := by
  have ended := @judged_end env _ _ claims
  rw [completes.judged] at ended
  rw [completes.final]
  cases ended with
  | failed sound refused status =>
    have completed := completes.completed
    rw [status] at completed
    cases completed
  | completed carried sound admits quality status =>
    refine ⟨carried, admits, ?_, quality⟩
    intro none fileContract member
    exact unrepaired_meets none admits member

end

/-- What the router returns as completed is a claim that is verified; what the loop gets of
any other claim is a failed result. -/
structure CompletedMeansVerified (service : Runtime.ExecutionRuntimeLoopService)
    (context : RuntimeExecutionContext) (state : Runtime.LoopState)
    (ended : Except PyExc ExecutionAdapterResult × RouterState) : Prop where
  completed : ∀ result, ended.1 = .ok result → result.outcome = .completed →
    ∃ invocation ∈ ended.2.invocations, ∃ answer, Claims invocation answer ∧
      Verified (service.router context.worktreePath).gates invocation answer ended.2.files
  others : ∀ invocation ∈ ended.2.invocations, ∀ answer, Claims invocation answer →
    ¬ Verified (service.router context.worktreePath).gates invocation answer ended.2.files →
      ∃ result, (exec (Runtime.executeRouterFailClosed service context) state).1 = .ok result ∧
        result.outcome = .failed

theorem executeRouterFailClosed_result (service : Runtime.ExecutionRuntimeLoopService)
    (context : RuntimeExecutionContext) (state : Runtime.LoopState) :
    (exec (Runtime.executeRouterFailClosed service context) state).1 =
      .ok (match (Runtime.routed (service.router context.worktreePath) context state).1 with
        | .ok result => result
        | .error _ => Runtime.routerException) := rfl

end Lucius.Router
