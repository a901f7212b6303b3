import Lucius.Lib.Flow
import Lucius.Learning.Service

/-! Whether knowledge of a client reaches a global memory.

Memories and candidates carry knowledge on: a candidate from its source memories, a
memory from the candidate it was promoted from. What a sanitized candidate passes on is no
longer the client's. -/

namespace Lucius.Learning

open Lucius.Action Memory

variable {store after : Store} {targetScope : KnowledgeScope} {actor : Actor} {candidateId : String}

inductive Knowledge where
  | memory (id : String)
  | candidate (id : String)
  deriving DecidableEq

def evidenceOfClient (tables : Tables) (evidenceId : String) : Bool :=
  (tables.evidence.get? evidenceId).any (fun evidence => isClient tables (some evidence.projectId))

def memoryOfClient (tables : Tables) (row : MemoryEntryRow) : Bool :=
  isClient tables row.projectId || isClient tables row.sourceProjectId ||
    row.sourceEvidenceIds.any (evidenceOfClient tables)

def candidateOfClient (tables : Tables) (row : LearningCandidateRow) : Bool :=
  isClient tables row.projectId || row.evidenceIds.any (evidenceOfClient tables)

def isSanitized (tables : Tables) (candidateId : String) : Prop :=
  ∃ row, tables.learningCandidates.get? candidateId = some row ∧ row.sanitizationStatus = .sanitized

/-- A memory has the sanitization of the candidate it refers to. -/
def sanitizedMemory (tables : Tables) (row : MemoryEntryRow) : Prop :=
  ∃ candidateId, row.sourceReference = some candidateId ∧ isSanitized tables candidateId

def clientKnowledge (tables : Tables) : Flow Knowledge where
  source
    | .memory id => ∃ row, tables.memories.get? id = some row ∧ memoryOfClient tables row = true
    | .candidate id =>
      ∃ row, tables.learningCandidates.get? id = some row ∧ candidateOfClient tables row = true
  clear
    | .memory id => ∃ row, tables.memories.get? id = some row ∧ sanitizedMemory tables row
    | .candidate id => isSanitized tables id
  feeds earlier
    | .memory id => ∃ row, tables.memories.get? id = some row ∧
        ∃ candidateId, row.sourceReference = some candidateId ∧ earlier = .candidate candidateId
    | .candidate id => ∃ row, tables.learningCandidates.get? id = some row ∧
        ∃ memoryId ∈ row.sourceMemoryIds, earlier = .memory memoryId

def OfClient (tables : Tables) (knowledge : Knowledge) : Prop :=
  (clientKnowledge tables).Reaches knowledge

/-- The knowledge is a client's, and not sanitized. -/
def Exposed (tables : Tables) (knowledge : Knowledge) : Prop :=
  OfClient tables knowledge ∧ ¬ (clientKnowledge tables).clear knowledge

/-- A global memory is created that exposes a client. -/
structure Leaked (before after : Tables) (row : MemoryEntryRow) : Prop where
  created : before.memories.get? row.id = none
  present : after.memories.get? row.id = some row
  scope : row.scope = .global
  exposed : Exposed after (.memory row.id)

inductive KnowledgeOperation where
  | createMemory (request : MemoryRequest)
  | validateMemory (memoryId : String)
  | createCandidate (request : CandidateRequest)
  | validateCandidate (candidateId : String)
  | promoteCandidate (candidateId : String) (targetScope : KnowledgeScope) (actor : Actor)

def attempt : KnowledgeOperation → Op Unit
  | .createMemory request => do let _ ← Memory.createMemory request
  | .validateMemory memoryId => do let _ ← Memory.validateMemory memoryId
  | .createCandidate request => do let _ ← createCandidate request
  | .validateCandidate candidateId => do let _ ← validateCandidate candidateId
  | .promoteCandidate candidateId targetScope actor => do
      let _ ← promoteCandidate candidateId targetScope actor

/-- What an operation that raises has recorded stays. -/
def step (store : Store) (operation : KnowledgeOperation) : Store := (exec (attempt operation) store).2

/-- The references that no check of the firewall looks at name nothing of a client: for a
memory its source project, its evidence and the candidate it refers to; for a candidate
that is promoted its evidence and its source memories. -/
def NamesNoClient (store : Store) : KnowledgeOperation → Prop
  | .createMemory request =>
    request.scope = .global → ¬ sanitizedMemory store.toTables (request.row "") →
      isClient store.toTables request.sourceProjectId = false ∧
      request.sourceEvidenceIds.any (evidenceOfClient store.toTables) = false ∧
      ∀ candidateId, request.sourceReference = some candidateId →
        ¬ Exposed store.toTables (.candidate candidateId)
  | .promoteCandidate candidateId targetScope actor =>
    targetScope = .global → ∀ candidate,
      store.learningCandidates.get? candidateId = some candidate →
      promotionObstacle candidate targetScope actor = none →
      candidate.sanitizationStatus ≠ .sanitized →
        candidate.evidenceIds.any (evidenceOfClient store.toTables) = false ∧
        ∀ memoryId ∈ candidate.sourceMemoryIds, ¬ Exposed store.toTables (.memory memoryId)
  | _ => True

/-- A candidate of a client project is classified as private. -/
def Classified (tables : Tables) : Prop :=
  ∀ candidateId row, tables.learningCandidates.get? candidateId = some row →
    isClient tables row.projectId = true → row.sourceClassification = .isPrivate

theorem isClient_congr {before after : Tables} (same : after.projects = before.projects)
    (projectId : Option String) : isClient after projectId = isClient before projectId := by
  unfold Memory.isClient
  rw [same]

section

variable {before : Tables} {row : MemoryEntryRow}

def withMemory (before : Tables) (row : MemoryEntryRow) : Tables :=
  { before with memories := before.memories.add row }

theorem absent_unreached (fresh : before.memories.get? row.id = none) :
    ¬ (clientKnowledge before).Reaches (.memory row.id) := by
  intro reached
  cases reached with
  | source own =>
    obtain ⟨known, present, -⟩ := own
    rw [fresh] at present
    cases present
  | feeds _ _ fed =>
    obtain ⟨known, present, -⟩ := fed
    rw [fresh] at present
    cases present

theorem other_memory {id : String} (different : Knowledge.memory id ≠ .memory row.id) :
    (withMemory before row).memories.get? id = before.memories.get? id := by
  apply Table.get?_add_other
  intro same
  exact different (congrArg Knowledge.memory same.symm)

theorem withMemory_extends :
    Flow.Extends (clientKnowledge before) (clientKnowledge (withMemory before row))
      (.memory row.id) where
  source := by
    rintro (id | id) different own
    · obtain ⟨known, present, client⟩ := own
      rw [other_memory different] at present
      exact ⟨known, present, client⟩
    · exact own
  clear := by
    rintro (id | id) different clear
    · obtain ⟨known, present, sanitized⟩ := clear
      refine ⟨known, ?_, sanitized⟩
      rw [other_memory different, present]
    · exact clear
  feeds := by
    rintro earlier (id | id) different fed
    · obtain ⟨known, present, fed⟩ := fed
      rw [other_memory different] at present
      exact ⟨known, present, fed⟩
    · exact fed

theorem added_exposed (fresh : before.memories.get? row.id = none)
    (exposed : Exposed (withMemory before row) (.memory row.id)) :
    ¬ sanitizedMemory before row ∧ (memoryOfClient before row = true ∨
      ∃ candidateId, row.sourceReference = some candidateId ∧
        Exposed before (.candidate candidateId)) := by
  obtain ⟨reached, unclear⟩ := exposed
  have here : (withMemory before row).memories.get? row.id = some row := Table.get?_add_fresh fresh
  refine ⟨fun sanitized => unclear ⟨row, here, sanitized⟩, ?_⟩
  rcases Flow.added_receives withMemory_extends (absent_unreached fresh) reached with
    own | ⟨earlier, known, passes, fed⟩
  · obtain ⟨found, present, client⟩ := own
    rw [here] at present
    cases present
    exact .inl client
  · obtain ⟨found, present, candidateId, named, is⟩ := fed
    rw [here] at present
    cases present
    subst is
    exact .inr ⟨candidateId, named, known, passes⟩

end

theorem candidate_exposed {tables : Tables} {candidate : LearningCandidateRow}
    (present : tables.learningCandidates.get? candidate.id = some candidate)
    (exposed : Exposed tables (.candidate candidate.id)) :
    candidate.sanitizationStatus ≠ .sanitized ∧
      (candidateOfClient tables candidate = true ∨
        ∃ memoryId ∈ candidate.sourceMemoryIds, Exposed tables (.memory memoryId)) := by
  obtain ⟨reached, unclear⟩ := exposed
  refine ⟨fun sanitized => unclear ⟨candidate, present, sanitized⟩, ?_⟩
  rcases Flow.receives_of_reaches reached with own | ⟨earlier, known, passes, fed⟩
  · obtain ⟨found, here, client⟩ := own
    rw [present] at here
    cases here
    exact .inl client
  · obtain ⟨found, here, memoryId, member, is⟩ := fed
    rw [present] at here
    cases here
    subst is
    exact .inr ⟨memoryId, member, known, passes⟩

theorem created_leak {before after : Tables} {created leaked : MemoryEntryRow}
    (written : after = withMemory before created) (leak : Leaked before after leaked) :
    leaked = created := by
  have listed : leaked ∈ (before.memories.add created).rows := by
    have present := Table.get?_mem leak.present
    rw [written] at present
    exact present
  rcases Table.mem_add listed with old | new
  · have present : before.memories.get? leaked.id = some leaked := Table.get?_of_mem old
    rw [leak.created] at present
    cases present
  · exact new

theorem createMemory_contained {request : MemoryRequest} {row : MemoryEntryRow}
    (done : exec (createMemory request) store = (.ok row, after))
    (clean : NamesNoClient store (.createMemory request)) (leaked : MemoryEntryRow) :
    ¬ Leaked store.toTables after.toTables leaked := by
  intro leak
  obtain ⟨-, own, fresh, shape, written⟩ := Memory.createMemory_ok done
  have is : leaked = row := created_leak written leak
  subst is
  have exposed : Exposed (withMemory store.toTables leaked) (.memory leaked.id) := by
    have given := leak.exposed
    rwa [written] at given
  obtain ⟨unsanitized, carried⟩ := added_exposed fresh exposed
  have wide : request.scope = .global := by
    have scope := leak.scope
    rw [shape] at scope
    exact scope
  have unclear : ¬ sanitizedMemory store.toTables (request.row "") := by
    rw [shape] at unsanitized
    exact unsanitized
  obtain ⟨project, evidence, candidate⟩ := clean wide unclear
  have mine := own wide
  rw [shape] at carried
  rcases carried with client | ⟨candidateId, named, reached⟩
  · have none : memoryOfClient store.toTables (request.row leaked.id) = false := by
      simp only [memoryOfClient, MemoryRequest.row, mine, project, evidence, Bool.or_self]
    rw [none] at client
    cases client
  · exact candidate candidateId named reached

theorem promoted_named {candidate : LearningCandidateRow}
    (allowed : promotionObstacle candidate targetScope actor = none) (wide : targetScope = .global) :
    candidate.sourceClassification ≠ .isPrivate := by
  unfold Memory.promotionObstacle at allowed
  intro isPrivate
  repeat' split at allowed
  all_goals try cases allowed
  next _ _ _ open_ _ => exact open_ ⟨wide, isPrivate⟩

theorem promoteCandidate_contained {row : MemoryEntryRow} (classified : Classified store.toTables)
    (done : exec (promoteCandidate candidateId targetScope actor) store = (.ok row, after))
    (clean : NamesNoClient store (.promoteCandidate candidateId targetScope actor))
    (leaked : MemoryEntryRow) : ¬ Leaked store.toTables after.toTables leaked := by
  obtain ⟨candidate, middle, found, allowed, creating, same⟩ := promoteCandidate_ok done
  have named : candidate.id = candidateId := Table.get?_key found
  have present : store.learningCandidates.get? candidate.id = some candidate := by
    rw [named, found]
  rw [same]
  apply createMemory_contained creating
  intro wide unclear
  have unsanitized : candidate.sanitizationStatus ≠ .sanitized :=
    fun sanitized => unclear ⟨candidate.id, rfl, candidate, present, sanitized⟩
  obtain ⟨evidence, memories⟩ := clean wide candidate found allowed unsanitized
  refine ⟨rfl, evidence, ?_⟩
  intro other refers exposed
  cases refers
  obtain ⟨-, client | ⟨memoryId, member, reached⟩⟩ := candidate_exposed present exposed
  · have own : isClient store.toTables candidate.projectId = true := by
      simpa [candidateOfClient, evidence] using client
    exact promoted_named allowed wide (classified candidateId candidate found own)
  · exact memories memoryId member reached

/-- No memory appears that was not there. -/
def NoNewMemory (before after : Store) : Prop :=
  ∀ id, before.memories.get? id = none → after.memories.get? id = none

theorem noNewMemory_refl (store : Store) : NoNewMemory store store := fun _ absent => absent

theorem noNewMemory_trans (first second third : Store) (one : NoNewMemory first second)
    (two : NoNewMemory second third) : NoNewMemory first third :=
  fun id absent => two id (one id absent)

theorem noNewMemory_contained {before : Store} (none : NoNewMemory before after)
    (leaked : MemoryEntryRow) : ¬ Leaked before.toTables after.toTables leaked := by
  intro leak
  have absent := none leaked.id leak.created
  rw [leak.present] at absent
  cases absent

/-- What holds of every operation: projects stay what they are, and the candidates of
client projects private. -/
structure Kept (before after : Store) : Prop where
  projects : after.projects = before.projects
  classified : Classified before.toTables → Classified after.toTables

theorem kept_refl (store : Store) : Kept store store := ⟨rfl, id⟩

theorem kept_trans (first second third : Store) (one : Kept first second)
    (two : Kept second third) : Kept first third :=
  ⟨two.projects.trans one.projects, two.classified ∘ one.classified⟩

theorem kept_of_candidates {before : Store} (projects : after.projects = before.projects)
    (candidates : after.learningCandidates = before.learningCandidates) : Kept before after := by
  refine ⟨projects, ?_⟩
  intro classified candidateId row present client
  rw [candidates] at present
  rw [isClient_congr projects] at client
  exact classified candidateId row present client

theorem kept_of_same (before after : Store) (same : SameTables before after) : Kept before after :=
  kept_of_candidates (by rw [same]) (by rw [same])

theorem noNewMemory_of_memories {before : Store} (same : after.memories = before.memories) :
    NoNewMemory before after := by
  intro id absent
  rw [same, absent]

theorem noNewMemory_of_same (before after : Store) (same : SameTables before after) :
    NoNewMemory before after := noNewMemory_of_memories (by rw [same])

theorem memoryRow_same (memoryId : String) : Respects SameTables (Memory.memoryRow memoryId) := by
  intro store
  unfold Memory.memoryRow
  rw [exec_get_bind]
  cases store.memories.get? memoryId with
  | none => exact sameTables_refl store
  | some row => exact sameTables_refl store

theorem candidateRow_same (candidateId : String) : Respects SameTables (candidateRow candidateId) := by
  intro store
  unfold candidateRow
  rw [exec_get_bind]
  cases store.learningCandidates.get? candidateId with
  | none => exact sameTables_refl store
  | some row => exact sameTables_refl store

theorem createMemory_kept (request : MemoryRequest) : Respects Kept (createMemory request) := by
  apply respects_of_ends
  · intro store row after done
    obtain ⟨-, -, -, -, written⟩ := Memory.createMemory_ok done
    exact kept_of_candidates (by rw [written]) (by rw [written])
  · intro store error after raised
    exact kept_of_same store after (Memory.createMemory_raised raised)

theorem validateMemory_respects {relation : Store → Store → Prop}
    (transitive : ∀ first second third, relation first second → relation second third →
      relation first third)
    (same : ∀ before after, SameTables before after → relation before after)
    (written : ∀ (store : Store) (row : MemoryEntryRow),
      relation store { store with memories := store.memories.put row }) (memoryId : String) :
    Respects relation (Memory.validateMemory memoryId) := by
  have quiet {α : Type} {action : Op α} (respected : Respects SameTables action) :
      Respects relation action := respects_mono same respected
  unfold Memory.validateMemory
  apply respects_bind transitive (quiet (memoryRow_same memoryId))
  intro row
  split
  · apply respects_bind transitive (quiet utcNow_same)
    intro _
    apply respects_bind transitive (respects_modify (fun store => written store _))
    intro _
    apply respects_bind transitive (quiet (record_same _))
    intro _
    exact quiet (respects_pure sameTables_refl _)
  · exact quiet (respects_throw sameTables_refl _)

theorem validateMemory_kept (memoryId : String) : Respects Kept (Memory.validateMemory memoryId) :=
  validateMemory_respects kept_trans kept_of_same (fun _ _ => kept_of_candidates rfl rfl) memoryId

theorem validateMemory_noNew (memoryId : String) :
    Respects NoNewMemory (Memory.validateMemory memoryId) := by
  apply validateMemory_respects noNewMemory_trans noNewMemory_of_same
  intro store row id absent
  show (store.memories.put row).get? id = none
  rw [Table.get?_put, absent]
  rfl

theorem newCandidate_classified (request : CandidateRequest) (tables : Tables) (id : String)
    (client : isClient tables request.projectId = true) :
    (request.row tables id).sourceClassification = .isPrivate := by
  show Memory.classifySource (isClient tables request.projectId) request.proposedScope = .isPrivate
  rw [client]
  rfl

theorem createCandidate_written {request : CandidateRequest}
    {outcome : Except PyExc LearningCandidateRow}
    (ended : exec (createCandidate request) store = (outcome, after)) :
    after.toTables = store.toTables ∨ ∃ id, after.toTables = { store.toTables with
      learningCandidates := store.learningCandidates.add (request.row store.toTables id) } := by
  unfold createCandidate at ended
  rw [exec_bind, exec_ofExcept] at ended
  cases accepted : Memory.validateConfidence request.confidence with
  | error refusal =>
    rw [accepted] at ended
    cases ended
    exact .inl rfl
  | ok _ =>
    rw [accepted] at ended
    dsimp only at ended
    split at ended
    · cases ended
      exact .inl rfl
    · rw [exec_get_bind, exec_bind_of_ok (Op.exec_nextId _ _),
        exec_bind_of_ok (Op.exec_utcNow _), addCandidate, bind_assoc,
        exec_get_bind] at ended
      split at ended
      · cases ended
        exact .inl rfl
      · cases ended
        exact .inr ⟨_, rfl⟩

theorem createCandidate_kept (request : CandidateRequest) : Respects Kept (createCandidate request) := by
  intro store
  rcases createCandidate_written (Prod.mk.eta (p := exec (createCandidate request) store)).symm with
    same | ⟨id, written⟩
  · exact kept_of_same _ _ same
  · refine ⟨by rw [written], ?_⟩
    intro classified candidateId row present client
    rw [written] at present
    have projects : (exec (createCandidate request) store).2.projects = store.projects := by
      rw [written]
    rw [isClient_congr projects] at client
    rcases Table.mem_add (Table.get?_mem present) with old | new
    · exact classified row.id row (Table.get?_of_mem old) client
    · subst new
      exact newCandidate_classified request store.toTables id client

theorem createCandidate_noNew (request : CandidateRequest) :
    Respects NoNewMemory (createCandidate request) := by
  intro store
  rcases createCandidate_written (Prod.mk.eta (p := exec (createCandidate request) store)).symm with
    same | ⟨id, written⟩
  · exact noNewMemory_of_same _ _ same
  · exact noNewMemory_of_memories (by rw [written])

theorem exec_candidateRow {row : LearningCandidateRow}
    (found : store.learningCandidates.get? candidateId = some row) :
    exec (candidateRow candidateId) store = (.ok row, store) := by
  unfold candidateRow
  rw [exec_get_bind, found]
  rfl

theorem exec_candidateRow_missing (absent : store.learningCandidates.get? candidateId = none) :
    exec (candidateRow candidateId) store =
      (.error (.valueError ("Unknown learning candidate: " ++ candidateId)), store) := by
  unfold candidateRow
  rw [exec_get_bind, absent]
  rfl

theorem validateCandidate_written (candidateId : String) (store : Store) :
    (exec (validateCandidate candidateId) store).2 = store ∨
      ∃ row, store.learningCandidates.get? candidateId = some row ∧
        (exec (validateCandidate candidateId) store).2.toTables = { store.toTables with
          learningCandidates := store.learningCandidates.put { row with status := .validated } } := by
  unfold validateCandidate
  cases found : store.learningCandidates.get? candidateId with
  | none =>
    rw [exec_bind_of_error (exec_candidateRow_missing found)]
    exact .inl rfl
  | some row =>
    rw [exec_bind_of_ok (exec_candidateRow found)]
    exact .inr ⟨row, rfl, rfl⟩

theorem validateCandidate_kept (candidateId : String) :
    Respects Kept (validateCandidate candidateId) := by
  intro store
  rcases validateCandidate_written candidateId store with same | ⟨row, found, written⟩
  · rw [same]
    exact kept_refl store
  · refine ⟨by rw [written], ?_⟩
    intro classified otherId other present client
    rw [written] at present
    have projects : (exec (validateCandidate candidateId) store).2.projects = store.projects := by
      rw [written]
    rw [isClient_congr projects] at client
    rcases Table.mem_put (Table.get?_mem present) with same | ⟨old, -⟩
    · subst same
      exact classified candidateId row found client
    · exact classified other.id other (Table.get?_of_mem old) client

theorem validateCandidate_noNew (candidateId : String) :
    Respects NoNewMemory (validateCandidate candidateId) := by
  intro store
  rcases validateCandidate_written candidateId store with same | ⟨row, found, written⟩
  · rw [same]
    exact noNewMemory_refl store
  · exact noNewMemory_of_memories (by rw [written])

theorem promoteCandidate_kept (candidateId : String) (targetScope : KnowledgeScope) (actor : Actor) :
    Respects Kept (promoteCandidate candidateId targetScope actor) := by
  have quiet {α : Type} {action : Op α} (respected : Respects SameTables action) :
      Respects Kept action := respects_mono kept_of_same respected
  unfold promoteCandidate
  apply respects_bind kept_trans (quiet (candidateRow_same candidateId))
  intro candidate
  split
  · apply respects_bind kept_trans (quiet (record_same _))
    intro _
    exact respects_throw kept_refl _
  · apply respects_bind kept_trans (createMemory_kept _)
    intro memory
    apply respects_bind kept_trans (quiet (record_same _))
    intro _
    exact respects_pure kept_refl _

theorem promoteCandidate_raised {error : PyExc}
    (raised : exec (promoteCandidate candidateId targetScope actor) store = (.error error, after)) :
    after.toTables = store.toTables := by
  unfold promoteCandidate at raised
  cases found : store.learningCandidates.get? candidateId with
  | none =>
    rw [exec_bind_of_error (exec_candidateRow_missing found)] at raised
    cases raised
    rfl
  | some candidate =>
    rw [exec_bind_of_ok (exec_candidateRow found)] at raised
    split at raised
    · cases raised
      rfl
    · rw [exec_bind] at raised
      rcases creating : exec (createMemory (promotedMemory candidate targetScope)) store with
        ⟨refusal | memory, middle⟩
      · rw [creating] at raised
        cases raised
        exact Memory.createMemory_raised creating
      · rw [creating] at raised
        cases raised

theorem step_kept (store : Store) (operation : KnowledgeOperation) : Kept store (step store operation) := by
  have silent {α : Type} {action : Op α} (respected : Respects Kept action) :
      Respects Kept (do let _ ← action; pure () : Op Unit) :=
    respects_bind kept_trans respected (fun _ => respects_pure kept_refl _)
  cases operation with
  | createMemory request => exact silent (createMemory_kept request) store
  | validateMemory memoryId => exact silent (validateMemory_kept memoryId) store
  | createCandidate request => exact silent (createCandidate_kept request) store
  | validateCandidate candidateId => exact silent (validateCandidate_kept candidateId) store
  | promoteCandidate candidateId targetScope actor =>
    exact silent (promoteCandidate_kept candidateId targetScope actor) store

theorem clients_stay_private (start : Store) (operations : List KnowledgeOperation) :
    Kept start (Run.run step start operations) :=
  Run.relation_run step Kept kept_refl kept_trans step_kept start operations

theorem exec_dropped {α : Type} (action : Op α) (store : Store) :
    (exec (do let _ ← action; pure () : Op Unit) store).2 = (exec action store).2 := by
  rw [exec_bind]
  rcases exec action store with ⟨error | result, after⟩ <;> rfl

theorem step_contained {operation : KnowledgeOperation}
    (classified : Classified store.toTables) (clean : NamesNoClient store operation)
    (leaked : MemoryEntryRow) : ¬ Leaked store.toTables (step store operation).toTables leaked := by
  unfold step attempt
  cases operation with
  | createMemory request =>
    dsimp only
    rw [exec_dropped]
    rcases ended : exec (createMemory request) store with ⟨error | row, after⟩
    · have same := Memory.createMemory_raised ended
      exact noNewMemory_contained (noNewMemory_of_same store after same) leaked
    · exact createMemory_contained ended clean leaked
  | validateMemory memoryId =>
    dsimp only
    rw [exec_dropped]
    exact noNewMemory_contained (validateMemory_noNew memoryId store) leaked
  | createCandidate request =>
    dsimp only
    rw [exec_dropped]
    exact noNewMemory_contained (createCandidate_noNew request store) leaked
  | validateCandidate candidateId =>
    dsimp only
    rw [exec_dropped]
    exact noNewMemory_contained (validateCandidate_noNew candidateId store) leaked
  | promoteCandidate candidateId targetScope actor =>
    dsimp only
    rw [exec_dropped]
    rcases ended : exec (promoteCandidate candidateId targetScope actor) store with
      ⟨error | row, after⟩
    · have same := promoteCandidate_raised ended
      exact noNewMemory_contained (noNewMemory_of_same store after same) leaked
    · exact promoteCandidate_contained classified ended clean leaked

/-- In a run whose operations name nothing of a client where no check of the firewall
looks, no operation creates a global memory that exposes one. -/
theorem clients_contained (start : Store) (operations : List KnowledgeOperation)
    (classified : Classified start.toTables) (clean : Run.Meets step NamesNoClient start operations) :
    Run.Meets step (fun store operation => ∀ leaked,
      ¬ Leaked store.toTables (step store operation).toTables leaked) start operations :=
  Run.meets_guarded step NamesNoClient _ (fun store => Classified store.toTables)
    (fun store operation holds _ => (step_kept store operation).classified holds)
    (fun _ _ holds condition => step_contained holds condition) start operations classified clean

/-- A client project with one piece of evidence. -/
def clientStore : Store where
  projects := .single { id := "LPROJ_000001", projectType := "CLIENT" }
  evidence := .single { id := "LEVID_000001", projectId := "LPROJ_000001" }

def globalCandidate : CandidateRequest where
  candidateType := .pattern
  statement := "Client implementation detail."
  evidenceIds := ["LEVID_000001"]
  proposedScope := .global

/-- The candidate refers to the client by its evidence alone. -/
def leakingRun : List KnowledgeOperation :=
  [.createCandidate globalCandidate, .validateCandidate "LLEARN_000001",
    .promoteCandidate "LLEARN_000001" .global .human]

/-- The memory that its promotion creates. -/
def leakedMemory : MemoryEntryRow where
  id := "LMEM_000001"
  scope := .global
  statement := "Client implementation detail."
  sourceReference := some "LLEARN_000001"
  sourceEvidenceIds := ["LEVID_000001"]
  confidence := 1 / 2
  validationStatus := .validated

/-- The candidate that carries it. -/
def carrier : LearningCandidateRow where
  id := "LLEARN_000001"
  statement := "Client implementation detail."
  evidenceIds := ["LEVID_000001"]
  confidence := 1 / 2
  status := .validated
  sanitizationStatus := .notRequired
  sourceClassification := .globalSafe

/-- A candidate without a project carries the evidence of a client into a global memory. -/
theorem evidence_leaks : Classified clientStore.toTables ∧
    ¬ Run.Meets step (fun store operation => ∀ leaked,
      ¬ Leaked store.toTables (step store operation).toTables leaked) clientStore leakingRun := by
  have present : (Run.run step clientStore leakingRun).memories.get? "LMEM_000001" =
      some leakedMemory := by decide +kernel
  have carried : (Run.run step clientStore leakingRun).learningCandidates.get? "LLEARN_000001" =
      some carrier := by decide +kernel
  have ofClient : memoryOfClient (Run.run step clientStore leakingRun).toTables leakedMemory = true := by
    decide +kernel
  constructor
  · intro candidateId row found
    cases found
  · rintro ⟨-, -, promoted, -⟩
    refine promoted leakedMemory ⟨by decide +kernel, present, rfl, ?_, ?_⟩
    · exact .source ⟨leakedMemory, present, ofClient⟩
    · rintro ⟨row, found, candidateId, named, candidate, known, sanitized⟩
      cases Option.some.inj (found.symm.trans present)
      cases named
      cases Option.some.inj (known.symm.trans carried)
      cases sanitized

/-- The same run over evidence of a project that is no client's. -/
def internalStore : Store where
  projects := .single { id := "LPROJ_000001" }
  evidence := .single { id := "LEVID_000001", projectId := "LPROJ_000001" }

theorem internal_contained :
    Run.Meets step (fun store operation => ∀ leaked,
      ¬ Leaked store.toTables (step store operation).toTables leaked) internalStore leakingRun := by
  have carried : (Run.run step internalStore [.createCandidate globalCandidate,
      .validateCandidate "LLEARN_000001"]).learningCandidates.get? "LLEARN_000001" =
        some carrier := by decide +kernel
  apply clients_contained internalStore leakingRun
  · intro candidateId row found
    cases found
  · refine ⟨trivial, trivial, ?_, trivial⟩
    intro _ candidate found _ _
    cases Option.some.inj (found.symm.trans carried)
    refine ⟨by decide +kernel, ?_⟩
    intro memoryId member
    cases member

end Lucius.Learning
