import Lucius.Runtime.ReadOnlyContext

/-! Whether the evidence of a reading execution is in the files it names. A fragment that
is not found is passed over, so one that is found is enough. -/

namespace Lucius.Router

open Worktree Ollama

/-- The fragment is in the text, white space apart. -/
def OccursIn (fragment text : List Char) : Prop :=
  squeezed (Json.strip fragment) ≠ [] ∧ squeezed (Json.strip fragment) <:+: squeezed text

/-- The text of the file that goes under a key: that of the first path with this key. -/
def authorizedText (provider : OllamaExecutionProvider) (files : Files) (paths : List String)
    (key : String) : Option (List Char) :=
  (paths.find? (fun path => (provider.contextTarget path).key = some key)).bind (fun path =>
    ((provider.contextTarget path).bytes files).map (fun bytes =>
      decoded (universalNewlines false bytes)))

/-- The reference cites a file that may be read, and the fragment is in that file. -/
def Grounded (provider : OllamaExecutionProvider) (files : Files) (paths : List String)
    (reference : Json) : Prop :=
  ∃ members path fragment text, reference = .obj members ∧ Dict.get members "path" = .str path ∧
    Dict.get members "exact_fragment" = .str fragment ∧
    authorizedText provider files paths path = some text ∧ OccursIn fragment.toList text

/-! ### Texts within texts -/

theorem withinText_iff (needle text : List Char) : withinText needle text = true ↔ needle <:+: text := by
  rw [withinText, List.any_eq_true]
  constructor
  · rintro ⟨tail, member, front⟩
    exact (List.isPrefixOf_iff_prefix.mp front).isInfix.trans ((List.mem_tails _ _).mp member).isInfix
  · intro inside
    obtain ⟨tail, front, back⟩ := List.infix_iff_prefix_suffix.mp inside
    exact ⟨tail, (List.mem_tails _ _).mpr back, List.isPrefixOf_iff_prefix.mpr front⟩

/-! ### References -/

/-- The reference names an entry of the context and a fragment that is not blank. -/
def Cites (context : List ReadOnlyContext) (reference : Json) (entry : ReadOnlyContext)
    (fragment : String) : Prop :=
  ∃ members, reference = .obj members ∧ Dict.get members "path" = .str entry.path ∧
    context.find? (fun file => file.path = entry.path) = some entry ∧
    Dict.get members "exact_fragment" = .str fragment ∧ Json.strip fragment.toList ≠ []

theorem text?_some {value : Json} {text : String} (read : value.text? = some text) : value = .str text := by
  cases value <;> cases read
  rfl

theorem verifyReference_ok {context : List ReadOnlyContext} {reference : Json} {evidence : List Dict}
    (done : verifyReference context reference = .ok evidence) : ∃ entry fragment,
      Cites context reference entry fragment ∧
        evidence = fragmentEvidence entry.path fragment.toList entry.content := by
  cases reference with
  | obj members =>
    rw [verifyReference] at done
    split at done
    · cases done
    · rename_i entry named
      split at done
      · cases done
      · rename_i fragment cited
        cases done
        obtain ⟨name, path, found⟩ := Option.bind_eq_some_iff.mp named
        have same : entry.path = name := by
          simpa using List.find?_some found
        obtain ⟨text, filled⟩ := Option.filter_eq_some_iff.mp cited
        refine ⟨entry, fragment, ⟨members, rfl, ?_, ?_, text?_some text, ?_⟩, rfl⟩
        · rw [same]
          exact text?_some path
        · rw [same]
          exact found
        · simpa using filled
  | null => cases done
  | bool _ => cases done
  | int _ => cases done
  | float _ => cases done
  | str _ => cases done
  | arr _ => cases done

theorem verifyReference_cited {context : List ReadOnlyContext} {reference : Json}
    {entry : ReadOnlyContext} {fragment : String} (cites : Cites context reference entry fragment) :
    verifyReference context reference =
      .ok (fragmentEvidence entry.path fragment.toList entry.content) := by
  obtain ⟨members, rfl, path, found, text, filled⟩ := cites
  have cited : (Dict.get members "exact_fragment").text?.filter
      (fun fragment => !(Json.strip fragment.toList).isEmpty) = some fragment := by
    rw [text]
    simp [Json.text?, filled]
  have named : (Dict.get members "path").text?.bind
      (fun name => context.find? (fun file => file.path = name)) = some entry := by
    rw [path]
    exact found
  rw [verifyReference, named]
  dsimp only
  rw [cited]

/-- The fragment of the reference is found in the context. -/
def Found (context : List ReadOnlyContext) (reference : Json) : Prop :=
  ∃ entry fragment, Cites context reference entry fragment ∧
    fragmentEvidence entry.path fragment.toList entry.content ≠ []

theorem verifyReadOnlyEvidence_ok_iff (context : List ReadOnlyContext) (evidenceRefs : Json) :
    (∃ verified, verifyReadOnlyEvidence context evidenceRefs = .ok verified) ↔
      ∃ references, evidenceRefs = .arr references ∧
        (∀ reference ∈ references, ∃ entry fragment, Cites context reference entry fragment) ∧
        ∃ reference ∈ references, Found context reference := by
  constructor
  · rintro ⟨verified, done⟩
    cases evidenceRefs with
    | arr references =>
      cases references with
      | nil => cases done
      | cons first rest =>
        rw [verifyReadOnlyEvidence] at done
        obtain ⟨found, each, finish⟩ := except_bind_ok done
        refine ⟨first :: rest, rfl, ?_, ?_⟩
        · intro reference member
          obtain ⟨evidence, _, read⟩ := forall₂_left (mapM_ok each) member
          obtain ⟨entry, fragment, cites, _⟩ := verifyReference_ok read
          exact ⟨entry, fragment, cites⟩
        · split at finish
          · cases finish
          · rename_i some
            rw [List.isEmpty_iff] at some
            obtain ⟨one, others, known⟩ := List.exists_cons_of_ne_nil some
            have member : one ∈ found.flatten := by
              rw [known]
              exact List.mem_cons_self
            obtain ⟨reference, listed, evidence, read, inside⟩ := (mem_mapM_flatten each one).mp member
            obtain ⟨entry, fragment, cites, rfl⟩ := verifyReference_ok read
            exact ⟨reference, listed, entry, fragment, cites, List.ne_nil_of_mem inside⟩
    | null => cases done
    | bool _ => cases done
    | int _ => cases done
    | float _ => cases done
    | str _ => cases done
    | obj _ => cases done
  · rintro ⟨references, rfl, cited, reference, member, entry, fragment, cites, found⟩
    obtain ⟨first, rest, rfl⟩ := List.exists_cons_of_ne_nil (List.ne_nil_of_mem member)
    obtain ⟨evidence, each⟩ := mapM_ok_of_forall (fun input inside => by
        obtain ⟨one, text, known⟩ := cited input inside
        exact ⟨_, verifyReference_cited known⟩)
    obtain ⟨one, others, known⟩ := List.exists_cons_of_ne_nil found
    have inside : one ∈ evidence.flatten := by
      apply (mem_mapM_flatten each one).mpr
      refine ⟨reference, member, _, verifyReference_cited cites, ?_⟩
      rw [known]
      exact List.mem_cons_self
    have some : ¬ evidence.flatten.isEmpty = true := by
      rw [List.isEmpty_iff]
      exact List.ne_nil_of_mem inside
    refine ⟨evidence.flatten, ?_⟩
    rw [verifyReadOnlyEvidence, each]
    change (if evidence.flatten.isEmpty = true then _ else _) = _
    rw [if_neg some]
    rfl

/-! ### Executions -/

section

variable (provider : OllamaExecutionProvider) (env : ProviderEnvironment)
  (request : RuntimeExecutionRequest) (files : Files)

/-- The execution has the model's references before it, and nothing else can fail. -/
structure Reaches (context : List ReadOnlyContext) (references : List Json) : Prop where
  workspace : Ollama.validateWorkspace env { isolationMode := request.isolationMode } = .ok ()
  context : readOnlyFileContext provider env request files = .ok context
  answer : ∃ body payload latency, env.response = .ok body ∧
    Ollama.parseModelPayload env.jsonLoads body defaultOllamaNumPredict = .ok payload ∧
    requireNoFiles payload = .ok () ∧ payload.get "evidence_refs" = .arr references ∧
    Ollama.latencyMs env body = .ok latency
  result : env.resultFault = none

/-- A fabricated fragment stands beside one that is found. -/
structure Masks (context : List ReadOnlyContext) (references : List Json) : Prop where
  cited : ∀ reference ∈ references, ∃ entry fragment, Cites context reference entry fragment
  found : ∃ reference ∈ references, Found context reference
  fabricated : ∃ reference ∈ references,
    ¬ Grounded provider files (requestedPaths (contextElements request)) reference

/-- A completed execution has no evidence that its files do not bear out. -/
def CompletedGrounded : Prop :=
  (read provider env request files).status = .completed →
    ∀ body payload references, env.response = .ok body →
      Ollama.parseModelPayload env.jsonLoads body defaultOllamaNumPredict = .ok payload →
      payload.get "evidence_refs" = .arr references →
      ∀ reference ∈ references,
        Grounded provider files (requestedPaths (contextElements request)) reference

variable {provider env request files} in
theorem Reaches.references {context : List ReadOnlyContext} {others references : List Json}
    (reaches : Reaches provider env request files context others) {body payload : Dict}
    (answered : env.response = .ok body)
    (parsed : Ollama.parseModelPayload env.jsonLoads body defaultOllamaNumPredict = .ok payload)
    (listed : payload.get "evidence_refs" = .arr references) : others = references := by
  obtain ⟨body', payload', _, answered', parsed', _, listed', _⟩ := reaches.answer
  rw [answered] at answered'
  cases answered'
  rw [parsed] at parsed'
  cases parsed'
  rw [listed] at listed'
  exact (Json.arr.inj listed').symm

theorem read_completed_iff : (read provider env request files).status = .completed ↔
    ∃ result, readingResult provider env request files = .ok result := by
  unfold read
  cases done : readingResult provider env request files with
  | error error =>
    have failed : (failedBy provider request (Ollama.failureOf env error)).status = .failed :=
      Ollama.failureOf_failed env error
    dsimp only
    rw [failed]
    simp
  | ok result =>
    refine ⟨fun _ => ⟨result, rfl⟩, fun _ => ?_⟩
    unfold readingResult at done
    obtain ⟨_, _, afterWorkspace⟩ := except_bind_ok done
    obtain ⟨_, _, afterContext⟩ := except_bind_ok afterWorkspace
    obtain ⟨_, _, afterBody⟩ := except_bind_ok afterContext
    obtain ⟨_, _, afterPayload⟩ := except_bind_ok afterBody
    obtain ⟨_, _, afterFiles⟩ := except_bind_ok afterPayload
    obtain ⟨_, _, afterEvidence⟩ := except_bind_ok afterFiles
    obtain ⟨_, _, finish⟩ := except_bind_ok afterEvidence
    split at finish
    · cases finish
    · cases finish
      rfl

theorem readingResult_ok_iff : (∃ result, readingResult provider env request files = .ok result) ↔
    ∃ context references, Reaches provider env request files context references ∧
      (∀ reference ∈ references, ∃ entry fragment, Cites context reference entry fragment) ∧
      ∃ reference ∈ references, Found context reference := by
  constructor
  · rintro ⟨result, done⟩
    unfold readingResult at done
    obtain ⟨_, workspace, afterWorkspace⟩ := except_bind_ok done
    obtain ⟨context, loaded, afterContext⟩ := except_bind_ok afterWorkspace
    obtain ⟨body, answered, afterBody⟩ := except_bind_ok afterContext
    obtain ⟨payload, parsed, afterPayload⟩ := except_bind_ok afterBody
    obtain ⟨_, noFiles, afterFiles⟩ := except_bind_ok afterPayload
    obtain ⟨verified, evidence, afterEvidence⟩ := except_bind_ok afterFiles
    obtain ⟨latency, timed, finish⟩ := except_bind_ok afterEvidence
    split at finish
    · cases finish
    · rename_i faultless
      obtain ⟨references, listed, cited, found⟩ :=
        (verifyReadOnlyEvidence_ok_iff _ _).mp ⟨verified, evidence⟩
      exact ⟨context, references, ⟨workspace, loaded,
        ⟨body, payload, latency, answered, parsed, noFiles, listed, timed⟩, faultless⟩, cited, found⟩
  · rintro ⟨context, references, reaches, cited, found⟩
    obtain ⟨body, payload, latency, answered, parsed, noFiles, listed, timed⟩ := reaches.answer
    obtain ⟨verified, evidence⟩ :=
      (verifyReadOnlyEvidence_ok_iff context (payload.get "evidence_refs")).mpr
        ⟨references, listed, cited, found⟩
    refine ⟨completedReading provider env request body payload verified, ?_⟩
    unfold readingResult
    simp only [reaches.workspace, reaches.context, answered, parsed, noFiles, evidence, timed,
      reaches.result, bind, Except.bind]
    rfl

/-- Completed executions are grounded exactly when no found reference masks a fabricated one. -/
theorem completed_grounded_iff : CompletedGrounded provider env request files ↔
    ∀ context references, Reaches provider env request files context references →
      ¬ Masks provider request files context references := by
  constructor
  · intro grounded context references reaches masks
    have completed := (read_completed_iff provider env request files).mpr
      ((readingResult_ok_iff provider env request files).mpr
        ⟨context, references, reaches, masks.cited, masks.found⟩)
    obtain ⟨body, payload, latency, answered, parsed, noFiles, listed, timed⟩ := reaches.answer
    obtain ⟨reference, member, fabricated⟩ := masks.fabricated
    exact fabricated (grounded completed body payload references answered parsed listed reference member)
  · intro honest completed body payload references answered parsed listed reference member
    obtain ⟨context, others, reaches, cited, found⟩ :=
      (readingResult_ok_iff provider env request files).mp
        ((read_completed_iff provider env request files).mp completed)
    rw [← reaches.references answered parsed listed] at member
    by_contra fabricated
    exact honest context others reaches ⟨cited, found, reference, member, fabricated⟩

end

def reference (path fragment : String) : Json :=
  .obj [("path", .str path), ("exact_fragment", .str fragment)]

def citingNotes (references : List Json) : ProviderEnvironment :=
  { Ollama.fullDiskProvider with
    response := .ok [("response", .str "answer")]
    jsonLoads := fun _ => some (.obj [("evidence_refs", .arr references)]) }

def notesProvider : OllamaExecutionProvider :=
  { contextProvider with contextTarget := fun path => .workspace path path }

/-- One fragment of the notes is enough for one that is not in them. -/
theorem fabricated_fragment_completes :
    ¬ CompletedGrounded notesProvider
      (citingNotes [reference "notes.md" "Notes", reference "notes.md" "Invented"])
      (readingRequest ["notes.md"]) notesFiles := by
  intro grounded
  have completed : (read notesProvider
      (citingNotes [reference "notes.md" "Notes", reference "notes.md" "Invented"])
      (readingRequest ["notes.md"]) notesFiles).status = .completed := by decide +kernel
  obtain ⟨members, path, fragment, text, is, named, cited, known, occurs⟩ :=
    grounded completed _ _ _ rfl rfl rfl (reference "notes.md" "Invented") (by simp)
  cases is
  cases named
  cases cited
  have absent : (authorizedText notesProvider notesFiles
      (requestedPaths (contextElements (readingRequest ["notes.md"]))) "notes.md").all (fun text =>
        !withinText (squeezed (Json.strip "Invented".toList)) (squeezed text)) = true := by
    decide +kernel
  rw [known, Option.all_some, Bool.not_eq_true', ← Bool.not_eq_true, withinText_iff] at absent
  exact absent occurs.2

end Lucius.Router
