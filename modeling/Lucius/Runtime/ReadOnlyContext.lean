import Lucius.Runtime.OllamaProvider
import Lucius.Runtime.ProviderMutation
import Mathlib.Data.Finset.Card

/-! What the context of a reading request holds. Each file goes under its path relative to
the root it lies in, and a path whose key is taken is left out. -/

namespace Lucius.Router

open Worktree Ollama

def ContextTarget.key : ContextTarget → Option String
  | .escapes => none
  | .workspace key _ => some key
  | .elsewhere key _ => some key

def ContextTarget.bytes (files : Files) : ContextTarget → Option Bytes
  | .escapes => none
  | .workspace _ location => files.lookup location
  | .elsewhere _ bytes => bytes

def requestedPath (rawPath : Json) : String := String.ofList (Json.strip rawPath.pyStr.toList)

/-- The paths that a request names. A blank text names none. -/
def requestedPaths (elements : List Json) : List String :=
  (elements.map requestedPath).filter (fun path => !path.toList.isEmpty)

theorem requestedPaths_cons (rawPath : Json) (rest : List Json) :
    requestedPaths (rawPath :: rest) =
      if (requestedPath rawPath).toList.isEmpty = true then requestedPaths rest
      else requestedPath rawPath :: requestedPaths rest := by
  unfold requestedPaths
  rw [List.map_cons]
  cases blank : (requestedPath rawPath).toList.isEmpty <;> simp [blank]

theorem readOnlyContextFrom_cons (provider : OllamaExecutionProvider) (files : Files)
    (seen : List String) (rawPath : Json) (rest : List Json) :
    readOnlyContextFrom provider files seen (rawPath :: rest) =
      if (requestedPath rawPath).toList.isEmpty = true then readOnlyContextFrom provider files seen rest
      else
        match (provider.contextTarget (requestedPath rawPath)).key with
        | none => .error (blockedBy "UNSAFE_FILE_PATH"
            ("Path escapes workspace: " ++ requestedPath rawPath))
        | some key =>
          if key ∈ seen then readOnlyContextFrom provider files seen rest
          else do
            let content ← contextContent (requestedPath rawPath)
              ((provider.contextTarget (requestedPath rawPath)).bytes files)
            return ⟨key, content⟩ :: (← readOnlyContextFrom provider files (key :: seen) rest) := by
  rw [readOnlyContextFrom]
  change (if (requestedPath rawPath).toList.isEmpty = true then _ else _) = _
  split
  · rfl
  · change (match provider.contextTarget (requestedPath rawPath) with
      | .escapes => _
      | .workspace key location => _
      | .elsewhere key bytes => _) = _
    cases provider.contextTarget (requestedPath rawPath) <;> rfl

/-- An entry is the content of a requested path under the key of its target. -/
def EntryOf (provider : OllamaExecutionProvider) (files : Files) (path : String)
    (entry : ReadOnlyContext) : Prop :=
  (provider.contextTarget path).key = some entry.path ∧
    contextContent path ((provider.contextTarget path).bytes files) = .ok entry.content

structure Loaded (provider : OllamaExecutionProvider) (files : Files) (seen paths : List String)
    (context : List ReadOnlyContext) : Prop where
  distinct : (context.map (·.path)).Nodup
  fresh : ∀ entry ∈ context, entry.path ∉ seen
  grounded : ∀ entry ∈ context, ∃ path ∈ paths, EntryOf provider files path entry
  covered : ∀ path ∈ paths, ∃ key, (provider.contextTarget path).key = some key ∧
    (key ∈ seen ∨ key ∈ context.map (·.path))

theorem Loaded.cons {provider : OllamaExecutionProvider} {files : Files} {seen paths : List String}
    {context : List ReadOnlyContext} {path : String} {entry : ReadOnlyContext}
    (new : EntryOf provider files path entry) (unseen : entry.path ∉ seen)
    (later : Loaded provider files (entry.path :: seen) paths context) :
    Loaded provider files seen (path :: paths) (entry :: context) where
  distinct := by
    rw [List.map_cons, List.nodup_cons]
    refine ⟨?_, later.distinct⟩
    intro member
    obtain ⟨other, inside, same⟩ := List.mem_map.mp member
    apply later.fresh other inside
    rw [same]
    exact List.mem_cons_self
  fresh := by
    intro other member
    rcases List.mem_cons.mp member with rfl | inside
    · exact unseen
    · exact fun before => later.fresh other inside (List.mem_cons_of_mem _ before)
  grounded := by
    intro other member
    rcases List.mem_cons.mp member with rfl | inside
    · exact ⟨path, List.mem_cons_self, new⟩
    · obtain ⟨origin, among, is⟩ := later.grounded other inside
      exact ⟨origin, List.mem_cons_of_mem _ among, is⟩
  covered := by
    intro other member
    rcases List.mem_cons.mp member with rfl | inside
    · exact ⟨entry.path, new.1, .inr (by simp)⟩
    · obtain ⟨key, is, known⟩ := later.covered other inside
      refine ⟨key, is, ?_⟩
      rcases known with before | listed
      · rcases List.mem_cons.mp before with rfl | earlier
        · exact .inr (by simp)
        · exact .inl earlier
      · exact .inr (by simp [listed])

theorem Loaded.skip {provider : OllamaExecutionProvider} {files : Files} {seen paths : List String}
    {context : List ReadOnlyContext} {path key : String}
    (is : (provider.contextTarget path).key = some key) (known : key ∈ seen)
    (later : Loaded provider files seen paths context) :
    Loaded provider files seen (path :: paths) context where
  distinct := later.distinct
  fresh := later.fresh
  grounded := by
    intro entry member
    obtain ⟨origin, among, from_⟩ := later.grounded entry member
    exact ⟨origin, List.mem_cons_of_mem _ among, from_⟩
  covered := by
    intro other member
    rcases List.mem_cons.mp member with rfl | inside
    · exact ⟨key, is, .inl known⟩
    · exact later.covered other inside

theorem readOnlyContextFrom_loaded {provider : OllamaExecutionProvider} {files : Files}
    {seen : List String} {elements : List Json} {context : List ReadOnlyContext}
    (done : readOnlyContextFrom provider files seen elements = .ok context) :
    Loaded provider files seen (requestedPaths elements) context := by
  induction elements generalizing seen context with
  | nil =>
    cases done
    exact ⟨List.nodup_nil, by simp, by simp, by simp [requestedPaths]⟩
  | cons rawPath rest ih =>
    rw [readOnlyContextFrom_cons] at done
    rw [requestedPaths_cons]
    split at done
    · rename_i blank
      rw [if_pos blank]
      exact ih done
    · rename_i named
      rw [if_neg named]
      split at done
      · cases done
      · rename_i key is
        split at done
        · rename_i known
          exact (ih done).skip is known
        · rename_i unseen
          obtain ⟨content, read, afterRead⟩ := except_bind_ok done
          obtain ⟨others, later, finish⟩ := except_bind_ok afterRead
          cases finish
          exact .cons ⟨is, read⟩ unseen (ih later)

/-! ### Several roots -/

/-- The roots that a provider may read from, and the place a path resolves to. Places
are the names from the top. -/
structure ContextRoots where
  workspace : List String
  allowedWorkspaceRoots : List (List String)
  resolve : String → List String

def relativeTo (place root : List String) : Option (List String) :=
  if root.isPrefixOf place then some (place.drop root.length) else none

/-- The text of a relative path. -/
def relativeText (names : List String) : String :=
  if names.isEmpty then "." else "/".intercalate names

/-- A path is looked for under the workspace, then under the allowed roots in turn. -/
def ContextRoots.target (roots : ContextRoots) (disk : List String → Option Bytes) (path : String) :
    ContextTarget :=
  let place := roots.resolve path
  match relativeTo place roots.workspace with
  | some names => .workspace (relativeText names) (relativeText names)
  | none =>
    match roots.allowedWorkspaceRoots.findSome? (relativeTo place) with
    | some names => .elsewhere (relativeText names) (disk place)
    | none => .escapes

/-- The provider over these roots. -/
def OllamaExecutionProvider.over (provider : OllamaExecutionProvider) (roots : ContextRoots)
    (disk : List String → Option Bytes) : OllamaExecutionProvider :=
  { provider with contextTarget := roots.target disk }

/-- The key of a file is that of its place. -/
def ContextRoots.keyAt (roots : ContextRoots) (place : List String) : Option String :=
  ((roots.workspace :: roots.allowedWorkspaceRoots).findSome? (relativeTo place)).map relativeText

/-- The bytes of a file are those at its place. -/
def ContextRoots.bytesAt (roots : ContextRoots) (disk : List String → Option Bytes) (files : Files)
    (place : List String) : Option Bytes :=
  match relativeTo place roots.workspace with
  | some names => files.lookup (relativeText names)
  | none => (roots.allowedWorkspaceRoots.findSome? (relativeTo place)).bind (fun _ => disk place)

theorem target_key (roots : ContextRoots) (disk : List String → Option Bytes) (path : String) :
    (roots.target disk path).key = roots.keyAt (roots.resolve path) := by
  unfold ContextRoots.target ContextRoots.keyAt
  dsimp only
  rw [List.findSome?_cons]
  cases relativeTo (roots.resolve path) roots.workspace with
  | some names => rfl
  | none =>
    cases roots.allowedWorkspaceRoots.findSome? (relativeTo (roots.resolve path)) with
    | some names => rfl
    | none => rfl

theorem target_bytes (roots : ContextRoots) (disk : List String → Option Bytes) (files : Files)
    (path : String) :
    (roots.target disk path).bytes files = roots.bytesAt disk files (roots.resolve path) := by
  unfold ContextRoots.target ContextRoots.bytesAt
  dsimp only
  cases relativeTo (roots.resolve path) roots.workspace with
  | some names => rfl
  | none =>
    cases roots.allowedWorkspaceRoots.findSome? (relativeTo (roots.resolve path)) with
    | some names => rfl
    | none => rfl

/-- Two requested paths that go under one key lead to one file. -/
def KeysTell (roots : ContextRoots) (elements : List Json) : Prop :=
  ∀ first ∈ requestedPaths elements, ∀ second ∈ requestedPaths elements,
    roots.keyAt (roots.resolve first) = roots.keyAt (roots.resolve second) →
      roots.resolve first = roots.resolve second

/-- Each requested file has an entry of its own, with its content, under a key of its own. -/
structure Complete (roots : ContextRoots) (disk : List String → Option Bytes) (files : Files)
    (elements : List Json) (context : List ReadOnlyContext) (entry : List String → ReadOnlyContext) :
    Prop where
  present : ∀ path ∈ requestedPaths elements, entry (roots.resolve path) ∈ context
  content : ∀ path ∈ requestedPaths elements,
    contextContent path (roots.bytesAt disk files (roots.resolve path)) =
      .ok (entry (roots.resolve path)).content
  distinct : ∀ first ∈ requestedPaths elements, ∀ second ∈ requestedPaths elements,
    roots.resolve first ≠ roots.resolve second →
      (entry (roots.resolve first)).path ≠ (entry (roots.resolve second)).path

theorem contextContent_any {first second : String} {bytes : Option Bytes} {content : List Char}
    (read : contextContent first bytes = .ok content) : contextContent second bytes = .ok content := by
  unfold contextContent at read ⊢
  cases bytes with
  | none => cases read
  | some bytes =>
    dsimp only at read ⊢
    split at read
    · cases read
    · rename_i valid
      rw [if_neg valid]
      split at read
      · cases read
      · rename_i small
        rw [if_neg small]
        exact read

section

variable {provider : OllamaExecutionProvider} {roots : ContextRoots}
  {disk : List String → Option Bytes} {files : Files} {elements : List Json}
  {context : List ReadOnlyContext}

/-- The entry a key has in the context. -/
def entryAt (roots : ContextRoots) (context : List ReadOnlyContext) (place : List String) :
    ReadOnlyContext :=
  (context.find? (fun entry => some entry.path = roots.keyAt place)).getD ⟨"", []⟩

theorem entryAt_present
    (loaded : Loaded (provider.over roots disk) files [] (requestedPaths elements) context)
    {path : String} (member : path ∈ requestedPaths elements) :
    entryAt roots context (roots.resolve path) ∈ context ∧
      some (entryAt roots context (roots.resolve path)).path = roots.keyAt (roots.resolve path) := by
  obtain ⟨key, is, known⟩ := loaded.covered path member
  have keyed : roots.keyAt (roots.resolve path) = some key := (target_key roots disk path).symm.trans is
  have listed : key ∈ context.map (·.path) := known.resolve_left List.not_mem_nil
  obtain ⟨entry, inside, same⟩ := List.mem_map.mp listed
  unfold entryAt
  rw [keyed]
  cases found : context.find? (fun entry => some entry.path = some key) with
  | none =>
    have missing := List.find?_eq_none.mp found entry inside
    exact absurd (by simp [same]) missing
  | some other =>
    refine ⟨List.mem_of_find?_eq_some found, ?_⟩
    have holds := List.find?_some found
    simpa using holds

theorem complete_of_keysTell
    (loaded : Loaded (provider.over roots disk) files [] (requestedPaths elements) context)
    (tell : KeysTell roots elements) :
    Complete roots disk files elements context (entryAt roots context) where
  present := fun _ member => (entryAt_present loaded member).1
  content := by
    intro path member
    obtain ⟨inside, keyed⟩ := entryAt_present loaded member
    obtain ⟨origin, among, key, read⟩ := loaded.grounded _ inside
    have same : roots.resolve origin = roots.resolve path := by
      apply tell origin among path member
      rw [← keyed, ← target_key roots disk origin]
      exact key
    rw [← same] at read ⊢
    change contextContent origin ((roots.target disk origin).bytes files) = _ at read
    rw [target_bytes] at read
    exact contextContent_any read
  distinct := by
    intro first member second other apart same
    apply apart
    apply tell first member second other
    rw [← (entryAt_present loaded member).2, ← (entryAt_present loaded other).2, same]

theorem keysTell_of_complete
    (loaded : Loaded (provider.over roots disk) files [] (requestedPaths elements) context)
    {entry : List String → ReadOnlyContext}
    (complete : Complete roots disk files elements context entry) : KeysTell roots elements := by
  classical
  let places := ((requestedPaths elements).map roots.resolve).toFinset
  let keys := (context.map (·.path)).toFinset
  have mem_places : ∀ place, place ∈ places ↔ ∃ path ∈ requestedPaths elements,
      roots.resolve path = place := by
    intro place
    rw [List.mem_toFinset, List.mem_map]
  have owned : places.card ≤ keys.card := by
    apply Finset.card_le_card_of_injOn (fun place => (entry place).path)
    · intro place member
      obtain ⟨path, among, rfl⟩ := (mem_places place).mp member
      have inside := complete.present path among
      exact List.mem_toFinset.mpr (List.mem_map.mpr ⟨_, inside, rfl⟩)
    · intro first member second other same
      obtain ⟨one, among, rfl⟩ := (mem_places first).mp member
      obtain ⟨two, inside, rfl⟩ := (mem_places second).mp other
      by_contra apart
      exact complete.distinct one among two inside apart same
  have keyed : keys.map ⟨some, Option.some_injective _⟩ ⊆ places.image roots.keyAt := by
    intro key member
    obtain ⟨name, among, rfl⟩ := Finset.mem_map.mp member
    obtain ⟨found, inside, rfl⟩ := List.mem_map.mp (List.mem_toFinset.mp among)
    obtain ⟨path, origin, is, _⟩ := loaded.grounded found inside
    apply Finset.mem_image.mpr
    refine ⟨roots.resolve path, (mem_places _).mpr ⟨path, origin, rfl⟩, ?_⟩
    rw [← target_key roots disk path]
    exact is
  have covers : places.card ≤ (places.image roots.keyAt).card := by
    have most := Finset.card_le_card keyed
    rw [Finset.card_map] at most
    exact owned.trans most
  have injective : Set.InjOn roots.keyAt places := by
    apply Finset.card_image_iff.mp
    exact le_antisymm Finset.card_image_le covers
  intro first member second other same
  exact injective ((mem_places _).mpr ⟨first, member, rfl⟩) ((mem_places _).mpr ⟨second, other, rfl⟩) same

end

/-- The texts that a reading request lists. -/
def contextElements (request : RuntimeExecutionRequest) : List Json :=
  (pathElements (request.contextLimits.getOr "read_only_context_paths" (.arr []))).toOption.getD []

theorem readOnlyFileContext_loaded {provider : OllamaExecutionProvider} {env : ProviderEnvironment}
    {request : RuntimeExecutionRequest} {files : Files} {context : List ReadOnlyContext}
    (done : readOnlyFileContext provider env request files = .ok context) :
    readOnlyContextFrom provider files [] (contextElements request) = .ok context := by
  unfold readOnlyFileContext at done
  dsimp only at done
  split at done
  · cases done
  · obtain ⟨elements, listed, afterListed⟩ := except_bind_ok done
    obtain ⟨_, _, afterFault⟩ := except_bind_ok afterListed
    obtain ⟨found, loaded, finish⟩ := except_bind_ok afterFault
    split at finish
    · cases finish
    · cases finish
      rw [contextElements, listed]
      exact loaded

/-- The context that is loaded is complete exactly when its keys tell the files apart. -/
theorem loaded_context_complete_iff {provider : OllamaExecutionProvider} {roots : ContextRoots}
    {disk : List String → Option Bytes} {env : ProviderEnvironment} {request : RuntimeExecutionRequest}
    {files : Files} {context : List ReadOnlyContext}
    (done : readOnlyFileContext (provider.over roots disk) env request files = .ok context) :
    (∃ entry, Complete roots disk files (contextElements request) context entry) ↔
      KeysTell roots (contextElements request) := by
  have loaded := readOnlyContextFrom_loaded (readOnlyFileContext_loaded done)
  constructor
  · rintro ⟨entry, complete⟩
    exact keysTell_of_complete loaded complete
  · intro tell
    exact ⟨_, complete_of_keysTell loaded tell⟩

/-! ### Two roots -/

/-- The files of a root have the names of the paths that lead to them. -/
def twoRoots : ContextRoots where
  workspace := ["work"]
  allowedWorkspaceRoots := [["other"]]
  resolve := fun path =>
    if path = "/other/notes.md" then ["other", "notes.md"]
    else if path = "/other/more.md" then ["other", "more.md"]
    else ["work", path]

def otherDisk (place : List String) : Option Bytes :=
  if place.head? = some "other" then some (utf8 "Other\n") else none

def notesFiles : Files := (∅ : Files).insert "notes.md" (utf8 "Notes\n")

def contextProvider : OllamaExecutionProvider where
  registration := { providerId := "ollama-local" }
  isAvailable := .ok true
  model := "qwen3:8b"
  endpoint := "http://127.0.0.1:11434"
  contextTarget := fun _ => .escapes
  environment := fun _ => Ollama.fullDiskProvider

def readingRequest (paths : List String) : RuntimeExecutionRequest where
  executionId := "LRUN_000001"
  taskId := "LTASK_000001"
  workflowId := "LWORK_000001"
  itemId := "first"
  logicalTaskId := "first"
  planId := "LPLAN_000001"
  planFreezeId := "LFREEZE_000001"
  isolatedWorkspace := "/tmp/workspace"
  taskIntent := "Read the notes"
  allowedMutationScope := ""
  readOnly := true
  contextLimits := [("read_only_context_paths", Json.ofTexts paths)]

def loadNotes (paths : List String) : Except ProviderExc (List ReadOnlyContext) :=
  readOnlyFileContext (contextProvider.over twoRoots otherDisk) Ollama.fullDiskProvider
    (readingRequest paths) notesFiles

theorem other_names_complete_iff : ∃ context, loadNotes ["notes.md", "/other/more.md"] = .ok context ∧
    ((∃ entry, Complete twoRoots otherDisk notesFiles
        (contextElements (readingRequest ["notes.md", "/other/more.md"])) context entry) ↔
      KeysTell twoRoots (contextElements (readingRequest ["notes.md", "/other/more.md"]))) := by
  have fine : (loadNotes ["notes.md", "/other/more.md"]).isOk = true := by decide +kernel
  obtain ⟨context, done⟩ := except_isOk fine
  exact ⟨context, done, loaded_context_complete_iff done⟩

/-- Of two files with one name under two roots, the second one is left out. -/
theorem same_names_incomplete : ∃ context, loadNotes ["notes.md", "/other/notes.md"] = .ok context ∧
    ¬ ∃ entry, Complete twoRoots otherDisk notesFiles
      (contextElements (readingRequest ["notes.md", "/other/notes.md"])) context entry := by
  have fine : (loadNotes ["notes.md", "/other/notes.md"]).isOk = true := by decide +kernel
  obtain ⟨context, done⟩ := except_isOk fine
  refine ⟨context, done, ?_⟩
  rintro ⟨entry, complete⟩
  have tell := keysTell_of_complete (readOnlyContextFrom_loaded (readOnlyFileContext_loaded done)) complete
  have listed : requestedPaths (contextElements (readingRequest ["notes.md", "/other/notes.md"])) =
      ["notes.md", "/other/notes.md"] := by decide +kernel
  rw [KeysTell, listed] at tell
  have same := tell "notes.md" (by simp) "/other/notes.md" (by simp) (by decide +kernel)
  revert same
  decide +kernel

end Lucius.Router
