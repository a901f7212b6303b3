import Lucius.Repositories.GitMutation

/-! A repository whose head and index move: what Git stages, unstages and commits, and
what it answers about a commit. -/

namespace Lucius.Worktree

open Updates

abbrev TreeContents := Contents String (Option Bytes)

structure CommitObject where
  parents : List String
  tree : TreeContents

/-- `altered` says which links and submodules of the index differ in the working tree. -/
structure Repository where
  head : String
  index : TreeContents
  files : Files
  commits : Contents String CommitObject
  links : List String := []
  altered : String → Bool := fun _ => false
  resolve : String → Option String := some
  head_known : (commits.lookup head).isSome = true
  resolve_plain : ∀ path location, resolve path = some location → resolve location = some location := by
    exact resolve_unlinked

namespace Repository

variable (repository : Repository)

def headTree : TreeContents :=
  match repository.commits.lookup repository.head with
  | some commit => commit.tree
  | none => ∅

/-- The repository at one moment, as Git compares the working tree with the index. -/
def checkout (ignored : String → Bool) : Checkout where
  head := repository.head
  tree := repository.index
  staged := differing repository.index repository.headTree
  ignored := ignored
  isLink := fun path => decide (path ∈ repository.links)
  resolve := repository.resolve
  revParse := fun name => (repository.commits.lookup name).map (fun _ => name)
  diff := fun files => repository.index.keys.filter (fun path =>
    match repository.index.lookup path with
    | some (some bytes) => decide (files.lookup path ≠ some bytes)
    | some none => repository.altered path
    | none => false)
  others := fun files => (files.keys ++ repository.links).dedup.filter (fun path =>
    (repository.index.lookup path).isNone && !ignored path)
  diff_regular := by
    intro files path bytes entry
    have member : path ∈ repository.index.keys :=
      AList.mem_keys.mp (AList.lookup_isSome.mp (by rw [entry]; rfl))
    rw [List.mem_filter, entry]
    simp [member]
  diff_local := by
    intro first second path same
    simp only [List.mem_filter, same]
  others_iff := by
    intro files path
    rw [List.mem_filter, List.mem_dedup, List.mem_append, ← AList.mem_keys, ← AList.lookup_isSome]
    simp [Option.isNone_iff_eq_none]
  resolve_plain := repository.resolve_plain

/-- A path names a file, or everything below a directory. -/
def covers (paths : List String) (key : String) : Bool :=
  paths.any (fun path => decide (path = key) || decide (path ∈ parentsOf [] key.toList))

/-- What is at a path of the working tree, as an entry of a tree. -/
def entry (key : String) : Option (Option Bytes) :=
  match repository.files.lookup key with
  | some bytes => some (some bytes)
  | none => if key ∈ repository.links then some none else none

/-- What `git add` is about: the covered paths that are in the index or not ignored. -/
def addable (ignored : String → Bool) (paths : List String) : List String :=
  (repository.index.keys ++ repository.files.keys ++ repository.links).filter (fun key =>
    covers paths key && ((repository.index.lookup key).isSome || !ignored key))

def added (ignored : String → Bool) (paths : List String) : Repository :=
  { repository with
    index := applyAll repository.index
      ((repository.addable ignored paths).map (fun key => (key, repository.entry key))) }

def restorable (paths : List String) : List String :=
  (repository.index.keys ++ repository.headTree.keys).filter (covers paths)

/-- `git restore --staged` takes the entries of the head back into the index. -/
def unstaged (paths : List String) : Repository :=
  { repository with
    index := applyAll repository.index
      ((repository.restorable paths).map (fun key => (key, repository.headTree.lookup key))) }

def committed (name : String) : Repository :=
  { repository with
    head := name
    commits := repository.commits.insert name ⟨[repository.head], repository.index⟩
    head_known := by rw [AList.lookup_insert]; rfl }

/-- The index holds what the head commit does. -/
def Clean : Prop := Same repository.index repository.headTree

theorem staged_eq_nil (ignored : String → Bool) :
    (repository.checkout ignored).staged = [] ↔ repository.Clean :=
  differing_eq_nil _ _

theorem added_index (ignored : String → Bool) (paths : List String) (key : String)
    (uncovered : covers paths key = false) :
    (repository.added ignored paths).index.lookup key = repository.index.lookup key := by
  have absent : key ∉ repository.addable ignored paths := by
    intro listed
    have inside := (List.mem_filter.mp listed).2
    rw [uncovered] at inside
    cases inside
  rw [added, lookup_applyAll_map, if_neg absent]

theorem unstaged_index (paths : List String) (key : String) :
    (repository.unstaged paths).index.lookup key =
      if covers paths key = true then repository.headTree.lookup key
      else repository.index.lookup key := by
  rw [unstaged, lookup_applyAll_map]
  by_cases inside : covers paths key = true
  · rw [if_pos inside]
    split
    · rfl
    · rename_i absent
      have nowhere : key ∉ repository.index.keys ++ repository.headTree.keys := fun listed =>
        absent (List.mem_filter.mpr ⟨listed, inside⟩)
      rw [List.mem_append, not_or] at nowhere
      rw [AList.lookup_eq_none.mpr (fun listed => nowhere.1 (AList.mem_keys.mp listed)),
        AList.lookup_eq_none.mpr (fun listed => nowhere.2 (AList.mem_keys.mp listed))]
  · have outside : key ∉ repository.restorable paths := fun listed =>
      inside (List.mem_filter.mp listed).2
    rw [if_neg outside, if_neg inside]

theorem unstaged_clean {paths : List String}
    (outside : ∀ key, covers paths key = false →
      repository.index.lookup key = repository.headTree.lookup key) :
    Same (repository.unstaged paths).index repository.headTree := by
  intro key
  rw [unstaged_index]
  split
  · rfl
  · rename_i uncovered
    exact outside key (Bool.eq_false_iff.mpr uncovered)

end Repository

def commitParentShas (fault : Option ReadFault) (repository : Repository) (sha : String) :
    Except WorkspaceExc (List String) := do
  failing fault
  match repository.commits.lookup sha with
  | some commit => return commit.parents
  | none => throw (.gitMutation "GIT_COMMAND_FAILED" "git command failed")

/-- The paths in which a commit differs from its only parent. Git lists none for a
commit with another number of parents. -/
def commitChangedPaths (fault : Option ReadFault) (repository : Repository) (sha : String) :
    Except WorkspaceExc (List String) := do
  failing fault
  match repository.commits.lookup sha with
  | none => throw (.gitMutation "COMMIT_PATH_INSPECTION_FAILED" "Could not inspect commit paths.")
  | some commit =>
    match commit.parents with
    | [parent] =>
      match repository.commits.lookup parent with
      | some before => return sortedBy id (differing before.tree commit.tree)
      | none =>
        throw (.gitMutation "COMMIT_PATH_INSPECTION_FAILED" "Could not inspect commit paths.")
    | _ => return []

/-- The hash of what Git prints of an entry: the bytes of a file, or some text of what
is no file. -/
def entrySha256 (fault : Option ReadFault) (sha256 : Bytes → String) (shown : String → Bytes)
    (tree : TreeContents) (rawPath : String) : Except WorkspaceExc String := do
  failing fault
  let path ← validateRelativeRepoPath (.str rawPath)
  match tree.lookup path with
  | some (some bytes) => return sha256 bytes
  | some none => return sha256 (shown path)
  | none => throw (.gitMutation "GIT_COMMAND_FAILED" "git command failed")

def stagedFileSha256 (fault : Option ReadFault) (sha256 : Bytes → String) (shown : String → Bytes)
    (repository : Repository) (rawPath : String) : Except WorkspaceExc String :=
  entrySha256 fault sha256 shown repository.index rawPath

def committedFileSha256 (fault : Option ReadFault) (sha256 : Bytes → String) (shown : String → Bytes)
    (repository : Repository) (sha rawPath : String) : Except WorkspaceExc String :=
  match repository.commits.lookup sha with
  | some commit => entrySha256 fault sha256 shown commit.tree rawPath
  | none => entrySha256 fault sha256 shown ∅ rawPath

end Lucius.Worktree
