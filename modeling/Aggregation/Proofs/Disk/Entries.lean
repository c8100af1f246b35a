import Aggregation.Disk.Query

/-
  The entries of directories.

  A directory lists each of its entries once, and a listing
  names exactly the nodes that lie in the directory.

  Key definitions include:
    * `FileTree.LeadsToDirectory`
    * `FileTree.LeadsToFile`
    * `FileTree.Lists`

  Key theorems include:
    * `FileTree.mem_entries_iff`
    * `FileTree.nodup_entries`
    * `FileTree.named_of_node?`
-/

------------------------------------------------------------
-- Stored Entries
------------------------------------------------------------

namespace Aggregation

namespace Disk

namespace FileTree

variable {tree : FileTree}
variable {viewer : Viewer}
variable {path : Path}

/- A stored node is an entry of the directory above it. -/
theorem entryOf_eq_some_iff
    (directory : Location)
    (entry : Location × Node)
    (name : String) :
    (match entry with
      | (key, _) =>
          match key with
          | other :: parent =>
              if parent = directory then some other
              else none
          | [] => none) = some name ↔
      entry.1 = name :: directory := by
  rcases entry with ⟨key, node⟩
  cases key with
  | nil => simp
  | cons other parent =>
      by_cases hParent : parent = directory
      · simp [hParent]
      · simp [hParent]

/- Entries are the nodes right below a directory. -/
theorem mem_entries_iff
    (directory : Location)
    (name : String) :
    name ∈ tree.entries directory ↔
      tree.node? (name :: directory) ≠ none := by
  unfold node?
  rw [Ne, find_eq_none_iff, Decidable.not_not]
  unfold entries
  rw [List.mem_filterMap, List.mem_map]
  constructor
  · rintro ⟨entry, hStored, hName⟩
    exact ⟨entry, hStored,
      (entryOf_eq_some_iff directory entry name).mp hName⟩
  · rintro ⟨entry, hStored, hKey⟩
    exact ⟨entry, hStored,
      (entryOf_eq_some_iff directory entry name).mpr hKey⟩

/- No entry is stored twice. -/
theorem nodup_entries
    (tree : FileTree)
    (directory : Location) :
    (tree.entries directory).Nodup := by
  have hDistinct := tree.isTree.distinct
  unfold List.Nodup at hDistinct ⊢
  rw [List.pairwise_map] at hDistinct
  unfold entries
  rw [List.pairwise_filterMap]
  refine hDistinct.imp ?_
  intro left right hKeys name hLeft other hRight hSame
  have hLeftKey :=
    (entryOf_eq_some_iff directory left name).mp hLeft
  have hRightKey :=
    (entryOf_eq_some_iff directory right other).mp hRight
  exact hKeys (by rw [hLeftKey, hRightKey, hSame])

/- What lies in the tree has a name and lies in a directory. -/
theorem named_of_node?
    {name : String}
    {parent : Location}
    {node : Node}
    (hNode : tree.node? (name :: parent) = some node) :
    isEntryName name = true ∧
      ∃ permissions,
        tree.node? parent = some (.directory permissions) := by
  apply tree.isTree.attached
  refine Decidable.byContradiction fun hAbsent => ?_
  have hNone : tree.node? (name :: parent) = none :=
    find_eq_none_iff.mpr hAbsent
  rw [hNone] at hNode
  contradiction

/- An entry is named by a proper name. -/
theorem isEntryName_of_mem_entries
    {directory : Location}
    {name : String}
    (hEntry : name ∈ tree.entries directory) :
    isEntryName name = true := by
  rw [mem_entries_iff] at hEntry
  rcases Option.ne_none_iff_exists'.mp hEntry with
    ⟨node, hNode⟩
  exact (named_of_node? hNode).1

------------------------------------------------------------
-- Answers
------------------------------------------------------------

/- A path leads to a directory. -/
def LeadsToDirectory
    (tree : FileTree)
    (viewer : Viewer)
    (path : Path) :
    Prop :=
  ∃ location permissions,
    tree.status viewer path =
      .ok (location, .directory permissions)

/- A path leads to a regular file. -/
def LeadsToFile
    (tree : FileTree)
    (viewer : Viewer)
    (path : Path) :
    Prop :=
  ∃ location content permissions,
    tree.status viewer path =
      .ok (location, .file content permissions)

/- A path leads to a directory that lists a name. -/
def Lists
    (tree : FileTree)
    (viewer : Viewer)
    (path : Path)
    (name : Name) :
    Prop :=
  ∃ names,
    tree.list viewer path = .ok names ∧ name ∈ names

/- A test says yes of the nodes that it accepts. -/
theorem test_eq_true_iff
    (accepts : Node → Bool) :
    tree.test viewer path accepts = .ok true ↔
      ∃ location node,
        tree.status viewer path = .ok (location, node) ∧
          accepts node = true := by
  unfold test
  cases hStatus : tree.status viewer path with
  | ok found =>
      rcases found with ⟨location, node⟩
      constructor
      · intro hAnswer
        exact ⟨location, node, rfl, by simpa using hAnswer⟩
      · rintro ⟨other, another, hFound, hAccepts⟩
        injection hFound with hFound
        injection hFound with _ hNode
        simp [hNode, hAccepts]
  | error fault =>
      cases hAbsent : fault.meansAbsent with
      | true => simp [hAbsent]
      | false => simp [hAbsent]

/- The test for a directory says yes of directories. -/
theorem isDirectory?_eq_true_iff :
    tree.isDirectory? viewer path = .ok true ↔
      tree.LeadsToDirectory viewer path := by
  unfold isDirectory? LeadsToDirectory
  rw [test_eq_true_iff]
  constructor
  · rintro ⟨location, node, hStatus, hKind⟩
    cases node with
    | directory permissions =>
        exact ⟨location, permissions, hStatus⟩
    | file content permissions =>
        simp [Node.isDirectory] at hKind
    | link target => simp [Node.isDirectory] at hKind
  · rintro ⟨location, permissions, hStatus⟩
    exact ⟨location, _, hStatus, rfl⟩

/- The test for a file says yes of regular files. -/
theorem isFile?_eq_true_iff :
    tree.isFile? viewer path = .ok true ↔
      tree.LeadsToFile viewer path := by
  unfold isFile? LeadsToFile
  rw [test_eq_true_iff]
  constructor
  · rintro ⟨location, node, hStatus, hKind⟩
    cases node with
    | file content permissions =>
        exact ⟨location, content, permissions, hStatus⟩
    | directory permissions =>
        simp [Node.isFile] at hKind
    | link target => simp [Node.isFile] at hKind
  · rintro ⟨location, content, permissions, hStatus⟩
    exact ⟨location, _, hStatus, rfl⟩

/- A listing names the entries of one directory. -/
theorem list_eq_ok
    {names : List String}
    (hList : tree.list viewer path = .ok names) :
    ∃ location permissions,
      tree.status viewer path =
          .ok (location, .directory permissions) ∧
        names.Perm (tree.entries location) := by
  unfold list at hList
  cases hStatus : tree.status viewer path with
  | error fault => simp [hStatus] at hList
  | ok found =>
      rcases found with ⟨location, node⟩
      cases node with
      | file content permissions => simp [hStatus] at hList
      | link target => simp [hStatus] at hList
      | directory permissions =>
          simp only [hStatus] at hList
          split at hList
          · injection hList with hNames
            refine ⟨location, permissions, rfl, ?_⟩
            rw [← hNames]
            exact viewer.order.isPerm _ _
          · contradiction

/- A listed name is a proper name. -/
theorem Lists.isEntryName
    {name : Name}
    (hLists : tree.Lists viewer path name) :
    isEntryName name = true := by
  rcases hLists with ⟨names, hList, hName⟩
  rcases list_eq_ok hList with ⟨location, _, _, hPerm⟩
  exact isEntryName_of_mem_entries
    (hPerm.mem_iff.mp hName)

/- A directory lists no dots. -/
theorem Lists.ne_dots
    {name : Name}
    (hLists : tree.Lists viewer path name) :
    name ≠ "." ∧ name ≠ ".." := by
  have hName := hLists.isEntryName
  simp only [Disk.isEntryName, Bool.and_eq_true, bne_iff_ne,
    ne_eq] at hName
  exact ⟨hName.1.1.1.1.2, hName.1.1.1.2⟩

end FileTree

end Disk

end Aggregation
