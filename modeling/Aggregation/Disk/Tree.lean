/-
  Trees of files, directories and symbolic links.

  A location lists the names from a node up to the root,
  innermost first, so that the tail of a location is the
  location of the parent directory.  A tree holds each
  location once, and every node but the root lies in a
  directory of the tree.

  Key definitions include:
    * `Node`
    * `FileTree`
    * `FileTree.node?`
    * `FileTree.entries`
    * `FileTree.attach`
    * `FileTree.adjust`
    * `FileTree.detach`

  Key theorems include:
    * `FileTree.node?_attach`
    * `FileTree.node?_adjust`
    * `FileTree.node?_detach`
-/

------------------------------------------------------------
-- Nodes
------------------------------------------------------------

namespace Aggregation

namespace Disk

/- Names from a node up to the root, innermost first. -/
abbrev Location := List String

/- What the permission bits of a node grant. -/
structure Permissions where
  read : Bool
  write : Bool
  search : Bool
  deriving DecidableEq, Repr

/- Permission bits that grant everything. -/
def Permissions.all : Permissions := ⟨true, true, true⟩

/- One file, directory or symbolic link. -/
inductive Node where
  | file (content : ByteArray) (permissions : Permissions)
  | directory (permissions : Permissions)
  | link (target : String)

/- Test for a directory. -/
def Node.isDirectory : Node → Bool
  | .directory _ => true
  | _ => false

/- Test for a regular file. -/
def Node.isFile : Node → Bool
  | .file _ _ => true
  | _ => false

/- Give a file new content. -/
def Node.withContent (content : ByteArray) : Node → Node
  | .file _ permissions => .file content permissions
  | node => node

/- Give a file or directory new permission bits. -/
def Node.withPermissions
    (permissions : Permissions) :
    Node → Node
  | .file content _ => .file content permissions
  | .directory _ => .directory permissions
  | node => node

/- Most bytes that a name can have. -/
def nameLimit : Nat := 255

/- Test for a name that an entry of a directory can have. -/
def isEntryName (name : String) : Bool :=
  name != "" && name != "." && name != ".." &&
    !name.toList.contains '/' &&
    !name.toList.contains '\x00' &&
    name.utf8ByteSize ≤ nameLimit

------------------------------------------------------------
-- Located Nodes
------------------------------------------------------------

/- The node at a location of a list of located nodes. -/
def find
    (location : Location) :
    List (Location × Node) → Option Node
  | [] => none
  | (key, node) :: rest =>
      if key = location then some node else find location rest

/- A location is found unless it is no key. -/
theorem find_eq_none_iff
    {location : Location}
    {nodes : List (Location × Node)} :
    find location nodes = none ↔
      location ∉ nodes.map (·.1) := by
  induction nodes with
  | nil => simp [find]
  | cons entry rest ih =>
      by_cases hKey : entry.1 = location
      · simp [find, hKey]
      · have hOther : ¬location = entry.1 :=
          fun h => hKey h.symm
        simp [find, hKey, hOther, ih]

/- The first of two lists that holds a location decides. -/
theorem find_append
    (location : Location)
    (left right : List (Location × Node)) :
    find location (left ++ right) =
      (find location left).or (find location right) := by
  induction left with
  | nil => simp [find]
  | cons entry rest ih =>
      by_cases hKey : entry.1 = location
      · simp [find, hKey]
      · simp [find, hKey, ih]

/- Dropping locations hides exactly those. -/
theorem find_filter
    (location : Location)
    (keeps : Location → Bool)
    (nodes : List (Location × Node)) :
    find location (nodes.filter fun entry => keeps entry.1) =
      if keeps location then find location nodes
      else none := by
  induction nodes with
  | nil => simp [find]
  | cons entry rest ih =>
      by_cases hKey : entry.1 = location
      · subst hKey
        by_cases hKeep : keeps entry.1 = true
        · simp [hKeep, find]
        · simp [hKeep, ih]
      · by_cases hKeep : keeps entry.1 = true
        · simp [hKeep, find, hKey, ih]
        · simp [hKeep, find, hKey, ih]

/- A list of nodes with one of them changed. -/
def changeAt
    (location : Location)
    (change : Node → Node)
    (nodes : List (Location × Node)) :
    List (Location × Node) :=
  nodes.map fun (key, node) =>
    (key, if key = location then change node else node)

/- A change shows at its own location only. -/
theorem find_changeAt
    (other location : Location)
    (change : Node → Node)
    (nodes : List (Location × Node)) :
    find other (changeAt location change nodes) =
      (find other nodes).map fun node =>
        if other = location then change node else node := by
  induction nodes with
  | nil => rfl
  | cons entry rest ih =>
      have hTail :
          find other
              (changeAt location change (entry :: rest)) =
            if entry.1 = other then
              some (if entry.1 = location then
                change entry.2 else entry.2)
            else
              find other (changeAt location change rest) :=
        rfl
      rw [hTail]
      by_cases hKey : entry.1 = other
      · simp [find, hKey]
      · simp [find, hKey, ih]

/- A change leaves the locations as they are. -/
theorem keys_changeAt
    (location : Location)
    (change : Node → Node)
    (nodes : List (Location × Node)) :
    (changeAt location change nodes).map (·.1) =
      nodes.map (·.1) := by
  simp [changeAt, Function.comp_def]

------------------------------------------------------------
-- Trees
------------------------------------------------------------

/- Conditions that make a list of nodes a tree. -/
structure IsTree (nodes : List (Location × Node)) : Prop where
  distinct : (nodes.map (·.1)).Nodup
  rooted :
    ∃ permissions,
      find [] nodes = some (.directory permissions)
  attached :
    ∀ name parent,
      name :: parent ∈ nodes.map (·.1) →
        isEntryName name = true ∧
          ∃ permissions,
            find parent nodes = some (.directory permissions)

/- A tree of located nodes. -/
structure FileTree where
  nodes : List (Location × Node)
  isTree : IsTree nodes

namespace FileTree

/- The tree of an empty root directory. -/
def empty : FileTree :=
  ⟨[([], .directory .all)], {
    distinct := by simp
    rooted := ⟨.all, rfl⟩
    attached := by simp }⟩

/- The node at a location. -/
def node? (tree : FileTree) (location : Location) :
    Option Node :=
  find location tree.nodes

/- Names of the entries of a directory, as they are stored. -/
def entries (tree : FileTree) (location : Location) :
    List String :=
  tree.nodes.filterMap fun (key, _) =>
    match key with
    | name :: parent =>
        if parent = location then some name else none
    | [] => none

------------------------------------------------------------
-- Attaching
------------------------------------------------------------

/- Condition for a new entry of a directory. -/
structure CanAttach
    (tree : FileTree)
    (parent : Location)
    (name : String) : Prop where
  named : isEntryName name = true
  inside :
    ∃ permissions,
      tree.node? parent = some (.directory permissions)
  vacant : tree.node? (name :: parent) = none

/- A tree with one more entry in a directory. -/
def attach
    (tree : FileTree)
    (parent : Location)
    (name : String)
    (node : Node)
    (hCan : tree.CanAttach parent name) :
    FileTree :=
  ⟨tree.nodes ++ [(name :: parent, node)], {
    distinct := by
      have hVacant := find_eq_none_iff.mp hCan.vacant
      have hDistinct := tree.isTree.distinct
      simp only [List.map_append, List.map_cons,
        List.map_nil]
      rw [List.nodup_append]
      refine ⟨hDistinct, by simp, ?_⟩
      intro left hLeft right hRight hEqual
      simp only [List.mem_cons, List.not_mem_nil,
        or_false] at hRight
      subst hEqual
      exact hVacant (hRight ▸ hLeft)
    rooted := by
      rcases tree.isTree.rooted with ⟨permissions, hRoot⟩
      exact ⟨permissions, by
        rw [find_append, hRoot]
        rfl⟩
    attached := by
      intro other above hMember
      have hKept :
          ∀ location permissions,
            find location tree.nodes =
                some (.directory permissions) →
              find location
                  (tree.nodes ++ [(name :: parent, node)]) =
                some (.directory permissions) := by
        intro location permissions hFound
        rw [find_append, hFound]
        rfl
      simp only [List.map_append, List.map_cons,
        List.map_nil, List.mem_append, List.mem_cons,
        List.not_mem_nil, or_false] at hMember
      rcases hMember with hOld | hNew
      · rcases tree.isTree.attached other above hOld with
          ⟨hName, permissions, hFound⟩
        exact ⟨hName, permissions, hKept _ _ hFound⟩
      · injection hNew with hName hAbove
        subst hName hAbove
        rcases hCan.inside with ⟨permissions, hFound⟩
        exact ⟨hCan.named, permissions,
          hKept _ _ hFound⟩ }⟩

/- Attaching shows at the new location only. -/
theorem node?_attach
    (tree : FileTree)
    (parent : Location)
    (name : String)
    (node : Node)
    (hCan : tree.CanAttach parent name)
    (location : Location) :
    (tree.attach parent name node hCan).node? location =
      if location = name :: parent then some node
      else tree.node? location := by
  unfold node? attach
  rw [find_append]
  by_cases hKey : location = name :: parent
  · subst hKey
    have hVacant := hCan.vacant
    unfold node? at hVacant
    simp [hVacant, find]
  · have hOther : ¬name :: parent = location :=
      fun h => hKey h.symm
    simp [find, hKey, hOther]

/- Attach a node unless the directory cannot take it. -/
def attach?
    (tree : FileTree)
    (parent : Location)
    (name : String)
    (node : Node) :
    Option FileTree :=
  match hInside : tree.node? parent,
      hVacant : tree.node? (name :: parent) with
  | some (.directory permissions), none =>
      if hNamed : isEntryName name = true then
        some (tree.attach parent name node
          ⟨hNamed, ⟨permissions, hInside⟩, hVacant⟩)
      else
        none
  | _, _ => none

------------------------------------------------------------
-- Adjusting
------------------------------------------------------------

/- A change that leaves every directory a directory. -/
def KeepsDirectories (change : Node → Node) : Prop :=
  ∀ permissions,
    ∃ others,
      change (.directory permissions) = .directory others

/- A tree with one node changed. -/
def adjust
    (tree : FileTree)
    (location : Location)
    (change : Node → Node)
    (hKeeps : KeepsDirectories change) :
    FileTree :=
  ⟨changeAt location change tree.nodes, by
    have hDirectory :
        ∀ other,
          (∃ permissions,
            find other tree.nodes =
              some (.directory permissions)) →
          ∃ permissions,
            find other
                (changeAt location change tree.nodes) =
              some (.directory permissions) := by
      rintro other ⟨permissions, hFound⟩
      rw [find_changeAt, hFound]
      by_cases hHere : other = location
      · rcases hKeeps permissions with ⟨others, hChange⟩
        exact ⟨others, by simp [hHere, hChange]⟩
      · exact ⟨permissions, by simp [hHere]⟩
    exact {
      distinct := by
        rw [keys_changeAt]
        exact tree.isTree.distinct
      rooted := hDirectory [] tree.isTree.rooted
      attached := by
        intro name parent hMember
        rw [keys_changeAt] at hMember
        rcases tree.isTree.attached name parent hMember with
          ⟨hName, hParent⟩
        exact ⟨hName, hDirectory parent hParent⟩ }⟩

/- Adjusting shows at the adjusted location only. -/
theorem node?_adjust
    (tree : FileTree)
    (location : Location)
    (change : Node → Node)
    (hKeeps : KeepsDirectories change)
    (other : Location) :
    (tree.adjust location change hKeeps).node? other =
      (tree.node? other).map fun node =>
        if other = location then change node else node :=
  find_changeAt other location change tree.nodes

/- A tree with the content of one file replaced. -/
def setContent
    (tree : FileTree)
    (location : Location)
    (content : ByteArray) :
    FileTree :=
  tree.adjust location (Node.withContent content)
    fun permissions => ⟨permissions, rfl⟩

/- A tree with the permission bits of one node replaced. -/
def setPermissions
    (tree : FileTree)
    (location : Location)
    (permissions : Permissions) :
    FileTree :=
  tree.adjust location (Node.withPermissions permissions)
    fun _ => ⟨permissions, rfl⟩

------------------------------------------------------------
-- Detaching
------------------------------------------------------------

/- Test whether a location is another or lies below it. -/
def isWithin (location above : Location) : Bool :=
  decide (above <:+ location)

/- A tree without one node and all that lies below it. -/
def detach
    (tree : FileTree)
    (location : Location)
    (hBelow : location ≠ []) :
    FileTree :=
  ⟨tree.nodes.filter fun entry =>
      !isWithin entry.1 location, {
    distinct := by
      have hSublist :
          ((tree.nodes.filter fun entry =>
              !isWithin entry.1 location).map
                (·.1)).Sublist
            (tree.nodes.map (·.1)) :=
        List.filter_sublist.map _
      exact hSublist.nodup tree.isTree.distinct
    rooted := by
      rcases tree.isTree.rooted with ⟨permissions, hRoot⟩
      refine ⟨permissions, ?_⟩
      rw [find_filter [] fun key => !isWithin key location]
      simpa [isWithin, hBelow] using hRoot
    attached := by
      intro name parent hMember
      have hKeys :
          name :: parent ∈ tree.nodes.map (·.1) ∧
            isWithin (name :: parent) location = false := by
        rcases List.mem_map.mp hMember with
          ⟨entry, hEntry, hKey⟩
        rcases List.mem_filter.mp hEntry with
          ⟨hOld, hKept⟩
        refine ⟨List.mem_map.mpr ⟨entry, hOld, hKey⟩, ?_⟩
        simpa [hKey] using hKept
      rcases tree.isTree.attached name parent hKeys.1 with
        ⟨hName, permissions, hFound⟩
      refine ⟨hName, permissions, ?_⟩
      rw [find_filter parent fun key =>
        !isWithin key location]
      have hAbove : isWithin parent location = false := by
        have hNot := hKeys.2
        simp only [isWithin, decide_eq_false_iff_not]
          at hNot ⊢
        intro hSuffix
        exact hNot
          (hSuffix.trans (List.suffix_cons name parent))
      simp [hAbove, hFound] }⟩

/- Detaching hides exactly what lies within the location. -/
theorem node?_detach
    (tree : FileTree)
    (location : Location)
    (hBelow : location ≠ [])
    (other : Location) :
    (tree.detach location hBelow).node? other =
      if isWithin other location then none
      else tree.node? other := by
  unfold node? detach
  rw [find_filter other fun key => !isWithin key location]
  cases isWithin other location <;> simp

end FileTree

end Disk

end Aggregation
