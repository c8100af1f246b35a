import Aggregation.Disk.Writing

/-
  Trees set up, moved and cleared by hand.

  Key definitions include:
    * `Seed`
    * `FileTree.plant`
    * `FileTree.remove`
    * `FileTree.rename`
-/

------------------------------------------------------------
-- Places
------------------------------------------------------------

namespace Aggregation

namespace Disk

namespace FileTree

/-
  The directory of a path's innermost name, with the name.
  The name itself is not followed.
-/
def place
    (tree : FileTree)
    (viewer : Viewer)
    (path : Path) :
    Except Fault (Location × String) :=
  match admits path with
  | .error fault => .error fault
  | .ok () =>
      match path.names with
      | [] => .error .exists
      | name :: above =>
          match tree.follow viewer linkLimit
              (viewer.start path.anchor) above.reverse with
          | .error fault => .error fault
          | .ok (.vacant _ _) => .error .missing
          | .ok (.present parent _) =>
              match tree.enter viewer parent with
              | .error fault => .error fault
              | .ok () =>
                  if nameLimit < name.utf8ByteSize then
                    .error .nameTooLong
                  else
                    .ok (parent, name)

/- A directory must grant changes to its entries. -/
def mayChange
    (tree : FileTree)
    (viewer : Viewer)
    (parent : Location) :
    Except Fault Unit :=
  match tree.node? parent with
  | some (.directory permissions) =>
      if viewer.may permissions.write then
        .ok ()
      else
        .error .denied
  | _ => .error .notDirectory

------------------------------------------------------------
-- Planting
------------------------------------------------------------

end FileTree

/- What to put at a path. -/
inductive Seed where
  | file (content : ByteArray)
  | directory
  | link (target : String)

namespace FileTree

/- Put a link where nothing is. -/
def makeLink
    (tree : FileTree)
    (viewer : Viewer)
    (path : Path)
    (target : String) :
    Except Fault FileTree := do
  if target.isEmpty then
    throw .missing
  let (parent, name) ← tree.place viewer path
  if (tree.node? (name :: parent)).isSome then
    throw .exists
  tree.mayChange viewer parent
  match tree.attach? parent name (.link target) with
  | some grown => pure grown
  | none => throw .missing

/- Put a file, directory or link and what is above it. -/
def plant
    (tree : FileTree)
    (viewer : Viewer)
    (path : Path)
    (seed : Seed) :
    Except Fault FileTree :=
  match seed with
  | .directory =>
      match ensureDirectory viewer path.anchor tree
          path.names with
      | (grown, .ok ()) => .ok grown
      | (_, .error fault) => .error fault
  | _ =>
      match ensureDirectory viewer path.anchor tree
          path.parent.names with
      | (_, .error fault) => .error fault
      | (grown, .ok ()) =>
          match seed with
          | .file content =>
              ((⟨grown, []⟩ : Store).overwrite viewer path
                content).map (·.tree)
          | .link target =>
              grown.makeLink viewer path target
          | .directory => .ok grown

/- Set the permission bits of what a path leads to. -/
def grant
    (tree : FileTree)
    (viewer : Viewer)
    (path : Path)
    (permissions : Permissions) :
    Except Fault FileTree :=
  (tree.status viewer path).map fun (location, _) =>
    tree.setPermissions location permissions

------------------------------------------------------------
-- Removing
------------------------------------------------------------

/- Remove a node and all that lies below it. -/
def remove
    (tree : FileTree)
    (viewer : Viewer)
    (path : Path) :
    Except Fault FileTree := do
  let (parent, name) ← tree.place viewer path
  if (tree.node? (name :: parent)).isNone then
    throw .missing
  tree.mayChange viewer parent
  pure (tree.detach (name :: parent) (by simp))

------------------------------------------------------------
-- Renaming
------------------------------------------------------------

/- Nodes within a location, the shallower ones first. -/
def within
    (tree : FileTree)
    (location : Location) :
    List (Location × Node) :=
  (tree.nodes.filter fun entry =>
      isWithin entry.1 location).mergeSort
    fun left right => left.1.length ≤ right.1.length

/- Attach nodes taken from one location at another. -/
def replant
    (source target : Location)
    (tree : FileTree)
    (nodes : List (Location × Node)) :
    FileTree :=
  nodes.foldl
    (fun grown (key, node) =>
      let inner := key.take (key.length - source.length)
      match inner ++ target with
      | name :: parent =>
          (grown.attach? parent name node).getD grown
      | [] => grown)
    tree

/- Refuse to put one node in the place of another. -/
def checkReplacement
    (tree : FileTree)
    (moved replaced : Node)
    (target : Location) :
    Except Fault Unit :=
  match moved.isDirectory, replaced.isDirectory with
  | true, true =>
      if (tree.entries target).isEmpty then .ok ()
      else .error .notEmpty
  | true, false => .error .notDirectory
  | false, true => .error .isDirectory
  | false, false => .ok ()

/- Move a node and all below it to a new place. -/
def rename
    (tree : FileTree)
    (viewer : Viewer)
    (path newPath : Path) :
    Except Fault FileTree := do
  let (parent, name) ← tree.place viewer path
  let (newParent, newName) ← tree.place viewer newPath
  let source := name :: parent
  let target := newName :: newParent
  match tree.node? source with
  | none => throw .missing
  | some moved =>
      if source = target then
        pure tree
      else if isWithin target source then
        throw .insideItself
      else
        tree.mayChange viewer parent
        tree.mayChange viewer newParent
        match tree.node? target with
        | none => pure ()
        | some replaced =>
            tree.checkReplacement moved replaced target
        let branch := tree.within source
        let cleared :=
          (tree.detach source (by simp [source])).detach
            target (by simp [target])
        pure (replant source target cleared branch)

end FileTree

end Disk

end Aggregation
