import Aggregation.Disk.Viewer

/-
  Questions about a tree of files.

  Key definitions include:
    * `FileTree.status`
    * `FileTree.exists?`
    * `FileTree.isDirectory?`
    * `FileTree.isFile?`
    * `FileTree.list`
    * `FileTree.read`
-/

------------------------------------------------------------
-- Status
------------------------------------------------------------

namespace Aggregation

namespace Disk

namespace FileTree

/- The node that a path leads to, and where it is. -/
def status
    (tree : FileTree)
    (viewer : Viewer)
    (path : Path) :
    Except Fault (Location × Node) :=
  match tree.resolve viewer path with
  | .ok (.present location node) => .ok (location, node)
  | .ok (.vacant _ _) => .error .missing
  | .error fault => .error fault

/-
  Test the node that a path leads to.  Nothing there means
  no, and any other trouble is a fault.
-/
def test
    (tree : FileTree)
    (viewer : Viewer)
    (path : Path)
    (accepts : Node → Bool) :
    Except Fault Bool :=
  match tree.status viewer path with
  | .ok (_, node) => .ok (accepts node)
  | .error fault =>
      if fault.meansAbsent then .ok false else .error fault

/- Test whether a path leads anywhere. -/
def exists?
    (tree : FileTree)
    (viewer : Viewer)
    (path : Path) :
    Except Fault Bool :=
  tree.test viewer path fun _ => true

/- Test whether a path leads to a directory. -/
def isDirectory?
    (tree : FileTree)
    (viewer : Viewer)
    (path : Path) :
    Except Fault Bool :=
  tree.test viewer path Node.isDirectory

/- Test whether a path leads to a regular file. -/
def isFile?
    (tree : FileTree)
    (viewer : Viewer)
    (path : Path) :
    Except Fault Bool :=
  tree.test viewer path Node.isFile

------------------------------------------------------------
-- Contents
------------------------------------------------------------

/- Names of the entries of the directory at a path. -/
def list
    (tree : FileTree)
    (viewer : Viewer)
    (path : Path) :
    Except Fault (List String) :=
  match tree.status viewer path with
  | .error fault => .error fault
  | .ok (location, .directory permissions) =>
      if viewer.may permissions.read then
        .ok (viewer.order.arrange location
          (tree.entries location))
      else
        .error .denied
  | .ok _ => .error .notDirectory

/- Bytes of the file at a path. -/
def read
    (tree : FileTree)
    (viewer : Viewer)
    (path : Path) :
    Except Fault ByteArray :=
  match tree.status viewer path with
  | .error fault => .error fault
  | .ok (_, .file content permissions) =>
      if viewer.may permissions.read then
        .ok content
      else
        .error .denied
  | .ok _ => .error .isDirectory

end FileTree

end Disk

end Aggregation
