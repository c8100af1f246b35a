import Aggregation.Disk.Writing

/-
  Everything that lies below the working directory.

  A directory that cannot be listed is passed over.  An
  entry that is listed and cannot be examined is a fault.

  Key definitions include:
    * `Survey`
    * `FileTree.survey`
    * `Survey.newDirectories`
    * `Survey.writtenFiles`
-/

------------------------------------------------------------
-- Surveys
------------------------------------------------------------

namespace Aggregation

namespace Disk

/- Nodes below a directory, named from there. -/
abbrev Survey := List (Location × Node)

/- Text of a location named from a directory. -/
def locationText (location : Location) : String :=
  Text.joinWith "/" location.reverse

/- Locations above another, up to and with a given one. -/
def locationsAbove (top : Location) :
    Location → List Location
  | [] => []
  | _ :: parent =>
      if parent = top then [parent]
      else parent :: locationsAbove top parent

namespace FileTree

/- Test a bit of the directory at a location. -/
def directoryGrants
    (tree : FileTree)
    (viewer : Viewer)
    (bit : Permissions → Bool)
    (location : Location) :
    Bool :=
  match tree.node? location with
  | some (.directory permissions) =>
      viewer.may (bit permissions)
  | _ => false

/- All that a viewer finds below the working directory. -/
def survey
    (tree : FileTree)
    (viewer : Viewer) :
    Except Fault Survey :=
  let home := viewer.home
  let listed := tree.nodes.filter fun (key, _) =>
    key ≠ home && isWithin key home &&
      (locationsAbove home key).all
        (tree.directoryGrants viewer Permissions.read)
  if listed.all fun (key, _) =>
      tree.directoryGrants viewer Permissions.search
        key.tail then
    .ok (listed.map fun (key, node) =>
      (key.take (key.length - home.length), node))
  else
    .error .denied

end FileTree

------------------------------------------------------------
-- Reports
------------------------------------------------------------

/- Order items by the text of their location. -/
def sortByText {α : Type}
    (items : List (String × α)) :
    List (String × α) :=
  items.mergeSort fun left right => left.1 ≤ right.1

/- Contents of a file as far as a viewer may read it. -/
def readableContent
    (viewer : Viewer) :
    Node → Except Fault (Option ByteArray)
  | .file content permissions =>
      if viewer.may permissions.read then
        .ok (some content)
      else
        .error .denied
  | _ => .ok none

/- All nodes of a survey by their texts. -/
def Survey.listing (survey : Survey) :
    List (String × Node) :=
  sortByText
    (survey.map fun (key, node) => (locationText key, node))

/- Directories that a later survey has and an earlier not. -/
def Survey.newDirectories (before after : Survey) :
    List String :=
  ((sortByText
    ((after.filter fun (key, node) =>
        node.isDirectory &&
          !before.any fun (other, old) =>
            other == key && old.isDirectory).map
      fun (key, node) => (locationText key, node)))).map
    (·.1)

/- Files of a survey that are among given locations. -/
def Survey.writtenFiles
    (after : Survey)
    (viewer : Viewer)
    (written : List Location) :
    List (String × ByteArray) :=
  sortByText
    (after.filterMap fun (key, node) =>
      match node with
      | .file content _ =>
          if written.contains (key ++ viewer.home) then
            some (locationText key, content)
          else
            none
      | _ => none)

end Disk

end Aggregation
