import Aggregation.Disk.Upkeep

/-
  Trees read from listings.

  A line of a listing has three fields with a tab between
  them: the kind of an entry, its path and the target of a
  link.  The kinds are `d`, `f` and `l`, and a line of any
  other form is passed over.

  Key definitions include:
    * `seedOfKind`
    * `FileTree.plantLine`
    * `FileTree.plantListing`
-/

------------------------------------------------------------
-- Lines
------------------------------------------------------------

namespace Aggregation

namespace Disk

/- What a kind of entry plants.  Files are listed empty. -/
def seedOfKind (kind target : String) : Option Seed :=
  match kind with
  | "d" => some .directory
  | "f" => some (.file .empty)
  | "l" => some (.link target)
  | _ => none

/- Fields of a line. -/
def listingFields (line : List Char) : List String :=
  (Text.splitOn (· == '\t') line).map String.ofList

namespace FileTree

/- Put the entry of a line into a tree. -/
def plantLine
    (viewer : Viewer)
    (tree : FileTree)
    (line : List Char) :
    Except Fault FileTree :=
  match listingFields line with
  | [kind, path, target] =>
      match seedOfKind kind target with
      | some seed =>
          tree.plant viewer (Path.ofString path) seed
      | none => .ok tree
  | _ => .ok tree

------------------------------------------------------------
-- Listings
------------------------------------------------------------

/- Put the entries of a listing into a tree. -/
def plantListing
    (viewer : Viewer)
    (tree : FileTree)
    (listing : String) :
    Except Fault FileTree :=
  (Text.splitOn (· == '\n') listing.toList).foldlM
    (plantLine viewer) tree

end FileTree

end Disk

end Aggregation
