import Aggregation.Disk.Fault
import Aggregation.Disk.Tree
import Aggregation.Path

/-
  Paths followed through a tree of files.

  Every name but a double dot must be an entry of the
  directory reached so far, and a symbolic link is replaced
  by the names of its target.  A path that meets too many
  links leads nowhere.  Who wants to create a file at the
  end of a path is also stopped by a slash behind its name.

  Key definitions include:
    * `ListingOrder`
    * `Viewer`
    * `FileTree.follow`
    * `FileTree.resolve`
    * `FileTree.resolveToCreate`
-/

------------------------------------------------------------
-- Viewers
------------------------------------------------------------

namespace Aggregation

namespace Disk

/- An order in which directories list their entries. -/
structure ListingOrder where
  arrange : Location → List String → List String
  isPerm : ∀ location names,
    (arrange location names).Perm names

/- Entries are listed in the order in which they came. -/
def ListingOrder.stored : ListingOrder :=
  ⟨fun _ names => names, fun _ _ => .refl _⟩

/-
  Who looks at a tree: the working directory, whether the
  permission bits bind, and how directories are listed.
-/
structure Viewer where
  home : Location
  bound : Bool
  order : ListingOrder

namespace Viewer

/- Test whether a viewer may do what some bit grants. -/
def may (viewer : Viewer) (granted : Bool) : Bool :=
  !viewer.bound || granted

/- Location at which paths of an anchor start. -/
def start (viewer : Viewer) : Anchor → Location
  | .relative => viewer.home
  | _ => []

end Viewer

------------------------------------------------------------
-- Single Steps
------------------------------------------------------------

/- Where a path leads: to a node, or just past a directory. -/
inductive Destination where
  | present (location : Location) (node : Node)
  | vacant (parent : Location) (name : String)

namespace FileTree

/- A location must be a directory that can be searched. -/
def enter
    (tree : FileTree)
    (viewer : Viewer)
    (location : Location) :
    Except Fault Unit :=
  match tree.node? location with
  | some (.directory permissions) =>
      if viewer.may permissions.search then
        .ok ()
      else
        .error .denied
  | some _ => .error .notDirectory
  | none => .error .missing

/-
  Names of the target of a link.  A slash at the end asks
  for a directory, as a dot does.  A dot at the end is
  doubled, so that the two can be told apart.
-/
def targetNames (target : String) : List String :=
  let names :=
    (Text.splitOn (· == '/') target.toList).map String.ofList
  let last := names.getLastD ""
  names.filter (· != "") ++
    (if last = "" ∨ last = "." then ["."] else [])

/- Names before a last one that only a slash is behind. -/
def beforeSlash (names : List String) :
    Option (List String) :=
  match names.reverse with
  | slash :: last :: above =>
      if slash = "." ∧ last ≠ "." ∧ last ≠ ".." then
        some above.reverse
      else
        none
  | _ => none

/- Location at which the target of a link starts. -/
def targetStart (location : Location) (target : String) :
    Location :=
  if target.toList.head? = some '/' then [] else location

------------------------------------------------------------
-- Whole Paths
------------------------------------------------------------

/-
  Follow names from a location.  What to do at a link is
  given: it gets the start of the target and all the names
  that remain.
-/
def followWith
    (tree : FileTree)
    (viewer : Viewer)
    (atLink :
      Location → List String →
        Except Fault Destination)
    (location : Location) :
    List String → Except Fault Destination
  | [] =>
      match tree.node? location with
      | some node => .ok (.present location node)
      | none => .error .missing
  | name :: rest =>
      match tree.enter viewer location with
      | .error fault => .error fault
      | .ok () =>
          if name = "." then
            followWith tree viewer atLink location rest
          else if name = ".." then
            followWith tree viewer atLink location.tail rest
          else if nameLimit < name.utf8ByteSize then
            .error .nameTooLong
          else
            match tree.node? (name :: location) with
            | none =>
                if rest = [] then
                  .ok (.vacant location name)
                else
                  .error .missing
            | some (.link target) =>
                atLink (targetStart location target)
                  (targetNames target ++ rest)
            | some _ =>
                followWith tree viewer atLink
                  (name :: location) rest

/- Follow names through at most some number of links. -/
def follow
    (tree : FileTree)
    (viewer : Viewer) :
    (links : Nat) → Location → List String →
      Except Fault Destination
  | 0 =>
      tree.followWith viewer
        fun _ _ => .error .tooManyLinks
  | links + 1 =>
      tree.followWith viewer (tree.follow viewer links)

/- Most links that one path can meet. -/
def linkLimit : Nat := 40

/- Number of bytes from which on a path is too long. -/
def pathLimit : Nat := 4096

/- Refuse paths that cannot be looked up at all. -/
def admits (path : Path) : Except Fault Unit :=
  if path.hasNull then
    .error .nullCharacter
  else if pathLimit ≤ path.byteSize then
    .error .nameTooLong
  else
    .ok ()

/- Follow a path to the end. -/
def resolve
    (tree : FileTree)
    (viewer : Viewer)
    (path : Path) :
    Except Fault Destination :=
  match admits path with
  | .error fault => .error fault
  | .ok () =>
      tree.follow viewer linkLimit
        (viewer.start path.anchor) path.steps

------------------------------------------------------------
-- Files to Create
------------------------------------------------------------

/-
  A file with a slash behind its name is not looked up, once
  its directory is reached.
-/
def refuseSlash
    (tree : FileTree)
    (viewer : Viewer) :
    Except Fault Destination → Except Fault Destination
  | .error fault => .error fault
  | .ok (.vacant _ _) => .error .missing
  | .ok (.present parent _) =>
      match tree.enter viewer parent with
      | .error fault => .error fault
      | .ok () => .error .isDirectory

/-
  Follow names to a file that is created if it is not there.
  Only the target of a link can have a slash at its end.
-/
def followToCreate
    (tree : FileTree)
    (viewer : Viewer) :
    (links : Nat) → Location → List String →
      Except Fault Destination
  | 0 =>
      tree.followWith viewer
        fun _ _ => .error .tooManyLinks
  | links + 1 =>
      tree.followWith viewer fun start names =>
        match beforeSlash names with
        | some above =>
            tree.refuseSlash viewer
              (tree.follow viewer links start above)
        | none => tree.followToCreate viewer links start names

/- Follow a path to the end, where a file can be created. -/
def resolveToCreate
    (tree : FileTree)
    (viewer : Viewer)
    (path : Path) :
    Except Fault Destination :=
  match admits path with
  | .error fault => .error fault
  | .ok () =>
      tree.followToCreate viewer linkLimit
        (viewer.start path.anchor) path.steps

end FileTree

end Disk

end Aggregation
