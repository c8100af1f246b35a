import Aggregation.Component
import Aggregation.Disk.Query
import Aggregation.Failure
import Aggregation.Settings

/-
  The component directories of a library.

  A directory with a folder of elements is a component, and
  its files are its elements.  Any other directory is only
  searched further.  Nothing below a component is searched,
  and the library itself is never a component.

  Key definitions include:
    * `sourceFiles`
    * `describe`
    * `scanBelow`
    * `scan`
-/

------------------------------------------------------------
-- Single Directories
------------------------------------------------------------

namespace Aggregation

open Disk (FileTree Viewer)

/- Put a name before the first one that is not smaller. -/
def insertName (name : Name) : List Name → List Name
  | [] => [name]
  | other :: rest =>
      if name ≤ other then
        name :: other :: rest
      else
        other :: insertName name rest

/- Names in the order of their code points. -/
def sortNames : List Name → List Name
  | [] => []
  | name :: rest => insertName name (sortNames rest)

/- Order the names of entries as the settings ask. -/
def Settings.arrange
    (settings : Settings)
    (names : List Name) :
    List Name :=
  if settings.sortEntries then
    sortNames names
  else
    names

/- Names of the entries of a directory. -/
def entryNames
    (tree : FileTree)
    (viewer : Viewer)
    (settings : Settings)
    (directory : Path) :
    Except Failure (List Name) :=
  match tree.list viewer directory with
  | .error fault =>
      .error (.file ⟨directory, .listing fault⟩)
  | .ok names => .ok (settings.arrange names)

/- Test for a directory that a scan can enter. -/
def isSearchable
    (tree : FileTree)
    (viewer : Viewer)
    (path : Path) :
    Except Failure Bool :=
  match tree.isDirectory? viewer path with
  | .error fault => .error (.file ⟨path, .status fault⟩)
  | .ok answer => .ok answer

------------------------------------------------------------
-- Components
------------------------------------------------------------

/- Test for a name that ends in an extension. -/
def Extension.isAtEnd
    (extension : Extension)
    (name : Name) :
    Bool :=
  extension.text.toList.isSuffixOf name.toList

/- A name without the extension at its end. -/
def Extension.stem
    (extension : Extension)
    (name : Name) :
    String :=
  String.ofList
    (name.toList.take
      (name.length - extension.text.length))

/- Those names that are regular files of an extension. -/
def sourceFiles
    (tree : FileTree)
    (viewer : Viewer)
    (extension : Extension)
    (directory : Path) :
    List Name → Except Failure (List Name)
  | [] => .ok []
  | name :: rest =>
      match tree.isFile? viewer (directory.child name) with
      | .error fault =>
          .error (.system (directory.child name) fault)
      | .ok isFile =>
          match sourceFiles tree viewer extension directory
              rest with
          | .error failure => .error failure
          | .ok files =>
              if isFile && extension.isAtEnd name then
                .ok (name :: files)
              else
                .ok files

/-
  The component with given source files.  Its root is the
  first file with the identifier of the directory.
-/
def Component.ofFiles
    (extension : Extension)
    (directory : Path)
    (files : List Name) :
    Component :=
  ⟨directory,
    files.map extension.stem,
    files.find? fun file =>
      normalize (extension.stem file) ==
        normalize directory.name⟩

/- The component at a directory with a folder of elements. -/
def describe
    (tree : FileTree)
    (viewer : Viewer)
    (settings : Settings)
    (directory elementsDirectory : Path) :
    Except Failure Component :=
  match entryNames tree viewer settings elementsDirectory with
  | .error failure => .error failure
  | .ok names =>
      match sourceFiles tree viewer settings.sourceExtension
          elementsDirectory names with
      | .error failure => .error failure
      | .ok files =>
          .ok (.ofFiles settings.sourceExtension directory
            files)

------------------------------------------------------------
-- Libraries
------------------------------------------------------------

/- Components at one entry, given how to search below it. -/
def scanEntry
    (tree : FileTree)
    (viewer : Viewer)
    (settings : Settings)
    (below : Path → Except Failure (List Component))
    (item : Path) :
    Except Failure (List Component) :=
  match isSearchable tree viewer item with
  | .error failure => .error failure
  | .ok false => .ok []
  | .ok true =>
      let elements := item.join settings.elementsName.text
      match isSearchable tree viewer elements with
      | .error failure => .error failure
      | .ok false => below item
      | .ok true =>
          match describe tree viewer settings item
              elements with
          | .error failure => .error failure
          | .ok component => .ok [component]

/- Components at entries in turn; the first failure ends. -/
def scanEntries
    (scanOne : Path → Except Failure (List Component))
    (directory : Path) :
    List Name → Except Failure (List Component)
  | [] => .ok []
  | name :: rest =>
      match scanOne (directory.child name) with
      | .error failure => .error failure
      | .ok found =>
          match scanEntries scanOne directory rest with
          | .error failure => .error failure
          | .ok others => .ok (found ++ others)

/-
  Components below a directory.  The depth bounds the number
  of levels, and a path of so many levels is too long.
-/
def scanBelow
    (tree : FileTree)
    (viewer : Viewer)
    (settings : Settings) :
    (depth : Nat) → Path → Except Failure (List Component)
  | 0, directory =>
      .error (.file ⟨directory, .listing .nameTooLong⟩)
  | depth + 1, directory =>
      match entryNames tree viewer settings directory with
      | .error failure => .error failure
      | .ok names =>
          scanEntries
            (scanEntry tree viewer settings
              (scanBelow tree viewer settings depth))
            directory names

/- Components below the directory of a library. -/
def scan
    (tree : FileTree)
    (viewer : Viewer)
    (settings : Settings)
    (library : Path) :
    Except Failure (List Component) :=
  match tree.exists? viewer library with
  | .error fault => .error (.system library fault)
  | .ok false =>
      .error (.file ⟨library, .noComponentsDirectory⟩)
  | .ok true =>
      match tree.isDirectory? viewer library with
      | .error fault => .error (.system library fault)
      | .ok false =>
          .error (.file ⟨library, .componentsNotDirectory⟩)
      | .ok true =>
          scanBelow tree viewer settings
            Disk.FileTree.pathLimit library

end Aggregation
