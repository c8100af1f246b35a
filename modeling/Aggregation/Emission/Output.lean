import Aggregation.Emission.Context
import Aggregation.Failure
import Aggregation.Template.Shipped

/-
  The files that are generated for a component.

  A file is rendered before anything is written, so a faulty
  context never leaves a file behind.

  Key definitions include:
    * `Output`
    * `Output.emit`
    * `Component.outputs`
    * `ensureMarker`
-/

------------------------------------------------------------
-- Outputs
------------------------------------------------------------

namespace Aggregation

open Disk (Store Viewer)

/- A file to generate. -/
structure Output where
  path : Path
  template : Template
  context : Fields

namespace Output

/- Render a file and write it. -/
def emit
    (output : Output)
    (viewer : Viewer)
    (skipUnchanged : Bool)
    (store : Store) :
    Store × Except Failure Path :=
  match output.template.render output.context with
  | .error error => (store, .error (.rendering error))
  | .ok text =>
      match store.save viewer skipUnchanged output.path
          text with
      | (after, .error fault) =>
          (after, .error (Failure.ofWriting output.path fault))
      | (after, .ok _) => (after, .ok output.path)

end Output

/- Write files in turn; the first failure ends. -/
def emitAll
    (viewer : Viewer)
    (skipUnchanged : Bool)
    (store : Store) :
    List Output → Store × Except Failure (List Path)
  | [] => (store, .ok [])
  | output :: rest =>
      match output.emit viewer skipUnchanged store with
      | (after, .error failure) => (after, .error failure)
      | (after, .ok path) =>
          match emitAll viewer skipUnchanged after rest with
          | (final, .error failure) => (final, .error failure)
          | (final, .ok paths) => (final, .ok (path :: paths))

------------------------------------------------------------
-- Files of a Component
------------------------------------------------------------

/- Path of the file at the root of a component. -/
def aggregationPath
    (settings : Settings)
    (directory : Path) :
    Path :=
  directory.join settings.aggregationName

/- Path of the index of a component. -/
def indexPath
    (settings : Settings)
    (directory : Path) :
    Path :=
  (directory.join settings.elementsName.text).join
    settings.indexFileName

/- The placeholder of a component. -/
def placeholderOutput
    (settings : Settings)
    (directory : Path) :
    Output :=
  ⟨aggregationPath settings directory,
    Template.placeholder,
    placeholderContext settings⟩

/- The module that is composed around a root. -/
def composedOutput
    (settings : Settings)
    (directory : Path)
    (names : List String)
    (rootFile : Option String) :
    Output :=
  ⟨aggregationPath settings directory,
    Template.composed,
    composedContext settings directory names rootFile⟩

/- The index of elements. -/
def indexOutput
    (settings : Settings)
    (directory : Path)
    (names : List String) :
    Output :=
  ⟨indexPath settings directory,
    Template.barrelIndex,
    indexContext settings names⟩

/- The module that wraps an index. -/
def wrapperOutput
    (settings : Settings)
    (directory : Path) :
    Output :=
  ⟨aggregationPath settings directory,
    Template.barrelWrapper,
    wrapperContext settings⟩

/-
  The two files of a barrel.  The index comes first, so that
  the wrapper never names a module that is not there.
-/
def barrelOutputs
    (settings : Settings)
    (directory : Path)
    (names : List String) :
    List Output :=
  [indexOutput settings directory names,
    wrapperOutput settings directory]

/- The files of a component in the order of writing. -/
def Component.outputs
    (component : Component)
    (settings : Settings) :
    List Output :=
  match component.strategy with
  | .composed =>
      [composedOutput settings component.directory
        component.elements component.rootFile]
  | .barrel =>
      barrelOutputs settings component.directory
        component.elements

------------------------------------------------------------
-- Markers
------------------------------------------------------------

/- Test for something at the place of the marker. -/
def hasMarker
    (store : Store)
    (viewer : Viewer)
    (settings : Settings)
    (directory : Path) :
    Except Failure Bool :=
  let path := aggregationPath settings directory
  match store.tree.exists? viewer path with
  | .error fault => .error (.system path fault)
  | .ok answer => .ok answer

/-
  Write a placeholder where nothing is.  The outcome is its
  path if it was written.
-/
def ensureMarker
    (store : Store)
    (viewer : Viewer)
    (settings : Settings)
    (directory : Path) :
    Store × Except Failure (Option Path) :=
  match hasMarker store viewer settings directory with
  | .error failure => (store, .error failure)
  | .ok true => (store, .ok none)
  | .ok false =>
      match (placeholderOutput settings directory).emit viewer
          settings.skipUnchanged store with
      | (after, .error failure) => (after, .error failure)
      | (after, .ok path) => (after, .ok (some path))

end Aggregation
