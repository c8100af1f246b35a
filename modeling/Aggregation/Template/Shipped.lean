import Aggregation.Template.Basic
import Aggregation.Path

/-
  The templates of the four kinds of generated files.

  Key definitions include:
    * `Template.placeholder`
    * `Template.barrelIndex`
    * `Template.barrelWrapper`
    * `Template.composed`
    * `Template.named?`
-/

------------------------------------------------------------
-- Notions
------------------------------------------------------------

namespace Aggregation

namespace Template

/- A fixed text outside a repetition. -/
def fixed (text : String) : Section :=
  .single (.fixed text)

/- A variable outside a repetition. -/
def shows (name : String) : Section :=
  .single (.value name)

------------------------------------------------------------
-- Placeholder and Barrel
------------------------------------------------------------

/- A module that exports nothing. -/
def placeholder : Template :=
  [shows "header",
    fixed "\nexport \x7b\x7d;\n"]

/- A module with one named export for each element. -/
def barrelIndex : Template :=
  [shows "header",
    fixed "\n",
    .repeated "elements"
      [.fixed "export \x7b default as ",
        .attribute "identifier",
        .fixed " \x7d from './",
        .attribute "file",
        .fixed "';\n"]
      [.fixed "export \x7b\x7d;\n"]]

/- A module that exports an index as one namespace. -/
def barrelWrapper : Template :=
  [shows "header",
    fixed "\nexport * as default from '",
    shows "index_import_path",
    fixed "';\n"]

------------------------------------------------------------
-- Composed Module
------------------------------------------------------------

/- Import of one element. -/
def importLine : List Piece :=
  [.fixed "import ",
    .attribute "identifier",
    .fixed " from './",
    .value "elements_dir",
    .fixed "/",
    .attribute "file",
    .fixed "';\n"]

/- Type of the property that holds one element. -/
def memberLine : List Piece :=
  [.fixed "  ",
    .attribute "identifier",
    .fixed ": ",
    .value "type_name",
    .fixed "<typeof ",
    .attribute "identifier",
    .fixed ">;\n"]

/- Assignment of one element to its property. -/
def assignmentLine : List Piece :=
  [.value "component_name",
    .fixed ".",
    .attribute "identifier",
    .fixed " = ",
    .attribute "identifier",
    .fixed " as ",
    .value "component_name",
    .fixed "Type['",
    .attribute "identifier",
    .fixed "'];\n"]

/-
  A module whose default export is the root element with the
  other elements as its properties.
-/
def composed : Template :=
  [shows "header",
    fixed "\nimport type \x7b ",
    shows "type_name",
    fixed " \x7d from '",
    shows "type_module",
    fixed "';\nimport ",
    shows "root_alias",
    fixed " from './",
    shows "elements_dir",
    fixed "/",
    shows "root_file",
    fixed "';\n",
    .repeated "elements" importLine [],
    fixed "\ntype ",
    shows "component_name",
    fixed "Type = typeof ",
    shows "root_alias",
    fixed " & \x7b\n",
    .repeated "elements" memberLine [],
    fixed "\x7d;\n\nconst ",
    shows "component_name",
    fixed " = ",
    shows "root_alias",
    fixed " as ",
    shows "component_name",
    fixed "Type;\n",
    .repeated "elements" assignmentLine [],
    fixed "\nexport default ",
    shows "component_name",
    fixed ";\n"]

------------------------------------------------------------
-- Names
------------------------------------------------------------

/-
  Names on the way to a template.  Empty names and dots are
  dropped, and a double dot leads nowhere.
-/
def pieces (name : String) : Option (List String) :=
  let names := Path.segments name.toList
  if names.contains ".." then none else some names

/- A template by its file name. -/
def byFileName : List String → Option Template
  | ["composed.ts.j2"] => some composed
  | ["barrel_index.ts.j2"] => some barrelIndex
  | ["barrel_wrapper.ts.j2"] => some barrelWrapper
  | ["placeholder.ts.j2"] => some placeholder
  | _ => none

/- A template by the name under which it is asked for. -/
def named? (name : String) : Except RenderError Template :=
  match (pieces name).bind byFileName with
  | some template => .ok template
  | none => .error (.missingTemplate name)

/- Render the template of a name. -/
def renderNamed (name : String) (context : Fields) :
    Except RenderError String :=
  match named? name with
  | .error error => .error error
  | .ok template => template.render context

end Template

end Aggregation
