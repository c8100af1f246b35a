import Aggregation.Component
import Aggregation.Settings
import Aggregation.Value

/-
  What the generated modules of a component say.

  Every kind of module has a context: the values that its
  template prints.

  Key definitions include:
    * `Element`
    * `rootAlias`
    * `composedContext`
    * `indexContext`
    * `wrapperContext`
    * `placeholderContext`
-/

------------------------------------------------------------
-- Elements
------------------------------------------------------------

namespace Aggregation

/- An element with its file and its identifier. -/
structure Element where
  name : String
  file : String
  identifier : String
  deriving DecidableEq, Repr

/- The element of a base name. -/
def Element.ofName (extension name : String) : Element :=
  ⟨name, name ++ extension, normalize name⟩

/- An element as templates see it. -/
def Element.value (element : Element) : Value :=
  .object
    [("name", .text element.name),
      ("file", .text element.file),
      ("identifier", .text element.identifier)]

/- The elements of base names. -/
def elementsOf
    (extension : String)
    (names : List String) :
    List Element :=
  names.map (Element.ofName extension)

/- Elements as templates see them. -/
def elementsValue (elements : List Element) : Value :=
  .list (elements.map Element.value)

------------------------------------------------------------
-- Alias of the Root
------------------------------------------------------------

/-
  An alias with as few underscores in front as keep it apart
  from names that are taken.
-/
def freshAlias (taken : List String) :
    (tries : Nat) → String → String
  | 0, candidate => candidate
  | tries + 1, candidate =>
      if taken.contains candidate then
        freshAlias taken tries ("_" ++ candidate)
      else
        candidate

/- Name of the type that belongs to an identifier. -/
def typeNameOf (identifier : String) : String :=
  identifier ++ "Type"

/- Names that the alias of a root must not have. -/
def takenNames
    (settings : Settings)
    (identifier : String)
    (elements : List Element) :
    List String :=
  [identifier, typeNameOf identifier, settings.typeName] ++
    elements.map Element.identifier

/- Name under which a module imports the root element. -/
def rootAlias
    (settings : Settings)
    (identifier : String)
    (elements : List Element) :
    String :=
  let taken := takenNames settings identifier elements
  freshAlias taken taken.length settings.rootAlias

------------------------------------------------------------
-- Contexts
------------------------------------------------------------

/-
  Names that are not spellings of the root: they have other
  identifiers than the component.
-/
def besideRoot
    (identifier : String)
    (names : List String) :
    List String :=
  names.filter fun name => normalize name != identifier

/- The elements that become properties of the root. -/
def properties
    (settings : Settings)
    (identifier : String)
    (names : List String) :
    List Element :=
  elementsOf settings.sourceExtension.text
    (besideRoot identifier names)

/- A text or nothing, as templates see it. -/
def optionalText : Option String → Value
  | some text => .text text
  | none => .null

/- Context of a module that is composed around a root. -/
def composedContext
    (settings : Settings)
    (directory : Path)
    (names : List String)
    (rootFile : Option String) :
    Fields :=
  let identifier := normalize directory.name
  let elements := properties settings identifier names
  [("header", .text settings.header),
    ("type_name", .text settings.typeName),
    ("type_module", .text settings.typeModule),
    ("root_alias",
      .text (rootAlias settings identifier elements)),
    ("root_file", optionalText rootFile),
    ("elements_dir", .text settings.elementsName.text),
    ("component_name", .text identifier),
    ("elements", elementsValue elements)]

/- Context of an index of elements. -/
def indexContext
    (settings : Settings)
    (names : List String) :
    Fields :=
  [("header", .text settings.header),
    ("elements",
      elementsValue
        (elementsOf settings.sourceExtension.text names))]

/- Context of a module that wraps an index. -/
def wrapperContext (settings : Settings) : Fields :=
  [("header", .text settings.header),
    ("index_import_path", .text settings.indexImportPath)]

/- Context of a placeholder. -/
def placeholderContext (settings : Settings) : Fields :=
  [("header", .text settings.header)]

end Aggregation
