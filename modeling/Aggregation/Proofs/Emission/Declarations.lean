import Aggregation.Proofs.Emission.Alias
import Aggregation.Proofs.Emission.Modules

/-
  The names that a composed module declares.

  A composed module imports a type, its root and its other
  elements, and it declares a type and a constant for the
  component.  Only the alias of the root is chosen so that
  it clashes with nothing.  The other names clash if
  elements have one identifier, or if one of them, the
  component or its type is named like the imported type.

  Key definitions include:
    * `Statement`
    * `composedStatements`
    * `DeclaresNames`

  Key theorems include:
    * `map_text_composedStatements`
    * `declared_composedStatements`
    * `declaresNames`
    * `composed_declaresNames`
-/

------------------------------------------------------------
-- Statements
------------------------------------------------------------

namespace Aggregation

/- A line of a module, with the name that it declares. -/
inductive Statement where
  | typeImport (name source : String)
  | valueImport (name source : String)
  | typeAlias (name definition : String)
  | constant (name definition : String)
  | plain (text : String)

namespace Statement

/- Text of a line. -/
def text : Statement → String
  | .typeImport name source =>
      "import type \x7b " ++ name ++ " \x7d from '" ++
        source ++ "';"
  | .valueImport name source =>
      "import " ++ name ++ " from '" ++ source ++ "';"
  | .typeAlias name definition =>
      "type " ++ name ++ " = " ++ definition
  | .constant name definition =>
      "const " ++ name ++ " = " ++ definition
  | .plain text => text

theorem text_valueImport (name source : String) :
    (valueImport name source).text =
      "import " ++ name ++ " from '" ++ source ++ "';" :=
  rfl

theorem text_typeAlias (name definition : String) :
    (typeAlias name definition).text =
      "type " ++ name ++ " = " ++ definition :=
  rfl

theorem text_constant (name definition : String) :
    (constant name definition).text =
      "const " ++ name ++ " = " ++ definition :=
  rfl

/- The name that a line declares. -/
def declared? : Statement → Option String
  | .typeImport name _ => some name
  | .valueImport name _ => some name
  | .typeAlias name _ => some name
  | .constant name _ => some name
  | .plain _ => none

end Statement

/- How a module refers to the file of an element. -/
def elementSource (settings : Settings) (file : String) :
    String :=
  "./" ++ settings.elementsName.text ++ "/" ++ file

/- Import of one element. -/
def importOf (settings : Settings) (element : Element) :
    Statement :=
  .valueImport element.identifier
    (elementSource settings element.file)

/- Lines of a module that is composed around a root. -/
def composedStatements
    (settings : Settings)
    (identifier rootName rootFile : String)
    (elements : List Element) :
    List Statement :=
  [Statement.plain settings.header,
    Statement.typeImport settings.typeName
      settings.typeModule,
    Statement.valueImport rootName
      (elementSource settings rootFile)] ++
  elements.map (importOf settings) ++
  [Statement.plain "",
    Statement.typeAlias (typeNameOf identifier)
      ("typeof " ++ rootName ++ " & \x7b")] ++
  elements.map (fun element =>
    Statement.plain (memberLineOf settings element)) ++
  [Statement.plain "\x7d;",
    Statement.plain "",
    Statement.constant identifier
      (rootName ++ " as " ++ typeNameOf identifier ++
        ";")] ++
  elements.map (fun element =>
    Statement.plain (assignmentLineOf identifier element)) ++
  [Statement.plain "",
    Statement.plain
      ("export default " ++ identifier ++ ";")]

variable {settings : Settings}
variable {identifier rootName : String}
variable {elements : List Element}

/- The statements of a module are its lines. -/
theorem map_text_composedStatements
    (settings : Settings)
    (identifier rootName rootFile : String)
    (elements : List Element) :
    (composedStatements settings identifier rootName
        rootFile elements).map Statement.text =
      composedLines settings identifier rootName rootFile
        elements := by
  have hImport :
      ∀ name file,
        (Statement.valueImport name
            (elementSource settings file)).text =
          importLineOf settings name file := by
    intro name file
    have hFrom : " from './" = " from '" ++ "./" := rfl
    rw [Statement.text_valueImport]
    unfold elementSource importLineOf
    simp only [hFrom, String.append_assoc]
  have hType :
      (Statement.typeAlias (typeNameOf identifier)
          ("typeof " ++ rootName ++ " & \x7b")).text =
        "type " ++ identifier ++ "Type = typeof " ++
          rootName ++ " & \x7b" := by
    have hSplit :
        "Type = typeof " = "Type" ++ (" = " ++ "typeof ") :=
      rfl
    rw [Statement.text_typeAlias]
    unfold typeNameOf
    simp only [hSplit, String.append_assoc]
  have hConstant :
      (Statement.constant identifier
          (rootName ++ " as " ++ typeNameOf identifier ++
            ";")).text =
        "const " ++ identifier ++ " = " ++ rootName ++
          " as " ++ identifier ++ "Type;" := by
    have hSplit : "Type;" = "Type" ++ ";" := rfl
    rw [Statement.text_constant]
    unfold typeNameOf
    simp only [hSplit, String.append_assoc]
  unfold composedStatements composedLines
  simp only [List.map_append, List.map_cons, List.map_nil,
    List.map_map, Function.comp_def, importOf, hImport,
    hType, hConstant]
  rfl

/- A module declares what it imports, a type and a constant. -/
theorem declared_composedStatements
    (settings : Settings)
    (identifier rootName rootFile : String)
    (elements : List Element) :
    (composedStatements settings identifier rootName
        rootFile elements).filterMap Statement.declared? =
      [settings.typeName, rootName] ++
        elements.map Element.identifier ++
        [typeNameOf identifier, identifier] := by
  have hImports :
      (elements.map (importOf settings)).filterMap
          Statement.declared? =
        elements.map Element.identifier := by
    rw [List.filterMap_map, ← List.filterMap_eq_map]
    rfl
  have hPlain :
      ∀ line : Element → String,
        (elements.map fun element =>
            Statement.plain (line element)).filterMap
          Statement.declared? =
            [] := by
    intro line
    rw [List.filterMap_map, List.filterMap_eq_nil_iff]
    intro element _
    rfl
  unfold composedStatements
  simp only [List.filterMap_append, hImports, hPlain,
    List.append_assoc]
  rfl

------------------------------------------------------------
-- Clashes
------------------------------------------------------------

/- An element that is a property is not named like the root. -/
theorem identifier_not_mem_properties
    (settings : Settings)
    (identifier : String)
    (names : List String) :
    identifier ∉
      (properties settings identifier names).map
        Element.identifier := by
  intro hMem
  rcases List.mem_map.mp hMem with
    ⟨element, hElement, hSame⟩
  rcases List.mem_map.mp hElement with ⟨name, hName, rfl⟩
  have hOther := (List.mem_filter.mp hName).2
  rw [bne_iff_ne] at hOther
  exact hOther hSame

theorem ne_typeNameOf (identifier : String) :
    identifier ≠ typeNameOf identifier := by
  intro hSame
  have hLength := congrArg String.length hSame
  have hFour : ("Type" : String).length = 4 := rfl
  unfold typeNameOf at hLength
  rw [String.length_append, hFour] at hLength
  omega

/-
  The names that a module declares.  The alias of the root
  is there once, and so is the component, unless the type
  that is imported has its name.
-/
structure DeclaresNames
    (settings : Settings)
    (identifier rootName : String)
    (elements : List Element)
    (declared : List String) :
    Prop where
  listed :
    declared =
      [settings.typeName, rootName] ++
        elements.map Element.identifier ++
        [identifier ++ "Type", identifier]
  rootOnce : declared.count rootName = 1
  componentCount :
    declared.count identifier =
      if settings.typeName = identifier then 2 else 1
  distinct_iff :
    declared.Nodup ↔
      (elements.map Element.identifier).Nodup ∧
        (∀ element ∈ elements,
          element.identifier ≠ settings.typeName ∧
            element.identifier ≠ identifier ++ "Type") ∧
        settings.typeName ≠ identifier ∧
        settings.typeName ≠ identifier ++ "Type"

theorem not_mem_takenNames_iff (name : String) :
    name ∉ takenNames settings identifier elements ↔
      name ≠ identifier ∧
        name ≠ typeNameOf identifier ∧
        name ≠ settings.typeName ∧
        name ∉ elements.map Element.identifier := by
  unfold takenNames
  simp only [List.mem_append, List.mem_cons,
    List.not_mem_nil, or_false, not_or, and_assoc, ne_eq]

/-
  An alias that is fresh clashes with no name, and no
  element is named like its component.  The other pairs of
  names are left.
-/
theorem nodup_declared_iff
    (hFresh :
      rootName ∉ takenNames settings identifier elements)
    (hRoot :
      identifier ∉ elements.map Element.identifier) :
    ([settings.typeName, rootName] ++
        elements.map Element.identifier ++
        [typeNameOf identifier, identifier]).Nodup ↔
      (elements.map Element.identifier).Nodup ∧
        (∀ element ∈ elements,
          element.identifier ≠ settings.typeName ∧
            element.identifier ≠
              typeNameOf identifier) ∧
        settings.typeName ≠ identifier ∧
        settings.typeName ≠ typeNameOf identifier := by
  rcases (not_mem_takenNames_iff rootName).mp hFresh with
    ⟨hNotComponent, hNotType, hNotImported, hNotElement⟩
  have hType := ne_typeNameOf identifier
  simp only [List.nodup_append, List.nodup_cons,
    List.mem_append, List.mem_cons, List.not_mem_nil,
    List.mem_map, or_false]
  constructor
  · intro hDistinct
    rcases hDistinct with
      ⟨⟨_, hIdentifiers, hFront⟩, _, hBack⟩
    refine ⟨hIdentifiers, ?_, ?_, ?_⟩
    · intro element hMem
      have hListed :
          ∃ other, other ∈ elements ∧
            other.identifier = element.identifier :=
        ⟨element, hMem, rfl⟩
      constructor
      · exact (hFront _ (Or.inl rfl) _ hListed).symm
      · exact hBack _ (Or.inr hListed) _ (Or.inl rfl)
    · exact hBack _ (Or.inl (Or.inl rfl)) _ (Or.inr rfl)
    · exact hBack _ (Or.inl (Or.inl rfl)) _ (Or.inl rfl)
  · intro hApart
    rcases hApart with
      ⟨hIdentifiers, hElements, hImported, hImportedType⟩
    refine
      ⟨⟨⟨hNotImported.symm, not_false, List.nodup_nil⟩,
          hIdentifiers, ?_⟩,
        ⟨hType.symm, not_false, List.nodup_nil⟩, ?_⟩
    -- Pairs with the alias are apart by its freshness.
    · rintro front hFront name ⟨element, hMem, rfl⟩
      rcases hFront with rfl | rfl
      · exact (hElements element hMem).1.symm
      · intro hSame
        exact
          hNotElement
            (List.mem_map.mpr
              ⟨element, hMem, hSame.symm⟩)
    · rintro name ((rfl | rfl) | ⟨element, hMem, rfl⟩)
        back (rfl | rfl)
      · exact hImportedType
      · exact hImported
      · exact hNotType
      · exact hNotComponent
      · exact (hElements element hMem).2
      · intro hSame
        exact
          hRoot (List.mem_map.mpr ⟨element, hMem, hSame⟩)

/- Only an alias that is fresh is safe from clashes. -/
theorem declaresNames
    (hFresh :
      rootName ∉ takenNames settings identifier elements)
    (hRoot :
      identifier ∉ elements.map Element.identifier) :
    DeclaresNames settings identifier rootName elements
      ([settings.typeName, rootName] ++
        elements.map Element.identifier ++
        [typeNameOf identifier, identifier]) := by
  have hType := ne_typeNameOf identifier
  rcases (not_mem_takenNames_iff rootName).mp hFresh with
    ⟨hNotComponent, hNotType, hNotImported, hNotElement⟩
  refine {
    listed := rfl
    rootOnce := ?_
    componentCount := ?_
    distinct_iff := nodup_declared_iff hFresh hRoot }
  · simp only [List.count_append, List.count_cons,
      List.count_nil, List.count_eq_zero_of_not_mem
        hNotElement, beq_iff_eq, if_true,
      if_neg hNotComponent.symm, if_neg hNotType.symm,
      if_neg hNotImported.symm]
  · simp only [List.count_append, List.count_cons,
      List.count_nil, List.count_eq_zero_of_not_mem hRoot,
      beq_iff_eq, if_true, if_neg hNotComponent,
      if_neg hType.symm]
    split
    · rfl
    · rfl

/-
  What a composed module declares.  Its names are different
  exactly if the identifiers of its elements are, and the
  imported type is none of the other names.
-/
theorem composed_declaresNames
    (settings : Settings)
    (directory : Path)
    (names : List String)
    (rootFile : String) :
    let context :=
      composedContext settings directory names
        (some rootFile)
    let identifier := normalize directory.name
    let elements := properties settings identifier names
    let rootName := rootAlias settings identifier elements
    let statements :=
      composedStatements settings identifier rootName
        rootFile elements
    context.lookup "type_name" =
        some (.text settings.typeName) ∧
      context.lookup "root_alias" = some (.text rootName) ∧
      context.lookup "elements" =
        some (elementsValue elements) ∧
      context.lookup "component_name" =
        some (.text identifier) ∧
      Template.composed.render context =
        .ok (unlines (statements.map Statement.text)) ∧
      DeclaresNames settings identifier rootName elements
        (statements.filterMap Statement.declared?) := by
  intro context identifier elements rootName statements
  refine ⟨rfl, rfl, rfl, rfl, ?_, ?_⟩
  · rw [map_text_composedStatements]
    exact render_composed settings directory names rootFile
  · rw [declared_composedStatements]
    exact declaresNames
      (rootAlias_isLeastAlias settings identifier
        elements).fresh
      (identifier_not_mem_properties settings identifier
        names)

/- An element clashes with the type of its component. -/
example :
    let elements :=
      properties .standard "Button" ["button", "button-type"]
    let declared :=
      (composedStatements .standard "Button"
        (rootAlias .standard "Button" elements)
        "button.svelte" elements).filterMap
        Statement.declared?
    declared =
      ["SubComponent", "Root", "ButtonType", "ButtonType",
        "Button"] := by
  decide +kernel

end Aggregation
