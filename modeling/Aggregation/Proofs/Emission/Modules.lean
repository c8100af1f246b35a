import Aggregation.Emission.Output

/-
  The texts of the generated modules, line by line.

  Key definitions include:
    * `unlines`
    * `placeholderLines`
    * `wrapperLines`
    * `indexLines`
    * `composedLines`

  Key theorems include:
    * `render_placeholder`
    * `render_wrapper`
    * `render_index`
    * `render_composed`
    * `placeholder_ne_wrapper`
    * `index_ne_wrapper`
    * `composed_ne_wrapper`
-/

------------------------------------------------------------
-- Lines
------------------------------------------------------------

namespace Aggregation

/- The text of some lines, each with its line feed. -/
def unlines : List String → String
  | [] => ""
  | line :: rest => line ++ "\n" ++ unlines rest

theorem unlines_append (first second : List String) :
    unlines (first ++ second) =
      unlines first ++ unlines second := by
  induction first with
  | nil => simp [unlines]
  | cons line rest ih =>
      simp only [List.cons_append, unlines, ih,
        String.append_assoc]

/- Lines of a module that exports nothing. -/
def placeholderLines (settings : Settings) : List String :=
  [settings.header, "export \x7b\x7d;"]

/- Lines of a module that exports an index. -/
def wrapperLines (settings : Settings) : List String :=
  [settings.header,
    "export * as default from '" ++
      settings.indexImportPath ++ "';"]

/- Line that exports one element. -/
def exportLineOf (element : Element) : String :=
  "export \x7b default as " ++ element.identifier ++
    " \x7d from './" ++ element.file ++ "';"

/- Lines of an index of elements. -/
def indexLines
    (settings : Settings)
    (elements : List Element) :
    List String :=
  settings.header ::
    match elements with
    | [] => ["export \x7b\x7d;"]
    | _ => elements.map exportLineOf

/- Line that imports one element. -/
def importLineOf
    (settings : Settings)
    (name file : String) :
    String :=
  "import " ++ name ++ " from './" ++
    settings.elementsName.text ++ "/" ++ file ++ "';"

/- Line for the type of the property of one element. -/
def memberLineOf
    (settings : Settings)
    (element : Element) :
    String :=
  "  " ++ element.identifier ++ ": " ++ settings.typeName ++
    "<typeof " ++ element.identifier ++ ">;"

/- Line that attaches one element to the component. -/
def assignmentLineOf
    (identifier : String)
    (element : Element) :
    String :=
  identifier ++ "." ++ element.identifier ++ " = " ++
    element.identifier ++ " as " ++ identifier ++
    "Type['" ++ element.identifier ++ "'];"

/- Lines of a module that is composed around a root. -/
def composedLines
    (settings : Settings)
    (identifier rootName rootFile : String)
    (elements : List Element) :
    List String :=
  [settings.header,
    "import type \x7b " ++ settings.typeName ++
      " \x7d from '" ++ settings.typeModule ++ "';",
    importLineOf settings rootName rootFile] ++
  elements.map (fun element =>
    importLineOf settings element.identifier
      element.file) ++
  ["",
    "type " ++ identifier ++ "Type = typeof " ++ rootName ++
      " & \x7b"] ++
  elements.map (memberLineOf settings) ++
  ["\x7d;",
    "",
    "const " ++ identifier ++ " = " ++ rootName ++ " as " ++
      identifier ++ "Type;"] ++
  elements.map (assignmentLineOf identifier) ++
  ["", "export default " ++ identifier ++ ";"]

------------------------------------------------------------
-- Rendering
------------------------------------------------------------

/- Parts are rendered one after the other. -/
theorem renderAll_cons
    {α : Type}
    {render : α → Except RenderError String}
    {part : α}
    {rest : List α}
    {text others : String}
    (hPart : render part = .ok text)
    (hRest : renderAll render rest = .ok others) :
    renderAll render (part :: rest) =
      .ok (text ++ others) := by
  rw [renderAll, hPart, hRest]
  rfl

/- Elements that are rendered to one line each. -/
theorem renderAll_elements
    {context : Fields}
    {body : List Piece}
    {line : Element → String}
    (hBody :
      ∀ element : Element,
        renderAll (Piece.render context element.value) body =
          .ok (line element ++ "\n"))
    (elements : List Element) :
    renderAll
        (fun item =>
          renderAll (Piece.render context item) body)
        (elements.map Element.value) =
      .ok (unlines (elements.map line)) := by
  induction elements with
  | nil => rfl
  | cons element rest ih =>
      exact renderAll_cons (hBody element) ih

/- A repetition for elements is one line for each. -/
theorem render_repeated
    {context : Fields}
    (elements : List Element)
    (hElements :
      lookVariable context "elements" =
        .ok (elementsValue elements))
    {body : List Piece}
    {line : Element → String}
    (hBody :
      ∀ element : Element,
        renderAll (Piece.render context element.value) body =
          .ok (line element ++ "\n")) :
    (Section.repeated "elements" body []).render context =
      .ok (unlines (elements.map line)) := by
  have hAll := renderAll_elements hBody elements
  simp only [Section.render, hElements, elementsValue,
    itemsOf]
  cases elements with
  | nil => rfl
  | cons element rest => exact hAll

/- A placeholder is its two lines. -/
theorem render_placeholder (settings : Settings) :
    Template.placeholder.render
        (placeholderContext settings) =
      .ok (unlines (placeholderLines settings)) := by
  have hText :
      settings.header ++ ("\nexport \x7b\x7d;\n" ++ "") =
        unlines (placeholderLines settings) := by
    apply String.toList_inj.mp
    simp only [placeholderLines, unlines,
      String.toList_append, List.append_assoc]
    rfl
  rw [← hText]
  rfl

/- A wrapper is its two lines. -/
theorem render_wrapper (settings : Settings) :
    Template.barrelWrapper.render
        (wrapperContext settings) =
      .ok (unlines (wrapperLines settings)) := by
  have hText :
      settings.header ++
          ("\nexport * as default from '" ++
            (settings.indexImportPath ++
              ("';\n" ++ ""))) =
        unlines (wrapperLines settings) := by
    apply String.toList_inj.mp
    simp only [wrapperLines, unlines,
      String.toList_append, List.append_assoc]
    rfl
  rw [← hText]
  rfl

/- A line of an index is rendered from its element. -/
theorem render_exportLine
    (context : Fields)
    (element : Element) :
    renderAll (Piece.render context element.value)
        [.fixed "export \x7b default as ",
          .attribute "identifier",
          .fixed " \x7d from './",
          .attribute "file",
          .fixed "';\n"] =
      .ok (exportLineOf element ++ "\n") := by
  have hEnd : "';\n" = "';" ++ "\n" := rfl
  have hText :
      "export \x7b default as " ++
          (element.identifier ++
            (" \x7d from './" ++
              (element.file ++ ("';\n" ++ "")))) =
        exportLineOf element ++ "\n" := by
    unfold exportLineOf
    simp only [String.append_assoc, String.append_empty]
    rw [hEnd]
  rw [← hText]
  rfl

/- An index has one line for each element. -/
theorem render_index
    (settings : Settings)
    (names : List String) :
    Template.barrelIndex.render
        (indexContext settings names) =
      .ok (unlines (indexLines settings
        (elementsOf settings.sourceExtension.text
          names))) := by
  cases names with
  | nil =>
      have hText :
          settings.header ++
              ("\n" ++ ("export \x7b\x7d;\n" ++ "" ++ "")) =
            unlines (indexLines settings []) := by
        have hEnd :
            "export \x7b\x7d;\n" = "export \x7b\x7d;" ++ "\n" :=
          rfl
        unfold indexLines
        simp only [unlines, String.append_assoc,
          String.append_empty]
        rw [hEnd]
      have hNone :
          elementsOf settings.sourceExtension.text [] =
            [] :=
        rfl
      rw [hNone, ← hText]
      rfl
  | cons name names =>
      let context := indexContext settings (name :: names)
      have hAll :=
        renderAll_elements (render_exportLine context)
          (elementsOf settings.sourceExtension.text
            (name :: names))
      have hRender :
          renderAll (Section.render context)
              Template.barrelIndex =
            .ok (settings.header ++ ("\n" ++
              (unlines ((elementsOf
                settings.sourceExtension.text
                  (name :: names)).map exportLineOf) ++
                ""))) := by
        refine renderAll_cons rfl (renderAll_cons rfl
          (renderAll_cons ?_ rfl))
        exact hAll
      refine Eq.trans hRender ?_
      simp only [indexLines, elementsOf, List.map_cons,
        unlines, String.append_assoc, String.append_empty]

------------------------------------------------------------
-- Rendering of Composed Modules
------------------------------------------------------------

variable (settings : Settings)
variable (directory : Path)
variable (names : List String)
variable (root : String)

/- Sections are rendered part by part. -/
theorem renderAll_append
    {α : Type}
    {render : α → Except RenderError String}
    {first second : List α}
    {text others : String}
    (hFirst : renderAll render first = .ok text)
    (hSecond : renderAll render second = .ok others) :
    renderAll render (first ++ second) =
      .ok (text ++ others) := by
  induction first generalizing text with
  | nil =>
      injection hFirst with hEmpty
      rw [← hEmpty, List.nil_append, String.empty_append]
      exact hSecond
  | cons part rest ih =>
      rw [renderAll] at hFirst
      cases hPart : render part with
      | error error => simp [hPart] at hFirst
      | ok here =>
          simp only [hPart] at hFirst
          cases hRest : renderAll render rest with
          | error error => simp [hRest, Except.map] at hFirst
          | ok later =>
              simp only [hRest, Except.map] at hFirst
              injection hFirst with hText
              rw [← hText, String.append_assoc]
              exact renderAll_cons hPart (ih hRest)

/- The context of a module that is composed around a file. -/
abbrev rootContext : Fields :=
  composedContext settings directory names (some root)

/- The alias under which the file is imported. -/
abbrev rootNameOf : String :=
  rootAlias settings (normalize directory.name)
    (properties settings (normalize directory.name) names)

/- The import of one element is one line. -/
theorem render_importLine (element : Element) :
    renderAll
        (Piece.render
          (rootContext settings directory names root)
          element.value)
        Template.importLine =
      .ok (importLineOf settings element.identifier
        element.file ++ "\n") := by
  have hEnd : "';\n" = "';" ++ "\n" := rfl
  have hText :
      "import " ++
          (element.identifier ++
            (" from './" ++
              (settings.elementsName.text ++
                ("/" ++
                  (element.file ++ ("';\n" ++ "")))))) =
        importLineOf settings element.identifier
          element.file ++ "\n" := by
    unfold importLineOf
    simp only [String.append_assoc, String.append_empty]
    rw [hEnd]
  rw [← hText]
  rfl

/- The type of one property is one line. -/
theorem render_memberLine (element : Element) :
    renderAll
        (Piece.render
          (rootContext settings directory names root)
          element.value)
        Template.memberLine =
      .ok (memberLineOf settings element ++ "\n") := by
  have hEnd : ">;\n" = ">;" ++ "\n" := rfl
  have hText :
      "  " ++
          (element.identifier ++
            (": " ++
              (settings.typeName ++
                ("<typeof " ++
                  (element.identifier ++
                    (">;\n" ++ "")))))) =
        memberLineOf settings element ++ "\n" := by
    unfold memberLineOf
    simp only [String.append_assoc, String.append_empty]
    rw [hEnd]
  rw [← hText]
  rfl

/- The assignment of one property is one line. -/
theorem render_assignmentLine (element : Element) :
    renderAll
        (Piece.render
          (rootContext settings directory names root)
          element.value)
        Template.assignmentLine =
      .ok (assignmentLineOf (normalize directory.name)
        element ++ "\n") := by
  have hEnd : "'];\n" = "'];" ++ "\n" := rfl
  have hText :
      normalize directory.name ++
          ("." ++
            (element.identifier ++
              (" = " ++
                (element.identifier ++
                  (" as " ++
                    (normalize directory.name ++
                      ("Type['" ++
                        (element.identifier ++
                          ("'];\n" ++ ""))))))))) =
        assignmentLineOf (normalize directory.name)
          element ++ "\n" := by
    unfold assignmentLineOf
    simp only [String.append_assoc, String.append_empty]
    rw [hEnd]
  rw [← hText]
  rfl

/- The head of the module imports the type and the root. -/
theorem render_composedHead :
    renderAll
        (Section.render
          (rootContext settings directory names root))
        (Template.composed.take 12) =
      .ok (unlines
        [settings.header,
          "import type \x7b " ++ settings.typeName ++
            " \x7d from '" ++ settings.typeModule ++ "';",
          importLineOf settings
            (rootNameOf settings directory names)
            root]) := by
  have hType :
      "\nimport type \x7b " = "\n" ++ "import type \x7b " :=
    rfl
  have hRoot :
      "';\nimport " = "';" ++ ("\n" ++ "import ") := rfl
  have hEnd : "';\n" = "';" ++ "\n" := rfl
  have hText :
      settings.header ++
          ("\nimport type \x7b " ++
            (settings.typeName ++
              (" \x7d from '" ++
                (settings.typeModule ++
                  ("';\nimport " ++
                    (rootNameOf settings directory names ++
                      (" from './" ++
                        (settings.elementsName.text ++
                          ("/" ++
                            (root ++
                              ("';\n" ++ ""))))))))))) =
        unlines
          [settings.header,
            "import type \x7b " ++ settings.typeName ++
              " \x7d from '" ++ settings.typeModule ++ "';",
            importLineOf settings
              (rootNameOf settings directory names)
              root] := by
    unfold importLineOf
    simp only [unlines, String.append_assoc,
      String.append_empty]
    rw [hType, hRoot, hEnd]
    simp only [String.append_assoc]
  rw [← hText]
  rfl

/- The type of the component opens with two lines. -/
theorem render_composedType :
    renderAll
        (Section.render
          (rootContext settings directory names root))
        ((Template.composed.drop 13).take 5) =
      .ok (unlines
        ["",
          "type " ++ normalize directory.name ++
            "Type = typeof " ++
            rootNameOf settings directory names ++
            " & \x7b"]) := by
  have hStart : "\ntype " = "\n" ++ "type " := rfl
  have hEnd : " & \x7b\n" = " & \x7b" ++ "\n" := rfl
  have hText :
      "\ntype " ++
          (normalize directory.name ++
            ("Type = typeof " ++
              (rootNameOf settings directory names ++
                (" & \x7b\n" ++ "")))) =
        unlines
          ["",
            "type " ++ normalize directory.name ++
              "Type = typeof " ++
              rootNameOf settings directory names ++
              " & \x7b"] := by
    simp only [unlines, String.append_assoc,
      String.append_empty, String.empty_append]
    rw [hStart, hEnd]
    simp only [String.append_assoc]
  rw [← hText]
  rfl

/- The type closes, and the component is made from the root. -/
theorem render_composedBody :
    renderAll
        (Section.render
          (rootContext settings directory names root))
        ((Template.composed.drop 19).take 7) =
      .ok (unlines
        ["\x7d;",
          "",
          "const " ++ normalize directory.name ++ " = " ++
            rootNameOf settings directory names ++ " as " ++
            normalize directory.name ++ "Type;"]) := by
  have hStart :
      "\x7d;\n\nconst " =
        "\x7d;" ++ ("\n" ++ ("\n" ++ "const ")) :=
    rfl
  have hEnd : "Type;\n" = "Type;" ++ "\n" := rfl
  have hText :
      "\x7d;\n\nconst " ++
          (normalize directory.name ++
            (" = " ++
              (rootNameOf settings directory names ++
                (" as " ++
                  (normalize directory.name ++
                    ("Type;\n" ++ "")))))) =
        unlines
          ["\x7d;",
            "",
            "const " ++ normalize directory.name ++ " = " ++
              rootNameOf settings directory names ++
              " as " ++ normalize directory.name ++
              "Type;"] := by
    simp only [unlines, String.append_assoc,
      String.append_empty, String.empty_append]
    rw [hStart, hEnd]
    simp only [String.append_assoc]
  rw [← hText]
  rfl

/- The module ends with the export of the component. -/
theorem render_composedTail :
    renderAll
        (Section.render
          (rootContext settings directory names root))
        (Template.composed.drop 27) =
      .ok (unlines
        ["",
          "export default " ++ normalize directory.name ++
            ";"]) := by
  have hStart :
      "\nexport default " = "\n" ++ "export default " :=
    rfl
  have hEnd : ";\n" = ";" ++ "\n" := rfl
  have hText :
      "\nexport default " ++
          (normalize directory.name ++ (";\n" ++ "")) =
        unlines
          ["",
            "export default " ++ normalize directory.name ++
              ";"] := by
    simp only [unlines, String.append_assoc,
      String.append_empty, String.empty_append]
    rw [hStart, hEnd]
    simp only [String.append_assoc]
  rw [← hText]
  rfl

/- A composed module is its lines. -/
theorem render_composed :
    Template.composed.render
        (rootContext settings directory names root) =
      .ok (unlines (composedLines settings
        (normalize directory.name)
        (rootNameOf settings directory names) root
        (properties settings (normalize directory.name)
          names))) := by
  let elements :=
    properties settings (normalize directory.name) names
  have hImports :=
    render_repeated elements rfl
      (render_importLine settings directory names root)
  have hMembers :=
    render_repeated elements rfl
      (render_memberLine settings directory names root)
  have hAssignments :=
    render_repeated elements rfl
      (render_assignmentLine settings directory names root)
  refine Eq.trans
    (renderAll_append
      (render_composedHead settings directory names root)
      (renderAll_cons hImports
        (renderAll_append
          (render_composedType settings directory names root)
          (renderAll_cons hMembers
            (renderAll_append
              (render_composedBody settings directory names
                root)
              (renderAll_cons hAssignments
                (render_composedTail settings directory
                  names root))))))) ?_
  simp only [composedLines, unlines_append,
    String.append_assoc]
  rfl

------------------------------------------------------------
-- Wrappers among Other Modules
------------------------------------------------------------

/- After its header, a wrapper exports a star. -/
theorem unlines_ne_wrapper
    {opening : String}
    (hLength : opening.toList.length = 8)
    (hOther : opening ≠ "export *")
    (rest : String)
    (lines : List String) :
    unlines (settings.header :: (opening ++ rest) :: lines) ≠
      unlines (wrapperLines settings) := by
  intro hSame
  have hStar :
      "export * as default from '" =
        "export *" ++ " as default from '" :=
    rfl
  unfold wrapperLines at hSame
  rw [hStar] at hSame
  have hLines := congrArg String.toList hSame
  simp only [unlines, String.toList_append,
    List.append_assoc] at hLines
  have hOpenings :=
    List.append_cancel_left (List.append_cancel_left hLines)
  apply hOther
  apply String.toList_inj.mp
  exact List.append_inj_left hOpenings hLength

theorem placeholder_ne_wrapper :
    unlines (placeholderLines settings) ≠
      unlines (wrapperLines settings) := by
  have hLine :
      "export \x7b\x7d;" = "export \x7b" ++ "\x7d;" := rfl
  unfold placeholderLines
  rw [hLine]
  exact unlines_ne_wrapper settings rfl (by decide) _ _

theorem index_ne_wrapper (elements : List Element) :
    unlines (indexLines settings elements) ≠
      unlines (wrapperLines settings) := by
  cases elements with
  | nil => exact placeholder_ne_wrapper settings
  | cons element rest =>
      have hLine :
          "export \x7b default as " =
            "export \x7b" ++ " default as " :=
        rfl
      unfold indexLines exportLineOf
      simp only [List.map_cons, String.append_assoc]
      rw [hLine, String.append_assoc]
      exact unlines_ne_wrapper settings rfl (by decide) _ _

theorem composed_ne_wrapper
    (identifier rootName rootFile : String)
    (elements : List Element) :
    unlines (composedLines settings identifier rootName
        rootFile elements) ≠
      unlines (wrapperLines settings) := by
  have hLine :
      "import type \x7b " = "import t" ++ "ype \x7b " := rfl
  unfold composedLines
  simp only [List.cons_append, String.append_assoc]
  rw [hLine, String.append_assoc]
  exact unlines_ne_wrapper settings rfl (by decide) _ _

end Aggregation
