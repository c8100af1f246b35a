import Aggregation.Emission.Output
import Aggregation.Proofs.Template.Framing
import Aggregation.Proofs.Template.Strictness

/-
  Templates of generated files, and what they are given.

  Rendering is strict: it needs everything that a template
  refers to, names the first thing that is missing, and
  depends on nothing else.  Every file that is generated
  gives its template all of it.

  Key definitions include:
    * `Template.shipped`
    * `Template.IsStrict`
    * `Output.IsGiven`
    * `Output.IsFramed`
    * `generatedOutputs`

  Key theorems include:
    * `Template.shipped_isRegular`
    * `Template.IsRegular.isStrict`
    * `generatedOutputs_isFramed`
-/

------------------------------------------------------------
-- Shipped Templates
------------------------------------------------------------

namespace Aggregation

namespace Template

/- The four templates under the names of their files. -/
def shipped : List (String × Template) :=
  [("composed.ts.j2", composed),
    ("barrel_index.ts.j2", barrelIndex),
    ("barrel_wrapper.ts.j2", barrelWrapper),
    ("placeholder.ts.j2", placeholder)]

theorem shipped_isRegular :
    ∀ entry ∈ shipped, entry.2.IsRegular := by
  decide

theorem renderNamed_shipped
    {entry : String × Template}
    (hEntry : entry ∈ shipped)
    (context : Fields) :
    renderNamed entry.1 context = entry.2.render context := by
  have hNamed :
      ∀ other ∈ shipped, named? other.1 = .ok other.2 := by
    unfold shipped
    simp only [List.forall_mem_cons]
    exact ⟨rfl, rfl, rfl, rfl, List.forall_mem_nil _⟩
  unfold renderNamed
  rw [hNamed entry hEntry]

/- Every template opens with the header on its own line. -/
theorem opening_of_mem_shipped
    {entry : String × Template}
    (hEntry : entry ∈ shipped) :
    ∃ more rest,
      entry.2 =
        shows "header" :: fixed ("\n" ++ more) :: rest := by
  revert entry
  unfold shipped
  simp only [List.forall_mem_cons]
  exact
    ⟨⟨"import type \x7b ", _, rfl⟩, ⟨"", _, rfl⟩,
      ⟨"export * as default from '", _, rfl⟩,
      ⟨"export \x7b\x7d;\n", _, rfl⟩,
      List.forall_mem_nil _⟩

/- Every template ends with a statement. -/
theorem ending_of_mem_shipped
    {entry : String × Template}
    (hEntry : entry ∈ shipped) :
    ∃ front last,
      entry.2 = front ++ [last] ∧ last.EndsWith ";\n" := by
  revert entry
  unfold shipped
  simp only [List.forall_mem_cons]
  refine ⟨⟨composed.dropLast, _, rfl, "", rfl⟩,
    ⟨barrelIndex.dropLast, _, rfl, ?_, ?_⟩,
    ⟨barrelWrapper.dropLast, _, rfl, "'", rfl⟩,
    ⟨[shows "header"], _, rfl, "\nexport \x7b\x7d", rfl⟩,
    List.forall_mem_nil _⟩
  · exact
      ⟨[.fixed "export \x7b default as ",
          .attribute "identifier",
          .fixed " \x7d from './",
          .attribute "file"],
        "'", rfl⟩
  · exact ⟨[], "export \x7b\x7d", rfl⟩

/- What the four templates refer to. -/
example :
    shipped.map (fun entry =>
        (entry.2.variableNames.eraseDups,
          entry.2.attributeNames.eraseDups)) =
      [(["header", "type_name", "type_module", "root_alias",
          "elements_dir", "root_file", "elements",
          "component_name"],
        ["identifier", "file"]),
        (["header", "elements"], ["identifier", "file"]),
        (["header", "index_import_path"], []),
        (["header"], [])] := by
  decide +kernel

end Template

------------------------------------------------------------
-- Strictness
------------------------------------------------------------

/-
  An error that names a reference: a variable of the
  context, or an attribute of an object.
-/
inductive Reference.IsNamedBy :
    Reference → RenderError → Prop where
  | entry (name : String) :
      IsNamedBy (.entry name) (.missingVariable name)
  | member (object : Fields) (name : String) :
      IsNamedBy (.member (.object object) name)
        (.missingAttribute "dict object" name)

/-
  An outcome of rendering that is a text exactly if all is
  there, and else names the first reference that leads
  nowhere.
-/
structure Template.IsStrict
    (template : Template)
    (context : Fields)
    (outcome : Except RenderError String) :
    Prop where
  rendered_iff :
    (∃ text, outcome = .ok text) ↔
      template.IsFurnished context
  missing_iff :
    ∀ error,
      outcome = .error error ↔
        ∃ before reference after,
          template.references context =
              before ++ reference :: after ∧
            (∀ earlier ∈ before, earlier.IsMet context) ∧
            ¬ reference.IsMet context ∧
            reference.IsNamedBy error

/- Regular templates are rendered strictly. -/
theorem Template.IsRegular.isStrict
    {template : Template}
    (hRegular : template.IsRegular)
    {context : Fields}
    (hHolds : HoldsElements context) :
    template.IsStrict context
      (template.render context) := by
  have hReports :=
    Template.render_reports hHolds.unreserved
      (hRegular.repeatsList hHolds)
  have hMetIff := hRegular.references_met_iff hHolds
  constructor
  · rw [← hMetIff]
    constructor
    · rintro ⟨text, hText⟩
      rw [hText] at hReports
      exact hReports.all_isMet
    · intro hMet
      cases hRender : template.render context with
      | ok text => exact ⟨text, rfl⟩
      | error error =>
          rw [hRender] at hReports
          rcases hReports.exists_first with
            ⟨before, reference, after, hSame, _, hMissing, _⟩
          refine absurd (hMet reference ?_) hMissing
          rw [hSame]
          exact List.mem_append_cons_self
  · intro error
    constructor
    · intro hError
      rw [hError] at hReports
      rcases hReports.exists_first with
        ⟨before, reference, after, hSame, hBefore, hMissing,
          rfl⟩
      refine ⟨before, reference, after, hSame, hBefore,
        hMissing, ?_⟩
      cases reference with
      | entry name => exact .entry name
      | member owner name =>
          have hMember :
              Reference.member owner name ∈
                template.references context := by
            rw [hSame]
            exact List.mem_append_cons_self
          rcases hRegular.exists_owner hHolds hMember with
            ⟨object, rfl⟩
          exact .member object name
    · rintro ⟨before, reference, after, hSame, hBefore,
        hMissing, hNamed⟩
      have hError :=
        hReports.eq_error hSame hBefore hMissing
      cases hNamed with
      | entry name => exact hError
      | member object name => exact hError

------------------------------------------------------------
-- Generated Files
------------------------------------------------------------

/-
  A file of a shipped template whose context has all that
  the template refers to.  Its text has the header with a
  line feed at the start and just one line feed at the end.
-/
structure Output.IsFramed
    (output : Output)
    (header : String) :
    Prop where
  shipped :
    ∃ name, (name, output.template) ∈ Template.shipped
  holds : HoldsElements output.context
  furnished : output.template.IsFurnished output.context
  rendered :
    ∃ text,
      output.template.render output.context = .ok text ∧
        (∃ rest, text = header ++ "\n" ++ rest) ∧
        ∃ body,
          text = body ++ "\n" ∧
            ∀ shorter, body ≠ shorter ++ "\n"

/- The files that may be generated for a component. -/
def generatedOutputs
    (settings : Settings)
    (directory : Path)
    (names : List String)
    (rootFile : Option String) :
    List Output :=
  [placeholderOutput settings directory,
    composedOutput settings directory names rootFile,
    indexOutput settings directory names,
    wrapperOutput settings directory]

/- A name that stands in a context has a value there. -/
theorem exists_lookup
    {context : Fields}
    {name : String}
    (hName : name ∈ context.map Prod.fst) :
    ∃ value, context.lookup name = some value := by
  induction context with
  | nil => exact absurd hName List.not_mem_nil
  | cons entry rest ih =>
      rcases entry with ⟨key, value⟩
      rw [List.lookup_cons]
      cases hKey : name == key with
      | true => exact ⟨value, rfl⟩
      | false =>
          apply ih
          rcases List.mem_cons.mp hName with hSame | hRest
          · rw [beq_eq_false_iff_ne] at hKey
            exact absurd hSame hKey
          · exact hRest

/- Entries of an element as templates see it. -/
def Element.entries (element : Element) : Fields :=
  [("name", .text element.name),
    ("file", .text element.file),
    ("identifier", .text element.identifier)]

theorem elementsValue_eq (elements : List Element) :
    elementsValue elements =
      .list ((elements.map Element.entries).map .object) := by
  unfold elementsValue
  rw [List.map_map]
  rfl

/-
  What a template is given by a generated file: no entry has
  the reserved name, every variable is an entry, and
  elements come with all their attributes.
-/
structure Output.IsGiven (output : Output) : Prop where
  shipped :
    ∃ name, (name, output.template) ∈ Template.shipped
  unreserved : "self" ∉ output.context.map Prod.fst
  variable_mem :
    ∀ name ∈ output.template.variableNames,
      name ∈ output.context.map Prod.fst
  elements :
    ∀ value,
      output.context.lookup "elements" = some value →
        ∃ elements, value = elementsValue elements

/- The attributes that templates use are those of elements. -/
theorem attributeNames_subset :
    ∀ entry ∈ Template.shipped,
      ∀ name ∈ entry.2.attributeNames,
        name ∈ ["name", "file", "identifier"] := by
  decide

namespace Output.IsGiven

variable {output : Output}

theorem holdsElements (hGiven : output.IsGiven) :
    HoldsElements output.context := by
  refine ⟨hGiven.unreserved, fun value hValue => ?_⟩
  rcases hGiven.elements value hValue with ⟨elements, rfl⟩
  exact ⟨_, elementsValue_eq elements⟩

theorem isFurnished (hGiven : output.IsGiven) :
    output.template.IsFurnished output.context := by
  rcases hGiven.shipped with ⟨file, hShipped⟩
  constructor
  · intro name hName
    exact exists_lookup (hGiven.variable_mem name hName)
  · intro objects hObjects object hObject name hName
    rcases hGiven.elements _ hObjects with
      ⟨elements, hElements⟩
    rw [elementsValue_eq] at hElements
    injection hElements with hSame
    have hEntries :
        objects = elements.map Element.entries := by
      refine List.map_injective_iff.mpr ?_ hSame
      intro first second hValues
      injection hValues
    rw [hEntries] at hObject
    rcases List.mem_map.mp hObject with ⟨element, _, rfl⟩
    exact exists_lookup
      (attributeNames_subset _ hShipped name hName)

/- A file that is given all is rendered in its frame. -/
theorem isFramed
    (hGiven : output.IsGiven)
    {header : String}
    (hHeader :
      output.context.lookup "header" =
        some (.text header)) :
    output.IsFramed header := by
  refine ⟨hGiven.shipped, hGiven.holdsElements,
    hGiven.isFurnished, ?_⟩
  rcases hGiven.shipped with ⟨file, hShipped⟩
  have hStrict :=
    (Template.shipped_isRegular _ hShipped).isStrict
      hGiven.holdsElements
  rcases hStrict.rendered_iff.mpr hGiven.isFurnished with
    ⟨text, hText⟩
  refine ⟨text, hText, ?_, ?_⟩
  · rcases Template.opening_of_mem_shipped hShipped with
      ⟨more, sections, hOpening⟩
    have hTemplate : output.template = _ := hOpening
    rw [hTemplate] at hText
    rcases Template.render_opening hText with
      ⟨value, after, hValue, hSame⟩
    rw [hHeader] at hValue
    injection hValue with hShown
    exact ⟨after, by rw [hSame, ← hShown]; rfl⟩
  · rcases Template.ending_of_mem_shipped hShipped with
      ⟨front, last, hEnding, hEnds⟩
    have hTemplate : output.template = front ++ [last] :=
      hEnding
    rw [hTemplate] at hText
    rcases Template.render_endsWith hEnds hText with
      ⟨before, hSame⟩
    refine ⟨before ++ ";", ?_, ?_⟩
    · rw [hSame, String.append_assoc]
      rfl
    · intro shorter hShorter
      have hChars := congrArg String.toList hShorter
      rw [String.toList_append, String.toList_append]
        at hChars
      have hLast : [';'] = ['\n'] :=
        List.append_inj_right' hChars rfl
      contradiction

end Output.IsGiven

section GeneratedFiles

variable (settings : Settings)
variable (directory : Path)
variable (names : List String)
variable (rootFile : Option String)

theorem placeholderOutput_isGiven :
    (placeholderOutput settings directory).IsGiven where
  shipped := by
    refine ⟨"placeholder.ts.j2", ?_⟩
    change (_, Template.placeholder) ∈ Template.shipped
    decide
  unreserved := by
    change "self" ∉ ["header"]
    decide
  variable_mem := by
    change
      ∀ name ∈ Template.placeholder.variableNames,
        name ∈ ["header"]
    decide
  elements := by
    intro value hValue
    have hNone : none = some value := hValue
    contradiction

theorem composedOutput_isGiven :
    (composedOutput settings directory names
      rootFile).IsGiven where
  shipped := by
    refine ⟨"composed.ts.j2", ?_⟩
    change (_, Template.composed) ∈ Template.shipped
    decide
  unreserved := by
    change
      "self" ∉
        ["header", "type_name", "type_module", "root_alias",
          "root_file", "elements_dir", "component_name",
          "elements"]
    decide
  variable_mem := by
    change
      ∀ name ∈ Template.composed.variableNames,
        name ∈
          ["header", "type_name", "type_module",
            "root_alias", "root_file", "elements_dir",
            "component_name", "elements"]
    decide
  elements := by
    intro value hValue
    have hElements : some (elementsValue _) = some value :=
      hValue
    injection hElements with hSame
    exact ⟨_, hSame.symm⟩

theorem indexOutput_isGiven :
    (indexOutput settings directory names).IsGiven where
  shipped := by
    refine ⟨"barrel_index.ts.j2", ?_⟩
    change (_, Template.barrelIndex) ∈ Template.shipped
    decide
  unreserved := by
    change "self" ∉ ["header", "elements"]
    decide
  variable_mem := by
    change
      ∀ name ∈ Template.barrelIndex.variableNames,
        name ∈ ["header", "elements"]
    decide
  elements := by
    intro value hValue
    have hElements : some (elementsValue _) = some value :=
      hValue
    injection hElements with hSame
    exact ⟨_, hSame.symm⟩

theorem wrapperOutput_isGiven :
    (wrapperOutput settings directory).IsGiven where
  shipped := by
    refine ⟨"barrel_wrapper.ts.j2", ?_⟩
    change (_, Template.barrelWrapper) ∈ Template.shipped
    decide
  unreserved := by
    change "self" ∉ ["header", "index_import_path"]
    decide
  variable_mem := by
    change
      ∀ name ∈ Template.barrelWrapper.variableNames,
        name ∈ ["header", "index_import_path"]
    decide
  elements := by
    intro value hValue
    have hNone : none = some value := hValue
    contradiction

/- Every generated file is rendered in its frame. -/
theorem generatedOutputs_isFramed :
    ∀ output ∈
        generatedOutputs settings directory names rootFile,
      output.IsFramed settings.header := by
  unfold generatedOutputs
  simp only [List.forall_mem_cons]
  exact
    ⟨(placeholderOutput_isGiven settings
        directory).isFramed rfl,
      (composedOutput_isGiven settings directory names
        rootFile).isFramed rfl,
      (indexOutput_isGiven settings directory
        names).isFramed rfl,
      (wrapperOutput_isGiven settings directory).isFramed
        rfl,
      List.forall_mem_nil _⟩

end GeneratedFiles

end Aggregation
