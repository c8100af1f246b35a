import Aggregation.Proofs.Naming.Conventional
import Aggregation.Proofs.Scan.Agreement

/-
  Components of conventional names.

  Among conventional names, elements share an identifier, or
  one is taken for the root of its component, exactly if the
  names differ in nothing but their separators.

  Key definitions include:
    * `TellsSpellings`

  Key theorems include:
    * `describe_isOf`
    * `Component.IsOf.tellsSpellings`
    * `conventional_identifiers`
-/

------------------------------------------------------------
-- Described Components
------------------------------------------------------------

namespace Aggregation

open Disk (FileTree Viewer)

variable {settings : Settings}
variable {component : Component}
variable {files : List Name}

/- However entries are ordered, a component has its files. -/
theorem describe_isOf
    {tree : FileTree}
    {viewer : Viewer}
    {directory elements : Path}
    (hDescribe :
      describe tree viewer settings directory elements =
        .ok component) :
    ∃ files, component.IsOf settings files := by
  rcases describe_eq_ok hDescribe with
    ⟨names, hNames, _, hComponent⟩
  refine ⟨_, {
    distinct := (entryNames_nodup hNames).filter _
    ends := ?_
    elements := congrArg Component.elements hComponent
    rootFile := ?_ }⟩
  · intro file hFile
    exact ((isSource_eq_true_iff file).mp
      (List.mem_filter.mp hFile).2).2
  · rw [hComponent]
    rfl

------------------------------------------------------------
-- Spellings
------------------------------------------------------------

/-
  What depends on the identifiers of a component and of its
  elements tells which names are spellings of each other.
-/
structure TellsSpellings
    (settings : Settings)
    (component : Component) :
    Prop where
  identifiers :
    ∀ left ∈ elementsOf settings.sourceExtension.text
        component.elements,
      ∀ right ∈ elementsOf settings.sourceExtension.text
          component.elements,
        left.identifier = right.identifier ↔
          AreSpellings left.name right.name
  -- The element that a scan takes for the root.
  rooted :
    component.rootFile.isSome = true ↔
      ∃ name ∈ component.elements,
        AreSpellings name component.name
  first :
    ∀ root, component.rootFile = some root →
      ∃ stem before after,
        root = stem ++ settings.sourceExtension.text ∧
          component.elements = before ++ stem :: after ∧
          AreSpellings stem component.name ∧
          ∀ name ∈ before, ¬AreSpellings name component.name
  -- The elements that a composed module takes for the root.
  listed :
    (composedContext settings component.directory
        component.elements
        component.rootFile).lookup "elements" =
      some (elementsValue
        (properties settings component.identifier
          component.elements))
  omitted :
    ∀ name ∈ component.elements,
      name ∉ (properties settings component.identifier
          component.elements).map Element.name ↔
        AreSpellings name component.name

/- Conventional names make spellings of what clashes. -/
theorem Component.IsOf.tellsSpellings
    (hOf : component.IsOf settings files)
    (hName : IsConventional component.name)
    (hElements :
      ∀ name ∈ component.elements, IsConventional name) :
    TellsSpellings settings component := by
  have hSpelled :
      ∀ name ∈ component.elements,
        AreSpellings name component.name ↔
          normalize name = component.identifier :=
    fun name hHere =>
      (hElements name hHere).areSpellings_iff hName
  exact {
    identifiers := by
      intro left hLeft right hRight
      rcases List.mem_map.mp hLeft with ⟨name, hHere, rfl⟩
      rcases List.mem_map.mp hRight with
        ⟨other, hThere, rfl⟩
      exact ((hElements name hHere).areSpellings_iff
        (hElements other hThere)).symm
    rooted := by
      rw [hOf.rootFile_isSome_iff]
      constructor
      · rintro ⟨name, hHere, hSame⟩
        exact ⟨name, hHere, (hSpelled name hHere).mpr hSame⟩
      · rintro ⟨name, hHere, hSame⟩
        exact ⟨name, hHere, (hSpelled name hHere).mp hSame⟩
    first := by
      intro root hRoot
      rcases hOf.exists_split hRoot with
        ⟨hSame, before, after, hFiles, hBefore⟩
      have hSplit :
          component.elements =
            before.map settings.sourceExtension.stem ++
              settings.sourceExtension.stem root ::
                after.map settings.sourceExtension.stem := by
        rw [hOf.elements, hFiles, List.map_append,
          List.map_cons]
      have hStem :
          settings.sourceExtension.stem root ∈
            component.elements := by
        rw [hSplit]
        exact List.mem_append_cons_self
      have hEnd :
          settings.sourceExtension.isAtEnd root = true := by
        apply hOf.ends
        rw [hFiles]
        exact List.mem_append_cons_self
      refine ⟨_, _, _,
        (settings.sourceExtension.stem_append hEnd).symm,
        hSplit, (hSpelled _ hStem).mpr hSame, ?_⟩
      intro name hEarlier hSpelling
      have hHere : name ∈ component.elements := by
        rw [hSplit]
        exact List.mem_append_left _ hEarlier
      rcases List.mem_map.mp hEarlier with
        ⟨file, hFile, rfl⟩
      exact hBefore file hFile
        ((hSpelled _ hHere).mp hSpelling)
    listed := rfl
    omitted := by
      intro name hHere
      rw [names_properties, hSpelled name hHere]
      unfold besideRoot
      simp [hHere] }

/-
  Conventional names have one identifier exactly if they
  spell the same words.  So elements clash with each other
  and with their component as spellings only.
-/
theorem conventional_identifiers :
    (∀ left right words others,
        Spells words left → Spells others right →
          (normalize left = normalize right ↔
            words = others)) ∧
      ∀ tree viewer settings directory elements component,
        describe tree viewer settings directory elements =
            .ok component →
          IsConventional component.name →
            (∀ name ∈ component.elements,
              IsConventional name) →
              TellsSpellings settings component := by
  refine ⟨fun _ _ _ _ => normalize_eq_iff, ?_⟩
  intro tree viewer settings directory elements component
    hDescribe hName hElements
  rcases describe_isOf hDescribe with ⟨files, hOf⟩
  exact hOf.tellsSpellings hName hElements

/- The sample library with two spellings of one element. -/
def spelledTree : FileTree :=
  (sampleTree.attach ["elements", "a-b", "lib"] "c-d.svelte"
    (.file .empty .all)
    ⟨by decide, ⟨.all, rfl⟩, rfl⟩).attach
      ["elements", "a-b", "lib"] "c_d.svelte"
      (.file .empty .all)
      ⟨by decide, ⟨.all, rfl⟩, rfl⟩

/- The component with the two spellings. -/
def spelledComponent : Component :=
  ⟨⟨.relative, ["a-b", "lib"]⟩, ["a_b", "c-d", "c", "c_d"],
    some "a_b.svelte"⟩

theorem conventional_identifiers_spelledTree :
    (Spells [['c'], ['d']] "c-d" ∧
      Spells [['c'], ['d']] "c_d" ∧
      normalize "c-d" = normalize "c_d") ∧
    describe spelledTree sampleViewer sampleSettings
        ⟨.relative, ["a-b", "lib"]⟩
        ⟨.relative, ["elements", "a-b", "lib"]⟩ =
      .ok spelledComponent ∧
    IsConventional spelledComponent.name ∧
    (∀ name ∈ spelledComponent.elements,
      IsConventional name) ∧
    TellsSpellings sampleSettings spelledComponent := by
  have hLeft : Spells [['c'], ['d']] "c-d" :=
    .joined rfl rfl (.single rfl)
  have hRight : Spells [['c'], ['d']] "c_d" :=
    .joined rfl rfl (.single rfl)
  have hSame :=
    (conventional_identifiers.1 _ _ _ _ hLeft hRight).mpr rfl
  have hDescribe :
      describe spelledTree sampleViewer sampleSettings
          ⟨.relative, ["a-b", "lib"]⟩
          ⟨.relative, ["elements", "a-b", "lib"]⟩ =
        .ok spelledComponent := by
    decide +kernel
  have hName : IsConventional spelledComponent.name := by
    decide +kernel
  have hElements :
      ∀ name ∈ spelledComponent.elements,
        IsConventional name := by
    decide +kernel
  exact ⟨⟨hLeft, hRight, hSame⟩, hDescribe, hName, hElements,
    conventional_identifiers.2 _ _ _ _ _ _ hDescribe hName
      hElements⟩

end Aggregation
