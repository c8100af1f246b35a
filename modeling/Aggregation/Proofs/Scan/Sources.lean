import Aggregation.Emission.Context
import Aggregation.Proofs.Scan.Listing

/-
  The source files of a component.

  The source files of a directory are those of its regular
  files whose names end in the extension, in the order in
  which the directory is visited.

  Key definitions include:
    * `isSource`
    * `IsSourceListing`
    * `Element.ofFile`

  Key theorems include:
    * `Extension.stem_append`
    * `sourceFiles_eq_ok_iff`
    * `describe_isSourceListing`
-/

------------------------------------------------------------
-- Stems
------------------------------------------------------------

namespace Aggregation

open Disk (FileTree Viewer)

/- A name is its stem with the extension at its end. -/
theorem Extension.stem_append
    (extension : Extension)
    {name : Name}
    (hEnd : extension.isAtEnd name = true) :
    extension.stem name ++ extension.text = name := by
  unfold isAtEnd at hEnd
  rw [List.isSuffixOf_iff_suffix] at hEnd
  rcases hEnd with ⟨front, hName⟩
  have hLength :
      name.length - extension.text.length =
        front.length := by
    rw [← String.length_toList, ← String.length_toList,
      ← hName, List.length_append]
    omega
  apply String.toList_inj.mp
  unfold stem
  rw [String.toList_append, String.toList_ofList, hLength,
    ← hName, List.take_left']
  rfl

/- The element of a source file. -/
def Element.ofFile
    (extension : Extension)
    (file : Name) :
    Element :=
  ⟨extension.stem file, file,
    normalize (extension.stem file)⟩

/- The elements of stems are those of the files. -/
theorem elementsOf_stems
    (extension : Extension)
    {files : List Name}
    (hEnd :
      ∀ file ∈ files, extension.isAtEnd file = true) :
    elementsOf extension.text (files.map extension.stem) =
      files.map (Element.ofFile extension) := by
  unfold elementsOf
  rw [List.map_map]
  apply List.map_congr_left
  intro file hFile
  unfold Function.comp Element.ofName Element.ofFile
  rw [extension.stem_append (hEnd file hFile)]

/-
  The properties of a root are the elements of the files
  that are not spelled like the component.
-/
theorem properties_stems
    (settings : Settings)
    (identifier : String)
    {files : List Name}
    (hEnd :
      ∀ file ∈ files,
        settings.sourceExtension.isAtEnd file = true) :
    properties settings identifier
        (files.map settings.sourceExtension.stem) =
      (files.filter fun file =>
        normalize (settings.sourceExtension.stem file) !=
          identifier).map
        (Element.ofFile settings.sourceExtension) := by
  unfold properties besideRoot
  rw [List.filter_map]
  simp only [Function.comp_def]
  apply elementsOf_stems
  intro file hFile
  exact hEnd file (List.mem_filter.mp hFile).1

------------------------------------------------------------
-- Source Files
------------------------------------------------------------

variable {tree : FileTree}
variable {viewer : Viewer}
variable {settings : Settings}
variable {extension : Extension}
variable {directory : Path}

/- Test for a regular file of an extension. -/
def isSource
    (tree : FileTree)
    (viewer : Viewer)
    (extension : Extension)
    (directory : Path)
    (name : Name) :
    Bool :=
  match tree.isFile? viewer (directory.child name) with
  | .ok isFile => isFile && extension.isAtEnd name
  | .error _ => false

/- A source file is a regular file of the extension. -/
theorem isSource_eq_true_iff
    (name : Name) :
    isSource tree viewer extension directory name = true ↔
      tree.LeadsToFile viewer (directory.child name) ∧
        extension.isAtEnd name = true := by
  rw [← FileTree.isFile?_eq_true_iff]
  unfold isSource
  cases tree.isFile? viewer (directory.child name) with
  | error fault => simp
  | ok isFile => simp

/- Source files are picked if every name can be tested. -/
theorem sourceFiles_eq_ok_iff
    (names files : List Name) :
    sourceFiles tree viewer extension directory names =
        .ok files ↔
      (∀ name ∈ names, ∃ answer,
          tree.isFile? viewer (directory.child name) =
            .ok answer) ∧
        files =
          names.filter
            (isSource tree viewer extension directory) := by
  induction names generalizing files with
  | nil => simp [sourceFiles, eq_comm]
  | cons name rest ih =>
      unfold sourceFiles
      rw [List.filter_cons]
      cases hName :
          tree.isFile? viewer (directory.child name) with
      | error fault => simp [hName]
      | ok isFile =>
          have hSource :
              isSource tree viewer extension directory
                  name =
                (isFile && extension.isAtEnd name) := by
            simp [isSource, hName]
          rw [hSource]
          cases hRest :
              sourceFiles tree viewer extension directory
                rest with
          | error failure =>
              have hNone := fun files hBoth =>
                (by simp [hRest] :
                  sourceFiles tree viewer extension directory
                    rest ≠ .ok files) ((ih files).mpr hBoth)
              simp only [reduceCtorEq, false_iff]
              rintro ⟨hTested, _⟩
              exact hNone _
                ⟨fun other hOther =>
                  hTested other
                    (List.mem_cons_of_mem name hOther), rfl⟩
          | ok others =>
              rcases (ih others).mp hRest with
                ⟨hTested, hOthers⟩
              rw [← hOthers]
              have hAll :
                  ∀ other ∈ name :: rest, ∃ answer,
                    tree.isFile? viewer
                        (directory.child other) =
                      .ok answer := by
                intro other hOther
                rcases List.mem_cons.mp hOther with
                  hSame | hTail
                · exact ⟨isFile, by rw [hSame, hName]⟩
                · exact hTested other hTail
              simp only [and_iff_right hAll]
              split
              · simp [eq_comm]
              · simp [eq_comm]

/-
  The regular files of a directory that end in an extension,
  in the order of their code points.
-/
structure IsSourceListing
    (tree : FileTree)
    (viewer : Viewer)
    (extension : Extension)
    (directory : Path)
    (files : List Name) :
    Prop where
  increasing : files.Pairwise (· < ·)
  mem_iff :
    ∀ name,
      name ∈ files ↔
        tree.Lists viewer directory name ∧
          tree.LeadsToFile viewer (directory.child name) ∧
            extension.isAtEnd name = true

/- A component is described by its source files. -/
theorem describe_eq_ok
    {elements : Path}
    {component : Component}
    (hDescribe :
      describe tree viewer settings directory elements =
        .ok component) :
    ∃ names,
      entryNames tree viewer settings elements =
          .ok names ∧
        (∀ name ∈ names, ∃ answer,
          tree.isFile? viewer (elements.child name) =
            .ok answer) ∧
        component =
          .ofFiles settings.sourceExtension directory
            (names.filter
              (isSource tree viewer settings.sourceExtension
                elements)) := by
  unfold describe at hDescribe
  cases hNames :
      entryNames tree viewer settings elements with
  | error failure => simp [hNames] at hDescribe
  | ok names =>
      simp only [hNames] at hDescribe
      cases hFiles :
          sourceFiles tree viewer settings.sourceExtension
            elements names with
      | error failure => simp [hFiles] at hDescribe
      | ok files =>
          simp only [hFiles] at hDescribe
          injection hDescribe with hComponent
          rcases (sourceFiles_eq_ok_iff names files).mp
              hFiles with
            ⟨hTested, hPicked⟩
          exact ⟨names, rfl, hTested,
            by rw [← hComponent, hPicked]⟩

/- In a sorted scan the source files are listed in order. -/
theorem describe_isSourceListing
    (hSorted : settings.sortEntries = true)
    {elements : Path}
    {component : Component}
    (hDescribe :
      describe tree viewer settings directory elements =
        .ok component) :
    ∃ files,
      IsSourceListing tree viewer settings.sourceExtension
          elements files ∧
        component =
          .ofFiles settings.sourceExtension directory
            files := by
  rcases describe_eq_ok hDescribe with
    ⟨names, hNames, _, hComponent⟩
  refine ⟨_, ⟨?_, ?_⟩, hComponent⟩
  · exact (entryNames_increasing hSorted hNames).filter _
  · intro name
    rw [List.mem_filter, mem_entryNames_iff hNames,
      isSource_eq_true_iff]

end Aggregation
