import Aggregation.Path

/-
  Settings of a run.

  Every naming convention that generation relies on is one
  field.  The standard settings are those of a component
  library under `src/lib/components`.

  Key definitions include:
    * `Label`
    * `Extension`
    * `Settings`
    * `Settings.standard`
    * `Settings.aggregationName`
    * `Settings.indexFileName`
    * `Settings.indexImportPath`
-/

------------------------------------------------------------
-- Checked Texts
------------------------------------------------------------

namespace Aggregation

/- A text with at least one character. -/
structure Label where
  text : String
  nonempty : text.toList ≠ []

/- Test for a point with something behind it. -/
def isExtension (text : String) : Bool :=
  match text.toList with
  | '.' :: _ :: _ => true
  | _ => false

/- An extension of file names, with its point. -/
structure Extension where
  text : String
  dotted : isExtension text = true

------------------------------------------------------------
-- Settings
------------------------------------------------------------

/- Line that opens every generated file as a standard. -/
def generatedHeader : String :=
  "// This file is auto-generated. Do not edit manually."

/- The choices of one run. -/
structure Settings where
  componentsDirectory : Path
  elementsName : Label
  sourceExtension : Extension
  outputExtension : Extension
  indexName : Label
  indexImportExtension : Extension
  typeModule : String
  typeName : String
  rootAlias : String
  header : String
  sortEntries : Bool
  failFast : Bool
  skipUnchanged : Bool

namespace Settings

/- The choices of a run that makes none of its own. -/
def standard : Settings where
  componentsDirectory := Path.ofString "src/lib/components"
  elementsName := ⟨"elements", by decide⟩
  sourceExtension := ⟨".svelte", by decide⟩
  outputExtension := ⟨".ts", by decide⟩
  indexName := ⟨"__index__", by decide⟩
  indexImportExtension := ⟨".js", by decide⟩
  typeModule := "$lib/types/svelte.js"
  typeName := "SubComponent"
  rootAlias := "Root"
  header := generatedHeader
  sortEntries := true
  failFast := true
  skipUnchanged := false

------------------------------------------------------------
-- Derived Names
------------------------------------------------------------

/- Name of the file at the root of a component. -/
def aggregationName (settings : Settings) : String :=
  settings.elementsName.text ++ settings.outputExtension.text

/- Name of the index inside the folder of elements. -/
def indexFileName (settings : Settings) : String :=
  settings.indexName.text ++ settings.outputExtension.text

/- How the file at the root imports the index. -/
def indexImportPath (settings : Settings) : String :=
  "./" ++ settings.elementsName.text ++ "/" ++
    settings.indexName.text ++
      settings.indexImportExtension.text

end Settings

end Aggregation
