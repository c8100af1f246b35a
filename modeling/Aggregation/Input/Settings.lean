import Aggregation.Input.Fields

/-
  Settings read from named values.

  Every field that is wrong is reported, in the order of the
  settings.

  Key definitions include:
    * `readSettings`
-/

------------------------------------------------------------
-- Settings
------------------------------------------------------------

namespace Aggregation

namespace Input

/- Settings from named values.  Unknown names are ignored. -/
def readSettings (fields : Fields) : Checked Settings :=
  let preset := Settings.standard
  (((((((((((((Checked.valid Settings.mk).apply
    (field fields "components_dir"
      (some preset.componentsDirectory) readPath)).apply
    (field fields "elements_dir_name"
      (some preset.elementsName) readLabel)).apply
    (field fields "source_extension"
      (some preset.sourceExtension) readExtension)).apply
    (field fields "output_extension"
      (some preset.outputExtension) readExtension)).apply
    (field fields "index_name"
      (some preset.indexName) readLabel)).apply
    (field fields "index_import_extension"
      (some preset.indexImportExtension)
      readExtension)).apply
    (field fields "subcomponent_type_module"
      (some preset.typeModule) readText)).apply
    (field fields "subcomponent_type_name"
      (some preset.typeName) readText)).apply
    (field fields "root_alias"
      (some preset.rootAlias) readText)).apply
    (field fields "header"
      (some preset.header) readText)).apply
    (field fields "sort_entries"
      (some preset.sortEntries) readBool)).apply
    (field fields "fail_fast"
      (some preset.failFast) readBool)).apply
    (field fields "skip_unchanged"
      (some preset.skipUnchanged) readBool)

end Input

end Aggregation
