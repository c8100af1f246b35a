import Aggregation.Proofs.Emission.Alias
import Aggregation.Proofs.Emission.Modules
import Aggregation.Proofs.Run.Frame

/-
  What a run that succeeds leaves behind.

  After a run with a report, every component has the files
  of its strategy, and they say about its source files what
  they should.

  Key definitions include:
    * `Holds`
    * `IsAggregated`

  Key theorems include:
    * `Site.isAggregated`
    * `run_aggregates`
-/

------------------------------------------------------------
-- Aggregated Components
------------------------------------------------------------

namespace Aggregation

open Disk (FileTree Store Viewer)
open Number (Double)

/- A path leads to a file of a text. -/
def Holds
    (tree : FileTree)
    (viewer : Viewer)
    (path : Path)
    (text : String) :
    Prop :=
  ∃ location permissions,
    tree.status viewer path =
      .ok (location, .file text.toUTF8 permissions)

/- A module is composed around the file of a root. -/
def IsComposed
    (viewer : Viewer)
    (settings : Settings)
    (after : FileTree)
    (directory : Path)
    (root : Name)
    (files : List Name) :
    Prop :=
  let identifier := normalize directory.name
  let others :=
    (files.filter fun file =>
      normalize (settings.sourceExtension.stem file) !=
        identifier).map
      (Element.ofFile settings.sourceExtension)
  ∃ rootName,
    IsLeastAlias
        ([identifier, identifier ++ "Type",
            settings.typeName] ++
          others.map Element.identifier)
        settings.rootAlias rootName ∧
      Holds after viewer
        (aggregationPath settings directory)
        (unlines (composedLines settings identifier rootName
          root others))

/- An index exports all files, and a module wraps it. -/
def IsBarrel
    (viewer : Viewer)
    (settings : Settings)
    (after : FileTree)
    (directory : Path)
    (files : List Name) :
    Prop :=
  Holds after viewer (indexPath settings directory)
      (unlines (indexLines settings
        (files.map
          (Element.ofFile settings.sourceExtension)))) ∧
    Holds after viewer (aggregationPath settings directory)
      (unlines (wrapperLines settings))

/-
  The tree after a run holds the modules of a component, for
  the source files that it had in the tree before.  Its root
  is the first file that is spelled like the component.
-/
def IsAggregated
    (viewer : Viewer)
    (settings : Settings)
    (before after : FileTree)
    (directory : Path) :
    Prop :=
  ∃ files,
    IsSourceListing before viewer settings.sourceExtension
        (directory.join settings.elementsName.text)
        files ∧
      match
        files.find? fun file =>
          normalize (settings.sourceExtension.stem file) ==
            normalize directory.name with
      | some root =>
          IsComposed viewer settings after directory root
            files
      | none =>
          IsBarrel viewer settings after directory files

------------------------------------------------------------
-- Finished Sites
------------------------------------------------------------

variable {settings : Settings}
variable {viewer : Viewer}
variable {tree after : FileTree}
variable {site : Site settings}

/- A file that is done holds its text. -/
theorem Placed.IsDone.holds
    {placed : Placed}
    (hSite : site.IsIn viewer after)
    (hPlaced : placed ∈ site.files)
    (hDone : site.IsDone viewer after)
    {text : String}
    (hText :
      placed.output.template.render placed.output.context =
        .ok text) :
    Holds after viewer placed.output.path text := by
  rcases hDone placed hPlaced with
    ⟨hReach, other, permissions, hRender, hFile⟩
  have hSame : other = text := by
    rw [hText] at hRender
    injection hRender with hSame
    exact hSame.symm
  rw [hSame] at hFile
  have hSlot :=
    hSite.inside placed
      (List.mem_cons_of_mem site.marker hPlaced)
  rw [placed.path_eq]
  exact ⟨_, permissions,
    Disk.Slot.status_path_eq_ok hSite.linkFree hSlot hReach
      hFile⟩

/- A finished component with a root file is composed. -/
theorem Site.isComposed
    (hSite : site.IsIn viewer after)
    (hDone : site.IsDone viewer after)
    {files : List Name}
    (hEnd :
      ∀ file ∈ files,
        settings.sourceExtension.isAtEnd file = true)
    (hElements :
      site.component.elements =
        files.map settings.sourceExtension.stem)
    {root : Name}
    (hRoot : site.component.rootFile = some root) :
    IsComposed viewer settings after
      site.component.directory root files := by
  have hFile : site.composedFile ∈ site.files := by
    unfold Site.files Component.strategy
    simp [hRoot]
  have hText :=
    render_composed settings site.component.directory
      site.component.elements root
  have hContext :
      site.composedFile.output.context =
        composedContext settings site.component.directory
          site.component.elements (some root) := by
    rw [← hRoot]
    rfl
  have hHolds :=
    Placed.IsDone.holds hSite hFile hDone
      ((congrArg _ hContext).trans hText)
  unfold rootNameOf at hHolds
  rw [hElements, properties_stems settings _ hEnd] at hHolds
  refine ⟨_, rootAlias_isLeastAlias settings _ _, ?_⟩
  exact hHolds

/- A finished component without a root file is a barrel. -/
theorem Site.isBarrel
    (hSite : site.IsIn viewer after)
    (hDone : site.IsDone viewer after)
    {files : List Name}
    (hEnd :
      ∀ file ∈ files,
        settings.sourceExtension.isAtEnd file = true)
    (hElements :
      site.component.elements =
        files.map settings.sourceExtension.stem)
    (hRoot : site.component.rootFile = none) :
    IsBarrel viewer settings after site.component.directory
      files := by
  have hFiles :
      site.files = [site.indexFile, site.wrapperFile] := by
    unfold Site.files Component.strategy
    simp [hRoot]
  have hIndex : site.indexFile ∈ site.files := by
    rw [hFiles]
    exact List.mem_cons_self
  have hWrapper : site.wrapperFile ∈ site.files := by
    rw [hFiles]
    exact List.mem_cons_of_mem _ List.mem_cons_self
  refine ⟨?_, ?_⟩
  · have hHolds :=
      Placed.IsDone.holds hSite hIndex hDone
        (render_index settings site.component.elements)
    rw [hElements,
      elementsOf_stems settings.sourceExtension hEnd]
      at hHolds
    exact hHolds
  · exact Placed.IsDone.holds hSite hWrapper hDone
      (render_wrapper settings)

/- A finished site is aggregated. -/
theorem Site.isAggregated
    (hSorted : settings.sortEntries = true)
    (hDescribe :
      describe tree viewer settings site.component.directory
          (site.component.directory.join
            settings.elementsName.text) =
        .ok site.component)
    (hSite : site.IsIn viewer after)
    (hDone : site.IsDone viewer after) :
    IsAggregated viewer settings tree after
      site.component.directory := by
  rcases describe_isSourceListing hSorted hDescribe with
    ⟨files, hListing, hComponent⟩
  have hEnd :
      ∀ file ∈ files,
        settings.sourceExtension.isAtEnd file = true :=
    fun file hFile =>
      ((hListing.mem_iff file).mp hFile).2.2
  have hElements :
      site.component.elements =
        files.map settings.sourceExtension.stem := by
    rw [hComponent]
    rfl
  have hRoot :
      site.component.rootFile =
        files.find? fun file =>
          normalize (settings.sourceExtension.stem file) ==
            normalize site.component.directory.name := by
    rw [hComponent]
    rfl
  refine ⟨files, hListing, ?_⟩
  rw [← hRoot]
  cases hFound : site.component.rootFile with
  | some root =>
      exact site.isComposed hSite hDone hEnd hElements hFound
  | none =>
      exact site.isBarrel hSite hDone hEnd hElements hFound

------------------------------------------------------------
-- Runs with a Report
------------------------------------------------------------

/- A report means that no component failed. -/
theorem run_outcome_eq_ok
    {elapsed : Double}
    {store : Store}
    {report : Report}
    (hReport :
      (run viewer settings elapsed store).outcome =
        .ok report) :
    ∃ components,
      scan store.tree viewer settings
          settings.componentsDirectory =
        .ok components ∧
      (runBatch viewer settings store components).stopped =
        none ∧
      (runBatch viewer settings store components).failures =
        [] := by
  unfold run at hReport
  cases hScan :
      scan store.tree viewer settings
        settings.componentsDirectory with
  | error failure => simp [hScan] at hReport
  | ok components =>
      refine ⟨components, rfl, ?_⟩
      simp only [hScan] at hReport
      unfold runComponents at hReport
      cases components with
      | nil => exact ⟨rfl, rfl⟩
      | cons component rest =>
          simp only at hReport
          split at hReport
          · contradiction
          · rename_i hStopped
            refine ⟨hStopped, ?_⟩
            unfold Batch.finish at hReport
            split at hReport
            · assumption
            · contradiction

/- A run with a report aggregates every component. -/
theorem run_aggregates
    (viewer : Viewer)
    (settings : Settings)
    (elapsed : Double)
    (store : Store)
    (report : Report)
    (hFree : store.tree.IsLinkFree)
    (hPlain : settings.HasPlainNames)
    (hSorted : settings.sortEntries = true)
    (hReport :
      (run viewer settings elapsed store).outcome =
        .ok report) :
    ∃ components,
      scan store.tree viewer settings
          settings.componentsDirectory =
        .ok components ∧
      ∀ component ∈ components,
        IsAggregated viewer settings store.tree
          (run viewer settings elapsed store).store.tree
          component.directory := by
  rcases run_outcome_eq_ok hReport with
    ⟨components, hScan, hStopped, hFailures⟩
  rcases scan_sites hFree hPlain hScan with
    ⟨home, _, sites, _, hSurvey⟩
  refine ⟨components, hScan, ?_⟩
  rw [run_store elapsed hScan]
  have hComponents := hSurvey.components
  rw [← hComponents] at hStopped hFailures ⊢
  have hWritten := runBatch_writtenAt hSurvey.sited
  have hSited := hSurvey.sited.grows hWritten.grows
  have hDone :=
    runBatch_done hSurvey.sited hStopped hFailures
  intro component hComponent
  rcases List.mem_map.mp hComponent with
    ⟨site, hSite, rfl⟩
  rcases hSurvey.trails site hSite with ⟨trail, hTrail⟩
  exact site.isAggregated hSorted hTrail.described
    (hSited.inside site hSite) (hDone site hSite)

theorem run_aggregates_sampleStore :
    sampleStore.tree.IsLinkFree ∧
      sampleSettings.HasPlainNames ∧
      sampleSettings.sortEntries = true ∧
      ∃ report,
        (run sampleViewer sampleSettings (Double.zero false)
            sampleStore).outcome =
          .ok report ∧
        ∃ components,
          scan sampleStore.tree sampleViewer sampleSettings
              sampleSettings.componentsDirectory =
            .ok components ∧
          ∀ component ∈ components,
            IsAggregated sampleViewer sampleSettings
              sampleStore.tree
              (run sampleViewer sampleSettings
                (Double.zero false) sampleStore).store.tree
              component.directory := by
  refine ⟨sampleTree_isLinkFree,
    sampleSettings_hasPlainNames, rfl, ?_⟩
  have hOk :
      (run sampleViewer sampleSettings (Double.zero false)
          sampleStore).outcome.isOk = true := by
    decide +kernel
  cases hReport :
      (run sampleViewer sampleSettings (Double.zero false)
        sampleStore).outcome with
  | error failure =>
      rw [hReport] at hOk
      contradiction
  | ok report =>
      exact ⟨report, rfl,
        run_aggregates sampleViewer sampleSettings
          (Double.zero false) sampleStore report
          sampleTree_isLinkFree sampleSettings_hasPlainNames
          rfl hReport⟩

end Aggregation
