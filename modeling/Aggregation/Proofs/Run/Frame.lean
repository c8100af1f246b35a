import Aggregation.Proofs.Run.Scanned

/-
  A run touches nothing but its outputs.

  The outputs of a component are its aggregation file and,
  without a root file, its index.  However a run ends, all
  else is as before.

  Key definitions include:
    * `Component.IsOutputPath`
    * `IsConfined`

  Key theorems include:
    * `run_store`
    * `run_confined`
-/

------------------------------------------------------------
-- Stores of a Run
------------------------------------------------------------

namespace Aggregation

open Disk (FileTree Location Permissions Slot Store Viewer)
open Number (Double)

variable {settings : Settings}
variable {viewer : Viewer}
variable {store : Store}
variable {components : List Component}

/- Components are aggregated as one batch. -/
theorem runComponents_store
    (elapsed : Double)
    (components : List Component) :
    (runComponents viewer settings elapsed store
        components).store =
      (runBatch viewer settings store components).store := by
  unfold runComponents
  cases components with
  | nil => rfl
  | cons component rest =>
      simp only
      split
      · rfl
      · unfold Batch.finish
        split
        · rfl
        · rfl

/- A run aggregates the components that its scan finds. -/
theorem run_scan_ok
    (elapsed : Double)
    (hScan :
      scan store.tree viewer settings
          settings.componentsDirectory =
        .ok components) :
    run viewer settings elapsed store =
      let done :=
        runComponents viewer settings elapsed store components
      ⟨done.store, .started :: done.events,
        done.outcome⟩ := by
  unfold run
  simp only [hScan]

/- A run leaves what the batch of its components leaves. -/
theorem run_store
    (elapsed : Double)
    (hScan :
      scan store.tree viewer settings
          settings.componentsDirectory =
        .ok components) :
    (run viewer settings elapsed store).store =
      (runBatch viewer settings store components).store := by
  rw [run_scan_ok elapsed hScan]
  exact runComponents_store elapsed components

/- A run whose scan fails leaves everything as it is. -/
theorem run_scan_error
    (elapsed : Double)
    {failure : Failure}
    (hScan :
      scan store.tree viewer settings
          settings.componentsDirectory =
        .error failure) :
    run viewer settings elapsed store =
      ⟨store, [.started], .error failure⟩ := by
  unfold run
  simp only [hScan]

------------------------------------------------------------
-- Outputs
------------------------------------------------------------

/- The paths of the files that a component is given. -/
def Component.IsOutputPath
    (component : Component)
    (settings : Settings)
    (path : Path) :
    Prop :=
  path = aggregationPath settings component.directory ∨
    component.rootFile = none ∧
      path = indexPath settings component.directory

/- The path of the file of an element. -/
def Component.elementPath
    (component : Component)
    (settings : Settings)
    (element : String) :
    Path :=
  (component.directory.join settings.elementsName.text).child
    (element ++ settings.sourceExtension.text)

/-
  A tree after a run, compared with the tree before it.  It
  differs in outputs of components that a scan of the tree
  before finds.
-/
structure IsConfined
    (viewer : Viewer)
    (settings : Settings)
    (before after : FileTree) :
    Prop where
  kept :
    ∀ location,
      before.node? location ≠ none →
        after.node? location ≠ none
  directory_iff :
    ∀ location permissions,
      after.node? location =
          some (.directory permissions) ↔
        before.node? location =
          some (.directory permissions)
  rewritten : FileTree.Grows before after
  changed :
    ∀ location,
      after.node? location ≠ before.node? location →
        ∃ components,
          scan before viewer settings
              settings.componentsDirectory =
            .ok components ∧
          ∃ component ∈ components, ∃ path node,
            component.IsOutputPath settings path ∧
              after.status viewer path =
                .ok (location, node)
  unscanned :
    ∀ failure,
      scan before viewer settings
          settings.componentsDirectory =
        .error failure →
      after = before
  elements :
    settings.sourceExtension.isAtEnd
        settings.indexFileName = false →
      ∀ components,
        scan before viewer settings
            settings.componentsDirectory =
          .ok components →
        ∀ component ∈ components,
          ∀ element ∈ component.elements,
            before.LeadsToFile viewer
                (component.elementPath settings element) ∧
              after.status viewer
                  (component.elementPath settings element) =
                before.status viewer
                  (component.elementPath settings element)

/- Growth keeps whatever is there. -/
theorem grows_ne_none
    {before after : FileTree}
    (hGrows : FileTree.Grows before after)
    {location : Location}
    (hThere : before.node? location ≠ none) :
    after.node? location ≠ none := by
  rcases (hGrows location).eq_or_file with
    hKept | ⟨_, content, permissions, hFile⟩
  · rw [hKept]
    exact hThere
  · rw [hFile]
    exact Option.some_ne_none _

/- What a batch changed is at the path of an output. -/
theorem status_of_changed
    {after : FileTree}
    {sites : List (Site settings)}
    (hSited : AreSited viewer sites after)
    {before : FileTree}
    (hGrows : FileTree.Grows before after)
    {location : Location}
    (hChanged :
      after.node? location ≠ before.node? location)
    (hPlace : IsPlaceOfAny viewer sites location) :
    ∃ site ∈ sites, ∃ path node,
      site.component.IsOutputPath settings path ∧
        after.status viewer path = .ok (location, node) := by
  rcases hPlace with
    ⟨site, hSite, placed, hPlaced, hReach, hHere⟩
  have hFound :
      ∃ node, after.node? placed.slot.place = some node := by
    rw [hHere] at hChanged
    rcases (hGrows placed.slot.place).eq_or_file with
      hKept | ⟨_, content, permissions, hFile⟩
    · exact absurd hKept hChanged
    · exact ⟨_, hFile⟩
  rcases hFound with ⟨node, hNode⟩
  have hIn := hSited.inside site hSite
  have hStatus :=
    Slot.status_path_eq_ok hIn.linkFree
      (hIn.inside placed hPlaced) hReach hNode
  refine ⟨site, hSite, placed.slot.path, node, ?_, ?_⟩
  · rcases Site.slot_of_mem hPlaced with
      hSlot | ⟨hSlot, hBarrel⟩
    · rw [hSlot]
      exact .inl site.path_aggregation.symm
    · rw [hSlot]
      exact .inr ⟨hBarrel, site.path_index.symm⟩
  · rw [hHere]
    exact hStatus

------------------------------------------------------------
-- Elements
------------------------------------------------------------

variable {tree after : FileTree}
variable {library : Path}
variable {home : Location}
variable {sites : List (Site settings)}
variable {site : Site settings}

/- The file of an element of a described component. -/
theorem exists_element_file
    {component : Component}
    {elements : Path}
    (hDescribe :
      describe tree viewer settings component.directory
          elements =
        .ok component)
    {element : String}
    (hElement : element ∈ component.elements) :
    ∃ file,
      file = element ++ settings.sourceExtension.text ∧
        tree.Lists viewer elements file ∧
        tree.LeadsToFile viewer (elements.child file) ∧
        settings.sourceExtension.isAtEnd file = true := by
  rcases describe_eq_ok hDescribe with
    ⟨names, hNames, _, hComponent⟩
  rw [hComponent] at hElement
  rcases List.mem_map.mp hElement with
    ⟨file, hFile, hStem⟩
  rcases List.mem_filter.mp hFile with ⟨hName, hSource⟩
  rw [isSource_eq_true_iff] at hSource
  refine ⟨file, ?_, (mem_entryNames_iff hNames file).mp hName,
    hSource⟩
  rw [← hStem,
    settings.sourceExtension.stem_append hSource.2]

/- No component writes the file of an element. -/
theorem IsSurvey.not_isPlaceOfAny_element
    (hSurvey :
      IsSurvey tree viewer library home components sites)
    (hSite : site ∈ sites)
    {file : Name}
    (hFile : file ≠ settings.indexFileName) :
    ¬IsPlaceOfAny viewer sites
      (file :: settings.elementsName.text ::
        site.location) := by
  rintro ⟨other, hOther, placed, hPlaced, _, hPlace⟩
  rcases hSurvey.trails site hSite with ⟨trail, hHere⟩
  rcases hSurvey.trails other hOther with ⟨others, hThere⟩
  rcases Site.slot_of_mem hPlaced with hSlot | ⟨hSlot, _⟩
  · rw [hSlot] at hPlace
    injection hPlace with _ hLocation
    exact hThere.location_ne hHere _ hLocation.symm
  · rw [hSlot] at hPlace
    injection hPlace with hName _
    exact hFile hName

/- A run leaves the files of elements as they are. -/
theorem IsSurvey.status_element_eq
    (hSurvey :
      IsSurvey tree viewer library home components sites)
    (hGrows : FileTree.Grows tree after)
    (hOthers :
      ∀ location,
        ¬IsPlaceOfAny viewer sites location →
          after.node? location = tree.node? location)
    (hIndex :
      settings.sourceExtension.isAtEnd
        settings.indexFileName = false)
    (hSite : site ∈ sites)
    {element : String}
    (hElement : element ∈ site.component.elements) :
    let path := site.component.elementPath settings element
    tree.LeadsToFile viewer path ∧
      after.status viewer path = tree.status viewer path := by
  rcases hSurvey.trails site hSite with ⟨trail, hHere⟩
  rcases exists_element_file hHere.described hElement with
    ⟨file, hName, hLists, hFile, hEnd⟩
  unfold Component.elementPath
  rw [← hName]
  refine ⟨hFile, ?_⟩
  have hNe : file ≠ settings.indexFileName := by
    intro hSame
    rw [hSame, hIndex] at hEnd
    contradiction
  have hEntry :=
    hOthers _ (hSurvey.not_isPlaceOfAny_element hSite hNe)
  rw [site.plain.join_elementsName] at hLists ⊢
  have hFree := (hSurvey.sited.inside site hSite).linkFree
  have hResolve :=
    hGrows.resolve_child_eq hFree hHere.index
      hLists.ne_dots hEntry
  unfold FileTree.status
  have hDirectory :
      site.index.directory =
        site.component.directory.child
          settings.elementsName.text := rfl
  rw [← hDirectory, hResolve]

------------------------------------------------------------
-- Runs
------------------------------------------------------------

/- However a run ends, it changes its outputs at most. -/
theorem run_confined
    (viewer : Viewer)
    (settings : Settings)
    (elapsed : Double)
    (store : Store)
    (hFree : store.tree.IsLinkFree)
    (hPlain : settings.HasPlainNames) :
    IsConfined viewer settings store.tree
      (run viewer settings elapsed store).store.tree := by
  cases hScan :
      scan store.tree viewer settings
        settings.componentsDirectory with
  | error failure =>
      rw [run_scan_error elapsed hScan]
      exact {
        kept := fun _ hThere => hThere
        directory_iff := fun _ _ => .rfl
        rewritten := .refl store.tree
        changed := fun _ hChanged => absurd rfl hChanged
        unscanned := fun _ _ => rfl
        elements := by
          intro _ components hFound
          rw [hScan] at hFound
          contradiction }
  | ok components =>
      rcases scan_sites hFree hPlain hScan with
        ⟨home, _, sites, _, hSurvey⟩
      have hWritten :=
        runBatch_writtenAt hSurvey.sited
      rw [hSurvey.components] at hWritten
      rw [run_store elapsed hScan]
      exact {
        kept := fun _ => grows_ne_none hWritten.grows
        directory_iff := fun location =>
          (hWritten.grows location).directory_iff
        rewritten := hWritten.grows
        changed := by
          intro location hChanged
          rcases status_of_changed
              (hSurvey.sited.grows hWritten.grows)
              hWritten.grows hChanged
              (hWritten.changed location hChanged) with
            ⟨site, hSite, path, node, hPath, hStatus⟩
          refine ⟨components, hScan, site.component, ?_,
            path, node, hPath, hStatus⟩
          rw [← hSurvey.components]
          exact List.mem_map_of_mem hSite
        unscanned := by
          intro failure hFailed
          rw [hScan] at hFailed
          contradiction
        elements := by
          intro hIndex others hFound component hComponent
            element hElement
          rw [hScan] at hFound
          injection hFound with hFound
          rw [← hFound, ← hSurvey.components] at hComponent
          rcases List.mem_map.mp hComponent with
            ⟨site, hSite, rfl⟩
          exact hSurvey.status_element_eq hWritten.grows
            (fun _ => hWritten.node?_eq) hIndex hSite
            hElement }

/- The sample library before any run. -/
def sampleStore : Store :=
  ⟨sampleTree, []⟩

theorem sampleTree_isLinkFree : sampleTree.IsLinkFree :=
  FileTree.isLinkFree_of_forall (by decide)

theorem sampleSettings_hasPlainNames :
    sampleSettings.HasPlainNames :=
  ⟨by decide, by decide, by decide, by decide, by decide⟩

theorem run_confined_sampleStore :
    sampleStore.tree.IsLinkFree ∧
      sampleSettings.HasPlainNames ∧
      scan sampleTree sampleViewer sampleSettings
          sampleSettings.componentsDirectory =
        .ok sampleComponents ∧
      IsConfined sampleViewer sampleSettings
        sampleStore.tree
        (run sampleViewer sampleSettings (Double.zero false)
          sampleStore).store.tree :=
  ⟨sampleTree_isLinkFree, sampleSettings_hasPlainNames,
    by decide +kernel,
    run_confined sampleViewer sampleSettings
      (Double.zero false) sampleStore sampleTree_isLinkFree
      sampleSettings_hasPlainNames⟩

end Aggregation
