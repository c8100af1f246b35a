import Aggregation.Proofs.Emission.Modules
import Aggregation.Proofs.Run.Interleaving
import Aggregation.Proofs.Run.Moves

/-
  Entry points at every moment of a run.

  Other modules import a component by the file at its root.
  At no moment of a run does that file wrap an index that is
  not there, and it is there for good once there is a marker.
  What was there before is kept until it is regenerated.

  Key definitions include:
    * `EntryPointsLead`
    * `Move.Generates`
    * `KeepsEntryPoints`

  Key theorems include:
    * `Stage.step_entryPointsLead`
    * `Move.IsWorkOn.entry_eq`
    * `run_keepsEntryPoints`
-/

------------------------------------------------------------
-- Entry Points
------------------------------------------------------------

namespace Aggregation

open Disk (FileTree Location Node Slot Store Viewer)
open Number (Double)

/- A text is that of a module that wraps an index. -/
def IsWrapperText
    (settings : Settings)
    (text : String) :
    Prop :=
  Template.barrelWrapper.render (wrapperContext settings) =
    .ok text

/-
  Wherever a directory has a module that wraps an index, its
  folder of elements has a file as the index.
-/
def EntryPointsLead
    (settings : Settings)
    (tree : FileTree) :
    Prop :=
  ∀ directory text permissions,
    IsWrapperText settings text →
      tree.node? (settings.aggregationName :: directory) =
          some (.file text.toUTF8 permissions) →
        tree.HasFile
          (settings.indexFileName ::
            settings.elementsName.text :: directory)

variable {settings : Settings}
variable {viewer : Viewer}
variable {site other : Site settings}
variable {sites : List (Site settings)}
variable {store : Store}
variable {placed : Placed}

theorem isWrapperText_iff {text : String} :
    IsWrapperText settings text ↔
      text = unlines (wrapperLines settings) := by
  unfold IsWrapperText
  rw [render_wrapper, Except.ok.injEq]
  exact eq_comm

/- A wrapper is generated only where there is an index. -/
theorem Placed.emit_entryPointsLead
    (placed : Placed)
    (hFree : store.tree.IsLinkFree)
    (hSlot : placed.slot.IsIn store.tree viewer)
    (hIndex :
      ∀ text,
        placed.output.template.render placed.output.context =
            .ok text →
          IsWrapperText settings text →
            ∃ directory,
              placed.slot.place =
                  settings.aggregationName :: directory ∧
                store.tree.HasFile
                  (settings.indexFileName ::
                    settings.elementsName.text ::
                      directory))
    (hLead : EntryPointsLead settings store.tree)
    (skipUnchanged : Bool) :
    EntryPointsLead settings
      (placed.output.emit viewer skipUnchanged
        store).1.tree := by
  have hWritten :=
    placed.emit_writtenAt hFree hSlot skipUnchanged
  intro directory text permissions hText hEntry
  by_cases hKept :
      (placed.output.emit viewer skipUnchanged
          store).1.tree.node?
            (settings.aggregationName :: directory) =
        store.tree.node?
          (settings.aggregationName :: directory)
  · rw [hKept] at hEntry
    exact (hLead directory text permissions hText
      hEntry).grows hWritten.grows
  · -- The wrapper is what was written just now.
    rcases hWritten.changed _ hKept with ⟨_, hPlace⟩
    cases hEmit :
        (placed.output.emit viewer skipUnchanged
          store).2 with
    | error failure =>
        rw [hPlace] at hKept
        exact absurd
          (placed.emit_eq_error hFree hSlot hEmit) hKept
    | ok path =>
        rcases placed.emit_isDone hFree hSlot hEmit with
          ⟨_, other, _, hRender, hFile⟩
        rw [← hPlace, hEntry] at hFile
        have hSame : text = other := by
          injection hFile with hNode
          injection hNode with hBytes
          exact String.toByteArray_inj.mp hBytes
        rw [← hSame] at hRender
        rcases hIndex text hRender hText with
          ⟨here, hHere, hThere⟩
        rw [← hPlace] at hHere
        injection hHere with _ hDirectory
        rw [hDirectory]
        exact hThere.grows hWritten.grows

/- Of all modules of a component, only one is a wrapper. -/
theorem Site.eq_wrapperFile
    (hPlaced : placed ∈ site.files)
    {text : String}
    (hRender :
      placed.output.template.render placed.output.context =
        .ok text)
    (hText : IsWrapperText settings text) :
    site.files = [site.indexFile, site.wrapperFile] ∧
      placed = site.wrapperFile := by
  rw [isWrapperText_iff] at hText
  unfold Site.files Component.strategy at hPlaced ⊢
  cases hRoot : site.component.rootFile with
  | some root =>
      simp only [hRoot, List.mem_singleton] at hPlaced
      have hComposed :=
        render_composed settings site.component.directory
          site.component.elements root
      have hContext :
          placed.output.template.render
              placed.output.context =
            Template.composed.render
              (composedContext settings
                site.component.directory
                site.component.elements (some root)) := by
        rw [hPlaced, ← hRoot]
        rfl
      rw [hContext, hComposed] at hRender
      injection hRender with hSame
      exact absurd (hSame.trans hText)
        (composed_ne_wrapper settings _ _ _ _)
  | none =>
      simp only [hRoot, List.mem_cons, List.not_mem_nil,
        or_false] at hPlaced ⊢
      rcases hPlaced with rfl | rfl
      · have hIndex :=
          render_index settings site.component.elements
        have hSame :=
          hRender.symm.trans hIndex
        injection hSame with hSame
        exact absurd (hSame.symm.trans hText)
          (index_ne_wrapper settings _)
      · exact ⟨trivial, rfl⟩

/- Before the wrapper of a component there is its index. -/
theorem Stage.Fits.hasFile_index
    {created : Bool}
    {done : List Path}
    {left : List Output}
    (hFits :
      (Stage.writing created done placed.output left).Fits
        site viewer store.tree)
    (hFiles :
      site.files = [site.indexFile, site.wrapperFile])
    (hTake :
      site.files.take (done.length + 1) =
        site.files.take done.length ++ [site.wrapperFile]) :
    store.tree.HasFile site.index.place := by
  have hFirst :
      site.indexFile ∈ site.files.take (done.length + 1) := by
    rw [hFiles, List.take_succ_cons]
    exact List.mem_cons_self
  rw [hTake] at hFirst
  rcases List.mem_append.mp hFirst with hDone | hLast
  · rcases hFits.done _ hDone with
      ⟨_, text, permissions, _, hFile⟩
    exact ⟨text.toUTF8, permissions, hFile⟩
  · have hSame := List.mem_singleton.mp hLast
    have hPlace :
        site.index.place = site.aggregation.place :=
      congrArg (fun placed => placed.slot.place) hSame
    exact absurd hPlace site.place_index_ne

/- No step leaves a wrapper without its index. -/
theorem Stage.step_entryPointsLead
    (hSite : site.IsIn viewer store.tree)
    {stage : Stage}
    (hFits : stage.Fits site viewer store.tree)
    (hLead : EntryPointsLead settings store.tree) :
    EntryPointsLead settings
      (stage.step viewer settings site.component
        store).1.tree := by
  cases stage with
  | checking => exact hLead
  | marking =>
      have hMarker :
          Template.placeholder.render
              (placeholderContext settings) =
            .ok (unlines (placeholderLines settings)) :=
        render_placeholder settings
      refine site.marker.emit_entryPointsLead
        hSite.linkFree hSite.aggregation ?_ hLead _
      intro text hRender hText
      have hSame := hRender.symm.trans hMarker
      injection hSame with hSame
      exact absurd
        (hSame.symm.trans (isWrapperText_iff.mp hText))
        (placeholder_ne_wrapper settings)
  | writing created done output left =>
      rcases hFits.isOf.exists_placed with
        ⟨placed, hPlaced, rfl, hTake, _⟩
      refine placed.emit_entryPointsLead hSite.linkFree
        (hSite.tail.inside placed hPlaced) ?_ hLead _
      intro text hRender hText
      rcases site.eq_wrapperFile hPlaced hRender hText with
        ⟨hFiles, hWrapper⟩
      rw [hWrapper] at hTake
      refine ⟨site.location, ?_,
        hFits.hasFile_index hFiles hTake⟩
      rw [hWrapper]
      rfl
  | ended outcome => exact hLead

------------------------------------------------------------
-- Entries at the Root of a Component
------------------------------------------------------------

/- The directory that a path leads to has an entry. -/
def HasEntry
    (tree : FileTree)
    (viewer : Viewer)
    (directory : Path)
    (name : Name)
    (node : Node) :
    Prop :=
  ∃ location permissions,
    tree.resolve viewer directory =
        .ok (.present location (.directory permissions)) ∧
      tree.node? (name :: location) = some node

/- Test for work that came to an early end. -/
def Stage.hasFailed : Stage → Bool
  | .ended (.unmarked _) => true
  | .ended (.unfinished _ _) => true
  | _ => false

/- A move that generates the file of a path. -/
def Move.Generates (move : Move) (path : Path) : Prop :=
  move.next.hasFailed = false ∧
    ∃ created done output left,
      move.stage = .writing created done output left ∧
        output.path = path

/- An entry at the root of a site is one at its place. -/
theorem Site.hasEntry_iff
    {tree : FileTree}
    (hSite : site.IsIn viewer tree)
    (node : Node) :
    HasEntry tree viewer site.component.directory
        settings.aggregationName node ↔
      tree.node? site.aggregation.place = some node := by
  have hResolve :
      tree.resolve viewer site.component.directory =
        .ok (.present site.location
          (.directory site.permissions)) :=
    hSite.aggregation
  constructor
  · rintro ⟨location, permissions, hHere, hNode⟩
    rw [hResolve] at hHere
    injection hHere with hHere
    injection hHere with hLocation
    rw [← hLocation] at hNode
    exact hNode
  · intro hNode
    exact ⟨site.location, site.permissions, hResolve, hNode⟩

/- A marker that is there is found there. -/
theorem Site.HasMarker.exists?_eq
    {tree : FileTree}
    (hThere : site.HasMarker viewer tree)
    (hSite : site.IsIn viewer tree) :
    tree.exists? viewer
        (aggregationPath settings
          site.component.directory) =
      .ok true := by
  have hTest := site.isMarked_of_hasMarker hThere
  unfold FileTree.exists?
  rw [site.path_aggregation,
    Slot.test_path hSite.linkFree hSite.aggregation]
  exact hTest

/- A step that fails leaves the root of its site alone. -/
theorem Placed.emit_entry_eq
    (hSite : site.IsIn viewer store.tree)
    (hPlaced : placed ∈ site.files)
    (hKept :
      placed.output.path =
          aggregationPath settings
            site.component.directory →
        ∃ failure,
          (placed.output.emit viewer settings.skipUnchanged
              store).2 =
            .error failure) :
    (placed.output.emit viewer settings.skipUnchanged
        store).1.tree.node? site.aggregation.place =
      store.tree.node? site.aggregation.place := by
  have hSlot := hSite.tail.inside placed hPlaced
  rcases Site.slot_of_mem
      (List.mem_cons_of_mem site.marker hPlaced) with
    hHere | ⟨hIndex, _⟩
  · have hPath :
        placed.output.path =
          aggregationPath settings
            site.component.directory := by
      rw [placed.path_eq, hHere, site.path_aggregation]
    rcases hKept hPath with ⟨failure, hEmit⟩
    rw [← hHere]
    exact placed.emit_eq_error hSite.linkFree hSlot hEmit
  · refine (placed.emit_writtenAt hSite.linkFree hSlot
      settings.skipUnchanged).node?_eq ?_
    rintro ⟨_, hPlace⟩
    rw [hIndex] at hPlace
    exact site.place_index_ne hPlace.symm

/-
  Until it is generated, what is at the root of a component
  is kept by the component's own moves.
-/
theorem Move.IsWorkOn.entry_eq
    {move : Move}
    (hWork : move.IsWorkOn site viewer)
    {node : Node}
    (hNode :
      move.before.tree.node? site.aggregation.place =
        some node)
    (hOther :
      ¬move.Generates
        (aggregationPath settings
          site.component.directory)) :
    move.after.tree.node? site.aggregation.place =
      some node := by
  have hSite := hWork.inside
  have hFits := hWork.fits
  have hStep := hWork.step_eq
  rw [← hNode]
  cases hStage : move.stage with
  | checking =>
      rw [hStage] at hStep
      injection hStep with hAfter
      rw [← hAfter]
  | marking =>
      -- A placeholder is written only where nothing is.
      rw [hStage] at hStep hFits
      injection hStep with hAfter
      rw [← hAfter]
      refine (site.marker.emit_writtenAt hSite.linkFree
        hSite.aggregation settings.skipUnchanged).node?_eq
          ?_
      rintro ⟨hReach, _⟩
      have hThere :
          site.HasMarker viewer move.before.tree :=
        ⟨hReach, by rw [hNode]; rfl⟩
      have hMarked := site.isMarked_of_hasMarker hThere
      rw [hFits.vacant rfl] at hMarked
      contradiction
  | writing created done output left =>
      rw [hStage] at hStep hFits
      rcases hFits.isOf.exists_placed with
        ⟨placed, hPlaced, rfl, _, _⟩
      injection hStep with hAfter hNext
      rw [← hAfter]
      refine placed.emit_entry_eq hSite hPlaced ?_
      intro hPath
      cases hEmit :
          (placed.output.emit viewer settings.skipUnchanged
            move.before).2 with
      | error failure => exact ⟨failure, rfl⟩
      | ok path =>
          refine absurd ⟨?_, created, done, placed.output,
            left, hStage, hPath⟩ hOther
          rw [← hNext, hEmit]
          cases left with
          | nil => rfl
          | cons output left => rfl
  | ended outcome =>
      rw [hStage] at hStep
      injection hStep with hAfter
      rw [← hAfter]

/- The moves of other components leave a root alone. -/
theorem Move.IsWorkOn.entry_eq_of_isApart
    {move : Move}
    (hWork : move.IsWorkOn other viewer)
    (hApart : site.IsApart other) :
    move.after.tree.node? site.aggregation.place =
      move.before.tree.node? site.aggregation.place := by
  refine hWork.writtenAt.node?_eq ?_
  rintro ⟨placed, hPlaced, _, hPlace⟩
  exact hApart site.marker List.mem_cons_self placed hPlaced
    hPlace

------------------------------------------------------------
-- Runs
------------------------------------------------------------

/- All moves of a run are work on sites that lie apart. -/
theorem exists_runMoves_isWork
    (hFree : store.tree.IsLinkFree)
    (hPlain : settings.HasPlainNames) :
    ∃ sites : List (Site settings),
      AreSited viewer sites store.tree ∧
        ∀ move ∈ runMoves viewer settings store,
          ∃ site ∈ sites, move.IsWorkOn site viewer := by
  cases hScan :
      scan store.tree viewer settings
        settings.componentsDirectory with
  | error failure =>
      have hNone : runMoves viewer settings store = [] := by
        unfold runMoves
        rw [runTurns_scan_error hScan]
        rfl
      rw [hNone]
      exact ⟨[],
        ⟨List.forall_mem_nil _, List.Pairwise.nil⟩,
        List.forall_mem_nil _⟩
  | ok components =>
      rcases scan_sites hFree hPlain hScan with
        ⟨_, _, sites, _, hSurvey⟩
      exact ⟨sites, hSurvey.sited,
        runMoves_isWork hScan hSurvey.components
          hSurvey.sited⟩

/-
  The moves of a run, from a store to the one it leaves, with
  what holds of the entry points at every moment.
-/
structure KeepsEntryPoints
    (viewer : Viewer)
    (settings : Settings)
    (store : Store)
    (moves : List Move)
    (final : Store) :
    Prop where
  passage : IsPassage viewer settings store moves final
  -- No wrapper without its index.
  lead :
    EntryPointsLead settings store.tree →
      ∀ move ∈ moves,
        EntryPointsLead settings move.after.tree
  -- A marker is there for good.
  marked :
    ∀ earlier marked later,
      moves = earlier ++ marked :: later →
        marked.next.isMarked = true →
          ∀ move ∈ marked :: later,
            move.after.tree.exists? viewer
                (aggregationPath settings
                  marked.component.directory) =
              .ok true
  -- What was there is kept until it is generated.
  kept :
    ∀ earlier marker during later node,
      moves = earlier ++ marker :: (during ++ later) →
        marker.stage = .checking →
          HasEntry marker.before.tree viewer
              marker.component.directory
              settings.aggregationName node →
            (∀ move ∈ during,
              move.component = marker.component →
                ¬move.Generates
                  (aggregationPath settings
                    marker.component.directory)) →
              ∀ move ∈ marker :: during,
                HasEntry move.after.tree viewer
                  marker.component.directory
                  settings.aggregationName node

/- No move of a run leaves a wrapper without its index. -/
theorem Move.IsWorkOn.entryPointsLead
    {move : Move}
    (hWork : move.IsWorkOn site viewer)
    (hLead : EntryPointsLead settings move.before.tree) :
    EntryPointsLead settings move.after.tree := by
  have hStep :=
    Stage.step_entryPointsLead hWork.inside hWork.fits hLead
  rw [hWork.step_eq] at hStep
  exact hStep

/- After a move past its marker, a component has one. -/
theorem IsPassage.exists?_eq
    {moves : List Move}
    {final : Store}
    (hPassage :
      IsPassage viewer settings store moves final)
    (hGrows :
      ∀ move ∈ moves,
        FileTree.Grows move.before.tree move.after.tree)
    (hSite : site.IsIn viewer store.tree)
    (hMarker : site.HasMarker viewer store.tree) :
    ∀ move ∈ moves,
      move.after.tree.exists? viewer
          (aggregationPath settings
            site.component.directory) =
        .ok true := by
  have hAll :=
    hPassage.keeps
      (fun store =>
        site.IsIn viewer store.tree ∧
          site.HasMarker viewer store.tree)
      (fun move hMove hBefore =>
        ⟨hBefore.1.grows (hGrows move hMove),
          hBefore.2.grows (hGrows move hMove)⟩)
      ⟨hSite, hMarker⟩
  intro move hMove
  rcases hAll move hMove with ⟨hIn, hThere⟩
  exact hThere.exists?_eq hIn

/- What is at a root is kept while nobody generates it. -/
theorem IsPassage.entry_eq
    {moves : List Move}
    {final : Store}
    {tree : FileTree}
    {node : Node}
    (hPassage :
      IsPassage viewer settings store moves final)
    (hSited : AreSited viewer sites tree)
    (hWork :
      ∀ move ∈ moves,
        ∃ other ∈ sites, move.IsWorkOn other viewer)
    (hSite : site ∈ sites)
    (hIn : site.IsIn viewer store.tree)
    (hNode :
      store.tree.node? site.aggregation.place = some node)
    (hOthers :
      ∀ move ∈ moves,
        move.component = site.component →
          ¬move.Generates
            (aggregationPath settings
              site.component.directory)) :
    ∀ move ∈ moves,
      HasEntry move.after.tree viewer
        site.component.directory settings.aggregationName
        node := by
  have hAll :=
    hPassage.keeps
      (fun store =>
        site.IsIn viewer store.tree ∧
          store.tree.node? site.aggregation.place =
            some node)
      (by
        rintro move hMove ⟨hIn, hHere⟩
        rcases hWork move hMove with
          ⟨other, hOther, hMoved⟩
        refine ⟨hIn.grows hMoved.writtenAt.grows, ?_⟩
        by_cases hSame :
            site.component = other.component
        · rw [← hSited.eq_of_component hSite hOther hSame]
            at hMoved
          exact hMoved.entry_eq hHere
            (hOthers move hMove hMoved.component)
        · rw [hMoved.entry_eq_of_isApart
            (hSited.isApart hSite hOther hSame)]
          exact hHere)
      ⟨hIn, hNode⟩
  intro move hMove
  rcases hAll move hMove with ⟨hLater, hHere⟩
  exact (site.hasEntry_iff hLater node).mpr hHere

/- At every moment of a run its entry points are kept. -/
theorem run_keepsEntryPoints
    (viewer : Viewer)
    (settings : Settings)
    (elapsed : Double)
    (store : Store)
    (hFree : store.tree.IsLinkFree)
    (hPlain : settings.HasPlainNames) :
    KeepsEntryPoints viewer settings store
      (runMoves viewer settings store)
      (run viewer settings elapsed store).store := by
  have hPassage := run_isPassage viewer settings elapsed store
  rcases exists_runMoves_isWork hFree hPlain with
    ⟨sites, hSited, hWork⟩
  refine ⟨hPassage, ?_, ?_, ?_⟩
  · refine hPassage.keeps
      (fun store => EntryPointsLead settings store.tree) ?_
    intro move hMove
    rcases hWork move hMove with ⟨site, _, hMoved⟩
    exact hMoved.entryPointsLead
  · intro earlier marked later hMoves hMarked
    rw [hMoves] at hPassage hWork
    rcases hPassage.split with ⟨middle, _, hSuffix⟩
    have hHere : marked ∈ earlier ++ marked :: later :=
      List.mem_append_right earlier List.mem_cons_self
    rcases hWork marked hHere with ⟨site, hSite, hMoved⟩
    have hIn := hMoved.inside.grows hMoved.writtenAt.grows
    have hThere := hMoved.next_fits.marked hMarked
    rw [hMoved.component]
    refine List.forall_mem_cons.mpr
      ⟨hThere.exists?_eq hIn, ?_⟩
    cases hSuffix with
    | cons _ hRest =>
        refine hRest.exists?_eq ?_ hIn hThere
        intro move hMove
        rcases hWork move
            (List.mem_append_right earlier
              (List.mem_cons_of_mem marked hMove)) with
          ⟨_, _, hOther⟩
        exact hOther.writtenAt.grows
  · intro earlier marker during later node hMoves hStage
      hEntry hOthers
    rw [← List.cons_append] at hMoves
    rw [hMoves] at hPassage hWork
    rcases hPassage.split with ⟨middle, _, hSuffix⟩
    rcases hSuffix.split with ⟨_, hDuring, _⟩
    have hThese :
        ∀ move ∈ marker :: during,
          ∃ site ∈ sites, move.IsWorkOn site viewer := by
      intro move hMove
      exact hWork move (List.mem_append_right earlier
        (List.mem_append_left later hMove))
    rcases hThese marker List.mem_cons_self with
      ⟨site, hSite, hMoved⟩
    have hIn := hMoved.inside
    rw [hMoved.component] at hEntry hOthers ⊢
    rw [site.hasEntry_iff hIn] at hEntry
    rw [← hDuring.store_eq] at hIn hEntry
    refine hDuring.entry_eq hSited hThese hSite hIn hEntry
      (List.forall_mem_cons.mpr ⟨?_, hOthers⟩)
    -- The test for a marker generates nothing.
    rintro _ ⟨_, _, _, _, _, hWriting, _⟩
    rw [hStage] at hWriting
    contradiction

theorem run_keepsEntryPoints_sampleStore :
    sampleStore.tree.IsLinkFree ∧
      sampleSettings.HasPlainNames ∧
      KeepsEntryPoints sampleViewer sampleSettings
        sampleStore
        (runMoves sampleViewer sampleSettings sampleStore)
        (run sampleViewer sampleSettings (Double.zero false)
          sampleStore).store :=
  ⟨sampleTree_isLinkFree, sampleSettings_hasPlainNames,
    run_keepsEntryPoints sampleViewer sampleSettings
      (Double.zero false) sampleStore sampleTree_isLinkFree
      sampleSettings_hasPlainNames⟩

end Aggregation
