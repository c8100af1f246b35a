import Aggregation.Proofs.Emission.Placement
import Aggregation.Proofs.Trail
import Aggregation.Run.Process

/-
  Components whose directories are known.

  A site is a component with the places of its directory.
  The files that may be written for it have their slots, and
  a marker is one of them.

  Key definitions include:
    * `Site`
    * `Site.marker`
    * `Site.files`
    * `Site.HasMarker`

  Key theorems include:
    * `Site.areApart_files`
    * `ensureMarker_eq`
    * `ensureMarker_eq_ok`
    * `ensureMarker_again`
-/

------------------------------------------------------------
-- Sites
------------------------------------------------------------

namespace Aggregation

open Disk (Fault FileTree Location Permissions Slot Store
  Viewer)

/- A component with the place of its directory. -/
structure Site (settings : Settings) where
  component : Component
  location : Location
  permissions : Permissions
  elementsPermissions : Permissions
  plain : settings.HasPlainNames
  named : component.directory.name ≠ "."

namespace Site

variable {settings : Settings}

/- The slot of the file at the root of a component. -/
def aggregation (site : Site settings) : Slot where
  directory := site.component.directory
  location := site.location
  permissions := site.permissions
  name := settings.aggregationName
  nonempty := settings.aggregationName_ne_dots.1
  notHere := settings.aggregationName_ne_dots.2.1
  notAbove := settings.aggregationName_ne_dots.2.2
  plain := site.plain.aggregationName
  named := site.named

/- The slot of the index of a component. -/
def index (site : Site settings) : Slot where
  directory :=
    site.component.directory.child settings.elementsName.text
  location := settings.elementsName.text :: site.location
  permissions := site.elementsPermissions
  name := settings.indexFileName
  nonempty := settings.indexFileName_ne_dots.1
  notHere := settings.indexFileName_ne_dots.2.1
  notAbove := settings.indexFileName_ne_dots.2.2
  plain := site.plain.indexFileName
  named := site.plain.notHere

variable (site : Site settings)

theorem path_aggregation :
    aggregationPath settings site.component.directory =
      site.aggregation.path :=
  site.plain.join_aggregationName _

theorem path_index :
    indexPath settings site.component.directory =
      site.index.path := by
  unfold indexPath
  rw [site.plain.join_elementsName,
    site.plain.join_indexFileName]
  rfl

/- The two files of a component lie at different places. -/
theorem place_index_ne :
    site.index.place ≠ site.aggregation.place := by
  intro hSame
  have hLength := congrArg List.length hSame
  simp [Slot.place, index, aggregation] at hLength

/- The placeholder of a component. -/
def marker : Placed where
  output := placeholderOutput settings
    site.component.directory
  slot := site.aggregation
  path_eq := site.path_aggregation

/- The file that is composed around a root. -/
def composedFile : Placed where
  output := composedOutput settings site.component.directory
    site.component.elements site.component.rootFile
  slot := site.aggregation
  path_eq := site.path_aggregation

/- The index of the elements. -/
def indexFile : Placed where
  output := indexOutput settings site.component.directory
    site.component.elements
  slot := site.index
  path_eq := site.path_index

/- The file that wraps the index. -/
def wrapperFile : Placed where
  output := wrapperOutput settings site.component.directory
  slot := site.aggregation
  path_eq := site.path_aggregation

/- The files of the strategy of a component. -/
def files : List Placed :=
  match site.component.strategy with
  | .composed => [site.composedFile]
  | .barrel => [site.indexFile, site.wrapperFile]

theorem outputs_files :
    site.files.map Placed.output =
      site.component.outputs settings := by
  unfold files Component.outputs
  cases site.component.strategy with
  | composed => rfl
  | barrel => rfl

theorem areApart_files : AreApart site.files := by
  unfold files
  cases site.component.strategy with
  | composed => exact List.pairwise_singleton _ _
  | barrel =>
      refine List.pairwise_cons.mpr
        ⟨?_, List.pairwise_singleton _ _⟩
      intro other hOther
      rw [List.mem_singleton.mp hOther]
      exact site.place_index_ne

/- All that may be written for a component. -/
def placed : List Placed :=
  site.marker :: site.files

end Site

------------------------------------------------------------
-- Markers
------------------------------------------------------------

variable {settings : Settings}
variable {site : Site settings}
variable {viewer : Viewer}
variable {store again : Store}

/- A marker is there already, or it is written. -/
theorem ensureMarker_met
    {directory : Path}
    {marker : Option Path}
    (hMarker :
      (ensureMarker store viewer settings directory).2 =
        .ok marker) :
    hasMarker store viewer settings directory =
        .ok marker.isNone ∧
      ∀ path ∈ marker,
        ((placeholderOutput settings directory).emit viewer
            settings.skipUnchanged store).2 =
          .ok path := by
  unfold ensureMarker at hMarker
  cases hTest : hasMarker store viewer settings directory with
  | error failure => simp [hTest] at hMarker
  | ok marked =>
      simp only [hTest] at hMarker
      cases marked with
      | true =>
          injection hMarker with hMarker
          rw [← hMarker]
          exact ⟨rfl, by simp⟩
      | false =>
          simp only at hMarker
          split at hMarker
          · contradiction
          · rename_i after path hEmit
            injection hMarker with hMarker
            rw [← hMarker]
            refine ⟨rfl, ?_⟩
            intro other hOther
            rw [← Option.mem_some_iff.mp hOther, hEmit]

/- A marker fails when it is tested for or when written. -/
theorem ensureMarker_missed
    {directory : Path}
    {failure : Failure}
    (hMarker :
      (ensureMarker store viewer settings directory).2 =
        .error failure) :
    hasMarker store viewer settings directory =
        .error failure ∨
      ((placeholderOutput settings directory).emit viewer
          settings.skipUnchanged store).2 =
        .error failure := by
  unfold ensureMarker at hMarker
  cases hTest : hasMarker store viewer settings directory with
  | error other =>
      simp only [hTest] at hMarker
      injection hMarker with hFailure
      exact .inl (congrArg Except.error hFailure)
  | ok marked =>
      simp only [hTest] at hMarker
      cases marked with
      | true => contradiction
      | false =>
          simp only at hMarker
          split at hMarker
          · rename_i after other hEmit
            injection hMarker with hFailure
            rw [hEmit, hFailure]
            exact .inr rfl
          · contradiction

/- Test for anything at the place of the marker. -/
def Site.isMarked
    (site : Site settings)
    (viewer : Viewer)
    (tree : FileTree) :
    Except Fault Bool :=
  site.aggregation.test viewer (fun _ => true)
    (tree.node? site.aggregation.place)

/- A marker is written where nothing is. -/
theorem ensureMarker_eq
    (hFree : store.tree.IsLinkFree)
    (hSlot : site.aggregation.IsIn store.tree viewer) :
    ensureMarker store viewer settings
        site.component.directory =
      match site.isMarked viewer store.tree with
      | .error fault =>
          (store, .error
            (.system site.aggregation.path fault))
      | .ok true => (store, .ok none)
      | .ok false =>
          let emitted :=
            site.marker.output.emit viewer
              settings.skipUnchanged store
          (emitted.1, emitted.2.map some) := by
  unfold ensureMarker hasMarker FileTree.exists?
  simp only [site.path_aggregation,
    Slot.test_path hFree hSlot]
  unfold Site.isMarked
  cases site.aggregation.test viewer (fun _ => true)
      (store.tree.node? site.aggregation.place) with
  | error fault => rfl
  | ok marked =>
      cases marked with
      | true => rfl
      | false =>
          simp only
          split
          · rename_i after failure hEmit
            have hMarker :
                site.marker.output.emit viewer
                    settings.skipUnchanged store =
                  (after, .error failure) :=
              hEmit
            rw [hMarker]
            rfl
          · rename_i after path hEmit
            have hMarker :
                site.marker.output.emit viewer
                    settings.skipUnchanged store =
                  (after, .ok path) :=
              hEmit
            rw [hMarker]
            rfl

/- A marker changes nothing but its own entry. -/
theorem ensureMarker_writtenAt
    (hFree : store.tree.IsLinkFree)
    (hSlot : site.aggregation.IsIn store.tree viewer) :
    store.WrittenAt
      (ensureMarker store viewer settings
        site.component.directory).1
      (site.aggregation.IsPlace viewer) := by
  rw [ensureMarker_eq hFree hSlot]
  split
  · exact .refl store _
  · exact .refl store _
  · exact site.marker.emit_writtenAt hFree hSlot _

/- A failed request for a marker leaves no trace. -/
theorem ensureMarker_eq_error
    (hFree : store.tree.IsLinkFree)
    (hSlot : site.aggregation.IsIn store.tree viewer)
    {failure : Failure}
    (hMarker :
      (ensureMarker store viewer settings
          site.component.directory).2 =
        .error failure) :
    (ensureMarker store viewer settings
        site.component.directory).1.tree.node?
          site.aggregation.place =
      store.tree.node? site.aggregation.place := by
  rw [ensureMarker_eq hFree hSlot] at hMarker ⊢
  split
  · rfl
  · rfl
  · rename_i hVacant
    simp only [hVacant] at hMarker
    cases hEmit :
        (site.marker.output.emit viewer
          settings.skipUnchanged store).2 with
    | error failure =>
        exact site.marker.emit_eq_error hFree hSlot hEmit
    | ok path => simp [hEmit, Except.map] at hMarker

/- Something is there that can be reached. -/
def Site.HasMarker
    (site : Site settings)
    (viewer : Viewer)
    (tree : FileTree) :
    Prop :=
  site.aggregation.reach viewer = .ok () ∧
    (tree.node? site.aggregation.place).isSome = true

/- Once there is a marker, the test for it says so. -/
theorem Site.isMarked_of_hasMarker
    {tree : FileTree}
    (hThere : site.HasMarker viewer tree) :
    site.isMarked viewer tree = .ok true := by
  unfold Site.isMarked Slot.test
  rw [hThere.1]
  cases hEntry : tree.node? site.aggregation.place with
  | none => simp [Site.HasMarker, hEntry] at hThere
  | some node => rfl

/- A test that finds a marker says that there is one. -/
theorem Site.hasMarker_of_isMarked
    {tree : FileTree}
    (hMarked : site.isMarked viewer tree = .ok true) :
    site.HasMarker viewer tree := by
  unfold Site.isMarked Slot.test at hMarked
  cases hReach : site.aggregation.reach viewer with
  | error fault =>
      simp only [hReach] at hMarked
      split at hMarked
      · simp at hMarked
      · contradiction
  | ok reached =>
      simp only [hReach] at hMarked
      injection hMarked with hEntry
      refine ⟨hReach, ?_⟩
      cases hNode :
          tree.node? site.aggregation.place with
      | none => simp [hNode] at hEntry
      | some node => rfl

/- A placeholder that is written is a marker. -/
theorem Site.hasMarker_of_emit
    (hFree : store.tree.IsLinkFree)
    (hSlot : site.aggregation.IsIn store.tree viewer)
    {path : Path}
    (hEmit :
      (site.marker.output.emit viewer settings.skipUnchanged
          store).2 =
        .ok path) :
    site.HasMarker viewer
      (site.marker.output.emit viewer settings.skipUnchanged
        store).1.tree := by
  rcases site.marker.emit_isDone hFree hSlot hEmit with
    ⟨hReach, text, permissions, _, hFile⟩
  have hEntry :
      (site.marker.output.emit viewer settings.skipUnchanged
          store).1.tree.node? site.aggregation.place =
        some (.file text.toUTF8 permissions) :=
    hFile
  exact ⟨hReach, by rw [hEntry]; rfl⟩

/- A met request for a marker leaves one. -/
theorem ensureMarker_eq_ok
    (hFree : store.tree.IsLinkFree)
    (hSlot : site.aggregation.IsIn store.tree viewer)
    {marker : Option Path}
    (hMarker :
      (ensureMarker store viewer settings
          site.component.directory).2 =
        .ok marker) :
    site.HasMarker viewer
      (ensureMarker store viewer settings
        site.component.directory).1.tree := by
  rw [ensureMarker_eq hFree hSlot] at hMarker ⊢
  split
  · rename_i hFault
    simp [hFault] at hMarker
  · rename_i hThere
    exact site.hasMarker_of_isMarked hThere
  · rename_i hVacant
    simp only [hVacant] at hMarker
    cases hEmit :
        (site.marker.output.emit viewer
          settings.skipUnchanged store).2 with
    | error failure => simp [hEmit, Except.map] at hMarker
    | ok path => exact site.hasMarker_of_emit hFree hSlot hEmit

/- A marker stays while files are written. -/
theorem Site.HasMarker.grows
    {before after : FileTree}
    (hThere : site.HasMarker viewer before)
    (hGrows : FileTree.Grows before after) :
    site.HasMarker viewer after := by
  refine ⟨hThere.1, ?_⟩
  rcases (hGrows site.aggregation.place).eq_or_file with
    hKept | ⟨_, content, permissions, hFile⟩
  · rw [hKept]
    exact hThere.2
  · rw [hFile]
    rfl

/-
  A request for a marker that failed fails again, as long as
  nothing is written in its place.
-/
theorem ensureMarker_again
    (hFree : store.tree.IsLinkFree)
    (hSlot : site.aggregation.IsIn store.tree viewer)
    (hFreeAgain : again.tree.IsLinkFree)
    (hSlotAgain : site.aggregation.IsIn again.tree viewer)
    {failure : Failure}
    (hMarker :
      (ensureMarker store viewer settings
          site.component.directory).2 =
        .error failure)
    (hEntry :
      again.tree.node? site.aggregation.place =
        store.tree.node? site.aggregation.place) :
    let second :=
      ensureMarker again viewer settings
        site.component.directory
    second.2 = .error failure ∧
      again.tree.SameNodes second.1.tree ∧
      (settings.skipUnchanged = true →
        second.1.written = again.written) := by
  have hMarked :
      site.isMarked viewer again.tree =
        site.isMarked viewer store.tree := by
    unfold Site.isMarked
    rw [hEntry]
  rw [ensureMarker_eq hFree hSlot] at hMarker
  rw [ensureMarker_eq hFreeAgain hSlotAgain, hMarked]
  cases hTest : site.isMarked viewer store.tree with
  | error fault =>
      simp only [hTest] at hMarker
      exact ⟨hMarker, fun _ => rfl, fun _ => rfl⟩
  | ok marked =>
      cases marked with
      | true => simp [hTest] at hMarker
      | false =>
          simp only [hTest] at hMarker
          cases hEmit :
              (site.marker.output.emit viewer
                settings.skipUnchanged store).2 with
          | ok path => simp [hEmit, Except.map] at hMarker
          | error other =>
              have hKept :=
                site.marker.emit_eq_error hFree hSlot hEmit
              rcases site.marker.emit_again hFree hSlot
                  hFreeAgain hSlotAgain
                  (hEntry.trans hKept.symm) with
                ⟨hAnswer, hSame, hSilent⟩
              refine ⟨?_, hSame, hSilent⟩
              simp only [hAnswer]
              exact hMarker

end Aggregation
