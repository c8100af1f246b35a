import Aggregation.Proofs.Disk.Saving
import Aggregation.Proofs.Run.Extension
import Aggregation.Proofs.Run.FailFast

/-
  Runs that spare files which are unchanged.

  Such a run ends and tells as one that writes every file,
  and it leaves the same tree.  What only the other one has
  written is as it was before.

  Key definitions include:
    * `Settings.rewriting`
    * `Settings.sparing`
    * `AlikeSince`
    * `Component.FitsIn`
    * `IndexesFit`
    * `IndexesUnslashed`
    * `SavesAlike`
    * `RunsAlike`

  Key theorems include:
    * `process_spares`
    * `runComponents_spares`
    * `skipUnchanged_spares`
-/

------------------------------------------------------------
-- Alike Stores
------------------------------------------------------------

namespace Aggregation

open Disk (Fault FileTree Location Store Viewer)
open Number (Double)

/- Settings under which every file is written. -/
def Settings.rewriting (settings : Settings) : Settings :=
  settings.switched settings.failFast false

/- Settings under which files that are unchanged are spared. -/
def Settings.sparing (settings : Settings) : Settings :=
  settings.switched settings.failFast true

variable {viewer : Viewer}
variable {settings : Settings}
variable {component : Component}
variable {components : List Component}
variable {store plain sparing : Store}
variable {path : Path}

/-
  Two stores of one tree that came about from an earlier
  store.  What is written only in the first is as it was.
-/
structure AlikeSince
    (store plain sparing : Store) :
    Prop where
  spares : plain.Spares sparing
  same :
    ∀ location ∈ plain.written,
      location ∉ sparing.written →
        plain.tree.node? location =
          store.tree.node? location

/- What only one of two alike stores lists is as before. -/
theorem alikeSince_of_spares
    (hSpares : plain.Spares sparing)
    (hPlain : store.Extends plain)
    (hSparing : store.Extends sparing) :
    AlikeSince store plain sparing where
  spares := hSpares
  same := by
    intro location hWritten hSpared
    by_contra hChanged
    apply hSpared
    rcases hPlain.written with ⟨latest, hLatest, hFiles⟩
    rw [hLatest] at hWritten
    rcases List.mem_append.mp hWritten with
      hEarlier | hLater
    · exact hSparing.mem_written hEarlier
    · apply hSparing.changed location
      · rw [hSpares.tree]
        exact hChanged
      · rw [hSpares.tree]
        exact hFiles location hLater

------------------------------------------------------------
-- Generated Files
------------------------------------------------------------

/- A file can be generated with or without sparing it. -/
structure Output.FitsIn
    (output : Output)
    (viewer : Viewer)
    (tree : FileTree) :
    Prop where
  clean : output.path.IsClean
  named : output.path.IsNamed
  fits : tree.Fits viewer output.path
  unslashed : ¬tree.SlashesLongName viewer output.path

/- A file can be generated, whatever is added before. -/
def Output.StaysFit
    (output : Output)
    (viewer : Viewer)
    (tree : FileTree) :
    Prop :=
  ∀ after,
    FileTree.Extends tree after →
      output.FitsIn viewer after

/- Two requests end alike and leave alike stores. -/
def EndAlike
    {Answer : Type}
    (first second : Store × Answer) :
    Prop :=
  ∃ plain sparing answer,
    first = (plain, answer) ∧
      second = (sparing, answer) ∧ plain.Spares sparing

/- A file is generated alike, whether or not it is spared. -/
theorem Output.emit_spares
    (hUnbound : viewer.bound = false)
    (hSpares : plain.Spares sparing)
    {output : Output}
    (hFits : output.FitsIn viewer plain.tree) :
    EndAlike
      (output.emit viewer false plain)
      (output.emit viewer true sparing) := by
  unfold Output.emit
  cases output.template.render output.context with
  | error error =>
      exact ⟨plain, sparing, _, rfl, rfl, hSpares⟩
  | ok text =>
      have hSaved :=
        Store.save_spares hSpares hUnbound hFits.clean
          (fun hNames hAnchor =>
            absurd hAnchor (hFits.named hNames))
          hFits.fits hFits.unslashed text
      rcases hFirst :
          plain.save viewer false output.path text with
        ⟨after, answer⟩
      rcases hSecond :
          sparing.save viewer true output.path text with
        ⟨other, again⟩
      simp only [hFirst, hSecond] at hSaved ⊢
      rcases hSaved with ⟨hEnding, hAfter⟩
      cases answer with
      | error fault =>
          cases again with
          | ok written => contradiction
          | error same =>
              injection hEnding with hFault
              rw [hFault]
              exact ⟨after, other, _, rfl, rfl, hAfter⟩
      | ok written =>
          cases again with
          | error fault => contradiction
          | ok others =>
              exact ⟨after, other, _, rfl, rfl, hAfter⟩

theorem emitAll_spares
    (hUnbound : viewer.bound = false)
    (hSpares : plain.Spares sparing)
    {outputs : List Output}
    (hFits :
      ∀ output ∈ outputs,
        output.StaysFit viewer plain.tree) :
    EndAlike
      (emitAll viewer false plain outputs)
      (emitAll viewer true sparing outputs) := by
  induction outputs generalizing plain sparing with
  | nil => exact ⟨plain, sparing, _, rfl, rfl, hSpares⟩
  | cons output rest ih =>
      have hExtends := output.emit_extends viewer false plain
      rcases Output.emit_spares hUnbound hSpares
          (hFits output List.mem_cons_self _ (.refl _)) with
        ⟨after, other, answer, hFirst, hSecond, hAfter⟩
      rw [hFirst] at hExtends
      unfold emitAll
      simp only [hFirst, hSecond]
      cases answer with
      | error failure =>
          exact ⟨after, other, _, rfl, rfl, hAfter⟩
      | ok path =>
          have hRest :
              ∀ next ∈ rest,
                next.StaysFit viewer after.tree :=
            fun next hNext later hLater =>
              hFits next (List.mem_cons_of_mem output hNext)
                later (hExtends.tree.trans hLater)
          rcases ih hAfter hRest with
            ⟨final, last, answers, hThose, hOthers, hFinal⟩
          simp only [hThose, hOthers]
          cases answers with
          | error failure =>
              exact ⟨final, last, _, rfl, rfl, hFinal⟩
          | ok paths =>
              exact ⟨final, last, _, rfl, rfl, hFinal⟩

------------------------------------------------------------
-- Components
------------------------------------------------------------

/-
  A component can be aggregated with or without sparing its
  files.  Only its index may be too far below it, or a link
  to a long name with a slash.
-/
structure Component.FitsIn
    (component : Component)
    (viewer : Viewer)
    (settings : Settings)
    (tree : FileTree) :
    Prop where
  clean : component.directory.IsClean
  named : component.directory.IsNamed
  index :
    component.rootFile = none →
      tree.Fits viewer
        (indexPath settings component.directory)
  unslashed :
    component.rootFile = none →
      ∀ after,
        FileTree.Extends tree after →
          ¬after.SlashesLongName viewer
            (indexPath settings component.directory)

theorem Component.FitsIn.extends
    {before after : FileTree}
    (hFits : component.FitsIn viewer settings before)
    (hExtends : FileTree.Extends before after) :
    component.FitsIn viewer settings after where
  clean := hFits.clean
  named := hFits.named
  index := fun hBarrel => (hFits.index hBarrel).extends
    hExtends
  unslashed := fun hBarrel later hLater =>
    hFits.unslashed hBarrel later (hExtends.trans hLater)

/- Only a path that can be looked up is tested. -/
theorem aggregationPath_fits
    {directory : Path}
    {marked : Bool}
    (hMarked :
      hasMarker store viewer settings directory =
        .ok marked)
    (tree : FileTree) :
    tree.Fits viewer (aggregationPath settings directory) := by
  intro hLong
  unfold hasMarker FileTree.exists? FileTree.test
    FileTree.status FileTree.resolve at hMarked
  simp [hLong, Fault.meansAbsent] at hMarked

/- A test meets a long name before a slash behind it. -/
theorem aggregationPath_unslashed
    {directory : Path}
    {marked : Bool}
    (hMarked :
      hasMarker store viewer settings directory =
        .ok marked) :
    ¬store.tree.SlashesLongName viewer
      (aggregationPath settings directory) := by
  rintro ⟨hLong, _⟩
  unfold hasMarker FileTree.exists? FileTree.test
    FileTree.status at hMarked
  simp [hLong, Fault.meansAbsent] at hMarked

/- The aggregation file of a component can be generated. -/
theorem Component.FitsIn.aggregation
    {tree other : FileTree}
    (hFits : component.FitsIn viewer settings tree)
    (hPath :
      other.Fits viewer
        (aggregationPath settings component.directory))
    (hNoSlash :
      ¬other.SlashesLongName viewer
        (aggregationPath settings component.directory))
    (template : Template)
    (context : Fields) :
    Output.FitsIn
      ⟨aggregationPath settings component.directory,
        template, context⟩
      viewer other where
  clean := hFits.clean.join settings.aggregationName
  named := hFits.named.join settings.aggregationName
  fits := hPath
  unslashed := hNoSlash

/- All files of a component can be generated. -/
theorem Component.FitsIn.outputs
    {tree : FileTree}
    (hFits : component.FitsIn viewer settings tree)
    (hPath :
      ∀ after,
        FileTree.Extends tree after →
          after.Fits viewer
              (aggregationPath settings
                component.directory) ∧
            ¬after.SlashesLongName viewer
              (aggregationPath settings
                component.directory)) :
    ∀ output ∈ component.outputs settings,
      output.StaysFit viewer tree := by
  intro output hOutput after hExtends
  have hAggregation :=
    hFits.aggregation (hPath after hExtends).1
      (hPath after hExtends).2
  unfold Component.outputs Component.strategy at hOutput
  cases hRoot : component.rootFile with
  | some root =>
      simp only [hRoot] at hOutput
      rw [List.mem_singleton.mp hOutput]
      exact hAggregation _ _
  | none =>
      simp only [hRoot] at hOutput
      rcases List.mem_cons.mp hOutput with hIndex | hWrapper
      · rw [hIndex]
        exact {
          clean :=
            (hFits.clean.join
              settings.elementsName.text).join
                settings.indexFileName
          named :=
            (hFits.named.join
              settings.elementsName.text).join
                settings.indexFileName
          fits := (hFits.index hRoot).extends hExtends
          unslashed := hFits.unslashed hRoot after hExtends }
      · rw [List.mem_singleton.mp hWrapper]
        exact hAggregation _ _

/- A file that was generated is where its path leads. -/
theorem Output.resolve_of_emit
    {output : Output}
    {after : Store}
    {path : Path}
    (hEmit :
      output.emit viewer false store = (after, .ok path)) :
    ∃ location node,
      after.tree.resolve viewer output.path =
        .ok (.present location node) := by
  unfold Output.emit at hEmit
  split at hEmit
  · simp at hEmit
  · rename_i text _
    rw [Store.save_eq] at hEmit
    simp only [Bool.false_eq_true, if_false] at hEmit
    rcases Store.replace_cases store viewer output.path
        text.toUTF8 with
      ⟨grown, _, ⟨fault, hReplace⟩ |
        ⟨final, hOver, hReplace⟩⟩
    · simp only [hReplace] at hEmit
      injection hEmit with _ hAnswer
      contradiction
    · simp only [hReplace] at hEmit
      injection hEmit with hAfter
      rcases Store.resolve_of_overwrite hOver with
        ⟨location, permissions, hThere, _⟩
      exact ⟨location, _, hAfter ▸ hThere⟩

/- Once there is a marker, the aggregation file is there. -/
theorem resolve_of_ensureMarker
    {directory : Path}
    {after : Store}
    {marker : Option Path}
    (hMarker :
      ensureMarker store viewer settings.rewriting
          directory =
        (after, .ok marker)) :
    ∃ location node,
      after.tree.resolve viewer
          (aggregationPath settings directory) =
        .ok (.present location node) := by
  unfold ensureMarker at hMarker
  split at hMarker
  · simp at hMarker
  · rename_i hMarked
    injection hMarker with hAfter
    subst hAfter
    unfold hasMarker at hMarked
    simp only at hMarked
    split at hMarked
    · contradiction
    · rename_i answer hTest
      injection hMarked with hAnswer
      rw [hAnswer] at hTest
      rcases (FileTree.test_eq_true_iff _).mp hTest with
        ⟨location, node, hStatus, _⟩
      exact ⟨location, node,
        FileTree.status_eq_ok_iff.mp hStatus⟩
  · split at hMarker
    · simp at hMarker
    · rename_i final path hEmit
      injection hMarker with hAfter
      subst hAfter
      exact Output.resolve_of_emit hEmit

/- A marker that was asked for was looked up before. -/
theorem exists_hasMarker
    {directory : Path}
    {marker : Option Path}
    (hMarker :
      (ensureMarker store viewer settings directory).2 =
        .ok marker) :
    ∃ marked,
      hasMarker store viewer settings directory =
        .ok marked :=
  ⟨marker.isNone, (ensureMarker_met hMarker).1⟩

/- There is a marker in both of two alike stores. -/
theorem ensureMarker_spares
    (hUnbound : viewer.bound = false)
    (hSpares : plain.Spares sparing)
    (hFits : component.FitsIn viewer settings plain.tree) :
    EndAlike
      (ensureMarker plain viewer settings.rewriting
        component.directory)
      (ensureMarker sparing viewer settings.sparing
        component.directory) := by
  have hAgain :
      hasMarker sparing viewer settings.sparing
          component.directory =
        hasMarker plain viewer settings
          component.directory := by
    unfold hasMarker
    rw [hSpares.tree]
    rfl
  have hPlain :
      hasMarker plain viewer settings.rewriting
          component.directory =
        hasMarker plain viewer settings
          component.directory :=
    rfl
  unfold ensureMarker
  rw [hAgain, hPlain]
  cases hMarked :
      hasMarker plain viewer settings
        component.directory with
  | error failure =>
      exact ⟨plain, sparing, _, rfl, rfl, hSpares⟩
  | ok marked =>
      cases marked with
      | true => exact ⟨plain, sparing, _, rfl, rfl, hSpares⟩
      | false =>
          have hPlaceholder :
              (placeholderOutput settings
                component.directory).FitsIn viewer
                  plain.tree :=
            hFits.aggregation
              (aggregationPath_fits hMarked plain.tree)
              (aggregationPath_unslashed hMarked) _ _
          rcases Output.emit_spares hUnbound hSpares
              hPlaceholder with
            ⟨after, other, answer, hFirst, hSecond, hAfter⟩
          have hFirst :
              (placeholderOutput settings.rewriting
                  component.directory).emit viewer
                    settings.rewriting.skipUnchanged plain =
                (after, answer) :=
            hFirst
          have hSecond :
              (placeholderOutput settings.sparing
                  component.directory).emit viewer
                    settings.sparing.skipUnchanged sparing =
                (other, answer) :=
            hSecond
          simp only [hFirst, hSecond]
          cases answer with
          | error failure =>
              exact ⟨after, other, _, rfl, rfl, hAfter⟩
          | ok path =>
              exact ⟨after, other, _, rfl, rfl, hAfter⟩

/- A component is aggregated alike in two alike stores. -/
theorem process_spares
    (hUnbound : viewer.bound = false)
    (hSpares : plain.Spares sparing)
    (hFits : component.FitsIn viewer settings plain.tree) :
    EndAlike
      (process viewer settings.rewriting component plain)
      (process viewer settings.sparing component
        sparing) := by
  have hExtends :=
    ensureMarker_extends plain viewer settings.rewriting
      component.directory
  rcases ensureMarker_spares hUnbound hSpares hFits with
    ⟨after, other, answer, hFirst, hSecond, hAfter⟩
  rw [process_eq_ofFiles, process_eq_ofFiles]
  rw [hFirst] at hExtends
  simp only [hFirst, hSecond]
  cases answer with
  | error failure =>
      exact ⟨after, other, _, rfl, rfl, hAfter⟩
  | ok marker =>
      have hMarker :
          (ensureMarker plain viewer settings.rewriting
              component.directory).2 =
            .ok marker := by
        rw [hFirst]
      rcases exists_hasMarker hMarker with ⟨marked, hMarked⟩
      rcases resolve_of_ensureMarker hFirst with
        ⟨location, node, hThere⟩
      have hOutputs :=
        (hFits.extends hExtends.tree).outputs
          fun later hLater =>
            ⟨aggregationPath_fits hMarked later,
              Disk.not_slashesLongName_of_present hThere
                hLater⟩
      rcases emitAll_spares hUnbound hAfter hOutputs with
        ⟨final, last, answers, hThose, hOthers, hFinal⟩
      have hThose :
          emitAll viewer settings.rewriting.skipUnchanged
              after (component.outputs settings.rewriting) =
            (final, answers) :=
        hThose
      have hOthers :
          emitAll viewer settings.sparing.skipUnchanged
              other (component.outputs settings.sparing) =
            (last, answers) :=
        hOthers
      simp only [hThose, hOthers]
      exact ⟨final, last, _, rfl, rfl, hFinal⟩

------------------------------------------------------------
-- Batches
------------------------------------------------------------

/- A second batch tells and leaves what a first one does. -/
structure Batch.Agrees (first second : Batch) : Prop where
  store : first.store.Spares second.store
  events : second.events = first.events
  results : second.results = first.results
  failures : second.failures = first.failures
  stopped : second.stopped = first.stopped

/- What comes before two batches may be the same as well. -/
theorem Batch.Agrees.following
    {first second : Batch}
    (hAgrees : first.Agrees second)
    (events : List Event)
    (results : List Result)
    (failures : List (Path × FileError)) :
    (first.following events results failures).Agrees
      (second.following events results failures) where
  store := hAgrees.store
  events := congrArg (events ++ ·) hAgrees.events
  results := congrArg (results ++ ·) hAgrees.results
  failures := congrArg (failures ++ ·) hAgrees.failures
  stopped := hAgrees.stopped

/- A batch that ends after its first component. -/
theorem agrees_of_stopped
    (hSpares : plain.Spares sparing)
    (events : List Event)
    (failure : Failure) :
    Batch.Agrees
      ⟨plain, events, [], [], some failure⟩
      ⟨sparing, events, [], [], some failure⟩ where
  store := hSpares
  events := rfl
  results := rfl
  failures := rfl
  stopped := rfl

/- Components are aggregated alike, one after the other. -/
theorem runBatch_spares
    (hUnbound : viewer.bound = false)
    (hSpares : plain.Spares sparing)
    (hFits :
      ∀ component ∈ components,
        component.FitsIn viewer settings plain.tree) :
    (runBatch viewer settings.rewriting plain
      components).Agrees
        (runBatch viewer settings.sparing sparing
          components) := by
  induction components generalizing plain sparing with
  | nil => exact ⟨hSpares, rfl, rfl, rfl, rfl⟩
  | cons component rest ih =>
      have hExtends :=
        process_extends viewer settings.rewriting component
          plain
      rcases process_spares hUnbound hSpares
          (hFits component List.mem_cons_self) with
        ⟨after, other, outcome, hFirst, hSecond, hAfter⟩
      rw [hFirst] at hExtends
      have hRest :=
        ih hAfter fun next hNext =>
          (hFits next
            (List.mem_cons_of_mem component hNext)).extends
              hExtends.tree
      have hEvents :
          outcome.events settings.sparing component =
            outcome.events settings.rewriting component :=
        rfl
      have hFailFast :
          settings.sparing.failFast =
            settings.rewriting.failFast :=
        rfl
      rw [runBatch_cons, runBatch_cons]
      simp only [hFirst, hSecond, hEvents, hFailFast]
      cases outcome.result component with
      | ok result => exact hRest.following _ _ _
      | error failure =>
          cases failure with
          | system path fault =>
              exact agrees_of_stopped hAfter _ _
          | rendering error =>
              exact agrees_of_stopped hAfter _ _
          | components failures =>
              exact agrees_of_stopped hAfter _ _
          | file error =>
              cases settings.rewriting.failFast with
              | true => exact agrees_of_stopped hAfter _ _
              | false => exact hRest.following _ _ _

------------------------------------------------------------
-- Runs
------------------------------------------------------------

/- A second run tells and leaves what a first one does. -/
structure Run.Agrees (first second : Run) : Prop where
  store : first.store.Spares second.store
  events : second.events = first.events
  outcome : second.outcome = first.outcome

theorem Batch.Agrees.finish
    {first second : Batch}
    (hAgrees : first.Agrees second)
    (elapsed : Double) :
    (first.finish elapsed).Agrees
      (second.finish elapsed) := by
  have hReport :
      second.report elapsed = first.report elapsed := by
    unfold Batch.report
    rw [hAgrees.results, hAgrees.failures]
  unfold Batch.finish
  rw [hAgrees.failures, hAgrees.events, hReport]
  cases first.failures with
  | nil => exact ⟨hAgrees.store, rfl, rfl⟩
  | cons failed others => exact ⟨hAgrees.store, rfl, rfl⟩

/- Components of a scan are aggregated alike. -/
theorem runComponents_spares
    (hUnbound : viewer.bound = false)
    (hSpares : plain.Spares sparing)
    (hFits :
      ∀ component ∈ components,
        component.FitsIn viewer settings plain.tree)
    (elapsed : Double) :
    (runComponents viewer settings.rewriting elapsed plain
      components).Agrees
        (runComponents viewer settings.sparing elapsed
          sparing components) := by
  have hBatch := runBatch_spares hUnbound hSpares hFits
  cases components with
  | nil => exact ⟨hSpares, rfl, rfl⟩
  | cons component rest =>
      unfold runComponents
      simp only [hBatch.stopped]
      split
      · exact ⟨hBatch.store, hBatch.events, rfl⟩
      · exact hBatch.finish elapsed

/-
  The index of no component without a root file has a path
  that is too long and a directory that is yet to be made.
-/
def IndexesFit
    (viewer : Viewer)
    (settings : Settings)
    (tree : FileTree) :
    Prop :=
  ∀ components,
    scan tree viewer settings settings.componentsDirectory =
        .ok components →
      ∀ component ∈ components,
        component.rootFile = none →
          tree.Fits viewer
            (indexPath settings component.directory)

/-
  The index of no component without a root file is a link to
  a long name with a slash, nor does it become one.
-/
def IndexesUnslashed
    (viewer : Viewer)
    (settings : Settings)
    (tree : FileTree) :
    Prop :=
  ∀ components,
    scan tree viewer settings settings.componentsDirectory =
        .ok components →
      ∀ component ∈ components,
        component.rootFile = none →
          ∀ after,
            FileTree.Extends tree after →
              ¬after.SlashesLongName viewer
                (indexPath settings component.directory)

/- Components of a scan lie at the ends of their trails. -/
theorem exists_componentTrail
    {tree : FileTree}
    {library : Path}
    (hScan :
      scan tree viewer settings library = .ok components)
    (hComponent : component ∈ components) :
    ∃ trail,
      IsComponentTrail tree viewer settings library trail ∧
        component.directory = library.descend trail := by
  rcases scanBelow_findsTrails
      (fun _ _ => entryNames_nodup) FileTree.pathLimit
      (scan_eq_ok hScan).2 with
    ⟨trails, hFinds, hExact⟩
  have hDirectory := List.mem_map_of_mem
    (f := Component.directory) hComponent
  rw [hFinds.directories] at hDirectory
  rcases List.mem_map.mp hDirectory with
    ⟨trail, hTrail, hHere⟩
  exact ⟨trail, (hExact trail).mp hTrail, hHere.symm⟩

/- No name on a component trail is a single dot. -/
theorem IsComponentTrail.dot_not_mem
    {tree : FileTree}
    {library : Path}
    {trail : List Name}
    (hTrail :
      IsComponentTrail tree viewer settings library trail) :
    "." ∉ trail := by
  intro hDot
  rcases List.append_of_mem hDot with
    ⟨before, after, hSplit⟩
  exact (hTrail.listed before "." after
    hSplit).1.ne_dots.1 rfl

/- Scanned components can be aggregated either way. -/
theorem fitsIn_of_scan
    {tree : FileTree}
    (hClean : settings.componentsDirectory.IsClean)
    (hIndexes : IndexesFit viewer settings tree)
    (hUnslashed : IndexesUnslashed viewer settings tree)
    (hScan :
      scan tree viewer settings
          settings.componentsDirectory =
        .ok components) :
    ∀ component ∈ components,
      component.FitsIn viewer settings tree := by
  intro component hComponent
  rcases exists_componentTrail hScan hComponent with
    ⟨trail, hTrail, hHere⟩
  exact {
    clean := by
      rw [hHere]
      exact hClean.descend hTrail.dot_not_mem
    named := by
      rw [hHere]
      exact Path.descend_isNamed _ hTrail.nonempty
    index := hIndexes components hScan component hComponent
    unslashed :=
      hUnslashed components hScan component hComponent }

/- An index that is one name below the elements fits. -/
theorem indexesFit_of_plain
    (hPlain : '/' ∉ settings.indexFileName.toList)
    (viewer : Viewer)
    (tree : FileTree) :
    IndexesFit viewer settings tree := by
  intro components hScan component hComponent _ _
  rcases exists_componentTrail hScan hComponent with
    ⟨trail, hTrail, hHere⟩
  have hDots := settings.indexFileName_ne_dots
  have hIndex :
      indexPath settings component.directory =
        (component.directory.join
          settings.elementsName.text).child
            settings.indexFileName :=
    Path.join_eq_child _ hPlain hDots.1 hDots.2.1
  rw [hIndex, hHere]
  exact .inr hTrail.component

/- Without slashes at the ends of links there are none. -/
theorem indexesUnslashed_of_isUnslashed
    {tree : FileTree}
    (hClean : settings.componentsDirectory.IsClean)
    (hUnslashed : tree.IsUnslashed)
    (viewer : Viewer) :
    IndexesUnslashed viewer settings tree := by
  intro components hScan component hComponent _ after
    hExtends
  rcases exists_componentTrail hScan hComponent with
    ⟨trail, hTrail, hHere⟩
  have hDirectory : component.directory.IsClean := by
    rw [hHere]
    exact hClean.descend hTrail.dot_not_mem
  exact Disk.not_slashesLongName
    (hUnslashed.extends hExtends)
    ((hDirectory.join settings.elementsName.text).join
      settings.indexFileName)

/- A run ends alike, whether or not it spares files. -/
theorem run_spares
    (hUnbound : viewer.bound = false)
    (hClean : settings.componentsDirectory.IsClean)
    (hIndexes : IndexesFit viewer settings store.tree)
    (hUnslashed :
      IndexesUnslashed viewer settings store.tree)
    (elapsed : Double) :
    (run viewer settings.rewriting elapsed store).Agrees
      (run viewer settings.sparing elapsed store) := by
  have hPlain :
      scan store.tree viewer settings.rewriting
          settings.rewriting.componentsDirectory =
        scan store.tree viewer settings
          settings.componentsDirectory :=
    scan_switched _ _ _ _ _ _
  have hSparing :
      scan store.tree viewer settings.sparing
          settings.sparing.componentsDirectory =
        scan store.tree viewer settings
          settings.componentsDirectory :=
    scan_switched _ _ _ _ _ _
  cases hScan :
      scan store.tree viewer settings
        settings.componentsDirectory with
  | error failure =>
      rw [run_scan_error elapsed (hPlain.trans hScan),
        run_scan_error elapsed (hSparing.trans hScan)]
      exact ⟨.refl store, rfl, rfl⟩
  | ok components =>
      have hAgrees :=
        runComponents_spares hUnbound (.refl store)
          (fitsIn_of_scan hClean hIndexes hUnslashed hScan)
          elapsed
      rw [run_scan_ok elapsed (hPlain.trans hScan),
        run_scan_ok elapsed (hSparing.trans hScan)]
      exact ⟨hAgrees.store,
        congrArg (.started :: ·) hAgrees.events,
        hAgrees.outcome⟩

------------------------------------------------------------
-- Files That Are Unchanged
------------------------------------------------------------

/-
  Saving a file ends alike and leaves the same tree, whether
  or not the file is spared.  A path that cannot be looked
  up is refused both times, but only a request that spares
  no file makes directories before, where the path of the
  directory can be looked up.  A slash behind a long name
  lets both requests fail before anything is made, one of
  them for the name and the other one for the slash.
-/
structure SavesAlike
    (viewer : Viewer)
    (store : Store)
    (path : Path)
    (plain sparing : Store × Except Fault Bool) :
    Prop where
  fitting :
    store.tree.Fits viewer path →
      ¬store.tree.SlashesLongName viewer path →
        Disk.endingOf sparing.2 = Disk.endingOf plain.2 ∧
          AlikeSince store plain.1 sparing.1
  overlong :
    FileTree.admits path.parent = .error .nameTooLong →
      plain = (store, .error .nameTooLong) ∧
        sparing = (store, .error .nameTooLong)
  misfit :
    ¬store.tree.Fits viewer path →
      sparing = (store, .error .nameTooLong) ∧
        (∃ fault, plain.2 = .error fault) ∧
        FileTree.Furnishes store.tree plain.1.tree ∧
        plain.1.written = store.written
  slashed :
    store.tree.SlashesLongName viewer path →
      plain = (store, .error .isDirectory) ∧
        sparing = (store, .error .nameTooLong)

/-
  A run ends alike, tells the same and leaves the same tree,
  whether or not it spares files.
-/
structure RunsAlike
    (settings : Settings)
    (store : Store)
    (plain sparing : Run) :
    Prop where
  outcome : sparing.outcome = plain.outcome
  notices :
    noticesOf settings.sparing sparing.events =
      noticesOf settings.rewriting plain.events
  stores : AlikeSince store plain.store sparing.store

theorem save_alike
    (hUnbound : viewer.bound = false)
    (hClean : path.IsClean)
    (hHome : ¬store.tree.HasFile viewer.home)
    (content : String) :
    SavesAlike viewer store path
      (store.save viewer false path content)
      (store.save viewer true path content) where
  fitting := by
    intro hFits hNoSlash
    rcases Store.save_spares (.refl store) hUnbound hClean
        (fun _ _ => hHome) hFits hNoSlash content with
      ⟨hEnding, hSpares⟩
    exact ⟨hEnding, alikeSince_of_spares hSpares
      (store.save_extends viewer false path content)
      (store.save_extends viewer true path content)⟩
  overlong := fun hLong =>
    ⟨Store.save_overlong hUnbound hLong store false content,
      Store.save_overlong hUnbound hLong store true content⟩
  slashed := fun hSlash =>
    Store.save_of_slashesLongName hClean hSlash content
  misfit := by
    intro hMisfit
    have hLong :
        FileTree.admits path = .error .nameTooLong := by
      by_contra hAdmits
      exact hMisfit fun hLong => absurd hLong hAdmits
    exact Store.save_misfit hLong store viewer content

theorem run_alike
    (hUnbound : viewer.bound = false)
    (hClean : settings.componentsDirectory.IsClean)
    (hIndexes : IndexesFit viewer settings store.tree)
    (hUnslashed :
      IndexesUnslashed viewer settings store.tree)
    (elapsed : Double) :
    RunsAlike settings store
      (run viewer settings.rewriting elapsed store)
      (run viewer settings.sparing elapsed store) := by
  have hAgrees :=
    run_spares hUnbound hClean hIndexes hUnslashed elapsed
  exact {
    outcome := hAgrees.outcome
    notices := by
      rw [hAgrees.events]
      rfl
    stores :=
      alikeSince_of_spares hAgrees.store
        (run_extends viewer settings.rewriting elapsed store)
        (run_extends viewer settings.sparing elapsed store) }

/-
  To spare files that are unchanged is an optimisation only,
  for single files and for whole runs.
-/
theorem skipUnchanged_spares
    (viewer : Viewer)
    (hUnbound : viewer.bound = false) :
    (∀ store path content,
      path.IsClean →
        ¬store.tree.HasFile viewer.home →
          SavesAlike viewer store path
            (store.save viewer false path content)
            (store.save viewer true path content)) ∧
    (∀ settings elapsed store,
      settings.componentsDirectory.IsClean →
        IndexesFit viewer settings store.tree →
          IndexesUnslashed viewer settings store.tree →
            RunsAlike settings store
              (run viewer settings.rewriting elapsed store)
              (run viewer settings.sparing elapsed
                store)) ∧
    (∀ settings tree,
      '/' ∉ settings.indexFileName.toList →
        IndexesFit viewer settings tree) ∧
    ∀ settings (tree : FileTree),
      settings.componentsDirectory.IsClean →
        tree.IsUnslashed →
          IndexesUnslashed viewer settings tree := by
  refine ⟨?_, ?_, ?_, ?_⟩
  · intro store path content hClean hHome
    exact save_alike hUnbound hClean hHome content
  · intro settings elapsed store hClean hIndexes hUnslashed
    exact run_alike hUnbound hClean hIndexes hUnslashed
      elapsed
  · intro settings tree hPlain
    exact indexesFit_of_plain hPlain viewer tree
  · intro settings tree hClean hUnslashed
    exact indexesUnslashed_of_isUnslashed hClean hUnslashed
      viewer

/- A file of the sample library. -/
def sampleFile : Path :=
  ⟨.relative, ["elements.ts", "a-b", "lib"]⟩

theorem skipUnchanged_spares_sampleStore :
    Store.openViewer.bound = false ∧
      sampleFile.IsClean ∧
      ¬sampleTree.HasFile Store.openViewer.home ∧
      sampleTree.Fits Store.openViewer sampleFile ∧
      sampleTree.IsUnslashed ∧
      SavesAlike Store.openViewer sampleStore sampleFile
        (sampleStore.save Store.openViewer false sampleFile
          "stale")
        (sampleStore.save Store.openViewer true sampleFile
          "stale") ∧
      sampleSettings.componentsDirectory.IsClean ∧
      '/' ∉ sampleSettings.indexFileName.toList ∧
      RunsAlike sampleSettings sampleStore
        (run Store.openViewer sampleSettings.rewriting
          (Double.zero false) sampleStore)
        (run Store.openViewer sampleSettings.sparing
          (Double.zero false) sampleStore) := by
  have hClean : sampleFile.IsClean := by
    unfold Path.IsClean
    decide
  have hHome :
      ¬sampleTree.HasFile Store.openViewer.home :=
    Disk.not_hasFile_root sampleTree
  have hFits :
      sampleTree.Fits Store.openViewer sampleFile := by
    intro hLong
    have hAdmits : FileTree.admits sampleFile = .ok () := rfl
    rw [hAdmits] at hLong
    contradiction
  have hUnslashed : sampleTree.IsUnslashed :=
    sampleTree_isLinkFree.isUnslashed
  have hLibrary :
      sampleSettings.componentsDirectory.IsClean := by
    unfold Path.IsClean
    decide
  have hPlain :
      '/' ∉ sampleSettings.indexFileName.toList := by
    decide
  rcases skipUnchanged_spares Store.openViewer rfl with
    ⟨hSave, hRun, hIndex, hSlash⟩
  exact ⟨rfl, hClean, hHome, hFits, hUnslashed,
    hSave sampleStore sampleFile "stale" hClean hHome,
    hLibrary, hPlain,
    hRun sampleSettings (Double.zero false) sampleStore
      hLibrary (hIndex sampleSettings _ hPlain)
      (hSlash sampleSettings _ hLibrary hUnslashed)⟩

end Aggregation
