import Aggregation.Proofs.Disk.Growth
import Aggregation.Proofs.Scan.Sources
import Aggregation.Proofs.Scan.Trails

/-
  Scans of a tree that has grown.

  Files that are written at the root of a component are never
  listed by a scan, and an index is listed but is no source
  file.  So a scan finds what it found before.

  Key definitions include:
    * `IsOutputChange`
    * `ChangesOutputs`

  Key theorems include:
    * `describe_stable`
    * `scanBelow_stable`
    * `scan_stable`
-/

------------------------------------------------------------
-- Listings of a Grown Tree
------------------------------------------------------------

namespace Aggregation

open Disk (FileTree Location Permissions Viewer)

variable {tree after : FileTree}
variable {viewer : Viewer}
variable {settings : Settings}
variable {path : Path}
variable {location : Location}

/- A directory that may be read is visited in order. -/
theorem entryNames_of_resolve
    {permissions : Permissions}
    (hPath :
      tree.resolve viewer path =
        .ok (.present location (.directory permissions))) :
    entryNames tree viewer settings path =
      if viewer.may permissions.read then
        .ok (settings.arrange
          (viewer.order.arrange location
            (tree.entries location)))
      else
        .error (.file ⟨path, .listing .denied⟩) := by
  unfold entryNames FileTree.list
  rw [FileTree.status_eq_ok_iff.mpr hPath]
  by_cases hRead : viewer.may permissions.read = true
  · simp only [if_pos hRead]
  · simp only [if_neg hRead]

/- Directories with the same entries are visited alike. -/
theorem entryNames_eq
    (hSorted : settings.sortEntries = true)
    (hGrows : FileTree.Grows tree after)
    {permissions : Permissions}
    (hPath :
      tree.resolve viewer path =
        .ok (.present location (.directory permissions)))
    (hEntries :
      ∀ name,
        after.node? (name :: location) =
          tree.node? (name :: location)) :
    entryNames after viewer settings path =
      entryNames tree viewer settings path := by
  have hPathAfter :=
    (hGrows.resolve_directory_iff path location
      permissions).mpr hPath
  have hPerm :
      (after.entries location).Perm
        (tree.entries location) := by
    refine (List.perm_ext_iff_of_nodup
      (after.nodup_entries location)
      (tree.nodup_entries location)).mpr ?_
    intro name
    rw [FileTree.mem_entries_iff, FileTree.mem_entries_iff,
      hEntries]
  have hArranged :=
    Settings.arrange_eq_of_perm hSorted
      ((viewer.order.isPerm location _).trans
        (hPerm.trans
          (viewer.order.isPerm location _).symm))
  rw [entryNames_of_resolve hPathAfter,
    entryNames_of_resolve hPath, hArranged]

/- A directory that can be visited can be visited later. -/
theorem exists_entryNames
    (hGrows : FileTree.Grows tree after)
    {permissions : Permissions}
    (hPath :
      tree.resolve viewer path =
        .ok (.present location (.directory permissions)))
    {names : List Name}
    (hNames :
      entryNames tree viewer settings path = .ok names) :
    ∃ others,
      entryNames after viewer settings path =
        .ok others := by
  have hPathAfter :=
    (hGrows.resolve_directory_iff path location
      permissions).mpr hPath
  rw [entryNames_of_resolve hPath] at hNames
  rw [entryNames_of_resolve hPathAfter]
  split at hNames
  · rename_i hRead
    exact ⟨_, if_pos hRead⟩
  · contradiction

/- Visited names are entries of the directory. -/
theorem mem_entryNames_iff_node?
    {permissions : Permissions}
    (hPath :
      tree.resolve viewer path =
        .ok (.present location (.directory permissions)))
    {names : List Name}
    (hNames :
      entryNames tree viewer settings path = .ok names)
    (name : Name) :
    name ∈ names ↔ tree.node? (name :: location) ≠ none := by
  rw [entryNames_of_resolve hPath] at hNames
  split at hNames
  · injection hNames with hNames
    rw [← hNames, (settings.arrange_perm _).mem_iff,
      (viewer.order.isPerm location _).mem_iff,
      FileTree.mem_entries_iff]
  · contradiction

------------------------------------------------------------
-- Components of a Grown Tree
------------------------------------------------------------

/-
  A folder of elements in which nothing but an index is new.
-/
structure GainsIndex
    (tree after : FileTree)
    (viewer : Viewer)
    (settings : Settings)
    (elements : Path)
    (location : Location) :
    Prop where
  others :
    ∀ name,
      name ≠ settings.indexFileName →
        after.node? (name :: location) =
          tree.node? (name :: location)
  index :
    after.node? (settings.indexFileName :: location) =
        tree.node? (settings.indexFileName :: location) ∨
      ∃ answer,
        after.isFile? viewer
            (elements.child settings.indexFileName) =
          .ok answer

/- Equal entries are tested with equal answers. -/
theorem isFile?_child_eq
    (hFree : tree.IsLinkFree)
    (hGrows : FileTree.Grows tree after)
    {permissions : Permissions}
    (hPath :
      tree.resolve viewer path =
        .ok (.present location (.directory permissions)))
    {name : Name}
    (hNe : name ≠ "." ∧ name ≠ "..")
    (hEntry :
      after.node? (name :: location) =
        tree.node? (name :: location)) :
    after.isFile? viewer (path.child name) =
      tree.isFile? viewer (path.child name) := by
  unfold FileTree.isFile? FileTree.test FileTree.status
  rw [hGrows.resolve_child_eq hFree hPath hNe hEntry]

/- Two visits to a folder of elements, one after growth. -/
structure IsRevisit
    (tree after : FileTree)
    (viewer : Viewer)
    (settings : Settings)
    (elements : Path)
    (location : Location)
    (names others : List Name) :
    Prop where
  linkFree : tree.IsLinkFree
  grows : FileTree.Grows tree after
  directory :
    ∃ permissions,
      tree.resolve viewer elements =
        .ok (.present location (.directory permissions))
  gains :
    GainsIndex tree after viewer settings elements location
  first :
    entryNames tree viewer settings elements = .ok names
  second :
    entryNames after viewer settings elements = .ok others

namespace IsRevisit

variable {elements : Path}
variable {names others : List Name}

theorem mem_first
    (hVisit :
      IsRevisit tree after viewer settings elements location
        names others)
    (name : Name) :
    name ∈ names ↔ tree.node? (name :: location) ≠ none := by
  rcases hVisit.directory with ⟨permissions, hElements⟩
  exact mem_entryNames_iff_node? hElements hVisit.first name

theorem mem_second
    (hVisit :
      IsRevisit tree after viewer settings elements location
        names others)
    (name : Name) :
    name ∈ others ↔
      after.node? (name :: location) ≠ none := by
  rcases hVisit.directory with ⟨permissions, hElements⟩
  exact mem_entryNames_iff_node?
    ((hVisit.grows.resolve_directory_iff elements location
      permissions).mpr hElements) hVisit.second name

/- An unchanged name is listed and tested as before. -/
theorem unchanged
    (hVisit :
      IsRevisit tree after viewer settings elements location
        names others)
    {name : Name}
    (hEntry :
      after.node? (name :: location) =
        tree.node? (name :: location))
    (hName : name ∈ others) :
    name ∈ names ∧
      after.isFile? viewer (elements.child name) =
        tree.isFile? viewer (elements.child name) := by
  rcases hVisit.directory with ⟨permissions, hElements⟩
  refine ⟨?_, isFile?_child_eq hVisit.linkFree hVisit.grows
    hElements ?_ hEntry⟩
  · rw [hVisit.mem_first, ← hEntry]
    exact (hVisit.mem_second name).mp hName
  · exact ((mem_entryNames_iff hVisit.second name).mp
      hName).ne_dots

/- What could be tested can be tested again. -/
theorem tested
    (hVisit :
      IsRevisit tree after viewer settings elements location
        names others)
    (hTested :
      ∀ name ∈ names, ∃ answer,
        tree.isFile? viewer (elements.child name) =
          .ok answer) :
    ∀ name ∈ others, ∃ answer,
      after.isFile? viewer (elements.child name) =
        .ok answer := by
  intro name hName
  have hOld :
      after.node? (name :: location) =
          tree.node? (name :: location) →
        ∃ answer,
          after.isFile? viewer (elements.child name) =
            .ok answer := by
    intro hEntry
    have hBefore := hVisit.unchanged hEntry hName
    rw [hBefore.2]
    exact hTested name hBefore.1
  by_cases hHere : name = settings.indexFileName
  · rw [hHere] at hOld ⊢
    rcases hVisit.gains.index with hEntry | hAnswer
    · exact hOld hEntry
    · exact hAnswer
  · exact hOld (hVisit.gains.others name hHere)

/- An index is not a source file, and all others are kept. -/
theorem isSource_iff
    (hVisit :
      IsRevisit tree after viewer settings elements location
        names others)
    (hIndex :
      settings.sourceExtension.isAtEnd
        settings.indexFileName = false)
    (name : Name) :
    name ∈ others ∧
        isSource after viewer settings.sourceExtension
          elements name = true ↔
      name ∈ names ∧
        isSource tree viewer settings.sourceExtension
          elements name = true := by
  by_cases hHere : name = settings.indexFileName
  · have hNot :
        settings.sourceExtension.isAtEnd name ≠ true := by
      rw [hHere, hIndex]
      exact Bool.false_ne_true
    rw [isSource_eq_true_iff, isSource_eq_true_iff]
    constructor
    · intro hSource
      exact absurd hSource.2.2 hNot
    · intro hSource
      exact absurd hSource.2.2 hNot
  · have hEntry := hVisit.gains.others name hHere
    rw [hVisit.mem_second, hVisit.mem_first, hEntry]
    refine and_congr_right fun hThere => ?_
    have hName : name ∈ others := by
      rw [hVisit.mem_second, hEntry]
      exact hThere
    unfold isSource
    rw [(hVisit.unchanged hEntry hName).2]

/- The source files are the same in the same order. -/
theorem filter_eq
    (hVisit :
      IsRevisit tree after viewer settings elements location
        names others)
    (hSorted : settings.sortEntries = true)
    (hIndex :
      settings.sourceExtension.isAtEnd
        settings.indexFileName = false) :
    others.filter
        (isSource after viewer settings.sourceExtension
          elements) =
      names.filter
        (isSource tree viewer settings.sourceExtension
          elements) := by
  refine List.Perm.eq_of_pairwise ?_
    ((entryNames_increasing hSorted
      hVisit.second).filter _)
    ((entryNames_increasing hSorted
      hVisit.first).filter _) ?_
  · intro left right _ _ hLess hGreater
    exact absurd hGreater (lt_asymm hLess)
  · refine (List.perm_ext_iff_of_nodup
      ((entryNames_nodup hVisit.second).filter _)
      ((entryNames_nodup hVisit.first).filter _)).mpr ?_
    intro name
    rw [List.mem_filter, List.mem_filter]
    exact hVisit.isSource_iff hIndex name

end IsRevisit

/- A new index does not change a component. -/
theorem describe_stable
    (hFree : tree.IsLinkFree)
    (hGrows : FileTree.Grows tree after)
    (hSorted : settings.sortEntries = true)
    (hIndex :
      settings.sourceExtension.isAtEnd
        settings.indexFileName = false)
    {directory elements : Path}
    {permissions : Permissions}
    (hElements :
      tree.resolve viewer elements =
        .ok (.present location (.directory permissions)))
    (hGains :
      GainsIndex tree after viewer settings elements
        location)
    {component : Component}
    (hDescribe :
      describe tree viewer settings directory elements =
        .ok component) :
    describe after viewer settings directory elements =
      .ok component := by
  rcases describe_eq_ok hDescribe with
    ⟨names, hNames, hTested, hComponent⟩
  rcases exists_entryNames hGrows hElements hNames with
    ⟨others, hOthers⟩
  have hVisit :
      IsRevisit tree after viewer settings elements location
        names others :=
    ⟨hFree, hGrows, ⟨permissions, hElements⟩, hGains, hNames,
      hOthers⟩
  have hSources :
      sourceFiles after viewer settings.sourceExtension
          elements others =
        .ok (names.filter
          (isSource tree viewer settings.sourceExtension
            elements)) :=
    (sourceFiles_eq_ok_iff others _).mpr
      ⟨hVisit.tested hTested,
        (hVisit.filter_eq hSorted hIndex).symm⟩
  unfold describe
  simp only [hOthers, hSources]
  rw [hComponent]

------------------------------------------------------------
-- Outputs of Components
------------------------------------------------------------

/- A location of an output of the component at a trail. -/
def IsOutputChange
    (after : FileTree)
    (viewer : Viewer)
    (settings : Settings)
    (directory : Path)
    (location place : Location) :
    Prop :=
  place = settings.aggregationName :: location ∨
    place =
        settings.indexFileName ::
          settings.elementsName.text :: location ∧
      ∃ answer,
        after.isFile? viewer
            ((directory.child
              settings.elementsName.text).child
                settings.indexFileName) =
          .ok answer

/-
  Below a directory nothing has changed but outputs of the
  components there.
-/
def ChangesOutputs
    (tree after : FileTree)
    (viewer : Viewer)
    (settings : Settings)
    (path : Path)
    (location : Location) :
    Prop :=
  ∀ place,
    after.node? place ≠ tree.node? place →
      location <:+ place →
        ∃ trail,
          IsComponentTrail tree viewer settings path
              trail ∧
            IsOutputChange after viewer settings
              (path.descend trail)
              (trail.reverse ++ location) place

variable {name : Name}

/- An output lies at least one name below its component. -/
theorem IsOutputChange.exists_below
    {directory : Path}
    {place : Location}
    (hChange :
      IsOutputChange after viewer settings directory
        location place) :
    ∃ inner, inner ≠ [] ∧ place = inner ++ location := by
  rcases hChange with hHere | ⟨hHere, _⟩
  · exact ⟨[settings.aggregationName], by simp, hHere⟩
  · exact ⟨[settings.indexFileName,
      settings.elementsName.text], by simp, hHere⟩

/- No entry of a directory above components changes. -/
theorem ChangesOutputs.entries
    (hChanges :
      ChangesOutputs tree after viewer settings path
        location)
    (name : Name) :
    after.node? (name :: location) =
      tree.node? (name :: location) := by
  by_contra hChanged
  rcases hChanges _ hChanged (List.suffix_cons name location)
    with ⟨trail, hTrail, hOutput⟩
  rcases hOutput.exists_below with ⟨inner, hInner, hPlace⟩
  have hTrailLength :=
    List.length_pos_iff.mpr hTrail.nonempty
  have hInnerLength := List.length_pos_iff.mpr hInner
  have hLength := congrArg List.length hPlace
  simp only [List.length_cons, List.length_append,
    List.length_reverse] at hLength
  omega

/- The first name of a trail is where its outputs lie. -/
theorem suffix_of_isOutputChange
    {rest : List Name}
    {first : Name}
    {place : Location}
    (hOutput :
      IsOutputChange after viewer settings
        (path.descend (first :: rest))
        ((first :: rest).reverse ++ location) place)
    (hBelow : name :: location <:+ place) :
    first = name := by
  rcases hOutput.exists_below with ⟨inner, _, hPlace⟩
  have hFirst : first :: location <:+ place := by
    rw [hPlace, List.reverse_cons, List.append_assoc,
      ← List.append_assoc]
    exact List.suffix_append _ _
  have hSuffix :=
    List.suffix_of_suffix_length_le hFirst hBelow
      (by simp)
  have hSame := hSuffix.eq_of_length (by simp)
  injection hSame

/- What changes below a container is below it, too. -/
theorem ChangesOutputs.child
    (hChanges :
      ChangesOutputs tree after viewer settings path
        location)
    (hContainer :
      ¬IsComponentDirectory tree viewer settings
        (path.child name)) :
    ChangesOutputs tree after viewer settings
      (path.child name) (name :: location) := by
  intro place hChanged hBelow
  rcases hChanges place hChanged
      ((List.suffix_cons name location).trans hBelow) with
    ⟨trail, hTrail, hOutput⟩
  cases trail with
  | nil => exact absurd rfl hTrail.nonempty
  | cons first rest =>
      have hFirst := suffix_of_isOutputChange hOutput hBelow
      rw [hFirst] at hTrail hOutput
      rcases (isComponentTrail_cons_iff name rest).mp hTrail
        with ⟨_, _, ⟨_, hHere⟩ | ⟨_, hRest⟩⟩
      · exact absurd hHere hContainer
      · refine ⟨rest, hRest, ?_⟩
        rw [Path.descend_cons, List.reverse_cons,
          List.append_assoc] at hOutput
        exact hOutput

/- What changes below a component is its own output. -/
theorem ChangesOutputs.component
    (hChanges :
      ChangesOutputs tree after viewer settings path
        location)
    (hComponent :
      IsComponentDirectory tree viewer settings
        (path.child name))
    {place : Location}
    (hChanged : after.node? place ≠ tree.node? place)
    (hBelow : name :: location <:+ place) :
    IsOutputChange after viewer settings (path.child name)
      (name :: location) place := by
  rcases hChanges place hChanged
      ((List.suffix_cons name location).trans hBelow) with
    ⟨trail, hTrail, hOutput⟩
  cases trail with
  | nil => exact absurd rfl hTrail.nonempty
  | cons first rest =>
      have hFirst := suffix_of_isOutputChange hOutput hBelow
      rw [hFirst] at hTrail hOutput
      rcases (isComponentTrail_cons_iff name rest).mp hTrail
        with ⟨_, _, ⟨hEnd, _⟩ | ⟨hNot, _⟩⟩
      · rw [hEnd] at hOutput
        exact hOutput
      · exact absurd hComponent hNot

/- The folder of elements gains an index at most. -/
theorem ChangesOutputs.gainsIndex
    (hChanges :
      ChangesOutputs tree after viewer settings path
        location)
    (hComponent :
      IsComponentDirectory tree viewer settings
        (path.child name)) :
    GainsIndex tree after viewer settings
      ((path.child name).child settings.elementsName.text)
      (settings.elementsName.text :: name :: location) := by
  have hOwn :
      ∀ file,
        after.node? (file :: settings.elementsName.text ::
            name :: location) ≠
          tree.node? (file :: settings.elementsName.text ::
            name :: location) →
        file = settings.indexFileName ∧
          ∃ answer,
            after.isFile? viewer
                (((path.child name).child
                  settings.elementsName.text).child
                    settings.indexFileName) =
              .ok answer := by
    intro file hChanged
    rcases hChanges.component hComponent hChanged
        ((List.suffix_cons _ _).trans
          (List.suffix_cons _ _)) with
      hHere | ⟨hHere, hAnswer⟩
    · have hLength := congrArg List.length hHere
      simp at hLength
    · injection hHere with hFile _
      exact ⟨hFile, hAnswer⟩
  constructor
  · intro file hNe
    by_contra hChanged
    exact hNe (hOwn file hChanged).1
  · by_cases hSame :
        after.node? (settings.indexFileName ::
            settings.elementsName.text :: name ::
              location) =
          tree.node? (settings.indexFileName ::
            settings.elementsName.text :: name ::
              location)
    · exact .inl hSame
    · exact .inr (hOwn _ hSame).2

------------------------------------------------------------
-- Scans of a Grown Tree
------------------------------------------------------------

/- Growth does not change which directories are entered. -/
theorem isSearchable_eq
    (hGrows : FileTree.Grows tree after)
    (path : Path) :
    isSearchable after viewer path =
      isSearchable tree viewer path := by
  unfold isSearchable
  rw [hGrows.isDirectory?_eq]

/- An entry yields what it yielded before. -/
theorem scanEntry_stable
    (hGrows : FileTree.Grows tree after)
    {first second : Path → Except Failure (List Component)}
    {item : Path}
    (hDescribe :
      tree.LeadsToDirectory viewer item →
        IsComponentDirectory tree viewer settings item →
          ∀ component,
            describe tree viewer settings item
                (item.join settings.elementsName.text) =
              .ok component →
            describe after viewer settings item
                (item.join settings.elementsName.text) =
              .ok component)
    {found : List Component}
    (hBelow :
      tree.LeadsToDirectory viewer item →
        ¬IsComponentDirectory tree viewer settings item →
          first item = .ok found →
            second item = .ok found)
    (hFound :
      scanEntry tree viewer settings first item =
        .ok found) :
    scanEntry after viewer settings second item =
      .ok found := by
  unfold IsComponentDirectory at hDescribe hBelow
  simp only [← isSearchable_eq_true_iff] at hDescribe hBelow
  unfold scanEntry at hFound ⊢
  simp only [isSearchable_eq hGrows]
  cases hItem : isSearchable tree viewer item with
  | error failure => simp [hItem] at hFound
  | ok isDirectory =>
      simp only [hItem] at hFound ⊢
      cases isDirectory with
      | false => exact hFound
      | true =>
          simp only at hFound ⊢
          cases hElements :
              isSearchable tree viewer
                (item.join settings.elementsName.text) with
          | error failure => simp [hElements] at hFound
          | ok isComponent =>
              simp only [hElements] at hFound ⊢
              cases isComponent with
              | false =>
                  exact hBelow hItem (by simp [hElements])
                    hFound
              | true =>
                  simp only at hFound ⊢
                  cases hOld :
                      describe tree viewer settings item
                        (item.join
                          settings.elementsName.text) with
                  | error failure => simp [hOld] at hFound
                  | ok component =>
                      rw [hDescribe hItem hElements component
                        hOld]
                      simp only [hOld] at hFound
                      exact hFound

/- Entries that yield the same yield the same in turn. -/
theorem scanEntries_stable
    {first second : Path → Except Failure (List Component)}
    {names : List Name}
    (hOne :
      ∀ name ∈ names, ∀ found,
        first (path.child name) = .ok found →
          second (path.child name) = .ok found)
    {components : List Component}
    (hScan :
      scanEntries first path names = .ok components) :
    scanEntries second path names = .ok components := by
  induction names generalizing components with
  | nil => exact hScan
  | cons name names ih =>
      unfold scanEntries at hScan ⊢
      cases hHead : first (path.child name) with
      | error failure => simp [hHead] at hScan
      | ok found =>
          simp only [hHead] at hScan
          rw [hOne name List.mem_cons_self found hHead]
          cases hTail : scanEntries first path names with
          | error failure => simp [hTail] at hScan
          | ok others =>
              simp only [hTail] at hScan
              rw [ih (fun other hOther =>
                hOne other
                  (List.mem_cons_of_mem name hOther)) hTail]
              exact hScan

/- A search of a grown tree finds what it found before. -/
theorem scanBelow_stable
    (hFree : tree.IsLinkFree)
    (hGrows : FileTree.Grows tree after)
    (hPlain : settings.HasPlainNames)
    (hSorted : settings.sortEntries = true)
    (hIndex :
      settings.sourceExtension.isAtEnd
        settings.indexFileName = false)
    (depth : Nat)
    {permissions : Permissions}
    (hPath :
      tree.resolve viewer path =
        .ok (.present location (.directory permissions)))
    (hChanges :
      ChangesOutputs tree after viewer settings path
        location)
    {components : List Component}
    (hScan :
      scanBelow tree viewer settings depth path =
        .ok components) :
    scanBelow after viewer settings depth path =
      .ok components := by
  induction depth generalizing path location permissions
      components with
  | zero => simp [scanBelow] at hScan
  | succ depth ih =>
      unfold scanBelow at hScan ⊢
      cases hNames :
          entryNames tree viewer settings path with
      | error failure => simp [hNames] at hScan
      | ok names =>
          rw [entryNames_eq hSorted hGrows hPath
            hChanges.entries, hNames]
          simp only [hNames] at hScan ⊢
          refine scanEntries_stable ?_ hScan
          intro name hName found hFound
          have hNe :=
            ((mem_entryNames_iff hNames name).mp
              hName).ne_dots
          refine scanEntry_stable hGrows ?_ ?_ hFound
          · intro hDirectory hComponent component hDescribe
            rcases FileTree.resolve_child_directory hFree
                hPath hNe hDirectory with
              ⟨others, hChild⟩
            have hFolder := hComponent
            unfold IsComponentDirectory at hFolder
            rw [hPlain.join_elementsName] at hFolder hDescribe ⊢
            rcases FileTree.resolve_child_directory hFree
                hChild ⟨hPlain.notHere, hPlain.notAbove⟩
                hFolder with
              ⟨inner, hElements⟩
            exact describe_stable hFree hGrows hSorted hIndex
              hElements (hChanges.gainsIndex hComponent)
              hDescribe
          · intro hDirectory hContainer hRest
            rcases FileTree.resolve_child_directory hFree
                hPath hNe hDirectory with
              ⟨others, hChild⟩
            exact ih hChild (hChanges.child hContainer) hRest

/- A scan of a grown tree finds what it found before. -/
theorem scan_stable
    (hFree : tree.IsLinkFree)
    (hGrows : FileTree.Grows tree after)
    (hPlain : settings.HasPlainNames)
    (hSorted : settings.sortEntries = true)
    (hIndex :
      settings.sourceExtension.isAtEnd
        settings.indexFileName = false)
    {permissions : Permissions}
    (hPath :
      tree.resolve viewer path =
        .ok (.present location (.directory permissions)))
    (hChanges :
      ChangesOutputs tree after viewer settings path
        location)
    {components : List Component}
    (hScan :
      scan tree viewer settings path = .ok components) :
    scan after viewer settings path = .ok components := by
  have hStatus :
      after.status viewer path =
        .ok (location, .directory permissions) :=
    FileTree.status_eq_ok_iff.mpr
      ((hGrows.resolve_directory_iff path location
        permissions).mpr hPath)
  have hBelow :=
    scanBelow_stable hFree hGrows hPlain hSorted hIndex
      FileTree.pathLimit hPath hChanges (scan_eq_ok hScan).2
  unfold scan FileTree.exists? FileTree.isDirectory?
    FileTree.test
  simp only [hStatus, Disk.Node.isDirectory]
  exact hBelow

end Aggregation
