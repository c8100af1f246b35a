import Aggregation.Proofs.Disk.ListingOrder
import Aggregation.Proofs.Scan.Sources
import Mathlib.Data.List.Forall2

/-
  Scans of directories that list in any order.

  A sorted scan does not depend on the order in which
  directories list their entries.  A scan that is not sorted
  visits the same entries in another order.  So it fails if
  the sorted one does, and finds the same components up to
  the order of their elements.

  Key definitions include:
    * `Settings.sorting`
    * `AgreeUpTo`
    * `IsReordering`

  Key theorems include:
    * `scanBelow_relisted`
    * `scanEntries_perm`
    * `scanBelow_reordered`
    * `scan_anyOrder`
-/

------------------------------------------------------------
-- Sorted Scans
------------------------------------------------------------

namespace Aggregation

open Disk (FileTree ListingOrder Viewer)

variable {tree : FileTree}
variable {viewer : Viewer}
variable {order : ListingOrder}
variable {settings : Settings}
variable {path : Path}

theorem isSearchable_relisted :
    isSearchable tree (viewer.relisted order) path =
      isSearchable tree viewer path := by
  unfold isSearchable FileTree.isDirectory?
  rw [FileTree.test_relisted]

theorem sourceFiles_relisted
    {extension : Extension}
    (names : List Name) :
    sourceFiles tree (viewer.relisted order) extension path
        names =
      sourceFiles tree viewer extension path names := by
  induction names with
  | nil => rfl
  | cons name names ih =>
      unfold sourceFiles FileTree.isFile?
      rw [FileTree.test_relisted, ih]

/- A sorted scan visits a directory alike in any order. -/
theorem entryNames_relisted
    (hSorted : settings.sortEntries = true) :
    entryNames tree (viewer.relisted order) settings path =
      entryNames tree viewer settings path := by
  unfold entryNames
  rcases FileTree.list_relisted with
    ⟨fault, hLeft, hRight⟩ |
      ⟨names, others, hLeft, hRight, hPerm⟩
  · rw [hLeft, hRight]
  · rw [hLeft, hRight]
    simp only [Settings.arrange_eq_of_perm hSorted hPerm]

theorem describe_relisted
    (hSorted : settings.sortEntries = true)
    {elements : Path} :
    describe tree (viewer.relisted order) settings path
        elements =
      describe tree viewer settings path elements := by
  unfold describe
  rw [entryNames_relisted hSorted]
  simp only [sourceFiles_relisted]

/- A sorted search finds the same in any order. -/
theorem scanBelow_relisted
    (hSorted : settings.sortEntries = true)
    (depth : Nat) :
    scanBelow tree (viewer.relisted order) settings depth =
      scanBelow tree viewer settings depth := by
  induction depth with
  | zero => rfl
  | succ depth ih =>
      funext directory
      have hEntry :
          scanEntry tree (viewer.relisted order) settings =
            scanEntry tree viewer settings := by
        funext below item
        unfold scanEntry
        simp only [isSearchable_relisted,
          describe_relisted hSorted]
      unfold scanBelow
      rw [entryNames_relisted hSorted, hEntry, ih]

theorem scan_relisted
    (hSorted : settings.sortEntries = true) :
    scan tree (viewer.relisted order) settings path =
      scan tree viewer settings path := by
  unfold scan FileTree.exists? FileTree.isDirectory?
  rw [FileTree.test_relisted, FileTree.test_relisted,
    scanBelow_relisted hSorted]

------------------------------------------------------------
-- Agreement
------------------------------------------------------------

/- The same settings, with entries sorted or as listed. -/
def Settings.sorting
    (settings : Settings)
    (sorted : Bool) :
    Settings :=
  { settings with sortEntries := sorted }

/- Two answers that both fail, or are alike in some way. -/
def AgreeUpTo {α : Type}
    (alike : α → α → Prop)
    (answer other : Except Failure α) :
    Prop :=
  (∃ failure problem,
      answer = .error failure ∧ other = .error problem) ∨
    ∃ found there,
      answer = .ok found ∧ other = .ok there ∧
        alike found there

theorem AgreeUpTo.failed {α : Type}
    {alike : α → α → Prop}
    {failure problem : Failure} :
    AgreeUpTo alike (.error failure) (.error problem) :=
  .inl ⟨failure, problem, rfl, rfl⟩

theorem AgreeUpTo.found {α : Type}
    {alike : α → α → Prop}
    {found there : α}
    (hAlike : alike found there) :
    AgreeUpTo alike (.ok found) (.ok there) :=
  .inr ⟨found, there, rfl, rfl, hAlike⟩

/- Agreement may be given up in steps. -/
theorem AgreeUpTo.trans {α : Type}
    {first second both : α → α → Prop}
    {answer between other : Except Failure α}
    (hFirst : AgreeUpTo first answer between)
    (hSecond : AgreeUpTo second between other)
    (hBoth :
      ∀ left middle right,
        first left middle → second middle right →
          both left right) :
    AgreeUpTo both answer other := by
  rcases hFirst with
    ⟨failure, problem, rfl, rfl⟩ |
      ⟨left, middle, rfl, rfl, hLeft⟩
  · rcases hSecond with
      ⟨_, other, _, rfl⟩ | ⟨_, _, hNone, _⟩
    · exact .failed
    · contradiction
  · rcases hSecond with
      ⟨_, _, hNone, _⟩ | ⟨same, right, hSame, rfl, hRight⟩
    · contradiction
    · injection hSame with hSame
      rw [← hSame] at hRight
      exact .found (hBoth left middle right hLeft hRight)

------------------------------------------------------------
-- Names in Another Order
------------------------------------------------------------

variable {sorted : Bool}

/- Any scan visits the same entries of a directory. -/
theorem entryNames_reordered :
    AgreeUpTo List.Perm
      (entryNames tree (viewer.relisted order)
        (settings.sorting sorted) path)
      (entryNames tree viewer settings path) := by
  unfold entryNames
  rcases FileTree.list_relisted with
    ⟨fault, hLeft, hRight⟩ |
      ⟨names, others, hLeft, hRight, hPerm⟩
  · rw [hLeft, hRight]
    exact .failed
  · rw [hLeft, hRight]
    exact .found
      ((Settings.arrange_perm _ names).trans
        (hPerm.trans
          (settings.arrange_perm others).symm))

/- The same files are picked from names in another order. -/
theorem sourceFiles_perm
    {extension : Extension}
    {names others : List Name}
    (hPerm : names.Perm others) :
    AgreeUpTo List.Perm
      (sourceFiles tree viewer extension path names)
      (sourceFiles tree viewer extension path others) := by
  have hPicked :
      ∀ {left right : List Name}, left.Perm right →
        ∀ files,
          sourceFiles tree viewer extension path left =
              .ok files →
            sourceFiles tree viewer extension path right =
              .ok (right.filter
                (isSource tree viewer extension path)) := by
    intro left right hSame files hFiles
    refine (sourceFiles_eq_ok_iff right _).mpr ⟨?_, rfl⟩
    intro name hName
    exact ((sourceFiles_eq_ok_iff left files).mp hFiles).1
      name (hSame.mem_iff.mpr hName)
  cases hLeft :
      sourceFiles tree viewer extension path names with
  | ok files =>
      rw [hPicked hPerm files hLeft,
        ((sourceFiles_eq_ok_iff names files).mp hLeft).2]
      exact .found (hPerm.filter _)
  | error failure =>
      cases hRight :
          sourceFiles tree viewer extension path others with
      | error problem => exact .failed
      | ok files =>
          rw [hPicked hPerm.symm files hRight] at hLeft
          contradiction

------------------------------------------------------------
-- Components in Another Order
------------------------------------------------------------

/- A root file is a source file with the component's name. -/
structure IsRootFile
    (tree : FileTree)
    (viewer : Viewer)
    (settings : Settings)
    (component : Component)
    (root : Name) :
    Prop where
  listed :
    tree.Lists viewer
      (component.directory.join settings.elementsName.text)
      root
  file :
    tree.LeadsToFile viewer
      ((component.directory.join
        settings.elementsName.text).child root)
  ends : settings.sourceExtension.isAtEnd root = true
  element :
    settings.sourceExtension.stem root ∈ component.elements
  spelled :
    normalize (settings.sourceExtension.stem root) =
      component.identifier

/-
  A component, compared with the one that a sorted scan
  finds at the same directory.
-/
structure Component.Resembles
    (tree : FileTree)
    (viewer : Viewer)
    (settings : Settings)
    (component sorted : Component) :
    Prop where
  directory : component.directory = sorted.directory
  elements : component.elements.Perm sorted.elements
  rooted :
    component.rootFile.isSome = true ↔
      sorted.rootFile.isSome = true
  root :
    ∀ root,
      component.rootFile = some root →
        IsRootFile tree viewer settings component root

/- A described component has its root among its files. -/
theorem describe_isRootFile
    {component : Component}
    (hDescribe :
      describe tree viewer settings path
          (path.join settings.elementsName.text) =
        .ok component)
    {root : Name}
    (hRoot : component.rootFile = some root) :
    IsRootFile tree viewer settings component root := by
  rcases describe_eq_ok hDescribe with
    ⟨names, hNames, _, hComponent⟩
  subst hComponent
  have hFile := List.mem_of_find?_eq_some hRoot
  have hSpelled := List.find?_some hRoot
  rcases List.mem_filter.mp hFile with ⟨hName, hSource⟩
  rw [isSource_eq_true_iff] at hSource
  exact {
    listed := (mem_entryNames_iff hNames root).mp hName
    file := hSource.1
    ends := hSource.2
    element := List.mem_map_of_mem hFile
    spelled := beq_iff_eq.mp hSpelled }

/- The same files in another order make a like component. -/
theorem isSome_rootFile_perm
    {extension : Extension}
    {files others : List Name}
    (hPerm : files.Perm others) :
    (Component.ofFiles extension path
        files).rootFile.isSome = true ↔
      (Component.ofFiles extension path
        others).rootFile.isSome = true := by
  unfold Component.ofFiles
  simp only [List.find?_isSome, hPerm.mem_iff]

theorem describe_reordered :
    AgreeUpTo
      (Component.Resembles tree (viewer.relisted order)
        (settings.sorting sorted))
      (describe tree (viewer.relisted order)
        (settings.sorting sorted) path
        (path.join settings.elementsName.text))
      (describe tree viewer settings path
        (path.join settings.elementsName.text)) := by
  have hExtension :
      (settings.sorting sorted).sourceExtension =
        settings.sourceExtension :=
    rfl
  rcases entryNames_reordered with
    ⟨failure, problem, hLeft, hRight⟩ |
      ⟨names, others, hLeft, hRight, hPerm⟩
  · unfold describe
    rw [hLeft, hRight]
    exact .failed
  · rcases sourceFiles_perm hPerm with
      ⟨failure, problem, hFiles, hRest⟩ |
        ⟨files, rest, hFiles, hRest, hSame⟩
    · unfold describe
      rw [hLeft, hRight]
      simp only [sourceFiles_relisted, hExtension]
      rw [hFiles, hRest]
      exact .failed
    · have hDescribe :
          describe tree (viewer.relisted order)
              (settings.sorting sorted) path
              (path.join settings.elementsName.text) =
            .ok (.ofFiles settings.sourceExtension path
              files) := by
        unfold describe
        rw [hLeft]
        simp only [sourceFiles_relisted, hExtension]
        rw [hFiles]
      have hOther :
          describe tree viewer settings path
              (path.join settings.elementsName.text) =
            .ok (.ofFiles settings.sourceExtension path
              rest) := by
        unfold describe
        rw [hRight]
        simp only
        rw [hRest]
      rw [hDescribe, hOther]
      exact .found {
        directory := rfl
        elements := hSame.map _
        rooted := isSome_rootFile_perm hSame
        root := fun root => describe_isRootFile hDescribe }

------------------------------------------------------------
-- Libraries in Another Order
------------------------------------------------------------

/-
  Components, compared with those of a sorted scan.  They
  are the same ones in another order.
-/
def IsReordering
    (tree : FileTree)
    (viewer : Viewer)
    (settings : Settings)
    (components sorted : List Component) :
    Prop :=
  ∃ arranged,
    components.Perm arranged ∧
      arranged.Forall₂
        (Component.Resembles tree viewer settings) sorted

theorem IsReordering.append
    {components sorted others rest : List Component}
    (hFirst :
      IsReordering tree viewer settings components sorted)
    (hSecond :
      IsReordering tree viewer settings others rest) :
    IsReordering tree viewer settings (components ++ others)
      (sorted ++ rest) := by
  rcases hFirst with ⟨first, hFirst, hAlike⟩
  rcases hSecond with ⟨second, hSecond, hRest⟩
  exact ⟨first ++ second, hFirst.append hSecond,
    List.rel_append hAlike hRest⟩

/- An entry yields like components in any order. -/
theorem scanEntry_reordered
    {below other : Path → Except Failure (List Component)}
    {item : Path}
    (hBelow :
      AgreeUpTo
        (IsReordering tree (viewer.relisted order)
          (settings.sorting sorted))
        (below item) (other item)) :
    AgreeUpTo
      (IsReordering tree (viewer.relisted order)
        (settings.sorting sorted))
      (scanEntry tree (viewer.relisted order)
        (settings.sorting sorted) below item)
      (scanEntry tree viewer settings other item) := by
  have hName :
      (settings.sorting sorted).elementsName =
        settings.elementsName :=
    rfl
  unfold scanEntry
  simp only [isSearchable_relisted, hName]
  cases isSearchable tree viewer item with
  | error failure => exact .failed
  | ok isDirectory =>
      cases isDirectory with
      | false => exact .found ⟨[], .refl _, .nil⟩
      | true =>
          simp only
          cases isSearchable tree viewer
              (item.join settings.elementsName.text) with
          | error failure => exact .failed
          | ok isComponent =>
              cases isComponent with
              | false => exact hBelow
              | true =>
                  simp only
                  rcases describe_reordered with
                    ⟨failure, problem, hLeft, hRight⟩ |
                      ⟨component, here, hLeft, hRight,
                        hAlike⟩
                  · rw [hLeft, hRight]
                    exact .failed
                  · rw [hLeft, hRight]
                    exact .found ⟨[component], .refl _,
                      .cons hAlike .nil⟩

/- Entries that yield like components do so in turn. -/
theorem scanEntries_reordered
    {first second : Path → Except Failure (List Component)}
    {directory : Path}
    (hOne :
      ∀ item,
        AgreeUpTo (IsReordering tree viewer settings)
          (first item) (second item))
    (names : List Name) :
    AgreeUpTo (IsReordering tree viewer settings)
      (scanEntries first directory names)
      (scanEntries second directory names) := by
  induction names with
  | nil => exact .found ⟨[], .refl _, .nil⟩
  | cons name names ih =>
      unfold scanEntries
      rcases hOne (directory.child name) with
        ⟨failure, problem, hLeft, hRight⟩ |
          ⟨found, there, hLeft, hRight, hHead⟩
      · rw [hLeft, hRight]
        exact .failed
      · rw [hLeft, hRight]
        rcases ih with
          ⟨failure, problem, hRest, hOthers⟩ |
            ⟨rest, others, hRest, hOthers, hTail⟩
        · rw [hRest, hOthers]
          exact .failed
        · rw [hRest, hOthers]
          exact .found (hHead.append hTail)

/-
  Entries in another order yield the same in another order.
  Only which of several failures comes first may change.
-/
theorem scanEntries_perm
    {scanOne : Path → Except Failure (List Component)}
    {directory : Path}
    {names others : List Name}
    (hPerm : names.Perm others) :
    AgreeUpTo List.Perm
      (scanEntries scanOne directory names)
      (scanEntries scanOne directory others) := by
  induction hPerm with
  | nil => exact .found (.refl _)
  | cons name _ ih =>
      unfold scanEntries
      cases scanOne (directory.child name) with
      | error failure => exact .failed
      | ok found =>
          rcases ih with
            ⟨failure, problem, hLeft, hRight⟩ |
              ⟨rest, there, hLeft, hRight, hSame⟩
          · rw [hLeft, hRight]
            exact .failed
          · rw [hLeft, hRight]
            exact .found (hSame.append_left found)
  | swap name next names =>
      simp only [scanEntries]
      cases scanOne (directory.child name) with
      | error failure =>
          cases scanOne (directory.child next) with
          | error problem => exact .failed
          | ok found => exact .failed
      | ok here =>
          cases scanOne (directory.child next) with
          | error failure => exact .failed
          | ok found =>
              cases scanEntries scanOne directory names with
              | error failure => exact .failed
              | ok rest =>
                  refine .found ?_
                  simp only [← List.append_assoc]
                  exact List.perm_append_comm.append_right
                    rest
  | trans _ _ first second =>
      exact first.trans second fun _ _ _ => .trans

/- A search finds like components in any order. -/
theorem scanBelow_reordered
    (depth : Nat)
    (directory : Path) :
    AgreeUpTo
      (IsReordering tree (viewer.relisted order)
        (settings.sorting sorted))
      (scanBelow tree (viewer.relisted order)
        (settings.sorting sorted) depth directory)
      (scanBelow tree viewer settings depth directory) := by
  induction depth generalizing directory with
  | zero => exact .failed
  | succ depth ih =>
      unfold scanBelow
      rcases entryNames_reordered with
        ⟨failure, problem, hLeft, hRight⟩ |
          ⟨names, others, hLeft, hRight, hPerm⟩
      · rw [hLeft, hRight]
        exact .failed
      · rw [hLeft, hRight]
        refine (scanEntries_perm hPerm).trans
          (scanEntries_reordered
            (fun item => scanEntry_reordered (ih item))
            others) ?_
        rintro components between there hSame
          ⟨arranged, hArranged, hAlike⟩
        exact ⟨arranged, hSame.trans hArranged, hAlike⟩

theorem scan_reordered
    (tree : FileTree)
    (viewer : Viewer)
    (order : ListingOrder)
    (settings : Settings)
    (sorted : Bool)
    (library : Path) :
    AgreeUpTo
      (IsReordering tree (viewer.relisted order)
        (settings.sorting sorted))
      (scan tree (viewer.relisted order)
        (settings.sorting sorted) library)
      (scan tree viewer settings library) := by
  unfold scan FileTree.exists? FileTree.isDirectory?
  simp only [FileTree.test_relisted]
  split
  · exact .failed
  · exact .failed
  · split
    · exact .failed
    · exact .failed
    · exact scanBelow_reordered _ library

/-
  A sorted scan does not depend on the order of listings.  A
  scan that is not sorted agrees with it up to the order.
-/
theorem scan_anyOrder
    (tree : FileTree)
    (viewer : Viewer)
    (settings : Settings)
    (library : Path)
    (first second : ListingOrder) :
    scan tree (viewer.relisted first)
          (settings.sorting true) library =
        scan tree (viewer.relisted second)
          (settings.sorting true) library ∧
      AgreeUpTo
        (IsReordering tree (viewer.relisted first)
          (settings.sorting false))
        (scan tree (viewer.relisted first)
          (settings.sorting false) library)
        (scan tree (viewer.relisted second)
          (settings.sorting true) library) := by
  refine ⟨?_, ?_⟩
  · rw [scan_relisted rfl, scan_relisted rfl]
  · exact scan_reordered tree (viewer.relisted second) first
      (settings.sorting true) false library

end Aggregation
