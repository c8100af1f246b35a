import Aggregation.Proofs.Scan.Trails

/-
  Why a scan fails.

  A scan takes care of directories that it cannot list and
  of paths that it cannot ask for.  It takes no care when it
  tests the library itself and the entries of folders of
  elements, so a fault of such a test is its own failure.

  Key definitions include:
    * `IsSearchFailure`
    * `IsScanFailure`

  Key theorems include:
    * `scanBelow_eq_error`
    * `scan_eq_error`
-/

------------------------------------------------------------
-- Failures
------------------------------------------------------------

namespace Aggregation

open Disk (Fault FileTree Viewer)

/-
  How a search can fail: with an error that names a path, or
  with the fault of a test in a folder of elements.
-/
inductive IsSearchFailure
    (tree : FileTree)
    (viewer : Viewer)
    (settings : Settings) :
    Failure → Prop where
  | file (error : FileError) :
      IsSearchFailure tree viewer settings (.file error)
  | element
      {item : Path}
      {name : Name}
      {fault : Fault}
      (hComponent :
        IsComponentDirectory tree viewer settings item)
      (hLists :
        tree.Lists viewer
          (item.join settings.elementsName.text) name)
      (hTest :
        tree.isFile? viewer
            ((item.join settings.elementsName.text).child
              name) =
          .error fault) :
      IsSearchFailure tree viewer settings
        (.system
          ((item.join settings.elementsName.text).child
            name)
          fault)

/- A scan can also fail to test the library. -/
inductive IsScanFailure
    (tree : FileTree)
    (viewer : Viewer)
    (settings : Settings)
    (library : Path) :
    Failure → Prop where
  | library
      {fault : Fault}
      (hTest : tree.exists? viewer library = .error fault) :
      IsScanFailure tree viewer settings library
        (.system library fault)
  | search
      {failure : Failure}
      (hSearch :
        IsSearchFailure tree viewer settings failure) :
      IsScanFailure tree viewer settings library failure

variable {tree : FileTree}
variable {viewer : Viewer}
variable {settings : Settings}
variable {path : Path}
variable {failure : Failure}

------------------------------------------------------------
-- Single Directories
------------------------------------------------------------

theorem entryNames_eq_error
    (hNames :
      entryNames tree viewer settings path =
        .error failure) :
    IsSearchFailure tree viewer settings failure := by
  unfold entryNames at hNames
  split at hNames
  · injection hNames with hFailure
    exact hFailure ▸ .file _
  · contradiction

theorem isSearchable_eq_error
    (hTest :
      isSearchable tree viewer path = .error failure) :
    IsSearchFailure tree viewer settings failure := by
  unfold isSearchable at hTest
  split at hTest
  · injection hTest with hFailure
    exact hFailure ▸ .file _
  · contradiction

/- Picking source files fails at the test of one of them. -/
theorem sourceFiles_eq_error
    {extension : Extension}
    {names : List Name}
    (hFiles :
      sourceFiles tree viewer extension path names =
        .error failure) :
    ∃ name ∈ names, ∃ fault,
      tree.isFile? viewer (path.child name) =
          .error fault ∧
        failure = .system (path.child name) fault := by
  induction names with
  | nil => contradiction
  | cons name rest ih =>
      unfold sourceFiles at hFiles
      split at hFiles
      · rename_i fault hTest
        injection hFiles with hFailure
        exact ⟨name, List.mem_cons_self, fault, hTest,
          hFailure.symm⟩
      · split at hFiles
        · rename_i other hRest
          injection hFiles with hFailure
          rcases ih (hFailure ▸ hRest) with
            ⟨later, hLater, hFault⟩
          exact ⟨later, List.mem_cons_of_mem name hLater,
            hFault⟩
        · split at hFiles
          · contradiction
          · contradiction

theorem describe_eq_error
    {item : Path}
    (hComponent :
      IsComponentDirectory tree viewer settings item)
    (hDescribe :
      describe tree viewer settings path
          (item.join settings.elementsName.text) =
        .error failure) :
    IsSearchFailure tree viewer settings failure := by
  unfold describe at hDescribe
  cases hNames :
      entryNames tree viewer settings
        (item.join settings.elementsName.text) with
  | error other =>
      simp only [hNames] at hDescribe
      injection hDescribe with hFailure
      exact hFailure ▸ entryNames_eq_error hNames
  | ok names =>
      simp only [hNames] at hDescribe
      split at hDescribe
      · rename_i other hFiles
        injection hDescribe with hFailure
        rcases sourceFiles_eq_error hFiles with
          ⟨name, hName, fault, hTest, hOther⟩
        rw [← hFailure, hOther]
        exact .element hComponent
          ((mem_entryNames_iff hNames name).mp hName) hTest
      · contradiction

------------------------------------------------------------
-- Libraries
------------------------------------------------------------

theorem scanEntry_eq_error
    {below : Path → Except Failure (List Component)}
    (hBelow :
      below path = .error failure →
        IsSearchFailure tree viewer settings failure)
    (hEntry :
      scanEntry tree viewer settings below path =
        .error failure) :
    IsSearchFailure tree viewer settings failure := by
  unfold scanEntry at hEntry
  split at hEntry
  · rename_i other hItem
    injection hEntry with hFailure
    exact hFailure ▸ isSearchable_eq_error hItem
  · contradiction
  · simp only at hEntry
    split at hEntry
    · rename_i other hElements
      injection hEntry with hFailure
      exact hFailure ▸ isSearchable_eq_error hElements
    · exact hBelow hEntry
    · rename_i hElements
      split at hEntry
      · rename_i other hDescribe
        injection hEntry with hFailure
        exact hFailure ▸ describe_eq_error
          (isSearchable_eq_true_iff.mp hElements) hDescribe
      · contradiction

/- Entries in turn fail as one of them does. -/
theorem scanEntries_eq_error
    {scanOne : Path → Except Failure (List Component)}
    {names : List Name}
    (hScan :
      scanEntries scanOne path names = .error failure) :
    ∃ name ∈ names,
      scanOne (path.child name) = .error failure := by
  induction names with
  | nil => contradiction
  | cons name rest ih =>
      unfold scanEntries at hScan
      split at hScan
      · rename_i other hFirst
        injection hScan with hFailure
        exact ⟨name, List.mem_cons_self, hFailure ▸ hFirst⟩
      · split at hScan
        · rename_i other hRest
          injection hScan with hFailure
          rcases ih (hFailure ▸ hRest) with
            ⟨later, hLater, hFails⟩
          exact ⟨later, List.mem_cons_of_mem name hLater,
            hFails⟩
        · contradiction

theorem scanBelow_eq_error
    {depth : Nat}
    (hScan :
      scanBelow tree viewer settings depth path =
        .error failure) :
    IsSearchFailure tree viewer settings failure := by
  induction depth generalizing path with
  | zero =>
      injection hScan with hFailure
      exact hFailure ▸ .file _
  | succ depth ih =>
      unfold scanBelow at hScan
      split at hScan
      · rename_i other hNames
        injection hScan with hFailure
        exact hFailure ▸ entryNames_eq_error hNames
      · rcases scanEntries_eq_error hScan with
          ⟨name, _, hFails⟩
        exact scanEntry_eq_error ih hFails

/- Whatever exists can be tested for being a directory. -/
theorem isDirectory?_ne_error
    {fault : Fault}
    (hExists : tree.exists? viewer path = .ok true) :
    tree.isDirectory? viewer path ≠ .error fault := by
  unfold FileTree.exists? FileTree.test at hExists
  unfold FileTree.isDirectory? FileTree.test
  cases hStatus : tree.status viewer path with
  | ok found => simp
  | error other =>
      simp only [hStatus] at hExists
      split at hExists
      · simp at hExists
      · contradiction

theorem scan_eq_error
    {library : Path}
    (hScan :
      scan tree viewer settings library = .error failure) :
    IsScanFailure tree viewer settings library failure := by
  unfold scan at hScan
  split at hScan
  · rename_i fault hTest
    injection hScan with hFailure
    exact hFailure ▸ .library hTest
  · injection hScan with hFailure
    exact hFailure ▸ .search (.file _)
  · rename_i hExists
    split at hScan
    · rename_i fault hTest
      exact absurd hTest (isDirectory?_ne_error hExists)
    · injection hScan with hFailure
      exact hFailure ▸ .search (.file _)
    · exact .search (scanBelow_eq_error hScan)

end Aggregation
