import Aggregation.Proofs.Disk.Unbound
import Aggregation.Proofs.Scan.Stability

/-
  Scans that permission bits do not stop.

  A scan of a viewer whom the bits bind fails, or it finds
  what it would find if there were no bits.  Nothing is left
  out because it may not be seen.

  Key theorems include:
    * `describe_unbound`
    * `scanBelow_unbound`
    * `scan_unbound`
-/

------------------------------------------------------------
-- Answers
------------------------------------------------------------

namespace Aggregation

open Disk (FileTree Viewer)

variable {tree : FileTree}
variable {viewer : Viewer}
variable {settings : Settings}
variable {path : Path}

/- An answer to a test does not depend on the bits. -/
theorem test_unbound_of_ok
    {accepts : Disk.Node → Bool}
    {answer : Bool}
    (hTest : tree.test viewer path accepts = .ok answer) :
    tree.test viewer.unbound path accepts = .ok answer := by
  rw [FileTree.test_unbound (by simp [hTest])]
  exact hTest

theorem isSearchable_unbound
    {answer : Bool}
    (hTest : isSearchable tree viewer path = .ok answer) :
    isSearchable tree viewer.unbound path = .ok answer := by
  unfold isSearchable at hTest ⊢
  cases hDirectory : tree.isDirectory? viewer path with
  | error fault => simp [hDirectory] at hTest
  | ok isDirectory =>
      have hUnbound :
          tree.isDirectory? viewer.unbound path =
            .ok isDirectory :=
        test_unbound_of_ok hDirectory
      rw [hDirectory] at hTest
      rw [hUnbound]
      exact hTest

theorem entryNames_unbound
    {names : List Name}
    (hNames :
      entryNames tree viewer settings path = .ok names) :
    entryNames tree viewer.unbound settings path =
      .ok names := by
  rcases entryNames_eq_ok hNames with
    ⟨listed, hList, hArranged⟩
  unfold entryNames
  rw [FileTree.list_unbound (by simp [hList]), hList,
    hArranged]

------------------------------------------------------------
-- Components
------------------------------------------------------------

/- No source file is passed over. -/
theorem sourceFiles_unbound
    {extension : Extension}
    {names files : List Name}
    (hFiles :
      sourceFiles tree viewer extension path names =
        .ok files) :
    sourceFiles tree viewer.unbound extension path names =
      .ok files := by
  induction names generalizing files with
  | nil => exact hFiles
  | cons name rest ih =>
      unfold sourceFiles at hFiles ⊢
      cases hTest :
          tree.isFile? viewer (path.child name) with
      | error fault => simp [hTest] at hFiles
      | ok isFile =>
          have hUnbound :
              tree.isFile? viewer.unbound
                  (path.child name) =
                .ok isFile :=
            test_unbound_of_ok hTest
          simp only [hTest] at hFiles
          simp only [hUnbound]
          cases hRest :
              sourceFiles tree viewer extension path rest with
          | error failure => simp [hRest] at hFiles
          | ok others =>
              rw [hRest] at hFiles
              rw [ih hRest]
              exact hFiles

theorem describe_unbound
    {elements : Path}
    {component : Component}
    (hDescribe :
      describe tree viewer settings path elements =
        .ok component) :
    describe tree viewer.unbound settings path elements =
      .ok component := by
  unfold describe at hDescribe ⊢
  cases hNames :
      entryNames tree viewer settings elements with
  | error failure => simp [hNames] at hDescribe
  | ok names =>
      simp only [hNames] at hDescribe
      rw [entryNames_unbound hNames]
      cases hFiles :
          sourceFiles tree viewer settings.sourceExtension
            elements names with
      | error failure => simp [hFiles] at hDescribe
      | ok files =>
          simp only [hFiles] at hDescribe
          simp only [sourceFiles_unbound hFiles]
          exact hDescribe

------------------------------------------------------------
-- Libraries
------------------------------------------------------------

/- An entry yields the same, given that its own ones do. -/
theorem scanEntry_unbound
    {below belowUnbound :
      Path → Except Failure (List Component)}
    {item : Path}
    {found : List Component}
    (hBelow :
      below item = .ok found →
        belowUnbound item = .ok found)
    (hFound :
      scanEntry tree viewer settings below item =
        .ok found) :
    scanEntry tree viewer.unbound settings belowUnbound
        item =
      .ok found := by
  unfold scanEntry at hFound ⊢
  cases hItem : isSearchable tree viewer item with
  | error failure => simp [hItem] at hFound
  | ok isDirectory =>
      rw [hItem] at hFound
      rw [isSearchable_unbound hItem]
      cases isDirectory with
      | false => exact hFound
      | true =>
          simp only at hFound ⊢
          cases hElements :
              isSearchable tree viewer
                (item.join settings.elementsName.text) with
          | error failure => simp [hElements] at hFound
          | ok isComponent =>
              rw [hElements] at hFound
              rw [isSearchable_unbound hElements]
              cases isComponent with
              | false => exact hBelow hFound
              | true =>
                  simp only at hFound ⊢
                  cases hHere :
                      describe tree viewer settings item
                        (item.join
                          settings.elementsName.text) with
                  | error failure => simp [hHere] at hFound
                  | ok component =>
                      rw [hHere] at hFound
                      rw [describe_unbound hHere]
                      exact hFound

theorem scanBelow_unbound
    (depth : Nat)
    {components : List Component}
    (hScan :
      scanBelow tree viewer settings depth path =
        .ok components) :
    scanBelow tree viewer.unbound settings depth path =
      .ok components := by
  induction depth generalizing path components with
  | zero => exact hScan
  | succ depth ih =>
      unfold scanBelow at hScan ⊢
      cases hNames :
          entryNames tree viewer settings path with
      | error failure => simp [hNames] at hScan
      | ok names =>
          simp only [hNames] at hScan
          simp only [entryNames_unbound hNames]
          exact scanEntries_stable
            (fun _ _ _ => scanEntry_unbound ih) hScan

/- A scan that is not refused is complete. -/
theorem scan_unbound
    {library : Path}
    {components : List Component}
    (hScan :
      scan tree viewer settings library = .ok components) :
    scan tree viewer.unbound settings library =
      .ok components := by
  have hBelow :=
    scanBelow_unbound FileTree.pathLimit
      (scan_eq_ok hScan).2
  unfold scan at hScan ⊢
  cases hExists : tree.exists? viewer library with
  | error fault => simp [hExists] at hScan
  | ok isThere =>
      have hThere :
          tree.exists? viewer.unbound library =
            .ok isThere :=
        test_unbound_of_ok hExists
      rw [hExists] at hScan
      rw [hThere]
      cases isThere with
      | false => simp at hScan
      | true =>
          simp only at hScan ⊢
          cases hTest : tree.isDirectory? viewer library with
          | error fault => simp [hTest] at hScan
          | ok isDirectory =>
              have hDirectory :
                  tree.isDirectory? viewer.unbound library =
                    .ok isDirectory :=
                test_unbound_of_ok hTest
              rw [hTest] at hScan
              rw [hDirectory]
              cases isDirectory with
              | false => simp at hScan
              | true => exact hBelow

end Aggregation
