import Aggregation.Proofs.Disk.Entries
import Aggregation.Scan
import Mathlib.Data.String.Basic

/-
  The names that a scan visits in a directory.

  A scan sees each entry once.  In a sorted scan the names
  come in strictly increasing order of code points, so they
  depend only on which entries there are.  No scan depends
  on how failures and unchanged files are treated.

  Key definitions include:
    * `Settings.switched`

  Key theorems include:
    * `sortNames_perm`
    * `sortNames_sorted`
    * `Settings.arrange_eq_of_perm`
    * `entryNames_eq_ok`
    * `entryNames_increasing`
    * `isSearchable_eq_true_iff`
    * `scan_switched`
-/

------------------------------------------------------------
-- Sorted Names
------------------------------------------------------------

namespace Aggregation

open Disk (FileTree Viewer)

/- Inserting a name keeps all others. -/
theorem insertName_perm
    (name : Name)
    (names : List Name) :
    (insertName name names).Perm (name :: names) := by
  induction names with
  | nil => exact .refl _
  | cons other rest ih =>
      unfold insertName
      split
      · exact .refl _
      · exact (ih.cons other).trans (.swap name other rest)

/- A name goes where the order asks for it. -/
theorem insertName_sorted
    (name : Name)
    {names : List Name}
    (hSorted : names.Pairwise (· ≤ ·)) :
    (insertName name names).Pairwise (· ≤ ·) := by
  induction names with
  | nil => exact List.pairwise_singleton _ _
  | cons other rest ih =>
      have hOther := List.pairwise_cons.mp hSorted
      unfold insertName
      split
      · rename_i hLe
        refine List.pairwise_cons.mpr ⟨?_, hSorted⟩
        intro later hLater
        rcases List.mem_cons.mp hLater with hSame | hRest
        · rw [hSame]
          exact hLe
        · exact le_trans hLe (hOther.1 later hRest)
      · rename_i hNot
        refine List.pairwise_cons.mpr ⟨?_, ih hOther.2⟩
        intro later hLater
        rw [(insertName_perm name rest).mem_iff,
          List.mem_cons] at hLater
        rcases hLater with hSame | hRest
        · rw [hSame]
          exact le_of_not_ge hNot
        · exact hOther.1 later hRest

/- Sorting keeps every name. -/
theorem sortNames_perm (names : List Name) :
    (sortNames names).Perm names := by
  induction names with
  | nil => exact .refl _
  | cons name rest ih =>
      exact (insertName_perm name _).trans (ih.cons name)

/- Sorted names never decrease. -/
theorem sortNames_sorted (names : List Name) :
    (sortNames names).Pairwise (· ≤ ·) := by
  induction names with
  | nil => exact .nil
  | cons name rest ih => exact insertName_sorted name ih

namespace Settings

variable {settings : Settings}

/- Arranging keeps every name. -/
theorem arrange_perm
    (settings : Settings)
    (names : List Name) :
    (settings.arrange names).Perm names := by
  unfold arrange
  split
  · exact sortNames_perm names
  · exact .refl names

theorem arrange_sorted
    (hSorted : settings.sortEntries = true)
    (names : List Name) :
    (settings.arrange names).Pairwise (· ≤ ·) := by
  unfold arrange
  rw [if_pos hSorted]
  exact sortNames_sorted names

/- The order of a listing does not show in sorted names. -/
theorem arrange_eq_of_perm
    (hSorted : settings.sortEntries = true)
    {left right : List Name}
    (hPerm : left.Perm right) :
    settings.arrange left = settings.arrange right := by
  refine List.Perm.eq_of_pairwise ?_
    (arrange_sorted hSorted left)
    (arrange_sorted hSorted right) ?_
  · intro name other _ _ hLe hGe
    exact le_antisymm hLe hGe
  · exact (arrange_perm settings left).trans
      (hPerm.trans (arrange_perm settings right).symm)

end Settings

------------------------------------------------------------
-- Directories of a Scan
------------------------------------------------------------

variable {tree : FileTree}
variable {viewer : Viewer}
variable {settings : Settings}

/- A scan visits the names that a directory lists. -/
theorem entryNames_eq_ok
    {directory : Path}
    {names : List Name}
    (hNames :
      entryNames tree viewer settings directory =
        .ok names) :
    ∃ listed,
      tree.list viewer directory = .ok listed ∧
        names = settings.arrange listed := by
  unfold entryNames at hNames
  cases hList : tree.list viewer directory with
  | error fault => simp [hList] at hNames
  | ok listed =>
      simp only [hList] at hNames
      injection hNames with hNames
      exact ⟨listed, rfl, hNames.symm⟩

/- Visited names are listed names. -/
theorem mem_entryNames_iff
    {directory : Path}
    {names : List Name}
    (hNames :
      entryNames tree viewer settings directory =
        .ok names)
    (name : Name) :
    name ∈ names ↔ tree.Lists viewer directory name := by
  rcases entryNames_eq_ok hNames with
    ⟨listed, hList, hArranged⟩
  rw [hArranged, (settings.arrange_perm listed).mem_iff]
  unfold FileTree.Lists
  simp [hList]

/- No name is visited twice. -/
theorem entryNames_nodup
    {directory : Path}
    {names : List Name}
    (hNames :
      entryNames tree viewer settings directory =
        .ok names) :
    names.Nodup := by
  rcases entryNames_eq_ok hNames with
    ⟨listed, hList, hArranged⟩
  rcases FileTree.list_eq_ok hList with
    ⟨location, _, _, hPerm⟩
  rw [hArranged]
  exact ((settings.arrange_perm listed).trans
    hPerm).nodup_iff.mpr (tree.nodup_entries location)

/- Visited names increase in a sorted scan. -/
theorem entryNames_increasing
    (hSorted : settings.sortEntries = true)
    {directory : Path}
    {names : List Name}
    (hNames :
      entryNames tree viewer settings directory =
        .ok names) :
    names.Pairwise (· < ·) := by
  have hNodup := entryNames_nodup hNames
  rcases entryNames_eq_ok hNames with
    ⟨listed, hList, hArranged⟩
  have hLe := Settings.arrange_sorted hSorted listed
  rw [hArranged] at hNodup ⊢
  exact (hLe.and hNodup).imp fun h =>
    lt_of_le_of_ne h.1 h.2

/- A scan enters directories only. -/
theorem isSearchable_eq_true_iff
    {path : Path} :
    isSearchable tree viewer path = .ok true ↔
      tree.LeadsToDirectory viewer path := by
  rw [← FileTree.isDirectory?_eq_true_iff]
  unfold isSearchable
  cases tree.isDirectory? viewer path with
  | error fault => simp
  | ok answer => simp

------------------------------------------------------------
-- Switches
------------------------------------------------------------

/-
  The same settings with other switches for failures and for
  files that are unchanged.
-/
def Settings.switched
    (settings : Settings)
    (failFast skipUnchanged : Bool) :
    Settings :=
  { settings with
    failFast := failFast
    skipUnchanged := skipUnchanged }

/- What is searched does not depend on the switches. -/
theorem scanBelow_switched
    (failFast skipUnchanged : Bool)
    (depth : Nat) :
    scanBelow tree viewer
        (settings.switched failFast skipUnchanged) depth =
      scanBelow tree viewer settings depth := by
  induction depth with
  | zero => rfl
  | succ depth ih =>
      funext directory
      unfold scanBelow
      rw [ih]
      rfl

/- What is scanned does not depend on the switches. -/
theorem scan_switched
    (tree : FileTree)
    (viewer : Viewer)
    (settings : Settings)
    (failFast skipUnchanged : Bool)
    (library : Path) :
    scan tree viewer
        (settings.switched failFast skipUnchanged) library =
      scan tree viewer settings library := by
  unfold scan
  rw [scanBelow_switched]

end Aggregation
