import Aggregation.Proofs.Disk.Sparing

/-
  Requests for paths without null characters.

  Only a null character in the path itself is refused as
  one.  Any other path is refused for a reason that the file
  system gives, wherever links on the way lead.

  Key definitions include:
    * `Path.IsNullFree`

  Key theorems include:
    * `FileTree.resolve_ne_null`
    * `FileTree.isNullFree_of_leadsToDirectory`
    * `Store.save_ne_null`
-/

------------------------------------------------------------
-- Paths
------------------------------------------------------------

namespace Aggregation

namespace Path

/- No name of a path has a null character. -/
def IsNullFree (path : Path) : Prop :=
  ∀ name ∈ path.names, '\x00' ∉ name.toList

variable {path : Path}

theorem hasNull_eq_false_iff :
    path.hasNull = false ↔ path.IsNullFree := by
  unfold hasNull IsNullFree
  simp

theorem IsNullFree.above
    {anchor : Anchor}
    {name : Name}
    {names : List Name}
    (hFree : IsNullFree ⟨anchor, name :: names⟩) :
    IsNullFree ⟨anchor, names⟩ :=
  fun other hOther =>
    hFree other (List.mem_cons_of_mem name hOther)

theorem IsNullFree.parent
    (hFree : path.IsNullFree) :
    path.parent.IsNullFree :=
  fun name hName => hFree name (List.mem_of_mem_tail hName)

/- A path is read without characters of its own. -/
theorem ofString_isNullFree
    {text : String}
    (hText : '\x00' ∉ text.toList) :
    (ofString text).IsNullFree := by
  intro name hName hNull
  unfold ofString segments at hName
  simp only [List.mem_reverse, List.mem_filter,
    List.mem_map] at hName
  rcases hName with ⟨⟨segment, hSegment, rfl⟩, _⟩
  rw [String.toList_ofList] at hNull
  exact hText (Text.mem_of_mem_splitOn hSegment hNull)

theorem IsNullFree.join
    (hFree : path.IsNullFree)
    {text : String}
    (hText : '\x00' ∉ text.toList) :
    (path.join text).IsNullFree := by
  have hRead := ofString_isNullFree hText
  unfold Path.join
  simp only
  split
  · intro name hName
    rcases List.mem_append.mp hName with hBelow | hPath
    · exact hRead name hBelow
    · exact hFree name hPath
  · exact hRead

end Path

------------------------------------------------------------
-- Resolution
------------------------------------------------------------

namespace Disk

namespace FileTree

variable {tree : FileTree}
variable {viewer : Viewer}
variable {location : Location}
variable {path : Path}
variable {fault : Fault}

theorem enter_ne_null
    (hEnter : tree.enter viewer location = .error fault) :
    fault ≠ .nullCharacter := by
  unfold enter at hEnter
  split at hEnter
  · split at hEnter
    · contradiction
    · cases hEnter
      decide
  · cases hEnter
    decide
  · cases hEnter
    decide

theorem step_ne_null
    {name : String}
    (hStep : tree.step viewer location name = .error fault) :
    fault ≠ .nullCharacter := by
  unfold step at hStep
  cases hEnter : tree.enter viewer location with
  | error other =>
      simp only [hEnter] at hStep
      injection hStep with hFault
      exact hFault ▸ enter_ne_null hEnter
  | ok entered =>
      simp only [hEnter] at hStep
      split at hStep
      · contradiction
      split at hStep
      · contradiction
      split at hStep
      · cases hStep
        decide
      · split at hStep
        · contradiction
        · contradiction
        · contradiction

/- No name on the way is refused for a null character. -/
theorem follow_ne_null
    {links : Nat}
    {names : List String}
    (hFollow :
      tree.follow viewer links location names =
        .error fault) :
    fault ≠ .nullCharacter :=
  fault_of_follow (by decide) (by decide)
    (fun _ _ _ => step_ne_null) hFollow

theorem admits_ne_null
    (hFree : path.IsNullFree)
    (hAdmits : admits path = .error fault) :
    fault ≠ .nullCharacter := by
  unfold admits at hAdmits
  rw [Path.hasNull_eq_false_iff.mpr hFree,
    if_neg Bool.false_ne_true] at hAdmits
  split at hAdmits
  · cases hAdmits
    decide
  · contradiction

theorem resolve_ne_null
    (hFree : path.IsNullFree)
    (hPath : tree.resolve viewer path = .error fault) :
    fault ≠ .nullCharacter := by
  unfold resolve at hPath
  cases hAdmits : admits path with
  | error other =>
      simp only [hAdmits] at hPath
      injection hPath with hFault
      exact hFault ▸ admits_ne_null hFree hAdmits
  | ok admitted =>
      simp only [hAdmits] at hPath
      exact follow_ne_null hPath

/- What leads to a directory has no null character. -/
theorem isNullFree_of_leadsToDirectory
    (hPath : tree.LeadsToDirectory viewer path) :
    path.IsNullFree := by
  rcases hPath with ⟨location, permissions, hStatus⟩
  have hResolve := status_eq_ok_iff.mp hStatus
  apply Path.hasNull_eq_false_iff.mp
  cases hNull : path.hasNull with
  | false => rfl
  | true => simp [resolve, admits, hNull] at hResolve

------------------------------------------------------------
-- Questions
------------------------------------------------------------

/- A test takes a null character for nothing there. -/
theorem test_ne_null
    {accepts : Node → Bool}
    (hTest :
      tree.test viewer path accepts = .error fault) :
    fault ≠ .nullCharacter := by
  unfold test at hTest
  split at hTest
  · contradiction
  · split at hTest
    · contradiction
    · rename_i other _ hPresent
      injection hTest with hFault
      rw [← hFault]
      intro hNull
      rw [hNull] at hPresent
      exact hPresent rfl

theorem status_ne_null
    (hFree : path.IsNullFree)
    (hStatus : tree.status viewer path = .error fault) :
    fault ≠ .nullCharacter := by
  unfold status at hStatus
  cases hPath : tree.resolve viewer path with
  | error other =>
      simp only [hPath] at hStatus
      injection hStatus with hFault
      exact hFault ▸ resolve_ne_null hFree hPath
  | ok destination =>
      simp only [hPath] at hStatus
      cases destination with
      | present location node => contradiction
      | vacant parent name =>
          cases hStatus
          decide

theorem read_ne_null
    (hFree : path.IsNullFree)
    (hRead : tree.read viewer path = .error fault) :
    fault ≠ .nullCharacter := by
  unfold read at hRead
  split at hRead
  · rename_i other hStatus
    injection hRead with hFault
    exact hFault ▸ status_ne_null hFree hStatus
  · split at hRead
    · contradiction
    · cases hRead
      decide
  · cases hRead
    decide

------------------------------------------------------------
-- Directories
------------------------------------------------------------

theorem makeDirectory_ne_null
    (hFree : path.IsNullFree)
    (hMake :
      tree.makeDirectory viewer path = .error fault) :
    fault ≠ .nullCharacter := by
  rcases path with ⟨anchor, names⟩
  unfold makeDirectory at hMake
  cases hAdmits : admits ⟨anchor, names⟩ with
  | error other =>
      simp only [hAdmits] at hMake
      injection hMake with hFault
      exact hFault ▸ admits_ne_null hFree hAdmits
  | ok admitted =>
      simp only [hAdmits] at hMake
      cases names with
      | nil =>
          cases hMake
          decide
      | cons name above =>
          simp only at hMake
          split at hMake
          · rename_i other hFollow
            injection hMake with hFault
            exact hFault ▸ follow_ne_null hFollow
          · cases hMake
            decide
          split at hMake
          · rename_i other hEnter
            injection hMake with hFault
            exact hFault ▸ enter_ne_null hEnter
          split at hMake
          · cases hMake
            decide
          split at hMake
          · cases hMake
            decide
          split at hMake
          · cases hMake
            decide
          split at hMake
          · split at hMake
            · split at hMake
              · contradiction
              · cases hMake
                decide
            · cases hMake
              decide
          · cases hMake
            decide

theorem excuse_ne_null
    {other : Fault}
    (hOther : other ≠ .nullCharacter)
    (hExcuse :
      tree.excuse viewer path other = .error fault) :
    fault ≠ .nullCharacter := by
  unfold excuse at hExcuse
  rw [if_neg hOther] at hExcuse
  split at hExcuse
  · contradiction
  · injection hExcuse with hFault
    exact hFault ▸ hOther
  · rename_i hTest
    injection hExcuse with hFault
    exact hFault ▸ test_ne_null hTest

theorem ensureDirectory_ne_null
    {anchor : Anchor}
    {names : List Name}
    (hFree : Path.IsNullFree ⟨anchor, names⟩)
    (hEnsure :
      (ensureDirectory viewer anchor tree names).2 =
        .error fault) :
    fault ≠ .nullCharacter := by
  induction names with
  | nil =>
      unfold ensureDirectory at hEnsure
      split at hEnsure
      · contradiction
      · cases hEnsure
        decide
      · rename_i hMake
        exact excuse_ne_null
          (makeDirectory_ne_null hFree hMake) hEnsure
  | cons name above ih =>
      unfold ensureDirectory at hEnsure
      split at hEnsure
      · contradiction
      · split at hEnsure
        · rename_i hAbove
          rw [hAbove] at ih
          exact ih hFree.above hEnsure
        · split at hEnsure
          · contradiction
          · cases hEnsure
            decide
          · rename_i hMake
            exact excuse_ne_null
              (makeDirectory_ne_null hFree hMake) hEnsure
      · rename_i hMake
        exact excuse_ne_null
          (makeDirectory_ne_null hFree hMake) hEnsure

end FileTree

------------------------------------------------------------
-- Files
------------------------------------------------------------

namespace Store

variable {store : Store}
variable {viewer : Viewer}
variable {path : Path}
variable {content : ByteArray}
variable {fault : Fault}

theorem holds_ne_null
    (hFree : path.IsNullFree)
    (hHolds :
      store.holds viewer path content = .error fault) :
    fault ≠ .nullCharacter := by
  unfold holds at hHolds
  split at hHolds
  · rename_i other hTest
    injection hHolds with hFault
    exact hFault ▸ FileTree.test_ne_null hTest
  · contradiction
  · cases hRead : store.tree.read viewer path with
    | ok bytes => simp [hRead, Except.map] at hHolds
    | error other =>
        rw [hRead] at hHolds
        injection hHolds with hFault
        exact hFault ▸ FileTree.read_ne_null hFree hRead

theorem overwrite_ne_null
    (hFree : path.IsNullFree)
    (hOver :
      store.overwrite viewer path content =
        .error fault) :
    fault ≠ .nullCharacter := by
  unfold overwrite at hOver
  split at hOver
  · rename_i other hCreate
    injection hOver with hFault
    rw [← hFault]
    rcases FileTree.fault_of_resolveToCreate hCreate with
      hSlash | hPath
    · rw [hSlash]
      decide
    · exact FileTree.resolve_ne_null hFree hPath
  · split at hOver
    · contradiction
    · cases hOver
      decide
  · cases hOver
    decide
  · cases hOver
    decide
  · split at hOver
    · split at hOver
      · split at hOver
        · contradiction
        · cases hOver
          decide
      · cases hOver
        decide
    · cases hOver
      decide

theorem replace_ne_null
    (hFree : path.IsNullFree)
    (hReplace :
      (store.replace viewer path content).2 =
        .error fault) :
    fault ≠ .nullCharacter := by
  unfold replace at hReplace
  split at hReplace
  · rename_i grown other hEnsure
    have hMade :
        (FileTree.ensureDirectory viewer path.anchor
            store.tree path.parent.names).2 =
          .error other := by
      rw [hEnsure]
    injection hReplace with hFault
    exact hFault ▸ FileTree.ensureDirectory_ne_null
      hFree.parent hMade
  · simp only at hReplace
    split at hReplace
    · rename_i hOver
      injection hReplace with hFault
      exact hFault ▸ overwrite_ne_null hFree hOver
    · contradiction

/- Saving a file is not refused for a null character. -/
theorem save_ne_null
    {skipUnchanged : Bool}
    {text : String}
    (hFree : path.IsNullFree)
    (hSave :
      (store.save viewer skipUnchanged path text).2 =
        .error fault) :
    fault ≠ .nullCharacter := by
  rw [save_eq] at hSave
  cases skipUnchanged with
  | false => exact replace_ne_null hFree hSave
  | true =>
      simp only [if_true] at hSave
      cases hHolds :
          store.holds viewer path text.toUTF8 with
      | error other =>
          simp only [hHolds] at hSave
          injection hSave with hFault
          exact hFault ▸ holds_ne_null hFree hHolds
      | ok unchanged =>
          simp only [hHolds] at hSave
          cases unchanged with
          | true => contradiction
          | false => exact replace_ne_null hFree hSave

end Store

end Disk

end Aggregation
