import Aggregation.Failure
import Aggregation.Proofs.Disk.Sparing

/-
  What becomes of a store when a text is saved.

  A request that is met leaves the text in the file to which
  its path leads then, and every other file as it was.  One
  that is refused leaves all files as they were.  In either
  case there may be new directories above the path.

  Key definitions include:
    * `FileTree.SameFile`
    * `FileTree.HasBytes`
    * `FileTree.Builds`
    * `Store.Saves`
    * `Store.Refuses`

  Key theorems include:
    * `FileTree.MakesWay.builds`
    * `Store.save_of_leadsToFile`
    * `Store.resolve_of_overwrite`
    * `Store.save_outcome`
-/

------------------------------------------------------------
-- Directories above a Path
------------------------------------------------------------

namespace Aggregation

/- What lies above the parent of a path lies above it. -/
theorem Path.descend_name_of_parent
    {ancestor path : Path}
    {trail : List Name}
    (hNamed : ancestor.names ≠ [])
    (hParent : ancestor.descend trail = path.parent) :
    ancestor.descend (trail ++ [path.name]) = path := by
  rw [Path.descend_append, hParent]
  rcases path with ⟨anchor, names⟩
  cases names with
  | nil =>
      have hNames := congrArg Path.names hParent
      have hNone : ancestor.names = [] :=
        (List.append_eq_nil_iff.mp hNames).2
      exact absurd hNone hNamed
  | cons name above => rfl

namespace Disk

namespace FileTree

variable {before grown after : FileTree}
variable {viewer : Viewer}
variable {path : Path}

/- A location has the file that it had, or still has none. -/
def SameFile
    (before after : FileTree)
    (location : Location) :
    Prop :=
  ∀ content permissions,
    after.node? location =
        some (.file content permissions) ↔
      before.node? location =
        some (.file content permissions)

/- New directories leave all files as they were. -/
theorem Furnishes.sameFile
    (hFurnishes : Furnishes before after)
    (location : Location) :
    SameFile before after location := by
  intro content permissions
  rcases hFurnishes location with hKept | ⟨hNone, hMade⟩
  · rw [hKept]
  · rw [hNone, hMade]
    exact ⟨nofun, nofun⟩

/-
  A tree that was made for a path.  Each new directory is
  where a path above leads, and no directory or link that
  was there is gone.
-/
structure Builds
    (before after : FileTree)
    (viewer : Viewer)
    (path : Path) :
    Prop where
  made :
    ∀ location permissions,
      after.node? location =
          some (.directory permissions) →
        before.node? location =
            some (.directory permissions) ∨
          before.node? location = none ∧
            ∃ ancestor trail,
              trail ≠ [] ∧
                ancestor.descend trail = path ∧
                after.resolve viewer ancestor =
                  .ok (.present location
                    (.directory permissions))
  directories :
    ∀ location permissions,
      before.node? location =
          some (.directory permissions) →
        after.node? location = some (.directory permissions)
  links :
    ∀ location target,
      after.node? location = some (.link target) ↔
        before.node? location = some (.link target)

/- Writing files does not move the directories above. -/
theorem MakesWay.builds
    (hWay : MakesWay before grown viewer path.parent)
    (hGrows : Grows grown after) :
    Builds before after viewer path where
  made := by
    intro location permissions hDirectory
    have hGrown :=
      ((hGrows location).directory_iff permissions).mp
        hDirectory
    rcases hWay location with
      hKept | ⟨hNone, ancestor, trail, hNamed, hPath, hMade⟩
    · exact .inl (hKept ▸ hGrown)
    · have hHere := node?_of_resolve hMade
      rw [hGrown] at hHere
      injection hHere with hHere
      refine .inr ⟨hNone, ancestor, trail ++ [path.name],
        List.append_ne_nil_of_right_ne_nil _
          (List.cons_ne_nil _ _),
        Path.descend_name_of_parent hNamed hPath, ?_⟩
      rw [hHere]
      exact (hGrows.resolve_directory_iff ancestor location
        .all).mpr hMade
  directories := by
    intro location permissions hDirectory
    exact ((hGrows location).directory_iff permissions).mpr
      (hWay.furnishes.extends.directory hDirectory)
  links := by
    intro location target
    rw [(hGrows location).link_iff target]
    rcases hWay.furnishes location with
      hKept | ⟨hNone, hMade⟩
    · rw [hKept]
    · rw [hNone, hMade]
      exact ⟨nofun, nofun⟩

theorem Builds.refl
    (tree : FileTree)
    (viewer : Viewer)
    (path : Path) :
    Builds tree tree viewer path :=
  (MakesWay.refl tree viewer path.parent).builds
    (.refl tree)

/- A path leads to a file of given bytes. -/
def HasBytes
    (tree : FileTree)
    (viewer : Viewer)
    (path : Path)
    (bytes : ByteArray) :
    Prop :=
  ∃ location permissions,
    tree.resolve viewer path =
      .ok (.present location (.file bytes permissions))

end FileTree

------------------------------------------------------------
-- Requests Met and Refused
------------------------------------------------------------

namespace Store

/- What becomes of a store when a request is met. -/
structure Saves
    (before after : Store)
    (viewer : Viewer)
    (skipUnchanged : Bool)
    (path : Path)
    (content : String)
    (wrote : Bool) :
    Prop where
  file :
    ∃ location permissions,
      after.tree.resolve viewer path =
          .ok (.present location
            (.file content.toUTF8 permissions)) ∧
        ∀ other, other ≠ location →
          before.tree.SameFile after.tree other
  spared_iff :
    wrote = false ↔
      skipUnchanged = true ∧
        before.tree.HasBytes viewer path content.toUTF8
  spared : wrote = false → after = before
  repeated :
    viewer.bound = false →
      after.save viewer true path content =
        (after, .ok false)

/- What becomes of a store when a request is refused. -/
structure Refuses
    (before after : Store)
    (path : Path)
    (failure : Failure) :
    Prop where
  path :
    ∀ error, failure = .file error → error.path = path
  files :
    ∀ location, before.tree.SameFile after.tree location
  tree : FileTree.Furnishes before.tree after.tree
  written : after.written = before.written

variable {store after : Store}
variable {viewer : Viewer}
variable {skipUnchanged : Bool}
variable {path : Path}
variable {bytes : ByteArray}
variable {content : String}

/- A file of given bytes holds them, if it can be read. -/
theorem holds_of_same
    {location : Location}
    {permissions : Permissions}
    (hPath :
      store.tree.resolve viewer path =
        .ok (.present location (.file bytes permissions))) :
    store.holds viewer path bytes =
      if viewer.may permissions.read then .ok true
      else .error .denied := by
  rw [holds_of_file hPath,
    (Slot.beq_bytes_iff bytes bytes).mpr rfl]

/- Without bits that bind, a text that is there is spared. -/
theorem save_of_hasBytes
    (hUnbound : viewer.bound = false)
    (hBytes :
      store.tree.HasBytes viewer path content.toUTF8) :
    store.save viewer true path content =
      (store, .ok false) := by
  rcases hBytes with ⟨location, permissions, hPath⟩
  rw [save_eq, if_pos rfl, holds_of_same hPath,
    if_pos (may_of_unbound hUnbound _)]

/- Without bits that bind, a file takes any text. -/
theorem save_of_leadsToFile
    (hUnbound : viewer.bound = false)
    (hClean : path.IsClean)
    (hStart : store.tree.StartsClear viewer path)
    (hFile : store.tree.LeadsToFile viewer path)
    (skipUnchanged : Bool)
    (content : String) :
    ∃ wrote,
      (store.save viewer skipUnchanged path content).2 =
        .ok wrote := by
  rcases hFile with ⟨location, old, permissions, hStatus⟩
  have hPath := FileTree.status_eq_ok_iff.mp hStatus
  rw [save_eq, replace_of_file hUnbound hClean hStart hPath,
    holds_of_file hPath,
    if_pos (may_of_unbound hUnbound _)]
  cases skipUnchanged with
  | false => exact ⟨true, rfl⟩
  | true =>
      simp only [if_true]
      cases old == content.toUTF8 with
      | false => exact ⟨true, rfl⟩
      | true => exact ⟨false, rfl⟩

/- Overwriting a file moves no directory. -/
theorem overwrite_grows
    (hOver :
      store.overwrite viewer path bytes = .ok after) :
    FileTree.Grows store.tree after.tree := by
  rcases overwrite_eq_ok hOver with
    ⟨destination, permissions, _, hEntry, hAfter, _⟩
  intro location
  rw [hAfter]
  split
  · rename_i hHere
    exact hHere ▸ hEntry
  · exact .kept _

/- A file that is overwritten is where its path leads then. -/
theorem resolve_of_overwrite
    (hOver :
      store.overwrite viewer path bytes = .ok after) :
    ∃ location permissions,
      after.tree.resolve viewer path =
          .ok (.present location
            (.file bytes permissions)) ∧
        ∀ other, other ≠ location →
          after.tree.node? other =
            store.tree.node? other := by
  rcases overwrite_eq_ok hOver with
    ⟨destination, permissions, hPath, _, hAfter, _⟩
  refine ⟨destination.location, permissions, ?_, ?_⟩
  · exact
      (overwrite_extends hOver).tree.resolve_eq_present hPath
        ((hAfter _).trans (if_pos rfl))
  · intro other hOther
    exact (hAfter other).trans (if_neg hOther)

/- A refusal to write names the path that was asked for. -/
theorem path_of_ofWriting
    {fault : Fault}
    {error : FileError}
    (hFailure : Failure.ofWriting path fault = .file error) :
    error.path = path := by
  unfold Failure.ofWriting at hFailure
  split at hFailure
  · contradiction
  · injection hFailure with hError
    rw [← hError]

theorem refuses_of_furnishes
    {grown : FileTree}
    (hFurnishes : FileTree.Furnishes store.tree grown)
    (path : Path)
    (fault : Fault) :
    store.Refuses ⟨grown, store.written⟩ path
      (Failure.ofWriting path fault) where
  path := fun _ => path_of_ofWriting
  files := hFurnishes.sameFile
  tree := hFurnishes
  written := rfl

/- A text that is there already is left alone. -/
theorem saves_of_holds
    (hSkip : skipUnchanged = true)
    (hHolds :
      store.holds viewer path content.toUTF8 = .ok true) :
    store.Saves store viewer skipUnchanged path content
      false := by
  rcases holds_eq_true hHolds with
    ⟨location, permissions, hPath⟩
  refine {
    file := ⟨location, permissions, hPath, ?_⟩
    spared_iff := ?_
    spared := fun _ => rfl
    repeated := ?_ }
  · intro other _ old others
    exact .rfl
  · exact ⟨fun _ => ⟨hSkip, location, permissions, hPath⟩,
      fun _ => rfl⟩
  · intro hUnbound
    exact save_of_hasBytes hUnbound
      ⟨location, permissions, hPath⟩

/- A text that is not known to be there is written. -/
theorem saves_of_overwrite
    {grown : FileTree}
    (hFurnishes : FileTree.Furnishes store.tree grown)
    (hOver :
      Store.overwrite ⟨grown, store.written⟩ viewer path
          content.toUTF8 = .ok after)
    (hAsked :
      skipUnchanged = true →
        store.holds viewer path content.toUTF8 =
          .ok false) :
    store.Saves after viewer skipUnchanged path content
      true := by
  rcases resolve_of_overwrite hOver with
    ⟨location, permissions, hPath, hOthers⟩
  refine {
    file := ⟨location, permissions, hPath, ?_⟩
    spared_iff := ⟨nofun, ?_⟩
    spared := nofun
    repeated := ?_ }
  · intro other hOther old others
    rw [hOthers other hOther]
    exact hFurnishes.sameFile other old others
  · rintro ⟨hSkip, here, bits, hHere⟩
    have hHolds := hAsked hSkip
    rw [holds_of_same hHere] at hHolds
    split at hHolds
    · simp at hHolds
    · contradiction
  · intro hUnbound
    exact save_of_hasBytes hUnbound
      ⟨location, permissions, hPath⟩

/-
  A request to save a text is met or refused.  If it is met,
  its path leads to the text, and it has written unless the
  text was there and may be spared.  If it is refused, the
  refusal names the path, and there are no new files.  It is
  met at a file, if no permission bits bind.
-/
theorem save_outcome
    (store : Store)
    (viewer : Viewer)
    (skipUnchanged : Bool)
    (path : Path)
    (content : String) :
    let saved :=
      store.save viewer skipUnchanged path content
    (viewer.bound = false →
        path.IsClean →
        store.tree.StartsClear viewer path →
        store.tree.LeadsToFile viewer path →
          ∃ wrote, saved.2 = .ok wrote) ∧
      store.tree.Builds saved.1.tree viewer path ∧
      match saved.2.mapError (Failure.ofWriting path) with
      | .ok wrote =>
          store.Saves saved.1 viewer skipUnchanged path
            content wrote
      | .error failure =>
          store.Refuses saved.1 path failure := by
  intro saved
  refine ⟨?_, ?_⟩
  · intro hUnbound hClean hStart hFile
    exact save_of_leadsToFile hUnbound hClean hStart hFile
      skipUnchanged content
  rcases save_cases store viewer skipUnchanged path content
    with ⟨fault, hSave⟩ | ⟨hSkip, hHolds, hSave⟩ |
      ⟨hAsked, hSave⟩
  · simp only [saved, hSave]
    exact ⟨.refl _ _ _,
      refuses_of_furnishes (.refl _) path fault⟩
  · simp only [saved, hSave]
    exact ⟨.refl _ _ _, saves_of_holds hSkip hHolds⟩
  · rcases replace_cases store viewer path content.toUTF8
      with
      ⟨grown, hWay, ⟨fault, hReplace⟩ |
        ⟨after, hOver, hReplace⟩⟩
    · simp only [saved, hSave, hReplace]
      exact ⟨hWay.builds (.refl grown),
        refuses_of_furnishes hWay.furnishes path fault⟩
    · simp only [saved, hSave, hReplace]
      exact ⟨hWay.builds (overwrite_grows hOver),
        saves_of_overwrite hWay.furnishes hOver hAsked⟩

/- A request is refused, but has made a directory before. -/
example :
    let tree :=
      FileTree.empty.attach [] "a" (.file "x".toUTF8 .all)
        ⟨by decide, ⟨.all, rfl⟩, rfl⟩
    let saved :=
      Store.save ⟨tree, []⟩ openViewer false
        ⟨.relative, ["c", "a", "..", "b"]⟩ "y"
    saved.2 = .error .exists ∧
      saved.1.tree.node? ["a"] = tree.node? ["a"] ∧
      saved.1.tree.node? ["b"] = some (.directory .all) :=
  ⟨rfl, rfl, rfl⟩

end Store

end Disk

end Aggregation
