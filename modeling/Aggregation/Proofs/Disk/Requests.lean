import Aggregation.Proofs.Disk.Extension

/-
  What requests to write make of a store.

  Whatever path a request is for, and however it ends, it
  writes files and makes directories, and all else stays.
  Directories are made where the paths above lead, and a
  file is written where its path ends.

  Key definitions include:
    * `FileTree.MakesWay`
    * `Store.Extends`
    * `Store.replace`

  Key theorems include:
    * `makeDirectory_eq_ok`
    * `ensureDirectory_makesWay`
    * `Store.overwrite_eq_ok`
    * `Store.save_cases`
    * `Store.replace_cases`
    * `Store.save_extends`
-/

------------------------------------------------------------
-- Made Directories
------------------------------------------------------------

namespace Aggregation

namespace Disk

variable {tree grown : FileTree}
variable {viewer : Viewer}

/- What was attached could be attached. -/
theorem canAttach_of_attach?
    {parent : Location}
    {name : String}
    {node : Node}
    (hAttach :
      tree.attach? parent name node = some grown) :
    tree.CanAttach parent name := by
  unfold FileTree.attach? at hAttach
  split at hAttach
  · rename_i permissions hInside hVacant
    split at hAttach
    · rename_i hNamed
      exact ⟨hNamed, ⟨permissions, hInside⟩, hVacant⟩
    · contradiction
  · contradiction

/- What is attached was not there before. -/
theorem node?_of_attach?
    {parent : Location}
    {name : String}
    {node : Node}
    (hAttach :
      tree.attach? parent name node = some grown) :
    tree.node? (name :: parent) = none ∧
      ∀ location,
        grown.node? location =
          if location = name :: parent then some node
          else tree.node? location := by
  have hCan := canAttach_of_attach? hAttach
  rw [Slot.attach?_eq_some hCan] at hAttach
  injection hAttach with hGrown
  rw [← hGrown]
  exact ⟨hCan.vacant, tree.node?_attach _ _ _ hCan⟩

/- A directory that is attached is all that is new. -/
theorem attach?_furnishes
    {parent : Location}
    {name : String}
    (hAttach :
      tree.attach? parent name (.directory .all) =
        some grown) :
    FileTree.Furnishes tree grown := by
  rcases node?_of_attach? hAttach with ⟨hVacant, hGrown⟩
  intro location
  rw [hGrown]
  split
  · rename_i hHere
    rw [hHere]
    exact .inr ⟨hVacant, rfl⟩
  · exact .inl rfl

/- What can be attached is not there, by its name. -/
theorem step_eq_nothing
    {parent : Location}
    {name : String}
    (hCan : tree.CanAttach parent name)
    (hEnter : tree.enter viewer parent = .ok ()) :
    tree.step viewer parent name = .ok .nothing := by
  have hNamed := hCan.named
  unfold isEntryName at hNamed
  simp only [Bool.and_eq_true, bne_iff_ne,
    decide_eq_true_eq] at hNamed
  rcases hNamed with ⟨⟨⟨⟨⟨_, hHere⟩, hAbove⟩, _⟩, _⟩, hSize⟩
  unfold FileTree.step
  rw [hEnter]
  simp only [if_neg hHere, if_neg hAbove,
    if_neg (Nat.not_lt.mpr hSize), hCan.vacant]

/- A directory is made where its path ends. -/
theorem makeDirectory_eq_ok
    {path : Path}
    (hMake :
      tree.makeDirectory viewer path = .ok grown) :
    path.names ≠ [] ∧
      ∃ parent name,
        tree.resolve viewer path =
            .ok (.vacant parent name) ∧
          tree.attach? parent name (.directory .all) =
            some grown := by
  rcases path with ⟨anchor, names⟩
  unfold FileTree.makeDirectory at hMake
  unfold FileTree.resolve
  cases hAdmits : FileTree.admits ⟨anchor, names⟩ with
  | error fault => simp [hAdmits] at hMake
  | ok admitted =>
      simp only [hAdmits] at hMake ⊢
      cases names with
      | nil => contradiction
      | cons name above =>
          refine ⟨List.cons_ne_nil name above, ?_⟩
          simp only [Path.steps_cons] at hMake ⊢
          split at hMake
          · contradiction
          · contradiction
          rename_i parent node hParent
          split at hMake
          · contradiction
          rename_i hEnter
          split at hMake
          · contradiction
          split at hMake
          · contradiction
          split at hMake
          · contradiction
          split at hMake
          · split at hMake
            · split at hMake
              · rename_i whole hAttach
                injection hMake with hGrown
                have hCan := canAttach_of_attach? hAttach
                have hStep := step_eq_nothing hCan hEnter
                exact ⟨parent, name,
                  FileTree.follow_eq_vacant hParent hStep,
                  hGrown ▸ hAttach⟩
              · contradiction
            · contradiction
          · contradiction

/-
  A tree with new directories.  Each of them is where a path
  leads that is the given one or lies above it.
-/
def FileTree.MakesWay
    (before after : FileTree)
    (viewer : Viewer)
    (path : Path) :
    Prop :=
  ∀ location,
    after.node? location = before.node? location ∨
      before.node? location = none ∧
        ∃ ancestor trail,
          ancestor.names ≠ [] ∧
            ancestor.descend trail = path ∧
            after.resolve viewer ancestor =
              .ok (.present location (.directory .all))

namespace FileTree

variable {before middle after : FileTree}
variable {path : Path}

theorem MakesWay.refl
    (tree : FileTree)
    (viewer : Viewer)
    (path : Path) :
    MakesWay tree tree viewer path :=
  fun _ => .inl rfl

/- Nothing but directories is new. -/
theorem MakesWay.furnishes
    (hWay : MakesWay before after viewer path) :
    Furnishes before after := by
  intro location
  rcases hWay location with
    hKept | ⟨hNone, ancestor, trail, _, _, hMade⟩
  · exact .inl hKept
  · exact .inr ⟨hNone, node?_of_resolve hMade⟩

theorem MakesWay.trans
    (hFirst : MakesWay before middle viewer path)
    (hSecond : MakesWay middle after viewer path) :
    MakesWay before after viewer path := by
  intro location
  rcases hFirst location with
    hKept | ⟨hNone, ancestor, trail, hNamed, hPath, hMade⟩
  · rw [← hKept]
    exact hSecond location
  · exact .inr ⟨hNone, ancestor, trail, hNamed, hPath,
      hSecond.furnishes.extends.resolve_directory hMade⟩

/- What lies above a path lies above those below it. -/
theorem MakesWay.child
    (hWay : MakesWay before after viewer path)
    (name : Name) :
    MakesWay before after viewer (path.child name) := by
  intro location
  rcases hWay location with
    hKept | ⟨hNone, ancestor, trail, hNamed, hPath, hMade⟩
  · exact .inl hKept
  · refine .inr ⟨hNone, ancestor, trail ++ [name], hNamed,
      ?_, hMade⟩
    rw [Path.descend_append, hPath]
    rfl

end FileTree

/- Making a directory adds it where its path leads then. -/
theorem makeDirectory_makesWay
    {path : Path}
    (hMake :
      tree.makeDirectory viewer path = .ok grown) :
    FileTree.MakesWay tree grown viewer path := by
  rcases makeDirectory_eq_ok hMake with
    ⟨hNamed, parent, name, hPath, hAttach⟩
  rcases node?_of_attach? hAttach with ⟨hVacant, hGrown⟩
  have hExtends := (attach?_furnishes hAttach).extends
  intro location
  by_cases hHere : location = name :: parent
  · refine .inr ⟨hHere ▸ hVacant, path, [], hNamed, rfl, ?_⟩
    rw [hHere]
    exact hExtends.resolve_eq_present hPath
      ((hGrown _).trans (if_pos rfl))
  · rw [hGrown, if_neg hHere]
    exact .inl rfl

/-
  Making directories that are needed adds directories, each
  where a path above leads then.
-/
theorem ensureDirectory_makesWay
    (viewer : Viewer)
    (anchor : Anchor)
    (tree : FileTree)
    (names : List Name) :
    FileTree.MakesWay tree
      (FileTree.ensureDirectory viewer anchor tree names).1
      viewer ⟨anchor, names⟩ := by
  induction names with
  | nil =>
      unfold FileTree.ensureDirectory
      split
      · rename_i grown hMake
        exact makeDirectory_makesWay hMake
      · exact .refl tree _ _
      · exact .refl tree _ _
  | cons name above ih =>
      -- What lies above the shorter path lies above this one.
      have hAbove := ih.child name
      unfold FileTree.ensureDirectory
      split
      · rename_i grown hMake
        exact makeDirectory_makesWay hMake
      · split
        · rename_i grown fault hEnsure
          rw [hEnsure] at hAbove
          exact hAbove
        · rename_i grown hEnsure
          rw [hEnsure] at hAbove
          split
          · rename_i whole hMake
            exact hAbove.trans (makeDirectory_makesWay hMake)
          · exact hAbove
          · exact hAbove
      · exact .refl tree _ _

------------------------------------------------------------
-- Written Files
------------------------------------------------------------

/-
  A store that was made of an earlier one.  It lists all the
  files that were written.
-/
structure Store.Extends (before after : Store) : Prop where
  tree : FileTree.Extends before.tree after.tree
  written :
    ∃ latest,
      after.written = before.written ++ latest ∧
        ∀ location ∈ latest, after.tree.HasFile location
  changed :
    ∀ location,
      after.tree.node? location ≠
          before.tree.node? location →
        after.tree.HasFile location →
          location ∈ after.written

namespace Store

variable {before middle after : Store}
variable {store : Store}

theorem Extends.refl (store : Store) :
    store.Extends store where
  tree := .refl store.tree
  written :=
    ⟨[], (List.append_nil _).symm, List.forall_mem_nil _⟩
  changed := fun _ hChanged => absurd rfl hChanged

/- What was written before is listed first. -/
theorem Extends.mem_written
    (hExtends : before.Extends after)
    {location : Location}
    (hWritten : location ∈ before.written) :
    location ∈ after.written := by
  rcases hExtends.written with ⟨latest, hLatest, _⟩
  rw [hLatest]
  exact List.mem_append_left latest hWritten

theorem Extends.trans
    (hFirst : before.Extends middle)
    (hSecond : middle.Extends after) :
    before.Extends after where
  tree := hFirst.tree.trans hSecond.tree
  written := by
    rcases hFirst.written with ⟨earlier, hEarlier, hFiles⟩
    rcases hSecond.written with ⟨later, hLater, hOthers⟩
    refine ⟨earlier ++ later, ?_, ?_⟩
    · rw [hLater, hEarlier, List.append_assoc]
    · intro location hLocation
      rcases List.mem_append.mp hLocation with
        hFile | hOther
      · exact (hFiles location hFile).extends hSecond.tree
      · exact hOthers location hOther
  changed := by
    intro location hChanged hFile
    by_cases hKept :
        after.tree.node? location =
          middle.tree.node? location
    · have hMiddle : middle.tree.HasFile location := by
        unfold FileTree.HasFile at hFile ⊢
        rw [← hKept]
        exact hFile
      rw [hKept] at hChanged
      exact hSecond.mem_written
        (hFirst.changed location hChanged hMiddle)
    · exact hSecond.changed location hKept hFile

/- New directories are not listed as written. -/
theorem extends_of_furnishes
    {grown : FileTree}
    (hFurnishes : FileTree.Furnishes store.tree grown) :
    store.Extends ⟨grown, store.written⟩ where
  tree := hFurnishes.extends
  written :=
    ⟨[], (List.append_nil _).symm, List.forall_mem_nil _⟩
  changed := by
    rintro location hChanged ⟨_, _, hFile⟩
    rcases hFurnishes location with hKept | ⟨_, hMade⟩
    · exact absurd hKept hChanged
    · have hSame := hFile.symm.trans hMade
      injection hSame with hSame
      contradiction

/- A file that is written is listed. -/
theorem extends_of_node?
    {grown : FileTree}
    {place : Location}
    {content : ByteArray}
    {permissions : Permissions}
    (hEntry :
      Rewritten (store.tree.node? place)
        (some (.file content permissions)))
    (hGrown :
      ∀ location,
        grown.node? location =
          if location = place then
            some (.file content permissions)
          else
            store.tree.node? location) :
    store.Extends ⟨grown, store.written ++ [place]⟩ where
  tree := by
    intro location
    rw [hGrown]
    split
    · rename_i hHere
      rw [hHere]
      exact .rewritten hEntry
    · exact .refl _
  written := by
    refine ⟨[place], rfl, ?_⟩
    intro location hLocation
    rw [List.mem_singleton.mp hLocation]
    refine ⟨content, permissions, ?_⟩
    rw [hGrown, if_pos rfl]
  changed := by
    intro location hChanged _
    rw [hGrown] at hChanged
    split at hChanged
    · rename_i hHere
      rw [hHere]
      exact List.mem_append_right _ List.mem_cons_self
    · exact absurd rfl hChanged

/-
  Overwriting a path leaves a file where the path ends, and
  all else as it was.
-/
theorem overwrite_eq_ok
    {path : Path}
    {bytes : ByteArray}
    (hOver :
      store.overwrite viewer path bytes = .ok after) :
    ∃ destination permissions,
      store.tree.resolve viewer path = .ok destination ∧
        Rewritten (store.tree.node? destination.location)
          (some (.file bytes permissions)) ∧
        (∀ location,
          after.tree.node? location =
            if location = destination.location then
              some (.file bytes permissions)
            else
              store.tree.node? location) ∧
        after.written =
          store.written ++ [destination.location] := by
  unfold overwrite at hOver
  split at hOver
  · contradiction
  · rename_i location old permissions hCreate
    have hPath := FileTree.resolve_of_resolveToCreate hCreate
    have hFile := FileTree.node?_of_resolve hPath
    split at hOver
    · injection hOver with hAfter
      rw [← hAfter]
      refine ⟨_, permissions, hPath, ?_,
        Slot.node?_setContent hFile bytes, rfl⟩
      exact hFile ▸ .replaced old bytes permissions
    · contradiction
  · contradiction
  · contradiction
  · rename_i parent name hCreate
    have hPath := FileTree.resolve_of_resolveToCreate hCreate
    split at hOver
    · split at hOver
      · split at hOver
        · rename_i grown hAttach
          injection hOver with hAfter
          rw [← hAfter]
          rcases node?_of_attach? hAttach with
            ⟨hVacant, hGrown⟩
          refine ⟨_, .all, hPath, ?_, hGrown, rfl⟩
          exact hVacant ▸ .created bytes .all
        · contradiction
      · contradiction
    · contradiction

/- Overwriting a file extends the store by it. -/
theorem overwrite_extends
    {path : Path}
    {bytes : ByteArray}
    (hOver :
      store.overwrite viewer path bytes = .ok after) :
    store.Extends after := by
  rcases overwrite_eq_ok hOver with
    ⟨destination, permissions, _, hEntry, hGrown, hWritten⟩
  rcases after with ⟨grown, written⟩
  simp only at hWritten hGrown
  rw [hWritten]
  exact extends_of_node? hEntry hGrown

------------------------------------------------------------
-- Requests to Save
------------------------------------------------------------

/- Write a file and the directories above it in any case. -/
def replace
    (store : Store)
    (viewer : Viewer)
    (path : Path)
    (content : ByteArray) :
    Store × Except Fault Bool :=
  match FileTree.ensureDirectory viewer path.anchor
      store.tree path.parent.names with
  | (grown, .error fault) =>
      (⟨grown, store.written⟩, .error fault)
  | (grown, .ok ()) =>
      let prepared : Store := ⟨grown, store.written⟩
      match prepared.overwrite viewer path content with
      | .error fault => (prepared, .error fault)
      | .ok final => (final, .ok true)

/- A file is replaced unless it is spared. -/
theorem save_eq
    (store : Store)
    (viewer : Viewer)
    (skipUnchanged : Bool)
    (path : Path)
    (content : String) :
    store.save viewer skipUnchanged path content =
      match
        if skipUnchanged then
          store.holds viewer path content.toUTF8
        else
          .ok false with
      | .error fault => (store, .error fault)
      | .ok true => (store, .ok false)
      | .ok false =>
          store.replace viewer path content.toUTF8 :=
  rfl

/- A request is refused, spares a file or replaces one. -/
theorem save_cases
    (store : Store)
    (viewer : Viewer)
    (skipUnchanged : Bool)
    (path : Path)
    (content : String) :
    (∃ fault,
        store.save viewer skipUnchanged path content =
          (store, .error fault)) ∨
      (skipUnchanged = true ∧
        store.holds viewer path content.toUTF8 =
          .ok true ∧
        store.save viewer skipUnchanged path content =
          (store, .ok false)) ∨
      (skipUnchanged = true →
          store.holds viewer path content.toUTF8 =
            .ok false) ∧
        store.save viewer skipUnchanged path content =
          store.replace viewer path content.toUTF8 := by
  rw [save_eq]
  cases skipUnchanged with
  | false => exact .inr (.inr ⟨nofun, rfl⟩)
  | true =>
      simp only [if_true]
      cases store.holds viewer path content.toUTF8 with
      | error fault => exact .inl ⟨fault, rfl⟩
      | ok same =>
          cases same with
          | true => exact .inr (.inl ⟨trivial, rfl, rfl⟩)
          | false => exact .inr (.inr ⟨fun _ => rfl, rfl⟩)

/- A file is replaced in directories that are made first. -/
theorem replace_cases
    (store : Store)
    (viewer : Viewer)
    (path : Path)
    (bytes : ByteArray) :
    ∃ grown : FileTree,
      store.tree.MakesWay grown viewer path.parent ∧
        ((∃ fault,
            store.replace viewer path bytes =
              (⟨grown, store.written⟩, .error fault)) ∨
          ∃ after,
            Store.overwrite ⟨grown, store.written⟩ viewer
                path bytes = .ok after ∧
              store.replace viewer path bytes =
                (after, .ok true)) := by
  have hWay :=
    ensureDirectory_makesWay viewer path.anchor store.tree
      path.parent.names
  unfold replace
  rcases hEnsure :
      FileTree.ensureDirectory viewer path.anchor
        store.tree path.parent.names with
    ⟨grown, answer⟩
  rw [hEnsure] at hWay
  refine ⟨grown, hWay, ?_⟩
  cases answer with
  | error fault => exact .inl ⟨fault, rfl⟩
  | ok made =>
      simp only
      cases Store.overwrite ⟨grown, store.written⟩ viewer
          path bytes with
      | error fault => exact .inl ⟨fault, rfl⟩
      | ok after => exact .inr ⟨after, rfl, rfl⟩

/- However a request to save ends, it extends the store. -/
theorem save_extends
    (store : Store)
    (viewer : Viewer)
    (skipUnchanged : Bool)
    (path : Path)
    (content : String) :
    store.Extends
      (store.save viewer skipUnchanged path content).1 := by
  rcases save_cases store viewer skipUnchanged path content
    with ⟨fault, hSave⟩ | ⟨_, _, hSave⟩ | ⟨_, hSave⟩
  · rw [hSave]
    exact .refl store
  · rw [hSave]
    exact .refl store
  · rcases replace_cases store viewer path content.toUTF8
      with
      ⟨grown, hWay, ⟨fault, hReplace⟩ |
        ⟨after, hOver, hReplace⟩⟩
    · rw [hSave, hReplace]
      exact extends_of_furnishes hWay.furnishes
    · rw [hSave, hReplace]
      exact (extends_of_furnishes hWay.furnishes).trans
        (overwrite_extends hOver)

end Store

end Disk

end Aggregation
