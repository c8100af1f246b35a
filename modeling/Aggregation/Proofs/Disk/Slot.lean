import Aggregation.Disk.Writing
import Aggregation.Proofs.Disk.Creation
import Aggregation.Proofs.Disk.Growth

/-
  Writing at a known entry of a directory.

  A slot is an entry of a directory that a viewer knows by a
  path.  Testing and writing a slot is a function of the
  entry alone: it depends on nothing else in the tree and
  changes nothing else.

  Key definitions include:
    * `Slot`
    * `Slot.reach`
    * `Slot.write`
    * `Store.ChangedAt`

  Key theorems include:
    * `Slot.resolve_path`
    * `Slot.test_path`
    * `Slot.save_path`
-/

------------------------------------------------------------
-- Slots
------------------------------------------------------------

namespace Aggregation

namespace Disk

/- A name under which a directory of a path has an entry. -/
structure Slot where
  directory : Path
  location : Location
  permissions : Permissions
  name : Name
  nonempty : name ≠ ""
  notHere : name ≠ "."
  notAbove : name ≠ ".."
  plain : '/' ∉ name.toList
  named : directory.name ≠ "."

namespace Slot

/- The path of a slot. -/
def path (slot : Slot) : Path :=
  slot.directory.child slot.name

/- The location of a slot. -/
def place (slot : Slot) : Location :=
  slot.name :: slot.location

/- A slot is in a tree if its directory is. -/
def IsIn
    (slot : Slot)
    (tree : FileTree)
    (viewer : Viewer) :
    Prop :=
  tree.resolve viewer slot.directory =
    .ok (.present slot.location
      (.directory slot.permissions))

/- Whether a viewer can look a slot up. -/
def reach (slot : Slot) (viewer : Viewer) :
    Except Fault Unit :=
  match FileTree.admits slot.path with
  | .error fault => .error fault
  | .ok () =>
      if viewer.may slot.permissions.search then
        if nameLimit < slot.name.utf8ByteSize then
          .error .nameTooLong
        else
          .ok ()
      else
        .error .denied

/- A test of the entry at a slot. -/
def test
    (slot : Slot)
    (viewer : Viewer)
    (accepts : Node → Bool)
    (entry : Option Node) :
    Except Fault Bool :=
  match slot.reach viewer with
  | .ok () => .ok (entry.any accepts)
  | .error fault =>
      if fault.meansAbsent then .ok false else .error fault

/- Whether the entry at a slot is a file of given bytes. -/
def holds
    (slot : Slot)
    (viewer : Viewer)
    (bytes : ByteArray)
    (entry : Option Node) :
    Except Fault Bool :=
  match slot.reach viewer with
  | .error fault =>
      if fault.meansAbsent then .ok false else .error fault
  | .ok () =>
      match entry with
      | some (.file old permissions) =>
          if viewer.may permissions.read then
            .ok (old == bytes)
          else
            .error .denied
      | _ => .ok false

/- The file that a write leaves at a slot, or its refusal. -/
def overwrite
    (slot : Slot)
    (viewer : Viewer)
    (bytes : ByteArray)
    (entry : Option Node) :
    Except Fault Node :=
  match slot.reach viewer with
  | .error fault => .error fault
  | .ok () =>
      match entry with
      | none =>
          if viewer.may slot.permissions.write then
            .ok (.file bytes .all)
          else
            .error .denied
      | some (.file _ permissions) =>
          if viewer.may permissions.write then
            .ok (.file bytes permissions)
          else
            .error .denied
      | some (.directory _) => .error .isDirectory
      | some (.link _) => .error .tooManyLinks

/-
  What a request to write makes of the entry at a slot, and
  whether it wrote.
-/
def write
    (slot : Slot)
    (viewer : Viewer)
    (skipUnchanged : Bool)
    (bytes : ByteArray)
    (entry : Option Node) :
    Option Node × Except Fault Bool :=
  let unchanged :=
    if skipUnchanged then
      slot.holds viewer bytes entry
    else
      .ok false
  match unchanged with
  | .error fault => (entry, .error fault)
  | .ok true => (entry, .ok false)
  | .ok false =>
      match slot.overwrite viewer bytes entry with
      | .error fault => (entry, .error fault)
      | .ok node => (some node, .ok true)

variable {slot : Slot}
variable {tree before after : FileTree}
variable {viewer : Viewer}

/- Growth keeps every slot. -/
theorem IsIn.grows
    (hSlot : slot.IsIn before viewer)
    (hGrows : FileTree.Grows before after) :
    slot.IsIn after viewer :=
  (hGrows.resolve_directory_iff _ _ _).mpr hSlot

------------------------------------------------------------
-- Answers at a Slot
------------------------------------------------------------

/- A slot that can be reached is looked up. -/
theorem resolve_path
    (hFree : tree.IsLinkFree)
    (hSlot : slot.IsIn tree viewer) :
    tree.resolve viewer slot.path =
      match slot.reach viewer with
      | .error fault => .error fault
      | .ok () =>
          match tree.node? slot.place with
          | none => .ok (.vacant slot.location slot.name)
          | some node => .ok (.present slot.place node) := by
  have hHome := FileTree.node?_of_resolve hSlot
  unfold path
  rw [FileTree.resolve_child hFree hSlot slot.notHere
    slot.notAbove]
  unfold reach path
  cases FileTree.admits (slot.directory.child slot.name) with
  | error fault => rfl
  | ok admitted =>
      simp only [FileTree.lookUp, FileTree.enter, hHome]
      by_cases hSearch :
          viewer.may slot.permissions.search = true
      · simp only [if_pos hSearch]
        split
        · rfl
        · rfl
      · simp only [if_neg hSearch]

/- A test of the path of a slot is one of its entry. -/
theorem test_path
    (hFree : tree.IsLinkFree)
    (hSlot : slot.IsIn tree viewer)
    (accepts : Node → Bool) :
    tree.test viewer slot.path accepts =
      slot.test viewer accepts (tree.node? slot.place) := by
  unfold FileTree.test FileTree.status test
  rw [resolve_path hFree hSlot]
  cases slot.reach viewer with
  | error fault => rfl
  | ok reached =>
      cases tree.node? slot.place with
      | none => rfl
      | some node => rfl

/- A slot is found with a node if it can be reached. -/
theorem status_path_eq_ok
    (hFree : tree.IsLinkFree)
    (hSlot : slot.IsIn tree viewer)
    (hReach : slot.reach viewer = .ok ())
    {node : Node}
    (hNode : tree.node? slot.place = some node) :
    tree.status viewer slot.path =
      .ok (slot.place, node) := by
  rw [FileTree.status_eq_ok_iff, resolve_path hFree hSlot,
    hReach]
  simp only [hNode]

/- A slot that can be reached can be named. -/
theorem isEntryName_of_reach
    (hReach : slot.reach viewer = .ok ()) :
    isEntryName slot.name = true := by
  unfold reach at hReach
  cases hAdmits : FileTree.admits slot.path with
  | error fault => simp [hAdmits] at hReach
  | ok admitted =>
      simp only [hAdmits] at hReach
      split at hReach
      · split at hReach
        · contradiction
        · rename_i hLength
          have hNull : slot.path.hasNull = false := by
            unfold FileTree.admits at hAdmits
            split at hAdmits
            · contradiction
            · rename_i hNull
              simpa using hNull
          have hName : '\x00' ∉ slot.name.toList := by
            have hNames : slot.path.names =
                slot.name :: slot.directory.names := rfl
            unfold Path.hasNull at hNull
            rw [hNames, List.any_cons, Bool.or_eq_false_iff]
              at hNull
            simpa using hNull.1
          simp [isEntryName, slot.nonempty, slot.notHere,
            slot.notAbove, slot.plain, hName,
            Nat.le_of_not_lt hLength]
      · contradiction

------------------------------------------------------------
-- Preparations for a Write
------------------------------------------------------------

/- A directory that a path leads to cannot be made again. -/
theorem makeDirectory_eq_exists
    {path : Path}
    {location : Location}
    {permissions : Permissions}
    (hPath :
      tree.resolve viewer path =
        .ok (.present location (.directory permissions)))
    (hNamed : path.name ≠ ".") :
    tree.makeDirectory viewer path = .error .exists := by
  rcases path with ⟨anchor, names⟩
  unfold FileTree.resolve at hPath
  unfold FileTree.makeDirectory
  cases hAdmits : FileTree.admits ⟨anchor, names⟩ with
  | error fault => simp [hAdmits] at hPath
  | ok admitted =>
      simp only [hAdmits] at hPath ⊢
      cases names with
      | nil => rfl
      | cons name above =>
          have hHere : name ≠ "." := hNamed
          simp only [Path.steps_cons] at hPath
          rcases FileTree.follow_dropLast hPath with
            ⟨parent, node, hParent⟩
          rcases FileTree.follow_append hParent with
            ⟨left, _, hRest⟩
          rcases FileTree.exists_follow_eq tree viewer left
            with ⟨atLink, hLeft⟩
          rw [hRest [name], hLeft,
            FileTree.followWith_cons] at hPath
          cases hStep : tree.step viewer parent name with
          | error fault => simp [hStep] at hPath
          | ok taken =>
              have hTaken : taken ≠ .nothing := by
                intro hNothing
                simp [hStep, hNothing] at hPath
              rcases FileTree.step_eq_ok hHere hTaken hStep
                with ⟨hEnter, hName⟩
              simp only [hParent, hEnter]
              rcases hName with
                hAbove | ⟨hLength, entry, hEntry⟩
              · rw [if_pos hAbove]
              · by_cases hAbove : name = ".."
                · rw [if_pos hAbove]
                · simp [hAbove, hLength, hEntry]

/- A directory that a path leads to needs not be made. -/
theorem ensureDirectory_eq_ok
    {path : Path}
    {location : Location}
    {permissions : Permissions}
    (hPath :
      tree.resolve viewer path =
        .ok (.present location (.directory permissions)))
    (hNamed : path.name ≠ ".") :
    FileTree.ensureDirectory viewer path.anchor tree
        path.names =
      (tree, .ok ()) := by
  have hMake := makeDirectory_eq_exists hPath hNamed
  have hDirectory :
      tree.isDirectory? viewer path = .ok true :=
    FileTree.isDirectory?_eq_true_iff.mpr
      ⟨location, permissions,
        FileTree.status_eq_ok_iff.mpr hPath⟩
  have hExcuse :
      tree.excuse viewer path .exists = .ok () := by
    simp [FileTree.excuse, hDirectory]
  rcases path with ⟨anchor, names⟩
  cases names with
  | nil =>
      simp only [FileTree.ensureDirectory, hMake, hExcuse]
  | cons name above =>
      simp only [FileTree.ensureDirectory, hMake, hExcuse]

/- Whether a slot holds given bytes shows in its entry. -/
theorem holds_path
    {store : Store}
    (hFree : store.tree.IsLinkFree)
    (hSlot : slot.IsIn store.tree viewer)
    (bytes : ByteArray) :
    store.holds viewer slot.path bytes =
      slot.holds viewer bytes
        (store.tree.node? slot.place) := by
  unfold Store.holds FileTree.isFile?
  rw [test_path hFree hSlot]
  unfold test holds
  cases hReach : slot.reach viewer with
  | error fault =>
      cases hAbsent : fault.meansAbsent with
      | true => simp [hAbsent]
      | false => simp [hAbsent]
  | ok reached =>
      cases hEntry : store.tree.node? slot.place with
      | none => rfl
      | some node =>
          cases node with
          | directory permissions => rfl
          | link target => rfl
          | file old permissions =>
              have hStatus :=
                status_path_eq_ok hFree hSlot hReach hEntry
              simp only [Option.any_some, Node.isFile,
                FileTree.read, hStatus]
              split
              · rfl
              · rfl

end Slot

------------------------------------------------------------
-- Writes at a Slot
------------------------------------------------------------

/-
  A store that differs from an earlier one in one entry, and
  in whether that was written.
-/
structure Store.ChangedAt
    (before after : Store)
    (place : Location)
    (entry : Option Node)
    (wrote : Bool) :
    Prop where
  here : after.tree.node? place = entry
  others :
    ∀ location, location ≠ place →
      after.tree.node? location =
        before.tree.node? location
  written :
    after.written =
      before.written ++ if wrote then [place] else []

/- Whether a request to write has written. -/
def hasWritten : Except Fault Bool → Bool
  | .ok true => true
  | _ => false

namespace Slot

variable {slot : Slot}
variable {store : Store}
variable {viewer : Viewer}

/- What a directory can take is attached. -/
theorem attach?_eq_some
    {tree : FileTree}
    {parent : Location}
    {name : String}
    (hCan : tree.CanAttach parent name)
    (node : Node) :
    tree.attach? parent name node =
      some (tree.attach parent name node hCan) := by
  rcases hCan.inside with ⟨permissions, hInside⟩
  unfold FileTree.attach?
  split
  · rw [dif_pos hCan.named]
  · rename_i hOther
    exact absurd hCan.vacant (hOther permissions hInside)

/- Setting the content of a file changes that file only. -/
theorem node?_setContent
    {tree : FileTree}
    {place : Location}
    {old : ByteArray}
    {permissions : Permissions}
    (hFile :
      tree.node? place = some (.file old permissions))
    (bytes : ByteArray)
    (location : Location) :
    (tree.setContent place bytes).node? location =
      if location = place then
        some (.file bytes permissions)
      else
        tree.node? location := by
  have hAdjust :
      (tree.setContent place bytes).node? location =
        (tree.node? location).map fun node =>
          if location = place then
            node.withContent bytes
          else
            node :=
    tree.node?_adjust place (Node.withContent bytes) _
      location
  rw [hAdjust]
  by_cases hHere : location = place
  · rw [hHere, hFile]
    simp [Node.withContent]
  · simp [hHere]

/- A new entry shows in the store. -/
theorem changedAt_of_node?
    {grown : FileTree}
    {place : Location}
    {node : Node}
    (hGrown :
      ∀ location,
        grown.node? location =
          if location = place then some node
          else store.tree.node? location) :
    store.ChangedAt ⟨grown, store.written ++ [place]⟩ place
      (some node) true where
  here := by rw [hGrown, if_pos rfl]
  others := by
    intro location hOther
    rw [hGrown, if_neg hOther]
  written := rfl

/- Overwriting at a slot depends on its entry only. -/
theorem overwrite_path
    (hFree : store.tree.IsLinkFree)
    (hSlot : slot.IsIn store.tree viewer)
    (bytes : ByteArray) :
    match slot.overwrite viewer bytes
        (store.tree.node? slot.place) with
    | .error fault =>
        store.overwrite viewer slot.path bytes =
          .error fault
    | .ok node =>
        ∃ after,
          store.overwrite viewer slot.path bytes =
              .ok after ∧
            store.ChangedAt after slot.place (some node)
              true := by
  have hHome := FileTree.node?_of_resolve hSlot
  have hPath := resolve_path hFree hSlot
  have hName : slot.path.name ≠ "." := slot.notHere
  rw [← hFree.isUnslashed.resolveToCreate_eq hName] at hPath
  unfold overwrite
  cases hReach : slot.reach viewer with
  | error fault =>
      rw [hReach] at hPath
      simp only [Store.overwrite, hPath]
  | ok reached =>
      rw [hReach] at hPath
      cases hEntry : store.tree.node? slot.place with
      | none =>
          simp only [hEntry] at hPath
          have hCan :
              store.tree.CanAttach slot.location slot.name :=
            ⟨isEntryName_of_reach hReach,
              ⟨slot.permissions, hHome⟩, hEntry⟩
          by_cases hMay :
              viewer.may slot.permissions.write = true
          · simp only [if_pos hMay, Store.overwrite, hPath,
              hHome, attach?_eq_some hCan]
            exact ⟨_, rfl, changedAt_of_node?
              (store.tree.node?_attach _ _ _ hCan)⟩
          · simp only [if_neg hMay, Store.overwrite, hPath,
              hHome]
      | some node =>
          simp only [hEntry] at hPath
          cases node with
          | directory permissions =>
              simp only [Store.overwrite, hPath]
          | link target =>
              simp only [Store.overwrite, hPath]
          | file old permissions =>
              by_cases hMay :
                  viewer.may permissions.write = true
              · simp only [if_pos hMay, Store.overwrite,
                  hPath]
                exact ⟨_, rfl, changedAt_of_node?
                  (node?_setContent hEntry bytes)⟩
              · simp only [if_neg hMay, Store.overwrite,
                  hPath]

/- A store that is left alone keeps every entry. -/
theorem changedAt_refl
    (store : Store)
    (place : Location) :
    store.ChangedAt store place (store.tree.node? place)
      false where
  here := rfl
  others := fun _ _ => rfl
  written := by simp

/-
  A request to write a slot does to the store what it does
  to the entry, and has the same outcome.
-/
theorem save_path
    (hFree : store.tree.IsLinkFree)
    (hSlot : slot.IsIn store.tree viewer)
    (skipUnchanged : Bool)
    (content : String) :
    let result :=
      slot.write viewer skipUnchanged content.toUTF8
        (store.tree.node? slot.place)
    let saved :=
      store.save viewer skipUnchanged slot.path content
    saved.2 = result.2 ∧
      store.ChangedAt saved.1 slot.place result.1
        (hasWritten result.2) := by
  have hHolds := holds_path hFree hSlot content.toUTF8
  have hOver := overwrite_path hFree hSlot content.toUTF8
  have hEnsure := ensureDirectory_eq_ok hSlot slot.named
  have hParent : slot.path.parent = slot.directory := rfl
  have hAnchor : slot.path.anchor = slot.directory.anchor :=
    rfl
  simp only [write, Store.save, hHolds, hParent, hAnchor,
    hEnsure]
  generalize
    (if skipUnchanged = true then
      slot.holds viewer content.toUTF8
        (store.tree.node? slot.place)
    else .ok false) = unchanged
  cases unchanged with
  | error fault => exact ⟨rfl, changedAt_refl store _⟩
  | ok same =>
      cases same with
      | true => exact ⟨rfl, changedAt_refl store _⟩
      | false =>
          generalize
            slot.overwrite viewer content.toUTF8
              (store.tree.node? slot.place) = result
            at hOver ⊢
          cases result with
          | error fault =>
              simp only at hOver
              simp only [hOver]
              exact ⟨trivial, changedAt_refl store _⟩
          | ok node =>
              rcases hOver with ⟨after, hAfter, hChanged⟩
              simp only [hAfter]
              exact ⟨trivial, hChanged⟩

end Slot

end Disk

end Aggregation
