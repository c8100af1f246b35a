import Aggregation.Proofs.Disk.Resolution

/-
  Trees that grow by files.

  A tree grows if files are added to it or rewritten, and
  all else stays.  Growth never changes whether and where a
  path leads to a directory.

  Key definitions include:
    * `Rewritten`
    * `FileTree.Grows`
    * `FileTree.HasFile`
    * `directoryAt`

  Key theorems include:
    * `FileTree.directoryAt_follow`
    * `FileTree.Grows.directoryAt_resolve`
    * `FileTree.Grows.resolve_directory_iff`
    * `FileTree.Grows.resolve_child_eq`
    * `FileTree.Grows.isDirectory?_eq`
-/

------------------------------------------------------------
-- Growth
------------------------------------------------------------

namespace Aggregation

namespace Disk

/- What writing files can make of one location. -/
inductive Rewritten : Option Node → Option Node → Prop where
  | kept (entry : Option Node) : Rewritten entry entry
  | created (content : ByteArray) (permissions : Permissions) :
      Rewritten none (some (.file content permissions))
  | replaced
      (old new : ByteArray)
      (permissions : Permissions) :
      Rewritten (some (.file old permissions))
        (some (.file new permissions))

/- A location is kept, or a file is written there. -/
theorem Rewritten.eq_or_file
    {before after : Option Node}
    (hRewritten : Rewritten before after) :
    after = before ∨
      (before = none ∨
          ∃ old permissions,
            before = some (.file old permissions)) ∧
        ∃ content permissions,
          after = some (.file content permissions) := by
  cases hRewritten with
  | kept => exact .inl rfl
  | created content permissions =>
      exact .inr ⟨.inl rfl, content, permissions, rfl⟩
  | replaced old new permissions =>
      exact .inr
        ⟨.inr ⟨old, permissions, rfl⟩, new, permissions, rfl⟩

theorem Rewritten.trans
    {before middle after : Option Node}
    (hFirst : Rewritten before middle)
    (hSecond : Rewritten middle after) :
    Rewritten before after := by
  cases hFirst with
  | kept => exact hSecond
  | created content permissions =>
      cases hSecond with
      | kept => exact .created _ _
      | replaced old new => exact .created _ _
  | replaced old new permissions =>
      cases hSecond with
      | kept => exact .replaced _ _ _
      | replaced _ newer => exact .replaced _ _ _

/- A directory is never made, changed or removed. -/
theorem Rewritten.directory_iff
    {before after : Option Node}
    (hRewritten : Rewritten before after)
    (permissions : Permissions) :
    after = some (.directory permissions) ↔
      before = some (.directory permissions) := by
  cases hRewritten with
  | kept => exact .rfl
  | created => simp
  | replaced => simp

/- A link is never made, changed or removed. -/
theorem Rewritten.link_iff
    {before after : Option Node}
    (hRewritten : Rewritten before after)
    (target : String) :
    after = some (.link target) ↔
      before = some (.link target) := by
  cases hRewritten with
  | kept => exact .rfl
  | created => simp
  | replaced => simp

namespace FileTree

variable {before middle after : FileTree}
variable {viewer : Viewer}

/- Every location of a tree is kept or written as a file. -/
def Grows (before after : FileTree) : Prop :=
  ∀ location,
    Rewritten (before.node? location)
      (after.node? location)

theorem Grows.refl (tree : FileTree) : Grows tree tree :=
  fun _ => .kept _

theorem Grows.trans
    (hFirst : Grows before middle)
    (hSecond : Grows middle after) :
    Grows before after :=
  fun location =>
    (hFirst location).trans (hSecond location)

theorem Grows.isLinkFree
    (hGrows : Grows before after)
    (hFree : before.IsLinkFree) :
    after.IsLinkFree := by
  intro location target hLink
  exact hFree location target
    (((hGrows location).link_iff target).mp hLink)

/- There is a file at a location. -/
def HasFile (tree : FileTree) (location : Location) :
    Prop :=
  ∃ content permissions,
    tree.node? location = some (.file content permissions)

/- Files stay files while others are written. -/
theorem HasFile.grows
    {location : Location}
    (hFile : before.HasFile location)
    (hGrows : Grows before after) :
    after.HasFile location := by
  rcases (hGrows location).eq_or_file with
    hKept | ⟨_, hWritten⟩
  · unfold HasFile
    rw [hKept]
    exact hFile
  · exact hWritten

end FileTree

------------------------------------------------------------
-- Directories of a Growing Tree
------------------------------------------------------------

/-
  The directory that an answer stands for.  Anything else
  that is there, or nothing, is no directory.
-/
def directoryAt :
    Except Fault Destination →
      Except Fault (Option (Location × Permissions))
  | .ok (.present location (.directory permissions)) =>
      .ok (some (location, permissions))
  | .ok _ => .ok none
  | .error fault =>
      if fault.meansAbsent then .ok none else .error fault

/- Only a directory is taken for one. -/
theorem directoryAt_eq_some_iff
    {answer : Except Fault Destination}
    {location : Location}
    {permissions : Permissions} :
    directoryAt answer =
        .ok (some (location, permissions)) ↔
      answer =
        .ok (.present location (.directory permissions)) := by
  cases answer with
  | error fault =>
      unfold directoryAt
      cases hAbsent : fault.meansAbsent with
      | true => simp [hAbsent]
      | false => simp [hAbsent]
  | ok destination =>
      cases destination with
      | vacant parent name => simp [directoryAt]
      | present reached node =>
          cases node with
          | directory others => simp [directoryAt]
          | file content others => simp [directoryAt]
          | link target => simp [directoryAt]

namespace FileTree

variable {before after : FileTree}
variable {viewer : Viewer}

/- Nothing can be entered where no directory is. -/
theorem directoryAt_followWith_blocked
    {tree : FileTree}
    {location : Location}
    (hBlocked :
      tree.node? location = none ∨
        ∃ content permissions,
          tree.node? location =
            some (.file content permissions))
    (atLink :
      Location → List String →
        Except Fault Destination)
    (names : List String) :
    directoryAt
        (tree.followWith viewer atLink location names) =
      .ok none := by
  rcases hBlocked with hNone | ⟨content, permissions, hFile⟩
  · cases names with
    | nil => simp [followWith, hNone, directoryAt,
        Fault.meansAbsent]
    | cons name names =>
        simp [followWith, enter, hNone, directoryAt,
          Fault.meansAbsent]
  · cases names with
    | nil => simp [followWith, hFile, directoryAt]
    | cons name names =>
        simp [followWith, enter, hFile, directoryAt,
          Fault.meansAbsent]

/-
  Growth changes a step only where a file is created that
  was not there.
-/
theorem Grows.step_eq_or_created
    (hGrows : Grows before after)
    (viewer : Viewer)
    {location : Location}
    (hHere : after.node? location = before.node? location)
    (name : String) :
    after.step viewer location name =
        before.step viewer location name ∨
      before.step viewer location name = .ok .nothing ∧
        after.step viewer location name =
          .ok (.onward (name :: location)) ∧
        ∃ content permissions,
          after.node? (name :: location) =
            some (.file content permissions) := by
  unfold step enter
  rw [hHere]
  rcases (hGrows (name :: location)).eq_or_file with
    hKept | ⟨hBefore, content, permissions, hFile⟩
  · left
    rw [hKept]
  · rcases hBefore with hNone | ⟨old, others, hOld⟩
    · rw [hNone, hFile]
      split
      · exact .inl rfl
      · split
        · exact .inl rfl
        · split
          · exact .inl rfl
          · split
            · exact .inl rfl
            · exact .inr ⟨rfl, rfl, content, permissions,
                rfl⟩
    · left
      rw [hOld, hFile]

/-
  Growth does not change where names lead to a directory,
  given that it does not for the targets of links.
-/
theorem directoryAt_followWith
    (hGrows : Grows before after)
    {atLinkBefore atLinkAfter :
      Location → List String →
        Except Fault Destination}
    (hAtLink :
      ∀ start names,
        directoryAt (atLinkAfter start names) =
          directoryAt (atLinkBefore start names))
    (location : Location)
    (names : List String) :
    directoryAt
        (after.followWith viewer atLinkAfter location
          names) =
      directoryAt
        (before.followWith viewer atLinkBefore location
          names) := by
  induction names generalizing location with
  | nil =>
      rcases (hGrows location).eq_or_file with
        hSame | ⟨hOld, hNew⟩
      · unfold followWith
        rw [hSame]
      · rw [directoryAt_followWith_blocked hOld,
          directoryAt_followWith_blocked (.inr hNew)]
  | cons name names ih =>
      rcases (hGrows location).eq_or_file with
        hSame | ⟨hOld, hNew⟩
      · rw [followWith_cons, followWith_cons]
        rcases hGrows.step_eq_or_created viewer hSame name
          with
          hStep | ⟨hBefore, hAfter, hFile⟩
        · rw [hStep]
          cases before.step viewer location name with
          | error fault => rfl
          | ok taken =>
              cases taken with
              | onward next => exact ih next
              | linked target => exact hAtLink _ _
              | nothing => rfl
        · rw [hBefore, hAfter]
          simp only
          rw [directoryAt_followWith_blocked (.inr hFile)]
          split
          · rfl
          · rfl
      · rw [directoryAt_followWith_blocked hOld,
          directoryAt_followWith_blocked (.inr hNew)]

/- Growth does not change where names lead to a directory. -/
theorem directoryAt_follow
    (hGrows : Grows before after)
    (links : Nat)
    (location : Location)
    (names : List String) :
    directoryAt (after.follow viewer links location names) =
      directoryAt
        (before.follow viewer links location names) := by
  induction links generalizing location names with
  | zero =>
      exact directoryAt_followWith hGrows
        (fun _ _ => rfl) location names
  | succ links ih =>
      exact directoryAt_followWith hGrows ih location names

/- Growth does not change where paths lead to directories. -/
theorem Grows.directoryAt_resolve
    (hGrows : Grows before after)
    (path : Path) :
    directoryAt (after.resolve viewer path) =
      directoryAt (before.resolve viewer path) := by
  unfold resolve
  cases admits path with
  | error fault => rfl
  | ok admitted => exact directoryAt_follow hGrows _ _ _

/- A path leads to a directory before and after growth. -/
theorem Grows.resolve_directory_iff
    (hGrows : Grows before after)
    (path : Path)
    (location : Location)
    (permissions : Permissions) :
    after.resolve viewer path =
        .ok (.present location (.directory permissions)) ↔
      before.resolve viewer path =
        .ok (.present location (.directory permissions)) := by
  rw [← directoryAt_eq_some_iff, ← directoryAt_eq_some_iff,
    hGrows.directoryAt_resolve]

/-
  Without links, growth shows at one more name of a path only
  if it shows in the entry of that name.
-/
theorem Grows.resolve_child_eq
    (hGrows : Grows before after)
    (hFree : before.IsLinkFree)
    {path : Path}
    {location : Location}
    {permissions : Permissions}
    (hPath :
      before.resolve viewer path =
        .ok (.present location (.directory permissions)))
    {name : Name}
    (hNe : name ≠ "." ∧ name ≠ "..")
    (hEntry :
      after.node? (name :: location) =
        before.node? (name :: location)) :
    after.resolve viewer (path.child name) =
      before.resolve viewer (path.child name) := by
  have hPathAfter :=
    (hGrows.resolve_directory_iff path location
      permissions).mpr hPath
  have hEnter :
      after.enter viewer location =
        before.enter viewer location := by
    unfold enter
    rw [node?_of_resolve hPathAfter, node?_of_resolve hPath]
  rw [resolve_child (hGrows.isLinkFree hFree) hPathAfter
      hNe.1 hNe.2,
    resolve_child hFree hPath hNe.1 hNe.2]
  unfold lookUp
  rw [hEnter, hEntry]

/- The test for a directory asks where a path leads. -/
theorem isDirectory?_eq
    (tree : FileTree)
    (viewer : Viewer)
    (path : Path) :
    tree.isDirectory? viewer path =
      (directoryAt (tree.resolve viewer path)).map
        Option.isSome := by
  unfold isDirectory? test status
  cases tree.resolve viewer path with
  | error fault =>
      simp only [directoryAt]
      cases fault.meansAbsent with
      | true => rfl
      | false => rfl
  | ok destination =>
      cases destination with
      | vacant parent name => rfl
      | present location node =>
          cases node with
          | file content permissions => rfl
          | directory permissions => rfl
          | link target => rfl

/- Growth does not change which paths are directories. -/
theorem Grows.isDirectory?_eq
    (hGrows : Grows before after)
    (path : Path) :
    after.isDirectory? viewer path =
      before.isDirectory? viewer path := by
  rw [FileTree.isDirectory?_eq, FileTree.isDirectory?_eq,
    hGrows.directoryAt_resolve]

end FileTree

end Disk

end Aggregation
