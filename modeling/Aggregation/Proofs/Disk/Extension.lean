import Aggregation.Proofs.Disk.Slot

/-
  Trees to which files and directories are added.

  A location of a tree is kept, or a file is written there,
  or a directory is made.  A path ends where it did then, at
  whatever is there, and one that leads to a directory still
  does so.

  Key definitions include:
    * `Extended`
    * `FileTree.Extends`
    * `FileTree.Furnishes`

  Key theorems include:
    * `FileTree.Extends.resolve_eq_present`
    * `FileTree.Extends.resolve_directory`
    * `FileTree.HasFile.extends`
-/

------------------------------------------------------------
-- Extensions
------------------------------------------------------------

namespace Aggregation

namespace Disk

/- Where a path ends, whether or not something is there. -/
def Destination.location : Destination → Location
  | .present location _ => location
  | .vacant parent name => name :: parent

/- What a request to write can make of one location. -/
inductive Extended : Option Node → Option Node → Prop where
  | rewritten
      {before after : Option Node}
      (hRewritten : Rewritten before after) :
      Extended before after
  | made : Extended none (some (.directory .all))

theorem Extended.refl (entry : Option Node) :
    Extended entry entry :=
  .rewritten (.kept entry)

theorem Extended.trans
    {before middle after : Option Node}
    (hFirst : Extended before middle)
    (hSecond : Extended middle after) :
    Extended before after := by
  cases hSecond with
  | made =>
      cases hFirst with
      | rewritten hRewritten =>
          cases hRewritten with
          | kept => exact .made
  | rewritten hRewritten =>
      cases hFirst with
      | rewritten hEarlier =>
          exact .rewritten (hEarlier.trans hRewritten)
      | made =>
          cases hRewritten with
          | kept => exact .made

namespace FileTree

variable {before middle after : FileTree}
variable {viewer : Viewer}

/- A tree to which files and directories may be added. -/
def Extends (before after : FileTree) : Prop :=
  ∀ location,
    Extended (before.node? location)
      (after.node? location)

/- A tree to which only directories may be added. -/
def Furnishes (before after : FileTree) : Prop :=
  ∀ location,
    after.node? location = before.node? location ∨
      before.node? location = none ∧
        after.node? location = some (.directory .all)

theorem Extends.refl (tree : FileTree) :
    Extends tree tree :=
  fun _ => .refl _

theorem Extends.trans
    (hFirst : Extends before middle)
    (hSecond : Extends middle after) :
    Extends before after :=
  fun location =>
    (hFirst location).trans (hSecond location)

theorem Furnishes.refl (tree : FileTree) :
    Furnishes tree tree :=
  fun _ => .inl rfl

theorem Furnishes.trans
    (hFirst : Furnishes before middle)
    (hSecond : Furnishes middle after) :
    Furnishes before after := by
  intro location
  rcases hSecond location with hKept | ⟨hNone, hMade⟩
  · rw [hKept]
    exact hFirst location
  · rcases hFirst location with hSame | ⟨_, hOther⟩
    · exact .inr ⟨hSame ▸ hNone, hMade⟩
    · rw [hNone] at hOther
      contradiction

theorem Furnishes.extends
    (hFurnishes : Furnishes before after) :
    Extends before after := by
  intro location
  rcases hFurnishes location with hKept | ⟨hNone, hMade⟩
  · rw [hKept]
    exact .refl _
  · rw [hNone, hMade]
    exact .made

/- What is no link stays so, and links stay as they are. -/
theorem Extends.node?_of_some
    (hExtends : Extends before after)
    {location : Location}
    {node : Node}
    (hNode : before.node? location = some node) :
    after.node? location = some node ∨
      ∃ old new permissions,
        node = .file old permissions ∧
          after.node? location =
            some (.file new permissions) := by
  have hEntry := hExtends location
  rw [hNode] at hEntry
  generalize after.node? location = entry at hEntry ⊢
  cases hEntry with
  | rewritten hRewritten =>
      cases hRewritten with
      | kept => exact .inl rfl
      | replaced old new permissions =>
          exact .inr ⟨old, new, permissions, rfl, rfl⟩

/- Directories are kept. -/
theorem Extends.directory
    (hExtends : Extends before after)
    {location : Location}
    {permissions : Permissions}
    (hDirectory :
      before.node? location =
        some (.directory permissions)) :
    after.node? location =
      some (.directory permissions) := by
  rcases hExtends.node?_of_some hDirectory with
    hKept | ⟨_, _, _, hFile, _⟩
  · exact hKept
  · contradiction

theorem Extends.enter_eq_ok
    (hExtends : Extends before after)
    {location : Location}
    (hEnter : before.enter viewer location = .ok ()) :
    after.enter viewer location = .ok () := by
  unfold enter at hEnter ⊢
  split at hEnter
  · rename_i permissions hHere
    rw [hExtends.directory hHere]
    exact hEnter
  · contradiction
  · contradiction

/- A name that leads on does so in an extended tree. -/
theorem Extends.step_eq_ok
    (hExtends : Extends before after)
    {location : Location}
    {name : String}
    {taken : Step}
    (hStep : before.step viewer location name = .ok taken)
    (hTaken : taken ≠ .nothing) :
    after.step viewer location name = .ok taken := by
  unfold step at hStep ⊢
  cases hEnter : before.enter viewer location with
  | error fault => simp [hEnter] at hStep
  | ok entered =>
      rw [hExtends.enter_eq_ok hEnter]
      simp only [hEnter] at hStep ⊢
      split
      · rename_i hHere
        rw [if_pos hHere] at hStep
        exact hStep
      rename_i hHere
      rw [if_neg hHere] at hStep
      split
      · rename_i hAbove
        rw [if_pos hAbove] at hStep
        exact hStep
      rename_i hAbove
      rw [if_neg hAbove] at hStep
      split
      · rename_i hLong
        rw [if_pos hLong] at hStep
        contradiction
      rename_i hLong
      rw [if_neg hLong] at hStep
      cases hNext : before.node? (name :: location) with
      | none =>
          rw [hNext] at hStep
          injection hStep with hNothing
          exact absurd hNothing.symm hTaken
      | some next =>
          rw [hNext] at hStep
          rcases hExtends.node?_of_some hNext with
            hKept | ⟨_, _, _, hOld, hNew⟩
          · rw [hKept]
            exact hStep
          · rw [hOld] at hStep
            rw [hNew]
            exact hStep

/- No links are added. -/
theorem Extends.node?_of_link
    (hExtends : Extends before after)
    {location : Location}
    {target : String}
    (hLink :
      after.node? location = some (.link target)) :
    before.node? location = some (.link target) := by
  have hEntry := hExtends location
  rw [hLink] at hEntry
  generalize before.node? location = entry at hEntry ⊢
  cases hEntry with
  | rewritten hRewritten =>
      exact (hRewritten.link_iff target).mp rfl

/- A name of nothing leads to what is put there. -/
theorem Extends.step_eq_onward
    (hExtends : Extends before after)
    {location : Location}
    {name : String}
    {node : Node}
    (hStep : before.step viewer location name = .ok .nothing)
    (hNode : after.node? (name :: location) = some node) :
    after.step viewer location name =
      .ok (.onward (name :: location)) := by
  unfold step at hStep ⊢
  cases hEnter : before.enter viewer location with
  | error fault => simp [hEnter] at hStep
  | ok entered =>
      rw [hExtends.enter_eq_ok hEnter]
      simp only [hEnter] at hStep ⊢
      split at hStep
      · simp at hStep
      split at hStep
      · simp at hStep
      split at hStep
      · contradiction
      rename_i hHere hAbove hLong
      rw [if_neg hHere, if_neg hAbove, if_neg hLong, hNode]
      cases node with
      | file content permissions => rfl
      | directory permissions => rfl
      | link target =>
          rw [hExtends.node?_of_link hNode] at hStep
          simp at hStep

/-
  Names end where they did, at what is there in an extended
  tree, given that the targets of links do.
-/
theorem Extends.followWith_eq_present
    (hExtends : Extends before after)
    {atLinkBefore atLinkAfter :
      Location → List String →
        Except Fault Destination}
    {reached : Location}
    {node : Node}
    (hNode : after.node? reached = some node)
    (hAtLink :
      ∀ start names destination,
        atLinkBefore start names = .ok destination →
          destination.location = reached →
            atLinkAfter start names =
              .ok (.present reached node))
    {location : Location}
    {names : List String}
    {destination : Destination}
    (hFollow :
      before.followWith viewer atLinkBefore location names =
        .ok destination)
    (hReached : destination.location = reached) :
    after.followWith viewer atLinkAfter location names =
      .ok (.present reached node) := by
  induction names generalizing location with
  | nil =>
      unfold followWith at hFollow ⊢
      split at hFollow
      · injection hFollow with hFollow
        rw [← hFollow] at hReached
        have hHere : location = reached := hReached
        rw [hHere, hNode]
      · contradiction
  | cons name names ih =>
      rw [followWith_cons] at hFollow ⊢
      cases hStep : before.step viewer location name with
      | error fault => simp [hStep] at hFollow
      | ok taken =>
          simp only [hStep] at hFollow
          cases taken with
          | nothing =>
              -- The last name leads to what was put there.
              simp only at hFollow
              split at hFollow
              · rename_i hLast
                injection hFollow with hFollow
                rw [← hFollow] at hReached
                have hHere : name :: location = reached :=
                  hReached
                rw [hExtends.step_eq_onward hStep
                  (hHere ▸ hNode), hLast, hHere]
                simp only [followWith, hNode]
              · contradiction
          | onward next =>
              rw [hExtends.step_eq_ok hStep (by simp)]
              exact ih hFollow
          | linked target =>
              rw [hExtends.step_eq_ok hStep (by simp)]
              exact hAtLink _ _ _ hFollow hReached

theorem Extends.follow_eq_present
    (hExtends : Extends before after)
    {links : Nat}
    {location : Location}
    {names : List String}
    {destination : Destination}
    {node : Node}
    (hFollow :
      before.follow viewer links location names =
        .ok destination)
    (hNode :
      after.node? destination.location = some node) :
    after.follow viewer links location names =
      .ok (.present destination.location node) := by
  induction links generalizing location names
      destination with
  | zero =>
      refine hExtends.followWith_eq_present hNode ?_ hFollow
        rfl
      intro start others there hNone
      contradiction
  | succ links ih =>
      refine hExtends.followWith_eq_present hNode ?_ hFollow
        rfl
      intro start others there hThere hReached
      rw [← hReached]
      exact ih hThere (hReached ▸ hNode)

/- A path ends where it did, at what is there then. -/
theorem Extends.resolve_eq_present
    (hExtends : Extends before after)
    {path : Path}
    {destination : Destination}
    {node : Node}
    (hPath : before.resolve viewer path = .ok destination)
    (hNode :
      after.node? destination.location = some node) :
    after.resolve viewer path =
      .ok (.present destination.location node) := by
  unfold resolve at hPath ⊢
  cases hAdmits : admits path with
  | error fault => simp [hAdmits] at hPath
  | ok admitted =>
      simp only [hAdmits] at hPath ⊢
      exact hExtends.follow_eq_present hPath hNode

/- A path that leads to a node leads there still. -/
theorem Extends.resolve_present
    (hExtends : Extends before after)
    {path : Path}
    {reached : Location}
    {node : Node}
    (hPath :
      before.resolve viewer path =
        .ok (.present reached node)) :
    ∃ other,
      after.resolve viewer path =
        .ok (.present reached other) := by
  rcases hExtends.node?_of_some (node?_of_resolve hPath)
    with hKept | ⟨_, new, others, _, hNew⟩
  · exact ⟨node, hExtends.resolve_eq_present hPath hKept⟩
  · exact ⟨.file new others,
      hExtends.resolve_eq_present hPath hNew⟩

/- A path that leads to a directory still leads there. -/
theorem Extends.resolve_directory
    (hExtends : Extends before after)
    {path : Path}
    {location : Location}
    {permissions : Permissions}
    (hPath :
      before.resolve viewer path =
        .ok (.present location (.directory permissions))) :
    after.resolve viewer path =
      .ok (.present location (.directory permissions)) :=
  hExtends.resolve_eq_present hPath
    (hExtends.directory (node?_of_resolve hPath))

theorem Extends.leadsToDirectory
    (hExtends : Extends before after)
    {path : Path}
    (hPath : before.LeadsToDirectory viewer path) :
    after.LeadsToDirectory viewer path := by
  rcases hPath with ⟨location, permissions, hStatus⟩
  refine ⟨location, permissions, ?_⟩
  rw [status_eq_ok_iff] at hStatus ⊢
  exact hExtends.resolve_directory hStatus

theorem IsUnslashed.extends
    (hUnslashed : before.IsUnslashed)
    (hExtends : Extends before after) :
    after.IsUnslashed :=
  fun location target hLink =>
    hUnslashed location target
      (hExtends.node?_of_link hLink)

/- Files stay files in an extended tree. -/
theorem HasFile.extends
    {location : Location}
    (hFile : before.HasFile location)
    (hExtends : Extends before after) :
    after.HasFile location := by
  rcases hFile with ⟨content, permissions, hNode⟩
  rcases hExtends.node?_of_some hNode with
    hKept | ⟨_, new, others, _, hNew⟩
  · exact ⟨content, permissions, hKept⟩
  · exact ⟨new, others, hNew⟩

end FileTree

end Disk

end Aggregation
