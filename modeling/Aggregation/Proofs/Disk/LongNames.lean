import Aggregation.Proofs.Disk.Extension
import Aggregation.Proofs.Disk.Traversal
import Aggregation.Proofs.Trail

/-
  Paths that are too long for the file system.

  A path is refused as a whole if it has too many bytes, and
  so is a name on the way that has too many.  Whoever may do
  anything else meets no other obstacle than that nothing is
  there.  Above a name that is too long no new directory is
  made.

  Key definitions include:
    * `FileTree.Fits`
    * `FileTree.SlashesLongName`

  Key theorems include:
    * `admits_parent`
    * `ensureDirectory_overlong`
    * `ensureDirectory_of_nameTooLong`
    * `slashesLongName_of_link`
    * `leadsToDirectory_of_slashesLongName`
    * `resolve_fault`
-/

------------------------------------------------------------
-- Short Paths
------------------------------------------------------------

namespace Aggregation

namespace Disk

/-
  No directory is made for a path that is too long: the path
  of the directory is too long as well, or leads to one that
  is there.
-/
def FileTree.Fits
    (tree : FileTree)
    (viewer : Viewer)
    (path : Path) :
    Prop :=
  FileTree.admits path = .error .nameTooLong →
    FileTree.admits path.parent = .error .nameTooLong ∨
      tree.LeadsToDirectory viewer path.parent

variable {tree : FileTree}
variable {viewer : Viewer}
variable {path : Path}

theorem FileTree.Fits.extends
    {before after : FileTree}
    (hFits : before.Fits viewer path)
    (hExtends : FileTree.Extends before after) :
    after.Fits viewer path :=
  fun hLong => (hFits hLong).imp_right
    hExtends.leadsToDirectory

/- One more name makes a text of names longer. -/
theorem utf8ByteSize_joinWith_append
    (separator last : String)
    (names : List String) :
    (Text.joinWith separator names).utf8ByteSize ≤
      (Text.joinWith separator
        (names ++ [last])).utf8ByteSize := by
  induction names with
  | nil => exact Nat.zero_le _
  | cons name names ih =>
      cases names with
      | nil =>
          simp only [Text.joinWith, List.cons_append,
            List.nil_append, String.utf8ByteSize_append]
          omega
      | cons other names =>
          simp only [Text.joinWith, List.cons_append,
            String.utf8ByteSize_append] at ih ⊢
          omega

/- Above a path that is short enough all paths are. -/
theorem byteSize_lt_pathLimit
    (anchor : Anchor)
    (name : Name)
    (above : List Name)
    (hShort :
      Path.byteSize ⟨anchor, name :: above⟩ <
        FileTree.pathLimit) :
    Path.byteSize ⟨anchor, above⟩ < FileTree.pathLimit := by
  have hLess :=
    utf8ByteSize_joinWith_append "/" name above.reverse
  unfold Path.byteSize Path.text at *
  simp only [List.cons_ne_nil, and_false, if_false,
    List.reverse_cons, String.utf8ByteSize_append] at hShort
  split
  · decide
  · simp only [String.utf8ByteSize_append]
    omega

/- Above a path that can be looked up all can be. -/
theorem admits_parent
    (hAdmits : FileTree.admits path = .ok ()) :
    FileTree.admits path.parent = .ok () := by
  rcases path with ⟨anchor, names⟩
  cases names with
  | nil => exact hAdmits
  | cons name above =>
      unfold FileTree.admits at hAdmits
      split at hAdmits
      · contradiction
      rename_i hNull
      split at hAdmits
      · contradiction
      rename_i hShort
      have hNoNull : Path.hasNull ⟨anchor, above⟩ = false := by
        unfold Path.hasNull at hNull ⊢
        simp only [List.any_cons, Bool.not_eq_true,
          Bool.or_eq_false_iff] at hNull
        exact hNull.2
      have hShorter :=
        byteSize_lt_pathLimit anchor name above
          (Nat.lt_of_not_le hShort)
      have hAbove :
          Path.parent ⟨anchor, name :: above⟩ =
            ⟨anchor, above⟩ :=
        rfl
      unfold FileTree.admits
      rw [hAbove, hNoNull, if_neg Bool.false_ne_true,
        if_neg (Nat.not_le_of_lt hShorter)]

------------------------------------------------------------
-- Long Names on the Way
------------------------------------------------------------

/- Entering a directory never meets a long name. -/
theorem enter_ne_nameTooLong
    (tree : FileTree)
    (viewer : Viewer)
    (location : Location) :
    tree.enter viewer location ≠ .error .nameTooLong := by
  unfold FileTree.enter
  split
  · split
    · simp
    · simp
  · simp
  · simp

theorem enter_of_nameTooLong
    {atLink :
      Location → List String →
        Except Fault Destination}
    {location : Location}
    {name : String}
    {rest : List String}
    (hFollow :
      tree.followWith viewer atLink location
          (name :: rest) =
        .error .nameTooLong) :
    tree.enter viewer location = .ok () := by
  unfold FileTree.followWith at hFollow
  cases hEnter : tree.enter viewer location with
  | ok entered => rfl
  | error fault =>
      simp only [hEnter] at hFollow
      injection hFollow with hFault
      rw [hFault] at hEnter
      exact absurd hEnter
        (enter_ne_nameTooLong tree viewer location)

/-
  A name that is too long, or a link that leads to one, is
  the last name or comes before it.
-/
theorem follow_nameTooLong
    {links : Nat}
    {location : Location}
    {names : List String}
    {last : String}
    (hFollow :
      tree.follow viewer links location (names ++ [last]) =
        .error .nameTooLong) :
    tree.follow viewer links location names =
        .error .nameTooLong ∨
      ∃ reached node,
        tree.follow viewer links location names =
          .ok (.present reached node) := by
  rcases FileTree.blocked_or_present
      (tree.follow viewer links location names) with
    ⟨fault, hBlocked⟩ | hThere
  · rw [FileTree.follow_of_blocked hBlocked] at hFollow
    injection hFollow with hFault
    rw [hFault] at hBlocked
    generalize tree.follow viewer links location names =
      answer at hBlocked ⊢
    cases hBlocked with
    | refused => exact .inl rfl
  · exact .inr hThere

/- What is wrong with a last name that is too long. -/
theorem followWith_single_nameTooLong
    {atLink :
      Location → List String →
        Except Fault Destination}
    {location : Location}
    {name : String}
    (hHere : name ≠ ".")
    (hFollow :
      tree.followWith viewer atLink location [name] =
        .error .nameTooLong) :
    name ≠ ".." ∧
      (nameLimit < name.utf8ByteSize ∨
        (tree.node? (name :: location)).isSome = true) := by
  have hEnter := enter_of_nameTooLong hFollow
  unfold FileTree.followWith at hFollow
  simp only [hEnter, if_neg hHere] at hFollow
  by_cases hAbove : name = ".."
  · rw [if_pos hAbove] at hFollow
    unfold FileTree.followWith at hFollow
    split at hFollow
    · contradiction
    · injection hFollow with hFault
      contradiction
  refine ⟨hAbove, ?_⟩
  rw [if_neg hAbove] at hFollow
  by_cases hLong : nameLimit < name.utf8ByteSize
  · exact .inl hLong
  rw [if_neg hLong] at hFollow
  cases hNode : tree.node? (name :: location) with
  | some node => exact .inr rfl
  | none => simp [hNode] at hFollow

------------------------------------------------------------
-- Directories above a Long Name
------------------------------------------------------------

/- A path that meets a long name names no new directory. -/
theorem makeDirectory_of_nameTooLong
    (hClean : path.IsClean)
    (hAdmits : FileTree.admits path = .ok ())
    (hPath :
      tree.resolve viewer path = .error .nameTooLong) :
    tree.makeDirectory viewer path = .error .exists ∨
      tree.makeDirectory viewer path =
        .error .nameTooLong := by
  rcases path with ⟨anchor, names⟩
  unfold FileTree.resolve at hPath
  unfold FileTree.makeDirectory
  simp only [hAdmits] at hPath ⊢
  cases names with
  | nil => exact .inl rfl
  | cons name above =>
      have hHere : name ≠ "." := hClean.name_ne
      simp only [Path.steps_cons] at hPath
      rcases follow_nameTooLong hPath with
        hAbove | ⟨parent, node, hParent⟩
      · simp only [hAbove]
        exact .inr trivial
      · rcases FileTree.follow_append hParent with
          ⟨left, _, hRest⟩
        rcases FileTree.exists_follow_eq tree viewer left
          with ⟨atLink, hLeft⟩
        rw [hRest [name], hLeft] at hPath
        have hEnter := enter_of_nameTooLong hPath
        rcases followWith_single_nameTooLong hHere hPath
          with ⟨hAbove, hLong | hSome⟩
        · simp only [hParent, hEnter, if_neg hAbove,
            if_pos hLong]
          exact .inr trivial
        · simp only [hParent, hEnter, if_neg hAbove, hSome,
            if_true]
          split
          · exact .inr rfl
          · exact .inl rfl

/- A long name is no excuse. -/
theorem excuse_of_nameTooLong
    (hPath :
      tree.resolve viewer path = .error .nameTooLong)
    {fault : Fault}
    (hFault : fault ≠ .nullCharacter) :
    tree.excuse viewer path fault =
      .error .nameTooLong := by
  have hTest :
      tree.isDirectory? viewer path =
        .error .nameTooLong := by
    rw [FileTree.isDirectory?_eq, hPath]
    rfl
  unfold FileTree.excuse
  rw [if_neg hFault, hTest]

/- A refused directory is excused, unless one is missing. -/
theorem ensureDirectory_eq_excuse
    {fault : Fault}
    (hMake : tree.makeDirectory viewer path = .error fault)
    (hFault : fault ≠ .missing) :
    FileTree.ensureDirectory viewer path.anchor tree
        path.names =
      (tree, tree.excuse viewer path fault) := by
  rcases path with ⟨anchor, names⟩
  cases names with
  | nil =>
      unfold FileTree.ensureDirectory
      simp only [hMake]
  | cons name above =>
      unfold FileTree.ensureDirectory
      simp only [hMake]

/- No directory is made on the way to a long name. -/
theorem ensureDirectory_eq_nameTooLong
    (hClean : path.IsClean)
    (hAdmits : FileTree.admits path = .ok ())
    (hPath :
      tree.resolve viewer path = .error .nameTooLong) :
    FileTree.ensureDirectory viewer path.anchor tree
        path.names =
      (tree, .error .nameTooLong) := by
  rcases makeDirectory_of_nameTooLong hClean hAdmits hPath
    with hExists | hLong
  · rw [ensureDirectory_eq_excuse hExists (by decide),
      excuse_of_nameTooLong hPath (by decide)]
  · rw [ensureDirectory_eq_excuse hLong (by decide),
      excuse_of_nameTooLong hPath (by decide)]

/- A path that leads to what can be entered. -/
theorem leadsToDirectory_of_enter
    {location : Location}
    {node : Node}
    (hPath :
      tree.resolve viewer path =
        .ok (.present location node))
    (hEnter : tree.enter viewer location = .ok ()) :
    tree.LeadsToDirectory viewer path := by
  rcases FileTree.directory_of_enter hEnter with
    ⟨permissions, hDirectory⟩
  have hHere := FileTree.node?_of_resolve hPath
  rw [hDirectory] at hHere
  injection hHere with hNode
  refine ⟨location, permissions, ?_⟩
  rw [FileTree.status_eq_ok_iff, hNode]
  exact hPath

theorem resolve_of_admits
    (hAdmits : FileTree.admits path = .ok ()) :
    tree.resolve viewer path =
      tree.follow viewer FileTree.linkLimit
        (viewer.start path.anchor) path.steps := by
  unfold FileTree.resolve
  rw [hAdmits]

/- A path is refused as its names are. -/
theorem resolve_of_refused
    (hAdmits : FileTree.admits path = .ok ())
    {fault : Fault}
    (hFollow :
      tree.follow viewer FileTree.linkLimit
          (viewer.start path.anchor) path.names.reverse =
        .error fault) :
    tree.resolve viewer path = .error fault := by
  rw [resolve_of_admits hAdmits]
  rcases FileTree.steps_cases path with
    hSteps | ⟨hSteps, hNames⟩
  · rw [hSteps]
    exact hFollow
  · rw [hNames] at hFollow
    rw [hSteps]
    exact FileTree.follow_of_blocked
      (FileTree.blocked_of_error hFollow) "." []

/- A path without names meets no long one. -/
theorem resolve_start_ne_nameTooLong
    (tree : FileTree)
    (viewer : Viewer)
    (anchor : Anchor) :
    tree.resolve viewer ⟨anchor, []⟩ ≠
      .error .nameTooLong := by
  have hStart :
      ∀ links location,
        tree.follow viewer links location [] ≠
          .error .nameTooLong := by
    intro links location
    rcases FileTree.exists_follow_eq tree viewer links with
      ⟨atLink, hLinks⟩
    rw [hLinks]
    unfold FileTree.followWith
    split
    · simp
    · simp
  have hAdmits :
      FileTree.admits ⟨anchor, []⟩ = .ok () := by
    cases anchor with
    | relative => rfl
    | root => rfl
    | doubleRoot => rfl
  rw [resolve_of_admits hAdmits]
  rcases FileTree.steps_cases ⟨anchor, []⟩ with
    hSteps | ⟨hSteps, _⟩
  · rw [hSteps]
    exact hStart _ _
  · rw [hSteps, FileTree.follow_dot]
    cases hEnter :
        tree.enter viewer (viewer.start anchor) with
    | ok entered => exact hStart _ _
    | error fault =>
        intro hLong
        injection hLong with hFault
        exact enter_ne_nameTooLong _ _ _ (hFault ▸ hEnter)

/-
  A path that meets a long name meets it on the way to its
  directory, as anyone does, or its directory is there.
-/
theorem resolve_parent_of_nameTooLong
    (hClean : path.IsClean)
    (hAdmits : FileTree.admits path = .ok ())
    (hPath :
      tree.resolve viewer path = .error .nameTooLong) :
    (tree.resolve viewer path.parent =
          .error .nameTooLong ∧
        tree.resolveToCreate viewer path =
          .error .nameTooLong) ∨
      tree.LeadsToDirectory viewer path.parent := by
  have hAbove := admits_parent hAdmits
  rcases path with ⟨anchor, names⟩
  cases names with
  | nil =>
      exact absurd hPath
        (resolve_start_ne_nameTooLong tree viewer anchor)
  | cons name above =>
      have hHere : name ≠ "." := hClean.name_ne
      rw [resolve_of_admits hAdmits, Path.steps_cons]
        at hPath
      rcases follow_nameTooLong hPath with
        hMissed | ⟨parent, node, hParent⟩
      · have hBlocked :=
          FileTree.followToCreate_of_blocked
            (FileTree.blocked_of_error hMissed) hHere
        refine .inl
          ⟨resolve_of_refused hAbove hMissed, ?_⟩
        unfold FileTree.resolveToCreate
        rw [hAdmits, Path.steps_cons]
        exact hBlocked
      · rcases FileTree.follow_append hParent with
          ⟨left, _, hRest⟩
        rcases FileTree.exists_follow_eq tree viewer left
          with ⟨atLink, hLeft⟩
        rw [hRest [name], hLeft] at hPath
        have hEnter := enter_of_nameTooLong hPath
        exact .inr (leadsToDirectory_of_enter
          (FileTree.resolve_of_follow hAbove hParent hEnter)
          hEnter)

/- A directory that is there needs not be made. -/
theorem ensureDirectory_of_leadsToDirectory
    (hClean : path.IsClean)
    (hPath : tree.LeadsToDirectory viewer path) :
    FileTree.ensureDirectory viewer path.anchor tree
        path.names =
      (tree, .ok ()) := by
  rcases hPath with ⟨location, permissions, hStatus⟩
  exact Slot.ensureDirectory_eq_ok
    (FileTree.status_eq_ok_iff.mp hStatus) hClean.name_ne

/- No directory is made of a path that is too long. -/
theorem ensureDirectory_overlong
    (tree : FileTree)
    (viewer : Viewer)
    (hLong : FileTree.admits path = .error .nameTooLong) :
    FileTree.ensureDirectory viewer path.anchor tree
        path.names =
      (tree, .error .nameTooLong) := by
  have hPath :
      tree.resolve viewer path = .error .nameTooLong := by
    unfold FileTree.resolve
    rw [hLong]
  have hMake :
      tree.makeDirectory viewer path =
        .error .nameTooLong := by
    unfold FileTree.makeDirectory
    rw [hLong]
  rw [ensureDirectory_eq_excuse hMake (by decide),
    excuse_of_nameTooLong hPath (by decide)]

/- A path that is too long comes with no new directory. -/
theorem ensureDirectory_of_nameTooLong
    (hClean : path.IsClean)
    (hFits : tree.Fits viewer path)
    (hPath :
      tree.resolve viewer path = .error .nameTooLong) :
    let ensured :=
      FileTree.ensureDirectory viewer path.anchor tree
        path.parent.names
    ensured = (tree, .ok ()) ∨
      ensured = (tree, .error .nameTooLong) := by
  have hParentClean := hClean.parent
  cases hAdmits : FileTree.admits path with
  | error fault =>
      have hLong := hPath
      unfold FileTree.resolve at hLong
      simp only [hAdmits] at hLong
      injection hLong with hFault
      rw [hFault] at hAdmits
      rcases hFits hAdmits with hAbove | hThere
      · exact .inr
          (ensureDirectory_overlong tree viewer hAbove)
      · exact .inl (ensureDirectory_of_leadsToDirectory
          hParentClean hThere)
  | ok admitted =>
      rcases resolve_parent_of_nameTooLong hClean hAdmits
          hPath with
        ⟨hMissed, _⟩ | hThere
      · exact .inr (ensureDirectory_eq_nameTooLong
          hParentClean (admits_parent hAdmits) hMissed)
      · exact .inl (ensureDirectory_of_leadsToDirectory
          hParentClean hThere)

------------------------------------------------------------
-- Slashes behind Long Names
------------------------------------------------------------

/-
  The last link of a path has a slash behind its last name,
  which is too long or leads to one that is.  Who asks for a
  file meets the long name, and who creates it the slash.
-/
def FileTree.SlashesLongName
    (tree : FileTree)
    (viewer : Viewer)
    (path : Path) :
    Prop :=
  tree.resolve viewer path = .error .nameTooLong ∧
    tree.resolveToCreate viewer path = .error .isDirectory

/- A link to a long name with a slash is such a path. -/
theorem slashesLongName_of_link
    {anchor : Anchor}
    {name long : Name}
    {target : String}
    (hAdmits : FileTree.admits ⟨anchor, [name]⟩ = .ok ())
    (hStep :
      tree.step viewer (viewer.start anchor) name =
        .ok (.linked target))
    (hEnter :
      tree.enter viewer
          (FileTree.targetStart (viewer.start anchor)
            target) =
        .ok ())
    (hTarget : FileTree.targetNames target = [long, "."])
    (hLong : nameLimit < long.utf8ByteSize) :
    tree.SlashesLongName viewer ⟨anchor, [name]⟩ := by
  have hHere : long ≠ "." := by
    intro hDot
    rw [hDot] at hLong
    contradiction
  have hAbove : long ≠ ".." := by
    intro hDots
    rw [hDots] at hLong
    contradiction
  have hLimit : FileTree.linkLimit = 39 + 1 := rfl
  rcases FileTree.exists_follow_eq tree viewer 39 with
    ⟨atLink, hRest⟩
  constructor
  · rw [resolve_of_admits hAdmits, Path.steps_cons, hLimit,
      List.reverse_nil, List.nil_append,
      FileTree.follow_linked hStep, hTarget]
    simp only [hRest, FileTree.followWith_cons,
      FileTree.step, hEnter, if_neg hHere, if_neg hAbove,
      if_pos hLong, List.cons_append]
  · have hSlash :
        FileTree.beforeSlash
            (FileTree.targetNames target ++ []) =
          some [] := by
      simp [hTarget, FileTree.beforeSlash, hHere, hAbove]
    rcases FileTree.directory_of_enter hEnter with
      ⟨permissions, hDirectory⟩
    unfold FileTree.resolveToCreate
    rw [hAdmits, Path.steps_cons, hLimit, List.reverse_nil,
      List.nil_append,
      FileTree.followToCreate_slash hStep hSlash]
    simp only [hRest, FileTree.followWith, hDirectory,
      FileTree.refuseSlash, hEnter]

/- Without slashes there are none behind long names. -/
theorem not_slashesLongName
    (hUnslashed : tree.IsUnslashed)
    (hClean : path.IsClean) :
    ¬tree.SlashesLongName viewer path := by
  rintro ⟨hLong, hSlash⟩
  rw [hUnslashed.resolveToCreate_eq hClean.name_ne, hLong]
    at hSlash
  injection hSlash with hFault
  contradiction

/- What is there is no such path, whatever is added. -/
theorem not_slashesLongName_of_present
    {before after : FileTree}
    {location : Location}
    {node : Node}
    (hPath :
      before.resolve viewer path =
        .ok (.present location node))
    (hExtends : FileTree.Extends before after) :
    ¬after.SlashesLongName viewer path := by
  rintro ⟨hLong, _⟩
  rcases hExtends.resolve_present hPath with
    ⟨other, hThere⟩
  rw [hThere] at hLong
  contradiction

/- A slash is met only where the directory is reached. -/
theorem leadsToDirectory_of_slashesLongName
    (hClean : path.IsClean)
    (hSlash : tree.SlashesLongName viewer path) :
    tree.LeadsToDirectory viewer path.parent := by
  rcases hSlash with ⟨hLong, hSlash⟩
  cases hAdmits : FileTree.admits path with
  | error fault =>
      unfold FileTree.resolve at hLong
      unfold FileTree.resolveToCreate at hSlash
      simp only [hAdmits] at hLong hSlash
      rw [hLong] at hSlash
      injection hSlash with hFault
      contradiction
  | ok admitted =>
      rcases resolve_parent_of_nameTooLong hClean hAdmits
          hLong with
        ⟨_, hOther⟩ | hThere
      · rw [hOther] at hSlash
        injection hSlash with hFault
        contradiction
      · exact hThere

------------------------------------------------------------
-- Other Obstacles
------------------------------------------------------------

/- A viewer who may do anything misses a path, at worst. -/
theorem step_fault
    (hUnbound : viewer.bound = false)
    {location : Location}
    {name : String}
    {fault : Fault}
    (hStep : tree.step viewer location name = .error fault) :
    fault.meansAbsent = true ∨ fault = .nameTooLong := by
  unfold FileTree.step at hStep
  cases hEnter : tree.enter viewer location with
  | error other =>
      simp only [hEnter] at hStep
      injection hStep with hFault
      rw [← hFault]
      unfold FileTree.enter Viewer.may at hEnter
      simp only [hUnbound, Bool.not_false, Bool.true_or,
        if_true] at hEnter
      split at hEnter
      · contradiction
      · injection hEnter with hOther
        exact .inl (hOther ▸ rfl)
      · injection hEnter with hOther
        exact .inl (hOther ▸ rfl)
  | ok entered =>
      simp only [hEnter] at hStep
      split at hStep
      · contradiction
      split at hStep
      · contradiction
      split at hStep
      · injection hStep with hFault
        exact .inr hFault.symm
      split at hStep
      · contradiction
      · contradiction
      · contradiction

theorem follow_fault
    (hUnbound : viewer.bound = false)
    {links : Nat}
    {location : Location}
    {names : List String}
    {fault : Fault}
    (hFollow :
      tree.follow viewer links location names =
        .error fault) :
    fault.meansAbsent = true ∨ fault = .nameTooLong :=
  FileTree.fault_of_follow (.inl rfl) (.inl rfl)
    (fun _ _ _ => step_fault hUnbound) hFollow

theorem resolve_fault
    (hUnbound : viewer.bound = false)
    {fault : Fault}
    (hPath : tree.resolve viewer path = .error fault) :
    fault.meansAbsent = true ∨ fault = .nameTooLong := by
  cases hAdmits : FileTree.admits path with
  | ok admitted =>
      rw [resolve_of_admits hAdmits] at hPath
      exact follow_fault hUnbound hPath
  | error other =>
      unfold FileTree.resolve at hPath
      simp only [hAdmits] at hPath
      injection hPath with hFault
      rw [hFault] at hAdmits
      unfold FileTree.admits at hAdmits
      split at hAdmits
      · injection hAdmits with hNull
        exact .inl (hNull ▸ rfl)
      · split at hAdmits
        · injection hAdmits with hLong
          exact .inr hLong.symm
        · contradiction

end Disk

end Aggregation
