import Aggregation.Proofs.Disk.Resolution

/-
  Paths of files to create.

  Who follows a path to create a file is led as one who only
  looks, except that a slash behind the name is met before
  the name is looked up.  Nothing but a directory can be
  there for the other one, so the same files are written.

  Key definitions include:
    * `FileTree.LeadsAlike`
    * `FileTree.IsUnslashed`

  Key theorems include:
    * `FileTree.resolveToCreate_leadsAlike`
    * `FileTree.resolve_of_resolveToCreate`
    * `FileTree.IsUnslashed.resolveToCreate_eq`
-/

------------------------------------------------------------
-- Names behind Slashes
------------------------------------------------------------

namespace Aggregation

namespace Disk

namespace FileTree

variable {tree : FileTree}
variable {viewer : Viewer}
variable {location : Location}
variable {names rest : List String}
variable {links : Nat}
variable {fault : Fault}

/- Names with a dot behind them lead to a directory. -/
theorem directory_of_follow_dot
    {destination : Destination}
    (hFollow :
      tree.follow viewer links location (names ++ ["."]) =
        .ok destination) :
    ∃ reached permissions,
      destination =
        .present reached (.directory permissions) := by
  rcases follow_dropLast hFollow with
    ⟨reached, node, hReached⟩
  rcases follow_append hReached with ⟨left, _, hRest⟩
  rw [hRest, follow_dot] at hFollow
  cases hEnter : tree.enter viewer reached with
  | error fault => simp [hEnter] at hFollow
  | ok entered =>
      rcases exists_follow_eq tree viewer left with
        ⟨atLink, hLeft⟩
      rcases directory_of_enter hEnter with
        ⟨permissions, hDirectory⟩
      simp only [hEnter, hLeft, followWith, hDirectory]
        at hFollow
      injection hFollow with hThere
      exact ⟨reached, permissions, hThere.symm⟩

/- A slash at the end of a target is kept as a dot. -/
theorem targetNames_slash
    {name : String}
    (hPlain : '/' ∉ name.toList)
    (hNonempty : name ≠ "") :
    targetNames (name ++ "/") = [name, "."] := by
  have hSplit :
      Text.splitOn (· == '/') (name ++ "/").toList =
        [name.toList, []] := by
    rw [String.toList_append]
    refine (Text.splitOn_append rfl name.toList []).trans ?_
    rw [Path.splitOn_of_plain hPlain]
    rfl
  unfold targetNames
  rw [hSplit]
  simp [hNonempty]

theorem beforeSlash_eq_some
    {above : List String}
    (hSlash : beforeSlash names = some above) :
    ∃ last, names = above ++ [last, "."] := by
  unfold beforeSlash at hSlash
  split at hSlash
  · rename_i slash last outer hNames
    split at hSlash
    · rename_i hDot
      injection hSlash with hAbove
      refine ⟨last, ?_⟩
      rw [← List.reverse_reverse names, hNames, ← hAbove,
        hDot.1]
      simp
    · contradiction
  · contradiction

/- A name at the end has no slash behind it. -/
theorem beforeSlash_append_name
    (names : List String)
    {name : String}
    (hHere : name ≠ ".") :
    beforeSlash (names ++ [name]) = none := by
  unfold beforeSlash
  rw [List.reverse_append]
  cases hAbove : names.reverse with
  | nil => rfl
  | cons last above => simp [hHere]

/- What comes later has no slash that the whole has not. -/
theorem beforeSlash_tail
    {name : String}
    (hNames : beforeSlash (name :: rest) = none) :
    beforeSlash rest = none := by
  cases hSlash : beforeSlash rest with
  | none => rfl
  | some above =>
      unfold beforeSlash at hNames hSlash
      rw [List.reverse_cons] at hNames
      generalize rest.reverse = behind at hNames hSlash
      rcases behind with _ | ⟨last, _ | ⟨before, others⟩⟩
      · contradiction
      · contradiction
      · simp only [List.cons_append] at hNames hSlash
        split at hSlash
        · rename_i hDot
          rw [if_pos hDot] at hNames
          contradiction
        · contradiction

/-
  A target that stands for a name brings no slash, unless it
  has one itself.
-/
theorem beforeSlash_target
    {target : List String}
    {name : String}
    (hTarget : beforeSlash target = none)
    (hNames : beforeSlash (name :: rest) = none)
    (hHere : name ≠ ".")
    (hAbove : name ≠ "..") :
    beforeSlash (target ++ rest) = none := by
  unfold beforeSlash at *
  rw [List.reverse_cons] at hNames
  rw [List.reverse_append]
  generalize rest.reverse = behind at *
  rcases behind with _ | ⟨last, _ | ⟨before, others⟩⟩
  · exact hTarget
  · have hNoSlash : last ≠ "." := by
      intro hSlash
      simp [hSlash, hHere, hAbove] at hNames
    cases target.reverse with
    | nil => rfl
    | cons other above => simp [hNoSlash]
  · simp only [List.cons_append] at hNames ⊢
    split at hNames
    · contradiction
    · rename_i hNoSlash
      rw [if_neg hNoSlash]

------------------------------------------------------------
-- Ways to Files
------------------------------------------------------------

/-
  Two answers to the question where names lead.  The second
  is the same, or it refuses a directory.
-/
inductive LeadsAlike :
    Except Fault Destination →
      Except Fault Destination → Prop
  | same (answer : Except Fault Destination) :
      LeadsAlike answer answer
  | slash
      {answer : Except Fault Destination}
      (hDirectory :
        ∀ destination,
          answer = .ok destination →
            ∃ location permissions,
              destination =
                .present location
                  (.directory permissions)) :
      LeadsAlike answer (.error .isDirectory)

/- A slash refuses nothing but directories. -/
theorem refuseSlash_leadsAlike
    (tree : FileTree)
    (viewer : Viewer)
    (links : Nat)
    (location : Location)
    (above : List String)
    (last : String) :
    LeadsAlike
      (tree.follow viewer links location
        (above ++ [last, "."]))
      (tree.refuseSlash viewer
        (tree.follow viewer links location above)) := by
  rcases blocked_or_present
      (tree.follow viewer links location above) with
    ⟨fault, hBlocked⟩ | ⟨reached, node, hReached⟩
  · rw [follow_of_blocked hBlocked last ["."]]
    generalize tree.follow viewer links location above =
      answer at hBlocked
    cases hBlocked with
    | refused fault => exact .same _
    | vacant parent name => exact .same _
  rcases follow_append hReached with ⟨left, _, hRest⟩
  rcases exists_follow_eq tree viewer left with
    ⟨atLink, hLeft⟩
  rw [hReached]
  simp only [refuseSlash]
  cases hEnter : tree.enter viewer reached with
  | error fault =>
      rw [hRest, hLeft, followWith_cons]
      simp only [step, hEnter]
      exact .same _
  | ok entered =>
      refine .slash ?_
      intro destination hFollow
      have hSplit :
          above ++ [last, "."] = (above ++ [last]) ++ ["."] :=
        (List.append_assoc above [last] ["."]).symm
      rw [hSplit] at hFollow
      exact directory_of_follow_dot hFollow

/- Names lead alike, given that the targets of links do. -/
theorem followWith_leadsAlike
    {atLink atLinkThen :
      Location → List String →
        Except Fault Destination}
    (hAtLink :
      ∀ start names,
        LeadsAlike (atLink start names)
          (atLinkThen start names))
    (location : Location)
    (names : List String) :
    LeadsAlike
      (tree.followWith viewer atLink location names)
      (tree.followWith viewer atLinkThen location
        names) := by
  induction names generalizing location with
  | nil => exact .same _
  | cons name names ih =>
      rw [followWith_cons, followWith_cons]
      cases tree.step viewer location name with
      | error fault => exact .same _
      | ok taken =>
          cases taken with
          | onward next => exact ih next
          | linked target => exact hAtLink _ _
          | nothing => exact .same _

theorem followToCreate_leadsAlike
    (tree : FileTree)
    (viewer : Viewer)
    (links : Nat)
    (location : Location)
    (names : List String) :
    LeadsAlike
      (tree.follow viewer links location names)
      (tree.followToCreate viewer links location names) := by
  induction links generalizing location names with
  | zero => exact .same _
  | succ links ih =>
      refine followWith_leadsAlike ?_ location names
      intro start others
      cases hSlash : beforeSlash others with
      | none => exact ih start others
      | some above =>
          rcases beforeSlash_eq_some hSlash with
            ⟨last, hOthers⟩
          rw [hOthers]
          exact refuseSlash_leadsAlike tree viewer links
            start above last

/- A slash in a target keeps a name from being looked up. -/
theorem followToCreate_slash
    {name target : String}
    {above : List String}
    (hStep :
      tree.step viewer location name =
        .ok (.linked target))
    (hSlash :
      beforeSlash (targetNames target ++ rest) = some above)
    (links : Nat) :
    tree.followToCreate viewer (links + 1) location
        (name :: rest) =
      tree.refuseSlash viewer
        (tree.follow viewer links
          (targetStart location target) above) := by
  conv => lhs; unfold followToCreate
  simp only [followWith_cons, hStep, hSlash]

/- What blocks a way blocks it for a file to create. -/
theorem followToCreate_of_blocked
    (hBlocked :
      Blocked (tree.follow viewer links location names)
        fault)
    {name : String}
    (hHere : name ≠ ".") :
    tree.followToCreate viewer links location
        (names ++ [name]) =
      .error fault := by
  induction links generalizing location names with
  | zero =>
      refine followWith_of_blocked ?_ hBlocked
      intro start others hMany
      cases hMany
      rfl
  | succ links ih =>
      refine followWith_of_blocked ?_ hBlocked
      intro start others hTarget
      rw [beforeSlash_append_name others hHere]
      exact ih hTarget

theorem resolveToCreate_leadsAlike
    (tree : FileTree)
    (viewer : Viewer)
    (path : Path) :
    LeadsAlike
      (tree.resolve viewer path)
      (tree.resolveToCreate viewer path) := by
  unfold resolve resolveToCreate
  cases admits path with
  | error fault => exact .same _
  | ok admitted =>
      exact followToCreate_leadsAlike tree viewer linkLimit
        _ _

variable {path : Path}

/- Where a file can be created, anyone is led. -/
theorem resolve_of_resolveToCreate
    {destination : Destination}
    (hPath :
      tree.resolveToCreate viewer path = .ok destination) :
    tree.resolve viewer path = .ok destination := by
  have hAlike := resolveToCreate_leadsAlike tree viewer path
  rw [hPath] at hAlike
  generalize tree.resolve viewer path = answer at hAlike ⊢
  cases hAlike with
  | same => rfl

/- A file that is there can be opened as if created. -/
theorem resolveToCreate_of_file
    {reached : Location}
    {content : ByteArray}
    {permissions : Permissions}
    (hPath :
      tree.resolve viewer path =
        .ok (.present reached (.file content permissions))) :
    tree.resolveToCreate viewer path =
      .ok (.present reached (.file content permissions)) := by
  have hAlike := resolveToCreate_leadsAlike tree viewer path
  rw [hPath] at hAlike
  generalize tree.resolveToCreate viewer path = answer
    at hAlike ⊢
  cases hAlike with
  | same => rfl
  | slash hDirectory =>
      rcases hDirectory _ rfl with ⟨other, others, hOther⟩
      injection hOther with _ hNode
      contradiction

/- A path is refused to the creator as to anyone. -/
theorem fault_of_resolveToCreate
    (hPath :
      tree.resolveToCreate viewer path = .error fault) :
    fault = .isDirectory ∨
      tree.resolve viewer path = .error fault := by
  have hAlike := resolveToCreate_leadsAlike tree viewer path
  rw [hPath] at hAlike
  generalize tree.resolve viewer path = answer at hAlike ⊢
  cases hAlike with
  | same => exact .inr rfl
  | slash hDirectory => exact .inl rfl

/- What is refused to anyone is refused to the creator. -/
theorem resolveToCreate_of_error
    (hPath : tree.resolve viewer path = .error fault) :
    tree.resolveToCreate viewer path = .error fault ∨
      tree.resolveToCreate viewer path =
        .error .isDirectory := by
  have hAlike := resolveToCreate_leadsAlike tree viewer path
  rw [hPath] at hAlike
  generalize tree.resolveToCreate viewer path = answer
    at hAlike ⊢
  cases hAlike with
  | same => exact .inl rfl
  | slash hDirectory => exact .inr rfl

------------------------------------------------------------
-- Trees without Slashes
------------------------------------------------------------

/- No link of a tree has a slash behind its last name. -/
def IsUnslashed (tree : FileTree) : Prop :=
  ∀ location target,
    tree.node? location = some (.link target) →
      beforeSlash (targetNames target) = none

theorem IsLinkFree.isUnslashed
    (hFree : tree.IsLinkFree) :
    tree.IsUnslashed :=
  fun location target hLink =>
    absurd hLink (hFree location target)

/- What a name that is a link stands for. -/
theorem step_eq_linked
    {name target : String}
    (hStep :
      tree.step viewer location name =
        .ok (.linked target)) :
    name ≠ "." ∧ name ≠ ".." ∧
      tree.node? (name :: location) =
        some (.link target) := by
  unfold step at hStep
  split at hStep
  · contradiction
  split at hStep
  · simp at hStep
  split at hStep
  · simp at hStep
  split at hStep
  · contradiction
  split at hStep
  · simp at hStep
  · rename_i hHere hAbove _ _ other hLink
    injection hStep with hStep
    injection hStep with hTarget
    exact ⟨hHere, hAbove, hTarget ▸ hLink⟩
  · simp at hStep

/-
  Without slashes, names are followed alike, given that the
  targets of links are.
-/
theorem IsUnslashed.followWith_eq
    (hUnslashed : tree.IsUnslashed)
    {atLink atLinkThen :
      Location → List String →
        Except Fault Destination}
    (hAtLink :
      ∀ start names,
        beforeSlash names = none →
          atLinkThen start names = atLink start names)
    (hNames : beforeSlash names = none) :
    tree.followWith viewer atLinkThen location names =
      tree.followWith viewer atLink location names := by
  induction names generalizing location with
  | nil => rfl
  | cons name names ih =>
      rw [followWith_cons, followWith_cons]
      cases hStep : tree.step viewer location name with
      | error fault => rfl
      | ok taken =>
          cases taken with
          | onward next => exact ih (beforeSlash_tail hNames)
          | linked target =>
              rcases step_eq_linked hStep with
                ⟨hHere, hAbove, hLink⟩
              exact hAtLink _ _
                (beforeSlash_target
                  (hUnslashed _ target hLink) hNames hHere
                  hAbove)
          | nothing => rfl

theorem IsUnslashed.followToCreate_eq
    (hUnslashed : tree.IsUnslashed)
    (hNames : beforeSlash names = none) :
    tree.followToCreate viewer links location names =
      tree.follow viewer links location names := by
  induction links generalizing location names with
  | zero => rfl
  | succ links ih =>
      refine hUnslashed.followWith_eq ?_ hNames
      intro start others hOthers
      simp only [hOthers]
      exact ih hOthers

/- Without slashes, files are created where paths lead. -/
theorem IsUnslashed.resolveToCreate_eq
    (hUnslashed : tree.IsUnslashed)
    (hName : path.name ≠ ".") :
    tree.resolveToCreate viewer path =
      tree.resolve viewer path := by
  have hSteps : beforeSlash path.steps = none := by
    rcases path with ⟨anchor, names⟩
    cases names with
    | cons name above =>
        rw [Path.steps_cons]
        exact beforeSlash_append_name above.reverse hName
    | nil =>
        rcases steps_cases ⟨anchor, []⟩ with
          hSteps | ⟨hSteps, _⟩
        · rw [hSteps]
          rfl
        · rw [hSteps]
          rfl
  unfold resolve resolveToCreate
  rw [hUnslashed.followToCreate_eq hSteps]

end FileTree

end Disk

end Aggregation
