import Aggregation.Proofs.Disk.Entries
import Aggregation.Proofs.Trail

/-
  Paths continued name by name.

  A path that was followed to a node is continued from
  there, with the links that are left.  In a tree without
  links, one more name is just looked up in the directory.

  Key definitions include:
    * `FileTree.step`
    * `FileTree.Blocked`
    * `FileTree.IsLinkFree`
    * `FileTree.lookUp`

  Key theorems include:
    * `FileTree.followWith_cons`
    * `FileTree.follow_append`
    * `FileTree.follow_of_blocked`
    * `FileTree.follow_dropLast`
    * `FileTree.follow_of_resolve`
    * `FileTree.fault_of_follow`
    * `FileTree.resolve_child`
    * `FileTree.resolve_child_present`
-/

------------------------------------------------------------
-- Continued Paths
------------------------------------------------------------

namespace Aggregation

namespace Disk

namespace FileTree

variable {tree : FileTree}
variable {viewer : Viewer}

/- A status is where a path leads, if it leads to a node. -/
theorem status_eq_ok_iff
    {path : Path}
    {location : Location}
    {node : Node} :
    tree.status viewer path = .ok (location, node) ↔
      tree.resolve viewer path =
        .ok (.present location node) := by
  unfold status
  cases tree.resolve viewer path with
  | error fault => simp
  | ok destination =>
      cases destination with
      | present => simp
      | vacant => simp

/- What one name of a path does. -/
inductive Step where
  | onward (location : Location)
  | linked (target : String)
  | nothing

/- Follow one name from a location. -/
def step
    (tree : FileTree)
    (viewer : Viewer)
    (location : Location)
    (name : String) :
    Except Fault Step :=
  match tree.enter viewer location with
  | .error fault => .error fault
  | .ok () =>
      if name = "." then
        .ok (.onward location)
      else if name = ".." then
        .ok (.onward location.tail)
      else if nameLimit < name.utf8ByteSize then
        .error .nameTooLong
      else
        match tree.node? (name :: location) with
        | none => .ok .nothing
        | some (.link target) => .ok (.linked target)
        | some _ => .ok (.onward (name :: location))

/- What can be entered is a directory. -/
theorem directory_of_enter
    {location : Location}
    (hEnter : tree.enter viewer location = .ok ()) :
    ∃ permissions,
      tree.node? location =
        some (.directory permissions) := by
  unfold enter at hEnter
  split at hEnter
  · rename_i permissions hDirectory
    exact ⟨permissions, hDirectory⟩
  · contradiction
  · contradiction

/- Names are followed step by step. -/
theorem followWith_cons
    (atLink :
      Location → List String →
        Except Fault Destination)
    (location : Location)
    (name : String)
    (rest : List String) :
    tree.followWith viewer atLink location (name :: rest) =
      match tree.step viewer location name with
      | .error fault => .error fault
      | .ok (.onward next) =>
          tree.followWith viewer atLink next rest
      | .ok (.linked target) =>
          atLink (targetStart location target)
            (targetNames target ++ rest)
      | .ok .nothing =>
          if rest = [] then .ok (.vacant location name)
          else .error .missing := by
  unfold step
  conv => lhs; unfold followWith
  cases tree.enter viewer location with
  | error fault => rfl
  | ok entered =>
      by_cases hHere : name = "."
      · simp only [if_pos hHere]
      by_cases hAbove : name = ".."
      · simp only [if_neg hHere, if_pos hAbove]
      by_cases hLong : nameLimit < name.utf8ByteSize
      · simp only [if_neg hHere, if_neg hAbove,
          if_pos hLong]
      simp only [if_neg hHere, if_neg hAbove, if_neg hLong]
      cases tree.node? (name :: location) with
      | none => rfl
      | some node =>
          cases node with
          | file content permissions => rfl
          | directory permissions => rfl
          | link target => rfl

/- However many links are left, names are followed. -/
theorem exists_follow_eq
    (tree : FileTree)
    (viewer : Viewer)
    (links : Nat) :
    ∃ atLink,
      tree.follow viewer links =
        tree.followWith viewer atLink := by
  cases links with
  | zero => exact ⟨_, rfl⟩
  | succ links => exact ⟨_, rfl⟩

/- A name that leads on is one that the directory has. -/
theorem step_eq_ok
    {location : Location}
    {name : String}
    {taken : Step}
    (hHere : name ≠ ".")
    (hTaken : taken ≠ .nothing)
    (hStep : tree.step viewer location name = .ok taken) :
    tree.enter viewer location = .ok () ∧
      (name = ".." ∨
        ¬nameLimit < name.utf8ByteSize ∧
          ∃ node,
            tree.node? (name :: location) = some node) := by
  unfold step at hStep
  cases hEnter : tree.enter viewer location with
  | error fault => simp [hEnter] at hStep
  | ok entered =>
      refine ⟨rfl, ?_⟩
      by_cases hAbove : name = ".."
      · exact .inl hAbove
      right
      by_cases hLong : nameLimit < name.utf8ByteSize
      · simp [hEnter, hHere, hAbove, hLong] at hStep
      refine ⟨hLong, ?_⟩
      cases hNode : tree.node? (name :: location) with
      | some node => exact ⟨node, rfl⟩
      | none =>
          simp only [hEnter, if_neg hHere, if_neg hAbove,
            if_neg hLong, hNode] at hStep
          injection hStep with hNothing
          exact absurd hNothing.symm hTaken

/-
  Names are followed one after the other, given that the
  targets of links are.
-/
theorem followWith_append
    {links : Nat}
    {atLink :
      Location → List String →
        Except Fault Destination}
    (hSelf :
      tree.follow viewer links =
        tree.followWith viewer atLink)
    (hAtLink :
      ∀ start names reached node,
        atLink start names = .ok (.present reached node) →
          ∃ left ≤ links, ∀ rest,
            atLink start (names ++ rest) =
              tree.follow viewer left reached rest)
    {location reached : Location}
    {names : List String}
    {node : Node}
    (hFollow :
      tree.followWith viewer atLink location names =
        .ok (.present reached node)) :
    ∃ left ≤ links, ∀ rest,
      tree.followWith viewer atLink location
          (names ++ rest) =
        tree.follow viewer left reached rest := by
  induction names generalizing location with
  | nil =>
      unfold followWith at hFollow
      split at hFollow
      · injection hFollow with hFollow
        injection hFollow with hLocation _
        subst hLocation
        refine ⟨links, Nat.le_refl links, ?_⟩
        intro rest
        rw [List.nil_append, hSelf]
      · contradiction
  | cons name names ih =>
      simp only [List.cons_append]
      rw [followWith_cons] at hFollow
      simp only [followWith_cons]
      cases hStep : tree.step viewer location name with
      | error fault => simp [hStep] at hFollow
      | ok taken =>
          simp only [hStep] at hFollow ⊢
          cases taken with
          | onward next => exact ih hFollow
          | linked target =>
              simp only [← List.append_assoc]
              exact hAtLink _ _ _ _ hFollow
          | nothing =>
              simp only at hFollow
              split at hFollow <;> simp at hFollow

/- A followed path is continued from where it led. -/
theorem follow_append
    {links : Nat}
    {location reached : Location}
    {names : List String}
    {node : Node}
    (hFollow :
      tree.follow viewer links location names =
        .ok (.present reached node)) :
    ∃ left ≤ links, ∀ rest,
      tree.follow viewer links location (names ++ rest) =
        tree.follow viewer left reached rest := by
  induction links generalizing location reached names
      node with
  | zero =>
      apply followWith_append rfl _ hFollow
      intro start others there entry hNone
      contradiction
  | succ links ih =>
      apply followWith_append rfl _ hFollow
      intro start others there entry hTarget
      rcases ih hTarget with ⟨left, hLeft, hRest⟩
      exact ⟨left, Nat.le_succ_of_le hLeft, hRest⟩

/- One more name of which there is nothing ends a path. -/
theorem follow_eq_vacant
    {links : Nat}
    {location parent : Location}
    {names : List String}
    {node : Node}
    (hFollow :
      tree.follow viewer links location names =
        .ok (.present parent node))
    {name : String}
    (hStep : tree.step viewer parent name = .ok .nothing) :
    tree.follow viewer links location (names ++ [name]) =
      .ok (.vacant parent name) := by
  rcases follow_append hFollow with ⟨left, _, hRest⟩
  rcases exists_follow_eq tree viewer left with
    ⟨atLink, hLeft⟩
  rw [hRest [name], hLeft, followWith_cons, hStep]
  rfl

/- Where names lead, there is the node that they lead to. -/
theorem node?_of_follow
    {links : Nat}
    {location reached : Location}
    {names : List String}
    {node : Node}
    (hFollow :
      tree.follow viewer links location names =
        .ok (.present reached node)) :
    tree.node? reached = some node := by
  rcases follow_append hFollow with ⟨left, _, hRest⟩
  have hEnd := hRest []
  rcases exists_follow_eq tree viewer left with
    ⟨atLink, hLeft⟩
  rw [List.append_nil, hFollow, hLeft] at hEnd
  unfold followWith at hEnd
  split at hEnd
  · rename_i entry hEntry
    injection hEnd with hEnd
    injection hEnd with _ hNode
    rw [hEntry, hNode]
  · contradiction

/- Where a path leads, there is the node that it leads to. -/
theorem node?_of_resolve
    {path : Path}
    {location : Location}
    {node : Node}
    (hPath :
      tree.resolve viewer path =
        .ok (.present location node)) :
    tree.node? location = some node := by
  unfold resolve at hPath
  cases hAdmits : admits path with
  | error fault => simp [hAdmits] at hPath
  | ok admitted =>
      simp only [hAdmits] at hPath
      exact node?_of_follow hPath

------------------------------------------------------------
-- Blocked Names
------------------------------------------------------------

/- Why no more names can be followed. -/
inductive Blocked : Except Fault Destination → Fault → Prop
  | refused (fault : Fault) : Blocked (.error fault) fault
  | vacant (parent : Location) (name : String) :
      Blocked (.ok (.vacant parent name)) .missing

theorem blocked_of_error
    {answer : Except Fault Destination}
    {fault : Fault}
    (hAnswer : answer = .error fault) :
    Blocked answer fault :=
  hAnswer ▸ .refused fault

/- An answer that is not of a node blocks the way. -/
theorem blocked_or_present
    (answer : Except Fault Destination) :
    (∃ fault, Blocked answer fault) ∨
      ∃ reached node, answer = .ok (.present reached node) := by
  cases answer with
  | error fault => exact .inl ⟨fault, .refused fault⟩
  | ok destination =>
      cases destination with
      | present reached node => exact .inr ⟨_, _, rfl⟩
      | vacant parent name =>
          exact .inl ⟨_, .vacant parent name⟩

/-
  Names that are blocked block those behind them, whatever
  is done at links, given that the targets of links do.
-/
theorem followWith_of_blocked
    {atLink atLinkThen :
      Location → List String →
        Except Fault Destination}
    {location : Location}
    {names rest : List String}
    {name : String}
    {fault : Fault}
    (hAtLink :
      ∀ start names,
        Blocked (atLink start names) fault →
          atLinkThen start (names ++ name :: rest) =
            .error fault)
    (hBlocked :
      Blocked (tree.followWith viewer atLink location names)
        fault) :
    tree.followWith viewer atLinkThen location
        (names ++ name :: rest) =
      .error fault := by
  induction names generalizing location with
  | nil =>
      unfold followWith at hBlocked
      cases hNode : tree.node? location with
      | some node =>
          simp only [hNode] at hBlocked
          contradiction
      | none =>
          simp only [hNode] at hBlocked
          cases hBlocked
          rw [List.nil_append, followWith_cons]
          simp only [step, enter, hNode]
  | cons first names ih =>
      rw [followWith_cons] at hBlocked
      rw [List.cons_append, followWith_cons]
      cases hStep : tree.step viewer location first with
      | error other =>
          simp only [hStep] at hBlocked ⊢
          cases hBlocked
          rfl
      | ok taken =>
          simp only [hStep] at hBlocked ⊢
          cases taken with
          | onward next => exact ih hBlocked
          | linked target =>
              simp only [← List.append_assoc]
              exact hAtLink _ _ hBlocked
          | nothing =>
              have hMissing : fault = .missing := by
                simp only at hBlocked
                split at hBlocked
                · cases hBlocked
                  rfl
                · cases hBlocked
                  rfl
              simp [hMissing]

theorem follow_of_blocked
    {links : Nat}
    {location : Location}
    {names : List String}
    {fault : Fault}
    (hBlocked :
      Blocked (tree.follow viewer links location names)
        fault)
    (name : String)
    (rest : List String) :
    tree.follow viewer links location
        (names ++ name :: rest) =
      .error fault := by
  induction links generalizing location names with
  | zero =>
      refine followWith_of_blocked ?_ hBlocked
      intro start others hMany
      cases hMany
      rfl
  | succ links ih =>
      exact followWith_of_blocked (fun _ _ => ih) hBlocked

/-
  Whatever leads anywhere leads to a node already before its
  last name.
-/
theorem follow_dropLast
    {links : Nat}
    {location : Location}
    {names : List String}
    {last : String}
    {destination : Destination}
    (hFollow :
      tree.follow viewer links location (names ++ [last]) =
        .ok destination) :
    ∃ reached node,
      tree.follow viewer links location names =
        .ok (.present reached node) := by
  rcases blocked_or_present
      (tree.follow viewer links location names) with
    ⟨fault, hBlocked⟩ | hThere
  · rw [follow_of_blocked hBlocked] at hFollow
    contradiction
  · exact hThere

------------------------------------------------------------
-- Working Directories
------------------------------------------------------------

/- To look up a dot is to enter a directory, at most. -/
theorem follow_dot
    (tree : FileTree)
    (viewer : Viewer)
    (links : Nat)
    (location : Location) :
    tree.follow viewer links location ["."] =
      match tree.enter viewer location with
      | .error fault => .error fault
      | .ok () => tree.follow viewer links location [] := by
  rcases exists_follow_eq tree viewer links with
    ⟨atLink, hLinks⟩
  rw [hLinks, followWith_cons]
  unfold step
  cases tree.enter viewer location with
  | error fault => rfl
  | ok entered => rfl

/- Steps are the names, unless a dot stands for none. -/
theorem steps_cases (path : Path) :
    path.steps = path.names.reverse ∨
      path.steps = ["."] ∧ path.names = [] := by
  unfold Path.steps
  split
  · rename_i hHome
    exact .inr ⟨rfl, hHome.2⟩
  · exact .inl rfl

/- Where a path leads, its names lead. -/
theorem follow_of_resolve
    {path : Path}
    {destination : Destination}
    (hPath : tree.resolve viewer path = .ok destination) :
    tree.follow viewer linkLimit
        (viewer.start path.anchor) path.names.reverse =
      .ok destination := by
  unfold resolve at hPath
  cases hAdmits : admits path with
  | error fault => simp [hAdmits] at hPath
  | ok admitted =>
      simp only [hAdmits] at hPath
      rcases steps_cases path with
        hSteps | ⟨hSteps, hNames⟩
      · exact hSteps ▸ hPath
      · rw [hSteps, follow_dot] at hPath
        rw [hNames]
        split at hPath
        · contradiction
        · exact hPath

/- Where names lead that can be entered, their path leads. -/
theorem resolve_of_follow
    {path : Path}
    {reached : Location}
    {node : Node}
    (hAdmits : admits path = .ok ())
    (hFollow :
      tree.follow viewer linkLimit
          (viewer.start path.anchor) path.names.reverse =
        .ok (.present reached node))
    (hEnter : tree.enter viewer reached = .ok ()) :
    tree.resolve viewer path =
      .ok (.present reached node) := by
  unfold resolve
  rw [hAdmits]
  rcases steps_cases path with hSteps | ⟨hSteps, hNames⟩
  · rw [hSteps]
    exact hFollow
  · rcases follow_append hFollow with ⟨left, _, hRest⟩
    have hHere := hRest []
    have hDot := hRest ["."]
    rw [List.append_nil, hFollow] at hHere
    rw [hNames] at hDot
    simp only [hSteps]
    refine hDot.trans ?_
    rw [follow_dot, hEnter]
    exact hHere.symm

------------------------------------------------------------
-- Obstacles
------------------------------------------------------------

/-
  Names are refused as one of them is, or because nothing is
  there, given that the targets of links are.
-/
theorem fault_of_followWith
    {allowed : Fault → Prop}
    (hMissing : allowed .missing)
    (hStep :
      ∀ location name fault,
        tree.step viewer location name = .error fault →
          allowed fault)
    {atLink :
      Location → List String →
        Except Fault Destination}
    (hAtLink :
      ∀ start names fault,
        atLink start names = .error fault → allowed fault)
    {location : Location}
    {names : List String}
    {fault : Fault}
    (hFollow :
      tree.followWith viewer atLink location names =
        .error fault) :
    allowed fault := by
  induction names generalizing location with
  | nil =>
      unfold followWith at hFollow
      split at hFollow
      · contradiction
      · injection hFollow with hFault
        exact hFault ▸ hMissing
  | cons name names ih =>
      rw [followWith_cons] at hFollow
      cases hName : tree.step viewer location name with
      | error other =>
          simp only [hName] at hFollow
          injection hFollow with hFault
          exact hStep location name fault (hFault ▸ hName)
      | ok taken =>
          simp only [hName] at hFollow
          cases taken with
          | onward next => exact ih hFollow
          | linked target => exact hAtLink _ _ _ hFollow
          | nothing =>
              simp only at hFollow
              split at hFollow
              · contradiction
              · injection hFollow with hFault
                exact hFault ▸ hMissing

theorem fault_of_follow
    {allowed : Fault → Prop}
    (hMissing : allowed .missing)
    (hMany : allowed .tooManyLinks)
    (hStep :
      ∀ location name fault,
        tree.step viewer location name = .error fault →
          allowed fault)
    {links : Nat}
    {location : Location}
    {names : List String}
    {fault : Fault}
    (hFollow :
      tree.follow viewer links location names =
        .error fault) :
    allowed fault := by
  induction links generalizing location names fault with
  | zero =>
      refine fault_of_followWith hMissing hStep ?_ hFollow
      intro start others other hOther
      injection hOther with hFault
      exact hFault ▸ hMany
  | succ links ih =>
      exact fault_of_followWith hMissing hStep
        (fun _ _ _ => ih) hFollow

------------------------------------------------------------
-- Trees without Links
------------------------------------------------------------

/- No node of a tree is a symbolic link. -/
def IsLinkFree (tree : FileTree) : Prop :=
  ∀ location target,
    tree.node? location ≠ some (.link target)

/- What is found is stored. -/
theorem mem_of_find
    {nodes : List (Location × Node)}
    {location : Location}
    {node : Node}
    (hFound : find location nodes = some node) :
    (location, node) ∈ nodes := by
  induction nodes with
  | nil => simp [find] at hFound
  | cons entry rest ih =>
      unfold find at hFound
      split at hFound
      · rename_i hKey
        injection hFound with hNode
        rw [← hKey, ← hNode]
        exact List.mem_cons_self
      · exact List.mem_cons_of_mem entry (ih hFound)

/- A tree of files and directories is without links. -/
theorem isLinkFree_of_forall
    (hNodes :
      ∀ entry ∈ tree.nodes,
        (entry.2.isDirectory || entry.2.isFile) = true) :
    tree.IsLinkFree := by
  intro location target hLink
  have hKind := hNodes _ (mem_of_find hLink)
  simp [Node.isDirectory, Node.isFile] at hKind

/- What a directory has under a name. -/
def lookUp
    (tree : FileTree)
    (viewer : Viewer)
    (location : Location)
    (name : String) :
    Except Fault Destination :=
  match tree.enter viewer location with
  | .error fault => .error fault
  | .ok () =>
      if nameLimit < name.utf8ByteSize then
        .error .nameTooLong
      else
        match tree.node? (name :: location) with
        | none => .ok (.vacant location name)
        | some node => .ok (.present (name :: location) node)

/- Without links, a single name is looked up. -/
theorem follow_single
    (hFree : tree.IsLinkFree)
    (links : Nat)
    (location : Location)
    {name : String}
    (hHere : name ≠ ".")
    (hAbove : name ≠ "..") :
    tree.follow viewer links location [name] =
      tree.lookUp viewer location name := by
  have hStep :
      ∀ atLink,
        tree.followWith viewer atLink location [name] =
          tree.lookUp viewer location name := by
    intro atLink
    rw [followWith_cons]
    unfold lookUp step
    cases tree.enter viewer location with
    | error fault => rfl
    | ok entered =>
        simp only [if_neg hHere, if_neg hAbove]
        by_cases hLong : nameLimit < name.utf8ByteSize
        · simp only [if_pos hLong]
        simp only [if_neg hLong]
        cases hNode : tree.node? (name :: location) with
        | none => rfl
        | some node =>
            cases node with
            | link target =>
                exact absurd hNode (hFree _ target)
            | file content permissions =>
                simp [followWith, hNode]
            | directory permissions =>
                simp [followWith, hNode]
  rcases exists_follow_eq tree viewer links with
    ⟨atLink, hLinks⟩
  rw [hLinks]
  exact hStep atLink

/- One more name of a path is looked up where it led. -/
theorem resolve_child
    (hFree : tree.IsLinkFree)
    {path : Path}
    {location : Location}
    {node : Node}
    (hPath :
      tree.resolve viewer path =
        .ok (.present location node))
    {name : Name}
    (hHere : name ≠ ".")
    (hAbove : name ≠ "..") :
    tree.resolve viewer (path.child name) =
      match admits (path.child name) with
      | .error fault => .error fault
      | .ok () => tree.lookUp viewer location name := by
  rcases follow_append (follow_of_resolve hPath) with
    ⟨left, _, hRest⟩
  unfold resolve
  cases admits (path.child name) with
  | error fault => rfl
  | ok admitted =>
      simp only [Path.child, Path.steps_cons]
      rw [hRest [name],
        follow_single hFree left location hHere hAbove]

/- What is found under a name lies in the directory. -/
theorem lookUp_eq_present
    {location reached : Location}
    {name : String}
    {node : Node}
    (hFound :
      tree.lookUp viewer location name =
        .ok (.present reached node)) :
    reached = name :: location ∧
      tree.node? (name :: location) = some node ∧
      tree.enter viewer location = .ok () := by
  unfold lookUp at hFound
  cases hEnter : tree.enter viewer location with
  | error fault => simp [hEnter] at hFound
  | ok entered =>
      simp only [hEnter] at hFound
      split at hFound
      · contradiction
      · cases hNode : tree.node? (name :: location) with
        | none => simp [hNode] at hFound
        | some entry =>
            simp only [hNode] at hFound
            injection hFound with hFound
            injection hFound with hReached hEntry
            exact ⟨hReached.symm, by rw [hEntry], rfl⟩

/- The entry that a longer path leads to. -/
theorem resolve_child_present
    (hFree : tree.IsLinkFree)
    {path : Path}
    {location reached : Location}
    {node entry : Node}
    (hPath :
      tree.resolve viewer path =
        .ok (.present location node))
    {name : Name}
    (hHere : name ≠ ".")
    (hAbove : name ≠ "..")
    (hChild :
      tree.resolve viewer (path.child name) =
        .ok (.present reached entry)) :
    reached = name :: location ∧
      tree.node? (name :: location) = some entry ∧
      tree.enter viewer location = .ok () := by
  rw [resolve_child hFree hPath hHere hAbove] at hChild
  split at hChild
  · contradiction
  · exact lookUp_eq_present hChild

/- A child that is a directory lies in its directory. -/
theorem resolve_child_directory
    (hFree : tree.IsLinkFree)
    {path : Path}
    {location : Location}
    {permissions : Permissions}
    (hPath :
      tree.resolve viewer path =
        .ok (.present location (.directory permissions)))
    {name : Name}
    (hNe : name ≠ "." ∧ name ≠ "..")
    (hDirectory :
      tree.LeadsToDirectory viewer (path.child name)) :
    ∃ others,
      tree.resolve viewer (path.child name) =
        .ok (.present (name :: location)
          (.directory others)) := by
  rcases hDirectory with ⟨reached, others, hStatus⟩
  rw [status_eq_ok_iff] at hStatus
  have hReached :=
    (resolve_child_present hFree hPath hNe.1 hNe.2
      hStatus).1
  exact ⟨others, by rw [hStatus, hReached]⟩

end FileTree

end Disk

end Aggregation
