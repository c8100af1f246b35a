import Aggregation.Proofs.Disk.Resolution
import Mathlib.Data.List.Infix
import Mathlib.Data.List.Perm.Subperm

/-
  The links that a path meets.

  To follow a path takes some number of links, whoever
  counts them.  A path that takes more than the limit leads
  nowhere, and one name more takes a link only if the
  directory has a link of that name.  A tree is at most as
  deep as it has directories.

  Key definitions include:
    * `FileTree.Traverses`
    * `FileTree.directoryCount`

  Key theorems include:
    * `FileTree.Traverses.split`
    * `FileTree.Traverses.unique`
    * `FileTree.follow_eq_tooManyLinks`
    * `FileTree.Traverses.eq_of_name`
    * `FileTree.length_lt_directoryCount`
-/

------------------------------------------------------------
-- Traversals
------------------------------------------------------------

namespace Aggregation

namespace Disk

namespace FileTree

/-
  Names that lead from a location to another one, with the
  number of links that are met on the way.
-/
inductive Traverses
    (tree : FileTree)
    (viewer : Viewer) :
    Location → List String → Nat → Location → Prop where
  | here (location : Location) :
      Traverses tree viewer location [] 0 location
  | onward
      {location next final : Location}
      {name : String}
      {rest : List String}
      {links : Nat}
      (hStep :
        tree.step viewer location name = .ok (.onward next))
      (hRest :
        Traverses tree viewer next rest links final) :
      Traverses tree viewer location (name :: rest) links
        final
  | linked
      {location final : Location}
      {name target : String}
      {rest : List String}
      {links : Nat}
      (hStep :
        tree.step viewer location name =
          .ok (.linked target))
      (hRest :
        Traverses tree viewer (targetStart location target)
          (targetNames target ++ rest) links final) :
      Traverses tree viewer location (name :: rest)
        (links + 1) final

variable {tree : FileTree}
variable {viewer : Viewer}
variable {location middle final : Location}
variable {names rest : List String}
variable {links more : Nat}

/- A traversal that is followed by another one. -/
theorem Traverses.split
    (hWhole :
      tree.Traverses viewer location (names ++ rest) links
        final) :
    ∃ first second middle,
      tree.Traverses viewer location names first middle ∧
        tree.Traverses viewer middle rest second final ∧
        links = first + second := by
  generalize hNames : names ++ rest = whole at hWhole
  induction hWhole generalizing names with
  | here location =>
      rcases List.append_eq_nil_iff.mp hNames with
        ⟨rfl, rfl⟩
      exact ⟨0, 0, location, .here location,
        .here location, rfl⟩
  | @onward location next final name others links hStep
      hRest ih =>
      cases names with
      | nil =>
          rw [List.nil_append] at hNames
          subst hNames
          exact ⟨0, links, location, .here location,
            .onward hStep hRest, (Nat.zero_add links).symm⟩
      | cons first names =>
          injection hNames with hName hOthers
          subst hName
          rcases ih hOthers with
            ⟨left, right, middle, hLeft, hRight, hSum⟩
          exact ⟨left, right, middle, .onward hStep hLeft,
            hRight, hSum⟩
  | @linked location final name target others links hStep
      hRest ih =>
      cases names with
      | nil =>
          rw [List.nil_append] at hNames
          subst hNames
          exact ⟨0, links + 1, location, .here location,
            .linked hStep hRest,
            (Nat.zero_add (links + 1)).symm⟩
      | cons first names =>
          injection hNames with hName hOthers
          subst hName
          have hTarget :
              (targetNames target ++ names) ++ rest =
                targetNames target ++ others := by
            rw [List.append_assoc]
            exact congrArg (targetNames target ++ ·) hOthers
          rcases ih hTarget with
            ⟨left, right, middle, hLeft, hRight, hSum⟩
          refine ⟨left + 1, right, middle,
            .linked hStep hLeft, hRight, ?_⟩
          omega

/- The names decide where they lead and what they meet. -/
theorem Traverses.unique
    {other : Location}
    (hFirst :
      tree.Traverses viewer location names links final)
    (hSecond :
      tree.Traverses viewer location names more other) :
    links = more ∧ final = other := by
  induction hFirst generalizing more with
  | here location =>
      cases hSecond with
      | here => exact ⟨rfl, rfl⟩
  | onward hStep _ ih =>
      cases hSecond with
      | onward hOther hRest =>
          rw [hStep] at hOther
          injection hOther with hOther
          injection hOther with hNext
          subst hNext
          exact ih hRest
      | linked hOther hRest =>
          rw [hStep] at hOther
          injection hOther with hOther
          contradiction
  | linked hStep _ ih =>
      cases hSecond with
      | onward hOther hRest =>
          rw [hStep] at hOther
          injection hOther with hOther
          contradiction
      | linked hOther hRest =>
          rw [hStep] at hOther
          injection hOther with hOther
          injection hOther with hTarget
          subst hTarget
          rcases ih hRest with ⟨hLinks, hFinal⟩
          exact ⟨congrArg (· + 1) hLinks, hFinal⟩

------------------------------------------------------------
-- Allowances
------------------------------------------------------------

/- What leads on takes no link from what is allowed. -/
theorem follow_onward
    {next : Location}
    {name : String}
    (hStep :
      tree.step viewer location name = .ok (.onward next))
    (allowed : Nat) :
    tree.follow viewer allowed location (name :: rest) =
      tree.follow viewer allowed next rest := by
  rcases exists_follow_eq tree viewer allowed with
    ⟨atLink, hAllowed⟩
  rw [hAllowed, followWith_cons, hStep]

/- A link takes one of those that are allowed. -/
theorem follow_linked
    {name target : String}
    (hStep :
      tree.step viewer location name = .ok (.linked target))
    (allowed : Nat) :
    tree.follow viewer allowed location (name :: rest) =
      match allowed with
      | 0 => .error .tooManyLinks
      | fewer + 1 =>
          tree.follow viewer fewer
            (targetStart location target)
            (targetNames target ++ rest) := by
  cases allowed with
  | zero =>
      unfold follow
      rw [followWith_cons, hStep]
  | succ fewer =>
      conv => lhs; unfold follow
      rw [followWith_cons, hStep]

/- Names that take more links than allowed lead nowhere. -/
theorem follow_eq_tooManyLinks
    (hTraverses :
      tree.Traverses viewer location names links final)
    {allowed : Nat}
    (hMore : allowed < links) :
    tree.follow viewer allowed location names =
      .error .tooManyLinks := by
  induction hTraverses generalizing allowed with
  | here location => omega
  | onward hStep _ ih =>
      rw [follow_onward hStep]
      exact ih hMore
  | linked hStep _ ih =>
      rw [follow_linked hStep]
      cases allowed with
      | zero => rfl
      | succ fewer => exact ih (by omega)

/- Names that lead to a node take as many as are allowed. -/
theorem exists_traverses_of_followWith
    {allowed : Nat}
    {node : Node}
    {atLink :
      Location → List String →
        Except Fault Destination}
    (hAtLink :
      ∀ start names,
        atLink start names = .ok (.present final node) →
          ∃ links,
            links + 1 ≤ allowed ∧
              tree.Traverses viewer start names links final)
    (hFollow :
      tree.followWith viewer atLink location names =
        .ok (.present final node)) :
    ∃ links ≤ allowed,
      tree.Traverses viewer location names links final := by
  induction names generalizing location with
  | nil =>
      unfold followWith at hFollow
      split at hFollow
      · injection hFollow with hFollow
        injection hFollow with hFinal _
        subst hFinal
        exact ⟨0, Nat.zero_le allowed, .here location⟩
      · contradiction
  | cons name names ih =>
      rw [followWith_cons] at hFollow
      cases hStep : tree.step viewer location name with
      | error fault => simp [hStep] at hFollow
      | ok taken =>
          simp only [hStep] at hFollow
          cases taken with
          | onward next =>
              rcases ih hFollow with
                ⟨links, hLinks, hRest⟩
              exact ⟨links, hLinks, .onward hStep hRest⟩
          | linked target =>
              rcases hAtLink _ _ hFollow with
                ⟨links, hLinks, hRest⟩
              exact ⟨links + 1, hLinks,
                .linked hStep hRest⟩
          | nothing =>
              simp only at hFollow
              split at hFollow
              · simp at hFollow
              · simp at hFollow

theorem exists_traverses
    {allowed : Nat}
    {node : Node}
    (hFollow :
      tree.follow viewer allowed location names =
        .ok (.present final node)) :
    ∃ links ≤ allowed,
      tree.Traverses viewer location names links final := by
  induction allowed generalizing location names with
  | zero =>
      apply exists_traverses_of_followWith _ hFollow
      intro start others hNone
      contradiction
  | succ allowed ih =>
      apply exists_traverses_of_followWith _ hFollow
      intro start others hTarget
      rcases ih hTarget with ⟨links, hLinks, hRest⟩
      exact ⟨links, by omega, hRest⟩

------------------------------------------------------------
-- Paths
------------------------------------------------------------

/- The links that a path meets, as far as it leads there. -/
def PathTraverses
    (tree : FileTree)
    (viewer : Viewer)
    (path : Path)
    (links : Nat)
    (final : Location) :
    Prop :=
  tree.Traverses viewer (viewer.start path.anchor)
    path.names.reverse links final

/- A path that leads to a node meets few enough links. -/
theorem exists_pathTraverses
    {path : Path}
    {node : Node}
    (hPath :
      tree.resolve viewer path =
        .ok (.present final node)) :
    ∃ links ≤ linkLimit,
      tree.PathTraverses viewer path links final :=
  exists_traverses (follow_of_resolve hPath)

/-
  A path that meets too many links is no path of a
  directory, as long as it can be looked up at all.
-/
theorem isDirectory?_of_tooManyLinks
    {path : Path}
    (hAdmits : admits path = .ok ())
    (hTraverses :
      tree.PathTraverses viewer path links final)
    (hMany : linkLimit < links) :
    tree.isDirectory? viewer path = .ok false := by
  have hResolve :
      tree.resolve viewer path = .error .tooManyLinks := by
    unfold resolve
    simp only [hAdmits]
    rcases steps_cases path with hSteps | ⟨_, hNames⟩
    · rw [hSteps]
      exact follow_eq_tooManyLinks hTraverses hMany
    · unfold PathTraverses at hTraverses
      rw [hNames] at hTraverses
      cases hTraverses
      contradiction
  unfold isDirectory? test status
  rw [hResolve]
  rfl

/- What a name does that is no dot depends on its node. -/
theorem step_of_name
    {name : String}
    {taken : Step}
    (hNe : name ≠ "." ∧ name ≠ "..")
    (hStep : tree.step viewer location name = .ok taken) :
    (tree.node? (name :: location) = none ∧
        taken = .nothing) ∨
      (∃ target,
        tree.node? (name :: location) =
            some (.link target) ∧
          taken = .linked target) ∨
      (∀ target,
        tree.node? (name :: location) ≠
          some (.link target)) ∧
        taken = .onward (name :: location) := by
  unfold step at hStep
  cases hEnter : tree.enter viewer location with
  | error fault => simp [hEnter] at hStep
  | ok entered =>
      simp only [hEnter] at hStep
      rw [if_neg hNe.1, if_neg hNe.2] at hStep
      by_cases hLong : nameLimit < name.utf8ByteSize
      · rw [if_pos hLong] at hStep
        contradiction
      · rw [if_neg hLong] at hStep
        cases hNode : tree.node? (name :: location) with
        | none =>
            simp only [hNode] at hStep
            injection hStep with hTaken
            exact .inl ⟨rfl, hTaken.symm⟩
        | some node =>
            simp only [hNode] at hStep
            cases node with
            | link target =>
                injection hStep with hTaken
                exact .inr (.inl ⟨target, rfl, hTaken.symm⟩)
            | file content permissions =>
                injection hStep with hTaken
                exact .inr (.inr ⟨by simp, hTaken.symm⟩)
            | directory permissions =>
                injection hStep with hTaken
                exact .inr (.inr ⟨by simp, hTaken.symm⟩)

/- What one more name does where a path has led. -/
theorem Traverses.eq_of_name
    {name : String}
    (hNe : name ≠ "." ∧ name ≠ "..")
    (hTraverses :
      tree.Traverses viewer location [name] links final) :
    (∃ target,
        tree.node? (name :: location) =
            some (.link target) ∧
          1 ≤ links) ∨
      (∀ target,
          tree.node? (name :: location) ≠
            some (.link target)) ∧
        links = 0 ∧
        final = name :: location := by
  cases hTraverses with
  | onward hStep hRest =>
      cases hRest with
      | here =>
          right
          rcases step_of_name hNe hStep with
            ⟨_, hNothing⟩ | ⟨target, _, hLinked⟩ |
              ⟨hNoLink, hOnward⟩
          · contradiction
          · contradiction
          · injection hOnward with hFinal
            exact ⟨hNoLink, rfl, hFinal⟩
  | linked hStep hRest =>
      left
      rcases step_of_name hNe hStep with
        ⟨_, hNothing⟩ | ⟨target, hNode, _⟩ | ⟨_, hOnward⟩
      · contradiction
      · exact ⟨target, hNode, Nat.le_add_left 1 _⟩
      · contradiction

/- One more name of a path goes on from where it led. -/
theorem PathTraverses.child
    {path : Path}
    {name : Name}
    (hPath : tree.PathTraverses viewer path links location)
    (hChild :
      tree.PathTraverses viewer (path.child name) more
        final) :
    ∃ taken,
      tree.Traverses viewer location [name] taken final ∧
        more = links + taken := by
  unfold PathTraverses at hPath hChild
  simp only [Path.child, List.reverse_cons] at hChild
  rcases hChild.split with
    ⟨first, second, middle, hFirst, hSecond, hSum⟩
  rcases hFirst.unique hPath with ⟨hLinks, hMiddle⟩
  subst hLinks hMiddle
  exact ⟨second, hSecond, hSum⟩

------------------------------------------------------------
-- Depth
------------------------------------------------------------

/- Number of directories of a tree. -/
def directoryCount (tree : FileTree) : Nat :=
  tree.nodes.countP fun entry => entry.2.isDirectory

/- All that lies above a directory are directories. -/
theorem directory_of_suffix
    {location above : Location}
    (hAbove : above <:+ location)
    {permissions : Permissions}
    (hDirectory :
      tree.node? location =
        some (.directory permissions)) :
    ∃ others,
      tree.node? above = some (.directory others) := by
  induction location generalizing permissions with
  | nil =>
      rw [List.suffix_nil.mp hAbove]
      exact ⟨permissions, hDirectory⟩
  | cons name parent ih =>
      rcases List.suffix_cons_iff.mp hAbove with
        rfl | hParent
      · exact ⟨permissions, hDirectory⟩
      · rcases (named_of_node? hDirectory).2 with
          ⟨others, hThere⟩
        exact ih hParent hThere

/- What lies above a location is shorter each time. -/
theorem nodup_tails (location : Location) :
    location.tails.Nodup := by
  induction location with
  | nil => simp
  | cons name parent ih =>
      rw [List.tails_cons, List.nodup_cons]
      refine ⟨?_, ih⟩
      intro hSuffix
      have hLength :=
        ((List.mem_tails _ parent).mp hSuffix).length_le
      rw [List.length_cons] at hLength
      omega

/- A directory lies at most as deep as there are others. -/
theorem length_lt_directoryCount
    {permissions : Permissions}
    (hDirectory :
      tree.node? location =
        some (.directory permissions)) :
    location.length < tree.directoryCount := by
  let directories :=
    (tree.nodes.filter fun entry =>
      entry.2.isDirectory).map (·.1)
  have hSubset : location.tails ⊆ directories := by
    intro above hAbove
    rcases directory_of_suffix
        ((List.mem_tails above location).mp hAbove)
        hDirectory with
      ⟨others, hThere⟩
    exact List.mem_map.mpr
      ⟨(above, .directory others),
        List.mem_filter.mpr ⟨mem_of_find hThere, rfl⟩, rfl⟩
  have hLength :=
    (List.subperm_of_subset (nodup_tails location)
      hSubset).length_le
  rw [List.length_tails, List.length_map,
    ← List.countP_eq_length_filter] at hLength
  exact hLength

end FileTree

end Disk

end Aggregation
