import Aggregation.Proofs.Disk.Traversal
import Aggregation.Proofs.Scan.Trails

/-
  The search below a directory ends.

  A search goes on below every entry that is a directory and
  no component.  Links may lead it back to where it was, but
  every link on its way counts towards the limit of links,
  and between two links it only goes deeper.  So the search
  without any bound on its depth ends, and the bound of
  `scanBelow` never shows.

  Key definitions include:
    * `Continues`
    * `IsSearchTrail`
    * `Searches`
    * `linksAlong`
    * `SearchEnds`

  Key theorems include:
    * `Searches.unique`
    * `searches_scanBelow`
    * `IsSearchTrail.bounds`
    * `search_ends`
-/

------------------------------------------------------------
-- Searches without a Bound
------------------------------------------------------------

namespace Aggregation

open Disk (FileTree Location Permissions Viewer)
open Disk.FileTree (linkLimit pathLimit)

/- A search of a directory goes on below one of its entries. -/
structure Continues
    (tree : FileTree)
    (viewer : Viewer)
    (settings : Settings)
    (directory : Path)
    (name : Name) :
    Prop where
  listed : tree.Lists viewer directory name
  searchable :
    isSearchable tree viewer (directory.child name) =
      .ok true
  container :
    isSearchable tree viewer
        ((directory.child name).join
          settings.elementsName.text) =
      .ok false

/- Names below a directory along which a search goes on. -/
inductive IsSearchTrail
    (tree : FileTree)
    (viewer : Viewer)
    (settings : Settings) :
    Path → List Name → Prop where
  | nil (directory : Path) :
      IsSearchTrail tree viewer settings directory []
  | cons
      {directory : Path}
      {name : Name}
      {rest : List Name}
      (hFirst :
        Continues tree viewer settings directory name)
      (hRest :
        IsSearchTrail tree viewer settings
          (directory.child name) rest) :
      IsSearchTrail tree viewer settings directory
        (name :: rest)

/-
  A search that ends, with its answer.  It is not bounded in
  depth, and it is only there if all searches below it are.
-/
inductive Searches
    (tree : FileTree)
    (viewer : Viewer)
    (settings : Settings) :
    Path → Except Failure (List Component) → Prop where
  | unlisted
      {directory : Path}
      {failure : Failure}
      (hNames :
        entryNames tree viewer settings directory =
          .error failure) :
      Searches tree viewer settings directory
        (.error failure)
  | listed
      {directory : Path}
      {names : List Name}
      (below : Path → Except Failure (List Component))
      (hNames :
        entryNames tree viewer settings directory =
          .ok names)
      (hBelow :
        ∀ name,
          Continues tree viewer settings directory name →
            Searches tree viewer settings
              (directory.child name)
              (below (directory.child name))) :
      Searches tree viewer settings directory
        (scanEntries (scanEntry tree viewer settings below)
          directory names)

variable {tree : FileTree}
variable {viewer : Viewer}
variable {settings : Settings}
variable {directory library : Path}
variable {trail : List Name}

/- An entry is searched only if the search goes on there. -/
theorem scanEntry_congr
    {first second : Path → Except Failure (List Component)}
    {item : Path}
    (hSame :
      isSearchable tree viewer item = .ok true →
        isSearchable tree viewer
            (item.join settings.elementsName.text) =
          .ok false →
        first item = second item) :
    scanEntry tree viewer settings first item =
      scanEntry tree viewer settings second item := by
  unfold scanEntry
  cases hItem : isSearchable tree viewer item with
  | error failure => rfl
  | ok isDirectory =>
      cases isDirectory with
      | false => rfl
      | true =>
          simp only
          cases hElements :
              isSearchable tree viewer
                (item.join settings.elementsName.text) with
          | error failure => rfl
          | ok isComponent =>
              cases isComponent with
              | false => exact hSame hItem hElements
              | true => rfl

/- Only what goes on below its entries decides a search. -/
theorem scanEntries_congr
    {first second : Path → Except Failure (List Component)}
    {names : List Name}
    (hListed :
      ∀ name ∈ names, tree.Lists viewer directory name)
    (hSame :
      ∀ name,
        Continues tree viewer settings directory name →
          first (directory.child name) =
            second (directory.child name)) :
    scanEntries (scanEntry tree viewer settings first)
        directory names =
      scanEntries (scanEntry tree viewer settings second)
        directory names := by
  induction names with
  | nil => rfl
  | cons name names ih =>
      rcases List.forall_mem_cons.mp hListed with
        ⟨hName, hNames⟩
      unfold scanEntries
      rw [ih hNames, scanEntry_congr
        fun hItem hElements =>
          hSame name ⟨hName, hItem, hElements⟩]

/- A search has one answer. -/
theorem Searches.unique
    {answer other : Except Failure (List Component)}
    (hFirst :
      Searches tree viewer settings directory answer)
    (hSecond :
      Searches tree viewer settings directory other) :
    answer = other := by
  induction hFirst generalizing other with
  | unlisted hNames =>
      cases hSecond with
      | unlisted hOther =>
          rw [hNames] at hOther
          injection hOther with hFailure
          rw [hFailure]
      | listed below hOther hBelow =>
          rw [hNames] at hOther
          contradiction
  | listed below hNames hBelow ih =>
      cases hSecond with
      | unlisted hOther =>
          rw [hNames] at hOther
          contradiction
      | listed others hOther hOthers =>
          rw [hNames] at hOther
          injection hOther with hSame
          rw [← hSame]
          refine scanEntries_congr ?_ ?_
          · intro name hName
            exact (mem_entryNames_iff hNames name).mp hName
          · intro name hGoesOn
            exact ih name hGoesOn (hOthers name hGoesOn)

/- A bound that no trail comes to does not show. -/
theorem searches_scanBelow
    (depth : Nat)
    (hBound :
      ∀ trail,
        IsSearchTrail tree viewer settings directory trail →
          trail.length < depth) :
    Searches tree viewer settings directory
      (scanBelow tree viewer settings depth directory) := by
  induction depth generalizing directory with
  | zero =>
      have hNone := hBound [] (.nil directory)
      exact absurd hNone (Nat.not_lt_zero 0)
  | succ depth ih =>
      unfold scanBelow
      cases hNames :
          entryNames tree viewer settings directory with
      | error failure => exact .unlisted hNames
      | ok names =>
          refine .listed _ hNames ?_
          intro name hGoesOn
          apply ih
          intro rest hRest
          have hLonger :=
            hBound (name :: rest) (.cons hGoesOn hRest)
          exact Nat.lt_of_succ_lt_succ hLonger

------------------------------------------------------------
-- Links on the Way
------------------------------------------------------------

/- Test for an entry of a directory that is a link. -/
def isLinkEntry
    (tree : FileTree)
    (viewer : Viewer)
    (directory : Path)
    (name : Name) :
    Bool :=
  match tree.status viewer directory with
  | .error _ => false
  | .ok (location, _) =>
      match tree.node? (name :: location) with
      | some (.link _) => true
      | _ => false

/- Number of the names of a trail that are links. -/
def linksAlong
    (tree : FileTree)
    (viewer : Viewer) :
    Path → List Name → Nat
  | _, [] => 0
  | directory, name :: rest =>
      (if isLinkEntry tree viewer directory name then 1
        else 0) +
        linksAlong tree viewer (directory.child name) rest

/- What the node of a name says of its entry. -/
theorem isLinkEntry_eq_true_iff
    {location : Location}
    {node : Disk.Node}
    (hDirectory :
      tree.status viewer directory = .ok (location, node))
    (name : Name) :
    isLinkEntry tree viewer directory name = true ↔
      ∃ target,
        tree.node? (name :: location) =
          some (.link target) := by
  unfold isLinkEntry
  simp only [hDirectory]
  cases tree.node? (name :: location) with
  | none => simp
  | some entry => cases entry <;> simp

/-
  Every link on a trail counts towards the limit, and every
  other name leads one level deeper.  So what a trail can
  still do is bounded by the links that are left and by the
  levels below where it is.
-/
theorem IsSearchTrail.bounds
    {location : Location}
    {permissions : Permissions}
    {links : Nat}
    (hTrail :
      IsSearchTrail tree viewer settings directory trail)
    (hDirectory :
      tree.resolve viewer directory =
        .ok (.present location (.directory permissions)))
    (hPath :
      tree.PathTraverses viewer directory links location)
    (hLinks : links ≤ linkLimit) :
    links + linksAlong tree viewer directory trail ≤
        linkLimit ∧
      trail.length + location.length +
          links * tree.directoryCount <
        (linkLimit + 1) * tree.directoryCount := by
  induction hTrail generalizing location permissions
      links with
  | nil directory =>
      have hDepth :=
        FileTree.length_lt_directoryCount
          (FileTree.node?_of_resolve hDirectory)
      have hSpent :=
        Nat.mul_le_mul_right tree.directoryCount hLinks
      rw [Nat.succ_mul, List.length_nil]
      exact ⟨hLinks, by omega⟩
  | @cons directory name rest hFirst hRest ih =>
      rcases isSearchable_eq_true_iff.mp
          hFirst.searchable with
        ⟨next, others, hStatus⟩
      have hChild := FileTree.status_eq_ok_iff.mp hStatus
      rcases FileTree.exists_pathTraverses hChild with
        ⟨more, hMore, hNext⟩
      rcases hPath.child hNext with ⟨taken, hTaken, hSum⟩
      rcases ih hChild hNext hMore with
        ⟨hLinksLeft, hLevelsLeft⟩
      have hEntry :=
        isLinkEntry_eq_true_iff
          (FileTree.status_eq_ok_iff.mpr hDirectory) name
      have hDepth :=
        FileTree.length_lt_directoryCount
          (FileTree.node?_of_resolve hDirectory)
      unfold linksAlong
      rw [List.length_cons]
      rcases hTaken.eq_of_name hFirst.listed.ne_dots with
        ⟨target, hLink, hOne⟩ | ⟨hNoLink, hNone, hDeeper⟩
      · rw [if_pos (hEntry.mpr ⟨target, hLink⟩)]
        have hSpent :
            (links + 1) * tree.directoryCount ≤
              more * tree.directoryCount :=
          Nat.mul_le_mul_right tree.directoryCount
            (by omega)
        rw [Nat.succ_mul] at hSpent
        exact ⟨by omega, by omega⟩
      · have hPlain :
            isLinkEntry tree viewer directory name ≠
              true := by
          intro hLink
          rcases hEntry.mp hLink with ⟨target, hTarget⟩
          exact hNoLink target hTarget
        have hSame : more = links := by omega
        rw [if_neg hPlain]
        rw [hSame] at hLinksLeft hLevelsLeft
        rw [hDeeper, List.length_cons] at hLevelsLeft
        exact ⟨by omega, by omega⟩

/- A search goes on only where there is a directory. -/
theorem Continues.exists_resolve
    {name : Name}
    (hGoesOn :
      Continues tree viewer settings directory name) :
    ∃ location permissions,
      tree.resolve viewer directory =
        .ok (.present location
          (.directory permissions)) := by
  rcases hGoesOn.listed with ⟨names, hList, _⟩
  rcases FileTree.list_eq_ok hList with
    ⟨location, permissions, hStatus, _⟩
  exact ⟨location, permissions,
    FileTree.status_eq_ok_iff.mp hStatus⟩

/- Bounds of a trail from the library of a search. -/
theorem IsSearchTrail.bounds_library
    (hTrail :
      IsSearchTrail tree viewer settings library trail) :
    linksAlong tree viewer library trail ≤ linkLimit ∧
      trail.length ≤
        (linkLimit + 1) * tree.directoryCount := by
  cases hTrail with
  | nil =>
      exact ⟨Nat.zero_le linkLimit, Nat.zero_le _⟩
  | cons hFirst hRest =>
      rcases hFirst.exists_resolve with
        ⟨location, permissions, hDirectory⟩
      rcases FileTree.exists_pathTraverses hDirectory with
        ⟨links, hLinks, hPath⟩
      have hBounds :=
        (IsSearchTrail.cons hFirst hRest).bounds hDirectory
          hPath hLinks
      exact ⟨by omega, by omega⟩

------------------------------------------------------------
-- Lengths of Paths
------------------------------------------------------------

/- A text of names has a byte for each of the last ones. -/
theorem length_le_utf8ByteSize_joinWith
    (separator : String)
    (front : List String)
    {names : List String}
    (hNonempty : ∀ name ∈ names, name ≠ "") :
    names.length ≤
      (Text.joinWith separator
        (front ++ names)).utf8ByteSize := by
  induction front with
  | nil =>
      rw [List.nil_append]
      induction names with
      | nil => exact Nat.zero_le _
      | cons name names ih =>
          rcases List.forall_mem_cons.mp hNonempty with
            ⟨hName, hNames⟩
          have hSize : 0 < name.utf8ByteSize := by
            rw [Nat.pos_iff_ne_zero, Ne,
              String.utf8ByteSize_eq_zero_iff]
            exact hName
          have hRest := ih hNames
          cases names with
          | nil => exact hSize
          | cons other names =>
              simp only [Text.joinWith,
                String.utf8ByteSize_append,
                List.length_cons] at hRest ⊢
              omega
  | cons first front ih =>
      cases hAll : front ++ names with
      | nil =>
          rw [(List.append_eq_nil_iff.mp hAll).2]
          exact Nat.zero_le _
      | cons other others =>
          rw [hAll] at ih
          simp only [List.cons_append, hAll, Text.joinWith,
            String.utf8ByteSize_append]
          omega

/- A trail is no longer than a path can be. -/
theorem IsSearchTrail.admitted
    (hTrail :
      IsSearchTrail tree viewer settings directory trail) :
    (∀ name ∈ trail, name ≠ "") ∧
      (trail ≠ [] →
        FileTree.admits (directory.descend trail) =
          .ok ()) := by
  induction hTrail with
  | nil directory =>
      exact ⟨List.forall_mem_nil _, absurd rfl⟩
  | @cons directory name rest hFirst hRest ih =>
      have hName := hFirst.listed.isEntryName
      simp only [Disk.isEntryName, Bool.and_eq_true,
        bne_iff_ne] at hName
      refine ⟨List.forall_mem_cons.mpr
        ⟨hName.1.1.1.1.1, ih.1⟩, ?_⟩
      intro _
      rw [Path.descend_cons]
      by_cases hEmpty : rest = []
      · rcases isSearchable_eq_true_iff.mp
            hFirst.searchable with
          ⟨location, permissions, hStatus⟩
        rw [FileTree.status_eq_ok_iff] at hStatus
        unfold FileTree.resolve at hStatus
        rw [hEmpty, Path.descend_nil]
        cases hAdmits :
            FileTree.admits (directory.child name) with
        | ok admitted => rfl
        | error fault => simp [hAdmits] at hStatus
      · exact ih.2 hEmpty

theorem IsSearchTrail.length_lt_pathLimit
    (hTrail :
      IsSearchTrail tree viewer settings library trail) :
    trail.length < pathLimit := by
  by_cases hEmpty : trail = []
  · rw [hEmpty]
    decide
  rcases hTrail.admitted with ⟨hNames, hAdmitted⟩
  have hAdmits := hAdmitted hEmpty
  unfold FileTree.admits at hAdmits
  split at hAdmits
  · contradiction
  split at hAdmits
  · contradiction
  rename_i hShort
  have hBytes :=
    length_le_utf8ByteSize_joinWith "/"
      library.names.reverse hNames
  unfold Path.byteSize Path.text Path.descend at hShort
  simp only [List.reverse_append, List.reverse_reverse,
    List.append_eq_nil_iff, List.reverse_eq_nil_iff, hEmpty,
    false_and, and_false, if_false,
    String.utf8ByteSize_append] at hShort
  omega

------------------------------------------------------------
-- Termination
------------------------------------------------------------

/-
  The search below a library ends, whatever links there are.
  It has one answer, which is that of a scan, and it needs
  no more levels than its links and directories allow.
-/
structure SearchEnds
    (tree : FileTree)
    (viewer : Viewer)
    (settings : Settings)
    (library : Path) :
    Prop where
  refused :
    ∀ path links final,
      FileTree.admits path = .ok () →
        tree.PathTraverses viewer path links final →
          linkLimit < links →
            tree.isDirectory? viewer path = .ok false
  links_le :
    ∀ trail,
      IsSearchTrail tree viewer settings library trail →
        linksAlong tree viewer library trail ≤ linkLimit
  length_le :
    ∀ trail,
      IsSearchTrail tree viewer settings library trail →
        trail.length ≤
          (linkLimit + 1) * tree.directoryCount
  answer_iff :
    ∀ answer,
      Searches tree viewer settings library answer ↔
        answer =
          scanBelow tree viewer settings pathLimit library
  deeper :
    ∀ depth,
      (linkLimit + 1) * tree.directoryCount < depth →
        scanBelow tree viewer settings depth library =
          scanBelow tree viewer settings pathLimit library

/- Every search ends. -/
theorem search_ends
    (tree : FileTree)
    (viewer : Viewer)
    (settings : Settings)
    (library : Path) :
    SearchEnds tree viewer settings library := by
  have hScan :
      Searches tree viewer settings library
        (scanBelow tree viewer settings pathLimit
          library) :=
    searches_scanBelow pathLimit
      fun _ hTrail => hTrail.length_lt_pathLimit
  exact {
    refused := fun _ _ _ =>
      FileTree.isDirectory?_of_tooManyLinks
    links_le := fun _ hTrail => hTrail.bounds_library.1
    length_le := fun _ hTrail => hTrail.bounds_library.2
    answer_iff := by
      intro answer
      constructor
      · intro hAnswer
        exact hAnswer.unique hScan
      · intro hAnswer
        rw [hAnswer]
        exact hScan
    deeper := by
      intro depth hDepth
      have hDeeper :=
        searches_scanBelow depth
          fun trail
            (hTrail :
              IsSearchTrail tree viewer settings library
                trail) =>
            Nat.lt_of_le_of_lt hTrail.bounds_library.2
              hDepth
      exact hDeeper.unique hScan }

end Aggregation
