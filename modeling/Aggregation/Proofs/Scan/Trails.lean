import Aggregation.Proofs.Scan.Listing
import Aggregation.Proofs.Trail

/-
  What a scan finds.

  A component trail goes from directory to directory and
  ends at the first one with a folder of elements.  A scan
  returns one component for each component trail of the
  library, ordered name by name.

  Key definitions include:
    * `IsComponentDirectory`
    * `IsComponentTrail`
    * `FindsTrails`

  Key theorems include:
    * `isComponentTrail_cons_iff`
    * `scanBelow_findsTrails`
    * `scan_exact`
-/

------------------------------------------------------------
-- Component Trails
------------------------------------------------------------

namespace Aggregation

open Disk (FileTree Viewer)

/- A component is a directory with a folder of elements. -/
def IsComponentDirectory
    (tree : FileTree)
    (viewer : Viewer)
    (settings : Settings)
    (path : Path) :
    Prop :=
  tree.LeadsToDirectory viewer
    (path.join settings.elementsName.text)

/-
  A trail through listed directories to a component that
  does not lie below another one.
-/
structure IsComponentTrail
    (tree : FileTree)
    (viewer : Viewer)
    (settings : Settings)
    (library : Path)
    (trail : List Name) :
    Prop where
  nonempty : trail ≠ []
  listed :
    ∀ before name after,
      trail = before ++ name :: after →
        tree.Lists viewer (library.descend before) name ∧
          tree.LeadsToDirectory viewer
            (library.descend (before ++ [name]))
  component :
    IsComponentDirectory tree viewer settings
      (library.descend trail)
  first :
    ∀ before after,
      trail = before ++ after →
        before ≠ [] → after ≠ [] →
          ¬IsComponentDirectory tree viewer settings
            (library.descend before)

variable {tree : FileTree}
variable {viewer : Viewer}
variable {settings : Settings}
variable {library : Path}

/- A trail ends at its first name or goes on below it. -/
theorem isComponentTrail_cons_iff
    (name : Name)
    (rest : List Name) :
    IsComponentTrail tree viewer settings library
        (name :: rest) ↔
      tree.Lists viewer library name ∧
        tree.LeadsToDirectory viewer (library.child name) ∧
          ((rest = [] ∧
              IsComponentDirectory tree viewer settings
                (library.child name)) ∨
            (¬IsComponentDirectory tree viewer settings
                (library.child name) ∧
              IsComponentTrail tree viewer settings
                (library.child name) rest)) := by
  constructor
  · intro hTrail
    have hFirst := hTrail.listed [] name rest rfl
    refine ⟨hFirst.1, hFirst.2, ?_⟩
    by_cases hRest : rest = []
    · left
      have hComponent := hTrail.component
      rw [hRest] at hComponent
      exact ⟨hRest, hComponent⟩
    · right
      have hComponent := hTrail.component
      rw [Path.descend_cons] at hComponent
      refine ⟨hTrail.first [name] rest rfl (by simp) hRest,
        hRest, ?_, hComponent, ?_⟩
      · intro before other after hSplit
        simpa only [List.cons_append, Path.descend_cons]
          using hTrail.listed (name :: before) other after
            (by rw [hSplit]; rfl)
      · intro before after hSplit hBefore hAfter
        simpa only [Path.descend_cons]
          using hTrail.first (name :: before) after
            (by rw [hSplit]; rfl) (by simp) hAfter
  · rintro ⟨hLists, hDirectory, ⟨hRest, hHere⟩ |
      ⟨hNotHere, hTrail⟩⟩
    · subst hRest
      refine ⟨by simp, ?_, hHere, ?_⟩
      · intro before other after hSplit
        rcases List.cons_eq_append_iff.mp hSplit with
          ⟨hBefore, hOther⟩ | ⟨before, _, hAfter⟩
        · subst hBefore
          injection hOther with hName _
          subst hName
          exact ⟨hLists, hDirectory⟩
        · simp at hAfter
      · intro before after hSplit hBefore hAfter
        rcases List.cons_eq_append_iff.mp hSplit with
          ⟨hNil, _⟩ | ⟨others, _, hNone⟩
        · contradiction
        · simp [hAfter] at hNone
    · have hComponent := hTrail.component
      rw [← Path.descend_cons] at hComponent
      refine ⟨by simp, ?_, hComponent, ?_⟩
      · intro before other after hSplit
        rcases List.cons_eq_append_iff.mp hSplit with
          ⟨hBefore, hOther⟩ | ⟨others, hBefore, hRest⟩
        · subst hBefore
          injection hOther with hName _
          subst hName
          exact ⟨hLists, hDirectory⟩
        · subst hBefore
          simpa only [List.cons_append, Path.descend_cons]
            using hTrail.listed others other after hRest
      · intro before after hSplit hBefore hAfter
        rcases List.cons_eq_append_iff.mp hSplit with
          ⟨hNil, _⟩ | ⟨others, hOthers, hRest⟩
        · contradiction
        · subst hOthers
          by_cases hEmpty : others = []
          · subst hEmpty
            exact hNotHere
          · rw [Path.descend_cons]
            exact hTrail.first others after hRest hEmpty
              hAfter

/- No component trail goes on beyond another one. -/
theorem IsComponentTrail.not_below
    {trail rest : List Name}
    (hTrail :
      IsComponentTrail tree viewer settings library trail)
    (hLonger :
      IsComponentTrail tree viewer settings library
        (trail ++ rest)) :
    rest = [] := by
  by_contra hRest
  exact hLonger.first trail rest rfl hTrail.nonempty hRest
    hTrail.component

------------------------------------------------------------
-- Searching Below a Directory
------------------------------------------------------------

/-
  Components at given trails, which are ordered name by name
  as the entries of directories are.
-/
structure FindsTrails
    (tree : FileTree)
    (viewer : Viewer)
    (settings : Settings)
    (order : Name → Name → Prop)
    (library : Path)
    (components : List Component)
    (trails : List (List Name)) :
    Prop where
  directories :
    components.map Component.directory =
      trails.map library.descend
  ordered : trails.Pairwise (List.Lex order)
  described :
    ∀ component ∈ components,
      describe tree viewer settings component.directory
          (component.directory.join
            settings.elementsName.text) =
        .ok component

variable {order : Name → Name → Prop}

/- Trails in a strict order are different. -/
theorem FindsTrails.nodup
    {components : List Component}
    {trails : List (List Name)}
    (hFinds :
      FindsTrails tree viewer settings order library
        components trails)
    (hStrict : ∀ name, ¬order name name) :
    trails.Nodup :=
  hFinds.ordered.imp fun hLess hSame => by
    subst hSame
    exact List.lex_irrefl hStrict _ hLess

/- A described component is at its own path. -/
theorem describe_directory
    {directory elements : Path}
    {component : Component}
    (hDescribe :
      describe tree viewer settings directory elements =
        .ok component) :
    component.directory = directory := by
  unfold describe at hDescribe
  split at hDescribe
  · contradiction
  · split at hDescribe
    · contradiction
    · injection hDescribe with hComponent
      rw [← hComponent]
      rfl

/-
  An entry is passed over, searched further or described as
  a component.
-/
theorem scanEntry_eq_ok
    {below : Path → Except Failure (List Component)}
    {item : Path}
    {found : List Component}
    (hFound :
      scanEntry tree viewer settings below item =
        .ok found) :
    (¬tree.LeadsToDirectory viewer item ∧ found = []) ∨
      (tree.LeadsToDirectory viewer item ∧
        ¬IsComponentDirectory tree viewer settings item ∧
        below item = .ok found) ∨
      (tree.LeadsToDirectory viewer item ∧
        IsComponentDirectory tree viewer settings item ∧
        ∃ component,
          describe tree viewer settings item
              (item.join settings.elementsName.text) =
            .ok component ∧
          found = [component]) := by
  unfold IsComponentDirectory
  rw [← isSearchable_eq_true_iff, ← isSearchable_eq_true_iff]
  unfold scanEntry at hFound
  cases hItem : isSearchable tree viewer item with
  | error failure => simp [hItem] at hFound
  | ok isDirectory =>
      simp only [hItem] at hFound
      cases isDirectory with
      | false =>
          left
          injection hFound with hFound
          exact ⟨by simp, hFound.symm⟩
      | true =>
          right
          cases hElements :
              isSearchable tree viewer
                (item.join settings.elementsName.text) with
          | error failure => simp [hElements] at hFound
          | ok isComponent =>
              simp only [hElements] at hFound
              cases isComponent with
              | false =>
                  left
                  exact ⟨rfl, by simp, hFound⟩
              | true =>
                  right
                  cases hDescribe :
                      describe tree viewer settings item
                        (item.join
                          settings.elementsName.text) with
                  | error failure =>
                      simp [hDescribe] at hFound
                  | ok component =>
                      simp only [hDescribe] at hFound
                      injection hFound with hFound
                      exact ⟨rfl, rfl, component, rfl,
                        hFound.symm⟩

/- An entry yields the trails that go through it. -/
theorem scanEntry_findsTrails
    {below : Path → Except Failure (List Component)}
    {name : Name}
    {found : List Component}
    (hBelow :
      below (library.child name) = .ok found →
        ∃ trails,
          FindsTrails tree viewer settings order
              (library.child name) found trails ∧
            ∀ trail,
              trail ∈ trails ↔
                IsComponentTrail tree viewer settings
                  (library.child name) trail)
    (hLists : tree.Lists viewer library name)
    (hFound :
      scanEntry tree viewer settings below
        (library.child name) = .ok found) :
    ∃ trails,
      FindsTrails tree viewer settings order
          (library.child name) found trails ∧
        ∀ trail,
          trail ∈ trails ↔
            IsComponentTrail tree viewer settings library
              (name :: trail) := by
  simp only [isComponentTrail_cons_iff]
  rcases scanEntry_eq_ok hFound with
    ⟨hFile, hNone⟩ |
      ⟨hDirectory, hContainer, hRest⟩ |
      ⟨hDirectory, hHere, component, hDescribe, hOne⟩
  · subst hNone
    exact ⟨[], ⟨rfl, .nil, by simp⟩, by simp [hFile]⟩
  · rcases hBelow hRest with ⟨trails, hFinds, hExact⟩
    refine ⟨trails, hFinds, ?_⟩
    intro trail
    simp [hExact, hLists, hDirectory, hContainer]
  · subst hOne
    have hOwn := describe_directory hDescribe
    refine ⟨[[]],
      ⟨?_, List.pairwise_singleton _ _, ?_⟩, ?_⟩
    · simp [hOwn]
    · intro other hOther
      rw [List.mem_singleton.mp hOther, hOwn]
      exact hDescribe
    · intro trail
      simp [hLists, hDirectory, hHere]

/-
  Entries yield their trails one after the other.  So all
  trails through one entry come before those through the
  next, as the names of the entries do.
-/
theorem scanEntries_findsTrails
    {scanOne : Path → Except Failure (List Component)}
    {names : List Name}
    {components : List Component}
    (hOne :
      ∀ name ∈ names, ∀ found,
        scanOne (library.child name) = .ok found →
          ∃ trails,
            FindsTrails tree viewer settings order
                (library.child name) found trails ∧
              ∀ trail,
                trail ∈ trails ↔
                  IsComponentTrail tree viewer settings
                    library (name :: trail))
    (hOrdered : names.Pairwise order)
    (hScan :
      scanEntries scanOne library names = .ok components) :
    ∃ trails,
      FindsTrails tree viewer settings order library
          components trails ∧
        ∀ trail,
          trail ∈ trails ↔
            ∃ name ∈ names, ∃ rest,
              trail = name :: rest ∧
                IsComponentTrail tree viewer settings library
                  (name :: rest) := by
  induction names generalizing components with
  | nil =>
      injection hScan with hNone
      subst hNone
      exact ⟨[], ⟨rfl, .nil, by simp⟩, by simp⟩
  | cons name names ih =>
      unfold scanEntries at hScan
      cases hHead : scanOne (library.child name) with
      | error failure => simp [hHead] at hScan
      | ok found =>
          simp only [hHead] at hScan
          cases hTail : scanEntries scanOne library names with
          | error failure => simp [hTail] at hScan
          | ok others =>
              simp only [hTail] at hScan
              injection hScan with hAll
              subst hAll
              rw [List.pairwise_cons] at hOrdered
              rcases hOne name List.mem_cons_self found
                  hHead with
                ⟨here, hHere, hHereExact⟩
              rcases ih
                  (fun other hOther =>
                    hOne other
                      (List.mem_cons_of_mem name hOther))
                  hOrdered.2 hTail with
                ⟨later, hLater, hLaterExact⟩
              refine ⟨here.map (name :: ·) ++ later,
                ⟨?_, ?_, ?_⟩, ?_⟩
              · rw [List.map_append, List.map_append,
                  hHere.directories, hLater.directories,
                  List.map_map]
                congr 1
                apply List.map_congr_left
                intro trail _
                simp
              · rw [List.pairwise_append, List.pairwise_map]
                refine ⟨hHere.ordered.imp .cons,
                  hLater.ordered, ?_⟩
                intro trail hTrail other hOther
                rcases List.mem_map.mp hTrail with
                  ⟨rest, _, rfl⟩
                rcases (hLaterExact other).mp hOther with
                  ⟨next, hNext, others, rfl, _⟩
                exact .rel (hOrdered.1 next hNext)
              · intro component hComponent
                rcases List.mem_append.mp hComponent with
                  hFirst | hRest
                · exact hHere.described component hFirst
                · exact hLater.described component hRest
              · intro trail
                rw [List.mem_append, List.mem_map,
                  hLaterExact]
                simp only [hHereExact, List.mem_cons]
                constructor
                · rintro (⟨rest, hRest, rfl⟩ |
                    ⟨next, hNext, hOther⟩)
                  · exact ⟨name, .inl rfl, rest, rfl, hRest⟩
                  · exact ⟨next, .inr hNext, hOther⟩
                · rintro ⟨next, rfl | hNext, rest, rfl,
                    hRest⟩
                  · exact .inl ⟨rest, hRest, rfl⟩
                  · exact .inr ⟨next, hNext, rest, rfl,
                      hRest⟩

/- A search yields exactly the trails of a directory. -/
theorem scanBelow_findsTrails
    (hOrdered :
      ∀ directory names,
        entryNames tree viewer settings directory =
            .ok names →
          names.Pairwise order)
    (depth : Nat)
    {components : List Component}
    (hScan :
      scanBelow tree viewer settings depth library =
        .ok components) :
    ∃ trails,
      FindsTrails tree viewer settings order library
          components trails ∧
        ∀ trail,
          trail ∈ trails ↔
            IsComponentTrail tree viewer settings library
              trail := by
  induction depth generalizing library components with
  | zero => simp [scanBelow] at hScan
  | succ depth ih =>
      unfold scanBelow at hScan
      cases hNames :
          entryNames tree viewer settings library with
      | error failure => simp [hNames] at hScan
      | ok names =>
          simp only [hNames] at hScan
          have hListed := mem_entryNames_iff hNames
          rcases scanEntries_findsTrails
              (fun name hName found hFound =>
                scanEntry_findsTrails ih
                  ((hListed name).mp hName) hFound)
              (hOrdered library names hNames) hScan with
            ⟨trails, hFinds, hExact⟩
          refine ⟨trails, hFinds, ?_⟩
          intro trail
          rw [hExact]
          constructor
          · rintro ⟨name, _, rest, rfl, hTrail⟩
            exact hTrail
          · intro hTrail
            cases trail with
            | nil => exact absurd rfl hTrail.nonempty
            | cons name rest =>
                have hFirst :=
                  (hTrail.listed [] name rest rfl).1
                exact ⟨name, (hListed name).mpr hFirst,
                  rest, rfl, hTrail⟩

------------------------------------------------------------
-- Whole Scans
------------------------------------------------------------

/- A scan that returns found a directory and searched it. -/
theorem scan_eq_ok
    {components : List Component}
    (hScan :
      scan tree viewer settings library = .ok components) :
    tree.LeadsToDirectory viewer library ∧
      scanBelow tree viewer settings FileTree.pathLimit
          library =
        .ok components := by
  unfold scan at hScan
  split at hScan
  · contradiction
  · contradiction
  · split at hScan
    · contradiction
    · contradiction
    · rename_i hDirectory
      exact ⟨FileTree.isDirectory?_eq_true_iff.mp hDirectory,
        hScan⟩

/-
  The components of a library are exactly those at the ends
  of its component trails.  They come once each, in the
  order of the names on their trails.
-/
structure IsExactScan
    (tree : FileTree)
    (viewer : Viewer)
    (settings : Settings)
    (library : Path)
    (directories : List Path) :
    Prop where
  mem_iff :
    ∀ path,
      path ∈ directories ↔
        ∃ trail,
          IsComponentTrail tree viewer settings library
              trail ∧
            path = library.descend trail
  nodup : directories.Nodup
  increasing :
    ∃ trails : List (List Name),
      directories = trails.map library.descend ∧
        trails.Pairwise (List.Lex (· < ·))
  library_not_mem : library ∉ directories
  not_below :
    ∀ path ∈ directories, ∀ rest, rest ≠ [] →
      path.descend rest ∉ directories

/- A sorted scan that returns is exact. -/
theorem scan_exact
    (tree : FileTree)
    (viewer : Viewer)
    (settings : Settings)
    (library : Path)
    (components : List Component)
    (hSorted : settings.sortEntries = true)
    (hScan :
      scan tree viewer settings library = .ok components) :
    IsExactScan tree viewer settings library
      (components.map Component.directory) := by
  rcases scanBelow_findsTrails
      (fun _ _ => entryNames_increasing hSorted)
      FileTree.pathLimit (scan_eq_ok hScan).2 with
    ⟨trails, hFinds, hExact⟩
  have hMember :
      ∀ path,
        path ∈ components.map Component.directory ↔
          ∃ trail,
            IsComponentTrail tree viewer settings library
                trail ∧
              path = library.descend trail := by
    intro path
    rw [hFinds.directories, List.mem_map]
    simp only [hExact, eq_comm]
  have hDistinct := hFinds.nodup fun name => lt_irrefl name
  refine ⟨hMember, ?_, ⟨trails, hFinds.directories,
    hFinds.ordered⟩, ?_, ?_⟩
  · rw [hFinds.directories]
    refine List.pairwise_map.mpr (hDistinct.imp ?_)
    intro left right hNe hSame
    exact hNe (library.descend_injective hSame)
  · intro hLibrary
    rcases (hMember library).mp hLibrary with
      ⟨trail, hTrail, hSame⟩
    exact hTrail.nonempty
      ((library.descend_eq_self_iff trail).mp hSame.symm)
  · intro path hPath rest hRest hBelow
    rcases (hMember path).mp hPath with
      ⟨trail, hTrail, hHere⟩
    rcases (hMember (path.descend rest)).mp hBelow with
      ⟨longer, hLonger, hThere⟩
    rw [hHere, ← Path.descend_append] at hThere
    have hSplit := library.descend_injective hThere
    rw [← hSplit] at hLonger
    exact hRest (hTrail.not_below hLonger)

/-
  A library with a component below a container and another
  one beside it.
-/
def sampleNodes : List (Disk.Location × Disk.Node) :=
  [([], .directory .all),
    (["lib"], .directory .all),
    (["a-b", "lib"], .directory .all),
    (["elements.ts", "a-b", "lib"],
      .file "stale".toUTF8 .all),
    (["elements", "a-b", "lib"], .directory .all),
    (["c.svelte", "elements", "a-b", "lib"],
      .file .empty .all),
    (["a_b.svelte", "elements", "a-b", "lib"],
      .file .empty .all),
    (["a", "lib"], .directory .all),
    (["x", "a", "lib"], .directory .all),
    (["elements", "x", "a", "lib"], .directory .all),
    (["y.svelte", "elements", "x", "a", "lib"],
      .file .empty .all)]

/- The nodes of the sample library form a tree. -/
def sampleTree : FileTree :=
  ⟨sampleNodes, {
    distinct := by decide
    rooted := ⟨.all, rfl⟩
    attached := by
      intro name parent hMember
      simp only [sampleNodes, List.map_cons, List.map_nil,
        List.mem_cons, List.not_mem_nil, or_false,
        List.cons.injEq, reduceCtorEq, false_or] at hMember
      rcases hMember with ⟨rfl, rfl⟩ | ⟨rfl, rfl⟩ |
        ⟨rfl, rfl⟩ | ⟨rfl, rfl⟩ | ⟨rfl, rfl⟩ |
        ⟨rfl, rfl⟩ | ⟨rfl, rfl⟩ | ⟨rfl, rfl⟩ |
        ⟨rfl, rfl⟩ | ⟨rfl, rfl⟩ <;>
        exact ⟨by decide, .all, rfl⟩ }⟩

/- Settings for the sample library. -/
def sampleSettings : Settings :=
  { Settings.standard with
    componentsDirectory := ⟨.relative, ["lib"]⟩ }

/- A viewer whom the permission bits bind. -/
def sampleViewer : Viewer :=
  ⟨[], true, .stored⟩

/- What a scan of the sample library finds. -/
def sampleComponents : List Component :=
  [⟨⟨.relative, ["x", "a", "lib"]⟩, ["y"], none⟩,
    ⟨⟨.relative, ["a-b", "lib"]⟩, ["a_b", "c"],
      some "a_b.svelte"⟩]

/- The sample library with a link to its container. -/
def linkedTree : FileTree :=
  sampleTree.attach ["lib"] "b" (.link "a")
    ⟨by decide, ⟨.all, rfl⟩, rfl⟩

/- The component that the link leads to is found again. -/
def linkedComponents : List Component :=
  sampleComponents ++
    [⟨⟨.relative, ["x", "b", "lib"]⟩, ["y"], none⟩]

theorem scan_exact_linkedTree :
    sampleSettings.sortEntries = true ∧
      scan linkedTree sampleViewer sampleSettings
          sampleSettings.componentsDirectory =
        .ok linkedComponents ∧
      IsExactScan linkedTree sampleViewer sampleSettings
        sampleSettings.componentsDirectory
        (linkedComponents.map Component.directory) :=
  ⟨rfl, by decide +kernel,
    scan_exact linkedTree sampleViewer sampleSettings
      sampleSettings.componentsDirectory linkedComponents
      rfl (by decide +kernel)⟩

end Aggregation
