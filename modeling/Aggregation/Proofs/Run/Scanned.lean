import Aggregation.Proofs.Run.Batch
import Aggregation.Proofs.Scan.Sources
import Aggregation.Proofs.Scan.Trails

/-
  The sites of a scanned library.

  Without links, the trail of a component is the way to its
  directory.  No component lies below another one, so their
  files lie at different places.

  Key definitions include:
    * `IsSiteAt`

  Key theorems include:
    * `IsComponentTrail.resolve_descend`
    * `IsSiteAt.isApart`
    * `scan_sites`
-/

------------------------------------------------------------
-- Directories on a Trail
------------------------------------------------------------

namespace Aggregation

open Disk (FileTree Location Permissions Slot Viewer)

variable {tree : FileTree}
variable {viewer : Viewer}
variable {settings : Settings}
variable {library : Path}
variable {home : Location}
variable {trail : List Name}

/- The names of a trail are the way to its directory. -/
theorem IsComponentTrail.resolve_descend
    (hFree : tree.IsLinkFree)
    {permissions : Permissions}
    (hLibrary :
      tree.resolve viewer library =
        .ok (.present home (.directory permissions)))
    (hTrail :
      IsComponentTrail tree viewer settings library trail) :
    ∃ others,
      tree.resolve viewer (library.descend trail) =
        .ok (.present (trail.reverse ++ home)
          (.directory others)) := by
  induction trail generalizing library home permissions with
  | nil => exact absurd rfl hTrail.nonempty
  | cons name rest ih =>
      rcases (isComponentTrail_cons_iff name rest).mp hTrail
        with ⟨hLists, hDirectory, hRest⟩
      rcases FileTree.resolve_child_directory hFree hLibrary
          hLists.ne_dots hDirectory with
        ⟨others, hChild⟩
      rw [Path.descend_cons, List.reverse_cons,
        List.append_assoc]
      rcases hRest with ⟨hEnd, _⟩ | ⟨_, hBelow⟩
      · rw [hEnd]
        exact ⟨others, hChild⟩
      · exact ih hChild hBelow

/- The last name of a trail is not a dot. -/
theorem IsComponentTrail.name_ne
    (hTrail :
      IsComponentTrail tree viewer settings library trail) :
    (library.descend trail).name ≠ "." := by
  have hSplit :=
    List.dropLast_append_getLast hTrail.nonempty
  have hLists :=
    (hTrail.listed trail.dropLast
      (trail.getLast hTrail.nonempty) [] hSplit.symm).1
  rw [← hSplit, Path.descend_append]
  exact hLists.ne_dots.1

------------------------------------------------------------
-- Sites at Trails
------------------------------------------------------------

/- The site of the component at the end of a trail. -/
structure IsSiteAt
    (tree : FileTree)
    (viewer : Viewer)
    (library : Path)
    (home : Location)
    (site : Site settings)
    (trail : List Name) :
    Prop where
  found : IsComponentTrail tree viewer settings library trail
  directory :
    site.component.directory = library.descend trail
  location : site.location = trail.reverse ++ home
  aggregation : site.aggregation.IsIn tree viewer
  index : site.index.IsIn tree viewer
  described :
    describe tree viewer settings site.component.directory
        (site.component.directory.join
          settings.elementsName.text) =
      .ok site.component

/- Every described component at a trail has a site. -/
theorem exists_isSiteAt
    (hFree : tree.IsLinkFree)
    (hPlain : settings.HasPlainNames)
    {permissions : Permissions}
    (hLibrary :
      tree.resolve viewer library =
        .ok (.present home (.directory permissions)))
    (hTrail :
      IsComponentTrail tree viewer settings library trail)
    {component : Component}
    (hDirectory :
      component.directory = library.descend trail)
    (hDescribed :
      describe tree viewer settings component.directory
          (component.directory.join
            settings.elementsName.text) =
        .ok component) :
    ∃ site : Site settings,
      site.component = component ∧
        IsSiteAt tree viewer library home site trail := by
  rcases hTrail.resolve_descend hFree hLibrary with
    ⟨others, hHere⟩
  have hComponent := hTrail.component
  unfold IsComponentDirectory at hComponent
  rw [hPlain.join_elementsName] at hComponent
  rcases FileTree.resolve_child_directory hFree hHere
      ⟨hPlain.notHere, hPlain.notAbove⟩ hComponent with
    ⟨elementsPermissions, hElements⟩
  rw [← hDirectory] at hHere hElements
  refine ⟨{
    component := component
    location := trail.reverse ++ home
    permissions := others
    elementsPermissions := elementsPermissions
    plain := hPlain
    named := by
      rw [hDirectory]
      exact hTrail.name_ne }, rfl, ?_⟩
  exact {
    found := hTrail
    directory := hDirectory
    location := rfl
    aggregation := hHere
    index := hElements
    described := hDescribed }

/- What may be written for a component, and where. -/
theorem Site.slot_of_mem
    {site : Site settings}
    {placed : Placed}
    (hPlaced : placed ∈ site.placed) :
    placed.slot = site.aggregation ∨
      placed.slot = site.index ∧
        site.component.rootFile = none := by
  rcases List.mem_cons.mp hPlaced with rfl | hFile
  · exact .inl rfl
  · unfold Site.files Component.strategy at hFile
    cases hRoot : site.component.rootFile with
    | some root =>
        simp only [hRoot, List.mem_singleton] at hFile
        rw [hFile]
        exact .inl rfl
    | none =>
        simp only [hRoot, List.mem_cons, List.not_mem_nil,
          or_false] at hFile
        rcases hFile with rfl | rfl
        · exact .inr ⟨rfl, rfl⟩
        · exact .inl rfl

variable {left right : Site settings}
variable {leftTrail rightTrail : List Name}

/- Two sites at one location are at one trail. -/
theorem IsSiteAt.trail_eq
    (hLeft :
      IsSiteAt tree viewer library home left leftTrail)
    (hRight :
      IsSiteAt tree viewer library home right rightTrail)
    (hSame : left.location = right.location) :
    leftTrail = rightTrail := by
  rw [hLeft.location, hRight.location] at hSame
  exact List.reverse_inj.mp
    (List.append_cancel_right hSame)

/- No component is the folder of elements of another one. -/
theorem IsSiteAt.location_ne
    (hLeft :
      IsSiteAt tree viewer library home left leftTrail)
    (hRight :
      IsSiteAt tree viewer library home right rightTrail)
    (name : Name) :
    left.location ≠ name :: right.location := by
  intro hBelow
  rw [hLeft.location, hRight.location, ← List.cons_append]
    at hBelow
  have hReverse := List.append_cancel_right hBelow
  have hTrail : leftTrail = rightTrail ++ [name] := by
    rw [← List.reverse_inj, hReverse, List.reverse_append]
    rfl
  have hLonger := hLeft.found
  rw [hTrail] at hLonger
  exact absurd (hRight.found.not_below hLonger)
    (List.cons_ne_nil name [])

/- Components at different trails write different files. -/
theorem IsSiteAt.isApart
    (hLeft :
      IsSiteAt tree viewer library home left leftTrail)
    (hRight :
      IsSiteAt tree viewer library home right rightTrail)
    (hNe : leftTrail ≠ rightTrail) :
    left.IsApart right := by
  have hLocations : left.location ≠ right.location :=
    fun hSame => hNe (hLeft.trail_eq hRight hSame)
  intro placed hPlaced other hOther hSame
  rcases Site.slot_of_mem hPlaced with hSlot | ⟨hSlot, _⟩
  · rcases Site.slot_of_mem hOther with hThat | ⟨hThat, _⟩
    · rw [hSlot, hThat] at hSame
      injection hSame with _ hLocation
      exact hLocations hLocation
    · rw [hSlot, hThat] at hSame
      injection hSame with _ hLocation
      exact hLeft.location_ne hRight _ hLocation
  · rcases Site.slot_of_mem hOther with hThat | ⟨hThat, _⟩
    · rw [hSlot, hThat] at hSame
      injection hSame with _ hLocation
      exact hRight.location_ne hLeft _ hLocation.symm
    · rw [hSlot, hThat] at hSame
      injection hSame with _ hLocation
      injection hLocation with _ hLocation
      exact hLocations hLocation

/- A site at a trail is ready for its files. -/
theorem IsSiteAt.isIn
    {site : Site settings}
    (hSite : IsSiteAt tree viewer library home site trail)
    (hFree : tree.IsLinkFree) :
    site.IsIn viewer tree where
  linkFree := hFree
  inside := by
    intro placed hPlaced
    rcases Site.slot_of_mem hPlaced with hSlot | ⟨hSlot, _⟩
    · rw [hSlot]
      exact hSite.aggregation
    · rw [hSlot]
      exact hSite.index

------------------------------------------------------------
-- Sites of a Scan
------------------------------------------------------------

/- The sites of all components that a scan found. -/
structure IsSurvey
    (tree : FileTree)
    (viewer : Viewer)
    (library : Path)
    (home : Location)
    (components : List Component)
    (sites : List (Site settings)) :
    Prop where
  components : sites.map Site.component = components
  sited : AreSited viewer sites tree
  trails :
    ∀ site ∈ sites, ∃ trail,
      IsSiteAt tree viewer library home site trail

/- Things that exist one by one exist as a list. -/
theorem exists_sites
    {components : List Component}
    {good : Site settings → Prop}
    (hEach :
      ∀ component ∈ components, ∃ site : Site settings,
        site.component = component ∧ good site) :
    ∃ sites : List (Site settings),
      sites.map Site.component = components ∧
        ∀ site ∈ sites, good site := by
  induction components with
  | nil => exact ⟨[], rfl, by simp⟩
  | cons component components ih =>
      rcases hEach component List.mem_cons_self with
        ⟨site, hComponent, hGood⟩
      rcases ih
          (fun other hOther =>
            hEach other
              (List.mem_cons_of_mem component hOther)) with
        ⟨sites, hComponents, hAll⟩
      refine ⟨site :: sites, ?_, ?_⟩
      · rw [List.map_cons, hComponent, hComponents]
      · intro other hOther
        rcases List.mem_cons.mp hOther with hSame | hTail
        · rw [hSame]
          exact hGood
        · exact hAll other hTail

/- Without links, a scan yields the sites of components. -/
theorem scan_sites
    (hFree : tree.IsLinkFree)
    (hPlain : settings.HasPlainNames)
    {components : List Component}
    (hScan :
      scan tree viewer settings library = .ok components) :
    ∃ (home : Location) (permissions : Permissions)
      (sites : List (Site settings)),
      tree.resolve viewer library =
          .ok (.present home (.directory permissions)) ∧
        IsSurvey tree viewer library home components
          sites := by
  rcases scan_eq_ok hScan with
    ⟨⟨home, permissions, hStatus⟩, hBelow⟩
  have hLibrary := FileTree.status_eq_ok_iff.mp hStatus
  have hOrdered :
      ∀ directory names,
        entryNames tree viewer settings directory =
            .ok names →
          names.Pairwise (· ≠ ·) :=
    fun _ _ => entryNames_nodup
  rcases scanBelow_findsTrails hOrdered _ hBelow with
    ⟨trails, hFinds, hExact⟩
  have hDistinct := hFinds.nodup fun name hNe => hNe rfl
  have hEach :
      ∀ component ∈ components, ∃ site : Site settings,
        site.component = component ∧
          ∃ trail,
            IsSiteAt tree viewer library home site
              trail := by
    intro component hComponent
    have hDirectory :
        component.directory ∈ trails.map library.descend := by
      rw [← hFinds.directories]
      exact List.mem_map_of_mem hComponent
    rcases List.mem_map.mp hDirectory with
      ⟨trail, hTrail, hSame⟩
    rcases exists_isSiteAt hFree hPlain hLibrary
        ((hExact trail).mp hTrail) hSame.symm
        (hFinds.described component hComponent) with
      ⟨site, hOwn, hSite⟩
    exact ⟨site, hOwn, trail, hSite⟩
  rcases exists_sites hEach with
    ⟨sites, hComponents, hTrails⟩
  refine ⟨home, permissions, sites, hLibrary,
    hComponents, ⟨?_, ?_⟩, hTrails⟩
  · intro site hSite
    rcases hTrails site hSite with ⟨trail, hTrail⟩
    exact hTrail.isIn hFree
  · have hDirectories :
        (sites.map fun site =>
          site.component.directory).Nodup := by
      have hMap :
          (sites.map fun site =>
              site.component.directory) =
            trails.map library.descend := by
        rw [← hFinds.directories, ← hComponents,
          List.map_map]
        rfl
      rw [hMap]
      refine List.pairwise_map.mpr (hDistinct.imp ?_)
      intro left right hNe hSame
      exact hNe (library.descend_injective hSame)
    refine (List.pairwise_map.mp hDirectories).imp_of_mem ?_
    intro left right hLeft hRight hNe
    rcases hTrails left hLeft with ⟨leftTrail, hLeftAt⟩
    rcases hTrails right hRight with ⟨rightTrail, hRightAt⟩
    apply hLeftAt.isApart hRightAt
    intro hSame
    apply hNe
    rw [hLeftAt.directory, hRightAt.directory, hSame]

end Aggregation
