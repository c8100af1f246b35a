import Aggregation.Proofs.Disk.LongNames
import Aggregation.Proofs.Disk.Repetition
import Aggregation.Proofs.Disk.Requests

/-
  Requests that spare files which are unchanged.

  Such a request asks for the content of a file before any
  directory is made.  Except where a path is too long for
  the file system and its directory is missing, or where a
  slash stands behind a name that is too long, it ends like
  one that writes in any case and leaves the same tree.

  Key definitions include:
    * `Store.Spares`

  Key theorems include:
    * `setContent_same`
    * `Store.save_spares`
    * `Store.save_misfit`
    * `Store.save_overlong`
    * `Store.save_of_slashesLongName`
-/

------------------------------------------------------------
-- Files of the Same Content
------------------------------------------------------------

namespace Aggregation

namespace Disk

variable {tree : FileTree}
variable {viewer : Viewer}
variable {path : Path}

/- What a tree has at a location is found there. -/
theorem find_of_mem
    {nodes : List (Location × Node)}
    (hDistinct : (nodes.map (·.1)).Nodup)
    {location : Location}
    {node : Node}
    (hMem : (location, node) ∈ nodes) :
    find location nodes = some node := by
  induction nodes with
  | nil => exact absurd hMem List.not_mem_nil
  | cons entry rest ih =>
      rw [List.map_cons, List.nodup_cons] at hDistinct
      unfold find
      rcases List.mem_cons.mp hMem with hHere | hRest
      · rw [← hHere]
        simp only [if_true]
      · have hOther : entry.1 ≠ location := by
          intro hSame
          apply hDistinct.1
          rw [hSame]
          exact List.mem_map_of_mem hRest
        simp only [if_neg hOther]
        exact ih hDistinct.2 hRest

/- Giving a file the content that it has changes nothing. -/
theorem setContent_same
    {location : Location}
    {content : ByteArray}
    {permissions : Permissions}
    (hFile :
      tree.node? location =
        some (.file content permissions)) :
    tree.setContent location content = tree := by
  have hNodes :
      changeAt location (Node.withContent content)
          tree.nodes =
        tree.nodes := by
    unfold changeAt
    refine (List.map_congr_left ?_).trans (List.map_id _)
    rintro ⟨key, node⟩ hMem
    by_cases hHere : key = location
    · have hFound :=
        find_of_mem tree.isTree.distinct hMem
      rw [hHere] at hFound
      have hSame := hFound.symm.trans hFile
      injection hSame with hNode
      simp only [if_pos hHere, hNode, Node.withContent, id]
    · simp only [if_neg hHere, id]
  rcases tree with ⟨nodes, hTree⟩
  unfold FileTree.setContent FileTree.adjust
  simp only [FileTree.mk.injEq]
  exact hNodes

------------------------------------------------------------
-- Two Ways to Save
------------------------------------------------------------

/- How a request ended, whether or not it wrote. -/
def endingOf (answer : Except Fault Bool) :
    Except Fault Unit :=
  answer.map fun _ => ()

namespace Store

variable {plain sparing : Store}
variable {store : Store}
variable {bytes : ByteArray}
variable {content : String}

/- A store of the same tree that came about by fewer writes. -/
structure Spares (plain sparing : Store) : Prop where
  tree : sparing.tree = plain.tree
  written : sparing.written.Sublist plain.written

theorem Spares.refl (store : Store) :
    store.Spares store where
  tree := rfl
  written := .refl _

/- Overwriting does not depend on what was written before. -/
theorem exists_overwrite_eq
    (tree : FileTree)
    (viewer : Viewer)
    (path : Path)
    (bytes : ByteArray) :
    ∃ answer : Except Fault (FileTree × Location),
      ∀ written,
        Store.overwrite ⟨tree, written⟩ viewer path bytes =
          answer.map fun made =>
            ⟨made.1, written ++ [made.2]⟩ := by
  unfold overwrite
  simp only
  split
  · exact ⟨.error _, fun _ => rfl⟩
  · split
    · exact ⟨.ok (_, _), fun _ => rfl⟩
    · exact ⟨.error _, fun _ => rfl⟩
  · exact ⟨.error _, fun _ => rfl⟩
  · exact ⟨.error _, fun _ => rfl⟩
  · split
    · split
      · split
        · exact ⟨.ok (_, _), fun _ => rfl⟩
        · exact ⟨.error _, fun _ => rfl⟩
      · exact ⟨.error _, fun _ => rfl⟩
    · exact ⟨.error _, fun _ => rfl⟩

/- Replacing a file keeps two stores alike. -/
theorem replace_spares
    (hSpares : plain.Spares sparing)
    (viewer : Viewer)
    (path : Path)
    (bytes : ByteArray) :
    let first := plain.replace viewer path bytes
    let second := sparing.replace viewer path bytes
    second.2 = first.2 ∧ first.1.Spares second.1 := by
  rcases plain with ⟨tree, written⟩
  rcases sparing with ⟨same, fewer⟩
  rcases hSpares with ⟨hTree, hWritten⟩
  simp only at hTree hWritten
  subst hTree
  unfold replace
  simp only
  rcases FileTree.ensureDirectory viewer path.anchor same
      path.parent.names with
    ⟨grown, answer⟩
  cases answer with
  | error fault => exact ⟨rfl, rfl, hWritten⟩
  | ok made =>
      rcases exists_overwrite_eq grown viewer path bytes
        with ⟨answer, hOver⟩
      simp only [hOver]
      cases answer with
      | error fault => exact ⟨rfl, rfl, hWritten⟩
      | ok made =>
          exact ⟨rfl, rfl, hWritten.append (.refl _)⟩

/- A file that can be read is asked for its bytes. -/
theorem holds_of_file
    {location : Location}
    {old : ByteArray}
    {permissions : Permissions}
    (hPath :
      store.tree.resolve viewer path =
        .ok (.present location (.file old permissions)))
    (bytes : ByteArray) :
    store.holds viewer path bytes =
      if viewer.may permissions.read then .ok (old == bytes)
      else .error .denied := by
  have hStatus := FileTree.status_eq_ok_iff.mpr hPath
  have hIsFile :
      store.tree.isFile? viewer path = .ok true :=
    FileTree.isFile?_eq_true_iff.mpr
      ⟨location, old, permissions, hStatus⟩
  unfold holds FileTree.read
  simp only [hIsFile, hStatus]
  split
  · rfl
  · rfl

/- A file that holds given bytes is one of these bytes. -/
theorem holds_eq_true
    (hHolds : store.holds viewer path bytes = .ok true) :
    ∃ location permissions,
      store.tree.resolve viewer path =
        .ok (.present location
          (.file bytes permissions)) := by
  have hAsked := hHolds
  unfold holds at hAsked
  cases hIsFile : store.tree.isFile? viewer path with
  | error fault => simp [hIsFile] at hAsked
  | ok isFile =>
      cases isFile with
      | false => simp [hIsFile] at hAsked
      | true =>
          rcases FileTree.isFile?_eq_true_iff.mp hIsFile
            with ⟨location, old, permissions, hStatus⟩
          have hPath := FileTree.status_eq_ok_iff.mp hStatus
          rw [holds_of_file hPath] at hHolds
          split at hHolds
          · injection hHolds with hSame
            refine ⟨location, permissions, ?_⟩
            rw [← (Slot.beq_bytes_iff old bytes).mp hSame]
            exact hPath
          · contradiction

end Store

------------------------------------------------------------
-- Directories of Files
------------------------------------------------------------

/- A path does not start at a file, unless it has names. -/
def FileTree.StartsClear
    (tree : FileTree)
    (viewer : Viewer)
    (path : Path) :
    Prop :=
  path.names = [] →
    path.anchor = .relative →
      ¬tree.HasFile viewer.home

/- The root of a tree is no file. -/
theorem not_hasFile_root (tree : FileTree) :
    ¬tree.HasFile [] := by
  rintro ⟨content, permissions, hFile⟩
  rcases tree.isTree.rooted with ⟨others, hRoot⟩
  have hSame := hRoot.symm.trans hFile
  injection hSame with hSame
  contradiction

/- No path without names leads to a file. -/
theorem not_hasFile_start
    {anchor : Anchor}
    (hStart :
      anchor = .relative → ¬tree.HasFile viewer.home) :
    ¬tree.HasFile (viewer.start anchor) := by
  cases anchor with
  | relative => exact hStart rfl
  | root => exact not_hasFile_root tree
  | doubleRoot => exact not_hasFile_root tree

/- The directory of a file is there. -/
theorem leadsToDirectory_parent
    {location : Location}
    {content : ByteArray}
    {permissions : Permissions}
    (hStart : tree.StartsClear viewer path)
    (hPath :
      tree.resolve viewer path =
        .ok (.present location (.file content permissions))) :
    tree.LeadsToDirectory viewer path.parent := by
  have hFile := FileTree.node?_of_resolve hPath
  cases hAdmits : FileTree.admits path with
  | error fault =>
      unfold FileTree.resolve at hPath
      simp [hAdmits] at hPath
  | ok admitted =>
      have hAbove := admits_parent hAdmits
      have hPath := FileTree.follow_of_resolve hPath
      rcases path with ⟨anchor, names⟩
      cases names with
      | nil =>
          rcases FileTree.exists_follow_eq tree viewer
              FileTree.linkLimit with
            ⟨atLink, hLinks⟩
          rw [hLinks] at hPath
          simp only [List.reverse_nil] at hPath
          unfold FileTree.followWith at hPath
          split at hPath
          · injection hPath with hPath
            injection hPath with hLocation
            rw [← hLocation] at hFile
            exact absurd ⟨content, permissions, hFile⟩
              (not_hasFile_start (hStart rfl))
          · contradiction
      | cons name above =>
          simp only [List.reverse_cons] at hPath
          rcases FileTree.follow_dropLast hPath with
            ⟨parent, node, hParent⟩
          rcases FileTree.follow_append hParent with
            ⟨left, _, hRest⟩
          rcases FileTree.exists_follow_eq tree viewer left
            with ⟨atLink, hLeft⟩
          rw [hRest [name], hLeft] at hPath
          have hEnter :
              tree.enter viewer parent = .ok () := by
            unfold FileTree.followWith at hPath
            cases hEnter : tree.enter viewer parent with
            | ok entered => rfl
            | error fault => simp [hEnter] at hPath
          exact leadsToDirectory_of_enter
            (FileTree.resolve_of_follow hAbove hParent
              hEnter)
            hEnter

------------------------------------------------------------
-- Spared Files
------------------------------------------------------------

namespace Store

variable {plain sparing : Store}
variable {store : Store}
variable {bytes : ByteArray}
variable {content : String}

/- A viewer whom no bits bind may do anything. -/
theorem may_of_unbound
    (hUnbound : viewer.bound = false)
    (granted : Bool) :
    viewer.may granted = true := by
  simp [Viewer.may, hUnbound]

/- Only a path that meets a long name cannot be tested. -/
theorem holds_eq_error
    (hUnbound : viewer.bound = false)
    {fault : Fault}
    (hHolds : store.holds viewer path bytes = .error fault) :
    fault = .nameTooLong ∧
      store.tree.resolve viewer path =
        .error .nameTooLong := by
  unfold holds at hHolds
  cases hIsFile : store.tree.isFile? viewer path with
  | ok isFile =>
      cases isFile with
      | false => simp [hIsFile] at hHolds
      | true =>
          rcases FileTree.isFile?_eq_true_iff.mp hIsFile
            with ⟨location, old, permissions, hStatus⟩
          have hMay :=
            may_of_unbound hUnbound permissions.read
          simp [hIsFile, FileTree.read, hStatus, hMay,
            Except.map] at hHolds
  | error other =>
      simp only [hIsFile] at hHolds
      injection hHolds with hFault
      rw [hFault] at hIsFile
      unfold FileTree.isFile? FileTree.test
        FileTree.status at hIsFile
      cases hPath : store.tree.resolve viewer path with
      | ok destination =>
          cases destination with
          | present location node => simp [hPath] at hIsFile
          | vacant parent name =>
              simp [hPath, Fault.meansAbsent] at hIsFile
      | error missed =>
          simp only [hPath] at hIsFile
          split at hIsFile
          · contradiction
          · rename_i hPresent
            injection hIsFile with hSame
            rcases resolve_fault hUnbound hPath with
              hAbsent | hLong
            · exact absurd hAbsent hPresent
            · exact ⟨hSame.symm.trans hLong,
                congrArg _ hLong⟩

/- Without bits that bind, a file that is there is replaced. -/
theorem replace_of_file
    (hUnbound : viewer.bound = false)
    (hClean : path.IsClean)
    (hStart : store.tree.StartsClear viewer path)
    {location : Location}
    {old : ByteArray}
    {permissions : Permissions}
    (hPath :
      store.tree.resolve viewer path =
        .ok (.present location (.file old permissions))) :
    store.replace viewer path bytes =
      (⟨store.tree.setContent location bytes,
          store.written ++ [location]⟩,
        .ok true) := by
  have hEnsure :=
    ensureDirectory_of_leadsToDirectory hClean.parent
      (leadsToDirectory_parent hStart hPath)
  have hAnchor : path.parent.anchor = path.anchor := rfl
  rw [hAnchor] at hEnsure
  have hCreate := FileTree.resolveToCreate_of_file hPath
  unfold replace overwrite
  simp only [hEnsure, hCreate, may_of_unbound hUnbound,
    if_true]

/- A file that is replaced by itself is only written. -/
theorem replace_of_holds
    (hUnbound : viewer.bound = false)
    (hClean : path.IsClean)
    (hStart : store.tree.StartsClear viewer path)
    (hHolds : store.holds viewer path bytes = .ok true) :
    ∃ location,
      store.replace viewer path bytes =
        (⟨store.tree, store.written ++ [location]⟩,
          .ok true) := by
  rcases holds_eq_true hHolds with
    ⟨location, permissions, hPath⟩
  refine ⟨location, ?_⟩
  rw [replace_of_file hUnbound hClean hStart hPath,
    setContent_same (FileTree.node?_of_resolve hPath)]

/- A path that meets a long name changes nothing. -/
theorem replace_of_nameTooLong
    (hClean : path.IsClean)
    (hFits : store.tree.Fits viewer path)
    (hPath :
      store.tree.resolve viewer path = .error .nameTooLong)
    (hNoSlash : ¬store.tree.SlashesLongName viewer path) :
    store.replace viewer path bytes =
      (store, .error .nameTooLong) := by
  unfold replace
  rcases ensureDirectory_of_nameTooLong hClean hFits hPath
    with hThere | hMissed
  · rcases FileTree.resolveToCreate_of_error hPath with
      hCreate | hSlash
    · simp only [hThere, overwrite, hCreate]
    · exact absurd ⟨hPath, hSlash⟩ hNoSlash
  · simp only [hMissed]

/- A slash behind a long name is all that is met. -/
theorem replace_of_slashesLongName
    (hClean : path.IsClean)
    (hSlash : store.tree.SlashesLongName viewer path) :
    store.replace viewer path bytes =
      (store, .error .isDirectory) := by
  have hThere :
      FileTree.ensureDirectory viewer path.anchor store.tree
          path.parent.names =
        (store.tree, .ok ()) :=
    ensureDirectory_of_leadsToDirectory hClean.parent
      (leadsToDirectory_of_slashesLongName hClean hSlash)
  unfold replace
  simp only [hThere, overwrite, hSlash.2]

/- A file whose name is too long cannot be asked for. -/
theorem holds_of_nameTooLong
    (hPath :
      store.tree.resolve viewer path =
        .error .nameTooLong) :
    store.holds viewer path bytes =
      .error .nameTooLong := by
  unfold holds FileTree.isFile? FileTree.test
    FileTree.status
  simp only [hPath]
  rfl

/-
  A request that spares an unchanged file ends as one that
  writes in any case, and it leaves the same tree.
-/
theorem save_spares
    (hSpares : plain.Spares sparing)
    (hUnbound : viewer.bound = false)
    (hClean : path.IsClean)
    (hStart : plain.tree.StartsClear viewer path)
    (hFits : plain.tree.Fits viewer path)
    (hNoSlash : ¬plain.tree.SlashesLongName viewer path)
    (content : String) :
    let first := plain.save viewer false path content
    let second := sparing.save viewer true path content
    endingOf second.2 = endingOf first.2 ∧
      first.1.Spares second.1 := by
  have hHere :
      sparing.holds viewer path content.toUTF8 =
        plain.holds viewer path content.toUTF8 := by
    unfold holds
    rw [hSpares.tree]
  rw [save_eq, save_eq]
  simp only [if_true, Bool.false_eq_true, if_false, hHere]
  cases hHolds : plain.holds viewer path content.toUTF8 with
  | error fault =>
      rcases holds_eq_error hUnbound hHolds with
        ⟨hLong, hPath⟩
      rw [replace_of_nameTooLong hClean hFits hPath hNoSlash,
        hLong]
      exact ⟨rfl, hSpares⟩
  | ok same =>
      cases same with
      | true =>
          rcases replace_of_holds hUnbound hClean hStart
              hHolds with
            ⟨location, hReplace⟩
          rw [hReplace]
          refine ⟨rfl, hSpares.tree, ?_⟩
          exact hSpares.written.trans
            (List.sublist_append_left _ _)
      | false =>
          rcases replace_spares hSpares viewer path
              content.toUTF8 with
            ⟨hAnswer, hAfter⟩
          exact ⟨congrArg endingOf hAnswer, hAfter⟩

/-
  A path that is too long is refused in any case, but one of
  the two requests may make directories before.
-/
theorem save_misfit
    (hLong : FileTree.admits path = .error .nameTooLong)
    (store : Store)
    (viewer : Viewer)
    (content : String) :
    let plain := store.save viewer false path content
    store.save viewer true path content =
        (store, .error .nameTooLong) ∧
      (∃ fault, plain.2 = .error fault) ∧
        FileTree.Furnishes store.tree plain.1.tree ∧
          plain.1.written = store.written := by
  have hPath :
      ∀ tree : FileTree,
        tree.resolve viewer path = .error .nameTooLong := by
    intro tree
    unfold FileTree.resolve
    rw [hLong]
  refine ⟨?_, ?_⟩
  · rw [save_eq]
    simp only [if_true, holds_of_nameTooLong (hPath _)]
  · rw [save_eq]
    simp only [Bool.false_eq_true, if_false]
    rcases replace_cases store viewer path content.toUTF8
      with
      ⟨grown, hWay, ⟨fault, hReplace⟩ |
        ⟨after, hOver, _⟩⟩
    · rw [hReplace]
      exact ⟨⟨fault, rfl⟩, hWay.furnishes, rfl⟩
    · rcases overwrite_eq_ok hOver with
        ⟨destination, _, hLed, _⟩
      rw [hPath] at hLed
      contradiction

/-
  A path whose directory has too long a path is refused
  alike in both requests, before anything is made.
-/
theorem save_overlong
    (hUnbound : viewer.bound = false)
    (hLong :
      FileTree.admits path.parent = .error .nameTooLong)
    (store : Store)
    (skipUnchanged : Bool)
    (content : String) :
    store.save viewer skipUnchanged path content =
      (store, .error .nameTooLong) := by
  have hEnsure :
      FileTree.ensureDirectory viewer path.anchor store.tree
          path.parent.names =
        (store.tree, .error .nameTooLong) :=
    ensureDirectory_overlong store.tree viewer hLong
  have hReplace :
      store.replace viewer path content.toUTF8 =
        (store, .error .nameTooLong) := by
    unfold replace
    simp only [hEnsure]
  rw [save_eq]
  cases skipUnchanged with
  | false => exact hReplace
  | true =>
      simp only [if_true]
      cases hHolds :
          store.holds viewer path content.toUTF8 with
      | error fault =>
          rw [(holds_eq_error hUnbound hHolds).1]
      | ok same =>
          cases same with
          | false => exact hReplace
          | true =>
              rcases holds_eq_true hHolds with
                ⟨location, permissions, hPath⟩
              cases hAdmits : FileTree.admits path with
              | error fault =>
                  unfold FileTree.resolve at hPath
                  simp [hAdmits] at hPath
              | ok admitted =>
                  rw [admits_parent hAdmits] at hLong
                  contradiction

/-
  A slash behind a long name is refused in both requests.
  Only the one that spares files meets the name first.
-/
theorem save_of_slashesLongName
    (hClean : path.IsClean)
    (hSlash : store.tree.SlashesLongName viewer path)
    (content : String) :
    store.save viewer false path content =
        (store, .error .isDirectory) ∧
      store.save viewer true path content =
        (store, .error .nameTooLong) := by
  rw [save_eq, save_eq]
  simp only [Bool.false_eq_true, if_false, if_true,
    holds_of_nameTooLong hSlash.1,
    replace_of_slashesLongName hClean hSlash, and_self]

/- A viewer whom no permission bits bind. -/
def openViewer : Viewer :=
  ⟨[], false, .stored⟩

/- A name of as many bytes as asked for. -/
def wideName (count : Nat) : Name :=
  String.ofList (List.replicate count 'x')

theorem utf8ByteSize_wideName (count : Nat) :
    (wideName count).utf8ByteSize = count := by
  unfold wideName
  induction count with
  | zero => rfl
  | succ count ih =>
      rw [List.replicate_succ, String.ofList_cons,
        String.utf8ByteSize_append, ih, Nat.add_comm]
      rfl

theorem not_mem_wideName
    (count : Nat)
    {character : Char}
    (hOther : character ≠ 'x') :
    character ∉ (wideName count).toList := by
  unfold wideName
  rw [String.toList_ofList]
  intro hMem
  exact hOther (List.eq_of_mem_replicate hMem)

/- Names of different numbers of bytes are different. -/
theorem wideName_ne
    {count : Nat}
    {name : Name}
    (hSize : name.utf8ByteSize ≠ count) :
    wideName count ≠ name := by
  intro hSame
  rw [← hSame, utf8ByteSize_wideName] at hSize
  contradiction

/- A path of two names that has too many bytes. -/
def longPath : Path :=
  ⟨.relative, [wideName 4094, "d"]⟩

theorem admits_longPath :
    FileTree.admits longPath = .error .nameTooLong := by
  have hNull : longPath.hasNull = false := by
    have hFree : '\x00' ∉ (wideName 4094).toList :=
      not_mem_wideName 4094 (by decide)
    unfold Path.hasNull longPath
    rw [List.any_cons, List.contains_eq_mem,
      decide_eq_false hFree]
    rfl
  have hSize : longPath.byteSize = 4096 := by
    unfold Path.byteSize Path.text longPath
    simp only [List.cons_ne_nil, and_false, if_false,
      List.reverse_cons, List.reverse_nil, List.nil_append,
      List.cons_append, Text.joinWith,
      String.utf8ByteSize_append, utf8ByteSize_wideName]
    rfl
  unfold FileTree.admits
  rw [hNull, hSize]
  rfl

theorem longPath_isClean : longPath.IsClean := by
  have hSingle : (Path.mk .relative ["d"]).IsClean := by
    unfold Path.IsClean
    decide
  exact hSingle.child (wideName_ne (by decide))

/- A directory is made for a path that is refused then. -/
theorem save_missingDirectory
    (hLong : FileTree.admits path = .error .nameTooLong)
    (hParent : path.parent = ⟨.relative, ["d"]⟩)
    (content : String) :
    let plain :=
      Store.save ⟨.empty, []⟩ openViewer false path content
    plain.2 = .error .nameTooLong ∧
      plain.1.tree.node? ["d"] =
        some (.directory .all) := by
  have hMade :
      ∃ grown : FileTree,
        FileTree.ensureDirectory openViewer .relative .empty
            ["d"] =
          (grown, .ok ()) ∧
        grown.node? ["d"] = some (.directory .all) :=
    ⟨_, rfl, rfl⟩
  rcases hMade with ⟨grown, hEnsure, hDirectory⟩
  have hAnchor : path.anchor = .relative :=
    congrArg Path.anchor hParent
  have hRefused :
      grown.resolveToCreate openViewer path =
        .error .nameTooLong := by
    unfold FileTree.resolveToCreate
    rw [hLong]
  simp only [save_eq, Bool.false_eq_true, if_false,
    replace, hAnchor, hParent, hEnsure, overwrite, hRefused]
  exact ⟨trivial, hDirectory⟩

/- Only one of two refused requests has made a directory. -/
theorem save_longPath :
    let store : Store := ⟨.empty, []⟩
    let plain := store.save openViewer false longPath "a"
    let sparing := store.save openViewer true longPath "a"
    openViewer.bound = false ∧
      longPath.IsClean ∧
        plain.2 = .error .nameTooLong ∧
          plain.1.tree.node? ["d"] =
              some (.directory .all) ∧
            sparing.2 = .error .nameTooLong ∧
              sparing.1.tree.node? ["d"] = none := by
  have hParent : longPath.parent = ⟨.relative, ["d"]⟩ := rfl
  rcases save_missingDirectory admits_longPath hParent "a"
    with ⟨hPlain, hDirectory⟩
  have hSparing :=
    (save_misfit admits_longPath ⟨.empty, []⟩ openViewer
      "a").1
  simp only [hSparing]
  exact ⟨rfl, longPath_isClean, hPlain, hDirectory,
    trivial, rfl⟩

/- A tree of a link to a long name with a slash. -/
def slashTree : FileTree :=
  FileTree.empty.attach [] "out"
    (.link (wideName 256 ++ "/"))
    ⟨by decide, ⟨.all, rfl⟩, rfl⟩

/- Both requests are refused at the link, but not alike. -/
theorem save_slashTree :
    let store : Store := ⟨slashTree, []⟩
    let path : Path := ⟨.relative, ["out"]⟩
    path.IsClean ∧
      store.save openViewer false path "a" =
          (store, .error .isDirectory) ∧
        store.save openViewer true path "a" =
          (store, .error .nameTooLong) := by
  have hClean : (Path.mk .relative ["out"]).IsClean := by
    unfold Path.IsClean
    decide
  have hTarget :
      FileTree.targetNames (wideName 256 ++ "/") =
        [wideName 256, "."] :=
    FileTree.targetNames_slash
      (not_mem_wideName 256 (by decide))
      (wideName_ne (by decide))
  have hLong :
      nameLimit < (wideName 256).utf8ByteSize := by
    rw [utf8ByteSize_wideName]
    decide
  have hStart :
      FileTree.targetStart [] (wideName 256 ++ "/") = [] :=
    ite_self []
  have hEnter :
      slashTree.enter openViewer
          (FileTree.targetStart [] (wideName 256 ++ "/")) =
        .ok () := by
    rw [hStart]
    rfl
  have hSlash :
      (Store.mk slashTree []).tree.SlashesLongName
        openViewer ⟨.relative, ["out"]⟩ :=
    slashesLongName_of_link rfl rfl hEnter hTarget hLong
  exact ⟨hClean, save_of_slashesLongName hClean hSlash "a"⟩

end Store

end Disk

end Aggregation
