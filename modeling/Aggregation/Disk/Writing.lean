import Aggregation.Disk.Query

/-
  Directories and files written to a tree.

  Requests that fail part of the way leave what they made so
  far, so every request of several steps returns the new
  state beside its outcome.

  Key definitions include:
    * `Store`
    * `FileTree.makeDirectory`
    * `FileTree.ensureDirectory`
    * `Store.overwrite`
    * `Store.save`
-/

------------------------------------------------------------
-- Directories
------------------------------------------------------------

namespace Aggregation

namespace Disk

namespace FileTree

/- Make one directory inside an existing one. -/
def makeDirectory
    (tree : FileTree)
    (viewer : Viewer)
    (path : Path) :
    Except Fault FileTree :=
  match admits path with
  | .error fault => .error fault
  | .ok () =>
      match path.names with
      | [] => .error .exists
      | name :: above =>
          match tree.follow viewer linkLimit
              (viewer.start path.anchor) above.reverse with
          | .error fault => .error fault
          | .ok (.vacant _ _) => .error .missing
          | .ok (.present parent node) =>
              match tree.enter viewer parent with
              | .error fault => .error fault
              | .ok () =>
                  if name = ".." then
                    .error .exists
                  else if nameLimit < name.utf8ByteSize then
                    .error .nameTooLong
                  else if
                      (tree.node? (name :: parent)).isSome then
                    .error .exists
                  else
                    match node with
                    | .directory permissions =>
                        if viewer.may permissions.write then
                          match tree.attach? parent name
                              (.directory .all) with
                          | some grown => .ok grown
                          | none => .error .missing
                        else
                          .error .denied
                    | _ => .error .notDirectory

/- A failed request is excused if the directory is there. -/
def excuse
    (tree : FileTree)
    (viewer : Viewer)
    (path : Path)
    (fault : Fault) :
    Except Fault Unit :=
  if fault = .nullCharacter then
    .error fault
  else
    match tree.isDirectory? viewer path with
    | .ok true => .ok ()
    | .ok false => .error fault
    | .error other => .error other

/-
  Make a directory and the directories above it, as far as
  they are not there.
-/
def ensureDirectory
    (viewer : Viewer)
    (anchor : Anchor)
    (tree : FileTree) :
    List Name → FileTree × Except Fault Unit
  | [] =>
      match tree.makeDirectory viewer ⟨anchor, []⟩ with
      | .ok grown => (grown, .ok ())
      | .error .missing => (tree, .error .missing)
      | .error fault =>
          (tree, tree.excuse viewer ⟨anchor, []⟩ fault)
  | name :: above =>
      match tree.makeDirectory viewer
          ⟨anchor, name :: above⟩ with
      | .ok grown => (grown, .ok ())
      | .error .missing =>
          match ensureDirectory viewer anchor tree above with
          | (grown, .error fault) => (grown, .error fault)
          | (grown, .ok ()) =>
              match grown.makeDirectory viewer
                  ⟨anchor, name :: above⟩ with
              | .ok whole => (whole, .ok ())
              | .error .missing => (grown, .error .missing)
              | .error fault =>
                  (grown,
                    grown.excuse viewer
                      ⟨anchor, name :: above⟩ fault)
      | .error fault =>
          (tree,
            tree.excuse viewer ⟨anchor, name :: above⟩ fault)

end FileTree

------------------------------------------------------------
-- Files
------------------------------------------------------------

/-
  A tree with the locations of the files written so far, the
  latest last.
-/
structure Store where
  tree : FileTree
  written : List Location

namespace Store

/- Write a file whose directory exists. -/
def overwrite
    (store : Store)
    (viewer : Viewer)
    (path : Path)
    (content : ByteArray) :
    Except Fault Store :=
  match store.tree.resolveToCreate viewer path with
  | .error fault => .error fault
  | .ok (.present location (.file _ permissions)) =>
      if viewer.may permissions.write then
        .ok ⟨store.tree.setContent location content,
          store.written ++ [location]⟩
      else
        .error .denied
  | .ok (.present _ (.directory _)) => .error .isDirectory
  | .ok (.present _ (.link _)) => .error .tooManyLinks
  | .ok (.vacant parent name) =>
      match store.tree.node? parent with
      | some (.directory permissions) =>
          if viewer.may permissions.write then
            match store.tree.attach? parent name
                (.file content .all) with
            | some grown =>
                .ok ⟨grown,
                  store.written ++ [name :: parent]⟩
            | none => .error .missing
          else
            .error .denied
      | _ => .error .notDirectory

/- Test whether a path leads to a file of given content. -/
def holds
    (store : Store)
    (viewer : Viewer)
    (path : Path)
    (content : ByteArray) :
    Except Fault Bool :=
  match store.tree.isFile? viewer path with
  | .error fault => .error fault
  | .ok false => .ok false
  | .ok true =>
      (store.tree.read viewer path).map (· == content)

/-
  Write a text file and the directories above it.  If asked,
  a file that already holds the text is left alone.  The
  outcome tells whether the file was written.
-/
def save
    (store : Store)
    (viewer : Viewer)
    (skipUnchanged : Bool)
    (path : Path)
    (content : String) :
    Store × Except Fault Bool :=
  let bytes := content.toUTF8
  let unchanged :=
    if skipUnchanged then
      store.holds viewer path bytes
    else
      .ok false
  match unchanged with
  | .error fault => (store, .error fault)
  | .ok true => (store, .ok false)
  | .ok false =>
      match FileTree.ensureDirectory viewer path.anchor
          store.tree path.parent.names with
      | (grown, .error fault) =>
          (⟨grown, store.written⟩, .error fault)
      | (grown, .ok ()) =>
          let prepared : Store := ⟨grown, store.written⟩
          match prepared.overwrite viewer path bytes with
          | .error fault => (prepared, .error fault)
          | .ok final => (final, .ok true)

end Store

end Disk

end Aggregation
