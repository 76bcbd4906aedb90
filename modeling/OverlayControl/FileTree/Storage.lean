import OverlayControl.FileTree.Walk

/-!
# A file tree as a storage

* `FileTree.read` — the contents of a file;
* `FileTree.makeDirectories` — a directory and those on the way to it;
* `FileTree.replace` — a file as a whole, by way of a temporary file beside it;
* `FileTree.append` — more at the end of a file;
* `FileTree.startFault` — why nothing in the tree starts as a program.
-/

namespace OverlayControl.FileTree

/-- The contents of a file. -/
def read (p : Path) (t : FileTree) : Except FileFault (List UInt8) := do
  match t.find? (← t.locate p) with
  | some (.file bytes _) => .ok bytes
  | some .directory => .error .isDirectory
  | some .socket => .error .noDevice
  | none => .error .notFound

/-- Makes the directory of the first path. Where the way to it is missing, the directory of the next
path is made first. What has been made stays when a later step fails. -/
def makeOutward (t : FileTree) : List Path → Except FileFault Unit × FileTree
  | [] => (.ok (), t)
  | p :: outer =>
    let finish (t : FileTree) : Except FileFault Unit × FileTree :=
      match t.vacancy p with
      | .ok at_ => (.ok (), t.put at_ .directory)
      | .error e =>
        let standing := match t.locate p with
          | .ok at_ => t.isDirectoryAt at_
          | .error _ => false
        (if e = .taken ∧ standing = true then .ok () else .error e, t)
    match t.vacancy p with
    | .error .notFound =>
      match t.makeOutward outer with
      | (.ok (), t) => finish t
      | failed => failed
    | _ => finish t

/-- Makes a directory and those on the way to it. -/
def makeDirectories (p : Path) (t : FileTree) : Except FileFault Unit × FileTree :=
  match p.ancestors with
  | [] => (.ok (), t)
  | _ :: outer => t.makeOutward (p :: outer)

/-- The tree with something put under a path, and the directories on the way to it. -/
def putAt (p : Path) (n : Node) (t : FileTree) : Except FileFault FileTree := do
  let (made, t) := t.makeOutward p.ancestors.tail
  made
  .ok (t.put (← t.landing p) n)

/-- The temporary file that becomes the file of a path. The system gives each one a mark of its own;
since none outlives a replacement, one mark serves here. -/
def temporary (p : Path) : Path :=
  let name := (p.fileName?.map Utf8.decodeLossy).getD "config"
  p.withFileName s!".{name}.00000000-0000-4000-8000-000000000000.tmp"

/-- Puts bytes in the place of a file, which only its owner may read then. The directories come
first, then a temporary file beside the file, and the file last; the first that cannot be made
decides. -/
def replace (p : Path) (bytes : List UInt8) (t : FileTree) : Except FileFault Unit × FileTree :=
  match t.makeOutward p.ancestors.tail with
  | (.error e, t) => (.error e, t)
  | (.ok (), t) =>
    match t.vacancy (temporary p) with
    | .error e => (.error e, t)
    | .ok _ =>
      match t.landing p with
      | .error e => (.error e, t)
      | .ok at_ => (.ok (), t.put at_ (.file bytes 0o600))

/-- Adds bytes to the end of a file, which is made if it is not there. -/
def append (p : Path) (bytes : List UInt8) (t : FileTree) : Except FileFault Unit × FileTree :=
  match t.landing p with
  | .error e => (.error e, t)
  | .ok at_ =>
    match t.find? at_ with
    | some (.file old mode) => (.ok (), t.put at_ (.file (old ++ bytes) mode))
    | some _ => (.error .noDevice, t)
    | none => (.ok (), t.put at_ (.file bytes 0o644))

/-- The tree as a storage. -/
def storage : Storage FileTree where
  readFile := read
  replaceFile := replace

/-- Why a path does not start as a program: no file of a tree may be run, and a path without a slash
is a name that is looked for elsewhere. -/
def startFault (p : Path) (t : FileTree) : FileFault :=
  if p.bytes.contains Path.slash then
    match t.locate p with
    | .error e => e
    | .ok _ => .denied
  else if nameLimit < p.bytes.length then .tooLong
  else .notFound

end OverlayControl.FileTree
