import OverlayControl.World

/-!
# File trees

A tree of directories, files and sockets in memory.

* `FileTree.find?`, `FileTree.put` — what stands at a place, and putting something there;
* `FileTree.files` — all files below a directory.
-/

namespace OverlayControl

/-- What stands at a place of a tree. -/
inductive Node
  /-- A directory. -/
  | directory
  /-- A file, with its permissions. -/
  | file (bytes : List UInt8) (mode : Nat)
  /-- A socket at which somebody listens. -/
  | socket
  deriving DecidableEq

/-- A place in a tree: the names on the way from the root. -/
abbrev Place := List (List UInt8)

/-- A tree of directories, files and sockets. -/
structure FileTree where
  /-- What stands where; the root is always a directory. -/
  nodes : List (Place × Node) := []

namespace FileTree

/-- What stands at a place. -/
def find? (t : FileTree) (at_ : Place) : Option Node :=
  if at_ = [] then some .directory else (t.nodes.find? fun (q, _) => q == at_).map Prod.snd

/-- Puts something at a place. -/
def put (t : FileTree) (at_ : Place) (n : Node) : FileTree :=
  ⟨(at_, n) :: t.nodes.filter fun (q, _) => q != at_⟩

/-- What was put at a place stands there. -/
@[simp]
theorem find?_put_self (t : FileTree) {at_ : Place} (n : Node) (h : at_ ≠ []) :
    (t.put at_ n).find? at_ = some n := by
  simp [find?, put, h]

/-- Putting something at a place changes no other place. -/
theorem find?_put_of_ne (t : FileTree) {at_ other : Place} (n : Node) (h : other ≠ at_) :
    (t.put at_ n).find? other = t.find? other := by
  unfold find? put
  split
  · rfl
  · rw [List.find?_cons_of_neg (by simpa using h.symm), List.find?_filter]
    congr 2
    funext q
    by_cases hq : q.1 = other
    · simp [hq, h]
    · simp [hq]

/-- Whether a place is a directory. -/
def isDirectoryAt (t : FileTree) (at_ : Place) : Bool := t.find? at_ == some .directory

/-- Whether bytes come before others in the order of bytes. -/
def bytesPrecede : List UInt8 → List UInt8 → Bool
  | _, [] => false
  | [], _ :: _ => true
  | a :: as, b :: bs => a < b || (a == b && bytesPrecede as bs)

/-- Puts a file into a list of files that is in the order of paths. -/
def insertFile (f : List UInt8 × Nat) : List (List UInt8 × Nat) → List (List UInt8 × Nat)
  | [] => [f]
  | g :: gs => if bytesPrecede f.1 g.1 then f :: g :: gs else g :: insertFile f gs

/-- The files below a place with their permissions, in the order of their paths from there. -/
def files (t : FileTree) (below : Place) : List (List UInt8 × Nat) :=
  let found := t.nodes.filterMap fun (q, n) =>
    match n with
    | .file _ mode =>
      if below.isPrefixOf q then some (Path.joinSlash (q.drop below.length), mode) else none
    | _ => none
  found.foldr insertFile []

end FileTree

end OverlayControl
