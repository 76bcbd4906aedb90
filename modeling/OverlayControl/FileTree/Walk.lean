import OverlayControl.FileTree.Basic

/-!
# Following paths in a file tree

A path is followed step by step from the root, which is also the working directory, with the
failures of a POSIX file system. A step starts from a directory, so that even `.` and `..` after a
file fail, and the first step that fails decides.

* `FileTree.locate` — the place of what a path leads to;
* `FileTree.aim` — the directory and the name in it that a path gives to something that is to be
  made;
* `FileTree.landing` — the place where a file may be put under a path.
-/

namespace OverlayControl

namespace FileFault

/-- There is no such device behind the path. -/
def noDevice : FileFault := .system 6
/-- Permission is denied. -/
def denied : FileFault := .system 13
/-- The place is in use. -/
def busy : FileFault := .system 16
/-- Something is there already. -/
def taken : FileFault := .system 17
/-- A directory is needed. -/
def notDirectory : FileFault := .system 20
/-- A directory is in the way. -/
def isDirectory : FileFault := .system 21
/-- A path or a name is too long. -/
def tooLong : FileFault := .system 36
/-- Nobody listens there. -/
def refused : FileFault := .system 111

end FileFault

/-- One step on the way that a path describes. -/
inductive Step
  /-- Staying in the directory. -/
  | stay
  /-- Going to the directory above; the root is above itself. -/
  | up
  /-- Going to an entry of the directory. -/
  | enter (name : List UInt8)
  deriving DecidableEq

namespace Step

/-- The step that a part between slashes stands for; an empty part stands for none. -/
def ofPart? (part : List UInt8) : Option Step :=
  if part = [] then none
  else if part = [Path.dot] then some .stay
  else if part = [Path.dot, Path.dot] then some .up
  else some (.enter part)

/-- The longest path, counting what the system adds to it. -/
def pathLimit : Nat := 4096

/-- The steps of a path that the system takes. -/
def ofPath (p : Path) : Except FileFault (List Step) :=
  if p.bytes.contains 0 then .error (.other "file name contained an unexpected NUL byte")
  else if p.isEmpty then .error .notFound
  else if pathLimit ≤ p.bytes.length then .error .tooLong
  else .ok ((Path.splitSlash p.bytes).filterMap ofPart?)

end Step

namespace FileTree

/-- The longest name. -/
def nameLimit : Nat := 255

/-- Takes one step from a directory to something that is there. -/
def step (t : FileTree) (at_ : Place) : Step → Except FileFault Place
  | .stay => .ok at_
  | .up => .ok at_.dropLast
  | .enter name =>
    if nameLimit < name.length then .error .tooLong
    else if (t.find? (at_ ++ [name])).isSome then .ok (at_ ++ [name])
    else .error .notFound

/-- Takes steps one after the other, each from a directory. -/
def walk (t : FileTree) : Place → List Step → Except FileFault Place
  | at_, [] => .ok at_
  | at_, s :: ss =>
    if t.isDirectoryAt at_ then
      match t.step at_ s with
      | .ok next => t.walk next ss
      | .error e => .error e
    else .error .notDirectory

/-- Walking on is walking from where one has come to. -/
theorem walk_append (t : FileTree) (at_ : Place) (ss rest : List Step) :
    t.walk at_ (ss ++ rest) = (t.walk at_ ss).bind fun next => t.walk next rest := by
  induction ss generalizing at_ with
  | nil => rfl
  | cons s ss ih =>
    simp only [List.cons_append, walk]
    split
    · cases t.step at_ s with
      | ok next => exact ih next
      | error e => rfl
    · rfl

/-- Whether a path asks for a directory by ending in a slash. -/
def asksDirectory (p : Path) : Bool := p.bytes.getLast? == some Path.slash

/-- The place of what a path leads to. -/
def locate (t : FileTree) (p : Path) : Except FileFault Place := do
  let at_ ← t.walk [] (← Step.ofPath p)
  if asksDirectory p && !t.isDirectoryAt at_ then .error .notDirectory else .ok at_

/-- The directory that a path leads into, and the name in it that the path ends in; no name when the
path ends in a step of another kind. -/
def aim (t : FileTree) (p : Path) : Except FileFault (Place × Option (List UInt8)) := do
  let steps ← Step.ofPath p
  let directory ← t.walk [] steps.dropLast
  if !t.isDirectoryAt directory then .error .notDirectory
  else
    match steps.getLast? with
    | some (.enter name) => .ok (directory, some name)
    | _ => .ok (directory, none)

/-- The place of something new under a path, where nothing stands yet. -/
def vacancy (t : FileTree) (p : Path) : Except FileFault Place := do
  match ← t.aim p with
  | (_, none) => .error .taken
  | (directory, some name) =>
    if nameLimit < name.length then .error .tooLong
    else if (t.find? (directory ++ [name])).isSome then .error .taken
    else .ok (directory ++ [name])

/-- The place where a file may be moved to under a path: what stands there gives way to it, unless
it is a directory. -/
def landing (t : FileTree) (p : Path) : Except FileFault Place := do
  match ← t.aim p with
  | (_, none) => .error .busy
  | (directory, some name) =>
    if nameLimit < name.length then .error .tooLong
    else if asksDirectory p then .error .notDirectory
    else if t.isDirectoryAt (directory ++ [name]) then .error .isDirectory
    else .ok (directory ++ [name])

end FileTree

end OverlayControl
