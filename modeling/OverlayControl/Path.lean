import OverlayControl.Text.Utf8

/-!
# File paths

A path is a sequence of bytes; slashes separate its components. Two paths name the same place when
their components agree: repeated slashes, a slash at the end and inner `.` components do not matter,
while `..`, a leading `.` and the case of letters do.

* `Path.components` — the components of a path;
* `Path.same` — agreement of components;
* `Path.ancestors` — the path and those above it;
* `Path.withExtension`, `Path.withFileName` — the path with the extension of its file name, or the
  name itself, replaced;
* `Path.display` — the path as text.
-/

namespace OverlayControl

/-- A file path, as the bytes it is written with. -/
structure Path where
  /-- The bytes of the path. -/
  bytes : List UInt8
  deriving DecidableEq, Inhabited

namespace Path

/-- The byte that separates components. -/
def slash : UInt8 := 0x2F

/-- The byte that starts an extension. -/
def dot : UInt8 := 0x2E

/-- The path written as a text. -/
def ofString (s : String) : Path := ⟨Utf8.encode s⟩

/-- The path as text; bytes that are not UTF-8 become replacement characters. -/
def display (p : Path) : String := Utf8.decodeLossy p.bytes

/-- The path as text, when its bytes are UTF-8. -/
def text? (p : Path) : Option String := Utf8.decode? p.bytes

/-- Whether the path is empty. -/
def isEmpty (p : Path) : Bool := p.bytes.isEmpty

/-- Whether the path starts at the root. -/
def isAbsolute (p : Path) : Bool := p.bytes.head? == some slash

/-- One component of a path. -/
inductive Component
  /-- The root directory. -/
  | root
  /-- The current directory, at the start of a relative path. -/
  | current
  /-- The parent directory. -/
  | parent
  /-- A name. -/
  | name (bytes : List UInt8)
  deriving DecidableEq

/-- Cuts bytes at every slash; `n` slashes give `n + 1` parts. -/
def splitSlash : List UInt8 → List (List UInt8)
  | [] => [[]]
  | b :: bs =>
    if b = slash then [] :: splitSlash bs
    else
      match splitSlash bs with
      | [] => [[b]]
      | part :: parts => (b :: part) :: parts

/-- The component that a part between slashes stands for; empty parts and `.` stand for none. -/
def component? (part : List UInt8) : Option Component :=
  if part = [] ∨ part = [dot] then none
  else if part = [dot, dot] then some .parent
  else some (.name part)

/-- The components of a path. -/
def components (p : Path) : List Component :=
  let parts := splitSlash p.bytes
  let lead :=
    if p.isAbsolute then [Component.root]
    else if parts.head? == some [dot] then [Component.current] else []
  lead ++ parts.filterMap component?

/-- Whether two paths have the same components. -/
def same (p q : Path) : Bool := p.components == q.components

/-- Whether two optional paths are both absent or have the same components. -/
def sameOption : Option Path → Option Path → Bool
  | none, none => true
  | some p, some q => p.same q
  | _, _ => false

theorem same_eq_true_iff {p q : Path} : p.same q = true ↔ p.components = q.components := by
  simp [same]

@[simp]
theorem same_self (p : Path) : p.same p = true := same_eq_true_iff.2 rfl

theorem same_comm (p q : Path) : p.same q = q.same p := by
  rw [Bool.eq_iff_iff, same_eq_true_iff, same_eq_true_iff]
  exact eq_comm

/-- Two optional paths agree when their components do, absence included. -/
theorem sameOption_eq_true_iff {p q : Option Path} :
    sameOption p q = true ↔ p.map components = q.map components := by
  cases p with
  | none => cases q <;> simp [sameOption]
  | some p =>
    cases q with
    | none => simp [sameOption]
    | some q => simp [sameOption, same_eq_true_iff]

/-- The last component, when it is a name. -/
def fileName? (p : Path) : Option (List UInt8) :=
  match p.components.getLast? with
  | some (.name n) => some n
  | _ => none

/-- Joins parts with slashes between them. -/
def joinSlash : List (List UInt8) → List UInt8
  | [] => []
  | [part] => part
  | part :: parts => part ++ slash :: joinSlash parts

/-- A file name without its extension: what precedes its last dot, unless that dot comes first or is
missing. -/
def stem (name : List UInt8) : List UInt8 :=
  match (name.reverse.dropWhile (· != dot)).drop 1 with
  | [] => name
  | before => before.reverse

/-- The parts of a path up to its last name; slashes and dots after that name are left out. -/
def partsToName (p : Path) : List (List UInt8) :=
  ((splitSlash p.bytes).reverse.dropWhile fun part => (component? part).isNone).reverse

/-- The path whose file name has the extension `extension` in place of its own. A path without a
file name stays as it is. A path that ends in a name of two dots and an extension only loses that
extension, since the two dots that are left are no name. -/
def withExtension (p : Path) (extension : String) : Path :=
  match p.fileName? with
  | none => p
  | some name =>
    let parts := p.partsToName
    if stem name = [dot] ∧ parts = splitSlash p.bytes then
      ⟨joinSlash (parts.dropLast ++ [[dot, dot]])⟩
    else ⟨joinSlash (parts.dropLast ++ [stem name]) ++ dot :: Utf8.encode extension⟩

/-- The path of `name` inside the directory `p`. -/
def join (p : Path) (name : String) : Path :=
  if p.bytes.getLast? == some slash || p.isEmpty then ⟨p.bytes ++ Utf8.encode name⟩
  else ⟨p.bytes ++ slash :: Utf8.encode name⟩

/-- The path that ends in the first of some parts, given from the last to the first, and the paths
above it. Parts that stand for no component add no path of their own. -/
def outward : List (List UInt8) → List Path
  | [] => []
  | part :: rest =>
    if (component? part).isNone then outward rest
    else ⟨joinSlash (part :: rest).reverse⟩ :: outward rest

/-- A path without what follows its last name or upward step, and the paths above it, from the
inside out. The root and the working directory are not among them. -/
def ancestors (p : Path) : List Path := outward (splitSlash p.bytes).reverse

/-- The path with another file name; a path without a file name is taken for a directory. -/
def withFileName (p : Path) (name : String) : Path :=
  match p.fileName?, p.ancestors.tail with
  | none, _ => p.join name
  | some _, parent :: _ => parent.join name
  | some _, [] => if p.isAbsolute then ⟨slash :: Utf8.encode name⟩ else ofString name

end Path

end OverlayControl
