import OverlayControl.Data
import OverlayControl.Text.Blank

/-!
# The order of mounts

A mount table has one mount to a line, and a line starts with the mount's number and its parent's.
The table is canonical when the numbers strictly increase; a report tells which numbers occur more
than once and where they go backwards.

* `MountLine.ofLine` — the mount that a line tells;
* `MountReport.ofText` — the report on a table.
-/

namespace OverlayControl

/-- A mount of a table. -/
structure MountLine where
  /-- The number of the mount. -/
  id : UInt32
  /-- Where it is mounted; empty when the line does not tell. -/
  mountPoint : String
  deriving DecidableEq

/-- The mount that a line tells: its first two fields have to be numbers, its fifth field is the
mount point. -/
def MountLine.ofLine (line : String) : Option MountLine :=
  match Text.words line with
  | id :: parent :: fields =>
    match Text.readWord id, Text.readWord parent with
    | .ok n, .ok _ => some ⟨n, (fields[2]?).getD ""⟩
    | _, _ => none
  | _ => none

/-- The mounts of a table. -/
def mountLines (text : String) : List MountLine := (Text.lines text).filterMap MountLine.ofLine

/-- A mount whose number is lower than that of the mount before it. -/
structure MountInversion where
  /-- The number of the mount before. -/
  previous : UInt32
  /-- The number of the mount. -/
  id : UInt32
  /-- Where it is mounted. -/
  mountPoint : String
  deriving DecidableEq

/-- A report on a mount table. -/
structure MountReport where
  /-- How many mounts there are. -/
  mounts : Nat
  /-- The numbers of more than one mount, ascending. -/
  duplicates : List UInt32
  /-- Where the numbers go backwards, in order. -/
  inversions : List MountInversion
  deriving DecidableEq

/-- Puts a number in its place in an ascending list, unless it is there. -/
def insertNumber (n : UInt32) : List UInt32 → List UInt32
  | [] => [n]
  | m :: ms => if n < m then n :: m :: ms else if n = m then m :: ms else m :: insertNumber n ms

/-- The numbers that occur again after an occurrence in `seen` or in the list, ascending. -/
def duplicatesFrom (seen : List UInt32) : List UInt32 → List UInt32
  | [] => []
  | n :: ns =>
    let rest := duplicatesFrom (n :: seen) ns
    if seen.contains n then insertNumber n rest else rest

/-- Where numbers go backwards in a list of mounts. -/
def inversionsOf : List MountLine → List MountInversion
  | a :: b :: ms =>
    let rest := inversionsOf (b :: ms)
    if b.id < a.id then ⟨a.id, b.id, b.mountPoint⟩ :: rest else rest
  | _ => []

namespace MountReport

/-- The report on a list of mounts. -/
def ofMounts (ms : List MountLine) : MountReport :=
  ⟨ms.length, duplicatesFrom [] (ms.map MountLine.id), inversionsOf ms⟩

/-- The report on a mount table. -/
def ofText (text : String) : MountReport := ofMounts (mountLines text)

/-- Whether the numbers of the mounts strictly increase. -/
def isCanonical (r : MountReport) : Bool := r.duplicates.isEmpty && r.inversions.isEmpty

/-- A report as data. -/
def toData (r : MountReport) : Data :=
  .table [("mounts", .int r.mounts), ("duplicates", .list (r.duplicates.map fun n => .int n.toNat)),
    ("inversions", .list (r.inversions.map fun i =>
      .table [("previous", .int i.previous.toNat), ("id", .int i.id.toNat),
        ("mount_point", .text i.mountPoint)]))]

end MountReport

end OverlayControl
