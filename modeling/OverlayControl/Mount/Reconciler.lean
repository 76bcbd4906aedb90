import OverlayControl.Mount.Order
import OverlayControl.Rule.Store

/-!
# Repairing the order of mounts

The engine can renumber the mounts. It is asked to only when the mount table is not canonical, and
the table is looked at again afterwards, together with the engine's rules, which a repair should not
change.
-/

namespace OverlayControl

/-- Why the order of mounts is not repaired. -/
inductive MountError
  /-- The connection does not grant the overlay engine. -/
  | unsupported (tier : Tier)
  /-- The engine refused or failed. -/
  | engineRejected (diagnostic : String)
  deriving DecidableEq

/-- The wording of an error. -/
def MountError.message : MountError → String
  | .unsupported tier =>
    s!"mount repair needs overlay engine access; connected at tier {tier.name}"
  | .engineRejected diagnostic => s!"engine rejected mount repair: {diagnostic}"

/-- What reconciling has found and done. -/
structure ReconcileReport where
  /-- The mount table before, if it could be read. -/
  before : Option MountReport
  /-- The mount table after a repair, if it could be read. -/
  after : Option MountReport
  /-- Whether the engine was asked to renumber. -/
  repaired : Bool
  /-- How many rules there were before and after a repair, if both listings succeeded. -/
  ruleCounts : Option (Nat × Nat)
  deriving DecidableEq

/-- A report as data. -/
def ReconcileReport.toData (r : ReconcileReport) : Data :=
  .table [("before", (r.before.map MountReport.toData).getD .null),
    ("after", (r.after.map MountReport.toData).getD .null),
    ("repaired", .bool r.repaired),
    ("rule_counts", match r.ruleCounts with
      | some (was, now) => .list [.int was, .int now]
      | none => .null)]

/-- Checks and repairs of the order of mounts over a connection. -/
structure MountReconciler where
  /-- The connection. -/
  connection : Connection
  /-- The file that holds the mount table. -/
  mountinfo : Path

namespace MountReconciler

variable {δ : Type}

/-- The store of the rules, over the same connection. -/
def rules (m : MountReconciler) : RuleStore := ⟨m.connection⟩

/-- Asks the engine to renumber the mounts. -/
def fix (d : Device δ) (m : MountReconciler) : Action δ (Except MountError Unit) :=
  if m.connection.allows .overlayEngine then do
    let o ← execute d .fixMounts
    pure (if o.success then .ok () else .error (.engineRejected o.text))
  else pure (.error (.unsupported m.connection.tier))

/-- Looks at the mount table. -/
def check (d : Device δ) (m : MountReconciler) : Action δ (Except FileFault MountReport) := do
  match ← readText d m.mountinfo with
  | .ok text => pure (.ok (.ofText text))
  | .error e => pure (.error e)

/-- Asks the engine to renumber, and looks at the rules and the mounts around that. -/
def repair (d : Device δ) (m : MountReconciler) (before : Option MountReport) :
    Action δ (Except MountError ReconcileReport) := do
  -- The listings frame the repair, so that a rule that it loses shows in the counts.
  let was ← m.rules.list d
  match ← fix d m with
  | .error e => pure (.error e)
  | .ok () =>
    let now ← m.rules.list d
    let after := (← check d m).toOption
    let ruleCounts :=
      if was.isAuthoritative && now.isAuthoritative then some (was.rules.length, now.rules.length)
      else none
    pure (.ok { before, after, repaired := true, ruleCounts })

/-- Looks at the mount table, repairs it if needed, and looks again. -/
def reconcile (d : Device δ) (m : MountReconciler) :
    Action δ (Except MountError ReconcileReport) :=
  if m.connection.allows .overlayEngine then do
    -- A table that cannot be read is repaired as one that is out of order.
    let before := (← check d m).toOption
    if before.any MountReport.isCanonical then
      pure (.ok { before, after := none, repaired := false, ruleCounts := none })
    else repair d m before
  else pure (.error (.unsupported m.connection.tier))

end MountReconciler

end OverlayControl
