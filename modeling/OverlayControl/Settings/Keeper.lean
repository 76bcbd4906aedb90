import OverlayControl.Settings
import OverlayControl.World

/-!
# Keeping the settings

The keeper stores the declared settings in a document and pushes what has an effect to the engine. A
declared setting is always stored, even when the engine refuses it or cannot be asked. What the
engine has acknowledged last is kept in a second document beside the first; each save pushes the
difference between that and the declared settings, so that an effect that was left out is tried
again.

* `Keeper.load`, `Keeper.applied` — the two documents, defaults when absent or malformed;
* `settled`, `effects` — what a save needs no command for, and the commands it needs;
* `Keeper.save` — stores the settings and applies them.
-/

namespace OverlayControl

/-- Why settings or strategies are not kept. -/
inductive KeepError
  /-- The document could not be written. -/
  | persistFailed (why : String)
  /-- A value was refused before anything was written. -/
  | invalidValue (what : String)
  /-- The connection's tier is too low for the settings. -/
  | gated (settings : List String) (required : Tier)
  deriving DecidableEq

/-- The wording of an error. -/
def KeepError.message : KeepError → String
  | .persistFailed why => s!"failed to persist engine config: {why}"
  | .invalidValue what => s!"invalid setting: {what}"
  | .gated settings required =>
    let names := String.intercalate ", " settings
    s!"{names} require tier {required.name} to take effect"

/-- An effect that was tried and did not come about. -/
structure Deferred where
  /-- The setting. -/
  setting : String
  /-- What the engine said. -/
  diagnostic : String
  deriving DecidableEq

/-- What a save has done on the engine. -/
structure SaveReport where
  /-- The settings whose effect came about. -/
  applied : List String := []
  /-- The settings whose effect did not. -/
  deferred : List Deferred := []
  deriving DecidableEq

/-- A report as data. -/
def SaveReport.toData (r : SaveReport) : Data :=
  .table [("applied", .list (r.applied.map .text)),
    ("deferred", .list (r.deferred.map fun f =>
      .table [("setting", .text f.setting), ("diagnostic", .text f.diagnostic)]))]

/-- A setting that the engine knows of. -/
inductive Slot
  /-- A toggle. -/
  | toggle (t : Toggle)
  /-- The mirror path. -/
  | mirrorPath
  deriving DecidableEq

/-- Copies a setting from the declared settings to the acknowledged ones. -/
def Slot.settle : Slot → (declared acknowledged : Settings) → Settings
  | .toggle t, d, a => t.set (t.get d) a
  | .mirrorPath, d, a => { a with mirrorPath := d.mirrorPath }

/-- The name of a setting in reports. -/
def Slot.name : Slot → String
  | .toggle t => t.key
  | .mirrorPath => "mirror_path"

/-- A change that the engine has to be told. -/
structure Effect where
  /-- The setting that changes. -/
  slot : Slot
  /-- The capability that the change needs. -/
  gate : Capability
  /-- The command that makes the change. -/
  command : Command
  deriving DecidableEq

/-- The acknowledged settings, those settings taken from the declared ones that the engine knows of
and that have no command for their declared value. -/
def settled (acknowledged declared : Settings) : Settings :=
  let toggles := Toggle.all.filter fun t => t.gate.isSome && (t.effect (t.get declared)).isNone
  let s := toggles.foldl (fun a t => (Slot.toggle t).settle declared a) acknowledged
  if declared.mirrorPath.isNone then Slot.mirrorPath.settle declared s else s

/-- The change of a toggle that the engine has to be told, if there is one. -/
def toggleEffect? (old new : Settings) (t : Toggle) : Option Effect :=
  if t.get old = t.get new then none
  else
    match t.effect (t.get new), t.gate with
    | some command, some gate => some { slot := .toggle t, gate, command }
    | _, _ => none

/-- The change of the mirror path that the engine has to be told, if there is one. -/
def mirrorEffect? (old new : Settings) : Option Effect :=
  match new.mirrorPath with
  | none => none
  | some p =>
    if Path.sameOption old.mirrorPath (some p) then none
    else some { slot := .mirrorPath, gate := .overlayEngine, command := .setMirrorPath p }

/-- The changes that the engine has to be told when the settings go from `old` to `new`. -/
def effects (old new : Settings) : List Effect :=
  Toggle.all.filterMap (toggleEffect? old new) ++ (mirrorEffect? old new).toList

/-- The keeper of a document. -/
structure Keeper where
  /-- The document of the declared settings. -/
  path : Path
  /-- The connection over which effects are applied, if there is one. -/
  engine : Option Connection

/-- A save in the course of pushing effects. -/
structure Progress where
  /-- What the engine has acknowledged. -/
  acknowledged : Settings
  /-- What was done. -/
  report : SaveReport := {}
  /-- The settings that need a higher tier. -/
  gated : List String := []
  /-- The tier that those settings need. -/
  required : Tier := .shell

namespace Keeper

variable {δ : Type}

/-- The document of the acknowledged settings. -/
def appliedPath (k : Keeper) : Path := k.path.withExtension "applied.toml"

/-- The settings in a document, defaults when there is none. -/
def readDocument (d : Device δ) (p : Path) : Action δ Settings := do
  match ← readText d p with
  | .ok text => pure ((Settings.ofToml text).getD {})
  | .error _ => pure {}

/-- The declared settings. -/
def load (d : Device δ) (k : Keeper) : Action δ Settings := readDocument d k.path

/-- The acknowledged settings. -/
def applied (d : Device δ) (k : Keeper) : Action δ Settings := readDocument d k.appliedPath

/-- Stores settings in a document. -/
def writeDocument (d : Device δ) (p : Path) (s : Settings) : Action δ (Except KeepError Unit) :=
  match s.toToml with
  | none => pure (.error (.persistFailed "path contains invalid UTF-8 characters"))
  | some text => do
    match ← replaceFile d p (Utf8.encode text) with
    | .ok () => pure (.ok ())
    | .error e => pure (.error (.persistFailed s!"{p.display}: {e.message}"))

/-- Pushes one effect, or notes that it needs a higher tier. -/
def push (d : Device δ) (k : Keeper) (declared : Settings) (p : Progress) (e : Effect) :
    Action δ Progress :=
  if k.engine.any fun c => c.allows e.gate then do
    let o ← execute d e.command
    if o.success then
      pure { p with
        acknowledged := e.slot.settle declared p.acknowledged
        report := { p.report with applied := p.report.applied ++ [e.slot.name] } }
    else
      pure { p with
        report := { p.report with deferred := p.report.deferred ++ [⟨e.slot.name, o.text⟩] } }
  else
    pure { p with
      gated := p.gated ++ [e.slot.name]
      required := p.required.higher e.gate.minTier }

/-- Pushes effects in order. -/
def pushAll (d : Device δ) (k : Keeper) (declared : Settings) :
    List Effect → Progress → Action δ Progress
  | [], p => pure p
  | e :: es, p => do
    let p ← push d k declared p e
    pushAll d k declared es p

/-- Stores what the engine has acknowledged, unless nothing has changed. A failure to do so is no
failure of the save. -/
def record (d : Device δ) (k : Keeper) (before after : Settings) : Action δ Unit :=
  if after.same before then pure ()
  else do
    let _ ← writeDocument d k.appliedPath after
    pure ()

/-- What a save comes to after its effects were pushed. -/
def verdict (p : Progress) : Except KeepError SaveReport :=
  if p.gated.isEmpty then .ok p.report else .error (.gated p.gated p.required)

/-- Stores settings as the declared ones and applies them. -/
def save (d : Device δ) (k : Keeper) (declared : Settings) :
    Action δ (Except KeepError SaveReport) := do
  match ← writeDocument d k.path declared with
  | .error e => pure (.error e)
  | .ok () =>
    -- From here on nothing undoes the declaration.
    let before ← applied d k
    let start := settled before declared
    let p ← pushAll d k declared (effects start declared) { acknowledged := start }
    -- Compared with what is on disk, so that a change that needs no command is recorded too.
    record d k before p.acknowledged
    pure (verdict p)

end Keeper

end OverlayControl
