import OverlayControl.Module.Strategy
import OverlayControl.Settings.Keeper

/-!
# Declared and active strategies

A declared strategy takes effect when the module is mounted again, so that a module has two: the one
declared and the one in force. A view shows both, and whether a restart is needed to bring them
together.

* `BindingStore.pending`, `BindingStore.active` — the declared strategies and those in force;
* `BindingStore.set` — declares a strategy;
* `BindingStore.views` — a view of each module that has either.
-/

namespace OverlayControl

/-- A module with its declared strategy and the one in force. -/
structure BindingView where
  /-- The module. -/
  moduleId : String
  /-- The declared strategy. -/
  pending : Option Strategy
  /-- The strategy in force. -/
  active : Option Strategy
  deriving DecidableEq

namespace BindingView

/-- Whether the declared strategy needs a restart to come into force. A choice left to the engine
needs none, nor does leaving a module unmounted that is not mounted. -/
def needsRestart (v : BindingView) : Bool :=
  match v.pending, v.active with
  | none, _ => false
  | some .auto, _ => false
  | some p, some a => p != a
  | some .none, none => false
  | some _, none => true

/-- A view as data. -/
def toData (v : BindingView) : Data :=
  let strategy (s : Option Strategy) := (s.map fun m => Data.text m.name).getD .null
  .table [("module_id", .text v.moduleId), ("pending", strategy v.pending),
    ("active", strategy v.active), ("needs_restart", .bool v.needsRestart)]

end BindingView

/-- Whether a text is the name of a module: letters, digits, underscores, dashes and dots. -/
def isModuleId (s : String) : Bool :=
  !s.isEmpty && s.toList.all fun c => c.isAlphanum || c == '_' || c == '-' || c == '.'

/-- The store of the declared strategies. -/
structure BindingStore where
  /-- The document. -/
  path : Path
  /-- The connection over which strategies in force are listed, if there is one. -/
  engine : Option Connection

namespace BindingStore

variable {δ : Type}

/-- The strategies that may be declared. -/
def allowed (b : BindingStore) : List Strategy := Strategy.allowed b.engine

/-- The declared strategies; none when the document is absent or malformed. -/
def pending (d : Device δ) (b : BindingStore) : Action δ Strategies := do
  match ← readText d b.path with
  | .ok text => pure ((Strategies.ofToml text).getD {})
  | .error _ => pure {}

/-- The strategies in force, if the engine tells. -/
def active (d : Device δ) (b : BindingStore) : Action δ (Option Strategies) :=
  match b.engine with
  | none => pure none
  | some _ => do
    let o ← execute d .listModules
    pure (if o.success then some (.ofListing o.text) else none)

/-- Stores the declared strategies. -/
def write (d : Device δ) (b : BindingStore) (m : Strategies) : Action δ (Except KeepError Unit) := do
  match ← replaceFile d b.path (Utf8.encode m.toToml) with
  | .ok () => pure (.ok ())
  | .error e => pure (.error (.persistFailed s!"{b.path.display}: {e.message}"))

/-- Declares a strategy for a module. -/
def set (d : Device δ) (b : BindingStore) (id : String) (s : Strategy) :
    Action δ (Except KeepError BindingView) :=
  if !isModuleId id then pure (.error (.invalidValue s!"module id '{id}' is not valid"))
  else if !b.allowed.contains s then
    pure (.error (.gated [s!"{id}={s.name}"] Capability.overlayEngine.minTier))
  else do
    let declared ← pending d b
    match ← write d b (declared.insert id s) with
    | .error e => pure (.error e)
    | .ok () =>
      -- What is in force is only asked for to show it: the declaration stands without it.
      let inForce ← active d b
      pure (.ok ⟨id, some s, inForce.bind fun m => m.get? id⟩)

/-- The modules of either assignment, in order, each once. -/
def allIds (p a : Strategies) : List String :=
  ((a.entries.foldl (fun m (id, s) => m.insert id s) p)).ids

/-- A view of each module that is declared or in force. -/
def views (d : Device δ) (b : BindingStore) : Action δ (List BindingView) := do
  let p ← pending d b
  let a := (← active d b).getD {}
  pure ((allIds p a).map fun id => ⟨id, p.get? id, a.get? id⟩)

end BindingStore

end OverlayControl
