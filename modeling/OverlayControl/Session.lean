import OverlayControl.ClientConfig
import OverlayControl.Module.Bindings
import OverlayControl.Mount.Reconciler

/-!
# Sessions

A session ties a device to the client's configuration and hands out the stores, each made for the
connection that is live then. The stores of settings and strategies work without a connection as
well; those of rules and mounts do not.

* `Session.rules`, `mounts`, `keeper`, `bindings` — the stores;
* `ConnectError.message?` — why an attempt came to no connection;
* `Session.status` — everything that a status screen shows;
* `Session.close` — ends the connection.
-/

namespace OverlayControl

/-- A session over a device with states `δ`. -/
structure Session (δ : Type) where
  /-- The device. -/
  device : Device δ
  /-- The files of the device. -/
  paths : PathsConfig
  /-- Whether a service that is too old is accepted. -/
  tolerant : Bool

/-- Everything that a status screen shows. -/
structure StatusReport where
  /-- How the service is reached. -/
  transport : Transport
  /-- The connection, if there is one. -/
  connection : Option Connection
  /-- Why there is none, if there is none. -/
  connectError : Option String
  /-- Whether the overlay engine can be reached. -/
  kernelMode : Bool
  /-- How many rules there are, if the engine could be asked. -/
  rules : Option RuleCounts
  /-- The declared value of stealth. -/
  stealth : Bool
  /-- The modules whose declared strategy needs a restart. -/
  pendingRestart : List String

namespace StatusReport

/-- A report as data, with the time at which it was made. -/
def toData (now : List (String × Data)) (r : StatusReport) : Data :=
  .table (now ++ [("transport", .text r.transport.name),
    ("connection", (r.connection.map Connection.toData).getD .null),
    ("connect_error", (r.connectError.map .text).getD .null), ("kernel_mode", .bool r.kernelMode),
    ("rules", (r.rules.map RuleCounts.toData).getD .null), ("stealth", .bool r.stealth),
    ("pending_restart", .list (r.pendingRestart.map .text))])

end StatusReport

/-- Why an attempt came to no connection, if it did not. -/
def ConnectError.message? : Except ConnectError Connection → Option String
  | .ok _ => none
  | .error e => some e.message

theorem ConnectError.message?_eq_some_iff {attempt : Except ConnectError Connection}
    {why : String} : message? attempt = some why ↔ ∃ e, attempt = .error e ∧ why = e.message := by
  cases attempt <;> simp [message?, eq_comm]

namespace Session

variable {δ : Type}

/-- A session that accepts a service that is too old exactly when the declared settings say so. -/
def opening (d : Device δ) (paths : PathsConfig) : Action δ (Session δ) := do
  let declared ← Keeper.load d ⟨paths.engineConfig, none⟩
  pure ⟨d, paths, declared.ignoreProtocolMismatch⟩

/-- The live connection, negotiated if there is none. -/
def connect (s : Session δ) : Action δ (Except ConnectError Connection) :=
  OverlayControl.connect s.device s.tolerant

/-- Ends the live connection and negotiates another one. -/
def reconnect (s : Session δ) : Action δ (Except ConnectError Connection) :=
  OverlayControl.reconnect s.device s.tolerant

/-- Ends the live connection. -/
def close (s : Session δ) : Action δ Unit := disconnect s.device

/-- The store of the rules. -/
def rules (s : Session δ) : Action δ (Except ConnectError RuleStore) := do
  pure ((← s.connect).map RuleStore.mk)

/-- The checks and repairs of mounts. -/
def mounts (s : Session δ) : Action δ (Except ConnectError MountReconciler) := do
  pure ((← s.connect).map fun c => ⟨c, s.paths.mountinfo⟩)

/-- The keeper of the settings. -/
def keeper (s : Session δ) : Action δ Keeper := do
  pure ⟨s.paths.engineConfig, (← s.connect).toOption⟩

/-- The store of the strategies. -/
def bindings (s : Session δ) : Action δ BindingStore := do
  pure ⟨s.paths.moduleModes, (← s.connect).toOption⟩

/-- How many rules there are, if the engine can be reached over a connection and lists them. -/
def ruleCounts (s : Session δ) : (connection : Option Connection) → (kernelMode : Bool) →
    Action δ (Option RuleCounts)
  | some c, true => do
    let t ← RuleStore.list s.device ⟨c⟩
    pure (if t.isAuthoritative then some t.counts else none)
  | _, _ => pure none

/-- Everything that a status screen shows. -/
def status (s : Session δ) : Action δ StatusReport := do
  let declared ← Keeper.load s.device ⟨s.paths.engineConfig, none⟩
  let store ← s.bindings
  let views ← store.views s.device
  let pendingRestart := (views.filter BindingView.needsRestart).map BindingView.moduleId
  -- The connection for the strategies may have failed; this attempt is the one that is reported.
  let attempt ← s.connect
  let connection := attempt.toOption
  let connectError := ConnectError.message? attempt
  let kernelMode := connection.any fun c => c.allows .overlayEngine
  let rules ← s.ruleCounts connection kernelMode
  pure { transport := s.device.transport, connection, connectError, kernelMode, rules,
         stealth := declared.enableStealth, pendingRestart }

end Session

end OverlayControl
