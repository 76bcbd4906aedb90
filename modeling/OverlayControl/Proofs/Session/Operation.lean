import OverlayControl.Proofs.Session.Sends

/-!
# Runs of a session

A run of a session is a list of operations, each on a store that is made for it then. What an
operation sends over which connection is looked at once, for any predicate on events that admits
handshakes, the listing of the modules, and the commands of the overlay engine with paths that may
be sent, these over a connection that grants the engine. A save is left to the caller.

* `Path.sendable`, `Command.paths` — which paths may be sent, and which a command carries;
* `Session.Operation`, `Session.Operation.run`, `Session.runAll` — the operations of a session;
* `Session.Admits` — what is asked of a predicate on events;
* `Session.Operation.sends_of_admits` — an operation sends only what is admitted.
-/

namespace OverlayControl

/-- Whether a path may be sent to the engine. -/
def Path.sendable (p : Path) : Bool := !p.isEmpty && p.isAbsolute && !p.bytes.contains 0

theorem checkPath_eq_ok_iff_sendable {field : String} {p : Path} :
    checkPath field p = .ok () ↔ p.sendable = true := by
  rw [checkPath_eq_ok_iff, Path.sendable, Bool.and_eq_true, Bool.and_eq_true,
    Bool.not_eq_eq_eq_not, Bool.not_eq_eq_eq_not, Bool.not_true, and_assoc]

/-- The paths that a command carries. -/
def Command.paths : Command → List Path
  | .addRule _ source target _ => source :: target.toList
  | .setMirrorPath p => [p]
  | _ => []

/-- A rule that has the shape of its kind carries only paths that may be sent. -/
theorem Rule.sendable_of_validate {r : Rule} (h : r.validate = .ok ()) :
    ∀ p ∈ (Command.ofRule r).paths, p.sendable = true := by
  unfold Rule.validate at h
  cases hsource : checkPath "source" r.source with
  | error e =>
    rw [hsource] at h
    cases h
  | ok _ =>
    rw [hsource] at h
    have hsendable := checkPath_eq_ok_iff_sendable.1 hsource
    intro p hp
    rw [Command.ofRule, Command.paths] at hp
    cases htarget : r.target with
    | none =>
      rw [htarget] at hp
      rw [List.mem_singleton.1 hp]
      exact hsendable
    | some t =>
      rw [htarget] at h hp
      dsimp only at h
      split at h
      · cases h
      · rcases List.mem_cons.1 hp with rfl | hp
        · exact hsendable
        · rw [List.mem_singleton.1 hp]
          exact checkPath_eq_ok_iff_sendable.1 h

namespace Session

variable {δ : Type}

/-- The operations of a session. -/
inductive Operation
  /-- Connects if there is no live connection. -/
  | connect
  /-- Ends the live connection and connects again. -/
  | reconnect
  /-- Ends the live connection. -/
  | close
  /-- Gathers what a status screen shows. -/
  | status
  /-- Lists the rules. -/
  | listRules
  /-- Adds a rule. -/
  | addRule (r : Rule)
  /-- Deletes a rule. -/
  | deleteRule (i : RuleId)
  /-- Deletes all rules. -/
  | clearRules
  /-- Turns stealth on or off. -/
  | setStealth (on : Bool)
  /-- Turns kernel debugging on or off. -/
  | setDebug (on : Bool)
  /-- Points the engine at another mirror directory. -/
  | setMirrorPath (p : Path)
  /-- Renumbers the mounts. -/
  | fixMounts
  /-- Looks at the mount table. -/
  | checkMounts
  /-- Looks at the mount table and repairs it. -/
  | reconcileMounts
  /-- Reads the declared settings. -/
  | loadSettings
  /-- Reads the acknowledged settings. -/
  | appliedSettings
  /-- Saves settings. -/
  | saveSettings (s : Settings)
  /-- Tells which strategies may be declared. -/
  | allowedStrategies
  /-- Reads the declared strategies. -/
  | pendingStrategies
  /-- Lists the strategies in force. -/
  | activeStrategies
  /-- Views the strategies of all modules. -/
  | viewStrategies
  /-- Declares a strategy. -/
  | setStrategy (id : String) (s : Strategy)

/-- Runs an operation on a store of the rules made for it, if one can be made. -/
def onRules {α : Type} (s : Session δ) (f : RuleStore → Action δ α) : Action δ Unit := do
  match ← s.rules with
  | .ok store => discard (f store)
  | .error _ => pure ()

/-- Runs an operation on the checks of mounts made for it, if they can be made. -/
def onMounts {α : Type} (s : Session δ) (f : MountReconciler → Action δ α) : Action δ Unit := do
  match ← s.mounts with
  | .ok m => discard (f m)
  | .error _ => pure ()

/-- Runs an operation on a keeper of the settings made for it. -/
def onKeeper {α : Type} (s : Session δ) (f : Keeper → Action δ α) : Action δ Unit := do
  discard (f (← s.keeper))

/-- Runs an operation on a store of the strategies made for it. -/
def onBindings {α : Type} (s : Session δ) (f : BindingStore → Action δ α) : Action δ Unit := do
  discard (f (← s.bindings))

/-- Runs an operation to its end; what it results in is left out. -/
def Operation.run (s : Session δ) : Operation → Action δ Unit
  | .connect => discard s.connect
  | .reconnect => discard s.reconnect
  | .close => s.close
  | .status => discard s.status
  | .listRules => s.onRules (RuleStore.list s.device)
  | .addRule r => s.onRules fun store => store.add s.device r
  | .deleteRule i => s.onRules fun store => store.delete s.device i
  | .clearRules => s.onRules (RuleStore.clear s.device)
  | .setStealth on => s.onRules fun store => store.setStealth s.device on
  | .setDebug on => s.onRules fun store => store.setDebug s.device on
  | .setMirrorPath p => s.onRules fun store => store.setMirrorPath s.device p
  | .fixMounts => s.onMounts (MountReconciler.fix s.device)
  | .checkMounts => s.onMounts (MountReconciler.check s.device)
  | .reconcileMounts => s.onMounts (MountReconciler.reconcile s.device)
  | .loadSettings => s.onKeeper (Keeper.load s.device)
  | .appliedSettings => s.onKeeper (Keeper.applied s.device)
  | .saveSettings declared => s.onKeeper fun k => k.save s.device declared
  | .allowedStrategies => s.onBindings fun b => pure b.allowed
  | .pendingStrategies => s.onBindings (BindingStore.pending s.device)
  | .activeStrategies => s.onBindings (BindingStore.active s.device)
  | .viewStrategies => s.onBindings (BindingStore.views s.device)
  | .setStrategy id m => s.onBindings fun b => b.set s.device id m

/-- Runs operations one after the other. -/
def runAll (s : Session δ) : List Operation → Action δ Unit
  | [] => pure ()
  | op :: ops => do
    op.run s
    s.runAll ops

/-- Whether a predicate on events admits everything that operations send, apart from saves. -/
structure Admits (ok : Event → Prop) : Prop where
  /-- The end of the connection. -/
  hungUp : ok .hungUp
  /-- The commands of a handshake, while nothing is live. -/
  handshake : ∀ c, handshake c = true → ok (.issued c none)
  /-- The listing of the modules, over any connection. -/
  listModules : ∀ c : Connection, ok (.issued .listModules (some c))
  /-- Every other command whose paths may be sent, over a connection that grants the engine. -/
  engine : ∀ c : Connection, c.allows .overlayEngine = true → ∀ command : Command,
    command ≠ .listModules → (∀ p ∈ command.paths, p.sendable = true) →
      ok (.issued command (some c))

section Sending

variable {ok : Event → Prop} {l : Option Connection}

theorem sends_discard {α : Type} {x : Action δ α} {after : α → Option Connection → Prop}
    (h : Sends ok l x after) : Sends ok l (discard x) (fun _ _ => True) :=
  h.bind fun _ _ _ => .pure trivial

/-- An operation on a store of the rules sends what it sends over the connection that the store was
made for, after a handshake. -/
theorem sends_onRules {α : Type} (s : Session δ) (hok : Admits ok) {f : RuleStore → Action δ α}
    (h : ∀ store : RuleStore, Sends ok (some store.connection) (f store)
      (Stays (some store.connection))) :
    Sends ok l (s.onRules f) (fun _ _ => True) := by
  refine (s.sends_rules fun _ => hok.handshake).bind fun r k hk => ?_
  cases r with
  | error e => exact .pure trivial
  | ok store =>
    -- The store was made for the connection that is live now.
    rw [hk store rfl]
    exact sends_discard (h store)

theorem sends_onMounts {α : Type} (s : Session δ) (hok : Admits ok)
    {f : MountReconciler → Action δ α}
    (h : ∀ m : MountReconciler, Sends ok (some m.connection) (f m) (Stays (some m.connection))) :
    Sends ok l (s.onMounts f) (fun _ _ => True) := by
  refine (s.sends_mounts fun _ => hok.handshake).bind fun r k hk => ?_
  cases r with
  | error e => exact .pure trivial
  | ok m =>
    rw [hk m rfl]
    exact sends_discard (h m)

theorem sends_onKeeper {α : Type} (s : Session δ) (hok : Admits ok) {f : Keeper → Action δ α}
    (h : ∀ k : Keeper, Sends ok k.engine (f k) (Stays k.engine)) :
    Sends ok l (s.onKeeper f) (fun _ _ => True) := by
  refine (s.sends_keeper fun _ => hok.handshake).bind fun k live hlive => ?_
  rw [← hlive]
  exact sends_discard (h k)

theorem sends_onBindings {α : Type} (s : Session δ) (hok : Admits ok)
    {f : BindingStore → Action δ α}
    (h : ∀ b : BindingStore, Sends ok b.engine (f b) (Stays b.engine)) :
    Sends ok l (s.onBindings f) (fun _ _ => True) := by
  refine (s.sends_bindings fun _ => hok.handshake).bind fun b live hlive => ?_
  rw [← hlive]
  exact sends_discard (h b)

/-- One operation sends only what is admitted, whatever is live before it, if a save does. -/
theorem Operation.sends_of_admits (s : Session δ) (op : Operation) (hok : Admits ok)
    (hsave : ∀ declared, op = .saveSettings declared → ∀ k : Keeper,
      Sends ok k.engine (k.save s.device declared) (Stays k.engine)) :
    Sends ok l (op.run s) (fun _ _ => True) := by
  -- A plain command of a store of the rules, which asks for the engine first.
  have hrun (command : Command) (hcommand : command ≠ .listModules) (hpaths : command.paths = [])
      (store : RuleStore) : Sends ok (some store.connection) (store.run s.device command)
        (Stays (some store.connection)) :=
    RuleStore.sends_run s.device fun hallows _ =>
      hok.engine _ hallows _ hcommand (hpaths ▸ fun _ => (nomatch ·))
  have hlist (store : RuleStore) (hallows : store.connection.allows .overlayEngine = true)
      (_ : (some store.connection).isSome = true) :
      ok (.issued .listRules (some store.connection)) :=
    hok.engine _ hallows _ Command.noConfusion fun _ => (nomatch ·)
  have hfix (m : MountReconciler) (hallows : m.connection.allows .overlayEngine = true)
      (_ : (some m.connection).isSome = true) : ok (.issued .fixMounts (some m.connection)) :=
    hok.engine _ hallows _ Command.noConfusion fun _ => (nomatch ·)
  -- A store of the strategies has a connection only if one was live when it was made.
  have hmodules (b : BindingStore) (_ : b.engine.isSome = true) (hlive : b.engine.isSome = true) :
      ok (.issued .listModules b.engine) := by
    obtain ⟨c, hc⟩ := Option.isSome_iff_exists.1 hlive
    rw [hc]
    exact hok.listModules c
  cases op with
  | connect => exact sends_discard (sends_connect s.device (fun _ => hok.handshake) s.tolerant)
  | reconnect => exact sends_discard (sends_reconnect s.device hok.hungUp hok.handshake s.tolerant)
  | close => exact (sends_disconnect s.device hok.hungUp).weaken fun _ _ _ => trivial
  | status =>
    exact sends_discard (s.sends_status hok.handshake hok.listModules
      fun c hallows => hlist ⟨c⟩ hallows rfl)
  | listRules =>
    exact s.sends_onRules hok fun store => RuleStore.sends_list s.device (hlist store)
  | addRule r =>
    exact s.sends_onRules hok fun store => RuleStore.sends_add s.device (hlist store)
      fun hvalid hallows _ => hok.engine _ hallows _ Command.noConfusion
        (Rule.sendable_of_validate hvalid)
  | deleteRule i => exact s.sends_onRules hok (hrun _ Command.noConfusion rfl)
  | clearRules => exact s.sends_onRules hok (hrun _ Command.noConfusion rfl)
  | setStealth on => exact s.sends_onRules hok (hrun _ Command.noConfusion rfl)
  | setDebug on => exact s.sends_onRules hok (hrun _ Command.noConfusion rfl)
  | setMirrorPath p =>
    refine s.sends_onRules hok fun store => RuleStore.sends_setMirrorPath s.device
      fun hcheck hallows _ => hok.engine _ hallows _ Command.noConfusion fun q hq => ?_
    rw [List.mem_singleton.1 hq]
    exact checkPath_eq_ok_iff_sendable.1 hcheck
  | fixMounts => exact s.sends_onMounts hok fun m => MountReconciler.sends_fix s.device (hfix m)
  | checkMounts => exact s.sends_onMounts hok fun m => MountReconciler.sends_check s.device
  | reconcileMounts =>
    exact s.sends_onMounts hok fun m =>
      MountReconciler.sends_reconcile s.device (hlist m.rules) (hfix m)
  | loadSettings => exact s.sends_onKeeper hok fun k => Keeper.sends_readDocument s.device _
  | appliedSettings => exact s.sends_onKeeper hok fun k => Keeper.sends_readDocument s.device _
  | saveSettings declared => exact s.sends_onKeeper hok (hsave declared rfl)
  | allowedStrategies => exact s.sends_onBindings hok fun b => .pure rfl
  | pendingStrategies =>
    exact s.sends_onBindings hok fun b => BindingStore.sends_pending s.device
  | activeStrategies =>
    exact s.sends_onBindings hok fun b => BindingStore.sends_active s.device (hmodules b)
  | viewStrategies =>
    exact s.sends_onBindings hok fun b => BindingStore.sends_views s.device (hmodules b)
  | setStrategy id m =>
    exact s.sends_onBindings hok fun b => BindingStore.sends_set s.device (hmodules b) id m

end Sending

end Session

end OverlayControl
