import OverlayControl.Proofs.Privilege
import OverlayControl.Proofs.Session.Operation

/-!
# The tier gate

Over any run of a session the service is sent the commands of the overlay engine only while the live
connection is one of the kernel tier, and the listing of the modules only while there is a live
connection at all. Nothing is assumed of the service.

* `Event.gated` — the gate, event by event;
* `Session.admits_gated` — it admits what operations send;
* `Session.Operation.sends` — one operation passes the gate;
* `Session.gated_run` — so does every run.
-/

namespace OverlayControl

/-- Whether a command concerns the overlay engine. -/
def Command.concernsEngine : Command → Bool
  | .addRule .. | .deleteRule _ | .clearRules | .listRules | .setStealth _ | .setDebug _
  | .setAvcSpoof _ | .setMirrorPath _ | .fixMounts | .nukeExt4Sysfs => true
  | .probeTier _ | .serviceVersion | .engineVersion | .selinuxContext _ | .listModules => false

/-- Whether an event passes the gate: a command of the overlay engine needs a live connection of the
kernel tier, and the listing of the modules a live connection. -/
def Event.gated : Event → Prop
  | .issued c l =>
    (c.concernsEngine = true → ∃ k, l = some k ∧ k.tier = .kernel) ∧
      (c = .listModules → l.isSome = true)
  | .hungUp => True

namespace Session

variable {δ : Type}

section Gate

variable {l : Option Connection}

theorem gated_of_handshake {c : Command} (h : handshake c = true) : (Event.issued c l).gated := by
  have hengine : c.concernsEngine = false := by
    cases c <;> first | rfl | cases h
  have hmodules : c ≠ .listModules := by
    rintro rfl
    cases h
  exact ⟨fun htrue => absurd (hengine.symm.trans htrue) Bool.false_ne_true,
    fun heq => absurd heq hmodules⟩

theorem gated_listModules (c : Connection) : (Event.issued .listModules (some c)).gated :=
  ⟨(nomatch ·), fun _ => rfl⟩

/-- A command of the overlay engine passes over a connection that grants one of its capabilities. -/
theorem gated_of_allows {c : Connection} {needed : Capability} {command : Command}
    (hneeded : needed ∈ Capability.ofEngine) (hallows : c.allows needed = true)
    (hcommand : command ≠ .listModules) : (Event.issued command (some c)).gated :=
  ⟨fun _ => ⟨c, rfl, (Connection.allows_iff_kernel hneeded c).1 hallows⟩,
    fun heq => absurd heq hcommand⟩

/-- The gate admits what operations send. -/
theorem admits_gated : Admits Event.gated where
  hungUp := trivial
  handshake _ := gated_of_handshake
  listModules := gated_listModules
  engine _ hallows _ hcommand _ := gated_of_allows (by decide) hallows hcommand

/-- A save passes the gate over the connection of its keeper. -/
theorem sends_gated_save (d : Device δ) (k : Keeper) (declared : Settings) :
    Sends Event.gated k.engine (k.save d declared) (Stays k.engine) := by
  refine Keeper.sends_save d fun slot c gate hcommand hgate hallows _ => ?_
  -- Offline, no effect has what it needs.
  cases hengine : k.engine with
  | none =>
    rw [hengine] at hallows
    cases hallows
  | some connection =>
    rw [hengine, Option.any_some] at hallows
    refine gated_of_allows (Slot.gate_mem_ofEngine hgate) hallows ?_
    -- The listing of the modules changes no slot.
    rintro rfl
    cases Slot.slot?_of_command? hcommand

end Gate

/-- One operation passes the gate, whatever is live before it. -/
theorem Operation.sends (s : Session δ) (op : Operation) (l : Option Connection) :
    Sends Event.gated l (op.run s) (fun _ _ => True) :=
  op.sends_of_admits s admits_gated fun declared _ k => sends_gated_save s.device k declared

/-- Every run of a session passes the gate: whatever it sends of the overlay engine's commands is
sent while the live connection is of the kernel tier, and the modules are listed only while there is
one. -/
theorem gated_run (s : Session δ) (ops : List Operation) (w : World δ) :
    ∃ sent, ((s.runAll ops).run w).2.log = w.log ++ sent ∧ ∀ e ∈ sent, e.gated := by
  -- By induction on the operations, from whatever is live; an operation may leave any connection to
  -- the next one.
  have hsends : ∀ (ops : List Operation) (l : Option Connection),
      Sends Event.gated l (s.runAll ops) (fun _ _ => True) := by
    intro ops
    induction ops with
    | nil => exact fun l => .pure trivial
    | cons op ops ih => exact fun l => (op.sends s l).bind fun _ k _ => ih k
  exact (hsends ops w.connection w rfl).1

end Session

end OverlayControl
