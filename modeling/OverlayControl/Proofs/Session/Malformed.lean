import OverlayControl.Proofs.Session.Operation
import OverlayControl.Proofs.Settings.Save

/-!
# Malformed paths on their way to the engine

A rule and a mirror path given to the store of the rules are checked before they are sent. A
declared mirror path is not: a save passes it on as it is. Over any run of a session, what the
service is sent with a path that may not be sent is exactly what the saves of such mirror paths
leak.

* `Event.malformed` — whether an event carries a path that may not be sent;
* `Keeper.log_pushAll`, `Keeper.log_save` — what pushing effects sends, and a save;
* `Keeper.leaked`, `Session.leaked` — the mirror paths that a save, and a run, send unchecked;
* `Session.leaked_eq_nil` — a run leaks nothing when the mirror paths that it declares may be sent;
* `Session.malformed_runAll` — nothing that is malformed is sent but what is leaked.
-/

namespace OverlayControl

/-- Whether an event carries a path that may not be sent. -/
def Event.malformed : Event → Bool
  | .issued c _ => c.paths.any fun p => !p.sendable
  | .hungUp => false

namespace Keeper

variable {δ : Type} (d : Device δ) (k : Keeper)

/-- One effect is sent exactly when the connection grants what it needs. -/
theorem log_push (declared : Settings) (p : Progress) (e : Effect) {w : World δ}
    (hlive : w.connection = k.engine) :
    ((push d k declared p e).run w).2.log =
        w.log ++
          (if k.engine.any fun c => c.allows e.gate then [.issued e.command k.engine] else []) ∧
      ((push d k declared p e).run w).2.connection = k.engine := by
  cases hallows : k.engine.any fun c => c.allows e.gate with
  | false =>
    rw [run_push_of_not_allows hallows]
    exact ⟨(List.append_nil _).symm, hlive⟩
  | true =>
    obtain ⟨c, hc, _⟩ := (Option.any_eq_true ..).1 hallows
    rw [run_push_of_allows hallows, run_execute_of_some _ _ (hlive.trans hc)]
    refine ⟨?_, hlive⟩
    rw [log_issue, hlive]
    rfl

/-- Effects are sent in order, those that the connection grants what they need. -/
theorem log_pushAll (declared : Settings) (es : List Effect) (p : Progress) {w : World δ}
    (hlive : w.connection = k.engine) :
    ((pushAll d k declared es p).run w).2.log =
      w.log ++ (es.filter fun e => k.engine.any fun c => c.allows e.gate).map
        fun e => .issued e.command k.engine := by
  induction es generalizing p w with
  | nil => exact (List.append_nil _).symm
  | cons e es ih =>
    obtain ⟨hlog, hlive'⟩ := log_push d k declared p e hlive
    rw [run_pushAll_cons, ih _ hlive', hlog, List.append_assoc, List.filter_cons]
    split <;> rfl

/-- A save whose document is put in place sends the pending effects that the connection grants. -/
theorem log_save {declared : Settings} {text : String} {w : World δ} {s : δ}
    (htext : declared.toToml = some text)
    (hwrite : d.replaceFile k.path (Utf8.encode text) w.device = (.ok (), s))
    (hlive : w.connection = k.engine) :
    ((save d k declared).run w).2.log =
      w.log ++ ((pending (d.toStorage.settings k.appliedPath s) declared).filter fun e =>
        k.engine.any fun c => c.allows e.gate).map fun e => .issued e.command k.engine := by
  -- Only the effects are sent; both documents are a matter of files.
  rw [run_save htext hwrite, (sends_record d _ _).log_eq]
  exact log_pushAll d k declared _ _ hlive

/-- The malformed mirror path among the pending effects, if the connection grants the engine: one
that is declared, may not be sent, and differs from what was acknowledged. -/
def leakedEffect (acknowledged declared : Settings) : List Event :=
  match declared.mirrorPath with
  | none => []
  | some p =>
    if !p.sendable && (k.engine.any fun c => c.allows .overlayEngine) &&
        !Path.sameOption acknowledged.mirrorPath (some p) then
      [.issued (.setMirrorPath p) k.engine]
    else []

/-- The malformed mirror path that a save sends, if its document can be written and is. -/
def leaked (declared : Settings) (w : World δ) : List Event :=
  match declared.toToml with
  | none => []
  | some text =>
    match d.replaceFile k.path (Utf8.encode text) w.device with
    | (.error _, _) => []
    | (.ok (), s) => k.leakedEffect (d.toStorage.settings k.appliedPath s) declared

/-- A save of a mirror path that may be sent, or of none, leaks nothing. -/
theorem leaked_eq_nil {declared : Settings}
    (h : ∀ p, declared.mirrorPath = some p → p.sendable = true) {w : World δ} :
    leaked d k declared w = [] := by
  have heffect (acknowledged : Settings) : k.leakedEffect acknowledged declared = [] := by
    unfold leakedEffect
    cases hdeclared : declared.mirrorPath with
    | none => rfl
    | some p => simp [h p hdeclared]
  unfold leaked
  split
  · rfl
  · split
    · rfl
    · exact heffect _

/-- The commands of toggles carry no path. -/
theorem paths_of_toggleEffect {old new : Settings} {e : Effect}
    (h : e ∈ Toggle.all.filterMap (toggleEffect? old new)) : e.command.paths = [] := by
  obtain ⟨t, _, hcommand, _⟩ := mem_toggleEffects_iff.1 h
  have hslot := Toggle.slot?_of_effect hcommand
  -- Only the command of the mirror path and that of a rule carry one.
  cases hc : e.command <;> rw [hc] at hslot <;> first | rfl | cases hslot

/-- Among the pending effects that the connection grants, only the mirror path can be malformed. -/
theorem malformed_pending (acknowledged declared : Settings) :
    (((pending acknowledged declared).filter fun e => k.engine.any fun c => c.allows e.gate).map
        fun e => Event.issued e.command k.engine).filter Event.malformed =
      k.leakedEffect acknowledged declared := by
  have htoggles (es : List Effect) (h : ∀ e ∈ es, e.command.paths = []) :
      ((es.filter fun e => k.engine.any fun c => c.allows e.gate).map
        fun e => Event.issued e.command k.engine).filter Event.malformed = [] := by
    rw [List.filter_eq_nil_iff]
    intro event hevent
    obtain ⟨e, he, rfl⟩ := List.mem_map.1 hevent
    rw [Event.malformed, h e (List.mem_filter.1 he).1]
    exact Bool.false_ne_true
  rw [pending, effects, List.filter_append, List.map_append, List.filter_append,
    htoggles _ fun e he => paths_of_toggleEffect he, List.nil_append, mirrorEffect?, leakedEffect]
  cases hdeclared : declared.mirrorPath with
  | none => rfl
  | some p =>
    -- A mirror path has a command, so what counts as acknowledged is what was acknowledged before.
    have hmirror : (settled acknowledged declared).mirrorPath = acknowledged.mirrorPath := by
      have hvalue := Slot.value_settled .mirrorPath acknowledged declared
      simp only [Slot.command?, hdeclared, Option.map_some, Option.isNone_some,
        Bool.and_false] at hvalue
      exact Sum.inr.inj hvalue
    simp only [hmirror]
    cases hsame : Path.sameOption acknowledged.mirrorPath (some p) <;>
      cases hallows : k.engine.any fun c => c.allows .overlayEngine <;>
      cases hsendable : p.sendable <;>
      simp [hallows, hsendable, Event.malformed, Command.paths]

/-- What a save sends that is malformed is the mirror path that it leaks. -/
theorem malformed_save (declared : Settings) {w : World δ} (hlive : w.connection = k.engine) :
    ∃ sent, ((save d k declared).run w).2.log = w.log ++ sent ∧
      sent.filter Event.malformed = leaked d k declared w := by
  unfold leaked
  cases htext : declared.toToml with
  | none =>
    rw [run_save_of_unwritable htext]
    exact ⟨[], (List.append_nil _).symm, rfl⟩
  | some text =>
    dsimp only
    rcases hwrite : d.replaceFile k.path (Utf8.encode text) w.device with ⟨fault | _, s⟩
    · rw [run_save_of_fault htext hwrite]
      exact ⟨[], (List.append_nil _).symm, rfl⟩
    · exact ⟨_, log_save d k htext hwrite hlive, k.malformed_pending _ declared⟩

end Keeper

namespace Session

variable {δ : Type}

/-- The malformed mirror path that an operation leaks: only a save does. -/
def Operation.leaked (s : Session δ) : Operation → World δ → List Event
  | .saveSettings declared, w =>
    (s.keeper.run w).1.leaked s.device declared (s.keeper.run w).2
  | _, _ => []

/-- The malformed mirror paths that a run leaks. -/
def leaked (s : Session δ) : List Operation → World δ → List Event
  | [], _ => []
  | op :: ops, w => op.leaked s w ++ s.leaked ops ((op.run s).run w).2

/-- Everything but a save sends only paths that may be sent. -/
theorem admits_wellFormed : Admits fun e => e.malformed = false where
  hungUp := rfl
  handshake c h := by
    cases c <;> first | rfl | cases h
  listModules _ := rfl
  engine _ _ command _ hpaths := by
    rw [Event.malformed, List.any_eq_false]
    intro p hp
    rw [hpaths p hp]
    decide

/-- What an operation sends that is malformed is what it leaks. -/
theorem Operation.malformed_run (s : Session δ) (op : Operation) (w : World δ) :
    ∃ sent, ((op.run s).run w).2.log = w.log ++ sent ∧
      sent.filter Event.malformed = op.leaked s w := by
  by_cases hsave : ∃ declared, op = .saveSettings declared
  · obtain ⟨declared, rfl⟩ := hsave
    -- The handshake for the keeper carries no path, and leaves live what the keeper works with.
    have hkeeper : Sends (fun e => e.malformed = false) w.connection s.keeper
        (fun k l => k.engine = l) := s.sends_keeper fun _ => admits_wellFormed.handshake
    obtain ⟨⟨shaken, hshaken, hwell⟩, hlive⟩ := hkeeper w rfl
    obtain ⟨sent, hsent, hmalformed⟩ :=
      (s.keeper.run w).1.malformed_save s.device declared hlive.symm
    refine ⟨shaken ++ sent, ?_, ?_⟩
    · rw [← List.append_assoc, ← hshaken]
      exact hsent
    · rw [List.filter_append, hmalformed, List.filter_eq_nil_iff.2, List.nil_append]
      · rfl
      · intro e he
        rw [hwell e he]
        exact Bool.false_ne_true
  · have hnone : op.leaked s w = [] := by
      cases op with
      | saveSettings declared => exact absurd ⟨declared, rfl⟩ hsave
      | _ => rfl
    have hsends : Sends (fun e => e.malformed = false) w.connection (op.run s) (fun _ _ => True) :=
      op.sends_of_admits s admits_wellFormed fun declared heq => absurd ⟨declared, heq⟩ hsave
    obtain ⟨⟨sent, hsent, hwell⟩, _⟩ := hsends w rfl
    refine ⟨sent, hsent, ?_⟩
    rw [hnone, List.filter_eq_nil_iff]
    intro e he
    rw [hwell e he]
    exact Bool.false_ne_true

/-- A run leaks nothing when the mirror paths that it declares may be sent. -/
theorem leaked_eq_nil (s : Session δ) {ops : List Operation}
    (h : ∀ declared p, .saveSettings declared ∈ ops → declared.mirrorPath = some p →
      p.sendable = true) (w : World δ) : s.leaked ops w = [] := by
  induction ops generalizing w with
  | nil => rfl
  | cons op ops ih =>
    rw [leaked, ih fun declared p hmem => h declared p (List.mem_cons_of_mem _ hmem),
      List.append_nil]
    cases op with
    | saveSettings declared =>
      exact Keeper.leaked_eq_nil _ _ fun p => h declared p List.mem_cons_self
    | _ => rfl

/-- What a run sends that carries a path that may not be sent is exactly what its saves leak: every
rule and every mirror path given to the store of the rules is checked first. -/
theorem malformed_runAll (s : Session δ) (ops : List Operation) (w : World δ) :
    ∃ sent, ((s.runAll ops).run w).2.log = w.log ++ sent ∧
      sent.filter Event.malformed = s.leaked ops w := by
  induction ops generalizing w with
  | nil => exact ⟨[], (List.append_nil _).symm, rfl⟩
  | cons op ops ih =>
    obtain ⟨first, hfirst, hmalformed⟩ := op.malformed_run s w
    obtain ⟨rest, hrest, hmalformed'⟩ := ih ((op.run s).run w).2
    refine ⟨first ++ rest, ?_, ?_⟩
    · rw [← List.append_assoc, ← hfirst]
      exact hrest
    · rw [List.filter_append, hmalformed, hmalformed', leaked]

end Session

end OverlayControl
