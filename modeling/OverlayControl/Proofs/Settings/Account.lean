import Mathlib.Data.List.Basic
import OverlayControl.Proofs.Session.Sends
import OverlayControl.Proofs.Settings.EngineSetting
import OverlayControl.Proofs.Settings.Save
import OverlayControl.Proofs.Transcript
import OverlayControl.Simulation.Engine

/-!
# What a save accounts for

A save owes the engine one command for each setting that the engine knows of, whose declared value
differs from the acknowledged one and has a command. Over a connection of the kernel tier it gives
them all, one after the other, whatever becomes of each, and its report names every one of them
once. Over any other connection, or none, it gives none of them and says that all are gated.

* `map_slot_pending`, `map_name_pending`, `map_command_pending` — the pending effects are those of
  the settings that are due (`EngineSetting.due`), in order;
* `Carried`, `Executed` — commands carried out one after the other, with their outcomes;
* `SaveReport.Accounts` — a report in which every setting that was tried is named once;
* `Keeper.executed_pushAll`, `Keeper.run_pushAll_of_gated` — pushing effects that the connection
  grants all of, and none of;
* `Keeper.save_accounts_for_due` — what a save does and says.
-/

namespace OverlayControl

variable {δ : Type}

/-! ## The settings that are due -/

/-- A toggle has a pending effect exactly when it is due. -/
theorem slot_toggleEffect? (a d : Settings) (t : Toggle) :
    (toggleEffect? (settled a d) d t).map Effect.slot =
      if (!(Slot.toggle t).same a d && ((Slot.toggle t).command? d).isSome) && t.gate.isSome then
        some (.toggle t)
      else none := by
  unfold toggleEffect?
  cases hcommand : t.effect (t.get d) with
  | none =>
    have hnone : (Slot.toggle t).command? d = none := hcommand
    simp [hnone]
  | some c =>
    have hsome : (Slot.toggle t).command? d = some c := hcommand
    obtain ⟨gate, hgate⟩ : ∃ gate, t.gate = some gate :=
      Option.isSome_iff_exists.1 (Slot.command?_isSome_tracked (Option.isSome_of_eq_some hsome))
    -- A slot with a command is not settled beforehand.
    have hvalue : t.get (settled a d) = t.get a := by
      have h := Slot.value_settled (.toggle t) a d
      rw [hsome, Option.isNone_some, Bool.and_false] at h
      exact Sum.inl.inj h
    by_cases hsame : t.get a = t.get d
    · simp [hvalue, hsame, Slot.same]
    · simp [hvalue, hsame, hsome, hgate, Slot.same]

theorem slot_mirrorEffect? (a d : Settings) :
    (mirrorEffect? (settled a d) d).map Effect.slot =
      if !Slot.mirrorPath.same a d && (Slot.mirrorPath.command? d).isSome then some .mirrorPath
      else none := by
  unfold mirrorEffect?
  cases hd : d.mirrorPath with
  | none => simp [Slot.command?, hd]
  | some p =>
    have hvalue : (settled a d).mirrorPath = a.mirrorPath := by
      have h := Slot.value_settled .mirrorPath a d
      rw [Slot.command?, hd, Option.map_some, Option.isNone_some, Bool.and_false] at h
      exact Sum.inr.inj h
    by_cases hsame : Path.sameOption a.mirrorPath (some p) = true
    · simp [hvalue, hd, hsame, Slot.same]
    · simp [hvalue, hd, hsame, Slot.same, Slot.command?]

/-- The slots of the settings that are due are among those of all toggles that the engine knows of,
in the order of the document, and of the mirror path after them. -/
theorem EngineSetting.map_slot_due (a d : Settings) :
    (due a d).map slot =
      ((Toggle.all.filter fun t => t.gate.isSome).map Slot.toggle ++ [Slot.mirrorPath]).filter
        fun slot => !slot.same a d && (slot.command? d).isSome := by
  have hall : (Toggle.all.filter fun t => t.gate.isSome).map Slot.toggle ++ [Slot.mirrorPath] =
      all.map slot := rfl
  have hdue (g : EngineSetting) : (!g.slot.same a d && (g.slot.command? d).isSome) =
      decide (¬g.Agree a d ∧ g.command? d ≠ none) := by
    rw [Bool.eq_iff_iff, command?_slot]
    simp [same_slot_eq_false_iff, Option.isSome_iff_ne_none]
  rw [hall, List.filter_map, due]
  exact congrArg (List.map slot) (List.filter_congr fun g _ => (hdue g).symm)

/-- The slots of the pending effects are those of the settings that are due, in order. -/
theorem map_slot_pending (a d : Settings) :
    (pending a d).map Effect.slot = (EngineSetting.due a d).map EngineSetting.slot := by
  have htoggles : (Toggle.all.filterMap (toggleEffect? (settled a d) d)).map Effect.slot =
      ((Toggle.all.filter fun t => t.gate.isSome).map Slot.toggle).filter
        fun slot => !slot.same a d && (slot.command? d).isSome := by
    rw [List.map_filterMap, funext (slot_toggleEffect? a d), List.filter_map, List.filter_filter,
      ← List.filterMap_eq_map, List.filterMap_filter]
    rfl
  have hmirror : (mirrorEffect? (settled a d) d).toList.map Effect.slot =
      [Slot.mirrorPath].filter fun slot => !slot.same a d && (slot.command? d).isSome := by
    rw [← Option.toList_map, slot_mirrorEffect?, List.filter_cons, List.filter_nil]
    split <;> rfl
  rw [pending, effects, List.map_append, htoggles, hmirror, EngineSetting.map_slot_due,
    List.filter_append]

/-- Their names are the names of those. -/
theorem map_name_pending (a d : Settings) :
    ((pending a d).map fun e => e.slot.name) =
      (EngineSetting.due a d).map EngineSetting.name := by
  have hnames : ((pending a d).map Effect.slot).map Slot.name =
      ((EngineSetting.due a d).map EngineSetting.slot).map Slot.name :=
    congrArg _ (map_slot_pending a d)
  rw [List.map_map, List.map_map] at hnames
  exact hnames.trans (List.map_congr_left fun g _ => g.name_slot)

/-- Their commands are those of the declared values. -/
theorem map_command_pending (a d : Settings) :
    (pending a d).map Effect.command = (EngineSetting.due a d).filterMap fun g => g.command? d := by
  have hslots : (pending a d).map Effect.command =
      ((pending a d).map Effect.slot).filterMap fun slot => slot.command? d := by
    rw [List.filterMap_map, ← List.filterMap_eq_map]
    exact List.filterMap_congr fun e he => (mem_effects_iff.1 he).1.symm
  rw [hslots, map_slot_pending, List.filterMap_map]
  exact List.filterMap_congr fun g _ => g.command?_slot d

/-- None of them asks for a text. -/
theorem returnsText_pending {a d : Settings} {e : Effect} (he : e ∈ pending a d) :
    e.command.returnsText = false := by
  obtain ⟨g, -, hcommand, -⟩ := exists_mem_pending_command_iff.1 ⟨e, he, rfl, rfl⟩
  exact EngineSetting.returnsText_of_command? hcommand

/-! ## Commands one after the other -/

/-- A command is sent over the live connection, and succeeds when the service's reply is a success;
without a live connection it fails. A failure always tells something. -/
inductive Carried (d : Device δ) (c : Command) : World δ → Outcome → World δ → Prop
  /-- Nothing is live. -/
  | unsent {w : World δ} {o : Outcome} (hlive : w.connection = none) (hfailed : o.success = false)
      (htold : o.text ≠ "") : Carried d c w o w
  /-- The service answers. -/
  | sent {w : World δ} {k : Connection} {o : Outcome} (hlive : w.connection = some k)
      (hjudged : o.success = true ↔ ∃ r, (d.call c w.device).1 = .ok r ∧ Verdict.Succeeds r)
      (htold : o.success = false → o.text ≠ "") :
      Carried d c w o (w.after (d.call c w.device).2 [c])

/-- Commands are carried out one after the other, whatever their outcomes are. -/
inductive Executed (d : Device δ) : World δ → List Command → List Outcome → World δ → Prop
  /-- Nothing is carried out. -/
  | nil (w : World δ) : Executed d w [] [] w
  /-- A command is carried out, and then the others. -/
  | cons {w w' w'' : World δ} {c : Command} {o : Outcome} {cs : List Command} {os : List Outcome}
      (first : Carried d c w o w') (rest : Executed d w' cs os w'') :
      Executed d w (c :: cs) (o :: os) w''

/-- A command that does not ask for a text is carried out when it is executed. -/
theorem carried_execute (d : Device δ) {c : Command} (h : c.returnsText = false) (w : World δ) :
    Carried d c w ((execute d c).run w).1 ((execute d c).run w).2 := by
  cases hlive : w.connection with
  | none =>
    have hname : toString c.name ≠ "" := c.name_ne
    rw [run_execute_of_none d c hlive]
    exact .unsent hlive rfl (by simp [Outcome.failure, hname])
  | some k =>
    rw [run_execute_of_some d c hlive]
    refine .sent hlive ?_ (Outcome.text_ofAnswer_ne c _)
    show (Outcome.ofAnswer c (d.call c w.device).1).success = true ↔ _
    cases (d.call c w.device).1 with
    | error e => simp [Outcome.ofAnswer, Outcome.failure]
    | ok r => simp [Outcome.ofAnswer, h, Verdict.succeeded_eq_true_iff]

namespace Carried

variable {d : Device δ} {c : Command} {w w' : World δ} {o : Outcome}

theorem connection_eq (h : Carried d c w o w') : w'.connection = w.connection := by
  cases h <;> rfl

theorem log_eq (h : Carried d c w o w') :
    w'.log = w.log ++ if w.connection.isSome then [.issued c w.connection] else [] := by
  cases h with
  | unsent hlive => simp [hlive]
  | sent hlive => simp [World.after, hlive]

theorem text_ne (h : Carried d c w o w') (hfailed : o.success = false) : o.text ≠ "" := by
  cases h with
  | unsent _ _ htold => exact htold
  | sent _ _ htold => exact htold hfailed

end Carried

namespace Executed

variable {d : Device δ} {w w' : World δ} {cs : List Command} {os : List Outcome}

theorem length_eq (h : Executed d w cs os w') : os.length = cs.length := by
  induction h with
  | nil _ => rfl
  | cons _ _ ih => rw [List.length_cons, List.length_cons, ih]

/-- Over a live connection every command is sent, in order; without one, none is. -/
theorem log_eq (h : Executed d w cs os w') :
    w'.log = w.log ++ if w.connection.isSome then cs.map (.issued · w.connection) else [] := by
  induction h with
  | nil w => simp
  | cons first _ ih =>
    rw [ih, first.connection_eq, first.log_eq, List.append_assoc]
    split <;> rfl

theorem text_ne (h : Executed d w cs os w') {o : Outcome} (ho : o ∈ os)
    (hfailed : o.success = false) : o.text ≠ "" := by
  induction h with
  | nil _ => cases ho
  | cons first _ ih =>
    rcases List.mem_cons.1 ho with rfl | ho
    · exact first.text_ne hfailed
    · exact ih ho

end Executed

/-! ## Reports -/

namespace SaveReport

/-- The report on settings whose commands were tried, by their names, with the outcomes. -/
def ofTried (tried : List (String × Outcome)) : SaveReport where
  applied := (tried.filter fun x => x.2.success).map Prod.fst
  deferred := (tried.filter fun x => !x.2.success).map fun x => ⟨x.1, x.2.text⟩

/-- A report that names each of some settings once: among the applied ones if its command succeeded,
and else among the deferred ones, with a diagnostic. -/
structure Accounts (settings : List EngineSetting) (outcomes : List Outcome) (r : SaveReport) :
    Prop where
  /-- There is one outcome for each setting. -/
  tried : outcomes.length = settings.length
  /-- The applied ones are those whose command succeeded, in order. -/
  applied : r.applied =
    ((settings.zip outcomes).filter fun x => x.2.success).map fun x => x.1.name
  /-- The deferred ones are those whose command did not, in order, each with what its outcome
  tells. -/
  deferred : r.deferred =
    ((settings.zip outcomes).filter fun x => !x.2.success).map fun x => ⟨x.1.name, x.2.text⟩
  /-- That is never empty. -/
  told : ∀ f ∈ r.deferred, f.diagnostic ≠ ""
  /-- Together they are all of the settings. -/
  complete : (r.applied ++ r.deferred.map Deferred.setting).Perm (settings.map EngineSetting.name)
  /-- No name is there twice. -/
  once : (r.applied ++ r.deferred.map Deferred.setting).Nodup

/-- A report on what was tried is complete. -/
theorem perm_ofTried (tried : List (String × Outcome)) :
    ((ofTried tried).applied ++ (ofTried tried).deferred.map Deferred.setting).Perm
      (tried.map Prod.fst) := by
  simp only [ofTried, List.map_map]
  rw [show (Deferred.setting ∘ fun x : String × Outcome => ⟨x.1, x.2.text⟩) = Prod.fst from rfl,
    ← List.map_append]
  exact (List.filter_append_perm _ tried).map _

/-- The report on commands that were carried out accounts for their settings. -/
theorem accounts_of_executed {d : Device δ} {w w' : World δ} {settings : List EngineSetting}
    {cs : List Command} {outcomes : List Outcome} (h : Executed d w cs outcomes w')
    (hlength : cs.length = settings.length) (hnodup : (settings.map EngineSetting.name).Nodup) :
    Accounts settings outcomes (ofTried ((settings.map EngineSetting.name).zip outcomes)) := by
  have htried : outcomes.length = settings.length := h.length_eq.trans hlength
  have hcomplete := perm_ofTried ((settings.map EngineSetting.name).zip outcomes)
  rw [List.map_fst_zip (by rw [List.length_map]; exact Nat.le_of_eq htried.symm)] at hcomplete
  have hzip : (settings.map EngineSetting.name).zip outcomes =
      (settings.zip outcomes).map fun x => (x.1.name, x.2) := by
    rw [List.zip_map_left]
    rfl
  refine ⟨htried, ?_, ?_, ?_, hcomplete, hcomplete.nodup_iff.2 hnodup⟩
  · simp only [hzip, ofTried, List.filter_map, List.map_map]
    rfl
  · simp only [hzip, ofTried, List.filter_map, List.map_map]
    rfl
  · intro f hf
    obtain ⟨⟨setting, o⟩, hmem, rfl⟩ := List.mem_map.1 hf
    obtain ⟨hpair, hfailed⟩ := List.mem_filter.1 hmem
    exact h.text_ne (List.of_mem_zip hpair).2 (by simpa using hfailed)

end SaveReport

namespace Keeper

variable {d : Device δ} {k : Keeper}

/-- Pushing effects that the connection grants carries out their commands, all of them, and puts
each into the report. -/
theorem executed_pushAll {es : List Effect}
    (hallows : ∀ e ∈ es, (k.engine.any fun c => c.allows e.gate) = true)
    (hquiet : ∀ e ∈ es, e.command.returnsText = false) (declared : Settings)
    (p : Progress) (w : World δ) :
    ∃ outcomes, Executed d w (es.map Effect.command) outcomes
        ((pushAll d k declared es p).run w).2 ∧
      ((pushAll d k declared es p).run w).1.gated = p.gated ∧
      ((pushAll d k declared es p).run w).1.report =
        let r := SaveReport.ofTried ((es.map fun e => e.slot.name).zip outcomes)
        ⟨p.report.applied ++ r.applied, p.report.deferred ++ r.deferred⟩ := by
  induction es generalizing p w with
  | nil =>
    refine ⟨[], .nil w, rfl, ?_⟩
    simp only [SaveReport.ofTried, List.map_nil, List.zip_nil_left, List.filter_nil,
      List.append_nil]
    rfl
  | cons e es ih =>
    have hpush := run_push_of_allows (d := d) (hallows e List.mem_cons_self) declared p w
    obtain ⟨outcomes, hexecuted, hgated, hreport⟩ := ih
      (fun f hf => hallows f (List.mem_cons_of_mem _ hf))
      (fun f hf => hquiet f (List.mem_cons_of_mem _ hf)) ((push d k declared p e).run w).1
      ((push d k declared p e).run w).2
    rw [run_pushAll_cons]
    refine ⟨((execute d e.command).run w).1 :: outcomes, ?_, ?_, ?_⟩
    · rw [List.map_cons]
      refine .cons (carried_execute d (hquiet e List.mem_cons_self) w) ?_
      rw [hpush] at hexecuted
      rw [hpush]
      exact hexecuted
    · rw [hgated, hpush]
      cases ((execute d e.command).run w).1.success <;> rfl
    · rw [hreport, hpush]
      cases hsuccess : ((execute d e.command).run w).1.success <;>
        simp [SaveReport.ofTried, hsuccess]

/-- Pushing effects that the connection does not grant executes nothing, and puts all of them
aside. -/
theorem run_pushAll_of_gated {es : List Effect}
    (hdenies : ∀ e ∈ es, (k.engine.any fun c => c.allows e.gate) = false) (declared : Settings)
    (p : Progress) (w : World δ) :
    (pushAll d k declared es p).run w =
      ({ p with
        gated := p.gated ++ es.map fun e => e.slot.name
        required := es.foldl (fun t e => t.higher e.gate.minTier) p.required }, w) := by
  induction es generalizing p with
  | nil =>
    rw [List.map_nil, List.append_nil]
    rfl
  | cons e es ih =>
    rw [run_pushAll_cons, run_push_of_not_allows (hdenies e List.mem_cons_self),
      ih (fun f hf => hdenies f (List.mem_cons_of_mem _ hf))]
    simp

/-- The connection grants a pending effect exactly when it is one of the kernel tier. -/
theorem any_allows_pending {a declared : Settings} {e : Effect} (he : e ∈ pending a declared) :
    (k.engine.any fun c => c.allows e.gate) = k.engine.any fun c => c.tier = .kernel := by
  have hgate := Slot.gate_mem_ofEngine (mem_effects_iff.1 he).2.1
  cases k.engine with
  | none => rfl
  | some c =>
    rw [Option.any_some, Option.any_some, Bool.eq_iff_iff, Connection.allows_iff_kernel hgate,
      decide_eq_true_iff]

/-- Effects of the engine that are gated need the kernel tier. -/
theorem required_of_gated {es : List Effect} (hgates : ∀ e ∈ es, e.gate ∈ Capability.ofEngine)
    (hne : es ≠ []) (t : Tier) :
    es.foldl (fun t e => t.higher e.gate.minTier) t = .kernel := by
  induction es generalizing t with
  | nil => exact absurd rfl hne
  | cons e es ih =>
    have hhigher : t.higher e.gate.minTier = .kernel := by
      have hmin (c : Capability) (hc : c ∈ Capability.ofEngine) : c.minTier = .kernel := by
        simp only [Capability.ofEngine, List.mem_cons, List.not_mem_nil, or_false] at hc
        rcases hc with rfl | rfl | rfl <;> decide
      rw [hmin _ (hgates e List.mem_cons_self)]
      cases t <;> rfl
    rw [List.foldl_cons, hhigher]
    by_cases hes : es = []
    · rw [hes, List.foldl_nil]
    · exact ih (fun f hf => hgates f (List.mem_cons_of_mem _ hf)) hes .kernel

/-- Over a connection of the kernel tier the commands of all settings that are due are carried out,
and the report accounts for them. -/
theorem executed_pushing (hkernel : (k.engine.any fun c => c.tier = .kernel) = true)
    (declared : Settings) (w : World δ) :
    let due := EngineSetting.due (d.toStorage.settings k.appliedPath w.device) declared
    ∃ outcomes, Executed d w (due.filterMap fun g => g.command? declared) outcomes
        (pushing d k declared w).2 ∧
      (pushing d k declared w).1.gated = [] ∧
      (pushing d k declared w).1.report.Accounts due outcomes := by
  intro due
  let acknowledged := d.toStorage.settings k.appliedPath w.device
  have hallows (e : Effect) (he : e ∈ pending acknowledged declared) :
      (k.engine.any fun c => c.allows e.gate) = true := (any_allows_pending he).trans hkernel
  obtain ⟨outcomes, hexecuted, hgated, hreport⟩ := executed_pushAll (d := d) hallows
    (fun e he => returnsText_pending he) declared
    { acknowledged := settled acknowledged declared } w
  have hlength : ((pending acknowledged declared).map Effect.command).length = due.length := by
    rw [List.length_map, ← List.length_map Effect.slot, map_slot_pending, List.length_map]
  have haccounts := SaveReport.accounts_of_executed hexecuted hlength
    (EngineSetting.nodup_name_due acknowledged declared)
  rw [map_command_pending] at hexecuted
  refine ⟨outcomes, hexecuted, hgated, ?_⟩
  -- The report is empty when the pushing starts.
  rw [map_name_pending] at hreport
  have hofTried : (pushing d k declared w).1.report =
      SaveReport.ofTried ((due.map EngineSetting.name).zip outcomes) := hreport
  rw [hofTried]
  exact haccounts

/-- Over any other connection, and without one, all settings that are due are gated. -/
theorem run_pushing_of_gated (hdenied : (k.engine.any fun c => c.tier = .kernel) = false)
    (declared : Settings) (w : World δ) :
    let due := EngineSetting.due (d.toStorage.settings k.appliedPath w.device) declared
    (pushing d k declared w).2 = w ∧
      verdict (pushing d k declared w).1 =
        if due = [] then .ok {} else .error (.gated (due.map EngineSetting.name) .kernel) := by
  intro due
  let acknowledged := d.toStorage.settings k.appliedPath w.device
  have hdenies (e : Effect) (he : e ∈ pending acknowledged declared) :
      (k.engine.any fun c => c.allows e.gate) = false := (any_allows_pending he).trans hdenied
  have hgates (e : Effect) (he : e ∈ pending acknowledged declared) :
      e.gate ∈ Capability.ofEngine := Slot.gate_mem_ofEngine (mem_effects_iff.1 he).2.1
  have hpushing : pushing d k declared w = _ :=
    run_pushAll_of_gated hdenies declared { acknowledged := settled acknowledged declared } w
  have hnames : ((pending acknowledged declared).map fun e => e.slot.name) =
      due.map EngineSetting.name := map_name_pending ..
  rw [hpushing]
  refine ⟨rfl, ?_⟩
  rw [verdict, List.nil_append, hnames]
  by_cases hnone : due = []
  · rw [if_pos hnone, hnone]
    rfl
  · have hsome : pending acknowledged declared ≠ [] := by
      rintro hempty
      rw [hempty, List.map_nil] at hnames
      exact hnone (List.map_eq_nil_iff.1 hnames.symm)
    rw [if_neg hnone, required_of_gated hgates hsome,
      List.isEmpty_eq_false_iff.2 (by rwa [ne_eq, List.map_eq_nil_iff])]
    rfl

/-- A save whose document is written accounts for every setting that is due: each of the five that
the engine is told whose declared value differs from the acknowledged one and has a command. Over a
connection of the kernel tier it carries out their commands, in order and whatever becomes of each,
and names each of them once in its report. Over any other connection, or none, it sends nothing, and
tells that all of them are gated if there are any. The acknowledged settings are those for which the
second document was written. -/
theorem save_accounts_for_due {declared : Settings} {text : String} {w : World δ} {s : δ}
    (htext : declared.toToml = some text)
    (hwrite : d.replaceFile k.path (Utf8.encode text) w.device = (.ok (), s)) :
    let acknowledged := d.toStorage.settings k.appliedPath s
    let due := EngineSetting.due acknowledged declared
    let commands := due.filterMap fun g => g.command? declared
    let saved := (save d k declared).run w
    ((k.engine.any fun c => c.tier = .kernel) = true →
      ∃ outcomes w' report,
        Executed d { w with device := s } commands outcomes w' ∧
        saved.2.log = w.log ++
          (if w.connection.isSome then commands.map (.issued · w.connection) else []) ∧
        saved.1 = .ok report ∧ report.Accounts due outcomes) ∧
    ((k.engine.any fun c => c.tier = .kernel) = false →
      saved.2.log = w.log ∧
        saved.1 =
          if due = [] then .ok {} else .error (.gated (due.map EngineSetting.name) .kernel)) ∧
    ∀ r, d.toStorage.StandsFor k.appliedPath s r → acknowledged = r := by
  intro acknowledged due commands saved
  let start : World δ := { w with device := s }
  have hsaved : saved = _ := run_save htext hwrite
  -- Only the pushing of effects sends anything.
  have hlog : saved.2.log = (pushing d k declared start).2.log := by
    rw [hsaved]
    exact (sends_record d _ _).log_eq
  have hverdict : saved.1 = verdict (pushing d k declared start).1 := by rw [hsaved]
  refine ⟨fun hkernel => ?_, fun hdenied => ?_, fun r hr => hr.settings_eq⟩
  · obtain ⟨outcomes, hexecuted, hgated, haccounts⟩ := executed_pushing hkernel declared start
    refine ⟨outcomes, _, _, hexecuted, hlog.trans hexecuted.log_eq, ?_, haccounts⟩
    rw [hverdict, verdict, hgated]
    rfl
  · obtain ⟨hworld, hgated⟩ := run_pushing_of_gated (d := d) hdenied declared start
    rw [hlog, hverdict, hworld]
    exact ⟨rfl, hgated⟩

/-- Stealth and a mirror path are declared over a connection of the kernel tier: both are sent, and
the report names both. -/
theorem save_accounts_for_due_of_stealth_and_mirror :
    let d := Device.ofParts (Simulation.Engine.service .socket) FileTree.storage
    let c : Connection := ⟨.kernel, 1, 12, none⟩
    let declared : Settings := { enableStealth := true, mirrorPath := some (.ofString "/m") }
    let saved := (save d ⟨sampleDocument, some c⟩ declared).run
      { device := ({ tier := some .kernel }, {}), connection := some c }
    saved.2.log = [.issued (.setStealth true) (some c),
        .issued (.setMirrorPath (.ofString "/m")) (some c)] ∧
      ∃ outcomes report, saved.1 = .ok report ∧
        report.Accounts [.stealth, .mirrorPath] outcomes := by
  intro d c declared saved
  obtain ⟨text, htext⟩ : ∃ text, declared.toToml = some text :=
    Option.isSome_iff_exists.1 (by decide +kernel)
  let engine : Simulation.Engine := { tier := some .kernel }
  let written : FileTree :=
    FileTree.put {} (samplePlace sampleDocument) (.file (Utf8.encode text) 0o600)
  have hwrite : d.replaceFile sampleDocument (Utf8.encode text) (engine, {}) =
      (.ok (), (engine, written)) := by
    have hreplace : FileTree.storage.replaceFile sampleDocument (Utf8.encode text) {} = _ :=
      FileTree.replace_of_open (open_sample _ List.mem_cons_self) (Utf8.encode text)
    rw [Device.replaceFile_ofParts, hreplace]
  have hdue : EngineSetting.due
      (d.toStorage.settings (Keeper.mk sampleDocument (some c)).appliedPath (engine, written))
      declared = [.stealth, .mirrorPath] := by
    obtain rfl : declared.toToml.get (by decide +kernel) = text := Option.get_of_eq_some _ htext
    decide +kernel
  obtain ⟨outcomes, w', report, -, hlog, hresult, haccounts⟩ :=
    (save_accounts_for_due (d := d) (k := ⟨sampleDocument, some c⟩)
      (w := { device := (engine, {}), connection := some c }) htext hwrite).1 rfl
  rw [hdue] at hlog haccounts
  exact ⟨hlog, outcomes, report, hresult, haccounts⟩

end Keeper

end OverlayControl
