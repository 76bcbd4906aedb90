import OverlayControl.Proofs.Settings.EngineSetting
import OverlayControl.Proofs.Settings.Save
import OverlayControl.Proofs.Transcript
import OverlayControl.Proofs.Verdict
import OverlayControl.Simulation.Engine

/-!
# The ledger of acknowledged settings

The second document of a keeper is a ledger: over any run of saves it holds, for each setting that
the engine is told, what was declared by the last save that the engine acknowledged for it.

* `Ledger.Turn`, `Ledger.step` — one save, offline or over some connection, and what it leaves
  behind;
* `Ledger.Entry.Acknowledges`, `Ledger.declaredFor` — a save that made the engine acknowledge a
  setting, and the declared settings with which it last did;
* `Ledger.Entry.acknowledges`, `Ledger.entry` — the same, slot by slot;
* `Ledger.value_step` — what one save does to the ledger;
* `Ledger.value_run` — the second document agrees with the ledger after any run;
* `Ledger.applied_run` — the same for `Keeper.applied`, and what the next save has pending.
-/

namespace OverlayControl

namespace Keeper

variable {σ φ : Type} (service : Service σ) (files : Storage φ) (k : Keeper)

/-- One effect is sent at most once; it counts as acknowledged when the transcript grants it. -/
theorem run_push_recording (declared : Settings) (p : Progress) (e : Effect)
    (w : World ((σ × Transcript) × φ)) :
    ∃ sent : Transcript,
      let pushed := (push (Device.ofParts service.recording files) k declared p e).run w
      pushed.2.device.1.2 = w.device.1.2 ++ sent ∧
      (∀ x ∈ sent, x.1 = e.command) ∧
      pushed.1.acknowledged =
        if sent.grants e.command then e.slot.settle declared p.acknowledged
        else p.acknowledged := by
  -- Nothing is sent below the tier that the effect needs, nor while no connection is live.
  cases hallows : k.engine.any fun c => c.allows e.gate with
  | false =>
    rw [run_push_of_not_allows hallows]
    exact ⟨[], (List.append_nil _).symm, fun _ h => absurd h List.not_mem_nil, rfl⟩
  | true =>
    rw [run_push_of_allows hallows]
    cases hlive : w.connection with
    | none =>
      rw [run_execute_of_none _ _ hlive]
      exact ⟨[], (List.append_nil _).symm, fun _ h => absurd h List.not_mem_nil, rfl⟩
    | some c =>
      rw [run_execute_of_some _ _ hlive]
      refine ⟨[(e.command, (service.call e.command w.device.1.1).1)], rfl, ?_, ?_⟩
      · intro x hx
        rw [List.mem_singleton.1 hx]
      · rw [Transcript.grants_singleton]
        -- The transcript holds the one answer that the effect is judged by.
        show (ite ((Outcome.ofAnswer e.command (service.call e.command w.device.1.1).1).success =
          true) _ _ : Progress).acknowledged = _
        split <;> rfl

/-- The effects that count as acknowledged are those that the transcript grants. -/
theorem run_pushAll_recording (declared : Settings) (es : List Effect)
    (hnodup : (es.map Effect.command).Nodup) (p : Progress) (w : World ((σ × Transcript) × φ)) :
    ∃ sent : Transcript,
      let pushed := (pushAll (Device.ofParts service.recording files) k declared es p).run w
      pushed.2.device.1.2 = w.device.1.2 ++ sent ∧
      (∀ x ∈ sent, x.1 ∈ es.map Effect.command) ∧
      pushed.1.acknowledged =
        (es.filter fun e => sent.grants e.command).foldl (fun a e => e.slot.settle declared a)
          p.acknowledged := by
  -- By induction on the effects that are still to be pushed, from any progress and any world.
  induction es generalizing p w with
  | nil => exact ⟨[], (List.append_nil _).symm, fun _ h => absurd h List.not_mem_nil, rfl⟩
  | cons e es ih =>
    rw [List.map_cons, List.nodup_cons] at hnodup
    obtain ⟨first, htranscript, hfirst, hack⟩ :=
      run_push_recording service files k declared p e w
    obtain ⟨rest, htranscript', hrest, hack'⟩ := ih hnodup.2
      ((push (Device.ofParts service.recording files) k declared p e).run w).1
      ((push (Device.ofParts service.recording files) k declared p e).run w).2
    refine ⟨first ++ rest, ?_, ?_, ?_⟩
    · rw [run_pushAll_cons, htranscript', htranscript, List.append_assoc]
    · intro x hx
      rw [List.map_cons]
      rcases List.mem_append.1 hx with hx | hx
      · rw [hfirst x hx]
        exact List.mem_cons_self ..
      · exact List.mem_cons_of_mem _ (hrest x hx)
    · -- The first command is not among the later ones, nor the other way round.
      have hhead : (first ++ rest).grants e.command = first.grants e.command := by
        have hnone : rest.grants e.command = false := by
          refine Transcript.grants_eq_false fun x hx heq => hnodup.1 ?_
          rw [← heq]
          exact hrest x hx
        rw [Transcript.grants_append, hnone, Bool.or_false]
      have htail : ∀ f ∈ es, (first ++ rest).grants f.command = rest.grants f.command := by
        intro f hf
        have hnone : first.grants f.command = false := by
          refine Transcript.grants_eq_false fun x hx heq => hnodup.1 ?_
          rw [← hfirst x hx, heq]
          exact List.mem_map.2 ⟨f, hf, rfl⟩
        rw [Transcript.grants_append, hnone, Bool.false_or]
      rw [run_pushAll_cons, hack', hack, List.filter_cons, hhead]
      have hfilter : (es.filter fun f => (first ++ rest).grants f.command) =
          es.filter fun f => rest.grants f.command := List.filter_congr htail
      rw [hfilter]
      cases first.grants e.command <;> rfl

end Keeper

namespace Ledger

/-- One save: what is declared, the connection of the keeper, and the live one. -/
structure Turn where
  /-- The settings that are saved. -/
  declared : Settings
  /-- The connection of the keeper; none when the save is done offline. -/
  engine : Option Connection
  /-- The connection that is live during the save. -/
  live : Option Connection

/-- What is known of a save that was done. -/
structure Entry where
  /-- The settings that were saved. -/
  declared : Settings
  /-- What the service was sent and answered. -/
  transcript : Transcript

/-- A save made the engine acknowledge a setting: the command of the declared value got a reply that
is a success, or there is no such command. -/
def Entry.Acknowledges (e : Entry) (g : EngineSetting) : Prop :=
  ∀ c, g.command? e.declared = some c → ∃ r, (c, .ok r) ∈ e.transcript ∧ Verdict.Succeeds r

/-- Whether a save made the engine acknowledge a slot: its command got a successful reply, or the
declared value of a slot that the engine knows of has no command. -/
def Entry.acknowledges (e : Entry) (slot : Slot) : Bool :=
  match slot.command? e.declared with
  | some c => e.transcript.grants c
  | none => slot.tracked

theorem Entry.acknowledges_slot_iff {e : Entry} {g : EngineSetting} :
    e.acknowledges g.slot = true ↔ e.Acknowledges g := by
  unfold acknowledges Acknowledges
  rw [EngineSetting.command?_slot]
  cases hcommand : g.command? e.declared with
  | none => simp [EngineSetting.exists_slot_iff.1 ⟨g, rfl⟩]
  | some c =>
    simp only [Option.some.injEq, forall_eq']
    rw [Transcript.grants_eq_true_iff (EngineSetting.returnsText_of_command? hcommand)]

instance {e : Entry} {g : EngineSetting} : Decidable (e.Acknowledges g) :=
  decidable_of_iff _ Entry.acknowledges_slot_iff

/-- The settings with which a setting was last acknowledged, defaults if it never was. -/
def declaredFor (history : List Entry) (g : EngineSetting) : Settings :=
  ((history.filter fun e => e.Acknowledges g).getLast?.map Entry.declared).getD {}

/-- The settings with which a slot was last acknowledged, defaults if it never was. -/
def entry (history : List Entry) (slot : Slot) : Settings :=
  ((history.filter fun e => e.acknowledges slot).getLast?.map Entry.declared).getD {}

theorem entry_slot (history : List Entry) (g : EngineSetting) :
    entry history g.slot = declaredFor history g := by
  simp only [entry, declaredFor, ← Entry.acknowledges_slot_iff, Bool.decide_eq_true]

/-- A run of saves so far. -/
structure State (σ φ : Type) where
  /-- The state of the service. -/
  service : σ
  /-- The state of the files. -/
  files : φ
  /-- The saves that were done. -/
  history : List Entry := []

variable {σ φ : Type} (service : Service σ) (files : Storage φ) (path : Path)

/-- One more save. -/
def step (s : State σ φ) (t : Turn) : State σ φ :=
  let w := ((Keeper.save (Device.ofParts service.recording files) ⟨path, t.engine⟩ t.declared).run
    { device := ((s.service, []), s.files), connection := t.live }).2
  { service := w.device.1.1
    files := w.device.2
    history := s.history ++ [⟨t.declared, w.device.1.2⟩] }

/-- A run of saves. -/
def run (s : State σ φ) (turns : List Turn) : State σ φ := turns.foldl (step service files path) s

theorem entry_concat (history : List Entry) (e : Entry) (slot : Slot) :
    entry (history ++ [e]) slot =
      if e.acknowledges slot then e.declared else entry history slot := by
  unfold entry
  rw [List.filter_append, List.filter_cons, List.filter_nil]
  by_cases hack : e.acknowledges slot = true
  · rw [if_pos hack, if_pos hack, List.getLast?_concat]
    rfl
  · rw [if_neg hack, if_neg hack, List.append_nil]

/-- The document of the acknowledged settings. -/
abbrev record : Path := path.withExtension "applied.toml"

variable {service files path} {sound : φ → Prop}

/-- A command that was granted belongs to the pending effect of its slot. -/
theorem exists_mem_pending_of_grants {before declared : Settings} {sent : Transcript} {slot : Slot}
    {c : Command} (hsent : ∀ x ∈ sent, x.1 ∈ (pending before declared).map Effect.command)
    (hcommand : slot.command? declared = some c) (hgrant : sent.grants c = true) :
    ∃ e ∈ pending before declared, e.command = c ∧ e.slot = slot := by
  obtain ⟨x, hx, rfl⟩ := Transcript.mem_of_grants hgrant
  obtain ⟨e, he, hec⟩ := List.mem_map.1 (hsent x hx)
  -- The command alone tells the slot.
  have hslot := Slot.slot?_of_command? (mem_effects_iff.1 he).1
  rw [hec, Slot.slot?_of_command? hcommand] at hslot
  exact ⟨e, he, hec, (Option.some.inj hslot).symm⟩

/-- The settings that a save records: those before it, with the slots that it made the engine
acknowledge taken from the declared settings. -/
theorem value_pushed {before declared : Settings} {sent : Transcript}
    (hsent : ∀ x ∈ sent, x.1 ∈ (pending before declared).map Effect.command) (slot : Slot) :
    slot.value (((pending before declared).filter fun e => sent.grants e.command).foldl
        (fun a e => e.slot.settle declared a) (settled before declared)) =
      if (Entry.mk declared sent).acknowledges slot then slot.value declared
      else slot.value before := by
  rw [Slot.value_foldl_settle, Slot.value_settled]
  unfold Entry.acknowledges
  cases hcommand : slot.command? declared with
  | none =>
    -- A slot without a command has no effect, so only the settling at the start moves it.
    have hmem : slot ∉ ((pending before declared).filter fun e => sent.grants e.command).map
        Effect.slot := by
      intro hmem
      obtain ⟨e, he, heq⟩ := List.mem_map.1 hmem
      have hsome := (exists_mem_pending_iff.1 ⟨e, (List.mem_filter.1 he).1, heq⟩).1
      rw [hcommand] at hsome
      cases hsome
    rw [if_neg hmem, Option.isNone_none, Bool.and_true]
  | some c =>
    -- A slot with a command has one effect at most, and that is granted when its command is.
    have hmem : slot ∈ ((pending before declared).filter fun e => sent.grants e.command).map
        Effect.slot ↔ sent.grants c = true := by
      constructor
      · intro hmem
        obtain ⟨e, he, rfl⟩ := List.mem_map.1 hmem
        obtain ⟨hpending, hgrant⟩ := List.mem_filter.1 he
        have hc := (mem_effects_iff.1 hpending).1
        rw [hcommand] at hc
        obtain rfl := Option.some.inj hc
        exact hgrant
      · intro hgrant
        obtain ⟨e, he, hec, heslot⟩ := exists_mem_pending_of_grants hsent hcommand hgrant
        refine List.mem_map.2 ⟨e, List.mem_filter.2 ⟨he, ?_⟩, heslot⟩
        rw [hec]
        exact hgrant
    simp only [hmem, Option.isNone_some, Bool.and_false, Bool.false_eq_true, if_false]

/-- When the settings to be recorded agree with those before the save, they are the same, so that
leaving them unrecorded loses nothing. -/
theorem value_eq_of_same {before declared after : Settings} {sent : Transcript} {slot : Slot}
    (hsent : ∀ x ∈ sent, x.1 ∈ (pending before declared).map Effect.command)
    (hafter : slot.value after =
      if (Entry.mk declared sent).acknowledges slot then slot.value declared
      else slot.value before)
    (hsame : after.same before = true) : slot.value after = slot.value before := by
  have hslot := Slot.same_of_settings_same hsame slot
  by_cases hack : (Entry.mk declared sent).acknowledges slot = true
  · rw [if_pos hack] at hafter
    rw [Slot.same_congr hafter rfl] at hslot
    rw [hafter]
    unfold Entry.acknowledges at hack
    -- Acknowledged without a command, the slot has a value that agrees with itself alone; by a
    -- command, it had an effect pending, and so had changed.
    cases hcommand : slot.command? declared with
    | none => exact Slot.value_eq_of_same hcommand hslot
    | some c =>
      rw [hcommand] at hack
      obtain ⟨e, he, _, heslot⟩ := exists_mem_pending_of_grants hsent hcommand hack
      have hdiffers := (exists_mem_pending_iff.1 ⟨e, he, heslot⟩).2
      rw [Slot.same_comm, hslot] at hdiffers
      cases hdiffers
  · rwa [if_neg hack] at hafter

/-- What the effects of a save come to: the slots that the transcript of the save acknowledges take
their declared values. -/
theorem value_pushing (service : Service σ) (files : Storage φ) (k : Keeper) (declared : Settings)
    (s : σ) (written : φ) (live : Option Connection) :
    let pushed := Keeper.pushing (Device.ofParts service.recording files) k declared
      { device := ((s, []), written), connection := live }
    (∀ x ∈ pushed.2.device.1.2, x.1 ∈
        (pending (files.settings k.appliedPath written) declared).map Effect.command) ∧
      ∀ slot : Slot, slot.value pushed.1.acknowledged =
        if (Entry.mk declared pushed.2.device.1.2).acknowledges slot then slot.value declared
        else slot.value (files.settings k.appliedPath written) := by
  intro pushed
  obtain ⟨sent, htranscript, hsent, hack⟩ :=
    Keeper.run_pushAll_recording service files k declared
      (pending (files.settings k.appliedPath written) declared) (nodup_effects_command _ _)
      { acknowledged := settled (files.settings k.appliedPath written) declared }
      { device := ((s, []), written), connection := live }
  have hpushed : pushed.2.device.1.2 = sent := htranscript
  rw [hpushed]
  refine ⟨hsent, fun slot => ?_⟩
  rw [← value_pushed hsent slot]
  exact congrArg slot.value hack

/-- One save: a slot that the engine has acknowledged takes its declared value in the second
document, every other slot keeps the value that it has there. -/
theorem value_step (hlaw : files.Keeps sound [path, record path])
    (hwrites : ∀ p ∈ [path, record path], ∀ bytes s, sound s →
      (files.replaceFile p bytes s).1 = .ok ())
    (service : Service σ) {s : State σ φ} {t : Turn} (hsound : sound s.files)
    (hutf8 : t.declared.toToml.isSome = true) :
    ∃ e : Entry, e.declared = t.declared ∧
      (step service files path s t).history = s.history ++ [e] ∧
      sound (step service files path s t).files ∧
      ∀ slot : Slot, slot.value (files.settings (record path) (step service files path s t).files) =
        if e.acknowledges slot then slot.value t.declared
        else slot.value (files.settings (record path) s.files) := by
  obtain ⟨text, htext⟩ := Option.isSome_iff_exists.1 hutf8
  have hpath : path ∈ [path, record path] := List.mem_cons_self ..
  have hrecord : record path ∈ [path, record path] := List.mem_cons_of_mem _ (List.mem_cons_self ..)
  obtain ⟨hsound', hbefore, _, hservice, hsound'', hrecorded⟩ := Keeper.run_save_parts
    service.recording (k := ⟨path, t.engine⟩)
    (w := { device := ((s.service, []), s.files), connection := t.live })
    hlaw hpath hrecord htext hsound (hwrites path hpath _ _ hsound)
  obtain ⟨hsent, hafter⟩ := value_pushing service files ⟨path, t.engine⟩ t.declared s.service
    (files.replaceFile path (Utf8.encode text) s.files).2 t.live
  rw [hbefore] at hsent hafter
  rw [← hservice] at hsent hafter
  refine ⟨_, rfl, rfl, hsound'', fun slot => Eq.trans ?_ (hafter slot)⟩
  -- The second document is left alone only when there is nothing new to note.
  rcases hrecorded with ⟨hsame, hkept⟩ | ⟨bytes, hnew, _⟩
  · rw [value_eq_of_same hsent (hafter slot) hsame]
    exact congrArg slot.value hkept
  · exact congrArg slot.value (hnew (hwrites _ hrecord bytes _ hsound'))

/-- After any run the second document agrees with the ledger of the run, if it did before. -/
theorem value_run (hlaw : files.Keeps sound [path, record path])
    (hwrites : ∀ p ∈ [path, record path], ∀ bytes s, sound s →
      (files.replaceFile p bytes s).1 = .ok ())
    (service : Service σ) (turns : List Turn)
    (hutf8 : ∀ t ∈ turns, t.declared.toToml.isSome = true) {s : State σ φ} (hsound : sound s.files)
    (hagree : ∀ slot : Slot, slot.value (files.settings (record path) s.files) =
      slot.value (entry s.history slot)) :
    (run service files path s turns).history.map Entry.declared =
        s.history.map Entry.declared ++ turns.map Turn.declared ∧
      ∀ slot : Slot,
        slot.value (files.settings (record path) (run service files path s turns).files) =
          slot.value (entry (run service files path s turns).history slot) := by
  -- The agreement of the second document and the ledger is what each save preserves.
  induction turns generalizing s with
  | nil => exact ⟨(List.append_nil _).symm, hagree⟩
  | cons t turns ih =>
    obtain ⟨e, hdeclared, hhistory, hsound', hvalue⟩ :=
      value_step hlaw hwrites service hsound (hutf8 t (List.mem_cons_self ..))
    have hagree' (slot : Slot) :
        slot.value (files.settings (record path) (step service files path s t).files) =
          slot.value (entry (step service files path s t).history slot) := by
      rw [hvalue, hhistory, entry_concat]
      by_cases hack : e.acknowledges slot = true
      · rw [if_pos hack, if_pos hack, hdeclared]
      · rw [if_neg hack, if_neg hack]
        exact hagree slot
    obtain ⟨hlength, hrun⟩ := ih (fun u hu => hutf8 u (List.mem_cons_of_mem _ hu)) hsound' hagree'
    refine ⟨?_, hrun⟩
    rw [hhistory, List.map_append, List.map_singleton, hdeclared, List.append_assoc] at hlength
    exact hlength

/-- A slot that the engine does not know of is never acknowledged. -/
theorem entry_of_not_tracked {slot : Slot} (h : slot.tracked = false) (history : List Entry) :
    entry history slot = {} := by
  have hnone : (history.filter fun e => e.acknowledges slot) = [] := by
    rw [List.filter_eq_nil_iff]
    intro e _ hack
    unfold Entry.acknowledges at hack
    cases hcommand : slot.command? e.declared with
    | none =>
      rw [hcommand] at hack
      exact Bool.false_ne_true (h.symm.trans hack)
    | some c =>
      have htracked := Slot.command?_isSome_tracked (Option.isSome_of_eq_some hcommand)
      exact Bool.false_ne_true (h.symm.trans htracked)
  rw [entry, hnone]
  rfl

/-- After any run of saves, offline or over connections of any tier, with a service that may refuse
any command, the acknowledged settings are those of the ledger: each of the five settings that the
engine is told has the value that was declared when the engine last acknowledged it, and the default
if it never did, and all others have their defaults. The next save has effects pending for exactly
those of the five whose declared value has a command and differs from the ledger's, each with that
command; only turning the wiping off and clearing the mirror path have none. -/
theorem applied_run (hlaw : files.Keeps sound [path, record path])
    (hwrites : ∀ p ∈ [path, record path], ∀ bytes s, sound s →
      (files.replaceFile p bytes s).1 = .ok ())
    (service : Service σ) (turns : List Turn)
    (hutf8 : ∀ t ∈ turns, ∀ p, t.declared.mirrorPath = some p → ∃ text, p = .ofString text)
    (start : σ) {disk : φ} (hsound : sound disk)
    (hfresh : files.readFile (record path) disk = .error .notFound)
    (engine live : Option Connection) :
    let r := run service files path { service := start, files := disk } turns
    let applied := ((Keeper.applied (Device.ofParts service files) ⟨path, engine⟩).run
      { device := (r.service, r.files), connection := live }).1
    let ledger := declaredFor r.history
    r.history.map Entry.declared = turns.map Turn.declared ∧
      applied =
        { enableKernelDebug := (ledger .kernelDebug).enableKernelDebug
          enableStealth := (ledger .stealth).enableStealth
          avcSpoof := (ledger .avcSpoof).avcSpoof
          enableNuke := (ledger .nuke).enableNuke
          mirrorPath := (ledger .mirrorPath).mirrorPath } ∧
      (∀ (next : Settings) (slot : Slot) (c : Command),
        (∃ e ∈ pending applied next, e.slot = slot ∧ e.command = c) ↔
          ∃ g : EngineSetting, g.slot = slot ∧ g.command? next = some c ∧
            ¬g.Agree (ledger g) next) ∧
      ∀ (g : EngineSetting) (next : Settings), g.slot.command? next = none ↔
        (g = .nuke ∧ next.enableNuke = false) ∨ (g = .mirrorPath ∧ next.mirrorPath = none) := by
  intro r applied ledger
  have hwritable (t : Turn) (ht : t ∈ turns) : t.declared.toToml.isSome = true := by
    refine Settings.toToml_isSome_iff.2 fun p hp => ?_
    obtain ⟨text, rfl⟩ := hutf8 t ht p hp
    rw [Path.text?_ofString]
    rfl
  -- A document that is not there stands for the defaults, and so does a ledger without entries.
  have hempty : files.settings (record path) disk = {} := by
    rw [Storage.settings, Storage.contents, hfresh]
    rfl
  obtain ⟨hhistory, hvalue⟩ := value_run hlaw hwrites service turns hwritable
    (s := { service := start, files := disk }) hsound (fun slot => by rw [hempty]; rfl)
  have happlied : applied = files.settings (record path) r.files := by
    show ((Keeper.applied (Device.ofParts service files) ⟨path, engine⟩).run _).1 = _
    rw [Keeper.run_applied]
    rfl
  rw [← happlied] at hvalue
  have htold (g : EngineSetting) : g.slot.value applied = g.slot.value (ledger g) := by
    rw [hvalue, entry_slot]
  refine ⟨hhistory, EngineSetting.eq_of_told htold fun slot htracked => ?_, fun next slot c => ?_,
    fun g next => ?_⟩
  · rw [hvalue slot, entry_of_not_tracked htracked]
  · rw [exists_mem_pending_command_iff]
    refine exists_congr fun g => and_congr_right fun _ => and_congr_right fun _ => ?_
    rw [← EngineSetting.same_slot_eq_false_iff, ← EngineSetting.same_slot_eq_false_iff,
      Slot.same_congr (htold g) rfl]
  · rw [EngineSetting.command?_slot, EngineSetting.command?_eq_none_iff]

/-- Stealth is declared offline and then over a connection: it counts as acknowledged after that,
and a later save that takes it back has its command pending. -/
theorem applied_run_of_stealth :
    let r := run (Simulation.Engine.service .socket) FileTree.storage Keeper.sampleDocument
      { service := { tier := some .kernel }, files := {} }
      [⟨{ enableStealth := true }, none, none⟩,
        ⟨{ enableStealth := true }, some ⟨.kernel, 1, 12, none⟩, some ⟨.kernel, 1, 12, none⟩⟩]
    let applied := ((Keeper.applied (Device.ofParts (Simulation.Engine.service .socket)
      FileTree.storage) ⟨Keeper.sampleDocument, none⟩).run
        { device := (r.service, r.files), connection := none }).1
    applied = { enableStealth := true } ∧
      ∃ e ∈ pending applied {}, e.slot = .toggle .stealth ∧ e.command = .setStealth false := by
  intro r applied
  obtain ⟨_, happlied, hpending, _⟩ := applied_run Keeper.keeps_sample
    (fun p hp bytes s hopen => congrArg Prod.fst (FileTree.replace_of_open (hopen p hp) bytes))
    (Simulation.Engine.service .socket)
    [⟨{ enableStealth := true }, none, none⟩,
      ⟨{ enableStealth := true }, some ⟨.kernel, 1, 12, none⟩, some ⟨.kernel, 1, 12, none⟩⟩]
    (by simp) { tier := some .kernel } Keeper.open_sample (by rfl) none none
  have hstealth : (declaredFor r.history .stealth).enableStealth = true := by decide +kernel
  have hrest : (declaredFor r.history .kernelDebug).enableKernelDebug = false ∧
      (declaredFor r.history .avcSpoof).avcSpoof = false ∧
      (declaredFor r.history .nuke).enableNuke = false ∧
      (declaredFor r.history .mirrorPath).mirrorPath = none := by decide +kernel
  obtain ⟨hdebug, hspoof, hnuke, hmirror⟩ := hrest
  refine ⟨happlied.trans ?_, (hpending {} (.toggle .stealth) (.setStealth false)).2
    ⟨.stealth, rfl, rfl, ?_⟩⟩
  · rw [hstealth, hdebug, hspoof, hnuke, hmirror]
  · show ¬(declaredFor r.history .stealth).enableStealth = false
    rw [hstealth]
    decide

end Ledger

end OverlayControl
