import OverlayControl.Proofs.Settings.Save
import OverlayControl.Simulation.Engine

/-!
# Records that are lost

The note of what the engine has acknowledged may be lost: its second document is then left as it
was. For the switches of the engine this module follows the second document and the engine side by
side through any run of saves, with any of the notes lost.

* `Storage.losing` — a storage that loses the replacements of one file while it is told to;
* `Service.Obeys` — a service that carries out the switches and says so;
* `LostRecord.Track` — the recorded and the actual value of one switch, and what a save does to
  them;
* `LostRecord.track_step`, `LostRecord.track_run` — the documents and the engine follow the track;
* `LostRecord.actual_iff` — a save leaves a switch as it was declared exactly when it does not find
  the declared value on record already, while the engine has the other one.
-/

namespace OverlayControl

/-- A storage that loses every replacement of one file while it is told to. -/
def Storage.losing {φ : Type} (files : Storage φ) (p : Path) : Storage (φ × Bool) where
  readFile q s := files.readFile q s.1
  replaceFile q bytes s :=
    if q = p ∧ s.2 = true then (.error (.other "write lost"), s)
    else
      let (result, inner) := files.replaceFile q bytes s.1
      (result, (inner, s.2))

namespace Storage

variable {φ : Type} {files : Storage φ} {sound : φ → Prop} {own : List Path} {p q : Path}
  {bytes : List UInt8} {s : φ × Bool}

theorem replaceFile_losing_of_lost (h : q = p ∧ s.2 = true) :
    (files.losing p).replaceFile q bytes s = (.error (.other "write lost"), s) := if_pos h

theorem replaceFile_losing_of_kept (h : ¬(q = p ∧ s.2 = true)) :
    (files.losing p).replaceFile q bytes s =
      ((files.replaceFile q bytes s.1).1, ((files.replaceFile q bytes s.1).2, s.2)) := if_neg h

/-- A storage that loses replacements is no less reliable in what it keeps. -/
theorem keeps_losing (h : files.Keeps sound own) (p : Path) :
    (files.losing p).Keeps (fun s => sound s.1) own where
  sound_replaceFile {s q} bytes hsound hq := by
    by_cases hlost : q = p ∧ s.2 = true
    · rw [replaceFile_losing_of_lost hlost]
      exact hsound
    · rw [replaceFile_losing_of_kept hlost]
      exact h.sound_replaceFile bytes hsound hq
  fileName_of_ok {s q bytes} hok := by
    by_cases hlost : q = p ∧ s.2 = true
    · rw [replaceFile_losing_of_lost hlost] at hok
      cases hok
    · rw [replaceFile_losing_of_kept hlost] at hok
      exact h.fileName_of_ok hok
  contents_self {s q bytes} hsound hq hok := by
    by_cases hlost : q = p ∧ s.2 = true
    · rw [replaceFile_losing_of_lost hlost] at hok
      cases hok
    · rw [replaceFile_losing_of_kept hlost] at hok ⊢
      exact h.contents_self hsound hq hok
  contents_other {s q r} bytes hsound hq hr hne := by
    by_cases hlost : q = p ∧ s.2 = true
    · rw [replaceFile_losing_of_lost hlost]
    · rw [replaceFile_losing_of_kept hlost]
      exact h.contents_other bytes hsound hq hr hne
  contents_failed {s q r bytes} hsound hq hr hfailed := by
    by_cases hlost : q = p ∧ s.2 = true
    · rw [replaceFile_losing_of_lost hlost]
    · rw [replaceFile_losing_of_kept hlost] at hfailed ⊢
      exact h.contents_failed hsound hq hr hfailed

end Storage

/-- The switches: the toggles that the engine may turn on and off. -/
def LostRecord.switches : List Toggle := [.kernelDebug, .stealth, .avcSpoof]

/-- A service that carries out the switches and answers with success, while it is ready; `value`
tells what a switch of it is at. -/
structure Service.Obeys {σ : Type} (service : Service σ) (ready : σ → Prop)
    (value : Toggle → σ → Bool) : Prop where
  /-- No command makes the service unready. -/
  ready_call {s : σ} (c : Command) : ready s → ready (service.call c s).2
  /-- The command of a switch succeeds and sets it. -/
  switch {s : σ} {t : Toggle} {on : Bool} {c : Command} : ready s → t ∈ LostRecord.switches →
    t.effect on = some c →
      (∃ r, (service.call c s).1 = .ok r ∧ Verdict.succeeded r c.returnsText = true) ∧
        value t (service.call c s).2 = on
  /-- No other command touches a switch. -/
  other {s : σ} {t : Toggle} {c : Command} : ready s → t ∈ LostRecord.switches →
    c.slot? ≠ some (.toggle t) → value t (service.call c s).2 = value t s

namespace Keeper

variable {σ ψ : Type} {service : Service σ} (files : Storage ψ) {ready : σ → Prop}
  {value : Toggle → σ → Bool} {k : Keeper} {c : Connection}

/-- One effect over a connection of the kernel tier: the switch that it is about goes to its
declared value, on record and in the engine; the other switches stay. -/
theorem run_push_obeys (hobeys : service.Obeys ready value) (hengine : k.engine = some c)
    (htier : c.tier = .kernel) {declared : Settings} (p : Progress) {e : Effect}
    (hcommand : e.slot.command? declared = some e.command) (hgate : e.slot.gate? = some e.gate)
    {w : World (σ × ψ)} (hlive : w.connection.isSome = true) (hready : ready w.device.1) :
    let r := (push (Device.ofParts service files) k declared p e).run w
    r.2.connection.isSome = true ∧ ready r.2.device.1 ∧ r.1.gated = p.gated ∧
      ∀ t ∈ LostRecord.switches,
        t.get r.1.acknowledged =
            (if e.slot = .toggle t then t.get declared else t.get p.acknowledged) ∧
          value t r.2.device.1 =
            if e.slot = .toggle t then t.get declared else value t w.device.1 := by
  obtain ⟨live, hlive'⟩ := Option.isSome_iff_exists.1 hlive
  -- All that the engine knows of needs the kernel tier, and no more.
  have hallows : (k.engine.any fun c => c.allows e.gate) = true := by
    rw [hengine, Option.any_some, Connection.allows_iff_kernel]
    · exact htier
    · exact Slot.gate_mem_ofEngine hgate
  have hslot := Slot.slot?_of_command? hcommand
  rw [run_push_of_allows hallows, run_execute_of_some _ _ hlive']
  refine ⟨hlive, hobeys.ready_call e.command hready, ?_, ?_⟩
  · split <;> rfl
  · intro t ht
    -- The effect is about this switch, or about another slot.
    by_cases htoggle : e.slot = .toggle t
    · rw [if_pos htoggle, if_pos htoggle]
      rw [htoggle] at hcommand
      obtain ⟨⟨r, hr, hsucceeded⟩, hvalue⟩ := hobeys.switch hready ht hcommand
      refine ⟨?_, hvalue⟩
      have hsuccess : (Outcome.ofAnswer e.command
          (service.call e.command w.device.1).1).success = true := by
        rw [hr]
        exact hsucceeded
      show t.get (ite ((Outcome.ofAnswer e.command
        (service.call e.command w.device.1).1).success = true) _ _ : Progress).acknowledged = _
      rw [if_pos hsuccess, htoggle]
      exact Toggle.get_set t _ _
    · rw [if_neg htoggle, if_neg htoggle]
      refine ⟨?_, hobeys.other hready ht fun heq => ?_⟩
      · have hsettle : t.get (e.slot.settle declared p.acknowledged) = t.get p.acknowledged := by
          have hvalue := Slot.value_settle (.toggle t) e.slot declared p.acknowledged
          rw [if_neg (Ne.symm htoggle)] at hvalue
          exact Sum.inl.inj hvalue
        show t.get (ite _ _ _ : Progress).acknowledged = _
        split
        · exact hsettle
        · rfl
      · rw [hslot] at heq
        exact htoggle (Option.some.inj heq)

/-- Pushing effects over a connection of the kernel tier: the switches that they are about go to
their declared values, on record and in the engine. -/
theorem run_pushAll_obeys (hobeys : service.Obeys ready value) (hengine : k.engine = some c)
    (htier : c.tier = .kernel) {declared : Settings} {es : List Effect}
    (heffects : ∀ e ∈ es, e.slot.command? declared = some e.command ∧ e.slot.gate? = some e.gate)
    (p : Progress) {w : World (σ × ψ)} (hlive : w.connection.isSome = true)
    (hready : ready w.device.1) :
    let r := (pushAll (Device.ofParts service files) k declared es p).run w
    ready r.2.device.1 ∧ r.1.gated = p.gated ∧
      ∀ t ∈ LostRecord.switches,
        t.get r.1.acknowledged =
            (if .toggle t ∈ es.map Effect.slot then t.get declared else t.get p.acknowledged) ∧
          value t r.2.device.1 =
            if .toggle t ∈ es.map Effect.slot then t.get declared else value t w.device.1 := by
  -- By induction on the effects; a switch that had two would be set to the same value twice.
  induction es generalizing p w with
  | nil => exact ⟨hready, rfl, fun _ _ => ⟨rfl, rfl⟩⟩
  | cons e es ih =>
    obtain ⟨hcommand, hgate⟩ := heffects e (List.mem_cons_self ..)
    obtain ⟨hlive', hready', hgated, hswitches⟩ :=
      run_push_obeys files hobeys hengine htier p hcommand hgate hlive hready
    obtain ⟨hready'', hgated', hswitches'⟩ :=
      ih (fun f hf => heffects f (List.mem_cons_of_mem _ hf))
        ((push (Device.ofParts service files) k declared p e).run w).1 hlive' hready'
    refine ⟨hready'', hgated'.trans hgated, fun t ht => ?_⟩
    obtain ⟨hget, hvalue⟩ := hswitches t ht
    obtain ⟨hget', hvalue'⟩ := hswitches' t ht
    rw [hget] at hget'
    rw [hvalue] at hvalue'
    rw [run_pushAll_cons, hget', hvalue', List.map_cons]
    by_cases hmem : Slot.toggle t ∈ es.map Effect.slot
    · simp [hmem]
    · by_cases hhead : e.slot = .toggle t
      · simp [hhead]
      · simp [hmem, hhead, Ne.symm hhead]

end Keeper

namespace LostRecord

/-- One save: what is declared, and whether the note of what was acknowledged is lost. -/
structure Turn where
  /-- The settings that are saved. -/
  declared : Settings
  /-- Whether the second document cannot be written during the save. -/
  lost : Bool

/-- What a switch is at. -/
structure Track where
  /-- The value on record. -/
  recorded : Bool := false
  /-- The value in the engine. -/
  actual : Bool := false
  deriving DecidableEq

/-- A save: the engine is told unless the declared value is on record already. -/
def Track.step (s : Track) (declared lost : Bool) : Track where
  recorded := if lost then s.recorded else declared
  actual := if s.recorded = declared then s.actual else declared

/-- What a switch is at after some saves, having been off on record and in the engine. -/
def track (turns : List Turn) (t : Toggle) : Track :=
  turns.foldl (fun s u => s.step (t.get u.declared) u.lost) {}

variable {σ φ : Type} (service : Service σ) (files : Storage φ) (path : Path) (c : Connection)

/-- The document of the acknowledged settings. -/
abbrev record : Path := path.withExtension "applied.toml"

/-- One save over a live connection: its result, and the service and the files after it. -/
def save (s : σ × φ) (u : Turn) : Except KeepError SaveReport × (σ × φ) :=
  let r := (Keeper.save (Device.ofParts service (files.losing (record path))) ⟨path, some c⟩
    u.declared).run { device := (s.1, (s.2, u.lost)), connection := some c }
  (r.1, (r.2.device.1, r.2.device.2.1))

/-- The service and the files after some saves. -/
def run (s : σ × φ) (turns : List Turn) : σ × φ :=
  turns.foldl (fun s u => (save service files path c s u).2) s

/-- What a switch is at, as the documents and the service have it. -/
def observed (value : Toggle → σ → Bool) (s : σ × φ) (t : Toggle) : Track where
  recorded := t.get (files.settings (record path) s.2)
  actual := value t s.1

variable {service files path c} {sound : φ → Prop} {ready : σ → Prop} {value : Toggle → σ → Bool}

theorem toggle_mem_pending_iff {a d : Settings} {t : Toggle} (ht : t ∈ switches) :
    Slot.toggle t ∈ (pending a d).map Effect.slot ↔ t.get a ≠ t.get d := by
  have hcommand : ((Slot.toggle t).command? d).isSome = true := by
    simp only [switches, List.mem_cons, List.not_mem_nil, or_false] at ht
    rcases ht with rfl | rfl | rfl <;> rfl
  have hpending : (∃ e ∈ pending a d, e.slot = .toggle t) ↔
      ((Slot.toggle t).command? d).isSome = true ∧ (Slot.toggle t).same a d = false :=
    exists_mem_pending_iff
  rw [List.mem_map, hpending]
  simp only [hcommand, true_and, Slot.same, beq_eq_false_iff_ne]

theorem get_settled {a d : Settings} {t : Toggle} (ht : t ∈ switches) :
    t.get (settled a d) = t.get a := by
  have hvalue := Slot.value_settled (.toggle t) a d
  have hcommand : ((Slot.toggle t).command? d).isNone = false := by
    simp only [switches, List.mem_cons, List.not_mem_nil, or_false] at ht
    rcases ht with rfl | rfl | rfl <;> rfl
  rw [hcommand, Bool.and_false] at hvalue
  exact Sum.inl.inj hvalue

/-- Pushing the effects of a save brings every switch to its declared value on record, and in the
engine unless that value is on record already. -/
theorem pushing_obeys {ψ : Type} (files : Storage ψ) {k : Keeper}
    (hobeys : service.Obeys ready value) (hengine : k.engine = some c) (htier : c.tier = .kernel)
    (declared : Settings) {w : World (σ × ψ)} (hlive : w.connection.isSome = true)
    (hready : ready w.device.1) :
    let before := files.settings k.appliedPath w.device.2
    let r := Keeper.pushing (Device.ofParts service files) k declared w
    ready r.2.device.1 ∧ r.1.gated = [] ∧
      ∀ t ∈ switches, t.get r.1.acknowledged = t.get declared ∧
        value t r.2.device.1 =
          if t.get before = t.get declared then value t w.device.1 else t.get declared := by
  intro before r
  have heffects : ∀ e ∈ pending before declared,
      e.slot.command? declared = some e.command ∧ e.slot.gate? = some e.gate := fun e he =>
    ⟨(mem_effects_iff.1 he).1, (mem_effects_iff.1 he).2.1⟩
  obtain ⟨hready', hgated, hswitches⟩ :=
    Keeper.run_pushAll_obeys files hobeys hengine htier heffects
      { acknowledged := settled before declared } hlive hready
  refine ⟨hready', hgated, fun t ht => ?_⟩
  obtain ⟨hget, hvalue⟩ := hswitches t ht
  -- A switch has a command either way, so it is pending exactly when it differs.
  rw [get_settled ht] at hget
  simp only [toggle_mem_pending_iff ht] at hget hvalue
  by_cases hsame : t.get before = t.get declared
  · rw [if_neg (not_not_intro hsame)] at hget hvalue
    rw [if_pos hsame]
    exact ⟨hget.trans hsame, hvalue⟩
  · rw [if_pos hsame] at hget hvalue
    rw [if_neg hsame]
    exact ⟨hget, hvalue⟩

/-- One save moves every switch one step along its track. -/
theorem track_step (hlaw : files.Keeps sound [path, record path])
    (hwrites : ∀ p ∈ [path, record path], ∀ bytes s, sound s →
      (files.replaceFile p bytes s).1 = .ok ())
    (hobeys : service.Obeys ready value) (htier : c.tier = .kernel) {s : σ × φ} {u : Turn}
    (hutf8 : u.declared.toToml.isSome = true) (hready : ready s.1) (hsound : sound s.2) :
    let r := save service files path c s u
    (∃ report, r.1 = .ok report) ∧ ready r.2.1 ∧ sound r.2.2 ∧
      ∀ t ∈ switches, observed files path value r.2 t =
        (observed files path value s t).step (t.get u.declared) u.lost := by
  obtain ⟨declared, lost⟩ := u
  obtain ⟨text, htext⟩ := Option.isSome_iff_exists.1 hutf8
  have hpath : path ∈ [path, record path] := List.mem_cons_self ..
  have hrecord : record path ∈ [path, record path] := List.mem_cons_of_mem _ (List.mem_cons_self ..)
  have hok := hwrites path hpath (Utf8.encode text) s.2 hsound
  -- The first document is not the one whose replacements are lost.
  have hkept : (files.losing (record path)).replaceFile path (Utf8.encode text) (s.2, lost) =
      (.ok (), ((files.replaceFile path (Utf8.encode text) s.2).2, lost)) := by
    have hne : path ≠ record path :=
      Ne.symm (Keeper.appliedPath_ne_path (k := ⟨path, some c⟩) hlaw hok)
    rw [Storage.replaceFile_losing_of_kept fun h => hne h.1, hok]
  obtain ⟨hsound', hbefore, hresult, hservice, hsound'', hrecorded⟩ := Keeper.run_save_parts
    service (k := ⟨path, some c⟩)
    (w := { device := (s.1, (s.2, lost)), connection := some c })
    (Storage.keeps_losing hlaw (record path)) hpath hrecord htext hsound (by rw [hkept])
  simp only [hkept] at hsound' hbefore hresult hservice hrecorded
  obtain ⟨hready', hgated, hswitches⟩ :=
    pushing_obeys (files.losing (record path)) (k := ⟨path, some c⟩) hobeys rfl htier
      declared (w := World.mk (s.1, ((files.replaceFile path (Utf8.encode text) s.2).2, lost))
        (some c) []) rfl hready
  refine ⟨?_, ?_, hsound'', fun t ht => ?_⟩
  · rw [Keeper.verdict, hgated] at hresult
    exact ⟨_, hresult⟩
  · exact hservice ▸ hready'
  · obtain ⟨hget, hvalue⟩ := hswitches t ht
    rw [hbefore] at hvalue
    refine congr (congrArg Track.mk ?_) ((congrArg (value t) hservice).trans hvalue)
    rcases hrecorded with ⟨hsame, hunwritten⟩ | ⟨bytes, hnew, hold⟩
    · -- Nothing is written; what would be lost is on record already.
      refine (congrArg t.get hunwritten).trans ?_
      have hagree := eq_of_beq (Slot.same_of_settings_same hsame (.toggle t))
      rw [hget] at hagree
      show _ = if lost then _ else t.get declared
      rw [hagree]
      exact (ite_self _).symm
    · -- Otherwise the note is written, or lost as the turn has it.
      cases lost with
      | true =>
        refine congrArg t.get (hold ?_)
        intro hok'
        change ((files.losing (record path)).replaceFile (record path) bytes _).1 = .ok () at hok'
        rw [Storage.replaceFile_losing_of_lost ⟨rfl, rfl⟩] at hok'
        cases hok'
      | false =>
        refine (congrArg t.get (hnew ?_)).trans hget
        show ((files.losing (record path)).replaceFile (record path) bytes _).1 = .ok ()
        rw [Storage.replaceFile_losing_of_kept fun h => Bool.false_ne_true h.2]
        exact hwrites _ hrecord bytes _ hsound'

/-- Any run moves every switch along its track. -/
theorem track_run (hlaw : files.Keeps sound [path, record path])
    (hwrites : ∀ p ∈ [path, record path], ∀ bytes s, sound s →
      (files.replaceFile p bytes s).1 = .ok ())
    (hobeys : service.Obeys ready value) (htier : c.tier = .kernel) (turns : List Turn)
    (hutf8 : ∀ u ∈ turns, u.declared.toToml.isSome = true) {s : σ × φ} (hready : ready s.1)
    (hsound : sound s.2) :
    let r := run service files path c s turns
    ready r.1 ∧ sound r.2 ∧ ∀ t ∈ switches,
      observed files path value r t = turns.foldl
        (fun s u => s.step (t.get u.declared) u.lost) (observed files path value s t) := by
  -- Each save is one step of every track.
  induction turns generalizing s with
  | nil => exact ⟨hready, hsound, fun _ _ => rfl⟩
  | cons u turns ih =>
    obtain ⟨_, hready', hsound', hstep⟩ := track_step hlaw hwrites hobeys htier
      (hutf8 u (List.mem_cons_self ..)) hready hsound
    obtain ⟨hready'', hsound'', hrun⟩ :=
      ih (fun v hv => hutf8 v (List.mem_cons_of_mem _ hv)) hready' hsound'
    refine ⟨hready'', hsound'', fun t ht => ?_⟩
    rw [List.foldl_cons, ← hstep t ht]
    exact hrun t ht

/-- When no note is lost, the record of a switch is what the engine has. -/
theorem recorded_eq_actual_of_kept {turns : List Turn} (h : ∀ u ∈ turns, u.lost = false)
    (t : Toggle) : (track turns t).recorded = (track turns t).actual := by
  unfold track
  -- The invariant of the run: as long as every note is kept, record and engine agree.
  have hfold (s : Track) (hs : s.recorded = s.actual) :
      (turns.foldl (fun s u => s.step (t.get u.declared) u.lost) s).recorded =
        (turns.foldl (fun s u => s.step (t.get u.declared) u.lost) s).actual := by
    induction turns generalizing s with
    | nil => exact hs
    | cons u turns ih =>
      refine ih (fun v hv => h v (List.mem_cons_of_mem _ hv)) _ ?_
      simp only [Track.step, h u (List.mem_cons_self ..), Bool.false_eq_true, if_false]
      by_cases hsame : s.recorded = t.get u.declared
      · rw [if_pos hsame, ← hs, hsame]
      · rw [if_neg hsame]
  exact hfold {} rfl

/-- After any run of saves over connections of the kernel tier, with any of the notes lost, one more
save succeeds, and it leaves the switches of the engine as they were declared exactly when none of
them has its declared value on record while the engine has the other one. Such a switch is not told
to the engine. -/
theorem actual_iff (hlaw : files.Keeps sound [path, record path])
    (hwrites : ∀ p ∈ [path, record path], ∀ bytes s, sound s →
      (files.replaceFile p bytes s).1 = .ok ())
    (hobeys : service.Obeys ready value) (htier : c.tier = .kernel) (turns : List Turn)
    (hutf8 : ∀ u ∈ turns, u.declared.toToml.isSome = true) (last : Turn)
    (hlast : last.declared.toToml.isSome = true) (start : σ) (hready : ready start)
    (hoff : ∀ t ∈ switches, value t start = false) {disk : φ} (hsound : sound disk)
    (hfresh : files.readFile (record path) disk = .error .notFound) :
    let r := save service files path c (run service files path c (start, disk) turns) last
    (∃ report, r.1 = .ok report) ∧
      ((∀ t ∈ switches, value t r.2.1 = t.get last.declared) ↔
        ∀ t ∈ switches, (track turns t).recorded = t.get last.declared →
          (track turns t).actual = t.get last.declared) := by
  intro r
  have hempty : files.settings (record path) disk = {} := by
    rw [Storage.settings, Storage.contents, hfresh]
    rfl
  obtain ⟨hready', hsound', hrun⟩ :=
    track_run hlaw hwrites hobeys htier turns hutf8 (s := (start, disk)) hready hsound
  obtain ⟨hresult, _, _, hstep⟩ := track_step hlaw hwrites hobeys htier hlast hready' hsound'
  -- The track of the run up to the last save, and its last step by hand.
  have hactual (t : Toggle) (ht : t ∈ switches) : value t r.2.1 =
      if (track turns t).recorded = t.get last.declared then (track turns t).actual
      else t.get last.declared := by
    have hstart : observed files path value (start, disk) t = {} := by
      rw [observed, hempty, hoff t ht]
      cases t <;> rfl
    have hsave := hstep t ht
    rw [hrun t ht, hstart] at hsave
    exact congrArg Track.actual hsave
  refine ⟨hresult, ?_, ?_⟩
  · intro hdeclared t ht hrecorded
    rw [← hdeclared t ht, hactual t ht, if_pos hrecorded]
  · intro hcondition t ht
    rw [hactual t ht]
    by_cases hrecorded : (track turns t).recorded = t.get last.declared
    · rw [if_pos hrecorded, hcondition t ht hrecorded]
    · rw [if_neg hrecorded]

/-- What a switch of the engine in memory is at. -/
def switchOf : Toggle → Simulation.Engine → Bool
  | .kernelDebug, e => e.debug
  | .stealth, e => e.stealth
  | .avcSpoof, e => e.avcSpoof
  | _, _ => false

/-- The engine in memory carries out the switches, when it can be reached. -/
theorem engine_obeys (transport : Transport) :
    (Simulation.Engine.service transport).Obeys (fun e => e.tier.isSome = true) switchOf := by
  refine ⟨?_, ?_, ?_⟩
  · intro e c hready
    obtain ⟨tier, htier⟩ := Option.isSome_iff_exists.1 hready
    rw [Simulation.Engine.call_of_reached htier]
    -- Only the commands on single rules branch on the state of the engine.
    cases c with
    | addRule kind source target flags =>
      simp only [Simulation.Engine.reply, Simulation.Engine.addRule]
      split <;> exact hready
    | deleteRule id =>
      simp only [Simulation.Engine.reply, Simulation.Engine.deleteRule]
      split <;> exact hready
    | _ => exact hready
  · intro e t on c hready ht hcommand
    obtain ⟨tier, htier⟩ := Option.isSome_iff_exists.1 hready
    rw [Simulation.Engine.call_of_reached htier]
    simp only [switches, List.mem_cons, List.not_mem_nil, or_false] at ht
    rcases ht with rfl | rfl | rfl
    all_goals
      cases hcommand
      exact ⟨⟨_, rfl, rfl⟩, rfl⟩
  · intro e t c hready ht hother
    obtain ⟨tier, htier⟩ := Option.isSome_iff_exists.1 hready
    rw [Simulation.Engine.call_of_reached htier]
    cases c with
    | addRule kind source target flags =>
      simp only [Simulation.Engine.reply, Simulation.Engine.addRule]
      split <;> cases t <;> rfl
    | deleteRule id =>
      simp only [Simulation.Engine.reply, Simulation.Engine.deleteRule]
      split <;> cases t <;> rfl
    | setStealth on => cases t <;> first | rfl | exact absurd rfl hother
    | setDebug on => cases t <;> first | rfl | exact absurd rfl hother
    | setAvcSpoof on => cases t <;> first | rfl | exact absurd rfl hother
    | _ => cases t <;> rfl

/-- Stealth is turned on, the note of it is lost, and stealth is declared off again: that save
succeeds without a word to the engine, whose stealth stays on. -/
theorem actual_iff_of_lost_note :
    let c : Connection := ⟨.kernel, 1, 12, none⟩
    let r := save (Simulation.Engine.service .socket) FileTree.storage Keeper.sampleDocument c
      (run (Simulation.Engine.service .socket) FileTree.storage Keeper.sampleDocument c
        ({ tier := some .kernel }, {}) [⟨{ enableStealth := true }, true⟩]) ⟨{}, false⟩
    r.1.toOption = some {} ∧ ¬ ∀ t ∈ switches, switchOf t r.2.1 = t.get {} := by
  intro c r
  have hiff := (actual_iff Keeper.keeps_sample
    (fun p hp bytes s hopen => congrArg Prod.fst (FileTree.replace_of_open (hopen p hp) bytes))
    (engine_obeys .socket) (c := c) rfl [⟨{ enableStealth := true }, true⟩] (by decide +kernel)
    ⟨{}, false⟩ (by decide +kernel) { tier := some .kernel } rfl (by decide)
    Keeper.open_sample (by rfl)).2
  refine ⟨by decide +kernel, fun hdeclared => ?_⟩
  have hstealth := hiff.1 hdeclared .stealth (by decide)
  exact absurd (hstealth (by decide)) (by decide)

end LostRecord

end OverlayControl
