import OverlayControl.Proofs.Privilege
import OverlayControl.Settings.Keeper

/-!
# The settings that the engine knows of

A slot names one setting. This module reads a slot from settings (`Slot.value`), tells which command
makes its declared value (`Slot.command?`), and says what a save does slot by slot:

* `Slot.value_settled` — a declared value without a command counts as acknowledged at once;
* `mem_effects_iff`, `exists_mem_pending_iff` — an effect is pending for a slot exactly when its
  declared value differs from the acknowledged one and has a command;
* `Slot.value_foldl_settle` — which slots a number of settled effects has changed.
-/

namespace OverlayControl

namespace Slot

/-- The value of a slot. -/
def value : Slot → Settings → Bool ⊕ Option Path
  | .toggle t, s => .inl (t.get s)
  | .mirrorPath, s => .inr s.mirrorPath

/-- Whether settings agree on a slot; mirror paths agree when their components do. -/
def same : Slot → Settings → Settings → Bool
  | .toggle t, s, r => t.get s == t.get r
  | .mirrorPath, s, r => Path.sameOption s.mirrorPath r.mirrorPath

/-- The command that makes the declared value of a slot, if there is one. -/
def command? : Slot → Settings → Option Command
  | .toggle t, d => t.effect (t.get d)
  | .mirrorPath, d => d.mirrorPath.map .setMirrorPath

/-- The capability that a change of a slot needs, for a slot that the engine knows of. -/
def gate? : Slot → Option Capability
  | .toggle t => t.gate
  | .mirrorPath => some .overlayEngine

/-- Whether the engine knows of a slot. -/
def tracked (slot : Slot) : Bool := slot.gate?.isSome

theorem value_ext {s r : Settings} (h : ∀ slot : Slot, slot.value s = slot.value r) : s = r := by
  have htoggle (t : Toggle) : t.get s = t.get r := Sum.inl.inj (h (.toggle t))
  have hmirror : s.mirrorPath = r.mirrorPath := Sum.inr.inj (h .mirrorPath)
  -- Settings are a flat record, so they are compared field by field.
  have hv := htoggle .verbose
  have hf := htoggle .forceExt4
  have hu := htoggle .disableUmount
  have hk := htoggle .kernelDebug
  have hs := htoggle .stealth
  have ha := htoggle .avcSpoof
  have hn := htoggle .nuke
  have hi := htoggle .ignoreProtocolMismatch
  have hb := htoggle .builtinMount
  obtain ⟨_, _, _, _, _, _, _, _, _, _⟩ := s
  obtain ⟨_, _, _, _, _, _, _, _, _, _⟩ := r
  simp only [Toggle.get] at hv hf hu hk hs ha hn hi hb
  simp only at hmirror
  rw [hv, hf, hu, hk, hs, ha, hn, hi, hb, hmirror]

/-- Only the values of a slot decide whether settings agree on it. -/
theorem same_congr {slot : Slot} {s s' r r' : Settings} (hs : slot.value s = slot.value s')
    (hr : slot.value r = slot.value r') : slot.same s r = slot.same s' r' := by
  cases slot with
  | toggle t =>
    have hs : t.get s = t.get s' := Sum.inl.inj hs
    have hr : t.get r = t.get r' := Sum.inl.inj hr
    rw [same, same, hs, hr]
  | mirrorPath =>
    have hs : s.mirrorPath = s'.mirrorPath := Sum.inr.inj hs
    have hr : r.mirrorPath = r'.mirrorPath := Sum.inr.inj hr
    rw [same, same, hs, hr]

theorem same_self (slot : Slot) (s : Settings) : slot.same s s = true := by
  cases slot with
  | toggle t => simp [same]
  | mirrorPath => simp [same, Path.sameOption_eq_true_iff]

theorem same_comm (slot : Slot) (s r : Settings) : slot.same s r = slot.same r s := by
  cases slot with
  | toggle t => exact Bool.beq_comm
  | mirrorPath =>
    rw [Bool.eq_iff_iff]
    simp only [same, Path.sameOption_eq_true_iff]
    exact eq_comm

theorem same_of_settings_same {s r : Settings} (h : s.same r = true) (slot : Slot) :
    slot.same s r = true := by
  unfold Settings.same at h
  rw [Bool.and_eq_true, List.all_eq_true] at h
  cases slot with
  | toggle t => exact h.1 t (by cases t <;> decide)
  | mirrorPath => exact h.2

/-- Settling a slot gives it the declared value and leaves the other slots alone. -/
theorem value_settle (slot other : Slot) (d a : Settings) :
    slot.value (other.settle d a) = if slot = other then slot.value d else slot.value a := by
  cases other with
  | toggle u =>
    cases slot with
    | toggle t =>
      by_cases htu : t = u
      · subst htu
        simp [value, settle]
      · rw [if_neg fun heq => htu (Slot.toggle.inj heq)]
        simp only [value, settle]
        rw [Toggle.get_set_of_ne htu]
    | mirrorPath => simp [value, settle]
  | mirrorPath =>
    cases slot with
    | toggle t => cases t <;> rfl
    | mirrorPath => rfl

/-- Settling several slots gives those the declared values and leaves the others alone. -/
theorem value_foldl_settle {α : Type} (slot : Slot) (f : α → Slot) (d : Settings) (xs : List α)
    (a : Settings) :
    slot.value (xs.foldl (fun a x => (f x).settle d a) a) =
      if slot ∈ xs.map f then slot.value d else slot.value a := by
  induction xs generalizing a with
  | nil => rfl
  | cons x xs ih =>
    rw [List.foldl_cons, ih, value_settle, List.map_cons]
    -- Whether it is settled now or later on, a slot ends at its declared value.
    by_cases hmem : slot ∈ xs.map f
    · rw [if_pos hmem, if_pos (List.mem_cons_of_mem _ hmem)]
    · by_cases hx : slot = f x
      · simp [hx]
      · simp [hmem, hx]

/-- At a value that has no command, settings that agree are equal. -/
theorem value_eq_of_same {slot : Slot} {s d : Settings} (hcommand : slot.command? d = none)
    (hsame : slot.same d s = true) : slot.value d = slot.value s := by
  cases slot with
  | toggle t => exact congrArg Sum.inl (eq_of_beq hsame)
  | mirrorPath =>
    -- Only no mirror path at all has no command, and only itself agrees with that.
    have hd : d.mirrorPath = none := Option.map_eq_none_iff.1 hcommand
    have hs : s.mirrorPath = none := by
      rw [same, hd, Path.sameOption_eq_true_iff] at hsame
      exact Option.map_eq_none_iff.1 hsame.symm
    rw [value, value, hd, hs]

theorem command?_isSome_tracked {slot : Slot} {d : Settings}
    (h : (slot.command? d).isSome = true) : slot.tracked = true := by
  cases slot with
  | toggle t => cases t <;> first | rfl | cases h
  | mirrorPath => rfl

theorem gate_mem_ofEngine {slot : Slot} {gate : Capability} (h : slot.gate? = some gate) :
    gate ∈ Capability.ofEngine := by
  cases slot with
  | toggle t => cases t <;> cases h <;> decide
  | mirrorPath =>
    cases h
    decide

/-- A slot that the engine knows of, declared at a value without a command, counts as acknowledged
at that value; the other slots keep the value that was acknowledged. -/
theorem value_settled (slot : Slot) (a d : Settings) :
    slot.value (settled a d) =
      if slot.tracked && (slot.command? d).isNone then slot.value d else slot.value a := by
  unfold settled
  cases slot with
  | toggle t =>
    -- Clearing the mirror path comes last and touches no toggle.
    have hmirror (s : Settings) :
        (toggle t).value (if d.mirrorPath.isNone then Slot.mirrorPath.settle d s else s) =
          (toggle t).value s := by
      split
      · rw [value_settle, if_neg Slot.noConfusion]
      · rfl
    rw [hmirror, value_foldl_settle]
    have hall : t ∈ Toggle.all := by cases t <;> decide
    by_cases hquiet : (t.gate.isSome && (t.effect (t.get d)).isNone) = true
    · rw [if_pos, if_pos]
      · exact hquiet
      · exact List.mem_map.2 ⟨t, List.mem_filter.2 ⟨hall, hquiet⟩, rfl⟩
    · rw [if_neg, if_neg]
      · exact hquiet
      · intro hmem
        obtain ⟨u, hu, heq⟩ := List.mem_map.1 hmem
        obtain rfl := Slot.toggle.inj heq
        exact hquiet (List.mem_filter.1 hu).2
  | mirrorPath =>
    cases hd : d.mirrorPath with
    | none => simp [tracked, gate?, command?, hd, value_settle]
    | some p =>
      simp only [Option.isNone_some, Bool.false_eq_true, if_false, command?, hd, Option.map_some,
        Bool.and_false]
      rw [value_foldl_settle, if_neg]
      intro hmem
      obtain ⟨u, _, heq⟩ := List.mem_map.1 hmem
      cases heq

end Slot

/-- The slot whose value a command makes. -/
def Command.slot? : Command → Option Slot
  | .setDebug _ => some (.toggle .kernelDebug)
  | .setStealth _ => some (.toggle .stealth)
  | .setAvcSpoof _ => some (.toggle .avcSpoof)
  | .nukeExt4Sysfs => some (.toggle .nuke)
  | .setMirrorPath _ => some .mirrorPath
  | _ => none

theorem Toggle.slot?_of_effect {t : Toggle} {on : Bool} {c : Command}
    (h : t.effect on = some c) : c.slot? = some (.toggle t) := by
  cases t <;> cases on <;> cases h <;> rfl

theorem Slot.slot?_of_command? {slot : Slot} {d : Settings} {c : Command}
    (h : slot.command? d = some c) : c.slot? = some slot := by
  cases slot with
  | toggle t => exact Toggle.slot?_of_effect h
  | mirrorPath =>
    obtain ⟨p, _, rfl⟩ := Option.map_eq_some_iff.1 h
    rfl

/-- The changes that a save has to tell the engine, from what it has acknowledged. -/
def pending (acknowledged declared : Settings) : List Effect :=
  effects (settled acknowledged declared) declared

theorem mem_toggleEffects_iff {old new : Settings} {e : Effect} :
    e ∈ Toggle.all.filterMap (toggleEffect? old new) ↔
      ∃ t, e.slot = .toggle t ∧ t.effect (t.get new) = some e.command ∧ t.gate = some e.gate ∧
        t.get old ≠ t.get new := by
  rw [List.mem_filterMap]
  constructor
  · rintro ⟨t, _, ht⟩
    unfold toggleEffect? at ht
    split at ht
    · cases ht
    · next hne =>
      split at ht
      · next command gate hcommand hgate =>
        cases ht
        exact ⟨t, rfl, hcommand, hgate, hne⟩
      · cases ht
  · rintro ⟨t, hslot, hcommand, hgate, hne⟩
    refine ⟨t, by cases t <;> decide, ?_⟩
    obtain ⟨slot, gate, command⟩ := e
    obtain rfl : slot = .toggle t := hslot
    unfold toggleEffect?
    rw [if_neg hne, hcommand, hgate]

theorem mem_mirrorEffect_iff {old new : Settings} {e : Effect} :
    e ∈ (mirrorEffect? old new).toList ↔
      e.slot = .mirrorPath ∧ new.mirrorPath.map Command.setMirrorPath = some e.command ∧
        e.gate = .overlayEngine ∧ Path.sameOption old.mirrorPath new.mirrorPath = false := by
  obtain ⟨slot, gate, command⟩ := e
  rw [Option.mem_toList]
  unfold mirrorEffect?
  cases new.mirrorPath with
  | none => simp
  | some p =>
    -- The same path declared once more is no change, however it is spelled.
    by_cases hsame : Path.sameOption old.mirrorPath (some p) = true
    · simp [hsame]
    · simp only [hsame, if_false, Bool.false_eq_true, Option.some.injEq, Effect.mk.injEq,
        Option.map_some, and_true]
      constructor
      · rintro ⟨rfl, rfl, rfl⟩
        exact ⟨rfl, rfl, rfl⟩
      · rintro ⟨rfl, rfl, rfl⟩
        exact ⟨rfl, rfl, rfl⟩

/-- An effect is told exactly when its slot changes and its command makes the declared value. -/
theorem mem_effects_iff {old new : Settings} {e : Effect} :
    e ∈ effects old new ↔
      e.slot.command? new = some e.command ∧ e.slot.gate? = some e.gate ∧
        e.slot.same old new = false := by
  rw [effects, List.mem_append, mem_toggleEffects_iff, mem_mirrorEffect_iff]
  obtain ⟨slot, gate, command⟩ := e
  -- The toggles and the mirror path make up the two halves of the list; a slot is in one of them.
  cases slot with
  | toggle t =>
    constructor
    · rintro (⟨u, hslot, hcommand, hgate, hne⟩ | ⟨hslot, _⟩)
      · obtain rfl : t = u := Slot.toggle.inj hslot
        exact ⟨hcommand, hgate, by simpa [Slot.same] using hne⟩
      · cases hslot
    · rintro ⟨hcommand, hgate, hsame⟩
      exact .inl ⟨t, rfl, hcommand, hgate, by simpa [Slot.same] using hsame⟩
  | mirrorPath =>
    constructor
    · rintro (⟨u, hslot, _⟩ | ⟨_, hcommand, hgate, hsame⟩)
      · cases hslot
      · exact ⟨hcommand, congrArg some hgate.symm, hsame⟩
    · rintro ⟨hcommand, hgate, hsame⟩
      exact .inr ⟨rfl, hcommand, (Option.some.inj hgate).symm, hsame⟩

/-- A save has an effect pending for a slot exactly when the declared value has a command and
differs from the acknowledged one. -/
theorem exists_mem_pending_iff {a d : Settings} {slot : Slot} :
    (∃ e ∈ pending a d, e.slot = slot) ↔
      (slot.command? d).isSome = true ∧ slot.same a d = false := by
  -- What counts as acknowledged at once has no command, so it is out of the way here.
  have hvalue (hcommand : (slot.command? d).isSome = true) :
      slot.value (settled a d) = slot.value a := by
    rw [Slot.value_settled, Option.isNone_eq_false_iff.2 hcommand, Bool.and_false]
    rfl
  constructor
  · rintro ⟨e, he, rfl⟩
    obtain ⟨hcommand, _, hsame⟩ := mem_effects_iff.1 he
    have hsome := Option.isSome_of_eq_some hcommand
    rw [Slot.same_congr (hvalue hsome) rfl] at hsame
    exact ⟨hsome, hsame⟩
  · rintro ⟨hsome, hsame⟩
    obtain ⟨command, hcommand⟩ := Option.isSome_iff_exists.1 hsome
    obtain ⟨gate, hgate⟩ := Option.isSome_iff_exists.1 (Slot.command?_isSome_tracked hsome)
    refine ⟨⟨slot, gate, command⟩, mem_effects_iff.2 ⟨hcommand, hgate, ?_⟩, rfl⟩
    rw [Slot.same_congr (hvalue hsome) rfl]
    exact hsame

/-- No slot has two effects. -/
theorem nodup_effects_slot (old new : Settings) : ((effects old new).map Effect.slot).Nodup := by
  -- The toggles among the effects are some of all toggles, in the order of these.
  have htoggles : (Toggle.all.filterMap (toggleEffect? old new)).map Effect.slot =
      ((Toggle.all.filter fun t => (toggleEffect? old new t).isSome).map Slot.toggle) := by
    induction Toggle.all with
    | nil => rfl
    | cons t ts ih =>
      cases heffect : toggleEffect? old new t with
      | none =>
        rw [List.filterMap_cons_none heffect, ih, List.filter_cons_of_neg (by simp [heffect])]
      | some e =>
        have hslot : e.slot = .toggle t := by
          unfold toggleEffect? at heffect
          split at heffect
          · cases heffect
          · split at heffect <;> cases heffect
            rfl
        rw [List.filterMap_cons_some heffect, List.map_cons, ih, hslot,
          List.filter_cons_of_pos (by simp [heffect]), List.map_cons]
  rw [effects, List.map_append, htoggles, List.nodup_append]
  refine ⟨?_, ?_, ?_⟩
  · have hall : (Toggle.all.map Slot.toggle).Nodup := by decide
    exact hall.sublist (List.filter_sublist.map Slot.toggle)
  · cases mirrorEffect? old new <;> simp
  · intro slot hslot other hother heq
    obtain ⟨t, _, rfl⟩ := List.mem_map.1 hslot
    obtain ⟨e, he, rfl⟩ := List.mem_map.1 hother
    rw [(mem_mirrorEffect_iff.1 he).1] at heq
    cases heq

/-- No command is told twice. -/
theorem nodup_effects_command (old new : Settings) :
    ((effects old new).map Effect.command).Nodup := by
  -- A command tells its slot, and no slot comes twice.
  have hslots : ((effects old new).map Effect.command).map Command.slot? =
      ((effects old new).map Effect.slot).map some := by
    rw [List.map_map, List.map_map]
    refine List.map_congr_left fun e he => ?_
    exact Slot.slot?_of_command? (mem_effects_iff.1 he).1
  have hnodup : (((effects old new).map Effect.slot).map some).Pairwise (· ≠ ·) :=
    List.Pairwise.map some (fun _ _ hne heq => hne (Option.some.inj heq))
      (nodup_effects_slot old new)
  rw [← hslots] at hnodup
  exact hnodup.of_map Command.slot? fun _ _ hne heq => hne (congrArg Command.slot? heq)

end OverlayControl
