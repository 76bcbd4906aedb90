import OverlayControl.Proofs.Path.Spelling
import OverlayControl.Proofs.Settings.Slot

/-!
# What the engine is told

Of all settings the engine is told five, each by a command of its own: four toggles and the mirror
path. Two values cannot be told: wiping is asked for and never taken back, and a mirror path is set
and never cleared.

* `EngineSetting` — the five settings, in the order of the document, with their names;
* `EngineSetting.command?`, `EngineSetting.command?_eq_none_iff` — the command of each value, and
  the values that have none;
* `EngineSetting.Agree` — settings that say the same about one of them;
* `EngineSetting.slot`, `EngineSetting.exists_slot_iff` — where a save finds them, and that it finds
  no others;
* `EngineSetting.eq_of_told` — settings that are made of the five and of defaults;
* `EngineSetting.due` — those that a save has to tell;
* `exists_mem_pending_command_iff` — an effect is pending for these, with their commands.
-/

namespace OverlayControl

/-- A setting that the engine is told. -/
inductive EngineSetting
  /-- Debug output of the kernel. -/
  | kernelDebug
  /-- Hiding the traces of the engine. -/
  | stealth
  /-- Spoofing the log of denials. -/
  | avcSpoof
  /-- Wiping what loop mounts leave in sysfs. -/
  | nuke
  /-- The mirror directory of the engine. -/
  | mirrorPath
  deriving DecidableEq

namespace EngineSetting

/-- The settings, in the order of the document. -/
def all : List EngineSetting := [kernelDebug, stealth, avcSpoof, nuke, mirrorPath]

/-- The name of a setting in reports, which is its key in the document. -/
def name : EngineSetting → String
  | kernelDebug => "enable_kernel_debug"
  | stealth => "enable_stealth"
  | avcSpoof => "avc_spoof"
  | nuke => "enable_nuke"
  | mirrorPath => "mirror_path"

/-- The command that makes the declared value of a setting, if there is one. -/
def command? : EngineSetting → Settings → Option Command
  | kernelDebug, d => some (.setDebug d.enableKernelDebug)
  | stealth, d => some (.setStealth d.enableStealth)
  | avcSpoof, d => some (.setAvcSpoof d.avcSpoof)
  | nuke, d => if d.enableNuke then some .nukeExt4Sysfs else none
  | mirrorPath, d => d.mirrorPath.map .setMirrorPath

/-- Settings say the same about one of the five; the mirror path may be spelled in another way. -/
def Agree : EngineSetting → Settings → Settings → Prop
  | kernelDebug, s, r => s.enableKernelDebug = r.enableKernelDebug
  | stealth, s, r => s.enableStealth = r.enableStealth
  | avcSpoof, s, r => s.avcSpoof = r.avcSpoof
  | nuke, s, r => s.enableNuke = r.enableNuke
  | mirrorPath, s, r => Option.Rel Path.Alike s.mirrorPath r.mirrorPath

variable {g : EngineSetting} {a d s r : Settings} {c : Command}

/-- Only turning the wiping off and clearing the mirror path have no command. -/
theorem command?_eq_none_iff :
    g.command? d = none ↔ (g = nuke ∧ d.enableNuke = false) ∨ (g = mirrorPath ∧
      d.mirrorPath = none) := by
  cases g <;> simp [command?]

/-- None of the commands asks for a text. -/
theorem returnsText_of_command? (h : g.command? d = some c) : c.returnsText = false := by
  cases g with
  | nuke =>
    obtain ⟨-, ⟨⟩⟩ := Option.ite_none_right_eq_some.1 h
    rfl
  | mirrorPath =>
    obtain ⟨p, -, rfl⟩ := Option.map_eq_some_iff.1 h
    rfl
  | _ =>
    cases h
    rfl

/-! ## Where a save finds them -/

/-- The slot of a setting. -/
def slot : EngineSetting → Slot
  | kernelDebug => .toggle .kernelDebug
  | stealth => .toggle .stealth
  | avcSpoof => .toggle .avcSpoof
  | nuke => .toggle .nuke
  | mirrorPath => .mirrorPath

/-- The slots that the engine knows of are those of the five settings. -/
theorem exists_slot_iff {slot : Slot} :
    (∃ g : EngineSetting, g.slot = slot) ↔ slot.tracked = true := by
  constructor
  · rintro ⟨g, rfl⟩
    cases g <;> rfl
  · intro htracked
    cases slot with
    | toggle t =>
      cases t with
      | kernelDebug => exact ⟨kernelDebug, rfl⟩
      | stealth => exact ⟨stealth, rfl⟩
      | avcSpoof => exact ⟨avcSpoof, rfl⟩
      | nuke => exact ⟨nuke, rfl⟩
      | _ => cases htracked
    | mirrorPath => exact ⟨mirrorPath, rfl⟩

/-- Settings that take each of the five from other settings, and have the defaults for all the
rest. -/
theorem eq_of_told {told : EngineSetting → Settings}
    (htold : ∀ g : EngineSetting, g.slot.value a = g.slot.value (told g))
    (hrest : ∀ slot : Slot, slot.tracked = false → slot.value a = slot.value {}) :
    a =
      { enableKernelDebug := (told kernelDebug).enableKernelDebug
        enableStealth := (told stealth).enableStealth
        avcSpoof := (told avcSpoof).avcSpoof
        enableNuke := (told nuke).enableNuke
        mirrorPath := (told mirrorPath).mirrorPath } := by
  apply Slot.value_ext
  intro slot
  -- Slot by slot: the value was told, or is the default.
  cases slot with
  | toggle t =>
    cases t with
    | kernelDebug => exact htold kernelDebug
    | stealth => exact htold stealth
    | avcSpoof => exact htold avcSpoof
    | nuke => exact htold nuke
    | _ => exact hrest _ rfl
  | mirrorPath => exact htold mirrorPath

theorem name_slot (g : EngineSetting) : g.slot.name = g.name := by cases g <;> rfl

theorem command?_slot (g : EngineSetting) (d : Settings) : g.slot.command? d = g.command? d := by
  cases g with
  | nuke =>
    show Toggle.nuke.effect d.enableNuke = if d.enableNuke then some .nukeExt4Sysfs else none
    cases d.enableNuke <;> rfl
  | _ => rfl

theorem same_slot_eq_true_iff : g.slot.same s r = true ↔ g.Agree s r := by
  cases g with
  | mirrorPath =>
    show Path.sameOption s.mirrorPath r.mirrorPath = true ↔ Option.Rel Path.Alike _ _
    rw [Path.sameOption_eq_true_iff, Path.rel_alike_iff]
  | _ => exact beq_iff_eq

theorem same_slot_eq_false_iff : g.slot.same s r = false ↔ ¬g.Agree s r := by
  rw [← same_slot_eq_true_iff, Bool.not_eq_true]

instance : Decidable (g.Agree s r) := decidable_of_iff _ same_slot_eq_true_iff

/-! ## Those that are due -/

/-- The settings whose declared value differs from the acknowledged one and has a command. -/
def due (acknowledged declared : Settings) : List EngineSetting :=
  all.filter fun g => ¬g.Agree acknowledged declared ∧ g.command? declared ≠ none

theorem nodup_name_due (acknowledged declared : Settings) :
    ((due acknowledged declared).map name).Nodup := by
  have hall : (all.map name).Nodup := by decide
  exact hall.sublist (List.filter_sublist.map name)

end EngineSetting

/-- An effect with a command is pending for a slot exactly when it is that of one of the five
settings whose declared value has this command and differs from the acknowledged one. -/
theorem exists_mem_pending_command_iff {a d : Settings} {slot : Slot} {c : Command} :
    (∃ e ∈ pending a d, e.slot = slot ∧ e.command = c) ↔
      ∃ g : EngineSetting, g.slot = slot ∧ g.command? d = some c ∧ ¬g.Agree a d := by
  constructor
  · rintro ⟨e, he, rfl, rfl⟩
    have hcommand := (mem_effects_iff.1 he).1
    obtain ⟨hsome, hsame⟩ := exists_mem_pending_iff.1 ⟨e, he, rfl⟩
    obtain ⟨g, hg⟩ := EngineSetting.exists_slot_iff.2 (Slot.command?_isSome_tracked hsome)
    rw [← hg] at hcommand hsame
    rw [EngineSetting.command?_slot] at hcommand
    exact ⟨g, hg, hcommand, EngineSetting.same_slot_eq_false_iff.1 hsame⟩
  · rintro ⟨g, rfl, hcommand, hagree⟩
    rw [← EngineSetting.command?_slot] at hcommand
    obtain ⟨e, he, hslot⟩ := exists_mem_pending_iff.2
      ⟨Option.isSome_of_eq_some hcommand, EngineSetting.same_slot_eq_false_iff.2 hagree⟩
    have hdeclared := (mem_effects_iff.1 he).1
    rw [hslot, hcommand] at hdeclared
    exact ⟨e, he, hslot, (Option.some.inj hdeclared).symm⟩

end OverlayControl
