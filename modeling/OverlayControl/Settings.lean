import OverlayControl.Command
import OverlayControl.Toml.Reader
import OverlayControl.Toml.Writer

/-!
# Engine settings

The declared settings of the engine are nine toggles and an optional mirror path. Some toggles have
an effect on the engine, which needs a capability; the mirror path has one too.

* `Settings`, as data, as a TOML document and back;
* `Toggle` — the toggles: their keys, capabilities and effects, reading and setting one.
-/

namespace OverlayControl

/-- The settings of the engine. -/
structure Settings where
  /-- Verbose logging of the engine. -/
  verbose : Bool := false
  /-- Ext4 images for the storage of modules. -/
  forceExt4 : Bool := false
  /-- No unmounting for applications on the deny list. -/
  disableUmount : Bool := false
  /-- Debug output of the kernel. -/
  enableKernelDebug : Bool := false
  /-- Hiding the traces of the engine. -/
  enableStealth : Bool := false
  /-- Spoofing the log of denials. -/
  avcSpoof : Bool := false
  /-- Wiping what loop mounts leave in sysfs. -/
  enableNuke : Bool := false
  /-- Accepting a service that is too old. -/
  ignoreProtocolMismatch : Bool := false
  /-- The built-in way of mounting. -/
  builtinMountEnabled : Bool := false
  /-- The mirror directory of the engine, if it is not the usual one. -/
  mirrorPath : Option Path := none
  deriving DecidableEq

/-- The toggles. -/
inductive Toggle
  /-- Verbose logging of the engine. -/
  | verbose
  /-- Ext4 images for the storage of modules. -/
  | forceExt4
  /-- No unmounting for applications on the deny list. -/
  | disableUmount
  /-- Debug output of the kernel. -/
  | kernelDebug
  /-- Hiding the traces of the engine. -/
  | stealth
  /-- Spoofing the log of denials. -/
  | avcSpoof
  /-- Wiping what loop mounts leave in sysfs. -/
  | nuke
  /-- Accepting a service that is too old. -/
  | ignoreProtocolMismatch
  /-- The built-in way of mounting. -/
  | builtinMount
  deriving DecidableEq

namespace Toggle

/-- The toggles, in the order of the document. -/
def all : List Toggle :=
  [verbose, forceExt4, disableUmount, kernelDebug, stealth, avcSpoof, nuke, ignoreProtocolMismatch,
    builtinMount]

/-- The key of a toggle in the document. -/
def key : Toggle → String
  | verbose => "verbose"
  | forceExt4 => "force_ext4"
  | disableUmount => "disable_umount"
  | kernelDebug => "enable_kernel_debug"
  | stealth => "enable_stealth"
  | avcSpoof => "avc_spoof"
  | nuke => "enable_nuke"
  | ignoreProtocolMismatch => "ignore_protocol_mismatch"
  | builtinMount => "builtin_mount_enabled"

/-- The name of a toggle as data. -/
def label : Toggle → String
  | verbose => "verbose"
  | forceExt4 => "force_ext4"
  | disableUmount => "disable_umount"
  | kernelDebug => "kernel_debug"
  | stealth => "stealth"
  | avcSpoof => "avc_spoof"
  | nuke => "enable_nuke"
  | ignoreProtocolMismatch => "ignore_protocol_mismatch"
  | builtinMount => "builtin_mount_enabled"

/-- The key without the word `enable_` that may start it. -/
def shortKey (t : Toggle) : String :=
  if "enable_".toList.isPrefixOf t.key.toList then
    String.ofList (t.key.toList.drop "enable_".length)
  else t.key

/-- The capability that the effect of a toggle needs, for a toggle with an effect. -/
def gate : Toggle → Option Capability
  | kernelDebug | avcSpoof => some .kernelDebug
  | stealth => some .overlayEngine
  | nuke => some .sysfsCleanup
  | _ => none

/-- The lowest tier that may apply a toggle. -/
def requiredTier (t : Toggle) : Tier := (t.gate.map Capability.minTier).getD .shell

/-- The command that applies a value of a toggle, if there is one. -/
def effect : Toggle → Bool → Option Command
  | kernelDebug, on => some (.setDebug on)
  | stealth, on => some (.setStealth on)
  | avcSpoof, on => some (.setAvcSpoof on)
  | nuke, true => some .nukeExt4Sysfs
  | _, _ => none

/-- The value of a toggle. -/
def get : Toggle → Settings → Bool
  | verbose, s => s.verbose
  | forceExt4, s => s.forceExt4
  | disableUmount, s => s.disableUmount
  | kernelDebug, s => s.enableKernelDebug
  | stealth, s => s.enableStealth
  | avcSpoof, s => s.avcSpoof
  | nuke, s => s.enableNuke
  | ignoreProtocolMismatch, s => s.ignoreProtocolMismatch
  | builtinMount, s => s.builtinMountEnabled

/-- The settings with a toggle at a value. -/
def set : Toggle → Bool → Settings → Settings
  | verbose, b, s => { s with verbose := b }
  | forceExt4, b, s => { s with forceExt4 := b }
  | disableUmount, b, s => { s with disableUmount := b }
  | kernelDebug, b, s => { s with enableKernelDebug := b }
  | stealth, b, s => { s with enableStealth := b }
  | avcSpoof, b, s => { s with avcSpoof := b }
  | nuke, b, s => { s with enableNuke := b }
  | ignoreProtocolMismatch, b, s => { s with ignoreProtocolMismatch := b }
  | builtinMount, b, s => { s with builtinMountEnabled := b }

/-- Setting a toggle makes it read that value. -/
@[simp]
theorem get_set (t : Toggle) (b : Bool) (s : Settings) : t.get (t.set b s) = b := by
  cases t <;> rfl

/-- Setting a toggle leaves the other toggles alone. -/
theorem get_set_of_ne {t u : Toggle} (h : u ≠ t) (b : Bool) (s : Settings) :
    u.get (t.set b s) = u.get s := by
  cases t <;> cases u <;> first | rfl | exact absurd rfl h

/-- Setting a toggle leaves the mirror path alone. -/
@[simp]
theorem mirrorPath_set (t : Toggle) (b : Bool) (s : Settings) :
    (t.set b s).mirrorPath = s.mirrorPath := by
  cases t <;> rfl

/-- Reads the name of a toggle: its key, in any case, with dashes for underscores and with or
without the word `enable_` before it. -/
def parse (s : String) : Except String Toggle :=
  let word := String.ofList
    (((Text.trim s).toList.map fun c => if c = '-' then '_' else c).map Char.toLower)
  match all.find? fun t => t.key == word || (t.shortKey != t.key && t.shortKey == word) with
  | some t => .ok t
  | none => .error s!"unknown toggle '{s}'"

end Toggle

namespace Settings

/-- Whether two settings agree, mirror paths by their components. -/
def same (s t : Settings) : Bool :=
  Toggle.all.all (fun g => g.get s == g.get t) && Path.sameOption s.mirrorPath t.mirrorPath

/-- The settings as data; absent when the mirror path is not UTF-8. -/
def toData (s : Settings) : Option Data :=
  let toggles := Toggle.all.map fun g => (g.key, Data.bool (g.get s))
  match s.mirrorPath with
  | none => some (.table toggles)
  | some p => p.text?.map fun text => .table (toggles ++ [("mirror_path", .text text)])

/-- Sets toggles to values of fields, which a format may leave out. -/
def setToggles : List Toggle → List (Option Data) → Settings → Option Settings
  | t :: ts, d :: ds, s => do
    let b ← Data.field false Data.asBool d
    setToggles ts ds (t.set b s)
  | _, _, s => some s

/-- The settings that data holds. A key that is missing stands for its default. -/
def ofData (format : Format) (d : Data) : Option Settings := do
  let fields ← d.record format (Toggle.all.map (fun g => [g.key]) ++ [["mirror_path"]])
  let s ← setToggles Toggle.all fields {}
  let mirror ← Data.field none (Data.asOptional Data.asText) ((fields.drop Toggle.all.length).head?.join)
  some { s with mirrorPath := mirror.map Path.ofString }

/-- The settings as a document; absent when the mirror path is not UTF-8. -/
def toToml (s : Settings) : Option String :=
  let toggles := Toggle.all.flatMap fun g => Toml.line g.key.toList (Toml.boolValue (g.get s))
  match s.mirrorPath with
  | none => some (String.ofList toggles)
  | some p =>
    p.text?.map fun text =>
      String.ofList (toggles ++ Toml.line "mirror_path".toList (Toml.textValue text.toList))

/-- The settings that a document holds. -/
def ofToml (text : String) : Option Settings := (Toml.read text).bind (ofData .toml)

end Settings

end OverlayControl
