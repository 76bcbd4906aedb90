import OverlayControl.BitNames
import OverlayControl.Data

/-!
# Privilege tiers

What a connection to the service may do is decided by its tier, and `shell < root < kernel`. A tier
grants its own capabilities and those of every lower tier.

* `Tier`, its order, its code on the wire and its capabilities;
* `Capability`, a set of named bits, and `Capability.minTier`, the lowest tier that grants it;
* `Connection`, what negotiation with the service has found out.
-/

namespace OverlayControl

/-- The tiers of a connection. -/
inductive Tier
  /-- Access as a shell user. -/
  | shell
  /-- Access as root. -/
  | root
  /-- Access to the kernel's overlay engine. -/
  | kernel
  deriving DecidableEq, Inhabited

/-- A set of capabilities, as bits. -/
structure Capability where
  /-- The bits of the set. -/
  bits : UInt16
  deriving DecidableEq

namespace Capability

/-- Running commands without privileges. -/
def shellExec : Capability := ⟨1⟩
/-- Asking for SELinux contexts. -/
def selinuxQuery : Capability := ⟨2⟩
/-- Running commands as root. -/
def rootExec : Capability := ⟨4⟩
/-- Changing how modules are mounted. -/
def moduleConfig : Capability := ⟨8⟩
/-- Talking to the overlay engine. -/
def overlayEngine : Capability := ⟨16⟩
/-- Kernel debugging and the spoofing of denials. -/
def kernelDebug : Capability := ⟨32⟩
/-- Wiping what loop mounts leave in sysfs. -/
def sysfsCleanup : Capability := ⟨64⟩

/-- The named capabilities, in the order of their bits. -/
def names : List (String × Nat) :=
  [("SHELL_EXEC", 1), ("SELINUX_QUERY", 2), ("ROOT_EXEC", 4), ("MODULE_CONFIG", 8),
    ("OVERLAY_ENGINE", 16), ("KERNEL_DEBUG", 32), ("SYSFS_CLEANUP", 64)]

/-- The set as text. -/
def render (c : Capability) : String := BitNames.render names c.bits.toNat

/-- The set that a text stands for. -/
def read (s : String) : Option Capability :=
  (BitNames.read names (UInt16.size - 1) s).map fun n => ⟨UInt16.ofNat n⟩

/-- Whether every capability of `c` is in `d`. -/
def within (c d : Capability) : Bool := c.bits &&& d.bits == c.bits

/-- Whether the set holds no bit beyond the named capabilities. -/
def isKnown (c : Capability) : Bool := c.bits &&& 127 == c.bits

end Capability

namespace Tier

/-- The tiers, lowest first. -/
def all : List Tier := [.shell, .root, .kernel]

/-- The tiers in the order in which they are asked for: highest first. -/
def descending : List Tier := [.kernel, .root, .shell]

/-- The code of a tier. -/
def code : Tier → Int
  | .shell => 0
  | .root => 1
  | .kernel => 2

/-- The tier with a code. -/
def ofCode (n : Int) : Option Tier :=
  if n = 0 then some .shell
  else if n = 1 then some .root
  else if n = 2 then some .kernel
  else none

/-- The code of a tier names that tier. -/
@[simp]
theorem ofCode_code (t : Tier) : ofCode t.code = some t := by cases t <;> rfl

/-- Only the code of a tier names it. -/
theorem eq_code_of_ofCode {n : Int} {t : Tier} (h : ofCode n = some t) : n = t.code := by
  unfold ofCode at h
  split at h
  · cases h
    assumption
  · split at h
    · cases h
      assumption
    · split at h
      · cases h
        assumption
      · cases h

/-- Whether a tier is at most another. -/
def atMost (a b : Tier) : Bool := a.code ≤ b.code

/-- The lower of two tiers. -/
def lower (a b : Tier) : Tier := if a.atMost b then a else b

/-- The higher of two tiers. -/
def higher (a b : Tier) : Tier := if a.atMost b then b else a

/-- Everything a tier grants, what lower tiers grant included. -/
def capabilities : Tier → Capability
  | .shell => ⟨3⟩
  | .root => ⟨15⟩
  | .kernel => ⟨127⟩

/-- The name of a tier. -/
def name : Tier → String
  | .shell => "shell"
  | .root => "root"
  | .kernel => "kernel"

/-- The tier with exactly this name. -/
def ofName (s : String) : Option Tier := all.find? fun t => t.name == s

/-- Reads the name of a tier in any case; the fault tells the name in small letters. -/
def parse (s : String) : Except String Tier :=
  match ofName (Text.lower s) with
  | some t => .ok t
  | none => .error s!"unknown privilege tier '{Text.lower s}'"

end Tier

/-- The lowest tier that grants all of a set; the highest one for a set that none grants. -/
def Capability.minTier (c : Capability) : Tier :=
  (Tier.all.find? fun t => c.within t.capabilities).getD .kernel

/-- A negotiated connection to the service. -/
structure Connection where
  /-- The tier that was granted. -/
  tier : Tier
  /-- The version of the service's protocol, `-1` when the service did not tell. -/
  serviceVersion : Int
  /-- The version of the overlay engine, `-1` when the service did not tell. -/
  engineVersion : Int
  /-- The SELinux context of the service, when it could be read. -/
  selinuxContext : Option String
  deriving DecidableEq

namespace Connection

/-- Whether the connection grants every capability of a set. -/
def allows (c : Connection) (needed : Capability) : Bool := needed.within c.tier.capabilities

/-- The connection as data. -/
def toData (c : Connection) : Data :=
  .table [("tier", .text c.tier.name), ("service_version", .int c.serviceVersion),
    ("engine_version", .int c.engineVersion),
    ("selinux_context", (c.selinuxContext.map Data.text).getD .null)]

end Connection

end OverlayControl
