import OverlayControl.Privilege
import OverlayControl.Rule

/-!
# Commands

A command is one operation of the privileged service. Every transport takes commands and turns them
into its own requests.
-/

namespace OverlayControl

/-- The operations of the privileged service. -/
inductive Command
  /-- Asks whether a tier can be had. -/
  | probeTier (tier : Tier)
  /-- Asks for the version of the service's protocol. -/
  | serviceVersion
  /-- Asks for the version of the overlay engine. -/
  | engineVersion
  /-- Asks for the SELinux context of a process, the service's own if none is given. -/
  | selinuxContext (pid : Option UInt32)
  /-- Gives the engine a rule. -/
  | addRule (kind : RuleKind) (source : Path) (target : Option Path) (flags : RuleFlags)
  /-- Takes a rule from the engine. -/
  | deleteRule (id : RuleId)
  /-- Takes all rules from the engine. -/
  | clearRules
  /-- Lists the engine's rules. -/
  | listRules
  /-- Turns stealth on or off. -/
  | setStealth (on : Bool)
  /-- Turns kernel debugging on or off. -/
  | setDebug (on : Bool)
  /-- Turns the spoofing of denials on or off. -/
  | setAvcSpoof (on : Bool)
  /-- Points the engine at another mirror directory. -/
  | setMirrorPath (path : Path)
  /-- Renumbers the mounts. -/
  | fixMounts
  /-- Wipes what loop mounts leave in sysfs. -/
  | nukeExt4Sysfs
  /-- Lists the modules and how each is mounted. -/
  | listModules
  deriving DecidableEq

namespace Command

/-- The name of a command in diagnostics. -/
def name : Command → String
  | probeTier _ => "probe_tier"
  | serviceVersion => "service_version"
  | engineVersion => "engine_version"
  | selinuxContext _ => "selinux_context"
  | addRule .. => "add_rule"
  | deleteRule _ => "delete_rule"
  | clearRules => "clear_rules"
  | listRules => "list_rules"
  | setStealth _ => "set_stealth"
  | setDebug _ => "set_debug"
  | setAvcSpoof _ => "set_avc_spoof"
  | setMirrorPath _ => "set_mirror_path"
  | fixMounts => "fix_mounts"
  | nukeExt4Sysfs => "nuke_ext4_sysfs"
  | listModules => "list_modules"

/-- Whether the text of a reply is what was asked for, and not a diagnostic. -/
def returnsText : Command → Bool
  | listRules | listModules | selinuxContext _ => true
  | _ => false

/-- The command that gives the engine a rule. -/
def ofRule (r : Rule) : Command := addRule r.kind r.source r.target r.flags

end Command

end OverlayControl
