import OverlayControl.Service

/-!
# Command lines for a root shell

A command is written as a line for a POSIX shell that runs the engine's command line program. Paths
stand in apostrophes, so that the shell takes them literally.

* `escape` — a text as one word of a shell;
* `lineOf` — the line of a command, for commands that have one.
-/

namespace OverlayControl.Shell

/-- The inside of a quoted word: an apostrophe ends the quotes, stands escaped, and opens them
again. -/
def escapeChars : List Char → List Char
  | [] => []
  | c :: cs => if c = '\'' then '\'' :: '\\' :: '\'' :: '\'' :: escapeChars cs else c :: escapeChars cs

/-- A text as one word of a shell. -/
def escape (s : String) : String := String.ofList ('\'' :: (escapeChars s.toList ++ ['\'']))

/-- A truth value as a word. -/
def onOff (on : Bool) : String := if on then "on" else "off"

/-- The line of a command. Asking for the root or the shell tier takes no engine program. -/
def lineOf (cli : String) : Command → Option String
  | .probeTier .kernel => some s!"{cli} status"
  | .probeTier _ => none
  | .serviceVersion => some s!"{cli} version"
  | .engineVersion => some s!"{cli} version --engine"
  | .selinuxContext pid =>
    let process := (pid.map fun n => toString n).getD "self"
    some s!"cat /proc/{process}/attr/current"
  | .addRule kind source target flags =>
    let words := [cli, "rule", kind.name, escape source.display] ++
      (target.map fun t => escape t.display).toList ++
      if flags.bits = 0 then [] else ["--flags", toString flags.bits]
    some (String.intercalate " " words)
  | .deleteRule id => some s!"{cli} rule delete {id.name}"
  | .clearRules => some s!"{cli} rule clear"
  | .listRules => some s!"{cli} rule list"
  | .setStealth on => some s!"{cli} stealth {onOff on}"
  | .setDebug on => some s!"{cli} debug {onOff on}"
  | .setAvcSpoof on => some s!"{cli} avc-spoof {onOff on}"
  | .setMirrorPath p => some s!"{cli} mirror {escape p.display}"
  | .fixMounts => some s!"{cli} fix-mounts"
  | .nukeExt4Sysfs => some s!"{cli} nuke-ext4"
  | .listModules => some s!"{cli} modules"

end OverlayControl.Shell
