import OverlayControl.CommandLine.Arguments
import OverlayControl.Host
import OverlayControl.Json.Printer
import OverlayControl.Session

/-!
# Running the command line

A run loads the client's configuration, opens its log if it is to keep one, opens a session, does
one thing, prints what came of it, and ends the session.

* `perform` — one intent in a session, with the text and the data that it prints;
* `prepareLog` — the log of a run;
* `run` — a whole run on a host.
-/

namespace OverlayControl.CommandLine

/-- Why a run fails: the message, and what caused it, outermost first. -/
structure Failure where
  /-- The message. -/
  what : String
  /-- The causes. -/
  causes : List String := []
  /-- Whether the program breaks off, in place of ending with an error. -/
  breaksOff : Bool := false
  deriving DecidableEq

/-- What a run prints, and its exit code. -/
structure Finish where
  /-- The exit code. -/
  code : Nat
  /-- The printed results. -/
  stdout : String := ""
  /-- The printed errors. -/
  stderr : String := ""
  deriving DecidableEq

/-- A result in both forms: as text, and as data when it can be shown so. -/
structure Result where
  /-- The result for people. -/
  text : String
  /-- The result for programs. -/
  data : Option Data

/-! ## Texts -/

/-- A text with a mark before its first line and blanks before the others. -/
def indented (mark : String) (text : String) : String :=
  let blanks := String.ofList (List.replicate mark.length ' ')
  mark ++ String.ofList (text.toList.flatMap fun c => if c = '\n' then '\n' :: blanks.toList else [c])

/-- A text with blanks before it, up to a width. -/
def padLeft (width : Nat) (s : String) : String :=
  String.ofList (List.replicate (width - s.length) ' ') ++ s

/-- A text with blanks after it, up to a width. -/
def padRight (width : Nat) (s : String) : String :=
  s ++ String.ofList (List.replicate (width - s.length) ' ')

/-- The exit code of a failure. -/
def Failure.code (f : Failure) : Nat := if f.breaksOff then 101 else 1

/-- A failure with its causes; several causes are numbered. -/
def Failure.render (f : Failure) : String :=
  let causes := match f.causes with
    | [] => ""
    | [c] => "\n\nCaused by:\n" ++ indented "    " c
    | cs =>
      "\n\nCaused by:" ++
        String.join (cs.mapIdx fun n c => "\n" ++ indented (padLeft 5 (toString n) ++ ": ") c)
  if f.breaksOff then s!"{f.what}\n" else s!"Error: {f.what}{causes}\n"

/-- A truth value for people. -/
def yesNo (b : Bool) : String := if b then "yes" else "no"

/-- The status for people. -/
def statusText (r : StatusReport) : String :=
  let connection := match r.connection, r.connectError with
    | some c, _ =>
      [s!"tier:        {c.tier.name}", s!"service:     v{c.serviceVersion}",
        s!"engine:      v{c.engineVersion}"] ++
        (c.selinuxContext.map fun x => s!"selinux:     {x}").toList
    | none, some e => [s!"service:     unavailable ({e})"]
    | none, none => ["service:     unavailable"]
  let rules := (r.rules.map fun c =>
    s!"rules:       {c.total} ({c.hide} hide, {c.redirect} redirect, {c.merge} merge, {c.inject} inject)"
    ).toList
  let restart := if r.pendingRestart.isEmpty then []
    else ["restart to apply: " ++ String.intercalate ", " r.pendingRestart]
  String.intercalate "\n" ([s!"transport:   {r.transport.name}"] ++ connection ++
    [s!"kernel mode: {yesNo r.kernelMode}"] ++ rules ++ [s!"stealth:     {yesNo r.stealth}"] ++
    restart)

/-- The rules for people. -/
def rulesText (t : RuleTable) : String :=
  if t.rules.isEmpty then "no active rules" else String.intercalate "\n" (t.rules.map Rule.display)

/-- A module for people. -/
def viewText (v : BindingView) : String :=
  let declared := (v.pending.map Strategy.name).getD "-"
  let active := (v.active.map Strategy.name).getD "?"
  s!"{padRight 24 v.moduleId} declared={padRight 8 declared} active={padRight 8 active}" ++
    if v.needsRestart then " (restart to apply)" else ""

/-- The modules for people. -/
def viewsText (vs : List BindingView) : String :=
  if vs.isEmpty then "no modules" else String.intercalate "\n" (vs.map viewText)

/-- The report on mounts for people. -/
def mountText (r : MountReport) : String :=
  if r.isCanonical then s!"{r.mounts} mounts, ordering canonical"
  else
    s!"{r.mounts} mounts, {r.duplicates.length} duplicated ids, {r.inversions.length} out of order"

/-- A save for people. -/
def savedText (p : Path) (r : SaveReport) : String :=
  s!"saved {p.display}" ++
    String.join (r.deferred.map fun f => s!"\n{f.setting} not applied: {f.diagnostic}")

/-- The truth value that a word stands for. -/
def readSwitch (s : String) : Except String Bool :=
  let word := Text.lower (Text.trim s)
  if ["true", "on", "1", "yes"].contains word then .ok true
  else if ["false", "off", "0", "no"].contains word then .ok false
  else .error s!"expected on/off, got '{word}'"

/-- The settings with one of them changed, as a key and a value say. -/
def changeSetting (key value : String) (s : Settings) : Except String Settings :=
  if key = "mirror_path" then
    .ok { s with mirrorPath := if value.isEmpty then none else some (.ofString value) }
  else do
    let toggle ← Toggle.parse key
    let on ← readSwitch value
    .ok (toggle.set on s)

/-! ## Intents -/

variable {δ : Type}

/-- Does something with the rules, if there is a connection. -/
def withRules (s : Session δ) (f : RuleStore → Action δ (Except RuleError Result)) :
    Action δ (Except Failure Result) := do
  match ← s.rules with
  | .error e => pure (.error { what := e.message })
  | .ok store =>
    match ← f store with
    | .error e => pure (.error { what := e.message })
    | .ok r => pure (.ok r)

/-- Does something with the mounts, if there is a connection. -/
def withMounts (s : Session δ) (f : MountReconciler → Action δ (Except Failure Result)) :
    Action δ (Except Failure Result) := do
  match ← s.mounts with
  | .error e => pure (.error { what := e.message })
  | .ok m => f m

/-- A result that is known when an operation succeeds. -/
def after (f : Action δ (Except RuleError Unit)) (r : Result) :
    Action δ (Except RuleError Result) := do
  pure ((← f).map fun _ => r)

/-- Changes a setting and saves. -/
def setConfig (s : Session δ) (key value : String) : Action δ (Except Failure Result) := do
  let keeper ← s.keeper
  let settings ← keeper.load s.device
  match changeSetting key value settings with
  | .error what => pure (.error { what })
  | .ok changed =>
    match ← keeper.save s.device changed with
    | .ok report => pure (.ok ⟨savedText keeper.path report, some report.toData⟩)
    | .error e =>
      match e with
      -- The setting is stored; only its effect has to wait.
      | .gated .. => pure (.ok ⟨s!"saved; {e.message}", some (.text e.message)⟩)
      | _ => pure (.error { what := e.message })

/-- Declares a strategy. -/
def setModule (s : Session δ) (id : String) (strategy : Strategy) :
    Action δ (Except Failure Result) := do
  let store ← s.bindings
  match ← store.set s.device id strategy with
  | .error e => pure (.error { what := e.message })
  | .ok v =>
    let restart := if v.needsRestart then "; restart to apply" else ""
    pure (.ok ⟨s!"{v.moduleId} set to {strategy.name}{restart}", some v.toData⟩)

/-- Does one thing in a session; `now` tells the time in reports. -/
def perform (s : Session δ) (now : String) : Intent → Action δ (Except Failure Result)
  | .status => do
    let r ← s.status
    pure (.ok ⟨statusText r, some (r.toData [("generated_at", .text now)])⟩)
  | .listRules => withRules s fun store => do
    let t ← store.list s.device
    pure (.ok ⟨rulesText t, t.toData⟩)
  | .addRule rule => withRules s fun store => do
    pure ((← store.add s.device rule).map fun id =>
      ⟨s!"rule {id.name} active", some (.int id.number.toNat)⟩)
  | .deleteRule id => withRules s fun store =>
    after (store.delete s.device id) ⟨s!"rule {id.name} deleted", some (.int id.number.toNat)⟩
  | .clearRules => withRules s fun store =>
    after (store.clear s.device) ⟨"all rules cleared", some (.bool true)⟩
  | .stealth on => withRules s fun store =>
    after (store.setStealth s.device on)
      ⟨if on then "stealth enabled" else "stealth disabled", some (.bool on)⟩
  | .showConfig => do
    let keeper ← s.keeper
    let settings ← keeper.load s.device
    pure (.ok ⟨settings.toToml.getD "<unprintable: path contains invalid UTF-8 characters>",
      settings.toData⟩)
  | .setConfig key value => setConfig s key value
  | .listModules => do
    let store ← s.bindings
    let views ← store.views s.device
    pure (.ok ⟨viewsText views, some (.list (views.map BindingView.toData))⟩)
  | .setModule id strategy => setModule s id strategy
  | .checkMounts => withMounts s fun m => do
    match ← m.check s.device with
    | .ok r => pure (.ok ⟨mountText r, some r.toData⟩)
    | .error e => pure (.error { what := "failed to read mountinfo", causes := [e.message] })
  | .fixMounts => withMounts s fun m => do
    match ← m.reconcile s.device with
    | .ok r =>
      pure (.ok ⟨if r.repaired then "mount ordering repaired" else "mount ordering already canonical",
        some r.toData⟩)
    | .error e => pure (.error { what := e.message })

/-- Opens a session, does one thing and closes the session. -/
def inSession (d : Device δ) (paths : PathsConfig) (now : String) (intent : Intent) :
    Action δ (Except Failure Result) := do
  let s ← Session.opening d paths
  let result ← perform s now intent
  s.close
  pure result

/-! ## Runs -/

/-- What a result prints. -/
def finishOf (json : Bool) : Except Failure Result → Finish
  | .error f => { code := f.code, stderr := f.render }
  | .ok r =>
    if json then
      match r.data with
      | some d => { code := 0, stdout := Json.pretty d ++ "\n" }
      | none =>
        { code := 1
          stderr := Failure.render { what := "path contains invalid UTF-8 characters" } }
    else { code := 0, stdout := r.text ++ "\n" }

/-- What surrounds a run. -/
structure Setting where
  /-- The environment. -/
  env : Environment
  /-- The home directory. -/
  home : Option Path
  /-- The time. -/
  now : String

variable {η : Type}

/-- The log of a day in the directory of the logs. -/
def logPath (dir : Path) (now : String) : Path :=
  let day := String.ofList (now.toList.takeWhile (· ≠ 'T'))
  dir.join s!"hymoctl.log.{day}"

/-- Makes the directory of the logs, if there are to be any, and opens the log of the day. -/
def prepareLog (h : Host η) (now : String) (dir : Option Path) (st : η) :
    Except Failure Unit × η :=
  match dir with
  | none => (.ok (), st)
  | some p =>
    match h.makeDirectories p st with
    | (.error e, st) =>
      (.error { what := s!"failed to create logs directory {p.display}: {e.message}" }, st)
    | (.ok (), st) =>
      match h.openLog (logPath p now) st with
      | (.error e, st) =>
        (.error
          { what := s!"initializing rolling file appender failed: {e.message}"
            breaksOff := true }, st)
      | (.ok (), st) => (.ok (), st)

/-- Does what the arguments ask for. -/
def runIntent (h : Host η) (around : Setting) (o : Options) (intent : Intent) (st : η) :
    Except Failure Result × η :=
  match ClientConfig.load h.files st o.config around.env around.home with
  | .error e =>
    (.error { what := "failed to load configuration", causes := e.what :: e.causes }, st)
  | .ok config =>
    match prepareLog h around.now o.logDir st with
    | (.error f, st) => (.error f, st)
    | (.ok (), st) =>
      -- Every run starts without a stream.
      let w : World (Socket.Client × η) := { device := ({}, st) }
      let (result, w) := inSession (h.device config.service) config.paths around.now intent w
      (result, w.device.2)

/-- The name and the version of the program. -/
def versionText : String := "hymoctl 0.1.0\n"

/-- How the program is used. -/
def usageText : String :=
  "Usage: hymoctl [--json] [--config <CONFIG>] [--log-dir <LOG_DIR>] <COMMAND>\n"

/-- A whole run. -/
def run (h : Host η) (around : Setting) (args : List String) (st : η) : Finish × η :=
  match read args with
  | none => ({ code := 2, stderr := usageText }, st)
  | some .help => ({ code := 0, stdout := usageText }, st)
  | some .version => ({ code := 0, stdout := versionText }, st)
  | some (.run o intent) =>
    let (result, st) := runIntent h around o intent st
    (finishOf o.json result, st)

end OverlayControl.CommandLine
