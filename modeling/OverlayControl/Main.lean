import OverlayControl.CommandLine.Clock
import OverlayControl.CommandLine.Run
import OverlayControl.FileTree.Storage
import Std.Time.DateTime.Timestamp

/-!
# The program

The program takes the files that a run may touch into memory, runs there, and puts back those that
the run has changed. A build of this library alone has neither streams to the service nor programs
to run, so that every call to the service finds it unavailable; the settings and the strategies are
kept all the same, and the log is opened.
-/

namespace OverlayControl.Main

/-- Files in memory, and a service that cannot be reached. -/
def host : Host FileTree where
  files := FileTree.storage
  network := {
    dial := fun _ st => (.error "os error 111", st)
    send := fun _ _ st => (.error (.failed "os error 32"), st)
    receive := fun _ _ st => (.error (.failed "early eof"), st)
    shut := fun _ st => (.ok (), st) }
  programs := { run := fun _ _ st => (.notStarted "os error 2", st) }
  makeDirectories := FileTree.makeDirectories
  -- Nothing is written to a log here.
  openLog := fun p t => t.append p []

/-- The documents that a run may change. -/
def documents (c : PathsConfig) : List Path :=
  [c.engineConfig, (Keeper.appliedPath ⟨c.engineConfig, none⟩), c.moduleModes]

/-- The tree with the file of the system at a path in it, if there is one. -/
def take (t : FileTree) (p : Path) : IO FileTree := do
  try
    let bytes ← IO.FS.readBinFile p.display
    pure ((t.putAt p (.file bytes.toList 0o600)).toOption.getD t)
  catch _ => pure t

/-- Puts a document back, by way of a temporary file beside it. -/
def store (p : Path) (bytes : List UInt8) : IO Unit := do
  let parts := (Path.splitSlash p.bytes).dropLast
  let parent := (Path.mk (Path.joinSlash parts)).display
  unless parent.isEmpty do
    IO.FS.createDirAll parent
  let temporary := p.display ++ ".tmp"
  IO.FS.writeBinFile temporary bytes.toByteArray
  IO.setAccessRights temporary ⟨⟨true, true, false⟩, ⟨false, false, false⟩, ⟨false, false, false⟩⟩
  IO.FS.rename temporary p.display

/-- Puts a document back if a run has changed it. -/
def storeChanged (before after : FileTree) (p : Path) : IO Unit :=
  match after.read p, before.read p with
  | .ok new, .ok old => if new = old then pure () else store p new
  | .ok new, .error _ => store p new
  | .error _, _ => pure ()

/-- The value of each variable that the client knows. -/
def environment : IO Environment := do
  let names := ["HYMOCTL_CONFIG", "HYMOCTL_TRANSPORT", "HYMOCTL_SOCKET", "HYMOCTL_SU",
    "HYMOCTL_ENGINE_CLI", "HYMOCTL_TIMEOUT_SECS", "HYMOCTL_ENGINE_CONFIG"]
  let values ← names.mapM fun n => do pure (n, ← IO.getEnv n)
  pure fun name => (values.find? fun v => v.1 == name).bind Prod.snd

/-- The time as a text. -/
def timeText : IO String := do
  let t ← Std.Time.Timestamp.now
  pure (CommandLine.timeText t.val.second.val.toNat t.val.nano.val.toNat)

/-- The files that a run of arguments may touch, taken into memory, and those among them that it may
change. -/
def snapshot (args : List String) (env : Environment) (home : Option Path) (now : String) :
    IO (FileTree × List Path) := do
  let (explicit, logDir) := match CommandLine.read args with
    | some (.run o _) => (o.config, o.logDir)
    | _ => (none, none)
  match ClientConfig.location? explicit env home with
  | none => pure ({}, [])
  | some p =>
    let t ← take {} p
    match ClientConfig.load FileTree.storage t explicit env home with
    | .error _ => pure (t, [])
    | .ok c =>
      let changing := documents c.paths ++ (logDir.map (CommandLine.logPath · now)).toList
      let t ← (changing ++ [c.paths.mountinfo]).foldlM take t
      pure (t, changing)

end OverlayControl.Main

/-- Runs the program. -/
def main (args : List String) : IO UInt32 := do
  let env ← OverlayControl.Main.environment
  let home := (← IO.getEnv "HOME").map OverlayControl.Path.ofString
  let now ← OverlayControl.Main.timeText
  let (before, changing) ← OverlayControl.Main.snapshot args env home now
  let (finish, after) := OverlayControl.CommandLine.run OverlayControl.Main.host ⟨env, home, now⟩
    args before
  changing.forM (OverlayControl.Main.storeChanged before after)
  IO.print finish.stdout
  IO.eprint finish.stderr
  pure (UInt32.ofNat finish.code)
