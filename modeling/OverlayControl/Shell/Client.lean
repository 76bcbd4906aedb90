import OverlayControl.Shell.Line

/-!
# The shell transport

Every command is one run of a root shell. The reply is its exit code and what it printed; a number
that the command asks for is the last word printed.

* `Programs` — programs that can be run, with any behaviour;
* `Client.call` — one command;
* `service` — the transport as a service.
-/

namespace OverlayControl.Shell

/-- What comes of running a program. -/
inductive Run
  /-- It could not be started. -/
  | notStarted (why : String)
  /-- It took too long. -/
  | timedOut
  /-- Its output could not be read. -/
  | failed (what : String)
  /-- It ended with an exit code, or with none when a signal ended it, and printed this. -/
  | ended (code : Option Int) (stdout stderr : List UInt8)
  deriving DecidableEq

/-- Programs that can be run, with states `π`. -/
structure Programs (π : Type) where
  /-- Runs a program with arguments. -/
  run : Path → List String → π → Run × π

/-- What a run printed and how it ended. -/
structure Output where
  /-- The exit code, `-1` when a signal ended the run. -/
  code : Int
  /-- The printed text. -/
  text : String
  deriving DecidableEq

/-- What was printed to both channels; a blank channel counts as empty. -/
def combine (stdout stderr : String) : String :=
  if Text.isBlankText stderr then stdout
  else if Text.isBlankText stdout then stderr
  else s!"{stdout}\n{stderr}"

/-- The output of a run, for runs that may take so many seconds. -/
def outputOf (program : Path) (seconds : Nat) : Run → Except ServiceError Output
  | .notStarted why => .error (.unavailable s!"cannot spawn {program.display}: {why}")
  | .timedOut => .error (.timeout seconds)
  | .failed what => .error (.io what)
  | .ended code stdout stderr =>
    .ok ⟨code.getD (-1), combine (Utf8.decodeLossy stdout) (Utf8.decodeLossy stderr)⟩

/-- The last word of a text, when it is a number in the 64-bit range. -/
def trailingNumber (s : String) : Option Int :=
  (Text.words s).getLast?.bind fun w => (Text.readLong w).toOption

/-- How commands are run. -/
structure Client where
  /-- The program that opens a root shell. -/
  suPath : Path
  /-- The engine's command line program. -/
  engineCli : String
  /-- How long a run may take, in seconds. -/
  seconds : Nat

namespace Client

variable {π : Type}

/-- Runs a program; no argument may hold a NUL character. -/
def run (programs : Programs π) (c : Client) (program : Path) (args : List String) (s : π) :
    Except ServiceError Output × π :=
  if program.bytes.contains 0 || args.any fun a => a.toList.contains '\x00' then
    (outputOf program c.seconds (.notStarted "nul byte found in provided data"), s)
  else
    let (result, s) := programs.run program args s
    (outputOf program c.seconds result, s)

/-- Runs a line in a root shell. -/
def runElevated (programs : Programs π) (c : Client) (line : String) (s : π) :
    Except ServiceError Output × π :=
  c.run programs c.suPath ["-c", line] s

/-- The reply to a probe of a tier. -/
def probeReply (tier : Tier) (granted : Bool) : Reply :=
  { status := if granted then 0 else 1
    value := some (if granted then tier.code else -1)
    text := ""
    structured := false }

/-- Asks whether a tier can be had: by any shell, as the user 0, or by the engine's program. -/
def probe (programs : Programs π) (c : Client) (tier : Tier) (s : π) :
    Except ServiceError Reply × π :=
  match tier with
  | .shell =>
    let (o, s) := c.run programs (.ofString "sh") ["-c", "true"] s
    (o.map fun o => probeReply tier (o.code == 0), s)
  -- Any program may open a shell; only one that is the user 0 counts.
  | .root =>
    let (o, s) := c.runElevated programs "id -u" s
    (o.map fun o => probeReply tier (o.code == 0 && Text.trim o.text == "0"), s)
  | .kernel =>
    let (o, s) := c.runElevated programs s!"{c.engineCli} status" s
    (o.map fun o => probeReply tier (o.code == 0), s)

/-- Whether a command asks for a number. -/
def asksNumber : Command → Bool
  | .addRule .. | .serviceVersion | .engineVersion => true
  | _ => false

/-- The reply that the output of a command amounts to. -/
def replyOf (command : Command) (o : Output) : Reply :=
  { status := o.code
    value := if asksNumber command then trailingNumber o.text else none
    text := Text.trimEnd o.text
    structured := false }

/-- Answers a command. -/
def call (programs : Programs π) (c : Client) (command : Command) (s : π) :
    Except ServiceError Reply × π :=
  match command with
  | .probeTier tier => c.probe programs tier s
  | _ =>
    match lineOf c.engineCli command with
    | none => (.error (.unsupported command.name .shell), s)
    | some line =>
      let (o, s) := c.runElevated programs line s
      (o.map (replyOf command), s)

end Client

/-- The transport as a service. -/
def service {π : Type} (programs : Programs π) (c : Client) : Service π where
  transport := .shell
  call := c.call programs
  hangUp s := (.ok (), s)

end OverlayControl.Shell
