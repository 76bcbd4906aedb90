import OverlayControl.Command
import OverlayControl.Text.Quoted

/-!
# The privileged service

The service takes one command at a time and answers with a reply, or the call fails. A `Service` is
any state machine that does so: nothing is assumed of it, so that it may be a socket, a root shell,
a simulation, or an adversary.
-/

namespace OverlayControl

/-- How the service is reached. -/
inductive Transport
  /-- Frames over a socket. -/
  | socket
  /-- Command lines for a root shell. -/
  | shell
  deriving DecidableEq, Inhabited

namespace Transport

/-- The name of a transport. -/
def name : Transport → String
  | socket => "socket"
  | shell => "shell"

/-- The transport with exactly this name. -/
def ofName (s : String) : Option Transport := [socket, shell].find? fun t => t.name == s

/-- Reads a transport in any case, with blanks around it; the fault tells the word that was read. -/
def parse (s : String) : Except String Transport :=
  let word := Text.lower (Text.trim s)
  match ofName word with
  | some t => .ok t
  | none => .error s!"unknown transport '{word}'"

end Transport

/-- An answer of the service. -/
structure Reply where
  /-- The status: a result code or an exit code. -/
  status : Int
  /-- The number that the reply carries, if any. -/
  value : Option Int
  /-- What was asked for, or a diagnostic. -/
  text : String
  /-- Whether the status alone decides about success. -/
  structured : Bool
  deriving DecidableEq

/-- The structured reply that carries a status alone. -/
def Reply.ofStatus (status : Int) : Reply :=
  { status, value := if 0 ≤ status then some status else none, text := "", structured := true }

/-- Why a call fails. -/
inductive ServiceError
  /-- The service cannot be reached. -/
  | unavailable (why : String)
  /-- The call took longer than it may, in seconds. -/
  | timeout (seconds : Nat)
  /-- The transport has no form for the command. -/
  | unsupported (command : String) (transport : Transport)
  /-- The service broke the framing. -/
  | protocol (what : String)
  /-- An argument of the command cannot be sent. -/
  | invalidRequest (what : String)
  /-- Reading or writing failed. -/
  | io (what : String)
  /-- The call itself broke down. -/
  | crashed (what : String)
  deriving DecidableEq

/-- The wording of an error. -/
def ServiceError.message : ServiceError → String
  | .unavailable why => s!"privileged service unavailable: {why}"
  | .timeout seconds => s!"service call timed out after {seconds}s"
  | .unsupported command transport =>
    s!"{command} is not supported by the {transport.name} transport"
  | .protocol what => s!"protocol violation: {what}"
  | .invalidRequest what => s!"invalid request: {what}"
  | .io what => s!"service i/o failed: {what}"
  | .crashed what => s!"execution aborted: task # panicked with message {Text.quoted what}"

/-- A service with states `σ`. -/
structure Service (σ : Type) where
  /-- How the service is reached. -/
  transport : Transport
  /-- Answers a command. -/
  call : Command → σ → Except ServiceError Reply × σ
  /-- Ends the connection, if one is held. -/
  hangUp : σ → Except ServiceError Unit × σ

end OverlayControl
