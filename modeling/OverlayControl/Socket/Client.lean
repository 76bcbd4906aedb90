import OverlayControl.Socket.Frame

/-!
# The socket transport

The client holds one stream open between calls. A call takes that stream, or opens one, and puts it
back only after a whole exchange: whatever goes wrong on the way loses the stream, so that a late
answer is never taken for the answer to a later call. Requests are numbered modulo `2 ^ 32`, and a
response has to repeat the number.

* `Network` — streams to addresses, with any behaviour;
* `Client.call`, `Client.hangUp` — one command, and the end of the stream;
* `service` — the transport as a service.
-/

namespace OverlayControl.Socket

/-- Where the service listens. -/
inductive Address
  /-- A name outside the file system. -/
  | hidden (name : String)
  /-- A path. -/
  | path (p : Path)
  deriving DecidableEq

namespace Address

/-- The address that a text stands for: a name after an `@`, else a path. A path that starts with a
NUL byte is the system's own spelling of a name. -/
def parse (s : String) : Address :=
  match s.toList with
  | '@' :: name => hidden (String.ofList name)
  | _ => path (.ofString s)

/-- The address as text. -/
def display : Address → String
  | hidden name => s!"@{name}"
  | path p => p.display

/-- The address as the system takes it. -/
def resolved : Address → Address
  | path p =>
    match p.bytes with
    | 0 :: name => hidden (Utf8.decodeLossy name)
    | _ => path p
  | a => a

/-- The longest address that the system takes, counting what it adds to it. -/
def limit : Nat := 108

/-- Why the system takes no such address, if it does not. -/
def fault? : Address → Option String
  | hidden name =>
    if limit < (Utf8.encode name).length + 1 then
      some "abstract socket name must be shorter than SUN_LEN"
    else none
  | path p =>
    if p.bytes.contains 0 then some "paths must not contain interior null bytes"
    else if limit ≤ p.bytes.length then some "path must be shorter than SUN_LEN"
    else if p.isEmpty then some "os error 22"
    else none

end Address

/-- Why a stream fails. -/
inductive StreamFault
  /-- Nothing happened for too long. -/
  | timedOut
  /-- Any other failure, in words. -/
  | failed (what : String)
  deriving DecidableEq

/-- Streams to addresses, with states `ω`. A stream is known by a number. -/
structure Network (ω : Type) where
  /-- Opens a stream. -/
  dial : Address → ω → Except String Nat × ω
  /-- Writes bytes to a stream. -/
  send : Nat → List UInt8 → ω → Except StreamFault Unit × ω
  /-- Reads so many bytes from a stream. -/
  receive : Nat → (n : Nat) → ω → Except StreamFault (Vector UInt8 n) × ω
  /-- Ends a stream. -/
  shut : Nat → ω → Except StreamFault Unit × ω

/-- What the client holds between calls. -/
structure Client where
  /-- The stream that is open. -/
  stream : Option Nat := none
  /-- The number of the last request. -/
  seq : UInt32 := 0
  deriving DecidableEq

namespace Client

variable {ω : Type}

/-- The error of a failed stream, for calls that may take so many seconds. -/
def faultError (seconds : Nat) : StreamFault → ServiceError
  | .timedOut => .timeout seconds
  | .failed what => .io what

/-- Reads a response to the request `seq` from a stream. -/
def receiveResponse (net : Network ω) (seconds stream : Nat) (seq : UInt32) (w : ω) :
    Except ServiceError (ResponseHeader × List UInt8) × ω :=
  match net.receive stream 16 w with
  | (.error e, w) => (.error (faultError seconds e), w)
  | (.ok raw, w) =>
    match ResponseHeader.decode raw with
    | .error e => (.error e, w)
    | .ok header =>
      if header.seq ≠ seq then
        (.error (.protocol
          s!"response sequence {header.seq} does not match request {seq}"), w)
      else
        match net.receive stream header.size.toNat w with
        | (.error e, w) => (.error (faultError seconds e), w)
        | (.ok payload, w) => (.ok (header, payload.toList), w)

/-- Sends the request `seq` on a stream and reads the response. -/
def exchange (net : Network ω) (seconds stream : Nat) (seq : UInt32) (f : Frame) (w : ω) :
    Except ServiceError (ResponseHeader × List UInt8) × ω :=
  let header : RequestHeader := ⟨f.opcode, seq, UInt32.ofNat f.payload.length⟩
  match net.send stream (header.encode ++ f.payload) w with
  | (.error e, w) => (.error (faultError seconds e), w)
  | (.ok (), w) => receiveResponse net seconds stream seq w

/-- Opens a stream to an address that the system takes. -/
def dial (net : Network ω) (address : Address) (w : ω) : Except String Nat × ω :=
  match address.resolved.fault? with
  | some why => (.error why, w)
  | none => net.dial address.resolved w

/-- The stream that is open, or a new one. -/
def takeStream (net : Network ω) (address : Address) (c : Client) (w : ω) :
    Except ServiceError Nat × ω :=
  match c.stream with
  | some s => (.ok s, w)
  | none =>
    match dial net address w with
    | (.ok s, w) => (.ok s, w)
    | (.error why, w) => (.error (.unavailable s!"connect {address.display}: {why}"), w)

/-- Answers a command. -/
def call (net : Network ω) (address : Address) (seconds : Nat) (command : Command) :
    Client × ω → Except ServiceError Reply × (Client × ω)
  | (c, w) =>
    match Frame.ofCommand command with
    | .error e => (.error e, (c, w))
    | .ok frame =>
      match takeStream net address c w with
      | (.error e, w) => (.error e, ({ c with stream := none }, w))
      | (.ok stream, w) =>
        -- The number is used up by sending, whatever comes of it.
        let seq := c.seq + 1
        match exchange net seconds stream seq frame w with
        -- A late answer may still be on its way: the stream is not used again.
        | (.error e, w) => (.error e, (⟨none, seq⟩, w))
        | (.ok (header, payload), w) =>
          (.ok (replyOf command header.result payload), (⟨some stream, seq⟩, w))

/-- Ends the stream that is open. -/
def hangUp (net : Network ω) (seconds : Nat) : Client × ω → Except ServiceError Unit × (Client × ω)
  | (c, w) =>
    match c.stream with
    | none => (.ok (), (c, w))
    | some s =>
      let (result, w) := net.shut s w
      (result.mapError (faultError seconds), ({ c with stream := none }, w))

end Client

/-- The transport as a service. -/
def service {ω : Type} (net : Network ω) (address : Address) (seconds : Nat) :
    Service (Client × ω) where
  transport := .socket
  call := Client.call net address seconds
  hangUp := Client.hangUp net seconds

end OverlayControl.Socket
