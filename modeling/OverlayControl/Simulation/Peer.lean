import OverlayControl.Socket.Client

/-!
# A peer of the socket transport in memory

A peer listens at one address and answers each request by the next of its planned responses: from a
queue first, then by operation. A response may be well-formed or broken in any of the ways that a
client has to stand.
-/

namespace OverlayControl.Simulation

open Socket

/-- A planned response. -/
structure Response where
  /-- The word that starts the header. -/
  magic : UInt32 := Socket.magic
  /-- What is added to the number of the request. -/
  seqDelta : UInt32 := 0
  /-- The result code. -/
  result : Int := 0
  /-- The length that the header tells; that of the body when absent. -/
  size : Option UInt32 := none
  /-- The body. -/
  body : List UInt8 := []
  /-- Bytes that are sent in place of a header and a body. -/
  raw : Option (List UInt8) := none
  /-- Whether nothing is sent. -/
  silent : Bool := false
  /-- Whether the stream is closed afterwards. -/
  closes : Bool := false
  /-- Whether the peer stops answering on the stream. -/
  hangs : Bool := false

/-- The word that a number is in two's complement. -/
def wordOfInt (n : Int) : UInt32 := UInt32.ofNat (n % (UInt32.size : Int)).toNat

/-- The bytes of a response to the request with a number. -/
def Response.bytes (r : Response) (seq : UInt32) : List UInt8 :=
  if r.silent || r.hangs then []
  else
    match r.raw with
    | some bytes => bytes
    | none =>
      let size := r.size.getD (UInt32.ofNat r.body.length)
      [r.magic, seq + r.seqDelta, wordOfInt r.result, size].flatMap wordBytes ++ r.body

/-- A request as the peer has received it. -/
structure Request where
  /-- The number of the stream, from one. -/
  stream : Nat
  /-- The 24 bytes of the header. -/
  header : List UInt8
  /-- The operation. -/
  opcode : UInt32
  /-- The number of the request. -/
  seq : UInt32
  /-- The payload. -/
  payload : List UInt8

/-- The peer's side of a stream. -/
structure Line where
  /-- What has been sent and not been read. -/
  pending : List UInt8 := []
  /-- Whether the stream is closed. -/
  closed : Bool := false
  /-- Whether the peer has stopped answering. -/
  hung : Bool := false

/-- A peer. -/
structure Peer where
  /-- Where the peer listens; nowhere when absent. -/
  address : Option Address := none
  /-- The responses to the next requests. -/
  queue : List Response := []
  /-- The responses to later requests, by operation; the last of each repeats. -/
  byOpcode : List (Nat × List Response) := []
  /-- The streams, by their numbers less one. -/
  streams : List Line := []
  /-- The requests, in order. -/
  requests : List Request := []

namespace Peer

/-- The word at the start of bytes. -/
def wordAt (bytes : List UInt8) (at_ : Nat) : UInt32 :=
  match bytes.drop at_ with
  | a :: b :: c :: d :: _ => wordOf a b c d
  | _ => 0

/-- The response to a request for an operation, and the peer that has used it up. -/
def nextResponse (p : Peer) (opcode : UInt32) : Response × Peer :=
  match p.queue with
  | r :: rest => (r, { p with queue := rest })
  | [] =>
    match (p.byOpcode.find? fun (n, _) => n == opcode.toNat).map Prod.snd with
    | some (r :: rest) =>
      -- The last response stays for all later requests.
      let left := if rest.isEmpty then [r] else rest
      (r, { p with byOpcode := p.byOpcode.map fun (n, rs) =>
        (n, if n == opcode.toNat then left else rs) })
    | _ => ({}, p)

/-- Opens a stream. -/
def dial (address : Address) (p : Peer) : Except String Nat × Peer :=
  if p.address = some address then
    (.ok (p.streams.length + 1), { p with streams := p.streams ++ [{}] })
  else
    match address with
    | .hidden _ => (.error "os error 111", p)
    | .path _ => (.error "os error 2", p)

/-- The peer's side of a stream, closed when there is none. -/
def line (p : Peer) (stream : Nat) : Line := (p.streams[stream - 1]?).getD { closed := true }

/-- Changes the peer's side of a stream. -/
def setLine (p : Peer) (stream : Nat) (l : Line) : Peer :=
  { p with streams := p.streams.set (stream - 1) l }

/-- Takes a request on a stream and answers it. -/
def send (stream : Nat) (bytes : List UInt8) (p : Peer) : Except StreamFault Unit × Peer :=
  let l := p.line stream
  if l.closed then (.error (.failed "os error 32"), p)
  else if l.hung then (.ok (), p)
  else
    let opcode := wordAt bytes 8
    let seq := wordAt bytes 12
    let request : Request := ⟨stream, bytes.take 24, opcode, seq, bytes.drop 24⟩
    let (r, p) := nextResponse { p with requests := p.requests ++ [request] } opcode
    (.ok (), p.setLine stream
      { pending := l.pending ++ r.bytes seq, closed := r.closes, hung := r.hangs })

/-- Gives bytes that were sent on a stream. -/
def receive (stream n : Nat) (p : Peer) : Except StreamFault (Vector UInt8 n) × Peer :=
  let l := p.line stream
  let taken := l.pending.take n
  if h : taken.length = n then
    (.ok ⟨taken.toArray, h⟩, p.setLine stream { l with pending := l.pending.drop n })
  else if l.closed then (.error (.failed "early eof"), p)
  else (.error .timedOut, p)

/-- Closes a stream. -/
def shut (stream : Nat) (p : Peer) : Except StreamFault Unit × Peer :=
  (.ok (), p.setLine stream { p.line stream with closed := true })

/-- The peer as a network. -/
def network : Network Peer where
  dial := dial
  send := send
  receive := receive
  shut := shut

end Peer

end OverlayControl.Simulation
