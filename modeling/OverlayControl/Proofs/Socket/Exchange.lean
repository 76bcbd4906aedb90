import OverlayControl.Socket.Client

/-!
# What a socket client does on the wire

One request to a client does one of six things, and each of them is fixed by what the network
answered. The wire is kept on record next to the network, so that a statement about a run can speak
of the bytes that went over a stream.

* `Network.recording` — a network that keeps a record of its traffic;
* `ResponseHeader.decode_eq_ok_iff` — the headers that are accepted;
* `Received`, `Exchanged` — the response to a request, and the request with its response: whole, or
  broken off at one of five points;
* `Client.Step` — what one request to the client does to the client and to the record;
* `Client.perform_recording` — every request does what `Client.Step` says.
-/

namespace OverlayControl.Socket

/-- Something that a client does on a network, and what comes of it. -/
inductive Traffic
  /-- A stream is opened to an address. -/
  | dialed (address : Address) (answer : Except String Nat)
  /-- Bytes are written to a stream. -/
  | sent (stream : Nat) (bytes : List UInt8) (answer : Except StreamFault Unit)
  /-- So many bytes are read from a stream. -/
  | received (stream n : Nat) (answer : Except StreamFault (List UInt8))
  /-- A stream is ended. -/
  | shut (stream : Nat) (answer : Except StreamFault Unit)

/-- A network that keeps a record of its traffic. -/
def Network.recording {ω : Type} (net : Network ω) : Network (ω × List Traffic) where
  dial address w :=
    let (answer, inner) := net.dial address w.1
    (answer, inner, w.2 ++ [.dialed address answer])
  send s bytes w :=
    let (answer, inner) := net.send s bytes w.1
    (answer, inner, w.2 ++ [.sent s bytes answer])
  receive s n w :=
    let (answer, inner) := net.receive s n w.1
    (answer, inner, w.2 ++ [.received s n (answer.map Vector.toList)])
  shut s w :=
    let (answer, inner) := net.shut s w.1
    (answer, inner, w.2 ++ [.shut s answer])

namespace Network

variable {ω : Type} (net : Network ω) (w : ω × List Traffic)

@[simp] theorem recording_dial (address : Address) :
    net.recording.dial address w =
      ((net.dial address w.1).1, (net.dial address w.1).2,
        w.2 ++ [.dialed address (net.dial address w.1).1]) := rfl

@[simp] theorem recording_send (s : Nat) (bytes : List UInt8) :
    net.recording.send s bytes w =
      ((net.send s bytes w.1).1, (net.send s bytes w.1).2,
        w.2 ++ [.sent s bytes (net.send s bytes w.1).1]) := rfl

@[simp] theorem recording_receive (s n : Nat) :
    net.recording.receive s n w =
      ((net.receive s n w.1).1, (net.receive s n w.1).2,
        w.2 ++ [.received s n ((net.receive s n w.1).1.map Vector.toList)]) := rfl

@[simp] theorem recording_shut (s : Nat) :
    net.recording.shut s w =
      ((net.shut s w.1).1, (net.shut s w.1).2, w.2 ++ [.shut s (net.shut s w.1).1]) := rfl

end Network

/-- The sixteen bytes are the header `h` of a response that is not too long. -/
structure ResponseHeader.Reads (raw : Vector UInt8 16) (h : ResponseHeader) : Prop where
  /-- The header starts with the magic word. -/
  magic : wordOf (raw.get 0) (raw.get 1) (raw.get 2) (raw.get 3) = Socket.magic
  /-- The second word is the number of the request. -/
  seq : wordOf (raw.get 4) (raw.get 5) (raw.get 6) (raw.get 7) = h.seq
  /-- The third word is the result, in two's complement. -/
  result : signed (wordOf (raw.get 8) (raw.get 9) (raw.get 10) (raw.get 11)) = h.result
  /-- The last word is the length of the payload. -/
  size : wordOf (raw.get 12) (raw.get 13) (raw.get 14) (raw.get 15) = h.size
  /-- The payload is not too long. -/
  bounded : h.size.toNat ≤ maxPayload

theorem ResponseHeader.decode_eq_ok_iff {raw : Vector UInt8 16} {h : ResponseHeader} :
    ResponseHeader.decode raw = .ok h ↔ ResponseHeader.Reads raw h := by
  constructor
  · intro hdecode
    simp only [ResponseHeader.decode] at hdecode
    split at hdecode
    · cases hdecode
    · rename_i hmagic
      split at hdecode
      · cases hdecode
      · rename_i hsize
        cases hdecode
        exact ⟨Decidable.not_not.1 hmagic, rfl, rfl, rfl, Nat.le_of_not_lt hsize⟩
  · intro hreads
    have hmagic : wordOf raw[0] raw[1] raw[2] raw[3] = magic := hreads.magic
    have hseq : wordOf raw[4] raw[5] raw[6] raw[7] = h.seq := hreads.seq
    have hresult : signed (wordOf raw[8] raw[9] raw[10] raw[11]) = h.result := hreads.result
    have hsize : wordOf raw[12] raw[13] raw[14] raw[15] = h.size := hreads.size
    simp only [ResponseHeader.decode]
    rw [if_neg (Decidable.not_not.2 hmagic), hseq, hresult, hsize,
      if_neg (Nat.not_lt.2 hreads.bounded)]

/-- The bytes of a frame as the request `seq`. -/
def Frame.request (f : Frame) (seq : UInt32) : List UInt8 :=
  (⟨f.opcode, seq, UInt32.ofNat f.payload.length⟩ : RequestHeader).encode ++ f.payload

/-- The traffic on the stream `s` when the response to the request `seq` is read, with the
outcome. -/
inductive Received (seconds s : Nat) (seq : UInt32) :
    Except ServiceError (ResponseHeader × List UInt8) → List Traffic → Prop
  /-- The response is read to its end, and not further. -/
  | whole {raw : Vector UInt8 16} {header : ResponseHeader} {payload : List UInt8}
      (reads : ResponseHeader.Reads raw header) (own : header.seq = seq)
      (length : payload.length = header.size.toNat) :
      Received seconds s seq (.ok (header, payload))
        [.received s 16 (.ok raw.toList), .received s header.size.toNat (.ok payload)]
  /-- No header comes. -/
  | unanswered (fault : StreamFault) :
      Received seconds s seq (.error (Client.faultError seconds fault))
        [.received s 16 (.error fault)]
  /-- The header has another magic word, or tells of too long a payload. -/
  | malformed {raw : Vector UInt8 16} {e : ServiceError}
      (error : ResponseHeader.decode raw = .error e) :
      Received seconds s seq (.error e) [.received s 16 (.ok raw.toList)]
  /-- The header belongs to another request. -/
  | foreign {raw : Vector UInt8 16} {header : ResponseHeader}
      (reads : ResponseHeader.Reads raw header) (other : header.seq ≠ seq) :
      Received seconds s seq
        (.error (.protocol s!"response sequence {header.seq} does not match request {seq}"))
        [.received s 16 (.ok raw.toList)]
  /-- The payload does not come to its end. -/
  | cut {raw : Vector UInt8 16} {header : ResponseHeader} (fault : StreamFault)
      (reads : ResponseHeader.Reads raw header) (own : header.seq = seq) :
      Received seconds s seq (.error (Client.faultError seconds fault))
        [.received s 16 (.ok raw.toList), .received s header.size.toNat (.error fault)]

/-- The traffic on the stream `s` when a frame is sent as the request `seq`, with the outcome. -/
inductive Exchanged (seconds s : Nat) (seq : UInt32) (f : Frame) :
    Except ServiceError (ResponseHeader × List UInt8) → List Traffic → Prop
  /-- The request is not taken. -/
  | unsent (fault : StreamFault) :
      Exchanged seconds s seq f (.error (Client.faultError seconds fault))
        [.sent s (f.request seq) (.error fault)]
  /-- The request is taken, and a response is waited for. -/
  | sent {result : Except ServiceError (ResponseHeader × List UInt8)} {traffic : List Traffic}
      (response : Received seconds s seq result traffic) :
      Exchanged seconds s seq f result (.sent s (f.request seq) (.ok ()) :: traffic)

namespace Client

variable {ω : Type} (net : Network ω) (address : Address) (seconds : Nat)

/-- A response is read from a recorded network as from the network itself. -/
theorem receiveResponse_recording (s : Nat) (seq : UInt32) (w : ω) (log : List Traffic) :
    ∃ traffic,
      receiveResponse net.recording seconds s seq (w, log) =
        ((receiveResponse net seconds s seq w).1, (receiveResponse net seconds s seq w).2,
          log ++ traffic) ∧
      Received seconds s seq (receiveResponse net seconds s seq w).1 traffic := by
  simp only [receiveResponse, Network.recording_receive]
  rcases net.receive s 16 w with ⟨fault | raw, w₁⟩
  · exact ⟨_, rfl, .unanswered fault⟩
  dsimp only
  cases hdecode : ResponseHeader.decode raw with
  | error e => exact ⟨_, rfl, .malformed hdecode⟩
  | ok header =>
    have hreads := ResponseHeader.decode_eq_ok_iff.1 hdecode
    by_cases hseq : header.seq = seq
    · dsimp only
      rw [if_neg (Decidable.not_not.2 hseq), if_neg (Decidable.not_not.2 hseq)]
      rcases net.receive s header.size.toNat w₁ with ⟨fault | payload, w₂⟩
      · exact ⟨_, congrArg _ (congrArg _ (List.append_assoc ..)), .cut fault hreads hseq⟩
      · exact ⟨_, congrArg _ (congrArg _ (List.append_assoc ..)),
          .whole hreads hseq payload.length_toList⟩
    · dsimp only
      rw [if_pos hseq, if_pos hseq]
      exact ⟨_, rfl, .foreign hreads hseq⟩

/-- An exchange on a recorded network goes as on the network itself. -/
theorem exchange_recording (s : Nat) (seq : UInt32) (f : Frame) (w : ω) (log : List Traffic) :
    ∃ traffic,
      exchange net.recording seconds s seq f (w, log) =
        ((exchange net seconds s seq f w).1, (exchange net seconds s seq f w).2, log ++ traffic) ∧
      Exchanged seconds s seq f (exchange net seconds s seq f w).1 traffic := by
  simp only [exchange, Network.recording_send]
  rcases net.send s _ w with ⟨fault | _, w₁⟩
  · exact ⟨_, rfl, .unsent fault⟩
  · obtain ⟨traffic, hrun, hreceived⟩ := receiveResponse_recording net seconds s seq w₁
      (log ++ [.sent s (f.request seq) (.ok ())])
    refine ⟨_, ?_, .sent hreceived⟩
    rw [List.append_assoc] at hrun
    exact hrun

end Client

/-- How the stream `s` is come by: it is the one that is held, or no stream is held and a new one is
opened. -/
inductive Opened (address : Address) : Option Nat → Nat → List Traffic → Prop
  /-- The stream that is held is used. -/
  | held (s : Nat) : Opened address (some s) s []
  /-- A new stream is opened. -/
  | dialed (s : Nat) (usable : address.resolved.fault? = none) :
      Opened address none s [.dialed address.resolved (.ok s)]

/-- Why no stream can be opened. -/
inductive Unreachable (address : Address) : String → List Traffic → Prop
  /-- The system takes no such address. -/
  | unusable {why : String} (fault : address.resolved.fault? = some why) :
      Unreachable address why []
  /-- The connection is refused. -/
  | refused (why : String) (usable : address.resolved.fault? = none) :
      Unreachable address why [.dialed address.resolved (.error why)]

/-- What is asked of a client. -/
inductive Request
  /-- To answer a command. -/
  | call (command : Command)
  /-- To end the stream that is open. -/
  | hangUp

/-- The reply that a request gets, if it asks for one and does not fail. -/
abbrev Request.Result := Except ServiceError (Option Reply)

namespace Client

variable {ω : Type} (net : Network ω) (address : Address) (seconds : Nat)

/-- Does what is asked. -/
def perform : Request → Client × ω → Request.Result × (Client × ω)
  | .call command, cw =>
    let (answer, cw) := call net address seconds command cw
    (answer.map some, cw)
  | .hangUp, cw =>
    let (answer, cw) := hangUp net seconds cw
    (answer.map fun _ => none, cw)

/-- What one request does to a client, with its result and the traffic that it makes. -/
inductive Step (c : Client) : Request → Request.Result → List Traffic → Client → Prop
  /-- A command without a frame reaches no stream, and uses no number. -/
  | unencodable {command : Command} {e : ServiceError}
      (frame : Frame.ofCommand command = .error e) :
      Step c (.call command) (.error e) [] c
  /-- No stream is held and none can be opened; no number is used. -/
  | unreachable {command : Command} {f : Frame} {why : String} {traffic : List Traffic}
      (frame : Frame.ofCommand command = .ok f) (free : c.stream = none)
      (attempt : Unreachable address why traffic) :
      Step c (.call command) (.error (.unavailable s!"connect {address.display}: {why}")) traffic c
  /-- A whole exchange under the next number; the stream is held. -/
  | answered {command : Command} {f : Frame} {s : Nat} {header : ResponseHeader}
      {payload : List UInt8} {opening traffic : List Traffic}
      (frame : Frame.ofCommand command = .ok f) (opened : Opened address c.stream s opening)
      (exchanged : Exchanged seconds s (c.seq + 1) f (.ok (header, payload)) traffic) :
      Step c (.call command) (.ok (some (replyOf command header.result payload)))
        (opening ++ traffic) ⟨some s, c.seq + 1⟩
  /-- An exchange under the next number that is broken off; the stream is given up. -/
  | broken {command : Command} {f : Frame} {s : Nat} {e : ServiceError}
      {opening traffic : List Traffic}
      (frame : Frame.ofCommand command = .ok f) (opened : Opened address c.stream s opening)
      (exchanged : Exchanged seconds s (c.seq + 1) f (.error e) traffic) :
      Step c (.call command) (.error e) (opening ++ traffic) ⟨none, c.seq + 1⟩
  /-- There is nothing to end. -/
  | idle (free : c.stream = none) : Step c .hangUp (.ok none) [] c
  /-- The stream is ended and given up, whether or not it ends without a fault. -/
  | ended {s : Nat} (held : c.stream = some s) (answer : Except StreamFault Unit) :
      Step c .hangUp ((answer.mapError (faultError seconds)).map fun _ => none) [.shut s answer]
        ⟨none, c.seq⟩

/-- A stream is opened over a recorded network as over the network itself. -/
theorem takeStream_recording (c : Client) (w : ω) (log : List Traffic) :
    ∃ traffic,
      takeStream net.recording address c (w, log) =
        ((takeStream net address c w).1, (takeStream net address c w).2, log ++ traffic) ∧
      match (takeStream net address c w).1 with
      | .ok s => Opened address c.stream s traffic
      | .error e => c.stream = none ∧ ∃ why, Unreachable address why traffic ∧
          e = .unavailable s!"connect {address.display}: {why}" := by
  obtain ⟨_ | s, seq⟩ := c
  · simp only [takeStream, dial]
    cases hfault : address.resolved.fault? with
    | some why =>
      exact ⟨[], Prod.ext rfl (Prod.ext rfl (List.append_nil log).symm), trivial, why,
        .unusable hfault, rfl⟩
    | none =>
      simp only [Network.recording_dial]
      rcases net.dial address.resolved w with ⟨why | s, w₁⟩
      · exact ⟨_, rfl, trivial, why, .refused why hfault, rfl⟩
      · exact ⟨_, rfl, .dialed s hfault⟩
  · exact ⟨[], Prod.ext rfl (Prod.ext rfl (List.append_nil log).symm), .held s⟩

/-- Over a recorded network a request has the result that it has over the network itself, and is one
of the steps. -/
theorem perform_recording (request : Request) (c : Client) (w : ω) (log : List Traffic) :
    ∃ traffic,
      perform net.recording address seconds request (c, (w, log)) =
        ((perform net address seconds request (c, w)).1,
          ((perform net address seconds request (c, w)).2.1,
            (perform net address seconds request (c, w)).2.2, log ++ traffic)) ∧
      Step address seconds c request (perform net address seconds request (c, w)).1 traffic
        (perform net address seconds request (c, w)).2.1 := by
  cases request with
  | hangUp =>
    obtain ⟨_ | s, seq⟩ := c
    · exact ⟨[], Prod.ext rfl (Prod.ext rfl (Prod.ext rfl (List.append_nil log).symm)), .idle rfl⟩
    · exact ⟨[.shut s (net.shut s w).1], rfl, .ended rfl _⟩
  | call command =>
    simp only [perform, call]
    cases hframe : Frame.ofCommand command with
    | error e =>
      exact ⟨[], Prod.ext rfl (Prod.ext rfl (Prod.ext rfl (List.append_nil log).symm)),
        .unencodable hframe⟩
    | ok f =>
      obtain ⟨opening, htake, hopened⟩ := takeStream_recording net address c w log
      dsimp only
      rw [htake]
      revert hopened
      rcases takeStream net address c w with ⟨e | s, w₁⟩
      · rintro ⟨hfree, why, hunreachable, rfl⟩
        have hsame : ({ c with stream := none } : Client) = c := by
          rw [← hfree]
        refine ⟨opening, rfl, ?_⟩
        dsimp only
        rw [hsame]
        exact .unreachable hframe hfree hunreachable
      · intro hopened
        obtain ⟨traffic, hrun, hexchanged⟩ :=
          exchange_recording net seconds s (c.seq + 1) f w₁ (log ++ opening)
        refine ⟨opening ++ traffic, ?_, ?_⟩
        · dsimp only
          rw [hrun, List.append_assoc]
          rcases exchange net seconds s (c.seq + 1) f w₁ with ⟨e | response, w₂⟩ <;> rfl
        · dsimp only
          revert hexchanged
          rcases exchange net seconds s (c.seq + 1) f w₁ with ⟨e | ⟨header, payload⟩, w₂⟩
          · exact fun hexchanged => .broken hframe hopened hexchanged
          · exact fun hexchanged => .answered hframe hopened hexchanged

end Client

end OverlayControl.Socket
