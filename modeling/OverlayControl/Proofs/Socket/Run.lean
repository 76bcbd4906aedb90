import OverlayControl.Proofs.Socket.Exchange

/-!
# Runs of the socket client

A client that starts without a stream is asked for any number of calls and hang-ups, over a network
that may do anything. Two facts hold after every request. The requests that were written are
numbered from one upwards, whatever came of them; and the traffic on the stream that is held, since
it was opened, is nothing but whole exchanges under consecutive numbers. So no byte of an earlier
response can be left on it.

* `Client.Run` — a run of requests, as a chain of steps;
* `Orderly` — whole exchanges on one stream, from its opening on;
* `Client.Consistent`, `Client.Consistent.step` — the invariant, and that each step keeps it;
* `Client.run_performAll` — every run is a chain of steps, and ends in the invariant.
-/

namespace OverlayControl.Socket

/-- The bytes of a request, whether or not the stream took them. -/
def Traffic.request? : Traffic → Option (List UInt8)
  | .sent _ bytes _ => some bytes
  | _ => none

/-- The requests of a record, in order. -/
def requests (log : List Traffic) : List (List UInt8) := log.filterMap Traffic.request?

/-- The traffic on the stream `s` from its opening on: whole exchanges under consecutive numbers,
the last of them `q`. -/
inductive Orderly (address : Address) (seconds s : Nat) : UInt32 → List Traffic → Prop
  /-- The stream has been opened. -/
  | opened (q : UInt32) : Orderly address seconds s q [.dialed address.resolved (.ok s)]
  /-- There has been one more exchange. -/
  | exchanged {q : UInt32} {events traffic : List Traffic} {f : Frame}
      {response : ResponseHeader × List UInt8} (orderly : Orderly address seconds s q events)
      (exchange : Exchanged seconds s (q + 1) f (.ok response) traffic) :
      Orderly address seconds s (q + 1) (events ++ traffic)

/-- An exchange writes one request. -/
theorem Exchanged.requests_eq {seconds s : Nat} {seq : UInt32} {f : Frame}
    {result : Except ServiceError (ResponseHeader × List UInt8)} {traffic : List Traffic}
    (h : Exchanged seconds s seq f result traffic) : requests traffic = [f.request seq] := by
  cases h with
  | unsent fault => rfl
  | sent response => cases response <;> rfl

theorem Opened.requests_eq {address : Address} {held : Option Nat} {s : Nat}
    {traffic : List Traffic} (h : Opened address held s traffic) : requests traffic = [] := by
  cases h <;> rfl

theorem Unreachable.requests_eq {address : Address} {why : String} {traffic : List Traffic}
    (h : Unreachable address why traffic) : requests traffic = [] := by
  cases h <;> rfl

namespace Client

/-- A run of requests: each one is a step from where the one before has left the client. -/
inductive Run (address : Address) (seconds : Nat) :
    Client → List Request → List Request.Result → List (List Traffic) → Client → Prop
  /-- Nothing is asked. -/
  | nil (c : Client) : Run address seconds c [] [] [] c
  /-- One request, and the run after it. -/
  | cons {c c' c'' : Client} {request : Request} {result : Request.Result}
      {traffic : List Traffic} {rest : List Request} {results : List Request.Result}
      {turns : List (List Traffic)} (step : Step address seconds c request result traffic c')
      (run : Run address seconds c' rest results turns c'') :
      Run address seconds c (request :: rest) (result :: results) (traffic :: turns) c''

/-- What holds of a client and the record of all its traffic. -/
structure Consistent (address : Address) (seconds : Nat) (c : Client) (log : List Traffic) :
    Prop where
  /-- The requests are numbered from one upwards, modulo the size of the number; the client knows
  the last number. -/
  numbered : ∃ frames : List Frame,
    requests log = frames.mapIdx (fun i f => f.request (UInt32.ofNat (i + 1))) ∧
    c.seq = UInt32.ofNat frames.length
  /-- A stream is held only after whole exchanges. -/
  orderly : ∀ s, c.stream = some s →
    ∃ before since, log = before ++ since ∧ Orderly address seconds s c.seq since

namespace Consistent

variable {address : Address} {seconds : Nat} {c : Client} {log : List Traffic}

/-- A client that has done nothing. -/
theorem fresh : Consistent address seconds {} [] := ⟨⟨[], rfl, rfl⟩, by rintro s ⟨⟩⟩

/-- Nothing has happened on the wire. -/
theorem silent (h : Consistent address seconds c log) :
    Consistent address seconds c (log ++ []) := by
  rw [List.append_nil]
  exact h

/-- Traffic without a request leaves the numbering as it is. -/
theorem numbered_append {traffic : List Traffic} (h : Consistent address seconds c log)
    (hnone : requests traffic = []) :
    ∃ frames : List Frame,
      requests (log ++ traffic) = frames.mapIdx (fun i f => f.request (UInt32.ofNat (i + 1))) ∧
      c.seq = UInt32.ofNat frames.length := by
  obtain ⟨frames, hlog, hseq⟩ := h.numbered
  refine ⟨frames, ?_, hseq⟩
  rw [← hlog, requests, List.filterMap_append]
  exact (congrArg _ hnone).trans (List.append_nil _)

/-- An exchange under the next number continues the numbering, whatever comes of it. -/
theorem numbered_exchange {held : Option Nat} {s : Nat} {f : Frame}
    {result : Except ServiceError (ResponseHeader × List UInt8)} {opening traffic : List Traffic}
    (h : Consistent address seconds c log) (hopened : Opened address held s opening)
    (hexchanged : Exchanged seconds s (c.seq + 1) f result traffic) :
    ∃ frames : List Frame,
      requests (log ++ (opening ++ traffic)) =
        frames.mapIdx (fun i f => f.request (UInt32.ofNat (i + 1))) ∧
      c.seq + 1 = UInt32.ofNat frames.length := by
  obtain ⟨frames, hlog, hseq⟩ := h.numbered
  have hnext : c.seq + 1 = UInt32.ofNat (frames.length + 1) := by
    rw [hseq, UInt32.ofNat_add]
    rfl
  refine ⟨frames ++ [f], ?_, ?_⟩
  · calc requests (log ++ (opening ++ traffic))
        = requests log ++ (requests opening ++ requests traffic) := by
          simp only [requests, List.filterMap_append]
      _ = requests log ++ [f.request (c.seq + 1)] := by
          rw [hopened.requests_eq, hexchanged.requests_eq, List.nil_append]
      _ = _ := by rw [hlog, hnext, List.mapIdx_concat]
  · rw [hnext, List.length_append, List.length_singleton]

/-- Each step keeps the invariant. -/
theorem step {c' : Client} {request : Request} {result : Request.Result} {traffic : List Traffic}
    (h : Consistent address seconds c log)
    (hstep : Step address seconds c request result traffic c') :
    Consistent address seconds c' (log ++ traffic) := by
  cases hstep with
  | unencodable frame => exact h.silent
  | unreachable frame free attempt =>
    refine ⟨h.numbered_append attempt.requests_eq, fun s hs => ?_⟩
    rw [free] at hs
    cases hs
  | answered frame opened exchanged =>
    refine ⟨h.numbered_exchange opened exchanged, fun s hs => ?_⟩
    obtain rfl := Option.some.inj hs
    -- The stream is the one that was in order before, or has been opened just now.
    generalize hheld : c.stream = held at opened
    cases opened with
    | held =>
      obtain ⟨before, since, rfl, horderly⟩ := h.orderly _ hheld
      exact ⟨before, since ++ _, List.append_assoc .., horderly.exchanged exchanged⟩
    | dialed _ usable => exact ⟨log, _, rfl, (Orderly.opened c.seq).exchanged exchanged⟩
  | broken frame opened exchanged =>
    exact ⟨h.numbered_exchange opened exchanged, by rintro s ⟨⟩⟩
  | idle free => exact h.silent
  | ended held answer => exact ⟨h.numbered_append rfl, by rintro s ⟨⟩⟩

/-- A whole run keeps the invariant. -/
theorem run {c' : Client} {rs : List Request} {results : List Request.Result}
    {turns : List (List Traffic)} (hrun : Run address seconds c rs results turns c')
    (h : Consistent address seconds c log) :
    Consistent address seconds c' (log ++ turns.flatten) := by
  -- By induction on the run, from any record that is consistent.
  induction hrun generalizing log with
  | nil c => exact h.silent
  | cons hstep _ ih =>
    rw [List.flatten_cons, ← List.append_assoc]
    exact ih (h.step hstep)

end Consistent

variable {ω : Type} (net : Network ω) (address : Address) (seconds : Nat)

/-- Does what is asked, one request after the other. -/
def performAll : List Request → Client × ω → List Request.Result × (Client × ω)
  | [], cw => ([], cw)
  | request :: rest, cw =>
    let (result, cw) := perform net address seconds request cw
    let (results, cw) := performAll rest cw
    (result :: results, cw)

/-- Over a recorded network a run has the results that it has over the network itself, and is a
chain of steps. -/
theorem performAll_recording (rs : List Request) (c : Client) (w : ω) (log : List Traffic) :
    ∃ turns : List (List Traffic),
      performAll net.recording address seconds rs (c, (w, log)) =
        ((performAll net address seconds rs (c, w)).1,
          ((performAll net address seconds rs (c, w)).2.1,
            (performAll net address seconds rs (c, w)).2.2, log ++ turns.flatten)) ∧
      Run address seconds c rs (performAll net address seconds rs (c, w)).1 turns
        (performAll net address seconds rs (c, w)).2.1 := by
  induction rs generalizing c w log with
  | nil =>
    exact ⟨[], Prod.ext rfl (Prod.ext rfl (Prod.ext rfl (List.append_nil log).symm)), .nil c⟩
  | cons request rest ih =>
    obtain ⟨traffic, hperform, hstep⟩ := perform_recording net address seconds request c w log
    obtain ⟨turns, hrest, hrun⟩ := ih (perform net address seconds request (c, w)).2.1
      (perform net address seconds request (c, w)).2.2 (log ++ traffic)
    refine ⟨traffic :: turns, ?_, .cons hstep hrun⟩
    simp only [performAll]
    rw [hperform]
    dsimp only
    rw [hrest, List.flatten_cons, List.append_assoc]

/-- A client that starts without a stream, over any network: every request does what `Step` says of
it, and afterwards the invariant holds of the client and of all the traffic. -/
theorem run_performAll (rs : List Request) (w : ω) :
    ∃ turns : List (List Traffic),
      performAll net.recording address seconds rs ({}, (w, [])) =
        ((performAll net address seconds rs ({}, w)).1,
          ((performAll net address seconds rs ({}, w)).2.1,
            (performAll net address seconds rs ({}, w)).2.2, turns.flatten)) ∧
      Run address seconds {} rs (performAll net address seconds rs ({}, w)).1 turns
        (performAll net address seconds rs ({}, w)).2.1 ∧
      Consistent address seconds (performAll net address seconds rs ({}, w)).2.1 turns.flatten := by
  obtain ⟨turns, hrun, hsteps⟩ := performAll_recording net address seconds rs {} w []
  exact ⟨turns, hrun, hsteps, Consistent.fresh.run hsteps⟩

end Client

end OverlayControl.Socket
