import OverlayControl.Proofs.Connection.Negotiated

/-!
# The life of a connection

The owner of a device connects, disconnects and reconnects any number of times, one call after the
other, with a service that may answer each negotiation differently, fail at any question, and object
to its end.

* `Lifecycle.Step` — what one call does to the world;
* `Lifecycle.Run` — calls one after the other;
* `Lifecycle.Since` — something has happened since the last call that gave the connection up;
* `Lifecycle.Accounted`, `Lifecycle.Accounted.step` — what the live connection tells of the history,
  and that each call keeps it so;
* `Lifecycle.accounted_mapM_perform` — every row of calls is a run, and the connection that is live
  after it is accounted for.
-/

namespace OverlayControl.Lifecycle

/-- What the owner of a device may ask for. -/
inductive Call
  /-- A connection, unless there is one. -/
  | connect
  /-- The end of the connection. -/
  | disconnect
  /-- Another connection. -/
  | reconnect
  deriving DecidableEq

/-- One call, and what came of it. -/
structure Turn where
  /-- What was asked for. -/
  call : Call
  /-- What was returned; a disconnection returns nothing. -/
  result : Option (Except ConnectError Connection)
  /-- What was said in the negotiation, if there was one. -/
  negotiation : Option Transcript

variable {δ : Type} (d : Device δ) (tolerant : Bool)

/-- Does what is asked for. -/
def perform : Call → Action δ (Option (Except ConnectError Connection))
  | .connect => do pure (some (← connect d tolerant))
  | .disconnect => do
    disconnect d
    pure none
  | .reconnect => do pure (some (← reconnect d tolerant))

/-- The world after the service has been told that the connection ends, whatever it says to that. -/
def hungUp (w : World δ) : World δ :=
  { device := (d.hangUp w.device).2, connection := none, log := w.log ++ [.hungUp] }

/-- The world after a negotiation in which `t` was said, which came to `result` and left the service
in the state `s`: what it came to is the live connection. -/
def negotiated (w : World δ) (t : Transcript) (s : δ) (result : Except ConnectError Connection) :
    World δ :=
  { w.after s (t.map Prod.fst) with connection := result.toOption }

/-- What one call does to the world. -/
inductive Step (w : World δ) : Turn → World δ → Prop
  /-- The live connection is handed out again, and nothing is sent. -/
  | cached {c : Connection} (held : w.connection = some c) :
      Step w ⟨.connect, some (.ok c), none⟩ w
  /-- Without a live connection one is negotiated. -/
  | connected {t : Transcript} {s : δ} {result : Except ConnectError Connection}
      (free : w.connection = none) (answers : d.toService.Answers w.device t s)
      (comes : Negotiated tolerant t result) :
      Step w ⟨.connect, some result, some t⟩ (negotiated w t s result)
  /-- The connection is given up, and the service is told so once. -/
  | disconnected : Step w ⟨.disconnect, none, none⟩ (hungUp d w)
  /-- The connection is given up, the service is told so once, and another one is negotiated. -/
  | reconnected {t : Transcript} {s : δ} {result : Except ConnectError Connection}
      (answers : d.toService.Answers (hungUp d w).device t s)
      (comes : Negotiated tolerant t result) :
      Step w ⟨.reconnect, some result, some t⟩ (negotiated (hungUp d w) t s result)

/-- Calls one after the other. -/
inductive Run : World δ → List Turn → World δ → Prop
  /-- Nothing is asked for. -/
  | nil (w : World δ) : Run w [] w
  /-- One call, and the calls after it. -/
  | cons {w w' w'' : World δ} {turn : Turn} {turns : List Turn} (step : Step d tolerant w turn w')
      (run : Run w' turns w'') : Run w (turn :: turns) w''

/-- A turn that `p` holds of has been taken, and no later one gave the connection up: neither a
disconnection nor a reconnection has begun since. -/
def Since (p : Turn → Prop) (history : List Turn) : Prop :=
  ∃ before turn after, history = before ++ turn :: after ∧ p turn ∧
    ∀ later ∈ after, later.call = .connect

/-- What the live connection tells of the turns that were taken. -/
structure Accounted (history : List Turn) (live : Option Connection) : Prop where
  /-- A connection is live exactly when it was handed out since the last disconnection or
  reconnection began. -/
  handed : ∀ c, live = some c ↔ Since (fun turn => turn.result = some (.ok c)) history
  /-- It was negotiated since then. -/
  negotiated : ∀ c, live = some c →
    Since (fun turn => turn.result = some (.ok c) ∧ turn.negotiation.isSome = true) history

section Since

variable {p : Turn → Prop} {history : List Turn} {turn : Turn}

theorem not_since_nil : ¬Since p [] := by
  rintro ⟨before, turn, after, h, _⟩
  simp at h

/-- The last turn is one that `p` holds of, or it is a connection and the rest had such a turn. -/
theorem since_concat :
    Since p (history ++ [turn]) ↔ p turn ∨ turn.call = .connect ∧ Since p history := by
  constructor
  · rintro ⟨before, found, after, h, hp, hafter⟩
    rcases List.eq_nil_or_concat after with rfl | ⟨front, last, rfl⟩
    · obtain ⟨-, rfl⟩ : history = before ∧ turn = found := by simpa using h
      exact .inl hp
    · rw [List.concat_eq_append, ← List.cons_append, ← List.append_assoc] at h
      obtain ⟨rfl, hlast⟩ := List.append_inj' h rfl
      obtain rfl := List.singleton_inj.1 hlast
      refine .inr ⟨hafter turn (by simp), before, found, front, rfl, hp, fun later hlater => ?_⟩
      exact hafter later (by simp [hlater])
  · rintro (hp | ⟨hcall, before, found, after, rfl, hp, hafter⟩)
    · exact ⟨history, turn, [], rfl, hp, by simp⟩
    · refine ⟨before, found, after ++ [turn], by simp, hp, fun later hlater => ?_⟩
      rcases List.mem_append.1 hlater with hlater | hlater
      · exact hafter later hlater
      · rw [List.mem_singleton.1 hlater, hcall]

end Since

namespace Accounted

variable {d tolerant} {history : List Turn} {live : Option Connection}

/-- Before the first call there is no connection. -/
theorem nil : Accounted [] none :=
  ⟨fun c => by simp [not_since_nil], fun c h => by simp at h⟩

/-- The live connection is handed out again. -/
theorem cached {c : Connection} (h : Accounted history (some c)) :
    Accounted (history ++ [⟨.connect, some (.ok c), none⟩]) (some c) := by
  refine ⟨fun c' => ?_, fun c' hlive => ?_⟩
  · rw [since_concat, ← h.handed c']
    simp
  · rw [since_concat]
    exact .inr ⟨rfl, h.negotiated c' hlive⟩

/-- A negotiation comes to a live connection or to none, when there was none before or it was given
up. -/
theorem settled {call : Call} {t : Transcript} {result : Except ConnectError Connection}
    (h : call = .connect → Accounted history none) :
    Accounted (history ++ [⟨call, some result, some t⟩]) result.toOption := by
  have hnone (c : Connection) : ¬(call = .connect ∧
      Since (fun turn => turn.result = some (.ok c)) history) := by
    rintro ⟨hcall, hsince⟩
    cases ((h hcall).handed c).2 hsince
  refine ⟨fun c => ?_, fun c hlive => ?_⟩
  · rw [since_concat, or_iff_left (hnone c)]
    cases result <;> simp [Except.toOption]
  · rw [since_concat]
    cases result with
    | error e => simp [Except.toOption] at hlive
    | ok c' => exact .inl (by simpa [Except.toOption] using hlive)

/-- The connection is given up. -/
theorem disconnected : Accounted (history ++ [⟨.disconnect, none, none⟩]) none :=
  ⟨fun c => by simp [since_concat], fun c h => by simp at h⟩

/-- Each call keeps the live connection accounted for. -/
theorem step {w w' : World δ} {turn : Turn} (h : Accounted history w.connection)
    (hstep : Step d tolerant w turn w') : Accounted (history ++ [turn]) w'.connection := by
  cases hstep with
  | cached held =>
    rw [held] at h ⊢
    exact h.cached
  | connected free answers comes =>
    rw [free] at h
    exact settled fun _ => h
  | disconnected => exact disconnected
  | reconnected answers comes => exact settled (by simp)

/-- And so do any number of calls. -/
theorem run {w w' : World δ} {turns : List Turn} (h : Accounted history w.connection)
    (hrun : Run d tolerant w turns w') : Accounted (history ++ turns) w'.connection := by
  -- By induction on the run, from any history that accounts for the live connection.
  induction hrun generalizing history with
  | nil w => simpa using h
  | @cons w w' w'' turn turns hstep _ ih => simpa using ih (h.step hstep)

end Accounted

section Perform

/-- With a live connection nothing is negotiated. -/
theorem run_connect_of_some {w : World δ} {c : Connection} (h : w.connection = some c) :
    (connect d tolerant).run w = (.ok c, w) := by
  obtain ⟨device, connection, log⟩ := w
  obtain rfl : connection = some c := h
  rfl

/-- Without one, the connection is what is negotiated. -/
theorem run_connect_of_none {w : World δ} (h : w.connection = none) :
    (connect d tolerant).run w =
      match (negotiate d tolerant).run w with
      | (.ok c, w') => (.ok c, { w' with connection := some c })
      | (.error e, w') => (.error e, w') := by
  have hlive : (live : Action δ _).run w = (none, w) := by
    rw [← h]
    rfl
  rw [connect, StateT.run_bind, hlive]
  show (negotiate d tolerant >>= _ : Action δ _).run w = _
  rw [StateT.run_bind]
  obtain ⟨result, w'⟩ := (negotiate d tolerant).run w
  cases result <;> rfl

/-- A reconnection is a connection after the other one has been given up. -/
theorem run_reconnect (w : World δ) :
    (reconnect d tolerant).run w = (connect d tolerant).run (hungUp d w) := rfl

/-- A negotiation leaves behind what it came to. -/
theorem exists_run_connect {w : World δ} (h : w.connection = none) :
    ∃ t s result, d.toService.Answers w.device t s ∧ Negotiated tolerant t result ∧
      (connect d tolerant).run w = (result, negotiated w t s result) := by
  obtain ⟨t, s, hanswers, hcomes, hafter⟩ := talks_negotiate d tolerant w
  have hrun : (negotiate d tolerant).run w =
      (((negotiate d tolerant).run w).1, w.after s (t.map Prod.fst)) := Prod.ext rfl hafter
  generalize ((negotiate d tolerant).run w).1 = result at hcomes hrun
  refine ⟨t, s, result, hanswers, hcomes, ?_⟩
  rw [run_connect_of_none d tolerant h, hrun]
  cases result with
  | ok c => rfl
  -- The negotiation itself sets no connection, so there is still none.
  | error e => exact congrArg (fun k => (_, { w.after s (t.map Prod.fst) with connection := k })) h

/-- Every call is a step. -/
theorem step_of_perform (call : Call) (w : World δ) :
    ∃ turn, turn.call = call ∧ turn.result = ((perform d tolerant call).run w).1 ∧
      Step d tolerant w turn ((perform d tolerant call).run w).2 := by
  cases call with
  | connect =>
    show ∃ turn : Turn, _ ∧ turn.result = some ((connect d tolerant).run w).1 ∧
      Step d tolerant w turn ((connect d tolerant).run w).2
    cases hlive : w.connection with
    | some c =>
      rw [run_connect_of_some d tolerant hlive]
      exact ⟨_, rfl, rfl, .cached hlive⟩
    | none =>
      obtain ⟨t, s, result, hanswers, hcomes, hrun⟩ := exists_run_connect d tolerant hlive
      rw [hrun]
      exact ⟨_, rfl, rfl, .connected hlive hanswers hcomes⟩
  | disconnect => exact ⟨_, rfl, rfl, .disconnected⟩
  | reconnect =>
    show ∃ turn : Turn, _ ∧ turn.result = some ((reconnect d tolerant).run w).1 ∧
      Step d tolerant w turn ((reconnect d tolerant).run w).2
    obtain ⟨t, s, result, hanswers, hcomes, hrun⟩ :=
      exists_run_connect d tolerant (w := hungUp d w) rfl
    rw [run_reconnect, hrun]
    exact ⟨_, rfl, rfl, .reconnected hanswers hcomes⟩

/-- Every row of calls is a run, turn by turn. -/
theorem run_of_mapM_perform (calls : List Call) (w : World δ) :
    ∃ history, history.map Turn.call = calls ∧
      history.map Turn.result = ((calls.mapM (perform d tolerant)).run w).1 ∧
      Run d tolerant w history ((calls.mapM (perform d tolerant)).run w).2 := by
  induction calls generalizing w with
  | nil => exact ⟨[], rfl, rfl, .nil w⟩
  | cons call calls ih =>
    obtain ⟨turn, hcall, hresult, hstep⟩ := step_of_perform d tolerant call w
    obtain ⟨history, hcalls, hresults, hrun⟩ := ih ((perform d tolerant call).run w).2
    rw [List.mapM_cons]
    refine ⟨turn :: history, ?_, ?_, .cons hstep hrun⟩
    · rw [List.map_cons, hcall, hcalls]
    · rw [List.map_cons, hresult, hresults]
      rfl

end Perform

/-- Any number of calls, one after the other, on a device in any state: each one does what `Step`
says of it, and the connection that is live after them is the one that was negotiated and handed out
since the last disconnection or reconnection began; none is live if there was no such. -/
theorem accounted_mapM_perform (d : Device δ) (tolerant : Bool) (calls : List Call) (s : δ) :
    let final := (calls.mapM (perform d tolerant)).run { device := s }
    ∃ history, history.map Turn.call = calls ∧ history.map Turn.result = final.1 ∧
      Run d tolerant { device := s } history final.2 ∧ Accounted history final.2.connection := by
  intro final
  obtain ⟨history, hcalls, hresults, hrun⟩ := run_of_mapM_perform d tolerant calls { device := s }
  have haccounted : Accounted ([] ++ history) final.2.connection := Accounted.nil.run hrun
  exact ⟨history, hcalls, hresults, hrun, haccounted⟩

end OverlayControl.Lifecycle
