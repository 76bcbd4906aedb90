import OverlayControl.Verdict

/-!
# The device and what the program does to it

Everything outside the program is a `Device`: the privileged service together with the files. A
`World` is a device in some state, the live connection, and the record of what the service was sent.
Operations are state transformers of worlds.

* `issue` — sends a command and records it with the connection that was live at that moment;
* `execute` — sends a command if a connection is live, and judges the reply;
* `Outcome` — the result of a command: success or failure with a text, never an error.
-/

namespace OverlayControl

/-- Why a file cannot be read or written. -/
inductive FileFault
  /-- The file is not there. -/
  | notFound
  /-- Any other failure of the system, by its number. -/
  | system (number : Nat)
  /-- The file is not UTF-8 text. -/
  | notText
  /-- A failure that is told in words. -/
  | other (what : String)
  deriving DecidableEq

/-- The wording of a fault. -/
def FileFault.message : FileFault → String
  | .notFound => "os error 2"
  | .system n => s!"os error {n}"
  | .notText => "stream did not contain valid UTF-8"
  | .other what => what

/-- Files, with states `φ`. -/
structure Storage (φ : Type) where
  /-- The contents of a file. -/
  readFile : Path → φ → Except FileFault (List UInt8)
  /-- Replaces a file as a whole, making its directories; on failure no file has changed, though
  directories may have been made. -/
  replaceFile : Path → List UInt8 → φ → Except FileFault Unit × φ

/-- A device with states `δ`: the service and the files. -/
structure Device (δ : Type) extends Service δ, Storage δ

/-- The text of a file. -/
def Storage.readText {φ : Type} (s : Storage φ) (p : Path) (st : φ) : Except FileFault String :=
  match s.readFile p st with
  | .error e => .error e
  | .ok bytes =>
    match Utf8.decode? bytes with
    | some text => .ok text
    | none => .error .notText

/-- What the service was sent. -/
inductive Event
  /-- A command, with the connection that was live at that moment. -/
  | issued (command : Command) (live : Option Connection)
  /-- The end of the connection. -/
  | hungUp
  deriving DecidableEq

/-- A device in some state, as the program sees it. -/
structure World (δ : Type) where
  /-- The state of the device. -/
  device : δ
  /-- The live connection. -/
  connection : Option Connection := none
  /-- What the service was sent, in order. -/
  log : List Event := []

/-- An operation on a world. -/
abbrev Action (δ : Type) := StateM (World δ)

/-- An operation, and then one that goes by its result. -/
theorem Action.run_bind {δ α β : Type} (x : Action δ α) (f : α → Action δ β) (w : World δ) :
    (x >>= f).run w = (f (x.run w).1).run (x.run w).2 := rfl

/-- The result of a command. -/
structure Outcome where
  /-- What was asked for, or a diagnostic. -/
  text : String
  /-- Whether the command succeeded. -/
  success : Bool
  /-- The number that the reply carries, if any. -/
  value : Option Int
  /-- The status of the reply; absent when there was none. -/
  status : Option Int
  deriving DecidableEq

namespace Outcome

/-- The outcome of a command that got no reply. -/
def failure (text : String) : Outcome := { text, success := false, value := none, status := none }

/-- The outcome that an answer to a command amounts to. -/
def ofAnswer (c : Command) : Except ServiceError Reply → Outcome
  | .error e => failure s!"{c.name}: {e.message}"
  | .ok r =>
    let success := Verdict.succeeded r c.returnsText
    { text := if r.text.isEmpty && !success then s!"{c.name} failed with status {r.status}"
        else r.text
      success, value := r.value, status := some r.status }

end Outcome

variable {δ : Type}

/-- The live connection. -/
def live : Action δ (Option Connection) := fun w => (w.connection, w)

/-- Makes a connection the live one, or leaves none. -/
def setLive (c : Option Connection) : Action δ Unit := fun w => ((), { w with connection := c })

/-- Sends a command to the service. -/
def issue (d : Device δ) (c : Command) : Action δ (Except ServiceError Reply) := fun w =>
  let (answer, s) := d.call c w.device
  (answer, { w with device := s, log := w.log ++ [.issued c w.connection] })

@[simp]
theorem connection_issue (d : Device δ) (c : Command) (w : World δ) :
    ((issue d c).run w).2.connection = w.connection := rfl

/-- Sending a command records it, with the connection that is live then. -/
@[simp]
theorem log_issue (d : Device δ) (c : Command) (w : World δ) :
    ((issue d c).run w).2.log = w.log ++ [.issued c w.connection] := rfl

/-- Ends the connection to the service. -/
def hangUp (d : Device δ) : Action δ (Except ServiceError Unit) := fun w =>
  let (answer, s) := d.hangUp w.device
  (answer, { w with device := s, log := w.log ++ [.hungUp] })

/-- The text of a file. -/
def readText (d : Device δ) (p : Path) : Action δ (Except FileFault String) := fun w =>
  (d.toStorage.readText p w.device, w)

theorem run_readText (d : Device δ) (p : Path) (w : World δ) :
    (readText d p).run w = (d.toStorage.readText p w.device, w) := rfl

/-- Replaces a file. -/
def replaceFile (d : Device δ) (p : Path) (bytes : List UInt8) : Action δ (Except FileFault Unit) :=
  fun w =>
    let (result, s) := d.replaceFile p bytes w.device
    (result, { w with device := s })

theorem run_replaceFile (d : Device δ) (p : Path) (bytes : List UInt8) (w : World δ) :
    (replaceFile d p bytes).run w =
      ((d.replaceFile p bytes w.device).1, { w with device := (d.replaceFile p bytes w.device).2 }) :=
  rfl

/-- Sends a command if a connection is live, and judges the reply. -/
def execute (d : Device δ) (c : Command) : Action δ Outcome := do
  match ← live with
  | none => pure (.failure s!"{c.name}: not connected to privileged service")
  | some _ =>
    let answer ← issue d c
    pure (.ofAnswer c answer)

/-- Sending goes by whether a connection is live. -/
theorem run_execute (d : Device δ) (c : Command) (w : World δ) :
    (execute d c).run w =
      match w.connection with
      | none => (.failure s!"{c.name}: not connected to privileged service", w)
      | some _ => (.ofAnswer c ((issue d c).run w).1, ((issue d c).run w).2) := by
  obtain ⟨_, connection, _⟩ := w
  cases connection <;> rfl

/-- Without a live connection nothing is sent. -/
theorem run_execute_of_none (d : Device δ) (c : Command) {w : World δ} (h : w.connection = none) :
    (execute d c).run w =
      (.failure s!"{c.name}: not connected to privileged service", w) := by
  rw [run_execute, h]

/-- With a live connection the command is sent, and its answer is judged. -/
theorem run_execute_of_some (d : Device δ) (c : Command) {w : World δ} {k : Connection}
    (h : w.connection = some k) :
    (execute d c).run w = (.ofAnswer c ((issue d c).run w).1, ((issue d c).run w).2) := by
  rw [run_execute, h]

end OverlayControl
