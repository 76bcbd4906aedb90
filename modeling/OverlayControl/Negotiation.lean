import OverlayControl.World

/-!
# Negotiating a connection

Tiers are asked for from the highest to the lowest, once each, and the first that is accepted is
granted; an answer that names a lower tier grants that one. Then the service tells its versions and
its SELinux context. A service that tells too old a version is refused unless the device's owner
tolerates it.

* `connect` — the live connection, negotiated if there is none;
* `disconnect` — ends the live connection, whatever the service says to that;
* `reconnect` — one after the other.
-/

namespace OverlayControl

/-- The oldest version of the service's protocol that is accepted. -/
def minServiceVersion : Int := 1

/-- Why no connection comes about. -/
inductive ConnectError
  /-- No tier was accepted. -/
  | unavailable (why : String)
  /-- The service is too old. -/
  | versionMismatch (found required : Int)
  deriving DecidableEq

/-- The wording of an error. -/
def ConnectError.message : ConnectError → String
  | .unavailable why => s!"privileged service unavailable: {why}"
  | .versionMismatch found required =>
    s!"service protocol version {found} is older than the supported minimum {required}"

/-- The code that a probe was answered with: the reply's number or else its status; none when the
status is negative. -/
def probeCode (r : Reply) : Option Int :=
  if r.status < 0 then none else some (r.value.getD r.status)

/-- What an answer to the probe of a tier grants, or why it grants nothing. -/
def grant (asked : Tier) : Except ServiceError Reply → Except String Tier
  | .error e => .error s!"{asked.name} probe failed: {e.message}"
  | .ok r =>
    match probeCode r with
    | some code =>
      if 0 ≤ code then
        match Tier.ofCode code with
        | some named => .ok (named.lower asked)
        | none => .ok asked
      else .error s!"{asked.name} probe declined (status {r.status})"
    | none => .error s!"{asked.name} probe declined (status {r.status})"

variable {δ : Type}

/-- Asks for tiers in order; `why` tells why the ones before were not granted. -/
def negotiateTier (d : Device δ) : List Tier → (why : String) → Action δ (Except ConnectError Tier)
  | [], why => pure (.error (.unavailable why))
  | t :: ts, _ => do
    match grant t (← issue d (.probeTier t)) with
    | .ok granted => pure (.ok granted)
    | .error why => negotiateTier d ts why

/-- The number that answers a query, if its status is not negative. -/
def numberOf : Except ServiceError Reply → Option Int
  | .ok r => if 0 ≤ r.status then r.value else none
  | .error _ => none

/-- The text without the NUL characters that end it. -/
def dropNuls (s : String) : String :=
  String.ofList ((s.toList.reverse.dropWhile (· == '\x00')).reverse)

/-- The context that answers a query, if its status is not negative and it is not empty. -/
def contextOf : Except ServiceError Reply → Option String
  | .ok r =>
    let context := dropNuls (Text.trim r.text)
    if 0 ≤ r.status ∧ context ≠ "" then some context else none
  | .error _ => none

/-- Negotiates a connection. -/
def negotiate (d : Device δ) (tolerant : Bool) : Action δ (Except ConnectError Connection) := do
  match ← negotiateTier d Tier.descending "no tier probe answered" with
  | .error e => pure (.error e)
  | .ok tier =>
    -- A service that does not tell its version is taken to be new enough.
    let serviceVersion := (numberOf (← issue d .serviceVersion)).getD (-1)
    if 0 ≤ serviceVersion ∧ serviceVersion < minServiceVersion ∧ tolerant = false then
      pure (.error (.versionMismatch serviceVersion minServiceVersion))
    else
      let engineVersion := (numberOf (← issue d .engineVersion)).getD (-1)
      let selinuxContext := contextOf (← issue d (.selinuxContext none))
      pure (.ok { tier, serviceVersion, engineVersion, selinuxContext })

/-- The live connection, negotiated if there is none. -/
def connect (d : Device δ) (tolerant : Bool) : Action δ (Except ConnectError Connection) := do
  match ← live with
  | some c => pure (.ok c)
  | none =>
    match ← negotiate d tolerant with
    | .error e => pure (.error e)
    | .ok c =>
      setLive (some c)
      pure (.ok c)

/-- Ends the live connection; what the service says to that does not matter. -/
def disconnect (d : Device δ) : Action δ Unit := do
  -- The connection is given up first, so that it is gone even when the service objects.
  setLive none
  let _ ← hangUp d
  pure ()

/-- Ends the live connection and negotiates another one. -/
def reconnect (d : Device δ) (tolerant : Bool) : Action δ (Except ConnectError Connection) := do
  disconnect d
  connect d tolerant

end OverlayControl
