import OverlayControl.Negotiation
import OverlayControl.Rule.Listing
import OverlayControl.Rule.Table

/-!
# The rule store

The engine owns the rules. Every reading of them is a fresh listing, and no operation relies on an
earlier one. A store works for the connection that it was made with, and does nothing on the engine
unless that connection grants the overlay engine.

* `RuleStore.list` — the engine's rules, or an empty table that says why they could not be had;
* `RuleStore.add` — submits a rule once, or finds it already there;
* `RuleStore.delete`, `clear`, `setStealth`, `setDebug`, `setMirrorPath` — one command each.
-/

namespace OverlayControl

/-- The status by which the engine tells that it has a rule already. -/
def alreadyExists : Int := -17

/-- Operations on the engine's rules over a connection. -/
structure RuleStore where
  /-- The connection. -/
  connection : Connection

namespace RuleStore

variable {δ : Type}

/-- The error that a failed outcome amounts to: a refusal when there was a reply. -/
def failure (o : Outcome) : RuleError :=
  match o.status with
  | some code => .rejected code o.text
  | none => .engineUnreachable o.text

/-- Whether the connection grants the overlay engine. -/
def requireEngine (s : RuleStore) : Except RuleError Unit :=
  if s.connection.allows .overlayEngine then .ok ()
  else .error (.engineUnreachable s!"tier {s.connection.tier.name} has no overlay engine access")

/-- The table that the outcome of a listing amounts to. -/
def tableOf (o : Outcome) : Except RuleError RuleTable :=
  if o.success then
    match Listing.read o.text with
    | .ok rules => .ok (.ofList rules)
    | .error e => .error (.engineUnreachable e.message)
  else .error (failure o)

/-- Lists the engine's rules. -/
def fetch (d : Device δ) (s : RuleStore) : Action δ (Except RuleError RuleTable) :=
  match s.requireEngine with
  | .error e => pure (.error e)
  | .ok () => do
    let o ← execute d .listRules
    pure (tableOf o)

/-- The engine's rules, or an empty table that says why they could not be had. -/
def list (d : Device δ) (s : RuleStore) : Action δ RuleTable := do
  match ← fetch d s with
  | .ok t => pure t
  | .error e => pure (.missing e.message)

/-- The number under which the engine lists a rule, if it does. -/
def existingId (d : Device δ) (s : RuleStore) (r : Rule) : Action δ (Option RuleId) := do
  match ← fetch d s with
  | .ok t => pure ((t.find? r).bind Rule.id)
  | .error _ => pure none

/-- The number that a reply carries, if it is a 32-bit word. -/
def idOf (o : Outcome) : Option RuleId :=
  match o.value with
  | some v => if 0 ≤ v ∧ v < UInt32.size then some ⟨UInt32.ofNat v.toNat⟩ else none
  | none => none

/-- Submits a rule that the engine is not known to have. -/
def submit (d : Device δ) (s : RuleStore) (r : Rule) : Action δ (Except RuleError RuleId) := do
  let o ← execute d (.ofRule r)
  if o.success then
    match idOf o with
    | some i => pure (.ok i)
    | none =>
      -- The engine has taken the rule without telling its number: look for it in a listing.
      match ← existingId d s r with
      | some i => pure (.ok i)
      | none =>
        pure (.error (.rejected (o.status.getD 0)
          "engine accepted the rule but did not report an id"))
  else if o.status = some alreadyExists then
    -- Someone else has added the rule since the first listing.
    match ← existingId d s r with
    | some i => pure (.ok i)
    | none => pure (.error (failure o))
  else pure (.error (failure o))

/-- Gives the engine a rule, unless it has one of the same key; the result is the rule's number. -/
def add (d : Device δ) (s : RuleStore) (r : Rule) : Action δ (Except RuleError RuleId) :=
  match r.validate with
  | .error e => pure (.error e)
  | .ok () =>
    match s.requireEngine with
    | .error e => pure (.error e)
    | .ok () => do
      -- A listing that fails counts as one without the rule; the engine decides then.
      match ← existingId d s r with
      | some i => pure (.ok i)
      | none => submit d s r

/-- Sends one command for which success is all that matters. -/
def run (d : Device δ) (s : RuleStore) (c : Command) : Action δ (Except RuleError Unit) :=
  match s.requireEngine with
  | .error e => pure (.error e)
  | .ok () => do
    let o ← execute d c
    pure (if o.success then .ok () else .error (failure o))

/-- Takes a rule from the engine. -/
def delete (d : Device δ) (s : RuleStore) (i : RuleId) : Action δ (Except RuleError Unit) :=
  run d s (.deleteRule i)

/-- Takes all rules from the engine. -/
def clear (d : Device δ) (s : RuleStore) : Action δ (Except RuleError Unit) :=
  run d s .clearRules

/-- Turns stealth on or off. -/
def setStealth (d : Device δ) (s : RuleStore) (on : Bool) : Action δ (Except RuleError Unit) :=
  run d s (.setStealth on)

/-- Turns kernel debugging on or off. -/
def setDebug (d : Device δ) (s : RuleStore) (on : Bool) : Action δ (Except RuleError Unit) :=
  run d s (.setDebug on)

/-- Points the engine at another mirror directory. -/
def setMirrorPath (d : Device δ) (s : RuleStore) (p : Path) : Action δ (Except RuleError Unit) :=
  match checkPath "mirror" p with
  | .error e => pure (.error e)
  | .ok () => run d s (.setMirrorPath p)

end RuleStore

end OverlayControl
