import OverlayControl.Rule.Listing
import OverlayControl.Service

/-!
# An engine in memory

An engine that keeps its rules in memory, answers every command by the book, and can be told to
answer some commands otherwise.

* `Engine.answer` — the answer by the book: a rule is added unless it is there byte for byte, and
  gets the next number; a rule is deleted if it is there;
* `Scripted` — an engine with answers planned in advance, and `Scripted.service`.
-/

namespace OverlayControl.Simulation

/-- The forms of a listing. -/
inductive ListingFormat
  /-- A rule to a line. -/
  | lines
  /-- A JSON list. -/
  | json
  deriving DecidableEq

/-- An engine in memory. -/
structure Engine where
  /-- The highest tier that is granted; none when the engine cannot be reached. -/
  tier : Option Tier := none
  /-- The version of the service's protocol. -/
  serviceVersion : Int := 1
  /-- The version of the engine. -/
  engineVersion : Int := 12
  /-- The SELinux context of the service. -/
  selinux : String := "u:r:su:s0"
  /-- The listing of the modules. -/
  modules : String := ""
  /-- The rules, with their numbers. -/
  rules : List Rule := []
  /-- The number of the next rule. -/
  nextId : UInt32 := 1
  /-- The form of the listing of rules. -/
  format : ListingFormat := .lines
  /-- How the engine is reached. -/
  transport : Transport := .socket
  /-- Whether the end of a connection fails. -/
  hangUpFails : Bool := false
  /-- Whether stealth is on. -/
  stealth : Bool := false
  /-- Whether kernel debugging is on. -/
  debug : Bool := false
  /-- Whether denials are spoofed. -/
  avcSpoof : Bool := false

namespace Engine

/-- The listing of the rules. -/
def listing (e : Engine) : String :=
  match e.format with
  | .lines => Listing.renderLines e.rules
  | .json => Listing.renderJson e.rules

/-- A reply that carries a text. -/
def textReply (text : String) : Reply := { status := 0, value := none, text, structured := true }

/-- A reply that carries a version. -/
def versionReply (n : Int) : Reply :=
  { status := 0, value := some n, text := toString n, structured := true }

/-- The status by which a deletion tells that there is no such rule. -/
def noSuchRule : Int := -2

/-- Gives the engine a rule, under its own number or the next one. -/
def seed (e : Engine) (r : Rule) : Engine :=
  -- Numbers wrap around after the last one.
  let id := r.id.getD ⟨e.nextId⟩
  let after := id.number + 1
  { e with
    rules := e.rules ++ [{ r with id := some id }]
    nextId := if e.nextId < after then after else e.nextId }

/-- Whether a rule is byte for byte the one of a command. -/
def isRule (kind : RuleKind) (source : Path) (target : Option Path) (r : Rule) : Bool :=
  r.kind == kind && r.source == source && r.target == target

/-- Adds a rule, unless it is there. -/
def addRule (e : Engine) (kind : RuleKind) (source : Path) (target : Option Path)
    (flags : RuleFlags) : Reply × Engine :=
  if e.rules.any (isRule kind source target) then (.ofStatus (-17), e)
  else
    ({ status := 0, value := some e.nextId.toNat, text := "", structured := true },
      { e with
        rules := e.rules ++ [{ id := some ⟨e.nextId⟩, kind, source, target, flags }]
        nextId := e.nextId + 1 })

/-- Deletes a rule, if it is there. -/
def deleteRule (e : Engine) (id : RuleId) : Reply × Engine :=
  if e.rules.any fun r => r.id == some id then
    (.ofStatus 0, { e with rules := e.rules.filter fun r => r.id != some id })
  else (.ofStatus noSuchRule, e)

/-- The reply to a command, and the engine after it. -/
def reply (e : Engine) (tier : Tier) : Command → Reply × Engine
  | .probeTier asked => (.ofStatus (if asked.atMost tier then asked.code else -1), e)
  | .serviceVersion => (versionReply e.serviceVersion, e)
  | .engineVersion => (versionReply e.engineVersion, e)
  | .selinuxContext _ => (textReply e.selinux, e)
  | .addRule kind source target flags => e.addRule kind source target flags
  | .deleteRule id => e.deleteRule id
  | .clearRules => (.ofStatus 0, { e with rules := [] })
  | .listRules => (textReply e.listing, e)
  | .setStealth on => (.ofStatus 0, { e with stealth := on })
  | .setDebug on => (.ofStatus 0, { e with debug := on })
  | .setAvcSpoof on => (.ofStatus 0, { e with avcSpoof := on })
  | .setMirrorPath _ => (.ofStatus 0, e)
  | .fixMounts => (.ofStatus 0, e)
  | .nukeExt4Sysfs => (.ofStatus 0, e)
  | .listModules => (textReply e.modules, e)

/-- The answer to a command, and the engine after it. -/
def answer (c : Command) (e : Engine) : Except ServiceError Reply × Engine :=
  match e.tier with
  | none => (.error (.unavailable "connection refused"), e)
  | some tier =>
    let (r, e) := e.reply tier c
    (.ok r, e)

/-- The answer to the end of a connection. -/
def hangUp (e : Engine) : Except ServiceError Unit × Engine :=
  (if e.hangUpFails then .error (.protocol "teardown refused") else .ok (), e)

/-- The engine as a service. -/
def service (transport : Transport) : Service Engine where
  transport
  call := answer
  hangUp := hangUp

/-- An engine that can be reached replies to every command. -/
theorem call_of_reached {e : Engine} {tier : Tier} (h : e.tier = some tier) (transport : Transport)
    (c : Command) :
    (service transport).call c e = (.ok (e.reply tier c).1, (e.reply tier c).2) := by
  show e.answer c = _
  rw [answer, h]

end Engine

/-- An answer planned in advance. -/
structure Planned where
  /-- The answer. -/
  answer : Except ServiceError Reply
  /-- Whether the answer stays planned after it was given. -/
  sticky : Bool := false

/-- Answers planned in advance, by the names of commands. -/
abbrev Plan := List (String × List Planned)

/-- Gives a name a list of planned answers. -/
def Plan.set (p : Plan) (name : String) (answers : List Planned) : Plan :=
  (name, answers) :: p.filter fun (n, _) => n != name

/-- The first answer planned for a name, and the plan without it. -/
def Plan.take? (p : Plan) (name : String) : Option (Planned × Plan) :=
  match (p.find? fun (n, _) => n == name).map Prod.snd with
  | some (a :: rest) => some (a, if a.sticky then p else p.set name rest)
  | _ => none

/-- The names under which an answer to a command may be planned, the first one going before. -/
def planNames : Command → List String
  | .probeTier t => [s!"probe_tier:{t.name}", "probe_tier"]
  | c => [c.name]

/-- A planned answer, as the answer to a command. -/
def Planned.answerTo (a : Planned) (c : Command) : Except ServiceError Reply :=
  match a.answer with
  | .error (.unsupported _ transport) => .error (.unsupported c.name transport)
  | answer => answer

/-- An engine with planned answers. -/
structure Scripted where
  /-- The engine. -/
  engine : Engine
  /-- The planned answers. -/
  plan : Plan := []

/-- The answer to a command: the planned one, else the engine's. -/
def Scripted.answer (c : Command) (s : Scripted) : Except ServiceError Reply × Scripted :=
  match (planNames c).findSome? s.plan.take? with
  | some (a, plan) => (a.answerTo c, { s with plan })
  | none =>
    let (answer, engine) := s.engine.answer c
    (answer, { s with engine })

/-- An engine with planned answers as a service. -/
def Scripted.service (transport : Transport) : Service Scripted where
  transport
  call := Scripted.answer
  hangUp s :=
    let (answer, engine) := s.engine.hangUp
    (answer, { s with engine })

end OverlayControl.Simulation
