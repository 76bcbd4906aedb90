import OverlayControl.BitNames
import OverlayControl.Data
import OverlayControl.Path

/-!
# Overlay rules

A rule tells the engine what to show at a path: a redirection, nothing, injected contents or a
merged directory. This module holds

* `RuleKind`, `RuleFlags`, `RuleId` and `Rule`;
* `Rule.validate` — the shape a rule has to have before it may be sent;
* `Rule.sameKey` — when two rules count as one: same kind, same source, same target;
* `RuleError` — why an operation on rules fails.
-/

namespace OverlayControl

/-- The kinds of rules. -/
inductive RuleKind
  /-- Shows the target in place of the source. -/
  | add
  /-- Hides the source. -/
  | hide
  /-- Injects contents at the source. -/
  | inject
  /-- Merges the target directory into the source. -/
  | merge
  deriving DecidableEq, Inhabited

namespace RuleKind

/-- The name of a kind. -/
def name : RuleKind → String
  | .add => "add"
  | .hide => "hide"
  | .inject => "inject"
  | .merge => "merge"

/-- The kind with exactly this name. -/
def ofName (s : String) : Option RuleKind :=
  [add, hide, inject, merge].find? fun k => k.name == s

/-- Reads a kind in any case; `redirect` is another word for `add`. -/
def parse (s : String) : Except String RuleKind :=
  let word := Text.lower s
  if word = "redirect" then .ok .add
  else
    match ofName word with
    | some k => .ok k
    | none => .error s!"unknown rule kind '{word}'"

/-- Whether rules of this kind have to have a target. -/
def needsTarget : RuleKind → Bool
  | .add | .merge => true
  | .hide | .inject => false

/-- Whether rules of this kind must not have a target. -/
def refusesTarget : RuleKind → Bool
  | .hide => true
  | .add | .inject | .merge => false

end RuleKind

/-- The flags of a rule, as bits. -/
structure RuleFlags where
  /-- The bits of the flags. -/
  bits : UInt32
  deriving DecidableEq, Inhabited

namespace RuleFlags

/-- No flag. -/
def none : RuleFlags := ⟨0⟩

/-- The source is a directory. -/
def directory : RuleFlags := ⟨1⟩

/-- The source is a symbolic link. -/
def symlink : RuleFlags := ⟨2⟩

/-- The named flags, in the order of their bits. -/
def names : List (String × Nat) := [("DIRECTORY", 1), ("SYMLINK", 2)]

/-- The flags among the known bits of a word. -/
def known (bits : UInt32) : RuleFlags := ⟨bits &&& 3⟩

/-- Whether all of the given flags are set. -/
def has (f g : RuleFlags) : Bool := f.bits &&& g.bits == g.bits

/-- The flags as text. -/
def render (f : RuleFlags) : String := BitNames.render names f.bits.toNat

/-- The flags that a text stands for. -/
def read (s : String) : Option RuleFlags :=
  (BitNames.read names (UInt32.size - 1) s).map fun n => ⟨UInt32.ofNat n⟩

end RuleFlags

/-- The number by which the engine knows a rule. -/
structure RuleId where
  /-- The number. -/
  number : UInt32
  deriving DecidableEq, Inhabited

namespace RuleId

/-- The number as text. -/
def name (i : RuleId) : String := toString i.number.toNat

/-- Reads a number with blanks around it. -/
def parse (s : String) : Except Text.NumeralFault RuleId :=
  (Text.readWord (Text.trim s)).map RuleId.mk

end RuleId

/-- A rule. -/
structure Rule where
  /-- The engine's number of the rule; absent until the engine has accepted it. -/
  id : Option RuleId := none
  /-- The kind. -/
  kind : RuleKind
  /-- The path that the rule is about. -/
  source : Path
  /-- The path whose contents are shown, injected or merged. -/
  target : Option Path := none
  /-- The flags. -/
  flags : RuleFlags := .none
  deriving DecidableEq, Inhabited

/-- Why an operation on rules fails. -/
inductive RuleError
  /-- The rule has not the shape of its kind. -/
  | invalidShape (what : String)
  /-- The engine answered and refused. -/
  | rejected (code : Int) (diagnostic : String)
  /-- No answer, or no access to the engine. -/
  | engineUnreachable (why : String)
  deriving DecidableEq

/-- The wording of an error. -/
def RuleError.message : RuleError → String
  | .invalidShape what => s!"invalid rule: {what}"
  | .rejected code diagnostic => s!"engine rejected request (code {code}): {diagnostic}"
  | .engineUnreachable why => s!"overlay engine unreachable: {why}"

/-- Whether a path may be sent to the engine: it is not empty, starts at the root and holds no NUL
byte. `field` names the path in the error. -/
def checkPath (field : String) (p : Path) : Except RuleError Unit :=
  if p.isEmpty then .error (.invalidShape s!"{field} path is empty")
  else if !p.isAbsolute then .error (.invalidShape s!"{field} path '{p.display}' is not absolute")
  else if p.bytes.contains 0 then .error (.invalidShape s!"{field} path contains a NUL byte")
  else .ok ()

/-- A path may be sent exactly when it is not empty, starts at the root and holds no NUL byte; which
path it is plays no part. -/
theorem checkPath_eq_ok_iff {field : String} {p : Path} :
    checkPath field p = .ok () ↔
      p.isEmpty = false ∧ p.isAbsolute = true ∧ p.bytes.contains 0 = false := by
  unfold checkPath
  split
  · simp_all
  · split
    · simp_all
    · split <;> simp_all

namespace Rule

/-- Whether two rules count as one. -/
def sameKey (r s : Rule) : Bool :=
  r.kind == s.kind && r.source.same s.source && Path.sameOption r.target s.target

/-- Two rules count as one when their kinds and the components of their paths agree. -/
theorem sameKey_eq_true_iff {r s : Rule} :
    r.sameKey s = true ↔
      r.kind = s.kind ∧ r.source.components = s.source.components ∧
        r.target.map Path.components = s.target.map Path.components := by
  simp [sameKey, Path.same_eq_true_iff, Path.sameOption_eq_true_iff, and_assoc]

@[simp]
theorem sameKey_self (r : Rule) : r.sameKey r = true := sameKey_eq_true_iff.2 ⟨rfl, rfl, rfl⟩

theorem sameKey_comm (r s : Rule) : r.sameKey s = s.sameKey r := by
  rw [Bool.eq_iff_iff, sameKey_eq_true_iff, sameKey_eq_true_iff]
  constructor
  · rintro ⟨hk, hs, ht⟩
    exact ⟨hk.symm, hs.symm, ht.symm⟩
  · rintro ⟨hk, hs, ht⟩
    exact ⟨hk.symm, hs.symm, ht.symm⟩

theorem sameKey_trans {r s t : Rule} (hrs : r.sameKey s = true) (hst : s.sameKey t = true) :
    r.sameKey t = true := by
  obtain ⟨hk, hs, ht⟩ := sameKey_eq_true_iff.1 hrs
  obtain ⟨hk', hs', ht'⟩ := sameKey_eq_true_iff.1 hst
  exact sameKey_eq_true_iff.2 ⟨hk.trans hk', hs.trans hs', ht.trans ht'⟩

/-- The first violation of the shape of a rule's kind. -/
def validate (r : Rule) : Except RuleError Unit :=
  match checkPath "source" r.source with
  | .error e => .error e
  | .ok () =>
    match r.target with
    | none =>
      if r.kind.needsTarget then
        .error (.invalidShape s!"{r.kind.name} rule requires a target path")
      else .ok ()
    | some t =>
      if r.kind.refusesTarget then
        .error (.invalidShape s!"{r.kind.name} rule must not have a target path")
      else checkPath "target" t

/-- The rule in one line. -/
def display (r : Rule) : String :=
  let target := match r.target with
    | some t => s!" -> {t.display}"
    | none => ""
  let id := match r.id with
    | some i => s!" (id {i.name})"
    | none => ""
  s!"{r.kind.name} {r.source.display}{target}{id}"

/-- The rule as data; absent when a path is not UTF-8. -/
def toData (r : Rule) : Option Data := do
  let source ← r.source.text?
  let target ← match r.target with
    | none => some []
    | some t => t.text?.map fun s => [("target", Data.text s)]
  let id := match r.id with
    | none => []
    | some i => [("id", Data.int i.number.toNat)]
  some (.table (id ++ [("kind", .text r.kind.name), ("source", .text source)] ++ target ++
    [("flags", .text r.flags.render)]))

end Rule

end OverlayControl
