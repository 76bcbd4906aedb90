import OverlayControl.Rule

/-!
# Rule tables

A table is a snapshot of the engine's rules in the engine's order, without a second rule of the same
key. A listing that could not be had is an empty table that says why; such a table is not
authoritative.
-/

namespace OverlayControl

/-- A snapshot of the engine's rules. -/
structure RuleTable where
  /-- The rules, in the engine's order. -/
  rules : List Rule
  /-- Why the listing could not be had, if it could not. -/
  unavailable : Option String := none
  deriving DecidableEq

/-- How many rules there are of each kind. -/
structure RuleCounts where
  /-- All rules. -/
  total : Nat
  /-- The rules that hide. -/
  hide : Nat
  /-- The rules that redirect. -/
  redirect : Nat
  /-- The rules that merge. -/
  merge : Nat
  /-- The rules that inject. -/
  inject : Nat
  deriving DecidableEq

/-- The counts as data. -/
def RuleCounts.toData (c : RuleCounts) : Data :=
  .table [("total", .int c.total), ("hide", .int c.hide), ("redirect", .int c.redirect),
    ("merge", .int c.merge), ("inject", .int c.inject)]

namespace RuleTable

/-- The rules of a list of which no key occurs before, in `seen` or earlier in the list. -/
def distinct (seen : List Rule) : List Rule → List Rule
  | [] => []
  | r :: rs => if seen.any r.sameKey then distinct seen rs else r :: distinct (r :: seen) rs

/-- The table of a list of rules: the first of each key. -/
def ofList (rs : List Rule) : RuleTable := { rules := distinct [] rs }

/-- The table that stands for a listing that could not be had. -/
def missing (why : String) : RuleTable := { rules := [], unavailable := some why }

/-- Whether the table is what the engine listed. -/
def isAuthoritative (t : RuleTable) : Bool := t.unavailable.isNone

/-- The rule with the key of a given rule. -/
def find? (t : RuleTable) (r : Rule) : Option Rule := t.rules.find? fun s => s.sameKey r

/-- The rule with a number. -/
def get? (t : RuleTable) (i : RuleId) : Option Rule := t.rules.find? fun s => s.id == some i

/-- How many rules of a kind there are. -/
def count (t : RuleTable) (k : RuleKind) : Nat := t.rules.countP fun r => r.kind == k

/-- How many rules there are of each kind. -/
def counts (t : RuleTable) : RuleCounts :=
  ⟨t.rules.length, t.count .hide, t.count .add, t.count .merge, t.count .inject⟩

/-- The table as data; absent when a path is not UTF-8. -/
def toData (t : RuleTable) : Option Data :=
  (t.rules.mapM Rule.toData).map fun rules =>
    .table (("rules", .list rules) ::
      match t.unavailable with
      | none => []
      | some why => [("unavailable", .text why)])

end RuleTable

end OverlayControl
