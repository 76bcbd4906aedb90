import OverlayControl.Text.Numeral

/-!
# Format-neutral data

Documents in JSON and in TOML are read into one kind of tree, and settings are taken from the tree.
The two formats differ in a few points when a record or a choice is taken; `Format` names them.

* `Data.record` — the fields of a record, from a table by name or from a list by position;
* `Data.choice` — one of several names, written as text or as a table with that one key.
-/

namespace OverlayControl

/-- A document as a tree. A table keeps its entries in order, a repeated key included. -/
inductive Data
  /-- The absent value. -/
  | null
  /-- A truth value. -/
  | bool (b : Bool)
  /-- A whole number in the format's range. -/
  | int (n : Int)
  /-- Any other number; no setting holds one. -/
  | fraction
  /-- A date or a time; no setting holds one. -/
  | moment
  /-- A text. -/
  | text (s : String)
  /-- A list. -/
  | list (items : List Data)
  /-- A table. -/
  | table (entries : List (String × Data))
  deriving Inhabited

/-- The document formats. -/
inductive Format
  /-- JSON. -/
  | json
  /-- TOML. -/
  | toml
  deriving DecidableEq

namespace Data

/-- The truth value that data is. -/
def asBool : Data → Option Bool
  | bool b => some b
  | _ => none

/-- The text that data is. -/
def asText : Data → Option String
  | text s => some s
  | _ => none

/-- The natural number up to `limit` that data is. -/
def asNat (limit : Nat) : Data → Option Nat
  | int n => if 0 ≤ n ∧ n.toNat ≤ limit then some n.toNat else none
  | _ => none

/-- The 32-bit word that data is. -/
def asWord (d : Data) : Option UInt32 := (d.asNat (UInt32.size - 1)).map UInt32.ofNat

/-- Reads `null` as absence and anything else by `read`. -/
def asOptional {α : Type} (read : Data → Option α) : Data → Option (Option α)
  | null => some none
  | d => (read d).map some

/-- The value of the only entry whose key is one of `keys`; a second such entry is refused. -/
def single? (entries : List (String × Data)) (keys : List String) : Option (Option Data) :=
  match entries.filter fun (k, _) => keys.contains k with
  | [] => some none
  | [(_, d)] => some (some d)
  | _ => none

/-- The first `n` items of a list, absence after its end. -/
def padded : Nat → List Data → List (Option Data)
  | 0, _ => []
  | n + 1, [] => none :: padded n []
  | n + 1, d :: ds => some d :: padded n ds

/-- The fields of a record whose names, with their aliases, are `fields`. A table gives them by name
and may hold other keys; a list gives them by position, and only TOML lets it be longer than the
record. A moment counts as a table that has none of the names. -/
def record (format : Format) (fields : List (List String)) : Data → Option (List (Option Data))
  | table entries => fields.mapM (single? entries)
  | moment => some (fields.map fun _ => none)
  | list items =>
    if items.length ≤ fields.length ∨ format = .toml then some (padded fields.length items) else none
  | _ => none

/-- Whether data stands for the absence of contents after the name of a choice. -/
def isUnit : Format → Data → Bool
  | .json, null => true
  | .toml, list [] => true
  | .toml, table [] => true
  | _, _ => false

/-- The choice that data makes among names: the name as a text, or a table whose only key is the
name and whose value is empty. -/
def choice {α : Type} (format : Format) (ofName : String → Option α) : Data → Option α
  | text s => ofName s
  | table [(s, d)] => if isUnit format d then ofName s else none
  | _ => none

/-- Reads a field, `absent` when it is missing. -/
def field {α : Type} (absent : α) (read : Data → Option α) : Option Data → Option α
  | none => some absent
  | some d => read d

/-- Reads a field that has to be there. -/
def required {α : Type} (read : Data → Option α) : Option Data → Option α
  | none => none
  | some d => read d

end Data

end OverlayControl
