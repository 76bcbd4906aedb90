import OverlayControl.Privilege
import OverlayControl.Toml.Reader
import OverlayControl.Toml.Writer

/-!
# Mount strategies of modules

A strategy says how the files of a module are mounted. Declared strategies stand in a document, one
line for each module; the strategies in force are listed by the engine, one line for each module.

* `Strategy` and the strategies that a connection allows;
* `Strategies` — an assignment of strategies to modules, in the order of the modules' names;
* `Strategies.toToml`, `Strategies.ofToml` — the document;
* `Strategies.ofListing` — the engine's listing.
-/

namespace OverlayControl

/-- The ways of mounting a module. -/
inductive Strategy
  /-- The engine chooses. -/
  | auto
  /-- Rules of the overlay engine. -/
  | hymofs
  /-- An overlay file system. -/
  | overlay
  /-- Bind mounts. -/
  | magic
  /-- Not at all. -/
  | none
  deriving DecidableEq, Inhabited

namespace Strategy

/-- The strategies, in the order in which they are offered. -/
def all : List Strategy := [auto, hymofs, overlay, magic, none]

/-- The name of a strategy. -/
def name : Strategy → String
  | auto => "auto"
  | hymofs => "hymofs"
  | overlay => "overlay"
  | magic => "magic"
  | none => "none"

/-- The strategy with exactly this name. -/
def ofName (s : String) : Option Strategy := all.find? fun m => m.name == s

/-- Reads a strategy in any case, with blanks around it. -/
def parse (s : String) : Except String Strategy :=
  match ofName (Text.lower (Text.trim s)) with
  | some m => .ok m
  | Option.none => .error s!"unknown mount strategy '{s}'"

/-- The strategies that may be declared over a connection: all, but those of the overlay engine only
with access to it. -/
def allowed (connection : Option Connection) : List Strategy :=
  let engine := connection.any fun c => c.allows .overlayEngine
  all.filter fun m => engine || m != hymofs

end Strategy

/-- Whether a text comes before another in the order of characters. -/
def precedes : List Char → List Char → Bool
  | _, [] => false
  | [], _ :: _ => true
  | c :: cs, d :: ds => c.toNat < d.toNat || (c == d && precedes cs ds)

/-- Strategies by module, in the order of the modules' names, each module once. -/
structure Strategies where
  /-- The modules and their strategies. -/
  entries : List (String × Strategy) := []
  deriving DecidableEq

namespace Strategies

/-- Puts a strategy in its place, over the one that the module may have. -/
def insertEntry (id : String) (s : Strategy) : List (String × Strategy) → List (String × Strategy)
  | [] => [(id, s)]
  | (k, t) :: es =>
    if k = id then (id, s) :: es
    else if precedes id.toList k.toList then (id, s) :: (k, t) :: es
    else (k, t) :: insertEntry id s es

/-- Gives a module a strategy. -/
def insert (m : Strategies) (id : String) (s : Strategy) : Strategies :=
  ⟨insertEntry id s m.entries⟩

/-- The strategy of a module. -/
def get? (m : Strategies) (id : String) : Option Strategy :=
  (m.entries.find? fun (k, _) => k == id).map Prod.snd

/-- A module has the strategy that it was given. -/
@[simp]
theorem get?_insert_self (m : Strategies) (id : String) (s : Strategy) :
    (m.insert id s).get? id = some s := by
  unfold get? insert
  induction m.entries with
  | nil => simp [insertEntry]
  | cons e es ih =>
    rw [insertEntry]
    split
    · simp
    · split
      · simp
      · rename_i hk _
        rw [List.find?_cons_of_neg (by simpa using hk)]
        exact ih

/-- Giving a module a strategy changes no other module's. -/
theorem get?_insert_of_ne (m : Strategies) {id other : String} (s : Strategy) (h : other ≠ id) :
    (m.insert id s).get? other = m.get? other := by
  unfold get? insert
  induction m.entries with
  | nil => simp [insertEntry, h.symm]
  | cons e es ih =>
    rw [insertEntry]
    split
    · rename_i hk
      rw [List.find?_cons_of_neg (by simpa using h.symm),
        List.find?_cons_of_neg (by simpa [hk] using h.symm)]
    · split
      · rw [List.find?_cons_of_neg (by simpa using h.symm)]
      · by_cases hk : e.1 = other
        · simp [hk]
        · rw [List.find?_cons_of_neg (by simpa using hk), List.find?_cons_of_neg (by simpa using hk)]
          exact ih

/-- The modules, in order. -/
def ids (m : Strategies) : List String := m.entries.map Prod.fst

/-- The strategies of pairs; of two pairs of one module the later one counts. -/
def ofList (pairs : List (String × Strategy)) : Strategies :=
  pairs.foldl (fun m (id, s) => m.insert id s) {}

/-- The strategies that the entries of a document declare. -/
def ofData : Data → Option Strategies
  | .table es =>
    (es.mapM fun e => (Data.choice .toml Strategy.ofName e.2).map fun s => (e.1, s)).map ofList
  | _ => none

/-- The strategies that a document declares. -/
def ofToml (text : String) : Option Strategies := (Toml.read text).bind ofData

/-- The strategies as a document. -/
def toToml (m : Strategies) : String :=
  String.ofList (m.entries.flatMap fun (id, s) =>
    Toml.line id.toList (Toml.textValue s.name.toList))

/-- The module and the strategy that a line of a listing tells; a line without them, or with an
unknown strategy, tells nothing. -/
def ofLine (line : String) : Option (String × Strategy) :=
  match Text.words line with
  | id :: word :: _ => (Strategy.parse word).toOption.map fun s => (id, s)
  | _ => none

/-- The strategies that a listing tells; of two lines of one module the later one counts. -/
def ofListing (text : String) : Strategies := ofList ((Text.lines text).filterMap ofLine)

end Strategies

end OverlayControl
