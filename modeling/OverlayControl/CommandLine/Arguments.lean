import OverlayControl.Module.Strategy
import OverlayControl.Rule

/-!
# Arguments of the command line

Arguments are read from left to right. Words choose a command, and after that fill its places;
options start with dashes and may stand anywhere, and those of the whole program may be given again
after a word that chooses, the later one counting. After a lone `--` everything is a word, and after
the word `help` everything names a command.

* `Options`, `Intent` — what the program is asked to do, and how;
* `read` — the reading of arguments, which fails as a whole at the first argument that does not fit.
-/

namespace OverlayControl.CommandLine

/-- The options of the whole program. -/
structure Options where
  /-- Whether results are printed as JSON. -/
  json : Bool := false
  /-- The document of the client's configuration. -/
  config : Option Path := none
  /-- The directory of the log files. -/
  logDir : Option Path := none
  deriving DecidableEq

/-- What the program is asked to do. -/
inductive Intent
  /-- Show the status. -/
  | status
  /-- List the rules. -/
  | listRules
  /-- Add a rule. -/
  | addRule (rule : Rule)
  /-- Delete a rule. -/
  | deleteRule (id : RuleId)
  /-- Delete all rules. -/
  | clearRules
  /-- Turn stealth on or off. -/
  | stealth (on : Bool)
  /-- Show the settings. -/
  | showConfig
  /-- Change a setting. -/
  | setConfig (key value : String)
  /-- List the modules. -/
  | listModules
  /-- Declare the strategy of a module. -/
  | setModule (id : String) (strategy : Strategy)
  /-- Look at the order of mounts. -/
  | checkMounts
  /-- Repair the order of mounts. -/
  | fixMounts
  deriving DecidableEq

/-- What the arguments come to. -/
inductive Request
  /-- Do something. -/
  | run (options : Options) (intent : Intent)
  /-- Show how the program is used. -/
  | help
  /-- Show the version. -/
  | version

/-- What words have chosen so far. -/
inductive Mode
  /-- Nothing. -/
  | top
  /-- Something about rules. -/
  | rules
  /-- Something about settings. -/
  | config
  /-- Something about modules. -/
  | modules
  /-- Something about mounts. -/
  | mounts
  /-- A command that takes no words. -/
  | plain (intent : Intent)
  /-- Adding a rule: its kind, source and target, and its flags. -/
  | add (kind : Option RuleKind) (source target : Option Path) (directory symlink : Bool)
  /-- Deleting a rule. -/
  | delete (id : Option RuleId)
  /-- Turning stealth on or off. -/
  | stealth (on : Option Bool)
  /-- Changing a setting. -/
  | set (key value : Option String)
  /-- Declaring a strategy. -/
  | strategy (id : Option String) (chosen : Option Strategy)
  deriving DecidableEq

/-- A path as an argument; it is not empty. -/
def pathArgument (s : String) : Option Path := if s.isEmpty then none else some (.ofString s)

/-- The words that choose at a mode, and what they choose. -/
def choices : Mode → List (String × Mode)
  | .top => [("status", .plain .status), ("rules", .rules), ("stealth", .stealth none),
      ("config", .config), ("modules", .modules), ("mounts", .mounts)]
  | .rules => [("list", .plain .listRules), ("add", .add none none none false false),
      ("delete", .delete none), ("clear", .plain .clearRules)]
  | .config => [("show", .plain .showConfig), ("set", .set none none)]
  | .modules => [("list", .plain .listModules), ("set", .strategy none none)]
  | .mounts => [("check", .plain .checkMounts), ("fix", .plain .fixMounts)]
  | _ => []

/-- The mode that a word chooses. -/
def choose? (m : Mode) (word : String) : Option Mode :=
  ((choices m).find? fun (w, _) => w == word).map Prod.snd

/-- Whether a word asks for help where a choice is to be made. -/
def asksHelp (m : Mode) (word : String) : Bool := word == "help" && !(choices m).isEmpty

/-- Fills the next place of a command with a word. -/
def fill? (m : Mode) (word : String) : Option Mode :=
  match m with
  | .add none _ _ d l => do
    let kind ← (RuleKind.parse word).toOption
    some (.add (some kind) none none d l)
  | .add (some k) none _ d l => do
    let source ← pathArgument word
    some (.add (some k) (some source) none d l)
  | .add (some k) (some s) none d l => do
    let target ← pathArgument word
    some (.add (some k) (some s) (some target) d l)
  | .delete none => do
    let id ← (RuleId.parse word).toOption
    some (.delete (some id))
  | .stealth none =>
    if word = "on" then some (.stealth (some true))
    else if word = "off" then some (.stealth (some false))
    else none
  | .set none _ => some (.set (some word) none)
  | .set (some k) none => some (.set (some k) (some word))
  | .strategy none _ => some (.strategy (some word) none)
  | .strategy (some id) none => do
    let s ← (Strategy.parse word).toOption
    some (.strategy (some id) (some s))
  | _ => none

/-- Whether words name a command below a mode, one level after the other; help is one of them, with
nothing below it. -/
def namesCommand : Mode → List String → Bool
  | _, [] => true
  | m, w :: ws =>
    if asksHelp m w then ws.isEmpty
    else
      match choose? m w with
      | some n => namesCommand n ws
      | none => false

/-- Reading in progress. -/
structure Reading where
  /-- What words have chosen. -/
  mode : Mode := .top
  /-- The options so far. -/
  options : Options := {}
  /-- Which options were given since the last choice. -/
  given : List String := []
  /-- Whether a lone `--` was read. -/
  wordsOnly : Bool := false

/-- Notes an option, which may be given once between choices. -/
def Reading.note? (r : Reading) (name : String) : Option Reading :=
  if r.given.contains name then none else some { r with given := name :: r.given }

/-- Takes a word. -/
def Reading.word? (r : Reading) (word : String) : Option Reading :=
  if choices r.mode = [] then (fill? r.mode word).map fun m => { r with mode := m }
  else if r.wordsOnly then none
  else (choose? r.mode word).map fun m => { r with mode := m, given := [] }

/-- Takes an option without a value. -/
def Reading.flag? (r : Reading) (name : String) : Option Reading :=
  match name, r.mode with
  | "json", _ => (r.note? name).map fun r => { r with options := { r.options with json := true } }
  | "dir", .add k s t _ l => (r.note? name).map fun r => { r with mode := .add k s t true l }
  | "symlink", .add k s t d _ => (r.note? name).map fun r => { r with mode := .add k s t d true }
  | _, _ => none

/-- Takes an option with a value. -/
def Reading.value? (r : Reading) (name value : String) : Option Reading := do
  let p ← pathArgument value
  let r ← r.note? name
  if name = "config" then some { r with options := { r.options with config := some p } }
  else some { r with options := { r.options with logDir := some p } }

/-- Whether an option takes a value. -/
def takesValue (name : String) : Bool := name == "config" || name == "log-dir"

/-- The name of a long option and the value that an equals sign joins to it. -/
def splitEquals (cs : List Char) : String × Option String :=
  let name := String.ofList (cs.takeWhile (· != '='))
  match cs.dropWhile (· != '=') with
  | [] => (name, none)
  | _ :: value => (name, some (String.ofList value))

/-- The rule of a command whose places are filled. -/
def ruleOf (k : RuleKind) (s : Path) (t : Option Path) (directory symlink : Bool) : Rule :=
  { kind := k, source := s, target := t
    flags := ⟨(if directory then 1 else 0) ||| (if symlink then 2 else 0)⟩ }

/-- What the arguments have come to at their end. -/
def Reading.finish? (r : Reading) : Option Request :=
  match r.mode with
  | .plain intent => some (.run r.options intent)
  | .add (some k) (some s) t d l => some (.run r.options (.addRule (ruleOf k s t d l)))
  | .delete (some id) => some (.run r.options (.deleteRule id))
  | .stealth (some on) => some (.run r.options (.stealth on))
  | .set (some k) (some v) => some (.run r.options (.setConfig k v))
  | .strategy (some id) (some s) => some (.run r.options (.setModule id s))
  | _ => none

/-- Whether an argument is a dash and more. -/
def isOption (cs : List Char) : Bool := cs.head? == some '-' && 1 < cs.length

/-- Reads arguments. -/
def readFrom : Reading → List String → Option Request
  | r, [] => r.finish?
  | r, arg :: rest =>
    let cs := arg.toList
    if !r.wordsOnly && asksHelp r.mode arg then
      if namesCommand r.mode rest then some .help else none
    -- A lone dash is a word.
    else if r.wordsOnly || !isOption cs then
      match r.word? arg with
      | some r => readFrom r rest
      | none => none
    else if arg = "--" then readFrom { r with wordsOnly := true } rest
    else if "--".toList.isPrefixOf cs then
      let (name, joined) := splitEquals (cs.drop 2)
      match joined with
      -- An equals sign gives a value, so that an option without a value takes none.
      | some value =>
        if takesValue name then
          match r.value? name value with
          | some r => readFrom r rest
          | none => none
        else none
      | none =>
        if name = "help" then some .help
        else if name = "version" ∧ r.mode = .top then some .version
        else if takesValue name then
          match rest with
          | [] => none
          | value :: rest =>
            -- The next argument is the value, unless it looks like an option itself.
            if isOption value.toList then none
            else
              match r.value? name value with
              | some r => readFrom r rest
              | none => none
        else
          match r.flag? name with
          | some r => readFrom r rest
          | none => none
    else
      -- Of the options with one letter there are only these two.
      match cs with
      | '-' :: 'h' :: _ => some .help
      | '-' :: 'V' :: _ => if r.mode = .top then some .version else none
      | _ => none

/-- Reads arguments; none when they do not fit. -/
def read (args : List String) : Option Request := readFrom {} args

end OverlayControl.CommandLine
