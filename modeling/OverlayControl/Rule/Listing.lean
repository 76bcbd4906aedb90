import OverlayControl.Json.Printer
import OverlayControl.Json.Reader
import OverlayControl.Rule

/-!
# Rule listings

The engine lists its rules as text in one of two forms.

* Lines: `<kind> <source> [<target>]` with attributes `id=<n>` and `flags=<n>` anywhere after the
  kind; blank lines and lines that start with `#` are left out.
* JSON: a list of rules, or a table whose `rules` is one. A rule is a table with the keys `id`,
  `kind` (or `type`), `source` (or `src`), `target` (or `dst`, `dest`) and `flags`, or a list of
  those five in that order.

`Listing.read` tells the forms apart by the first character. `Listing.renderLines` and
`Listing.renderJson` print a list of rules in either form.
-/

namespace OverlayControl.Listing

/-- Why a listing cannot be read, and in which line; a JSON document counts as line 0. -/
structure ListingError where
  /-- The line, counted from one. -/
  line : Nat
  /-- What is wrong. -/
  what : String
  deriving DecidableEq

/-- The wording of an error. -/
def ListingError.message (e : ListingError) : String :=
  s!"active rule listing line {e.line}: {e.what}"

/-! ## Lines -/

/-- One word after the kind of a rule. -/
inductive Token
  /-- The number of the rule, as written. -/
  | id (digits : String)
  /-- The flags of the rule, as written. -/
  | flags (digits : String)
  /-- A path. -/
  | path (text : String)
  deriving DecidableEq

/-- What a word after the kind is. -/
def Token.ofWord (w : String) : Token :=
  match w.toList with
  | 'i' :: 'd' :: '=' :: digits => .id (String.ofList digits)
  | 'f' :: 'l' :: 'a' :: 'g' :: 's' :: '=' :: digits => .flags (String.ofList digits)
  | _ => .path w

/-- The words after a kind, in the course of reading. -/
structure Attributes where
  /-- The last number. -/
  id : Option RuleId := none
  /-- The last flags. -/
  flags : RuleFlags := .none
  /-- The paths, in order. -/
  paths : List String := []

/-- Reads one word after the kind. -/
def Attributes.take (a : Attributes) (w : String) : Except String Attributes :=
  match Token.ofWord w with
  | .id digits =>
    match Text.readWord digits with
    | .ok n => .ok { a with id := some ⟨n⟩ }
    | .error e => .error s!"bad id '{digits}': {e.message}"
  | .flags digits =>
    match Text.readWord digits with
    | .ok n => .ok { a with flags := .known n }
    | .error e => .error s!"bad flags '{digits}': {e.message}"
  | .path p => .ok { a with paths := a.paths ++ [p] }

/-- Reads the words of a line. -/
def readWords : List String → Except String Rule
  | [] => .error "empty line"
  | k :: ws => do
    let kind ← RuleKind.parse k
    let a ← ws.foldlM Attributes.take {}
    match a.paths with
    | [] => .error s!"{kind.name} rule without a source path"
    | [source] => .ok { id := a.id, kind, source := .ofString source, flags := a.flags }
    | [source, target] =>
      .ok { id := a.id, kind, source := .ofString source, target := some (.ofString target),
            flags := a.flags }
    | _ :: _ :: extra :: _ => .error s!"unexpected token '{extra}'"

/-- Whether a line says nothing: it is blank or a comment. -/
def isSilent (line : List Char) : Bool :=
  match Text.trimChars line with
  | [] => true
  | c :: _ => c == '#'

/-- Reads lines, the first of which has the number `number`. -/
def readLinesFrom : Nat → List (List Char) → Except ListingError (List Rule)
  | _, [] => .ok []
  | number, l :: ls =>
    if isSilent l then readLinesFrom (number + 1) ls
    else
      match readWords ((Text.wordsOf l).map String.ofList) with
      | .error what => .error ⟨number, what⟩
      | .ok r => (readLinesFrom (number + 1) ls).map (r :: ·)

/-! ## JSON -/

/-- The names of the fields of a rule, with their aliases. -/
def fieldNames : List (List String) :=
  [["id"], ["kind", "type"], ["source", "src"], ["target", "dst", "dest"], ["flags"]]

/-- A rule as a document has it: the kind is still a word. -/
structure RawRule where
  /-- The number. -/
  id : Option UInt32
  /-- The kind, as written. -/
  kind : String
  /-- The source. -/
  source : String
  /-- The target. -/
  target : Option String
  /-- The bits of the flags. -/
  flags : UInt32

/-- Reads a rule of a document. -/
def RawRule.ofData (d : Data) : Option RawRule :=
  match d.record .json fieldNames with
  | some [id, kind, source, target, flags] => do
    let id ← Data.field none (Data.asOptional Data.asWord) id
    let kind ← Data.required Data.asText kind
    let source ← Data.required Data.asText source
    let target ← Data.field none (Data.asOptional Data.asText) target
    let flags ← Data.field 0 Data.asWord flags
    some { id, kind, source, target, flags }
  | _ => none

/-- The rule that a rule of a document stands for. -/
def RawRule.toRule (r : RawRule) : Except String Rule :=
  (RuleKind.parse r.kind).map fun kind =>
    { id := r.id.map RuleId.mk, kind, source := .ofString r.source,
      target := (r.target.filter fun t => !t.isEmpty).map Path.ofString, flags := .known r.flags }

/-- Reads the rules of a document. -/
def rawRules? : Data → Option (List RawRule)
  | .list ds => ds.mapM RawRule.ofData
  | .table es =>
    match Data.single? es ["rules"] with
    | some (some (.list ds)) => ds.mapM RawRule.ofData
    | _ => none
  | _ => none

/-- Reads a JSON listing. The data is looked at before what follows it, and the kinds of the rules
come last. -/
def readJson (cs : List Char) : Except ListingError (List Rule) :=
  match Json.leading cs with
  | none => .error ⟨0, "<json syntax>"⟩
  | some (d, rest) =>
    match rawRules? d with
    | none => .error ⟨0, "data did not match any variant of untagged enum RawListing"⟩
    | some raw =>
      if !rest.isEmpty then .error ⟨0, "<json syntax>"⟩
      else
        match raw.mapM RawRule.toRule with
        | .error what => .error ⟨0, what⟩
        | .ok rules => .ok rules

/-! ## Listings -/

/-- Reads a listing in either form. -/
def read (text : String) : Except ListingError (List Rule) :=
  -- Lines are counted in what is left of the text here.
  let cs := Text.trimChars text.toList
  match cs with
  | '[' :: _ => readJson cs
  | '\x7b' :: _ => readJson cs
  | _ => readLinesFrom 1 (Text.linesOf cs)

/-- A rule as a line; a rule without a number is written without one. -/
def renderLine (r : Rule) : String :=
  let target := match r.target with
    | some t => s!" {t.display}"
    | none => ""
  let id := match r.id with
    | some i => s!" id={i.name}"
    | none => ""
  s!"{r.kind.name} {r.source.display}{target}{id} flags={r.flags.bits}"

/-- Rules as lines. -/
def renderLines (rs : List Rule) : String := String.intercalate "\n" (rs.map renderLine)

/-- A rule as a table. -/
def ruleData (r : Rule) : Data :=
  .table [("flags", .int r.flags.bits.toNat),
    ("id", (r.id.map fun i => Data.int i.number.toNat).getD .null),
    ("kind", .text r.kind.name), ("source", .text r.source.display),
    ("target", (r.target.map fun t => Data.text t.display).getD .null)]

/-- Rules as a JSON list. -/
def renderJson (rs : List Rule) : String := Json.compact (.list (rs.map ruleData))

end OverlayControl.Listing
