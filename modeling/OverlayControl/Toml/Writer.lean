import OverlayControl.Text.Numeral

/-!
# Writing TOML

A document of this program is a run of lines `key = value`. A value is a truth value or a text, and
a text has five spellings, tried in this order:

* `"basic"` for a text without quotes, backslashes, newlines and controls, tabs aside;
* `'literal'` for one without apostrophes, newlines and controls;
* `"""` … `"""` for one without controls and backslashes and with at most two quotes in a row;
* `'''` … `'''` for one without controls and with at most two apostrophes in a row;
* with escapes else, over several lines exactly when the text has a newline.

A key is bare when it can be, else spelled as a text on one line.
-/

namespace OverlayControl.Toml

/-- A control character that needs an escape: all but the tab and the newline. -/
def isControl (c : Char) : Bool :=
  (c.toNat < 0x20 && c != '\t' && c != '\n') || c.toNat == 0x7F

/-- The length of the longest run of a character, `run` of them standing right before the text and
`longest` being the longest run so far. -/
def longestRun (q : Char) : Nat → Nat → List Char → Nat
  | _, longest, [] => longest
  | run, longest, c :: cs =>
    if c = q then longestRun q (run + 1) (max longest (run + 1)) cs else longestRun q 0 longest cs

/-- The spellings of a text. -/
inductive Spelling
  /-- In quotes, with escapes. -/
  | basic
  /-- In apostrophes, as it is. -/
  | literal
  /-- In triple quotes, with escapes. -/
  | longBasic
  /-- In triple apostrophes, as it is. -/
  | longLiteral
  deriving DecidableEq

/-- The spelling that the text gets. -/
def spelling (cs : List Char) : Spelling :=
  let controls := cs.any isControl
  let escapes := cs.contains '\\'
  let newlines := cs.contains '\n'
  let quotes := longestRun '"' 0 0 cs
  let apostrophes := longestRun '\'' 0 0 cs
  if !controls && !escapes && !newlines && quotes == 0 then .basic
  else if !controls && !newlines && apostrophes == 0 then .literal
  else if !controls && !escapes && quotes ≤ 2 then .longBasic
  else if !controls && apostrophes ≤ 2 then .longLiteral
  else if newlines then .longBasic
  else .basic

/-- The escape of a character that has to be escaped. -/
def escape (c : Char) : List Char :=
  if c = '\x08' then ['\\', 'b']
  else if c = '\t' then ['\\', 't']
  else if c = '\n' then ['\\', 'n']
  else if c = '\x0c' then ['\\', 'f']
  else if c = '\r' then ['\\', 'r']
  else if c = '"' then ['\\', '"']
  else if c = '\\' then ['\\', '\\']
  else ['\\', 'u'] ++ Text.hexPadded true 4 c.toNat

/-- The inside of a text with escapes. `quotes` quotes stand right before it, and a quote is escaped
when `allowed` of them do; newlines stay when `long`. -/
def escapeBody (long : Bool) (allowed : Nat) : Nat → List Char → List Char
  | _, [] => []
  | quotes, c :: cs =>
    if c = '"' then
      if quotes < allowed then c :: escapeBody long allowed (quotes + 1) cs
      else escape c ++ escapeBody long allowed 0 cs
    else if c = '\n' ∧ long = true then c :: escapeBody long allowed 0 cs
    else if isControl c ∨ c = '\t' ∨ c = '\n' ∨ c = '\\' then
      escape c ++ escapeBody long allowed 0 cs
    else c :: escapeBody long allowed 0 cs

/-- The newline that follows an opening delimiter when the text has one itself. -/
def opening (cs : List Char) : List Char := if cs.contains '\n' then ['\n'] else []

/-- A text in a spelling. -/
def spelled (s : Spelling) (cs : List Char) : List Char :=
  match s with
  | .basic => '"' :: (escapeBody false 0 0 cs ++ ['"'])
  | .literal => '\'' :: (cs ++ ['\''])
  | .longBasic => ['"', '"', '"'] ++ opening cs ++ escapeBody true 2 0 cs ++ ['"', '"', '"']
  | .longLiteral => ['\'', '\'', '\''] ++ opening cs ++ cs ++ ['\'', '\'', '\'']

/-- A text as a value. -/
def textValue (cs : List Char) : List Char := spelled (spelling cs) cs

/-- Whether a character may stand in a bare key. -/
def isBareKeyChar (c : Char) : Bool := c.isAlphanum || c == '_' || c == '-'

/-- A key. -/
def keyText (cs : List Char) : List Char :=
  if cs ≠ [] ∧ cs.all isBareKeyChar = true then cs
  else
    match spelling cs with
    | .basic => spelled .basic cs
    | .literal => spelled .literal cs
    | _ => spelled .basic cs

/-- A line of a document. -/
def line (key value : List Char) : List Char := keyText key ++ [' ', '=', ' '] ++ value ++ ['\n']

/-- A truth value. -/
def boolValue (b : Bool) : List Char := (if b then "true" else "false").toList

end OverlayControl.Toml
