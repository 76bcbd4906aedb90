import OverlayControl.Data
import OverlayControl.Text.Magnitude

/-!
# Reading JSON

`Json.read` reads one JSON document. Whole numbers from `-2 ^ 63` to `2 ^ 64 - 1` are kept, every
other number is a fraction, and so is `-0`. A document is refused when it is nested deeper than 127
levels, when an escape names half of a surrogate pair, or when a number is beyond the double range.

The digits of a number count as far as a 64-bit word holds them, and its double is the product of
that word and a power of ten.

The nesting limit is also what the recursion of `value` goes down on.
-/

namespace OverlayControl.Json

/-- How deep lists and tables may be nested. -/
def depthLimit : Nat := 127

/-- The text after its leading white space. -/
def skip (cs : List Char) : List Char :=
  cs.dropWhile fun c => c = ' ' ∨ c = '\n' ∨ c = '\t' ∨ c = '\r'

/-- The number that four hexadecimal digits write. -/
def unit? (a b c d : Char) : Option Nat := do
  let a ← Text.hexValue? a
  let b ← Text.hexValue? b
  let c ← Text.hexValue? c
  let d ← Text.hexValue? d
  pure (((a * 16 + b) * 16 + c) * 16 + d)

/-- The character that a one-letter escape stands for. -/
def escaped? (c : Char) : Option Char :=
  if c = '"' then some '"'
  else if c = '\\' then some '\\'
  else if c = '/' then some '/'
  else if c = 'b' then some '\x08'
  else if c = 'f' then some '\x0c'
  else if c = 'n' then some '\n'
  else if c = 'r' then some '\r'
  else if c = 't' then some '\t'
  else none

/-- Puts a character before the text that is read next. -/
def push (c : Char) : Option (List Char × List Char) → Option (List Char × List Char)
  | none => none
  | some (text, rest) => some (c :: text, rest)

/-- Reads a text up to its closing quote; the second part is what follows. -/
def textBody : List Char → Option (List Char × List Char)
  | [] => none
  | '"' :: rest => some ([], rest)
  | '\\' :: 'u' :: a :: b :: c :: d :: rest =>
    match unit? a b c d with
    | none => none
    | some u =>
      if 0xD800 ≤ u ∧ u < 0xDC00 then
        match rest with
        | '\\' :: 'u' :: a' :: b' :: c' :: d' :: rest' =>
          match unit? a' b' c' d' with
          | none => none
          | some v =>
            if 0xDC00 ≤ v ∧ v < 0xE000 then
              push (Char.ofNat (0x10000 + (u - 0xD800) * 0x400 + (v - 0xDC00))) (textBody rest')
            else none
        | _ => none
      else if 0xDC00 ≤ u ∧ u < 0xE000 then none
      else push (Char.ofNat u) (textBody rest)
  | '\\' :: c :: rest =>
    match escaped? c with
    | none => none
    | some e => push e (textBody rest)
  | c :: rest => if c.toNat < 0x20 ∨ c = '\\' then none else push c (textBody rest)

/-- The leading digits of a text and what follows them. -/
def spanDigits (cs : List Char) : List Char × List Char :=
  (cs.takeWhile Char.isDigit, cs.dropWhile Char.isDigit)

/-- The number that digits write. -/
def natOf (digits : List Char) : Nat :=
  digits.foldl (fun n c => n * 10 + (c.toNat - '0'.toNat)) 0

/-- The decimals of a number, without the point; absent when no point follows. -/
def decimals? : List Char → Option (Option (List Char) × List Char)
  | '.' :: cs =>
    match spanDigits cs with
    | ([], _) => none
    | (ds, rest) => some (some ds, rest)
  | cs => some (none, cs)

/-- The exponent of a number; absent when no `e` follows. -/
def exponent? : List Char → Option (Option Int × List Char)
  | c :: cs =>
    if c = 'e' ∨ c = 'E' then
      let (negative, digits) := match cs with
        | '+' :: r => (false, r)
        | '-' :: r => (true, r)
        | r => (false, r)
      match spanDigits digits with
      | ([], _) => none
      | (ds, rest) => some (some (if negative then -(natOf ds : Int) else natOf ds), rest)
    else some (none, c :: cs)
  | [] => some (none, [])

/-- A whole number as data: kept when it is in range, and not a negative zero. -/
def whole (negative : Bool) (n : Nat) : Data :=
  if negative then if 0 < n ∧ n ≤ Text.longLimit + 1 then .int (-n) else .fraction
  else if n < UInt64.size then .int n else .fraction

/-- Reads on from the number `n` as long as a 64-bit word holds the result; the second part is the
digits left over. -/
def fill (n : Nat) : List Char → Nat × List Char
  | [] => (n, [])
  | c :: cs =>
    let next := n * 10 + (c.toNat - '0'.toNat)
    if next < UInt64.size then fill next cs else (n, c :: cs)

/-- Whether a number is beyond the double range, by its digits, decimals and exponent. Each digit
left over stands for a factor of ten, each decimal left over for nothing. -/
def isHuge (digits decimals : List Char) (exponent : Int) : Bool :=
  let (m, more) := fill 0 digits
  let (m, ignored) := fill m decimals
  Text.productOverflows m (exponent + more.length - decimals.length + ignored.length)

/-- Reads the digits, decimals and exponent of a number. -/
def unsigned (negative : Bool) (cs : List Char) : Option (Data × List Char) := do
  let (digits, cs) ← match cs with
    | '0' :: rest => some (['0'], rest)
    | _ =>
      match spanDigits cs with
      | ([], _) => none
      | r => some r
  let (ds, cs) ← decimals? cs
  let (e, cs) ← exponent? cs
  if isHuge digits (ds.getD []) (e.getD 0) then none
  else if ds.isNone && e.isNone then some (whole negative (natOf digits), cs)
  else some (.fraction, cs)

/-- Reads a number. -/
def number : List Char → Option (Data × List Char)
  | '-' :: cs => unsigned true cs
  | cs => unsigned false cs

/-- Reads data that holds no other data. -/
def scalar : List Char → Option (Data × List Char)
  | '"' :: cs => (textBody cs).map fun (s, rest) => (.text (String.ofList s), rest)
  | 'n' :: 'u' :: 'l' :: 'l' :: cs => some (.null, cs)
  | 't' :: 'r' :: 'u' :: 'e' :: cs => some (.bool true, cs)
  | 'f' :: 'a' :: 'l' :: 's' :: 'e' :: cs => some (.bool false, cs)
  | cs => number cs

/-- Reads one item or more, with commas between them, up to `close`. At most `fuel` items are read;
the length of the text is enough. -/
def separated {α : Type} (item : List Char → Option (α × List Char)) (close : Char) :
    Nat → List Char → Option (List α × List Char)
  | 0, _ => none
  | fuel + 1, cs =>
    match item (skip cs) with
    | none => none
    | some (x, rest) =>
      match skip rest with
      | [] => none
      | c :: rest =>
        if c = ',' then
          match separated item close fuel rest with
          | none => none
          | some (xs, rest) => some (x :: xs, rest)
        else if c = close then some ([x], rest)
        else none

/-- Reads items up to `close`. -/
def enclosed {α : Type} (item : List Char → Option (α × List Char)) (close : Char)
    (cs : List Char) : Option (List α × List Char) :=
  match skip cs with
  | [] => none
  | c :: rest => if c = close then some ([], rest) else separated item close cs.length (c :: rest)

/-- Reads a key, a colon and data. -/
def member (value : List Char → Option (Data × List Char)) :
    List Char → Option ((String × Data) × List Char)
  | '"' :: cs =>
    match textBody cs with
    | none => none
    | some (key, rest) =>
      match skip rest with
      | ':' :: rest =>
        match value (skip rest) with
        | none => none
        | some (d, rest) => some ((String.ofList key, d), rest)
      | _ => none
  | _ => none

/-- Reads data in which lists and tables are nested at most `depth` deep. -/
def value : Nat → List Char → Option (Data × List Char)
  | 0, cs => scalar cs
  | depth + 1, cs =>
    match cs with
    | '[' :: rest => (enclosed (value depth) ']' rest).map fun (ds, rest) => (.list ds, rest)
    | '{' :: rest =>
      (enclosed (member (value depth)) '\x7d' rest).map fun (es, rest) => (.table es, rest)
    | cs => scalar cs

/-- Reads the data that a text starts with; the second part is what follows it, white space
aside. -/
def leading (cs : List Char) : Option (Data × List Char) :=
  (value depthLimit (skip cs)).map fun (d, rest) => (d, skip rest)

/-- Reads a JSON document. -/
def read (s : String) : Option Data :=
  match leading s.toList with
  | some (d, []) => some d
  | _ => none

end OverlayControl.Json
