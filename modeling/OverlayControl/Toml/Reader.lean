import OverlayControl.Text.Magnitude
import OverlayControl.Toml.Item
import OverlayControl.Toml.Writer

/-!
# Reading TOML

`Toml.read` reads one TOML 1.0 document into its table. Lists and inline tables may be nested 79
deep, and a dotted key may have 79 parts; both limits are what the recursion goes down on. Of
numbers only whole ones in the 64-bit range are kept, and a decimal that rounds to plus infinity is
refused.

The reader goes by statements: a comment, an empty line, a header, or a pair of a key and a value,
each of them up to the end of its line.
-/

namespace OverlayControl.Toml

/-- How deep values may be nested, and how many parts a key may have. -/
def nestingLimit : Nat := 79

/-- The text after its leading blanks and tabs. -/
def skipBlanks (cs : List Char) : List Char := cs.dropWhile fun c => c = ' ' ∨ c = '\t'

/-- Whether a character may stand in a comment or, quotes and backslashes aside, in a text. -/
def isPlain (c : Char) : Bool := c == '\t' || (0x20 ≤ c.toNat && c.toNat != 0x7F)

/-- The text after a comment, at the end of its line. -/
def skipComment (cs : List Char) : List Char :=
  match cs with
  | '#' :: rest => rest.dropWhile isPlain
  | _ => cs

/-- The text after the end of a line; the end of the document ends a line as well. -/
def lineEnd? : List Char → Option (List Char)
  | [] => some []
  | '\n' :: cs => some cs
  | '\r' :: '\n' :: cs => some cs
  | _ => none

/-- The text after what may follow a statement on its line. -/
def statementEnd? (cs : List Char) : Option (List Char) := lineEnd? (skipComment (skipBlanks cs))

/-- The text after blanks, comments and line ends; `inComment` tells that a comment has begun. -/
def skipLayout : Bool → List Char → Option (List Char)
  | false, [] => some []
  | true, [] => none
  | _, '\n' :: cs => skipLayout false cs
  | _, '\r' :: '\n' :: cs => skipLayout false cs
  | true, c :: cs => if isPlain c then skipLayout true cs else none
  | false, c :: cs =>
    if c = ' ' ∨ c = '\t' then skipLayout false cs
    else if c = '#' then skipLayout true cs
    else some (c :: cs)

/-! ## Texts -/

/-- The character that hexadecimal digits name, if they name one. -/
def charOf? (digits : List Char) : Option Char := do
  let values ← digits.mapM Text.hexValue?
  let n := values.foldl (fun n d => n * 16 + d) 0
  if n < 0xD800 ∨ (0xDFFF < n ∧ n < 0x110000) then some (Char.ofNat n) else none

/-- The character that a one-letter escape stands for. -/
def escaped? (c : Char) : Option Char :=
  if c = 'b' then some '\x08'
  else if c = 't' then some '\t'
  else if c = 'n' then some '\n'
  else if c = 'f' then some '\x0c'
  else if c = 'r' then some '\r'
  else if c = '"' then some '"'
  else if c = '\\' then some '\\'
  else none

/-- Puts a character before the text that is read next. -/
def push (c : Option Char) (next : Option (List Char × List Char)) :
    Option (List Char × List Char) :=
  match c, next with
  | some c, some (text, rest) => some (c :: text, rest)
  | _, _ => none

/-- Reads a text with escapes up to its closing quote. -/
def basicBody : List Char → Option (List Char × List Char)
  | [] => none
  | '"' :: cs => some ([], cs)
  | '\\' :: 'u' :: a :: b :: c :: d :: cs => push (charOf? [a, b, c, d]) (basicBody cs)
  | '\\' :: 'U' :: a :: b :: c :: d :: e :: f :: g :: h :: cs =>
    push (charOf? [a, b, c, d, e, f, g, h]) (basicBody cs)
  | '\\' :: c :: cs => push (escaped? c) (basicBody cs)
  | c :: cs => if isPlain c ∧ c ≠ '\\' then push (some c) (basicBody cs) else none

/-- Reads a text without escapes up to its closing apostrophe. -/
def literalBody : List Char → Option (List Char × List Char)
  | [] => none
  | '\'' :: cs => some ([], cs)
  | c :: cs => if isPlain c then push (some c) (literalBody cs) else none

/-- The text after a newline, if one comes first. -/
def afterNewline? : List Char → Option (List Char)
  | '\n' :: cs => some cs
  | '\r' :: '\n' :: cs => some cs
  | _ => none

/-- The text after blanks and newlines. -/
def skipFold : List Char → List Char
  | [] => []
  | '\r' :: '\n' :: cs => skipFold cs
  | c :: cs => if c = ' ' ∨ c = '\t' ∨ c = '\n' then skipFold cs else c :: cs

/-- The text after the blanks and newlines that a backslash at the end of a line removes. -/
def fold? (cs : List Char) : Option (List Char) := (afterNewline? (skipBlanks cs)).map skipFold

theorem length_skipFold_le (cs : List Char) : (skipFold cs).length ≤ cs.length := by
  fun_induction skipFold cs with
  | case1 => simp
  | case2 cs ih => simp only [List.length_cons]; omega
  | case3 c cs _ _ ih => simp only [List.length_cons]; omega
  | case4 c cs => simp

theorem length_afterNewline_lt {cs rest : List Char} (h : afterNewline? cs = some rest) :
    rest.length < cs.length := by
  unfold afterNewline? at h
  split at h
  · cases h; simp
  · cases h; simp only [List.length_cons]; omega
  · cases h

theorem length_fold_lt {cs rest : List Char} (h : fold? cs = some rest) :
    rest.length < cs.length := by
  obtain ⟨mid, hmid, rfl⟩ := Option.map_eq_some_iff.1 h
  have h1 := length_afterNewline_lt hmid
  have h2 : (skipBlanks cs).length ≤ cs.length := (List.dropWhile_sublist _).length_le
  have h3 := length_skipFold_le mid
  omega

/-- Reads a text with escapes over several lines, up to its three closing quotes; two more quotes
right before those belong to the text. -/
def longBasicBody (cs : List Char) : Option (List Char × List Char) :=
  match cs with
  | [] => none
  | '"' :: '"' :: '"' :: '"' :: '"' :: cs => some (['"', '"'], cs)
  | '"' :: '"' :: '"' :: '"' :: cs => some (['"'], cs)
  | '"' :: '"' :: '"' :: cs => some ([], cs)
  | '\n' :: cs => push (some '\n') (longBasicBody cs)
  | '\r' :: '\n' :: cs => push (some '\n') (longBasicBody cs)
  | '\\' :: 'u' :: a :: b :: c :: d :: cs => push (charOf? [a, b, c, d]) (longBasicBody cs)
  | '\\' :: 'U' :: a :: b :: c :: d :: e :: f :: g :: h :: cs =>
    push (charOf? [a, b, c, d, e, f, g, h]) (longBasicBody cs)
  | '\\' :: c :: cs =>
    match _h : fold? (c :: cs) with
    | some rest => longBasicBody rest
    | none => push (escaped? c) (longBasicBody cs)
  | c :: cs => if isPlain c ∧ c ≠ '\\' then push (some c) (longBasicBody cs) else none
termination_by cs.length
decreasing_by
  all_goals simp_wf
  all_goals first
    | omega
    | (have shorter := length_fold_lt _h; simp only [List.length_cons] at shorter; omega)

/-- Reads a text without escapes over several lines, up to its three closing apostrophes; two more
apostrophes right before those belong to the text. -/
def longLiteralBody : List Char → Option (List Char × List Char)
  | [] => none
  | '\'' :: '\'' :: '\'' :: '\'' :: '\'' :: cs => some (['\'', '\''], cs)
  | '\'' :: '\'' :: '\'' :: '\'' :: cs => some (['\''], cs)
  | '\'' :: '\'' :: '\'' :: cs => some ([], cs)
  | '\n' :: cs => push (some '\n') (longLiteralBody cs)
  | '\r' :: '\n' :: cs => push (some '\n') (longLiteralBody cs)
  | c :: cs => if isPlain c then push (some c) (longLiteralBody cs) else none

/-- The text after a newline that comes first, or the text itself. -/
def dropNewline (cs : List Char) : List Char := (afterNewline? cs).getD cs

/-- Reads a text in any spelling. -/
def text? : List Char → Option (List Char × List Char)
  | '"' :: '"' :: '"' :: cs => longBasicBody (dropNewline cs)
  | '"' :: cs => basicBody cs
  | '\'' :: '\'' :: '\'' :: cs => longLiteralBody (dropNewline cs)
  | '\'' :: cs => literalBody cs
  | _ => none

/-! ## Keys -/

/-- Reads one part of a key. -/
def keyPart? : List Char → Option (List Char × List Char)
  | '"' :: cs => basicBody cs
  | '\'' :: cs => literalBody cs
  | cs =>
    match cs.takeWhile isBareKeyChar with
    | [] => none
    | name => some (name, cs.dropWhile isBareKeyChar)

/-- Reads a dotted key of at most `n` parts, with blanks around them. -/
def dottedKey? : Nat → List Char → Option (List String × List Char)
  | 0, _ => none
  | n + 1, cs =>
    match keyPart? (skipBlanks cs) with
    | none => none
    | some (name, rest) =>
      match skipBlanks rest with
      | '.' :: rest => (dottedKey? n rest).map fun (names, rest) => (String.ofList name :: names, rest)
      | rest => some ([String.ofList name], rest)

/-! ## Numbers, dates and times -/

/-- The number that `n` digits write, and what follows them. -/
def fixedDigits? : Nat → Nat → List Char → Option (Nat × List Char)
  | 0, acc, cs => some (acc, cs)
  | n + 1, acc, c :: cs =>
    match Text.digitValue? c with
    | some d => fixedDigits? n (acc * 10 + d) cs
    | none => none
  | _ + 1, _, [] => none

/-- The text after a given character. -/
def after? (x : Char) : List Char → Option (List Char)
  | c :: cs => if c = x then some cs else none
  | [] => none

/-- How many days a month has. -/
def daysIn (year month : Nat) : Nat :=
  if month = 2 then if year % 4 = 0 ∧ (year % 100 ≠ 0 ∨ year % 400 = 0) then 29 else 28
  else if month = 4 ∨ month = 6 ∨ month = 9 ∨ month = 11 then 30
  else 31

/-- The text after a date. -/
def date? (cs : List Char) : Option (List Char) := do
  let (year, cs) ← fixedDigits? 4 0 cs
  let (month, cs) ← fixedDigits? 2 0 (← after? '-' cs)
  let (day, cs) ← fixedDigits? 2 0 (← after? '-' cs)
  if 1 ≤ month ∧ month ≤ 12 ∧ 1 ≤ day ∧ day ≤ daysIn year month then some cs else none

/-- The text after the decimals of a second, if there are any. -/
def skipSecondDecimals (cs : List Char) : List Char :=
  match cs with
  | '.' :: c :: rest => if c.isDigit then rest.dropWhile Char.isDigit else cs
  | _ => cs

/-- The text after a time of day. -/
def time? (cs : List Char) : Option (List Char) := do
  let (hour, cs) ← fixedDigits? 2 0 cs
  let (minute, cs) ← fixedDigits? 2 0 (← after? ':' cs)
  let (second, cs) ← fixedDigits? 2 0 (← after? ':' cs)
  if hour ≤ 23 ∧ minute ≤ 59 ∧ second ≤ 60 then some (skipSecondDecimals cs) else none

/-- The text after an offset from universal time, if there is one. -/
def skipOffset (cs : List Char) : List Char :=
  match cs with
  | c :: rest =>
    if c = 'Z' ∨ c = 'z' then rest
    else if c = '+' ∨ c = '-' then
      (do
        let (hour, r) ← fixedDigits? 2 0 rest
        let (minute, r) ← fixedDigits? 2 0 (← after? ':' r)
        if hour ≤ 23 ∧ minute ≤ 59 then some r else none).getD cs
    else cs
  | [] => []

/-- The text after a date, a time, or both. -/
def moment? (cs : List Char) : Option (List Char) :=
  match date? cs with
  | none => time? cs
  | some rest =>
    match rest with
    | c :: later =>
      if c = 'T' ∨ c = 't' ∨ c = ' ' then
        match time? later with
        | some end' => some (skipOffset end')
        | none => some rest
      else some rest
    | [] => some rest

/-- Reads digits of a base, single underscores between them left out, after at least one digit. -/
def spacedDigits (isDigit : Char → Bool) : List Char → List Char × List Char
  | '_' :: c :: cs =>
    if isDigit c then
      let (ds, rest) := spacedDigits isDigit cs
      (c :: ds, rest)
    else ([], '_' :: c :: cs)
  | c :: cs =>
    if isDigit c then
      let (ds, rest) := spacedDigits isDigit cs
      (c :: ds, rest)
    else ([], c :: cs)
  | [] => ([], [])

/-- Reads at least one digit of a base; the first one is no underscore. -/
def someDigits? (isDigit : Char → Bool) : List Char → Option (List Char × List Char)
  | c :: cs =>
    if isDigit c then
      let (ds, rest) := spacedDigits isDigit cs
      some (c :: ds, rest)
    else none
  | [] => none

/-- Reads the digits of a decimal; a leading zero stands alone. -/
def decimalDigits? : List Char → Option (List Char × List Char)
  | '0' :: cs => some (['0'], cs)
  | cs => someDigits? Char.isDigit cs

/-- A sign and what follows it; no sign counts as plus. -/
def sign : List Char → Bool × List Char
  | '+' :: cs => (false, cs)
  | '-' :: cs => (true, cs)
  | cs => (false, cs)

/-- The number that digits of a base write. -/
def natOf (base : Nat) (digits : List Char) : Nat :=
  digits.foldl (fun n c => n * base + (Text.hexValue? c).getD 0) 0

/-- Reads an exponent, its letter included. -/
def exponent? : List Char → Option (Int × List Char)
  | c :: cs =>
    if c = 'e' ∨ c = 'E' then
      let (negative, cs) := sign cs
      (someDigits? Char.isDigit cs).map fun (ds, rest) =>
        (if negative then -(natOf 10 ds : Int) else natOf 10 ds, rest)
    else none
  | [] => none

/-- Reads a number that is not written as a whole one. -/
def fraction? (cs : List Char) : Option (Data × List Char) :=
  let (negative, body) := sign cs
  match body with
  | 'i' :: 'n' :: 'f' :: rest => some (.fraction, rest)
  | 'n' :: 'a' :: 'n' :: rest => some (.fraction, rest)
  | _ => do
    let (digits, rest) ← decimalDigits? body
    let (decimals, rest, isFraction) ← match rest with
      | '.' :: rest => (someDigits? Char.isDigit rest).map fun (ds, rest) => (ds, rest, true)
      | _ => some ([], rest, false)
    let (exponent, rest, hasExponent) := match exponent? rest with
      | some (e, rest) => (e, rest, true)
      | none => (0, rest, false)
    if !isFraction && !hasExponent then none
    else if !negative && Text.overflows (natOf 10 (digits ++ decimals)) (exponent - decimals.length)
    then none
    else some (.fraction, rest)

/-- A whole number in the 64-bit range as data. -/
def whole? (n : Int) (rest : List Char) : Option (Data × List Char) :=
  if -(Text.longLimit + 1 : Int) ≤ n ∧ n ≤ Text.longLimit then some (.int n, rest) else none

/-- Whether a character is a digit in base 2, 8 or 16. -/
def isDigitIn (base : Nat) (c : Char) : Bool := (Text.hexValue? c).any (· < base)

/-- Reads a whole number. -/
def integer? (cs : List Char) : Option (Data × List Char) :=
  let inBase (base : Nat) (cs : List Char) :=
    match someDigits? (isDigitIn base) cs with
    | some (ds, rest) => whole? (natOf base ds) rest
    | none => none
  match cs with
  | '0' :: 'x' :: rest => inBase 16 rest
  | '0' :: 'o' :: rest => inBase 8 rest
  | '0' :: 'b' :: rest => inBase 2 rest
  | _ =>
    let (negative, body) := sign cs
    match decimalDigits? body with
    | some (ds, rest) => whole? (if negative then -(natOf 10 ds : Int) else natOf 10 ds) rest
    | none => none

/-- Reads a number, a date or a time. -/
def number? (cs : List Char) : Option (Data × List Char) :=
  match moment? cs with
  | some rest => some (.moment, rest)
  | none =>
    match fraction? cs with
    | some r => some r
    | none => integer? cs

/-! ## Values and documents -/

/-- Reads a value that holds no other values. -/
def scalar? : List Char → Option (Data × List Char)
  | 't' :: 'r' :: 'u' :: 'e' :: cs => some (.bool true, cs)
  | 'f' :: 'a' :: 'l' :: 's' :: 'e' :: cs => some (.bool false, cs)
  | cs =>
    match text? cs with
    | some (text, rest) => some (.text (String.ofList text), rest)
    | none => number? cs

/-- Reads the items of a list up to its closing bracket, at most `fuel` of them; the length of the
text is enough. -/
def items? (value : List Char → Option (Data × List Char)) :
    Nat → List Char → Option (List Data × List Char)
  | 0, _ => none
  | fuel + 1, cs => do
    let cs ← skipLayout false cs
    match cs with
    | ']' :: rest => some ([], rest)
    | _ =>
      let (d, rest) ← value cs
      let rest ← skipLayout false rest
      match rest with
      | ',' :: rest =>
        let (ds, rest) ← items? value fuel rest
        some (d :: ds, rest)
      | ']' :: rest => some ([d], rest)
      | _ => none

/-- Reads a pair of a key and a value. -/
def pair? (value : List Char → Option (Data × List Char)) (cs : List Char) :
    Option ((List String × Data) × List Char) :=
  match dottedKey? nestingLimit cs with
  | some (key, '=' :: rest) =>
    (value (skipBlanks rest)).map fun (d, rest) => ((key, d), rest)
  | _ => none

/-- Reads the pairs of an inline table up to its closing brace, at most `fuel` of them. -/
def pairs? (value : List Char → Option (Data × List Char)) :
    Nat → Entries → List Char → Option (Entries × List Char)
  | 0, _, _ => none
  | fuel + 1, es, cs => do
    let ((key, d), rest) ← pair? value cs
    let es ← putPair key d es
    match skipBlanks rest with
    | ',' :: rest => pairs? value fuel es rest
    | '\x7d' :: rest => some (es, rest)
    | _ => none

/-- Reads a value in which lists and inline tables are nested at most `depth` deep. -/
def value? : Nat → List Char → Option (Data × List Char)
  | 0, cs => scalar? cs
  | depth + 1, cs =>
    match cs with
    | '[' :: rest => (items? (value? depth) cs.length rest).map fun (ds, rest) => (.list ds, rest)
    | '\x7b' :: rest =>
      match skipBlanks rest with
      | '\x7d' :: rest => some (.table [], rest)
      | rest =>
        (pairs? (value? depth) cs.length [] rest).map fun (es, rest) =>
          (.table (entriesToData es), rest)
    | cs => scalar? cs

/-- A document in the course of reading. -/
structure Draft where
  /-- The table of the document. -/
  root : Entries := []
  /-- The path of the header that pairs belong to. -/
  current : List String := []

/-- Reads the rest of a header, after its opening brackets. -/
def header? (double : Bool) (cs : List Char) : Option (List String × List Char) := do
  let (key, rest) ← dottedKey? nestingLimit cs
  let rest ← after? ']' rest
  let rest ← if double then after? ']' rest else some rest
  let rest ← statementEnd? rest
  some (key, rest)

/-- Reads one statement of a document that is not empty. -/
def statement? (draft : Draft) (cs : List Char) : Option (Draft × List Char) :=
  match cs with
  | '\n' :: rest => some (draft, rest)
  | '\r' :: '\n' :: rest => some (draft, rest)
  | '#' :: _ => (lineEnd? (skipComment cs)).map fun rest => (draft, rest)
  -- Two brackets append a table to a list of tables, one bracket opens a table.
  | '[' :: '[' :: rest => do
    let (key, rest) ← header? true rest
    let root ← putElement key draft.root
    some (⟨root, key⟩, rest)
  | '[' :: rest => do
    let (key, rest) ← header? false rest
    let root ← putHeader key draft.root
    some (⟨root, key⟩, rest)
  | _ => do
    let ((key, d), rest) ← pair? (value? nestingLimit) cs
    let rest ← statementEnd? rest
    let root ← within (putPair key d) draft.current draft.root
    some ({ draft with root := root }, rest)

/-- Reads the statements of a document, at most `fuel` of them; the length of the text is enough. -/
def statements? : Nat → Draft → List Char → Option Draft
  | fuel, draft, cs =>
    match skipBlanks cs with
    | [] => some draft
    | rest =>
      match fuel with
      | 0 => none
      | fuel + 1 =>
        match statement? draft rest with
        | some (draft, rest) => statements? fuel draft rest
        | none => none

/-- The text without the byte order mark that may start it. -/
def dropMark : List Char → List Char
  | c :: cs => if c = '\uFEFF' then cs else c :: cs
  | [] => []

/-- Reads a TOML document. -/
def readChars (cs : List Char) : Option Data :=
  (statements? cs.length {} (dropMark cs)).map fun draft => .table (entriesToData draft.root)

/-- Reads a TOML document. -/
def read (s : String) : Option Data := readChars s.toList

end OverlayControl.Toml
