import OverlayControl.Data

/-!
# Printing JSON

Two layouts: `compact` without any white space, and `pretty` with two blanks for each level and a
line for each item. A fraction or a moment is never printed by this program and shows as `null`.
-/

namespace OverlayControl.Json

/-- One character inside quotes. -/
def quoteChar (c : Char) : List Char :=
  if c = '"' then ['\\', '"']
  else if c = '\\' then ['\\', '\\']
  else if c = '\x08' then ['\\', 'b']
  else if c = '\x0c' then ['\\', 'f']
  else if c = '\n' then ['\\', 'n']
  else if c = '\r' then ['\\', 'r']
  else if c = '\t' then ['\\', 't']
  else if c.toNat < 0x20 then ['\\', 'u'] ++ Text.hexPadded false 4 c.toNat
  else [c]

/-- A text in quotes. -/
def quote (s : String) : List Char := '"' :: (s.toList.flatMap quoteChar ++ ['"'])

/-- The text of data that holds no other data. -/
def atom : Data → List Char
  | .bool true => "true".toList
  | .bool false => "false".toList
  | .int n => (toString n).toList
  | .text s => quote s
  | _ => "null".toList

mutual

/-- Data without white space. -/
def compactChars : Data → List Char
  | .list ds => '[' :: compactItems ds
  | .table es => '\x7b' :: compactEntries es
  | d => atom d

/-- The rest of a list, its closing bracket included. -/
def compactItems : List Data → List Char
  | [] => [']']
  | [d] => compactChars d ++ [']']
  | d :: ds => compactChars d ++ ',' :: compactItems ds

/-- The rest of a table, its closing brace included. -/
def compactEntries : List (String × Data) → List Char
  | [] => ['\x7d']
  | [(k, d)] => quote k ++ ':' :: (compactChars d ++ ['\x7d'])
  | (k, d) :: es => quote k ++ ':' :: (compactChars d ++ ',' :: compactEntries es)

end

/-- A new line that is `level` levels deep. -/
def newLine (level : Nat) : List Char := '\n' :: List.replicate (2 * level) ' '

mutual

/-- Data at a level, laid out over lines. -/
def prettyChars (level : Nat) : Data → List Char
  | .list [] => ['[', ']']
  | .list (d :: ds) => '[' :: (newLine (level + 1) ++ prettyItems level (d :: ds))
  | .table [] => ['\x7b', '\x7d']
  | .table (e :: es) => '\x7b' :: (newLine (level + 1) ++ prettyEntries level (e :: es))
  | d => atom d

/-- The rest of a list at a level, its closing bracket included. -/
def prettyItems (level : Nat) : List Data → List Char
  | [] => newLine level ++ [']']
  | [d] => prettyChars (level + 1) d ++ newLine level ++ [']']
  | d :: ds => prettyChars (level + 1) d ++ ',' :: (newLine (level + 1) ++ prettyItems level ds)

/-- The rest of a table at a level, its closing brace included. -/
def prettyEntries (level : Nat) : List (String × Data) → List Char
  | [] => newLine level ++ ['\x7d']
  | [(k, d)] => quote k ++ ':' :: ' ' :: (prettyChars (level + 1) d ++ newLine level ++ ['\x7d'])
  | (k, d) :: es =>
    quote k ++ ':' :: ' ' ::
      (prettyChars (level + 1) d ++ ',' :: (newLine (level + 1) ++ prettyEntries level es))

end

/-- Data without white space. -/
def compact (d : Data) : String := String.ofList (compactChars d)

/-- Data laid out over lines. -/
def pretty (d : Data) : String := String.ofList (prettyChars 0 d)

end OverlayControl.Json
