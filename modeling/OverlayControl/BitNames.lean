import OverlayControl.Text.Blank
import OverlayControl.Text.Numeral

/-!
# Bit sets as text

A set of named bits is written as its names in the order of their declaration, then the bits that
have no name as one hexadecimal number, all with ` | ` between them. Reading accepts names in any
order, with blanks around them, and hexadecimal numbers anywhere; a blank text is the empty set.
-/

namespace OverlayControl.BitNames

/-- The bits of a set that no name stands for. -/
def unnamed (names : List (String × Nat)) (bits : Nat) : Nat :=
  bits &&& ((bits ||| (names.map Prod.snd).foldl (· ||| ·) 0) ^^^
    (names.map Prod.snd).foldl (· ||| ·) 0)

/-- The text of a bit set. -/
def render (names : List (String × Nat)) (bits : Nat) : String :=
  let named := (names.filter fun (_, b) => bits &&& b == b).map Prod.fst
  let rest := unnamed names bits
  String.intercalate " | " (named ++ if rest == 0 then [] else ["0x" ++ Text.hex rest])

/-- Cuts a text at every bar. -/
def splitBars : List Char → List (List Char)
  | [] => [[]]
  | c :: cs =>
    if c = '|' then [] :: splitBars cs
    else
      match splitBars cs with
      | [] => [[c]]
      | part :: parts => (c :: part) :: parts

/-- The bits that one part of a text stands for, in a set of bits up to `limit`. -/
def readPart (names : List (String × Nat)) (limit : Nat) (part : List Char) : Option Nat :=
  match Text.trimChars part with
  | '0' :: 'x' :: digits => Text.readHex limit digits
  | name => (names.find? fun (n, _) => n.toList == name).map Prod.snd

/-- The bit set that a text stands for, in bits up to `limit`. -/
def read (names : List (String × Nat)) (limit : Nat) (text : String) : Option Nat :=
  if Text.isBlankText text then some 0
  else ((splitBars text.toList).mapM (readPart names limit)).map fun parts =>
    parts.foldl (· ||| ·) 0

end OverlayControl.BitNames
