/-!
# Decimal numerals of bounded size

A numeral is an optional sign and at least one ASCII digit. Reading one into a bounded range has
four causes of failure, and of several faults the leftmost decides: a character that is no digit
before the bound is crossed, or the digit that crosses it.

* `readNat limit` — a natural number up to `limit`; a leading `+` is allowed, a `-` is not;
* `readInt limit` — a whole number from `-(limit + 1)` to `limit`; either sign is allowed.
-/

namespace OverlayControl.Text

/-- Why a text is not a numeral in range. -/
inductive NumeralFault
  /-- The text is empty. -/
  | empty
  /-- The text holds something other than a sign and digits. -/
  | invalidDigit
  /-- The number is above the range. -/
  | tooLarge
  /-- The number is below the range. -/
  | tooSmall
  deriving DecidableEq

/-- The wording of a fault. -/
def NumeralFault.message : NumeralFault → String
  | .empty => "cannot parse integer from empty string"
  | .invalidDigit => "invalid digit found in string"
  | .tooLarge => "number too large to fit in target type"
  | .tooSmall => "number too small to fit in target type"

/-- The value of an ASCII digit. -/
def digitValue? (c : Char) : Option Nat :=
  if c.isDigit then some (c.toNat - '0'.toNat) else none

/-- The value of an ASCII hexadecimal digit, in either case. -/
def hexValue? (c : Char) : Option Nat :=
  if c.isDigit then some (c.toNat - '0'.toNat)
  else if 'a' ≤ c ∧ c ≤ 'f' then some (c.toNat - 'a'.toNat + 10)
  else if 'A' ≤ c ∧ c ≤ 'F' then some (c.toNat - 'A'.toNat + 10)
  else none

/-- Reads digits after the number `acc`, up to `limit`; crossing it is the fault `beyond`. -/
def readDigits (digit? : Char → Option Nat) (base limit : Nat) (beyond : NumeralFault) :
    Nat → List Char → Except NumeralFault Nat
  | acc, [] => .ok acc
  | acc, c :: cs =>
    match digit? c with
    | none => .error .invalidDigit
    | some d =>
      if acc * base + d ≤ limit then readDigits digit? base limit beyond (acc * base + d) cs
      else .error beyond

/-- Reads at least one decimal digit, up to `limit`. -/
def readMagnitude (limit : Nat) (beyond : NumeralFault) (cs : List Char) :
    Except NumeralFault Nat :=
  if cs.isEmpty then .error .invalidDigit else readDigits digitValue? 10 limit beyond 0 cs

/-- Reads a natural number up to `limit`. -/
def readNatChars (limit : Nat) : List Char → Except NumeralFault Nat
  | [] => .error .empty
  | '+' :: cs => readMagnitude limit .tooLarge cs
  | cs => readMagnitude limit .tooLarge cs

/-- Reads a whole number from `-(limit + 1)` to `limit`. -/
def readIntChars (limit : Nat) : List Char → Except NumeralFault Int
  | [] => .error .empty
  | '+' :: cs => (readMagnitude limit .tooLarge cs).map Int.ofNat
  | '-' :: cs => (readMagnitude (limit + 1) .tooSmall cs).map fun n => -Int.ofNat n
  | cs => (readMagnitude limit .tooLarge cs).map Int.ofNat

/-- Reads a 32-bit word. -/
def readWord (s : String) : Except NumeralFault UInt32 :=
  (readNatChars (UInt32.size - 1) s.toList).map UInt32.ofNat

/-- Reads a natural number below `2 ^ 64`. -/
def readLongNat (s : String) : Except NumeralFault Nat :=
  readNatChars (UInt64.size - 1) s.toList

/-- The largest number of the 64-bit two's complement range. -/
def longLimit : Nat := 0x7FFFFFFFFFFFFFFF

/-- Reads a whole number in the 64-bit two's complement range. -/
def readLong (s : String) : Except NumeralFault Int := readIntChars longLimit s.toList

/-- Reads a text of hexadecimal digits, with an optional `+` before them, up to `limit`. -/
def readHex (limit : Nat) (cs : List Char) : Option Nat :=
  let digits := match cs with
    | '+' :: rest => rest
    | _ => cs
  if digits.isEmpty then none
  else (readDigits hexValue? 16 limit .tooLarge 0 digits).toOption

/-- The hexadecimal digit of a value below 16, small or capital. -/
def hexDigit (capital : Bool) (n : Nat) : Char :=
  if n < 10 then Char.ofNat ('0'.toNat + n)
  else Char.ofNat ((if capital then 'A' else 'a').toNat + (n - 10))

/-- The last `width` hexadecimal digits of a number. -/
def hexPadded (capital : Bool) : Nat → Nat → List Char
  | 0, _ => []
  | width + 1, n => hexPadded capital width (n / 16) ++ [hexDigit capital (n % 16)]

/-- How many hexadecimal digits a number has; one for zero. -/
def hexWidth (n : Nat) : Nat := (Nat.log2 n) / 4 + 1

/-- A number in hexadecimal digits, without leading zeros. -/
def hex (n : Nat) : String := String.ofList (hexPadded false (hexWidth n) n)

end OverlayControl.Text
