/-!
# Decimals beyond the double range

Both document formats read a decimal number as an IEEE double. No setting holds one, so all that
matters of its value is whether it is finite, and a result is infinite from the midpoint between the
largest double and `2 ^ 1024` on. Two ways to read the number `m * 10 ^ e` differ at that border.

* `overflows m e` — the number is rounded once.
* `productOverflows m e` — `m` and `10 ^ e` are rounded first, and then their product is.
-/

namespace OverlayControl.Text

/-- The least number that rounds to infinity. -/
def doubleBound : Nat := Nat.pow 2 1024 - Nat.pow 2 970

/-- How many decimal digits a number has. -/
def decimalWidth (n : Nat) : Nat := (Nat.toDigits 10 n).length

/-- Whether `m * 10 ^ e` rounds to infinity as a double. A number of 308 digits before its point
does not and one of 310 does, so that powers are compared only in between. -/
def overflows (m : Nat) (e : Int) : Bool :=
  if m = 0 ∨ e + decimalWidth m < 309 then false
  else if 309 < e + decimalWidth m then true
  else if e < 0 then doubleBound * Nat.pow 10 e.natAbs ≤ m
  else doubleBound ≤ m * Nat.pow 10 e.toNat

/-- A number to 53 binary digits, as a double has them; a half goes to the even neighbour. -/
def toDouble (n : Nat) : Nat :=
  let unit := Nat.pow 2 (n.log2 - 52)
  let down := n / unit
  let part := 2 * (n % unit)
  if unit < part ∨ (unit = part ∧ down % 2 = 1) then (down + 1) * unit else down * unit

/-- Whether `m` as a double, times `10 ^ e` as a double, rounds to infinity. A power beyond the
double range counts as infinite, and one below zero only makes `m` smaller. -/
def productOverflows (m : Nat) (e : Int) : Bool :=
  if m = 0 ∨ e < 0 then false
  else if 308 < e then true
  else doubleBound ≤ toDouble m * toDouble (Nat.pow 10 e.toNat)

end OverlayControl.Text
