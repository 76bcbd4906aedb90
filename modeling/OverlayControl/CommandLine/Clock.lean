/-!
# Times as text

A time is told by the seconds since the start of 1970 in universal time, and written with its date
in the Gregorian calendar.
-/

namespace OverlayControl.CommandLine

/-- Whether a year has a leap day. -/
def isLeap (year : Nat) : Bool := year % 4 == 0 && (year % 100 != 0 || year % 400 == 0)

/-- The lengths of the months of a year. -/
def monthLengths (year : Nat) : List Nat :=
  [31, if isLeap year then 29 else 28, 31, 30, 31, 30, 31, 31, 30, 31, 30, 31]

/-- The month and the day in it, `days` days after the start of a month, both counted from one. -/
def monthAndDay (month days : Nat) : List Nat → Nat × Nat
  | [] => (month, days + 1)
  | n :: ns => if days < n then (month, days + 1) else monthAndDay (month + 1) (days - n) ns

/-- The date that is `days` days after the start of a year. Later years are at most `fuel`; the
number of days is enough. -/
def dateFrom : (fuel year days : Nat) → Nat × Nat × Nat
  | 0, year, days => (year, monthAndDay 1 days (monthLengths year))
  | fuel + 1, year, days =>
    let length := if isLeap year then 366 else 365
    if days < length then (year, monthAndDay 1 days (monthLengths year))
    else dateFrom fuel (year + 1) (days - length)

/-- A number in at least so many digits. -/
def digits (width n : Nat) : String :=
  let s := toString n
  String.ofList (List.replicate (width - s.length) '0') ++ s

/-- A time, with its nanoseconds. -/
def timeText (seconds nanoseconds : Nat) : String :=
  let days := seconds / 86400
  let (year, month, day) := dateFrom days 1970 days
  let hour := seconds / 3600 % 24
  let minute := seconds / 60 % 60
  s!"{digits 4 year}-{digits 2 month}-{digits 2 day}T{digits 2 hour}:{digits 2 minute}:" ++
    s!"{digits 2 (seconds % 60)}.{digits 9 nanoseconds}Z"

/-- The days of a leap year and of the turn of a century are counted right. -/
example : timeText 951782400 5 = "2000-02-29T00:00:00.000000005Z" ∧
    timeText 4107542399 0 = "2100-02-28T23:59:59.000000000Z" := by decide +kernel

end OverlayControl.CommandLine
