/-!
# Calendar dates and times of day

Dates of the proleptic Gregorian calendar and points in time with an optional offset
from UTC, as data documents write them (`2002-12-14`, `2001-12-14T21:59:43.10-05:00`).

## Main definitions

* `Date`, `Date.check` — a date and the first field out of range
* `DateTime`, `DateTime.check` — a date with a time of day and an optional UTC offset
* `Date.isoText`, `DateTime.isoText`, `DateTime.text` — written forms
* `DateTime.same` — whether two points in time are equal
-/

namespace IacLint.Data

/-- A calendar date. -/
structure Date where
  /-- The year, 1 to 9999. -/
  year : Nat
  /-- The month, 1 to 12. -/
  month : Nat
  /-- The day of the month. -/
  day : Nat
  deriving DecidableEq, Repr

/-- A date and time of day, with an offset from UTC in minutes when it is known. -/
structure DateTime where
  /-- The calendar date. -/
  date : Date
  /-- Hours, 0 to 23. -/
  hour : Nat
  /-- Minutes, 0 to 59. -/
  minute : Nat
  /-- Seconds, 0 to 59. -/
  second : Nat
  /-- Microseconds, 0 to 999999. -/
  micro : Nat
  /-- Minutes east of UTC, for a time that names its offset. -/
  offset : Option Int
  deriving DecidableEq, Repr

/-- `n` in decimal, padded with zeros to `width` digits. -/
def padNat (width n : Nat) : String :=
  let ds := Nat.toDigits 10 n
  String.ofList (List.replicate (width - ds.length) '0' ++ ds)

/-- Whether `y` is a leap year. -/
def isLeapYear (y : Nat) : Bool := y % 4 = 0 && (y % 100 ≠ 0 || y % 400 = 0)

/-- The number of days of month `m` of year `y`. -/
def daysInMonth (y m : Nat) : Nat :=
  if m = 2 then (if isLeapYear y then 29 else 28)
  else if m = 4 ∨ m = 6 ∨ m = 9 ∨ m = 11 then 30 else 31

namespace Date

/-- The first field out of range, as the complaint about it. -/
def check (d : Date) : Option String :=
  if d.year < 1 ∨ d.year > 9999 then some ("year " ++ toString d.year ++ " is out of range")
  else if d.month < 1 ∨ d.month > 12 then some "month must be in 1..12"
  else if d.day < 1 ∨ d.day > daysInMonth d.year d.month then
    some "day is out of range for month"
  else none

/-- `YYYY-MM-DD`. -/
def isoText (d : Date) : String :=
  padNat 4 d.year ++ "-" ++ padNat 2 d.month ++ "-" ++ padNat 2 d.day

/-- Days since 0001-01-01. -/
def ordinal (d : Date) : Nat :=
  let y := d.year - 1
  let before := y * 365 + y / 4 - y / 100 + y / 400
  let months := (List.range (d.month - 1)).foldl (fun acc m => acc + daysInMonth d.year (m + 1)) 0
  before + months + d.day - 1

end Date

namespace DateTime

/-- The first field out of range, as the complaint about it. -/
def check (t : DateTime) : Option String :=
  match t.date.check with
  | some e => some e
  | none =>
    if t.hour > 23 then some "hour must be in 0..23"
    else if t.minute > 59 then some "minute must be in 0..59"
    else if t.second > 59 then some "second must be in 0..59"
    else none

/-- An offset of minutes as `±HH:MM`. -/
def offsetText (m : Int) : String :=
  (if m < 0 then "-" else "+") ++ padNat 2 (m.natAbs / 60) ++ ":" ++ padNat 2 (m.natAbs % 60)

/-- The written form with `sep` between date and time: the microseconds only when they
are not zero, the offset only when it is known. -/
def textWith (sep : String) (t : DateTime) : String :=
  t.date.isoText ++ sep ++ padNat 2 t.hour ++ ":" ++ padNat 2 t.minute ++ ":" ++
    padNat 2 t.second ++ (if t.micro = 0 then "" else "." ++ padNat 6 t.micro) ++
    (match t.offset with | some m => offsetText m | none => "")

/-- `YYYY-MM-DDTHH:MM:SS[.ffffff][±HH:MM]`. -/
def isoText (t : DateTime) : String := textWith "T" t

/-- `YYYY-MM-DD HH:MM:SS[.ffffff][±HH:MM]`. -/
def text (t : DateTime) : String := textWith " " t

/-- Microseconds since 0001-01-01 00:00 at the same offset. -/
def localMicros (t : DateTime) : Int :=
  (((t.date.ordinal * 24 + t.hour) * 60 + t.minute) * 60 + t.second) * 1000000 + t.micro

/-- Whether two points in time are equal: times without offsets by their fields, times
with offsets as instants, and never one of each. -/
def same (a b : DateTime) : Bool :=
  match a.offset, b.offset with
  | none, none => a == b
  | some x, some y => a.localMicros - x * 60000000 == b.localMicros - y * 60000000
  | _, _ => false

end DateTime

end IacLint.Data
