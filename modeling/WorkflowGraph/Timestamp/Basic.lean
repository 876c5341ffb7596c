import WorkflowGraph.Text.Digit

/-!
# Timestamps

A date and a time of day, with the distance to universal time if it is known. Dates are those of the
Gregorian calendar, extended to all years from 1 to 9999; a day has a number, counted from 1 for the
first day of year 1. Timestamps are written in two ways: `iso` keeps every part of the distance,
`stored` writes `Z` for universal time and the distance in hours and minutes otherwise.
-/

namespace WorkflowGraph

/-! ## The calendar -/

namespace Calendar

/-- The year has a 29th of February. -/
def isLeap (year : Nat) : Bool :=
  year % 4 == 0 && (year % 100 != 0 || year % 400 == 0)

/-- The numbers of days of the months of a year. -/
def monthLengths (year : Nat) : List Nat :=
  [31, if isLeap year then 29 else 28, 31, 30, 31, 30, 31, 31, 30, 31, 30, 31]

/-- The number of days of a month; none for a month that does not exist. -/
def daysInMonth (year month : Nat) : Nat :=
  if month = 0 then 0 else (monthLengths year).getD (month - 1) 0

/-- The number of days before a year. -/
def daysBefore (year : Nat) : Nat :=
  let y := year - 1
  365 * y + y / 4 - y / 100 + y / 400

/-- The number of a day. -/
def dayNumber (year month day : Nat) : Nat :=
  daysBefore year + ((monthLengths year).take (month - 1)).foldl (· + ·) 0 + day

/-- The weekday of a day number, zero for Monday. -/
def weekday (number : Nat) : Nat :=
  (number + 6) % 7

/-- The month and the day that lie a number of days after the beginning of the month that comes
first in a list of month lengths. -/
def monthAndDay (month rest : Nat) : List Nat → Nat × Nat
  | [] => (month, rest + 1)
  | length :: lengths =>
    if rest < length then (month, rest + 1) else monthAndDay (month + 1) (rest - length) lengths

/-- Year, month and day of a day number. -/
def dateOf (number : Nat) : Nat × Nat × Nat :=
  let n := number - 1
  let (n400, n) := (n / 146097, n % 146097)
  let n100 := min (n / 36524) 3
  let n := n - n100 * 36524
  let (n4, n) := (n / 1461, n % 1461)
  let n1 := min (n / 365) 3
  let year := n400 * 400 + n100 * 100 + n4 * 4 + n1 + 1
  (year, monthAndDay 1 (n - n1 * 365) (monthLengths year))

/-- The day number of the Monday of the first week of a year: the week that holds its first
Thursday. -/
def firstMonday (year : Nat) : Nat :=
  let first := dayNumber year 1 1
  let monday := first - weekday first
  if weekday first > 3 then monday + 7 else monday

/-- The number of weeks of a year: 53 if it begins on a Thursday, or on a Wednesday and is a leap
year. -/
def weeks (year : Nat) : Nat :=
  let first := weekday (dayNumber year 1 1)
  if first == 3 || (first == 2 && isLeap year) then 53 else 52

end Calendar

/-! ## Timestamps -/

/-- A date and a time of day. -/
structure Timestamp where
  year : Nat
  /-- The month, from 1. -/
  month : Nat
  /-- The day of the month, from 1. -/
  day : Nat
  hour : Nat
  minute : Nat
  second : Nat
  /-- The millionth parts of the second. -/
  microsecond : Nat
  /-- How many microseconds the time is ahead of universal time, if that is known. -/
  ahead : Option Int
  deriving DecidableEq

namespace Timestamp

/-- The microseconds of a second. -/
def perSecond : Int := 1000000

/-- The microseconds of a day. -/
def perDay : Int := 86400 * perSecond

/-- The parts of the timestamp are within their ranges. -/
def inRange (t : Timestamp) : Bool :=
  1 ≤ t.year && t.year ≤ 9999 && 1 ≤ t.month && t.month ≤ 12 && 1 ≤ t.day &&
    t.day ≤ Calendar.daysInMonth t.year t.month && t.hour < 24 && t.minute < 60 &&
    t.second < 60 && t.microsecond < 1000000 &&
    t.ahead.all fun ahead => -perDay < ahead && ahead < perDay

/-- The timestamp in universal time that lies some microseconds after the beginning of year 1; none
if it is out of range. -/
def ofMicroseconds? (n : Int) : Option Timestamp :=
  if n < 0 then none
  else
    let days := (n / perDay).toNat
    let rest := (n % perDay).toNat
    let seconds := rest / 1000000
    let (year, month, day) := Calendar.dateOf (days + 1)
    let t : Timestamp := {
      year, month, day
      hour := seconds / 3600
      minute := seconds / 60 % 60
      second := seconds % 60
      microsecond := rest % 1000000
      ahead := some 0 }
    if t.inRange then some t else none

/-- The microseconds between the beginning of year 1 and the time of day shown. -/
def microseconds (t : Timestamp) : Int :=
  let days : Int := Calendar.dayNumber t.year t.month t.day - 1
  let seconds : Int := t.hour * 3600 + t.minute * 60 + t.second
  days * perDay + seconds * perSecond + t.microsecond

/-- The timestamp some microseconds later; none if that is out of range. -/
def later? (t : Timestamp) (duration : Int) : Option Timestamp :=
  (ofMicroseconds? (t.microseconds + duration)).map fun u => { u with ahead := t.ahead }

/-- The beginning of 1970, from which clocks count, in microseconds after the beginning of year 1.
-/
def epoch : Int := ((Calendar.dayNumber 1970 1 1 : Int) - 1) * perDay

/-- The timestamp in universal time that lies some microseconds after the beginning of 1970. -/
def ofEpoch? (n : Int) : Option Timestamp :=
  ofMicroseconds? (epoch + n)

/-! ## Text -/

/-- A fraction of a second: six digits, nothing for zero. -/
def fractionText (microseconds : Nat) : String :=
  if microseconds = 0 then "" else "." ++ Text.padded 6 microseconds

/-- Date and time of day. -/
def localText (t : Timestamp) : String :=
  Text.padded 4 t.year ++ "-" ++ Text.padded 2 t.month ++ "-" ++ Text.padded 2 t.day ++ "T" ++
    Text.padded 2 t.hour ++ ":" ++ Text.padded 2 t.minute ++ ":" ++ Text.padded 2 t.second ++
    fractionText t.microsecond

/-- The distance to universal time in hours and minutes, then seconds and their fraction if there
are any. -/
def distanceText (ahead : Int) : String :=
  let n := ahead.natAbs
  let seconds := n / 1000000
  let sign := if ahead < 0 then "-" else "+"
  let tail :=
    if seconds % 60 = 0 && n % 1000000 = 0 then ""
    else ":" ++ Text.padded 2 (seconds % 60) ++ fractionText (n % 1000000)
  sign ++ Text.padded 2 (seconds / 3600) ++ ":" ++ Text.padded 2 (seconds / 60 % 60) ++ tail

/-- The timestamp as documents hold it. -/
def iso (t : Timestamp) : String :=
  t.localText ++ (t.ahead.map distanceText).getD ""

/-- The distance to universal time in hours and minutes, `Z` if it is less than half a second. -/
def storedDistanceText (ahead : Int) : String :=
  let n := ahead.natAbs
  let seconds := (n + 500000) / 1000000
  if seconds = 0 then "Z"
  else
    (if ahead < 0 then "-" else "+") ++ Text.padded 2 (seconds / 3600) ++ ":" ++
      Text.padded 2 (seconds / 60 % 60)

/-- The timestamp as stored graphs hold it. -/
def stored (t : Timestamp) : String :=
  t.localText ++ (t.ahead.map storedDistanceText).getD ""

end Timestamp

end WorkflowGraph
