import WorkflowGraph.Timestamp.Basic
import WorkflowGraph.Schema

/-!
# Timestamps of stored graphs

A stored timestamp is a date, one of four separators, a time to the minute or finer, and a distance
to universal time in hours and minutes; or a number of seconds since 1970, of milliseconds if it is
large; or a bare date, which is its midnight. Numbers may be written as texts. A text that is none
of these is refused for the first thing that keeps it from being a bare date.
-/

namespace WorkflowGraph.Timestamp.Stored

/-! ## Texts with a date -/

/-- The characters of a text, each as often as it has bytes. -/
def cells (cs : List Char) : List Char :=
  cs.flatMap fun c => List.replicate c.utf8Size c

/-- A date at the start of a text, of year 0 too; if there is none, why. -/
def date (cs : List Char) : Except DateProblem (Nat × Nat × Nat) :=
  let cs := cells cs
  let part (from_ count : Nat) := (cs.drop from_).take count
  let number (from_ count : Nat) := Text.natOfAsciiDigits (part from_ count)
  let isNumber (from_ count : Nat) := (part from_ count).all Text.isAsciiDigit
  let month := number 5 2
  let day := number 8 2
  if cs.length < 10 then .error .tooShort
  else if !isNumber 0 4 then .error .yearDigit
  else if cs[4]? != some '-' then .error .separator
  else if !isNumber 5 2 then .error .monthDigit
  else if cs[7]? != some '-' then .error .separator
  else if !isNumber 8 2 then .error .dayDigit
  else if month < 1 || 12 < month then .error .monthRange
  else if day < 1 || Calendar.daysInMonth (number 0 4) month < day then .error .dayRange
  else .ok (number 0 4, month, day)

/-- Exactly two digits below a limit, and what follows them. -/
def pair? (limit : Nat) : List Char → Option (Nat × List Char)
  | a :: b :: rest =>
    let n := Text.natOfAsciiDigits [a, b]
    if Text.isAsciiDigit a && Text.isAsciiDigit b && n < limit then some (n, rest) else none
  | _ => none

/-- Seconds and their fraction, if a colon introduces them. Digits beyond the sixth are dropped. -/
def seconds? : List Char → Option (Nat × Nat × List Char)
  | ':' :: rest => do
    let (second, rest) ← pair? 60 rest
    match rest with
    | c :: more =>
      if c == '.' || c == ',' then
        let ds := more.takeWhile Text.isAsciiDigit
        if ds.isEmpty then none
        else
          let kept := ds.take 6
          some (second, Text.natOfAsciiDigits kept * Nat.pow 10 (6 - kept.length),
            more.dropWhile Text.isAsciiDigit)
      else some (second, 0, rest)
    | [] => some (second, 0, [])
  | rest => some (0, 0, rest)

/-- The distance to universal time at the end of a text. -/
def distance? : List Char → Option (Option Int)
  | [] => some none
  | [c] => if c == 'Z' || c == 'z' then some (some 0) else none
  | sign :: rest => do
    let negative ← if sign == '+' then some false
      else if sign == '-' || sign == '−' then some true else none
    let (hours, rest) ← pair? 24 rest
    let rest := if rest.head? == some ':' then rest.drop 1 else rest
    let (minutes, rest) ← pair? 60 rest
    let n : Int := (hours * 3600 + minutes * 60) * perSecond
    if rest.isEmpty then some (some (if negative then -n else n)) else none

/-- What follows the date: a separator, a time and a distance. -/
def time? (cs : List Char) : Option (Nat × Nat × Nat × Nat × Option Int) :=
  match cs with
  | c :: rest =>
    if ['T', 't', ' ', '_'].contains c then do
      let (hour, rest) ← pair? 24 rest
      let (minute, rest) ← match rest with
        | ':' :: rest => pair? 60 rest
        | _ => none
      let (second, microsecond, rest) ← seconds? rest
      let ahead ← distance? rest
      some (hour, minute, second, microsecond, ahead)
    else none
  | [] => none

/-! ## Numbers -/

/-- The largest number that counts seconds; larger ones count milliseconds. -/
def maxSeconds : Int := 20000000000

/-- The first second of the year before year 1. -/
def firstSecond : Int := -62167219200

/-- The last second of year 9999. -/
def lastSecond : Int := 253402300799

/-- The moment that lies some microseconds after the beginning of 1970. -/
def ofMicroseconds (n : Int) : Except DateProblem Timestamp :=
  if n < firstSecond * perSecond then .error .tooEarly
  else if (lastSecond + 1) * perSecond ≤ n then .error .tooLate
  else
    match ofEpoch? n with
    | some t => .ok t
    | none => .error .yearZero

/-- The moment that an integer denotes. -/
def ofInteger (n : Int) : Except DateProblem Timestamp :=
  if n.natAbs ≤ maxSeconds.natAbs then ofMicroseconds (n * perSecond)
  else ofMicroseconds (n * (perSecond / 1000))

/-- The microseconds that a number of seconds counts: the part below a second is rounded, a half
away from zero. -/
def microseconds? (seconds : Float64) : Option Int := do
  let units ← seconds.units?
  let whole := units / Float64.unitsPerOne
  let part ← (Float64.ofUnits (units - whole * Float64.unitsPerOne) 1).units?
  let micros ← (Float64.ofUnits (part * perSecond) 1).units?
  some (whole * perSecond + (2 * micros + Float64.unitsPerOne) / (2 * Float64.unitsPerOne))

/-- A number of seconds, which large numbers give in milliseconds. -/
def inSeconds (x : Float64) : Float64 :=
  match x.units? with
  | some units =>
    if units.natAbs ≤ (maxSeconds * Float64.unitsPerOne).natAbs then x
    else .ofUnits units 1000
  | none => x

/-- The moment that a double denotes. -/
def ofDouble : Float64 → Except DateProblem Timestamp
  | .nan _ => .error .notANumber
  | .infinite negative => .error (if negative then .tooEarly else .tooLate)
  | x =>
    match microseconds? (inSeconds x) with
    | some n => ofMicroseconds n
    | none => .error .tooLate

/-- The greatest integer that is read as one. -/
def maxInteger : Nat := Nat.pow 2 63 - 1

/-- The integer that a text denotes: digits, with a sign if there is one. -/
def integer? (cs : List Char) : Option Int :=
  let (negative, digits) := Schema.takeSign cs
  let n := Text.natOfAsciiDigits digits
  if digits.isEmpty || !digits.all Text.isAsciiDigit || maxInteger < n then none
  else some (if negative then -(n : Int) else n)

/-- The number with a point that a text denotes: digits on either side of the point, with a sign if
there is one. -/
def fractional? (cs : List Char) : Option Float64 :=
  let (negative, unsigned) := Schema.takeSign cs
  if unsigned.contains '.' && unsigned.all fun c => c == '.' || Text.isAsciiDigit c then
    Schema.decimalOfText? negative unsigned
  else none

/-! ## Texts -/

/-- What the date, the time and the distance of a text denote. -/
def ofParts? (cs : List Char) : Option Timestamp :=
  match date cs with
  | .ok (year, month, day) =>
    (time? (cs.drop 10)).map fun (hour, minute, second, microsecond, ahead) =>
      ⟨year, month, day, hour, minute, second, microsecond, ahead⟩
  | .error _ => none

/-- What a number written as text denotes. -/
def ofNumber? (cs : List Char) : Option (Except DateProblem Timestamp) :=
  match integer? cs with
  | some n => some (ofInteger n)
  | none => (fractional? cs).map ofDouble

/-- The midnight of a bare date. A number is refused for its own reason, other texts for what keeps
them from being a date. -/
def ofDate (cs : List Char) : Except DateProblem Timestamp :=
  match date cs with
  | .ok (year, month, day) =>
    if cs.length = 10 then .ok ⟨year, month, day, 0, 0, 0, 0, none⟩ else .error .extraCharacters
  | .error problem => ((integer? cs).map ofInteger).getD (.error problem)

/-- A timestamp of a year that has a number. -/
def inCalendar (t : Timestamp) : Checked Timestamp :=
  if t.year = 0 then .broken (.timestampNumber .yearZero) else .valid t

/-- The timestamp that a text denotes. -/
def ofText (s : String) : Checked Timestamp :=
  let cs := s.toList
  match ofParts? cs with
  | some t => inCalendar t
  | none =>
    match ofNumber? cs with
    | some (.ok t) => .valid t
    | some (.error .yearZero) => .broken (.timestampNumber .yearZero)
    | _ =>
      match ofDate cs with
      | .ok t => inCalendar t
      | .error problem => .broken (.timestampText problem)

end WorkflowGraph.Timestamp.Stored

namespace WorkflowGraph.Schema

/-- A number that denotes a timestamp. -/
def numericTimestamp : Except DateProblem Timestamp → Checked Timestamp
  | .ok t => .valid t
  | .error problem => .broken (.timestampNumber problem)

/-- A timestamp of a stored graph. -/
def timestamp : Json → Checked Timestamp
  | .str s => Timestamp.Stored.ofText s
  | .int n =>
    if isMachineSize n then numericTimestamp (Timestamp.Stored.ofInteger n)
    else
      match number (.int n) with
      | .valid x => numericTimestamp (Timestamp.Stored.ofDouble x)
      | .invalid _ => .broken .timestamp
  | .float x => numericTimestamp (Timestamp.Stored.ofDouble x)
  | _ => .broken .timestamp

end WorkflowGraph.Schema
