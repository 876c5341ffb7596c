import WorkflowGraph.Timestamp.Basic

/-!
# Timestamps of documents

The forms of ISO 8601 that documents may use for a timestamp: dates by month and day or by week and
weekday, with separators or without, any one character before the time, times down to a fraction of
a second, and a distance to universal time of the same form. A text ends where U+0000 stands in
place of a separator.
-/

namespace WorkflowGraph.Timestamp.Iso

/-- Exactly `n` decimal digits and what follows them. -/
def digits? (n : Nat) (cs : List Char) : Option (Nat × List Char) :=
  let ds := cs.take n
  if ds.length = n && ds.all Text.isAsciiDigit then some (Text.natOfAsciiDigits ds, cs.drop n)
  else none

/-- The character that stands first, which at the end is U+0000. -/
def head (cs : List Char) : Char :=
  cs.headD '\x00'

/-- The text goes on, with a character other than U+0000. -/
def goesOn (cs : List Char) : Bool :=
  head cs != '\x00'

/-- Nothing or a single ASCII character is left. -/
def isLast : List Char → Bool
  | [] => true
  | [c] => c.toNat < 0x80
  | _ => false

/-- The character at a place is this one. -/
def isAt (cs : List Char) (place : Nat) (c : Char) : Bool :=
  cs[place]? == some c

/-- The number of characters of the date, judged by its first separator. -/
def dateLength? (cs : List Char) : Option Nat :=
  if cs.length < 7 then none
  else if cs.length = 7 then some 7
  else if isAt cs 4 '-' then
    if isAt cs 5 'W' then
      if isAt cs 8 '-' then
        if cs.length = 9 then none
        else if (cs[10]?.any Text.isAsciiDigit) then some 8
        else some 10
      else some 8
    else some 10
  else if isAt cs 4 'W' then
    let position := 7 + ((cs.drop 7).takeWhile Text.isAsciiDigit).length
    if position < 9 then some position
    else if position % 2 = 0 then some 7
    else some 8
  else some 8

/-- The date of a weekday of a week. -/
def ofWeek? (year week day : Nat) : Option (Nat × Nat × Nat) :=
  if 1 ≤ week && week ≤ Calendar.weeks year && 1 ≤ day && day ≤ 7 then
    some (Calendar.dateOf (Calendar.firstMonday year + (week - 1) * 7 + (day - 1)))
  else none

/-- A separator, where one is used. -/
def separator? (used : Bool) (cs : List Char) : Option (List Char) :=
  if used then if head cs == '-' then some (cs.drop 1) else none else some cs

/-- Year, month and day from a text. -/
def date? (cs : List Char) : Option (Nat × Nat × Nat) := do
  let (year, rest) ← digits? 4 cs
  let separated := head rest == '-'
  let rest := if separated then rest.drop 1 else rest
  if head rest == 'W' then
    let (week, rest) ← digits? 2 (rest.drop 1)
    if rest.isEmpty then ofWeek? year week 1
    else
      let rest ← separator? separated rest
      let (day, _) ← digits? 1 rest
      ofWeek? year week day
  else
    let (month, rest) ← digits? 2 rest
    let rest ← separator? separated rest
    let (day, rest) ← digits? 2 rest
    if rest.isEmpty then some (year, month, day) else none

/-- A time of day or a distance: hours, minutes, seconds and microseconds. -/
structure Clock where
  hours : Nat
  minutes : Nat
  seconds : Nat
  microseconds : Nat

/-- The hours, minutes and seconds read so far. -/
def Clock.ofParts (parts : List Nat) (microseconds : Nat) : Clock :=
  ⟨parts.getD 0 0, parts.getD 1 0, parts.getD 2 0, microseconds⟩

/-- The fraction of a second: its first six digits count. The flag tells that something follows. -/
def fraction? (parts : List Nat) (cs : List Char) : Option (Clock × Bool) := do
  let n := min cs.length 6
  let (value, rest) ← digits? n cs
  let rest := rest.dropWhile Text.isAsciiDigit
  some (Clock.ofParts parts (value * Nat.pow 10 (6 - n)), goesOn rest)

/-- The parts of a time that remain to be read, two digits each, with colons between all of them or
none. The flag of the result tells that the text goes on where the time ends. -/
def parts? : (remaining : Nat) → (colons : Option Bool) → (parts : List Nat) → List Char →
    Option (Clock × Bool)
  | 0, _, parts, cs => fraction? parts cs
  | remaining + 1, colons, parts, cs => do
    let (value, rest) ← digits? 2 cs
    let parts := parts ++ [value]
    let colons := colons.getD (head rest == ':')
    if isLast rest then some (Clock.ofParts parts 0, goesOn rest)
    else if colons && head rest == ':' then parts? remaining (some colons) parts (rest.drop 1)
    else if head rest == '.' || head rest == ',' then fraction? parts (rest.drop 1)
    else if colons then none
    else parts? remaining (some colons) parts rest

/-- A time or a distance. -/
def clock? (cs : List Char) : Option (Clock × Bool) :=
  parts? 3 none [] cs

/-- A sign stands before a distance to universal time. -/
def isSign (c : Char) : Bool :=
  c == '+' || c == '-'

/-- The microseconds of a distance; less than a second counts as none. -/
def distance (negative : Bool) (c : Clock) : Int :=
  let seconds : Int := c.hours * 3600 + c.minutes * 60 + c.seconds
  if seconds = 0 then 0
  else (if negative then -1 else 1) * (seconds * perSecond + c.microseconds)

/-- A time of day, and a distance to universal time if one follows. -/
def time? (cs : List Char) : Option (Clock × Option Int) := do
  let before := cs.takeWhile fun c => !isSign c
  match cs.dropWhile fun c => !isSign c with
  | [] =>
    let (time, more) ← clock? before
    if more then none else some (time, none)
  | sign :: after =>
    let (time, _) ← clock? before
    let (ahead, more) ← clock? after
    if more then none else some (time, some (distance (sign == '-') ahead))

/-- What follows the date: nothing, or a separator and a time. -/
def rest? : List Char → Option (Clock × Option Int)
  | [] => some (⟨0, 0, 0, 0⟩, none)
  | _ :: time => time? time

/-- The timestamp that a text of these forms denotes. -/
def ofChars? (cs : List Char) : Option Timestamp := do
  let length ← dateLength? cs
  let (year, month, day) ← date? (cs.take length)
  let (time, ahead) ← rest? (cs.drop length)
  let t : Timestamp :=
    ⟨year, month, day, time.hours, time.minutes, time.seconds, time.microseconds, ahead⟩
  if t.inRange then some t else none

end WorkflowGraph.Timestamp.Iso

namespace WorkflowGraph.Timestamp

/-- The timestamp that a document holds; `Z` stands for universal time wherever it occurs. -/
def ofIso? (s : String) : Option Timestamp :=
  Iso.ofChars? (s.toList.flatMap fun c => if c == 'Z' then ['+', '0', '0', ':', '0', '0'] else [c])

end WorkflowGraph.Timestamp
