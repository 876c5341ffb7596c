import WorkflowGraph.Float64.Rounding
import WorkflowGraph.Text.Blank
import WorkflowGraph.Text.Digit
import WorkflowGraph.Violation

/-!
# Numbers written as texts

Fields that hold numbers may be written as texts. A text is first brought into a plain form, and
the plain form is read strictly. For integers blanks around the text go, a plus sign, zeros in front
of the first other digit, a fraction of zeros, and single underscores; for other numbers blanks, or
else single underscores.
-/

namespace WorkflowGraph.Schema

/-! ## Underscores -/

/-- Two underscores stand side by side. -/
def hasDoubledUnderscore : List Char → Bool
  | '_' :: '_' :: _ => true
  | _ :: rest => hasDoubledUnderscore rest
  | [] => false

/-- The text without underscores, if they stand alone and not at its ends. -/
def withoutUnderscores? (cs : List Char) : Option (List Char) :=
  if cs.head? == some '_' || cs.getLast? == some '_' || hasDoubledUnderscore cs then none
  else some (cs.filter (· != '_'))

/-! ## Integers -/

/-- The greatest number of digits of an integer written as text. -/
def maxIntegerLength : Nat := 4300

/-- A minus sign, if there is one, and what follows it. -/
def takeMinus : List Char → Bool × List Char
  | '-' :: rest => (true, rest)
  | cs => (false, cs)

/-- A sign, if there is one, and what follows it. -/
def takeSign : List Char → Bool × List Char
  | '+' :: rest => (false, rest)
  | cs => takeMinus cs

/-- More digits stand at the start than an integer may have. -/
def isOversized (cs : List Char) : Bool :=
  let digits := (takeMinus cs).2.takeWhile Text.isAsciiDigit
  digits.head? != some '0' && digits.length > maxIntegerLength

/-- The integer of a plain text: a minus sign if it is negative, and digits, the first of which is
zero only in zero itself. -/
def plainInteger? (cs : List Char) : Option Int :=
  let (negative, digits) := takeMinus cs
  if digits.isEmpty || !digits.all Text.isAsciiDigit ||
      (digits.head? == some '0' && digits != ['0'])
  then none
  else
    let n : Int := Text.natOfAsciiDigits digits
    some (if negative then -n else n)

/-- What remains of a number when zeros and underscores have been read, `last` being the last of
them. The zero before a point stays, and so does the last character of a row of zeros. -/
def afterZeros? (last : Char) : List Char → Option (List Char)
  | [] => some [last]
  | c :: rest =>
    if c == '0' || c == '_' then afterZeros? c rest
    else if c == '.' then some (last :: c :: rest)
    else if c == '-' || Text.isAsciiDigit c then some (c :: rest)
    else none

/-- A number that starts with a digit, without the zeros in front. -/
def withoutLeadingZeros? : List Char → Option (List Char)
  | [] => none
  | c :: rest =>
    if c == '0' then afterZeros? c rest
    else if Text.isAsciiDigit c then some (c :: rest)
    else none

/-- A number without a fraction of zeros. A point at the end is no fraction, and stays. -/
def withoutZeroFraction (cs : List Char) : List Char :=
  let fraction := (cs.dropWhile (· != '.')).drop 1
  if !fraction.isEmpty && fraction.all (· == '0') then cs.takeWhile (· != '.') else cs

/-- The plain form of an integer written as text. -/
def plainForm? (cs : List Char) : Option (List Char) := do
  let (negative, unsigned) := takeSign (Text.trimBy Text.isWhiteSpace cs)
  let digits ← withoutUnderscores? (withoutZeroFraction (← withoutLeadingZeros? unsigned))
  some (if negative then '-' :: digits else digits)

/-- An integer written as text. -/
def integerOfText (s : String) : Checked Int :=
  let cs := s.toList
  if isOversized cs then .broken .integerSize
  else
    match plainForm? cs with
    | none => .broken .integerText
    | some plain =>
      if isOversized plain then .broken .integerSize
      else
        match plainInteger? plain with
        | some n => .valid n
        | none => .broken .integerText

/-! ## Other numbers -/

/-- The exponent at the end of a number: nothing, or a letter, a sign and digits. -/
def exponentOfText? : List Char → Option Int
  | [] => some 0
  | c :: rest =>
    if c == 'e' || c == 'E' then
      let (negative, digits) := takeSign rest
      if digits.isEmpty || !digits.all Text.isAsciiDigit then none
      else
        let n : Int := Text.natOfAsciiDigits digits
        some (if negative then -n else n)
    else none

/-- A decimal number without sign. -/
def decimalOfText? (negative : Bool) (cs : List Char) : Option Float64 :=
  let whole := cs.takeWhile Text.isAsciiDigit
  let rest := cs.dropWhile Text.isAsciiDigit
  let (fraction, rest) := match rest with
    | '.' :: rest => (rest.takeWhile Text.isAsciiDigit, rest.dropWhile Text.isAsciiDigit)
    | rest => ([], rest)
  let digits := whole ++ fraction
  if digits.isEmpty then none
  else
    (exponentOfText? rest).map fun exponent =>
      .ofDecimal negative (Text.natOfAsciiDigits digits) (exponent - fraction.length)

/-- A decimal number, `inf`, `infinity` or `nan`, with a sign if there is one. A NaN that is read
from a text equals nothing. -/
def plainNumber? (cs : List Char) : Option Float64 :=
  let (negative, unsigned) := takeSign cs
  let word := String.ofList (unsigned.map Char.toLower)
  if word == "inf" || word == "infinity" then some (.infinite negative)
  else if word == "nan" then some (.nan false)
  else decimalOfText? negative unsigned

/-- A number written as text: with blanks around it, or with underscores inside. -/
def numberOfText (s : String) : Checked Float64 :=
  let cs := s.toList
  match plainNumber? (Text.trimBy Text.isWhiteSpace cs) with
  | some x => .valid x
  | none =>
    match (withoutUnderscores? cs).bind plainNumber? with
    | some x => .valid x
    | none => .broken .numberText

end WorkflowGraph.Schema
