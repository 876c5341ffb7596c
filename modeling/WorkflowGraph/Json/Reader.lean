import WorkflowGraph.Json.Basic
import WorkflowGraph.Text.Digit

/-!
# Reading JSON text

A reader that accepts what the format allows and, beyond it, `NaN`, `Infinity` and `-Infinity`. When
it fails it tells what it expected and where: each failure carries the rest of the text at which it
arose, from which line and column follow. Integers of more than 4300 digits are refused, and so is
a text as soon as too many of its lists and objects lie one inside the other.
-/

namespace WorkflowGraph.Json

/-- What is wrong with a text. -/
inductive ReadProblem where
  /-- A byte order mark stands first. -/
  | byteOrderMark
  /-- No value starts here. -/
  | value
  /-- A key must follow. -/
  | propertyName
  /-- A colon must follow a key. -/
  | colon
  /-- A comma or the end of the list or object must follow. -/
  | comma
  /-- Something follows the value. -/
  | extraData
  /-- The text that starts here has no end. -/
  | unterminated
  /-- A control character stands in a text. -/
  | controlCharacter
  /-- A backslash is followed by a character that it cannot stand before. -/
  | escape
  /-- Four hexadecimal digits must follow. -/
  | unitEscape
  /-- An integer has more digits than are read. -/
  | tooManyDigits (count : Nat)
  /-- More lists and objects lie one inside the other than are read. -/
  | tooNested
  deriving DecidableEq

/-- The message for a problem. -/
def ReadProblem.message : ReadProblem → String
  | byteOrderMark => "Unexpected UTF-8 BOM (decode using utf-8-sig)"
  | value => "Expecting value"
  | propertyName => "Expecting property name enclosed in double quotes"
  | colon => "Expecting ':' delimiter"
  | comma => "Expecting ',' delimiter"
  | extraData => "Extra data"
  | unterminated => "Unterminated string starting at"
  | controlCharacter => "Invalid control character at"
  | escape => "Invalid \\escape"
  | unitEscape => "Invalid \\uXXXX escape"
  | tooManyDigits count =>
    s!"Exceeds the limit (4300 digits) for integer string conversion: value has {count} digits; " ++
      "use sys.set_int_max_str_digits() to increase the limit"
  | tooNested => "maximum recursion depth exceeded"

/-- A failure: the problem and the text from the place where it arose. -/
structure ReadFailure where
  problem : ReadProblem
  /-- The text that was not read. -/
  rest : List Char

/-- A step of the reader: a result and the text that follows it. -/
abbrev Step (α : Type) := Except ReadFailure (α × List Char)

/-- A failure at a place. -/
def failAt {α : Type} (problem : ReadProblem) (rest : List Char) : Except ReadFailure α :=
  .error ⟨problem, rest⟩

/-- The greatest number of digits of an integer. -/
def maxDigits : Nat := 4300

/-- The greatest number of lists and objects one inside the other. -/
def maxNesting : Nat := 990

/-- The blanks of the format. -/
def isFormatBlank (c : Char) : Bool :=
  c == ' ' || c == '\t' || c == '\n' || c == '\r'

/-- The text after its leading blanks. -/
def skipBlanks (cs : List Char) : List Char :=
  cs.dropWhile isFormatBlank

/-! ## Texts -/

/-- The value of a hexadecimal digit. -/
def hexValue? (c : Char) : Option Nat :=
  if '0' ≤ c && c ≤ '9' then some (c.toNat - 48)
  else if 'a' ≤ c && c ≤ 'f' then some (c.toNat - 87)
  else if 'A' ≤ c && c ≤ 'F' then some (c.toNat - 55)
  else none

/-- The number that four hexadecimal digits denote. -/
def unit? (a b c d : Char) : Option Nat :=
  match hexValue? a, hexValue? b, hexValue? c, hexValue? d with
  | some a, some b, some c, some d => some (((a * 16 + b) * 16 + c) * 16 + d)
  | _, _, _, _ => none

/-- The character that a letter denotes after a backslash. -/
def escaped? : Char → Option Char
  | '"' => some '"'
  | '\\' => some '\\'
  | '/' => some '/'
  | 'b' => some '\x08'
  | 'f' => some '\x0c'
  | 'n' => some '\n'
  | 'r' => some '\r'
  | 't' => some '\t'
  | _ => none

/-- A code point as a character; a surrogate that stands alone becomes U+FFFD. -/
def charOf (n : Nat) : Char :=
  if 0xD800 ≤ n && n ≤ 0xDFFF then '\uFFFD' else Char.ofNat n

/-- The high half of a surrogate pair. -/
def isHighSurrogate (n : Nat) : Bool := 0xD800 ≤ n && n ≤ 0xDBFF

/-- The low half of a surrogate pair. -/
def isLowSurrogate (n : Nat) : Bool := 0xDC00 ≤ n && n ≤ 0xDFFF

/-- The code point of a surrogate pair. -/
def joinSurrogates (high low : Nat) : Nat :=
  0x10000 + (high - 0xD800) * 0x400 + (low - 0xDC00)

/-- The rest of a text after its opening quote. `opening` is the text from that quote on, `acc` the
characters so far in reverse. A high surrogate waits in `pending` for its other half. -/
def readText (opening : List Char) (pending : Option Nat) (acc : List Char) :
    List Char → Step String
  | [] => failAt .unterminated opening
  | '"' :: rest => .ok (String.ofList (flush pending acc).reverse, rest)
  | '\\' :: 'u' :: a :: b :: c :: d :: next :: rest =>
    match unit? a b c d with
    | none => failAt .unitEscape ('u' :: a :: b :: c :: d :: next :: rest)
    | some n =>
      match pending with
      | some high =>
        if isLowSurrogate n then
          readText opening none (charOf (joinSurrogates high n) :: acc) (next :: rest)
        else if isHighSurrogate n then
          readText opening (some n) (charOf high :: acc) (next :: rest)
        else readText opening none (charOf n :: charOf high :: acc) (next :: rest)
      | none =>
        if isHighSurrogate n then readText opening (some n) acc (next :: rest)
        else readText opening none (charOf n :: acc) (next :: rest)
  | '\\' :: 'u' :: rest => failAt .unitEscape ('u' :: rest)
  | ['\\'] => failAt .unterminated opening
  | '\\' :: c :: rest =>
    match escaped? c with
    | none => failAt .escape ('\\' :: c :: rest)
    | some e => readText opening none (e :: flush pending acc) rest
  | c :: rest =>
    if c.toNat ≤ 0x1F then failAt .controlCharacter (c :: rest)
    else readText opening none (c :: flush pending acc) rest
where
  /-- The characters so far, with a surrogate that found no other half. -/
  flush (pending : Option Nat) (acc : List Char) : List Char :=
    match pending with
    | some n => charOf n :: acc
    | none => acc

/-! ## Numbers -/

/-- The parts of a number: the digits before the point, those after it, and the exponent; the last
two may be missing. -/
structure NumberParts where
  /-- The number is negative. -/
  negative : Bool
  /-- The digits before the point. -/
  whole : List Char
  /-- The digits after the point. -/
  fraction : Option (List Char)
  exponent : Option Int

/-- The digits of an integer: a lone zero, or digits that start with no zero. -/
def takeWhole : List Char → Option (List Char × List Char)
  | '0' :: rest => some (['0'], rest)
  | c :: rest =>
    if Text.isAsciiDigit c then
      some (c :: rest.takeWhile Text.isAsciiDigit, rest.dropWhile Text.isAsciiDigit)
    else none
  | [] => none

/-- A point and the digits after it, if a digit follows the point. -/
def takeFraction : List Char → Option (List Char) × List Char
  | '.' :: rest =>
    let digits := rest.takeWhile Text.isAsciiDigit
    if digits.isEmpty then (none, '.' :: rest) else (some digits, rest.dropWhile Text.isAsciiDigit)
  | cs => (none, cs)

/-- The digits of an exponent after its sign. -/
def takeExponentDigits (negative : Bool) (cs : List Char) : Option (Int × List Char) :=
  let digits := cs.takeWhile Text.isAsciiDigit
  if digits.isEmpty then none
  else
    let n : Int := Text.natOfAsciiDigits digits
    some (if negative then -n else n, cs.dropWhile Text.isAsciiDigit)

/-- An exponent, if digits follow its letter and sign. -/
def takeExponent (cs : List Char) : Option Int × List Char :=
  match cs with
  | c :: rest =>
    if c == 'e' || c == 'E' then
      let found := match rest with
        | '-' :: digits => takeExponentDigits true digits
        | '+' :: digits => takeExponentDigits false digits
        | digits => takeExponentDigits false digits
      match found with
      | some (n, after) => (some n, after)
      | none => (none, cs)
    else (none, cs)
  | [] => (none, [])

/-- The number that the parts denote. -/
def NumberParts.value (parts : NumberParts) : Json :=
  match parts.fraction, parts.exponent with
  | none, none =>
    let n : Int := Text.natOfAsciiDigits parts.whole
    .int (if parts.negative then -n else n)
  | fraction, exponent =>
    let digits := parts.whole ++ fraction.getD []
    .float (.ofDecimal parts.negative (Text.natOfAsciiDigits digits)
      (exponent.getD 0 - (fraction.getD []).length))

/-- A number. -/
def readNumber (cs : List Char) : Step Json :=
  let (negative, unsigned) := match cs with
    | '-' :: rest => (true, rest)
    | _ => (false, cs)
  match takeWhole unsigned with
  | none => failAt .value cs
  | some (whole, rest) =>
    let (fraction, rest) := takeFraction rest
    let (exponent, rest) := takeExponent rest
    if fraction.isNone && exponent.isNone && whole.length > maxDigits then
      failAt (.tooManyDigits whole.length) cs
    else .ok (NumberParts.value ⟨negative, whole, fraction, exponent⟩, rest)

/-! ## Values -/

/-- The text after a word that it starts with. -/
def afterWord? : List Char → List Char → Option (List Char)
  | [], cs => some cs
  | w :: word, c :: cs => if w == c then afterWord? word cs else none
  | _ :: _, [] => none

/-- A word that is a value. -/
def readWord? (cs : List Char) : Option (Json × List Char) :=
  let words : List (String × Json) :=
    [("null", .null), ("true", .bool true), ("false", .bool false), ("NaN", .float (.nan true)),
      ("Infinity", .float (.infinite false)), ("-Infinity", .float (.infinite true))]
  words.findSome? fun (word, value) => (afterWord? word.toList cs).map (value, ·)

mutual

/-- A value; blanks before it are not skipped. At most `room` lists and objects may lie one inside
the other in it. -/
def readValue : (fuel room : Nat) → List Char → Step Json
  | 0, _, cs => failAt .value cs
  | fuel + 1, room, cs =>
    match cs, room with
    | '"' :: rest, _ => (readText cs none [] rest).map fun (s, rest) => (.str s, rest)
    | '[' :: _, 0 | '{' :: _, 0 => failAt .tooNested cs
    | '[' :: rest, room + 1 =>
      match skipBlanks rest with
      | ']' :: rest => .ok (.arr [], rest)
      | rest => (readItems fuel room [] rest).map fun (items, rest) => (.arr items, rest)
    | '{' :: rest, room + 1 =>
      match skipBlanks rest with
      | '}' :: rest => .ok (.obj [], rest)
      | rest =>
        (readFields fuel room [] rest).map fun (fields, rest) =>
          (.obj (Fields.ofList fields), rest)
    | _, _ =>
      match readWord? cs with
      | some found => .ok found
      | none => readNumber cs

/-- The items of a list and its end; `acc` holds those before, in reverse. -/
def readItems : (fuel room : Nat) → List Json → List Char → Step (List Json)
  | 0, _, _, cs => failAt .value cs
  | fuel + 1, room, acc, cs =>
    match readValue fuel room cs with
    | .error e => .error e
    | .ok (item, rest) =>
      match skipBlanks rest with
      | ']' :: rest => .ok ((item :: acc).reverse, rest)
      | ',' :: rest => readItems fuel room (item :: acc) (skipBlanks rest)
      | rest => failAt .comma rest

/-- The fields of an object and its end; `acc` holds those before, in reverse. -/
def readFields : (fuel room : Nat) → List (String × Json) → List Char →
    Step (List (String × Json))
  | 0, _, _, cs => failAt .value cs
  | fuel + 1, room, acc, cs =>
    match cs with
    | '"' :: rest =>
      match readText cs none [] rest with
      | .error e => .error e
      | .ok (key, rest) =>
        match skipBlanks rest with
        | ':' :: rest =>
          match readValue fuel room (skipBlanks rest) with
          | .error e => .error e
          | .ok (value, rest) =>
            match skipBlanks rest with
            | '}' :: rest => .ok (((key, value) :: acc).reverse, rest)
            | ',' :: rest => readFields fuel room ((key, value) :: acc) (skipBlanks rest)
            | rest => failAt .comma rest
        | rest => failAt .colon rest
    | _ => failAt .propertyName cs

end

/-- A whole text as one value. At most two calls are nested before a character is read, so fuel for
two calls a character suffices. -/
def readAll (room : Nat) (cs : List Char) : Except ReadFailure Json :=
  match cs with
  | '\uFEFF' :: _ => failAt .byteOrderMark cs
  | _ =>
    match readValue (2 * cs.length + 1) room (skipBlanks cs) with
    | .error e => .error e
    | .ok (value, rest) =>
      match skipBlanks rest with
      | [] => .ok value
      | rest => failAt .extraData rest

/-- Where a failure arose. -/
structure Place where
  line : Nat
  /-- The column, counted from 1. -/
  column : Nat
  /-- The number of characters before it. -/
  offset : Nat

/-- The place at which a number of characters of a text have been read. -/
def Place.after (cs : List Char) (offset : Nat) : Place :=
  let read := cs.take offset
  ⟨read.count '\n' + 1, (read.reverse.takeWhile (· != '\n')).length + 1, offset⟩

/-- A problem in a text and its place. -/
structure ReadError where
  problem : ReadProblem
  /-- Where it arose. -/
  place : Place

/-- The value that a text denotes, with at most `room` lists and objects one inside the other. -/
def ofText (s : String) (room : Nat := maxNesting) : Except ReadError Json :=
  let cs := s.toList
  match readAll room cs with
  | .ok value => .ok value
  | .error e => .error ⟨e.problem, Place.after cs (cs.length - e.rest.length)⟩

/-- The message for a problem, with its place. -/
def ReadError.message (e : ReadError) : String :=
  s!"{e.problem.message}: line {e.place.line} column {e.place.column} (char {e.place.offset})"

end WorkflowGraph.Json
