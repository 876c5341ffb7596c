import WorkflowGraph.Schema.Number

/-!
# Reading records

How the fields of a record are read from JSON: which values each type of field takes and what is
converted on the way. Integers, numbers and truth values may be written as texts. A field may have
two keys; the first that occurs is used. Keys that no field has are ignored.
-/

namespace WorkflowGraph.Schema

variable {α : Type}

/-! ## Types of fields -/

/-- A text. -/
def text : Json → Checked String
  | .str s => .valid s
  | _ => .broken .text

/-- An integer of machine size. -/
def isMachineSize (n : Int) : Bool :=
  -Int.pow 2 63 ≤ n && n < Int.pow 2 63

/-- The integer that a double equals, strictly between the least and the greatest machine
integers. -/
def integerOfFloat (x : Float64) : Checked Int :=
  if !x.isFinite then .broken .finiteNumber
  else
    match x.toInt? with
    | none => .broken .integerFraction
    | some n => if -Int.pow 2 63 < n && n < Int.pow 2 63 then .valid n else .broken .integerSize

/-- An integer. -/
def integer : Json → Checked Int
  | .int n => .valid n
  | .bool b => .valid (if b then 1 else 0)
  | .float x => integerOfFloat x
  | .str s => integerOfText s
  | _ => .broken .integer

/-- A number. -/
def number : Json → Checked Float64
  | .float x => .valid x
  | .bool b => .valid (.ofInt (if b then 1 else 0))
  | .int n =>
    let x := Float64.ofInt n
    if x.isFinite then .valid x else .broken .number
  | .str s => numberOfText s
  | _ => .broken .number

/-- The truth value that an integer stands for. -/
def booleanOfInt (n : Int) : Checked Bool :=
  if n = 1 then .valid true else if n = 0 then .valid false else .broken .booleanText

/-- The words for true. -/
def trueWords : List String := ["true", "t", "yes", "y", "on", "1"]

/-- The words for false. -/
def falseWords : List String := ["false", "f", "no", "n", "off", "0"]

/-- A truth value. -/
def boolean : Json → Checked Bool
  | .bool b => .valid b
  | .str s =>
    let word := String.ofList (s.toList.map Char.toLower)
    if trueWords.contains word then .valid true
    else if falseWords.contains word then .valid false
    else .broken .booleanText
  | .int n => if isMachineSize n then booleanOfInt n else .broken .boolean
  | .float x =>
    match integerOfFloat x with
    | .valid n => booleanOfInt n
    | .invalid _ => .broken .boolean
  | _ => .broken .boolean

/-- An object with fields of any kind. -/
def object : Json → Checked Json.Fields
  | .obj fields => .valid fields
  | _ => .broken .object

/-- A list whose items are checked. -/
def list (item : Json → Checked α) : Json → Checked (List α)
  | .arr items => Checked.list item items
  | _ => .broken .list

/-- The values of an object, each checked under its key. -/
def dictionary (item : Json → Checked α) : Json → Checked (List (String × α))
  | .obj fields => go fields
  | _ => .broken .object
where
  /-- The check of the fields that remain. -/
  go : List (String × Json) → Checked (List (String × α))
    | [] => .valid []
    | (key, value) :: rest =>
      Checked.both
        (Checked.map (fun a as => (key, a) :: as) (Checked.under (.key key) (item value)))
        (go rest)

/-- A value that may be `null`. -/
def nullable (check : Json → Checked α) : Json → Checked (Option α)
  | .null => .valid none
  | value => Checked.map some (check value)

/-- One of a number of names. -/
def choice (ofName? : String → Option α) (names : List String) : Json → Checked α
  | .str s =>
    match ofName? s with
    | some a => .valid a
    | none => .broken (.choice names)
  | _ => .broken (.choice names)

/-! ## Fields of records -/

/-- The first of the keys that occurs, with its value. -/
def lookup? (fields : Json.Fields) : List String → Option (String × Json)
  | [] => none
  | key :: keys =>
    match fields.get? key with
    | some value => some (key, value)
    | none => lookup? fields keys

/-- A field that must occur. -/
def required (fields : Json.Fields) (keys : List String) (check : Json → Checked α) : Checked α :=
  match lookup? fields keys with
  | some (key, value) => Checked.under (.key key) (check value)
  | none => Checked.under (.key (keys.headD "")) (.broken .missing)

/-- A field that has a default. -/
def optional (fields : Json.Fields) (keys : List String) (default : α)
    (check : Json → Checked α) : Checked α :=
  match lookup? fields keys with
  | some (key, value) => Checked.under (.key key) (check value)
  | none => .valid default

/-- A record, read from the fields of an object. -/
def record (name : String) (read : Json.Fields → Checked α) : Json → Checked α
  | .obj fields => read fields
  | _ => .broken (.record name)

end WorkflowGraph.Schema
