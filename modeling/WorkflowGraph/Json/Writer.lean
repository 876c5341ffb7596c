import WorkflowGraph.Json.Basic
import WorkflowGraph.Float64.Text
import WorkflowGraph.Text.Digit

/-!
# Writing JSON text

Text is written in ASCII: other characters are escaped, those beyond the basic plane as a pair of
surrogates. Without an indent everything stands on one line; with one, each item and field has a
line of its own, indented by its depth. Infinite and undefined numbers are written as `Infinity`,
`-Infinity` and `NaN`.
-/

namespace WorkflowGraph.Json

/-- One escape of four hexadecimal digits. -/
def unitEscape (n : Nat) : String :=
  "\\u" ++ Text.hex 4 n

/-- A character inside a quoted text. -/
def encodedChar (c : Char) : String :=
  let n := c.toNat
  if c == '"' then "\\\""
  else if c == '\\' then "\\\\"
  else if c == '\n' then "\\n"
  else if c == '\r' then "\\r"
  else if c == '\t' then "\\t"
  else if n == 0x8 then "\\b"
  else if n == 0xC then "\\f"
  else if 0x20 ≤ n && n ≤ 0x7E then String.singleton c
  else if n ≤ 0xFFFF then unitEscape n
  else unitEscape (0xD800 + (n - 0x10000) / 0x400) ++ unitEscape (0xDC00 + (n - 0x10000) % 0x400)

/-- A text as a JSON string. -/
def encodedText (s : String) : String :=
  "\"" ++ String.join (s.toList.map encodedChar) ++ "\""

/-- What each level of a text is indented by. -/
inductive Indent where
  /-- A number of spaces. -/
  | spaces (count : Nat)
  | text (unit : String)

/-- The indent of a level. -/
def Indent.ofLevel (level : Nat) : Indent → String
  | spaces count => String.ofList (List.replicate (level * count) ' ')
  | text unit => String.join (List.replicate level unit)

/-- How a text is laid out. -/
structure Layout where
  /-- What each level is indented by; `none` for one line. -/
  indent : Option Indent
  /-- The fields of objects are sorted by key. -/
  sortKeys : Bool

/-- A line break and the indent of a level; nothing on one line. -/
def Layout.lineBreak (layout : Layout) (depth : Nat) : String :=
  match layout.indent with
  | none => ""
  | some indent => "\n" ++ indent.ofLevel depth

/-- The parts of a list or an object between its brackets. -/
def Layout.enclose (layout : Layout) (opening closing : String) (depth : Nat)
    (parts : List String) : String :=
  if parts.isEmpty then opening ++ closing
  else
    let separator := if layout.indent.isSome then "," ++ layout.lineBreak (depth + 1) else ", "
    opening ++ layout.lineBreak (depth + 1) ++ separator.intercalate parts ++
      layout.lineBreak depth ++ closing

/-- Encoded fields in the order of the layout. -/
def Layout.arrange (layout : Layout) (fields : List (String × String)) : List (String × String) :=
  if layout.sortKeys then fields.mergeSort fun a b => a.1 ≤ b.1 else fields

mutual

/-- The text of a value at a depth. -/
def write (layout : Layout) (depth : Nat) : Json → String
  | .null => "null"
  | .bool true => "true"
  | .bool false => "false"
  | .int n => toString n
  | .float x => x.textWith "Infinity" "NaN"
  | .str s => encodedText s
  | .arr items => layout.enclose "[" "]" depth (writeItems layout (depth + 1) items)
  | .obj fields =>
    layout.enclose "\x7b" "\x7d" depth
      ((layout.arrange (writeFields layout (depth + 1) fields)).map fun f =>
        encodedText f.1 ++ ": " ++ f.2)

/-- The texts of the items of a list. -/
def writeItems (layout : Layout) (depth : Nat) : List Json → List String
  | [] => []
  | x :: items => write layout depth x :: writeItems layout depth items

/-- The keys of the fields of an object, with the texts of their values. -/
def writeFields (layout : Layout) (depth : Nat) : List (String × Json) → List (String × String)
  | [] => []
  | (k, x) :: fields => (k, write layout depth x) :: writeFields layout depth fields

end

/-- The JSON text of a value. -/
def toText (value : Json) (layout : Layout) : String :=
  write layout 0 value

/-- Everything on one line. -/
def Layout.oneLine : Layout := ⟨none, false⟩

end WorkflowGraph.Json
