import WorkflowGraph.Json.Basic
import WorkflowGraph.Float64.Text
import WorkflowGraph.Text.Quoted

/-!
# Values in messages

How messages show a value: texts between quotes, lists in brackets, objects in braces, the constants
as `None`, `True` and `False`.
-/

namespace WorkflowGraph.Json

/-- Texts one after another, with a comma and a space between them. -/
def commaSeparated (parts : List String) : String :=
  ", ".intercalate parts

mutual

/-- A value as messages show it. -/
def display : Json → String
  | .null => "None"
  | .bool true => "True"
  | .bool false => "False"
  | .int n => toString n
  | .float x => x.textWith "inf" "nan"
  | .str s => Text.quoted s
  | .arr items => "[" ++ commaSeparated (displayItems items) ++ "]"
  | .obj fields => "\x7b" ++ commaSeparated (displayFields fields) ++ "\x7d"

/-- The items of a list as messages show them. -/
def displayItems : List Json → List String
  | [] => []
  | x :: items => display x :: displayItems items

/-- The fields of an object as messages show them. -/
def displayFields : List (String × Json) → List String
  | [] => []
  | (k, x) :: fields => (Text.quoted k ++ ": " ++ display x) :: displayFields fields

end

/-- A value set into a sentence: as shown, but a text stands without quotes. -/
def inSentence : Json → String
  | .str s => s
  | value => value.display

end WorkflowGraph.Json
