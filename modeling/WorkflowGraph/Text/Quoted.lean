import WorkflowGraph.Text.Digit
import WorkflowGraph.Text.Printable

/-!
# Quoted text

Messages show a text between quotes. The quote is `'`, unless the text holds one and no `"`. The
quote in use, the backslash and characters that cannot be printed are escaped.
-/

namespace WorkflowGraph.Text

/-- The quote that surrounds a text: double exactly if the text holds single quotes only. -/
def quoteFor (cs : List Char) : Char :=
  if cs.contains '\'' && !cs.contains '"' then '"' else '\''

/-- One character of a text between the given quotes. -/
def quotedChar (quote c : Char) : String :=
  if c == quote || c == '\\' then String.ofList ['\\', c]
  else if c == '\t' then "\\t"
  else if c == '\n' then "\\n"
  else if c == '\r' then "\\r"
  else if isPrintable c then String.singleton c
  else if c.toNat ≤ 0xFF then "\\x" ++ hex 2 c.toNat
  else if c.toNat ≤ 0xFFFF then "\\u" ++ hex 4 c.toNat
  else "\\U" ++ hex 8 c.toNat

/-- A text between quotes, as messages show it. -/
def quoted (s : String) : String :=
  let quote := quoteFor s.toList
  String.singleton quote ++ String.join (s.toList.map (quotedChar quote)) ++ String.singleton quote

end WorkflowGraph.Text
