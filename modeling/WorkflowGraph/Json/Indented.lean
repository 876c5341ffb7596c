import WorkflowGraph.Fault
import WorkflowGraph.Json.Writer
import WorkflowGraph.Schema

/-!
# Indented text

What each level of a text is indented by may be asked for by a value: a number of spaces, a text, or
`null` for a text of one line. A number that the machine cannot count with, or that memory has no
room for, is refused before anything is written. A text has no levels, so for it nothing is refused.
-/

namespace WorkflowGraph.Json

/-- The greatest number of characters for which memory has room. -/
def maxTextLength : Int := Int.pow 2 36

/-- An indent of some spaces; of none if their number is negative. -/
def Indent.ofCount (count : Int) : Except Fault Indent :=
  if !Schema.isMachineSize count then .error .overflow
  else if maxTextLength < count then .error .outOfMemory
  else .ok (.spaces count.toNat)

/-- The indent that a value asks for. -/
def Indent.ofJson : Json → Except Fault (Option Indent)
  | .null => .ok none
  | .str unit => .ok (some (.text unit))
  | .int count => (Indent.ofCount count).map some
  | .bool b => .ok (some (.spaces (if b then 1 else 0)))
  | value => .error (.indentType value)

/-- The JSON text of a value, indented as another value asks. -/
def toIndentedText (value indent : Json) (sortKeys : Bool) : Except Fault String :=
  match value with
  | .str s => .ok (encodedText s)
  | value => do
    let indent ← Indent.ofJson indent
    pure (value.toText ⟨indent, sortKeys⟩)

end WorkflowGraph.Json
