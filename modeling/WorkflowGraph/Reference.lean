/-!
# References

A text refers to an output of a node as `$node.output`, and to a setting that is filled in at
deployment as `$config.key`. The head of a reference is what stands between `$` and the first dot.
-/

namespace WorkflowGraph.Reference

/-- What a reference to a setting begins with. -/
def templatePrefix : String := "$config."

/-- The characters of `templatePrefix`. -/
def templateChars : List Char := templatePrefix.toList

/-- The text refers to a setting. -/
def isTemplate (s : String) : Bool :=
  templateChars.isPrefixOf s.toList

/-- The head of a text that has the form of a reference. -/
def head? (s : String) : Option String :=
  match s.toList with
  | '$' :: body =>
    if body.contains '.' then some (String.ofList (body.takeWhile (· != '.'))) else none
  | _ => none

/-- What stands after the first dot of a reference. -/
def tail (s : String) : String :=
  String.ofList ((s.toList.dropWhile (· != '.')).drop 1)

/-- The reference to an output of a node. -/
def make (node output : String) : String :=
  "$" ++ node ++ "." ++ output

end WorkflowGraph.Reference
