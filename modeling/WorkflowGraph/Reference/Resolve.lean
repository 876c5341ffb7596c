import WorkflowGraph.Node.Basic
import WorkflowGraph.Text.Digit

/-!
# Resolving references

Older graphs refer to an output of a node by its place among the outputs, as `$node.0`. Such a
reference is resolved against the nodes of a graph: it is made one by name, and what cannot be
resolved is left as it is, with a warning. A reference to an output that is itself named by digits
is one by name already.
-/

namespace WorkflowGraph.Reference

/-! ## Numbered references -/

/-- A reference to an output by its place. -/
structure Numbered where
  node : String
  /-- The digits of the place. -/
  digits : List Char
  deriving DecidableEq

/-- The numbered reference that a text is: a head that is not empty, and digits of any script after
the dot. A line break may follow. -/
def Numbered.ofText? (s : String) : Option Numbered :=
  match s.toList with
  | '$' :: body =>
    let node := body.takeWhile (· != '.')
    let place := (body.dropWhile (· != '.')).drop 1
    let digits := place.takeWhile Text.isDigit
    let rest := place.dropWhile Text.isDigit
    if node.isEmpty || digits.isEmpty || !(rest.isEmpty || rest == ['\n']) then none
    else some ⟨String.ofList node, digits⟩
  | _ => none

/-- The text of the place. -/
def Numbered.place (r : Numbered) : String :=
  String.ofList r.digits

/-- The greatest number of digits of a place. -/
def maxPlaceDigits : Nat := 4300

/-! ## Resolving -/

/-- The node of an id; of several the last. -/
def nodeOf? (nodes : List Node) (id : String) : Option Node :=
  nodes.reverse.find? (·.id == id)

/-- The text that refers by name to what a numbered reference refers to. -/
def resolveNumbered (nodes : List Node) (s : String) (r : Numbered) : Attempt String :=
  match nodeOf? nodes r.node with
  | none => do
    Attempt.ofLogged (Logged.warn .references
      s!"Reference {Text.quoted s} points to unknown node '{r.node}', leaving it unresolved")
    pure s
  | some node =>
    let names := node.outputNames
    if names.contains r.place then pure s
    else if maxPlaceDigits < r.digits.length then throw (.tooManyDigits r.digits.length)
    else
      match names[Text.natOfDigits r.digits]? with
      | some name => pure (make r.node name)
      | none => do
        Attempt.ofLogged (Logged.warn .references
          (s!"Reference {Text.quoted s} points past the {names.length} output(s) of node " ++
            s!"'{r.node}', leaving it unresolved"))
        pure s

/-- A text with a numbered reference made one by name. -/
def resolveText (nodes : List Node) (s : String) : Attempt String :=
  if isTemplate s then pure s
  else
    match Numbered.ofText? s with
    | some r => resolveNumbered nodes s r
    | none => pure s

/-- A value with a numbered reference made one by name; other values are left as they are. -/
def resolve (nodes : List Node) : Json → Attempt Json
  | .str s => Json.str <$> resolveText nodes s
  | value => pure value

/-- A port with its reference resolved. -/
def resolvePort (nodes : List Node) (port : Port) : Attempt Port :=
  if port.binding = .connection then port.withReference <$> resolve nodes port.value
  else pure port

/-- Ports under names of any type with their references resolved. -/
def resolveEntries {κ : Type} (nodes : List Node) : List (κ × Port) → Attempt (List (κ × Port))
  | [] => pure []
  | (name, port) :: rest => do
    let port ← resolvePort nodes port
    let rest ← resolveEntries nodes rest
    pure ((name, port) :: rest)

/-! ## Unresolved references -/

/-- The value is a reference to one of the nodes. -/
def isForeign (nodes : List Node) (value : Json) : Bool :=
  value.referenceHead?.any fun head => nodes.any (·.id == head)

/-- The ports bound to a reference that names none of the nodes, with their references. -/
def unresolved {κ : Type} (nodes : List Node) (ports : List (κ × Port)) : List (κ × Json) :=
  (ports.filter fun e => e.2.binding = .connection && !isForeign nodes e.2.value).map
    fun e => (e.1, e.2.value)

end WorkflowGraph.Reference
