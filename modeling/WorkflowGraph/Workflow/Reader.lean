import WorkflowGraph.Edge.Reader
import WorkflowGraph.Node.Reader
import WorkflowGraph.Timestamp.Stored
import WorkflowGraph.Workflow.Basic

/-!
# Reading and storing workflows

A stored workflow is an object from which the workflow is read again. What is missing has a default:
an id is made up and the time is the present.
-/

namespace WorkflowGraph.Workflow

/-- A list of records in a field, empty if the field is missing. -/
def readList {α : Type} (read : Json → Attempt (Checked α)) (fields : Json.Fields) (key : String) :
    Attempt (Checked (List α)) :=
  match Json.Fields.get? fields key with
  | none => pure (.valid [])
  | some (.arr items) => do
    pure (Checked.under (.key key) (← Attempt.checkedList read items))
  | some _ => pure (Checked.under (.key key) (.broken .list))

/-- A workflow read from the fields of an object. -/
def ofFields (s : Surroundings) (fields : Json.Fields) : Attempt (Checked Workflow) := do
  let nodes ← readList Node.read fields "nodes"
  let edges ← readList Edge.read fields "edges"
  pure (Workflow.mk
    <$> Schema.optional fields ["id"] (s.freshId idBeginning) Schema.text
    <*> Schema.optional fields ["name"] unnamed Schema.text
    <*> Schema.optional fields ["description"] "" Schema.text
    <*> nodes
    <*> edges
    <*> Schema.optional fields ["created_at"] s.now Schema.timestamp
    <*> Schema.optional fields ["updated_at"] s.now Schema.timestamp)

/-- A workflow read from a value. -/
def read (s : Surroundings) : Json → Attempt (Checked Workflow)
  | .obj fields => ofFields s fields
  | _ => pure (.broken (.record "Workflow"))

/-- A workflow read from a value, or a fault. -/
def ofJson (s : Surroundings) (value : Json) : Attempt Workflow :=
  Attempt.validated "Workflow" (read s value)

/-- The workflow as it is stored. -/
def toJson (w : Workflow) : Json :=
  .obj [("id", .str w.id), ("name", .str w.name), ("description", .str w.description),
    ("nodes", .arr (w.nodes.map Node.toJson)), ("edges", .arr (w.edges.map Edge.toJson)),
    ("created_at", .str w.createdAt.stored), ("updated_at", .str w.updatedAt.stored)]

/-- The workflow can be stored. -/
def isStorable (w : Workflow) : Bool :=
  w.nodes.all Node.isStorable && w.edges.all Edge.isStorable

/-- The workflow is stored. -/
def store (w : Workflow) : Except Fault Json :=
  storedIf w.isStorable w.toJson

end WorkflowGraph.Workflow
