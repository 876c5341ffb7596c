import WorkflowGraph.Edge.Reader
import WorkflowGraph.Node.Reader
import WorkflowGraph.Reference.Resolve
import WorkflowGraph.Workflow.Basic

/-!
# Changes of workflows

A workflow is changed by replacing it. Each change but one sets the time of the last change; it may
be refused, and then there is no new workflow. Resolving the references of a workflow is no change
in this sense and leaves its time alone.
-/

namespace WorkflowGraph

namespace Workflow

/-! ## Nodes -/

/-- The workflow with a node added. -/
def addNode (now : Timestamp) (w : Workflow) (n : Node) : Except Fault Workflow :=
  if (w.findNode? n.id).isSome then .error (.duplicateNode n.id)
  else if !w.canAdd n.kind then .error (.secondSingleton n.kind n.id)
  else .ok { w with nodes := w.nodes ++ [n], updatedAt := now }

/-- The workflow without a node and the edges at it. -/
def removeNode (now : Timestamp) (w : Workflow) (id : String) : Workflow :=
  { w with
    nodes := w.nodes.filter (·.id != id)
    edges := w.edges.filter fun e => e.source != id && e.target != id
    updatedAt := now }

/-- The workflow with fields of a node changed. -/
def updateNode (now : Timestamp) (w : Workflow) (id : String) (changes : Json.Fields) :
    Attempt Workflow :=
  if (w.findNode? id).isNone then throw (.unknownNode (.str id) w.id)
  else do
    let nodes ← Attempt.mapList (fun n => if n.id = id then n.update changes else pure n) w.nodes
    pure { w with nodes, updatedAt := now }

/-- A node where one node is renamed: its own id and its references. -/
def renamedNode (old new : String) (n : Node) : Node :=
  let n := if n.id = old then { n with id := new } else n
  n.redirectReferences old new

/-- An edge where one node is renamed. -/
def renamedEdge (old new : String) (e : Edge) : Edge :=
  e.withEndpoints (if e.source = old then new else e.source)
    (if e.target = old then new else e.target)

/-- The workflow with a node renamed, in edges and references too. -/
def renameNode (now : Timestamp) (w : Workflow) (old new : String) : Except Fault Workflow :=
  if (w.findNode? old).isNone then .error (.unknownNode (.str old) w.id)
  else if old = new then .ok w
  else if (w.findNode? new).isSome then .error (.duplicateNode new)
  else
    .ok { w with
      nodes := w.nodes.map (renamedNode old new)
      edges := w.edges.map (renamedEdge old new)
      updatedAt := now }

/-! ## Edges -/

/-- The workflow with an edge added. Its ends need not be nodes. -/
def addEdge (now : Timestamp) (w : Workflow) (e : Edge) : Except Fault Workflow :=
  if (w.findEdge? e.id).isSome then .error (.duplicateEdge e.id)
  else .ok { w with edges := w.edges ++ [e], updatedAt := now }

/-- The workflow without an edge. -/
def removeEdge (now : Timestamp) (w : Workflow) (id : String) : Workflow :=
  { w with edges := w.edges.filter (·.id != id), updatedAt := now }

/-- The workflow with fields of an edge changed. -/
def updateEdge (now : Timestamp) (w : Workflow) (id : String) (changes : Json.Fields) :
    Attempt Workflow :=
  if (w.findEdge? id).isNone then throw (.unknownEdge (.str id) w.id)
  else do
    let edges ← Attempt.mapList (fun e => if e.id = id then e.update changes else pure e) w.edges
    pure { w with edges, updatedAt := now }

/-! ## References -/

/-- A node with its references resolved against some nodes. -/
def resolvedNode (nodes : List Node) (n : Node) : Attempt Node := do
  let entries ← Reference.resolveEntries nodes n.inputs.entries
  pure { n with inputs := Table.ofList entries }

/-- The workflow with all its references resolved. -/
def resolveReferences (w : Workflow) : Attempt Workflow := do
  let nodes ← Attempt.mapList (resolvedNode w.nodes) w.nodes
  pure { w with nodes }

/-- The references that name no node, with the nodes and the ports that hold them. -/
def unresolved (w : Workflow) : List (String × String × Json) :=
  w.nodes.flatMap fun n =>
    (Reference.unresolved w.nodes n.inputs.entries).map fun e => (n.id, e.1, e.2)

end Workflow

/-! ## Changes as values -/

/-- One change of a workflow. -/
inductive Edit where
  | addNode (node : Node)
  /-- A node is removed, with the edges at it. -/
  | removeNode (id : String)
  /-- Fields of a node are changed. -/
  | updateNode (id : String) (changes : Json.Fields)
  | renameNode (old new : String)
  | addEdge (edge : Edge)
  | removeEdge (id : String)
  /-- Fields of an edge are changed. -/
  | updateEdge (id : String) (changes : Json.Fields)

/-- The workflow after a change at a time. -/
def Edit.apply (now : Timestamp) (w : Workflow) : Edit → Attempt Workflow
  | addNode n => .ofExcept (w.addNode now n)
  | removeNode id => pure (w.removeNode now id)
  | updateNode id changes => w.updateNode now id changes
  | renameNode old new => .ofExcept (w.renameNode now old new)
  | addEdge e => .ofExcept (w.addEdge now e)
  | removeEdge id => pure (w.removeEdge now id)
  | updateEdge id changes => w.updateEdge now id changes

end WorkflowGraph
