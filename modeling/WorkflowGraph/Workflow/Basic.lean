import WorkflowGraph.Edge.Basic
import WorkflowGraph.Node.Basic
import WorkflowGraph.Timestamp.Basic

/-!
# Workflows

A workflow is a graph of nodes and edges with a name and two timestamps. Nothing is required of its
ids: two nodes may share one and edges may lead nowhere, and it is for `Workflow.problems` to tell.
Where an id is looked up, the first node or edge that has it is meant.
-/

namespace WorkflowGraph

/-- What the surroundings give to a computation. -/
structure Surroundings where
  /-- The present time. -/
  now : Timestamp
  /-- The end of ids that are made up. -/
  idSuffix : String

/-- An id that is made up. -/
def Surroundings.freshId (s : Surroundings) (beginning : String) : String :=
  s!"{beginning}-{s.idSuffix}"

/-- A graph of nodes and edges. -/
structure Workflow where
  id : String
  name : String
  /-- What the workflow does. -/
  description : String
  /-- The nodes, in the order in which they were added. -/
  nodes : List Node
  /-- The edges, in the order in which they were added. -/
  edges : List Edge
  /-- When the workflow was made. -/
  createdAt : Timestamp
  /-- When it was last changed. -/
  updatedAt : Timestamp
  deriving DecidableEq

namespace Workflow

/-- What the ids of workflows that are made up begin with. -/
def idBeginning : String := "workflow"

/-- The name of a workflow for which none is given. -/
def unnamed : String := "Untitled Workflow"

/-- The node of an id. -/
def findNode? (w : Workflow) (id : String) : Option Node :=
  w.nodes.find? (·.id == id)

/-- The edge of an id. -/
def findEdge? (w : Workflow) (id : String) : Option Edge :=
  w.edges.find? (·.id == id)

/-- The nodes at which runs begin. -/
def starts (w : Workflow) : List Node :=
  w.nodes.filter (·.isStart)

/-- The nodes at which runs end. -/
def ends (w : Workflow) : List Node :=
  w.nodes.filter (·.isEnd)

/-- The first node at which runs begin. -/
def start? (w : Workflow) : Option Node :=
  w.starts.head?

/-- The first node at which runs end. -/
def finish? (w : Workflow) : Option Node :=
  w.ends.head?

/-- The ids of the nodes. -/
def nodeIds (w : Workflow) : List String :=
  w.nodes.map (·.id)

/-- The ids of the edges. -/
def edgeIds (w : Workflow) : List String :=
  w.edges.map (·.id)

/-- The edges that come from a node. -/
def edgesFrom (w : Workflow) (id : String) : List Edge :=
  w.edges.filter (·.source == id)

/-- The edges that go to a node. -/
def edgesTo (w : Workflow) (id : String) : List Edge :=
  w.edges.filter (·.target == id)

/-- The kinds of which a workflow holds one node at most. -/
def singletonKinds : List String := [NodeKind.start.name, NodeKind.finish.name]

/-- A node of the kind may be added. -/
def canAdd (w : Workflow) (kind : String) : Bool :=
  !(singletonKinds.contains kind && w.nodes.any (·.kind == kind))

/-- The references that a node may use, with the types of what they refer to: all outputs in effect
but its own. -/
def candidates (w : Workflow) (except : Option String) : List (String × DataType) :=
  (w.nodes.filter fun n => some n.id != except).flatMap fun n =>
    n.allOutputs.entries.map fun e => (Reference.make n.id e.1, e.2)

end Workflow

end WorkflowGraph
