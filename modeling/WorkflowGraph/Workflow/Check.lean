import WorkflowGraph.Report
import WorkflowGraph.Workflow.Basic

/-!
# Problems of workflows

What is wrong with a workflow, in the order of its nodes and edges: ids that are taken, more than
one start or end, edges that lead to no node, and what is wrong with each node and edge by itself.
-/

namespace WorkflowGraph.Workflow

/-- The problems of the nodes that follow those with the ids seen. -/
def nodeProblems (seen : List String) : List Node → List String
  | [] => []
  | n :: rest =>
    (if seen.contains n.id then [Fault.duplicateNodeText n.id] else []) ++ n.problems ++
      nodeProblems (n.id :: seen) rest

/-- The problem of an end of an edge that is no node. -/
def endpointProblems (nodeIds : List String) (e : Edge) (endpoint : String) : List String :=
  if nodeIds.contains endpoint then []
  else [s!"Edge '{e.id}' references unknown node '{endpoint}'"]

/-- The problems of the edges that follow those with the ids seen. -/
def edgeProblems (nodeIds seen : List String) : List Edge → List String
  | [] => []
  | e :: rest =>
    (if seen.contains e.id then [Fault.duplicateEdgeText e.id] else []) ++
      endpointProblems nodeIds e e.source ++ endpointProblems nodeIds e e.target ++ e.problems ++
      edgeProblems nodeIds (e.id :: seen) rest

/-- The problems of several starts or several ends. -/
def terminalProblems (w : Workflow) : List String :=
  (if w.starts.length > 1 then ["Workflow cannot have multiple start nodes"] else []) ++
    (if w.ends.length > 1 then [Fault.singletonText NodeKind.finish.name] else [])

/-- All problems of a workflow. -/
def problems (w : Workflow) : List String :=
  nodeProblems [] w.nodes ++ w.terminalProblems ++ edgeProblems w.nodeIds [] w.edges

/-- A workflow that has no problems, or the fault that it has some. -/
def assertValid (w : Workflow) : Except Fault Unit :=
  if w.problems.isEmpty then .ok () else .error (.invalidWorkflow w.id w.problems)

end WorkflowGraph.Workflow
