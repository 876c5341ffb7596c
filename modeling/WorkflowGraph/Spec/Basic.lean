import WorkflowGraph.Json.Basic
import WorkflowGraph.Kind
import WorkflowGraph.Table

/-!
# Specs

A spec is what an execution engine is given in place of a graph. Settings and ports of a node share
one map of inputs, and edges are grouped by the node they come from. The start of a run and its end
are named by sentinels, so that the nodes for them may be left out.
-/

namespace WorkflowGraph

namespace Spec

/-- Where runs begin. -/
def startSentinel : String := "__start__"

/-- Where runs end. -/
def endSentinel : String := "__end__"

/-- A node of a spec. -/
structure Node where
  id : String
  type : String
  label : Option String
  /-- Ports and settings. -/
  inputs : Table Json
  /-- The types of the outputs. -/
  outputs : Table Json
  /-- The place on the canvas, as coordinates by name. -/
  position : Option (Table Float64)
  deriving DecidableEq

/-- A target that is taken if a condition holds. -/
structure Branch where
  /-- The condition. -/
  condition : String
  node : String
  deriving DecidableEq

/-- Where the edges of a group lead. -/
structure Targets where
  /-- Targets that are always taken. -/
  nodes : Option (List String) := none
  /-- Targets with conditions. -/
  branches : Option (List Branch) := none
  /-- The target if no condition holds. -/
  fallback : Option String := none
  deriving DecidableEq

/-- There is no target. -/
def Targets.isEmpty (t : Targets) : Bool :=
  t.nodes.all (·.isEmpty) && t.branches.all (·.isEmpty) && t.fallback.all (· == "")

/-- The edges that come from one node. -/
structure Group where
  /-- The id of the node, or the sentinel of the start. -/
  source : String
  /-- Where they lead. -/
  targets : Targets
  deriving DecidableEq

/-- What a spec by itself does not tell about an edge. -/
structure EdgeDetail where
  /-- The source, as in the groups. -/
  source : String
  /-- The target, as in the groups. -/
  target : String
  kind : String
  label : Option String
  config : Option Json.Fields
  animated : Bool
  style : Json.Fields
  deriving DecidableEq

/-- What a spec by itself does not tell about a graph. -/
structure Metadata where
  /-- When the spec was written. -/
  exportedAt : Option String
  workflowId : Option String
  /-- The places of the nodes on the canvas. -/
  positions : Table (Table Float64)
  /-- The start and end nodes. -/
  terminals : List Node
  edgeDetails : List EdgeDetail
  deriving DecidableEq

end Spec

/-- A workflow as an execution engine is given it. -/
structure Spec where
  /-- The version of the format. -/
  version : String
  id : Option String
  name : String
  /-- What the workflow does. -/
  description : Option String
  nodes : List Spec.Node
  /-- The edges, grouped by source. -/
  groups : List Spec.Group
  /-- What is kept besides to restore the graph. -/
  metadata : Option Spec.Metadata
  deriving DecidableEq

/-- The node of an id. -/
def Spec.findNode? (spec : Spec) (id : String) : Option Spec.Node :=
  spec.nodes.find? (·.id == id)

end WorkflowGraph
