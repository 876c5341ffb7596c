import WorkflowGraph.Fault
import WorkflowGraph.Spec.Basic

/-!
# Writing specs

A spec is written as an object. A part of a record that is not given is left out; a `null` inside
inputs, outputs, settings or style is kept. Infinite and undefined numbers among them become `null`,
coordinates are written as they are.
-/

namespace WorkflowGraph.Spec

/-- A field that is left out if its value is not given. -/
def fieldOf (name : String) : Option Json → Json.Fields
  | some value => [(name, value)]
  | none => []

/-- A table of values as an object. -/
def valuesJson (table : Table Json) : Json :=
  .obj (Json.storableFields table.entries)

/-- Coordinates as an object. -/
def coordinatesJson (table : Table Float64) : Json :=
  .obj (table.entries.map fun e => (e.1, .float e.2))

/-- The fields of a node. -/
def Node.toFields (n : Node) : Json.Fields :=
  [("id", .str n.id), ("type", .str n.type)] ++ fieldOf "label" (n.label.map .str) ++
    [("inputs", valuesJson n.inputs), ("outputs", valuesJson n.outputs)] ++
    fieldOf "position" (n.position.map coordinatesJson)

/-- A node as an object. -/
def Node.toJson (n : Node) : Json := .obj n.toFields

/-- A branch as an object. -/
def Branch.toJson (b : Branch) : Json :=
  .obj [("if", .obj [("condition", .str b.condition)]), ("node", .str b.node)]

/-- Targets as an object. -/
def Targets.toJson (t : Targets) : Json :=
  .obj (fieldOf "nodes" (t.nodes.map fun ids => .arr (ids.map .str)) ++
    fieldOf "conditional_edges" (t.branches.map fun bs => .arr (bs.map Branch.toJson)) ++
    fieldOf "default" (t.fallback.map .str))

/-- A group as an object. -/
def Group.toJson (g : Group) : Json :=
  .obj [("from", .str g.source), ("to", g.targets.toJson)]

/-- What is kept of an edge as an object. -/
def EdgeDetail.toJson (d : EdgeDetail) : Json :=
  .obj ([("source", .str d.source), ("target", .str d.target), ("kind", .str d.kind)] ++
    fieldOf "label" (d.label.map .str) ++
    fieldOf "config" (d.config.map fun c => .obj (Json.storableFields c)) ++
    [("animated", .bool d.animated), ("style", .obj (Json.storableFields d.style))])

/-- The fields of what is kept besides. -/
def Metadata.toFields (m : Metadata) : Json.Fields :=
  fieldOf "exported_at" (m.exportedAt.map .str) ++
    fieldOf "original_workflow_id" (m.workflowId.map .str) ++
    [("node_positions", .obj (m.positions.entries.map fun e => (e.1, coordinatesJson e.2))),
      ("terminal_nodes", .arr (m.terminals.map Node.toJson)),
      ("edge_details", .arr (m.edgeDetails.map EdgeDetail.toJson))]

/-- The fields of a spec. -/
def toFields (spec : Spec) : Json.Fields :=
  [("version", .str spec.version)] ++ fieldOf "id" (spec.id.map .str) ++
    [("name", .str spec.name)] ++ fieldOf "description" (spec.description.map .str) ++
    [("nodes", .arr (spec.nodes.map Node.toJson)),
      ("edges", .arr (spec.groups.map Group.toJson))] ++
    fieldOf "metadata" (spec.metadata.map fun m => .obj m.toFields)

/-- A spec as an object. -/
def toJson (spec : Spec) : Json := .obj spec.toFields

/-! ## Nesting -/

/-- The node can be written: it counts as a value that holds its inputs and outputs. -/
def Node.isStorable (n : Node) : Bool :=
  (n.inputs.entries ++ n.outputs.entries).all fun e => e.2.isStorableUnder 1

/-- What is kept of an edge can be written. -/
def EdgeDetail.isStorable (d : EdgeDetail) : Bool :=
  d.config.all Json.Fields.areStorable && d.style.areStorable

/-- What is kept besides can be written. -/
def Metadata.isStorable (m : Metadata) : Bool :=
  m.terminals.all Node.isStorable && m.edgeDetails.all EdgeDetail.isStorable

/-- The spec can be written. -/
def isStorable (spec : Spec) : Bool :=
  spec.nodes.all Node.isStorable && spec.metadata.all Metadata.isStorable

/-- The spec is written. -/
def store (spec : Spec) : Except Fault Json :=
  storedIf spec.isStorable spec.toJson

end WorkflowGraph.Spec
