import WorkflowGraph.Fault
import WorkflowGraph.Workflow.Basic

/-!
# Writing documents

A document holds everything that an editor keeps of a workflow. Settings stand under the keys that
documents use; ports are described by their names, types and values or references.
-/

namespace WorkflowGraph

/-- The description of an input port under its name. -/
def Port.toDescription (name : String) (p : Port) : Json :=
  .obj ([("name", .str name), ("dataType", .str p.dataType.name),
      (if p.binding = .literal then "value" else "reference", p.value)] ++
    if p.binding = .template then [("isTemplate", .bool true)] else [])

/-- A configuration in a document, `null` if there is none. -/
def NodeConfig.documented (c : Option NodeConfig) : Json :=
  (c.map (NodeConfig.saved .document)).getD .null

/-- A configuration in a document, `null` if there is none. -/
def EdgeConfig.documented (c : Option EdgeConfig) : Json :=
  (c.map (EdgeConfig.saved .document)).getD .null

/-- A node as a document holds it. -/
def Node.toDocument (n : Node) : Json :=
  .obj [
    ("id", .str n.id),
    ("type", .str n.kind),
    ("position", .obj [("x", .float n.position.x), ("y", .float n.position.y)]),
    ("data", .obj [
      ("label", .str n.label),
      ("description", .str n.description),
      ("config", NodeConfig.documented n.config),
      ("inputs", .obj (n.inputs.entries.map fun e => (e.1, Port.toDescription e.1 e.2))),
      ("outputs", .obj (n.outputs.entries.map fun e => (e.1, .str e.2.name)))])]

/-- An edge as a document holds it. -/
def Edge.toDocument (e : Edge) : Json :=
  .obj [
    ("id", .str e.id),
    ("source", .str e.source),
    ("target", .str e.target),
    ("type", .str e.kind.name),
    ("data", .obj [
      ("label", .ofText? e.label),
      ("condition", .ofText? e.condition),
      ("config", EdgeConfig.documented e.config)]),
    ("animated", .bool e.animated),
    ("style", .obj e.style)]

/-- A workflow as a document. -/
def Workflow.toDocument (w : Workflow) : Json :=
  .obj [
    ("id", .str w.id),
    ("name", .str w.name),
    ("description", .str w.description),
    ("nodes", .arr (w.nodes.map Node.toDocument)),
    ("edges", .arr (w.edges.map Edge.toDocument)),
    ("createdAt", .str w.createdAt.iso),
    ("updatedAt", .str w.updatedAt.iso)]

/-- The workflow is written as a document. Settings of nodes have to be storable for it; ports and
styles are written as they are. -/
def Workflow.document (w : Workflow) : Except Fault Json :=
  storedIf (w.nodes.all fun n => n.config.all NodeConfig.isStorable) w.toDocument

end WorkflowGraph
