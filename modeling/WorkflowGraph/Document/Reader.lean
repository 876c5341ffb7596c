import WorkflowGraph.Edge.Reader
import WorkflowGraph.Node.Reader
import WorkflowGraph.Spec.ToWorkflow
import WorkflowGraph.Timestamp.Iso

/-!
# Reading documents

A document is a spec if it has a version and the two lists of a spec, and a graph otherwise. Graphs
are read leniently: entries without the fields that identify them are skipped, empty fields are as
good as none, and a timestamp that cannot be read is the present. Both are recorded as warnings.
-/

namespace WorkflowGraph

/-! ## The form of a document -/

/-- The form of a document. -/
def DocumentForm.detect : Json → DocumentForm
  | .obj fields =>
    if Json.Fields.has fields "version" &&
        Spec.requiredLists.all (fun key => (Json.Fields.getD fields key).items?.isSome) then .spec
    else .graph
  | _ => .graph

namespace Document

/-! ## Parts -/

/-- The items that are read from a field: those of a list, but also the characters of a text and the
keys of an object. -/
def itemsOf (value : Json) : Attempt (List Json) :=
  if value.isVoid then pure []
  else
    match value with
    | .arr items => pure items
    | .str s => pure (s.toList.map fun c => .str (String.singleton c))
    | .obj fields => pure (fields.map fun f => .str f.1)
    | _ => throw .wrongType

/-- The fields of the data of a node or an edge. -/
def dataOf (fields : Json.Fields) : Attempt Json.Fields :=
  match (fields.getD "data").orElse (.obj []) with
  | .obj data => pure data
  | _ => throw .noFields

/-- The fields of an entry in which the given ones are not empty. -/
def identified? (keys : List String) : Json → Option Json.Fields
  | .obj fields =>
    if keys.all fun key => !(Json.Fields.getD fields key).isVoid then some fields else none
  | _ => none

/-- The kind that a node entry names; it has to be a scalar. -/
def kindOf (type : Json) : Attempt Json :=
  match type with
  | .str name => pure (.str (NodeKind.currentName name))
  | type => if type.isScalar then pure type else throw .wrongType

/-- The kind that an edge entry names; plain if it names none that is known. -/
def edgeKindOf (type : Json) : Attempt EdgeKind :=
  match type.orElse (.str EdgeKind.plain.name) with
  | .str name =>
    match EdgeKind.ofName? name with
    | some kind => pure kind
    | none => unsupported (.str name)
  | type => if type.isScalar then unsupported type else throw .wrongType
where
  /-- An edge of a kind that is not known is plain. -/
  unsupported (type : Json) : Attempt EdgeKind := do
    Attempt.ofLogged (Logged.warn .documents
      s!"Edge kind '{type.inSentence}' is not supported, importing it as default")
    pure .plain

/-! ## Nodes and edges -/

/-- The node of an entry; none if the entry is skipped. -/
def node? (entry : Json) : Attempt (Option Node) :=
  match identified? ["id", "type"] entry with
  | none => do
    Attempt.ofLogged (Logged.warn .documents
      s!"Skipping node entry without id or type: {entry.display}")
    pure none
  | some fields => do
    let kind ← kindOf (fields.getD "type")
    let data ← dataOf fields
    some <$> Node.ofJson (.obj [
      ("id", fields.getD "id"),
      ("kind", kind),
      ("position", fields.getD "position"),
      ("label", (data.getD "label").orElse (.str "")),
      ("description", (data.getD "description").orElse (.str "")),
      ("config", data.getD "config"),
      ("inputs", data.getD "inputs"),
      ("outputs", data.getD "outputs")])

/-- The edge of an entry, the `index`-th of all; none if the entry is skipped. -/
def edge? (settings : Settings) (index : Nat) (entry : Json) : Attempt (Option Edge) :=
  match identified? ["source", "target"] entry with
  | none => do
    Attempt.ofLogged (Logged.warn .documents
      s!"Skipping edge entry without source or target: {entry.display}")
    pure none
  | some fields => do
    let kind ← edgeKindOf (fields.getD "type")
    let data ← dataOf fields
    some <$> Edge.ofJson (.obj [
      ("id", (fields.getD "id").orElse (.str s!"{settings.edgeIdPrefix}-{index}")),
      ("source", fields.getD "source"),
      ("target", fields.getD "target"),
      ("kind", .str kind.name),
      ("data", .obj [
        ("label", data.getD "label"),
        ("condition", data.getD "condition"),
        ("config", data.getD "config")]),
      ("animated", .bool !(fields.getD "animated").isVoid),
      ("style", (fields.getD "style").orElse (.obj []))])

/-- The edges of some entries, counted from an index. -/
def edges (settings : Settings) : (index : Nat) → List Json → Attempt (List Edge)
  | _, [] => pure []
  | index, entry :: rest => do
    let edge ← edge? settings index entry
    let more ← edges settings (index + 1) rest
    pure (edge.toList ++ more)

/-! ## Workflows -/

/-- The timestamp in a field; the present if there is none that can be read. -/
def timestampOf (now : Timestamp) (key : String) : Json → Logged Timestamp
  | .str s =>
    match Timestamp.ofIso? s with
    | some t => pure t
    | none => do
      Logged.warn .documents s!"Ignoring unparseable {key} {Text.quoted s}"
      pure now
  | _ => pure now

/-- The workflow that the fields of a document denote. -/
def ofFields (s : Surroundings) (settings : Settings) (fields : Json.Fields) :
    Attempt Workflow := do
  let nodes ← Attempt.mapList node? (← itemsOf (fields.getD "nodes"))
  let edges ← edges settings 1 (← itemsOf (fields.getD "edges"))
  let createdAt ← Attempt.ofLogged (timestampOf s.now "createdAt" (fields.getD "createdAt"))
  let updatedAt ← Attempt.ofLogged (timestampOf s.now "updatedAt" (fields.getD "updatedAt"))
  let text (key : String) (otherwise : String) : Checked String :=
    Checked.under (.key key) (Schema.text ((fields.getD key).orElse (.str otherwise)))
  Attempt.ofChecked "Workflow" (
    (fun id name description =>
      Workflow.mk id name description (nodes.filterMap fun n => n) edges createdAt updatedAt)
    <$> text "id" (s.freshId settings.importedWorkflowPrefix)
    <*> text "name" settings.defaultWorkflowName
    <*> text "description" "")

end Document

namespace Workflow

/-- The workflow of a document that is a graph. Settings that cannot be had are a fault only if the
document is an object. -/
def ofGraphDocument (s : Surroundings) (settings : Except Fault Settings) (document : Json) :
    Attempt Workflow :=
  match document with
  | .obj fields => do Document.ofFields s (← Attempt.ofExcept settings) fields
  | _ => throw (.documentNotObject document)

/-- The workflow of a document of either form. -/
def ofDocument (s : Surroundings) (settings : Except Fault Settings) (document : Json) :
    Attempt Workflow := do
  let form := DocumentForm.detect document
  Attempt.ofLogged (Logged.debug .documents s!"Loading workflow document as {form.name}")
  match form with
  | .spec => ofSpecDocument s settings document
  | .graph => ofGraphDocument s settings document

end Workflow

end WorkflowGraph
