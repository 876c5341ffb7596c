import WorkflowGraph.Fault
import WorkflowGraph.Json.Display

/-!
# Error reports

The errors that callers are told of in full: a family, a code, a message and details. The code of a
report stands before its message in brackets. `Fault.report?` gives the report of each fault that
has one, and `Fault.text` the text by which any fault is shown.
-/

namespace WorkflowGraph

/-- The families of reported errors. -/
inductive Family where
  /-- Any error about workflows. -/
  | workflow
  /-- A spec cannot be read. -/
  | specFormat
  /-- A document cannot be read. -/
  | documentFormat
  /-- There is no such node. -/
  | nodeNotFound
  /-- There is no such edge. -/
  | edgeNotFound
  /-- A node or port cannot be made or added. -/
  | nodeValidation
  /-- An edge cannot be added. -/
  | edgeValidation
  /-- A workflow is not valid. -/
  | workflowValidation
  /-- A text cannot be read or a value cannot be written. -/
  | serialization
  deriving DecidableEq

namespace Family

/-- The name of a family. -/
def name : Family → String
  | workflow => "WorkflowError"
  | specFormat => "SpecFormatError"
  | documentFormat => "DocumentFormatError"
  | nodeNotFound => "NodeNotFoundError"
  | edgeNotFound => "EdgeNotFoundError"
  | nodeValidation => "NodeValidationError"
  | edgeValidation => "EdgeValidationError"
  | workflowValidation => "WorkflowValidationError"
  | serialization => "SerializationError"

/-- All families. -/
def all : List Family :=
  [workflow, specFormat, documentFormat, nodeNotFound, edgeNotFound, nodeValidation,
    edgeValidation, workflowValidation, serialization]

/-- The family of a name. -/
def ofName? (s : String) : Option Family :=
  all.find? (·.name == s)

@[simp] theorem ofName?_name (f : Family) : ofName? f.name = some f := by
  cases f <;> decide

/-- The code that all errors of a family carry. -/
def code : Family → Json
  | workflow => .null
  | specFormat => .str "SPEC_FORMAT_ERROR"
  | documentFormat => .str "DOCUMENT_FORMAT_ERROR"
  | nodeNotFound => .str "NODE_NOT_FOUND"
  | edgeNotFound => .str "EDGE_NOT_FOUND"
  | nodeValidation => .str "NODE_VALIDATION_ERROR"
  | edgeValidation => .str "EDGE_VALIDATION_ERROR"
  | workflowValidation => .str "WORKFLOW_VALIDATION_ERROR"
  | serialization => .str "SERIALIZATION_ERROR"

/-- The names of what an error of a family is made from, in order; the first is required. -/
def parameters : Family → List String
  | workflow => ["message", "error_code", "details"]
  | specFormat | documentFormat | serialization => ["message", "details"]
  | nodeNotFound => ["node_id", "workflow_id", "details"]
  | edgeNotFound => ["edge_id", "workflow_id", "details"]
  | nodeValidation => ["message", "node_id", "details"]
  | edgeValidation => ["message", "edge_id", "details"]
  | workflowValidation => ["message", "validation_errors", "details"]

/-- The parameters that stay with a report, to tell what it is about. -/
def subjects : Family → List String
  | nodeNotFound => ["node_id", "workflow_id"]
  | edgeNotFound => ["edge_id", "workflow_id"]
  | nodeValidation => ["node_id"]
  | edgeValidation => ["edge_id"]
  | _ => []

end Family

/-- An error as callers are told of it. -/
structure Report where
  /-- Its family. -/
  family : Family
  /-- Its code; a code that counts as not given is not shown. -/
  code : Json
  /-- Its message, a text unless the caller gave something else. -/
  message : Json
  /-- Its details, an object unless the caller gave something else. -/
  details : Json
  /-- The ids it is about. -/
  ids : Json.Fields

namespace Report

/-- Code and message. A message that is not a text has no text. -/
def text? (r : Report) : Option String :=
  match r.message with
  | .str message => some (if r.code.isVoid then message else s!"[{r.code.inSentence}] {message}")
  | _ => none

/-- The report as an object. -/
def toJson (r : Report) : Json :=
  .obj [("error_type", .str r.family.name), ("message", r.message), ("error_code", r.code),
    ("details", r.details)]

/-- The message of an error of a family, given its parameters. -/
def messageOf (family : Family) (arguments : Json.Fields) : Json :=
  match family with
  | .nodeNotFound => .str ("Node not found: " ++ (arguments.getD "node_id").inSentence)
  | .edgeNotFound => .str ("Edge not found: " ++ (arguments.getD "edge_id").inSentence)
  | _ => arguments.getD "message"

/-- The details of an error of a family, given its parameters. What is wrong with a workflow is
listed among its details, which then have to be an object. -/
def detailsOf (family : Family) (arguments : Json.Fields) : Except Fault Json :=
  let details := (arguments.getD "details").orElse (.obj [])
  match family, details with
  | .workflowValidation, .obj fields =>
    .ok (.obj (Json.Fields.set fields "validation_errors"
      ((arguments.getD "validation_errors").orElse (.arr []))))
  | .workflowValidation, _ => .error .wrongType
  | _, details => .ok details

/-- The error of a family made from its parameters. -/
def make (family : Family) (arguments : Json.Fields) : Except Fault Report := do
  let details ← detailsOf family arguments
  pure {
    family
    code := if family = .workflow then arguments.getD "error_code" else family.code
    message := messageOf family arguments
    details
    ids := family.subjects.map fun name => (name, arguments.getD name) }

end Report

/-- Parameters by name, given those that stand in order and those given by name. There is no result
if there are too many, an unknown one, one given twice, or if a required one is missing. -/
def bindArguments? (parameters required : List String) (ordered : List Json)
    (named : Json.Fields) : Option Json.Fields :=
  let positional := parameters.zip ordered
  let given := positional ++ named
  if parameters.length < ordered.length then none
  else if !named.all fun f => parameters.contains f.1 && !Json.Fields.has positional f.1 then none
  else if !required.all (Json.Fields.has given) then none
  else some given

namespace Violation

/-- One step of a path. -/
def pathItem : PathItem → Json
  | .key name => .str name
  | .index position => .int position

/-- The path of a violation. -/
def pathJson (v : Violation) : Json :=
  .arr (v.path.map pathItem)

end Violation

namespace Fault

/-- The message of a node, edge or workflow whose id is taken, or whose kind is. -/
def duplicateNodeText (id : String) : String :=
  s!"Node '{id}' already exists in workflow"

/-- The message for an id that two edges have. -/
def duplicateEdgeText (id : String) : String :=
  s!"Edge '{id}' already exists in workflow"

/-- The message for a second node of a kind that may occur once. -/
def singletonText (kind : String) : String :=
  s!"Workflow cannot have more than one '{kind}' node"

/-- A number of violations. -/
def countText (violations : List Violation) : String :=
  s!"{violations.length} validation error(s)"

/-- The family of the fault, its message, its details and the ids it is about. -/
def report? : Fault → Option Report
  | unknownNode id workflow =>
    some ⟨.nodeNotFound, Family.nodeNotFound.code, .str s!"Node not found: {id.inSentence}",
      .obj [], [("node_id", id), ("workflow_id", .str workflow)]⟩
  | unknownEdge id workflow =>
    some ⟨.edgeNotFound, Family.edgeNotFound.code, .str s!"Edge not found: {id.inSentence}",
      .obj [], [("edge_id", id), ("workflow_id", .str workflow)]⟩
  | duplicateNode id =>
    some ⟨.nodeValidation, Family.nodeValidation.code, .str (duplicateNodeText id), .obj [],
      [("node_id", .str id)]⟩
  | secondSingleton kind id =>
    some ⟨.nodeValidation, Family.nodeValidation.code, .str (singletonText kind), .obj [],
      [("node_id", .str id)]⟩
  | duplicateEdge id =>
    some ⟨.edgeValidation, Family.edgeValidation.code, .str (duplicateEdgeText id), .obj [],
      [("edge_id", .str id)]⟩
  | foreignLiteral value =>
    some ⟨.nodeValidation, Family.nodeValidation.code,
      .str "Foreign ports cannot hold literal values", .obj [("value", value)],
      [("node_id", .null)]⟩
  | invalidWorkflow id problems =>
    some ⟨.workflowValidation, Family.workflowValidation.code,
      .str s!"Workflow '{id}' is invalid",
      .obj [("validation_errors", .arr (problems.map .str))], []⟩
  | specNotObject value =>
    some ⟨.specFormat, Family.specFormat.code,
      .str s!"Workflow spec must be a JSON object, got {value.typeName}", .obj [], []⟩
  | specMissing key =>
    some ⟨.specFormat, Family.specFormat.code,
      .str s!"Workflow spec is missing the '{key}' array", .obj [("key", .str key)], []⟩
  | specInvalid violations =>
    some ⟨.specFormat, Family.specFormat.code,
      .str s!"Workflow spec could not be parsed: {countText violations}",
      .obj [("errors", .arr (violations.map fun v =>
        .obj [("loc", v.pathJson), ("msg", .str v.rule.message)]))], []⟩
  | documentNotObject value =>
    some ⟨.documentFormat, Family.documentFormat.code,
      .str s!"Workflow document must be a JSON object, got {value.typeName}", .obj [], []⟩
  | unreadableText error =>
    some ⟨.serialization, Family.serialization.code, .str s!"Invalid JSON: {error.message}",
      .obj [("line", .int error.place.line), ("column", .int error.place.column)], []⟩
  | indentType value =>
    some ⟨.serialization, Family.serialization.code,
      .str ("Failed to serialize to JSON: can't multiply sequence by non-int of type " ++
        s!"'{value.typeName}'"), .obj [], []⟩
  | _ => none

/-- The text by which a fault is shown; empty for those that carry none. -/
def text (fault : Fault) : String :=
  match fault.report?, fault with
  | some report, _ => report.text?.getD ""
  | none, invalid record violations => s!"{countText violations} for {record}"
  | none, notAMember value set => s!"{value.display} is not a valid {set}"
  | none, tooManyDigits count => (Json.ReadProblem.tooManyDigits count).message
  | none, unknownLevel name => s!"Unknown level: {Text.quoted name}"
  | none, tooDeep => "Maximum serialization depth exceeded"
  | none, nullInName => "embedded null byte"
  | none, missingKey key => key.display
  | none, file message => message
  | none, _ => ""

end Fault

end WorkflowGraph
