import WorkflowGraph.Fault
import WorkflowGraph.Kind
import WorkflowGraph.Schema

/-!
# Settings

What can be configured, with a default for each setting. Settings are given explicitly or by
environment variables, whose names carry the prefix `FLOWGRAPH_` and are read without regard to
case; what is given explicitly wins.
-/

namespace WorkflowGraph

/-- The settings. -/
structure Settings where
  /-- The version written into specs. -/
  specVersion : String := "1.0"
  /-- The shape of specs for which none is asked. -/
  defaultShape : Shape := .backend
  /-- The condition of conditional edges that have none. -/
  defaultCondition : String := "true"
  /-- What the ids given to edges begin with. -/
  edgeIdPrefix : String := "edge"
  /-- What the ids given to imported workflows begin with. -/
  importedWorkflowPrefix : String := "imported"
  /-- The name of workflows that have none. -/
  defaultWorkflowName : String := "Untitled Workflow"
  /-- The least level of log records that are shown. -/
  logLevel : String := "INFO"
  /-- The indent of written documents. -/
  jsonIndent : Int := 2
  deriving DecidableEq

namespace Settings

instance : Inhabited Settings := ⟨{}⟩

/-- What the names of environment variables begin with, in lower case. -/
def variablePrefix : String := "flowgraph_"

/-- The lower case of a character of a name. Besides the letters of ASCII only U+212A, the sign of
the kelvin, has one of them as its lower case. -/
def lowerCaseOf (c : Char) : Char :=
  if c == '\u212A' then 'k' else c.toLower

/-- The settings given by environment variables. -/
def ofVariables (environment : List (String × String)) : Json.Fields :=
  Json.Fields.ofList (environment.filterMap fun v =>
    let name := v.1.toList.map lowerCaseOf
    if variablePrefix.toList.isPrefixOf name then
      some (String.ofList (name.drop variablePrefix.length), .str v.2)
    else none)

/-- Settings read from the fields of an object. -/
def ofFields (fields : Json.Fields) : Checked Settings :=
  let base : Settings := {}
  Settings.mk
    <$> Schema.optional fields ["spec_version"] base.specVersion Schema.text
    <*> Schema.optional fields ["default_export_shape"] base.defaultShape
      (Schema.choice Shape.ofName? (Shape.all.map Shape.name))
    <*> Schema.optional fields ["default_condition"] base.defaultCondition Schema.text
    <*> Schema.optional fields ["edge_id_prefix"] base.edgeIdPrefix Schema.text
    <*> Schema.optional fields ["imported_workflow_prefix"] base.importedWorkflowPrefix Schema.text
    <*> Schema.optional fields ["default_workflow_name"] base.defaultWorkflowName Schema.text
    <*> Schema.optional fields ["log_level"] base.logLevel Schema.text
    <*> Schema.optional fields ["json_indent"] base.jsonIndent Schema.integer

/-- The settings that explicit ones and environment variables give together. -/
def resolve (explicit : Json.Fields) (environment : List (String × String)) :
    Except Fault Settings :=
  match ofFields (Json.Fields.merge (ofVariables environment) explicit) with
  | .valid settings => .ok settings
  | .invalid violations => .error (.invalid "Settings" violations)

/-- The settings as an object. -/
def toJson (s : Settings) : Json :=
  .obj [
    ("spec_version", .str s.specVersion),
    ("default_export_shape", .str s.defaultShape.name),
    ("default_condition", .str s.defaultCondition),
    ("edge_id_prefix", .str s.edgeIdPrefix),
    ("imported_workflow_prefix", .str s.importedWorkflowPrefix),
    ("default_workflow_name", .str s.defaultWorkflowName),
    ("log_level", .str s.logLevel),
    ("json_indent", .int s.jsonIndent)]

end Settings

end WorkflowGraph
