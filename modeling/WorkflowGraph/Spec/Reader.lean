import WorkflowGraph.Fault
import WorkflowGraph.Schema
import WorkflowGraph.Spec.Basic

/-!
# Reading specs

A spec is read from an object. `Spec.ofDocument` is the reader for documents from outside: it first
asks for the two lists that every spec has, and reports all else that is wrong at once.
-/

namespace WorkflowGraph

/-- An object as a table, each value of which is checked. -/
def Schema.table {α : Type} (item : Json → Checked α) (value : Json) : Checked (Table α) :=
  Checked.map Table.ofList (Schema.dictionary item value)

namespace Spec

/-- A node read from the fields of an object. -/
def Node.ofFields (fields : Json.Fields) : Checked Node :=
  Node.mk
    <$> Schema.required fields ["id"] Schema.text
    <*> Schema.required fields ["type"] Schema.text
    <*> Schema.optional fields ["label"] none (Schema.nullable Schema.text)
    <*> Schema.optional fields ["inputs"] .empty (Schema.table Checked.valid)
    <*> Schema.optional fields ["outputs"] .empty (Schema.table Checked.valid)
    <*> Schema.optional fields ["position"] none (Schema.nullable (Schema.table Schema.number))

/-- A node read from a value. -/
def Node.ofJson : Json → Checked Node :=
  Schema.record "SpecNode" Node.ofFields

/-- A condition read from the fields of an object. -/
def conditionOfFields (fields : Json.Fields) : Checked String :=
  Schema.required fields ["condition"] Schema.text

/-- A branch read from the fields of an object. -/
def Branch.ofFields (fields : Json.Fields) : Checked Branch :=
  Branch.mk
    <$> Schema.required fields ["if", "if_"] (Schema.record "ConditionClause" conditionOfFields)
    <*> Schema.required fields ["node"] Schema.text

/-- Targets read from the fields of an object. -/
def Targets.ofFields (fields : Json.Fields) : Checked Targets :=
  Targets.mk
    <$> Schema.optional fields ["nodes"] none (Schema.nullable (Schema.list Schema.text))
    <*> Schema.optional fields ["conditional_edges"] none
      (Schema.nullable (Schema.list (Schema.record "ConditionalTarget" Branch.ofFields)))
    <*> Schema.optional fields ["default"] none (Schema.nullable Schema.text)

/-- A group read from the fields of an object. -/
def Group.ofFields (fields : Json.Fields) : Checked Group :=
  Group.mk
    <$> Schema.required fields ["from", "from_"] Schema.text
    <*> Schema.optional fields ["to"] {} (Schema.record "SpecEdgeTargets" Targets.ofFields)

/-- What is kept of an edge, read from the fields of an object. -/
def EdgeDetail.ofFields (fields : Json.Fields) : Checked EdgeDetail :=
  EdgeDetail.mk
    <$> Schema.required fields ["source"] Schema.text
    <*> Schema.required fields ["target"] Schema.text
    <*> Schema.required fields ["kind"] Schema.text
    <*> Schema.optional fields ["label"] none (Schema.nullable Schema.text)
    <*> Schema.optional fields ["config"] none (Schema.nullable Schema.object)
    <*> Schema.optional fields ["animated"] false Schema.boolean
    <*> Schema.optional fields ["style"] [] Schema.object

/-- What is kept besides, read from the fields of an object. -/
def Metadata.ofFields (fields : Json.Fields) : Checked Metadata :=
  Metadata.mk
    <$> Schema.optional fields ["exported_at"] none (Schema.nullable Schema.text)
    <*> Schema.optional fields ["original_workflow_id"] none (Schema.nullable Schema.text)
    <*> Schema.optional fields ["node_positions"] .empty
      (Schema.table (Schema.table Schema.number))
    <*> Schema.optional fields ["terminal_nodes"] [] (Schema.list Node.ofJson)
    <*> Schema.optional fields ["edge_details"] []
      (Schema.list (Schema.record "EdgeDetail" EdgeDetail.ofFields))

/-- The version of specs that do not tell theirs. -/
def defaultVersion : String := "1.0"

/-- The name of the workflow of specs that do not tell it. -/
def defaultName : String := "Untitled Workflow"

/-- A spec read from the fields of an object. -/
def ofFields (fields : Json.Fields) : Checked Spec :=
  Spec.mk
    <$> Schema.optional fields ["version"] defaultVersion Schema.text
    <*> Schema.optional fields ["id"] none (Schema.nullable Schema.text)
    <*> Schema.optional fields ["name"] defaultName Schema.text
    <*> Schema.optional fields ["description"] none (Schema.nullable Schema.text)
    <*> Schema.optional fields ["nodes"] [] (Schema.list Node.ofJson)
    <*> Schema.optional fields ["edges"] [] (Schema.list (Schema.record "SpecEdge" Group.ofFields))
    <*> Schema.optional fields ["metadata"] none
      (Schema.nullable (Schema.record "SpecMetadata" Metadata.ofFields))

/-- A spec read from a value. -/
def ofJson : Json → Checked Spec :=
  Schema.record "WorkflowSpec" ofFields

/-- The lists that every spec has. -/
def requiredLists : List String := ["nodes", "edges"]

/-- A spec read from a document. -/
def ofDocument (document : Json) : Except Fault Spec :=
  match document with
  | .obj fields =>
    match requiredLists.find? fun key => ((Json.Fields.getD fields key).items?).isNone with
    | some key => .error (.specMissing key)
    | none =>
      match ofFields fields with
      | .valid spec => .ok spec
      | .invalid violations => .error (.specInvalid violations)
  | _ => .error (.specNotObject document)

end Spec

end WorkflowGraph
