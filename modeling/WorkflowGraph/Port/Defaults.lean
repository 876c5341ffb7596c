import WorkflowGraph.Port.Basic
import WorkflowGraph.Config.Node

/-!
# Default ports

The ports that a node of a known kind has unless it lists its own. A node of any other kind has
none. A setting of a kind is told from a port of the same name by `settingKeys`.
-/

namespace WorkflowGraph

namespace NodeKind

/-- The input ports of a kind. -/
def inputs : NodeKind → Table Port
  | start => .empty
  | finish => .ofList [("result", .unset .any)]
  | llm => .ofList [
      ("api_key", .template (.str "llm_api_key") .string),
      ("model", .template (.str "llm_model") .string),
      ("system_prompt", .unset .string),
      ("user_prompt", .unset .string),
      ("context", .unset .string)]
  | tool => .ofList [
      ("endpoint", .unset .string),
      ("method", ⟨.literal, .str "GET", .string⟩),
      ("headers", .unset .object),
      ("payload", .unset .object)]
  | interrupt => .ofList [("message", .unset .string)]
  | userInput => .ofList [("input", .unset .string)]

/-- The output ports of a kind. -/
def outputs : NodeKind → Table DataType
  | start => .ofList [("trigger", .boolean)]
  | finish => .empty
  | llm => .ofList [("response", .string), ("summary", .string)]
  | tool => .ofList [("result", .any)]
  | interrupt => .ofList [("value", .string)]
  | userInput => .ofList [("value", .string)]

end NodeKind

/-- The input ports of a kind given by name. -/
def defaultInputs (kind : String) : Table Port :=
  ((NodeKind.ofName? kind).map NodeKind.inputs).getD .empty

/-- The output ports of a kind given by name. -/
def defaultOutputs (kind : String) : Table DataType :=
  ((NodeKind.ofName? kind).map NodeKind.outputs).getD .empty

/-- The inputs of spec nodes of a kind that are settings and not ports. -/
def settingKeys (kind : String) : List String :=
  match NodeVariant.ofKind? kind with
  | some variant => (variant.keys.map (·.wire)).filter fun key => !(defaultInputs kind).has key
  | none => []

/-- An input of a spec node is read as a setting: it is named like one, and its value is no
reference. A reference that is empty counts as none. -/
def isSetting (kind name : String) (value : Json) : Bool :=
  (settingKeys kind).contains name && (Port.ofRaw value none).reference.isVoid

end WorkflowGraph
