import WorkflowGraph.Schema
import WorkflowGraph.Kind

/-!
# Configurations

Some kinds of nodes and edges carry a configuration: a record of settings that are no ports. Each
setting has a key in each of three vocabularies, and its value is the same under all of them. In
reading, the key of documents is looked up first, then the key of stored graphs.
-/

namespace WorkflowGraph

/-- Who names the settings of a configuration. -/
inductive Vocabulary where
  /-- Documents of the editor. -/
  | document
  /-- Stored graphs. -/
  | stored
  /-- The inputs of spec nodes. -/
  | wire
  deriving DecidableEq

/-- The keys of one setting. -/
structure SettingKey where
  /-- The key in stored graphs. -/
  stored : String
  /-- The key in documents. -/
  document : String := stored
  /-- The key among the inputs of spec nodes. -/
  wire : String := stored
  deriving DecidableEq

namespace SettingKey

/-- The key in a vocabulary. -/
def name (key : SettingKey) : Vocabulary → String
  | .document => key.document
  | .stored => key.stored
  | .wire => key.wire

/-- The keys under which the setting is looked up, in order. -/
def readable (key : SettingKey) : List String :=
  if key.document = key.stored then [key.stored] else [key.document, key.stored]

/-- A setting that has a default. -/
def read {α : Type} (key : SettingKey) (fields : Json.Fields) (default : α)
    (check : Json → Checked α) : Checked α :=
  Schema.optional fields key.readable default check

end SettingKey

/-- The stored key for a key of the inputs of spec nodes; other keys are left alone. -/
def storedKey (keys : List SettingKey) (name : String) : String :=
  ((keys.find? (·.wire == name)).map (·.stored)).getD name

/-- Inputs of a spec node under the stored keys of settings. -/
def ofWireFields (keys : List SettingKey) (fields : Json.Fields) : Json.Fields :=
  Json.Fields.ofList (fields.map fun f => (storedKey keys f.1, f.2))

/-- What can be wrong with the settings of a configuration that was read. -/
inductive ConfigProblem where
  /-- The condition is blank. -/
  | conditionEmpty
  /-- There is no iteration to be done. -/
  | maxIterationsInvalid
  /-- The name of the tool is blank. -/
  | toolNameEmpty
  /-- The temperature is out of range. -/
  | temperatureRange
  /-- There is no token to be written. -/
  | maxTokensInvalid
  /-- There is no time to wait. -/
  | timeoutInvalid
  /-- A form has no fields. -/
  | inputFieldsEmpty
  /-- Two fields of a form have the same key. -/
  | inputFieldsDuplicate
  /-- A field of a form has a blank key or label. -/
  | inputFieldsBlank
  deriving DecidableEq

/-- The message for a problem. -/
def ConfigProblem.message : ConfigProblem → String
  | conditionEmpty => "Condition cannot be empty."
  | maxIterationsInvalid => "Max iterations must be a positive number."
  | toolNameEmpty => "Tool name cannot be empty."
  | temperatureRange => "Temperature must be between 0 and 2."
  | maxTokensInvalid => "Max tokens must be a positive number."
  | timeoutInvalid => "Timeout must be a positive number."
  | inputFieldsEmpty => "At least one input field is required."
  | inputFieldsDuplicate => "Input field keys must be unique."
  | inputFieldsBlank => "All input fields must have both key and label."

end WorkflowGraph
