import WorkflowGraph.Config.Basic
import WorkflowGraph.Fault
import WorkflowGraph.Json.Display

/-!
# Configurations of nodes

Four kinds of nodes have a configuration, each of its own form. `NodeConfig.create` makes one for
any kind from any value: what cannot be read is replaced by the defaults, and a kind without
configuration gets none.
-/

namespace WorkflowGraph

/-! ## Calls of a language model -/

/-- The settings of a call of a language model. -/
structure LlmConfig where
  model : String := "gpt-4"
  temperature : Float64 := .ofDecimal false 7 (-1)
  /-- The greatest number of tokens written. -/
  maxTokens : Int := 1024
  deriving DecidableEq

namespace LlmConfig

/-- The keys of the model. The inputs of spec nodes have a port under `model`. -/
def modelKey : SettingKey := ⟨"model", "model", "model_name"⟩

/-- The keys of the temperature. -/
def temperatureKey : SettingKey := ⟨"temperature", "temperature", "temperature"⟩

/-- The keys of the greatest number of tokens. -/
def maxTokensKey : SettingKey := ⟨"max_tokens", "maxTokens", "max_tokens"⟩

/-- All keys. -/
def keys : List SettingKey := [modelKey, temperatureKey, maxTokensKey]

/-- The settings read from the fields of an object. -/
def ofFields (fields : Json.Fields) : Checked LlmConfig :=
  let base : LlmConfig := {}
  LlmConfig.mk
    <$> modelKey.read fields base.model Schema.text
    <*> temperatureKey.read fields base.temperature Schema.number
    <*> maxTokensKey.read fields base.maxTokens Schema.integer

/-- The settings as fields. -/
def toFields (vocabulary : Vocabulary) (c : LlmConfig) : Json.Fields :=
  [(modelKey.name vocabulary, .str c.model),
    (temperatureKey.name vocabulary, .float c.temperature),
    (maxTokensKey.name vocabulary, .int c.maxTokens)]

/-- What is wrong with the settings. -/
def problem? (c : LlmConfig) : Option ConfigProblem :=
  if !(Float64.le (.ofInt 0) c.temperature && c.temperature.le (.ofInt 2)) then
    some .temperatureRange
  else if c.maxTokens ≤ 0 then some .maxTokensInvalid
  else none

end LlmConfig

/-! ## Calls of a tool -/

/-- The settings of a call of a tool. -/
structure ToolConfig where
  toolName : String := ""
  /-- What it is called with. -/
  parameters : Json.Fields := []
  deriving DecidableEq

namespace ToolConfig

/-- The keys of the name of the tool. -/
def toolNameKey : SettingKey := ⟨"tool_name", "toolName", "tool_name"⟩

/-- The keys of the parameters. -/
def parametersKey : SettingKey := ⟨"parameters", "parameters", "parameters"⟩

/-- All keys. -/
def keys : List SettingKey := [toolNameKey, parametersKey]

/-- The settings read from the fields of an object. -/
def ofFields (fields : Json.Fields) : Checked ToolConfig :=
  let base : ToolConfig := {}
  ToolConfig.mk
    <$> toolNameKey.read fields base.toolName Schema.text
    <*> parametersKey.read fields base.parameters Schema.object

/-- The settings as fields. -/
def toFields (vocabulary : Vocabulary) (c : ToolConfig) : Json.Fields :=
  [(toolNameKey.name vocabulary, .str c.toolName),
    (parametersKey.name vocabulary, .obj c.parameters)]

/-- What is wrong with the settings. -/
def problem? (c : ToolConfig) : Option ConfigProblem :=
  if Text.isBlankText c.toolName then some .toolNameEmpty else none

end ToolConfig

/-! ## Pauses for an answer -/

/-- The settings of a pause for an answer. -/
structure InterruptConfig where
  /-- What is asked. -/
  prompt : String := "User input required"
  /-- How many seconds to wait. -/
  timeout : Int := 60
  deriving DecidableEq

namespace InterruptConfig

/-- The keys of the prompt. -/
def promptKey : SettingKey := ⟨"prompt", "prompt", "prompt"⟩

/-- The keys of the time to wait. -/
def timeoutKey : SettingKey := ⟨"timeout", "timeout", "timeout"⟩

/-- All keys. -/
def keys : List SettingKey := [promptKey, timeoutKey]

/-- The settings read from the fields of an object. -/
def ofFields (fields : Json.Fields) : Checked InterruptConfig :=
  let base : InterruptConfig := {}
  InterruptConfig.mk
    <$> promptKey.read fields base.prompt Schema.text
    <*> timeoutKey.read fields base.timeout Schema.integer

/-- The settings as fields. -/
def toFields (vocabulary : Vocabulary) (c : InterruptConfig) : Json.Fields :=
  [(promptKey.name vocabulary, .str c.prompt), (timeoutKey.name vocabulary, .int c.timeout)]

/-- What is wrong with the settings. -/
def problem? (c : InterruptConfig) : Option ConfigProblem :=
  if c.timeout ≤ 0 then some .timeoutInvalid else none

end InterruptConfig

/-! ## Forms -/

/-- One field of a form. -/
structure InputField where
  /-- The key of the answer. -/
  key : String := ""
  /-- What the field is called. -/
  label : String := ""
  type : String := "string"
  /-- An answer must be given. -/
  required : Bool := true
  /-- A pattern that the answer must match. -/
  validation : Option String := none
  deriving DecidableEq

namespace InputField

/-- The keys of the label. -/
def labelKey : SettingKey := ⟨"label", "value", "label"⟩

/-- A field read from the fields of an object. -/
def ofFields (fields : Json.Fields) : Checked InputField :=
  let base : InputField := {}
  InputField.mk
    <$> Schema.optional fields ["key"] base.key Schema.text
    <*> labelKey.read fields base.label Schema.text
    <*> Schema.optional fields ["type"] base.type Schema.text
    <*> Schema.optional fields ["required"] base.required Schema.boolean
    <*> Schema.optional fields ["validation"] base.validation (Schema.nullable Schema.text)

/-- The field as an object. -/
def toJson (vocabulary : Vocabulary) (f : InputField) : Json :=
  .obj [("key", .str f.key), (labelKey.name vocabulary, .str f.label), ("type", .str f.type),
    ("required", .bool f.required), ("validation", .ofText? f.validation)]

end InputField

/-- The settings of a form. -/
structure FormConfig where
  /-- The fields of the form. -/
  inputFields : List InputField := []
  deriving DecidableEq

namespace FormConfig

/-- The keys of the fields. -/
def inputFieldsKey : SettingKey := ⟨"input_fields", "inputFields", "input_fields"⟩

/-- All keys. -/
def keys : List SettingKey := [inputFieldsKey]

/-- The settings read from the fields of an object. -/
def ofFields (fields : Json.Fields) : Checked FormConfig :=
  let base : FormConfig := {}
  FormConfig.mk
    <$> inputFieldsKey.read fields base.inputFields
      (Schema.list (Schema.record "InputField" InputField.ofFields))

/-- The settings as fields. -/
def toFields (vocabulary : Vocabulary) (c : FormConfig) : Json.Fields :=
  [(inputFieldsKey.name vocabulary, .arr (c.inputFields.map (InputField.toJson vocabulary)))]

/-- What is wrong with the settings. -/
def problem? (c : FormConfig) : Option ConfigProblem :=
  if c.inputFields.isEmpty then some .inputFieldsEmpty
  else if !decide (c.inputFields.map InputField.key).Nodup then some .inputFieldsDuplicate
  else if c.inputFields.any fun f => Text.isBlankText f.key || Text.isBlankText f.label then
    some .inputFieldsBlank
  else none

end FormConfig

/-! ## The configuration of a node -/

/-- The forms of the configurations of nodes. -/
inductive NodeVariant where
  | llm
  | tool
  | interrupt
  | form
  deriving DecidableEq

namespace NodeVariant

/-- The kind of nodes with configurations of this form. -/
def kind : NodeVariant → NodeKind
  | llm => .llm
  | tool => .tool
  | interrupt => .interrupt
  | form => .userInput

/-- The name of the record. -/
def record : NodeVariant → String
  | llm => "LLMNodeConfig"
  | tool => "ToolNodeConfig"
  | interrupt => "InterruptNodeConfig"
  | form => "InputNodeConfig"

/-- All forms. -/
def all : List NodeVariant := [llm, tool, interrupt, form]

/-- The form for a kind. -/
def ofKind? (kind : String) : Option NodeVariant :=
  all.find? (·.kind.name == kind)

/-- The keys of the settings. -/
def keys : NodeVariant → List SettingKey
  | llm => LlmConfig.keys
  | tool => ToolConfig.keys
  | interrupt => InterruptConfig.keys
  | form => FormConfig.keys

end NodeVariant

/-- The configuration of a node. -/
inductive NodeConfig where
  | llm (settings : LlmConfig)
  | tool (settings : ToolConfig)
  | interrupt (settings : InterruptConfig)
  | form (settings : FormConfig)
  deriving DecidableEq

namespace NodeConfig

/-- The form of a configuration. -/
def variant : NodeConfig → NodeVariant
  | llm _ => .llm
  | tool _ => .tool
  | interrupt _ => .interrupt
  | form _ => .form

/-- The kind of the nodes that a configuration is for. -/
def kind (c : NodeConfig) : String :=
  c.variant.kind.name

/-- The configuration of a form with all defaults. -/
def default : NodeVariant → NodeConfig
  | .llm => llm {}
  | .tool => tool {}
  | .interrupt => interrupt {}
  | .form => form {}

/-- A configuration of a form, read from the fields of an object. -/
def ofFields : NodeVariant → Json.Fields → Checked NodeConfig
  | .llm, fields => llm <$> LlmConfig.ofFields fields
  | .tool, fields => tool <$> ToolConfig.ofFields fields
  | .interrupt, fields => interrupt <$> InterruptConfig.ofFields fields
  | .form, fields => form <$> FormConfig.ofFields fields

/-- A configuration of a form, read from a value; what counts as not given has all defaults. -/
def ofJson (variant : NodeVariant) (data : Json) : Checked NodeConfig :=
  Schema.record variant.record (ofFields variant) (data.orElse (.obj []))

/-- The settings as fields. -/
def toFields (vocabulary : Vocabulary) : NodeConfig → Json.Fields
  | llm c => c.toFields vocabulary
  | tool c => c.toFields vocabulary
  | interrupt c => c.toFields vocabulary
  | form c => c.toFields vocabulary

/-- The configuration without infinite and undefined numbers among the parameters of a tool. -/
def storable : NodeConfig → NodeConfig
  | tool c => tool { c with parameters := Json.storableFields c.parameters }
  | c => c

/-- The settings can be stored. -/
def isStorable : NodeConfig → Bool
  | tool c => c.parameters.areStorable
  | _ => true

/-- The settings as they are written to where JSON is kept. -/
def saved (vocabulary : Vocabulary) (c : NodeConfig) : Json :=
  .obj (c.storable.toFields vocabulary)

/-- The settings as inputs of a spec node. -/
def wireInputs (c : NodeConfig) : Json.Fields :=
  c.storable.toFields .wire

/-- What is wrong with the settings. -/
def problem? : NodeConfig → Option ConfigProblem
  | llm c => c.problem?
  | tool c => c.problem?
  | interrupt c => c.problem?
  | form c => c.problem?

/-- The configuration for a kind, made from any value. Settings that cannot be read make it all
defaults, and a kind without configuration drops what is given; both are recorded. -/
def create (kind : String) (data : Json) : Logged (Option NodeConfig) :=
  match NodeVariant.ofKind? kind with
  | none => do
    if !data.isVoid then
      Logged.debug .configurations
        s!"Dropping configuration of node kind '{kind}', which has no config variant"
    pure none
  | some variant =>
    match ofJson variant data with
    | .valid c => pure (some c)
    | .invalid violations => do
      Logged.warn .configurations
        (s!"Invalid node configuration for kind '{kind}', using defaults: " ++
          s!"{violations.length} error(s)")
      pure (some (default variant))

theorem kind_default (variant : NodeVariant) : (default variant).kind = variant.kind.name := by
  cases variant <;> rfl

theorem kind_ofFields {variant : NodeVariant} {fields : Json.Fields} {c : NodeConfig}
    (h : ofFields variant fields = .valid c) : c.kind = variant.kind.name := by
  cases variant with
  | llm => obtain ⟨_, _, rfl⟩ := Checked.exists_of_map h; rfl
  | tool => obtain ⟨_, _, rfl⟩ := Checked.exists_of_map h; rfl
  | interrupt => obtain ⟨_, _, rfl⟩ := Checked.exists_of_map h; rfl
  | form => obtain ⟨_, _, rfl⟩ := Checked.exists_of_map h; rfl

theorem kind_ofJson {variant : NodeVariant} {data : Json} {c : NodeConfig}
    (h : ofJson variant data = .valid c) : c.kind = variant.kind.name := by
  unfold ofJson Schema.record at h
  split at h
  · exact kind_ofFields h
  · cases h

theorem kind_of_ofKind? {kind : String} {variant : NodeVariant}
    (h : NodeVariant.ofKind? kind = some variant) : variant.kind.name = kind := by
  simpa using List.find?_some h

/-- A configuration that is made for a kind is of that kind. -/
theorem kind_create {kind : String} {data : Json} {c : NodeConfig}
    (h : (create kind data).value = some c) : c.kind = kind := by
  unfold create at h
  split at h
  · split at h <;> simp at h
  · rename_i variant hv
    split at h
    · rename_i c' hc
      simp only [Logged.value_pure, Option.some.injEq] at h
      exact h ▸ (kind_ofJson hc).trans (kind_of_ofKind? hv)
    · simp only [Logged.value_bind, Logged.value_pure, Option.some.injEq] at h
      exact h ▸ (kind_default variant).trans (kind_of_ofKind? hv)

end NodeConfig

end WorkflowGraph
