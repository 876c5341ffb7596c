import WorkflowGraph.Config.Basic
import WorkflowGraph.Fault

/-!
# Configurations of edges

Conditional, parallel and looping edges have a configuration, plain ones have none.
`EdgeConfig.create` makes one for any kind from any value, as for nodes.
-/

namespace WorkflowGraph

/-- The settings of a conditional edge. -/
structure ConditionalConfig where
  /-- When the edge is followed. -/
  condition : String := "true"
  deriving DecidableEq

namespace ConditionalConfig

/-- The keys of the condition. -/
def conditionKey : SettingKey := ⟨"condition", "condition", "condition"⟩

/-- All keys. -/
def keys : List SettingKey := [conditionKey]

/-- The settings read from the fields of an object. -/
def ofFields (fields : Json.Fields) : Checked ConditionalConfig :=
  let base : ConditionalConfig := {}
  ConditionalConfig.mk <$> conditionKey.read fields base.condition Schema.text

/-- The settings as fields. -/
def toFields (vocabulary : Vocabulary) (c : ConditionalConfig) : Json.Fields :=
  [(conditionKey.name vocabulary, .str c.condition)]

/-- What is wrong with the settings. -/
def problem? (c : ConditionalConfig) : Option ConfigProblem :=
  if Text.isBlankText c.condition then some .conditionEmpty else none

end ConditionalConfig

/-- The settings of a parallel edge. -/
structure ParallelConfig where
  /-- All branches are waited for. -/
  waitForAll : Bool := true
  /-- What the edge does. -/
  description : String := "Executes all outgoing branches simultaneously."
  deriving DecidableEq

namespace ParallelConfig

/-- The keys of waiting for all branches. -/
def waitForAllKey : SettingKey := ⟨"wait_for_all", "waitForAll", "wait_for_all"⟩

/-- The keys of the description. -/
def descriptionKey : SettingKey := ⟨"description", "description", "description"⟩

/-- All keys. -/
def keys : List SettingKey := [waitForAllKey, descriptionKey]

/-- The settings read from the fields of an object. -/
def ofFields (fields : Json.Fields) : Checked ParallelConfig :=
  let base : ParallelConfig := {}
  ParallelConfig.mk
    <$> waitForAllKey.read fields base.waitForAll Schema.boolean
    <*> descriptionKey.read fields base.description Schema.text

/-- The settings as fields. -/
def toFields (vocabulary : Vocabulary) (c : ParallelConfig) : Json.Fields :=
  [(waitForAllKey.name vocabulary, .bool c.waitForAll),
    (descriptionKey.name vocabulary, .str c.description)]

end ParallelConfig

/-- The settings of a looping edge. -/
structure LoopingConfig where
  /-- How often the edge is followed at most. -/
  maxIterations : Int := 5
  /-- When it is no longer followed. -/
  breakCondition : String := ""
  deriving DecidableEq

namespace LoopingConfig

/-- The keys of the greatest number of iterations. -/
def maxIterationsKey : SettingKey := ⟨"max_iterations", "maxIterations", "max_iterations"⟩

/-- The keys of the condition that ends the loop. -/
def breakConditionKey : SettingKey := ⟨"break_condition", "breakCondition", "break_condition"⟩

/-- All keys. -/
def keys : List SettingKey := [maxIterationsKey, breakConditionKey]

/-- The settings read from the fields of an object. -/
def ofFields (fields : Json.Fields) : Checked LoopingConfig :=
  let base : LoopingConfig := {}
  LoopingConfig.mk
    <$> maxIterationsKey.read fields base.maxIterations Schema.integer
    <*> breakConditionKey.read fields base.breakCondition Schema.text

/-- The settings as fields. -/
def toFields (vocabulary : Vocabulary) (c : LoopingConfig) : Json.Fields :=
  [(maxIterationsKey.name vocabulary, .int c.maxIterations),
    (breakConditionKey.name vocabulary, .str c.breakCondition)]

/-- What is wrong with the settings. -/
def problem? (c : LoopingConfig) : Option ConfigProblem :=
  if c.maxIterations ≤ 0 then some .maxIterationsInvalid else none

end LoopingConfig

/-! ## The configuration of an edge -/

/-- The forms of the configurations of edges. -/
inductive EdgeVariant where
  | conditional
  | parallel
  | looping
  deriving DecidableEq

namespace EdgeVariant

/-- The kind of edges with configurations of this form. -/
def kind : EdgeVariant → EdgeKind
  | conditional => .conditional
  | parallel => .parallel
  | looping => .looping

/-- The name of the record. -/
def record : EdgeVariant → String
  | conditional => "ConditionalEdgeConfig"
  | parallel => "ParallelEdgeConfig"
  | looping => "LoopingEdgeConfig"

/-- All forms. -/
def all : List EdgeVariant := [conditional, parallel, looping]

/-- The form for the name of a kind. -/
def ofKind? (kind : String) : Option EdgeVariant :=
  all.find? (·.kind.name == kind)

/-- The keys of the settings. -/
def keys : EdgeVariant → List SettingKey
  | conditional => ConditionalConfig.keys
  | parallel => ParallelConfig.keys
  | looping => LoopingConfig.keys

end EdgeVariant

/-- The configuration of an edge. -/
inductive EdgeConfig where
  | conditional (settings : ConditionalConfig)
  | parallel (settings : ParallelConfig)
  | looping (settings : LoopingConfig)
  deriving DecidableEq

namespace EdgeConfig

/-- The form of a configuration. -/
def variant : EdgeConfig → EdgeVariant
  | conditional _ => .conditional
  | parallel _ => .parallel
  | looping _ => .looping

/-- The configuration of a form with all defaults. -/
def default : EdgeVariant → EdgeConfig
  | .conditional => conditional {}
  | .parallel => parallel {}
  | .looping => looping {}

/-- A configuration of a form, read from the fields of an object. -/
def ofFields : EdgeVariant → Json.Fields → Checked EdgeConfig
  | .conditional, fields => conditional <$> ConditionalConfig.ofFields fields
  | .parallel, fields => parallel <$> ParallelConfig.ofFields fields
  | .looping, fields => looping <$> LoopingConfig.ofFields fields

/-- A configuration of a form, read from a value; what counts as not given has all defaults. -/
def ofJson (variant : EdgeVariant) (data : Json) : Checked EdgeConfig :=
  Schema.record variant.record (ofFields variant) (data.orElse (.obj []))

/-- The settings as fields. -/
def toFields (vocabulary : Vocabulary) : EdgeConfig → Json.Fields
  | conditional c => c.toFields vocabulary
  | parallel c => c.toFields vocabulary
  | looping c => c.toFields vocabulary

/-- The settings as they are written to where JSON is kept. -/
def saved (vocabulary : Vocabulary) (c : EdgeConfig) : Json :=
  .obj (c.toFields vocabulary)

/-- What is wrong with the settings. -/
def problem? : EdgeConfig → Option ConfigProblem
  | conditional c => c.problem?
  | parallel _ => none
  | looping c => c.problem?

/-- The configuration for a kind, made from any value. Settings that cannot be read make it all
defaults, and a kind without configuration drops what is given; both are recorded. -/
def create (kind : String) (data : Json) : Logged (Option EdgeConfig) :=
  match EdgeVariant.ofKind? kind with
  | none => do
    if !data.isVoid then
      Logged.debug .configurations
        s!"Dropping configuration of edge kind '{kind}', which has no config variant"
    pure none
  | some variant =>
    match ofJson variant data with
    | .valid c => pure (some c)
    | .invalid violations => do
      Logged.warn .configurations
        (s!"Invalid edge configuration for kind '{kind}', using defaults: " ++
          s!"{violations.length} error(s)")
      pure (some (default variant))

theorem variant_default (variant : EdgeVariant) : (default variant).variant = variant := by
  cases variant <;> rfl

theorem variant_ofFields {variant : EdgeVariant} {fields : Json.Fields} {c : EdgeConfig}
    (h : ofFields variant fields = .valid c) : c.variant = variant := by
  cases variant with
  | conditional => obtain ⟨_, _, rfl⟩ := Checked.exists_of_map h; rfl
  | parallel => obtain ⟨_, _, rfl⟩ := Checked.exists_of_map h; rfl
  | looping => obtain ⟨_, _, rfl⟩ := Checked.exists_of_map h; rfl

theorem variant_ofJson {variant : EdgeVariant} {data : Json} {c : EdgeConfig}
    (h : ofJson variant data = .valid c) : c.variant = variant := by
  unfold ofJson Schema.record at h
  split at h
  · exact variant_ofFields h
  · cases h

/-- A configuration is made exactly for the kinds that have one, and of the form for the kind. -/
theorem variant_create (kind : String) (data : Json) :
    (create kind data).value.map variant = EdgeVariant.ofKind? kind := by
  unfold create
  split
  · rename_i h
    split <;> simp [h]
  · rename_i v h
    split
    · rename_i c hc
      simp [h, variant_ofJson hc]
    · simp [h, variant_default]

end EdgeConfig

end WorkflowGraph
