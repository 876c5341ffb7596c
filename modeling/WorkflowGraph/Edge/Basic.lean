import WorkflowGraph.Config.Edge

/-!
# Edges

An edge leads from one node to another. Its kind decides whether it has a configuration, and of what
form. The condition of a conditional edge is its own, or that of its configuration.
-/

namespace WorkflowGraph

/-- An edge of a graph. -/
structure Edge where
  id : String
  /-- The id of the node it comes from. -/
  source : String
  /-- The id of the node it goes to. -/
  target : String
  kind : EdgeKind
  label : Option String
  /-- When the edge is followed, if that is stated apart from the settings. -/
  condition : Option String
  config : Option EdgeConfig
  animated : Bool
  style : Json.Fields
  /-- There are settings exactly if the kind has some, and they are those of the kind. -/
  config_kind : config.map EdgeConfig.variant = EdgeVariant.ofKind? kind.name
  deriving DecidableEq

namespace Edge

/-- What the configuration of an edge is made from: what is given, or else the condition of a
conditional edge. -/
def configData (kind : EdgeKind) (condition data : Json) : Json :=
  if data ≠ .null then data
  else if kind = .conditional && condition ≠ .null then .obj [("condition", condition)]
  else .obj []

/-- The configuration of an edge. -/
def configured (kind : EdgeKind) (condition data : Json) : Logged (Option EdgeConfig) :=
  EdgeConfig.create kind.name (configData kind condition data)

/-- An edge, with a configuration made from what is given. -/
def make (id source target : String) (kind : EdgeKind) (label condition : Option String)
    (data : Json) (animated : Bool) (style : Json.Fields) : Logged Edge :=
  ⟨{ id, source, target, kind, label, condition, animated, style
     config := (configured kind (.ofText? condition) data).value
     config_kind := EdgeConfig.variant_create _ _ },
    (configured kind (.ofText? condition) data).log⟩

/-- The edge is followed only if a condition holds. -/
def isConditional (e : Edge) : Bool :=
  e.kind = .conditional

/-- When the edge is followed. -/
def effectiveCondition (e : Edge) : Option String :=
  match e.condition, e.config with
  | some condition, _ => some condition
  | none, some (.conditional settings) => some settings.condition
  | none, _ => none

/-- The edge between other nodes. -/
def withEndpoints (e : Edge) (source target : String) : Edge :=
  { e with source, target }

/-- What is wrong with the settings of the edge. -/
def problems (e : Edge) : List String :=
  match e.config.bind EdgeConfig.problem? with
  | some problem => [s!"Edge '{e.id}' has invalid configuration: {problem.message}"]
  | none => []

end Edge

end WorkflowGraph
