import WorkflowGraph.Port.Defaults

/-!
# Nodes

A node has a kind, a place on the canvas, texts for display, an optional configuration, and input
and output ports. A configuration is always of the kind of its node. The ports that a node has in
effect are its own together with the default ports of its kind.
-/

namespace WorkflowGraph

/-- A place on the canvas. -/
structure Position where
  /-- To the right. -/
  x : Float64 := .ofInt 0
  /-- Downwards. -/
  y : Float64 := .ofInt 0
  deriving DecidableEq

instance : Inhabited Position := ⟨{}⟩

/-- A node of a graph. -/
structure Node where
  /-- The id, by which edges and references name the node. -/
  id : String
  kind : String
  position : Position
  label : String
  /-- What the node does. -/
  description : String
  config : Option NodeConfig
  /-- The input ports that the node lists. -/
  inputs : Table Port
  /-- The types of the output ports that the node lists. -/
  outputs : Table DataType
  /-- The settings are those of the kind. -/
  config_kind : ∀ c, config = some c → c.kind = kind
  deriving DecidableEq

namespace Node

/-! ## Making nodes -/

/-- The configuration of a node, made from what is given; none if `null` is given. -/
def configured (kind : String) (data : Json) : Logged (Option NodeConfig) :=
  if data = .null then pure none else NodeConfig.create kind data

theorem kind_configured {kind : String} {data : Json} {c : NodeConfig}
    (h : (configured kind data).value = some c) : c.kind = kind := by
  unfold configured at h
  split at h
  · simp at h
  · exact NodeConfig.kind_create h

/-- A node, with a configuration made from what is given. -/
def make (id kind : String) (position : Position) (label description : String) (data : Json)
    (inputs : Table Port) (outputs : Table DataType) : Logged Node :=
  ⟨{ id, kind, position, label, description, inputs, outputs
     config := (configured kind data).value
     config_kind := fun _ h => kind_configured h },
    (configured kind data).log⟩

/-! ## Kind and label -/

/-- The kind, if its meaning is known. -/
def kind? (n : Node) : Option NodeKind :=
  NodeKind.ofName? n.kind

/-- Runs begin at the node. -/
def isStart (n : Node) : Bool :=
  n.kind == NodeKind.start.name

/-- Runs end at the node. -/
def isEnd (n : Node) : Bool :=
  n.kind == NodeKind.finish.name

/-- Runs begin or end at the node. -/
def isTerminal (n : Node) : Bool :=
  n.isStart || n.isEnd

/-- What the node is shown as: its label, or its id if it has none. -/
def displayLabel (n : Node) : String :=
  if n.label = "" then n.id else n.label

/-! ## Ports in effect -/

/-- The input ports in effect: those of the kind, overridden by those of the node. -/
def allInputs (n : Node) : Table Port :=
  (defaultInputs n.kind).override n.inputs

/-- The output ports in effect: those of the node, then those of the kind that it lacks. -/
def allOutputs (n : Node) : Table DataType :=
  n.outputs.complete (defaultOutputs n.kind)

/-- The names of the output ports in effect, to which numbered references count. -/
def outputNames (n : Node) : List String :=
  n.allOutputs.names

/-! ## Changes -/

/-- The node with an input port set. -/
def withInput (n : Node) (name : String) (port : Port) : Node :=
  { n with inputs := n.inputs.insert name port }

/-- The node at another place. -/
def moveTo (n : Node) (position : Position) : Node :=
  { n with position }

/-- The port is bound to an output of the node of this id. -/
def portRefersTo (id : String) (port : Port) : Bool :=
  port.binding = .connection && port.value.referenceHead? == some id

/-- The reference to the same output of another node. -/
def redirected (new : String) (value : Json) : Json :=
  match value with
  | .str s => .str (Reference.make new (Reference.tail s))
  | value => value

/-- Some input port is bound to an output of the node of this id. -/
def refersTo (n : Node) (id : String) : Bool :=
  n.inputs.entries.any fun e => portRefersTo id e.2

/-- The node with references to one node made references to another. -/
def redirectReferences (n : Node) (old new : String) : Node :=
  { n with inputs := n.inputs.map fun _ port =>
      if portRefersTo old port then port.withReference (redirected new port.value) else port }

/-! ## Checks -/

/-- What is wrong with the ports and the settings of the node. -/
def problems (n : Node) : List String :=
  (n.inputs.entries.flatMap fun e =>
    (Port.problems e.1 e.2).map fun problem => s!"Node '{n.id}': {problem}") ++
  match n.config.bind NodeConfig.problem? with
  | some problem => [s!"Node '{n.id}' has invalid configuration: {problem.message}"]
  | none => []

end Node

end WorkflowGraph
