import WorkflowGraph.Edge.Reader
import WorkflowGraph.Node.Reader
import WorkflowGraph.Workflow.Basic

/-!
# Building workflows

A builder collects nodes and edges under their ids and makes a workflow of them. Unlike a workflow
it lets a node or an edge take the place of an earlier one of the same id, and it numbers edges for
which no id is given. A number is used up even if the edge it was meant for cannot be made.
-/

namespace WorkflowGraph

/-- A workflow under construction. Its texts are not looked at before it is built. -/
structure Builder where
  /-- The id; one is made up if it counts as not given. -/
  id : Json := .null
  name : Json := .str Workflow.unnamed
  /-- What the workflow does. -/
  description : Json := .str ""
  /-- The nodes by id. -/
  nodes : Table Node := .empty
  /-- The edges by id. -/
  edges : Table Edge := .empty
  /-- How many edges have been numbered. -/
  numbered : Nat := 0

namespace Builder

/-- What a node is made from. -/
structure NodeArguments where
  id : Json
  kind : Json
  label : Json := .str ""
  /-- The input ports, `null` for those of the kind. -/
  inputs : Json := .null
  /-- The output ports, `null` for those of the kind. -/
  outputs : Json := .null
  config : Json := .null
  /-- The place on the canvas, as a pair. -/
  position : Json := .null
  /-- What the node does. -/
  description : Json := .str ""

/-- What an edge is made from. -/
structure EdgeArguments where
  kind : EdgeKind
  source : Json
  target : Json
  /-- The id; the edge is numbered if it counts as not given. -/
  id : Json := .null
  label : Json := .null
  /-- When the edge is followed. -/
  condition : Json := .null
  config : Json := .null

/-- One step of building. -/
inductive Call where
  /-- Sets the id. -/
  | withId (id : Json)
  /-- Sets the name. -/
  | withName (name : Json)
  /-- Sets the description. -/
  | withDescription (description : Json)
  /-- Makes a node and puts it under its id. -/
  | addNode (arguments : NodeArguments)
  /-- Puts nodes under their ids. -/
  | addNodes (nodes : List Node)
  /-- Binds an input port of a node to an output of another. -/
  | bindInput (node port : Json) (source output : String) (type : Option DataType)
  /-- Removes a node and the edges at it. -/
  | removeNode (id : Json)
  /-- Puts an edge under its id. -/
  | addEdge (edge : Edge)
  /-- Makes an edge and puts it under its id. -/
  | connect (arguments : EdgeArguments)

/-! ## Nodes -/

/-- A coordinate of a pair: an item of a list, or a character of a text. -/
def coordinate (index : Nat) : Json → Except Fault Json
  | .arr items =>
    match items[index]? with
    | some value => .ok value
    | none => .error .outOfRange
  | .str s =>
    match s.toList[index]? with
    | some c => .ok (.str (String.singleton c))
    | none => .error .outOfRange
  | .obj _ => .error (.missingKey (.int index))
  | _ => .error .wrongType

/-- The field for a place on the canvas; none if no place is given. -/
def positionField (position : Json) : Except Fault Json.Fields :=
  match position with
  | .null => .ok []
  | pair => do
    let x ← coordinate 0 pair
    let y ← coordinate 1 pair
    pure [("position", .obj [("x", x), ("y", y)])]

/-- The node made from its arguments. -/
def makeNode (a : NodeArguments) : Attempt Node := do
  let position ← Attempt.ofExcept (positionField a.position)
  Node.ofJson (.obj ([("id", a.id), ("kind", a.kind), ("label", a.label),
    ("description", a.description), ("inputs", a.inputs), ("outputs", a.outputs),
    ("config", a.config)] ++ position))

/-- The builder with a node under its id. -/
def putNode (b : Builder) (n : Node) : Builder :=
  { b with nodes := b.nodes.insert n.id n }

/-- The edge comes from a node or goes to it. -/
def touches (id : String) (e : Edge) : Bool :=
  e.source == id || e.target == id

/-- The builder without a node and the edges at it. -/
def dropNode (b : Builder) (id : String) : Builder :=
  { b with
    nodes := b.nodes.erase id
    edges := b.edges.filter fun _ e => !touches id e }

/-- The node of an id that may be any value. -/
def nodeOf (b : Builder) (id : Json) : Except Fault Node :=
  match id.text?.bind b.nodes.find? with
  | some n => .ok n
  | none => .error (if id.isScalar then .missingKey id else .wrongType)

/-- The name of a port that is given by any value. -/
def portName : Json → Except Fault String
  | .str name => .ok name
  | .bool b => .ok (if b then "true" else "false")
  | value => if value.isScalar then .ok value.inSentence else .error .wrongType

/-- The builder with an input port of a node bound to an output of another. -/
def bind (b : Builder) (node port : Json) (source output : String) (type : Option DataType) :
    Except Fault Builder := do
  let n ← b.nodeOf node
  let type ← Port.requireType type
  let name ← portName port
  pure (b.putNode (n.withInput name (.connectTo source output type)))

/-! ## Edges -/

/-- What the ids of numbered edges begin with. -/
def edgeIdBeginning : String := "edge"

/-- The id of an edge, and the builder in which a number is used up if it has one. -/
def claimId (b : Builder) (id : Json) : Json × Builder :=
  if id.isVoid then
    (.str s!"{edgeIdBeginning}-{b.numbered + 1}", { b with numbered := b.numbered + 1 })
  else (id, b)

/-- The edge of an id made from its arguments. -/
def makeEdge (id : Json) (a : EdgeArguments) : Attempt Edge :=
  Edge.ofJson (.obj [("id", id), ("source", a.source), ("target", a.target),
    ("kind", .str a.kind.name),
    ("data", .obj [("label", a.label), ("condition", a.condition), ("config", a.config)])])

/-- The builder with an edge under its id. -/
def putEdge (b : Builder) (e : Edge) : Builder :=
  { b with edges := b.edges.insert e.id e }

/-! ## Steps -/

/-- The builder after a step that succeeded; the fault and the builder left if it did not. -/
def settle {α : Type} (b : Builder) (x : Attempt α) (f : α → Builder) :
    Logged (Builder × Option Fault) := do
  match ← x.outcome with
  | .ok a => pure (f a, none)
  | .error fault => pure (b, some fault)

/-- One step. -/
def perform (b : Builder) : Call → Logged (Builder × Option Fault)
  | .withId id => pure ({ b with id }, none)
  | .withName name => pure ({ b with name }, none)
  | .withDescription description => pure ({ b with description }, none)
  | .addNode a => settle b (makeNode a) b.putNode
  | .addNodes nodes => pure (nodes.foldl putNode b, none)
  | .bindInput id port source output type =>
    settle b (.ofExcept (b.bind id port source output type)) fun bound => bound
  | .removeNode (.str id) => pure (b.dropNode id, none)
  | .removeNode id => pure (b, if id.isScalar then none else some .wrongType)
  | .addEdge e => pure (b.putEdge e, none)
  | .connect a =>
    let (id, b) := b.claimId a.id
    settle b (makeEdge id a) b.putEdge

/-- The workflow that has been built. -/
def build (s : Surroundings) (b : Builder) : Except Fault Workflow :=
  let text (key : String) (value : Json) : Checked String :=
    Checked.under (.key key) (Schema.text value)
  let built :=
    (fun id name description => Workflow.mk id name description
      (b.nodes.entries.map (·.2)) (b.edges.entries.map (·.2)) s.now s.now)
    <$> text "id" (b.id.orElse (.str (s.freshId Workflow.idBeginning)))
    <*> text "name" b.name
    <*> text "description" b.description
  match built with
  | .valid w => .ok w
  | .invalid violations => .error (.invalid "Workflow" violations)

/-! ## Calls by purpose -/

/-- Makes the node at which runs begin. -/
def Call.addStart (id label : Json) : Call :=
  .addNode { id, kind := .str NodeKind.start.name, label }

/-- Makes the node at which runs end. -/
def Call.addEnd (id label : Json) : Call :=
  .addNode { id, kind := .str NodeKind.finish.name, label }

/-- A setting that is given; one that is not has its default. -/
def settingField (key : SettingKey) : Option Json → Json.Fields
  | some value => [(key.stored, value)]
  | none => []

/-- Makes a parallel edge. -/
def Call.connectParallel (source target id : Json) (waitForAll : Option Json) : Call :=
  .connect {
    kind := .parallel
    source, target, id
    config := .obj (settingField ParallelConfig.waitForAllKey waitForAll) }

/-- Makes a looping edge. -/
def Call.connectLooping (source target id : Json) (maxIterations breakCondition : Option Json) :
    Call :=
  .connect {
    kind := .looping
    source, target, id
    config := .obj (settingField LoopingConfig.maxIterationsKey maxIterations ++
      settingField LoopingConfig.breakConditionKey breakCondition) }

/-- The workflow of a row of steps. A step that fails has no effect but that of its number. -/
def ofCalls (s : Surroundings) (calls : List Call) : Logged (Except Fault Workflow) := do
  pure (build s (← go {} calls))
where
  /-- The builder after the steps that remain. -/
  go (b : Builder) : List Call → Logged Builder
    | [] => pure b
    | c :: rest => do
      let (b, _) ← b.perform c
      go b rest

end Builder

end WorkflowGraph
