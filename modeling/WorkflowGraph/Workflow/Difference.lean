import WorkflowGraph.Spec.OfWorkflow

/-!
# Differences between workflows

How a workflow that went through a spec differs from what it was. Nodes are compared by kind, label,
bindings of their ports, and inputs and outputs as a spec states them; edges by the ends, the kind
and the condition. Start and end nodes count as one under whatever id, and so do their sentinels.
Positions, descriptions, ids of edges and the look of edges are not compared.
-/

namespace WorkflowGraph

/-- What is compared of an edge. -/
structure EdgeKey where
  source : String
  target : String
  kind : EdgeKind
  /-- The condition of a conditional edge. -/
  condition : Option String
  deriving DecidableEq

/-- The key as messages show it. -/
def EdgeKey.text (k : EdgeKey) : String :=
  s!"({Text.quoted k.source}, {Text.quoted k.target}, {Text.quoted k.kind.name}, " ++
    (Json.ofText? k.condition).display ++ ")"

/-- One way in which a workflow differs from another. -/
inductive Difference where
  /-- Nodes that the second workflow lacks. -/
  | missing (ids : List String)
  /-- Nodes that only the second workflow has. -/
  | unexpected (ids : List String)
  /-- A node has another kind. -/
  | kind (node before after : String)
  /-- A node is shown under another label. -/
  | label (node before after : String)
  /-- A node has ports of other names or bindings. -/
  | bindings (node : String) (before after : Json)
  /-- A node has other inputs. -/
  | inputs (node : String) (before after : Json)
  /-- A node has other outputs. -/
  | outputs (node : String) (before after : Json)
  /-- An edge that the second workflow lacks. -/
  | edge (id : String) (key : EdgeKey)
  deriving DecidableEq

/-- The message for a difference. -/
def Difference.text : Difference → String
  | missing ids => s!"Missing nodes: {(Json.arr (ids.map .str)).display}"
  | unexpected ids => s!"Unexpected nodes: {(Json.arr (ids.map .str)).display}"
  | kind node before after =>
    s!"Node '{node}': kind {Text.quoted before} != {Text.quoted after}"
  | label node before after =>
    s!"Node '{node}': label {Text.quoted before} != {Text.quoted after}"
  | bindings node before after =>
    s!"Node '{node}': port bindings {before.display} != {after.display}"
  | inputs node before after => s!"Node '{node}': inputs {before.display} != {after.display}"
  | outputs node before after => s!"Node '{node}': outputs {before.display} != {after.display}"
  | edge id key => s!"Edge '{id}' {key.text} has no counterpart"

/-- What a comparison takes into account. -/
structure Comparison where
  /-- Start and end nodes are compared too. -/
  withTerminals : Bool := true
  /-- Edges that are not conditional are compared by kind. -/
  withEdgeKinds : Bool := false

namespace Workflow

/-! ## What is compared -/

/-- The name of a node that start and end nodes share with their sentinels. -/
def token (w : Workflow) (id : String) : String :=
  match w.nodes.reverse.find? fun n => n.id == id && n.isTerminal with
  | some n => if n.isStart then Spec.startSentinel else Spec.endSentinel
  | none => id

/-- What is compared of an edge of the workflow. -/
def edgeKey (settings : Settings) (c : Comparison) (w : Workflow) (e : Edge) : EdgeKey where
  source := w.token e.source
  target := w.token e.target
  kind := if c.withEdgeKinds || e.isConditional then e.kind else .plain
  condition := if e.isConditional then some (Spec.conditionOf settings e) else none

/-- The bindings of the ports of a node. A value of its own under the name of a setting does not
count, since it is read back as a setting. -/
def portBindings (n : Node) : Json :=
  .obj ((n.allInputs.entries.filter fun e =>
      !(e.2.binding = .literal && (settingKeys n.kind).contains e.1)).map
    fun e => (e.1, .str e.2.binding.name))

/-- The nodes that are compared, by id. -/
def comparedNodes (c : Comparison) (w : Workflow) : Table Node :=
  .ofList ((w.nodes.filter fun n => c.withTerminals || !n.isTerminal).map fun n => (n.id, n))

/-- The names of a table that another lacks, sorted. -/
def lackedBy {α : Type} (t u : Table α) : List String :=
  (t.names.filter fun name => !u.has name).mergeSort fun a b => a ≤ b

/-! ## Comparing -/

/-- A list of at most one difference. -/
def differenceIf (differs : Bool) (d : Difference) : List Difference :=
  if differs then [d] else []

/-- The differences between two nodes of one id, each among the nodes of its workflow. -/
def nodeDifferences (nodes restored : List Node) (a b : Node) : Attempt (List Difference) := do
  let before ← Spec.Node.ofNode nodes true a
  let after ← Spec.Node.ofNode restored true b
  let inputs (n : Spec.Node) : Json := .obj n.inputs.entries
  let outputs (n : Spec.Node) : Json := .obj n.outputs.entries
  pure (
    differenceIf (a.kind != b.kind) (.kind a.id a.kind b.kind) ++
    differenceIf (a.displayLabel != b.displayLabel) (.label a.id a.displayLabel b.displayLabel) ++
    differenceIf (!(portBindings a).same (portBindings b))
      (.bindings a.id (portBindings a) (portBindings b)) ++
    differenceIf (!(inputs before).same (inputs after))
      (.inputs a.id (inputs before) (inputs after)) ++
    differenceIf (!(outputs before).same (outputs after))
      (.outputs a.id (outputs before) (outputs after)))

/-- The differences between the nodes that both workflows have. -/
def commonDifferences (w restored : Workflow) (others : Table Node) :
    List (String × Node) → Attempt (List Difference)
  | [] => pure []
  | (id, n) :: rest => do
    let here ←
      match others.find? id with
      | some m => nodeDifferences w.nodes restored.nodes n m
      | none => pure []
    pure (here ++ (← commonDifferences w restored others rest))

/-- The edges that a restored workflow lacks. -/
def edgeDifferences (settings : Settings) (c : Comparison) (w restored : Workflow) :
    List Difference :=
  let kept := restored.edges.map (edgeKey settings c restored)
  (w.edges.filter fun e => !kept.contains (edgeKey settings c w e)).map fun e =>
    .edge e.id (edgeKey settings c w e)

/-- All differences of a restored workflow from what it was. -/
def differences (settings : Settings) (c : Comparison) (w restored : Workflow) :
    Attempt (List Difference) := do
  let before := comparedNodes c w
  let after := comparedNodes c restored
  let missing := lackedBy before after
  let unexpected := lackedBy after before
  let common ← commonDifferences w restored after before.entries
  pure (differenceIf (!missing.isEmpty) (.missing missing) ++
    differenceIf (!unexpected.isEmpty) (.unexpected unexpected) ++
    common ++ edgeDifferences settings c w restored)

/-- A restored workflow does not differ from what it was. -/
def isEquivalent (settings : Settings) (c : Comparison) (w restored : Workflow) : Attempt Bool := do
  pure (← differences settings c w restored).isEmpty

end Workflow

end WorkflowGraph
