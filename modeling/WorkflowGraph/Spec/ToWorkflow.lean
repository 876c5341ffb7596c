import WorkflowGraph.Port.Listing
import WorkflowGraph.Settings
import WorkflowGraph.Spec.Reader
import WorkflowGraph.Workflow.Basic

/-!
# Workflows of specs

A workflow is restored from a spec. Inputs are told apart into settings and ports, each target of a
group becomes an edge, and sentinels become the start and end nodes of the workflow. A sentinel for
which there is no node stays as it is. Nothing in a spec that could be read makes this fail.
-/

namespace WorkflowGraph.Spec

/-! ## Nodes -/

/-- The place that coordinates by name give. -/
def positionOf (coordinates : Table Float64) : Position :=
  let base : Position := {}
  ⟨(coordinates.find? "x").getD base.x, (coordinates.find? "y").getD base.y⟩

/-- The place of a node: its own, or else the one that is kept for its id. -/
def Node.place (n : Node) (positions : Table (Table Float64)) : Position :=
  let own := n.position.filter fun t => !t.entries.isEmpty
  ((own <|> positions.find? n.id).map positionOf).getD default

/-- The inputs of a node that are settings, as its configuration is made from; `null` if there are
none. -/
def Node.settings (n : Node) (kind : String) : Json :=
  match n.inputs.entries.filter fun e => isSetting kind e.1 e.2 with
  | [] => .null
  | settings =>
    let keys := ((NodeVariant.ofKind? kind).map NodeVariant.keys).getD []
    .obj (ofWireFields keys settings)

/-- The inputs of a node that are ports. -/
def Node.ports (n : Node) (kind : String) : Table Port :=
  .ofList ((n.inputs.entries.filter fun e => !isSetting kind e.1 e.2).map fun e =>
    (e.1, .ofWire e.2))

/-- The node that a node of a spec denotes. -/
def Node.restore (positions : Table (Table Float64)) (n : Node) : Logged WorkflowGraph.Node := do
  let kind := NodeKind.currentName n.type
  if (NodeKind.ofName? kind).isNone then
    Logged.warn .imports
      s!"Node '{n.id}' has unknown kind '{kind}', importing its ports unchanged"
  let outputs ← DataType.ofFields n.outputs.entries
  WorkflowGraph.Node.make n.id kind (n.place positions) (n.label.getD "") "" (n.settings kind)
    (n.ports kind) outputs

/-! ## Edges -/

/-- One target of a group, with its condition if it is a branch. -/
structure Arrow where
  /-- The target as the spec names it. -/
  target : String
  /-- The condition of a branch. -/
  condition : Option String
  deriving DecidableEq

/-- The targets of a group in order. A fallback to the end is none. -/
def Targets.arrows (t : Targets) : List Arrow :=
  ((t.nodes.getD []).map fun id => ⟨id, none⟩) ++
    ((t.branches.getD []).map fun b => ⟨b.node, some b.condition⟩) ++
    ((t.fallback.filter fun id => id != "" && id != endSentinel).toList.map fun id => ⟨id, none⟩)

/-- The kind of an edge before its details are known. -/
def Arrow.kind (a : Arrow) : EdgeKind :=
  if a.condition.isSome then .conditional else .plain

/-- The details fit an edge: the ends are the same, and both are conditional or neither is. -/
def EdgeDetail.fits (source : String) (a : Arrow) (d : EdgeDetail) : Bool :=
  d.source == source && d.target == a.target &&
    (d.kind == EdgeKind.conditional.name) == a.condition.isSome

/-- The first details that fit an edge, and those that are left. -/
def takeDetail (source : String) (a : Arrow) (details : List EdgeDetail) :
    Option EdgeDetail × List EdgeDetail :=
  (details.find? (EdgeDetail.fits source a), details.eraseP (EdgeDetail.fits source a))

/-- The kind of an edge whose details are known. Details may make a plain edge one of another kind
that is known. -/
def Arrow.kindWith (a : Arrow) (detail? : Option EdgeDetail) : EdgeKind :=
  if a.kind = .plain then ((detail?.bind fun d => EdgeKind.ofName? d.kind)).getD .plain else a.kind

/-- A name with the sentinel replaced by the id of the node it stands for. -/
def resolveSentinel (sentinel : String) (node? : Option String) (name : String) : String :=
  if name = sentinel then node?.getD name else name

/-- A warning if a sentinel stands for no node. -/
def warnOfSentinel (sentinel role : String) (node? : Option String) (name : String) :
    Logged Unit :=
  if name = sentinel && node?.isNone then
    Logged.warn .imports
      s!"Spec uses {sentinel} but the workflow has no {role} node; keeping the sentinel"
  else pure ()

/-- What the edges of a spec are restored with. -/
structure Terminals where
  /-- The id of the start node. -/
  start? : Option String
  /-- The id of the end node. -/
  finish? : Option String

/-- The edge that a target of a group denotes, the `index`-th of all, and the details left. -/
def Arrow.restore (settings : Settings) (terminals : Terminals) (source : String) (index : Nat)
    (details : List EdgeDetail) (a : Arrow) : Logged (Edge × List EdgeDetail) := do
  let id := s!"{settings.edgeIdPrefix}-{index}"
  warnOfSentinel endSentinel "end" terminals.finish? a.target
  let from_ := resolveSentinel startSentinel terminals.start? source
  let target := resolveSentinel endSentinel terminals.finish? a.target
  let (detail?, details) := takeDetail source a details
  let kind := a.kindWith detail?
  Logged.debug .imports s!"Created {kind.name} edge '{id}': {from_} -> {target}"
  let config := ((detail?.bind (·.config)).map Json.obj).getD .null
  let edge ← Edge.make id from_ target kind (detail?.bind (·.label)) a.condition config
    (detail?.any (·.animated)) ((detail?.map (·.style)).getD [])
  pure (edge, details)

/-- The edges of the targets of a group, counted from an index. -/
def restoreArrows (settings : Settings) (terminals : Terminals) (source : String) :
    (index : Nat) → (details : List EdgeDetail) → List Arrow →
    Logged (List Edge × List EdgeDetail)
  | _, details, [] => pure ([], details)
  | index, details, a :: rest => do
    let (edge, details) ← a.restore settings terminals source index details
    let (edges, details) ← restoreArrows settings terminals source (index + 1) details rest
    pure (edge :: edges, details)

/-- The edges of some groups, counted from an index. -/
def restoreGroups (settings : Settings) (terminals : Terminals) :
    (index : Nat) → (details : List EdgeDetail) → List Group → Logged (List Edge)
  | _, _, [] => pure []
  | index, details, g :: rest => do
    warnOfSentinel startSentinel "start" terminals.start? g.source
    let arrows := g.targets.arrows
    let (edges, details) ← restoreArrows settings terminals g.source index details arrows
    let more ← restoreGroups settings terminals (index + arrows.length) details rest
    pure (edges ++ more)

/-! ## Workflows -/

/-- The positions that a spec keeps. -/
def positions (spec : Spec) : Table (Table Float64) :=
  (spec.metadata.map (·.positions)).getD .empty

/-- The start and end nodes that a spec keeps besides its nodes. -/
def keptTerminals (spec : Spec) : List Node :=
  ((spec.metadata.map (·.terminals)).getD []).filter fun n => (spec.findNode? n.id).isNone

/-- All nodes of a spec: kept start nodes come first, other kept nodes last. -/
def restoreNodes (spec : Spec) : Logged (List WorkflowGraph.Node) := do
  let terminals ← Logged.mapList (Node.restore spec.positions) spec.keptTerminals
  let nodes ← Logged.mapList (Node.restore spec.positions) spec.nodes
  pure (terminals.filter (·.isStart) ++ nodes ++ terminals.filter (!·.isStart))

/-- The id of the workflow of a spec, if it tells one. -/
def workflowId? (spec : Spec) : Option String :=
  spec.id.filter (· ≠ "") <|> (spec.metadata.bind (·.workflowId)).filter (· ≠ "")

/-- The workflow that a spec denotes. -/
def toWorkflow (s : Surroundings) (settings : Settings) (spec : Spec) : Logged Workflow := do
  let nodes ← spec.restoreNodes
  let terminals : Terminals :=
    ⟨(nodes.find? (·.isStart)).map (·.id), (nodes.find? (·.isEnd)).map (·.id)⟩
  let edges ← restoreGroups settings terminals 1
    ((spec.metadata.map (·.edgeDetails)).getD []) spec.groups
  let id := spec.workflowId?.getD (s.freshId settings.importedWorkflowPrefix)
  Logged.debug .imports
    s!"Imported workflow '{id}': {nodes.length} node(s), {edges.length} edge(s)"
  pure {
    id
    name := spec.name
    description := spec.description.getD ""
    nodes
    edges
    createdAt := s.now
    updatedAt := s.now }

end WorkflowGraph.Spec

namespace WorkflowGraph

/-- The workflow of a document that is a spec. Settings that cannot be had are a fault before the
document is looked at. -/
def Workflow.ofSpecDocument (s : Surroundings) (settings : Except Fault Settings)
    (document : Json) : Attempt Workflow := do
  let settings ← Attempt.ofExcept settings
  let spec ← Attempt.ofExcept (Spec.ofDocument document)
  Attempt.ofLogged (spec.toWorkflow s settings)

end WorkflowGraph
