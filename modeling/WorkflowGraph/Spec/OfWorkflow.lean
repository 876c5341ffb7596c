import WorkflowGraph.Reference.Resolve
import WorkflowGraph.Settings
import WorkflowGraph.Spec.Writer
import WorkflowGraph.Workflow.Basic

/-!
# Specs of workflows

A workflow is compiled to a spec in one of three shapes. Edges are grouped by source, in the order
in which the sources first occur, the group of the start coming first. The targets of a group are
its conditional edges as branches and all others as plain targets; where branches stand beside a
single other edge, two of the shapes write that edge as the fallback.
-/

namespace WorkflowGraph

/-! ## Shapes -/

namespace Shape

/-- Start and end nodes are listed. -/
def keepsTerminals (shape : Shape) : Bool := shape = .simple

/-- Nodes carry their positions. -/
def keepsPositions (shape : Shape) : Bool := shape = .simple

/-- The only plain target beside branches is written as their fallback. -/
def collapsesFallback (shape : Shape) : Bool := shape ≠ .simple

/-- Branches without a plain target fall back to the end. -/
def requiresFallback (shape : Shape) : Bool := shape = .simple

/-- The spec carries metadata. -/
def keepsMetadata (shape : Shape) : Bool := shape = .enhanced

/-- The shape that is asked for; the configured one if none is. -/
def choose (settings : Settings) (asked : Json) : Except Fault Shape :=
  if asked.isVoid then .ok settings.defaultShape
  else
    match asked.text?.bind ofName? with
    | some shape => .ok shape
    | none => .error (.notAMember asked "ExportShape")

end Shape

namespace Spec

/-! ## Nodes -/

/-- Coordinates by name. -/
def coordinates (p : Position) : Table Float64 :=
  .ofList [("x", p.x), ("y", p.y)]

/-- The inputs of a node: its ports in effect, with references resolved, then the settings whose
names no port has. -/
def inputsOf (nodes : List WorkflowGraph.Node) (n : WorkflowGraph.Node) : Attempt (Table Json) := do
  let ports ← Attempt.mapList
    (fun e => do pure (e.1, ← Reference.resolve nodes e.2.toWire)) n.allInputs.entries
  let settings ← Attempt.ofExcept
    (storedIf (n.config.all NodeConfig.isStorable) ((n.config.map NodeConfig.wireInputs).getD []))
  pure ((Table.ofList ports).complete (Table.ofList settings))

/-- A node compiled among the nodes of its graph. -/
def Node.ofNode (nodes : List WorkflowGraph.Node) (withPosition : Bool) (n : WorkflowGraph.Node) :
    Attempt Node := do
  if n.kind?.isNone then
    Attempt.ofLogged (Logged.warn .exports
      s!"Node '{n.id}' has unknown kind '{n.kind}', exporting its ports unchanged")
  let inputs ← inputsOf nodes n
  pure {
    id := n.id
    type := n.kind
    label := some n.displayLabel
    inputs
    outputs := n.allOutputs.map fun _ type => .str type.name
    position := if withPosition then some (coordinates n.position) else none }

/-! ## Edges -/

/-- The ids of the end nodes. -/
def endIds (w : Workflow) : List String :=
  w.ends.map (·.id)

/-- A target as the spec names it: an end node is the sentinel of the end. -/
def targetId (ends : List String) (target : String) : String :=
  if ends.contains target then endSentinel else target

/-- The condition of an edge as the spec states it. -/
def conditionOf (settings : Settings) (e : Edge) : String :=
  match e.effectiveCondition with
  | some condition => if Text.isBlankText condition then settings.defaultCondition else condition
  | none => settings.defaultCondition

/-- The branches of a group of edges. -/
def branchesOf (settings : Settings) (ends : List String) (edges : List Edge) : List Branch :=
  (edges.filter (·.isConditional)).map fun e => ⟨conditionOf settings e, targetId ends e.target⟩

/-- The plain targets of a group of edges. -/
def plainTargetsOf (ends : List String) (edges : List Edge) : List String :=
  (edges.filter (!·.isConditional)).map fun e => targetId ends e.target

/-- The targets made of branches and plain targets. An end among the plain targets is never made the
fallback, since a fallback to the end is no edge. -/
def assemble (shape : Shape) (branches : List Branch) (plain : List String) : Targets :=
  if branches.isEmpty then { nodes := if plain.isEmpty then none else some plain }
  else
    match plain with
    | [] =>
      { branches := some branches
        fallback := if shape.requiresFallback then some endSentinel else none }
    | [only] =>
      if shape.collapsesFallback && only != endSentinel then
        { branches := some branches, fallback := some only }
      else { branches := some branches, nodes := some [only] }
    | plain => { branches := some branches, nodes := some plain }

/-- The targets of a group of edges. -/
def targetsOf (shape : Shape) (settings : Settings) (ends : List String) (edges : List Edge) :
    Targets :=
  assemble shape (branchesOf settings ends edges) (plainTargetsOf ends edges)

/-- The sources of the edges of a workflow, each once. -/
def sources (w : Workflow) : List String :=
  (w.edges.map (·.source)).eraseDups

/-- The id of the start node, if edges come from it. -/
def startSource? (w : Workflow) : Option String :=
  (w.start?.map (·.id)).filter (sources w).contains

/-- The edges of a source as a group under a name. -/
def groupOf (shape : Shape) (settings : Settings) (w : Workflow) (name source : String) : Group :=
  ⟨name, targetsOf shape settings (endIds w) (w.edgesFrom source)⟩

/-- The groups of all sources but the start. -/
def otherGroups (shape : Shape) (settings : Settings) (w : Workflow) : List Group :=
  ((sources w).filter fun s => some s != startSource? w).map fun s =>
    groupOf shape settings w s s

/-- The groups of a workflow: the group of the start, then all others that have targets. -/
def groupsOf (shape : Shape) (settings : Settings) (w : Workflow) : List Group :=
  ((startSource? w).map (groupOf shape settings w startSentinel)).toList ++
    (otherGroups shape settings w).filter (!·.targets.isEmpty)

/-- A record of each group that is left out for want of targets. -/
def noteOmitted (shape : Shape) (settings : Settings) (w : Workflow) : Logged (List Unit) :=
  Logged.mapList (fun g => Logged.debug .exports s!"Omitting empty edge group of '{g.source}'")
    ((otherGroups shape settings w).filter (·.targets.isEmpty))

/-! ## Metadata -/

/-- What is kept of an edge. -/
def EdgeDetail.ofEdge (start? : Option String) (ends : List String) (e : Edge) : EdgeDetail where
  source := if some e.source = start? then startSentinel else e.source
  target := targetId ends e.target
  kind := e.kind.name
  label := e.label
  config := e.config.map (·.toFields .document)
  animated := e.animated
  style := e.style

/-- What is kept of a workflow besides, at a time. -/
def Metadata.ofWorkflow (now : Timestamp) (w : Workflow) : Attempt Metadata := do
  let terminals ← Attempt.mapList (Node.ofNode w.nodes true) (w.nodes.filter (·.isTerminal))
  pure {
    exportedAt := some now.iso
    workflowId := some w.id
    positions := .ofList (w.nodes.map fun n => (n.id, coordinates n.position))
    terminals
    edgeDetails := w.edges.map (EdgeDetail.ofEdge (w.start?.map (·.id)) (endIds w)) }

/-! ## Workflows -/

/-- The nodes that are listed in a shape. -/
def listedNodes (shape : Shape) (w : Workflow) : List WorkflowGraph.Node :=
  w.nodes.filter fun n => shape.keepsTerminals || !n.isTerminal

/-- A warning if several nodes claim to be the start. -/
def warnOfStarts (w : Workflow) : Logged Unit :=
  match w.starts with
  | first :: _ :: _ =>
    Logged.warn .exports
      (s!"Workflow '{w.id}' has {w.starts.length} start nodes; only '{first.id}' " ++
        s!"is exported as {startSentinel}")
  | _ => pure ()

/-- A workflow compiled to a spec of a shape, at a time. -/
def ofWorkflow (now : Timestamp) (settings : Settings) (shape : Shape) (w : Workflow) :
    Attempt Spec := do
  let nodes ← Attempt.mapList (Node.ofNode w.nodes shape.keepsPositions) (listedNodes shape w)
  Attempt.ofLogged (warnOfStarts w)
  let _ ← Attempt.ofLogged (noteOmitted shape settings w)
  let groups := groupsOf shape settings w
  let metadata ←
    if shape.keepsMetadata then some <$> Metadata.ofWorkflow now w else pure none
  Attempt.ofLogged (Logged.debug .exports
    (s!"Exported workflow '{w.id}' as {shape.name} spec: {nodes.length} node(s), " ++
      s!"{groups.length} edge group(s)"))
  pure {
    version := settings.specVersion
    id := none
    name := w.name
    description := some w.description
    nodes
    groups
    metadata }

end Spec

/-- The document that is the spec of a workflow in a shape, at a time. -/
def Workflow.toSpecDocument (now : Timestamp) (settings : Settings) (shape : Shape)
    (w : Workflow) : Attempt Json := do
  let spec ← Spec.ofWorkflow now settings shape w
  Attempt.ofExcept spec.store

end WorkflowGraph
