import WorkflowGraph.Proofs.Reference.Resolve
import WorkflowGraph.Proofs.Table
import WorkflowGraph.Spec.OfWorkflow

/-!
# What a workflow is compiled to

`compiled` is the spec of a node or of a workflow, stated without the warnings and the ways to fail.
Main statement: `Workflow.result_toSpecDocument_eq_ok_iff`, when a workflow has a document, and what
it is.
-/

namespace WorkflowGraph

namespace Spec

/-! ## Nodes -/

/-- The inputs that a node is compiled to among some nodes. -/
def inputsAmong (nodes : List WorkflowGraph.Node) (n : WorkflowGraph.Node) : Table Json :=
  (n.allInputs.map fun _ port => Reference.resolved nodes port.toWire).complete
    (.ofList ((n.config.map NodeConfig.wireInputs).getD []))

/-- What a node is compiled to among some nodes. -/
def Node.compiled (nodes : List WorkflowGraph.Node) (withPosition : Bool) (n : WorkflowGraph.Node) :
    Node where
  id := n.id
  type := n.kind
  label := some n.displayLabel
  inputs := inputsAmong nodes n
  outputs := n.allOutputs.map fun _ type => .str type.name
  position := if withPosition then some (coordinates n.position) else none

/-- The node can be compiled among some nodes. -/
def isCompilable (nodes : List WorkflowGraph.Node) (n : WorkflowGraph.Node) : Bool :=
  (n.allInputs.entries.all fun e => Reference.isResolvable nodes e.2.toWire) &&
    n.config.all NodeConfig.isStorable

theorem result_inputsOf_eq_ok_iff {nodes : List WorkflowGraph.Node} {n : WorkflowGraph.Node}
    {inputs : Table Json} :
    (inputsOf nodes n).result = .ok inputs ↔
      isCompilable nodes n = true ∧ inputs = inputsAmong nodes n := by
  have hport : ∀ (e : String × Port) (b : String × Json),
      (do pure (e.1, ← Reference.resolve nodes e.2.toWire) : Attempt (String × Json)).result = .ok b ↔
        Reference.isResolvable nodes e.2.toWire = true ∧
          b = (e.1, Reference.resolved nodes e.2.toWire) := by
    intro e b
    simp only [Attempt.result_bind_eq_ok_iff, Reference.result_resolve_eq_ok_iff,
      Attempt.result_pure, Except.ok.injEq]
    constructor
    · rintro ⟨_, ⟨h, rfl⟩, rfl⟩
      exact ⟨h, rfl⟩
    · rintro ⟨h, rfl⟩
      exact ⟨_, ⟨h, rfl⟩, rfl⟩
  have htable : Table.ofList (n.allInputs.entries.map fun e =>
      (e.1, Reference.resolved nodes e.2.toWire)) =
        n.allInputs.map fun _ port => Reference.resolved nodes port.toWire :=
    Table.ofList_map_entries n.allInputs fun _ port => Reference.resolved nodes port.toWire
  simp only [inputsOf, Attempt.result_bind_eq_ok_iff, Attempt.result_mapList_eq_ok_iff hport,
    Attempt.result_ofExcept, storedIf_eq_ok_iff, Attempt.result_pure, Except.ok.injEq,
    isCompilable, Bool.and_eq_true]
  constructor
  · rintro ⟨_, ⟨hports, rfl⟩, _, ⟨hconfig, rfl⟩, rfl⟩
    exact ⟨⟨hports, hconfig⟩, by rw [htable, inputsAmong]⟩
  · rintro ⟨⟨hports, hconfig⟩, rfl⟩
    exact ⟨_, ⟨hports, rfl⟩, _, ⟨hconfig, rfl⟩, by rw [htable, inputsAmong]⟩

/-- A node that can be compiled is compiled to what `compiled` says. -/
theorem Node.result_ofNode_eq_ok_iff {nodes : List WorkflowGraph.Node} {withPosition : Bool}
    {n : WorkflowGraph.Node} {m : Node} :
    (Node.ofNode nodes withPosition n).result = .ok m ↔
      isCompilable nodes n = true ∧ m = Node.compiled nodes withPosition n := by
  have hinputs : (do
      let inputs ← inputsOf nodes n
      pure { Node.compiled nodes withPosition n with inputs } : Attempt Node).result = .ok m ↔
        isCompilable nodes n = true ∧ m = Node.compiled nodes withPosition n := by
    simp only [Attempt.result_bind_eq_ok_iff, result_inputsOf_eq_ok_iff, Attempt.result_pure,
      Except.ok.injEq]
    constructor
    · rintro ⟨_, ⟨h, rfl⟩, rfl⟩
      exact ⟨h, rfl⟩
    · rintro ⟨h, rfl⟩
      exact ⟨_, ⟨h, rfl⟩, rfl⟩
  rw [← hinputs, ofNode]
  split
  · rw [Attempt.result_bind_eq_ok_iff]
    constructor
    · rintro ⟨_, -, h⟩
      exact h
    · exact fun h => ⟨_, rfl, h⟩
  · rfl

/-! ## Metadata -/

/-- What is kept of a workflow besides its spec, at a time. -/
def Metadata.compiled (now : Timestamp) (w : Workflow) : Metadata where
  exportedAt := some now.iso
  workflowId := some w.id
  positions := .ofList (w.nodes.map fun n => (n.id, coordinates n.position))
  terminals := (w.nodes.filter (·.isTerminal)).map (Node.compiled w.nodes true)
  edgeDetails := w.edges.map (EdgeDetail.ofEdge (w.start?.map (·.id)) (endIds w))

theorem Metadata.result_ofWorkflow_eq_ok_iff {now : Timestamp} {w : Workflow} {m : Metadata} :
    (Metadata.ofWorkflow now w).result = .ok m ↔
      (w.nodes.filter (·.isTerminal)).all (isCompilable w.nodes) = true ∧
        m = Metadata.compiled now w := by
  simp only [Metadata.ofWorkflow, Attempt.result_bind_eq_ok_iff,
    Attempt.result_mapList_eq_ok_iff fun _ _ => Node.result_ofNode_eq_ok_iff, Attempt.result_pure,
    Except.ok.injEq]
  constructor
  · rintro ⟨_, ⟨h, rfl⟩, rfl⟩
    exact ⟨h, rfl⟩
  · rintro ⟨h, rfl⟩
    exact ⟨_, ⟨h, rfl⟩, rfl⟩

end Spec

/-! ## Workflows -/

namespace Workflow

/-- The spec of a workflow in a shape, at a time. -/
def compiled (now : Timestamp) (settings : Settings) (shape : Shape) (w : Workflow) : Spec where
  version := settings.specVersion
  id := none
  name := w.name
  description := some w.description
  nodes := (Spec.listedNodes shape w).map (Spec.Node.compiled w.nodes shape.keepsPositions)
  groups := Spec.groupsOf shape settings w
  metadata := if shape.keepsMetadata then some (Spec.Metadata.compiled now w) else none

/-- All nodes that a spec of the shape tells of can be compiled. -/
def isCompilable (shape : Shape) (w : Workflow) : Bool :=
  (Spec.listedNodes shape w).all (Spec.isCompilable w.nodes) &&
    (!shape.keepsMetadata || (w.nodes.filter (·.isTerminal)).all (Spec.isCompilable w.nodes))

theorem isCompilable_of_mem {shape : Shape} {w : Workflow} (h : w.isCompilable shape = true)
    {n : Node} (hn : n ∈ Spec.listedNodes shape w) : Spec.isCompilable w.nodes n = true := by
  rw [isCompilable, Bool.and_eq_true, List.all_eq_true] at h
  exact h.1 n hn

theorem isCompilable_of_forall {w : Workflow} (h : ∀ n ∈ w.nodes, Spec.isCompilable w.nodes n = true)
    (shape : Shape) : w.isCompilable shape = true := by
  rw [isCompilable, Bool.and_eq_true, Bool.or_eq_true, List.all_eq_true, List.all_eq_true]
  exact ⟨fun n hn => h n (List.mem_filter.1 hn).1, Or.inr fun n hn => h n (List.mem_filter.1 hn).1⟩

/-- A workflow is compiled exactly if its nodes are, and then to what `compiled` says. -/
theorem result_ofWorkflow_eq_ok_iff {now : Timestamp} {settings : Settings} {shape : Shape}
    {w : Workflow} {spec : Spec} :
    (Spec.ofWorkflow now settings shape w).result = .ok spec ↔
      w.isCompilable shape = true ∧ spec = w.compiled now settings shape := by
  simp only [Spec.ofWorkflow, Attempt.result_bind_eq_ok_iff, Attempt.result_ofLogged,
    Attempt.result_mapList_eq_ok_iff fun _ _ => Spec.Node.result_ofNode_eq_ok_iff, isCompilable,
    compiled]
  cases shape.keepsMetadata with
  | false =>
    simp only [Bool.false_eq_true, ite_false, Attempt.result_bind_eq_ok_iff, Attempt.result_pure,
      Attempt.result_ofLogged, Except.ok.injEq, Bool.not_false, Bool.true_or, Bool.and_true]
    constructor
    · rintro ⟨_, ⟨hnodes, rfl⟩, _, -, _, -, _, rfl, _, -, rfl⟩
      exact ⟨hnodes, rfl⟩
    · rintro ⟨hnodes, rfl⟩
      exact ⟨_, ⟨hnodes, rfl⟩, (), trivial, _, rfl, _, rfl, (), trivial, rfl⟩
  | true =>
    simp only [ite_true, Attempt.result_bind_eq_ok_iff, Attempt.result_map_eq_ok_iff,
      Attempt.result_pure, Attempt.result_ofLogged, Except.ok.injEq, Bool.not_true, Bool.false_or,
      Bool.and_eq_true, Spec.Metadata.result_ofWorkflow_eq_ok_iff]
    constructor
    · rintro ⟨_, ⟨hnodes, rfl⟩, _, -, _, -, _, ⟨_, ⟨hterminals, rfl⟩, rfl⟩, _, -, rfl⟩
      exact ⟨⟨hnodes, hterminals⟩, rfl⟩
    · rintro ⟨⟨hnodes, hterminals⟩, rfl⟩
      exact ⟨_, ⟨hnodes, rfl⟩, (), trivial, _, rfl, _, ⟨_, ⟨hterminals, rfl⟩, rfl⟩, (), trivial, rfl⟩

/-- A workflow has a document exactly if its nodes are compiled and none of its values is nested too
deep; the document is that of the compiled spec. -/
theorem result_toSpecDocument_eq_ok_iff {now : Timestamp} {settings : Settings} {shape : Shape}
    {w : Workflow} {document : Json} :
    (w.toSpecDocument now settings shape).result = .ok document ↔
      w.isCompilable shape = true ∧ (w.compiled now settings shape).isStorable = true ∧
        document = (w.compiled now settings shape).toJson := by
  simp only [toSpecDocument, Attempt.result_bind_eq_ok_iff, result_ofWorkflow_eq_ok_iff,
    Attempt.result_ofExcept, Spec.store, storedIf_eq_ok_iff]
  constructor
  · rintro ⟨_, ⟨hnodes, rfl⟩, hstorable, rfl⟩
    exact ⟨hnodes, hstorable, rfl⟩
  · rintro ⟨hnodes, hstorable, rfl⟩
    exact ⟨_, ⟨hnodes, rfl⟩, hstorable, rfl⟩

/-- If its nodes are compiled, a workflow has a document but for values that are nested too deep. -/
theorem result_toSpecDocument_of_isCompilable {now : Timestamp} {settings : Settings} {shape : Shape}
    {w : Workflow} (h : w.isCompilable shape = true) :
    (w.toSpecDocument now settings shape).result = (w.compiled now settings shape).store := by
  have hcompiled : (Spec.ofWorkflow now settings shape w).result =
      .ok (w.compiled now settings shape) := result_ofWorkflow_eq_ok_iff.2 ⟨h, rfl⟩
  rw [toSpecDocument, Attempt.result_bind, hcompiled]
  exact Attempt.result_ofExcept _

end Workflow

end WorkflowGraph
