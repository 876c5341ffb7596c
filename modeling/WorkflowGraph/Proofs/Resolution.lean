import Mathlib.Data.List.Forall2
import WorkflowGraph.Proofs.Reference.SameOutputs
import WorkflowGraph.Proofs.RoundTrip
import WorkflowGraph.Workflow.Check
import WorkflowGraph.Workflow.Edit

/-!
# Resolving all references of a workflow

References are resolved once, when a workflow is read. Nothing that reads the workflow afterwards can
tell: resolving again changes nothing, the same references are unresolved, the problems are the same,
and so is the spec in every shape, whose references are resolved once more when it is made. Main
statement: `resolveReferences_faithful`.
-/

namespace WorkflowGraph

/-! ## Ports -/

namespace Reference

variable {nodes : List Node} {p q : Port}

/-- The number of the reference that a port is bound to is read, or need not be. -/
def isResolvablePort (nodes : List Node) (p : Port) : Bool :=
  p.binding ≠ .connection || isResolvable nodes p.value

/-- The port that a port is made by resolving. -/
def resolvedPort (nodes : List Node) (p : Port) : Port :=
  if p.binding = .connection then p.withReference (resolved nodes p.value) else p

theorem result_resolvePort_eq_ok_iff :
    (resolvePort nodes p).result = .ok q ↔
      isResolvablePort nodes p = true ∧ q = resolvedPort nodes p := by
  unfold resolvePort isResolvablePort resolvedPort
  by_cases hp : p.binding = .connection
  · simp only [hp, ite_true, Attempt.result_map_eq_ok_iff, result_resolve_eq_ok_iff, ne_eq,
      not_true_eq_false, decide_false, Bool.false_or]
    constructor
    · rintro ⟨_, ⟨h, rfl⟩, rfl⟩
      exact ⟨h, rfl⟩
    · rintro ⟨h, rfl⟩
      exact ⟨_, ⟨h, rfl⟩, rfl⟩
  · simp [hp, eq_comm]

theorem result_resolveEntries_eq_ok_iff {κ : Type} {ports others : List (κ × Port)} :
    (resolveEntries nodes ports).result = .ok others ↔
      (ports.all fun e => isResolvablePort nodes e.2) = true ∧
        others = ports.map fun e => (e.1, resolvedPort nodes e.2) := by
  induction ports generalizing others with
  | nil => simp [resolveEntries, eq_comm]
  | cons e ports ih =>
    simp only [resolveEntries, Attempt.result_bind_eq_ok_iff, result_resolvePort_eq_ok_iff, ih,
      Attempt.result_pure, Except.ok.injEq, List.all_cons, Bool.and_eq_true, List.map_cons]
    constructor
    · rintro ⟨_, ⟨hp, rfl⟩, _, ⟨hall, rfl⟩, rfl⟩
      exact ⟨⟨hp, hall⟩, rfl⟩
    · rintro ⟨⟨hp, hall⟩, rfl⟩
      exact ⟨_, ⟨hp, rfl⟩, _, ⟨hall, rfl⟩, rfl⟩

theorem resolvedPort_of_binding_ne (h : p.binding ≠ .connection) : resolvedPort nodes p = p :=
  if_neg h

@[simp] theorem binding_resolvedPort (nodes : List Node) (p : Port) :
    (resolvedPort nodes p).binding = p.binding := by
  unfold resolvedPort
  split <;> rfl

@[simp] theorem dataType_resolvedPort (nodes : List Node) (p : Port) :
    (resolvedPort nodes p).dataType = p.dataType := by
  unfold resolvedPort
  split <;> rfl

theorem value_resolvedPort (h : p.binding = .connection) :
    (resolvedPort nodes p).value = resolved nodes p.value := by
  rw [resolvedPort, if_pos h]
  rfl

@[simp] theorem referenceHead?_resolvedPort (nodes : List Node) (p : Port) :
    (resolvedPort nodes p).value.referenceHead? = p.value.referenceHead? := by
  by_cases hp : p.binding = .connection
  · rw [value_resolvedPort hp, referenceHead?_resolved]
  · rw [resolvedPort_of_binding_ne hp]

theorem problems_resolvedPort (name : String) (nodes : List Node) (p : Port) :
    Port.problems name (resolvedPort nodes p) = Port.problems name p := by
  rw [Port.problems, binding_resolvedPort, dataType_resolvedPort, Port.problems]

/-- What a port was made by resolving is written to a spec as the port is. -/
theorem resolve_toWire_resolvedPort (hnames : HaveReadableNames nodes)
    (hp : isResolvablePort nodes p = true) :
    resolve nodes (resolvedPort nodes p).toWire = resolve nodes p.toWire := by
  by_cases hconnection : p.binding = .connection
  · have hwire : p.toWire = p.value := by simp [Port.toWire, Port.isUnset, hconnection]
    have hresolved : (resolvedPort nodes p).toWire = resolved nodes p.value := by
      rw [Port.toWire, Port.isUnset, binding_resolvedPort, value_resolvedPort hconnection]
      simp [hconnection]
    rw [hwire, hresolved, resolve_resolved hnames]
    simpa [isResolvablePort, hconnection] using hp
  · rw [resolvedPort_of_binding_ne hconnection]

end Reference

/-! ## Nodes -/

namespace Node

/-- The node with the references of its ports resolved among some nodes. -/
def resolved (nodes : List Node) (n : Node) : Node :=
  { n with inputs := n.inputs.map fun _ p => Reference.resolvedPort nodes p }

/-- The references of the node can be resolved among some nodes. -/
def isResolvable (nodes : List Node) (n : Node) : Bool :=
  n.inputs.entries.all fun e => Reference.isResolvablePort nodes e.2

variable (nodes : List Node) (n : Node)

@[simp] theorem id_resolved : (n.resolved nodes).id = n.id := rfl

@[simp] theorem isStart_resolved : (n.resolved nodes).isStart = n.isStart := rfl

@[simp] theorem isEnd_resolved : (n.resolved nodes).isEnd = n.isEnd := rfl

@[simp] theorem isTerminal_resolved : (n.resolved nodes).isTerminal = n.isTerminal := rfl

@[simp] theorem position_resolved : (n.resolved nodes).position = n.position := rfl

@[simp] theorem outputNames_resolved : (n.resolved nodes).outputNames = n.outputNames := rfl

/-- No default port has a reference to resolve. -/
theorem allInputs_resolved : (n.resolved nodes).allInputs =
    n.allInputs.map fun _ p => Reference.resolvedPort nodes p := by
  have hdefault : (defaultInputs n.kind).map (fun _ p => Reference.resolvedPort nodes p) =
      defaultInputs n.kind :=
    Table.map_eq_self fun e he =>
      Reference.resolvedPort_of_binding_ne (binding_defaultInputs n.kind e he)
  have hall := Table.override_map (defaultInputs n.kind) n.inputs (Reference.resolvedPort nodes)
  rw [hdefault] at hall
  exact hall

theorem isResolvablePort_of_mem_allInputs {nodes : List Node} {n : Node}
    (h : n.isResolvable nodes = true) {e : String × Port} (he : e ∈ n.allInputs.entries) :
    Reference.isResolvablePort nodes e.2 = true := by
  rcases Table.mem_override he with he | ⟨he, -⟩
  · exact List.all_eq_true.1 h e he
  · simp [Reference.isResolvablePort, binding_defaultInputs n.kind e he]

theorem problems_resolved : (n.resolved nodes).problems = n.problems := by
  simp only [problems, resolved, Table.entries_map, List.flatMap_map,
    Reference.problems_resolvedPort]

end Node

/-! ## Workflows -/

namespace Workflow

theorem result_resolvedNode_eq_ok_iff {nodes : List Node} {n m : Node} :
    (resolvedNode nodes n).result = .ok m ↔ n.isResolvable nodes = true ∧ m = n.resolved nodes := by
  have htable := Table.ofList_map_entries n.inputs fun _ p => Reference.resolvedPort nodes p
  simp only [resolvedNode, Attempt.result_bind_eq_ok_iff,
    Reference.result_resolveEntries_eq_ok_iff, Attempt.result_pure, Except.ok.injEq]
  constructor
  · rintro ⟨_, ⟨h, rfl⟩, rfl⟩
    exact ⟨h, by rw [htable]; rfl⟩
  · rintro ⟨h, rfl⟩
    exact ⟨_, ⟨h, rfl⟩, by rw [htable]; rfl⟩

/-- The workflow with all its references resolved, if they can be. -/
def resolved (w : Workflow) : Workflow :=
  { w with nodes := w.nodes.map (Node.resolved w.nodes) }

/-- The references of a workflow are resolved exactly if the number of each is read. -/
theorem result_resolveReferences_eq_ok_iff {w r : Workflow} :
    w.resolveReferences.result = .ok r ↔
      w.nodes.all (Node.isResolvable w.nodes) = true ∧ r = w.resolved := by
  simp only [resolveReferences, Attempt.result_bind_eq_ok_iff,
    Attempt.result_mapList_eq_ok_iff fun _ _ => result_resolvedNode_eq_ok_iff, Attempt.result_pure,
    Except.ok.injEq]
  constructor
  · rintro ⟨_, ⟨h, rfl⟩, rfl⟩
    exact ⟨h, rfl⟩
  · rintro ⟨h, rfl⟩
    exact ⟨_, ⟨h, rfl⟩, rfl⟩

variable {w : Workflow}

theorem haveSameOutputs_resolved (w : Workflow) :
    Reference.HaveSameOutputs w.resolved.nodes w.nodes :=
  Reference.haveSameOutputs_map (Node.id_resolved w.nodes) (Node.outputNames_resolved w.nodes) w.nodes

theorem nodeIds_resolved (w : Workflow) : w.resolved.nodeIds = w.nodeIds := by
  rw [nodeIds, resolved, List.map_map]
  rfl

/-! ## Resolving again -/

theorem isResolvable_nodes_resolved (hnames : Reference.HaveReadableNames w.nodes)
    (h : w.nodes.all (Node.isResolvable w.nodes) = true) :
    w.resolved.nodes.all (Node.isResolvable w.resolved.nodes) = true := by
  have hout := (haveSameOutputs_resolved w).haveOutputsOf
  simp only [resolved, List.all_map, List.all_eq_true, Function.comp_apply, Node.isResolvable,
    Node.resolved, Table.entries_map] at h ⊢
  intro n hn e he
  have hport := h n hn e he
  unfold Reference.isResolvablePort at hport ⊢
  rw [Reference.binding_resolvedPort]
  by_cases hconnection : e.2.binding = .connection
  · rw [Reference.value_resolvedPort hconnection]
    simp only [hconnection, ne_eq, not_true_eq_false, decide_false, Bool.false_or] at hport ⊢
    exact Reference.isResolvable_resolved hout hnames hport
  · simp [hconnection]

theorem resolvedPort_resolvedPort (hnames : Reference.HaveReadableNames w.nodes) (p : Port) :
    Reference.resolvedPort w.resolved.nodes (Reference.resolvedPort w.nodes p) =
      Reference.resolvedPort w.nodes p := by
  by_cases hp : p.binding = .connection
  · have hvalue := Reference.resolved_resolved (haveSameOutputs_resolved w).haveOutputsOf hnames p.value
    simp only [Reference.resolvedPort, hp, ite_true, Port.withReference, hvalue]
  · rw [Reference.resolvedPort_of_binding_ne hp, Reference.resolvedPort_of_binding_ne hp]

theorem resolved_resolved (hnames : Reference.HaveReadableNames w.nodes) :
    w.resolved.resolved = w.resolved := by
  have hnode : ∀ n : Node, (n.resolved w.nodes).resolved w.resolved.nodes = n.resolved w.nodes := by
    intro n
    have hinputs : ((n.inputs.map fun _ p => Reference.resolvedPort w.nodes p).map
        fun _ p => Reference.resolvedPort w.resolved.nodes p) =
          n.inputs.map fun _ p => Reference.resolvedPort w.nodes p := by
      rw [Table.map_map]
      exact Table.map_congr fun e _ => resolvedPort_resolvedPort hnames e.2
    simp only [Node.resolved, hinputs]
  have hnodes : w.resolved.nodes.map (Node.resolved w.resolved.nodes) = w.resolved.nodes := by
    conv_rhs => rw [resolved]
    conv_lhs => rw [resolved]
    simp only [List.map_map, Function.comp_def]
    exact List.map_congr_left fun n _ => hnode n
  rw [resolved, hnodes]

/-! ## What is read of the resolved workflow -/

theorem unresolved_resolved (w : Workflow) : w.resolved.unresolved = w.unresolved := by
  have hids : w.resolved.nodes.map (·.id) = w.nodes.map (·.id) := nodeIds_resolved w
  have hforeign : ∀ p : Port, Reference.isForeign w.resolved.nodes
      (Reference.resolvedPort w.nodes p).value = Reference.isForeign w.nodes p.value := fun p =>
    Reference.isForeign_congr hids (Reference.referenceHead?_resolvedPort w.nodes p)
  have hports : ∀ ports : List (String × Port),
      Reference.unresolved w.resolved.nodes
        (ports.map fun e => (e.1, Reference.resolvedPort w.nodes e.2)) =
          Reference.unresolved w.nodes ports := by
    intro ports
    simp only [Reference.unresolved, List.filter_map, List.map_map, Function.comp_def,
      Reference.binding_resolvedPort, hforeign]
    -- what refers to none of the nodes is not resolved
    refine List.map_congr_left fun e he => ?_
    have he := (List.mem_filter.1 he).2
    rw [Bool.and_eq_true, decide_eq_true_eq, Bool.not_eq_true'] at he
    rw [Reference.value_resolvedPort he.1, Reference.resolved_of_isForeign_eq_false he.2]
  have hnodes : w.resolved.unresolved = w.nodes.flatMap fun n =>
      (Reference.unresolved w.resolved.nodes (n.resolved w.nodes).inputs.entries).map
        fun e => (n.id, e.1, e.2) := by
    conv_lhs => rw [unresolved, resolved, List.flatMap_map]
    rfl
  rw [hnodes, unresolved]
  simp only [Node.resolved, Table.entries_map, hports]

theorem nodeProblems_map {f : Node → Node} (hid : ∀ n, (f n).id = n.id)
    (hproblems : ∀ n, (f n).problems = n.problems) (seen : List String) (nodes : List Node) :
    nodeProblems seen (nodes.map f) = nodeProblems seen nodes := by
  induction nodes generalizing seen with
  | nil => rfl
  | cons n nodes ih => rw [List.map_cons, nodeProblems, hid, hproblems, ih, nodeProblems]

theorem starts_resolved (w : Workflow) :
    w.resolved.starts = w.starts.map (Node.resolved w.nodes) := by
  simp only [starts, resolved, List.filter_map, Function.comp_def, Node.isStart_resolved]

theorem ends_resolved (w : Workflow) : w.resolved.ends = w.ends.map (Node.resolved w.nodes) := by
  simp only [ends, resolved, List.filter_map, Function.comp_def, Node.isEnd_resolved]

theorem problems_resolved (w : Workflow) : w.resolved.problems = w.problems := by
  have hnodes : nodeProblems [] w.resolved.nodes = nodeProblems [] w.nodes :=
    nodeProblems_map (Node.id_resolved w.nodes) (Node.problems_resolved w.nodes) [] w.nodes
  have hterminals : w.resolved.terminalProblems = w.terminalProblems := by
    rw [terminalProblems, starts_resolved, ends_resolved, List.length_map, List.length_map,
      terminalProblems]
  rw [problems, hnodes, hterminals, nodeIds_resolved, problems]
  rfl

/-! ## The spec of the resolved workflow -/

theorem inputsOf_resolved (hnames : Reference.HaveReadableNames w.nodes) {n : Node}
    (hn : n.isResolvable w.nodes = true) :
    Spec.inputsOf w.resolved.nodes (n.resolved w.nodes) = Spec.inputsOf w.nodes n := by
  have hwire : ∀ e ∈ n.allInputs.entries,
      Reference.resolve w.resolved.nodes (Reference.resolvedPort w.nodes e.2).toWire =
        Reference.resolve w.nodes e.2.toWire := by
    intro e he
    rw [Reference.resolve_congr (haveSameOutputs_resolved w)]
    exact Reference.resolve_toWire_resolvedPort hnames
      (Node.isResolvablePort_of_mem_allInputs hn he)
  have hports : Attempt.mapList
      (fun e => do pure (e.1, ← Reference.resolve w.resolved.nodes e.2.toWire))
        (n.resolved w.nodes).allInputs.entries =
      Attempt.mapList (fun e => do pure (e.1, ← Reference.resolve w.nodes e.2.toWire))
        n.allInputs.entries := by
    rw [Node.allInputs_resolved, Table.entries_map, Attempt.mapList_map]
    exact Attempt.mapList_congr fun e he => by rw [hwire e he]
  rw [Spec.inputsOf, hports]
  rfl

theorem ofNode_resolved (hnames : Reference.HaveReadableNames w.nodes) {n : Node}
    (hn : n.isResolvable w.nodes = true) (withPosition : Bool) :
    Spec.Node.ofNode w.resolved.nodes withPosition (n.resolved w.nodes) =
      Spec.Node.ofNode w.nodes withPosition n := by
  rw [Spec.Node.ofNode, inputsOf_resolved hnames hn]
  rfl

/-- The nodes that pass a filter are compiled after the references are resolved as before. -/
theorem mapList_ofNode_resolved (hnames : Reference.HaveReadableNames w.nodes)
    (h : w.nodes.all (Node.isResolvable w.nodes) = true) {p : Node → Bool}
    (hp : ∀ n : Node, p (n.resolved w.nodes) = p n) (withPosition : Bool) :
    Attempt.mapList (Spec.Node.ofNode w.resolved.nodes withPosition) (w.resolved.nodes.filter p) =
      Attempt.mapList (Spec.Node.ofNode w.nodes withPosition) (w.nodes.filter p) := by
  have hfilter : w.resolved.nodes.filter p = (w.nodes.filter p).map (Node.resolved w.nodes) := by
    simp only [resolved, List.filter_map, Function.comp_def, hp]
  rw [hfilter, Attempt.mapList_map]
  exact Attempt.mapList_congr fun n hn =>
    ofNode_resolved hnames (List.all_eq_true.1 h n (List.mem_filter.1 hn).1) withPosition

theorem startId?_resolved (w : Workflow) :
    w.resolved.start?.map (·.id) = w.start?.map (·.id) := by
  rw [start?, starts_resolved, List.head?_map, Option.map_map, start?]
  rfl

theorem endIds_resolved (w : Workflow) : Spec.endIds w.resolved = Spec.endIds w := by
  rw [Spec.endIds, ends_resolved, List.map_map, Spec.endIds]
  rfl

theorem groupOf_resolved (shape : Shape) (settings : Settings) (w : Workflow) :
    Spec.groupOf shape settings w.resolved = Spec.groupOf shape settings w := by
  funext name source
  rw [Spec.groupOf, endIds_resolved]
  rfl

theorem warnOfStarts_resolved (w : Workflow) :
    Spec.warnOfStarts w.resolved = Spec.warnOfStarts w := by
  unfold Spec.warnOfStarts
  rw [starts_resolved]
  match w.starts with
  | [] | [_] => rfl
  | first :: second :: rest => simp only [List.map_cons, List.length_cons, List.length_map]; rfl

theorem ofWorkflow_metadata_resolved (hnames : Reference.HaveReadableNames w.nodes)
    (h : w.nodes.all (Node.isResolvable w.nodes) = true) (now : Timestamp) :
    Spec.Metadata.ofWorkflow now w.resolved = Spec.Metadata.ofWorkflow now w := by
  have hpositions : w.resolved.nodes.map (fun n => (n.id, Spec.coordinates n.position)) =
      w.nodes.map fun n => (n.id, Spec.coordinates n.position) := by
    rw [resolved, List.map_map]
    rfl
  rw [Spec.Metadata.ofWorkflow, mapList_ofNode_resolved hnames h (Node.isTerminal_resolved w.nodes),
    hpositions, startId?_resolved, endIds_resolved]
  rfl

/-- A workflow is compiled after its references are resolved as before, with the same warnings. -/
theorem ofWorkflow_resolved (hnames : Reference.HaveReadableNames w.nodes)
    (h : w.nodes.all (Node.isResolvable w.nodes) = true) (now : Timestamp) (settings : Settings)
    (shape : Shape) :
    Spec.ofWorkflow now settings shape w.resolved = Spec.ofWorkflow now settings shape w := by
  have hlisted := mapList_ofNode_resolved hnames h
    (p := fun n => shape.keepsTerminals || !n.isTerminal)
    (fun n => by rw [Node.isTerminal_resolved]) shape.keepsPositions
  have hstart : Spec.startSource? w.resolved = Spec.startSource? w := by
    rw [Spec.startSource?, startId?_resolved]
    rfl
  have hothers : Spec.otherGroups shape settings w.resolved = Spec.otherGroups shape settings w := by
    rw [Spec.otherGroups, hstart, groupOf_resolved]
    rfl
  have hgroups : Spec.groupsOf shape settings w.resolved = Spec.groupsOf shape settings w := by
    rw [Spec.groupsOf, hstart, hothers, groupOf_resolved, Spec.groupsOf]
  rw [Spec.ofWorkflow, Spec.listedNodes, hlisted, warnOfStarts_resolved, Spec.noteOmitted, hothers,
    hgroups, ofWorkflow_metadata_resolved hnames h]
  rfl

/-! ## Resolving once -/

end Workflow

/-- One port differs from another in the reference that both are bound to, if at all, and not in the
head of it. -/
structure Port.SameButReference (p q : Port) : Prop where
  binding_eq : q.binding = p.binding
  dataType_eq : q.dataType = p.dataType
  head_eq : q.value.referenceHead? = p.value.referenceHead?
  /-- What is not bound to an output of a node is the same. -/
  value_eq : p.binding ≠ .connection → q.value = p.value

/-- One node differs from another in references of its ports only. -/
structure Node.SameButReferences (n m : Node) : Prop where
  rest_eq : m = { n with inputs := m.inputs }
  inputs_same : List.Forall₂ (fun e f => f.1 = e.1 ∧ e.2.SameButReference f.2)
    n.inputs.entries m.inputs.entries

/-- One workflow differs from another in references of ports only. -/
structure Workflow.SameButReferences (w r : Workflow) : Prop where
  rest_eq : r = { w with nodes := r.nodes }
  nodes_same : List.Forall₂ Node.SameButReferences w.nodes r.nodes

theorem Port.sameButReference_resolvedPort (nodes : List Node) (p : Port) :
    p.SameButReference (Reference.resolvedPort nodes p) where
  binding_eq := Reference.binding_resolvedPort nodes p
  dataType_eq := Reference.dataType_resolvedPort nodes p
  head_eq := Reference.referenceHead?_resolvedPort nodes p
  value_eq h := by rw [Reference.resolvedPort_of_binding_ne h]

theorem Node.sameButReferences_resolved (nodes : List Node) (n : Node) :
    n.SameButReferences (n.resolved nodes) where
  rest_eq := rfl
  inputs_same := List.forall₂_map_right_iff.2 (List.forall₂_same.2 fun e _ =>
    ⟨rfl, Port.sameButReference_resolvedPort nodes e.2⟩)

namespace Workflow

theorem sameButReferences_resolved (w : Workflow) : w.SameButReferences w.resolved where
  rest_eq := rfl
  nodes_same := List.forall₂_map_right_iff.2 (List.forall₂_same.2 fun n _ =>
    Node.sameButReferences_resolved w.nodes n)

variable {w : Workflow}

/-- Where no output has a name that is read as a place with a line break and no place has too many
digits, the references of a workflow are resolved, which changes references only and not their heads.
It is done once: resolving again gives the same workflow, and neither what is unresolved, nor the
problems, nor the document in any shape is another than before. -/
theorem resolveReferences_faithful (hnames : Reference.HaveReadableNames w.nodes)
    (hplaces : ∀ n ∈ w.nodes, ∀ e ∈ n.inputs.entries,
      e.2.binding = .connection → Reference.isReadable e.2.value = true) :
    ∃ r, w.resolveReferences.result = .ok r ∧ w.SameButReferences r ∧
      r.resolveReferences.result = .ok r ∧ r.unresolved = w.unresolved ∧ r.problems = w.problems ∧
      ∀ now settings shape,
        r.toSpecDocument now settings shape = w.toSpecDocument now settings shape := by
  have h : w.nodes.all (Node.isResolvable w.nodes) = true := by
    refine List.all_eq_true.2 fun n hn => List.all_eq_true.2 fun e he => ?_
    unfold Reference.isResolvablePort
    by_cases hconnection : e.2.binding = .connection
    · rw [Reference.isResolvable_of_isReadable w.nodes (hplaces n hn e he hconnection), Bool.or_true]
    · simp [hconnection]
  refine ⟨w.resolved, result_resolveReferences_eq_ok_iff.2 ⟨h, rfl⟩, sameButReferences_resolved w,
    ?_, unresolved_resolved w, problems_resolved w, fun now settings shape => ?_⟩
  · exact result_resolveReferences_eq_ok_iff.2
      ⟨isResolvable_nodes_resolved hnames h, (resolved_resolved hnames).symm⟩
  · rw [toSpecDocument, ofWorkflow_resolved hnames h, toSpecDocument]

/-- The answers to questions refer to an output by its place. -/
theorem resolveReferences_faithful_questions :
    ∃ r, questions.resolveReferences.result = .ok r ∧ questions.SameButReferences r ∧
      r.resolveReferences.result = .ok r ∧ r.unresolved = questions.unresolved ∧
      r.problems = questions.problems ∧
      ∀ now settings shape,
        r.toSpecDocument now settings shape = questions.toSpecDocument now settings shape :=
  resolveReferences_faithful (by decide) (by decide)

end Workflow

end WorkflowGraph
