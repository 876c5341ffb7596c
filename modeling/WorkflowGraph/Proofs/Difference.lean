import WorkflowGraph.Proofs.RoundTrip
import WorkflowGraph.Workflow.Difference

/-!
# A restored workflow does not differ

By way of the simple and the backend shape a workflow comes back without differences. For the nodes
this holds since a portable node is compiled to the same again; for the edges since what is compared
of them is told by their routes, once the ends are named by the sentinels they stand for. Main
statements: `differences_restored_simple` and `differences_restored_backend`.
-/

namespace WorkflowGraph

/-! ## Nodes -/

namespace Spec

variable {part nodes : List WorkflowGraph.Node} {n : WorkflowGraph.Node}

/-- The inputs of a portable node are finite. -/
theorem areFinite_inputsAmong (hport : n.IsPortable) (nodes : List WorkflowGraph.Node) :
    Json.areFiniteFields (inputsAmong nodes n).entries = true := by
  rw [entries_inputsAmong, Json.areFiniteFields_eq_true_iff]
  intro f hf
  rcases List.mem_append.1 hf with hf | hf
  · obtain ⟨e, he, rfl⟩ := List.mem_map.1 hf
    rw [Reference.isFinite_resolved]
    exact Port.isFinite_toWire (hport.port e he).value_finite
  · exact Json.areFiniteFields_eq_true_iff.1 (areFinite_shownSettings hport.settings_finite) f hf

/-- The ports of a restored node are bound as before. -/
theorem portBindings_restored (hport : n.IsPortable) (nodes : List WorkflowGraph.Node)
    (position : Position) :
    Workflow.portBindings (restored nodes position n) = Workflow.portBindings n := by
  have hbinding : ∀ e ∈ n.allInputs.entries,
      (Port.ofWire (Reference.resolved nodes e.2.toWire).storable).binding = e.2.binding := by
    intro e he
    rw [storable_resolved_toWire (hport.port e he),
      Port.binding_ofWire_resolved (hport.port e he).binding_eq]
  rw [Workflow.portBindings, Workflow.portBindings, allInputs_restored, restoredInputs, Table.map,
    List.filter_map, List.map_map]
  refine congrArg Json.obj ?_
  rw [List.filter_congr fun e he => ?_]
  · refine List.map_congr_left fun e he => ?_
    simp only [Function.comp_apply, hbinding e (List.mem_filter.1 he).1]
  · simp only [Function.comp_apply, hbinding e he]
    rfl

end Spec

namespace Workflow

/-- An object of texts equals itself. -/
theorem same_texts {α : Type} (as : List α) (name text : α → String) :
    (Json.obj (as.map fun a => (name a, .str (text a)))).same
      (.obj (as.map fun a => (name a, .str (text a)))) = true := by
  refine Json.same_self _ (Json.areFiniteFields_eq_true_iff.2 fun f hf => ?_)
  obtain ⟨a, -, rfl⟩ := List.mem_map.1 hf
  rfl

/-- Nodes that have the kind, the label, the bindings and the outputs in common differ in their inputs or
not at all. -/
theorem result_nodeDifferences {part nodes : List Node} {n m : Node}
    (hn : Spec.isCompilable nodes n = true) (hm : Spec.isCompilable part m = true)
    (hkind : m.kind = n.kind) (hlabel : m.displayLabel = n.displayLabel)
    (hbindings : portBindings m = portBindings n) (houtputs : m.allOutputs = n.allOutputs) :
    let before := Json.obj (Spec.inputsAmong nodes n).entries
    let after := Json.obj (Spec.inputsAmong part m).entries
    (nodeDifferences nodes part n m).result =
      .ok (differenceIf (!before.same after) (.inputs n.id before after)) := by
  intro before after
  have hbound : (portBindings n).same (portBindings n) = true := same_texts _ _ _
  have htypes : (Json.obj (n.allOutputs.map fun _ type => Json.str type.name).entries).same
      (.obj (n.allOutputs.map fun _ type => Json.str type.name).entries) = true := same_texts _ _ _
  simp only [nodeDifferences, Attempt.result_bind_eq_ok_iff, Spec.Node.result_ofNode_eq_ok_iff,
    Attempt.result_pure, Except.ok.injEq]
  refine ⟨_, ⟨hn, rfl⟩, _, ⟨hm, rfl⟩, ?_⟩
  simp only [Spec.Node.compiled, hkind, hlabel, hbindings, hbound, houtputs, htypes,
    bne_self_eq_false, Bool.not_true]
  simp only [differenceIf, Bool.false_eq_true, ite_false, List.nil_append, List.append_nil]
  rfl

/-- A portable node that was compiled and restored does not differ. -/
theorem result_nodeDifferences_restored {part nodes : List Node} {n : Node} (hport : n.IsPortable)
    (h : Reference.HaveOutputsOf part nodes) (hnames : Reference.HaveReadableNames nodes)
    (position : Position) (hn : Spec.isCompilable nodes n = true) :
    (nodeDifferences nodes part n (Spec.restored nodes position n)).result = .ok [] := by
  have hrestored := Spec.isCompilable_restored hport h hnames position hn
  have hinputs : (Json.obj (Spec.inputsAmong nodes n).entries).same
      (.obj (Spec.inputsAmong nodes n).entries) = true :=
    Json.same_self _ (Spec.areFinite_inputsAmong hport nodes)
  rw [result_nodeDifferences hn hrestored rfl (Spec.displayLabel_restored nodes position n)
    (Spec.portBindings_restored hport nodes position) (Spec.allOutputs_restored nodes position n),
    Spec.inputsAmong_restored hport h hnames, hinputs]
  rfl

/-- The differences between nodes are those between any two of one id. -/
theorem result_commonDifferences {w r : Workflow} {others : Table Node}
    {entries : List (String × Node)} {found : Node → List Difference}
    (h : ∀ e ∈ entries, ∃ m, others.find? e.1 = some m ∧
      (nodeDifferences w.nodes r.nodes e.2 m).result = .ok (found e.2)) :
    (commonDifferences w r others entries).result = .ok (entries.flatMap fun e => found e.2) := by
  induction entries with
  | nil => rfl
  | cons e entries ih =>
    obtain ⟨m, hm, hfound⟩ := h e List.mem_cons_self
    have hrest := ih fun x hx => h x (List.mem_cons_of_mem _ hx)
    simp only [commonDifferences, hm, Attempt.result_bind_eq_ok_iff, Attempt.result_pure,
      Except.ok.injEq]
    exact ⟨_, hfound, _, hrest, rfl⟩

theorem lackedBy_eq_nil_iff {α : Type} {t u : Table α} : lackedBy t u = [] ↔ t.names ⊆ u.names := by
  rw [lackedBy, ← List.length_eq_zero_iff, List.length_mergeSort, List.length_eq_zero_iff,
    List.filter_eq_nil_iff]
  simp only [Bool.not_eq_true, Bool.not_eq_false', Table.has_iff_mem_names]
  rfl

/-- The differences are those between nodes, if the nodes have the same ids and no edge is lost. -/
theorem result_differences {w r : Workflow} {settings : Settings} {c : Comparison}
    {found : List Difference} (hids : (comparedNodes c w).names = (comparedNodes c r).names)
    (hcommon : (commonDifferences w r (comparedNodes c r) (comparedNodes c w).entries).result =
      .ok found)
    (hedges : edgeDifferences settings c w r = []) :
    (differences settings c w r).result = .ok found := by
  have hkept : lackedBy (comparedNodes c w) (comparedNodes c r) = [] :=
    lackedBy_eq_nil_iff.2 (hids ▸ List.Subset.refl _)
  have hknown : lackedBy (comparedNodes c r) (comparedNodes c w) = [] :=
    lackedBy_eq_nil_iff.2 (hids ▸ List.Subset.refl _)
  simp only [differences, Attempt.result_bind_eq_ok_iff, Attempt.result_pure, Except.ok.injEq,
    hkept, hknown, hedges]
  exact ⟨found, hcommon, by simp [differenceIf]⟩

variable {s : Surroundings} {now : Timestamp} {settings : Settings} {shape : Shape} {w : Workflow}
  {c : Comparison}

/-- The nodes that take part in a comparison. -/
def comparedList (c : Comparison) (w : Workflow) : List Node :=
  w.nodes.filter fun n => c.withTerminals || !n.isTerminal

theorem comparedList_eq_inner (h : c.withTerminals = false) (w : Workflow) :
    comparedList c w = w.inner := by
  rw [comparedList, h]
  rfl

theorem comparedList_eq_nodes (h : c.withTerminals = true) (w : Workflow) :
    comparedList c w = w.nodes := by
  rw [comparedList, h]
  exact List.filter_eq_self.2 fun _ _ => rfl

/-- The nodes that are compared come back, from the simple shape also start and end nodes. -/
theorem comparedList_restored (hnd : w.nodeIds.Nodup) (h : w.IsRestorable)
    (hc : c.withTerminals = true → shape = .simple) :
    comparedList c (w.restored s now settings shape) =
      (comparedList c w).map fun n => Spec.restored w.nodes (keptPlace shape n) n := by
  cases hterminals : c.withTerminals with
  | true =>
    rw [comparedList_eq_nodes hterminals, comparedList_eq_nodes hterminals, nodes_restored hnd h,
      hc hterminals]
    rfl
  | false =>
    rw [comparedList_eq_inner hterminals, comparedList_eq_inner hterminals, inner_restored hnd h]

theorem entries_comparedNodes (hnd : ((comparedList c w).map (·.id)).Nodup) :
    (comparedNodes c w).entries = (comparedList c w).map fun n => (n.id, n) := by
  refine Table.entries_ofList ?_
  rw [List.map_map]
  exact hnd

/-- Nodes that come back by a function are found by their ids, so that each is compared with what it
has become. -/
theorem result_differences_of_map {r : Workflow} {back : Node → Node}
    {found : Node → List Difference} (hnd : w.nodeIds.Nodup) (hid : ∀ n, (back n).id = n.id)
    (hnodes : comparedList c r = (comparedList c w).map back)
    (hfound : ∀ n ∈ comparedList c w,
      (nodeDifferences w.nodes r.nodes n (back n)).result = .ok (found n))
    (hedges : edgeDifferences settings c w r = []) :
    (differences settings c w r).result = .ok ((comparedList c w).flatMap found) := by
  have hbefore : ((comparedList c w).map (·.id)).Nodup :=
    hnd.sublist (List.filter_sublist.map _)
  have hids : (comparedList c r).map (·.id) = (comparedList c w).map (·.id) := by
    rw [hnodes, List.map_map]
    exact List.map_congr_left fun n _ => hid n
  have hafter : ((comparedList c r).map (·.id)).Nodup := by
    rwa [hids]
  -- nodes are looked up by their ids, which are distinct and the same on both sides
  have hcommon : (commonDifferences w r (comparedNodes c r) (comparedNodes c w).entries).result =
      .ok ((comparedNodes c w).entries.flatMap fun e => found e.2) := by
    refine result_commonDifferences fun e he => ?_
    rw [entries_comparedNodes hbefore] at he
    obtain ⟨n, hn, rfl⟩ := List.mem_map.1 he
    refine ⟨back n, Table.find?_eq_some_iff.2 ?_, hfound n hn⟩
    rw [entries_comparedNodes hafter, hnodes, List.map_map]
    exact List.mem_map.2 ⟨n, hn, Prod.ext (hid n) rfl⟩
  have hfound : ((comparedNodes c w).entries.flatMap fun e => found e.2) =
      (comparedList c w).flatMap found := by
    rw [entries_comparedNodes hbefore, List.flatMap_map]
  rw [hfound] at hcommon
  refine result_differences ?_ hcommon hedges
  rw [Table.names, Table.names, entries_comparedNodes hbefore, entries_comparedNodes hafter,
    List.map_map, List.map_map]
  exact hids.symm

/-- Portable nodes that come back do not differ. -/
theorem result_differences_restored (hnd : w.nodeIds.Nodup) (hr : w.IsRestorable)
    (hnames : Reference.HaveReadableNames w.nodes) (hc : c.withTerminals = true → shape = .simple)
    (hport : ∀ n ∈ comparedList c w, n.IsPortable)
    (hcompilable : ∀ n ∈ comparedList c w, Spec.isCompilable w.nodes n = true)
    (hedges : edgeDifferences settings c w (w.restored s now settings shape) = []) :
    (differences settings c w (w.restored s now settings shape)).result = .ok [] := by
  have hnil : ((comparedList c w).flatMap fun _ => ([] : List Difference)) = [] :=
    List.flatMap_eq_nil_iff.2 fun _ _ => rfl
  have hid : ∀ n, (Spec.restored w.nodes (keptPlace shape n) n).id = n.id := fun _ => rfl
  have hnone : (differences settings c w (w.restored s now settings shape)).result =
      .ok ((comparedList c w).flatMap fun _ => []) :=
    result_differences_of_map hnd hid (comparedList_restored hnd hr hc)
      (fun n hn => result_nodeDifferences_restored (hport n hn) (haveOutputsOf_restored hnd hr)
        hnames _ (hcompilable n hn)) hedges
  rw [hnone, hnil]

/-! ## Edges -/

/-- What is compared of an edge of a route. -/
def keyOfRoute (settings : Settings) (w : Workflow) (r : Route) : EdgeKey where
  source := w.token r.source
  target := w.token r.target
  kind := if r.isConditional then .conditional else .plain
  condition := r.condition.map (statedCondition settings)

/-- Edges are compared by the condition that a spec states, and by kind only if there is one. -/
theorem edgeKey_eq (hc : c.withEdgeKinds = false) (e : Edge) :
    edgeKey settings c w e =
      ⟨w.token e.source, w.token e.target, if e.isConditional then .conditional else .plain,
        if e.isConditional then some (Spec.conditionOf settings e) else none⟩ := by
  have hkind : e.isConditional = true → e.kind = .conditional := of_decide_eq_true
  rw [edgeKey, hc, Bool.false_or]
  by_cases h : e.isConditional = true
  · simp [h, hkind h]
  · simp [h]

/-- An edge is compared by its route, if it has a condition apart from its settings exactly if it is
conditional. -/
theorem edgeKey_eq_keyOfRoute (hc : c.withEdgeKinds = false) {e : Edge}
    (h : e.isConditional = e.condition.isSome) :
    edgeKey settings c w e = keyOfRoute settings w e.route := by
  rw [edgeKey_eq hc, keyOfRoute, Edge.route, h]
  cases hcondition : e.condition with
  | none => rfl
  | some condition => simp [conditionOf_of_condition hcondition]

/-- The route that an edge is stated with is compared as the edge, if its ends are named as those of
the edge. -/
theorem keyOfRoute_arrowOf (hc : c.withEdgeKinds = false) {r : Workflow}
    {terminals : Spec.Terminals} {e : Edge}
    (hsource : r.token (Spec.resolveSentinel Spec.startSentinel terminals.start?
      (Spec.sourceName (Spec.startId? w) e.source)) = w.token e.source)
    (htarget : r.token (Spec.resolveSentinel Spec.endSentinel terminals.finish?
      (Spec.targetId (Spec.endIds w) e.target)) = w.token e.target) :
    keyOfRoute settings r ((Spec.arrowOf settings (Spec.endIds w) e).route terminals
      (Spec.sourceName (Spec.startId? w) e.source)) = edgeKey settings c w e := by
  rw [edgeKey_eq hc, keyOfRoute]
  simp only [Spec.Arrow.route, Spec.arrowOf]
  rw [hsource, htarget]
  by_cases h : e.isConditional = true
  · simp [h, statedCondition_conditionOf]
  · simp [h]

theorem edgeDifferences_eq_nil_iff {r : Workflow} : edgeDifferences settings c w r = [] ↔
    w.edges.map (edgeKey settings c w) ⊆ r.edges.map (edgeKey settings c r) := by
  rw [edgeDifferences, List.map_eq_nil_iff, List.filter_eq_nil_iff]
  simp only [Bool.not_eq_true, Bool.not_eq_false', List.contains_iff_mem]
  exact List.forall_mem_map.symm

/-- No edge is lost, if the ends of each are named as those of the edge that it becomes. -/
theorem edgeDifferences_restored (hc : c.withEdgeKinds = false)
    (htargets : Spec.HaveTargets shape w.edges)
    (hsource : ∀ e ∈ w.edges, (w.restored s now settings shape).token
      (Spec.resolveSentinel Spec.startSentinel (w.restored s now settings shape).terminals.start?
        (Spec.sourceName (Spec.startId? w) e.source)) = w.token e.source)
    (htarget : ∀ e ∈ w.edges, (w.restored s now settings shape).token
      (Spec.resolveSentinel Spec.endSentinel (w.restored s now settings shape).terminals.finish?
        (Spec.targetId (Spec.endIds w) e.target)) = w.token e.target) :
    edgeDifferences settings c w (w.restored s now settings shape) = [] := by
  refine edgeDifferences_eq_nil_iff.2 (List.forall_mem_map.2 fun e he => ?_)
  have hroutes : (w.restored s now settings shape).edges.map Edge.route = _ :=
    route_restored htargets
  -- what is compared of an edge follows from its route, and its route comes back
  have hmem : e ∈ Spec.arrangedEdges shape settings w := Spec.mem_arrangedEdges.2 he
  have hroute : (Spec.arrowOf settings (Spec.endIds w) e).route
      (w.restored s now settings shape).terminals (Spec.sourceName (Spec.startId? w) e.source) ∈
        (w.restored s now settings shape).edges.map Edge.route := by
    rw [hroutes]
    exact List.mem_map.2 ⟨e, hmem, rfl⟩
  obtain ⟨e', he', heq⟩ := List.mem_map.1 hroute
  refine List.mem_map.2 ⟨e', he', ?_⟩
  rw [edgeKey_eq_keyOfRoute hc (isConditional_toWorkflow he'), heq,
    keyOfRoute_arrowOf hc (hsource e he) (htarget e he)]

/-! ## Names of start and end nodes -/

theorem token_of_forall {id : String} (h : ∀ n ∈ w.nodes, n.isTerminal = true → n.id ≠ id) :
    w.token id = id := by
  have hnone : (w.nodes.reverse.find? fun n => n.id == id && n.isTerminal) = none := by
    rw [List.find?_eq_none]
    intro n hn hfound
    rw [Bool.and_eq_true, beq_iff_eq] at hfound
    exact h n (List.mem_reverse.1 hn) hfound.2 hfound.1
  rw [token, hnone]

/-- Among nodes of distinct ids, a start or end node has the name of its sentinel. -/
theorem token_id (hnd : w.nodeIds.Nodup) {n : Node} (hn : n ∈ w.nodes) (ht : n.isTerminal = true) :
    w.token n.id = if n.isStart then Spec.startSentinel else Spec.endSentinel := by
  rw [token]
  cases hfind : w.nodes.reverse.find? fun m => m.id == n.id && m.isTerminal with
  | none =>
    have hno := List.find?_eq_none.1 hfind n (List.mem_reverse.2 hn)
    rw [beq_self_eq_true, ht] at hno
    exact absurd rfl hno
  | some m =>
    have hm := List.find?_some hfind
    rw [Bool.and_eq_true, beq_iff_eq] at hm
    have hmem := List.mem_reverse.1 (List.mem_of_find?_eq_some hfind)
    -- The last node of the id is `n`, since no other has it.
    rw [List.inj_on_of_nodup_map hnd hmem hn hm.1]

theorem token_startSentinel (h : w.HasPlainIds) : w.token Spec.startSentinel = Spec.startSentinel :=
  token_of_forall fun n hn _ => (h n hn).1

theorem token_endSentinel (h : w.HasPlainIds) : w.token Spec.endSentinel = Spec.endSentinel :=
  token_of_forall fun n hn _ => (h n hn).2

/-- The start node has the name of its sentinel. -/
theorem token_startId? (hnd : w.nodeIds.Nodup) {id : String} (h : Spec.startId? w = some id) :
    w.token id = Spec.startSentinel := by
  obtain ⟨n, hn, rfl⟩ := Option.map_eq_some_iff.1 h
  obtain ⟨hn, hstart⟩ := List.mem_filter.1 (List.mem_of_head? hn)
  rw [token_id hnd hn (isTerminal_of_isStart hstart), if_pos hstart]

/-- The end nodes have the name of their sentinel. -/
theorem token_endIds (hnd : w.nodeIds.Nodup) {id : String} (h : id ∈ Spec.endIds w) :
    w.token id = Spec.endSentinel := by
  obtain ⟨n, hn, rfl⟩ := List.mem_map.1 h
  obtain ⟨hn, hend⟩ := List.mem_filter.1 hn
  rw [token_id hnd hn (isTerminal_of_isEnd hend), isStart_eq_false_of_isEnd hend]
  rfl

theorem token_resolveSentinel {sentinel : String} {node? : Option String}
    (hnode : ∀ id, node? = some id → w.token id = sentinel) (hs : w.token sentinel = sentinel)
    (name : String) : w.token (Spec.resolveSentinel sentinel node? name) = w.token name := by
  unfold Spec.resolveSentinel
  split
  · next hname =>
    cases node? with
    | none => rfl
    | some id => rw [Option.getD_some, hnode id rfl, hname, hs]
  · rfl

/-- A source has the name of the node that it stands for. -/
theorem token_sourceName (hnd : w.nodeIds.Nodup) (hids : w.HasPlainIds) (source : String) :
    w.token (Spec.sourceName (Spec.startId? w) source) = w.token source := by
  unfold Spec.sourceName
  split
  · next hstart => rw [token_startSentinel hids, token_startId? hnd hstart.symm]
  · rfl

/-- A target has the name of the node that it stands for. -/
theorem token_targetId (hnd : w.nodeIds.Nodup) (hids : w.HasPlainIds) (target : String) :
    w.token (Spec.targetId (Spec.endIds w) target) = w.token target := by
  unfold Spec.targetId
  split
  · next hend => rw [token_endSentinel hids, token_endIds hnd (List.contains_iff_mem.1 hend)]
  · rfl

/-! ## The simple shape -/

/-- The nodes of a workflow come back in another, each under its id and of its kind. -/
structure ComesBack (back : Node → Node) (w r : Workflow) : Prop where
  nodes_eq : r.nodes = w.nodes.map back
  id_eq : ∀ n, (back n).id = n.id
  kind_eq : ∀ n, (back n).kind = n.kind

namespace ComesBack

variable {back : Node → Node} {r : Workflow}

theorem isStart_eq (h : ComesBack back w r) (n : Node) : (back n).isStart = n.isStart := by
  rw [Node.isStart, h.kind_eq, Node.isStart]

theorem isEnd_eq (h : ComesBack back w r) (n : Node) : (back n).isEnd = n.isEnd := by
  rw [Node.isEnd, h.kind_eq, Node.isEnd]

theorem isTerminal_eq (h : ComesBack back w r) (n : Node) : (back n).isTerminal = n.isTerminal := by
  rw [Node.isTerminal, h.isStart_eq, h.isEnd_eq, Node.isTerminal]

/-- Nodes keep the names that they share with sentinels. -/
theorem token_eq (h : ComesBack back w r) : r.token = w.token := by
  funext id
  have hfind : r.nodes.reverse.find? (fun n => n.id == id && n.isTerminal) =
      (w.nodes.reverse.find? fun n => n.id == id && n.isTerminal).map back := by
    rw [h.nodes_eq, ← List.map_reverse, List.find?_map]
    simp only [Function.comp_def, h.id_eq, h.isTerminal_eq]
  rw [token, token, hfind]
  cases w.nodes.reverse.find? fun n => n.id == id && n.isTerminal with
  | none => rfl
  | some n => simp [h.isStart_eq]

theorem terminals_eq (h : ComesBack back w r) : r.terminals = w.terminals := by
  have hstarts : r.starts = w.starts.map back := by
    rw [starts, h.nodes_eq, List.filter_map, starts]
    simp only [Function.comp_def, h.isStart_eq]
  have hends : r.ends = w.ends.map back := by
    rw [ends, h.nodes_eq, List.filter_map, ends]
    simp only [Function.comp_def, h.isEnd_eq]
  have hid : (fun n => n.id) ∘ back = fun n : Node => n.id := funext h.id_eq
  rw [terminals, Spec.startId?, start?, hstarts, Spec.endIds, hends, List.head?_map,
    Option.map_map, List.map_map, hid]
  rfl

end ComesBack

/-- No edge is lost by way of the simple shape, whatever else becomes of the nodes. -/
theorem edgeDifferences_simple {back : Node → Node} (hnd : w.nodeIds.Nodup) (hids : w.HasPlainIds)
    (hback : ComesBack back w (w.restored s now settings .simple)) :
    edgeDifferences settings {} w (w.restored s now settings .simple) = [] := by
  have hstart : ∀ id, Spec.startId? w = some id → w.token id = Spec.startSentinel :=
    fun id hid => token_startId? hnd hid
  have hend : ∀ id, (Spec.endIds w).head? = some id → w.token id = Spec.endSentinel :=
    fun id hid => token_endIds hnd (List.mem_of_head? hid)
  refine edgeDifferences_restored rfl (fun hno => by cases hno) (fun e _ => ?_) fun e _ => ?_
  · rw [hback.token_eq, hback.terminals_eq, terminals,
      token_resolveSentinel hstart (token_startSentinel hids), token_sourceName hnd hids]
  · rw [hback.token_eq, hback.terminals_eq, terminals,
      token_resolveSentinel hend (token_endSentinel hids), token_targetId hnd hids]

theorem comesBack_restored (hnd : w.nodeIds.Nodup) (hr : w.IsRestorable) :
    ComesBack (fun n => Spec.restored w.nodes (keptPlace .simple n) n) w
      (w.restored s now settings .simple) where
  nodes_eq := nodes_restored hnd hr
  id_eq _ := rfl
  kind_eq _ := rfl

/-- Whenever a workflow of portable nodes is written in the simple shape, what is restored from the
document does not differ from it, whatever its edges are. A workflow that can be written has a
document. -/
theorem differences_restored_simple (hw : w.IsPortable) (hids : w.HasPlainIds)
    (hterminals : ∀ n ∈ w.nodes, n.isTerminal = true → n.IsPortable) (s : Surroundings)
    (now : Timestamp) (settings : Settings) :
    (∀ document, (w.toSpecDocument now settings .simple).result = .ok document →
      ∃ r, (ofSpecDocument s (.ok settings) document).result = .ok r ∧
        (differences settings {} w r).result = .ok []) ∧
    (w.IsWritable → ∃ document, (w.toSpecDocument now settings .simple).result = .ok document) := by
  refine ⟨fun document h => ?_, fun h => h.exists_document now settings .simple⟩
  obtain ⟨hcompilable, -, rfl⟩ := result_toSpecDocument_eq_ok_iff.1 h
  have hnd := hw.nodeIds_nodup
  have hr := hw.isRestorable
  have hnodes : ∀ n ∈ w.nodes, n.IsPortable := by
    intro n hn
    cases ht : n.isTerminal with
    | true => exact hterminals n hn ht
    | false => exact hw.inner_portable n (List.mem_filter.2 ⟨hn, by rw [ht]; rfl⟩)
  refine ⟨w.restored s now settings .simple, result_ofSpecDocument s now settings .simple w, ?_⟩
  exact result_differences_restored hnd hr hw.names_readable (fun _ => rfl)
    (fun n hn => hnodes n (List.mem_filter.1 hn).1)
    (fun n hn => isCompilable_of_mem hcompilable hn)
    (edgeDifferences_simple hnd hids (comesBack_restored hnd hr))

/-- The answers to questions come back from the simple shape without differences. -/
theorem differences_restored_simple_questions :
    ∃ document r, (questions.toSpecDocument noon {} .simple).result = .ok document ∧
      (ofSpecDocument ⟨noon, "0001"⟩ (.ok {}) document).result = .ok r ∧
      (differences {} {} questions r).result = .ok [] := by
  have h := differences_restored_simple (by decide : questions.IsPortable)
    (by decide : questions.HasPlainIds) (by decide) ⟨noon, "0001"⟩ noon {}
  obtain ⟨document, hdocument⟩ := h.2 (by decide)
  obtain ⟨r, hr, hnone⟩ := h.1 document hdocument
  exact ⟨document, r, hdocument, hr, hnone⟩

/-- An end node that holds a value in 255 lists is compared with nothing, since it has no document of
the simple shape. -/
theorem not_restored_simple_holding_nested :
    (holding "end" (nested 255)).IsPortable ∧ (holding "end" (nested 255)).HasPlainIds ∧
      (∀ n ∈ (holding "end" (nested 255)).nodes, n.IsPortable) ∧
      ((holding "end" (nested 255)).toSpecDocument noon {} .simple).result = .error .tooDeep := by
  have hholder : (holder "end" (nested 255)).IsPortable :=
    isPortable_holder (referenceHead?_nested 255) (isFinite_nested 255) (by decide) (by decide)
  exact ⟨isPortable_holding hholder (by decide), by decide, List.forall_mem_singleton.2 hholder,
    result_toSpecDocument_holding_nested List.mem_cons_self noon {}⟩

/-! ## The backend shape -/

/-- Edges begin at nodes that runs may leave and end at nodes that they may reach. -/
@[mk_iff]
structure HasDirectedEdges (w : Workflow) : Prop where
  starts_le_one : w.starts.length ≤ 1
  /-- No edge comes from an end node. -/
  source_ne_end : ∀ e ∈ w.edges, ∀ n ∈ w.ends, e.source ≠ n.id
  /-- No edge leads to a start node. -/
  target_ne_start : ∀ e ∈ w.edges, ∀ n ∈ w.starts, e.target ≠ n.id
  target_nonempty : ∀ e ∈ w.edges, e.target ≠ ""

instance (w : Workflow) : Decidable w.HasDirectedEdges :=
  decidable_of_iff' _ (hasDirectedEdges_iff w)

theorem mem_starts_or_mem_ends {n : Node} (hn : n ∈ w.nodes) (ht : n.isTerminal = true) :
    n ∈ w.starts ∨ n ∈ w.ends := by
  rw [Node.isTerminal, Bool.or_eq_true] at ht
  exact ht.imp (fun h => List.mem_filter.2 ⟨hn, h⟩) fun h => List.mem_filter.2 ⟨hn, h⟩

/-- Nothing but the start node has the name of a source that a spec gives another name. -/
theorem HasDirectedEdges.sourceName_eq_token (h : w.HasDirectedEdges) (hnd : w.nodeIds.Nodup)
    {e : Edge} (he : e ∈ w.edges) :
    Spec.sourceName (Spec.startId? w) e.source = w.token e.source := by
  unfold Spec.sourceName
  split
  · next hstart => rw [token_startId? hnd hstart.symm]
  · next hother =>
    refine (token_of_forall fun n hn ht hid => ?_).symm
    rcases mem_starts_or_mem_ends hn ht with hmem | hmem
    · refine hother ?_
      rw [Spec.startId?, start?, eq_singleton_of_mem h.starts_le_one hmem, ← hid]
      rfl
    · exact h.source_ne_end e he n hmem hid.symm

/-- Nothing but an end node has the name of a target that a spec gives another name. -/
theorem HasDirectedEdges.targetId_eq_token (h : w.HasDirectedEdges) (hnd : w.nodeIds.Nodup)
    {e : Edge} (he : e ∈ w.edges) :
    Spec.targetId (Spec.endIds w) e.target = w.token e.target := by
  unfold Spec.targetId
  split
  · next hend => rw [token_endIds hnd (List.contains_iff_mem.1 hend)]
  · next hother =>
    refine (token_of_forall fun n hn ht hid => ?_).symm
    rcases mem_starts_or_mem_ends hn ht with hmem | hmem
    · exact h.target_ne_start e he n hmem hid.symm
    · exact hother (List.contains_iff_mem.2 (List.mem_map.2 ⟨n, hmem, hid⟩))

/-- From the backend shape no start or end node comes back. -/
theorem token_restored_backend (hnd : w.nodeIds.Nodup) (hr : w.IsRestorable) (id : String) :
    (w.restored s now settings .backend).token id = id := by
  refine token_of_forall fun n hn ht => ?_
  rw [nodes_restored hnd hr] at hn
  obtain ⟨m, hm, rfl⟩ := List.mem_map.1 hn
  have hinner := (List.mem_filter.1 hm).2
  rw [Spec.isTerminal_restored] at ht
  rw [ht] at hinner
  cases hinner

theorem terminals_restored_backend (hnd : w.nodeIds.Nodup) (hr : w.IsRestorable) :
    (w.restored s now settings .backend).terminals = ⟨none, none⟩ := by
  rw [terminals, startId?_restored hnd hr, endIds_restored hnd hr]
  rfl

/-- Whenever a portable workflow is written in the backend shape, what is restored from the document
does not differ from it but for start and end nodes. A workflow that can be written has a
document. -/
theorem differences_restored_backend (hw : w.IsPortable) (hedges : w.HasDirectedEdges)
    (s : Surroundings) (now : Timestamp) (settings : Settings) :
    (∀ document, (w.toSpecDocument now settings .backend).result = .ok document →
      ∃ r, (ofSpecDocument s (.ok settings) document).result = .ok r ∧
        (differences settings { withTerminals := false } w r).result = .ok []) ∧
    (w.IsWritable → ∃ document, (w.toSpecDocument now settings .backend).result = .ok document) := by
  refine ⟨fun document h => ?_, fun h => h.exists_document now settings .backend⟩
  obtain ⟨hcompilable, -, rfl⟩ := result_toSpecDocument_eq_ok_iff.1 h
  have hnd := hw.nodeIds_nodup
  have hr := hw.isRestorable
  refine ⟨w.restored s now settings .backend, result_ofSpecDocument s now settings .backend w, ?_⟩
  refine result_differences_restored hnd hr hw.names_readable (fun hno => by cases hno)
    (fun n hn => hw.inner_portable n hn) (fun n hn => isCompilable_of_mem hcompilable hn) ?_
  refine edgeDifferences_restored rfl (fun _ => hedges.target_nonempty) (fun e he => ?_)
    fun e he => ?_
  · rw [token_restored_backend hnd hr, terminals_restored_backend hnd hr, resolveSentinel_none,
      hedges.sourceName_eq_token hnd he]
  · rw [token_restored_backend hnd hr, terminals_restored_backend hnd hr, resolveSentinel_none,
      hedges.targetId_eq_token hnd he]

/-- The answers to questions come back from the backend shape without differences. -/
theorem differences_restored_backend_questions :
    ∃ document r, (questions.toSpecDocument noon {} .backend).result = .ok document ∧
      (ofSpecDocument ⟨noon, "0001"⟩ (.ok {}) document).result = .ok r ∧
      (differences {} { withTerminals := false } questions r).result = .ok [] := by
  have h := differences_restored_backend (by decide : questions.IsPortable)
    (by decide : questions.HasDirectedEdges) ⟨noon, "0001"⟩ noon {}
  obtain ⟨document, hdocument⟩ := h.2 (by decide)
  obtain ⟨r, hr, hnone⟩ := h.1 document hdocument
  exact ⟨document, r, hdocument, hr, hnone⟩

/-- Neither has a node that is neither start nor end node a document of the backend shape, if it holds a
value in 255 lists. -/
theorem not_restored_backend_holding_nested :
    (holding "custom" (nested 255)).IsPortable ∧ (holding "custom" (nested 255)).HasPlainIds ∧
      (holding "custom" (nested 255)).HasDirectedEdges ∧
      ((holding "custom" (nested 255)).toSpecDocument noon {} .backend).result = .error .tooDeep := by
  have hholder : (holder "custom" (nested 255)).IsPortable :=
    isPortable_holder (referenceHead?_nested 255) (isFinite_nested 255) (by decide) (by decide)
  exact ⟨isPortable_holding hholder (by decide), by decide, by decide,
    result_toSpecDocument_holding_nested List.mem_cons_self noon {}⟩

end Workflow

end WorkflowGraph
