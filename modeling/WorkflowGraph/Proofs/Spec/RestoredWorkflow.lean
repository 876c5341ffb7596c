import WorkflowGraph.Proofs.Spec.Document
import WorkflowGraph.Proofs.Spec.RestoredEdges
import WorkflowGraph.Proofs.Spec.RestoredNode

/-!
# Workflows restored from their specs

What a workflow becomes by way of its spec: `Workflow.restored`. In the simple shape all nodes come
back in their places; in the enhanced shape start nodes come first and end nodes last; in the backend
shape neither comes back, and edges keep the sentinels. Main statements: `nodes_restored`,
`starts_restored` and `ends_restored` for the nodes, and `route_restored` for the edges.
-/

namespace WorkflowGraph

/-! ## Documents -/

/-- The workflow of the document that a spec is written to. -/
theorem Spec.result_ofSpecDocument_toJson (s : Surroundings) (settings : Settings) (spec : Spec) :
    (Workflow.ofSpecDocument s (.ok settings) spec.toJson).result =
      .ok (spec.storable.toWorkflow s settings).value := by
  simp only [Workflow.ofSpecDocument, Attempt.result_bind_eq_ok_iff, Attempt.result_ofExcept,
    Spec.ofDocument_toJson, Attempt.result_ofLogged, Except.ok.injEq]
  exact ⟨settings, rfl, _, rfl, rfl⟩

namespace Spec

/-! ## Positions -/

theorem positionOf_coordinates (p : Position) : positionOf (coordinates p) = p := rfl

theorem place_compiled_of_own (nodes : List WorkflowGraph.Node) (n : WorkflowGraph.Node)
    (positions : Table (Table Float64)) :
    (Node.compiled nodes true n).place positions = n.position := rfl

/-- A node without a position of its own has the one that is kept for its id. -/
theorem place_compiled_of_kept (nodes : List WorkflowGraph.Node) {n : WorkflowGraph.Node}
    {positions : Table (Table Float64)} (h : (n.id, coordinates n.position) ∈ positions.entries) :
    (Node.compiled nodes false n).place positions = n.position := by
  have hfind : positions.find? n.id = some (coordinates n.position) := Table.find?_eq_some_iff.2 h
  have hplace : (Node.compiled nodes false n).place positions =
      ((positions.find? n.id).map positionOf).getD default := rfl
  rw [hplace, hfind]
  exact positionOf_coordinates n.position

end Spec

namespace Node

/-! ## Nodes that can be restored -/

/-- The ports and settings of the node are told apart again, and its settings are read as they
are. -/
structure IsRestorable (n : Node) : Prop where
  kind_current : n.kind ≠ NodeKind.formerInterruptName
  /-- No port is taken for a setting. -/
  inputs_separable : n.IsSeparable
  /-- No setting is taken for a port. -/
  settings_plain : n.HasPlainSettings
  settings_finite : n.HasFiniteSettings

theorem IsPortable.isRestorable {n : Node} (h : n.IsPortable) : n.IsRestorable :=
  ⟨h.kind_current, h.isSeparable, h.settings_plain, h.settings_finite⟩

/-- Start and end nodes have no settings, so that there is nothing to be told apart. -/
theorem isRestorable_of_isTerminal {n : Node} (h : n.isTerminal = true) : n.IsRestorable := by
  have hkind : n.kind = NodeKind.start.name ∨ n.kind = NodeKind.finish.name := by
    simpa [isTerminal, isStart, isEnd] using h
  have hvariant : NodeVariant.ofKind? n.kind = none := by
    rcases hkind with hk | hk <;> rw [hk] <;> decide
  have hconfig : n.config = none := by
    cases hc : n.config with
    | none => rfl
    | some c =>
      have hsome := NodeConfig.ofKind?_kind c
      rw [n.config_kind c hc, hvariant] at hsome
      cases hsome
  refine ⟨?_, ?_, ?_, ?_⟩
  · rcases hkind with hk | hk <;> rw [hk] <;> decide
  · intro e _ hname
    rw [settingKeys, hvariant] at hname
    cases hname
  · intro c hc
    rw [hconfig] at hc
    cases hc
  · intro c hc
    rw [hconfig] at hc
    cases hc

end Node

namespace Workflow

/-! ## The nodes -/

/-- The nodes that are neither start nor end nodes. -/
def inner (w : Workflow) : List Node :=
  w.nodes.filter (!·.isTerminal)

/-- Nodes that are neither start nor end nodes are listed in every shape. -/
theorem mem_listedNodes_of_mem_inner {w : Workflow} {n : Node} (hn : n ∈ w.inner) (shape : Shape) :
    n ∈ Spec.listedNodes shape w := by
  obtain ⟨hn, hinner⟩ := List.mem_filter.1 hn
  refine List.mem_filter.2 ⟨hn, ?_⟩
  rw [Bool.or_eq_true]
  exact Or.inr hinner

/-- All nodes that are neither start nor end nodes can be restored. -/
def IsRestorable (w : Workflow) : Prop :=
  ∀ n ∈ w.inner, n.IsRestorable

theorem IsRestorable.node {w : Workflow} (h : w.IsRestorable) {n : Node} (hn : n ∈ w.nodes) :
    n.IsRestorable := by
  cases ht : n.isTerminal with
  | true => exact Node.isRestorable_of_isTerminal ht
  | false => exact h n (List.mem_filter.2 ⟨hn, by rw [ht]; rfl⟩)

/-- The nodes that come back from a spec, in order. -/
def keptNodes : Shape → Workflow → List Node
  | .simple, w => w.nodes
  | .backend, w => w.inner
  | .enhanced, w => w.starts ++ w.inner ++ w.ends

/-- The place at which a node comes back. -/
def keptPlace (shape : Shape) (n : Node) : Position :=
  if shape = .backend then default else n.position

theorem mem_nodes_of_mem_keptNodes {n : Node} (h : n ∈ keptNodes shape w) : n ∈ w.nodes := by
  cases shape with
  | simple => exact h
  | backend => exact (List.mem_filter.1 h).1
  | enhanced =>
    rw [keptNodes, List.mem_append, List.mem_append] at h
    rcases h with (h | h) | h
    · exact (List.mem_filter.1 h).1
    · exact (List.mem_filter.1 h).1
    · exact (List.mem_filter.1 h).1

/-- What a workflow becomes by way of its spec in a shape, written at a time. -/
def restored (s : Surroundings) (now : Timestamp) (settings : Settings) (shape : Shape)
    (w : Workflow) : Workflow :=
  ((w.compiled now settings shape).storable.toWorkflow s settings).value

theorem result_ofSpecDocument (s : Surroundings) (now : Timestamp) (settings : Settings)
    (shape : Shape) (w : Workflow) :
    (ofSpecDocument s (.ok settings) (w.compiled now settings shape).toJson).result =
      .ok (w.restored s now settings shape) :=
  Spec.result_ofSpecDocument_toJson s settings _

variable {s : Surroundings} {now : Timestamp} {settings : Settings} {shape : Shape} {w : Workflow}

/-- The nodes that any spec is restored to, whatever is written on the way. -/
theorem value_restoreNodes (spec : Spec) :
    spec.restoreNodes.value =
      ((spec.keptTerminals.map fun n => (n.restore spec.positions).value).filter (·.isStart)) ++
        (spec.nodes.map fun n => (n.restore spec.positions).value) ++
        ((spec.keptTerminals.map fun n => (n.restore spec.positions).value).filter (!·.isStart)) := by
  simp only [Spec.restoreNodes, Logged.value_bind, Logged.value_mapList, Logged.value_pure]

theorem restore_node (h : w.IsRestorable) {n : Node} (hn : n ∈ w.nodes) (withPosition : Bool)
    (positions : Table (Table Float64)) :
    ((Spec.Node.compiled w.nodes withPosition n).storable.restore positions).value =
      Spec.restored w.nodes ((Spec.Node.compiled w.nodes withPosition n).place positions) n :=
  Spec.value_restore_compiled (h.node hn).kind_current (h.node hn).inputs_separable
    (h.node hn).settings_plain (h.node hn).settings_finite _ _ _

/-- Compiled nodes of a workflow, restored with the positions that a spec keeps. -/
theorem restore_compiled (shape : Shape) (positions : Table (Table Float64)) (h : w.IsRestorable)
    {nodes : List Node} {withPosition : Bool} (hsub : ∀ n ∈ nodes, n ∈ w.nodes)
    (hplace : ∀ n ∈ nodes,
      (Spec.Node.compiled w.nodes withPosition n).place positions = keptPlace shape n) :
    (((nodes.map (Spec.Node.compiled w.nodes withPosition)).map Spec.Node.storable).map
      fun m => (m.restore positions).value) =
        nodes.map fun n => Spec.restored w.nodes (keptPlace shape n) n := by
  rw [List.map_map, List.map_map]
  refine List.map_congr_left fun n hn => ?_
  rw [Function.comp_apply, Function.comp_apply, restore_node h (hsub n hn), hplace n hn]

/-- No node both begins and ends runs. -/
theorem isEnd_of_isTerminal (n : Node) : (n.isTerminal && !n.isStart) = n.isEnd := by
  unfold Node.isTerminal Node.isStart Node.isEnd
  by_cases hkind : n.kind = NodeKind.start.name
  · rw [hkind]
    rfl
  · rw [beq_eq_false_iff_ne.2 hkind]
    simp

theorem filter_isStart_terminals (w : Workflow) :
    (w.nodes.filter (·.isTerminal)).filter (·.isStart) = w.starts := by
  rw [List.filter_filter, starts]
  refine List.filter_congr fun n _ => ?_
  rw [Node.isTerminal]
  cases n.isStart <;> simp

theorem filter_not_isStart_terminals (w : Workflow) :
    (w.nodes.filter (·.isTerminal)).filter (!·.isStart) = w.ends := by
  rw [List.filter_filter, ends]
  refine List.filter_congr fun n _ => ?_
  rw [Bool.and_comm, isEnd_of_isTerminal]

/-- The nodes that are listed and those that are kept besides have different ids. -/
theorem keptTerminals_enhanced (hnd : w.nodeIds.Nodup) :
    (w.compiled now settings .enhanced).storable.keptTerminals =
      ((w.nodes.filter (·.isTerminal)).map (Spec.Node.compiled w.nodes true)).map
        Spec.Node.storable := by
  refine List.filter_eq_self.2 fun m hm => ?_
  change m ∈ ((w.nodes.filter (·.isTerminal)).map (Spec.Node.compiled w.nodes true)).map
    Spec.Node.storable at hm
  rw [List.map_map] at hm
  obtain ⟨n, hn, rfl⟩ := List.mem_map.1 hm
  rw [Option.isNone_iff_eq_none, Spec.findNode?, List.find?_eq_none]
  intro m' hm' hid
  change m' ∈ (w.inner.map (Spec.Node.compiled w.nodes false)).map Spec.Node.storable at hm'
  rw [List.map_map] at hm'
  obtain ⟨n', hn', rfl⟩ := List.mem_map.1 hm'
  have hid : n'.id = n.id := beq_iff_eq.1 hid
  have hn' := List.mem_filter.1 hn'
  have hn := List.mem_filter.1 hn
  rw [List.inj_on_of_nodup_map hnd hn'.1 hn.1 hid, hn.2] at hn'
  cases hn'.2

/-- The positions that are kept are those of the nodes. -/
theorem place_enhanced (hnd : w.nodeIds.Nodup) {n : Node} (hn : n ∈ w.nodes) :
    (Spec.Node.compiled w.nodes false n).place
      (w.compiled now settings .enhanced).storable.positions = n.position := by
  apply Spec.place_compiled_of_kept
  have hentries : (w.compiled now settings .enhanced).storable.positions.entries =
      w.nodes.map fun n => (n.id, Spec.coordinates n.position) := by
    refine Table.entries_ofList ?_
    rw [List.map_map]
    exact hnd
  rw [hentries]
  exact List.mem_map_of_mem hn

/-- The simple shape lists all nodes. -/
theorem nodes_compiled_simple : (w.compiled now settings .simple).storable.nodes =
    (w.nodes.map (Spec.Node.compiled w.nodes true)).map Spec.Node.storable := by
  have hlisted : Spec.listedNodes .simple w = w.nodes := List.filter_eq_self.2 fun _ _ => rfl
  show ((Spec.listedNodes .simple w).map (Spec.Node.compiled w.nodes true)).map
    Spec.Node.storable = _
  rw [hlisted]

/-- The nodes come back in the order of the shape. -/
theorem nodes_restored (hnd : w.nodeIds.Nodup) (h : w.IsRestorable) :
    (w.restored s now settings shape).nodes =
      (keptNodes shape w).map fun n => Spec.restored w.nodes (keptPlace shape n) n := by
  have hinner : ∀ n ∈ w.inner, n ∈ w.nodes := fun n hn => (List.mem_filter.1 hn).1
  show (w.compiled now settings shape).storable.restoreNodes.value = _
  rw [value_restoreNodes]
  cases shape with
  | simple =>
    rw [nodes_compiled_simple, restore_compiled .simple _ h (fun n hn => hn)
      fun n _ => Spec.place_compiled_of_own w.nodes n _]
    exact List.append_nil _
  | backend =>
    exact (List.append_nil _).trans (restore_compiled .backend .empty h hinner fun _ _ => rfl)
  | enhanced =>
    have hnodes : (w.compiled now settings .enhanced).storable.nodes =
        (w.inner.map (Spec.Node.compiled w.nodes false)).map Spec.Node.storable := rfl
    -- start nodes are put before the others, and end nodes after them
    rw [keptTerminals_enhanced hnd, hnodes,
      restore_compiled .enhanced _ h (fun n hn => (List.mem_filter.1 hn).1)
        fun n _ => Spec.place_compiled_of_own w.nodes n _,
      restore_compiled .enhanced _ h hinner fun n hn => place_enhanced hnd (hinner n hn),
      List.filter_map, List.filter_map, keptNodes, List.map_append, List.map_append,
      ← filter_isStart_terminals, ← filter_not_isStart_terminals]
    rfl

/-- No node that is neither a start nor an end node is one of the two. -/
theorem filter_inner_eq_nil {p : Node → Bool} (hp : ∀ n, p n = true → n.isTerminal = true)
    (w : Workflow) : w.inner.filter p = [] := by
  rw [List.filter_eq_nil_iff]
  intro n hn hkept
  have hinner := (List.mem_filter.1 hn).2
  rw [hp n hkept] at hinner
  cases hinner

theorem isTerminal_of_isStart {n : Node} (h : n.isStart = true) : n.isTerminal = true := by
  rw [Node.isTerminal, h, Bool.true_or]

theorem isTerminal_of_isEnd {n : Node} (h : n.isEnd = true) : n.isTerminal = true := by
  rw [Node.isTerminal, h, Bool.or_true]

theorem isStart_eq_false_of_isEnd {n : Node} (h : n.isEnd = true) : n.isStart = false := by
  rw [← isEnd_of_isTerminal, Bool.and_eq_true, Bool.not_eq_true'] at h
  exact h.2

theorem filter_isStart_keptNodes (shape : Shape) (w : Workflow) :
    (keptNodes shape w).filter (·.isStart) = if shape = .backend then [] else w.starts := by
  have hinner := filter_inner_eq_nil (fun _ => isTerminal_of_isStart) w
  cases shape with
  | simple => rfl
  | backend => exact hinner
  | enhanced =>
    have hstarts : w.starts.filter (·.isStart) = w.starts :=
      List.filter_eq_self.2 fun _ hn => (List.mem_filter.1 hn).2
    have hends : w.ends.filter (·.isStart) = [] := by
      rw [List.filter_eq_nil_iff]
      intro n hn
      rw [isStart_eq_false_of_isEnd (List.mem_filter.1 hn).2]
      exact Bool.false_ne_true
    rw [keptNodes, List.filter_append, List.filter_append, hstarts, hinner, hends, List.append_nil,
      List.append_nil]
    rfl

theorem filter_isEnd_keptNodes (shape : Shape) (w : Workflow) :
    (keptNodes shape w).filter (·.isEnd) = if shape = .backend then [] else w.ends := by
  have hinner := filter_inner_eq_nil (fun _ => isTerminal_of_isEnd) w
  cases shape with
  | simple => rfl
  | backend => exact hinner
  | enhanced =>
    have hstarts : w.starts.filter (·.isEnd) = [] := by
      rw [List.filter_eq_nil_iff]
      intro n hn hend
      have hstart := (List.mem_filter.1 hn).2
      rw [isStart_eq_false_of_isEnd hend] at hstart
      cases hstart
    have hends : w.ends.filter (·.isEnd) = w.ends :=
      List.filter_eq_self.2 fun _ hn => (List.mem_filter.1 hn).2
    rw [keptNodes, List.filter_append, List.filter_append, hstarts, hinner, hends, List.nil_append,
      List.nil_append]
    rfl

theorem filter_inner_keptNodes (shape : Shape) (w : Workflow) :
    (keptNodes shape w).filter (!·.isTerminal) = w.inner := by
  have hinner : w.inner.filter (!·.isTerminal) = w.inner :=
    List.filter_eq_self.2 fun _ hn => (List.mem_filter.1 hn).2
  cases shape with
  | simple => rfl
  | backend => exact hinner
  | enhanced =>
    have hstarts : w.starts.filter (!·.isTerminal) = [] := by
      rw [List.filter_eq_nil_iff]
      intro n hn
      rw [isTerminal_of_isStart (List.mem_filter.1 hn).2]
      exact Bool.false_ne_true
    have hends : w.ends.filter (!·.isTerminal) = [] := by
      rw [List.filter_eq_nil_iff]
      intro n hn
      rw [isTerminal_of_isEnd (List.mem_filter.1 hn).2]
      exact Bool.false_ne_true
    rw [keptNodes, List.filter_append, List.filter_append, hstarts, hinner, hends, List.append_nil,
      List.nil_append]

/-- The start nodes come back, in order, unless they are left out. -/
theorem starts_restored (hnd : w.nodeIds.Nodup) (h : w.IsRestorable) :
    (w.restored s now settings shape).starts =
      (if shape = .backend then [] else w.starts).map fun n =>
        Spec.restored w.nodes (keptPlace shape n) n := by
  rw [starts, nodes_restored hnd h, List.filter_map, ← filter_isStart_keptNodes]
  rfl

/-- The end nodes come back, in order, unless they are left out. -/
theorem ends_restored (hnd : w.nodeIds.Nodup) (h : w.IsRestorable) :
    (w.restored s now settings shape).ends =
      (if shape = .backend then [] else w.ends).map fun n =>
        Spec.restored w.nodes (keptPlace shape n) n := by
  rw [ends, nodes_restored hnd h, List.filter_map, ← filter_isEnd_keptNodes]
  rfl

/-- The nodes that are neither start nor end nodes come back from every shape, in order. -/
theorem inner_restored (hnd : w.nodeIds.Nodup) (h : w.IsRestorable) :
    (w.restored s now settings shape).inner =
      w.inner.map fun n => Spec.restored w.nodes (keptPlace shape n) n := by
  rw [inner, nodes_restored hnd h, List.filter_map, ← filter_inner_keptNodes shape]
  rfl

theorem startId?_restored (hnd : w.nodeIds.Nodup) (h : w.IsRestorable) :
    Spec.startId? (w.restored s now settings shape) =
      if shape = .backend then none else Spec.startId? w := by
  rw [Spec.startId?, start?, starts_restored hnd h, List.head?_map, Option.map_map]
  cases shape <;> rfl

theorem endIds_restored (hnd : w.nodeIds.Nodup) (h : w.IsRestorable) :
    Spec.endIds (w.restored s now settings shape) =
      if shape = .backend then [] else Spec.endIds w := by
  rw [Spec.endIds, ends_restored hnd h, List.map_map]
  cases shape <;> rfl

/-! ## The edges -/

/-- The nodes that the sentinels stand for in a workflow. -/
def terminals (w : Workflow) : Spec.Terminals :=
  ⟨Spec.startId? w, (Spec.endIds w).head?⟩

/-- The edges of the workflow of any spec. -/
theorem edges_toWorkflow (s : Surroundings) (settings : Settings) (spec : Spec) :
    (spec.toWorkflow s settings).value.edges =
      Spec.restoreAll settings (spec.toWorkflow s settings).value.terminals 1
        ((spec.metadata.map (·.edgeDetails)).getD []) (Spec.wireArrows spec.groups) := by
  have hterminals : (spec.toWorkflow s settings).value.terminals =
      ⟨(spec.restoreNodes.value.find? (·.isStart)).map (·.id),
        (spec.restoreNodes.value.find? (·.isEnd)).map (·.id)⟩ := by
    rw [terminals, Spec.startId?, Spec.endIds, start?, starts, ends, List.head?_map,
      List.head?_filter, List.head?_filter]
    rfl
  rw [hterminals, ← Spec.value_restoreGroups]
  rfl

/-- The routes of the edges of any spec, whatever details it keeps. -/
theorem route_toWorkflow (s : Surroundings) (settings : Settings) (spec : Spec) :
    (spec.toWorkflow s settings).value.edges.map Edge.route =
      (Spec.wireArrows spec.groups).map fun x =>
        x.2.route (spec.toWorkflow s settings).value.terminals x.1 := by
  rw [edges_toWorkflow, Spec.route_restoreAll]

/-- Each edge of a spec has the route of a target in one of its groups. -/
theorem exists_route_of_mem {spec : Spec} {e : Edge}
    (he : e ∈ (spec.toWorkflow s settings).value.edges) :
    ∃ x ∈ Spec.wireArrows spec.groups,
      x.2.route (spec.toWorkflow s settings).value.terminals x.1 = e.route := by
  have hroute : e.route ∈ (spec.toWorkflow s settings).value.edges.map Edge.route :=
    List.mem_map_of_mem he
  rwa [route_toWorkflow, List.mem_map] at hroute

/-- The edges of a spec have conditions apart from their settings exactly if they are conditional. -/
theorem isConditional_toWorkflow {spec : Spec} {e : Edge}
    (he : e ∈ (spec.toWorkflow s settings).value.edges) : e.isConditional = e.condition.isSome := by
  obtain ⟨x, -, hx⟩ := exists_route_of_mem he
  have hcond : x.2.condition.isSome = e.isConditional := congrArg Route.isConditional hx
  have hcondition : x.2.condition = e.condition := congrArg Route.condition hx
  rw [← hcond, hcondition]

/-- A sentinel that is left over stands for no node, or for one that is named like it. -/
theorem eq_sentinel_of_resolveSentinel {sentinel name : String} {node? : Option String}
    (h : Spec.resolveSentinel sentinel node? name = sentinel) : ∀ id ∈ node?, id = sentinel := by
  rintro id ⟨⟩
  unfold Spec.resolveSentinel at h
  split at h
  · exact h
  · next hne => exact absurd h hne

theorem resolvesStart_toWorkflow (s : Surroundings) (settings : Settings) (spec : Spec) :
    Spec.ResolvesStart (spec.toWorkflow s settings).value := by
  intro e he hsource
  obtain ⟨x, -, hx⟩ := exists_route_of_mem he
  have hname := congrArg Route.source hx
  exact eq_sentinel_of_resolveSentinel (hname.trans hsource)

theorem resolvesEnd_toWorkflow (s : Surroundings) (settings : Settings) (spec : Spec) :
    Spec.ResolvesEnd (spec.toWorkflow s settings).value := by
  intro e he htarget
  obtain ⟨x, -, hx⟩ := exists_route_of_mem he
  have hname := congrArg Route.target hx
  exact eq_sentinel_of_resolveSentinel (hname.trans htarget)

/-- The edges come back in the order of the groups, with the routes that the groups state. -/
theorem route_restored (htargets : Spec.HaveTargets shape w.edges) :
    (w.restored s now settings shape).edges.map Edge.route =
      (Spec.arrangedEdges shape settings w).map fun e =>
        (Spec.arrowOf settings (Spec.endIds w) e).route (w.restored s now settings shape).terminals
          (Spec.sourceName (Spec.startId? w) e.source) := by
  have hgroups : (w.compiled now settings shape).storable.groups =
      Spec.groupsOf shape settings w := rfl
  rw [restored, route_toWorkflow, hgroups, Spec.wireArrows_groupsOf htargets, List.map_map]
  rfl

end Workflow

end WorkflowGraph
