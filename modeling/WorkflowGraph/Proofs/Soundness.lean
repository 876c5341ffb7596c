import Mathlib.Logic.Relation
import WorkflowGraph.Proofs.Check
import WorkflowGraph.Proofs.Edit
import WorkflowGraph.Proofs.Resolution

/-!
# Workflows that stay valid

A workflow has no problems exactly if it is well formed, which is said here of its ids, its edges, its
ports and its settings without the walk that collects the problems. It stays well formed where nodes
and edges are removed and nodes are renamed, where references are resolved, and where what is added has
no problems itself. Main statement: `problems_of_changes`.
-/

namespace WorkflowGraph

theorem Port.problems_eq_nil_iff {name : String} {p : Port} :
    Port.problems name p = [] ↔ (p.dataType = .foreign → p.binding = .connection) := by
  rw [problems, Workflow.ite_singleton_eq_nil_iff, Bool.and_eq_true, decide_eq_true_eq,
    decide_eq_true_eq, not_and, Classical.not_not]

theorem Node.problems_eq_nil_iff {n : Node} : n.problems = [] ↔
    (∀ e ∈ n.inputs.entries, e.2.dataType = .foreign → e.2.binding = .connection) ∧
      ∀ c, n.config = some c → c.problem? = none := by
  rw [problems, List.append_eq_nil_iff, List.flatMap_eq_nil_iff]
  refine and_congr (forall₂_congr fun e _ => ?_) ?_
  · rw [List.map_eq_nil_iff, Port.problems_eq_nil_iff]
  · cases hc : n.config with
    | none => simp
    | some c => cases hproblem : c.problem? <;> simp [hproblem]

theorem Edge.problems_eq_nil_iff {e : Edge} :
    e.problems = [] ↔ ∀ c, e.config = some c → c.problem? = none := by
  rw [problems]
  cases hc : e.config with
  | none => simp
  | some c => cases hproblem : c.problem? <;> simp [hproblem]

namespace Workflow

/-- Ids are distinct, starts and ends are single, edges lead from node to node, ports of the type
foreign are bound to outputs, and all settings pass their own checks. -/
structure IsWellFormed (w : Workflow) : Prop extends IsOrderly w where
  source_mem : ∀ e ∈ w.edges, e.source ∈ w.nodeIds
  target_mem : ∀ e ∈ w.edges, e.target ∈ w.nodeIds
  foreign_connected : ∀ n ∈ w.nodes, ∀ e ∈ n.inputs.entries,
    e.2.dataType = .foreign → e.2.binding = .connection
  nodes_checked : ∀ n ∈ w.nodes, ∀ c, n.config = some c → c.problem? = none
  edges_checked : ∀ e ∈ w.edges, ∀ c, e.config = some c → c.problem? = none

variable {w r : Workflow} {now : Timestamp}

theorem problems_eq_nil_iff_isWellFormed : w.problems = [] ↔ w.IsWellFormed := by
  rw [problems_eq_nil_iff]
  constructor
  · intro h
    have hnode := fun n hn => Node.problems_eq_nil_iff.1 (h.nodes_sound n hn)
    exact ⟨⟨h.nodeIds_nodup, h.edgeIds_nodup, h.starts_le_one, h.ends_le_one⟩, h.source_mem,
      h.target_mem, fun n hn => (hnode n hn).1, fun n hn => (hnode n hn).2,
      fun e he => Edge.problems_eq_nil_iff.1 (h.edges_sound e he)⟩
  · intro h
    exact ⟨h.nodeIds_nodup, h.edgeIds_nodup, h.starts_le_one, h.ends_le_one, h.source_mem,
      h.target_mem,
      fun n hn => Node.problems_eq_nil_iff.2 ⟨h.foreign_connected n hn, h.nodes_checked n hn⟩,
      fun e he => Edge.problems_eq_nil_iff.2 (h.edges_checked e he)⟩

theorem isWellFormed_of_empty (hnodes : w.nodes = []) (hedges : w.edges = []) : w.IsWellFormed := by
  refine ⟨isOrderly_of_empty hnodes hedges, ?_, ?_, ?_, ?_, ?_⟩ <;> simp [hnodes, hedges]

/-! ## Changes -/

namespace IsWellFormed

/-- The edges at a node are removed with it, so that all others still lead from node to node. -/
theorem removeNode (h : w.IsWellFormed) (now : Timestamp) (id : String) :
    (w.removeNode now id).IsWellFormed := by
  have hkept : ∀ other, other ≠ id → other ∈ w.nodeIds → other ∈ (w.removeNode now id).nodeIds := by
    rintro other hne hmem
    obtain ⟨n, hn, rfl⟩ := List.mem_map.1 hmem
    exact List.mem_map_of_mem (List.mem_filter.2 ⟨hn, bne_iff_ne.2 hne⟩)
  have hedge : ∀ e ∈ (w.removeNode now id).edges, e ∈ w.edges ∧ e.source ≠ id ∧ e.target ≠ id := by
    intro e he
    simpa using List.mem_filter.1 he
  have hnode : ∀ n ∈ (w.removeNode now id).nodes, n ∈ w.nodes :=
    fun n hn => (List.mem_filter.1 hn).1
  refine ⟨h.toIsOrderly.removeNode now id, fun e he => ?_, fun e he => ?_,
    fun n hn => h.foreign_connected n (hnode n hn), fun n hn => h.nodes_checked n (hnode n hn),
    fun e he => h.edges_checked e (hedge e he).1⟩
  · obtain ⟨hmem, hsource, -⟩ := hedge e he
    exact hkept e.source hsource (h.source_mem e hmem)
  · obtain ⟨hmem, -, htarget⟩ := hedge e he
    exact hkept e.target htarget (h.target_mem e hmem)

theorem removeEdge (h : w.IsWellFormed) (now : Timestamp) (id : String) :
    (w.removeEdge now id).IsWellFormed := by
  have hedge : ∀ e ∈ (w.removeEdge now id).edges, e ∈ w.edges :=
    fun e he => (List.mem_filter.1 he).1
  exact ⟨h.toIsOrderly.removeEdge now id, fun e he => h.source_mem e (hedge e he),
    fun e he => h.target_mem e (hedge e he), h.foreign_connected, h.nodes_checked,
    fun e he => h.edges_checked e (hedge e he)⟩

/-- Ends of edges are renamed with the nodes, and a redirected port is bound as it was. -/
theorem renameNode (h : w.IsWellFormed) {old new : String} (hr : w.renameNode now old new = .ok r) :
    r.IsWellFormed := by
  have horderly := h.toIsOrderly.renameNode hr
  obtain ⟨-, ⟨-, rfl⟩ | ⟨-, rfl⟩⟩ := renameNode_eq_ok_iff.1 hr
  · exact h
  · refine ⟨horderly, fun e he => ?_, fun e he => ?_, fun n hn e he => ?_, fun n hn => ?_,
      fun e he => ?_⟩
    · -- sources
      obtain ⟨f, hf, rfl⟩ := List.mem_map.1 he
      rw [nodeIds_renamed]
      exact List.mem_map_of_mem (h.source_mem f hf)
    · -- targets
      obtain ⟨f, hf, rfl⟩ := List.mem_map.1 he
      rw [nodeIds_renamed]
      exact List.mem_map_of_mem (h.target_mem f hf)
    · -- ports: only the value of a connection changes
      obtain ⟨m, hm, rfl⟩ := List.mem_map.1 hn
      rw [inputs_renamedNode] at he
      obtain ⟨f, hf, rfl⟩ := List.mem_map.1 he
      have hport := h.foreign_connected m hm f hf
      simp only [Port.redirected]
      split
      · exact hport
      · exact hport
    · -- settings of nodes
      obtain ⟨m, hm, rfl⟩ := List.mem_map.1 hn
      rw [config_renamedNode]
      exact h.nodes_checked m hm
    · -- settings of edges
      obtain ⟨f, hf, rfl⟩ := List.mem_map.1 he
      exact h.edges_checked f hf

theorem addNode (h : w.IsWellFormed) {n : Node} (hn : n.problems = [])
    (hr : w.addNode now n = .ok r) : r.IsWellFormed := by
  have horderly := h.toIsOrderly.addNode hr
  obtain ⟨hports, hsettings⟩ := Node.problems_eq_nil_iff.1 hn
  obtain ⟨-, rfl⟩ := addNode_eq_ok_iff.1 hr
  have hkept : ∀ id ∈ w.nodeIds, id ∈ (w.nodes ++ [n]).map (·.id) := by
    intro id hid
    rw [List.map_append]
    exact List.mem_append_left _ hid
  have hadded {p : Node → Prop} (hall : ∀ m ∈ w.nodes, p m) (hnew : p n) : ∀ m ∈ w.nodes ++ [n], p m :=
    List.forall_mem_append.2 ⟨hall, List.forall_mem_singleton.2 hnew⟩
  exact ⟨horderly, fun e he => hkept _ (h.source_mem e he), fun e he => hkept _ (h.target_mem e he),
    hadded h.foreign_connected hports, hadded h.nodes_checked hsettings, h.edges_checked⟩

theorem addEdge (h : w.IsWellFormed) {e : Edge} (hsource : e.source ∈ w.nodeIds)
    (htarget : e.target ∈ w.nodeIds) (he : e.problems = []) (hr : w.addEdge now e = .ok r) :
    r.IsWellFormed := by
  have horderly := h.toIsOrderly.addEdge hr
  obtain ⟨-, rfl⟩ := addEdge_eq_ok_iff.1 hr
  have hadded {p : Edge → Prop} (hall : ∀ f ∈ w.edges, p f) (hnew : p e) : ∀ f ∈ w.edges ++ [e], p f :=
    List.forall_mem_append.2 ⟨hall, List.forall_mem_singleton.2 hnew⟩
  exact ⟨horderly, hadded h.source_mem hsource, hadded h.target_mem htarget, h.foreign_connected,
    h.nodes_checked, hadded h.edges_checked (Edge.problems_eq_nil_iff.1 he)⟩

theorem resolveReferences (h : w.IsWellFormed) (hr : w.resolveReferences.result = .ok r) :
    r.IsWellFormed := by
  obtain ⟨-, rfl⟩ := result_resolveReferences_eq_ok_iff.1 hr
  rw [← problems_eq_nil_iff_isWellFormed, problems_resolved, problems_eq_nil_iff_isWellFormed]
  exact h

end IsWellFormed

/-- The workflow comes from the other by a change of its structure, where a node that is added has no
problems, and an edge that is added has none and leads from node to node. -/
inductive StructuralChange (w : Workflow) : Workflow → Prop
  | removeNode (now : Timestamp) (id : String) : StructuralChange w (w.removeNode now id)
  | removeEdge (now : Timestamp) (id : String) : StructuralChange w (w.removeEdge now id)
  | renameNode {now : Timestamp} {old new : String} {r : Workflow}
      (hr : w.renameNode now old new = .ok r) : StructuralChange w r
  | addNode {now : Timestamp} {n : Node} {r : Workflow} (hn : n.problems = [])
      (hr : w.addNode now n = .ok r) : StructuralChange w r
  | addEdge {now : Timestamp} {e : Edge} {r : Workflow} (hsource : e.source ∈ w.nodeIds)
      (htarget : e.target ∈ w.nodeIds) (he : e.problems = []) (hr : w.addEdge now e = .ok r) :
      StructuralChange w r
  | resolveReferences {r : Workflow} (hr : w.resolveReferences.result = .ok r) :
      StructuralChange w r

theorem IsWellFormed.change (h : w.IsWellFormed) (hr : StructuralChange w r) : r.IsWellFormed := by
  cases hr with
  | removeNode now id => exact h.removeNode now id
  | removeEdge now id => exact h.removeEdge now id
  | renameNode hr => exact h.renameNode hr
  | addNode hn hr => exact h.addNode hn hr
  | addEdge hsource htarget he hr => exact h.addEdge hsource htarget he hr
  | resolveReferences hr => exact h.resolveReferences hr

theorem IsWellFormed.run (h : w.IsWellFormed) (hr : Relation.ReflTransGen StructuralChange w r) :
    r.IsWellFormed := by
  induction hr with
  | refl => exact h
  | tail _ hchange ih => exact ih.change hchange

/-- A workflow has no problems exactly if it is well formed; structural changes leave it without
problems, and so does each run of them that begins with an empty workflow. -/
theorem problems_of_changes (w : Workflow) :
    (w.problems = [] ↔ w.IsWellFormed) ∧
      (w.problems = [] → ∀ r, StructuralChange w r → r.problems = []) ∧
      (w.nodes = [] → w.edges = [] →
        ∀ r, Relation.ReflTransGen StructuralChange w r → r.problems = []) := by
  refine ⟨problems_eq_nil_iff_isWellFormed, fun h r hr => ?_, fun hnodes hedges r hr => ?_⟩
  · rw [problems_eq_nil_iff_isWellFormed] at h ⊢
    exact h.change hr
  · rw [problems_eq_nil_iff_isWellFormed]
    exact (isWellFormed_of_empty hnodes hedges).run hr

/-- A node is removed from the questions, and a start and a step that follows it are added to an empty
workflow. -/
theorem problems_of_changes_questions :
    questions.problems = [] ∧ (questions.removeNode noon "ask").problems = [] ∧
      ∃ r, Relation.ReflTransGen StructuralChange blank r ∧ r.nodeIds = ["begin", "step"] ∧
        r.problems = [] := by
  have hquestions : questions.problems = [] := by decide +kernel
  refine ⟨hquestions, (problems_of_changes questions).2.1 hquestions _ (.removeNode noon "ask"), ?_⟩
  obtain ⟨first, hfirst⟩ : ∃ r, blank.addNode noon (bareNode "begin" "start") = .ok r := ⟨_, rfl⟩
  obtain ⟨second, hsecond⟩ : ∃ r, first.addNode noon (bareNode "step" "custom") = .ok r := by
    cases hfirst
    exact ⟨_, rfl⟩
  have hids : second.nodeIds = ["begin", "step"] := by
    cases hfirst
    cases hsecond
    rfl
  have hrun : Relation.ReflTransGen StructuralChange blank second :=
    (Relation.ReflTransGen.single (.addNode rfl hfirst)).tail (.addNode rfl hsecond)
  exact ⟨second, hrun, hids, (problems_of_changes blank).2.2 rfl rfl second hrun⟩

end Workflow

end WorkflowGraph
