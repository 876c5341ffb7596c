import Mathlib.Data.List.Nodup
import WorkflowGraph.Workflow.Check

/-!
# Workflows without problems

The problems of a workflow are collected along its nodes and its edges, with the ids met so far. That
there is none is told by the nodes and edges one by one and by their ids as a whole. Main statement:
`problems_eq_nil_iff`.
-/

namespace WorkflowGraph.Workflow

/-- Nodes of distinct ids, edges of distinct ids that lead from node to node, one start and one end at
most, and nothing is wrong with any node or edge by itself. -/
structure IsSound (w : Workflow) : Prop where
  nodeIds_nodup : w.nodeIds.Nodup
  edgeIds_nodup : w.edgeIds.Nodup
  starts_le_one : w.starts.length ≤ 1
  ends_le_one : w.ends.length ≤ 1
  source_mem : ∀ e ∈ w.edges, e.source ∈ w.nodeIds
  target_mem : ∀ e ∈ w.edges, e.target ∈ w.nodeIds
  nodes_sound : ∀ n ∈ w.nodes, n.problems = []
  edges_sound : ∀ e ∈ w.edges, e.problems = []

theorem ite_singleton_eq_nil_iff {p : Prop} [Decidable p] {text : String} :
    (if p then [text] else []) = [] ↔ ¬p := by
  by_cases hp : p <;> simp [hp]

/-- Ids that are not met again after the first nor after it are distinct. -/
theorem forall_new_cons_iff {α : Type} (id : α → String) (sound : α → Prop) {seen : List String}
    {a : α} {as : List α} :
    (id a ∉ seen ∧ sound a) ∧ (∀ b ∈ as, id b ∉ id a :: seen ∧ sound b) ∧ (as.map id).Nodup ↔
      (∀ b ∈ a :: as, id b ∉ seen ∧ sound b) ∧ ((a :: as).map id).Nodup := by
  rw [List.map_cons, List.nodup_cons]
  constructor
  · rintro ⟨⟨hid, ha⟩, hrest, hnd⟩
    refine ⟨fun b hb => ?_, fun hmem => ?_, hnd⟩
    · rcases List.mem_cons.1 hb with rfl | hb
      · exact ⟨hid, ha⟩
      · exact ⟨fun hseen => (hrest b hb).1 (List.mem_cons_of_mem _ hseen), (hrest b hb).2⟩
    · obtain ⟨b, hb, heq⟩ := List.mem_map.1 hmem
      exact (hrest b hb).1 (heq ▸ List.mem_cons_self)
  · rintro ⟨hall, hnew, hnd⟩
    refine ⟨hall a List.mem_cons_self, fun b hb => ⟨fun hseen => ?_, ?_⟩, hnd⟩
    · rcases List.mem_cons.1 hseen with heq | hseen
      · exact hnew (heq ▸ List.mem_map_of_mem hb)
      · exact (hall b (List.mem_cons_of_mem _ hb)).1 hseen
    · exact (hall b (List.mem_cons_of_mem _ hb)).2

theorem nodeProblems_eq_nil_iff {seen : List String} {nodes : List Node} :
    nodeProblems seen nodes = [] ↔
      (∀ n ∈ nodes, n.id ∉ seen ∧ n.problems = []) ∧ (nodes.map (·.id)).Nodup := by
  -- the ids that were seen grow along the list
  induction nodes generalizing seen with
  | nil => simp [nodeProblems]
  | cons n nodes ih =>
    rw [nodeProblems, List.append_eq_nil_iff, List.append_eq_nil_iff, ite_singleton_eq_nil_iff,
      List.contains_iff_mem, ih]
    exact forall_new_cons_iff Node.id fun n => n.problems = []

theorem endpointProblems_eq_nil_iff {nodeIds : List String} {e : Edge} {endpoint : String} :
    endpointProblems nodeIds e endpoint = [] ↔ endpoint ∈ nodeIds := by
  unfold endpointProblems
  split
  · next h => exact iff_of_true rfl (List.contains_iff_mem.1 h)
  · next h => exact iff_of_false (List.cons_ne_nil _ _) fun hmem => h (List.contains_iff_mem.2 hmem)

theorem edgeProblems_eq_nil_iff {nodeIds seen : List String} {edges : List Edge} :
    edgeProblems nodeIds seen edges = [] ↔
      (∀ e ∈ edges, e.id ∉ seen ∧ e.source ∈ nodeIds ∧ e.target ∈ nodeIds ∧ e.problems = []) ∧
        (edges.map (·.id)).Nodup := by
  induction edges generalizing seen with
  | nil => simp [edgeProblems]
  | cons e edges ih =>
    rw [edgeProblems, List.append_eq_nil_iff, List.append_eq_nil_iff, List.append_eq_nil_iff,
      List.append_eq_nil_iff, ite_singleton_eq_nil_iff, List.contains_iff_mem,
      endpointProblems_eq_nil_iff, endpointProblems_eq_nil_iff, ih]
    refine Iff.trans (and_congr ?_ Iff.rfl) (forall_new_cons_iff Edge.id
      fun e => e.source ∈ nodeIds ∧ e.target ∈ nodeIds ∧ e.problems = [])
    rw [and_assoc, and_assoc]

theorem terminalProblems_eq_nil_iff {w : Workflow} :
    w.terminalProblems = [] ↔ w.starts.length ≤ 1 ∧ w.ends.length ≤ 1 := by
  rw [terminalProblems, List.append_eq_nil_iff, ite_singleton_eq_nil_iff, ite_singleton_eq_nil_iff,
    Nat.not_lt, Nat.not_lt]

theorem problems_eq_nil_iff {w : Workflow} : w.problems = [] ↔ w.IsSound := by
  rw [problems, List.append_eq_nil_iff, List.append_eq_nil_iff, nodeProblems_eq_nil_iff,
    terminalProblems_eq_nil_iff, edgeProblems_eq_nil_iff]
  constructor
  · rintro ⟨⟨⟨hnodes, hnodeIds⟩, hstarts, hends⟩, hedges, hedgeIds⟩
    exact ⟨hnodeIds, hedgeIds, hstarts, hends, fun e he => (hedges e he).2.1,
      fun e he => (hedges e he).2.2.1, fun n hn => (hnodes n hn).2,
      fun e he => (hedges e he).2.2.2⟩
  · intro h
    exact ⟨⟨⟨fun n hn => ⟨List.not_mem_nil, h.nodes_sound n hn⟩, h.nodeIds_nodup⟩,
      h.starts_le_one, h.ends_le_one⟩,
      fun e he => ⟨List.not_mem_nil, h.source_mem e he, h.target_mem e he, h.edges_sound e he⟩,
      h.edgeIds_nodup⟩

end WorkflowGraph.Workflow
