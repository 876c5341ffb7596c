import WorkflowGraph.Proofs.Renaming

/-!
# Renaming a node back

Where a node has been given another id, the old id can be given back. The first renaming takes the old
id from all that has it, and the second one gives it to all that has the new id by then; so all is as
it was exactly if nothing had the new id before. Main statement: `renameNode_back`.
-/

namespace WorkflowGraph

variable {old new : String}

/-- An id comes back exactly if it was not the new one to begin with. -/
theorem renamedId_back_iff (hne : old ≠ new) {id : String} :
    renamedId new old (renamedId old new id) = id ↔ id ≠ new := by
  by_cases hold : id = old
  · rw [hold, renamedId_self, renamedId_self]
    exact iff_of_true rfl hne
  · rw [renamedId_of_ne hold]
    by_cases hnew : id = new
    · rw [hnew, renamedId_self]
      exact iff_of_false hne fun h => h rfl
    · exact iff_of_true (renamedId_of_ne hnew) hnew

namespace Reference

/-- A reference is made of its head and of what stands after the first dot. -/
theorem make_tail {s head : String} (h : head? s = some head) : make head (tail s) = s := by
  obtain ⟨hdot, rest, hs⟩ := head?_eq_some_iff.1 h
  have hmake : s = make head (String.ofList rest) := by
    rw [← String.toList_inj, toList_make, hs, String.toList_ofList]
  rw [hmake, tail_make hdot]

theorem make_left_injective {a b output : String} (h : make a output = make b output) : a = b := by
  rw [← String.toList_inj, toList_make, toList_make, List.cons.injEq] at h
  exact String.toList_inj.1 (List.append_cancel_right h.2)

end Reference

/-! ## Ports -/

namespace Port

theorem refersTo_iff {id : String} {p : Port} :
    Node.portRefersTo id p = true ↔
      p.binding = .connection ∧ ∃ s, p.value = .str s ∧ Reference.head? s = some id := by
  rw [Node.portRefersTo, Bool.and_eq_true, decide_eq_true_eq, beq_iff_eq]
  refine and_congr_right fun _ => ?_
  cases p.value <;> simp [Json.referenceHead?, Json.text?]

theorem redirected_of_head? {p : Port} {s : String} (hbinding : p.binding = .connection)
    (hvalue : p.value = .str s) (hhead : Reference.head? s = some old) (new : String) :
    p.redirected old new = p.withReference (.str (Reference.make new (Reference.tail s))) := by
  have hrefers : Node.portRefersTo old p = true := refersTo_iff.2 ⟨hbinding, s, hvalue, hhead⟩
  rw [redirected, if_pos hrefers, hvalue, Node.redirected]

/-- A reference comes back exactly if it was not to the new id to begin with. -/
theorem redirected_back_iff (hne : old ≠ new) (hdot : '.' ∉ new.toList) {p : Port} :
    (p.redirected old new).redirected new old = p ↔ ¬Node.portRefersTo new p = true := by
  by_cases hold : Node.portRefersTo old p = true
  · obtain ⟨hbinding, s, hvalue, hhead⟩ := refersTo_iff.1 hold
    -- there and back, the same rest is put after the new head and after the old one
    have hback : (p.redirected old new).redirected new old = p := by
      have hthere := redirected_of_head? hbinding hvalue hhead new
      have hbindingThere : (p.redirected old new).binding = .connection := by rw [hthere]; exact hbinding
      rw [redirected_of_head? hbindingThere (congrArg Port.value hthere)
        (Reference.head?_make hdot _) old, Reference.tail_make hdot, Reference.make_tail hhead, hthere,
        ← hvalue]
      rfl
    refine iff_of_true hback fun hnew => ?_
    obtain ⟨-, t, ht, hheadNew⟩ := refersTo_iff.1 hnew
    obtain rfl : s = t := Json.str.inj (hvalue.symm.trans ht)
    exact hne (Option.some.inj (hhead.symm.trans hheadNew))
  · have hsame : p.redirected old new = p := if_neg hold
    rw [hsame]
    by_cases hnew : Node.portRefersTo new p = true
    · obtain ⟨hbinding, s, hvalue, hhead⟩ := refersTo_iff.1 hnew
      refine iff_of_false (fun hback => ?_) fun h => h hnew
      -- the reference is to the old id now, and keeps what stands after the dot
      rw [redirected_of_head? hbinding hvalue hhead] at hback
      have htext := Json.str.inj ((congrArg Port.value hback).trans hvalue)
      exact hne (Reference.make_left_injective (htext.trans (Reference.make_tail hhead).symm))
    · exact iff_of_true (if_neg hnew) hnew

end Port

/-! ## Nodes and edges -/

/-- All values are as they were exactly if each is. -/
theorem Table.map_eq_self_iff {α : Type} {t : Table α} {f : α → α} :
    (t.map fun _ a => f a) = t ↔ ∀ e ∈ t.entries, f e.2 = e.2 := by
  refine ⟨fun h e he => ?_, fun h => map_eq_self h⟩
  have hentries : t.entries.map (fun e => (e.1, f e.2)) = t.entries.map id := by
    rw [List.map_id]
    exact congrArg Table.entries h
  exact congrArg Prod.snd (List.map_eq_map_iff.1 hentries e he)

namespace Workflow

variable {w : Workflow}

theorem renamedNode_eq (old new : String) (n : Node) :
    renamedNode old new n =
      { n with
        id := renamedId old new n.id
        inputs := n.inputs.map fun _ p => p.redirected old new } := by
  unfold renamedNode renamedId
  split <;> rfl

theorem renamedNode_back_iff (hne : old ≠ new) (hdot : '.' ∉ new.toList) {n : Node} :
    renamedNode new old (renamedNode old new n) = n ↔
      n.id ≠ new ∧ ∀ e ∈ n.inputs.entries, ¬Node.portRefersTo new e.2 = true := by
  have hinputs : (n.inputs.map fun _ p => (p.redirected old new).redirected new old) = n.inputs ↔
      ∀ e ∈ n.inputs.entries, ¬Node.portRefersTo new e.2 = true :=
    Table.map_eq_self_iff.trans (forall₂_congr fun _ _ => Port.redirected_back_iff hne hdot)
  rw [← renamedId_back_iff hne, ← hinputs, renamedNode_eq, renamedNode_eq, Table.map_map]
  cases n
  simp

theorem renamedEdge_back_iff (hne : old ≠ new) {e : Edge} :
    renamedEdge new old (renamedEdge old new e) = e ↔ e.source ≠ new ∧ e.target ≠ new := by
  rw [← renamedId_back_iff hne, ← renamedId_back_iff hne]
  cases e
  simp [renamedEdge, Edge.withEndpoints, renamedId]

/-! ## Workflows -/

/-- Nothing in the workflow has the id: no node, no end of an edge, and no reference that a port is
bound to. -/
@[mk_iff]
structure LacksId (w : Workflow) (id : String) : Prop where
  not_node : id ∉ w.nodeIds
  not_endpoint : ∀ e ∈ w.edges, e.source ≠ id ∧ e.target ≠ id
  not_head : ∀ n ∈ w.nodes, ∀ e ∈ n.inputs.entries,
    e.2.binding = .connection → e.2.value.referenceHead? ≠ some id

instance (w : Workflow) (id : String) : Decidable (w.LacksId id) :=
  decidable_of_iff' _ (lacksId_iff w id)

theorem renamed_back_iff (hold : old ∈ w.nodeIds) (hnew : new ∉ w.nodeIds)
    (hdot : '.' ∉ new.toList) (now later : Timestamp) :
    (w.renamed now old new).renamed later new old = { w with updatedAt := later } ↔
      w.LacksId new := by
  have hne : old ≠ new := ne_of_mem_of_not_mem hold hnew
  have hnodes : (w.nodes.map (renamedNode old new)).map (renamedNode new old) = w.nodes ↔
      ∀ n ∈ w.nodes, n.id ≠ new ∧ ∀ e ∈ n.inputs.entries, ¬Node.portRefersTo new e.2 = true := by
    rw [List.map_map]
    nth_rewrite 2 [← List.map_id w.nodes]
    rw [List.map_eq_map_iff]
    exact forall₂_congr fun _ _ => renamedNode_back_iff hne hdot
  have hedges : (w.edges.map (renamedEdge old new)).map (renamedEdge new old) = w.edges ↔
      ∀ e ∈ w.edges, e.source ≠ new ∧ e.target ≠ new := by
    rw [List.map_map]
    nth_rewrite 2 [← List.map_id w.edges]
    rw [List.map_eq_map_iff]
    exact forall₂_congr fun _ _ => renamedEdge_back_iff hne
  simp only [renamed, Workflow.mk.injEq, true_and, and_true, hnodes, hedges]
  constructor
  · rintro ⟨hn, he⟩
    refine ⟨hnew, he, fun n hmem e hport hbinding hhead => (hn n hmem).2 e hport ?_⟩
    rw [Node.portRefersTo, hbinding, hhead]
    simp
  · intro h
    refine ⟨fun n hmem => ⟨?_, fun e hport hrefers => ?_⟩, h.not_endpoint⟩
    · rintro rfl
      exact h.not_node (List.mem_map_of_mem hmem)
    · rw [Node.portRefersTo, Bool.and_eq_true, decide_eq_true_eq, beq_iff_eq] at hrefers
      exact h.not_head n hmem e hport hrefers.1 hrefers.2

/-- A node that is given an id without a dot which no node has can be given its id back. Nothing else
than the time of the last change differs then, exactly if nothing had the id. -/
theorem renameNode_back (hold : old ∈ w.nodeIds) (hnew : new ∉ w.nodeIds)
    (hdot : '.' ∉ new.toList) (now later : Timestamp) :
    ∃ there back, w.renameNode now old new = .ok there ∧ there.renameNode later new old = .ok back ∧
      (back = { w with updatedAt := later } ↔ w.LacksId new) := by
  have hne : old ≠ new := ne_of_mem_of_not_mem hold hnew
  obtain ⟨n, hn, hid⟩ := List.mem_map.1 hold
  have hthere : new ∈ (w.renamed now old new).nodeIds := by
    refine List.mem_map.2 ⟨renamedNode old new n, List.mem_map_of_mem hn, ?_⟩
    rw [id_renamedNode, hid, renamedId_self]
  have hfree : old ∉ (w.renamed now old new).nodeIds := by
    intro hmem
    obtain ⟨_, hm, hmid⟩ := List.mem_map.1 hmem
    obtain ⟨m, -, rfl⟩ := List.mem_map.1 hm
    rw [id_renamedNode] at hmid
    by_cases hmold : m.id = old
    · rw [hmold, renamedId_self] at hmid
      exact hne hmid.symm
    · rw [renamedId_of_ne hmold] at hmid
      exact hmold hmid
  exact ⟨_, _, renameNode_of_mem hold hnew now, renameNode_of_mem hthere hfree later,
    renamed_back_iff hold hnew hdot now later⟩

theorem renameNode_back_questions :
    ∃ there back, questions.renameNode noon "ask" "question" = .ok there ∧
      there.renameNode noon "question" "ask" = .ok back ∧
      back = { questions with updatedAt := noon } := by
  have hold : "ask" ∈ questions.nodeIds := by decide
  have hlacks : questions.LacksId "question" := by decide
  obtain ⟨there, back, hthere, hback, hsame⟩ :=
    renameNode_back hold hlacks.not_node (by decide) noon noon
  exact ⟨there, back, hthere, hback, hsame.2 hlacks⟩

end Workflow

end WorkflowGraph
