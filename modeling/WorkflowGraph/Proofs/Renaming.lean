import WorkflowGraph.Proofs.RoundTrip
import WorkflowGraph.Proofs.Spec.RenamedGroups

/-!
# Renaming and writing

A node may be renamed before its workflow is written, or its id may be replaced in the spec: the
document is the same. Groups and targets keep their order, references to the node keep what follows
their heads, and the label follows only where there is none and the id stands for it. Main statement:
`toSpecDocument_renameNode`.
-/

namespace WorkflowGraph

namespace Spec

theorem Node.isStorable_renamed (old new : String) (showsId : Bool) (n : Node) :
    (n.renamed old new showsId).isStorable = n.isStorable := by
  have hinput : ∀ e : String × Json,
      (e.2.redirect old new).isStorableUnder 1 = e.2.isStorableUnder 1 :=
    fun e => Json.isStorableUnder_eq_of_height_eq (Json.height_redirect old new e.2) 1
  simp only [isStorable, renamed, Table.entries_map, List.all_append, List.all_map,
    Function.comp_def, hinput]

/-- An id is replaced in a spec that can be stored exactly if the spec that results can be. -/
theorem isStorable_renamed (old new : String) (showsId : Bool) (spec : Spec) :
    (spec.renamed old new showsId).isStorable = spec.isStorable := by
  simp only [isStorable, renamed, List.all_map, Function.comp_def, Node.isStorable_renamed]

end Spec

namespace Workflow

variable {w : Workflow} {old new : String}

/-! ## The renamed workflow -/

theorem renameNode_eq (h : w.CanRename old new) (now : Timestamp) :
    w.renameNode now old new = .ok (w.renamed now old new) :=
  renameNode_of_mem h.old_mem h.new_not_mem now

theorem showsId_iff (hnd : w.nodeIds.Nodup) {n : Node} (hn : n ∈ w.nodes) (hid : n.id = old) :
    w.showsId old = true ↔ n.label = "" := by
  have hnode := exists_of_key_iff hnd hn fun m => m.label == ""
  simp only [hid, beq_iff_eq] at hnode
  simp only [showsId, List.any_eq_true, Bool.and_eq_true, beq_iff_eq, ← hnode, and_comm]

theorem listedNodes_renamed (shape : Shape) (w : Workflow) (now : Timestamp) (old new : String) :
    Spec.listedNodes shape (w.renamed now old new) =
      (Spec.listedNodes shape w).map (renamedNode old new) := by
  simp only [Spec.listedNodes, renamed, List.filter_map, Function.comp_def, Node.isTerminal,
    isStart_renamedNode, isEnd_renamedNode]

theorem isCompilable_renamed (h : w.CanRename old new) {shape : Shape}
    (hshape : shape.keepsMetadata = false) (now : Timestamp) :
    (w.renamed now old new).isCompilable shape = w.isCompilable shape := by
  have hnode : ∀ n ∈ Spec.listedNodes shape w,
      Spec.isCompilable (w.nodes.map (renamedNode old new)) (renamedNode old new n) =
        Spec.isCompilable w.nodes n := by
    intro n hn
    have hmem := (List.mem_filter.1 hn).1
    exact Spec.isCompilable_renamedNode h.toCanRedirect h.new_not_mem (h.nodes_redirect n hmem)
  have hnodes : (Spec.listedNodes shape (w.renamed now old new)).all
      (Spec.isCompilable (w.nodes.map (renamedNode old new))) =
        (Spec.listedNodes shape w).all (Spec.isCompilable w.nodes) := by
    rw [listedNodes_renamed, List.all_map]
    exact all_eq_of_forall_mem hnode
  rw [isCompilable, isCompilable, hshape, Bool.not_false, Bool.true_or, Bool.true_or, Bool.and_true,
    Bool.and_true]
  exact hnodes

/-- The renamed workflow is compiled to the spec of the former with the id replaced. -/
theorem compiled_renamed (h : w.CanRename old new) {shape : Shape}
    (hshape : shape.keepsMetadata = false) (now earlier later : Timestamp) (settings : Settings) :
    (w.renamed now old new).compiled later settings shape =
      (w.compiled earlier settings shape).renamed old new (w.showsId old) := by
  have hnodes : (Spec.listedNodes shape (w.renamed now old new)).map
      (Spec.Node.compiled (w.nodes.map (renamedNode old new)) shape.keepsPositions) =
        ((Spec.listedNodes shape w).map (Spec.Node.compiled w.nodes shape.keepsPositions)).map
          (Spec.Node.renamed old new (w.showsId old)) := by
    rw [listedNodes_renamed, List.map_map, List.map_map]
    refine List.map_congr_left fun n hn => ?_
    have hmem := (List.mem_filter.1 hn).1
    exact Spec.compiled_renamedNode h.toCanRedirect h.new_not_mem (h.nodes_redirect n hmem)
      (showsId_iff h.nodup_nodeIds hmem) shape.keepsPositions
  rw [compiled, Spec.groupsOf_renamed h, hshape, compiled, hshape, Spec.renamed, ← hnodes]
  rfl

/-! ## The document -/

/-- A node is renamed, and the workflow is written as it was, with the old id replaced by the new one:
in nodes, in groups and their targets, in references, and as the label of a node that has none. -/
theorem toSpecDocument_renameNode (h : w.CanRename old new) (shape : Shape)
    (hshape : shape ≠ .enhanced) (now earlier later : Timestamp) (settings : Settings) :
    ∃ r, w.renameNode now old new = .ok r ∧
      (∀ document, (w.toSpecDocument earlier settings shape).result = .ok document →
        ∃ spec, (Spec.ofWorkflow earlier settings shape w).result = .ok spec ∧
          document = spec.toJson ∧
          (r.toSpecDocument later settings shape).result =
            .ok (spec.renamed old new (w.showsId old)).toJson) ∧
      ((∃ document, (r.toSpecDocument later settings shape).result = .ok document) →
        ∃ document, (w.toSpecDocument earlier settings shape).result = .ok document) := by
  have hdata : shape.keepsMetadata = false := decide_eq_false hshape
  have hcompilable := isCompilable_renamed h hdata now
  have hcompiled := compiled_renamed h hdata now earlier later settings
  have hstorable : ((w.renamed now old new).compiled later settings shape).isStorable =
      (w.compiled earlier settings shape).isStorable := by
    rw [hcompiled, Spec.isStorable_renamed]
  refine ⟨w.renamed now old new, renameNode_eq h now, fun document hdocument => ?_, ?_⟩
  · obtain ⟨hnodes, hshallow, rfl⟩ := result_toSpecDocument_eq_ok_iff.1 hdocument
    refine ⟨_, result_ofWorkflow_eq_ok_iff.2 ⟨hnodes, rfl⟩, rfl, ?_⟩
    rw [← hcompiled]
    exact result_toSpecDocument_eq_ok_iff.2
      ⟨hcompilable.trans hnodes, hstorable.trans hshallow, rfl⟩
  · rintro ⟨document, hdocument⟩
    obtain ⟨hnodes, hshallow, -⟩ := result_toSpecDocument_eq_ok_iff.1 hdocument
    exact ⟨_, result_toSpecDocument_eq_ok_iff.2
      ⟨hcompilable.symm.trans hnodes, hstorable.symm.trans hshallow, rfl⟩⟩

theorem toSpecDocument_renameNode_questions :
    ∃ r document spec, questions.renameNode noon "ask" "question" = .ok r ∧
      (questions.toSpecDocument noon {} .backend).result = .ok document ∧
      (Spec.ofWorkflow noon {} .backend questions).result = .ok spec ∧ document = spec.toJson ∧
      (r.toSpecDocument noon {} .backend).result =
        .ok (spec.renamed "ask" "question" (questions.showsId "ask")).toJson := by
  have hrename : questions.CanRename "ask" "question" := by decide
  have hwritable : questions.IsWritable := by decide
  obtain ⟨r, hr, hwritten, -⟩ := toSpecDocument_renameNode hrename .backend (by decide)
    noon noon noon {}
  obtain ⟨document, hdocument⟩ := hwritable.exists_document noon {} .backend
  obtain ⟨spec, hspec, hjson, hrenamed⟩ := hwritten document hdocument
  exact ⟨r, document, spec, hr, hdocument, hspec, hjson, hrenamed⟩

end Workflow

end WorkflowGraph
