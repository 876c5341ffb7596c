import WorkflowGraph.Proofs.Spec.Groups
import WorkflowGraph.Proofs.Spec.Renamed

/-!
# The groups of renamed workflows

An id that is not used so far tells nodes and ends of edges apart as the old one did, and it is no
sentinel. So edges are grouped as before, in the same order, and the start and the ends are found where
they were. Main statement: `groupsOf_renamed`.
-/

namespace WorkflowGraph

/-! ## Workflows -/

/-- The node of an id has no label of its own and is shown as its id. -/
def Workflow.showsId (w : Workflow) (id : String) : Bool :=
  w.nodes.any fun n => n.id == id && n.label == ""

/-- The node of the one id can be given the other: it is the only node of its id, the new id is not
used so far, and neither is a sentinel. -/
@[mk_iff]
structure Workflow.CanRename (w : Workflow) (old new : String) : Prop
    extends Reference.CanRedirect old new where
  nodup_nodeIds : w.nodeIds.Nodup
  old_mem : old ∈ w.nodeIds
  new_not_mem : new ∉ w.nodeIds
  new_not_endpoint : ∀ e ∈ w.edges, e.source ≠ new ∧ e.target ≠ new
  not_start : old ≠ Spec.startSentinel ∧ new ≠ Spec.startSentinel
  not_end : old ≠ Spec.endSentinel ∧ new ≠ Spec.endSentinel
  nodes_redirect : ∀ n ∈ w.nodes, n.CanRedirect new

namespace Workflow

variable {old new : String}

instance (w : Workflow) (old new : String) : Decidable (w.CanRename old new) :=
  decidable_of_iff' _ (canRename_iff w old new)

/-- The workflow that a renaming gives. -/
def renamed (now : Timestamp) (old new : String) (w : Workflow) : Workflow :=
  { w with
    nodes := w.nodes.map (renamedNode old new)
    edges := w.edges.map (renamedEdge old new)
    updatedAt := now }

/-- A node is renamed to its own id, which changes nothing, or to an id that no node has. -/
theorem renameNode_eq_ok_iff {w r : Workflow} {now : Timestamp} : w.renameNode now old new = .ok r ↔
    old ∈ w.nodeIds ∧ (old = new ∧ r = w ∨ new ∉ w.nodeIds ∧ r = w.renamed now old new) := by
  have hlooked : ∀ id, id ∈ w.nodeIds ↔ (w.findNode? id).isSome = true := by
    simp [findNode?, nodeIds]
  rw [hlooked, hlooked, renameNode]
  cases hold : w.findNode? old with
  | none => simp
  | some n =>
    by_cases hsame : old = new
    · subst hsame
      simp [hold, eq_comm]
    · cases hnew : w.findNode? new with
      | none => simp [hsame, eq_comm, renamed]
      | some m => simp [hsame]

/-- A node of the workflow is renamed, if no node has the new id yet. -/
theorem renameNode_of_mem {w : Workflow} (hold : old ∈ w.nodeIds) (hnew : new ∉ w.nodeIds)
    (now : Timestamp) : w.renameNode now old new = .ok (w.renamed now old new) :=
  renameNode_eq_ok_iff.2 ⟨hold, Or.inr ⟨hnew, rfl⟩⟩

theorem source_renamedEdge (old new : String) (e : Edge) :
    (renamedEdge old new e).source = renamedId old new e.source := rfl

@[simp] theorem isStart_renamedNode (old new : String) (n : Node) :
    (renamedNode old new n).isStart = n.isStart := by
  rw [Node.isStart, kind_renamedNode, Node.isStart]

@[simp] theorem isEnd_renamedNode (old new : String) (n : Node) :
    (renamedNode old new n).isEnd = n.isEnd := by
  rw [Node.isEnd, kind_renamedNode, Node.isEnd]

end Workflow

namespace Spec

variable {old new : String} {w : Workflow}

/-! ## The targets of a group -/

theorem contains_map_renamedId {ids : List String} (hids : new ∉ ids) {id : String} (hid : id ≠ new) :
    (ids.map (renamedId old new)).contains (renamedId old new id) = ids.contains id := by
  rw [Bool.eq_iff_iff, List.contains_iff_mem, List.contains_iff_mem, List.mem_map]
  constructor
  · rintro ⟨x, hx, heq⟩
    rwa [← (renamedId_inj (ne_of_mem_of_not_mem hx hids) hid).1 heq]
  · exact fun h => ⟨id, h, rfl⟩

theorem targetId_renamed (hend : old ≠ endSentinel) {ends : List String} (hends : new ∉ ends)
    {target : String} (htarget : target ≠ new) :
    targetId (ends.map (renamedId old new)) (renamedId old new target) =
      renamedId old new (targetId ends target) := by
  rw [targetId, contains_map_renamedId hends htarget, targetId]
  split
  · exact (renamedId_of_ne hend.symm).symm
  · rfl

theorem branchesOf_renamed (settings : Settings) (hend : old ≠ endSentinel) {ends : List String}
    (hends : new ∉ ends) {edges : List Edge} (hedges : ∀ e ∈ edges, e.target ≠ new) :
    branchesOf settings (ends.map (renamedId old new)) (edges.map (Workflow.renamedEdge old new)) =
      (branchesOf settings ends edges).map (Branch.renamed old new) := by
  rw [branchesOf, List.filter_map, List.map_map, branchesOf, List.map_map]
  refine List.map_congr_left fun e he => ?_
  have htarget := targetId_renamed hend hends (hedges e (List.mem_filter.1 he).1)
  exact congrArg (Branch.mk (conditionOf settings e)) htarget

theorem plainTargetsOf_renamed (hend : old ≠ endSentinel) {ends : List String} (hends : new ∉ ends)
    {edges : List Edge} (hedges : ∀ e ∈ edges, e.target ≠ new) :
    plainTargetsOf (ends.map (renamedId old new)) (edges.map (Workflow.renamedEdge old new)) =
      (plainTargetsOf ends edges).map (renamedId old new) := by
  rw [plainTargetsOf, List.filter_map, List.map_map, plainTargetsOf, List.map_map]
  exact List.map_congr_left fun e he => targetId_renamed hend hends (hedges e (List.mem_filter.1 he).1)

theorem assemble_renamed (hold : old ≠ endSentinel) (hnew : new ≠ endSentinel) (shape : Shape)
    (branches : List Branch) (plain : List String) :
    assemble shape (branches.map (Branch.renamed old new)) (plain.map (renamedId old new)) =
      (assemble shape branches plain).renamed old new := by
  have hsentinel : renamedId old new endSentinel = endSentinel := renamedId_of_ne hold.symm
  cases branches with
  | nil => cases plain <;> rfl
  | cons b branches =>
    match plain with
    | [] =>
      cases shape <;> simp [assemble, Targets.renamed, Shape.requiresFallback, hsentinel]
    | [only] =>
      -- a target that is the end is never made the fallback, and no other becomes the end
      have honly : (renamedId old new only != endSentinel) = (only != endSentinel) := by
        rw [Bool.eq_iff_iff, bne_iff_ne, bne_iff_ne, ne_eq, ne_eq,
          renamedId_eq_iff hold.symm hnew.symm]
      simp only [assemble, List.map_cons, List.map_nil, List.isEmpty_cons, Bool.false_eq_true,
        ite_false, honly]
      split <;> rfl
    | p :: q :: plain => rfl

/-! ## The groups -/

variable (h : w.CanRename old new) (now : Timestamp)
include h

theorem new_not_mem_sources : new ∉ sources w := by
  intro hmem
  obtain ⟨e, he, hsource⟩ := mem_sources.1 hmem
  exact (h.new_not_endpoint e he).1 hsource

theorem sources_renamed :
    sources (w.renamed now old new) = (sources w).map (renamedId old new) := by
  have hmap : (w.edges.map (Workflow.renamedEdge old new)).map (·.source) =
      (w.edges.map (·.source)).map (renamedId old new) := by
    rw [List.map_map, List.map_map]
    rfl
  rw [sources, Workflow.renamed, hmap, eraseDups_map, sources]
  intro a ha b hb
  obtain ⟨e, he, rfl⟩ := List.mem_map.1 ha
  obtain ⟨e', he', rfl⟩ := List.mem_map.1 hb
  exact (renamedId_inj (h.new_not_endpoint e he).1 (h.new_not_endpoint e' he').1).1

omit h in
theorem startId?_renamed :
    startId? (w.renamed now old new) = (startId? w).map (renamedId old new) := by
  have hstarts : (w.renamed now old new).starts = w.starts.map (Workflow.renamedNode old new) := by
    simp only [Workflow.starts, Workflow.renamed, List.filter_map, Function.comp_def,
      Workflow.isStart_renamedNode]
  simp only [startId?, Workflow.start?, hstarts, List.head?_map, Option.map_map, Function.comp_def,
    Workflow.id_renamedNode]

omit h in
theorem endIds_renamed : endIds (w.renamed now old new) = (endIds w).map (renamedId old new) := by
  simp only [endIds, Workflow.ends, Workflow.renamed, List.filter_map, List.map_map,
    Function.comp_def, Workflow.isEnd_renamedNode, Workflow.id_renamedNode]

theorem new_not_mem_endIds : new ∉ endIds w := by
  intro hmem
  obtain ⟨n, hn, hid⟩ := List.mem_map.1 hmem
  exact h.new_not_mem (hid ▸ List.mem_map_of_mem (List.mem_filter.1 hn).1)

theorem ne_of_startId? {id : String} (hid : startId? w = some id) : id ≠ new := by
  obtain ⟨n, hn, rfl⟩ := Option.map_eq_some_iff.1 hid
  have hmem : n ∈ w.nodes := (List.mem_filter.1 (List.mem_of_head? hn)).1
  exact ne_of_mem_of_not_mem (List.mem_map_of_mem hmem) h.new_not_mem

theorem startSource?_renamed :
    startSource? (w.renamed now old new) = (startSource? w).map (renamedId old new) := by
  have hid : ∀ id ∈ startId? w, ((sources w).map (renamedId old new)).contains (renamedId old new id) =
      (sources w).contains id :=
    fun id hid => contains_map_renamedId (new_not_mem_sources h) (ne_of_startId? h hid)
  show (startId? (w.renamed now old new)).filter _ = ((startId? w).filter _).map _
  rw [startId?_renamed, sources_renamed h]
  cases hstart : startId? w with
  | none => rfl
  | some id =>
    rw [Option.map_some, Option.filter_some, hid id hstart, Option.filter_some]
    split <;> rfl

/-- The groups come in the same order. -/
theorem orderedSources_renamed :
    orderedSources (w.renamed now old new) = (orderedSources w).map (renamedId old new) := by
  have hother : ∀ s ∈ sources w, (some (renamedId old new s) !=
      (startSource? w).map (renamedId old new)) = (some s != startSource? w) := by
    intro s hs
    have hsnew : s ≠ new := ne_of_mem_of_not_mem hs (new_not_mem_sources h)
    cases hstart : startSource? w with
    | none => rfl
    | some id =>
      have hid : id ≠ new := ne_of_startId? h (startSource?_eq_some_iff.1 hstart).1
      rw [Option.map_some, Bool.eq_iff_iff, bne_iff_ne, bne_iff_ne, ne_eq, ne_eq,
        Option.some_inj, Option.some_inj, renamedId_inj hsnew hid]
  rw [orderedSources, startSource?_renamed h, sources_renamed h, List.filter_map, orderedSources,
    List.map_append]
  congr 1
  · cases startSource? w <;> rfl
  · exact congrArg (List.map _) (List.filter_congr hother)

theorem sourceName_renamed {s : String} (hs : s ∈ sources w) :
    sourceName (startId? (w.renamed now old new)) (renamedId old new s) =
      renamedId old new (sourceName (startId? w) s) := by
  have hsnew : s ≠ new := ne_of_mem_of_not_mem hs (new_not_mem_sources h)
  have hsentinel : renamedId old new startSentinel = startSentinel :=
    renamedId_of_ne h.not_start.1.symm
  rw [startId?_renamed]
  cases hstart : startId? w with
  | none => rfl
  | some id =>
    have hiff : some (renamedId old new s) = some (renamedId old new id) ↔ some s = some id := by
      rw [Option.some_inj, Option.some_inj, renamedId_inj hsnew (ne_of_startId? h hstart)]
    rw [Option.map_some, sourceName, if_congr hiff rfl rfl, sourceName]
    split
    · exact hsentinel.symm
    · rfl

theorem edgesFrom_renamed {s : String} (hs : s ∈ sources w) :
    (w.renamed now old new).edgesFrom (renamedId old new s) =
      (w.edgesFrom s).map (Workflow.renamedEdge old new) := by
  have hsnew : s ≠ new := ne_of_mem_of_not_mem hs (new_not_mem_sources h)
  rw [Workflow.edgesFrom, Workflow.renamed, List.filter_map, Workflow.edgesFrom]
  refine congrArg (List.map _) (List.filter_congr fun e he => ?_)
  rw [Function.comp_apply, Bool.eq_iff_iff, beq_iff_eq, beq_iff_eq, Workflow.source_renamedEdge,
    renamedId_inj (h.new_not_endpoint e he).1 hsnew]

/-- The groups of a workflow with a node renamed are its groups with the id replaced. -/
theorem groupsOf_renamed (shape : Shape) (settings : Settings) :
    groupsOf shape settings (w.renamed now old new) =
      (groupsOf shape settings w).map (Group.renamed old new) := by
  rw [groupsOf_eq, orderedSources_renamed h, List.map_map, groupsOf_eq, List.map_map]
  refine List.map_congr_left fun s hs => ?_
  have hs := mem_orderedSources.1 hs
  have htarget : ∀ e ∈ w.edgesFrom s, e.target ≠ new :=
    fun e he => (h.new_not_endpoint e (List.mem_filter.1 he).1).2
  have hends := new_not_mem_endIds h
  rw [Function.comp_apply, groupOf, sourceName_renamed h now hs, edgesFrom_renamed h now hs,
    endIds_renamed, targetsOf, branchesOf_renamed settings h.not_end.1 hends htarget,
    plainTargetsOf_renamed h.not_end.1 hends htarget, assemble_renamed h.not_end.1 h.not_end.2]
  rfl

end Spec

end WorkflowGraph
