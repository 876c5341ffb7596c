import WorkflowGraph.Proofs.Reference.SameOutputs
import WorkflowGraph.Proofs.Reference.Written

/-!
# The places of outputs by way of a spec

The outputs of a node are counted in one order: its own, then those of its kind that it lacks. This
is the order in which they are written to a spec, and restoring the node does not change it. So a
reference by the place of an output means the same among the restored nodes, and what it means is
read off the spec. Main statement: `resolve_restored`.
-/

namespace WorkflowGraph

namespace Reference

variable {nodes others : List Node}

/-- Nodes of distinct ids are looked up with the same result among others of which each has the id and
the outputs of one of them, and which have all ids. -/
theorem haveSameOutputs_of_forall (hnd : (nodes.map (·.id)).Nodup)
    (hfrom : ∀ m ∈ others, ∃ n ∈ nodes, n.id = m.id ∧ n.outputNames = m.outputNames)
    (hto : ∀ n ∈ nodes, ∃ m ∈ others, m.id = n.id) : HaveSameOutputs others nodes := by
  intro id
  cases hm : nodeOf? others id with
  | some m =>
    obtain ⟨n, hn, hout⟩ := haveOutputsOf_of_forall hnd hfrom id m hm
    rw [hn, Option.map_some, Option.map_some, hout]
  | none =>
    have hnone : nodeOf? nodes id = none := by
      refine List.find?_eq_none.2 fun n hn hid => ?_
      obtain ⟨m, hmem, hmid⟩ := hto n (List.mem_reverse.1 hn)
      have hne := List.find?_eq_none.1 hm m (List.mem_reverse.2 hmem)
      exact hne (beq_iff_eq.2 (hmid.trans (beq_iff_eq.1 hid)))
    rw [hnone]

/-- The text is the place of an output: digits, and not too many. -/
@[mk_iff]
structure IsPlace (place : String) : Prop where
  ne_empty : place ≠ ""
  digits : ∀ c ∈ place.toList, Text.isDigit c = true
  length_le : place.length ≤ maxPlaceDigits

instance (place : String) : Decidable (IsPlace place) :=
  -- the digits are gone through one by one, not all characters there are
  decidable_of_iff (place ≠ "" ∧ place.toList.all Text.isDigit = true ∧
    place.length ≤ maxPlaceDigits) (by rw [isPlace_iff, List.all_eq_true])

theorem IsPlace.digitsOf?_eq {place : String} (h : IsPlace place) :
    digitsOf? place.toList = some place.toList :=
  digitsOf?_eq_self (fun hnil => h.ne_empty (String.toList_eq_nil_iff.1 hnil)) h.digits

/-- A reference by the place of an output is made one by its name. -/
theorem resolve_make_place (hnd : (nodes.map (·.id)).Nodup) {n : Node} (hn : n ∈ nodes)
    (hid : IsNameable n.id) (hne : n.id ≠ "") {place name : String} (hplace : IsPlace place)
    (hfree : place ∉ n.outputNames)
    (hname : n.outputNames[Text.natOfDigits place.toList]? = some name) :
    (resolve nodes (.str (make n.id place))).result = .ok (.str (make n.id name)) := by
  have hnumbered : Numbered.ofText? (make n.id place) = some ⟨n.id, place.toList⟩ := by
    rw [Numbered.ofText?_of_head hid.1 hne (toList_make n.id place), hplace.digitsOf?_eq]
    rfl
  have hnode : nodeOf? nodes n.id = some n := nodeOf?_id hnd hn
  have hcontains : n.outputNames.contains (Numbered.place ⟨n.id, place.toList⟩) = false := by
    rw [Numbered.place, String.ofList_toList, ← Bool.not_eq_true, List.contains_iff_mem]
    exact hfree
  have houtput : nameOf? nodes ⟨n.id, place.toList⟩ = some name := by
    rw [nameOf?, hnode, Option.bind_some, hcontains]
    exact hname
  rw [result_resolve_eq_ok_iff, isResolvable, isResolvableText, resolved, resolvedText,
    isTemplate_make hid, hnumbered, Option.bind_some, houtput]
  refine ⟨?_, rfl⟩
  have hlength : place.toList.length ≤ maxPlaceDigits := hplace.length_le
  simp [hnode, hlength]

end Reference

namespace Spec

variable {spec : Spec}

/-! ## All nodes of a spec -/

/-- The nodes that a spec tells of: those that it lists, and those that it keeps besides. -/
def writtenNodes (spec : Spec) : List Node :=
  spec.nodes ++ (spec.metadata.map (·.terminals)).getD []

theorem writtenNodes_storable (spec : Spec) :
    spec.storable.writtenNodes = spec.writtenNodes.map Node.storable := by
  unfold writtenNodes storable
  cases spec.metadata with
  | none => simp
  | some m => simp [Metadata.storable]

theorem id_restore (positions : Table (Table Float64)) (m : Node) :
    (m.restore positions).value.id = m.id := by
  rw [Node.value_restore]
  rfl

theorem mem_keptTerminals {x : Node} (hx : x ∈ spec.keptTerminals) : x ∈ spec.writtenNodes :=
  List.mem_append_right _ (List.mem_filter.1 hx).1

/-- Each node of the workflow of a spec is restored from a node that the spec tells of. -/
theorem exists_restore_of_mem {m : WorkflowGraph.Node} (hm : m ∈ spec.restoreNodes.value) :
    ∃ x ∈ spec.writtenNodes, (x.restore spec.positions).value = m := by
  rw [Workflow.value_restoreNodes, List.mem_append, List.mem_append] at hm
  rcases hm with (hm | hm) | hm
  · obtain ⟨x, hx, rfl⟩ := List.mem_map.1 (List.mem_filter.1 hm).1
    exact ⟨x, mem_keptTerminals hx, rfl⟩
  · obtain ⟨x, hx, rfl⟩ := List.mem_map.1 hm
    exact ⟨x, List.mem_append_left _ hx, rfl⟩
  · obtain ⟨x, hx, rfl⟩ := List.mem_map.1 (List.mem_filter.1 hm).1
    exact ⟨x, mem_keptTerminals hx, rfl⟩

theorem exists_mem_restoreNodes_of_listed {x : Node} (hx : x ∈ spec.nodes) :
    ∃ m ∈ spec.restoreNodes.value, m.id = x.id := by
  refine ⟨(x.restore spec.positions).value, ?_, id_restore _ x⟩
  rw [Workflow.value_restoreNodes]
  exact List.mem_append_left _ (List.mem_append_right _ (List.mem_map_of_mem hx))

/-- A node that the spec tells of comes back, or another of its id does. -/
theorem exists_mem_restoreNodes {x : Node} (hx : x ∈ spec.writtenNodes) :
    ∃ m ∈ spec.restoreNodes.value, m.id = x.id := by
  rcases List.mem_append.1 hx with hx | hx
  · exact exists_mem_restoreNodes_of_listed hx
  · cases hfind : spec.findNode? x.id with
    | some y =>
      obtain ⟨m, hm, hid⟩ := exists_mem_restoreNodes_of_listed (List.mem_of_find?_eq_some hfind)
      have hy : y.id = x.id := by simpa using List.find?_some hfind
      exact ⟨m, hm, hid.trans hy⟩
    | none =>
      have hkept : (x.restore spec.positions).value ∈
          spec.keptTerminals.map fun n => (n.restore spec.positions).value :=
        List.mem_map_of_mem (List.mem_filter.2 ⟨hx, by rw [hfind]; rfl⟩)
      refine ⟨(x.restore spec.positions).value, ?_, id_restore _ x⟩
      rw [Workflow.value_restoreNodes, List.mem_append, List.mem_append, List.mem_filter,
        List.mem_filter]
      cases hstart : (x.restore spec.positions).value.isStart with
      | true => exact Or.inl (Or.inl ⟨hkept, rfl⟩)
      | false => exact Or.inr ⟨hkept, rfl⟩

/-- A node that was compiled and restored has the outputs of the former, in their order. -/
theorem outputNames_restore_compiled {n : WorkflowGraph.Node}
    (hkind : n.kind ≠ NodeKind.formerInterruptName) (nodes : List WorkflowGraph.Node)
    (withPosition : Bool) (positions : Table (Table Float64)) :
    ((Node.compiled nodes withPosition n).storable.restore positions).value.outputNames =
      n.outputNames := by
  have hcurrent : NodeKind.currentName n.kind = n.kind := if_neg hkind
  have houtputs : (DataType.ofFields ((n.allOutputs.map fun _ type => Json.str type.name).map
      fun _ v => v.storable).entries).value = n.allOutputs := value_ofFields_outputs n.allOutputs
  rw [WorkflowGraph.Node.outputNames, Node.value_restore]
  exact congrArg Table.names (allOutputs_of_outputs hcurrent houtputs)

end Spec

namespace Workflow

variable {s : Surroundings} {now : Timestamp} {settings : Settings} {shape : Shape} {w : Workflow}

/-- The nodes that the spec of a workflow tells of are compiled from its nodes. -/
theorem exists_compiled_of_mem {m : Spec.Node}
    (hm : m ∈ (w.compiled now settings shape).writtenNodes) :
    ∃ n ∈ w.nodes, ∃ withPosition, Spec.Node.compiled w.nodes withPosition n = m := by
  rcases List.mem_append.1 hm with hm | hm
  · obtain ⟨n, hn, rfl⟩ := List.mem_map.1 hm
    exact ⟨n, (List.mem_filter.1 hn).1, _, rfl⟩
  · rw [compiled] at hm
    cases hdata : shape.keepsMetadata with
    | false =>
      rw [hdata] at hm
      cases hm
    | true =>
      rw [hdata] at hm
      obtain ⟨n, hn, rfl⟩ := List.mem_map.1 hm
      exact ⟨n, (List.mem_filter.1 hn).1, _, rfl⟩

/-- All nodes of a workflow are told of, but by a backend spec. -/
theorem exists_mem_writtenNodes (now : Timestamp) (settings : Settings) (hshape : shape ≠ .backend)
    {n : Node} (hn : n ∈ w.nodes) :
    ∃ m ∈ (w.compiled now settings shape).writtenNodes, m.id = n.id := by
  cases shape with
  | backend => exact absurd rfl hshape
  | simple =>
    exact ⟨_, List.mem_append_left _ (List.mem_map_of_mem (List.mem_filter.2 ⟨hn, rfl⟩)), rfl⟩
  | enhanced =>
    cases hterminal : n.isTerminal with
    | false =>
      have hlisted : n ∈ Spec.listedNodes .enhanced w :=
        List.mem_filter.2 ⟨hn, by rw [hterminal]; rfl⟩
      exact ⟨_, List.mem_append_left _ (List.mem_map_of_mem hlisted), rfl⟩
    | true =>
      have hkept : n ∈ w.nodes.filter (·.isTerminal) := List.mem_filter.2 ⟨hn, hterminal⟩
      exact ⟨_, List.mem_append_right _ (List.mem_map_of_mem hkept), rfl⟩

/-- By way of a spec that tells of all nodes, each id keeps its outputs. -/
theorem haveSameOutputs_restored (hnd : w.nodeIds.Nodup)
    (hkinds : ∀ n ∈ w.nodes, n.kind ≠ NodeKind.formerInterruptName) (hshape : shape ≠ .backend) :
    Reference.HaveSameOutputs (w.restored s now settings shape).nodes w.nodes := by
  refine Reference.haveSameOutputs_of_forall hnd (fun m hm => ?_) fun n hn => ?_
  · obtain ⟨x, hx, rfl⟩ := Spec.exists_restore_of_mem hm
    rw [Spec.writtenNodes_storable] at hx
    obtain ⟨y, hy, rfl⟩ := List.mem_map.1 hx
    obtain ⟨n, hn, withPosition, rfl⟩ := exists_compiled_of_mem hy
    have hid := Spec.id_restore (w.compiled now settings shape).storable.positions
      (Spec.Node.compiled w.nodes withPosition n).storable
    have hout := Spec.outputNames_restore_compiled (hkinds n hn) w.nodes withPosition
      (w.compiled now settings shape).storable.positions
    exact ⟨n, hn, hid.symm, hout.symm⟩
  · obtain ⟨x, hx, hid⟩ := exists_mem_writtenNodes now settings hshape hn
    have hstored : x.storable ∈ (w.compiled now settings shape).storable.writtenNodes := by
      rw [Spec.writtenNodes_storable]
      exact List.mem_map_of_mem hx
    obtain ⟨m, hm, hmid⟩ := Spec.exists_mem_restoreNodes hstored
    exact ⟨m, hm, hmid.trans hid⟩

/-- Where ids are distinct and the shape keeps all nodes, every value is resolved among the restored
nodes as among the former ones. A place of an output is that of its name in the spec, unless some
output is named like the place. -/
theorem resolve_restored (hnd : w.nodeIds.Nodup)
    (hkinds : ∀ n ∈ w.nodes, n.kind ≠ NodeKind.formerInterruptName) (hshape : shape ≠ .backend)
    (s : Surroundings) (now : Timestamp) (settings : Settings) :
    (∀ document, (w.toSpecDocument now settings shape).result = .ok document →
      ∃ spec r, (Spec.ofWorkflow now settings shape w).result = .ok spec ∧ document = spec.toJson ∧
        (ofSpecDocument s (.ok settings) document).result = .ok r ∧
        (∀ v, Reference.resolve r.nodes v = Reference.resolve w.nodes v) ∧
        ∀ n ∈ w.nodes, Reference.IsNameable n.id → n.id ≠ "" →
          (∃ m ∈ spec.writtenNodes, m.id = n.id) ∧
          ∀ m ∈ spec.writtenNodes, m.id = n.id → ∀ place, Reference.IsPlace place →
            place ∉ m.outputs.names →
            ∀ name, m.outputs.names[Text.natOfDigits place.toList]? = some name →
              (Reference.resolve w.nodes (.str (Reference.make n.id place))).result =
                .ok (.str (Reference.make n.id name))) ∧
    (w.IsWritable → ∃ document, (w.toSpecDocument now settings shape).result = .ok document) := by
  refine ⟨fun document h => ?_, fun h => h.exists_document now settings shape⟩
  obtain ⟨hcompilable, -, rfl⟩ := result_toSpecDocument_eq_ok_iff.1 h
  refine ⟨w.compiled now settings shape, w.restored s now settings shape,
    result_ofWorkflow_eq_ok_iff.2 ⟨hcompilable, rfl⟩, rfl,
    result_ofSpecDocument s now settings shape w,
    Reference.resolve_congr (haveSameOutputs_restored hnd hkinds hshape), ?_⟩
  intro n hn hid hne
  refine ⟨exists_mem_writtenNodes now settings hshape hn, ?_⟩
  intro m hm hmid place hplace hfree name hname
  obtain ⟨n', hn', withPosition, rfl⟩ := exists_compiled_of_mem hm
  obtain rfl : n' = n := List.inj_on_of_nodup_map hnd hn' hn hmid
  have hnames : (Spec.Node.compiled w.nodes withPosition n').outputs.names = n'.outputNames :=
    Table.names_map _ _
  rw [hnames] at hfree hname
  exact Reference.resolve_make_place hnd hn hid hne hplace hfree hname

/-- The second output of the language model is referred to by its place. -/
theorem resolve_restored_questions :
    ∃ document r, (questions.toSpecDocument noon {} .enhanced).result = .ok document ∧
      (ofSpecDocument ⟨noon, "0001"⟩ (.ok {}) document).result = .ok r ∧
      (Reference.resolve r.nodes (.str "$answer.1")).result = .ok (.str "$answer.summary") := by
  have hshape : Shape.enhanced ≠ .backend := by decide
  have h := resolve_restored (w := questions) (by decide) (by decide) hshape ⟨noon, "0001"⟩ noon {}
  obtain ⟨document, hdocument⟩ := h.2 (by decide)
  obtain ⟨spec, r, hspec, -, hr, hsame, hplaces⟩ := h.1 document hdocument
  obtain ⟨-, rfl⟩ := result_ofWorkflow_eq_ok_iff.1 hspec
  have hplace := (hplaces questions.nodes[2] (List.getElem_mem _) (by decide) (by decide)).2
    (Spec.Node.compiled questions.nodes false questions.nodes[2])
    (List.mem_append_left _ (List.mem_map_of_mem (by decide))) rfl "1" (by decide) (by decide)
    "summary" (by decide)
  refine ⟨document, r, hdocument, hr, ?_⟩
  rw [hsame]
  exact hplace

end Workflow

end WorkflowGraph
