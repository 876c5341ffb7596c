import WorkflowGraph.Proofs.List
import WorkflowGraph.Proofs.Reference.Redirect
import WorkflowGraph.Proofs.Spec.RestoredNode

/-!
# Specs with an id replaced

A spec with one id replaced by another: in the ids of nodes, in the names of groups, in all targets and
in references. A node of a workflow in which some node is renamed is compiled to the node of the former
spec with the id replaced. Main statement: `compiled_renamedNode`.
-/

namespace WorkflowGraph

namespace Spec

/-! ## Replacing an id -/

/-- The node with an id replaced. Its label follows where it shows the id. -/
def Node.renamed (old new : String) (showsId : Bool) (n : Node) : Node :=
  { n with
    id := renamedId old new n.id
    label := if n.id == old && showsId then some new else n.label
    inputs := n.inputs.map fun _ v => v.redirect old new }

/-- The branch with an id replaced. -/
def Branch.renamed (old new : String) (b : Branch) : Branch :=
  { b with node := renamedId old new b.node }

/-- The targets with an id replaced. -/
def Targets.renamed (old new : String) (t : Targets) : Targets where
  nodes := t.nodes.map (List.map (renamedId old new))
  branches := t.branches.map (List.map (Branch.renamed old new))
  fallback := t.fallback.map (renamedId old new)

/-- The group with an id replaced. -/
def Group.renamed (old new : String) (g : Group) : Group :=
  ⟨renamedId old new g.source, g.targets.renamed old new⟩

/-- The spec with the id of a node replaced. -/
def renamed (old new : String) (showsId : Bool) (spec : Spec) : Spec :=
  { spec with
    nodes := spec.nodes.map (Node.renamed old new showsId)
    groups := spec.groups.map (Group.renamed old new) }

end Spec

/-! ## Ports -/

/-- The port with its reference redirected. -/
def Port.redirected (old new : String) (p : Port) : Port :=
  if Node.portRefersTo old p then p.withReference (Node.redirected new p.value) else p

namespace Port

variable {old new : String} {p : Port}

theorem redirected_of_binding_ne (h : p.binding ≠ .connection) : p.redirected old new = p := by
  rw [redirected, Node.portRefersTo, decide_eq_false h]
  rfl

theorem isTemplate_eq_false_of_connection (h : p.binding = bindingOf p.value)
    (hconnection : p.binding = .connection) : p.value.isTemplate = false := by
  rw [← Bool.not_eq_true]
  intro htemplate
  have hbinding : p.binding = .template := by rw [h, bindingOf, if_pos htemplate]
  rw [hconnection] at hbinding
  cases hbinding

/-- A port that refers to the old id is written as the reference to the new one. -/
theorem toWire_redirected_of_refers (h : p.binding = bindingOf p.value)
    (hrefers : Node.portRefersTo old p = true) :
    (p.withReference (Node.redirected new p.value)).toWire = p.toWire.redirect old new := by
  rw [Node.portRefersTo, Bool.and_eq_true, decide_eq_true_eq, beq_iff_eq] at hrefers
  obtain ⟨hconnection, hhead⟩ := hrefers
  have htemplate := isTemplate_eq_false_of_connection h hconnection
  have hold : p.toWire = p.value := by simp [toWire, isUnset, hconnection]
  have hnew : (p.withReference (Node.redirected new p.value)).toWire =
      Node.redirected new p.value := by
    simp [toWire, isUnset, withReference, hconnection]
  rw [hold, hnew]
  cases hv : p.value with
  | str s =>
    rw [hv] at hhead htemplate
    have hredirect : Reference.redirect old new s = Reference.make new (Reference.tail s) :=
      if_pos ⟨hhead, htemplate⟩
    rw [Json.redirect, hredirect, Node.redirected]
  | _ =>
    rw [hv] at hhead
    cases hhead

/-- The value of a port that does not refer to the old id is left alone. -/
theorem redirect_value_of_not_refers (h : p.binding = bindingOf p.value)
    (hrefers : ¬Node.portRefersTo old p = true) : p.value.redirect old new = p.value := by
  by_cases hhead : p.value.referenceHead? = some old
  · -- a reference to the old id that is no connection is one to a setting
    refine Json.redirect_of_isTemplate ?_
    by_contra htemplate
    refine hrefers ?_
    rw [Node.portRefersTo, h, bindingOf, if_neg htemplate, hhead]
    simp
  · exact Json.redirect_of_referenceHead?_ne hhead

/-- A port bound by its value is written as the redirected value. -/
theorem toWire_redirected (h : p.binding = bindingOf p.value) :
    (p.redirected old new).toWire = p.toWire.redirect old new := by
  by_cases hrefers : Node.portRefersTo old p = true
  · rw [redirected, if_pos hrefers, toWire_redirected_of_refers h hrefers]
  · rw [redirected, if_neg hrefers]
    rcases toWire_eq p with ⟨-, hp⟩ | ⟨-, hp⟩
    · rw [hp, Json.redirect_of_referenceHead?_ne]
      rw [DataType.referenceHead?_name]
      exact (Option.some_ne_none old).symm
    · rw [hp, redirect_value_of_not_refers h hrefers]

/-- A port is written as no reference to an id to which it is not bound. -/
theorem referenceHead?_toWire_ne (h : p.binding = bindingOf p.value) (hconfig : new ≠ "config")
    (hhead : p.binding = .connection → p.value.referenceHead? ≠ some new) :
    p.toWire.referenceHead? ≠ some new := by
  rcases toWire_eq p with ⟨-, hp⟩ | ⟨-, hp⟩
  · rw [hp, DataType.referenceHead?_name]
    exact (Option.some_ne_none new).symm
  · rw [hp]
    intro hnew
    by_cases htemplate : p.value.isTemplate = true
    · rw [Json.referenceHead?_of_isTemplate htemplate] at hnew
      exact hconfig (Option.some.inj hnew).symm
    · refine hhead ?_ hnew
      rw [h, bindingOf, if_neg htemplate, hnew]
      rfl

end Port

/-! ## Nodes -/

/-- References of the node can be redirected to the id: its ports are bound by their values and none to
the id, and no setting is taken for a reference. -/
@[mk_iff]
structure Node.CanRedirect (new : String) (n : Node) : Prop where
  inputs_bound : ∀ e ∈ n.inputs.entries, e.2.binding = Port.bindingOf e.2.value
  inputs_head : ∀ e ∈ n.inputs.entries,
    e.2.binding = .connection → e.2.value.referenceHead? ≠ some new
  settings_plain : n.HasPlainSettings

instance (new : String) (n : Node) : Decidable (n.CanRedirect new) :=
  decidable_of_iff' _ (Node.canRedirect_iff new n)

namespace Node.CanRedirect

variable {new : String} {n : Node}

theorem bound (h : n.CanRedirect new) :
    ∀ e ∈ n.allInputs.entries, e.2.binding = Port.bindingOf e.2.value := by
  intro e he
  rcases Table.mem_override he with hown | ⟨hdefault, -⟩
  · exact h.inputs_bound e hown
  · exact (isPortable_defaultInputs n.kind e hdefault).binding_eq

theorem head (h : n.CanRedirect new) (hconfig : new ≠ "config") :
    ∀ e ∈ n.allInputs.entries, e.2.toWire.referenceHead? ≠ some new := by
  intro e he
  refine Port.referenceHead?_toWire_ne (h.bound e he) hconfig fun hconnection => ?_
  rcases Table.mem_override he with hown | ⟨hdefault, -⟩
  · exact h.inputs_head e hown hconnection
  · exact absurd hconnection (binding_defaultInputs n.kind e hdefault)

theorem redirect_settings (h : n.CanRedirect new) (old : String) :
    (Table.ofList ((n.config.map NodeConfig.wireInputs).getD [])).map (fun _ v => v.redirect old new) =
      .ofList ((n.config.map NodeConfig.wireInputs).getD []) := by
  refine Table.map_eq_self fun f hf => ?_
  rw [Table.entries_ofList n.nodup_wireInputs] at hf
  cases hc : n.config with
  | none => rw [hc] at hf; cases hf
  | some c =>
    rw [hc, Option.map_some, Option.getD_some] at hf
    refine Json.redirect_of_referenceHead?_ne ?_
    rw [h.settings_plain c hc f hf]
    exact (Option.some_ne_none old).symm

end Node.CanRedirect

namespace Workflow

variable {old new : String} {nodes : List Node} {n : Node}

theorem inputs_renamedNode (old new : String) (n : Node) :
    (renamedNode old new n).inputs = n.inputs.map fun _ p => p.redirected old new := by
  unfold renamedNode
  split <;> rfl

theorem allInputs_renamedNode (old new : String) (n : Node) :
    (renamedNode old new n).allInputs = n.allInputs.map fun _ p => p.redirected old new := by
  have hdefault : (defaultInputs n.kind).map (fun _ p => p.redirected old new) =
      defaultInputs n.kind :=
    Table.map_eq_self fun e he => Port.redirected_of_binding_ne (binding_defaultInputs n.kind e he)
  rw [Node.allInputs, kind_renamedNode, inputs_renamedNode, Node.allInputs, ← Table.override_map,
    hdefault]

theorem displayLabel_renamedNode (old new : String) (n : Node) :
    (renamedNode old new n).displayLabel =
      if n.id = old ∧ n.label = "" then new else n.displayLabel := by
  rw [Node.displayLabel, label_renamedNode, id_renamedNode, Node.displayLabel]
  by_cases hid : n.id = old
  · rw [hid, renamedId_self]
    split <;> simp_all
  · rw [renamedId_of_ne hid]
    simp [hid]

end Workflow

namespace Spec

variable {old new : String} {nodes : List WorkflowGraph.Node} {n : WorkflowGraph.Node}

theorem inputsAmong_renamedNode (h : Reference.CanRedirect old new)
    (hfresh : new ∉ nodes.map (·.id)) (hn : n.CanRedirect new) :
    inputsAmong (nodes.map (Workflow.renamedNode old new)) (Workflow.renamedNode old new n) =
      (inputsAmong nodes n).map fun _ v => v.redirect old new := by
  have hport : ∀ e ∈ n.allInputs.entries,
      Reference.resolved (nodes.map (Workflow.renamedNode old new)) (e.2.redirected old new).toWire =
        (Reference.resolved nodes e.2.toWire).redirect old new := by
    intro e he
    rw [Port.toWire_redirected (hn.bound e he),
      Reference.resolved_redirect h hfresh (hn.head h.new_ne_config e he)]
  have hports : ((n.allInputs.map fun _ p => p.redirected old new).map fun _ p =>
      Reference.resolved (nodes.map (Workflow.renamedNode old new)) p.toWire) =
        (n.allInputs.map fun _ p => Reference.resolved nodes p.toWire).map
          fun _ v => v.redirect old new := by
    rw [Table.map_map, Table.map_map]
    exact Table.map_congr hport
  rw [inputsAmong, Workflow.allInputs_renamedNode, Workflow.config_renamedNode, hports, inputsAmong,
    ← Table.complete_map, hn.redirect_settings]

theorem isCompilable_renamedNode (h : Reference.CanRedirect old new)
    (hfresh : new ∉ nodes.map (·.id)) (hn : n.CanRedirect new) :
    isCompilable (nodes.map (Workflow.renamedNode old new)) (Workflow.renamedNode old new n) =
      isCompilable nodes n := by
  have hport : ∀ e ∈ n.allInputs.entries,
      Reference.isResolvable (nodes.map (Workflow.renamedNode old new))
        (e.2.redirected old new).toWire = Reference.isResolvable nodes e.2.toWire := by
    intro e he
    rw [Port.toWire_redirected (hn.bound e he),
      Reference.isResolvable_redirect h hfresh (hn.head h.new_ne_config e he)]
  rw [isCompilable, Workflow.allInputs_renamedNode, Workflow.config_renamedNode, Table.entries_map,
    List.all_map, isCompilable]
  exact congrArg (· && _) (all_eq_of_forall_mem hport)

/-- A renamed node is compiled among the renamed nodes to what it was, with the id replaced. -/
theorem compiled_renamedNode (h : Reference.CanRedirect old new) (hfresh : new ∉ nodes.map (·.id))
    (hn : n.CanRedirect new) {showsId : Bool} (hlabel : n.id = old → (showsId = true ↔ n.label = ""))
    (withPosition : Bool) :
    Node.compiled (nodes.map (Workflow.renamedNode old new)) withPosition
        (Workflow.renamedNode old new n) =
      (Node.compiled nodes withPosition n).renamed old new showsId := by
  have hshown : some (Workflow.renamedNode old new n).displayLabel =
      if n.id == old && showsId then some new else some n.displayLabel := by
    rw [Workflow.displayLabel_renamedNode, apply_ite some]
    refine if_congr ?_ rfl rfl
    rw [Bool.and_eq_true, beq_iff_eq]
    exact and_congr_right fun hid => (hlabel hid).symm
  rw [Node.compiled, hshown, inputsAmong_renamedNode h hfresh hn, Workflow.id_renamedNode,
    Workflow.kind_renamedNode, Workflow.allOutputs_renamedNode, Workflow.position_renamedNode]
  rfl

end Spec

end WorkflowGraph
