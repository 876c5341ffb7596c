import WorkflowGraph.Proofs.Difference
import WorkflowGraph.Proofs.Document

/-!
# Workflows without differences

Two workflows do not differ if they have nodes of the same ids, nodes of one id are compiled to the
same, and the second has an edge for each edge of the first, each workflow being looked at with its own
nodes. None of this is told by what the other workflow is like, so that comparisons follow one another;
and a workflow does not differ from itself, so long as the settings of its nodes can be written. Main
statements: `result_differences_eq_nil_iff`, what it means that there is no difference; and
`differences_preorder`.
-/

namespace WorkflowGraph

/-! ## Nodes without NaN -/

/-- No number is NaN in the ports of the node, nor in its settings as they are compiled. -/
@[mk_iff]
structure Node.IsDefined (n : Node) : Prop where
  inputs_defined : ∀ e ∈ n.inputs.entries, e.2.value.isDefined = true
  settings_defined : ∀ c ∈ n.config, ∀ f ∈ c.wireInputs, f.2.isDefined = true

instance (n : Node) : Decidable n.IsDefined :=
  decidable_of_iff' _ n.isDefined_iff

theorem Port.isDefined_toWire {p : Port} (h : p.value.isDefined = true) :
    p.toWire.isDefined = true := by
  rcases toWire_eq p with ⟨-, hp⟩ | ⟨-, hp⟩
  · rw [hp]
    rfl
  · rwa [hp]

theorem Reference.isDefined_resolved (nodes : List Node) (v : Json) :
    (resolved nodes v).isDefined = v.isDefined := by
  cases v <;> rfl

namespace Spec

variable {nodes : List WorkflowGraph.Node} {n : WorkflowGraph.Node}

/-- What is compiled of ports and settings without NaN is without it, too. -/
theorem isDefined_inputsAmong (h : n.IsDefined) (nodes : List WorkflowGraph.Node) :
    (Json.obj (inputsAmong nodes n).entries).isDefined = true := by
  rw [Json.isDefined_obj_iff, entries_inputsAmong]
  intro f hf
  rcases List.mem_append.1 hf with hf | hf
  · obtain ⟨e, he, rfl⟩ := List.mem_map.1 hf
    rw [Reference.isDefined_resolved]
    apply Port.isDefined_toWire
    rcases Table.mem_override he with hown | ⟨hdefault, -⟩
    · exact h.inputs_defined e hown
    · exact Json.isDefined_of_isFinite (isPortable_defaultInputs n.kind e hdefault).value_finite
  · have hf := (List.mem_filter.1 hf).1
    cases hc : n.config with
    | none => rw [hc] at hf; cases hf
    | some c =>
      rw [hc, Option.map_some, Option.getD_some] at hf
      exact h.settings_defined c hc f hf

/-! ## Nodes that are compiled -/

theorem result_inputsOf (h : ∀ e ∈ n.allInputs.entries, Reference.isResolvable nodes e.2.toWire = true) :
    (inputsOf nodes n).result =
      storedIf (n.config.all NodeConfig.isStorable) (inputsAmong nodes n) := by
  cases hstorable : n.config.all NodeConfig.isStorable with
  | true =>
    refine result_inputsOf_eq_ok_iff.2 ⟨?_, rfl⟩
    rw [isCompilable, hstorable, Bool.and_true, List.all_eq_true]
    exact h
  | false =>
    have hports : (Attempt.mapList (fun e => do pure (e.1, ← Reference.resolve nodes e.2.toWire))
        n.allInputs.entries).result =
          .ok (n.allInputs.entries.map fun e => (e.1, Reference.resolved nodes e.2.toWire)) := by
      refine Attempt.result_mapList_of_forall fun e he => ?_
      rw [Attempt.result_bind_of_ok (Reference.result_resolve_eq_ok_iff.2 ⟨h e he, rfl⟩)]
      rfl
    rw [inputsOf, Attempt.result_bind_of_ok hports, Attempt.result_bind, hstorable]
    rfl

/-- A node whose references are resolved is compiled, unless its settings cannot be written. -/
theorem Node.result_ofNode
    (h : ∀ e ∈ n.allInputs.entries, Reference.isResolvable nodes e.2.toWire = true)
    (withPosition : Bool) :
    (Node.ofNode nodes withPosition n).result =
      storedIf (n.config.all NodeConfig.isStorable) (Node.compiled nodes withPosition n) := by
  cases hstorable : n.config.all NodeConfig.isStorable with
  | true =>
    refine Node.result_ofNode_eq_ok_iff.2 ⟨?_, rfl⟩
    rw [isCompilable, hstorable, Bool.and_true, List.all_eq_true]
    exact h
  | false =>
    have hinputs : (inputsOf nodes n).result = .error .tooDeep := by
      rw [result_inputsOf h, hstorable]
      rfl
    have hrest : (do
        let inputs ← inputsOf nodes n
        pure { Node.compiled nodes withPosition n with inputs } : Attempt Node).result =
          .error .tooDeep := by
      rw [Attempt.result_bind, hinputs]
      rfl
    rw [ofNode]
    split
    · rw [Attempt.result_bind]
      exact hrest
    · exact hrest

end Spec

/-! ## What does not differ -/

namespace Workflow

theorem differenceIf_eq_nil_iff {differs : Bool} {d : Difference} :
    differenceIf differs d = [] ↔ differs = false := by
  cases differs <;> simp [differenceIf]

/-- The inputs of a node as they are compared, among the nodes of its workflow. -/
def comparedInputs (nodes : List Node) (n : Node) : Json :=
  .obj (Spec.inputsAmong nodes n).entries

/-- The outputs of a node as they are compared. -/
def comparedOutputs (n : Node) : Json :=
  .obj (n.allOutputs.map fun _ type => Json.str type.name).entries

/-- Two nodes are compiled, each among the nodes of its workflow, and do not differ. -/
@[mk_iff]
structure NodesMatch (nodes part : List Node) (n m : Node) : Prop where
  before_compilable : Spec.isCompilable nodes n = true
  after_compilable : Spec.isCompilable part m = true
  kind_eq : n.kind = m.kind
  label_eq : n.displayLabel = m.displayLabel
  bindings_same : (portBindings n).same (portBindings m) = true
  inputs_same : (comparedInputs nodes n).same (comparedInputs part m) = true
  outputs_same : (comparedOutputs n).same (comparedOutputs m) = true

/-- The second workflow has the nodes of the first and no others, each as it was, and an edge for each
edge of the first. -/
@[mk_iff]
structure Matches (settings : Settings) (c : Comparison) (w r : Workflow) : Prop where
  nodes_kept : (comparedNodes c w).names ⊆ (comparedNodes c r).names
  nodes_known : (comparedNodes c r).names ⊆ (comparedNodes c w).names
  nodes_match : ∀ e ∈ (comparedNodes c w).entries, ∀ m ∈ (comparedNodes c r).find? e.1,
    NodesMatch w.nodes r.nodes e.2 m
  edges_kept : w.edges.map (edgeKey settings c w) ⊆ r.edges.map (edgeKey settings c r)

variable {nodes part : List Node} {n m : Node} {settings : Settings} {c : Comparison}
  {w r : Workflow}

instance : Decidable (NodesMatch nodes part n m) :=
  decidable_of_iff' _ (nodesMatch_iff nodes part n m)

instance : Decidable (Matches settings c w r) :=
  decidable_of_iff' _ (matches_iff settings c w r)

theorem result_nodeDifferences_eq_nil_iff :
    (nodeDifferences nodes part n m).result = .ok [] ↔ NodesMatch nodes part n m := by
  simp only [nodeDifferences, Attempt.result_bind_eq_ok_iff, Spec.Node.result_ofNode_eq_ok_iff,
    Attempt.result_pure, Except.ok.injEq, List.append_eq_nil_iff, differenceIf_eq_nil_iff,
    bne_eq_false_iff_eq, Bool.not_eq_false']
  constructor
  · rintro ⟨_, ⟨hn, rfl⟩, _, ⟨hm, rfl⟩, ⟨⟨⟨hkind, hlabel⟩, hbindings⟩, hinputs⟩, houtputs⟩
    exact ⟨hn, hm, hkind, hlabel, hbindings, hinputs, houtputs⟩
  · rintro ⟨hn, hm, hkind, hlabel, hbindings, hinputs, houtputs⟩
    exact ⟨_, ⟨hn, rfl⟩, _, ⟨hm, rfl⟩, ⟨⟨⟨hkind, hlabel⟩, hbindings⟩, hinputs⟩, houtputs⟩

theorem result_commonDifferences_eq_nil_iff {others : Table Node} {entries : List (String × Node)} :
    (commonDifferences w r others entries).result = .ok [] ↔
      ∀ e ∈ entries, ∀ m ∈ others.find? e.1, NodesMatch w.nodes r.nodes e.2 m := by
  induction entries with
  | nil => exact iff_of_true rfl (List.forall_mem_nil _)
  | cons e entries ih =>
    rw [List.forall_mem_cons, ← ih]
    cases hfound : others.find? e.1 with
    | none =>
      simp only [commonDifferences, hfound, Attempt.result_bind_eq_ok_iff, Attempt.result_pure,
        Except.ok.injEq, exists_eq_left', List.nil_append, exists_eq_right]
      exact (and_iff_right fun m hm => by cases hm).symm
    | some m =>
      simp only [commonDifferences, hfound, Attempt.result_bind_eq_ok_iff, Attempt.result_pure,
        Except.ok.injEq, List.append_eq_nil_iff, Option.mem_some_iff, forall_eq',
        ← result_nodeDifferences_eq_nil_iff]
      constructor
      · rintro ⟨_, hfirst, _, hrest, rfl, rfl⟩
        exact ⟨hfirst, hrest⟩
      · rintro ⟨hfirst, hrest⟩
        exact ⟨_, hfirst, _, hrest, rfl, rfl⟩

/-- There is no difference exactly if the second workflow matches the first. -/
theorem result_differences_eq_nil_iff :
    (differences settings c w r).result = .ok [] ↔ Matches settings c w r := by
  simp only [differences, Attempt.result_bind_eq_ok_iff, Attempt.result_pure, Except.ok.injEq,
    List.append_eq_nil_iff, differenceIf_eq_nil_iff, Bool.not_eq_false', List.isEmpty_iff,
    lackedBy_eq_nil_iff, edgeDifferences_eq_nil_iff]
  constructor
  · rintro ⟨_, hcommon, ⟨⟨hkept, hknown⟩, rfl⟩, hedges⟩
    exact ⟨hkept, hknown, result_commonDifferences_eq_nil_iff.1 hcommon, hedges⟩
  · rintro ⟨hkept, hknown, hcommon, hedges⟩
    exact ⟨[], result_commonDifferences_eq_nil_iff.2 hcommon, ⟨⟨hkept, hknown⟩, rfl⟩, hedges⟩

/-! ## Comparisons that follow one another -/

theorem NodesMatch.trans {nodes₁ nodes₂ nodes₃ : List Node} {n₁ n₂ n₃ : Node}
    (h : NodesMatch nodes₁ nodes₂ n₁ n₂) (h' : NodesMatch nodes₂ nodes₃ n₂ n₃) :
    NodesMatch nodes₁ nodes₃ n₁ n₃ where
  before_compilable := h.before_compilable
  after_compilable := h'.after_compilable
  kind_eq := h.kind_eq.trans h'.kind_eq
  label_eq := h.label_eq.trans h'.label_eq
  bindings_same := Json.same_trans _ _ _ h.bindings_same h'.bindings_same
  inputs_same := Json.same_trans _ _ _ h.inputs_same h'.inputs_same
  outputs_same := Json.same_trans _ _ _ h.outputs_same h'.outputs_same

theorem Matches.trans {w₁ w₂ w₃ : Workflow} (h : Matches settings c w₁ w₂)
    (h' : Matches settings c w₂ w₃) : Matches settings c w₁ w₃ where
  nodes_kept := List.Subset.trans h.nodes_kept h'.nodes_kept
  nodes_known := List.Subset.trans h'.nodes_known h.nodes_known
  nodes_match := by
    intro e he n₃ hn₃
    -- The node of this id between the two is compiled among the same nodes in both comparisons.
    have hbetween : ∃ n₂, (comparedNodes c w₂).find? e.1 = some n₂ := by
      rw [← Option.isSome_iff_exists, ← Option.ne_none_iff_isSome, Ne, Table.find?_eq_none_iff,
        not_not]
      exact h.nodes_kept (Table.mem_names_of_mem he)
    obtain ⟨n₂, hn₂⟩ := hbetween
    exact (h.nodes_match e he n₂ hn₂).trans
      (h'.nodes_match (e.1, n₂) (Table.find?_eq_some_iff.1 hn₂) n₃ hn₃)
  edges_kept := List.Subset.trans h.edges_kept h'.edges_kept

/-! ## Comparing a workflow with itself -/

/-- A node is compared with itself exactly if its settings can be written, and does not differ. -/
theorem result_nodeDifferences_self (hdefined : n.IsDefined)
    (hreadable : ∀ e ∈ n.inputs.entries, Reference.isReadable e.2.value = true) :
    (nodeDifferences nodes nodes n n).result =
      storedIf (n.config.all NodeConfig.isStorable) [] := by
  have hresolvable : ∀ e ∈ n.allInputs.entries,
      Reference.isResolvable nodes e.2.toWire = true := fun e he =>
    Reference.isResolvable_of_isReadable nodes (Node.isReadable_toWire hreadable he)
  have hcompiled := Spec.Node.result_ofNode hresolvable true
  cases hstorable : n.config.all NodeConfig.isStorable with
  | true =>
    rw [hstorable] at hcompiled
    have hcompilable := (Spec.Node.result_ofNode_eq_ok_iff.1 hcompiled).1
    exact result_nodeDifferences_eq_nil_iff.2 ⟨hcompilable, hcompilable, rfl, rfl,
      same_texts _ _ _, Json.same_self_of_isDefined _ (Spec.isDefined_inputsAmong hdefined nodes),
      same_texts _ _ _⟩
  | false =>
    rw [nodeDifferences, Attempt.result_bind, hcompiled, hstorable]
    rfl

theorem result_commonDifferences_self {others : Table Node} {entries : List (String × Node)}
    (hfound : ∀ e ∈ entries, others.find? e.1 = some e.2)
    (hdefined : ∀ e ∈ entries, e.2.IsDefined)
    (hreadable : ∀ e ∈ entries, ∀ f ∈ e.2.inputs.entries, Reference.isReadable f.2.value = true) :
    (commonDifferences w w others entries).result =
      storedIf (entries.all fun e => e.2.config.all NodeConfig.isStorable) [] := by
  induction entries with
  | nil => rfl
  | cons e entries ih =>
    rw [List.forall_mem_cons] at hfound hdefined hreadable
    have hhere : (nodeDifferences w.nodes w.nodes e.2 e.2).result = storedIf _ [] :=
      result_nodeDifferences_self hdefined.1 hreadable.1
    have hrest := ih hfound.2 hdefined.2 hreadable.2
    simp only [commonDifferences, hfound.1, Attempt.result_bind, hhere, hrest, List.all_cons]
    cases e.2.config.all NodeConfig.isStorable with
    | false => rfl
    | true =>
      cases entries.all fun e => e.2.config.all NodeConfig.isStorable <;> rfl

theorem mem_nodes_of_mem_comparedNodes {e : String × Node} (h : e ∈ (comparedNodes c w).entries) :
    e.2 ∈ w.nodes := by
  obtain ⟨n, hn, rfl⟩ := List.mem_map.1 (Table.mem_of_mem_ofList h)
  exact (List.mem_filter.1 hn).1

/-- A workflow is compared with itself exactly if the settings of the nodes that are compared can be
written, and does not differ. -/
theorem result_differences_self (hdefined : ∀ n ∈ w.nodes, n.IsDefined)
    (hreadable : ∀ n ∈ w.nodes, ∀ e ∈ n.inputs.entries, Reference.isReadable e.2.value = true) :
    (differences settings c w w).result =
      storedIf ((comparedNodes c w).entries.all fun e => e.2.config.all NodeConfig.isStorable) [] := by
  have hcommon := result_commonDifferences_self (w := w)
    (fun e (he : e ∈ (comparedNodes c w).entries) => Table.find?_eq_some_iff.2 he)
    (fun e he => hdefined e.2 (mem_nodes_of_mem_comparedNodes he))
    (fun e he => hreadable e.2 (mem_nodes_of_mem_comparedNodes he))
  cases hstorable : (comparedNodes c w).entries.all fun e => e.2.config.all NodeConfig.isStorable with
  | true =>
    rw [hstorable] at hcommon
    exact result_differences rfl hcommon (edgeDifferences_eq_nil_iff.2 (List.Subset.refl _))
  | false =>
    rw [hstorable] at hcommon
    rw [differences, Attempt.result_bind, hcommon]
    rfl

/-! ## A preorder -/

/-- Whatever is compared, and under whatever settings: a workflow without NaN, no reference of which
counts to its output by too many digits, does not differ from itself, so long as the settings of the
nodes that are compared can be written; and what does not differ from a workflow that does not differ
from a first does not differ from the first. -/
theorem differences_preorder (settings : Settings) (c : Comparison) :
    (∀ w : Workflow, (∀ n ∈ w.nodes, n.IsDefined) →
      (∀ n ∈ w.nodes, ∀ e ∈ n.inputs.entries, Reference.isReadable e.2.value = true) →
        (differences settings c w w).result =
          storedIf ((comparedNodes c w).entries.all fun e => e.2.config.all NodeConfig.isStorable)
            []) ∧
      ∀ w₁ w₂ w₃ : Workflow, (differences settings c w₁ w₂).result = .ok [] →
        (differences settings c w₂ w₃).result = .ok [] →
          (differences settings c w₁ w₃).result = .ok [] := by
  refine ⟨fun w hdefined hreadable => result_differences_self hdefined hreadable, ?_⟩
  intro w₁ w₂ w₃ h h'
  rw [result_differences_eq_nil_iff] at h h' ⊢
  exact h.trans h'

/-- The questions with their references by name. -/
def namedQuestions : Workflow :=
  { questions with
    nodes := questions.nodes.map fun n =>
      { n with
        inputs := n.inputs.map fun _ p =>
          { p with value := Reference.resolved questions.nodes p.value } } }

/-- Answers may also end the questions. -/
def endingQuestions : Workflow :=
  { namedQuestions with
    edges := (Edge.make "e5" "answer" "end" .plain none none .null false []).value ::
      namedQuestions.edges }

/-- The questions do not differ from those that have a further edge, by way of those with references by
name. -/
theorem differences_preorder_questions :
    (differences {} {} questions questions).result = .ok [] ∧
      (differences {} {} questions endingQuestions).result = .ok [] := by
  obtain ⟨hself, htrans⟩ := differences_preorder {} {}
  have hnamed : (differences {} {} questions namedQuestions).result = .ok [] :=
    result_differences_eq_nil_iff.2 (by decide +kernel)
  have hending : (differences {} {} namedQuestions endingQuestions).result = .ok [] :=
    result_differences_eq_nil_iff.2 (by decide +kernel)
  exact ⟨hself questions (by decide) (by decide), htrans _ _ _ hnamed hending⟩

theorem isDefined_calling {value : Json} (h : value.isFinite = true) :
    ∀ n ∈ (calling value).nodes, n.IsDefined := by
  intro n hn
  obtain rfl := List.mem_singleton.1 hn
  refine ⟨List.forall_mem_nil _, fun c hc f hf => ?_⟩
  obtain rfl : NodeConfig.tool ⟨"search", [("p", value)]⟩ = c := Option.some_inj.1 hc
  have hfinite : (NodeConfig.tool ⟨"search", [("p", value)]⟩).isFinite = true := by
    rw [NodeConfig.isFinite, Json.areFiniteFields, h]
    rfl
  rw [NodeConfig.wireInputs_of_isFinite hfinite] at hf
  exact Json.isDefined_of_isFinite
    (Json.areFiniteFields_eq_true_iff.1 (NodeConfig.isFinite_toFields hfinite) f hf)

theorem inputs_calling (value : Json) : ∀ n ∈ (calling value).nodes, n.inputs.entries = [] := by
  intro n hn
  obtain rfl := List.mem_singleton.1 hn
  rfl

theorem result_differences_calling {value : Json} (h : value.isFinite = true) :
    (differences {} {} (calling value) (calling value)).result = storedIf value.isStorable [] := by
  have hreadable : ∀ n ∈ (calling value).nodes, ∀ e ∈ n.inputs.entries,
      Reference.isReadable e.2.value = true := by
    intro n hn e he
    rw [inputs_calling value n hn] at he
    cases he
  have hstorable : ((comparedNodes {} (calling value)).entries.all
      fun e => e.2.config.all NodeConfig.isStorable) = value.isStorable := by
    show ((value.isStorable && true) && true) = value.isStorable
    rw [Bool.and_true, Bool.and_true]
  rw [result_differences_self (isDefined_calling h) hreadable, hstorable]

/-- The call of a tool with a value that lies in 255 lists cannot be compared with itself. -/
theorem differences_calling_nested :
    (∀ n ∈ (calling (nested 255)).nodes, n.IsDefined ∧ n.inputs.entries = []) ∧
      (differences {} {} (calling (nested 255)) (calling (nested 255))).result = .error .tooDeep := by
  have hfinite := isFinite_nested 255
  refine ⟨fun n hn => ⟨isDefined_calling hfinite n hn, inputs_calling _ n hn⟩, ?_⟩
  rw [result_differences_calling hfinite, isStorable_nested]
  rfl

end Workflow

end WorkflowGraph
