import WorkflowGraph.Proofs.Spec.Regrouping
import WorkflowGraph.Proofs.Spec.RestoredWorkflow
import WorkflowGraph.Proofs.Spec.Writable

/-!
# The spec of a restored workflow

The backend spec of a workflow is its canonical form. Whatever shape a portable workflow is written
in, the workflow that is restored from it has the same canonical form: its nodes are compiled to the
same inputs, and its edges, which come back in the order of the groups, make the same groups again.
Main statement: `canonical_restored`.
-/

namespace WorkflowGraph

namespace Workflow

/-- Nodes of distinct ids, whose ports and settings are told apart and whose references, once they
are resolved, stay as they are. -/
@[mk_iff]
structure IsPortable (w : Workflow) : Prop where
  nodeIds_nodup : w.nodeIds.Nodup
  /-- The nodes that are neither start nor end nodes are portable. -/
  inner_portable : ∀ n ∈ w.inner, n.IsPortable
  /-- The names of outputs are not read as places. -/
  names_readable : Reference.HaveReadableNames w.nodes

instance (nodes : List Node) : Decidable (Reference.HaveReadableNames nodes) :=
  inferInstanceAs (Decidable (∀ n ∈ nodes, ∀ name ∈ n.outputNames,
    Reference.isBrokenPlace name = false))

instance (w : Workflow) : Decidable w.IsPortable :=
  decidable_of_iff' _ (isPortable_iff w)

/-- No node has the name of a sentinel. -/
def HasPlainIds (w : Workflow) : Prop :=
  ∀ n ∈ w.nodes, n.id ≠ Spec.startSentinel ∧ n.id ≠ Spec.endSentinel

instance (w : Workflow) : Decidable w.HasPlainIds :=
  inferInstanceAs (Decidable (∀ n ∈ w.nodes, n.id ≠ Spec.startSentinel ∧ n.id ≠ Spec.endSentinel))

/-- The ends of edges are no sentinels, and all edges lead somewhere. -/
@[mk_iff]
structure HasPlainEdges (w : Workflow) : Prop where
  /-- No edge comes from the sentinel of the start. -/
  source_ne : ∀ e ∈ w.edges, e.source ≠ Spec.startSentinel
  /-- No edge leads to the sentinel of the end. -/
  target_ne : ∀ e ∈ w.edges, e.target ≠ Spec.endSentinel
  target_nonempty : ∀ e ∈ w.edges, e.target ≠ ""

instance (w : Workflow) : Decidable w.HasPlainEdges :=
  decidable_of_iff' _ (hasPlainEdges_iff w)

theorem IsPortable.isRestorable {w : Workflow} (h : w.IsPortable) : w.IsRestorable :=
  fun n hn => (h.inner_portable n hn).isRestorable

variable {s : Surroundings} {now : Timestamp} {settings : Settings} {shape : Shape} {w : Workflow}

/-! ## Nodes -/

/-- The nodes of a restored workflow have the outputs of the former ones. -/
theorem haveOutputsOf_restored (hnd : w.nodeIds.Nodup) (h : w.IsRestorable) :
    Reference.HaveOutputsOf (w.restored s now settings shape).nodes w.nodes := by
  refine Reference.haveOutputsOf_of_forall hnd fun m hm => ?_
  rw [nodes_restored hnd h] at hm
  obtain ⟨n, hn, rfl⟩ := List.mem_map.1 hm
  exact ⟨n, mem_nodes_of_mem_keptNodes hn, rfl, (Spec.outputNames_restored _ _ n).symm⟩

/-! ## Edges -/

/-- A condition as a spec states it. -/
def statedCondition (settings : Settings) (condition : String) : String :=
  if Text.isBlankText condition then settings.defaultCondition else condition

theorem conditionOf_of_condition {e : Edge} {condition : String} (h : e.condition = some condition) :
    Spec.conditionOf settings e = statedCondition settings condition := by
  have heffective : e.effectiveCondition = some condition := by
    rw [Edge.effectiveCondition, h]
  rw [Spec.conditionOf, heffective]
  rfl

/-- A condition that was stated is stated in the same way again. -/
theorem statedCondition_conditionOf (settings : Settings) (e : Edge) :
    statedCondition settings (Spec.conditionOf settings e) = Spec.conditionOf settings e := by
  have hdefault : statedCondition settings settings.defaultCondition = settings.defaultCondition :=
    ite_self _
  unfold Spec.conditionOf
  split
  · next condition _ =>
    split
    · exact hdefault
    · next hblank => exact if_neg hblank
  · exact hdefault

/-- An edge of a route as the spec of its workflow states it. -/
def wireOfRoute (settings : Settings) (w : Workflow) (r : Route) : String × Spec.Arrow :=
  (Spec.sourceName (Spec.startId? w) r.source,
    ⟨Spec.targetId (Spec.endIds w) r.target, r.condition.map (statedCondition settings)⟩)

/-- An edge is stated as its route is, if it has a condition apart from its settings exactly if it is
conditional. -/
theorem wireArrow_eq_wireOfRoute {e : Edge} (h : e.isConditional = e.condition.isSome) :
    Spec.wireArrow settings w e = wireOfRoute settings w e.route := by
  rw [Spec.wireArrow, Spec.arrowOf, wireOfRoute, h]
  cases hc : e.condition with
  | none => simp [Edge.route, hc]
  | some condition => simp [Edge.route, hc, conditionOf_of_condition hc]

/-- A sentinel that stands for no node is left as it is. -/
theorem resolveSentinel_none (sentinel name : String) :
    Spec.resolveSentinel sentinel none name = name := by
  unfold Spec.resolveSentinel
  exact ite_self _

/-- Where the start node comes back, the sentinel is resolved to the source that it stands for. -/
theorem resolveSentinel_sourceName {start? : Option String} {source : String}
    (hs : source = Spec.startSentinel → ∀ id ∈ start?, id = Spec.startSentinel) :
    Spec.resolveSentinel Spec.startSentinel start? (Spec.sourceName start? source) = source := by
  by_cases hstart : some source = start?
  · rw [← hstart]
    simp [Spec.sourceName, Spec.resolveSentinel]
  · have hname : Spec.sourceName start? source = source := if_neg hstart
    rw [hname, Spec.resolveSentinel]
    split
    · next hsentinel =>
      cases hid : start? with
      | none => rfl
      | some id =>
        rw [hid] at hstart
        exact absurd (congrArg some (hsentinel.trans (hs hsentinel id hid).symm)) hstart
    · rfl

/-- The name of the group of a source does not change by way of a spec. -/
theorem sourceName_resolveSentinel {start? kept? : Option String} (h : kept? = none ∨ kept? = start?)
    {source : String} (hs : source = Spec.startSentinel → ∀ id ∈ start?, id = Spec.startSentinel) :
    Spec.sourceName kept? (Spec.resolveSentinel Spec.startSentinel kept?
      (Spec.sourceName start? source)) = Spec.sourceName start? source := by
  rcases h with rfl | rfl
  · rw [resolveSentinel_none, Spec.sourceName, if_neg (Option.some_ne_none _)]
  · rw [resolveSentinel_sourceName hs]

/-- A target is named as before by way of a spec. -/
theorem targetId_resolveSentinel {ends kept : List String} (h : kept = [] ∨ kept = ends)
    {target : String} (ht : target = Spec.endSentinel → ∀ id ∈ ends.head?, id = Spec.endSentinel) :
    Spec.targetId kept (Spec.resolveSentinel Spec.endSentinel kept.head?
      (Spec.targetId ends target)) = Spec.targetId ends target := by
  rcases h with rfl | rfl
  · rw [List.head?_nil, resolveSentinel_none]
    rfl
  · by_cases hend : kept.contains target = true
    · have hname : Spec.targetId kept target = Spec.endSentinel := if_pos hend
      obtain ⟨first, rest, rfl⟩ := List.exists_cons_of_ne_nil
        (List.ne_nil_of_mem (List.contains_iff_mem.1 hend))
      rw [hname]
      simp [Spec.resolveSentinel, Spec.targetId]
    · have hname : Spec.targetId kept target = target := if_neg hend
      rw [hname, Spec.resolveSentinel]
      split
      · next hsentinel =>
        cases kept with
        | nil => rfl
        | cons first rest =>
          have hfirst : first = target := (ht hsentinel first rfl).trans hsentinel.symm
          rw [hfirst] at hend
          simp at hend
      · exact hname

/-- The sentinels among the ends of edges stand for no node, and all edges lead somewhere. -/
structure HasResolvedEdges (w : Workflow) : Prop where
  start_resolved : Spec.ResolvesStart w
  end_resolved : Spec.ResolvesEnd w
  target_nonempty : ∀ e ∈ w.edges, e.target ≠ ""

theorem HasPlainEdges.hasResolvedEdges (h : w.HasPlainEdges) : w.HasResolvedEdges :=
  ⟨Spec.resolvesStart_of_source_ne h.source_ne,
    fun e he htarget => absurd htarget (h.target_ne e he), h.target_nonempty⟩

theorem HasResolvedEdges.haveTargets (h : w.HasResolvedEdges) (shape : Shape) :
    Spec.HaveTargets shape w.edges := fun _ => h.target_nonempty

theorem startId?_restored_eq (hnd : w.nodeIds.Nodup) (h : w.IsRestorable) :
    Spec.startId? (w.restored s now settings shape) = none ∨
      Spec.startId? (w.restored s now settings shape) = Spec.startId? w := by
  rw [startId?_restored hnd h]
  split
  · exact Or.inl rfl
  · exact Or.inr rfl

theorem endIds_restored_eq (hnd : w.nodeIds.Nodup) (h : w.IsRestorable) :
    Spec.endIds (w.restored s now settings shape) = [] ∨
      Spec.endIds (w.restored s now settings shape) = Spec.endIds w := by
  rw [endIds_restored hnd h]
  split
  · exact Or.inl rfl
  · exact Or.inr rfl

/-- Each edge is stated by a spec of the restored workflow as it was by one of the former. -/
theorem wireArrow_restored (hnd : w.nodeIds.Nodup) (h : w.IsRestorable)
    (hedges : w.HasResolvedEdges) :
    (w.restored s now settings shape).edges.map
      (Spec.wireArrow settings (w.restored s now settings shape)) =
        (Spec.arrangedEdges shape settings w).map (Spec.wireArrow settings w) := by
  -- restored edges have the routes of what was written, and are written by their routes
  have hroute : (w.restored s now settings shape).edges.map Edge.route = _ :=
    route_restored (hedges.haveTargets shape)
  have hroutes := congrArg (List.map (wireOfRoute settings (w.restored s now settings shape))) hroute
  rw [List.map_map, List.map_map] at hroutes
  have hcond : ∀ e ∈ (w.restored s now settings shape).edges, e.isConditional = e.condition.isSome :=
    fun e he => isConditional_toWorkflow he
  rw [List.map_congr_left fun e he => wireArrow_eq_wireOfRoute (hcond e he)]
  refine hroutes.trans (List.map_congr_left fun e he => ?_)
  have he := Spec.mem_arrangedEdges.1 he
  simp only [Function.comp_apply, wireOfRoute, Spec.Arrow.route, Spec.wireArrow, terminals]
  rw [sourceName_resolveSentinel (startId?_restored_eq hnd h) (hedges.start_resolved e he)]
  simp only [Spec.arrowOf]
  rw [targetId_resolveSentinel (endIds_restored_eq hnd h) (hedges.end_resolved e he)]
  cases e.isConditional with
  | false => rfl
  | true => simp [statedCondition_conditionOf]

/-- The groups of the restored workflow are those of the former. -/
theorem groupsOf_restored (hnd : w.nodeIds.Nodup) (h : w.IsRestorable)
    (hedges : w.HasResolvedEdges) (other : Shape) :
    Spec.groupsOf other settings (w.restored s now settings shape) =
      Spec.groupsOf other settings w :=
  Spec.groupsOf_congr hedges.start_resolved (resolvesStart_toWorkflow s settings _)
    (startId?_restored_eq hnd h) (wireArrow_restored hnd h hedges) other

/-! ## A workflow that is portable -/

/-- Noon of the first day of a year. -/
def noon : Timestamp := ⟨2024, 1, 1, 12, 0, 0, 0, some 0⟩

/-- A question that is asked again until the answer is to stop; all other answers go to a language
model, by a reference to the place of an output. -/
def questions : Workflow where
  id := "questions"
  name := "Questions"
  description := "Answers questions"
  nodes := [
    { id := "start", kind := "start", position := default, label := "", description := ""
      config := none, inputs := .empty, outputs := .empty, config_kind := fun _ h => by cases h },
    { id := "ask", kind := "interrupt", position := default, label := "Ask", description := ""
      config := some (.interrupt {}), inputs := .empty, outputs := .empty
      config_kind := fun _ h => by cases h; rfl },
    { id := "answer", kind := "llm", position := default, label := "Answer", description := ""
      config := some (.llm {})
      inputs := .ofList [("user_prompt", ⟨.connection, .str "$ask.0", .string⟩)]
      outputs := .empty, config_kind := fun _ h => by cases h; rfl },
    { id := "end", kind := "end", position := default, label := "", description := ""
      config := none, inputs := .empty, outputs := .empty, config_kind := fun _ h => by cases h }]
  edges := [
    { id := "e1", source := "start", target := "ask", kind := .plain, label := none
      condition := none, config := none, animated := false, style := [], config_kind := rfl },
    { id := "e2", source := "ask", target := "answer", kind := .conditional, label := none
      condition := none, config := some (.conditional { condition := "value != 'stop'" })
      animated := false, style := [], config_kind := rfl },
    { id := "e3", source := "ask", target := "end", kind := .plain, label := none
      condition := none, config := none, animated := false, style := [], config_kind := rfl },
    { id := "e4", source := "answer", target := "ask", kind := .looping, label := some "again"
      condition := none, config := some (.looping {}), animated := true, style := []
      config_kind := rfl }]
  createdAt := noon
  updatedAt := noon

/-! ## The canonical form -/

/-- A restored workflow has the spec of the former in a shape, if the nodes that are listed are
portable and come back in the places that are written. -/
theorem compiled_restored_in (other : Shape) (hnd : w.nodeIds.Nodup) (hr : w.IsRestorable)
    (hnames : Reference.HaveReadableNames w.nodes) (hedges : w.HasResolvedEdges)
    (hport : ∀ n ∈ Spec.listedNodes other w, n.IsPortable)
    (hlisted : Spec.listedNodes other (w.restored s now settings shape) =
      (Spec.listedNodes other w).map fun n => Spec.restored w.nodes (keptPlace shape n) n)
    (hplace : other.keepsPositions = true → shape ≠ .backend) (hdata : other.keepsMetadata = false)
    (earlier later : Timestamp) :
    (w.restored s now settings shape).compiled later settings other =
      w.compiled earlier settings other := by
  have hnodes : (Spec.listedNodes other (w.restored s now settings shape)).map
      (Spec.Node.compiled (w.restored s now settings shape).nodes other.keepsPositions) =
        (Spec.listedNodes other w).map (Spec.Node.compiled w.nodes other.keepsPositions) := by
    rw [hlisted, List.map_map]
    exact List.map_congr_left fun n hn => Spec.compiled_restored_at (hport n hn)
      (haveOutputsOf_restored hnd hr) hnames fun hwritten => if_neg (hplace hwritten)
  have hname : (w.restored s now settings shape).name = w.name := rfl
  have hdescription : (w.restored s now settings shape).description = w.description := rfl
  simp only [compiled, hnodes, groupsOf_restored hnd hr hedges, hname, hdescription, hdata,
    Bool.false_eq_true, ite_false]

/-- A restored workflow has the backend spec of the former. -/
theorem compiled_restored (hw : w.IsPortable) (hedges : w.HasPlainEdges) (later : Timestamp) :
    (w.restored s now settings shape).compiled later settings .backend =
      w.compiled later settings .backend :=
  compiled_restored_in .backend hw.nodeIds_nodup hw.isRestorable hw.names_readable
    hedges.hasResolvedEdges hw.inner_portable (inner_restored hw.nodeIds_nodup hw.isRestorable)
    (fun h => by cases h) rfl later later

/-- A workflow that is written in any shape can be written in the backend shape. -/
theorem isCompilable_backend (h : w.isCompilable shape = true) : w.isCompilable .backend = true := by
  rw [isCompilable, Bool.and_eq_true, List.all_eq_true]
  exact ⟨fun n hn => isCompilable_of_mem h (mem_listedNodes_of_mem_inner hn shape), rfl⟩

theorem isStorable_backend {later : Timestamp}
    (h : (w.compiled now settings shape).isStorable = true) :
    (w.compiled later settings .backend).isStorable = true := by
  rw [Spec.isStorable, Bool.and_eq_true, List.all_eq_true] at h ⊢
  refine ⟨fun m hm => ?_, rfl⟩
  obtain ⟨n, hn, rfl⟩ := List.mem_map.1 hm
  exact h.1 (Spec.Node.compiled w.nodes shape.keepsPositions n)
    (List.mem_map_of_mem (mem_listedNodes_of_mem_inner hn shape))

/-- The nodes that a spec lists can be compiled again after they were restored. -/
theorem isCompilable_restored_in (other : Shape) (hnd : w.nodeIds.Nodup) (hr : w.IsRestorable)
    (hnames : Reference.HaveReadableNames w.nodes)
    (hport : ∀ n ∈ Spec.listedNodes other w, n.IsPortable)
    (hlisted : Spec.listedNodes other (w.restored s now settings shape) =
      (Spec.listedNodes other w).map fun n => Spec.restored w.nodes (keptPlace shape n) n)
    (hdata : other.keepsMetadata = false) (h : w.isCompilable other = true) :
    (w.restored s now settings shape).isCompilable other = true := by
  rw [isCompilable, hdata, Bool.and_eq_true, List.all_eq_true]
  refine ⟨fun m hm => ?_, rfl⟩
  rw [hlisted] at hm
  obtain ⟨n, hn, rfl⟩ := List.mem_map.1 hm
  exact Spec.isCompilable_restored (hport n hn) (haveOutputsOf_restored hnd hr) hnames _
    (isCompilable_of_mem h hn)

theorem isCompilable_restored (hw : w.IsPortable) (h : w.isCompilable .backend = true) :
    (w.restored s now settings shape).isCompilable .backend = true :=
  isCompilable_restored_in .backend hw.nodeIds_nodup hw.isRestorable hw.names_readable hw.inner_portable
    (inner_restored hw.nodeIds_nodup hw.isRestorable) rfl h

/-- Going through a document of any shape keeps the canonical document of a portable workflow. A
workflow that can be written has a document in every shape. -/
theorem canonical_restored (hw : w.IsPortable) (hedges : w.HasPlainEdges) (s : Surroundings)
    (now later : Timestamp) (settings : Settings) (shape : Shape) :
    (∀ document, (w.toSpecDocument now settings shape).result = .ok document →
      ∃ r canonical, (ofSpecDocument s (.ok settings) document).result = .ok r ∧
        (r.toSpecDocument later settings .backend).result = .ok canonical ∧
        (w.toSpecDocument later settings .backend).result = .ok canonical) ∧
    (w.IsWritable → ∃ document, (w.toSpecDocument now settings shape).result = .ok document) := by
  refine ⟨fun document h => ?_, fun h => h.exists_document now settings shape⟩
  obtain ⟨hcompilable, hstorable, rfl⟩ := result_toSpecDocument_eq_ok_iff.1 h
  have hbackend := isCompilable_backend hcompilable
  refine ⟨w.restored s now settings shape, (w.compiled later settings .backend).toJson,
    result_ofSpecDocument s now settings shape w, ?_, ?_⟩
  · rw [result_toSpecDocument_eq_ok_iff, compiled_restored hw hedges]
    exact ⟨isCompilable_restored hw hbackend, isStorable_backend hstorable, rfl⟩
  · exact result_toSpecDocument_eq_ok_iff.2 ⟨hbackend, isStorable_backend hstorable, rfl⟩

/-- The answers to questions go through a document of the enhanced shape. -/
theorem canonical_restored_questions :
    ∃ document r canonical,
      (questions.toSpecDocument noon {} .enhanced).result = .ok document ∧
      (ofSpecDocument ⟨noon, "0001"⟩ (.ok {}) document).result = .ok r ∧
      (r.toSpecDocument noon {} .backend).result = .ok canonical ∧
      (questions.toSpecDocument noon {} .backend).result = .ok canonical := by
  have h := canonical_restored (by decide : questions.IsPortable)
    (by decide : questions.HasPlainEdges) ⟨noon, "0001"⟩ noon noon {} .enhanced
  obtain ⟨document, hdocument⟩ := h.2 (by decide)
  obtain ⟨r, canonical, hr, hcanonical, hformer⟩ := h.1 document hdocument
  exact ⟨document, r, canonical, hdocument, hr, hcanonical, hformer⟩

/-! ## A workflow that cannot be written -/

/-- A node of a kind with a value in a port of its own. -/
def holder (kind : String) (value : Json) : Node :=
  (Node.make "holder" kind default "" "" .null (.ofList [("held", ⟨.literal, value, .array⟩)])
    .empty).value

/-- A workflow of a single node, which holds a value. -/
def holding (kind : String) (value : Json) : Workflow :=
  { questions with nodes := [holder kind value], edges := [] }

section Holding

variable {kind : String} {value : Json}

/-- The node is portable, if the port is not named like a setting of its kind. -/
theorem isPortable_holder (hvalue : value.referenceHead? = none) (hfinite : value.isFinite = true)
    (hkind : kind ≠ NodeKind.formerInterruptName) (hname : "held" ∉ settingKeys kind) :
    (holder kind value).IsPortable := by
  have hport : Port.IsPortable ⟨.literal, value, .array⟩ :=
    ⟨(Port.bindingOf_eq_literal_iff.2 hvalue).symm, hfinite, Port.isReadable_of_referenceHead? hvalue⟩
  have hconfig : ∀ c, c ∉ (holder kind value).config := fun c hc => by cases hc
  refine ⟨hkind, fun e he => ?_, fun e he _ => ?_, fun c hc => absurd hc (hconfig c),
    fun c hc => absurd hc (hconfig c)⟩
  · obtain rfl := List.mem_singleton.1 he
    exact hport
  · obtain rfl := List.mem_singleton.1 he
    exact hname

theorem isPortable_holding (hholder : (holder kind value).IsPortable)
    (hnames : Reference.HaveReadableNames [holder kind value]) : (holding kind value).IsPortable := by
  refine ⟨List.nodup_singleton _, fun n hn => ?_, hnames⟩
  obtain rfl := List.mem_singleton.1 (List.mem_filter.1 hn).1
  exact hholder

theorem isCompilable_holding (hvalue : value.referenceHead? = none) (shape : Shape) :
    (holding kind value).isCompilable shape = true := by
  refine isCompilable_of_forall (fun n hn => ?_) shape
  obtain rfl := List.mem_singleton.1 hn
  refine Spec.isCompilable_of_isReadable _ (fun e he => ?_) fun c hc => by cases hc
  obtain rfl := List.mem_singleton.1 he
  exact Port.isReadable_of_referenceHead? hvalue

/-- A value that lies in 255 lists is not written where the node that holds it is listed. -/
theorem result_toSpecDocument_holding_nested {shape : Shape}
    (hlisted : holder kind (nested 255) ∈ Spec.listedNodes shape (holding kind (nested 255)))
    (now : Timestamp) (settings : Settings) :
    ((holding kind (nested 255)).toSpecDocument now settings shape).result = .error .tooDeep := by
  have hport : ("held", ⟨.literal, nested 255, .array⟩) ∈ (holder kind (nested 255)).inputs.entries :=
    List.mem_singleton_self _
  exact result_toSpecDocument_of_deep now settings
    (isCompilable_holding (referenceHead?_nested 255) shape) hlisted
    (Table.mem_override_of_mem hport) (isStorableUnder_nested 1)

end Holding

/-- An end node that holds a value in 255 lists has no part in the canonical document, but there is no
document of the simple shape by way of which that could be kept. -/
theorem not_canonical_holding_nested :
    (holding "end" (nested 255)).IsPortable ∧ (holding "end" (nested 255)).HasPlainIds ∧
      (holding "end" (nested 255)).HasPlainEdges ∧
      (∀ n ∈ (holding "end" (nested 255)).nodes, n.IsPortable) ∧
      (∃ canonical,
        ((holding "end" (nested 255)).toSpecDocument noon {} .backend).result = .ok canonical) ∧
      ((holding "end" (nested 255)).toSpecDocument noon {} .simple).result = .error .tooDeep := by
  have hholder : (holder "end" (nested 255)).IsPortable :=
    isPortable_holder (referenceHead?_nested 255) (isFinite_nested 255) (by decide) (by decide)
  have hcompilable : (holding "end" (nested 255)).isCompilable .backend = true :=
    isCompilable_holding (referenceHead?_nested 255) .backend
  refine ⟨isPortable_holding hholder (by decide), by decide, by decide,
    List.forall_mem_singleton.2 hholder, ?_, ?_⟩
  · exact ⟨_, result_toSpecDocument_eq_ok_iff.2 ⟨hcompilable, rfl, rfl⟩⟩
  · exact result_toSpecDocument_holding_nested List.mem_cons_self noon {}

end Workflow

end WorkflowGraph
