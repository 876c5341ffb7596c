import WorkflowGraph.Proofs.RoundTrip

/-!
# What the enhanced shape keeps

A spec of the enhanced shape keeps the settings of the nodes, the positions, and what is told of each
edge. The details of the edges are listed in the order of the edges and taken in the order of the
groups; edges between the same nodes that are both conditional or both not stand in one order in the
two lists, so that each takes its own details. Main statement: `restored_enhanced`.
-/

namespace WorkflowGraph

/-! ## Nodes -/

/-- What tells a node apart from others, but for its ports and description. -/
structure NodeContent where
  id : String
  kind : String
  position : Position
  config : Option NodeConfig
  label : String
  deriving DecidableEq

namespace Node

/-- The content of a node under a label. -/
def contentAs (label : String) (n : Node) : NodeContent :=
  ⟨n.id, n.kind, n.position, n.config, label⟩

/-- No port is named like a setting, and the settings are finite and no references. -/
@[mk_iff]
structure HasSeparateSettings (n : Node) : Prop where
  kind_current : n.kind ≠ NodeKind.formerInterruptName
  inputs_separate : ∀ name ∈ n.inputs.names, name ∉ settingKeys n.kind
  settings_plain : n.HasPlainSettings
  settings_finite : n.HasFiniteSettings

instance (n : Node) : Decidable n.HasSeparateSettings :=
  decidable_of_iff' _ (hasSeparateSettings_iff n)

theorem HasSeparateSettings.isRestorable {n : Node} (h : n.HasSeparateSettings) : n.IsRestorable where
  kind_current := h.kind_current
  inputs_separable := fun _ he hname =>
    absurd hname (h.inputs_separate _ (Table.mem_names_of_mem he))
  settings_plain := h.settings_plain
  settings_finite := h.settings_finite

end Node

namespace Node.HasSeparateSettings

variable {n : Node}

/-- No port hides a setting. -/
theorem showsSetting (h : n.HasSeparateSettings) {c : NodeConfig} (hc : n.config = some c)
    {f : String × Json} (hf : f ∈ c.wireInputs) : n.showsSetting f.1 = true := by
  have hkey : f.1 ∈ settingKeys n.kind := Spec.mem_settingKeys_of_mem_wireInputs hc hf
  have hdefault : f.1 ∉ (defaultInputs n.kind).names := fun hin => not_mem_settingKeys hin hkey
  have hown : f.1 ∉ n.inputs.names := fun hin => h.inputs_separate f.1 hin hkey
  rw [Node.showsSetting, Bool.not_eq_true', Table.has_eq_false_iff, allInputs, Table.names_override,
    List.mem_append, not_or]
  exact ⟨hdefault, fun hin => hown (List.mem_filter.1 hin).1⟩

/-- A node that was compiled and restored tells the same under the label that it is shown with. -/
theorem contentAs_restored (h : n.HasSeparateSettings) (nodes : List Node) :
    (Spec.restored nodes n.position n).contentAs (Spec.restored nodes n.position n).label =
      n.contentAs n.displayLabel := by
  have hconfig : (Spec.restored nodes n.position n).config = n.config :=
    Spec.config_restored_of_shown h.settings_finite (fun _ hc _ hf => h.showsSetting hc hf) nodes _
  rw [contentAs, hconfig]
  rfl

end Node.HasSeparateSettings

/-! ## Edges -/

/-- What is told of an edge, but for its id. -/
structure EdgeContent where
  source : String
  target : String
  kind : EdgeKind
  label : Option String
  config : Option EdgeConfig
  animated : Bool
  style : Json.Fields
  /-- When the edge is followed. -/
  condition : Option String
  deriving DecidableEq

namespace Edge

/-- The content of an edge that is followed under a condition, or always. -/
def contentUnder (condition : Option String) (e : Edge) : EdgeContent :=
  ⟨e.source, e.target, e.kind, e.label, e.config, e.animated, e.style, condition⟩

/-- The condition of an edge as a spec states it; none if the edge is not conditional. -/
def statedCondition? (settings : Settings) (e : Edge) : Option String :=
  if e.isConditional then some (Spec.conditionOf settings e) else none

theorem name_beq_conditional (e : Edge) :
    (e.kind.name == EdgeKind.conditional.name) = e.isConditional := by
  unfold isConditional
  cases e.kind <;> decide

end Edge

namespace Spec

variable {settings : Settings} {w : Workflow}

/-- What is kept of an edge and read back. -/
def detailOf (w : Workflow) (e : Edge) : EdgeDetail :=
  (EdgeDetail.ofEdge (startId? w) (endIds w) e).storable

/-- The details of an edge fit the target that it is listed as. -/
theorem key_detailOf (settings : Settings) (w : Workflow) (e : Edge) :
    (detailOf w e).key = (wireArrow settings w e).2.key (wireArrow settings w e).1 := by
  have hcond : (arrowOf settings (endIds w) e).condition.isSome = e.isConditional := by
    unfold arrowOf
    cases e.isConditional <;> rfl
  rw [Arrow.key, wireArrow, hcond, ← e.name_beq_conditional]
  rfl

/-- Of each form, the details stand in the order in which the groups list their edges. -/
theorem filter_key_detailOf (h : HasDistinctNames w) (shape : Shape) (settings : Settings)
    (k : String × String × Bool) :
    (w.edges.map (detailOf w)).filter (·.key == k) =
      ((arrangedEdges shape settings w).map (detailOf w)).filter (·.key == k) := by
  obtain ⟨source, target, b⟩ := k
  -- a key is a target besides a group and whether it is conditional; of these the order is known
  have hsplit : (fun e => (detailOf w e).key == (source, target, b)) = fun e : Edge =>
      (targetId (endIds w) e.target == target &&
        (sourceName (startId? w) e.source, e.isConditional) == (source, b)) := by
    funext e
    have hkey : (detailOf w e).key = (sourceName (startId? w) e.source,
        targetId (endIds w) e.target, e.isConditional) :=
      congrArg (fun c => (_, _, c)) e.name_beq_conditional
    rw [hkey]
    exact Bool.and_left_comm _ _ _
  rw [List.filter_map, List.filter_map]
  simp only [Function.comp_def, hsplit]
  rw [← List.filter_filter, ← List.filter_filter, filter_named_arrangedEdges h]

/-- Where there is one end node at most, the sentinel is resolved to the target that it stands
for. -/
theorem resolveSentinel_targetId {ends : List String} (hends : ends.length ≤ 1) {target : String}
    (ht : target ≠ endSentinel) :
    resolveSentinel endSentinel ends.head? (targetId ends target) = target := by
  by_cases hend : ends.contains target = true
  · have hname : targetId ends target = endSentinel := if_pos hend
    rw [hname, resolveSentinel, if_pos rfl,
      eq_singleton_of_mem hends (List.contains_iff_mem.1 hend)]
    rfl
  · have hname : targetId ends target = target := if_neg hend
    rw [hname, resolveSentinel, if_neg ht]

/-- With its own details an edge is restored as it was. -/
theorem content_edge (hends : w.ends.length ≤ 1) {e : Edge} (hsource : e.source ≠ startSentinel)
    (htarget : e.target ≠ endSentinel) (hstyle : Json.areFiniteFields e.style = true) (index : Nat) :
    let restored := (wireArrow settings w e).2.edge settings w.terminals (wireArrow settings w e).1
      index (some (detailOf w e))
    restored.contentUnder restored.effectiveCondition =
      e.contentUnder (e.statedCondition? settings) := by
  intro restored
  have hfrom : restored.source = e.source :=
    Workflow.resolveSentinel_sourceName fun h => absurd h hsource
  have hto : restored.target = e.target :=
    resolveSentinel_targetId (by rwa [endIds, List.length_map]) htarget
  -- the arrow is conditional exactly if the edge is, so the kind in the details is taken over
  have hkind : restored.kind = e.kind := by
    show (arrowOf settings (endIds w) e).kindWith (some (detailOf w e)) = e.kind
    unfold Arrow.kindWith Arrow.kind arrowOf Edge.isConditional detailOf EdgeDetail.storable
      EdgeDetail.ofEdge
    cases e.kind <;> rfl
  have hfields : (detailOf w e).config = e.config.map (·.toFields .document) := by
    show (e.config.map (·.toFields .document)).map Json.storableFields = _
    rw [Option.map_map]
    exact Option.map_congr fun c _ => c.storableFields_toFields
  -- what is kept of the settings are their stored fields, which are read for the same kind
  have hconfig : restored.config = e.config := by
    show (Edge.configured restored.kind _
      ((((some (detailOf w e)).bind (·.config)).map Json.obj).getD .null)).value = _
    rw [Option.bind_some, hfields, hkind, Option.map_map]
    exact Edge.value_configured .document _ e
  have hdrawn : restored.style = e.style := Json.storableFields_of_areFinite e.style hstyle
  have hcondition : restored.effectiveCondition = e.statedCondition? settings := by
    have hstated : restored.condition = e.statedCondition? settings := rfl
    rw [Edge.effectiveCondition, hstated, hconfig]
    unfold Edge.statedCondition?
    by_cases hc : e.isConditional = true
    · rw [if_pos hc]
    · rw [if_neg hc]
      -- only the settings of a conditional edge have a condition, and settings are of its kind
      cases hsettings : e.config with
      | none => rfl
      | some c =>
        cases c with
        | conditional c =>
          refine absurd ?_ hc
          rw [← e.name_beq_conditional, ← Edge.name_variant hsettings]
          rfl
        | _ => rfl
  rw [Edge.contentUnder, hfrom, hto, hkind, hconfig, hdrawn, hcondition]
  rfl

end Spec

namespace Workflow

/-- The workflow has an id, its nodes and edges are told apart in a spec, and there is one end node
at most. -/
@[mk_iff]
structure HasLosslessSpec (w : Workflow) : Prop where
  id_nonempty : w.id ≠ ""
  nodeIds_nodup : w.nodeIds.Nodup
  ends_le_one : w.ends.length ≤ 1
  /-- The settings of all nodes are told from their ports. -/
  settings_separate : ∀ n ∈ w.nodes, n.HasSeparateSettings
  /-- The edges lead from and to nodes. -/
  edges_plain : w.HasPlainEdges
  /-- No number in the looks of an edge is infinite or undefined. -/
  styles_finite : ∀ e ∈ w.edges, Json.areFiniteFields e.style = true

instance (w : Workflow) : Decidable w.HasLosslessSpec :=
  decidable_of_iff' _ (hasLosslessSpec_iff w)

namespace HasLosslessSpec

variable {w : Workflow} {s : Surroundings} {now : Timestamp} {settings : Settings}

theorem isRestorable (h : w.HasLosslessSpec) : w.IsRestorable :=
  fun n hn => (h.settings_separate n (List.mem_filter.1 hn).1).isRestorable

/-- All nodes come back, the start node first and the end node last. -/
theorem nodes_content (h : w.HasLosslessSpec) :
    ((w.restored s now settings .enhanced).nodes.map fun n => n.contentAs n.label) =
      (w.starts ++ w.inner ++ w.ends).map fun n => n.contentAs n.displayLabel := by
  rw [nodes_restored h.nodeIds_nodup h.isRestorable, List.map_map]
  exact List.map_congr_left fun n hn =>
    (h.settings_separate n (mem_nodes_of_mem_keptNodes hn)).contentAs_restored w.nodes

theorem terminals_restored (h : w.HasLosslessSpec) :
    (w.restored s now settings .enhanced).terminals = w.terminals := by
  rw [terminals, startId?_restored h.nodeIds_nodup h.isRestorable,
    endIds_restored h.nodeIds_nodup h.isRestorable]
  rfl

/-- All edges come back, in the order of the groups. -/
theorem edges_content (h : w.HasLosslessSpec) :
    ((w.restored s now settings .enhanced).edges.map fun e => e.contentUnder e.effectiveCondition) =
      (Spec.arrangedEdges .enhanced settings w).map fun e =>
        e.contentUnder (e.statedCondition? settings) := by
  have hterminals : ((w.compiled now settings .enhanced).storable.toWorkflow s
      settings).value.terminals = w.terminals := h.terminals_restored
  have hgroups : (w.compiled now settings .enhanced).storable.groups =
      Spec.groupsOf .enhanced settings w := rfl
  have hdetails : ((w.compiled now settings .enhanced).storable.metadata.map
      (·.edgeDetails)).getD [] = w.edges.map (Spec.detailOf w) := by
    show (w.edges.map _).map Spec.EdgeDetail.storable = _
    rw [List.map_map]
    rfl
  have hnames := Spec.hasDistinctNames_of_source_ne h.edges_plain.source_ne
  rw [restored, edges_toWorkflow, hterminals, hgroups, hdetails,
    Spec.wireArrows_groupsOf fun _ => h.edges_plain.target_nonempty]
  refine Spec.map_restoreAll_of_details _ (fun e _ => Spec.key_detailOf settings w e)
    (fun e he index => ?_) 1 _ (Spec.filter_key_detailOf hnames .enhanced settings)
  have he := Spec.mem_arrangedEdges.1 he
  exact Spec.content_edge h.ends_le_one (h.edges_plain.source_ne e he)
    (h.edges_plain.target_ne e he) (h.styles_finite e he) index

end HasLosslessSpec

variable {w : Workflow}

/-- Whenever a workflow is written in the enhanced shape, it is restored from the document under its
id, its name and its description; its nodes come back, those at which runs begin first and those at
which runs end last, and so do its edges, each with its kind, settings and looks. -/
theorem restored_enhanced (h : w.HasLosslessSpec) (s : Surroundings) (now : Timestamp)
    (settings : Settings) {document : Json}
    (hdocument : (w.toSpecDocument now settings .enhanced).result = .ok document) :
    ∃ r, (ofSpecDocument s (.ok settings) document).result = .ok r ∧
      r.id = w.id ∧ r.name = w.name ∧ r.description = w.description ∧
      (r.nodes.map fun n => n.contentAs n.label) =
        ((w.starts ++ w.inner ++ w.ends).map fun n => n.contentAs n.displayLabel) ∧
      (r.edges.map fun e => e.contentUnder e.effectiveCondition).Perm
        (w.edges.map fun e => e.contentUnder (e.statedCondition? settings)) := by
  obtain ⟨-, -, rfl⟩ := result_toSpecDocument_eq_ok_iff.1 hdocument
  refine ⟨w.restored s now settings .enhanced, result_ofSpecDocument s now settings .enhanced w,
    ?_, rfl, rfl, h.nodes_content, ?_⟩
  · have hid : (some w.id).filter (· ≠ "") = some w.id := by
      simp [Option.filter_some, h.id_nonempty]
    show (((some w.id).filter (· ≠ "")).getD _) = w.id
    rw [hid, Option.getD_some]
  · rw [h.edges_content]
    exact (Spec.perm_arrangedEdges .enhanced settings w).map _

/-- The answers to questions come back with all their edges. -/
theorem restored_enhanced_questions :
    ∃ document r, (questions.toSpecDocument noon {} .enhanced).result = .ok document ∧
      (ofSpecDocument ⟨noon, "0001"⟩ (.ok {}) document).result = .ok r ∧
      r.id = questions.id ∧ r.name = questions.name ∧ r.description = questions.description ∧
      (r.nodes.map fun n => n.contentAs n.label) =
        ((questions.starts ++ questions.inner ++ questions.ends).map fun n =>
          n.contentAs n.displayLabel) ∧
      (r.edges.map fun e => e.contentUnder e.effectiveCondition).Perm
        (questions.edges.map fun e => e.contentUnder (e.statedCondition? {})) := by
  have hwritable : questions.IsWritable := by decide
  obtain ⟨document, hdocument⟩ := hwritable.exists_document noon {} .enhanced
  obtain ⟨r, hr, hrest⟩ := restored_enhanced (by decide : questions.HasLosslessSpec)
    ⟨noon, "0001"⟩ noon {} hdocument
  exact ⟨document, r, hdocument, hr, hrest⟩

end Workflow

end WorkflowGraph
