import WorkflowGraph.Proofs.Spec.RestoredWorkflow
import WorkflowGraph.Workflow.Reader

/-!
# Workflows as they are assembled from specs

What the nodes, the edges and the workflow of a spec are made from, as the objects that the readers of
nodes, edges and workflows would be given. These readers hold what they are given to all of their
rules, and they accept each of these objects: what they make of it is what is restored. Main statement:
`result_ofFields_draft`.
-/

namespace WorkflowGraph

/-! ## Nodes -/

namespace Spec

/-- The coordinates of a node: its own, or else those that are kept for its id. -/
def Node.coordinates? (n : Node) (positions : Table (Table Float64)) : Option (Table Float64) :=
  (n.position.filter fun t => !t.entries.isEmpty) <|> positions.find? n.id

/-- What the node that a node of a spec denotes is made from. -/
def Node.draft (positions : Table (Table Float64)) (n : Node) : Json.Fields :=
  let kind := NodeKind.currentName n.type
  [("id", .str n.id), ("kind", .str kind), ("label", .str (n.label.getD "")),
    ("position", ((n.coordinates? positions).map coordinatesJson).getD .null),
    ("config", n.settings kind),
    ("inputs", WorkflowGraph.Node.tableJson Port.toJson (n.ports kind)),
    ("outputs", WorkflowGraph.Node.tableJson (fun type => .str type.name)
      (DataType.ofFields n.outputs.entries).value)]

theorem optional_coordinate (t : Table Float64) (name : String) (default : Float64) :
    Schema.optional (t.entries.map fun e => (e.1, Json.float e.2)) [name] default Schema.number =
      .valid ((t.find? name).getD default) := by
  have hget : Json.Fields.get? (t.entries.map fun e => (e.1, Json.float e.2)) name =
      (t.find? name).map Json.float := by
    rw [Json.Fields.get?, Table.find?, List.find?_map, Option.map_map, Option.map_map]
    rfl
  rw [Schema.optional, Schema.lookup?, hget]
  cases t.find? name with
  | none => rfl
  | some x => rfl

theorem ofNodeFields_draft (positions : Table (Table Float64)) (n : Node) :
    Position.ofNodeFields (n.draft positions) = .valid (n.place positions) := by
  have hget : Json.Fields.getD (n.draft positions) "position" =
      ((n.coordinates? positions).map coordinatesJson).getD .null := rfl
  have hplace : n.place positions = ((n.coordinates? positions).map positionOf).getD default := rfl
  rw [Position.ofNodeFields, hget, hplace]
  cases n.coordinates? positions with
  | none => rfl
  | some t =>
    have hread : Position.ofJson (Position.ofPair (coordinatesJson t)) = .valid (positionOf t) := by
      show Position.mk <$> _ <*> _ = _
      rw [optional_coordinate, optional_coordinate]
      rfl
    show Checked.under (.key "position") (Position.ofJson (Position.ofPair (coordinatesJson t))) = _
    rw [hread]
    rfl

theorem result_ofFields_nodeDraft (positions : Table (Table Float64)) (n : Node) :
    (WorkflowGraph.Node.ofFields (n.draft positions)).result =
      .ok (.valid (n.restore positions).value) := by
  have hinputs := Listing.result_inputs_obj (fun _ => Port.toJson)
    (t := n.ports (NodeKind.currentName n.type)) fun e _ => Port.value_ofEntry_toJson e.2
  have houtputs := Listing.result_outputs_obj (DataType.ofFields n.outputs.entries).value
  have hcheck : WorkflowGraph.Node.check (n.draft positions)
      (Listing.ofTable (n.ports (NodeKind.currentName n.type)))
      (Listing.ofTable (DataType.ofFields n.outputs.entries).value) =
        .valid (n.restore positions).value := by
    rw [WorkflowGraph.Node.check, ofNodeFields_draft, Listing.toTable_ofTable,
      Listing.toTable_ofTable, Node.value_restore]
    rfl
  have hread := WorkflowGraph.Node.result_ofFields_of_listings (n.draft positions) rfl rfl rfl
    hinputs houtputs
  rw [hread, hcheck]

/-- Inputs are settings only if the kind has a configuration. -/
theorem isSome_ofKind?_of_settings {n : Node} {kind : String} (h : n.settings kind ≠ .null) :
    (NodeVariant.ofKind? kind).isSome = true := by
  cases hkind : NodeVariant.ofKind? kind with
  | some variant => rfl
  | none =>
    have hno : (n.inputs.entries.filter fun e => isSetting kind e.1 e.2) = [] := by
      rw [List.filter_eq_nil_iff]
      intro e _
      simp [isSetting, settingKeys, hkind]
    rw [Node.settings, hno] at h
    exact absurd rfl h

/-! ## Edges -/

/-- The payload of the edge that a target of a group denotes, given its details. -/
def Arrow.payload (detail? : Option EdgeDetail) (a : Arrow) : Json.Fields :=
  ("condition", .ofText? a.condition) ::
    match detail? with
    | some d => [("label", .ofText? d.label), ("config", (d.config.map .obj).getD .null)]
    | none => []

/-- What the edge that a target of a group denotes is made from, given its details. -/
def Arrow.draft (settings : Settings) (terminals : Terminals) (source : String) (index : Nat)
    (detail? : Option EdgeDetail) (a : Arrow) : Json.Fields :=
  [("id", .str s!"{settings.edgeIdPrefix}-{index}"),
    ("source", .str (resolveSentinel startSentinel terminals.start? source)),
    ("target", .str (resolveSentinel endSentinel terminals.finish? a.target)),
    ("kind", .str (a.kindWith detail?).name), ("data", .obj (a.payload detail?))] ++
    match detail? with
    | some d => [("animated", .bool d.animated), ("style", .obj d.style)]
    | none => []

theorem check_arrowDraft (settings : Settings) (terminals : Terminals) (source : String)
    (index : Nat) (detail? : Option EdgeDetail) (a : Arrow) :
    Edge.check (a.draft settings terminals source index detail?) (a.payload detail?) =
      .valid (a.edge settings terminals source index detail?) := by
  have hkind : Schema.optional (a.draft settings terminals source index detail?) ["kind"] .plain
      (Schema.choice EdgeKind.ofName? (EdgeKind.all.map EdgeKind.name)) =
        .valid (a.kindWith detail?) := Schema.optional_of_get? rfl (Edge.choice_name _)
  have hcondition : Edge.ofPayload (a.payload detail?) "condition" none
      (Schema.nullable Schema.text) = .valid a.condition :=
    congrArg (Checked.under (.key "data")) (Schema.optional_of_get? rfl (Edge.nullable_ofText? _))
  have hlabel : Edge.ofPayload (a.payload detail?) "label" none (Schema.nullable Schema.text) =
      .valid (detail?.bind (·.label)) := by
    cases detail? with
    | none => rfl
    | some d =>
      exact congrArg (Checked.under (.key "data"))
        (Schema.optional_of_get? rfl (Edge.nullable_ofText? _))
  rw [Edge.check, hkind, hcondition, hlabel]
  cases detail? <;> rfl

theorem result_ofFields_arrowDraft (settings : Settings) (terminals : Terminals) (source : String)
    (index : Nat) (detail? : Option EdgeDetail) (a : Arrow) :
    (Edge.ofFields (a.draft settings terminals source index detail?)).result =
      .ok (.valid (a.edge settings terminals source index detail?)) := by
  have hpayload : a.payload detail? ≠ [] := List.cons_ne_nil _ _
  rw [Edge.result_ofFields_of_payload (a.draft settings terminals source index detail?)
    (a.kindWith detail?) rfl rfl hpayload, check_arrowDraft]

/-- What the edges of targets under the names of their groups are made from, counted from an
index. -/
def draftAll (settings : Settings) (terminals : Terminals) :
    (index : Nat) → (details : List EdgeDetail) → List (String × Arrow) → List Json
  | _, _, [] => []
  | index, details, (source, a) :: rest =>
    .obj (a.draft settings terminals source index (takeDetail source a details).1) ::
      draftAll settings terminals (index + 1) (takeDetail source a details).2 rest

theorem forall₂_draftAll (settings : Settings) (terminals : Terminals) (arrows : List (String × Arrow))
    (index : Nat) (details : List EdgeDetail) :
    List.Forall₂ (fun value e => (Edge.read value).result = .ok (.valid e))
      (draftAll settings terminals index details arrows)
      (restoreAll settings terminals index details arrows) := by
  induction arrows generalizing index details with
  | nil => exact .nil
  | cons x arrows ih => exact .cons (result_ofFields_arrowDraft _ _ _ _ _ _) (ih _ _)

/-! ## Workflows -/

/-- The node of a spec denotes a start node. -/
def Node.isStart (n : Node) : Bool :=
  NodeKind.currentName n.type == NodeKind.start.name

/-- All nodes of a spec in the order in which they are restored. -/
def orderedNodes (spec : Spec) : List Node :=
  spec.keptTerminals.filter (·.isStart) ++ spec.nodes ++ spec.keptTerminals.filter (!·.isStart)

/-- The ids of the nodes that the sentinels of a spec stand for. -/
def terminals (spec : Spec) : Terminals :=
  ⟨(spec.restoreNodes.value.find? (·.isStart)).map (·.id),
    (spec.restoreNodes.value.find? (·.isEnd)).map (·.id)⟩

/-- What the workflow that a spec denotes is made from. -/
def draft (s : Surroundings) (settings : Settings) (spec : Spec) : Json.Fields :=
  [("id", .str (spec.workflowId?.getD (s.freshId settings.importedWorkflowPrefix))),
    ("name", .str spec.name), ("description", .str (spec.description.getD "")),
    ("nodes", .arr (spec.orderedNodes.map fun n => .obj (n.draft spec.positions))),
    ("edges", .arr (draftAll settings spec.terminals 1
      ((spec.metadata.map (·.edgeDetails)).getD []) (wireArrows spec.groups)))]

theorem value_restoreNodes_eq (spec : Spec) :
    spec.restoreNodes.value = spec.orderedNodes.map fun n => (n.restore spec.positions).value := by
  have hstart : ∀ n : Node, (n.restore spec.positions).value.isStart = n.isStart := fun n => by
    rw [Node.value_restore]
    rfl
  rw [Workflow.value_restoreNodes, orderedNodes, List.map_append, List.map_append, List.filter_map,
    List.filter_map]
  simp only [Function.comp_def, hstart]

theorem forall₂_nodeDrafts (positions : Table (Table Float64)) (nodes : List Node) :
    List.Forall₂ (fun value n => (WorkflowGraph.Node.read value).result = .ok (.valid n))
      (nodes.map fun n => Json.obj (n.draft positions))
      (nodes.map fun n => (n.restore positions).value) := by
  rw [List.forall₂_map_left_iff, List.forall₂_map_right_iff, List.forall₂_same]
  exact fun n _ => result_ofFields_nodeDraft positions n

theorem result_readList {α : Type} {read : Json → Attempt (Checked α)} (fields : Json.Fields)
    (key : String) {items : List Json} {as : List α} (hget : fields.get? key = some (.arr items))
    (h : List.Forall₂ (fun value a => (read value).result = .ok (.valid a)) items as) :
    (Workflow.readList read fields key).result = .ok (.valid as) := by
  rw [Workflow.readList, hget]
  exact Attempt.result_bind_of_ok (Attempt.result_checkedList h) _

/-- The reader of workflows accepts what a workflow is made from, and reads the workflow that the
spec denotes. -/
theorem result_ofFields_draft (s : Surroundings) (settings : Settings) (spec : Spec) :
    (Workflow.ofFields s (spec.draft s settings)).result =
      .ok (.valid (spec.toWorkflow s settings).value) := by
  have hnodes := result_readList (spec.draft s settings) "nodes" rfl
    (forall₂_nodeDrafts spec.positions spec.orderedNodes)
  have hedges := result_readList (spec.draft s settings) "edges" rfl
    (forall₂_draftAll settings spec.terminals (wireArrows spec.groups) 1
      ((spec.metadata.map (·.edgeDetails)).getD []))
  rw [← value_restoreNodes_eq] at hnodes
  rw [← value_restoreGroups] at hedges
  rw [Workflow.ofFields, Attempt.result_bind_of_ok hnodes, Attempt.result_bind_of_ok hedges]
  rfl

end Spec

end WorkflowGraph
