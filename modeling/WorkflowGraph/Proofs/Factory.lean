import WorkflowGraph.Proofs.Document

/-!
# Configurations that are made again

A configuration is made for a kind exactly if the kind has one, whatever it is made from. Made again,
from itself or from either form in which it is written, it is what it was, so long as it can be written:
the parameters of a tool may be nested too deep. Main statement: `configs_created_and_rebuilt`.
-/

namespace WorkflowGraph

/-- What a configuration is made from: a value, or a configuration at hand. -/
inductive ConfigSource where
  | value (data : Json)
  | node (config : NodeConfig)
  | edge (config : EdgeConfig)

/-- The value that is read: a configuration at hand is read by its fields. -/
def ConfigSource.data : ConfigSource → Json
  | value data => data
  | node config => .obj (config.toFields .stored)
  | edge config => .obj (config.toFields .stored)

/-! ## Nodes -/

namespace NodeConfig

/-- The configuration for a kind, made from a source. One of the form for the kind is taken as it is. -/
def ofSource (kind : String) : ConfigSource → Logged (Option NodeConfig)
  | .node c =>
    if NodeVariant.ofKind? kind = some c.variant then pure (some c)
    else create kind (ConfigSource.node c).data
  | source => create kind source.data

theorem create_stored (c : NodeConfig) :
    create c.kind (.obj (c.toFields .stored)) = pure (some c) := by
  have hread : ofFields c.variant (c.toFields .stored) = .valid c := ofFields_toFields (by decide) c
  simp only [create, ofKind?_kind, ofJson, orElse_obj, Schema.record, hread]

/-- Taking a configuration as it is comes to the same as reading its fields. -/
theorem ofSource_eq_create (kind : String) (source : ConfigSource) :
    ofSource kind source = create kind source.data := by
  cases source with
  | node c =>
    rw [ofSource]
    split_ifs with hvariant
    · rw [← kind_of_ofKind? hvariant]
      exact (create_stored c).symm
    · rfl
  | value data => rfl
  | edge c => rfl

/-- The settings as they are written, if they can be. -/
def dump (vocabulary : Vocabulary) (c : NodeConfig) : Except Fault Json.Fields :=
  storedIf c.isStorable (c.storable.toFields vocabulary)

/-- The configuration for the kind is made from this one, and from what is written of it wherever it
can be written. -/
structure Rebuilds (kind : String) (c : NodeConfig) : Prop where
  from_self : (ofSource kind (.node c)).value = some c
  exists_dump_iff : ∀ vocabulary, (∃ dump, c.dump vocabulary = .ok dump) ↔ c.isStorable = true
  from_document : ∀ dump, c.dump .document = .ok dump →
    (create kind (.obj dump)).value = some c
  from_wire : ∀ dump, c.dump .wire = .ok dump →
    (create kind (.obj (ofWireFields c.variant.keys dump))).value = some c

theorem dump_eq_ok_iff {vocabulary : Vocabulary} {c : NodeConfig} (h : c.isFinite = true)
    {dump : Json.Fields} :
    c.dump vocabulary = .ok dump ↔ c.isStorable = true ∧ c.toFields vocabulary = dump := by
  rw [NodeConfig.dump, storable_of_isFinite h, storedIf_eq_ok_iff]

theorem create_ofWireFields (c : NodeConfig) :
    (create c.kind (.obj (ofWireFields c.variant.keys (c.toFields .wire)))).value = some c := by
  have hread := create_wire (fun _ => true) c
  rwa [List.filter_true, kept_of_forall fun _ _ => rfl] at hread

theorem rebuilds (c : NodeConfig) (h : c.isFinite = true) : c.Rebuilds c.kind where
  from_self := by
    rw [ofSource, if_pos (ofKind?_kind c)]
    rfl
  exists_dump_iff vocabulary := by simp [dump_eq_ok_iff h]
  from_document dump hdump := by
    obtain ⟨-, rfl⟩ := (dump_eq_ok_iff h).1 hdump
    exact create_toFields (by decide) c
  from_wire dump hdump := by
    obtain ⟨-, rfl⟩ := (dump_eq_ok_iff h).1 hdump
    exact create_ofWireFields c

end NodeConfig

/-! ## Edges -/

namespace EdgeConfig

/-- The configuration for a kind, made from a source. One of the form for the kind is taken as it is. -/
def ofSource (kind : String) : ConfigSource → Logged (Option EdgeConfig)
  | .edge c =>
    if EdgeVariant.ofKind? kind = some c.variant then pure (some c)
    else create kind (ConfigSource.edge c).data
  | source => create kind source.data

theorem create_stored (c : EdgeConfig) :
    create c.variant.kind.name (.obj (c.toFields .stored)) = pure (some c) := by
  simp only [create, EdgeVariant.ofKind?_kind, ofJson, NodeConfig.orElse_obj, Schema.record,
    ofFields_toFields]

/-- Taking a configuration as it is comes to the same as reading its fields. -/
theorem ofSource_eq_create (kind : String) (source : ConfigSource) :
    ofSource kind source = create kind source.data := by
  cases source with
  | edge c =>
    rw [ofSource]
    split_ifs with hvariant
    · rw [← EdgeVariant.name_of_ofKind? hvariant]
      exact (create_stored c).symm
    · rfl
  | value data => rfl
  | node c => rfl

/-- The configuration for the kind is made from this one, and from what is written of it. -/
structure Rebuilds (kind : String) (c : EdgeConfig) : Prop where
  from_self : (ofSource kind (.edge c)).value = some c
  from_document : (create kind (.obj (c.toFields .document))).value = some c
  from_wire : (create kind (.obj (ofWireFields c.variant.keys (c.toFields .wire)))).value = some c

theorem ofWireFields_toFields (c : EdgeConfig) :
    ofWireFields c.variant.keys (c.toFields .wire) = c.toFields .stored := by
  cases c <;> rfl

theorem rebuilds (c : EdgeConfig) : c.Rebuilds c.variant.kind.name where
  from_self := by
    rw [ofSource, if_pos (EdgeVariant.ofKind?_kind c.variant)]
    rfl
  from_document := create_toFields .document c
  from_wire := by
    rw [ofWireFields_toFields]
    exact create_toFields .stored c

end EdgeConfig

/-! ## Main statement -/

/-- Configurations are made for the kinds that have one, of the form for the kind, from every value.
Those without infinite and undefined numbers are made again from themselves and from both forms in
which they are written. They are written exactly if no parameter of a tool is nested too deep. -/
theorem configs_created_and_rebuilt :
    (∀ kind data, (NodeConfig.create kind data).value.map NodeConfig.variant = NodeVariant.ofKind? kind
      ∧ (EdgeConfig.create kind data).value.map EdgeConfig.variant = EdgeVariant.ofKind? kind) ∧
    (∀ kind data c, (NodeConfig.create kind data).value = some c → c.isFinite = true →
      c.Rebuilds kind) ∧
    ∀ kind data c, (EdgeConfig.create kind data).value = some c → c.Rebuilds kind := by
  refine ⟨fun kind data => ⟨NodeConfig.variant_create kind data, EdgeConfig.variant_create kind data⟩,
    fun kind data c hc hfinite => ?_, fun kind data c hc => ?_⟩
  · rw [← NodeConfig.kind_create hc]
    exact c.rebuilds hfinite
  · have hvariant := EdgeConfig.variant_create kind data
    rw [hc, Option.map_some] at hvariant
    rw [← EdgeVariant.name_of_ofKind? hvariant.symm]
    exact c.rebuilds

theorem configs_created_and_rebuilt_form :
    (NodeConfig.form ⟨[{ key := "city", label := "City" }]⟩).Rebuilds "userInput" ∧
      (NodeConfig.form ⟨[{ key := "city", label := "City" }]⟩).isStorable = true ∧
      (EdgeConfig.looping { maxIterations := 3 }).Rebuilds "looping" := by
  obtain ⟨-, hnode, hedge⟩ := configs_created_and_rebuilt
  refine ⟨hnode "userInput" (.obj [("inputFields", .arr [.obj [("key", .str "city"),
    ("value", .str "City")]])]) _ ?_ rfl, rfl, hedge "looping" (.obj [("max_iterations", .int 3)]) _ ?_⟩
  · decide
  · decide

/-- A tool is called with a value that no text holds. -/
theorem not_dumped_nested :
    ∃ c, (NodeConfig.create "tool" (.obj [("toolName", .str "search"),
        ("parameters", .obj [("p", Workflow.nested 255)])])).value = some c ∧ c.isFinite = true ∧
      c.dump .document = .error .tooDeep ∧ c.dump .wire = .error .tooDeep := by
  have hdeep : (NodeConfig.tool ⟨"search", [("p", Workflow.nested 255)]⟩).isStorable = false := by
    simp [NodeConfig.isStorable, Json.Fields.areStorable, Json.isStorable, Json.isStorableUnder,
      Workflow.height_nested, Json.maxStoredHeight]
  refine ⟨.tool ⟨"search", [("p", Workflow.nested 255)]⟩, rfl, ?_, ?_, ?_⟩
  · simp [NodeConfig.isFinite, Workflow.isFinite_nested]
  · rw [NodeConfig.dump, hdeep]
    rfl
  · rw [NodeConfig.dump, hdeep]
    rfl

end WorkflowGraph
