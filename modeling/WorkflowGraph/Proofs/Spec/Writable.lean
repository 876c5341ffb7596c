import WorkflowGraph.Proofs.Config
import WorkflowGraph.Proofs.Port
import WorkflowGraph.Proofs.Spec.Compile

/-!
# Workflows that can be written

A workflow has no document only for a reference of too many digits or a value that is nested too
deep. Main statement: `Workflow.IsWritable.exists_document`, a workflow without either has a document
in every shape.
-/

namespace WorkflowGraph

/-- The places of numbered references are read, and no value is nested too deep. -/
@[mk_iff]
structure Node.IsWritable (n : Node) : Prop where
  /-- The places of numbered references are read. -/
  inputs_readable : ∀ e ∈ n.inputs.entries, Reference.isReadable e.2.value = true
  /-- The values of ports are stored among the inputs of the node of a spec. -/
  inputs_shallow : ∀ e ∈ n.inputs.entries, e.2.value.isStorableUnder 1 = true
  /-- The settings are stored among them, too. -/
  settings_shallow : ∀ c ∈ n.config, ∀ f ∈ c.wireInputs, f.2.isStorableUnder 1 = true

instance (n : Node) : Decidable n.IsWritable :=
  decidable_of_iff' _ n.isWritable_iff

/-- All nodes can be written, and so can the looks of the edges. -/
@[mk_iff]
structure Workflow.IsWritable (w : Workflow) : Prop where
  nodes_writable : ∀ n ∈ w.nodes, n.IsWritable
  /-- The looks of the edges are not nested too deep. -/
  styles_shallow : ∀ e ∈ w.edges, e.style.areStorable = true

instance (w : Workflow) : Decidable w.IsWritable :=
  decidable_of_iff' _ w.isWritable_iff

namespace Json

theorem isStorableUnder_eq_of_height_eq {v u : Json} (h : v.height = u.height) (outer : Nat) :
    v.isStorableUnder outer = u.isStorableUnder outer := by
  rw [isStorableUnder, isStorableUnder, h]

/-- What lies inside of a value that can be stored can be stored. -/
theorem Fields.areStorable_of_obj {fields : Fields} {outer : Nat}
    (h : (Json.obj fields).isStorableUnder outer = true) : fields.areStorable = true := by
  rw [areStorable, List.all_eq_true]
  intro f hf
  have hle := height_le_heightOfFields hf
  have hobj : outer + (heightOfFields fields + 1) ≤ maxStoredHeight := of_decide_eq_true h
  exact decide_eq_true (by omega)

end Json

namespace NodeConfig

/-- Settings that can be written among the inputs of a node can be stored. -/
theorem isStorable_of_wireInputs {c : NodeConfig}
    (h : ∀ f ∈ c.wireInputs, f.2.isStorableUnder 1 = true) : c.isStorable = true := by
  cases c with
  | tool c =>
    have hparameters : (Json.obj (Json.storableFields c.parameters)).isStorableUnder 1 = true :=
      h ("parameters", .obj (Json.storableFields c.parameters)) (by
        simp [wireInputs, storable, toFields, ToolConfig.toFields, SettingKey.name,
          ToolConfig.parametersKey])
    have hheight : (Json.obj (Json.storableFields c.parameters)).height =
        (Json.obj c.parameters).height := by
      rw [Json.height, Json.height, Json.height_storableFields]
    rw [Json.isStorableUnder_eq_of_height_eq hheight] at hparameters
    exact Json.Fields.areStorable_of_obj hparameters
  | _ => rfl

end NodeConfig

/-! ## Default ports -/

theorem NodeKind.isShallow_inputs (kind : NodeKind) :
    ∀ e ∈ kind.inputs.entries, e.2.value.isStorableUnder 1 = true := by
  cases kind <;> decide

theorem isShallow_defaultInputs (kind : String) :
    ∀ e ∈ (defaultInputs kind).entries, e.2.value.isStorableUnder 1 = true := by
  unfold defaultInputs
  cases NodeKind.ofName? kind with
  | none => intro e he; cases he
  | some k => exact NodeKind.isShallow_inputs k

/-- The ports in effect are written as values whose places are read if those of the node are. -/
theorem Node.isReadable_toWire {n : Node}
    (h : ∀ e ∈ n.inputs.entries, Reference.isReadable e.2.value = true) {e : String × Port}
    (he : e ∈ n.allInputs.entries) : Reference.isReadable e.2.toWire = true := by
  apply Port.isReadable_toWire
  rcases Table.mem_override he with hown | ⟨hdefault, -⟩
  · exact h e hown
  · exact (isPortable_defaultInputs n.kind e hdefault).value_readable

/-- A node is compiled among any nodes, if the places of its references are read and its settings are
stored. -/
theorem Spec.isCompilable_of_isReadable (nodes : List WorkflowGraph.Node) {n : WorkflowGraph.Node}
    (hinputs : ∀ e ∈ n.inputs.entries, Reference.isReadable e.2.value = true)
    (hsettings : ∀ c ∈ n.config, c.isStorable = true) : isCompilable nodes n = true := by
  rw [isCompilable, Bool.and_eq_true, List.all_eq_true, Option.all_eq_true]
  refine ⟨fun e he => ?_, hsettings⟩
  exact Reference.isResolvable_of_isReadable nodes (Node.isReadable_toWire hinputs he)

namespace Node.IsWritable

variable {n : Node}

theorem isShallow_toWire (h : n.IsWritable) {e : String × Port} (he : e ∈ n.allInputs.entries) :
    e.2.toWire.isStorableUnder 1 = true := by
  rcases Port.toWire_eq e.2 with ⟨-, hwire⟩ | ⟨-, hwire⟩
  · rw [hwire]
    rfl
  · rw [hwire]
    rcases Table.mem_override he with hown | ⟨hdefault, -⟩
    · exact h.inputs_shallow e hown
    · exact isShallow_defaultInputs n.kind e hdefault

/-- A node that can be written can be compiled among any nodes. -/
theorem isCompilable (h : n.IsWritable) (nodes : List Node) : Spec.isCompilable nodes n = true :=
  Spec.isCompilable_of_isReadable nodes h.inputs_readable fun c hc =>
    NodeConfig.isStorable_of_wireInputs (h.settings_shallow c hc)

/-- What a node that can be written is compiled to can be stored. -/
theorem isStorable_compiled (h : n.IsWritable) (nodes : List Node) (withPosition : Bool) :
    (Spec.Node.compiled nodes withPosition n).isStorable = true := by
  rw [Spec.Node.isStorable, List.all_append, Bool.and_eq_true, List.all_eq_true, List.all_eq_true]
  constructor
  · intro f hf
    change f ∈ (Spec.inputsAmong nodes n).entries at hf
    rw [Spec.inputsAmong, Table.entries_complete, List.mem_append] at hf
    rcases hf with hf | hf
    · obtain ⟨e, he, rfl⟩ := List.mem_map.1 hf
      rw [Json.isStorableUnder_eq_of_height_eq (Reference.height_resolved nodes e.2.toWire)]
      exact h.isShallow_toWire he
    · have hf := (List.mem_filter.1 hf).1
      cases hc : n.config with
      | none => rw [hc] at hf; cases hf
      | some c =>
        rw [hc, Option.map_some, Option.getD_some, Table.entries_ofList] at hf
        · exact h.settings_shallow c hc f hf
        · exact c.nodup_wireInputs
  · intro f hf
    obtain ⟨e, -, rfl⟩ := List.mem_map.1 hf
    rfl

end Node.IsWritable

namespace Workflow

theorem isStorable_ofEdge {start? : Option String} {ends : List String} {e : Edge}
    (h : e.style.areStorable = true) : (Spec.EdgeDetail.ofEdge start? ends e).isStorable = true := by
  rw [Spec.EdgeDetail.isStorable, Bool.and_eq_true]
  refine ⟨?_, h⟩
  show (e.config.map (·.toFields .document)).all Json.Fields.areStorable = true
  cases e.config with
  | none => rfl
  | some c => exact EdgeConfig.areStorable_toFields c

/-- A workflow that can be written has a document in every shape. -/
theorem IsWritable.exists_document {w : Workflow} (h : w.IsWritable) (now : Timestamp)
    (settings : Settings) (shape : Shape) :
    ∃ document, (w.toSpecDocument now settings shape).result = .ok document := by
  have hcompilable : ∀ n ∈ w.nodes, Spec.isCompilable w.nodes n = true :=
    fun n hn => (h.nodes_writable n hn).isCompilable w.nodes
  have hstorable : ∀ n ∈ w.nodes, ∀ b, (Spec.Node.compiled w.nodes b n).isStorable = true :=
    fun n hn b => (h.nodes_writable n hn).isStorable_compiled w.nodes b
  refine ⟨_, result_toSpecDocument_eq_ok_iff.2 ⟨isCompilable_of_forall hcompilable shape, ?_, rfl⟩⟩
  rw [Spec.isStorable, Bool.and_eq_true, List.all_eq_true]
  constructor
  · intro m hm
    obtain ⟨n, hn, rfl⟩ := List.mem_map.1 hm
    exact hstorable n (List.mem_filter.1 hn).1 _
  · rw [compiled]
    cases shape.keepsMetadata with
    | false => rfl
    | true =>
      show (Spec.Metadata.compiled now w).isStorable = true
      rw [Spec.Metadata.isStorable, Bool.and_eq_true, List.all_eq_true, List.all_eq_true]
      constructor
      · intro m hm
        obtain ⟨n, hn, rfl⟩ := List.mem_map.1 hm
        exact hstorable n (List.mem_filter.1 hn).1 true
      · intro d hd
        obtain ⟨e, he, rfl⟩ := List.mem_map.1 hd
        exact isStorable_ofEdge (h.styles_shallow e he)

/-! ## Values that are nested too deep -/

/-- A workflow has no document in a shape that lists a node with a port whose value is nested too
deep. -/
theorem result_toSpecDocument_of_deep {w : Workflow} (now : Timestamp) (settings : Settings)
    {shape : Shape} (hcompilable : w.isCompilable shape = true) {n : Node}
    (hn : n ∈ Spec.listedNodes shape w) {e : String × Port} (he : e ∈ n.allInputs.entries)
    (hdeep : e.2.toWire.isStorableUnder 1 = false) :
    (w.toSpecDocument now settings shape).result = .error .tooDeep := by
  have hinput : (e.1, Reference.resolved w.nodes e.2.toWire) ∈
      (Spec.inputsAmong w.nodes n).entries := by
    rw [Spec.inputsAmong, Table.entries_complete]
    exact List.mem_append_left _ (List.mem_map.2 ⟨e, he, rfl⟩)
  have hstorable : (w.compiled now settings shape).isStorable = false := by
    rw [← Bool.not_eq_true]
    intro hall
    rw [Spec.isStorable, Bool.and_eq_true, List.all_eq_true] at hall
    have hnode := hall.1 _ (List.mem_map_of_mem hn)
    rw [Spec.Node.isStorable, List.all_eq_true] at hnode
    have hvalue := hnode _ (List.mem_append_left _ hinput)
    rw [Json.isStorableUnder_eq_of_height_eq (Reference.height_resolved w.nodes e.2.toWire),
      hdeep] at hvalue
    cases hvalue
  rw [result_toSpecDocument_of_isCompilable hcompilable, Spec.store, hstorable]
  rfl

/-- A value that lies in `n` lists, each in the next. -/
def nested : Nat → Json
  | 0 => .null
  | n + 1 => .arr [nested n]

theorem height_nested (n : Nat) : (nested n).height = n + 1 := by
  induction n with
  | zero => rfl
  | succ n ih => rw [nested, Json.height, Json.heightOfItems, Json.heightOfItems, ih, Nat.max_zero]

theorem isFinite_nested (n : Nat) : (nested n).isFinite = true := by
  induction n with
  | zero => rfl
  | succ n ih =>
    rw [nested, Json.isFinite, Json.areFiniteItems, ih]
    rfl

/-- Lists are no references. -/
theorem referenceHead?_nested (n : Nat) : (nested n).referenceHead? = none := by
  cases n <;> rfl

/-- A value that lies in 255 lists is nested too deep, wherever it is. -/
theorem isStorableUnder_nested (outer : Nat) : (nested 255).isStorableUnder outer = false := by
  rw [Json.isStorableUnder, height_nested, Json.maxStoredHeight]
  exact decide_eq_false (by omega)

theorem isStorable_nested : (nested 255).isStorable = false :=
  isStorableUnder_nested 0

end Workflow

end WorkflowGraph
