import WorkflowGraph.Proofs.Config
import WorkflowGraph.Proofs.Port
import WorkflowGraph.Proofs.Reading
import WorkflowGraph.Proofs.Spec.Compile
import WorkflowGraph.Spec.ToWorkflow

/-!
# Nodes restored from what they are compiled to

A node is compiled to inputs that hold its ports and those of its settings that no port hides. They
are told apart again if no port is taken for a setting (`Node.IsSeparable`) and no setting for a port
(`Node.HasPlainSettings`). Main statements: `restore_compiled`, what is restored; and
`compiled_restored_at`, for a portable node this is compiled to the same again.
-/

namespace WorkflowGraph

/-- No default port is named like a setting of its kind. -/
theorem NodeVariant.not_mem_defaultInputs (variant : NodeVariant) :
    ∀ name ∈ variant.keys.map (·.wire), name ∉ (defaultInputs variant.kind.name).names := by
  cases variant <;> decide

namespace Node

/-! ## Settings that are shown -/

/-- The name of a setting that no port in effect hides. -/
def showsSetting (n : Node) (name : String) : Bool :=
  !n.allInputs.has name

/-- The settings that stand among the inputs of the node of a spec. -/
def shownSettings (n : Node) : Json.Fields :=
  ((n.config.map NodeConfig.wireInputs).getD []).filter fun f => n.showsSetting f.1

/-- Ports that have the name of a setting hold references. -/
def IsSeparable (n : Node) : Prop :=
  ∀ e ∈ n.inputs.entries, e.1 ∈ settingKeys n.kind →
    e.2.binding ≠ .literal ∧ e.2.value.referenceHead? ≠ none

instance (n : Node) : Decidable n.IsSeparable :=
  inferInstanceAs (Decidable (∀ e ∈ n.inputs.entries, e.1 ∈ settingKeys n.kind →
    e.2.binding ≠ .literal ∧ e.2.value.referenceHead? ≠ none))

/-- No setting is a text with the form of a reference. -/
def HasPlainSettings (n : Node) : Prop :=
  ∀ c ∈ n.config, ∀ f ∈ c.wireInputs, f.2.referenceHead? = none

instance (n : Node) : Decidable n.HasPlainSettings :=
  inferInstanceAs (Decidable (∀ c ∈ n.config, ∀ f ∈ c.wireInputs, f.2.referenceHead? = none))

/-- No number among the settings is infinite or undefined. -/
def HasFiniteSettings (n : Node) : Prop :=
  ∀ c ∈ n.config, c.isFinite = true

instance (n : Node) : Decidable n.HasFiniteSettings :=
  inferInstanceAs (Decidable (∀ c ∈ n.config, c.isFinite = true))

theorem nodup_wireInputs (n : Node) :
    (((n.config.map NodeConfig.wireInputs).getD []).map Prod.fst).Nodup := by
  cases n.config with
  | none => exact .nil
  | some c => exact c.nodup_wireInputs

end Node

namespace Spec

variable {nodes : List WorkflowGraph.Node} {n : WorkflowGraph.Node}

/-- The inputs of a compiled node: its ports, then the settings that are shown. -/
theorem entries_inputsAmong (nodes : List WorkflowGraph.Node) (n : WorkflowGraph.Node) :
    (inputsAmong nodes n).entries =
      (n.allInputs.entries.map fun e => (e.1, Reference.resolved nodes e.2.toWire)) ++
        n.shownSettings := by
  rw [inputsAmong, Table.entries_complete, Table.entries_ofList n.nodup_wireInputs]
  simp only [Table.has_map]
  rfl

/-! ## Telling ports from settings -/

/-- The settings of a configuration are those that its kind of nodes has. -/
theorem mem_settingKeys_of_mem_wireInputs {c : NodeConfig} (hc : n.config = some c)
    {f : String × Json} (hf : f ∈ c.wireInputs) : f.1 ∈ settingKeys n.kind := by
  have hname : f.1 ∈ c.variant.keys.map (·.wire) := by
    rw [← NodeConfig.names_wireInputs]
    exact List.mem_map_of_mem hf
  have hdefault : (defaultInputs c.kind).has f.1 = false :=
    Table.has_eq_false_iff.2 (NodeVariant.not_mem_defaultInputs c.variant f.1 hname)
  rw [settingKeys, ← n.config_kind c hc, NodeConfig.ofKind?_kind]
  exact List.mem_filter.2 ⟨hname, by rw [hdefault]; rfl⟩

/-- The settings that are shown are read as settings. -/
theorem isSetting_of_mem_shownSettings (hplain : n.HasPlainSettings) {f : String × Json}
    (hf : f ∈ n.shownSettings) : isSetting n.kind f.1 f.2 = true := by
  have hf := (List.mem_filter.1 hf).1
  cases hc : n.config with
  | none => rw [hc] at hf; cases hf
  | some c =>
    rw [hc, Option.map_some, Option.getD_some] at hf
    rw [isSetting_eq, hplain c hc f hf,
      List.contains_iff_mem.2 (mem_settingKeys_of_mem_wireInputs hc hf)]
    rfl

/-- The ports in effect are read as ports. -/
theorem isSetting_of_mem_allInputs (hsep : n.IsSeparable) {e : String × Port}
    (he : e ∈ n.allInputs.entries) (nodes : List WorkflowGraph.Node) :
    isSetting n.kind e.1 (Reference.resolved nodes e.2.toWire).storable = false := by
  rw [isSetting_eq, Json.referenceHead?_storable, Reference.referenceHead?_resolved]
  by_cases hname : e.1 ∈ settingKeys n.kind
  · have hown : e ∈ n.inputs.entries := by
      rcases Table.mem_override he with h | ⟨h, -⟩
      · exact h
      · exact absurd hname (not_mem_settingKeys (Table.mem_names_of_mem h))
    obtain ⟨hbound, hhead⟩ := hsep e hown hname
    have hwire : e.2.toWire = e.2.value := by simp [Port.toWire, Port.isUnset, hbound]
    obtain ⟨head, hsome⟩ := Option.ne_none_iff_exists'.1 hhead
    rw [hwire, hsome]
    simp
  · have hkey : (settingKeys n.kind).contains e.1 = false := by
      rw [← Bool.not_eq_true, List.contains_iff_mem]
      exact hname
    rw [hkey, Bool.false_and]

/-- The settings that are shown are finite. -/
theorem areFinite_shownSettings (hfinite : n.HasFiniteSettings) :
    Json.areFiniteFields n.shownSettings = true := by
  rw [Json.areFiniteFields_eq_true_iff]
  intro f hf
  have hf := (List.mem_filter.1 hf).1
  cases hc : n.config with
  | none => rw [hc] at hf; cases hf
  | some c =>
    rw [hc, Option.map_some, Option.getD_some, NodeConfig.wireInputs_of_isFinite (hfinite c hc)] at hf
    exact Json.areFiniteFields_eq_true_iff.1 (NodeConfig.isFinite_toFields (hfinite c hc)) f hf

/-- The settings that are shown are stored as they are. -/
theorem storable_shownSettings (hfinite : n.HasFiniteSettings) :
    n.shownSettings.map (fun f => (f.1, f.2.storable)) = n.shownSettings := by
  rw [← Json.storableFields_eq_map]
  exact Json.storableFields_of_areFinite _ (areFinite_shownSettings hfinite)

/-- The inputs of a stored compiled node: ports, then settings. -/
theorem entries_storable_compiled (hfinite : n.HasFiniteSettings) (nodes : List WorkflowGraph.Node)
    (withPosition : Bool) :
    (Node.compiled nodes withPosition n).storable.inputs.entries =
      (n.allInputs.entries.map fun e => (e.1, (Reference.resolved nodes e.2.toWire).storable)) ++
        n.shownSettings := by
  show ((inputsAmong nodes n).entries.map fun e => (e.1, e.2.storable)) = _
  rw [entries_inputsAmong, List.map_append, storable_shownSettings hfinite, List.map_map]
  rfl

/-- What stands among the inputs splits into the ports and the settings again. -/
theorem filter_isSetting_compiled (hsep : n.IsSeparable) (hplain : n.HasPlainSettings)
    (hfinite : n.HasFiniteSettings) (nodes : List WorkflowGraph.Node) (withPosition : Bool) :
    ((Node.compiled nodes withPosition n).storable.inputs.entries.filter fun e =>
      isSetting n.kind e.1 e.2) = n.shownSettings := by
  rw [entries_storable_compiled hfinite, List.filter_append, List.filter_eq_nil_iff.2,
    List.filter_eq_self.2 fun f hf => isSetting_of_mem_shownSettings hplain hf, List.nil_append]
  intro e he
  obtain ⟨x, hx, rfl⟩ := List.mem_map.1 he
  rw [isSetting_of_mem_allInputs hsep hx]
  exact Bool.false_ne_true

theorem filter_not_isSetting_compiled (hsep : n.IsSeparable) (hplain : n.HasPlainSettings)
    (hfinite : n.HasFiniteSettings) (nodes : List WorkflowGraph.Node) (withPosition : Bool) :
    ((Node.compiled nodes withPosition n).storable.inputs.entries.filter fun e =>
      !isSetting n.kind e.1 e.2) =
        n.allInputs.entries.map fun e => (e.1, (Reference.resolved nodes e.2.toWire).storable) := by
  rw [entries_storable_compiled hfinite, List.filter_append, List.filter_eq_self.2,
    List.filter_eq_nil_iff.2, List.append_nil]
  · intro f hf
    rw [isSetting_of_mem_shownSettings hplain hf]
    exact Bool.false_ne_true
  · intro e he
    obtain ⟨x, hx, rfl⟩ := List.mem_map.1 he
    rw [isSetting_of_mem_allInputs hsep hx]
    rfl

/-! ## Restoring -/

/-- What is restored from any node of a spec, whatever is written on the way. -/
theorem Node.value_restore (positions : Table (Table Float64)) (m : Node) :
    (m.restore positions).value = (WorkflowGraph.Node.make m.id (NodeKind.currentName m.type)
      (m.place positions) (m.label.getD "") "" (m.settings (NodeKind.currentName m.type))
      (m.ports (NodeKind.currentName m.type)) (DataType.ofFields m.outputs.entries).value).value := by
  unfold Node.restore
  dsimp only
  split <;> rfl

/-- The ports of a node that was compiled among some nodes and restored. -/
def restoredInputs (nodes : List WorkflowGraph.Node) (n : WorkflowGraph.Node) : Table Port :=
  n.allInputs.map fun _ port => .ofWire (Reference.resolved nodes port.toWire).storable

/-- What the configuration of a node that was compiled and restored is made from. -/
def settingsData (n : WorkflowGraph.Node) : Json :=
  match n.shownSettings with
  | [] => .null
  | settings =>
    .obj (ofWireFields (((NodeVariant.ofKind? n.kind).map NodeVariant.keys).getD []) settings)

/-- A node that was compiled among some nodes and restored, at a place. -/
def restored (nodes : List WorkflowGraph.Node) (position : Position) (n : WorkflowGraph.Node) :
    WorkflowGraph.Node :=
  (WorkflowGraph.Node.make n.id n.kind position n.displayLabel "" (settingsData n)
    (restoredInputs nodes n) n.allOutputs).value

/-- The outputs of a compiled node are read back. -/
theorem value_ofFields_outputs (t : Table DataType) :
    (DataType.ofFields ((t.map fun _ type => Json.str type.name).map
      fun _ v => v.storable).entries).value = t := by
  have hentry : ∀ e : String × DataType,
      (e.1, (DataType.ofEntry (Json.str e.2.name).storable).value) = e :=
    fun e => Prod.ext rfl (DataType.value_ofEntry_name e.2)
  simp only [DataType.ofFields, Logged.value_bind, Logged.value_mapList, Logged.value_pure,
    Table.map, List.map_map, Function.comp_def, hentry, List.map_id']
  exact Table.ofList_entries t

/-- What is restored from a compiled node, whatever stands among its inputs. -/
theorem Node.value_restore_compiled (hkind : n.kind ≠ NodeKind.formerInterruptName)
    (nodes : List WorkflowGraph.Node) (withPosition : Bool) (positions : Table (Table Float64)) :
    let m := (Node.compiled nodes withPosition n).storable
    (m.restore positions).value =
      (WorkflowGraph.Node.make n.id n.kind (m.place positions) n.displayLabel "" (m.settings n.kind)
        (m.ports n.kind) n.allOutputs).value := by
  intro m
  have hcurrent : NodeKind.currentName n.kind = n.kind := if_neg hkind
  rw [Node.value_restore]
  show (WorkflowGraph.Node.make n.id (NodeKind.currentName n.kind) _ n.displayLabel ""
    (m.settings (NodeKind.currentName n.kind)) (m.ports (NodeKind.currentName n.kind))
    (DataType.ofFields ((n.allOutputs.map fun _ type => Json.str type.name).map
      fun _ v => v.storable).entries).value).value = _
  rw [hcurrent, value_ofFields_outputs]

/-- What is restored from a compiled node whose ports and settings are told apart. -/
theorem value_restore_compiled (hkind : n.kind ≠ NodeKind.formerInterruptName)
    (hsep : n.IsSeparable) (hplain : n.HasPlainSettings) (hfinite : n.HasFiniteSettings)
    (nodes : List WorkflowGraph.Node) (withPosition : Bool) (positions : Table (Table Float64)) :
    ((Node.compiled nodes withPosition n).storable.restore positions).value =
      restored nodes ((Node.compiled nodes withPosition n).place positions) n := by
  have hsettings : (Node.compiled nodes withPosition n).storable.settings n.kind =
      settingsData n := by
    rw [Node.settings, filter_isSetting_compiled hsep hplain hfinite, settingsData]
    rfl
  have hports : (Node.compiled nodes withPosition n).storable.ports n.kind =
      restoredInputs nodes n := by
    rw [Node.ports, filter_not_isSetting_compiled hsep hplain hfinite, List.map_map]
    exact Table.ofList_map_entries n.allInputs fun _ port =>
      Port.ofWire (Reference.resolved nodes port.toWire).storable
  rw [Node.value_restore_compiled hkind, hsettings, hports]
  rfl

/-! ## What is kept of the node -/

/-- A restored node has the kind of the former, and so begins or ends runs as it did. -/
theorem isTerminal_restored (nodes : List WorkflowGraph.Node) (position : Position)
    (n : WorkflowGraph.Node) : (restored nodes position n).isTerminal = n.isTerminal := rfl

/-- A node that is labelled as another of its id is shown is shown as that one. -/
theorem displayLabel_of_label {m n : WorkflowGraph.Node} (hid : m.id = n.id)
    (hlabel : m.label = n.displayLabel) : m.displayLabel = n.displayLabel := by
  rw [WorkflowGraph.Node.displayLabel, hlabel, hid]
  split
  · next hempty =>
    unfold WorkflowGraph.Node.displayLabel at hempty ⊢
    split
    · rfl
    · next hne =>
      rw [if_neg hne] at hempty
      exact absurd hempty hne
  · rfl

theorem displayLabel_restored (nodes : List WorkflowGraph.Node) (position : Position)
    (n : WorkflowGraph.Node) : (restored nodes position n).displayLabel = n.displayLabel :=
  displayLabel_of_label rfl rfl

/-- A node of the same kind that lists the outputs in effect has the same in effect. -/
theorem allOutputs_of_outputs {m n : WorkflowGraph.Node} (hkind : m.kind = n.kind)
    (houtputs : m.outputs = n.allOutputs) : m.allOutputs = n.allOutputs := by
  rw [WorkflowGraph.Node.allOutputs, houtputs, hkind]
  refine Table.complete_eq_self fun name hname => ?_
  rw [WorkflowGraph.Node.allOutputs, Table.names_complete, List.mem_append]
  by_cases hown : name ∈ n.outputs.names
  · exact Or.inl hown
  · refine Or.inr (List.mem_filter.2 ⟨hname, ?_⟩)
    rw [Table.has_eq_false_iff.2 hown]
    rfl

theorem allOutputs_restored (nodes : List WorkflowGraph.Node) (position : Position)
    (n : WorkflowGraph.Node) : (restored nodes position n).allOutputs = n.allOutputs :=
  allOutputs_of_outputs rfl rfl

theorem outputNames_restored (nodes : List WorkflowGraph.Node) (position : Position)
    (n : WorkflowGraph.Node) : (restored nodes position n).outputNames = n.outputNames := by
  rw [WorkflowGraph.Node.outputNames, allOutputs_restored, WorkflowGraph.Node.outputNames]

/-- The ports in effect are those that were restored, since these include the default ports. -/
theorem allInputs_restored (nodes : List WorkflowGraph.Node) (position : Position)
    (n : WorkflowGraph.Node) : (restored nodes position n).allInputs = restoredInputs nodes n :=
  Table.override_map_override (defaultInputs n.kind) n.inputs fun _ port =>
    Port.ofWire (Reference.resolved nodes port.toWire).storable

theorem showsSetting_restored (nodes : List WorkflowGraph.Node) (position : Position)
    (n : WorkflowGraph.Node) : (restored nodes position n).showsSetting = n.showsSetting := by
  funext name
  rw [WorkflowGraph.Node.showsSetting, allInputs_restored, restoredInputs, Table.has_map]
  rfl

/-- The configuration is restored but for the settings that ports hide. -/
theorem config_restored (hfinite : n.HasFiniteSettings) (nodes : List WorkflowGraph.Node)
    (position : Position) :
    (restored nodes position n).config =
      if n.shownSettings = [] then none else n.config.map (·.kept n.showsSetting) := by
  show (WorkflowGraph.Node.configured n.kind (settingsData n)).value = _
  cases hshown : n.shownSettings with
  | nil => simp [settingsData, hshown, WorkflowGraph.Node.configured]
  | cons f settings =>
    rw [if_neg (List.cons_ne_nil _ _)]
    cases hc : n.config with
    | none => simp [WorkflowGraph.Node.shownSettings, hc] at hshown
    | some c =>
      have hkind := n.config_kind c hc
      -- what is shown are the fields of the settings that no port hides
      have hdata : settingsData n = .obj (ofWireFields c.variant.keys
          ((c.toFields .wire).filter fun f => n.showsSetting f.1)) := by
        have hfields : n.shownSettings =
            (c.toFields .wire).filter fun f => n.showsSetting f.1 := by
          rw [WorkflowGraph.Node.shownSettings, hc, Option.map_some, Option.getD_some,
            NodeConfig.wireInputs_of_isFinite (hfinite c hc)]
        rw [← hfields, settingsData, hshown, ← hkind, NodeConfig.ofKind?_kind]
        rfl
      rw [WorkflowGraph.Node.configured, hdata, if_neg Json.noConfusion, ← hkind,
        NodeConfig.create_wire]
      rfl

/-- The configuration is restored as it was if no port hides a setting. -/
theorem config_restored_of_shown (hfinite : n.HasFiniteSettings)
    (hshown : ∀ c ∈ n.config, ∀ f ∈ c.wireInputs, n.showsSetting f.1 = true)
    (nodes : List WorkflowGraph.Node) (position : Position) :
    (restored nodes position n).config = n.config := by
  rw [config_restored hfinite]
  cases hc : n.config with
  | none => simp
  | some c =>
    have hall := hshown c hc
    have hfields := NodeConfig.wireInputs_of_isFinite (hfinite c hc)
    have hne : n.shownSettings ≠ [] := by
      rw [WorkflowGraph.Node.shownSettings, hc, Option.map_some, Option.getD_some,
        List.filter_eq_self.2 hall, hfields]
      cases c <;> exact List.cons_ne_nil _ _
    rw [if_neg hne, Option.map_some, NodeConfig.kept_of_forall (by rwa [← hfields])]

/-- The settings that are shown are restored. -/
theorem shownSettings_restored (hfinite : n.HasFiniteSettings) (nodes : List WorkflowGraph.Node)
    (position : Position) : (restored nodes position n).shownSettings = n.shownSettings := by
  rw [WorkflowGraph.Node.shownSettings, config_restored hfinite, showsSetting_restored]
  by_cases hnil : n.shownSettings = []
  · simp [hnil]
  · rw [if_neg hnil, WorkflowGraph.Node.shownSettings]
    cases hc : n.config with
    | none => rfl
    | some c =>
      simp only [Option.map_some, Option.getD_some,
        NodeConfig.wireInputs_of_isFinite (hfinite c hc),
        NodeConfig.wireInputs_of_isFinite (NodeConfig.isFinite_kept (hfinite c hc)),
        NodeConfig.filter_toFields_kept]

end Spec

/-! ## Compiling again -/

/-- The ports in effect are portable if those of the node are. -/
theorem Node.isPortable_allInputs {n : Node} (h : ∀ e ∈ n.inputs.entries, e.2.IsPortable) :
    ∀ e ∈ n.allInputs.entries, e.2.IsPortable := by
  intro e he
  rcases Table.mem_override he with hown | ⟨hdefault, -⟩
  · exact h e hown
  · exact isPortable_defaultInputs n.kind e hdefault

/-- The ports of the node are portable, none of them with a value of its own has the name of a
setting, and its settings are finite and no references. -/
@[mk_iff]
structure Node.IsPortable (n : Node) : Prop where
  kind_current : n.kind ≠ NodeKind.formerInterruptName
  inputs_portable : ∀ e ∈ n.inputs.entries, e.2.IsPortable
  /-- A port with a value of its own is not named like a setting. -/
  literals_separate : ∀ e ∈ n.inputs.entries, e.2.binding = .literal → e.1 ∉ settingKeys n.kind
  settings_plain : n.HasPlainSettings
  settings_finite : n.HasFiniteSettings

namespace Node.IsPortable

variable {n : Node}

instance (n : Node) : Decidable n.IsPortable :=
  decidable_of_iff' _ n.isPortable_iff

theorem isSeparable (h : n.IsPortable) : n.IsSeparable := by
  intro e he hname
  have hbound : e.2.binding ≠ .literal := fun hliteral => h.literals_separate e he hliteral hname
  refine ⟨hbound, fun hhead => hbound ?_⟩
  rw [(h.inputs_portable e he).binding_eq, Port.bindingOf_eq_literal_iff.2 hhead]

theorem port (h : n.IsPortable) : ∀ e ∈ n.allInputs.entries, e.2.IsPortable :=
  isPortable_allInputs h.inputs_portable

end Node.IsPortable

namespace Spec

variable {part nodes : List WorkflowGraph.Node} {n : WorkflowGraph.Node}

/-- What a portable port is written as is stored as it is. -/
theorem storable_resolved_toWire {p : Port} (hp : p.IsPortable) (nodes : List WorkflowGraph.Node) :
    (Reference.resolved nodes p.toWire).storable = Reference.resolved nodes p.toWire := by
  apply Json.storable_of_isFinite
  rw [Reference.isFinite_resolved]
  exact Port.isFinite_toWire hp.value_finite

theorem toWire_restored {p : Port} (hp : p.IsPortable) (nodes : List WorkflowGraph.Node) :
    (Port.ofWire (Reference.resolved nodes p.toWire).storable).toWire =
      Reference.resolved nodes p.toWire := by
  rw [storable_resolved_toWire hp, Port.toWire_ofWire]
  exact Json.isBlank_resolved (Port.isBlank_toWire hp.binding_eq)

/-- The ports of a restored node are written as before. -/
theorem toWire_restoredInputs (hport : n.IsPortable) (h : Reference.HaveOutputsOf part nodes)
    (hnames : Reference.HaveReadableNames nodes) :
    (restoredInputs nodes n).map (fun _ port => Reference.resolved part port.toWire) =
      n.allInputs.map fun _ port => Reference.resolved nodes port.toWire := by
  apply Table.ext_entries
  simp only [restoredInputs, Table.map, List.map_map]
  refine List.map_congr_left fun e he => ?_
  simp only [Function.comp_apply, toWire_restored (hport.port e he),
    Reference.resolved_resolved h hnames]

/-- A portable node that was compiled and restored is compiled to the same inputs again. -/
theorem inputsAmong_restored (hport : n.IsPortable) (h : Reference.HaveOutputsOf part nodes)
    (hnames : Reference.HaveReadableNames nodes) (position : Position) :
    inputsAmong part (restored nodes position n) = inputsAmong nodes n := by
  apply Table.ext_entries
  have hports := congrArg Table.entries (toWire_restoredInputs hport h hnames)
  simp only [Table.map] at hports
  rw [entries_inputsAmong, entries_inputsAmong, allInputs_restored,
    shownSettings_restored hport.settings_finite, hports]

/-- A portable node that was compiled and restored, in its place if that is written, is compiled to the
same again. -/
theorem compiled_restored_at (hport : n.IsPortable) (h : Reference.HaveOutputsOf part nodes)
    (hnames : Reference.HaveReadableNames nodes) {withPosition : Bool} {position : Position}
    (hplace : withPosition = true → position = n.position) :
    Node.compiled part withPosition (restored nodes position n) =
      Node.compiled nodes withPosition n := by
  have hposition : (if withPosition then some (coordinates position) else none) =
      if withPosition then some (coordinates n.position) else none := by
    cases withPosition with
    | false => rfl
    | true => rw [hplace rfl]
  unfold Node.compiled
  rw [inputsAmong_restored hport h hnames, displayLabel_restored, allOutputs_restored]
  show Node.mk _ _ _ _ _ (if withPosition then some (coordinates position) else none) = _
  rw [hposition]
  rfl

theorem isStorable_kept {keep : String → Bool} {c : NodeConfig} (h : c.isStorable = true) :
    (c.kept keep).isStorable = true := by
  cases c with
  | tool c =>
    simp only [NodeConfig.kept, NodeConfig.isStorable]
    split
    · exact h
    · rfl
  | _ => rfl

/-- A portable node that can be compiled can be compiled again. -/
theorem isCompilable_restored (hport : n.IsPortable) (h : Reference.HaveOutputsOf part nodes)
    (hnames : Reference.HaveReadableNames nodes) (position : Position)
    (hn : isCompilable nodes n = true) : isCompilable part (restored nodes position n) = true := by
  unfold isCompilable at hn ⊢
  rw [Bool.and_eq_true, List.all_eq_true] at hn ⊢
  constructor
  · rw [allInputs_restored]
    intro e he
    obtain ⟨x, hx, rfl⟩ := List.mem_map.1 he
    rw [toWire_restored (hport.port x hx)]
    exact Reference.isResolvable_resolved h hnames (hn.1 x hx)
  · rw [config_restored hport.settings_finite]
    split
    · rfl
    · cases hc : n.config with
      | none => rfl
      | some c =>
        have hc' := hn.2
        rw [hc] at hc'
        exact isStorable_kept hc'

end Spec

end WorkflowGraph
