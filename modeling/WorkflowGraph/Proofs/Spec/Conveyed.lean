import WorkflowGraph.Proofs.Difference
import WorkflowGraph.Proofs.Spec.Accepted

/-!
# Ports that pass as settings

A port with a value of its own and the name of a setting stands among the inputs of a spec node as the
setting would, and is read back as the setting. The restored node, `Spec.conveyed`, lacks the port, and
it has a configuration made of all values that were read as settings. Main statement:
`Spec.same_inputs_conveyed`, when this node is compiled to the same inputs as the former: always if that
one has a configuration, too, but else only if its ports leave no setting to be given its default.
-/

namespace WorkflowGraph

namespace Node

/-- The port is read from a spec as a setting: it has a value of its own and the name of a setting. -/
def passesAsSetting (n : Node) (e : String × Port) : Bool :=
  e.2.binding = .literal && (settingKeys n.kind).contains e.1

/-- The configuration for the kind of the node has a setting of the name, and takes the value for it,
unchanged. -/
def accepts (n : Node) (name : String) (value : Json) : Bool :=
  (NodeVariant.ofKind? n.kind).any (·.accepts name value)

/-- The ports in effect that stay ports. -/
def keptPorts (n : Node) : List (String × Port) :=
  n.allInputs.entries.filter fun e => !n.passesAsSetting e

/-- All that is read from the node as its settings: ports that pass as such, and the settings that are
shown. -/
def passedSettings (n : Node) : Json.Fields :=
  ((n.allInputs.entries.filter n.passesAsSetting).map fun e => (e.1, e.2.toWire)) ++ n.shownSettings

/-- Restoring the node adds no setting to its inputs: it has a configuration already, or no port passes
as a setting, or each setting has a port of its name. -/
def keepsInputs (n : Node) : Bool :=
  n.config.isSome || !n.allInputs.entries.any n.passesAsSetting ||
    !(settingKeys n.kind).any n.showsSetting

/-- The ports of the node are portable, those that pass as settings have values that are accepted, and
its settings are finite and no references. -/
@[mk_iff]
structure IsConveyable (n : Node) : Prop where
  kind_current : n.kind ≠ NodeKind.formerInterruptName
  inputs_portable : ∀ e ∈ n.inputs.entries, e.2.IsPortable
  /-- A port that is read as a setting has a value that the setting takes. -/
  literals_accepted : ∀ e ∈ n.inputs.entries, n.passesAsSetting e = true →
    n.accepts e.1 e.2.toWire = true
  settings_plain : n.HasPlainSettings
  settings_finite : n.HasFiniteSettings

instance (n : Node) : Decidable n.IsConveyable :=
  decidable_of_iff' _ (isConveyable_iff n)

end Node

/-! ## Telling ports from settings -/

/-- A portable port is written as a reference exactly if it is bound to one. -/
theorem Port.IsPortable.isNone_referenceHead?_toWire {p : Port} (h : p.IsPortable) :
    p.toWire.referenceHead?.isNone = decide (p.binding = .literal) := by
  rw [Bool.eq_iff_iff, Option.isNone_iff_eq_none, decide_eq_true_iff]
  rcases Port.toWire_eq p with ⟨hunset, hp⟩ | ⟨-, hp⟩
  · rw [Port.isUnset, Bool.and_eq_true, decide_eq_true_iff] at hunset
    rw [hp]
    exact iff_of_true (DataType.referenceHead?_name _) hunset.1
  · rw [hp, h.binding_eq, Port.bindingOf_eq_literal_iff]

namespace Node

variable {n : Node}

theorem mem_inputs_of_passesAsSetting {e : String × Port} (he : e ∈ n.allInputs.entries)
    (hpass : n.passesAsSetting e = true) : e ∈ n.inputs.entries := by
  rw [passesAsSetting, Bool.and_eq_true, List.contains_iff_mem] at hpass
  rcases Table.mem_override he with hown | ⟨hdefault, -⟩
  · exact hown
  · exact absurd hpass.2 (not_mem_settingKeys (Table.mem_names_of_mem hdefault))

/-- The ports that stay ports begin with the default ports. -/
theorem names_keptPorts (n : Node) :
    ∃ rest, n.keptPorts.map Prod.fst = (defaultInputs n.kind).names ++ rest := by
  have hdefault : ∀ e ∈ (defaultInputs n.kind).entries.map fun e =>
      (e.1, (n.inputs.find? e.1).getD e.2), (!n.passesAsSetting e) = true := by
    intro e he
    obtain ⟨x, hx, rfl⟩ := List.mem_map.1 he
    have hkey : (settingKeys n.kind).contains x.1 = false := by
      rw [← Bool.not_eq_true, List.contains_iff_mem]
      exact not_mem_settingKeys (Table.mem_names_of_mem hx)
    rw [passesAsSetting, hkey, Bool.and_false]
    rfl
  rw [keptPorts, allInputs, Table.entries_override, List.filter_append,
    List.filter_eq_self.2 hdefault, List.map_append, List.map_map]
  exact ⟨_, rfl⟩

theorem nodup_keptPorts (n : Node) : (n.keptPorts.map Prod.fst).Nodup :=
  n.allInputs.nodup.sublist (List.filter_sublist.map _)

theorem mem_names_of_mem_keptPorts {name : String} (h : name ∈ n.keptPorts.map Prod.fst) :
    name ∈ n.allInputs.names := by
  obtain ⟨e, he, rfl⟩ := List.mem_map.1 h
  exact Table.mem_names_of_mem (List.mem_filter.1 he).1

theorem not_mem_names_of_mem_shownSettings {f : String × Json} (h : f ∈ n.shownSettings) :
    f.1 ∉ n.allInputs.names := by
  have hshown := (List.mem_filter.1 h).2
  rwa [showsSetting, Bool.not_eq_true', Table.has_eq_false_iff] at hshown

theorem not_mem_keptPorts_of_mem_passedSettings {f : String × Json} (h : f ∈ n.passedSettings) :
    f.1 ∉ n.keptPorts.map Prod.fst := by
  rcases List.mem_append.1 h with h | h
  · obtain ⟨e, he, rfl⟩ := List.mem_map.1 h
    obtain ⟨he, hpass⟩ := List.mem_filter.1 he
    intro hkept
    obtain ⟨x, hx, hname⟩ := List.mem_map.1 hkept
    obtain ⟨hx, hstays⟩ := List.mem_filter.1 hx
    rw [List.inj_on_of_nodup_map n.allInputs.nodup hx he hname, hpass] at hstays
    cases hstays
  · exact fun hkept => not_mem_names_of_mem_shownSettings h (mem_names_of_mem_keptPorts hkept)

theorem nodup_passedSettings (n : Node) : (n.passedSettings.map Prod.fst).Nodup := by
  rw [passedSettings, List.map_append, List.nodup_append]
  refine ⟨?_, n.nodup_wireInputs.sublist (List.filter_sublist.map _), ?_⟩
  · rw [List.map_map]
    exact n.allInputs.nodup.sublist (List.filter_sublist.map _)
  · rintro name hport _ hshown rfl
    obtain ⟨f, hf, rfl⟩ := List.mem_map.1 hshown
    obtain ⟨e, he, hname⟩ := List.mem_map.1 hport
    obtain ⟨x, hx, rfl⟩ := List.mem_map.1 he
    refine not_mem_names_of_mem_shownSettings hf ?_
    rw [← hname]
    exact Table.mem_names_of_mem (List.mem_filter.1 hx).1

/-- A node with settings to be read is of a kind that has them. -/
theorem exists_variant_of_passedSettings (h : n.passedSettings ≠ []) :
    ∃ variant, NodeVariant.ofKind? n.kind = some variant := by
  -- a port passes only under the name of a setting of the kind, and a setting is shown only of a
  -- configuration for the kind
  obtain ⟨f, hf⟩ := List.exists_mem_of_ne_nil _ h
  rcases List.mem_append.1 hf with hf | hf
  · obtain ⟨e, he, -⟩ := List.mem_map.1 hf
    have hpass := (List.mem_filter.1 he).2
    rw [passesAsSetting, Bool.and_eq_true, List.contains_iff_mem, settingKeys] at hpass
    cases hvariant : NodeVariant.ofKind? n.kind with
    | some variant => exact ⟨variant, rfl⟩
    | none =>
      rw [hvariant] at hpass
      cases hpass.2
  · cases hc : n.config with
    | none =>
      rw [shownSettings, hc] at hf
      cases hf
    | some c => exact ⟨c.variant, by rw [← n.config_kind c hc, NodeConfig.ofKind?_kind]⟩

namespace IsConveyable

theorem port (h : n.IsConveyable) : ∀ e ∈ n.allInputs.entries, e.2.IsPortable :=
  isPortable_allInputs h.inputs_portable

theorem areAccepted (h : n.IsConveyable) {variant : NodeVariant}
    (hvariant : NodeVariant.ofKind? n.kind = some variant) :
    NodeConfig.AreAccepted variant n.passedSettings where
  nodup := n.nodup_passedSettings
  accepted f hf := by
    rcases List.mem_append.1 hf with hf | hf
    · obtain ⟨e, he, rfl⟩ := List.mem_map.1 hf
      obtain ⟨he, hpass⟩ := List.mem_filter.1 he
      have haccepted := h.literals_accepted e (mem_inputs_of_passesAsSetting he hpass) hpass
      rwa [accepts, hvariant, Option.any_some] at haccepted
    · have hf := (List.mem_filter.1 hf).1
      cases hc : n.config with
      | none =>
        rw [hc] at hf
        cases hf
      | some c =>
        rw [hc, Option.map_some, Option.getD_some] at hf
        have hown := NodeConfig.ofKind?_kind c
        rw [n.config_kind c hc, hvariant] at hown
        rw [Option.some.inj hown]
        exact NodeConfig.accepts_of_mem_wireInputs (h.settings_finite c hc) hf

end IsConveyable

end Node

namespace Spec

variable {part nodes : List WorkflowGraph.Node} {n : WorkflowGraph.Node}

/-! ## What is restored -/

/-- A port in effect is read as a setting exactly if it passes as one. -/
theorem isSetting_port (hport : ∀ e ∈ n.allInputs.entries, e.2.IsPortable) {e : String × Port}
    (he : e ∈ n.allInputs.entries) (nodes : List WorkflowGraph.Node) :
    isSetting n.kind e.1 (Reference.resolved nodes e.2.toWire).storable = n.passesAsSetting e := by
  rw [isSetting_eq, Json.referenceHead?_storable, Reference.referenceHead?_resolved,
    (hport e he).isNone_referenceHead?_toWire, Bool.and_comm]
  rfl

theorem resolved_of_passesAsSetting (hport : ∀ e ∈ n.allInputs.entries, e.2.IsPortable)
    {e : String × Port} (he : e ∈ n.allInputs.entries) (hpass : n.passesAsSetting e = true)
    (nodes : List WorkflowGraph.Node) : Reference.resolved nodes e.2.toWire = e.2.toWire := by
  apply Reference.resolved_of_referenceHead?_eq_none
  rw [← Option.isNone_iff_eq_none, (hport e he).isNone_referenceHead?_toWire]
  rw [WorkflowGraph.Node.passesAsSetting, Bool.and_eq_true] at hpass
  exact hpass.1

theorem filter_isSetting_conveyed (h : n.IsConveyable) (nodes : List WorkflowGraph.Node)
    (withPosition : Bool) :
    ((Node.compiled nodes withPosition n).storable.inputs.entries.filter fun e =>
      isSetting n.kind e.1 e.2) = n.passedSettings := by
  have hports : ∀ e ∈ n.allInputs.entries,
      ((fun e => isSetting n.kind e.1 e.2) ∘
        fun e => (e.1, (Reference.resolved nodes e.2.toWire).storable)) e = n.passesAsSetting e :=
    fun e he => isSetting_port h.port he nodes
  rw [entries_storable_compiled h.settings_finite, List.filter_append, List.filter_map,
    List.filter_eq_self.2 fun f hf => isSetting_of_mem_shownSettings h.settings_plain hf,
    List.filter_congr hports, WorkflowGraph.Node.passedSettings]
  refine congrArg (· ++ _) (List.map_congr_left fun e he => ?_)
  obtain ⟨he, hpass⟩ := List.mem_filter.1 he
  rw [storable_resolved_toWire (h.port e he), resolved_of_passesAsSetting h.port he hpass]

theorem filter_not_isSetting_conveyed (h : n.IsConveyable) (nodes : List WorkflowGraph.Node)
    (withPosition : Bool) :
    ((Node.compiled nodes withPosition n).storable.inputs.entries.filter fun e =>
      !isSetting n.kind e.1 e.2) =
        n.keptPorts.map fun e => (e.1, (Reference.resolved nodes e.2.toWire).storable) := by
  have hshown : (n.shownSettings.filter fun f => !isSetting n.kind f.1 f.2) = [] := by
    rw [List.filter_eq_nil_iff]
    intro f hf
    rw [isSetting_of_mem_shownSettings h.settings_plain hf]
    exact Bool.false_ne_true
  rw [entries_storable_compiled h.settings_finite, List.filter_append, List.filter_map, hshown,
    List.append_nil, WorkflowGraph.Node.keptPorts]
  refine congrArg (List.map _) (List.filter_congr fun e he => ?_)
  rw [Function.comp_apply, isSetting_port h.port he]

/-- What the configuration of a restored node is made from. -/
def conveyedSettings (n : WorkflowGraph.Node) : Json :=
  match n.passedSettings with
  | [] => .null
  | settings =>
    .obj (ofWireFields (((NodeVariant.ofKind? n.kind).map NodeVariant.keys).getD []) settings)

/-- The ports of a node that was compiled among some nodes and restored. -/
def conveyedPorts (nodes : List WorkflowGraph.Node) (n : WorkflowGraph.Node) : Table Port :=
  .ofList (n.keptPorts.map fun e =>
    (e.1, .ofWire (Reference.resolved nodes e.2.toWire).storable))

/-- A node that was compiled among some nodes and restored in its place, whichever of its ports are
read as settings. -/
def conveyed (nodes : List WorkflowGraph.Node) (n : WorkflowGraph.Node) : WorkflowGraph.Node :=
  (WorkflowGraph.Node.make n.id n.kind n.position n.displayLabel "" (conveyedSettings n)
    (conveyedPorts nodes n) n.allOutputs).value

theorem value_restore_conveyed (h : n.IsConveyable) (nodes : List WorkflowGraph.Node)
    (positions : Table (Table Float64)) :
    ((Node.compiled nodes true n).storable.restore positions).value = conveyed nodes n := by
  have hsettings : (Node.compiled nodes true n).storable.settings n.kind = conveyedSettings n := by
    rw [Node.settings, filter_isSetting_conveyed h, conveyedSettings]
    rfl
  have hports : (Node.compiled nodes true n).storable.ports n.kind = conveyedPorts nodes n := by
    rw [Node.ports, filter_not_isSetting_conveyed h, List.map_map]
    rfl
  rw [Node.value_restore_compiled h.kind_current, hsettings, hports]
  rfl

theorem displayLabel_conveyed (nodes : List WorkflowGraph.Node) (n : WorkflowGraph.Node) :
    (conveyed nodes n).displayLabel = n.displayLabel :=
  displayLabel_of_label rfl rfl

theorem allOutputs_conveyed (nodes : List WorkflowGraph.Node) (n : WorkflowGraph.Node) :
    (conveyed nodes n).allOutputs = n.allOutputs :=
  allOutputs_of_outputs rfl rfl

theorem outputNames_conveyed (nodes : List WorkflowGraph.Node) (n : WorkflowGraph.Node) :
    (conveyed nodes n).outputNames = n.outputNames := by
  rw [WorkflowGraph.Node.outputNames, allOutputs_conveyed, WorkflowGraph.Node.outputNames]

theorem entries_conveyedPorts (nodes : List WorkflowGraph.Node) (n : WorkflowGraph.Node) :
    (conveyedPorts nodes n).entries = n.keptPorts.map fun e =>
      (e.1, .ofWire (Reference.resolved nodes e.2.toWire).storable) := by
  refine Table.entries_ofList ?_
  rw [List.map_map]
  exact n.nodup_keptPorts

theorem names_conveyedPorts (nodes : List WorkflowGraph.Node) (n : WorkflowGraph.Node) :
    (conveyedPorts nodes n).names = n.keptPorts.map Prod.fst := by
  rw [Table.names, entries_conveyedPorts, List.map_map]
  rfl

/-- The ports in effect are those that stayed ports, since these include the default ports. -/
theorem allInputs_conveyed (nodes : List WorkflowGraph.Node) (n : WorkflowGraph.Node) :
    (conveyed nodes n).allInputs = conveyedPorts nodes n := by
  obtain ⟨rest, hrest⟩ := n.names_keptPorts
  exact Table.override_eq_self ((names_conveyedPorts nodes n).trans hrest)

/-- The ports that stayed ports are bound as before, and the others do not count. -/
theorem portBindings_conveyed (h : n.IsConveyable) (nodes : List WorkflowGraph.Node) :
    Workflow.portBindings (conveyed nodes n) = Workflow.portBindings n := by
  have hbinding : ∀ e ∈ n.keptPorts,
      (Port.ofWire (Reference.resolved nodes e.2.toWire).storable).binding = e.2.binding := by
    intro e he
    have hport := h.port e (List.mem_filter.1 he).1
    rw [storable_resolved_toWire hport, Port.binding_ofWire_resolved hport.binding_eq]
  have hstay : (conveyed nodes n).allInputs.entries.filter
      (fun e => !(conveyed nodes n).passesAsSetting e) = (conveyed nodes n).allInputs.entries := by
    refine List.filter_eq_self.2 fun e he => ?_
    rw [allInputs_conveyed, entries_conveyedPorts] at he
    obtain ⟨x, hx, rfl⟩ := List.mem_map.1 he
    have hstays := (List.mem_filter.1 hx).2
    rw [WorkflowGraph.Node.passesAsSetting] at hstays ⊢
    rw [hbinding x hx]
    exact hstays
  show Json.obj (((conveyed nodes n).allInputs.entries.filter
    (fun e => !(conveyed nodes n).passesAsSetting e)).map fun e => (e.1, .str e.2.binding.name)) =
      Json.obj (n.keptPorts.map fun e => (e.1, .str e.2.binding.name))
  rw [hstay, allInputs_conveyed, entries_conveyedPorts, List.map_map]
  refine congrArg Json.obj (List.map_congr_left fun e he => ?_)
  rw [Function.comp_apply, hbinding e he]

/-- Without anything that is read as a setting there is no configuration. -/
theorem config_conveyed_of_nil (hnil : n.passedSettings = []) (nodes : List WorkflowGraph.Node) :
    (conveyed nodes n).config = none := by
  show (WorkflowGraph.Node.configured n.kind (conveyedSettings n)).value = none
  rw [conveyedSettings, hnil]
  rfl

/-- The configuration has all that is read as settings. -/
theorem exists_config_conveyed (h : n.IsConveyable) (hne : n.passedSettings ≠ [])
    (nodes : List WorkflowGraph.Node) :
    ∃ variant c, NodeVariant.ofKind? n.kind = some variant ∧ (conveyed nodes n).config = some c ∧
      NodeConfig.ofFields variant (ofWireFields variant.keys n.passedSettings) = .valid c ∧
      c.Holds n.passedSettings := by
  obtain ⟨variant, hvariant⟩ := WorkflowGraph.Node.exists_variant_of_passedSettings hne
  obtain ⟨c, hc, hholds⟩ := NodeConfig.exists_ofFields_of_accepts (h.areAccepted hvariant)
  refine ⟨variant, c, hvariant, ?_, hc, hholds⟩
  have hdata : conveyedSettings n = .obj (ofWireFields variant.keys n.passedSettings) := by
    rw [conveyedSettings, hvariant]
    cases hpassed : n.passedSettings with
    | nil => exact absurd hpassed hne
    | cons f settings => rfl
  show (WorkflowGraph.Node.configured n.kind (conveyedSettings n)).value = some c
  rw [hdata, WorkflowGraph.Node.configured, if_neg Json.noConfusion]
  simp only [NodeConfig.create, hvariant, NodeConfig.ofJson, NodeConfig.orElse_obj, Schema.record, hc,
    Logged.value_pure]

/-! ## Names of settings -/

/-- The settings that are shown are those of the configuration that no port hides. -/
theorem mem_names_shownSettings_iff {name : String} :
    name ∈ n.shownSettings.map Prod.fst ↔
      n.config.isSome = true ∧ name ∈ settingKeys n.kind ∧ n.showsSetting name = true := by
  constructor
  · intro h
    obtain ⟨f, hf, rfl⟩ := List.mem_map.1 h
    obtain ⟨hf, hshown⟩ := List.mem_filter.1 hf
    cases hc : n.config with
    | none =>
      rw [hc] at hf
      cases hf
    | some c =>
      rw [hc, Option.map_some, Option.getD_some] at hf
      exact ⟨rfl, mem_settingKeys_of_mem_wireInputs hc hf, hshown⟩
  · rintro ⟨hsome, hname, hshown⟩
    obtain ⟨c, hc⟩ := Option.isSome_iff_exists.1 hsome
    have hwire : name ∈ c.wireInputs.map Prod.fst := by
      rw [settingKeys, ← n.config_kind c hc, NodeConfig.ofKind?_kind] at hname
      rw [NodeConfig.names_wireInputs]
      exact (List.mem_filter.1 hname).1
    obtain ⟨f, hf, rfl⟩ := List.mem_map.1 hwire
    refine List.mem_map_of_mem (List.mem_filter.2 ⟨?_, hshown⟩)
    rwa [hc, Option.map_some, Option.getD_some]

theorem showsSetting_conveyed_iff {name : String} :
    (conveyed nodes n).showsSetting name = true ↔ name ∉ n.keptPorts.map Prod.fst := by
  rw [WorkflowGraph.Node.showsSetting, Bool.not_eq_true', Table.has_eq_false_iff, allInputs_conveyed,
    names_conveyedPorts]

/-- What is read as settings is shown among those of the restored node, unchanged. -/
theorem exists_shown_of_passed (h : n.IsConveyable) (nodes : List WorkflowGraph.Node)
    {f : String × Json} (hf : f ∈ n.passedSettings) :
    ∃ written, (f.1, written) ∈ (conveyed nodes n).shownSettings ∧ f.2.same written = true := by
  obtain ⟨variant, c, -, hc, -, hholds⟩ := exists_config_conveyed h (List.ne_nil_of_mem hf) nodes
  obtain ⟨written, hwritten, hsame⟩ := hholds f hf
  refine ⟨written, List.mem_filter.2 ⟨?_, ?_⟩, hsame⟩
  · rwa [hc, Option.map_some, Option.getD_some]
  · have hstays := WorkflowGraph.Node.not_mem_keptPorts_of_mem_passedSettings hf
    exact showsSetting_conveyed_iff.2 hstays

theorem passedSettings_eq_nil (hconfig : n.config = none)
    (hnone : n.allInputs.entries.any n.passesAsSetting = false) : n.passedSettings = [] := by
  have hports : n.allInputs.entries.filter n.passesAsSetting = [] := by
    rw [List.filter_eq_nil_iff]
    intro e he hpass
    rw [List.any_eq_false] at hnone
    exact hnone e he hpass
  rw [WorkflowGraph.Node.passedSettings, hports, WorkflowGraph.Node.shownSettings, hconfig]
  rfl

/-- The restored node shows no other settings than those that were read exactly if the node keeps its
inputs. -/
theorem names_shownSettings_conveyed_iff (h : n.IsConveyable) (nodes : List WorkflowGraph.Node) :
    (conveyed nodes n).shownSettings.map Prod.fst ⊆ n.passedSettings.map Prod.fst ↔
      n.keepsInputs = true := by
  constructor
  · intro hsub
    by_contra hlost
    rw [WorkflowGraph.Node.keepsInputs, Bool.or_eq_true, Bool.or_eq_true, not_or, not_or,
      Bool.not_eq_true', Bool.not_eq_true', Bool.not_eq_false, Bool.not_eq_false, List.any_eq_true,
      List.any_eq_true] at hlost
    obtain ⟨⟨hconfig, e, he, hpass⟩, key, hkey, hshown⟩ := hlost
    have hnew : key ∉ n.allInputs.names := by
      rwa [WorkflowGraph.Node.showsSetting, Bool.not_eq_true', Table.has_eq_false_iff] at hshown
    -- the key is given its default by the configuration that is made for the port
    have hne : n.passedSettings ≠ [] := List.ne_nil_of_mem
      (List.mem_append_left _ (List.mem_map_of_mem (List.mem_filter.2 ⟨he, hpass⟩)))
    obtain ⟨variant, c, -, hc, -⟩ := exists_config_conveyed h hne nodes
    have hadded : key ∈ (conveyed nodes n).shownSettings.map Prod.fst :=
      mem_names_shownSettings_iff.2 ⟨by rw [hc]; rfl, hkey, showsSetting_conveyed_iff.2
        fun hkept => hnew (WorkflowGraph.Node.mem_names_of_mem_keptPorts hkept)⟩
    have hpassed := hsub hadded
    rw [WorkflowGraph.Node.passedSettings, List.map_append, List.mem_append] at hpassed
    rcases hpassed with hport | hsetting
    · rw [List.map_map] at hport
      obtain ⟨x, hx, rfl⟩ := List.mem_map.1 hport
      exact hnew (Table.mem_names_of_mem (List.mem_filter.1 hx).1)
    · exact hconfig (mem_names_shownSettings_iff.1 hsetting).1
  · intro hkeeps name hname
    obtain ⟨hmade, hkey, hshown⟩ := mem_names_shownSettings_iff.1 hname
    have hstays := showsSetting_conveyed_iff.1 hshown
    rw [WorkflowGraph.Node.passedSettings, List.map_append, List.mem_append]
    -- a setting of this name was read from a port that passes as one, or else from the settings
    by_cases hport : name ∈ n.allInputs.names
    · obtain ⟨e, he, rfl⟩ := List.mem_map.1 hport
      have hpass : n.passesAsSetting e = true := by
        by_contra hno
        rw [Bool.not_eq_true] at hno
        exact hstays (List.mem_map_of_mem (List.mem_filter.2 ⟨he, by rw [hno]; rfl⟩))
      refine Or.inl ?_
      rw [List.map_map]
      exact List.mem_map.2 ⟨e, List.mem_filter.2 ⟨he, hpass⟩, rfl⟩
    · have hfree : n.showsSetting name = true := by
        rw [WorkflowGraph.Node.showsSetting, Table.has_eq_false_iff.2 hport]
        rfl
      cases hconfig : n.config with
      | some c => exact Or.inr (mem_names_shownSettings_iff.2 ⟨by rw [hconfig]; rfl, hkey, hfree⟩)
      | none =>
        have hany : (settingKeys n.kind).any n.showsSetting = true :=
          List.any_eq_true.2 ⟨name, hkey, hfree⟩
        have hnone : n.allInputs.entries.any n.passesAsSetting = false := by
          simpa [WorkflowGraph.Node.keepsInputs, hconfig, hany] using hkeeps
        rw [config_conveyed_of_nil (passedSettings_eq_nil hconfig hnone)] at hmade
        cases hmade

/-! ## Comparing the inputs -/

/-- The inputs that a restored node is compiled to: the ports that stayed ports, then the settings. -/
def conveyedInputs (nodes : List WorkflowGraph.Node) (n : WorkflowGraph.Node) : Json.Fields :=
  (n.keptPorts.map fun e => (e.1, Reference.resolved nodes e.2.toWire)) ++
    (conveyed nodes n).shownSettings

theorem entries_inputsAmong_conveyed (h : n.IsConveyable) (hout : Reference.HaveOutputsOf part nodes)
    (hnames : Reference.HaveReadableNames nodes) :
    (inputsAmong part (conveyed nodes n)).entries = conveyedInputs nodes n := by
  rw [entries_inputsAmong, allInputs_conveyed, entries_conveyedPorts, List.map_map, conveyedInputs]
  refine congrArg (· ++ _) (List.map_congr_left fun e he => ?_)
  rw [Function.comp_apply, toWire_restored (h.port e (List.mem_filter.1 he).1),
    Reference.resolved_resolved hout hnames]

/-- The inputs of the node itself are the same ports and what is read as settings. -/
theorem perm_inputsAmong (h : n.IsConveyable) (nodes : List WorkflowGraph.Node) :
    (inputsAmong nodes n).entries.Perm
      ((n.keptPorts.map fun e => (e.1, Reference.resolved nodes e.2.toWire)) ++
        n.passedSettings) := by
  have hpassing : ((n.allInputs.entries.filter n.passesAsSetting).map fun e => (e.1, e.2.toWire)) =
      (n.allInputs.entries.filter n.passesAsSetting).map fun e =>
        (e.1, Reference.resolved nodes e.2.toWire) := by
    refine List.map_congr_left fun e he => ?_
    obtain ⟨he, hpass⟩ := List.mem_filter.1 he
    rw [resolved_of_passesAsSetting h.port he hpass]
  rw [entries_inputsAmong, WorkflowGraph.Node.passedSettings, hpassing, ← List.append_assoc,
    ← List.map_append]
  exact ((List.filter_append_perm n.passesAsSetting n.allInputs.entries).symm.trans
    List.perm_append_comm).map _ |>.append_right _

/-- All inputs are found unchanged among those of the restored node. -/
theorem sameFields_conveyedInputs (h : n.IsConveyable) (nodes : List WorkflowGraph.Node) :
    Json.sameFields (inputsAmong nodes n).entries (conveyedInputs nodes n) = true := by
  rw [Json.sameFields_eq_true_iff]
  intro f hf
  rcases List.mem_append.1 ((perm_inputsAmong h nodes).mem_iff.1 hf) with hport | hpassed
  · refine ⟨f, List.mem_append_left _ hport, rfl, Json.same_self f.2 ?_⟩
    obtain ⟨e, he, rfl⟩ := List.mem_map.1 hport
    rw [Reference.isFinite_resolved]
    exact Port.isFinite_toWire (h.port e (List.mem_filter.1 he).1).value_finite
  · obtain ⟨written, hwritten, hsame⟩ := exists_shown_of_passed h nodes hpassed
    exact ⟨_, List.mem_append_right _ hwritten, rfl, hsame⟩

/-- A node is compiled to the same inputs after it was restored exactly if it keeps them. -/
theorem same_inputs_conveyed (h : n.IsConveyable) (nodes : List WorkflowGraph.Node) :
    (Json.obj (inputsAmong nodes n).entries).same (.obj (conveyedInputs nodes n)) = n.keepsInputs := by
  have hsub : n.passedSettings.map Prod.fst ⊆ (conveyed nodes n).shownSettings.map Prod.fst := by
    intro name hname
    obtain ⟨f, hf, rfl⟩ := List.mem_map.1 hname
    obtain ⟨written, hwritten, -⟩ := exists_shown_of_passed h nodes hf
    exact List.mem_map.2 ⟨_, hwritten, rfl⟩
  have hshown : ((conveyed nodes n).shownSettings.map Prod.fst).Nodup :=
    (conveyed nodes n).nodup_wireInputs.sublist (List.filter_sublist.map _)
  -- the ports that stayed ports are on both sides, so only the numbers of settings are compared
  have hlength : (inputsAmong nodes n).entries.length = (conveyedInputs nodes n).length ↔
      n.keepsInputs = true := by
    rw [(perm_inputsAmong h nodes).length_eq, conveyedInputs, List.length_append, List.length_append,
      Nat.add_left_cancel_iff, ← names_shownSettings_conveyed_iff h nodes,
      ← length_eq_iff_subset n.nodup_passedSettings hshown hsub, List.length_map, List.length_map]
  rw [Json.same, sameFields_conveyedInputs h nodes, Bool.and_true, Bool.eq_iff_iff, beq_iff_eq,
    hlength]

/-! ## Compiling again -/

/-- A node whose spec can be stored can be compiled again after it was restored. -/
theorem isCompilable_conveyed (h : n.IsConveyable) (hout : Reference.HaveOutputsOf part nodes)
    (hnames : Reference.HaveReadableNames nodes) (hn : isCompilable nodes n = true)
    (hstorable : (Node.compiled nodes true n).isStorable = true) :
    isCompilable part (conveyed nodes n) = true := by
  rw [isCompilable, Bool.and_eq_true, List.all_eq_true] at hn ⊢
  constructor
  · rw [allInputs_conveyed, entries_conveyedPorts]
    intro e he
    obtain ⟨x, hx, rfl⟩ := List.mem_map.1 he
    have hx := (List.mem_filter.1 hx).1
    rw [toWire_restored (h.port x hx)]
    exact Reference.isResolvable_resolved hout hnames (hn.1 x hx)
  · by_cases hne : n.passedSettings = []
    · rw [config_conveyed_of_nil hne]
      rfl
    · obtain ⟨variant, c, -, hc, hread, -⟩ := exists_config_conveyed h hne nodes
      rw [hc]
      refine NodeConfig.isStorable_of_ofFields (fun f hf => ?_) hread
      rw [Node.isStorable, List.all_append, Bool.and_eq_true, List.all_eq_true] at hstorable
      exact hstorable.1 f ((perm_inputsAmong h nodes).mem_iff.2 (List.mem_append_right _ hf))

end Spec

namespace Workflow

/-- That a node among some nodes has other inputs after it was restored. -/
def inputsDifference (nodes : List Node) (n : Node) : Difference :=
  .inputs n.id (.obj (Spec.inputsAmong nodes n).entries) (.obj (Spec.conveyedInputs nodes n))

/-- A restored node differs in its inputs or not at all. -/
theorem result_nodeDifferences_conveyed {part nodes : List Node} {n : Node} (h : n.IsConveyable)
    (hout : Reference.HaveOutputsOf part nodes) (hnames : Reference.HaveReadableNames nodes)
    (hn : Spec.isCompilable nodes n = true)
    (hstorable : (Spec.Node.compiled nodes true n).isStorable = true) :
    (nodeDifferences nodes part n (Spec.conveyed nodes n)).result =
      .ok (differenceIf (!n.keepsInputs) (inputsDifference nodes n)) := by
  have hagain := Spec.isCompilable_conveyed h hout hnames hn hstorable
  rw [result_nodeDifferences hn hagain rfl (Spec.displayLabel_conveyed nodes n)
    (Spec.portBindings_conveyed h nodes) (Spec.allOutputs_conveyed nodes n),
    Spec.entries_inputsAmong_conveyed h hout hnames, Spec.same_inputs_conveyed h]
  rfl

end Workflow

end WorkflowGraph
