import WorkflowGraph.Proofs.Spec.RestoredWorkflow

/-!
# What every restored workflow is like

Whatever a spec holds, the nodes that are restored from it keep ports and settings apart: a port is
bound as its value says, no port with a value of its own has the name of a setting, and no setting is
a reference, since a reference under the name of a setting is read as a port. Main statements:
`NodeConfig.plain_of_create` for the settings and `isPortable_restore` for the nodes.
-/

namespace WorkflowGraph

/-! ## Fields that are read -/

namespace Json.Fields

variable {fields : Fields} {key : String}

theorem exists_mem_of_get? {value : Json} (h : fields.get? key = some value) :
    ∃ f ∈ fields, f.2 = value := by
  obtain ⟨f, hf, hvalue⟩ := Option.map_eq_some_iff.1 h
  exact ⟨f, List.mem_of_find?_eq_some hf, hvalue⟩

theorem mem_of_mem_set {value : Json} {f : String × Json} (h : f ∈ fields.set key value) :
    f ∈ fields ∨ f = (key, value) := by
  unfold set at h
  split at h
  · obtain ⟨g, hg, rfl⟩ := List.mem_map.1 h
    split
    · exact Or.inr rfl
    · exact Or.inl hg
  · rcases List.mem_append.1 h with h | h
    · exact Or.inl h
    · exact Or.inr (List.mem_singleton.1 h)

theorem mem_of_mem_foldl_set {more read : Fields} {f : String × Json}
    (h : f ∈ more.foldl (fun acc f => Fields.set acc f.1 f.2) read) : f ∈ read ∨ f ∈ more := by
  induction more generalizing read with
  | nil => exact Or.inl h
  | cons g more ih =>
    rcases ih h with h | h
    · rcases mem_of_mem_set h with h | h
      · exact Or.inl h
      · exact Or.inr (h ▸ List.mem_cons_self)
    · exact Or.inr (List.mem_cons_of_mem _ h)

/-- Fields with each key once are some of those that were given. -/
theorem mem_of_mem_ofList {f : String × Json} (h : f ∈ Fields.ofList fields) : f ∈ fields := by
  rcases mem_of_mem_foldl_set h with h | h
  · cases h
  · exact h

/-- No value is a text with the form of a reference. -/
def ArePlain (fields : Fields) : Prop :=
  ∀ f ∈ fields, f.2.referenceHead? = none

theorem ArePlain.nil : ArePlain [] := by
  intro f hf
  cases hf

theorem ArePlain.cons {f : String × Json} (hf : f.2.referenceHead? = none)
    (hfields : ArePlain fields) : ArePlain (f :: fields) := by
  intro g hg
  rcases List.mem_cons.1 hg with rfl | hg
  · exact hf
  · exact hfields g hg

end Json.Fields

namespace Schema

variable {α : Type} {fields : Json.Fields} {keys : List String} {check : Json → Checked α}

theorem get?_of_lookup? {key : String} {value : Json} (h : lookup? fields keys = some (key, value)) :
    fields.get? key = some value := by
  induction keys with
  | nil => cases h
  | cons k keys ih =>
    unfold lookup? at h
    split at h
    · next hget =>
      obtain ⟨rfl, rfl⟩ := Prod.mk.inj (Option.some.inj h)
      exact hget
    · exact ih h

/-- A field that has a default has it or is read from a value. -/
theorem eq_default_or_of_optional {default a : α} (h : optional fields keys default check = .valid a) :
    a = default ∨ ∃ f ∈ fields, check f.2 = .valid a := by
  unfold optional at h
  split at h
  · next key value hlookup =>
    obtain ⟨f, hf, rfl⟩ := Json.Fields.exists_mem_of_get? (get?_of_lookup? hlookup)
    exact Or.inr ⟨f, hf, Checked.eq_valid_of_under h⟩
  · exact Or.inl (Checked.valid.inj h).symm

theorem eq_str_of_text {v : Json} {s : String} (h : text v = .valid s) : v = .str s := by
  cases v with
  | str t => rw [Checked.valid.inj h]
  | _ => cases h

/-- A text that is read from plain fields is plain if its default is. -/
theorem referenceHead?_of_optional_text {default s : String}
    (hfields : Json.Fields.ArePlain fields) (hdefault : (Json.str default).referenceHead? = none)
    (h : optional fields keys default text = .valid s) : (Json.str s).referenceHead? = none := by
  rcases eq_default_or_of_optional h with rfl | ⟨f, hf, hread⟩
  · exact hdefault
  · rw [← eq_str_of_text hread]
    exact hfields f hf

end Schema

/-! ## Settings -/

namespace NodeConfig

/-- Settings that are read from plain fields are plain: texts are read as they are, and nothing else
is written as a text. -/
theorem plain_of_ofFields {variant : NodeVariant} {fields : Json.Fields} {c : NodeConfig}
    (hfields : fields.ArePlain) (h : ofFields variant fields = .valid c) :
    Json.Fields.ArePlain c.wireInputs := by
  cases variant with
  | llm =>
    obtain ⟨c, hc, rfl⟩ := Checked.exists_of_map h
    obtain ⟨hmodel, -, -⟩ := LlmConfig.ofFields_eq_valid_iff.1 hc
    have hplain := Schema.referenceHead?_of_optional_text hfields (by decide) hmodel
    exact .cons hplain (.cons rfl (.cons rfl .nil))
  | tool =>
    obtain ⟨c, hc, rfl⟩ := Checked.exists_of_map h
    obtain ⟨hname, -⟩ := ToolConfig.ofFields_eq_valid_iff.1 hc
    have hplain := Schema.referenceHead?_of_optional_text hfields (by decide) hname
    exact .cons hplain (.cons rfl .nil)
  | interrupt =>
    obtain ⟨c, hc, rfl⟩ := Checked.exists_of_map h
    obtain ⟨hprompt, -⟩ := InterruptConfig.ofFields_eq_valid_iff.1 hc
    have hplain := Schema.referenceHead?_of_optional_text hfields (by decide) hprompt
    exact .cons hplain (.cons rfl .nil)
  | form =>
    obtain ⟨c, -, rfl⟩ := Checked.exists_of_map h
    exact .cons rfl .nil

theorem plain_default (variant : NodeVariant) : Json.Fields.ArePlain (default variant).wireInputs := by
  unfold Json.Fields.ArePlain
  cases variant <;> decide

/-- Settings that are made from an object of plain fields are plain, also if they are the defaults
for want of fields that can be read. -/
theorem plain_of_create {kind : String} {fields : Json.Fields} {c : NodeConfig}
    (hfields : fields.ArePlain) (h : (create kind (.obj fields)).value = some c) :
    Json.Fields.ArePlain c.wireInputs := by
  unfold create at h
  split at h
  · split at h <;> cases h
  · next variant _ =>
    split at h
    · next read hread =>
      obtain rfl := Option.some.inj h
      rw [ofJson, orElse_obj] at hread
      exact plain_of_ofFields hfields hread
    · obtain rfl := Option.some.inj h
      exact plain_default variant

end NodeConfig

namespace Spec

/-! ## Nodes -/

variable {positions : Table (Table Float64)} {m : Node}

/-- What the configuration is made from, if it is made at all, holds no reference. -/
theorem Node.settings_eq (m : Node) (kind : String) :
    m.settings kind = .null ∨
      ∃ fields : Json.Fields, m.settings kind = .obj fields ∧ fields.ArePlain := by
  unfold settings
  split
  · exact Or.inl rfl
  · next entries hentries =>
    refine Or.inr ⟨_, rfl, fun f hf => ?_⟩
    have hf := Json.Fields.mem_of_mem_ofList hf
    obtain ⟨e, he, rfl⟩ := List.mem_map.1 hf
    have hsetting := (List.mem_filter.1 he).2
    rw [isSetting_eq, Bool.and_eq_true, Option.isNone_iff_eq_none] at hsetting
    exact hsetting.2

/-- The ports of a restored node are the inputs that are no settings. -/
theorem Node.entries_ports (m : Node) (kind : String) :
    (m.ports kind).entries =
      (m.inputs.entries.filter fun e => !isSetting kind e.1 e.2).map fun e => (e.1, .ofWire e.2) := by
  refine Table.entries_ofList ?_
  rw [List.map_map]
  exact m.inputs.nodup.sublist (List.filter_sublist.map _)

theorem inputs_restore (positions : Table (Table Float64)) (m : Node) :
    (m.restore positions).value.inputs = m.ports (NodeKind.currentName m.type) := by
  rw [Node.value_restore]
  rfl

theorem kind_restore (positions : Table (Table Float64)) (m : Node) :
    (m.restore positions).value.kind = NodeKind.currentName m.type := by
  rw [Node.value_restore]
  rfl

theorem config_restore (positions : Table (Table Float64)) (m : Node) :
    (m.restore positions).value.config =
      (WorkflowGraph.Node.configured (NodeKind.currentName m.type)
        (m.settings (NodeKind.currentName m.type))).value := by
  rw [Node.value_restore]
  rfl

theorem hasPlainSettings_restore (positions : Table (Table Float64)) (m : Node) :
    (m.restore positions).value.HasPlainSettings := by
  intro c hc
  rw [Option.mem_def, config_restore] at hc
  rcases m.settings_eq (NodeKind.currentName m.type) with hnull | ⟨fields, hobj, hplain⟩
  · rw [hnull] at hc
    cases hc
  · rw [hobj, WorkflowGraph.Node.configured, if_neg Json.noConfusion] at hc
    exact NodeConfig.plain_of_create hplain hc

/-- A port that is read from an input is bound as its value says. -/
theorem binding_ofWire_eq (v : Json) : (Port.ofWire v).binding = Port.bindingOf (Port.ofWire v).value := by
  unfold Port.ofWire
  split <;> rfl

theorem ne_formerInterruptName_currentName (type : String) :
    NodeKind.currentName type ≠ NodeKind.formerInterruptName := by
  unfold NodeKind.currentName
  split
  · decide
  · next hne => exact hne

/-- The ports of a restored node are read from inputs that are no settings of its kind. -/
theorem exists_wire_of_mem_restore {e : String × Port}
    (he : e ∈ (m.restore positions).value.inputs.entries) :
    ∃ v, isSetting (m.restore positions).value.kind e.1 v = false ∧ e.2 = .ofWire v := by
  rw [inputs_restore, Node.entries_ports] at he
  obtain ⟨f, hf, rfl⟩ := List.mem_map.1 he
  have hno := (List.mem_filter.1 hf).2
  rw [Bool.not_eq_true'] at hno
  rw [kind_restore]
  exact ⟨f.2, hno, rfl⟩

theorem binding_of_mem_restore {e : String × Port}
    (he : e ∈ (m.restore positions).value.inputs.entries) :
    e.2.binding = Port.bindingOf e.2.value := by
  obtain ⟨v, -, hv⟩ := exists_wire_of_mem_restore he
  rw [hv]
  exact binding_ofWire_eq v

/-- An input under the name of a setting is a port only if it is a reference. -/
theorem not_mem_settingKeys_of_mem_restore {e : String × Port}
    (he : e ∈ (m.restore positions).value.inputs.entries) (hliteral : e.2.binding = .literal) :
    e.1 ∉ settingKeys (m.restore positions).value.kind := by
  intro hname
  obtain ⟨v, hno, hv⟩ := exists_wire_of_mem_restore he
  rw [hv, Port.binding_ofWire, Port.bindingOf_eq_literal_iff] at hliteral
  rw [isSetting_eq, hliteral, List.contains_iff_mem.2 hname] at hno
  cases hno

theorem kind_restore_ne (positions : Table (Table Float64)) (m : Node) :
    (m.restore positions).value.kind ≠ NodeKind.formerInterruptName := by
  rw [kind_restore]
  exact ne_formerInterruptName_currentName m.type

/-- A restored node is portable if its numbers are finite and its references are read. -/
theorem isPortable_restore
    (hports : ∀ e ∈ (m.restore positions).value.inputs.entries,
      e.2.value.isFinite = true ∧ Reference.isReadable e.2.value = true)
    (hsettings : (m.restore positions).value.HasFiniteSettings) :
    (m.restore positions).value.IsPortable :=
  ⟨kind_restore_ne positions m,
    fun e he => ⟨binding_of_mem_restore he, (hports e he).1, (hports e he).2⟩,
    fun _ he => not_mem_settingKeys_of_mem_restore he, hasPlainSettings_restore positions m,
    hsettings⟩

end Spec

namespace Workflow

/-- Each node of the workflow of a spec is restored from a node of the spec or from one that is kept
besides. -/
theorem exists_restore_of_mem {s : Surroundings} {settings : Settings} {spec : Spec} {n : Node}
    (hn : n ∈ (spec.toWorkflow s settings).value.nodes) :
    ∃ m ∈ spec.keptTerminals ++ spec.nodes, (m.restore spec.positions).value = n := by
  change n ∈ spec.restoreNodes.value at hn
  rw [value_restoreNodes, List.mem_append, List.mem_append] at hn
  rcases hn with (hn | hn) | hn
  · obtain ⟨m, hm, rfl⟩ := List.mem_map.1 (List.mem_filter.1 hn).1
    exact ⟨m, List.mem_append_left _ hm, rfl⟩
  · obtain ⟨m, hm, rfl⟩ := List.mem_map.1 hn
    exact ⟨m, List.mem_append_right _ hm, rfl⟩
  · obtain ⟨m, hm, rfl⟩ := List.mem_map.1 (List.mem_filter.1 hn).1
    exact ⟨m, List.mem_append_left _ hm, rfl⟩

end Workflow

end WorkflowGraph
