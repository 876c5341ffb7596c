import Mathlib.Data.List.Nodup
import WorkflowGraph.Config.Edge
import WorkflowGraph.Config.Node
import WorkflowGraph.Proofs.Json
import WorkflowGraph.Proofs.Spec.Document

/-!
# Configurations as inputs of spec nodes

The settings of a node are written among the inputs of a spec node, where a port of the same name
hides a setting. `NodeConfig.kept` is what remains when the hidden settings are replaced by their
defaults. Under the keys of documents and of stored graphs nothing is hidden. Main statements:
`NodeConfig.create_wire`, the settings that are read back are the kept ones;
`NodeConfig.filter_toFields_kept`, these are written as the former were; and
`NodeConfig.create_toFields` and `EdgeConfig.create_toFields`, settings that stand alone are read back
as they are.
-/

namespace WorkflowGraph

/-! ## Forms of configurations -/

theorem NodeVariant.ofKind?_kind (variant : NodeVariant) :
    ofKind? variant.kind.name = some variant := by
  cases variant <;> decide

theorem EdgeVariant.ofKind?_kind (variant : EdgeVariant) :
    ofKind? variant.kind.name = some variant := by
  cases variant <;> decide

theorem EdgeVariant.name_of_ofKind? {name : String} {variant : EdgeVariant}
    (h : ofKind? name = some variant) : variant.kind.name = name := by
  have hfind : all.find? (·.kind.name == name) = some variant := h
  simpa using List.find?_some hfind

/-! ## Fields of forms -/

theorem InputField.ofFields_toJson (vocabulary : Vocabulary) (f : InputField) :
    Schema.record "InputField" InputField.ofFields (f.toJson vocabulary) = .valid f := by
  cases f with
  | mk key label type required validation => cases vocabulary <;> cases validation <;> rfl

theorem FormConfig.list_inputFields (vocabulary : Vocabulary) (fields : List InputField) :
    Schema.list (Schema.record "InputField" InputField.ofFields)
      (.arr (fields.map (InputField.toJson vocabulary))) = .valid fields :=
  Schema.list_map_self fun f _ => InputField.ofFields_toJson vocabulary f

/-! ## Settings that are read -/

theorem LlmConfig.ofFields_eq_valid_iff {fields : Json.Fields} {c : LlmConfig} :
    ofFields fields = .valid c ↔
      modelKey.read fields ({} : LlmConfig).model Schema.text = .valid c.model ∧
      temperatureKey.read fields ({} : LlmConfig).temperature Schema.number = .valid c.temperature ∧
      maxTokensKey.read fields ({} : LlmConfig).maxTokens Schema.integer = .valid c.maxTokens := by
  constructor
  · intro h
    obtain ⟨_, tokens, htwo, htokens, rfl⟩ := Checked.exists_of_seq h
    obtain ⟨_, temperature, hfirst, htemperature, rfl⟩ := Checked.exists_of_seq htwo
    obtain ⟨model, hmodel, rfl⟩ := Checked.exists_of_map hfirst
    exact ⟨hmodel, htemperature, htokens⟩
  · rintro ⟨hmodel, htemperature, htokens⟩
    simp only [ofFields, hmodel, htemperature, htokens]
    rfl

theorem ToolConfig.ofFields_eq_valid_iff {fields : Json.Fields} {c : ToolConfig} :
    ofFields fields = .valid c ↔
      toolNameKey.read fields ({} : ToolConfig).toolName Schema.text = .valid c.toolName ∧
      parametersKey.read fields ({} : ToolConfig).parameters Schema.object = .valid c.parameters := by
  constructor
  · intro h
    obtain ⟨_, parameters, hfirst, hparameters, rfl⟩ := Checked.exists_of_seq h
    obtain ⟨name, hname, rfl⟩ := Checked.exists_of_map hfirst
    exact ⟨hname, hparameters⟩
  · rintro ⟨hname, hparameters⟩
    simp only [ofFields, hname, hparameters]
    rfl

theorem InterruptConfig.ofFields_eq_valid_iff {fields : Json.Fields} {c : InterruptConfig} :
    ofFields fields = .valid c ↔
      promptKey.read fields ({} : InterruptConfig).prompt Schema.text = .valid c.prompt ∧
      timeoutKey.read fields ({} : InterruptConfig).timeout Schema.integer = .valid c.timeout := by
  constructor
  · intro h
    obtain ⟨_, timeout, hfirst, htimeout, rfl⟩ := Checked.exists_of_seq h
    obtain ⟨prompt, hprompt, rfl⟩ := Checked.exists_of_map hfirst
    exact ⟨hprompt, htimeout⟩
  · rintro ⟨hprompt, htimeout⟩
    simp only [ofFields, hprompt, htimeout]
    rfl

theorem FormConfig.ofFields_eq_valid_iff {fields : Json.Fields} {c : FormConfig} :
    ofFields fields = .valid c ↔
      inputFieldsKey.read fields ({} : FormConfig).inputFields
        (Schema.list (Schema.record "InputField" InputField.ofFields)) = .valid c.inputFields := by
  constructor
  · intro h
    obtain ⟨inputFields, hinputFields, rfl⟩ := Checked.exists_of_map h
    exact hinputFields
  · intro h
    simp only [ofFields, h]
    rfl

namespace NodeConfig

theorem variant_default (variant : NodeVariant) : (default variant).variant = variant := by
  cases variant <;> rfl

theorem variant_ofFields {variant : NodeVariant} {fields : Json.Fields} {c : NodeConfig}
    (h : ofFields variant fields = .valid c) : c.variant = variant := by
  cases variant <;>
    (obtain ⟨_, _, rfl⟩ := Checked.exists_of_map h
     rfl)

/-- A configuration is made exactly for the kinds that have one, and of the form for the kind. -/
theorem variant_create (kind : String) (data : Json) :
    (create kind data).value.map variant = NodeVariant.ofKind? kind := by
  unfold create
  cases hkind : NodeVariant.ofKind? kind with
  | none =>
    dsimp only
    split <;> rfl
  | some v =>
    dsimp only
    cases hread : ofJson v data with
    | invalid violations => exact congrArg some (variant_default v)
    | valid c =>
      refine congrArg some ?_
      unfold ofJson Schema.record at hread
      split at hread
      · exact variant_ofFields hread
      · cases hread

/-! ## Kept settings -/

/-- The configuration with the defaults for all settings but those whose keys are kept. -/
def kept (keep : String → Bool) : NodeConfig → NodeConfig
  | llm c =>
    let base : LlmConfig := {}
    llm {
      model := if keep LlmConfig.modelKey.wire then c.model else base.model
      temperature := if keep LlmConfig.temperatureKey.wire then c.temperature else base.temperature
      maxTokens := if keep LlmConfig.maxTokensKey.wire then c.maxTokens else base.maxTokens }
  | tool c =>
    let base : ToolConfig := {}
    tool {
      toolName := if keep ToolConfig.toolNameKey.wire then c.toolName else base.toolName
      parameters := if keep ToolConfig.parametersKey.wire then c.parameters else base.parameters }
  | interrupt c =>
    let base : InterruptConfig := {}
    interrupt {
      prompt := if keep InterruptConfig.promptKey.wire then c.prompt else base.prompt
      timeout := if keep InterruptConfig.timeoutKey.wire then c.timeout else base.timeout }
  | form c =>
    let base : FormConfig := {}
    form {
      inputFields :=
        if keep FormConfig.inputFieldsKey.wire then c.inputFields else base.inputFields }

/-- No number in the settings is infinite or undefined. -/
def isFinite : NodeConfig → Bool
  | llm c => c.temperature.isFinite
  | tool c => Json.areFiniteFields c.parameters
  | _ => true

theorem kept_of_forall {keep : String → Bool} {c : NodeConfig}
    (h : ∀ f ∈ c.toFields .wire, keep f.1 = true) : c.kept keep = c := by
  cases c with
  | llm c =>
    simp only [toFields, LlmConfig.toFields, List.forall_mem_cons] at h
    obtain ⟨h1, h2, h3, -⟩ := h
    simp only [SettingKey.name] at h1 h2 h3
    simp only [kept, h1, h2, h3, ite_true]
  | tool c =>
    simp only [toFields, ToolConfig.toFields, List.forall_mem_cons] at h
    obtain ⟨h1, h2, -⟩ := h
    simp only [SettingKey.name] at h1 h2
    simp only [kept, h1, h2, ite_true]
  | interrupt c =>
    simp only [toFields, InterruptConfig.toFields, List.forall_mem_cons] at h
    obtain ⟨h1, h2, -⟩ := h
    simp only [SettingKey.name] at h1 h2
    simp only [kept, h1, h2, ite_true]
  | form c =>
    simp only [toFields, FormConfig.toFields, List.forall_mem_cons] at h
    obtain ⟨h1, -⟩ := h
    simp only [SettingKey.name] at h1
    simp only [kept, h1, ite_true]

/-- Settings that are kept are written as before. -/
theorem filter_toFields_kept (keep : String → Bool) (c : NodeConfig) :
    (((c.kept keep).toFields .wire).filter fun f => keep f.1) =
      (c.toFields .wire).filter fun f => keep f.1 := by
  cases c with
  | llm c =>
    cases h1 : keep LlmConfig.modelKey.wire <;> cases h2 : keep LlmConfig.temperatureKey.wire <;>
      cases h3 : keep LlmConfig.maxTokensKey.wire <;>
      simp [kept, toFields, LlmConfig.toFields, SettingKey.name, h1, h2, h3]
  | tool c =>
    cases h1 : keep ToolConfig.toolNameKey.wire <;> cases h2 : keep ToolConfig.parametersKey.wire <;>
      simp [kept, toFields, ToolConfig.toFields, SettingKey.name, h1, h2]
  | interrupt c =>
    cases h1 : keep InterruptConfig.promptKey.wire <;>
      cases h2 : keep InterruptConfig.timeoutKey.wire <;>
      simp [kept, toFields, InterruptConfig.toFields, SettingKey.name, h1, h2]
  | form c =>
    cases h1 : keep FormConfig.inputFieldsKey.wire <;>
      simp [kept, toFields, FormConfig.toFields, SettingKey.name, h1]

/-- The fields of the settings that are kept are read as those and the defaults of all others. -/
theorem ofFields_filter_toFields (keep : String → Bool) (c : NodeConfig) :
    ofFields c.variant (ofWireFields c.variant.keys
      ((c.toFields .wire).filter fun f => keep f.1)) = .valid (c.kept keep) := by
  -- each field is kept or not by itself; once this is known for all, the reader computes
  cases c with
  | llm c =>
    cases h1 : keep LlmConfig.modelKey.wire <;> cases h2 : keep LlmConfig.temperatureKey.wire <;>
      cases h3 : keep LlmConfig.maxTokensKey.wire <;>
      simp only [kept, toFields, LlmConfig.toFields, SettingKey.name, List.filter_cons,
        List.filter_nil, h1, h2, h3] <;> rfl
  | tool c =>
    cases h1 : keep ToolConfig.toolNameKey.wire <;> cases h2 : keep ToolConfig.parametersKey.wire <;>
      simp only [kept, toFields, ToolConfig.toFields, SettingKey.name, List.filter_cons,
        List.filter_nil, h1, h2] <;> rfl
  | interrupt c =>
    cases h1 : keep InterruptConfig.promptKey.wire <;>
      cases h2 : keep InterruptConfig.timeoutKey.wire <;>
      simp only [kept, toFields, InterruptConfig.toFields, SettingKey.name, List.filter_cons,
        List.filter_nil, h1, h2] <;> rfl
  | form c =>
    cases h1 : keep FormConfig.inputFieldsKey.wire with
    | true =>
      simp only [kept, toFields, FormConfig.toFields, SettingKey.name, List.filter_cons,
        List.filter_nil, h1, ite_true]
      have hread := FormConfig.list_inputFields .wire c.inputFields
      show form <$> FormConfig.mk <$> Checked.under (.key "input_fields") (Schema.list _ _) = _
      rw [hread]
      rfl
    | false =>
      simp only [kept, toFields, FormConfig.toFields, SettingKey.name, List.filter_cons,
        List.filter_nil, h1]
      rfl

theorem ofKind?_kind (c : NodeConfig) : NodeVariant.ofKind? c.kind = some c.variant :=
  NodeVariant.ofKind?_kind c.variant

/-- An object without fields counts as not given, and so does what is read in its place. -/
theorem orElse_obj (fields : Json.Fields) : (Json.obj fields).orElse (.obj []) = .obj fields := by
  cases fields <;> rfl

/-- The configuration made from the fields of the settings that are kept. -/
theorem create_wire (keep : String → Bool) (c : NodeConfig) :
    (create c.kind (.obj (ofWireFields c.variant.keys
      ((c.toFields .wire).filter fun f => keep f.1)))).value = some (c.kept keep) := by
  simp only [create, ofKind?_kind, ofJson, orElse_obj, Schema.record, ofFields_filter_toFields,
    Logged.value_pure]

/-- The settings are read from their fields. The keys among the inputs of spec nodes are not those that
are looked up. -/
theorem ofFields_toFields {vocabulary : Vocabulary} (h : vocabulary ≠ .wire) (c : NodeConfig) :
    ofFields c.variant (c.toFields vocabulary) = .valid c := by
  cases c with
  | form c =>
    have hread := FormConfig.list_inputFields vocabulary c.inputFields
    cases vocabulary with
    | document =>
      show form <$> FormConfig.mk <$> Checked.under (.key "inputFields") (Schema.list _ _) = _
      rw [hread]
      rfl
    | stored =>
      show form <$> FormConfig.mk <$> Checked.under (.key "input_fields") (Schema.list _ _) = _
      rw [hread]
      rfl
    | wire => exact absurd rfl h
  | _ =>
    cases vocabulary with
    | wire => exact absurd rfl h
    | _ => rfl

/-- The configuration made from the fields of one. -/
theorem create_toFields {vocabulary : Vocabulary} (h : vocabulary ≠ .wire) (c : NodeConfig) :
    (create c.kind (.obj (c.toFields vocabulary))).value = some c := by
  simp only [create, ofKind?_kind, ofJson, orElse_obj, Schema.record, ofFields_toFields h,
    Logged.value_pure]

/-! ## Names and values of the settings -/

theorem names_wireInputs (c : NodeConfig) :
    c.wireInputs.map Prod.fst = c.variant.keys.map (·.wire) := by
  cases c <;> rfl

theorem nodup_wire_keys (variant : NodeVariant) : (variant.keys.map (·.wire)).Nodup := by
  cases variant <;> decide

theorem nodup_wireInputs (c : NodeConfig) : (c.wireInputs.map Prod.fst).Nodup := by
  rw [names_wireInputs]
  exact nodup_wire_keys c.variant

theorem eq_of_mem_wireInputs {c : NodeConfig} {name : String} {a b : Json}
    (ha : (name, a) ∈ c.wireInputs) (hb : (name, b) ∈ c.wireInputs) : a = b :=
  congrArg Prod.snd (List.inj_on_of_nodup_map c.nodup_wireInputs ha hb rfl)

theorem storable_of_isFinite {c : NodeConfig} (h : c.isFinite = true) : c.storable = c := by
  cases c with
  | tool c => simp only [storable, Json.storableFields_of_areFinite c.parameters h]
  | _ => rfl

theorem wireInputs_of_isFinite {c : NodeConfig} (h : c.isFinite = true) :
    c.wireInputs = c.toFields .wire := by
  rw [wireInputs, storable_of_isFinite h]

theorem isFinite_inputField (f : InputField) : (f.toJson .wire).isFinite = true := by
  cases f with
  | mk key label type required validation => cases validation <;> rfl

/-- The fields of finite settings are finite. -/
theorem isFinite_toFields {c : NodeConfig} (h : c.isFinite = true) :
    Json.areFiniteFields (c.toFields .wire) = true := by
  cases c with
  | llm c =>
    have h : c.temperature.isFinite = true := h
    simp [toFields, LlmConfig.toFields, Json.isFinite, h]
  | tool c =>
    have h : Json.areFiniteFields c.parameters = true := h
    simp only [toFields, ToolConfig.toFields, Json.areFiniteFields, Json.isFinite, h]
    rfl
  | interrupt c => rfl
  | form c =>
    have hitems : ∀ fields : List InputField,
        Json.areFiniteItems (fields.map (InputField.toJson .wire)) = true := by
      intro fields
      induction fields with
      | nil => rfl
      | cons f fields ih =>
        rw [List.map_cons, Json.areFiniteItems, isFinite_inputField, ih]
        rfl
    simp only [toFields, FormConfig.toFields, Json.areFiniteFields, Json.isFinite, hitems]
    rfl

theorem isFinite_kept {keep : String → Bool} {c : NodeConfig} (h : c.isFinite = true) :
    (c.kept keep).isFinite = true := by
  cases c with
  | llm c =>
    simp only [kept, isFinite]
    split
    · exact h
    · decide
  | tool c =>
    simp only [kept, isFinite]
    split
    · exact h
    · rfl
  | interrupt c => rfl
  | form c => rfl

end NodeConfig

namespace EdgeConfig

/-! ## Edges -/

theorem ofFields_toFields (vocabulary : Vocabulary) (c : EdgeConfig) :
    ofFields c.variant (c.toFields vocabulary) = .valid c := by
  cases c <;> cases vocabulary <;> rfl

/-- The configuration made from the fields of one. -/
theorem create_toFields (vocabulary : Vocabulary) (c : EdgeConfig) :
    (create c.variant.kind.name (.obj (c.toFields vocabulary))).value = some c := by
  simp only [create, EdgeVariant.ofKind?_kind, ofJson, NodeConfig.orElse_obj, Schema.record,
    ofFields_toFields, Logged.value_pure]

theorem storableFields_toFields (c : EdgeConfig) :
    Json.storableFields (c.toFields .document) = c.toFields .document := by
  cases c <;> rfl

theorem areStorable_toFields (c : EdgeConfig) : (c.toFields .document).areStorable = true := by
  cases c <;> rfl

end EdgeConfig

end WorkflowGraph
