import WorkflowGraph.Proofs.Spec.Regular
import WorkflowGraph.Proofs.Spec.Writable
import WorkflowGraph.Proofs.Update

/-!
# Settings that are read one by one

Each setting among the inputs of a node of a spec is read by itself, under a key of its own
(`NodeVariant.Reads`). A value is accepted for a setting if a configuration that is made from it alone
has it, unchanged. Main statement: `NodeConfig.exists_ofFields_of_accepts`, values that are accepted one
by one make a configuration that has all of them.
-/

namespace WorkflowGraph

open Json

/-! ## Fields under other keys -/

namespace Json.Fields

theorem get?_eq_some_of_mem {fields : Fields} (hnd : (fields.map Prod.fst).Nodup) {f : String × Json}
    (hf : f ∈ fields) : fields.get? f.1 = some f.2 := by
  rw [get?, Table.find?_eq_some_of_mem hnd hf, Option.map_some]

theorem get?_eq_none_of_not_mem {fields : Fields} {key : String} (h : key ∉ fields.map Prod.fst) :
    fields.get? key = none := by
  rw [get?, Option.map_eq_none_iff, List.find?_eq_none]
  intro f hf heq
  exact h (List.mem_map.2 ⟨f, hf, beq_iff_eq.1 heq⟩)

/-- The field of a key is the only one. -/
theorem filter_eq_singleton {fields : Fields} (hnd : (fields.map Prod.fst).Nodup) {f : String × Json}
    (hf : f ∈ fields) : (fields.filter fun g => g.1 == f.1) = [f] := by
  induction fields with
  | nil => cases hf
  | cons g fields ih =>
    rw [List.map_cons, List.nodup_cons] at hnd
    rcases List.mem_cons.1 hf with rfl | hf
    · rw [List.filter_cons_of_pos (by simp), List.filter_eq_nil_iff.2]
      intro h hmem heq
      exact hnd.1 (List.mem_map.2 ⟨h, hmem, beq_iff_eq.1 heq⟩)
    · rw [List.filter_cons_of_neg, ih hnd.2 hf]
      intro heq
      exact hnd.1 (List.mem_map.2 ⟨f, hf, (beq_iff_eq.1 heq).symm⟩)

theorem foldl_set_of_nodup (more read : Fields) (h : ((read ++ more).map Prod.fst).Nodup) :
    more.foldl (fun acc f => Fields.set acc f.1 f.2) read = read ++ more := by
  induction more generalizing read with
  | nil => simp
  | cons f more ih =>
    have hnew : read.has f.1 = false := by
      rw [← Bool.not_eq_true]
      intro hhas
      obtain ⟨g, hg, heq⟩ := List.any_eq_true.1 hhas
      rw [List.map_append, List.nodup_append] at h
      exact h.2.2 g.1 (List.mem_map_of_mem hg) f.1 (List.mem_map_of_mem List.mem_cons_self)
        (beq_iff_eq.1 heq)
    have hset : Fields.set read f.1 f.2 = read ++ [f] := by simp [set, hnew]
    rw [List.foldl_cons, hset, ih _ (by simpa using h)]
    simp

theorem ofList_of_nodup {fields : Fields} (h : (fields.map Prod.fst).Nodup) : ofList fields = fields :=
  foldl_set_of_nodup fields [] h

/-- A field is found under the key that its own is made into, if no other is made into the same. -/
theorem get?_map_fst {fields : Fields} {rename : String → String} {key : String}
    (h : ∀ f ∈ fields, rename f.1 = rename key → f.1 = key) :
    get? (fields.map fun f => (rename f.1, f.2)) (rename key) = fields.get? key := by
  induction fields with
  | nil => rfl
  | cons f fields ih =>
    obtain ⟨hf, hfields⟩ := List.forall_mem_cons.1 h
    rw [List.map_cons, get?_cons, get?_cons, ih hfields]
    by_cases hkey : f.1 = key
    · rw [if_pos hkey, if_pos (congrArg rename hkey)]
    · rw [if_neg hkey, if_neg fun heq => hkey (hf heq)]

end Json.Fields

theorem Schema.eq_obj_of_object {v : Json} {fields : Fields} (h : Schema.object v = .valid fields) :
    v = .obj fields := by
  cases v with
  | obj given => rw [Checked.valid.inj h]
  | _ => cases h

/-! ## Keys of settings -/

/-- The settings are told apart by their keys among the inputs of spec nodes and by those under which
they are looked up. -/
@[mk_iff]
structure SettingKey.AreSeparate (keys : List SettingKey) : Prop where
  wire_inj : ∀ key ∈ keys, ∀ other ∈ keys, key.wire = other.wire → key = other
  stored_inj : ∀ key ∈ keys, ∀ other ∈ keys, key.stored = other.stored → key = other
  document_inj : ∀ key ∈ keys, ∀ other ∈ keys, key.document = other.stored → key = other

instance (keys : List SettingKey) : Decidable (SettingKey.AreSeparate keys) :=
  decidable_of_iff' _ (SettingKey.areSeparate_iff keys)

theorem NodeVariant.areSeparate_keys (variant : NodeVariant) : SettingKey.AreSeparate variant.keys := by
  cases variant <;> decide

namespace SettingKey

variable {α : Type} {keys : List SettingKey} {key : SettingKey} {fields : Fields}

theorem storedKey_wire (h : AreSeparate keys) (hkey : key ∈ keys) :
    storedKey keys key.wire = key.stored := by
  have hfind : keys.find? (·.wire == key.wire) = some key := by
    cases hfind : keys.find? (·.wire == key.wire) with
    | none => exact absurd (beq_self_eq_true key.wire) (List.find?_eq_none.1 hfind key hkey)
    | some other =>
      rw [h.wire_inj other (List.mem_of_find?_eq_some hfind) key hkey
        (by simpa using List.find?_some hfind)]
  rw [storedKey, hfind]
  rfl

/-- The fields have the keys of settings, each once. -/
structure AreSettings (keys : List SettingKey) (fields : Fields) : Prop where
  nodup : (fields.map Prod.fst).Nodup
  mem : ∀ f ∈ fields, ∃ key ∈ keys, key.wire = f.1

theorem AreSettings.single (hkey : key ∈ keys) (value : Json) :
    AreSettings keys [(key.wire, value)] where
  nodup := List.nodup_singleton _
  mem f hf := ⟨key, hkey, by rw [List.mem_singleton.1 hf]⟩

theorem AreSettings.eq_of_storedKey (h : AreSeparate keys) (hfields : AreSettings keys fields)
    {f : String × Json} (hf : f ∈ fields) (hkey : key ∈ keys) (heq : storedKey keys f.1 = key.stored) :
    f.1 = key.wire := by
  obtain ⟨other, hother, hwire⟩ := hfields.mem f hf
  rw [← hwire, storedKey_wire h hother] at heq
  rw [← hwire, h.stored_inj other hother key hkey heq]

/-- The fields under the stored keys. -/
theorem ofWireFields_eq_map (h : AreSeparate keys) (hfields : AreSettings keys fields) :
    ofWireFields keys fields = fields.map fun f => (storedKey keys f.1, f.2) := by
  refine Json.Fields.ofList_of_nodup ?_
  have hnodup : ((fields.map Prod.fst).map (storedKey keys)).Nodup := by
    refine hfields.nodup.map_on fun name hname other hother heq => ?_
    obtain ⟨f, hf, rfl⟩ := List.mem_map.1 hname
    obtain ⟨g, hg, rfl⟩ := List.mem_map.1 hother
    obtain ⟨key, hkey, hwire⟩ := hfields.mem g hg
    rw [← hwire, storedKey_wire h hkey] at heq
    rw [hfields.eq_of_storedKey h hf hkey heq, hwire]
  rwa [List.map_map] at hnodup ⊢

theorem get?_ofWireFields (h : AreSeparate keys) (hfields : AreSettings keys fields)
    (hkey : key ∈ keys) : (ofWireFields keys fields).get? key.stored = fields.get? key.wire := by
  rw [ofWireFields_eq_map h hfields, ← storedKey_wire h hkey]
  refine Json.Fields.get?_map_fst fun f hf heq => ?_
  rw [storedKey_wire h hkey] at heq
  exact hfields.eq_of_storedKey h hf hkey heq

/-- Nothing is found under a key of documents that is not the stored one, too. -/
theorem get?_ofWireFields_document (h : AreSeparate keys) (hfields : AreSettings keys fields)
    (hkey : key ∈ keys) (hne : key.document ≠ key.stored) :
    (ofWireFields keys fields).get? key.document = none := by
  rw [ofWireFields_eq_map h hfields]
  apply Json.Fields.get?_eq_none_of_not_mem
  rw [List.map_map]
  intro hmem
  obtain ⟨f, hf, heq⟩ := List.mem_map.1 hmem
  obtain ⟨other, hother, hwire⟩ := hfields.mem f hf
  have hstored : other.stored = key.document := by
    rw [← storedKey_wire h hother, hwire]
    exact heq
  have hsame := h.document_inj key hkey other hother hstored.symm
  exact hne (by rw [← hstored, hsame])

/-- A setting is read from the value under its own key, or it has its default. -/
theorem read_ofWireFields (h : AreSeparate keys) (hfields : AreSettings keys fields)
    (hkey : key ∈ keys) (default : α) (check : Json → Checked α) :
    key.read (ofWireFields keys fields) default check =
      match fields.get? key.wire with
      | some value => Checked.under (.key key.stored) (check value)
      | none => .valid default := by
  have hget := get?_ofWireFields h hfields hkey
  unfold read readable Schema.optional
  by_cases hdocument : key.document = key.stored
  · rw [if_pos hdocument, Schema.lookup?, hget]
    cases fields.get? key.wire <;> rfl
  · rw [if_neg hdocument, Schema.lookup?, get?_ofWireFields_document h hfields hkey hdocument,
      Schema.lookup?, hget]
    cases fields.get? key.wire <;> rfl

end SettingKey

/-! ## How a setting is read and written -/

/-- Configurations of the form have a setting of the key, which is read with a default and a check and
written among the inputs of spec nodes. -/
structure NodeVariant.Reads {α : Type} (variant : NodeVariant) (key : SettingKey) (default : α)
    (check : Json → Checked α) (write : α → Json) : Prop where
  mem : key ∈ variant.keys
  read : ∀ {given : Fields} {c : NodeConfig}, NodeConfig.ofFields variant given = .valid c →
    ∃ a, key.read given default check = .valid a ∧ (key.wire, write a) ∈ c.wireInputs

namespace NodeVariant

theorem reads_model : Reads .llm LlmConfig.modelKey ({} : LlmConfig).model Schema.text .str where
  mem := by decide
  read h := by
    obtain ⟨settings, hread, rfl⟩ := Checked.exists_of_map h
    exact ⟨settings.model, (LlmConfig.ofFields_eq_valid_iff.1 hread).1, .head _⟩

theorem reads_temperature :
    Reads .llm LlmConfig.temperatureKey ({} : LlmConfig).temperature Schema.number .float where
  mem := by decide
  read h := by
    obtain ⟨settings, hread, rfl⟩ := Checked.exists_of_map h
    exact ⟨settings.temperature, (LlmConfig.ofFields_eq_valid_iff.1 hread).2.1, .tail _ (.head _)⟩

theorem reads_maxTokens :
    Reads .llm LlmConfig.maxTokensKey ({} : LlmConfig).maxTokens Schema.integer .int where
  mem := by decide
  read h := by
    obtain ⟨settings, hread, rfl⟩ := Checked.exists_of_map h
    exact ⟨settings.maxTokens, (LlmConfig.ofFields_eq_valid_iff.1 hread).2.2,
      .tail _ (.tail _ (.head _))⟩

theorem reads_toolName :
    Reads .tool ToolConfig.toolNameKey ({} : ToolConfig).toolName Schema.text .str where
  mem := by decide
  read h := by
    obtain ⟨settings, hread, rfl⟩ := Checked.exists_of_map h
    exact ⟨settings.toolName, (ToolConfig.ofFields_eq_valid_iff.1 hread).1, .head _⟩

theorem reads_parameters :
    Reads .tool ToolConfig.parametersKey ({} : ToolConfig).parameters Schema.object
      fun parameters => .obj (storableFields parameters) where
  mem := by decide
  read h := by
    obtain ⟨settings, hread, rfl⟩ := Checked.exists_of_map h
    exact ⟨settings.parameters, (ToolConfig.ofFields_eq_valid_iff.1 hread).2, .tail _ (.head _)⟩

theorem reads_prompt :
    Reads .interrupt InterruptConfig.promptKey ({} : InterruptConfig).prompt Schema.text .str where
  mem := by decide
  read h := by
    obtain ⟨settings, hread, rfl⟩ := Checked.exists_of_map h
    exact ⟨settings.prompt, (InterruptConfig.ofFields_eq_valid_iff.1 hread).1, .head _⟩

theorem reads_timeout :
    Reads .interrupt InterruptConfig.timeoutKey ({} : InterruptConfig).timeout Schema.integer
      .int where
  mem := by decide
  read h := by
    obtain ⟨settings, hread, rfl⟩ := Checked.exists_of_map h
    exact ⟨settings.timeout, (InterruptConfig.ofFields_eq_valid_iff.1 hread).2, .tail _ (.head _)⟩

theorem reads_inputFields :
    Reads .form FormConfig.inputFieldsKey ({} : FormConfig).inputFields
      (Schema.list (Schema.record "InputField" InputField.ofFields))
      fun inputFields => .arr (inputFields.map (InputField.toJson .wire)) where
  mem := by decide
  read h := by
    obtain ⟨settings, hread, rfl⟩ := Checked.exists_of_map h
    exact ⟨settings.inputFields, FormConfig.ofFields_eq_valid_iff.1 hread, .head _⟩

theorem exists_reads {variant : NodeVariant} {key : SettingKey} (h : key ∈ variant.keys) :
    ∃ (α : Type) (default : α) (check : Json → Checked α) (write : α → Json),
      variant.Reads key default check write := by
  revert key
  cases variant with
  | llm =>
    simp only [keys, LlmConfig.keys, List.forall_mem_cons]
    exact ⟨⟨_, _, _, _, reads_model⟩, ⟨_, _, _, _, reads_temperature⟩,
      ⟨_, _, _, _, reads_maxTokens⟩, nofun⟩
  | tool =>
    simp only [keys, ToolConfig.keys, List.forall_mem_cons]
    exact ⟨⟨_, _, _, _, reads_toolName⟩, ⟨_, _, _, _, reads_parameters⟩, nofun⟩
  | interrupt =>
    simp only [keys, InterruptConfig.keys, List.forall_mem_cons]
    exact ⟨⟨_, _, _, _, reads_prompt⟩, ⟨_, _, _, _, reads_timeout⟩, nofun⟩
  | form =>
    simp only [keys, FormConfig.keys, List.forall_mem_cons]
    exact ⟨⟨_, _, _, _, reads_inputFields⟩, nofun⟩

end NodeVariant

/-! ## Values that are accepted -/

namespace NodeVariant

/-- A configuration that is made from the value under the key alone has it, unchanged. -/
def accepts (variant : NodeVariant) (name : String) (value : Json) : Bool :=
  match NodeConfig.ofFields variant (ofWireFields variant.keys [(name, value)]) with
  | .valid c => c.wireInputs.any fun f => f.1 == name && value.same f.2
  | .invalid _ => false

theorem accepts_iff {variant : NodeVariant} {name : String} {value : Json} :
    variant.accepts name value = true ↔
      ∃ c, NodeConfig.ofFields variant (ofWireFields variant.keys [(name, value)]) = .valid c ∧
        ∃ written, (name, written) ∈ c.wireInputs ∧ value.same written = true := by
  unfold accepts
  cases NodeConfig.ofFields variant (ofWireFields variant.keys [(name, value)]) with
  | invalid violations => simp
  | valid c =>
    simp only [List.any_eq_true, Bool.and_eq_true, beq_iff_eq, Checked.valid.injEq, exists_eq_left']
    constructor
    · rintro ⟨f, hf, rfl, hsame⟩
      exact ⟨f.2, hf, hsame⟩
    · rintro ⟨written, hmem, hsame⟩
      exact ⟨_, hmem, rfl, hsame⟩

end NodeVariant

namespace NodeConfig

open SettingKey

variable {α : Type} {variant : NodeVariant} {fields : Fields} {c : NodeConfig}

/-- All fields are accepted, and there is one for a key at most. -/
structure AreAccepted (variant : NodeVariant) (fields : Fields) : Prop where
  nodup : (fields.map Prod.fst).Nodup
  accepted : ∀ f ∈ fields, variant.accepts f.1 f.2 = true

theorem AreAccepted.areSettings (h : AreAccepted variant fields) :
    AreSettings variant.keys fields where
  nodup := h.nodup
  mem f hf := by
    obtain ⟨c, hc, written, hmem, -⟩ := NodeVariant.accepts_iff.1 (h.accepted f hf)
    have hname : f.1 ∈ c.wireInputs.map Prod.fst := List.mem_map.2 ⟨_, hmem, rfl⟩
    rw [names_wireInputs, variant_ofFields hc] at hname
    exact List.mem_map.1 hname

theorem AreAccepted.get?_eq_some (h : AreAccepted variant fields) {f : String × Json}
    (hf : f ∈ fields) : fields.get? f.1 = some f.2 :=
  Json.Fields.get?_eq_some_of_mem h.nodup hf

/-- An accepted field is read as it is read alone. -/
theorem AreAccepted.read_eq_of_mem (h : AreAccepted variant fields) {key : SettingKey}
    (hkey : key ∈ variant.keys) {f : String × Json} (hf : f ∈ fields) (hname : key.wire = f.1)
    (default : α) (check : Json → Checked α) :
    key.read (ofWireFields variant.keys fields) default check =
      key.read (ofWireFields variant.keys [f]) default check := by
  obtain ⟨name, value⟩ := f
  obtain rfl : key.wire = name := hname
  have hkeys := variant.areSeparate_keys
  rw [read_ofWireFields hkeys h.areSettings hkey, h.get?_eq_some hf,
    read_ofWireFields hkeys (.single hkey value) hkey]
  simp

/-- A setting is read from accepted fields. -/
theorem AreAccepted.exists_read (h : AreAccepted variant fields) {key : SettingKey} {default : α}
    {check : Json → Checked α} {write : α → Json} (hreads : variant.Reads key default check write) :
    ∃ a, key.read (ofWireFields variant.keys fields) default check = .valid a := by
  cases hget : fields.get? key.wire with
  | none =>
    refine ⟨default, ?_⟩
    rw [read_ofWireFields variant.areSeparate_keys h.areSettings hreads.mem, hget]
  | some value =>
    obtain ⟨f, hf, hvalue⟩ := Option.map_eq_some_iff.1 hget
    have hname : f.1 = key.wire := by simpa using List.find?_some hf
    have hf := List.mem_of_find?_eq_some hf
    obtain ⟨c, hc, -⟩ := NodeVariant.accepts_iff.1 (h.accepted f hf)
    obtain ⟨a, ha, -⟩ := hreads.read hc
    exact ⟨a, (h.read_eq_of_mem hreads.mem hf hname.symm default check).trans ha⟩

/-- Each of the fields stands among the settings, unchanged. -/
def Holds (c : NodeConfig) (fields : Fields) : Prop :=
  ∀ f ∈ fields, ∃ written, (f.1, written) ∈ c.wireInputs ∧ f.2.same written = true

/-- A configuration that is made from accepted fields has them. -/
theorem AreAccepted.holds (h : AreAccepted variant fields)
    (hc : ofFields variant (ofWireFields variant.keys fields) = .valid c) : c.Holds fields := by
  intro f hf
  obtain ⟨key, hkey, hname⟩ := h.areSettings.mem f hf
  obtain ⟨α, default, check, write, hreads⟩ := NodeVariant.exists_reads hkey
  obtain ⟨alone, halone, written, hmem, hsame⟩ := NodeVariant.accepts_iff.1 (h.accepted f hf)
  obtain ⟨a, ha, hshown⟩ := hreads.read hc
  obtain ⟨b, hb, hshown'⟩ := hreads.read halone
  -- the one setting is read alone as it is among the others
  have hab : a = b := by
    rw [h.read_eq_of_mem hkey hf hname] at ha
    exact Checked.valid.inj (ha.symm.trans hb)
  have hwritten : written = write b := by
    rw [← hname] at hmem
    exact eq_of_mem_wireInputs hmem hshown'
  refine ⟨write a, hname ▸ hshown, ?_⟩
  rwa [hab, ← hwritten]

/-- Accepted fields make a configuration that has them, and the defaults besides. -/
theorem exists_ofFields_of_accepts (h : AreAccepted variant fields) :
    ∃ c, ofFields variant (ofWireFields variant.keys fields) = .valid c ∧ c.Holds fields := by
  have hmade : ∃ c, ofFields variant (ofWireFields variant.keys fields) = .valid c := by
    cases variant with
    | llm =>
      obtain ⟨model, hmodel⟩ := h.exists_read NodeVariant.reads_model
      obtain ⟨temperature, htemperature⟩ := h.exists_read NodeVariant.reads_temperature
      obtain ⟨tokens, htokens⟩ := h.exists_read NodeVariant.reads_maxTokens
      have hread : LlmConfig.ofFields _ = .valid ⟨model, temperature, tokens⟩ :=
        LlmConfig.ofFields_eq_valid_iff.2 ⟨hmodel, htemperature, htokens⟩
      exact ⟨_, congrArg (llm <$> ·) hread⟩
    | tool =>
      obtain ⟨name, hname⟩ := h.exists_read NodeVariant.reads_toolName
      obtain ⟨parameters, hparameters⟩ := h.exists_read NodeVariant.reads_parameters
      have hread : ToolConfig.ofFields _ = .valid ⟨name, parameters⟩ :=
        ToolConfig.ofFields_eq_valid_iff.2 ⟨hname, hparameters⟩
      exact ⟨_, congrArg (tool <$> ·) hread⟩
    | interrupt =>
      obtain ⟨prompt, hprompt⟩ := h.exists_read NodeVariant.reads_prompt
      obtain ⟨timeout, htimeout⟩ := h.exists_read NodeVariant.reads_timeout
      have hread : InterruptConfig.ofFields _ = .valid ⟨prompt, timeout⟩ :=
        InterruptConfig.ofFields_eq_valid_iff.2 ⟨hprompt, htimeout⟩
      exact ⟨_, congrArg (interrupt <$> ·) hread⟩
    | form =>
      obtain ⟨inputFields, hinputFields⟩ := h.exists_read NodeVariant.reads_inputFields
      have hread : FormConfig.ofFields _ = .valid ⟨inputFields⟩ :=
        FormConfig.ofFields_eq_valid_iff.2 hinputFields
      exact ⟨_, congrArg (form <$> ·) hread⟩
  obtain ⟨c, hc⟩ := hmade
  exact ⟨c, hc, h.holds hc⟩

/-- The settings of a configuration are accepted one by one, if they are finite. -/
theorem accepts_of_mem_wireInputs (hfinite : c.isFinite = true) {f : String × Json}
    (hf : f ∈ c.wireInputs) : c.variant.accepts f.1 f.2 = true := by
  have hnodup := c.nodup_wireInputs
  rw [wireInputs_of_isFinite hfinite] at hf hnodup
  have hsingle : (c.toFields .wire).filter (fun g => g.1 == f.1) = [f] :=
    Json.Fields.filter_eq_singleton hnodup hf
  have hread := ofFields_filter_toFields (· == f.1) c
  have hkept := filter_toFields_kept (· == f.1) c
  rw [hsingle] at hread hkept
  have hmem : f ∈ ((c.kept (· == f.1)).toFields .wire).filter fun g => g.1 == f.1 := by
    rw [hkept]
    exact List.mem_singleton_self f
  refine NodeVariant.accepts_iff.2 ⟨_, hread, f.2, ?_, ?_⟩
  · rw [wireInputs_of_isFinite (isFinite_kept hfinite)]
    exact (List.mem_filter.1 hmem).1
  · exact Json.same_self f.2 (Json.areFiniteFields_eq_true_iff.1 (isFinite_toFields hfinite) f hf)

/-- A configuration that is made from fields that can be stored can be stored. -/
theorem isStorable_of_ofFields (hfields : ∀ f ∈ fields, f.2.isStorableUnder 1 = true)
    (hc : ofFields variant (ofWireFields variant.keys fields) = .valid c) : c.isStorable = true := by
  cases variant with
  | tool =>
    obtain ⟨settings, hread, rfl⟩ := Checked.exists_of_map hc
    obtain ⟨-, hparameters⟩ := ToolConfig.ofFields_eq_valid_iff.1 hread
    rcases Schema.eq_default_or_of_optional hparameters with hdefault | ⟨g, hg, hobject⟩
    · rw [isStorable, hdefault]
      rfl
    · obtain ⟨f, hf, rfl⟩ := List.mem_map.1 (Json.Fields.mem_of_mem_ofList hg)
      have hobj := hfields f hf
      rw [Schema.eq_obj_of_object hobject] at hobj
      exact Json.Fields.areStorable_of_obj hobj
  | _ =>
    obtain ⟨settings, -, rfl⟩ := Checked.exists_of_map hc
    rfl

end NodeConfig

end WorkflowGraph
