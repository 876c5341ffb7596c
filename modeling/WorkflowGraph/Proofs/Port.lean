import WorkflowGraph.Port.Defaults
import WorkflowGraph.Proofs.Reference.Resolve
import WorkflowGraph.Proofs.Table

/-!
# Ports as inputs of spec nodes

A port is written to a spec as one value and read back from its form. `Port.IsPortable` is what this
needs: the binding of the port is the one that its value has by its form. Main statements:
`Port.toWire_ofWire`, the port that is read back is written as it was, and
`Port.binding_ofWire_resolved`, it is bound as the port was; `isSetting_eq` tells ports from settings
by their references.
-/

namespace WorkflowGraph

/-! ## References among values -/

namespace Json

theorem referenceHead?_storable (v : Json) : v.storable.referenceHead? = v.referenceHead? := by
  cases v with
  | float x =>
    rw [storable]
    split <;> rfl
  | _ => rfl

/-- A reference is a text that is not empty. -/
theorem isBlank_of_referenceHead? {v : Json} (h : v.referenceHead? ≠ none) : v.isBlank = false := by
  cases v with
  | str s =>
    obtain ⟨head, hhead⟩ := Option.ne_none_iff_exists'.1 h
    obtain ⟨-, rest, hs⟩ := Reference.head?_eq_some_iff.1 hhead
    rw [isBlank, ← Bool.not_eq_true, String.isEmpty_iff]
    rintro rfl
    cases hs
  | _ => exact absurd rfl h

theorem isVoid_of_referenceHead? {v : Json} (h : v.referenceHead? ≠ none) : v.isVoid = false := by
  have hblank := isBlank_of_referenceHead? h
  cases v with
  | str s => exact hblank
  | _ => exact absurd rfl h

/-- A reference to a setting begins in the same way as all of them. -/
theorem referenceHead?_of_isTemplate {v : Json} (h : v.isTemplate = true) :
    v.referenceHead? = some "config" := by
  cases v with
  | str s => exact Reference.isTemplate_iff_head?.1 h
  | _ => cases h

theorem isBlank_resolved {nodes : List Node} {v : Json} (h : v.isBlank = false) :
    (Reference.resolved nodes v).isBlank = false := by
  by_cases hhead : v.referenceHead? = none
  · rwa [Reference.resolved_of_referenceHead?_eq_none nodes hhead]
  · exact isBlank_of_referenceHead? (by rwa [Reference.referenceHead?_resolved])

end Json

/-- The names of types are no references. -/
theorem DataType.referenceHead?_name (type : DataType) :
    (Json.str type.name).referenceHead? = none := by
  cases type <;> decide

theorem DataType.eq_name_of_ofPlaceholder? {v : Json} {type : DataType}
    (h : DataType.ofPlaceholder? v = some type) : v = .str type.name := by
  cases v with
  | str s =>
    have hfind : DataType.all.find? (·.name == s) = some type := h
    have hname : type.name = s := by simpa using List.find?_some hfind
    rw [hname]
  | _ => cases h

namespace Port

/-! ## Bindings -/

/-- A value is bound as one of its own if it is no reference. -/
theorem bindingOf_eq_literal_iff {v : Json} : bindingOf v = .literal ↔ v.referenceHead? = none := by
  unfold bindingOf
  by_cases ht : v.isTemplate = true
  · simp [ht, Json.referenceHead?_of_isTemplate ht]
  · cases hhead : v.referenceHead? with
    | none => simp [ht]
    | some head => simp [ht]

/-- A port is known by its value to hold none of its own. -/
theorem isVoid_reference_ofRaw (v : Json) :
    (ofRaw v none).reference.isVoid = v.referenceHead?.isNone := by
  unfold reference ofRaw
  cases hhead : v.referenceHead? with
  | none => rw [if_pos (bindingOf_eq_literal_iff.2 hhead)]; rfl
  | some head =>
    have hne : v.referenceHead? ≠ none := by rw [hhead]; exact Option.some_ne_none _
    rw [if_neg fun h => hne (bindingOf_eq_literal_iff.1 h), Json.isVoid_of_referenceHead? hne]
    rfl

/-- The port has the binding that its value has by its form, a finite value, and no number of too
many digits. -/
@[mk_iff]
structure IsPortable (p : Port) : Prop where
  binding_eq : p.binding = bindingOf p.value
  value_finite : p.value.isFinite = true
  /-- The place of a numbered reference is read. -/
  value_readable : Reference.isReadable p.value = true

instance (p : Port) : Decidable p.IsPortable :=
  decidable_of_iff' _ (isPortable_iff p)

/-! ## Writing and reading -/

/-- A port that is not set is written as the name of its type, any other as its value. -/
theorem toWire_eq (p : Port) :
    p.isUnset = true ∧ p.toWire = .str p.dataType.name ∨ p.isUnset = false ∧ p.toWire = p.value := by
  unfold toWire
  cases p.isUnset with
  | true => exact Or.inl ⟨rfl, rfl⟩
  | false => exact Or.inr ⟨rfl, rfl⟩

theorem isFinite_toWire {p : Port} (h : p.value.isFinite = true) : p.toWire.isFinite = true := by
  rcases toWire_eq p with ⟨-, hp⟩ | ⟨-, hp⟩
  · rw [hp]; rfl
  · rwa [hp]

theorem isReadable_of_referenceHead? {v : Json} (h : v.referenceHead? = none) :
    Reference.isReadable v = true := by
  cases v with
  | str s => rw [Reference.isReadable, Reference.Numbered.ofText?_eq_none h]; rfl
  | _ => rfl

theorem isReadable_toWire {p : Port} (h : Reference.isReadable p.value = true) :
    Reference.isReadable p.toWire = true := by
  rcases toWire_eq p with ⟨-, hp⟩ | ⟨-, hp⟩
  · rw [hp]
    exact isReadable_of_referenceHead? (DataType.referenceHead?_name _)
  · rwa [hp]

/-- No port is written as an empty text or as `null`, if its binding is that of its value. -/
theorem isBlank_toWire {p : Port} (h : p.binding = bindingOf p.value) : p.toWire.isBlank = false := by
  rcases toWire_eq p with ⟨-, hp⟩ | ⟨hset, hp⟩
  · rw [hp]
    cases p.dataType <;> decide
  · rw [hp]
    by_cases hliteral : p.binding = .literal
    · simpa [isUnset, hliteral] using hset
    · rw [h, bindingOf_eq_literal_iff] at hliteral
      exact Json.isBlank_of_referenceHead? hliteral

/-- A value that is not blank is what the port read from it is written as. -/
theorem toWire_ofWire {v : Json} (h : v.isBlank = false) : (ofWire v).toWire = v := by
  unfold ofWire
  cases htype : DataType.ofPlaceholder? v with
  | none => simp [toWire, isUnset, ofRaw, h]
  | some type => rw [DataType.eq_name_of_ofPlaceholder? htype]; rfl

/-- The port read from a value that is no bare name of a type is bound as the value, and so is the
other. -/
theorem binding_ofWire (v : Json) : (ofWire v).binding = bindingOf v := by
  unfold ofWire
  cases htype : DataType.ofPlaceholder? v with
  | none => rfl
  | some type =>
    rw [DataType.eq_name_of_ofPlaceholder? htype,
      bindingOf_eq_literal_iff.2 (DataType.referenceHead?_name type)]
    rfl

/-- The port that is read from what a port was written as, with its reference resolved, is bound as
the port was. -/
theorem binding_ofWire_resolved {p : Port} (h : p.binding = bindingOf p.value) (nodes : List Node) :
    (ofWire (Reference.resolved nodes p.toWire)).binding = p.binding := by
  rw [binding_ofWire, Reference.bindingOf_resolved]
  rcases toWire_eq p with ⟨hset, hp⟩ | ⟨-, hp⟩
  · have hliteral : p.binding = .literal := by
      simp only [isUnset, Bool.and_eq_true, decide_eq_true_eq] at hset
      exact hset.1
    rw [hp, hliteral, bindingOf_eq_literal_iff]
    exact DataType.referenceHead?_name _
  · rw [hp, h]

end Port

/-! ## Settings -/

/-- An input of a spec node is read as a setting if it is named like one and is no reference. -/
theorem isSetting_eq (kind name : String) (v : Json) :
    isSetting kind name v = ((settingKeys kind).contains name && v.referenceHead?.isNone) := by
  rw [isSetting, Port.isVoid_reference_ofRaw]

/-- No default port has the name of a setting. -/
theorem not_mem_settingKeys {kind name : String} (h : name ∈ (defaultInputs kind).names) :
    name ∉ settingKeys kind := by
  unfold settingKeys
  intro hmem
  split at hmem
  · rw [List.mem_filter, Bool.not_eq_true', Table.has_eq_false_iff] at hmem
    exact hmem.2 h
  · cases hmem

theorem NodeKind.isPortable_inputs (kind : NodeKind) :
    ∀ e ∈ kind.inputs.entries, e.2.IsPortable := by
  cases kind <;> decide

/-- The default ports of every kind are portable. -/
theorem isPortable_defaultInputs (kind : String) :
    ∀ e ∈ (defaultInputs kind).entries, e.2.IsPortable := by
  unfold defaultInputs
  cases NodeKind.ofName? kind with
  | none => intro e he; cases he
  | some k => exact NodeKind.isPortable_inputs k

theorem NodeKind.binding_inputs (kind : NodeKind) :
    ∀ e ∈ kind.inputs.entries, e.2.binding ≠ .connection := by
  cases kind <;> decide

/-- No default port is bound to an output of a node. -/
theorem binding_defaultInputs (kind : String) :
    ∀ e ∈ (defaultInputs kind).entries, e.2.binding ≠ .connection := by
  unfold defaultInputs
  cases NodeKind.ofName? kind with
  | none => intro e he; cases he
  | some k => exact NodeKind.binding_inputs k

end WorkflowGraph
