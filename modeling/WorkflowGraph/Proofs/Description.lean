import WorkflowGraph.Proofs.Document

/-!
# Ports that are read from their descriptions

A description tells a value from a reference by its key, but what stands under either key is bound by
its form when it is read, as everything is in older documents. So a port is read back with its value and
its type, and with another binding where the form of the value says so. Main statement:
`description_read_back`.
-/

namespace WorkflowGraph

namespace Reference

/-- What stands before the first dot of an id. -/
def leadOf (id : String) : String :=
  String.ofList (id.toList.takeWhile (· != '.'))

/-- The head of a reference is what stands before the first dot of the id it is made of. -/
theorem head?_make_leadOf (node output : String) : head? (make node output) = some (leadOf node) := by
  rw [head?_eq_some_iff, leadOf, String.toList_ofList, toList_make]
  refine ⟨dot_not_mem_takeWhile _, ?_⟩
  by_cases hnil : node.toList.dropWhile (· != '.') = []
  · have hall : node.toList.takeWhile (· != '.') = node.toList := by
      rw [List.takeWhile_eq_self_iff, ← List.dropWhile_eq_nil_iff, hnil]
    rw [hall]
    exact ⟨output.toList, rfl⟩
  · have hsplit := split_at_dot hnil
    refine ⟨(node.toList.dropWhile (· != '.')).drop 1 ++ '.' :: output.toList, ?_⟩
    nth_rewrite 1 [hsplit]
    rw [List.append_assoc, List.cons_append]

theorem isTemplate_make_iff {node output : String} :
    isTemplate (make node output) = true ↔ leadOf node = "config" := by
  rw [isTemplate_iff_head?, head?_make_leadOf, Option.some.injEq]

end Reference

namespace Port

variable {name : String}

/-- A reference to an output is bound to it, unless it reads as one to a setting. -/
theorem bindingOf_make (node output : String) :
    bindingOf (.str (Reference.make node output)) =
      if Reference.leadOf node = "config" then .template else .connection := by
  have hhead : (Json.str (Reference.make node output)).referenceHead?.isSome = true := by
    rw [Json.referenceHead?, Json.text?, Option.bind_some, Reference.head?_make_leadOf]
    rfl
  have htemplate : (Json.str (Reference.make node output)).isTemplate = true ↔
      Reference.leadOf node = "config" := Reference.isTemplate_make_iff
  rw [bindingOf, if_pos hhead]
  exact if_congr htemplate rfl rfl

theorem isTemplate_template (key : Json) (type : DataType) :
    (template key type).value.isTemplate = true := by
  unfold template
  by_cases hkey : key.isTemplate = true
  · rw [if_pos hkey]
    exact hkey
  · rw [if_neg hkey]
    simp [Json.isTemplate, Json.text?, Reference.isTemplate, Reference.templateChars]

/-! ## Reading back -/

/-- The port that is read from the description of a port under a name. -/
def readBack (name : String) (p : Port) : Checked Port :=
  (ofEntry (toDescription name p)).value

variable (name : String)

theorem readBack_unset (type : DataType) : readBack name (unset type) = .valid (unset type) :=
  value_ofEntry_literal name type (by decide)

theorem readBack_template (key : Json) (type : DataType) :
    readBack name (template key type) = .valid (template key type) := by
  have htemplate := isTemplate_template key type
  have hbinding : (template key type).binding = bindingOf (template key type).value := by
    rw [bindingOf, if_pos htemplate]
    rfl
  refine value_ofEntry_toDescription name ⟨hbinding, fun hempty => ?_⟩
  rw [hempty] at htemplate
  cases htemplate

/-- What a port is connected to is read back as a connection, or as a setting if it reads as one. -/
theorem readBack_connectTo (node output : String) (type : DataType) :
    readBack name (connectTo node output type) =
      .valid (ofRaw (.str (Reference.make node output)) (some type)) := by
  have hne : Reference.make node output ≠ "" := by
    rw [Ne, ← String.toList_eq_nil_iff, Reference.toList_make]
    exact List.cons_ne_nil _ _
  exact congrArg Checked.valid
    (value_ofDescription_of_reference (value_declared?_description name type _) rfl hne)

theorem readBack_connectTo_iff (node output : String) (type : DataType) :
    readBack name (connectTo node output type) = .valid (connectTo node output type) ↔
      Reference.leadOf node ≠ "config" := by
  rw [readBack_connectTo, Checked.valid.injEq, ofRaw, connectTo, connection, Port.mk.injEq,
    bindingOf_make]
  by_cases hlead : Reference.leadOf node = "config"
  · simp [hlead]
  · simp [hlead]

theorem readBack_literal {value : Json} {type? : Option DataType} {p : Port}
    (h : literal value type? = .ok p) :
    (value.referenceHead? = none → value ≠ .str "" → readBack name p = .valid p) ∧
      (value = .str "" → readBack name p = .valid (unset p.dataType)) ∧
      (value.referenceHead? ≠ none → readBack name p = .valid (ofRaw value (some p.dataType))) := by
  obtain ⟨type, rfl⟩ : ∃ type, p = ⟨.literal, value, type⟩ := by
    unfold literal at h
    dsimp only at h
    split at h
    · cases h
    · exact ⟨_, (Except.ok.inj h).symm⟩
  refine ⟨fun hhead hne => ?_, fun hempty => ?_, fun hhead => ?_⟩
  · exact value_ofEntry_toDescription name ⟨(bindingOf_eq_literal_iff.2 hhead).symm, hne⟩
  · subst hempty
    cases type <;> rfl
  · refine value_ofEntry_literal name type fun hempty => hhead ?_
    rw [hempty]
    rfl

/-- A port is read back from its description as it was made: one that is not set, one that is bound to a
setting, one that is connected to an output of a node whose id does not begin as references to settings
do, and one with a value of its own that has not the form of a reference and is not empty. An empty text
is read as no value, and a value of the form of a reference is bound as this form says. -/
theorem description_read_back :
    (∀ value type? p, literal value type? = .ok p →
      (value.referenceHead? = none → value ≠ .str "" → readBack name p = .valid p) ∧
        (value = .str "" → readBack name p = .valid (unset p.dataType)) ∧
        (value.referenceHead? ≠ none → readBack name p = .valid (ofRaw value (some p.dataType)))) ∧
      (∀ type, readBack name (unset type) = .valid (unset type)) ∧
      (∀ key type, readBack name (template key type) = .valid (template key type)) ∧
      ∀ node output type,
        readBack name (connectTo node output type) = .valid (connectTo node output type) ↔
          Reference.leadOf node ≠ "config" :=
  ⟨fun _ _ _ h => readBack_literal name h, readBack_unset name, readBack_template name,
    readBack_connectTo_iff name⟩

/-- A price and an empty text are given as values, and a port is connected to a node. -/
theorem description_read_back_values :
    (∃ p, literal (.str "5.00 $") none = .ok p ∧ readBack "price" p = .valid p) ∧
      (∃ p, literal (.str "") (some .string) = .ok p ∧ readBack "price" p = .valid (unset .string)) ∧
      (∃ p, literal (.str "$5.00") none = .ok p ∧
        readBack "price" p = .valid (ofRaw (.str "$5.00") (some .string))) ∧
      readBack "price" (connectTo "shop.main" "price" .any) =
        .valid (connectTo "shop.main" "price" .any) := by
  obtain ⟨hliteral, -, -, hconnect⟩ := description_read_back "price"
  exact ⟨⟨_, rfl, (hliteral (.str "5.00 $") none _ rfl).1 (by decide) (by decide)⟩,
    ⟨_, rfl, (hliteral (.str "") (some .string) _ rfl).2.1 rfl⟩,
    ⟨_, rfl, (hliteral (.str "$5.00") none _ rfl).2.2 (by decide)⟩,
    (hconnect "shop.main" "price" .any).2 (by decide)⟩

/-- A price is read back as a connection, an empty text as no value, and a connection to a node of some
id as a setting. -/
theorem not_read_back :
    (∃ p, literal (.str "$5.00") none = .ok p ∧
        readBack "price" p = .valid (connection (.str "$5.00") .string) ∧
        connection (.str "$5.00") .string ≠ p) ∧
      (∃ p, literal (.str "") none = .ok p ∧ readBack "price" p = .valid (unset .string) ∧
        unset .string ≠ p) ∧
      readBack "price" (connectTo "config.shop" "price" .any) =
          .valid (template (.str "$config.shop.price") .any) ∧
        template (.str "$config.shop.price") .any ≠ connectTo "config.shop" "price" .any :=
  ⟨⟨_, rfl, rfl, by decide⟩, ⟨_, rfl, rfl, by decide⟩, rfl, by decide⟩

end Port

end WorkflowGraph
