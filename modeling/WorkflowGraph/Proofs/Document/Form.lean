import WorkflowGraph.Document.Reader
import WorkflowGraph.Proofs.Outcome

/-!
# The form of graphs

What a document has to be to be read as a graph, told by its fields alone, and beside it the form of a
node that is read. Entries that are skipped, kinds, types and settings may be anything.
-/

namespace WorkflowGraph

/-! ## Forms of values -/

namespace Json

/-- The value counts as not given, or it is of a form. -/
def IfGiven (p : Json → Prop) (value : Json) : Prop :=
  value.isVoid = false → p value

theorem orElse_iff {p : Json → Prop} {other : Json} (h : p other) (value : Json) :
    p (value.orElse other) ↔ value.IfGiven p := by
  unfold orElse IfGiven
  cases value.isVoid with
  | true => simp [h]
  | false => simp

/-- The value is one of a set of names. -/
def IsNameOf {α : Type} (ofName? : String → Option α) (value : Json) : Prop :=
  ∃ s, value = .str s ∧ (ofName? s).isSome = true

/-- The value is a position: a pair of numbers, or an object with numbers as what it has of `x` and
`y`. -/
def IsPosition (value : Json) : Prop :=
  (Position.ofPair value).IsRecord fun fields =>
    fields.Allows ["x"] IsNumber ∧ fields.Allows ["y"] IsNumber

theorem Fields.requires_singleton_iff {fields : Fields} {key : String} {p : Json → Prop} :
    fields.Requires [key] p ↔ ∃ value, fields.get? key = some value ∧ p value := by
  simp only [Requires, Schema.lookup?]
  cases fields.get? key <;> simp

theorem IsText.isScalar {value : Json} (h : value.IsText) : value.isScalar = true := by
  obtain ⟨s, rfl⟩ := h
  rfl

/-- Only texts are equal to texts. -/
theorem isText_iff_of_same {a b : Json} (h : a.same b = true) : a.IsText ↔ b.IsText := by
  have hnone : ∀ {value : Json}, (∀ s, value ≠ .str s) → ¬value.IsText :=
    fun hne ⟨s, hs⟩ => hne s hs
  cases a with
  | str s =>
    cases b with
    | str t => exact iff_of_true ⟨s, rfl⟩ ⟨t, rfl⟩
    | _ => simp [same] at h
  | _ =>
    cases b with
    | str t => simp [same, number?] at h
    | _ => exact iff_of_false (hnone nofun) (hnone nofun)

end Json

theorem Schema.isValid_choice_iff {α : Type} {ofName? : String → Option α} {names : List String}
    (value : Json) : (choice ofName? names value).IsValid ↔ value.IsNameOf ofName? := by
  cases value with
  | str s => cases hname : ofName? s <;> simp [choice, Json.IsNameOf, hname]
  | _ => simp [choice, Json.IsNameOf]

open Json

/-! ## Ports -/

namespace Port

/-- The form of a stored port. -/
@[mk_iff]
structure Form (fields : Json.Fields) : Prop where
  binding_name : fields.Allows ["binding"] (IsNameOf Binding.ofName?)
  dataType_name : fields.Allows ["data_type"] (IsNameOf DataType.ofName?)

/-- The entry can be that of an input port: it is a stored port of the form, or none. -/
def IsEntry (entry : Json) : Prop :=
  ∀ fields : Fields, entry = .obj fields → fields.has "binding" = true → Form fields

theorem isValid_ofFields_iff (fields : Json.Fields) : (ofFields fields).IsValid ↔ Form fields := by
  have hvalue : ∀ value, (Checked.valid value : Checked Json).IsValid ↔ True :=
    fun value => iff_of_true (Checked.isValid_valid value) trivial
  simp only [ofFields, form_iff, Checked.isValid_seq_iff, Checked.isValid_fmap_iff,
    Schema.isValid_optional_iff Schema.isValid_choice_iff, Schema.isValid_optional_iff hvalue,
    Fields.Allows, implies_true, and_true]

theorem isValid_ofEntry_iff (entry : Json) : (ofEntry entry).value.IsValid ↔ IsEntry entry := by
  cases entry with
  | obj fields =>
    simp only [ofEntry, IsEntry, Json.obj.injEq, forall_eq']
    split
    · next hstored => simp [hstored, isValid_ofFields_iff]
    · next hstored =>
      refine iff_of_true ?_ fun h => absurd h hstored
      split <;> exact Checked.isValid_valid _
  | _ => exact iff_of_true (Checked.isValid_valid _) fun _ h => nomatch h

end Port

namespace Listing

variable {α : Type}

/-- All names of the listing are texts. -/
def IsNamed (listing : Listing α) : Prop :=
  ∀ e ∈ listing, e.1.IsText

theorem isValid_toTable_iff (listing : Listing α) : listing.toTable.IsValid ↔ listing.IsNamed := by
  rw [toTable, Checked.isValid_map_iff]
  induction listing with
  | nil => simp [checkedNames, IsNamed]
  | cons e listing ih => simp [checkedNames, IsNamed, Schema.isValid_text_iff, ih]

theorem isNamed_ofTable (table : Table α) : (ofTable table).IsNamed := by
  intro e he
  obtain ⟨f, -, rfl⟩ := List.mem_map.1 he
  exact ⟨f.1, rfl⟩

theorem isNamed_put_iff (listing : Listing α) (name : Json) (port : α) :
    (listing.put name port).IsNamed ↔ listing.IsNamed ∧ name.IsText := by
  unfold put
  split
  · next h =>
    obtain ⟨e, he, hsame⟩ := List.any_eq_true.1 h
    have hname : listing.IsNamed → name.IsText :=
      fun hlisting => (isText_iff_of_same hsame).1 (hlisting e he)
    rw [and_iff_left_of_imp hname, IsNamed, List.forall_mem_map]
    refine forall₂_congr fun f _ => ?_
    split <;> rfl
  · simp only [IsNamed, List.forall_mem_append, List.forall_mem_singleton]

theorem yields_inputs_go (read : Listing Port) (listed : List (Json × Json)) :
    (inputs.go read listed).Yields (fun c => ∃ l, c = .valid l ∧ l.IsNamed)
      (read.IsNamed ∧ ∀ e ∈ listed, e.1.IsText ∧ Port.IsEntry e.2) := by
  -- names that are scalars are taken in, and only the whole listing tells whether all are texts
  induction listed generalizing read with
  | nil => exact .pure (by simp)
  | cons e listed ih =>
    obtain ⟨name, entry⟩ := e
    rw [inputs.go, List.forall_mem_cons]
    have hentry := Attempt.Yields.ofLogged (Port.isValid_ofEntry_iff entry)
    refine (hentry.bind (q := (read.IsNamed ∧ name.IsText) ∧
      ∀ e ∈ listed, e.1.IsText ∧ Port.IsEntry e.2) fun port _ => ?_).congr (by tauto)
    cases port with
    | invalid violations => exact .pure (by simp)
    | valid port =>
      dsimp only
      split
      · exact (ih (read.put name port)).congr (by simp [isNamed_put_iff])
      · next hscalar => exact .throw .wrongType fun h => hscalar h.2.1.2.isScalar

theorem yields_inputs (raw : Json) : (inputs raw).Yields (fun c => ∃ l, c = .valid l ∧ l.IsNamed)
    (∀ e ∈ (entries "input" raw).value, e.1.IsText ∧ Port.IsEntry e.2) :=
  .bind_of_ok (Attempt.result_ofLogged _) ((yields_inputs_go [] _).congr (by simp [IsNamed]))

theorem yields_outputs_go (read : Listing DataType) (listed : List (Json × Json)) :
    (outputs.go read listed).Yields IsNamed (read.IsNamed ∧ ∀ e ∈ listed, e.1.IsText) := by
  induction listed generalizing read with
  | nil => exact .pure (by simp)
  | cons e listed ih =>
    obtain ⟨name, entry⟩ := e
    rw [outputs.go, List.forall_mem_cons, ← and_assoc]
    refine .bind_of_ok (Attempt.result_ofLogged _) ?_
    split
    · exact (ih (read.put name _)).congr (by simp [isNamed_put_iff])
    · next hscalar => exact .throw .wrongType fun h => hscalar h.1.2.isScalar

theorem yields_outputs (raw : Json) :
    (outputs raw).Yields IsNamed (∀ e ∈ (entries "output" raw).value, e.1.IsText) :=
  .bind_of_ok (Attempt.result_ofLogged _) ((yields_outputs_go [] _).congr (by simp [IsNamed]))

end Listing

/-! ## Nodes -/

namespace Node

/-- The form of what a node has besides its ports. -/
@[mk_iff]
structure OwnForm (fields : Json.Fields) : Prop where
  id_text : fields.Requires ["id"] IsText
  kind_text : fields.Requires ["kind"] IsText
  position_form : (fields.getD "position").IsNullOr IsPosition
  label_text : fields.Allows ["label"] IsText
  description_text : fields.Allows ["description"] IsText

/-- The form of a node. -/
@[mk_iff]
structure Form (fields : Json.Fields) : Prop extends OwnForm fields where
  inputs_form : ∀ e ∈ (Listing.entries "input" (fields.getD "inputs")).value,
    e.1.IsText ∧ Port.IsEntry e.2
  outputs_form : ∀ e ∈ (Listing.entries "output" (fields.getD "outputs")).value, e.1.IsText

variable (fields : Json.Fields)

theorem isValid_positionOfNodeFields_iff :
    (Position.ofNodeFields fields).IsValid ↔ (fields.getD "position").IsNullOr IsPosition := by
  have hposition : ∀ value, (Position.ofJson (Position.ofPair value)).IsValid ↔ value.IsPosition := by
    refine fun value => Schema.isValid_record_iff _ (fun fields => ?_) _
    simp only [Position.ofFields, Checked.isValid_seq_iff, Checked.isValid_fmap_iff,
      Schema.isValid_optional_iff Schema.isValid_number_iff]
  unfold Position.ofNodeFields
  cases fields.getD "position" with
  | null => exact iff_of_true (Checked.isValid_valid _) (Or.inl rfl)
  | _ => simp only [Checked.isValid_under_iff, hposition, IsNullOr, reduceCtorEq, false_or]

theorem isValid_check_iff (inputs : Listing Port) (outputs : Listing DataType) :
    (check fields inputs outputs).IsValid ↔ inputs.IsNamed ∧ outputs.IsNamed ∧ OwnForm fields := by
  simp only [check, ownForm_iff, Checked.isValid_seq_iff, Checked.isValid_fmap_iff,
    Checked.isValid_under_iff, Schema.isValid_required_iff Schema.isValid_text_iff,
    Schema.isValid_optional_iff Schema.isValid_text_iff, isValid_positionOfNodeFields_iff,
    Listing.isValid_toTable_iff]
  tauto

theorem succeeds_requireScalar (kind : Json) :
    (requireScalar kind).Succeeds (kind.isScalar = true) := by
  unfold requireScalar
  split
  · next h => exact .pure (by simp [h])
  · next h => exact .throw .wrongType h

theorem yields_listedInputs (kind raw : Json) :
    (listedInputs kind raw).Yields (fun c => ∃ l, c = .valid l ∧ l.IsNamed)
      ((raw = .null → kind.isScalar = true) ∧
        ∀ e ∈ (Listing.entries "input" raw).value, e.1.IsText ∧ Port.IsEntry e.2) := by
  unfold listedInputs
  split
  · next h =>
    subst h
    refine ((succeeds_requireScalar kind).bind (q := True) fun _ _ => .pure ?_).congr ?_
    · simp [Listing.isNamed_ofTable]
    · simp [Listing.entries]
  · next h => exact (Listing.yields_inputs raw).congr (by simp [h])

theorem yields_listedOutputs (kind raw : Json) :
    (listedOutputs kind raw).Yields Listing.IsNamed ((raw = .null → kind.isScalar = true) ∧
      ∀ e ∈ (Listing.entries "output" raw).value, e.1.IsText) := by
  unfold listedOutputs
  split
  · next h =>
    subst h
    refine ((succeeds_requireScalar kind).bind (q := True) fun _ _ => .pure ?_).congr ?_
    · simp [Listing.isNamed_ofTable]
    · simp [Listing.entries]
  · next h => exact (Listing.yields_outputs raw).congr (by simp [h])

theorem succeeds_announceConfig (kind data : Json) :
    (announceConfig kind data).Succeeds (data ≠ .null → kind.isScalar = true) := by
  unfold announceConfig
  split
  · next h => exact .pure (by simp [h])
  · next h =>
    refine ((succeeds_requireScalar kind).bind (q := True) fun _ _ => ?_).congr (by simp [h])
    exact .bind_of_ok (Attempt.result_ofLogged _) (.pure (by simp))

theorem OwnForm.isScalar_kind {fields : Json.Fields} (h : OwnForm fields) :
    (fields.getD "kind").isScalar = true := by
  obtain ⟨kind, hkind, htext⟩ := Fields.requires_singleton_iff.1 h.kind_text
  rw [Fields.getD, hkind]
  exact htext.isScalar

/-- A node is read from fields that have its form. -/
theorem yields_ofFields : (ofFields fields).Yields Checked.IsValid (Form fields) := by
  -- defaults are looked up by the kind, which has to be a scalar for it; a text is one
  have hscalar : OwnForm fields → (fields.getD "kind").isScalar = true := OwnForm.isScalar_kind
  rw [form_iff]
  refine ((yields_listedInputs _ _).bind (q := OwnForm fields ∧
    ∀ e ∈ (Listing.entries "output" (fields.getD "outputs")).value, e.1.IsText)
    fun c _ => ?_).congr (by tauto)
  cases c with
  | invalid violations => exact .pure (by simp)
  | valid inputs =>
    refine ((yields_listedOutputs _ _).bind (q := inputs.IsNamed ∧ OwnForm fields)
      fun outputs _ => ?_).congr (by simp; tauto)
    refine ((succeeds_announceConfig _ _).bind (q := inputs.IsNamed ∧ outputs.IsNamed ∧
      OwnForm fields) fun _ _ => ?_).congr (by tauto)
    exact .pure ((isValid_check_iff fields inputs outputs).trans (true_and _).symm.to_iff)

end Node

/-! ## Edges -/

namespace Edge

/-- An edge of a kind, with an object that is not empty as its data, is read from fields of this form. -/
theorem yields_ofFields {fields data : Json.Fields} (kind : EdgeKind)
    (hkind : fields.get? "kind" = some (.str kind.name)) (hdata : fields.getD "data" = .obj data)
    (hne : data ≠ []) : (ofFields fields).Yields Checked.IsValid (fields.Requires ["id"] IsText ∧
      fields.Requires ["source"] IsText ∧ fields.Requires ["target"] IsText ∧
      data.Allows ["label"] (IsNullOr IsText) ∧ data.Allows ["condition"] (IsNullOr IsText) ∧
      fields.Allows ["animated"] IsTruth ∧ fields.Allows ["style"] IsObject) := by
  have hname : fields.getD "kind" = .str kind.name := by
    rw [Fields.getD, hkind]
    rfl
  have hchoice : (Schema.optional fields ["kind"] .plain
      (Schema.choice EdgeKind.ofName? (EdgeKind.all.map EdgeKind.name))).IsValid :=
    ⟨kind, Schema.optional_of_get? hkind (choice_name kind)⟩
  refine .of_ok (result_ofFields_of_payload fields kind hname hdata hne) ?_
  simp only [check, ofPayload, Checked.isValid_seq_iff, Checked.isValid_fmap_iff,
    Checked.isValid_under_iff, Schema.isValid_required_iff Schema.isValid_text_iff,
    Schema.isValid_nullableText_iff, hchoice, Schema.isValid_optional_iff Schema.isValid_boolean_iff,
    Schema.isValid_optional_iff Schema.isValid_object_iff, and_true, and_assoc]

end Edge

/-! ## Entries -/

namespace Document

/-- The form of the data of a node entry. -/
@[mk_iff]
structure NodeData (data : Json.Fields) : Prop where
  label_text : (data.getD "label").IfGiven IsText
  description_text : (data.getD "description").IfGiven IsText
  inputs_form : ∀ e ∈ (Listing.entries "input" (data.getD "inputs")).value,
    e.1.IsText ∧ Port.IsEntry e.2
  outputs_form : ∀ e ∈ (Listing.entries "output" (data.getD "outputs")).value, e.1.IsText

/-- The form of a node entry that is not skipped. -/
@[mk_iff]
structure NodeEntry (fields : Json.Fields) : Prop where
  id_text : (fields.getD "id").IsText
  type_text : (fields.getD "type").IsText
  position_form : (fields.getD "position").IsNullOr IsPosition
  data_form : (fields.getD "data").IfGiven (IsRecord NodeData)

/-- The form of the data of an edge entry. -/
@[mk_iff]
structure EdgeData (data : Json.Fields) : Prop where
  label_text : (data.getD "label").IsNullOr IsText
  condition_text : (data.getD "condition").IsNullOr IsText

/-- The form of an edge entry that is not skipped. -/
@[mk_iff]
structure EdgeEntry (fields : Json.Fields) : Prop where
  id_text : (fields.getD "id").IfGiven IsText
  source_text : (fields.getD "source").IsText
  target_text : (fields.getD "target").IsText
  type_scalar : (fields.getD "type").IfGiven (·.isScalar = true)
  data_form : (fields.getD "data").IfGiven (IsRecord EdgeData)
  style_object : (fields.getD "style").IfGiven IsObject

theorem nodeData_nil : NodeData [] where
  label_text h := nomatch h
  description_text h := nomatch h
  inputs_form _ he := nomatch he
  outputs_form _ he := nomatch he

theorem edgeData_nil : EdgeData [] :=
  ⟨Or.inl rfl, Or.inl rfl⟩

theorem yields_dataOf (fields : Json.Fields) {p : Json.Fields → Prop} (h : p []) :
    (dataOf fields).Yields p ((fields.getD "data").IfGiven (IsRecord p)) := by
  have hempty : (Json.obj []).IsRecord p := ⟨[], rfl, h⟩
  rw [← orElse_iff hempty, dataOf]
  cases (fields.getD "data").orElse (.obj []) with
  | obj data => exact .pure (by simp [IsRecord])
  | _ =>
    refine .throw .noFields ?_
    rintro ⟨_, hdata, -⟩
    cases hdata

theorem yields_kindOf (type : Json) : (kindOf type).Yields IsText type.IsText := by
  unfold kindOf
  split
  · exact .pure (iff_of_true ⟨_, rfl⟩ ⟨_, rfl⟩)
  · split
    · exact .pure Iff.rfl
    · next hscalar => exact .throw .wrongType fun h => hscalar h.isScalar

theorem succeeds_node? (entry : Json) :
    (node? entry).Succeeds (∀ fields ∈ identified? ["id", "type"] entry, NodeEntry fields) := by
  unfold node?
  cases identified? ["id", "type"] entry with
  | none => exact .bind_of_ok (Attempt.result_ofLogged _) (.pure (by simp))
  | some fields =>
    simp only [Option.mem_def, Option.some.injEq, forall_eq', nodeEntry_iff]
    refine ((yields_kindOf _).bind (q := (fields.getD "id").IsText ∧
      (fields.getD "position").IsNullOr IsPosition ∧
      (fields.getD "data").IfGiven (IsRecord NodeData)) fun kind _ => ?_).congr (by tauto)
    refine ((yields_dataOf fields nodeData_nil).bind (q := (fields.getD "id").IsText ∧
      kind.IsText ∧ (fields.getD "position").IsNullOr IsPosition) fun data _ => ?_).congr (by tauto)
    refine (Attempt.Yields.map some (Attempt.Yields.validated "Node"
      (Node.yields_ofFields _))).congr ?_
    have htext : (Json.str "").IsText := ⟨"", rfl⟩
    simp only [Node.form_iff, Node.ownForm_iff, nodeData_iff, Fields.Requires, Fields.Allows,
      Schema.lookup?, Fields.get?, Fields.getD, List.find?, BEq.rfl, String.reduceBEq,
      Option.map_some, Option.getD_some, Option.some.injEq, exists_eq_left', forall_eq',
      orElse_iff htext]
    tauto

theorem succeeds_edgeKindOf (type : Json) :
    (edgeKindOf type).Succeeds (type.IfGiven (·.isScalar = true)) := by
  have hunsupported : ∀ type, (edgeKindOf.unsupported type).Succeeds True :=
    fun type => .bind_of_ok (Attempt.result_ofLogged _) (.pure Iff.rfl)
  have hplain : (Json.str EdgeKind.plain.name).isScalar = true := rfl
  rw [← orElse_iff hplain, edgeKindOf]
  cases type.orElse (.str EdgeKind.plain.name) with
  | str name =>
    dsimp only
    split
    · exact .pure (iff_of_true trivial rfl)
    · exact (hunsupported _).congr (iff_of_true trivial rfl)
  | arr items => exact .throw .wrongType nofun
  | obj fields => exact .throw .wrongType nofun
  | _ => exact (hunsupported _).congr (iff_of_true trivial rfl)

theorem succeeds_edge? (settings : Settings) (index : Nat) (entry : Json) :
    (edge? settings index entry).Succeeds
      (∀ fields ∈ identified? ["source", "target"] entry, EdgeEntry fields) := by
  unfold edge?
  cases identified? ["source", "target"] entry with
  | none => exact .bind_of_ok (Attempt.result_ofLogged _) (.pure (by simp))
  | some fields =>
    simp only [Option.mem_def, Option.some.injEq, forall_eq', edgeEntry_iff]
    refine ((succeeds_edgeKindOf _).bind (q := (fields.getD "id").IfGiven IsText ∧
      (fields.getD "source").IsText ∧ (fields.getD "target").IsText ∧
      (fields.getD "data").IfGiven (IsRecord EdgeData) ∧
      (fields.getD "style").IfGiven IsObject) fun kind _ => ?_).congr (by tauto)
    refine ((yields_dataOf fields edgeData_nil).bind (q := (fields.getD "id").IfGiven IsText ∧
      (fields.getD "source").IsText ∧ (fields.getD "target").IsText ∧
      (fields.getD "style").IfGiven IsObject) fun data _ => ?_).congr (by tauto)
    refine (Attempt.Yields.map some (Attempt.Yields.validated "Edge"
      (Edge.yields_ofFields kind rfl rfl (List.cons_ne_nil _ _)))).congr ?_
    have hid : (Json.str s!"{settings.edgeIdPrefix}-{index}").IsText := ⟨_, rfl⟩
    have hstyle : (Json.obj []).IsObject := ⟨[], rfl⟩
    simp only [edgeData_iff, Fields.Requires, Fields.Allows, Schema.lookup?, Fields.get?,
      Fields.getD, List.find?, BEq.rfl, String.reduceBEq, Option.map_some, Option.some.injEq,
      exists_eq_left', forall_eq', orElse_iff hid, orElse_iff hstyle, IsTruth]
    tauto

theorem succeeds_edges (settings : Settings) (index : Nat) (items : List Json) :
    (edges settings index items).Succeeds
      (∀ entry ∈ items, ∀ fields ∈ identified? ["source", "target"] entry, EdgeEntry fields) := by
  -- whether an entry is accepted does not depend on its place
  induction items generalizing index with
  | nil => exact .pure (by simp)
  | cons entry items ih =>
    rw [edges, List.forall_mem_cons]
    refine (succeeds_edge? settings index entry).bind fun edge _ => ?_
    exact ((ih (index + 1)).bind (q := True) fun more _ => .pure (by simp)).congr (by simp)

/-! ## Documents -/

/-- The value counts as not given, or it holds entries, and those that have the given keys are of a
form. The characters of a text and the keys of an object are entries that have no keys. -/
def AreEntries (keys : List String) (p : Json.Fields → Prop) : Json → Prop
  | .arr items => ∀ entry ∈ items, ∀ fields ∈ identified? keys entry, p fields
  | .str _ | .obj _ => True
  | value => value.isVoid = true

/-- The form of a graph. -/
@[mk_iff]
structure Form (fields : Json.Fields) : Prop where
  nodes_form : AreEntries ["id", "type"] NodeEntry (fields.getD "nodes")
  edges_form : AreEntries ["source", "target"] EdgeEntry (fields.getD "edges")
  id_text : (fields.getD "id").IfGiven IsText
  name_text : (fields.getD "name").IfGiven IsText
  description_text : (fields.getD "description").IfGiven IsText

theorem yields_itemsOf (value : Json) (keys : List String) (p : Json.Fields → Prop) :
    (itemsOf value).Yields
      (fun items => ∀ entry ∈ items, ∀ fields ∈ identified? keys entry, p fields)
      (AreEntries keys p value) := by
  -- a text or an object is gone through by its characters or its keys, which are texts
  have hskipped : ∀ texts : List String, ∀ entry ∈ texts.map Json.str,
      ∀ fields ∈ identified? keys entry, p fields := by
    intro texts entry hentry fields hfields
    obtain ⟨text, -, rfl⟩ := List.mem_map.1 hentry
    cases hfields
  unfold itemsOf
  split
  · next hvoid =>
    refine .pure (iff_of_true (fun entry hentry => nomatch hentry) ?_)
    cases value with
    | arr items =>
      rw [List.isEmpty_iff.1 hvoid]
      exact fun entry hentry => nomatch hentry
    | str s => trivial
    | obj fields => trivial
    | _ => exact hvoid
  · next hvoid =>
    cases value with
    | arr items => exact .pure Iff.rfl
    | str s =>
      refine .pure (iff_of_true ?_ trivial)
      simpa using hskipped (s.toList.map String.singleton)
    | obj fields =>
      refine .pure (iff_of_true ?_ trivial)
      simpa using hskipped (fields.map Prod.fst)
    | _ => exact .throw .wrongType hvoid

/-- A workflow is read from the fields of a graph. -/
theorem succeeds_ofFields (s : Surroundings) (settings : Settings) (fields : Json.Fields) :
    (ofFields s settings fields).Succeeds (Form fields) := by
  rw [form_iff]
  refine (yields_itemsOf _ ["id", "type"] NodeEntry).bind fun items _ => ?_
  refine (Attempt.Yields.mapList succeeds_node?).bind fun nodes _ => ?_
  refine ((yields_itemsOf _ ["source", "target"] EdgeEntry).bind fun items _ => ?_).congr
    (true_and _).symm.to_iff
  refine (succeeds_edges settings 1 items).bind fun edges _ => ?_
  refine .bind_of_ok (Attempt.result_ofLogged _) (.bind_of_ok (Attempt.result_ofLogged _) ?_)
  have htext : ∀ s, (Json.str s).IsText := fun s => ⟨s, rfl⟩
  refine .ofChecked "Workflow" ?_
  simp only [Checked.isValid_seq_iff, Checked.isValid_fmap_iff, Checked.isValid_under_iff,
    Schema.isValid_text_iff, orElse_iff (htext _), and_assoc, true_and]

end Document

/-- The document has the form of a graph. -/
def Json.IsGraph (document : Json) : Prop :=
  document.IsRecord Document.Form

end WorkflowGraph
