import WorkflowGraph.Document.Reader
import WorkflowGraph.Document.Writer
import WorkflowGraph.Proofs.Config
import WorkflowGraph.Proofs.Port
import WorkflowGraph.Proofs.Reading
import WorkflowGraph.Proofs.RoundTrip
import WorkflowGraph.Proofs.Spec.RestoredNode
import WorkflowGraph.Proofs.Timestamp

/-!
# Documents that are read back

A document is read leniently, so that older forms of documents can be read: what is empty counts as
not given, a port may be described in many ways, and keys have several spellings. None of this is used
where a workflow was written: each part is read as what it was written from. Main statement:
`ofDocument_document`.
-/

namespace WorkflowGraph

theorem Json.isVoid_str_of_ne_empty {s : String} (h : s ≠ "") : (Json.str s).isVoid = false := by
  rw [isVoid, ← Bool.not_eq_true, String.isEmpty_iff]
  exact h

theorem Json.orElse_of_ne_empty {s : String} (h : s ≠ "") (v : Json) :
    (Json.str s).orElse v = .str s := by
  rw [orElse, isVoid_str_of_ne_empty h]
  rfl

/-- The empty text stands for itself. -/
theorem Json.orElse_empty (s : String) : (Json.str s).orElse (.str "") = .str s := by
  by_cases h : s = ""
  · rw [h]
    rfl
  · exact orElse_of_ne_empty h _

/-! ## Ports -/

namespace Port

/-- The port is bound as its value is by its form, and its value is not the empty text. -/
@[mk_iff]
structure IsDocumentable (p : Port) : Prop where
  binding_eq : p.binding = bindingOf p.value
  value_ne : p.value ≠ .str ""

variable {p : Port}

instance (p : Port) : Decidable p.IsDocumentable :=
  decidable_of_iff' _ (isDocumentable_iff p)

/-- A description with a reference is that of a port bound to it. -/
theorem value_ofDescription_of_reference {fields : Json.Fields} {type : DataType} {s : String}
    (htype : (DataType.declared? fields).value = some type)
    (hreference : fields.getD "reference" = .str s) (hne : s ≠ "") :
    (ofDescription fields).value = ofRaw (.str s) (some type) := by
  have hgiven : (fields.getD "reference").orElse (fields.getD "connectedTo") = .str s := by
    rw [hreference, Json.orElse_of_ne_empty hne]
  have htext : (Json.str s).text?.any (fun s => decide (s ≠ "")) = true := decide_eq_true hne
  simp only [ofDescription, Logged.value_bind, hgiven, htext, ite_true, Logged.value_pure, htype]

/-- A description with nothing but a value is that of a port that holds it. -/
theorem value_ofDescription_of_value {fields : Json.Fields} {value : Json} {type : DataType}
    (htype : (DataType.declared? fields).value = some type) (hvalue : fields.getD "value" = value)
    (hreference : fields.getD "reference" = .null) (hconnected : fields.getD "connectedTo" = .null)
    (htemplate : fields.getD "isTemplate" = .null) (hdefault : fields.getD "defaultValue" = .null)
    (hne : value ≠ .str "") :
    (ofDescription fields).value =
      if value = .null then unset type else ofRaw value (some type) := by
  have hgiven : (fields.getD "reference").orElse (fields.getD "connectedTo") = .null := by
    rw [hreference, hconnected]
    rfl
  have hvoid : (fields.getD "isTemplate").isVoid = true := by rw [htemplate]; rfl
  have hblank : value.isBlank = decide (value = .null) := by
    cases value with
    | str s =>
      have hs : s.isEmpty = false := by
        rw [← Bool.not_eq_true, String.isEmpty_iff]
        rintro rfl
        exact hne rfl
      simpa [Json.isBlank] using hs
    | _ => rfl
  by_cases hnull : value = .null
  · simp [ofDescription, hgiven, Json.text?, hvoid, hvalue, hnull, hdefault, htype, Json.isBlank]
  · simp [ofDescription, hgiven, Json.text?, hvoid, hvalue, hblank, hnull, htype]

/-- A reference is a text. -/
theorem exists_str_of_bindingOf {v : Json} (h : bindingOf v ≠ .literal) :
    ∃ s, v = .str s ∧ s ≠ "" := by
  have hhead : v.referenceHead? ≠ none := fun hnone => h (bindingOf_eq_literal_iff.2 hnone)
  have hblank := Json.isBlank_of_referenceHead? hhead
  cases v with
  | str s =>
    refine ⟨s, rfl, ?_⟩
    rintro rfl
    cases hblank
  | _ => exact absurd rfl hhead

theorem value_declared?_description (name : String) (type : DataType) (rest : Json.Fields) :
    (DataType.declared? (("name", .str name) :: ("dataType", .str type.name) :: rest)).value =
      some type := by
  cases type <;> rfl

/-- A port that is bound is read from a description with its reference. -/
theorem value_ofDescription_bound (name : String) (type : DataType) (rest : Json.Fields)
    {binding : Binding} {value : Json} (hbinding : binding = bindingOf value)
    (hbound : binding ≠ .literal) :
    (ofDescription (("name", .str name) :: ("dataType", .str type.name) :: ("reference", value) ::
      rest)).value = ⟨binding, value, type⟩ := by
  rw [hbinding] at hbound
  obtain ⟨s, rfl, hs⟩ := exists_str_of_bindingOf hbound
  rw [value_ofDescription_of_reference (value_declared?_description name type _) rfl hs, hbinding]
  rfl

/-- A port with a value of its own is read from its description as the form of the value says. -/
theorem value_ofEntry_literal (name : String) (type : DataType) {value : Json} (hne : value ≠ .str "") :
    (ofEntry (toDescription name ⟨.literal, value, type⟩)).value =
      .valid ⟨bindingOf value, value, type⟩ := by
  have hread : (ofDescription [("name", .str name), ("dataType", .str type.name),
      ("value", value)]).value = ⟨bindingOf value, value, type⟩ := by
    have htype := value_declared?_description name type [("value", value)]
    have hvalue : Json.Fields.getD [("name", .str name), ("dataType", .str type.name),
        ("value", value)] "value" = value := rfl
    rw [value_ofDescription_of_value htype hvalue rfl rfl rfl rfl hne]
    split
    · next hnull =>
      rw [hnull]
      rfl
    · rfl
  exact congrArg Checked.valid hread

/-- A port is read from its description. -/
theorem value_ofEntry_toDescription (name : String) (h : p.IsDocumentable) :
    (ofEntry (toDescription name p)).value = .valid p := by
  obtain ⟨binding, value, type⟩ := p
  obtain ⟨hbinding, hne⟩ := h
  dsimp only at hbinding hne
  cases hliteral : binding with
  | literal =>
    rw [value_ofEntry_literal name type hne, ← hbinding, hliteral]
  | connection =>
    rw [hliteral] at hbinding
    exact congrArg Checked.valid (value_ofDescription_bound name type [] hbinding (by decide))
  | template =>
    rw [hliteral] at hbinding
    exact congrArg Checked.valid
      (value_ofDescription_bound name type [("isTemplate", .bool true)] hbinding (by decide))

end Port

/-! ## Configurations -/

namespace NodeConfig

/-- The configuration made from what a finite one is written as. -/
theorem create_saved_document {c : NodeConfig} (h : c.isFinite = true) :
    (create c.kind (c.saved .document)).value = some c := by
  rw [saved, storable_of_isFinite h]
  exact create_toFields (by decide) c

end NodeConfig

/-! ## Nodes -/

namespace Node

/-- The id and the kind of the node are there, the kind is not one that is renamed in reading, and ports
and settings are read as they are written. -/
@[mk_iff]
structure IsDocumentable (n : Node) : Prop where
  id_ne : n.id ≠ ""
  kind_ne : n.kind ≠ ""
  kind_current : n.kind ≠ NodeKind.formerInterruptName
  inputs_documentable : ∀ e ∈ n.inputs.entries, e.2.IsDocumentable
  settings_finite : n.HasFiniteSettings

variable {n : Node}

instance (n : Node) : Decidable n.IsDocumentable :=
  decidable_of_iff' _ (isDocumentable_iff n)

/-- What a node is made from where its document is read. -/
def documentFields (n : Node) : Json.Fields :=
  [("id", .str n.id), ("kind", .str n.kind),
    ("position", .obj [("x", .float n.position.x), ("y", .float n.position.y)]),
    ("label", .str n.label), ("description", .str n.description),
    ("config", NodeConfig.documented n.config),
    ("inputs", .obj (n.inputs.entries.map fun e => (e.1, Port.toDescription e.1 e.2))),
    ("outputs", .obj (n.outputs.entries.map fun e => (e.1, .str e.2.name)))]

theorem configured_documented (h : n.HasFiniteSettings) :
    (configured n.kind (NodeConfig.documented n.config)).value = n.config := by
  cases hc : n.config with
  | none => rfl
  | some c =>
    have hcreate := NodeConfig.create_saved_document (h c hc)
    rw [n.config_kind c hc] at hcreate
    exact hcreate

theorem result_ofFields_documentFields (h : n.IsDocumentable) :
    (ofFields n.documentFields).result = .ok (.valid n) :=
  result_ofFields_written n (configured_documented h.settings_finite) fun e he =>
    Port.value_ofEntry_toDescription e.1 (h.inputs_documentable e he)

end Node

namespace Document

theorem result_kindOf {kind : String} (h : kind ≠ NodeKind.formerInterruptName) :
    (kindOf (.str kind)).result = .ok (.str kind) := by
  have hcurrent : NodeKind.currentName kind = kind := if_neg h
  rw [kindOf, hcurrent]
  rfl

theorem result_dataOf {fields data : Json.Fields} (hdata : fields.getD "data" = .obj data) :
    (dataOf fields).result = .ok data := by
  rw [dataOf, hdata, NodeConfig.orElse_obj]
  rfl

theorem identified?_of_getD {fields : Json.Fields} {key other s t : String}
    (hkey : fields.getD key = .str s) (hother : fields.getD other = .str t) (hs : s ≠ "")
    (ht : t ≠ "") : identified? [key, other] (.obj fields) = some fields := by
  simp [identified?, hkey, hother, Json.isVoid_str_of_ne_empty hs, Json.isVoid_str_of_ne_empty ht]

/-- A node is read from its document. -/
theorem result_node?_toDocument {n : Node} (h : n.IsDocumentable) :
    (node? n.toDocument).result = .ok (some n) := by
  obtain ⟨fields, hfields⟩ : ∃ fields : Json.Fields, n.toDocument = .obj fields := ⟨_, rfl⟩
  have hid : fields.getD "id" = .str n.id := by cases hfields; rfl
  have htype : fields.getD "type" = .str n.kind := by cases hfields; rfl
  obtain ⟨data, hdata⟩ : ∃ data : Json.Fields, fields.getD "data" = .obj data := by
    cases hfields
    exact ⟨_, rfl⟩
  have hkind := result_kindOf h.kind_current
  have hread : (Node.ofJson (.obj n.documentFields)).result = .ok n :=
    Attempt.result_validated_of_valid "Node" (Node.result_ofFields_documentFields h)
  have hlabel : (data.getD "label").orElse (.str "") = .str n.label := by
    cases hfields
    cases hdata
    exact Json.orElse_empty n.label
  have hdescription : (data.getD "description").orElse (.str "") = .str n.description := by
    cases hfields
    cases hdata
    exact Json.orElse_empty n.description
  have hentry : ([("id", fields.getD "id"), ("kind", fields.getD "type"),
      ("position", fields.getD "position"), ("label", .str n.label),
      ("description", .str n.description), ("config", data.getD "config"),
      ("inputs", data.getD "inputs"), ("outputs", data.getD "outputs")] : Json.Fields) =
        n.documentFields := by
    cases hfields
    cases hdata
    rfl
  rw [← htype] at hkind
  rw [hfields, node?, identified?_of_getD hid htype h.id_ne h.kind_ne]
  dsimp only
  rw [Attempt.result_bind_of_ok hkind, Attempt.result_bind_of_ok (result_dataOf hdata), hlabel,
    hdescription, hentry, Attempt.result_map_eq_ok_iff]
  exact ⟨n, hread, rfl⟩

end Document

/-! ## Edges -/

namespace Edge

/-- The id and the ends of the edge are there. -/
@[mk_iff]
structure IsDocumentable (e : Edge) : Prop where
  id_ne : e.id ≠ ""
  source_ne : e.source ≠ ""
  target_ne : e.target ≠ ""

variable {e : Edge}

instance (e : Edge) : Decidable e.IsDocumentable :=
  decidable_of_iff' _ (isDocumentable_iff e)

/-- The payload that an edge is made from where its document is read. -/
def documentPayload (e : Edge) : Json.Fields :=
  [("label", .ofText? e.label), ("condition", .ofText? e.condition),
    ("config", EdgeConfig.documented e.config)]

/-- What an edge is made from where its document is read. -/
def documentFields (e : Edge) : Json.Fields :=
  [("id", .str e.id), ("source", .str e.source), ("target", .str e.target),
    ("kind", .str e.kind.name), ("data", .obj e.documentPayload), ("animated", .bool e.animated),
    ("style", .obj e.style)]

theorem result_ofFields_documentFields (e : Edge) :
    (ofFields e.documentFields).result = .ok (.valid e) :=
  result_ofFields_written e (value_configured .document _ e)

end Edge

namespace Document

theorem result_edgeKindOf (kind : EdgeKind) : (edgeKindOf (.str kind.name)).result = .ok kind := by
  cases kind <;> rfl

/-- An edge is read from its document. -/
theorem result_edge?_toDocument {e : Edge} (h : e.IsDocumentable) (settings : Settings) (index : Nat) :
    (edge? settings index e.toDocument).result = .ok (some e) := by
  obtain ⟨fields, hfields⟩ : ∃ fields : Json.Fields, e.toDocument = .obj fields := ⟨_, rfl⟩
  have hsource : fields.getD "source" = .str e.source := by cases hfields; rfl
  have htarget : fields.getD "target" = .str e.target := by cases hfields; rfl
  have hdata : fields.getD "data" = .obj e.documentPayload := by cases hfields; rfl
  have hkind := result_edgeKindOf e.kind
  have hread : (Edge.ofJson (.obj e.documentFields)).result = .ok e :=
    Attempt.result_validated_of_valid "Edge" (Edge.result_ofFields_documentFields e)
  have hid : (fields.getD "id").orElse (.str s!"{settings.edgeIdPrefix}-{index}") = .str e.id := by
    cases hfields
    exact Json.orElse_of_ne_empty h.id_ne _
  have hanimated : (!(fields.getD "animated").isVoid) = e.animated := by
    cases hfields
    exact Bool.not_not e.animated
  have hstyle : (fields.getD "style").orElse (.obj []) = .obj e.style := by
    cases hfields
    exact NodeConfig.orElse_obj e.style
  have hentry : ([("id", .str e.id), ("source", fields.getD "source"),
      ("target", fields.getD "target"), ("kind", .str e.kind.name),
      ("data", .obj [("label", e.documentPayload.getD "label"),
        ("condition", e.documentPayload.getD "condition"),
        ("config", e.documentPayload.getD "config")]),
      ("animated", .bool e.animated), ("style", .obj e.style)] : Json.Fields) = e.documentFields := by
    cases hfields
    rfl
  have htype : fields.getD "type" = .str e.kind.name := by cases hfields; rfl
  rw [← htype] at hkind
  rw [hfields, edge?, identified?_of_getD hsource htarget h.source_ne h.target_ne]
  dsimp only
  rw [Attempt.result_bind_of_ok hkind, Attempt.result_bind_of_ok (result_dataOf hdata), hid, hanimated,
    hstyle, hentry, Attempt.result_map_eq_ok_iff]
  exact ⟨e, hread, rfl⟩

theorem result_edges_toDocument {es : List Edge} (h : ∀ e ∈ es, e.IsDocumentable) (settings : Settings)
    (index : Nat) : (edges settings index (es.map Edge.toDocument)).result = .ok es := by
  induction es generalizing index with
  | nil => rfl
  | cons e es ih =>
    have hrest := ih (fun x hx => h x (List.mem_cons_of_mem _ hx)) (index + 1)
    rw [List.map_cons, edges,
      Attempt.result_bind_of_ok (result_edge?_toDocument (h e List.mem_cons_self) settings index),
      Attempt.result_bind_of_ok hrest]
    rfl

theorem result_nodes_toDocument {ns : List Node} (h : ∀ n ∈ ns, n.IsDocumentable) :
    (Attempt.mapList node? (ns.map Node.toDocument)).result = .ok (ns.map some) := by
  rw [Attempt.mapList_map]
  exact Attempt.result_mapList_of_forall fun n hn => result_node?_toDocument (h n hn)

theorem result_itemsOf (items : List Json) : (itemsOf (.arr items)).result = .ok items := by
  cases items <;> rfl

end Document

/-! ## Workflows -/

namespace Workflow

/-- The id and the name of the workflow are there, its nodes and edges are read from their documents,
and so are its timestamps. -/
structure IsDocumentable (w : Workflow) : Prop where
  id_ne : w.id ≠ ""
  name_ne : w.name ≠ ""
  nodes_documentable : ∀ n ∈ w.nodes, n.IsDocumentable
  edges_documentable : ∀ e ∈ w.edges, e.IsDocumentable
  /-- The text of the time at which the workflow was made is read as that time. -/
  createdAt_read : Timestamp.ofIso? w.createdAt.iso = some w.createdAt
  updatedAt_read : Timestamp.ofIso? w.updatedAt.iso = some w.updatedAt

variable {w : Workflow}

theorem value_timestampOf {t : Timestamp} (h : Timestamp.ofIso? t.iso = some t) (now : Timestamp)
    (key : String) : (Document.timestampOf now key (.str t.iso)).value = t := by
  rw [Document.timestampOf, h]
  rfl

theorem result_ofFields_document (h : w.IsDocumentable) (s : Surroundings) (settings : Settings)
    {fields : Json.Fields} (hfields : w.toDocument = .obj fields) :
    (Document.ofFields s settings fields).result = .ok w := by
  have hnodeItems : (Document.itemsOf (fields.getD "nodes")).result =
      .ok (w.nodes.map Node.toDocument) := by
    cases hfields
    exact Document.result_itemsOf _
  have hedgeItems : (Document.itemsOf (fields.getD "edges")).result =
      .ok (w.edges.map Edge.toDocument) := by
    cases hfields
    exact Document.result_itemsOf _
  have hnodes := Document.result_nodes_toDocument h.nodes_documentable
  have hedges := Document.result_edges_toDocument h.edges_documentable settings 1
  have hcreated : (Attempt.ofLogged (Document.timestampOf s.now "createdAt"
      (fields.getD "createdAt"))).result = .ok w.createdAt := by
    cases hfields
    exact congrArg Except.ok (value_timestampOf h.createdAt_read s.now "createdAt")
  have hupdated : (Attempt.ofLogged (Document.timestampOf s.now "updatedAt"
      (fields.getD "updatedAt"))).result = .ok w.updatedAt := by
    cases hfields
    exact congrArg Except.ok (value_timestampOf h.updatedAt_read s.now "updatedAt")
  have hid : (fields.getD "id").orElse (.str (s.freshId settings.importedWorkflowPrefix)) =
      .str w.id := by
    cases hfields
    exact Json.orElse_of_ne_empty h.id_ne _
  have hname : (fields.getD "name").orElse (.str settings.defaultWorkflowName) = .str w.name := by
    cases hfields
    exact Json.orElse_of_ne_empty h.name_ne _
  have hdescription : (fields.getD "description").orElse (.str "") = .str w.description := by
    cases hfields
    exact Json.orElse_empty w.description
  have hkept : (w.nodes.map some).filterMap (fun n => n) = w.nodes := by
    rw [List.filterMap_map]
    exact List.filterMap_some
  rw [Document.ofFields, Attempt.result_bind_of_ok hnodeItems, Attempt.result_bind_of_ok hnodes,
    Attempt.result_bind_of_ok hedgeItems, Attempt.result_bind_of_ok hedges,
    Attempt.result_bind_of_ok hcreated, Attempt.result_bind_of_ok hupdated]
  simp only [hid, hname, hdescription, hkept]
  rfl

/-- A document of a workflow is no spec, since it has no version. -/
theorem detect_toDocument (w : Workflow) : DocumentForm.detect w.toDocument = .graph := rfl

/-- What a workflow is written to is read as the workflow, if ids, names and kinds are there, ports are
bound as their values are by their form, and settings are finite. It can be written unless parameters
of a tool are nested too deep. -/
theorem ofDocument_document (h : w.IsDocumentable) (s : Surroundings) (settings : Settings) :
    ((∃ document, w.document = .ok document) ↔
      ∀ n ∈ w.nodes, ∀ c ∈ n.config, c.isStorable = true) ∧
    ∀ document, w.document = .ok document →
      (ofDocument s (.ok settings) document).result = .ok w := by
  constructor
  · have hall : (w.nodes.all fun n => n.config.all NodeConfig.isStorable) = true ↔
        ∀ n ∈ w.nodes, ∀ c ∈ n.config, c.isStorable = true := by
      simp only [List.all_eq_true, Option.all_eq_true]
      rfl
    simp only [document, storedIf_eq_ok_iff, exists_and_left, exists_eq', and_true, hall]
  · intro document hdocument
    obtain ⟨-, rfl⟩ := storedIf_eq_ok_iff.1 hdocument
    obtain ⟨fields, hfields⟩ : ∃ fields : Json.Fields, w.toDocument = .obj fields := ⟨_, rfl⟩
    have hread : (ofGraphDocument s (.ok settings) w.toDocument).result = .ok w := by
      rw [hfields]
      exact result_ofFields_document h s settings hfields
    rw [ofDocument, detect_toDocument]
    exact hread

theorem isDocumentable_questions : questions.IsDocumentable := by
  have hnoon : Timestamp.ofIso? noon.iso = some noon :=
    (Timestamp.ofIso?_iso_eq_some_iff (by decide)).2 (by decide)
  exact ⟨by decide, by decide, by decide, by decide, hnoon, hnoon⟩

/-- The answers to questions are written as a document and read again. -/
theorem ofDocument_document_questions :
    ∃ document, questions.document = .ok document ∧
      (ofDocument ⟨noon, "0001"⟩ (.ok {}) document).result = .ok questions := by
  obtain ⟨hexists, hread⟩ := ofDocument_document isDocumentable_questions ⟨noon, "0001"⟩ {}
  obtain ⟨document, hdocument⟩ := hexists.2 (by decide)
  exact ⟨document, hdocument, hread document hdocument⟩

/-- A tool is called with a value. -/
def calling (value : Json) : Workflow :=
  { questions with
    nodes := [(Node.make "search" "tool" default "" "" (.obj [("toolName", .str "search"),
      ("parameters", .obj [("p", value)])]) .empty .empty).value]
    edges := [] }

theorem isDocumentable_calling {value : Json} (h : value.isFinite = true) :
    (calling value).IsDocumentable := by
  have hid : "search" ≠ "" := by decide
  have hkind : "tool" ≠ "" ∧ "tool" ≠ NodeKind.formerInterruptName := by decide
  refine ⟨isDocumentable_questions.id_ne, isDocumentable_questions.name_ne, fun n hn => ?_,
    List.forall_mem_nil _, isDocumentable_questions.createdAt_read,
    isDocumentable_questions.updatedAt_read⟩
  obtain rfl := List.mem_singleton.1 hn
  refine ⟨hid, hkind.1, hkind.2, List.forall_mem_nil _, fun c hc => ?_⟩
  obtain rfl : NodeConfig.tool ⟨"search", [("p", value)]⟩ = c := Option.some_inj.1 hc
  rw [NodeConfig.isFinite, Json.areFiniteFields, h]
  rfl

theorem document_calling (value : Json) :
    (calling value).document = storedIf value.isStorable (calling value).toDocument := by
  have hstorable : ((calling value).nodes.all fun n => n.config.all NodeConfig.isStorable) =
      value.isStorable := by
    show ((value.isStorable && true) && true) = value.isStorable
    rw [Bool.and_true, Bool.and_true]
  rw [document, hstorable]

/-- No document holds a value that lies in 255 lists. -/
theorem document_calling_nested :
    (calling (nested 255)).IsDocumentable ∧
      (calling (nested 255)).document = .error .tooDeep := by
  refine ⟨isDocumentable_calling (isFinite_nested 255), ?_⟩
  rw [document_calling, isStorable_nested]
  rfl

end Workflow

end WorkflowGraph
