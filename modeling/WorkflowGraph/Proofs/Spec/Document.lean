import WorkflowGraph.Proofs.Json
import WorkflowGraph.Proofs.Table
import WorkflowGraph.Spec.Reader
import WorkflowGraph.Spec.Writer

/-!
# Specs as documents

What a spec is written to is read back as the same spec, but for infinite and undefined numbers,
which are written as `null`. Main statement: `ofDocument_toJson`.
-/

namespace WorkflowGraph

/-! ## Looking up fields -/

namespace Json.Fields

@[simp] theorem get?_nil (key : String) : Fields.get? [] key = none := rfl

@[simp] theorem get?_cons (f : String × Json) (fields : Fields) (key : String) :
    Fields.get? (f :: fields) key = if f.1 = key then some f.2 else fields.get? key := by
  by_cases h : f.1 = key
  · simp [get?, h]
  · simp [get?, h]

@[simp] theorem get?_append (a b : Fields) (key : String) :
    Fields.get? (a ++ b) key = (a.get? key).or (b.get? key) := by
  simp only [get?, List.find?_append]
  cases a.find? (·.1 == key) <;> rfl

@[simp] theorem get?_fieldOf (name : String) (value : Option Json) (key : String) :
    Fields.get? (Spec.fieldOf name value) key = if name = key then value else none := by
  cases value with
  | none => simp [Spec.fieldOf, get?]
  | some v => simp [Spec.fieldOf, get?]

end Json.Fields

namespace Schema

variable {α β : Type}

/-! ## Reading fields, lists and objects that were written -/

theorem required_of_get? {fields : Json.Fields} {key : String} {keys : List String} {value : Json}
    {check : Json → Checked α} {a : α} (hget : fields.get? key = some value)
    (hcheck : check value = .valid a) : required fields (key :: keys) check = .valid a := by
  simp [required, lookup?, hget, hcheck]

theorem required_text {fields : Json.Fields} {key : String} {keys : List String} {s : String}
    (hget : fields.get? key = some (.str s)) : required fields (key :: keys) text = .valid s :=
  required_of_get? hget rfl

theorem optional_of_get? {fields : Json.Fields} {key : String} {keys : List String} {value : Json}
    {check : Json → Checked α} {default a : α} (hget : fields.get? key = some value)
    (hcheck : check value = .valid a) : optional fields (key :: keys) default check = .valid a := by
  simp [optional, lookup?, hget, hcheck]

theorem optional_text {fields : Json.Fields} {key : String} {keys : List String} {s default : String}
    (hget : fields.get? key = some (.str s)) :
    optional fields (key :: keys) default text = .valid s :=
  optional_of_get? hget rfl

/-- A field that is written if there is something to write is read back. -/
theorem optional_nullable {fields : Json.Fields} {key : String} {b? : Option β} {write : β → Json}
    {read : β → α} {check : Json → Checked α} (hget : fields.get? key = b?.map write)
    (hcheck : ∀ b, nullable check (write b) = .valid (some (read b))) :
    optional fields [key] none (nullable check) = .valid (b?.map read) := by
  cases b? with
  | none => simp [optional, lookup?, hget]
  | some b => exact optional_of_get? hget (hcheck b)

/-- A field that holds a text or is left out is read back. -/
theorem optional_nullable_text {fields : Json.Fields} {key : String} {s? : Option String}
    (hget : fields.get? key = s?.map .str) :
    optional fields [key] none (nullable text) = .valid s? := by
  rw [optional_nullable hget fun _ => rfl, Option.map_id']

theorem checkedList_map {item : Json → Checked α} {write : β → Json} {read : β → α} {bs : List β}
    (h : ∀ b ∈ bs, item (write b) = .valid (read b)) (position : Nat) :
    Checked.list.go item position (bs.map write) = .valid (bs.map read) := by
  induction bs generalizing position with
  | nil => rfl
  | cons b bs ih =>
    have hbs := ih (fun c hc => h c (List.mem_cons_of_mem _ hc)) (position + 1)
    rw [List.map_cons, Checked.list.go, h b List.mem_cons_self, hbs]
    rfl

/-- A list of values that are each read back is read back. -/
theorem list_map {item : Json → Checked α} {write : β → Json} {read : β → α} {bs : List β}
    (h : ∀ b ∈ bs, item (write b) = .valid (read b)) :
    list item (.arr (bs.map write)) = .valid (bs.map read) :=
  checkedList_map h 0

/-- A list of values that are each read back unchanged is read back unchanged. -/
theorem list_map_self {item : Json → Checked α} {write : α → Json} {as : List α}
    (h : ∀ a ∈ as, item (write a) = .valid a) : list item (.arr (as.map write)) = .valid as := by
  have hmap : list item (.arr (as.map write)) = .valid (as.map fun a => a) := list_map h
  rwa [List.map_id'] at hmap

theorem list_map_text (ids : List String) : list text (.arr (ids.map .str)) = .valid ids :=
  list_map_self fun _ _ => rfl

theorem dictionary_map {item : Json → Checked α} {write : β → Json} {read : β → α}
    {entries : List (String × β)} (h : ∀ e ∈ entries, item (write e.2) = .valid (read e.2)) :
    dictionary item (.obj (entries.map fun e => (e.1, write e.2))) =
      .valid (entries.map fun e => (e.1, read e.2)) := by
  induction entries with
  | nil => rfl
  | cons e entries ih =>
    have hrest := ih fun x hx => h x (List.mem_cons_of_mem _ hx)
    simp only [dictionary] at hrest
    rw [List.map_cons, dictionary, dictionary.go, h e List.mem_cons_self, hrest]
    rfl

/-- A table of values that are each read back is read back. -/
theorem table_map {item : Json → Checked α} {write : β → Json} {read : β → α} {t : Table β}
    (h : ∀ e ∈ t.entries, item (write e.2) = .valid (read e.2)) :
    table item (.obj (t.entries.map fun e => (e.1, write e.2))) =
      .valid (t.map fun _ b => read b) := by
  rw [table, dictionary_map h]
  exact congrArg Checked.valid (Table.ofList_map_entries t fun _ b => read b)

end Schema

namespace Spec

/-! ## What is stored -/

/-- The node without infinite and undefined numbers in its inputs and outputs. -/
def Node.storable (n : Node) : Node :=
  { n with
    inputs := n.inputs.map fun _ v => v.storable
    outputs := n.outputs.map fun _ v => v.storable }

/-- The details without infinite and undefined numbers. -/
def EdgeDetail.storable (d : EdgeDetail) : EdgeDetail :=
  { d with config := d.config.map Json.storableFields, style := Json.storableFields d.style }

/-- What is kept besides, without infinite and undefined numbers. -/
def Metadata.storable (m : Metadata) : Metadata :=
  { m with
    terminals := m.terminals.map Node.storable
    edgeDetails := m.edgeDetails.map EdgeDetail.storable }

/-- The spec without infinite and undefined numbers, but for those among coordinates. -/
def storable (spec : Spec) : Spec :=
  { spec with
    nodes := spec.nodes.map Node.storable
    metadata := spec.metadata.map Metadata.storable }

/-! ## Reading back the parts -/

theorem table_valuesJson (t : Table Json) :
    Schema.table Checked.valid (valuesJson t) = .valid (t.map fun _ v => v.storable) := by
  rw [valuesJson, Json.storableFields_eq_map]
  exact Schema.table_map fun _ _ => rfl

theorem table_coordinatesJson (t : Table Float64) :
    Schema.table Schema.number (coordinatesJson t) = .valid t := by
  have h : Schema.table Schema.number (coordinatesJson t) = .valid (t.map fun _ x => x) :=
    Schema.table_map fun _ _ => rfl
  rw [h, Table.map_value]

theorem Node.ofFields_toFields (n : Node) : Node.ofFields n.toFields = .valid n.storable := by
  have hid : n.toFields.get? "id" = some (.str n.id) := by simp [toFields]
  have htype : n.toFields.get? "type" = some (.str n.type) := by simp [toFields]
  have hlabel : n.toFields.get? "label" = n.label.map .str := by simp [toFields]
  have hinputs : n.toFields.get? "inputs" = some (valuesJson n.inputs) := by simp [toFields]
  have houtputs : n.toFields.get? "outputs" = some (valuesJson n.outputs) := by simp [toFields]
  have hposition : n.toFields.get? "position" = n.position.map coordinatesJson := by
    simp [toFields]
  have hcoordinates : ∀ t, Schema.nullable (Schema.table Schema.number) (coordinatesJson t) =
      .valid (some t) := fun t => congrArg (Checked.map some) (table_coordinatesJson t)
  rw [Node.ofFields, Schema.required_text hid, Schema.required_text htype,
    Schema.optional_nullable_text hlabel, Schema.optional_of_get? hinputs (table_valuesJson _),
    Schema.optional_of_get? houtputs (table_valuesJson _),
    Schema.optional_nullable hposition hcoordinates, Option.map_id']
  rfl

theorem Branch.ofFields_toJson (b : Branch) :
    Schema.record "ConditionalTarget" Branch.ofFields b.toJson = .valid b := rfl

theorem Targets.ofFields_toJson (t : Targets) :
    Schema.record "SpecEdgeTargets" Targets.ofFields t.toJson = .valid t := by
  let fields : Json.Fields := fieldOf "nodes" (t.nodes.map fun ids => .arr (ids.map .str)) ++
    fieldOf "conditional_edges" (t.branches.map fun bs => .arr (bs.map Branch.toJson)) ++
    fieldOf "default" (t.fallback.map .str)
  have hnodes : fields.get? "nodes" = t.nodes.map fun ids => .arr (ids.map .str) := by
    simp [fields]
  have hbranches : fields.get? "conditional_edges" =
      t.branches.map fun bs => .arr (bs.map Branch.toJson) := by simp [fields]
  have hfallback : fields.get? "default" = t.fallback.map .str := by simp [fields]
  have hids : ∀ ids : List String,
      Schema.nullable (Schema.list Schema.text) (.arr (ids.map .str)) = .valid (some ids) :=
    fun ids => congrArg (Checked.map some) (Schema.list_map_text ids)
  have hlist : ∀ bs : List Branch,
      Schema.nullable (Schema.list (Schema.record "ConditionalTarget" Branch.ofFields))
        (.arr (bs.map Branch.toJson)) = .valid (some bs) :=
    fun bs => congrArg (Checked.map some) (Schema.list_map_self fun b _ => Branch.ofFields_toJson b)
  have hread : Targets.ofFields fields = .valid t := by
    rw [Targets.ofFields, Schema.optional_nullable hnodes hids,
      Schema.optional_nullable hbranches hlist, Schema.optional_nullable_text hfallback]
    simp
  exact hread

theorem Group.ofFields_toJson (g : Group) :
    Schema.record "SpecEdge" Group.ofFields g.toJson = .valid g := by
  let fields : Json.Fields := [("from", .str g.source), ("to", g.targets.toJson)]
  have hsource : fields.get? "from" = some (.str g.source) := by simp [fields]
  have htargets : fields.get? "to" = some g.targets.toJson := by simp [fields]
  have hread : Group.ofFields fields = .valid g := by
    rw [Group.ofFields, Schema.required_text hsource,
      Schema.optional_of_get? htargets (Targets.ofFields_toJson _)]
    rfl
  exact hread

theorem EdgeDetail.ofFields_toJson (d : EdgeDetail) :
    Schema.record "EdgeDetail" EdgeDetail.ofFields d.toJson = .valid d.storable := by
  let fields : Json.Fields :=
    [("source", .str d.source), ("target", .str d.target), ("kind", .str d.kind)] ++
      fieldOf "label" (d.label.map .str) ++
      fieldOf "config" (d.config.map fun c => .obj (Json.storableFields c)) ++
      [("animated", .bool d.animated), ("style", .obj (Json.storableFields d.style))]
  have hsource : fields.get? "source" = some (.str d.source) := by simp [fields]
  have htarget : fields.get? "target" = some (.str d.target) := by simp [fields]
  have hkind : fields.get? "kind" = some (.str d.kind) := by simp [fields]
  have hlabel : fields.get? "label" = d.label.map .str := by simp [fields]
  have hconfig : fields.get? "config" = d.config.map fun c => .obj (Json.storableFields c) := by
    simp [fields]
  have hanimated : fields.get? "animated" = some (.bool d.animated) := by simp [fields]
  have hstyle : fields.get? "style" = some (.obj (Json.storableFields d.style)) := by simp [fields]
  have hbool : Schema.boolean (.bool d.animated) = .valid d.animated := rfl
  have hobject : Schema.object (.obj (Json.storableFields d.style)) =
      .valid (Json.storableFields d.style) := rfl
  have hread : EdgeDetail.ofFields fields = .valid d.storable := by
    rw [EdgeDetail.ofFields, Schema.required_text hsource, Schema.required_text htarget,
      Schema.required_text hkind, Schema.optional_nullable_text hlabel,
      Schema.optional_nullable hconfig fun _ => rfl, Schema.optional_of_get? hanimated hbool,
      Schema.optional_of_get? hstyle hobject]
    rfl
  exact hread

theorem Metadata.ofFields_toFields (m : Metadata) :
    Metadata.ofFields m.toFields = .valid m.storable := by
  have hat : m.toFields.get? "exported_at" = m.exportedAt.map .str := by simp [toFields]
  have hid : m.toFields.get? "original_workflow_id" = m.workflowId.map .str := by simp [toFields]
  have hpositions : m.toFields.get? "node_positions" =
      some (.obj (m.positions.entries.map fun e => (e.1, coordinatesJson e.2))) := by
    simp [toFields]
  have hterminals : m.toFields.get? "terminal_nodes" =
      some (.arr (m.terminals.map Node.toJson)) := by simp [toFields]
  have hdetails : m.toFields.get? "edge_details" =
      some (.arr (m.edgeDetails.map EdgeDetail.toJson)) := by simp [toFields]
  have htable : Schema.table (Schema.table Schema.number)
      (.obj (m.positions.entries.map fun e => (e.1, coordinatesJson e.2))) =
        .valid (m.positions.map fun _ t => t) :=
    Schema.table_map fun e _ => table_coordinatesJson e.2
  rw [Table.map_value] at htable
  rw [Metadata.ofFields, Schema.optional_nullable_text hat, Schema.optional_nullable_text hid,
    Schema.optional_of_get? hpositions htable,
    Schema.optional_of_get? hterminals (Schema.list_map fun n _ => Node.ofFields_toFields n),
    Schema.optional_of_get? hdetails (Schema.list_map fun d _ => EdgeDetail.ofFields_toJson d)]
  rfl

/-! ## Reading back the whole -/

theorem ofFields_toFields (spec : Spec) : Spec.ofFields spec.toFields = .valid spec.storable := by
  have hversion : spec.toFields.get? "version" = some (.str spec.version) := by simp [toFields]
  have hid : spec.toFields.get? "id" = spec.id.map .str := by simp [toFields]
  have hname : spec.toFields.get? "name" = some (.str spec.name) := by simp [toFields]
  have hdescription : spec.toFields.get? "description" = spec.description.map .str := by
    simp [toFields]
  have hnodes : spec.toFields.get? "nodes" = some (.arr (spec.nodes.map Node.toJson)) := by
    simp [toFields]
  have hgroups : spec.toFields.get? "edges" = some (.arr (spec.groups.map Group.toJson)) := by
    simp [toFields]
  have hmetadata : spec.toFields.get? "metadata" = spec.metadata.map fun m => .obj m.toFields := by
    simp [toFields]
  have hrecord : ∀ m : Metadata,
      Schema.nullable (Schema.record "SpecMetadata" Metadata.ofFields) (.obj m.toFields) =
        .valid (some m.storable) :=
    fun m => congrArg (Checked.map some) (Metadata.ofFields_toFields m)
  rw [Spec.ofFields, Schema.optional_text hversion, Schema.optional_nullable_text hid,
    Schema.optional_text hname, Schema.optional_nullable_text hdescription,
    Schema.optional_of_get? hnodes (Schema.list_map fun n _ => Node.ofFields_toFields n),
    Schema.optional_of_get? hgroups (Schema.list_map_self fun g _ => Group.ofFields_toJson g),
    Schema.optional_nullable hmetadata hrecord]
  rfl

/-- A spec is read back from the document it is written to. -/
theorem ofDocument_toJson (spec : Spec) : Spec.ofDocument spec.toJson = .ok spec.storable := by
  have hlists : (requiredLists.find? fun key =>
      ((Json.Fields.getD spec.toFields key).items?).isNone) = none := by
    simp [requiredLists, Json.Fields.getD, toFields, Json.items?]
  simp only [ofDocument, toJson, hlists, ofFields_toFields]

end Spec

end WorkflowGraph
