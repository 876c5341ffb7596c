import Mathlib.Data.List.Forall2
import WorkflowGraph.Edge.Reader
import WorkflowGraph.Node.Reader
import WorkflowGraph.Proofs.Config
import WorkflowGraph.Proofs.Table

/-!
# Reading what was written

The readers of nodes and edges are lenient and fail in many ways. What is shared by all that is written
for them is stated here: a sequence of attempts that succeed succeeds, ports that are listed under the
names of a table are read as the table, and the names of kinds and types are read as what they name.
Main statements: `Node.result_ofFields_written` and `Edge.result_ofFields_written`, nodes and edges are
read from their fields.
-/

namespace WorkflowGraph

/-! ## Attempts in sequence -/

namespace Attempt

variable {α β γ : Type}

theorem result_bind_of_ok {x : Attempt α} {a : α} (h : x.result = .ok a) (f : α → Attempt β) :
    (x >>= f).result = (f a).result := by
  rw [result_bind, h]
  rfl

theorem result_validated_of_valid (record : String) {x : Attempt (Checked α)} {a : α}
    (h : x.result = .ok (.valid a)) : (validated record x).result = .ok a := by
  rw [validated, result_bind_of_ok h]
  rfl

theorem result_checkedList_go {read : α → Attempt (Checked β)} {as : List α} {bs : List β}
    (h : List.Forall₂ (fun a b => (read a).result = .ok (.valid b)) as bs) (position : Nat) :
    (checkedList.go read position as).result = .ok (.valid bs) := by
  induction h generalizing position with
  | nil => rfl
  | cons hread _ ih =>
    rw [checkedList.go, result_bind_of_ok hread, result_bind_of_ok (ih (position + 1))]
    rfl

/-- A list of values each of which is accepted is accepted. -/
theorem result_checkedList {read : α → Attempt (Checked β)} {as : List α} {bs : List β}
    (h : List.Forall₂ (fun a b => (read a).result = .ok (.valid b)) as bs) :
    (checkedList read as).result = .ok (.valid bs) :=
  result_checkedList_go h 0

theorem mapList_congr {f g : α → Attempt β} {as : List α} (h : ∀ a ∈ as, f a = g a) :
    mapList f as = mapList g as := by
  induction as with
  | nil => rfl
  | cons a as ih =>
    rw [mapList, mapList, h a List.mem_cons_self, ih fun b hb => h b (List.mem_cons_of_mem _ hb)]

theorem mapList_map (f : β → Attempt γ) (g : α → β) (as : List α) :
    mapList f (as.map g) = mapList (fun a => f (g a)) as := by
  induction as with
  | nil => rfl
  | cons a as ih => rw [List.map_cons, mapList, mapList, ih]

theorem result_mapList_of_forall {f : α → Attempt β} {g : α → β} {as : List α}
    (h : ∀ a ∈ as, (f a).result = .ok (g a)) : (mapList f as).result = .ok (as.map g) := by
  induction as with
  | nil => rfl
  | cons a as ih =>
    have hrest := ih fun b hb => h b (List.mem_cons_of_mem _ hb)
    rw [mapList, result_bind_of_ok (h a List.mem_cons_self), result_bind_of_ok hrest]
    rfl

theorem exists_of_mem_mapList {f : α → Attempt β} {as : List α} {bs : List β}
    (h : (mapList f as).result = .ok bs) {b : β} (hb : b ∈ bs) : ∃ a ∈ as, (f a).result = .ok b := by
  induction as generalizing bs with
  | nil =>
    cases h
    cases hb
  | cons a as ih =>
    obtain ⟨c, hc, h⟩ := result_bind_eq_ok_iff.1 h
    obtain ⟨cs, hcs, h⟩ := result_bind_eq_ok_iff.1 h
    cases h
    rcases List.mem_cons.1 hb with rfl | hb
    · exact ⟨a, List.mem_cons_self, hc⟩
    · obtain ⟨d, hd, hread⟩ := ih hcs hb
      exact ⟨d, List.mem_cons_of_mem a hd, hread⟩

end Attempt

/-! ## Listings of ports -/

theorem DataType.value_ofEntry_name (type : DataType) : (ofEntry (.str type.name)).value = type := by
  cases type <;> rfl

theorem Port.value_ofEntry_toJson (p : Port) : (ofEntry p.toJson).value = .valid p := by
  obtain ⟨binding, value, dataType⟩ := p
  cases binding <;> cases dataType <;> rfl

namespace Listing

variable {α : Type}

/-- A listing whose names are texts. -/
def named (entries : List (String × α)) : Listing α :=
  entries.map fun e => (.str e.1, e.2)

theorem put_named {entries : List (String × α)} {name : String} (h : name ∉ entries.map Prod.fst)
    (a : α) : (named entries).put (.str name) a = named (entries ++ [(name, a)]) := by
  have hany : (named entries).any (·.1.same (.str name)) = false := by
    rw [List.any_eq_false]
    intro e he hsame
    obtain ⟨x, hx, rfl⟩ := List.mem_map.1 he
    have heq : x.1 = name := by simpa [Json.same] using hsame
    exact h (heq ▸ List.mem_map_of_mem hx)
  rw [put, hany, if_neg Bool.false_ne_true, named, named, List.map_append]
  rfl

theorem not_mem_of_nodup {read entries : List (String × α)} {e : String × α}
    (h : ((read ++ e :: entries).map Prod.fst).Nodup) : e.1 ∉ read.map Prod.fst := by
  rw [List.map_append, List.map_cons] at h
  exact fun hmem => (List.nodup_append.1 h).2.2 e.1 hmem e.1 List.mem_cons_self rfl

/-- Input ports under distinct names, each of which is read as it is, are read after those that were
read. -/
theorem result_inputs_go {write : String → Port → Json} (entries read : List (String × Port))
    (hwrite : ∀ e ∈ entries, (Port.ofEntry (write e.1 e.2)).value = .valid e.2)
    (hnd : ((read ++ entries).map Prod.fst).Nodup) :
    (inputs.go (named read) (entries.map fun e => (.str e.1, write e.1 e.2))).result =
      .ok (.valid (named (read ++ entries))) := by
  -- the names that were read grow along the entries, and stay distinct from those to come
  induction entries generalizing read with
  | nil =>
    rw [List.append_nil]
    rfl
  | cons e entries ih =>
    have hentry : (Attempt.ofLogged (Port.ofEntry (write e.1 e.2))).result = .ok (.valid e.2) :=
      congrArg Except.ok (hwrite e List.mem_cons_self)
    have hput := put_named (not_mem_of_nodup hnd) e.2
    rw [List.append_cons] at hnd ⊢
    rw [List.map_cons, inputs.go, Attempt.result_bind_of_ok hentry]
    simp only [Json.isScalar, ite_true]
    rw [hput, ih _ (fun x hx => hwrite x (List.mem_cons_of_mem _ hx)) hnd]

/-- Names of types under distinct names are read as the types, after those that were read. -/
theorem result_outputs_go (entries read : List (String × DataType))
    (hnd : ((read ++ entries).map Prod.fst).Nodup) :
    (outputs.go (named read) (entries.map fun e => (.str e.1, .str e.2.name))).result =
      .ok (named (read ++ entries)) := by
  induction entries generalizing read with
  | nil =>
    rw [List.append_nil]
    rfl
  | cons e entries ih =>
    have hentry : (Attempt.ofLogged (DataType.ofEntry (.str e.2.name))).result = .ok e.2 :=
      congrArg Except.ok (DataType.value_ofEntry_name e.2)
    have hput := put_named (not_mem_of_nodup hnd) e.2
    rw [List.append_cons] at hnd ⊢
    rw [List.map_cons, outputs.go, Attempt.result_bind_of_ok hentry]
    simp only [Json.isScalar, ite_true]
    rw [hput, ih _ hnd]

/-- Input ports that are written under their names in an object are read back. -/
theorem result_inputs_obj (write : String → Port → Json) {t : Table Port}
    (hwrite : ∀ e ∈ t.entries, (Port.ofEntry (write e.1 e.2)).value = .valid e.2) :
    (inputs (.obj (t.entries.map fun e => (e.1, write e.1 e.2)))).result =
      .ok (.valid (ofTable t)) := by
  have hgo := result_inputs_go t.entries [] hwrite t.nodup
  have hentries : (Attempt.ofLogged (entries "input"
      (.obj (t.entries.map fun e => (e.1, write e.1 e.2))))).result =
        .ok (t.entries.map fun e => (.str e.1, write e.1 e.2)) := by
    simp [entries]
  rw [inputs, Attempt.result_bind_of_ok hentries]
  exact hgo

theorem result_outputs_obj (t : Table DataType) :
    (outputs (.obj (t.entries.map fun e => (e.1, .str e.2.name)))).result = .ok (ofTable t) := by
  have hgo := result_outputs_go t.entries [] t.nodup
  have hentries : (Attempt.ofLogged (entries "output"
      (.obj (t.entries.map fun e => (e.1, .str e.2.name))))).result =
        .ok (t.entries.map fun e => (.str e.1, .str e.2.name)) := by
    simp [entries]
  rw [outputs, Attempt.result_bind_of_ok hentries]
  exact hgo

theorem checkedNames_named (entries : List (String × α)) :
    checkedNames (named entries) = .valid entries := by
  induction entries with
  | nil => rfl
  | cons e entries ih =>
    rw [named] at ih ⊢
    rw [List.map_cons, checkedNames, ih]
    rfl

theorem toTable_ofTable (t : Table α) : (ofTable t).toTable = .valid t := by
  have h : checkedNames (ofTable t) = .valid t.entries := checkedNames_named t.entries
  rw [toTable, h, Checked.map, Table.ofList_entries]

end Listing

/-! ## Nodes -/

namespace Node

theorem result_announceConfig (kind : String) (data : Json) :
    (announceConfig (.str kind) data).result = .ok () := by
  unfold announceConfig
  split <;> rfl

/-- Where both listings are objects that are read as tables, a node is read if its fields are. -/
theorem result_ofFields_of_listings (fields : Json.Fields) {listed types : Json.Fields}
    {kind : String} {inputs : Table Port} {outputs : Table DataType}
    (hkind : fields.getD "kind" = .str kind)
    (hinputs : fields.getD "inputs" = .obj listed) (houtputs : fields.getD "outputs" = .obj types)
    (hlisted : (Listing.inputs (.obj listed)).result = .ok (.valid (Listing.ofTable inputs)))
    (htypes : (Listing.outputs (.obj types)).result = .ok (Listing.ofTable outputs)) :
    (ofFields fields).result =
      .ok (check fields (Listing.ofTable inputs) (Listing.ofTable outputs)) := by
  have hports : (listedInputs (.str kind) (.obj listed)).result =
      .ok (.valid (Listing.ofTable inputs)) := hlisted
  have hlistedOutputs : (listedOutputs (.str kind) (.obj types)).result =
      .ok (Listing.ofTable outputs) := htypes
  have hconfig := result_announceConfig kind (fields.getD "config")
  unfold ofFields
  simp only [hkind, hinputs, houtputs]
  rw [Attempt.result_bind_of_ok hports, Attempt.result_bind_of_ok hlistedOutputs,
    Attempt.result_bind_of_ok hconfig, Attempt.result_pure]

/-- The settings of a node are made from their fields. -/
theorem value_configured {vocabulary : Vocabulary} (h : vocabulary ≠ .wire) (n : Node) :
    (configured n.kind
      ((n.config.map fun c => Json.obj (c.toFields vocabulary)).getD .null)).value = n.config := by
  cases hc : n.config with
  | none => rfl
  | some c =>
    rw [← n.config_kind c hc]
    exact NodeConfig.create_toFields h c

theorem make_eq_self {n : Node} {data : Json} (h : (configured n.kind data).value = n.config) :
    (make n.id n.kind n.position n.label n.description data n.inputs n.outputs).value = n := by
  cases n
  simp only [make]
  congr

/-- A node is read from its fields, however its settings and its input ports are written. -/
theorem result_ofFields_written (n : Node) {config : Json} {write : String → Port → Json}
    (hconfig : (configured n.kind config).value = n.config)
    (hwrite : ∀ e ∈ n.inputs.entries, (Port.ofEntry (write e.1 e.2)).value = .valid e.2) :
    (ofFields [("id", .str n.id), ("kind", .str n.kind), ("position", n.position.toJson),
      ("label", .str n.label), ("description", .str n.description), ("config", config),
      ("inputs", .obj (n.inputs.entries.map fun e => (e.1, write e.1 e.2))),
      ("outputs", tableJson (fun type => .str type.name) n.outputs)]).result = .ok (.valid n) := by
  have hinputs := Listing.result_inputs_obj write hwrite
  have houtputs := Listing.result_outputs_obj n.outputs
  rw [result_ofFields_of_listings _ rfl rfl rfl hinputs houtputs, check, Listing.toTable_ofTable,
    Listing.toTable_ofTable]
  exact congrArg (fun m => Except.ok (Checked.valid m)) (make_eq_self hconfig)

end Node

/-! ## Edges -/

namespace Edge

theorem preparedKind_name (kind : EdgeKind) : preparedKind (.str kind.name) = .valid kind := by
  cases kind <;> rfl

theorem choice_name (kind : EdgeKind) :
    Schema.choice EdgeKind.ofName? (EdgeKind.all.map EdgeKind.name) (.str kind.name) =
      .valid kind := by
  cases kind <;> rfl

theorem nullable_ofText? (s? : Option String) :
    Schema.nullable Schema.text (.ofText? s?) = .valid s? := by
  cases s? <;> rfl

/-- An edge is read if its fields are, where its payload is an object that is not empty. -/
theorem result_ofFields_of_payload (fields : Json.Fields) (kind : EdgeKind) {data : Json.Fields}
    (hkind : fields.getD "kind" = .str kind.name) (hdata : fields.getD "data" = .obj data)
    (hne : data ≠ []) : (ofFields fields).result = .ok (check fields data) := by
  have hvoid : (Json.obj data).isVoid = false := List.isEmpty_eq_false_iff.2 hne
  have hpayload : (payload (.obj data)).result = .ok (.valid data) := by
    rw [payload, hvoid]
    rfl
  unfold ofFields
  simp only [hkind, hdata, preparedKind_name]
  rw [Attempt.result_bind_of_ok hpayload]
  rfl

/-- The settings of an edge are those of its kind. -/
theorem name_variant {e : Edge} {c : EdgeConfig} (hc : e.config = some c) :
    c.variant.kind.name = e.kind.name := by
  apply EdgeVariant.name_of_ofKind?
  rw [← e.config_kind, hc, Option.map_some]

/-- The settings of an edge are made from their fields; its condition is not looked at then. An edge
without settings is of a kind that has none. -/
theorem value_configured (vocabulary : Vocabulary) (condition : Json) (e : Edge) :
    (configured e.kind condition
      ((e.config.map fun c => Json.obj (c.toFields vocabulary)).getD .null)).value = e.config := by
  cases hc : e.config with
  | none =>
    have hvariant : EdgeVariant.ofKind? e.kind.name = none := by
      rw [← e.config_kind, hc]
      rfl
    have hcreate := EdgeConfig.variant_create e.kind.name (configData e.kind condition .null)
    rw [hvariant, Option.map_eq_none_iff] at hcreate
    exact hcreate
  | some c =>
    rw [configured, ← name_variant hc]
    exact EdgeConfig.create_toFields vocabulary c

theorem make_eq_self {e : Edge} {data : Json}
    (h : (configured e.kind (.ofText? e.condition) data).value = e.config) :
    (make e.id e.source e.target e.kind e.label e.condition data e.animated e.style).value = e := by
  cases e
  simp only [make]
  congr

/-- An edge is read from its fields, however its settings are written. -/
theorem result_ofFields_written (e : Edge) {config : Json}
    (hconfig : (configured e.kind (.ofText? e.condition) config).value = e.config) :
    (ofFields [("id", .str e.id), ("source", .str e.source), ("target", .str e.target),
      ("kind", .str e.kind.name),
      ("data", .obj [("label", .ofText? e.label), ("condition", .ofText? e.condition),
        ("config", config)]),
      ("animated", .bool e.animated), ("style", .obj e.style)]).result = .ok (.valid e) := by
  rw [result_ofFields_of_payload _ e.kind rfl rfl (List.cons_ne_nil _ _), check, ofPayload, ofPayload,
    Schema.optional_of_get? rfl (choice_name e.kind),
    Schema.optional_of_get? rfl (nullable_ofText? e.label),
    Schema.optional_of_get? rfl (nullable_ofText? e.condition)]
  exact congrArg (fun f => Except.ok (Checked.valid f)) (make_eq_self hconfig)

end Edge

end WorkflowGraph
