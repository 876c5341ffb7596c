import WorkflowGraph.Proofs.Reading
import WorkflowGraph.Proofs.Spec.Document

/-!
# Fields that are read and changed

A node and an edge have the ids they are read with. A change of some of their fields sets the new
fields over those they have and reads the whole again; so what is not named by the change stays as it
is. Main statements: `Node.id_update`, `Node.kind_update` and `Edge.id_update`.
-/

namespace WorkflowGraph

/-! ## Fields that are set -/

namespace Json.Fields

theorem get?_set_of_ne {fields : Fields} {key other : String} (h : other ≠ key) (value : Json) :
    (fields.set key value).get? other = fields.get? other := by
  unfold set
  split
  · clear * - h
    induction fields with
    | nil => rfl
    | cons f fields ih =>
      rw [List.map_cons, get?_cons, get?_cons, ih]
      by_cases hf : f.1 = key
      · simp [hf, h.symm]
      · simp [hf]
  · simp [h.symm]

theorem get?_merge {fields changes : Fields} {key : String} (h : changes.has key = false) :
    (fields.merge changes).get? key = fields.get? key := by
  unfold merge
  induction changes generalizing fields with
  | nil => rfl
  | cons f changes ih =>
    simp only [has, List.any_cons, Bool.or_eq_false_iff, beq_eq_false_iff_ne] at h
    rw [List.foldl_cons, ih h.2, get?_set_of_ne (Ne.symm h.1)]

theorem get?_eq_none_of_has {fields : Fields} {key : String} (h : fields.has key = false) :
    fields.get? key = none := by
  rw [get?, Option.map_eq_none_iff, List.find?_eq_none]
  intro f hf heq
  have hhas : fields.has key = true := List.any_eq_true.2 ⟨f, hf, heq⟩
  rw [h] at hhas
  cases hhas

theorem get?_set_self (fields : Fields) (key : String) (value : Json) :
    (fields.set key value).get? key = some value := by
  unfold set
  split
  · next h =>
    induction fields with
    | nil => cases h
    | cons f fields ih =>
      rw [List.map_cons, get?_cons]
      by_cases hf : f.1 = key
      · simp [hf]
      · have hrest : has fields key = true := by simpa [has, hf] using h
        simpa [hf] using ih hrest
  · next h =>
    have hnone := get?_eq_none_of_has (Bool.not_eq_true _ ▸ h)
    simp [hnone]

/-- A key that is set has one of the values that are set under it. -/
theorem exists_get?_merge (fields : Fields) {changes : Fields} {key : String}
    (h : changes.has key = true) :
    ∃ value, (key, value) ∈ changes ∧ (fields.merge changes).get? key = some value := by
  induction changes generalizing fields with
  | nil => cases h
  | cons f changes ih =>
    -- the last change under the key is the one that stays
    cases hrest : has changes key with
    | true =>
      obtain ⟨value, hvalue, hget⟩ := ih (fields.set f.1 f.2) hrest
      exact ⟨value, List.mem_cons_of_mem _ hvalue, hget⟩
    | false =>
      have hf : f.1 = key := by
        rw [has, List.any_cons, Bool.or_eq_true] at h
        exact beq_iff_eq.1 (h.resolve_right (Bool.not_eq_true _ ▸ hrest))
      subst hf
      exact ⟨f.2, List.mem_cons_self, (get?_merge hrest).trans (get?_set_self fields f.1 f.2)⟩

theorem eq_of_mem_set {fields : Fields} {key : String} {value other : Json}
    (h : (key, other) ∈ fields.set key value) : other = value := by
  unfold set at h
  split at h
  · obtain ⟨f, -, hf⟩ := List.mem_map.1 h
    split at hf
    · exact (congrArg Prod.snd hf).symm
    · next hne => exact absurd (congrArg Prod.fst hf) (by simpa using hne)
  · next hnone =>
    rcases List.mem_append.1 h with hmem | hmem
    · exact absurd (List.any_eq_true.2 ⟨_, hmem, beq_self_eq_true key⟩) hnone
    · exact congrArg Prod.snd (List.mem_singleton.1 hmem)

/-- A field that is set among the changes is set by them. -/
theorem get?_merge_set (fields changes : Fields) (key : String) (value : Json) :
    (fields.merge (changes.set key value)).get? key = some value := by
  have hhas : (changes.set key value).has key = true := by
    rw [← Bool.not_eq_false]
    intro hnot
    have hget := get?_set_self changes key value
    rw [get?_eq_none_of_has hnot] at hget
    cases hget
  obtain ⟨other, hmem, hget⟩ := exists_get?_merge fields hhas
  rw [hget, eq_of_mem_set hmem]

end Json.Fields

theorem Schema.required_congr {α : Type} {fields fields' : Json.Fields} {key : String}
    (h : fields.get? key = fields'.get? key) (check : Json → Checked α) :
    required fields [key] check = required fields' [key] check := by
  simp only [required, lookup?, h]

theorem Attempt.eq_valid_of_ofChecked {α : Type} {record : String} {x : Checked α} {a : α}
    (h : (ofChecked record x).result = .ok a) : x = .valid a := by
  cases x with
  | invalid violations => cases h
  | valid b =>
    cases h
    rfl

theorem Attempt.eq_valid_of_validated {α : Type} {record : String} {x : Attempt (Checked α)} {a : α}
    (h : (validated record x).result = .ok a) : x.result = .ok (.valid a) := by
  obtain ⟨read, hread, h⟩ := result_bind_eq_ok_iff.1 h
  rwa [eq_valid_of_ofChecked h] at hread

/-! ## Nodes -/

namespace Node

variable {fields changes : Json.Fields} {n m : Node}

theorem fields_of_check {inputs : Listing Port} {outputs : Listing DataType}
    (h : check fields inputs outputs = .valid n) :
    Schema.required fields ["id"] Schema.text = .valid n.id ∧
      Schema.required fields ["kind"] Schema.text = .valid n.kind ∧
      n.config = (configured n.kind (fields.getD "config")).value := by
  obtain ⟨_, outputTable, hinputs, -, rfl⟩ := Checked.exists_of_seq h
  obtain ⟨_, inputTable, hdescription, -, rfl⟩ := Checked.exists_of_seq hinputs
  obtain ⟨_, description, hlabel, -, rfl⟩ := Checked.exists_of_seq hdescription
  obtain ⟨_, label, hposition, -, rfl⟩ := Checked.exists_of_seq hlabel
  obtain ⟨_, position, hkind, -, rfl⟩ := Checked.exists_of_seq hposition
  obtain ⟨_, kind, hfirst, hname, rfl⟩ := Checked.exists_of_seq hkind
  obtain ⟨id, hid, rfl⟩ := Checked.exists_of_map hfirst
  exact ⟨hid, hname, rfl⟩

/-- A node has the id and the kind that it is read with, and its settings are made for the kind. -/
theorem fields_of_ofFields (h : (ofFields fields).result = .ok (.valid n)) :
    Schema.required fields ["id"] Schema.text = .valid n.id ∧
      Schema.required fields ["kind"] Schema.text = .valid n.kind ∧
      n.config = (configured n.kind (fields.getD "config")).value := by
  obtain ⟨inputs, -, h⟩ := Attempt.result_bind_eq_ok_iff.1 h
  cases inputs with
  | invalid violations => cases h
  | valid inputs =>
    obtain ⟨outputs, -, h⟩ := Attempt.result_bind_eq_ok_iff.1 h
    obtain ⟨_, -, h⟩ := Attempt.result_bind_eq_ok_iff.1 h
    exact fields_of_check (Except.ok.inj h)

theorem id_update (h : (n.update changes).result = .ok m) (hid : changes.has "id" = false) :
    m.id = n.id := by
  have hread := (fields_of_ofFields (Attempt.eq_valid_of_validated h)).1
  rw [Schema.required_congr (Json.Fields.get?_merge hid)] at hread
  exact (Checked.valid.inj hread).symm

theorem kind_update (h : (n.update changes).result = .ok m) (hkind : changes.has "kind" = false) :
    m.kind = n.kind := by
  have hread := (fields_of_ofFields (Attempt.eq_valid_of_validated h)).2.1
  rw [Schema.required_congr (Json.Fields.get?_merge hkind)] at hread
  exact (Checked.valid.inj hread).symm

end Node

/-! ## Edges -/

namespace Edge

variable {fields changes : Json.Fields} {e f : Edge}

/-- What an edge has from its fields and from its payload. -/
theorem fields_of_check {payload : Json.Fields} (h : check fields payload = .valid e) :
    Schema.required fields ["id"] Schema.text = .valid e.id ∧
      Schema.optional fields ["kind"] .plain
        (Schema.choice EdgeKind.ofName? (EdgeKind.all.map EdgeKind.name)) = .valid e.kind ∧
      ofPayload payload "condition" none (Schema.nullable Schema.text) = .valid e.condition ∧
      e.config = (configured e.kind (.ofText? e.condition) (payload.getD "config")).value := by
  obtain ⟨_, style, hanimated, -, rfl⟩ := Checked.exists_of_seq h
  obtain ⟨_, animated, hconditionField, -, rfl⟩ := Checked.exists_of_seq hanimated
  obtain ⟨_, condition, hlabel, hcondition, rfl⟩ := Checked.exists_of_seq hconditionField
  obtain ⟨_, label, hkindField, -, rfl⟩ := Checked.exists_of_seq hlabel
  obtain ⟨_, kind, htarget, hkind, rfl⟩ := Checked.exists_of_seq hkindField
  obtain ⟨_, target, hsource, -, rfl⟩ := Checked.exists_of_seq htarget
  obtain ⟨_, source, hfirst, -, rfl⟩ := Checked.exists_of_seq hsource
  obtain ⟨id, hid, rfl⟩ := Checked.exists_of_map hfirst
  exact ⟨hid, hkind, hcondition, rfl⟩

/-- An edge is read if its payload is and its fields are. -/
theorem exists_check_of_ofFields (h : (ofFields fields).result = .ok (.valid e)) :
    ∃ read, (payload (fields.getD "data")).result = .ok (.valid read) ∧
      check fields read = .valid e := by
  unfold ofFields at h
  split at h
  · cases h
  · obtain ⟨read, hread, h⟩ := Attempt.result_bind_eq_ok_iff.1 h
    cases read with
    | invalid violations => cases h
    | valid read =>
      obtain ⟨_, -, h⟩ := Attempt.result_bind_eq_ok_iff.1 h
      exact ⟨read, hread, Except.ok.inj h⟩

/-- An edge has the id that it is read with. -/
theorem required_of_ofFields (h : (ofFields fields).result = .ok (.valid e)) :
    Schema.required fields ["id"] Schema.text = .valid e.id := by
  obtain ⟨_, -, hcheck⟩ := exists_check_of_ofFields h
  exact (fields_of_check hcheck).1

/-- An edge is made only for an id that is a text, and has it. -/
theorem eq_id_of_ofJson {id : Json} (h : (ofJson (.obj (("id", id) :: fields))).result = .ok e) :
    id = .str e.id := by
  have hread : Schema.required (("id", id) :: fields) ["id"] Schema.text = .valid e.id :=
    required_of_ofFields (Attempt.eq_valid_of_validated h)
  cases id with
  | str s => exact congrArg Json.str (Checked.valid.inj hread)
  | _ => cases hread

theorem id_update (h : (e.update changes).result = .ok f) (hid : changes.has "id" = false) :
    f.id = e.id := by
  have hread := required_of_ofFields (Attempt.eq_valid_of_validated h)
  rw [Schema.required_congr (Json.Fields.get?_merge hid)] at hread
  exact (Checked.valid.inj hread).symm

end Edge

end WorkflowGraph
