import WorkflowGraph.Proofs.Document
import WorkflowGraph.Proofs.Spec.Draft
import WorkflowGraph.Workflow.Reader

/-!
# Stored workflows that are read back

A stored workflow is read by the reader that takes every older form of nodes and edges too. What was
stored has the present form, and no part of it is taken for an older one: a port is stored with its
binding, so that the form of its value does not matter, and no default replaces a list of ports that is
empty. Main statement: `Workflow.ofJson_store`.
-/

namespace WorkflowGraph

/-! ## Nodes -/

namespace Node

/-- No number in the values of ports and among the settings is infinite or undefined. -/
@[mk_iff]
structure IsFinite (n : Node) : Prop where
  inputs_finite : ∀ e ∈ n.inputs.entries, e.2.value.isFinite = true
  settings_finite : n.HasFiniteSettings

variable {n : Node}

instance (n : Node) : Decidable n.IsFinite :=
  decidable_of_iff' _ (isFinite_iff n)

/-- A node is read from its fields. -/
theorem result_ofFields_toFields (n : Node) : (ofFields n.toFields).result = .ok (.valid n) := by
  have hvocabulary : Vocabulary.stored ≠ .wire := by decide
  exact @result_ofFields_written n _ (fun _ port => port.toJson) (value_configured hvocabulary n)
    fun e _ => Port.value_ofEntry_toJson e.2

/-- A finite node is stored as it is. -/
theorem storable_eq_self (h : n.IsFinite) : n.storable = n := by
  have hconfig : n.config.map NodeConfig.storable = n.config := by
    cases hc : n.config with
    | none => rfl
    | some c => exact congrArg some (NodeConfig.storable_of_isFinite (h.settings_finite c hc))
  have hinputs : (n.inputs.map fun _ port => port.storable) = n.inputs := by
    apply Table.map_eq_self
    intro e he
    have hvalue := Json.storable_of_isFinite e.2.value (h.inputs_finite e he)
    rw [Port.storable, hvalue]
  cases n
  simp only [storable]
  congr

/-- A finite node is read from what it is stored as. -/
theorem result_read_toJson (h : n.IsFinite) : (read n.toJson).result = .ok (.valid n) := by
  rw [toJson, storable_eq_self h]
  exact result_ofFields_toFields n

end Node

/-! ## Edges -/

namespace Edge

/-- An edge is read from its fields. -/
theorem result_ofFields_toFields (e : Edge) : (ofFields e.toFields).result = .ok (.valid e) :=
  result_ofFields_written e (value_configured .stored _ e)

/-- An edge with a finite style is read from what it is stored as. -/
theorem result_read_toJson {e : Edge} (h : Json.areFiniteFields e.style = true) :
    (read e.toJson).result = .ok (.valid e) := by
  have hstorable : e.storable = e := by
    rw [storable, Json.storableFields_of_areFinite e.style h]
  rw [toJson, hstorable]
  exact result_ofFields_toFields e

end Edge

/-! ## Workflows -/

namespace Workflow

/-- No number in ports, settings and styles is infinite or undefined, and the timestamps are read from
what they are stored as. -/
structure IsRecoverable (w : Workflow) : Prop where
  nodes_finite : ∀ n ∈ w.nodes, n.IsFinite
  styles_finite : ∀ e ∈ w.edges, Json.areFiniteFields e.style = true
  /-- The text of the time at which the workflow was made is read as that time. -/
  createdAt_read : Schema.timestamp (.str w.createdAt.stored) = .valid w.createdAt
  updatedAt_read : Schema.timestamp (.str w.updatedAt.stored) = .valid w.updatedAt

variable {w : Workflow}

theorem result_readList_map {α : Type} {read : Json → Attempt (Checked α)} {write : α → Json}
    {fields : Json.Fields} {key : String} {as : List α}
    (hget : fields.get? key = some (.arr (as.map write)))
    (h : ∀ a ∈ as, (read (write a)).result = .ok (.valid a)) :
    (readList read fields key).result = .ok (.valid as) := by
  apply Spec.result_readList fields key hget
  rw [List.forall₂_map_left_iff]
  exact List.forall₂_same.2 h

theorem result_read_toJson (h : w.IsRecoverable) (s : Surroundings) :
    (read s w.toJson).result = .ok (.valid w) := by
  obtain ⟨fields, hfields⟩ : ∃ fields : Json.Fields, w.toJson = .obj fields := ⟨_, rfl⟩
  have hnodes : (readList Node.read fields "nodes").result = .ok (.valid w.nodes) := by
    cases hfields
    exact result_readList_map rfl fun n hn => Node.result_read_toJson (h.nodes_finite n hn)
  have hedges : (readList Edge.read fields "edges").result = .ok (.valid w.edges) := by
    cases hfields
    exact result_readList_map rfl fun e he => Edge.result_read_toJson (h.styles_finite e he)
  have hcreated : Schema.optional fields ["created_at"] s.now Schema.timestamp =
      .valid w.createdAt := by
    cases hfields
    exact Schema.optional_of_get? rfl h.createdAt_read
  have hupdated : Schema.optional fields ["updated_at"] s.now Schema.timestamp =
      .valid w.updatedAt := by
    cases hfields
    exact Schema.optional_of_get? rfl h.updatedAt_read
  rw [hfields, read, ofFields, Attempt.result_bind_of_ok hnodes, Attempt.result_bind_of_ok hedges,
    hcreated, hupdated]
  cases hfields
  rfl

/-- What a workflow is stored as is read as the workflow, whatever its ids and the bindings of its ports
are, if no number in it is infinite or undefined. It can be stored unless values of ports, parameters of
tools or styles of edges are nested too deep. -/
theorem ofJson_store (h : w.IsRecoverable) (s : Surroundings) :
    ((∃ stored, w.store = .ok stored) ↔
      (∀ n ∈ w.nodes, (∀ c ∈ n.config, c.isStorable = true) ∧
        ∀ e ∈ n.inputs.entries, e.2.isStorable = true) ∧
      ∀ e ∈ w.edges, e.isStorable = true) ∧
    ∀ stored, w.store = .ok stored → (ofJson s stored).result = .ok w := by
  constructor
  · have hnode (n : Node) : n.isStorable = true ↔ (∀ c ∈ n.config, c.isStorable = true) ∧
        ∀ e ∈ n.inputs.entries, e.2.isStorable = true := by
      rw [Node.isStorable, Bool.and_eq_true, Option.all_eq_true, List.all_eq_true]
      rfl
    simp only [store, storedIf_eq_ok_iff, exists_and_left, exists_eq', and_true, isStorable,
      Bool.and_eq_true, List.all_eq_true, hnode]
  · intro stored hstored
    obtain ⟨-, rfl⟩ := storedIf_eq_ok_iff.1 hstored
    exact Attempt.result_validated_of_valid "Workflow" (result_read_toJson h s)

theorem isRecoverable_questions : questions.IsRecoverable :=
  ⟨by decide, by decide, rfl, rfl⟩

theorem ofJson_store_questions :
    ∃ stored, questions.store = .ok stored ∧ (ofJson ⟨noon, "0001"⟩ stored).result = .ok questions := by
  obtain ⟨hexists, hread⟩ := ofJson_store isRecoverable_questions ⟨noon, "0001"⟩
  obtain ⟨stored, hstored⟩ := hexists.2 (by decide)
  exact ⟨stored, hstored, hread stored hstored⟩

theorem isRecoverable_calling {value : Json} (h : value.isFinite = true) :
    (calling value).IsRecoverable := by
  have hnodes : ∀ n ∈ (calling value).nodes, n.IsFinite := by
    intro n hn
    refine ⟨?_, ((isDocumentable_calling h).nodes_documentable n hn).settings_finite⟩
    obtain rfl := List.mem_singleton.1 hn
    exact List.forall_mem_nil _
  exact ⟨hnodes, List.forall_mem_nil _, isRecoverable_questions.createdAt_read,
    isRecoverable_questions.updatedAt_read⟩

theorem store_calling (value : Json) :
    (calling value).store = storedIf value.isStorable (calling value).toJson := by
  have hstorable : (calling value).isStorable = value.isStorable := by
    show ((((value.isStorable && true) && true) && true) && true) = value.isStorable
    simp only [Bool.and_true]
  rw [store, hstorable]

/-- A value that lies in 255 lists is not stored. -/
theorem store_calling_nested :
    (calling (nested 255)).IsRecoverable ∧ (calling (nested 255)).store = .error .tooDeep := by
  refine ⟨isRecoverable_calling (isFinite_nested 255), ?_⟩
  rw [store_calling, isStorable_nested]
  rfl

end Workflow

end WorkflowGraph
