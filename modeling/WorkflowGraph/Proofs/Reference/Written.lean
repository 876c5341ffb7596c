import WorkflowGraph.Proofs.RoundTrip
import WorkflowGraph.Proofs.Spec.RenamedGroups

/-!
# References that are written

References are written in three places: they are offered as candidates, a port is connected to an
output, and a renaming redirects them. What is written is read as a reference to the node exactly if
the id of the node can be the head of one, which nothing requires of ids. Main statement:
`refersTo_written_iff`.
-/

namespace WorkflowGraph

namespace Reference

/-- An id that can be the head of a reference: it has no dot, and settings are not named by it. -/
def IsNameable (id : String) : Prop :=
  '.' ∉ id.toList ∧ id ≠ "config"

instance (id : String) : Decidable (IsNameable id) :=
  inferInstanceAs (Decidable ('.' ∉ id.toList ∧ id ≠ "config"))

/-- A port made of the value is bound to an output of the node of an id, which is one of the nodes. -/
@[mk_iff]
structure RefersTo (nodes : List Node) (id : String) (v : Json) : Prop where
  binding_eq : (Port.ofRaw v none).binding = .connection
  isForeign_eq : isForeign nodes v = true
  head_eq : v.referenceHead? = some id

instance (nodes : List Node) (id : String) (v : Json) : Decidable (RefersTo nodes id v) :=
  decidable_of_iff' _ (refersTo_iff nodes id v)

variable {id : String}

theorem isTemplate_make (h : IsNameable id) (output : String) :
    isTemplate (make id output) = false := by
  rw [← Bool.not_eq_true, isTemplate_iff_head?, head?_make h.1]
  exact fun heq => h.2 (Option.some.inj heq)

theorem bindingOf_make (h : IsNameable id) (output : String) :
    Port.bindingOf (.str (make id output)) = .connection := by
  have htemplate : (Json.str (make id output)).isTemplate = false := isTemplate_make h output
  have hhead : (Json.str (make id output)).referenceHead? = some id := head?_make h.1 output
  rw [Port.bindingOf, htemplate, hhead]
  rfl

/-- The head of a reference that is bound to an output can be the id of a node. -/
theorem isNameable_of_bindingOf {v : Json} (hbinding : Port.bindingOf v = .connection)
    (hhead : v.referenceHead? = some id) : IsNameable id := by
  cases v with
  | str s =>
    refine ⟨(head?_eq_some_iff.1 hhead).1, ?_⟩
    rintro rfl
    have htemplate : (Json.str s).isTemplate = true := isTemplate_iff_head?.2 hhead
    rw [Port.bindingOf, htemplate] at hbinding
    cases hbinding
  | _ => cases hhead

theorem isForeign_of_mem {nodes : List Node} {n : Node} (hn : n ∈ nodes) {v : Json}
    (hhead : v.referenceHead? = some n.id) : isForeign nodes v = true := by
  rw [isForeign, hhead, Option.any_some, List.any_eq_true]
  exact ⟨n, hn, beq_iff_eq.2 rfl⟩

/-- The reference to an output of a node is read as one exactly if the id of the node can be a head. -/
theorem refersTo_make_iff {nodes : List Node} {n : Node} (hn : n ∈ nodes) (output : String) :
    RefersTo nodes n.id (.str (make n.id output)) ↔ IsNameable n.id := by
  constructor
  · exact fun h => isNameable_of_bindingOf h.binding_eq h.head_eq
  · intro h
    have hhead : (Json.str (make n.id output)).referenceHead? = some n.id := head?_make h.1 output
    exact ⟨bindingOf_make h output, isForeign_of_mem hn hhead, hhead⟩

end Reference

/-! ## Where references are written -/

namespace Workflow

variable {v w : Workflow}

/-- The references that a node may use are those to all outputs in effect of all other nodes. -/
theorem mem_candidates {except : Option String} {n : Node} (hn : n ∈ w.nodes)
    (hexcept : except ≠ some n.id) {e : String × DataType} (he : e ∈ n.allOutputs.entries) :
    (Reference.make n.id e.1, e.2) ∈ w.candidates except := by
  refine List.mem_flatMap.2 ⟨n, List.mem_filter.2 ⟨hn, ?_⟩, List.mem_map_of_mem he⟩
  exact bne_iff_ne.2 hexcept.symm

/-- A port that is bound to the old id is given a reference to the new one. -/
theorem value_redirected {old : String} (new : String) {p : Port}
    (h : Node.portRefersTo old p = true) :
    ∃ output, (p.redirected old new).value = .str (Reference.make new output) := by
  have hhead := h
  rw [Node.portRefersTo, Bool.and_eq_true, beq_iff_eq] at hhead
  rw [Port.redirected, if_pos h, Port.withReference]
  cases hv : p.value with
  | str s => exact ⟨Reference.tail s, rfl⟩
  | _ =>
    rw [hv] at hhead
    cases hhead.2

theorem binding_redirected (old new : String) (p : Port) :
    (p.redirected old new).binding = p.binding := by
  unfold Port.redirected
  split <;> rfl

/-- Every reference that is written to an output of a node is read as a reference to this node exactly
if its id has no dot and is not the one by which settings are named. Such references are offered for
each output in effect, stand in a port that is connected to the node, and are put into the ports that
refer to a node which is given this id. -/
theorem refersTo_written_iff {n : Node} (hn : n ∈ w.nodes) :
    (∀ except ≠ some n.id, ∀ e ∈ n.allOutputs.entries,
      (Reference.make n.id e.1, e.2) ∈ w.candidates except ∧
        (Reference.RefersTo w.nodes n.id (.str (Reference.make n.id e.1)) ↔
          Reference.IsNameable n.id)) ∧
    (∀ output type, Reference.RefersTo w.nodes n.id (Port.connectTo n.id output type).value ↔
      Reference.IsNameable n.id) ∧
    ∀ v now old, renameNode now v old n.id = .ok w → old ≠ n.id →
      ∀ m ∈ v.nodes, ∀ e ∈ m.inputs.entries, Node.portRefersTo old e.2 = true →
        ∃ q, renamedNode old n.id m ∈ w.nodes ∧ (e.1, q) ∈ (renamedNode old n.id m).inputs.entries ∧
          q.binding = .connection ∧
          (Reference.RefersTo w.nodes n.id q.value ↔ Reference.IsNameable n.id) := by
  refine ⟨fun except hexcept e he => ?_, fun output type => Reference.refersTo_make_iff hn output, ?_⟩
  · exact ⟨mem_candidates hn hexcept he, Reference.refersTo_make_iff hn e.1⟩
  · intro v now old h hne m hm e he hrefers
    obtain ⟨output, hvalue⟩ := value_redirected n.id hrefers
    -- the port is the one of the former node, with the head of its reference replaced
    refine ⟨e.2.redirected old n.id, ?_, ?_, ?_, ?_⟩
    · obtain ⟨-, ⟨hsame, -⟩ | ⟨-, rfl⟩⟩ := renameNode_eq_ok_iff.1 h
      · exact absurd hsame hne
      · exact List.mem_map_of_mem hm
    · rw [inputs_renamedNode]
      exact List.mem_map.2 ⟨e, he, rfl⟩
    · rw [Node.portRefersTo, Bool.and_eq_true, decide_eq_true_eq] at hrefers
      rw [binding_redirected, hrefers.1]
    · rw [hvalue]
      exact Reference.refersTo_make_iff hn output

/-- The node of a question is renamed; the answer refers to it by its new id. -/
theorem refersTo_written_iff_questions :
    ∃ w n, questions.renameNode noon "ask" "question" = .ok w ∧ n ∈ w.nodes ∧ n.id = "question" ∧
      ("$question.value", .string) ∈ w.candidates none ∧
      Reference.RefersTo w.nodes n.id (Port.connectTo n.id "value" .string).value ∧
      ∃ m ∈ w.nodes, ∃ q, ("user_prompt", q) ∈ m.inputs.entries ∧ q.binding = .connection ∧
        Reference.RefersTo w.nodes n.id q.value := by
  let w := questions.renamed noon "ask" "question"
  have hn : w.nodes[1] ∈ w.nodes := List.getElem_mem _
  have hid : Reference.IsNameable w.nodes[1].id := by decide
  obtain ⟨hoffered, hconnected, hredirected⟩ := refersTo_written_iff hn
  obtain ⟨q, hm, hq, hbinding, hrefers⟩ := hredirected questions noon "ask" rfl (by decide)
    questions.nodes[2] (List.getElem_mem _) ("user_prompt", ⟨.connection, .str "$ask.0", .string⟩)
    (by decide) (by decide)
  exact ⟨w, w.nodes[1], rfl, hn, rfl, (hoffered none (by decide) ("value", .string) (by decide)).1,
    (hconnected "value" .string).2 hid, _, hm, q, hq, hbinding, hrefers.2 hid⟩

/-- The node of a question is given an id with a dot, and then one by which settings are named. -/
theorem not_refersTo_renamed_questions :
    (∃ w, questions.renameNode noon "ask" "ask.again" = .ok w ∧ "ask.again" ∈ w.nodeIds ∧
      w.unresolved = [("answer", "user_prompt", .str "$ask.again.0")] ∧
      ¬Reference.RefersTo w.nodes "ask.again" (.str "$ask.again.0")) ∧
    ∃ w, questions.renameNode noon "ask" "config" = .ok w ∧ "config" ∈ w.nodeIds ∧
      ¬Reference.RefersTo w.nodes "config" (Port.connectTo "config" "value" .string).value := by
  refine ⟨⟨_, rfl, ?_, ?_, ?_⟩, _, rfl, ?_, ?_⟩ <;> decide

end Workflow

end WorkflowGraph
