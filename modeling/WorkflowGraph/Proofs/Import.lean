import WorkflowGraph.Proofs.RoundTrip
import WorkflowGraph.Proofs.Spec.Draft
import WorkflowGraph.Proofs.Spec.Form

/-!
# Importing specs

A document that has the form of a spec is read as a workflow, whatever it says; any other is reported
to have the wrong format, and nothing else goes wrong. Documents that are written have this form. Main
statements: `ofSpecDocument_total` and `ofSpecDocument_of_toSpecDocument`.
-/

namespace WorkflowGraph

namespace Workflow

/-- A document is read if its spec is; what is made of the spec cannot fail. -/
theorem result_ofSpecDocument_eq (s : Surroundings) (settings : Settings) (document : Json) :
    (ofSpecDocument s (.ok settings) document).result =
      (Spec.ofDocument document).map fun spec => (spec.toWorkflow s settings).value := by
  rw [ofSpecDocument, Attempt.result_bind_of_ok (Attempt.result_ofExcept _), Attempt.result_bind,
    Attempt.result_ofExcept]
  cases Spec.ofDocument document <;> rfl

/-- A document is read as a workflow exactly if it has the form of a spec, and otherwise it is reported
to have the wrong format. The workflow is the one that the validating readers make of what it is
assembled from, and settings are given to no kind that has none. -/
theorem ofSpecDocument_total (s : Surroundings) (settings : Settings) (document : Json) :
    ((∃ w, (ofSpecDocument s (.ok settings) document).result = .ok w) ↔ document.IsSpec) ∧
    (∀ fault, (ofSpecDocument s (.ok settings) document).result = .error fault →
      ∃ report, fault.report? = some report ∧ report.family = .specFormat) ∧
    ∀ w, (ofSpecDocument s (.ok settings) document).result = .ok w →
      ∃ spec, Spec.ofDocument document = .ok spec ∧
        (ofFields s (spec.draft s settings)).result = .ok (.valid w) ∧
        ∀ n ∈ spec.orderedNodes, n.settings (NodeKind.currentName n.type) ≠ .null →
          (NodeVariant.ofKind? (NodeKind.currentName n.type)).isSome = true := by
  rw [← Spec.exists_ofDocument_iff, result_ofSpecDocument_eq]
  cases hread : Spec.ofDocument document with
  | ok spec =>
    refine ⟨iff_of_true ⟨_, rfl⟩ ⟨spec, rfl⟩, ?_, ?_⟩
    · intro fault h
      cases h
    · intro w h
      cases h
      exact ⟨spec, rfl, Spec.result_ofFields_draft s settings spec,
        fun n _ h => Spec.isSome_ofKind?_of_settings h⟩
  | error fault =>
    refine ⟨iff_of_false ?_ ?_, ?_, ?_⟩
    · rintro ⟨w, h⟩
      cases h
    · rintro ⟨spec, h⟩
      cases h
    · intro _ h
      cases h
      exact Spec.specFormat_of_ofDocument hread
    · intro w h
      cases h

/-- A document of which nothing but the form is right: a kind and a type that are not known, an edge
from a start that is missing to a node that is missing, and details that no edge has. -/
example : (ofSpecDocument ⟨noon, "0001"⟩ (.ok {}) (.obj [
    ("nodes", .arr [.obj [("id", .str "a"), ("type", .str "robot"),
      ("inputs", .obj [("arm", .str "$b.9")]), ("outputs", .obj [("grip", .str "firmness")])]]),
    ("edges", .arr [.obj [("from", .str "__start__"),
      ("to", .obj [("nodes", .arr [.str "c"])])]]),
    ("metadata", .obj [("edge_details", .arr [.obj [("source", .str "x"), ("target", .str "y"),
      ("kind", .str "dotted")]])])])).result.map (fun w => w.edges.map Edge.route) =
    .ok [⟨"__start__", "c", false, none⟩] := by
  rfl

/-- Every document of a workflow has the form of a spec and is read as a workflow. A workflow that can
be written has a document. -/
theorem ofSpecDocument_of_toSpecDocument (w : Workflow) (now : Timestamp) (settings : Settings)
    (shape : Shape) :
    (∀ document, (w.toSpecDocument now settings shape).result = .ok document →
      document.IsSpec ∧ ∀ s settings', ∃ r,
        (ofSpecDocument s (.ok settings') document).result = .ok r) ∧
    (w.IsWritable → ∃ document, (w.toSpecDocument now settings shape).result = .ok document) := by
  refine ⟨fun document h => ?_, fun h => h.exists_document now settings shape⟩
  obtain ⟨-, -, rfl⟩ := result_toSpecDocument_eq_ok_iff.1 h
  refine ⟨(Spec.exists_ofDocument_iff _).1 ⟨_, Spec.ofDocument_toJson _⟩, fun s settings' => ?_⟩
  exact ⟨_, Spec.result_ofSpecDocument_toJson s settings' _⟩

/-- The questions in places that are no points of the canvas. -/
def adrift : Workflow :=
  { questions with nodes := questions.nodes.map fun n => n.moveTo ⟨.infinite false, .nan false⟩ }

theorem ofSpecDocument_of_toSpecDocument_adrift :
    ∃ document r, (adrift.toSpecDocument noon {} .simple).result = .ok document ∧
      document.IsSpec ∧ (ofSpecDocument ⟨noon, "0001"⟩ (.ok {}) document).result = .ok r := by
  have h := ofSpecDocument_of_toSpecDocument adrift noon {} .simple
  obtain ⟨document, hdocument⟩ := h.2 (by decide)
  obtain ⟨hform, hread⟩ := h.1 document hdocument
  obtain ⟨r, hr⟩ := hread ⟨noon, "0001"⟩ {}
  exact ⟨document, r, hdocument, hform, hr⟩

end Workflow

end WorkflowGraph
