import WorkflowGraph.Proofs.Document.Form
import WorkflowGraph.Proofs.Import

/-!
# Loading documents

A document is loaded as a workflow exactly if it has the form that it is taken for. One that is not
loaded is reported to have the wrong format if it is taken for a spec or is no object; what is wrong in
an object that is taken for a graph ends in a fault without a report. Main statement: `ofDocument_outcome`.
-/

namespace WorkflowGraph

/-- The document has the form that it is taken for. -/
def Json.IsDocument (document : Json) : Prop :=
  match DocumentForm.detect document with
  | .spec => document.IsSpec
  | .graph => document.IsGraph

/-- The fault is reported, as one of a family. -/
def Fault.IsReportedAs (fault : Fault) (family : Family) : Prop :=
  ∃ report, fault.report? = some report ∧ report.family = family

namespace Fault

variable {fault : Fault} {family : Family}

theorem IsReportedAs.iff (h : fault.IsReportedAs family) (other : Family) :
    fault.IsReportedAs other ↔ family = other := by
  obtain ⟨report, hreport, hfamily⟩ := h
  simp [IsReportedAs, hreport, hfamily]

theorem IsReportedAs.ne_none (h : fault.IsReportedAs family) : fault.report? ≠ none := by
  obtain ⟨report, hreport, -⟩ := h
  simp [hreport]

theorem IsOfReading.not_isReportedAs (h : fault.IsOfReading) : ¬fault.IsReportedAs family :=
  fun hreported => hreported.ne_none h.report?_eq_none

end Fault

theorem isObject_of_detect_eq_spec {document : Json} (h : DocumentForm.detect document = .spec) :
    document.IsObject := by
  cases document with
  | obj fields => exact ⟨fields, rfl⟩
  | _ => cases h

namespace Workflow

variable (s : Surroundings) (settings : Settings)

theorem result_ofDocument_eq (document : Json) :
    (ofDocument s (.ok settings) document).result =
      match DocumentForm.detect document with
      | .spec => (Spec.ofDocument document).map fun spec => (spec.toWorkflow s settings).value
      | .graph => (ofGraphDocument s (.ok settings) document).result := by
  rw [ofDocument, Attempt.result_bind_of_ok (Attempt.result_ofLogged _)]
  cases DocumentForm.detect document with
  | spec => exact result_ofSpecDocument_eq s settings document
  | graph => rfl

/-- An object is read as a graph if it has the form of one. -/
theorem succeeds_ofGraphDocument {document : Json} (h : document.IsObject) :
    (ofGraphDocument s (.ok settings) document).Succeeds document.IsGraph := by
  obtain ⟨fields, rfl⟩ := h
  have hform : (Json.obj fields).IsGraph ↔ Document.Form fields := by
    simp [Json.IsGraph, Json.IsRecord]
  rw [hform]
  exact .bind_of_ok (Attempt.result_ofExcept _) (Document.succeeds_ofFields s settings fields)

theorem result_ofGraphDocument_of_not_isObject {document : Json} (h : ¬document.IsObject) :
    (ofGraphDocument s (.ok settings) document).result = .error (.documentNotObject document) := by
  cases document with
  | obj fields => exact absurd ⟨fields, rfl⟩ h
  | _ => rfl

/-- A document is loaded exactly if it has the form that it is taken for. If it is not loaded, it is
reported as a document of the wrong format exactly if it is no object, as a spec of the wrong format
exactly if it is taken for a spec, and otherwise it is not reported. -/
theorem ofDocument_outcome (document : Json) :
    ((∃ w, (ofDocument s (.ok settings) document).result = .ok w) ↔ document.IsDocument) ∧
      ∀ fault, (ofDocument s (.ok settings) document).result = .error fault →
        (fault.IsReportedAs .documentFormat ↔ ¬document.IsObject) ∧
        (fault.IsReportedAs .specFormat ↔ DocumentForm.detect document = .spec) ∧
        (fault.report? = none ↔ document.IsObject ∧ DocumentForm.detect document = .graph) ∧
        (fault.report? = none → fault.IsOfReading) := by
  rw [result_ofDocument_eq, Json.IsDocument]
  cases hdetect : DocumentForm.detect document with
  | spec =>
    have hobject : document.IsObject := isObject_of_detect_eq_spec hdetect
    dsimp only
    rw [← Spec.exists_ofDocument_iff]
    cases hread : Spec.ofDocument document with
    | ok spec => exact ⟨iff_of_true ⟨_, rfl⟩ ⟨spec, rfl⟩, fun fault hfault => nomatch hfault⟩
    | error other =>
      refine ⟨iff_of_false nofun nofun, fun fault hfault => ?_⟩
      obtain rfl : other = fault := Except.error.inj hfault
      have hreported : other.IsReportedAs .specFormat := Spec.specFormat_of_ofDocument hread
      simp [hreported.iff, hreported.ne_none, hobject]
  | graph =>
    by_cases hobject : document.IsObject
    · have hgraph := succeeds_ofGraphDocument s settings hobject
      refine ⟨by simpa using hgraph.exists_iff, fun fault hfault => ?_⟩
      have hreading : fault.IsOfReading := hgraph.isOfReading fault hfault
      simp [hreading, hreading.not_isReportedAs, hreading.report?_eq_none, hobject]
    · dsimp only
      rw [result_ofGraphDocument_of_not_isObject s settings hobject]
      have hform : ¬document.IsGraph := fun ⟨fields, hfields, _⟩ => hobject ⟨fields, hfields⟩
      refine ⟨iff_of_false nofun hform, fun fault hfault => ?_⟩
      obtain rfl : Fault.documentNotObject document = fault := Except.error.inj hfault
      have hreported : (Fault.documentNotObject document).IsReportedAs .documentFormat :=
        ⟨_, rfl, rfl⟩
      simp [hreported.iff, hreported.ne_none, hobject]

/-- A graph of nodes that are skipped, an edge without an id of a kind that is not known, and a name
that counts as not given. -/
example : ((ofDocument ⟨noon, "0001"⟩ (.ok {}) (.obj [("name", .bool false), ("nodes", .str "ab"),
    ("edges", .arr [.null, .obj [("source", .str "a"), ("target", .str "b"), ("type", .int 7)]])])
    ).result.map fun w => (w.nodeIds, w.edgeIds)) = .ok ([], ["edge-2"]) := by
  rfl

/-- A node whose id is a number is refused, and this is not reported. -/
theorem ofDocument_unreported :
    ∃ fault, (ofDocument ⟨noon, "0001"⟩ (.ok {}) (.obj [("nodes", .arr [
      .obj [("id", .int 1), ("type", .str "llm")]])])).result = .error fault ∧
      fault = .invalid "Node" [⟨[.key "id"], .text⟩] ∧ fault.report? = none :=
  ⟨_, rfl, rfl, rfl⟩

end Workflow

end WorkflowGraph
