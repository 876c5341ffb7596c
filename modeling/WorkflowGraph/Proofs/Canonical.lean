import WorkflowGraph.Proofs.RoundTrip
import WorkflowGraph.Proofs.Spec.Regular

/-!
# The canonical form of a document

A document from outside is made canonical by reading it as a workflow and writing that again. Names of
former kinds, missing ports and settings, numbered references, several groups of one source and
blank conditions are put right in the first pass; a second pass finds nothing to be put right. Main
statement: `canonicalize_canonicalize`.
-/

namespace WorkflowGraph.Workflow

/-- A document read as a workflow and written again in a shape. -/
def canonicalize (s : Surroundings) (now : Timestamp) (settings : Settings) (shape : Shape)
    (document : Json) : Attempt Json := do
  let w ← ofSpecDocument s (.ok settings) document
  w.toSpecDocument now settings shape

theorem result_canonicalize_eq_ok_iff {s : Surroundings} {now : Timestamp} {settings : Settings}
    {shape : Shape} {document c : Json} :
    (canonicalize s now settings shape document).result = .ok c ↔
      ∃ w, (ofSpecDocument s (.ok settings) document).result = .ok w ∧
        (w.toSpecDocument now settings shape).result = .ok c :=
  Attempt.result_bind_eq_ok_iff

/-- The workflow of a document that can be read is that of its spec. -/
theorem result_ofSpecDocument_eq_ok_iff {s : Surroundings} {settings : Settings} {document : Json}
    {w : Workflow} :
    (ofSpecDocument s (.ok settings) document).result = .ok w ↔
      ∃ spec, Spec.ofDocument document = .ok spec ∧ w = (spec.toWorkflow s settings).value := by
  simp only [ofSpecDocument, Attempt.result_bind_eq_ok_iff, Attempt.result_ofExcept,
    Attempt.result_ofLogged, Except.ok.injEq]
  constructor
  · rintro ⟨_, rfl, spec, hspec, rfl⟩
    exact ⟨spec, hspec, rfl⟩
  · rintro ⟨spec, hspec, rfl⟩
    exact ⟨settings, rfl, spec, hspec, rfl⟩

/-- Nodes of distinct ids, edges that lead somewhere, finite numbers, and references that are read
and stay as they are once they are resolved. -/
@[mk_iff]
structure IsRepeatable (w : Workflow) : Prop where
  nodeIds_nodup : w.nodeIds.Nodup
  target_nonempty : ∀ e ∈ w.edges, e.target ≠ ""
  ports_finite : ∀ n ∈ w.nodes, ∀ e ∈ n.inputs.entries, e.2.value.isFinite = true
  settings_finite : ∀ n ∈ w.nodes, n.HasFiniteSettings
  ports_readable : ∀ n ∈ w.nodes, ∀ e ∈ n.inputs.entries, Reference.isReadable e.2.value = true
  /-- The names of outputs are not read as places. -/
  names_readable : Reference.HaveReadableNames w.nodes

instance (w : Workflow) : Decidable w.IsRepeatable :=
  decidable_of_iff' _ (isRepeatable_iff w)

variable {s : Surroundings} {now : Timestamp} {settings : Settings} {shape : Shape} {w : Workflow}

/-- All nodes of a workflow that was read are portable, start and end nodes too. -/
theorem isPortable_of_mem_toWorkflow {spec : Spec}
    (h : (spec.toWorkflow s settings).value.IsRepeatable) {n : Node}
    (hn : n ∈ (spec.toWorkflow s settings).value.nodes) : n.IsPortable := by
  obtain ⟨m, -, hm⟩ := exists_restore_of_mem hn
  have hports := h.ports_finite n hn
  have hreadable := h.ports_readable n hn
  have hsettings := h.settings_finite n hn
  rw [← hm] at hports hreadable hsettings ⊢
  exact Spec.isPortable_restore (fun e he => ⟨hports e he, hreadable e he⟩) hsettings

/-- The nodes that a spec of the simple or the backend shape lists come back from it. -/
theorem listedNodes_restored (hnd : w.nodeIds.Nodup) (hr : w.IsRestorable)
    (hshape : shape ≠ .enhanced) :
    Spec.listedNodes shape (w.restored s now settings shape) =
      (Spec.listedNodes shape w).map fun n => Spec.restored w.nodes (keptPlace shape n) n := by
  have hall : ∀ v : Workflow, Spec.listedNodes .simple v = v.nodes :=
    fun v => List.filter_eq_self.2 fun _ _ => rfl
  cases shape with
  | simple => rw [hall, hall, nodes_restored hnd hr, keptNodes]
  | backend => exact inner_restored hnd hr
  | enhanced => exact absurd rfl hshape

/-- What is written of a workflow that was read is read as a workflow of which the same is
written. -/
theorem toSpecDocument_restored {spec : Spec} (hw : w = (spec.toWorkflow s settings).value)
    (h : w.IsRepeatable) (hshape : shape ≠ .enhanced) {c : Json}
    (hc : (w.toSpecDocument now settings shape).result = .ok c) (s' : Surroundings)
    (later : Timestamp) :
    (ofSpecDocument s' (.ok settings) c).result = .ok (w.restored s' now settings shape) ∧
      ((w.restored s' now settings shape).toSpecDocument later settings shape).result = .ok c := by
  obtain ⟨hcompilable, hstorable, rfl⟩ := result_toSpecDocument_eq_ok_iff.1 hc
  have hport : ∀ n ∈ w.nodes, n.IsPortable := by
    subst hw
    exact fun n hn => isPortable_of_mem_toWorkflow h hn
  have hlisted : ∀ n ∈ Spec.listedNodes shape w, n.IsPortable :=
    fun n hn => hport n (List.mem_filter.1 hn).1
  have hr : w.IsRestorable := fun n hn => (hport n (List.mem_filter.1 hn).1).isRestorable
  -- in a workflow of a spec, a sentinel is the end of an edge only where no node stands for it
  have hedges : w.HasResolvedEdges := by
    subst hw
    exact ⟨resolvesStart_toWorkflow s settings spec, resolvesEnd_toWorkflow s settings spec,
      h.target_nonempty⟩
  have hkept : Spec.listedNodes shape (w.restored s' now settings shape) =
      (Spec.listedNodes shape w).map fun n => Spec.restored w.nodes (keptPlace shape n) n :=
    listedNodes_restored h.nodeIds_nodup hr hshape
  have hdata : shape.keepsMetadata = false := by
    cases shape with
    | enhanced => exact absurd rfl hshape
    | _ => rfl
  have hplace : shape.keepsPositions = true → shape ≠ .backend := by
    rintro hwritten rfl
    cases hwritten
  have hcompiled := compiled_restored_in shape h.nodeIds_nodup hr h.names_readable hedges hlisted
    hkept hplace hdata now later
  refine ⟨result_ofSpecDocument s' now settings shape w, result_toSpecDocument_eq_ok_iff.2 ?_⟩
  rw [hcompiled]
  exact ⟨isCompilable_restored_in shape h.nodeIds_nodup hr h.names_readable hlisted hkept hdata
    hcompilable, hstorable, rfl⟩

/-- The canonical form of a document in the simple or the backend shape is its own canonical form,
whatever the document was and whenever it is read again. Two passes fail only where one does, and
with the same fault; a document that is read as a workflow that can be written has a canonical
form. -/
theorem canonicalize_canonicalize (s s' : Surroundings) (now later : Timestamp)
    (settings : Settings) {document : Json}
    (hread : (ofSpecDocument s (.ok settings) document).result = .ok w) (h : w.IsRepeatable)
    (hshape : shape = .simple ∨ shape = .backend) :
    (canonicalize s now settings shape document >>=
      canonicalize s' later settings shape).result =
      (canonicalize s now settings shape document).result ∧
    (w.IsWritable → ∃ c, (canonicalize s now settings shape document).result = .ok c) := by
  constructor
  · rw [Attempt.result_bind]
    -- there is no second pass where the first one fails
    cases hc : (canonicalize s now settings shape document).result with
    | error fault => rfl
    | ok c =>
      obtain ⟨w', hread', hwritten⟩ := result_canonicalize_eq_ok_iff.1 hc
      obtain rfl := Except.ok.inj (hread.symm.trans hread')
      obtain ⟨spec, -, hw⟩ := result_ofSpecDocument_eq_ok_iff.1 hread
      have hne : shape ≠ .enhanced := by
        rintro rfl
        rcases hshape with hshape | hshape <;> cases hshape
      exact result_canonicalize_eq_ok_iff.2
        ⟨_, toSpecDocument_restored hw h hne hwritten s' later⟩
  · intro hwritable
    obtain ⟨c, hc⟩ := hwritable.exists_document now settings shape
    exact ⟨c, result_canonicalize_eq_ok_iff.2 ⟨w, hread, hc⟩⟩

/-- A spec as it was written by hand: a former kind, a setting as a text, a port without a value, a
reference by place, a blank condition, and the edges of one source in two groups. -/
def handwritten : Spec where
  version := "0.9"
  id := none
  name := "Answers"
  description := none
  nodes := [
    { id := "begin", type := "start", label := none, inputs := .empty, outputs := .empty
      position := none },
    { id := "ask", type := "input", label := some ""
      inputs := .ofList [("prompt", .str "Go on?"), ("timeout", .str "30"), ("message", .null)]
      outputs := .empty, position := none },
    { id := "answer", type := "llm", label := none
      inputs := .ofList [("user_prompt", .str "$ask.0"), ("max_tokens", .str "many")]
      outputs := .empty, position := none }]
  groups := [
    ⟨"ask", { nodes := some ["answer"], fallback := some "__end__" }⟩,
    ⟨"__start__", { nodes := some ["ask"] }⟩,
    ⟨"ask", { branches := some [⟨" ", "begin"⟩], fallback := some "ask" }⟩]
  metadata := none

/-- What is written by hand is canonical after one pass in the backend shape. -/
theorem canonicalize_canonicalize_handwritten :
    ∃ c, (canonicalize ⟨noon, "0001"⟩ noon {} .backend handwritten.toJson).result = .ok c ∧
      (canonicalize ⟨noon, "0002"⟩ noon {} .backend c).result = .ok c := by
  have hread := Spec.result_ofSpecDocument_toJson ⟨noon, "0001"⟩ {} handwritten
  have h := canonicalize_canonicalize ⟨noon, "0001"⟩ ⟨noon, "0002"⟩ noon noon {} hread (by decide)
    (Or.inr rfl : Shape.backend = .simple ∨ Shape.backend = .backend)
  obtain ⟨c, hc⟩ := h.2 (by decide)
  obtain ⟨c', hc', hagain⟩ := Attempt.result_bind_eq_ok_iff.1 (h.1.trans hc)
  obtain rfl := Except.ok.inj (hc.symm.trans hc')
  exact ⟨c, hc, hagain⟩

end WorkflowGraph.Workflow
