import WorkflowGraph.Proofs.Place
import WorkflowGraph.Proofs.Reference.Repeated
import WorkflowGraph.Proofs.Resolution

/-!
# What can be resolved and written

A reference to the place of an output is resolved, or left as it is, unless the place has more digits
than are read and has to be counted to. The references of a workflow can be resolved, and its documents
written, exactly if there is no such reference among those concerned; for a document, nothing may be
nested too deep besides. Main statement: `resolved_and_written_iff`.
-/

namespace WorkflowGraph

namespace Reference

variable {nodes : List Node} {v u : Json}

/-- The value is a reference to a place of one of the nodes by more digits than are read, and no output
is named by these digits. -/
def IsOverlong (nodes : List Node) (v : Json) : Prop :=
  ∃ s r n, v = .str s ∧ isTemplate s = false ∧ Numbered.ofText? s = some r ∧
    nodeOf? nodes r.node = some n ∧ r.place ∉ n.outputNames ∧ maxPlaceDigits < r.digits.length

theorem isResolvable_iff : isResolvable nodes v = true ↔ ¬IsOverlong nodes v := by
  cases v with
  | str s =>
    simp only [isResolvable, isResolvableText, Bool.or_eq_true, Option.all_eq_true,
      List.contains_iff_mem, decide_eq_true_eq]
    constructor
    · rintro h ⟨t, r, n, ht, hplain, hr, hn, hplace, hlong⟩
      obtain rfl := Json.str.inj ht
      rw [hplain] at h
      rcases h.resolve_left Bool.false_ne_true r hr n hn with hmem | hle
      · exact hplace hmem
      · omega
    · intro h
      by_cases htemplate : isTemplate s = true
      · exact Or.inl htemplate
      · refine Or.inr fun r hr n hn => ?_
        by_contra hneither
        rw [not_or, Nat.not_le] at hneither
        exact h ⟨s, r, n, rfl, Bool.not_eq_true _ ▸ htemplate, hr, hn, hneither.1, hneither.2⟩
  | _ =>
    refine iff_of_true rfl ?_
    rintro ⟨s, r, n, hs, -⟩
    cases hs

/-- A value is resolved to itself if it counts to no output, and else to the reference to this output by
its name. -/
theorem eq_or_countsTo (hu : (resolve nodes v).result = .ok u) :
    (u = v ∧ ∀ n name, ¬CountsTo nodes v n name) ∨
      ∃ n name, CountsTo nodes v n name ∧ u = .str (make n.id name) := by
  obtain ⟨-, rfl⟩ := result_resolve_eq_ok_iff.1 hu
  cases v with
  | str s =>
    rcases resolvedText_eq nodes s with ⟨hsame, hnone⟩ | ⟨r, name, hplain, hr, hname, hmade⟩
    · refine Or.inl ⟨congrArg Json.str hsame, ?_⟩
      rintro n name ⟨t, r, ht, hplain, hr, -, hname⟩
      obtain rfl := Json.str.inj ht
      rw [hnone r hplain hr] at hname
      cases hname
    · obtain ⟨n, hn, -⟩ := Option.bind_eq_some_iff.1 hname
      have hid : n.id = r.node := by simpa using List.find?_some hn
      refine Or.inr ⟨n, name, ⟨s, r, rfl, hplain, hr, hn, hname⟩, ?_⟩
      rw [resolved, hmade, hid]
  | _ =>
    refine Or.inl ⟨rfl, ?_⟩
    rintro n name ⟨s, r, hs, -⟩
    cases hs

theorem exists_fault_of_isOverlong (h : IsOverlong nodes v) :
    ∃ digits, maxPlaceDigits < digits ∧ (resolve nodes v).result = .error (.tooManyDigits digits) := by
  obtain ⟨s, r, n, rfl, hplain, hr, hn, hplace, hlong⟩ := h
  have hcontains : n.outputNames.contains r.place = false := by
    rw [← Bool.not_eq_true, List.contains_iff_mem]
    exact hplace
  have hfault : resolveText nodes s = throw (.tooManyDigits r.digits.length) := by
    simp only [resolveText, hplain, hr, resolveNumbered, hn, hcontains, hlong, Bool.false_eq_true,
      ite_false, ite_true]
  refine ⟨r.digits.length, hlong, ?_⟩
  rw [resolve, hfault]
  rfl

/-- Resolving fails for too many digits only. -/
theorem fault_of_resolve {fault : Fault} (h : (resolve nodes v).result = .error fault) :
    ∃ digits, maxPlaceDigits < digits ∧ fault = .tooManyDigits digits := by
  have hoverlong : IsOverlong nodes v := by
    by_contra hnot
    have hok := result_resolve_eq_ok_iff.2 ⟨isResolvable_iff.2 hnot, rfl⟩
    rw [h] at hok
    cases hok
  obtain ⟨digits, hlong, hfault⟩ := exists_fault_of_isOverlong hoverlong
  exact ⟨digits, hlong, Except.error.inj (h.symm.trans hfault)⟩

theorem not_isOverlong_of_isReadable (h : isReadable v = true) : ¬IsOverlong nodes v :=
  isResolvable_iff.1 (isResolvable_of_isReadable nodes h)

theorem isResolvablePort_iff {p : Port} :
    isResolvablePort nodes p = true ↔ (p.binding = .connection → ¬IsOverlong nodes p.value) := by
  rw [isResolvablePort, Bool.or_eq_true, decide_eq_true_eq, isResolvable_iff]
  exact imp_iff_not_or.symm

end Reference

/-- A port that is not set is written as the name of a type, which is no reference. -/
theorem Port.isOverlong_toWire_iff {nodes : List Node} {p : Port} :
    Reference.IsOverlong nodes p.toWire ↔ Reference.IsOverlong nodes p.value := by
  rcases toWire_eq p with ⟨hunset, hp⟩ | ⟨-, hp⟩
  · have hblank : p.value.isBlank = true := by
      rw [isUnset, Bool.and_eq_true] at hunset
      exact hunset.2
    have hvalue : Reference.isReadable p.value = true := by
      refine isReadable_of_referenceHead? ?_
      by_contra hhead
      rw [Json.isBlank_of_referenceHead? hhead] at hblank
      cases hblank
    rw [hp]
    exact iff_of_false
      (Reference.not_isOverlong_of_isReadable
        (isReadable_of_referenceHead? (DataType.referenceHead?_name _)))
      (Reference.not_isOverlong_of_isReadable hvalue)
  · rw [hp]

/-! ## Nodes -/

/-- No reference of the node has too many digits, and no parameter of a tool is nested too deep. -/
structure Node.IsWritableAmong (nodes : List Node) (n : Node) : Prop where
  inputs_counted : ∀ e ∈ n.inputs.entries, ¬Reference.IsOverlong nodes e.2.value
  settings_shallow : ∀ c, n.config = some c → c.isStorable = true

theorem Spec.isCompilable_iff {nodes : List WorkflowGraph.Node} {n : WorkflowGraph.Node} :
    isCompilable nodes n = true ↔ n.IsWritableAmong nodes := by
  rw [isCompilable, Bool.and_eq_true, List.all_eq_true, Option.all_eq_true]
  constructor
  · rintro ⟨hinputs, hsettings⟩
    refine ⟨fun e he => ?_, hsettings⟩
    have hport := hinputs e (Table.mem_override_of_mem he)
    rwa [Reference.isResolvable_iff, Port.isOverlong_toWire_iff] at hport
  · rintro ⟨hinputs, hsettings⟩
    refine ⟨fun e he => ?_, hsettings⟩
    rw [Reference.isResolvable_iff, Port.isOverlong_toWire_iff]
    rcases Table.mem_override he with hown | ⟨hdefault, -⟩
    · exact hinputs e hown
    · exact Reference.not_isOverlong_of_isReadable
        (isPortable_defaultInputs n.kind e hdefault).value_readable

/-! ## Workflows -/

/-- A document of the shape tells of the node. -/
def Shape.tellsOf (shape : Shape) (n : Node) : Prop :=
  n.isTerminal = true → shape ≠ .backend

namespace Workflow

variable {w : Workflow} {shape : Shape}

theorem isCompilable_iff :
    w.isCompilable shape = true ↔ ∀ n ∈ w.nodes, shape.tellsOf n → n.IsWritableAmong w.nodes := by
  simp only [isCompilable, Spec.listedNodes, Bool.and_eq_true, Bool.or_eq_true, List.all_eq_true,
    Spec.isCompilable_iff, List.mem_filter, Shape.tellsOf]
  cases shape with
  | backend => simp [Shape.keepsTerminals, Shape.keepsMetadata]
  | simple => simp [Shape.keepsTerminals, Shape.keepsMetadata]
  | enhanced =>
    simp only [Shape.keepsTerminals, Shape.keepsMetadata]
    constructor
    · rintro ⟨hlisted, hkept⟩ n hn -
      cases hterminal : n.isTerminal with
      | true => exact hkept.resolve_left (by simp) n ⟨hn, hterminal⟩
      | false => exact hlisted n ⟨hn, by simp [hterminal]⟩
    · intro h
      exact ⟨fun n hn => h n hn.1 fun _ => by simp, Or.inr fun n hn => h n hn.1 fun _ => by simp⟩

theorem exists_resolveReferences_iff : (∃ r, w.resolveReferences.result = .ok r) ↔
    ∀ n ∈ w.nodes, ∀ e ∈ n.inputs.entries,
      e.2.binding = .connection → ¬Reference.IsOverlong w.nodes e.2.value := by
  simp only [result_resolveReferences_eq_ok_iff, exists_and_left, exists_eq, and_true,
    List.all_eq_true, Node.isResolvable, Reference.isResolvablePort_iff]

theorem exists_toSpecDocument_iff {now : Timestamp} {settings : Settings} :
    (∃ document, (w.toSpecDocument now settings shape).result = .ok document) ↔
      (∀ n ∈ w.nodes, shape.tellsOf n → n.IsWritableAmong w.nodes) ∧
        (w.compiled now settings shape).isStorable = true := by
  simp only [result_toSpecDocument_eq_ok_iff, isCompilable_iff, exists_and_left, exists_eq, and_true]

/-- A value is resolved, and then to itself or by the name of the output that it counts to, exactly if
it has no more digits than are read; there is no other way to fail. The references of a workflow are
resolved exactly if each is, and a workflow is written exactly if this holds of all nodes that the
document tells of and nothing in it is nested too deep. -/
theorem resolved_and_written_iff (nodes : List Node) (v : Json) (w : Workflow) (now : Timestamp)
    (settings : Settings) (shape : Shape) :
    ((∃ u, (Reference.resolve nodes v).result = .ok u) ↔ ¬Reference.IsOverlong nodes v) ∧
      (∀ u, (Reference.resolve nodes v).result = .ok u →
        (u = v ∧ ∀ n name, ¬Reference.CountsTo nodes v n name) ∨
          ∃ n name, Reference.CountsTo nodes v n name ∧ u = .str (Reference.make n.id name)) ∧
      (∀ fault, (Reference.resolve nodes v).result = .error fault →
        ∃ digits, Reference.maxPlaceDigits < digits ∧ fault = .tooManyDigits digits) ∧
      ((∃ r, w.resolveReferences.result = .ok r) ↔
        ∀ n ∈ w.nodes, ∀ e ∈ n.inputs.entries,
          e.2.binding = .connection → ¬Reference.IsOverlong w.nodes e.2.value) ∧
      ((∃ document, (w.toSpecDocument now settings shape).result = .ok document) ↔
        (∀ n ∈ w.nodes, shape.tellsOf n → n.IsWritableAmong w.nodes) ∧
          (w.compiled now settings shape).isStorable = true) := by
  refine ⟨?_, fun u hu => Reference.eq_or_countsTo hu, fun fault h => Reference.fault_of_resolve h,
    exists_resolveReferences_iff, exists_toSpecDocument_iff⟩
  simp only [Reference.result_resolve_eq_ok_iff, Reference.isResolvable_iff, exists_and_left,
    exists_eq, and_true]

/-! ## A place of too many digits -/

/-- A reference to the place of an output by one digit more than are read. -/
def overlongReference (node : String) : String :=
  Reference.make node (String.ofList (List.replicate (Reference.maxPlaceDigits + 1) '9'))

theorem isOverlong_overlongReference :
    Reference.IsOverlong questions.nodes (.str (overlongReference "ask")) := by
  -- the text is too long to be evaluated, so its digits are told by lemmas
  have hdigit : ∀ c ∈ List.replicate (Reference.maxPlaceDigits + 1) '9', Text.isDigit c = true := by
    intro c hc
    rw [List.eq_of_mem_replicate hc]
    rfl
  have hne : List.replicate (Reference.maxPlaceDigits + 1) '9' ≠ [] := by
    rw [List.replicate_succ]
    exact List.cons_ne_nil _ _
  have hnumbered : Reference.Numbered.ofText? (overlongReference "ask") =
      some ⟨"ask", List.replicate (Reference.maxPlaceDigits + 1) '9'⟩ := by
    rw [overlongReference, Reference.Numbered.ofText?_of_head (by decide) (by decide)
      (Reference.toList_make _ _), String.toList_ofList,
      Reference.digitsOf?_eq_self hne hdigit]
    rfl
  obtain ⟨n, hn, hnames⟩ : ∃ n, Reference.nodeOf? questions.nodes "ask" = some n ∧
      n.outputNames = ["value"] := ⟨_, rfl, rfl⟩
  refine ⟨_, _, n, rfl, Reference.isTemplate_make (by decide) _, hnumbered, hn, ?_, ?_⟩
  · rw [hnames, List.mem_singleton, Reference.Numbered.place, ← String.toList_inj,
      String.toList_ofList, List.replicate_succ]
    intro h
    cases h
  · rw [List.length_replicate]
    exact Nat.lt_succ_self _

/-- The place of an output is counted to, one of too many digits is not, and the questions are resolved
and written. -/
theorem resolved_and_written_questions :
    (∃ n name, Reference.CountsTo questions.nodes (.str "$ask.0") n name ∧
        (Reference.resolve questions.nodes (.str "$ask.0")).result =
          .ok (.str (Reference.make n.id name))) ∧
      (∃ digits, Reference.maxPlaceDigits < digits ∧
        (Reference.resolve questions.nodes (.str (overlongReference "ask"))).result =
          .error (.tooManyDigits digits)) ∧
      (∃ r, questions.resolveReferences.result = .ok r) ∧
      ∃ document, (questions.toSpecDocument noon {} .backend).result = .ok document := by
  have hreadable : ∀ n ∈ questions.nodes, ∀ e ∈ n.inputs.entries,
      Reference.isReadable e.2.value = true := by decide
  have hcounted : ∀ n ∈ questions.nodes, ∀ e ∈ n.inputs.entries,
      ¬Reference.IsOverlong questions.nodes e.2.value :=
    fun n hn e he => Reference.not_isOverlong_of_isReadable (hreadable n hn e he)
  have hsettings : ∀ n ∈ questions.nodes, n.config.all NodeConfig.isStorable = true := by decide
  obtain ⟨-, hvalue, -, hreferences, hdocument⟩ :=
    resolved_and_written_iff questions.nodes (.str "$ask.0") questions noon {} .backend
  obtain ⟨-, -, hfault, -⟩ := resolved_and_written_iff questions.nodes
    (.str (overlongReference "ask")) questions noon {} .backend
  refine ⟨?_, ?_, hreferences.2 fun n hn e he _ => hcounted n hn e he, hdocument.2 ⟨?_, ?_⟩⟩
  · have honce : (Reference.resolve questions.nodes (.str "$ask.0")).result =
        .ok (.str "$ask.value") := rfl
    rcases hvalue _ honce with ⟨hsame, -⟩ | ⟨n, name, hcounts, hmade⟩
    · exact absurd hsame (by decide)
    · exact ⟨n, name, hcounts, honce.trans (congrArg Except.ok hmade)⟩
  · obtain ⟨_, -, hfails⟩ := Reference.exists_fault_of_isOverlong isOverlong_overlongReference
    obtain ⟨digits, hlong, hdigits⟩ := hfault _ hfails
    exact ⟨digits, hlong, hfails.trans (congrArg Except.error hdigits)⟩
  · intro n hn _
    exact ⟨hcounted n hn, (Option.all_eq_true _ _).1 (hsettings n hn)⟩
  · decide +kernel

/-- Resolving fails for a reference to a node that is there. -/
theorem not_resolved_overlongReference :
    ¬∃ u, (Reference.resolve questions.nodes (.str (overlongReference "ask"))).result = .ok u := by
  rintro ⟨u, hu⟩
  obtain ⟨digits, -, hfault⟩ := Reference.exists_fault_of_isOverlong isOverlong_overlongReference
  rw [hu] at hfault
  cases hfault

end Workflow

end WorkflowGraph
